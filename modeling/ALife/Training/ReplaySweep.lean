/-
# The backward step is the transpose of the tangent

Each row of adjoints is read through its pairing with the velocity of its state,
the gradient through its pairing with the velocity of the weights.  The loops of a
backward step add to the row of the state before the step and to the gradient
(`value_sweepSynapse`, `value_sweepEdge`, `value_sweepBranch`), and together they
hand on what the row of the state after the step was worth (`handsBack`).
-/

import ALife.Training.ReplayTangents

namespace ALife

open Machine

namespace CpuReplay

variable {p : BrainPhenotype ℝ}

namespace Adjoints

/-- Row `j`, paired with the velocity of its state. -/
def rowValue (T : ℕ → ReplayState p) (s : Adjoints p) (j : ℕ) : ℝ :=
  s.ga j ⬝ᵥ (T j).a + s.gm j ⬝ᵥ (T j).m

/-- The gradient, paired with the velocity of the weights. -/
def paramValue (dw : p.Synapse → ℝ) (s : Adjoints p) : ℝ := s.gradients ⬝ᵥ dw

variable {T : ℕ → ReplayState p} {dw : p.Synapse → ℝ}

theorem addAt_dotProduct {ι : Type} [Fintype ι] [DecidableEq ι] (f : ι → ℝ) (i : ι) (v : ℝ)
    (u : ι → ℝ) : addAt f i v ⬝ᵥ u = f ⬝ᵥ u + v * u i := by
  rw [addAt_eq_add_single, add_dotProduct, single_dotProduct]

theorem rowValue_addGa (s : Adjoints p) (k : ℕ) (i : p.Neuron) (v : ℝ) :
    (s.addGa k i v).rowValue T k = s.rowValue T k + v * (T k).a i := by
  simp only [rowValue, addGa, Function.update_self, addAt_dotProduct]
  ring

theorem rowValue_addGa_of_ne (s : Adjoints p) {k j : ℕ} (i : p.Neuron) (v : ℝ) (h : j ≠ k) :
    (s.addGa k i v).rowValue T j = s.rowValue T j := by
  simp only [rowValue, addGa, Function.update_of_ne h]

theorem rowValue_addGradient (s : Adjoints p) (id : p.Synapse) (v : ℝ) (j : ℕ) :
    (s.addGradient id v).rowValue T j = s.rowValue T j := by
  simp only [rowValue, addGradient]

theorem paramValue_addGradient (s : Adjoints p) (id : p.Synapse) (v : ℝ) :
    (s.addGradient id v).paramValue dw = s.paramValue dw + v * dw id :=
  addAt_dotProduct _ _ _ _

theorem rowValue_addRows (s : Adjoints p) (k : ℕ) (a m : p.Neuron → ℝ) :
    (s.addRows k a m).rowValue T k = s.rowValue T k + (a ⬝ᵥ (T k).a + m ⬝ᵥ (T k).m) := by
  simp only [rowValue, addRows, addAt_same, add_dotProduct]
  ring

theorem rowValue_addRows_of_ne (s : Adjoints p) {k j : ℕ} (a m : p.Neuron → ℝ) (h : j ≠ k) :
    (s.addRows k a m).rowValue T j = s.rowValue T j := by
  simp only [rowValue, addRows, addAt_of_ne _ _ h]

/-- What a step may change: row `k` and the gradient. -/
def stepValue (T : ℕ → ReplayState p) (dw : p.Synapse → ℝ) (k : ℕ) (s : Adjoints p) : ℝ :=
  s.rowValue T k + s.paramValue dw

theorem stepValue_addGa (s : Adjoints p) (k : ℕ) (i : p.Neuron) (v : ℝ) :
    (s.addGa k i v).stepValue T dw k = s.stepValue T dw k + v * (T k).a i := by
  rw [stepValue, rowValue_addGa, stepValue, add_right_comm]
  rfl

theorem stepValue_addGradient (s : Adjoints p) (k : ℕ) (id : p.Synapse) (v : ℝ) :
    (s.addGradient id v).stepValue T dw k = s.stepValue T dw k + v * dw id := by
  rw [stepValue, paramValue_addGradient, stepValue, add_assoc]
  rfl

theorem stepValue_addRows (s : Adjoints p) (k : ℕ) (a m : p.Neuron → ℝ) :
    (s.addRows k a m).stepValue T dw k
      = s.stepValue T dw k + (a ⬝ᵥ (T k).a + m ⬝ᵥ (T k).m) := by
  rw [stepValue, rowValue_addRows, stepValue, add_right_comm]
  rfl

end Adjoints

open Adjoints

namespace SparseGraph

variable {g : SparseGraph p} {weights dw : p.Synapse → ℝ} {q : TrainingSequence p}
  {T : ℕ → ReplayState p}

section Loops

variable (tick : TrainingReplayTick p) (step k : ℕ) (a δ : p.Neuron → ℝ)

theorem value_sweepSynapse (target : p.Neuron) (s : Adjoints p) (id : p.Synapse) :
    (sweepSynapse weights tick step a δ k target s id).stepValue T dw k = s.stepValue T dw k
      + δ target * tick.projectionGain * (if active tick step id then
          (T k).a (p.synapses id).source * (weights id + tick.effectiveWeightOffsets id)
            + a (p.synapses id).source * dw id
        else 0) := by
  unfold sweepSynapse
  split_ifs
  · rw [stepValue_addGa, stepValue_addGradient]
    ring
  · ring

theorem value_sweepEdge (s : Adjoints p) (e : TrainingFrozenSynapse p) :
    (sweepEdge tick step δ k s e).stepValue T dw k = s.stepValue T dw k
      + δ e.target * (tick.projectionGain
        * if edgeActive tick step e then (T k).a e.source * e.effectiveWeight else 0) := by
  unfold sweepEdge
  split_ifs
  · rw [stepValue_addGa]
    ring
  · ring

theorem value_sweepBranch (s : Adjoints p) (b : DendriticBranch ℝ p.neuronCount) :
    (sweepBranch tick a δ k s b).stepValue T dw k = s.stepValue T dw k
      + δ b.target * (tick.projectionGain * branchTangent a (T k).a b) := by
  unfold sweepBranch branchTangent
  split_ifs
  · dsimp only
    rw [foldl_add_of_step (π := Adjoints.stepValue T dw k)
      (fun s input => stepValue_addGa s k input.source _)]
    refine congrArg (s.stepValue T dw k + ·) ?_
    calc (b.inputs.map fun input => δ b.target * tick.projectionGain * b.outputGain
            * (1 - Real.tanh (excess a b) * Real.tanh (excess a b)) * input.weight
            * (T k).a input.source).sum
        = (b.inputs.map fun input => δ b.target * tick.projectionGain * b.outputGain
            * (1 - Real.tanh (excess a b) * Real.tanh (excess a b))
            * ((T k).a input.source * input.weight)).sum := by
          refine congrArg List.sum (List.map_congr_left fun input _ => ?_)
          ring
      _ = _ := by
          rw [List.sum_map_mul_left]
          ring
  · ring

theorem row_sweepSynapse {j : ℕ} (hj : j ≠ k) (target : p.Neuron) (s : Adjoints p)
    (id : p.Synapse) :
    (sweepSynapse weights tick step a δ k target s id).rowValue T j = s.rowValue T j := by
  unfold sweepSynapse
  split_ifs
  · rw [rowValue_addGa_of_ne _ _ _ hj, rowValue_addGradient]
  · rfl

theorem row_sweepEdge {j : ℕ} (hj : j ≠ k) (s : Adjoints p) (e : TrainingFrozenSynapse p) :
    (sweepEdge tick step δ k s e).rowValue T j = s.rowValue T j := by
  unfold sweepEdge
  split_ifs
  · exact rowValue_addGa_of_ne _ _ _ hj
  · rfl

theorem row_sweepBranch {j : ℕ} (hj : j ≠ k) (s : Adjoints p)
    (b : DendriticBranch ℝ p.neuronCount) :
    (sweepBranch tick a δ k s b).rowValue T j = s.rowValue T j := by
  unfold sweepBranch
  split_ifs
  · dsimp only
    refine foldl_keeps (π := fun s : Adjoints p => s.rowValue T j) (fun s input => ?_) b.inputs s
    exact rowValue_addGa_of_ne s _ _ hj
  · rfl

end Loops

/-- What the loops of a step add in sum: the deltas paired with the velocity of the drive. -/
theorem sum_delta_drive (tick : TrainingReplayTick p) (step : ℕ) (a da δ : p.Neuron → ℝ)
    (dendrites : DendriticBranchSet ℝ p.neuronCount) :
    ∑ i, δ i * (tick.projectionGain
        * (g.synapticTangent weights dw tick step a da i + dendriticTangent dendrites a da i))
      = (∑ i, ((g.incomingAt i step).map fun id => δ i * tick.projectionGain
          * (if active tick step id then
              da (p.synapses id).source * (weights id + tick.effectiveWeightOffsets id)
                + a (p.synapses id).source * dw id
            else 0)).sum)
        + (tick.structuralSynapses.map fun e => δ e.target * (tick.projectionGain
          * if edgeActive tick step e then da e.source * e.effectiveWeight else 0)).sum
        + (dendrites.branches.map fun b =>
          δ b.target * (tick.projectionGain * branchTangent a da b)).sum := by
  rw [← sum_mul_sum_filter δ (fun e : TrainingFrozenSynapse p => e.target),
    ← sum_mul_sum_filter δ (fun b : DendriticBranch ℝ p.neuronCount => b.target),
    ← Finset.sum_add_distrib, ← Finset.sum_add_distrib]
  refine Finset.sum_congr rfl fun i _ => ?_
  rw [synapticTangent, dendriticTangent, DendriticBranchSet.branchesAt_eq_filter,
    List.sum_map_mul_left, List.sum_map_mul_left, List.sum_map_mul_left]
  ring

variable (g weights dw) in
/-- What the row after a microstep is worth, neuron by neuron. -/
theorem adjoint_microstepTangent (dendrites : DendriticBranchSet ℝ p.neuronCount)
    (tick : TrainingReplayTick p) (step : ℕ) (s ds : ReplayState p) (gaNext gmNext : p.Neuron → ℝ)
    {r : Microstep p} (hr : r = g.microstep weights dendrites tick step s.a s.m 0)
    {δ : p.Neuron → ℝ} (hδ : δ = delta r.next s.m r.act gaNext gmNext) :
    gaNext ⬝ᵥ (g.microstepTangent weights dw dendrites tick step s ds).a
        + gmNext ⬝ᵥ (g.microstepTangent weights dw dendrites tick step s ds).m
      = ((fun i => outputAdjoint r.next s.m gaNext gmNext i * (1 - (p.neuronDynamics i).leak))
            ⬝ᵥ ds.a
          + (fun i => gmNext i * metabolicGate r.next s.m i * (p.neuronDynamics i).metabolicDecay
            - δ i * (p.neuronDynamics i).homeostaticGain) ⬝ᵥ ds.m)
        + ∑ i, δ i * (tick.projectionGain * (g.synapticTangent weights dw tick step s.a ds.a i
          + dendriticTangent dendrites s.a ds.a i)) := by
  subst hr hδ
  simp only [dotProduct, ← Finset.sum_add_distrib]
  refine Finset.sum_congr rfl fun i _ => ?_
  simp only [microstepTangent, preactivationTangent, delta, outputAdjoint]
  ring

/-- **A backward step hands back** what the row behind it was worth. -/
theorem handsBack {tape : Tape p}
    (htape : g.Recorded weights q tape (q.ticks.length * p.microstepCount)) {k : ℕ}
    (hk : k < q.ticks.length * p.microstepCount)
    (hT : ∀ tick, q.ticks[k / p.microstepCount]? = some tick →
      T (k + 1) = g.tangentStep weights dw q.initial.dendrites tick (k % p.microstepCount)
        (g.stateAt weights q k) (T k)) :
    HandsBack (fun s j => s.rowValue T j) (Adjoints.paramValue dw)
      (g.backwardStep weights q tape) k := by
  have hlt : k / p.microstepCount < q.ticks.length :=
    Nat.div_lt_of_lt_mul (by rwa [Nat.mul_comm] at hk)
  obtain ⟨tick, htick⟩ : ∃ tick, q.ticks[k / p.microstepCount]? = some tick :=
    ⟨_, List.getElem?_eq_getElem hlt⟩
  have hnext := hT tick htick
  unfold tangentStep at hnext
  refine ⟨fun s j hj => ?_, fun s => ?_⟩
  · simp only [backwardStep, htick]
    split_ifs with hlate
    · exact rowValue_addRows_of_ne s _ _ hj
    · rw [foldl_keeps (π := fun s : Adjoints p => s.rowValue T j)
          (row_sweepBranch tick k _ _ hj),
        foldl_keeps (π := fun s : Adjoints p => s.rowValue T j)
          (row_sweepEdge tick _ k _ hj),
        foldl_keeps (π := fun s : Adjoints p => s.rowValue T j)
          fun s target => foldl_keeps (π := fun s : Adjoints p => s.rowValue T j)
            (row_sweepSynapse tick _ k _ _ hj target) _ s,
        rowValue_addRows_of_ne s _ _ hj]
  · change Adjoints.stepValue T dw k _ = _
    simp only [backwardStep, htick]
    split_ifs at hnext ⊢ with hlate
    · rw [stepValue_addRows, ← hnext, stepValue]
      simp only [rowValue]
      ring
    · have hact : g.activatedAt weights q k = (g.microstep weights q.initial.dendrites tick
          (k % p.microstepCount) (g.stateAt weights q k).a (g.stateAt weights q k).m 0).act := by
        simp only [activatedAt, htick, if_neg hlate]
      have hout : (g.stateAt weights q (k + 1)).a = (g.microstep weights q.initial.dendrites tick
          (k % p.microstepCount) (g.stateAt weights q k).a (g.stateAt weights q k).m 0).next := by
        simp only [stateAt, stepAt, htick, tickStep, if_neg hlate]
      rw [htape.get_a (by omega), htape.get_a (by omega), htape.get_m (by omega),
        htape.get_activated hk, hout, hact,
        foldl_add_of_step (π := Adjoints.stepValue T dw k)
          (value_sweepBranch tick k (g.stateAt weights q k).a _),
        foldl_add_of_step (π := Adjoints.stepValue T dw k) (value_sweepEdge tick _ k _),
        foldl_add_of_step (π := Adjoints.stepValue T dw k) fun s target =>
          foldl_add_of_step (value_sweepSynapse tick _ k _ _ target) _ s,
        stepValue_addRows, ← Fin.sum_univ_def, stepValue]
      have hworth := adjoint_microstepTangent g weights dw q.initial.dendrites tick
        (k % p.microstepCount) (g.stateAt weights q k) (T k)
        (s.ga (k + 1)) (s.gm (k + 1)) rfl rfl
      rw [sum_delta_drive, ← hnext] at hworth
      rw [rowValue, rowValue, hworth]
      ring

end SparseGraph

end CpuReplay

end ALife
