/-
# Tangents of the replay

When the weights move with a velocity `dw`, the states of the replay move with
the velocities that the tangent of each microstep computes from those before it
(`tangentStep`).  Away from the kinks of a step this is its derivative
(`hasDerivAt_tickStep`), and from a boundary that is held fixed the velocities of
all later states follow (`hasDerivAt_stateAt`).
-/

import ALife.Training.ReplayTape

namespace ALife

open Machine

namespace CpuReplay

attribute [local instance] atLeastTwo_two

/-- The replay over the real numbers. -/
noncomputable instance : FloatFunctions ℝ where
  exp := Real.exp
  tanh := Real.tanh

variable {p : BrainPhenotype ℝ}

/-- The derivative of an activation, read off its output. -/
theorem hasDerivAt_activate {x : ℝ} {kind : ActivationFunction} (h : kind = .relu → x ≠ 0) :
    HasDerivAt (fun y => activate y kind) (derivative (activate x kind) kind) x := by
  cases kind with
  | identity => exact hasDerivAt_id x
  | relu =>
    have hopen : (0 < max x 0) ↔ 0 < x := by simp
    simpa only [activate, derivative, hopen] using hasDerivAt_max_zero (h rfl)
  | tanh =>
    have hsquare : 0 ≤ 1 - Real.tanh x * Real.tanh x := by
      nlinarith [Real.tanh_sq_lt_one x]
    have hmax : max (1 - Real.tanh x * Real.tanh x) 0 = 1 - Real.tanh x * Real.tanh x :=
      max_eq_left hsquare
    simpa only [activate, derivative, FloatFunctions.tanh, hmax] using hasDerivAt_tanh x
  | logistic => exact hasDerivAt_logistic x

/-- The output of a branch's conjunction, away from its threshold. -/
theorem hasDerivAt_tanh_max {x : ℝ} (h : x ≠ 0) :
    HasDerivAt (fun y => Real.tanh (max y 0))
      (if 0 < x then 1 - Real.tanh x * Real.tanh x else 0) x := by
  refine ((hasDerivAt_tanh (max x 0)).comp x (hasDerivAt_max_zero h)).congr_deriv ?_
  split_ifs with hx
  · rw [max_eq_left hx.le, mul_one]
  · rw [mul_zero]

namespace SparseGraph

variable (g : SparseGraph p) (weights dw : p.Synapse → ℝ) (q : TrainingSequence p)

/-- The velocity of `synapticSum`. -/
def synapticTangent (tick : TrainingReplayTick p) (step : ℕ) (a da : p.Neuron → ℝ)
    (target : p.Neuron) : ℝ :=
  ((g.incomingAt target step).map fun id =>
      if active tick step id then
        da (p.synapses id).source * (weights id + tick.effectiveWeightOffsets id)
          + a (p.synapses id).source * dw id
      else 0).sum
    + ((tick.structuralSynapses.filter fun s => s.target = target).map fun s =>
      if edgeActive tick step s then da s.source * s.effectiveWeight else 0).sum

/-- The velocity of one branch's output. -/
noncomputable def branchTangent (a da : p.Neuron → ℝ) (b : DendriticBranch ℝ p.neuronCount) : ℝ :=
  (if 0 < excess a b then 1 - Real.tanh (excess a b) * Real.tanh (excess a b) else 0)
    * (b.inputs.map fun i => da i.source * i.weight).sum * b.outputGain

/-- The velocity of `dendriticSum`. -/
noncomputable def dendriticTangent (dendrites : DendriticBranchSet ℝ p.neuronCount)
    (a da : p.Neuron → ℝ) (target : p.Neuron) : ℝ :=
  ((dendrites.branchesAt target).map (branchTangent a da)).sum

/-- The velocity of `preactivation`. -/
noncomputable def preactivationTangent (dendrites : DendriticBranchSet ℝ p.neuronCount)
    (tick : TrainingReplayTick p) (step : ℕ) (a da dm : p.Neuron → ℝ) (target : p.Neuron) : ℝ :=
  tick.projectionGain
      * (g.synapticTangent weights dw tick step a da target + dendriticTangent dendrites a da target)
    - (p.neuronDynamics target).homeostaticGain * dm target

/-- The velocities of the rows of a microstep. -/
noncomputable def microstepTangent (dendrites : DendriticBranchSet ℝ p.neuronCount)
    (tick : TrainingReplayTick p) (step : ℕ) (s ds : ReplayState p) : ReplayState p :=
  let r := g.microstep weights dendrites tick step s.a s.m 0
  let dnext := fun i => (1 - (p.neuronDynamics i).leak) * ds.a i
    + (p.neuronDynamics i).leak * (derivative (r.act i) (p.neuronDynamics i).activation
      * g.preactivationTangent weights dw dendrites tick step s.a ds.a ds.m i)
  { a := dnext
    m := fun i => metabolicGate r.next s.m i * ((p.neuronDynamics i).metabolicDecay * ds.m i
      + (1 - (p.neuronDynamics i).metabolicDecay) * 2 * r.next i * dnext i) }

/-- The velocity after one microstep of a tick. -/
noncomputable def tangentStep (dendrites : DendriticBranchSet ℝ p.neuronCount)
    (tick : TrainingReplayTick p) (step : ℕ) (s ds : ReplayState p) : ReplayState p :=
  if tick.microstepCount ≤ step then ds
  else g.microstepTangent weights dw dendrites tick step s ds

/-- The velocity after `k` steps from a state that is held fixed. -/
noncomputable def tangentAt : ℕ → ReplayState p
  | 0 => ⟨0, 0⟩
  | k + 1 =>
    match q.ticks[k / p.microstepCount]? with
    | none => tangentAt k
    | some tick => g.tangentStep weights dw q.initial.dendrites tick (k % p.microstepCount)
        (g.stateAt weights q k) (tangentAt k)

/-- No rectifier, dendrite threshold or clamp of a microstep is at its kink. -/
structure SmoothStep (dendrites : DendriticBranchSet ℝ p.neuronCount)
    (tick : TrainingReplayTick p) (step : ℕ) (s : ReplayState p) : Prop where
  rectifier : ∀ i, (p.neuronDynamics i).activation = .relu →
    g.preactivation weights dendrites tick step s.a s.m i ≠ 0
  threshold : ∀ b ∈ dendrites.branches, excess s.a b ≠ 0
  load_ne_zero : ∀ i,
    metabolicRaw (g.microstep weights dendrites tick step s.a s.m 0).next s.m i ≠ 0
  load_ne_one : ∀ i,
    metabolicRaw (g.microstep weights dendrites tick step s.a s.m 0).next s.m i ≠ 1

/-- A path of states that moves with velocity `ds`. -/
structure Moves (S : ℝ → ReplayState p) (ds : ReplayState p) (x : ℝ) : Prop where
  a : ∀ i, HasDerivAt (fun y => (S y).a i) (ds.a i) x
  m : ∀ i, HasDerivAt (fun y => (S y).m i) (ds.m i) x

variable {g weights dw q}

section Step

variable {W : ℝ → p.Synapse → ℝ} {S : ℝ → ReplayState p} {ds : ReplayState p} {x : ℝ}

theorem Moves.excess (hS : Moves S ds x) (b : DendriticBranch ℝ p.neuronCount) :
    HasDerivAt (fun y => SparseGraph.excess (S y).a b)
      (b.inputs.map fun i => ds.a i.source * i.weight).sum x :=
  (hasDerivAt_list_sum fun i _ => (hS.a i.source).mul_const i.weight).sub_const b.threshold

theorem Moves.dendriticSum (hS : Moves S ds x) {dendrites : DendriticBranchSet ℝ p.neuronCount}
    (hsmooth : ∀ b ∈ dendrites.branches, SparseGraph.excess (S x).a b ≠ 0) (target : p.Neuron) :
    HasDerivAt (fun y => SparseGraph.dendriticSum dendrites (S y).a target)
      (dendriticTangent dendrites (S x).a ds.a target) x := by
  refine hasDerivAt_list_sum fun b hb => ?_
  have hmem : b ∈ dendrites.branches := by
    rw [DendriticBranchSet.branchesAt_eq_filter] at hb
    exact (List.mem_filter.1 hb).1
  exact ((hasDerivAt_tanh_max (hsmooth b hmem)).comp x (hS.excess b)).mul_const b.outputGain

theorem Moves.synapticSum (hS : Moves S ds x) (hW : ∀ id, HasDerivAt (fun y => W y id) (dw id) x)
    (tick : TrainingReplayTick p) (step : ℕ) (target : p.Neuron) :
    HasDerivAt (fun y => g.synapticSum (W y) tick step (S y).a target)
      (g.synapticTangent (W x) dw tick step (S x).a ds.a target) x := by
  refine (hasDerivAt_list_sum fun id _ => ?_).add (hasDerivAt_list_sum fun s _ => ?_)
  · split_ifs
    · exact (hS.a _).mul ((hW id).add_const _)
    · exact hasDerivAt_const x 0
  · split_ifs
    · exact (hS.a _).mul_const _
    · exact hasDerivAt_const x 0

theorem Moves.preactivation (hS : Moves S ds x)
    (hW : ∀ id, HasDerivAt (fun y => W y id) (dw id) x)
    {dendrites : DendriticBranchSet ℝ p.neuronCount}
    (hsmooth : ∀ b ∈ dendrites.branches, SparseGraph.excess (S x).a b ≠ 0)
    (tick : TrainingReplayTick p) (step : ℕ) (target : p.Neuron) :
    HasDerivAt (fun y => g.preactivation (W y) dendrites tick step (S y).a (S y).m target)
      (g.preactivationTangent (W x) dw dendrites tick step (S x).a ds.a ds.m target) x := by
  have hsum := (hS.synapticSum (g := g) hW tick step target).add (hS.dendriticSum hsmooth target)
  exact (((hsum.const_mul tick.projectionGain).const_add _).sub
    ((hS.m target).const_mul _)).sub_const _

/-- **The tangent of a microstep** is its derivative away from the kinks. -/
theorem Moves.microstep (hS : Moves S ds x) (hW : ∀ id, HasDerivAt (fun y => W y id) (dw id) x)
    {dendrites : DendriticBranchSet ℝ p.neuronCount} {tick : TrainingReplayTick p} {step : ℕ}
    (hsmooth : g.SmoothStep (W x) dendrites tick step (S x)) :
    Moves (fun y => ⟨(g.microstep (W y) dendrites tick step (S y).a (S y).m 0).next,
        (g.microstep (W y) dendrites tick step (S y).a (S y).m 0).nextM⟩)
      (g.microstepTangent (W x) dw dendrites tick step (S x) ds) x := by
  have hnext : ∀ i, HasDerivAt
      (fun y => (g.microstep (W y) dendrites tick step (S y).a (S y).m 0).next i)
      ((g.microstepTangent (W x) dw dendrites tick step (S x) ds).a i) x := by
    intro i
    have hpre := hS.preactivation (g := g) hW hsmooth.threshold tick step i
    have hact := (hasDerivAt_activate (hsmooth.rectifier i)).comp x hpre
    exact ((hS.a i).const_mul _).add (hact.const_mul _)
  refine ⟨hnext, fun i => ?_⟩
  have hraw : HasDerivAt
      (fun y => metabolicRaw (g.microstep (W y) dendrites tick step (S y).a (S y).m 0).next
        (S y).m i)
      ((p.neuronDynamics i).metabolicDecay * ds.m i
        + (1 - (p.neuronDynamics i).metabolicDecay) * 2
          * (g.microstep (W x) dendrites tick step (S x).a (S x).m 0).next i
          * (g.microstepTangent (W x) dw dendrites tick step (S x) ds).a i) x := by
    have hsquare := (((hnext i).const_mul (1 - (p.neuronDynamics i).metabolicDecay)).mul (hnext i))
    refine (((hS.m i).const_mul _).add hsquare).congr_deriv ?_
    ring
  exact (hasDerivAt_clamp zero_le_one fun _ =>
    ⟨hsmooth.load_ne_zero i, hsmooth.load_ne_one i⟩).comp x hraw

theorem Moves.tickStep (hS : Moves S ds x) (hW : ∀ id, HasDerivAt (fun y => W y id) (dw id) x)
    {dendrites : DendriticBranchSet ℝ p.neuronCount} {tick : TrainingReplayTick p} {step : ℕ}
    (hsmooth : step < tick.microstepCount → g.SmoothStep (W x) dendrites tick step (S x)) :
    Moves (fun y => g.tickStep (W y) dendrites tick step (S y))
      (g.tangentStep (W x) dw dendrites tick step (S x) ds) x := by
  unfold SparseGraph.tickStep tangentStep
  split_ifs with hlate
  · exact hS
  · exact hS.microstep hW (hsmooth (by omega))

end Step

/-- The steps of the window before `k` are away from their kinks. -/
def SmoothUpTo (g : SparseGraph p) (weights : p.Synapse → ℝ) (q : TrainingSequence p)
    (k : ℕ) : Prop :=
  ∀ j < k, ∀ tick, q.ticks[j / p.microstepCount]? = some tick →
    j % p.microstepCount < tick.microstepCount →
      g.SmoothStep weights q.initial.dendrites tick (j % p.microstepCount) (g.stateAt weights q j)

/-- **The states of a replay move** with the velocities of its tangent. -/
theorem moves_stateAt {W : ℝ → p.Synapse → ℝ} {x : ℝ}
    (hW : ∀ id, HasDerivAt (fun y => W y id) (dw id) x) {k : ℕ} (h : g.SmoothUpTo (W x) q k) :
    Moves (fun y => g.stateAt (W y) q k) (g.tangentAt (W x) dw q k) x := by
  induction k with
  | zero => exact ⟨fun i => hasDerivAt_const x _, fun i => hasDerivAt_const x _⟩
  | succ k ih =>
    have hS := ih fun j hj => h j (by omega)
    rcases htick : q.ticks[k / p.microstepCount]? with _ | tick
    · simpa only [stateAt, stepAt, tangentAt, htick] using hS
    · simpa only [stateAt, stepAt, tangentAt, htick] using
        hS.tickStep hW fun hdue => h k (by omega) tick htick hdue

end SparseGraph

end CpuReplay

end ALife
