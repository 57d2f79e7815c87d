/-
# The seeds of the candidate rows

All rows of adjoints from the burn-in boundary on and the gradient are read
together (`total`).  What `backward` adds for a candidate is the velocity of its
weighted logit (`total_seedCandidate`, `hasDerivAt_candidateLogit`), so a row adds
the velocity of its part of the objective, and to the objective its value
(`seedRow_adds`).
-/

import ALife.Training.ReplaySweep

namespace ALife

open Machine

namespace CpuReplay

variable {p : BrainPhenotype ℝ} {T : ℕ → ReplayState p} {dw : p.Synapse → ℝ}

namespace Adjoints

/-- The rows `start, …, start + len` and the gradient, paired with the velocities. -/
def total (T : ℕ → ReplayState p) (dw : p.Synapse → ℝ) (start len : ℕ) (s : Adjoints p) : ℝ :=
  (∑ j ∈ Finset.range (len + 1), s.rowValue T (start + j)) + s.paramValue dw

variable {start len : ℕ}

theorem total_addGa (s : Adjoints p) {k : ℕ} (hk : start ≤ k) (hk' : k ≤ start + len)
    (i : p.Neuron) (v : ℝ) :
    (s.addGa k i v).total T dw start len = s.total T dw start len + v * (T k).a i := by
  have hrow : ∀ j, (s.addGa k i v).rowValue T (start + j)
      = s.rowValue T (start + j) + if j = k - start then v * (T k).a i else 0 := by
    intro j
    split_ifs with hj
    · rw [show start + j = k by omega, rowValue_addGa]
    · rw [rowValue_addGa_of_ne s i v (by omega), add_zero]
  have hsum : ∑ j ∈ Finset.range (len + 1), (s.addGa k i v).rowValue T (start + j)
      = (∑ j ∈ Finset.range (len + 1), s.rowValue T (start + j)) + v * (T k).a i := by
    rw [Finset.sum_congr rfl fun j _ => hrow j, Finset.sum_add_distrib, Finset.sum_ite_eq',
      if_pos (Finset.mem_range.2 (by omega))]
  rw [total, hsum, total, add_right_comm]
  rfl

theorem total_addGradient (s : Adjoints p) (id : p.Synapse) (v : ℝ) :
    (s.addGradient id v).total T dw start len = s.total T dw start len + v * dw id := by
  rw [total, paramValue_addGradient, total, add_assoc]
  simp only [rowValue_addGradient]

theorem total_addObjective (s : Adjoints p) (v : ℝ) :
    (s.addObjective v).total T dw start len = s.total T dw start len := by
  simp only [total, rowValue, paramValue, addObjective]

end Adjoints

namespace SparseGraph

variable (g : SparseGraph p) (weights : p.Synapse → ℝ) (gain : ℝ)

/-- The velocity of `headSum` whose factors move with velocity `dfactor`. -/
def headTangent (dw : p.Synapse → ℝ) (tick : TrainingReplayTick p)
    (c : TrainingReplayCandidate ℝ) (h : DecoderHeadKind) (factor dfactor : p.Synapse → ℝ) : ℝ :=
  ((g.decoders c.family).map fun id =>
    if p.head id = some h then
      dfactor id * (c.decoderInputs (p.inputLane id)
          * (weights id + tick.effectiveWeightOffsets id))
        + factor id * (c.decoderInputs (p.inputLane id) * dw id)
    else 0).sum

/-- Whether the clamp of a context head lets its argument through. -/
noncomputable def contextGate (gain x : ℝ) : ℝ := if -gain < x ∧ x < gain then 1 else 0

/-- The velocity of a candidate's logit. -/
noncomputable def logitTangent (dw : p.Synapse → ℝ) (tick : TrainingReplayTick p)
    (a da : p.Neuron → ℝ) (c : TrainingReplayCandidate ℝ) : ℝ :=
  g.headTangent weights dw tick c .actionCandidate (fun id => a (p.synapses id).source)
      (fun id => da (p.synapses id).source)
    + (contextGate gain (g.memorySum weights tick c)
        * g.headTangent weights dw tick c .memoryContext (fun _ => 1) (fun _ => 0)
      + contextGate gain (g.cognitiveSum weights tick c)
        * g.headTangent weights dw tick c .cognitiveContext (fun _ => 1) (fun _ => 0))

/-- No context head of a candidate is at the edge of its clamp.  Without a memory channel
the gain is 0 and the clamp is constant: it has no edge. -/
structure SmoothCandidate (tick : TrainingReplayTick p) (c : TrainingReplayCandidate ℝ) :
    Prop where
  memory : gain ≠ 0 → g.memorySum weights tick c ≠ -gain ∧ g.memorySum weights tick c ≠ gain
  cognitive : gain ≠ 0 →
    g.cognitiveSum weights tick c ≠ -gain ∧ g.cognitiveSum weights tick c ≠ gain

variable {g weights gain}

section Logits

variable {W : ℝ → p.Synapse → ℝ} {x : ℝ}

theorem hasDerivAt_headSum (hW : ∀ id, HasDerivAt (fun y => W y id) (dw id) x)
    {F : ℝ → p.Synapse → ℝ} {dF : p.Synapse → ℝ}
    (hF : ∀ id, HasDerivAt (fun y => F y id) (dF id) x) (tick : TrainingReplayTick p)
    (c : TrainingReplayCandidate ℝ) (h : DecoderHeadKind) :
    HasDerivAt (fun y => g.headSum (W y) tick c h (F y))
      (g.headTangent (W x) dw tick c h (F x) dF) x := by
  refine hasDerivAt_list_sum fun id _ => ?_
  split_ifs
  · exact (hF id).mul (((hW id).add_const _).const_mul _)
  · exact hasDerivAt_const x 0

/-- **The velocity of a logit** is its derivative off the edges of the clamps. -/
theorem hasDerivAt_candidateLogit (hW : ∀ id, HasDerivAt (fun y => W y id) (dw id) x)
    {S : ℝ → ReplayState p} {ds : ReplayState p} (hS : Moves S ds x) (hgain : 0 ≤ gain)
    {tick : TrainingReplayTick p} {c : TrainingReplayCandidate ℝ}
    (hsmooth : g.SmoothCandidate (W x) gain tick c) (bias : ℝ) :
    HasDerivAt (fun y => g.candidateLogit (W y) gain tick (S y).a c bias)
      (g.logitTangent (W x) gain dw tick (S x).a ds.a c) x := by
  have haction := hasDerivAt_headSum (g := g) hW
    (fun id => hS.a (p.synapses id).source) tick c .actionCandidate
  have hone : ∀ _ : p.Synapse, HasDerivAt (fun _ : ℝ => (1 : ℝ)) 0 x :=
    fun _ => hasDerivAt_const x 1
  have hmemory : HasDerivAt (fun y => g.memorySum (W y) tick c)
      (g.headTangent (W x) dw tick c .memoryContext (fun _ => 1) fun _ => 0) x :=
    hasDerivAt_headSum hW hone tick c .memoryContext
  have hcognitive : HasDerivAt (fun y => g.cognitiveSum (W y) tick c)
      (g.headTangent (W x) dw tick c .cognitiveContext (fun _ => 1) fun _ => 0) x :=
    hasDerivAt_headSum hW hone tick c .cognitiveContext
  have hclamp : ∀ z : ℝ, (gain ≠ 0 → z ≠ -gain ∧ z ≠ gain) →
      HasDerivAt (fun y => clamp y (-gain) gain) (contextGate gain z) z := by
    intro z hz
    refine hasDerivAt_clamp (by linarith) fun hne => hz ?_
    rintro rfl
    exact hne neg_zero
  have hmemoryClamp := (hclamp _ hsmooth.memory).comp x hmemory
  have hcognitiveClamp := (hclamp _ hsmooth.cognitive).comp x hcognitive
  exact (haction.const_add _).fun_add (hmemoryClamp.fun_add hcognitiveClamp)

end Logits

section Seeds

variable {start len : ℕ} {q : TrainingSequence p} {tape : Tape p}

/-- What the decoder loop adds for one synapse. -/
theorem total_seedDecoder {k : ℕ} (hk : start ≤ k) (hk' : k ≤ start + len)
    (tick : TrainingReplayTick p) (a : p.Neuron → ℝ) (memory cognitive : ℝ)
    (c : TrainingReplayCandidate ℝ) (adjoint : ℝ) (s : Adjoints p) (id : p.Synapse) :
    (seedDecoder weights gain tick a k memory cognitive c adjoint s id).total T dw start len
      = s.total T dw start len + adjoint
        * ((if p.head id = some .actionCandidate then
            (T k).a (p.synapses id).source * (c.decoderInputs (p.inputLane id)
                * (weights id + tick.effectiveWeightOffsets id))
              + a (p.synapses id).source * (c.decoderInputs (p.inputLane id) * dw id)
          else 0)
          + (contextGate gain memory * (if p.head id = some .memoryContext then
              0 * (c.decoderInputs (p.inputLane id)
                * (weights id + tick.effectiveWeightOffsets id))
              + 1 * (c.decoderInputs (p.inputLane id) * dw id) else 0)
            + contextGate gain cognitive * (if p.head id = some .cognitiveContext then
              0 * (c.decoderInputs (p.inputLane id)
                * (weights id + tick.effectiveWeightOffsets id))
              + 1 * (c.decoderInputs (p.inputLane id) * dw id) else 0))) := by
  unfold seedDecoder contextGate
  rcases hhead : p.head id with _ | _ | _ | _ | _
  · simp
  · simp only [Adjoints.total_addGa _ hk hk', Adjoints.total_addGradient, reduceCtorEq,
      Option.some.injEq, if_true, if_false]
    ring
  · dsimp only
    split_ifs <;> simp_all [Adjoints.total_addGradient] <;> ring
  · simp
  · dsimp only
    split_ifs <;> simp_all [Adjoints.total_addGradient] <;> ring

theorem objective_seedDecoder (tick : TrainingReplayTick p) (a : p.Neuron → ℝ) (k : ℕ)
    (memory cognitive : ℝ) (c : TrainingReplayCandidate ℝ) (adjoint : ℝ) (s : Adjoints p)
    (id : p.Synapse) :
    (seedDecoder weights gain tick a k memory cognitive c adjoint s id).objective
      = s.objective := by
  unfold seedDecoder
  split <;> (try split_ifs) <;> rfl

/-- **A candidate** seeds the velocity of its weighted logit. -/
theorem total_seedCandidate {t : ℕ} (hk : start ≤ (t + 1) * p.microstepCount)
    (hk' : (t + 1) * p.microstepCount ≤ start + len) (tick : TrainingReplayTick p) {i : ℕ}
    {c : TrainingReplayCandidate ℝ} {adjoint : ℝ} {a : p.Neuron → ℝ}
    (ha : tape.a.getD ((t + 1) * p.microstepCount) 0 = a)
    (hmemory : (tape.memory.getD t []).getD i 0 = g.memorySum weights tick c)
    (hcognitive : (tape.cognitive.getD t []).getD i 0 = g.cognitiveSum weights tick c)
    (s : Adjoints p) :
    (g.seedCandidate weights gain tape tick t s ((c, adjoint), i)).total T dw start len
      = s.total T dw start len + adjoint * g.logitTangent weights gain dw tick a
        (T ((t + 1) * p.microstepCount)).a c := by
  unfold seedCandidate
  rw [foldl_add_of_step (π := Adjoints.total T dw start len)
    (total_seedDecoder hk hk' tick _ _ _ c adjoint), Adjoints.total_addObjective, ha]
  dsimp only
  rw [hmemory, hcognitive]
  refine congrArg (s.total T dw start len + ·) ?_
  simp only [logitTangent, headTangent]
  induction g.decoders c.family with
  | nil => simp
  | cons id l ih =>
    simp only [List.map_cons, List.sum_cons] at ih ⊢
    rw [ih]
    ring

theorem objective_seedCandidate (tick : TrainingReplayTick p) (t : ℕ) (s : Adjoints p)
    (row : (TrainingReplayCandidate ℝ × ℝ) × ℕ) :
    (g.seedCandidate weights gain tape tick t s row).objective
      = s.objective + row.1.2 * (tape.candidateLogits.getD t []).getD row.2 0 := by
  unfold seedCandidate
  rw [foldl_keeps (π := Adjoints.objective) (objective_seedDecoder tick _ _ _ _ _ _)]
  rfl

end Seeds

end SparseGraph

end CpuReplay

end ALife
