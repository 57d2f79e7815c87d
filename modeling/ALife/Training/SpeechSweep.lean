/-
# The seeds of the speech targets

The six rows of the speech decoder move with the motor neurons they read and with
the weights (`speechTangent`, `hasDerivAt_speechRaw`).  The reversed loop over the
rows carries the gradient of each row's inputs to the row before it; what it hands
on through the control lanes is worth what that row will have to account for, so in
the end a target has added the velocity of its loss (`total_speechSteps`) and its
loss (`objective_speechSteps`).
-/

import ALife.Training.ReplaySeeds

namespace ALife

open Machine

namespace CpuReplay

attribute [local instance] atLeastTwo_two

variable {p : BrainPhenotype ℝ}

namespace SparseGraph

section Tangents

variable (weights dw : p.Synapse → ℝ) (tick : TrainingReplayTick p) (a da : p.Neuron → ℝ)

/-- The velocity of what a speech synapse reads. -/
noncomputable def speechInputTangent (previous dprevious : Option (Fin 32 → ℝ)) (id : p.Synapse) :
    ℝ :=
  match previous, dprevious with
  | some raw, some draw =>
    if 18 ≤ (p.speechLane id).val then
      (1 - Real.tanh (raw (p.speechLane id)) * Real.tanh (raw (p.speechLane id)))
        * draw (p.speechLane id)
    else da (p.synapses id).source
  | _, _ => da (p.synapses id).source

/-- The velocity of a row of the speech decoder. -/
noncomputable def speechRowTangent (previous dprevious : Option (Fin 32 → ℝ)) (output : Fin 32) :
    ℝ :=
  (p.speechIds.map fun id =>
    if p.speechOutput id = output then
      speechInputTangent da previous dprevious id * (weights id + tick.effectiveWeightOffsets id)
        + speechInput a previous id * dw id
    else 0).sum

/-- The velocity of `speechRaw`. -/
noncomputable def speechTangent : ℕ → Fin 32 → ℝ
  | 0 => speechRowTangent weights dw tick a da none none
  | step + 1 => speechRowTangent weights dw tick a da (some (speechRaw weights tick a step))
      (some (speechTangent step))

theorem speechTangent_eq (step : ℕ) :
    speechTangent weights dw tick a da step = speechRowTangent weights dw tick a da
      (rowBefore (speechRaw weights tick a) step)
      (rowBefore (speechTangent weights dw tick a da) step) := by
  cases step <;> rfl

/-- The velocity of a target's loss. -/
noncomputable def speechLossTangent (t : ReplaySpeechTarget ℝ) (scales : Bool → ℝ) (n : ℕ) : ℝ :=
  ∑ step ∈ Finset.range n, ∑ output, 2 * lossWeight t scales step output
    * (speechRaw weights tick a step output - t.stepLogits step output)
    * speechTangent weights dw tick a da step output

end Tangents

section Derivative

variable {W : ℝ → p.Synapse → ℝ} {dw : p.Synapse → ℝ} {A : ℝ → p.Neuron → ℝ}
  {da : p.Neuron → ℝ} {x : ℝ}

theorem hasDerivAt_speechRow (hW : ∀ id, HasDerivAt (fun y => W y id) (dw id) x)
    {I : ℝ → p.Synapse → ℝ} {dI : p.Synapse → ℝ}
    (hI : ∀ id, HasDerivAt (fun y => I y id) (dI id) x) (tick : TrainingReplayTick p)
    (output : Fin 32) :
    HasDerivAt (fun y => (p.speechIds.map fun id =>
        if p.speechOutput id = output then I y id * (W y id + tick.effectiveWeightOffsets id)
        else 0).sum)
      (p.speechIds.map fun id =>
        if p.speechOutput id = output then
          dI id * (W x id + tick.effectiveWeightOffsets id) + I x id * dw id
        else 0).sum x := by
  refine hasDerivAt_list_sum fun id _ => ?_
  split_ifs
  · exact (hI id).mul ((hW id).add_const _)
  · exact hasDerivAt_const x 0

/-- **The rows of the speech decoder move** with the velocities of their tangent. -/
theorem hasDerivAt_speechRaw (hW : ∀ id, HasDerivAt (fun y => W y id) (dw id) x)
    (hA : ∀ i, HasDerivAt (fun y => A y i) (da i) x) (tick : TrainingReplayTick p) (step : ℕ)
    (output : Fin 32) :
    HasDerivAt (fun y => speechRaw (W y) tick (A y) step output)
      (speechTangent (W x) dw tick (A x) da step output) x := by
  induction step generalizing output with
  | zero => exact hasDerivAt_speechRow hW (fun id => hA (p.synapses id).source) tick output
  | succ step ih =>
    refine hasDerivAt_speechRow hW
      (I := fun y id => speechInput (A y) (some (speechRaw (W y) tick (A y) step)) id)
      (fun id => ?_) tick output
    unfold speechInput speechInputTangent
    dsimp only
    split_ifs
    · exact (hasDerivAt_tanh _).comp x (ih (p.speechLane id))
    · exact hA (p.synapses id).source

theorem hasDerivAt_speechLoss (hW : ∀ id, HasDerivAt (fun y => W y id) (dw id) x)
    (hA : ∀ i, HasDerivAt (fun y => A y i) (da i) x) (tick : TrainingReplayTick p)
    (t : ReplaySpeechTarget ℝ) (scales : Bool → ℝ) :
    HasDerivAt (fun y => speechLoss t scales (W y) tick (A y))
      (speechLossTangent (W x) dw tick (A x) da t scales 6) x := by
  unfold speechLoss speechLossTangent
  refine HasDerivAt.fun_sum fun step _ => HasDerivAt.fun_sum fun output _ => ?_
  have herror := (hasDerivAt_speechRaw hW hA tick step output).sub_const (t.stepLogits step output)
  refine ((herror.fun_pow 2).const_mul (lossWeight t scales step output)).congr_deriv ?_
  push_cast
  ring

end Derivative

section Steps

variable {T : ℕ → ReplayState p} {dw weights : p.Synapse → ℝ} {start len state : ℕ}
  {tick : TrainingReplayTick p} {a da : p.Neuron → ℝ} {t : ReplaySpeechTarget ℝ}
  {scales : Bool → ℝ}

/-- The velocity that a lane brings to the row that reads it. -/
noncomputable def laneTangent (da : p.Neuron → ℝ)
    (hroom : p.speechSourceStart + 32 ≤ p.neuronCount) (raw draw : ℕ → Fin 32 → ℝ) (step : ℕ)
    (lane : Fin 32) : ℝ :=
  match step with
  | 0 => da ⟨p.speechSourceStart + lane.val, by omega⟩
  | m + 1 =>
    if 18 ≤ lane.val then (1 - Real.tanh (raw m lane) * Real.tanh (raw m lane)) * draw m lane
    else da ⟨p.speechSourceStart + lane.val, by omega⟩

variable {hroom : p.speechSourceStart + 32 ≤ p.neuronCount}

variable (hroom) in
theorem speechInputTangent_eq_laneTangent {id : p.Synapse} (h : id ∈ p.speechIds)
    (raw draw : ℕ → Fin 32 → ℝ) (step : ℕ) :
    speechInputTangent da (rowBefore raw step) (rowBefore draw step) id
      = laneTangent da hroom raw draw step (p.speechLane id) := by
  have hsource : (p.synapses id).source
      = ⟨p.speechSourceStart + (p.speechLane id).val, by omega⟩ :=
    Fin.ext (p.source_eq_speechLane h)
  cases step with
  | zero => exact congrArg da hsource
  | succ m =>
    simp only [speechInputTangent, rowBefore, laneTangent]
    split_ifs
    · rfl
    · exact congrArg da hsource

/-- What is handed on through the control lanes to the row before step `n`. -/
noncomputable def pendingValue (future : Fin 32 → ℝ) (raw draw : ℕ → Fin 32 → ℝ) : ℕ → ℝ
  | 0 => 0
  | m + 1 => ∑ output, (if 18 ≤ output.val then
      future output * (1 - Real.tanh (raw m output) * Real.tanh (raw m output)) else 0)
        * draw m output

theorem pendingValue_zero (raw draw : ℕ → Fin 32 → ℝ) (n : ℕ) :
    pendingValue 0 raw draw n = 0 := by
  cases n <;> simp [pendingValue]

/-- The input gradient of a row: to the motor neurons, and through the control lanes. -/
theorem sum_inputGradient (inputGradient : Fin 32 → ℝ) (raw draw : ℕ → Fin 32 → ℝ) (step : ℕ) :
    ∑ lane, inputGradient lane * laneTangent da hroom raw draw step lane
      = (∑ lane : Fin 32, if step = 0 ∨ lane.val < 18 then
          inputGradient lane * da ⟨p.speechSourceStart + lane.val, by omega⟩ else 0)
        + pendingValue inputGradient raw draw step := by
  cases step with
  | zero => simp [laneTangent, pendingValue]
  | succ m =>
    rw [pendingValue, ← Finset.sum_add_distrib]
    refine Finset.sum_congr rfl fun lane _ => ?_
    by_cases h : 18 ≤ lane.val
    · simp only [laneTangent, h, not_lt.2 h, if_true, if_false, or_false, Nat.add_eq_zero_iff,
        one_ne_zero, and_false]
      ring
    · simp [laneTangent, h, not_le.1 h]

variable (weights tick a t scales) in
/-- The deltas of a row, paired with its velocity, are its share of the loss and what
came back through the control lanes. -/
theorem sum_speechDeltas (future : Fin 32 → ℝ) (step : ℕ) (draw : ℕ → Fin 32 → ℝ) :
    ∑ output, speechDeltas t scales weights tick a future step output * draw step output
      = (∑ output, 2 * lossWeight t scales step output
          * (speechRaw weights tick a step output - t.stepLogits step output) * draw step output)
        + pendingValue future (speechRaw weights tick a) draw (step + 1) := by
  rw [pendingValue, ← Finset.sum_add_distrib]
  refine Finset.sum_congr rfl fun output _ => ?_
  rw [speechDeltas, add_mul]
  rfl

variable (hroom) in
/-- The deltas of a row, paired with its velocity, are what the row's loops add and what
its inputs are worth. -/
theorem sum_deltas_speechTangent (deltas : Fin 32 → ℝ) (step : ℕ) :
    ∑ output, deltas output * speechTangent weights dw tick a da step output
      = (p.speechIds.map fun id => deltas (p.speechOutput id)
          * speechInput a (rowBefore (speechRaw weights tick a) step) id * dw id).sum
        + ∑ lane, speechInputGradient weights tick deltas lane
          * laneTangent da hroom (speechRaw weights tick a)
            (speechTangent weights dw tick a da) step lane := by
  have hlanes : ∑ lane, speechInputGradient weights tick deltas lane
        * laneTangent da hroom (speechRaw weights tick a) (speechTangent weights dw tick a da)
          step lane
      = (p.speechIds.map fun id => laneTangent da hroom (speechRaw weights tick a)
          (speechTangent weights dw tick a da) step (p.speechLane id)
        * (deltas (p.speechOutput id)
          * (weights id + tick.effectiveWeightOffsets id))).sum := by
    rw [← sum_mul_sum_ite]
    exact Finset.sum_congr rfl fun lane _ => mul_comm _ _
  rw [speechTangent_eq]
  unfold speechRowTangent
  rw [sum_mul_sum_ite, hlanes, ← List.sum_map_add]
  refine congrArg List.sum (List.map_congr_left fun id hid => ?_)
  rw [speechInputTangent_eq_laneTangent hroom hid]
  ring

/-- What one row of the reversed loop adds. -/
theorem total_speechStep (hk : start ≤ state) (hk' : state ≤ start + len)
    (hda : (T state).a = da) (x : (Fin 32 → ℝ) × Adjoints p) (step : ℕ) :
    (speechStep t scales weights tick a state hroom x step).2.total T dw start len
      = x.2.total T dw start len
        + (p.speechIds.map fun id =>
          speechDeltas t scales weights tick a x.1 step (p.speechOutput id)
            * speechInput a (rowBefore (speechRaw weights tick a) step) id * dw id).sum
        + ∑ lane : Fin 32, if step = 0 ∨ lane.val < 18 then
          speechInputGradient weights tick (speechDeltas t scales weights tick a x.1 step) lane
            * da ⟨p.speechSourceStart + lane.val, by omega⟩ else 0 := by
  have hlane : ∀ (s : Adjoints p) (lane : Fin 32),
      (if step = 0 ∨ lane.val < 18 then
          s.addGa state ⟨p.speechSourceStart + lane.val, by omega⟩
            (speechInputGradient weights tick
              (speechDeltas t scales weights tick a x.1 step) lane)
        else s).total T dw start len
      = s.total T dw start len + if step = 0 ∨ lane.val < 18 then
          speechInputGradient weights tick (speechDeltas t scales weights tick a x.1 step) lane
            * da ⟨p.speechSourceStart + lane.val, by omega⟩ else 0 := by
    intro s lane
    split_ifs
    · rw [Adjoints.total_addGa s hk hk', hda]
    · rw [add_zero]
  have hsynapse : ∀ (s : Adjoints p) (id : p.Synapse),
      (s.addGradient id (speechDeltas t scales weights tick a x.1 step (p.speechOutput id)
          * speechInput a (rowBefore (speechRaw weights tick a) step) id)).total T dw start len
      = s.total T dw start len
        + speechDeltas t scales weights tick a x.1 step (p.speechOutput id)
          * speechInput a (rowBefore (speechRaw weights tick a) step) id * dw id :=
    fun s id => Adjoints.total_addGradient s id _
  unfold speechStep
  dsimp only
  rw [foldl_add_of_step (π := Adjoints.total T dw start len) hlane,
    foldl_add_of_step (π := Adjoints.total T dw start len) hsynapse,
    Adjoints.total_addObjective, Fin.sum_univ_def]

/-- **The rows of a target** seed the velocity of its loss. -/
theorem total_speechSteps (hk : start ≤ state) (hk' : state ≤ start + len)
    (hda : (T state).a = da) (n : ℕ) (x : (Fin 32 → ℝ) × Adjoints p) :
    ((List.range n).reverse.foldl
        (speechStep t scales weights tick a state hroom) x).2.total T dw start len
      = x.2.total T dw start len
        + pendingValue x.1 (speechRaw weights tick a) (speechTangent weights dw tick a da) n
        + speechLossTangent weights dw tick a da t scales n := by
  induction n generalizing x with
  | zero => simp [pendingValue, speechLossTangent]
  | succ n ih =>
    have hdeltas := sum_speechDeltas weights tick a t scales x.1 n
      (speechTangent weights dw tick a da)
    rw [sum_deltas_speechTangent hroom, sum_inputGradient] at hdeltas
    have hloss : speechLossTangent weights dw tick a da t scales (n + 1)
        = speechLossTangent weights dw tick a da t scales n
          + ∑ output, 2 * lossWeight t scales n output
            * (speechRaw weights tick a n output - t.stepLogits n output)
            * speechTangent weights dw tick a da n output := Finset.sum_range_succ _ _
    rw [List.range_succ, List.reverse_concat, List.foldl_cons, ih,
      total_speechStep hk hk' hda x n, hloss]
    have hfirst : (speechStep t scales weights tick a state hroom x n).1
        = speechInputGradient weights tick (speechDeltas t scales weights tick a x.1 n) := rfl
    rw [hfirst]
    linarith

/-- The rows of a target add its loss to the objective. -/
theorem objective_speechSteps (n : ℕ) (x : (Fin 32 → ℝ) × Adjoints p) :
    ((List.range n).reverse.foldl
        (speechStep t scales weights tick a state hroom) x).2.objective
      = x.2.objective + ∑ step ∈ Finset.range n, ∑ output, lossWeight t scales step output
        * (speechRaw weights tick a step output - t.stepLogits step output) ^ 2 := by
  induction n generalizing x with
  | zero => simp
  | succ n ih =>
    have hstep : (speechStep t scales weights tick a state hroom x n).2.objective
        = x.2.objective + ∑ output, lossWeight t scales n output
          * (speechRaw weights tick a n output - t.stepLogits n output) ^ 2 := by
      unfold speechStep
      dsimp only
      refine (foldl_keeps (π := Adjoints.objective) (fun s lane => ?_) _ _).trans
        (foldl_keeps (π := Adjoints.objective) (fun s id => ?_) _ _)
      · split_ifs <;> rfl
      · rfl
    rw [List.range_succ, List.reverse_concat, List.foldl_cons, ih, hstep, Finset.sum_range_succ]
    ring

end Steps

end SparseGraph

end CpuReplay

end ALife
