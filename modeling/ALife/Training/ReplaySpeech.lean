/-
# The utterances a replay is trained on

`ReplaySpeechTarget` and `replay_speech_loss_scales`
(`crates/alife_training/src/types.rs`), and the inner recurrence of the speech
decoder as `speech_backward` of `crates/alife_training/src/cpu/replay.rs`
recomputes it: six rows of 32 outputs, each read by the next through the fourteen
control lanes.  The loss is normalised: the weights of its squares add up to the
same budget for each class that is present (`classWeight_replaySpeechLossScales`).
-/

import ALife.Training.SparseGraph

namespace ALife

open Machine

namespace CpuReplay

attribute [local instance] atLeastTwo_two neZero_thirtyTwo

variable {R : Type}

inductive SpeechActKind where
  | declare | request | respond | queryWhat | queryWhy | expressState | acknowledge | refuse
  deriving DecidableEq, Repr

/-- `SpeechActKind::raw`. -/
def SpeechActKind.raw : SpeechActKind → ℕ
  | .declare => 0
  | .request => 1
  | .respond => 2
  | .queryWhat => 3
  | .queryWhy => 4
  | .expressState => 5
  | .acknowledge => 6
  | .refuse => 7

structure ReplaySpeechTarget (R : Type) where
  token : Option UInt16
  continuation : List UInt16
  continuation_length : continuation.length = 5
  act : SpeechActKind
  weight : R

namespace ReplaySpeechTarget

/-- `len`. -/
def len (t : ReplaySpeechTarget R) : ℕ :=
  if t.token = none then 1 else 1 + (t.continuation.takeWhile (· ≠ 0)).length

variable [Field R]

/-- `step_logits`. -/
def stepLogits (t : ReplaySpeechTarget R) (step : ℕ) (output : Fin 32) : R :=
  let token :=
    if step = 0 then t.token else t.continuation[step - 1]?.filter (· ≠ 0)
  match token with
  | none => if output = 16 then -(4 / 5) else if output = 17 then 4 / 5 else 0
  | some token =>
    if output < 8 then
      if output.val = t.act.raw then 4 / 5 else -(4 / 5)
    else if output < 16 then
      if token.toNat.testBit (output.val - 8) then 4 / 5 else -(4 / 5)
    else if output = 16 then 4 / 5
    else if output = 17 then
      if step + 1 = t.len then 4 / 5 else -(4 / 5)
    else 0

/-- `output_weight`. -/
def outputWeight (t : ReplaySpeechTarget R) (output : Fin 32) : R :=
  if t.token = none ∧ output ≠ 16 ∧ output ≠ 17 then 0
  else if 18 ≤ output.val then 0
  else t.weight

variable [LinearOrder R]

/-- `ReplaySpeechTarget::validate`. -/
def validate (t : ReplaySpeechTarget R) : Contract Unit :=
  failIf ((∃ token ∈ t.token, token = 0 ∨ 256 ≤ token)
    ∨ (∃ token ∈ t.continuation, 256 ≤ token)
    ∨ (t.token = none ∧ t.continuation ≠ [0, 0, 0, 0, 0])
    ∨ (∃ pair ∈ t.continuation.zip t.continuation.tail, pair.1 = 0 ∧ pair.2 ≠ 0)
    ∨ t.weight ≤ 0) .invalidDecisionEvidence

end ReplaySpeechTarget

section Scales

variable [Field R] [LinearOrder R]

/-- The loss mass of a class: of the utterances, or of the silences. -/
def speechMass (targets : List (Option (ReplaySpeechTarget R))) (silence : Bool) : R :=
  ((targets.filterMap id).map fun t =>
    if t.token.isNone = silence then t.weight * (t.len : R) else 0).sum

/-- `replay_speech_loss_scales`: the two present classes share the budget of one. -/
def replaySpeechLossScales (targets : List (Option (ReplaySpeechTarget R))) (silence : Bool) : R :=
  let classes := max ([false, true].countP fun c => 0 < speechMass targets c) 1
  if 0 < speechMass targets silence then
    1 / ((classes : R) * speechMass targets silence * (if silence then 2 else 18))
  else 0

end Scales

section Rows

variable [Field R] [FloatFunctions R] {p : BrainPhenotype R}

/-- What a speech synapse reads: a motor neuron, or from the second row on a control
lane of the row before. -/
def speechInput (a : p.Neuron → R) (previous : Option (Fin 32 → R)) (id : p.Synapse) : R :=
  match previous with
  | some raw =>
    if 18 ≤ (p.speechLane id).val then FloatFunctions.tanh (raw (p.speechLane id))
    else a (p.synapses id).source
  | none => a (p.synapses id).source

/-- A row of the speech decoder, from the row before. -/
def speechRow (weights : p.Synapse → R) (tick : TrainingReplayTick p) (a : p.Neuron → R)
    (previous : Option (Fin 32 → R)) (output : Fin 32) : R :=
  (p.speechIds.map fun id =>
    if p.speechOutput id = output then
      speechInput a previous id * (weights id + tick.effectiveWeightOffsets id)
    else 0).sum

/-- The row before a row. -/
def rowBefore (raw : ℕ → Fin 32 → R) : ℕ → Option (Fin 32 → R)
  | 0 => none
  | step + 1 => some (raw step)

/-- `raw[step]`. -/
def speechRaw (weights : p.Synapse → R) (tick : TrainingReplayTick p) (a : p.Neuron → R) :
    ℕ → Fin 32 → R
  | 0 => speechRow weights tick a none
  | step + 1 => speechRow weights tick a (some (speechRaw weights tick a step))

theorem speechRaw_eq (weights : p.Synapse → R) (tick : TrainingReplayTick p) (a : p.Neuron → R)
    (step : ℕ) :
    speechRaw weights tick a step
      = speechRow weights tick a (rowBefore (speechRaw weights tick a) step) := by
  cases step <;> rfl

variable [LinearOrder R]

/-- The weight of an output in the loss of a target. -/
def lossWeight (t : ReplaySpeechTarget R) (scales : Bool → R) (step : ℕ) (output : Fin 32) : R :=
  if step < t.len then t.outputWeight output * scales t.token.isNone else 0

/-- The loss of a target: the weighted squares of the errors of its six rows. -/
def speechLoss (t : ReplaySpeechTarget R) (scales : Bool → R) (weights : p.Synapse → R)
    (tick : TrainingReplayTick p) (a : p.Neuron → R) : R :=
  ∑ step ∈ Finset.range 6, ∑ output, lossWeight t scales step output
    * (speechRaw weights tick a step output - t.stepLogits step output) ^ 2

/-- The classes with a target, of the utterances (`false`) and the silences (`true`). -/
def presentClasses (targets : List (Option (ReplaySpeechTarget R))) : List Bool :=
  [false, true].filter fun silence =>
    (targets.filterMap id).any fun t => t.token.isNone == silence

/-- What the squares of a class weigh together in the losses of the targets. -/
def classWeight (scales : Bool → R) (targets : List (Option (ReplaySpeechTarget R)))
    (silence : Bool) : R :=
  ((targets.filterMap id).map fun t =>
    if t.token.isNone = silence then
      ∑ step ∈ Finset.range 6, ∑ output, lossWeight t scales step output
    else 0).sum

end Rows

section Normalised

variable {targets : List (Option (ReplaySpeechTarget R))}

theorem ReplaySpeechTarget.one_le_len (t : ReplaySpeechTarget R) : 1 ≤ t.len := by
  unfold len
  split_ifs <;> omega

theorem ReplaySpeechTarget.len_le_six (t : ReplaySpeechTarget R) : t.len ≤ 6 := by
  have hprefix := (List.takeWhile_prefix (l := t.continuation) (· ≠ 0)).length_le
  rw [t.continuation_length] at hprefix
  unfold len
  split_ifs <;> omega

theorem mem_presentClasses_iff {silence : Bool} :
    silence ∈ presentClasses targets ↔ ∃ t, some t ∈ targets ∧ t.token.isNone = silence := by
  simp only [presentClasses, List.mem_filter, List.any_eq_true, beq_iff_eq, List.mem_filterMap, id]
  constructor
  · rintro ⟨-, t, ⟨_, hmem, rfl⟩, hclass⟩
    exact ⟨t, hmem, hclass⟩
  · rintro ⟨t, hmem, hclass⟩
    exact ⟨by cases silence <;> simp, t, ⟨_, hmem, rfl⟩, hclass⟩

variable [Field R]

/-- The outputs that a class supervises. -/
def supervised (silence : Bool) : R := if silence then 2 else 18

/-- A silence supervises its two control outputs, an utterance the first eighteen. -/
theorem ReplaySpeechTarget.sum_outputWeight (t : ReplaySpeechTarget R) :
    ∑ output, t.outputWeight output = supervised t.token.isNone * t.weight := by
  rcases htoken : t.token with _ | token
  · have hweight : ∀ output, t.outputWeight output
        = if output = 16 ∨ output = 17 then t.weight else 0 := by
      intro output
      unfold outputWeight
      split_ifs <;> simp_all
      omega
    rw [Finset.sum_congr rfl fun output _ => hweight output, ← Finset.sum_filter,
      Finset.sum_const, nsmul_eq_mul]
    rfl
  · have hweight : ∀ output, t.outputWeight output
        = if output.val < 18 then t.weight else 0 := by
      intro output
      unfold outputWeight
      split_ifs <;> simp_all
      omega
    rw [Finset.sum_congr rfl fun output _ => hweight output, ← Finset.sum_filter,
      Finset.sum_const, nsmul_eq_mul]
    rfl

theorem ReplaySpeechTarget.sum_lossWeight (t : ReplaySpeechTarget R) (scales : Bool → R) :
    ∑ step ∈ Finset.range 6, ∑ output, lossWeight t scales step output
      = supervised t.token.isNone * scales t.token.isNone * (t.weight * (t.len : R)) := by
  have hstep : ∀ step, ∑ output, lossWeight t scales step output
      = if step < t.len then
          supervised t.token.isNone * t.weight * scales t.token.isNone else 0 := by
    intro step
    unfold lossWeight
    split_ifs
    · rw [← Finset.sum_mul, t.sum_outputWeight]
    · exact Finset.sum_const_zero
  have hrange : (Finset.range 6).filter (· < t.len) = Finset.range t.len := by
    ext step
    have := t.len_le_six
    simp only [Finset.mem_filter, Finset.mem_range]
    omega
  rw [Finset.sum_congr rfl fun step _ => hstep step, ← Finset.sum_filter, hrange,
    Finset.sum_const, Finset.card_range, nsmul_eq_mul]
  ring

/-- A class weighs its scale for each supervised output of its mass. -/
theorem classWeight_eq (scales : Bool → R) (silence : Bool) :
    classWeight scales targets silence
      = supervised silence * scales silence * speechMass targets silence := by
  unfold classWeight speechMass
  rw [← List.sum_map_mul_left]
  congr 1
  refine List.map_congr_left fun t _ => ?_
  rw [mul_ite, mul_zero]
  split_ifs with hclass
  · rw [t.sum_lossWeight, hclass]
  · rfl

variable [LinearOrder R]

theorem ReplaySpeechTarget.weight_pos_of_validate {t : ReplaySpeechTarget R}
    (h : t.validate = .ok ()) : 0 < t.weight := by
  rw [validate, failIf_eq_ok_iff] at h
  push Not at h
  exact h.2.2.2.2

variable [IsStrictOrderedRing R]

/-- A class has mass exactly when it has a target. -/
theorem speechMass_pos_iff (htargets : ∀ t, some t ∈ targets → t.validate = .ok ())
    {silence : Bool} : 0 < speechMass targets silence ↔ silence ∈ presentClasses targets := by
  have hpos : ∀ t, some t ∈ targets → 0 < t.weight * (t.len : R) := fun t ht =>
    mul_pos (ReplaySpeechTarget.weight_pos_of_validate (htargets t ht))
      (Nat.cast_pos.2 t.one_le_len)
  have hterm : ∀ x ∈ (targets.filterMap id).map fun t =>
      if t.token.isNone = silence then t.weight * (t.len : R) else 0, 0 ≤ x := by
    simp only [List.mem_map, List.mem_filterMap, id]
    rintro _ ⟨t, ⟨_, ht, rfl⟩, rfl⟩
    split_ifs
    · exact (hpos t ht).le
    · exact le_rfl
  rw [mem_presentClasses_iff]
  constructor
  · intro h
    by_contra hnone
    push Not at hnone
    refine h.ne' (List.sum_eq_zero ?_)
    simp only [List.mem_map, List.mem_filterMap, id]
    rintro _ ⟨t, ⟨_, ht, rfl⟩, rfl⟩
    exact if_neg (hnone t ht)
  · rintro ⟨t, ht, hclass⟩
    refine (hpos t ht).trans_le (List.single_le_sum hterm _ ?_)
    exact List.mem_map.2 ⟨t, List.mem_filterMap.2 ⟨_, ht, rfl⟩, if_pos hclass⟩

/-- **The speech loss is normalised.**  The classes that are present share a budget of one
equally, and a class without a target has no scale. -/
theorem classWeight_replaySpeechLossScales
    (htargets : ∀ t, some t ∈ targets → t.validate = .ok ()) (silence : Bool) :
    (silence ∈ presentClasses targets →
      classWeight (replaySpeechLossScales targets) targets silence
        = 1 / ((presentClasses targets).length : R)) ∧
    (silence ∉ presentClasses targets → replaySpeechLossScales targets silence = 0) := by
  have hmass (silence : Bool) : 0 < speechMass targets silence ↔ silence ∈ presentClasses targets :=
    speechMass_pos_iff htargets
  have hclasses : ([false, true].countP fun c => decide (0 < speechMass targets c))
      = (presentClasses targets).length := by
    rw [List.countP_eq_length_filter]
    congr 1
    refine List.filter_congr fun c hc => ?_
    rw [Bool.eq_iff_iff, decide_eq_true_iff, hmass]
    simp only [presentClasses, List.mem_filter, hc, true_and]
  constructor
  · intro hpresent
    have hlength : 1 ≤ (presentClasses targets).length := List.length_pos_of_mem hpresent
    have hpos := (hmass silence).2 hpresent
    have hcard : ((presentClasses targets).length : R) ≠ 0 := by positivity
    rw [classWeight_eq, replaySpeechLossScales, hclasses, if_pos hpos, max_eq_left hlength]
    have hsupervised : (supervised silence : R) ≠ 0 := by
      unfold supervised
      split_ifs <;> positivity
    change supervised silence * (1 / (_ * _ * supervised silence)) * _ = _
    field_simp
  · intro habsent
    rw [replaySpeechLossScales, if_neg (mt (hmass silence).1 habsent)]

end Normalised

end CpuReplay

end ALife
