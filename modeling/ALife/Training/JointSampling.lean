/-
# Drawing a joint action

`sample_cpu_joint_action` of `crates/alife_training/src/cpu/input.rs`.  A
representative is drawn among all candidates, and for every motor slot that it
does not force and that has candidates, one of those: by the softmax of the
logits over the mask of the slot, each with a draw of its own.

The arithmetic of `f32` is a parameter, and so is its logarithm.  What a result
is made of (`sampleCpuJointAction_eq_ok`) holds whatever they are.
-/

import ALife.Cognition.FactorizedSelection
import ALife.Training.JointAction

namespace ALife

open Machine

namespace Training

/-- The logarithm of a float. -/
class FloatLog (F : Type) where
  ln : F → F

/-- Of the numerals among the slots. -/
theorem neZero_six : NeZero 6 := ⟨by decide⟩

section Slots

attribute [local instance] neZero_six

/-- `motor_slot`. -/
def motorSlot : ActionKind → Option (Fin 6)
  | .move => some 0
  | .look => some 1
  | .interact | .write => some 2
  | .vocalize => some 3
  | .hold | .rest | .inspect => some 4
  | .idle | .gesture => none

/-- The slot that a representative of a kind forces. -/
def forcedSlot (kind : ActionKind) : Option (Fin 6) :=
  if kind = .idle ∨ kind = .gesture then some 4 else motorSlot kind

end Slots

/-- What the motor heads of a phenotype are read from. -/
structure MotorHeads where
  headCount : ℕ
  headWidth : ℕ
  motorWidth : ℕ
  deriving DecidableEq, Repr

/-- `FACTORIZED_MOTOR_CHANNELS`. -/
def factorizedMotorChannelList : List MotorChannel :=
  [.locomotion, .manipulation, .vocal, .posture]

/-- `factorized_motor_channels`. -/
def MotorHeads.factorizedMotorChannels (h : MotorHeads) : Contract (List MotorChannel) := do
  reject (h.headCount = 0 ∨ factorizedMotorChannelList.length < h.headCount ∨ h.headWidth = 0
    ∨ h.motorWidth < h.headWidth * h.headCount) .phenotypeCompile
  pure (factorizedMotorChannelList.take h.headCount)

section Sampler

variable {F : Type} [FloatOps F] [FloatLog F]

/-- The hash behind a draw. -/
def drawHash (seed counter factor : UInt32) : UInt32 :=
  let v := seed ^^^ counter * 0x9e3779b9 ^^^ factor * 0x85ebca6b
  let v := (v ^^^ v >>> 16) * 0x7feb352d
  let v := (v ^^^ v >>> 15) * 0x846ca68b
  v ^^^ v >>> 16

/-- `draw`. -/
def draw (F : Type) [FloatOps F] (seed counter factor : UInt32) : F :=
  (literal (drawHash seed counter factor >>> 9).toNat 1 + literal 1 2) / literal 8388608 1

/-- The candidates of a mask with their logits. -/
def maskedLogits (logits : List F) (mask : UInt32) : List (F × ℕ) :=
  logits.zipIdx.filter fun row => hasBit mask row.2

/-- The greatest logit, folded from negative infinity: none where nothing is masked. -/
def maxLogit (rows : List (F × ℕ)) : Option F :=
  rows.foldl (fun best row => some (best.elim row.1 fun b => FloatOps.max b row.1)) none

/-- The first row whose cumulated weight is above the target, the last row where there is none. -/
def pickRow (target : F) : F → F × ℕ × F → List (F × ℕ × F) → F × ℕ × F
  | _, last, [] => last
  | cumulative, last, row :: rest =>
    if FloatOps.lt target (cumulative + row.2.2) then row
    else pickRow target (cumulative + row.2.2) last rest

/-- `sample`. -/
def sample (logits : List F) (mask : UInt32) (temperature random : F) : Contract (UInt16 × F) :=
  let rows := maskedLogits logits mask
  match maxLogit rows, rows.getLast? with
  | some top, some last => do
    let weight (row : F × ℕ) : F × ℕ × F :=
      (row.1, row.2, FloatOps.exp ((row.1 - top) / temperature))
    let values := rows.map weight
    let sum := values.foldl (fun sum value => sum + value.2.2) 0
    reject (FloatOps.isFinite sum = false ∨ FloatOps.le sum 0 = true) .invalidDecisionEvidence
    let selected := pickRow (random * sum) 0 (weight last) values
    pure (selected.2.1.toUInt16, (selected.1 - top) / temperature - FloatLog.ln sum)
  | _, _ => .error .invalidDecisionEvidence

/-- The mask of a motor slot. -/
def motorMask (enabled : Fin 6 → Bool) (candidates : List ActionCandidate)
    (slot : Fin 6) : UInt32 :=
  candidates.zipIdx.foldl (fun mask row =>
    if motorSlot row.1.kind = some slot ∧ enabled slot then mask ||| (1 : UInt32) <<< row.2.toUInt32
    else mask) 0

/-- The choice of a motor slot: forced, drawn or none. -/
def drawSlot (logits : List F) (masks : Fin 6 → UInt32)
    (forced : Option (Fin 6)) (representative : UInt16) (temperature : F)
    (seed counter : UInt32) (state : (Fin 6 → Option UInt16) × F)
    (slot : Fin 6) : Contract ((Fin 6 → Option UInt16) × F) :=
  if forced = some slot then pure (Function.update state.1 slot (some representative), state.2)
  else if masks slot ≠ 0 then do
    let (index, logProbability) ← sample logits (masks slot) temperature
      (draw F seed counter (slot.val + 1).toUInt32)
    pure (Function.update state.1 slot (some index), state.2 + logProbability)
  else pure state

/-- `sample_cpu_joint_action`. -/
def sampleCpuJointAction (heads : MotorHeads) (candidates : List ActionCandidate)
    (logits : List F) (seed counter : UInt32) (temperature : F) : Contract (PpoJointAction F) := do
  let count := logits.length
  reject (count = 0 ∨ 32 < count ∨ candidates.length ≠ count
    ∨ FloatOps.isFinite temperature = false ∨ FloatOps.le temperature 0 = true)
    .invalidDecisionEvidence
  reject (logits.all FloatOps.isFinite = false) .invalidDecisionEvidence
  let channels ← heads.factorizedMotorChannels
  let enabled (slot : Fin 6) : Bool := channels.any fun head => headSlot head = slot
  let representativeMask : UInt32 := 0xFFFFFFFF >>> (32 - count).toUInt32
  let masks := motorMask enabled candidates
  let (representative, logProbability) ← sample logits representativeMask temperature
    (draw F seed counter 0)
  let forced := (candidates[representative.toNat]?).bind fun c => forcedSlot c.kind
  let (motorCandidates, logProbability) ← (List.finRange 6).foldlM
    (drawSlot logits masks forced representative temperature seed counter)
    (fun _ => none, logProbability)
  let action : PpoJointAction F :=
    { candidateCount := count.toUInt16
      representativeMask
      motorMasks := masks
      representative
      forcedSlots := candidates.map fun c => (forcedSlot c.kind).map fun slot => slot.val.toUInt8
      motorCandidates
      oldJointLogProbability := logProbability
      temperature }
  action.validate temperature
  pure action

end Sampler

/-! ## What a draw is made of -/

theorem hasBit_or_shiftLeft (mask : UInt32) {i : ℕ} (hi : i < 32) (j : ℕ) :
    hasBit (mask ||| (1 : UInt32) <<< i.toUInt32) j = (hasBit mask j || decide (i = j)) := by
  have hshift : ((1 : UInt32) <<< i.toUInt32).toNat = 2 ^ i := by
    have hi' : i.toUInt32.toNat = i := UInt32.toNat_ofNat_of_lt' (by simp only [UInt32.size]; omega)
    rw [UInt32.toNat_shiftLeft, hi', Nat.mod_eq_of_lt hi, Nat.shiftLeft_eq]
    have hpow : 2 ^ i < 2 ^ 32 := Nat.pow_lt_pow_right one_lt_two hi
    rw [UInt32.toNat_one, one_mul, Nat.mod_eq_of_lt hpow]
  rw [hasBit, hasBit, UInt32.toNat_or, Nat.testBit_or, hshift, Nat.testBit_two_pow]

/-- The bits of a mask are the candidates of its slot, where the slot is enabled. -/
theorem hasBit_motorMask {enabled : Fin 6 → Bool} {candidates : List ActionCandidate}
    (hcount : candidates.length ≤ 32) {slot : Fin 6} {i : ℕ} :
    hasBit (motorMask enabled candidates slot) i = true ↔
      enabled slot = true ∧ ∃ c, candidates[i]? = some c ∧ motorSlot c.kind = some slot := by
  have hfold : ∀ (rows : List (ActionCandidate × ℕ)) (mask : UInt32), (∀ row ∈ rows, row.2 < 32) →
      (hasBit (rows.foldl (fun mask row =>
        if motorSlot row.1.kind = some slot ∧ enabled slot then
          mask ||| (1 : UInt32) <<< row.2.toUInt32
        else mask) mask) i = true ↔ hasBit mask i = true
          ∨ ∃ row ∈ rows, (motorSlot row.1.kind = some slot ∧ enabled slot) ∧ row.2 = i) := by
    intro rows
    induction rows with
    | nil => exact fun mask _ => by simp
    | cons row rows ih =>
      intro mask hrows
      rw [List.foldl_cons, ih _ fun r hr => hrows r (List.mem_cons_of_mem row hr)]
      split_ifs with hrow
      · rw [hasBit_or_shiftLeft _ (hrows row List.mem_cons_self), Bool.or_eq_true,
          decide_eq_true_eq]
        simp only [List.mem_cons, exists_eq_or_imp, hrow, true_and, or_assoc]
      · simp only [List.mem_cons, exists_eq_or_imp, hrow, false_and, false_or]
  have hzero : hasBit 0 i = false := Nat.zero_testBit i
  rw [motorMask, hfold _ _ fun row hrow => ?_]
  · simp only [hzero, Bool.false_eq_true, false_or, Prod.exists, List.mem_zipIdx_iff_getElem?]
    constructor
    · rintro ⟨c, j, hc, ⟨hslot, henabled⟩, rfl⟩
      exact ⟨henabled, c, hc, hslot⟩
    · rintro ⟨henabled, c, hc, hslot⟩
      exact ⟨c, i, hc, ⟨hslot, henabled⟩, rfl⟩
  · have := (List.mem_zipIdx' hrow).1
    omega

/-- A joint action over the candidates of a frame, for the head channels of a phenotype: the slot
that the representative forces holds it, every other one a candidate of its own. -/
structure Drawn (candidates : List ActionCandidate) (channels : List MotorChannel)
    (representative : UInt16) (motorCandidates : Fin 6 → Option UInt16) (first : ActionCandidate) :
    Prop where
  count : candidates.length ≤ 32
  first_eq : candidates[representative.toNat]? = some first
  forced : ∀ slot, forcedSlot first.kind = some slot → motorCandidates slot = some representative
  chosen : ∀ slot i, forcedSlot first.kind ≠ some slot → motorCandidates slot = some i →
    (∃ head ∈ channels, headSlot head = slot)
      ∧ ∃ c, candidates[i.toNat]? = some c ∧ motorSlot c.kind = some slot

section Results

variable {F : Type} [FloatOps F]

theorem toUInt8_inj {slot slot' : Fin 6} (h : slot.val.toUInt8 = slot'.val.toUInt8) :
    slot = slot' := by
  revert h
  revert slot slot'
  decide

/-- The check of a slot: what is forced is there, and what is there else is one of the mask. -/
theorem PpoJointAction.chosen_of_validate {a : PpoJointAction F} {temperature : F}
    (h : a.validate temperature = .ok ()) (slot : Fin 6) :
    (a.forced a.representative.toNat = some slot.val.toUInt8 →
      a.motorCandidates slot = some a.representative)
    ∧ (a.forced a.representative.toNat ≠ some slot.val.toUInt8 → ∀ i,
      a.motorCandidates slot = some i → hasBit (a.motorMasks slot) i.toNat = true) := by
  obtain ⟨-, h⟩ := contract_seq_eq_ok_iff.1 h
  obtain ⟨-, h⟩ := contract_seq_eq_ok_iff.1 h
  obtain ⟨-, h⟩ := contract_seq_eq_ok_iff.1
    (contract_forM_eq_ok_iff.1 h slot (List.mem_finRange slot))
  have hfits := reject_eq_ok_iff.1 (contract_seq_eq_ok_iff.1 h).2
  rw [Bool.not_eq_false] at hfits
  unfold candidateFits at hfits
  dsimp only at hfits
  have hval : UInt8.ofNat slot.val = slot.val.toUInt8 := rfl
  rw [hval] at hfits
  constructor
  · intro hforced
    rw [beq_iff_eq.2 hforced] at hfits
    cases hslot : a.motorCandidates slot with
    | none =>
      rw [hslot] at hfits
      simp at hfits
    | some i =>
      rw [hslot] at hfits
      exact congrArg some (beq_iff_eq.1 hfits)
  · intro hforced i hi
    rw [beq_eq_false_iff_ne.2 hforced, hi] at hfits
    exact (Bool.and_eq_true_iff.1 hfits).2

/-- **A sampled action is a joint action of its frame.** -/
theorem sampleCpuJointAction_eq_ok [FloatLog F] {heads : MotorHeads}
    {candidates : List ActionCandidate} {logits : List F} {seed counter : UInt32}
    {temperature : F} {a : PpoJointAction F}
    (h : sampleCpuJointAction heads candidates logits seed counter temperature = .ok a) :
    ∃ channels first, heads.factorizedMotorChannels = .ok channels
      ∧ Drawn candidates channels a.representative a.motorCandidates first := by
  obtain ⟨hcounts, h⟩ := contract_check_eq_ok_iff.1 h
  obtain ⟨-, h⟩ := contract_check_eq_ok_iff.1 h
  obtain ⟨channels, hchannels, h⟩ := contract_bind_eq_ok_iff.1 h
  obtain ⟨⟨representative, logp⟩, -, h⟩ := contract_bind_eq_ok_iff.1 h
  obtain ⟨⟨motorCandidates, logp'⟩, -, h⟩ := contract_bind_eq_ok_iff.1 h
  obtain ⟨hvalid, h⟩ := contract_check_eq_ok_iff.1 h
  obtain rfl := Except.ok.inj h
  rw [reject_eq_ok_iff] at hcounts
  push Not at hcounts
  obtain ⟨-, hmax, hlength, -⟩ := hcounts
  have hcount : logits.length.toUInt16.toNat = logits.length :=
    UInt16.toNat_ofNat_of_lt' (by simp only [UInt16.size]; omega)
  have hfirst := reject_eq_ok_iff.1 (contract_seq_eq_ok_iff.1 hvalid).1
  push Not at hfirst
  have hrep : representative.toNat < candidates.length := by
    have := hfirst.2.2.2.1
    dsimp only at this
    omega
  have hget : candidates[representative.toNat]? = some candidates[representative.toNat] :=
    List.getElem?_eq_getElem hrep
  generalize candidates[representative.toNat] = first at hget
  -- the slot of the representative, as the check reads it
  have hforced : ∀ slot : Fin 6,
      ((candidates.map fun c => (forcedSlot c.kind).map fun s => s.val.toUInt8)[
        representative.toNat]?).join = some slot.val.toUInt8 ↔
          forcedSlot first.kind = some slot := by
    intro slot
    rw [List.getElem?_map, hget]
    dsimp only [Option.map_some, Option.join_some]
    rw [Option.map_eq_some_iff]
    constructor
    · rintro ⟨s, hs, hval⟩
      exact hs.trans (congrArg some (toUInt8_inj hval))
    · exact fun hs => ⟨slot, hs, rfl⟩
  refine ⟨channels, first, hchannels, by omega, hget, fun slot hslot => ?_,
    fun slot i hslot hi => ?_⟩
  · exact (PpoJointAction.chosen_of_validate hvalid slot).1 ((hforced slot).2 hslot)
  · have hbit := (PpoJointAction.chosen_of_validate hvalid slot).2
      (fun h => hslot ((hforced slot).1 h)) i hi
    obtain ⟨henabled, c, hc, hslot⟩ := (hasBit_motorMask (by omega)).1 hbit
    obtain ⟨head, hhead, heq⟩ := List.any_eq_true.1 henabled
    exact ⟨⟨head, hhead, of_decide_eq_true heq⟩, c, hc, hslot⟩

end Results

end Training

end ALife
