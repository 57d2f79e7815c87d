/-
# The joint policy

The joint actions that `PpoJointAction::validate` admits for a frame, with the
product of the softmaxes of their masks, over the reals.  Their probabilities sum
to one (`sum_exp_actionLog`), and the sum of entropies that `cpu_ppo_objective`
reports is the entropy of this distribution (`policyEntropy_eq`).
-/

import ALife.Training.ExactPolicy

namespace ALife

open Machine

namespace Training

attribute [local
instance] exactReals exactLog

/-- A joint action for the frame of another one. -/
def PpoJointAction.withChoice (a : PpoJointAction ℝ)
    (x : Σ _ : UInt16, Fin ppoMotorSlots → Option UInt16) : PpoJointAction ℝ :=
  { a with representative := x.1, motorCandidates := x.2 }

/-- What the check of a joint action asks of its frame alone. -/
structure FrameFits (a : PpoJointAction ℝ) : Prop where
  count_pos : 0 < a.candidateCount.toNat
  count_le : a.candidateCount.toNat ≤ 32
  forced_length : a.forcedSlots.length = a.candidateCount.toNat
  old : ¬ (literal 1 100000 : ℝ) < a.oldJointLogProbability
  temperature : 0 < a.temperature
  representativeMask : a.representativeMask ≠ 0
  representativeMask_lt : a.representativeMask.toNat < 2 ^ a.candidateCount.toNat
  forcedSlots : ∀ slot ∈ a.forcedSlots.filterMap id, slot.toNat < ppoMotorSlots
  masks : ∀ s, a.motorMasks s &&& ~~~a.representativeMask = 0
  masksFit : ∀ s, a.maskFits s = true

theorem validate_iff {a : PpoJointAction ℝ} {temperature : ℝ} :
    a.validate temperature = .ok () ↔ FrameFits a
      ∧ a.representative.toNat < a.candidateCount.toNat
      ∧ hasBit a.representativeMask a.representative.toNat = true
      ∧ ∀ s, a.candidateFits s = true := by
  unfold PpoJointAction.validate
  constructor
  · intro h
    obtain ⟨hcounts, h⟩ := contract_seq_eq_ok_iff.1 h
    obtain ⟨hmasks, h⟩ := contract_seq_eq_ok_iff.1 h
    rw [reject_eq_ok_iff] at hcounts hmasks
    push Not at hcounts hmasks
    obtain ⟨hpos, hle, hlength, hrep, -, hold, -, -, htemperature⟩ := hcounts
    obtain ⟨hmask, hlt, hbit, hforced⟩ := hmasks
    have hslots : ∀ s, a.motorMasks s &&& ~~~a.representativeMask = 0
        ∧ a.maskFits s = true ∧ a.candidateFits s = true := by
      intro s
      obtain ⟨hsub, h⟩ := contract_seq_eq_ok_iff.1
        (contract_forM_eq_ok_iff.1 h s (List.mem_finRange s))
      obtain ⟨hfits, h⟩ := contract_seq_eq_ok_iff.1 h
      rw [reject_eq_ok_iff] at hsub hfits h
      rw [Bool.not_eq_false] at hfits h
      exact ⟨not_not.1 hsub, hfits, h⟩
    refine ⟨⟨Nat.pos_of_ne_zero hpos, hle, hlength, fun hlt => hold (decide_eq_true hlt), ?_,
      hmask, hlt, hforced, fun s => (hslots s).1, fun s => (hslots s).2.1⟩, hrep,
      by simpa using hbit, fun s => (hslots s).2.2⟩
    exact not_le.1 fun hle => htemperature (decide_eq_true hle)
  · rintro ⟨h, hrep, hbit, hfits⟩
    refine contract_seq_eq_ok_iff.2 ⟨reject_eq_ok_iff.2 ?_, contract_seq_eq_ok_iff.2
      ⟨reject_eq_ok_iff.2 ?_, contract_forM_eq_ok_iff.2 fun s _ => contract_seq_eq_ok_iff.2
        ⟨reject_eq_ok_iff.2 (not_not.2 (h.masks s)), contract_seq_eq_ok_iff.2
          ⟨reject_eq_ok_iff.2 ?_, reject_eq_ok_iff.2 ?_⟩⟩⟩⟩
    · push Not
      exact ⟨h.count_pos.ne', h.count_le, h.forced_length, hrep, nofun,
        fun hlt => h.old (of_decide_eq_true hlt), rfl, nofun,
        fun hle => not_le.2 h.temperature (of_decide_eq_true hle)⟩
    · push Not
      exact ⟨h.representativeMask, h.representativeMask_lt, by simpa using hbit, h.forcedSlots⟩
    · rw [Bool.not_eq_false]
      exact h.masksFit s
    · rw [Bool.not_eq_false]
      exact hfits s

/-- The candidates of a mask, as the action names them. -/
def maskCandidates (count : ℕ) (mask : UInt32) : Finset UInt16 :=
  (support count mask).image Nat.toUInt16

theorem mem_maskCandidates {count : ℕ} {mask : UInt32} (hcount : count ≤ 32) {i : UInt16} :
    i ∈ maskCandidates count mask ↔ i.toNat ∈ support count mask := by
  rw [maskCandidates, Finset.mem_image]
  constructor
  · rintro ⟨j, hj, rfl⟩
    rwa [toNat_toUInt16 hcount hj]
  · exact fun hi => ⟨i.toNat, hi, UInt16.toNat_inj.1 (toNat_toUInt16 hcount hi)⟩

theorem sum_maskCandidates {count : ℕ} {mask : UInt32} (hcount : count ≤ 32) (f : ℕ → ℝ) :
    ∑ i ∈ maskCandidates count mask, f i.toNat = ∑ i ∈ support count mask, f i := by
  rw [maskCandidates, Finset.sum_image]
  · exact Finset.sum_congr rfl fun i hi => by rw [toNat_toUInt16 hcount hi]
  · intro i hi j hj heq
    rw [← toNat_toUInt16 hcount hi, heq, toNat_toUInt16 hcount hj]

/-- The choices of a slot: the representative where it forces the slot, else one of its mask. -/
def slotOptions (a : PpoJointAction ℝ) (r : UInt16) (s : Fin ppoMotorSlots) :
    Finset (Option UInt16) :=
  if forcedBy a r.toNat s = true then {some r}
  else if a.motorMasks s = 0 then {none}
  else (maskCandidates a.candidateCount.toNat (a.motorMasks s)).map ⟨some, Option.some_injective _⟩

/-- The joint actions of a frame. -/
def admissible (a : PpoJointAction ℝ) : Finset (Σ _ : UInt16, Fin ppoMotorSlots → Option UInt16) :=
  outcomes (maskCandidates a.candidateCount.toNat a.representativeMask) (slotOptions a)

/-- **What the check admits.** -/
theorem mem_admissible {a : PpoJointAction ℝ} (h : FrameFits a) {temperature : ℝ}
    {x : Σ _ : UInt16, Fin ppoMotorSlots → Option UInt16} :
    x ∈ admissible a ↔ (a.withChoice x).validate temperature = .ok () := by
  obtain ⟨r, c⟩ := x
  have hframe : FrameFits (a.withChoice ⟨r, c⟩) :=
    ⟨h.count_pos, h.count_le, h.forced_length, h.old, h.temperature, h.representativeMask,
      h.representativeMask_lt, h.forcedSlots, h.masks, h.masksFit⟩
  have hslot : ∀ s, (a.withChoice ⟨r, c⟩).candidateFits s = true ↔ c s ∈ slotOptions a r s := by
    intro s
    have hforcedSlot : (a.withChoice ⟨r, c⟩).forced = a.forced := rfl
    have hrepresentative : (a.withChoice ⟨r, c⟩).representative = r := rfl
    have hchoice : (a.withChoice ⟨r, c⟩).motorCandidates = c := rfl
    have hcount : (a.withChoice ⟨r, c⟩).candidateCount = a.candidateCount := rfl
    have hmasks : (a.withChoice ⟨r, c⟩).motorMasks = a.motorMasks := rfl
    unfold PpoJointAction.candidateFits slotOptions forcedBy
    rw [hforcedSlot, hrepresentative, hchoice, hcount, hmasks]
    cases hforced : a.forced r.toNat == some (UInt8.ofNat s.val) with
    | true =>
      cases hc : c s with
      | none => simp
      | some i => simp
    | false =>
      by_cases hmask : a.motorMasks s = 0
      · cases hc : c s with
        | none => simp [hmask]
        | some i => simp [hmask, hasBit]
      · cases hc : c s with
        | none => simp [hmask]
        | some i =>
          simp [hmask, mem_maskCandidates h.count_le, mem_support, UInt16.lt_iff_toNat_lt]
  rw [validate_iff, admissible, outcomes, Finset.mem_sigma, Fintype.mem_piFinset,
    mem_maskCandidates h.count_le, mem_support]
  constructor
  · rintro ⟨⟨hlt, hbit⟩, hc⟩
    exact ⟨hframe, hlt, hbit, fun s => (hslot s).2 (hc s)⟩
  · rintro ⟨-, hlt, hbit, hc⟩
    exact ⟨⟨hlt, hbit⟩, fun s => (hslot s).1 (hc s)⟩

/-! ### The distribution -/

section Distribution

variable {a : PpoJointAction ℝ} {temperature : ℝ} {x : ℕ → ℝ}

/-- The log probability of a representative. -/
noncomputable def firstLog (a : PpoJointAction ℝ) (temperature : ℝ) (x : ℕ → ℝ) (r : UInt16) : ℝ :=
  logSoftmax (support a.candidateCount.toNat a.representativeMask) temperature x r.toNat

/-- The log probability of a slot under a representative: none where there is no choice. -/
noncomputable def laterLog (a : PpoJointAction ℝ) (temperature : ℝ) (x : ℕ → ℝ) (r : UInt16)
    (s : Fin ppoMotorSlots) (choice : Option UInt16) : ℝ :=
  if forcedBy a r.toNat s = true ∨ a.motorMasks s = 0 then 0
  else choice.elim 0 fun i =>
    logSoftmax (support a.candidateCount.toNat (a.motorMasks s)) temperature x i.toNat

/-- The log probability of a joint action. -/
noncomputable def actionLog (a : PpoJointAction ℝ) (temperature : ℝ) (x : ℕ → ℝ) :
    (Σ _ : UInt16, Fin ppoMotorSlots → Option UInt16) → ℝ :=
  jointLog (firstLog a temperature x) (laterLog a temperature x)

/-- The probability that a slot is forced. -/
noncomputable def slotMass (a : PpoJointAction ℝ) (temperature : ℝ) (x : ℕ → ℝ)
    (s : Fin ppoMotorSlots) : ℝ :=
  ∑ i ∈ (support a.candidateCount.toNat a.representativeMask).filter (forcedBy a · s = true),
    softmax (support a.candidateCount.toNat a.representativeMask) temperature x i

noncomputable def slotEntropy (a : PpoJointAction ℝ) (temperature : ℝ) (x : ℕ → ℝ)
    (s : Fin ppoMotorSlots) : ℝ :=
  softEntropy (support a.candidateCount.toNat (a.motorMasks s)) temperature x

/-- The entropy that is reported. -/
noncomputable def policyEntropy (a : PpoJointAction ℝ) (temperature : ℝ) (x : ℕ → ℝ) : ℝ :=
  softEntropy (support a.candidateCount.toNat a.representativeMask) temperature x
    + ∑ s, (1 - slotMass a temperature x s) * slotEntropy a temperature x s

/-- A mask of some candidates has a candidate. -/
theorem support_nonempty {count : ℕ} {mask : UInt32} (hlt : mask.toNat < 2 ^ count)
    (hmask : mask ≠ 0) : (support count mask).Nonempty := by
  have hne : mask.toNat ≠ 0 := fun h => hmask (UInt32.toNat_inj.1 h)
  obtain ⟨i, hi⟩ := Nat.exists_testBit_of_ne_zero hne
  refine ⟨i, mem_support.2 ⟨?_, hi⟩⟩
  exact (Nat.pow_lt_pow_iff_right one_lt_two).1 ((Nat.ge_two_pow_of_testBit hi).trans_lt hlt)

theorem FrameFits.representatives (h : FrameFits a) :
    (support a.candidateCount.toNat a.representativeMask).Nonempty :=
  support_nonempty h.representativeMask_lt h.representativeMask

/-- A word without bits outside of another one. -/
theorem and_eq_left {x y : UInt32} (h : x &&& ~~~y = 0) : x &&& y = x := by
  have hbits := congrArg UInt32.toBitVec h
  rw [UInt32.toBitVec_and, UInt32.toBitVec_not] at hbits
  apply UInt32.toBitVec_inj.1
  rw [UInt32.toBitVec_and]
  refine BitVec.eq_of_getElem_eq fun i hi => ?_
  have hbit := congrArg (fun b : BitVec 32 => b[i]) hbits
  simp only [BitVec.getElem_and, BitVec.getElem_not] at hbit ⊢
  revert hbit
  cases x.toBitVec[i] <;> cases y.toBitVec[i] <;> simp

/-- A word whose bits are among those of another one. -/
theorem and_not_eq_zero {x y : UInt32} (h : ∀ i, hasBit x i = true → hasBit y i = true) :
    x &&& ~~~y = 0 := by
  apply UInt32.toBitVec_inj.1
  rw [UInt32.toBitVec_and, UInt32.toBitVec_not]
  refine BitVec.eq_of_getElem_eq fun i hi => ?_
  have hbit := h i
  rw [hasBit, hasBit, ← UInt32.toNat_toBitVec, ← UInt32.toNat_toBitVec, ← BitVec.getLsbD,
    ← BitVec.getLsbD, BitVec.getLsbD_eq_getElem hi, BitVec.getLsbD_eq_getElem hi] at hbit
  rw [BitVec.getElem_and, BitVec.getElem_not]
  revert hbit
  cases x.toBitVec[i] <;> cases y.toBitVec[i] <;> simp

theorem FrameFits.motors (h : FrameFits a) {s : Fin ppoMotorSlots} (hmask : a.motorMasks s ≠ 0) :
    (support a.candidateCount.toNat (a.motorMasks s)).Nonempty := by
  have hsub : a.motorMasks s &&& a.representativeMask = a.motorMasks s :=
    and_eq_left (h.masks s)
  refine support_nonempty (lt_of_le_of_lt ?_ h.representativeMask_lt) hmask
  rw [← hsub, UInt32.toNat_and]
  exact Nat.and_le_right

theorem sum_exp_firstLog (h : FrameFits a) :
    ∑ r ∈ maskCandidates a.candidateCount.toNat a.representativeMask,
      Real.exp (firstLog a temperature x r) = 1 := by
  unfold firstLog
  rw [sum_maskCandidates h.count_le fun i => Real.exp (logSoftmax
    (support a.candidateCount.toNat a.representativeMask) temperature x i)]
  simp only [exp_logSoftmax h.representatives]
  exact sum_softmax h.representatives

theorem sum_exp_laterLog (h : FrameFits a) (r : UInt16) (s : Fin ppoMotorSlots) :
    ∑ o ∈ slotOptions a r s, Real.exp (laterLog a temperature x r s o) = 1 := by
  unfold slotOptions laterLog
  by_cases hforced : forcedBy a r.toNat s = true
  · simp [hforced]
  · by_cases hmask : a.motorMasks s = 0
    · simp [hforced, hmask]
    · simp only [hforced, hmask, or_self, if_false, Bool.false_eq_true, Finset.sum_map,
        Function.Embedding.coeFn_mk, Option.elim_some]
      rw [sum_maskCandidates h.count_le fun i => Real.exp (logSoftmax
        (support a.candidateCount.toNat (a.motorMasks s)) temperature x i)]
      simp only [exp_logSoftmax (h.motors hmask)]
      exact sum_softmax (h.motors hmask)

/-- The mean of a slot: its entropy where it is drawn. -/
theorem sum_exp_mul_laterLog (h : FrameFits a) (r : UInt16) (s : Fin ppoMotorSlots) :
    ∑ o ∈ slotOptions a r s, Real.exp (laterLog a temperature x r s o)
        * laterLog a temperature x r s o
      = if forcedBy a r.toNat s = true then 0 else -slotEntropy a temperature x s := by
  unfold slotOptions laterLog
  by_cases hforced : forcedBy a r.toNat s = true
  · simp [hforced]
  · by_cases hmask : a.motorMasks s = 0
    · simp [hforced, hmask, slotEntropy, support_zero, softEntropy]
    · simp only [hforced, hmask, or_self, if_false, Bool.false_eq_true, Finset.sum_map,
        Function.Embedding.coeFn_mk, Option.elim_some]
      rw [sum_maskCandidates h.count_le fun i => Real.exp (logSoftmax
          (support a.candidateCount.toNat (a.motorMasks s)) temperature x i)
        * logSoftmax (support a.candidateCount.toNat (a.motorMasks s)) temperature x i,
        slotEntropy, softEntropy, neg_neg]
      simp only [exp_logSoftmax (h.motors hmask)]

/-- The joint actions of a frame are exhaustive. -/
theorem sum_exp_actionLog (h : FrameFits a) :
    ∑ y ∈ admissible a, Real.exp (actionLog a temperature x y) = 1 :=
  sum_exp_jointLog (sum_exp_firstLog h) fun r _ s => sum_exp_laterLog h r s

/-- A sum over the representatives that do not force a slot. -/
theorem sum_not_forced (h : FrameFits a) (s : Fin ppoMotorSlots) :
    ∑ i ∈ support a.candidateCount.toNat a.representativeMask,
        softmax (support a.candidateCount.toNat a.representativeMask) temperature x i
          * (if forcedBy a i s = true then 0 else -slotEntropy a temperature x s)
      = -((1 - slotMass a temperature x s) * slotEntropy a temperature x s) := by
  have hone : ∑ i ∈ support a.candidateCount.toNat a.representativeMask,
      softmax (support a.candidateCount.toNat a.representativeMask) temperature x i = 1 :=
    sum_softmax h.representatives
  have hsplit := Finset.sum_filter_add_sum_filter_not
    (support a.candidateCount.toNat a.representativeMask) (forcedBy a · s = true)
    (softmax (support a.candidateCount.toNat a.representativeMask) temperature x)
  rw [hone] at hsplit
  have hterms : ∀ i, softmax (support a.candidateCount.toNat a.representativeMask) temperature x i
      * (if forcedBy a i s = true then 0 else -slotEntropy a temperature x s)
      = (if ¬ forcedBy a i s = true then
          softmax (support a.candidateCount.toNat a.representativeMask) temperature x i else 0)
        * -slotEntropy a temperature x s := by
    intro i
    split_ifs <;> ring
  rw [Finset.sum_congr rfl fun i _ => hterms i, ← Finset.sum_mul, ← Finset.sum_filter]
  have hrest : ∑ i ∈ (support a.candidateCount.toNat a.representativeMask).filter
        (¬ forcedBy a · s = true),
      softmax (support a.candidateCount.toNat a.representativeMask) temperature x i
        = 1 - slotMass a temperature x s := by
    rw [slotMass, ← hsplit]
    ring
  rw [hrest]
  ring

/-- **The reported entropy** is that of the joint actions. -/
theorem policyEntropy_eq (h : FrameFits a) :
    policyEntropy a temperature x = -∑ y ∈ admissible a,
      Real.exp (actionLog a temperature x y) * actionLog a temperature x y := by
  set S := support a.candidateCount.toNat a.representativeMask with hS
  set p := softmax S temperature x
  set lp := logSoftmax S temperature x
  have hmean : ∑ y ∈ admissible a,
        Real.exp (actionLog a temperature x y) * actionLog a temperature x y
      = ∑ r ∈ maskCandidates a.candidateCount.toNat a.representativeMask,
        Real.exp (firstLog a temperature x r) * (firstLog a temperature x r
          + ∑ s, ∑ o ∈ slotOptions a r s,
            Real.exp (laterLog a temperature x r s o) * laterLog a temperature x r s o) :=
    sum_exp_mul_jointLog fun r _ s => sum_exp_laterLog h r s
  have hterms : ∑ r ∈ maskCandidates a.candidateCount.toNat a.representativeMask,
        Real.exp (firstLog a temperature x r) * (firstLog a temperature x r
          + ∑ s, ∑ o ∈ slotOptions a r s,
            Real.exp (laterLog a temperature x r s o) * laterLog a temperature x r s o)
      = ∑ i ∈ S, (p i * lp i + ∑ s, p i * (if forcedBy a i s = true then 0
          else -slotEntropy a temperature x s)) := by
    rw [← sum_maskCandidates h.count_le]
    refine Finset.sum_congr rfl fun r _ => ?_
    simp only [sum_exp_mul_laterLog h]
    rw [firstLog, exp_logSoftmax h.representatives, mul_add, Finset.mul_sum]
  rw [hmean, hterms, Finset.sum_add_distrib, Finset.sum_comm]
  simp only [sum_not_forced h, p, S]
  rw [policyEntropy, softEntropy, Finset.sum_neg_distrib]
  ring

end Distribution

end Training

end ALife
