/-
# The imitation objective in exact arithmetic

`cpu_imitation_objective` over the reals.  A valid demonstration is always answered,
and its loss is the weighted surprise of the labels: the negative log of the
probability, under the joint policy of the frame, of all joint actions that carry
them (`imitation_loss`).  The reported gradients are its derivative along every
differentiable curve of logits (`imitation_hasDerivAt`).
-/

import ALife.Training.PolicyGradient

namespace ALife

open Machine

namespace Training

attribute [local
instance] exactReals exactLog

/-! ### Masks by their bits -/

theorem hasBit_and (x y : UInt32) (i : ℕ) : hasBit (x &&& y) i = (hasBit x i && hasBit y i) := by
  unfold hasBit
  rw [UInt32.toNat_and, Nat.testBit_and]

theorem hasBit_of_and_not {x y : UInt32} (h : x &&& ~~~y = 0) {i : ℕ} (hi : hasBit x i = true) :
    hasBit y i = true := by
  rw [← and_eq_left h, hasBit_and, Bool.and_eq_true] at hi
  exact hi.2

namespace ImitationExample

variable {e : ImitationExample}

theorem hasBit_possible (hcount : e.candidateCount.toNat ≤ 32) (s : Fin ppoMotorSlots) (i : ℕ) :
    hasBit (e.possible s) i = true ↔ i < e.candidateCount.toNat ∧ e.forces i s = true
      ∧ hasBit e.representativeMask i = true := by
  have hfold : ∀ (l : List ℕ) (mask : UInt32), (∀ j ∈ l, j < 32) →
      (hasBit (l.foldl (fun mask j => mask ||| (1 : UInt32) <<< j.toUInt32) mask) i = true
        ↔ hasBit mask i = true ∨ i ∈ l) := by
    intro l
    induction l with
    | nil => simp
    | cons j l ih =>
      intro mask hl
      rw [List.forall_mem_cons] at hl
      rw [List.foldl_cons, ih _ hl.2, hasBit_or_shiftLeft _ hl.1, Bool.or_eq_true,
        decide_eq_true_eq, List.mem_cons, or_assoc, eq_comm (a := i)]
  unfold possible
  dsimp only
  rw [hasBit_and, Bool.and_eq_true, hfold _ _ fun j hj => ?_, List.mem_filter, List.mem_range]
  · simp [hasBit, and_assoc]
  · exact (List.mem_range.1 (List.mem_filter.1 hj).1).trans_le hcount

/-- The frame of a demonstration. -/
noncomputable def frame (e : ImitationExample) (temperature : ℝ) : PpoJointAction ℝ where
  candidateCount := e.candidateCount
  representativeMask := e.representativeMask
  motorMasks := e.motorMasks
  representative := 0
  forcedSlots := e.forcedSlots
  motorCandidates _ := none
  oldJointLogProbability := 0
  temperature

/-- The representatives that some joint action with the labels has. -/
def labelled (e : ImitationExample) : Finset ℕ :=
  (Finset.range e.candidateCount.toNat).filter fun r =>
    (hasBit e.labelledMask r && e.permits r) = true

/-- What a valid demonstration is. -/
structure Fits (e : ImitationExample) : Prop where
  frame : ∀ {temperature : ℝ}, 0 < temperature → FrameFits (e.frame temperature)
  representative : ∀ r, hasBit e.labelledMask r = true → hasBit e.representativeMask r = true
  labelled : e.labelled.Nonempty

theorem fits_of_validate (h : e.validate = .ok ()) : e.Fits := by
  obtain ⟨hcounts, h⟩ := contract_seq_eq_ok_iff.1 h
  obtain ⟨hmasks, h⟩ := contract_seq_eq_ok_iff.1 h
  obtain ⟨hslots, h⟩ := contract_seq_eq_ok_iff.1 h
  rw [reject_eq_ok_iff] at hcounts hmasks h
  rw [Bool.not_eq_false] at h
  push Not at hcounts hmasks
  obtain ⟨hpos, hle, hlength⟩ := hcounts
  obtain ⟨hmask, hlt, hforced, htarget, -⟩ := hmasks
  have hmotors : ∀ s, e.motorMasks s &&& ~~~e.possible s = 0 := by
    intro s
    have hs := contract_forM_eq_ok_iff.1 hslots s (List.mem_finRange s)
    rw [reject_eq_ok_iff, not_or, not_not] at hs
    exact hs.1
  have hbits : ∀ s i, hasBit (e.motorMasks s) i = true →
      e.forces i s = true ∧ hasBit e.representativeMask i = true := fun s i hi =>
    ((hasBit_possible hle s i).1 (hasBit_of_and_not (hmotors s) hi)).2
  refine ⟨fun {temperature} htemperature => ⟨Nat.pos_of_ne_zero hpos, hle, hlength, ?_,
    htemperature, hmask, hlt, hforced, fun s => and_not_eq_zero fun i hi => (hbits s i hi).2,
    fun s => ?_⟩, fun r hr => ?_, ?_⟩
  · change ¬ ((1 : ℤ) : ℝ) / ((100000 : ℕ) : ℝ) < 0
    norm_num
  · refine List.all_eq_true.2 fun i _ => ?_
    cases hi : hasBit (e.motorMasks s) i with
    | false => rw [show (e.frame temperature).motorMasks s = e.motorMasks s from rfl, hi]; rfl
    | true => exact Bool.or_eq_true_iff.2 (.inr (hbits s i hi).1)
  · unfold labelledMask at hr
    cases hrep : e.target.representative with
    | none => rwa [hrep] at hr
    | some mask =>
      rw [hrep] at hr
      exact hasBit_of_and_not (htarget mask hrep).2 hr
  · obtain ⟨r, hr, hpermits⟩ := List.any_eq_true.1 h
    exact ⟨r, Finset.mem_filter.2 ⟨Finset.mem_range.2 (List.mem_range.1 hr), hpermits⟩⟩

/-! ### The loss -/

section Loss

variable {temperature : ℝ} {x : ℕ → ℝ}

/-- The log of what the labelled candidates of a slot weigh there. -/
noncomputable def labelLog (e : ImitationExample) (temperature : ℝ) (x : ℕ → ℝ)
    (s : Fin ppoMotorSlots) : ℝ :=
  if e.labelMask s = 0 then 0
  else Real.log (partitionSum (support e.candidateCount.toNat (e.labelMask s)) temperature x)
    - Real.log (partitionSum (support e.candidateCount.toNat (e.motorMasks s)) temperature x)

/-- A slot is labelled, and the representative leaves it open. -/
def drawn (e : ImitationExample) (r : ℕ) (s : Fin ppoMotorSlots) : Bool :=
  (e.target.motors s).isSome && !e.forces r s

/-- The log of what the joint actions with the labels and a representative weigh. -/
noncomputable def termLog (e : ImitationExample) (temperature : ℝ) (x : ℕ → ℝ) (r : ℕ) : ℝ :=
  logSoftmax (support e.candidateCount.toNat e.representativeMask) temperature x r
    + ∑ s, if e.drawn r s = true then e.labelLog temperature x s else 0

/-- The representatives of the joint actions with the labels. -/
noncomputable def posterior (e : ImitationExample) (temperature : ℝ) (x : ℕ → ℝ) (r : ℕ) : ℝ :=
  if r ∈ e.labelled then softmax e.labelled 1 (e.termLog temperature x) r else 0

/-- How probable it is that a joint action with the labels forces a slot. -/
noncomputable def forcedPosterior (e : ImitationExample) (temperature : ℝ) (x : ℕ → ℝ)
    (s : Fin ppoMotorSlots) : ℝ :=
  ∑ r ∈ Finset.range e.candidateCount.toNat,
    if e.forces r s = true then e.posterior temperature x r else 0

/-- What a logit adds to the loss of weight one, times the temperature. -/
noncomputable def lossGradient (e : ImitationExample) (temperature : ℝ) (x : ℕ → ℝ) (i : ℕ) : ℝ :=
  (exactDistribution e.candidateCount.toNat e.representativeMask temperature x).p i
      - e.posterior temperature x i
    + ∑ s, if (e.target.motors s).isSome = true then
        (1 - e.forcedPosterior temperature x s)
          * ((exactDistribution e.candidateCount.toNat (e.motorMasks s) temperature x).p i
            - (exactDistribution e.candidateCount.toNat (e.labelMask s) temperature x).p i)
      else 0

/-- The objective of a demonstration. -/
noncomputable def exactImitation (e : ImitationExample) (temperature coefficient : ℝ)
    (x : ℕ → ℝ) : CpuImitationObjective ℝ where
  loss := -coefficient * Real.log (partitionSum e.labelled 1 (e.termLog temperature x))
  logitGradients := (List.range e.candidateCount.toNat).map fun i =>
    coefficient * e.lossGradient temperature x i / temperature

theorem hasBit_labelMask {s : Fin ppoMotorSlots} {i : ℕ} (h : hasBit (e.labelMask s) i = true) :
    hasBit (e.motorMasks s) i = true := by
  unfold labelMask at h
  cases hmask : e.target.motors s with
  | none =>
    rw [hmask] at h
    simp [hasBit] at h
  | some mask =>
    rw [hmask, Option.elim_some, hasBit_and, Bool.and_eq_true] at h
    exact h.2

theorem labelMask_support (s : Fin ppoMotorSlots) :
    support e.candidateCount.toNat (e.labelMask s)
      ⊆ support e.candidateCount.toNat (e.motorMasks s) := fun _ hi =>
  mem_support.2 ⟨(mem_support.1 hi).1, hasBit_labelMask (mem_support.1 hi).2⟩

theorem labelMask_nonempty (h : e.Fits) {s : Fin ppoMotorSlots} (hmask : e.labelMask s ≠ 0) :
    (support e.candidateCount.toNat (e.labelMask s)).Nonempty := by
  have hframe := h.frame one_pos
  have hne : (e.labelMask s).toNat ≠ 0 := fun hzero => hmask (UInt32.toNat_inj.1 hzero)
  obtain ⟨i, hi⟩ := Nat.exists_testBit_of_ne_zero hne
  refine ⟨i, mem_support.2 ⟨?_, hi⟩⟩
  have hmotors : hasBit e.representativeMask i = true :=
    hasBit_of_and_not (hframe.masks s) (hasBit_labelMask hi)
  exact (Nat.pow_lt_pow_iff_right one_lt_two).1
    ((Nat.ge_two_pow_of_testBit hmotors).trans_lt hframe.representativeMask_lt)

theorem accept_eq (h : e.Fits) {logits : List ℝ}
    (hlength : logits.length = e.candidateCount.toNat) (s : Fin ppoMotorSlots) :
    e.accept logits (exactDistributions (e.frame temperature) temperature (logitAt logits))
        temperature s
      = .ok (exactDistribution e.candidateCount.toNat (e.labelMask s) temperature (logitAt logits),
        e.labelLog temperature (logitAt logits) s) := by
  have hmask : e.labelMask s = 0 ∨ (support logits.length (e.labelMask s)).Nonempty := by
    rw [or_iff_not_imp_left, hlength]
    exact labelMask_nonempty h
  refine contract_bind_eq_ok_iff.2 ⟨_, categorical_eq temperature hmask, ?_⟩
  rw [hlength]
  unfold labelLog
  split_ifs with hzero
  · rfl
  · obtain ⟨i, hi⟩ := labelMask_nonempty h hzero
    cases hfind : (List.range e.candidateCount.toNat).find? (hasBit (e.labelMask s)) with
    | none =>
      exact absurd (mem_support.1 hi).2
        (List.find?_eq_none.1 hfind i (List.mem_range.2 (mem_support.1 hi).1))
    | some pivot =>
      have hpivot : pivot ∈ support e.candidateCount.toNat (e.labelMask s) :=
        mem_support.2 ⟨List.mem_range.1 (List.mem_of_find?_eq_some hfind), List.find?_some hfind⟩
      refine congrArg Except.ok (Prod.ext rfl ?_)
      change (exactDistribution e.candidateCount.toNat (e.motorMasks s) temperature
          (logitAt logits)).lp pivot
        - (exactDistribution e.candidateCount.toNat (e.labelMask s) temperature
          (logitAt logits)).lp pivot = _
      unfold exactDistribution logSoftmax
      dsimp only
      rw [if_pos hpivot, if_pos (labelMask_support s hpivot)]
      ring

theorem term_eq {r : ℕ} (h : e.Fits) (hr : r < e.candidateCount.toNat) :
    e.term (exactDistributions (e.frame temperature) temperature x) (e.labelLog temperature x) r
      = if r ∈ e.labelled then some (e.termLog temperature x r) else none := by
  have hmem : r ∈ e.labelled ↔ (hasBit e.labelledMask r && e.permits r) = true := by
    rw [labelled, Finset.mem_filter, Finset.mem_range, and_iff_right hr]
  unfold term
  rw [if_congr hmem rfl rfl]
  refine if_ctx_congr Iff.rfl (fun hlabelled => congrArg some ?_) fun _ => rfl
  rw [Bool.and_eq_true] at hlabelled
  refine (foldl_if_add (e.drawn r) (e.labelLog temperature x) _ _).trans ?_
  rw [termLog, Fin.sum_univ_def]
  refine congrArg (· + _) (if_pos (mem_support.2 ⟨hr, h.representative r hlabelled.1⟩))

theorem exists_foldl_maxOption {terms : List (Option ℝ)} {start : Option ℝ}
    (h : start.isSome = true ∨ ∃ t, some t ∈ terms) :
    ∃ top, terms.foldl maxOption start = some top := by
  induction terms generalizing start with
  | nil =>
    obtain hstart | ⟨t, ht⟩ := h
    · exact Option.isSome_iff_exists.1 hstart
    · exact absurd ht List.not_mem_nil
  | cons t terms ih =>
    refine ih ?_
    cases start with
    | some top => cases t <;> exact .inl rfl
    | none =>
      cases t with
      | some t => exact .inl rfl
      | none => exact .inr (by simpa using h)

/-- `terms`. -/
noncomputable def exactTerms (e : ImitationExample) (temperature : ℝ) (x : ℕ → ℝ) :
    List (Option ℝ) :=
  (List.range e.candidateCount.toNat).map fun r =>
    if r ∈ e.labelled then some (e.termLog temperature x r) else none

/-- A term above the largest one, as a weight. -/
noncomputable def exactWeight (top : ℝ) (t : Option ℝ) : ℝ := t.elim 0 fun t => Real.exp (t - top)

theorem exists_maxTerm (h : e.Fits) (temperature : ℝ) (x : ℕ → ℝ) :
    ∃ top, maxTerm (e.exactTerms temperature x) = some top := by
  obtain ⟨r, hr⟩ := h.labelled
  refine exists_foldl_maxOption (.inr ⟨e.termLog temperature x r, ?_⟩)
  exact List.mem_map.2 ⟨r, List.mem_range.2 (Finset.mem_range.1 (Finset.mem_filter.1 hr).1),
    if_pos hr⟩

/-- The weights sum to those of the labelled representatives, whatever was taken away. -/
theorem sum_exactWeight (temperature : ℝ) (x : ℕ → ℝ) (top : ℝ) :
    ((e.exactTerms temperature x).map (exactWeight top)).sum
      = Real.exp (-(top / 1)) * partitionSum e.labelled 1 (e.termLog temperature x) := by
  rw [← sum_exp_shift, exactTerms, List.map_map, ← List.sum_toFinset _ List.nodup_range,
    List.toFinset_range, labelled, Finset.sum_filter]
  refine Finset.sum_congr rfl fun r hr => ?_
  simp only [Function.comp_apply, Finset.mem_filter, hr, true_and, div_one]
  split_ifs <;> rfl

theorem exactWeight_div (temperature : ℝ) (x : ℕ → ℝ) (top : ℝ) (r : ℕ) :
    ((e.exactTerms temperature x)[r]?).elim 0 (fun t => exactWeight top t
        / ((e.exactTerms temperature x).map (exactWeight top)).sum)
      = e.posterior temperature x r := by
  unfold posterior
  by_cases hlt : r < e.candidateCount.toNat
  · rw [sum_exactWeight, exactTerms, List.getElem?_map, List.getElem?_range hlt, Option.map_some,
      Option.elim_some]
    split_ifs
    · rw [← softmax_shift top, sum_exp_shift, div_one, div_one]
      rfl
    · exact zero_div _
  · rw [List.getElem?_eq_none (by simpa [exactTerms] using hlt), if_neg]
    · rfl
    · exact fun hmem => hlt (Finset.mem_range.1 (Finset.mem_filter.1 hmem).1)

/-- **The objective of a valid demonstration.** -/
theorem imitation_eq {logits : List ℝ} {coefficient : ℝ} (hvalid : e.validate = .ok ())
    (hlength : logits.length = e.candidateCount.toNat) (htemperature : 0 < temperature)
    (hcoefficient : 0 ≤ coefficient) :
    cpuImitationObjective logits e temperature coefficient
      = .ok (e.exactImitation temperature coefficient (logitAt logits)) := by
  have h := fits_of_validate hvalid
  set n := e.candidateCount.toNat with hn
  set x := logitAt logits with hx
  have haccepted : (List.finRange ppoMotorSlots).mapM (fun s => e.accept logits
      (exactDistributions (e.frame temperature) temperature x) temperature s)
      = .ok ((List.finRange ppoMotorSlots).map fun s =>
        (exactDistribution n (e.labelMask s) temperature x, e.labelLog temperature x s)) :=
    contract_mapM_ok fun s _ => accept_eq h hlength s
  refine contract_check_eq_ok_iff.2 ⟨hvalid, contract_check_eq_ok_iff.2 ⟨finite_ok _,
    contract_check_eq_ok_iff.2 ⟨reject_eq_ok_iff.2 ?_, contract_bind_eq_ok_iff.2 ⟨_,
      distributions_eq (h.frame htemperature) hlength,
      contract_bind_eq_ok_iff.2 ⟨_, haccepted, ?_⟩⟩⟩⟩⟩
  · rintro (hne | hinfinite | hle | hinfinite | hlt)
    · exact hne hlength
    · cases hinfinite
    · exact absurd (of_decide_eq_true hle) (not_le.2 htemperature)
    · cases hinfinite
    · exact absurd (of_decide_eq_true hlt) (not_lt.2 hcoefficient)
  have hget : ∀ s : Fin ppoMotorSlots, (((List.finRange ppoMotorSlots).map fun s =>
      (exactDistribution n (e.labelMask s) temperature x, e.labelLog temperature x s))[s.val]?).getD
        (Distribution.default, 0)
      = (exactDistribution n (e.labelMask s) temperature x, e.labelLog temperature x s) := by
    intro s
    rw [List.getElem?_map, List.getElem?_eq_getElem (by simp), List.getElem_finRange]
    rfl
  have hterms : (List.range logits.length).map
      (e.term (exactDistributions (e.frame temperature) temperature x) (e.labelLog temperature x))
      = e.exactTerms temperature x := by
    rw [hlength]
    exact List.map_congr_left fun r hr => term_eq h (List.mem_range.1 hr)
  obtain ⟨top, htop⟩ := exists_maxTerm h temperature x
  simp only [hget]
  rw [hterms, htop]
  dsimp only
  set Z := ((e.exactTerms temperature x).map (exactWeight top)).sum with hZ
  have hsum : Z = Real.exp (-(top / 1)) * partitionSum e.labelled 1 (e.termLog temperature x) :=
    sum_exactWeight temperature x top
  have hpartition := partitionSum_pos (T := 1) (x := e.termLog temperature x) h.labelled
  have hlog : top + Real.log Z
      = Real.log (partitionSum e.labelled 1 (e.termLog temperature x)) := by
    rw [hsum, Real.log_mul (Real.exp_pos _).ne' hpartition.ne', Real.log_exp]
    ring
  have hposterior : ∀ r, ((e.exactTerms temperature x)[r]?).elim 0
      (fun t => (t.elim 0 fun t => FloatOps.exp (t - top)) / FloatOps.sum
        ((e.exactTerms temperature x).map fun t => t.elim 0 fun t => FloatOps.exp (t - top)))
      = e.posterior temperature x r := exactWeight_div temperature x top
  have hforced : ∀ s : Fin ppoMotorSlots, (List.range logits.length).foldl (fun mass r =>
      if e.forces r s = true then mass + e.posterior temperature x r else mass) 0
      = e.forcedPosterior temperature x s := by
    intro s
    refine (foldl_if_add (e.forces · s) (e.posterior temperature x) _ _).trans ?_
    rw [zero_add, hlength, ← List.sum_toFinset _ List.nodup_range, List.toFinset_range]
    rfl
  simp only [hposterior, hforced]
  refine contract_check_eq_ok_iff.2 ⟨reject_eq_ok_iff.2 ?_, contract_check_eq_ok_iff.2
    ⟨finite_ok _, contract_check_eq_ok_iff.2 ⟨finite_ok _, congrArg Except.ok ?_⟩⟩⟩
  · rintro (hinfinite | hle)
    · cases hinfinite
    · have hpositive : 0 < Z := hsum ▸ mul_pos (Real.exp_pos _) hpartition
      exact absurd (of_decide_eq_true hle) (not_le.2 hpositive)
  · refine congr (congrArg CpuImitationObjective.mk (congrArg (-coefficient * ·) hlog)) ?_
    rw [hlength]
    refine List.map_congr_left fun i _ => ?_
    refine congrArg (fun g => coefficient * g / temperature) ?_
    refine (foldl_if_add (fun s => (e.target.motors s).isSome) (fun s =>
      (1 - e.forcedPosterior temperature x s)
        * ((exactDistribution n (e.motorMasks s) temperature x).p i
          - (exactDistribution n (e.labelMask s) temperature x).p i)) _ _).trans ?_
    rw [lossGradient, Fin.sum_univ_def]
    rfl

end Loss

/-! ### The joint actions with the labels -/

end ImitationExample

namespace ImitationTarget

/-- The representative is one that is labelled. -/
def carriesFirst (t : ImitationTarget) (r : UInt16) : Bool :=
  t.representative.all fun mask => hasBit mask r.toNat

/-- The choice of a slot is one that is labelled. -/
def carriesSlot (t : ImitationTarget) (s : Fin ppoMotorSlots) (choice : Option UInt16) : Bool :=
  (t.motors s).all fun mask => choice.any fun i => hasBit mask i.toNat

/-- A joint action carries the labels. -/
def Carries (t : ImitationTarget) (y : Σ _ : UInt16, Fin ppoMotorSlots → Option UInt16) : Prop :=
  t.carriesFirst y.1 = true ∧ ∀ s, t.carriesSlot s (y.2 s) = true

instance (t : ImitationTarget) : DecidablePred t.Carries := fun _ =>
  inferInstanceAs (Decidable (_ ∧ _))

end ImitationTarget

namespace ImitationExample

section Probability

variable {e : ImitationExample} {temperature : ℝ} {x : ℕ → ℝ}

/-- The joint actions of the frame that carry the labels. -/
noncomputable def withLabels (e : ImitationExample) (temperature : ℝ) :
    Finset (Σ _ : UInt16, Fin ppoMotorSlots → Option UInt16) :=
  (admissible (e.frame temperature)).filter e.target.Carries

/-- The labelled candidates of a slot weigh what the label log says. -/
theorem sum_labelMask (h : e.Fits) {s : Fin ppoMotorSlots} (hmotors : e.motorMasks s ≠ 0) :
    ∑ i ∈ support e.candidateCount.toNat (e.labelMask s),
        Real.exp (logSoftmax (support e.candidateCount.toNat (e.motorMasks s)) temperature x i)
      = if e.labelMask s = 0 then 0 else Real.exp (e.labelLog temperature x s) := by
  have hne : (support e.candidateCount.toNat (e.motorMasks s)).Nonempty :=
    (h.frame one_pos).motors hmotors
  split_ifs with hzero
  · rw [hzero, support_zero, Finset.sum_empty]
  · unfold labelLog
    rw [if_neg hzero, Real.exp_sub, Real.exp_log (partitionSum_pos (labelMask_nonempty h hzero)),
      Real.exp_log (partitionSum_pos hne), partitionSum, Finset.sum_div]
    exact Finset.sum_congr rfl fun i _ => exp_logSoftmax hne i

/-- **The labels of a slot** under a representative: it has to permit them, and they weigh what is
drawn. -/
theorem sum_carriesSlot (h : e.Fits) (htemperature : 0 < temperature) (r : UInt16)
    (s : Fin ppoMotorSlots) :
    ∑ o ∈ (slotOptions (e.frame temperature) r s).filter fun o => e.target.carriesSlot s o = true,
        Real.exp (laterLog (e.frame temperature) temperature x r s o)
      = if (e.target.motors s).all (fun mask => if e.forces r.toNat s then hasBit mask r.toNat
          else mask &&& e.motorMasks s != 0) = true then
        Real.exp (if e.drawn r.toNat s = true then e.labelLog temperature x s else 0) else 0 := by
  have hframe := h.frame htemperature
  unfold ImitationTarget.carriesSlot drawn
  cases hlabel : e.target.motors s with
  | none =>
    simp only [Option.all_none, Finset.filter_true, Option.isSome_none, Bool.false_and,
      Bool.false_eq_true, if_false, if_true, Real.exp_zero]
    exact sum_exp_laterLog hframe r s
  | some mask =>
    simp only [Option.all_some, Option.isSome_some, Bool.true_and]
    have hforced : forcedBy (e.frame temperature) r.toNat s = e.forces r.toNat s := rfl
    have hmotors : (e.frame temperature).motorMasks s = e.motorMasks s := rfl
    unfold slotOptions laterLog
    rw [hforced, hmotors]
    cases hforces : e.forces r.toNat s with
    | true =>
      simp only [if_true, true_or, Bool.not_true, Bool.false_eq_true, if_false, Real.exp_zero]
      rw [Finset.filter_singleton]
      simp only [Option.any_some]
      split_ifs <;> simp
    | false =>
      by_cases hzero : e.motorMasks s = 0
      · simp [hzero]
      · have hlabelled : e.labelMask s = mask &&& e.motorMasks s := by
          unfold labelMask
          rw [hlabel, Option.elim_some]
        have hsum : ∑ i ∈ support e.candidateCount.toNat (e.labelMask s), Real.exp (logSoftmax
              (support e.candidateCount.toNat (e.motorMasks s)) temperature x i)
            = if e.labelMask s = 0 then 0 else Real.exp (e.labelLog temperature x s) :=
          sum_labelMask h hzero
        have hfilter : (support e.candidateCount.toNat (e.motorMasks s)).filter
            (fun i => hasBit mask i = true) = support e.candidateCount.toNat (e.labelMask s) := by
          ext i
          rw [Finset.mem_filter, mem_support, mem_support, hlabelled, hasBit_and, Bool.and_eq_true,
            and_assoc, and_comm (a := hasBit mask i = true)]
        have hcount : (e.frame temperature).candidateCount = e.candidateCount := rfl
        simp only [hzero, Bool.false_eq_true, or_self, if_false, hcount]
        rw [Finset.sum_filter, Finset.sum_map]
        simp only [Function.Embedding.coeFn_mk, Option.any_some, Option.elim_some]
        have hle : e.candidateCount.toNat ≤ 32 := hframe.count_le
        rw [sum_maskCandidates hle fun i => if hasBit mask i = true then
          Real.exp (logSoftmax (support e.candidateCount.toNat (e.motorMasks s)) temperature x i)
          else 0, ← Finset.sum_filter, hfilter, hsum, hlabelled]
        by_cases hnone : mask &&& e.motorMasks s = 0 <;> simp [hnone]

/-- The joint actions with the labels weigh what the terms of the labelled representatives do. -/
theorem sum_withLabels (h : e.Fits) (htemperature : 0 < temperature) :
    ∑ y ∈ e.withLabels temperature, Real.exp (actionLog (e.frame temperature) temperature x y)
      = partitionSum e.labelled 1 (e.termLog temperature x) := by
  have hframe := h.frame htemperature
  set R := support e.candidateCount.toNat e.representativeMask with hR
  -- a representative of the frame with the labels is a labelled one that permits them
  have hfilter : R.filter (fun r => (hasBit e.labelledMask r && e.permits r) = true)
      = e.labelled := by
    ext r
    rw [Finset.mem_filter, hR, mem_support, labelled, Finset.mem_filter, Finset.mem_range,
      and_assoc, and_congr_right_iff]
    intro _
    rw [and_iff_right_iff_imp, Bool.and_eq_true]
    exact fun hr => h.representative r hr.1
  have hproduct : ∀ r : UInt16, ∏ s, ∑ o ∈ (slotOptions (e.frame temperature) r s).filter fun o =>
        e.target.carriesSlot s o = true,
        Real.exp (laterLog (e.frame temperature) temperature x r s o)
      = if e.permits r.toNat = true then
          Real.exp (∑ s, if e.drawn r.toNat s = true then e.labelLog temperature x s else 0)
        else 0 := by
    intro r
    rw [Finset.prod_congr rfl fun s _ => sum_carriesSlot h htemperature r s, Finset.prod_ite_zero,
      Real.exp_sum]
    have hpermits : e.permits r.toNat = true ↔ ∀ s ∈ Finset.univ, (e.target.motors s).all
        (fun mask => if e.forces r.toNat s then hasBit mask r.toNat
          else mask &&& e.motorMasks s != 0) = true := by
      unfold permits
      rw [List.all_eq_true]
      exact ⟨fun hall s _ => hall s (List.mem_finRange s),
        fun hall s _ => hall s (Finset.mem_univ s)⟩
    by_cases hr : e.permits r.toNat = true
    · rw [if_pos (hpermits.1 hr), if_pos hr]
    · rw [if_neg (mt hpermits.2 hr), if_neg hr]
  have hfirst : ∀ r : UInt16, r ∈ maskCandidates e.candidateCount.toNat e.representativeMask →
      (e.target.carriesFirst r = true ↔ hasBit e.labelledMask r.toNat = true) := by
    intro r hr
    unfold ImitationTarget.carriesFirst labelledMask
    cases e.target.representative with
    | none => simpa using (mem_support.1 ((mem_maskCandidates hframe.count_le).1 hr)).2
    | some mask => simp
  have houtcomes : e.withLabels temperature
      = outcomes ((maskCandidates e.candidateCount.toNat e.representativeMask).filter fun r =>
          e.target.carriesFirst r = true)
        fun r s => (slotOptions (e.frame temperature) r s).filter fun o =>
          e.target.carriesSlot s o = true := by
    ext y
    rw [withLabels, Finset.mem_filter, mem_outcomes_filter]
    rfl
  calc ∑ y ∈ e.withLabels temperature,
        Real.exp (actionLog (e.frame temperature) temperature x y)
      = ∑ r ∈ maskCandidates e.candidateCount.toNat e.representativeMask,
          if hasBit e.labelledMask r.toNat = true ∧ e.permits r.toNat = true then
            Real.exp (e.termLog temperature x r.toNat) else 0 := by
        rw [houtcomes, actionLog, sum_exp_outcomes, Finset.sum_filter]
        refine Finset.sum_congr rfl fun r hr => ?_
        have hterm : Real.exp (e.termLog temperature x r.toNat)
            = Real.exp (firstLog (e.frame temperature) temperature x r)
              * Real.exp (∑ s, if e.drawn r.toNat s = true then e.labelLog temperature x s
                else 0) := Real.exp_add _ _
        rw [hproduct, if_congr (hfirst r hr) rfl rfl, hterm, mul_ite, mul_zero, ite_and]
    _ = ∑ r ∈ R, if hasBit e.labelledMask r = true ∧ e.permits r = true then
          Real.exp (e.termLog temperature x r) else 0 :=
        sum_maskCandidates hframe.count_le fun r =>
          if hasBit e.labelledMask r = true ∧ e.permits r = true then
            Real.exp (e.termLog temperature x r) else 0
    _ = partitionSum e.labelled 1 (e.termLog temperature x) := by
        rw [← Finset.sum_filter, ← hfilter, partitionSum]
        simp only [div_one, Bool.and_eq_true]

/-- **The loss of a demonstration.**  A valid one is always answered, with the weighted surprise of
its labels: the negative log of the probability of all joint actions that carry them. -/
theorem imitation_loss {logits : List ℝ} {coefficient : ℝ} (hvalid : e.validate = .ok ())
    (hlength : logits.length = e.candidateCount.toNat) (htemperature : 0 < temperature)
    (hcoefficient : 0 ≤ coefficient) :
    ∃ o, cpuImitationObjective logits e temperature coefficient = .ok o
      ∧ o.loss = -coefficient * Real.log (∑ y ∈ e.withLabels temperature,
        Real.exp (actionLog (e.frame temperature) temperature (logitAt logits) y))
      ∧ 0 < ∑ y ∈ e.withLabels temperature,
        Real.exp (actionLog (e.frame temperature) temperature (logitAt logits) y)
      ∧ 0 ≤ o.loss := by
  have h := fits_of_validate hvalid
  have hsum := sum_withLabels (x := logitAt logits) h htemperature
  have hpositive : 0 < partitionSum e.labelled 1 (e.termLog temperature (logitAt logits)) :=
    partitionSum_pos h.labelled
  have hle : ∑ y ∈ e.withLabels temperature,
      Real.exp (actionLog (e.frame temperature) temperature (logitAt logits) y) ≤ 1 := by
    have hall : ∑ y ∈ admissible (e.frame temperature),
        Real.exp (actionLog (e.frame temperature) temperature (logitAt logits) y) = 1 :=
      sum_exp_actionLog (h.frame htemperature)
    rw [← hall]
    exact Finset.sum_le_sum_of_subset_of_nonneg (Finset.filter_subset _ _)
      fun _ _ _ => (Real.exp_pos _).le
  refine ⟨_, imitation_eq hvalid hlength htemperature hcoefficient, ?_, hsum ▸ hpositive, ?_⟩
  · rw [hsum]
    rfl
  · rw [hsum] at hle
    exact mul_nonneg_of_nonpos_of_nonpos (neg_nonpos.2 hcoefficient)
      (Real.log_nonpos hpositive.le hle)

end Probability

/-! ### The gradient -/

section Gradient

variable {e : ImitationExample} {temperature : ℝ} {x : ℝ → ℕ → ℝ} {v : ℕ → ℝ} {t : ℝ}

/-- What a logit adds to the log probability of the labels of a slot, times the temperature. -/
noncomputable def labelGradient (e : ImitationExample) (temperature : ℝ) (x : ℕ → ℝ)
    (s : Fin ppoMotorSlots) (i : ℕ) : ℝ :=
  (exactDistribution e.candidateCount.toNat (e.labelMask s) temperature x).p i
    - (exactDistribution e.candidateCount.toNat (e.motorMasks s) temperature x).p i

theorem hasDerivAt_log_support {count : ℕ} {mask : UInt32} (hmask : (support count mask).Nonempty)
    (hx : ∀ i < count, HasDerivAt (fun u => x u i) (v i) t) :
    HasDerivAt (fun u => Real.log (partitionSum (support count mask) temperature (x u)))
      (∑ i ∈ Finset.range count, (exactDistribution count mask temperature (x t)).p i
        * (v i / temperature)) t := by
  refine (hasDerivAt_log_partitionSum hmask fun i hi => hx i (mem_support.1 hi).1).congr_deriv ?_
  exact (sum_range_support _ _).symm

theorem hasDerivAt_labelLog (h : e.Fits) {s : Fin ppoMotorSlots} (hmask : e.labelMask s ≠ 0)
    (hx : ∀ i < e.candidateCount.toNat, HasDerivAt (fun u => x u i) (v i) t) :
    HasDerivAt (fun u => e.labelLog temperature (x u) s)
      (∑ i ∈ Finset.range e.candidateCount.toNat,
        e.labelGradient temperature (x t) s i * (v i / temperature)) t := by
  have hne := labelMask_nonempty h hmask
  unfold labelLog
  simp only [if_neg hmask]
  refine ((hasDerivAt_log_support hne hx).fun_sub
    (hasDerivAt_log_support (hne.mono (labelMask_support s)) hx)).congr_deriv ?_
  rw [← Finset.sum_sub_distrib]
  exact Finset.sum_congr rfl fun i _ => (sub_mul _ _ _).symm

/-- The labels of a slot that a labelled representative leaves open are among its candidates. -/
theorem labelMask_ne_zero {r : ℕ} (hr : r ∈ e.labelled) {s : Fin ppoMotorSlots}
    (hs : e.drawn r s = true) : e.labelMask s ≠ 0 := by
  have hpermits := (Bool.and_eq_true_iff.1 (Finset.mem_filter.1 hr).2).2
  have hslot := List.all_eq_true.1 hpermits s (List.mem_finRange s)
  obtain ⟨hsome, hforces⟩ := Bool.and_eq_true_iff.1 hs
  obtain ⟨mask, hmask⟩ := Option.isSome_iff_exists.1 hsome
  rw [Bool.not_eq_true'] at hforces
  rw [hmask, Option.all_some, hforces] at hslot
  unfold labelMask
  rw [hmask]
  simpa using hslot

/-- What a logit adds to the term of a representative, times the temperature. -/
noncomputable def termGradient (e : ImitationExample) (temperature : ℝ) (x : ℕ → ℝ)
    (r i : ℕ) : ℝ :=
  (if i = r then 1 else 0)
      - (exactDistribution e.candidateCount.toNat e.representativeMask temperature x).p i
    + ∑ s, if e.drawn r s = true then e.labelGradient temperature x s i else 0

theorem hasDerivAt_termLog (h : e.Fits) {r : ℕ} (hr : r ∈ e.labelled)
    (hx : ∀ i < e.candidateCount.toNat, HasDerivAt (fun u => x u i) (v i) t) :
    HasDerivAt (fun u => e.termLog temperature (x u) r)
      (∑ i ∈ Finset.range e.candidateCount.toNat,
        e.termGradient temperature (x t) r i * (v i / temperature)) t := by
  obtain ⟨hlt, hbits⟩ := Finset.mem_filter.1 hr
  have hfirst := hasDerivAt_choiceLog temperature hx (mem_support.2
    ⟨Finset.mem_range.1 hlt, h.representative r (Bool.and_eq_true_iff.1 hbits).1⟩)
  have hslots : ∀ s : Fin ppoMotorSlots,
      HasDerivAt (fun u => if e.drawn r s = true then e.labelLog temperature (x u) s else 0)
        (∑ i ∈ Finset.range e.candidateCount.toNat,
          (if e.drawn r s = true then e.labelGradient temperature (x t) s i else 0)
            * (v i / temperature)) t := by
    intro s
    by_cases hs : e.drawn r s = true
    · simp only [if_pos hs]
      exact hasDerivAt_labelLog h (labelMask_ne_zero hr hs) hx
    · simp only [if_neg hs, zero_mul, Finset.sum_const_zero]
      exact hasDerivAt_const t 0
  refine (hfirst.fun_add (HasDerivAt.fun_sum (u := Finset.univ) fun s _ => hslots s)).congr_deriv ?_
  rw [Finset.sum_comm, ← Finset.sum_add_distrib]
  refine Finset.sum_congr rfl fun i _ => ?_
  rw [← Finset.sum_mul, ← add_mul]
  rfl

theorem sum_posterior (h : e.Fits) (temperature : ℝ) (x : ℕ → ℝ) :
    ∑ r ∈ e.labelled, softmax e.labelled 1 (e.termLog temperature x) r = 1 :=
  sum_softmax h.labelled

/-- A slot is left open with the rest of the probability. -/
theorem sum_drawn (h : e.Fits) (temperature : ℝ) (x : ℕ → ℝ) (s : Fin ppoMotorSlots) (g : ℝ) :
    ∑ r ∈ e.labelled, softmax e.labelled 1 (e.termLog temperature x) r
        * (if e.drawn r s = true then g else 0)
      = if (e.target.motors s).isSome = true then
          (1 - e.forcedPosterior temperature x s) * g else 0 := by
  have hforced : e.forcedPosterior temperature x s = ∑ r ∈ e.labelled,
      if e.forces r s = true then softmax e.labelled 1 (e.termLog temperature x) r else 0 := by
    unfold forcedPosterior posterior
    rw [labelled, Finset.sum_filter]
    refine Finset.sum_congr rfl fun r hr => ?_
    simp only [Finset.mem_filter, hr, true_and]
    split_ifs <;> rfl
  cases hsome : (e.target.motors s).isSome with
  | false => simp [drawn, hsome]
  | true =>
    have hrest : 1 - ∑ r ∈ e.labelled,
          (if e.forces r s = true then softmax e.labelled 1 (e.termLog temperature x) r else 0)
        = ∑ r ∈ e.labelled,
          if e.forces r s = true then 0 else softmax e.labelled 1 (e.termLog temperature x) r := by
      rw [sub_eq_iff_eq_add, ← Finset.sum_add_distrib]
      refine (sum_posterior h temperature x).symm.trans (Finset.sum_congr rfl fun r _ => ?_)
      split_ifs <;> simp
    rw [if_pos rfl, hforced, hrest, Finset.sum_mul]
    refine Finset.sum_congr rfl fun r _ => ?_
    cases hforces : e.forces r s <;> simp [drawn, hsome, hforces]

/-- The mean of the gradients of the terms. -/
theorem sum_termGradient (h : e.Fits) (temperature : ℝ) (x : ℕ → ℝ) (i : ℕ) :
    ∑ r ∈ e.labelled, softmax e.labelled 1 (e.termLog temperature x) r
        * e.termGradient temperature x r i
      = -e.lossGradient temperature x i := by
  have hpick : ∑ r ∈ e.labelled, softmax e.labelled 1 (e.termLog temperature x) r
      * (if i = r then 1 else 0) = e.posterior temperature x i := by
    simp only [mul_ite, mul_one, mul_zero, Finset.sum_ite_eq]
    rfl
  have hslots : ∑ r ∈ e.labelled, softmax e.labelled 1 (e.termLog temperature x) r
        * ∑ s, (if e.drawn r s = true then e.labelGradient temperature x s i else 0)
      = ∑ s, if (e.target.motors s).isSome = true then
          (1 - e.forcedPosterior temperature x s) * e.labelGradient temperature x s i else 0 := by
    simp only [Finset.mul_sum]
    rw [Finset.sum_comm]
    exact Finset.sum_congr rfl fun s _ => sum_drawn h temperature x s _
  unfold termGradient
  simp only [mul_add, mul_sub, Finset.sum_add_distrib, Finset.sum_sub_distrib]
  rw [hpick, hslots, ← Finset.sum_mul, sum_posterior h, lossGradient]
  have hneg : ∀ s : Fin ppoMotorSlots, (if (e.target.motors s).isSome = true then
        (1 - e.forcedPosterior temperature x s) * e.labelGradient temperature x s i else 0)
      = -(if (e.target.motors s).isSome = true then (1 - e.forcedPosterior temperature x s)
          * ((exactDistribution e.candidateCount.toNat (e.motorMasks s) temperature x).p i
            - (exactDistribution e.candidateCount.toNat (e.labelMask s) temperature x).p i)
        else 0) := by
    intro s
    unfold labelGradient
    split_ifs <;> ring
  rw [Finset.sum_congr rfl fun s _ => hneg s, Finset.sum_neg_distrib]
  ring

theorem hasDerivAt_loss (h : e.Fits) (temperature coefficient : ℝ)
    (hx : ∀ i < e.candidateCount.toNat, HasDerivAt (fun u => x u i) (v i) t) :
    HasDerivAt (fun u => (e.exactImitation temperature coefficient (x u)).loss)
      (∑ i ∈ Finset.range e.candidateCount.toNat,
        coefficient * e.lossGradient temperature (x t) i / temperature * v i) t := by
  have hterms : ∀ r ∈ e.labelled, HasDerivAt (fun u => e.termLog temperature (x u) r)
      (∑ i ∈ Finset.range e.candidateCount.toNat,
        e.termGradient temperature (x t) r i * (v i / temperature)) t :=
    fun r hr => hasDerivAt_termLog h hr hx
  have hlog := hasDerivAt_log_partitionSum (T := 1) h.labelled hterms
  refine (hlog.const_mul (-coefficient)).congr_deriv ?_
  simp only [div_one, Finset.mul_sum, ← mul_assoc]
  rw [Finset.sum_comm]
  refine Finset.sum_congr rfl fun i _ => ?_
  rw [← Finset.sum_mul]
  simp only [mul_assoc]
  rw [← Finset.mul_sum, sum_termGradient h]
  ring

/-- What an answered demonstration is. -/
theorem eq_exact_of_ok {logits : List ℝ} {coefficient : ℝ} {o : CpuImitationObjective ℝ}
    (ho : cpuImitationObjective logits e temperature coefficient = .ok o) :
    e.validate = .ok () ∧ logits.length = e.candidateCount.toNat ∧ 0 < temperature
      ∧ 0 ≤ coefficient ∧ o = e.exactImitation temperature coefficient (logitAt logits) := by
  obtain ⟨hvalid, hrest⟩ := contract_check_eq_ok_iff.1 ho
  obtain ⟨-, hrest⟩ := contract_check_eq_ok_iff.1 hrest
  obtain ⟨hinputs, -⟩ := contract_check_eq_ok_iff.1 hrest
  rw [reject_eq_ok_iff] at hinputs
  push Not at hinputs
  obtain ⟨hlength, -, htemperature, -, hcoefficient⟩ := hinputs
  have hpositive : 0 < temperature :=
    not_le.1 fun hle => htemperature (decide_eq_true hle)
  have hnonneg : 0 ≤ coefficient := not_lt.1 fun hlt => hcoefficient (decide_eq_true hlt)
  rw [imitation_eq hvalid hlength hpositive hnonneg] at ho
  exact ⟨hvalid, hlength, hpositive, hnonneg, (Except.ok.inj ho).symm⟩

/-- **The gradients of a demonstration.**  Along a differentiable curve of logits the loss is
differentiable, at the sum of the reported gradients times the rates of the logits. -/
theorem imitation_hasDerivAt {coefficient : ℝ} {logits : ℝ → List ℝ} {o : CpuImitationObjective ℝ}
    (ho : cpuImitationObjective (logits t) e temperature coefficient = .ok o)
    (hlength : ∀ u, (logits u).length = (logits t).length)
    (hlogits : ∀ i < (logits t).length, HasDerivAt (fun u => (logits u).getD i 0) (v i) t) :
    ∃ loss : ℝ → ℝ,
      (∀ u, ∃ ou, cpuImitationObjective (logits u) e temperature coefficient = .ok ou
        ∧ loss u = ou.loss)
      ∧ HasDerivAt loss
        (∑ i ∈ Finset.range (logits t).length, o.logitGradients.getD i 0 * v i) t := by
  obtain ⟨hvalid, hn, htemperature, hcoefficient, rfl⟩ := eq_exact_of_ok ho
  rw [hn] at hlogits
  refine ⟨fun u => (e.exactImitation temperature coefficient (logitAt (logits u))).loss, fun u =>
    ⟨_, imitation_eq hvalid ((hlength u).trans hn) htemperature hcoefficient, rfl⟩,
    (hasDerivAt_loss (x := fun u => logitAt (logits u)) (fits_of_validate hvalid) temperature
      coefficient hlogits).congr_deriv ?_⟩
  rw [hn]
  refine Finset.sum_congr rfl fun i hi => ?_
  unfold exactImitation
  dsimp only
  rw [List.getD_eq_getElem?_getD, List.getElem?_map, List.getElem?_range (Finset.mem_range.1 hi)]
  rfl

end Gradient

/-- The first of two candidates is the labelled one. -/
def fairDemonstration : ImitationExample :=
  ⟨2, 3, fun _ => 0, [none, none], ⟨some 1, fun _ => none⟩⟩

theorem fairDemonstration_valid : fairDemonstration.validate = .ok () := by decide

theorem imitation_loss_fair :
    ∃ o, cpuImitationObjective [0, 0] fairDemonstration (1 : ℝ) 1 = .ok o ∧ 0 ≤ o.loss := by
  obtain ⟨o, ho, -, -, hloss⟩ := @imitation_loss fairDemonstration 1 [0, 0] 1
    fairDemonstration_valid rfl one_pos zero_le_one
  exact ⟨o, ho, hloss⟩

/-- The labelled candidate gains weight. -/
theorem imitation_hasDerivAt_fair :
    ∃ (o : CpuImitationObjective ℝ) (loss : ℝ → ℝ),
      (∀ u, ∃ ou, cpuImitationObjective [u, 0] fairDemonstration (1 : ℝ) 1 = .ok ou
        ∧ loss u = ou.loss)
      ∧ HasDerivAt loss (∑ i ∈ Finset.range 2,
        o.logitGradients.getD i 0 * if i = 0 then 1 else 0) 0 := by
  have hrates : ∀ i < ([0, 0] : List ℝ).length, HasDerivAt (fun u : ℝ => [u, 0].getD i 0)
      (if i = 0 then 1 else 0) 0 := by
    rintro (_ | _ | i) hi
    · exact hasDerivAt_id 0
    · exact hasDerivAt_const 0 0
    · exact absurd hi (by simp)
  have ho : cpuImitationObjective ((fun u : ℝ => [u, 0]) 0) fairDemonstration (1 : ℝ) 1
      = .ok (fairDemonstration.exactImitation 1 1 (logitAt [0, 0])) :=
    imitation_eq fairDemonstration_valid rfl one_pos zero_le_one
  obtain ⟨loss, hloss, hderiv⟩ := @imitation_hasDerivAt fairDemonstration 1
    (fun i => if i = 0 then 1 else 0) 0 1 (fun u => [u, 0]) _ ho (fun _ => rfl) hrates
  exact ⟨_, loss, hloss, hderiv⟩

end ImitationExample

end Training

end ALife
