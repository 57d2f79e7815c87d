/-
# The sampler in exact arithmetic

`sample_cpu_joint_action` over the reals: a frame with candidates and a
temperature above zero is always answered, and with an action whose stored log
probability is the one that `cpu_ppo_objective` finds in the same logits, so that
a first update has the ratio one (`sampled_objective`).
-/

import ALife.Training.ExactObjective
import ALife.Training.JointCommands

namespace ALife

open Machine

namespace Training

attribute [local
instance] exactReals exactLog

section Draws

variable {logits : List ℝ} {masks : Fin 6 → UInt32} {forced : Option (Fin 6)}
  {representative : UInt16} {temperature : ℝ} {seed counter : UInt32}

/-- The choice of a slot: forced, drawn or left as it is. -/
def ChosenIn (count : ℕ) (masks : Fin 6 → UInt32) (forced : Option (Fin 6))
    (representative : UInt16) (slot : Fin 6) (old new : Option UInt16) : Prop :=
  if forced = some slot then new = some representative
  else if masks slot = 0 then new = old
  else ∃ i, new = some i ∧ i.toNat ∈ support count (masks slot)

/-- What the choice of a slot adds to the log probability. -/
noncomputable def chosenLog (logits : List ℝ) (masks : Fin 6 → UInt32) (forced : Option (Fin 6))
    (temperature : ℝ) (slot : Fin 6) (choice : Option UInt16) : ℝ :=
  if forced = some slot ∨ masks slot = 0 then 0
  else choice.elim 0 fun i =>
    logSoftmax (support logits.length (masks slot)) temperature (logitAt logits) i.toNat

/-- The log probability of what is drawn is not above zero. -/
theorem chosenLog_nonpos {slot : Fin 6} {old new : Option UInt16}
    (h : ChosenIn logits.length masks forced representative slot old new) :
    chosenLog logits masks forced temperature slot new ≤ 0 := by
  unfold ChosenIn at h
  unfold chosenLog
  split_ifs with hnone
  · exact le_rfl
  · rw [not_or] at hnone
    rw [if_neg hnone.1, if_neg hnone.2] at h
    obtain ⟨i, rfl, hi⟩ := h
    exact logSoftmax_nonpos ⟨_, hi⟩ hi

variable (temperature seed counter)

theorem exists_sample (hcount : logits.length ≤ 32) {mask : UInt32}
    (hmask : (support logits.length mask).Nonempty) (factor : UInt32) :
    ∃ index logProbability,
      sample logits mask temperature (draw ℝ seed counter factor) = .ok (index, logProbability)
      ∧ index.toNat ∈ support logits.length mask
      ∧ logProbability
        = logSoftmax (support logits.length mask) temperature (logitAt logits) index.toNat := by
  obtain ⟨hzero, hone⟩ := draw_mem seed counter factor
  obtain ⟨i, hi, hsample, -⟩ := exists_sample_interval temperature hmask hzero.le hone
  exact ⟨_, _, hsample, (toNat_toUInt16 hcount hi).symm ▸ hi, by rw [toNat_toUInt16 hcount hi]⟩

variable (forced representative)

/-- One slot. -/
theorem drawSlot_eq (hcount : logits.length ≤ 32)
    (hmasks : ∀ slot, masks slot ≠ 0 → (support logits.length (masks slot)).Nonempty)
    (state : (Fin 6 → Option UInt16) × ℝ) (slot : Fin 6) :
    ∃ choice,
      drawSlot logits masks forced representative temperature seed counter state slot
        = .ok (Function.update state.1 slot choice,
            state.2 + chosenLog logits masks forced temperature slot choice)
      ∧ ChosenIn logits.length masks forced representative slot (state.1 slot) choice := by
  unfold drawSlot chosenLog ChosenIn
  by_cases hforced : forced = some slot
  · refine ⟨some representative, ?_, ?_⟩
    · rw [if_pos hforced, if_pos (Or.inl hforced), add_zero]
      rfl
    · rw [if_pos hforced]
  · by_cases hmask : masks slot = 0
    · refine ⟨state.1 slot, ?_, ?_⟩
      · rw [if_neg hforced, if_neg (not_not.2 hmask), if_pos (Or.inr hmask), add_zero,
          Function.update_eq_self]
        rfl
      · rw [if_neg hforced, if_pos hmask]
    · obtain ⟨i, logp, hsample, hmem, hlog⟩ := exists_sample temperature seed counter hcount
        (hmasks slot hmask) (slot.val + 1).toUInt32
      refine ⟨some i, ?_, ?_⟩
      · rw [if_neg hforced, if_pos hmask, if_neg (not_or.2 ⟨hforced, hmask⟩)]
        exact contract_bind_eq_ok_iff.2 ⟨_, hsample, by rw [hlog]; rfl⟩
      · rw [if_neg hforced, if_neg hmask]
        exact ⟨i, rfl, hmem⟩

/-- All slots, each of them once. -/
theorem drawSlots_eq (hcount : logits.length ≤ 32)
    (hmasks : ∀ slot, masks slot ≠ 0 → (support logits.length (masks slot)).Nonempty)
    {slots : List (Fin 6)} (hnodup : slots.Nodup) (state : (Fin 6 → Option UInt16) × ℝ) :
    ∃ state',
      slots.foldlM (drawSlot logits masks forced representative temperature seed counter) state
        = .ok state'
      ∧ (∀ slot ∉ slots, state'.1 slot = state.1 slot)
      ∧ (∀ slot ∈ slots, ChosenIn logits.length masks forced representative slot (state.1 slot)
        (state'.1 slot))
      ∧ state'.2 = state.2 + (slots.map fun slot =>
        chosenLog logits masks forced temperature slot (state'.1 slot)).sum := by
  induction slots generalizing state with
  | nil => exact ⟨state, rfl, fun _ _ => rfl, nofun, by simp⟩
  | cons slot slots ih =>
    obtain ⟨hslot, hnodup⟩ := List.nodup_cons.1 hnodup
    obtain ⟨choice, hdraw, hchosen⟩ := drawSlot_eq forced representative temperature
      seed counter hcount hmasks state slot
    obtain ⟨state', hrest, hframe, hall, hsum⟩ := ih hnodup (Function.update state.1 slot choice,
      state.2 + chosenLog logits masks forced temperature slot choice)
    dsimp only at hframe hall hsum
    have hchoice : state'.1 slot = choice := by
      rw [hframe slot hslot, Function.update_self]
    have hother : ∀ s ≠ slot, Function.update state.1 slot choice s = state.1 s :=
      fun s hs => Function.update_of_ne hs _ _
    refine ⟨state', ?_, fun s hs => ?_, fun s hs => ?_, ?_⟩
    · rw [List.foldlM_cons]
      exact contract_bind_eq_ok_iff.2 ⟨_, hdraw, hrest⟩
    · obtain ⟨hne, hs⟩ := not_or.1 (List.mem_cons.not.1 hs)
      rw [hframe s hs, hother s hne]
    · rcases eq_or_ne s slot with rfl | hne
      · rwa [hchoice]
      · have := hall s (List.mem_of_ne_of_mem hne hs)
        rwa [hother s hne] at this
    · rw [hsum, List.map_cons, List.sum_cons, hchoice, add_assoc]

end Draws

/-! ### The frame of a sampled action -/

theorem hasBit_all {count : ℕ} (hpos : 0 < count) (hle : count ≤ 32) (i : ℕ) :
    hasBit (0xFFFFFFFF >>> (32 - count).toUInt32) i = decide (i < count) := by
  have hshift : (32 - count).toUInt32.toNat % 32 = 32 - count := by
    rw [UInt32.toNat_ofNat_of_lt' (by simp only [UInt32.size]; omega)]
    omega
  have hall : (0xFFFFFFFF : UInt32).toNat = 2 ^ 32 - 1 := rfl
  rw [hasBit, UInt32.toNat_shiftRight, hshift, Nat.testBit_shiftRight, hall,
    Nat.testBit_two_pow_sub_one]
  exact decide_eq_decide.2 (by omega)

theorem forced_sampled (candidates : List ActionCandidate) (i : ℕ) (slot : Fin 6) :
    ((candidates.map fun c => (forcedSlot c.kind).map fun s => s.val.toUInt8)[i]?).join
        = some slot.val.toUInt8
      ↔ (candidates[i]?).bind (fun c => forcedSlot c.kind) = some slot := by
  rw [List.getElem?_map]
  cases candidates[i]? with
  | none => simp
  | some c =>
    rw [Option.map_some, Option.join_some, Option.bind_some, Option.map_eq_some_iff]
    constructor
    · rintro ⟨s, hs, hval⟩
      exact hs.trans (congrArg some (toUInt8_inj hval))
    · exact fun hs => ⟨slot, hs, rfl⟩

/-- The action that the sampler builds. -/
def sampledAction (candidates : List ActionCandidate) (enabled : Fin 6 → Bool)
    (representative : UInt16) (choices : Fin 6 → Option UInt16) (logProbability temperature : ℝ) :
    PpoJointAction ℝ where
  candidateCount := candidates.length.toUInt16
  representativeMask := 0xFFFFFFFF >>> (32 - candidates.length).toUInt32
  motorMasks := motorMask enabled candidates
  representative := representative
  forcedSlots := candidates.map fun c => (forcedSlot c.kind).map fun slot => slot.val.toUInt8
  motorCandidates := choices
  oldJointLogProbability := logProbability
  temperature := temperature

section Sampled

variable {candidates : List ActionCandidate} {enabled : Fin 6 → Bool} {representative : UInt16}
  {choices : Fin 6 → Option UInt16} {logProbability temperature : ℝ}

theorem forcedBy_sampledAction (i : ℕ) (slot : Fin 6) :
    forcedBy (sampledAction candidates enabled representative choices logProbability temperature)
        i slot = true
      ↔ (candidates[i]?).bind (fun c => forcedSlot c.kind) = some slot := by
  exact beq_iff_eq.trans (forced_sampled candidates i slot)

/-- A mask of a slot with a candidate has a candidate. -/
theorem support_motorMask (hcount : candidates.length ≤ 32) (slot : Fin 6)
    (hmask : motorMask enabled candidates slot ≠ 0) :
    (support candidates.length (motorMask enabled candidates slot)).Nonempty := by
  obtain ⟨i, hi⟩ := Nat.exists_testBit_of_ne_zero fun h => hmask (UInt32.toNat_inj.1 h)
  obtain ⟨-, c, hc, -⟩ := (hasBit_motorMask hcount).1 hi
  exact ⟨i, mem_support.2 ⟨(List.getElem?_eq_some_iff.1 hc).1, hi⟩⟩

theorem validate_sampledAction (hpos : 0 < candidates.length) (hcount : candidates.length ≤ 32)
    (htemperature : 0 < temperature) (hrepresentative : representative.toNat < candidates.length)
    (hlog : logProbability ≤ 0)
    (hchoices : ∀ slot, ChosenIn candidates.length (motorMask enabled candidates)
      ((candidates[representative.toNat]?).bind fun c => forcedSlot c.kind) representative slot none
      (choices slot)) (t : ℝ) :
    (sampledAction candidates enabled representative choices logProbability temperature).validate t
      = .ok () := by
  set a := sampledAction candidates enabled representative choices logProbability temperature
    with ha
  have hn : a.candidateCount.toNat = candidates.length :=
    UInt16.toNat_ofNat_of_lt' (by simp only [UInt16.size]; omega)
  have hbits : ∀ i, hasBit a.representativeMask i = decide (i < candidates.length) :=
    hasBit_all hpos hcount
  have hlt : ∀ slot i, hasBit (a.motorMasks slot) i = true → i < candidates.length := by
    intro slot i hi
    obtain ⟨-, c, hc, -⟩ := (hasBit_motorMask hcount).1 hi
    exact (List.getElem?_eq_some_iff.1 hc).1
  have hfits : ∀ slot : Fin 6, a.candidateFits slot = true := by
    intro slot
    have hchoice := hchoices slot
    unfold ChosenIn at hchoice
    have hrepresentativeOf : a.representative = representative := rfl
    have hchoicesOf : a.motorCandidates = choices := rfl
    have hforcedOf : (a.forced representative.toNat == some (UInt8.ofNat slot.val))
        = forcedBy a representative.toNat slot := rfl
    unfold PpoJointAction.candidateFits
    rw [hrepresentativeOf, hchoicesOf, hforcedOf]
    by_cases hforced : (candidates[representative.toNat]?).bind (fun c => forcedSlot c.kind)
        = some slot
    · have hby : forcedBy a representative.toNat slot = true :=
        (forcedBy_sampledAction _ _).2 hforced
      rw [if_pos hforced] at hchoice
      simp [hchoice, hby]
    · have hby : forcedBy a representative.toNat slot = false :=
        Bool.eq_false_iff.2 fun h => hforced ((forcedBy_sampledAction _ _).1 h)
      rw [if_neg hforced] at hchoice
      by_cases hmask : motorMask enabled candidates slot = 0
      · rw [if_pos hmask] at hchoice
        have hzero : a.motorMasks slot = 0 := hmask
        simp [hchoice, hby, hzero]
      · rw [if_neg hmask] at hchoice
        obtain ⟨i, hi, hmem⟩ := hchoice
        have hbit : hasBit (a.motorMasks slot) i.toNat = true := (mem_support.1 hmem).2
        have hcountLt : i < a.candidateCount := by
          rw [UInt16.lt_iff_toNat_lt, hn]
          exact (mem_support.1 hmem).1
        simp [hi, hby, hbit, hcountLt]
  refine validate_iff.2 ⟨⟨hn.symm ▸ hpos, hn.symm ▸ hcount, ?_, ?_, htemperature, ?_, ?_, ?_,
    fun slot => ?_, fun slot => ?_⟩, hn.symm ▸ hrepresentative, ?_, fun slot => ?_⟩
  · rw [hn]
    exact List.length_map _
  · exact not_lt.2 (hlog.trans (by change (0 : ℝ) ≤ ((1 : ℤ) : ℝ) / ((100000 : ℕ) : ℝ); norm_num))
  · intro hzero
    have := hbits 0
    rw [hzero, hasBit, UInt32.toNat_zero, Nat.zero_testBit] at this
    exact of_decide_eq_false this.symm hpos
  · rw [hn]
    refine Nat.lt_pow_two_of_testBit _ fun i hi => ?_
    exact (hbits i).trans (decide_eq_false (not_lt.2 hi))
  · intro slot hslot
    obtain ⟨forced, hforced, rfl⟩ := List.mem_filterMap.1 hslot
    obtain ⟨c, -, hc⟩ := List.mem_map.1 hforced
    obtain ⟨s, -, rfl⟩ := Option.map_eq_some_iff.1 hc
    have hs := s.isLt
    change (UInt8.ofNat s.val).toNat < 6
    rw [UInt8.toNat_ofNat_of_lt' (by simp only [UInt8.size]; omega)]
    exact hs
  · refine and_not_eq_zero fun i hi => ?_
    rw [hbits]
    exact decide_eq_true (hlt slot i hi)
  · refine List.all_eq_true.2 fun i _ => ?_
    cases hbit : hasBit (a.motorMasks slot) i with
    | false => rfl
    | true =>
      obtain ⟨-, c, hc, hkind⟩ := (hasBit_motorMask hcount).1 hbit
      refine (forcedBy_sampledAction i slot).2 ?_
      rw [hc]
      exact forcedSlot_of_motorSlot hkind
  · rw [hbits]
    exact decide_eq_true hrepresentative
  · exact hfits slot

end Sampled

/-- **A sampled action under the objective.**  Every frame of candidates is answered; and for what
is drawn, the objective of the same logits at the same temperature finds the log probability that
came with the draw, whatever the advantage: the ratio is one, nothing is clipped, the divergence is
zero and the loss is the advantage. -/
theorem sampled_objective {heads : MotorHeads} {channels : List MotorChannel}
    {candidates : List ActionCandidate} {logits : List ℝ} {temperature : ℝ}
    (hheads : heads.factorizedMotorChannels = .ok channels) (hpos : 0 < logits.length)
    (hcount : logits.length ≤ 32) (hlength : candidates.length = logits.length)
    (htemperature : 0 < temperature) (seed counter : UInt32) :
    ∃ a, sampleCpuJointAction heads candidates logits seed counter temperature = .ok a
      ∧ ∀ (config : PpoConfig ℝ) (advantage : ℝ), config.validate = .ok () →
        config.temperature = temperature →
        ∃ o, cpuPpoObjective logits a advantage config = .ok o
          ∧ o.jointLogProbability = a.oldJointLogProbability ∧ o.ratio = 1 ∧ o.clipped = false
          ∧ o.approximateKl = 0 ∧ o.policyLoss = -advantage := by
  set enabled : Fin 6 → Bool := fun slot => channels.any fun head => headSlot head = slot
    with henabled
  set mask : UInt32 := 0xFFFFFFFF >>> (32 - logits.length).toUInt32 with hmask
  have hfull : (support logits.length mask).Nonempty :=
    ⟨0, mem_support.2 ⟨hpos, (hasBit_all hpos hcount 0).trans (decide_eq_true hpos)⟩⟩
  have hmasks : ∀ slot, motorMask enabled candidates slot ≠ 0 →
      (support logits.length (motorMask enabled candidates slot)).Nonempty :=
    hlength ▸ support_motorMask (hlength ▸ hcount)
  obtain ⟨representative, logp, hsample, hmem, hlog⟩ :=
    exists_sample temperature seed counter hcount hfull 0
  set forced := (candidates[representative.toNat]?).bind fun c => forcedSlot c.kind with hforced
  obtain ⟨⟨choices, total⟩, hdraws, -, hchoices, htotal⟩ := drawSlots_eq forced representative
    temperature seed counter hcount hmasks (List.nodup_finRange 6) (fun _ => none, logp)
  dsimp only at hchoices htotal
  set a := sampledAction candidates enabled representative choices total temperature with ha
  have hn : a.candidateCount.toNat = logits.length :=
    (UInt16.toNat_ofNat_of_lt' (by simp only [UInt16.size]; omega)).trans hlength
  -- the log probability that comes with the draws is that of the action
  have hfirst : firstLog a temperature (logitAt logits) representative = logp := by
    rw [hlog, firstLog, hn]
    change logSoftmax (support _ (0xFFFFFFFF >>> (32 - candidates.length).toUInt32)) _ _ _ = _
    rw [hlength]
  have hlater : ∀ slot, laterLog a temperature (logitAt logits) representative slot (choices slot)
      = chosenLog logits (motorMask enabled candidates) forced temperature slot (choices slot) := by
    intro slot
    unfold laterLog chosenLog
    rw [hn]
    exact if_congr (or_congr (forcedBy_sampledAction _ _) Iff.rfl) rfl rfl
  have haction : actionLog a temperature (logitAt logits) ⟨representative, choices⟩ = total := by
    rw [htotal, actionLog, jointLog, hfirst, Fin.sum_univ_def]
    simp only [hlater]
    rfl
  have hnonpos : total ≤ 0 := by
    rw [htotal, ← Fin.sum_univ_def]
    refine add_nonpos (hlog ▸ logSoftmax_nonpos hfull hmem) (Finset.sum_nonpos fun slot _ => ?_)
    exact chosenLog_nonpos (hchoices slot (List.mem_finRange slot))
  have hvalid : ∀ t, a.validate t = .ok () :=
    validate_sampledAction (hlength ▸ hpos) (hlength ▸ hcount) htemperature
      (hlength ▸ (mem_support.1 hmem).1) hnonpos
      (hlength ▸ fun slot => hchoices slot (List.mem_finRange slot))
  refine ⟨a, ?_, fun config advantage hconfig htemp => ?_⟩
  · have hcounts : ¬ (logits.length = 0 ∨ 32 < logits.length
        ∨ candidates.length ≠ logits.length ∨ FloatOps.isFinite temperature = false
        ∨ FloatOps.le temperature 0 = true) := by
      push Not
      exact ⟨hpos.ne', hcount, hlength, ne_false_of_eq_true rfl,
        fun hle => not_le.2 htemperature (of_decide_eq_true hle)⟩
    have hfinite : ¬ logits.all FloatOps.isFinite = false :=
      (Bool.not_eq_false _).mpr (List.all_eq_true.2 fun _ _ => rfl)
    have hbuilt : a = { a with
        candidateCount := logits.length.toUInt16, representativeMask := mask } := by
      rw [ha, hmask, ← hlength]
      rfl
    refine contract_check_eq_ok_iff.2 ⟨reject_eq_ok_iff.2 hcounts, contract_check_eq_ok_iff.2
      ⟨reject_eq_ok_iff.2 hfinite, contract_bind_eq_ok_iff.2 ⟨channels, hheads,
      contract_bind_eq_ok_iff.2 ⟨(representative, logp), hsample, contract_bind_eq_ok_iff.2
      ⟨(choices, total), hdraws, contract_check_eq_ok_iff.2
      ⟨?_, congrArg Except.ok hbuilt.symm⟩⟩⟩⟩⟩⟩
    exact (congrArg (fun b : PpoJointAction ℝ => b.validate temperature) hbuilt.symm).trans
      (hvalid temperature)
  · have hratio : logRatio a config.temperature (logitAt logits) = 0 := by
      rw [htemp, logRatio]
      exact sub_eq_zero.2 haction
    have hone : Real.exp (logRatio a config.temperature (logitAt logits)) = 1 := by
      rw [hratio, Real.exp_zero]
    obtain ⟨hclip, -, -⟩ := bounds_of_validate hconfig
    refine ⟨_, objective_eq hconfig (hvalid _) hn.symm advantage, ?_, hone, ?_, ?_, ?_⟩
    · exact sub_eq_zero.1 hratio
    · exact (congrArg _ hone).trans (isClipped_one hclip advantage)
    · change Real.exp (logRatio a config.temperature (logitAt logits)) - 1
        - logRatio a config.temperature (logitAt logits) = 0
      rw [hone, hratio, sub_self, sub_zero]
    · exact (congrArg _ hone).trans (clippedLoss_one hclip advantage)

/-- One candidate that does nothing. -/
def idleCandidate : ActionCandidate where
  candidateIndex := 0
  actionId := ⟨1⟩
  kind := .idle
  family := .other
  target := ⟨none, none⟩
  features := fun _ => F32Value.zero
  sensorConfidence := F32Value.one
  requiredEffort := F32Value.zero
  minDuration := ⟨1⟩
  maxDuration := ⟨1⟩

theorem sampled_objective_idle :
    ∃ (a : PpoJointAction ℝ) (o : CpuPpoObjective ℝ),
      sampleCpuJointAction ⟨3, 1, 3⟩ [idleCandidate, idleCandidate] [0, 0] 1 2 1 = .ok a
      ∧ cpuPpoObjective [0, 0] a 2 fairConfig = .ok o
      ∧ o.jointLogProbability = a.oldJointLogProbability ∧ o.ratio = 1 ∧ o.clipped = false
      ∧ o.approximateKl = 0 ∧ o.policyLoss = -2 := by
  have hheads : (MotorHeads.mk 3 1 3).factorizedMotorChannels
      = .ok [.locomotion, .manipulation, .vocal] := by decide
  have hlength : [idleCandidate, idleCandidate].length = ([0, 0] : List ℝ).length := rfl
  obtain ⟨a, ha, hobjective⟩ := sampled_objective hheads (by decide) (by decide) hlength one_pos 1 2
  obtain ⟨o, ho⟩ := hobjective fairConfig 2 fairConfig_valid rfl
  exact ⟨a, o, ha, ho⟩

end Training

end ALife
