/-
# The objective in exact arithmetic

`cpu_ppo_objective` over the reals (`objective_eq`): for a valid action it reports
the log probability of the action in the joint policy of its frame, and the
entropy of that policy (`joint_policy`).
-/

import ALife.Training.JointPolicy

namespace ALife

open Machine

namespace Training

attribute [local
instance] exactReals exactLog

section Objective

variable {a : PpoJointAction ℝ} {temperature : ℝ} {x : ℕ → ℝ}

/-- The distributions of a frame. -/
noncomputable def exactDistributions (a : PpoJointAction ℝ) (temperature : ℝ) (x : ℕ → ℝ) :
    Distributions ℝ where
  first := exactDistribution a.candidateCount.toNat a.representativeMask temperature x
  slots s := exactDistribution a.candidateCount.toNat (a.motorMasks s) temperature x

theorem distributions_eq (h : FrameFits a) {logits : List ℝ}
    (hlength : logits.length = a.candidateCount.toNat) :
    distributions logits a.representativeMask a.motorMasks temperature
      = .ok (exactDistributions a temperature (logitAt logits)) := by
  have hfirst : categorical logits a.representativeMask temperature
      = .ok (exactDistribution logits.length a.representativeMask temperature (logitAt logits)) :=
    categorical_eq temperature (Or.inr (hlength ▸ h.representatives))
  have hslots : (List.finRange ppoMotorSlots).mapM (fun s =>
      categorical logits (a.motorMasks s) temperature)
      = .ok ((List.finRange ppoMotorSlots).map fun s =>
        exactDistribution logits.length (a.motorMasks s) temperature (logitAt logits)) := by
    refine contract_mapM_ok fun s _ => categorical_eq temperature ?_
    by_cases hmask : a.motorMasks s = 0
    · exact Or.inl hmask
    · exact Or.inr (hlength ▸ h.motors hmask)
  refine contract_bind_eq_ok_iff.2 ⟨_, hfirst, contract_bind_eq_ok_iff.2 ⟨_, hslots, ?_⟩⟩
  rw [hlength]
  refine congrArg Except.ok (congrArg (Distributions.mk _) (funext fun s => ?_))
  rw [List.getElem?_map, List.getElem?_eq_getElem (by simp), List.getElem_finRange]
  rfl

/-- The slots of a valid action hold what their masks allow. -/
theorem exists_motorCandidate (hvalid : a.validate temperature = .ok ()) {s : Fin ppoMotorSlots}
    (hforced : forcedBy a a.representative.toNat s = false) (hmask : a.motorMasks s ≠ 0) :
    ∃ i, a.motorCandidates s = some i
      ∧ i.toNat ∈ support a.candidateCount.toNat (a.motorMasks s) := by
  obtain ⟨h, hchoice⟩ := validate_iff.1 hvalid
  have hmem : a.motorCandidates s ∈ slotOptions a a.representative s := by
    have hactions := (mem_admissible (x := ⟨a.representative, a.motorCandidates⟩) h).2 hvalid
    rw [admissible, outcomes, Finset.mem_sigma, Fintype.mem_piFinset] at hactions
    exact hactions.2 s
  unfold slotOptions at hmem
  rw [if_neg (by rw [hforced]; exact Bool.false_ne_true), if_neg hmask, Finset.mem_map] at hmem
  obtain ⟨i, hi, heq⟩ := hmem
  exact ⟨i, heq.symm, (mem_maskCandidates h.count_le).1 hi⟩

/-- A loop that adds a value in every step. -/
theorem foldlM_add_eq_ok {ι : Type} {step : ℝ → ι → Contract ℝ} {f : ι → ℝ}
    (hstep : ∀ start i, step start i = .ok (start + f i)) (l : List ι) (start : ℝ) :
    l.foldlM step start = .ok (start + (l.map f).sum) := by
  induction l generalizing start with
  | nil =>
    rw [List.map_nil, List.sum_nil, add_zero]
    rfl
  | cons i l ih =>
    rw [List.foldlM_cons, List.map_cons, List.sum_cons, ← add_assoc]
    exact contract_bind_eq_ok_iff.2 ⟨_, hstep start i, ih _⟩

theorem jointLogProbability_eq (hvalid : a.validate temperature = .ok ()) :
    jointLogProbability (exactDistributions a temperature x) a
      = .ok (actionLog a temperature x ⟨a.representative, a.motorCandidates⟩) := by
  obtain ⟨h, hlt, hbit, -⟩ := validate_iff.1 hvalid
  have hfirst : (exactDistributions a temperature x).first.lp a.representative.toNat
      = firstLog a temperature x a.representative := if_pos (mem_support.2 ⟨hlt, hbit⟩)
  refine (foldlM_add_eq_ok (f := fun s => laterLog a temperature x a.representative s
    (a.motorCandidates s)) (fun logp s => ?_) _ _).trans (congrArg Except.ok ?_)
  -- a slot that the representative leaves open and that has candidates adds its draw
  · unfold laterLog
    split_ifs with hdrawn hnone hnone
    · exact absurd hnone (by rw [hdrawn.1]; simp [hdrawn.2])
    · obtain ⟨i, hi, hmem⟩ := exists_motorCandidate hvalid hdrawn.1 hdrawn.2
      rw [hi]
      refine congrArg Except.ok (congrArg (logp + ·) ?_)
      exact if_pos hmem
    · rw [add_zero]
      rfl
    · exact absurd ⟨by simpa using (not_or.1 hnone).1, (not_or.1 hnone).2⟩ hdrawn
  · rw [hfirst, actionLog, jointLog, Fin.sum_univ_def]

/-- A sum of what a loop adds where a condition holds. -/
theorem foldl_if_add {ι : Type} (c : ι → Bool) (f : ι → ℝ) (l : List ι) (start : ℝ) :
    l.foldl (fun sum i => if c i = true then sum + f i else sum) start
      = start + (l.map fun i => if c i = true then f i else 0).sum := by
  induction l generalizing start with
  | nil => simp
  | cons i l ih =>
    rw [List.foldl_cons, ih, List.map_cons, List.sum_cons, ← add_assoc]
    split_ifs <;> simp

theorem forcedMass_eq (h : FrameFits a) (s : Fin ppoMotorSlots) :
    forcedMass (exactDistributions a temperature x) a s = slotMass a temperature x s := by
  refine (foldl_if_add (forcedBy a · s) (exactDistributions a temperature x).first.p _ _).trans ?_
  rw [zero_add, ← List.sum_toFinset _ List.nodup_range, List.toFinset_range, h.forced_length,
    slotMass, Finset.sum_filter, support, Finset.sum_filter]
  refine Finset.sum_congr rfl fun i hi => ?_
  have hmem : i ∈ support a.candidateCount.toNat a.representativeMask
      ↔ hasBit a.representativeMask i = true := by
    rw [mem_support, and_iff_right (Finset.mem_range.1 hi)]
  change (if forcedBy a i s = true then
    (if i ∈ support a.candidateCount.toNat a.representativeMask then
      softmax (support a.candidateCount.toNat a.representativeMask) temperature x i else 0)
    else 0) = _
  rw [if_congr hmem rfl rfl]
  split_ifs <;> rfl

/-- `log_ratio`. -/
noncomputable def logRatio (a : PpoJointAction ℝ) (temperature : ℝ) (x : ℕ → ℝ) : ℝ :=
  actionLog a temperature x ⟨a.representative, a.motorCandidates⟩ - a.oldJointLogProbability

/-- The loss of a ratio. -/
noncomputable def clippedLoss (clipRatio advantage ratio : ℝ) : ℝ :=
  -minOf (ratio * advantage)
    (FloatOps.clamp ratio (1 - clipRatio) (1 + clipRatio) * advantage)

/-- Where the loss of a ratio is flat. -/
noncomputable def isClipped (clipRatio advantage ratio : ℝ) : Bool :=
  (decide (0 ≤ advantage) && decide (1 + clipRatio < ratio))
    || (decide (advantage < 0) && decide (ratio < 1 - clipRatio))

/-- What a logit adds to the log probability of an action, times the temperature. -/
noncomputable def logGradient (a : PpoJointAction ℝ) (d : Distributions ℝ) (i : ℕ) : ℝ :=
  ((if i = a.representative.toNat then 1 else 0) - d.first.p i)
    + ∑ s, if a.motorMasks s ≠ 0 ∧ forcedBy a a.representative.toNat s = false then
        (if a.motorCandidates s = some i.toUInt16 then 1 else 0) - (d.slots s).p i else 0

/-- What a logit adds to the entropy, times the temperature. -/
noncomputable def entropyGradient (a : PpoJointAction ℝ) (d : Distributions ℝ) (i : ℕ) : ℝ :=
  -(d.first.p i * (d.first.lp i + d.first.entropy + forcedEntropy d a i
      - ∑ s, forcedMass d a s * (d.slots s).entropy))
    - ∑ s, if a.motorMasks s ≠ 0 then
        (1 - forcedMass d a s) * (d.slots s).p i * ((d.slots s).lp i + (d.slots s).entropy) else 0

/-- The objective of an action. -/
noncomputable def exactObjective (a : PpoJointAction ℝ) (advantage : ℝ) (config : PpoConfig ℝ)
    (x : ℕ → ℝ) : CpuPpoObjective ℝ :=
  let ratio := Real.exp (logRatio a config.temperature x)
  let d := exactDistributions a config.temperature x
  { jointLogProbability :=
      actionLog a config.temperature x ⟨a.representative, a.motorCandidates⟩
    entropy := policyEntropy a config.temperature x
    policyLoss := clippedLoss config.clipRatio advantage ratio
    approximateKl := ratio - 1 - logRatio a config.temperature x
    ratio
    clipped := isClipped config.clipRatio advantage ratio
    logitGradients := (List.range a.candidateCount.toNat).map fun i =>
      ((if isClipped config.clipRatio advantage ratio = true then 0 else -advantage * ratio)
        * logGradient a d i - config.entropyCoefficient * entropyGradient a d i)
        / config.temperature }

theorem finite_ok (xs : List ℝ) : CpuFoundationTrainer.finite xs = .ok () :=
  reject_eq_ok_iff.2 fun ⟨_, _, h⟩ => h rfl

/-- Two sums in one loop. -/
theorem foldl_pair (f g : Fin ppoMotorSlots → ℝ) (slots : List (Fin ppoMotorSlots)) (x y : ℝ) :
    slots.foldl (fun sums s => (sums.1 + f s, sums.2 - g s)) (x, y)
      = (x + (slots.map f).sum, y - (slots.map g).sum) := by
  induction slots generalizing x y with
  | nil => simp
  | cons s slots ih =>
    rw [List.foldl_cons, ih, List.map_cons, List.map_cons, List.sum_cons, List.sum_cons,
      ← add_assoc, ← sub_sub]

/-- The gradients that the loop over the slots sums up. -/
theorem candidateGradients_eq (a : PpoJointAction ℝ) (d : Distributions ℝ) (i : ℕ)
    (hfirst : 0 ≤ d.first.p i) (hslots : ∀ s, 0 ≤ (d.slots s).p i) :
    candidateGradients d a i = (logGradient a d i, entropyGradient a d i) := by
  have hstart : (if decide (0 < d.first.p i) = true then
        -d.first.p i * (d.first.lp i + d.first.entropy + forcedEntropy d a i - expectedForced d a)
      else 0) = -(d.first.p i * (d.first.lp i + d.first.entropy + forcedEntropy d a i
        - ∑ s, forcedMass d a s * (d.slots s).entropy)) := by
    rw [Fin.sum_univ_def]
    rcases hfirst.eq_or_lt with hzero | hpos
    · simp [← hzero]
    · rw [if_pos (decide_eq_true hpos), neg_mul]
      rfl
  rw [logGradient, entropyGradient, ← hstart, Fin.sum_univ_def, Fin.sum_univ_def, ← foldl_pair]
  refine congrFun (congrFun (congrArg List.foldl (funext fun sums => funext fun s => ?_)) _) _
  have hent : ∀ q e : ℝ, (if FloatOps.lt 0 ((d.slots s).p i) = true then
      sums.2 - q * (d.slots s).p i * e else sums.2) = sums.2 - q * (d.slots s).p i * e := by
    intro q e
    rcases (hslots s).eq_or_lt with hzero | hpos
    · simp [← hzero]
    · exact if_pos (decide_eq_true hpos)
  by_cases hmask : a.motorMasks s = 0
  · simp [hmask]
  · dsimp only
    rw [if_pos hmask, if_pos hmask, hent]
    by_cases hforced : forcedBy a a.representative.toNat s = false
    · simp [hmask, hforced]
    · simp [hforced]

theorem exactDistribution_nonneg {count : ℕ} {mask : UInt32} (i : ℕ) :
    0 ≤ (exactDistribution count mask temperature x).p i := by
  unfold exactDistribution
  dsimp only
  split_ifs with h
  · exact (softmax_pos ⟨i, h⟩ i).le
  · exact le_rfl

/-- **The objective of a valid action** over its logits. -/
theorem objective_eq {config : PpoConfig ℝ} (hconfig : config.validate = .ok ())
    (hvalid : a.validate config.temperature = .ok ()) {logits : List ℝ}
    (hlength : logits.length = a.candidateCount.toNat) (advantage : ℝ) :
    cpuPpoObjective logits a advantage config
      = .ok (exactObjective a advantage config (logitAt logits)) := by
  obtain ⟨h, -⟩ := validate_iff.1 hvalid
  set T := config.temperature with hT
  set x := logitAt logits with hx
  have hkl : ∀ r : ℝ, max (Real.exp r - 1 - r) 0 = Real.exp r - 1 - r := fun r =>
    max_eq_left (by linarith [Real.add_one_le_exp r])
  have hentropy : (exactDistributions a T x).first.entropy
      + ((List.finRange ppoMotorSlots).map fun s =>
        (1 - forcedMass (exactDistributions a T x) a s)
          * ((exactDistributions a T x).slots s).entropy).sum = policyEntropy a T x := by
    rw [policyEntropy, Fin.sum_univ_def]
    simp only [forcedMass_eq h]
    rfl
  unfold cpuPpoObjective
  refine contract_check_eq_ok_iff.2 ⟨hconfig, contract_check_eq_ok_iff.2 ⟨hvalid,
    contract_check_eq_ok_iff.2 ⟨finite_ok _, contract_check_eq_ok_iff.2 ⟨reject_eq_ok_iff.2 ?_,
    contract_bind_eq_ok_iff.2 ⟨_, distributions_eq h hlength, contract_bind_eq_ok_iff.2
    ⟨_, jointLogProbability_eq hvalid, contract_check_eq_ok_iff.2 ⟨finite_ok _,
    contract_check_eq_ok_iff.2 ⟨finite_ok _, congrArg Except.ok ?_⟩⟩⟩⟩⟩⟩⟩⟩
  · rintro (hne | hinfinite)
    · exact hne hlength
    · cases hinfinite
  · refine CpuPpoObjective.ext rfl hentropy rfl (hkl _) rfl rfl ?_
    change (List.range logits.length).map _ = (List.range a.candidateCount.toNat).map _
    rw [hlength]
    refine List.map_congr_left fun i _ => ?_
    have hgradients := candidateGradients_eq a (exactDistributions a T x) i
      (exactDistribution_nonneg i) fun s => exactDistribution_nonneg i
    dsimp only
    rw [hgradients]
    rfl

theorem exactObjective_of_ok {config : PpoConfig ℝ} {advantage : ℝ} {logits : List ℝ}
    {o : CpuPpoObjective ℝ} (ho : cpuPpoObjective logits a advantage config = .ok o) :
    config.validate = .ok () ∧ a.validate config.temperature = .ok ()
      ∧ logits.length = a.candidateCount.toNat
      ∧ o = exactObjective a advantage config (logitAt logits) := by
  have hobjective := ho
  unfold cpuPpoObjective at ho
  obtain ⟨hconfig, ho⟩ := contract_check_eq_ok_iff.1 ho
  obtain ⟨hvalid, ho⟩ := contract_check_eq_ok_iff.1 ho
  obtain ⟨-, ho⟩ := contract_check_eq_ok_iff.1 ho
  obtain ⟨hlength, -⟩ := contract_check_eq_ok_iff.1 ho
  rw [reject_eq_ok_iff, not_or, not_not] at hlength
  refine ⟨hconfig, hvalid, hlength.1, ?_⟩
  rw [objective_eq hconfig hvalid hlength.1] at hobjective
  exact (Except.ok.inj hobjective).symm

theorem bounds_of_validate {config : PpoConfig ℝ} (h : config.validate = .ok ()) :
    0 < config.clipRatio ∧ config.clipRatio < 1 ∧ 0 < config.temperature := by
  have hfields := reject_eq_ok_iff.1 (contract_seq_eq_ok_iff.1 h).2
  push Not at hfields
  obtain ⟨-, -, hclip, hzero, -, -, -, -, -, htemperature⟩ := hfields
  obtain ⟨hle, hlt⟩ := (Bool.and_eq_true_iff).1 (Bool.eq_true_of_not_eq_false hclip)
  have hnonneg : 0 ≤ config.clipRatio := of_decide_eq_true hle
  exact ⟨hnonneg.lt_of_ne' fun h => hzero (decide_eq_true h), of_decide_eq_true hlt,
    not_le.1 fun hle => htemperature (decide_eq_true hle)⟩

theorem clippedLoss_one {clipRatio : ℝ} (h : 0 < clipRatio) (advantage : ℝ) :
    clippedLoss clipRatio advantage 1 = -advantage := by
  have hclamp : FloatOps.clamp (1 : ℝ) (1 - clipRatio) (1 + clipRatio) = 1 := by
    have hlower : ¬ (1 : ℝ) < 1 - clipRatio := by linarith
    have hupper : ¬ 1 + clipRatio < 1 := by linarith
    exact (if_neg fun hlt => hlower (of_decide_eq_true hlt)).trans
      (if_neg fun hlt => hupper (of_decide_eq_true hlt))
  rw [clippedLoss, hclamp, one_mul, minOf, ite_self]

theorem isClipped_one {clipRatio : ℝ} (h : 0 < clipRatio) (advantage : ℝ) :
    isClipped clipRatio advantage 1 = false := by
  have hupper : ¬ 1 + clipRatio < 1 := by linarith
  have hlower : ¬ 1 < 1 - clipRatio := by linarith
  rw [isClipped, decide_eq_false hupper, decide_eq_false hlower, Bool.and_false, Bool.and_false,
    Bool.or_self]

/-- **One policy.**  The joint actions that pass the check in the frame of a valid one are finitely
many, the probabilities that the objective reports for them sum to one, and the entropy that it
reports, for any of them, is the entropy of these probabilities. -/
theorem joint_policy {config : PpoConfig ℝ} {advantage : ℝ} {logits : List ℝ}
    {o : CpuPpoObjective ℝ} (ho : cpuPpoObjective logits a advantage config = .ok o) :
    ∃ (actions : Finset (Σ _ : UInt16, Fin ppoMotorSlots → Option UInt16))
      (logp : (Σ _ : UInt16, Fin ppoMotorSlots → Option UInt16) → ℝ),
      (∀ y, y ∈ actions ↔ (a.withChoice y).validate config.temperature = .ok ())
      ∧ (∀ y ∈ actions, ∃ oy, cpuPpoObjective logits (a.withChoice y) advantage config = .ok oy
        ∧ oy.jointLogProbability = logp y ∧ oy.entropy = o.entropy)
      ∧ o.jointLogProbability = logp ⟨a.representative, a.motorCandidates⟩
      ∧ ∑ y ∈ actions, Real.exp (logp y) = 1
      ∧ o.entropy = -∑ y ∈ actions, Real.exp (logp y) * logp y := by
  obtain ⟨hconfig, hvalid, hlength, rfl⟩ := exactObjective_of_ok ho
  obtain ⟨h, -⟩ := validate_iff.1 hvalid
  refine ⟨admissible a, actionLog a config.temperature (logitAt logits), fun y => mem_admissible h,
    fun y hy => ?_, rfl, sum_exp_actionLog h, policyEntropy_eq h⟩
  exact ⟨_, objective_eq hconfig ((mem_admissible h).1 hy) hlength advantage, rfl, rfl⟩

end Objective

/-! ### Two equal candidates -/

/-- A configuration, and an action of two candidates where the first one forces a slot. -/
noncomputable def fairConfig : PpoConfig ℝ where
  clipRatio := 0.2
  epochs := 1
  targetKl := 1
  entropyCoefficient := 0.01
  valueCoefficient := 0.5
  discountHalfLifeSeconds := 1
  gaeHalfLifeSeconds := 1
  temperature := 1
  valueOptimizer := ⟨0.001, 0.9, 0.99, 0.000001, 0, 1⟩

section Fair

attribute [local instance] CpuReplay.atLeastTwo_two

noncomputable def fairAction : PpoJointAction ℝ where
  candidateCount := 2
  representativeMask := 3
  motorMasks s := if s.val = 0 then 1 else 0
  representative := 0
  forcedSlots := [some 0, none]
  motorCandidates s := if s.val = 0 then some 0 else none
  oldJointLogProbability := -Real.log 2
  temperature := 1

end Fair

theorem fairConfig_valid : fairConfig.validate = .ok () := by
  unfold PpoConfig.validate AdamWConfig.validate PpoConfig.floats AdamWConfig.floats fairConfig
  norm_num [FloatOrder.zero, FloatOrder.one, FloatOrder.lt, FloatOrder.le, FloatOrder.feq,
    FloatOrder.isFinite]
  decide

theorem fairAction_valid (temperature : ℝ) : fairAction.validate temperature = .ok () := by
  refine validate_iff.2 ⟨⟨by decide, by decide, by decide, ?_, one_pos, by decide, by decide,
    ?_, by decide, by decide⟩, by decide, by decide, by decide⟩
  · refine not_lt.2 ((neg_nonpos.2 (Real.log_nonneg one_le_two)).trans ?_)
    change (0 : ℝ) ≤ ((1 : ℤ) : ℝ) / ((100000 : ℕ) : ℝ)
    norm_num
  · simp [fairAction, ppoMotorSlots]

theorem joint_policy_fair :
    ∃ (actions : Finset (Σ _ : UInt16, Fin ppoMotorSlots → Option UInt16))
      (logp : (Σ _ : UInt16, Fin ppoMotorSlots → Option UInt16) → ℝ) (o : CpuPpoObjective ℝ),
      cpuPpoObjective [0, 0] fairAction 1 fairConfig = .ok o
      ∧ (∀ y, y ∈ actions ↔
        (fairAction.withChoice y).validate fairConfig.temperature = .ok ())
      ∧ (∀ y ∈ actions, ∃ oy,
        cpuPpoObjective [0, 0] (fairAction.withChoice y) 1 fairConfig = .ok oy
        ∧ oy.jointLogProbability = logp y ∧ oy.entropy = o.entropy)
      ∧ o.jointLogProbability = logp ⟨fairAction.representative, fairAction.motorCandidates⟩
      ∧ ∑ y ∈ actions, Real.exp (logp y) = 1
      ∧ o.entropy = -∑ y ∈ actions, Real.exp (logp y) * logp y := by
  have hlength : ([0, 0] : List ℝ).length = fairAction.candidateCount.toNat := by decide
  have ho := objective_eq fairConfig_valid (fairAction_valid _) hlength 1
  obtain ⟨actions, logp, h⟩ := joint_policy ho
  exact ⟨actions, logp, _, ho, h⟩

end Training

end ALife
