/-
# The gradient of the objective

The gradients of `cpu_ppo_objective` are derivatives: along every differentiable
curve of logits, the loss minus the weighted entropy changes at the rate that they
say (`objective_hasDerivAt`), wherever the ratio is not at an edge of the clip.
-/

import ALife.Machine.Kinks
import ALife.Training.ExactObjective

namespace ALife

open Machine

namespace Training

attribute [local
instance] exactReals exactLog

/-! ### The clipped loss -/

theorem minOf_eq (a b : ℝ) : minOf a b = min a b := by
  unfold minOf
  rcases lt_or_ge a b with h | h
  · exact (if_pos (decide_eq_true h)).trans (min_eq_left h.le).symm
  · exact (if_neg fun hlt => not_lt.2 h (of_decide_eq_true hlt)).trans (min_eq_right h).symm

theorem clampOf_eq (x lo hi : ℝ) : FloatOps.clamp x lo hi = clamp x lo hi :=
  if_congr decide_eq_true_iff rfl (if_congr decide_eq_true_iff rfl rfl)

theorem clippedLoss_eq (c advantage ratio : ℝ) :
    clippedLoss c advantage ratio
      = -min (ratio * advantage) (clamp ratio (1 - c) (1 + c) * advantage) := by
  rw [clippedLoss, minOf_eq, clampOf_eq]

section Clip

variable {c advantage ratio : ℝ}

theorem clippedLoss_of_le (hadvantage : 0 ≤ advantage) (h : ratio ≤ 1 + c) :
    clippedLoss c advantage ratio = -(ratio * advantage) := by
  rw [clippedLoss_eq]
  rcases lt_or_ge ratio (1 - c) with hlow | hlow
  · rw [clamp_of_lt hlow, min_eq_left (mul_le_mul_of_nonneg_right hlow.le hadvantage)]
  · rw [clamp_of_mem hlow h, min_self]

theorem clippedLoss_of_gt (hc : 0 < c) (hadvantage : 0 ≤ advantage) (h : 1 + c < ratio) :
    clippedLoss c advantage ratio = -((1 + c) * advantage) := by
  rw [clippedLoss_eq, clamp_of_gt (by linarith) h,
    min_eq_right (mul_le_mul_of_nonneg_right h.le hadvantage)]

theorem clippedLoss_of_ge (hc : 0 < c) (hadvantage : advantage < 0) (h : 1 - c ≤ ratio) :
    clippedLoss c advantage ratio = -(ratio * advantage) := by
  rw [clippedLoss_eq]
  rcases lt_or_ge (1 + c) ratio with hhigh | hhigh
  · rw [clamp_of_gt (by linarith) hhigh,
      min_eq_left (mul_le_mul_of_nonpos_right hhigh.le hadvantage.le)]
  · rw [clamp_of_mem h hhigh, min_self]

theorem clippedLoss_of_lt (hadvantage : advantage < 0) (h : ratio < 1 - c) :
    clippedLoss c advantage ratio = -((1 - c) * advantage) := by
  rw [clippedLoss_eq, clamp_of_lt h,
    min_eq_right (mul_le_mul_of_nonpos_right h.le hadvantage.le)]

theorem isClipped_iff : isClipped c advantage ratio = true ↔
    (0 ≤ advantage ∧ 1 + c < ratio) ∨ (advantage < 0 ∧ ratio < 1 - c) := by
  simp [isClipped]

theorem hasDerivAt_clippedLoss (hc : 0 < c) (hupper : ratio ≠ 1 + c) (hlower : ratio ≠ 1 - c) :
    HasDerivAt (clippedLoss c advantage)
      (if isClipped c advantage ratio = true then 0 else -advantage) ratio := by
  have hline : HasDerivAt (fun r : ℝ => -(r * advantage)) (-advantage) ratio := by
    simpa using ((hasDerivAt_id ratio).mul_const advantage).fun_neg
  rw [if_congr isClipped_iff rfl rfl]
  rcases lt_or_ge advantage 0 with hadvantage | hadvantage
  · rcases hlower.lt_or_gt with h | h
    · rw [if_pos (.inr ⟨hadvantage, h⟩)]
      refine (hasDerivAt_const ratio (-((1 - c) * advantage))).congr_of_eventuallyEq ?_
      filter_upwards [eventually_lt_nhds h] with r hr using clippedLoss_of_lt hadvantage hr
    · rw [if_neg (by rintro (⟨h', -⟩ | ⟨-, h'⟩) <;> linarith)]
      refine hline.congr_of_eventuallyEq ?_
      filter_upwards [eventually_gt_nhds h] with r hr using clippedLoss_of_ge hc hadvantage hr.le
  · rcases hupper.lt_or_gt with h | h
    · rw [if_neg (by rintro (⟨-, h'⟩ | ⟨h', -⟩) <;> linarith)]
      refine hline.congr_of_eventuallyEq ?_
      filter_upwards [eventually_lt_nhds h] with r hr using clippedLoss_of_le hadvantage hr.le
    · rw [if_pos (.inl ⟨hadvantage, h⟩)]
      refine (hasDerivAt_const ratio (-((1 + c) * advantage))).congr_of_eventuallyEq ?_
      filter_upwards [eventually_gt_nhds h] with r hr using clippedLoss_of_gt hc hadvantage hr

end Clip

/-! ### Along a curve of logits -/

section Curve

variable {a : PpoJointAction ℝ} {temperature : ℝ} {x : ℝ → ℕ → ℝ} {v : ℕ → ℝ} {t : ℝ}

/-- A sum over the candidates of what vanishes outside of a mask. -/
theorem sum_range_support {count : ℕ} {mask : UInt32} (f g : ℕ → ℝ) :
    ∑ i ∈ Finset.range count, (if i ∈ support count mask then f i else 0) * g i
      = ∑ i ∈ support count mask, f i * g i := by
  simp only [ite_mul, zero_mul]
  rw [← Finset.sum_filter]
  refine Finset.sum_congr (Finset.ext fun i => ?_) fun _ _ => rfl
  rw [Finset.mem_filter, Finset.mem_range, and_iff_right_iff_imp]
  exact fun h => (mem_support.1 h).1

/-- The log probability of a choice, in the logits of all candidates. -/
theorem hasDerivAt_choiceLog (temperature : ℝ) {count : ℕ} {mask : UInt32}
    (hx : ∀ i < count, HasDerivAt (fun u => x u i) (v i) t) {r : ℕ} (hr : r ∈ support count mask) :
    HasDerivAt (fun u => logSoftmax (support count mask) temperature (x u) r)
      (∑ i ∈ Finset.range count,
        ((if i = r then 1 else 0) - (exactDistribution count mask temperature (x t)).p i)
          * (v i / temperature)) t := by
  have hderiv := hasDerivAt_logSoftmax (T := temperature) ⟨r, hr⟩
    (fun i hi => hx i (mem_support.1 hi).1) hr
  refine hderiv.congr_deriv ?_
  have hpick : ∑ i ∈ Finset.range count, (if i = r then (1 : ℝ) else 0) * (v i / temperature)
      = v r / temperature := by
    simp only [ite_mul, one_mul, zero_mul]
    rw [Finset.sum_ite_eq' (Finset.range count) r fun i => v i / temperature,
      if_pos (Finset.mem_range.2 (mem_support.1 hr).1)]
  simp only [sub_mul]
  rw [Finset.sum_sub_distrib, hpick]
  unfold exactDistribution
  dsimp only
  rw [sum_range_support, sub_div, Finset.sum_div]
  exact congrArg _ (Finset.sum_congr rfl fun i _ => by ring)

/-- The log probability of an action. -/
theorem hasDerivAt_actionLog (hvalid : a.validate temperature = .ok ())
    (hx : ∀ i < a.candidateCount.toNat, HasDerivAt (fun u => x u i) (v i) t) :
    HasDerivAt (fun u => actionLog a temperature (x u) ⟨a.representative, a.motorCandidates⟩)
      (∑ i ∈ Finset.range a.candidateCount.toNat,
        logGradient a (exactDistributions a temperature (x t)) i * (v i / temperature)) t := by
  obtain ⟨h, hlt, hbit, -⟩ := validate_iff.1 hvalid
  have hfirst := hasDerivAt_choiceLog temperature hx (mem_support.2 ⟨hlt, hbit⟩)
  have hlater : ∀ s : Fin ppoMotorSlots,
      HasDerivAt (fun u => laterLog a temperature (x u) a.representative s (a.motorCandidates s))
        (∑ i ∈ Finset.range a.candidateCount.toNat,
          (if a.motorMasks s ≠ 0 ∧ forcedBy a a.representative.toNat s = false then
            (if a.motorCandidates s = some i.toUInt16 then 1 else 0)
              - ((exactDistributions a temperature (x t)).slots s).p i else 0)
            * (v i / temperature)) t := by
    intro s
    unfold laterLog
    by_cases hdrawn : forcedBy a a.representative.toNat s = true ∨ a.motorMasks s = 0
    · simp only [if_pos hdrawn]
      refine (hasDerivAt_const t (0 : ℝ)).congr_deriv (Finset.sum_eq_zero fun i _ => ?_).symm
      rw [if_neg, zero_mul]
      rintro ⟨hmask, hforced⟩
      rcases hdrawn with hdrawn | hdrawn
      · rw [hforced] at hdrawn
        cases hdrawn
      · exact hmask hdrawn
    · simp only [if_neg hdrawn]
      obtain ⟨hforced, hmask⟩ := not_or.1 hdrawn
      rw [Bool.not_eq_true] at hforced
      obtain ⟨c, hc, hmem⟩ := exists_motorCandidate hvalid hforced hmask
      simp only [hc, Option.elim_some]
      refine (hasDerivAt_choiceLog temperature hx hmem).congr_deriv ?_
      refine Finset.sum_congr rfl fun i hi => ?_
      have hi32 : i < 32 := (Finset.mem_range.1 hi).trans_le h.count_le
      have heq : some c = some i.toUInt16 ↔ i = c.toNat := by
        rw [Option.some_inj, ← UInt16.toNat_inj,
          UInt16.toNat_ofNat_of_lt' (by simp only [UInt16.size]; omega)]
        exact eq_comm
      have hcond : a.motorMasks s ≠ 0 ∧ forcedBy a a.representative.toNat s = false :=
        ⟨hmask, hforced⟩
      rw [if_pos hcond, if_congr heq rfl rfl]
      rfl
  have hall := hfirst.fun_add (HasDerivAt.fun_sum (u := Finset.univ) fun s _ => hlater s)
  refine hall.congr_deriv ?_
  rw [Finset.sum_comm, ← Finset.sum_add_distrib]
  refine Finset.sum_congr rfl fun i _ => ?_
  rw [← Finset.sum_mul, ← add_mul]
  rfl

/-- The entropy of a slot or of the representative, in the logits of all candidates. -/
theorem hasDerivAt_maskEntropy {count : ℕ} {mask : UInt32}
    (hx : ∀ i < count, HasDerivAt (fun u => x u i) (v i) t) :
    HasDerivAt (fun u => softEntropy (support count mask) temperature (x u))
      (-∑ i ∈ Finset.range count, (exactDistribution count mask temperature (x t)).p i
        * ((exactDistribution count mask temperature (x t)).lp i
          + (exactDistribution count mask temperature (x t)).entropy) * (v i / temperature)) t := by
  have hsum : ∑ i ∈ Finset.range count, (exactDistribution count mask temperature (x t)).p i
        * ((exactDistribution count mask temperature (x t)).lp i
          + (exactDistribution count mask temperature (x t)).entropy) * (v i / temperature)
      = ∑ i ∈ support count mask, softmax (support count mask) temperature (x t) i
        * (logSoftmax (support count mask) temperature (x t) i
          + softEntropy (support count mask) temperature (x t)) * (v i / temperature) := by
    unfold exactDistribution
    dsimp only
    simp only [mul_assoc]
    rw [sum_range_support]
    refine Finset.sum_congr rfl fun i hi => ?_
    rw [if_pos hi]
  rw [hsum]
  rcases (support count mask).eq_empty_or_nonempty with hempty | hne
  · rw [hempty, Finset.sum_empty, neg_zero]
    unfold softEntropy
    simp only [Finset.sum_empty, neg_zero]
    exact hasDerivAt_const t 0
  · exact hasDerivAt_softEntropy hne fun i hi => hx i (mem_support.1 hi).1

/-- The one slot that a candidate forces. -/
theorem forcedEntropy_eq (a : PpoJointAction ℝ) (d : Distributions ℝ) (i : ℕ) :
    forcedEntropy d a i = ∑ s, if forcedBy a i s = true then (d.slots s).entropy else 0 := by
  have hunique : ∀ s s', forcedBy a i s = true → forcedBy a i s' = true → s = s' := by
    intro s s' hs hs'
    have heq := (beq_iff_eq.1 hs).symm.trans (beq_iff_eq.1 hs')
    exact toUInt8_inj (Option.some.inj heq)
  unfold forcedEntropy
  cases hfind : (List.finRange ppoMotorSlots).find? fun s => forcedBy a i s with
  | none =>
    refine (Finset.sum_eq_zero fun s _ => if_neg fun hs => ?_).symm
    exact List.find?_eq_none.1 hfind s (List.mem_finRange s) hs
  | some s =>
    have hs : forcedBy a i s = true := List.find?_some hfind
    rw [Option.elim_some, Finset.sum_eq_single s, if_pos hs]
    · exact fun s' _ hne => if_neg fun hs' => hne (hunique s' s hs' hs)
    · exact fun h => absurd (Finset.mem_univ s) h

/-- What the forced slots take from the entropy. -/
theorem hasDerivAt_slotMass (temperature : ℝ) (h : FrameFits a)
    (hx : ∀ i < a.candidateCount.toNat, HasDerivAt (fun u => x u i) (v i) t)
    (s : Fin ppoMotorSlots) :
    HasDerivAt (fun u => slotMass a temperature (x u) s)
      (∑ i ∈ support a.candidateCount.toNat a.representativeMask,
        if forcedBy a i s = true then
          softmax (support a.candidateCount.toNat a.representativeMask) temperature (x t) i
            * ((v i - ∑ j ∈ support a.candidateCount.toNat a.representativeMask,
              softmax (support a.candidateCount.toNat a.representativeMask) temperature (x t) j
                * v j) / temperature)
        else 0) t := by
  unfold slotMass
  rw [← Finset.sum_filter]
  refine HasDerivAt.fun_sum fun i hi => ?_
  exact hasDerivAt_softmax h.representatives (fun i hi => hx i (mem_support.1 hi).1)
    (Finset.mem_filter.1 hi).1

/-- Masses that move with centred rates: their weighted sum, candidate by candidate. -/
theorem sum_centred {κ : Type} [Fintype κ] (S : Finset ℕ) (c : ℕ → κ → Bool) (q v : ℕ → ℝ)
    (H : κ → ℝ) (temperature : ℝ) :
    ∑ s, (∑ i ∈ S, if c i s = true then q i * ((v i - ∑ j ∈ S, q j * v j) / temperature) else 0)
        * H s
      = ∑ i ∈ S, q i * ((∑ s, if c i s = true then H s else 0)
        - ∑ s, (∑ i ∈ S.filter (c · s = true), q i) * H s) * (v i / temperature) := by
  set m := ∑ j ∈ S, q j * v j with hm
  set g : ℕ → ℝ := fun i => ∑ s, if c i s = true then H s else 0 with hg
  have hmean : ∑ s, (∑ i ∈ S.filter (c · s = true), q i) * H s = ∑ i ∈ S, q i * g i := by
    simp only [Finset.sum_filter, Finset.sum_mul, hg, Finset.mul_sum]
    rw [Finset.sum_comm]
    refine Finset.sum_congr rfl fun i _ => Finset.sum_congr rfl fun s _ => ?_
    split_ifs <;> simp
  have hrates : ∑ s, (∑ i ∈ S, if c i s = true then q i * ((v i - m) / temperature) else 0) * H s
      = ∑ i ∈ S, q i * ((v i - m) / temperature) * g i := by
    simp only [Finset.sum_mul, hg, Finset.mul_sum]
    rw [Finset.sum_comm]
    refine Finset.sum_congr rfl fun i _ => Finset.sum_congr rfl fun s _ => ?_
    split_ifs <;> simp
  rw [hmean, hrates]
  calc ∑ i ∈ S, q i * ((v i - m) / temperature) * g i
      = ∑ i ∈ S, q i * g i * (v i / temperature) - m / temperature * ∑ i ∈ S, q i * g i := by
        rw [Finset.mul_sum, ← Finset.sum_sub_distrib]
        exact Finset.sum_congr rfl fun i _ => by ring
    _ = ∑ i ∈ S, q i * g i * (v i / temperature)
          - (∑ i ∈ S, q i * g i) * ∑ i ∈ S, q i * (v i / temperature) := by
        rw [hm, Finset.sum_div, mul_comm]
        exact congrArg _ (congrArg _ (Finset.sum_congr rfl fun i _ => by ring))
    _ = ∑ i ∈ S, q i * (g i - ∑ j ∈ S, q j * g j) * (v i / temperature) := by
        rw [Finset.mul_sum, ← Finset.sum_sub_distrib]
        exact Finset.sum_congr rfl fun i _ => by ring

/-- The entropy of the policy. -/
theorem hasDerivAt_policyEntropy (h : FrameFits a)
    (hx : ∀ i < a.candidateCount.toNat, HasDerivAt (fun u => x u i) (v i) t) :
    HasDerivAt (fun u => policyEntropy a temperature (x u))
      (∑ i ∈ Finset.range a.candidateCount.toNat,
        entropyGradient a (exactDistributions a temperature (x t)) i * (v i / temperature)) t := by
  set n := a.candidateCount.toNat with hn
  set d := exactDistributions a temperature (x t) with hd
  set M := slotMass a temperature (x t) with hM
  have hfirst : HasDerivAt (fun u => softEntropy (support n a.representativeMask) temperature (x u))
      (-∑ i ∈ Finset.range n, d.first.p i * (d.first.lp i + d.first.entropy)
        * (v i / temperature)) t := hasDerivAt_maskEntropy hx
  have hslots : ∀ s : Fin ppoMotorSlots, HasDerivAt (fun u => slotEntropy a temperature (x u) s)
      (-∑ i ∈ Finset.range n, (d.slots s).p i * ((d.slots s).lp i + (d.slots s).entropy)
        * (v i / temperature)) t := fun s => hasDerivAt_maskEntropy hx
  have hall := hfirst.fun_add (HasDerivAt.fun_sum (u := Finset.univ) fun s _ =>
    ((hasDerivAt_slotMass temperature h hx s).const_sub 1).fun_mul (hslots s))
  refine hall.congr_deriv ?_
  -- the masses of the forced slots, candidate by candidate
  have hforced : ∑ s, (∑ i ∈ support n a.representativeMask, if forcedBy a i s = true then
        softmax (support n a.representativeMask) temperature (x t) i
          * ((v i - ∑ j ∈ support n a.representativeMask,
            softmax (support n a.representativeMask) temperature (x t) j * v j) / temperature)
        else 0) * slotEntropy a temperature (x t) s
      = ∑ i ∈ Finset.range n, d.first.p i
        * (forcedEntropy d a i - ∑ s, forcedMass d a s * (d.slots s).entropy)
        * (v i / temperature) := by
    simp only [hd, forcedMass_eq h, forcedEntropy_eq]
    rw [sum_centred]
    simp only [mul_assoc]
    exact (sum_range_support _ _).symm
  have hdrawn : ∑ s, (1 - M s) * ∑ i ∈ Finset.range n, (d.slots s).p i
        * ((d.slots s).lp i + (d.slots s).entropy) * (v i / temperature)
      = ∑ i ∈ Finset.range n, (∑ s, if a.motorMasks s ≠ 0 then
          (1 - forcedMass d a s) * (d.slots s).p i * ((d.slots s).lp i + (d.slots s).entropy)
          else 0) * (v i / temperature) := by
    simp only [Finset.mul_sum, Finset.sum_mul]
    rw [Finset.sum_comm]
    refine Finset.sum_congr rfl fun i _ => Finset.sum_congr rfl fun s _ => ?_
    rw [hd, forcedMass_eq h, ← hd]
    split_ifs with hmask
    · ring
    · have hzero : (d.slots s).p i = 0 := by
        refine if_neg fun hi => ?_
        rw [not_not.1 hmask, support_zero] at hi
        exact Finset.notMem_empty i hi
      rw [hzero]
      ring
  calc -∑ i ∈ Finset.range n, d.first.p i * (d.first.lp i + d.first.entropy) * (v i / temperature)
        + ∑ s, (-(∑ i ∈ support n a.representativeMask, if forcedBy a i s = true then
            softmax (support n a.representativeMask) temperature (x t) i
              * ((v i - ∑ j ∈ support n a.representativeMask,
                softmax (support n a.representativeMask) temperature (x t) j * v j) / temperature)
            else 0) * slotEntropy a temperature (x t) s
          + (1 - M s) * -∑ i ∈ Finset.range n, (d.slots s).p i
            * ((d.slots s).lp i + (d.slots s).entropy) * (v i / temperature))
      = -∑ i ∈ Finset.range n, d.first.p i * (d.first.lp i + d.first.entropy) * (v i / temperature)
        - ∑ i ∈ Finset.range n, d.first.p i
          * (forcedEntropy d a i - ∑ s, forcedMass d a s * (d.slots s).entropy)
          * (v i / temperature)
        - ∑ i ∈ Finset.range n, (∑ s, if a.motorMasks s ≠ 0 then
            (1 - forcedMass d a s) * (d.slots s).p i * ((d.slots s).lp i + (d.slots s).entropy)
            else 0) * (v i / temperature) := by
        rw [← hforced, ← hdrawn]
        simp only [neg_mul, mul_neg, Finset.sum_add_distrib, Finset.sum_neg_distrib]
        ring
    _ = ∑ i ∈ Finset.range n, entropyGradient a d i * (v i / temperature) := by
        rw [← Finset.sum_neg_distrib, ← Finset.sum_sub_distrib, ← Finset.sum_sub_distrib]
        refine Finset.sum_congr rfl fun i _ => ?_
        rw [entropyGradient]
        ring

/-- **The gradients of the objective.**  Let the logits move along a differentiable curve.  The loss
less the weighted entropy, as the objective reports them, is differentiable wherever the ratio is
not at an edge of the clip, and its derivative is the sum of the reported gradients times the rates
of the logits. -/
theorem objective_hasDerivAt {config : PpoConfig ℝ} {advantage : ℝ} {logits : ℝ → List ℝ}
    {o : CpuPpoObjective ℝ} (ho : cpuPpoObjective (logits t) a advantage config = .ok o)
    (hlength : ∀ u, (logits u).length = (logits t).length)
    (hlogits : ∀ i < (logits t).length, HasDerivAt (fun u => (logits u).getD i 0) (v i) t)
    (hupper : o.ratio ≠ 1 + config.clipRatio) (hlower : o.ratio ≠ 1 - config.clipRatio) :
    ∃ loss : ℝ → ℝ,
      (∀ u, ∃ ou, cpuPpoObjective (logits u) a advantage config = .ok ou
        ∧ loss u = ou.policyLoss - config.entropyCoefficient * ou.entropy)
      ∧ HasDerivAt loss
        (∑ i ∈ Finset.range (logits t).length, o.logitGradients.getD i 0 * v i) t := by
  obtain ⟨hconfig, hvalid, hn, rfl⟩ := exactObjective_of_ok ho
  obtain ⟨h, -⟩ := validate_iff.1 hvalid
  obtain ⟨hclip, -, htemperature⟩ := bounds_of_validate hconfig
  rw [hn] at hlogits
  set T := config.temperature with hT
  set d := exactDistributions a T (logitAt (logits t)) with hd
  set x : ℝ → ℕ → ℝ := fun u => logitAt (logits u) with hx
  set flat := isClipped config.clipRatio advantage (Real.exp (logRatio a T (x t))) with hflat
  have hratio : HasDerivAt (fun u => Real.exp (logRatio a T (x u)))
      (Real.exp (logRatio a T (x t)) * ∑ i ∈ Finset.range a.candidateCount.toNat,
        logGradient a d i * (v i / T)) t :=
    ((hasDerivAt_actionLog hvalid hlogits).sub_const a.oldJointLogProbability).exp
  have hloss : HasDerivAt (clippedLoss config.clipRatio advantage)
      (if flat = true then 0 else -advantage) (Real.exp (logRatio a T (x t))) :=
    hasDerivAt_clippedLoss hclip hupper hlower
  have hclipped : HasDerivAt (fun u => clippedLoss config.clipRatio advantage
        (Real.exp (logRatio a T (x u))))
      ((if flat = true then 0 else -advantage) * (Real.exp (logRatio a T (x t))
        * ∑ i ∈ Finset.range a.candidateCount.toNat, logGradient a d i * (v i / T))) t := by
    have hcomp := hloss.comp_of_eq t hratio rfl
    exact hcomp
  have hentropy : HasDerivAt (fun u => config.entropyCoefficient * policyEntropy a T (x u))
      (config.entropyCoefficient * ∑ i ∈ Finset.range a.candidateCount.toNat,
        entropyGradient a d i * (v i / T)) t :=
    (hasDerivAt_policyEntropy h hlogits).const_mul config.entropyCoefficient
  refine ⟨fun u => clippedLoss config.clipRatio advantage (Real.exp (logRatio a T (x u)))
    - config.entropyCoefficient * policyEntropy a T (x u), fun u => ?_,
    (hclipped.fun_sub hentropy).congr_deriv ?_⟩
  · exact ⟨_, objective_eq hconfig hvalid ((hlength u).trans hn) advantage, rfl⟩
  · rw [hn, Finset.mul_sum, Finset.mul_sum, Finset.mul_sum, ← Finset.sum_sub_distrib]
    refine Finset.sum_congr rfl fun i hi => ?_
    have hget : (exactObjective a advantage config (logitAt (logits t))).logitGradients.getD i 0
        = ((if flat = true then 0 else -advantage * Real.exp (logRatio a T (x t)))
          * logGradient a d i - config.entropyCoefficient * entropyGradient a d i) / T := by
      unfold exactObjective
      dsimp only
      rw [List.getD_eq_getElem?_getD, List.getElem?_map,
        List.getElem?_range (Finset.mem_range.1 hi)]
      rfl
    rw [hget]
    split_ifs <;> ring

end Curve

/-- The first of two equal candidates gains weight. -/
theorem objective_hasDerivAt_fair :
    ∃ (o : CpuPpoObjective ℝ) (loss : ℝ → ℝ),
      cpuPpoObjective [0, 0] fairAction 1 fairConfig = .ok o
      ∧ (∀ u, ∃ ou, cpuPpoObjective [u, 0] fairAction 1 fairConfig = .ok ou
        ∧ loss u = ou.policyLoss - fairConfig.entropyCoefficient * ou.entropy)
      ∧ HasDerivAt loss (∑ i ∈ Finset.range 2,
        o.logitGradients.getD i 0 * if i = 0 then 1 else 0) 0 := by
  have hlength : ∀ u : ℝ, ([u, 0] : List ℝ).length = fairAction.candidateCount.toNat := fun _ => rfl
  have ho := objective_eq fairConfig_valid (fairAction_valid _) (hlength 0) 1
  have hlogs : actionLog fairAction 1 (logitAt [0, 0])
      ⟨fairAction.representative, fairAction.motorCandidates⟩ = -Real.log 2 := by
    have hslots : ∀ s : Fin ppoMotorSlots, laterLog fairAction 1 (logitAt [0, 0])
        fairAction.representative s (fairAction.motorCandidates s) = 0 := by
      intro s
      have hnone : forcedBy fairAction fairAction.representative.toNat s = true
          ∨ fairAction.motorMasks s = 0 := by
        revert s
        decide
      exact if_pos hnone
    have hsupport : support fairAction.candidateCount.toNat fairAction.representativeMask
        = {0, 1} := by decide
    have hlogits : ∀ i, logitAt [(0 : ℝ), 0] i = 0 := by
      rintro (_ | _ | i) <;> rfl
    rw [actionLog, jointLog, Finset.sum_eq_zero fun s _ => hslots s, add_zero, firstLog, hsupport,
      logSoftmax, partitionSum]
    simp only [hlogits]
    norm_num
  have hratio : (exactObjective fairAction 1 fairConfig (logitAt [0, 0])).ratio = 1 := by
    change Real.exp (actionLog fairAction 1 (logitAt [0, 0])
      ⟨fairAction.representative, fairAction.motorCandidates⟩ - -Real.log 2) = 1
    rw [hlogs, sub_self, Real.exp_zero]
  have hclip : fairConfig.clipRatio = 1 / 5 := by norm_num [fairConfig]
  have hrates : ∀ i < ([0, 0] : List ℝ).length, HasDerivAt (fun u : ℝ => [u, 0].getD i 0)
      (if i = 0 then 1 else 0) 0 := by
    rintro (_ | _ | i) hi
    · exact hasDerivAt_id 0
    · exact hasDerivAt_const 0 0
    · exact absurd hi (by simp)
  obtain ⟨loss, hloss, hderiv⟩ := objective_hasDerivAt ho (fun u => hlength u) hrates
    (by rw [hratio, hclip]; norm_num) (by rw [hratio, hclip]; norm_num)
  exact ⟨_, loss, ho, hloss, hderiv⟩

end Training

end ALife
