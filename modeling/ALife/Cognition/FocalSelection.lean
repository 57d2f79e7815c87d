/-
# Selecting the focal targets

`select_focal_targets` of `crates/alife_core/src/attention.rs`, over exact scores.  The
summaries are ranked by score and, at one score, by identity; the requested number of them is
attended.  The target attended first in the frame before, the incumbent, stands in front as long
as no other summary exceeds its score by more than the cost of a switch.
-/

import ALife.Cognition.Attention
import ALife.Machine.Checks
import ALife.Machine.Incumbent
import ALife.Machine.Integers
import Mathlib.Data.Prod.Lex

namespace ALife

open Machine

/-- Exact values: each is finite. -/
instance : FloatValue ℚ where
  isFinite _ := true
  inUnit x := decide (0 ≤ x ∧ x ≤ 1)
  inSignedUnit x := decide (-1 ≤ x ∧ x ≤ 1)
  isNegative x := decide (x < 0)

/-- `AttentionSelectionPolicy`. -/
structure AttentionSelectionPolicy where
  focalCapacity : UInt8
  protectedMinimum : UInt8
  requestedFocalCount : UInt8
  switchCost : ℚ
  hysteresisMargin : ℚ
  deriving DecidableEq, Repr

/-- `AttentionSelectionPolicy::validate_contract`. -/
def AttentionSelectionPolicy.validateContract (policy : AttentionSelectionPolicy) :
    Contract Unit := do
  reject (maxFocalTargets < policy.focalCapacity.toNat
    ∨ policy.focalCapacity < policy.protectedMinimum
    ∨ policy.focalCapacity < policy.requestedFocalCount) .invalidDecisionEvidence
  NormalizedScalar.new policy.switchCost
  NormalizedScalar.new policy.hysteresisMargin

/-- `HysteresisState::default`. -/
def HysteresisState.default : HysteresisState ℚ where
  previousIdentity := none
  retainedTicks := 0
  switchMargin := 0

/-- `AttentionBudgetReceipt::new`. -/
def AttentionBudgetReceipt.new (peripheralCapacity : UInt16)
    (focalCapacity protectedMinimum requestedFocalCount grantedFocalCount : UInt8)
    (workUnits : UInt64) : Contract AttentionBudgetReceipt := do
  let receipt : AttentionBudgetReceipt :=
    { schemaVersion := attentionSchemaVersion, peripheralCapacity, focalCapacity,
      protectedMinimum, requestedFocalCount, grantedFocalCount, workUnits }
  receipt.validateContract
  return receipt

/-- `AttentionFrame::new`. -/
def AttentionFrame.new (organismId : OrganismId) (sequenceId : ExperienceSequenceId)
    (worldTick : Tick) (peripheralSummaries : List (PeripheralSummary ℚ))
    (focalTargets : List StableFocusIdentity) (salienceComponents : List (SalienceComponents ℚ))
    (hysteresis : HysteresisState ℚ) (budgetReceipt : AttentionBudgetReceipt) :
    Contract (AttentionFrame ℚ) := do
  let frame : AttentionFrame ℚ :=
    { schemaVersion := attentionSchemaVersion, organismId, sequenceId, worldTick,
      peripheralSummaries, focalTargets, salienceComponents, hysteresis, budgetReceipt }
  frame.validateContract
  return frame

/-- `salience_score`. -/
def salienceScore (salience : SalienceComponents ℚ) : ℚ :=
  1 / 5 * salience.peripheralIntensity
    + 1 / 10 * salience.novelty
    + 1 / 10 * salience.uncertainty
    + 1 / 5 * salience.drive
    + 1 / 5 * salience.memoryExpectancy
    + 1 / 10 * salience.concept
    + 1 / 10 * salience.gapVoltage

namespace PeripheralSummary

/-- The score of a summary. -/
def score (s : PeripheralSummary ℚ) : ℚ := salienceScore s.salience

/-- What `sort_by` compares: the score, the higher first, and then the identity. -/
def rank (s : PeripheralSummary ℚ) : ℚᵒᵈ ×ₗ ℕ ×ₗ ℕ :=
  toLex (OrderDual.toDual s.score,
    toLex (s.identity.canonicalKey.1.toNat, s.identity.canonicalKey.2.toNat))

end PeripheralSummary

/-- The summaries with their indices, ranked. -/
def rankedSummaries (summaries : List (PeripheralSummary ℚ)) : List (PeripheralSummary ℚ × ℕ) :=
  sortByKey (fun entry => entry.1.rank) summaries.zipIdx

/-- The summary of the target that the frame before attended first, with its index. -/
def incumbentSummary (summaries : List (PeripheralSummary ℚ))
    (previousIdentity : Option StableFocusIdentity) : Option (PeripheralSummary ℚ × ℕ) :=
  previousIdentity.bind fun identity =>
    summaries.zipIdx.find? fun entry => entry.1.identity = identity

/-- `challenger_exceeds_switch_cost`: of the first one ranked other than the incumbent. -/
def challengerExceedsSwitchCost (summaries : List (PeripheralSummary ℚ))
    (previous : PeripheralSummary ℚ × ℕ) (switchCost : ℚ) : Bool :=
  ((rankedSummaries summaries).find? fun entry => entry.2 ≠ previous.2).any fun challenger =>
    previous.1.score + switchCost < challenger.1.score

/-- The selected summaries with their indices. -/
def selectedSummaries (summaries : List (PeripheralSummary ℚ))
    (previousIdentity : Option StableFocusIdentity) (requested : ℕ) (switchCost : ℚ) :
    List (PeripheralSummary ℚ × ℕ) :=
  let selected := (rankedSummaries summaries).take requested
  let selected := match incumbentSummary summaries previousIdentity with
    | some previous =>
      if challengerExceedsSwitchCost summaries previous switchCost = false ∧ 0 < requested then
        previous :: selected.filter fun entry => entry.2 ≠ previous.2
      else selected
    | none => selected
  selected.take requested

/-- `saturating_add(1)` on a counter of 16 bits. -/
def saturatingSucc16 (a : UInt16) : UInt16 := if a.toNat + 1 < 2 ^ 16 then a + 1 else a

theorem toNat_saturatingSucc16 (a : UInt16) :
    (saturatingSucc16 a).toNat = min 65535 (a.toNat + 1) := by
  have := a.toNat_lt
  unfold saturatingSucc16
  split_ifs with h
  · rw [UInt16.toNat_add, UInt16.toNat_one]
    omega
  · omega

/-- `u16::try_from` of a length. -/
def tryFrom16 (n : ℕ) : Option UInt16 := if n < 2 ^ 16 then some n.toUInt16 else none

/-- `u8::try_from` of a length. -/
def tryFrom8 (n : ℕ) : Option UInt8 := if n < 2 ^ 8 then some n.toUInt8 else none

/-- The work of a selection, saturating. -/
def focalWorkUnits (summaries ranked selected switches : ℕ) : UInt64 :=
  (min (summaries + 2 * ranked + 3 * selected + 7 * switches) (2 ^ 64 - 1)).toUInt64

/-- `select_focal_targets`. -/
def selectFocalTargets (organismId : OrganismId) (sequenceId : ExperienceSequenceId)
    (worldTick : Tick) (peripheralSummaries : List (PeripheralSummary ℚ))
    (previousHysteresis : HysteresisState ℚ) (policy : AttentionSelectionPolicy) :
    Contract (AttentionFrame ℚ) := do
  policy.validateContract
  reject (maxPeripheralSummaries < peripheralSummaries.length
    ∨ policy.requestedFocalCount.toNat < policy.protectedMinimum.toNat) .invalidDecisionEvidence
  peripheralSummaries.forM PeripheralSummary.validateContract
  let selected := selectedSummaries peripheralSummaries previousHysteresis.previousIdentity
    policy.requestedFocalCount.toNat policy.switchCost
  reject (selected.length < policy.protectedMinimum.toNat) .invalidDecisionEvidence
  let firstIdentity := selected.head?.map fun entry => entry.1.identity
  let switches := if previousHysteresis.previousIdentity.any (some · ≠ firstIdentity) then 1 else 0
  let capacity ← getOr (tryFrom16 peripheralSummaries.length) .invalidDecisionEvidence
  let granted ← getOr (tryFrom8 selected.length) .invalidDecisionEvidence
  let budgetReceipt ← AttentionBudgetReceipt.new capacity policy.focalCapacity
    policy.protectedMinimum policy.requestedFocalCount granted
    (focalWorkUnits peripheralSummaries.length (rankedSummaries peripheralSummaries).length
      selected.length switches)
  let retainedTicks :=
    if previousHysteresis.previousIdentity = firstIdentity then
      saturatingSucc16 previousHysteresis.retainedTicks
    else if firstIdentity.isSome then 1 else 0
  AttentionFrame.new organismId sequenceId worldTick peripheralSummaries
    (selected.map fun entry => entry.1.identity) (selected.map fun entry => entry.1.salience)
    { previousIdentity := firstIdentity, retainedTicks, switchMargin := policy.hysteresisMargin }
    budgetReceipt

/-! ### The ranking -/

/-- One summary goes before another: it scores more, or as much with the smaller identity. -/
def PeripheralSummary.Outranks (a b : PeripheralSummary ℚ) : Prop :=
  b.score < a.score ∨ a.score = b.score ∧
    (a.identity.canonicalKey.1 < b.identity.canonicalKey.1 ∨
      a.identity.canonicalKey.1 = b.identity.canonicalKey.1 ∧
        a.identity.canonicalKey.2 < b.identity.canonicalKey.2)

theorem PeripheralSummary.rank_lt_rank_iff {a b : PeripheralSummary ℚ} :
    a.rank < b.rank ↔ a.Outranks b := by
  simp only [rank, Outranks, Prod.Lex.toLex_lt_toLex, OrderDual.toDual_lt_toDual,
    OrderDual.toDual_inj, UInt8.lt_iff_toNat_lt, UInt64.lt_iff_toNat_lt, ← UInt8.toNat_inj]

theorem PeripheralSummary.identity_eq_of_rank_eq {a b : PeripheralSummary ℚ}
    (h : a.rank = b.rank) : a.identity = b.identity := by
  obtain ⟨-, h⟩ := Prod.ext_iff.1 (toLex_inj.1 h)
  obtain ⟨hkind, hraw⟩ := Prod.ext_iff.1 (toLex_inj.1 h)
  exact StableFocusIdentity.canonicalKey_injective
    (Prod.ext (UInt8.toNat_inj.1 hkind) (UInt64.toNat_inj.1 hraw))

/-- The ranked summaries. -/
def ranking (summaries : List (PeripheralSummary ℚ)) : List (PeripheralSummary ℚ) :=
  (rankedSummaries summaries).map Prod.fst

section Ranking

variable {summaries : List (PeripheralSummary ℚ)}

variable (summaries) in
theorem ranking_perm : (ranking summaries).Perm summaries := by
  have := (sortByKey_perm (fun entry : PeripheralSummary ℚ × ℕ => entry.1.rank)
    summaries.zipIdx).map Prod.fst
  rwa [List.zipIdx_map_fst] at this

variable (hids : (summaries.map PeripheralSummary.identity).Nodup)
include hids

theorem nodup_rank : (summaries.map PeripheralSummary.rank).Nodup := by
  refine List.Nodup.map_on (fun a ha b hb h => ?_) (List.Nodup.of_map _ hids)
  exact List.inj_on_of_nodup_map hids ha hb (PeripheralSummary.identity_eq_of_rank_eq h)

/-- The ranking does not depend on the order in which the summaries are listed. -/
theorem ranking_eq_of_perm {summaries' : List (PeripheralSummary ℚ)}
    (h : summaries.Perm summaries') : ranking summaries = ranking summaries' := by
  have key : ∀ l : List (PeripheralSummary ℚ), (l.map PeripheralSummary.rank).Nodup →
      ∀ l', l'.Perm l → sortByKey PeripheralSummary.rank l' = ranking l := by
    intro l hl l' hperm
    refine sortByKey_eq_map (fun _ _ => rfl) ?_ (by rwa [List.zipIdx_map_fst])
    have hkeys := List.map_map (f := Prod.fst) (g := PeripheralSummary.rank) (l := l.zipIdx)
    rw [List.zipIdx_map_fst] at hkeys
    exact hkeys ▸ hl
  have hrank := nodup_rank hids
  rw [← key summaries hrank summaries (List.Perm.refl _),
    ← key summaries' ((h.map _).nodup_iff.1 hrank) summaries h]

theorem pairwise_ranking : (ranking summaries).Pairwise PeripheralSummary.Outranks := by
  have hle : (ranking summaries).Pairwise fun a b => a.rank ≤ b.rank :=
    List.pairwise_map.2 (pairwise_sortByKey _ _)
  have hne : (ranking summaries).Pairwise fun a b => a.rank ≠ b.rank :=
    List.pairwise_map.1 (((ranking_perm summaries).map _).nodup_iff.2 (nodup_rank hids))
  refine (hle.and hne).imp fun h => ?_
  exact PeripheralSummary.rank_lt_rank_iff.1 (lt_of_le_of_ne h.1 h.2)

theorem nodup_ranking : (ranking summaries).Nodup :=
  (ranking_perm summaries).nodup_iff.2 (List.Nodup.of_map _ hids)

end Ranking

/-! ### The incumbent -/

/-- The incumbent `p` stays: no other summary exceeds its score by more than the switch cost. -/
structure Retains (summaries : List (PeripheralSummary ℚ))
    (previousIdentity : Option StableFocusIdentity) (switchCost : ℚ)
    (p : PeripheralSummary ℚ) : Prop where
  present : p ∈ summaries
  incumbent : previousIdentity = some p.identity
  unchallenged : ∀ q ∈ summaries, q ≠ p → q.score ≤ p.score + switchCost

section Incumbent

variable {summaries : List (PeripheralSummary ℚ)} {previousIdentity : Option StableFocusIdentity}
  {requested : ℕ} {switchCost : ℚ}

theorem mem_rankedSummaries {entry : PeripheralSummary ℚ × ℕ} :
    entry ∈ rankedSummaries summaries ↔ summaries[entry.2]? = some entry.1 :=
  mem_sortByKey.trans List.mem_zipIdx_iff_getElem?

theorem mem_incumbentSummary {entry : PeripheralSummary ℚ × ℕ}
    (h : incumbentSummary summaries previousIdentity = some entry) :
    entry ∈ rankedSummaries summaries ∧ previousIdentity = some entry.1.identity := by
  unfold incumbentSummary at h
  obtain ⟨identity, hidentity, hfind⟩ := Option.bind_eq_some_iff.1 h
  have hfound : entry.1.identity = identity := by simpa using List.find?_some hfind
  exact ⟨mem_sortByKey.2 (List.mem_of_find?_eq_some hfind), hidentity.trans (by rw [hfound])⟩

theorem incumbentSummary_eq_none (h : incumbentSummary summaries previousIdentity = none)
    {p : PeripheralSummary ℚ} (hp : p ∈ summaries) : previousIdentity ≠ some p.identity := by
  rintro rfl
  obtain ⟨i, hi⟩ := List.mem_iff_getElem?.1 hp
  exact List.find?_eq_none.1 h (p, i) (List.mem_zipIdx_iff_getElem?.2 hi) (decide_eq_true rfl)

/-- The ranked summaries are told apart by their indices. -/
theorem snd_eq_iff_of_mem {a b : PeripheralSummary ℚ × ℕ} (ha : a ∈ rankedSummaries summaries)
    (hb : b ∈ rankedSummaries summaries) : a.2 = b.2 ↔ a = b := by
  refine ⟨fun h => Prod.ext ?_ h, congrArg Prod.snd⟩
  have ha := mem_rankedSummaries.1 ha
  have hb := mem_rankedSummaries.1 hb
  exact Option.some.inj (ha.symm.trans ((congrArg (summaries[·]?) h).trans hb))

variable (hids : (summaries.map PeripheralSummary.identity).Nodup)
include hids

theorem fst_eq_iff_of_mem {a b : PeripheralSummary ℚ × ℕ} (ha : a ∈ rankedSummaries summaries)
    (hb : b ∈ rankedSummaries summaries) : a.1 = b.1 ↔ a = b := by
  refine ⟨fun h => Prod.ext h ?_, congrArg Prod.fst⟩
  have hnodup : summaries.Nodup := List.Nodup.of_map _ hids
  obtain ⟨hi, ha⟩ := List.getElem?_eq_some_iff.1 (mem_rankedSummaries.1 ha)
  obtain ⟨hj, hb⟩ := List.getElem?_eq_some_iff.1 (mem_rankedSummaries.1 hb)
  exact hnodup.getElem_inj_iff.1 (ha.trans (h.trans hb.symm))

theorem challengerExceedsSwitchCost_iff {entry : PeripheralSummary ℚ × ℕ}
    (hentry : entry ∈ rankedSummaries summaries) :
    challengerExceedsSwitchCost summaries entry switchCost = true ↔
      ∃ q ∈ summaries, q ≠ entry.1 ∧ entry.1.score + switchCost < q.score := by
  have hfind : (rankedSummaries summaries).find? (fun e => e.2 ≠ entry.2)
      = (rankedSummaries summaries).find? (· ≠ entry) :=
    List.find?_congr fun e he => by simp [snd_eq_iff_of_mem he hentry]
  have hscores : (rankedSummaries summaries).Pairwise fun a b => b.1.score ≤ a.1.score := by
    refine (List.pairwise_map.1 (pairwise_ranking hids)).imp ?_
    rintro a b (h | h)
    · exact h.le
    · exact h.1.ge
  unfold challengerExceedsSwitchCost
  rw [hfind, Option.any_eq_true]
  simp only [decide_eq_true_eq]
  refine (exists_score_find?_iff hscores (entry.1.score + switchCost)).trans ?_
  constructor
  · rintro ⟨e, he, hne, hlt⟩
    exact ⟨e.1, List.mem_of_getElem? (mem_rankedSummaries.1 he),
      fun h => hne ((fst_eq_iff_of_mem hids he hentry).1 h), hlt⟩
  · rintro ⟨q, hq, hne, hlt⟩
    obtain ⟨i, hi⟩ := List.mem_iff_getElem?.1 hq
    exact ⟨(q, i), mem_rankedSummaries.2 hi, fun h => hne (congrArg Prod.fst h), hlt⟩

end Incumbent

/-! ### The selection -/

/-- What a call selects: the first of the ranking, and the incumbent in front where it stays. -/
structure FocalChoice (summaries : List (PeripheralSummary ℚ))
    (previousIdentity : Option StableFocusIdentity) (requested : ℕ) (switchCost : ℚ)
    (selected : List (PeripheralSummary ℚ)) : Prop where
  fresh : (∀ p, ¬Retains summaries previousIdentity switchCost p) →
    selected = (ranking summaries).take requested
  kept : ∀ p, Retains summaries previousIdentity switchCost p → 0 < requested →
    selected = keepFirst requested p (ranking summaries)
  unrequested : requested = 0 → selected = []

section Choice

variable {summaries : List (PeripheralSummary ℚ)} {previousIdentity : Option StableFocusIdentity}
  {requested : ℕ} {switchCost : ℚ} (hids : (summaries.map PeripheralSummary.identity).Nodup)
include hids

variable (previousIdentity requested switchCost) in
theorem focalChoice_selectedSummaries :
    FocalChoice summaries previousIdentity requested switchCost
      ((selectedSummaries summaries previousIdentity requested switchCost).map Prod.fst) := by
  have htake : (((rankedSummaries summaries).take requested).take requested).map Prod.fst
      = (ranking summaries).take requested := by
    rw [List.take_take, min_self, List.map_take]
    rfl
  refine ⟨fun hnone => ?_, fun p hp hpos => ?_, fun hzero => ?_⟩
  · unfold selectedSummaries
    split
    · rename_i entry hentry
      obtain ⟨hmem, hprevious⟩ := mem_incumbentSummary hentry
      split_ifs with hkeep
      · refine absurd ⟨List.mem_of_getElem? (mem_rankedSummaries.1 hmem), hprevious, ?_⟩
          (hnone entry.1)
        intro q hq hne
        by_contra hlt
        exact absurd ((challengerExceedsSwitchCost_iff hids hmem).2 ⟨q, hq, hne, not_le.1 hlt⟩)
          (by rw [hkeep.1]; exact Bool.false_ne_true)
      · exact htake
    · exact htake
  · unfold selectedSummaries
    split
    · rename_i entry hentry
      obtain ⟨hmem, hprevious⟩ := mem_incumbentSummary hentry
      have hp' : entry.1 = p := by
        refine List.inj_on_of_nodup_map hids (List.mem_of_getElem? (mem_rankedSummaries.1 hmem))
          hp.present ?_
        exact Option.some.inj (hprevious.symm.trans hp.incumbent)
      have hstays : challengerExceedsSwitchCost summaries entry switchCost = false := by
        rw [Bool.eq_false_iff, ne_eq, challengerExceedsSwitchCost_iff hids hmem]
        rintro ⟨q, hq, hne, hlt⟩
        rw [hp'] at hne hlt
        exact absurd (hp.unchallenged q hq hne) (not_le.2 hlt)
      have hothers : ((rankedSummaries summaries).take requested).filter (fun e => e.2 ≠ entry.2)
          = ((rankedSummaries summaries).take requested).filter (fun e => e.1 ≠ entry.1) := by
        refine List.filter_congr fun e he => ?_
        have he := List.mem_of_mem_take he
        rw [decide_eq_decide, ne_eq, ne_eq, snd_eq_iff_of_mem he hmem,
          fst_eq_iff_of_mem hids he hmem]
      simp only [hstays, hpos, and_self, if_true, hothers]
      unfold keepFirst ranking
      rw [List.map_take, List.map_cons, hp', ← List.map_take, List.filter_map]
      rfl
    · rename_i hentry
      exact absurd hp.incumbent (incumbentSummary_eq_none hentry hp.present)
  · subst hzero
    rfl

end Choice

section Selected

variable {summaries selected : List (PeripheralSummary ℚ)}
  {previousIdentity : Option StableFocusIdentity} {requested : ℕ} {switchCost : ℚ}
  (hids : (summaries.map PeripheralSummary.identity).Nodup)
  (h : FocalChoice summaries previousIdentity requested switchCost selected)
include hids h

/-- What is selected comes from the summaries, each once, as many as requested. -/
theorem FocalChoice.subset_nodup_length :
    selected ⊆ summaries ∧ selected.Nodup ∧ selected.length = min requested summaries.length := by
  have hlength := (ranking_perm summaries).length_eq
  have hmem : ∀ p, p ∈ ranking summaries ↔ p ∈ summaries := fun p => (ranking_perm summaries).mem_iff
  obtain rfl | hpos := Nat.eq_zero_or_pos requested
  · rw [h.unrequested rfl]
    simp
  · by_cases hkept : ∃ p, Retains summaries previousIdentity switchCost p
    · obtain ⟨p, hp⟩ := hkept
      rw [h.kept p hp hpos, ← hlength]
      exact ⟨fun q hq => (hmem q).1 (keepFirst_subset ((hmem p).2 hp.present) hq),
        nodup_keepFirst (nodup_ranking hids),
        length_keepFirst (nodup_ranking hids) ((hmem p).2 hp.present)⟩
    · rw [h.fresh (not_exists.1 hkept), ← hlength]
      exact ⟨fun q hq => (hmem q).1 (List.mem_of_mem_take hq),
        (nodup_ranking hids).sublist (List.take_sublist _ _), List.length_take⟩

/-- An incumbent among the first of the ranking moves to the front; one behind them takes the
place of the lowest ranked. -/
theorem FocalChoice.front {p : PeripheralSummary ℚ}
    (hp : Retains summaries previousIdentity switchCost p) (hpos : 0 < requested) :
    (p ∈ (ranking summaries).take requested →
      selected = p :: ((ranking summaries).take requested).erase p) ∧
    (p ∉ (ranking summaries).take requested →
      selected = p :: (ranking summaries).take (requested - 1)) := by
  rw [h.kept p hp hpos]
  exact ⟨keepFirst_of_mem (nodup_ranking hids), keepFirst_of_notMem hpos⟩

omit hids in
/-- An incumbent that is present gives way only to a score beyond the cost of a switch. -/
theorem FocalChoice.exists_challenger {p : PeripheralSummary ℚ} (hp : p ∈ summaries)
    (hprevious : previousIdentity = some p.identity) (hpos : 0 < requested)
    (hfirst : selected.head? ≠ some p) :
    ∃ q ∈ summaries, q ≠ p ∧ p.score + switchCost < q.score := by
  by_contra hnone
  refine hfirst ?_
  rw [h.kept p ⟨hp, hprevious, fun q hq hne => ?_⟩ hpos, head?_keepFirst hpos]
  exact not_lt.1 fun hlt => hnone ⟨q, hq, hne, hlt⟩

end Selected

end ALife
