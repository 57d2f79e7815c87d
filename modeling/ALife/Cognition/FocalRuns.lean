/-
# Runs of the focal selection

Each call of `select_focal_targets` takes the hysteresis of the frame before it.  A call with
valid summaries and a policy that requests what it protects always returns a frame
(`exists_frame`), and the hysteresis of a frame counts the frames since its first target came to
the front (`attend_spec`).

A frame without a target counts as well: its counter goes on from the frame before, where that
frame had none either.
-/

import ALife.Cognition.FocalSelection

namespace ALife

open Machine

/-- What a call of `select_focal_targets` is given beside the hysteresis. -/
structure FocalRequest where
  organismId : OrganismId
  sequenceId : ExperienceSequenceId
  worldTick : Tick
  peripheralSummaries : List (PeripheralSummary ℚ)
  policy : AttentionSelectionPolicy

namespace FocalRequest

/-- The call. -/
def select (r : FocalRequest) (previousHysteresis : HysteresisState ℚ) :
    Contract (AttentionFrame ℚ) :=
  selectFocalTargets r.organismId r.sequenceId r.worldTick r.peripheralSummaries
    previousHysteresis r.policy

/-- Valid identifiers, a valid policy and at most 64 valid summaries of distinct identities, no
fewer than the protected minimum. -/
structure Valid (r : FocalRequest) : Prop where
  organism : r.organismId.validate = .ok ()
  sequence : r.sequenceId.validate = .ok ()
  policy : r.policy.validateContract = .ok ()
  bounded : r.peripheralSummaries.length ≤ maxPeripheralSummaries
  summaries : ∀ s ∈ r.peripheralSummaries, s.validateContract = .ok ()
  distinct : (r.peripheralSummaries.map PeripheralSummary.identity).Nodup
  enough : r.policy.protectedMinimum.toNat ≤ r.peripheralSummaries.length

/-- The policy requests at least what it protects. -/
def RequestsProtected (r : FocalRequest) : Prop :=
  r.policy.protectedMinimum.toNat ≤ r.policy.requestedFocalCount.toNat

end FocalRequest

/-- The hysteresis that the next call is given. -/
def latestHysteresis (frames : List (AttentionFrame ℚ)) : HysteresisState ℚ :=
  (frames.head?.map AttentionFrame.hysteresis).getD .default

/-- Calls one after another, the latest in front, and their frames in the same order. -/
def attend : List FocalRequest → Contract (List (AttentionFrame ℚ))
  | [] => .ok []
  | r :: earlier => do
    let frames ← attend earlier
    let frame ← r.select (latestHysteresis frames)
    .ok (frame :: frames)

/-! ### One call -/

theorem toNat_toUInt16 {n : ℕ} (h : n < 2 ^ 16) : n.toUInt16.toNat = n :=
  UInt16.toNat_ofNat_of_lt' h

theorem toNat_toUInt8 {n : ℕ} (h : n < 2 ^ 8) : n.toUInt8.toNat = n :=
  UInt8.toNat_ofNat_of_lt' h

section Call

variable {r : FocalRequest} {previous : HysteresisState ℚ}

theorem FocalRequest.Valid.policy_bounds (hr : r.Valid) :
    r.policy.focalCapacity.toNat ≤ 8 ∧
      r.policy.protectedMinimum.toNat ≤ r.policy.focalCapacity.toNat ∧
      r.policy.requestedFocalCount.toNat ≤ r.policy.focalCapacity.toNat ∧
      NormalizedScalar.new r.policy.hysteresisMargin = .ok () := by
  obtain ⟨hcapacities, hmargins⟩ := contract_seq_eq_ok_iff.1 hr.policy
  rw [reject_eq_ok_iff, not_or, not_or, not_lt, UInt8.not_lt, UInt8.not_lt] at hcapacities
  obtain ⟨hfocal, hprotected, hrequested⟩ := hcapacities
  exact ⟨hfocal, UInt8.le_iff_toNat_le.1 hprotected, UInt8.le_iff_toNat_le.1 hrequested,
    (contract_seq_eq_ok_iff.1 hmargins).2⟩

/-- The receipt of a call with `granted` targets, after `switches` switches. -/
def FocalRequest.budgetReceipt (r : FocalRequest) (granted switches : ℕ) :
    AttentionBudgetReceipt where
  schemaVersion := attentionSchemaVersion
  peripheralCapacity := r.peripheralSummaries.length.toUInt16
  focalCapacity := r.policy.focalCapacity
  protectedMinimum := r.policy.protectedMinimum
  requestedFocalCount := r.policy.requestedFocalCount
  grantedFocalCount := granted.toUInt8
  workUnits := focalWorkUnits r.peripheralSummaries.length r.peripheralSummaries.length granted
    switches

/-- The frame that a call builds around the targets it selects. -/
def FocalRequest.frame (r : FocalRequest) (previous : HysteresisState ℚ)
    (selected : List (PeripheralSummary ℚ)) : AttentionFrame ℚ :=
  let focalTargets := selected.map PeripheralSummary.identity
  { schemaVersion := attentionSchemaVersion
    organismId := r.organismId
    sequenceId := r.sequenceId
    worldTick := r.worldTick
    peripheralSummaries := r.peripheralSummaries
    focalTargets
    salienceComponents := selected.map PeripheralSummary.salience
    hysteresis :=
      { previousIdentity := focalTargets.head?
        retainedTicks :=
          if previous.previousIdentity = focalTargets.head? then
            saturatingSucc16 previous.retainedTicks
          else if focalTargets.head?.isSome then 1 else 0
        switchMargin := r.policy.hysteresisMargin }
    budgetReceipt := r.budgetReceipt selected.length
      (if previous.previousIdentity.any (some · ≠ focalTargets.head?) then 1 else 0) }

theorem budgetReceipt_accepted (granted switches : ℕ) (hr : r.Valid)
    (hgranted : granted ≤ r.policy.requestedFocalCount.toNat)
    (hprotected : r.policy.protectedMinimum.toNat ≤ granted) :
    (r.budgetReceipt granted switches).validateContract = .ok () := by
  obtain ⟨hfocal, hminimum, hrequested, -⟩ := hr.policy_bounds
  have hbounded : r.peripheralSummaries.length ≤ 64 := hr.bounded
  have hcapacity := toNat_toUInt16 (show r.peripheralSummaries.length < 2 ^ 16 by omega)
  have htargets := toNat_toUInt8 (show granted < 2 ^ 8 by omega)
  refine reject_eq_ok_iff.2 ?_
  simp only [FocalRequest.budgetReceipt, ne_eq, not_true_eq_false, false_or, not_or,
    maxFocalTargets, maxPeripheralSummaries, UInt8.lt_iff_toNat_lt]
  omega

/-- **The frame of a selection from valid summaries is accepted.** -/
theorem frame_accepted (previous : HysteresisState ℚ) (hr : r.Valid)
    {selected : List (PeripheralSummary ℚ)}
    (hsubset : selected ⊆ r.peripheralSummaries) (hnodup : selected.Nodup)
    (hgranted : selected.length ≤ r.policy.requestedFocalCount.toNat)
    (hprotected : r.policy.protectedMinimum.toNat ≤ selected.length) :
    (r.frame previous selected).validateContract = .ok () := by
  obtain ⟨hfocal, -, hrequested, hmargin⟩ := hr.policy_bounds
  have hbounded : r.peripheralSummaries.length ≤ 64 := hr.bounded
  have hcapacity := toNat_toUInt16 (show r.peripheralSummaries.length < 2 ^ 16 by omega)
  have htargets := toNat_toUInt8 (show selected.length < 2 ^ 8 by omega)
  have hparts : ∀ s ∈ selected, s.identity.validateContract = .ok () ∧
      s.salience.validateContract = .ok () := by
    intro s hs
    obtain ⟨hidentity, hrest⟩ := contract_seq_eq_ok_iff.1 (hr.summaries s (hsubset hs))
    exact ⟨hidentity, (contract_seq_eq_ok_iff.1 hrest).1⟩
  have hidentities : (selected.map PeripheralSummary.identity).Nodup :=
    List.Nodup.map_on (fun a ha b hb h =>
      List.inj_on_of_nodup_map hr.distinct (hsubset ha) (hsubset hb) h) hnodup
  unfold AttentionFrame.validateContract
  simp only [contract_seq_eq_ok_iff, reject_eq_ok_iff, contract_forM_eq_ok_iff]
  refine ⟨not_not.2 rfl, hr.organism, hr.sequence, ?_, hr.summaries, ?_, not_not.2 hidentities, ?_,
    ?_, budgetReceipt_accepted _ _ hr hgranted hprotected, ?_⟩
  · simp only [FocalRequest.frame, FocalRequest.budgetReceipt, List.length_map, maxFocalTargets,
      maxPeripheralSummaries, maxAttentionSalienceComponents]
    omega
  · rintro identity hidentity
    obtain ⟨s, hs, rfl⟩ := List.mem_map.1 hidentity
    exact (hparts s hs).1
  · rintro salience hsalience
    obtain ⟨s, hs, rfl⟩ := List.mem_map.1 hsalience
    exact (hparts s hs).2
  · cases selected with
    | nil => exact contract_check_eq_ok_iff.2 ⟨rfl, hmargin⟩
    | cons s rest =>
      exact contract_check_eq_ok_iff.2 ⟨(hparts s List.mem_cons_self).1, hmargin⟩
  · simp only [FocalRequest.frame, FocalRequest.budgetReceipt, List.length_map]
    omega

/-- **A call returns the frame of its selection** when its policy requests what it protects. -/
theorem select_eq (previous : HysteresisState ℚ) (hr : r.Valid)
    (hprotects : r.RequestsProtected) :
    ∃ selected, FocalChoice r.peripheralSummaries previous.previousIdentity
        r.policy.requestedFocalCount.toNat r.policy.switchCost selected ∧
      r.select previous = .ok (r.frame previous selected) ∧
      (r.frame previous selected).validateContract = .ok () := by
  have hchoice := focalChoice_selectedSummaries previous.previousIdentity
    r.policy.requestedFocalCount.toNat r.policy.switchCost hr.distinct
  set entries := selectedSummaries r.peripheralSummaries previous.previousIdentity
    r.policy.requestedFocalCount.toNat r.policy.switchCost with hentries
  obtain ⟨hsubset, hnodup, hlength⟩ := hchoice.subset_nodup_length hr.distinct
  obtain ⟨hfocal, -, hrequested, -⟩ := hr.policy_bounds
  have hbounded : r.peripheralSummaries.length ≤ 64 := hr.bounded
  have hprotects' : r.policy.protectedMinimum.toNat ≤ r.policy.requestedFocalCount.toNat :=
    hprotects
  have henough := hr.enough
  have hcount : (entries.map Prod.fst).length = entries.length := List.length_map _
  have hranked : (rankedSummaries r.peripheralSummaries).length = r.peripheralSummaries.length :=
    (sortByKey_perm _ _).length_eq.trans List.length_zipIdx
  have hfirst : entries.head?.map (fun entry => entry.1.identity)
      = ((entries.map Prod.fst).map PeripheralSummary.identity).head? := by
    rw [List.map_map, List.head?_map]
    rfl
  have hidentities : entries.map (fun entry => entry.1.identity)
      = (entries.map Prod.fst).map PeripheralSummary.identity := List.map_map.symm
  have hsaliences : entries.map (fun entry => entry.1.salience)
      = (entries.map Prod.fst).map PeripheralSummary.salience := List.map_map.symm
  have hgranted : (entries.map Prod.fst).length ≤ r.policy.requestedFocalCount.toNat := by omega
  have hminimum : r.policy.protectedMinimum.toNat ≤ (entries.map Prod.fst).length := by omega
  have haccepted := frame_accepted previous hr hsubset hnodup hgranted hminimum
  refine ⟨entries.map Prod.fst, hchoice, ?_, haccepted⟩
  unfold FocalRequest.select selectFocalTargets
  refine contract_check_eq_ok_iff.2 ⟨hr.policy, ?_⟩
  refine contract_check_eq_ok_iff.2 ⟨reject_eq_ok_iff.2 ?_, ?_⟩
  · rw [not_or, not_lt, not_lt]
    exact ⟨hr.bounded, hprotects⟩
  refine contract_check_eq_ok_iff.2 ⟨contract_forM_eq_ok_iff.2 hr.summaries, ?_⟩
  refine contract_check_eq_ok_iff.2 ⟨reject_eq_ok_iff.2 (by rw [← hentries]; omega), ?_⟩
  rw [← hentries, hfirst, hidentities, hsaliences, hranked, ← hcount]
  refine contract_bind_eq_ok_iff.2 ⟨_, getOr_eq_ok_iff.2 (if_pos (by omega)), ?_⟩
  refine contract_bind_eq_ok_iff.2 ⟨_, getOr_eq_ok_iff.2 (if_pos (by omega)), ?_⟩
  refine contract_bind_eq_ok_iff.2 ⟨_, contract_check_eq_ok_iff.2
    ⟨budgetReceipt_accepted _ _ hr hgranted hminimum, rfl⟩, ?_⟩
  exact contract_check_eq_ok_iff.2 ⟨haccepted, rfl⟩

end Call

/-! ### Runs -/

/-- The number of latest frames that attend `identity` first. -/
def streak (identity : StableFocusIdentity) (frames : List (AttentionFrame ℚ)) : ℕ :=
  (frames.takeWhile fun frame => frame.focalTargets.head? = some identity).length

/-- What a frame attends, in the terms of its summaries and of the target that the frame before
attended first. -/
structure Attended (r : FocalRequest) (incumbent : Option StableFocusIdentity)
    (frame : AttentionFrame ℚ) : Prop where
  accepted : frame.validateContract = .ok ()
  header : frame.organismId = r.organismId ∧ frame.sequenceId = r.sequenceId ∧
    frame.worldTick = r.worldTick ∧ frame.peripheralSummaries = r.peripheralSummaries
  targets : ∃ ranked selected : List (PeripheralSummary ℚ),
    ranked.Perm r.peripheralSummaries ∧ ranked.Pairwise PeripheralSummary.Outranks ∧
    frame.focalTargets = selected.map PeripheralSummary.identity ∧
    frame.salienceComponents = selected.map PeripheralSummary.salience ∧
    selected.length = min r.policy.requestedFocalCount.toNat r.peripheralSummaries.length ∧
    ((∀ p, ¬Retains r.peripheralSummaries incumbent r.policy.switchCost p) →
      selected = ranked.take r.policy.requestedFocalCount.toNat) ∧
    ∀ p, Retains r.peripheralSummaries incumbent r.policy.switchCost p →
      0 < r.policy.requestedFocalCount.toNat →
      (p ∈ ranked.take r.policy.requestedFocalCount.toNat →
        selected = p :: (ranked.take r.policy.requestedFocalCount.toNat).erase p) ∧
      (p ∉ ranked.take r.policy.requestedFocalCount.toNat →
        selected = p :: ranked.take (r.policy.requestedFocalCount.toNat - 1))
  replaced : ∀ p ∈ r.peripheralSummaries, incumbent = some p.identity →
    0 < r.policy.requestedFocalCount.toNat → frame.focalTargets.head? ≠ some p.identity →
    ∃ q ∈ r.peripheralSummaries, q ≠ p ∧ p.score + r.policy.switchCost < q.score

theorem attended_frame {r : FocalRequest} (hr : r.Valid) {previous : HysteresisState ℚ}
    {selected : List (PeripheralSummary ℚ)}
    (hchoice : FocalChoice r.peripheralSummaries previous.previousIdentity
      r.policy.requestedFocalCount.toNat r.policy.switchCost selected)
    (haccepted : (r.frame previous selected).validateContract = .ok ()) :
    Attended r previous.previousIdentity (r.frame previous selected) where
  accepted := haccepted
  header := ⟨rfl, rfl, rfl, rfl⟩
  targets := ⟨ranking r.peripheralSummaries, selected, ranking_perm _, pairwise_ranking hr.distinct,
    rfl, rfl, (hchoice.subset_nodup_length hr.distinct).2.2, hchoice.fresh,
    fun _ hp hpos => hchoice.front hr.distinct hp hpos⟩
  replaced := by
    intro p hp hprevious hpos hfirst
    refine hchoice.exists_challenger hp hprevious hpos fun hhead => hfirst ?_
    change (selected.map PeripheralSummary.identity).head? = some p.identity
    rw [List.head?_map, hhead]
    rfl

/-- The hysteresis of the latest frame names its first target and counts its frames. -/
def Counted (frames : List (AttentionFrame ℚ)) : Prop :=
  ∀ frame ∈ frames.head?, frame.hysteresis.previousIdentity = frame.focalTargets.head? ∧
    ∀ identity, frame.focalTargets.head? = some identity →
      frame.hysteresis.retainedTicks.toNat = min 65535 (streak identity frames)

theorem Counted.previousIdentity {frames : List (AttentionFrame ℚ)} (h : Counted frames) :
    (latestHysteresis frames).previousIdentity
      = frames.head?.bind fun frame => frame.focalTargets.head? := by
  cases frames with
  | nil => rfl
  | cons frame rest => exact (h frame rfl).1

/-- One more frame is counted. -/
theorem Counted.cons {frames : List (AttentionFrame ℚ)} (h : Counted frames) (r : FocalRequest)
    (selected : List (PeripheralSummary ℚ)) :
    Counted (r.frame (latestHysteresis frames) selected :: frames) := by
  rintro frame ⟨⟩
  refine ⟨rfl, fun identity hfirst => ?_⟩
  have hstreak : streak identity (r.frame (latestHysteresis frames) selected :: frames)
      = streak identity frames + 1 := by
    unfold streak
    rw [List.takeWhile_cons_of_pos (by simpa using hfirst), List.length_cons]
  rw [hstreak]
  change (if (latestHysteresis frames).previousIdentity
        = (r.frame (latestHysteresis frames) selected).focalTargets.head? then
      saturatingSucc16 (latestHysteresis frames).retainedTicks
    else if (r.frame (latestHysteresis frames) selected).focalTargets.head?.isSome then 1
    else 0).toNat = _
  rw [hfirst, h.previousIdentity]
  cases frames with
  | nil => rfl
  | cons last rest =>
    split_ifs with hsame hsome
    · -- the same target: the frame before counted it
      have hlast : last.focalTargets.head? = some identity := hsame
      have hticks : (latestHysteresis (last :: rest)).retainedTicks.toNat
          = min 65535 (streak identity (last :: rest)) := (h last rfl).2 identity hlast
      rw [toNat_saturatingSucc16, hticks]
      omega
    · -- another target: its count starts
      have hlast : last.focalTargets.head? ≠ some identity := hsame
      have hnone : streak identity (last :: rest) = 0 := by
        unfold streak
        rw [List.takeWhile_cons_of_neg (by simpa using hlast), List.length_nil]
      rw [hnone]
      rfl
    · exact absurd rfl hsome

theorem exists_attend {requests : List FocalRequest}
    (h : ∀ r ∈ requests, r.Valid ∧ r.RequestsProtected) :
    ∃ frames, attend requests = .ok frames ∧ Counted frames := by
  induction requests with
  | nil => exact ⟨[], rfl, fun _ hframe => by cases hframe⟩
  | cons r earlier ih =>
    obtain ⟨frames, hframes, hcounted⟩ := ih fun q hq => h q (List.mem_cons_of_mem _ hq)
    obtain ⟨hr, hprotects⟩ := h r List.mem_cons_self
    obtain ⟨selected, -, hselect, -⟩ := select_eq (latestHysteresis frames) hr hprotects
    exact ⟨_, contract_bind_eq_ok_iff.2 ⟨_, hframes, contract_bind_eq_ok_iff.2 ⟨_, hselect, rfl⟩⟩,
      hcounted.cons r selected⟩

/-! ### The order of the summaries -/

/-- The same call with its summaries listed in another order. -/
def FocalRequest.Relisted (r r' : FocalRequest) : Prop :=
  ∃ l, r.peripheralSummaries.Perm l ∧ r' = { r with peripheralSummaries := l }

/-- The same frame with its summaries listed in another order. -/
def AttentionFrame.Relisted (frame frame' : AttentionFrame ℚ) : Prop :=
  ∃ l, frame.peripheralSummaries.Perm l ∧ frame' = { frame with peripheralSummaries := l }

theorem FocalRequest.Relisted.valid {r r' : FocalRequest} (h : r.Relisted r') (hr : r.Valid) :
    r'.Valid := by
  obtain ⟨l, hperm, rfl⟩ := h
  exact { hr with
    bounded := hperm.length_eq ▸ hr.bounded
    summaries := fun s hs => hr.summaries s (hperm.mem_iff.2 hs)
    distinct := (hperm.map _).nodup_iff.1 hr.distinct
    enough := hperm.length_eq ▸ hr.enough }

/-- The choice does not depend on the order of the summaries. -/
theorem FocalChoice.eq_of_perm
    {summaries summaries' selected selected' : List (PeripheralSummary ℚ)}
    {previousIdentity : Option StableFocusIdentity} {requested : ℕ} {switchCost : ℚ}
    (hids : (summaries.map PeripheralSummary.identity).Nodup) (hperm : summaries.Perm summaries')
    (h : FocalChoice summaries previousIdentity requested switchCost selected)
    (h' : FocalChoice summaries' previousIdentity requested switchCost selected') :
    selected = selected' := by
  have hranking := ranking_eq_of_perm hids hperm
  have hretains (p : PeripheralSummary ℚ) : Retains summaries previousIdentity switchCost p ↔
      Retains summaries' previousIdentity switchCost p :=
    ⟨fun hp => ⟨hperm.mem_iff.1 hp.present, hp.incumbent,
        fun q hq => hp.unchallenged q (hperm.mem_iff.2 hq)⟩,
      fun hp => ⟨hperm.mem_iff.2 hp.present, hp.incumbent,
        fun q hq => hp.unchallenged q (hperm.mem_iff.1 hq)⟩⟩
  obtain hzero | hpos := Nat.eq_zero_or_pos requested
  · rw [h.unrequested hzero, h'.unrequested hzero]
  · by_cases hkept : ∃ p, Retains summaries previousIdentity switchCost p
    · obtain ⟨p, hp⟩ := hkept
      rw [h.kept p hp hpos, h'.kept p ((hretains p).1 hp) hpos, hranking]
    · have hkept' : ∀ p, ¬Retains summaries' previousIdentity switchCost p :=
        fun p hp => hkept ⟨p, (hretains p).2 hp⟩
      rw [h.fresh (not_exists.1 hkept), h'.fresh hkept', hranking]

theorem frame_relisted {r r' : FocalRequest} (h : r.Relisted r') (previous : HysteresisState ℚ)
    (selected : List (PeripheralSummary ℚ)) :
    (r.frame previous selected).Relisted (r'.frame previous selected) := by
  obtain ⟨l, hperm, rfl⟩ := h
  refine ⟨l, hperm, ?_⟩
  simp only [FocalRequest.frame, FocalRequest.budgetReceipt, hperm.length_eq]

/-- Runs whose calls list the same summaries in other orders have the same frames otherwise. -/
theorem attend_relisted {requests requests' : List FocalRequest}
    (h : ∀ r ∈ requests, r.Valid ∧ r.RequestsProtected)
    (hrelisted : List.Forall₂ FocalRequest.Relisted requests requests') :
    ∃ frames frames', attend requests = .ok frames ∧ attend requests' = .ok frames' ∧
      List.Forall₂ AttentionFrame.Relisted frames frames' := by
  induction hrelisted with
  | nil => exact ⟨[], [], rfl, rfl, .nil⟩
  | @cons r r' earlier earlier' hr hearlier ih =>
    obtain ⟨frames, frames', hframes, hframes', hsame⟩ :=
      ih fun q hq => h q (List.mem_cons_of_mem _ hq)
    have hhysteresis : latestHysteresis frames' = latestHysteresis frames := by
      cases hsame with
      | nil => rfl
      | cons hhead _ =>
        obtain ⟨l, -, rfl⟩ := hhead
        rfl
    obtain ⟨hvalid, hprotects⟩ := h r List.mem_cons_self
    have hprotects' : r'.RequestsProtected := by
      obtain ⟨l, -, rfl⟩ := hr
      exact hprotects
    obtain ⟨selected, hchoice, hselect, -⟩ :=
      select_eq (latestHysteresis frames) hvalid hprotects
    obtain ⟨selected', hchoice', hselect', -⟩ :=
      select_eq (latestHysteresis frames) (hr.valid hvalid) hprotects'
    obtain rfl : selected = selected' := by
      obtain ⟨l, hperm, rfl⟩ := hr
      exact hchoice.eq_of_perm hvalid.distinct hperm hchoice'
    refine ⟨_, _, contract_bind_eq_ok_iff.2 ⟨_, hframes, contract_bind_eq_ok_iff.2
      ⟨_, hselect, rfl⟩⟩, contract_bind_eq_ok_iff.2 ⟨_, hframes', contract_bind_eq_ok_iff.2
      ⟨_, hhysteresis ▸ hselect', rfl⟩⟩, .cons (frame_relisted hr _ _) hsame⟩

/-! ### The run -/

/-- **Attention over a run.**  Every call of a run returns a frame that is accepted.  It attends
the first of the ranking, the target before in front unless another exceeds it by more than the
cost of a switch; its counter is the number of latest frames with its first target; and the
frames do not depend on the order in which the summaries are listed. -/
theorem focal_run (r : FocalRequest) (earlier : List FocalRequest)
    (h : ∀ q ∈ r :: earlier, q.Valid ∧ q.RequestsProtected) :
    ∃ frame frames, attend earlier = .ok frames ∧ attend (r :: earlier) = .ok (frame :: frames) ∧
      Attended r (frames.head?.bind fun last => last.focalTargets.head?) frame ∧
      (∀ identity, frame.focalTargets.head? = some identity →
        frame.hysteresis.retainedTicks.toNat = min 65535 (streak identity (frame :: frames))) ∧
      ∀ requests', List.Forall₂ FocalRequest.Relisted (r :: earlier) requests' →
        ∃ frames', attend requests' = .ok frames' ∧
          List.Forall₂ AttentionFrame.Relisted (frame :: frames) frames' := by
  obtain ⟨frames, hframes, hcounted⟩ := exists_attend fun q hq => h q (List.mem_cons_of_mem _ hq)
  obtain ⟨hr, hprotects⟩ := h r List.mem_cons_self
  obtain ⟨selected, hchoice, hselect, haccepted⟩ :=
    select_eq (latestHysteresis frames) hr hprotects
  have hrun : attend (r :: earlier) = .ok (r.frame (latestHysteresis frames) selected :: frames) :=
    contract_bind_eq_ok_iff.2 ⟨_, hframes, contract_bind_eq_ok_iff.2 ⟨_, hselect, rfl⟩⟩
  refine ⟨_, frames, hframes, hrun, ?_, ?_, fun requests' hrelisted => ?_⟩
  · rw [← hcounted.previousIdentity]
    exact attended_frame hr hchoice haccepted
  · exact (hcounted.cons r selected _ rfl).2
  · obtain ⟨frames', frames'', hrun', hrun'', hsame⟩ := attend_relisted h hrelisted
    cases hrun.symm.trans hrun'
    exact ⟨frames'', hrun'', hsame⟩

/-- A summary of a tracked object that only drives attract to. -/
def driven (id : UInt64) (drive : ℚ) : PeripheralSummary ℚ where
  identity := .trackedObject ⟨id⟩
  salience := ⟨0, drive, 0, 0, 0, 0, 0⟩
  confidence := 1

/-- Objects with their drives, of which two are attended. -/
def sampleFocalRequest (objects : List (UInt64 × ℚ)) : FocalRequest where
  organismId := ⟨1⟩
  sequenceId := ⟨1⟩
  worldTick := .zero
  peripheralSummaries := objects.map fun object => driven object.1 object.2
  policy := ⟨8, 1, 2, 1 / 20, 1 / 20⟩

/-- The second object is the most attractive one. -/
def firstRequest : FocalRequest := sampleFocalRequest [(1, 1 / 2), (2, 1), (3, 1 / 4)]

/-- It is the least attractive one, by less than the cost of a switch. -/
def secondRequest : FocalRequest := sampleFocalRequest [(1, 3 / 5), (2, 29 / 50), (3, 31 / 50)]

/-- The second object is kept in front, in place of the first one, which ranks above it; it has
been in front for two frames; and the run is the same with the objects listed backwards. -/
theorem focal_run_sample : ∃ frame frames,
    attend [firstRequest] = .ok frames ∧
    attend [secondRequest, firstRequest] = .ok (frame :: frames) ∧
    Attended secondRequest (some (.trackedObject ⟨2⟩)) frame ∧
    frame.focalTargets = [.trackedObject ⟨2⟩, .trackedObject ⟨3⟩] ∧
    frame.hysteresis.retainedTicks = 2 ∧
    ∃ frames',
      attend [sampleFocalRequest [(3, 31 / 50), (2, 29 / 50), (1, 3 / 5)], firstRequest]
        = .ok frames' ∧
      List.Forall₂ AttentionFrame.Relisted (frame :: frames) frames' := by
  have hvalid : ∀ q ∈ [secondRequest, firstRequest], q.Valid ∧ q.RequestsProtected := by
    intro q hq
    simp only [List.mem_cons, List.not_mem_nil, or_false] at hq
    obtain rfl | rfl := hq
    all_goals exact ⟨⟨rfl, rfl, by decide +kernel, by decide +kernel, by decide +kernel,
      by decide +kernel, by decide +kernel⟩, by unfold FocalRequest.RequestsProtected; decide⟩
  obtain ⟨frame, frames, hframes, hrun, hattended, hcounter, hrelisted⟩ := focal_run _ _ hvalid
  have htargets : (attend [secondRequest, firstRequest]).map
      (fun frames => frames.map AttentionFrame.focalTargets)
      = .ok [[.trackedObject ⟨2⟩, .trackedObject ⟨3⟩],
        [.trackedObject ⟨2⟩, .trackedObject ⟨1⟩]] := by
    decide +kernel
  rw [hrun] at htargets
  obtain ⟨htarget, hearlier⟩ := List.cons.inj (Except.ok.inj htargets)
  obtain ⟨first, hfirst, hlast⟩ : ∃ first, frames = [first] ∧
      first.focalTargets = [.trackedObject ⟨2⟩, .trackedObject ⟨1⟩] := by
    obtain ⟨first, rest, rfl, hlast, hrest⟩ := List.map_eq_cons_iff.1 hearlier
    rw [List.map_eq_nil_iff.1 hrest]
    exact ⟨first, rfl, hlast⟩
  subst hfirst
  have hretained := hcounter (.trackedObject ⟨2⟩) (by rw [htarget]; rfl)
  have hstreak : streak (.trackedObject ⟨2⟩) [frame, first] = 2 := by
    simp [streak, htarget, hlast]
  rw [hstreak] at hretained
  refine ⟨frame, [first], hframes, hrun, ?_, htarget, UInt16.toNat_inj.1 hretained,
    hrelisted _ (.cons ⟨_, (List.reverse_perm _).symm, rfl⟩
      (.cons ⟨_, List.Perm.refl _, rfl⟩ .nil))⟩
  simpa [hlast] using hattended

/-- **A policy may protect more than it requests**: it is valid, and every call with it fails. -/
theorem select_unprotected :
    (⟨8, 2, 1, 1 / 20, 1 / 20⟩ : AttentionSelectionPolicy).validateContract = .ok () ∧
      ({ sampleFocalRequest [(1, 1), (2, 1 / 2)] with policy := ⟨8, 2, 1, 1 / 20, 1 / 20⟩ } :
        FocalRequest).Valid ∧
      ({ sampleFocalRequest [(1, 1), (2, 1 / 2)] with policy := ⟨8, 2, 1, 1 / 20, 1 / 20⟩ } :
        FocalRequest).select .default = .error .invalidDecisionEvidence :=
  ⟨by decide +kernel, ⟨rfl, rfl, by decide +kernel, by decide +kernel, by decide +kernel,
    by decide +kernel, by decide +kernel⟩, by decide +kernel⟩

end ALife
