/-
# Saving and restoring the registry

What the loader of saved registries accepts (`validateContract_eq_ok_iff`):
records in increasing key order with ids of their own, each from the initial id
up to the counter.  A sound organism is saved (`saveState_of_sound`) and read
back as it was (`organismOf_saved`), and every registry the loader builds is
sound (`sound_of_fromSaveStates`).
-/

import ALife.World.TrackedObjectIdentity

namespace ALife

open Machine Std

namespace TrackedObjectRegistrySaveState

/-- A saved record that passes the checks which look at it alone. -/
structure RecordOk (worldSeed initialId : UInt64) (record : TrackedObjectRecord) : Prop where
  id_ne : record.trackedObjectId.raw ≠ 0
  provenance : record.trackingProvenance.validateContract = .ok ()
  descriptor : record.stablePhysicalDescriptor.validateContract = .ok ()
  seed : record.trackingProvenance.worldSeed = worldSeed
  key : record.trackingKey = record.trackingProvenance.canonicalKey
  initial_le : initialId.toNat ≤ record.trackedObjectId.raw.toNat

/-- The scan after a record. -/
def Scan.push (scan : Scan) (record : TrackedObjectRecord) : Scan :=
  ⟨some record.trackingKey, scan.seenIds.insert record.trackedObjectId.raw⟩

theorem checkRecord_eq_ok_iff {worldSeed initialId : UInt64} {scan scan' : Scan}
    {record : TrackedObjectRecord} :
    checkRecord worldSeed initialId scan record = .ok scan' ↔
      RecordOk worldSeed initialId record
      ∧ (∀ key ∈ scan.previousKey, compare key record.trackingKey = .lt)
      ∧ record.trackedObjectId.raw ∉ scan.seenIds ∧ scan' = scan.push record := by
  have hge : ∀ o : Ordering, ¬o.isGE = true ↔ o = .lt := by decide
  simp only [checkRecord, contract_check_eq_ok_iff, TrackedObjectId.validate, reject_eq_ok_iff,
    Except.ok.injEq, not_or, not_exists, not_and, not_not, hge, UInt64.lt_iff_toNat_lt,
    Nat.not_lt]
  constructor
  · rintro ⟨h0, hprov, hdesc, hseed, hfresh, hinitial, rfl⟩
    exact ⟨⟨h0, hprov, hdesc, hseed.1, hseed.2, hinitial⟩, hfresh.1, hfresh.2, rfl⟩
  · rintro ⟨h, hprevious, hfresh, rfl⟩
    exact ⟨h.id_ne, h.provenance, h.descriptor, ⟨h.seed, h.key⟩, ⟨hprevious, hfresh⟩,
      h.initial_le, rfl⟩

/-- The record loop accepts records in increasing key order, new keys above the
one before and ids apart from each other and from those before. -/
theorem foldlM_checkRecord_eq_ok_iff {worldSeed initialId : UInt64}
    {records : List TrackedObjectRecord} {scan scan' : Scan} :
    records.foldlM (checkRecord worldSeed initialId) scan = .ok scan' ↔
      (∀ r ∈ records, RecordOk worldSeed initialId r
        ∧ (∀ key ∈ scan.previousKey, compare key r.trackingKey = .lt)
        ∧ r.trackedObjectId.raw ∉ scan.seenIds)
      ∧ (records.Pairwise fun a b => compare a.trackingKey b.trackingKey = .lt)
      ∧ (records.Pairwise fun a b => a.trackedObjectId.raw ≠ b.trackedObjectId.raw)
      ∧ scan' = records.foldl Scan.push scan := by
  induction records generalizing scan with
  | nil => simp [pure, Except.pure, eq_comm]
  | cons record records ih =>
    rw [List.foldlM_cons, contract_bind_eq_ok_iff]
    simp only [checkRecord_eq_ok_iff, ih, List.forall_mem_cons, List.pairwise_cons,
      List.foldl_cons]
    constructor
    · rintro ⟨_, ⟨hrec, hprev, hnew, rfl⟩, hall, hkeys, hids, rfl⟩
      refine ⟨⟨⟨hrec, hprev, hnew⟩, fun r hr => ?_⟩, ⟨fun r hr => ?_, hkeys⟩,
        ⟨fun r hr => ?_, hids⟩, rfl⟩
      · obtain ⟨hok, hlt, hfresh⟩ := hall r hr
        refine ⟨hok, fun key hkey => ?_, fun hmem => hfresh ?_⟩
        · exact TransCmp.lt_trans (hprev key hkey) (hlt _ rfl)
        · exact ExtTreeSet.mem_insert.2 (.inr hmem)
      · exact (hall r hr).2.1 _ rfl
      · intro heq
        exact (hall r hr).2.2 (ExtTreeSet.mem_insert.2 (.inl (by rw [heq]; exact compare_self)))
    · rintro ⟨⟨⟨hrec, hprev, hnew⟩, hall⟩, ⟨hlt, hkeys⟩, ⟨hne, hids⟩, rfl⟩
      refine ⟨_, ⟨hrec, hprev, hnew, rfl⟩, fun r hr => ⟨(hall r hr).1, ?_, ?_⟩, hkeys, hids, rfl⟩
      · intro key hkey
        cases hkey
        exact hlt r hr
      · intro hmem
        obtain h | h := ExtTreeSet.mem_insert.1 hmem
        · exact hne r hr (LawfulEqCmp.eq_of_compare h)
        · exact (hall r hr).2.2 h

/-- The ids a scan has seen. -/
theorem mem_seenIds_foldl_push {records : List TrackedObjectRecord} {scan : Scan} {id : UInt64} :
    id ∈ (records.foldl Scan.push scan).seenIds ↔
      id ∈ scan.seenIds ∨ ∃ r ∈ records, r.trackedObjectId.raw = id := by
  induction records generalizing scan with
  | nil => simp
  | cons record records ih =>
    rw [List.foldl_cons, ih, Scan.push, ExtTreeSet.mem_insert, LawfulEqCmp.compare_eq_iff_eq]
    simp only [List.mem_cons, exists_eq_or_imp]
    tauto

/-- The last check: the counter is not below the initial id and above every id. -/
theorem nextId_checked_iff {initialId nextId : UInt64} (hpos : 0 < initialId.toNat)
    (ids : ExtTreeSet UInt64) :
    ¬(nextId < initialId
        ∨ nextId ≤ ids.toList.getLast?.getD (saturatingSub64 initialId 1)) ↔
      initialId.toNat ≤ nextId.toNat ∧ ∀ id : UInt64, id ∈ ids → id.toNat < nextId.toNat := by
  have hsub : (saturatingSub64 initialId 1).toNat = initialId.toNat - 1 :=
    toNat_saturatingSub64 initialId 1
  rw [not_or, UInt64.lt_iff_toNat_lt, UInt64.le_iff_toNat_le, Nat.not_lt, Nat.not_le]
  refine and_congr_right fun hinitial => ?_
  cases hlast : ids.toList.getLast? with
  | none =>
    rw [List.getLast?_eq_none_iff, ExtTreeSet.toList_eq_nil_iff] at hlast
    subst hlast
    simp only [Option.getD_none, hsub]
    exact ⟨fun _ id hid => absurd hid ExtTreeSet.not_mem_empty, fun _ => by omega⟩
  | some highest =>
    obtain ⟨before, hids⟩ := List.getLast?_eq_some_iff.1 hlast
    have hsorted := ExtTreeSet.ordered_toList (t := ids)
    rw [hids, List.pairwise_append] at hsorted
    simp only [Option.getD_some]
    refine ⟨fun h id hid => ?_, fun h => h highest (ExtTreeSet.mem_toList.1 (by simp [hids]))⟩
    rw [← ExtTreeSet.mem_toList, hids, List.mem_append, List.mem_singleton] at hid
    obtain hid | rfl := hid
    · have hlt := hsorted.2.2 id hid highest (List.mem_singleton_self _)
      rw [compare_eq_lt, UInt64.lt_iff_toNat_lt] at hlt
      omega
    · exact h

/-- **What the loader accepts.** -/
theorem validateContract_eq_ok_iff {saved : TrackedObjectRegistrySaveState} :
    saved.validateContract = .ok () ↔
      (saved.schemaVersion = trackedObjectRegistrySaveSchemaVersion
        ∧ capacityInRange saved.capacity ∧ saved.records.length ≤ saved.capacity.toNat
        ∧ saved.organismId.raw ≠ 0)
      ∧ (∀ r ∈ saved.records, RecordOk saved.worldSeed
        (initialTrackedObjectId saved.worldSeed saved.organismId.raw) r)
      ∧ (saved.records.Pairwise fun a b => compare a.trackingKey b.trackingKey = .lt)
      ∧ (saved.records.Pairwise fun a b => a.trackedObjectId.raw ≠ b.trackedObjectId.raw)
      ∧ (initialTrackedObjectId saved.worldSeed saved.organismId.raw).toNat ≤ saved.nextId.toNat
      ∧ ∀ r ∈ saved.records, r.trackedObjectId.raw.toNat < saved.nextId.toNat := by
  simp only [validateContract, contract_check_eq_ok_iff, OrganismId.validate, reject_eq_ok_iff]
  simp only [contract_bind_eq_ok_iff, foldlM_checkRecord_eq_ok_iff, reject_eq_ok_iff,
    nextId_checked_iff (initialTrackedObjectId_pos _ _)]
  simp only [not_or, not_not, Nat.not_lt]
  constructor
  · rintro ⟨⟨hschema, hcap, hlen⟩, horg, scan, ⟨hall, hkeys, hids, rfl⟩, hinitial, hnext⟩
    refine ⟨⟨hschema, hcap, hlen, horg⟩, fun r hr => (hall r hr).1, hkeys, hids, hinitial, ?_⟩
    exact fun r hr => hnext _ (mem_seenIds_foldl_push.2 (.inr ⟨r, hr, rfl⟩))
  · rintro ⟨⟨hschema, hcap, hlen, horg⟩, hall, hkeys, hids, hinitial, hnext⟩
    refine ⟨⟨hschema, hcap, hlen⟩, horg, _, ⟨fun r hr => ⟨hall r hr, ?_, ?_⟩, hkeys, hids, rfl⟩,
      hinitial, fun id hid => ?_⟩
    · rintro _ ⟨⟩
    · exact ExtTreeSet.not_mem_empty
    · obtain hid | ⟨r, hr, rfl⟩ := mem_seenIds_foldl_push.1 hid
      · exact absurd hid ExtTreeSet.not_mem_empty
      · exact hnext r hr

end TrackedObjectRegistrySaveState

namespace OrganismTrackedObjects

/-- The save of one organism. -/
def saved (s : OrganismTrackedObjects) : TrackedObjectRegistrySaveState :=
  { schemaVersion := trackedObjectRegistrySaveSchemaVersion
    worldSeed := s.worldSeed
    organismId := ⟨s.organismIdRaw⟩
    capacity := s.capacity
    nextId := s.nextId
    records := s.recordsByKey.toList.map (·.2) }

/-- The save of a sound organism passes the loader's checks. -/
theorem Sound.validate_saved {s : OrganismTrackedObjects} (hs : s.Sound)
    (hraw : s.organismIdRaw ≠ 0) : s.saved.validateContract = .ok () := by
  have hrec : ∀ r ∈ s.saved.records, ∃ k : PhysicalTrackingKey, s.recordsByKey[k]? = some r := by
    intro r hr
    obtain ⟨e, he, rfl⟩ := List.mem_map.1 hr
    exact ⟨e.1, ExtTreeMap.mem_toList_iff_getElem?_eq_some.1 he⟩
  have hkey : ∀ e ∈ s.recordsByKey.toList, e.2.trackingKey = e.1 := fun e he =>
    (hs.record e.1 e.2 (ExtTreeMap.mem_toList_iff_getElem?_eq_some.1 he)).key
  refine TrackedObjectRegistrySaveState.validateContract_eq_ok_iff.2
    ⟨⟨rfl, hs.capacity, ?_, hraw⟩, fun r hr => ?_, ?_, ?_, hs.initial_le, fun r hr => ?_⟩
  · exact (List.length_map _).trans_le (ExtTreeMap.length_toList.trans_le hs.size_le)
  · obtain ⟨k, hk⟩ := hrec r hr
    have h := hs.record k r hk
    refine ⟨?_, h.provenance, h.descriptor, h.seed, h.key.trans h.canonical.symm, h.initial_le⟩
    have hpos := initialTrackedObjectId_pos s.worldSeed s.organismIdRaw
    have hle := h.initial_le
    intro hzero
    rw [hzero] at hle
    change _ ≤ 0 at hle
    omega
  · refine List.pairwise_map.2 (ExtTreeMap.ordered_keys_toList.imp_of_mem ?_)
    intro a b ha hb hlt
    rwa [hkey a ha, hkey b hb]
  · refine List.pairwise_map.2 ((pairwise_fst_ne_toList s.recordsByKey).imp_of_mem ?_)
    intro a b ha hb hne heq
    refine hne (hs.unique a.1 b.1 a.2 b.2 ?_ ?_ ?_)
    · exact ExtTreeMap.mem_toList_iff_getElem?_eq_some.1 ha
    · exact ExtTreeMap.mem_toList_iff_getElem?_eq_some.1 hb
    · rw [← TrackedObjectId.mk.injEq] at heq
      exact heq
  · obtain ⟨k, hk⟩ := hrec r hr
    exact (hs.record k r hk).lt_next

/-- Reading the save back gives the organism. -/
theorem Sound.organismOf_saved {s : OrganismTrackedObjects} (hs : s.Sound) :
    TrackedObjectRegistry.organismOf s.saved = s := by
  have hmap := foldl_insert_toList TrackedObjectRecord.trackingKey (m := s.recordsByKey)
    fun k r hr => (hs.record k r hr).key
  unfold TrackedObjectRegistry.organismOf saved
  rw [hmap]

end OrganismTrackedObjects

namespace TrackedObjectRegistrySaveState

/-- The organism read from an accepted save is sound. -/
theorem sound_organismOf {saved : TrackedObjectRegistrySaveState}
    (h : saved.validateContract = .ok ()) : (TrackedObjectRegistry.organismOf saved).Sound := by
  obtain ⟨⟨-, hcap, hlen, -⟩, hall, hkeys, hids, hinitial, hnext⟩ :=
    validateContract_eq_ok_iff.1 h
  have hdistinct : saved.records.Pairwise fun a b => a.trackingKey ≠ b.trackingKey := by
    refine hkeys.imp ?_
    intro a b hlt heq
    rw [heq, compare_self] at hlt
    cases hlt
  have hget : ∀ (k : PhysicalTrackingKey) (r : TrackedObjectRecord),
      (TrackedObjectRegistry.organismOf saved).recordsByKey[k]? = some r →
        r ∈ saved.records ∧ r.trackingKey = k := by
    intro k r hr
    obtain ⟨a, ha, rfl, rfl⟩ | ⟨-, hempty⟩ :=
      (getElem?_foldl_insert TrackedObjectRecord.trackingKey (fun r => r) hdistinct).1 hr
    · exact ⟨ha, rfl⟩
    · rw [ExtTreeMap.getElem?_empty] at hempty
      cases hempty
  refine ⟨hcap, ?_, hinitial, fun k r hr => ?_, fun k k' r r' hr hr' heq => ?_⟩
  · refine le_of_eq_of_le ?_ hlen
    rw [TrackedObjectRegistry.organismOf,
      size_foldl_insert TrackedObjectRecord.trackingKey (fun r => r) hdistinct fun a _ =>
        ExtTreeMap.not_mem_empty, ExtTreeMap.size_empty, Nat.zero_add]
  · obtain ⟨hmem, rfl⟩ := hget k r hr
    have hok := hall r hmem
    exact ⟨rfl, hok.key.symm, hok.provenance, hok.seed, hok.descriptor, hok.initial_le,
      hnext r hmem⟩
  · obtain ⟨hmem, rfl⟩ := hget k r hr
    obtain ⟨hmem', rfl⟩ := hget k' r' hr'
    have hnodup : (saved.records.map (·.trackedObjectId.raw)).Nodup := List.pairwise_map.2 hids
    rw [List.inj_on_of_nodup_map hnodup hmem hmem' (congrArg TrackedObjectId.raw heq)]

end TrackedObjectRegistrySaveState

namespace TrackedObjectRegistry

open TrackedObjectRegistrySaveState (capacityInRange)

/-- A sound registry: every organism has a valid id, the registry's seed and
capacity, and sound records. -/
structure Sound (r : TrackedObjectRegistry) : Prop where
  capacity : capacityInRange r.perOrganismCapacity
  organism : ∀ (raw : UInt64) (s : OrganismTrackedObjects), r.organisms[raw]? = some s →
    raw ≠ 0 ∧ s.organismIdRaw = raw ∧ s.worldSeed = r.worldSeed
      ∧ s.capacity = r.perOrganismCapacity ∧ s.Sound

/-- The records of the organism, none when it has no entry. -/
def staged (r : TrackedObjectRegistry) (observer : OrganismId) : OrganismTrackedObjects :=
  r.organisms[observer.raw]?.getD
    (OrganismTrackedObjects.new observer.raw r.worldSeed r.perOrganismCapacity)

theorem stagedObserver_eq_ok_iff {r : TrackedObjectRegistry} {observer : OrganismId}
    {s : OrganismTrackedObjects} :
    r.stagedObserver observer = .ok s ↔ observer.raw ≠ 0 ∧ r.staged observer = s := by
  rw [stagedObserver, contract_check_eq_ok_iff, OrganismId.validate, reject_eq_ok_iff,
    Except.ok.injEq]
  rfl

/-- What is staged of a sound registry is sound and belongs to the observer. -/
theorem Sound.staged {r : TrackedObjectRegistry} (hr : r.Sound) (observer : OrganismId) :
    (r.staged observer).organismIdRaw = observer.raw
      ∧ (r.staged observer).worldSeed = r.worldSeed
      ∧ (r.staged observer).capacity = r.perOrganismCapacity ∧ (r.staged observer).Sound := by
  unfold TrackedObjectRegistry.staged
  cases h : r.organisms[observer.raw]? with
  | none => exact ⟨rfl, rfl, rfl, OrganismTrackedObjects.sound_new hr.capacity⟩
  | some s => exact (hr.organism _ s h).2

/-- **A sound registry saves every valid organism.** -/
theorem saveState_of_sound {r : TrackedObjectRegistry} (hr : r.Sound) {observer : OrganismId}
    (hobserver : observer.raw ≠ 0) : r.saveState observer = .ok (r.staged observer).saved := by
  obtain ⟨hraw, hseed, hcap, hs⟩ := hr.staged observer
  have hsaved : ({ schemaVersion := trackedObjectRegistrySaveSchemaVersion
                   worldSeed := r.worldSeed
                   organismId := observer
                   capacity := r.perOrganismCapacity
                   nextId := r.organisms[observer.raw]?.elim
                     (initialTrackedObjectId r.worldSeed observer.raw) (·.nextId)
                   records := r.organisms[observer.raw]?.elim []
                     fun s => s.recordsByKey.toList.map (·.2) } :
      TrackedObjectRegistrySaveState) = (r.staged observer).saved := by
    rw [OrganismTrackedObjects.saved, hraw, hseed, hcap]
    unfold TrackedObjectRegistry.staged
    cases r.organisms[observer.raw]? with
    | none => simp [OrganismTrackedObjects.new]
    | some s => rfl
  rw [saveState, contract_check_eq_ok_iff, OrganismId.validate, reject_eq_ok_iff]
  refine ⟨hobserver, ?_⟩
  dsimp only
  rw [hsaved, contract_check_eq_ok_iff]
  exact ⟨hs.validate_saved (hraw ▸ hobserver), rfl⟩

/-- The organisms the loader has after the saves, each save valid, of the
registry's seed and capacity, and for an organism of its own. -/
theorem foldlM_restoreOne_eq_ok_iff {worldSeed : UInt64} {capacity : UInt32}
    {states : List TrackedObjectRegistrySaveState}
    {m m' : ExtTreeMap UInt64 OrganismTrackedObjects} :
    states.foldlM (restoreOne worldSeed capacity) m = .ok m' ↔
      (∀ saved ∈ states, saved.validateContract = .ok () ∧ saved.worldSeed = worldSeed
        ∧ saved.capacity = capacity ∧ saved.organismId.raw ∉ m)
      ∧ (states.Pairwise fun a b => a.organismId.raw ≠ b.organismId.raw)
      ∧ m' = states.foldl (fun m saved => m.insert saved.organismId.raw (organismOf saved)) m := by
  induction states generalizing m with
  | nil => simp [pure, Except.pure, eq_comm]
  | cons saved states ih =>
    rw [List.foldlM_cons, contract_bind_eq_ok_iff]
    simp only [restoreOne, contract_check_eq_ok_iff, reject_eq_ok_iff, not_or, not_not,
      Except.ok.injEq, ih, List.forall_mem_cons, List.pairwise_cons, List.foldl_cons]
    constructor
    · rintro ⟨_, ⟨hvalid, ⟨hseed, hcap⟩, hnew, rfl⟩, hall, hpair, rfl⟩
      refine ⟨⟨⟨hvalid, hseed, hcap, hnew⟩, fun b hb => ?_⟩, ⟨fun b hb heq => ?_, hpair⟩, rfl⟩
      · obtain ⟨hv, hs, hc, hfresh⟩ := hall b hb
        exact ⟨hv, hs, hc, fun hmem => hfresh (ExtTreeMap.mem_insert.2 (.inr hmem))⟩
      · exact (hall b hb).2.2.2 (ExtTreeMap.mem_insert.2 (.inl (by rw [heq]; exact compare_self)))
    · rintro ⟨⟨⟨hvalid, hseed, hcap, hnew⟩, hall⟩, ⟨hne, hpair⟩, rfl⟩
      refine ⟨_, ⟨hvalid, ⟨hseed, hcap⟩, hnew, rfl⟩, fun b hb => ?_, hpair, rfl⟩
      obtain ⟨hv, hs, hc, hfresh⟩ := hall b hb
      refine ⟨hv, hs, hc, fun hmem => ?_⟩
      obtain h | h := ExtTreeMap.mem_insert.1 hmem
      · exact hne b hb (LawfulEqCmp.eq_of_compare h)
      · exact hfresh h

theorem fromSaveStates_eq_ok_iff {worldSeed : UInt64} {capacity : UInt32}
    {states : List TrackedObjectRegistrySaveState} {r : TrackedObjectRegistry} :
    fromSaveStates worldSeed capacity states = .ok r ↔
      capacityInRange capacity
      ∧ (∀ saved ∈ states, saved.validateContract = .ok () ∧ saved.worldSeed = worldSeed
        ∧ saved.capacity = capacity)
      ∧ (states.Pairwise fun a b => a.organismId.raw ≠ b.organismId.raw)
      ∧ r = ⟨worldSeed, capacity,
        states.foldl (fun m saved => m.insert saved.organismId.raw (organismOf saved)) ∅⟩ := by
  rw [fromSaveStates, contract_check_eq_ok_iff, reject_eq_ok_iff, not_not,
    contract_bind_eq_ok_iff]
  simp only [foldlM_restoreOne_eq_ok_iff, Except.ok.injEq]
  constructor
  · rintro ⟨hcap, _, ⟨hall, hpair, rfl⟩, rfl⟩
    exact ⟨hcap, fun saved h => ⟨(hall saved h).1, (hall saved h).2.1, (hall saved h).2.2.1⟩,
      hpair, rfl⟩
  · rintro ⟨hcap, hall, hpair, rfl⟩
    exact ⟨hcap, _, ⟨fun saved h => ⟨(hall saved h).1, (hall saved h).2.1, (hall saved h).2.2,
      ExtTreeMap.not_mem_empty⟩, hpair, rfl⟩, rfl⟩

/-- **Every registry the loader builds is sound.** -/
theorem sound_of_fromSaveStates {worldSeed : UInt64} {capacity : UInt32}
    {states : List TrackedObjectRegistrySaveState} {r : TrackedObjectRegistry}
    (h : fromSaveStates worldSeed capacity states = .ok r) : r.Sound := by
  obtain ⟨hcap, hall, hpair, rfl⟩ := fromSaveStates_eq_ok_iff.1 h
  refine ⟨hcap, fun raw s hs => ?_⟩
  obtain ⟨saved, hmem, rfl, rfl⟩ | ⟨-, hempty⟩ :=
    (getElem?_foldl_insert (fun saved : TrackedObjectRegistrySaveState => saved.organismId.raw)
      organismOf hpair).1 hs
  · obtain ⟨hvalid, hseed, hsame⟩ := hall saved hmem
    exact ⟨(TrackedObjectRegistrySaveState.validateContract_eq_ok_iff.1 hvalid).1.2.2.2, rfl,
      hseed, hsame, TrackedObjectRegistrySaveState.sound_organismOf hvalid⟩
  · rw [ExtTreeMap.getElem?_empty] at hempty
    cases hempty

/-- A new registry is sound. -/
theorem sound_of_new {worldSeed : UInt64} {capacity : UInt32} {r : TrackedObjectRegistry}
    (h : TrackedObjectRegistry.new worldSeed capacity = .ok r) : r.Sound := by
  rw [TrackedObjectRegistry.new, contract_check_eq_ok_iff, reject_eq_ok_iff, not_not,
    Except.ok.injEq] at h
  obtain ⟨hcap, rfl⟩ := h
  exact ⟨hcap, fun raw s hs => by simp at hs⟩

/-- Two registries that no observation, save or lookup of a record tells apart:
their organisms have the same records, an organism without any may have an entry
in one of them only. -/
structure Alike (r r' : TrackedObjectRegistry) : Prop where
  worldSeed : r'.worldSeed = r.worldSeed
  capacity : r'.perOrganismCapacity = r.perOrganismCapacity
  staged : ∀ observer : OrganismId, r'.staged observer = r.staged observer

/-- A save of each of the observers, and the registry read back from the saves. -/
def restore (r : TrackedObjectRegistry) (observers : List OrganismId) :
    Contract TrackedObjectRegistry := do
  let states ← observers.mapM r.saveState
  fromSaveStates r.worldSeed r.perOrganismCapacity states

/-- The observers include every organism that the registry has an entry for. -/
def Covers (r : TrackedObjectRegistry) (observers : List OrganismId) : Prop :=
  ∀ raw ∈ r.organisms.keys, (⟨raw⟩ : OrganismId) ∈ observers

instance (r : TrackedObjectRegistry) (observers : List OrganismId) :
    Decidable (r.Covers observers) :=
  inferInstanceAs (Decidable (∀ raw ∈ r.organisms.keys, _))

/-- The records of the observers, under their ids. -/
def entries (r : TrackedObjectRegistry) (observers : List OrganismId) :
    ExtTreeMap UInt64 OrganismTrackedObjects :=
  observers.foldl (fun m o => m.insert o.raw (r.staged o)) ∅

/-- Saving and reading back distinct valid organisms succeeds, and the registry
read back has exactly their records. -/
theorem restore_eq_ok_iff {r r' : TrackedObjectRegistry} (hr : r.Sound)
    {observers : List OrganismId} :
    r.restore observers = .ok r' ↔
      (∀ o ∈ observers, o.raw ≠ 0) ∧ observers.Nodup ∧
        r' = ⟨r.worldSeed, r.perOrganismCapacity, r.entries observers⟩ := by
  have hsave : (∀ o ∈ observers, o.raw ≠ 0) →
      observers.mapM r.saveState = .ok (observers.map fun o => (r.staged o).saved) := fun h =>
    contract_mapM_ok fun o ho => saveState_of_sound hr (h o ho)
  have hraw : ∀ o, (r.staged o).saved.organismId.raw = o.raw := fun o => (hr.staged o).1
  have hfold : (observers.map fun o => (r.staged o).saved).foldl
      (fun (m : ExtTreeMap UInt64 OrganismTrackedObjects) saved =>
        m.insert saved.organismId.raw (organismOf saved)) ∅ = r.entries observers := by
    rw [List.foldl_map, entries]
    congr 1
    funext m o
    rw [hraw, (hr.staged o).2.2.2.organismOf_saved]
  have hpair : ((observers.map fun o => (r.staged o).saved).Pairwise
      fun a b => a.organismId.raw ≠ b.organismId.raw) ↔ observers.Nodup := by
    rw [List.pairwise_map]
    refine iff_of_eq (congrArg (fun R => observers.Pairwise R) ?_)
    funext a b
    rw [hraw, hraw, ne_eq, ne_eq, ← OrganismId.mk.injEq]
  rw [restore, contract_bind_eq_ok_iff]
  constructor
  · rintro ⟨states, hstates, h⟩
    have hvalid : ∀ o ∈ observers, o.raw ≠ 0 := by
      intro o ho
      obtain ⟨saved, hsaved⟩ := ok_of_contract_mapM hstates o ho
      rw [saveState, contract_check_eq_ok_iff, OrganismId.validate, reject_eq_ok_iff] at hsaved
      exact hsaved.1
    rw [hsave hvalid] at hstates
    cases hstates
    obtain ⟨-, -, hp, rfl⟩ := fromSaveStates_eq_ok_iff.1 h
    exact ⟨hvalid, hpair.1 hp, by rw [hfold]⟩
  · rintro ⟨hvalid, hnodup, rfl⟩
    refine ⟨_, hsave hvalid, fromSaveStates_eq_ok_iff.2
      ⟨hr.capacity, ?_, hpair.2 hnodup, by rw [hfold]⟩⟩
    intro saved hsaved
    obtain ⟨o, ho, rfl⟩ := List.mem_map.1 hsaved
    obtain ⟨horg, hseed, hcap, hs⟩ := hr.staged o
    exact ⟨hs.validate_saved (horg ▸ hvalid o ho), hseed, hcap⟩

/-- The entries of the registry read back. -/
theorem getElem?_entries {r : TrackedObjectRegistry} {observers : List OrganismId}
    (hnodup : observers.Nodup) {raw : UInt64} {s : OrganismTrackedObjects} :
    (r.entries observers)[raw]? = some s ↔
      (⟨raw⟩ : OrganismId) ∈ observers ∧ r.staged ⟨raw⟩ = s := by
  have hpair : observers.Pairwise fun a b => a.raw ≠ b.raw := by
    refine hnodup.imp ?_
    intro a b hne heq
    exact hne (OrganismId.mk.injEq _ _ ▸ heq)
  rw [entries, getElem?_foldl_insert OrganismId.raw r.staged hpair]
  constructor
  · rintro (⟨o, ho, rfl, rfl⟩ | ⟨-, hempty⟩)
    · exact ⟨ho, rfl⟩
    · rw [ExtTreeMap.getElem?_empty] at hempty
      cases hempty
  · rintro ⟨ho, rfl⟩
    exact .inl ⟨_, ho, rfl, rfl⟩

/-- **A restore that covers the registry is not told apart from it.** -/
theorem alike_of_restore {r r' : TrackedObjectRegistry} (hr : r.Sound)
    {observers : List OrganismId} (hcover : r.Covers observers)
    (h : r.restore observers = .ok r') : r.Alike r' := by
  obtain ⟨-, hnodup, rfl⟩ := (restore_eq_ok_iff hr).1 h
  refine ⟨rfl, rfl, fun observer => ?_⟩
  rw [TrackedObjectRegistry.staged]
  dsimp only
  by_cases ho : observer ∈ observers
  · rw [(getElem?_entries hnodup).2 ⟨ho, rfl⟩, Option.getD_some]
  · have hnone : r.organisms[observer.raw]? = none := by
      refine ExtTreeMap.getElem?_eq_none fun hmem => ?_
      exact ho (hcover _ (ExtTreeMap.mem_keys.2 hmem))
    have hnone' : (r.entries observers)[observer.raw]? = none := by
      refine Option.eq_none_iff_forall_ne_some.2 fun s hs => ?_
      exact ho ((getElem?_entries hnodup).1 hs).1
    rw [hnone', TrackedObjectRegistry.staged, hnone]

/-- A restore of exactly the organisms that have an entry gives the registry itself. -/
theorem restore_eq_self {r r' : TrackedObjectRegistry} (hr : r.Sound)
    {observers : List OrganismId} (hexact : ∀ o : OrganismId, o ∈ observers ↔ o.raw ∈ r.organisms)
    (h : r.restore observers = .ok r') : r' = r := by
  obtain ⟨-, hnodup, rfl⟩ := (restore_eq_ok_iff hr).1 h
  have hmap : r.entries observers = r.organisms := by
    refine ExtTreeMap.ext_getElem? fun raw => Option.ext fun s => ?_
    rw [getElem?_entries hnodup, hexact, mem_iff_exists_getElem?]
    constructor
    · rintro ⟨⟨s', hs'⟩, rfl⟩
      rw [TrackedObjectRegistry.staged, hs', Option.getD_some]
    · intro hs
      exact ⟨⟨s, hs⟩, by rw [TrackedObjectRegistry.staged, hs, Option.getD_some]⟩
  rw [hmap]

/-- What is read back is sound. -/
theorem sound_of_restore {r r' : TrackedObjectRegistry} {observers : List OrganismId}
    (h : r.restore observers = .ok r') : r'.Sound := by
  obtain ⟨states, -, hstates⟩ := contract_bind_eq_ok_iff.1 h
  exact sound_of_fromSaveStates hstates

end TrackedObjectRegistry

end ALife
