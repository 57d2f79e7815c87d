/-
# Identities within one organism

What one observation does to the records of an organism.  `observe_cases` says
it in full: the observation either re-sights the record under its key, or takes
the next id of the counter, with or without an eviction.  From it, an
observation keeps the organism sound (`Sound.observe`: at most `capacity`
records, every id between the initial id and the counter, no id twice), answers
the id that the object holds (`observe_of_holds`), and takes an id away from an
object only when it answers that id as evicted (`observe_keeps`).  In a sound
organism neither `expect` is reached.
-/

import ALife.Machine.TreeMaps
import ALife.World.TrackedObjects

namespace ALife

open Machine Std

/-- The seven checks on a descriptor leave finite values only. -/
theorem StablePhysicalDescriptor.isFinite_of_valid {d : StablePhysicalDescriptor}
    (h : d.validateContract = .ok ()) : ∀ v ∈ d.values.toList, v.isFinite = true := by
  intro v hv
  have hsplit : d.values.toList = d.values.toList.take 9
      ++ ((d.values.toList.drop 9).take 4 ++ d.values.toList.drop 13) := by
    rw [show d.values.toList.drop 13 = (d.values.toList.drop 9).drop 4 by rw [List.drop_drop],
      List.take_append_drop, List.take_append_drop]
  simp only [validateContract, reject_eq_ok_iff, not_or, Bool.not_eq_true, List.any_eq_false,
    outside, Bool.or_eq_false_iff, Bool.not_eq_false'] at h
  rw [hsplit, List.mem_append, List.mem_append] at hv
  obtain hv | hv | hv := hv
  · exact (h.1 v (List.mem_append_left _ hv)).1
  · exact (h.2 v hv).1
  · exact (h.1 v (List.mem_append_right _ hv)).1

/-- A fold that keeps one of its two arguments returns one of the items. -/
theorem foldl_select_mem {α : Type} (p : α → α → Bool) (a : α) (l : List α) :
    l.foldl (fun best e => if p e best then e else best) a ∈ a :: l := by
  induction l generalizing a with
  | nil => exact List.mem_singleton_self a
  | cons b l ih =>
    rw [List.foldl_cons]
    split_ifs
    · exact List.mem_cons_of_mem a (ih b)
    · obtain h | h := List.mem_cons.1 (ih a)
      · rw [h]
        exact List.mem_cons_self
      · exact List.mem_cons_of_mem a (List.mem_cons_of_mem b h)

/-- The target of an eviction is a key of the records. -/
theorem mem_of_evictionTarget {m : TrackedRecords} {k : PhysicalTrackingKey}
    (h : evictionTarget m = some k) : ∃ record, m[k]? = some record := by
  unfold evictionTarget at h
  split at h
  · cases h
  · rename_i entry entries hl
    have hmem := foldl_select_mem (fun e best => evictionOrder e best = .lt) entry entries
    simp only [decide_eq_true_eq] at hmem
    rw [← hl] at hmem
    cases h
    exact ⟨_, ExtTreeMap.mem_toList_iff_getElem?_eq_some.1 hmem⟩

/-- There is a target as soon as there is a record. -/
theorem evictionTarget_ne_none {m : TrackedRecords} (h : 0 < m.size) :
    evictionTarget m ≠ none := by
  unfold evictionTarget
  split
  · rename_i hl
    rw [← ExtTreeMap.length_toList, hl] at h
    cases h
  · exact Option.some_ne_none _

namespace OrganismTrackedObjects

/-- A stored record as every check of the registry leaves it. -/
structure RecordSound (s : OrganismTrackedObjects) (k : PhysicalTrackingKey)
    (record : TrackedObjectRecord) : Prop where
  key : record.trackingKey = k
  canonical : record.trackingProvenance.canonicalKey = k
  provenance : record.trackingProvenance.validateContract = .ok ()
  seed : record.trackingProvenance.worldSeed = s.worldSeed
  descriptor : record.stablePhysicalDescriptor.validateContract = .ok ()
  initial_le : (initialTrackedObjectId s.worldSeed s.organismIdRaw).toNat
    ≤ record.trackedObjectId.raw.toNat
  lt_next : record.trackedObjectId.raw.toNat < s.nextId.toNat

/-- The records of one organism, sound: within capacity, ids from the initial id
up to the counter, each for one record. -/
structure Sound (s : OrganismTrackedObjects) : Prop where
  capacity : TrackedObjectRegistrySaveState.capacityInRange s.capacity
  size_le : s.recordsByKey.size ≤ s.capacity.toNat
  initial_le : (initialTrackedObjectId s.worldSeed s.organismIdRaw).toNat ≤ s.nextId.toNat
  record : ∀ k record, s.recordsByKey[k]? = some record → s.RecordSound k record
  unique : ∀ (k k' : PhysicalTrackingKey) (record record' : TrackedObjectRecord),
    s.recordsByKey[k]? = some record → s.recordsByKey[k']? = some record' →
    record.trackedObjectId = record'.trackedObjectId → k = k'

/-- The object under the key is tracked with this id. -/
def Holds (s : OrganismTrackedObjects) (k : PhysicalTrackingKey) (id : TrackedObjectId) : Prop :=
  ∃ record, s.recordsByKey[k]? = some record ∧ record.trackedObjectId = id

/-- The record that a new object gets. -/
def fresh (s : OrganismTrackedObjects) (o : Observation) : TrackedObjectRecord :=
  ⟨⟨s.nextId⟩, o.provenance, o.provenance.canonicalKey, o.tick, o.descriptor⟩

theorem toNat_nextIdAfter {s : OrganismTrackedObjects} {n : UInt64}
    (h : s.nextIdAfter = .ok n) : n.toNat = s.nextId.toNat + 1 := by
  unfold nextIdAfter at h
  split at h
  · rename_i m hm
    cases h
    exact checkedAdd64_eq_some_iff.1 hm
  · cases h

/-- What an eviction leaves: all records below the capacity, else all but one,
whose id it answers. -/
theorem evict_cases {s : OrganismTrackedObjects} {records : TrackedRecords}
    {evicted : Option TrackedObjectId} (h : s.evict = .ok (records, evicted)) :
    (s.recordsByKey.size ≠ s.capacity.toNat ∧ records = s.recordsByKey ∧ evicted = none) ∨
    (s.recordsByKey.size = s.capacity.toNat ∧ ∃ k record, s.recordsByKey[k]? = some record ∧
      records = s.recordsByKey.erase k ∧ evicted = some record.trackedObjectId) := by
  unfold evict at h
  split_ifs at h with hsize
  · split at h
    · cases h
    · rename_i k htarget
      obtain ⟨record, hrecord⟩ := mem_of_evictionTarget htarget
      rw [hrecord] at h
      cases h
      exact .inr ⟨hsize, k, record, hrecord, rfl, rfl⟩
  · cases h
    exact .inl ⟨hsize, rfl, rfl⟩

/-- All that an observation which succeeds can do. -/
theorem observe_cases {s s' : OrganismTrackedObjects} {o : Observation} {a : Observed}
    (h : s.observe o = .ok (a, s')) :
    (o.provenance.validateContract = .ok () ∧ o.descriptor.validateContract = .ok ()
      ∧ o.provenance.worldSeed = s.worldSeed) ∧
    ((∃ existing, s.recordsByKey[o.provenance.canonicalKey]? = some existing
      ∧ a = ⟨existing.trackedObjectId, false, none⟩ ∧ s' = s.resight existing o) ∨
    (s.recordsByKey[o.provenance.canonicalKey]? = none
      ∧ ∃ nextId records evicted, nextId.toNat = s.nextId.toNat + 1
        ∧ s.evict = .ok (records, evicted) ∧ a = ⟨⟨s.nextId⟩, true, evicted⟩
        ∧ s' = { s with nextId, recordsByKey :=
          records.insert o.provenance.canonicalKey (s.fresh o) })) := by
  simp only [observe, refusal_bind_eq_ok_iff, checked_eq_ok_iff] at h
  obtain ⟨⟨⟩, hprov, ⟨⟩, hdesc, ⟨⟩, hseed, h⟩ := h
  refine ⟨⟨hprov, hdesc, not_not.1 (reject_eq_ok_iff.1 hseed)⟩, ?_⟩
  cases hget : s.recordsByKey[o.provenance.canonicalKey]? with
  | some existing =>
    simp only [hget, refusal_bind_eq_ok_iff, checked_eq_ok_iff] at h
    obtain ⟨⟨⟩, -, h⟩ := h
    cases h
    exact .inl ⟨existing, rfl, rfl, rfl⟩
  | none =>
    simp only [hget, refusal_bind_eq_ok_iff, checked_eq_ok_iff] at h
    obtain ⟨nextId, hnext, ⟨records, evicted⟩, hevict, h⟩ := h
    cases h
    exact .inr ⟨rfl, nextId, records, evicted, toNat_nextIdAfter hnext, hevict, rfl, rfl⟩

/-- An eviction from a sound organism makes room and drops no record but the one
it answers. -/
theorem Sound.evict {s : OrganismTrackedObjects} (hs : s.Sound) {records : TrackedRecords}
    {evicted : Option TrackedObjectId} (h : s.evict = .ok (records, evicted)) :
    records.size < s.capacity.toNat ∧
      (∀ (k : PhysicalTrackingKey) (r : TrackedObjectRecord), records[k]? = some r →
        s.recordsByKey[k]? = some r) ∧
      ∀ (k : PhysicalTrackingKey) (r : TrackedObjectRecord), s.recordsByKey[k]? = some r →
        records[k]? = some r ∨ evicted = some r.trackedObjectId := by
  have hsize := hs.size_le
  obtain ⟨hne, rfl, rfl⟩ | ⟨hfull, k, record, hrecord, rfl, rfl⟩ := evict_cases h
  · exact ⟨by omega, fun _ _ => id, fun _ _ => .inl⟩
  · have hpos := UInt32.le_iff_toNat_le.1 hs.capacity.1
    have hone : (1 : UInt32).toNat = 1 := rfl
    rw [size_erase_of_mem (mem_iff_exists_getElem?.2 ⟨record, hrecord⟩)]
    refine ⟨by omega, fun k' record' h' => (getElem?_erase_eq_some_iff.1 h').2, ?_⟩
    intro k' record' h'
    by_cases hk : k' = k
    · subst hk
      rw [hrecord] at h'
      cases h'
      exact .inr rfl
    · exact .inl (getElem?_erase_eq_some_iff.2 ⟨hk, h'⟩)

/-- A full sound organism has a record to evict. -/
theorem Sound.evict_ok {s : OrganismTrackedObjects} (hs : s.Sound) : ∃ x, s.evict = .ok x := by
  unfold OrganismTrackedObjects.evict
  split_ifs with hfull
  · have hpos := UInt32.le_iff_toNat_le.1 hs.capacity.1
    have hone : (1 : UInt32).toNat = 1 := rfl
    split
    · rename_i hnone
      exact absurd hnone (evictionTarget_ne_none (by omega))
    · exact ⟨_, rfl⟩
  · exact ⟨_, rfl⟩

theorem RecordSound.mono {s s' : OrganismTrackedObjects} {k : PhysicalTrackingKey}
    {record : TrackedObjectRecord} (h : s.RecordSound k record)
    (hseed : s'.worldSeed = s.worldSeed) (hraw : s'.organismIdRaw = s.organismIdRaw)
    (hnext : s.nextId.toNat ≤ s'.nextId.toNat) : s'.RecordSound k record :=
  { h with
    seed := hseed ▸ h.seed
    initial_le := by rw [hseed, hraw]; exact h.initial_le
    lt_next := h.lt_next.trans_le hnext }

/-- A sound organism stays sound when it takes another sound one's records under
new entries that keep the ids apart. -/
theorem Sound.insert {s s' : OrganismTrackedObjects} (hs : s.Sound) {records : TrackedRecords}
    {k : PhysicalTrackingKey} {record : TrackedObjectRecord}
    (hraw : s'.organismIdRaw = s.organismIdRaw) (hseed : s'.worldSeed = s.worldSeed)
    (hcap : s'.capacity = s.capacity) (hnext : s.nextId.toNat ≤ s'.nextId.toNat)
    (hrecords : s'.recordsByKey = records.insert k record)
    (hsize : (records.insert k record).size ≤ s.capacity.toNat)
    (hsub : ∀ (k : PhysicalTrackingKey) (r : TrackedObjectRecord), records[k]? = some r →
      s.recordsByKey[k]? = some r)
    (hsound : s'.RecordSound k record)
    (hid : ∀ (k' : PhysicalTrackingKey) (r : TrackedObjectRecord), k' ≠ k →
      s.recordsByKey[k']? = some r → r.trackedObjectId ≠ record.trackedObjectId) : s'.Sound where
  capacity := hcap ▸ hs.capacity
  size_le := by rw [hrecords, hcap]; exact hsize
  initial_le := by rw [hseed, hraw]; exact hs.initial_le.trans hnext
  record := by
    intro k' r hr
    rw [hrecords] at hr
    obtain ⟨rfl, rfl⟩ | ⟨-, hr⟩ := getElem?_insert_eq_some_iff.1 hr
    · exact hsound
    · exact (hs.record k' r (hsub k' r hr)).mono hseed hraw hnext
  unique := by
    intro k₁ k₂ r₁ r₂ h₁ h₂ heq
    rw [hrecords] at h₁ h₂
    obtain ⟨hk₁, hr₁⟩ | ⟨hk₁, hold₁⟩ := getElem?_insert_eq_some_iff.1 h₁ <;>
      obtain ⟨hk₂, hr₂⟩ | ⟨hk₂, hold₂⟩ := getElem?_insert_eq_some_iff.1 h₂
    · rw [hk₁, hk₂]
    · exact absurd (hr₁ ▸ heq.symm) (hid k₂ r₂ hk₂ (hsub k₂ r₂ hold₂))
    · exact absurd (hr₂ ▸ heq) (hid k₁ r₁ hk₁ (hsub k₁ r₁ hold₁))
    · exact hs.unique k₁ k₂ r₁ r₂ (hsub k₁ r₁ hold₁) (hsub k₂ r₂ hold₂) heq

/-- An observation leaves the organism, its seed and its capacity, and the
counter does not go back. -/
theorem observe_frame {s s' : OrganismTrackedObjects} {o : Observation} {a : Observed}
    (h : s.observe o = .ok (a, s')) :
    s'.organismIdRaw = s.organismIdRaw ∧ s'.worldSeed = s.worldSeed ∧
      s'.capacity = s.capacity ∧ s.nextId.toNat ≤ s'.nextId.toNat := by
  obtain ⟨-, ⟨existing, -, -, rfl⟩ | ⟨-, nextId, records, evicted, hnext, -, -, rfl⟩⟩ :=
    observe_cases h
  · exact ⟨rfl, rfl, rfl, le_rfl⟩
  · exact ⟨rfl, rfl, rfl, by change _ ≤ nextId.toNat; omega⟩

/-- **An observation keeps an organism sound.** -/
theorem Sound.observe {s s' : OrganismTrackedObjects} (hs : s.Sound) {o : Observation}
    {a : Observed} (h : s.observe o = .ok (a, s')) : s'.Sound := by
  obtain ⟨hraw, hseed, hcap, hnext⟩ := observe_frame h
  obtain ⟨⟨hprov, hdesc, hworld⟩, ⟨existing, hget, -, rfl⟩ |
    ⟨hget, nextId, records, evicted, hsucc, hevict, -, rfl⟩⟩ := observe_cases h
  · have hrec := hs.record _ _ hget
    refine hs.insert hraw hseed hcap hnext rfl ?_ (fun _ _ => id) ?_ ?_
    · rw [size_insert_of_mem (mem_iff_exists_getElem?.2 ⟨existing, hget⟩)]
      exact hs.size_le
    · exact { hrec with descriptor := hdesc }
    · intro k r hk hr heq
      exact hk (hs.unique k _ r existing hr hget heq)
  · obtain ⟨hroom, hsub, -⟩ := hs.evict hevict
    refine hs.insert hraw hseed hcap hnext rfl ?_ hsub ?_ ?_
    · rw [ExtTreeMap.size_insert]
      split_ifs <;> omega
    · have hlt : s.nextId.toNat < nextId.toNat := by omega
      exact ⟨rfl, rfl, hprov, hworld, hdesc, hs.initial_le, hlt⟩
    · intro k r hk hr heq
      have hlt := (hs.record k r hr).lt_next
      rw [heq] at hlt
      exact lt_irrefl _ hlt

/-- The observed object is tracked under the id that was answered. -/
theorem observe_holds {s s' : OrganismTrackedObjects} {o : Observation} {a : Observed}
    (h : s.observe o = .ok (a, s')) : s'.Holds o.provenance.canonicalKey a.trackedObjectId := by
  obtain ⟨-, ⟨existing, -, rfl, rfl⟩ | ⟨-, nextId, records, evicted, -, -, rfl, rfl⟩⟩ :=
    observe_cases h <;>
    exact ⟨_, getElem?_insert_eq_some_iff.2 (.inl ⟨rfl, rfl⟩), rfl⟩

/-- A tracked object is answered with the id it holds. -/
theorem observe_of_holds {s s' : OrganismTrackedObjects} {o : Observation} {a : Observed}
    {id : TrackedObjectId} (h : s.observe o = .ok (a, s'))
    (hid : s.Holds o.provenance.canonicalKey id) : a.trackedObjectId = id := by
  obtain ⟨record, hrecord, rfl⟩ := hid
  obtain ⟨-, ⟨existing, hget, rfl, -⟩ | ⟨hget, -⟩⟩ := observe_cases h <;>
    rw [hget] at hrecord <;> cases hrecord
  rfl

/-- An object that was not tracked is answered with the counter. -/
theorem observe_of_not_holds {s s' : OrganismTrackedObjects} {o : Observation} {a : Observed}
    (h : s.observe o = .ok (a, s')) :
    s.Holds o.provenance.canonicalKey a.trackedObjectId ∨ a.trackedObjectId.raw = s.nextId := by
  obtain ⟨-, ⟨existing, hget, rfl, -⟩ | ⟨-, nextId, records, evicted, -, -, rfl, -⟩⟩ :=
    observe_cases h
  · exact .inl ⟨existing, hget, rfl⟩
  · exact .inr rfl

/-- A tracked object stays tracked under its id unless that id is answered as evicted. -/
theorem Sound.observe_keeps {s s' : OrganismTrackedObjects} (hs : s.Sound) {o : Observation}
    {a : Observed} {k : PhysicalTrackingKey} {id : TrackedObjectId}
    (h : s.observe o = .ok (a, s')) (hid : s.Holds k id) :
    s'.Holds k id ∨ a.evicted = some id := by
  obtain ⟨record, hrecord, rfl⟩ := hid
  obtain ⟨-, ⟨existing, hget, rfl, rfl⟩ | ⟨hget, nextId, records, evicted, -, hevict, rfl, rfl⟩⟩ :=
    observe_cases h
  · left
    by_cases hk : k = o.provenance.canonicalKey
    · subst hk
      rw [hget] at hrecord
      cases hrecord
      exact ⟨_, getElem?_insert_eq_some_iff.2 (.inl ⟨rfl, rfl⟩), rfl⟩
    · exact ⟨record, getElem?_insert_eq_some_iff.2 (.inr ⟨hk, hrecord⟩), rfl⟩
  · have hk : k ≠ o.provenance.canonicalKey := by
      rintro rfl
      rw [hget] at hrecord
      cases hrecord
    obtain hkept | hgone := (hs.evict hevict).2.2 k record hrecord
    · exact .inl ⟨record, getElem?_insert_eq_some_iff.2 (.inr ⟨hk, hkept⟩), rfl⟩
    · exact .inr hgone

/-- Only the observed object comes to hold an id it did not hold. -/
theorem Sound.holds_of_observe {s s' : OrganismTrackedObjects} (hs : s.Sound) {o : Observation}
    {a : Observed} {k : PhysicalTrackingKey} {id : TrackedObjectId}
    (h : s.observe o = .ok (a, s')) (hid : s'.Holds k id) :
    s.Holds k id ∨ k = o.provenance.canonicalKey ∧ id = a.trackedObjectId := by
  obtain ⟨record, hrecord, rfl⟩ := hid
  obtain ⟨-, ⟨existing, hget, rfl, rfl⟩ | ⟨hget, nextId, records, evicted, -, hevict, rfl, rfl⟩⟩ :=
    observe_cases h <;> obtain ⟨rfl, rfl⟩ | ⟨-, hold⟩ := getElem?_insert_eq_some_iff.1 hrecord
  · exact .inr ⟨rfl, rfl⟩
  · exact .inl ⟨record, hold, rfl⟩
  · exact .inr ⟨rfl, rfl⟩
  · exact .inl ⟨record, (hs.evict hevict).2.1 k record hold, rfl⟩

/-- A held id is below the counter and not below the initial id. -/
theorem Sound.holds_bounds {s : OrganismTrackedObjects} (hs : s.Sound) {k : PhysicalTrackingKey}
    {id : TrackedObjectId} (h : s.Holds k id) :
    (initialTrackedObjectId s.worldSeed s.organismIdRaw).toNat ≤ id.raw.toNat ∧
      id.raw.toNat < s.nextId.toNat := by
  obtain ⟨record, hrecord, rfl⟩ := h
  have hrec := hs.record k record hrecord
  exact ⟨hrec.initial_le, hrec.lt_next⟩

/-- No two keys hold one id, and no key holds two. -/
theorem Sound.holds_unique {s : OrganismTrackedObjects} (hs : s.Sound)
    {k k' : PhysicalTrackingKey} {id : TrackedObjectId} (h : s.Holds k id) (h' : s.Holds k' id) :
    k = k' := by
  obtain ⟨record, hrecord, rfl⟩ := h
  obtain ⟨record', hrecord', heq⟩ := h'
  exact hs.unique k k' record record' hrecord hrecord' heq.symm

/-- An organism without records is sound. -/
theorem sound_new {raw seed : UInt64} {capacity : UInt32}
    (h : TrackedObjectRegistrySaveState.capacityInRange capacity) :
    (new raw seed capacity).Sound where
  capacity := h
  size_le := Nat.zero_le _
  initial_le := le_rfl
  record := by
    intro k record hrecord
    simp [new] at hrecord
  unique := by
    intro k k' record record' hrecord
    simp [new] at hrecord

/-- The digest of finite values succeeds. -/
theorem writeF32_foldlM_ok {l : List F32} (hl : ∀ v ∈ l, v.isFinite = true)
    (d : CanonicalDigestBuilder) : ∃ d', l.foldlM CanonicalDigestBuilder.writeF32 d = .ok d' := by
  induction l generalizing d with
  | nil => exact ⟨d, rfl⟩
  | cons v l ih =>
    rw [List.forall_mem_cons] at hl
    obtain ⟨d', hd'⟩ : ∃ d', d.writeF32 v = .ok d' := by
      unfold CanonicalDigestBuilder.writeF32
      rw [if_pos hl.1]
      exact ⟨_, rfl⟩
    rw [List.foldlM_cons, hd']
    exact ih hl.2 d'

/-- Records with valid descriptors are digested. -/
theorem writeRecord_foldlM_ok {l : List (PhysicalTrackingKey × TrackedObjectRecord)}
    (hl : ∀ e ∈ l, e.2.stablePhysicalDescriptor.validateContract = .ok ())
    (d : CanonicalDigestBuilder) : ∃ d', l.foldlM writeRecord d = .ok d' := by
  induction l generalizing d with
  | nil => exact ⟨d, rfl⟩
  | cons e l ih =>
    rw [List.forall_mem_cons] at hl
    obtain ⟨d', hd'⟩ : ∃ d', writeRecord d e = .ok d' :=
      writeF32_foldlM_ok (StablePhysicalDescriptor.isFinite_of_valid hl.1) _
    rw [List.foldlM_cons, hd']
    exact ih hl.2 d'

/-- A sound organism has a digest. -/
theorem Sound.canonicalDigest_ok {s : OrganismTrackedObjects} (hs : s.Sound) :
    ∃ d, s.canonicalDigest = .ok d := by
  have hvalid : ∀ e ∈ s.recordsByKey.toList,
      e.2.stablePhysicalDescriptor.validateContract = .ok () := fun e he =>
    (hs.record e.1 e.2 (ExtTreeMap.mem_toList_iff_getElem?_eq_some.1 he)).descriptor
  dsimp only [canonicalDigest]
  generalize CanonicalDigestBuilder.writeSequenceLen _ _ = d₀
  obtain ⟨d, hd⟩ := writeRecord_foldlM_ok hvalid d₀
  rw [hd]
  exact ⟨_, rfl⟩

/-- An observation of a sound organism does not panic. -/
theorem Sound.observe_ne_panic {s : OrganismTrackedObjects} (hs : s.Sound) (o : Observation) :
    s.observe o ≠ .error .panic := by
  obtain ⟨x, hevict⟩ := hs.evict_ok
  intro h
  simp only [OrganismTrackedObjects.observe, refusal_bind_eq_error_iff, checked_ne_panic,
    false_or] at h
  obtain ⟨-, -, -, -, -, -, h⟩ := h
  split at h
  · simp [refusal_bind_eq_error_iff, checked_ne_panic] at h
  · simp [refusal_bind_eq_error_iff, checked_ne_panic, hevict] at h

/-- Nor do the observations of a batch. -/
theorem Sound.observeAll_ne_panic {s : OrganismTrackedObjects} (hs : s.Sound)
    (observations : List Observation) : s.observeAll observations ≠ .error .panic := by
  induction observations generalizing s with
  | nil => simp [observeAll]
  | cons o rest ih =>
    intro h
    rw [observeAll, refusal_bind_eq_error_iff] at h
    obtain h | ⟨⟨a, s'⟩, ha, h⟩ := h
    · exact hs.observe_ne_panic o h
    · simp only [refusal_bind_eq_error_iff, reduceCtorEq, and_false, exists_false,
        or_false] at h
      exact ih (hs.observe ha) h

end OrganismTrackedObjects

end ALife
