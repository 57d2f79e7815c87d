/-
# The replay codec loses nothing

A valid journal holds rows (`rows_of_validate`) and decodes to the ring of its
events and rows (`decodePhysicalReplay_of_rows`).  What the encoder returns is a
valid journal of the ring's own rows, and what the decoder returns encodes back.
-/

import ALife.Replay.Rows

namespace ALife

open Machine

/-! ### Events in a ring -/

theorem F32.feq_refl {x : F32} (h : x.isFinite = true) : F32.feq x x = true := by
  unfold F32.isFinite at h
  unfold F32.feq F32.isNan
  simp only [decide_eq_true_eq] at h
  simp
  omega

/-- A row that decodes equals itself: its lanes are finite. -/
theorem GpuReplayEventRecord.eqv_refl_of_decodeEvent {row : GpuReplayEventRecord}
    {e : SleepReplayEvent} (h : decodeEvent row = .ok e) : row.eqv row = true := by
  unfold decodeEvent at h
  obtain ⟨frame, hframe, -⟩ := contract_bind_eq_ok_iff.1 h
  have hlanes := NeuromodulatoryFrame.lanes_of_tryNew hframe
  have hfinite := frame.finite
  rw [hlanes, List.all_eq_true] at hfinite
  have hall : (row.lanes.toList.zip row.lanes.toList).all (fun v => F32.feq v.1 v.2) = true := by
    rw [List.all_eq_true]
    intro v hv
    rw [List.zip_eq_zipWith, List.zipWith_self] at hv
    obtain ⟨lane, hlane, rfl⟩ := List.mem_map.1 hv
    exact F32.feq_refl (hfinite lane hlane)
  simp [eqv, hall]

/-- The events of a log, in the ring. -/
def ringEvents (capacity : ℕ) (order : List ℕ) (events : List SleepReplayEvent) :
    List GpuReplayEventRecord :=
  scatter (List.replicate capacity zeroEvent) (order.zip (events.map eventRow))

section Events

variable {capacity count : ℕ} {order : List ℕ} {events : List SleepReplayEvent}

@[simp] theorem length_ringEvents : (ringEvents capacity order events).length = capacity := by
  simp [ringEvents]

/-- The encoder reads the events from the ring. -/
theorem decode_ringEvents (hshape : RingShape capacity count order)
    (hlength : events.length = count) :
    (gather zeroEvent (ringEvents capacity order events) order).mapM decodeEvent = .ok events := by
  have hgather : gather zeroEvent (ringEvents capacity order events) order =
      events.map eventRow :=
    gather_scatter zeroEvent hshape.nodup (by simpa using hshape.lt)
      (by rw [hshape.length, List.length_map, hlength])
  rw [hgather, List.mapM_map]
  refine (contract_mapM_ok fun e _ => decodeEvent_eventRow e).trans ?_
  rw [List.map_id']

/-- A slot of the ring beyond the count is blank. -/
theorem getElem?_ringEvents_blank (hshape : RingShape capacity count order)
    (hlength : events.length = count) {slot : ℕ} (hslot : slot < capacity)
    (hblank : count ≤ slot) : (ringEvents capacity order events)[slot]? = some zeroEvent := by
  have hfst : (order.zip (events.map eventRow)).map Prod.fst = order :=
    List.map_fst_zip (by rw [hshape.length, List.length_map, hlength])
  have hnot : slot ∉ (order.zip (events.map eventRow)).map Prod.fst := by
    rw [hfst, hshape.mem_iff slot hslot]
    omega
  rw [ringEvents, getElem?_scatter_of_notMem hnot, List.getElem?_replicate, if_pos hslot]

theorem ringEvents_drop (hshape : RingShape capacity count order)
    (hlength : events.length = count) :
    ((ringEvents capacity order events).drop count).all eventIsZero = true := by
  rw [List.all_eq_true]
  intro e he
  obtain ⟨n, hn, rfl⟩ := List.getElem_of_mem he
  rw [List.length_drop, length_ringEvents] at hn
  have hat := getElem?_ringEvents_blank hshape hlength (show count + n < capacity by omega)
    (Nat.le_add_right count n)
  rw [List.getElem_drop, (List.getElem_eq_iff _).2 hat]
  decide

/-- A ring the encoder accepts is the ring of its events, up to the signs of
zeros in blank rows. -/
theorem eqv_ringEvents (hshape : RingShape capacity count order)
    {rows : List GpuReplayEventRecord} (hrows : rows.length = capacity)
    (hevents : (gather zeroEvent rows order).mapM decodeEvent = .ok events)
    (hblank : (rows.drop count).all eventIsZero = true) :
    List.Forall₂ (fun x y => x.eqv y = true) rows (ringEvents capacity order events) := by
  have hmap : events.map eventRow = gather zeroEvent rows order :=
    map_of_contract_mapM (fun _ _ => eventRow_of_decodeEvent) hevents
  have hlength : events.length = count := by
    rw [← List.length_map (f := eventRow), hmap, length_gather, hshape.length]
  refine List.forall₂_iff_get.2 ⟨by simp [hrows], fun slot h₁ h₂ => ?_⟩
  rw [List.get_eq_getElem, List.get_eq_getElem]
  have hlt : slot < capacity := hrows ▸ h₁
  have hvalue : rows.getD slot zeroEvent = rows[slot] := by
    rw [List.getD_eq_getElem?_getD, List.getElem?_eq_getElem h₁, Option.getD_some]
  by_cases hslot : slot < count
  · have hmem : slot ∈ order := (hshape.mem_iff slot hlt).2 hslot
    have hwrites : order.zip (gather zeroEvent rows order) =
        order.map fun i => (i, rows.getD i zeroEvent) := by
      rw [gather, List.zip_map_right, List.zip_eq_zipWith, List.zipWith_self, List.map_map]
      rfl
    have hwrite : (slot, rows[slot]) ∈ order.zip (gather zeroEvent rows order) := by
      rw [hwrites]
      exact List.mem_map.2 ⟨slot, hmem, by rw [hvalue]⟩
    have hfst : (order.zip (gather zeroEvent rows order)).map Prod.fst = order :=
      List.map_fst_zip (by rw [length_gather])
    have hat : (ringEvents capacity order events)[slot]? = some rows[slot] := by
      rw [ringEvents, hmap]
      exact getElem?_scatter_of_mem (by rw [hfst]; exact hshape.nodup) (by simpa using hlt) hwrite
    obtain ⟨e, he⟩ := ok_of_contract_mapM hevents rows[slot]
      (List.mem_map.2 ⟨slot, hmem, hvalue⟩)
    rw [(List.getElem_eq_iff _).2 hat]
    exact GpuReplayEventRecord.eqv_refl_of_decodeEvent he
  · have hat := getElem?_ringEvents_blank hshape hlength hlt (Nat.le_of_not_lt hslot)
    have hmem : rows[slot] ∈ rows.drop count := by
      rw [List.mem_drop_iff_getElem]
      exact ⟨slot - count, by omega, by congr 1; omega⟩
    rw [(List.getElem_eq_iff _).2 hat]
    exact List.all_eq_true.1 hblank _ hmem

end Events

/-! ### Journals -/

/-- A journal holds the events and rows of a log that fits its ring. -/
structure PortableReplayJournalV1.Holds (j : PortableReplayJournalV1) (rows : List SynapseRow) :
    Prop where
  capacity_pos : 0 < j.eventCapacity.toNat
  small : j.eventCapacity.toNat ≤ 2 ^ 16
  count_le : j.eventCount.toNat ≤ j.eventCapacity.toNat
  cursor_lt : j.cursor.toNat < j.eventCapacity.toNat
  events_length : j.events.length = j.eventCount.toNat
  events_valid : ∀ e ∈ j.events, e.validate = .ok ()
  fits : ∀ r ∈ rows, r.Fits j.eventCount.toNat
  rows_le : rows.length ≤ 64
  spans : j.synapseSpans = journalSpans j.eventCount 0 rows
  samples : j.eligibilitySamples = journalSamples rows
  sampleCapacity : j.sampleCapacity.toNat = rows.length * j.eventCapacity.toNat
  ascending : (rows.map fun r => r.localSynapseId.toNat).IsChain (· < ·)

theorem map_id_journalSpans (eventCount : UInt32) (start : ℕ) (rows : List SynapseRow) :
    ((journalSpans eventCount start rows).map fun s => s.localSynapseId.toNat) =
      rows.map fun r => r.localSynapseId.toNat := by
  induction rows generalizing start with
  | nil => rfl
  | cons r rows ih => rw [journalSpans, List.map_cons, List.map_cons, ih]

@[simp] theorem length_ringSpans (capacity : ℕ) (eventCount : UInt32) (index : ℕ)
    (rows : List SynapseRow) : (ringSpans capacity eventCount index rows).length = rows.length := by
  induction rows generalizing index with
  | nil => rfl
  | cons r rows ih => rw [ringSpans, List.length_cons, List.length_cons, ih]

/-- Rows with the spans and samples of a journal's rows are its rows too. -/
theorem PortableReplayJournalV1.Holds.of_eq {j : PortableReplayJournalV1}
    {rows rows' : List SynapseRow}
    (h : j.Holds rows) (hfits : ∀ r ∈ rows', r.Fits j.eventCount.toNat)
    (hspans : j.synapseSpans = journalSpans j.eventCount 0 rows')
    (hsamples : j.eligibilitySamples = journalSamples rows') : j.Holds rows' := by
  have hids : rows'.map (fun r => r.localSynapseId.toNat) =
      rows.map fun r => r.localSynapseId.toNat := by
    rw [← map_id_journalSpans j.eventCount 0 rows', ← hspans, h.spans, map_id_journalSpans]
  have hlength : rows'.length = rows.length := by
    simpa using congrArg List.length hids
  exact
    { h with
      fits := hfits
      rows_le := hlength ▸ h.rows_le
      spans := hspans
      samples := hsamples
      sampleCapacity := hlength ▸ h.sampleCapacity
      ascending := hids ▸ h.ascending }

/-- What `validate` checks besides the log: the schema and the digest. -/
theorem rows_of_validate {j : PortableReplayJournalV1} (h : j.validate = .ok ()) :
    (∃ rows, j.Holds rows) ∧ j.schemaVersion = gpuBrainPortableAssetSchemaVersion ∧
      j.recomputeCanonicalDigest = .ok j.canonicalDigest := by
  unfold PortableReplayJournalV1.validate at h
  obtain ⟨spanCount, hspanCount, h⟩ := contract_bind_eq_ok_iff.1 h
  obtain ⟨sampleCapacity, hsampleCapacity, h⟩ := contract_bind_eq_ok_iff.1 h
  obtain ⟨liveSamples, hliveSamples, h⟩ := contract_bind_eq_ok_iff.1 h
  obtain ⟨_, hheader, h⟩ := contract_bind_eq_ok_iff.1 h
  obtain ⟨stop, hspans, h⟩ := contract_bind_eq_ok_iff.1 h
  obtain ⟨_, -, hdigest⟩ := contract_bind_eq_ok_iff.1 h
  rw [PortableReplayJournalV1.validateHeader, reject_eq_ok_iff] at hheader
  push Not at hheader
  obtain ⟨hschema, -, -, -, hpositive, hsmall, hcount, hcursor, -, heventsLength, -, hmax,
    hcapacity, hlive, -, hevents, hascending⟩ := hheader
  rw [tryU32_eq_ok_iff] at hspanCount
  rw [orMismatch_eq_ok_iff, checkedMul32_eq_some_iff] at hsampleCapacity hliveSamples
  obtain ⟨rows, hfits, hlength, hrows, -, hsamples⟩ := rows_of_validateSpans hspans
  rw [UInt32.toNat_zero] at hrows
  rw [UInt32.toNat_zero, List.drop_zero, List.take_of_length_le] at hsamples
  swap
  · rw [hlive, hliveSamples, hspanCount, hlength, Nat.mul_comm]
  refine ⟨⟨rows, ?_⟩, hschema, ?_⟩
  · constructor
    · exact Nat.pos_of_ne_zero fun hzero => hpositive (UInt32.toNat_inj.1 hzero)
    · exact UInt32.le_iff_toNat_le.1 (UInt32.not_lt.1 hsmall)
    · exact UInt32.le_iff_toNat_le.1 (UInt32.not_lt.1 hcount)
    · exact UInt32.lt_iff_toNat_lt.1 (UInt32.not_le.1 hcursor)
    · exact heventsLength
    · exact hevents
    · exact hfits
    · rw [hlength, ← hspanCount]
      exact UInt32.le_iff_toNat_le.1 (UInt32.not_lt.1 hmax)
    · exact hrows
    · exact hsamples
    · rw [hcapacity, hsampleCapacity, hspanCount, hlength, Nat.mul_comm]
    · rw [← map_id_journalSpans j.eventCount 0 rows, ← hrows]
      exact hascending
  · unfold PortableReplayJournalV1.validateDigest at hdigest
    obtain ⟨digest, hdigest, hsame⟩ := contract_bind_eq_ok_iff.1 hdigest
    rw [reject_eq_ok_iff, not_not] at hsame
    rw [hdigest, hsame]

section Holds

variable {j : PortableReplayJournalV1} {rows : List SynapseRow}

/-- The order of a journal's events in its ring. -/
def PortableReplayJournalV1.order (j : PortableReplayJournalV1) : List ℕ :=
  ringOrder j.eventCapacity.toNat
    (oldestSlot j.eventCapacity.toNat j.eventCount.toNat j.cursor.toNat) j.eventCount.toNat

theorem PortableReplayJournalV1.Holds.shape (h : j.Holds rows) :
    RingShape j.eventCapacity.toNat j.eventCount.toNat j.order :=
  ringShape_ringOrder h.capacity_pos h.small h.count_le

theorem PortableReplayJournalV1.Holds.ring_lt (h : j.Holds rows) :
    rows.length * j.eventCapacity.toNat < 2 ^ 32 :=
  (Nat.mul_le_mul h.rows_le h.small).trans_lt (by norm_num)

theorem PortableReplayJournalV1.Holds.journal_lt (h : j.Holds rows) :
    rows.length * j.eventCount.toNat < 2 ^ 32 :=
  (Nat.mul_le_mul_left _ h.count_le).trans_lt h.ring_lt

/-- The ring a journal decodes to. -/
def ringOf (j : PortableReplayJournalV1) (rows : List SynapseRow) : PhysicalReplayParts where
  events := ringEvents j.eventCapacity.toNat j.order j.events
  spans := ringSpans j.eventCapacity.toNat j.eventCount 0 rows
  samples := ringSamples j.eventCapacity.toNat j.order rows

/-- A valid journal decodes to the ring of its events and rows. -/
theorem decodePhysicalReplay_of_rows (hvalid : j.validate = .ok ()) (h : j.Holds rows) :
    decodePhysicalReplay j = .ok (ringOf j rows) := by
  have hevents : j.events.mapM encodeEvent = .ok (j.events.map eventRow) :=
    contract_mapM_ok fun e he => encodeEvent_of_validate (h.events_valid e he)
  have hspans : decodeSpans j j.eventCapacity.toNat j.eventCount.toNat j.order 0
      ([] ++ List.replicate (rows.length * j.eventCapacity.toNat) 0)
      (journalSpans j.eventCount 0 rows) =
      .ok (ringSpans j.eventCapacity.toNat j.eventCount 0 rows,
        [] ++ ringSamples j.eventCapacity.toNat j.order rows) :=
    decodeSpans_rows h.shape h.fits (by simpa using h.ring_lt) (by simpa using h.journal_lt)
      (Nat.zero_le _) h.samples (Nat.zero_mul _).symm
  rw [List.nil_append, List.nil_append, ← h.sampleCapacity, ← h.spans] at hspans
  unfold decodePhysicalReplay
  refine contract_bind_eq_ok_iff.2 ⟨(), hvalid, ?_⟩
  refine contract_bind_eq_ok_iff.2 ⟨j.events.map eventRow, hevents, ?_⟩
  exact contract_bind_eq_ok_iff.2 ⟨_, hspans, rfl⟩

/-- The ring of a journal encodes to the journal. -/
theorem encodePortableReplay_ringOf (hvalid : j.validate = .ok ()) (h : j.Holds rows)
    (hschema : j.schemaVersion = gpuBrainPortableAssetSchemaVersion)
    (hdigest : j.recomputeCanonicalDigest = .ok j.canonicalDigest) :
    encodePortableReplay j.phenotypeHash j.replayCapturePlanDigest j.generation j.cursor
      j.eventCount (ringOf j rows) = .ok j := by
  have hshape := h.shape
  have hlength : (ringOf j rows).events.length = j.eventCapacity.toNat := length_ringEvents
  have hguard : reject (j.eventCapacity.toNat = 0 ∨ j.eventCapacity.toNat < j.eventCount.toNat
      ∨ j.eventCapacity.toNat ≤ j.cursor.toNat ∨ (ringOf j rows).samples.length ≠
        min (j.eventCapacity.toNat * (ringOf j rows).spans.length) (2 ^ 64 - 1))
      .consolidationGenerationMismatch = .ok () := by
    have hpositive := h.capacity_pos
    have hcount := h.count_le
    have hcursor := h.cursor_lt
    have hsmall := h.ring_lt
    rw [Nat.mul_comm] at hsmall
    rw [reject_eq_ok_iff, ringOf, length_ringSamples, length_ringSpans, Nat.mul_comm rows.length]
    omega
  have hspans : encodeSpans (ringOf j rows).samples j.eventCapacity.toNat j.eventCount j.order 0 0
      none (ringOf j rows).spans = .ok (j.synapseSpans, j.eligibilitySamples) := by
    rw [h.spans, h.samples]
    refine encodeSpans_rows hshape h.fits (by simpa using h.ring_lt) (by simpa using h.journal_lt)
      h.ascending ?_
    rw [Nat.zero_mul, List.drop_zero, ringOf]
  have hcapacity : tryU32 j.eventCapacity.toNat = .ok j.eventCapacity := tryU32_eq_ok_iff.2 rfl
  have hsamples : tryU32 (ringOf j rows).samples.length = .ok j.sampleCapacity := by
    rw [tryU32_eq_ok_iff, h.sampleCapacity, ringOf, length_ringSamples]
  unfold encodePortableReplay
  rw [hlength]
  refine contract_bind_eq_ok_iff.2 ⟨(), hguard, ?_⟩
  refine contract_bind_eq_ok_iff.2 ⟨j.events, decode_ringEvents hshape h.events_length, ?_⟩
  refine contract_bind_eq_ok_iff.2 ⟨(), ?_, ?_⟩
  · rw [reject_eq_ok_iff, Bool.not_eq_false]
    exact ringEvents_drop hshape h.events_length
  refine contract_bind_eq_ok_iff.2 ⟨(j.synapseSpans, j.eligibilitySamples), hspans, ?_⟩
  refine contract_bind_eq_ok_iff.2 ⟨j.eventCapacity, hcapacity, ?_⟩
  refine contract_bind_eq_ok_iff.2 ⟨j.sampleCapacity, hsamples, ?_⟩
  refine contract_bind_eq_ok_iff.2 ⟨j.canonicalDigest, ?_, ?_⟩
  · rw [← hschema]
    exact hdigest
  · rw [← hschema]
    exact contract_bind_eq_ok_iff.2 ⟨(), hvalid, rfl⟩

end Holds

/-! ### The round trips -/

/-- What the encoder accepts is a valid journal of the ring's own log. -/
theorem eqv_of_encodePortableReplay {phenotypeHash : PhenotypeHash}
    {replayCapturePlanDigest : Digest256} {generation : UInt64} {cursor eventCount : UInt32}
    {physical : PhysicalReplayParts} {j : PortableReplayJournalV1}
    (h : encodePortableReplay phenotypeHash replayCapturePlanDigest generation cursor eventCount
      physical = .ok j) :
    j.validate = .ok () ∧ ∃ rows, j.Holds rows ∧ physical.Eqv (ringOf j rows) := by
  unfold encodePortableReplay at h
  obtain ⟨_, hring, h⟩ := contract_bind_eq_ok_iff.1 h
  obtain ⟨events, hevents, h⟩ := contract_bind_eq_ok_iff.1 h
  obtain ⟨_, hblank, h⟩ := contract_bind_eq_ok_iff.1 h
  obtain ⟨⟨compactSpans, compactSamples⟩, hspans, h⟩ := contract_bind_eq_ok_iff.1 h
  obtain ⟨eventCapacity, hcapacity, h⟩ := contract_bind_eq_ok_iff.1 h
  obtain ⟨sampleCapacity, hsamples, h⟩ := contract_bind_eq_ok_iff.1 h
  obtain ⟨canonicalDigest, -, h⟩ := contract_bind_eq_ok_iff.1 h
  obtain ⟨_, hvalid, h⟩ := contract_bind_eq_ok_iff.1 h
  cases h
  refine ⟨hvalid, ?_⟩
  obtain ⟨⟨rows, hrows⟩, -⟩ := rows_of_validate hvalid
  rw [tryU32_eq_ok_iff] at hcapacity hsamples
  rw [reject_eq_ok_iff] at hring hblank
  have hshape := hrows.shape
  have hcount := hrows.count_le
  have hsmall := sampleCapacity.toNat_lt
  unfold PortableReplayJournalV1.order at hshape
  dsimp only at hshape
  rw [hcapacity] at hshape
  have hlength : physical.samples.length =
      (0 + physical.spans.length) * physical.events.length := by
    push Not at hring
    rw [Nat.zero_add, Nat.mul_comm]
    omega
  obtain ⟨ownRows, hfits, -, hringSpans, hringSamples, hjournalSpans, hjournalSamples⟩ :=
    rows_of_encodeSpans hshape hlength hspans
  refine ⟨ownRows, hrows.of_eq hfits hjournalSpans hjournalSamples, ?_, ?_, ?_⟩
  · unfold ringOf PortableReplayJournalV1.order
    dsimp only
    rw [hcapacity]
    exact eqv_ringEvents hshape rfl hevents (by simpa using hblank)
  · unfold ringOf
    dsimp only
    rw [hcapacity]
    exact hringSpans
  · unfold ringOf PortableReplayJournalV1.order
    dsimp only
    rw [hcapacity]
    simpa using hringSamples

/-- A ring that encodes comes back from its journal, and a valid journal from
its ring. -/
theorem replay_codec_roundTrip :
    (∀ (phenotypeHash : PhenotypeHash) (replayCapturePlanDigest : Digest256)
        (generation : UInt64) (cursor eventCount : UInt32) (physical : PhysicalReplayParts)
        (j : PortableReplayJournalV1),
      encodePortableReplay phenotypeHash replayCapturePlanDigest generation cursor eventCount
          physical = .ok j →
        ∃ decoded, decodePhysicalReplay j = .ok decoded ∧ physical.Eqv decoded) ∧
    ∀ j : PortableReplayJournalV1, j.validate = .ok () →
      ∃ decoded, decodePhysicalReplay j = .ok decoded ∧
        encodePortableReplay j.phenotypeHash j.replayCapturePlanDigest j.generation j.cursor
          j.eventCount decoded = .ok j := by
  refine ⟨fun _ _ _ _ _ physical j h => ?_, fun j hvalid => ?_⟩
  · obtain ⟨hvalid, rows, hrows, heqv⟩ := eqv_of_encodePortableReplay h
    exact ⟨ringOf j rows, decodePhysicalReplay_of_rows hvalid hrows, heqv⟩
  · obtain ⟨⟨rows, hrows⟩, hschema, hdigest⟩ := rows_of_validate hvalid
    exact ⟨ringOf j rows, decodePhysicalReplay_of_rows hvalid hrows,
      encodePortableReplay_ringOf hvalid hrows hschema hdigest⟩

/-- A full ring of two events whose oldest lies in slot one. -/
def wrappedRing : PhysicalReplayParts where
  events :=
    [{ zeroEvent with sequenceId := ⟨2, 0⟩, frameDigest := ⟨⟨5, 0⟩, ⟨0, 0⟩, ⟨0, 0⟩, ⟨0, 9⟩⟩
                      candidateFeatureDigest := ⟨⟨7, 0⟩, ⟨0, 0⟩⟩, actionId := 3, family := 6 },
     { zeroEvent with sequenceId := ⟨1, 0⟩, frameDigest := ⟨⟨4, 0⟩, ⟨0, 0⟩, ⟨0, 0⟩, ⟨0, 0⟩⟩
                      candidateFeatureDigest := ⟨⟨0, 0⟩, ⟨0, 8⟩⟩, actionId := 4, pain := .one }]
  spans := [⟨11, 0, 2, 0⟩]
  samples := [packReplayEligibilitySample 0 20, packReplayEligibilitySample 1 (-30)]

theorem replay_codec_roundTrip_wrappedRing :
    ∃ j decoded, encodePortableReplay ⟨⟨1, 0, 0, 0⟩⟩ ⟨2, 0, 0, 0⟩ 1 1 2 wrappedRing = .ok j ∧
      decodePhysicalReplay j = .ok decoded ∧ wrappedRing.Eqv decoded ∧
      encodePortableReplay j.phenotypeHash j.replayCapturePlanDigest j.generation j.cursor
        j.eventCount decoded = .ok j := by
  have haccepts : (encodePortableReplay ⟨⟨1, 0, 0, 0⟩⟩ ⟨2, 0, 0, 0⟩ 1 1 2
      wrappedRing).toOption.isSome = true := by
    decide +kernel
  obtain ⟨j, hj⟩ := Option.isSome_iff_exists.1 haccepts
  have hencode : encodePortableReplay ⟨⟨1, 0, 0, 0⟩⟩ ⟨2, 0, 0, 0⟩ 1 1 2 wrappedRing = .ok j := by
    revert hj
    cases encodePortableReplay ⟨⟨1, 0, 0, 0⟩⟩ ⟨2, 0, 0, 0⟩ 1 1 2 wrappedRing <;>
      simp [Except.toOption]
  obtain ⟨decoded, hdecoded, heqv⟩ := replay_codec_roundTrip.1 _ _ _ _ _ _ j hencode
  obtain ⟨again, hagain, hback⟩ := replay_codec_roundTrip.2 j
    (eqv_of_encodePortableReplay hencode).1
  obtain rfl : again = decoded := by
    rw [hdecoded] at hagain
    exact (Except.ok.inj hagain).symm
  exact ⟨j, again, hencode, hdecoded, heqv, hback⟩

end ALife
