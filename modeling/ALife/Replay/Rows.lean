/-
# The rows of a replay log

Both sides of the codec hold the same log: events, oldest first, and for each
captured synapse one eligibility per event (`SynapseRow`).  `RingShape` says how
the log lies in a ring.  Four statements tie the loops of the codec to it: an
encoded ring and a valid journal each hold some rows (`rows_of_encodeSpans`,
`rows_of_validateSpans`), and from rows that fit the decoder writes the ring and
the encoder reads the journal (`decodeSpans_rows`, `encodeSpans_rows`).
-/

import ALife.Replay.Codec

namespace ALife

open Machine

/-! ### Event rows -/

theorem eventRow_of_decodeEvent {row : GpuReplayEventRecord} {e : SleepReplayEvent}
    (h : decodeEvent row = .ok e) : eventRow e = row := by
  unfold decodeEvent at h
  obtain ⟨frame, hframe, h⟩ := contract_bind_eq_ok_iff.1 h
  obtain ⟨_, hreserved, h⟩ := contract_bind_eq_ok_iff.1 h
  obtain ⟨raw, hraw, h⟩ := contract_bind_eq_ok_iff.1 h
  obtain ⟨family, hfamily, h⟩ := contract_bind_eq_ok_iff.1 h
  cases h
  have hlanes := NeuromodulatoryFrame.lanes_of_tryNew hframe
  rw [reject_eq_ok_iff, not_not] at hreserved
  have hbyte : raw.toUInt32 = row.family := by
    unfold tryU8 at hraw
    split_ifs at hraw with hlt
    cases hraw
    rw [← UInt32.toNat_inj, UInt8.toNat_toUInt32, UInt32.toNat_toUInt8]
    omega
  have hrawFamily := CandidateActionFamily.raw_of_tryFromRaw hfamily
  obtain ⟨sequenceId, originatingTick, frameDigest, featureDigest⟩ := row
  dsimp only [GpuReplayEventRecord.lanes] at hlanes hreserved hbyte
  simp [eventRow, NeuromodulatorSample.fromFrame, hlanes, hrawFamily, hbyte, hreserved, joinDigest4,
    splitDigest4, joinDigest2, splitDigest2]

theorem decodeEvent_eventRow (e : SleepReplayEvent) : decodeEvent (eventRow e) = .ok e := by
  obtain ⟨sequenceId, originatingTick, frameDigest, featureDigest, actionId, family,
    ⟨_, _, _, _, _, frame, rfl, rfl, rfl, rfl, rfl⟩⟩ := e
  have hframe : NeuromodulatoryFrame.tryNew frame.lanes = .ok frame := frame.tryNew_lanes
  have hraw : tryU8 family.raw.toUInt32 = .ok family.raw := by
    cases family <;> rfl
  have hfamily := CandidateActionFamily.tryFromRaw_raw family
  unfold decodeEvent eventRow GpuReplayEventRecord.lanes
  simp only [hframe, hraw, reject, ne_eq, not_true_eq_false, if_false]
  simp [bind, Except.bind, pure, Except.pure, hfamily, NeuromodulatorSample.fromFrame,
    joinDigest4, splitDigest4, joinDigest2, splitDigest2]

theorem encodeEvent_of_validate {e : SleepReplayEvent} (h : e.validate = .ok ()) :
    encodeEvent e = .ok (eventRow e) := by
  unfold SleepReplayEvent.validate at h
  rw [contract_seq_eq_ok_iff] at h
  rw [encodeEvent, h.1]
  rfl

/-! ### One row of samples -/

/-- How the log lies in a ring: distinct slots in range, one per event, the ones
below the count; at most `2 ^ 16` slots. -/
structure RingShape (capacity count : ℕ) (order : List ℕ) : Prop where
  nodup : order.Nodup
  lt : ∀ slot ∈ order, slot < capacity
  length : order.length = count
  mem_iff : ∀ slot < capacity, slot ∈ order ↔ slot < count
  fits : count ≤ capacity
  small : capacity ≤ 2 ^ 16

/-- The order of the codec has the shape. -/
theorem ringShape_ringOrder {capacity count cursor : ℕ} (hcap : 0 < capacity)
    (hsmall : capacity ≤ 2 ^ 16) (hcount : count ≤ capacity) :
    RingShape capacity count (ringOrder capacity (oldestSlot capacity count cursor) count) where
  nodup := nodup_ringOrder hcount
  lt _ h := lt_of_mem_ringOrder hcap h
  length := length_ringOrder ..
  mem_iff slot hslot := by
    refine mem_ringOrder_iff hcount hslot ?_
    unfold oldestSlot
    split_ifs with h
    · exact .inl h
    · exact .inr rfl
  fits := hcount
  small := hsmall

/-- A captured synapse and its eligibility at each event. -/
structure SynapseRow where
  localSynapseId : UInt32
  eligibilities : List Int16

/-- The samples of a row in a journal. -/
def SynapseRow.journalSamples (r : SynapseRow) : List ReplayEligibilitySample :=
  r.eligibilities.zipIdx.map fun q => ⟨q.2.toUInt16, q.1⟩

/-- The packed samples of a row, oldest first. -/
def SynapseRow.packed (r : SynapseRow) (order : List ℕ) : List UInt32 :=
  List.zipWith (fun slot q => packReplayEligibilitySample slot.toUInt16 q) order r.eligibilities

/-- The samples of a row in a ring. -/
def SynapseRow.ringSamples (r : SynapseRow) (capacity : ℕ) (order : List ℕ) : List UInt32 :=
  scatter (List.replicate capacity 0) (order.zip (r.packed order))

/-- A row has one eligibility for each event, none of them `i16::MIN`. -/
structure SynapseRow.Fits (r : SynapseRow) (count : ℕ) : Prop where
  length : r.eligibilities.length = count
  ne_min : ∀ q ∈ r.eligibilities, q ≠ Int16.minValue

section Row

variable {capacity count : ℕ} {order : List ℕ} {r : SynapseRow}

@[simp] theorem SynapseRow.length_ringSamples :
    (r.ringSamples capacity order).length = capacity := by
  simp [ringSamples]

theorem SynapseRow.Fits.length_journalSamples (h : r.Fits count) :
    r.journalSamples.length = count := by
  simp [journalSamples, h.length]

theorem SynapseRow.Fits.length_packed (h : r.Fits count)
    (hshape : RingShape capacity count order) : (r.packed order).length = count := by
  simp [packed, hshape.length, h.length]

theorem toNat_toUInt16_of_lt {n : ℕ} (h : n < 2 ^ 16) : n.toUInt16.toNat = n :=
  UInt16.toNat_ofNat_of_lt' h

theorem getElem_journalSamples {n : ℕ} (hn : n < r.journalSamples.length) :
    r.journalSamples[n] =
      ⟨n.toUInt16, r.eligibilities.get ⟨n, by simpa [SynapseRow.journalSamples] using hn⟩⟩ := by
  simp [SynapseRow.journalSamples]

/-- The decoder packs the samples of a journal row. -/
theorem decodeSample_row (hshape : RingShape capacity count order) (h : r.Fits count) :
    ((r.journalSamples.zipIdx).zip order).mapM decodeSample = .ok (r.packed order) := by
  have hlength := h.length_journalSamples
  unfold decodeSample
  refine contract_mapM_ite_eq_ok_iff.2 ⟨fun sample hsample => ?_, ?_⟩
  · obtain ⟨n, hn, rfl⟩ := List.getElem_of_mem hsample
    simp only [List.length_zip, List.length_zipIdx, lt_min_iff] at hn
    have hslot := hshape.lt _ (List.getElem_mem hn.2)
    have hmin := h.ne_min _ (List.getElem_mem (show n < r.eligibilities.length by
      rw [h.length, ← hlength]
      exact hn.1))
    have hfits := hshape.fits
    have hsmall := hshape.small
    rw [List.getElem_zip, List.getElem_zipIdx, getElem_journalSamples hn.1]
    simp only [Nat.zero_add, not_or, not_not]
    exact ⟨toNat_toUInt16_of_lt (by omega), hmin, by omega⟩
  · refine List.ext_getElem ?_ fun n h₁ h₂ => ?_
    · rw [h.length_packed hshape, List.length_map, List.length_zip, List.length_zipIdx, hlength,
        hshape.length, min_self]
    · simp [SynapseRow.packed, SynapseRow.journalSamples]

/-- What the ring holds at the slot of event `n`. -/
theorem getD_ringSamples (hshape : RingShape capacity count order) (h : r.Fits count) {n : ℕ}
    (hn : n < order.length) :
    (r.ringSamples capacity order).getD order[n] 0 =
      packReplayEligibilitySample order[n].toUInt16
        (r.eligibilities.get ⟨n, by rw [h.length, ← hshape.length]; exact hn⟩) := by
  have hgather := gather_scatter (0 : UInt32) (l := List.replicate capacity 0) hshape.nodup
    (fun i hi => by rw [List.length_replicate]; exact hshape.lt i hi)
    (by rw [h.length_packed hshape, hshape.length] : order.length = (r.packed order).length)
  have hat := congrArg (fun l => l[n]?) hgather
  simpa [gather, SynapseRow.packed, SynapseRow.ringSamples, hn, h.length, ← hshape.length]
    using hat

/-- A slot beyond the count is blank. -/
theorem getD_ringSamples_blank (hshape : RingShape capacity count order) (h : r.Fits count)
    {slot : ℕ} (hslot : slot < capacity) (hblank : count ≤ slot) :
    (r.ringSamples capacity order).getD slot 0 = 0 := by
  have hfst : (order.zip (r.packed order)).map Prod.fst = order :=
    List.map_fst_zip (by rw [h.length_packed hshape, hshape.length])
  have hnot : slot ∉ (order.zip (r.packed order)).map Prod.fst := by
    rw [hfst, hshape.mem_iff slot hslot]
    omega
  rw [SynapseRow.ringSamples, List.getD_eq_getElem?_getD, getElem?_scatter_of_notMem hnot]
  simp [hslot]

/-- The samples from `start` on, slot by slot. -/
theorem getD_take_drop {samples : List UInt32} {start slot : ℕ} (hslot : slot < capacity) :
    ((samples.drop start).take capacity).getD slot 0 = samples.getD (start + slot) 0 := by
  simp [List.getD_eq_getElem?_getD, hslot]

/-- The encoder reads the row that lies in the samples from `start` on. -/
theorem encodeSample_row (hshape : RingShape capacity count order) (h : r.Fits count)
    {samples : List UInt32} {start : ℕ}
    (hrow : (samples.drop start).take capacity = r.ringSamples capacity order) :
    order.zipIdx.mapM (encodeSample samples start) = .ok r.journalSamples ∧
      ¬∃ slot < capacity, count ≤ slot ∧ samples.getD (start + slot) 0 ≠ 0 := by
  have hread {n : ℕ} (hn : n < order.length) : samples.getD (start + order[n]) 0 =
      packReplayEligibilitySample order[n].toUInt16
        (r.eligibilities.get ⟨n, by rw [h.length, ← hshape.length]; exact hn⟩) := by
    rw [← getD_take_drop (hshape.lt _ (List.getElem_mem hn)), hrow]
    exact getD_ringSamples hshape h hn
  have hsmall := hshape.small
  have hfits := hshape.fits
  have hcount := hshape.length
  refine ⟨?_, ?_⟩
  · unfold encodeSample
    refine contract_mapM_ite_eq_ok_iff.2 ⟨fun slot hslot => ?_, ?_⟩
    · obtain ⟨n, hn, rfl⟩ := List.getElem_of_mem hslot
      rw [List.length_zipIdx] at hn
      have hlt := hshape.lt _ (List.getElem_mem hn)
      rw [List.getElem_zipIdx]
      simp only [hread hn, unpack_pack, Nat.zero_add, not_or, not_not]
      exact ⟨toNat_toUInt16_of_lt (by omega), h.ne_min _ (List.getElem_mem _), by omega⟩
    · refine List.ext_getElem (by simp [h.length_journalSamples, hcount]) fun n h₁ h₂ => ?_
      have hn : n < order.length := by simpa using h₂
      rw [getElem_journalSamples h₁]
      simp only [List.getElem_map, List.getElem_zipIdx, Nat.zero_add, hread hn, unpack_pack]
  · rintro ⟨slot, hslot, hblank, hne⟩
    rw [← getD_take_drop hslot, hrow, getD_ringSamples_blank hshape h hslot hblank] at hne
    exact hne rfl

/-- A row that the encoder reads lies in the samples. -/
theorem row_of_encodeSample (hshape : RingShape capacity count order) (id : UInt32)
    {samples : List UInt32} {start : ℕ} (hlength : start + capacity ≤ samples.length)
    {row : List ReplayEligibilitySample}
    (hrow : order.zipIdx.mapM (encodeSample samples start) = .ok row)
    (hblank : ¬∃ slot < capacity, count ≤ slot ∧ samples.getD (start + slot) 0 ≠ 0) :
    ∃ r : SynapseRow, r.localSynapseId = id ∧ r.Fits count ∧ row = r.journalSamples ∧
      (samples.drop start).take capacity = r.ringSamples capacity order := by
  unfold encodeSample at hrow
  obtain ⟨hgood, hrow⟩ := contract_mapM_ite_eq_ok_iff.1 hrow
  let eligibility (slot : ℕ) := (unpackReplayEligibilitySample (samples.getD (start + slot) 0)).2
  have hslots {slot : ℕ} (hslot : slot ∈ order) :
      (unpackReplayEligibilitySample (samples.getD (start + slot) 0)).1.toNat = slot ∧
        eligibility slot ≠ Int16.minValue := by
    obtain ⟨n, hn, rfl⟩ := List.getElem_of_mem hslot
    have hmem : (order[n], n) ∈ order.zipIdx := by
      rw [List.mem_zipIdx_iff_getElem?]
      exact List.getElem?_eq_getElem hn
    have hpair := hgood _ hmem
    push Not at hpair
    exact ⟨hpair.1, hpair.2.1⟩
  refine ⟨⟨id, order.map eligibility⟩, rfl, ⟨by simp [hshape.length], ?_⟩, ?_, ?_⟩
  · intro q hq
    obtain ⟨slot, hslot, rfl⟩ := List.mem_map.1 hq
    exact (hslots hslot).2
  · rw [hrow]
    simp [SynapseRow.journalSamples, List.zipIdx_map, eligibility]
  · have hrowLength : ((samples.drop start).take capacity).length = capacity := by
      simp
      omega
    have hgather : gather 0 ((samples.drop start).take capacity) order =
        SynapseRow.packed ⟨id, order.map eligibility⟩ order := by
      rw [SynapseRow.packed, List.zipWith_map_right, List.zipWith_self]
      refine List.map_congr_left fun slot hslot => ?_
      rw [getD_take_drop (hshape.lt slot hslot)]
      have hevent : slot.toUInt16 =
          (unpackReplayEligibilitySample (samples.getD (start + slot) 0)).1 := by
        have hslot := (hslots hslot).1
        rw [← UInt16.toNat_inj, hslot, toNat_toUInt16_of_lt (hslot ▸ UInt16.toNat_lt _)]
      rw [hevent]
      exact (pack_unpack _).symm
    have hzero : ∀ i < ((samples.drop start).take capacity).length, i ∉ order →
        ((samples.drop start).take capacity)[i]? = some 0 := by
      intro i hi hnot
      rw [hrowLength] at hi
      have hcount : count ≤ i := by
        rw [hshape.mem_iff i hi] at hnot
        omega
      have hvalue : ((samples.drop start).take capacity).getD i 0 = samples.getD (start + i) 0 :=
        getD_take_drop hi
      have hnone : samples.getD (start + i) 0 = 0 := by
        by_contra hne
        exact hblank ⟨i, hi, hcount, hne⟩
      have hat := List.getElem?_eq_getElem (hrowLength.symm ▸ hi :
        i < ((samples.drop start).take capacity).length)
      rw [hnone, List.getD_eq_getElem?_getD, hat, Option.getD_some] at hvalue
      rw [hat, hvalue]
    have hscatter := scatter_gather 0 hshape.nodup hzero
    rw [hrowLength, hgather] at hscatter
    exact hscatter.symm

/-- A valid row of a journal holds eligibilities. -/
theorem row_of_rowIsValid (id : UInt32) {samples : List ReplayEligibilitySample}
    (hlength : samples.length = count) (h : PortableReplayJournalV1.rowIsValid samples) :
    ∃ r : SynapseRow, r.localSynapseId = id ∧ r.Fits count ∧ samples = r.journalSamples := by
  have hat {n : ℕ} (hn : n < samples.length) : samples[n].eventIndex.toNat = n ∧
      samples[n].eligibilityQ15 ≠ Int16.minValue := by
    have hmem : (samples[n], n) ∈ samples.zipIdx := by
      rw [List.mem_zipIdx_iff_getElem?]
      exact List.getElem?_eq_getElem hn
    exact h _ hmem
  refine ⟨⟨id, samples.map ReplayEligibilitySample.eligibilityQ15⟩, rfl,
    ⟨by simp [hlength], ?_⟩, ?_⟩
  · intro q hq
    obtain ⟨sample, hsample, rfl⟩ := List.mem_map.1 hq
    obtain ⟨n, hn, rfl⟩ := List.getElem_of_mem hsample
    exact (hat hn).2
  · refine List.ext_getElem (by simp [SynapseRow.journalSamples]) fun n h₁ h₂ => ?_
    obtain ⟨hindex, -⟩ := hat h₁
    have hevent : n.toUInt16 = samples[n].eventIndex := by
      rw [← UInt16.toNat_inj, toNat_toUInt16_of_lt (hindex ▸ UInt16.toNat_lt _), hindex]
    rw [getElem_journalSamples h₂]
    simp [hevent]

end Row

/-! ### All rows -/

/-- The spans of the rows in a journal, after `start` samples. -/
def journalSpans (eventCount : UInt32) (start : ℕ) : List SynapseRow → List ReplaySynapseSpan
  | [] => []
  | r :: rows =>
    ⟨r.localSynapseId, start.toUInt32, eventCount, 0⟩ ::
      journalSpans eventCount (start + eventCount.toNat) rows

/-- The spans of the rows in a ring, from row `index` on. -/
def ringSpans (capacity : ℕ) (eventCount : UInt32) (index : ℕ) :
    List SynapseRow → List GpuReplaySynapseSpanRecord
  | [] => []
  | r :: rows =>
    ⟨r.localSynapseId, (index * capacity).toUInt32, eventCount, 0⟩ ::
      ringSpans capacity eventCount (index + 1) rows

/-- The samples of the rows in a journal. -/
def journalSamples (rows : List SynapseRow) : List ReplayEligibilitySample :=
  rows.flatMap SynapseRow.journalSamples

/-- The samples of the rows in a ring. -/
def ringSamples (capacity : ℕ) (order : List ℕ) (rows : List SynapseRow) : List UInt32 :=
  rows.flatMap fun r => r.ringSamples capacity order

section Rows

variable {capacity : ℕ} {eventCount : UInt32} {order : List ℕ}

theorem length_ringSamples (rows : List SynapseRow) :
    (ringSamples capacity order rows).length = rows.length * capacity := by
  induction rows with
  | nil => simp [ringSamples]
  | cons r rows ih =>
    rw [ringSamples, List.flatMap_cons, List.length_append, ← ringSamples, ih]
    simp [Nat.succ_mul, Nat.add_comm]

theorem length_journalSamples {rows : List SynapseRow}
    (h : ∀ r ∈ rows, r.Fits eventCount.toNat) :
    (journalSamples rows).length = rows.length * eventCount.toNat := by
  induction rows with
  | nil => simp [journalSamples]
  | cons r rows ih =>
    rw [journalSamples, List.flatMap_cons, List.length_append, ← journalSamples,
      ih fun r' hr' => h r' (List.mem_cons_of_mem _ hr'),
      (h r List.mem_cons_self).length_journalSamples]
    simp [Nat.succ_mul, Nat.add_comm]

/-- An encoded ring holds some rows, from `index` on. -/
theorem rows_of_encodeSpans (hshape : RingShape capacity eventCount.toNat order)
    {samples : List UInt32} {spans : List GpuReplaySynapseSpanRecord} {index start : ℕ}
    {previous : Option UInt32} {compactSpans : List ReplaySynapseSpan}
    {compactSamples : List ReplayEligibilitySample}
    (hlength : samples.length = (index + spans.length) * capacity)
    (h : encodeSpans samples capacity eventCount order index start previous spans =
      .ok (compactSpans, compactSamples)) :
    ∃ rows : List SynapseRow, (∀ r ∈ rows, r.Fits eventCount.toNat) ∧
      rows.length = spans.length ∧ spans = ringSpans capacity eventCount index rows ∧
      samples.drop (index * capacity) = ringSamples capacity order rows ∧
      compactSpans = journalSpans eventCount start rows ∧
      compactSamples = journalSamples rows := by
  induction spans generalizing index start previous compactSpans compactSamples with
  | nil =>
    cases h
    refine ⟨[], by simp, rfl, rfl, ?_, rfl, rfl⟩
    simpa [ringSamples] using List.drop_eq_nil_iff.2 hlength.le
  | cons span spans ih =>
    rw [encodeSpans] at h
    obtain ⟨_, hspan, h⟩ := contract_bind_eq_ok_iff.1 h
    obtain ⟨startWord, hstart, h⟩ := contract_bind_eq_ok_iff.1 h
    obtain ⟨row, hrow, h⟩ := contract_bind_eq_ok_iff.1 h
    obtain ⟨_, hblank, h⟩ := contract_bind_eq_ok_iff.1 h
    obtain ⟨⟨restSpans, restSamples⟩, hrest, h⟩ := contract_bind_eq_ok_iff.1 h
    cases h
    rw [reject_eq_ok_iff] at hspan hblank
    push Not at hspan
    obtain ⟨-, hphysical, hcount, hreserved, -⟩ := hspan
    rw [List.length_cons] at hlength
    have hroom : index * capacity + capacity ≤ samples.length := by
      rw [hlength, ← Nat.succ_mul]
      exact Nat.mul_le_mul_right _ (by omega)
    obtain ⟨r, hid, hfits, hr, hsamples⟩ := row_of_encodeSample hshape span.localSynapseId hroom
      hrow hblank
    obtain ⟨rows, hrows, hlen, hspans, hdrop, hcompactSpans, hcompact⟩ :=
      ih (by rw [hlength]; congr 1; omega) hrest
    refine ⟨r :: rows, ?_, by simp [hlen], ?_, ?_, ?_, ?_⟩
    · exact List.forall_mem_cons.2 ⟨hfits, hrows⟩
    · rw [ringSpans, ← hspans, hid, ← hphysical, ← hcount, ← hreserved]
      simp
    · have hsplit := List.take_append_drop capacity (samples.drop (index * capacity))
      rw [List.drop_drop, ← Nat.succ_mul] at hsplit
      rw [← hsplit, hsamples, hdrop]
      rfl
    · rw [hr, hfits.length_journalSamples] at hcompactSpans
      rw [journalSpans, ← hcompactSpans, hid, ← tryU32_eq_ok_iff.1 hstart]
      simp
    · rw [hcompact, hr]
      rfl

/-- A valid journal holds some rows, from `start` on. -/
theorem rows_of_validateSpans {j : PortableReplayJournalV1} {start stop : UInt32}
    {spans : List ReplaySynapseSpan} (h : j.validateSpans start spans = .ok stop) :
    ∃ rows : List SynapseRow, (∀ r ∈ rows, r.Fits j.eventCount.toNat) ∧
      rows.length = spans.length ∧ spans = journalSpans j.eventCount start.toNat rows ∧
      stop.toNat = start.toNat + rows.length * j.eventCount.toNat ∧
      (j.eligibilitySamples.drop start.toNat).take (rows.length * j.eventCount.toNat) =
        journalSamples rows := by
  induction spans generalizing start with
  | nil =>
    cases h
    exact ⟨[], by simp, rfl, rfl, by simp, by simp [journalSamples]⟩
  | cons span spans ih =>
    rw [PortableReplayJournalV1.validateSpans] at h
    obtain ⟨_, hspan, h⟩ := contract_bind_eq_ok_iff.1 h
    obtain ⟨mid, hmid, h⟩ := contract_bind_eq_ok_iff.1 h
    obtain ⟨row, hrow, h⟩ := contract_bind_eq_ok_iff.1 h
    obtain ⟨_, hvalid, h⟩ := contract_bind_eq_ok_iff.1 h
    rw [reject_eq_ok_iff] at hspan hvalid
    rw [not_not] at hvalid
    push Not at hspan
    obtain ⟨hreserved, hstart, hcount⟩ := hspan
    rw [orMismatch_eq_ok_iff, checkedAdd32_eq_some_iff, hstart, hcount] at hmid
    rw [orMismatch_eq_ok_iff, sliceGet, hstart] at hrow
    split_ifs at hrow with hroom
    have hrowLength : row.length = j.eventCount.toNat := by
      rw [← Option.some.inj hrow, List.length_take, List.length_drop]
      omega
    obtain ⟨r, hid, hfits, hr⟩ := row_of_rowIsValid span.localSynapseId hrowLength hvalid
    obtain ⟨rows, hrows, hlen, hspans, hstop, hsamples⟩ := ih h
    refine ⟨r :: rows, List.forall_mem_cons.2 ⟨hfits, hrows⟩, by simp [hlen], ?_, ?_, ?_⟩
    · rw [journalSpans, ← hmid, ← hspans, hid, ← hstart, ← hreserved]
      cases span
      simp_all
    · rw [hstop, hmid, List.length_cons, Nat.succ_mul]
      omega
    · have hhead : (j.eligibilitySamples.drop start.toNat).take j.eventCount.toNat = row := by
        rw [← Option.some.inj hrow]
        congr 1
        omega
      have htail : (j.eligibilitySamples.drop (start.toNat + j.eventCount.toNat)).take
          (rows.length * j.eventCount.toNat) = journalSamples rows := by
        rw [← hmid]
        exact hsamples
      rw [List.length_cons, Nat.succ_mul, Nat.add_comm (rows.length * _), List.take_add,
        List.drop_drop, hhead, htail, hr]
      rfl

theorem tryU32_ok {n : ℕ} (h : n < 2 ^ 32) : tryU32 n = .ok n.toUInt32 :=
  tryU32_eq_ok_iff.2 (UInt32.toNat_ofNat_of_lt' h)

/-- A row written behind the samples turns its blank slots into the row. -/
theorem scatter_row (hshape : RingShape capacity eventCount.toNat order) {r : SynapseRow}
    (samples : List UInt32) (n : ℕ) :
    scatter (samples ++ List.replicate ((n + 1) * capacity) 0)
        ((order.map (samples.length + ·)).zip (r.packed order)) =
      (samples ++ r.ringSamples capacity order) ++ List.replicate (n * capacity) 0 := by
  have hslots : ∀ w ∈ order.zip (r.packed order),
      w.1 < (List.replicate capacity (0 : UInt32)).length := by
    intro w hw
    rw [List.length_replicate]
    exact hshape.lt _ (List.of_mem_zip hw).1
  rw [List.zip_map_left, show Prod.map (samples.length + ·) (id : UInt32 → UInt32) =
    fun w => (samples.length + w.1, w.2) from rfl, scatter_append_right, Nat.succ_mul,
    Nat.add_comm, ← List.replicate_append_replicate, scatter_append_left _ hslots,
    List.append_assoc]
  rfl

/-- The decoder writes the rows into the ring, from `index` on. -/
theorem decodeSpans_rows {j : PortableReplayJournalV1}
    (hshape : RingShape capacity j.eventCount.toNat order) {rows : List SynapseRow}
    (hfits : ∀ r ∈ rows, r.Fits j.eventCount.toNat) {index start : ℕ} {samples : List UInt32}
    (hsmall : (index + rows.length) * capacity < 2 ^ 32)
    (hstart : start + rows.length * j.eventCount.toNat < 2 ^ 32)
    (hroom : start ≤ j.eligibilitySamples.length)
    (hsamples : j.eligibilitySamples.drop start = journalSamples rows)
    (hlength : samples.length = index * capacity) :
    decodeSpans j capacity j.eventCount.toNat order index
        (samples ++ List.replicate (rows.length * capacity) 0)
        (journalSpans j.eventCount start rows) =
      .ok (ringSpans capacity j.eventCount index rows,
        samples ++ ringSamples capacity order rows) := by
  induction rows generalizing index start samples with
  | nil => simp [journalSpans, decodeSpans, ringSpans, ringSamples]
  | cons r rows ih =>
    have hr := hfits r List.mem_cons_self
    have hrows : ∀ r ∈ rows, r.Fits j.eventCount.toNat := fun r' hr' =>
      hfits r' (List.mem_cons_of_mem _ hr')
    rw [List.length_cons] at hsmall hstart ⊢
    have hcapacity := hshape.small
    have hcount := hshape.fits
    have hbytes : index * capacity < 2 ^ 32 :=
      (Nat.mul_le_mul_right capacity (by omega)).trans_lt hsmall
    have hsucc : start + j.eventCount.toNat + rows.length * j.eventCount.toNat < 2 ^ 32 := by
      rw [Nat.succ_mul] at hstart
      omega
    have hlt : start < 2 ^ 32 := by omega
    have hword : start.toUInt32.toNat = start := UInt32.toNat_ofNat_of_lt' hlt
    have hrowLength := hr.length_journalSamples
    have hsplit : j.eligibilitySamples.drop start = r.journalSamples ++ journalSamples rows :=
      hsamples
    have hdropLength := congrArg List.length hsplit
    rw [List.length_drop, List.length_append, hrowLength] at hdropLength
    have hslice : sliceGet j.eligibilitySamples start (start + j.eventCount.toNat) =
        some r.journalSamples := by
      rw [sliceGet, if_pos ⟨by omega, by omega⟩, hsplit, Nat.add_sub_cancel_left,
        List.take_left' hrowLength]
    have htail : j.eligibilitySamples.drop (start + j.eventCount.toNat) = journalSamples rows := by
      rw [← List.drop_drop, hsplit, List.drop_left' hrowLength]
    have hnext : (index + 1 + rows.length) * capacity < 2 ^ 32 := by rwa [Nat.add_right_comm]
    have hwrote : (samples ++ r.ringSamples capacity order).length = (index + 1) * capacity := by
      simp [hlength, Nat.succ_mul]
    have hih := ih hrows hnext hsucc (by omega) htail hwrote
    have hguard : reject (2 ^ 64 ≤ index * capacity ∨ 2 ^ 64 ≤ start + j.eventCount.toNat)
        .consolidationGenerationMismatch = .ok () := by
      rw [reject_eq_ok_iff]
      omega
    have hwritten := scatter_row hshape (r := r) samples rows.length
    rw [hlength] at hwritten
    rw [journalSpans, decodeSpans, hword]
    refine contract_bind_eq_ok_iff.2 ⟨(), hguard, ?_⟩
    refine contract_bind_eq_ok_iff.2 ⟨r.journalSamples, orMismatch_eq_ok_iff.2 hslice, ?_⟩
    refine contract_bind_eq_ok_iff.2 ⟨r.packed order, decodeSample_row hshape hr, ?_⟩
    refine contract_bind_eq_ok_iff.2 ⟨(index * capacity).toUInt32, tryU32_ok hbytes, ?_⟩
    refine contract_bind_eq_ok_iff.2 ⟨(ringSpans capacity j.eventCount (index + 1) rows,
      samples ++ r.ringSamples capacity order ++ ringSamples capacity order rows), ?_, ?_⟩
    · rw [hwritten]
      exact hih
    · simp [pure, Except.pure, ringSpans, ringSamples]

/-- The encoder reads the rows from the ring, from `index` on. -/
theorem encodeSpans_rows (hshape : RingShape capacity eventCount.toNat order)
    {rows : List SynapseRow} (hfits : ∀ r ∈ rows, r.Fits eventCount.toNat) {index start : ℕ}
    {previous : Option UInt32} {samples : List UInt32}
    (hsmall : (index + rows.length) * capacity < 2 ^ 32)
    (hstart : start + rows.length * eventCount.toNat < 2 ^ 32)
    (hascending : (previous.toList.map UInt32.toNat ++
      rows.map fun r => r.localSynapseId.toNat).IsChain (· < ·))
    (hsamples : samples.drop (index * capacity) = ringSamples capacity order rows) :
    encodeSpans samples capacity eventCount order index start previous
        (ringSpans capacity eventCount index rows) =
      .ok (journalSpans eventCount start rows, journalSamples rows) := by
  induction rows generalizing index start previous with
  | nil => rfl
  | cons r rows ih =>
    have hr := hfits r List.mem_cons_self
    have hrows : ∀ r ∈ rows, r.Fits eventCount.toNat := fun r' hr' =>
      hfits r' (List.mem_cons_of_mem _ hr')
    rw [List.length_cons] at hsmall hstart
    have hbytes : index * capacity < 2 ^ 32 :=
      (Nat.mul_le_mul_right capacity (by omega)).trans_lt hsmall
    have hword : (index * capacity).toUInt32.toNat = index * capacity :=
      UInt32.toNat_ofNat_of_lt' hbytes
    have hsucc : start + eventCount.toNat + rows.length * eventCount.toNat < 2 ^ 32 := by
      rw [Nat.succ_mul] at hstart
      omega
    have hsplit : samples.drop (index * capacity) =
        r.ringSamples capacity order ++ ringSamples capacity order rows := hsamples
    have hhead : (samples.drop (index * capacity)).take capacity =
        r.ringSamples capacity order := by
      rw [hsplit, List.take_left' SynapseRow.length_ringSamples]
    have htail : samples.drop ((index + 1) * capacity) = ringSamples capacity order rows := by
      rw [Nat.succ_mul, ← List.drop_drop, hsplit, List.drop_left' SynapseRow.length_ringSamples]
    obtain ⟨hrow, hblank⟩ := encodeSample_row hshape hr hhead
    have hids : previous.any (fun p => r.localSynapseId ≤ p) = false := by
      cases previous with
      | none => rfl
      | some p =>
        simp only [Option.toList_some, List.map_cons, List.map_nil, List.singleton_append,
          List.isChain_cons_cons] at hascending
        simpa [UInt32.lt_iff_toNat_lt] using hascending.1
    have hrest : (((some r.localSynapseId).toList.map UInt32.toNat) ++
        rows.map fun r => r.localSynapseId.toNat).IsChain (· < ·) := by
      cases previous with
      | none => exact hascending
      | some p => exact hascending.tail
    have hnext : (index + 1 + rows.length) * capacity < 2 ^ 32 := by rwa [Nat.add_right_comm]
    have hih := ih hrows hnext hsucc hrest htail
    have hguard : reject (2 ^ 64 ≤ index * capacity
        ∨ (index * capacity).toUInt32.toNat ≠ index * capacity ∨ eventCount ≠ eventCount
        ∨ (0 : UInt32) ≠ 0 ∨ previous.any (fun p => r.localSynapseId ≤ p) = true)
        .consolidationGenerationMismatch = .ok () := by
      rw [reject_eq_ok_iff, hword, hids]
      simp
      omega
    rw [ringSpans, encodeSpans]
    refine contract_bind_eq_ok_iff.2 ⟨(), hguard, ?_⟩
    refine contract_bind_eq_ok_iff.2 ⟨start.toUInt32, tryU32_ok (by omega), ?_⟩
    refine contract_bind_eq_ok_iff.2 ⟨r.journalSamples, hrow, ?_⟩
    refine contract_bind_eq_ok_iff.2 ⟨(), reject_eq_ok_iff.2 hblank, ?_⟩
    refine contract_bind_eq_ok_iff.2
      ⟨(journalSpans eventCount (start + eventCount.toNat) rows, journalSamples rows), ?_, rfl⟩
    rw [hr.length_journalSamples]
    exact hih

end Rows

end ALife
