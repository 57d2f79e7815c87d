/-
# The batch of a replay journal

`build_bounded_batch` of `crates/alife_core/src/sleep/replay.rs` reads the ring from its
oldest event on and, for each captured synapse, the row of the sample matrix in the same
order.  The batch it returns passes its own `validate_contract` and lists the last accepted
pushes in the order they were made (`buildBoundedBatch_after`).
-/

import ALife.Replay.RoundTrip
import ALife.Sleep.ReplayPushes

namespace ALife

open Machine

namespace SleepReplayJournal

/-- One round of the loop over the slots of a captured synapse. -/
def batchSample (j : SleepReplayJournal) (physicalStart : UInt32) (slot : ℕ × ℕ) :
    Contract ReplayEligibilitySample :=
  if 2 ^ 16 ≤ slot.2 then .error .consolidationGenerationMismatch
  else .ok ⟨slot.2.toUInt16, j.physicalSamples.getD (physicalStart.toNat + slot.1) 0⟩

/-- One round of the loop over the captured synapses. -/
def batchSpan (j : SleepReplayJournal) (physicalOrder : List ℕ)
    (batch : List ReplaySynapseSpan × List ReplayEligibilitySample) (synapse : UInt32 × ℕ) :
    Contract (List ReplaySynapseSpan × List ReplayEligibilitySample) := do
  let sampleStart ← tryU32 batch.2.length
  let captureIndex ← tryU32 synapse.2
  let physicalStart ← orMismatch (checkedMul32 captureIndex j.plan.eventCapacity)
  let samples ← physicalOrder.zipIdx.mapM (j.batchSample physicalStart)
  pure (batch.1 ++ [⟨synapse.1, sampleStart, j.eventCount, 0⟩], batch.2 ++ samples)

/-- `physical_order`. -/
def physicalOrder (j : SleepReplayJournal) : List ℕ :=
  ringOrder j.plan.eventCapacity.toNat
    (oldestSlot j.plan.eventCapacity.toNat j.eventCount.toNat j.cursor.toNat) j.eventCount.toNat

/-- `build_bounded_batch`. -/
def buildBoundedBatch (j : SleepReplayJournal) (maxEvents maxSamples synapseCount : UInt32) :
    Contract BoundedReplayBatch := do
  j.plan.validateContract
  reject (maxEvents < j.eventCount) .consolidationGenerationMismatch
  let events ← j.physicalOrder.mapM fun physical => orMismatch (j.events.getD physical none)
  reject (2 ^ 64 ≤ j.eventCount.toNat * j.plan.width) .consolidationGenerationMismatch
  let (synapseSpans, eligibilitySamples) ←
    j.plan.globalSynapseIds.zipIdx.foldlM (j.batchSpan j.physicalOrder) ([], [])
  let batch : BoundedReplayBatch :=
    { schemaVersion := boundedReplayBatchSchemaVersion, events, synapseSpans, eligibilitySamples
      canonicalDigest := .zero }
  let canonicalDigest ← batch.recomputeCanonicalDigest
  let batch := { batch with canonicalDigest }
  batch.validateContract maxEvents maxSamples synapseCount
  pure batch

/-! ### What the batch holds -/

/-- The row of a captured synapse over the kept pushes. -/
def keptRow (kept : List ReplayPush) (synapse : UInt32 × ℕ) : SynapseRow where
  localSynapseId := synapse.1
  eligibilities := kept.map fun p => p.encoded.getD synapse.2 0

/-- The rows of all captured synapses. -/
def keptRows (plan : ReplayCapturePlan) (kept : List ReplayPush) : List SynapseRow :=
  plan.globalSynapseIds.zipIdx.map (keptRow kept)

variable {plan : ReplayCapturePlan} {j : SleepReplayJournal} {history : List ReplayPush}

/-- The pushes that the ring still holds. -/
abbrev kept (plan : ReplayCapturePlan) (history : List ReplayPush) : List ReplayPush :=
  lastOf plan.eventCapacity.toNat history

theorem Holds.length_kept (h : Holds plan j history) :
    (kept plan history).length = j.eventCount.toNat := by
  rw [length_lastOf, h.eventCount]

theorem Holds.eventCount_le (h : Holds plan j history) :
    j.eventCount.toNat ≤ plan.eventCapacity.toNat := by
  rw [h.eventCount]
  exact Nat.min_le_right ..

theorem Holds.fits_keptRow (h : Holds plan j history) {synapse : UInt32 × ℕ}
    (hsynapse : synapse.2 < plan.width) :
    (keptRow (kept plan history) synapse).Fits j.eventCount.toNat := by
  refine ⟨(List.length_map ..).trans h.length_kept, fun q hq => ?_⟩
  obtain ⟨p, hp, rfl⟩ := List.mem_map.1 hq
  have haccepted := h.accepted p (mem_of_mem_lastOf hp)
  have hlt : synapse.2 < p.encoded.length := by rwa [haccepted.length_encoded]
  rw [List.getD_eq_getElem?_getD, List.getElem?_eq_getElem hlt]
  obtain ⟨value, -, hencode⟩ := mem_of_contract_mapM haccepted.encodes (List.getElem_mem hlt)
  exact encodeReplayEligibilityQ15_ne_min hencode

/-- A ring of the journal is read from its oldest slot on. -/
theorem Holds.map_physicalOrder (h : Holds plan j history) {α : Type} {read : ℕ → Option α}
    {f : ReplayPush → α} (hring : RingHolds read plan.eventCapacity.toNat (history.map f)) :
    j.physicalOrder.map read = ((kept plan history).map f).map some := by
  have hread := hring.map_ringOrder rfl
  rw [List.length_map, ← h.eventCount, ← h.cursor] at hread
  rw [physicalOrder, h.plan_eq, map_lastOf, ← hread]
  rfl

theorem Holds.mapM_events (h : Holds plan j history) :
    j.physicalOrder.mapM (fun physical => orMismatch (j.events.getD physical none))
      = .ok ((kept plan history).map ReplayPush.event) := by
  have hread := h.map_physicalOrder h.events
  generalize j.physicalOrder = order at hread ⊢
  generalize (kept plan history).map ReplayPush.event = events at hread ⊢
  induction order generalizing events with
  | nil =>
    obtain rfl : events = [] := by simpa using hread.symm
    rfl
  | cons slot order ih =>
    rcases events with _ | ⟨e, events⟩
    · cases hread
    obtain ⟨hslot, hrest⟩ := List.cons.inj hread
    rw [List.mapM_cons, show j.events.getD slot none = some e from hslot, ih events hrest]
    rfl

/-- The inner loop reads one row. -/
theorem Holds.mapM_batchSample (h : Holds plan j history) {synapse : UInt32 × ℕ}
    (hsynapse : synapse.2 < plan.width) (physicalStart : UInt32)
    (hstart : physicalStart.toNat = synapse.2 * plan.eventCapacity.toNat) :
    j.physicalOrder.zipIdx.mapM (j.batchSample physicalStart)
      = .ok (keptRow (kept plan history) synapse).journalSamples := by
  have hread := h.map_physicalOrder (h.samples synapse.2 hsynapse)
  have hvalues : j.physicalOrder.map (fun slot =>
      j.physicalSamples.getD (synapse.2 * plan.eventCapacity.toNat + slot) 0)
        = (keptRow (kept plan history) synapse).eligibilities := by
    have hgetD := congrArg (List.map fun v : Option Int16 => v.getD 0) hread
    simpa [List.map_map, Function.comp_def, List.getD_eq_getElem?_getD, keptRow] using hgetD
  unfold batchSample
  refine contract_mapM_ite_eq_ok_iff.2 ⟨fun slot hslot => ?_, ?_⟩
  · have hlt := List.snd_lt_of_mem_zipIdx hslot
    have hlength : j.physicalOrder.length = j.eventCount.toNat := length_ringOrder ..
    have := h.eventCount_le
    have := h.sound.capacity_le
    omega
  · rw [SynapseRow.journalSamples, ← hvalues, List.zipIdx_map, List.map_map, hstart]
    rfl

theorem Holds.foldlM_batchSpan (h : Holds plan j history) {synapses : List (UInt32 × ℕ)}
    (hsynapses : ∀ s ∈ synapses, s.2 < plan.width) (spans : List ReplaySynapseSpan)
    {samples : List ReplayEligibilitySample}
    (hroom : samples.length + synapses.length * j.eventCount.toNat < 2 ^ 32) :
    synapses.foldlM (j.batchSpan j.physicalOrder) (spans, samples)
      = .ok (spans ++ journalSpans j.eventCount samples.length
          (synapses.map (keptRow (kept plan history))),
        samples ++ journalSamples (synapses.map (keptRow (kept plan history)))) := by
  induction synapses generalizing spans samples with
  | nil => simp [journalSpans, journalSamples, pure, Except.pure]
  | cons s synapses ih =>
    rw [List.forall_mem_cons] at hsynapses
    rw [List.length_cons, Nat.succ_mul] at hroom
    have hwidth := h.sound.width_le
    have hcapacity := h.sound.capacity_le
    have hproduct : s.2 * plan.eventCapacity.toNat ≤ 63 * 65536 :=
      Nat.mul_le_mul (by omega) hcapacity
    have hphysical : orMismatch (checkedMul32 s.2.toUInt32 j.plan.eventCapacity)
        = .ok (s.2 * plan.eventCapacity.toNat).toUInt32 := by
      rw [orMismatch_eq_ok_iff, checkedMul32_eq_some_iff, h.plan_eq,
        toNat_toUInt32_of_lt (by omega), toNat_toUInt32_of_lt (by omega)]
    have hrow := h.mapM_batchSample hsynapses.1 (s.2 * plan.eventCapacity.toNat).toUInt32
      (toNat_toUInt32_of_lt (by omega))
    have hfits := h.fits_keptRow hsynapses.1
    have hspan : j.batchSpan j.physicalOrder (spans, samples) s
        = .ok (spans ++ [⟨s.1, samples.length.toUInt32, j.eventCount, 0⟩],
          samples ++ (keptRow (kept plan history) s).journalSamples) := by
      refine contract_bind_eq_ok_iff.2 ⟨samples.length.toUInt32,
        tryU32_ok (show samples.length < 2 ^ 32 by omega), ?_⟩
      refine contract_bind_eq_ok_iff.2 ⟨s.2.toUInt32, tryU32_ok (by omega), ?_⟩
      refine contract_bind_eq_ok_iff.2 ⟨_, hphysical, ?_⟩
      exact contract_bind_eq_ok_iff.2 ⟨_, hrow, rfl⟩
    rw [List.foldlM_cons]
    refine contract_bind_eq_ok_iff.2 ⟨_, hspan, ?_⟩
    rw [ih hsynapses.2 _ (by rw [List.length_append, hfits.length_journalSamples]; omega),
      List.length_append, hfits.length_journalSamples]
    simp [journalSpans, journalSamples, keptRow]

end SleepReplayJournal

/-! ### Why the batch is valid -/

/-- The samples of a row that fits are a valid span. -/
theorem SynapseRow.Fits.rowIsValid {r : SynapseRow} {count : ℕ} (h : r.Fits count)
    (hcount : count ≤ 2 ^ 16) : PortableReplayJournalV1.rowIsValid r.journalSamples := by
  intro s hs
  obtain ⟨n, hn, rfl⟩ := List.getElem_of_mem hs
  rw [List.length_zipIdx] at hn
  have hlt : n < count := by rwa [h.length_journalSamples] at hn
  rw [List.getElem_zipIdx, getElem_journalSamples hn, Nat.zero_add]
  exact ⟨toNat_toUInt16_of_lt (by omega), h.ne_min _ (List.getElem_mem _)⟩

namespace BoundedReplayBatch

/-- The loop over the spans accepts the spans of rows that fit. -/
theorem foldlM_validateSpan {b : BoundedReplayBatch} {synapseCount eventCount : UInt32}
    {rows : List SynapseRow} (hfits : ∀ r ∈ rows, r.Fits eventCount.toNat)
    (hcount : eventCount.toNat ≤ 2 ^ 16)
    (hids : ∀ r ∈ rows, r.localSynapseId < synapseCount) (start : ℕ)
    (hroom : start + rows.length * eventCount.toNat < 2 ^ 32)
    (hstart : start ≤ b.eligibilitySamples.length)
    (hsamples : b.eligibilitySamples.drop start = journalSamples rows) :
    (journalSpans eventCount start rows).foldlM (b.validateSpan synapseCount eventCount)
        start.toUInt32
      = .ok (start + rows.length * eventCount.toNat).toUInt32 := by
  induction rows generalizing start with
  | nil => simp [journalSpans, pure, Except.pure]
  | cons r rows ih =>
    rw [List.forall_mem_cons] at hfits hids
    rw [List.length_cons, Nat.succ_mul] at hroom
    have hword : start.toUInt32.toNat = start := SleepReplayJournal.toNat_toUInt32_of_lt (by omega)
    have hstop : (start + eventCount.toNat).toUInt32.toNat = start + eventCount.toNat :=
      SleepReplayJournal.toNat_toUInt32_of_lt (by omega)
    have hrow := hfits.1.length_journalSamples
    have hsplit : b.eligibilitySamples.drop start = r.journalSamples ++ journalSamples rows :=
      hsamples
    have hlength := congrArg List.length hsplit
    rw [List.length_drop, List.length_append, hrow] at hlength
    have hslice : sliceGet b.eligibilitySamples start (start + eventCount.toNat)
        = some r.journalSamples := by
      rw [sliceGet, if_pos ⟨by omega, by omega⟩, hsplit, Nat.add_sub_cancel_left,
        List.take_left' hrow]
    have htail : b.eligibilitySamples.drop (start + eventCount.toNat) = journalSamples rows := by
      rw [← List.drop_drop, hsplit, List.drop_left' hrow]
    have hspan : b.validateSpan synapseCount eventCount start.toUInt32
        ⟨r.localSynapseId, start.toUInt32, eventCount, 0⟩
          = .ok (start + eventCount.toNat).toUInt32 := by
      refine contract_check_eq_ok_iff.2 ⟨?_, ?_⟩
      · rw [reject_eq_ok_iff]
        simp [UInt32.not_le.2 hids.1]
      refine contract_bind_eq_ok_iff.2 ⟨(start + eventCount.toNat).toUInt32, ?_, ?_⟩
      · rw [orMismatch_eq_ok_iff, checkedAdd32_eq_some_iff, hword, hstop]
      refine contract_bind_eq_ok_iff.2 ⟨r.journalSamples, ?_, ?_⟩
      · rw [orMismatch_eq_ok_iff, hword, hstop, hslice]
      refine contract_check_eq_ok_iff.2 ⟨?_, rfl⟩
      rw [reject_eq_ok_iff, not_not]
      exact hfits.1.rowIsValid hcount
    rw [journalSpans, List.foldlM_cons]
    refine contract_bind_eq_ok_iff.2 ⟨_, hspan, ?_⟩
    rw [ih hfits.2 hids.2 _ (by omega) (by omega) htail, List.length_cons, Nat.succ_mul]
    congr 2
    omega

theorem foldlM_writeF32 {values : List F32} (h : ∀ v ∈ values, v.isFinite = true)
    (digest : CanonicalDigestBuilder) :
    ∃ digest', values.foldlM CanonicalDigestBuilder.writeF32 digest = .ok digest' := by
  induction values generalizing digest with
  | nil => exact ⟨digest, rfl⟩
  | cons v values ih =>
    rw [List.forall_mem_cons] at h
    obtain ⟨digest', hrest⟩ := ih h.2 (digest.push
      (0x0a :: leBytes32 (if F32.feq v .zero then 0 else v.bits)))
    refine ⟨digest', ?_⟩
    rw [List.foldlM_cons]
    exact contract_bind_eq_ok_iff.2 ⟨_, if_pos h.1, hrest⟩

/-- The floats of a modulator are finite, its projections being lanes of its frame. -/
theorem writeEvent_eq_ok {e : SleepReplayEvent} (h : e.validateContract = .ok ())
    (digest : CanonicalDigestBuilder) : ∃ digest', writeEvent digest e = .ok digest' := by
  have hlanes : ∀ v ∈ e.modulator.frame.lanes.toList, v.isFinite = true :=
    List.all_eq_true.1 e.modulator.frame.finite
  have hprojected : ∀ v ∈ [e.modulator.predictionResidual, e.modulator.pain,
      e.modulator.homeostaticImprovement, e.modulator.frustration, e.modulator.novelty],
      v.isFinite = true := by
    obtain ⟨h0, h1, h2, h3, h4⟩ := e.modulator.projects
    rw [h0, h1, h2, h3, h4]
    intro v hv
    refine hlanes v ?_
    simp only [NeuromodulatoryLanes.toList, List.mem_cons, List.not_mem_nil, or_false] at hv ⊢
    tauto
  unfold writeEvent
  obtain ⟨middle, hmiddle⟩ := foldlM_writeF32 hprojected _
  obtain ⟨digest', hdigest'⟩ := foldlM_writeF32 hlanes middle
  refine ⟨digest', contract_check_eq_ok_iff.2 ⟨h, ?_⟩⟩
  exact contract_bind_eq_ok_iff.2 ⟨middle, hmiddle, hdigest'⟩

theorem recomputeCanonicalDigest_eq_ok {b : BoundedReplayBatch}
    (h : ∀ e ∈ b.events, e.validateContract = .ok ()) :
    ∃ digest, b.recomputeCanonicalDigest = .ok digest := by
  have hevents : ∀ events : List SleepReplayEvent,
      (∀ e ∈ events, e.validateContract = .ok ()) → ∀ digest,
        ∃ digest', events.foldlM writeEvent digest = .ok digest' := by
    intro events hvalid
    induction events with
    | nil => exact fun digest => ⟨digest, rfl⟩
    | cons e events ih =>
      rw [List.forall_mem_cons] at hvalid
      intro digest
      obtain ⟨middle, hmiddle⟩ := writeEvent_eq_ok hvalid.1 digest
      obtain ⟨digest', hrest⟩ := ih hvalid.2 middle
      refine ⟨digest', ?_⟩
      rw [List.foldlM_cons]
      exact contract_bind_eq_ok_iff.2 ⟨middle, hmiddle, hrest⟩
  unfold recomputeCanonicalDigest
  obtain ⟨middle, hmiddle⟩ := hevents b.events h _
  exact ⟨_, contract_bind_eq_ok_iff.2 ⟨middle, hmiddle, rfl⟩⟩

theorem recomputeCanonicalDigest_withDigest (b : BoundedReplayBatch) (digest : Digest256) :
    ({ b with canonicalDigest := digest } : BoundedReplayBatch).recomputeCanonicalDigest
      = b.recomputeCanonicalDigest := by
  unfold recomputeCanonicalDigest
  rfl

end BoundedReplayBatch

namespace SleepReplayJournal

variable {plan : ReplayCapturePlan} {j : SleepReplayJournal} {history : List ReplayPush}

theorem map_localSynapseId_keptRows (plan : ReplayCapturePlan) (kept : List ReplayPush) :
    (keptRows plan kept).map SynapseRow.localSynapseId = plan.globalSynapseIds := by
  rw [keptRows, List.map_map]
  exact List.zipIdx_map_fst ..

theorem Holds.fits_keptRows (h : Holds plan j history) :
    ∀ r ∈ keptRows plan (kept plan history), r.Fits j.eventCount.toNat := by
  intro r hr
  obtain ⟨s, hs, rfl⟩ := List.mem_map.1 hr
  exact h.fits_keptRow (List.snd_lt_of_mem_zipIdx hs)

/-- The batch that `build_bounded_batch` assembles, before its digest. -/
def assembled (plan : ReplayCapturePlan) (j : SleepReplayJournal) (history : List ReplayPush) :
    BoundedReplayBatch where
  schemaVersion := boundedReplayBatchSchemaVersion
  events := (kept plan history).map ReplayPush.event
  synapseSpans := journalSpans j.eventCount 0 (keptRows plan (kept plan history))
  eligibilitySamples := journalSamples (keptRows plan (kept plan history))
  canonicalDigest := .zero

/-- What the bounds of a caller must allow for the batch of a journal. -/
structure Adequate (plan : ReplayCapturePlan) (count : ℕ)
    (maxEvents maxSamples synapseCount : UInt32) : Prop where
  events : plan.eventCapacity ≤ maxEvents
  limit : maxEvents ≤ 65536
  samples : plan.width * count ≤ maxSamples.toNat
  samples_ne : maxSamples ≠ 0
  synapses : ∀ id ∈ plan.globalSynapseIds, id < synapseCount

theorem Holds.validateHeader_assembled (h : Holds plan j history)
    {maxEvents maxSamples synapseCount : UInt32}
    (hbounds : Adequate plan j.eventCount.toNat maxEvents maxSamples synapseCount) :
    (assembled plan j history).validateHeader maxEvents maxSamples synapseCount = .ok () := by
  have hcapacity := h.sound.capacity_le
  have hpos := h.sound.capacity_pos
  have hcount := h.eventCount_le
  have hevents := UInt32.le_iff_toNat_le.1 hbounds.events
  have hlength : (assembled plan j history).events.length = j.eventCount.toNat :=
    (List.length_map ..).trans h.length_kept
  have hsamples : (assembled plan j history).eligibilitySamples.length
      = plan.width * j.eventCount.toNat := by
    refine (length_journalSamples h.fits_keptRows).trans ?_
    rw [keptRows, List.length_map, List.length_zipIdx]
  have hids : (assembled plan j history).synapseSpans.map (fun s => s.localSynapseId.toNat)
      = plan.globalSynapseIds.map UInt32.toNat := by
    rw [← map_localSynapseId_keptRows plan (kept plan history), List.map_map]
    exact map_id_journalSpans ..
  obtain ⟨id, hid⟩ := List.exists_mem_of_length_pos h.sound.width_pos
  have hsynapses := UInt32.lt_iff_toNat_lt.1 (hbounds.synapses id hid)
  unfold BoundedReplayBatch.validateHeader
  rw [reject_eq_ok_iff, hlength, hsamples, hids]
  push Not
  refine ⟨rfl, ?_, UInt32.not_lt.2 hbounds.limit, hbounds.samples_ne, ?_, ?_, ?_, hbounds.samples,
    ?_, h.sound.ascending⟩
  · rintro rfl
    rw [UInt32.toNat_zero] at hevents
    omega
  · rintro rfl
    rw [UInt32.toNat_zero] at hsynapses
    omega
  · omega
  · omega
  · have hdrop := h.ascending.drop (history.length - plan.eventCapacity.toNat)
    rw [← List.map_drop] at hdrop
    simpa [assembled, strictlyAscending, List.map_map, Function.comp_def, lastOf] using hdrop

theorem Holds.validateContract_assembled (h : Holds plan j history)
    {maxEvents maxSamples synapseCount : UInt32}
    (hbounds : Adequate plan j.eventCount.toNat maxEvents maxSamples synapseCount)
    {digest : Digest256}
    (hdigest : (assembled plan j history).recomputeCanonicalDigest = .ok digest) :
    ({ assembled plan j history with canonicalDigest := digest } :
      BoundedReplayBatch).validateContract maxEvents maxSamples synapseCount = .ok () := by
  have hcapacity := h.sound.capacity_le
  have hwidth := h.sound.width_le
  have hcount := h.eventCount_le
  have hfits := h.fits_keptRows
  have hrows : (keptRows plan (kept plan history)).length = plan.width := by
    rw [keptRows, List.length_map, List.length_zipIdx]
  have hproduct : (keptRows plan (kept plan history)).length * j.eventCount.toNat
      ≤ 64 * 65536 := Nat.mul_le_mul (hrows ▸ hwidth) (by omega)
  have hids : ∀ r ∈ keptRows plan (kept plan history), r.localSynapseId < synapseCount := by
    intro r hr
    refine hbounds.synapses _ ?_
    rw [← map_localSynapseId_keptRows plan (kept plan history)]
    exact List.mem_map_of_mem hr
  have hlength : (assembled plan j history).events.length = j.eventCount.toNat :=
    (List.length_map ..).trans h.length_kept
  have hspans := BoundedReplayBatch.foldlM_validateSpan
    (b := { assembled plan j history with canonicalDigest := digest }) hfits (by omega) hids
    0 (by omega) (Nat.zero_le _) rfl
  unfold BoundedReplayBatch.validateContract
  refine contract_check_eq_ok_iff.2 ⟨h.validateHeader_assembled hbounds, ?_⟩
  refine contract_bind_eq_ok_iff.2 ⟨j.eventCount, ?_, ?_⟩
  · rw [tryU32_eq_ok_iff]
    exact hlength.symm
  refine contract_bind_eq_ok_iff.2 ⟨_, hspans, contract_check_eq_ok_iff.2 ⟨?_, ?_⟩⟩
  · rw [reject_eq_ok_iff, not_not, Nat.zero_add, toNat_toUInt32_of_lt (by omega)]
    exact (length_journalSamples hfits).symm
  refine contract_bind_eq_ok_iff.2 ⟨digest, ?_, ?_⟩
  · rw [BoundedReplayBatch.recomputeCanonicalDigest_withDigest, hdigest]
  · exact reject_eq_ok_iff.2 (not_not.2 rfl)

theorem Holds.buildBoundedBatch (h : Holds plan j history)
    {maxEvents maxSamples synapseCount : UInt32}
    (hbounds : Adequate plan j.eventCount.toNat maxEvents maxSamples synapseCount) :
    ∃ digest, j.buildBoundedBatch maxEvents maxSamples synapseCount
      = .ok { assembled plan j history with canonicalDigest := digest } := by
  have hcapacity := h.sound.capacity_le
  have hwidth := h.sound.width_le
  have hcount := h.eventCount_le
  have hproduct : plan.width * j.eventCount.toNat ≤ 64 * 65536 :=
    Nat.mul_le_mul hwidth (by omega)
  have hvalid : ∀ e ∈ (assembled plan j history).events, e.validateContract = .ok () := by
    intro e he
    obtain ⟨p, hp, rfl⟩ := List.mem_map.1 he
    exact (h.accepted p (mem_of_mem_lastOf hp)).valid
  obtain ⟨digest, hdigest⟩ := BoundedReplayBatch.recomputeCanonicalDigest_eq_ok hvalid
  have hroom : ([] : List ReplayEligibilitySample).length
      + plan.globalSynapseIds.zipIdx.length * j.eventCount.toNat < 2 ^ 32 := by
    rw [List.length_zipIdx, List.length_nil, Nat.zero_add]
    exact hproduct.trans_lt (by omega)
  have hspans := h.foldlM_batchSpan (fun _ hs => List.snd_lt_of_mem_zipIdx hs) [] hroom
  have hevents := UInt32.le_iff_toNat_le.1 hbounds.events
  refine ⟨digest, ?_⟩
  unfold SleepReplayJournal.buildBoundedBatch
  refine contract_check_eq_ok_iff.2 ⟨h.plan_eq ▸ h.valid, contract_check_eq_ok_iff.2 ⟨?_, ?_⟩⟩
  · rw [reject_eq_ok_iff, UInt32.not_lt, UInt32.le_iff_toNat_le]
    omega
  refine contract_bind_eq_ok_iff.2 ⟨_, h.mapM_events, contract_check_eq_ok_iff.2 ⟨?_, ?_⟩⟩
  · rw [reject_eq_ok_iff, h.plan_eq, Nat.mul_comm]
    omega
  rw [h.plan_eq]
  refine contract_bind_eq_ok_iff.2 ⟨_, hspans, ?_⟩
  refine contract_bind_eq_ok_iff.2 ⟨digest, hdigest, contract_check_eq_ok_iff.2 ⟨?_, rfl⟩⟩
  exact h.validateContract_assembled hbounds hdigest

/-- A batch is never built for more than `65536` events. -/
theorem buildBoundedBatch_ne_ok {maxEvents maxSamples synapseCount : UInt32}
    (h : 65536 < maxEvents) (batch : BoundedReplayBatch) :
    j.buildBoundedBatch maxEvents maxSamples synapseCount ≠ .ok batch := by
  intro hbuild
  unfold SleepReplayJournal.buildBoundedBatch at hbuild
  obtain ⟨-, -, hbuild⟩ := contract_bind_eq_ok_iff.1 hbuild
  obtain ⟨-, -, hbuild⟩ := contract_bind_eq_ok_iff.1 hbuild
  obtain ⟨events, -, hbuild⟩ := contract_bind_eq_ok_iff.1 hbuild
  obtain ⟨-, -, hbuild⟩ := contract_bind_eq_ok_iff.1 hbuild
  obtain ⟨spans, -, hbuild⟩ := contract_bind_eq_ok_iff.1 hbuild
  obtain ⟨digest, -, hbuild⟩ := contract_bind_eq_ok_iff.1 hbuild
  obtain ⟨_, hvalid, _⟩ := contract_bind_eq_ok_iff.1 hbuild
  unfold BoundedReplayBatch.validateContract at hvalid
  have hheader := (contract_check_eq_ok_iff.1 hvalid).1
  unfold BoundedReplayBatch.validateHeader at hheader
  rw [reject_eq_ok_iff] at hheader
  exact hheader (.inr (.inr (.inl h)))

/-- The span of a captured synapse in a batch of `count` events. -/
def spanOf (count : ℕ) (synapse : UInt32 × ℕ) : ReplaySynapseSpan :=
  ⟨synapse.1, (synapse.2 * count).toUInt32, count.toUInt32, 0⟩

theorem journalSpans_keptRows {count : UInt32} {kept : List ReplayPush} {ids : List UInt32}
    {i start : ℕ} (hstart : start = i * count.toNat) :
    journalSpans count start ((ids.zipIdx i).map (keptRow kept))
      = (ids.zipIdx i).map (spanOf count.toNat) := by
  induction ids generalizing i start with
  | nil => rfl
  | cons id ids ih =>
    rw [List.zipIdx_cons, List.map_cons, List.map_cons, journalSpans,
      ih (by rw [Nat.succ_mul, hstart])]
    simp [spanOf, keptRow, hstart]

/-- The samples of a journal lie row by row. -/
theorem getElem?_journalSamples {rows : List SynapseRow} {count i k : ℕ}
    (hfits : ∀ r ∈ rows, r.Fits count) (hk : k < count) :
    (journalSamples rows)[i * count + k]? = rows[i]?.bind fun r => r.journalSamples[k]? := by
  induction rows generalizing i with
  | nil => simp [journalSamples]
  | cons r rows ih =>
    rw [List.forall_mem_cons] at hfits
    have hlength := hfits.1.length_journalSamples
    rw [journalSamples, List.flatMap_cons, ← journalSamples]
    cases i with
    | zero =>
      rw [Nat.zero_mul, Nat.zero_add, List.getElem?_append_left (by rwa [hlength])]
      rfl
    | succ i =>
      rw [Nat.succ_mul, List.getElem?_append_right (by omega), hlength,
        show i * count + count + k - count = i * count + k by omega, ih hfits.2]
      rfl

/-- **Building a batch** after any history of calls: the last accepted events in the order of
their pushes, and for each captured synapse its eligibilities at these events. -/
theorem buildBoundedBatch_after (hnew : new plan = .ok j) (pushes : List ReplayPush)
    {maxEvents maxSamples synapseCount : UInt32}
    (hbounds : Adequate plan (min (after j pushes).2.length plan.eventCapacity.toNat)
      maxEvents maxSamples synapseCount) :
    (∀ p e j', push p (after j pushes).1 = .error e j' → j' = (after j pushes).1) ∧
    ∃ batch, (after j pushes).1.buildBoundedBatch maxEvents maxSamples synapseCount = .ok batch ∧
      batch.events = (lastOf plan.eventCapacity.toNat (after j pushes).2).map ReplayPush.event ∧
      batch.synapseSpans = plan.globalSynapseIds.zipIdx.map (spanOf batch.events.length) ∧
      batch.eligibilitySamples.length = plan.width * batch.events.length ∧
      ∀ k p, (lastOf plan.eventCapacity.toNat (after j pushes).2)[k]? = some p →
        p.eligibility.length = plan.width ∧
        ∀ i value, p.eligibility[i]? = some value → ∃ q,
          encodeReplayEligibilityQ15 value = .ok q ∧
          batch.eligibilitySamples[i * batch.events.length + k]? = some ⟨k.toUInt16, q⟩ := by
  have h := after_holds hnew pushes
  refine ⟨fun p e j' hpush => h.push_error hpush, ?_⟩
  rw [← h.eventCount] at hbounds
  obtain ⟨digest, hbatch⟩ := h.buildBoundedBatch hbounds
  have hevents : (assembled plan (after j pushes).1 (after j pushes).2).events.length
      = (after j pushes).1.eventCount.toNat := (List.length_map ..).trans h.length_kept
  refine ⟨_, hbatch, rfl, ?_, ?_, fun k p hk => ?_⟩
  · rw [hevents]
    exact journalSpans_keptRows (Nat.zero_mul _).symm
  · rw [hevents]
    refine (length_journalSamples h.fits_keptRows).trans ?_
    rw [keptRows, List.length_map, List.length_zipIdx]
  · have haccepted := h.accepted p (mem_of_mem_lastOf (List.mem_of_getElem? hk))
    have hlt := (List.getElem?_eq_some_iff.1 hk).1
    rw [h.length_kept] at hlt
    refine ⟨haccepted.length, fun i value hvalue => ?_⟩
    obtain ⟨q, hq, hencoded⟩ := (getElem?_of_contract_mapM haccepted.encodes).2 i value hvalue
    have hi : i < plan.width := haccepted.length ▸ (List.getElem?_eq_some_iff.1 hvalue).1
    refine ⟨q, hq, ?_⟩
    rw [hevents]
    refine (getElem?_journalSamples h.fits_keptRows hlt).trans ?_
    have hrow : (keptRows plan (kept plan (after j pushes).2))[i]?
        = some (keptRow (kept plan (after j pushes).2) (plan.globalSynapseIds[i], i)) := by
      rw [keptRows, List.getElem?_map, List.getElem?_zipIdx, List.getElem?_eq_getElem hi]
      simp
    rw [hrow]
    have hsample : (keptRow (kept plan (after j pushes).2)
        (plan.globalSynapseIds[i], i)).eligibilities[k]? = some q := by
      rw [keptRow, List.getElem?_map, hk, Option.map_some, List.getD_eq_getElem?_getD, hencoded]
      rfl
    simp [SynapseRow.journalSamples, hsample]

/-- A plan for one event of one synapse. -/
def sampleShape : ReplayCapturePlan :=
  ⟨SchemaKind.learning.current, [7], 1, 1, 1, .zero⟩

def samplePlan : ReplayCapturePlan :=
  { sampleShape with canonicalDigest := sampleShape.recomputeDigest }

def sampleJournal : SleepReplayJournal := ⟨samplePlan, 0, 0, [none], [0]⟩

theorem new_samplePlan : new samplePlan = .ok sampleJournal :=
  contract_check_eq_ok_iff.2 ⟨ReplayCapturePlan.validateContract_seal (by decide), rfl⟩

theorem globalSynapseIds_samplePlan_lt : ∀ id ∈ samplePlan.globalSynapseIds, id < 8 :=
  List.forall_mem_singleton.2 (show (7 : UInt32) < 8 by decide)

/-- A plan for two events of two synapses. -/
def wideShape : ReplayCapturePlan :=
  ⟨SchemaKind.learning.current, [7, 9], 2, 2, 4, .zero⟩

def widePlan : ReplayCapturePlan :=
  { wideShape with canonicalDigest := wideShape.recomputeDigest }

def wideJournal : SleepReplayJournal := ⟨widePlan, 0, 0, [none, none], [0, 0, 0, 0]⟩

theorem new_widePlan : new widePlan = .ok wideJournal :=
  contract_check_eq_ok_iff.2 ⟨ReplayCapturePlan.validateContract_seal (by decide), rfl⟩

theorem globalSynapseIds_widePlan_lt : ∀ id ∈ widePlan.globalSynapseIds, id < 16 :=
  List.forall_mem_cons.2 ⟨show (7 : UInt32) < 16 by decide,
    List.forall_mem_singleton.2 (show (9 : UInt32) < 16 by decide)⟩

/-- An event of so high a sequence id. -/
def sampleEvent (sequenceId : UInt64) : SleepReplayEvent :=
  ⟨sequenceId, ⟨1⟩, ⟨1, 0, 0, 0⟩, ⟨1, 0⟩, 1, .rest,
    .fromFrame ⟨⟨.zero, .zero, .zero, .zero, .zero, .zero, .zero, .zero⟩, by decide, by decide⟩⟩

/-- Four pushes: the second has an eligibility too few, and the last takes the place of the
first. -/
def samplePushes : List ReplayPush :=
  [⟨sampleEvent 1, [.one, .zero]⟩, ⟨sampleEvent 2, [.one]⟩, ⟨sampleEvent 2, [.zero, .zero]⟩,
    ⟨sampleEvent 3, [.zero, .one]⟩]

theorem buildBoundedBatch_after_samplePushes :
    (after wideJournal samplePushes).2 = [⟨sampleEvent 1, [.one, .zero]⟩,
      ⟨sampleEvent 2, [.zero, .zero]⟩, ⟨sampleEvent 3, [.zero, .one]⟩] ∧
    (∀ p e j', push p (after wideJournal samplePushes).1 = .error e j' →
      j' = (after wideJournal samplePushes).1) ∧
    ∃ batch, (after wideJournal samplePushes).1.buildBoundedBatch 2 4 16 = .ok batch ∧
      batch.events = [sampleEvent 2, sampleEvent 3] ∧
      batch.synapseSpans = [⟨7, 0, 2, 0⟩, ⟨9, 2, 2, 0⟩] ∧ batch.eligibilitySamples.length = 4 ∧
      ∃ q, encodeReplayEligibilityQ15 .one = .ok q ∧
        batch.eligibilitySamples[3]? = some ⟨1, q⟩ := by
  have haccepted : (after wideJournal samplePushes).2 = [⟨sampleEvent 1, [.one, .zero]⟩,
      ⟨sampleEvent 2, [.zero, .zero]⟩, ⟨sampleEvent 3, [.zero, .one]⟩] := by rfl
  have hbounds : Adequate widePlan
      (min (after wideJournal samplePushes).2.length widePlan.eventCapacity.toNat) 2 4 16 :=
    ⟨by decide, by decide, Nat.mul_le_mul le_rfl (Nat.min_le_right _ _), by decide,
      globalSynapseIds_widePlan_lt⟩
  obtain ⟨hkept, batch, hbatch, hevents, hspans, hlength, hsamples⟩ :=
    buildBoundedBatch_after new_widePlan samplePushes hbounds
  have hlast : lastOf widePlan.eventCapacity.toNat (after wideJournal samplePushes).2
      = [⟨sampleEvent 2, [.zero, .zero]⟩, ⟨sampleEvent 3, [.zero, .one]⟩] := by
    rw [haccepted]
    rfl
  rw [hlast] at hevents hsamples
  rw [hevents] at hspans hlength hsamples
  obtain ⟨-, hvalues⟩ := hsamples 1 _ rfl
  exact ⟨haccepted, hkept, batch, hbatch, hevents, hspans, hlength, hvalues 1 .one rfl⟩

/-- A bound of `65537` events is above the capacity and allows no batch. -/
theorem buildBoundedBatch_samplePlan_large :
    new samplePlan = .ok sampleJournal ∧ samplePlan.eventCapacity ≤ 65537 ∧
      (∀ id ∈ samplePlan.globalSynapseIds, id < 8) ∧
      ¬∃ batch, (after sampleJournal []).1.buildBoundedBatch 65537 8192 8 = .ok batch :=
  ⟨new_samplePlan, by decide, globalSynapseIds_samplePlan_lt, fun ⟨batch, h⟩ =>
    buildBoundedBatch_ne_ok (by decide) batch h⟩

end SleepReplayJournal

end ALife
