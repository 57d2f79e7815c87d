/-
# The replay codec

`crates/alife_runtime/src/checkpoint_assets/replay_codec.rs`: the physical
replay ring of the device, event rows and per captured synapse one row of packed
samples, against the portable journal.  `encodePortableReplay` reads a ring from
its oldest event on and rewrites the strides of its spans;
`decodePhysicalReplay` writes a journal back into a blank ring.

Lengths and indices are natural numbers, bounded by `2 ^ 64` where the source
checks.  A read past the end of a vector does not occur: every index is below
`capacity` within its row.
-/

import ALife.Machine.Ring
import ALife.Machine.Words
import ALife.Replay.Journal

namespace ALife

open Machine

/-- A 64-bit word as the device stores it, `[u32; 2]`. -/
structure WordPair where
  lo : UInt32
  hi : UInt32
  deriving DecidableEq, Repr

/-- `split_pair`. -/
def splitPair (value : UInt64) : WordPair := ⟨lowHalf64 value, highHalf64 value⟩

/-- `join_pair`. -/
def joinPair (value : WordPair) : UInt64 := joinHalves64 value.lo value.hi

@[simp] theorem joinPair_splitPair (v : UInt64) : joinPair (splitPair v) = v :=
  joinHalves64_split v

@[simp] theorem splitPair_joinPair (w : WordPair) : splitPair (joinPair w) = w := by
  simp [splitPair, joinPair]

/-- A digest of four words as the device stores it, `[u32; 8]`. -/
structure WordPairs4 where
  p0 : WordPair
  p1 : WordPair
  p2 : WordPair
  p3 : WordPair
  deriving DecidableEq, Repr

/-- `split_digest4`. -/
def splitDigest4 (d : Digest256) : WordPairs4 :=
  ⟨splitPair d.w0, splitPair d.w1, splitPair d.w2, splitPair d.w3⟩

/-- `join_digest4`. -/
def joinDigest4 (w : WordPairs4) : Digest256 :=
  ⟨joinPair w.p0, joinPair w.p1, joinPair w.p2, joinPair w.p3⟩

/-- A digest of two words as the device stores it, `[u32; 4]`. -/
structure WordPairs2 where
  p0 : WordPair
  p1 : WordPair
  deriving DecidableEq, Repr

/-- `split_digest2`. -/
def splitDigest2 (d : CandidateFeatureDigest) : WordPairs2 := ⟨splitPair d.w0, splitPair d.w1⟩

/-- `join_digest2`. -/
def joinDigest2 (w : WordPairs2) : CandidateFeatureDigest := ⟨joinPair w.p0, joinPair w.p1⟩

/-- An event row of the device. -/
structure GpuReplayEventRecord where
  sequenceId : WordPair
  originatingTick : WordPair
  frameDigest : WordPairs4
  candidateFeatureDigest : WordPairs2
  actionId : UInt32
  family : UInt32
  predictionResidual : F32
  pain : F32
  homeostaticImprovement : F32
  frustration : F32
  novelty : F32
  socialConsequence : F32
  biochemicalAppetitive : F32
  biochemicalAversive : F32
  reserved : WordPair
  deriving DecidableEq, Repr

namespace GpuReplayEventRecord

/-- The float lanes of a row. -/
def lanes (r : GpuReplayEventRecord) : NeuromodulatoryLanes :=
  ⟨r.predictionResidual, r.pain, r.homeostaticImprovement, r.frustration, r.novelty,
    r.socialConsequence, r.biochemicalAppetitive, r.biochemicalAversive⟩

/-- `PartialEq` of two rows: the float lanes are compared as floats. -/
def eqv (a b : GpuReplayEventRecord) : Bool :=
  a.sequenceId = b.sequenceId && a.originatingTick = b.originatingTick
    && a.frameDigest = b.frameDigest && a.candidateFeatureDigest = b.candidateFeatureDigest
    && a.actionId = b.actionId && a.family = b.family
    && (a.lanes.toList.zip b.lanes.toList).all (fun v => F32.feq v.1 v.2)
    && a.reserved = b.reserved

end GpuReplayEventRecord

/-- `zero_event`. -/
def zeroEvent : GpuReplayEventRecord :=
  ⟨⟨0, 0⟩, ⟨0, 0⟩, ⟨⟨0, 0⟩, ⟨0, 0⟩, ⟨0, 0⟩, ⟨0, 0⟩⟩, ⟨⟨0, 0⟩, ⟨0, 0⟩⟩, 0, 0, .zero, .zero, .zero,
    .zero, .zero, .zero, .zero, .zero, ⟨0, 0⟩⟩

/-- `event_is_zero`. -/
def eventIsZero (e : GpuReplayEventRecord) : Bool := e.eqv zeroEvent

/-- A span row of the device. -/
structure GpuReplaySynapseSpanRecord where
  localSynapseId : UInt32
  sampleStart : UInt32
  sampleCount : UInt32
  reserved : UInt32
  deriving DecidableEq, Repr

/-- The physical replay ring. -/
structure PhysicalReplayParts where
  events : List GpuReplayEventRecord
  spans : List GpuReplaySynapseSpanRecord
  samples : List UInt32
  deriving DecidableEq

/-- `PartialEq` of two rings. -/
def PhysicalReplayParts.Eqv (a b : PhysicalReplayParts) : Prop :=
  List.Forall₂ (fun x y => x.eqv y = true) a.events b.events ∧ a.spans = b.spans
    ∧ a.samples = b.samples

/-- `pack_replay_eligibility_sample`. -/
def packReplayEligibilitySample (eventIndex : UInt16) (eligibilityQ15 : Int16) : UInt32 :=
  joinHalves32 eventIndex eligibilityQ15.toUInt16

/-- `unpack_replay_eligibility_sample`. -/
def unpackReplayEligibilitySample (word : UInt32) : UInt16 × Int16 :=
  (lowHalf32 word, (highHalf32 word).toInt16)

@[simp] theorem unpack_pack (i : UInt16) (q : Int16) :
    unpackReplayEligibilitySample (packReplayEligibilitySample i q) = (i, q) := by
  simp [unpackReplayEligibilitySample, packReplayEligibilitySample]

@[simp] theorem pack_unpack (w : UInt32) :
    packReplayEligibilitySample (unpackReplayEligibilitySample w).1
      (unpackReplayEligibilitySample w).2 = w := by
  simp [unpackReplayEligibilitySample, packReplayEligibilitySample]

/-- `u8::try_from` of the family lane. -/
def tryU8 (v : UInt32) : Contract UInt8 :=
  if v.toNat < 256 then .ok v.toUInt8 else .error .consolidationGenerationMismatch

/-- `decode_event`. -/
def decodeEvent (row : GpuReplayEventRecord) : Contract SleepReplayEvent := do
  let frame ← NeuromodulatoryFrame.tryNew row.lanes
  reject (row.reserved ≠ ⟨0, 0⟩) .consolidationGenerationMismatch
  let raw ← tryU8 row.family
  let family ← CandidateActionFamily.tryFromRaw raw
  pure
    { sequenceId := joinPair row.sequenceId
      originatingTick := ⟨joinPair row.originatingTick⟩
      frameDigest := joinDigest4 row.frameDigest
      candidateFeatureDigest := joinDigest2 row.candidateFeatureDigest
      actionId := row.actionId
      family
      modulator := .fromFrame frame }

/-- The row of an event. -/
def eventRow (e : SleepReplayEvent) : GpuReplayEventRecord where
  sequenceId := splitPair e.sequenceId
  originatingTick := splitPair e.originatingTick.raw
  frameDigest := splitDigest4 e.frameDigest
  candidateFeatureDigest := splitDigest2 e.candidateFeatureDigest
  actionId := e.actionId
  family := e.family.raw.toUInt32
  predictionResidual := e.modulator.predictionResidual
  pain := e.modulator.pain
  homeostaticImprovement := e.modulator.homeostaticImprovement
  frustration := e.modulator.frustration
  novelty := e.modulator.novelty
  socialConsequence := e.modulator.frame.lanes.lane5
  biochemicalAppetitive := e.modulator.frame.lanes.lane6
  biochemicalAversive := e.modulator.frame.lanes.lane7
  reserved := ⟨0, 0⟩

/-- `encode_event`. -/
def encodeEvent (e : SleepReplayEvent) : Contract GpuReplayEventRecord := do
  e.validateIds
  pure (eventRow e)

/-- The slot of the oldest event. -/
def oldestSlot (capacity count cursor : ℕ) : ℕ := if count = capacity then cursor else 0

/-! ### Encoding -/

/-- One sample of `encode_portable_replay`'s inner loop. -/
def encodeSample (samples : List UInt32) (physicalStart : ℕ) (slot : ℕ × ℕ) :
    Contract ReplayEligibilitySample :=
  let sample := unpackReplayEligibilitySample (samples.getD (physicalStart + slot.1) 0)
  if sample.1.toNat ≠ slot.1 ∨ sample.2 = Int16.minValue ∨ 2 ^ 16 ≤ slot.2 then
    .error .consolidationGenerationMismatch
  else .ok ⟨slot.2.toUInt16, sample.2⟩

/-- The loop over the spans in `encode_portable_replay`: the compact spans and
samples of the spans from `captureIndex` on, after `compactStart` samples. -/
def encodeSpans (samples : List UInt32) (capacity : ℕ) (eventCount : UInt32) (order : List ℕ)
    (captureIndex compactStart : ℕ) (previousSynapse : Option UInt32) :
    List GpuReplaySynapseSpanRecord →
      Contract (List ReplaySynapseSpan × List ReplayEligibilitySample)
  | [] => .ok ([], [])
  | span :: spans => do
    let physicalStart := captureIndex * capacity
    reject (2 ^ 64 ≤ physicalStart ∨ span.sampleStart.toNat ≠ physicalStart
        ∨ span.sampleCount ≠ eventCount ∨ span.reserved ≠ 0
        ∨ previousSynapse.any (fun previous => span.localSynapseId ≤ previous) = true)
      .consolidationGenerationMismatch
    let start ← tryU32 compactStart
    let row ← order.zipIdx.mapM (encodeSample samples physicalStart)
    reject (∃ slot < capacity, eventCount.toNat ≤ slot ∧ samples.getD (physicalStart + slot) 0 ≠ 0)
      .consolidationGenerationMismatch
    let (compactSpans, compactSamples) ← encodeSpans samples capacity eventCount order
      (captureIndex + 1) (compactStart + row.length) (some span.localSynapseId) spans
    pure (⟨span.localSynapseId, start, eventCount, 0⟩ :: compactSpans, row ++ compactSamples)

/-- `encode_portable_replay`. -/
def encodePortableReplay (phenotypeHash : PhenotypeHash) (replayCapturePlanDigest : Digest256)
    (generation : UInt64) (cursor eventCount : UInt32) (physical : PhysicalReplayParts) :
    Contract PortableReplayJournalV1 := do
  let capacity := physical.events.length
  let count := eventCount.toNat
  reject (capacity = 0 ∨ capacity < count ∨ capacity ≤ cursor.toNat
      ∨ physical.samples.length ≠ min (capacity * physical.spans.length) (2 ^ 64 - 1))
    .consolidationGenerationMismatch
  let order := ringOrder capacity (oldestSlot capacity count cursor.toNat) count
  let events ← (gather zeroEvent physical.events order).mapM decodeEvent
  reject ((physical.events.drop count).all eventIsZero = false) .consolidationGenerationMismatch
  let (synapseSpans, eligibilitySamples) ←
    encodeSpans physical.samples capacity eventCount order 0 0 none physical.spans
  let eventCapacity ← tryU32 capacity
  let sampleCapacity ← tryU32 physical.samples.length
  let portable : PortableReplayJournalV1 :=
    { schemaVersion := gpuBrainPortableAssetSchemaVersion, phenotypeHash
      replayCapturePlanDigest, generation, cursor, eventCount, eventCapacity, sampleCapacity
      events, synapseSpans, eligibilitySamples, canonicalDigest := .zero }
  let canonicalDigest ← portable.recomputeCanonicalDigest
  let portable := { portable with canonicalDigest }
  portable.validate
  pure portable

/-! ### Decoding -/

/-- One sample of `decode_physical_replay`'s inner loop, by its event's number
and slot. -/
def decodeSample (sample : (ReplayEligibilitySample × ℕ) × ℕ) : Contract UInt32 :=
  if sample.1.1.eventIndex.toNat ≠ sample.1.2 ∨ sample.1.1.eligibilityQ15 = Int16.minValue
      ∨ 2 ^ 16 ≤ sample.2 then
    .error .consolidationGenerationMismatch
  else .ok (packReplayEligibilitySample sample.2.toUInt16 sample.1.1.eligibilityQ15)

/-- The loop over the spans in `decode_physical_replay`: the physical spans from
`captureIndex` on, and the samples they were written into. -/
def decodeSpans (portable : PortableReplayJournalV1) (capacity count : ℕ) (order : List ℕ)
    (captureIndex : ℕ) (samples : List UInt32) :
    List ReplaySynapseSpan → Contract (List GpuReplaySynapseSpanRecord × List UInt32)
  | [] => .ok ([], samples)
  | span :: spans => do
    let physicalStart := captureIndex * capacity
    reject (2 ^ 64 ≤ physicalStart ∨ 2 ^ 64 ≤ span.sampleStart.toNat + count)
      .consolidationGenerationMismatch
    let compact ← orMismatch (sliceGet portable.eligibilitySamples span.sampleStart.toNat
      (span.sampleStart.toNat + count))
    let row ← (compact.zipIdx.zip order).mapM decodeSample
    let samples := scatter samples ((order.map (physicalStart + ·)).zip row)
    let start ← tryU32 physicalStart
    let (physicalSpans, samples) ← decodeSpans portable capacity count order (captureIndex + 1)
      samples spans
    pure (⟨span.localSynapseId, start, portable.eventCount, 0⟩ :: physicalSpans, samples)

/-- `decode_physical_replay`. -/
def decodePhysicalReplay (portable : PortableReplayJournalV1) : Contract PhysicalReplayParts := do
  portable.validate
  let capacity := portable.eventCapacity.toNat
  let count := portable.eventCount.toNat
  let order := ringOrder capacity (oldestSlot capacity count portable.cursor.toNat) count
  let rows ← portable.events.mapM encodeEvent
  let events := scatter (List.replicate capacity zeroEvent) (order.zip rows)
  let (spans, samples) ← decodeSpans portable capacity count order 0
    (List.replicate portable.sampleCapacity.toNat 0) portable.synapseSpans
  pure ⟨events, spans, samples⟩

end ALife
