/-
# Replay capture plans and bounded replay batches

`ReplayCapturePlan` of `crates/alife_core/src/phenotype/learning.rs`: which synapses a
creature's replay log samples, and for how many events.  `BoundedReplayBatch` of
`crates/alife_core/src/sleep/replay.rs`: what a sleep consumes, the events oldest first
and per captured synapse a span of one eligibility for each event.
-/

import ALife.Machine.Checks
import ALife.Machine.FixedPoint
import ALife.Replay.Rows

namespace ALife

open Machine

structure ReplayCapturePlan where
  schemaVersion : UInt16
  globalSynapseIds : List UInt32
  samplesPerEvent : UInt16
  eventCapacity : UInt32
  sampleCapacity : UInt32
  canonicalDigest : Digest256
  deriving DecidableEq

namespace ReplayCapturePlan

/-- `validate_shape`. -/
def validateShape (p : ReplayCapturePlan) : Contract Unit := do
  reject (p.schemaVersion ≠ SchemaKind.learning.current
      ∨ p.globalSynapseIds = []
      ∨ maxReplayCaptureSynapses.toNat < p.globalSynapseIds.length
      ∨ ¬strictlyAscending (p.globalSynapseIds.map UInt32.toNat)
      ∨ p.samplesPerEvent.toNat ≠ p.globalSynapseIds.length
      ∨ p.eventCapacity = 0
      ∨ 65536 < p.eventCapacity) .phenotypeCompile
  let sampleCapacity ←
    getOr (checkedMul32 p.eventCapacity p.samplesPerEvent.toUInt32) .phenotypeCompile
  reject (p.sampleCapacity ≠ sampleCapacity) .phenotypeCompile

/-- `recompute_digest`. -/
def recomputeDigest (p : ReplayCapturePlan) : Digest256 :=
  let digest := (CanonicalDigestBuilder.new (asciiBytes "alife.replay-capture-plan.v1"))
    |>.writeU16 p.schemaVersion |>.writeSequenceLen p.globalSynapseIds.length
  (p.globalSynapseIds.foldl CanonicalDigestBuilder.writeU32 digest)
    |>.writeU16 p.samplesPerEvent |>.writeU32 p.eventCapacity |>.writeU32 p.sampleCapacity
    |>.finish256

/-- `validate_contract`, which is `validate_local`. -/
def validateContract (p : ReplayCapturePlan) : Contract Unit := do
  p.validateShape
  reject (p.canonicalDigest ≠ p.recomputeDigest) .phenotypeCompile

/-- `ReplayCapturePlan::try_new`. -/
def tryNew (globalSynapseIds : List UInt32) (samplesPerEvent : UInt16)
    (eventCapacity sampleCapacity : UInt32) : Contract ReplayCapturePlan := do
  let value : ReplayCapturePlan :=
    { schemaVersion := SchemaKind.learning.current, globalSynapseIds, samplesPerEvent
      eventCapacity, sampleCapacity, canonicalDigest := .zero }
  value.validateShape
  pure { value with canonicalDigest := value.recomputeDigest }

theorem validateShape_withDigest (p : ReplayCapturePlan) (digest : Digest256) :
    ({ p with canonicalDigest := digest } : ReplayCapturePlan).validateShape = p.validateShape :=
  rfl

theorem recomputeDigest_withDigest (p : ReplayCapturePlan) (digest : Digest256) :
    ({ p with canonicalDigest := digest } : ReplayCapturePlan).recomputeDigest
      = p.recomputeDigest := by
  unfold recomputeDigest
  rfl

/-- A plan of a valid shape is valid under its own digest. -/
theorem validateContract_seal {p : ReplayCapturePlan} (hshape : p.validateShape = .ok ()) :
    ({ p with canonicalDigest := p.recomputeDigest } : ReplayCapturePlan).validateContract
      = .ok () := by
  unfold validateContract
  rw [contract_seq_eq_ok_iff, reject_eq_ok_iff, not_not]
  exact ⟨(validateShape_withDigest p _).trans hshape, (recomputeDigest_withDigest p _).symm⟩

/-- A plan that `try_new` made is valid. -/
theorem validateContract_of_tryNew {ids : List UInt32} {samplesPerEvent : UInt16}
    {eventCapacity sampleCapacity : UInt32} {p : ReplayCapturePlan}
    (h : tryNew ids samplesPerEvent eventCapacity sampleCapacity = .ok p) :
    p.validateContract = .ok () := by
  unfold tryNew at h
  dsimp only at h
  rw [contract_check_eq_ok_iff] at h
  obtain ⟨hshape, h⟩ := h
  obtain rfl := Except.ok.inj h
  exact validateContract_seal hshape

/-- The number of captured synapses. -/
abbrev width (p : ReplayCapturePlan) : ℕ := p.globalSynapseIds.length

/-- What a valid plan promises of the sizes of the ring. -/
structure Sound (p : ReplayCapturePlan) : Prop where
  width_le : p.width ≤ 64
  width_pos : 0 < p.width
  ascending : strictlyAscending (p.globalSynapseIds.map UInt32.toNat)
  samplesPerEvent : p.samplesPerEvent.toNat = p.width
  capacity_pos : 0 < p.eventCapacity.toNat
  capacity_le : p.eventCapacity.toNat ≤ 65536
  sampleCapacity : p.sampleCapacity.toNat = p.eventCapacity.toNat * p.width

theorem sound_of_validateContract {p : ReplayCapturePlan} (h : p.validateContract = .ok ()) :
    p.Sound := by
  unfold validateContract validateShape at h
  rw [contract_seq_eq_ok_iff, contract_check_eq_ok_iff, reject_eq_ok_iff,
    contract_bind_eq_ok_iff] at h
  obtain ⟨⟨hshape, sampleCapacity, hproduct, hsample⟩, -⟩ := h
  push Not at hshape
  obtain ⟨-, hne, hwidth, hascending, hsamples, hzero, hcapacity⟩ := hshape
  rw [getOr_eq_ok_iff, checkedMul32_eq_some_iff, UInt16.toNat_toUInt32, hsamples] at hproduct
  rw [reject_eq_ok_iff, not_not] at hsample
  exact
    { width_le := hwidth
      width_pos := List.length_pos_of_ne_nil hne
      ascending := hascending
      samplesPerEvent := hsamples
      capacity_pos := by
        rw [Nat.pos_iff_ne_zero]
        exact fun h => hzero (UInt32.toNat_inj.1 h)
      capacity_le := by simpa [UInt32.le_iff_toNat_le] using hcapacity
      sampleCapacity := by rw [hsample, hproduct] }

end ReplayCapturePlan

/-- `validate_contract` of an event makes the checks of `validate_replay_event`. -/
abbrev SleepReplayEvent.validateContract (e : SleepReplayEvent) : Contract Unit := e.validate

/-- `BOUNDED_REPLAY_BATCH_SCHEMA_VERSION`. -/
def boundedReplayBatchSchemaVersion : UInt16 := 1

structure BoundedReplayBatch where
  schemaVersion : UInt16
  events : List SleepReplayEvent
  synapseSpans : List ReplaySynapseSpan
  eligibilitySamples : List ReplayEligibilitySample
  canonicalDigest : Digest256
  deriving DecidableEq

namespace BoundedReplayBatch

/-- The writes of one event in `recompute_canonical_digest`: the five projected lanes and
then the whole frame. -/
def writeEvent (digest : CanonicalDigestBuilder) (e : SleepReplayEvent) :
    Contract CanonicalDigestBuilder := do
  e.validateContract
  let digest := digest |>.writeU64 e.sequenceId |>.writeU64 e.originatingTick.raw
    |>.writeDigest e.frameDigest |>.writeU64 e.candidateFeatureDigest.w0
    |>.writeU64 e.candidateFeatureDigest.w1 |>.writeU32 e.actionId |>.writeU8 e.family.raw
  let digest ← [e.modulator.predictionResidual, e.modulator.pain,
    e.modulator.homeostaticImprovement, e.modulator.frustration,
    e.modulator.novelty].foldlM CanonicalDigestBuilder.writeF32 digest
  e.modulator.frame.lanes.toList.foldlM CanonicalDigestBuilder.writeF32 digest

/-- `recompute_canonical_digest`. -/
def recomputeCanonicalDigest (b : BoundedReplayBatch) : Contract Digest256 := do
  let digest := (CanonicalDigestBuilder.new (asciiBytes "ALIFE-GPU-SLEEP-REPLAY-BATCH-V1"))
    |>.writeU16 b.schemaVersion |>.writeSequenceLen b.events.length
  let digest ← b.events.foldlM writeEvent digest
  let digest := b.synapseSpans.foldl
    (fun digest span => digest |>.writeU32 span.localSynapseId |>.writeU32 span.sampleStart
      |>.writeU32 span.sampleCount |>.writeU32 span.reserved)
    (digest.writeSequenceLen b.synapseSpans.length)
  let digest := b.eligibilitySamples.foldl
    (fun digest sample => digest |>.writeU16 sample.eventIndex |>.writeI16 sample.eligibilityQ15)
    (digest.writeSequenceLen b.eligibilitySamples.length)
  pure digest.finish256

/-- The checks of `validate_contract` before the spans. -/
def validateHeader (b : BoundedReplayBatch) (maxEvents maxSamples synapseCount : UInt32) :
    Contract Unit :=
  reject (b.schemaVersion ≠ boundedReplayBatchSchemaVersion
      ∨ maxEvents = 0
      ∨ 65536 < maxEvents
      ∨ maxSamples = 0
      ∨ synapseCount = 0
      ∨ maxEvents.toNat < b.events.length
      ∨ 65536 < b.events.length
      ∨ maxSamples.toNat < b.eligibilitySamples.length
      ∨ ¬strictlyAscending (b.events.map fun e => e.sequenceId.toNat)
      ∨ ¬strictlyAscending (b.synapseSpans.map fun s => s.localSynapseId.toNat))
    .consolidationGenerationMismatch

/-- One round of the loop over the spans in `validate_contract`: the end of the span. -/
def validateSpan (b : BoundedReplayBatch) (synapseCount eventCount expectedSampleStart : UInt32)
    (span : ReplaySynapseSpan) : Contract UInt32 := do
  reject (synapseCount ≤ span.localSynapseId ∨ span.reserved ≠ 0
    ∨ span.sampleStart ≠ expectedSampleStart ∨ span.sampleCount ≠ eventCount)
    .consolidationGenerationMismatch
  let stop ← orMismatch (checkedAdd32 span.sampleStart span.sampleCount)
  let samples ← orMismatch (sliceGet b.eligibilitySamples span.sampleStart.toNat stop.toNat)
  reject (¬PortableReplayJournalV1.rowIsValid samples) .consolidationGenerationMismatch
  pure stop

/-- `validate_contract`. -/
def validateContract (b : BoundedReplayBatch) (maxEvents maxSamples synapseCount : UInt32) :
    Contract Unit := do
  b.validateHeader maxEvents maxSamples synapseCount
  let eventCount ← tryU32 b.events.length
  let expectedSampleStart ← b.synapseSpans.foldlM (b.validateSpan synapseCount eventCount) 0
  reject (expectedSampleStart.toNat ≠ b.eligibilitySamples.length)
    .consolidationGenerationMismatch
  let digest ← b.recomputeCanonicalDigest
  reject (b.canonicalDigest ≠ digest) .consolidationGenerationMismatch

end BoundedReplayBatch

/-- `encode_replay_eligibility_q15`. -/
def encodeReplayEligibilityQ15 (value : F32) : Contract Int16 :=
  if value.isFinite then
    let scaled := (value.clamp .negOne .one).mulRound 32767
    .ok (Int16.ofInt (max (-32767) (min scaled 32767)))
  else .error .nonFiniteFloat

/-- An encoded eligibility is not `i16::MIN`. -/
theorem encodeReplayEligibilityQ15_ne_min {value : F32} {q : Int16}
    (h : encodeReplayEligibilityQ15 value = .ok q) : q ≠ Int16.minValue := by
  unfold encodeReplayEligibilityQ15 at h
  split_ifs at h
  cases h
  intro hmin
  have hint := congrArg Int16.toInt hmin
  rw [Int16.toInt_ofInt_of_le (by omega) (by omega)] at hint
  have hvalue : Int16.minValue.toInt = -32768 := rfl
  omega

end ALife
