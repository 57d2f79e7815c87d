/-
# The portable replay journal

`PortableReplayJournalV1` (`crates/alife_world/src/persistence/gpu_brain.rs`) and
the rows it holds: sleep replay events, oldest first, and per captured synapse a
span of eligibility samples, one for each event.
-/

import ALife.Core.CanonicalDigest
import ALife.Core.Perception
import ALife.Core.Units
import ALife.Machine.Integers
import ALife.Sleep.Contracts

namespace ALife

open Machine

/-- The eight lanes of a neuromodulatory frame. -/
structure NeuromodulatoryLanes where
  lane0 : F32
  lane1 : F32
  lane2 : F32
  lane3 : F32
  lane4 : F32
  lane5 : F32
  lane6 : F32
  lane7 : F32
  deriving DecidableEq, Repr

def NeuromodulatoryLanes.toList (l : NeuromodulatoryLanes) : List F32 :=
  [l.lane0, l.lane1, l.lane2, l.lane3, l.lane4, l.lane5, l.lane6, l.lane7]

/-- A frame: eight finite lanes in `-1.0..=1.0`. -/
structure NeuromodulatoryFrame where
  lanes : NeuromodulatoryLanes
  finite : lanes.toList.all F32.isFinite = true
  inRange : lanes.toList.all (F32.inRange .negOne .one) = true
  deriving DecidableEq

/-- `NeuromodulatoryFrame::try_new`. -/
def NeuromodulatoryFrame.tryNew (lanes : NeuromodulatoryLanes) : Contract NeuromodulatoryFrame :=
  if hfinite : lanes.toList.all F32.isFinite = true then
    if hrange : lanes.toList.all (F32.inRange .negOne .one) = true then
      .ok ⟨lanes, hfinite, hrange⟩
    else .error .scalarOutOfRange
  else .error .nonFiniteFloat

theorem NeuromodulatoryFrame.tryNew_lanes (f : NeuromodulatoryFrame) :
    tryNew f.lanes = .ok f := by
  rw [tryNew, dif_pos f.finite, dif_pos f.inRange]

theorem NeuromodulatoryFrame.lanes_of_tryNew {lanes : NeuromodulatoryLanes}
    {f : NeuromodulatoryFrame} (h : tryNew lanes = .ok f) : f.lanes = lanes := by
  unfold tryNew at h
  split_ifs at h
  cases h
  rfl

/-- A frame with its first five lanes read out. -/
structure NeuromodulatorSample where
  predictionResidual : F32
  pain : F32
  homeostaticImprovement : F32
  frustration : F32
  novelty : F32
  frame : NeuromodulatoryFrame
  projects : predictionResidual = frame.lanes.lane0 ∧ pain = frame.lanes.lane1 ∧
    homeostaticImprovement = frame.lanes.lane2 ∧ frustration = frame.lanes.lane3 ∧
    novelty = frame.lanes.lane4
  deriving DecidableEq

/-- `NeuromodulatorSample::from_frame`. -/
def NeuromodulatorSample.fromFrame (frame : NeuromodulatoryFrame) : NeuromodulatorSample :=
  ⟨frame.lanes.lane0, frame.lanes.lane1, frame.lanes.lane2, frame.lanes.lane3, frame.lanes.lane4,
    frame, rfl, rfl, rfl, rfl, rfl⟩

theorem NeuromodulatorSample.fromFrame_frame (s : NeuromodulatorSample) :
    fromFrame s.frame = s := by
  obtain ⟨_, _, _, _, _, frame, rfl, rfl, rfl, rfl, rfl⟩ := s
  rfl

structure SleepReplayEvent where
  sequenceId : UInt64
  originatingTick : Tick
  frameDigest : Digest256
  candidateFeatureDigest : CandidateFeatureDigest
  actionId : UInt32
  family : CandidateActionFamily
  modulator : NeuromodulatorSample
  deriving DecidableEq

/-- The nonzero checks on an event's identifiers. -/
def SleepReplayEvent.validateIds (e : SleepReplayEvent) : Contract Unit := do
  reject (e.sequenceId = 0) .invalidId
  reject (e.actionId = 0) .invalidId

/-- `validate_replay_event`. -/
def SleepReplayEvent.validate (e : SleepReplayEvent) : Contract Unit := do
  e.validateIds
  reject (e.frameDigest = .zero ∨ e.candidateFeatureDigest = ⟨0, 0⟩
      ∨ e.modulator.frame.lanes.toList.all
        (fun v => v.isFinite && F32.inRange .negOne .one v) = false)
    .consolidationGenerationMismatch

structure ReplaySynapseSpan where
  localSynapseId : UInt32
  sampleStart : UInt32
  sampleCount : UInt32
  reserved : UInt32
  deriving DecidableEq, Repr

structure ReplayEligibilitySample where
  eventIndex : UInt16
  eligibilityQ15 : Int16
  deriving DecidableEq, Repr

structure PortableReplayJournalV1 where
  schemaVersion : UInt16
  phenotypeHash : PhenotypeHash
  replayCapturePlanDigest : Digest256
  generation : UInt64
  cursor : UInt32
  eventCount : UInt32
  eventCapacity : UInt32
  sampleCapacity : UInt32
  events : List SleepReplayEvent
  synapseSpans : List ReplaySynapseSpan
  eligibilitySamples : List ReplayEligibilitySample
  canonicalDigest : Digest256
  deriving DecidableEq

/-- `GPU_BRAIN_PORTABLE_ASSET_SCHEMA_VERSION`. -/
def gpuBrainPortableAssetSchemaVersion : UInt16 := 2

/-- `MAX_REPLAY_CAPTURE_SYNAPSES`. -/
def maxReplayCaptureSynapses : UInt32 := 64

/-- `u32::try_from` of a length, an overflow being a generation mismatch. -/
def tryU32 (n : ℕ) : Contract UInt32 :=
  if n < 2 ^ 32 then .ok n.toUInt32 else .error .consolidationGenerationMismatch

theorem tryU32_eq_ok_iff {n : ℕ} {v : UInt32} : tryU32 n = .ok v ↔ v.toNat = n := by
  unfold tryU32
  split_ifs with h
  · rw [Except.ok.injEq, ← UInt32.toNat_inj, UInt32.toNat_ofNat_of_lt' h, eq_comm]
  · have := v.toNat_lt
    simp
    omega

/-- An overflow of `checked_mul` or `checked_add` is a generation mismatch. -/
def orMismatch {α : Type} (v : Option α) : Contract α :=
  match v with
  | some a => .ok a
  | none => .error .consolidationGenerationMismatch

theorem orMismatch_eq_ok_iff {α : Type} {v : Option α} {a : α} :
    orMismatch v = .ok a ↔ v = some a := by
  cases v <;> simp [orMismatch]

/-- `slice.get(start..stop)`. -/
def sliceGet {α : Type} (l : List α) (start stop : ℕ) : Option (List α) :=
  if start ≤ stop ∧ stop ≤ l.length then some ((l.drop start).take (stop - start)) else none

/-- `slice.windows(2)` holds no pair with its key not below the next. -/
def strictlyAscending (keys : List ℕ) : Prop := keys.IsChain (· < ·)

instance (keys : List ℕ) : Decidable (strictlyAscending keys) :=
  inferInstanceAs (Decidable (List.IsChain _ _))

namespace PortableReplayJournalV1

/-- `write_replay_event`. -/
def writeReplayEvent (digest : CanonicalDigestBuilder) (e : SleepReplayEvent) :
    Contract CanonicalDigestBuilder := do
  e.validate
  let digest := digest |>.writeU64 e.sequenceId |>.writeU64 e.originatingTick.raw
    |>.writeDigest e.frameDigest |>.writeU64 e.candidateFeatureDigest.w0
    |>.writeU64 e.candidateFeatureDigest.w1 |>.writeU32 e.actionId |>.writeU8 e.family.raw
  e.modulator.frame.lanes.toList.foldlM CanonicalDigestBuilder.writeF32 digest

/-- `recompute_canonical_digest`. -/
def recomputeCanonicalDigest (j : PortableReplayJournalV1) : Contract Digest256 := do
  let digest := (CanonicalDigestBuilder.new (asciiBytes "ALIFE-GPU-REPLAY-JOURNAL-V1"))
    |>.writeU16 j.schemaVersion |>.writeDigest j.phenotypeHash.words
    |>.writeDigest j.replayCapturePlanDigest |>.writeU64 j.generation |>.writeU32 j.cursor
    |>.writeU32 j.eventCount |>.writeU32 j.eventCapacity |>.writeU32 j.sampleCapacity
    |>.writeSequenceLen j.events.length
  let digest ← j.events.foldlM writeReplayEvent digest
  let digest := j.synapseSpans.foldl
    (fun digest span => digest |>.writeU32 span.localSynapseId |>.writeU32 span.sampleStart
      |>.writeU32 span.sampleCount |>.writeU32 span.reserved)
    (digest.writeSequenceLen j.synapseSpans.length)
  let digest := j.eligibilitySamples.foldl
    (fun digest sample => digest |>.writeU16 sample.eventIndex |>.writeI16 sample.eligibilityQ15)
    (digest.writeSequenceLen j.eligibilitySamples.length)
  pure digest.finish256

/-- A span's samples name their events in order and are not `i16::MIN`. -/
def rowIsValid (samples : List ReplayEligibilitySample) : Prop :=
  ∀ s ∈ samples.zipIdx, s.1.eventIndex.toNat = s.2 ∧ s.1.eligibilityQ15 ≠ Int16.minValue

instance (samples : List ReplayEligibilitySample) : Decidable (rowIsValid samples) :=
  inferInstanceAs (Decidable (∀ s ∈ samples.zipIdx, _))

/-- The loop over the spans in `validate`: each starts where the last one
ended.  The end of the last span. -/
def validateSpans (j : PortableReplayJournalV1) (expectedStart : UInt32) :
    List ReplaySynapseSpan → Contract UInt32
  | [] => .ok expectedStart
  | span :: spans => do
    reject (span.reserved ≠ 0 ∨ span.sampleStart ≠ expectedStart
      ∨ span.sampleCount ≠ j.eventCount) .consolidationGenerationMismatch
    let stop ← orMismatch (checkedAdd32 span.sampleStart span.sampleCount)
    let samples ← orMismatch (sliceGet j.eligibilitySamples span.sampleStart.toNat stop.toNat)
    reject (¬rowIsValid samples) .consolidationGenerationMismatch
    validateSpans j stop spans

/-- The checks of `validate` before the spans. -/
def validateHeader (j : PortableReplayJournalV1)
    (spanCount expectedSampleCapacity expectedLiveSamples : UInt32) : Contract Unit :=
  reject (j.schemaVersion ≠ gpuBrainPortableAssetSchemaVersion ∨ j.phenotypeHash = ⟨.zero⟩
      ∨ j.replayCapturePlanDigest = .zero ∨ j.generation = 0 ∨ j.eventCapacity = 0
      ∨ 65536 < j.eventCapacity ∨ j.eventCapacity < j.eventCount ∨ j.eventCapacity ≤ j.cursor
      ∨ (j.eventCount < j.eventCapacity ∧ j.cursor ≠ j.eventCount)
      ∨ j.events.length ≠ j.eventCount.toNat ∨ spanCount = 0
      ∨ maxReplayCaptureSynapses < spanCount ∨ j.sampleCapacity ≠ expectedSampleCapacity
      ∨ j.eligibilitySamples.length ≠ expectedLiveSamples.toNat
      ∨ ¬strictlyAscending (j.events.map fun e => e.sequenceId.toNat)
      ∨ (∃ e ∈ j.events, e.validate ≠ .ok ())
      ∨ ¬strictlyAscending (j.synapseSpans.map fun s => s.localSynapseId.toNat))
    .consolidationGenerationMismatch

/-- The digest check of `validate`. -/
def validateDigest (j : PortableReplayJournalV1) : Contract Unit := do
  let digest ← j.recomputeCanonicalDigest
  reject (j.canonicalDigest ≠ digest) .consolidationGenerationMismatch

/-- `validate`. -/
def validate (j : PortableReplayJournalV1) : Contract Unit := do
  let spanCount ← tryU32 j.synapseSpans.length
  let expectedSampleCapacity ← orMismatch (checkedMul32 j.eventCapacity spanCount)
  let expectedLiveSamples ← orMismatch (checkedMul32 j.eventCount spanCount)
  j.validateHeader spanCount expectedSampleCapacity expectedLiveSamples
  let expectedStart ← j.validateSpans 0 j.synapseSpans
  reject (expectedStart ≠ expectedLiveSamples) .consolidationGenerationMismatch
  j.validateDigest

end PortableReplayJournalV1

end ALife
