/-
# Packed experience records

`crates/alife_core/src/packed_log.rs`: a frame of fixed size with twelve spans into a
buffer of side records, and its contract.  The tier code, the duration, the source mask
and the reserved words of a frame are left out: no modelled function reads them.

The contract makes the spans lie one after the other from zero and end within the buffer
(`spans_of_validateContract`).  It never compares their end with the length of the buffer,
so an accepted record may hold side records behind its last span.
-/

import ALife.Core.Perception
import ALife.Core.Units
import ALife.Machine.Checks
import ALife.Machine.Integers
import ALife.Machine.Spans

namespace ALife

open Machine

structure SideBufferSpan where
  offset : UInt32
  count : UInt32
  deriving DecidableEq, Repr

namespace SideBufferSpan

/-- `SideBufferSpan::EMPTY`. -/
def empty : SideBufferSpan := ⟨0, 0⟩

/-- `SideBufferSpan::end`. -/
def finish (s : SideBufferSpan) : Contract UInt32 :=
  getOr (checkedAdd32 s.offset s.count) .packedLogSideBufferOverflow

/-- `SideBufferSpan::validate_against_len`. -/
def validateAgainstLen (len : UInt32) (s : SideBufferSpan) : Contract Unit := do
  let stop ← s.finish
  if stop ≤ len then .ok () else .error .packedLogSideBufferOverflow

/-- `validate_contract` of a span. -/
def validateContract (s : SideBufferSpan) : Contract Unit := do
  let _ ← s.finish
  pure ()

def toSpan (s : SideBufferSpan) : Span := ⟨s.offset.toNat, s.count.toNat⟩

theorem finish_eq_ok_iff {s : SideBufferSpan} {stop : UInt32} :
    s.finish = .ok stop ↔ stop.toNat = s.toSpan.stop := by
  rw [finish, getOr_eq_ok_iff, checkedAdd32_eq_some_iff]
  rfl

end SideBufferSpan

structure PackedSideBufferSpans where
  visibleEntities : SideBufferSpan
  touchedEntities : SideBufferSpan
  heardTokens : SideBufferSpan
  salienceClusters : SideBufferSpan
  memoryLinks : SideBufferSpan
  conceptLinks : SideBufferSpan
  rankedActionProposals : SideBufferSpan
  arbitrationDetails : SideBufferSpan
  semanticCodes : SideBufferSpan
  gaussianRefs : SideBufferSpan
  teacherSchoolRefs : SideBufferSpan
  diagnosticExtras : SideBufferSpan
  deriving DecidableEq, Repr

namespace PackedSideBufferSpans

/-- `PackedSideBufferSpans::EMPTY`. -/
def empty : PackedSideBufferSpans :=
  ⟨.empty, .empty, .empty, .empty, .empty, .empty, .empty, .empty, .empty, .empty, .empty, .empty⟩

/-- `PackedSideBufferSpans::all`. -/
def all (s : PackedSideBufferSpans) : List SideBufferSpan :=
  [s.visibleEntities, s.touchedEntities, s.heardTokens, s.salienceClusters, s.memoryLinks,
    s.conceptLinks, s.rankedActionProposals, s.arbitrationDetails, s.semanticCodes, s.gaussianRefs,
    s.teacherSchoolRefs, s.diagnosticExtras]

/-- The spans in field order. -/
def spans (s : PackedSideBufferSpans) : List Span := s.all.map SideBufferSpan.toSpan

/-- `PackedSideBufferSpans::validate_against_len`. -/
def validateAgainstLen (s : PackedSideBufferSpans) (len : ℕ) : Contract Unit := do
  failIf (2 ^ 32 ≤ len) .packedLogSideBufferOverflow
  s.all.forM (SideBufferSpan.validateAgainstLen len.toUInt32)

/-- One round of the loop of `validate_contract`: the end of the span. -/
def validateNext (nextOffset : UInt32) (span : SideBufferSpan) : Contract UInt32 := do
  span.validateContract
  failIf (span.offset ≠ nextOffset) .scalarOutOfRange
  span.finish

/-- `validate_contract` of the spans. -/
def validateContract (s : PackedSideBufferSpans) : Contract Unit := do
  let _ ← s.all.foldlM validateNext 0
  pure ()

end PackedSideBufferSpans

structure PackedExperienceFrame where
  schemaVersion : UInt16
  experienceSchemaVersion : UInt16
  sensoryAbiVersion : UInt16
  actionAbiVersion : UInt16
  flags : UInt32
  sensorProfileId : UInt16
  sensorProfileSchemaVersion : UInt16
  organismId : UInt64
  sequenceId : UInt64
  preActionTick : UInt64
  decisionTick : UInt64
  outcomeTick : UInt64
  brainClassId : UInt16
  selectedActionKindCode : UInt16
  selectedActionId : UInt32
  targetEntityId : UInt64
  position : Vector F32 3
  headingQuat : Vector F32 4
  targetPosition : Vector F32 3
  driveSummary : Vector F32 11
  hormoneSummary : Vector F32 11
  actionIntensity : F32
  actionConfidence : F32
  decisionConfidence : F32
  rewardValence : F32
  frustrationDelta : F32
  painDelta : F32
  energyDelta : F32
  predictionError : F32
  salienceSummary : F32
  memoryExpectedValence : F32
  memorySalienceHint : F32
  sideBufferSpans : PackedSideBufferSpans
  deriving DecidableEq, Repr

/-- `SensorProfileIdentity::validate_contract`. -/
def validateSensorProfileIdentity (profileId profileSchemaVersion sensoryAbiVersion : UInt16) :
    Contract Unit := do
  failIf (profileSchemaVersion ≠ SchemaKind.sensorProfile.current) .sensorProfileMismatch
  let _ ← SensorProfile.tryFromRaw profileId
  failIf (sensoryAbiVersion ≠ SchemaKind.sensoryAbi.current) .sensorProfileMismatch

/-- `validate_unit`. -/
def validateUnit (value : F32) : Contract Unit := boundedScalar .zero .one value

/-- `validate_signed_unit`. -/
def validateSignedUnit (value : F32) : Contract Unit := boundedScalar .negOne .one value

/-- `validate_finite_slice`. -/
def validateFiniteSlice (values : List F32) : Contract Unit :=
  failIf (values.all F32.isFinite = false) .nonFiniteFloat

namespace PackedExperienceFrame

/-- `PACKED_FLAG_SUCCESS`. -/
def flagSuccess : UInt32 := 1

/-- `PACKED_FLAG_HAS_TARGET_ENTITY`. -/
def flagHasTargetEntity : UInt32 := 2

/-- `PACKED_KNOWN_FLAGS`: ten flags, from `1 << 0` to `1 << 9`. -/
def knownFlags : UInt32 := 0x3FF

/-- `require_schema_version`. -/
def requireSchemaVersion (actual : UInt16) : Contract Unit :=
  if actual = SchemaKind.packedLog.current then .ok ()
  else .error (.packedLogSchemaMismatch SchemaKind.packedLog.current actual)

/-- The experience versions that a frame may carry: the two legacy ones, the current one and
its two successors. -/
def knownExperienceVersion (version : UInt16) : Bool :=
  version == 1 || version == 2 || version == SchemaKind.experience.current
    || version == SchemaKind.experience.current + 1
    || version == SchemaKind.experience.current + 1 + 1

/-- `validate_contract` of a frame. -/
def validateContract (f : PackedExperienceFrame) : Contract Unit := do
  requireSchemaVersion f.schemaVersion
  failIf (knownExperienceVersion f.experienceSchemaVersion = false)
    (.incompatibleAbi .experience SchemaKind.experience.current f.experienceSchemaVersion)
  validateSensorProfileIdentity f.sensorProfileId f.sensorProfileSchemaVersion f.sensoryAbiVersion
  requireCurrentVersion .actionAbi f.actionAbiVersion
  failIf (f.flags &&& ~~~knownFlags ≠ 0) .scalarOutOfRange
  failIf (f.decisionTick < f.preActionTick ∨ f.outcomeTick < f.decisionTick) .nonMonotonicTick
  validateFiniteSlice f.position.toList
  validateFiniteSlice f.headingQuat.toList
  validateFiniteSlice f.targetPosition.toList
  f.driveSummary.toList.forM validateUnit
  f.hormoneSummary.toList.forM validateUnit
  validateUnit f.actionIntensity
  validateUnit f.actionConfidence
  validateUnit f.decisionConfidence
  validateSignedUnit f.rewardValence
  validateUnit f.frustrationDelta
  validateUnit f.painDelta
  validateSignedUnit f.energyDelta
  validateUnit f.predictionError
  validateUnit f.salienceSummary
  validateSignedUnit f.memoryExpectedValence
  validateUnit f.memorySalienceHint
  f.sideBufferSpans.validateContract

end PackedExperienceFrame

structure PackedExperienceSummary where
  schemaVersion : UInt16
  sensorProfileId : UInt16
  sensorProfileSchemaVersion : UInt16
  sensoryAbiVersion : UInt16
  organismId : UInt64
  sequenceId : UInt64
  preActionTick : UInt64
  decisionTick : UInt64
  outcomeTick : UInt64
  brainClassId : UInt16
  selectedActionId : UInt32
  selectedActionKindCode : UInt16
  success : Bool
  targetEntityId : Option UInt64
  rewardValence : F32
  salienceSummary : F32
  sideBufferRecordCount : UInt32
  deriving DecidableEq, Repr

/-- The summary of a frame that counts `sideBufferRecordCount` side records. -/
def PackedExperienceFrame.summary (f : PackedExperienceFrame) (sideBufferRecordCount : UInt32) :
    PackedExperienceSummary where
  schemaVersion := f.schemaVersion
  sensorProfileId := f.sensorProfileId
  sensorProfileSchemaVersion := f.sensorProfileSchemaVersion
  sensoryAbiVersion := f.sensoryAbiVersion
  organismId := f.organismId
  sequenceId := f.sequenceId
  preActionTick := f.preActionTick
  decisionTick := f.decisionTick
  outcomeTick := f.outcomeTick
  brainClassId := f.brainClassId
  selectedActionId := f.selectedActionId
  selectedActionKindCode := f.selectedActionKindCode
  success := f.flags &&& flagSuccess != 0
  targetEntityId := if f.flags &&& flagHasTargetEntity != 0 then some f.targetEntityId else none
  rewardValence := f.rewardValence
  salienceSummary := f.salienceSummary
  sideBufferRecordCount := sideBufferRecordCount

/-- `PackedExperienceFrame::inspect_lossy`. -/
def PackedExperienceFrame.inspectLossy (f : PackedExperienceFrame) :
    Contract PackedExperienceSummary := do
  f.validateContract
  let sideBufferRecordCount ← f.sideBufferSpans.all.foldlM
    (fun acc span => getOr (checkedAdd32 acc span.count) .packedLogSideBufferOverflow) 0
  pure (f.summary sideBufferRecordCount)

inductive PackedSideBufferKind where
  | visibleEntity | touchedEntity | heardToken | salienceCluster | memoryLink | conceptLink
  | rankedActionProposal | arbitrationDetail | semanticCode | gaussianRef | teacherSchoolRef
  | diagnosticExtra | heardUtteranceContext
  deriving DecidableEq, Repr

structure PackedSideBufferRecord where
  schemaVersion : UInt16
  kind : PackedSideBufferKind
  primaryId : UInt64
  secondaryId : UInt64
  values : Vector F32 4
  flags : UInt32
  deriving DecidableEq, Repr

/-- `validate_contract` of a side record. -/
def PackedSideBufferRecord.validateContract (r : PackedSideBufferRecord) : Contract Unit := do
  PackedExperienceFrame.requireSchemaVersion r.schemaVersion
  validateFiniteSlice r.values.toList

structure PackedExperienceRecord where
  frame : PackedExperienceFrame
  /-- The records of `side_buffers`. -/
  sideBuffers : List PackedSideBufferRecord
  deriving DecidableEq, Repr

namespace PackedExperienceRecord

/-- `validate_contract` of a record. -/
def validateContract (r : PackedExperienceRecord) : Contract Unit := do
  r.frame.validateContract
  r.sideBuffers.forM PackedSideBufferRecord.validateContract
  r.frame.sideBufferSpans.validateAgainstLen r.sideBuffers.length

/-- `PackedExperienceRecord::inspect_lossy`. -/
def inspectLossy (r : PackedExperienceRecord) : Contract PackedExperienceSummary := do
  r.validateContract
  r.frame.inspectLossy

end PackedExperienceRecord

end ALife
