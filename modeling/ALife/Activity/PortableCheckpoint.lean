/-
# Portable activity checkpoints

`PortableThrottleCheckpoint` (`crates/alife_world/src/persistence/gpu_brain_vnext.rs`),
`portable_activity_checkpoint_from_snapshot` and `activity_restore_record`
(`crates/alife_runtime/src/checkpoint_assets/state_codec.rs`).  A checkpoint
holds the last tick of a resident without the slot and the generation of its
handle; a restore computes the sample, the decision and the receipt again under
a new handle.  All fractions in it are fixed points of their own rounding, so
captures and restores do not drift (`captureRestore_stable`).
-/

import ALife.Activity.ResidentActivity

namespace ALife

open Machine

namespace Activity

structure PortableThrottleCheckpoint where
  schemaVersion : UInt16
  policyVersion : UInt16
  organismIdRaw : UInt64
  tick : UInt64
  classIdRaw : UInt16
  sequenceCursor : UInt64
  dispatchGeneration : UInt64
  frameDigest : Digest256
  sourceDispatchGeneration : UInt64
  sourceFrameDigest : Digest256
  completedGpuTimeNs : UInt64
  queueDepth : UInt32
  logicalHeapPressureQ16 : UInt32
  brainAtpFractionQ16 : UInt32
  level : NeuralThrottleLevel
  microsteps : UInt8
  enabledRouteIds : List UInt16
  routeScheduleDigest : Digest256
  work : BrainWorkCounters
  neuralCostQ24 : UInt64
  atpBeforeQ16 : UInt32
  atpDebitQ16 : UInt32
  atpAfterQ16 : UInt32
  policyDigest : Digest256
  portableDigest : Digest256
  deriving DecidableEq, Repr

/-- `PORTABLE_THROTTLE_CHECKPOINT_SCHEMA_VERSION`. -/
def portableThrottleCheckpointSchemaVersion : UInt16 := 1

/-- `throttle_level_for_pressure`. -/
def throttleLevelForPressure (policy : BrainActivityPolicyV1) (completedGpuTimeNs : UInt64)
    (queueDepth logicalHeapPressureQ16 brainAtpFractionQ16 : UInt32) : NeuralThrottleLevel :=
  let time := (thresholdBucket completedGpuTimeNs policy.gpuTimeThresholdNs).toNat
  let queue := (thresholdBucket queueDepth policy.queueDepthThresholds).toNat
  let heap := (thresholdBucket logicalHeapPressureQ16 policy.logicalHeapPressureThresholdsQ16).toNat
  let atp := (descendingAtpBucket brainAtpFractionQ16 policy.atpRemainingThresholdsQ16Desc).toNat
  match max (max (max time queue) heap) atp with
  | 0 => .full
  | 1 => .reduced
  | _ => .essentialOnly

namespace PortableThrottleCheckpoint

def recomputeDigest (c : PortableThrottleCheckpoint) : Digest256 :=
  let header := (CanonicalDigestBuilder.new (asciiBytes "alife.gpu.throttle-checkpoint.v1"))
    |>.writeU16 c.schemaVersion |>.writeU16 c.policyVersion |>.writeU64 c.organismIdRaw
    |>.writeU64 c.tick |>.writeU16 c.classIdRaw |>.writeU64 c.sequenceCursor
    |>.writeU64 c.dispatchGeneration |>.writeDigest c.frameDigest
    |>.writeU64 c.sourceDispatchGeneration |>.writeDigest c.sourceFrameDigest
    |>.writeU64 c.completedGpuTimeNs |>.writeU32 c.queueDepth |>.writeU32 c.logicalHeapPressureQ16
    |>.writeU32 c.brainAtpFractionQ16 |>.writeU8 c.level.raw |>.writeU8 c.microsteps
    |>.writeSequenceLen c.enabledRouteIds.length
  (c.enabledRouteIds.foldl CanonicalDigestBuilder.writeU16 header)
    |>.writeDigest c.routeScheduleDigest |>.writeU32 c.work.microsteps
    |>.writeU64 c.work.neuronUpdates |>.writeU64 c.work.tileVisits |>.writeU64 c.work.synapseOps
    |>.writeU64 c.work.decoderCandidateOps |>.writeU64 c.work.memoryContextOps
    |>.writeU64 c.neuralCostQ24 |>.writeU32 c.atpBeforeQ16 |>.writeU32 c.atpDebitQ16
    |>.writeU32 c.atpAfterQ16 |>.writeDigest c.policyDigest
    |>.finish256

/-- The digest does not cover its own field. -/
theorem recomputeDigest_withDigest (c : PortableThrottleCheckpoint) (digest : Digest256) :
    { c with portableDigest := digest }.recomputeDigest = c.recomputeDigest := rfl

def validate (c : PortableThrottleCheckpoint) : Contract Unit := do
  let policy := BrainActivityPolicyV1.productionV1
  policy.validateContract
  let expectedCost ← policy.cost.neuralCostQ24 c.work
  let expectedDebit ← policy.cost.q24ToAtpQ16RoundHalfUp expectedCost
  let expectedLevel := throttleLevelForPressure policy c.completedGpuTimeNs c.queueDepth
    c.logicalHeapPressureQ16 c.brainAtpFractionQ16
  failIf (c.schemaVersion ≠ portableThrottleCheckpointSchemaVersion
      ∨ c.policyVersion ≠ policy.policyVersion
      ∨ c.policyDigest ≠ policy.policyDigest
      ∨ c.organismIdRaw = 0
      ∨ (productionForId c.classIdRaw.toNat).isOk = false
      ∨ c.sequenceCursor = 0
      ∨ c.dispatchGeneration = 0
      ∨ c.frameDigest = .zero
      ∨ c.dispatchGeneration ≤ c.sourceDispatchGeneration
      ∨ ¬(c.sourceDispatchGeneration = 0 ↔ c.sourceFrameDigest = .zero)
      ∨ brainAtpQ16Max < c.logicalHeapPressureQ16
      ∨ brainAtpQ16Max < c.brainAtpFractionQ16
      ∨ c.level ≠ expectedLevel
      ∨ c.microsteps = 0
      ∨ c.work.microsteps ≠ c.microsteps.toUInt32
      ∨ c.enabledRouteIds = []
      ∨ ¬c.enabledRouteIds.Pairwise (· < ·)
      ∨ c.routeScheduleDigest = .zero
      ∨ c.neuralCostQ24 ≠ expectedCost
      ∨ c.atpDebitQ16 ≠ expectedDebit
      ∨ checkedSub32 c.atpBeforeQ16 expectedDebit ≠ some c.atpAfterQ16
      ∨ c.portableDigest = .zero ∨ c.portableDigest ≠ c.recomputeDigest)
    .brainActivitySequenceMismatch

/-- `seal`. -/
def sealCheckpoint (c : PortableThrottleCheckpoint) : Contract PortableThrottleCheckpoint := do
  let c := { c with portableDigest := c.recomputeDigest }
  c.validate
  .ok c

end PortableThrottleCheckpoint

/-- The fields of a checkpoint, before its digest is set. -/
def checkpointFields (pressure : GpuPressureSample) (throttle : NeuralThrottleDecision)
    (work : BrainWorkReceipt) : PortableThrottleCheckpoint where
  schemaVersion := portableThrottleCheckpointSchemaVersion
  policyVersion := throttle.policyVersion
  organismIdRaw := pressure.organismIdRaw
  tick := pressure.tick
  classIdRaw := pressure.classIdRaw
  sequenceCursor := pressure.sequenceCursor
  dispatchGeneration := pressure.dispatchGeneration
  frameDigest := pressure.frameDigest
  sourceDispatchGeneration := pressure.sourceDispatchGeneration
  sourceFrameDigest := pressure.sourceFrameDigest
  completedGpuTimeNs := pressure.completedGpuTimeNs
  queueDepth := pressure.queueDepth
  logicalHeapPressureQ16 := pressure.logicalHeapPressureQ16
  brainAtpFractionQ16 := pressure.brainAtpFractionQ16
  level := throttle.level
  microsteps := throttle.microsteps
  enabledRouteIds := throttle.enabledRouteIds
  routeScheduleDigest := throttle.routeScheduleDigest
  work := work.counters
  neuralCostQ24 := work.neuralCostQ24
  atpBeforeQ16 := work.atpBeforeQ16
  atpDebitQ16 := work.atpDebitQ16
  atpAfterQ16 := work.atpAfterQ16
  policyDigest := throttle.policyDigest
  portableDigest := .zero

def portableActivityCheckpointFromSnapshot (snapshot : GpuActivityRuntimeSnapshot) :
    Contract (List PortableThrottleCheckpoint) :=
  match snapshot.pressure, snapshot.throttle, snapshot.work with
  | some pressure, some throttle, some work => do
    failIf (snapshot.nextSequenceCursor ≠ cursorAfter pressure.sequenceCursor)
      .brainActivitySequenceMismatch
    let checkpoint ← (checkpointFields pressure throttle work).sealCheckpoint
    .ok [checkpoint]
  | none, none, none => do
    failIf (snapshot.nextSequenceCursor ≠ 1) .brainActivitySequenceMismatch
    .ok []
  | _, _, _ => .error .brainActivitySequenceMismatch

def activityRestoreRecord (c : PortableThrottleCheckpoint) : GpuPortableActivityRestoreRecord where
  policyVersion := c.policyVersion
  organismIdRaw := c.organismIdRaw
  tick := c.tick
  classIdRaw := c.classIdRaw
  sequenceCursor := c.sequenceCursor
  dispatchGeneration := c.dispatchGeneration
  frameDigest := c.frameDigest
  sourceDispatchGeneration := c.sourceDispatchGeneration
  sourceFrameDigest := c.sourceFrameDigest
  completedGpuTimeNs := c.completedGpuTimeNs
  queueDepth := c.queueDepth
  logicalHeapPressureQ16 := c.logicalHeapPressureQ16
  brainAtpFractionQ16 := c.brainAtpFractionQ16
  level := c.level
  microsteps := c.microsteps
  enabledRouteIds := c.enabledRouteIds
  routeScheduleDigest := c.routeScheduleDigest
  work := c.work
  neuralCostQ24 := c.neuralCostQ24
  atpBeforeQ16 := c.atpBeforeQ16
  atpDebitQ16 := c.atpDebitQ16
  atpAfterQ16 := c.atpAfterQ16
  policyDigest := c.policyDigest

/-- The restore of a snapshot through its portable checkpoint, at a checkpoint tick. -/
def restoreInput (checkpointTick : UInt64) (snapshot : GpuActivityRuntimeSnapshot)
    (checkpoints : List PortableThrottleCheckpoint) : GpuActivityRestoreInput where
  nextSequenceCursor := snapshot.nextSequenceCursor
  checkpointTick := checkpointTick
  nextCompletedGpuTimeNs := snapshot.nextCompletedGpuTimeNs
  brainAtpQ16 := snapshot.brainAtpQ16
  lastWorldAtpTick := snapshot.lastWorldAtpTick
  record := checkpoints.head?.map activityRestoreRecord

/-- One capture and one restore: a snapshot is converted, restored on the handle of another
resident, and taken again there. -/
def captureRestore (checkpointTick : UInt64) (snapshot : GpuActivityRuntimeSnapshot)
    (target : GpuClosedLoopBackend × GpuBrainHandle) : Contract GpuActivityRuntimeSnapshot := do
  let checkpoints ← portableActivityCheckpointFromSnapshot snapshot
  let restored ← target.1.restoreActivityState target.2
    (restoreInput checkpointTick snapshot checkpoints)
  restored.snapshotActivityState target.2

/-! ## The same activity under another handle -/

/-- A sample with its digest computed again. -/
def resealPressure (s : GpuPressureSample) : GpuPressureSample :=
  { s with sampleDigest := s.recomputeDigest }

def resealThrottle (d : NeuralThrottleDecision) : NeuralThrottleDecision :=
  { d with decisionDigest := d.recomputeDigest }

theorem resealPressure_withDigest (s : GpuPressureSample) (digest : Digest256) :
    resealPressure { s with sampleDigest := digest } = resealPressure s := by
  unfold resealPressure
  rw [GpuPressureSample.recomputeDigest_withDigest]

theorem resealThrottle_withDigest (d : NeuralThrottleDecision) (digest : Digest256) :
    resealThrottle { d with decisionDigest := digest } = resealThrottle d := by
  unfold resealThrottle
  rw [NeuralThrottleDecision.recomputeDigest_withDigest]

theorem sealed_withDigest (r : BrainWorkReceipt) (digest : Digest256) :
    { r with receiptDigest := digest }.sealed = r.sealed := by
  unfold BrainWorkReceipt.sealed
  rw [BrainWorkReceipt.recomputeDigest_withDigest]

/-- A sample under another handle. -/
def rebindPressure (handle : GpuBrainHandle) (s : GpuPressureSample) : GpuPressureSample :=
  resealPressure { s with handleSlot := handle.slot, handleGeneration := handle.generation }

/-- A decision under another handle, with its sample. -/
def rebindThrottle (handle : GpuBrainHandle) (d : NeuralThrottleDecision) :
    NeuralThrottleDecision :=
  resealThrottle { d with
    handleSlot := handle.slot
    handleGeneration := handle.generation
    pressure := rebindPressure handle d.pressure
    pressureDigest := (rebindPressure handle d.pressure).sampleDigest }

/-- A receipt under another handle. -/
def rebindWork (handle : GpuBrainHandle) (r : BrainWorkReceipt) : BrainWorkReceipt :=
  { r with handleSlot := handle.slot, handleGeneration := handle.generation }.sealed

def ResidentActivity.rebind (handle : GpuBrainHandle) (activity : ResidentActivity) :
    ResidentActivity :=
  ⟨rebindThrottle handle activity.throttle, rebindWork handle activity.work⟩

/-- A snapshot under another handle: only slots, generations and the digests over them differ. -/
def GpuActivityRuntimeSnapshot.rebind (handle : GpuBrainHandle)
    (snapshot : GpuActivityRuntimeSnapshot) : GpuActivityRuntimeSnapshot :=
  { snapshot with
    pressure := snapshot.pressure.map (rebindPressure handle)
    throttle := snapshot.throttle.map (rebindThrottle handle)
    work := snapshot.work.map (rebindWork handle) }

section Rebind

variable (handle handle' : GpuBrainHandle)

theorem rebindPressure_rebindPressure (s : GpuPressureSample) :
    rebindPressure handle' (rebindPressure handle s) = rebindPressure handle' s :=
  resealPressure_withDigest
    { s with handleSlot := handle'.slot, handleGeneration := handle'.generation } _

theorem rebindThrottle_rebindThrottle (d : NeuralThrottleDecision) :
    rebindThrottle handle' (rebindThrottle handle d) = rebindThrottle handle' d := by
  have hpressure : (rebindThrottle handle d).pressure = rebindPressure handle d.pressure := rfl
  unfold rebindThrottle at hpressure ⊢
  rw [hpressure, rebindPressure_rebindPressure]
  exact resealThrottle_withDigest
    { d with
      handleSlot := handle'.slot
      handleGeneration := handle'.generation
      pressure := rebindPressure handle' d.pressure
      pressureDigest := (rebindPressure handle' d.pressure).sampleDigest } _

theorem rebindWork_rebindWork (r : BrainWorkReceipt) :
    rebindWork handle' (rebindWork handle r) = rebindWork handle' r :=
  sealed_withDigest
    { r with handleSlot := handle'.slot, handleGeneration := handle'.generation } _

/-- A binding is forgotten by the next one. -/
theorem GpuActivityRuntimeSnapshot.rebind_rebind (snapshot : GpuActivityRuntimeSnapshot) :
    (snapshot.rebind handle).rebind handle' = snapshot.rebind handle' := by
  simp only [GpuActivityRuntimeSnapshot.rebind, Option.map_map, Function.comp_def,
    rebindPressure_rebindPressure, rebindThrottle_rebindThrottle, rebindWork_rebindWork]

end Rebind

/-! ## Rebinding goes through the validators -/

section Valid

variable {handle handle' : GpuBrainHandle} {s : GpuPressureSample}

/-- What a valid sample is. -/
structure PressureParts (s : GpuPressureSample) : Prop where
  identity : s.dispatchIdentity.validateContract = .ok ()
  schemaVersion : s.schemaVersion = BrainActivityPolicyV1.productionV1.schemaVersion
  policyVersion : s.policyVersion = BrainActivityPolicyV1.productionV1.policyVersion
  heap_le : s.logicalHeapPressureQ16 ≤ brainAtpQ16Max
  atp_le : s.brainAtpFractionQ16 ≤ brainAtpQ16Max
  time : s.completedGpuTimeBucket = (thresholdBucket s.completedGpuTimeNs
    BrainActivityPolicyV1.productionV1.gpuTimeThresholdNs).toUInt16
  queue : s.queueDepthBucket
    = thresholdBucket s.queueDepth BrainActivityPolicyV1.productionV1.queueDepthThresholds
  heap : s.neuralHeapPressureBucket = thresholdBucket s.logicalHeapPressureQ16
    BrainActivityPolicyV1.productionV1.logicalHeapPressureThresholdsQ16
  atp : s.brainAtpBucket = descendingAtpBucket s.brainAtpFractionQ16
    BrainActivityPolicyV1.productionV1.atpRemainingThresholdsQ16Desc
  source : s.sourceDispatchGeneration < s.dispatchGeneration ∧
    (s.sourceDispatchGeneration = 0 ↔ s.sourceFrameDigest = .zero)

theorem pressureParts_of_validateFor (h : s.validateFor .productionV1 = .ok ()) :
    PressureParts s := by
  unfold GpuPressureSample.validateFor at h
  obtain ⟨-, h⟩ := except_seq_eq_ok_iff.1 h
  obtain ⟨hidentity, h⟩ := except_seq_eq_ok_iff.1 h
  rw [failIf_eq_ok_iff] at h
  simp only [not_or, not_not, UInt32.not_lt] at h
  obtain ⟨hschema, hversion, hheapLe, hatpLe, htime, hqueue, hheap, hatp, hsource, -, -⟩ := h
  exact ⟨hidentity, hschema, hversion, hheapLe, hatpLe, htime, hqueue, hheap, hatp, hsource⟩

/-- The identity under another handle. -/
theorem validateContract_rebind (h : s.dispatchIdentity.validateContract = .ok ())
    (hgeneration : handle.generation ≠ 0) :
    (rebindPressure handle s).dispatchIdentity.validateContract = .ok () := by
  unfold BrainDispatchIdentity.validateContract at h ⊢
  rw [failIf_eq_ok_iff] at h ⊢
  simp only [not_or] at h ⊢
  obtain ⟨horganism, hclass, -, hcursor, hdispatch, hframe⟩ := h
  exact ⟨horganism, hclass, hgeneration, hcursor, hdispatch, hframe⟩

/-- **The fractions of a sample are fixed points.**  Measured again from what was saved, a valid
sample is the same sample under the new handle. -/
theorem tryNew_measurement (hs : s.validateFor .productionV1 = .ok ())
    (hgeneration : handle.generation ≠ 0) {throttle : NeuralThrottleDecision}
    {work : BrainWorkReceipt} {digest : Digest256} {record : GpuPortableActivityRestoreRecord}
    (hrecord : record = activityRestoreRecord
      { checkpointFields s throttle work with portableDigest := digest }) :
    GpuPressureSample.tryNew .productionV1 (record.measurement (record.identityFor handle))
      = .ok (rebindPressure handle s) := by
  have hparts := pressureParts_of_validateFor hs
  have hidentity : record.identityFor handle = (rebindPressure handle s).dispatchIdentity := by
    rw [hrecord]
    rfl
  have hnew : GpuPressureSample.tryNew .productionV1
      (record.measurement (record.identityFor handle)) = .ok (.sealed .productionV1 (record.measurement (record.identityFor handle))
        s.logicalHeapPressureQ16 s.brainAtpFractionQ16) := by
    refine GpuPressureSample.tryNew_eq_sealed ?_ ?_ ?_ ?_
    · change (record.identityFor handle).validateContract = .ok ()
      rw [hidentity]
      exact validateContract_rebind hparts.identity hgeneration
    · rw [hrecord]
      exact hparts.source
    · rw [hrecord]
      exact q16Fraction_self hparts.heap_le
    · rw [hrecord]
      exact q16Fraction_self hparts.atp_le
  rw [hnew, hrecord]
  refine congrArg Except.ok ?_
  have hfields : ({ s with handleSlot := handle.slot, handleGeneration := handle.generation } :
      GpuPressureSample) = { GpuPressureSample.fields .productionV1
        ((activityRestoreRecord { checkpointFields s throttle work with
          portableDigest := digest }).measurement ((activityRestoreRecord
            { checkpointFields s throttle work with portableDigest := digest }).identityFor handle))
        s.logicalHeapPressureQ16 s.brainAtpFractionQ16 with sampleDigest := s.sampleDigest } := by
    unfold GpuPressureSample.fields
    rw [GpuPressureSample.mk.injEq]
    exact ⟨hparts.schemaVersion, hparts.policyVersion, rfl, rfl, rfl, rfl, rfl, rfl, rfl, rfl, rfl,
      rfl, rfl, rfl, hparts.time, hparts.queue, hparts.heap, hparts.atp, rfl, rfl, rfl⟩
  unfold rebindPressure
  rw [hfields, resealPressure_withDigest]
  rfl

/-- A decision is derived again under another handle. -/
theorem derive_rebind {phenotype : BrainPhenotype} {execution : BrainExecutionBudget}
    {d : NeuralThrottleDecision}
    (hd : NeuralThrottleDecision.derive .productionV1 phenotype execution s.dispatchIdentity s
      = .ok d) (hvalid : (rebindPressure handle s).validateFor .productionV1 = .ok ()) :
    NeuralThrottleDecision.derive .productionV1 phenotype execution
      (rebindPressure handle s).dispatchIdentity (rebindPressure handle s)
      = .ok (rebindThrottle handle d) := by
  obtain ⟨hadmissible, hroutes, rfl⟩ := NeuralThrottleDecision.derive_eq_ok_iff.1 hd
  have hlevel : (rebindPressure handle s).throttleLevel = s.throttleLevel := rfl
  refine NeuralThrottleDecision.derive_eq_ok_iff.2
    ⟨{ hadmissible with pressure_valid := hvalid, identity_eq := rfl }, hroutes, ?_⟩
  rw [hlevel]
  exact resealThrottle_withDigest (NeuralThrottleDecision.fields .productionV1 phenotype
    (rebindPressure handle s).dispatchIdentity (rebindPressure handle s) _ _) _

/-- A receipt tallies with the decision it was issued for, under any handle. -/
theorem tallies_rebind {d : NeuralThrottleDecision} {r : BrainWorkReceipt}
    (h : r.Tallies .productionV1 d) :
    (rebindWork handle r).Tallies .productionV1 (rebindThrottle handle d) where
  policy_eq := rfl
  fields_eq := by
    have hkept : ({ r with handleSlot := handle.slot, handleGeneration := handle.generation } :
        BrainWorkReceipt) = { BrainWorkReceipt.fields .productionV1 (rebindThrottle handle d)
          r.counters r.atpBeforeQ16 r.neuralCostQ24 r.atpDebitQ16 r.atpAfterQ16 with
          receiptDigest := r.receiptDigest } := by
      obtain ⟨hschema, hclass, horganism, htick, -, -, hdispatch, hframe, hcursor, hroute, -⟩ :=
        BrainWorkReceipt.eq_sealed_iff.1 h.fields_eq
      unfold BrainWorkReceipt.fields
      rw [BrainWorkReceipt.mk.injEq]
      exact ⟨hschema, hclass, horganism, htick, rfl, rfl, hdispatch, hframe, hcursor, rfl, hroute,
        rfl, rfl, rfl, rfl, rfl⟩
    unfold rebindWork
    rw [hkept]
    exact sealed_withDigest _ _
  microsteps := h.microsteps
  cost := h.cost
  debit := h.debit
  balance := h.balance

/-- **A saved tick is restored as it was.**  Its record, rebound to a handle of the same organism
and class, is the same activity under that handle. -/
theorem rebound_record {phenotype : BrainPhenotype} {activity : ResidentActivity}
    (h : activity.Bound handle phenotype) {digest : Digest256}
    {record : GpuPortableActivityRestoreRecord} (hrecord : record = activityRestoreRecord
      { checkpointFields activity.throttle.pressure activity.throttle activity.work with
        portableDigest := digest })
    (horganism : handle'.organismIdRaw = handle.organismIdRaw)
    (hclass : handle'.classId = handle.classId) (hgeneration : handle'.generation ≠ 0)
    {input : GpuActivityRestoreInput}
    (htick : activity.throttle.pressure.tick ≤ input.checkpointTick)
    (hcursor : input.nextSequenceCursor = cursorAfter activity.throttle.pressure.sequenceCursor)
    {r : ResidentBrainSlot} (hphenotype : r.phenotype = phenotype) :
    ResidentBrainSlot.rebound handle' input record r = .ok (activity.rebind handle') ∧
      (activity.rebind handle').Bound handle' phenotype := by
  have hadmissible := (NeuralThrottleDecision.derive_eq_ok_iff.1 h.derived).1
  have hfields := (NeuralThrottleDecision.derive_eq_ok_iff.1 h.derived).2.2
  have hpressure := tryNew_measurement hadmissible.pressure_valid hgeneration hrecord
  have hvalid := (GpuPressureSample.tryNew_eq_ok hpressure).2.1
  have hderive := derive_rebind h.derived hvalid
  have htallies : (rebindWork handle' activity.work).Tallies .productionV1
      (rebindThrottle handle' activity.throttle) := tallies_rebind h.tallies
  have hwork : BrainWorkReceipt.tryNew .productionV1
      (rebindThrottle handle' activity.throttle) activity.work.counters activity.work.atpBeforeQ16
      = .ok (rebindWork handle' activity.work) :=
    BrainWorkReceipt.tryNew_eq_ok_iff.2 ⟨htallies, rfl, rfl, h.before_le⟩
  have hsupported : capacityForGpuClass handle'.classId = .ok .production :=
    capacityForGpuClass_eq_ok_iff.2 ⟨hclass ▸ h.supported, rfl⟩
  have hidentity : record.identityFor handle'
      = (rebindPressure handle' activity.throttle.pressure).dispatchIdentity := by
    rw [hrecord]
    rfl
  have hatp := (pressureParts_of_validateFor hadmissible.pressure_valid).atp_le
  have hversion := congrArg NeuralThrottleDecision.policyVersion hfields
  have hdigest := congrArg NeuralThrottleDecision.policyDigest hfields
  refine ⟨?_, (ResidentBrainSlot.bound_of_derive ⟨?_, ?_, rfl, rfl⟩ hsupported hderive hwork).1⟩
  · unfold ResidentBrainSlot.rebound
    rw [except_seq_eq_ok_iff, failIf_eq_ok_iff]
    simp only [not_or, not_not, UInt64.not_lt, UInt32.not_lt]
    refine ⟨?_, except_bind_eq_ok_iff.2 ⟨_, hpressure, except_bind_eq_ok_iff.2 ⟨_, hsupported,
      except_bind_eq_ok_iff.2 ⟨_, ?_, except_seq_eq_ok_iff.2 ⟨?_, except_bind_eq_ok_iff.2
        ⟨_, ?_, except_seq_eq_ok_iff.2 ⟨?_, rfl⟩⟩⟩⟩⟩⟩⟩
    · rw [hrecord]
      exact ⟨hversion, hdigest, h.organism_eq.trans horganism.symm,
        h.class_eq.trans (by rw [hclass]), htick, hcursor, hatp⟩
    · rw [hidentity, hphenotype]
      exact hderive
    · rw [hrecord, failIf_eq_ok_iff]
      simp only [not_or, not_not]
      exact ⟨rfl, rfl, rfl, rfl⟩
    · rw [hrecord]
      exact hwork
    · rw [hrecord, failIf_eq_ok_iff]
      simp only [not_or, not_not]
      exact ⟨rfl, rfl, rfl⟩
  · exact h.organism_eq.trans horganism.symm
  · exact h.class_eq.trans (by rw [hclass])

/-- The checkpoint of a last tick. -/
def checkpointOf (activity : ResidentActivity) : PortableThrottleCheckpoint :=
  let fields := checkpointFields activity.throttle.pressure activity.throttle activity.work
  { fields with portableDigest := fields.recomputeDigest }

/-- A checkpoint does not know the handle. -/
theorem checkpointOf_rebind (activity : ResidentActivity) :
    checkpointOf (activity.rebind handle) = checkpointOf activity := by
  have hfields : checkpointFields (rebindPressure handle activity.throttle.pressure)
      (rebindThrottle handle activity.throttle) (rebindWork handle activity.work)
      = checkpointFields activity.throttle.pressure activity.throttle activity.work := rfl
  unfold checkpointOf
  exact congrArg
    (fun fields : PortableThrottleCheckpoint =>
      { fields with portableDigest := fields.recomputeDigest }) hfields

/-- The level that a checkpoint expects is the level of the sample. -/
theorem throttleLevelForPressure_eq (h : PressureParts s) :
    throttleLevelForPressure .productionV1 s.completedGpuTimeNs s.queueDepth
      s.logicalHeapPressureQ16 s.brainAtpFractionQ16 = s.throttleLevel := by
  unfold throttleLevelForPressure GpuPressureSample.throttleLevel GpuPressureSample.worstBucket
  rw [h.time, h.queue, h.heap, h.atp, UInt8.toNat_toUInt16] <;> rfl

/-- **The last tick of a production brain can be saved.** -/
theorem sealCheckpoint_of_bound {phenotype : BrainPhenotype} {activity : ResidentActivity}
    (h : activity.Bound handle phenotype)
    (hproduction : productionForId handle.classId.raw.toNat = .ok ()) :
    (checkpointFields activity.throttle.pressure activity.throttle activity.work).sealCheckpoint
      = .ok (checkpointOf activity) := by
  obtain ⟨hadmissible, hroutes, hfields⟩ := NeuralThrottleDecision.derive_eq_ok_iff.1 h.derived
  have hparts := pressureParts_of_validateFor hadmissible.pressure_valid
  have hidentity := hparts.identity
  unfold BrainDispatchIdentity.validateContract at hidentity
  rw [failIf_eq_ok_iff] at hidentity
  simp only [not_or] at hidentity
  obtain ⟨horganism, -, -, hcursor, hdispatch, hframe⟩ := hidentity
  have hmicrosteps : activity.throttle.microsteps ≠ 0 := by
    have hleast := (NeuralThrottleDecision.throttledMicrosteps_mem
      activity.throttle.pressure.throttleLevel hadmissible.le_configured).1
    rw [congrArg NeuralThrottleDecision.microsteps hfields]
    intro hzero
    change BrainExecutionBudget.production.minMicrosteps ≤ _ at hleast
    have hbelow : BrainExecutionBudget.production.minMicrosteps ≤ 0 := hzero ▸ hleast
    exact absurd hbelow (by decide)
  have hids := congrArg NeuralThrottleDecision.enabledRouteIds hfields
  have hascending : activity.throttle.enabledRouteIds.Pairwise (· < ·) := by
    rw [hids]
    exact (NeuralThrottleDecision.pairwise_routesAt _ _).imp UInt16.lt_iff_toNat_lt.2
  have hschedule : activity.throttle.routeScheduleDigest ≠ .zero := by
    rw [congrArg NeuralThrottleDecision.routeScheduleDigest hfields]
    exact routeScheduleDigest_ne_zero _ _ _
  have hisOk : (productionForId activity.throttle.pressure.classIdRaw.toNat).isOk = true := by
    rw [h.class_eq, hproduction]
    rfl
  unfold PortableThrottleCheckpoint.sealCheckpoint PortableThrottleCheckpoint.validate
  rw [except_seq_eq_ok_iff, except_seq_eq_ok_iff, BrainActivityPolicyV1.validateContract_eq_ok_iff,
    except_bind_eq_ok_iff]
  refine ⟨⟨rfl, activity.work.neuralCostQ24,
    BrainAtpCostModel.neuralCostQ24_eq_ok_iff.2 ⟨rfl, h.tallies.cost⟩,
    except_bind_eq_ok_iff.2 ⟨activity.work.atpDebitQ16,
      BrainAtpCostModel.q24ToAtpQ16RoundHalfUp_eq_ok_iff.2
        ⟨rfl, h.tallies.cost ▸ h.tallies.debit⟩, ?_⟩⟩, rfl⟩
  rw [failIf_eq_ok_iff]
  simp only [not_or, not_not, UInt32.not_lt, UInt64.not_le, Bool.not_eq_false]
  exact ⟨rfl, congrArg NeuralThrottleDecision.policyVersion hfields,
    congrArg NeuralThrottleDecision.policyDigest hfields, horganism, hisOk, hcursor, hdispatch,
    hframe, hparts.source.1, hparts.source.2, hparts.heap_le, hparts.atp_le,
    (congrArg NeuralThrottleDecision.level hfields).trans (throttleLevelForPressure_eq hparts).symm,
    hmicrosteps, h.tallies.microsteps, fun hnil => hroutes (hids.symm.trans hnil), hascending,
    hschedule, rfl, rfl, checkedSub32_eq_some_iff.2 h.tallies.balance,
    CanonicalDigestBuilder.finish256_ne_zero _,
    (PortableThrottleCheckpoint.recomputeDigest_withDigest _ _).symm⟩

/-- Only a production class can be saved. -/
theorem productionForId_of_sealCheckpoint {c c' : PortableThrottleCheckpoint}
    (h : c.sealCheckpoint = .ok c') : productionForId c.classIdRaw.toNat = .ok () := by
  unfold PortableThrottleCheckpoint.sealCheckpoint PortableThrottleCheckpoint.validate at h
  obtain ⟨h, -⟩ := except_seq_eq_ok_iff.1 h
  obtain ⟨-, h⟩ := except_seq_eq_ok_iff.1 h
  obtain ⟨_, -, h⟩ := except_bind_eq_ok_iff.1 h
  obtain ⟨_, -, h⟩ := except_bind_eq_ok_iff.1 h
  rw [failIf_eq_ok_iff] at h
  simp only [not_or, Bool.not_eq_false] at h
  obtain ⟨⟨⟩, hclass⟩ := exists_eq_ok_of_isOk h.2.2.2.2.1
  exact hclass

end Valid

/-! ## Capture and restore -/

/-- A snapshot of a resident that can be captured. -/
structure Captured (handle : GpuBrainHandle) (phenotype : BrainPhenotype)
    (s : GpuActivityRuntimeSnapshot) (r : ResidentBrainSlot) : Prop where
  sound : r.Sound handle
  phenotype_eq : r.phenotype = phenotype
  cursor_ne_zero : r.activitySequenceCursor ≠ 0
  snapshot_eq : s = r.snapshot

/-- A snapshot of no later than a checkpoint tick. -/
structure GpuActivityRuntimeSnapshot.TakenBy (checkpointTick : UInt64)
    (s : GpuActivityRuntimeSnapshot) : Prop where
  atp_le : ∀ tick ∈ s.lastWorldAtpTick, tick ≤ checkpointTick
  activity_le : ∀ pressure ∈ s.pressure, pressure.tick ≤ checkpointTick

/-- A ready backend with a new resident of the same organism, class and phenotype. -/
structure Receives (handle : GpuBrainHandle) (phenotype : BrainPhenotype)
    (target : GpuClosedLoopBackend × GpuBrainHandle) : Prop where
  ready : target.1.ready = true
  backend_eq : target.2.backendInstanceId = target.1.backendInstanceId
  resident : ∃ r, target.1.residents target.2 = some r ∧ r.phenotype = phenotype
  organism_eq : target.2.organismIdRaw = handle.organismIdRaw
  class_eq : target.2.classId = handle.classId
  generation_ne_zero : target.2.generation ≠ 0

section Cycle

variable {handle : GpuBrainHandle} {phenotype : BrainPhenotype} {s : GpuActivityRuntimeSnapshot}
  {r : ResidentBrainSlot} {checkpointTick : UInt64}
  {target : GpuClosedLoopBackend × GpuBrainHandle}

/-- The checkpoints of a captured snapshot. -/
theorem Captured.portable_eq (h : Captured handle phenotype s r)
    (hproduction : s.pressure = none ∨ productionForId handle.classId.raw.toNat = .ok ()) :
    portableActivityCheckpointFromSnapshot s = .ok (r.lastActivity.toList.map checkpointOf) := by
  obtain ⟨hsound, -, -, rfl⟩ := h
  unfold portableActivityCheckpointFromSnapshot ResidentBrainSlot.snapshot at *
  cases hlast : r.lastActivity with
  | none =>
    simp only [Option.map_none]
    rw [except_seq_eq_ok_iff, failIf_eq_ok_iff, not_not]
    exact ⟨(hsound.idle hlast).1, rfl⟩
  | some activity =>
    obtain ⟨hbound, hcursor⟩ := hsound.bound activity hlast
    rw [hlast] at hproduction
    simp only [Option.map_some]
    rw [except_seq_eq_ok_iff, failIf_eq_ok_iff, not_not]
    exact ⟨hcursor, except_bind_eq_ok_iff.2 ⟨_, sealCheckpoint_of_bound hbound
      (hproduction.resolve_left (Option.some_ne_none _)), rfl⟩⟩

/-- **One capture and one restore.**  The restored resident is captured again, as the same
snapshot under the new handle. -/
theorem Captured.captureRestore (h : Captured handle phenotype s r)
    (hproduction : s.pressure = none ∨ productionForId handle.classId.raw.toNat = .ok ())
    (htaken : s.TakenBy checkpointTick) (htarget : Receives handle phenotype target) :
    Activity.captureRestore checkpointTick s target = .ok (s.rebind target.2) ∧
      ∃ r', Captured target.2 phenotype (s.rebind target.2) r' ∧
        r'.lastActivity = r.lastActivity.map (ResidentActivity.rebind target.2) := by
  obtain ⟨old, hold, hphenotype⟩ := htarget.resident
  have hportable := h.portable_eq hproduction
  obtain ⟨hsound, hsame, hcursor, rfl⟩ := h
  let input := restoreInput checkpointTick r.snapshot (r.lastActivity.toList.map checkpointOf)
  let r' : ResidentBrainSlot :=
    { phenotype := old.phenotype
      activitySequenceCursor := r.activitySequenceCursor
      brainAtpQ16 := r.brainAtpQ16
      lastWorldAtpTick := r.lastWorldAtpTick
      lastCompletedGpuTimeNs := r.lastCompletedGpuTimeNs
      lastActivity := r.lastActivity.map (ResidentActivity.rebind target.2) }
  have hrestored : ResidentBrainSlot.restoredActivity target.2 input old = .ok r'.lastActivity := by
    unfold ResidentBrainSlot.restoredActivity
    cases hlast : r.lastActivity with
    | none =>
      have hrecord : input.record = none := by simp [input, restoreInput, hlast]
      have hnone : r'.lastActivity = none := by simp [r', hlast]
      rw [hrecord, hnone]
      dsimp only
      rw [except_seq_eq_ok_iff, failIf_eq_ok_iff, not_not]
      exact ⟨hsound.idle hlast, rfl⟩
    | some activity =>
      obtain ⟨hbound, hnext⟩ := hsound.bound activity hlast
      have hrecord : input.record = some (activityRestoreRecord (checkpointOf activity)) := by
        simp [input, restoreInput, hlast]
      have hsome : r'.lastActivity = some (activity.rebind target.2) := by simp [r', hlast]
      have htick : activity.throttle.pressure.tick ≤ checkpointTick :=
        htaken.activity_le _ (by simp [ResidentBrainSlot.snapshot, hlast])
      rw [hrecord, hsome]
      exact except_bind_eq_ok_iff.2 ⟨_, (rebound_record hbound rfl htarget.organism_eq
        htarget.class_eq htarget.generation_ne_zero htick hnext (hphenotype.trans hsame.symm)).1,
        rfl⟩
  have hrestore : old.restoreActivityState target.2 input = .ok r' :=
    except_bind_eq_ok_iff.2 ⟨_, hrestored, rfl⟩
  have hsound' : r'.Sound target.2 :=
    ResidentBrainSlot.sound_of_restoreActivityState hsound.atp_le hrestore
  have hsnapshot : r.snapshot.rebind target.2 = r'.snapshot := by
    cases hlast : r.lastActivity <;>
      simp [r', GpuActivityRuntimeSnapshot.rebind, ResidentBrainSlot.snapshot, hlast,
        ResidentActivity.rebind, rebindThrottle, resealThrottle]
  refine ⟨?_, r', ⟨hsound', hphenotype, hcursor, hsnapshot⟩, rfl⟩
  have hrun : target.1.restoreActivityState target.2 input
      = .ok (target.1.setResident target.2 r') := by
    unfold GpuClosedLoopBackend.restoreActivityState GpuClosedLoopBackend.ensureReady
      GpuClosedLoopBackend.validateHandleBackend GpuClosedLoopBackend.resident
    rw [except_seq_eq_ok_iff, except_seq_eq_ok_iff, except_seq_eq_ok_iff, except_bind_eq_ok_iff]
    simp only [failIf_eq_ok_iff, not_or, not_exists, not_and, UInt64.not_lt, UInt32.not_lt,
      Bool.not_eq_false, not_not]
    exact ⟨htarget.ready, htarget.backend_eq, ⟨hsound.atp_le, htaken.atp_le⟩, old,
      getOr_eq_ok_iff.2 hold, except_bind_eq_ok_iff.2 ⟨_, hrestore, rfl⟩⟩
  refine except_bind_eq_ok_iff.2 ⟨_, hportable, except_bind_eq_ok_iff.2 ⟨_, hrun, ?_⟩⟩
  unfold GpuClosedLoopBackend.snapshotActivityState GpuClosedLoopBackend.validateHandleBackend
    GpuClosedLoopBackend.resident
  rw [except_seq_eq_ok_iff, failIf_eq_ok_iff, not_not, GpuClosedLoopBackend.residents_setResident]
  refine ⟨htarget.backend_eq, except_bind_eq_ok_iff.2 ⟨r', getOr_eq_ok_iff.2 rfl, ?_⟩⟩
  exact hsound'.snapshotActivityState_eq_ok_iff.2 ⟨hcursor, hsnapshot⟩

/-- **Capture and restore do not drift.**  A snapshot of a reachable resident that has a
production class, or has not ticked, goes through any number of captures and restores, on any
handles of its organism, class and phenotype: each time it is converted to the same checkpoint,
and the last snapshot is the first one under the last handle. -/
theorem captureRestore_stable {b : GpuClosedLoopBackend} (hb : b.Reachable)
    (hs : b.snapshotActivityState handle = .ok s) (hr : b.residents handle = some r)
    (hproduction : s.pressure = none ∨ productionForId handle.classId.raw.toNat = .ok ())
    (htaken : s.TakenBy checkpointTick) :
    ∃ checkpoints, portableActivityCheckpointFromSnapshot s = .ok checkpoints ∧
      ∀ targets : List (GpuClosedLoopBackend × GpuBrainHandle),
        (∀ target ∈ targets, Receives handle r.phenotype target) →
        ∀ last ∈ targets.getLast?,
          targets.foldlM (captureRestore checkpointTick) s = .ok (s.rebind last.2) ∧
          portableActivityCheckpointFromSnapshot (s.rebind last.2) = .ok checkpoints := by
  obtain ⟨r₀, hr₀, hsound, hcursor, hsnapshot⟩ := hb.snapshot_eq hs
  obtain rfl := Option.some.inj (hr.symm.trans hr₀)
  have hcaptured : Captured handle r.phenotype s r := ⟨hsound, rfl, hcursor, hsnapshot⟩
  refine ⟨_, hcaptured.portable_eq hproduction, fun targets htargets last hlast => ?_⟩
  -- the captured resident moves from target to target
  clear hs hr hr₀ hsnapshot hsound
  generalize hphenotype : r.phenotype = phenotype at hcaptured htargets
  clear hphenotype hcursor
  induction targets generalizing handle s r with
  | nil => cases hlast
  | cons target targets ih =>
    have htarget := htargets target (List.mem_cons_self ..)
    obtain ⟨hcycle, r', hcaptured', hactivity⟩ :=
      hcaptured.captureRestore hproduction htaken htarget
    have hproduction' : (s.rebind target.2).pressure = none ∨
        productionForId target.2.classId.raw.toNat = .ok () := by
      rw [htarget.class_eq]
      exact hproduction.imp_left fun hnone => by
        rw [GpuActivityRuntimeSnapshot.rebind, hnone]
        rfl
    have htaken' : (s.rebind target.2).TakenBy checkpointTick := by
      refine ⟨htaken.atp_le, fun pressure hpressure => ?_⟩
      obtain ⟨old, hold, rfl⟩ := Option.mem_map.1 hpressure
      exact htaken.activity_le old hold
    have hsame : r'.lastActivity.toList.map checkpointOf
        = r.lastActivity.toList.map checkpointOf := by
      rw [hactivity]
      cases r.lastActivity with
      | none => rfl
      | some activity => exact congrArg (fun c => [c]) (checkpointOf_rebind activity)
    rw [List.foldlM_cons, hcycle, ← hsame]
    cases htail : targets.getLast? with
    | none =>
      rw [List.getLast?_eq_none_iff] at htail
      subst htail
      obtain rfl := Option.some.inj hlast
      exact ⟨rfl, hcaptured'.portable_eq hproduction'⟩
    | some last' =>
      have hlast' : last' = last := by
        rw [List.getLast?_cons, htail] at hlast
        exact Option.some.inj hlast
      subst hlast'
      have hreceives : ∀ t ∈ targets, Receives target.2 phenotype t := fun t ht => by
        have hreceive := htargets t (List.mem_cons_of_mem _ ht)
        exact { hreceive with
          organism_eq := hreceive.organism_eq.trans htarget.organism_eq.symm
          class_eq := hreceive.class_eq.trans htarget.class_eq.symm }
      have hrest := ih hproduction' htaken' htail hcaptured' hreceives
      rw [GpuActivityRuntimeSnapshot.rebind_rebind] at hrest
      exact hrest

end Cycle

/-! ### A brain after its first tick -/

section FirstTick

open NeuralThrottleDecision (motorPhenotype)

/-- A phenotype of a class with one motor route. -/
def motorPhenotypeOf (classId : BrainClassId) : BrainPhenotype :=
  { motorPhenotype with brainClassId := classId }

def motorHandle (classId : BrainClassId) : GpuBrainHandle :=
  ⟨1, classId, 0, 1, 1, motorPhenotype.phenotypeHash⟩

/-- A first tick of idle microsteps, with half of the heap used. -/
def firstTick (microsteps : UInt8) : DispatchInput :=
  ⟨0, 1, ⟨1, 0, 0, 0⟩, none, 1, 2, BrainWorkReceipt.idle microsteps, 0⟩

theorem consistent_motor {classId : BrainClassId} :
    NeuralThrottleDecision.Consistent (motorPhenotypeOf classId) := by
  have hroutes : NeuralThrottleDecision.Consistent motorPhenotype := by
    unfold NeuralThrottleDecision.Consistent
    decide
  exact hroutes

theorem routesAt_motor_ne_nil {classId : BrainClassId} (level : NeuralThrottleLevel) :
    NeuralThrottleDecision.routesAt level (motorPhenotypeOf classId) ≠ [] := by
  have hroute : (7 : UInt16) ∈
      NeuralThrottleDecision.routesAt level (motorPhenotypeOf classId) :=
    NeuralThrottleDecision.mem_routesAt.2 ⟨_, List.mem_singleton_self _,
      NeuralThrottleDecision.enabledAt_of_mandatory_or_essential _ (by decide) (by decide), rfl⟩
  exact List.ne_nil_of_mem hroute

/-- Every supported class can tick and be captured. -/
theorem exists_first_snapshot (classId : BrainClassId)
    (hsupported : supportedForId classId.raw.toNat = .ok ()) (hclass : classId.raw ≠ 0) :
    ∃ b r s, GpuClosedLoopBackend.Reachable b ∧ b.residents (motorHandle classId) = some r ∧
      r.phenotype = motorPhenotypeOf classId ∧
      b.snapshotActivityState (motorHandle classId) = .ok s ∧ s.TakenBy 0 ∧
      ∃ activity, s = r.snapshot ∧ r.lastActivity = some activity ∧
        activity.throttle.pressure.classIdRaw = classId.raw := by
  let handle := motorHandle classId
  let slot := ResidentBrainSlot.inserted (motorPhenotypeOf classId)
  let empty : GpuClosedLoopBackend := ⟨true, 1, fun _ => none⟩
  let identity := ResidentBrainSlot.identityOf handle (firstTick 0) slot
  have hidentity : identity.validateContract = .ok () := by
    unfold BrainDispatchIdentity.validateContract
    rw [failIf_eq_ok_iff]
    simp only [not_or]
    exact ⟨(by decide : (1 : UInt64) ≠ 0), hclass, (by decide : (1 : UInt32) ≠ 0),
      (by decide : (1 : UInt64) ≠ 0), (by decide : (1 : UInt64) ≠ 0),
      (by decide : (⟨1, 0, 0, 0⟩ : Digest256) ≠ .zero)⟩
  have hheap : q16Fraction 1 2 = .ok 32768 :=
    q16Fraction_eq_ok_iff.2 ⟨by decide, by decide, by decide⟩
  let pressure := GpuPressureSample.sealed .productionV1
    (ResidentBrainSlot.liveMeasurement handle (firstTick 0) slot) 32768 brainAtpQ16Max
  have hpressure : GpuPressureSample.tryNew .productionV1
      (ResidentBrainSlot.liveMeasurement handle (firstTick 0) slot) = .ok pressure :=
    GpuPressureSample.tryNew_eq_sealed hidentity
      ⟨(by decide : (0 : UInt64) < 1), (by decide : (0 : UInt64) = 0 ↔ Digest256.zero = .zero)⟩
      hheap (q16Fraction_self (UInt32.le_refl _))
  have hcapacity : capacityForGpuClass classId = .ok .production :=
    capacityForGpuClass_eq_ok_iff.2 ⟨hsupported, rfl⟩
  obtain ⟨throttle, hderive⟩ : ∃ d, NeuralThrottleDecision.derive .productionV1
      (motorPhenotypeOf classId) .production identity pressure = .ok d :=
    NeuralThrottleDecision.exists_derive_eq_ok_iff.2
      ⟨⟨BrainActivityPolicyV1.validateContract_eq_ok_iff.2 rfl,
        (GpuPressureSample.tryNew_eq_ok hpressure).2.1, rfl, rfl, (by decide : (2 : UInt8) ≤ 3),
        (by decide : (3 : UInt8) ≤ 4), consistent_motor⟩, routesAt_motor_ne_nil _⟩
  have hwork : BrainWorkReceipt.tryNew .productionV1 throttle
      (firstTick throttle.microsteps).counters brainAtpQ16Max
      = .ok (BrainWorkReceipt.idleReceipt throttle brainAtpQ16Max) :=
    BrainWorkReceipt.tryNew_eq_ok_iff.2
      ⟨BrainWorkReceipt.tallies_idleReceipt _ _, rfl, rfl, UInt32.le_refl _⟩
  have hsame : throttle.pressure = pressure := by
    rw [(NeuralThrottleDecision.derive_eq_ok_iff.1 hderive).2.2]
    rfl
  let ticked : ResidentBrainSlot :=
    { slot with
      activitySequenceCursor := 2
      brainAtpQ16 := (BrainWorkReceipt.idleReceipt throttle brainAtpQ16Max).atpAfterQ16
      lastCompletedGpuTimeNs := (firstTick throttle.microsteps).completedGpuTimeNs
      lastActivity := some ⟨throttle, BrainWorkReceipt.idleReceipt throttle brainAtpQ16Max⟩ }
  have hdispatch : slot.dispatch handle (firstTick throttle.microsteps) = .ok ticked := by
    have hcursor : getOr (checkedAdd64 1 1) ScaffoldContractError.brainActivitySequenceMismatch
        = .ok 2 := by decide
    unfold ResidentBrainSlot.dispatch
    rw [except_seq_eq_ok_iff, failIf_eq_ok_iff]
    refine ⟨fun ⟨_, hnone, _⟩ => (by cases hnone), except_bind_eq_ok_iff.2 ⟨2, hcursor,
      except_bind_eq_ok_iff.2 ⟨_, hpressure, except_bind_eq_ok_iff.2 ⟨_, hcapacity,
        except_bind_eq_ok_iff.2 ⟨_, hderive, except_bind_eq_ok_iff.2 ⟨_, hwork, rfl⟩⟩⟩⟩⟩⟩
  have hinsert : empty.run handle (.insert (motorPhenotypeOf classId))
      = .ok (empty.setResident handle slot) := by
    unfold GpuClosedLoopBackend.run GpuClosedLoopBackend.insertBrain
      GpuClosedLoopBackend.ensureReady
    rw [except_seq_eq_ok_iff, except_seq_eq_ok_iff, except_seq_eq_ok_iff, except_seq_eq_ok_iff]
    simp only [failIf_eq_ok_iff]
    exact ⟨by decide, by
      simp only [not_or]
      exact ⟨(by decide : (1 : UInt64) ≠ 0), by simp [empty]⟩, hsupported, by
      simp only [not_or, not_not]
      exact ⟨rfl, (by decide : (1 : UInt32) ≠ 0), rfl, rfl⟩, rfl⟩
  have htick : (empty.setResident handle slot).run handle
      (.dispatch (firstTick throttle.microsteps))
      = .ok ((empty.setResident handle slot).setResident handle ticked) := by
    unfold GpuClosedLoopBackend.run GpuClosedLoopBackend.onResident
      GpuClosedLoopBackend.ensureReady GpuClosedLoopBackend.validateHandleBackend
      GpuClosedLoopBackend.resident
    rw [except_seq_eq_ok_iff, except_seq_eq_ok_iff, GpuClosedLoopBackend.residents_setResident]
    simp only [failIf_eq_ok_iff]
    exact ⟨fun hready => Bool.noConfusion hready, fun hother => hother rfl,
      except_bind_eq_ok_iff.2 ⟨slot, getOr_eq_ok_iff.2 rfl,
        except_bind_eq_ok_iff.2 ⟨ticked, hdispatch, rfl⟩⟩⟩
  have hreachable := ((GpuClosedLoopBackend.Reachable.empty 1).run hinsert).run htick
  have hresident := GpuClosedLoopBackend.residents_setResident
    (empty.setResident handle slot) handle ticked
  refine ⟨_, ticked, ticked.snapshot, hreachable, hresident, rfl, ?_, ⟨nofun, ?_⟩, _, rfl, rfl, ?_⟩
  · unfold GpuClosedLoopBackend.snapshotActivityState GpuClosedLoopBackend.validateHandleBackend
      GpuClosedLoopBackend.resident
    rw [except_seq_eq_ok_iff, failIf_eq_ok_iff, not_not, hresident]
    exact ⟨rfl, except_bind_eq_ok_iff.2 ⟨ticked, getOr_eq_ok_iff.2 rfl,
      (hreachable.sound handle ticked hresident).snapshotActivityState_eq_ok_iff.2
        ⟨(by decide : (2 : UInt64) ≠ 0), rfl⟩⟩⟩
  · intro pressure hpressure'
    obtain rfl := Option.some.inj hpressure'
    exact (congrArg GpuPressureSample.tick hsame).trans_le (UInt64.le_refl _)
  · exact congrArg GpuPressureSample.classIdRaw hsame

/-- A new resident on another backend, to restore on. -/
def newTarget : GpuClosedLoopBackend × GpuBrainHandle :=
  let handle := { motorHandle .n512 with backendInstanceId := 2, slot := 5, generation := 9 }
  (GpuClosedLoopBackend.setResident ⟨true, 2, fun _ => none⟩ handle
    (.inserted (motorPhenotypeOf .n512)), handle)

theorem captureRestore_stable_first :
    ∃ s checkpoints, [newTarget].foldlM (captureRestore 0) s = .ok (s.rebind newTarget.2) ∧
      portableActivityCheckpointFromSnapshot s = .ok checkpoints ∧
      portableActivityCheckpointFromSnapshot (s.rebind newTarget.2) = .ok checkpoints := by
  obtain ⟨b, r, s, hb, hr, hphenotype, hs, htaken, -⟩ := exists_first_snapshot .n512 rfl (by decide)
  have hreceives : Receives (motorHandle .n512) (motorPhenotypeOf .n512) newTarget :=
    ⟨rfl, rfl, ⟨_, GpuClosedLoopBackend.residents_setResident _ _ _, rfl⟩, rfl, rfl, by decide⟩
  obtain ⟨checkpoints, hportable, hcycle⟩ :=
    captureRestore_stable hb hs hr (.inr (by decide)) htaken
  obtain ⟨hrun, hagain⟩ := hcycle [newTarget]
    (fun target htarget => by rw [List.mem_singleton.1 htarget, hphenotype]; exact hreceives)
    newTarget rfl
  exact ⟨s, checkpoints, hrun, hportable, hagain⟩

/-- **A research brain ticks and is captured, but cannot be saved.**  Its class is supported and
not promoted, and the seal of a checkpoint asks for a production class. -/
theorem research_snapshot_not_portable :
    ∃ b handle s, GpuClosedLoopBackend.Reachable b ∧ b.snapshotActivityState handle = .ok s ∧
      s.TakenBy 0 ∧ ∀ checkpoints, portableActivityCheckpointFromSnapshot s ≠ .ok checkpoints := by
  obtain ⟨b, r, s, hb, -, -, hs, htaken, activity, rfl, hactivity, hclass⟩ :=
    exists_first_snapshot ⟨4⟩ rfl (by decide)
  refine ⟨b, _, _, hb, hs, htaken, fun checkpoints h => ?_⟩
  unfold portableActivityCheckpointFromSnapshot ResidentBrainSlot.snapshot at h
  rw [hactivity] at h
  simp only [Option.map_some] at h
  obtain ⟨-, h⟩ := except_seq_eq_ok_iff.1 h
  obtain ⟨checkpoint, hseal, -⟩ := except_bind_eq_ok_iff.1 h
  have hproduction := productionForId_of_sealCheckpoint hseal
  change productionForId activity.throttle.pressure.classIdRaw.toNat = .ok () at hproduction
  rw [hclass] at hproduction
  exact absurd hproduction (by decide)

end FirstTick

end Activity

end ALife
