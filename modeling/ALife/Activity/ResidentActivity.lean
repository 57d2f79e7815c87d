/-
# The activity of a resident brain

`crates/alife_gpu_backend/src/closed_loop_runtime.rs` and its `tick.rs`.  A
resident keeps the decision and the receipt of its last tick, the cursor of the
next one, what is left of its ATP and the last world tick that ATP was bound to.
Ticks, ATP changes and restores are the commands that move these; whatever their
order, the last tick stays derivable from its own pressure sample and bound to
the handle of the resident (`ResidentBrainSlot.Sound`).

A batch of ticks is one command for each of its brains, which do not touch each
other's activity.  The counters and the GPU time of a tick are what the device
reported.
-/

import ALife.Activity.WorkReceipt
import ALife.Backend.Admission
import ALife.Machine.Binary32Value

namespace ALife

open Machine

namespace Activity

structure GpuBrainHandle where
  backendInstanceId : UInt64
  classId : BrainClassId
  slot : UInt32
  generation : UInt32
  organismIdRaw : UInt64
  phenotypeHash : PhenotypeHash
  deriving DecidableEq, Repr

structure ResidentActivity where
  throttle : NeuralThrottleDecision
  work : BrainWorkReceipt
  deriving DecidableEq, Repr

structure ResidentBrainSlot where
  phenotype : BrainPhenotype
  activitySequenceCursor : UInt64
  brainAtpQ16 : UInt32
  lastWorldAtpTick : Option UInt64
  lastCompletedGpuTimeNs : UInt64
  lastActivity : Option ResidentActivity

/-- `BrainExecutionBudget::production`, the one range of all classes. -/
def BrainExecutionBudget.production : BrainExecutionBudget := ⟨2, 4⟩

/-- `capacity_for_gpu_class`, its execution budget. -/
def capacityForGpuClass (classId : BrainClassId) : Contract BrainExecutionBudget := do
  supportedForId classId.raw.toNat
  .ok .production

/-- `sequence_cursor.checked_add(1).unwrap_or(0)`. -/
def cursorAfter (cursor : UInt64) : UInt64 := (checkedAdd64 cursor 1).getD 0

/-! ## One resident -/

/-- What a tick is given, and what the device reports of it. -/
structure DispatchInput where
  tick : UInt64
  dispatchGeneration : UInt64
  frameDigest : Digest256
  replayedPressure : Option GpuPressureSample
  logicalHeapUsed : UInt64
  logicalHeapCapacity : UInt64
  counters : BrainWorkCounters
  completedGpuTimeNs : UInt64

structure GpuPortableActivityRestoreRecord where
  policyVersion : UInt16
  organismIdRaw : UInt64
  tick : UInt64
  classIdRaw : UInt16
  sequenceCursor : UInt64
  dispatchGeneration : UInt64
  frameDigest : Digest256
  sourceDispatchGeneration : UInt64
  sourceFrameDigest : Digest256
  completedGpuTimeNs : UInt64
  queueDepth : UInt32
  logicalHeapPressureQ16 : UInt32
  brainAtpFractionQ16 : UInt32
  level : NeuralThrottleLevel
  microsteps : UInt8
  enabledRouteIds : List UInt16
  routeScheduleDigest : Digest256
  work : BrainWorkCounters
  neuralCostQ24 : UInt64
  atpBeforeQ16 : UInt32
  atpDebitQ16 : UInt32
  atpAfterQ16 : UInt32
  policyDigest : Digest256
  deriving DecidableEq, Repr

structure GpuActivityRestoreInput where
  nextSequenceCursor : UInt64
  checkpointTick : UInt64
  nextCompletedGpuTimeNs : UInt64
  brainAtpQ16 : UInt32
  lastWorldAtpTick : Option UInt64
  record : Option GpuPortableActivityRestoreRecord

structure GpuActivityRuntimeSnapshot where
  nextSequenceCursor : UInt64
  brainAtpQ16 : UInt32
  lastWorldAtpTick : Option UInt64
  nextCompletedGpuTimeNs : UInt64
  pressure : Option GpuPressureSample
  throttle : Option NeuralThrottleDecision
  work : Option BrainWorkReceipt
  deriving DecidableEq, Repr

/-- `validate_runtime_binding`, of a decision or of a receipt. -/
def validateRuntimeBinding (handleSlot handleGeneration : UInt32) (handle : GpuBrainHandle) :
    Contract Unit :=
  failIf (handleSlot ≠ handle.slot ∨ handleGeneration ≠ handle.generation) .brainOwnershipMismatch

namespace ResidentBrainSlot

/-- The slot of a brain that was just inserted. -/
def inserted (phenotype : BrainPhenotype) : ResidentBrainSlot :=
  ⟨phenotype, 1, brainAtpQ16Max, none, 0, none⟩

def lastActivitySource (r : ResidentBrainSlot) : UInt64 × Digest256 :=
  match r.lastActivity with
  | some activity =>
    (activity.throttle.pressure.dispatchGeneration, activity.throttle.pressure.frameDigest)
  | none => (0, .zero)

/-- The identity of a tick, before it runs. -/
def identityOf (handle : GpuBrainHandle) (input : DispatchInput) (r : ResidentBrainSlot) :
    BrainDispatchIdentity where
  organismIdRaw := handle.organismIdRaw
  tick := input.tick
  classIdRaw := handle.classId.raw
  handleSlot := handle.slot
  handleGeneration := handle.generation
  sequenceCursor := r.activitySequenceCursor
  dispatchGeneration := input.dispatchGeneration
  frameDigest := input.frameDigest

/-- The measurement of `live_pressure_sample`. -/
def liveMeasurement (handle : GpuBrainHandle) (input : DispatchInput) (r : ResidentBrainSlot) :
    GpuPressureSampleInput where
  identity := identityOf handle input r
  sourceDispatchGeneration := r.lastActivitySource.1
  sourceFrameDigest := r.lastActivitySource.2
  completedGpuTimeNs := r.lastCompletedGpuTimeNs
  queueDepth := 0
  logicalHeapUsed := input.logicalHeapUsed
  logicalHeapCapacity := input.logicalHeapCapacity
  brainAtpRemainingQ16 := r.brainAtpQ16
  brainAtpCapacityQ16 := brainAtpQ16Max

/-- The pressure that a tick is throttled by: a recorded sample of this very tick, or a new one. -/
def dispatchPressure (handle : GpuBrainHandle) (input : DispatchInput) (r : ResidentBrainSlot) :
    Contract GpuPressureSample :=
  match input.replayedPressure with
  | some sample => do
    sample.validateFor .productionV1
    failIf (sample.dispatchIdentity ≠ identityOf handle input r
        ∨ sample.sourceDispatchGeneration ≠ r.lastActivitySource.1
        ∨ sample.sourceFrameDigest ≠ r.lastActivitySource.2)
      .brainActivitySequenceMismatch
    .ok sample
  | none => GpuPressureSample.tryNew .productionV1 (liveMeasurement handle input r)

/-- The part of a tick that moves the activity of one brain. -/
def dispatch (handle : GpuBrainHandle) (input : DispatchInput) (r : ResidentBrainSlot) :
    Contract ResidentBrainSlot := do
  failIf (∃ activity ∈ r.lastActivity, input.tick < activity.throttle.tick) .nonMonotonicTick
  let nextCursor ←
    getOr (checkedAdd64 r.activitySequenceCursor 1) .brainActivitySequenceMismatch
  let pressure ← dispatchPressure handle input r
  let execution ← capacityForGpuClass handle.classId
  let throttle ← NeuralThrottleDecision.derive .productionV1 r.phenotype execution
    (identityOf handle input r) pressure
  let work ← BrainWorkReceipt.tryNew .productionV1 throttle input.counters r.brainAtpQ16
  .ok { r with
    activitySequenceCursor := nextCursor
    brainAtpQ16 := work.atpAfterQ16
    lastCompletedGpuTimeNs := input.completedGpuTimeNs
    lastActivity := some ⟨throttle, work⟩ }

/-- `BRAIN_ATP_BASAL_DEBIT_Q16`. -/
def brainAtpBasalDebitQ16 : UInt32 := 655

/-- `BRAIN_ATP_SLEEP_RECOVERY_Q16`. -/
def brainAtpSleepRecoveryQ16 : UInt32 := 2621

/-- The guard of the world ATP ticks: a repeated tick changes nothing, and only the next one
goes on. -/
def onWorldAtpTick (worldTick : UInt64) (after : UInt32 → UInt32) (r : ResidentBrainSlot) :
    Contract ResidentBrainSlot :=
  if r.lastWorldAtpTick = some worldTick then .ok r
  else do
    failIf (∃ last ∈ r.lastWorldAtpTick, checkedAdd64 last 1 ≠ some worldTick)
      .brainActivitySequenceMismatch
    .ok { r with brainAtpQ16 := after r.brainAtpQ16, lastWorldAtpTick := some worldTick }

/-- `bind_world_brain_atp_tick`; the product is exact in `f64`. -/
def bindWorldBrainAtpTick (worldTick : UInt64) (canonicalBrainAtp : F32) (r : ResidentBrainSlot) :
    Contract ResidentBrainSlot := do
  failIf (canonicalBrainAtp.isFinite = false) .nonFiniteFloat
  failIf (F32.inRange .zero .one canonicalBrainAtp = false) .scalarOutOfRange
  r.onWorldAtpTick worldTick fun _ => ⌊canonicalBrainAtp.value * brainAtpQ16Max.toNat⌋₊.toUInt32

/-- The ATP after a world tick: `some` of whether it began asleep, or `none` on a hold. -/
def worldAtpAfter (beganTickAsleep : Option Bool) (atp : UInt32) : UInt32 :=
  -- `saturating_sub`
  let afterBasal := if atp < brainAtpBasalDebitQ16 then 0 else atp - brainAtpBasalDebitQ16
  match beganTickAsleep with
  | none => atp
  | some false => afterBasal
  | some true =>
    let recovered := saturatingAdd32 afterBasal brainAtpSleepRecoveryQ16
    if recovered < brainAtpQ16Max then recovered else brainAtpQ16Max

/-- `advance_world_brain_atp_tick`. -/
def advanceWorldBrainAtpTick (worldTick : UInt64) (beganTickAsleep : Option Bool)
    (r : ResidentBrainSlot) : Contract ResidentBrainSlot :=
  r.onWorldAtpTick worldTick (worldAtpAfter beganTickAsleep)

end ResidentBrainSlot

/-- The identity of a saved tick under a new handle. -/
def GpuPortableActivityRestoreRecord.identityFor (record : GpuPortableActivityRestoreRecord)
    (handle : GpuBrainHandle) : BrainDispatchIdentity where
  organismIdRaw := record.organismIdRaw
  tick := record.tick
  classIdRaw := record.classIdRaw
  handleSlot := handle.slot
  handleGeneration := handle.generation
  sequenceCursor := record.sequenceCursor
  dispatchGeneration := record.dispatchGeneration
  frameDigest := record.frameDigest

/-- The measurement that a record repeats: the saved fractions, of a whole of
`BRAIN_ATP_Q16_MAX`. -/
def GpuPortableActivityRestoreRecord.measurement (record : GpuPortableActivityRestoreRecord)
    (identity : BrainDispatchIdentity) : GpuPressureSampleInput where
  identity := identity
  sourceDispatchGeneration := record.sourceDispatchGeneration
  sourceFrameDigest := record.sourceFrameDigest
  completedGpuTimeNs := record.completedGpuTimeNs
  queueDepth := record.queueDepth
  logicalHeapUsed := record.logicalHeapPressureQ16.toUInt64
  logicalHeapCapacity := brainAtpQ16Max.toUInt64
  brainAtpRemainingQ16 := record.brainAtpFractionQ16
  brainAtpCapacityQ16 := brainAtpQ16Max

namespace ResidentBrainSlot

/-- The activity that a record stands for under a new handle. -/
def rebound (handle : GpuBrainHandle) (input : GpuActivityRestoreInput)
    (record : GpuPortableActivityRestoreRecord) (r : ResidentBrainSlot) :
    Contract ResidentActivity := do
  let policy := BrainActivityPolicyV1.productionV1
  failIf (record.policyVersion ≠ policy.policyVersion
      ∨ record.policyDigest ≠ policy.policyDigest
      ∨ record.organismIdRaw ≠ handle.organismIdRaw
      ∨ record.classIdRaw ≠ handle.classId.raw
      ∨ input.checkpointTick < record.tick
      ∨ input.nextSequenceCursor ≠ cursorAfter record.sequenceCursor
      ∨ brainAtpQ16Max < record.brainAtpFractionQ16)
    .brainActivitySequenceMismatch
  let identity := record.identityFor handle
  let pressure ← GpuPressureSample.tryNew policy (record.measurement identity)
  let execution ← capacityForGpuClass handle.classId
  let throttle ← NeuralThrottleDecision.derive policy r.phenotype execution identity pressure
  failIf (throttle.level ≠ record.level
      ∨ throttle.microsteps ≠ record.microsteps
      ∨ throttle.enabledRouteIds ≠ record.enabledRouteIds
      ∨ throttle.routeScheduleDigest ≠ record.routeScheduleDigest)
    .brainActivitySequenceMismatch
  let work ← BrainWorkReceipt.tryNew policy throttle record.work record.atpBeforeQ16
  failIf (work.neuralCostQ24 ≠ record.neuralCostQ24
      ∨ work.atpDebitQ16 ≠ record.atpDebitQ16
      ∨ work.atpAfterQ16 ≠ record.atpAfterQ16)
    .brainActivitySequenceMismatch
  .ok ⟨throttle, work⟩

/-- The last tick of a restored resident, which has none when no record was saved. -/
def restoredActivity (handle : GpuBrainHandle) (input : GpuActivityRestoreInput)
    (r : ResidentBrainSlot) : Contract (Option ResidentActivity) :=
  match input.record with
  | some record => do
    let activity ← rebound handle input record r
    .ok (some activity)
  | none => do
    failIf (¬(input.nextSequenceCursor = 1 ∧ input.nextCompletedGpuTimeNs = 0))
      .brainActivitySequenceMismatch
    .ok none

/-- `restore_activity_state`, on the resident of the handle. -/
def restoreActivityState (handle : GpuBrainHandle) (input : GpuActivityRestoreInput)
    (r : ResidentBrainSlot) : Contract ResidentBrainSlot := do
  let lastActivity ← restoredActivity handle input r
  .ok { r with
    activitySequenceCursor := input.nextSequenceCursor
    brainAtpQ16 := input.brainAtpQ16
    lastWorldAtpTick := input.lastWorldAtpTick
    lastCompletedGpuTimeNs := input.nextCompletedGpuTimeNs
    lastActivity := lastActivity }

/-- The checks of `snapshot_activity_state` on a last tick. -/
def validateActivity (handle : GpuBrainHandle) (activity : ResidentActivity)
    (r : ResidentBrainSlot) : Contract Unit := do
  let pressure := activity.throttle.pressure
  pressure.validateFor .productionV1
  let execution ← capacityForGpuClass handle.classId
  activity.throttle.validateFor r.phenotype execution
  activity.work.validateFor .productionV1 activity.throttle
  failIf (pressure.handleSlot ≠ handle.slot ∨ pressure.handleGeneration ≠ handle.generation)
    .brainOwnershipMismatch
  validateRuntimeBinding activity.throttle.handleSlot activity.throttle.handleGeneration handle
  validateRuntimeBinding activity.work.handleSlot activity.work.handleGeneration handle
  failIf (r.activitySequenceCursor ≠ cursorAfter pressure.sequenceCursor)
    .brainActivitySequenceMismatch

def validateLastActivity (handle : GpuBrainHandle) (r : ResidentBrainSlot) : Contract Unit :=
  match r.lastActivity with
  | some activity => validateActivity handle activity r
  | none =>
    failIf (r.activitySequenceCursor ≠ 1 ∨ r.lastCompletedGpuTimeNs ≠ 0)
      .brainActivitySequenceMismatch

/-- The fields of a snapshot. -/
def snapshot (r : ResidentBrainSlot) : GpuActivityRuntimeSnapshot where
  nextSequenceCursor := r.activitySequenceCursor
  brainAtpQ16 := r.brainAtpQ16
  lastWorldAtpTick := r.lastWorldAtpTick
  nextCompletedGpuTimeNs := r.lastCompletedGpuTimeNs
  pressure := r.lastActivity.map fun activity => activity.throttle.pressure
  throttle := r.lastActivity.map ResidentActivity.throttle
  work := r.lastActivity.map ResidentActivity.work

/-- `snapshot_activity_state`, on the resident of the handle. -/
def snapshotActivityState (handle : GpuBrainHandle) (r : ResidentBrainSlot) :
    Contract GpuActivityRuntimeSnapshot := do
  failIf (r.activitySequenceCursor = 0 ∨ brainAtpQ16Max < r.brainAtpQ16)
    .brainActivitySequenceMismatch
  validateLastActivity handle r
  .ok r.snapshot

/-! ### What stays true of a resident -/

end ResidentBrainSlot

/-- The last tick of a resident: derived from its own sample, paid for, and bound to the
handle. -/
structure ResidentActivity.Bound (handle : GpuBrainHandle) (phenotype : BrainPhenotype)
    (activity : ResidentActivity) : Prop where
  supported : supportedForId handle.classId.raw.toNat = .ok ()
  organism_eq : activity.throttle.pressure.organismIdRaw = handle.organismIdRaw
  class_eq : activity.throttle.pressure.classIdRaw = handle.classId.raw
  slot_eq : activity.throttle.pressure.handleSlot = handle.slot
  generation_eq : activity.throttle.pressure.handleGeneration = handle.generation
  derived : NeuralThrottleDecision.derive .productionV1 phenotype .production
    activity.throttle.pressure.dispatchIdentity activity.throttle.pressure = .ok activity.throttle
  tallies : activity.work.Tallies .productionV1 activity.throttle
  before_le : activity.work.atpBeforeQ16 ≤ brainAtpQ16Max

theorem capacityForGpuClass_eq_ok_iff {classId : BrainClassId} {execution : BrainExecutionBudget} :
    capacityForGpuClass classId = .ok execution ↔
      supportedForId classId.raw.toNat = .ok () ∧ execution = .production := by
  rw [capacityForGpuClass, except_seq_eq_ok_iff, Except.ok.injEq,
    eq_comm (a := BrainExecutionBudget.production)]

namespace ResidentBrainSlot

structure Sound (handle : GpuBrainHandle) (r : ResidentBrainSlot) : Prop where
  atp_le : r.brainAtpQ16 ≤ brainAtpQ16Max
  idle : r.lastActivity = none → r.activitySequenceCursor = 1 ∧ r.lastCompletedGpuTimeNs = 0
  bound : ∀ activity, r.lastActivity = some activity → activity.Bound handle r.phenotype ∧
    r.activitySequenceCursor = cursorAfter activity.throttle.pressure.sequenceCursor

variable {handle : GpuBrainHandle} {r r' : ResidentBrainSlot}

/-- A decision and a receipt that were just made for a handle are bound to it. -/
theorem bound_of_derive {phenotype : BrainPhenotype} {execution : BrainExecutionBudget}
    {identity : BrainDispatchIdentity} {pressure : GpuPressureSample}
    {throttle : NeuralThrottleDecision} {counters : BrainWorkCounters} {atpBeforeQ16 : UInt32}
    {work : BrainWorkReceipt}
    (hidentity : identity.organismIdRaw = handle.organismIdRaw ∧
      identity.classIdRaw = handle.classId.raw ∧ identity.handleSlot = handle.slot ∧
      identity.handleGeneration = handle.generation)
    (hexecution : capacityForGpuClass handle.classId = .ok execution)
    (hderive : NeuralThrottleDecision.derive .productionV1 phenotype execution identity pressure
      = .ok throttle)
    (hwork : BrainWorkReceipt.tryNew .productionV1 throttle counters atpBeforeQ16 = .ok work) :
    ResidentActivity.Bound handle phenotype ⟨throttle, work⟩ ∧ throttle.pressure = pressure := by
  obtain ⟨hsupported, rfl⟩ := capacityForGpuClass_eq_ok_iff.1 hexecution
  obtain ⟨hadmissible, -, heq⟩ := NeuralThrottleDecision.derive_eq_ok_iff.1 hderive
  have hpressure : throttle.pressure = pressure := by
    rw [heq]
    rfl
  obtain ⟨htallies, -, hbefore, hle⟩ := BrainWorkReceipt.tryNew_eq_ok_iff.1 hwork
  obtain ⟨horganism, hclass, hslot, hgeneration⟩ := hidentity
  rw [hadmissible.identity_eq] at horganism hclass hslot hgeneration hderive
  rw [← hpressure] at horganism hclass hslot hgeneration hderive
  exact ⟨⟨hsupported, horganism, hclass, hslot, hgeneration, hderive, htallies, hbefore ▸ hle⟩,
    hpressure⟩

theorem sound_inserted (handle : GpuBrainHandle) (phenotype : BrainPhenotype) :
    (inserted phenotype).Sound handle where
  atp_le := UInt32.le_refl _
  idle := fun _ => ⟨rfl, rfl⟩
  bound := fun _ h => by cases h

theorem Sound.dispatch {input : DispatchInput} (h : r.dispatch handle input = .ok r') :
    r'.Sound handle := by
  unfold ResidentBrainSlot.dispatch at h
  obtain ⟨-, h⟩ := except_seq_eq_ok_iff.1 h
  obtain ⟨nextCursor, hcursor, h⟩ := except_bind_eq_ok_iff.1 h
  obtain ⟨pressure, -, h⟩ := except_bind_eq_ok_iff.1 h
  obtain ⟨execution, hexecution, h⟩ := except_bind_eq_ok_iff.1 h
  obtain ⟨throttle, hderive, h⟩ := except_bind_eq_ok_iff.1 h
  obtain ⟨work, hwork, h⟩ := except_bind_eq_ok_iff.1 h
  obtain rfl := Except.ok.inj h
  obtain ⟨hbound, hpressure⟩ := bound_of_derive ⟨rfl, rfl, rfl, rfl⟩ hexecution hderive hwork
  have hafter : work.atpAfterQ16 ≤ brainAtpQ16Max := by
    have hbalance := hbound.tallies.balance
    have hle := UInt32.le_iff_toNat_le.1 hbound.before_le
    dsimp only at hbalance hle
    rw [UInt32.le_iff_toNat_le]
    omega
  refine ⟨hafter, nofun, fun activity hactivity => ?_⟩
  obtain rfl := Option.some.inj hactivity
  refine ⟨hbound, ?_⟩
  -- the sample carries the cursor that the tick took
  have hsame : throttle.pressure.sequenceCursor = r.activitySequenceCursor := by
    rw [hpressure]
    exact (congrArg BrainDispatchIdentity.sequenceCursor
      (NeuralThrottleDecision.derive_eq_ok_iff.1 hderive).1.identity_eq).symm
  rw [getOr_eq_ok_iff] at hcursor
  change nextCursor = cursorAfter throttle.pressure.sequenceCursor
  rw [hsame, cursorAfter, hcursor]
  rfl

/-- A change of the ATP within the scale keeps a resident sound. -/
theorem Sound.onWorldAtpTick (hr : r.Sound handle) {worldTick : UInt64} {after : UInt32 → UInt32}
    (hafter : ∀ atp ≤ brainAtpQ16Max, after atp ≤ brainAtpQ16Max)
    (h : r.onWorldAtpTick worldTick after = .ok r') : r'.Sound handle := by
  unfold ResidentBrainSlot.onWorldAtpTick at h
  split_ifs at h
  · obtain rfl := Except.ok.inj h
    exact hr
  · obtain ⟨-, h⟩ := except_seq_eq_ok_iff.1 h
    obtain rfl := Except.ok.inj h
    exact ⟨hafter _ hr.atp_le, hr.idle, hr.bound⟩

theorem Sound.bindWorldBrainAtpTick (hr : r.Sound handle) {worldTick : UInt64}
    {canonicalBrainAtp : F32} (h : r.bindWorldBrainAtpTick worldTick canonicalBrainAtp = .ok r') :
    r'.Sound handle := by
  unfold ResidentBrainSlot.bindWorldBrainAtpTick at h
  obtain ⟨-, h⟩ := except_seq_eq_ok_iff.1 h
  obtain ⟨hrange, h⟩ := except_seq_eq_ok_iff.1 h
  rw [failIf_eq_ok_iff, Bool.not_eq_false] at hrange
  refine hr.onWorldAtpTick (fun _ _ => ?_) h
  have hfloor : ⌊canonicalBrainAtp.value * brainAtpQ16Max.toNat⌋₊ ≤ brainAtpQ16Max.toNat := by
    refine Nat.floor_le_of_le ?_
    exact mul_le_of_le_one_left (Nat.cast_nonneg _) (F32.value_mem_unit hrange).2
  rw [UInt32.le_iff_toNat_le, Nat.toUInt32, UInt32.toNat_ofNat']
  exact (Nat.mod_le _ _).trans hfloor

theorem worldAtpAfter_le (beganTickAsleep : Option Bool) {atp : UInt32}
    (hatp : atp ≤ brainAtpQ16Max) : worldAtpAfter beganTickAsleep atp ≤ brainAtpQ16Max := by
  unfold worldAtpAfter
  dsimp only
  split
  · exact hatp
  · split_ifs with hless
    · decide
    · have hle := UInt32.le_iff_toNat_le.1 hatp
      rw [UInt32.le_iff_toNat_le, UInt32.toNat_sub_of_le _ _ (UInt32.not_lt.1 hless)]
      omega
  · have hcapped (atp : UInt32) :
        (if atp < brainAtpQ16Max then atp else brainAtpQ16Max) ≤ brainAtpQ16Max := by
      split_ifs with hcap
      · exact UInt32.le_of_lt hcap
      · exact UInt32.le_refl _
    exact hcapped _

/-- Whatever is restored is sound. -/
theorem sound_of_restoreActivityState {input : GpuActivityRestoreInput}
    (hatp : input.brainAtpQ16 ≤ brainAtpQ16Max)
    (h : r.restoreActivityState handle input = .ok r') : r'.Sound handle := by
  unfold ResidentBrainSlot.restoreActivityState at h
  obtain ⟨lastActivity, hlast, h⟩ := except_bind_eq_ok_iff.1 h
  obtain rfl := Except.ok.inj h
  unfold restoredActivity at hlast
  cases hrecord : input.record with
  | none =>
    rw [hrecord] at hlast
    obtain ⟨hidle, hlast⟩ := except_seq_eq_ok_iff.1 hlast
    obtain rfl := Except.ok.inj hlast
    rw [failIf_eq_ok_iff, not_not] at hidle
    exact ⟨hatp, fun _ => hidle, fun _ h => by cases h⟩
  | some record =>
    rw [hrecord] at hlast
    obtain ⟨activity, hrebound, hlast⟩ := except_bind_eq_ok_iff.1 hlast
    obtain rfl := Except.ok.inj hlast
    unfold rebound at hrebound
    obtain ⟨hmatch, hrebound⟩ := except_seq_eq_ok_iff.1 hrebound
    obtain ⟨pressure, hpressure, hrebound⟩ := except_bind_eq_ok_iff.1 hrebound
    obtain ⟨execution, hexecution, hrebound⟩ := except_bind_eq_ok_iff.1 hrebound
    obtain ⟨throttle, hderive, hrebound⟩ := except_bind_eq_ok_iff.1 hrebound
    obtain ⟨-, hrebound⟩ := except_seq_eq_ok_iff.1 hrebound
    obtain ⟨work, hwork, hrebound⟩ := except_bind_eq_ok_iff.1 hrebound
    obtain ⟨-, hrebound⟩ := except_seq_eq_ok_iff.1 hrebound
    obtain rfl := Except.ok.inj hrebound
    rw [failIf_eq_ok_iff] at hmatch
    simp only [not_or, not_not] at hmatch
    obtain ⟨-, -, horganism, hclass, -, hcursor, -⟩ := hmatch
    obtain ⟨hbound, hsame⟩ := bound_of_derive ⟨horganism, hclass, rfl, rfl⟩ hexecution hderive hwork
    refine ⟨hatp, nofun, fun activity hactivity => ?_⟩
    obtain rfl := Option.some.inj hactivity
    refine ⟨hbound, ?_⟩
    have hkept : pressure.sequenceCursor = record.sequenceCursor :=
      congrArg BrainDispatchIdentity.sequenceCursor
        (GpuPressureSample.dispatchIdentity_of_tryNew hpressure)
    change input.nextSequenceCursor = cursorAfter throttle.pressure.sequenceCursor
    rw [hcursor, hsame, hkept]

/-- **A sound resident can be captured** as long as its cursor has not run over. -/
theorem Sound.snapshotActivityState_eq_ok_iff (hr : r.Sound handle)
    {s : GpuActivityRuntimeSnapshot} :
    r.snapshotActivityState handle = .ok s ↔ r.activitySequenceCursor ≠ 0 ∧ s = r.snapshot := by
  unfold snapshotActivityState
  rw [except_seq_eq_ok_iff, failIf_eq_ok_iff, not_or]
  have hlast : validateLastActivity handle r = .ok () := by
    unfold validateLastActivity
    cases hactivity : r.lastActivity with
    | none =>
      dsimp only
      rw [failIf_eq_ok_iff, not_or, not_not, not_not]
      exact hr.idle hactivity
    | some activity =>
      obtain ⟨hbound, hcursor⟩ := hr.bound activity hactivity
      have hadmissible := (NeuralThrottleDecision.derive_eq_ok_iff.1 hbound.derived).1
      have hfields := (NeuralThrottleDecision.derive_eq_ok_iff.1 hbound.derived).2.2
      have hslot : activity.throttle.handleSlot = handle.slot :=
        (congrArg NeuralThrottleDecision.handleSlot hfields).trans hbound.slot_eq
      have hgeneration : activity.throttle.handleGeneration = handle.generation :=
        (congrArg NeuralThrottleDecision.handleGeneration hfields).trans hbound.generation_eq
      have hworkFields := BrainWorkReceipt.eq_sealed_iff.1 hbound.tallies.fields_eq
      dsimp only
      unfold validateActivity validateRuntimeBinding
      rw [except_seq_eq_ok_iff]
      refine ⟨hadmissible.pressure_valid, except_bind_eq_ok_iff.2 ⟨_,
        capacityForGpuClass_eq_ok_iff.2 ⟨hbound.supported, rfl⟩, ?_⟩⟩
      simp only [except_seq_eq_ok_iff, failIf_eq_ok_iff, not_or, not_not]
      exact ⟨NeuralThrottleDecision.validateFor_of_derive hbound.derived,
        BrainWorkReceipt.validateFor_eq_ok_iff.2 hbound.tallies,
        ⟨hbound.slot_eq, hbound.generation_eq⟩, ⟨hslot, hgeneration⟩,
        ⟨hworkFields.2.2.2.2.1.trans hslot, hworkFields.2.2.2.2.2.1.trans hgeneration⟩, hcursor⟩
  rw [except_seq_eq_ok_iff, Except.ok.injEq, and_iff_right hlast, and_assoc,
    and_iff_right (UInt32.not_lt.2 hr.atp_le), eq_comm (a := r.snapshot)]

end ResidentBrainSlot

/-! ## The backend -/

/-- `GpuClosedLoopBackend`; only its residents, by their handles. -/
structure GpuClosedLoopBackend where
  ready : Bool
  backendInstanceId : UInt64
  residents : GpuBrainHandle → Option ResidentBrainSlot

/-- What moves the activity of a resident. -/
inductive ActivityCommand where
  | insert (phenotype : BrainPhenotype)
  | dispatch (input : DispatchInput)
  | bind (worldTick : UInt64) (canonicalBrainAtp : F32)
  | charge (worldTick : UInt64) (beganTickAsleep : Bool)
  | hold (worldTick : UInt64)
  | restore (input : GpuActivityRestoreInput)

namespace GpuClosedLoopBackend

def ensureReady (b : GpuClosedLoopBackend) : Contract Unit :=
  failIf (b.ready = false) .neuralBackendUnavailable

def validateHandleBackend (b : GpuClosedLoopBackend) (handle : GpuBrainHandle) : Contract Unit :=
  failIf (handle.backendInstanceId ≠ b.backendInstanceId) .brainOwnershipMismatch

def resident (b : GpuClosedLoopBackend) (handle : GpuBrainHandle) : Contract ResidentBrainSlot :=
  getOr (b.residents handle) .brainOwnershipMismatch

def setResident (b : GpuClosedLoopBackend) (handle : GpuBrainHandle) (r : ResidentBrainSlot) :
    GpuClosedLoopBackend :=
  { b with residents := Function.update b.residents handle (some r) }

@[simp] theorem residents_setResident (b : GpuClosedLoopBackend) (handle : GpuBrainHandle)
    (r : ResidentBrainSlot) : (b.setResident handle r).residents handle = some r :=
  Function.update_self _ _ _

theorem residents_setResident_of_ne (b : GpuClosedLoopBackend) {handle other : GpuBrainHandle}
    (r : ResidentBrainSlot) (h : other ≠ handle) :
    (b.setResident handle r).residents other = b.residents other :=
  Function.update_of_ne h _ _

/-- A command on one resident. -/
def onResident (b : GpuClosedLoopBackend) (handle : GpuBrainHandle)
    (f : ResidentBrainSlot → Contract ResidentBrainSlot) : Contract GpuClosedLoopBackend := do
  b.ensureReady
  b.validateHandleBackend handle
  let r ← b.resident handle
  let r ← f r
  .ok (b.setResident handle r)

/-- `insert_brain_inner`, under the handle that the allocator issues. -/
def insertBrain (b : GpuClosedLoopBackend) (handle : GpuBrainHandle) (phenotype : BrainPhenotype) :
    Contract GpuClosedLoopBackend := do
  b.ensureReady
  failIf (handle.organismIdRaw = 0 ∨ (b.residents handle).isSome) .brainOwnershipMismatch
  supportedForId phenotype.brainClassId.raw.toNat
  failIf (handle.classId ≠ phenotype.brainClassId ∨ handle.generation = 0
      ∨ handle.phenotypeHash ≠ phenotype.phenotypeHash
      ∨ handle.backendInstanceId ≠ b.backendInstanceId) .brainOwnershipMismatch
  .ok (b.setResident handle (.inserted phenotype))

def restoreActivityState (b : GpuClosedLoopBackend) (handle : GpuBrainHandle)
    (input : GpuActivityRestoreInput) : Contract GpuClosedLoopBackend := do
  b.ensureReady
  b.validateHandleBackend handle
  failIf (brainAtpQ16Max < input.brainAtpQ16
      ∨ ∃ tick ∈ input.lastWorldAtpTick, input.checkpointTick < tick)
    .brainActivitySequenceMismatch
  let r ← b.resident handle
  let r ← r.restoreActivityState handle input
  .ok (b.setResident handle r)

def snapshotActivityState (b : GpuClosedLoopBackend) (handle : GpuBrainHandle) :
    Contract GpuActivityRuntimeSnapshot := do
  b.validateHandleBackend handle
  let r ← b.resident handle
  r.snapshotActivityState handle

def run (b : GpuClosedLoopBackend) (handle : GpuBrainHandle) :
    ActivityCommand → Contract GpuClosedLoopBackend
  | .insert phenotype => b.insertBrain handle phenotype
  | .dispatch input => b.onResident handle fun r => r.dispatch handle input
  | .bind worldTick canonicalBrainAtp =>
    b.onResident handle (·.bindWorldBrainAtpTick worldTick canonicalBrainAtp)
  | .charge worldTick beganTickAsleep =>
    b.onResident handle (·.advanceWorldBrainAtpTick worldTick (some beganTickAsleep))
  | .hold worldTick => b.onResident handle (·.advanceWorldBrainAtpTick worldTick none)
  | .restore input => b.restoreActivityState handle input

/-- The backends that commands lead to, from one without residents. -/
inductive Reachable : GpuClosedLoopBackend → Prop
  | empty (backendInstanceId : UInt64) : Reachable ⟨true, backendInstanceId, fun _ => none⟩
  | run {b b' : GpuClosedLoopBackend} {handle : GpuBrainHandle} {command : ActivityCommand} :
    Reachable b → b.run handle command = .ok b' → Reachable b'

/-- Every resident is sound. -/
def Sound (b : GpuClosedLoopBackend) : Prop :=
  ∀ handle r, b.residents handle = some r → r.Sound handle

variable {b b' : GpuClosedLoopBackend} {handle : GpuBrainHandle}

theorem Sound.setResident (hb : b.Sound) {r : ResidentBrainSlot} (hr : r.Sound handle) :
    (b.setResident handle r).Sound := by
  intro other r' hother
  by_cases hsame : other = handle
  · rw [hsame, residents_setResident] at hother
    rw [hsame, ← Option.some.inj hother]
    exact hr
  · rw [residents_setResident_of_ne b r hsame] at hother
    exact hb other r' hother

theorem Sound.onResident (hb : b.Sound) {f : ResidentBrainSlot → Contract ResidentBrainSlot}
    (hf : ∀ r r', r.Sound handle → f r = .ok r' → r'.Sound handle)
    (h : b.onResident handle f = .ok b') : b'.Sound := by
  unfold GpuClosedLoopBackend.onResident at h
  obtain ⟨-, h⟩ := except_seq_eq_ok_iff.1 h
  obtain ⟨-, h⟩ := except_seq_eq_ok_iff.1 h
  obtain ⟨r, hr, h⟩ := except_bind_eq_ok_iff.1 h
  obtain ⟨r', hr', h⟩ := except_bind_eq_ok_iff.1 h
  obtain rfl := Except.ok.inj h
  exact hb.setResident (hf r r' (hb handle r (getOr_eq_ok_iff.1 hr)) hr')

/-- What one command preserves. -/
theorem Sound.run (hb : b.Sound) {command : ActivityCommand}
    (h : b.run handle command = .ok b') : b'.Sound := by
  cases command with
  | insert phenotype =>
    unfold GpuClosedLoopBackend.run insertBrain at h
    obtain ⟨-, h⟩ := except_seq_eq_ok_iff.1 h
    obtain ⟨-, h⟩ := except_seq_eq_ok_iff.1 h
    obtain ⟨-, h⟩ := except_seq_eq_ok_iff.1 h
    obtain ⟨-, h⟩ := except_seq_eq_ok_iff.1 h
    obtain rfl := Except.ok.inj h
    exact hb.setResident (ResidentBrainSlot.sound_inserted handle phenotype)
  | dispatch input => exact hb.onResident (fun _ _ _ hr => .dispatch hr) h
  | bind worldTick canonicalBrainAtp =>
    exact hb.onResident (fun _ _ hr hr' => hr.bindWorldBrainAtpTick hr') h
  | charge worldTick beganTickAsleep =>
    refine hb.onResident (fun _ _ hr hr' => ?_) h
    exact hr.onWorldAtpTick (fun _ => ResidentBrainSlot.worldAtpAfter_le _) hr'
  | hold worldTick =>
    refine hb.onResident (fun _ _ hr hr' => ?_) h
    exact hr.onWorldAtpTick (fun _ => ResidentBrainSlot.worldAtpAfter_le _) hr'
  | restore input =>
    unfold GpuClosedLoopBackend.run restoreActivityState at h
    obtain ⟨-, h⟩ := except_seq_eq_ok_iff.1 h
    obtain ⟨-, h⟩ := except_seq_eq_ok_iff.1 h
    obtain ⟨hinput, h⟩ := except_seq_eq_ok_iff.1 h
    obtain ⟨r, -, h⟩ := except_bind_eq_ok_iff.1 h
    obtain ⟨r', hr', h⟩ := except_bind_eq_ok_iff.1 h
    obtain rfl := Except.ok.inj h
    rw [failIf_eq_ok_iff, not_or, UInt32.not_lt] at hinput
    exact hb.setResident (ResidentBrainSlot.sound_of_restoreActivityState hinput.1 hr')

/-- **Every reachable resident is sound.** -/
theorem Reachable.sound (h : Reachable b) : b.Sound := by
  induction h with
  | empty backendInstanceId => exact fun _ _ hr => by cases hr
  | run _ hrun ih => exact ih.run hrun

/-- A snapshot of a reachable resident is made of its fields. -/
theorem Reachable.snapshot_eq (h : Reachable b) {s : GpuActivityRuntimeSnapshot}
    (hs : b.snapshotActivityState handle = .ok s) :
    ∃ r, b.residents handle = some r ∧ r.Sound handle ∧ r.activitySequenceCursor ≠ 0 ∧
      s = r.snapshot := by
  unfold snapshotActivityState at hs
  obtain ⟨-, hs⟩ := except_seq_eq_ok_iff.1 hs
  obtain ⟨r, hr, hs⟩ := except_bind_eq_ok_iff.1 hs
  have hresident := getOr_eq_ok_iff.1 hr
  have hsound := h.sound handle r hresident
  exact ⟨r, hresident, hsound, hsound.snapshotActivityState_eq_ok_iff.1 hs⟩

end GpuClosedLoopBackend

end Activity

end ALife
