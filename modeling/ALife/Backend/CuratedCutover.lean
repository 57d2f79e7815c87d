/-
# The cutover on the backend

`GpuCuratedResidencyBackendPort` and `replace_curated_cohort`
(`crates/alife_gpu_backend/src/closed_loop_runtime.rs`).  The device is a record
of answers (`CutoverFaults`): which uploads and recordings it refuses, whether
the wait for the submission fails, and when its loss callback raises the flag.
The calls that the theorems about a transaction count, submissions and losses of
the backend, are logged in the port.
-/

import ALife.Backend.CuratedResidency

namespace ALife

open Machine

/-- What the device does during one cutover.  The flag of a lost device may be
raised before the snapshot reads it, after that, at the submission and while
waiting for it. -/
structure CutoverFaults where
  lostBeforeSnapshot : Bool
  refusesSlotPlan : Option ScaffoldContractError
  lostAfterSnapshot : Bool
  refusesUpload : ℕ → Option ScaffoldContractError
  refusesScrub : GpuCuratedResidentReceipt → Option ScaffoldContractError
  refusesInitialization : GpuBrainHandle → Option ScaffoldContractError
  lostAtSubmission : Bool
  pollFails : Bool
  lostWhilePolling : Bool

/-- A call the port logs. -/
inductive CutoverCall where
  | submit | markDeviceLost
  deriving DecidableEq, Repr

/-- `PreparedCuratedBackendEntry`, without the upload. -/
structure PreparedCuratedBackendEntry where
  handle : GpuBrainHandle
  classId : ℕ
  chunkIndex : ℕ
  resident : ResidentBrainSlot
  deriving DecidableEq, Repr

/-- `GpuCuratedResidencyBackendPort`: the encoder is open or not. -/
structure CuratedBackendPort where
  backend : GpuClosedLoopBackend
  encoder : Bool
  submitted : Bool
  calls : List CutoverCall

namespace ClassBuckets

/-- `bucket_index_for_handle` of the class's pool, and the resident there. -/
def resolve (m : ClassBuckets) (handle : GpuBrainHandle) : Option ResidentBrainSlot :=
  (m.get? handle.classId).bind fun pool =>
    (pool.find? (·.contains handle)).bind (·.resident handle.slot)

end ClassBuckets

namespace GpuClosedLoopBackend

/-- The rows of the snapshot: a slot without a watermark shows its generation. -/
def slotStates (b : GpuClosedLoopBackend) : List CuratedResidencySlotState :=
  b.classBuckets.slotRows.map fun row =>
    { location := row.1
      generationWatermark :=
        (b.slotGenerationWatermarks.get? (toLex (row.1.classId, row.1.slot))).getD
          (row.2.1.generations.getD row.1.slot 0)
      reservedGeneration := 0
      occupied := row.2.2.isSome
      retired := row.2.1.retired.contains row.1.slot }

/-- The receipts of the residents before the cutover. -/
def oldResidents (b : GpuClosedLoopBackend) : List GpuCuratedResidentReceipt :=
  b.classBuckets.residents.map fun lr =>
    { organismId := lr.2.organismId
      opaqueTargetIdentity := lr.2.organismId.raw
      exactPhenotypeHash := lr.2.phenotypeHash
      exactFoundationHash := lr.2.phenotype.foundationPayloadDigest.getD Blake3Digest.default
      handle :=
        { backendInstanceId := b.backendInstanceId
          classId := lr.1.classId
          slot := lr.1.slot
          generation := lr.2.slotGeneration
          organismId := lr.2.organismId
          phenotypeHash := lr.2.phenotypeHash } }

/-- The snapshot of a ready backend. -/
def residencySnapshot (b : GpuClosedLoopBackend) : CuratedResidencyPortSnapshot where
  backendInstanceId := b.backendInstanceId
  generation := b.curatedResidencyGeneration
  liveBrains := b.oldResidents.length
  maxHotBrains := b.runtimeBudget.maxHotBrains
  logicalCommittedBytes := b.admission.logicalCommittedBytes
  logicalBudgetBytes := b.runtimeBudget.logicalNeuralHeapBudgetBytes
  logicalSlotCommitBytes := (b.slotLayout n512Id).logicalSlotCommitBytes
  physicalAllocatedBytes := b.admission.physicalAllocatedBytes
  transientNewPhysicalBytes := 0
  physicalCeilingBytes := b.runtimeBudget.physicalAllocationCeilingBytes
  slots := b.slotStates
  oldResidents := b.oldResidents
  backendHardwareGeneration := b.hardwareGeneration

/-- What an entry becomes in its reserved slot. -/
def stagedResident (entry : GpuCuratedResidencyEntry)
    (reservation : CuratedResidencySlotState) : ResidentBrainSlot where
  organismId := entry.organismId
  phenotypeHash := entry.exactPhenotypeHash
  sensorProfile := entry.phenotype.sensorProfile
  phenotype := entry.phenotype
  slotGeneration := reservation.reservedGeneration
  pendingEligibility := false
  pendingEligibilityRecord := false

/-- A slot may be taken: its chunk exists, and it is neither occupied nor
retired. -/
def slotIsOpen (b : GpuClosedLoopBackend) (l : SlotLocation) : Bool :=
  (b.classBuckets.chunk? l.classId l.chunkIndex).any fun bucket =>
    (bucket.resident l.slot).isNone && !bucket.retired.contains l.slot

end GpuClosedLoopBackend

/-- The clearing of one chunk: its residents go, and each slot they leave is
retired at the last generation and free otherwise. -/
def ClassBucketRuntime.clear (bucket : ClassBucketRuntime) : ClassBucketRuntime :=
  let left := bucket.slots.zipIdx.filterMap fun s => s.1.map fun r => (s.2, r.slotGeneration)
  { bucket with
    slots := bucket.slots.map fun _ => none
    length_slots := by rw [List.length_map, bucket.length_slots]
    retired := bucket.retired ++ (left.filter fun l => l.2 = 2 ^ 32 - 1).map (·.1)
    freeSlots := bucket.freeSlots ++ (left.filter fun l => l.2 ≠ 2 ^ 32 - 1).map (·.1) }

/-- The placing of a resident in a reserved slot. -/
def ClassBucketRuntime.place (bucket : ClassBucketRuntime) (slot generation : ℕ)
    (r : ResidentBrainSlot) : ClassBucketRuntime :=
  { bucket with
    freeSlots := bucket.freeSlots.filter (· ≠ slot)
    generations := bucket.generations.set slot generation
    slots := bucket.slots.set slot (some r)
    length_slots := by rw [List.length_set, bucket.length_slots] }

namespace GpuClosedLoopBackend

/-- The loop over the old locations visits every resident once; chunk by chunk it
clears the chunk.  No organism is left. -/
def clearResidents (b : GpuClosedLoopBackend) : GpuClosedLoopBackend :=
  { b with
    classBuckets := b.classBuckets.mapValues (·.map ClassBucketRuntime.clear)
    organisms := ∅ }

/-- One turn of the loop that places the staged entries. -/
def placePrepared (b : GpuClosedLoopBackend) (reservation : CuratedResidencySlotState)
    (prepared : PreparedCuratedBackendEntry) : Contract GpuClosedLoopBackend := do
  let classBuckets ← getOr (b.classBuckets.modifyChunk prepared.classId prepared.chunkIndex
      (·.place reservation.location.slot reservation.reservedGeneration prepared.resident))
    .brainOwnershipMismatch
  pure { b with
    classBuckets
    slotGenerationWatermarks := b.slotGenerationWatermarks.insert
      (toLex (prepared.classId, reservation.location.slot)) reservation.reservedGeneration
    organisms := b.organisms.insert prepared.handle.organismId.raw.toNat prepared.handle }

/-- A cutover counts one generation of curated residency. -/
def advanceCuratedGeneration (b : GpuClosedLoopBackend) : Contract GpuClosedLoopBackend := do
  let generation ← getOr (checkedAdd 64 b.curatedResidencyGeneration 1) .neuralBackendUnavailable
  pure { b with curatedResidencyGeneration := generation }

/-- The retiring loop passes: the pipeline of every chunk with a resident is
idle. -/
def pipelinesIdle (b : GpuClosedLoopBackend) : Bool :=
  b.classBuckets.slotRows.all fun row => row.2.2.isNone || row.2.1.authority.idle

end GpuClosedLoopBackend

namespace CuratedBackendPort

/-- `GpuCuratedResidencyBackendPort::new`. -/
def new (backend : GpuClosedLoopBackend) : CuratedBackendPort where
  backend := backend
  encoder := false
  submitted := false
  calls := []

/-- `mark_unknown`, and every other call of `mark_device_lost`. -/
def markUnknown (p : CuratedBackendPort) : CuratedBackendPort :=
  { p with backend := p.backend.markDeviceLost, calls := p.calls ++ [.markDeviceLost] }

/-- The loss callback raises its flag, or does not. -/
def raiseLost (p : CuratedBackendPort) (raised : Bool) : CuratedBackendPort :=
  { p with backend := { p.backend with lost := p.backend.lost || raised } }

/-- `ensure_ready` through the port. -/
def ensureReady (p : CuratedBackendPort) : Contract Unit × CuratedBackendPort :=
  let p := if p.backend.lost then p.markUnknown else p
  (reject (p.backend.state ≠ .ready) .neuralBackendUnavailable, p)

/-- A change of the backend that may be refused, leaving it as it was. -/
def update (f : GpuClosedLoopBackend → Contract GpuClosedLoopBackend) :
    EStateM ScaffoldContractError CuratedBackendPort Unit := fun p =>
  match f p.backend with
  | .ok b => .ok () { p with backend := b }
  | .error e => .error e p

variable (faults : CutoverFaults)

/-- `classify_pre_submit`: a lost device makes any failure unknown. -/
def classifyPreSubmit (error : ScaffoldContractError) (p : CuratedBackendPort) :
    GpuCuratedResidencyOutcome × CuratedBackendPort :=
  if p.backend.lost ∨ p.backend.state ≠ .ready then (.unknown error true, p.markUnknown)
  else (curatedResidencyPreSubmit error, p)

/-- `snapshot`. -/
def snapshot : EStateM ScaffoldContractError CuratedBackendPort CuratedResidencyPortSnapshot :=
  fun p =>
    let p := p.raiseLost faults.lostBeforeSnapshot
    match p.ensureReady with
    | (.error e, p) => .error e p
    | (.ok _, p) =>
      match faults.refusesSlotPlan with
      | some e => .error e (p.raiseLost faults.lostAfterSnapshot)
      | none =>
        if p.backend.oldResidents.length < 2 ^ 32 then
          .ok p.backend.residencySnapshot (p.raiseLost faults.lostAfterSnapshot)
        else .error .neuralBackendUnavailable (p.raiseLost faults.lostAfterSnapshot)

/-- `prepare_entry`. -/
def prepareEntry (index : ℕ) (entry : GpuCuratedResidencyEntry)
    (reservation : CuratedResidencySlotState) :
    EStateM ScaffoldContractError CuratedBackendPort PreparedCuratedBackendEntry := fun p =>
  let l := reservation.location
  if p.backend.classBuckets.chunk? l.classId l.chunkIndex = none then
    .error .brainOwnershipMismatch p
  else if p.backend.slotIsOpen l = false then .error .neuralBackendUnavailable p
  else
    match faults.refusesUpload index with
    | some e => .error e p
    | none => .ok
        { handle := reservedHandle p.backend.backendInstanceId l.classId entry reservation
          classId := l.classId
          chunkIndex := l.chunkIndex
          resident := GpuClosedLoopBackend.stagedResident entry reservation } p

/-- `record_old_slot_scrub`: the resident is the one the handle was made for, and
nothing is pending on it. -/
def recordOldSlotScrub (receipt : GpuCuratedResidentReceipt) :
    EStateM ScaffoldContractError CuratedBackendPort Unit := fun p =>
  let p := { p with encoder := true }
  match p.backend.classBuckets.resolve receipt.handle with
  | none => .error .brainOwnershipMismatch p
  | some r =>
    if r.slotGeneration ≠ receipt.handle.generation ∨ r.organismId ≠ receipt.handle.organismId
        ∨ r.phenotypeHash ≠ receipt.handle.phenotypeHash ∨ r.pendingEligibility = true
        ∨ r.pendingEligibilityRecord = true then .error .brainOwnershipMismatch p
    else
      match faults.refusesScrub receipt with
      | some e => .error e p
      | none => .ok () p

/-- `record_new_slot_initialization`. -/
def recordNewSlotInitialization (staged : PreparedCuratedBackendEntry) :
    EStateM ScaffoldContractError CuratedBackendPort Unit := fun p =>
  let p := { p with encoder := true }
  if p.backend.classBuckets.chunk? staged.classId staged.chunkIndex = none then
    .error .brainOwnershipMismatch p
  else
    match faults.refusesInitialization staged.handle with
    | some e => .error e p
    | none => .ok () p

/-- `submit_once`. -/
def submitOnce : EStateM ScaffoldContractError CuratedBackendPort Unit := fun p =>
  if p.submitted then .error .brainActivitySequenceMismatch p
  else if p.encoder = false then .error .neuralBackendUnavailable p
  else
    let p := { p with encoder := false, submitted := true, calls := p.calls ++ [CutoverCall.submit] }
    let p := p.raiseLost faults.lostAtSubmission
    if p.backend.lost then .error .neuralBackendUnavailable p else .ok () p

/-- `poll_completion`. -/
def pollCompletion : EStateM ScaffoldContractError CuratedBackendPort Unit := fun p =>
  let p := p.raiseLost faults.lostWhilePolling
  if p.submitted = false ∨ faults.pollFails = true ∨ p.backend.lost = true then
    .error .neuralBackendUnavailable p
  else .ok () p

/-- `commit`.  The last step is the admission event of the first handle. -/
def commit (cohort : GpuCuratedResidencyCohort) (reservations : List CuratedResidencySlotState)
    (staged : List PreparedCuratedBackendEntry) (receipt : GpuCuratedResidencyReceipt) :
    EStateM ScaffoldContractError CuratedBackendPort Unit := do
  update fun b => do
    reject (reservations.length ≠ staged.length ∨ staged.length ≠ receipt.orderedResidents.length
      ∨ (∃ rs ∈ receipt.orderedResidents.zip staged, rs.1.handle ≠ rs.2.handle))
      .brainOwnershipMismatch
    reject (∃ rs ∈ reservations.zip staged, rs.1.location.classId ≠ rs.2.classId
      ∨ rs.1.location.chunkIndex ≠ rs.2.chunkIndex ∨ b.slotIsOpen rs.1.location = false)
      .brainOwnershipMismatch
    reject (b.pipelinesIdle = false) .neuralBackendUnavailable
    pure b.clearResidents
  (reservations.zip staged).forM fun rs => update (·.placePrepared rs.1 rs.2)
  update (·.advanceCuratedGeneration)
  update fun b => pure
    { b with curatedResidencyGenerationFingerprint := cohort.newGenerationFingerprint }
  update fun b => do
    let first ← getOr receipt.orderedResidents.head? .brainOwnershipMismatch
    b.commitAdmissionEvent .admitFromRetainedSlot first.handle b.admission.physicalAllocatedBytes

/-- The port as the transaction uses it. -/
def port : CuratedResidencyTransactionPort CuratedBackendPort PreparedCuratedBackendEntry where
  classifyPreSubmit := classifyPreSubmit
  snapshot := snapshot faults
  prepareEntry := prepareEntry faults
  recordOldSlotScrub := recordOldSlotScrub faults
  recordNewSlotInitialization := recordNewSlotInitialization faults
  submitOnce := submitOnce faults
  pollCompletion := pollCompletion faults
  commit := commit
  markUnknown := markUnknown

end CuratedBackendPort

/-- `replace_curated_cohort`, with the port it leaves. -/
def GpuClosedLoopBackend.replaceCuratedCohort (b : GpuClosedLoopBackend) (faults : CutoverFaults)
    (cohort : GpuCuratedResidencyCohort) : GpuCuratedResidencyOutcome × CuratedBackendPort :=
  match (CuratedBackendPort.new b).ensureReady with
  | (.error error, p) => (.unknown error true, p.markUnknown)
  | (.ok _, p) => (CuratedBackendPort.port faults).runCuratedResidencyTransaction cohort p

end ALife
