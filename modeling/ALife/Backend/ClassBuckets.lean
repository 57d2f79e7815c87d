/-
# Class buckets and the resident brains

`ClassBucketRuntime`, `ClassBucketPool` and the residency half of
`GpuClosedLoopBackend` (`crates/alife_gpu_backend/src/closed_loop_runtime.rs`).
Every capacity class has a pool of chunks and every chunk a row of slots, each
free, occupied by a resident brain, or retired.  The device buffers, the weights
and the per-slot cursors that residency neither reads nor moves are left out, as
is the table of active sides behind a pipeline: retiring a slot reads only
whether the pipeline is healthy and idle.

A plan's bytes are the shared bytes of its chunk and, for each slot, the
committed and padding bytes that its class fixes (`SlotLayout`), which is what
`slot_allocation_receipt` reconciles.
-/

import ALife.Backend.Admission
import ALife.Core.Blake3
import ALife.Core.Units
import ALife.Machine.Checks
import ALife.Machine.OrderedMap

namespace ALife

open Machine

/-- The per-slot figures of `GpuSlotAllocationReceipt`, fixed by a class's
capacity; a slot commits at least one byte. -/
structure SlotLayout where
  logicalSlotCommitBytes : ℕ
  alignmentPaddingBytes : ℕ
  commit_pos : 0 < logicalSlotCommitBytes

/-- `GpuFixedClassArenaPlan`. -/
structure GpuFixedClassArenaPlan where
  slotCapacity : ℕ
  sharedClassBytes : ℕ
  deriving DecidableEq, Repr

/-- `aggregate_resident_bytes`. -/
def GpuFixedClassArenaPlan.aggregateResidentBytes (plan : GpuFixedClassArenaPlan)
    (layout : SlotLayout) : ℕ :=
  plan.sharedClassBytes
    + plan.slotCapacity * (layout.logicalSlotCommitBytes + layout.alignmentPaddingBytes)

/-- What residency reads of a `BrainPhenotype`; `valid` is the answer of its
`validate_against` for the capacity of its own class. -/
structure ResidentPhenotype where
  brainClassId : ℕ
  sensorProfile : ℕ
  phenotypeHash : Digest256
  foundationPayloadDigest : Option Blake3Digest
  valid : Bool
  deriving DecidableEq, Repr

/-- `GpuBrainHandle`. -/
structure GpuBrainHandle where
  backendInstanceId : ℕ
  classId : ℕ
  slot : ℕ
  generation : ℕ
  organismId : OrganismId
  phenotypeHash : Digest256
  deriving DecidableEq, Repr

/-- `ResidentBrainSlot`: the owner, the generation its slot was issued under, and
whether an eligibility is pending on it. -/
structure ResidentBrainSlot where
  organismId : OrganismId
  phenotypeHash : Digest256
  sensorProfile : ℕ
  phenotype : ResidentPhenotype
  slotGeneration : ℕ
  pendingEligibility : Bool
  pendingEligibilityRecord : Bool
  deriving DecidableEq, Repr

/-- What retiring a slot reads of `BatchAuthority`. -/
structure BatchAuthority where
  poisoned : Bool
  pending : Bool
  deriving DecidableEq, Repr

/-- `retire_active_side` succeeds. -/
def BatchAuthority.idle (a : BatchAuthority) : Bool := !a.poisoned && !a.pending

/-- `ClassBucketRuntime`, one chunk of a class: a slot for each of its plan. -/
@[ext]
structure ClassBucketRuntime where
  plan : GpuFixedClassArenaPlan
  authority : BatchAuthority
  slots : List (Option ResidentBrainSlot)
  generations : List ℕ
  retired : List ℕ
  freeSlots : List ℕ
  length_slots : slots.length = plan.slotCapacity
  deriving DecidableEq, Repr

namespace ClassBucketRuntime

/-- The resident of a slot. -/
def resident (bucket : ClassBucketRuntime) (slot : ℕ) : Option ResidentBrainSlot :=
  (bucket.slots[slot]?).join

/-- `contains`. -/
def contains (bucket : ClassBucketRuntime) (handle : GpuBrainHandle) : Bool :=
  (bucket.resident handle.slot).any fun r =>
    r.slotGeneration == handle.generation && r.organismId == handle.organismId
      && r.phenotypeHash == handle.phenotypeHash

/-- The number of occupied slots. -/
def live (bucket : ClassBucketRuntime) : ℕ := (bucket.slots.filter Option.isSome).length

end ClassBucketRuntime

/-- `ClassBucketPool`, its chunks in order. -/
abbrev ClassBucketPool := List ClassBucketRuntime

/-- `class_buckets`. -/
abbrev ClassBuckets := OrderedMap ℕ ClassBucketPool

/-- Where a resident sits. -/
structure SlotLocation where
  classId : ℕ
  chunkIndex : ℕ
  slot : ℕ
  deriving DecidableEq, Repr

namespace ClassBuckets

/-- `class_buckets.get(class).and_then(|pool| pool.chunks.get(chunk))`. -/
def chunk? (m : ClassBuckets) (classId chunkIndex : ℕ) : Option ClassBucketRuntime :=
  (m.get? classId).bind fun pool => pool[chunkIndex]?

/-- A change of one chunk, through `get_mut`. -/
def modifyChunk (m : ClassBuckets) (classId chunkIndex : ℕ)
    (f : ClassBucketRuntime → ClassBucketRuntime) : Option ClassBuckets :=
  (m.get? classId).bind fun pool =>
    (pool[chunkIndex]?).map fun bucket => m.insert classId (pool.set chunkIndex (f bucket))

/-- Every chunk under its class, in the order the loops over `class_buckets` meet
them. -/
def chunks (m : ClassBuckets) : List (ℕ × ClassBucketRuntime) :=
  m.entries.flatMap fun e => e.2.map fun bucket => (e.1, bucket)

/-- Every slot with what it holds, in the order of the loops. -/
def slotRows (m : ClassBuckets) : List (SlotLocation × ClassBucketRuntime × Option ResidentBrainSlot) :=
  m.entries.flatMap fun e => e.2.zipIdx.flatMap fun c => c.1.slots.zipIdx.map fun s =>
    (⟨e.1, c.2, s.2⟩, c.1, s.1)

/-- The residents with their places, in the order of the loops. -/
def residents (m : ClassBuckets) : List (SlotLocation × ResidentBrainSlot) :=
  m.slotRows.filterMap fun row => row.2.2.map fun r => (row.1, r)

end ClassBuckets

/-- `GpuBackendState`. -/
inductive GpuBackendState where
  | ready | deviceLost
  deriving DecidableEq, Repr

/-- `GpuClosedLoopBackend`, its residency fields. -/
structure GpuClosedLoopBackend where
  backendInstanceId : ℕ
  state : GpuBackendState
  /-- the flag the device's loss callback raises -/
  lost : Bool
  slotLayout : ℕ → SlotLayout
  runtimeBudget : GpuRuntimeBudget
  hardwareGeneration : ℕ
  classBuckets : ClassBuckets
  /-- `organisms`, by raw organism id -/
  organisms : OrderedMap ℕ GpuBrainHandle
  /-- `slot_generation_watermarks`, by class and slot number -/
  slotGenerationWatermarks : OrderedMap (ℕ ×ₗ ℕ) ℕ
  admission : GpuAdmissionReceipt
  curatedResidencyGeneration : ℕ
  curatedResidencyGenerationFingerprint : Digest256

namespace GpuClosedLoopBackend

/-- `mark_device_lost`. -/
def markDeviceLost (b : GpuClosedLoopBackend) : GpuClosedLoopBackend :=
  { b with state := .deviceLost }

/-- `ensure_ready`: a raised flag is noticed here. -/
def ensureReady (b : GpuClosedLoopBackend) : Contract Unit × GpuClosedLoopBackend :=
  let b := if b.lost then b.markDeviceLost else b
  (reject (b.state ≠ .ready) .neuralBackendUnavailable, b)

/-- The counts that `current_admission_snapshot` adds up. -/
@[ext]
structure AdmissionTotals where
  logicalCommittedBytes : ℕ
  physicalUnusedRetainedBytes : ℕ
  physicalSharedBytes : ℕ
  physicalAlignmentSlackBytes : ℕ
  physicalAllocatedBytes : ℕ
  liveBrains : ℕ
  deriving DecidableEq, Repr

/-- One turn of the loop over chunks: all products and sums are checked. -/
def addChunk (layout : ℕ → SlotLayout) (t : AdmissionTotals) (c : ℕ × ClassBucketRuntime) :
    Option AdmissionTotals := do
  let receipt := layout c.1
  let unused ← checkedSub c.2.plan.slotCapacity c.2.live
  let logical ← checkedMul 64 receipt.logicalSlotCommitBytes c.2.live
  let logical ← checkedAdd 64 t.logicalCommittedBytes logical
  let retained ← checkedMul 64 receipt.logicalSlotCommitBytes unused
  let retained ← checkedAdd 64 t.physicalUnusedRetainedBytes retained
  let shared ← checkedAdd 64 t.physicalSharedBytes c.2.plan.sharedClassBytes
  let slack ← checkedMul 64 receipt.alignmentPaddingBytes c.2.plan.slotCapacity
  let slack ← checkedAdd 64 t.physicalAlignmentSlackBytes slack
  let allocated ← checkedAdd 64 t.physicalAllocatedBytes (c.2.plan.aggregateResidentBytes receipt)
  let live ← checkedAdd 32 t.liveBrains c.2.live
  some ⟨logical, retained, shared, slack, allocated, live⟩

/-- `current_admission_snapshot`. -/
def currentAdmissionSnapshot (b : GpuClosedLoopBackend) : Contract GpuAdmissionReceipt := do
  let t ← getOr (b.classBuckets.chunks.foldlM (addChunk b.slotLayout) ⟨0, 0, 0, 0, 0, 0⟩)
    .neuralBackendUnavailable
  let available ← getOr
    (checkedSub b.runtimeBudget.logicalNeuralHeapBudgetBytes t.logicalCommittedBytes)
    .neuralBackendUnavailable
  let receipt : GpuAdmissionReceipt :=
    { schemaVersion := admissionSchemaVersion
      runtime := b.runtimeBudget
      logicalCommittedBytes := t.logicalCommittedBytes
      logicalAvailableBytes := available
      physicalAllocatedBytes := t.physicalAllocatedBytes
      physicalUnusedRetainedBytes := t.physicalUnusedRetainedBytes
      physicalSharedBytes := t.physicalSharedBytes
      physicalAlignmentSlackBytes := t.physicalAlignmentSlackBytes
      peakLogicalCommittedBytes :=
        max b.admission.peakLogicalCommittedBytes t.logicalCommittedBytes
      peakPhysicalAllocatedBytes :=
        max b.admission.peakPhysicalAllocatedBytes t.physicalAllocatedBytes
      liveBrains := t.liveBrains
      maxHotBrains := b.runtimeBudget.maxHotBrains
      allocationGeneration := 0
      lastEvent := none }
  receipt.validateContract
  pure receipt

/-- `commit_admission_event`; on an error the receipt stays as it was. -/
def commitAdmissionEvent (b : GpuClosedLoopBackend) (kind : GpuAllocationEventKind)
    (handle : GpuBrainHandle) (transientPeakPhysicalBytes : ℕ) : Contract GpuClosedLoopBackend := do
  let before := b.admission
  let after ← b.currentAdmissionSnapshot
  let generation ← getOr (checkedAdd 64 before.allocationGeneration 1) .neuralBackendUnavailable
  let after :=
    { after with
      allocationGeneration := generation
      peakLogicalCommittedBytes :=
        max before.peakLogicalCommittedBytes after.logicalCommittedBytes
      peakPhysicalAllocatedBytes :=
        max (max before.peakPhysicalAllocatedBytes after.physicalAllocatedBytes)
          transientPeakPhysicalBytes }
  let after :=
    { after with
      lastEvent := some (.new kind handle.classId handle.slot handle.generation before after) }
  after.validateContract
  pure { b with admission := after }

end GpuClosedLoopBackend

end ALife
