/-
# Admission receipts

`crates/alife_gpu_backend/src/closed_loop_admission.rs`.  The runtime publishes
one admission receipt after each change of residency: the byte and brain counts
over all chunks, and the event that led to them.  `GpuAllocationEventReceipt`
is checked against the counts before and after it; each kind of event asks for
its own movement of them (`transitionIsValid`), and an admission into a retained
slot for more committed bytes on the same allocation.

Byte counts are natural numbers, cut to words where they are hashed.
-/

import ALife.Core.CanonicalDigest
import ALife.Core.Error
import ALife.Machine.CheckedNat

namespace ALife

open Machine

/-- `GpuRuntimeBudget`; only the limits that admission reads. -/
structure GpuRuntimeBudget where
  logicalNeuralHeapBudgetBytes : ℕ
  physicalAllocationCeilingBytes : ℕ
  maxHotBrains : ℕ
  deriving DecidableEq, Repr

/-- `BrainCapacityClass::N512_ID`, as a raw class number. -/
def n512Id : ℕ := 1

/-- `BrainCapacityClass::N4096_RESEARCH_ID`. -/
def n4096ResearchId : ℕ := 4

/-- `BrainCapacityClass::production_for_id`: N512, N1024 and N2048. -/
def productionForId (classId : ℕ) : Contract Unit :=
  reject (classId ∉ [n512Id, 2, 3]) .unsupportedProductionBrainClass

/-- `BrainCapacityClass::supported_for_id`. -/
def supportedForId (classId : ℕ) : Contract Unit :=
  if classId = n4096ResearchId then .ok () else productionForId classId

/-- `ADMISSION_SCHEMA_VERSION`. -/
def admissionSchemaVersion : ℕ := 1

/-- `GpuAllocationEventKind`. -/
inductive GpuAllocationEventKind where
  | admitFromNewChunk | admitFromRetainedSlot | releaseToRetainedSlot | releaseAndDropEmptyChunk
  deriving DecidableEq, Repr

/-- `kind as u16`. -/
def GpuAllocationEventKind.raw : GpuAllocationEventKind → ℕ
  | .admitFromNewChunk => 1
  | .admitFromRetainedSlot => 2
  | .releaseToRetainedSlot => 3
  | .releaseAndDropEmptyChunk => 4

/-- `GpuAllocationEventReceipt`. -/
structure GpuAllocationEventReceipt where
  schemaVersion : ℕ
  eventKindRaw : ℕ
  classIdRaw : ℕ
  handleSlot : ℕ
  handleGeneration : ℕ
  logicalCommittedBeforeBytes : ℕ
  logicalCommittedAfterBytes : ℕ
  physicalAllocatedBeforeBytes : ℕ
  physicalAllocatedAfterBytes : ℕ
  physicalUnusedBeforeBytes : ℕ
  physicalUnusedAfterBytes : ℕ
  physicalSharedBeforeBytes : ℕ
  physicalSharedAfterBytes : ℕ
  eventDigest : Digest256
  deriving DecidableEq, Repr

/-- `GpuAdmissionReceipt`. -/
structure GpuAdmissionReceipt where
  schemaVersion : ℕ
  runtime : GpuRuntimeBudget
  logicalCommittedBytes : ℕ
  logicalAvailableBytes : ℕ
  physicalAllocatedBytes : ℕ
  physicalUnusedRetainedBytes : ℕ
  physicalSharedBytes : ℕ
  physicalAlignmentSlackBytes : ℕ
  peakLogicalCommittedBytes : ℕ
  peakPhysicalAllocatedBytes : ℕ
  liveBrains : ℕ
  maxHotBrains : ℕ
  allocationGeneration : ℕ
  lastEvent : Option GpuAllocationEventReceipt
  deriving DecidableEq, Repr

namespace GpuAllocationEventReceipt

/-- `recompute_digest`. -/
def recomputeDigest (e : GpuAllocationEventReceipt) : Digest256 :=
  let d := CanonicalDigestBuilder.new (asciiBytes "alife.gpu.allocation-event.v1")
  let d := d.writeU16 e.schemaVersion.toUInt16
  let d := d.writeU16 e.eventKindRaw.toUInt16
  let d := d.writeU16 e.classIdRaw.toUInt16
  let d := d.writeU32 e.handleSlot.toUInt32
  let d := d.writeU32 e.handleGeneration.toUInt32
  let d := [e.logicalCommittedBeforeBytes, e.logicalCommittedAfterBytes,
    e.physicalAllocatedBeforeBytes, e.physicalAllocatedAfterBytes, e.physicalUnusedBeforeBytes,
    e.physicalUnusedAfterBytes, e.physicalSharedBeforeBytes, e.physicalSharedAfterBytes].foldl
      (fun d v => d.writeU64 v.toUInt64) d
  d.finish256

/-- `GpuAllocationEventReceipt::new`. -/
def new (kind : GpuAllocationEventKind) (classIdRaw handleSlot handleGeneration : ℕ)
    (before after : GpuAdmissionReceipt) : GpuAllocationEventReceipt :=
  let receipt : GpuAllocationEventReceipt :=
    { schemaVersion := admissionSchemaVersion, eventKindRaw := kind.raw, classIdRaw, handleSlot,
      handleGeneration
      logicalCommittedBeforeBytes := before.logicalCommittedBytes
      logicalCommittedAfterBytes := after.logicalCommittedBytes
      physicalAllocatedBeforeBytes := before.physicalAllocatedBytes
      physicalAllocatedAfterBytes := after.physicalAllocatedBytes
      physicalUnusedBeforeBytes := before.physicalUnusedRetainedBytes
      physicalUnusedAfterBytes := after.physicalUnusedRetainedBytes
      physicalSharedBeforeBytes := before.physicalSharedBytes
      physicalSharedAfterBytes := after.physicalSharedBytes
      eventDigest := Digest256.zero }
  { receipt with eventDigest := receipt.recomputeDigest }

/-- The movement of the byte counts that the kind of the event asks for. -/
def transitionIsValid (e : GpuAllocationEventReceipt) : Bool :=
  if e.eventKindRaw = GpuAllocationEventKind.admitFromNewChunk.raw then
    e.logicalCommittedAfterBytes > e.logicalCommittedBeforeBytes
      && e.physicalAllocatedAfterBytes > e.physicalAllocatedBeforeBytes
  else if e.eventKindRaw = GpuAllocationEventKind.admitFromRetainedSlot.raw then
    e.logicalCommittedAfterBytes > e.logicalCommittedBeforeBytes
      && e.physicalAllocatedAfterBytes == e.physicalAllocatedBeforeBytes
      && e.physicalUnusedAfterBytes < e.physicalUnusedBeforeBytes
  else if e.eventKindRaw = GpuAllocationEventKind.releaseToRetainedSlot.raw then
    e.logicalCommittedAfterBytes < e.logicalCommittedBeforeBytes
      && e.physicalAllocatedAfterBytes == e.physicalAllocatedBeforeBytes
      && e.physicalUnusedAfterBytes > e.physicalUnusedBeforeBytes
  else if e.eventKindRaw = GpuAllocationEventKind.releaseAndDropEmptyChunk.raw then
    e.logicalCommittedAfterBytes < e.logicalCommittedBeforeBytes
      && e.physicalAllocatedAfterBytes < e.physicalAllocatedBeforeBytes
      && e.physicalUnusedAfterBytes ≤ e.physicalUnusedBeforeBytes
  else false

/-- `GpuAllocationEventReceipt::validate_contract`. -/
def validateContract (e : GpuAllocationEventReceipt) : Contract Unit := do
  supportedForId e.classIdRaw
  reject (e.schemaVersion ≠ admissionSchemaVersion ∨ ¬(1 ≤ e.eventKindRaw ∧ e.eventKindRaw ≤ 4)
    ∨ e.handleGeneration = 0 ∨ e.transitionIsValid = false ∨ e.eventDigest ≠ e.recomputeDigest)
    .neuralBackendUnavailable

/-- `reconciles_after`. -/
def reconcilesAfter (e : GpuAllocationEventReceipt) (receipt : GpuAdmissionReceipt) : Bool :=
  e.logicalCommittedAfterBytes == receipt.logicalCommittedBytes
    && e.physicalAllocatedAfterBytes == receipt.physicalAllocatedBytes
    && e.physicalUnusedAfterBytes == receipt.physicalUnusedRetainedBytes
    && e.physicalSharedAfterBytes == receipt.physicalSharedBytes

/-- The digest is taken over the other fields. -/
theorem recomputeDigest_with_eventDigest (e : GpuAllocationEventReceipt) (d : Digest256) :
    { e with eventDigest := d }.recomputeDigest = e.recomputeDigest := by
  unfold recomputeDigest
  rfl

/-- A new event of a supported class and a nonzero generation passes when the
counts moved as its kind asks: its own fields are set from them. -/
theorem validateContract_new_eq_ok_iff {kind : GpuAllocationEventKind}
    {classIdRaw slot generation : ℕ} {before after : GpuAdmissionReceipt} :
    (new kind classIdRaw slot generation before after).validateContract = .ok () ↔
      supportedForId classIdRaw = .ok () ∧ generation ≠ 0 ∧
        (new kind classIdRaw slot generation before after).transitionIsValid = true := by
  have hkind : 1 ≤ kind.raw ∧ kind.raw ≤ 4 := by cases kind <;> decide
  have hdigest : (new kind classIdRaw slot generation before after).recomputeDigest
      = (new kind classIdRaw slot generation before after).eventDigest :=
    recomputeDigest_with_eventDigest _ _
  rw [validateContract, contract_check_eq_ok_iff, reject_eq_ok_iff, hdigest]
  have hschema : (new kind classIdRaw slot generation before after).schemaVersion
      = admissionSchemaVersion := rfl
  have hraw : (new kind classIdRaw slot generation before after).eventKindRaw = kind.raw := rfl
  have hclass : (new kind classIdRaw slot generation before after).classIdRaw = classIdRaw := rfl
  have hgeneration : (new kind classIdRaw slot generation before after).handleGeneration
      = generation := rfl
  rw [hschema, hraw, hclass, hgeneration]
  simp only [hkind, ne_eq, not_true_eq_false, and_self, false_or, or_false, not_or,
    Bool.not_eq_false]

theorem reconcilesAfter_new {kind : GpuAllocationEventKind} {classIdRaw slot generation : ℕ}
    {before after : GpuAdmissionReceipt} :
    (new kind classIdRaw slot generation before after).reconcilesAfter after = true := by
  simp [reconcilesAfter, new]

end GpuAllocationEventReceipt

namespace GpuAdmissionReceipt

/-- `GpuAdmissionReceipt::empty`. -/
def empty (runtime : GpuRuntimeBudget) : GpuAdmissionReceipt where
  schemaVersion := admissionSchemaVersion
  runtime := runtime
  logicalCommittedBytes := 0
  logicalAvailableBytes := runtime.logicalNeuralHeapBudgetBytes
  physicalAllocatedBytes := 0
  physicalUnusedRetainedBytes := 0
  physicalSharedBytes := 0
  physicalAlignmentSlackBytes := 0
  peakLogicalCommittedBytes := 0
  peakPhysicalAllocatedBytes := 0
  liveBrains := 0
  maxHotBrains := runtime.maxHotBrains
  allocationGeneration := 0
  lastEvent := none

/-- The four parts of the physical allocation, added with overflow checks. -/
def physicalSum (r : GpuAdmissionReceipt) : Option ℕ := do
  let sum ← checkedAdd 64 r.physicalSharedBytes r.logicalCommittedBytes
  let sum ← checkedAdd 64 sum r.physicalUnusedRetainedBytes
  checkedAdd 64 sum r.physicalAlignmentSlackBytes

/-- `GpuAdmissionReceipt::validate_contract`. -/
def validateContract (r : GpuAdmissionReceipt) : Contract Unit := do
  reject (r.schemaVersion ≠ admissionSchemaVersion ∨ r.maxHotBrains ≠ r.runtime.maxHotBrains
    ∨ r.liveBrains > r.maxHotBrains
    ∨ r.logicalCommittedBytes > r.runtime.logicalNeuralHeapBudgetBytes
    ∨ some r.logicalAvailableBytes
        ≠ checkedSub r.runtime.logicalNeuralHeapBudgetBytes r.logicalCommittedBytes
    ∨ r.physicalSum ≠ some r.physicalAllocatedBytes
    ∨ r.physicalAllocatedBytes > r.runtime.physicalAllocationCeilingBytes
    ∨ r.peakLogicalCommittedBytes < r.logicalCommittedBytes
    ∨ r.peakPhysicalAllocatedBytes < r.physicalAllocatedBytes
    ∨ (r.allocationGeneration == 0) ≠ r.lastEvent.isNone
    ∨ (∃ e ∈ r.lastEvent, e.validateContract ≠ .ok () ∨ e.reconcilesAfter r = false))
    .neuralBackendUnavailable

theorem physicalSum_eq_some_iff {r : GpuAdmissionReceipt} {n : ℕ} :
    r.physicalSum = some n ↔ n < 2 ^ 64 ∧ r.physicalSharedBytes + r.logicalCommittedBytes
      + r.physicalUnusedRetainedBytes + r.physicalAlignmentSlackBytes = n := by
  simp only [physicalSum, Option.bind_eq_bind, Option.bind_eq_some_iff, checkedAdd_eq_some_iff]
  constructor
  · rintro ⟨_, ⟨rfl, -⟩, _, ⟨rfl, -⟩, rfl, h⟩
    exact ⟨h, rfl⟩
  · rintro ⟨h, rfl⟩
    exact ⟨_, ⟨rfl, by omega⟩, _, ⟨rfl, by omega⟩, rfl, h⟩

end GpuAdmissionReceipt

end ALife
