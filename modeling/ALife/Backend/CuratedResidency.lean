/-
# The curated residency transaction

`run_curated_residency_transaction` and the port it runs over
(`crates/alife_gpu_backend/src/closed_loop_runtime.rs`).  A cohort replaces all
residents at once: it is validated against a snapshot, given free slots,
staged, submitted in one command buffer and committed.  Whatever fails before
the submission is classified by the port; whatever fails from the submission on
leaves the backend unknown.

The transaction is generic over its port (`CuratedResidencyTransactionPort`, the
source's trait) and the port's state `σ`; a call of the port that fails still
leaves the state it left.
-/

import ALife.Backend.ClassBuckets
import ALife.Machine.Outcome

namespace ALife

open Machine

/-- `GpuCuratedResidencyEntry`. -/
structure GpuCuratedResidencyEntry where
  organismId : OrganismId
  opaqueTargetIdentity : UInt64
  phenotype : ResidentPhenotype
  exactPhenotypeHash : Digest256
  exactFoundationHash : Blake3Digest
  deriving DecidableEq, Repr

/-- `GpuCuratedResidencyCohort`. -/
structure GpuCuratedResidencyCohort where
  expectedOldGeneration : ℕ
  newGenerationFingerprint : Digest256
  orderedEntries : List GpuCuratedResidencyEntry
  deriving DecidableEq, Repr

/-- `GpuCuratedResidentReceipt`. -/
structure GpuCuratedResidentReceipt where
  organismId : OrganismId
  opaqueTargetIdentity : UInt64
  exactPhenotypeHash : Digest256
  exactFoundationHash : Blake3Digest
  handle : GpuBrainHandle
  deriving DecidableEq, Repr

/-- `GpuCuratedResidencyReceipt`. -/
structure GpuCuratedResidencyReceipt where
  generationFingerprint : Digest256
  orderedResidents : List GpuCuratedResidentReceipt
  submissionCompleted : Bool
  backendHardwareGeneration : ℕ
  deriving DecidableEq, Repr

/-- `GpuCuratedResidencyOutcome`. -/
inductive GpuCuratedResidencyOutcome where
  | committed (receipt : GpuCuratedResidencyReceipt)
  | preSubmitFailure (error : ScaffoldContractError) (retryable : Bool)
  | unknown (error : ScaffoldContractError) (failStop : Bool)
  deriving DecidableEq, Repr

/-- `CuratedResidencySlotState`. -/
structure CuratedResidencySlotState where
  location : SlotLocation
  generationWatermark : ℕ
  reservedGeneration : ℕ
  occupied : Bool
  retired : Bool
  deriving DecidableEq, Repr

/-- `CuratedResidencyPortSnapshot`; the admission generation, which nothing
reads, is left out. -/
structure CuratedResidencyPortSnapshot where
  backendInstanceId : ℕ
  generation : ℕ
  liveBrains : ℕ
  maxHotBrains : ℕ
  logicalCommittedBytes : ℕ
  logicalBudgetBytes : ℕ
  logicalSlotCommitBytes : ℕ
  physicalAllocatedBytes : ℕ
  transientNewPhysicalBytes : ℕ
  physicalCeilingBytes : ℕ
  slots : List CuratedResidencySlotState
  oldResidents : List GpuCuratedResidentReceipt
  backendHardwareGeneration : ℕ

/-- `CuratedResidencyTransactionPort`. -/
structure CuratedResidencyTransactionPort (σ StagedEntry : Type) where
  classifyPreSubmit : ScaffoldContractError → σ → GpuCuratedResidencyOutcome × σ
  snapshot : EStateM ScaffoldContractError σ CuratedResidencyPortSnapshot
  prepareEntry : ℕ → GpuCuratedResidencyEntry → CuratedResidencySlotState →
    EStateM ScaffoldContractError σ StagedEntry
  recordOldSlotScrub : GpuCuratedResidentReceipt → EStateM ScaffoldContractError σ Unit
  recordNewSlotInitialization : StagedEntry → EStateM ScaffoldContractError σ Unit
  submitOnce : EStateM ScaffoldContractError σ Unit
  pollCompletion : EStateM ScaffoldContractError σ Unit
  commit : GpuCuratedResidencyCohort → List CuratedResidencySlotState → List StagedEntry →
    GpuCuratedResidencyReceipt → EStateM ScaffoldContractError σ Unit
  markUnknown : σ → σ

/-- `curated_residency_pre_submit`. -/
def curatedResidencyPreSubmit (error : ScaffoldContractError) : GpuCuratedResidencyOutcome :=
  .preSubmitFailure error true

/-- The checks on one entry, the identities of the entries before it in hand. -/
def validateCuratedEntry (classId : ℕ) (first : GpuCuratedResidencyEntry)
    (seen : List OrganismId × List UInt64) (entry : GpuCuratedResidencyEntry) :
    Contract (List OrganismId × List UInt64) := do
  productionForId entry.phenotype.brainClassId
  reject (entry.phenotype.valid = false) .gpuLayoutMismatch
  reject (entry.phenotype.brainClassId ≠ classId
    ∨ entry.phenotype.sensorProfile ≠ first.phenotype.sensorProfile
    ∨ entry.exactFoundationHash ≠ first.exactFoundationHash
    ∨ entry.organismId.validate ≠ .ok ()
    ∨ entry.opaqueTargetIdentity = 0
    ∨ entry.organismId ∈ seen.1
    ∨ entry.opaqueTargetIdentity ∈ seen.2
    ∨ entry.exactPhenotypeHash ≠ entry.phenotype.phenotypeHash
    ∨ entry.exactFoundationHash = Blake3Digest.default
    ∨ entry.phenotype.foundationPayloadDigest ≠ some entry.exactFoundationHash)
    .brainOwnershipMismatch
  pure (entry.organismId :: seen.1, entry.opaqueTargetIdentity :: seen.2)

/-- `validate_curated_residency_cohort`.  Every production class carries the
current layout version, so that check never fires and is left out. -/
def validateCuratedResidencyCohort (cohort : GpuCuratedResidencyCohort)
    (snapshot : CuratedResidencyPortSnapshot) : Contract ℕ := do
  reject (cohort.orderedEntries = [] ∨ cohort.newGenerationFingerprint = Digest256.zero
    ∨ cohort.expectedOldGeneration ≠ snapshot.generation) .brainActivitySequenceMismatch
  let first ← getOr cohort.orderedEntries.head? .brainOwnershipMismatch
  let classId := first.phenotype.brainClassId
  reject (classId ≠ n512Id) .unsupportedProductionBrainClass
  let _ ← cohort.orderedEntries.foldlM (validateCuratedEntry classId first) ([], [])
  pure classId

/-- The three budgets that a cohort of `count` entries is held against, on top of
what is resident. -/
def withinBudgets (snapshot : CuratedResidencyPortSnapshot) (count : ℕ) : Bool :=
  (checkedAdd 32 snapshot.liveBrains count).any (· ≤ snapshot.maxHotBrains)
    && (checkedAdd 64 snapshot.logicalCommittedBytes
        (saturatingMul 64 snapshot.logicalSlotCommitBytes count)).any
          (· ≤ snapshot.logicalBudgetBytes)
    && (checkedAdd 64 snapshot.physicalAllocatedBytes snapshot.transientNewPhysicalBytes).any
        (· ≤ snapshot.physicalCeilingBytes)

/-- A row that may be reserved for a brain of the class. -/
def CuratedResidencySlotState.isFree (classId : ℕ) (row : CuratedResidencySlotState) : Bool :=
  row.location.classId == classId && !row.occupied && !row.retired

/-- The loop that reserves `count` of the rows: the first free ones, each under
the generation after its watermark; a watermark at its end refuses the cohort. -/
def reserveSlots (classId : ℕ) : ℕ → List CuratedResidencySlotState →
    Contract (List CuratedResidencySlotState)
  | 0, _ => .ok []
  | _ + 1, [] => .error .neuralBackendUnavailable
  | count + 1, row :: rows =>
    if row.isFree classId then do
      let generation ← getOr (checkedAdd 32 row.generationWatermark 1) .neuralBackendUnavailable
      let rest ← reserveSlots classId count rows
      pure ({ row with reservedGeneration := generation } :: rest)
    else reserveSlots classId (count + 1) rows

/-- What the transaction has in hand when it submits. -/
structure StagedCohort (StagedEntry : Type) where
  snapshot : CuratedResidencyPortSnapshot
  classId : ℕ
  reservations : List CuratedResidencySlotState
  staged : List StagedEntry

/-- The handle under which an entry is resident in its reserved slot. -/
def reservedHandle (backendInstanceId classId : ℕ) (entry : GpuCuratedResidencyEntry)
    (reservation : CuratedResidencySlotState) : GpuBrainHandle where
  backendInstanceId := backendInstanceId
  classId := classId
  slot := reservation.location.slot
  generation := reservation.reservedGeneration
  organismId := entry.organismId
  phenotypeHash := entry.exactPhenotypeHash

/-- The receipt of a cohort in its reserved slots. -/
def cohortReceipt {StagedEntry : Type} (cohort : GpuCuratedResidencyCohort)
    (plan : StagedCohort StagedEntry) : GpuCuratedResidencyReceipt where
  generationFingerprint := cohort.newGenerationFingerprint
  orderedResidents := (cohort.orderedEntries.zip plan.reservations).map fun er =>
    { organismId := er.1.organismId
      opaqueTargetIdentity := er.1.opaqueTargetIdentity
      exactPhenotypeHash := er.1.exactPhenotypeHash
      exactFoundationHash := er.1.exactFoundationHash
      handle := reservedHandle plan.snapshot.backendInstanceId plan.classId er.1 er.2 }
  submissionCompleted := true
  backendHardwareGeneration := plan.snapshot.backendHardwareGeneration

namespace CuratedResidencyTransactionPort

variable {σ StagedEntry : Type} (port : CuratedResidencyTransactionPort σ StagedEntry)
  (cohort : GpuCuratedResidencyCohort)

/-- `curated_residency_unknown`. -/
def curatedResidencyUnknown (error : ScaffoldContractError) (s : σ) :
    GpuCuratedResidencyOutcome × σ := (.unknown error true, port.markUnknown s)

/-- The steps before the submission. -/
def stage : EStateM ScaffoldContractError σ (StagedCohort StagedEntry) := do
  let snapshot ← port.snapshot
  let classId ← ofResult (validateCuratedResidencyCohort cohort snapshot)
  let count := cohort.orderedEntries.length
  ofResult (failIf (¬count < 2 ^ 32) .neuralBackendUnavailable)
  ofResult (failIf (withinBudgets snapshot count = false) .neuralBackendUnavailable)
  let reservations ← ofResult (reserveSlots classId count snapshot.slots)
  let staged ← (cohort.orderedEntries.zip reservations).zipIdx.mapM fun er =>
    port.prepareEntry er.2 er.1.1 er.1.2
  snapshot.oldResidents.forM port.recordOldSlotScrub
  staged.forM port.recordNewSlotInitialization
  pure { snapshot, classId, reservations, staged }

/-- The steps from the submission on. -/
def submit (plan : StagedCohort StagedEntry) :
    EStateM ScaffoldContractError σ GpuCuratedResidencyReceipt := do
  port.submitOnce
  port.pollCompletion
  port.commit cohort plan.reservations plan.staged (cohortReceipt cohort plan)
  pure (cohortReceipt cohort plan)

/-- `run_curated_residency_transaction`. -/
def runCuratedResidencyTransaction (s : σ) : GpuCuratedResidencyOutcome × σ :=
  match port.stage cohort s with
  | .error error s => port.classifyPreSubmit error s
  | .ok plan s =>
    match port.submit cohort plan s with
    | .error error s => port.curatedResidencyUnknown error s
    | .ok receipt s => (.committed receipt, s)

end CuratedResidencyTransactionPort

end ALife
