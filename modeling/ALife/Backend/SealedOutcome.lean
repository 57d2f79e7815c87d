/-
# Applying a sealed outcome, and diagnosing one that is refused

The row checks of `apply_sealed_outcome_batch` and
`sealed_outcome_credit_mismatch_receipt`
(`crates/alife_gpu_backend/src/closed_loop_runtime.rs`).  The same contract is
written twice: once as one disjunction per row, once as a chain of early returns
that names the first field that fails.

The two agree (`mismatchReceipt_agrees`): whenever the receptors can be bound to
the packet, a batch of the one row is prepared exactly when the diagnosis finds
nothing, and a field it names does fail (`GpuLearningEvidenceMismatchField.Holds`).

Of a resident there is what the two functions read.  What a joint selection says
about a decision is a parameter, the same one for both.
-/

import ALife.Backend.ClassBuckets
import ALife.Plasticity.OutcomeCredit

namespace ALife

open Machine

namespace SealedOutcome

/-- `GpuLearningEvidenceMismatchField`. -/
inductive GpuLearningEvidenceMismatchField where
  | outcomeTickAfterOriginating | activeActivationSide | dispatchGeneration | phenotypeHashNonZero
  | frameDigestNonZero | candidateFeatureDigestNonZero | predictionResidualRange | painRange
  | homeostaticImprovementRange | frustrationRange | noveltyRange | neuromodulatoryLaneRange
  | pendingEligibilityPresent | pendingEligibilityRecordPresent | organismId | phenotypeHash
  | handleGeneration | pendingPhenotypeHash | dispatchGenerationIdentity | originatingTick
  | frameDigest | activeActivationSideIdentity | candidateIndex | actionId | actionFamily
  | candidateFeatureDigest | jointActionSelection | activeEligibilityGeneration
  | stagingEligibilityGeneration | activeWeightGenerationNonZero | replayJournalGenerationNonZero
  | transactionGenerationNonZero
  deriving DecidableEq, Repr

/-- Four words of a receipt. -/
@[ext] structure ReceiptWords where
  w0 : ℕ
  w1 : ℕ
  w2 : ℕ
  w3 : ℕ
  deriving DecidableEq, Repr

/-- `GpuLearningEvidenceMismatchReceipt`. -/
structure GpuLearningEvidenceMismatchReceipt where
  field : GpuLearningEvidenceMismatchField
  expected : ReceiptWords
  actual : ReceiptWords
  deriving DecidableEq, Repr

namespace GpuLearningEvidenceMismatchReceipt

/-- `scalar`. -/
def scalar (field : GpuLearningEvidenceMismatchField) (expected actual : ℕ) :
    GpuLearningEvidenceMismatchReceipt :=
  ⟨field, ⟨expected, 0, 0, 0⟩, ⟨actual, 0, 0, 0⟩⟩

/-- `words` of two digests. -/
def words (field : GpuLearningEvidenceMismatchField) (expected actual : Digest256) :
    GpuLearningEvidenceMismatchReceipt :=
  ⟨field, ⟨expected.w0.toNat, expected.w1.toNat, expected.w2.toNat, expected.w3.toNat⟩,
    ⟨actual.w0.toNat, actual.w1.toNat, actual.w2.toNat, actual.w3.toNat⟩⟩

/-- `words` of a lane out of range. -/
def lane (field : GpuLearningEvidenceMismatchField) (value : F32) :
    GpuLearningEvidenceMismatchReceipt :=
  ⟨field, ⟨F32.negOne.bits.toNat, F32.one.bits.toNat, 0, 0⟩, ⟨value.bits.toNat, 0, 0, 0⟩⟩

end GpuLearningEvidenceMismatchReceipt

open GpuLearningEvidenceMismatchReceipt

/-- A digest of two words as a receipt shows it. -/
def widen (digest : CandidateFeatureDigest) : Digest256 := ⟨digest.w0, digest.w1, 0, 0⟩

/-! ### What a resident brain holds -/

/-- `JointActionSelectionV1`. -/
structure JointActionSelectionV1 where
  schemaVersion : UInt16
  candidateSlots : List UInt16
  bundleDigest : Digest256
  deriving DecidableEq, Repr

/-- `PendingEligibilityIdentity`. -/
structure PendingEligibilityIdentity where
  jointSelection : Option JointActionSelectionV1
  handleGeneration : ℕ
  phenotypeHash : Digest256
  dispatchGeneration : UInt64
  originatingTick : Tick
  frameDigest : Digest256
  activeActivationSide : UInt8
  candidateIndex : UInt16
  actionId : ActionId
  actionFamily : CandidateActionFamily
  candidateFeatureDigest : CandidateFeatureDigest
  activeEligibilityGeneration : UInt64
  stagingEligibilityGeneration : UInt64
  deriving DecidableEq, Repr

/-- `PendingEligibilityReceipt`. -/
structure PendingEligibilityReceipt where
  identity : PendingEligibilityIdentity
  receiptDigest : Digest256
  deriving DecidableEq, Repr

/-- `ResidentBrainSlot`, its learning side; a pending record is passed on unread. -/
structure LearningResident (Record : Type) where
  slotGeneration : ℕ
  organismId : OrganismId
  phenotypeHash : Digest256
  learningSequenceGuard : LearningSequenceGuard
  pendingEligibility : Option PendingEligibilityReceipt
  pendingEligibilityRecord : Option Record
  activeWeightGeneration : UInt64
  activeEligibilityGeneration : UInt64
  replayJournalGeneration : UInt64
  transactionGeneration : UInt64
  deriving DecidableEq, Repr

/-- The slots of a `ClassBucketRuntime`. -/
abbrev LearningBucket (Record : Type) := List (Option (LearningResident Record))

/-- `contains`. -/
def LearningBucket.contains {Record : Type} (bucket : LearningBucket Record)
    (handle : GpuBrainHandle) : Bool :=
  (bucket[handle.slot]?).join.any fun resident =>
    resident.slotGeneration = handle.generation && resident.organismId = handle.organismId
      && resident.phenotypeHash = handle.phenotypeHash

/-- `ClassBucketPool`. -/
abbrev LearningPool (Record : Type) := List (LearningBucket Record)

namespace LearningPool

variable {Record : Type}

/-- `bucket_index_for_handle`. -/
def bucketIndexForHandle (pool : LearningPool Record) (handle : GpuBrainHandle) : Option ℕ :=
  pool.findIdx? fun bucket => LearningBucket.contains bucket handle

/-- `bucket_for_handle`. -/
def bucketForHandle (pool : LearningPool Record) (handle : GpuBrainHandle) :
    Contract (LearningBucket Record) :=
  getOr ((bucketIndexForHandle pool handle).bind fun index => pool[index]?) .brainOwnershipMismatch

/-- `resident`. -/
def resident (pool : LearningPool Record) (handle : GpuBrainHandle) :
    Contract (LearningResident Record) := do
  let bucket ← bucketForHandle pool handle
  getOr (bucket[handle.slot]?).join .brainOwnershipMismatch

end LearningPool

/-- `GpuClosedLoopBackend`, as far as learning reads it. -/
structure LearningBackend (Record : Type) where
  backendInstanceId : ℕ
  classBuckets : OrderedMap ℕ (LearningPool Record)

/-- `validate_handle_backend`. -/
def LearningBackend.validateHandleBackend {Record : Type} (backend : LearningBackend Record)
    (handle : GpuBrainHandle) : Contract Unit :=
  reject (handle.backendInstanceId ≠ backend.backendInstanceId) .brainOwnershipMismatch

/-- `PreparedLearningApply`. -/
structure PreparedLearningApply (Record : Type) where
  chunkIndex : ℕ
  handle : GpuBrainHandle
  packet : OutcomeCreditPacket
  outcome : GpuOutcomeCreditRecord
  pendingReceipt : PendingEligibilityReceipt
  pendingRecord : Record
  activeWeightGeneration : UInt64
  activeEligibilityGeneration : UInt64
  replayJournalGeneration : UInt64
  transactionGeneration : UInt64
  expectedLastCommitted : Option OutcomeCreditReplayKey
  commitToken : LearningCommitToken

section Functions

variable {Bundle Record : Type}
  (validateDecision : JointActionSelectionV1 → DecisionSnapshot Bundle → Contract Unit)

/-! ### The enforcement -/

/-- `GPU_JOINT_SELECTION_V1_MARKER`. -/
def gpuJointSelectionV1Marker : UInt32 := 0x4A310000

/-- `pack_joint_motor_candidates`. -/
def packJointMotorCandidates (candidates : List UInt16) : WordPair :=
  candidates.zipIdx.foldl (fun words (encoded, slot) =>
    let bits := encoded.toUInt32 <<< (slot % 4 * 8).toUInt32
    if slot / 4 = 0 then { words with lo := words.lo ||| bits }
    else { words with hi := words.hi ||| bits }) ⟨0, gpuJointSelectionV1Marker⟩

/-- The row of a joint selection, which has to fit the decision. -/
def bindJoint (decision : DecisionSnapshot Bundle) (outcome : GpuOutcomeCreditRecord) :
    Option JointActionSelectionV1 → Contract GpuOutcomeCreditRecord
  | none => .ok outcome
  | some joint => do
    validateDecision joint decision
    .ok { outcome with reserved := packJointMotorCandidates joint.candidateSlots }

/-- A row of the loop in `apply_sealed_outcome_batch_inner`, after the checks of its handle.  The
checked sum stands in the middle of the disjunction: it is not reached when something in front of
it is wrong. -/
def prepareRow (products : BiochemicalLanes) (backend : LearningBackend Record)
    (handle : GpuBrainHandle) (patch : ExperiencePatch Bundle) (receptors : NeuralReceptorFrame) :
    Contract (PreparedLearningApply Record) := do
  let packet ← OutcomeCreditPacket.fromSealedPatch patch
  let packet ← packet.withBiochemicalReceptors products receptors
  let outcome ← GpuOutcomeCreditRecord.tryFrom packet
  let pool ← getOr (backend.classBuckets.get? handle.classId) .brainOwnershipMismatch
  let chunkIndex ← getOr (LearningPool.bucketIndexForHandle pool handle) .brainOwnershipMismatch
  let resident ← LearningPool.resident pool handle
  let commitToken ← resident.learningSequenceGuard.validateNext packet.replayKey
  let pendingReceipt ← getOr resident.pendingEligibility .learningEvidenceMismatch
  let pendingRecord ← getOr resident.pendingEligibilityRecord .learningEvidenceMismatch
  let identity := pendingReceipt.identity
  let outcome ← bindJoint validateDecision patch.decision outcome identity.jointSelection
  reject (packet.organismId ≠ handle.organismId ∨ packet.phenotypeHash ≠ handle.phenotypeHash
      ∨ identity.handleGeneration ≠ handle.generation
      ∨ identity.phenotypeHash ≠ packet.phenotypeHash
      ∨ identity.dispatchGeneration ≠ packet.dispatchGeneration
      ∨ identity.originatingTick ≠ packet.originatingTick
      ∨ identity.frameDigest ≠ packet.frameDigest
      ∨ identity.activeActivationSide ≠ packet.activeActivationSide
      ∨ identity.candidateIndex ≠ packet.selectedCandidate
      ∨ identity.actionId ≠ packet.selectedAction
      ∨ identity.actionFamily ≠ packet.selectedFamily
      ∨ identity.candidateFeatureDigest ≠ packet.candidateFeatureDigest
      ∨ identity.activeEligibilityGeneration ≠ resident.activeEligibilityGeneration)
    .learningEvidenceMismatch
  let staging ← getOr (checkedAdd 64 resident.activeEligibilityGeneration.toNat 1)
    .learningEvidenceMismatch
  reject (identity.stagingEligibilityGeneration.toNat ≠ staging
      ∨ resident.activeWeightGeneration = 0 ∨ resident.replayJournalGeneration = 0
      ∨ resident.transactionGeneration = 0)
    .learningEvidenceMismatch
  .ok
    { chunkIndex := chunkIndex
      handle := handle
      packet := packet
      outcome := outcome
      pendingReceipt := pendingReceipt
      pendingRecord := pendingRecord
      activeWeightGeneration := resident.activeWeightGeneration
      activeEligibilityGeneration := resident.activeEligibilityGeneration
      replayJournalGeneration := resident.replayJournalGeneration
      transactionGeneration := resident.transactionGeneration
      expectedLastCommitted := resident.learningSequenceGuard.lastCommitted
      commitToken := commitToken }

/-- A row of a batch. -/
structure BatchRow (Bundle : Type) where
  handle : GpuBrainHandle
  patch : ExperiencePatch Bundle
  receptors : NeuralReceptorFrame

/-- The loop in `apply_sealed_outcome_batch_inner`: the brains seen and the rows prepared. -/
def prepareStep (products : BiochemicalLanes) (backend : LearningBackend Record) (classId : ℕ)
    (s : List (ℕ × ℕ × OrganismId) × List (PreparedLearningApply Record)) (row : BatchRow Bundle) :
    Contract (List (ℕ × ℕ × OrganismId) × List (PreparedLearningApply Record)) := do
  backend.validateHandleBackend row.handle
  let brain := (row.handle.slot, row.handle.generation, row.handle.organismId)
  reject (row.handle.classId ≠ classId ∨ brain ∈ s.1) .learningEvidenceMismatch
  let prepared ← prepareRow validateDecision products backend row.handle row.patch row.receptors
  .ok (brain :: s.1, s.2 ++ [prepared])

/-- `apply_sealed_outcome_batch_inner`, up to the rows it is going to submit. -/
def prepareBatch (products : BiochemicalLanes) (backend : LearningBackend Record)
    (batch : List (BatchRow Bundle)) : Contract (List (PreparedLearningApply Record)) := do
  let first ← getOr batch.head? .learningEvidenceMismatch
  let s ← batch.foldlM (prepareStep validateDecision products backend first.handle.classId) ([], [])
  .ok s.2

/-! ### The diagnosis -/

/-- A condition that makes the diagnosis return early, and what it returns. -/
structure EvidenceCheck where
  bad : Bool
  receipt : GpuLearningEvidenceMismatchReceipt

/-- `if bad { return Ok(Some(receipt)) }`, check after check. -/
def reportFirst (checks : List EvidenceCheck)
    (rest : Contract (Option GpuLearningEvidenceMismatchReceipt)) :
    Contract (Option GpuLearningEvidenceMismatchReceipt) :=
  match checks.find? (·.bad) with
  | some check => .ok (some check.receipt)
  | none => rest

/-- The checks of a packet on its own. -/
def packetChecks (packet : OutcomeCreditPacket) : List EvidenceCheck :=
  [⟨packet.outcomeTick.raw ≤ packet.originatingTick.raw,
      scalar .outcomeTickAfterOriginating
        (min (packet.originatingTick.raw.toNat + 1) (2 ^ 64 - 1)) packet.outcomeTick.raw.toNat⟩,
    ⟨1 < packet.activeActivationSide,
      scalar .activeActivationSide 1 packet.activeActivationSide.toNat⟩,
    ⟨packet.dispatchGeneration = 0, scalar .dispatchGeneration 1 0⟩,
    ⟨packet.phenotypeHash = .zero,
      words .phenotypeHashNonZero ⟨1, 0, 0, 0⟩ packet.phenotypeHash⟩,
    ⟨packet.frameDigest = .zero, words .frameDigestNonZero ⟨1, 0, 0, 0⟩ packet.frameDigest⟩,
    ⟨packet.candidateFeatureDigest = ⟨0, 0⟩,
      words .candidateFeatureDigestNonZero ⟨1, 0, 0, 0⟩ (widen packet.candidateFeatureDigest)⟩]
  ++ [(.predictionResidualRange, packet.modulator.predictionResidual),
      (.painRange, packet.modulator.pain),
      (.homeostaticImprovementRange, packet.modulator.homeostaticImprovement),
      (.frustrationRange, packet.modulator.frustration),
      (.noveltyRange, packet.modulator.novelty),
      (.neuromodulatoryLaneRange, packet.modulator.frame.lanes.lane5),
      (.neuromodulatoryLaneRange, packet.modulator.frame.lanes.lane6),
      (.neuromodulatoryLaneRange, packet.modulator.frame.lanes.lane7)].map
    fun (field, value) => ⟨!F32.inRange .negOne .one value, lane field value⟩

/-- The checks of a packet against the handle. -/
def ownerChecks (handle : GpuBrainHandle) (packet : OutcomeCreditPacket) : List EvidenceCheck :=
  [⟨packet.organismId ≠ handle.organismId,
      scalar .organismId handle.organismId.raw.toNat packet.organismId.raw.toNat⟩,
    ⟨packet.phenotypeHash ≠ handle.phenotypeHash,
      words .phenotypeHash handle.phenotypeHash packet.phenotypeHash⟩]

/-- The checks of a packet against the pending eligibility. -/
def identityChecks (handle : GpuBrainHandle) (packet : OutcomeCreditPacket)
    (decision : DecisionSnapshot Bundle) (resident : LearningResident Record)
    (identity : PendingEligibilityIdentity) : List EvidenceCheck :=
  [⟨identity.jointSelection.any fun joint => !(validateDecision joint decision).isOk,
      scalar .jointActionSelection 1 0⟩,
    ⟨identity.handleGeneration ≠ handle.generation,
      scalar .handleGeneration handle.generation identity.handleGeneration⟩,
    ⟨identity.phenotypeHash ≠ packet.phenotypeHash,
      words .pendingPhenotypeHash identity.phenotypeHash packet.phenotypeHash⟩,
    ⟨identity.dispatchGeneration ≠ packet.dispatchGeneration,
      scalar .dispatchGenerationIdentity identity.dispatchGeneration.toNat
        packet.dispatchGeneration.toNat⟩,
    ⟨identity.originatingTick ≠ packet.originatingTick,
      scalar .originatingTick identity.originatingTick.raw.toNat
        packet.originatingTick.raw.toNat⟩,
    ⟨identity.frameDigest ≠ packet.frameDigest,
      words .frameDigest identity.frameDigest packet.frameDigest⟩,
    ⟨identity.activeActivationSide ≠ packet.activeActivationSide,
      scalar .activeActivationSideIdentity identity.activeActivationSide.toNat
        packet.activeActivationSide.toNat⟩,
    ⟨identity.candidateIndex ≠ packet.selectedCandidate,
      scalar .candidateIndex identity.candidateIndex.toNat packet.selectedCandidate.toNat⟩,
    ⟨identity.actionId ≠ packet.selectedAction,
      scalar .actionId identity.actionId.raw.toNat packet.selectedAction.raw.toNat⟩,
    ⟨identity.actionFamily ≠ packet.selectedFamily,
      scalar .actionFamily identity.actionFamily.raw.toNat packet.selectedFamily.raw.toNat⟩,
    ⟨identity.candidateFeatureDigest ≠ packet.candidateFeatureDigest,
      words .candidateFeatureDigest (widen identity.candidateFeatureDigest)
        (widen packet.candidateFeatureDigest)⟩,
    ⟨identity.activeEligibilityGeneration ≠ resident.activeEligibilityGeneration,
      scalar .activeEligibilityGeneration resident.activeEligibilityGeneration.toNat
        identity.activeEligibilityGeneration.toNat⟩]

/-- The checks of the generations. -/
def generationChecks (resident : LearningResident Record) (identity : PendingEligibilityIdentity)
    (staging : ℕ) : List EvidenceCheck :=
  [⟨identity.stagingEligibilityGeneration.toNat ≠ staging,
      scalar .stagingEligibilityGeneration staging identity.stagingEligibilityGeneration.toNat⟩,
    ⟨resident.activeWeightGeneration = 0, scalar .activeWeightGenerationNonZero 1 0⟩,
    ⟨resident.replayJournalGeneration = 0, scalar .replayJournalGenerationNonZero 1 0⟩,
    ⟨resident.transactionGeneration = 0, scalar .transactionGenerationNonZero 1 0⟩]

/-- `sealed_outcome_credit_mismatch_receipt`. -/
def mismatchReceipt (backend : LearningBackend Record) (handle : GpuBrainHandle)
    (patch : ExperiencePatch Bundle) : Contract (Option GpuLearningEvidenceMismatchReceipt) := do
  backend.validateHandleBackend handle
  let packet ← OutcomeCreditPacket.fromSealedPatch patch
  reportFirst (packetChecks packet) do
  let _ ← GpuOutcomeCreditRecord.tryFrom packet
  let pool ← getOr (backend.classBuckets.get? handle.classId) .brainOwnershipMismatch
  let resident ← LearningPool.resident pool handle
  reportFirst (ownerChecks handle packet) do
  let _ ← resident.learningSequenceGuard.validateNext packet.replayKey
  reportFirst
    [⟨resident.pendingEligibility.isNone, scalar .pendingEligibilityPresent 1 0⟩,
      ⟨resident.pendingEligibilityRecord.isNone, scalar .pendingEligibilityRecordPresent 1 0⟩] do
  let pendingReceipt ← getOr resident.pendingEligibility .learningEvidenceMismatch
  let identity := pendingReceipt.identity
  reportFirst (identityChecks validateDecision handle packet patch.decision resident identity) do
  let staging ← getOr (checkedAdd 64 resident.activeEligibilityGeneration.toNat 1)
    .learningEvidenceMismatch
  reportFirst (generationChecks resident identity staging) (.ok none)

end Functions

/-! ### The contract both are about -/

/-- The resident that a handle leads to. -/
def LearningBackend.resident? {Record : Type} (backend : LearningBackend Record)
    (handle : GpuBrainHandle) : Option (LearningResident Record) :=
  (backend.classBuckets.get? handle.classId).bind fun pool =>
    (LearningPool.resident pool handle).toOption

section Contract

variable {Bundle Record : Type}
  (validateDecision : JointActionSelectionV1 → DecisionSnapshot Bundle → Contract Unit)

/-- What a pending eligibility has to say about the packet. -/
structure IdentityMatches (handle : GpuBrainHandle) (packet : OutcomeCreditPacket)
    (decision : DecisionSnapshot Bundle) (resident : LearningResident Record)
    (identity : PendingEligibilityIdentity) : Prop where
  joint : ∀ joint ∈ identity.jointSelection, validateDecision joint decision = .ok ()
  generation : identity.handleGeneration = handle.generation
  phenotype : identity.phenotypeHash = packet.phenotypeHash
  dispatch : identity.dispatchGeneration = packet.dispatchGeneration
  tick : identity.originatingTick = packet.originatingTick
  frame : identity.frameDigest = packet.frameDigest
  side : identity.activeActivationSide = packet.activeActivationSide
  candidate : identity.candidateIndex = packet.selectedCandidate
  action : identity.actionId = packet.selectedAction
  family : identity.actionFamily = packet.selectedFamily
  features : identity.candidateFeatureDigest = packet.candidateFeatureDigest
  eligibility : identity.activeEligibilityGeneration = resident.activeEligibilityGeneration

/-- What the generations of a resident have to be. -/
structure GenerationsMatch (resident : LearningResident Record)
    (identity : PendingEligibilityIdentity) : Prop where
  room : resident.activeEligibilityGeneration.toNat + 1 < 2 ^ 64
  staging : identity.stagingEligibilityGeneration.toNat
    = resident.activeEligibilityGeneration.toNat + 1
  weight : resident.activeWeightGeneration ≠ 0
  journal : resident.replayJournalGeneration ≠ 0
  transaction : resident.transactionGeneration ≠ 0

/-- The contract of a row. -/
structure RowContract (handle : GpuBrainHandle) (packet : OutcomeCreditPacket)
    (decision : DecisionSnapshot Bundle) (resident : LearningResident Record)
    (pending : PendingEligibilityReceipt) : Prop where
  uploadable : packet.Uploadable
  organism : packet.organismId = handle.organismId
  phenotype : packet.phenotypeHash = handle.phenotypeHash
  next : ∃ token, resident.learningSequenceGuard.validateNext packet.replayKey = .ok token
  present : resident.pendingEligibility = some pending
  record : ∃ record, resident.pendingEligibilityRecord = some record
  identity : IdentityMatches validateDecision handle packet decision resident pending.identity
  generations : GenerationsMatch resident pending.identity

variable {validateDecision} {products : BiochemicalLanes} {backend : LearningBackend Record}
  {handle : GpuBrainHandle} {patch : ExperiencePatch Bundle} {receptors : NeuralReceptorFrame}
  {packet packet' : OutcomeCreditPacket} {resident : LearningResident Record}
  {pending : PendingEligibilityReceipt}

theorem resident?_eq_some_iff : backend.resident? handle = some resident ↔
    ∃ pool, backend.classBuckets.get? handle.classId = some pool
      ∧ LearningPool.resident pool handle = .ok resident := by
  rw [LearningBackend.resident?, Option.bind_eq_some_iff]
  refine exists_congr fun pool => and_congr_right fun _ => ?_
  cases LearningPool.resident pool handle with
  | ok r => simp [Except.toOption]
  | error e => simp [Except.toOption]

/-- The resident of a pool sits in the chunk that the index names. -/
theorem exists_bucketIndex {pool : LearningPool Record}
    (h : LearningPool.resident pool handle = .ok resident) :
    ∃ index, LearningPool.bucketIndexForHandle pool handle = some index := by
  unfold LearningPool.resident LearningPool.bucketForHandle at h
  obtain ⟨bucket, hbucket, _⟩ := except_bind_eq_ok_iff.1 h
  obtain ⟨index, hindex, _⟩ := Option.bind_eq_some_iff.1 (getOr_eq_ok_iff.1 hbucket)
  exact ⟨index, hindex⟩

theorem exists_bindJoint_eq_ok_iff {decision : DecisionSnapshot Bundle}
    {outcome : GpuOutcomeCreditRecord} {joint? : Option JointActionSelectionV1} :
    (∃ outcome', bindJoint validateDecision decision outcome joint? = .ok outcome')
      ↔ ∀ joint ∈ joint?, validateDecision joint decision = .ok () := by
  cases joint? with
  | none => exact iff_of_true ⟨outcome, rfl⟩ fun joint h => nomatch h
  | some joint =>
    simp only [bindJoint, except_seq_eq_ok_iff, Option.mem_some_iff, forall_eq']
    exact ⟨fun ⟨_, h, _⟩ => h, fun h => ⟨_, h, rfl⟩⟩

/-- **When a row is prepared.** -/
theorem exists_prepareRow_eq_ok_iff (hpacket : OutcomeCreditPacket.fromSealedPatch patch = .ok packet)
    (hreceptors : packet.withBiochemicalReceptors products receptors = .ok packet') :
    (∃ prepared, prepareRow validateDecision products backend handle patch receptors = .ok prepared)
      ↔ ∃ resident pending, backend.resident? handle = some resident
        ∧ RowContract validateDecision handle packet patch.decision resident pending := by
  obtain ⟨modulator, rfl⟩ := OutcomeCreditPacket.withBiochemicalReceptors_ok hreceptors
  constructor
  · rintro ⟨prepared, h⟩
    unfold prepareRow at h
    obtain ⟨_, hpacket', h⟩ := except_bind_eq_ok_iff.1 h
    obtain rfl := Except.ok.inj (hpacket.symm.trans hpacket')
    obtain ⟨_, hreceptors', h⟩ := except_bind_eq_ok_iff.1 h
    obtain rfl := Except.ok.inj (hreceptors.symm.trans hreceptors')
    obtain ⟨outcome, houtcome, h⟩ := except_bind_eq_ok_iff.1 h
    obtain ⟨pool, hpool, h⟩ := except_bind_eq_ok_iff.1 h
    obtain ⟨index, _, h⟩ := except_bind_eq_ok_iff.1 h
    obtain ⟨resident, hresident, h⟩ := except_bind_eq_ok_iff.1 h
    obtain ⟨token, htoken, h⟩ := except_bind_eq_ok_iff.1 h
    obtain ⟨pending, hpending, h⟩ := except_bind_eq_ok_iff.1 h
    obtain ⟨record, hrecord, h⟩ := except_bind_eq_ok_iff.1 h
    obtain ⟨outcome', houtcome', h⟩ := except_bind_eq_ok_iff.1 h
    obtain ⟨hidentity, h⟩ := except_seq_eq_ok_iff.1 h
    obtain ⟨staging, hstaging, h⟩ := except_bind_eq_ok_iff.1 h
    obtain ⟨hgenerations, _⟩ := except_seq_eq_ok_iff.1 h
    rw [getOr_eq_ok_iff] at hpool hpending hrecord hstaging
    rw [reject_eq_ok_iff] at hidentity hgenerations
    simp only [not_or, not_not] at hidentity hgenerations
    obtain ⟨rfl, hroom⟩ := checkedAdd_eq_some_iff.1 hstaging
    obtain ⟨horganism, hphenotype, hgeneration, hhash, hdispatch, htick, hframe, hside, hcandidate,
      haction, hfamily, hfeatures, heligibility⟩ := hidentity
    obtain ⟨hstaged, hweight, hjournal, htransaction⟩ := hgenerations
    refine ⟨resident, pending, resident?_eq_some_iff.2 ⟨pool, hpool, hresident⟩, ?_⟩
    exact
      { uploadable := OutcomeCreditPacket.uploadable_modulator_iff.1
          (GpuOutcomeCreditRecord.exists_tryFrom_eq_ok_iff.1 ⟨outcome, houtcome⟩)
        organism := horganism
        phenotype := hphenotype
        next := ⟨token, htoken⟩
        present := hpending
        record := ⟨record, hrecord⟩
        identity := ⟨exists_bindJoint_eq_ok_iff.1 ⟨outcome', houtcome'⟩, hgeneration, hhash,
          hdispatch, htick, hframe, hside, hcandidate, haction, hfamily, hfeatures, heligibility⟩
        generations := ⟨hroom, hstaged, hweight, hjournal, htransaction⟩ }
  · rintro ⟨resident, pending, hresident, hrow⟩
    obtain ⟨pool, hpool, hresident⟩ := resident?_eq_some_iff.1 hresident
    obtain ⟨index, hindex⟩ := exists_bucketIndex hresident
    obtain ⟨outcome, houtcome⟩ := GpuOutcomeCreditRecord.exists_tryFrom_eq_ok_iff.2
      (OutcomeCreditPacket.uploadable_modulator_iff.2 hrow.uploadable)
    obtain ⟨token, htoken⟩ := hrow.next
    obtain ⟨record, hrecord⟩ := hrow.record
    obtain ⟨outcome', houtcome'⟩ := exists_bindJoint_eq_ok_iff.2 hrow.identity.joint
    unfold prepareRow
    refine ⟨_, except_bind_eq_ok_iff.2 ⟨_, hpacket, except_bind_eq_ok_iff.2 ⟨_, hreceptors,
      except_bind_eq_ok_iff.2 ⟨outcome, houtcome, except_bind_eq_ok_iff.2 ⟨pool,
      getOr_eq_ok_iff.2 hpool, except_bind_eq_ok_iff.2 ⟨index, getOr_eq_ok_iff.2 hindex,
      except_bind_eq_ok_iff.2 ⟨resident, hresident, except_bind_eq_ok_iff.2 ⟨token, htoken,
      except_bind_eq_ok_iff.2 ⟨pending, getOr_eq_ok_iff.2 hrow.present, except_bind_eq_ok_iff.2
      ⟨record, getOr_eq_ok_iff.2 hrecord, except_bind_eq_ok_iff.2 ⟨outcome', houtcome',
      except_seq_eq_ok_iff.2 ⟨?_, except_bind_eq_ok_iff.2 ⟨_, getOr_eq_ok_iff.2
        (checkedAdd_of_lt hrow.generations.room), except_seq_eq_ok_iff.2 ⟨?_, rfl⟩⟩⟩⟩⟩⟩⟩⟩⟩⟩⟩⟩⟩⟩
    · rw [reject_eq_ok_iff]
      simp only [not_or, not_not]
      exact ⟨hrow.organism, hrow.phenotype, hrow.identity.generation, hrow.identity.phenotype,
        hrow.identity.dispatch, hrow.identity.tick, hrow.identity.frame, hrow.identity.side,
        hrow.identity.candidate, hrow.identity.action, hrow.identity.family,
        hrow.identity.features, hrow.identity.eligibility⟩
    · rw [reject_eq_ok_iff]
      simp only [not_or, not_not]
      exact ⟨hrow.generations.staging, hrow.generations.weight, hrow.generations.journal,
        hrow.generations.transaction⟩

/-- A batch of one row passes when its handle belongs to the backend and the row does. -/
theorem exists_prepareBatch_singleton_iff {row : BatchRow Bundle} :
    (∃ prepared, prepareBatch validateDecision products backend [row] = .ok prepared)
      ↔ backend.validateHandleBackend row.handle = .ok ()
        ∧ ∃ prepared, prepareRow validateDecision products backend row.handle row.patch row.receptors
          = .ok prepared := by
  unfold prepareBatch
  constructor
  · rintro ⟨prepared, h⟩
    obtain ⟨first, hfirst, h⟩ := except_bind_eq_ok_iff.1 h
    obtain ⟨s, hs, _⟩ := except_bind_eq_ok_iff.1 h
    rw [List.foldlM_cons] at hs
    obtain ⟨s', hstep, _⟩ := except_bind_eq_ok_iff.1 hs
    unfold prepareStep at hstep
    obtain ⟨hhandle, hstep⟩ := except_seq_eq_ok_iff.1 hstep
    obtain ⟨_, hstep⟩ := except_seq_eq_ok_iff.1 hstep
    obtain ⟨prepared, hprepared, _⟩ := except_bind_eq_ok_iff.1 hstep
    exact ⟨hhandle, prepared, hprepared⟩
  · rintro ⟨hhandle, prepared, hprepared⟩
    let brain := (row.handle.slot, row.handle.generation, row.handle.organismId)
    have hstep : prepareStep validateDecision products backend row.handle.classId ([], []) row
        = .ok ([brain], [prepared]) := by
      refine except_seq_eq_ok_iff.2 ⟨hhandle, except_seq_eq_ok_iff.2
        ⟨reject_eq_ok_iff.2 ?_, except_bind_eq_ok_iff.2 ⟨prepared, hprepared, rfl⟩⟩⟩
      exact not_or.2 ⟨not_not.2 rfl, List.not_mem_nil⟩
    refine ⟨[prepared], except_bind_eq_ok_iff.2 ⟨row, rfl, except_bind_eq_ok_iff.2
      ⟨([brain], [prepared]), ?_, rfl⟩⟩⟩
    rw [List.foldlM_cons]
    exact except_bind_eq_ok_iff.2 ⟨_, hstep, rfl⟩

/-! ### The diagnosis finds what is wrong -/

theorem reportFirst_eq_none_iff {checks : List EvidenceCheck}
    {rest : Contract (Option GpuLearningEvidenceMismatchReceipt)} :
    reportFirst checks rest = .ok none ↔ (∀ check ∈ checks, check.bad = false) ∧ rest = .ok none := by
  unfold reportFirst
  cases h : checks.find? (·.bad) with
  | none =>
    have hall : ∀ check ∈ checks, check.bad = false := fun check hcheck =>
      Bool.eq_false_iff.2 (List.find?_eq_none.1 h check hcheck)
    exact (and_iff_right hall).symm
  | some check =>
    refine iff_of_false (by simp) fun hall => ?_
    exact Bool.eq_false_iff.1 (hall.1 check (List.mem_of_find?_eq_some h)) (List.find?_some h)

theorem of_reportFirst_eq_some {checks : List EvidenceCheck}
    {rest : Contract (Option GpuLearningEvidenceMismatchReceipt)}
    {receipt : GpuLearningEvidenceMismatchReceipt} (h : reportFirst checks rest = .ok (some receipt)) :
    (∃ check ∈ checks, check.bad = true ∧ check.receipt = receipt) ∨ rest = .ok (some receipt) := by
  unfold reportFirst at h
  cases hfind : checks.find? (·.bad) with
  | none =>
    rw [hfind] at h
    exact .inr h
  | some check =>
    rw [hfind] at h
    exact .inl ⟨check, List.mem_of_find?_eq_some hfind, List.find?_some hfind,
      Option.some.inj (Except.ok.inj h)⟩

theorem packetChecks_of_uploadable (h : packet.Uploadable) :
    ∀ check ∈ packetChecks packet, check.bad = false := by
  have hrange := packet.modulator.frame.inRange
  obtain ⟨h₀, h₁, h₂, h₃, h₄⟩ := packet.modulator.projects
  simp only [NeuromodulatoryLanes.toList, List.all_cons, List.all_nil, Bool.and_eq_true] at hrange
  rw [← h₀, ← h₁, ← h₂, ← h₃, ← h₄] at hrange
  simp only [packetChecks, List.map_cons, List.map_nil, List.cons_append, List.nil_append,
    List.forall_mem_cons, decide_eq_false_iff_not, Bool.not_eq_false']
  exact ⟨h.ticks, h.side, h.dispatch, h.phenotype, h.frame, h.features, hrange.1, hrange.2.1,
    hrange.2.2.1, hrange.2.2.2.1, hrange.2.2.2.2.1, hrange.2.2.2.2.2.1, hrange.2.2.2.2.2.2.1,
    hrange.2.2.2.2.2.2.2.1, fun _ h => absurd h List.not_mem_nil⟩

theorem ownerChecks_iff : (∀ check ∈ ownerChecks handle packet, check.bad = false) ↔
    packet.organismId = handle.organismId ∧ packet.phenotypeHash = handle.phenotypeHash := by
  simp only [ownerChecks, List.forall_mem_cons, decide_eq_false_iff_not, not_not]
  exact ⟨fun h => ⟨h.1, h.2.1⟩, fun h => ⟨h.1, h.2, fun _ h => absurd h List.not_mem_nil⟩⟩

theorem isOk_iff {x : Contract Unit} : x.isOk = true ↔ x = .ok () := by
  cases x <;> simp [Except.isOk, Except.toBool]

theorem identityChecks_iff {decision : DecisionSnapshot Bundle}
    {identity : PendingEligibilityIdentity} :
    (∀ check ∈ identityChecks validateDecision handle packet decision resident identity,
      check.bad = false) ↔
      IdentityMatches validateDecision handle packet decision resident identity := by
  have hjoint : (identity.jointSelection.any fun joint =>
      !(validateDecision joint decision).isOk) = false ↔
        ∀ joint ∈ identity.jointSelection, validateDecision joint decision = .ok () := by
    cases identity.jointSelection with
    | none => simp
    | some joint => simp [isOk_iff]
  simp only [identityChecks, List.forall_mem_cons, decide_eq_false_iff_not, not_not, hjoint]
  constructor
  · rintro ⟨h₁, h₂, h₃, h₄, h₅, h₆, h₇, h₈, h₉, h₁₀, h₁₁, h₁₂, -⟩
    exact ⟨h₁, h₂, h₃, h₄, h₅, h₆, h₇, h₈, h₉, h₁₀, h₁₁, h₁₂⟩
  · rintro ⟨h₁, h₂, h₃, h₄, h₅, h₆, h₇, h₈, h₉, h₁₀, h₁₁, h₁₂⟩
    exact ⟨h₁, h₂, h₃, h₄, h₅, h₆, h₇, h₈, h₉, h₁₀, h₁₁, h₁₂, fun _ h => absurd h List.not_mem_nil⟩

theorem generationChecks_iff {identity : PendingEligibilityIdentity} {staging : ℕ} :
    (∀ check ∈ generationChecks resident identity staging, check.bad = false) ↔
      identity.stagingEligibilityGeneration.toNat = staging ∧ resident.activeWeightGeneration ≠ 0
        ∧ resident.replayJournalGeneration ≠ 0 ∧ resident.transactionGeneration ≠ 0 := by
  simp only [generationChecks, List.forall_mem_cons, decide_eq_false_iff_not, not_not]
  constructor
  · rintro ⟨h₁, h₂, h₃, h₄, -⟩
    exact ⟨h₁, h₂, h₃, h₄⟩
  · rintro ⟨h₁, h₂, h₃, h₄⟩
    exact ⟨h₁, h₂, h₃, h₄, fun _ h => absurd h List.not_mem_nil⟩

/-- **When the diagnosis finds nothing.** -/
theorem mismatchReceipt_eq_none_iff
    (hpacket : OutcomeCreditPacket.fromSealedPatch patch = .ok packet) :
    mismatchReceipt validateDecision backend handle patch = .ok none ↔
      backend.validateHandleBackend handle = .ok ()
        ∧ ∃ resident pending, backend.resident? handle = some resident
          ∧ RowContract validateDecision handle packet patch.decision resident pending := by
  unfold mismatchReceipt
  constructor
  · intro h
    obtain ⟨hhandle, h⟩ := except_seq_eq_ok_iff.1 h
    obtain ⟨_, hpacket', h⟩ := except_bind_eq_ok_iff.1 h
    obtain rfl := Except.ok.inj (hpacket.symm.trans hpacket')
    obtain ⟨_, h⟩ := reportFirst_eq_none_iff.1 h
    obtain ⟨outcome, houtcome, h⟩ := except_bind_eq_ok_iff.1 h
    obtain ⟨pool, hpool, h⟩ := except_bind_eq_ok_iff.1 h
    obtain ⟨resident, hresident, h⟩ := except_bind_eq_ok_iff.1 h
    obtain ⟨howner, h⟩ := reportFirst_eq_none_iff.1 h
    obtain ⟨token, htoken, h⟩ := except_bind_eq_ok_iff.1 h
    obtain ⟨hpresent, h⟩ := reportFirst_eq_none_iff.1 h
    obtain ⟨pending, hpending, h⟩ := except_bind_eq_ok_iff.1 h
    obtain ⟨hidentity, h⟩ := reportFirst_eq_none_iff.1 h
    obtain ⟨staging, hstaging, h⟩ := except_bind_eq_ok_iff.1 h
    obtain ⟨hgenerations, _⟩ := reportFirst_eq_none_iff.1 h
    rw [getOr_eq_ok_iff] at hpool hpending hstaging
    obtain ⟨rfl, hroom⟩ := checkedAdd_eq_some_iff.1 hstaging
    obtain ⟨horganism, hphenotype⟩ := ownerChecks_iff.1 howner
    obtain ⟨hstaged, hweight, hjournal, htransaction⟩ := generationChecks_iff.1 hgenerations
    have hrecord : resident.pendingEligibilityRecord.isNone = false :=
      hpresent _ (List.mem_cons_of_mem _ (List.mem_singleton_self _))
    refine ⟨hhandle, resident, pending, resident?_eq_some_iff.2 ⟨pool, hpool, hresident⟩, ?_⟩
    exact
      { uploadable := GpuOutcomeCreditRecord.exists_tryFrom_eq_ok_iff.1 ⟨outcome, houtcome⟩
        organism := horganism
        phenotype := hphenotype
        next := ⟨token, htoken⟩
        present := hpending
        record := Option.isSome_iff_exists.1 (Option.isNone_eq_false_iff.1 hrecord)
        identity := identityChecks_iff.1 hidentity
        generations := ⟨hroom, hstaged, hweight, hjournal, htransaction⟩ }
  · rintro ⟨hhandle, resident, pending, hresident, hrow⟩
    obtain ⟨pool, hpool, hresident⟩ := resident?_eq_some_iff.1 hresident
    obtain ⟨outcome, houtcome⟩ :=
      GpuOutcomeCreditRecord.exists_tryFrom_eq_ok_iff.2 hrow.uploadable
    obtain ⟨token, htoken⟩ := hrow.next
    obtain ⟨record, hrecord⟩ := hrow.record
    refine except_seq_eq_ok_iff.2 ⟨hhandle, except_bind_eq_ok_iff.2 ⟨packet, hpacket,
      reportFirst_eq_none_iff.2 ⟨packetChecks_of_uploadable hrow.uploadable,
      except_bind_eq_ok_iff.2 ⟨outcome, houtcome, except_bind_eq_ok_iff.2 ⟨pool,
      getOr_eq_ok_iff.2 hpool, except_bind_eq_ok_iff.2 ⟨resident, hresident,
      reportFirst_eq_none_iff.2 ⟨ownerChecks_iff.2 ⟨hrow.organism, hrow.phenotype⟩,
      except_bind_eq_ok_iff.2 ⟨token, htoken, reportFirst_eq_none_iff.2 ⟨?_,
      except_bind_eq_ok_iff.2 ⟨pending, getOr_eq_ok_iff.2 hrow.present,
      reportFirst_eq_none_iff.2 ⟨identityChecks_iff.2 hrow.identity, except_bind_eq_ok_iff.2 ⟨_,
      getOr_eq_ok_iff.2 (checkedAdd_of_lt hrow.generations.room), reportFirst_eq_none_iff.2
      ⟨generationChecks_iff.2 ⟨hrow.generations.staging, hrow.generations.weight,
        hrow.generations.journal, hrow.generations.transaction⟩, rfl⟩⟩⟩⟩⟩⟩⟩⟩⟩⟩⟩⟩⟩
    intro check hcheck
    rcases List.mem_cons.1 hcheck with rfl | hcheck
    · exact Option.isNone_eq_false_iff.2 (Option.isSome_iff_exists.2 ⟨pending, hrow.present⟩)
    · obtain rfl := List.mem_singleton.1 hcheck
      exact Option.isNone_eq_false_iff.2 (Option.isSome_iff_exists.2 ⟨record, hrecord⟩)

/-! ### A named field does fail -/

variable (validateDecision) in
/-- What a field says: about the packet, the resident, or the identity of its pending
eligibility. -/
def GpuLearningEvidenceMismatchField.Holds (handle : GpuBrainHandle) (packet : OutcomeCreditPacket)
    (decision : DecisionSnapshot Bundle) (resident : Option (LearningResident Record)) :
    GpuLearningEvidenceMismatchField → Prop
  | outcomeTickAfterOriginating => packet.originatingTick.raw < packet.outcomeTick.raw
  | activeActivationSide => packet.activeActivationSide ≤ 1
  | dispatchGeneration => packet.dispatchGeneration ≠ 0
  | phenotypeHashNonZero => packet.phenotypeHash ≠ .zero
  | frameDigestNonZero => packet.frameDigest ≠ .zero
  | candidateFeatureDigestNonZero => packet.candidateFeatureDigest ≠ ⟨0, 0⟩
  | predictionResidualRange => F32.inRange .negOne .one packet.modulator.predictionResidual = true
  | painRange => F32.inRange .negOne .one packet.modulator.pain = true
  | homeostaticImprovementRange =>
    F32.inRange .negOne .one packet.modulator.homeostaticImprovement = true
  | frustrationRange => F32.inRange .negOne .one packet.modulator.frustration = true
  | noveltyRange => F32.inRange .negOne .one packet.modulator.novelty = true
  | neuromodulatoryLaneRange =>
    ∀ lane ∈ packet.modulator.frame.lanes.toList.drop 5, F32.inRange .negOne .one lane = true
  | organismId => packet.organismId = handle.organismId
  | phenotypeHash => packet.phenotypeHash = handle.phenotypeHash
  | pendingEligibilityPresent => ∀ r ∈ resident, r.pendingEligibility.isSome
  | pendingEligibilityRecordPresent => ∀ r ∈ resident, r.pendingEligibilityRecord.isSome
  | jointActionSelection => ∀ r ∈ resident, ∀ p ∈ r.pendingEligibility,
    ∀ joint ∈ p.identity.jointSelection, validateDecision joint decision = .ok ()
  | handleGeneration => ∀ r ∈ resident, ∀ p ∈ r.pendingEligibility,
    p.identity.handleGeneration = handle.generation
  | pendingPhenotypeHash => ∀ r ∈ resident, ∀ p ∈ r.pendingEligibility,
    p.identity.phenotypeHash = packet.phenotypeHash
  | dispatchGenerationIdentity => ∀ r ∈ resident, ∀ p ∈ r.pendingEligibility,
    p.identity.dispatchGeneration = packet.dispatchGeneration
  | originatingTick => ∀ r ∈ resident, ∀ p ∈ r.pendingEligibility,
    p.identity.originatingTick = packet.originatingTick
  | frameDigest => ∀ r ∈ resident, ∀ p ∈ r.pendingEligibility,
    p.identity.frameDigest = packet.frameDigest
  | activeActivationSideIdentity => ∀ r ∈ resident, ∀ p ∈ r.pendingEligibility,
    p.identity.activeActivationSide = packet.activeActivationSide
  | candidateIndex => ∀ r ∈ resident, ∀ p ∈ r.pendingEligibility,
    p.identity.candidateIndex = packet.selectedCandidate
  | actionId => ∀ r ∈ resident, ∀ p ∈ r.pendingEligibility,
    p.identity.actionId = packet.selectedAction
  | actionFamily => ∀ r ∈ resident, ∀ p ∈ r.pendingEligibility,
    p.identity.actionFamily = packet.selectedFamily
  | candidateFeatureDigest => ∀ r ∈ resident, ∀ p ∈ r.pendingEligibility,
    p.identity.candidateFeatureDigest = packet.candidateFeatureDigest
  | activeEligibilityGeneration => ∀ r ∈ resident, ∀ p ∈ r.pendingEligibility,
    p.identity.activeEligibilityGeneration = r.activeEligibilityGeneration
  | stagingEligibilityGeneration => ∀ r ∈ resident, ∀ p ∈ r.pendingEligibility,
    p.identity.stagingEligibilityGeneration.toNat = r.activeEligibilityGeneration.toNat + 1
  | activeWeightGenerationNonZero => ∀ r ∈ resident, r.activeWeightGeneration ≠ 0
  | replayJournalGenerationNonZero => ∀ r ∈ resident, r.replayJournalGeneration ≠ 0
  | transactionGenerationNonZero => ∀ r ∈ resident, r.transactionGeneration ≠ 0

variable (validateDecision) in
/-- A receipt is right: what its field says fails, and the two values it shows differ.  The
outcome tick is shown with the least tick it could have been, which is the same one at the end of
time. -/
def GpuLearningEvidenceMismatchReceipt.Right (handle : GpuBrainHandle)
    (packet : OutcomeCreditPacket) (decision : DecisionSnapshot Bundle)
    (resident : Option (LearningResident Record)) (receipt : GpuLearningEvidenceMismatchReceipt) :
    Prop :=
  ¬receipt.field.Holds validateDecision handle packet decision resident
    ∧ (receipt.expected ≠ receipt.actual ∨ receipt.field = .outcomeTickAfterOriginating)

theorem words_ne {e a : Digest256} (h : e ≠ a) (field : GpuLearningEvidenceMismatchField) :
    (words field e a).expected ≠ (words field e a).actual := by
  intro heq
  obtain ⟨h₀, h₁, h₂, h₃⟩ := ReceiptWords.mk.inj heq
  refine h ?_
  cases e
  cases a
  simp only [UInt64.toNat_inj] at h₀ h₁ h₂ h₃
  subst h₀ h₁ h₂ h₃
  rfl

theorem widen_injective : Function.Injective widen := by
  rintro ⟨a, b⟩ ⟨c, d⟩ h
  obtain ⟨rfl, rfl, -, -⟩ := Digest256.mk.inj h
  rfl

theorem scalar_ne {e a : ℕ} (h : e ≠ a) (field : GpuLearningEvidenceMismatchField) :
    (scalar field e a).expected ≠ (scalar field e a).actual :=
  fun heq => h (ReceiptWords.mk.inj heq).1

theorem lane_ne (field : GpuLearningEvidenceMismatchField) (value : F32) :
    (lane field value).expected ≠ (lane field value).actual :=
  fun heq => absurd (ReceiptWords.mk.inj heq).2.1 (by decide)

section Right

variable {decision : DecisionSnapshot Bundle} {found : Option (LearningResident Record)}

theorem lane_right {field : GpuLearningEvidenceMismatchField} {value : F32}
    (hfield : field.Holds validateDecision handle packet decision found →
      F32.inRange .negOne .one value = true) (hbad : (!F32.inRange .negOne .one value) = true) :
    (lane field value).Right validateDecision handle packet decision found := by
  refine ⟨fun hholds => ?_, .inl (lane_ne field value)⟩
  rw [hfield hholds] at hbad
  exact Bool.noConfusion hbad

theorem packetChecks_right : ∀ check ∈ packetChecks packet, check.bad = true →
    check.receipt.Right validateDecision handle packet decision found := by
  simp only [packetChecks, List.map_cons, List.map_nil, List.cons_append, List.nil_append,
    List.forall_mem_cons, decide_eq_true_eq]
  refine ⟨fun h => ⟨UInt64.not_lt.2 h, .inr rfl⟩, fun h => ⟨UInt8.not_le.2 h, .inl (scalar_ne ?_ _)⟩,
    fun h => ⟨not_not.2 h, .inl (scalar_ne one_ne_zero _)⟩,
    fun h => ⟨not_not.2 h, .inl (words_ne ?_ _)⟩, fun h => ⟨not_not.2 h, .inl (words_ne ?_ _)⟩,
    fun h => ⟨not_not.2 h, .inl (words_ne ?_ _)⟩, lane_right id, lane_right id, lane_right id,
    lane_right id, lane_right id, lane_right fun h => ?_, lane_right fun h => ?_,
    lane_right fun h => ?_, fun _ h => absurd h List.not_mem_nil⟩
  · intro heq
    rw [UInt8.lt_iff_toNat_lt, ← heq] at h
    exact absurd h (by decide)
  · rw [h]
    decide
  · rw [h]
    decide
  · rw [h]
    decide
  · exact h _ List.mem_cons_self
  · exact h _ (List.mem_cons_of_mem _ List.mem_cons_self)
  · exact h _ (List.mem_cons_of_mem _ (List.mem_cons_of_mem _ List.mem_cons_self))

theorem ownerChecks_right : ∀ check ∈ ownerChecks handle packet, check.bad = true →
    check.receipt.Right validateDecision handle packet decision found := by
  simp only [ownerChecks, List.forall_mem_cons, decide_eq_true_eq]
  refine ⟨fun h => ⟨h, .inl (scalar_ne (fun heq => h ?_) _)⟩,
    fun h => ⟨h, .inl (words_ne (Ne.symm h) _)⟩, fun _ h => absurd h List.not_mem_nil⟩
  exact (OrganismId.ext (UInt64.toNat_inj.1 heq)).symm

/-- A check of the identity is right when what it compares differs. -/
theorem identity_right {P : LearningResident Record → PendingEligibilityIdentity → Prop}
    {receipt : GpuLearningEvidenceMismatchReceipt}
    (hpending : resident.pendingEligibility = some pending)
    (hfield : receipt.field.Holds validateDecision handle packet decision (some resident) ↔
      ∀ r ∈ some resident, ∀ p ∈ r.pendingEligibility, P r p.identity)
    (hbad : ¬P resident pending.identity) (hne : receipt.expected ≠ receipt.actual) :
    receipt.Right validateDecision handle packet decision (some resident) :=
  ⟨fun hholds => hbad (hfield.1 hholds resident rfl pending hpending), .inl hne⟩

theorem identityChecks_right (hpending : resident.pendingEligibility = some pending) :
    ∀ check ∈ identityChecks validateDecision handle packet decision resident pending.identity,
      check.bad = true →
      check.receipt.Right validateDecision handle packet decision (some resident) := by
  simp only [identityChecks, List.forall_mem_cons, decide_eq_true_eq]
  refine ⟨fun h => ?joint, fun h => ?generation, fun h => ?phenotype, fun h => ?dispatch,
    fun h => ?tick, fun h => ?frame, fun h => ?side, fun h => ?candidate, fun h => ?action,
    fun h => ?family, fun h => ?features, fun h => ?eligibility,
    fun _ h => absurd h List.not_mem_nil⟩
  case joint =>
    refine identity_right (P := fun _ identity => ∀ joint ∈ identity.jointSelection,
      validateDecision joint decision = .ok ()) hpending Iff.rfl (fun hholds => ?_)
      (scalar_ne one_ne_zero _)
    obtain ⟨joint, hjoint, hfails⟩ := (Option.any_eq_true _ _).1 h
    rw [isOk_iff.2 (hholds joint hjoint)] at hfails
    exact Bool.noConfusion hfails
  case generation =>
    exact identity_right (P := fun _ identity => identity.handleGeneration = handle.generation)
      hpending Iff.rfl h (scalar_ne (Ne.symm h) _)
  case phenotype =>
    exact identity_right (P := fun _ identity => identity.phenotypeHash = packet.phenotypeHash)
      hpending Iff.rfl h (words_ne h _)
  case dispatch =>
    exact identity_right (P := fun _ identity =>
      identity.dispatchGeneration = packet.dispatchGeneration)
      hpending Iff.rfl h (scalar_ne (fun heq => h (UInt64.toNat_inj.1 heq)) _)
  case tick =>
    exact identity_right (P := fun _ identity => identity.originatingTick = packet.originatingTick)
      hpending Iff.rfl h (scalar_ne (fun heq => h (Tick.ext (UInt64.toNat_inj.1 heq))) _)
  case frame =>
    exact identity_right (P := fun _ identity => identity.frameDigest = packet.frameDigest)
      hpending Iff.rfl h (words_ne h _)
  case side =>
    exact identity_right (P := fun _ identity =>
      identity.activeActivationSide = packet.activeActivationSide)
      hpending Iff.rfl h (scalar_ne (fun heq => h (UInt8.toNat_inj.1 heq)) _)
  case candidate =>
    exact identity_right (P := fun _ identity => identity.candidateIndex = packet.selectedCandidate)
      hpending Iff.rfl h (scalar_ne (fun heq => h (UInt16.toNat_inj.1 heq)) _)
  case action =>
    refine identity_right (P := fun _ identity => identity.actionId = packet.selectedAction)
      hpending Iff.rfl h (scalar_ne (fun heq => h ?_) _)
    exact congrArg ActionId.mk (UInt32.toNat_inj.1 heq)
  case family =>
    refine identity_right (P := fun _ identity => identity.actionFamily = packet.selectedFamily)
      hpending Iff.rfl h (scalar_ne (fun heq => h ?_) _)
    exact CandidateActionFamily.raw_injective (UInt8.toNat_inj.1 heq)
  case features =>
    exact identity_right (P := fun _ identity =>
      identity.candidateFeatureDigest = packet.candidateFeatureDigest)
      hpending Iff.rfl h (words_ne (fun heq => h (widen_injective heq)) _)
  case eligibility =>
    exact identity_right (P := fun resident identity =>
      identity.activeEligibilityGeneration = resident.activeEligibilityGeneration)
      hpending Iff.rfl h (scalar_ne (fun heq => h (UInt64.toNat_inj.1 heq).symm) _)

theorem generationChecks_right (hpending : resident.pendingEligibility = some pending) :
    ∀ check ∈ generationChecks resident pending.identity
        (resident.activeEligibilityGeneration.toNat + 1), check.bad = true →
      check.receipt.Right validateDecision handle packet decision (some resident) := by
  simp only [generationChecks, List.forall_mem_cons, decide_eq_true_eq]
  refine ⟨fun h => ?staging, fun h => ⟨fun hholds => hholds resident rfl h, ?_⟩,
    fun h => ⟨fun hholds => hholds resident rfl h, ?_⟩,
    fun h => ⟨fun hholds => hholds resident rfl h, ?_⟩, fun _ h => absurd h List.not_mem_nil⟩
  case staging =>
    exact identity_right (P := fun resident identity => identity.stagingEligibilityGeneration.toNat
      = resident.activeEligibilityGeneration.toNat + 1)
      hpending Iff.rfl h (scalar_ne (Ne.symm h) _)
  all_goals exact .inl (scalar_ne one_ne_zero _)

end Right

/-- **What the diagnosis names does fail.** -/
theorem mismatchReceipt_right (hpacket : OutcomeCreditPacket.fromSealedPatch patch = .ok packet)
    {receipt : GpuLearningEvidenceMismatchReceipt}
    (h : mismatchReceipt validateDecision backend handle patch = .ok (some receipt)) :
    receipt.Right validateDecision handle packet patch.decision (backend.resident? handle) := by
  unfold mismatchReceipt at h
  obtain ⟨_, h⟩ := except_seq_eq_ok_iff.1 h
  obtain ⟨_, hpacket', h⟩ := except_bind_eq_ok_iff.1 h
  obtain rfl := Except.ok.inj (hpacket.symm.trans hpacket')
  obtain ⟨check, hcheck, hbad, rfl⟩ | h := of_reportFirst_eq_some h
  · exact packetChecks_right check hcheck hbad
  obtain ⟨_, _, h⟩ := except_bind_eq_ok_iff.1 h
  obtain ⟨pool, hpool, h⟩ := except_bind_eq_ok_iff.1 h
  obtain ⟨resident, hresident, h⟩ := except_bind_eq_ok_iff.1 h
  have hfound : backend.resident? handle = some resident :=
    resident?_eq_some_iff.2 ⟨pool, getOr_eq_ok_iff.1 hpool, hresident⟩
  rw [hfound]
  obtain ⟨check, hcheck, hbad, rfl⟩ | h := of_reportFirst_eq_some h
  · exact ownerChecks_right check hcheck hbad
  obtain ⟨_, _, h⟩ := except_bind_eq_ok_iff.1 h
  obtain ⟨check, hcheck, hbad, rfl⟩ | h := of_reportFirst_eq_some h
  · obtain rfl | hcheck := List.mem_cons.1 hcheck
    · refine ⟨fun hholds => ?_, .inl (scalar_ne one_ne_zero _)⟩
      exact Option.isNone_eq_false_iff.2 (hholds resident rfl) ▸ hbad |> Bool.noConfusion
    · obtain rfl := List.mem_singleton.1 hcheck
      refine ⟨fun hholds => ?_, .inl (scalar_ne one_ne_zero _)⟩
      exact Option.isNone_eq_false_iff.2 (hholds resident rfl) ▸ hbad |> Bool.noConfusion
  obtain ⟨pending, hpending, h⟩ := except_bind_eq_ok_iff.1 h
  rw [getOr_eq_ok_iff] at hpending
  obtain ⟨check, hcheck, hbad, rfl⟩ | h := of_reportFirst_eq_some h
  · exact identityChecks_right hpending check hcheck hbad
  obtain ⟨staging, hstaging, h⟩ := except_bind_eq_ok_iff.1 h
  obtain ⟨rfl, _⟩ := checkedAdd_eq_some_iff.1 (getOr_eq_ok_iff.1 hstaging)
  obtain ⟨check, hcheck, hbad, rfl⟩ | h := of_reportFirst_eq_some h
  · exact generationChecks_right hpending check hcheck hbad
  · cases h

/-- **The diagnosis agrees with the enforcement**: a batch of one row is prepared exactly when the
diagnosis finds nothing, and what it finds is right. -/
theorem mismatchReceipt_agrees {row : BatchRow Bundle}
    (hpacket : OutcomeCreditPacket.fromSealedPatch row.patch = .ok packet)
    (hreceptors : packet.withBiochemicalReceptors products row.receptors = .ok packet') :
    ((∃ prepared, prepareBatch validateDecision products backend [row] = .ok prepared)
        ↔ mismatchReceipt validateDecision backend row.handle row.patch = .ok none)
      ∧ ∀ receipt,
        mismatchReceipt validateDecision backend row.handle row.patch = .ok (some receipt) →
        receipt.Right validateDecision row.handle packet row.patch.decision
          (backend.resident? row.handle) := by
  refine ⟨?_, fun receipt h => mismatchReceipt_right hpacket h⟩
  rw [exists_prepareBatch_singleton_iff, exists_prepareRow_eq_ok_iff hpacket hreceptors,
    mismatchReceipt_eq_none_iff hpacket]

end Contract

/-- Evidence of the first organism, on the first dispatch. -/
def sampleEvidence : NeuralDecisionEvidence :=
  ⟨⟨5, 0, 0, 0⟩, ⟨6, 0, 0, 0⟩, 0, 2, .approach, ⟨3⟩, ⟨7, 0⟩, 1⟩

/-- A patch of an uneventful tick. -/
def samplePatch : ExperiencePatch Unit where
  valid := true
  isSealed := true
  organismId := ⟨1⟩
  sequenceId := ⟨1⟩
  worldTick := ⟨10⟩
  brainEvidence := some (⟨5, 0, 0, 0⟩, ⟨6, 0, 0, 0⟩)
  decision := ⟨⟨1⟩, ⟨1⟩, ⟨3⟩, .neuralClosedLoopGpu sampleEvidence, ()⟩
  outcome := ⟨⟨1⟩, ⟨1⟩, ⟨11⟩, .zero, some ⟨.zero, .zero, .zero⟩⟩

/-- The resident that waits for it. -/
def sampleResident : LearningResident Unit where
  slotGeneration := 1
  organismId := ⟨1⟩
  phenotypeHash := ⟨5, 0, 0, 0⟩
  learningSequenceGuard := ⟨⟨1⟩, ⟨5, 0, 0, 0⟩, none⟩
  pendingEligibility := some ⟨⟨none, 1, ⟨5, 0, 0, 0⟩, 1, ⟨10⟩, ⟨6, 0, 0, 0⟩, 0, 2, ⟨3⟩, .approach,
    ⟨7, 0⟩, 4, 5⟩, ⟨9, 0, 0, 0⟩⟩
  pendingEligibilityRecord := some ()
  activeWeightGeneration := 1
  activeEligibilityGeneration := 4
  replayJournalGeneration := 1
  transactionGeneration := 1

def sampleBackend : LearningBackend Unit := ⟨1, OrderedMap.empty.insert 1 [[some sampleResident]]⟩

def sampleRow : BatchRow Unit := ⟨⟨1, 1, 0, 1, ⟨1⟩, ⟨5, 0, 0, 0⟩⟩, samplePatch, ⟨3, 3, ⟨11⟩, []⟩⟩

/-- The packet of the patch; without activations its last two lanes stay zero. -/
def samplePacket : OutcomeCreditPacket where
  policyBackend := .neuralClosedLoopGpu
  schemaVersion := 3
  organismId := ⟨1⟩
  phenotypeHash := ⟨5, 0, 0, 0⟩
  sequenceId := ⟨1⟩
  originatingTick := ⟨10⟩
  outcomeTick := ⟨11⟩
  frameDigest := ⟨6, 0, 0, 0⟩
  activeActivationSide := 0
  selectedCandidate := 2
  selectedFamily := .approach
  selectedAction := ⟨3⟩
  candidateFeatureDigest := ⟨7, 0⟩
  dispatchGeneration := 1
  modulator := .fromFrame ⟨⟨.zero, .zero, .zero, .zero, .zero, .zero, .zero, .zero⟩, rfl, rfl⟩

/-- The row of a patch that selected another candidate. -/
def strayRow : BatchRow Unit :=
  { sampleRow with
    patch := { samplePatch with
      decision := ⟨⟨1⟩, ⟨1⟩, ⟨3⟩,
        .neuralClosedLoopGpu { sampleEvidence with candidateIndex := 3 }, ()⟩ } }

/-- What is reported of it: the candidate index is `3` where `2` was pending. -/
def strayReceipt : GpuLearningEvidenceMismatchReceipt :=
  ⟨.candidateIndex, ⟨2, 0, 0, 0⟩, ⟨3, 0, 0, 0⟩⟩

def strayPacket : OutcomeCreditPacket := { samplePacket with selectedCandidate := 3 }

/-- The first row is prepared; of the second the diagnosis reports the candidate index, and that
report is right. -/
theorem mismatchReceipt_agrees_sample :
    (∃ prepared, prepareBatch (fun _ _ => .ok ()) (fun _ _ _ => (.zero, .zero)) sampleBackend
      [sampleRow] = .ok prepared) ∧
    (¬∃ prepared, prepareBatch (fun _ _ => .ok ()) (fun _ _ _ => (.zero, .zero)) sampleBackend
      [strayRow] = .ok prepared) ∧
    mismatchReceipt (fun _ _ => .ok ()) sampleBackend strayRow.handle strayRow.patch
      = .ok (some strayReceipt) ∧
    strayReceipt.Right (fun _ _ => .ok ()) strayRow.handle strayPacket strayRow.patch.decision
      (sampleBackend.resident? strayRow.handle) := by
  have hpacket : OutcomeCreditPacket.fromSealedPatch sampleRow.patch = .ok samplePacket := rfl
  have hreceptors : samplePacket.withBiochemicalReceptors (fun _ _ _ => (.zero, .zero))
      sampleRow.receptors = .ok samplePacket := rfl
  have hstray : OutcomeCreditPacket.fromSealedPatch strayRow.patch = .ok strayPacket := rfl
  have hstrayReceptors : strayPacket.withBiochemicalReceptors (fun _ _ _ => (.zero, .zero))
      strayRow.receptors = .ok strayPacket := rfl
  have hnothing : mismatchReceipt (fun _ _ => .ok ()) sampleBackend sampleRow.handle
      sampleRow.patch = .ok none := by
    decide
  have hreported : mismatchReceipt (fun _ _ => .ok ()) sampleBackend strayRow.handle
      strayRow.patch = .ok (some strayReceipt) := by
    decide
  refine ⟨(mismatchReceipt_agrees hpacket hreceptors).1.2 hnothing, fun h => ?_, hreported,
    (mismatchReceipt_agrees hstray hstrayReceptors).2 _ hreported⟩
  have hsilent := (mismatchReceipt_agrees hstray hstrayReceptors).1.1 h
  rw [hreported] at hsilent
  cases hsilent

end SealedOutcome

end ALife
