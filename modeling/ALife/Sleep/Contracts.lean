/-
# Sleep transaction identities and consolidation progress

`crates/alife_core/src/sleep/gpu_contracts.rs`.  A sleep cycle consolidates
through six states, `None`, `Pending`, `Prepared`, `Submitted`, `Completed` and
`Committed`.  A request carries the digest of its own fields and a staged
output the digest of its fields under a request; `validateForCycle` is what a
state of progress must satisfy to belong to the active cycle.  The weight,
mutable-state and commit digests of the same file are left out: the sleep state
machine never reads them.
-/

import ALife.Core.CanonicalDigest
import ALife.Machine.Integers

namespace ALife

open Machine

/-- The intention to consolidate one cycle. -/
structure ConsolidationIntent where
  cycleId : UInt64
  deriving DecidableEq, Repr

/-- `ConsolidationIntent::validate_contract`. -/
def ConsolidationIntent.validateContract (i : ConsolidationIntent) : Contract Unit :=
  reject (i.cycleId = 0) .invalidId

/-- A process-local job identifier, `NonZeroU64`. -/
structure ConsolidationJobId where
  raw : UInt64
  raw_ne_zero : raw ≠ 0
  deriving DecidableEq

/-- A request to the device: consolidate one generation into the next. -/
structure GpuConsolidationRequest where
  schemaVersion : UInt16
  requestFlags : UInt16
  cycleId : UInt64
  phenotypeHash : PhenotypeHash
  inputGeneration : UInt64
  expectedOutputGeneration : UInt64
  inputDigest : Digest256
  replayDigest : Digest256
  maxReplayEvents : UInt32
  maxReplayEligibilitySamples : UInt32
  requestDigest : Digest256
  deriving DecidableEq

namespace GpuConsolidationRequest

/-- `recompute_request_digest`. -/
def recomputeRequestDigest (r : GpuConsolidationRequest) : Contract Digest256 := do
  reject (r.schemaVersion ≠ 1 ∨ r.requestFlags ≠ 0 ∨ r.cycleId = 0
      ∨ r.phenotypeHash = ⟨.zero⟩ ∨ r.inputGeneration = 0
      ∨ checkedAdd64 r.inputGeneration 1 ≠ some r.expectedOutputGeneration
      ∨ r.inputDigest = .zero ∨ r.replayDigest = .zero
      ∨ r.maxReplayEvents = 0 ∨ 65536 < r.maxReplayEvents
      ∨ r.maxReplayEligibilitySamples = 0)
    .consolidationGenerationMismatch
  pure ((CanonicalDigestBuilder.new (asciiBytes "ALIFE-GPU-SLEEP-REQUEST-V1"))
    |>.writeU16 r.schemaVersion |>.writeU16 r.requestFlags |>.writeU64 r.cycleId
    |>.writeDigest r.phenotypeHash.words |>.writeU64 r.inputGeneration
    |>.writeU64 r.expectedOutputGeneration |>.writeDigest r.inputDigest
    |>.writeDigest r.replayDigest |>.writeU32 r.maxReplayEvents
    |>.writeU32 r.maxReplayEligibilitySamples |>.finish256)

/-- `GpuConsolidationRequest::validate_contract`. -/
def validateContract (r : GpuConsolidationRequest) : Contract Unit := do
  let digest ← r.recomputeRequestDigest
  reject (r.requestDigest ≠ digest) .consolidationGenerationMismatch

end GpuConsolidationRequest

/-- The output a completed job staged in the inactive banks. -/
structure ConsolidationStagedOutput where
  jobId : ConsolidationJobId
  outputGeneration : UInt64
  outputWeightBank : UInt8
  outputDigest : Digest256
  eligibilityResetGeneration : UInt64
  outputEligibilityBank : UInt8
  eligibilityOutputDigest : Digest256
  replayJournalGeneration : UInt64
  replayJournalCursor : UInt32
  replayJournalEventCount : UInt32
  replayJournalOutputDigest : Digest256
  stagingDigest : Digest256
  promotedFastL1Bits : UInt32
  replayInducedFastL1Bits : UInt32
  deriving DecidableEq

namespace ConsolidationStagedOutput

/-- `validate_fields`. -/
def validateFields (s : ConsolidationStagedOutput) (r : GpuConsolidationRequest) :
    Contract Unit :=
  let promoted : F32 := ⟨s.promotedFastL1Bits⟩
  let replay : F32 := ⟨s.replayInducedFastL1Bits⟩
  reject (s.outputGeneration ≠ r.expectedOutputGeneration ∨ 1 < s.outputWeightBank
      ∨ s.outputDigest = .zero ∨ s.eligibilityResetGeneration = 0
      ∨ 1 < s.outputEligibilityBank ∨ s.eligibilityOutputDigest = .zero
      ∨ s.replayJournalGeneration = 0 ∨ r.maxReplayEvents < s.replayJournalCursor
      ∨ r.maxReplayEvents < s.replayJournalEventCount ∨ s.replayJournalOutputDigest = .zero
      ∨ promoted.isFinite = false ∨ promoted.isSignNegative = true
      ∨ replay.isFinite = false ∨ replay.isSignNegative = true)
    .consolidationGenerationMismatch

/-- `recompute_staging_digest`. -/
def recomputeStagingDigest (s : ConsolidationStagedOutput) (r : GpuConsolidationRequest)
    (eligibilityResetPolicyRaw replayConsumePolicyRaw : UInt16) : Contract Digest256 := do
  r.validateContract
  s.validateFields r
  reject (eligibilityResetPolicyRaw ≠ 1 ∨ replayConsumePolicyRaw ≠ 1)
    .consolidationGenerationMismatch
  pure ((CanonicalDigestBuilder.new (asciiBytes "ALIFE-GPU-SLEEP-STAGING-V1"))
    |>.writeDigest r.requestDigest |>.writeU64 s.jobId.raw |>.writeU64 r.cycleId
    |>.writeDigest r.phenotypeHash.words |>.writeU64 s.outputGeneration
    |>.writeU8 s.outputWeightBank |>.writeDigest s.outputDigest
    |>.writeU64 s.eligibilityResetGeneration |>.writeU8 s.outputEligibilityBank
    |>.writeDigest s.eligibilityOutputDigest |>.writeU64 s.replayJournalGeneration
    |>.writeU32 s.replayJournalCursor |>.writeU32 s.replayJournalEventCount
    |>.writeDigest s.replayJournalOutputDigest |>.writeU16 eligibilityResetPolicyRaw
    |>.writeU16 replayConsumePolicyRaw |>.writeU32 s.promotedFastL1Bits
    |>.writeU32 s.replayInducedFastL1Bits |>.finish256)

/-- `validate_against`. -/
def validateAgainst (s : ConsolidationStagedOutput) (r : GpuConsolidationRequest)
    (eligibilityResetPolicyRaw replayConsumePolicyRaw : UInt16) : Contract Unit := do
  let digest ← s.recomputeStagingDigest r eligibilityResetPolicyRaw replayConsumePolicyRaw
  reject (s.stagingDigest ≠ digest) .consolidationGenerationMismatch

end ConsolidationStagedOutput

/-- The durable progress of a cycle's consolidation. -/
inductive ConsolidationState where
  | none
  | pending (intent : ConsolidationIntent) (replayDigest : Digest256)
      (replayEventCount replayEligibilitySampleCount : UInt32)
  | prepared (request : GpuConsolidationRequest)
  | submitted (request : GpuConsolidationRequest) (jobId : ConsolidationJobId)
  | completed (request : GpuConsolidationRequest) (staged : ConsolidationStagedOutput)
  | committed (cycleId outputGeneration : UInt64) (outputDigest : Digest256)
  deriving DecidableEq

namespace ConsolidationState

/-- `kind_raw`. -/
def kindRaw : ConsolidationState → UInt16
  | none => 0
  | pending .. => 1
  | prepared .. => 2
  | submitted .. => 3
  | completed .. => 4
  | committed .. => 5

/-- `matches!(.., ConsolidationState::Committed { .. })`. -/
def isCommitted : ConsolidationState → Bool
  | committed .. => true
  | _ => false

@[simp] theorem isCommitted_none : none.isCommitted = false := rfl

@[simp] theorem isCommitted_committed (id generation : UInt64) (digest : Digest256) :
    (committed id generation digest).isCommitted = true := rfl

/-- `validate_for_cycle`. -/
def validateForCycle (state : ConsolidationState) (activeCycleId : UInt64) : Contract Unit :=
  match state with
  | none => .ok ()
  | pending intent replayDigest replayEventCount replayEligibilitySampleCount => do
    intent.validateContract
    reject (intent.cycleId ≠ activeCycleId ∨ replayDigest = .zero
        ∨ (replayEventCount = 0 ∧ replayEligibilitySampleCount ≠ 0))
      .consolidationGenerationMismatch
  | prepared request | submitted request _ => do
    request.validateContract
    reject (request.cycleId ≠ activeCycleId) .consolidationGenerationMismatch
  | completed request staged => do
    request.validateContract
    staged.validateAgainst request 1 1
    reject (request.cycleId ≠ activeCycleId) .consolidationGenerationMismatch
  | committed cycleId outputGeneration outputDigest =>
    reject (¬(cycleId = activeCycleId ∧ outputGeneration ≠ 0 ∧ outputDigest ≠ .zero))
      .consolidationGenerationMismatch

theorem isCommitted_iff {c : ConsolidationState} :
    c.isCommitted = true ↔ ∃ id generation digest, c = committed id generation digest := by
  cases c <;> simp [isCommitted]

end ConsolidationState

/-- What the consolidation driver reports. -/
inductive ConsolidationDriverEvent where
  | replayAssetPersisted (intent : ConsolidationIntent) (replayDigest : Digest256)
      (replayEventCount replayEligibilitySampleCount : UInt32)
  | prepared (request : GpuConsolidationRequest)
  | submitted (request : GpuConsolidationRequest) (jobId : ConsolidationJobId)
  | recoveredSubmitted (request : GpuConsolidationRequest)
      (lostJobId recoveredJobId : ConsolidationJobId)
  | completed (request : GpuConsolidationRequest) (staged : ConsolidationStagedOutput)
  | committed (cycleId outputGeneration : UInt64) (outputDigest : Digest256)
  deriving DecidableEq

end ALife
