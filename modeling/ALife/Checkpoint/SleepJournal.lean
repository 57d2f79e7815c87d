/-
# The sleep transaction journal

`GpuSleepTransactionJournalEntryV2` and `GpuSleepTransactionJournalV2`
(`crates/alife_runtime/src/checkpoint_assets/durable_manifest.rs`).  An entry
claims that a creature's sleep state went from `source` to `target` by
`transitionTick`; a journal lists entries by organism, tick and ordinal over an
exact base save.  `validate` of an entry re-states, arm by arm over the pair of
consolidations, which transitions it lets through (`transitionPermitted`).
-/

import ALife.Checkpoint.AssetDigest
import ALife.Sleep.Controller

namespace ALife

open Machine

/-- `GPU_SLEEP_TRANSACTION_JOURNAL_SCHEMA_VERSION`. -/
def gpuSleepTransactionJournalSchemaVersion : UInt16 := 2

/-- `GPU_SLEEP_TRANSACTION_JOURNAL_MAX_ENTRIES`. -/
def gpuSleepTransactionJournalMaxEntries : ℕ := 4096

/-- `SLEEP_JOURNAL_DIGEST_DOMAIN`. -/
def sleepJournalDigestDomain : List UInt8 := asciiBytes "alife.gpu.sleep-transaction-journal.v2"

/-- `sleep_trigger_journal_raw`. -/
def sleepTriggerJournalRaw : Option SleepTrigger → UInt8
  | none => 0
  | some .fatigueThreshold => 1
  | some .forcedRequest => 2
  | some .recoveryProtocol => 3
  | some .seizureHyperactivity => 4
  | some .catatoniaEnergyHypoplasia => 5
  | some .extremeFatigue => 6
  | some .unsafeActiveState => 7

/-- The consolidation part of `write_sleep_identity`. -/
def writeConsolidation (digest : CanonicalDigestBuilder) :
    ConsolidationState → CanonicalDigestBuilder
  | .none => digest
  | .pending intent replayDigest replayEventCount replayEligibilitySampleCount =>
    digest |>.writeU64 intent.cycleId |>.writeDigest replayDigest |>.writeU32 replayEventCount
      |>.writeU32 replayEligibilitySampleCount
  | .prepared request => digest.writeDigest request.requestDigest
  | .submitted request jobId => (digest.writeDigest request.requestDigest).writeU64 jobId.raw
  | .completed request staged =>
    (digest.writeDigest request.requestDigest).writeDigest staged.stagingDigest
  | .committed cycleId outputGeneration outputDigest =>
    digest |>.writeU64 cycleId |>.writeU64 outputGeneration |>.writeDigest outputDigest

/-- `write_sleep_identity`. -/
def writeSleepIdentity (digest : CanonicalDigestBuilder) (state : SleepState) :
    Contract CanonicalDigestBuilder := do
  state.validateContract
  let digest := digest |>.writeU16 state.schemaVersion |>.writeU16 state.phase.raw
    |>.writeU64 state.phaseStartedTick.raw |>.writeBool state.enteredSleepTick.isSome
  let digest := state.enteredSleepTick.elim digest fun tick => digest.writeU64 tick.raw
  let digest := digest |>.writeU32 state.cyclesCompleted
    |>.writeU8 (sleepTriggerJournalRaw state.lastTrigger) |>.writeU64 state.activeCycleId
    |>.writeU64 state.lastConsolidatedCycleId |>.writeU16 state.consolidation.kindRaw
  pure (writeConsolidation digest state.consolidation)

/-- `sleep_cycle_fields_match`. -/
def sleepCycleFieldsMatch (source target : SleepState) : Bool :=
  source.schemaVersion = target.schemaVersion && source.cyclesCompleted = target.cyclesCompleted
    && source.lastConsolidatedCycleId = target.lastConsolidatedCycleId
    && source.consolidation = target.consolidation

/-- `sleep_identity_unchanged_except_consolidation`. -/
def sleepIdentityUnchangedExceptConsolidation (source target : SleepState) : Bool :=
  source.schemaVersion = target.schemaVersion && source.phase = target.phase
    && source.phaseStartedTick = target.phaseStartedTick
    && source.enteredSleepTick = target.enteredSleepTick
    && source.cyclesCompleted = target.cyclesCompleted && source.lastTrigger = target.lastTrigger
    && source.activeCycleId = target.activeCycleId
    && source.lastConsolidatedCycleId = target.lastConsolidatedCycleId

/-- The checks that both ways of falling asleep share. -/
def fallsAsleepCanonically (source target : SleepState) : Bool :=
  source.activeCycleId = 0 && source.enteredSleepTick = none
    && target.enteredSleepTick = some target.phaseStartedTick
    && target.activeCycleId = saturatingAdd64 source.lastConsolidatedCycleId 1
    && sleepCycleFieldsMatch source target

/-- `canonical_pre_pending_phase_edge`. -/
def canonicalPrePendingPhaseEdge (source target : SleepState) : Bool :=
  match source.phase, target.phase with
  | .awake, .enteringSleep =>
    fallsAsleepCanonically source target && target.lastTrigger = some .fatigueThreshold
  | .awake, .forcedRecoverySleep =>
    fallsAsleepCanonically source target
      && (target.lastTrigger ≠ none && target.lastTrigger ≠ some .fatigueThreshold)
  | .enteringSleep, .consolidating | .forcedRecoverySleep, .consolidating =>
    source.enteredSleepTick = target.enteredSleepTick && source.lastTrigger = target.lastTrigger
      && source.activeCycleId = target.activeCycleId && sleepCycleFieldsMatch source target
  | _, _ => false

/-- The arms of the entry's `match`: which pairs of consolidations are
permitted, and what each arm checks of the two states. -/
def transitionPermitted (source target : SleepState) : Bool :=
  match source.consolidation, target.consolidation with
  | .none, .none => canonicalPrePendingPhaseEdge source target
  | .none, .pending intent _ _ _ =>
    source.phase = .consolidating && intent.cycleId = source.activeCycleId
      && sleepIdentityUnchangedExceptConsolidation source target
  | .pending _ replayDigest replayEventCount replayEligibilitySampleCount, .prepared request =>
    request.cycleId = source.activeCycleId && request.replayDigest = replayDigest
      && replayEventCount ≤ request.maxReplayEvents
      && replayEligibilitySampleCount ≤ request.maxReplayEligibilitySamples
  | .prepared request, .submitted request' _ => request = request'
  | .completed request staged, .committed cycleId outputGeneration outputDigest =>
    cycleId = request.cycleId && outputGeneration = staged.outputGeneration
      && outputDigest = staged.outputDigest
      && sleepIdentityUnchangedExceptConsolidation source target
  | .committed .., .committed .. => source.consolidation = target.consolidation
  | .committed .., .none => target.phase = .awake
  | _, _ => false

structure GpuSleepTransactionJournalEntryV2 where
  organismId : OrganismId
  transitionTick : Tick
  transitionOrdinal : UInt8
  source : SleepState
  target : SleepState
  rollbackToExactBase : Bool
  entryDigest : Digest256
  deriving DecidableEq

namespace GpuSleepTransactionJournalEntryV2

/-- `recompute_digest` of an entry. -/
def recomputeDigest (e : GpuSleepTransactionJournalEntryV2) : Contract Digest256 := do
  let digest := (CanonicalDigestBuilder.new sleepJournalDigestDomain)
    |>.writeU16 gpuSleepTransactionJournalSchemaVersion |>.writeU64 e.organismId.raw
    |>.writeU64 e.transitionTick.raw |>.writeU8 e.transitionOrdinal
  let digest ← writeSleepIdentity digest e.source
  let digest ← writeSleepIdentity digest e.target
  pure (digest.writeBool e.rollbackToExactBase).finish256

/-- The digest check of an entry. -/
def validateDigest (e : GpuSleepTransactionJournalEntryV2) : Contract Unit := do
  let digest ← e.recomputeDigest
  reject (e.entryDigest ≠ digest) .consolidationGenerationMismatch

/-- `validate` of an entry.  The source tests the pair of consolidations before
the ticks and again, with each arm's guard, after them; both failures are the
same error. -/
def validate (e : GpuSleepTransactionJournalEntryV2) : Contract Unit := do
  e.organismId.validate
  e.source.validateContract
  e.target.validateContract
  reject (e.rollbackToExactBase = false ∨ 1 < e.transitionOrdinal ∨ e.transitionTick.raw = 0
      ∨ e.transitionTick.raw < e.source.phaseStartedTick.raw
      ∨ e.transitionTick.raw < e.target.phaseStartedTick.raw)
    .consolidationGenerationMismatch
  e.validateDigest
  reject (transitionPermitted e.source e.target = false) .consolidationGenerationMismatch

/-- What an accepted entry says about its two states. -/
structure Accepted (e : GpuSleepTransactionJournalEntryV2) : Prop where
  source : e.source.Valid
  target : e.target.Valid
  sourceTick : e.source.phaseStartedTick.raw ≤ e.transitionTick.raw
  targetTick : e.target.phaseStartedTick.raw ≤ e.transitionTick.raw
  permitted : transitionPermitted e.source e.target = true

theorem accepted_of_validate {e : GpuSleepTransactionJournalEntryV2} (h : e.validate = .ok ()) :
    e.Accepted := by
  unfold validate at h
  simp only [contract_seq_eq_ok_iff, reject_eq_ok_iff] at h
  obtain ⟨-, hs, ht, hticks, -, hp⟩ := h
  push Not at hticks
  obtain ⟨-, -, -, hsource, htarget⟩ := hticks
  exact ⟨SleepState.validateContract_eq_ok_iff.1 hs, SleepState.validateContract_eq_ok_iff.1 ht,
    UInt64.not_lt.1 hsource, UInt64.not_lt.1 htarget, by simpa using hp⟩

end GpuSleepTransactionJournalEntryV2

structure GpuSleepTransactionJournalV2 where
  schemaVersion : UInt16
  exactBaseManifestDigest : PortableAssetDigest
  exactBaseCheckpointTick : Tick
  entries : List GpuSleepTransactionJournalEntryV2
  journalDigest : Digest256
  deriving DecidableEq

namespace GpuSleepTransactionJournalV2

/-- What the scan of the entries remembers: the last target of each organism,
and the previous entry. -/
structure Scan where
  lastByOrganism : UInt64 → Option SleepState
  previous : Option GpuSleepTransactionJournalEntryV2

/-- The key order is lexicographic by organism, tick and ordinal. -/
def keyLt (a b : GpuSleepTransactionJournalEntryV2) : Prop :=
  a.organismId.raw < b.organismId.raw ∨
    (a.organismId.raw = b.organismId.raw ∧ (a.transitionTick.raw < b.transitionTick.raw ∨
      (a.transitionTick.raw = b.transitionTick.raw ∧ a.transitionOrdinal < b.transitionOrdinal)))

instance (a b : GpuSleepTransactionJournalEntryV2) : Decidable (keyLt a b) :=
  inferInstanceAs (Decidable (_ ∨ _))

/-- The check of an entry against the previous one: keys rise, and a second
entry at one tick opens the consolidation after a phase edge. -/
def validateOrder (previous : Option GpuSleepTransactionJournalEntryV2)
    (entry : GpuSleepTransactionJournalEntryV2) : Contract Unit :=
  match previous with
  | none => reject (entry.transitionOrdinal ≠ 0) .consolidationGenerationMismatch
  | some p =>
    if p.organismId = entry.organismId ∧ p.transitionTick = entry.transitionTick then
      reject (¬keyLt p entry ∨ entry.transitionOrdinal.toNat ≠ p.transitionOrdinal.toNat + 1
          ∨ p.source.consolidation ≠ .none ∨ p.target.consolidation ≠ .none
          ∨ entry.source.consolidation ≠ .none ∨ entry.target.consolidation.kindRaw ≠ 1)
        .consolidationGenerationMismatch
    else
      reject (¬keyLt p entry ∨ entry.transitionOrdinal ≠ 0) .consolidationGenerationMismatch

/-- One turn of the loop in `validate`. -/
def Scan.visit (scan : Scan) (entry : GpuSleepTransactionJournalEntryV2) : Contract Scan := do
  validateOrder scan.previous entry
  let previous := scan.lastByOrganism entry.organismId.raw
  reject (previous ≠ none ∧ previous ≠ some entry.source) .consolidationGenerationMismatch
  pure ⟨Function.update scan.lastByOrganism entry.organismId.raw (some entry.target), some entry⟩

/-- `recompute_digest` of a journal. -/
def recomputeDigest (j : GpuSleepTransactionJournalV2) : Digest256 :=
  let digest := (CanonicalDigestBuilder.new sleepJournalDigestDomain)
    |>.writeU16 j.schemaVersion |>.writeUtf8 j.exactBaseManifestDigest.text
    |>.writeU64 j.exactBaseCheckpointTick.raw |>.writeSequenceLen j.entries.length
  (j.entries.foldl (fun digest entry => digest.writeDigest entry.entryDigest) digest).finish256

/-- The loop over the entries. -/
def validateSequence (j : GpuSleepTransactionJournalV2) : Contract Unit := do
  let _ ← j.entries.foldlM Scan.visit ⟨fun _ => none, none⟩
  pure ()

/-- `validate` of a journal. -/
def validate (j : GpuSleepTransactionJournalV2) : Contract Unit := do
  reject (gpuSleepTransactionJournalMaxEntries < j.entries.length)
    .consolidationGenerationMismatch
  j.validateSequence
  reject (j.schemaVersion ≠ gpuSleepTransactionJournalSchemaVersion
      ∨ j.exactBaseManifestDigest.formatIsValid = false
      ∨ (∃ entry ∈ j.entries, entry.validate ≠ .ok ()) ∨ j.journalDigest ≠ j.recomputeDigest)
    .consolidationGenerationMismatch

/-- Every entry of an accepted journal is accepted. -/
theorem entry_validate {j : GpuSleepTransactionJournalV2} (h : j.validate = .ok ())
    {e : GpuSleepTransactionJournalEntryV2} (he : e ∈ j.entries) : e.validate = .ok () := by
  unfold validate at h
  simp only [contract_seq_eq_ok_iff, reject_eq_ok_iff] at h
  obtain ⟨-, -, h⟩ := h
  push Not at h
  exact h.2.2.1 e he

end GpuSleepTransactionJournalV2

end ALife
