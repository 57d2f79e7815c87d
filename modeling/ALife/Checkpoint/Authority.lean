/-
# The checkpoint authority

The records of a published checkpoint
(`crates/alife_runtime/src/checkpoint_assets/durable_manifest.rs`): a public
file whose field `gpu_checkpoint_authority` points to two immutable artifacts, a
save and the sleep journal anchored to it.  A public file without the field is
a legacy save.

Of `PortableSaveFile` the fields that this code reads are named, the others are
its `rest`; two saves are equal when `PartialEq` says so.  The JSON texts and the
asset checks come from outside (`SaveFormat`).
-/

import ALife.Checkpoint.SleepJournal
import ALife.Machine.Disk

namespace ALife

open Machine

/-- `GpuRuntimeError`.  The text of a failed commit is kept as far as it says
what became of the rollback; a text that is not UTF-8 counts as a failed
deserialization. -/
inductive GpuRuntimeError where
  | persistence
  | core (e : ScaffoldContractError)
  | io (kind : IoErrorKind)
  | serde
  | gpuCheckpointManifestConflict (expected actual : Utf8)
  | gpuCheckpointAuthorityPostCommitValidation
      (committedGeneration lastKnownGoodGeneration : UInt64) (rolledBack : Bool)
  | invalidProductionFrontend (message : String)
  deriving DecidableEq, Repr

instance : FromIo GpuRuntimeError := ⟨.io⟩

/-- The result of a fallible call of the runtime. -/
abbrev Runtime (α : Type) := Except GpuRuntimeError α

/-- A core contract inside a runtime call. -/
def ofContract {α : Type} : Contract α → Runtime α
  | .ok a => .ok a
  | .error e => .error (.core e)

/-- A value that must be there. -/
def orError {α : Type} (v : Option α) (e : GpuRuntimeError) : Runtime α :=
  match v with
  | some a => .ok a
  | none => .error e

/-- A check of the form `if bad { return Err(e) }`. -/
def refuse (bad : Prop) [Decidable bad] (e : GpuRuntimeError) : Runtime Unit :=
  if bad then .error e else .ok ()

theorem ofContract_eq_ok_iff {α : Type} {x : Contract α} {a : α} :
    ofContract x = .ok a ↔ x = .ok a := by
  cases x <;> simp [ofContract]

theorem orError_eq_ok_iff {α : Type} {v : Option α} {e : GpuRuntimeError} {a : α} :
    orError v e = .ok a ↔ v = some a := by
  cases v <;> simp [orError]

theorem refuse_eq_ok_iff {bad : Prop} [Decidable bad] {e : GpuRuntimeError} {u : Unit} :
    refuse bad e = .ok u ↔ ¬bad := by
  unfold refuse
  split_ifs with h <;> simp [h]

/-- A sequence of runtime calls succeeds when both of them do. -/
theorem runtime_bind_eq_ok_iff {α β : Type} {x : Runtime α} {f : α → Runtime β} {b : β} :
    (x >>= f) = .ok b ↔ ∃ a, x = .ok a ∧ f a = .ok b := by
  cases x <;> simp [bind, Except.bind]

/-! ### Saves -/

/-- A creature of a save: whose it is, and the sleep state of its GPU brain. -/
structure CreatureSaveState where
  organismId : OrganismId
  gpuBrain : Option SleepState
  deriving DecidableEq

structure PortableSaveFile (Rest : Type) where
  schema : Utf8
  schemaVersion : UInt16
  worldTick : Tick
  creatures : List CreatureSaveState
  rest : Rest
  deriving DecidableEq

/-- `exact_base_sleep_states`: by organism; two brains of one organism are refused. -/
def exactBaseSleepStates : List CreatureSaveState → Contract (UInt64 → Option SleepState)
  | [] => .ok fun _ => none
  | creature :: creatures => do
    let states ← exactBaseSleepStates creatures
    match creature.gpuBrain with
    | none => pure states
    | some sleep => do
      reject ((states creature.organismId.raw).isSome = true) .brainOwnershipMismatch
      pure (Function.update states creature.organismId.raw (some sleep))

/-! ### Journals over a base -/

inductive SleepJournalAnchorDisposition where
  | current | superseded
  deriving DecidableEq, Repr

/-- The loop of `validate_journal_against_exact_base`: every entry is after the
base, and the first of each organism starts from its state in the base. -/
def validateEntriesAgainstBase (baseTick : Tick) (baseSleepStates : UInt64 → Option SleepState)
    (seen : List UInt64) : List GpuSleepTransactionJournalEntryV2 → Contract Unit
  | [] => .ok ()
  | entry :: entries => do
    reject (entry.transitionTick.raw ≤ baseTick.raw) .consolidationGenerationMismatch
    reject (entry.organismId.raw ∉ seen
        ∧ baseSleepStates entry.organismId.raw ≠ some entry.source)
      .consolidationGenerationMismatch
    validateEntriesAgainstBase baseTick baseSleepStates (entry.organismId.raw :: seen) entries

/-- `validate_journal_against_exact_base`. -/
def validateJournalAgainstExactBase (journal : GpuSleepTransactionJournalV2)
    (exactBaseManifestDigest : PortableAssetDigest) (exactBaseCheckpointTick : Tick)
    (baseSleepStates : UInt64 → Option SleepState) : Contract SleepJournalAnchorDisposition := do
  journal.validate
  if journal.exactBaseManifestDigest ≠ exactBaseManifestDigest
      ∨ journal.exactBaseCheckpointTick ≠ exactBaseCheckpointTick then
    pure .superseded
  else do
    validateEntriesAgainstBase exactBaseCheckpointTick baseSleepStates [] journal.entries
    pure .current

/-- `GpuSleepTransactionJournalV2::try_new`. -/
def GpuSleepTransactionJournalV2.tryNew (exactBaseManifestDigest : PortableAssetDigest)
    (exactBaseCheckpointTick : Tick) (entries : List GpuSleepTransactionJournalEntryV2) :
    Contract GpuSleepTransactionJournalV2 := do
  reject (gpuSleepTransactionJournalMaxEntries < entries.length) .consolidationGenerationMismatch
  let journal : GpuSleepTransactionJournalV2 :=
    { schemaVersion := gpuSleepTransactionJournalSchemaVersion, exactBaseManifestDigest
      exactBaseCheckpointTick, entries, journalDigest := .zero }
  let journal := { journal with journalDigest := journal.recomputeDigest }
  journal.validate
  pure journal

/-! ### Pointers -/

/-- `GpuSaveManifestDigest`. -/
structure GpuSaveManifestDigest where
  saveContent : PortableAssetDigest
  authority : Option Digest256
  deriving DecidableEq

/-- `GpuSaveManifestDigest::for_bytes`. -/
def GpuSaveManifestDigest.forBytes (bytes : Bytes) : GpuSaveManifestDigest :=
  ⟨.forBytes bytes, none⟩

structure GpuCheckpointAuthoritySaveArtifactV1 where
  fileName : Utf8
  digest : PortableAssetDigest
  sizeBytes : UInt64
  saveSchema : Utf8
  saveSchemaVersion : UInt16
  deriving DecidableEq

structure GpuCheckpointAuthorityJournalArtifactV1 where
  fileName : Utf8
  digest : PortableAssetDigest
  sizeBytes : UInt64
  journalSchemaVersion : UInt16
  deriving DecidableEq

structure GpuCheckpointAuthorityPointerV1 where
  schema : Utf8
  schemaVersion : UInt16
  generation : UInt64
  priorGeneration : Option UInt64
  priorAuthorityDigest : Option Digest256
  assetManifestIdentity : PortableAssetDigest
  save : GpuCheckpointAuthoritySaveArtifactV1
  journal : GpuCheckpointAuthorityJournalArtifactV1
  authorityDigest : Digest256
  deriving DecidableEq

/-- `u64::try_from(len).unwrap_or(u64::MAX)`. -/
def lenU64 (n : ℕ) : UInt64 := if n < 2 ^ 64 then n.toUInt64 else 0xFFFFFFFFFFFFFFFF

/-- `valid_authority_artifact_file_name`. -/
def validAuthorityArtifactFileName (fileName : Utf8) : Bool :=
  fileName ≠ [] && fileName.length ≤ 240 && 47 ∉ fileName && 92 ∉ fileName
    && fileName ≠ asciiBytes "." && fileName ≠ asciiBytes ".." && fileName.all (· < 128)

/-- A decimal number, padded with zeros to a width. -/
def decimal (width n : ℕ) : Utf8 :=
  let digits := (Nat.toDigits 10 n).map fun c => c.toNat.toUInt8
  List.replicate (width - digits.length) 48 ++ digits

/-- `authority_artifact_file_name`. -/
def authorityArtifactFileName (saveName : Utf8) (generation : UInt64) (kind : Utf8)
    (digest : PortableAssetDigest) : Runtime Utf8 := do
  refuse (digest.formatIsValid = false) .persistence
  let fileName := asciiBytes "." ++ saveName ++ asciiBytes "." ++ kind ++ asciiBytes "-g"
    ++ decimal 20 generation.toNat ++ asciiBytes "-"
    ++ digest.text.drop PortableAssetDigest.tag.length ++ asciiBytes ".json"
  refuse (validAuthorityArtifactFileName fileName = false)
    (.invalidProductionFrontend "GPU checkpoint authority journal file name is invalid")
  pure fileName

/-- `authority_save_file_name`. -/
def authoritySaveFileName (saveName : Utf8) (generation : UInt64) (digest : PortableAssetDigest) :
    Runtime Utf8 :=
  authorityArtifactFileName saveName generation (asciiBytes "save") digest

/-- `authority_journal_file_name`. -/
def authorityJournalFileName (saveName : Utf8) (generation : UInt64)
    (digest : PortableAssetDigest) : Runtime Utf8 :=
  authorityArtifactFileName saveName generation (asciiBytes "sleep-journal-v2") digest

/-- No artifact has the name of the public file. -/
theorem ne_of_authorityArtifactFileName {saveName kind name : Utf8} {generation : UInt64}
    {digest : PortableAssetDigest}
    (h : authorityArtifactFileName saveName generation kind digest = .ok name) :
    name ≠ saveName := by
  unfold authorityArtifactFileName at h
  obtain ⟨_, -, h⟩ := runtime_bind_eq_ok_iff.1 h
  obtain ⟨_, -, h⟩ := runtime_bind_eq_ok_iff.1 h
  rintro rfl
  have hlength := congrArg List.length (Except.ok.inj h)
  simp only [List.length_append] at hlength
  have hdot : (asciiBytes ".").length = 1 := rfl
  omega

namespace GpuCheckpointAuthorityPointerV1

/-- `GPU_CHECKPOINT_AUTHORITY_SCHEMA`. -/
def schemaName : Utf8 := asciiBytes "alife.gpu-checkpoint-authority"

/-- `recompute_digest` of a pointer. -/
def recomputeDigest (p : GpuCheckpointAuthorityPointerV1) : Digest256 :=
  let digest := (CanonicalDigestBuilder.new (asciiBytes "alife.gpu-checkpoint-authority.v1"))
    |>.writeU16 p.schemaVersion |>.writeU64 p.generation
  let digest :=
    match p.priorGeneration, p.priorAuthorityDigest with
    | some generation, some authorityDigest =>
      digest |>.writeSome |>.writeU64 generation |>.writeDigest authorityDigest
    | _, _ => digest.writeNone
  let digest := digest |>.writeUtf8 p.assetManifestIdentity.text |>.writeUtf8 p.save.fileName
    |>.writeUtf8 p.save.digest.text |>.writeU64 p.save.sizeBytes |>.writeUtf8 p.save.saveSchema
    |>.writeU16 p.save.saveSchemaVersion |>.writeUtf8 p.journal.fileName
    |>.writeUtf8 p.journal.digest.text |>.writeU64 p.journal.sizeBytes
    |>.writeU16 p.journal.journalSchemaVersion
  digest.finish256

attribute [irreducible] recomputeDigest

/-- The first pointer has no prior one, every other has the one before it. -/
def priorIsValid (p : GpuCheckpointAuthorityPointerV1) : Bool :=
  if p.generation = 1 then p.priorGeneration = none && p.priorAuthorityDigest = none
  else p.priorGeneration = some (p.generation - 1) && p.priorAuthorityDigest ≠ none

/-- `validate` of a pointer. -/
def validate (p : GpuCheckpointAuthorityPointerV1) : Runtime Unit := do
  refuse (p.assetManifestIdentity.formatIsValid = false) .persistence
  refuse (p.save.digest.formatIsValid = false) .persistence
  refuse (p.journal.digest.formatIsValid = false) .persistence
  refuse (p.schema ≠ schemaName ∨ p.schemaVersion ≠ 1 ∨ p.generation = 0
      ∨ p.priorIsValid = false ∨ p.save.sizeBytes = 0 ∨ p.save.saveSchema = []
      ∨ p.save.saveSchemaVersion = 0 ∨ validAuthorityArtifactFileName p.save.fileName = false
      ∨ p.journal.sizeBytes = 0
      ∨ p.journal.journalSchemaVersion ≠ gpuSleepTransactionJournalSchemaVersion
      ∨ validAuthorityArtifactFileName p.journal.fileName = false
      ∨ p.authorityDigest ≠ p.recomputeDigest)
    (.invalidProductionFrontend "GPU checkpoint authority pointer is malformed or unsupported")

/-- `GpuCheckpointAuthorityPointerV1::try_new`. -/
def tryNew (generation : UInt64) (prior : Option GpuCheckpointAuthorityPointerV1)
    (assetManifestIdentity : PortableAssetDigest) (save : GpuCheckpointAuthoritySaveArtifactV1)
    (journal : GpuCheckpointAuthorityJournalArtifactV1) :
    Runtime GpuCheckpointAuthorityPointerV1 := do
  let pointer : GpuCheckpointAuthorityPointerV1 :=
    { schema := schemaName, schemaVersion := 1, generation
      priorGeneration := prior.map fun p => p.generation
      priorAuthorityDigest := prior.map fun p => p.authorityDigest
      assetManifestIdentity, save, journal, authorityDigest := .zero }
  let pointer := { pointer with authorityDigest := pointer.recomputeDigest }
  pointer.validate
  pure pointer

end GpuCheckpointAuthorityPointerV1

/-- `GpuCheckpointAuthoritySource`. -/
inductive GpuCheckpointAuthoritySource where
  | legacyDirectV1
  | generationV1 (pointer : GpuCheckpointAuthorityPointerV1)
  deriving DecidableEq

/-- `generation` of a source: its pointer. -/
def GpuCheckpointAuthoritySource.generation :
    GpuCheckpointAuthoritySource → Option GpuCheckpointAuthorityPointerV1
  | .legacyDirectV1 => none
  | .generationV1 pointer => some pointer

structure GpuLoadedSaveManifest (Rest : Type) where
  save : PortableSaveFile Rest
  digest : GpuSaveManifestDigest
  authority : GpuCheckpointAuthoritySource
  deriving DecidableEq

/-- `authority_generation`. -/
def GpuLoadedSaveManifest.authorityGeneration {Rest : Type} (m : GpuLoadedSaveManifest Rest) :
    Option UInt64 :=
  m.authority.generation.map (·.generation)

/-- The JSON texts (`serde_json`) and the checks of a save against its assets. -/
structure SaveFormat (Rest : Type) where
  /-- `to_vec_pretty` of a save. -/
  toVecPretty : PortableSaveFile Rest → Option Bytes
  /-- `PortableSaveFile::from_json_str`. -/
  fromJsonStr : Bytes → Option (PortableSaveFile Rest)
  /-- `validate_with_asset_root`. -/
  validateWithAssetRoot : PortableSaveFile Rest → Bool
  /-- `to_vec` of a save's asset manifest. -/
  assetsToVec : PortableSaveFile Rest → Option Bytes
  /-- `to_vec_pretty` of a journal. -/
  journalToVecPretty : GpuSleepTransactionJournalV2 → Option Bytes
  /-- `from_slice` of a journal. -/
  journalFromSlice : Bytes → Option GpuSleepTransactionJournalV2
  /-- The text of a save with a pointer in its authority field. -/
  toVecPrettyWith : PortableSaveFile Rest → GpuCheckpointAuthorityPointerV1 → Option Bytes
  /-- The authority field of a JSON text, if it has one. -/
  authorityField : Bytes → Option (Option GpuCheckpointAuthorityPointerV1)

/-- Records read back from their texts as they were written. -/
structure SaveFormat.Lawful {Rest : Type} (f : SaveFormat Rest) : Prop where
  authorityField_with : ∀ save pointer bytes, f.toVecPrettyWith save pointer = some bytes →
    f.authorityField bytes = some (some pointer)
  journal_roundTrip : ∀ journal bytes, f.journalToVecPretty journal = some bytes →
    f.journalFromSlice bytes = some journal

end ALife
