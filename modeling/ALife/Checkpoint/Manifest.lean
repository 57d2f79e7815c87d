/-
# Publishing a save

`GpuDurableSaveManifest`
(`crates/alife_runtime/src/checkpoint_assets/durable_manifest.rs`) over a
directory whose steps may fail.  Paths in the directory of the public file are
file names.  The lock that serializes publications, the timing records and the
paths outside the directory are left out; a call of
`maybe_fail_authority_stage` is a step that only the tests make fail.
-/

import ALife.Checkpoint.Authority

namespace ALife

open Machine

/-- A body over the directory of the public file. -/
abbrev Publishing := EStateM GpuRuntimeError (Disk Utf8)

/-- The same before its errors are converted: an `io::Result`. -/
abbrev IoBody := EStateM IoErrorKind (Disk Utf8)

/-- A pure runtime call in a body. -/
abbrev run {α : Type} (x : Runtime α) : Publishing α := ofResult x

/-- `maybe_fail_authority_stage`. -/
def maybeFailAuthorityStage : Publishing Unit := Disk.access

/-- The part of `write_immutable_authority_artifact` that makes the file. -/
def makeImmutableAuthorityArtifact (path : Utf8) (bytes : Bytes) : Publishing Unit := do
  let made ← attempt (Disk.createNew path : IoBody Unit)
  match made with
  | .ok () => do
    let written ← attempt (do
      Disk.write path bytes
      Disk.access
      Disk.access : IoBody Unit)
    match written with
    | .ok () => pure ()
    | .error e => do
      let _ ← attempt (Disk.removeFile path : IoBody Unit)
      throw (.io e)
  | .error .alreadyExists => do
    let found ← Disk.read path
    run (refuse (found ≠ bytes)
      (.invalidProductionFrontend "GPU checkpoint immutable authority artifact conflicts"))
  | .error e => throw (.io e)

/-- `write_immutable_authority_artifact`. -/
def writeImmutableAuthorityArtifact (path : Utf8) (bytes : Bytes) : Publishing Unit := do
  makeImmutableAuthorityArtifact path bytes
  let found ← Disk.read path
  run (refuse (found ≠ bytes)
    (.invalidProductionFrontend "GPU checkpoint immutable authority artifact failed verification"))

structure GpuDurableSaveManifest (Rest : Type) where
  /-- The name of the public file. -/
  saveName : Utf8
  /-- The texts and the asset root. -/
  format : SaveFormat Rest
  processId : UInt32

namespace GpuDurableSaveManifest

variable {Rest : Type} (m : GpuDurableSaveManifest Rest)

/-- The name `prepare_atomic_manifest` gives its temporary file. -/
def temporaryName (nonce : UInt64) : Utf8 :=
  asciiBytes "." ++ m.saveName ++ asciiBytes ".gpu-cas-" ++ decimal 0 m.processId.toNat
    ++ asciiBytes "-" ++ decimal 0 nonce.toNat ++ asciiBytes ".tmp"

/-- `prepare_atomic_manifest`. -/
def prepareAtomicManifest (bytes : Bytes) : Publishing Utf8 := do
  let nonce ← Disk.nextCounter
  let temporary := m.temporaryName nonce
  Disk.createNew temporary
  let written ← attempt (do
    Disk.write temporary bytes
    Disk.access : IoBody Unit)
  match written with
  | .ok () => pure temporary
  | .error e => do
    let _ ← attempt (Disk.removeFile temporary : IoBody Unit)
    throw (.io e)

/-- `commit_prepared_manifest`: the rename, and the sync of the directory. -/
def commitPreparedManifest (temporary : Utf8) : IoBody Unit := do
  Disk.rename temporary m.saveName
  Disk.access

/-- `write_atomic_manifest`. -/
def writeAtomicManifest (bytes : Bytes) : Publishing Unit := do
  let temporary ← m.prepareAtomicManifest bytes
  let committed ← attempt (m.commitPreparedManifest temporary)
  match committed with
  | .ok () => do
    let found ← Disk.read m.saveName
    run (refuse (found ≠ bytes)
      (.invalidProductionFrontend "atomic GPU checkpoint publication digest mismatch"))
  | .error e => do
    let _ ← attempt (Disk.removeFile temporary : IoBody Unit)
    throw (.io e)

/-! ### Loading -/

/-- `authority_artifact_path`. -/
def authorityArtifactPath (fileName : Utf8) : Runtime Utf8 := do
  refuse (validAuthorityArtifactFileName fileName = false)
    (.invalidProductionFrontend "GPU checkpoint authority artifact name is invalid")
  pure fileName

/-- The bytes of an artifact, checked against its size and digest. -/
def readArtifact (fileName : Utf8) (sizeBytes : UInt64) (digest : PortableAssetDigest)
    (message : String) : Publishing Bytes := do
  let path ← run (authorityArtifactPath fileName)
  let bytes ← Disk.read path
  run (refuse (lenU64 bytes.length ≠ sizeBytes ∨ .forBytes bytes ≠ digest)
    (.invalidProductionFrontend message))
  pure bytes

/-- `validate_with_asset_root`, which reads the assets. -/
def validateWithAssetRoot (save : PortableSaveFile Rest) : Publishing Unit := do
  Disk.access
  run (refuse (m.format.validateWithAssetRoot save = false) .persistence)

/-- `asset_manifest_identity`. -/
def assetManifestIdentity (save : PortableSaveFile Rest) : Runtime PortableAssetDigest := do
  let bytes ← orError (m.format.assetsToVec save) .serde
  pure (.forBytes bytes)

/-- `exact_save_anchor_digest`. -/
def exactSaveAnchorDigest (save : PortableSaveFile Rest) (e : GpuRuntimeError) :
    Runtime PortableAssetDigest := do
  let bytes ← orError (m.format.toVecPretty save) e
  pure (.forBytes bytes)

/-- How a journal lies over a save. -/
def anchorDisposition (journal : GpuSleepTransactionJournalV2) (save : PortableSaveFile Rest)
    (e : GpuRuntimeError) : Runtime SleepJournalAnchorDisposition := do
  let baseSleepStates ← ofContract (exactBaseSleepStates save.creatures)
  let anchor ← m.exactSaveAnchorDigest save e
  ofContract (validateJournalAgainstExactBase journal anchor save.worldTick baseSleepStates)

/-- `read_authority_save`. -/
def readAuthoritySave (pointer : GpuCheckpointAuthorityPointerV1) :
    Publishing (PortableSaveFile Rest) := do
  let bytes ← readArtifact pointer.save.fileName pointer.save.sizeBytes pointer.save.digest
    "GPU checkpoint authority save artifact mismatch"
  let save ← run (orError (m.format.fromJsonStr bytes) .persistence)
  run (refuse (save.schema ≠ pointer.save.saveSchema
      ∨ save.schemaVersion ≠ pointer.save.saveSchemaVersion)
    (.invalidProductionFrontend "GPU checkpoint authority save schema identity mismatch"))
  m.validateWithAssetRoot save
  pure save

/-- `read_authority_journal`. -/
def readAuthorityJournal (pointer : GpuCheckpointAuthorityPointerV1)
    (save : PortableSaveFile Rest) : Publishing GpuSleepTransactionJournalV2 := do
  run pointer.validate
  let bytes ← readArtifact pointer.journal.fileName pointer.journal.sizeBytes
    pointer.journal.digest "GPU checkpoint authority journal artifact mismatch"
  let journal ← run (orError (m.format.journalFromSlice bytes) .serde)
  run (ofContract journal.validate)
  let disposition ← run (m.anchorDisposition journal save .serde)
  run (refuse (disposition ≠ .current) (.core .consolidationGenerationMismatch))
  pure journal

/-- The authority that the public file names. -/
def readAuthorityField (bytes : Bytes) : Runtime (Option GpuCheckpointAuthorityPointerV1) :=
  orError (m.format.authorityField bytes) .serde

/-- `load`, of a public file that points to its artifacts. -/
def loadGeneration (pointer : GpuCheckpointAuthorityPointerV1) :
    Publishing (GpuLoadedSaveManifest Rest) := do
  run pointer.validate
  let save ← m.readAuthoritySave pointer
  let identity ← run (m.assetManifestIdentity save)
  run (refuse (pointer.assetManifestIdentity ≠ identity)
    (.invalidProductionFrontend "GPU checkpoint authority asset-manifest identity mismatch"))
  let _ ← m.readAuthorityJournal pointer save
  pure ⟨save, ⟨pointer.save.digest, some pointer.authorityDigest⟩, .generationV1 pointer⟩

/-- `load`, of a legacy save. -/
def loadLegacy (bytes : Bytes) : Publishing (GpuLoadedSaveManifest Rest) := do
  let save ← run (orError (m.format.fromJsonStr bytes) .persistence)
  m.validateWithAssetRoot save
  pure ⟨save, .forBytes bytes, .legacyDirectV1⟩

/-- `load`. -/
def load : Publishing (GpuLoadedSaveManifest Rest) := do
  let bytes ← Disk.read m.saveName
  let authority ← run (m.readAuthorityField bytes)
  match authority with
  | some pointer => m.loadGeneration pointer
  | none => m.loadLegacy bytes

/-- `load_current_manifest_identity`. -/
def loadCurrentManifestIdentity :
    Publishing (GpuSaveManifestDigest × GpuCheckpointAuthoritySource) := do
  let bytes ← Disk.read m.saveName
  let authority ← run (m.readAuthorityField bytes)
  match authority with
  | some pointer => do
    run pointer.validate
    pure (⟨pointer.save.digest, some pointer.authorityDigest⟩, .generationV1 pointer)
  | none => pure (.forBytes bytes, .legacyDirectV1)

/-- `sleep_journal_path`. -/
def sleepJournalName : Utf8 :=
  asciiBytes "." ++ m.saveName ++ asciiBytes ".sleep-journal-v2.json"

/-- `GpuSleepTransactionJournalV2::empty`. -/
def emptyJournal (save : PortableSaveFile Rest) : Runtime GpuSleepTransactionJournalV2 := do
  let anchor ← m.exactSaveAnchorDigest save (.core .consolidationGenerationMismatch)
  ofContract (GpuSleepTransactionJournalV2.tryNew anchor save.worldTick [])

/-- The journal of `load_sleep_transaction_journal`, where there is one. -/
def readSleepTransactionJournal (base : GpuLoadedSaveManifest Rest) :
    Publishing (Option GpuSleepTransactionJournalV2) :=
  match base.authority with
  | .generationV1 pointer => do
    let journal ← m.readAuthorityJournal pointer base.save
    pure (some journal)
  | .legacyDirectV1 => do
    let found ← Disk.pathExists m.sleepJournalName
    if found then do
      let bytes ← Disk.read m.sleepJournalName
      let journal ← run (orError (m.format.journalFromSlice bytes) .serde)
      pure (some journal)
    else pure none

/-- The journal found, unless a newer save superseded it. -/
def settleSleepTransactionJournal (base : GpuLoadedSaveManifest Rest) :
    Option GpuSleepTransactionJournalV2 → Publishing GpuSleepTransactionJournalV2
  | none => run (m.emptyJournal base.save)
  | some journal => do
    run (ofContract journal.validate)
    let disposition ← run (m.anchorDisposition journal base.save
      (.core .consolidationGenerationMismatch))
    run (if disposition = .current then .ok journal else m.emptyJournal base.save)

/-- `load_sleep_transaction_journal`. -/
def loadSleepTransactionJournal (base : GpuLoadedSaveManifest Rest) :
    Publishing GpuSleepTransactionJournalV2 := do
  let found ← m.readSleepTransactionJournal base
  m.settleSleepTransactionJournal base found

/-! ### Preparing a generation -/

/-- The generation after a prior one. -/
def nextGeneration (prior : Option GpuCheckpointAuthorityPointerV1) : Runtime UInt64 :=
  match prior with
  | some pointer =>
    orError (checkedAdd64 pointer.generation 1)
      (.invalidProductionFrontend "GPU checkpoint authority generation overflow")
  | none => .ok 1

/-- The save artifact of a generation. -/
def prepareSaveArtifact (save : PortableSaveFile Rest) (generation : UInt64) :
    Publishing GpuCheckpointAuthoritySaveArtifactV1 := do
  let bytes ← run (orError (m.format.toVecPretty save) .serde)
  let digest := PortableAssetDigest.forBytes bytes
  let fileName ← run (authoritySaveFileName m.saveName generation digest)
  let path ← run (authorityArtifactPath fileName)
  writeImmutableAuthorityArtifact path bytes
  maybeFailAuthorityStage
  pure ⟨fileName, digest, lenU64 bytes.length, save.schema, save.schemaVersion⟩

/-- The journal artifact of a generation. -/
def prepareJournalArtifact (journal : GpuSleepTransactionJournalV2) (generation : UInt64) :
    Publishing GpuCheckpointAuthorityJournalArtifactV1 := do
  let bytes ← run (orError (m.format.journalToVecPretty journal) .serde)
  let digest := PortableAssetDigest.forBytes bytes
  let fileName ← run (authorityJournalFileName m.saveName generation digest)
  let path ← run (authorityArtifactPath fileName)
  writeImmutableAuthorityArtifact path bytes
  maybeFailAuthorityStage
  pure ⟨fileName, digest, lenU64 bytes.length, gpuSleepTransactionJournalSchemaVersion⟩

/-- `prepare_authority_generation`. -/
def prepareAuthorityGeneration (base : GpuLoadedSaveManifest Rest)
    (journal : GpuSleepTransactionJournalV2) : Publishing GpuCheckpointAuthorityPointerV1 := do
  let prior := base.authority.generation
  let generation ← run (nextGeneration prior)
  let save ← m.prepareSaveArtifact base.save generation
  let journal ← m.prepareJournalArtifact journal generation
  let identity ← run (m.assetManifestIdentity base.save)
  run (GpuCheckpointAuthorityPointerV1.tryNew generation prior identity save journal)

/-- `prepare_journal_authority_generation`: the save artifact of a prior
generation is used again. -/
def prepareJournalAuthorityGeneration (base : GpuLoadedSaveManifest Rest)
    (journal : GpuSleepTransactionJournalV2) : Publishing GpuCheckpointAuthorityPointerV1 :=
  match base.authority.generation with
  | none => m.prepareAuthorityGeneration base journal
  | some prior => do
    let generation ← run (nextGeneration (some prior))
    let journal ← m.prepareJournalArtifact journal generation
    run (GpuCheckpointAuthorityPointerV1.tryNew generation (some prior)
      prior.assetManifestIdentity prior.save journal)

/-! ### Committing a pointer -/

/-- `restore_prior_authority_pointer`. -/
def restorePriorAuthorityPointer (priorPublicPointer : Option Bytes)
    (priorGeneration : Option UInt64) : Publishing Unit :=
  match priorPublicPointer with
  | some bytes => do
    m.writeAtomicManifest bytes
    let found ← Disk.read m.saveName
    run (refuse (found ≠ bytes) (.invalidProductionFrontend
      "GPU checkpoint prior authority pointer rollback changed bytes"))
    let restored ← m.load
    run (refuse (restored.authorityGeneration ≠ priorGeneration) (.invalidProductionFrontend
      "GPU checkpoint prior authority pointer rollback generation mismatch"))
  | none => do
    let removed ← attempt (Disk.removeFile m.saveName : IoBody Unit)
    match removed with
    | .ok () | .error .notFound => pure ()
    | .error e => throw (.io e)
    Disk.access
    let found ← Disk.pathExists m.saveName
    run (refuse (found = true) (.invalidProductionFrontend
      "GPU checkpoint new authority pointer rollback left a public manifest"))

/-- What is reopened after the rename. -/
def reopen (compatibilitySave : PortableSaveFile Rest)
    (pointer : GpuCheckpointAuthorityPointerV1) (reloadAfterCommit : Bool) :
    Publishing (GpuLoadedSaveManifest Rest) := do
  maybeFailAuthorityStage
  if reloadAfterCommit then m.load
  else pure ⟨compatibilitySave, ⟨pointer.save.digest, some pointer.authorityDigest⟩,
    .generationV1 pointer⟩

/-- `encode_authoritative_save`. -/
def encodeAuthoritativeSave (save : PortableSaveFile Rest)
    (pointer : GpuCheckpointAuthorityPointerV1) : Runtime Bytes := do
  pointer.validate
  orError (m.format.toVecPrettyWith save pointer) .serde

/-- The public file before a commit, where there is one. -/
def readPriorPublicPointer : Publishing (Option Bytes) := do
  let found ← attempt (Disk.read m.saveName : IoBody Bytes)
  match found with
  | .ok bytes => pure (some bytes)
  | .error .notFound => pure none
  | .error e => throw (.io e)

/-- `commit_prevalidated_authority_pointer`. -/
def commitPrevalidatedAuthorityPointer (compatibilitySave : PortableSaveFile Rest)
    (pointer : GpuCheckpointAuthorityPointerV1) (reloadAfterCommit : Bool) :
    Publishing (GpuLoadedSaveManifest Rest) := do
  let priorPublicPointer ← m.readPriorPublicPointer
  maybeFailAuthorityStage
  let encoded ← run (m.encodeAuthoritativeSave compatibilitySave pointer)
  m.writeAtomicManifest encoded
  let reopened ← attempt (m.reopen compatibilitySave pointer reloadAfterCommit)
  match reopened with
  | .ok reopened => pure reopened
  | .error _ => do
    let rollback ← attempt
      (m.restorePriorAuthorityPointer priorPublicPointer pointer.priorGeneration)
    throw (.gpuCheckpointAuthorityPostCommitValidation pointer.generation
      (pointer.priorGeneration.getD 0) rollback.isOk)

/-- `commit_reused_save_authority_pointer`. -/
def commitReusedSaveAuthorityPointer (base : GpuLoadedSaveManifest Rest)
    (pointer : GpuCheckpointAuthorityPointerV1) : Publishing (GpuLoadedSaveManifest Rest) := do
  run pointer.validate
  let prior ← run (orError base.authority.generation (.core .consolidationGenerationMismatch))
  let message := "GPU checkpoint reused authority save differs from its validated base"
  run (refuse (pointer.priorGeneration ≠ some prior.generation
      ∨ pointer.assetManifestIdentity ≠ prior.assetManifestIdentity ∨ pointer.save ≠ prior.save)
    (.invalidProductionFrontend message))
  let identity ← run (m.assetManifestIdentity base.save)
  run (refuse (pointer.assetManifestIdentity ≠ identity) (.invalidProductionFrontend message))
  let _ ← readArtifact pointer.save.fileName pointer.save.sizeBytes pointer.save.digest
    "GPU checkpoint reused authority save artifact mismatch"
  m.commitPrevalidatedAuthorityPointer base.save pointer false

section Compared

variable [DecidableEq Rest]

/-- `commit_authority_pointer`. -/
def commitAuthorityPointer (compatibilitySave : PortableSaveFile Rest)
    (pointer : GpuCheckpointAuthorityPointerV1) : Publishing (GpuLoadedSaveManifest Rest) := do
  run pointer.validate
  let preparedSave ← m.readAuthoritySave pointer
  let message := "GPU checkpoint prepared authority save does not match the candidate"
  run (refuse (preparedSave ≠ compatibilitySave) (.invalidProductionFrontend message))
  let identity ← run (m.assetManifestIdentity preparedSave)
  run (refuse (pointer.assetManifestIdentity ≠ identity) (.invalidProductionFrontend message))
  let _ ← m.readAuthorityJournal pointer preparedSave
  m.commitPrevalidatedAuthorityPointer compatibilitySave pointer true

/-- The last checks of a publication. -/
def checkPublished (published : GpuLoadedSaveManifest Rest) (replacement : PortableSaveFile Rest)
    (pointer : GpuCheckpointAuthorityPointerV1) (journal : GpuSleepTransactionJournalV2)
    (changedMessage : String) : Publishing Unit := do
  let message := "atomic GPU checkpoint authority generation failed reopen validation"
  run (refuse (published.save ≠ replacement) (.invalidProductionFrontend changedMessage))
  run (refuse (published.authority.generation ≠ some pointer)
    (.invalidProductionFrontend message))
  let reloaded ← m.loadSleepTransactionJournal published
  run (refuse (reloaded ≠ journal) (.invalidProductionFrontend message))

/-- Publishes a replacement with an empty journal over the authority found. -/
def publishReplacement (replacement : PortableSaveFile Rest) (digest : GpuSaveManifestDigest)
    (authority : GpuCheckpointAuthoritySource) (changedMessage : String) :
    Publishing (GpuLoadedSaveManifest Rest) := do
  let replacementBase : GpuLoadedSaveManifest Rest := ⟨replacement, digest, authority⟩
  let journal ← run (m.emptyJournal replacement)
  let pointer ← m.prepareAuthorityGeneration replacementBase journal
  let published ← m.commitAuthorityPointer replacement pointer
  m.checkPublished published replacement pointer journal changedMessage
  pure published

/-! ### The three calls -/

/-- What a publication returned. -/
inductive Outcome (Rest : Type) where
  | alreadyApplied (digest : GpuSaveManifestDigest)
  | published (published : GpuLoadedSaveManifest Rest)

/-- `compare_and_swap`. -/
def compareAndSwap (expected : GpuSaveManifestDigest) (replacement : PortableSaveFile Rest) :
    Publishing (Outcome Rest) := do
  m.validateWithAssetRoot replacement
  let replacementBytes ← run (orError (m.format.toVecPretty replacement) .serde)
  let digest := GpuSaveManifestDigest.forBytes replacementBytes
  let current ← m.load
  if current.digest.saveContent = digest.saveContent then pure (.alreadyApplied current.digest)
  else do
    run (refuse (current.digest ≠ expected) (.gpuCheckpointManifestConflict
      expected.saveContent.text current.digest.saveContent.text))
    let preReplace ← m.load
    run (refuse (preReplace.digest ≠ expected) (.gpuCheckpointManifestConflict
      expected.saveContent.text preReplace.digest.saveContent.text))
    let published ← m.publishReplacement replacement digest preReplace.authority
      "atomic GPU checkpoint authority generation failed reopen validation"
    pure (.published published)

/-- The authority a snapshot goes on from. -/
def priorAuthority : Publishing GpuCheckpointAuthoritySource := do
  let found ← Disk.pathExists m.saveName
  if found then do
    let current ← m.load
    pure current.authority
  else pure .legacyDirectV1

/-- `publish_snapshot`. -/
def publishSnapshot (replacement : PortableSaveFile Rest) : Publishing (Outcome Rest) := do
  m.validateWithAssetRoot replacement
  let replacementBytes ← run (orError (m.format.toVecPretty replacement) .serde)
  let prior ← m.priorAuthority
  let published ← m.publishReplacement replacement (.forBytes replacementBytes) prior
    "atomic GPU checkpoint publication changed the replacement save"
  pure (.published published)

/-- `publish_sleep_transaction_journal`. -/
def publishSleepTransactionJournal (base : GpuLoadedSaveManifest Rest)
    (journal : GpuSleepTransactionJournalV2) : Publishing (Outcome Rest) := do
  run (ofContract journal.validate)
  let disposition ← run (m.anchorDisposition journal base.save
    (.core .consolidationGenerationMismatch))
  run (refuse (disposition ≠ .current) (.core .consolidationGenerationMismatch))
  let (actualDigest, actualAuthority) ← m.loadCurrentManifestIdentity
  run (refuse (actualDigest ≠ base.digest ∨ actualAuthority ≠ base.authority)
    (.gpuCheckpointManifestConflict base.digest.saveContent.text actualDigest.saveContent.text))
  let pointer ← m.prepareJournalAuthorityGeneration base journal
  let reopened ← m.commitReusedSaveAuthorityPointer base pointer
  run (refuse (reopened.authority.generation ≠ some pointer) (.invalidProductionFrontend
    "GPU checkpoint journal authority generation failed reopen validation"))
  pure (.published reopened)

end Compared

end GpuDurableSaveManifest

end ALife
