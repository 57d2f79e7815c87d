/-
# What a load sees

Loading only reads, so its result is a function of the files, `now m.load`.
`Artifacts` says that a pointer's two artifacts are there and belong together;
with a public file naming the pointer this is what `load` and
`load_sleep_transaction_journal` return (`load_of_artifacts`), it is what a load
that succeeded found (`artifacts_of_load`), and it survives every change that
keeps the artifacts (`Artifacts.keep`).
-/

import ALife.Checkpoint.Manifest

namespace ALife

open Machine Machine.Disk

namespace GpuDurableSaveManifest

variable {Rest : Type} {m : GpuDurableSaveManifest Rest} {files : Utf8 → Option Bytes}

instance : ReadsOnly maybeFailAuthorityStage :=
  inferInstanceAs (ReadsOnly (Disk.access : Publishing Unit))

instance (fileName : Utf8) (sizeBytes : UInt64) (digest : PortableAssetDigest)
    (message : String) : ReadsOnly (readArtifact fileName sizeBytes digest message) := by
  unfold readArtifact
  infer_instance

instance (save : PortableSaveFile Rest) : ReadsOnly (m.validateWithAssetRoot save) := by
  unfold validateWithAssetRoot
  infer_instance

instance (pointer : GpuCheckpointAuthorityPointerV1) :
    ReadsOnly (m.readAuthoritySave pointer) := by
  unfold readAuthoritySave
  infer_instance

instance (pointer : GpuCheckpointAuthorityPointerV1) (save : PortableSaveFile Rest) :
    ReadsOnly (m.readAuthorityJournal pointer save) := by
  unfold readAuthorityJournal
  infer_instance

instance (pointer : GpuCheckpointAuthorityPointerV1) : ReadsOnly (m.loadGeneration pointer) := by
  unfold loadGeneration
  infer_instance

instance (bytes : Bytes) : ReadsOnly (m.loadLegacy bytes) := by
  unfold loadLegacy
  infer_instance

/-- The part of `load` after the public file was read. -/
def loadAuthority (m : GpuDurableSaveManifest Rest) (bytes : Bytes) :
    Option GpuCheckpointAuthorityPointerV1 → Publishing (GpuLoadedSaveManifest Rest)
  | some pointer => m.loadGeneration pointer
  | none => m.loadLegacy bytes

theorem load_eq : m.load = (do
    let bytes ← Disk.read m.saveName
    let authority ← run (m.readAuthorityField bytes)
    m.loadAuthority bytes authority) := rfl

instance (bytes : Bytes) (authority : Option GpuCheckpointAuthorityPointerV1) :
    ReadsOnly (m.loadAuthority bytes authority) := by
  cases authority <;> unfold loadAuthority <;> infer_instance

instance : ReadsOnly m.load := by
  rw [load_eq]
  infer_instance

/-- The part of `load_current_manifest_identity` after the public file was read. -/
def currentIdentity (bytes : Bytes) : Option GpuCheckpointAuthorityPointerV1 →
    Publishing (GpuSaveManifestDigest × GpuCheckpointAuthoritySource)
  | some pointer => do
    run pointer.validate
    pure (⟨pointer.save.digest, some pointer.authorityDigest⟩, .generationV1 pointer)
  | none => pure (.forBytes bytes, .legacyDirectV1)

theorem loadCurrentManifestIdentity_eq : m.loadCurrentManifestIdentity = (do
    let bytes ← Disk.read m.saveName
    let authority ← run (m.readAuthorityField bytes)
    currentIdentity bytes authority) := rfl

instance (bytes : Bytes) (authority : Option GpuCheckpointAuthorityPointerV1) :
    ReadsOnly (currentIdentity bytes authority) := by
  cases authority <;> unfold currentIdentity <;> infer_instance

instance : ReadsOnly m.loadCurrentManifestIdentity := by
  rw [loadCurrentManifestIdentity_eq]
  infer_instance

instance (base : GpuLoadedSaveManifest Rest) : ReadsOnly (m.readSleepTransactionJournal base) := by
  obtain ⟨save, digest, authority⟩ := base
  cases authority <;> unfold readSleepTransactionJournal <;> infer_instance

instance (base : GpuLoadedSaveManifest Rest) (found : Option GpuSleepTransactionJournalV2) :
    ReadsOnly (m.settleSleepTransactionJournal base found) := by
  cases found <;> unfold settleSleepTransactionJournal <;> infer_instance

instance (base : GpuLoadedSaveManifest Rest) : ReadsOnly (m.loadSleepTransactionJournal base) := by
  unfold loadSleepTransactionJournal
  infer_instance

/-! ### Success of the reads -/

theorem authorityArtifactPath_eq_ok_iff {fileName path : Utf8} :
    authorityArtifactPath fileName = .ok path ↔
      validAuthorityArtifactFileName fileName = true ∧ path = fileName := by
  unfold authorityArtifactPath
  simp only [runtime_bind_eq_ok_iff, refuse_eq_ok_iff, Bool.not_eq_false, exists_const]
  exact and_congr_right fun _ => ⟨fun h => (Except.ok.inj h).symm, fun h => by rw [h]; rfl⟩

theorem now_readArtifact_eq_ok_iff {fileName : Utf8} {sizeBytes : UInt64}
    {digest : PortableAssetDigest} {message : String} {bytes : Bytes} :
    now (readArtifact fileName sizeBytes digest message) files = .ok bytes ↔
      validAuthorityArtifactFileName fileName = true ∧ files fileName = some bytes ∧
        lenU64 bytes.length = sizeBytes ∧ .forBytes bytes = digest := by
  unfold readArtifact
  simp only [now_bind_eq_ok_iff, now_ofResult, now_read_eq_ok_iff, now_pure,
    authorityArtifactPath_eq_ok_iff, refuse_eq_ok_iff]
  constructor
  · rintro ⟨_, ⟨hvalid, rfl⟩, bytes', hread, _, hcheck, hbytes⟩
    cases hbytes
    push Not at hcheck
    exact ⟨hvalid, hread, hcheck⟩
  · rintro ⟨hvalid, hread, hsize, hdigest⟩
    exact ⟨fileName, ⟨hvalid, rfl⟩, bytes, hread, (), by simp [hsize, hdigest], rfl⟩

theorem now_validateWithAssetRoot_eq_ok_iff {save : PortableSaveFile Rest} {u : Unit} :
    now (m.validateWithAssetRoot save) files = .ok u ↔
      m.format.validateWithAssetRoot save = true := by
  unfold validateWithAssetRoot
  simp [refuse_eq_ok_iff]

theorem now_readAuthoritySave_eq_ok_iff {pointer : GpuCheckpointAuthorityPointerV1}
    {save : PortableSaveFile Rest} :
    now (m.readAuthoritySave pointer) files = .ok save ↔
      ∃ bytes, (validAuthorityArtifactFileName pointer.save.fileName = true ∧
          files pointer.save.fileName = some bytes ∧
          lenU64 bytes.length = pointer.save.sizeBytes ∧ .forBytes bytes = pointer.save.digest) ∧
        m.format.fromJsonStr bytes = some save ∧ save.schema = pointer.save.saveSchema ∧
        save.schemaVersion = pointer.save.saveSchemaVersion ∧
        m.format.validateWithAssetRoot save = true := by
  unfold readAuthoritySave
  simp only [now_bind_eq_ok_iff, now_ofResult, now_pure, now_readArtifact_eq_ok_iff,
    orError_eq_ok_iff, refuse_eq_ok_iff, now_validateWithAssetRoot_eq_ok_iff]
  constructor
  · rintro ⟨bytes, hread, save', hsave, _, hschema, _, hassets, h⟩
    cases h
    push Not at hschema
    exact ⟨bytes, hread, hsave, hschema.1, hschema.2, hassets⟩
  · rintro ⟨bytes, hread, hsave, hschema, hversion, hassets⟩
    exact ⟨bytes, hread, save, hsave, (), by simp [hschema, hversion], (), hassets, rfl⟩

theorem now_readAuthorityJournal_eq_ok_iff {pointer : GpuCheckpointAuthorityPointerV1}
    {save : PortableSaveFile Rest} {journal : GpuSleepTransactionJournalV2} :
    now (m.readAuthorityJournal pointer save) files = .ok journal ↔
      pointer.validate = .ok () ∧
      ∃ bytes, (validAuthorityArtifactFileName pointer.journal.fileName = true ∧
          files pointer.journal.fileName = some bytes ∧
          lenU64 bytes.length = pointer.journal.sizeBytes ∧
          .forBytes bytes = pointer.journal.digest) ∧
        m.format.journalFromSlice bytes = some journal ∧ journal.validate = .ok () ∧
        m.anchorDisposition journal save .serde = .ok .current := by
  unfold readAuthorityJournal
  simp only [now_bind_eq_ok_iff, now_ofResult, now_pure, now_readArtifact_eq_ok_iff,
    orError_eq_ok_iff, refuse_eq_ok_iff, ofContract_eq_ok_iff]
  constructor
  · rintro ⟨_, hpointer, bytes, hread, journal', hjournal, _, hvalid, disposition, hanchor, _,
      hcurrent, h⟩
    cases h
    rw [not_not] at hcurrent
    rw [hcurrent] at hanchor
    exact ⟨hpointer, bytes, hread, hjournal, hvalid, hanchor⟩
  · rintro ⟨hpointer, bytes, hread, hjournal, hvalid, hanchor⟩
    exact ⟨(), hpointer, bytes, hread, journal, hjournal, (), hvalid, .current, hanchor, (),
      by simp, rfl⟩

/-- The error of a failed anchor does not matter to its success. -/
theorem anchorDisposition_eq_ok_iff {journal : GpuSleepTransactionJournalV2}
    {save : PortableSaveFile Rest} {e : GpuRuntimeError} {d : SleepJournalAnchorDisposition} :
    m.anchorDisposition journal save e = .ok d ↔
      ∃ states bytes, exactBaseSleepStates save.creatures = .ok states ∧
        m.format.toVecPretty save = some bytes ∧
        validateJournalAgainstExactBase journal (.forBytes bytes) save.worldTick states =
          .ok d := by
  unfold anchorDisposition exactSaveAnchorDigest
  simp only [runtime_bind_eq_ok_iff, ofContract_eq_ok_iff, orError_eq_ok_iff, pure, Except.pure,
    Except.ok.injEq]
  constructor
  · rintro ⟨states, hstates, _, ⟨bytes, hbytes, rfl⟩, h⟩
    exact ⟨states, bytes, hstates, hbytes, h⟩
  · rintro ⟨states, bytes, hstates, hbytes, h⟩
    exact ⟨states, hstates, _, ⟨bytes, hbytes, rfl⟩, h⟩

/-! ### A pointer and its artifacts -/

/-- A valid pointer whose artifacts are there: a save that names the pointer's
assets, and a journal anchored to it. -/
structure Artifacts (m : GpuDurableSaveManifest Rest) (files : Utf8 → Option Bytes)
    (pointer : GpuCheckpointAuthorityPointerV1) (save : PortableSaveFile Rest)
    (journal : GpuSleepTransactionJournalV2) : Prop where
  valid : pointer.validate = .ok ()
  readSave : now (m.readAuthoritySave pointer) files = .ok save
  identity : m.assetManifestIdentity save = .ok pointer.assetManifestIdentity
  readJournal : now (m.readAuthorityJournal pointer save) files = .ok journal

/-- What `load` returns for a pointer and its save. -/
def loadedOf (pointer : GpuCheckpointAuthorityPointerV1) (save : PortableSaveFile Rest) :
    GpuLoadedSaveManifest Rest :=
  ⟨save, ⟨pointer.save.digest, some pointer.authorityDigest⟩, .generationV1 pointer⟩

/-- The public file names an authority. -/
def NamesAuthority (m : GpuDurableSaveManifest Rest) (files : Utf8 → Option Bytes)
    (authority : Option GpuCheckpointAuthorityPointerV1) : Prop :=
  ∃ bytes, files m.saveName = some bytes ∧ m.format.authorityField bytes = some authority

theorem NamesAuthority.unique {a b : Option GpuCheckpointAuthorityPointerV1}
    (ha : m.NamesAuthority files a) (hb : m.NamesAuthority files b) : a = b := by
  obtain ⟨bytes, hbytes, ha⟩ := ha
  obtain ⟨bytes', hbytes', hb⟩ := hb
  rw [hbytes] at hbytes'
  cases hbytes'
  rw [ha] at hb
  exact Option.some.inj hb

variable {pointer : GpuCheckpointAuthorityPointerV1} {save : PortableSaveFile Rest}
  {journal : GpuSleepTransactionJournalV2}

theorem now_loadGeneration_eq_ok_iff {loaded : GpuLoadedSaveManifest Rest} :
    now (m.loadGeneration pointer) files = .ok loaded ↔
      ∃ save journal, m.Artifacts files pointer save journal ∧ loaded = loadedOf pointer save := by
  unfold loadGeneration
  simp only [now_bind_eq_ok_iff, now_ofResult, now_pure, refuse_eq_ok_iff]
  constructor
  · rintro ⟨_, hvalid, save, hsave, identity, hidentity, _, hsame, journal, hjournal, h⟩
    cases h
    rw [not_not] at hsame
    exact ⟨save, journal, ⟨hvalid, hsave, by rw [hidentity, hsame], hjournal⟩, rfl⟩
  · rintro ⟨save, journal, h, rfl⟩
    exact ⟨(), h.valid, save, h.readSave, _, h.identity, (), not_not.2 rfl, journal,
      h.readJournal, rfl⟩

/-- A load of a public file that names a pointer returns its artifacts. -/
theorem load_of_artifacts (h : m.Artifacts files pointer save journal)
    (hnames : m.NamesAuthority files (some pointer)) :
    now m.load files = .ok (loadedOf pointer save) := by
  obtain ⟨bytes, hbytes, hfield⟩ := hnames
  rw [load_eq]
  simp only [now_bind_eq_ok_iff, now_ofResult, now_read_eq_ok_iff, readAuthorityField,
    orError_eq_ok_iff]
  exact ⟨bytes, hbytes, some pointer, hfield,
    now_loadGeneration_eq_ok_iff.2 ⟨save, journal, h, rfl⟩⟩

/-- A load that succeeded found the artifacts, or a legacy save. -/
theorem artifacts_of_load {loaded : GpuLoadedSaveManifest Rest}
    (h : now m.load files = .ok loaded) :
    (loaded.authority = .legacyDirectV1 ∧ m.NamesAuthority files none) ∨
      ∃ pointer save journal, m.Artifacts files pointer save journal ∧
        m.NamesAuthority files (some pointer) ∧ loaded = loadedOf pointer save := by
  rw [load_eq] at h
  simp only [now_bind_eq_ok_iff, now_ofResult, now_read_eq_ok_iff, readAuthorityField,
    orError_eq_ok_iff] at h
  obtain ⟨bytes, hbytes, authority, hfield, h⟩ := h
  cases authority with
  | some pointer =>
    obtain ⟨save, journal, hartifacts, rfl⟩ := now_loadGeneration_eq_ok_iff.1 h
    exact .inr ⟨pointer, save, journal, hartifacts, ⟨bytes, hbytes, hfield⟩, rfl⟩
  | none =>
    unfold loadAuthority loadLegacy at h
    simp only [now_bind_eq_ok_iff, now_ofResult, now_pure] at h
    obtain ⟨save, -, _, -, h⟩ := h
    cases h
    exact .inl ⟨rfl, bytes, hbytes, hfield⟩

/-- The journal of a loaded generation is its artifact. -/
theorem loadJournal_of_artifacts (h : m.Artifacts files pointer save journal) :
    now (m.loadSleepTransactionJournal (loadedOf pointer save)) files = .ok journal := by
  obtain ⟨-, _, -, -, hvalid, hanchor⟩ := now_readAuthorityJournal_eq_ok_iff.1 h.readJournal
  have hcurrent : m.anchorDisposition journal save (.core .consolidationGenerationMismatch) =
      .ok .current :=
    anchorDisposition_eq_ok_iff.2 (anchorDisposition_eq_ok_iff.1 hanchor)
  unfold loadSleepTransactionJournal readSleepTransactionJournal loadedOf
  simp only [now_bind_eq_ok_iff, now_pure]
  refine ⟨some journal, ⟨journal, h.readJournal, rfl⟩, ?_⟩
  unfold settleSleepTransactionJournal
  simp only [now_bind_eq_ok_iff, now_ofResult, ofContract_eq_ok_iff]
  exact ⟨(), hvalid, .current, hcurrent, if_pos rfl⟩

/-- Artifacts are what the files at their two names say. -/
theorem Artifacts.congr {files' : Utf8 → Option Bytes}
    (h : m.Artifacts files pointer save journal)
    (hsave : files' pointer.save.fileName = files pointer.save.fileName)
    (hjournal : files' pointer.journal.fileName = files pointer.journal.fileName) :
    m.Artifacts files' pointer save journal where
  valid := h.valid
  readSave := by
    rw [now_readAuthoritySave_eq_ok_iff, hsave]
    exact now_readAuthoritySave_eq_ok_iff.1 h.readSave
  identity := h.identity
  readJournal := by
    rw [now_readAuthorityJournal_eq_ok_iff, hjournal]
    exact now_readAuthorityJournal_eq_ok_iff.1 h.readJournal

theorem Artifacts.save_isSome (h : m.Artifacts files pointer save journal) :
    (files pointer.save.fileName).isSome = true := by
  obtain ⟨bytes, ⟨-, hbytes, -⟩, -⟩ := now_readAuthoritySave_eq_ok_iff.1 h.readSave
  rw [hbytes]
  rfl

theorem Artifacts.journal_isSome (h : m.Artifacts files pointer save journal) :
    (files pointer.journal.fileName).isSome = true := by
  obtain ⟨-, bytes, ⟨-, hbytes, -⟩, -⟩ := now_readAuthorityJournal_eq_ok_iff.1 h.readJournal
  rw [hbytes]
  rfl

/-- Artifacts outlive everything that leaves their files alone. -/
theorem Artifacts.keep {fixed : Utf8 → Prop} {files' : Utf8 → Option Bytes}
    (h : m.Artifacts files pointer save journal) (hkeep : AddsBut m.saveName fixed files files')
    (hsave : pointer.save.fileName ≠ m.saveName)
    (hjournal : pointer.journal.fileName ≠ m.saveName) :
    m.Artifacts files' pointer save journal :=
  h.congr (hkeep _ hsave (.inr h.save_isSome)) (hkeep _ hjournal (.inr h.journal_isSome))

/-- The names that are read without having been written as an artifact. -/
def Reserved (m : GpuDurableSaveManifest Rest) (name : Utf8) : Prop :=
  name = m.saveName ∨ name = m.sleepJournalName

/-- A directory in which a public file that names an authority loads, and names a
save artifact that is a file of its own. -/
def Consistent (m : GpuDurableSaveManifest Rest) (files : Utf8 → Option Bytes) : Prop :=
  ∀ pointer, m.NamesAuthority files (some pointer) →
    ¬m.Reserved pointer.save.fileName ∧ ∃ loaded, now m.load files = .ok loaded

theorem now_loadLegacy (bytes : Bytes) (files files' : Utf8 → Option Bytes) :
    now (m.loadLegacy bytes) files = now (m.loadLegacy bytes) files' := by
  unfold loadLegacy validateWithAssetRoot
  simp only [now_bind, now_ofResult, now_access, now_pure]

/-- New files do not change what a consistent directory loads. -/
theorem load_of_adds {fixed : Utf8 → Prop} {files' : Utf8 → Option Bytes}
    (hconsistent : m.Consistent files) (hfixed : fixed m.saveName)
    (h : Adds fixed files files') : now m.load files' = now m.load files := by
  have hsame := h m.saveName (.inl hfixed)
  by_cases hnames : ∃ pointer, m.NamesAuthority files (some pointer)
  · obtain ⟨pointer, hnames⟩ := hnames
    obtain ⟨-, loaded, hload⟩ := hconsistent pointer hnames
    rcases artifacts_of_load hload with ⟨-, hlegacy⟩ | ⟨pointer', save, journal, hart, hnames', rfl⟩
    · exact absurd (hlegacy.unique hnames) (by simp)
    · obtain ⟨bytes, hbytes, hfield⟩ := hnames'
      rw [hload]
      refine load_of_artifacts (hart.congr (h _ (.inr hart.save_isSome))
        (h _ (.inr hart.journal_isSome))) ⟨bytes, by rw [hsame, hbytes], hfield⟩
  · rw [load_eq, now_bind, now_bind, now_read, now_read, hsame]
    cases hbytes : files m.saveName with
    | none => rfl
    | some bytes =>
      change now _ files' = now _ files
      rw [now_bind, now_bind, now_ofResult, now_ofResult]
      unfold readAuthorityField
      cases hfield : m.format.authorityField bytes with
      | none => rfl
      | some authority =>
        cases authority with
        | none => exact now_loadLegacy bytes files' files
        | some pointer => exact absurd ⟨pointer, bytes, hbytes, hfield⟩ hnames

/-- The public file, what it loads and the journal are as before. -/
structure SamePair (m : GpuDurableSaveManifest Rest) (files files' : Utf8 → Option Bytes) :
    Prop where
  publicFile : files' m.saveName = files m.saveName
  load : now m.load files' = now m.load files
  journal : ∀ loaded, now m.load files = .ok loaded →
    now (m.loadSleepTransactionJournal loaded) files' =
      now (m.loadSleepTransactionJournal loaded) files

theorem loadJournal_legacy_of_eq {files' : Utf8 → Option Bytes} {loaded : GpuLoadedSaveManifest Rest}
    (hlegacy : loaded.authority = .legacyDirectV1)
    (h : files' m.sleepJournalName = files m.sleepJournalName) :
    now (m.loadSleepTransactionJournal loaded) files' =
      now (m.loadSleepTransactionJournal loaded) files := by
  have hsettle (found : Option GpuSleepTransactionJournalV2) :
      now (m.settleSleepTransactionJournal loaded found) files' =
        now (m.settleSleepTransactionJournal loaded found) files := by
    cases found <;> unfold settleSleepTransactionJournal <;>
      simp only [now_bind, now_ofResult]
  unfold loadSleepTransactionJournal
  rw [now_bind, now_bind]
  have hread : now (m.readSleepTransactionJournal loaded) files' =
      now (m.readSleepTransactionJournal loaded) files := by
    obtain ⟨save, digest, authority⟩ := loaded
    obtain rfl : authority = .legacyDirectV1 := hlegacy
    unfold readSleepTransactionJournal
    simp only [now_bind, now_pathExists, h]
    change now (if (files m.sleepJournalName).isSome = true then _ else _) _ =
      now (if (files m.sleepJournalName).isSome = true then _ else _) _
    split_ifs
    · simp only [now_bind, now_read, h, now_ofResult, now_pure]
    · rfl
  rw [hread]
  simp only [hsettle]

/-- New files change neither the save nor the journal of a consistent directory. -/
theorem samePair_of_adds {fixed : Utf8 → Prop} {files' : Utf8 → Option Bytes}
    (hconsistent : m.Consistent files) (hsave : fixed m.saveName)
    (hjournal : fixed m.sleepJournalName) (h : Adds fixed files files') :
    m.SamePair files files' where
  publicFile := h _ (.inl hsave)
  load := load_of_adds hconsistent hsave h
  journal loaded hload := by
    rcases artifacts_of_load hload with ⟨hlegacy, -⟩ | ⟨pointer, save, journal, hart, -, rfl⟩
    · exact loadJournal_legacy_of_eq hlegacy (h _ (.inl hjournal))
    · rw [loadJournal_of_artifacts hart, loadJournal_of_artifacts (hart.congr
        (h _ (.inr hart.save_isSome)) (h _ (.inr hart.journal_isSome)))]

end GpuDurableSaveManifest

end ALife
