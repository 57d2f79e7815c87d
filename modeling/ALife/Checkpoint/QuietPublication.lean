/-
# Publishing a journal when no step fails

Over a quiet directory `publish_sleep_transaction_journal` with a journal that is
current for its base fails for three reasons only: the base is a legacy save, the
name of the journal artifact cannot be used, or another file has the name of the
temporary public file.
-/

import ALife.Checkpoint.PublicationRuns

namespace ALife

open Machine Machine.Disk

section Artifact

variable {d : Disk Utf8} {path : Utf8} {bytes : Bytes}

/-- An artifact may have the name: no file has it, or one with the same bytes. -/
def Unused (files : Utf8 → Option Bytes) (path : Utf8) (bytes : Bytes) : Prop :=
  files path = none ∨ files path = some bytes

theorem ends_makeImmutable_quiet (hd : d.Quiet) :
    Ends (makeImmutableAuthorityArtifact path bytes) d
      (fun _ t => Unused d.files path bytes ∧
        Sets (Function.update d.files path (some bytes)) d t)
      (fun _ _ => ¬Unused d.files path bytes) := by
  unfold makeImmutableAuthorityArtifact
  refine (ends_createNew_quiet hd path).attempt_bind (fun _ t ht => ?_) fun e t ht => ?_
  · obtain ⟨hnew, ht⟩ := ht
    have hwritten : Ends (do
        Disk.write path bytes
        Disk.access
        Disk.access : IoBody Unit) t
        (fun _ => Sets (Function.update d.files path (some bytes)) d) (fun _ _ => False) := by
      refine (ends_write_quiet (ht.quiet hd) path bytes).bind fun _ u hu => ?_
      have hu : Sets (Function.update d.files path (some bytes)) d u := by
        rw [ht.files, Function.update_idem] at hu
        exact ht.trans hu
      refine (ends_access_quiet (hu.quiet hd)).bind fun _ v hv => ?_
      have hv : Sets (Function.update d.files path (some bytes)) d v := by
        rw [← hu.files]
        exact hu.trans hv.sets
      refine (ends_access_quiet (hv.quiet hd)).mono (fun _ w hw => ?_) fun _ _ h => h
      rw [← hv.files]
      exact hv.trans hw.sets
    exact hwritten.attempt_bind (fun _ u hu => ends_pure ⟨.inl hnew, hu⟩) fun _ _ h => h.elim
  · obtain ⟨rfl, hsome, ht⟩ := ht
    obtain ⟨found, hfound⟩ := Option.isSome_iff_exists.1 hsome
    change Ends (do
      let found ← Disk.read path
      run (refuse (found ≠ bytes) (.invalidProductionFrontend
        "GPU checkpoint immutable authority artifact conflicts"))) t _ _
    refine ends_reads_quiet (ht.sets.quiet hd) (fun e u he _ => ?_) fun found' u hread hu => ?_
    · rw [now_read, ht.files, hfound] at he
      cases he
    · rw [now_read_eq_ok_iff, ht.files, hfound] at hread
      obtain rfl := Option.some.inj hread
      have hunused : Unused d.files path bytes ↔ found = bytes := by simp [Unused, hfound]
      refine ends_ofResult (fun _ h => ?_) fun e h => ?_
      · rw [refuse_eq_ok_iff, not_not] at h
        refine ⟨hunused.2 h, ?_⟩
        rw [← h, ← hfound, Function.update_eq_self]
        exact (ht.trans hu).sets
      · rw [hunused]
        rintro rfl
        rw [refuse, if_neg (not_not.2 rfl)] at h
        cases h

theorem ends_writeImmutable_quiet (hd : d.Quiet) :
    Ends (writeImmutableAuthorityArtifact path bytes) d
      (fun _ t => Unused d.files path bytes ∧
        Sets (Function.update d.files path (some bytes)) d t)
      (fun _ _ => ¬Unused d.files path bytes) := by
  unfold writeImmutableAuthorityArtifact
  refine (ends_makeImmutable_quiet hd).bind fun _ t ht => ?_
  obtain ⟨hunused, ht⟩ := ht
  have hthere : t.files path = some bytes := by rw [ht.files, Function.update_self]
  refine ends_reads_quiet (ht.quiet hd) (fun e u he _ => ?_) fun found u hread hu => ?_
  · rw [now_read, hthere] at he
    cases he
  · rw [now_read_eq_ok_iff, hthere] at hread
    obtain rfl := Option.some.inj hread
    refine ends_ofResult (fun _ _ => ⟨hunused, ?_⟩) fun e h => ?_
    · rw [← ht.files]
      exact ht.trans hu.sets
    · rw [refuse, if_neg (not_not.2 rfl)] at h
      cases h

end Artifact

namespace GpuCheckpointAuthorityPointerV1

/-- What `validate` checks besides the digest. -/
def FieldsValid (p : GpuCheckpointAuthorityPointerV1) : Prop :=
  ¬(p.schema ≠ schemaName ∨ p.schemaVersion ≠ 1 ∨ p.generation = 0
    ∨ p.priorIsValid = false ∨ p.save.sizeBytes = 0 ∨ p.save.saveSchema = []
    ∨ p.save.saveSchemaVersion = 0 ∨ validAuthorityArtifactFileName p.save.fileName = false
    ∨ p.journal.sizeBytes = 0
    ∨ p.journal.journalSchemaVersion ≠ gpuSleepTransactionJournalSchemaVersion
    ∨ validAuthorityArtifactFileName p.journal.fileName = false)

theorem validate_eq_ok_iff {p : GpuCheckpointAuthorityPointerV1} :
    p.validate = .ok () ↔ p.assetManifestIdentity.formatIsValid = true ∧
      p.save.digest.formatIsValid = true ∧ p.journal.digest.formatIsValid = true ∧
      p.FieldsValid ∧ p.authorityDigest = p.recomputeDigest := by
  unfold validate FieldsValid
  simp only [runtime_bind_eq_ok_iff, refuse_eq_ok_iff, Bool.not_eq_false, exists_const]
  constructor
  · rintro ⟨hidentity, hsave, hjournal, hfields⟩
    push Not at hfields ⊢
    exact ⟨hidentity, hsave, hjournal, by tauto, by tauto⟩
  · rintro ⟨hidentity, hsave, hjournal, hfields, hdigest⟩
    push Not at hfields ⊢
    exact ⟨hidentity, hsave, hjournal, by tauto⟩

/-- The digest does not read itself. -/
theorem recomputeDigest_with (p : GpuCheckpointAuthorityPointerV1) (d : Digest256) :
    ({ p with authorityDigest := d } : GpuCheckpointAuthorityPointerV1).recomputeDigest =
      p.recomputeDigest := by
  unfold recomputeDigest
  rfl

/-- The pointer with its own digest. -/
def withDigest (p : GpuCheckpointAuthorityPointerV1) : GpuCheckpointAuthorityPointerV1 :=
  { p with authorityDigest := p.recomputeDigest }

/-- A pointer that was given its digest is valid when its fields are. -/
theorem validate_withDigest {p : GpuCheckpointAuthorityPointerV1}
    (hidentity : p.assetManifestIdentity.formatIsValid = true)
    (hsave : p.save.digest.formatIsValid = true) (hjournal : p.journal.digest.formatIsValid = true)
    (hfields : p.FieldsValid) : p.withDigest.validate = .ok () := by
  unfold withDigest
  -- the digest is named, or unification would compute it
  generalize hd : p.recomputeDigest = d
  have hsealed : ({ p with authorityDigest := d } :
      GpuCheckpointAuthorityPointerV1).FieldsValid := by
    simpa only [FieldsValid, priorIsValid] using hfields
  refine validate_eq_ok_iff.2 ⟨hidentity, hsave, hjournal, hsealed, ?_⟩
  rw [recomputeDigest_with]
  exact hd.symm

/-- A journal artifact over a valid pointer makes a valid pointer. -/
theorem tryNew_next {prior : GpuCheckpointAuthorityPointerV1} {generation : UInt64}
    {journal : GpuCheckpointAuthorityJournalArtifactV1} (hprior : prior.validate = .ok ())
    (hgeneration : checkedAdd64 prior.generation 1 = some generation)
    (hdigest : journal.digest.formatIsValid = true) (hsize : journal.sizeBytes ≠ 0)
    (hversion : journal.journalSchemaVersion = gpuSleepTransactionJournalSchemaVersion)
    (hname : validAuthorityArtifactFileName journal.fileName = true) :
    ∃ p, tryNew generation (some prior) prior.assetManifestIdentity prior.save journal =
      .ok p := by
  obtain ⟨hidentity, hsave, -, hfields, -⟩ := validate_eq_ok_iff.1 hprior
  unfold FieldsValid at hfields
  push Not at hfields
  obtain ⟨-, -, hzero, -, hsaveSize, hschema, hsaveVersion, hsaveName, -⟩ := hfields
  have hnat : generation.toNat = prior.generation.toNat + 1 := checkedAdd64_eq_some_iff.1 hgeneration
  have hpos : prior.generation.toNat ≠ 0 := fun h => hzero (UInt64.toNat_inj.1 h)
  have hne : generation ≠ 1 := by
    rintro rfl
    have hone : (1 : UInt64).toNat = 1 := rfl
    omega
  have hgenerationZero : generation ≠ 0 := by
    rintro rfl
    have hz : (0 : UInt64).toNat = 0 := rfl
    omega
  have hback : generation - 1 = prior.generation := by
    have hone : (1 : UInt64).toNat = 1 := rfl
    have hle : (1 : UInt64) ≤ generation := by
      rw [UInt64.le_iff_toNat_le]
      omega
    apply UInt64.toNat_inj.1
    rw [UInt64.toNat_sub_of_le _ _ hle]
    omega
  have hpriorIsValid (p : GpuCheckpointAuthorityPointerV1) (hp : p.generation = generation)
      (hg : p.priorGeneration = some prior.generation)
      (ha : p.priorAuthorityDigest = some prior.authorityDigest) : p.priorIsValid ≠ false := by
    rw [priorIsValid, hp, if_neg hne, hg, ha, hback]
    simp
  let p : GpuCheckpointAuthorityPointerV1 :=
    { schema := schemaName, schemaVersion := 1, generation
      priorGeneration := some prior.generation, priorAuthorityDigest := some prior.authorityDigest
      assetManifestIdentity := prior.assetManifestIdentity, save := prior.save, journal
      authorityDigest := .zero }
  have hnew : tryNew generation (some prior) prior.assetManifestIdentity prior.save journal = (do
      p.withDigest.validate
      pure p.withDigest) := rfl
  rw [hnew]
  have hvalid : p.withDigest.validate = .ok () := validate_withDigest hidentity hsave hdigest ?_
  · exact ⟨p.withDigest, runtime_bind_eq_ok_iff.2 ⟨(), hvalid, rfl⟩⟩
  unfold FieldsValid
  push Not
  refine ⟨rfl, rfl, hgenerationZero, hpriorIsValid _ rfl rfl rfl, hsaveSize, hschema,
    hsaveVersion, hsaveName, hsize, hversion, ?_⟩
  rw [hname]
  simp

end GpuCheckpointAuthorityPointerV1

theorem valid_of_authorityArtifactFileName {saveName kind name : Utf8} {generation : UInt64}
    {digest : PortableAssetDigest}
    (h : authorityArtifactFileName saveName generation kind digest = .ok name) :
    validAuthorityArtifactFileName name = true := by
  unfold authorityArtifactFileName at h
  obtain ⟨_, -, h⟩ := runtime_bind_eq_ok_iff.1 h
  obtain ⟨_, hvalid, h⟩ := runtime_bind_eq_ok_iff.1 h
  rw [refuse_eq_ok_iff, Bool.not_eq_false] at hvalid
  rw [← Except.ok.inj h]
  exact hvalid

theorem lenU64_ne_zero {bytes : Bytes} (h : bytes ≠ []) : lenU64 bytes.length ≠ 0 := by
  have hpos : 0 < bytes.length := List.length_pos_iff.2 h
  unfold lenU64
  split_ifs with hlt
  · intro hzero
    have hnat := congrArg UInt64.toNat hzero
    rw [Nat.toUInt64, UInt64.toNat_ofNat_of_lt' hlt] at hnat
    have hz : (0 : UInt64).toNat = 0 := rfl
    omega
  · decide

namespace GpuDurableSaveManifest

variable {Rest : Type} {m : GpuDurableSaveManifest Rest} {d : Disk Utf8}

/-- The pointer under which a journal over a generation is published. -/
def nextPointer (m : GpuDurableSaveManifest Rest) (base : GpuLoadedSaveManifest Rest)
    (journal : GpuSleepTransactionJournalV2) : Runtime GpuCheckpointAuthorityPointerV1 := do
  let prior ← orError base.authority.generation (.core .consolidationGenerationMismatch)
  let generation ← nextGeneration (some prior)
  let bytes ← orError (m.format.journalToVecPretty journal) .serde
  let fileName ← authorityJournalFileName m.saveName generation (.forBytes bytes)
  GpuCheckpointAuthorityPointerV1.tryNew generation (some prior) prior.assetManifestIdentity
    prior.save ⟨fileName, .forBytes bytes, lenU64 bytes.length, gpuSleepTransactionJournalSchemaVersion⟩

/-- A journal's artifact can be named: the name is valid and unused. -/
def Nameable (m : GpuDurableSaveManifest Rest) (files : Utf8 → Option Bytes)
    (generation : UInt64) (bytes : Bytes) : Prop :=
  ∃ name, authorityJournalFileName m.saveName generation (.forBytes bytes) = .ok name ∧
    Unused files name bytes

theorem ends_prepareJournalArtifact_quiet (hd : d.Quiet) {journal : GpuSleepTransactionJournalV2}
    {bytes : Bytes} (hbytes : m.format.journalToVecPretty journal = some bytes)
    (generation : UInt64) :
    Ends (m.prepareJournalArtifact journal generation) d
      (fun artifact t => m.Nameable d.files generation bytes ∧
        authorityJournalFileName m.saveName generation (.forBytes bytes) = .ok artifact.fileName ∧
        artifact = ⟨artifact.fileName, .forBytes bytes, lenU64 bytes.length,
          gpuSleepTransactionJournalSchemaVersion⟩ ∧
        Sets (Function.update d.files artifact.fileName (some bytes)) d t)
      (fun _ _ => ¬m.Nameable d.files generation bytes) := by
  unfold prepareJournalArtifact
  refine ends_reads_quiet hd (fun e _ he _ => ?_) fun bytes' d₁ hencoded h₁ => ?_
  · rw [now_ofResult, hbytes] at he
    cases he
  rw [now_ofResult, orError_eq_ok_iff, hbytes] at hencoded
  obtain rfl := Option.some.inj hencoded
  refine ends_reads_quiet (h₁.quiet hd) (fun e _ he _ => ?_) fun fileName d₂ hname h₂ => ?_
  · rintro ⟨name, hname, -⟩
    rw [now_ofResult, hname] at he
    cases he
  have h₂ := h₁.trans h₂
  rw [now_ofResult] at hname
  have hvalid := valid_of_authorityArtifactFileName hname
  refine ends_reads_quiet (h₂.quiet hd) (fun e _ he _ => ?_) fun path d₃ hpath h₃ => ?_
  · rw [now_ofResult, authorityArtifactPath_eq_ok_iff.2 ⟨hvalid, rfl⟩] at he
    cases he
  have h₃ := h₂.trans h₃
  rw [now_ofResult] at hpath
  obtain ⟨-, rfl⟩ := authorityArtifactPath_eq_ok_iff.1 hpath
  have hnameable : m.Nameable d.files generation bytes ↔ Unused d.files path bytes := by
    refine ⟨?_, fun h => ⟨path, hname, h⟩⟩
    rintro ⟨name, hname', h⟩
    rw [hname] at hname'
    rwa [Except.ok.inj hname']
  have hwritten : Ends (writeImmutableAuthorityArtifact path bytes) d₃
      (fun _ t => Unused d₃.files path bytes ∧
        Sets (Function.update d₃.files path (some bytes)) d₃ t)
      (fun _ _ => ¬Unused d₃.files path bytes) := ends_writeImmutable_quiet (h₃.quiet hd)
  rw [h₃.files] at hwritten
  refine (hwritten.mono (fun _ _ h => h) fun _ _ h => mt hnameable.1 h).bind fun _ t ht => ?_
  have ht' := h₃.sets.trans ht.2
  refine ends_reads_quiet (ht'.quiet hd) (fun e _ he _ => ?_) fun _ u _ hu => ?_
  · cases he
  · refine ends_pure ⟨hnameable.2 ht.1, hname, rfl, ?_⟩
    rw [← ht'.files]
    exact ht'.trans hu.sets

theorem ends_prepareJournalAuthorityGeneration_quiet (hd : d.Quiet)
    {base : GpuLoadedSaveManifest Rest} {prior : GpuCheckpointAuthorityPointerV1}
    (hprior : base.authority.generation = some prior) (hvalid : prior.validate = .ok ())
    {generation : UInt64} (hgeneration : checkedAdd64 prior.generation 1 = some generation)
    {journal : GpuSleepTransactionJournalV2} {bytes : Bytes}
    (hbytes : m.format.journalToVecPretty journal = some bytes) (hnonempty : bytes ≠ []) :
    Ends (m.prepareJournalAuthorityGeneration base journal) d
      (fun pointer t => m.Nameable d.files generation bytes ∧
        m.nextPointer base journal = .ok pointer ∧
        ¬m.Reserved pointer.journal.fileName ∧
        Sets (Function.update d.files pointer.journal.fileName (some bytes)) d t)
      (fun _ _ => ¬m.Nameable d.files generation bytes) := by
  have hnext : nextGeneration (some prior) = .ok generation := orError_eq_ok_iff.2 hgeneration
  unfold prepareJournalAuthorityGeneration
  rw [hprior]
  dsimp only
  refine ends_reads_quiet hd (fun e _ he _ => ?_) fun generation' d₁ hnext' h₁ => ?_
  · rw [now_ofResult, hnext] at he
    cases he
  rw [now_ofResult, hnext] at hnext'
  obtain rfl := Except.ok.inj hnext'
  have hartifact := ends_prepareJournalArtifact_quiet (h₁.quiet hd) hbytes generation
  rw [h₁.files] at hartifact
  refine hartifact.bind fun artifact t ht => ?_
  obtain ⟨hnameable, hname, hfields, ht⟩ := ht
  have hdigest : artifact.digest.formatIsValid = true := by
    rw [hfields]
    exact PortableAssetDigest.formatIsValid_forBytes bytes
  have hsize : artifact.sizeBytes ≠ 0 := by
    rw [hfields]
    exact lenU64_ne_zero hnonempty
  have hversion : artifact.journalSchemaVersion = gpuSleepTransactionJournalSchemaVersion := by
    rw [hfields]
  obtain ⟨pointer, hpointer⟩ := GpuCheckpointAuthorityPointerV1.tryNew_next hvalid hgeneration
    hdigest hsize hversion (valid_of_authorityArtifactFileName hname)
  have hpublished : m.nextPointer base journal = .ok pointer := by
    unfold nextPointer
    simp only [runtime_bind_eq_ok_iff, orError_eq_ok_iff]
    refine ⟨prior, hprior, generation, hnext, bytes, hbytes, artifact.fileName, hname, ?_⟩
    rw [← hfields]
    exact hpointer
  refine ends_ofResult (fun pointer' h => ?_) fun e he => ?_
  · rw [hpointer] at h
    obtain rfl := Except.ok.inj h
    obtain ⟨-, -, -, -, -, hjournal⟩ := GpuCheckpointAuthorityPointerV1.of_tryNew hpointer
    rw [hjournal]
    exact ⟨hnameable, hpublished, artifactName_not_reserved (.inr rfl) hname, h₁.sets.trans ht⟩
  · rw [hpointer] at he
    cases he

theorem ends_prepareAtomicManifest_quiet (hd : d.Quiet) (bytes : Bytes) :
    Ends (m.prepareAtomicManifest bytes) d
      (fun temporary t => d.files (m.temporaryName d.counter) = none ∧
        t.files temporary = some bytes ∧ t.Quiet)
      (fun _ _ => d.files (m.temporaryName d.counter) ≠ none) := by
  unfold prepareAtomicManifest
  refine ((ends_nextCounter d).mono (fun _ _ h => h) fun _ _ h => h.elim).bind fun nonce t₀ h₀ => ?_
  obtain ⟨rfl, rfl⟩ := h₀
  have hd' : ({ d with counter := d.counter + 1 } : Disk Utf8).Quiet := hd
  refine ((ends_createNew_quiet hd' _).mono (fun _ _ h => h) fun e t h => ?_).bind fun _ t ht => ?_
  · obtain ⟨-, hsome, -⟩ := h
    exact Option.isSome_iff_ne_none.1 hsome
  · obtain ⟨hnew, ht⟩ := ht
    have hwritten : Ends (do
        Disk.write (m.temporaryName d.counter) bytes
        Disk.access : IoBody Unit) t
        (fun _ u => u.files (m.temporaryName d.counter) = some bytes ∧ u.Quiet)
        (fun _ _ => False) := by
      refine (ends_write_quiet (ht.quiet hd') _ bytes).bind fun _ u hu => ?_
      have huq := hu.quiet (ht.quiet hd')
      refine (ends_access_quiet huq).mono (fun _ v hv => ⟨?_, hv.quiet huq⟩) fun _ _ h => h
      rw [hv.files, hu.files, Function.update_self]
    exact hwritten.attempt_bind (fun _ u hu => ends_pure ⟨hnew, hu.1, hu.2⟩) fun _ _ h => h.elim

theorem ends_writeAtomicManifest_quiet (hd : d.Quiet) (bytes : Bytes) :
    Ends (m.writeAtomicManifest bytes) d
      (fun _ t => d.files (m.temporaryName d.counter) = none ∧ t.Quiet)
      (fun _ _ => d.files (m.temporaryName d.counter) ≠ none) := by
  unfold writeAtomicManifest
  refine (ends_prepareAtomicManifest_quiet hd bytes).bind fun temporary t ht => ?_
  obtain ⟨hnew, hbytes, hq⟩ := ht
  have hcommit : Ends (m.commitPreparedManifest temporary) t
      (fun _ u => u.files m.saveName = some bytes ∧ u.Quiet) (fun _ _ => False) := by
    refine (ends_rename_quiet hq hbytes m.saveName).bind fun _ u hu => ?_
    have huq := hu.quiet hq
    refine (ends_access_quiet huq).mono (fun _ v hv => ⟨?_, hv.quiet huq⟩) fun _ _ h => h
    rw [hv.files, hu.files, Function.update_self]
  refine hcommit.attempt_bind (fun _ u hu => ?_) fun _ _ h => h.elim
  refine ends_reads_quiet hu.2 (fun e v he _ => ?_) fun found v hfound hv => ?_
  · rw [now_read, hu.1] at he
    cases he
  · rw [now_read_eq_ok_iff, hu.1] at hfound
    obtain rfl := Option.some.inj hfound
    refine ends_ofResult (fun _ _ => ⟨hnew, hv.quiet hu.2⟩) fun e he => ?_
    rw [refuse, if_neg (not_not.2 rfl)] at he
    cases he

theorem ends_commit_quiet (hd : d.Quiet) {save : PortableSaveFile Rest}
    {pointer : GpuCheckpointAuthorityPointerV1} {encoded prior : Bytes}
    (hthere : d.files m.saveName = some prior)
    (hencoded : m.encodeAuthoritativeSave save pointer = .ok encoded) :
    Ends (m.commitPrevalidatedAuthorityPointer save pointer false) d
      (fun reopened _ => d.files (m.temporaryName d.counter) = none ∧
        reopened = loadedOf pointer save)
      (fun _ _ => d.files (m.temporaryName d.counter) ≠ none) := by
  have hprior : Ends m.readPriorPublicPointer d (fun _ => Same d) (fun _ _ => False) := by
    unfold readPriorPublicPointer
    have hread := (ReadsOnly.ends (x := (Disk.read m.saveName : IoBody Bytes)) d).and
      (ReadsOnly.quiet d hd)
    refine hread.attempt_bind (fun _ t ht => ends_pure ht.1.2) fun e t ht => ?_
    rw [now_read, hthere] at ht
    cases ht.2
  unfold commitPrevalidatedAuthorityPointer
  refine (hprior.mono (fun _ _ h => h) fun _ _ h => h.elim).bind fun _ d₁ h₁ => ?_
  refine ends_reads_quiet (h₁.quiet hd) (fun e _ he _ => ?_) fun _ d₂ _ h₂ => ?_
  · cases he
  have h₂ := h₁.trans h₂
  refine ends_reads_quiet (h₂.quiet hd) (fun e _ he _ => ?_) fun encoded' d₃ _ h₃ => ?_
  · rw [now_ofResult, hencoded] at he
    cases he
  have h₃ := h₂.trans h₃
  have hwritten := ends_writeAtomicManifest_quiet (m := m) (h₃.quiet hd) encoded'
  rw [h₃.files, h₃.counter] at hwritten
  refine hwritten.bind fun _ t ht => ?_
  obtain ⟨hnew, hq⟩ := ht
  have hreopen : Ends (m.reopen save pointer false) t (fun reopened _ =>
      reopened = loadedOf pointer save) (fun _ _ => False) := by
    unfold reopen
    refine (ends_access_quiet (ε := GpuRuntimeError) hq).bind fun _ u _ => ?_
    exact ends_pure rfl
  exact hreopen.attempt_bind (fun reopened u hu => ends_pure ⟨hnew, hu⟩) fun _ _ h => h.elim

theorem ends_commitReused_quiet (hd : d.Quiet) {base : GpuLoadedSaveManifest Rest}
    {pointer prior : GpuCheckpointAuthorityPointerV1} {journal : GpuSleepTransactionJournalV2}
    {encoded publicBytes : Bytes} (hprior : base.authority.generation = some prior)
    (hthere : d.files m.saveName = some publicBytes) (hvalid : pointer.validate = .ok ())
    (hgeneration : pointer.priorGeneration = some prior.generation)
    (hidentity : pointer.assetManifestIdentity = prior.assetManifestIdentity)
    (hsave : pointer.save = prior.save) (hart : m.Artifacts d.files prior base.save journal)
    (hencoded : m.encodeAuthoritativeSave base.save pointer = .ok encoded) :
    Ends (m.commitReusedSaveAuthorityPointer base pointer) d
      (fun reopened _ => d.files (m.temporaryName d.counter) = none ∧
        reopened = loadedOf pointer base.save)
      (fun _ _ => d.files (m.temporaryName d.counter) ≠ none) := by
  unfold commitReusedSaveAuthorityPointer
  refine ends_reads_quiet hd (fun e _ he _ => ?_) fun _ d₁ _ h₁ => ?_
  · rw [now_ofResult, hvalid] at he
    cases he
  refine ends_reads_quiet (h₁.quiet hd) (fun e _ he _ => ?_) fun prior' d₂ hprior' h₂ => ?_
  · rw [now_ofResult, hprior] at he
    cases he
  have h₂ := h₁.trans h₂
  rw [now_ofResult, orError_eq_ok_iff, hprior] at hprior'
  obtain rfl := Option.some.inj hprior'
  refine ends_reads_quiet (h₂.quiet hd) (fun e _ he _ => ?_) fun _ d₃ _ h₃ => ?_
  · rw [now_ofResult, refuse, if_neg (by simp [hgeneration, hidentity, hsave])] at he
    cases he
  have h₃ := h₂.trans h₃
  refine ends_reads_quiet (h₃.quiet hd) (fun e _ he _ => ?_) fun identity d₄ hassets h₄ => ?_
  · rw [now_ofResult, hart.identity] at he
    cases he
  have h₄ := h₃.trans h₄
  rw [now_ofResult, hart.identity] at hassets
  obtain rfl := Except.ok.inj hassets
  refine ends_reads_quiet (h₄.quiet hd) (fun e _ he _ => ?_) fun _ d₅ _ h₅ => ?_
  · rw [now_ofResult, refuse, if_neg (not_not.2 hidentity)] at he
    cases he
  have h₅ := h₄.trans h₅
  refine ends_reads_quiet (h₅.quiet hd) (fun e _ he _ => ?_) fun _ d₆ _ h₆ => ?_
  · obtain ⟨bytes, hread, -⟩ := now_readAuthoritySave_eq_ok_iff.1 hart.readSave
    rw [← hsave, ← h₅.files] at hread
    rw [now_readArtifact_eq_ok_iff.2 hread] at he
    cases he
  have h₆ := h₅.trans h₆
  have hcommit := ends_commit_quiet (h₆.quiet hd) (by rw [h₆.files]; exact hthere) hencoded
  rw [h₆.files, h₆.counter] at hcommit
  exact hcommit

/-- A journal artifact and a temporary file never have the same name. -/
theorem journalName_ne_temporaryName {generation : UInt64} {digest : PortableAssetDigest}
    {name : Utf8} (h : authorityJournalFileName m.saveName generation digest = .ok name)
    (nonce : UInt64) : name ≠ m.temporaryName nonce := by
  unfold authorityJournalFileName authorityArtifactFileName at h
  obtain ⟨_, -, h⟩ := runtime_bind_eq_ok_iff.1 h
  obtain ⟨_, -, h⟩ := runtime_bind_eq_ok_iff.1 h
  rw [← Except.ok.inj h]
  intro hname
  simp only [temporaryName, List.append_assoc, List.append_cancel_left_eq] at hname
  have hhead := congrArg (List.take 2) hname
  rw [show asciiBytes "sleep-journal-v2" = 115 :: asciiBytes "leep-journal-v2" from rfl,
    show asciiBytes ".gpu-cas-" = 46 :: 103 :: asciiBytes "pu-cas-" from rfl,
    show asciiBytes "." = [46] from rfl] at hhead
  simp only [List.cons_append, List.take_succ_cons, List.take_zero] at hhead
  cases hhead

/-- What a journal needs to be published over its base: a prior generation, a name
for its artifact, and a name for the temporary public file. -/
def JournalFits (m : GpuDurableSaveManifest Rest) (d : Disk Utf8)
    (base : GpuLoadedSaveManifest Rest) (bytes : Bytes) : Prop :=
  ∃ prior, base.authority = .generationV1 prior ∧
    m.Nameable d.files (prior.generation + 1) bytes ∧ d.files (m.temporaryName d.counter) = none

/-- The identity of what was loaded. -/
theorem identity_of_load {files : Utf8 → Option Bytes} {base : GpuLoadedSaveManifest Rest}
    (h : now m.load files = .ok base) :
    now m.loadCurrentManifestIdentity files = .ok (base.digest, base.authority) := by
  rw [load_eq] at h
  rw [loadCurrentManifestIdentity_eq]
  simp only [now_bind_eq_ok_iff, now_ofResult, now_read_eq_ok_iff] at h ⊢
  obtain ⟨bytes, hbytes, authority, hfield, h⟩ := h
  refine ⟨bytes, hbytes, authority, hfield, ?_⟩
  cases authority with
  | some pointer =>
    obtain ⟨save, journal, hart, rfl⟩ := now_loadGeneration_eq_ok_iff.1 h
    unfold currentIdentity
    simp only [now_bind_eq_ok_iff, now_ofResult, now_pure]
    exact ⟨(), hart.valid, rfl⟩
  | none =>
    unfold loadAuthority loadLegacy at h
    simp only [now_bind_eq_ok_iff, now_ofResult, now_pure] at h
    obtain ⟨save, -, _, -, h⟩ := h
    rw [← Except.ok.inj h]
    rfl

/-- On a quiet disk the journal is published exactly when it fits. -/
theorem ends_publishJournal_quiet (hd : d.Quiet) {base : GpuLoadedSaveManifest Rest}
    {journal : GpuSleepTransactionJournalV2} {bytes : Bytes}
    (hload : now m.load d.files = .ok base)
    (hcurrent : m.anchorDisposition journal base.save (.core .consolidationGenerationMismatch) =
      .ok .current)
    (hmax : ∀ generation, base.authorityGeneration = some generation →
      generation.toNat < 2 ^ 64 - 1)
    (hbytes : m.format.journalToVecPretty journal = some bytes) (hnonempty : bytes ≠ [])
    (hpublic : ∀ pointer, m.nextPointer base journal = .ok pointer →
      (m.format.toVecPrettyWith base.save pointer).isSome = true) :
    Ends (m.publishSleepTransactionJournal base journal) d (fun _ _ => m.JournalFits d base bytes)
      (fun _ _ => ¬m.JournalFits d base bytes) := by
  have hvalid : journal.validate = .ok () := by
    obtain ⟨_, _, -, -, h⟩ := anchorDisposition_eq_ok_iff.1 hcurrent
    unfold validateJournalAgainstExactBase at h
    obtain ⟨_, hvalid, -⟩ := contract_bind_eq_ok_iff.1 h
    exact hvalid
  unfold publishSleepTransactionJournal
  refine ends_reads_quiet hd (fun e _ he _ => ?_) fun _ d₁ _ h₁ => ?_
  · rw [now_ofResult, hvalid] at he
    cases he
  refine ends_reads_quiet (h₁.quiet hd) (fun e _ he _ => ?_) fun disposition d₂ hanchor h₂ => ?_
  · rw [now_ofResult, hcurrent] at he
    cases he
  have h₂ := h₁.trans h₂
  rw [now_ofResult, hcurrent] at hanchor
  obtain rfl := Except.ok.inj hanchor
  refine ends_reads_quiet (h₂.quiet hd) (fun e _ he _ => ?_) fun _ d₃ _ h₃ => ?_
  · cases he
  have h₃ := h₂.trans h₃
  have hidentity := identity_of_load hload
  refine ends_reads_quiet (h₃.quiet hd) (fun e _ he _ => ?_) fun identity d₄ hidentity' h₄ => ?_
  · rw [h₃.files, hidentity] at he
    cases he
  have h₄ := h₃.trans h₄
  rw [h₃.files, hidentity] at hidentity'
  obtain rfl := Except.ok.inj hidentity'
  refine ends_reads_quiet (h₄.quiet hd) (fun e _ he _ => ?_) fun _ d₅ _ h₅ => ?_
  · rw [now_ofResult, refuse, if_neg (by simp)] at he
    cases he
  have h₅ := h₄.trans h₅
  cases hauthority : base.authority with
  | legacyDirectV1 =>
    have hbase : base.authority.generation = none := by rw [hauthority]; rfl
    have hnot : ¬m.JournalFits d base bytes := by
      rintro ⟨prior, hprior, -⟩
      rw [hauthority] at hprior
      cases hprior
    have hprepare : m.prepareJournalAuthorityGeneration base journal =
        m.prepareAuthorityGeneration base journal := by
      unfold prepareJournalAuthorityGeneration
      rw [hbase]
    rw [hprepare]
    refine ((ends_prepareAuthorityGeneration base journal d₅).mono (fun _ _ h => h.1)
      fun _ _ _ => hnot).bind fun pointer d₆ h₆ => ?_
    exact ((ends_commitReused_of_legacy hbase pointer d₆).mono (fun _ _ h => h)
      fun _ _ _ => hnot).bind fun _ _ h => h.elim
  | generationV1 prior =>
    have hprior : base.authority.generation = some prior := by rw [hauthority]; rfl
    obtain ⟨⟨save, journal', hart, hbase⟩, publicBytes, hthere⟩ :
        (∃ save journal', m.Artifacts d.files prior save journal' ∧ base.save = save) ∧
          ∃ publicBytes, d.files m.saveName = some publicBytes := by
      rcases artifacts_of_load hload with ⟨hlegacy, -⟩ |
        ⟨named, save, journal', hart, ⟨publicBytes, hthere, -⟩, rfl⟩
      · rw [hauthority] at hlegacy
        cases hlegacy
      · obtain rfl : named = prior := GpuCheckpointAuthoritySource.generationV1.inj hauthority
        exact ⟨⟨save, journal', hart, rfl⟩, publicBytes, hthere⟩
    subst hbase
    have hlt : prior.generation.toNat < 2 ^ 64 - 1 :=
      hmax prior.generation (by rw [GpuLoadedSaveManifest.authorityGeneration, hprior]; rfl)
    have hgeneration : checkedAdd64 prior.generation 1 = some (prior.generation + 1) := by
      have hone : (1 : UInt64).toNat = 1 := rfl
      rw [checkedAdd64, if_pos (by omega)]
    have hfits : m.JournalFits d base bytes ↔ m.Nameable d.files (prior.generation + 1) bytes ∧
        d.files (m.temporaryName d.counter) = none := by
      unfold JournalFits
      rw [hauthority]
      simp
    have hprepared := ends_prepareJournalAuthorityGeneration_quiet (h₅.quiet hd) hprior hart.valid
      hgeneration hbytes hnonempty
    rw [h₅.files] at hprepared
    refine (hprepared.mono (fun _ _ h => h) fun _ _ h => mt (fun hf => (hfits.1 hf).1) h).bind
      fun pointer d₆ h₆ => ?_
    obtain ⟨hnameable, hpointer, hfree, h₆⟩ := h₆
    have hnext := hpointer
    unfold nextPointer at hnext
    simp only [runtime_bind_eq_ok_iff, orError_eq_ok_iff] at hnext
    obtain ⟨prior', hprior', generation, hnextGeneration, bytes', hbytes', name, hname, htryNew⟩ :=
      hnext
    rw [hprior] at hprior'
    obtain rfl := Option.some.inj hprior'
    rw [hbytes] at hbytes'
    obtain rfl := Option.some.inj hbytes'
    obtain rfl : generation = prior.generation + 1 := by
      rw [nextGeneration, hgeneration] at hnextGeneration
      exact (Except.ok.inj hnextGeneration).symm
    obtain ⟨hpointerValid, -, hpriorGeneration, hassets, hsave, hjournal⟩ :=
      GpuCheckpointAuthorityPointerV1.of_tryNew htryNew
    have hunused : Unused d.files pointer.journal.fileName bytes := by
      obtain ⟨name', hname', hunused⟩ := hnameable
      rw [hname] at hname'
      obtain rfl := Except.ok.inj hname'
      rw [hjournal]
      exact hunused
    -- the artifact that was written takes nothing away
    have hkept (n : Utf8) (hn : (d.files n).isSome = true) : d₆.files n = d.files n := by
      rw [h₆.files]
      by_cases hname : n = pointer.journal.fileName
      · subst hname
        rw [Function.update_self]
        rcases hunused with hnone | hsome
        · rw [hnone] at hn
          cases hn
        · exact hsome.symm
      · rw [Function.update_of_ne hname]
    have hart' : m.Artifacts d₆.files prior base.save journal' :=
      hart.congr (hkept _ hart.save_isSome) (hkept _ hart.journal_isSome)
    have hthere' : d₆.files m.saveName = some publicBytes := by
      rw [hkept _ (by rw [hthere]; rfl), hthere]
    obtain ⟨encoded, hencode⟩ := Option.isSome_iff_exists.1 (hpublic pointer hpointer)
    have hencoded : m.encodeAuthoritativeSave base.save pointer = .ok encoded := by
      unfold encodeAuthoritativeSave
      exact runtime_bind_eq_ok_iff.2 ⟨(), hpointerValid, orError_eq_ok_iff.2 hencode⟩
    -- the temporary file has another name than the artifact
    have htemporary : d₆.files (m.temporaryName d₆.counter) =
        d.files (m.temporaryName d.counter) := by
      have hne : m.temporaryName d.counter ≠ pointer.journal.fileName := by
        rw [hjournal]
        exact (journalName_ne_temporaryName hname d.counter).symm
      rw [h₆.counter, h₅.counter, h₆.files, Function.update_of_ne hne]
    have hcommit := ends_commitReused_quiet (h₆.quiet (h₅.quiet hd)) hprior hthere' hpointerValid
      hpriorGeneration hassets hsave hart' hencoded
    rw [htemporary] at hcommit
    refine (hcommit.mono (fun _ _ h => h) fun _ _ h => mt (fun hf => (hfits.1 hf).2) h).bind
      fun reopened t ht => ?_
    obtain ⟨hnew, rfl⟩ := ht
    have hnamed : (loadedOf pointer base.save).authority.generation = some pointer := rfl
    refine (ends_ofResult (Q := fun _ _ => True) (fun _ _ => trivial) fun e he => ?_).bind
      fun _ _ _ => ends_pure (hfits.2 ⟨hnameable, hnew⟩)
    rw [refuse, if_neg (not_not.2 hnamed)] at he
    cases he

/-- Loading after a publication over what was loaded. -/
theorem ends_publishJournal_holdsPair (hlawful : m.format.Lawful) (hconsistent : m.Consistent d.files)
    {base : GpuLoadedSaveManifest Rest} (hload : now m.load d.files = .ok base)
    (journal : GpuSleepTransactionJournalV2) :
    Ends (m.publishSleepTransactionJournal base journal) d
      (fun _ t => m.HoldsPair t.files base.save journal (generationAfter base.authorityGeneration))
      (fun _ _ => True) := by
  refine (ends_publishSleepTransactionJournal hlawful hconsistent
    (AuthorityCall.genuine_of_load hload journal)).mono (fun outcome t ht => ?_) fun _ _ _ => trivial
  obtain ⟨-, newJournal, hjournal, hpair⟩ := ht
  obtain rfl := Except.ok.inj hjournal
  rw [generationOf_of_load hload] at hpair
  exact hpair

/-- **A current journal is published exactly when it fits.**  Loading then returns
the same save with this journal, one generation on. -/
theorem journal_published_iff (hlawful : m.format.Lawful) (hd : d.Quiet)
    (hconsistent : m.Consistent d.files) {base : GpuLoadedSaveManifest Rest}
    {journal : GpuSleepTransactionJournalV2} {bytes : Bytes}
    (hload : now m.load d.files = .ok base)
    (hcurrent : m.anchorDisposition journal base.save (.core .consolidationGenerationMismatch) =
      .ok .current)
    (hmax : ∀ generation, base.authorityGeneration = some generation →
      generation.toNat < 2 ^ 64 - 1)
    (hbytes : m.format.journalToVecPretty journal = some bytes) (hnonempty : bytes ≠ [])
    (hpublic : ∀ pointer, m.nextPointer base journal = .ok pointer →
      (m.format.toVecPrettyWith base.save pointer).isSome = true) :
    (∃ outcome t, m.publishSleepTransactionJournal base journal d = .ok outcome t ∧
      m.HoldsPair t.files base.save journal (generationAfter base.authorityGeneration)) ↔
      m.JournalFits d base bytes := by
  have hends := ends_publishJournal_quiet hd hload hcurrent hmax hbytes hnonempty hpublic
  have hpair := ends_publishJournal_holdsPair hlawful hconsistent hload journal
  constructor
  · rintro ⟨outcome, t, hpublished, -⟩
    exact hends.of_ok hpublished
  · intro hfits
    cases hpublished : m.publishSleepTransactionJournal base journal d with
    | ok outcome t => exact ⟨outcome, t, rfl, hpair.of_ok hpublished⟩
    | error e t => exact absurd hfits (hends.of_error hpublished)

/-- The body ended well. -/
def endedWell {ε σ α : Type} : EStateM.Result ε σ α → Bool
  | .ok _ _ => true
  | .error _ _ => false

theorem not_ok_of_endedWell {ε σ α : Type} {r : EStateM.Result ε σ α} (h : endedWell r = false) :
    ¬∃ a t, r = .ok a t := by
  rintro ⟨a, t, rfl⟩
  cases h

theorem all_of_eq_ok {ε α : Type} {x : Except ε α} {p : α → Bool} {a : α} (hx : x = .ok a)
    (h : x.toOption.all p = true) : p a = true := by
  rw [hx] at h
  exact h

theorem any_eq_true {ε α : Type} {x : Except ε α} {p : α → Bool}
    (h : x.toOption.any p = true) : ∃ a, x = .ok a ∧ p a = true := by
  cases x with
  | ok a => exact ⟨a, rfl, h⟩
  | error e => cases h

/-- The directory of a first snapshot, opened again. -/
def reopenedDirectory : Disk Utf8 := quietDisk publishedDirectory.files

theorem reopenedDirectory_files : reopenedDirectory.files = publishedDirectory.files := by
  rw [reopenedDirectory, quietDisk]

theorem reopenedDirectory_quiet : reopenedDirectory.Quiet := quietDisk_quiet _

theorem load_reopenedDirectory :
    now sampleManifest.load reopenedDirectory.files = .ok publishedBase := by
  rw [reopenedDirectory_files]
  exact load_publishedDirectory

theorem reopenedDirectory_consistent : sampleManifest.Consistent reopenedDirectory.files := by
  have hgenuine : (AuthorityCall.publishSnapshot (worldAt 5)).Genuine sampleManifest
      (emptyDirectory none).files := trivial
  rw [reopenedDirectory_files]
  unfold publishedDirectory
  exact consistent_step sampleFormat_lawful (emptyDirectory_consistent none) hgenuine

/-- The name of the next journal artifact and of the next temporary file are free. -/
def namesFree (pointer : GpuCheckpointAuthoritySource) : Bool :=
  match pointer with
  | .legacyDirectV1 => false
  | .generationV1 prior =>
    ((authorityJournalFileName sampleName (prior.generation + 1)
      (.forBytes (journalText (journalAt 5)))).toOption.any fun name =>
        (reopenedDirectory.files name).isNone) &&
      (reopenedDirectory.files (sampleManifest.temporaryName reopenedDirectory.counter)).isNone

theorem publishedBase_checks :
    sampleManifest.anchorDisposition (journalAt 5) publishedBase.save
        (.core .consolidationGenerationMismatch) = .ok .current ∧
      publishedBase.authorityGeneration = some 1 ∧
      sampleManifest.format.journalToVecPretty (journalAt 5) = some (journalText (journalAt 5)) ∧
      journalText (journalAt 5) ≠ [] ∧
      ((sampleManifest.nextPointer publishedBase (journalAt 5)).toOption.all fun pointer =>
        (sampleManifest.format.toVecPrettyWith publishedBase.save pointer).isSome) = true ∧
      namesFree publishedBase.authority = true := by
  decide +kernel

theorem publishedBase_fits :
    sampleManifest.JournalFits reopenedDirectory publishedBase (journalText (journalAt 5)) := by
  obtain ⟨-, -, -, -, -, hfits⟩ := publishedBase_checks
  unfold namesFree at hfits
  cases hauthority : publishedBase.authority with
  | legacyDirectV1 =>
    rw [hauthority] at hfits
    cases hfits
  | generationV1 prior =>
    rw [hauthority, Bool.and_eq_true] at hfits
    obtain ⟨hname, htemporary⟩ := hfits
    refine ⟨prior, hauthority, ?_, Option.isNone_iff_eq_none.1 htemporary⟩
    obtain ⟨name, hok, hfree⟩ := any_eq_true hname
    exact ⟨name, hok, .inl (Option.isNone_iff_eq_none.1 hfree)⟩

theorem journal_published_reopened :
    ∃ outcome t, sampleManifest.publishSleepTransactionJournal publishedBase (journalAt 5)
        reopenedDirectory = .ok outcome t ∧
      sampleManifest.HoldsPair t.files publishedBase.save (journalAt 5)
        (generationAfter publishedBase.authorityGeneration) := by
  obtain ⟨hcurrent, hgeneration, hbytes, hnonempty, hpublic, -⟩ := publishedBase_checks
  have hmax : ∀ generation, publishedBase.authorityGeneration = some generation →
      generation.toNat < 2 ^ 64 - 1 := by
    intro generation h
    rw [hgeneration] at h
    obtain rfl := Option.some.inj h
    decide
  exact (journal_published_iff (m := sampleManifest) (d := reopenedDirectory) sampleFormat_lawful
    reopenedDirectory_quiet reopenedDirectory_consistent load_reopenedDirectory hcurrent hmax hbytes
    hnonempty fun _ h => all_of_eq_ok (p := fun pointer =>
      (sampleManifest.format.toVecPrettyWith publishedBase.save pointer).isSome) h hpublic).2
    publishedBase_fits

theorem legacyDirectory_loads :
    (now sampleManifest.load legacyDirectory.files).toOption.isSome = true := by
  decide +kernel

/-- What a legacy save loads as. -/
def legacyBase : GpuLoadedSaveManifest Unit :=
  (now sampleManifest.load legacyDirectory.files).toOption.get legacyDirectory_loads

theorem legacyBase_checks :
    sampleManifest.anchorDisposition (journalAt 5) legacyBase.save
        (.core .consolidationGenerationMismatch) = .ok .current ∧
      endedWell (sampleManifest.publishSleepTransactionJournal legacyBase (journalAt 5)
        legacyDirectory) = false := by
  decide +kernel

/-- A current journal over a legacy save is not published, though no step fails. -/
theorem journal_over_legacy_not_published :
    legacyDirectory.Quiet ∧ now sampleManifest.load legacyDirectory.files = .ok legacyBase ∧
      sampleManifest.anchorDisposition (journalAt 5) legacyBase.save
        (.core .consolidationGenerationMismatch) = .ok .current ∧
      ¬∃ outcome t, sampleManifest.publishSleepTransactionJournal legacyBase (journalAt 5)
        legacyDirectory = .ok outcome t := by
  obtain ⟨hcurrent, hfails⟩ := legacyBase_checks
  exact ⟨fun _ => rfl, eq_ok_of_isSome legacyDirectory_loads, hcurrent, not_ok_of_endedWell hfails⟩

end GpuDurableSaveManifest

end ALife
