/-
# Publishing a sleep journal

`publish_sleep_transaction_journal` goes on from a base that is still current.
The save artifact of a generation is used again under the next one; a legacy
base has no save artifact, and its commit is refused.
-/

import ALife.Checkpoint.Publication

namespace ALife

open Machine Machine.Disk

namespace GpuDurableSaveManifest

variable {Rest : Type} {m : GpuDurableSaveManifest Rest} {d : Disk Utf8}

/-- A genuine base of a generation stands on the artifacts that the public file names. -/
theorem artifacts_of_identity (hconsistent : m.Consistent d.files)
    {base : GpuLoadedSaveManifest Rest} {pointer : GpuCheckpointAuthorityPointerV1}
    (hgenuine : ∀ loaded, now m.load d.files = .ok loaded → loaded.digest = base.digest →
      loaded.authority = base.authority → loaded.save = base.save)
    (hauthority : base.authority = .generationV1 pointer)
    (hidentity : now m.loadCurrentManifestIdentity d.files = .ok (base.digest, base.authority)) :
    ¬m.Reserved pointer.save.fileName ∧ m.NamesAuthority d.files (some pointer) ∧
      ∃ journal, m.Artifacts d.files pointer base.save journal := by
  rw [loadCurrentManifestIdentity_eq] at hidentity
  simp only [now_bind_eq_ok_iff, now_ofResult, now_read_eq_ok_iff, readAuthorityField,
    orError_eq_ok_iff] at hidentity
  obtain ⟨bytes, hbytes, authority, hfield, hidentity⟩ := hidentity
  cases authority with
  | none =>
    have hpair : (GpuSaveManifestDigest.forBytes bytes, GpuCheckpointAuthoritySource.legacyDirectV1) =
        (base.digest, base.authority) := Except.ok.inj hidentity
    rw [hauthority] at hpair
    cases congrArg Prod.snd hpair
  | some pointer' =>
    unfold currentIdentity at hidentity
    simp only [now_bind_eq_ok_iff, now_ofResult, now_pure] at hidentity
    obtain ⟨_, -, hidentity⟩ := hidentity
    have hpair := Except.ok.inj hidentity
    have hdigest : (⟨pointer'.save.digest, some pointer'.authorityDigest⟩ : GpuSaveManifestDigest) =
        base.digest := congrArg Prod.fst hpair
    have hsource : GpuCheckpointAuthoritySource.generationV1 pointer' = base.authority :=
      congrArg Prod.snd hpair
    have hpointer : pointer' = pointer := by
      rw [hauthority] at hsource
      exact GpuCheckpointAuthoritySource.generationV1.inj hsource
    subst hpointer
    have hnames : m.NamesAuthority d.files (some pointer') := ⟨bytes, hbytes, hfield⟩
    obtain ⟨hfree, loaded, hload⟩ := hconsistent pointer' hnames
    refine ⟨hfree, hnames, ?_⟩
    rcases artifacts_of_load hload with ⟨-, hlegacy⟩ | ⟨named, save, journal, hart, hnamed, rfl⟩
    · exact absurd (hlegacy.unique hnames) (by simp)
    · obtain rfl := Option.some.inj (hnamed.unique hnames)
      have hsave : save = base.save := hgenuine _ hload hdigest hsource
      exact ⟨journal, hsave ▸ hart⟩

/-- A prepared journal over the artifacts of its base makes new artifacts. -/
theorem artifacts_of_prepared (hlawful : m.format.Lawful) {files : Utf8 → Option Bytes}
    {save : PortableSaveFile Rest} {prior pointer : GpuCheckpointAuthorityPointerV1}
    {journal journal' : GpuSleepTransactionJournalV2} (hart : m.Artifacts files prior save journal')
    (hprepared : m.Prepared files (some prior) journal pointer)
    (hsave : pointer.save = prior.save)
    (hidentity : pointer.assetManifestIdentity = prior.assetManifestIdentity)
    (hvalid : journal.validate = .ok ())
    (hanchor : m.anchorDisposition journal save .serde = .ok .current) :
    m.Artifacts files pointer save journal where
  valid := hprepared.valid
  readSave := by
    have hread := now_readAuthoritySave_eq_ok_iff.1 hart.readSave
    rw [← hsave] at hread
    exact now_readAuthoritySave_eq_ok_iff.2 hread
  identity := by rw [hart.identity, hidentity]
  readJournal := by
    obtain ⟨bytes, hencode, hname, hbytes, hsize, hdigest⟩ := hprepared.holdsJournal.holds
    exact now_readAuthorityJournal_eq_ok_iff.2 ⟨hprepared.valid, bytes,
      ⟨hname, hbytes, hsize, hdigest⟩, hlawful.journal_roundTrip _ _ hencode, hvalid, hanchor⟩

theorem ends_commitReusedSaveAuthorityPointer (hlawful : m.format.Lawful)
    (hconsistent : m.Consistent d.files) {base : GpuLoadedSaveManifest Rest}
    {pointer : GpuCheckpointAuthorityPointerV1} {journal : GpuSleepTransactionJournalV2}
    (hart : m.Artifacts d.files pointer base.save journal)
    (hsave : ¬m.Reserved pointer.save.fileName) (hjournal : ¬m.Reserved pointer.journal.fileName) :
    Ends (m.commitReusedSaveAuthorityPointer base pointer) d
      (fun reopened t => reopened = loadedOf pointer base.save ∧
        m.HoldsPair t.files base.save journal pointer.generation.toNat)
      (m.Fails (m.HoldsPair · base.save journal pointer.generation.toNat) d) := by
  have hfails {e : GpuRuntimeError} {t : Disk Utf8} (hsame : Same d t) :
      m.Fails (m.HoldsPair · base.save journal pointer.generation.toNat) d e t :=
    fails_of_grows hconsistent hsame.grows
  unfold commitReusedSaveAuthorityPointer
  refine ends_reads (fun _ _ h => hfails h) fun _ d₁ _ h₁ => ?_
  refine ends_reads (fun _ _ h => hfails (h₁.trans h)) fun _ d₂ _ h₂ => ?_
  have h₂ := h₁.trans h₂
  refine ends_reads (fun _ _ h => hfails (h₂.trans h)) fun _ d₃ _ h₃ => ?_
  have h₃ := h₂.trans h₃
  refine ends_reads (fun _ _ h => hfails (h₃.trans h)) fun _ d₄ _ h₄ => ?_
  have h₄ := h₃.trans h₄
  refine ends_reads (fun _ _ h => hfails (h₄.trans h)) fun _ d₅ _ h₅ => ?_
  have h₅ := h₄.trans h₅
  refine ends_reads (fun _ _ h => hfails (h₅.trans h)) fun _ d₆ _ h₆ => ?_
  have h₆ := h₅.trans h₆
  refine (ends_commit_of_artifacts hlawful (hconsistent.grows h₆.grows)
    (hart.congr (by rw [h₆.files]) (by rw [h₆.files])) hsave hjournal false).mono
    (fun _ _ ht => ⟨ht.1, ht.2.1⟩) fun _ _ ht => ht.after_grows hconsistent h₆.grows

/-- A legacy base has no save artifact that could be used again. -/
theorem ends_commitReused_of_legacy {base : GpuLoadedSaveManifest Rest}
    (hbase : base.authority.generation = none) (pointer : GpuCheckpointAuthorityPointerV1)
    (d : Disk Utf8) :
    Ends (m.commitReusedSaveAuthorityPointer base pointer) d (fun _ _ => False)
      (fun _ => Same d) := by
  unfold commitReusedSaveAuthorityPointer
  refine ends_reads (fun _ _ h => h) fun _ t _ ht => ?_
  refine ends_reads (fun _ _ h => ht.trans h) fun prior _ hprior _ => ?_
  rw [now_ofResult, orError_eq_ok_iff, hbase] at hprior
  cases hprior

theorem ends_publishSleepTransactionJournal (hlawful : m.format.Lawful)
    (hconsistent : m.Consistent d.files) {base : GpuLoadedSaveManifest Rest}
    {journal : GpuSleepTransactionJournalV2}
    (hgenuine : (AuthorityCall.publishSleepTransactionJournal base journal).Genuine m d.files) :
    Ends (m.publishSleepTransactionJournal base journal) d
      (fun outcome t => (∃ published, outcome = .published published) ∧
        m.Publishes (.publishSleepTransactionJournal base journal) d.files t.files)
      (m.Fails (m.Publishes (.publishSleepTransactionJournal base journal) d.files) d) := by
  have hfails {e : GpuRuntimeError} {t : Disk Utf8} (hgrows : Grows m.Reserved d t) :
      m.Fails (m.Publishes (.publishSleepTransactionJournal base journal) d.files) d e t :=
    fails_of_grows hconsistent hgrows
  unfold publishSleepTransactionJournal
  refine ends_reads (fun _ _ h => hfails h.grows) fun _ d₁ hvalid h₁ => ?_
  refine ends_reads (fun _ _ h => hfails (h₁.trans h).grows) fun disposition d₂ hanchor h₂ => ?_
  have h₂ := h₁.trans h₂
  refine ends_reads (fun _ _ h => hfails (h₂.trans h).grows) fun _ d₃ hcurrent h₃ => ?_
  have h₃ := h₂.trans h₃
  refine ends_reads (fun _ _ h => hfails (h₃.trans h).grows) fun identity d₄ hidentity h₄ => ?_
  have h₄ := h₃.trans h₄
  obtain ⟨actualDigest, actualAuthority⟩ := identity
  refine ends_reads (fun _ _ h => hfails (h₄.trans h).grows) fun _ d₅ hsame h₅ => ?_
  have h₅ := h₄.trans h₅
  simp only [now_ofResult, refuse_eq_ok_iff, not_not, not_or] at hsame hcurrent
  rw [now_ofResult] at hanchor hvalid
  rw [ofContract_eq_ok_iff] at hvalid
  obtain ⟨rfl, rfl⟩ := hsame
  subst hcurrent
  have hanchor : m.anchorDisposition journal base.save .serde = .ok .current :=
    anchorDisposition_eq_ok_iff.2 (anchorDisposition_eq_ok_iff.1 hanchor)
  rw [h₃.files] at hidentity
  cases hauthority : base.authority with
  | legacyDirectV1 =>
    have hbase : base.authority.generation = none := by rw [hauthority]; rfl
    have hprepare : m.prepareJournalAuthorityGeneration base journal =
        m.prepareAuthorityGeneration base journal := by
      unfold prepareJournalAuthorityGeneration
      rw [hbase]
    rw [hprepare]
    refine ((ends_prepareAuthorityGeneration base journal d₅).mono (fun _ _ h => h.1) fun _ _ h =>
      hfails (h₅.grows.trans h)).bind fun pointer d₆ h₆ => ?_
    refine ((ends_commitReused_of_legacy hbase pointer d₆).mono (fun _ _ h => h) fun _ _ h =>
      hfails ((h₅.grows.trans h₆).trans h.grows)).bind fun _ _ h => h.elim
  | generationV1 prior =>
    have hprior : base.authority.generation = some prior := by rw [hauthority]; rfl
    obtain ⟨hfree, hnames, _, hart⟩ :=
      artifacts_of_identity hconsistent hgenuine hauthority hidentity
    refine ((ends_prepareJournalAuthorityGeneration hprior journal d₅).mono (fun _ _ h => h)
      fun _ _ h => hfails (h₅.grows.trans h)).bind fun pointer d₆ h₆ => ?_
    obtain ⟨hgrows, hprepared, hsave, hassets⟩ := h₆
    have hgrows := h₅.grows.trans hgrows
    have hart' := artifacts_of_prepared hlawful (hart.congr
      (hgrows.adds _ (.inr hart.save_isSome)) (hgrows.adds _ (.inr hart.journal_isSome)))
      hprepared hsave hassets hvalid hanchor
    have hgeneration : m.generationOf d.files = some prior.generation :=
      generationOf_of_load (load_of_artifacts hart hnames)
    have hnew {files : Utf8 → Option Bytes}
        (h : m.HoldsPair files base.save journal pointer.generation.toNat) :
        m.Publishes (.publishSleepTransactionJournal base journal) d.files files := by
      rw [toNat_of_nextGeneration hprepared.generation] at h
      refine ⟨journal, rfl, ?_⟩
      rw [hgeneration]
      exact h
    refine ((ends_commitReusedSaveAuthorityPointer hlawful (hconsistent.grows hgrows) hart'
      (by rw [hsave]; exact hfree) hprepared.holdsJournal.free).mono (fun _ _ h => h)
      fun _ _ h => (h.mono hnew).after_grows hconsistent hgrows).bind fun reopened t ht => ?_
    obtain ⟨rfl, hpair⟩ := ht
    have hnamed : (loadedOf pointer base.save).authority.generation = some pointer := rfl
    refine (ends_ofResult (Q := fun _ u => u = t) (fun _ _ => rfl) fun e he => ?_).bind
      fun _ _ hu => ends_pure ⟨⟨_, rfl⟩, hnew (hu ▸ hpair)⟩
    rw [refuse, if_neg (not_not.2 hnamed)] at he
    cases he

end GpuDurableSaveManifest

end ALife
