/-
# What a publication leaves behind

Under any schedule of faults the bodies of a publication only add files, until a
rename puts a new public file in place: an artifact or temporary file is made
under a new name, and what is removed was made by the same body.
-/

import ALife.Checkpoint.ManifestReads

namespace ALife

open Machine Machine.Disk

/-- The error says that the rollback was done. -/
def GpuRuntimeError.RolledBack (e : GpuRuntimeError) : Prop :=
  ∃ committed lastKnownGood,
    e = .gpuCheckpointAuthorityPostCommitValidation committed lastKnownGood true

section Artifact

variable {fixed : Utf8 → Prop} {path : Utf8} {bytes : Bytes}

/-- A file that this body made may be written and removed. -/
structure Made (fixed : Utf8 → Prop) (path : Utf8) (d t : Disk Utf8) : Prop where
  grows : Grows fixed d t
  free : ¬fixed path
  new : d.files path = none

theorem Made.update {d t u : Disk Utf8} (h : Made fixed path d t) (v : Option Bytes)
    (hfiles : u.files = Function.update t.files path v) (hmoves : u.moves = t.moves) :
    Made fixed path d u := by
  refine ⟨⟨?_, hmoves.trans h.grows.moves⟩, h.free, h.new⟩
  rw [hfiles]
  exact h.grows.adds.update h.free h.new v

theorem Made.same {d t u : Disk Utf8} (h : Made fixed path d t) (hsame : Same t u) :
    Made fixed path d u :=
  ⟨h.grows.trans hsame.grows, h.free, h.new⟩

theorem ends_createNew_made (hfree : ¬fixed path) (d : Disk Utf8) {ε : Type} [FromIo ε] :
    Ends (Disk.createNew path : EStateM ε (Disk Utf8) Unit) d (fun _ => Made fixed path d)
      (fun _ => Grows fixed d) := by
  refine (ends_createNew path d).mono (fun _ t h => ?_) fun _ _ h => h.grows
  obtain ⟨hnew, hfiles, hmoves⟩ := h
  exact Made.update ⟨.refl d, hfree, hnew⟩ _ hfiles hmoves

theorem ends_write_made {d t : Disk Utf8} (h : Made fixed path d t) {ε : Type} [FromIo ε] :
    Ends (Disk.write path bytes : EStateM ε (Disk Utf8) Unit) t
      (fun _ u => Made fixed path d u ∧ u.files path = some bytes)
      (fun _ => Made fixed path d) := by
  refine (ends_write path bytes t).mono (fun _ u hu => ?_) fun _ u hu => ?_
  · exact ⟨h.update _ hu.1 hu.2, by rw [hu.1, Function.update_self]⟩
  · obtain ⟨junk, hfiles, hmoves⟩ := hu
    exact h.update _ hfiles hmoves

theorem ends_access_made {d t : Disk Utf8} (h : Made fixed path d t) {ε : Type} [FromIo ε] :
    Ends (Disk.access : EStateM ε (Disk Utf8) Unit) t (fun _ => Made fixed path d)
      (fun _ => Made fixed path d) :=
  (ends_access t).mono (fun _ _ hu => h.same hu) fun _ _ hu => h.same hu

/-- Giving up a file that was made. -/
theorem ends_discard {d t : Disk Utf8} (h : Made fixed path d t) (e : GpuRuntimeError)
    {α : Type} {Q : α → Disk Utf8 → Prop} :
    Ends (do
      let _ ← attempt (Disk.removeFile path : IoBody Unit)
      throw e : Publishing α) t Q (fun _ => Grows fixed d) := by
  refine (ends_removeFile path t).attempt_bind (fun _ u hu => ?_) fun _ u hu => ?_
  · exact ends_throw (h.update none hu.1 hu.2).grows
  · exact ends_throw (h.same hu).grows

theorem ends_makeImmutableAuthorityArtifact (hfree : ¬fixed path) (d : Disk Utf8) :
    Ends (makeImmutableAuthorityArtifact path bytes) d (fun _ => Grows fixed d)
      (fun _ => Grows fixed d) := by
  unfold makeImmutableAuthorityArtifact
  refine (ends_createNew_made hfree d).attempt_bind (fun _ t ht => ?_) fun e t ht => ?_
  · have hwritten : Ends (do
        Disk.write path bytes
        Disk.access
        Disk.access : IoBody Unit) t (fun _ => Made fixed path d) (fun _ => Made fixed path d) :=
      (ends_write_made ht).bind fun _ _ hu => (ends_access_made hu.1).bind fun _ _ hv =>
        ends_access_made hv
    refine hwritten.attempt_bind (fun _ u hu => ?_) fun e u hu => ?_
    · exact ends_pure hu.grows
    · exact ends_discard hu _
  · cases e with
    | alreadyExists =>
      refine ends_reads (fun _ u hu => ht.trans hu.grows) fun found u _ hu => ?_
      exact ends_ofResult (fun _ _ => ht.trans hu.grows) fun _ _ => ht.trans hu.grows
    | notFound => exact ends_throw ht
    | other => exact ends_throw ht

/-- An artifact that was written is there. -/
theorem ends_writeImmutableAuthorityArtifact (hfree : ¬fixed path) (d : Disk Utf8) :
    Ends (writeImmutableAuthorityArtifact path bytes) d
      (fun _ t => Grows fixed d t ∧ t.files path = some bytes) (fun _ => Grows fixed d) := by
  unfold writeImmutableAuthorityArtifact
  refine (ends_makeImmutableAuthorityArtifact hfree d).bind fun _ t ht => ?_
  refine ends_reads (fun _ u hu => ht.trans hu.grows) fun found u hfound hu => ?_
  refine ends_ofResult (fun _ h => ?_) fun _ _ => ht.trans hu.grows
  rw [refuse_eq_ok_iff, not_not] at h
  rw [now_read_eq_ok_iff, ← hu.files, h] at hfound
  exact ⟨ht.trans hu.grows, hfound⟩

end Artifact

namespace GpuDurableSaveManifest

variable {Rest : Type} {m : GpuDurableSaveManifest Rest}

/-- A dotted name of the public file that goes on differently is not reserved. -/
theorem not_reserved_of_head {head rest : Utf8}
    (h : (asciiBytes ".sleep-journal-v2.json").take head.length ≠ head) :
    ¬m.Reserved (asciiBytes "." ++ m.saveName ++ (head ++ rest)) := by
  rintro (hname | hname)
  · have hlength := congrArg List.length hname
    simp only [List.length_append] at hlength
    have hdot : (asciiBytes ".").length = 1 := rfl
    omega
  · have htail : head ++ rest = asciiBytes ".sleep-journal-v2.json" := by
      rw [sleepJournalName] at hname
      exact List.append_cancel_left hname
    exact h (by rw [← htail, List.take_left])

theorem temporaryName_not_reserved (nonce : UInt64) : ¬m.Reserved (m.temporaryName nonce) := by
  have h : ¬m.Reserved (asciiBytes "." ++ m.saveName ++ (asciiBytes ".gpu-cas-" ++
      (decimal 0 m.processId.toNat ++ asciiBytes "-" ++ decimal 0 nonce.toNat
        ++ asciiBytes ".tmp"))) :=
    not_reserved_of_head (by decide +kernel)
  simpa only [temporaryName, List.append_assoc] using h

/-- Artifacts have names of their own. -/
theorem artifactName_not_reserved {kind name : Utf8} {generation : UInt64}
    {digest : PortableAssetDigest}
    (hkind : kind = asciiBytes "save" ∨ kind = asciiBytes "sleep-journal-v2")
    (h : authorityArtifactFileName m.saveName generation kind digest = .ok name) :
    ¬m.Reserved name := by
  unfold authorityArtifactFileName at h
  obtain ⟨_, -, h⟩ := runtime_bind_eq_ok_iff.1 h
  obtain ⟨_, -, h⟩ := runtime_bind_eq_ok_iff.1 h
  have hname : name = asciiBytes "." ++ m.saveName ++ ((asciiBytes "." ++ kind ++ asciiBytes "-g")
      ++ (decimal 20 generation.toNat ++ asciiBytes "-"
        ++ digest.text.drop PortableAssetDigest.tag.length ++ asciiBytes ".json")) := by
    rw [← Except.ok.inj h]
    simp only [List.append_assoc]
  rw [hname]
  refine not_reserved_of_head ?_
  rcases hkind with rfl | rfl <;> decide +kernel

/-! ### Artifacts -/

/-- The journal artifact of a pointer holds the journal. -/
structure HoldsJournal (m : GpuDurableSaveManifest Rest) (files : Utf8 → Option Bytes)
    (artifact : GpuCheckpointAuthorityJournalArtifactV1)
    (journal : GpuSleepTransactionJournalV2) : Prop where
  free : ¬m.Reserved artifact.fileName
  holds : ∃ bytes, m.format.journalToVecPretty journal = some bytes ∧
    validAuthorityArtifactFileName artifact.fileName = true ∧
    files artifact.fileName = some bytes ∧ lenU64 bytes.length = artifact.sizeBytes ∧
    .forBytes bytes = artifact.digest

theorem HoldsJournal.grows {d t : Disk Utf8} {artifact : GpuCheckpointAuthorityJournalArtifactV1}
    {journal : GpuSleepTransactionJournalV2} (h : m.HoldsJournal d.files artifact journal)
    (hgrows : Grows m.Reserved d t) : m.HoldsJournal t.files artifact journal := by
  obtain ⟨bytes, hencode, hvalid, hbytes, hrest⟩ := h.holds
  exact ⟨h.free, bytes, hencode, hvalid, hgrows.adds.at_some hbytes, hrest⟩

theorem ends_prepareSaveArtifact (save : PortableSaveFile Rest) (generation : UInt64)
    (d : Disk Utf8) :
    Ends (m.prepareSaveArtifact save generation) d
      (fun artifact t => Grows m.Reserved d t ∧ ¬m.Reserved artifact.fileName)
      (fun _ => Grows m.Reserved d) := by
  unfold prepareSaveArtifact
  refine ends_reads (fun _ t h => h.grows) fun bytes t _ ht => ?_
  refine ends_reads (fun _ u h => (ht.trans h).grows) fun fileName u hname hu => ?_
  refine ends_reads (fun _ v h => ((ht.trans hu).trans h).grows) fun path v hpath hv => ?_
  have hsame := (ht.trans hu).trans hv
  rw [now_ofResult] at hname hpath
  obtain ⟨-, rfl⟩ := authorityArtifactPath_eq_ok_iff.1 hpath
  have hfree : ¬m.Reserved path := artifactName_not_reserved (.inl rfl) hname
  refine (ends_writeImmutableAuthorityArtifact hfree v).mono
    (fun _ w h => hsame.grows.trans h.1) (fun _ w h => hsame.grows.trans h) |>.bind
    fun _ w hw => ?_
  refine ends_reads (fun _ x h => hw.trans h.grows) fun _ x _ hx => ?_
  exact ends_pure ⟨hw.trans hx.grows, hfree⟩

theorem ends_prepareJournalArtifact (journal : GpuSleepTransactionJournalV2)
    (generation : UInt64) (d : Disk Utf8) :
    Ends (m.prepareJournalArtifact journal generation) d
      (fun artifact t => Grows m.Reserved d t ∧ m.HoldsJournal t.files artifact journal)
      (fun _ => Grows m.Reserved d) := by
  unfold prepareJournalArtifact
  refine ends_reads (fun _ t h => h.grows) fun bytes t hbytes ht => ?_
  refine ends_reads (fun _ u h => (ht.trans h).grows) fun fileName u hname hu => ?_
  refine ends_reads (fun _ v h => ((ht.trans hu).trans h).grows) fun path v hpath hv => ?_
  have hsame := (ht.trans hu).trans hv
  rw [now_ofResult] at hname hpath hbytes
  rw [orError_eq_ok_iff] at hbytes
  obtain ⟨hvalid, rfl⟩ := authorityArtifactPath_eq_ok_iff.1 hpath
  have hfree : ¬m.Reserved path := artifactName_not_reserved (.inr rfl) hname
  refine (ends_writeImmutableAuthorityArtifact hfree v).mono
    (fun _ w h => And.intro (hsame.grows.trans h.1) h.2) (fun _ w h => hsame.grows.trans h)
    |>.bind fun _ w hw => ?_
  refine ends_reads (fun _ x h => hw.1.trans h.grows) fun _ x _ hx => ?_
  refine ends_pure ⟨hw.1.trans hx.grows, hfree, bytes, hbytes, hvalid, ?_, rfl, rfl⟩
  rw [hx.files]
  exact hw.2

/-! ### Pointers -/

theorem GpuCheckpointAuthorityPointerV1.of_tryNew {generation : UInt64}
    {prior : Option GpuCheckpointAuthorityPointerV1} {identity : PortableAssetDigest}
    {save : GpuCheckpointAuthoritySaveArtifactV1}
    {journal : GpuCheckpointAuthorityJournalArtifactV1} {p : GpuCheckpointAuthorityPointerV1}
    (h : GpuCheckpointAuthorityPointerV1.tryNew generation prior identity save journal = .ok p) :
    p.validate = .ok () ∧ p.generation = generation ∧
      p.priorGeneration = prior.map (fun q => q.generation) ∧
      p.assetManifestIdentity = identity ∧ p.save = save ∧ p.journal = journal := by
  unfold GpuCheckpointAuthorityPointerV1.tryNew at h
  obtain ⟨_, hvalid, h⟩ := runtime_bind_eq_ok_iff.1 h
  cases h
  exact ⟨hvalid, rfl, rfl, rfl, rfl, rfl⟩

/-- A prepared pointer: the next generation, with the journal in its artifact. -/
structure Prepared (m : GpuDurableSaveManifest Rest) (files : Utf8 → Option Bytes)
    (prior : Option GpuCheckpointAuthorityPointerV1) (journal : GpuSleepTransactionJournalV2)
    (pointer : GpuCheckpointAuthorityPointerV1) : Prop where
  valid : pointer.validate = .ok ()
  generation : nextGeneration prior = .ok pointer.generation
  priorGeneration : pointer.priorGeneration = prior.map fun q => q.generation
  holdsJournal : m.HoldsJournal files pointer.journal journal

theorem Prepared.grows {d t : Disk Utf8} {prior : Option GpuCheckpointAuthorityPointerV1}
    {journal : GpuSleepTransactionJournalV2} {pointer : GpuCheckpointAuthorityPointerV1}
    (h : m.Prepared d.files prior journal pointer) (hgrows : Grows m.Reserved d t) :
    m.Prepared t.files prior journal pointer :=
  ⟨h.valid, h.generation, h.priorGeneration, h.holdsJournal.grows hgrows⟩

theorem ends_prepareAuthorityGeneration (base : GpuLoadedSaveManifest Rest)
    (journal : GpuSleepTransactionJournalV2) (d : Disk Utf8) :
    Ends (m.prepareAuthorityGeneration base journal) d
      (fun pointer t => Grows m.Reserved d t ∧
        m.Prepared t.files base.authority.generation journal pointer ∧
        ¬m.Reserved pointer.save.fileName)
      (fun _ => Grows m.Reserved d) := by
  unfold prepareAuthorityGeneration
  refine ends_reads (fun _ t h => h.grows) fun generation t hgeneration ht => ?_
  refine ((ends_prepareSaveArtifact base.save generation t).mono (fun _ _ h => h)
    fun _ _ h => ht.grows.trans h).bind fun save u hu => ?_
  refine ((ends_prepareJournalArtifact journal generation u).mono (fun _ _ h => h)
    fun _ _ h => (ht.grows.trans hu.1).trans h).bind fun artifact v hv => ?_
  have hgrows := (ht.grows.trans hu.1).trans hv.1
  refine ends_reads (fun _ w h => hgrows.trans h.grows) fun identity w _ hw => ?_
  refine ends_ofResult (fun pointer hpointer => ?_) fun _ _ => hgrows.trans hw.grows
  obtain ⟨hvalid, rfl, hprior, -, rfl, rfl⟩ :=
    GpuCheckpointAuthorityPointerV1.of_tryNew hpointer
  rw [now_ofResult] at hgeneration
  exact ⟨hgrows.trans hw.grows, ⟨hvalid, hgeneration, hprior, hv.2.grows hw.grows⟩, hu.2⟩

/-- Preparing a journal over a generation goes on using its save. -/
theorem ends_prepareJournalAuthorityGeneration {base : GpuLoadedSaveManifest Rest}
    {prior : GpuCheckpointAuthorityPointerV1} (hprior : base.authority.generation = some prior)
    (journal : GpuSleepTransactionJournalV2) (d : Disk Utf8) :
    Ends (m.prepareJournalAuthorityGeneration base journal) d
      (fun pointer t => Grows m.Reserved d t ∧
        m.Prepared t.files (some prior) journal pointer ∧ pointer.save = prior.save ∧
        pointer.assetManifestIdentity = prior.assetManifestIdentity)
      (fun _ => Grows m.Reserved d) := by
  unfold prepareJournalAuthorityGeneration
  rw [hprior]
  dsimp only
  refine ends_reads (fun _ t h => h.grows) fun generation t hgeneration ht => ?_
  refine ((ends_prepareJournalArtifact journal generation t).mono (fun _ _ h => h)
    fun _ _ h => ht.grows.trans h).bind fun artifact u hu => ?_
  refine ends_ofResult (fun pointer hpointer => ?_) fun _ _ => ht.grows.trans hu.1
  obtain ⟨hvalid, rfl, hpriorGeneration, hidentity, hsave, rfl⟩ :=
    GpuCheckpointAuthorityPointerV1.of_tryNew hpointer
  rw [now_ofResult] at hgeneration
  exact ⟨ht.grows.trans hu.1, ⟨hvalid, hgeneration, hpriorGeneration, hu.2⟩, hsave, hidentity⟩

/-! ### Replacing the public file -/

/-- The public file is replaced, and everything else kept. -/
structure Replaces (m : GpuDurableSaveManifest Rest) (v : Option Bytes) (d t : Disk Utf8) :
    Prop where
  adds : AddsBut m.saveName m.Reserved d.files t.files
  publicFile : t.files m.saveName = v
  moves : d.moves.length ≤ t.moves.length

theorem Replaces.of_grows {d t : Disk Utf8} (h : Grows m.Reserved d t) :
    m.Replaces (d.files m.saveName) d t :=
  ⟨h.adds.addsBut, h.adds _ (.inl (.inl rfl)), by rw [h.moves]⟩

theorem Replaces.trans {d t u : Disk Utf8} {v w : Option Bytes} (h : m.Replaces v d t)
    (h' : m.Replaces w t u) : m.Replaces w d u :=
  ⟨h.adds.trans h'.adds, h'.publicFile, h.moves.trans h'.moves⟩

theorem Replaces.same {d t u : Disk Utf8} {v : Option Bytes} (h : m.Replaces v d t)
    (hsame : Same t u) : m.Replaces v d u := by
  have hback := Replaces.of_grows (m := m) hsame.grows
  rw [h.publicFile] at hback
  exact h.trans hback

/-- With the old public file back, nothing was lost. -/
theorem Replaces.restored {d t : Disk Utf8} (h : m.Replaces (d.files m.saveName) d t) :
    Adds m.Reserved d.files t.files :=
  h.adds.adds h.publicFile

theorem ends_prepareAtomicManifest (bytes : Bytes) (d : Disk Utf8) :
    Ends (m.prepareAtomicManifest bytes) d
      (fun temporary t => Made m.Reserved temporary d t ∧ t.files temporary = some bytes)
      (fun _ => Grows m.Reserved d) := by
  unfold prepareAtomicManifest
  refine ((ends_nextCounter d).mono (fun _ _ h => h) fun _ _ h => h.elim).bind fun nonce t₀ h₀ => ?_
  obtain ⟨rfl, rfl⟩ := h₀
  have hcounter : Grows m.Reserved d { d with counter := d.counter + 1 } := ⟨.refl _, rfl⟩
  refine ((ends_createNew_made (temporaryName_not_reserved d.counter) _).mono (fun _ _ h => h)
    fun _ _ h => hcounter.trans h).bind fun _ t ht => ?_
  have hwritten : Ends (do
      Disk.write (m.temporaryName d.counter) bytes
      Disk.access : IoBody Unit) t
      (fun _ u => Made m.Reserved (m.temporaryName d.counter) { d with counter := d.counter + 1 } u
        ∧ u.files (m.temporaryName d.counter) = some bytes)
      (fun _ => Made m.Reserved (m.temporaryName d.counter)
        { d with counter := d.counter + 1 }) := by
    refine (ends_write_made ht).bind fun _ u hu => ?_
    refine (ends_access u).mono (fun _ v hv => ⟨hu.1.same hv, ?_⟩) fun _ v hv => hu.1.same hv
    rw [hv.files, hu.2]
  refine hwritten.attempt_bind (fun _ u hu => ?_) fun e u hu => ?_
  · exact ends_pure ⟨⟨hcounter.trans hu.1.grows, hu.1.free, hu.1.new⟩, hu.2⟩
  · exact (ends_discard hu _).mono (fun _ _ h => h) fun _ _ h => hcounter.trans h

/-- A replacement fails before its rename or after it; it rolls nothing back. -/
theorem ends_writeAtomicManifest (bytes : Bytes) (d : Disk Utf8) :
    Ends (m.writeAtomicManifest bytes) d
      (fun _ t => m.Replaces (some bytes) d t ∧ d.moves.length < t.moves.length)
      (fun e t => Grows m.Reserved d t ∨ (m.Replaces (some bytes) d t ∧
        d.moves.length < t.moves.length ∧ ¬e.RolledBack)) := by
  unfold writeAtomicManifest
  refine ((ends_prepareAtomicManifest bytes d).mono (fun _ _ h => h) fun _ _ h => .inl h).bind
    fun temporary t ht => ?_
  obtain ⟨hmade, hbytes⟩ := ht
  have hrename : Ends (Disk.rename temporary m.saveName : IoBody Unit) t
      (fun _ u => u.files temporary = none ∧ m.Replaces (some bytes) d u ∧
        d.moves.length < u.moves.length)
      (fun _ => Made m.Reserved temporary d) := by
    refine (ends_rename temporary m.saveName t).mono (fun _ u hu => ?_)
      fun _ u hu => hmade.same hu
    obtain ⟨bytes', hbytes', hfiles, hmoves⟩ := hu
    rw [hbytes] at hbytes'
    obtain rfl := Option.some.inj hbytes'
    have hne : temporary ≠ m.saveName := fun h => hmade.free (.inl h)
    have hlonger : d.moves.length < u.moves.length := by
      rw [hmoves, hmade.grows.moves, List.length_cons]
      exact Nat.lt_succ_self _
    refine ⟨?_, ⟨?_, ?_, hlonger.le⟩, hlonger⟩
    · rw [hfiles, Function.update_of_ne hne, Function.update_self]
    · rw [hfiles]
      exact (hmade.grows.adds.update hmade.free hmade.new none).addsBut.update_swapped _
    · rw [hfiles, Function.update_self]
  have hcommit : Ends (m.commitPreparedManifest temporary) t
      (fun _ u => m.Replaces (some bytes) d u ∧ d.moves.length < u.moves.length)
      (fun _ u => Made m.Reserved temporary d u ∨ (u.files temporary = none ∧
        m.Replaces (some bytes) d u ∧ d.moves.length < u.moves.length)) := by
    refine (hrename.mono (fun _ _ h => h) fun _ _ h => .inl h).bind fun _ u hu => ?_
    refine (ends_access u).mono (fun _ v hv => ?_) fun _ v hv => .inr ?_
    · exact ⟨hu.2.1.same hv, by rw [hv.moves]; exact hu.2.2⟩
    · exact ⟨by rw [hv.files]; exact hu.1, hu.2.1.same hv, by rw [hv.moves]; exact hu.2.2⟩
  have hio (kind : IoErrorKind) : ¬(GpuRuntimeError.io kind).RolledBack := by
    rintro ⟨_, _, h⟩
    cases h
  refine hcommit.attempt_bind (fun _ u hu => ?_) fun e u hu => ?_
  · have hkept {v : Disk Utf8} (hv : Same u v) :
        m.Replaces (some bytes) d v ∧ d.moves.length < v.moves.length :=
      ⟨hu.1.same hv, by rw [hv.moves]; exact hu.2⟩
    refine ((ends_read_kind m.saveName u).mono (fun _ _ h => h) fun e v hv => ?_).bind
      fun found v hv => ?_
    · obtain ⟨hsame, kind, rfl, -⟩ := hv
      exact .inr ⟨(hkept hsame).1, (hkept hsame).2, hio kind⟩
    · refine ends_ofResult (fun _ _ => hkept hv.2) fun e he => ?_
      refine .inr ⟨(hkept hv.2).1, (hkept hv.2).2, ?_⟩
      rintro ⟨_, _, rfl⟩
      unfold refuse at he
      split_ifs at he
      cases he
  · rcases hu with hu | ⟨hgone, hu, hmoved⟩
    · exact (ends_discard hu _).mono (fun _ _ h => h) fun _ _ h => .inl h
    · -- the temporary file is gone already, it is the public file now
      refine (ends_removeFile temporary u).attempt_bind (fun _ v hv => ?_) fun _ v hv => ?_
      · have hfiles : v.files = u.files := by rw [hv.1, ← hgone, Function.update_eq_self]
        have hlonger : d.moves.length < v.moves.length := by
          rw [hv.2]
          exact hmoved
        refine ends_throw (.inr ⟨⟨?_, ?_, hlonger.le⟩, hlonger, hio e⟩)
        · rw [hfiles]
          exact hu.adds
        · rw [hfiles]
          exact hu.publicFile
      · exact ends_throw (.inr ⟨hu.same hv, by rw [hv.moves]; exact hmoved, hio e⟩)

end GpuDurableSaveManifest

end ALife
