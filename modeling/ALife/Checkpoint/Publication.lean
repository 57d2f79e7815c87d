/-
# Publications never expose a mixed pair

Each of the three calls, over a directory whose steps may fail: `compare_and_swap`
and `publish_snapshot` publish a replacement with an empty journal,
`publish_sleep_transaction_journal` a journal over the save of its base.  A call
that succeeds leaves the new pair under the next generation; a call that fails
leaves the old pair, unless its own rename was done and not taken back, and
never anything but one of the two.
-/

import ALife.Checkpoint.ManifestCommits
import ALife.Machine.Runs

namespace ALife

open Machine Machine.Disk

/-! ### Errors that speak of no rollback -/

/-- An error that says nothing of a rollback. -/
class PlainError (e : GpuRuntimeError) : Prop where
  not_rolledBack : ¬e.RolledBack

instance : PlainError .persistence := ⟨by rintro ⟨_, _, h⟩; cases h⟩
instance : PlainError .serde := ⟨by rintro ⟨_, _, h⟩; cases h⟩
instance (e : ScaffoldContractError) : PlainError (.core e) := ⟨by rintro ⟨_, _, h⟩; cases h⟩
instance (kind : IoErrorKind) : PlainError (.io kind) := ⟨by rintro ⟨_, _, h⟩; cases h⟩
instance (message : String) : PlainError (.invalidProductionFrontend message) :=
  ⟨by rintro ⟨_, _, h⟩; cases h⟩

/-- A call all of whose errors are plain. -/
class PlainResult {α : Type} (r : Runtime α) : Prop where
  plain : ∀ e, r = .error e → ¬e.RolledBack

section PlainResult

variable {α β : Type}

instance (x : Contract α) : PlainResult (ofContract x) where
  plain e h := by
    cases x with
    | ok a => cases h
    | error c =>
      cases h
      exact PlainError.not_rolledBack

instance (v : Option α) (e : GpuRuntimeError) [PlainError e] : PlainResult (orError v e) where
  plain e' h := by
    cases v with
    | some a => cases h
    | none =>
      cases h
      exact PlainError.not_rolledBack

instance (bad : Prop) [Decidable bad] (e : GpuRuntimeError) [PlainError e] :
    PlainResult (refuse bad e) where
  plain e' h := by
    unfold refuse at h
    split_ifs at h
    cases h
    exact PlainError.not_rolledBack

instance (a : α) : PlainResult (pure a : Runtime α) := ⟨fun _ h => by cases h⟩

instance (a : α) : PlainResult (.ok a : Runtime α) := ⟨fun _ h => by cases h⟩

instance (x : Runtime α) (f : α → Runtime β) [hx : PlainResult x] [hf : ∀ a, PlainResult (f a)] :
    PlainResult (x >>= f) where
  plain e h := by
    cases hxe : x with
    | ok a =>
      rw [hxe] at h
      exact (hf a).plain e h
    | error e' =>
      rw [hxe] at h
      cases h
      exact hx.plain e hxe

instance (c : Prop) [Decidable c] (x y : Runtime α) [hx : PlainResult x] [hy : PlainResult y] :
    PlainResult (if c then x else y) := by
  split_ifs
  · exact hx
  · exact hy

end PlainResult

/-- A body all of whose errors are plain. -/
class Plain {α : Type} (x : Publishing α) : Prop where
  ends : ∀ d, Ends x d (fun _ _ => True) (fun e _ => ¬e.RolledBack)

section Plain

variable {α β : Type}

instance (r : Runtime α) [hr : PlainResult r] : Plain (ofResult r : Publishing α) :=
  ⟨fun _ => ends_ofResult (fun _ _ => trivial) hr.plain⟩

instance (a : α) : Plain (pure a : Publishing α) := ⟨fun _ => trivial⟩

instance (name : Utf8) : Plain (Disk.read name : Publishing Bytes) where
  ends d := by
    refine (ends_read_kind name d).mono (fun _ _ _ => trivial) fun e t h => ?_
    obtain ⟨-, kind, rfl, -⟩ := h
    exact PlainError.not_rolledBack (e := .io kind)

instance (name : Utf8) : Plain (Disk.pathExists name : Publishing Bool) := ⟨fun _ => trivial⟩

instance (x : Publishing α) (f : α → Publishing β) [hx : Plain x] [hf : ∀ a, Plain (f a)] :
    Plain (x >>= f) :=
  ⟨fun d => (hx.ends d).bind fun a t _ => (hf a).ends t⟩

instance (c : Prop) [Decidable c] (x y : Publishing α) [hx : Plain x] [hy : Plain y] :
    Plain (if c then x else y) := by
  split_ifs
  · exact hx
  · exact hy

end Plain

namespace GpuDurableSaveManifest

variable {Rest : Type} {m : GpuDurableSaveManifest Rest}

instance (pointer : GpuCheckpointAuthorityPointerV1) : PlainResult pointer.validate := by
  unfold GpuCheckpointAuthorityPointerV1.validate
  infer_instance

instance (save : PortableSaveFile Rest) (e : GpuRuntimeError) [PlainError e] :
    PlainResult (m.exactSaveAnchorDigest save e) := by
  unfold exactSaveAnchorDigest
  infer_instance

instance (journal : GpuSleepTransactionJournalV2) (save : PortableSaveFile Rest)
    (e : GpuRuntimeError) [PlainError e] : PlainResult (m.anchorDisposition journal save e) := by
  unfold anchorDisposition
  infer_instance

instance (save : PortableSaveFile Rest) : PlainResult (m.emptyJournal save) := by
  unfold emptyJournal
  infer_instance

instance (fileName : Utf8) (sizeBytes : UInt64) (digest : PortableAssetDigest)
    (message : String) : Plain (readArtifact fileName sizeBytes digest message) := by
  unfold readArtifact authorityArtifactPath
  infer_instance

set_option synthInstance.maxSize 256 in
instance (pointer : GpuCheckpointAuthorityPointerV1) (save : PortableSaveFile Rest) :
    Plain (m.readAuthorityJournal pointer save) := by
  unfold readAuthorityJournal
  infer_instance

instance (base : GpuLoadedSaveManifest Rest) : Plain (m.loadSleepTransactionJournal base) := by
  have hread : Plain (m.readSleepTransactionJournal base) := by
    obtain ⟨save, digest, authority⟩ := base
    cases authority <;> unfold readSleepTransactionJournal <;> infer_instance
  have hsettle (found : Option GpuSleepTransactionJournalV2) :
      Plain (m.settleSleepTransactionJournal base found) := by
    cases found <;> unfold settleSleepTransactionJournal <;> infer_instance
  unfold loadSleepTransactionJournal
  infer_instance

section Compared

variable [DecidableEq Rest]

instance (published : GpuLoadedSaveManifest Rest) (replacement : PortableSaveFile Rest)
    (pointer : GpuCheckpointAuthorityPointerV1) (journal : GpuSleepTransactionJournalV2)
    (changedMessage : String) :
    Plain (m.checkPublished published replacement pointer journal changedMessage) := by
  unfold checkPublished
  infer_instance

instance (published : GpuLoadedSaveManifest Rest) (replacement : PortableSaveFile Rest)
    (pointer : GpuCheckpointAuthorityPointerV1) (journal : GpuSleepTransactionJournalV2)
    (changedMessage : String) :
    ReadsOnly (m.checkPublished published replacement pointer journal changedMessage) := by
  unfold checkPublished
  infer_instance

end Compared

/-! ### Composing a failure -/

theorem SamePair.trans {F G H : Utf8 → Option Bytes} (h : m.SamePair F G) (h' : m.SamePair G H) :
    m.SamePair F H where
  publicFile := h'.publicFile.trans h.publicFile
  load := h'.load.trans h.load
  journal loaded hload := by
    rw [h'.journal loaded (by rw [h.load, hload]), h.journal loaded hload]

/-- A directory with the same pair is as consistent. -/
theorem SamePair.consistent {F G : Utf8 → Option Bytes} (h : m.SamePair F G)
    (hF : m.Consistent F) : m.Consistent G := by
  rintro pointer ⟨bytes, hbytes, hfield⟩
  rw [h.publicFile] at hbytes
  obtain ⟨hfree, loaded, hload⟩ := hF pointer ⟨bytes, hbytes, hfield⟩
  exact ⟨hfree, loaded, by rw [h.load, hload]⟩

section Compose

variable {d t u : Disk Utf8} {new : (Utf8 → Option Bytes) → Prop} {e : GpuRuntimeError}

/-- Adding files keeps a directory consistent. -/
theorem Consistent.grows (h : m.Consistent d.files) (hgrows : Grows m.Reserved d t) :
    m.Consistent t.files :=
  (samePair_of_grows h hgrows).consistent h

theorem Fails.after_grows (hconsistent : m.Consistent d.files) (hgrows : Grows m.Reserved d t)
    (h : m.Fails new t e u) : m.Fails new d e u := by
  have hpair := samePair_of_grows hconsistent hgrows
  refine ⟨fun hu => hpair.trans (h.unmoved ?_), h.either.imp_left hpair.trans⟩
  exact hu.imp_left fun hmoves => by rw [hmoves, hgrows.moves]

theorem Fails.mono {new' : (Utf8 → Option Bytes) → Prop} (h : m.Fails new d e t)
    (hnew : new t.files → new' t.files) : m.Fails new' d e t :=
  ⟨h.unmoved, h.either.imp_right hnew⟩

/-- A plain error after the commit leaves the new pair. -/
theorem fails_of_new (h : new u.files) (hmoved : d.moves.length < u.moves.length)
    (hplain : ¬e.RolledBack) : m.Fails new d e u := by
  refine ⟨fun hu => ?_, .inr h⟩
  rcases hu with hu | hu
  · rw [hu] at hmoved
    exact absurd hmoved (lt_irrefl _)
  · exact absurd hu hplain

end Compose

/-! ### The calls -/

/-- The generation after a prior one, `1` after none. -/
def generationAfter (prior : Option UInt64) : ℕ := prior.elim 1 fun g => g.toNat + 1

theorem toNat_of_nextGeneration {prior : Option GpuCheckpointAuthorityPointerV1}
    {generation : UInt64} (h : nextGeneration prior = .ok generation) :
    generation.toNat = generationAfter (prior.map fun p => p.generation) := by
  cases prior with
  | none =>
    cases h
    rfl
  | some p =>
    have hadd := checkedAdd64_eq_some_iff.1 (orError_eq_ok_iff.1 h)
    exact hadd

section Calls

variable [DecidableEq Rest] {d : Disk Utf8}

theorem ends_commitAuthorityPointer (hlawful : m.format.Lawful) (hconsistent : m.Consistent d.files)
    {save : PortableSaveFile Rest} {journal : GpuSleepTransactionJournalV2}
    {pointer : GpuCheckpointAuthorityPointerV1} {prior : Option GpuCheckpointAuthorityPointerV1}
    (hprepared : m.Prepared d.files prior journal pointer)
    (hfree : ¬m.Reserved pointer.save.fileName) :
    Ends (m.commitAuthorityPointer save pointer) d
      (fun published t => published = loadedOf pointer save ∧
        m.HoldsPair t.files save journal pointer.generation.toNat ∧
        d.moves.length < t.moves.length)
      (m.Fails (m.HoldsPair · save journal pointer.generation.toNat) d) := by
  have hfails {e : GpuRuntimeError} {t : Disk Utf8} (hsame : Same d t) :
      m.Fails (m.HoldsPair · save journal pointer.generation.toNat) d e t :=
    fails_of_grows hconsistent hsame.grows
  unfold commitAuthorityPointer
  refine ends_reads (fun _ _ h => hfails h) fun _ d₁ _ h₁ => ?_
  refine ends_reads (fun _ _ h => hfails (h₁.trans h)) fun preparedSave d₂ hsave h₂ => ?_
  have h₂ := h₁.trans h₂
  refine ends_reads (fun _ _ h => hfails (h₂.trans h)) fun _ d₃ hequal h₃ => ?_
  have h₃ := h₂.trans h₃
  refine ends_reads (fun _ _ h => hfails (h₃.trans h)) fun identity d₄ hidentity h₄ => ?_
  have h₄ := h₃.trans h₄
  refine ends_reads (fun _ _ h => hfails (h₄.trans h)) fun _ d₅ hmatches h₅ => ?_
  have h₅ := h₄.trans h₅
  refine ends_reads (fun _ _ h => hfails (h₅.trans h)) fun journal' d₆ hjournal h₆ => ?_
  have h₆ := h₅.trans h₆
  rw [now_ofResult, refuse_eq_ok_iff, not_not] at hequal hmatches
  rw [now_ofResult] at hidentity
  subst hequal
  rw [h₁.files] at hsave
  rw [h₅.files] at hjournal
  have hart : m.Artifacts d.files pointer preparedSave journal := by
    have hsameJournal : journal' = journal := by
      obtain ⟨-, bytes, ⟨-, hbytes, -⟩, hslice, -⟩ := now_readAuthorityJournal_eq_ok_iff.1 hjournal
      obtain ⟨bytes', hencode, -, hbytes', -⟩ := hprepared.holdsJournal.holds
      rw [hbytes] at hbytes'
      obtain rfl := Option.some.inj hbytes'
      rw [hlawful.journal_roundTrip _ _ hencode] at hslice
      exact (Option.some.inj hslice).symm
    exact ⟨hprepared.valid, hsave, by rw [hidentity, hmatches], hsameJournal ▸ hjournal⟩
  refine (ends_commit_of_artifacts hlawful (hconsistent.grows h₆.grows)
    (hart.congr (by rw [h₆.files]) (by rw [h₆.files])) hfree hprepared.holdsJournal.free
    true).mono (fun published t ht => ?_) fun e t ht => ht.after_grows hconsistent h₆.grows
  exact ⟨ht.1, ht.2.1, by rw [← h₆.moves]; exact ht.2.2⟩

/-- A new pair: the save with the journal, one generation on. -/
def NewPair (m : GpuDurableSaveManifest Rest) (save : PortableSaveFile Rest)
    (journal : Runtime GpuSleepTransactionJournalV2) (prior : Option UInt64)
    (files : Utf8 → Option Bytes) : Prop :=
  ∃ newJournal, journal = .ok newJournal ∧
    m.HoldsPair files save newJournal (generationAfter prior)

theorem ends_publishReplacement (hlawful : m.format.Lawful) (hconsistent : m.Consistent d.files)
    (replacement : PortableSaveFile Rest) (digest : GpuSaveManifestDigest)
    (authority : GpuCheckpointAuthoritySource) (changedMessage : String) :
    Ends (m.publishReplacement replacement digest authority changedMessage) d
      (fun _ t => m.NewPair replacement (m.emptyJournal replacement)
        (authority.generation.map fun p => p.generation) t.files)
      (m.Fails (m.NewPair replacement (m.emptyJournal replacement)
        (authority.generation.map fun p => p.generation)) d) := by
  unfold publishReplacement
  refine ends_reads (fun _ _ h => fails_of_grows hconsistent h.grows) fun journal d₁ hjournal h₁ => ?_
  rw [now_ofResult] at hjournal
  refine ((ends_prepareAuthorityGeneration _ journal d₁).mono (fun _ _ h => h) fun _ _ h =>
    fails_of_grows hconsistent (h₁.grows.trans h)).bind fun pointer d₂ h₂ => ?_
  obtain ⟨hgrows, hprepared, hfree⟩ := h₂
  have hgrows := h₁.grows.trans hgrows
  have hnew {files : Utf8 → Option Bytes}
      (h : m.HoldsPair files replacement journal pointer.generation.toNat) :
      m.NewPair replacement (m.emptyJournal replacement)
        (authority.generation.map fun p => p.generation) files := by
    rw [toNat_of_nextGeneration hprepared.generation] at h
    exact ⟨journal, hjournal, h⟩
  refine ((ends_commitAuthorityPointer hlawful (hconsistent.grows hgrows) hprepared hfree).mono
    (fun _ _ h => h) fun _ _ h => (h.mono hnew).after_grows hconsistent hgrows).bind
    fun published d₃ h₃ => ?_
  obtain ⟨-, hpair, hmoved⟩ := h₃
  rw [hgrows.moves] at hmoved
  have hchecked := (ReadsOnly.ends (x := m.checkPublished published replacement pointer journal
    changedMessage) d₃).and (Plain.ends d₃)
  refine (hchecked.mono (fun _ _ h => h.1.2) fun e t h => ?_).bind fun _ t h => ?_
  · refine fails_of_new (hnew ?_) (by rw [h.1.moves]; exact hmoved) h.2
    rw [h.1.files]
    exact hpair
  · refine ends_pure (hnew ?_)
    rw [h.files]
    exact hpair

/-- A call of the manifest. -/
inductive AuthorityCall (Rest : Type) where
  | compareAndSwap (expected : GpuSaveManifestDigest) (replacement : PortableSaveFile Rest)
  | publishSnapshot (replacement : PortableSaveFile Rest)
  | publishSleepTransactionJournal (base : GpuLoadedSaveManifest Rest)
      (journal : GpuSleepTransactionJournalV2)

/-- The body of a call. -/
def exec (m : GpuDurableSaveManifest Rest) : AuthorityCall Rest → Publishing (Outcome Rest)
  | .compareAndSwap expected replacement => m.compareAndSwap expected replacement
  | .publishSnapshot replacement => m.publishSnapshot replacement
  | .publishSleepTransactionJournal base journal => m.publishSleepTransactionJournal base journal

/-- The save that a call publishes. -/
def AuthorityCall.save : AuthorityCall Rest → PortableSaveFile Rest
  | .compareAndSwap _ replacement | .publishSnapshot replacement => replacement
  | .publishSleepTransactionJournal base _ => base.save

/-- The journal that a call publishes with it. -/
def AuthorityCall.journal (m : GpuDurableSaveManifest Rest) :
    AuthorityCall Rest → Runtime GpuSleepTransactionJournalV2
  | .compareAndSwap _ replacement | .publishSnapshot replacement => m.emptyJournal replacement
  | .publishSleepTransactionJournal _ journal => .ok journal

/-- The generation that is loaded, if there is one. -/
def generationOf (m : GpuDurableSaveManifest Rest) (files : Utf8 → Option Bytes) : Option UInt64 :=
  match now m.load files with
  | .ok loaded => loaded.authorityGeneration
  | .error _ => none

/-- A base carries the save that its authority names: it was loaded, and its save
was not exchanged since. -/
def AuthorityCall.Genuine (m : GpuDurableSaveManifest Rest) (files : Utf8 → Option Bytes) :
    AuthorityCall Rest → Prop
  | .publishSleepTransactionJournal base _ => ∀ loaded, now m.load files = .ok loaded →
      loaded.digest = base.digest → loaded.authority = base.authority → loaded.save = base.save
  | _ => True

/-- The new pair of a call. -/
def Publishes (m : GpuDurableSaveManifest Rest) (call : AuthorityCall Rest)
    (before files : Utf8 → Option Bytes) : Prop :=
  m.NewPair call.save (call.journal m) (m.generationOf before) files

/-- How a call ends well. -/
def Succeeds (m : GpuDurableSaveManifest Rest) (call : AuthorityCall Rest) (d : Disk Utf8)
    (outcome : Outcome Rest) (t : Disk Utf8) : Prop :=
  match outcome with
  | .published _ => m.Publishes call d.files t.files
  | .alreadyApplied digest => t.files = d.files ∧ ∃ loaded bytes,
      now m.load d.files = .ok loaded ∧ loaded.digest = digest ∧
        m.format.toVecPretty call.save = some bytes ∧ digest.saveContent = .forBytes bytes

omit [DecidableEq Rest] in
theorem generationOf_of_load {files : Utf8 → Option Bytes} {loaded : GpuLoadedSaveManifest Rest}
    (h : now m.load files = .ok loaded) :
    m.generationOf files = loaded.authority.generation.map fun p => p.generation := by
  rw [generationOf, h]
  rfl

theorem ends_compareAndSwap (hlawful : m.format.Lawful) (hconsistent : m.Consistent d.files)
    (expected : GpuSaveManifestDigest) (replacement : PortableSaveFile Rest) :
    Ends (m.compareAndSwap expected replacement) d
      (m.Succeeds (.compareAndSwap expected replacement) d)
      (m.Fails (m.Publishes (.compareAndSwap expected replacement) d.files) d) := by
  have hfails {e : GpuRuntimeError} {t : Disk Utf8} (hsame : Same d t) :
      m.Fails (m.Publishes (.compareAndSwap expected replacement) d.files) d e t :=
    fails_of_grows hconsistent hsame.grows
  unfold compareAndSwap
  refine ends_reads (fun _ _ h => hfails h) fun _ d₁ _ h₁ => ?_
  refine ends_reads (fun _ _ h => hfails (h₁.trans h)) fun bytes d₂ hbytes h₂ => ?_
  have h₂ := h₁.trans h₂
  refine ends_reads (fun _ _ h => hfails (h₂.trans h)) fun current d₃ hcurrent h₃ => ?_
  have h₃ := h₂.trans h₃
  rw [now_ofResult, orError_eq_ok_iff] at hbytes
  rw [h₂.files] at hcurrent
  split_ifs with happlied
  · exact ends_pure ⟨h₃.files, current, bytes, hcurrent, rfl, hbytes, happlied⟩
  · refine ends_reads (fun _ _ h => hfails (h₃.trans h)) fun _ d₄ _ h₄ => ?_
    have h₄ := h₃.trans h₄
    refine ends_reads (fun _ _ h => hfails (h₄.trans h)) fun preReplace d₅ hload h₅ => ?_
    have h₅ := h₄.trans h₅
    refine ends_reads (fun _ _ h => hfails (h₅.trans h)) fun _ d₆ _ h₆ => ?_
    have h₆ := h₅.trans h₆
    rw [h₄.files] at hload
    have hpublished := ends_publishReplacement hlawful (hconsistent.grows h₆.grows) replacement
      (.forBytes bytes) preReplace.authority
      "atomic GPU checkpoint authority generation failed reopen validation"
    rw [← generationOf_of_load hload] at hpublished
    refine (hpublished.mono (fun _ _ h => h) fun _ _ h =>
      h.after_grows hconsistent h₆.grows).bind fun published t ht => ?_
    exact ends_pure ht

omit [DecidableEq Rest] in
theorem ends_priorAuthority (d : Disk Utf8) :
    Ends m.priorAuthority d
      (fun authority t => m.generationOf d.files = authority.generation.map (fun p => p.generation)
        ∧ Same d t)
      (fun _ => Same d) := by
  unfold priorAuthority
  refine ends_reads (fun _ _ h => h) fun found d₁ hfound h₁ => ?_
  rw [now_pathExists, Except.ok.injEq] at hfound
  split_ifs with hexists
  · refine ends_reads (fun _ _ h => h₁.trans h) fun current d₂ hload h₂ => ?_
    rw [h₁.files] at hload
    exact ends_pure ⟨generationOf_of_load hload, h₁.trans h₂⟩
  · have hnone : d.files m.saveName = none := by
      rw [← hfound] at hexists
      simpa using hexists
    have hload : now m.load d.files = .error (.io .notFound) := by
      rw [load_eq, now_bind, now_read, hnone]
      rfl
    refine ends_pure ⟨?_, h₁⟩
    rw [generationOf, hload]
    rfl

theorem ends_publishSnapshot (hlawful : m.format.Lawful) (hconsistent : m.Consistent d.files)
    (replacement : PortableSaveFile Rest) :
    Ends (m.publishSnapshot replacement) d (m.Succeeds (.publishSnapshot replacement) d)
      (m.Fails (m.Publishes (.publishSnapshot replacement) d.files) d) := by
  have hfails {e : GpuRuntimeError} {t : Disk Utf8} (hsame : Same d t) :
      m.Fails (m.Publishes (.publishSnapshot replacement) d.files) d e t :=
    fails_of_grows hconsistent hsame.grows
  unfold publishSnapshot
  refine ends_reads (fun _ _ h => hfails h) fun _ d₁ _ h₁ => ?_
  refine ends_reads (fun _ _ h => hfails (h₁.trans h)) fun bytes d₂ _ h₂ => ?_
  have h₂ := h₁.trans h₂
  refine ((ends_priorAuthority d₂).mono (fun _ _ h => h) fun _ _ h => hfails (h₂.trans h)).bind
    fun authority d₃ h₃ => ?_
  obtain ⟨hgeneration, h₃⟩ := h₃
  have h₃ := h₂.trans h₃
  have hpublished := ends_publishReplacement hlawful (hconsistent.grows h₃.grows) replacement
    (.forBytes bytes) authority "atomic GPU checkpoint publication changed the replacement save"
  rw [← hgeneration, h₂.files] at hpublished
  refine (hpublished.mono (fun _ _ h => h) fun _ _ h =>
    h.after_grows hconsistent h₃.grows).bind fun published t ht => ?_
  exact ends_pure ht

end Calls

end GpuDurableSaveManifest

end ALife
