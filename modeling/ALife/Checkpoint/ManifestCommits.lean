/-
# Committing a pointer

The commit reads the old public file, renames the new one into place and reopens
it; when the reopening fails it puts the old file back.  `HoldsPair` is what a
reader then sees: one save and the journal anchored to it, under one generation.
A call ends in one of the two public files, and everything else is kept.
-/

import ALife.Checkpoint.ManifestWrites

namespace ALife

open Machine Machine.Disk

namespace GpuDurableSaveManifest

variable {Rest : Type} {m : GpuDurableSaveManifest Rest}

/-! ### Rolling back -/

theorem ends_restorePriorAuthorityPointer (prior : Option Bytes) (generation : Option UInt64)
    (d : Disk Utf8) :
    Ends (m.restorePriorAuthorityPointer prior generation) d (fun _ => m.Replaces prior d)
      (fun _ t => m.Replaces (d.files m.saveName) d t ∨ m.Replaces prior d t) := by
  cases prior with
  | some bytes =>
    unfold restorePriorAuthorityPointer
    refine ((ends_writeAtomicManifest bytes d).mono (fun _ _ h => h.1) fun _ t h => ?_).bind
      fun _ t ht => ?_
    · exact h.imp .of_grows fun h => h.1
    · refine ends_reads (fun _ u hu => .inr (ht.same hu)) fun found u _ hu => ?_
      refine ends_reads (fun _ v hv => .inr ((ht.same hu).same hv)) fun _ v _ hv => ?_
      refine ends_reads (fun _ w hw => .inr (((ht.same hu).same hv).same hw)) fun _ w _ hw => ?_
      have hrestored := ((ht.same hu).same hv).same hw
      exact ends_ofResult (fun _ _ => hrestored) fun _ _ => .inr hrestored
  | none =>
    have hchecked {t : Disk Utf8} (ht : m.Replaces (d.files m.saveName) d t ∨ m.Replaces none d t) :
        Ends (do
          Disk.access
          let found ← Disk.pathExists m.saveName
          run (refuse (found = true) (.invalidProductionFrontend
            "GPU checkpoint new authority pointer rollback left a public manifest")) :
            Publishing Unit) t (fun _ => m.Replaces none d)
          (fun _ t => m.Replaces (d.files m.saveName) d t ∨ m.Replaces none d t) := by
      refine ends_reads (fun _ u hu => ht.imp (·.same hu) (·.same hu)) fun _ u _ hu => ?_
      refine ends_reads (fun _ v hv => ?_) fun found v hfound hv => ?_
      · exact ht.imp (fun h => (h.same hu).same hv) fun h => (h.same hu).same hv
      · have hv' := ht.imp (fun h => (h.same hu).same hv) fun h => (h.same hu).same hv
        refine ends_ofResult (fun _ h => ?_) fun _ _ => hv'
        rw [refuse_eq_ok_iff, Bool.not_eq_true] at h
        rw [now_pathExists, h, Except.ok.injEq] at hfound
        rcases hv' with hv' | hv'
        · refine ⟨hv'.adds, ?_, hv'.moves⟩
          rw [hv.files]
          exact Option.isSome_eq_false_iff.1 hfound |> Option.isNone_iff_eq_none.1
        · exact hv'
    unfold restorePriorAuthorityPointer
    refine (ends_removeFile m.saveName d).attempt_bind (fun _ t ht => ?_) fun e t ht => ?_
    · refine hchecked (.inr ⟨?_, ?_, by rw [ht.2]⟩)
      · rw [ht.1]
        exact (Adds.refl d.files).addsBut.update_swapped none
      · rw [ht.1, Function.update_self]
    · have hkept := Replaces.of_grows (m := m) ht.grows
      cases e with
      | notFound => exact hchecked (.inl hkept)
      | alreadyExists => exact ends_throw (.inl hkept)
      | other => exact ends_throw (.inl hkept)

/-- The old public file is read before it is replaced. -/
theorem ends_readPriorPublicPointer (d : Disk Utf8) :
    Ends m.readPriorPublicPointer d (fun prior t => prior = d.files m.saveName ∧ Same d t)
      (fun _ => Same d) := by
  unfold readPriorPublicPointer
  refine (ends_read_kind m.saveName d).attempt_bind (fun bytes t ht => ?_) fun e t ht => ?_
  · exact ends_pure ⟨ht.1.symm, ht.2⟩
  · cases e with
    | notFound =>
      obtain ⟨kind, hkind, hnone⟩ := ht.2
      exact ends_pure ⟨(hnone hkind.symm).symm, ht.1⟩
    | alreadyExists => exact ends_throw ht.1
    | other => exact ends_throw ht.1

/-! ### The commit -/

instance (save : PortableSaveFile Rest) (pointer : GpuCheckpointAuthorityPointerV1)
    (reload : Bool) : ReadsOnly (m.reopen save pointer reload) := by
  unfold reopen
  infer_instance

/-- How a commit of the encoded public file may fail: before the rename, or after
it with one of the two public files in place, the old one if it says so. -/
def CommitFails (m : GpuDurableSaveManifest Rest) (encoded : Runtime Bytes) (d : Disk Utf8)
    (e : GpuRuntimeError) (t : Disk Utf8) : Prop :=
  Grows m.Reserved d t ∨
    (d.moves.length < t.moves.length ∧
      (m.Replaces (d.files m.saveName) d t ∨
        (¬e.RolledBack ∧ ∃ bytes, encoded = .ok bytes ∧ m.Replaces (some bytes) d t)))

theorem ends_commitPrevalidatedAuthorityPointer (save : PortableSaveFile Rest)
    (pointer : GpuCheckpointAuthorityPointerV1) (reload : Bool) (d : Disk Utf8) :
    Ends (m.commitPrevalidatedAuthorityPointer save pointer reload) d
      (fun reopened t => now (m.reopen save pointer reload) t.files = .ok reopened ∧
        d.moves.length < t.moves.length ∧
        ∃ bytes, m.encodeAuthoritativeSave save pointer = .ok bytes ∧
          m.Replaces (some bytes) d t)
      (m.CommitFails (m.encodeAuthoritativeSave save pointer) d) := by
  unfold commitPrevalidatedAuthorityPointer
  refine ((ends_readPriorPublicPointer d).mono (fun _ _ h => h) fun _ _ h => .inl h.grows).bind
    fun prior t ht => ?_
  obtain ⟨rfl, hsame⟩ := ht
  refine ends_reads (fun _ u hu => .inl (hsame.trans hu).grows) fun _ u _ hu => ?_
  have hsame := hsame.trans hu
  refine ends_reads (fun _ v hv => .inl (hsame.trans hv).grows) fun encoded v hencoded hv => ?_
  have hsame := hsame.trans hv
  rw [now_ofResult] at hencoded
  refine ((ends_writeAtomicManifest encoded v).mono (fun _ _ h => h) fun e w hw => ?_).bind
    fun _ w hw => ?_
  · rcases hw with hw | ⟨hw, hmoved, hnot⟩
    · exact .inl (hsame.grows.trans hw)
    · rw [hsame.moves] at hmoved
      exact .inr ⟨hmoved, .inr ⟨hnot, encoded, hencoded,
        (Replaces.of_grows hsame.grows).trans hw⟩⟩
  obtain ⟨hreplaced, hmoved⟩ := hw
  have hreplaced : m.Replaces (some encoded) d w := (Replaces.of_grows hsame.grows).trans hreplaced
  rw [hsame.moves] at hmoved
  have hreopen := ReadsOnly.ends (x := m.reopen save pointer reload) w
  refine hreopen.attempt_bind (fun reopened x hx => ?_) fun e x hx => ?_
  · refine ends_pure ⟨?_, ?_, encoded, hencoded, hreplaced.same hx.2⟩
    · rw [hx.2.files]
      exact hx.1
    · rw [hx.2.moves]
      exact hmoved
  · have hmoved : d.moves.length < x.moves.length := by
      rw [hx.moves]
      exact hmoved
    have hreplaced := hreplaced.same hx
    refine (ends_restorePriorAuthorityPointer (d.files m.saveName) pointer.priorGeneration
      x).attempt_bind (fun _ y hy => ?_) fun e y hy => ?_
    · exact ends_throw (.inr ⟨hmoved.trans_le hy.moves, .inl (hreplaced.trans hy)⟩)
    · refine ends_throw (.inr ?_)
      have hnot : ¬(GpuRuntimeError.gpuCheckpointAuthorityPostCommitValidation pointer.generation
          (pointer.priorGeneration.getD 0) (Except.error e : Runtime Unit).isOk).RolledBack := by
        rintro ⟨_, _, h⟩
        cases h
      rcases hy with hy | hy
      · rw [hreplaced.publicFile] at hy
        exact ⟨hmoved.trans_le hy.moves, .inr ⟨hnot, encoded, hencoded, hreplaced.trans hy⟩⟩
      · exact ⟨hmoved.trans_le hy.moves, .inl (hreplaced.trans hy)⟩

/-! ### The pair a reader sees -/

/-- Loading returns the save with the journal anchored to it, under the generation,
in a directory that is consistent. -/
def HoldsPair (m : GpuDurableSaveManifest Rest) (files : Utf8 → Option Bytes)
    (save : PortableSaveFile Rest) (journal : GpuSleepTransactionJournalV2) (generation : ℕ) :
    Prop :=
  ∃ loaded, now m.load files = .ok loaded ∧ loaded.save = save ∧
    loaded.authorityGeneration.map UInt64.toNat = some generation ∧
    now (m.loadSleepTransactionJournal loaded) files = .ok journal ∧
    m.anchorDisposition journal save .serde = .ok .current ∧ m.Consistent files

theorem holdsPair_of_artifacts {files : Utf8 → Option Bytes}
    {pointer : GpuCheckpointAuthorityPointerV1} {save : PortableSaveFile Rest}
    {journal : GpuSleepTransactionJournalV2} (h : m.Artifacts files pointer save journal)
    (hnames : m.NamesAuthority files (some pointer)) (hsave : ¬m.Reserved pointer.save.fileName) :
    m.HoldsPair files save journal pointer.generation.toNat := by
  obtain ⟨-, _, -, -, -, hanchor⟩ := now_readAuthorityJournal_eq_ok_iff.1 h.readJournal
  have hload := load_of_artifacts h hnames
  refine ⟨loadedOf pointer save, hload, rfl, rfl, loadJournal_of_artifacts h, hanchor, ?_⟩
  intro pointer' hnames'
  obtain rfl := Option.some.inj (hnames'.unique hnames)
  exact ⟨hsave, _, hload⟩

/-- How a publication of a new pair may fail: with the old pair, or after the
rename with one of the two, the old one if it says so. -/
structure Fails (m : GpuDurableSaveManifest Rest) (new : (Utf8 → Option Bytes) → Prop)
    (d : Disk Utf8) (e : GpuRuntimeError) (t : Disk Utf8) : Prop where
  unmoved : t.moves = d.moves ∨ e.RolledBack → m.SamePair d.files t.files
  either : m.SamePair d.files t.files ∨ new t.files

section Commit

variable {d : Disk Utf8} {save : PortableSaveFile Rest} {journal : GpuSleepTransactionJournalV2}
  {pointer : GpuCheckpointAuthorityPointerV1}

theorem samePair_of_grows {t : Disk Utf8} (hconsistent : m.Consistent d.files)
    (h : Grows m.Reserved d t) : m.SamePair d.files t.files :=
  samePair_of_adds hconsistent (.inl rfl) (.inr rfl) h.adds

theorem fails_of_grows {new : (Utf8 → Option Bytes) → Prop} {e : GpuRuntimeError}
    {t : Disk Utf8} (hconsistent : m.Consistent d.files) (h : Grows m.Reserved d t) :
    m.Fails new d e t :=
  ⟨fun _ => samePair_of_grows hconsistent h, .inl (samePair_of_grows hconsistent h)⟩

/-- A pointer whose artifacts are in place and whose public file replaced the old one. -/
theorem artifacts_of_replaces {t : Disk Utf8} {bytes : Bytes} (hlawful : m.format.Lawful)
    (hart : m.Artifacts d.files pointer save journal) (hsave : ¬m.Reserved pointer.save.fileName)
    (hjournal : ¬m.Reserved pointer.journal.fileName)
    (hencoded : m.encodeAuthoritativeSave save pointer = .ok bytes)
    (h : m.Replaces (some bytes) d t) :
    m.Artifacts t.files pointer save journal ∧ m.NamesAuthority t.files (some pointer) := by
  refine ⟨hart.keep h.adds (fun he => hsave (.inl he)) fun he => hjournal (.inl he), bytes,
    h.publicFile, ?_⟩
  unfold encodeAuthoritativeSave at hencoded
  obtain ⟨_, -, hencoded⟩ := runtime_bind_eq_ok_iff.1 hencoded
  exact hlawful.authorityField_with _ _ _ (orError_eq_ok_iff.1 hencoded)

/-- A commit of a pointer whose artifacts are in place. -/
theorem ends_commit_of_artifacts (hlawful : m.format.Lawful) (hconsistent : m.Consistent d.files)
    (hart : m.Artifacts d.files pointer save journal) (hsave : ¬m.Reserved pointer.save.fileName)
    (hjournal : ¬m.Reserved pointer.journal.fileName) (reload : Bool) :
    Ends (m.commitPrevalidatedAuthorityPointer save pointer reload) d
      (fun reopened t => reopened = loadedOf pointer save ∧
        m.HoldsPair t.files save journal pointer.generation.toNat ∧
        d.moves.length < t.moves.length)
      (m.Fails (m.HoldsPair · save journal pointer.generation.toNat) d) := by
  refine (ends_commitPrevalidatedAuthorityPointer save pointer reload d).mono
    (fun reopened t ht => ?_) fun e t ht => ?_
  · obtain ⟨hreopened, hmoved, bytes, hencoded, hreplaced⟩ := ht
    obtain ⟨hart', hnames⟩ :=
      artifacts_of_replaces hlawful hart hsave hjournal hencoded hreplaced
    refine ⟨?_, holdsPair_of_artifacts hart' hnames hsave, hmoved⟩
    unfold reopen at hreopened
    rw [now_bind_eq_ok_iff] at hreopened
    obtain ⟨_, -, hreopened⟩ := hreopened
    cases reload with
    | true =>
      rw [if_pos rfl, load_of_artifacts hart' hnames] at hreopened
      exact (Except.ok.inj hreopened).symm
    | false => exact (Except.ok.inj hreopened).symm
  · rcases ht with ht | ⟨hmoved, ht⟩
    · exact fails_of_grows hconsistent ht
    · rcases ht with ht | ⟨hnot, bytes, hencoded, ht⟩
      · have hsame : m.SamePair d.files t.files :=
          samePair_of_adds hconsistent (.inl rfl) (.inr rfl) ht.restored
        exact ⟨fun _ => hsame, .inl hsame⟩
      · obtain ⟨hart', hnames⟩ := artifacts_of_replaces hlawful hart hsave hjournal hencoded ht
        refine ⟨fun h => ?_, .inr (holdsPair_of_artifacts hart' hnames hsave)⟩
        rcases h with h | h
        · rw [h] at hmoved
          exact absurd hmoved (lt_irrefl _)
        · exact absurd h hnot

end Commit

end GpuDurableSaveManifest

end ALife
