/-
# Histories of publications

A history is a list of calls on one directory, each with its own faults.  From a
consistent directory every call settles: it leaves the new pair, or it leaves the
old one, or it was cut off after its rename and leaves one of the two.

A call that found its save already there publishes nothing, a sync that fails
after the rename leaves the new pair behind an error, and a base whose save was
exchanged is published under the old save artifact; the runs at the end are these.
-/

import ALife.Checkpoint.JournalPublication

namespace ALife

open Machine Machine.Disk

namespace GpuDurableSaveManifest

variable {Rest : Type} [DecidableEq Rest] {m : GpuDurableSaveManifest Rest} {d : Disk Utf8}

/-- How every call ends. -/
def Settles (m : GpuDurableSaveManifest Rest) (d : Disk Utf8) (call : AuthorityCall Rest) : Prop :=
  Ends (m.exec call) d (m.Succeeds call d) (m.Fails (m.Publishes call d.files) d)

/-- One call of a history. -/
def step (m : GpuDurableSaveManifest Rest) (d : Disk Utf8) (call : AuthorityCall Rest) :
    Disk Utf8 :=
  stateAfter (m.exec call d)

theorem settles (hlawful : m.format.Lawful) (hconsistent : m.Consistent d.files)
    {call : AuthorityCall Rest} (hgenuine : call.Genuine m d.files) : m.Settles d call := by
  cases call with
  | compareAndSwap expected replacement =>
    exact ends_compareAndSwap hlawful hconsistent expected replacement
  | publishSnapshot replacement => exact ends_publishSnapshot hlawful hconsistent replacement
  | publishSleepTransactionJournal base journal =>
    refine (ends_publishSleepTransactionJournal hlawful hconsistent hgenuine).mono
      (fun outcome t ht => ?_) fun _ _ h => h
    obtain ⟨⟨published, rfl⟩, hnew⟩ := ht
    exact hnew

omit [DecidableEq Rest] in
theorem Publishes.consistent {call : AuthorityCall Rest} {before files : Utf8 → Option Bytes}
    (h : m.Publishes call before files) : m.Consistent files := by
  obtain ⟨_, -, _, -, -, -, -, -, hconsistent⟩ := h
  exact hconsistent

/-- A call that settles leaves a consistent directory. -/
theorem Settles.consistent {call : AuthorityCall Rest} (hconsistent : m.Consistent d.files)
    (h : m.Settles d call) : m.Consistent (m.step d call).files := by
  refine Ends.stateAfter (I := fun t => m.Consistent t.files) (h.mono (fun outcome t ht => ?_)
    fun e t ht => ?_)
  · cases outcome with
    | published _ => exact Publishes.consistent ht
    | alreadyApplied _ =>
      rw [ht.1]
      exact hconsistent
  · rcases ht.either with hsame | hnew
    · exact hsame.consistent hconsistent
    · exact hnew.consistent

/-- Every call keeps the directory consistent. -/
theorem consistent_step (hlawful : m.format.Lawful) (hconsistent : m.Consistent d.files)
    {call : AuthorityCall Rest} (hgenuine : call.Genuine m d.files) :
    m.Consistent (m.step d call).files :=
  (settles hlawful hconsistent hgenuine).consistent hconsistent

omit [DecidableEq Rest] in
/-- A base that was just loaded carries the save that its authority names. -/
theorem AuthorityCall.genuine_of_load {files : Utf8 → Option Bytes}
    {base : GpuLoadedSaveManifest Rest} (h : now m.load files = .ok base)
    (journal : GpuSleepTransactionJournalV2) :
    (AuthorityCall.publishSleepTransactionJournal base journal).Genuine m files := by
  intro loaded hload _ _
  rw [h] at hload
  rw [Except.ok.inj hload]

/-- Every call of every history settles, whatever steps fail. -/
theorem publications_settle (hlawful : m.format.Lawful) (hconsistent : m.Consistent d.files)
    {calls : List (AuthorityCall Rest)}
    (hgenuine : Along m.step (fun d call => call.Genuine m d.files) d calls) :
    Along m.step m.Settles d calls := by
  refine Along.of_invariant (I := fun d => m.Consistent d.files)
    (fun d call hconsistent hgenuine => ?_) hconsistent hgenuine
  have hsettles := settles hlawful hconsistent hgenuine
  exact ⟨hsettles.consistent hconsistent, hsettles⟩

/-! ### A small world

A `SaveFormat` that knows a few documents: it writes them as `serde_json` does,
and reads exactly what it writes. -/

/-- The members of a JSON object, in braces. -/
def jsonObject (members : List (String × Utf8)) : Utf8 :=
  asciiBytes "\x7b" ++ (List.intersperse (asciiBytes ",") (members.map fun member =>
    asciiBytes "\"" ++ asciiBytes member.1 ++ asciiBytes "\":" ++ member.2)).flatten
    ++ asciiBytes "\x7d"

def jsonString (text : Utf8) : Utf8 := asciiBytes "\"" ++ text ++ asciiBytes "\""

def jsonDigest (d : Digest256) : Utf8 :=
  asciiBytes "[" ++ decimal 0 d.w0.toNat ++ asciiBytes "," ++ decimal 0 d.w1.toNat
    ++ asciiBytes "," ++ decimal 0 d.w2.toNat ++ asciiBytes "," ++ decimal 0 d.w3.toNat
    ++ asciiBytes "]"

/-- The members of a save without creatures. -/
def saveMembers (save : PortableSaveFile Unit) : List (String × Utf8) :=
  [("schema", jsonString save.schema),
    ("schema_version", decimal 0 save.schemaVersion.toNat),
    ("world", jsonObject [("tick", decimal 0 save.worldTick.raw.toNat)]),
    ("creatures", asciiBytes "[]")]

/-- The text of a journal without entries. -/
def journalText (j : GpuSleepTransactionJournalV2) : Utf8 :=
  jsonObject [("schema_version", decimal 0 j.schemaVersion.toNat),
    ("exact_base_manifest_digest", jsonString j.exactBaseManifestDigest.text),
    ("exact_base_checkpoint_tick", decimal 0 j.exactBaseCheckpointTick.raw.toNat),
    ("entries", asciiBytes "[]"), ("journal_digest", jsonDigest j.journalDigest)]

def pointerText (p : GpuCheckpointAuthorityPointerV1) : Utf8 :=
  jsonObject [("schema", jsonString p.schema),
    ("schema_version", decimal 0 p.schemaVersion.toNat),
    ("generation", decimal 0 p.generation.toNat),
    ("prior_generation", p.priorGeneration.elim (asciiBytes "null") fun g => decimal 0 g.toNat),
    ("prior_authority_digest", p.priorAuthorityDigest.elim (asciiBytes "null") jsonDigest),
    ("asset_manifest_identity", jsonString p.assetManifestIdentity.text),
    ("save", jsonObject [("file_name", jsonString p.save.fileName),
      ("digest", jsonString p.save.digest.text),
      ("size_bytes", decimal 0 p.save.sizeBytes.toNat),
      ("save_schema", jsonString p.save.saveSchema),
      ("save_schema_version", decimal 0 p.save.saveSchemaVersion.toNat)]),
    ("journal", jsonObject [("file_name", jsonString p.journal.fileName),
      ("digest", jsonString p.journal.digest.text),
      ("size_bytes", decimal 0 p.journal.sizeBytes.toNat),
      ("journal_schema_version", decimal 0 p.journal.journalSchemaVersion.toNat)]),
    ("authority_digest", jsonDigest p.authorityDigest)]

def saveText (save : PortableSaveFile Unit) : Utf8 := jsonObject (saveMembers save)

def publicText (save : PortableSaveFile Unit) (p : GpuCheckpointAuthorityPointerV1) : Utf8 :=
  jsonObject (saveMembers save ++ [("gpu_checkpoint_authority", pointerText p)])

/-- What a table of documents reads for a text. -/
def lookup {α : Type} (text : α → Utf8) (documents : List α) (bytes : Bytes) : Option α :=
  documents.find? fun document => text document = bytes

/-- The format of a table of documents. -/
def tableFormat (saves : List (PortableSaveFile Unit))
    (journals : List GpuSleepTransactionJournalV2)
    (publicFiles : List (PortableSaveFile Unit × GpuCheckpointAuthorityPointerV1)) :
    SaveFormat Unit where
  toVecPretty save := some (saveText save)
  fromJsonStr bytes := lookup saveText saves bytes
  validateWithAssetRoot _ := true
  assetsToVec _ := some (asciiBytes "[]")
  journalToVecPretty journal :=
    (lookup journalText journals (journalText journal)).filter (· = journal) |>.map journalText
  journalFromSlice bytes := lookup journalText journals bytes
  toVecPrettyWith save pointer :=
    (lookup (fun file => publicText file.1 file.2) publicFiles (publicText save pointer)).filter
      (·.2 = pointer) |>.map fun file => publicText file.1 file.2
  authorityField bytes :=
    match lookup (fun file => publicText file.1 file.2) publicFiles bytes with
    | some file => some (some file.2)
    | none => (lookup saveText saves bytes).map fun _ => none

/-- What a table writes it reads. -/
theorem lookup_of_written {α : Type} {text : α → Utf8} {documents : List α} {key bytes : Bytes}
    {keep : α → Bool} (h : ((lookup text documents key).filter keep).map text = some bytes) :
    ∃ document, lookup text documents bytes = some document ∧ keep document = true := by
  obtain ⟨document, hfilter, rfl⟩ := Option.map_eq_some_iff.1 h
  obtain ⟨hlookup, hkeep⟩ := Option.filter_eq_some_iff.1 hfilter
  have htext : text document = key := by
    simpa using List.find?_some hlookup
  exact ⟨document, by rw [htext]; exact hlookup, hkeep⟩

theorem tableFormat_lawful (saves : List (PortableSaveFile Unit))
    (journals : List GpuSleepTransactionJournalV2)
    (publicFiles : List (PortableSaveFile Unit × GpuCheckpointAuthorityPointerV1)) :
    (tableFormat saves journals publicFiles).Lawful where
  authorityField_with save pointer bytes h := by
    obtain ⟨file, hlookup, hkeep⟩ := lookup_of_written h
    change (match lookup (fun file => publicText file.1 file.2) publicFiles bytes with
      | some file => some (some file.2)
      | none => _) = _
    rw [hlookup]
    exact congrArg (fun p => some (some p)) (of_decide_eq_true hkeep)
  journal_roundTrip journal bytes h := by
    obtain ⟨found, hlookup, hkeep⟩ := lookup_of_written h
    exact hlookup.trans (congrArg some (of_decide_eq_true hkeep))

/-- A save without creatures. -/
def worldAt (tick : UInt64) : PortableSaveFile Unit :=
  ⟨asciiBytes "alife.p34.save_file.v1", 1, ⟨tick⟩, [], ()⟩

/-- The empty journal over such a save. -/
def journalAt (tick : UInt64) : GpuSleepTransactionJournalV2 :=
  let journal : GpuSleepTransactionJournalV2 :=
    ⟨gpuSleepTransactionJournalSchemaVersion, .forBytes (saveText (worldAt tick)), ⟨tick⟩, [], .zero⟩
  { journal with journalDigest := journal.recomputeDigest }

def sampleName : Utf8 := asciiBytes "world.json"

/-- The save artifact of the first generation. -/
def saveArtifactAt (tick : UInt64) : GpuCheckpointAuthoritySaveArtifactV1 :=
  let bytes := saveText (worldAt tick)
  ⟨(authoritySaveFileName sampleName 1 (.forBytes bytes)).toOption.getD [], .forBytes bytes,
    lenU64 bytes.length, (worldAt tick).schema, 1⟩

def journalArtifactAt (tick generation : UInt64) : GpuCheckpointAuthorityJournalArtifactV1 :=
  let bytes := journalText (journalAt tick)
  ⟨(authorityJournalFileName sampleName generation (.forBytes bytes)).toOption.getD [],
    .forBytes bytes, lenU64 bytes.length, gpuSleepTransactionJournalSchemaVersion⟩

/-- The pointer of a generation over the world at tick 5, with the journal of a tick. -/
def pointerAt (generation tick : UInt64) (prior : Option GpuCheckpointAuthorityPointerV1) :
    GpuCheckpointAuthorityPointerV1 :=
  let pointer : GpuCheckpointAuthorityPointerV1 :=
    { schema := GpuCheckpointAuthorityPointerV1.schemaName, schemaVersion := 1, generation
      priorGeneration := prior.map fun p => p.generation
      priorAuthorityDigest := prior.map fun p => p.authorityDigest
      assetManifestIdentity := .forBytes (asciiBytes "[]"), save := saveArtifactAt 5
      journal := journalArtifactAt tick generation, authorityDigest := .zero }
  { pointer with authorityDigest := pointer.recomputeDigest }

/-- A format that knows the worlds at the ticks 5 and 6. -/
def sampleFormat : SaveFormat Unit :=
  let first := pointerAt 1 5 none
  tableFormat [worldAt 5, worldAt 6] [journalAt 5, journalAt 6]
    [(worldAt 5, first), (worldAt 5, pointerAt 2 5 (some first)),
      (worldAt 6, pointerAt 2 6 (some first))]

theorem sampleFormat_lawful : sampleFormat.Lawful := by
  unfold sampleFormat
  exact tableFormat_lawful _ _ _

def sampleManifest : GpuDurableSaveManifest Unit := ⟨sampleName, sampleFormat, 7⟩

/-- An empty directory, with a fault at one step if one is given. -/
def emptyDirectory (fault : Option ℕ) : Disk Utf8 :=
  ⟨fun _ => none, fun k => if fault = some k then some [] else none, 0, [], 0⟩

/-- A directory with a legacy save. -/
def legacyDirectory : Disk Utf8 :=
  { emptyDirectory none with
    files := Function.update (fun _ => none) sampleName (some (saveText (worldAt 5))) }

theorem eq_ok_of_isSome {ε α : Type} {x : Except ε α} (h : x.toOption.isSome = true) :
    x = .ok (x.toOption.get h) := by
  cases x with
  | ok a => rfl
  | error e => cases h

/-- The directory after a first snapshot. -/
def publishedDirectory : Disk Utf8 :=
  sampleManifest.step (emptyDirectory none) (.publishSnapshot (worldAt 5))

set_option maxRecDepth 4000 in
theorem publishedDirectory_loads :
    (now sampleManifest.load publishedDirectory.files).toOption.isSome = true := by
  decide +kernel

/-- What it loads. -/
def publishedBase : GpuLoadedSaveManifest Unit :=
  (now sampleManifest.load publishedDirectory.files).toOption.get publishedDirectory_loads

theorem load_publishedDirectory :
    now sampleManifest.load publishedDirectory.files = .ok publishedBase :=
  eq_ok_of_isSome publishedDirectory_loads

/-- A snapshot, and a sleep journal over it. -/
def publishedTwice : List (AuthorityCall Unit) :=
  [.publishSnapshot (worldAt 5), .publishSleepTransactionJournal publishedBase (journalAt 5)]

theorem emptyDirectory_consistent (fault : Option ℕ) :
    sampleManifest.Consistent (emptyDirectory fault).files := by
  rintro _ ⟨_, hbytes, -⟩
  cases hbytes

theorem publications_settle_publishedTwice :
    Along sampleManifest.step sampleManifest.Settles (emptyDirectory none) publishedTwice := by
  have hgenuine : (AuthorityCall.publishSleepTransactionJournal publishedBase
      (journalAt 5)).Genuine sampleManifest publishedDirectory.files :=
    AuthorityCall.genuine_of_load load_publishedDirectory _
  exact publications_settle (m := sampleManifest) sampleFormat_lawful
    (emptyDirectory_consistent none) ⟨trivial, hgenuine, trivial⟩

/-- A call that succeeds publishes, and an error that does not say that its rollback
could not be proven leaves what was loaded. -/
def SettlesStrictly (m : GpuDurableSaveManifest Rest) (d : Disk Utf8)
    (call : AuthorityCall Rest) : Prop :=
  Ends (m.exec call) d (fun _ t => m.Publishes call d.files t.files) fun e t =>
    (∀ committed lastKnownGood,
      e ≠ .gpuCheckpointAuthorityPostCommitValidation committed lastKnownGood false) →
    now m.load t.files = now m.load d.files

theorem not_settlesStrictly_of_ok {call : AuthorityCall Rest}
    (h : (match m.exec call d with
      | .ok _ t => (m.generationOf t.files).isNone
      | .error _ _ => false) = true) : ¬m.SettlesStrictly d call := by
  intro hsettles
  cases hexec : m.exec call d with
  | error e t =>
    rw [hexec] at h
    cases h
  | ok outcome t =>
    rw [hexec] at h
    obtain ⟨_, -, loaded, hload, -, hgeneration, -⟩ := Ends.of_ok hsettles hexec
    have hnone : m.generationOf t.files = none := Option.isNone_iff_eq_none.1 h
    rw [generationOf, hload] at hnone
    dsimp only at hnone
    rw [hnone] at hgeneration
    cases hgeneration

theorem not_settlesStrictly_of_error {call : AuthorityCall Rest}
    (h : (match m.exec call d with
      | .ok _ _ => false
      | .error e t => e = .io .other && (now m.load t.files).isOk && !(now m.load d.files).isOk) =
        true) : ¬m.SettlesStrictly d call := by
  intro hsettles
  cases hexec : m.exec call d with
  | ok outcome t =>
    rw [hexec] at h
    cases h
  | error e t =>
    rw [hexec] at h
    simp only [Bool.and_eq_true, decide_eq_true_eq, Bool.not_eq_true'] at h
    obtain ⟨⟨rfl, hafter⟩, hbefore⟩ := h
    have hload := Ends.of_error hsettles hexec (by rintro _ _ ⟨⟩)
    rw [hload, hbefore] at hafter
    cases hafter

/-- A sync that fails after the rename, a save that is there already, and a base
whose save was exchanged. -/
theorem not_settlesStrictly :
    ¬sampleManifest.SettlesStrictly (emptyDirectory (some 22)) (.publishSnapshot (worldAt 5)) ∧
    ¬sampleManifest.SettlesStrictly legacyDirectory
      (.compareAndSwap (.forBytes (saveText (worldAt 5))) (worldAt 5)) ∧
    ¬sampleManifest.SettlesStrictly publishedDirectory
      (.publishSleepTransactionJournal { publishedBase with save := worldAt 6 } (journalAt 6)) := by
  refine ⟨not_settlesStrictly_of_error ?_, not_settlesStrictly_of_ok ?_,
    not_settlesStrictly_of_ok ?_⟩ <;> decide +kernel

end GpuDurableSaveManifest

end ALife
