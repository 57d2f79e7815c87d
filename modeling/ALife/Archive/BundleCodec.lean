/-
# The founder bundle container

`encode_bundle`, `decode_bundle` and `validate_entry_path`
(`crates/alife_archive/src/bundle.rs`).  A bundle is a header with a kind and an
entry count, then each entry: its path under a 16-bit length, its content under
a 64-bit length, the content's digest between them.  `reads_entries` says what
the decoder accepts, and `encodeBundle_eq_ok_iff` what the encoder does; the
encoder's size limit is the one condition that the decoder leaves to its caller.

The hash comes from a package and is a parameter.  Paths are read as on Unix.
-/

import ALife.Core.Blake3
import ALife.Machine.UnixPath

namespace ALife

open Machine

/-- The errors of the archive that the container raises. -/
inductive ArchiveError where
  | integrity (message : String)
  | io
  deriving DecidableEq, Repr

/-- The result of a fallible archive call. -/
abbrev Archived (α : Type) := Except ArchiveError α

/-- `BUNDLE_MAGIC`. -/
def bundleMagic : List UInt8 := asciiBytes "ALIFEBND"

/-- `BUNDLE_VERSION`. -/
def bundleVersion : UInt16 := 1

/-- `MAX_ENTRY_COUNT`. -/
def maxEntryCount : ℕ := 65536

/-- `MAX_ENTRY_BYTES`. -/
def maxEntryBytes : ℕ := 256 * 1024 * 1024

/-- `MAX_PATH_BYTES`. -/
def maxPathBytes : ℕ := 512

/-- `MAX_BUNDLE_UNCOMPRESSED_BYTES`. -/
def maxBundleUncompressedBytes : ℕ := 512 * 1024 * 1024

inductive FounderBundleKind where
  | creature
  | cohort
  deriving DecidableEq, Repr

namespace FounderBundleKind

/-- `FounderBundleKind::byte`. -/
def byte : FounderBundleKind → UInt8
  | .creature => 1
  | .cohort => 2

/-- `FounderBundleKind::from_byte`. -/
def fromByte (value : UInt8) : Archived FounderBundleKind :=
  if value = 1 then .ok .creature
  else if value = 2 then .ok .cohort
  else .error (.integrity "unsupported bundle kind")

theorem fromByte_eq_ok_iff {value : UInt8} {kind : FounderBundleKind} :
    fromByte value = .ok kind ↔ value = kind.byte := by
  unfold fromByte
  split_ifs with h1 h2
  · cases kind <;> simp [byte, h1]
  · cases kind <;> simp [byte, h2]
  · cases kind <;> simp [byte, h1, h2]

end FounderBundleKind

/-- `str::as_bytes`. -/
def utf8Bytes (s : String) : List UInt8 := s.toByteArray.data.toList

/-- `String::from_utf8`. -/
def decodeUtf8 (bs : List UInt8) : Option String := String.fromUTF8? ⟨bs.toArray⟩

theorem decodeUtf8_eq_some_iff {bs : List UInt8} {s : String} :
    decodeUtf8 bs = some s ↔ bs = utf8Bytes s := by
  unfold decodeUtf8 utf8Bytes String.fromUTF8?
  constructor
  · intro h
    split_ifs at h
    cases h
    rfl
  · rintro rfl
    rw [dif_pos s.isValidUTF8]
    rfl

structure BundleEntry where
  path : String
  digest : Blake3Digest
  bytes : List UInt8
  deriving DecidableEq

/-- A check of the archive. -/
def archiveReject (bad : Prop) [Decidable bad] (e : ArchiveError) : Archived Unit :=
  if bad then .error e else .ok ()

theorem archiveReject_eq_ok_iff {bad : Prop} [Decidable bad] {e : ArchiveError} :
    archiveReject bad e = .ok () ↔ ¬bad := by
  unfold archiveReject
  split_ifs with h <;> simp [h]

/-- What follows a check runs when the check passes. -/
theorem archived_check_eq_ok_iff {β : Type} {x : Archived Unit} {f : Unit → Archived β} {b : β} :
    (x >>= f) = .ok b ↔ x = .ok () ∧ f () = .ok b := by
  cases x with
  | ok a => simp [bind, Except.bind]
  | error e => simp [bind, Except.bind]

/-- `validate_entry_path`. -/
def validateEntryPath (path : String) : Archived Unit := do
  archiveReject (path = "" ∨ maxPathBytes < (utf8Bytes path).length ∨ '\\' ∈ path.toList)
    (.integrity "unsafe bundle path")
  archiveReject (∃ c ∈ UnixPath.components path.toList, ¬c.isNormal = true)
    (.integrity "unsafe bundle path")

theorem validateEntryPath_eq_ok_iff {path : String} :
    validateEntryPath path = .ok () ↔
      (path ≠ "" ∧ (utf8Bytes path).length ≤ maxPathBytes ∧ '\\' ∉ path.toList) ∧
        ∀ c ∈ UnixPath.components path.toList, c.isNormal = true := by
  rw [validateEntryPath, archived_check_eq_ok_iff, archiveReject_eq_ok_iff,
    archiveReject_eq_ok_iff]
  simp only [not_or, Nat.not_lt, not_exists, not_and, not_not]

/-- An accepted path is a path of names only. -/
theorem namesOnly_of_validateEntryPath {path : String} (h : validateEntryPath path = .ok ()) :
    ∃ names, UnixPath.NamesOnly path.toList names :=
  UnixPath.exists_namesOnly (validateEntryPath_eq_ok_iff.1 h).2

theorem length_utf8Bytes_pos {path : String} (h : path ≠ "") : 0 < (utf8Bytes path).length := by
  rw [List.length_pos_iff]
  intro hnil
  have hsome : decodeUtf8 [] = some path := decodeUtf8_eq_some_iff.2 hnil.symm
  have hempty : decodeUtf8 [] = some "" := decodeUtf8_eq_some_iff.2 rfl
  rw [hempty, Option.some.injEq] at hsome
  exact h hsome.symm

section Container

variable (digestBytes : List UInt8 → Blake3Digest)

/-! ### The encoder -/

/-- What `encode_bundle` appends for an entry. -/
def entryBytes (entry : BundleEntry) : List UInt8 :=
  leBytes16 (utf8Bytes entry.path).length.toUInt16 ++ utf8Bytes entry.path
    ++ leBytes64 entry.bytes.length.toUInt64 ++ entry.digest.toList ++ entry.bytes

/-- The loop of `encode_bundle`, with the output so far and the paths already written. -/
def encodeEntries (output : List UInt8) (paths : List String) :
    List BundleEntry → Archived (List UInt8)
  | [] => .ok output
  | entry :: entries => do
    validateEntryPath entry.path
    archiveReject (entry.bytes = [] ∨ maxEntryBytes < entry.bytes.length
      ∨ digestBytes entry.bytes ≠ entry.digest ∨ entry.path ∈ paths)
      (.integrity "invalid bundle entry")
    archiveReject (maxBundleUncompressedBytes < (output ++ entryBytes entry).length)
      (.integrity "bundle exceeds size limit")
    encodeEntries (output ++ entryBytes entry) (entry.path :: paths) entries

/-- What `encode_bundle` writes before the entries. -/
def headerBytes (kind : FounderBundleKind) (count : ℕ) : List UInt8 :=
  bundleMagic ++ leBytes16 bundleVersion ++ [kind.byte] ++ leBytes32 count.toUInt32

/-- `encode_bundle`. -/
def encodeBundle (kind : FounderBundleKind) (entries : List BundleEntry) :
    Archived (List UInt8) := do
  archiveReject (entries = [] ∨ maxEntryCount < entries.length)
    (.integrity "invalid bundle entry count")
  encodeEntries digestBytes (headerBytes kind entries.length) [] entries

/-! ### The decoder -/

/-- One turn of the loop of `decode_bundle`, with the paths already read. -/
def decodeEntry (paths : List String) : Reader ArchiveError BundleEntry := do
  let pathLen ← readU16 .io
  Reader.ensure (¬(pathLen.toNat = 0 ∨ maxPathBytes < pathLen.toNat))
    (.integrity "unsafe bundle path")
  let pathBytes ← Reader.take .io pathLen.toNat
  let path ← Reader.lift ((decodeUtf8 pathBytes).elim
    (.error (.integrity "bundle path is not UTF-8")) .ok)
  Reader.lift (validateEntryPath path)
  Reader.ensure (path ∉ paths) (.integrity "duplicate bundle path")
  let contentLen ← readU64 .io
  Reader.ensure (¬(contentLen.toNat = 0 ∨ maxEntryBytes < contentLen.toNat))
    (.integrity "bundle entry is oversized")
  let digest ← readBlake3 .io
  let content ← Reader.take .io contentLen.toNat
  Reader.ensure (digestBytes content = digest) (.integrity "bundle entry digest mismatch")
  pure ⟨path, digest, content⟩

/-- The loop of `decode_bundle`. -/
def decodeEntries (paths : List String) : ℕ → Reader ArchiveError (List BundleEntry)
  | 0 => pure []
  | n + 1 => do
    let entry ← decodeEntry digestBytes paths
    let entries ← decodeEntries (entry.path :: paths) n
    pure (entry :: entries)

/-- `decode_bundle` up to the check for trailing data. -/
def readBundle : Reader ArchiveError (FounderBundleKind × List BundleEntry) := do
  let magic ← Reader.take .io 8
  Reader.ensure (magic = bundleMagic) (.integrity "unsupported bundle format")
  let version ← readU16 .io
  Reader.ensure (version = bundleVersion) (.integrity "unsupported bundle format")
  let byte ← readU8 .io
  let kind ← Reader.lift (FounderBundleKind.fromByte byte)
  let entryCount ← readU32 .io
  Reader.ensure (¬(entryCount.toNat = 0 ∨ maxEntryCount < entryCount.toNat))
    (.integrity "invalid bundle entry count")
  let entries ← decodeEntries digestBytes [] entryCount.toNat
  pure (kind, entries)

/-- `decode_bundle`. -/
def decodeBundle (bytes : List UInt8) : Archived (FounderBundleKind × List BundleEntry) := do
  let (bundle, rest) ← readBundle digestBytes bytes
  archiveReject (rest ≠ []) (.integrity "bundle has trailing data")
  .ok bundle

/-! ### What they accept -/

/-- What both sides check of an entry by itself. -/
def EntryOk (entry : BundleEntry) : Prop :=
  validateEntryPath entry.path = .ok () ∧ entry.bytes ≠ [] ∧ entry.bytes.length ≤ maxEntryBytes
    ∧ digestBytes entry.bytes = entry.digest

/-- What both sides check of a list of entries. -/
structure EntriesOk (entries : List BundleEntry) : Prop where
  ne_nil : entries ≠ []
  length_le : entries.length ≤ maxEntryCount
  each : ∀ entry ∈ entries, EntryOk digestBytes entry
  distinct : (entries.map BundleEntry.path).Nodup

/-- The bytes of a bundle. -/
def bundleBytes (kind : FounderBundleKind) (entries : List BundleEntry) : List UInt8 :=
  headerBytes kind entries.length ++ entries.flatMap entryBytes

variable {digestBytes}

/-- An entry is read from the bytes it is written as, and from no others. -/
theorem reads_entry (paths : List String) :
    Reads (decodeEntry digestBytes paths)
      (fun entry => EntryOk digestBytes entry ∧ entry.path ∉ paths) entryBytes := by
  intro input entry rest
  simp only [decodeEntry, Reader.bind_eq_ok_iff, reads_u16 _ _ _ _, reads_u64 _ _ _ _,
    reads_blake3 _ _ _ _, Reader.ensure_eq_ok_iff, Reader.lift_eq_ok_iff, Reader.take_eq_ok_iff,
    Reader.pure_eq_ok_iff, true_and]
  constructor
  · rintro ⟨pathLen, _, rfl, -, _, ⟨-, rfl⟩, pathBytes, _, ⟨hpathLen, rfl⟩, path, _,
      ⟨hutf8, rfl⟩, ⟨⟩, _, ⟨hpath, rfl⟩, -, _, ⟨hnew, rfl⟩, contentLen, _, rfl, -, _, ⟨hlen, rfl⟩,
      digest, _, rfl, content, _, ⟨hcontentLen, rfl⟩, -, _, ⟨hdigest, rfl⟩, rfl, rfl⟩
    cases hdecoded : decodeUtf8 pathBytes with
    | none => simp [hdecoded] at hutf8
    | some s =>
      simp only [hdecoded, Option.elim_some, Except.ok.injEq] at hutf8
      subst hutf8
      obtain rfl := decodeUtf8_eq_some_iff.1 hdecoded
      rw [not_or, Nat.not_lt, ← hcontentLen, List.length_eq_zero_iff] at hlen
      refine ⟨⟨⟨hpath, hlen.1, hlen.2, hdigest⟩, hnew⟩, ?_⟩
      have hpathWord : pathLen = (utf8Bytes s).length.toUInt16 := by
        rw [hpathLen, Nat.toUInt16, UInt16.ofNat_toNat]
      have hcontentWord : contentLen = content.length.toUInt64 := by
        rw [hcontentLen, Nat.toUInt64, UInt64.ofNat_toNat]
      rw [entryBytes, ← hpathWord, ← hcontentWord]
      simp only [List.append_assoc]
  · rintro ⟨⟨⟨hpath, hne, hle, hdigest⟩, hnew⟩, rfl⟩
    obtain ⟨⟨hempty, hpathLe, -⟩, -⟩ := validateEntryPath_eq_ok_iff.1 hpath
    have hpathPos := length_utf8Bytes_pos hempty
    have hpos : 0 < entry.bytes.length := List.length_pos_iff.2 hne
    have hpathLen : ((utf8Bytes entry.path).length.toUInt16).toNat
        = (utf8Bytes entry.path).length := by
      refine UInt16.toNat_ofNat_of_lt' ?_
      simp only [maxPathBytes] at hpathLe
      simp only [UInt16.size]
      omega
    have hcontentLen : (entry.bytes.length.toUInt64).toNat = entry.bytes.length := by
      refine UInt64.toNat_ofNat_of_lt' ?_
      simp only [maxEntryBytes] at hle
      simp only [UInt64.size]
      omega
    rw [entryBytes]
    simp only [List.append_assoc]
    refine ⟨(utf8Bytes entry.path).length.toUInt16, _, rfl, (), _, ⟨?_, rfl⟩, utf8Bytes entry.path, _, ⟨hpathLen.symm, rfl⟩, entry.path, _,
      ⟨?_, rfl⟩, (), _, ⟨hpath, rfl⟩, (), _, ⟨hnew, rfl⟩, entry.bytes.length.toUInt64, _, rfl, (), _,
      ⟨?_, rfl⟩, entry.digest, _, rfl, entry.bytes, _, ⟨hcontentLen.symm, rfl⟩, (), _,
      ⟨hdigest, rfl⟩, rfl, rfl⟩
    · omega
    · rw [decodeUtf8_eq_some_iff.2 rfl]
      rfl
    · omega

/-- The loop reads a list with fresh, distinct paths from the bytes of its entries. -/
theorem reads_entries (n : ℕ) (paths : List String) :
    Reads (decodeEntries digestBytes paths n)
      (fun entries => entries.length = n ∧ (∀ entry ∈ entries, EntryOk digestBytes entry)
        ∧ (entries.map BundleEntry.path).Nodup ∧ ∀ entry ∈ entries, entry.path ∉ paths)
      (fun entries => entries.flatMap entryBytes) := by
  induction n generalizing paths with
  | zero =>
    intro input entries rest
    rw [decodeEntries, Reader.pure_eq_ok_iff]
    constructor
    · rintro ⟨rfl, rfl⟩
      simp
    · rintro ⟨⟨hlen, -⟩, rfl⟩
      rw [List.length_eq_zero_iff] at hlen
      subst hlen
      simp
  | succ n ih =>
    intro input entries rest
    simp only [decodeEntries, Reader.bind_eq_ok_iff, reads_entry _ _ _ _, ih _ _ _ _,
      Reader.pure_eq_ok_iff]
    constructor
    · rintro ⟨entry, _, ⟨⟨hok, hnew⟩, rfl⟩, entries, _, ⟨⟨hlen, hall, hdistinct, hfresh⟩, rfl⟩,
        rfl, rfl⟩
      refine ⟨⟨by rw [List.length_cons, hlen], List.forall_mem_cons.2 ⟨hok, hall⟩, ?_, ?_⟩, ?_⟩
      · rw [List.map_cons, List.nodup_cons]
        refine ⟨fun hmem => ?_, hdistinct⟩
        obtain ⟨e, he, hpath⟩ := List.mem_map.1 hmem
        exact hfresh e he (by rw [hpath]; exact List.mem_cons_self)
      · exact List.forall_mem_cons.2
          ⟨hnew, fun e he hmem => hfresh e he (List.mem_cons_of_mem _ hmem)⟩
      · rw [List.flatMap_cons, List.append_assoc]
    · rintro ⟨⟨hlen, hall, hdistinct, hfresh⟩, rfl⟩
      cases entries with
      | nil => simp at hlen
      | cons entry entries =>
        rw [List.forall_mem_cons] at hall hfresh
        rw [List.map_cons, List.nodup_cons] at hdistinct
        refine ⟨entry, entries.flatMap entryBytes ++ rest, ⟨⟨hall.1, hfresh.1⟩, ?_⟩, entries, rest,
          ⟨⟨by simpa using hlen, hall.2, hdistinct.2, fun e he hmem => ?_⟩, rfl⟩, rfl, rfl⟩
        · rw [List.flatMap_cons, List.append_assoc]
        · obtain heq | hmem := List.mem_cons.1 hmem
          · exact hdistinct.1 (heq ▸ List.mem_map_of_mem he)
          · exact hfresh.2 e he hmem

/-- A bundle is read from its bytes, and from no others. -/
theorem reads_bundle :
    Reads (readBundle digestBytes) (fun bundle => EntriesOk digestBytes bundle.2)
      (fun bundle => bundleBytes bundle.1 bundle.2) := by
  intro input bundle rest
  obtain ⟨kind, entries⟩ := bundle
  simp only [readBundle, Reader.bind_eq_ok_iff, reads_u16 _ _ _ _, reads_u32 _ _ _ _,
    reads_u8 _ _ _ _, Reader.ensure_eq_ok_iff, Reader.lift_eq_ok_iff, Reader.take_eq_ok_iff,
    FounderBundleKind.fromByte_eq_ok_iff, reads_entries _ _ _ _ _, Reader.pure_eq_ok_iff, true_and]
  constructor
  · rintro ⟨_, _, ⟨-, rfl⟩, -, _, ⟨rfl, rfl⟩, _, _, rfl, -, _, ⟨rfl, rfl⟩, _, _, rfl, k, _,
      ⟨rfl, rfl⟩, count, _, rfl, -, _, ⟨hcount, rfl⟩, es, _, ⟨⟨hlen, hall, hdistinct, -⟩, rfl⟩,
      heq, rfl⟩
    obtain ⟨rfl, rfl⟩ := Prod.mk.inj heq
    rw [not_or, Nat.not_lt, ← hlen, List.length_eq_zero_iff] at hcount
    have hword : count = es.length.toUInt32 := by
      rw [hlen, Nat.toUInt32, UInt32.ofNat_toNat]
    refine ⟨⟨hcount.1, hcount.2, hall, hdistinct⟩, ?_⟩
    simp only [bundleBytes, headerBytes, ← hword, List.append_assoc]
  · rintro ⟨hok, rfl⟩
    have hpos : 0 < entries.length := List.length_pos_iff.2 hok.ne_nil
    have hle := hok.length_le
    have hcount : entries.length.toUInt32.toNat = entries.length := by
      refine UInt32.toNat_ofNat_of_lt' ?_
      simp only [maxEntryCount] at hle
      simp only [UInt32.size]
      omega
    simp only [bundleBytes, headerBytes, List.append_assoc]
    refine ⟨bundleMagic, _, ⟨by decide, rfl⟩, (), _, ⟨rfl, rfl⟩, bundleVersion, _, rfl, (), _,
      ⟨rfl, rfl⟩, kind.byte, _, rfl, kind, _, ⟨rfl, rfl⟩, entries.length.toUInt32, _, rfl, (), _,
      ⟨by omega, rfl⟩, entries, _, ⟨⟨hcount.symm, hok.each, hok.distinct, by simp⟩, rfl⟩, rfl, rfl⟩

/-- **What the decoder accepts:** the bytes of well-formed entries. -/
theorem decodeBundle_eq_ok_iff {bytes : List UInt8} {kind : FounderBundleKind}
    {entries : List BundleEntry} :
    decodeBundle digestBytes bytes = .ok (kind, entries) ↔
      EntriesOk digestBytes entries ∧ bytes = bundleBytes kind entries := by
  have hreads : Reads (readBundle digestBytes) _ _ := reads_bundle
  have hread := hreads bytes (kind, entries) []
  rw [List.append_nil] at hread
  rw [← hread, decodeBundle]
  cases readBundle digestBytes bytes with
  | error e => simp [bind, Except.bind]
  | ok p =>
    obtain ⟨bundle, rest⟩ := p
    show (archiveReject (rest ≠ []) _ >>= fun _ => .ok bundle) = _ ↔ _
    rw [archived_check_eq_ok_iff, archiveReject_eq_ok_iff]
    simp only [ne_eq, not_not, Except.ok.injEq, Prod.mk.injEq]
    tauto

/-- The loop of the encoder appends the bytes of its entries, within the limit. -/
theorem encodeEntries_eq_ok_iff {output bytes : List UInt8} {paths : List String}
    {entries : List BundleEntry} :
    encodeEntries digestBytes output paths entries = .ok bytes ↔
      (∀ entry ∈ entries, EntryOk digestBytes entry) ∧ (entries.map BundleEntry.path).Nodup
        ∧ (∀ entry ∈ entries, entry.path ∉ paths)
        ∧ (entries ≠ [] → bytes.length ≤ maxBundleUncompressedBytes)
        ∧ bytes = output ++ entries.flatMap entryBytes := by
  induction entries generalizing output paths with
  | nil => simp [encodeEntries, eq_comm]
  | cons entry entries ih =>
    simp only [encodeEntries, archived_check_eq_ok_iff, archiveReject_eq_ok_iff, ih, not_or,
      Nat.not_lt, ne_eq, not_not]
    constructor
    · rintro ⟨hpath, ⟨hne, hle, hdigest, hnew⟩, hfit, hall, hdistinct, hfresh, hsize, rfl⟩
      refine ⟨List.forall_mem_cons.2 ⟨⟨hpath, hne, hle, hdigest⟩, hall⟩, ?_, ?_, fun _ => ?_, ?_⟩
      · rw [List.map_cons, List.nodup_cons]
        refine ⟨fun hmem => ?_, hdistinct⟩
        obtain ⟨e, he, heq⟩ := List.mem_map.1 hmem
        exact hfresh e he (by rw [heq]; exact List.mem_cons_self)
      · exact List.forall_mem_cons.2
          ⟨hnew, fun e he hmem => hfresh e he (List.mem_cons_of_mem _ hmem)⟩
      · by_cases hnil : entries = []
        · simpa [hnil] using hfit
        · exact hsize hnil
      · rw [List.flatMap_cons, List.append_assoc]
    · rintro ⟨hall, hdistinct, hfresh, hsize, rfl⟩
      rw [List.forall_mem_cons] at hall hfresh
      rw [List.map_cons, List.nodup_cons] at hdistinct
      have hsize := hsize (by simp)
      rw [List.flatMap_cons, ← List.append_assoc] at hsize
      refine ⟨hall.1.1, ⟨hall.1.2.1, hall.1.2.2.1, hall.1.2.2.2, hfresh.1⟩, ?_, hall.2,
        hdistinct.2, fun e he hmem => ?_, fun _ => ?_, ?_⟩
      · rw [List.length_append] at hsize
        omega
      · obtain heq | hmem := List.mem_cons.1 hmem
        · exact hdistinct.1 (heq ▸ List.mem_map_of_mem he)
        · exact hfresh.2 e he hmem
      · rw [List.flatMap_cons, ← List.append_assoc]
        exact hsize
      · rw [List.flatMap_cons, List.append_assoc]

/-- **What the encoder accepts:** well-formed entries whose bytes fit the limit. -/
theorem encodeBundle_eq_ok_iff {kind : FounderBundleKind} {entries : List BundleEntry}
    {bytes : List UInt8} :
    encodeBundle digestBytes kind entries = .ok bytes ↔
      EntriesOk digestBytes entries ∧ bytes.length ≤ maxBundleUncompressedBytes
        ∧ bytes = bundleBytes kind entries := by
  rw [encodeBundle, archived_check_eq_ok_iff, archiveReject_eq_ok_iff, encodeEntries_eq_ok_iff,
    not_or, Nat.not_lt]
  constructor
  · rintro ⟨⟨hne, hle⟩, hall, hdistinct, -, hsize, rfl⟩
    exact ⟨⟨hne, hle, hall, hdistinct⟩, hsize hne, rfl⟩
  · rintro ⟨hok, hsize, rfl⟩
    exact ⟨⟨hok.ne_nil, hok.length_le⟩, hok.each, hok.distinct, by simp, fun _ => hsize, rfl⟩

end Container

end ALife
