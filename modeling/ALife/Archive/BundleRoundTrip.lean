/-
# The bundle container as an encoding

The encoder and the decoder invert each other up to the encoder's size limit,
and the paths of a decoded bundle name files below any root
(`bundle_codec_faithful`).  The decoder itself has no size limit: its one caller
reads at most `MAX_BUNDLE_UNCOMPRESSED_BYTES` bytes before it decodes, so a longer
byte string never reaches it.  Duplicate paths are told apart as strings, so two
spellings of one path may stand in a bundle; they denote one file exactly when
their components agree.
-/

import ALife.Archive.BundleCodec

namespace ALife

open Machine

/-- Where an entry path leads to below a root, from a working directory. -/
def entryFile (cwd : List (List Char)) (root : List Char) (entry : BundleEntry) :
    List (List Char) :=
  UnixPath.locate cwd (UnixPath.components (UnixPath.join root entry.path.toList))

/-- **The container is an exact encoding within the size limit, and its paths stay
below the root.** -/
theorem bundle_codec_faithful (digestBytes : List UInt8 → Blake3Digest) :
    (∀ kind entries bytes, encodeBundle digestBytes kind entries = .ok bytes →
      decodeBundle digestBytes bytes = .ok (kind, entries))
    ∧ (∀ bytes kind entries, decodeBundle digestBytes bytes = .ok (kind, entries) →
      bytes.length ≤ maxBundleUncompressedBytes →
        encodeBundle digestBytes kind entries = .ok bytes)
    ∧ ∀ bytes kind entries, decodeBundle digestBytes bytes = .ok (kind, entries) →
      ∀ (cwd : List (List Char)) (root : List Char),
        (∀ entry ∈ entries, ∃ names, names ≠ [] ∧ entryFile cwd root entry
          = UnixPath.locate cwd (UnixPath.components root) ++ names)
        ∧ (∀ entry ∈ entries, ∀ entry' ∈ entries,
          (entryFile cwd root entry = entryFile cwd root entry' ↔
            UnixPath.components entry.path.toList = UnixPath.components entry'.path.toList))
        ∧ ∀ entry ∈ entries, ∀ entry' ∈ entries, UnixPath.Plain entry.path.toList →
          UnixPath.Plain entry'.path.toList → entry.path ≠ entry'.path →
            entryFile cwd root entry ≠ entryFile cwd root entry' := by
  refine ⟨fun kind entries bytes h => ?_, fun bytes kind entries h hsize => ?_,
    fun bytes kind entries h cwd root => ?_⟩
  · obtain ⟨hok, -, hbytes⟩ := encodeBundle_eq_ok_iff.1 h
    exact decodeBundle_eq_ok_iff.2 ⟨hok, hbytes⟩
  · obtain ⟨hok, hbytes⟩ := decodeBundle_eq_ok_iff.1 h
    exact encodeBundle_eq_ok_iff.2 ⟨hok, hsize, hbytes⟩
  · obtain ⟨hok, -⟩ := decodeBundle_eq_ok_iff.1 h
    have hnames : ∀ entry ∈ entries, ∃ names, UnixPath.NamesOnly entry.path.toList names :=
      fun entry hentry => namesOnly_of_validateEntryPath (hok.each entry hentry).1
    refine ⟨fun entry hentry => ?_, fun entry hentry entry' hentry' => ?_,
      fun entry hentry entry' hentry' hplain hplain' hne hfile => hne ?_⟩
    · obtain ⟨names, hn⟩ := hnames entry hentry
      refine ⟨names, ?_, UnixPath.locate_join hn cwd⟩
      rintro rfl
      have hpath := (validateEntryPath_eq_ok_iff.1 (hok.each entry hentry).1).1.1
      exact UnixPath.components_ne_nil (fun hnil => hpath (String.toList_eq_nil_iff.1 hnil)) hn
    · obtain ⟨names, hn⟩ := hnames entry hentry
      obtain ⟨names', hn'⟩ := hnames entry' hentry'
      exact UnixPath.locate_join_eq_iff hn hn' cwd
    · obtain ⟨names, hn⟩ := hnames entry hentry
      obtain ⟨names', hn'⟩ := hnames entry' hentry'
      have hcomponents := (UnixPath.locate_join_eq_iff hn hn' cwd).1 hfile
      have hn'' : UnixPath.NamesOnly entry'.path.toList names := hcomponents.symm.trans hn
      exact String.toList_injective (hplain.eq hplain' hn hn'')

/-- The hash of the one byte `7`. -/
def digestSeven : Blake3Digest :=
  ⟨#v[68, 139, 216, 221, 150, 36, 21, 74, 105, 15, 142, 132, 220, 82, 214, 246,
    51, 186, 124, 213, 69, 196, 211, 201, 180, 224, 246, 162, 246, 250, 113, 244]⟩

/-- Two entries, one of them in a directory. -/
def sampleEntries : List BundleEntry :=
  [⟨"a/b", digestSeven, [7]⟩, ⟨"c", digestSeven, [8, 9]⟩]

/-- The theorem on a bundle of two entries, extracted below `/r`. -/
theorem bundle_codec_faithful_sample :
    decodeBundle (fun _ => digestSeven) (bundleBytes .creature sampleEntries)
        = .ok (.creature, sampleEntries) ∧
      encodeBundle (fun _ => digestSeven) .creature sampleEntries
        = .ok (bundleBytes .creature sampleEntries) ∧
      (∀ entry ∈ sampleEntries, ∃ names, names ≠ [] ∧ entryFile [] ['/', 'r'] entry
        = UnixPath.locate [] (UnixPath.components ['/', 'r']) ++ names) ∧
      entryFile [] ['/', 'r'] ⟨"a/b", digestSeven, [7]⟩
        ≠ entryFile [] ['/', 'r'] ⟨"c", digestSeven, [8, 9]⟩ := by
  have hok : EntriesOk (fun _ => digestSeven) sampleEntries := by
    refine ⟨by decide, by decide, ?_, by decide⟩
    simp only [sampleEntries, List.forall_mem_cons]
    exact ⟨⟨by decide +kernel, by decide, by decide, rfl⟩,
      ⟨by decide +kernel, by decide, by decide, rfl⟩, by simp⟩
  have hsize : (bundleBytes .creature sampleEntries).length ≤ maxBundleUncompressedBytes := by
    decide +kernel
  obtain ⟨hdecodes, hencodes, hpaths⟩ := bundle_codec_faithful fun _ => digestSeven
  have hdecoded := hdecodes .creature sampleEntries _ (encodeBundle_eq_ok_iff.2 ⟨hok, hsize, rfl⟩)
  obtain ⟨hbelow, hsame, -⟩ := hpaths _ _ _ hdecoded [] ['/', 'r']
  refine ⟨hdecoded, hencodes _ _ _ hdecoded hsize, hbelow, fun h => ?_⟩
  have hcomponents := (hsame _ List.mem_cons_self _
    (List.mem_cons_of_mem _ List.mem_cons_self)).1 h
  exact absurd hcomponents (by decide +kernel)

/-! ### What the limit and the spellings leave out -/

/-- Three entries with one content. -/
def threeEntries (digestBytes : List UInt8 → Blake3Digest) (content : List UInt8) :
    List BundleEntry :=
  ["a", "b", "c"].map fun path => ⟨path, digestBytes content, content⟩

/-- Two spellings of one path. -/
def respelledEntries (digestBytes : List UInt8 → Blake3Digest) : List BundleEntry :=
  [⟨"a/b", digestBytes [1], [1]⟩, ⟨"a//b", digestBytes [2], [2]⟩]

theorem threeEntries_ok (digestBytes : List UInt8 → Blake3Digest) {content : List UInt8}
    (hne : content ≠ []) (hle : content.length ≤ maxEntryBytes) :
    EntriesOk digestBytes (threeEntries digestBytes content) := by
  have hentry : ∀ path, validateEntryPath path = .ok () →
      EntryOk digestBytes ⟨path, digestBytes content, content⟩ :=
    fun path hpath => ⟨hpath, hne, hle, rfl⟩
  refine ⟨by simp [threeEntries], by simp [threeEntries, maxEntryCount], ?_, ?_⟩
  · simp only [threeEntries, List.map_cons, List.map_nil, List.forall_mem_cons]
    exact ⟨hentry _ (by decide +kernel), hentry _ (by decide +kernel), hentry _ (by decide +kernel),
      by simp⟩
  · simp [threeEntries]

theorem length_threeEntries (digestBytes : List UInt8 → Blake3Digest) (kind : FounderBundleKind)
    (content : List UInt8) :
    3 * content.length ≤ (bundleBytes kind (threeEntries digestBytes content)).length := by
  simp only [bundleBytes, threeEntries, entryBytes, List.map_cons, List.map_nil,
    List.flatMap_cons, List.length_append]
  omega

theorem respelledEntries_ok (digestBytes : List UInt8 → Blake3Digest) :
    EntriesOk digestBytes (respelledEntries digestBytes) := by
  have hpath : validateEntryPath "a/b" = .ok () := by decide +kernel
  have hpath' : validateEntryPath "a//b" = .ok () := by decide +kernel
  refine ⟨by simp [respelledEntries], by simp [respelledEntries, maxEntryCount], ?_, ?_⟩
  · simp only [respelledEntries, List.forall_mem_cons]
    exact ⟨⟨hpath, by simp, by simp [maxEntryBytes], rfl⟩,
      ⟨hpath', by simp, by simp [maxEntryBytes], rfl⟩, by simp⟩
  · simp [respelledEntries]

/-- Whatever the hash, a decoded bundle need not encode again, and two accepted
paths may denote one file. -/
theorem bundle_beyond_limit_and_respelled :
    ¬∃ digestBytes : List UInt8 → Blake3Digest,
      (∀ bytes kind entries, decodeBundle digestBytes bytes = .ok (kind, entries) →
        encodeBundle digestBytes kind entries = .ok bytes)
      ∨ ∀ bytes kind entries, decodeBundle digestBytes bytes = .ok (kind, entries) →
        ∀ entry ∈ entries, ∀ entry' ∈ entries, entry.path ≠ entry'.path →
          ∀ cwd root, entryFile cwd root entry ≠ entryFile cwd root entry' := by
  rintro ⟨digestBytes, hencodes | hapart⟩
  · -- three contents of 200 MiB each
    obtain ⟨content, hlength⟩ : ∃ content : List UInt8, content.length = 209715200 :=
      ⟨_, List.length_replicate (n := 209715200) (a := 0)⟩
    have hok : EntriesOk digestBytes (threeEntries digestBytes content) :=
      threeEntries_ok digestBytes (List.length_pos_iff.1 (by omega))
        (by rw [hlength, maxEntryBytes]; omega)
    have hencoded := hencodes _ .creature _ (decodeBundle_eq_ok_iff.2 ⟨hok, rfl⟩)
    have hsize := (encodeBundle_eq_ok_iff.1 hencoded).2.1
    have hlarge := length_threeEntries digestBytes .creature content
    rw [maxBundleUncompressedBytes] at hsize
    omega
  · have hne := hapart _ .creature _
      (decodeBundle_eq_ok_iff.2 ⟨respelledEntries_ok digestBytes, rfl⟩)
      _ List.mem_cons_self _ (List.mem_cons_of_mem _ List.mem_cons_self) (by simp) [] "root".toList
    have hsame : UnixPath.components (UnixPath.join "root".toList "a/b".toList)
        = UnixPath.components (UnixPath.join "root".toList "a//b".toList) := by decide +kernel
    exact hne (congrArg (UnixPath.locate []) hsame)

end ALife
