/-
# Merging entries into an asset manifest

`AssetManifest` (`crates/alife_world/src/persistence.rs`) and
`merge_gpu_checkpoint_manifest_entries`
(`crates/alife_runtime/src/checkpoint_assets/content_store.rs`).  The loop keeps
the index of every asset id and pushes the new entries as it meets them, so a
conflict leaves the entries that were pushed before it; the callers merge into a
copy that they drop on an error.
-/

import ALife.Checkpoint.AssetDigest
import ALife.Machine.Outcome
import ALife.Machine.SortedNames
import ALife.Machine.TreeMaps
import Mathlib.Data.String.Basic

namespace ALife

open Machine
open Std (ExtTreeMap)

inductive AssetKind where
  | generatedWeights | compositeGenome | foundationWeights | lifetimeState | etfPrototypes
  | scenarioConfig | exampleWorld | semanticGaussian | packedLog | benchmarkReport | other
  deriving DecidableEq, Repr

inductive AssetPresence where
  | required | optional
  deriving DecidableEq, Repr

structure AssetManifestEntry where
  assetId : String
  kind : AssetKind
  relativePath : String
  digest : PortableAssetDigest
  presence : AssetPresence
  schemaVersion : UInt16
  sizeBytes : Option UInt64
  provenance : Option String
  deriving DecidableEq, Repr

structure AssetManifest where
  schema : String
  schemaVersion : UInt16
  entries : List AssetManifestEntry
  deriving DecidableEq, Repr

/-- The one `PersistenceError` of the merge. -/
inductive PersistenceError where
  | invalidAssetManifest (assetId message : String)
  deriving DecidableEq, Repr

/-- A body over a manifest. -/
abbrev Merging := EStateM PersistenceError AssetManifest

/-- The index of every asset id: the last entry counts. -/
def existingEntries (manifest : AssetManifest) : ExtTreeMap String ℕ :=
  manifest.entries.zipIdx.foldl (fun existing row => existing.insert row.1.assetId row.2) ∅

/-- One round of the loop.  An index of the map is always in range
(`Indexed`), so the comparison never panics. -/
def mergeManifestEntry (existing : ExtTreeMap String ℕ) (entry : AssetManifestEntry) :
    Merging (ExtTreeMap String ℕ) := do
  let manifest ← get
  match existing[entry.assetId]? with
  | some index =>
    if manifest.entries[index]? ≠ some entry then
      throw (.invalidAssetManifest entry.assetId
        "content-addressed GPU asset id maps to different metadata")
    else pure existing
  | none =>
    set { manifest with entries := manifest.entries ++ [entry] }
    pure (existing.insert entry.assetId manifest.entries.length)

def mergeGpuCheckpointManifestEntries (entries : List AssetManifestEntry) : Merging Unit := do
  let manifest ← get
  let _ ← entries.foldlM mergeManifestEntry (existingEntries manifest)
  modify fun m => { m with entries := sortByKey AssetManifestEntry.assetId m.entries }

/-- No asset id names two entries. -/
def DistinctIds (entries : List AssetManifestEntry) : Prop :=
  (entries.map AssetManifestEntry.assetId).Nodup

instance (entries : List AssetManifestEntry) : Decidable (DistinctIds entries) :=
  inferInstanceAs (Decidable (List.Nodup _))

/-- Some asset id would map to two different entries. -/
def Conflicting (old new : List AssetManifestEntry) : Prop :=
  ∃ a ∈ old ++ new, ∃ b ∈ new, a.assetId = b.assetId ∧ a ≠ b

/-- The map holds the index of every entry, under its id. -/
def Indexed (existing : ExtTreeMap String ℕ) (manifest : AssetManifest) : Prop :=
  ∀ (k : String) (i : ℕ),
    existing[k]? = some i ↔ ∃ e, manifest.entries[i]? = some e ∧ e.assetId = k

/-- The manifest with some entries appended. -/
def AssetManifest.append (manifest : AssetManifest) (added : List AssetManifestEntry) :
    AssetManifest :=
  { manifest with entries := manifest.entries ++ added }

@[simp] theorem AssetManifest.append_nil (m : AssetManifest) : m.append [] = m := by
  simp [AssetManifest.append]

@[simp] theorem AssetManifest.append_entries (m : AssetManifest) (added : List AssetManifestEntry) :
    (m.append added).entries = m.entries ++ added := rfl

theorem AssetManifest.append_append (m : AssetManifest) (l l' : List AssetManifestEntry) :
    (m.append l).append l' = m.append (l ++ l') := by
  simp [AssetManifest.append]

section Index

variable {existing : ExtTreeMap String ℕ} {m : AssetManifest}

/-- An indexed manifest has distinct ids. -/
theorem Indexed.distinctIds (h : Indexed existing m) : DistinctIds m.entries := by
  rw [DistinctIds, List.nodup_iff_injective_getElem]
  rintro ⟨i, hi⟩ ⟨j, hj⟩ hij
  simp only [List.getElem_map] at hij
  rw [List.length_map] at hi hj
  have hri := (h m.entries[j].assetId i).2 ⟨m.entries[i], List.getElem?_eq_getElem hi, hij⟩
  have hrj := (h m.entries[j].assetId j).2 ⟨m.entries[j], List.getElem?_eq_getElem hj, rfl⟩
  exact Fin.ext (Option.some.inj (hri.symm.trans hrj))

theorem Indexed.none_iff (h : Indexed existing m) {k : String} :
    existing[k]? = none ↔ ∀ e ∈ m.entries, e.assetId ≠ k := by
  constructor
  · intro hk e he hek
    obtain ⟨i, hi⟩ := List.mem_iff_getElem?.1 he
    have := (h k i).2 ⟨e, hi, hek⟩
    rw [hk] at this
    cases this
  · intro hall
    cases hk : existing[k]? with
    | none => rfl
    | some i =>
      obtain ⟨e, he, hek⟩ := (h k i).1 hk
      exact absurd hek (hall e (List.mem_iff_getElem?.2 ⟨i, he⟩))

/-- A new id is indexed at the end. -/
theorem Indexed.push (h : Indexed existing m) {e : AssetManifestEntry}
    (hnew : existing[e.assetId]? = none) :
    Indexed (existing.insert e.assetId m.entries.length) (m.append [e]) := by
  intro k i
  rw [getElem?_insert_eq_some_iff, AssetManifest.append_entries]
  have hfresh := h.none_iff.1 hnew
  constructor
  · rintro (⟨rfl, rfl⟩ | ⟨-, hk⟩)
    · exact ⟨e, by simp, rfl⟩
    · obtain ⟨e', he', hek⟩ := (h k i).1 hk
      have hi := (List.getElem?_eq_some_iff.1 he').1
      exact ⟨e', by rw [List.getElem?_append_left hi, he'], hek⟩
  · rintro ⟨e', he', rfl⟩
    obtain hi | hi := Nat.lt_or_ge i m.entries.length
    · rw [List.getElem?_append_left hi] at he'
      exact .inr ⟨hfresh e' (List.mem_iff_getElem?.2 ⟨i, he'⟩), (h _ i).2 ⟨e', he', rfl⟩⟩
    · rw [List.getElem?_append_right hi, List.getElem?_singleton] at he'
      split_ifs at he' with h0
      obtain rfl := Option.some.inj he'
      exact .inl ⟨rfl, by omega⟩

/-- The map the merge starts from. -/
theorem indexed_existingEntries (h : DistinctIds m.entries) : Indexed (existingEntries m) m := by
  intro k i
  have hpair : m.entries.zipIdx.Pairwise fun a b => a.1.assetId ≠ b.1.assetId := by
    have : (m.entries.zipIdx.map fun row => row.1.assetId) = m.entries.map (·.assetId) := by
      rw [← List.zipIdx_map_fst 0 m.entries, List.map_map]
      simp [Function.comp_def]
    rw [← List.pairwise_map (f := fun row : AssetManifestEntry × ℕ => row.1.assetId)
      (R := fun a b => a ≠ b), this]
    exact h
  rw [existingEntries, getElem?_foldl_insert _ _ hpair]
  simp only [ExtTreeMap.getElem?_empty, reduceCtorEq, and_false, or_false, Prod.exists,
    List.mem_zipIdx_iff_getElem?]
  constructor
  · rintro ⟨e, j, he, hek, rfl⟩
    exact ⟨e, he, hek⟩
  · rintro ⟨e, he, hek⟩
    exact ⟨e, i, he, hek, rfl⟩

end Index

section Loop

variable {existing : ExtTreeMap String ℕ} {m : AssetManifest}

/-- **One round.**  A known id stops the loop unless it names the same entry; a
new one is pushed. -/
theorem mergeManifestEntry_cases (h : Indexed existing m) (e : AssetManifestEntry) :
    (e ∈ m.entries ∧ mergeManifestEntry existing e m = .ok existing m) ∨
    ((∃ a ∈ m.entries, a.assetId = e.assetId ∧ a ≠ e) ∧
      ∃ err, mergeManifestEntry existing e m = .error err m) ∨
    ((∀ a ∈ m.entries, a.assetId ≠ e.assetId) ∧ ∃ existing', Indexed existing' (m.append [e]) ∧
      mergeManifestEntry existing e m = .ok existing' (m.append [e])) := by
  unfold mergeManifestEntry
  rw [bind_apply, get_apply]
  dsimp only
  cases hk : existing[e.assetId]? with
  | none => exact .inr (.inr ⟨h.none_iff.1 hk, _, h.push hk, rfl⟩)
  | some index =>
    dsimp only
    by_cases hsame : m.entries[index]? = some e
    · rw [if_neg (not_not.2 hsame)]
      exact .inl ⟨List.mem_iff_getElem?.2 ⟨index, hsame⟩, rfl⟩
    · rw [if_pos hsame]
      obtain ⟨a, ha, hae⟩ := (h _ index).1 hk
      refine .inr (.inl ⟨⟨a, List.mem_iff_getElem?.2 ⟨index, ha⟩, hae, ?_⟩, _, rfl⟩)
      rintro rfl
      exact hsame ha

/-- **The whole loop** ends with an indexed manifest that has some of the given
entries appended: with all of them known when it succeeded, and with a conflict
met when it failed. -/
theorem ends_mergeManifestEntries (h : Indexed existing m) (es : List AssetManifestEntry) :
    Ends (es.foldlM mergeManifestEntry existing) m
      (fun _ t => ∃ added, added.Sublist es ∧ t = m.append added ∧ DistinctIds t.entries ∧
        ∀ e ∈ es, e ∈ t.entries)
      (fun _ t => ∃ added, added.Sublist es ∧ t = m.append added ∧ DistinctIds t.entries ∧
        Conflicting m.entries es) := by
  induction es generalizing existing m with
  | nil => exact ⟨[], List.Sublist.refl _, by simp, h.distinctIds, by simp⟩
  | cons e es ih =>
    rw [List.foldlM_cons]
    unfold Ends
    rw [bind_apply]
    obtain ⟨hmem, hok⟩ | ⟨⟨a, ha, hae, hne⟩, err, herr⟩ | ⟨hnew, existing', hind, hok⟩ :=
      mergeManifestEntry_cases h e
    · rw [hok]
      refine (ih h).mono ?_ ?_
      · rintro _ _ ⟨added, hsub, rfl, hids, hall⟩
        refine ⟨added, hsub.cons e, rfl, hids, List.forall_mem_cons.2 ⟨?_, hall⟩⟩
        exact List.mem_append_left _ hmem
      · rintro _ _ ⟨added, hsub, rfl, hids, a, ha, b, hb, hab⟩
        refine ⟨added, hsub.cons e, rfl, hids, a, ?_, b, List.mem_cons_of_mem _ hb, hab⟩
        rw [List.mem_append] at ha ⊢
        exact ha.imp_right (List.mem_cons_of_mem _)
    · rw [herr]
      exact ⟨[], List.nil_sublist _, by simp, h.distinctIds, a, List.mem_append_left _ ha, e,
        List.mem_cons_self, hae, hne⟩
    · rw [hok]
      refine (ih hind).mono ?_ ?_
      · rintro _ _ ⟨added, hsub, rfl, hids, hall⟩
        refine ⟨e :: added, hsub.cons_cons e, ?_, hids, List.forall_mem_cons.2 ⟨?_, hall⟩⟩
        · rw [AssetManifest.append_append]
          rfl
        · simp
      · rintro _ _ ⟨added, hsub, rfl, hids, a, ha, b, hb, hab⟩
        refine ⟨e :: added, hsub.cons_cons e, ?_, hids, a, ?_, b, List.mem_cons_of_mem _ hb, hab⟩
        · rw [AssetManifest.append_append]
          rfl
        · simpa [or_assoc] using ha

/-- Entries that fit into one manifest do not conflict. -/
theorem not_conflicting_of_mem {old new : List AssetManifestEntry} {t : AssetManifest}
    (hids : DistinctIds t.entries) (hold : ∀ e ∈ old, e ∈ t.entries)
    (hnew : ∀ e ∈ new, e ∈ t.entries) : ¬Conflicting old new := by
  rintro ⟨a, ha, b, hb, hab, hne⟩
  refine hne (List.inj_on_of_nodup_map hids ?_ (hnew b hb) hab)
  obtain ha | ha := List.mem_append.1 ha
  · exact hold a ha
  · exact hnew a ha

end Loop

/-- Strictly ascending ids. -/
def SortedIds (entries : List AssetManifestEntry) : Prop :=
  entries.Pairwise fun a b => a.assetId < b.assetId

/-- Sorting distinct ids sorts them strictly. -/
theorem sortedIds_sortByKey {l : List AssetManifestEntry} (h : DistinctIds l) :
    SortedIds (sortByKey AssetManifestEntry.assetId l) := by
  have hids : DistinctIds (sortByKey AssetManifestEntry.assetId l) :=
    ((sortByKey_perm AssetManifestEntry.assetId l).map _).nodup_iff.2 h
  refine ((pairwise_sortByKey AssetManifestEntry.assetId l).and (List.pairwise_map.1 hids)).imp ?_
  rintro a b ⟨hle, hne⟩
  exact lt_of_le_of_ne hle hne

/-- The sorted entries are determined by which they are. -/
theorem SortedIds.ext {l l' : List AssetManifestEntry} (h : SortedIds l) (h' : SortedIds l')
    (hmem : ∀ e, e ∈ l ↔ e ∈ l') : l = l' := by
  have hnodup : ∀ {l}, SortedIds l → l.Nodup := fun h => h.imp fun hlt heq => by
    subst heq
    exact lt_irrefl _ hlt
  have hperm : l.Perm l' := (List.perm_ext_iff_of_nodup (hnodup h) (hnodup h')).2 hmem
  refine List.Perm.eq_of_pairwise ?_ h h' hperm
  intro a b _ _ hab hba
  exact absurd hba (lt_asymm hab)

theorem SortedIds.distinctIds {l : List AssetManifestEntry} (h : SortedIds l) : DistinctIds l :=
  List.pairwise_map.2 (h.imp ne_of_lt)

section Merge

variable {m : AssetManifest} {es : List AssetManifestEntry}

/-- **How the merge ends.** -/
theorem ends_mergeGpuCheckpointManifestEntries (hids : DistinctIds m.entries) :
    Ends (mergeGpuCheckpointManifestEntries es) m
      (fun _ t => SortedIds t.entries ∧ (∀ e, e ∈ t.entries ↔ e ∈ m.entries ∨ e ∈ es) ∧
        t = { m with entries := t.entries } ∧ ¬Conflicting m.entries es)
      (fun _ t => ∃ added, added.Sublist es ∧ t = m.append added ∧ DistinctIds t.entries ∧
        Conflicting m.entries es) := by
  unfold mergeGpuCheckpointManifestEntries Ends
  rw [bind_apply, get_apply]
  dsimp only
  refine (ends_mergeManifestEntries (indexed_existingEntries hids) es).bind ?_
  rintro _ _ ⟨added, hsub, rfl, hids', hall⟩
  refine ⟨sortedIds_sortByKey hids', fun e => ?_, rfl, ?_⟩
  · dsimp only
    rw [mem_sortByKey, AssetManifest.append_entries, List.mem_append]
    constructor
    · exact Or.imp_right fun he => hsub.subset he
    · rintro (he | he)
      · exact .inl he
      · exact List.mem_append.1 (hall e he)
  · exact not_conflicting_of_mem hids' (fun e he => List.mem_append_left _ he) hall

/-- The merge succeeds when there is no conflict, and its result is determined. -/
theorem merge_eq_ok_iff (hids : DistinctIds m.entries) {t : AssetManifest} :
    mergeGpuCheckpointManifestEntries es m = .ok () t ↔
      ¬Conflicting m.entries es ∧ SortedIds t.entries ∧
        (∀ e, e ∈ t.entries ↔ e ∈ m.entries ∨ e ∈ es) ∧ t = { m with entries := t.entries } := by
  have hends := @ends_mergeGpuCheckpointManifestEntries m es hids
  constructor
  · intro h
    obtain ⟨hsorted, hmem, hrest, hno⟩ := hends.of_ok h
    exact ⟨hno, hsorted, hmem, hrest⟩
  · rintro ⟨hno, hsorted, hmem, hrest⟩
    cases hx : mergeGpuCheckpointManifestEntries es m with
    | error e t' =>
      obtain ⟨-, -, -, -, hc⟩ := hends.of_error hx
      exact absurd hc hno
    | ok u t' =>
      obtain ⟨hsorted', hmem', hrest', -⟩ := hends.of_ok hx
      have hsame : t'.entries = t.entries :=
        hsorted'.ext hsorted fun e => (hmem' e).trans (hmem e).symm
      rw [hrest, hrest', hsame]

theorem conflicting_congr {old new old' new' : List AssetManifestEntry}
    (hnew : ∀ e, e ∈ new ↔ e ∈ new') (hall : ∀ e, e ∈ old ++ new ↔ e ∈ old' ++ new') :
    Conflicting old new ↔ Conflicting old' new' := by
  simp only [Conflicting, hnew, hall]

/-- **Merging entries.**  The merge succeeds unless some asset id would map to
two different entries.  Then the manifest holds the old and the given entries,
sorted by their distinct ids, whatever the order of the given ones, and merging
them again changes nothing.  A refused merge has dropped and changed nothing: it
may have appended some of the given entries, under ids of their own. -/
theorem merge_gpu_checkpoint_manifest_entries_spec (m : AssetManifest)
    (es : List AssetManifestEntry) (hids : DistinctIds m.entries) :
    (∀ t, mergeGpuCheckpointManifestEntries es m = .ok () t →
      SortedIds t.entries ∧ DistinctIds t.entries ∧
      (∀ e, e ∈ t.entries ↔ e ∈ m.entries ∨ e ∈ es) ∧ t = { m with entries := t.entries } ∧
      (∀ es', es'.Perm es → mergeGpuCheckpointManifestEntries es' m = .ok () t) ∧
      mergeGpuCheckpointManifestEntries es t = .ok () t) ∧
    (∀ err t, mergeGpuCheckpointManifestEntries es m = .error err t →
      ∃ added, added.Sublist es ∧ t = { m with entries := m.entries ++ added } ∧
        DistinctIds t.entries) ∧
    ((∃ err t, mergeGpuCheckpointManifestEntries es m = .error err t) ↔
      Conflicting m.entries es) := by
  have hends := @ends_mergeGpuCheckpointManifestEntries m es hids
  refine ⟨fun t ht => ?_, fun err t ht => ?_, ?_⟩
  · obtain ⟨hno, hsorted, hmem, hrest⟩ := (merge_eq_ok_iff hids).1 ht
    refine ⟨hsorted, hsorted.distinctIds, hmem, hrest, fun es' hperm => ?_, ?_⟩
    · refine (merge_eq_ok_iff hids).2 ⟨?_, hsorted, fun e => ?_, hrest⟩
      · rwa [conflicting_congr (fun e => hperm.mem_iff)
          (fun e => (hperm.append_left m.entries).mem_iff)]
      · rw [hmem e, hperm.mem_iff]
    · refine (merge_eq_ok_iff hsorted.distinctIds).2 ⟨?_, hsorted, fun e => ?_, rfl⟩
      · exact not_conflicting_of_mem hsorted.distinctIds (fun e he => he)
          fun e he => (hmem e).2 (.inr he)
      · exact ⟨.inl, fun he => he.elim id fun hes => (hmem e).2 (.inr hes)⟩
  · obtain ⟨added, hsub, rfl, hids', -⟩ := hends.of_error ht
    exact ⟨added, hsub, rfl, hids'⟩
  · constructor
    · rintro ⟨err, t, ht⟩
      obtain ⟨-, -, -, -, hc⟩ := hends.of_error ht
      exact hc
    · intro hc
      cases hx : mergeGpuCheckpointManifestEntries es m with
      | error err t => exact ⟨err, t, rfl⟩
      | ok u t => exact absurd hc (hends.of_ok hx).2.2.2

end Merge

/-- An entry of the checkpoint writer. -/
def AssetManifestEntry.sample (size : UInt64) : AssetManifestEntry where
  assetId := "gpu-brain:1"
  kind := .generatedWeights
  relativePath := "gpu/brain-1.json"
  digest := PortableAssetDigest.forBytes []
  presence := .required
  schemaVersion := 1
  sizeBytes := some size
  provenance := none

/-- `AssetManifest::empty`. -/
def AssetManifest.empty : AssetManifest := ⟨"alife.p34.asset_manifest.v1", 1, []⟩

/-- The entry of another creature. -/
def AssetManifestEntry.sampleOf (assetId : String) (size : UInt64) : AssetManifestEntry :=
  { AssetManifestEntry.sample size with assetId }

/-- One entry. -/
def AssetManifest.sample : AssetManifest :=
  { AssetManifest.empty with entries := [.sampleOf "gpu-brain:2" 7] }

/-- Two new entries and the old one again; and with another size for the old one. -/
theorem merge_gpu_checkpoint_manifest_entries_spec_sample :
    let es : List AssetManifestEntry :=
      [.sampleOf "gpu-brain:3" 9, .sampleOf "gpu-brain:1" 8, .sampleOf "gpu-brain:2" 7]
    let es' : List AssetManifestEntry :=
      [.sampleOf "gpu-brain:3" 9, .sampleOf "gpu-brain:2" 8, .sampleOf "gpu-brain:1" 8]
    (∃ t, mergeGpuCheckpointManifestEntries es AssetManifest.sample = .ok () t ∧
      SortedIds t.entries ∧
      (∀ e, e ∈ t.entries ↔ e ∈ AssetManifest.sample.entries ∨ e ∈ es) ∧
      mergeGpuCheckpointManifestEntries es.reverse AssetManifest.sample = .ok () t ∧
      mergeGpuCheckpointManifestEntries es t = .ok () t) ∧
    ∃ err t added, mergeGpuCheckpointManifestEntries es' AssetManifest.sample = .error err t ∧
      added.Sublist es' ∧
      t = { AssetManifest.sample with entries := AssetManifest.sample.entries ++ added } := by
  intro es es'
  have hids : DistinctIds AssetManifest.sample.entries := by decide
  have hfits : ¬Conflicting AssetManifest.sample.entries es := by
    unfold Conflicting
    decide +kernel
  have hconflict : Conflicting AssetManifest.sample.entries es' := by
    unfold Conflicting
    decide +kernel
  obtain ⟨hmerged, -, hrefused⟩ :=
    merge_gpu_checkpoint_manifest_entries_spec AssetManifest.sample es hids
  obtain ⟨-, hleft, hrefused'⟩ :=
    merge_gpu_checkpoint_manifest_entries_spec AssetManifest.sample es' hids
  constructor
  · cases hx : mergeGpuCheckpointManifestEntries es AssetManifest.sample with
    | error err t => exact absurd (hrefused.1 ⟨err, t, hx⟩) hfits
    | ok u t =>
      obtain ⟨hsorted, -, hmem, -, horder, hagain⟩ := hmerged t hx
      exact ⟨t, rfl, hsorted, hmem, horder _ es.reverse_perm, hagain⟩
  · obtain ⟨err, t, ht⟩ := hrefused'.2 hconflict
    obtain ⟨added, hsub, hadded, -⟩ := hleft err t ht
    exact ⟨err, t, added, ht, hsub, hadded⟩

/-- The conflict is between the two new entries, and the first one stays. -/
theorem merge_leaves_entry_on_conflict :
    DistinctIds AssetManifest.empty.entries ∧
    ∃ err t, mergeGpuCheckpointManifestEntries [AssetManifestEntry.sample 8, AssetManifestEntry.sample 9] AssetManifest.empty =
      .error err t ∧ t.entries = [AssetManifestEntry.sample 8] ∧ t ≠ AssetManifest.empty := by
  refine ⟨by decide, .invalidAssetManifest "gpu-brain:1"
    "content-addressed GPU asset id maps to different metadata",
    AssetManifest.empty.append [AssetManifestEntry.sample 8], ?_, rfl, by decide⟩
  rfl

end ALife
