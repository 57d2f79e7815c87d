/-
# Ordered maps by their entries

Rust's `BTreeMap` is Std's extensional tree map over a lawful order of the keys.
Here are the readings that its lookups reduce to: which entries a map has after
an insertion or a removal, and the map that a list of entries with distinct keys
builds when it is inserted one by one, which is how every loader rebuilds a map
(`getElem?_foldl_insert`).  Reading a map out and building it again gives the
map (`foldl_insert_toList`).
-/

import Mathlib.Tactic
import Std.Data.ExtTreeMap

namespace Machine

open Std

variable {α β γ : Type} [Ord α] [TransOrd α]

theorem mem_iff_exists_getElem? {m : ExtTreeMap α β} {k : α} : k ∈ m ↔ ∃ v, m[k]? = some v := by
  rw [ExtTreeMap.mem_iff_isSome_getElem?, Option.isSome_iff_exists]

/-- A new key adds one entry. -/
theorem size_insert_of_notMem {m : ExtTreeMap α β} {k : α} {v : β} (h : k ∉ m) :
    (m.insert k v).size = m.size + 1 := by
  rw [ExtTreeMap.size_insert, if_neg (by simpa using h)]

/-- A key of the map adds none. -/
theorem size_insert_of_mem {m : ExtTreeMap α β} {k : α} {v : β} (h : k ∈ m) :
    (m.insert k v).size = m.size := by
  rw [ExtTreeMap.size_insert, if_pos (by simpa using h)]

/-- Removing a key of the map removes one entry. -/
theorem size_erase_of_mem {m : ExtTreeMap α β} {k : α} (h : k ∈ m) :
    (m.erase k).size = m.size - 1 := by
  rw [ExtTreeMap.size_erase, if_pos (by simpa using h)]

variable [LawfulEqOrd α]

/-- The entries after an insertion. -/
theorem getElem?_insert_eq_some_iff {m : ExtTreeMap α β} {k a : α} {v w : β} :
    (m.insert k v)[a]? = some w ↔ a = k ∧ w = v ∨ a ≠ k ∧ m[a]? = some w := by
  rw [ExtTreeMap.getElem?_insert]
  split_ifs with h
  · simp [LawfulEqCmp.compare_eq_iff_eq.1 h, eq_comm]
  · have hne : a ≠ k := fun hak => h (LawfulEqCmp.compare_eq_iff_eq.2 hak.symm)
    simp [hne]

/-- The entries after a removal. -/
theorem getElem?_erase_eq_some_iff {m : ExtTreeMap α β} {k a : α} {w : β} :
    (m.erase k)[a]? = some w ↔ a ≠ k ∧ m[a]? = some w := by
  rw [ExtTreeMap.getElem?_erase]
  split_ifs with h
  · simp [LawfulEqCmp.compare_eq_iff_eq.1 h]
  · have hne : a ≠ k := fun hak => h (LawfulEqCmp.compare_eq_iff_eq.2 hak.symm)
    simp [hne]

/-- The last insertion under a key is the one that counts. -/
theorem insert_insert_self {m : ExtTreeMap α β} {k : α} {v w : β} :
    (m.insert k v).insert k w = m.insert k w := by
  refine ExtTreeMap.ext_getElem? fun a => ?_
  simp only [ExtTreeMap.getElem?_insert]
  split_ifs <;> rfl

/-- Inserting an entry that is there changes nothing. -/
theorem insert_of_getElem? {m : ExtTreeMap α β} {k : α} {v : β} (h : m[k]? = some v) :
    m.insert k v = m := by
  refine ExtTreeMap.ext_getElem? fun a => ?_
  rw [ExtTreeMap.getElem?_insert]
  split_ifs with ha
  · rw [← LawfulEqCmp.compare_eq_iff_eq.1 ha, h]
  · rfl

/-- The entries of a map built by inserting items with distinct keys. -/
theorem getElem?_foldl_insert (key : γ → α) (val : γ → β) {l : List γ} {m : ExtTreeMap α β}
    (hl : l.Pairwise fun a b => key a ≠ key b) {k : α} {v : β} :
    (l.foldl (fun m a => m.insert (key a) (val a)) m)[k]? = some v ↔
      (∃ a ∈ l, key a = k ∧ val a = v) ∨ (∀ a ∈ l, key a ≠ k) ∧ m[k]? = some v := by
  induction l generalizing m with
  | nil => simp
  | cons a l ih =>
    rw [List.pairwise_cons] at hl
    rw [List.foldl_cons, ih hl.2, getElem?_insert_eq_some_iff]
    simp only [List.mem_cons, exists_eq_or_imp, forall_eq_or_imp]
    constructor
    · rintro (h | ⟨hne, ⟨rfl, rfl⟩ | ⟨hka, hm⟩⟩)
      · exact .inl (.inr h)
      · exact .inl (.inl ⟨rfl, rfl⟩)
      · exact .inr ⟨⟨Ne.symm hka, hne⟩, hm⟩
    · rintro ((⟨rfl, rfl⟩ | h) | ⟨⟨hka, hne⟩, hm⟩)
      · exact .inr ⟨fun b hb => Ne.symm (hl.1 b hb), .inl ⟨rfl, rfl⟩⟩
      · exact .inl h
      · exact .inr ⟨hne, .inr ⟨Ne.symm hka, hm⟩⟩

/-- The size of a map built by inserting items with distinct new keys. -/
theorem size_foldl_insert (key : γ → α) (val : γ → β) {l : List γ} {m : ExtTreeMap α β}
    (hl : l.Pairwise fun a b => key a ≠ key b) (hm : ∀ a ∈ l, key a ∉ m) :
    (l.foldl (fun m a => m.insert (key a) (val a)) m).size = m.size + l.length := by
  induction l generalizing m with
  | nil => rfl
  | cons a l ih =>
    rw [List.pairwise_cons] at hl
    rw [List.forall_mem_cons] at hm
    rw [List.foldl_cons, ih hl.2, size_insert_of_notMem hm.1, List.length_cons]
    · omega
    · intro b hb hmem
      obtain h | h := ExtTreeMap.mem_insert.1 hmem
      · exact hl.1 b hb (LawfulEqCmp.compare_eq_iff_eq.1 h)
      · exact hm.2 b hb h

/-- The entries of a map have distinct keys. -/
theorem pairwise_fst_ne_toList (m : ExtTreeMap α β) :
    m.toList.Pairwise fun a b => a.1 ≠ b.1 := by
  refine ExtTreeMap.distinct_keys_toList.imp ?_
  intro a b h heq
  exact h (LawfulEqCmp.compare_eq_iff_eq.2 heq)

/-- Reading a map out and inserting its values under their own keys gives the map. -/
theorem foldl_insert_toList (key : β → α) {m : ExtTreeMap α β}
    (hm : ∀ (k : α) (v : β), m[k]? = some v → key v = k) :
    (m.toList.map (·.2)).foldl (fun m v => m.insert (key v) v) ∅ = m := by
  have hkey : ∀ e ∈ m.toList, key e.2 = e.1 := fun e he =>
    hm e.1 e.2 (ExtTreeMap.mem_toList_iff_getElem?_eq_some.1 he)
  have hdistinct : m.toList.Pairwise fun a b => key a.2 ≠ key b.2 := by
    refine (pairwise_fst_ne_toList m).imp_of_mem ?_
    intro a b ha hb h
    rwa [hkey a ha, hkey b hb]
  refine ExtTreeMap.ext_getElem? fun k => Option.ext fun v => ?_
  rw [List.foldl_map,
    getElem?_foldl_insert (fun e : α × β => key e.2) (fun e => e.2) hdistinct]
  simp only [ExtTreeMap.getElem?_empty, reduceCtorEq, and_false, or_false]
  constructor
  · rintro ⟨e, he, rfl, rfl⟩
    rw [hkey e he]
    exact ExtTreeMap.mem_toList_iff_getElem?_eq_some.1 he
  · intro hv
    exact ⟨(k, v), ExtTreeMap.mem_toList_iff_getElem?_eq_some.2 hv, hm k v hv, rfl⟩

end Machine
