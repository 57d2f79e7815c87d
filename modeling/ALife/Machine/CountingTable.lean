/-
# Counting tables with room for a few keys

A table keeps a count for each key.  A key that is seen again has its count
raised; a new key starts afresh, and in a full table the entry of the least
weight makes room for it, of equal ones the one with the least key
(`CountingTable.observe`).  Programs keep such a table as rows sorted by their
keys: `modify_findIdx?_eq_insert`, `eraseIdx_argmin_eq_eraseLeast` and
`sortByKey_append_eq_insert` are the operations on the rows.
-/

import ALife.Machine.OrderedMap
import ALife.Machine.SortedNames
import Mathlib.Data.List.MinMax
import Mathlib.Data.Prod.Lex

namespace Machine

namespace CountingTable

variable {κ ν ω : Type} [LinearOrder κ] [LinearOrder ω]

/-- What is compared when an entry has to go. -/
def rank (weight : ν → ω) (e : κ × ν) : ω ×ₗ κ := toLex (weight e.2, e.1)

/-- The table without its least entry. -/
def eraseLeast (weight : ν → ω) (m : OrderedMap κ ν) : OrderedMap κ ν :=
  match m.entries.argmin (rank weight) with
  | some e => m.erase e.1
  | none => m

/-- A key is seen. -/
def observe (capacity : ℕ) (weight : ν → ω) (raise : ν → ν) (fresh : ν) (m : OrderedMap κ ν)
    (k : κ) : OrderedMap κ ν :=
  match m.get? k with
  | some v => m.insert k (raise v)
  | none => (if m.size = capacity then eraseLeast weight m else m).insert k fresh

variable {capacity : ℕ} {weight : ν → ω} {raise : ν → ν} {fresh : ν} {m : OrderedMap κ ν} {k : κ}

theorem mem_eraseLeast {e : κ × ν} (h : e ∈ (eraseLeast weight m).entries) : e ∈ m.entries := by
  unfold eraseLeast at h
  split at h
  · exact (OrderedMap.mem_erase.1 h).2
  · exact h

theorem size_eraseLeast (h : m.size ≠ 0) : (eraseLeast weight m).size + 1 = m.size := by
  unfold eraseLeast
  split
  · rename_i e hleast
    have hmem : m.get? e.1 = some e.2 := OrderedMap.get?_eq_some_iff.2 (List.argmin_mem hleast)
    exact OrderedMap.size_erase hmem
  · rename_i hnone
    rw [List.argmin_eq_none] at hnone
    exact absurd (congrArg List.length hnone) h

/-- The table never outgrows its room. -/
theorem size_observe_le (hpos : 0 < capacity) (h : m.size ≤ capacity) :
    (observe capacity weight raise fresh m k).size ≤ capacity := by
  unfold observe
  split
  · rename_i v hv
    have hcontains : m.contains k = true :=
      OrderedMap.contains_iff.2 ⟨v, OrderedMap.get?_eq_some_iff.1 hv⟩
    rw [OrderedMap.size_insert, if_pos hcontains]
    exact h
  · rw [OrderedMap.size_insert]
    split_ifs with hfull
    all_goals first
      | have hleast : (eraseLeast weight m).size + 1 = m.size := size_eraseLeast (by omega)
        omega
      | omega

/-- What a table holds after a key was seen: old entries, a raised one, or a fresh one. -/
theorem mem_observe {e : κ × ν} (h : e ∈ (observe capacity weight raise fresh m k).entries) :
    e ∈ m.entries ∨ (e.1 = k ∧ (e.2 = fresh ∨ ∃ v, (k, v) ∈ m.entries ∧ e.2 = raise v)) := by
  unfold observe at h
  split at h
  · rename_i v hv
    obtain rfl | ⟨-, hold⟩ := OrderedMap.mem_insert.1 h
    · exact .inr ⟨rfl, .inr ⟨v, OrderedMap.get?_eq_some_iff.1 hv, rfl⟩⟩
    · exact .inl hold
  · obtain rfl | ⟨-, hold⟩ := OrderedMap.mem_insert.1 h
    · exact .inr ⟨rfl, .inl rfl⟩
    · split_ifs at hold
      · exact .inl (mem_eraseLeast hold)
      · exact .inl hold

/-! ### The operations on sorted rows -/

section Rows

variable {α : Type} {row : α → κ × ν} {l : List α}

/-- The row of a key is changed where it stands. -/
theorem modify_findIdx?_eq_insert {p : α → Bool} {f : α → α} {i : ℕ}
    (hrows : m.entries = l.map row) (hp : ∀ a ∈ l, p a = true ↔ (row a).1 = k)
    (hf : ∀ a ∈ l, row (f a) = ((row a).1, raise (row a).2)) (hi : l.findIdx? p = some i) :
    ∃ v, m.get? k = some v ∧ (l.modify i f).map row = (m.insert k (raise v)).entries := by
  have hascending : (l.map row).Pairwise fun a b => a.1 < b.1 := hrows ▸ m.ascending
  suffices h : ∃ v, (k, v) ∈ l.map row ∧
      (l.modify i f).map row = OrderedMap.insertEntry k (raise v) (l.map row) by
    obtain ⟨v, hmem, heq⟩ := h
    refine ⟨v, OrderedMap.get?_eq_some_iff.2 (hrows ▸ hmem), ?_⟩
    rw [heq, ← hrows]
    rfl
  clear hrows
  induction l generalizing i with
  | nil => simp at hi
  | cons a l ih =>
    rw [List.map_cons, List.pairwise_cons] at hascending
    obtain ⟨hbefore, htail⟩ := hascending
    rw [List.findIdx?_cons] at hi
    split_ifs at hi with hpa
    · obtain rfl := Option.some.inj hi
      have hkey := (hp a List.mem_cons_self).1 hpa
      refine ⟨(row a).2, ?_, ?_⟩
      · rw [List.map_cons, ← hkey]
        exact List.mem_cons_self
      · rw [List.modify_zero_cons, List.map_cons, List.map_cons, hf a List.mem_cons_self,
          OrderedMap.insertEntry, hkey, if_neg (lt_irrefl k), if_pos rfl]
    · obtain ⟨j, hj, rfl⟩ := Option.map_eq_some_iff.1 hi
      obtain ⟨v, hmem, heq⟩ := ih (fun b hb => hp b (List.mem_cons_of_mem a hb))
        (fun b hb => hf b (List.mem_cons_of_mem a hb)) hj htail
      have hlt : (row a).1 < k := hbefore _ hmem
      refine ⟨v, List.mem_cons_of_mem _ hmem, ?_⟩
      rw [List.modify_succ_cons, List.map_cons, List.map_cons, heq, OrderedMap.insertEntry,
        if_neg hlt.not_gt, if_neg hlt.ne']

/-- The row of the least rank goes. -/
theorem eraseIdx_argmin_eq_eraseLeast {key : α → ω ×ₗ κ} {e : α × ℕ}
    (hrows : m.entries = l.map row) (hkey : ∀ a ∈ l, key a = rank weight (row a))
    (he : l.zipIdx.argmin (fun x => key x.1) = some e) :
    (l.eraseIdx e.2).map row = (eraseLeast weight m).entries := by
  have hget : l[e.2]? = some e.1 := List.mem_zipIdx_iff_getElem?.1 (List.argmin_mem he)
  obtain ⟨hi, hgetElem⟩ := List.getElem?_eq_some_iff.1 hget
  have hmem : e.1 ∈ l := List.mem_of_getElem? hget
  have hleast : ∀ a ∈ l, key e.1 ≤ key a := by
    intro a ha
    obtain ⟨j, hj⟩ := List.mem_iff_getElem?.1 ha
    have hindexed : (a, j) ∈ l.zipIdx := List.mem_zipIdx_iff_getElem?.2 hj
    exact List.le_of_mem_argmin (f := fun x : α × ℕ => key x.1) hindexed he
  have hnodup := m.nodup_keys
  rw [hrows] at hnodup
  have hargmin : m.entries.argmin (rank weight) = some (row e.1) := by
    cases hother : m.entries.argmin (rank weight) with
    | none =>
      rw [List.argmin_eq_none, hrows, List.map_eq_nil_iff] at hother
      exact absurd hmem (hother ▸ List.not_mem_nil)
    | some other =>
      obtain ⟨a, ha, rfl⟩ := List.mem_map.1 (hrows ▸ List.argmin_mem hother)
      have hle : rank weight (row e.1) ≤ rank weight (row a) := by
        rw [← hkey _ hmem, ← hkey _ ha]
        exact hleast a ha
      have hge : rank weight (row a) ≤ rank weight (row e.1) :=
        List.le_of_mem_argmin (hrows ▸ List.mem_map_of_mem hmem) hother
      have hsame : (row a).1 = (row e.1).1 := congrArg (fun x => (ofLex x).2) (le_antisymm hge hle)
      rw [OrderedMap.eq_of_key_eq (m := m) (hrows ▸ List.mem_map_of_mem ha)
        (hrows ▸ List.mem_map_of_mem hmem) hsame]
  have herase : (m.erase (row e.1).1).entries
      = m.entries.filter fun x => x.1 ≠ (row e.1).1 := rfl
  unfold eraseLeast
  rw [hargmin]
  dsimp only
  rw [herase, hrows, List.eraseIdx_eq_take_drop_succ, List.map_append, List.map_take, List.map_drop]
  -- the keys before and behind the row are other keys
  have hsplit : l.map row = (l.map row).take e.2 ++ row e.1 :: (l.map row).drop (e.2 + 1) := by
    conv_lhs => rw [← List.take_append_drop e.2 (l.map row)]
    rw [List.drop_eq_getElem_cons (by simpa using hi), List.getElem_map, hgetElem]
  have hascending : (l.map row).Pairwise fun a b => a.1 < b.1 := hrows ▸ m.ascending
  rw [hsplit, List.pairwise_append, List.pairwise_cons] at hascending
  conv_rhs => rw [hsplit]
  rw [List.filter_append, List.filter_cons_of_neg (by simp)]
  congr 1
  · exact (List.filter_eq_self.2 fun x hx => by
      simpa using (hascending.2.2 x hx _ List.mem_cons_self).ne).symm
  · exact (List.filter_eq_self.2 fun x hx => by
      simpa using (hascending.2.1.1 x hx).ne').symm

/-- A new row is sorted into its place. -/
theorem sortByKey_append_eq_insert {key : α → κ} {a : α} (hrows : m.entries = l.map row)
    (hkey : ∀ b, key b = (row b).1) (hnew : m.get? (row a).1 = none) :
    (sortByKey key (l ++ [a])).map row = (m.insert (row a).1 (row a).2).entries := by
  have hperm : ((sortByKey key (l ++ [a])).map row).Perm
      (m.insert (row a).1 (row a).2).entries := by
    refine ((sortByKey_perm key _).map row).trans ?_
    rw [List.map_append, ← hrows, List.map_singleton]
    refine (List.perm_append_singleton _ _).trans ?_
    have hinsert := OrderedMap.perm_insert (m := m) (k := (row a).1) (v := (row a).2)
    rw [OrderedMap.erase_of_get?_eq_none hnew] at hinsert
    exact hinsert.symm
  have hantisymm : ∀ x y, x ∈ (sortByKey key (l ++ [a])).map row →
      y ∈ (m.insert (row a).1 (row a).2).entries → x.1 ≤ y.1 → y.1 ≤ x.1 → x = y := by
    intro x y hx hy hxy hyx
    exact OrderedMap.eq_of_key_eq (hperm.mem_iff.1 hx) hy (le_antisymm hxy hyx)
  refine List.Perm.eq_of_pairwise hantisymm ?_ ?_ hperm
  · rw [List.pairwise_map]
    exact (pairwise_sortByKey key _).imp fun h => by rwa [hkey, hkey] at h
  · exact (m.insert (row a).1 (row a).2).ascending.imp le_of_lt

end Rows

end CountingTable

end Machine
