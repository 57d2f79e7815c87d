/-
# Ordered maps by their rows

A map whose entries are read in the order of the keys is the list of its
entries, with ascending keys.  `insert` puts an entry in its place and `erase`
takes one out; both are described by one permutation (`perm_insert`,
`perm_of_get?`), from which membership, sizes and sums over the values follow.
A map is determined by its lookups (`ext_get?`).  `group` is the loop that
pushes the items of a list under their keys.
-/

import Mathlib.Tactic

namespace Machine

/-- The entries of an ordered map, by ascending key. -/
structure OrderedMap (κ ν : Type) [LinearOrder κ] where
  entries : List (κ × ν)
  ascending : entries.Pairwise fun a b => a.1 < b.1

namespace OrderedMap

variable {κ ν μ : Type} [LinearOrder κ]

instance [DecidableEq ν] : DecidableEq (OrderedMap κ ν) := fun m n =>
  decidable_of_iff (m.entries = n.entries) (by cases m; cases n; simp)

/-- `BTreeMap::new`. -/
def empty : OrderedMap κ ν := ⟨[], List.Pairwise.nil⟩

instance : EmptyCollection (OrderedMap κ ν) := ⟨empty⟩

/-- `get`. -/
def get? (m : OrderedMap κ ν) (k : κ) : Option ν :=
  (m.entries.find? (fun e => e.1 = k)).map (·.2)

/-- `contains_key`. -/
def contains (m : OrderedMap κ ν) (k : κ) : Bool := m.entries.any (fun e => e.1 = k)

/-- `len`. -/
def size (m : OrderedMap κ ν) : ℕ := m.entries.length

/-- `values`. -/
def values (m : OrderedMap κ ν) : List ν := m.entries.map (·.2)

/-- The entries with one more, in the place of its key. -/
def insertEntry (k : κ) (v : ν) : List (κ × ν) → List (κ × ν)
  | [] => [(k, v)]
  | e :: l =>
    if k < e.1 then (k, v) :: e :: l
    else if k = e.1 then (k, v) :: l
    else e :: insertEntry k v l

theorem mem_insertEntry {k : κ} {v : ν} {l : List (κ × ν)} {e : κ × ν}
    (h : e ∈ insertEntry k v l) : e = (k, v) ∨ e ∈ l := by
  induction l with
  | nil => exact Or.inl (List.mem_singleton.1 h)
  | cons a l ih =>
    unfold insertEntry at h
    split_ifs at h with hlt heq
    · exact List.mem_cons.1 h
    · obtain h | h := List.mem_cons.1 h
      · exact Or.inl h
      · exact Or.inr (List.mem_cons_of_mem _ h)
    · obtain rfl | h := List.mem_cons.1 h
      · exact Or.inr (List.mem_cons_self ..)
      · exact (ih h).imp_right (List.mem_cons_of_mem _)

theorem pairwise_insertEntry {k : κ} {v : ν} {l : List (κ × ν)}
    (h : l.Pairwise fun a b => a.1 < b.1) : (insertEntry k v l).Pairwise fun a b => a.1 < b.1 := by
  induction l with
  | nil => exact List.pairwise_singleton _ _
  | cons a l ih =>
    obtain ⟨ha, hl⟩ := List.pairwise_cons.1 h
    unfold insertEntry
    split_ifs with hlt heq
    · refine List.pairwise_cons.2 ⟨fun e he => ?_, h⟩
      obtain rfl | he := List.mem_cons.1 he
      · exact hlt
      · exact hlt.trans (ha e he)
    · exact List.pairwise_cons.2 ⟨fun e he => heq ▸ ha e he, hl⟩
    · refine List.pairwise_cons.2 ⟨fun e he => ?_, ih hl⟩
      obtain rfl | he := mem_insertEntry he
      · exact lt_of_le_of_ne (not_lt.1 hlt) (Ne.symm heq)
      · exact ha e he

/-- `insert`: the entry of the key is replaced, or a new one is put in its place. -/
def insert (m : OrderedMap κ ν) (k : κ) (v : ν) : OrderedMap κ ν :=
  ⟨insertEntry k v m.entries, pairwise_insertEntry m.ascending⟩

/-- The entries that a predicate keeps, as `retain` does. -/
def filter (m : OrderedMap κ ν) (p : κ × ν → Bool) : OrderedMap κ ν :=
  ⟨m.entries.filter p, m.ascending.filter p⟩

/-- `remove`. -/
def erase (m : OrderedMap κ ν) (k : κ) : OrderedMap κ ν := m.filter fun e => e.1 ≠ k

/-- Every value replaced, under its key. -/
def mapValues (f : ν → μ) (m : OrderedMap κ ν) : OrderedMap κ μ :=
  ⟨m.entries.map fun e => (e.1, f e.2), List.pairwise_map.2 m.ascending⟩

/-- The sum of a measure over the values. -/
def total (f : ν → ℕ) (m : OrderedMap κ ν) : ℕ := (m.values.map f).sum

variable {m n : OrderedMap κ ν} {k k' : κ} {v w : ν} {e : κ × ν}

@[simp] theorem entries_empty : (∅ : OrderedMap κ ν).entries = [] := rfl

@[simp] theorem size_empty : (∅ : OrderedMap κ ν).size = 0 := rfl

@[simp] theorem get?_empty : (∅ : OrderedMap κ ν).get? k = none := rfl

@[simp] theorem total_empty (f : ν → ℕ) : total f (∅ : OrderedMap κ ν) = 0 := rfl

theorem nodup_keys (m : OrderedMap κ ν) : (m.entries.map (·.1)).Nodup :=
  List.pairwise_map.2 (m.ascending.imp fun h => h.ne)

/-- Two entries with one key are one entry. -/
theorem eq_of_key_eq {a b : κ × ν} (ha : a ∈ m.entries) (hb : b ∈ m.entries) (h : a.1 = b.1) :
    a = b :=
  List.inj_on_of_nodup_map m.nodup_keys ha hb h

theorem get?_eq_some_iff : m.get? k = some v ↔ (k, v) ∈ m.entries := by
  unfold get?
  rw [Option.map_eq_some_iff]
  constructor
  · rintro ⟨⟨k', v'⟩, hfind, rfl⟩
    have hk : k' = k := by simpa using List.find?_some hfind
    rw [← hk]
    exact List.mem_of_find?_eq_some hfind
  · intro h
    have hsome : (m.entries.find? fun e => e.1 = k).isSome := by
      rw [List.find?_isSome]
      exact ⟨(k, v), h, by simp⟩
    obtain ⟨e, hfind⟩ := Option.isSome_iff_exists.1 hsome
    have hk : e.1 = k := by simpa using List.find?_some hfind
    refine ⟨e, hfind, ?_⟩
    rw [eq_of_key_eq (List.mem_of_find?_eq_some hfind) h hk]

theorem get?_eq_none_iff : m.get? k = none ↔ ∀ e ∈ m.entries, e.1 ≠ k := by
  unfold get?
  rw [Option.map_eq_none_iff, List.find?_eq_none]
  simp

theorem contains_iff : m.contains k = true ↔ ∃ v, (k, v) ∈ m.entries := by
  unfold contains
  rw [List.any_eq_true]
  constructor
  · rintro ⟨⟨k', v⟩, he, hk⟩
    exact ⟨v, by simpa using (decide_eq_true_iff.1 hk) ▸ he⟩
  · rintro ⟨v, he⟩
    exact ⟨(k, v), he, by simp⟩

/-- The items of a map of lists. -/
theorem mem_flatten_values {m : OrderedMap κ (List μ)} {a : μ} :
    a ∈ m.values.flatten ↔ ∃ e ∈ m.entries, a ∈ e.2 := by
  rw [List.mem_flatten]
  constructor
  · rintro ⟨l, hl, ha⟩
    obtain ⟨e, he, rfl⟩ := List.mem_map.1 hl
    exact ⟨e, he, ha⟩
  · rintro ⟨e, he, ha⟩
    exact ⟨e.2, List.mem_map_of_mem he, ha⟩

/-- A map is determined by its lookups. -/
theorem ext_get? (h : ∀ k, m.get? k = n.get? k) : m = n := by
  have hmem : ∀ e, e ∈ m.entries ↔ e ∈ n.entries := by
    rintro ⟨k, v⟩
    rw [← get?_eq_some_iff, ← get?_eq_some_iff, h]
  have hperm : m.entries.Perm n.entries :=
    (List.perm_ext_iff_of_nodup (m.ascending.imp fun h heq => (heq ▸ h).false)
      (n.ascending.imp fun h heq => (heq ▸ h).false)).2 hmem
  have heq : m.entries = n.entries := hperm.eq_of_pairwise
    (fun a b _ _ hab hba => absurd (hab.trans hba) (lt_irrefl _)) m.ascending n.ascending
  cases m
  cases n
  cases heq
  rfl

@[simp] theorem mem_erase : e ∈ (m.erase k).entries ↔ e.1 ≠ k ∧ e ∈ m.entries := by
  simp [erase, filter, and_comm]

/-- An insertion puts its entry in front of the others, up to order. -/
theorem perm_insert : (m.insert k v).entries.Perm ((k, v) :: (m.erase k).entries) := by
  obtain ⟨l, hl⟩ := m
  change (insertEntry k v l).Perm ((k, v) :: l.filter fun e => e.1 ≠ k)
  induction l with
  | nil => exact List.Perm.refl _
  | cons a l ih =>
    obtain ⟨ha, hl'⟩ := List.pairwise_cons.1 hl
    unfold insertEntry
    split_ifs with hlt heq
    · rw [List.filter_eq_self.2]
      intro e he
      obtain rfl | he := List.mem_cons.1 he
      · simpa using hlt.ne'
      · simpa using (hlt.trans (ha e he)).ne'
    · rw [List.filter_cons_of_neg (by simp [heq]), List.filter_eq_self.2]
      intro e he
      simpa [heq] using (ha e he).ne'
    · rw [List.filter_cons_of_pos (by simpa using Ne.symm heq)]
      exact ((ih hl').cons a).trans (List.Perm.swap ..)

/-- An entry stands in front of the map without it, up to order. -/
theorem perm_of_get? (h : m.get? k = some v) :
    m.entries.Perm ((k, v) :: (m.erase k).entries) := by
  have hself : m.insert k v = m := by
    refine ext_get? fun j => Option.ext fun w => ?_
    rw [get?_eq_some_iff, get?_eq_some_iff, perm_insert.mem_iff, List.mem_cons, mem_erase]
    constructor
    · rintro (heq | ⟨-, hw⟩)
      · rw [heq]
        exact get?_eq_some_iff.1 h
      · exact hw
    · intro hw
      by_cases hj : j = k
      · exact Or.inl (eq_of_key_eq hw (get?_eq_some_iff.1 h) hj)
      · exact Or.inr ⟨hj, hw⟩
  have hperm := perm_insert (m := m) (k := k) (v := v)
  rwa [hself] at hperm

theorem erase_of_get?_eq_none (h : m.get? k = none) : (m.erase k).entries = m.entries :=
  List.filter_eq_self.2 fun e he => by simpa using get?_eq_none_iff.1 h e he

@[simp] theorem mem_insert :
    e ∈ (m.insert k v).entries ↔ e = (k, v) ∨ e.1 ≠ k ∧ e ∈ m.entries := by
  rw [perm_insert.mem_iff, List.mem_cons, mem_erase]

@[simp] theorem get?_insert_self : (m.insert k v).get? k = some v := by
  rw [get?_eq_some_iff, mem_insert]
  exact Or.inl rfl

theorem get?_insert_of_ne (h : k' ≠ k) : (m.insert k v).get? k' = m.get? k' := by
  refine Option.ext fun w => ?_
  rw [get?_eq_some_iff, get?_eq_some_iff, mem_insert]
  simp [h]

@[simp] theorem get?_erase_self : (m.erase k).get? k = none :=
  get?_eq_none_iff.2 fun _ he => (mem_erase.1 he).1

theorem get?_erase_of_ne (h : k' ≠ k) : (m.erase k).get? k' = m.get? k' := by
  refine Option.ext fun w => ?_
  rw [get?_eq_some_iff, get?_eq_some_iff, mem_erase]
  simp [h]

theorem contains_eq_false_iff : m.contains k = false ↔ m.get? k = none := by
  rw [← Bool.not_eq_true, contains_iff, get?_eq_none_iff]
  constructor
  · rintro h ⟨k', v⟩ he rfl
    exact h ⟨v, he⟩
  · rintro h ⟨v, he⟩
    exact h _ he rfl

theorem entries_mapValues (f : ν → μ) (m : OrderedMap κ ν) :
    (m.mapValues f).entries = m.entries.map fun e => (e.1, f e.2) := rfl

theorem get?_mapValues (f : ν → μ) : (m.mapValues f).get? k = (m.get? k).map f := by
  refine Option.ext fun w => ?_
  rw [get?_eq_some_iff, Option.map_eq_some_iff, mapValues]
  constructor
  · intro h
    obtain ⟨⟨k', v⟩, hmem, heq⟩ := List.mem_map.1 h
    cases heq
    exact ⟨v, get?_eq_some_iff.2 hmem, rfl⟩
  · rintro ⟨v, hv, rfl⟩
    exact List.mem_map.2 ⟨(k, v), get?_eq_some_iff.1 hv, rfl⟩

theorem mapValues_insert (f : ν → μ) :
    (m.insert k v).mapValues f = (m.mapValues f).insert k (f v) := by
  refine ext_get? fun j => ?_
  rw [get?_mapValues]
  by_cases hj : j = k
  · subst hj
    rw [get?_insert_self, get?_insert_self]
    rfl
  · rw [get?_insert_of_ne hj, get?_insert_of_ne hj, get?_mapValues]

/-- An entry after all others is put at the end. -/
theorem entries_insert_of_lt (h : ∀ e ∈ m.entries, e.1 < k) :
    (m.insert k v).entries = m.entries ++ [(k, v)] := by
  change insertEntry k v m.entries = _
  obtain ⟨l, hl⟩ := m
  dsimp only at h ⊢
  induction l with
  | nil => rfl
  | cons a l ih =>
    have ha := h a (List.mem_cons_self ..)
    unfold insertEntry
    rw [if_neg ha.not_gt, if_neg ha.ne', ih (List.pairwise_cons.1 hl).2
      fun e he => h e (List.mem_cons_of_mem _ he)]
    rfl

theorem ext_entries (h : m.entries = n.entries) : m = n := by
  cases m
  cases n
  cases h
  rfl

/-- The size after an insertion. -/
theorem size_insert : (m.insert k v).size = m.size + if m.contains k then 0 else 1 := by
  unfold size
  rw [perm_insert.length_eq, List.length_cons]
  cases h : m.get? k with
  | none =>
    have hnot : ¬m.contains k = true := fun hc => by
      obtain ⟨w, hw⟩ := contains_iff.1 hc
      exact get?_eq_none_iff.1 h _ hw rfl
    rw [erase_of_get?_eq_none h, if_neg hnot]
  | some w =>
    rw [if_pos (contains_iff.2 ⟨w, get?_eq_some_iff.1 h⟩), (perm_of_get? h).length_eq,
      List.length_cons]

theorem size_erase (h : m.get? k = some v) : (m.erase k).size + 1 = m.size := by
  unfold size
  rw [(perm_of_get? h).length_eq, List.length_cons]

theorem total_eq_sum (f : ν → ℕ) (m : OrderedMap κ ν) :
    total f m = (m.entries.map fun e => f e.2).sum := by
  rw [total, values, List.map_map]
  rfl

/-- The sum after an insertion, with what the key had before. -/
theorem total_insert (f : ν → ℕ) :
    total f (m.insert k v) + ((m.get? k).map f).getD 0 = total f m + f v := by
  rw [total_eq_sum, total_eq_sum, (perm_insert.map _).sum_eq, List.map_cons, List.sum_cons]
  cases h : m.get? k with
  | none =>
    rw [erase_of_get?_eq_none h]
    simp [Nat.add_comm]
  | some w =>
    rw [((perm_of_get? h).map _).sum_eq, List.map_cons, List.sum_cons]
    simp
    omega

/-- The sum after a removal, with what the key had before. -/
theorem total_erase (f : ν → ℕ) :
    total f (m.erase k) + ((m.get? k).map f).getD 0 = total f m := by
  rw [total_eq_sum, total_eq_sum]
  cases h : m.get? k with
  | none =>
    rw [erase_of_get?_eq_none h]
    simp
  | some w =>
    rw [((perm_of_get? h).map _).sum_eq, List.map_cons, List.sum_cons]
    simp
    omega

/-- Values replaced by others of the same measure, plus what each lost. -/
theorem total_mapValues_add {f : μ → ℕ} {g h : ν → ℕ} {t : ν → μ}
    (hsum : ∀ v, f (t v) + g v = h v) (m : OrderedMap κ ν) :
    total f (m.mapValues t) + total g m = total h m := by
  rw [total_eq_sum, total_eq_sum, total_eq_sum]
  change ((m.entries.map fun e => (e.1, t e.2)).map fun e => f e.2).sum + _ = _
  induction m.entries with
  | nil => rfl
  | cons e l ih =>
    have := hsum e.2
    simp only [List.map_cons, List.sum_cons] at ih ⊢
    omega

/-- Entries of measure zero may go. -/
theorem total_filter {f : ν → ℕ} {p : κ × ν → Bool} (hzero : ∀ e, p e = false → f e.2 = 0)
    (m : OrderedMap κ ν) : total f (m.filter p) = total f m := by
  rw [total_eq_sum, total_eq_sum]
  change ((m.entries.filter p).map fun e => f e.2).sum = _
  induction m.entries with
  | nil => rfl
  | cons e l ih =>
    cases hp : p e with
    | true => rw [List.filter_cons_of_pos hp, List.map_cons, List.map_cons, List.sum_cons,
        List.sum_cons, ih]
    | false =>
      rw [List.filter_cons_of_neg (by simp [hp]), List.map_cons, List.sum_cons, ih, hzero e hp,
        Nat.zero_add]

/-- A bound on every value bounds the sum. -/
theorem total_le {f : ν → ℕ} {b : ℕ} (h : ∀ e ∈ m.entries, f e.2 ≤ b) :
    total f m ≤ m.size * b := by
  have hle := List.sum_le_card_nsmul (m.entries.map fun e => f e.2) b fun x hx => by
    obtain ⟨e, he, rfl⟩ := List.mem_map.1 hx
    exact h e he
  rwa [List.length_map, smul_eq_mul, ← total_eq_sum] at hle

/-- The entries of a map whose keys are all among some others are no more than these. -/
theorem size_le_of_keys (ks : List κ) (h : ∀ e ∈ m.entries, e.1 ∈ ks) : m.size ≤ ks.length := by
  have hsub : m.entries.map (·.1) ⊆ ks := by
    intro k hk
    obtain ⟨e, he, rfl⟩ := List.mem_map.1 hk
    exact h e he
  have hle := (m.nodup_keys.subperm hsub).length_le
  rwa [List.length_map] at hle

/-! ### Grouping -/

/-- The map that has one more item at the end of its row. -/
def push (key : μ → κ) (m : OrderedMap κ (List μ)) (a : μ) : OrderedMap κ (List μ) :=
  m.insert (key a) ((m.get? (key a)).getD [] ++ [a])

/-- The items by their keys: each is pushed on the row of its key. -/
def group (key : μ → κ) (l : List μ) : OrderedMap κ (List μ) := l.foldl (push key) ∅

theorem get?_foldl_push (key : μ → κ) (l : List μ) (m : OrderedMap κ (List μ)) (k : κ) :
    (l.foldl (push key) m).get? k =
      if l.filter (fun a => key a = k) = [] then m.get? k
      else some ((m.get? k).getD [] ++ l.filter fun a => key a = k) := by
  induction l generalizing m with
  | nil => rfl
  | cons a l ih =>
    rw [List.foldl_cons, ih, push]
    by_cases hk : key a = k
    · subst hk
      rw [get?_insert_self, List.filter_cons_of_pos (by simp), if_neg (List.cons_ne_nil _ _),
        Option.getD_some, List.append_assoc, List.singleton_append]
      split_ifs with hnil
      · rw [hnil]
      · rfl
    · rw [get?_insert_of_ne (Ne.symm hk), List.filter_cons_of_neg (by simpa using hk)]

/-- The rows of the grouped items. -/
theorem mem_group {key : μ → κ} {l row : List μ} :
    (k, row) ∈ (group key l).entries ↔ row ≠ [] ∧ row = l.filter fun a => key a = k := by
  rw [← get?_eq_some_iff, group, get?_foldl_push]
  split_ifs with hnil
  · rw [hnil]
    constructor
    · intro h
      cases h
    · rintro ⟨hne, rfl⟩
      exact absurd rfl hne
  · rw [get?_empty, Option.getD_none, List.nil_append, Option.some.injEq]
    constructor
    · rintro rfl
      exact ⟨hnil, rfl⟩
    · rintro ⟨-, rfl⟩
      rfl

end OrderedMap

end Machine
