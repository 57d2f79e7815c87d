/-
# Sorting by a key

`sort_by_key` is a stable sort.  Rows with distinct keys sort in one way only,
so the sorted rows do not depend on the order in which they came, and a
relabelling that leaves the keys alone commutes with the sort
(`sortByKey_eq_map`).  `sortDedup` drops the repeats of the sorted rows, so that
the rows ascend strictly (`pairwise_sortDedup`).
-/

import Mathlib.Data.List.Destutter
import Mathlib.Tactic

namespace Machine

variable {α β κ : Type} [LinearOrder κ]

/-- `sort_by_key`, stable: insertion keeps the order of equal keys. -/
def sortByKey (key : α → κ) (l : List α) : List α := l.insertionSort fun a b => key a ≤ key b

theorem sortByKey_perm (key : α → κ) (l : List α) : (sortByKey key l).Perm l :=
  List.perm_insertionSort _ l

theorem mem_sortByKey {key : α → κ} {l : List α} {a : α} : a ∈ sortByKey key l ↔ a ∈ l :=
  (sortByKey_perm key l).mem_iff

theorem pairwise_sortByKey (key : α → κ) (l : List α) :
    (sortByKey key l).Pairwise fun a b => key a ≤ key b := by
  have : Std.Total fun a b : α => key a ≤ key b := ⟨fun a b => le_total (key a) (key b)⟩
  have : IsTrans α fun a b : α => key a ≤ key b := ⟨fun a b c => le_trans⟩
  exact List.pairwise_insertionSort _ l

/-- Rows that ascend are sorted already. -/
theorem sortByKey_eq_self {key : α → κ} {l : List α} (h : (l.map key).Pairwise (· ≤ ·)) :
    sortByKey key l = l :=
  List.Pairwise.insertionSort_eq (List.pairwise_map.1 h)

/-- When the key tells the rows apart, the order in which they came does not matter. -/
theorem sortByKey_eq_of_perm {key : α → κ} (hkey : Function.Injective key) {l l' : List α}
    (h : l.Perm l') : sortByKey key l = sortByKey key l' := by
  refine List.Perm.eq_of_pairwise ?_ (pairwise_sortByKey key l) (pairwise_sortByKey key l')
    ((sortByKey_perm key l).trans (h.trans (sortByKey_perm key l').symm))
  intro a b _ _ hab hba
  exact hkey (le_antisymm hab hba)

/-- The first `n` of a sorted list have fewer than `n` others in front of them. -/
theorem mem_take_sortByKey_iff {key : α → κ} (hkey : Function.Injective key) {l : List α}
    (hnodup : l.Nodup) {a : α} (ha : a ∈ l) {n : ℕ} :
    a ∈ (sortByKey key l).take n ↔ (l.filter fun b => key b < key a).length < n := by
  set sorted := sortByKey key l with hsorted
  have hperm : sorted.Perm l := sortByKey_perm key l
  have hsorted_nodup : sorted.Nodup := hperm.nodup_iff.2 hnodup
  obtain ⟨i, hi, hia⟩ := List.mem_iff_getElem.1 (hperm.mem_iff.2 ha)
  have hsplit : sorted = sorted.take i ++ a :: sorted.drop (i + 1) := by
    rw [← hia, ← List.drop_eq_getElem_cons hi, List.take_append_drop]
  have hpairwise : sorted.Pairwise fun a b => key a ≤ key b := pairwise_sortByKey key l
  rw [hsplit, List.pairwise_append] at hpairwise
  have hbefore : (sorted.take i).filter (fun b => key b < key a) = sorted.take i := by
    refine List.filter_eq_self.2 fun b hb => decide_eq_true ?_
    refine lt_of_le_of_ne (hpairwise.2.2 b hb _ List.mem_cons_self) fun heq => ?_
    obtain ⟨k, hk, hkb⟩ := List.mem_take_iff_getElem.1 hb
    have : k = i := hsorted_nodup.getElem_inj_iff.1 (hkb.trans ((hkey heq).trans hia.symm))
    omega
  have hbehind : (a :: sorted.drop (i + 1)).filter (fun b => key b < key a)
      = [] := by
    refine List.filter_eq_nil_iff.2 fun b hb => ?_
    rw [decide_eq_true_eq, not_lt]
    obtain rfl | hb := List.mem_cons.1 hb
    · exact le_rfl
    · exact (List.pairwise_cons.1 hpairwise.2.1).1 b hb
  have hcount : (l.filter fun b => key b < key a).length = i := by
    rw [← (hperm.filter _).length_eq]
    conv_lhs => rw [hsplit, List.filter_append, hbefore, hbehind, List.append_nil,
      List.length_take, min_eq_left hi.le]
  rw [hcount]
  constructor
  · intro hmem
    obtain ⟨k, hk, hki⟩ := List.mem_take_iff_getElem.1 hmem
    have : k = i := hsorted_nodup.getElem_inj_iff.1 (hki.trans hia.symm)
    omega
  · intro hlt
    exact List.mem_take_iff_getElem.2 ⟨i, by omega, hia⟩

/-- The sorted rows of a relabelled list are the relabelled sorted rows. -/
theorem sortByKey_eq_map {key : α → κ} {key' : β → κ} {f : α → β} {l : List α} {l' : List β}
    (hkey : ∀ a ∈ l, key' (f a) = key a) (hnodup : (l.map key).Nodup) (h : l'.Perm (l.map f)) :
    sortByKey key' l' = (sortByKey key l).map f := by
  have hmap : ∀ a ∈ sortByKey key l, key' (f a) = key a :=
    fun a ha => hkey a (mem_sortByKey.1 ha)
  refine List.Perm.eq_of_pairwise ?_ (pairwise_sortByKey key' _) ?_
    ((sortByKey_perm _ _).trans (h.trans ((sortByKey_perm key l).map f).symm))
  · intro a b ha hb hab hba
    -- equal keys belong to one row
    obtain ⟨x, hx, rfl⟩ := List.mem_map.1 (h.mem_iff.1 (mem_sortByKey.1 ha))
    obtain ⟨y, hy, rfl⟩ := List.mem_map.1 hb
    rw [mem_sortByKey] at hy
    rw [hkey x hx, hkey y hy] at hab hba
    rw [List.inj_on_of_nodup_map hnodup hx hy (le_antisymm hab hba)]
  · rw [List.pairwise_map]
    refine (pairwise_sortByKey key l).imp_of_mem ?_
    intro a b ha hb hab
    rwa [hmap a ha, hmap b hb]

/-! ### Without repeats -/

/-- `sort_unstable` by a key that tells the rows apart, then `dedup`. -/
def sortDedup [DecidableEq α] (key : α → κ) (l : List α) : List α :=
  (sortByKey key l).destutter (· ≠ ·)

theorem mem_destutter'_ne [DecidableEq α] {a b : α} {l : List α} :
    b ∈ l.destutter' (· ≠ ·) a ↔ b = a ∨ b ∈ l := by
  induction l generalizing a with
  | nil => simp
  | cons c l ih =>
    by_cases hac : a = c
    · subst hac
      rw [List.destutter'_cons_neg _ (not_not.2 rfl), ih, List.mem_cons]
      tauto
    · rw [List.destutter'_cons_pos _ hac, List.mem_cons, ih, List.mem_cons]

variable [DecidableEq α]

theorem mem_sortDedup {key : α → κ} {l : List α} {a : α} : a ∈ sortDedup key l ↔ a ∈ l := by
  have hsorted : a ∈ sortByKey key l ↔ a ∈ l := mem_sortByKey
  rw [← hsorted, sortDedup]
  cases sortByKey key l with
  | nil => exact Iff.rfl
  | cons b rest => exact mem_destutter'_ne.trans List.mem_cons.symm

theorem sortDedup_eq_nil_iff {key : α → κ} {l : List α} : sortDedup key l = [] ↔ l = [] := by
  simp only [List.eq_nil_iff_forall_not_mem, mem_sortDedup]

/-- Sorted rows without repeats ascend strictly. -/
theorem pairwise_sortDedup {key : α → κ} (hkey : Function.Injective key) (l : List α) :
    (sortDedup key l).Pairwise fun a b => key a < key b := by
  have hsorted := (pairwise_sortByKey key l).sublist (List.destutter_sublist (· ≠ ·) _)
  have hchain := List.isChain_destutter (· ≠ ·) (sortByKey key l)
  have : IsTrans α fun a b : α => key a < key b := ⟨fun a b c => lt_trans⟩
  refine (List.isChain_iff_getElem.2 fun i hi => ?_).pairwise
  have hle := List.pairwise_iff_getElem.1 hsorted i (i + 1) (Nat.lt_of_succ_lt hi) hi
    (Nat.lt_succ_self i)
  exact lt_of_le_of_ne hle (hkey.ne (hchain.getElem i hi))

end Machine
