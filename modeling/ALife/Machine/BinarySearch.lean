/-
# Binary search over a slice

`slice::binary_search_by_key` on the keys of a slice: the branch-free halving of
the standard library, which compares once a step and once more at the end.  On
ascending keys the search is exact, and where it fails it gives the place that
keeps the keys ascending (`binarySearch_eq_error`).  Elsewhere the standard
library promises nothing, and distinct keys are all found only when they ascend
(`pairwise_lt_of_found`).
-/

import Mathlib.Tactic

namespace Machine

variable {κ : Type} [LinearOrder κ]

/-- The halving loop: the window of `size` keys from `base` on, cut in two until
one key is left.  The fuel is the size at the start. -/
def searchBase (ks : List κ) (k : κ) : (fuel base size : ℕ) → ℕ
  | 0, base, _ => base
  | fuel + 1, base, size =>
    if size ≤ 1 then base
    else
      match ks[base + size / 2]? with
      | some x => searchBase ks k fuel (if k < x then base else base + size / 2) (size - size / 2)
      | none => base

/-- `slice::binary_search` on the keys: the index of `k`, or where it belongs. -/
def binarySearch (ks : List κ) (k : κ) : Except ℕ ℕ :=
  let base := searchBase ks k ks.length 0 ks.length
  match ks[base]? with
  | some x => if x = k then .ok base else if x < k then .error (base + 1) else .error base
  | none => .error 0

/-- The search stays inside its window. -/
theorem searchBase_mem (ks : List κ) (k : κ) (fuel base : ℕ) {size : ℕ} (hsize : 0 < size) :
    base ≤ searchBase ks k fuel base size ∧ searchBase ks k fuel base size < base + size := by
  induction fuel generalizing base size with
  | zero => exact ⟨le_rfl, by rw [searchBase]; omega⟩
  | succ fuel ih =>
    rw [searchBase]
    split_ifs with hone
    · omega
    · split
      · have hhalf : 0 < size - size / 2 := by omega
        split_ifs
        · have := ih base hhalf
          omega
        · have := ih (base + size / 2) hhalf
          omega
      · omega

/-- The key left over is not above `k`, unless it is the first one, and the keys
behind it are. -/
theorem searchBase_spec {ks : List κ} {k : κ} (hks : ks.Pairwise (· ≤ ·)) {fuel base size : ℕ}
    (hfuel : size ≤ fuel + 1) (hsize : 0 < size) (hwindow : base + size ≤ ks.length)
    (hbelow : base = 0 ∨ ∃ x, ks[base]? = some x ∧ x ≤ k)
    (habove : ∀ (j : ℕ) (x : κ), base + size ≤ j → ks[j]? = some x → k < x) :
    (searchBase ks k fuel base size = 0 ∨
        ∃ x, ks[searchBase ks k fuel base size]? = some x ∧ x ≤ k) ∧
      ∀ (j : ℕ) (x : κ), searchBase ks k fuel base size < j → ks[j]? = some x → k < x := by
  induction fuel generalizing base size with
  | zero =>
    rw [searchBase]
    exact ⟨hbelow, fun j x hj => habove j x (by omega)⟩
  | succ fuel ih =>
    rw [searchBase]
    split_ifs with hone
    · exact ⟨hbelow, fun j x hj => habove j x (by omega)⟩
    · have hmid : base + size / 2 < ks.length := by omega
      rw [List.getElem?_eq_getElem hmid]
      dsimp only
      split_ifs with hlt
      · -- the keys from the middle on are above `k`
        refine ih (by omega) (by omega) (by omega) hbelow fun j x hj hx => ?_
        obtain ⟨hjlen, rfl⟩ := List.getElem?_eq_some_iff.1 hx
        have hle : ks[base + size / 2] ≤ ks[j] := by
          obtain heq | hltj := Nat.eq_or_lt_of_le (show base + size / 2 ≤ j by omega)
          · simp only [heq, le_refl]
          · exact List.pairwise_iff_getElem.1 hks _ _ hmid hjlen hltj
        exact hlt.trans_le hle
      · refine ih (by omega) (by omega) (by omega) (Or.inr ⟨_, List.getElem?_eq_getElem hmid, ?_⟩)
          fun j x hj => habove j x (by omega)
        exact not_lt.1 hlt

/-- A found index holds the key. -/
theorem getElem?_of_binarySearch {ks : List κ} {k : κ} {i : ℕ} (h : binarySearch ks k = .ok i) :
    ks[i]? = some k := by
  unfold binarySearch at h
  dsimp only at h
  split at h
  · rename_i x hx
    split_ifs at h with heq
    obtain rfl := Except.ok.inj h
    rw [hx, heq]
  · cases h

/-- **Where the search fails** on ascending keys, the keys before the index are
below `k` and the keys from it on are above. -/
theorem binarySearch_eq_error {ks : List κ} {k : κ} (hks : ks.Pairwise (· ≤ ·)) {i : ℕ}
    (h : binarySearch ks k = .error i) :
    i ≤ ks.length ∧ (∀ (j : ℕ) (x : κ), j < i → ks[j]? = some x → x < k) ∧
      ∀ (j : ℕ) (x : κ), i ≤ j → ks[j]? = some x → k < x := by
  unfold binarySearch at h
  dsimp only at h
  obtain rfl | hne := eq_or_ne ks []
  · simp only [List.length_nil, List.getElem?_nil, Except.error.injEq] at h
    subst h
    simp
  have hlen : 0 < ks.length := List.length_pos_iff.2 hne
  have hmem := searchBase_mem ks k ks.length 0 hlen
  have hwindow : 0 + ks.length ≤ ks.length := by omega
  have houtside : ∀ (j : ℕ) (x : κ), 0 + ks.length ≤ j → ks[j]? = some x → k < x := by
    intro j x hj hx
    rw [List.getElem?_eq_none (by omega)] at hx
    cases hx
  obtain ⟨hbelow, habove⟩ := searchBase_spec hks (Nat.le_succ ks.length) hlen hwindow (Or.inl rfl)
    houtside
  generalize searchBase ks k ks.length 0 ks.length = base at *
  have hbase : base < ks.length := by omega
  rw [List.getElem?_eq_getElem hbase] at h hbelow
  dsimp only at h
  have hmono : ∀ (j : ℕ) (x : κ), j < base → ks[j]? = some x → x ≤ ks[base] := by
    intro j x hj hx
    obtain ⟨hjlen, rfl⟩ := List.getElem?_eq_some_iff.1 hx
    exact List.pairwise_iff_getElem.1 hks _ _ hjlen hbase hj
  split_ifs at h with heq hlt
  · obtain rfl := Except.error.inj h
    refine ⟨by omega, fun j x hj hx => ?_, fun j x hj hx => habove j x (by omega) hx⟩
    obtain hj | rfl := Nat.lt_succ_iff_lt_or_eq.1 hj
    · exact (hmono j x hj hx).trans_lt hlt
    · rw [List.getElem?_eq_getElem hbase, Option.some.injEq] at hx
      exact hx ▸ hlt
  · obtain rfl := Except.error.inj h
    have hgt : k < ks[base] := lt_of_le_of_ne (not_lt.1 hlt) (Ne.symm heq)
    have hzero : base = 0 := by
      obtain hzero | ⟨x, hx, hxk⟩ := hbelow
      · exact hzero
      · obtain rfl := Option.some.inj hx
        exact absurd hgt (not_lt.2 hxk)
    refine ⟨by omega, fun j x hj => by omega, fun j x hj hx => ?_⟩
    obtain hj | rfl := Nat.lt_or_eq_of_le hj
    · exact habove j x hj hx
    · rw [List.getElem?_eq_getElem hbase, Option.some.injEq] at hx
      exact hx ▸ hgt

/-- **On ascending keys the search is exact.** -/
theorem exists_binarySearch_iff {ks : List κ} (hks : ks.Pairwise (· ≤ ·)) {k : κ} :
    (∃ i, binarySearch ks k = .ok i) ↔ k ∈ ks := by
  constructor
  · rintro ⟨i, hi⟩
    exact List.mem_of_getElem? (getElem?_of_binarySearch hi)
  · intro hmem
    cases h : binarySearch ks k with
    | ok i => exact ⟨i, rfl⟩
    | error i =>
      obtain ⟨j, hj⟩ := List.mem_iff_getElem?.1 hmem
      obtain ⟨-, hbelow, habove⟩ := binarySearch_eq_error hks h
      obtain hlt | hle := Nat.lt_or_ge j i
      · exact absurd (hbelow j k hlt hj) (lt_irrefl k)
      · exact absurd (habove j k hle hj) (lt_irrefl k)

/-- A key between the keys before an index and the keys from it on keeps the order there. -/
theorem pairwise_insertIdx {ks : List κ} {k : κ} {i : ℕ} (hks : ks.Pairwise (· < ·))
    (hi : i ≤ ks.length) (hbelow : ∀ (j : ℕ) (x : κ), j < i → ks[j]? = some x → x < k)
    (habove : ∀ (j : ℕ) (x : κ), i ≤ j → ks[j]? = some x → k < x) :
    (ks.insertIdx i k).Pairwise (· < ·) := by
  induction ks generalizing i with
  | nil =>
    obtain rfl : i = 0 := by simpa using hi
    simp
  | cons hd ks ih =>
    cases i with
    | zero =>
      rw [List.insertIdx_zero, List.pairwise_cons]
      refine ⟨fun x hx => ?_, hks⟩
      obtain ⟨j, hj⟩ := List.mem_iff_getElem?.1 hx
      exact habove j x (Nat.zero_le j) hj
    | succ i =>
      rw [List.pairwise_cons] at hks
      rw [List.length_cons] at hi
      rw [List.insertIdx_succ_cons, List.pairwise_cons]
      refine ⟨fun x hx => ?_, ih hks.2 (by omega) (fun j x hj hx => ?_) fun j x hj hx => ?_⟩
      · obtain rfl | hx := (List.mem_insertIdx (by omega)).1 hx
        · exact hbelow 0 hd (by omega) rfl
        · exact hks.1 x hx
      · exact hbelow (j + 1) x (by omega) hx
      · exact habove (j + 1) x (by omega) hx

/-- Two keys that lead the loop to two indices are in the order of the indices:
at some step the smaller one went left of a key that the other did not. -/
theorem lt_of_searchBase_lt (ks : List κ) {x y : κ} {fuel base size : ℕ} (hsize : 0 < size)
    (hwindow : base + size ≤ ks.length)
    (hlt : searchBase ks x fuel base size < searchBase ks y fuel base size) : x < y := by
  induction fuel generalizing base size with
  | zero => exact absurd hlt (by rw [searchBase, searchBase]; omega)
  | succ fuel ih =>
    rw [searchBase, searchBase] at hlt
    split_ifs at hlt with hone
    · omega
    · have hmid : base + size / 2 < ks.length := by omega
      rw [List.getElem?_eq_getElem hmid] at hlt
      dsimp only at hlt
      have hhalf : 0 < size - size / 2 := by omega
      split_ifs at hlt with hx hy hy
      · exact ih hhalf (by omega) hlt
      · exact hx.trans_le (not_lt.1 hy)
      · -- `x` went right and `y` left, so the indices are the other way round
        have hright := (searchBase_mem ks x fuel (base + size / 2) hhalf).1
        have hleft := (searchBase_mem ks y fuel base hhalf).2
        omega
      · exact ih hhalf (by omega) hlt

/-- **Distinct keys that the search finds ascend.** -/
theorem pairwise_lt_of_found {ks : List κ} (hnodup : ks.Nodup)
    (hfound : ∀ k ∈ ks, ∃ i, binarySearch ks k = .ok i) : ks.Pairwise (· < ·) := by
  have hindex : ∀ (i : ℕ) (hi : i < ks.length), searchBase ks ks[i] ks.length 0 ks.length = i := by
    intro i hi
    obtain ⟨j, hj⟩ := hfound ks[i] (List.getElem_mem hi)
    have hget := getElem?_of_binarySearch hj
    obtain ⟨hjlen, hval⟩ := List.getElem?_eq_some_iff.1 hget
    obtain rfl : j = i := hnodup.getElem_inj_iff.1 hval
    unfold binarySearch at hj
    dsimp only at hj
    split at hj
    · split_ifs at hj
      exact Except.ok.inj hj
    · cases hj
  rw [List.pairwise_iff_getElem]
  intro i j hi hj hij
  have hlen : 0 < ks.length := by omega
  have hwindow : 0 + ks.length ≤ ks.length := by omega
  have hlt : searchBase ks ks[i] ks.length 0 ks.length <
      searchBase ks ks[j] ks.length 0 ks.length := by
    rw [hindex i hi, hindex j hj]
    exact hij
  exact lt_of_searchBase_lt ks hlen hwindow hlt

/-- The search is exact on ascending keys and misses one elsewhere. -/
example : binarySearch [2, 5, 9] 5 = .ok 1 ∧ binarySearch [2, 5, 9] 6 = .error 2 ∧
    binarySearch [2, 1] 2 = .error 2 := by decide

end Machine
