/-
# Rings of slots

A ring of `capacity` slots holds `count` values in the slots of `ringOrder`,
oldest first: from `oldest` on, wrapping round.  `scatter` writes values at
given slots and `gather` reads them.  On distinct slots in range they are
inverse to each other: what was scattered is gathered back (`gather_scatter`),
and a list that is blank elsewhere is the scatter of what it holds
(`scatter_gather`).  A ring that is written at a cursor, one value after the
other, holds the last values of its history (`RingHolds.push`), and the slots from
the oldest on read them back in order (`RingHolds.map_ringOrder`).
-/

import Mathlib.Tactic

namespace Machine

variable {α : Type*}

/-- The values written at the slots, one after the other. -/
def scatter (l : List α) (writes : List (ℕ × α)) : List α :=
  writes.foldl (fun l w => l.set w.1 w.2) l

/-- The values at the slots, `blank` where there is none. -/
def gather (blank : α) (l : List α) (slots : List ℕ) : List α := slots.map fun i => l.getD i blank

@[simp] theorem scatter_nil (l : List α) : scatter l [] = l := rfl

theorem scatter_cons (l : List α) (w : ℕ × α) (ws : List (ℕ × α)) :
    scatter l (w :: ws) = scatter (l.set w.1 w.2) ws := rfl

@[simp] theorem length_scatter (l : List α) (ws : List (ℕ × α)) :
    (scatter l ws).length = l.length := by
  induction ws generalizing l with
  | nil => rfl
  | cons w ws ih => rw [scatter_cons, ih, List.length_set]

@[simp] theorem length_gather (blank : α) (l : List α) (slots : List ℕ) :
    (gather blank l slots).length = slots.length := List.length_map ..

/-- A slot that is not written keeps its value. -/
theorem getElem?_scatter_of_notMem {l : List α} {ws : List (ℕ × α)} {i : ℕ}
    (h : i ∉ ws.map Prod.fst) : (scatter l ws)[i]? = l[i]? := by
  induction ws generalizing l with
  | nil => rfl
  | cons w ws ih =>
    rw [List.map_cons, List.mem_cons, not_or] at h
    rw [scatter_cons, ih h.2, List.getElem?_set_ne (Ne.symm h.1)]

/-- A slot written once has the value written. -/
theorem getElem?_scatter_of_mem {l : List α} {ws : List (ℕ × α)} {i : ℕ} {a : α}
    (hnodup : (ws.map Prod.fst).Nodup) (hi : i < l.length) (h : (i, a) ∈ ws) :
    (scatter l ws)[i]? = some a := by
  induction ws generalizing l with
  | nil => cases h
  | cons w ws ih =>
    rw [List.map_cons, List.nodup_cons] at hnodup
    rw [scatter_cons]
    rcases List.mem_cons.1 h with rfl | h
    · rw [getElem?_scatter_of_notMem hnodup.1, List.getElem?_set_self hi]
    · exact ih hnodup.2 (by rwa [List.length_set]) h

/-- Scattering leaves a prefix alone that ends before every slot. -/
theorem scatter_append_right (l l' : List α) (ws : List (ℕ × α)) :
    scatter (l ++ l') (ws.map fun w => (l.length + w.1, w.2)) = l ++ scatter l' ws := by
  induction ws generalizing l' with
  | nil => rfl
  | cons w ws ih =>
    rw [List.map_cons, scatter_cons, scatter_cons, List.set_append_right _ _ (Nat.le_add_right _ _),
      Nat.add_sub_cancel_left, ih]

/-- Scattering leaves a suffix alone that starts after every slot. -/
theorem scatter_append_left {l : List α} (l' : List α) {ws : List (ℕ × α)}
    (h : ∀ w ∈ ws, w.1 < l.length) : scatter (l ++ l') ws = scatter l ws ++ l' := by
  induction ws generalizing l with
  | nil => rfl
  | cons w ws ih =>
    rw [scatter_cons, scatter_cons, List.set_append_left _ _ (h w List.mem_cons_self)]
    exact ih fun w' hw' => by
      rw [List.length_set]
      exact h w' (List.mem_cons_of_mem _ hw')

/-- What is scattered over distinct slots in range is gathered back. -/
theorem gather_scatter (blank : α) {l : List α} {slots : List ℕ} {values : List α}
    (hnodup : slots.Nodup) (hrange : ∀ i ∈ slots, i < l.length)
    (hlength : slots.length = values.length) :
    gather blank (scatter l (slots.zip values)) slots = values := by
  have hfst : (slots.zip values).map Prod.fst = slots := List.map_fst_zip hlength.le
  refine List.ext_getElem (by simp [hlength]) fun n h₁ h₂ => ?_
  have hn : n < slots.length := hlength ▸ h₂
  have hmem : (slots[n], values[n]) ∈ slots.zip values := by
    have hz : n < (slots.zip values).length := by simp [hlength, h₂]
    have := List.getElem_mem hz
    rwa [List.getElem_zip] at this
  have hget := getElem?_scatter_of_mem (l := l) (by rwa [hfst])
    (hrange _ (List.getElem_mem hn)) hmem
  simp [gather, List.getD_eq_getElem?_getD, hget]

/-- A list that is blank outside the slots is the scatter of what it holds. -/
theorem scatter_gather (blank : α) {l : List α} {slots : List ℕ} (hnodup : slots.Nodup)
    (hblank : ∀ i < l.length, i ∉ slots → l[i]? = some blank) :
    scatter (List.replicate l.length blank) (slots.zip (gather blank l slots)) = l := by
  have hfst : (slots.zip (gather blank l slots)).map Prod.fst = slots :=
    List.map_fst_zip (by simp)
  refine List.ext_getElem? fun i => ?_
  by_cases hi : i < l.length
  swap
  · rw [List.getElem?_eq_none (by simpa using hi), List.getElem?_eq_none (by simpa using hi)]
  by_cases hslot : i ∈ slots
  · obtain ⟨n, hn, rfl⟩ := List.getElem_of_mem hslot
    have hmem : (slots[n], l.getD slots[n] blank) ∈ slots.zip (gather blank l slots) := by
      have hz : n < (slots.zip (gather blank l slots)).length := by simpa using hn
      have := List.getElem_mem hz
      simpa only [List.getElem_zip, gather, List.getElem_map] using this
    rw [getElem?_scatter_of_mem (by rwa [hfst]) (by simpa using hi) hmem,
      List.getD_eq_getElem?_getD, List.getElem?_eq_getElem hi, Option.getD_some]
  · rw [getElem?_scatter_of_notMem (by rwa [hfst]), hblank i hi hslot,
      List.getElem?_replicate, if_pos hi]

/-! ### The slots of a ring -/

/-- The slots of the `count` values of a ring, oldest first. -/
def ringOrder (capacity oldest count : ℕ) : List ℕ :=
  (List.range count).map fun offset => (oldest + offset) % capacity

@[simp] theorem length_ringOrder (capacity oldest count : ℕ) :
    (ringOrder capacity oldest count).length = count := by
  simp [ringOrder]

theorem lt_of_mem_ringOrder {capacity oldest count i : ℕ} (hcap : 0 < capacity)
    (h : i ∈ ringOrder capacity oldest count) : i < capacity := by
  obtain ⟨offset, -, rfl⟩ := List.mem_map.1 h
  exact Nat.mod_lt _ hcap

/-- No slot is used twice while the values fit. -/
theorem nodup_ringOrder {capacity oldest count : ℕ} (h : count ≤ capacity) :
    (ringOrder capacity oldest count).Nodup := by
  refine (List.nodup_map_iff_inj_on List.nodup_range).2 fun a ha b hb he => ?_
  rw [List.mem_range] at ha hb
  have hmod : a ≡ b [MOD capacity] := Nat.ModEq.add_left_cancel' oldest he
  exact Nat.ModEq.eq_of_lt_of_lt hmod (ha.trans_le h) (hb.trans_le h)

/-- A ring that is not full starts at slot zero and uses the first slots. -/
theorem mem_ringOrder_zero {capacity count i : ℕ} (h : count ≤ capacity) :
    i ∈ ringOrder capacity 0 count ↔ i < count := by
  simp only [ringOrder, List.mem_map, List.mem_range, Nat.zero_add]
  constructor
  · rintro ⟨offset, hlt, rfl⟩
    rwa [Nat.mod_eq_of_lt (hlt.trans_le h)]
  · exact fun hi => ⟨i, hi, Nat.mod_eq_of_lt (hi.trans_le h)⟩

/-- A full ring uses every slot. -/
theorem mem_ringOrder_full {capacity oldest i : ℕ} (hi : i < capacity) :
    i ∈ ringOrder capacity oldest capacity := by
  have hcap : 0 < capacity := Nat.zero_lt_of_lt hi
  have ho := Nat.mod_lt oldest hcap
  rw [ringOrder, List.mem_map]
  rcases Nat.lt_or_ge i (oldest % capacity) with hlt | hge
  · refine ⟨i + capacity - oldest % capacity, List.mem_range.2 (by omega), ?_⟩
    rw [Nat.add_mod, ← Nat.mod_mod oldest, ← Nat.add_mod, Nat.mod_mod,
      show oldest % capacity + (i + capacity - oldest % capacity) = i + capacity by omega,
      Nat.add_mod_right, Nat.mod_eq_of_lt hi]
  · refine ⟨i - oldest % capacity, List.mem_range.2 (by omega), ?_⟩
    rw [Nat.add_mod, ← Nat.mod_mod oldest, ← Nat.add_mod, Nat.mod_mod,
      show oldest % capacity + (i - oldest % capacity) = i by omega, Nat.mod_eq_of_lt hi]

/-- A full ring started anywhere, and one that is not full started at slot zero,
use the slots below their count. -/
theorem mem_ringOrder_iff {capacity oldest count i : ℕ} (h : count ≤ capacity)
    (hi : i < capacity) (holdest : count = capacity ∨ oldest = 0) :
    i ∈ ringOrder capacity oldest count ↔ i < count := by
  rcases holdest with rfl | rfl
  · exact iff_of_true (mem_ringOrder_full hi) hi
  · exact mem_ringOrder_zero h

/-! ### A ring written at its cursor -/

/-- The last `capacity` values of a history. -/
def lastOf (capacity : ℕ) (history : List α) : List α :=
  history.drop (history.length - capacity)

@[simp] theorem length_lastOf (capacity : ℕ) (history : List α) :
    (lastOf capacity history).length = min history.length capacity := by
  rw [lastOf, List.length_drop]
  omega

theorem map_lastOf {β : Type*} (f : α → β) (capacity : ℕ) (history : List α) :
    (lastOf capacity history).map f = lastOf capacity (history.map f) := by
  simp [lastOf]

theorem mem_of_mem_lastOf {capacity : ℕ} {history : List α} {a : α}
    (h : a ∈ lastOf capacity history) : a ∈ history := List.mem_of_mem_drop h

/-- Each of the last `capacity` values lies in the slot of its number. -/
def RingHolds (read : ℕ → Option α) (capacity : ℕ) (history : List α) : Prop :=
  ∀ k < history.length, history.length ≤ k + capacity → read (k % capacity) = history[k]?

theorem ringHolds_nil (read : ℕ → Option α) (capacity : ℕ) : RingHolds read capacity [] :=
  fun _ h => absurd h (Nat.not_lt_zero _)

/-- The next value goes into the slot of the oldest, and no other slot changes. -/
theorem RingHolds.push {read read' : ℕ → Option α} {capacity : ℕ} {history : List α} {a : α}
    (h : RingHolds read capacity history) (hnew : read' (history.length % capacity) = some a)
    (hold : ∀ slot < capacity, slot ≠ history.length % capacity → read' slot = read slot) :
    RingHolds read' capacity (history ++ [a]) := by
  intro k hk hlast
  rw [List.length_append, List.length_singleton] at hk hlast
  have hcap : 0 < capacity := by omega
  rcases Nat.lt_succ_iff_lt_or_eq.1 hk with hlt | rfl
  · have hslot : k % capacity ≠ history.length % capacity := by
      intro heq
      have hle := (Nat.modEq_iff_dvd' hlt.le).1 heq
      exact absurd (Nat.le_of_dvd (by omega) hle) (by omega)
    rw [hold _ (Nat.mod_lt _ hcap) hslot, h k hlt (by omega), List.getElem?_append_left hlt]
  · rw [hnew, List.getElem?_concat_length]

/-- The slots from the oldest on hold the last values in order.  Before the first round is
complete the oldest value is in slot zero. -/
theorem RingHolds.map_ringOrder {read : ℕ → Option α} {capacity oldest : ℕ} {history : List α}
    (h : RingHolds read capacity history)
    (holdest : oldest = if min history.length capacity = capacity then
      history.length % capacity else 0) :
    (ringOrder capacity oldest (min history.length capacity)).map read
      = (lastOf capacity history).map some := by
  refine List.ext_getElem (by simp) fun n h₁ h₂ => ?_
  have hn : n < min history.length capacity := by simpa using h₁
  have hslot : (oldest + n) % capacity = (history.length - capacity + n) % capacity := by
    subst holdest
    split_ifs with hfull
    · rw [Nat.mod_add_mod, ← Nat.add_mod_right (history.length - capacity + n)]
      congr 1
      omega
    · congr 1
      omega
  have hread := h (history.length - capacity + n) (by omega) (by omega)
  simp only [ringOrder, List.getElem_map, List.getElem_range, hslot, hread, lastOf,
    List.getElem_drop]
  exact List.getElem?_eq_getElem (by omega)

end Machine
