/-
# Apportionment by the largest remainders

A pool of units is shared out in proportion to weights.  Every claimant gets the
floor of its exact share, and at least one unit; what is left of the pool goes
to the claimants with the largest fractional parts, one unit each (`award`).
The second pass never comes to a claimant whose share is whole
(`fract_pos_of_mem_take`), so a claimant with a share of one or more gets its
floor or its ceiling.  A claimant with a smaller share gets one unit, or two if
the second pass comes to it as well (`award_proportional_iff`).
-/

import ALife.Machine.SortedNames
import Mathlib

namespace Machine

namespace Apportionment

variable {α : Type}

/-- `for index in 0..rounds { counts[order[index % order.len()]] += 1 }`. -/
def bumpCyclic [DecidableEq α] (order : List α) (rounds : ℕ) (counts : α → ℕ) : α → ℕ :=
  (List.range rounds).foldl
    (fun counts index =>
      match order[index % order.length]? with
      | some a => Function.update counts a (counts a + 1)
      | none => counts) counts

/-- Less than one turn around the order raises each of its first places once. -/
theorem bumpCyclic_apply [DecidableEq α] {order : List α} (hnodup : order.Nodup) {rounds : ℕ}
    (hrounds : rounds ≤ order.length) (counts : α → ℕ) (a : α) :
    bumpCyclic order rounds counts a = counts a + if a ∈ order.take rounds then 1 else 0 := by
  unfold bumpCyclic
  induction rounds with
  | zero => simp
  | succ rounds ih =>
    have hlt : rounds < order.length := hrounds
    rw [List.range_succ, List.foldl_append, List.foldl_cons, List.foldl_nil,
      Nat.mod_eq_of_lt hlt, List.getElem?_eq_getElem hlt, List.take_succ_eq_append_getElem hlt]
    dsimp only
    have hnew : order[rounds] ∉ order.take rounds := by
      intro hmem
      obtain ⟨i, hi, heq⟩ := List.mem_take_iff_getElem.1 hmem
      have : i = rounds := (hnodup.getElem_inj_iff).1 heq
      omega
    by_cases ha : a = order[rounds]
    · rw [ha, Function.update_self, ← ha, ih hlt.le, ha, if_neg hnew,
        if_pos (List.mem_append_right _ (List.mem_singleton_self _))]
    · rw [Function.update_of_ne ha, ih hlt.le]
      simp only [List.mem_append, List.mem_singleton, ha, or_false]

/-- The first pass: the floor, and at least one. -/
def floorOrOne (share : α → ℚ) (a : α) : ℕ := max ⌊share a⌋₊ 1

/-- The order of the second pass: the largest fractional parts first, then by number. -/
def remainderOrder (share : α → ℚ) (number : α → ℕ) (l : List α) : List α :=
  sortByKey (fun a => toLex (OrderDual.toDual (share a - ⌊share a⌋₊), number a)) l

/-- What is left for the second pass. -/
def left (share : α → ℚ) (l : List α) (pool : ℕ) : ℕ := pool - (l.map (floorOrOne share)).sum

/-- What everybody gets. -/
def award [DecidableEq α] (share : α → ℚ) (number : α → ℕ) (l : List α) (pool : ℕ) : α → ℕ :=
  bumpCyclic (remainderOrder share number l) (left share l pool) (floorOrOne share)

/-- The claimants in front of `a` in the second pass. -/
def ahead (share : α → ℚ) (number : α → ℕ) (l : List α) (a : α) : List α :=
  l.filter fun b => share a - ⌊share a⌋₊ < share b - ⌊share b⌋₊
    ∨ (share b - ⌊share b⌋₊ = share a - ⌊share a⌋₊ ∧ number b < number a)

/-- The second pass comes to `a`: the first pass and those in front leave a unit. -/
def Reached (share : α → ℚ) (number : α → ℕ) (l : List α) (pool : ℕ) (a : α) : Prop :=
  (l.map (floorOrOne share)).sum + (ahead share number l a).length < pool

section Shares

variable {share : α → ℚ} {number : α → ℕ} {l : List α} {pool : ℕ}

theorem remainderOrder_perm : (remainderOrder share number l).Perm l := sortByKey_perm _ l

theorem mem_take_remainderOrder_iff (hnumber : Function.Injective number) (hnodup : l.Nodup)
    {a : α} (ha : a ∈ l) :
    a ∈ (remainderOrder share number l).take (left share l pool)
      ↔ Reached share number l pool a := by
  have hkey : Function.Injective
      fun a => toLex (OrderDual.toDual (share a - ⌊share a⌋₊), number a) :=
    fun a b h => hnumber (congrArg Prod.snd (toLex.injective h))
  rw [remainderOrder, mem_take_sortByKey_iff hkey hnodup ha, Reached, left, ahead]
  simp only [Prod.Lex.toLex_lt_toLex, OrderDual.toDual_lt_toDual, OrderDual.toDual_inj]
  omega

theorem fract_nonneg (hshare : ∀ a, 0 ≤ share a) (a : α) : 0 ≤ share a - ⌊share a⌋₊ :=
  sub_nonneg.2 (Nat.floor_le (hshare a))

theorem fract_lt_one (a : α) : share a - ⌊share a⌋₊ < 1 := by
  have := Nat.lt_floor_add_one (share a)
  linarith

/-- The fractional parts add up to at least what is left. -/
theorem left_le_sum_fract (hsum : (l.map share).sum = pool) (hused :
    (l.map (floorOrOne share)).sum ≤ pool) :
    (left share l pool : ℚ) ≤ (l.map fun a => share a - ⌊share a⌋₊).sum := by
  have hfloor : ((l.map fun a => (⌊share a⌋₊ : ℚ)).sum) ≤ ((l.map (floorOrOne share)).sum : ℕ) := by
    rw [Nat.cast_list_sum, List.map_map]
    refine List.sum_le_sum fun a _ => ?_
    exact Nat.cast_le.2 (le_max_left ⌊share a⌋₊ 1)
  have hsplit : (l.map share).sum = (l.map fun a => share a - ⌊share a⌋₊).sum
      + (l.map fun a => (⌊share a⌋₊ : ℚ)).sum := by
    rw [← List.sum_map_add]
    simp
  rw [left, Nat.cast_sub hused]
  linarith

/-- A sum of numbers below one is below their number. -/
theorem sum_le_length {f : α → ℚ} (hf : ∀ a, f a < 1) (l : List α) : (l.map f).sum ≤ l.length := by
  induction l with
  | nil => simp
  | cons a l ih =>
    have := hf a
    rw [List.map_cons, List.sum_cons, List.length_cons]
    push_cast
    linarith

theorem left_le_length (hsum : (l.map share).sum = pool)
    (hused : (l.map (floorOrOne share)).sum ≤ pool) : left share l pool ≤ l.length := by
  have hle := (left_le_sum_fract hsum hused).trans (sum_le_length fract_lt_one l)
  exact_mod_cast hle

/-- **The second pass stops before the whole shares.** -/
theorem fract_pos_of_mem_take (hshare : ∀ a, 0 ≤ share a) (hsum : (l.map share).sum = pool)
    (hused : (l.map (floorOrOne share)).sum ≤ pool) {a : α}
    (ha : a ∈ (remainderOrder share number l).take (left share l pool)) :
    0 < share a - ⌊share a⌋₊ := by
  set order := remainderOrder share number l with horder
  obtain ⟨i, hi, rfl⟩ := List.mem_take_iff_getElem.1 ha
  have hlt : i < order.length := by omega
  by_contra hzero
  -- the parts behind a zero part are zero, so those before it add up to too little
  have htail : ((order.drop i).map fun a => share a - ⌊share a⌋₊).sum = 0 := by
    refine List.sum_eq_zero fun x hx => ?_
    obtain ⟨b, hb, rfl⟩ := List.mem_map.1 hx
    refine le_antisymm ?_ (fract_nonneg hshare b)
    rw [List.drop_eq_getElem_cons hlt] at hb
    obtain rfl | hb := List.mem_cons.1 hb
    · exact not_lt.1 hzero
    · have hsorted := pairwise_sortByKey
        (fun a => toLex (OrderDual.toDual (share a - ⌊share a⌋₊), number a)) l
      have hsplit : order = order.take i ++ order[i] :: order.drop (i + 1) := by
        rw [← List.drop_eq_getElem_cons hlt, List.take_append_drop]
      rw [← remainderOrder, ← horder, hsplit, List.pairwise_append] at hsorted
      have hle := (List.pairwise_cons.1 hsorted.2.1).1 b hb
      have hfirst : OrderDual.toDual (share order[i] - ⌊share order[i]⌋₊)
          ≤ OrderDual.toDual (share b - ⌊share b⌋₊) := Prod.Lex.monotone_fst _ _ hle
      exact (OrderDual.toDual_le_toDual.1 hfirst).trans (not_lt.1 hzero)
  have hhead := sum_le_length (f := fun a => share a - ⌊share a⌋₊) fract_lt_one (order.take i)
  have htotal : (l.map fun a => share a - ⌊share a⌋₊).sum
      = ((order.take i).map fun a => share a - ⌊share a⌋₊).sum := by
    have hperm : order.Perm l := remainderOrder_perm
    rw [← (hperm.map _).sum_eq]
    conv_lhs => rw [← List.take_append_drop i order, List.map_append, List.sum_append, htail]
    rw [add_zero]
  have hleft := left_le_sum_fract hsum hused
  rw [htotal] at hleft
  have hlength : ((order.take i).length : ℚ) ≤ i := by
    rw [List.length_take]
    exact_mod_cast Nat.min_le_left i _
  have : (left share l pool : ℚ) ≤ i := hleft.trans (hhead.trans hlength)
  have : left share l pool ≤ i := by exact_mod_cast this
  omega

theorem award_eq [DecidableEq α] (hnodup : l.Nodup) (hsum : (l.map share).sum = pool)
    (hused : (l.map (floorOrOne share)).sum ≤ pool) (a : α) :
    award share number l pool a = floorOrOne share a
      + if a ∈ (remainderOrder share number l).take (left share l pool) then 1 else 0 := by
  refine bumpCyclic_apply (remainderOrder_perm.nodup_iff.2 hnodup) ?_ _ a
  rw [remainderOrder_perm.length_eq]
  exact left_le_length hsum hused

theorem award_pos [DecidableEq α] (hnodup : l.Nodup) (hsum : (l.map share).sum = pool)
    (hused : (l.map (floorOrOne share)).sum ≤ pool) (a : α) :
    0 < award share number l pool a := by
  rw [award_eq hnodup hsum hused]
  have hone : 1 ≤ floorOrOne share a := le_max_right _ _
  exact Nat.add_pos_left hone _

/-- The pool is shared out. -/
theorem sum_award [DecidableEq α] (hnodup : l.Nodup) (hsum : (l.map share).sum = pool)
    (hused : (l.map (floorOrOne share)).sum ≤ pool) :
    (l.map (award share number l pool)).sum = pool := by
  set order := remainderOrder share number l with horder
  have hperm : order.Perm l := remainderOrder_perm
  have horder_nodup : order.Nodup := hperm.nodup_iff.2 hnodup
  have hlength : left share l pool ≤ order.length := by
    rw [hperm.length_eq]
    exact left_le_length hsum hused
  have haward : award share number l pool = fun a =>
      floorOrOne share a + if a ∈ order.take (left share l pool) then 1 else 0 :=
    funext fun a => award_eq hnodup hsum hused a
  have hsecond : (order.map fun a => if a ∈ order.take (left share l pool) then 1 else 0).sum
      = left share l pool := by
    have hdisjoint := List.disjoint_take_drop horder_nodup (le_refl (left share l pool))
    conv_lhs => rw [← List.take_append_drop (left share l pool) order]
    rw [List.map_append, List.sum_append, List.take_append_drop]
    have hfirst : (order.take (left share l pool)).map
        (fun a => if a ∈ order.take (left share l pool) then 1 else 0)
          = (order.take (left share l pool)).map fun _ => 1 :=
      List.map_congr_left fun a ha => if_pos ha
    have hrest : (order.drop (left share l pool)).map
        (fun a => if a ∈ order.take (left share l pool) then 1 else 0)
          = (order.drop (left share l pool)).map fun _ => 0 :=
      List.map_congr_left fun a ha => if_neg fun hmem => hdisjoint hmem ha
    rw [hfirst, hrest, List.map_const', List.map_const', List.sum_replicate, List.sum_replicate,
      List.length_take, smul_eq_mul, smul_eq_mul]
    omega
  rw [← (hperm.map _).sum_eq, haward, List.sum_map_add, hsecond, (hperm.map _).sum_eq, left]
  omega

/-- An award is the floor or the ceiling, or the one unit of a small share. -/
def Proportional (share : ℚ) (units : ℕ) : Prop :=
  units = ⌊share⌋₊ ∨ units = ⌈share⌉₊ ∨ (share < 1 ∧ units = 1)

instance (share : ℚ) (units : ℕ) : Decidable (Proportional share units) :=
  inferInstanceAs (Decidable (_ ∨ _ ∨ _))

/-- **When an award is proportional**: unless the second pass comes to a share below one. -/
theorem award_proportional_iff [DecidableEq α] (hshare : ∀ a, 0 ≤ share a)
    (hnumber : Function.Injective number) (hnodup : l.Nodup) (hsum : (l.map share).sum = pool)
    (hused : (l.map (floorOrOne share)).sum ≤ pool) {a : α} (ha : a ∈ l) :
    Proportional (share a) (award share number l pool a) ↔
      (Reached share number l pool a → 1 ≤ share a) := by
  rw [← mem_take_remainderOrder_iff hnumber hnodup ha]
  rw [award_eq hnodup hsum hused]
  obtain hsmall | hlarge := lt_or_ge (share a) 1
  · have hfloor : ⌊share a⌋₊ = 0 := Nat.floor_eq_zero.2 hsmall
    have hceil : ⌈share a⌉₊ ≤ 1 := Nat.ceil_le.2 (by exact_mod_cast hsmall.le)
    rw [Proportional, floorOrOne, hfloor]
    by_cases hmem : a ∈ (remainderOrder share number l).take (left share l pool)
    · rw [if_pos hmem]
      refine iff_of_false (by omega) ?_
      exact fun h => absurd (h hmem) (not_le.2 hsmall)
    · rw [if_neg hmem]
      exact iff_of_true (.inr (.inr ⟨hsmall, rfl⟩)) fun h => absurd h hmem
  · have hfloor : 1 ≤ ⌊share a⌋₊ := Nat.le_floor (by exact_mod_cast hlarge)
    refine iff_of_true ?_ fun _ => hlarge
    rw [floorOrOne, max_eq_left hfloor]
    split_ifs with hmem
    · have hpos := fract_pos_of_mem_take hshare hsum hused hmem
      have hceil : ⌈share a⌉₊ = ⌊share a⌋₊ + 1 := by
        rw [Nat.ceil_eq_iff (Nat.succ_ne_zero _)]
        have hlt := Nat.lt_floor_add_one (share a)
        rw [Nat.succ_sub_one, Nat.cast_succ]
        exact ⟨by linarith, hlt.le⟩
      exact .inr (.inl hceil.symm)
    · exact .inl rfl

end Shares

end Apportionment

end Machine
