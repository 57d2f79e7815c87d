/-
# Maps over paths

An ordered map whose keys are paths, that is lists of names.  `relocate` moves what
is at or below one path to another one, entry by entry, as a ledger does after the
rename of a directory (`get?_relocate`); nothing is lost on the way
(`total_relocate`).
-/

import ALife.Machine.OrderedMap
import Mathlib.Data.List.Lex

namespace Machine

namespace OrderedMap

section Lookups

variable {κ ν : Type} [LinearOrder κ] {m : OrderedMap κ ν} {k : κ} {v : ν}

theorem forall_get?_insert {P : κ → ν → Prop} (hnew : P k v)
    (h : ∀ j w, j ≠ k → m.get? j = some w → P j w) :
    ∀ j w, (m.insert k v).get? j = some w → P j w := by
  intro j w hj
  rcases eq_or_ne j k with rfl | hne
  · rw [get?_insert_self] at hj
    exact Option.some.inj hj ▸ hnew
  · rw [get?_insert_of_ne hne] at hj
    exact h j w hne hj

theorem forall_get?_erase {P : κ → ν → Prop} (h : ∀ j w, j ≠ k → m.get? j = some w → P j w) :
    ∀ j w, (m.erase k).get? j = some w → P j w := by
  intro j w hj
  rcases eq_or_ne j k with rfl | hne
  · rw [get?_erase_self] at hj
    cases hj
  · rw [get?_erase_of_ne hne] at hj
    exact h j w hne hj

/-- A value is at most the sum. -/
theorem le_total {f : ν → ℕ} (h : m.get? k = some v) : f v ≤ m.total f := by
  have := total_erase (m := m) (k := k) f
  rw [h] at this
  simp only [Option.map_some, Option.getD_some] at this
  omega

theorem total_eq_zero {f : ν → ℕ} (h : ∀ j w, m.get? j = some w → f w = 0) : m.total f = 0 := by
  rw [total_eq_sum, List.sum_eq_zero]
  intro x hx
  obtain ⟨e, he, rfl⟩ := List.mem_map.1 hx
  exact h e.1 e.2 (get?_eq_some_iff.2 he)

theorem total_insert_new {f : ν → ℕ} (h : m.get? k = none) :
    (m.insert k v).total f = m.total f + f v := by
  have := total_insert (m := m) (k := k) (v := v) f
  rw [h] at this
  simpa using this

theorem total_insert_some {f : ν → ℕ} {w : ν} (h : m.get? k = some w) :
    (m.insert k v).total f + f w = m.total f + f v := by
  have := total_insert (m := m) (k := k) (v := v) f
  rw [h] at this
  simpa using this

theorem total_erase_some {f : ν → ℕ} (h : m.get? k = some v) :
    (m.erase k).total f + f v = m.total f := by
  have := total_erase (m := m) (k := k) f
  rw [h] at this
  simpa using this

end Lookups

section Paths

variable {N : Type} {src dst : List N}

/-- The path of an entry after its move. -/
def moved (src dst path : List N) : List N := dst ++ path.drop src.length

/-- Neither path is at or below the other. -/
def Apart (src dst : List N) : Prop := ¬src <+: dst ∧ ¬dst <+: src

theorem Apart.not_both (h : Apart src dst) {path : List N} (hsrc : src <+: path) :
    ¬dst <+: path := fun hdst =>
  (List.prefix_or_prefix_of_prefix hsrc hdst).elim h.1 h.2

theorem moved_append (rest : List N) : moved src dst (src ++ rest) = dst ++ rest := by
  rw [moved, List.drop_left]

theorem prefix_moved (path : List N) : dst <+: moved src dst path := List.prefix_append _ _

theorem moved_injOn {p q : List N} (hp : src <+: p) (hq : src <+: q)
    (h : moved src dst p = moved src dst q) : p = q := by
  obtain ⟨p, rfl⟩ := hp
  obtain ⟨q, rfl⟩ := hq
  rw [moved_append, moved_append, List.append_cancel_left_eq] at h
  rw [h]

end Paths

variable {N ν : Type} [LinearOrder N]

/-- What is at a path or below it. -/
def below (root : List N) (m : OrderedMap (List N) ν) : List (List N × ν) :=
  m.entries.filter fun e => root <+: e.1

/-- What is below `src` put below `dst`, one entry after the other. -/
def moveEntries (src dst : List N) (f : ν → ν) (l : List (List N × ν))
    (m : OrderedMap (List N) ν) : OrderedMap (List N) ν :=
  l.foldl (fun m e => (m.erase e.1).insert (moved src dst e.1) (f e.2)) m

/-- What is below `dst` goes, and what is below `src` takes its place. -/
def relocate (src dst : List N) (f : ν → ν) (m : OrderedMap (List N) ν) :
    OrderedMap (List N) ν :=
  moveEntries src dst f (m.below src) (m.filter fun e => !(dst <+: e.1 && !(src <+: e.1)))

variable {src dst : List N} {m : OrderedMap (List N) ν} {f : ν → ν} {g : ν → ℕ}

theorem get?_filter (p : List N × ν → Bool) (k : List N) :
    (m.filter p).get? k = (m.get? k).filter fun v => p (k, v) := by
  refine Option.ext fun v => ?_
  rw [get?_eq_some_iff, Option.filter_eq_some_iff, get?_eq_some_iff]
  exact List.mem_filter

theorem mem_below {e : List N × ν} : e ∈ m.below src ↔ src <+: e.1 ∧ m.get? e.1 = some e.2 := by
  rw [below, List.mem_filter, decide_eq_true_eq, get?_eq_some_iff, and_comm]

theorem pairwise_below : (m.below src).Pairwise fun a b => a.1 ≠ b.1 :=
  (m.ascending.imp fun h => ne_of_lt h).filter _

/-- A lookup after the move of some entries. -/
theorem get?_moveEntries (h : Apart src dst) {l : List (List N × ν)}
    (hl : ∀ e ∈ l, src <+: e.1) (hdistinct : l.Pairwise fun a b => a.1 ≠ b.1)
    (m : OrderedMap (List N) ν) :
    (∀ e ∈ l, (moveEntries src dst f l m).get? (moved src dst e.1) = some (f e.2)
      ∧ (moveEntries src dst f l m).get? e.1 = none)
    ∧ ∀ p, (∀ e ∈ l, p ≠ e.1 ∧ p ≠ moved src dst e.1) →
      (moveEntries src dst f l m).get? p = m.get? p := by
  induction l generalizing m with
  | nil => exact ⟨nofun, fun _ _ => rfl⟩
  | cons a l ih =>
    rw [List.forall_mem_cons] at hl
    rw [List.pairwise_cons] at hdistinct
    obtain ⟨hin, hout⟩ := ih hl.2 hdistinct.2 ((m.erase a.1).insert (moved src dst a.1) (f a.2))
    -- an old path is below the source, a new one is not
    have hne : ∀ {p q : List N}, src <+: p → p ≠ moved src dst q := fun hp heq =>
      h.not_both hp (heq ▸ prefix_moved _)
    refine ⟨fun e he => ?_, fun p hp => ?_⟩
    · rcases List.mem_cons.1 he with rfl | he
      · constructor
        · refine (hout _ fun b hb => ⟨(hne (hl.2 b hb)).symm, fun heq => ?_⟩).trans get?_insert_self
          exact hdistinct.1 b hb (moved_injOn hl.1 (hl.2 b hb) heq)
        · refine (hout _ fun b hb => ⟨hdistinct.1 b hb, hne hl.1⟩).trans ?_
          rw [get?_insert_of_ne (hne hl.1), get?_erase_self]
      · exact hin e he
    · rw [List.forall_mem_cons] at hp
      refine (hout p hp.2).trans ?_
      rw [get?_insert_of_ne hp.1.2, get?_erase_of_ne hp.1.1]

/-- **A lookup after a move.** -/
theorem get?_relocate (h : Apart src dst) (p : List N) :
    (relocate src dst f m).get? p
      = if dst <+: p then (m.get? (src ++ p.drop dst.length)).map f
        else if src <+: p then none else m.get? p := by
  obtain ⟨hin, hout⟩ := get?_moveEntries (f := f) h (fun e he => (mem_below.1 he).1) pairwise_below
    (m.filter fun e => !(dst <+: e.1 && !(src <+: e.1)))
  unfold relocate
  split_ifs with hdst hsrc
  · obtain ⟨rest, rfl⟩ := hdst
    rw [List.drop_left]
    cases hv : m.get? (src ++ rest) with
    | some v =>
      have := (hin (src ++ rest, v) (mem_below.2 ⟨List.prefix_append _ _, hv⟩)).1
      rwa [moved_append] at this
    | none =>
      rw [hout, get?_filter]
      · have hnot : ¬src <+: dst ++ rest := fun hs => h.not_both hs (List.prefix_append _ _)
        cases m.get? (dst ++ rest) with
        | none => rfl
        | some w => simp [hnot]
      · intro e he
        obtain ⟨hsrc, hget⟩ := mem_below.1 he
        refine ⟨fun heq => h.not_both hsrc (heq ▸ List.prefix_append _ _), fun heq => ?_⟩
        obtain ⟨path, hpath⟩ := hsrc
        rw [← hpath, moved_append, List.append_cancel_left_eq] at heq
        rw [← hpath, ← heq, hv] at hget
        cases hget
  · cases hv : m.get? p with
    | some v => exact (hin (p, v) (mem_below.2 ⟨hsrc, hv⟩)).2
    | none =>
      rw [hout, get?_filter, hv]
      · rfl
      · intro e he
        refine ⟨fun heq => ?_, fun heq => hdst (heq ▸ prefix_moved _)⟩
        have hget := (mem_below.1 he).2
        rw [← heq, hv] at hget
        cases hget
  · rw [hout, get?_filter]
    · cases m.get? p with
      | none => rfl
      | some v => simp [hdst]
    · exact fun e he => ⟨fun heq => hsrc (heq ▸ (mem_below.1 he).1),
        fun heq => hdst (heq ▸ prefix_moved _)⟩

/-- A move keeps the sum where it meets no entry. -/
theorem total_moveEntries (h : Apart src dst) (hf : ∀ v, g (f v) = g v) {l : List (List N × ν)}
    (hl : ∀ e ∈ l, src <+: e.1) (hdistinct : l.Pairwise fun a b => a.1 ≠ b.1)
    {m : OrderedMap (List N) ν} (hget : ∀ e ∈ l, m.get? e.1 = some e.2)
    (hfree : ∀ e ∈ l, m.get? (moved src dst e.1) = none) :
    total g (moveEntries src dst f l m) = total g m := by
  induction l generalizing m with
  | nil => rfl
  | cons a l ih =>
    rw [List.forall_mem_cons] at hl hget hfree
    rw [List.pairwise_cons] at hdistinct
    have hne : ∀ {p q : List N}, src <+: p → p ≠ moved src dst q := fun hp heq =>
      h.not_both hp (heq ▸ prefix_moved _)
    have hstep : total g ((m.erase a.1).insert (moved src dst a.1) (f a.2)) = total g m := by
      have hinsert := total_insert (m := m.erase a.1) (k := moved src dst a.1) (v := f a.2) g
      have herase := total_erase (m := m) (k := a.1) g
      rw [get?_erase_of_ne (hne hl.1).symm, hfree.1] at hinsert
      rw [hget.1] at herase
      simp only [Option.map_none, Option.map_some, Option.getD_none, Option.getD_some, hf]
        at hinsert herase
      omega
    rw [← hstep]
    refine ih hl.2 hdistinct.2 (fun e he => ?_) fun e he => ?_
    · rw [get?_insert_of_ne (hne (hl.2 e he)), get?_erase_of_ne (hdistinct.1 e he).symm]
      exact hget.2 e he
    · rw [get?_insert_of_ne, get?_erase_of_ne (hne hl.1).symm]
      · exact hfree.2 e he
      · exact fun heq => hdistinct.1 e he (moved_injOn hl.1 (hl.2 e he) heq.symm)

/-- The sum of what a filter keeps and of what it drops. -/
theorem total_filter_add (p : List N × ν → Bool) (m : OrderedMap (List N) ν) :
    total g (m.filter p) + ((m.entries.filter fun e => !p e).map fun e => g e.2).sum
      = total g m := by
  rw [total_eq_sum, total_eq_sum]
  change ((m.entries.filter p).map fun e => g e.2).sum + _ = _
  induction m.entries with
  | nil => rfl
  | cons e l ih =>
    cases hp : p e <;> simp [hp] <;> omega

/-- **What a move keeps**: all but what was in its place. -/
theorem total_relocate (h : Apart src dst) (hf : ∀ v, g (f v) = g v)
    (m : OrderedMap (List N) ν) :
    total g (relocate src dst f m)
        + ((m.entries.filter fun e => dst <+: e.1 && !(src <+: e.1)).map fun e => g e.2).sum
      = total g m := by
  have hfilter := total_filter_add (g := g) (fun e => !(dst <+: e.1 && !(src <+: e.1))) m
  simp only [Bool.not_not] at hfilter
  rw [← hfilter, relocate, total_moveEntries h hf (fun e he => (mem_below.1 he).1) pairwise_below]
  · intro e he
    obtain ⟨hsrc, hget⟩ := mem_below.1 he
    rw [get?_filter, hget]
    simp [hsrc]
  · intro e he
    have hnot : ¬src <+: moved src dst e.1 := fun hs => h.not_both hs (prefix_moved _)
    rw [get?_filter]
    cases m.get? (moved src dst e.1) with
    | none => rfl
    | some v => simp [hnot, prefix_moved]

/-- A sum of values that those of another map cover. -/
theorem total_le_total {μ : Type} {n : OrderedMap (List N) μ} {k : μ → ℕ}
    (h : ∀ p v, m.get? p = some v → g v = 0 ∨ ∃ w, n.get? p = some w ∧ g v ≤ k w) :
    total g m ≤ total k n := by
  have hall : ∀ (l : List (List N × ν)) (n : OrderedMap (List N) μ),
      l.Pairwise (fun a b => a.1 ≠ b.1) →
      (∀ e ∈ l, g e.2 = 0 ∨ ∃ w, n.get? e.1 = some w ∧ g e.2 ≤ k w) →
      (l.map fun e => g e.2).sum ≤ total k n := by
    intro l
    induction l with
    | nil => exact fun n _ _ => Nat.zero_le _
    | cons a l ih =>
      intro n hdistinct hl
      rw [List.pairwise_cons] at hdistinct
      rw [List.forall_mem_cons] at hl
      rw [List.map_cons, List.sum_cons]
      obtain ⟨hzero | ⟨w, hw, hle⟩, hl⟩ := hl
      · have := ih n hdistinct.2 hl
        omega
      · have herase := total_erase (m := n) (k := a.1) k
        have hrest := ih (n.erase a.1) hdistinct.2 fun e he => by
          rw [get?_erase_of_ne (hdistinct.1 e he).symm]
          exact hl e he
        rw [hw] at herase
        simp only [Option.map_some, Option.getD_some] at herase
        omega
  rw [total_eq_sum]
  exact hall m.entries n (m.ascending.imp fun h => ne_of_lt h)
    fun e he => h e.1 e.2 (get?_eq_some_iff.2 he)

end OrderedMap

end Machine
