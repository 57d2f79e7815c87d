/-
# Spans over a buffer

A span is an offset and a count.  Spans that start where the one before ended tile an
interval (`Tiles`); cut out of a buffer one after the other they give the interval back
(`Tiles.flatMap_cut`), and no two of them share an index (`Tiles.disjoint`).
-/

import Mathlib.Tactic

namespace Machine

structure Span where
  offset : ℕ
  count : ℕ
  deriving DecidableEq, Repr

/-- The index after the last one of a span. -/
def Span.stop (s : Span) : ℕ := s.offset + s.count

variable {α : Type*}

/-- The elements that a span names. -/
def cut (buffer : List α) (s : Span) : List α := (buffer.drop s.offset).take s.count

/-- The spans lie one after the other from `start` to `stop`. -/
def Tiles (start stop : ℕ) : List Span → Prop
  | [] => start = stop
  | s :: spans => s.offset = start ∧ Tiles s.stop stop spans

instance decidableTiles (start stop : ℕ) : (spans : List Span) → Decidable (Tiles start stop spans)
  | [] => inferInstanceAs (Decidable (start = stop))
  | s :: spans =>
    haveI := decidableTiles s.stop stop spans
    inferInstanceAs (Decidable (s.offset = start ∧ Tiles s.stop stop spans))

variable {start stop : ℕ} {spans : List Span}

theorem Tiles.stop_eq (h : Tiles start stop spans) :
    stop = start + (spans.map Span.count).sum := by
  induction spans generalizing start with
  | nil => exact (Nat.add_zero start).symm ▸ h.symm
  | cons s spans ih =>
    obtain ⟨rfl, h⟩ := h
    rw [ih h, Span.stop, List.map_cons, List.sum_cons, Nat.add_assoc]

theorem Tiles.unique {stop' : ℕ} (h : Tiles start stop spans) (h' : Tiles start stop' spans) :
    stop = stop' := by
  rw [h.stop_eq, h'.stop_eq]

theorem Tiles.start_le (h : Tiles start stop spans) : start ≤ stop := by
  rw [h.stop_eq]
  exact Nat.le_add_right ..

theorem Tiles.concat (h : Tiles start stop spans) (count : ℕ) :
    Tiles start (stop + count) (spans ++ [⟨stop, count⟩]) := by
  induction spans generalizing start with
  | nil =>
    obtain rfl : start = stop := h
    exact ⟨rfl, rfl⟩
  | cons s spans ih => exact ⟨h.1, ih h.2⟩

/-- The spans of a tiling give back what they tile. -/
theorem Tiles.flatMap_cut (h : Tiles start stop spans) {buffer : List α}
    (hstop : stop ≤ buffer.length) :
    spans.flatMap (cut buffer) = (buffer.drop start).take (stop - start) := by
  induction spans generalizing start with
  | nil =>
    obtain rfl : start = stop := h
    rw [Nat.sub_self, List.take_zero]
    rfl
  | cons s spans ih =>
    obtain ⟨rfl, h⟩ := h
    have hle := h.start_le
    rw [List.flatMap_cons, ih h, cut, Span.stop, ← List.drop_drop,
      show stop - s.offset = s.count + (stop - (s.offset + s.count)) by
        rw [Span.stop] at hle
        omega, List.take_add]

theorem Tiles.le_stop (h : Tiles start stop spans) : ∀ s ∈ spans, s.stop ≤ stop := by
  induction spans generalizing start with
  | nil => exact fun _ hs => absurd hs List.not_mem_nil
  | cons s spans ih =>
    intro t ht
    rcases List.mem_cons.1 ht with rfl | ht
    · exact h.2.start_le
    · exact ih h.2 t ht

/-- No two spans of a tiling share an index. -/
theorem Tiles.disjoint (h : Tiles start stop spans) :
    spans.Pairwise fun s t => s.stop ≤ t.offset := by
  induction spans generalizing start with
  | nil => exact List.Pairwise.nil
  | cons s spans ih =>
    refine List.pairwise_cons.2 ⟨?_, ih h.2⟩
    have hfrom : ∀ {start : ℕ} {spans : List Span}, Tiles start stop spans →
        ∀ t ∈ spans, start ≤ t.offset := by
      intro start spans
      induction spans generalizing start with
      | nil => exact fun _ _ ht => absurd ht List.not_mem_nil
      | cons t spans ih =>
        rintro ⟨rfl, h⟩ t' ht'
        rcases List.mem_cons.1 ht' with rfl | ht'
        · exact le_rfl
        · exact (Nat.le_add_right ..).trans (ih h t' ht')
    exact hfrom h.2

/-- A span cut out of the end of a longer buffer. -/
theorem cut_append_right (front back : List α) (s : Span) :
    cut (front ++ back) ⟨front.length + s.offset, s.count⟩ = cut back s := by
  rw [cut, cut, List.drop_append, Nat.add_sub_cancel_left,
    List.drop_eq_nil_of_le (Nat.le_add_right ..), List.nil_append]

/-- A span inside the front does not see the rest. -/
theorem cut_append_left {front : List α} (back : List α) {s : Span}
    (h : s.stop ≤ front.length) : cut (front ++ back) s = cut front s := by
  rw [Span.stop] at h
  rw [cut, cut, List.drop_append_of_le_length (by omega), List.take_append_of_le_length]
  rw [List.length_drop]
  omega

theorem cut_all (buffer : List α) : cut buffer ⟨0, buffer.length⟩ = buffer := by
  rw [cut, List.drop_zero, List.take_length]

end Machine
