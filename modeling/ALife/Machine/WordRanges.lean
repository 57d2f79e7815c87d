/-
# Ranges of words

Inclusive ranges of 64-bit words, kept as a list in increasing order.
`coalesce` joins each range to the one before it when nothing lies between
them; on disjoint ranges in order it covers the same words with ranges that are
apart, and it shortens the list exactly when two ranges touch.
-/

import ALife.Machine.Integers
import ALife.Machine.SortedNames

namespace Machine

/-- An inclusive range, `[u64; 2]`. -/
structure WordRange where
  first : UInt64
  last : UInt64
  deriving DecidableEq, Repr

namespace WordRange

def Holds (r : WordRange) (x : UInt64) : Prop := r.first ≤ x ∧ x ≤ r.last

instance (r : WordRange) (x : UInt64) : Decidable (r.Holds x) :=
  inferInstanceAs (Decidable (_ ∧ _))

/-- One range ends below the start of another. -/
def Before (r s : WordRange) : Prop := r.last.toNat < s.first.toNat

/-- A word lies between the two. -/
def Apart (r s : WordRange) : Prop := r.last.toNat + 1 < s.first.toNat

instance (r s : WordRange) : Decidable (r.Before s) := inferInstanceAs (Decidable (_ < _))

instance (r s : WordRange) : Decidable (r.Apart s) := inferInstanceAs (Decidable (_ < _))

theorem Apart.before {r s : WordRange} (h : r.Apart s) : r.Before s := Nat.lt_of_succ_lt h

/-- The order of `sort_unstable`. -/
def key (r : WordRange) : ℕ ×ₗ ℕ := toLex (r.first.toNat, r.last.toNat)

/-- One of the words is in a range of the list. -/
def Covers (l : List WordRange) (x : UInt64) : Prop := ∃ r ∈ l, r.Holds x

instance (l : List WordRange) (x : UInt64) : Decidable (Covers l x) :=
  inferInstanceAs (Decidable (∃ r ∈ l, r.Holds x))

theorem covers_append {l m : List WordRange} {x : UInt64} :
    Covers (l ++ m) x ↔ Covers l x ∨ Covers m x := by
  simp [Covers, or_and_right, exists_or]

theorem covers_singleton {r : WordRange} {x : UInt64} : Covers [r] x ↔ r.Holds x := by
  simp [Covers]

theorem covers_of_perm {l m : List WordRange} (h : l.Perm m) {x : UInt64} :
    Covers l x ↔ Covers m x := by
  simp only [Covers, h.mem_iff]

/-- Ranges in order have no word in common. -/
theorem not_holds_both_of_before {r s : WordRange} (h : r.Before s) {x : UInt64} :
    ¬(r.Holds x ∧ s.Holds x) := by
  rintro ⟨⟨-, hr⟩, ⟨hs, -⟩⟩
  rw [UInt64.le_iff_toNat_le] at hr hs
  unfold Before at h
  omega

/-! ## Joining ranges that touch -/

/-- One round of the loop: the range is joined to the last one, or stands alone. -/
def coalesceStep (ranges : List WordRange) (r : WordRange) : List WordRange :=
  match ranges.getLast? with
  | some last =>
    if r.first ≤ saturatingAdd64 last.last 1 then
      -- `last[1].max(b)`
      ranges.dropLast ++ [⟨last.first, if last.last < r.last then r.last else last.last⟩]
    else ranges ++ [r]
  | none => [r]

def coalesce (l : List WordRange) : List WordRange := l.foldl coalesceStep []

theorem coalesce_concat (l : List WordRange) (r : WordRange) :
    coalesce (l ++ [r]) = coalesceStep (coalesce l) r := by
  rw [coalesce, List.foldl_append]
  rfl

@[simp] theorem coalesceStep_nil (r : WordRange) : coalesceStep [] r = [r] := rfl

/-- A range that starts right after the last one is joined to it. -/
theorem coalesceStep_touching {ranges : List WordRange} {last r : WordRange}
    (htouch : last.last.toNat + 1 = r.first.toNat) (hr : r.first ≤ r.last) :
    coalesceStep (ranges ++ [last]) r = ranges ++ [⟨last.first, r.last⟩] := by
  have hfirst := r.first.toNat_lt
  have hjoined : r.first ≤ saturatingAdd64 last.last 1 := by
    rw [UInt64.le_iff_toNat_le, toNat_saturatingAdd64]
    change _ ≤ min (last.last.toNat + 1) _
    omega
  have hlonger : last.last < r.last := by
    rw [UInt64.lt_iff_toNat_lt]
    rw [UInt64.le_iff_toNat_le] at hr
    omega
  unfold coalesceStep
  rw [List.getLast?_concat]
  simp only [if_pos hjoined, if_pos hlonger, List.dropLast_concat]

/-- A range that is apart from the last one stands alone. -/
theorem coalesceStep_apart {ranges : List WordRange} {last r : WordRange} (h : last.Apart r) :
    coalesceStep (ranges ++ [last]) r = ranges ++ [last] ++ [r] := by
  have hsplit : ¬r.first ≤ saturatingAdd64 last.last 1 := by
    rw [UInt64.le_iff_toNat_le, toNat_saturatingAdd64]
    change ¬_ ≤ min (last.last.toNat + 1) _
    unfold Apart at h
    omega
  unfold coalesceStep
  rw [List.getLast?_concat]
  simp only [if_neg hsplit]

/-- The ranges `m` are those of `l`, joined where they touch. -/
structure Coalesced (l m : List WordRange) : Prop where
  apart : m.Pairwise Apart
  nonempty : ∀ r ∈ m, r.first ≤ r.last
  covers : ∀ x, Covers m x ↔ Covers l x
  inside : ∀ r ∈ l, ∃ s ∈ m, s.first ≤ r.first ∧ r.last ≤ s.last
  first_mem : ∀ s ∈ m, ∃ r ∈ l, s.first = r.first
  last_mem : ∀ s ∈ m, ∃ r ∈ l, s.last = r.last
  length_le : m.length ≤ l.length
  eq_of_length : m.length = l.length → m = l

section Step

variable {l front : List WordRange} {last r : WordRange}

/-- Joining a range to the last one keeps the ranges coalesced. -/
theorem Coalesced.join (h : Coalesced l (front ++ [last])) (hr : r.first ≤ r.last)
    (htouch : last.last.toNat + 1 = r.first.toNat) :
    Coalesced (l ++ [r]) (front ++ [⟨last.first, r.last⟩]) := by
  have hlast : last ∈ front ++ [last] := by simp
  have hnonempty := h.nonempty last hlast
  obtain ⟨hfront, -, hcross⟩ := List.pairwise_append.1 h.apart
  have hle := h.length_le
  rw [List.length_append, List.length_singleton] at hle
  have hwhole : ∀ x, (⟨last.first, r.last⟩ : WordRange).Holds x ↔ last.Holds x ∨ r.Holds x := by
    intro x
    unfold Holds
    simp only [UInt64.le_iff_toNat_le] at hr hnonempty ⊢
    omega
  refine
    { apart := ?_
      nonempty := fun t ht => ?_
      covers := fun x => ?_
      inside := fun t ht => ?_
      first_mem := fun t ht => ?_
      last_mem := fun t ht => ?_
      length_le := ?_
      eq_of_length := fun heq => ?_ }
  · refine List.pairwise_append.2 ⟨hfront, List.pairwise_singleton _ _, fun t ht u hu => ?_⟩
    rw [List.mem_singleton.1 hu]
    exact hcross t ht last (List.mem_singleton_self _)
  · rcases List.mem_append.1 ht with ht | ht
    · exact h.nonempty t (List.mem_append_left _ ht)
    · rw [List.mem_singleton.1 ht]
      simp only [UInt64.le_iff_toNat_le] at hr hnonempty ⊢
      omega
  · have hcovers := h.covers x
    rw [covers_append, covers_singleton] at hcovers ⊢
    rw [covers_append, covers_singleton, hwhole, ← hcovers, or_assoc]
  · rcases List.mem_append.1 ht with ht | ht
    · obtain ⟨u, hu, hstart, hstop⟩ := h.inside t ht
      rcases List.mem_append.1 hu with hu | hu
      · exact ⟨u, List.mem_append_left _ hu, hstart, hstop⟩
      · rw [List.mem_singleton.1 hu] at hstart hstop
        refine ⟨_, List.mem_append_right _ (List.mem_singleton_self _), hstart, ?_⟩
        simp only [UInt64.le_iff_toNat_le] at hstop hr ⊢
        omega
    · rw [List.mem_singleton.1 ht]
      refine ⟨_, List.mem_append_right _ (List.mem_singleton_self _), ?_, UInt64.le_refl _⟩
      simp only [UInt64.le_iff_toNat_le] at hnonempty ⊢
      omega
  · rcases List.mem_append.1 ht with ht | ht
    · obtain ⟨u, hu, hsame⟩ := h.first_mem t (List.mem_append_left _ ht)
      exact ⟨u, List.mem_append_left _ hu, hsame⟩
    · obtain ⟨u, hu, hsame⟩ := h.first_mem last hlast
      rw [List.mem_singleton.1 ht]
      exact ⟨u, List.mem_append_left _ hu, hsame⟩
  · rcases List.mem_append.1 ht with ht | ht
    · obtain ⟨u, hu, hsame⟩ := h.last_mem t (List.mem_append_left _ ht)
      exact ⟨u, List.mem_append_left _ hu, hsame⟩
    · rw [List.mem_singleton.1 ht]
      exact ⟨r, by simp, rfl⟩
  · simp only [List.length_append, List.length_singleton]
    omega
  · simp only [List.length_append, List.length_singleton] at heq
    omega

/-- A range that is apart from the others keeps the ranges coalesced. -/
theorem Coalesced.push {m : List WordRange} (h : Coalesced l m) (hr : r.first ≤ r.last)
    (hapart : ∀ s ∈ m, s.Apart r) : Coalesced (l ++ [r]) (m ++ [r]) := by
  have hle := h.length_le
  refine
    { apart := ?_
      nonempty := fun t ht => ?_
      covers := fun x => ?_
      inside := fun t ht => ?_
      first_mem := fun t ht => ?_
      last_mem := fun t ht => ?_
      length_le := ?_
      eq_of_length := fun heq => ?_ }
  · refine List.pairwise_append.2 ⟨h.apart, List.pairwise_singleton _ _, fun t ht u hu => ?_⟩
    rw [List.mem_singleton.1 hu]
    exact hapart t ht
  · rcases List.mem_append.1 ht with ht | ht
    · exact h.nonempty t ht
    · rwa [List.mem_singleton.1 ht]
  · rw [covers_append, covers_append, h.covers]
  · rcases List.mem_append.1 ht with ht | ht
    · obtain ⟨u, hu, hstart, hstop⟩ := h.inside t ht
      exact ⟨u, List.mem_append_left _ hu, hstart, hstop⟩
    · exact ⟨t, List.mem_append_right _ ht, UInt64.le_refl _, UInt64.le_refl _⟩
  · rcases List.mem_append.1 ht with ht | ht
    · obtain ⟨u, hu, hsame⟩ := h.first_mem t ht
      exact ⟨u, List.mem_append_left _ hu, hsame⟩
    · exact ⟨t, List.mem_append_right _ ht, rfl⟩
  · rcases List.mem_append.1 ht with ht | ht
    · obtain ⟨u, hu, hsame⟩ := h.last_mem t ht
      exact ⟨u, List.mem_append_left _ hu, hsame⟩
    · exact ⟨t, List.mem_append_right _ ht, rfl⟩
  · simp only [List.length_append, List.length_singleton]
    omega
  · simp only [List.length_append, List.length_singleton, Nat.add_right_cancel_iff] at heq
    rw [h.eq_of_length heq]

/-- One round keeps the ranges coalesced. -/
theorem Coalesced.step {m : List WordRange} (h : Coalesced l m) (hr : r.first ≤ r.last)
    (hbefore : ∀ s ∈ l, s.Before r) : Coalesced (l ++ [r]) (coalesceStep m r) := by
  rcases List.eq_nil_or_concat m with rfl | ⟨front, last, hm⟩
  · exact h.push hr (fun s hs => by cases hs)
  · rw [List.concat_eq_append] at hm
    subst hm
    have hlast : last ∈ front ++ [last] := by simp
    obtain ⟨s, hs, hsLast⟩ := h.last_mem last hlast
    have hbelow : last.last.toNat < r.first.toNat := hsLast ▸ hbefore s hs
    have hnonempty := UInt64.le_iff_toNat_le.1 (h.nonempty last hlast)
    obtain ⟨-, -, hcross⟩ := List.pairwise_append.1 h.apart
    by_cases htouch : last.last.toNat + 1 = r.first.toNat
    · rw [coalesceStep_touching htouch hr]
      exact h.join hr htouch
    · have hapart : last.last.toNat + 1 < r.first.toNat := by omega
      rw [coalesceStep_apart hapart]
      refine h.push hr fun t ht => ?_
      rcases List.mem_append.1 ht with ht | ht
      · have hgap : t.last.toNat + 1 < last.first.toNat :=
          hcross t ht last (List.mem_singleton_self _)
        unfold Apart
        omega
      · rwa [List.mem_singleton.1 ht]

end Step

/-- **Coalescing** disjoint ranges in order. -/
theorem coalesced_coalesce {l : List WordRange} (hne : ∀ r ∈ l, r.first ≤ r.last)
    (hl : l.Pairwise Before) : Coalesced l (coalesce l) := by
  induction l using List.reverseRecOn with
  | nil => exact ⟨List.Pairwise.nil, by simp [coalesce], fun x => Iff.rfl, by simp, by simp [coalesce],
      by simp [coalesce], le_rfl, fun _ => rfl⟩
  | append_singleton l r ih =>
    obtain ⟨hfront, -, hcross⟩ := List.pairwise_append.1 hl
    rw [coalesce_concat]
    exact (ih (fun s hs => hne s (List.mem_append_left _ hs)) hfront).step
      (hne r (by simp)) fun s hs => hcross s hs r (List.mem_singleton_self _)

/-- Ranges that are apart are left as they are. -/
theorem coalesce_eq_self {l : List WordRange} (hl : l.Pairwise Apart) : coalesce l = l := by
  induction l using List.reverseRecOn with
  | nil => rfl
  | append_singleton l r ih =>
    obtain ⟨hfront, -, hcross⟩ := List.pairwise_append.1 hl
    rw [coalesce_concat, ih hfront]
    rcases List.eq_nil_or_concat l with rfl | ⟨front, last, hl⟩
    · rfl
    · rw [List.concat_eq_append] at hl
      subst hl
      exact coalesceStep_apart (hcross last (by simp) r (List.mem_singleton_self _))

end WordRange

end Machine
