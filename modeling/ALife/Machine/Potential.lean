/-
# What a run pays for

`total w s is` adds up a weight of the steps of a run.  When every step that
costs something takes it from a potential, and what the potential gains is
bought, the run costs at most the potential it starts with and what it gained
(`total_add_le`).  A tally is the total of an indicator.
-/

import ALife.Machine.Runs

namespace Machine

variable {σ ι M : Type*} {step : σ → ι → σ}

section Total

variable [AddCommMonoid M]

/-- The sum of `w` over the steps of the run. -/
def total (step : σ → ι → σ) (w : σ → ι → M) : σ → List ι → M
  | _, [] => 0
  | s, i :: is => w s i + total step w (step s i) is

@[simp] theorem total_nil (w : σ → ι → M) (s : σ) : total step w s [] = 0 := rfl

theorem total_cons (w : σ → ι → M) (s : σ) (i : ι) (is : List ι) :
    total step w s (i :: is) = w s i + total step w (step s i) is := rfl

theorem total_zero (s : σ) (is : List ι) : total step (fun _ _ => (0 : M)) s is = 0 := by
  induction is generalizing s with
  | nil => rfl
  | cons i is ih => rw [total_cons, ih, add_zero]

/-- The number of steps of the run that satisfy `p`. -/
def tally (step : σ → ι → σ) (p : σ → ι → Prop) [∀ s i, Decidable (p s i)] (s : σ) (is : List ι) :
    ℕ :=
  total step (fun s i => if p s i then 1 else 0) s is

theorem tally_cons (p : σ → ι → Prop) [∀ s i, Decidable (p s i)] (s : σ) (i : ι) (is : List ι) :
    tally step p s (i :: is) = (if p s i then 1 else 0) + tally step p (step s i) is := rfl

/-- Steps that do not satisfy `p` are not counted. -/
theorem tally_eq_zero {p : σ → ι → Prop} [∀ s i, Decidable (p s i)] {s : σ} {is : List ι}
    (h : Along step (fun s i => ¬p s i) s is) : tally step p s is = 0 := by
  induction is generalizing s with
  | nil => rfl
  | cons i is ih => rw [tally_cons, if_neg h.1, ih h.2]

end Total

/-- **The potential pays.**  Where every step takes its cost from the potential
or from what it gains, the costs of a run are at most the first potential and
the gains. -/
theorem total_add_le [AddCommMonoid M] [PartialOrder M] [IsOrderedAddMonoid M]
    {I : σ → Prop} {φ : σ → M} {cost gain : σ → ι → M}
    (hstep : ∀ s i, I s → I (step s i) ∧ φ (step s i) + cost s i ≤ φ s + gain s i)
    {s : σ} (hs : I s) (is : List ι) :
    φ (is.foldl step s) + total step cost s is ≤ φ s + total step gain s is := by
  induction is generalizing s with
  | nil => exact le_rfl
  | cons i is ih =>
    obtain ⟨hnext, hpay⟩ := hstep s i hs
    calc φ ((i :: is).foldl step s) + total step cost s (i :: is)
        = φ (is.foldl step (step s i)) + total step cost (step s i) is + cost s i := by
          rw [total_cons, List.foldl_cons, add_comm (cost s i), add_assoc]
      _ ≤ φ (step s i) + total step gain (step s i) is + cost s i :=
          add_le_add_left (ih hnext) _
      _ = φ (step s i) + cost s i + total step gain (step s i) is := by
          rw [add_right_comm]
      _ ≤ φ s + gain s i + total step gain (step s i) is := by gcongr
      _ = φ s + total step gain s (i :: is) := by rw [total_cons, add_assoc]

/-- A potential that gains nothing pays for the whole run. -/
theorem total_add_le_of_le [AddCommMonoid M] [PartialOrder M] [IsOrderedAddMonoid M]
    {I : σ → Prop} {φ : σ → M} {cost : σ → ι → M}
    (hstep : ∀ s i, I s → I (step s i) ∧ φ (step s i) + cost s i ≤ φ s)
    {s : σ} (hs : I s) (is : List ι) : φ (is.foldl step s) + total step cost s is ≤ φ s := by
  have hpays : φ (is.foldl step s) + total step cost s is ≤
      φ s + total step (fun _ _ => 0) s is :=
    total_add_le (fun s i h => ⟨(hstep s i h).1, by rw [add_zero]; exact (hstep s i h).2⟩) hs is
  rwa [total_zero, add_zero] at hpays

/-- A constant weight of the steps that satisfy `p` adds up to their number times it. -/
theorem total_indicator {R : Type*} [Semiring R] (c : R) (p : σ → ι → Prop)
    [∀ s i, Decidable (p s i)] (s : σ) (is : List ι) :
    total step (fun s i => if p s i then c else 0) s is = tally step p s is * c := by
  induction is generalizing s with
  | nil => simp [tally]
  | cons i is ih =>
    rw [total_cons, ih, tally_cons]
    by_cases h : p s i <;> simp [h, add_mul]

end Machine
