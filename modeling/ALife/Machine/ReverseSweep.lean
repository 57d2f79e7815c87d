/-
# The reverse sweep

A run goes through states `x₀, x₁, …`.  Its reverse sweep keeps a row for each
state and a gradient of the parameters; it visits the steps from the last to the
first, and at each adds to the row before the step, and to the gradient, what the
step makes of the row behind it.

Read each row through its pairing with the tangent of its state, and the gradient
through its pairing with the tangent of the parameters.  A step of the sweep that
is the transpose of the tangent of the forward step only moves the value of the
row behind it (`HandsBack`), so the sweep collects in the first row and in the
gradient what the rows held in sum at its start (`sweep_duality`).
-/

import ALife.Machine.Accumulation
import Mathlib.Tactic.Abel

namespace Machine

open scoped BigOperators

variable {σ R : Type*} [AddCommMonoid R]

/-- Step `k` of a sweep hands the value of row `k + 1` to row `k` and to the
parameters, and touches no other row. -/
structure HandsBack (row : σ → ℕ → R) (params : σ → R) (step : σ → ℕ → σ) (k : ℕ) : Prop where
  other : ∀ s j, j ≠ k → row (step s k) j = row s j
  handed : ∀ s, row (step s k) k + params (step s k) = row s k + row s (k + 1) + params s

/-- The steps `start, …, start + len - 1`, the last one first. -/
def sweep (step : σ → ℕ → σ) (start len : ℕ) (s : σ) : σ :=
  (List.range' start len).reverse.foldl step s

theorem sweep_succ (step : σ → ℕ → σ) (start len : ℕ) (s : σ) :
    sweep step start (len + 1) s = sweep step start len (step s (start + len)) := by
  unfold sweep
  rw [List.range'_1_concat, List.reverse_concat, List.foldl_cons]

/-- What no step of a sweep changes. -/
theorem sweep_keeps {β : Type*} {π : σ → β} {step : σ → ℕ → σ} (h : ∀ s k, π (step s k) = π s)
    (start len : ℕ) (s : σ) : π (sweep step start len s) = π s := by
  induction len generalizing s with
  | zero => rfl
  | succ len ih => rw [sweep_succ, ih, h]

/-- **A sweep collects the values of all rows in the first row and the parameters.** -/
theorem sweep_duality {row : σ → ℕ → R} {params : σ → R} {step : σ → ℕ → σ} {start len : ℕ}
    (h : ∀ k, start ≤ k → k < start + len → HandsBack row params step k) (s : σ) :
    row (sweep step start len s) start + params (sweep step start len s)
      = (∑ j ∈ Finset.range (len + 1), row s (start + j)) + params s := by
  induction len generalizing s with
  | zero => simp [sweep]
  | succ len ih =>
    have hlast := h (start + len) (by omega) (by omega)
    have hothers : ∑ j ∈ Finset.range len, row (step s (start + len)) (start + j)
        = ∑ j ∈ Finset.range len, row s (start + j) := by
      refine Finset.sum_congr rfl fun j hj => hlast.other s _ ?_
      have := Finset.mem_range.1 hj
      omega
    calc row (sweep step start (len + 1) s) start + params (sweep step start (len + 1) s)
        = (∑ j ∈ Finset.range (len + 1), row (step s (start + len)) (start + j))
            + params (step s (start + len)) := by
          rw [sweep_succ, ih fun k hk hk' => h k hk (by omega)]
      _ = (∑ j ∈ Finset.range len, row s (start + j))
            + (row (step s (start + len)) (start + len) + params (step s (start + len))) := by
          rw [Finset.sum_range_succ, hothers, add_assoc]
      _ = (∑ j ∈ Finset.range len, row s (start + j))
            + (row s (start + len) + row s (start + len + 1) + params s) := by
          rw [hlast.handed]
      _ = (∑ j ∈ Finset.range (len + 1 + 1), row s (start + j)) + params s := by
          rw [Finset.sum_range_succ _ (len + 1), Finset.sum_range_succ _ len, ← add_assoc start]
          abel

end Machine
