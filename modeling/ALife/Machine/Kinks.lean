/-
# Derivatives of functions with a kink

`max(0)`, `clamp(lo, hi)` and the two squashing functions, each with the
derivative that a program reads off the value it has computed: a rectifier is
open where its argument is positive, a clamp where its argument is inside
(`hasDerivAt_max_zero`, `hasDerivAt_clamp`).  At the kink there is none, so each
statement leaves that point out; a clamp between equal bounds is constant and has no
kink (`clamp_self`).  A sum that a loop adds up is derived term by term
(`hasDerivAt_list_sum`).
-/

import Mathlib

namespace Machine

variable {R : Type*} [LinearOrder R]

/-- `x.clamp(lo, hi)`. -/
def clamp (x lo hi : R) : R := if x < lo then lo else if hi < x then hi else x

theorem clamp_of_lt {x lo hi : R} (h : x < lo) : clamp x lo hi = lo := if_pos h

theorem clamp_of_mem {x lo hi : R} (hlo : lo ≤ x) (hhi : x ≤ hi) : clamp x lo hi = x := by
  rw [clamp, if_neg (not_lt.2 hlo), if_neg (not_lt.2 hhi)]

theorem clamp_of_gt {x lo hi : R} (hlohi : lo ≤ hi) (h : hi < x) : clamp x lo hi = hi := by
  rw [clamp, if_neg (not_lt.2 (hlohi.trans h.le)), if_pos h]

theorem clamp_self (x c : R) : clamp x c c = c := by
  rcases lt_or_ge x c with h | h
  · exact clamp_of_lt h
  rcases h.eq_or_lt with rfl | h
  · exact clamp_of_mem le_rfl le_rfl
  · exact clamp_of_gt le_rfl h

theorem hasDerivAt_list_sum {ι : Type*} {f : ι → ℝ → ℝ} {f' : ι → ℝ} {x : ℝ} {l : List ι}
    (h : ∀ i ∈ l, HasDerivAt (f i) (f' i) x) :
    HasDerivAt (fun y => (l.map fun i => f i y).sum) (l.map f').sum x := by
  induction l with
  | nil => simpa using hasDerivAt_const x (0 : ℝ)
  | cons i l ih =>
    rw [List.forall_mem_cons] at h
    simpa using h.1.fun_add (ih h.2)

theorem hasDerivAt_tanh (x : ℝ) : HasDerivAt Real.tanh (1 - Real.tanh x * Real.tanh x) x := by
  have hcosh : Real.cosh x ≠ 0 := (Real.cosh_pos x).ne'
  have hquotient := (Real.hasDerivAt_sinh x).div (Real.hasDerivAt_cosh x) hcosh
  have hfun : Real.tanh = Real.sinh / Real.cosh := funext Real.tanh_eq_sinh_div_cosh
  have hderiv : (Real.cosh x * Real.cosh x - Real.sinh x * Real.sinh x) / Real.cosh x ^ 2
      = 1 - Real.tanh x * Real.tanh x := by
    rw [Real.tanh_eq_sinh_div_cosh]
    field_simp
  rw [hfun]
  exact (hquotient.congr_deriv hderiv).congr_deriv (by rw [← hfun])

theorem hasDerivAt_max_zero {x : ℝ} (hx : x ≠ 0) :
    HasDerivAt (fun y : ℝ => max y 0) (if 0 < x then 1 else 0) x := by
  rcases hx.lt_or_gt with h | h
  · rw [if_neg h.not_gt]
    refine (hasDerivAt_const x (0 : ℝ)).congr_of_eventuallyEq ?_
    filter_upwards [eventually_lt_nhds h] with y hy using max_eq_right hy.le
  · rw [if_pos h]
    refine (hasDerivAt_id x).congr_of_eventuallyEq ?_
    filter_upwards [eventually_gt_nhds h] with y hy using max_eq_left hy.le

theorem hasDerivAt_clamp {x lo hi : ℝ} (hlohi : lo ≤ hi) (hx : lo ≠ hi → x ≠ lo ∧ x ≠ hi) :
    HasDerivAt (fun y : ℝ => clamp y lo hi) (if lo < x ∧ x < hi then 1 else 0) x := by
  rcases hlohi.eq_or_lt with rfl | hlt
  · rw [if_neg fun hin => lt_asymm hin.1 hin.2]
    simpa only [clamp_self] using hasDerivAt_const x lo
  obtain ⟨hlo, hhi⟩ := hx hlt.ne
  rcases hlo.lt_or_gt with h | h
  · rw [if_neg fun hin => hin.1.not_gt h]
    refine (hasDerivAt_const x lo).congr_of_eventuallyEq ?_
    filter_upwards [eventually_lt_nhds h] with y hy using clamp_of_lt hy
  rcases hhi.lt_or_gt with h' | h'
  · rw [if_pos ⟨h, h'⟩]
    refine (hasDerivAt_id x).congr_of_eventuallyEq ?_
    filter_upwards [eventually_gt_nhds h, eventually_lt_nhds h'] with y hy hy'
      using clamp_of_mem hy.le hy'.le
  · rw [if_neg fun hin => hin.2.not_gt h']
    refine (hasDerivAt_const x hi).congr_of_eventuallyEq ?_
    filter_upwards [eventually_gt_nhds h'] with y hy using clamp_of_gt hlohi hy

/-- The logistic function, with the derivative read off its value. -/
theorem hasDerivAt_logistic (x : ℝ) :
    HasDerivAt (fun y : ℝ => 1 / (1 + Real.exp (-y)))
      (1 / (1 + Real.exp (-x)) * (1 - 1 / (1 + Real.exp (-x)))) x := by
  have hne : 1 + Real.exp (-x) ≠ 0 := by positivity
  have hexp : HasDerivAt (fun y : ℝ => 1 + Real.exp (-y)) (-Real.exp (-x)) x := by
    simpa using ((hasDerivAt_neg x).exp).const_add 1
  have hderiv : -(-Real.exp (-x)) / (1 + Real.exp (-x)) ^ 2
      = 1 / (1 + Real.exp (-x)) * (1 - 1 / (1 + Real.exp (-x))) := by
    field_simp
    ring
  refine ((hexp.fun_inv hne).congr_deriv hderiv).congr_of_eventuallyEq ?_
  exact Filter.Eventually.of_forall fun y => one_div _

end Machine
