/-
# Choices by weights

A walk over weights that takes the first entry whose cumulated weight is above a
target: the interval of that entry, as long as its weight, holds the target
(`pickFrom_spec`).

Softmax: the probabilities `exp (x i / T)` over their sum, their logarithms and
their entropy, over the reals.  A shift of all values changes none of them
(`softmax_shift`, `logSoftmax_shift`), which is why a program may take the
maximum away first.  Along a differentiable curve of values each of the three has
the derivative that a gradient step uses (`hasDerivAt_logSoftmax`,
`hasDerivAt_softmax`, `hasDerivAt_softEntropy`).

A first choice, and under it one choice for each of several slots, independent of
one another: log probabilities add up.  The probabilities of all outcomes sum to
one (`sum_exp_jointLog`), and the mean log probability is that of the first choice
and the means of the slots under it (`sum_exp_mul_jointLog`).
-/

import Mathlib

namespace Machine

section Cumulated

variable {α R : Type*} [AddCommMonoid R] [LinearOrder R]

/-- The first entry whose cumulated weight is above the target, `last` where there is none. -/
def pickFrom (weight : α → R) (target : R) : R → α → List α → α
  | _, last, [] => last
  | cumulative, last, a :: l =>
    if target < cumulative + weight a then a
    else pickFrom weight target (cumulative + weight a) last l

variable {weight : α → R} {target : R} {l : List α}

/-- **A target below the sum** is in the interval of the entry that the walk takes. -/
theorem pickFrom_spec {cumulative : R} (last : α) (hlow : cumulative ≤ target)
    (hhigh : target < cumulative + (l.map weight).sum) :
    ∃ before after, l = before ++ pickFrom weight target cumulative last l :: after
      ∧ cumulative + (before.map weight).sum ≤ target
      ∧ target < cumulative + (before.map weight).sum
        + weight (pickFrom weight target cumulative last l) := by
  induction l generalizing cumulative with
  | nil =>
    rw [List.map_nil, List.sum_nil, add_zero] at hhigh
    exact absurd hlow (not_le.2 hhigh)
  | cons a l ih =>
    rw [pickFrom]
    split_ifs with h
    · exact ⟨[], l, rfl, by simpa using hlow, by simpa using h⟩
    · rw [List.map_cons, List.sum_cons, ← add_assoc] at hhigh
      obtain ⟨before, after, hl, hbefore, hafter⟩ := ih (not_lt.1 h) hhigh
      refine ⟨a :: before, after, congrArg (a :: ·) hl, ?_, ?_⟩
      · rwa [List.map_cons, List.sum_cons, ← add_assoc]
      · rwa [List.map_cons, List.sum_cons, ← add_assoc]

theorem pickFrom_map {β : Type*} (f : β → α) (cumulative : R) (last : β) (l : List β) :
    pickFrom weight target cumulative (f last) (l.map f)
      = f (pickFrom (fun b => weight (f b)) target cumulative last l) := by
  induction l generalizing cumulative with
  | nil => rfl
  | cons b l ih =>
    rw [List.map_cons, pickFrom, pickFrom, ih]
    split_ifs <;> rfl

end Cumulated

/-! ### Softmax -/

section Softmax

variable {ι : Type*} {s : Finset ι} {T : ℝ}

/-- The sum of the weights. -/
noncomputable def partitionSum (s : Finset ι) (T : ℝ) (x : ι → ℝ) : ℝ :=
  ∑ i ∈ s, Real.exp (x i / T)

noncomputable def softmax (s : Finset ι) (T : ℝ) (x : ι → ℝ) (i : ι) : ℝ :=
  Real.exp (x i / T) / partitionSum s T x

noncomputable def logSoftmax (s : Finset ι) (T : ℝ) (x : ι → ℝ) (i : ι) : ℝ :=
  x i / T - Real.log (partitionSum s T x)

/-- The entropy of the softmax; none for no choice. -/
noncomputable def softEntropy (s : Finset ι) (T : ℝ) (x : ι → ℝ) : ℝ :=
  -∑ i ∈ s, softmax s T x i * logSoftmax s T x i

section Values

variable {x : ι → ℝ}

theorem partitionSum_pos (hs : s.Nonempty) : 0 < partitionSum s T x :=
  Finset.sum_pos (fun _ _ => Real.exp_pos _) hs

theorem softmax_pos (hs : s.Nonempty) (i : ι) : 0 < softmax s T x i :=
  div_pos (Real.exp_pos _) (partitionSum_pos hs)

theorem sum_softmax (hs : s.Nonempty) : ∑ i ∈ s, softmax s T x i = 1 := by
  unfold softmax
  rw [← Finset.sum_div]
  exact div_self (partitionSum_pos hs).ne'

theorem exp_logSoftmax (hs : s.Nonempty) (i : ι) :
    Real.exp (logSoftmax s T x i) = softmax s T x i := by
  rw [logSoftmax, Real.exp_sub, Real.exp_log (partitionSum_pos hs), softmax]

theorem softmax_le_one (hs : s.Nonempty) {i : ι} (hi : i ∈ s) : softmax s T x i ≤ 1 := by
  rw [← sum_softmax (T := T) (x := x) hs]
  exact Finset.single_le_sum (fun j _ => (softmax_pos hs j).le) hi

theorem logSoftmax_nonpos (hs : s.Nonempty) {i : ι} (hi : i ∈ s) : logSoftmax s T x i ≤ 0 := by
  rw [← Real.exp_le_one_iff, exp_logSoftmax hs]
  exact softmax_le_one hs hi

/-- The weights after a shift of all values. -/
theorem sum_exp_shift (c : ℝ) :
    ∑ i ∈ s, Real.exp ((x i - c) / T) = Real.exp (-(c / T)) * partitionSum s T x := by
  rw [partitionSum, Finset.mul_sum]
  refine Finset.sum_congr rfl fun i _ => ?_
  rw [← Real.exp_add]
  ring_nf

theorem softmax_shift (c : ℝ) (i : ι) :
    Real.exp ((x i - c) / T) / ∑ j ∈ s, Real.exp ((x j - c) / T) = softmax s T x i := by
  have hweight : Real.exp ((x i - c) / T) = Real.exp (-(c / T)) * Real.exp (x i / T) := by
    rw [← Real.exp_add]
    ring_nf
  rw [sum_exp_shift, hweight, softmax, mul_div_mul_left _ _ (Real.exp_pos _).ne']

theorem logSoftmax_shift (hs : s.Nonempty) (c : ℝ) (i : ι) :
    (x i - c) / T - Real.log (∑ j ∈ s, Real.exp ((x j - c) / T)) = logSoftmax s T x i := by
  rw [sum_exp_shift, Real.log_mul (Real.exp_pos _).ne' (partitionSum_pos hs).ne', Real.log_exp,
    logSoftmax]
  ring

end Values

/-! ### Derivatives along a curve -/

section Curve

variable {x : ℝ → ι → ℝ} {v : ι → ℝ} {t : ℝ}

theorem hasDerivAt_partitionSum (hx : ∀ i ∈ s, HasDerivAt (fun t => x t i) (v i) t) :
    HasDerivAt (fun t => partitionSum s T (x t))
      (∑ i ∈ s, Real.exp (x t i / T) * (v i / T)) t := by
  unfold partitionSum
  exact HasDerivAt.fun_sum fun i hi => ((hx i hi).div_const T).exp

/-- The log of the sum moves at the mean of the rates. -/
theorem hasDerivAt_log_partitionSum (hs : s.Nonempty)
    (hx : ∀ i ∈ s, HasDerivAt (fun t => x t i) (v i) t) :
    HasDerivAt (fun t => Real.log (partitionSum s T (x t)))
      (∑ i ∈ s, softmax s T (x t) i * (v i / T)) t := by
  have hlog := (hasDerivAt_partitionSum (T := T) hx).log (partitionSum_pos hs).ne'
  refine hlog.congr_deriv ?_
  rw [Finset.sum_div]
  refine Finset.sum_congr rfl fun i _ => ?_
  rw [softmax]
  ring

theorem hasDerivAt_logSoftmax (hs : s.Nonempty)
    (hx : ∀ i ∈ s, HasDerivAt (fun t => x t i) (v i) t) {i : ι} (hi : i ∈ s) :
    HasDerivAt (fun t => logSoftmax s T (x t) i)
      ((v i - ∑ j ∈ s, softmax s T (x t) j * v j) / T) t := by
  have hlog := hasDerivAt_log_partitionSum (T := T) hs hx
  refine (((hx i hi).div_const T).fun_sub hlog).congr_deriv ?_
  rw [sub_div, Finset.sum_div]
  exact congrArg _ (Finset.sum_congr rfl fun j _ => (mul_div_assoc _ _ _).symm)

theorem hasDerivAt_softmax (hs : s.Nonempty)
    (hx : ∀ i ∈ s, HasDerivAt (fun t => x t i) (v i) t) {i : ι} (hi : i ∈ s) :
    HasDerivAt (fun t => softmax s T (x t) i)
      (softmax s T (x t) i * ((v i - ∑ j ∈ s, softmax s T (x t) j * v j) / T)) t := by
  have hexp := (hasDerivAt_logSoftmax (T := T) hs hx hi).exp
  rw [exp_logSoftmax hs] at hexp
  refine hexp.congr_of_eventuallyEq ?_
  exact Filter.Eventually.of_forall fun t => (exp_logSoftmax hs i).symm

/-- **The entropy along a curve.** -/
theorem hasDerivAt_softEntropy (hs : s.Nonempty)
    (hx : ∀ i ∈ s, HasDerivAt (fun t => x t i) (v i) t) :
    HasDerivAt (fun t => softEntropy s T (x t))
      (-∑ i ∈ s, softmax s T (x t) i * (logSoftmax s T (x t) i + softEntropy s T (x t)) * (v i / T))
      t := by
  set p := softmax s T (x t) with hp
  set lp := logSoftmax s T (x t) with hlp
  set m := ∑ j ∈ s, p j * v j with hm
  have hterms : HasDerivAt (fun t => -∑ i ∈ s, softmax s T (x t) i * logSoftmax s T (x t) i)
      (-∑ i ∈ s, (p i * ((v i - m) / T) * lp i + p i * ((v i - m) / T))) t :=
    (HasDerivAt.fun_sum fun i hi =>
      (hasDerivAt_softmax hs hx hi).fun_mul (hasDerivAt_logSoftmax hs hx hi)).fun_neg
  refine hterms.congr_deriv ?_
  have hone : ∑ i ∈ s, p i = 1 := sum_softmax hs
  have hentropy : softEntropy s T (x t) = -∑ i ∈ s, p i * lp i := rfl
  -- the weighted mean of the centred directions vanishes
  have hcentred : ∑ i ∈ s, p i * ((v i - m) / T) = 0 := by
    have hsum : ∑ i ∈ s, p i * (v i - m) = 0 := by
      simp only [mul_sub, Finset.sum_sub_distrib, ← Finset.sum_mul, hone, one_mul, ← hm, sub_self]
    rw [show (∑ i ∈ s, p i * ((v i - m) / T)) = (∑ i ∈ s, p i * (v i - m)) / T by
      rw [Finset.sum_div]
      exact Finset.sum_congr rfl fun i _ => by ring, hsum, zero_div]
  have hlogs : ∑ i ∈ s, p i * ((v i - m) / T) * lp i
      = ∑ i ∈ s, p i * (lp i + softEntropy s T (x t)) * (v i / T) := by
    have hleft : ∑ i ∈ s, p i * ((v i - m) / T) * lp i
        = ∑ i ∈ s, p i * lp i * (v i / T) - m / T * ∑ i ∈ s, p i * lp i := by
      rw [Finset.mul_sum, ← Finset.sum_sub_distrib]
      exact Finset.sum_congr rfl fun i _ => by ring
    have hright : ∑ i ∈ s, p i * (lp i + softEntropy s T (x t)) * (v i / T)
        = ∑ i ∈ s, p i * lp i * (v i / T) + softEntropy s T (x t) * (m / T) := by
      rw [hm, Finset.sum_div, Finset.mul_sum, ← Finset.sum_add_distrib]
      exact Finset.sum_congr rfl fun i _ => by ring
    rw [hleft, hright, hentropy]
    ring
  rw [Finset.sum_add_distrib, hcentred, add_zero, hlogs]

end Curve

end Softmax

/-! ### A choice and the choices under it -/

section Conditional

variable {ρ κ α : Type*} [Fintype κ] [DecidableEq κ]

/-- The log probability of an outcome. -/
def jointLog (first : ρ → ℝ) (later : ρ → κ → α → ℝ) (x : Σ _ : ρ, κ → α) : ℝ :=
  first x.1 + ∑ k, later x.1 k (x.2 k)

/-- The outcomes. -/
def outcomes (R : Finset ρ) (options : ρ → κ → Finset α) : Finset (Σ _ : ρ, κ → α) :=
  R.sigma fun r => Fintype.piFinset (options r)

section Slots

variable {options : κ → Finset α} {later : κ → α → ℝ}

/-- Independent slots: the weights of all fillings sum to the product of the sums. -/
theorem sum_exp_slots (h : ∀ k, ∑ a ∈ options k, Real.exp (later k a) = 1) :
    ∑ c ∈ Fintype.piFinset options, Real.exp (∑ k, later k (c k)) = 1 := by
  simp only [Real.exp_sum]
  rw [← Finset.prod_univ_sum options fun k a => Real.exp (later k a)]
  exact Finset.prod_eq_one fun k _ => h k

/-- The mean of what one slot alone tells. -/
theorem sum_exp_slots_mul (h : ∀ k, ∑ a ∈ options k, Real.exp (later k a) = 1) (k : κ)
    (g : α → ℝ) :
    ∑ c ∈ Fintype.piFinset options, Real.exp (∑ j, later j (c j)) * g (c k)
      = ∑ a ∈ options k, Real.exp (later k a) * g a := by
  -- the weight of the slot carries the function
  have hterm : ∀ c : κ → α, Real.exp (∑ j, later j (c j)) * g (c k)
      = ∏ j, Real.exp (later j (c j)) * if j = k then g (c j) else 1 := by
    intro c
    rw [Finset.prod_mul_distrib, ← Real.exp_sum, Finset.prod_ite_eq' Finset.univ k fun j => g (c j),
      if_pos (Finset.mem_univ k)]
  calc ∑ c ∈ Fintype.piFinset options, Real.exp (∑ j, later j (c j)) * g (c k)
      = ∑ c ∈ Fintype.piFinset options,
          ∏ j, Real.exp (later j (c j)) * (if j = k then g (c j) else 1) :=
        Finset.sum_congr rfl fun c _ => hterm c
    _ = ∏ j, ∑ a ∈ options j, Real.exp (later j a) * (if j = k then g a else 1) :=
        (Finset.prod_univ_sum options fun j a =>
          Real.exp (later j a) * if j = k then g a else 1).symm
    _ = ∏ j, if j = k then ∑ a ∈ options k, Real.exp (later k a) * g a else 1 := by
        refine Finset.prod_congr rfl fun j _ => ?_
        by_cases hj : j = k
        · subst hj
          simp
        · simp [hj, h j]
    _ = ∑ a ∈ options k, Real.exp (later k a) * g a := by
        rw [Finset.prod_ite_eq' Finset.univ k, if_pos (Finset.mem_univ k)]

end Slots

variable {R : Finset ρ} {options : ρ → κ → Finset α} {first : ρ → ℝ} {later : ρ → κ → α → ℝ}

/-- The weights of all outcomes, choice by choice. -/
theorem sum_exp_outcomes :
    ∑ x ∈ outcomes R options, Real.exp (jointLog first later x)
      = ∑ r ∈ R, Real.exp (first r) * ∏ k, ∑ a ∈ options r k, Real.exp (later r k a) := by
  rw [outcomes, Finset.sum_sigma]
  refine Finset.sum_congr rfl fun r _ => ?_
  simp only [jointLog, Real.exp_add, Real.exp_sum]
  rw [← Finset.mul_sum, ← Finset.prod_univ_sum (options r) fun k a => Real.exp (later r k a)]

/-- **The outcomes are exhaustive**: their probabilities sum to one. -/
theorem sum_exp_jointLog (hfirst : ∑ r ∈ R, Real.exp (first r) = 1)
    (hlater : ∀ r ∈ R, ∀ k, ∑ a ∈ options r k, Real.exp (later r k a) = 1) :
    ∑ x ∈ outcomes R options, Real.exp (jointLog first later x) = 1 := by
  rw [sum_exp_outcomes, ← hfirst]
  refine Finset.sum_congr rfl fun r hr => ?_
  rw [Finset.prod_eq_one fun k _ => hlater r hr k, mul_one]

/-- The outcomes that pass a test of each of their choices. -/
theorem mem_outcomes_filter {p : ρ → Bool} {q : κ → α → Bool} {x : Σ _ : ρ, κ → α} :
    x ∈ outcomes (R.filter fun r => p r = true)
        (fun r k => (options r k).filter fun a => q k a = true)
      ↔ x ∈ outcomes R options ∧ p x.1 = true ∧ ∀ k, q k (x.2 k) = true := by
  simp only [outcomes, Finset.mem_filter, Finset.mem_sigma, Fintype.mem_piFinset]
  constructor
  · rintro ⟨⟨hr, hp⟩, hcq⟩
    exact ⟨⟨hr, fun k => (hcq k).1⟩, hp, fun k => (hcq k).2⟩
  · rintro ⟨⟨hr, hc⟩, hp, hq⟩
    exact ⟨⟨hr, hp⟩, fun k => ⟨hc k, hq k⟩⟩

/-- **The mean log probability** of the outcomes. -/
theorem sum_exp_mul_jointLog (hlater : ∀ r ∈ R, ∀ k, ∑ a ∈ options r k,
      Real.exp (later r k a) = 1) :
    ∑ x ∈ outcomes R options, Real.exp (jointLog first later x) * jointLog first later x
      = ∑ r ∈ R, Real.exp (first r)
        * (first r + ∑ k, ∑ a ∈ options r k, Real.exp (later r k a) * later r k a) := by
  rw [outcomes, Finset.sum_sigma]
  refine Finset.sum_congr rfl fun r hr => ?_
  have hterm : ∀ c : κ → α, Real.exp (jointLog first later ⟨r, c⟩) * jointLog first later ⟨r, c⟩
      = Real.exp (first r) * (first r * Real.exp (∑ k, later r k (c k))
        + ∑ k, Real.exp (∑ j, later r j (c j)) * later r k (c k)) := by
    intro c
    rw [jointLog, Real.exp_add, ← Finset.mul_sum]
    ring
  rw [Finset.sum_congr rfl fun c _ => hterm c, ← Finset.mul_sum, Finset.sum_add_distrib,
    ← Finset.mul_sum, sum_exp_slots (hlater r hr), mul_one, Finset.sum_comm]
  exact congrArg _ (congrArg _ (Finset.sum_congr rfl fun k _ =>
    sum_exp_slots_mul (hlater r hr) k (later r k)))

end Conditional

end Machine
