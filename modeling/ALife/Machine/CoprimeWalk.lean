/-
# Walks with a coprime step

A walk around `n` places with a step coprime to `n` comes to every place once
before it returns (`walk_injective`, `exists_walk_eq`).  Programs find such a
step by trying: from an odd start they add two until the step is coprime
(`coprimeSearch`).  The search always ends (`coprimeSearch_spec`): the place
before the end is coprime to an even `n`, the one before that to an odd one.
-/

import Mathlib.Tactic

namespace Machine

/-- The `i`-th place of a walk around `n` places. -/
def walk (n start step i : ℕ) : ℕ := (start + i * step) % n

theorem walk_lt {n start step i : ℕ} (hn : 0 < n) : walk n start step i < n := Nat.mod_lt _ hn

theorem walk_injective {n start step i j : ℕ} (h : step.Coprime n) (hi : i < n) (hj : j < n)
    (heq : walk n start step i = walk n start step j) : i = j := by
  have hsum : start + i * step ≡ start + j * step [MOD n] := heq
  have hproduct : i * step ≡ j * step [MOD n] := Nat.ModEq.add_left_cancel' start hsum
  exact (Nat.ModEq.cancel_right_of_coprime h.symm hproduct).eq_of_lt_of_lt hi hj

/-- Every place is on the way. -/
theorem exists_walk_eq {n start step place : ℕ} (h : step.Coprime n) (hplace : place < n) :
    ∃ i < n, walk n start step i = place := by
  have hn : 0 < n := by omega
  let f : Fin n → Fin n := fun i => ⟨walk n start step i, walk_lt hn⟩
  have hinjective : Function.Injective f := fun i j hij =>
    Fin.ext (walk_injective h i.2 j.2 (Fin.mk.inj hij))
  obtain ⟨i, hi⟩ := Finite.surjective_of_injective hinjective ⟨place, hplace⟩
  exact ⟨i, i.2, congrArg Fin.val hi⟩

/-- Euclid's loop: `while b != 0 { (a, b) = (b, a % b) }`. -/
def gcdLoop (a b : ℕ) : ℕ := if b = 0 then a else gcdLoop b (a % b)
termination_by b
decreasing_by exact Nat.mod_lt _ (by omega)

theorem gcdLoop_eq (a b : ℕ) : gcdLoop a b = Nat.gcd a b := by
  fun_induction gcdLoop a b with
  | case1 a => rw [Nat.gcd_zero_right]
  | case2 a b hb ih => rw [ih, Nat.gcd_comm a b, Nat.gcd_rec b a, Nat.gcd_comm (a % b)]

/-- `while gcd(step, n) != 1 { step = (step + 2) % n; if step == 0 { step = 1 } }`, as long
as there is fuel. -/
def coprimeSearch (n : ℕ) : ℕ → ℕ → Option ℕ
  | 0, _ => none
  | fuel + 1, step =>
    if gcdLoop step n = 1 then some step
    else
      let next := (step + 2) % n
      coprimeSearch n fuel (if next = 0 then 1 else next)

theorem coprimeSearch_of_coprime {n fuel step : ℕ} (hfuel : 0 < fuel) (h : step.Coprime n) :
    coprimeSearch n fuel step = some step := by
  obtain ⟨fuel, rfl⟩ := Nat.exists_eq_succ_of_ne_zero hfuel.ne'
  rw [coprimeSearch, if_pos (by rwa [gcdLoop_eq])]

theorem coprimeSearch_of_not_coprime {n fuel step : ℕ} (h : ¬step.Coprime n)
    (hnext : (step + 2) % n ≠ 0) :
    coprimeSearch n (fuel + 1) step = coprimeSearch n fuel ((step + 2) % n) := by
  rw [coprimeSearch, if_neg (by rwa [gcdLoop_eq])]
  dsimp only
  rw [if_neg hnext]

/-- A search that ended ends so with more fuel. -/
theorem coprimeSearch_mono {n fuel more step found : ℕ} (hle : fuel ≤ more)
    (h : coprimeSearch n fuel step = some found) : coprimeSearch n more step = some found := by
  induction fuel generalizing step more with
  | zero => exact absurd h (by simp [coprimeSearch])
  | succ fuel ih =>
    obtain ⟨more, rfl⟩ := Nat.exists_eq_add_of_le' (show 1 ≤ more by omega)
    rw [coprimeSearch] at h ⊢
    split_ifs at h ⊢ with hcoprime
    · exact h
    · exact ih (by omega) h

/-- The place before an odd number of places is two: coprime. -/
theorem coprime_sub_two {n : ℕ} (hodd : n % 2 = 1) (hn : 2 ≤ n) : (n - 2).Coprime n := by
  have hsub : n.Coprime (n - 2) := (Nat.coprime_self_sub_right hn).2 (Nat.coprime_two_right.2
    (Nat.odd_iff.2 hodd))
  exact hsub.symm

/-- **The search ends** at a coprime step that is no greater than `n`, whatever fuel it has
beyond the distance to the end. -/
theorem coprimeSearch_spec {n step fuel : ℕ} (hn : 0 < n) (hodd : step % 2 = 1) (hstep : step ≤ n)
    (hfuel : n - step + 2 ≤ fuel) :
    ∃ found, coprimeSearch n fuel step = some found ∧ found.Coprime n ∧ 0 < found ∧ found ≤ n := by
  induction hd : n - step using Nat.strong_induction_on generalizing step fuel with
  | _ d ih =>
    by_cases hcoprime : step.Coprime n
    · exact ⟨step, coprimeSearch_of_coprime (by omega) hcoprime, hcoprime, by omega, hstep⟩
    · obtain ⟨fuel, rfl⟩ := Nat.exists_eq_add_of_le' (show 1 ≤ fuel by omega)
      by_cases hlt : step + 2 < n
      · -- the next odd step is still below the end
        have hmod : (step + 2) % n = step + 2 := Nat.mod_eq_of_lt hlt
        rw [coprimeSearch_of_not_coprime hcoprime (by omega), hmod]
        exact ih (n - (step + 2)) (by omega) (by omega) (by omega) (by omega) rfl
      · -- only the end itself is left: the steps just before it are coprime
        have hne1 : step ≠ n - 1 := by
          rintro rfl
          refine hcoprime ?_
          have h1 : n.Coprime (n - 1) := (Nat.coprime_self_sub_right (by omega)).2
            (Nat.coprime_one_right n)
          exact h1.symm
        have hne2 : step ≠ n - 2 ∨ n < 2 := by
          by_contra hboth
          push Not at hboth
          obtain ⟨rfl, htwo⟩ := hboth
          exact hcoprime (coprime_sub_two (by omega) htwo)
        have hne : n ≠ 1 := by
          rintro rfl
          exact hcoprime (Nat.coprime_one_right step)
        obtain rfl : step = n := by omega
        have hmod : (step + 2) % step = 2 := by
          rw [Nat.add_mod_left, Nat.mod_eq_of_lt (by omega)]
        have htwo : Nat.Coprime 2 step := Nat.coprime_two_left.2 (Nat.odd_iff.2 hodd)
        rw [coprimeSearch_of_not_coprime hcoprime (by omega), hmod]
        exact ⟨2, coprimeSearch_of_coprime (by omega) htwo, htwo, by omega, by omega⟩

/-- The odd start of the search, `x | 1`. -/
theorem lor_one_eq (x : ℕ) : x ||| 1 = 2 * (x / 2) + 1 := by
  have hsplit := Nat.two_pow_add_eq_or_of_lt (i := 1) (b := x % 2) (by omega) (x / 2)
  have hone := Nat.two_pow_add_eq_or_of_lt (i := 1) (b := 1) (by omega) (x / 2)
  rw [pow_one] at hsplit hone
  have hx : x = 2 * (x / 2) + x % 2 := by omega
  have hbit : x % 2 ||| 1 = 1 := by
    obtain h | h := Nat.mod_two_eq_zero_or_one x <;> rw [h] <;> rfl
  rw [hone]
  conv_lhs => rw [hx, hsplit, Nat.or_assoc, hbit]

/-- **The search from `x % n | 1`** ends. -/
theorem coprimeSearch_lor_one {n fuel : ℕ} (hn : 0 < n) (hfuel : n + 1 ≤ fuel) (x : ℕ) :
    ∃ found, coprimeSearch n fuel (x % n ||| 1) = some found ∧ found.Coprime n ∧ 0 < found ∧
      found ≤ n := by
  have hlt : x % n < n := Nat.mod_lt _ hn
  rw [lor_one_eq]
  exact coprimeSearch_spec hn (by omega) (by omega) (by omega)

end Machine
