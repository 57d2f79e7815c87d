/-
# The number a binary32 float stands for

The exact rational of a finite float: a magnitude below the infinities is an
exponent of eight bits over a mantissa of twenty-three.  A right shift rounds
such a number up when a lost bit adds one (`ceil_div_two_pow`), and to the nearest
when half a unit is added first (`floor_half_up_div_two_pow`).
-/

import ALife.Machine.Binary32

namespace Machine

/-- The quotient, one more when bits were lost. -/
theorem ceil_div_two_pow (a shift : ℕ) :
    ⌈(a : ℚ) / 2 ^ shift⌉ = ((a / 2 ^ shift + if a % 2 ^ shift ≠ 0 then 1 else 0 : ℕ) : ℤ) := by
  have hpos : (0 : ℚ) < 2 ^ shift := by positivity
  have hsplit : (2 : ℚ) ^ shift * (a / 2 ^ shift : ℕ) + (a % 2 ^ shift : ℕ) = a := by
    exact_mod_cast Nat.div_add_mod a (2 ^ shift)
  have hlt : ((a % 2 ^ shift : ℕ) : ℚ) < 2 ^ shift := by
    exact_mod_cast Nat.mod_lt a (Nat.two_pow_pos shift)
  rw [Int.ceil_eq_iff, lt_div_iff₀ hpos, div_le_iff₀ hpos, Int.cast_natCast]
  generalize a / 2 ^ shift = quotient at hsplit ⊢
  generalize a % 2 ^ shift = rest at hsplit hlt ⊢
  split_ifs with hlost
  · have hrest : (1 : ℚ) ≤ rest := by exact_mod_cast Nat.one_le_iff_ne_zero.2 hlost
    push_cast
    constructor <;> nlinarith
  · obtain rfl := not_not.1 hlost
    push_cast at hsplit ⊢
    constructor <;> nlinarith

/-- The nearest integer, halves up. -/
theorem floor_half_up_div_two_pow {a shift : ℕ} (hshift : 0 < shift) :
    ⌊(a : ℚ) / 2 ^ shift + 1 / 2⌋ = (((a + 2 ^ (shift - 1)) / 2 ^ shift : ℕ) : ℤ) := by
  obtain ⟨k, rfl⟩ := Nat.exists_eq_add_of_le' hshift
  have hhalf : (a : ℚ) / 2 ^ (k + 1) + 1 / 2 = ((a + 2 ^ k : ℕ) : ℚ) / ((2 ^ (k + 1) : ℕ) : ℚ) := by
    push_cast
    rw [pow_succ]
    field_simp
  rw [hhalf, Nat.add_sub_cancel, Int.floor_div_natCast, Int.floor_natCast, Int.natCast_ediv]

namespace F32

/-- The exponent bits. -/
def exponentBits (x : F32) : ℕ := x.magnitude / 2 ^ 23

/-- The mantissa bits. -/
def mantissaBits (x : F32) : ℕ := x.magnitude % 2 ^ 23

/-- The value without its sign, in units of `2 ^ -149`. -/
def ulps (x : F32) : ℕ :=
  if x.exponentBits = 0 then x.mantissaBits
  else (2 ^ 23 + x.mantissaBits) * 2 ^ (x.exponentBits - 1)

/-- The exact value of a finite float. -/
def value (x : F32) : ℚ :=
  (if x.isSignNegative then -1 else 1) * x.ulps / 2 ^ 149

theorem ulps_le_of_magnitude {x : F32} (h : x.magnitude ≤ 0x3F800000) : x.ulps ≤ 2 ^ 149 := by
  have hexponent : x.exponentBits ≤ 127 := by
    unfold exponentBits
    omega
  have hmantissa : x.mantissaBits < 2 ^ 23 := Nat.mod_lt _ (by norm_num)
  unfold ulps
  split_ifs with hzero
  · exact hmantissa.le.trans (by norm_num)
  · obtain hlt | heq := hexponent.lt_or_eq
    · have hpow : 2 ^ (x.exponentBits - 1) ≤ 2 ^ 125 := Nat.pow_le_pow_right (by norm_num) (by omega)
      calc (2 ^ 23 + x.mantissaBits) * 2 ^ (x.exponentBits - 1)
          ≤ 2 ^ 24 * 2 ^ 125 := Nat.mul_le_mul (by omega) hpow
        _ = 2 ^ 149 := by norm_num
    · -- the largest exponent leaves no mantissa
      have hmantissa : x.mantissaBits = 0 := by
        unfold mantissaBits exponentBits at *
        omega
      rw [heq, hmantissa]
      norm_num

/-- A float of the unit interval is a number of it. -/
theorem value_mem_unit {x : F32} (h : inRange zero one x = true) : 0 ≤ x.value ∧ x.value ≤ 1 := by
  have hlow : 0 ≤ x.key := by
    simp only [inRange, le, Bool.and_eq_true, decide_eq_true_eq] at h
    exact h.1.2
  have hhigh : x.key ≤ 0x3F800000 := by
    simp only [inRange, le, Bool.and_eq_true, decide_eq_true_eq] at h
    exact h.2.2
  have hmagnitude : x.magnitude ≤ 0x3F800000 := by
    unfold key at hlow hhigh
    split_ifs at hlow hhigh <;> omega
  have hulps := ulps_le_of_magnitude hmagnitude
  have hscaled : (x.ulps : ℚ) / 2 ^ 149 ≤ 1 := by
    rw [div_le_one (by positivity)]
    exact_mod_cast hulps
  unfold value
  split_ifs with hsign
  · -- a negative zero
    have hzero : x.magnitude = 0 := by
      unfold key at hlow
      rw [if_pos hsign] at hlow
      omega
    have hulps : x.ulps = 0 := by
      simp [ulps, exponentBits, mantissaBits, hzero]
    rw [hulps]
    norm_num
  · rw [one_mul]
    exact ⟨by positivity, hscaled⟩

/-- A half, and the largest number below one. -/
example : value ⟨0x3F000000⟩ = 1 / 2 ∧ value ⟨0x3F7FFFFF⟩ = 1 - 1 / 2 ^ 24 := by
  decide +kernel

end F32

end Machine
