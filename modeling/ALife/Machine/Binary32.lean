/-
# Binary32 values by their bit pattern

An `F32` is an IEEE-754 binary32 value given by its 32 bits.  Defined here are
finiteness, the sign bit, equality and order, and one rounded operation, the
quotient of two small integers (`ofQuotient`).  A value that is not a NaN is
compared through `key`, the sign-magnitude reading of its bits as an integer:
`key` is monotone in the value, it sends both zeros to `0`, and so `feq`
identifies them while Lean's `=` on `F32` does not.
-/

import Mathlib.Tactic

namespace Machine

/-- An IEEE-754 binary32 value, as its 32 bits. -/
structure F32 where
  bits : UInt32
  deriving DecidableEq, Repr

namespace F32

/-- The low 31 bits: exponent and mantissa. -/
def magnitude (x : F32) : ℕ := x.bits.toNat % 2 ^ 31

/-- The sign bit, `is_sign_negative`. -/
def isSignNegative (x : F32) : Bool := 2 ^ 31 ≤ x.bits.toNat

/-- `is_finite`: the exponent is not all ones. -/
def isFinite (x : F32) : Bool := x.magnitude < 0x7F800000

/-- `is_nan`: the exponent is all ones and the mantissa is not zero. -/
def isNan (x : F32) : Bool := 0x7F800000 < x.magnitude

/-- The sign-magnitude integer of the bits, monotone in the value. -/
def key (x : F32) : ℤ := if x.isSignNegative then -(x.magnitude : ℤ) else x.magnitude

/-- The comparison `a <= b`: false as soon as one side is a NaN. -/
def le (a b : F32) : Bool := !a.isNan && !b.isNan && decide (a.key ≤ b.key)

/-- The comparison `a < b`. -/
def lt (a b : F32) : Bool := !a.isNan && !b.isNan && decide (a.key < b.key)

/-- The comparison `a == b`, `PartialEq` of the floats: the two zeros are
equal and a NaN equals nothing. -/
def feq (a b : F32) : Bool := !a.isNan && !b.isNan && decide (a.key = b.key)

/-- The range test `(lo..=hi).contains(&x)`. -/
def inRange (lo hi x : F32) : Bool := le lo x && le x hi

/-- Zero with a positive sign. -/
def zero : F32 := ⟨0⟩

/-- Zero with a negative sign. -/
def negZero : F32 := ⟨0x80000000⟩

/-- The value one. -/
def one : F32 := ⟨0x3F800000⟩

/-- The value minus one. -/
def negOne : F32 := ⟨0xBF800000⟩

/-- The two zeros are equal as floats and different as bits. -/
example : feq zero negZero = true ∧ zero ≠ negZero := by decide

/-! ### Quotients of small integers -/

/-- The least shift that brings `n` up to `d`. -/
def quotientShift (n d : ℕ) : ℕ := if d ≤ n then 0 else Nat.log2 ((d - 1) / n) + 1

/-- `n / d` scaled into the 24 bits of a mantissa and rounded to nearest, ties to even. -/
def quotientMantissa (n d : ℕ) : ℕ :=
  let scaled := n * 2 ^ (23 + quotientShift n d)
  scaled / d + if d < 2 * (scaled % d) ∨ d = 2 * (scaled % d) ∧ scaled / d % 2 = 1 then 1 else 0

/-- `n as f32 / d as f32` for integers `n ≤ d < 2 ^ 24`: both operands are exact, and the
quotient is zero or normal.  A mantissa rounded up to `2 ^ 24` carries into the exponent. -/
def ofQuotient (n d : ℕ) : F32 :=
  if n = 0 then zero
  else ⟨UInt32.ofNat ((126 - quotientShift n d) * 2 ^ 23 + quotientMantissa n d)⟩

/-- The quarter, and the third rounded up. -/
example : ofQuotient 1 4 = ⟨0x3E800000⟩ ∧ ofQuotient 1 3 = ⟨0x3EAAAAAB⟩ := by decide

theorem quotientShift_spec {n d : ℕ} (hn : 0 < n) (hnd : n ≤ d) (hd : d < 2 ^ 24) :
    quotientShift n d ≤ 24 ∧ n * 2 ^ quotientShift n d < 2 * d := by
  unfold quotientShift
  split_ifs with h
  · omega
  · have hpos : (d - 1) / n ≠ 0 := (Nat.div_pos (by omega) hn).ne'
    have hlow : 2 ^ ((d - 1) / n).log2 ≤ (d - 1) / n := Nat.log2_self_le hpos
    have hhigh : ((d - 1) / n).log2 < 24 :=
      (Nat.log2_lt hpos).2 ((Nat.div_le_self _ _).trans_lt (by omega))
    have hmul : n * 2 ^ ((d - 1) / n).log2 ≤ d - 1 :=
      (Nat.mul_le_mul_left n hlow).trans (Nat.mul_div_le (d - 1) n)
    have hdouble : n * 2 ^ (((d - 1) / n).log2 + 1) = 2 * (n * 2 ^ ((d - 1) / n).log2) := by ring
    omega

theorem quotientMantissa_le {n d : ℕ} (hn : 0 < n) (hnd : n ≤ d) (hd : d < 2 ^ 24) :
    quotientMantissa n d ≤ 2 ^ 24 := by
  have hlt := (quotientShift_spec hn hnd hd).2
  have hscaled : n * 2 ^ (23 + quotientShift n d) < d * 2 ^ 24 := by
    have heq : n * 2 ^ (23 + quotientShift n d) = 2 ^ 23 * (n * 2 ^ quotientShift n d) := by ring
    omega
  have hdiv : n * 2 ^ (23 + quotientShift n d) / d < 2 ^ 24 := Nat.div_lt_of_lt_mul hscaled
  simp only [quotientMantissa]
  split_ifs <;> omega

/-- The key of a quotient with a positive numerator lies strictly between zero and the
infinities. -/
theorem key_ofQuotient {n d : ℕ} (hn : 0 < n) (hnd : n ≤ d) (hd : d < 2 ^ 24) :
    (ofQuotient n d).isFinite = true ∧ (ofQuotient n d).isNan = false ∧
      0 < (ofQuotient n d).key := by
  have hshift := (quotientShift_spec hn hnd hd).1
  have hmantissa := quotientMantissa_le hn hnd hd
  have hbits : (ofQuotient n d).bits.toNat =
      (126 - quotientShift n d) * 2 ^ 23 + quotientMantissa n d := by
    rw [ofQuotient, if_neg hn.ne', UInt32.toNat_ofNat_of_lt' (by rw [UInt32.size]; omega)]
  have hsign : (ofQuotient n d).isSignNegative = false := by
    unfold isSignNegative
    rw [hbits, decide_eq_false_iff_not]
    omega
  have hmag : (ofQuotient n d).magnitude =
      (126 - quotientShift n d) * 2 ^ 23 + quotientMantissa n d := by
    unfold magnitude
    rw [hbits, Nat.mod_eq_of_lt (by omega)]
  refine ⟨?_, ?_, ?_⟩
  · simp only [isFinite, hmag, decide_eq_true_eq]
    omega
  · simp only [isNan, hmag, decide_eq_false_iff_not]
    omega
  · simp only [key, hsign, hmag]
    rw [if_neg Bool.false_ne_true]
    omega

end F32

end Machine
