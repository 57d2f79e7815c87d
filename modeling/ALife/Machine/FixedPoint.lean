/-
# Fixed-point numbers from binary32

`(x * n).round() as i32` for a small integer `n`: the product is rounded to the 24
bits of a mantissa, ties to even, and then to an integer, ties away from zero.  A
value is `significand * 2 ^ (ulpExponent - 149)`.
-/

import ALife.Machine.Binary32

namespace Machine

namespace F32

/-- The mantissa with its hidden bit. -/
def significand (x : F32) : ℕ :=
  if x.magnitude < 2 ^ 23 then x.magnitude else x.magnitude % 2 ^ 23 + 2 ^ 23

/-- The exponent of the last place, counted from `-149`. -/
def ulpExponent (x : F32) : ℕ := x.magnitude / 2 ^ 23 - 1

/-- `x.clamp(lo, hi)`. -/
def clamp (x lo hi : F32) : F32 := if lt x lo then lo else if lt hi x then hi else x

/-- `p / 2 ^ s` rounded to nearest, ties to even. -/
def roundShift (p s : ℕ) : ℕ :=
  p / 2 ^ s + if 2 ^ s < 2 * (p % 2 ^ s) ∨ 2 ^ s = 2 * (p % 2 ^ s) ∧ p / 2 ^ s % 2 = 1 then 1 else 0

/-- `(x * n as f32).round() as i32`, for a finite `x` and `n < 2 ^ 24`. -/
def mulRound (x : F32) (n : ℕ) : ℤ :=
  let product := x.significand * n
  let shift := product.log2 + 1 - 24
  let mantissa := roundShift product shift
  let exponent := shift + x.ulpExponent
  let rounded :=
    if 149 ≤ exponent then mantissa * 2 ^ (exponent - 149)
    else (2 * mantissa + 2 ^ (149 - exponent)) / 2 ^ (150 - exponent)
  if x.isSignNegative then -(rounded : ℤ) else rounded

/-- One half is rounded away from zero. -/
example : mulRound ⟨0x3F000000⟩ 32767 = 16384 ∧ mulRound ⟨0xBF800000⟩ 32767 = -32767 ∧
    mulRound ⟨0x00000001⟩ 32767 = 0 := by decide

end F32

end Machine
