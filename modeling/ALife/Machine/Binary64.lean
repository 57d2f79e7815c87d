/-
# Binary64 values by their bit pattern

As `F32`, for the 64 bits of an IEEE-754 binary64 value: finiteness, the sign
and equality need no rounding.
-/

import Mathlib.Tactic

namespace Machine

/-- An IEEE-754 binary64 value, as its 64 bits. -/
structure F64 where
  bits : UInt64
  deriving DecidableEq, Repr

namespace F64

/-- The low 63 bits: exponent and mantissa. -/
def magnitude (x : F64) : ℕ := x.bits.toNat % 2 ^ 63

/-- The sign bit, `is_sign_negative`. -/
def isSignNegative (x : F64) : Bool := 2 ^ 63 ≤ x.bits.toNat

/-- `is_finite`: the exponent is not all ones. -/
def isFinite (x : F64) : Bool := x.magnitude < 0x7FF0000000000000

/-- `is_nan`: the exponent is all ones and the mantissa is not zero. -/
def isNan (x : F64) : Bool := 0x7FF0000000000000 < x.magnitude

/-- The sign-magnitude integer of the bits, monotone in the value. -/
def key (x : F64) : ℤ := if x.isSignNegative then -(x.magnitude : ℤ) else x.magnitude

/-- The comparison `a == b`, `PartialEq` of the floats. -/
def feq (a b : F64) : Bool := !a.isNan && !b.isNan && decide (a.key = b.key)

/-- Zero with a positive sign. -/
def zero : F64 := ⟨0⟩

end F64

end Machine
