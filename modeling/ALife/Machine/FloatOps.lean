/-
# Floating-point arithmetic as it is given

`FloatOps` is the arithmetic of a program's floats with no law at all: what is
proved over it holds for every rounding, and never rests on a sum being
associative.  `RoundedSigns` is what every rounding keeps of signs.  For binary32
floats, order, finiteness and bits are those of the float and the rounded
operations are given (`F32Arithmetic`).  What only compares floats asks for a
`FloatOrder`, which binary32 has without any operation.
-/

import ALife.Machine.Binary32

namespace Machine

/-- The operations of `f32` that a program calls. -/
class FloatOps (F : Type) extends Add F, Sub F, Mul F, Div F, Neg F, Zero F, One F where
  lt : F → F → Bool
  le : F → F → Bool
  /-- `==`. -/
  feq : F → F → Bool
  max : F → F → F
  abs : F → F
  sqrt : F → F
  exp : F → F
  tanh : F → F
  /-- `powf` of an integer. -/
  powf : F → UInt32 → F
  /-- `Iterator::sum`. -/
  sum : List F → F
  isFinite : F → Bool
  toBits : F → UInt32
  /-- A literal of the source, as the quotient of two integers. -/
  literal : ℤ → ℕ → F

export FloatOps (literal)

-- where a field has operations of its own, these come first
attribute [
instance 50] FloatOps.toAdd FloatOps.toSub FloatOps.toMul FloatOps.toDiv FloatOps.toNeg
  FloatOps.toZero FloatOps.toOne

namespace FloatOps

variable {F : Type} [FloatOps F]

/-- `x.clamp(lo, hi)`. -/
def clamp (x lo hi : F) : F := if lt x lo then lo else if lt hi x then hi else x

end FloatOps

/-- The comparisons of `f32` that a check calls. -/
class FloatOrder (F : Type) where
  zero : F
  one : F
  lt : F → F → Bool
  le : F → F → Bool
  /-- `==`. -/
  feq : F → F → Bool
  isFinite : F → Bool

instance (priority := low) floatOrderOfOps {F : Type} [FloatOps F] : FloatOrder F where
  zero := 0
  one := 1
  lt := FloatOps.lt
  le := FloatOps.le
  feq := FloatOps.feq
  isFinite := FloatOps.isFinite

instance : FloatOrder F32 where
  zero := .zero
  one := .one
  lt := F32.lt
  le := F32.le
  feq := F32.feq
  isFinite := F32.isFinite

/-- What rounding keeps of signs, in exact arithmetic and in every arithmetic of the standard: a
comparison with a value that is no number is false, and a product has the sign of its factors. -/
class RoundedSigns (F : Type) [FloatOps F] : Prop where
  not_lt_of_le : ∀ a : F, FloatOps.le 0 a = true → FloatOps.lt a 0 = false
  add_nonneg : ∀ a b : F, FloatOps.lt a 0 = false → FloatOps.lt b 0 = false →
    FloatOps.lt (a + b) 0 = false
  mul_nonneg : ∀ a b : F, FloatOps.lt a 0 = false → FloatOps.lt b 0 = false →
    FloatOps.lt (a * b) 0 = false
  mul_square : ∀ a b : F, FloatOps.lt a 0 = false → FloatOps.lt (a * b * b) 0 = false
  one_sub : ∀ a : F, FloatOps.lt a 1 = true → FloatOps.lt (1 - a) 0 = false
  zero_eq : FloatOps.feq (0 : F) 0 = true
  zero_finite : FloatOps.isFinite (0 : F) = true
  zero_nonneg : FloatOps.lt (0 : F) 0 = false
  /-- `1.0e-4` and its opposite. -/
  tenThousandth_finite : FloatOps.isFinite (literal 1 10000 : F) = true
  neg_tenThousandth_finite : FloatOps.isFinite (literal (-1) 10000 : F) = true
  tenThousandth_pos : FloatOps.lt (literal 1 10000 : F) 0 = false
  neg_tenThousandth_neg : FloatOps.le 0 (literal (-1) 10000 : F) = false

/-- Exact arithmetic; functions that leave the rationals stand as their first-order terms. -/
instance : FloatOps ℚ where
  lt a b := decide (a < b)
  le a b := decide (a ≤ b)
  feq a b := decide (a = b)
  max := max
  abs a := |a|
  sqrt := Rat.sqrt
  exp a := 1 + a
  tanh a := a
  powf a n := a ^ n.toNat
  sum := List.sum
  isFinite _ := true
  toBits a := a.num.natAbs.toUInt32
  literal n d := n / d

instance : RoundedSigns ℚ where
  not_lt_of_le a h := by
    simp only [FloatOps.lt, FloatOps.le, decide_eq_true_eq, decide_eq_false_iff_not, not_lt] at h ⊢
    exact h
  add_nonneg a b ha hb := by
    simp only [FloatOps.lt, decide_eq_false_iff_not, not_lt] at ha hb ⊢
    exact add_nonneg ha hb
  mul_nonneg a b ha hb := by
    simp only [FloatOps.lt, decide_eq_false_iff_not, not_lt] at ha hb ⊢
    exact mul_nonneg ha hb
  mul_square a b ha := by
    simp only [FloatOps.lt, decide_eq_false_iff_not, not_lt] at ha ⊢
    rw [mul_assoc]
    exact mul_nonneg ha (mul_self_nonneg b)
  one_sub a ha := by
    simp only [FloatOps.lt, decide_eq_true_eq, decide_eq_false_iff_not, not_lt] at ha ⊢
    exact sub_nonneg.2 ha.le
  zero_eq := rfl
  zero_finite := rfl
  zero_nonneg := rfl
  tenThousandth_finite := rfl
  neg_tenThousandth_finite := rfl
  tenThousandth_pos := by
    simp only [FloatOps.lt, literal, decide_eq_false_iff_not, not_lt]
    norm_num
  neg_tenThousandth_neg := by
    simp only [FloatOps.le, literal, decide_eq_false_iff_not, not_le]
    norm_num

/-! ### Binary32 floats -/

/-- The operations of `f32` that round. -/
class F32Arithmetic where
  add : F32 → F32 → F32
  sub : F32 → F32 → F32
  mul : F32 → F32 → F32
  div : F32 → F32 → F32
  neg : F32 → F32
  max : F32 → F32 → F32
  abs : F32 → F32
  sqrt : F32 → F32
  exp : F32 → F32
  tanh : F32 → F32
  powf : F32 → UInt32 → F32
  sum : List F32 → F32
  literal : ℤ → ℕ → F32

instance [A : F32Arithmetic] : FloatOps F32 where
  add := A.add
  sub := A.sub
  mul := A.mul
  div := A.div
  neg := A.neg
  zero := .zero
  one := .one
  lt := F32.lt
  le := F32.le
  feq := F32.feq
  max := A.max
  abs := A.abs
  sqrt := A.sqrt
  exp := A.exp
  tanh := A.tanh
  powf := A.powf
  sum := A.sum
  isFinite := F32.isFinite
  toBits x := x.bits
  literal := A.literal

end Machine
