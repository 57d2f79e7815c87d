/-
# Mixing steps are bijective

The steps of a SplitMix64 finalizer on 64-bit words: adding a constant, xoring a
word with itself shifted to the right, multiplying by an odd constant.  Each is
injective, and so is every composition of them.
-/

import Mathlib.Tactic

namespace Machine

/-- `x ^ (x >> k)`. -/
def xorShiftRight (k x : UInt64) : UInt64 := x ^^^ (x >>> k)

/-- A word equal to its own shift is zero. -/
theorem eq_zero_of_shiftRight_eq {k x : UInt64} (hk : k.toNat % 64 ≠ 0) (h : x >>> k = x) :
    x = 0 := by
  have hnat : x.toNat / 2 ^ (k.toNat % 64) = x.toNat := by
    rw [← Nat.shiftRight_eq_div_pow, ← UInt64.toNat_shiftRight, h]
  have hpow : 2 ≤ 2 ^ (k.toNat % 64) := Nat.le_self_pow hk 2
  have hzero : x.toNat = 0 := by
    by_contra hne
    have hlt := Nat.div_lt_self (Nat.pos_of_ne_zero hne) hpow
    omega
  exact UInt64.toNat_inj.1 hzero

theorem xorShiftRight_injective {k : UInt64} (hk : k.toNat % 64 ≠ 0) :
    Function.Injective (xorShiftRight k) := by
  intro x y h
  -- the difference of two words with one image equals its own shift
  have hshift : (x ^^^ y) >>> k = x ^^^ y := by
    unfold xorShiftRight at h
    rw [UInt64.shiftRight_xor]
    have hxor : x ^^^ x >>> k ^^^ (y ^^^ y >>> k) = 0 := by rw [h, UInt64.xor_self]
    have hregroup : x ^^^ x >>> k ^^^ (y ^^^ y >>> k) = x >>> k ^^^ y >>> k ^^^ (x ^^^ y) := by
      ac_rfl
    rw [hregroup] at hxor
    exact UInt64.xor_eq_zero_iff.1 hxor
  exact UInt64.xor_eq_zero_iff.1 (eq_zero_of_shiftRight_eq hk hshift)

/-- Multiplying by a word with an inverse. -/
theorem mul_injective_of_inverse {c c' : UInt64} (h : c * c' = 1) :
    Function.Injective (· * c) := by
  intro x y hxy
  have hcancel (z : UInt64) : z * c * c' = z := by rw [UInt64.mul_assoc, h, UInt64.mul_one]
  rw [← hcancel x, ← hcancel y]
  exact congrArg (· * c') hxy

theorem add_injective (c : UInt64) : Function.Injective (· + c) := fun _ _ h =>
  UInt64.add_right_inj c |>.1 (by simpa [UInt64.add_comm] using h)

theorem xor_injective (c : UInt64) : Function.Injective (c ^^^ ·) := by
  intro x y h
  exact UInt64.xor_right_inj c |>.1 h

end Machine
