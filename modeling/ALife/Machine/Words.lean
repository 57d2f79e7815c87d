/-
# Words in halves

A 64-bit word split into two 32-bit halves and joined again, and a 32-bit word
carrying two 16-bit halves.  Each splitting is the inverse of its joining, read
bit by bit.
-/

import Mathlib.Tactic

namespace Machine

/-- A 64-bit word from its low and high halves. -/
def joinHalves64 (lo hi : UInt32) : UInt64 := lo.toUInt64 ||| (hi.toUInt64 <<< 32)

/-- The low half of a 64-bit word. -/
def lowHalf64 (v : UInt64) : UInt32 := v.toUInt32

/-- The high half of a 64-bit word. -/
def highHalf64 (v : UInt64) : UInt32 := (v >>> 32).toUInt32

/-- A 32-bit word from its low and high halves. -/
def joinHalves32 (lo hi : UInt16) : UInt32 := lo.toUInt32 ||| (hi.toUInt32 <<< 16)

/-- The low half of a 32-bit word. -/
def lowHalf32 (v : UInt32) : UInt16 := v.toUInt16

/-- The high half of a 32-bit word. -/
def highHalf32 (v : UInt32) : UInt16 := (v >>> 16).toUInt16

theorem toNat_joinHalves64 (lo hi : UInt32) :
    (joinHalves64 lo hi).toNat = 2 ^ 32 * hi.toNat + lo.toNat := by
  have hhi := hi.toNat_lt
  rw [joinHalves64, UInt64.toNat_or, UInt64.toNat_shiftLeft, UInt32.toNat_toUInt64,
    UInt32.toNat_toUInt64, show (32 : UInt64).toNat % 64 = 32 from rfl, Nat.shiftLeft_eq,
    Nat.mod_eq_of_lt (by omega), Nat.or_comm, Nat.mul_comm,
    ← Nat.two_pow_add_eq_or_of_lt lo.toNat_lt]

theorem toNat_lowHalf64 (v : UInt64) : (lowHalf64 v).toNat = v.toNat % 2 ^ 32 :=
  UInt64.toNat_toUInt32 v

theorem toNat_highHalf64 (v : UInt64) : (highHalf64 v).toNat = v.toNat / 2 ^ 32 := by
  have hv := v.toNat_lt
  rw [highHalf64, UInt64.toNat_toUInt32, UInt64.toNat_shiftRight,
    show (32 : UInt64).toNat % 64 = 32 from rfl, Nat.shiftRight_eq_div_pow]
  omega

@[simp] theorem joinHalves64_split (v : UInt64) :
    joinHalves64 (lowHalf64 v) (highHalf64 v) = v := by
  rw [← UInt64.toNat_inj, toNat_joinHalves64, toNat_lowHalf64, toNat_highHalf64]
  omega

@[simp] theorem lowHalf64_join (lo hi : UInt32) : lowHalf64 (joinHalves64 lo hi) = lo := by
  have hlo := lo.toNat_lt
  rw [← UInt32.toNat_inj, toNat_lowHalf64, toNat_joinHalves64]
  omega

@[simp] theorem highHalf64_join (lo hi : UInt32) : highHalf64 (joinHalves64 lo hi) = hi := by
  have hlo := lo.toNat_lt
  rw [← UInt32.toNat_inj, toNat_highHalf64, toNat_joinHalves64]
  omega

theorem toNat_joinHalves32 (lo hi : UInt16) :
    (joinHalves32 lo hi).toNat = 2 ^ 16 * hi.toNat + lo.toNat := by
  have hhi := hi.toNat_lt
  rw [joinHalves32, UInt32.toNat_or, UInt32.toNat_shiftLeft, UInt16.toNat_toUInt32,
    UInt16.toNat_toUInt32, show (16 : UInt32).toNat % 32 = 16 from rfl, Nat.shiftLeft_eq,
    Nat.mod_eq_of_lt (by omega), Nat.or_comm, Nat.mul_comm,
    ← Nat.two_pow_add_eq_or_of_lt lo.toNat_lt]

theorem toNat_lowHalf32 (v : UInt32) : (lowHalf32 v).toNat = v.toNat % 2 ^ 16 :=
  UInt32.toNat_toUInt16 v

theorem toNat_highHalf32 (v : UInt32) : (highHalf32 v).toNat = v.toNat / 2 ^ 16 := by
  have hv := v.toNat_lt
  rw [highHalf32, UInt32.toNat_toUInt16, UInt32.toNat_shiftRight,
    show (16 : UInt32).toNat % 32 = 16 from rfl, Nat.shiftRight_eq_div_pow]
  omega

@[simp] theorem joinHalves32_split (v : UInt32) :
    joinHalves32 (lowHalf32 v) (highHalf32 v) = v := by
  rw [← UInt32.toNat_inj, toNat_joinHalves32, toNat_lowHalf32, toNat_highHalf32]
  omega

@[simp] theorem lowHalf32_join (lo hi : UInt16) : lowHalf32 (joinHalves32 lo hi) = lo := by
  have hlo := lo.toNat_lt
  rw [← UInt16.toNat_inj, toNat_lowHalf32, toNat_joinHalves32]
  omega

@[simp] theorem highHalf32_join (lo hi : UInt16) : highHalf32 (joinHalves32 lo hi) = hi := by
  have hlo := lo.toNat_lt
  rw [← UInt16.toNat_inj, toNat_highHalf32, toNat_joinHalves32]
  omega

end Machine
