/-
# Fixed-width counters

The checked and saturating additions of Rust's unsigned integers, over Lean's
own `UInt32` and `UInt64`.  Everything is stated through `toNat`, where
`omega` decides: a checked addition returns the exact sum or nothing
(`checkedAdd64_eq_some_iff`), a saturating one the exact sum cut at the largest
value (`toNat_saturatingAdd64`, `toNat_saturatingAdd32`).
-/

import Mathlib.Tactic

namespace Machine

/-- The sum when it fits in 64 bits, `none` when it does not. -/
def checkedAdd64 (a b : UInt64) : Option UInt64 :=
  if a.toNat + b.toNat < 2 ^ 64 then some (a + b) else none

/-- The sum when it fits in 32 bits, `none` when it does not. -/
def checkedAdd32 (a b : UInt32) : Option UInt32 :=
  if a.toNat + b.toNat < 2 ^ 32 then some (a + b) else none

/-- The product when it fits in 32 bits, `none` when it does not. -/
def checkedMul32 (a b : UInt32) : Option UInt32 :=
  if a.toNat * b.toNat < 2 ^ 32 then some (a * b) else none

/-- The sum cut at `u64::MAX`. -/
def saturatingAdd64 (a b : UInt64) : UInt64 :=
  if a.toNat + b.toNat < 2 ^ 64 then a + b else 0xFFFFFFFFFFFFFFFF

/-- The sum cut at `u32::MAX`. -/
def saturatingAdd32 (a b : UInt32) : UInt32 :=
  if a.toNat + b.toNat < 2 ^ 32 then a + b else 0xFFFFFFFF

/-- The difference cut at zero. -/
def saturatingSub64 (a b : UInt64) : UInt64 :=
  if b ≤ a then a - b else 0

/-- The difference when it is not negative. -/
def checkedSub32 (a b : UInt32) : Option UInt32 := if b ≤ a then some (a - b) else none

/-- `u64::try_from` of a wider number. -/
def tryFrom64 (n : ℕ) : Option UInt64 := if n < 2 ^ 64 then some n.toUInt64 else none

/-- `u32::try_from` of a wider number. -/
def tryFrom32 (n : ℕ) : Option UInt32 := if n < 2 ^ 32 then some n.toUInt32 else none

theorem tryFrom64_eq_some_iff {n : ℕ} {v : UInt64} : tryFrom64 n = some v ↔ v.toNat = n := by
  unfold tryFrom64
  split_ifs with h
  · rw [Option.some.injEq, ← UInt64.toNat_inj, UInt64.toNat_ofNat_of_lt' h, eq_comm]
  · have := v.toNat_lt
    simp
    omega

theorem tryFrom32_eq_some_iff {n : ℕ} {v : UInt32} : tryFrom32 n = some v ↔ v.toNat = n := by
  unfold tryFrom32
  split_ifs with h
  · rw [Option.some.injEq, ← UInt32.toNat_inj, UInt32.toNat_ofNat_of_lt' h, eq_comm]
  · have := v.toNat_lt
    simp
    omega

theorem checkedSub32_eq_some_iff {a b c : UInt32} :
    checkedSub32 a b = some c ↔ b.toNat + c.toNat = a.toNat := by
  unfold checkedSub32
  split_ifs with h
  · have hsub := UInt32.toNat_sub_of_le _ _ h
    rw [UInt32.le_iff_toNat_le] at h
    rw [Option.some.injEq, ← UInt32.toNat_inj, hsub]
    omega
  · rw [UInt32.le_iff_toNat_le] at h
    simp
    omega

theorem toNat_add_of_lt64 {a b : UInt64} (h : a.toNat + b.toNat < 2 ^ 64) :
    (a + b).toNat = a.toNat + b.toNat := by
  rw [UInt64.toNat_add, Nat.mod_eq_of_lt h]

theorem toNat_add_of_lt32 {a b : UInt32} (h : a.toNat + b.toNat < 2 ^ 32) :
    (a + b).toNat = a.toNat + b.toNat := by
  rw [UInt32.toNat_add, Nat.mod_eq_of_lt h]

theorem checkedAdd64_eq_some_iff {a b c : UInt64} :
    checkedAdd64 a b = some c ↔ c.toNat = a.toNat + b.toNat := by
  unfold checkedAdd64
  split_ifs with h
  · rw [Option.some.injEq, ← UInt64.toNat_inj, toNat_add_of_lt64 h, eq_comm]
  · have := c.toNat_lt
    constructor
    · intro hc
      cases hc
    · intro hc
      omega

theorem checkedAdd32_eq_some_iff {a b c : UInt32} :
    checkedAdd32 a b = some c ↔ c.toNat = a.toNat + b.toNat := by
  unfold checkedAdd32
  split_ifs with h
  · rw [Option.some.injEq, ← UInt32.toNat_inj, toNat_add_of_lt32 h, eq_comm]
  · have := c.toNat_lt
    simp
    omega

theorem checkedMul32_eq_some_iff {a b c : UInt32} :
    checkedMul32 a b = some c ↔ c.toNat = a.toNat * b.toNat := by
  unfold checkedMul32
  split_ifs with h
  · rw [Option.some.injEq, ← UInt32.toNat_inj, UInt32.toNat_mul, Nat.mod_eq_of_lt h, eq_comm]
  · have := c.toNat_lt
    simp
    omega

theorem checkedAdd64_eq_none_iff {a b : UInt64} :
    checkedAdd64 a b = none ↔ 2 ^ 64 ≤ a.toNat + b.toNat := by
  unfold checkedAdd64
  split_ifs with h <;> simp <;> omega

theorem toNat_saturatingAdd64 (a b : UInt64) :
    (saturatingAdd64 a b).toNat = min (a.toNat + b.toNat) (2 ^ 64 - 1) := by
  unfold saturatingAdd64
  split_ifs with h
  · rw [toNat_add_of_lt64 h]
    omega
  · change 2 ^ 64 - 1 = _
    omega

theorem toNat_saturatingAdd32 (a b : UInt32) :
    (saturatingAdd32 a b).toNat = min (a.toNat + b.toNat) (2 ^ 32 - 1) := by
  unfold saturatingAdd32
  split_ifs with h
  · rw [toNat_add_of_lt32 h]
    omega
  · change 2 ^ 32 - 1 = _
    omega

theorem toNat_saturatingSub64 (a b : UInt64) :
    (saturatingSub64 a b).toNat = a.toNat - b.toNat := by
  unfold saturatingSub64
  split_ifs with h
  · exact UInt64.toNat_sub_of_le _ _ h
  · rw [UInt64.le_iff_toNat_le] at h
    change 0 = _
    omega

end Machine
