/-
# Machine sums over the natural numbers

The counters of a program are natural numbers below a power of two; `checkedAdd`
and `checkedMul` answer nothing where the machine operation would overflow.
-/

import Mathlib.Tactic

namespace Machine

/-- `checked_add` of two numbers of `w` bits. -/
def checkedAdd (w a b : ℕ) : Option ℕ := if a + b < 2 ^ w then some (a + b) else none

/-- `checked_mul` of two numbers of `w` bits. -/
def checkedMul (w a b : ℕ) : Option ℕ := if a * b < 2 ^ w then some (a * b) else none

/-- `checked_sub`. -/
def checkedSub (a b : ℕ) : Option ℕ := if b ≤ a then some (a - b) else none

/-- `checked_shl` of a number of `w` bits: the high bits are lost. -/
def checkedShl (w a k : ℕ) : Option ℕ := if k < w then some (a * 2 ^ k % 2 ^ w) else none

/-- `a / b`, where a zero divisor is a panic. -/
def checkedDiv (a b : ℕ) : Option ℕ := if b = 0 then none else some (a / b)

/-- `a % b`, where a zero divisor is a panic. -/
def checkedRem (a b : ℕ) : Option ℕ := if b = 0 then none else some (a % b)

/-- `saturating_mul` of two numbers of `w` bits. -/
def saturatingMul (w a b : ℕ) : ℕ := min (a * b) (2 ^ w - 1)

variable {w a b c : ℕ}

@[simp] theorem checkedAdd_eq_some_iff : checkedAdd w a b = some c ↔ a + b = c ∧ c < 2 ^ w := by
  unfold checkedAdd
  split_ifs with h <;> simp only [Option.some.injEq, reduceCtorEq, false_iff, not_and, not_lt]
  · exact ⟨fun e => ⟨e, e ▸ h⟩, And.left⟩
  · rintro rfl
    omega

@[simp] theorem checkedMul_eq_some_iff : checkedMul w a b = some c ↔ a * b = c ∧ c < 2 ^ w := by
  unfold checkedMul
  split_ifs with h <;> simp only [Option.some.injEq, reduceCtorEq, false_iff, not_and, not_lt]
  · exact ⟨fun e => ⟨e, e ▸ h⟩, And.left⟩
  · rintro rfl
    omega

theorem checkedDiv_of_pos (h : 0 < b) : checkedDiv a b = some (a / b) := if_neg h.ne'

theorem checkedRem_of_pos (h : 0 < b) : checkedRem a b = some (a % b) := if_neg h.ne'

theorem checkedAdd_of_lt (h : a + b < 2 ^ w) : checkedAdd w a b = some (a + b) := if_pos h

theorem checkedMul_of_lt (h : a * b < 2 ^ w) : checkedMul w a b = some (a * b) := if_pos h

/-- A loop of steps that never panic. -/
theorem mapM_eq_some_map {α β : Type} {f : α → Option β} {g : α → β} {l : List α}
    (h : ∀ x ∈ l, f x = some (g x)) : l.mapM f = some (l.map g) := by
  induction l with
  | nil => rfl
  | cons x l ih =>
    rw [List.mapM_cons, h x List.mem_cons_self, ih fun y hy => h y (List.mem_cons_of_mem x hy)]
    rfl

/-- A shift that loses no bits is a product. -/
theorem checkedShl_eq_some {k : ℕ} (hk : k < w) (h : a * 2 ^ k < 2 ^ w) :
    checkedShl w a k = some (a * 2 ^ k) := by
  rw [checkedShl, if_pos hk, Nat.mod_eq_of_lt h]

@[simp] theorem checkedSub_eq_some_iff : checkedSub a b = some c ↔ b + c = a := by
  unfold checkedSub
  split_ifs with h <;> simp only [Option.some.injEq, reduceCtorEq, false_iff]
  · omega
  · omega

end Machine
