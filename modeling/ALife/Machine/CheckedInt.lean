/-
# Signed machine arithmetic that may overflow

A program's signed integers are integers in the range of their width; `checked`
answers the overflow where an operation leaves it.  `Avoids e x Q` says that the
computation `x` never answers the error `e`, and that what it returns satisfies
`Q`: the rules below carry it through a computation, so that a program is free
of overflow as soon as each of its operations is in range.
-/

import Mathlib.Tactic

namespace Machine

/-- The integers of `w` bits, signed. -/
def InSigned (w : ℕ) (v : ℤ) : Prop := -2 ^ (w - 1) ≤ v ∧ v < 2 ^ (w - 1)

instance (w : ℕ) (v : ℤ) : Decidable (InSigned w v) := inferInstanceAs (Decidable (_ ∧ _))

variable {ε α β σ : Type}

/-- The value of a signed operation of `w` bits, or its overflow. -/
def checked (overflow : ε) (w : ℕ) (v : ℤ) : Except ε ℤ :=
  if InSigned w v then .ok v else .error overflow

/-- The computation never answers `e`, and what it returns satisfies `Q`. -/
def Avoids (e : ε) (x : Except ε α) (Q : α → Prop) : Prop :=
  match x with
  | .ok a => Q a
  | .error e' => e' ≠ e

variable {e : ε} {x : Except ε α} {Q Q' : α → Prop}

theorem Avoids.ne_error (h : Avoids e x Q) : x ≠ .error e := by
  rintro rfl
  exact h rfl

theorem Avoids.of_eq_ok (h : Avoids e x Q) {a : α} (hx : x = .ok a) : Q a := by
  rw [hx] at h
  exact h

theorem avoids_iff : Avoids e x Q ↔ x ≠ .error e ∧ ∀ a, x = .ok a → Q a := by
  refine ⟨fun h => ⟨h.ne_error, fun a => h.of_eq_ok⟩, fun ⟨hne, hok⟩ => ?_⟩
  cases x with
  | ok a => exact hok a rfl
  | error e' => exact fun heq => hne (congrArg _ heq)

theorem Avoids.mono (h : Avoids e x Q) (hQ : ∀ a, Q a → Q' a) : Avoids e x Q' :=
  avoids_iff.2 ⟨h.ne_error, fun a ha => hQ a (h.of_eq_ok ha)⟩

theorem avoids_ok {a : α} (h : Q a) : Avoids e (.ok a) Q := h

theorem avoids_error {e' : ε} (h : e' ≠ e) : Avoids e (.error e' : Except ε α) Q := h

theorem avoids_checked {w : ℕ} {v : ℤ} (h : InSigned w v) : Avoids e (checked e w v) (· = v) := by
  rw [checked, if_pos h]
  exact avoids_ok rfl

/-- What a computation returned is handed to the next. -/
theorem Avoids.bind {f : α → Except ε β} {R : β → Prop} (h : Avoids e x Q)
    (hf : ∀ a, Q a → Avoids e (f a) R) : Avoids e (x >>= f) R := by
  cases x with
  | ok a => exact hf a h
  | error e' => exact h

/-- A loop that keeps an invariant avoids the error when its steps do. -/
theorem Avoids.foldlM {f : σ → α → Except ε σ} {I : σ → Prop} {l : List α} {s : σ} (hs : I s)
    (hf : ∀ s, I s → ∀ a ∈ l, Avoids e (f s a) I) : Avoids e (l.foldlM f s) I := by
  induction l generalizing s with
  | nil => exact avoids_ok hs
  | cons a l ih =>
    rw [List.foldlM_cons]
    exact (hf s hs a List.mem_cons_self).bind fun t ht =>
      ih ht fun u hu b hb => hf u hu b (List.mem_cons_of_mem a hb)

/-- The results of a call on each element stand to the elements as the call promises. -/
theorem Avoids.mapM {f : α → Except ε β} {R : α → β → Prop} {l : List α}
    (hf : ∀ a ∈ l, Avoids e (f a) (R a)) : Avoids e (l.mapM f) fun bs => List.Forall₂ R l bs := by
  induction l with
  | nil => exact avoids_ok .nil
  | cons a l ih =>
    rw [List.mapM_cons]
    refine (hf a List.mem_cons_self).bind fun b hb => ?_
    refine (ih fun a' ha' => hf a' (List.mem_cons_of_mem a ha')).bind fun bs hbs => ?_
    exact avoids_ok (.cons hb hbs)

end Machine
