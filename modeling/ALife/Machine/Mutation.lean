/-
# Methods that mutate and may fail

A Rust method `fn f(&mut self, ..) -> Result<A, E>` is an `EStateM E S A`: it
returns a value or an error, and in both cases the state as the body left it.
`?` is the bind, so whatever was assigned before an early return stays
assigned.  This file has the evaluation rules of such bodies (the `_apply`
lemmas, true by definition), the lift of a pure fallible call
(`ofResult`), and the two inversions used everywhere: what a body that
succeeded did, and what one that failed did (`bind_eq_ok_iff`,
`bind_eq_error_iff`).
-/

import Mathlib.Tactic

namespace Machine

variable {ε σ α β : Type}

/-- A pure fallible call inside a mutating method: `expr?`. -/
def ofResult (e : Except ε α) : EStateM ε σ α := fun s =>
  match e with
  | .ok a => .ok a s
  | .error err => .error err s

/-- The state a call leaves behind, whether it succeeded or not. -/
def stateAfter : EStateM.Result ε σ α → σ
  | .ok _ s => s
  | .error _ s => s

/-- The call returned `Ok`. -/
def isOk : EStateM.Result ε σ α → Bool
  | .ok _ _ => true
  | .error _ _ => false

/-- What the call returned. -/
def resultOf : EStateM.Result ε σ α → Except ε α
  | .ok a _ => .ok a
  | .error e _ => .error e

@[simp] theorem stateAfter_ok (a : α) (s : σ) :
    stateAfter (.ok a s : EStateM.Result ε σ α) = s := rfl

@[simp] theorem stateAfter_error (e : ε) (s : σ) :
    stateAfter (.error e s : EStateM.Result ε σ α) = s := rfl

@[simp] theorem isOk_ok (a : α) (s : σ) : isOk (.ok a s : EStateM.Result ε σ α) = true := rfl

@[simp] theorem isOk_error (e : ε) (s : σ) :
    isOk (.error e s : EStateM.Result ε σ α) = false := rfl

theorem bind_apply (x : EStateM ε σ α) (f : α → EStateM ε σ β) (s : σ) :
    (x >>= f) s = match x s with
      | .ok a s' => f a s'
      | .error e s' => .error e s' := rfl

theorem pure_apply (a : α) (s : σ) : (pure a : EStateM ε σ α) s = .ok a s := rfl

theorem throw_apply (e : ε) (s : σ) : (throw e : EStateM ε σ α) s = .error e s := rfl

theorem get_apply (s : σ) : (get : EStateM ε σ σ) s = .ok s s := rfl

theorem set_apply (s' s : σ) : (set s' : EStateM ε σ PUnit) s = .ok ⟨⟩ s' := rfl

theorem ofResult_ok (a : α) (s : σ) : (ofResult (.ok a) : EStateM ε σ α) s = .ok a s := rfl

theorem ofResult_error (e : ε) (s : σ) :
    (ofResult (.error e) : EStateM ε σ α) s = .error e s := rfl

@[simp] theorem stateAfter_map (f : α → β) (x : EStateM ε σ α) (s : σ) :
    stateAfter ((f <$> x) s) = stateAfter (x s) := by
  change stateAfter (EStateM.map f x s) = _
  unfold EStateM.map
  cases x s <;> rfl

@[simp] theorem isOk_map (f : α → β) (x : EStateM ε σ α) (s : σ) :
    isOk ((f <$> x) s) = isOk (x s) := by
  change isOk (EStateM.map f x s) = _
  unfold EStateM.map
  cases x s <;> rfl

/-- A body on a part of the state, run on the whole. -/
def focus {τ : Type} (part : σ → τ) (put : σ → τ → σ) (x : EStateM ε τ α) : EStateM ε σ α :=
  fun s =>
    match x (part s) with
    | .ok a t => .ok a (put s t)
    | .error e t => .error e (put s t)

theorem stateAfter_focus {τ : Type} (part : σ → τ) (put : σ → τ → σ) (x : EStateM ε τ α) (s : σ) :
    stateAfter (focus part put x s) = put s (stateAfter (x (part s))) := by
  unfold focus
  cases x (part s) <;> rfl

theorem isOk_focus {τ : Type} (part : σ → τ) (put : σ → τ → σ) (x : EStateM ε τ α) (s : σ) :
    isOk (focus part put x s) = isOk (x (part s)) := by
  unfold focus
  cases x (part s) <;> rfl

/-- What the first half leaves and every continuation from it leaves, the
sequence leaves. -/
theorem stateAfter_bind_of {I : σ → Prop} {x : EStateM ε σ α} {f : α → EStateM ε σ β} {s : σ}
    (hx : I (stateAfter (x s)))
    (hf : ∀ a t, x s = .ok a t → I t → I (stateAfter (f a t))) : I (stateAfter ((x >>= f) s)) := by
  rw [bind_apply]
  cases h : x s with
  | ok a t =>
    rw [h] at hx
    exact hf a t h hx
  | error e t =>
    rw [h] at hx
    exact hx

/-- A sequence succeeded exactly when both halves did. -/
theorem bind_eq_ok_iff {x : EStateM ε σ α} {f : α → EStateM ε σ β} {s s' : σ} {b : β} :
    (x >>= f) s = .ok b s' ↔ ∃ a t, x s = .ok a t ∧ f a t = .ok b s' := by
  rw [bind_apply]
  cases x s with
  | ok a t =>
    simp only [EStateM.Result.ok.injEq]
    exact ⟨fun h => ⟨a, t, ⟨rfl, rfl⟩, h⟩, by rintro ⟨a, t, ⟨rfl, rfl⟩, h⟩; exact h⟩
  | error e t => simp

/-- A sequence failed exactly when the first half did, or the second half did
after the first succeeded. -/
theorem bind_eq_error_iff {x : EStateM ε σ α} {f : α → EStateM ε σ β} {s s' : σ} {e : ε} :
    (x >>= f) s = .error e s' ↔
      x s = .error e s' ∨ ∃ a t, x s = .ok a t ∧ f a t = .error e s' := by
  rw [bind_apply]
  cases x s with
  | ok a t =>
    simp only [EStateM.Result.ok.injEq, reduceCtorEq, false_or]
    exact ⟨fun h => ⟨a, t, ⟨rfl, rfl⟩, h⟩, by rintro ⟨a, t, ⟨rfl, rfl⟩, h⟩; exact h⟩
  | error e t => simp

theorem ofResult_eq_ok_iff {r : Except ε α} {s s' : σ} {a : α} :
    ofResult r s = .ok a s' ↔ r = .ok a ∧ s' = s := by
  cases r <;> simp [ofResult, eq_comm]

theorem ofResult_eq_error_iff {r : Except ε α} {s s' : σ} {e : ε} :
    (ofResult r : EStateM ε σ α) s = .error e s' ↔ r = .error e ∧ s' = s := by
  cases r <;> simp [ofResult, eq_comm]

end Machine
