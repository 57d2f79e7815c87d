/-
# Passes that may stop

Passes over a list of steps, each of which may end the whole loop.  With an
invariant that counts the finished passes and the steps, `passes_rule` says where
a loop can end: after all of its passes, or before one of their steps.
-/

import ALife.Machine.Checks

namespace Machine

variable {α σ ε : Type}

/-- One pass over the steps; a step says whether the loop ends with it. -/
def pass (step : α → σ → Except ε (σ × Bool)) : List α → σ → Except ε (σ × Bool)
  | [], s => .ok (s, false)
  | a :: l, s => do
    let (s, stopped) ← step a s
    if stopped then .ok (s, true) else pass step l s

/-- Passes over the steps, each finished by `finish`. -/
def passes (step : α → σ → Except ε (σ × Bool)) (finish : σ → σ) (l : List α) :
    ℕ → σ → Except ε (σ × Bool)
  | 0, s => .ok (s, false)
  | n + 1, s => do
    let (s, stopped) ← pass step l s
    if stopped then .ok (s, true) else passes step finish l n (finish s)

section Rule

variable {step : α → σ → Except ε (σ × Bool)} {finish : σ → σ} {l : List α}
  (Runs Stops : ℕ → ℕ → σ → Prop)

/-- A pass from `k` steps on goes through all of its steps, or stops at one of them. -/
theorem pass_rule {p : ℕ}
    (hstep : ∀ a ∈ l, ∀ k s s' stopped, Runs p k s → step a s = .ok (s', stopped) →
      if stopped then Stops p k s' else Runs p (k + 1) s')
    {k : ℕ} {s s' : σ} {stopped : Bool} (hs : Runs p k s) (h : pass step l s = .ok (s', stopped)) :
    if stopped then ∃ j < l.length, Stops p (k + j) s' else Runs p (k + l.length) s' := by
  induction l generalizing k s with
  | nil =>
    obtain ⟨rfl, rfl⟩ := Prod.mk.inj (Except.ok.inj h)
    exact hs
  | cons a l ih =>
    obtain ⟨⟨middle, first⟩, hfirst, h⟩ := except_bind_eq_ok_iff.1 h
    have hmiddle := hstep a List.mem_cons_self k s middle first hs hfirst
    cases first with
    | true =>
      obtain ⟨rfl, rfl⟩ := Prod.mk.inj (Except.ok.inj h)
      exact ⟨0, Nat.zero_lt_succ _, hmiddle⟩
    | false =>
      have hrest := ih (fun b hb => hstep b (List.mem_cons_of_mem a hb)) hmiddle h
      rw [List.length_cons]
      cases stopped with
      | true =>
        obtain ⟨j, hj, hstops⟩ := hrest
        exact ⟨j + 1, by omega, by rwa [show k + (j + 1) = k + 1 + j by omega]⟩
      | false =>
        have heq : k + 1 + l.length = k + (l.length + 1) := by omega
        exact heq ▸ hrest

/-- **Where a loop ends**: after all of its passes, or before a step that lies in one of them. -/
theorem passes_rule
    (hstep : ∀ p, ∀ a ∈ l, ∀ k s s' stopped, Runs p k s → step a s = .ok (s', stopped) →
      if stopped then Stops p k s' else Runs p (k + 1) s')
    (hfinish : ∀ p s, Runs p ((p + 1) * l.length) s → Runs (p + 1) ((p + 1) * l.length) (finish s))
    {n p : ℕ} {s s' : σ} {stopped : Bool} (hs : Runs p (p * l.length) s)
    (h : passes step finish l n s = .ok (s', stopped)) :
    if stopped then ∃ k < (p + n) * l.length, Stops (k / l.length) k s'
    else Runs (p + n) ((p + n) * l.length) s' := by
  induction n generalizing p s with
  | zero =>
    obtain ⟨rfl, rfl⟩ := Prod.mk.inj (Except.ok.inj h)
    exact hs
  | succ n ih =>
    obtain ⟨⟨middle, first⟩, hpass, h⟩ := except_bind_eq_ok_iff.1 h
    have hmiddle := pass_rule Runs Stops (hstep p) hs hpass
    cases first with
    | true =>
      obtain ⟨rfl, rfl⟩ := Prod.mk.inj (Except.ok.inj h)
      obtain ⟨j, hj, hstops⟩ := hmiddle
      have hpass_lt : p * l.length + j < (p + (n + 1)) * l.length := by
        calc p * l.length + j < p * l.length + l.length := Nat.add_lt_add_left hj _
          _ = (p + 1) * l.length := (Nat.succ_mul _ _).symm
          _ ≤ (p + (n + 1)) * l.length := Nat.mul_le_mul_right _ (by omega)
      have hquotient : (p * l.length + j) / l.length = p := by
        rw [Nat.add_comm, Nat.add_mul_div_right _ _ (Nat.zero_lt_of_lt hj), Nat.div_eq_of_lt hj,
          Nat.zero_add]
      exact ⟨p * l.length + j, hpass_lt, hquotient.symm ▸ hstops⟩
    | false =>
      have hruns : Runs (p + 1) ((p + 1) * l.length) (finish middle) :=
        hfinish p middle (by rw [Nat.succ_mul]; exact hmiddle)
      have hrest := ih hruns h
      rwa [show p + 1 + n = p + (n + 1) by omega] at hrest

/-- A loop whose steps never fail does not fail. -/
theorem exists_passes (hstep : ∀ a ∈ l, ∀ s, ∃ r, step a s = .ok r) (n : ℕ) (s : σ) :
    ∃ r, passes step finish l n s = .ok r := by
  have hpass : ∀ l' : List α, (∀ a ∈ l', a ∈ l) → ∀ s, ∃ r, pass step l' s = .ok r := by
    intro l'
    induction l' with
    | nil => exact fun _ s => ⟨_, rfl⟩
    | cons a l' ih =>
      intro hl' s
      obtain ⟨⟨middle, stopped⟩, hfirst⟩ := hstep a (hl' a List.mem_cons_self) s
      rw [pass, hfirst]
      cases stopped with
      | true => exact ⟨_, rfl⟩
      | false => exact ih (fun b hb => hl' b (List.mem_cons_of_mem a hb)) middle
  induction n generalizing s with
  | zero => exact ⟨_, rfl⟩
  | succ n ih =>
    obtain ⟨⟨middle, stopped⟩, hfirst⟩ := hpass l (fun _ ha => ha) s
    rw [passes, hfirst]
    cases stopped with
    | true => exact ⟨_, rfl⟩
    | false => exact ih (finish middle)

end Rule

end Machine
