/-
# Two-sided postconditions

`Ends x s Q E` says how the body `x` ends from the state `s`: in a value and
state satisfying `Q`, or in an error and state satisfying `E`.  The rules follow
the body: one for each way of composing it, and the consequence rule.
`attempt` is the body whose error is a value, as in `match f() { Ok(..) => ..,
Err(..) => .. }`.

A loop over a list, for its results or for its effect: when every turn keeps an
invariant and ends in the loop's error condition, so does the loop (`ends_mapM`,
`ends_forM`).
-/

import ALife.Machine.Mutation

namespace Machine

variable {ε ε' σ α β : Type}

/-- The body ends in a value with `Q` or in an error with `E`. -/
def Ends (x : EStateM ε σ α) (s : σ) (Q : α → σ → Prop) (E : ε → σ → Prop) : Prop :=
  match x s with
  | .ok a t => Q a t
  | .error e t => E e t

/-- The body with its error as a value. -/
def attempt (x : EStateM ε σ α) : EStateM ε' σ (Except ε α) := fun s =>
  match x s with
  | .ok a t => .ok (.ok a) t
  | .error e t => .ok (.error e) t

section Rules

variable {x : EStateM ε σ α} {s : σ} {Q : α → σ → Prop} {E : ε → σ → Prop}

theorem ends_iff : Ends x s Q E ↔
    (∀ a t, x s = .ok a t → Q a t) ∧ ∀ e t, x s = .error e t → E e t := by
  unfold Ends
  cases x s with
  | ok a t => simp
  | error e t => simp

theorem Ends.of_ok (h : Ends x s Q E) {a : α} {t : σ} (hx : x s = .ok a t) : Q a t :=
  (ends_iff.1 h).1 a t hx

theorem Ends.of_error (h : Ends x s Q E) {e : ε} {t : σ} (hx : x s = .error e t) : E e t :=
  (ends_iff.1 h).2 e t hx

theorem Ends.mono {Q' : α → σ → Prop} {E' : ε → σ → Prop} (h : Ends x s Q E)
    (hQ : ∀ a t, Q a t → Q' a t) (hE : ∀ e t, E e t → E' e t) : Ends x s Q' E' :=
  ends_iff.2 ⟨fun a t hx => hQ a t (h.of_ok hx), fun e t hx => hE e t (h.of_error hx)⟩

theorem Ends.and {Q' : α → σ → Prop} {E' : ε → σ → Prop} (h : Ends x s Q E) (h' : Ends x s Q' E') :
    Ends x s (fun a t => Q a t ∧ Q' a t) (fun e t => E e t ∧ E' e t) :=
  ends_iff.2 ⟨fun _ _ hx => ⟨h.of_ok hx, h'.of_ok hx⟩,
    fun _ _ hx => ⟨h.of_error hx, h'.of_error hx⟩⟩

/-- What holds of every state a body can end in holds of the state it leaves. -/
theorem Ends.stateAfter {I : σ → Prop} (h : Ends x s (fun _ => I) (fun _ => I)) :
    I (stateAfter (x s)) := by
  unfold Ends at h
  cases hx : x s <;> rw [hx] at h <;> exact h

theorem ends_of_stateAfter {I : σ → Prop} (h : I (Machine.stateAfter (x s))) :
    Ends x s (fun _ => I) (fun _ => I) := by
  unfold Ends
  cases hx : x s <;> rw [hx] at h <;> exact h

/-- A sequence: the second half starts where the first succeeded. -/
theorem Ends.bind {f : α → EStateM ε σ β} {R : β → σ → Prop} (h : Ends x s Q E)
    (hf : ∀ a t, Q a t → Ends (f a) t R E) : Ends (x >>= f) s R E := by
  unfold Ends at h ⊢
  rw [bind_apply]
  cases hx : x s with
  | ok a t =>
    rw [hx] at h
    exact hf a t h
  | error e t =>
    rw [hx] at h
    exact h

theorem ends_pure {a : α} (h : Q a s) : Ends (pure a) s Q E := h

theorem ends_throw {e : ε} (h : E e s) : Ends (throw e) s Q E := h

theorem ends_ofResult {r : Except ε α} (hok : ∀ a, r = .ok a → Q a s)
    (herror : ∀ e, r = .error e → E e s) : Ends (ofResult r) s Q E := by
  cases r with
  | ok a => exact hok a rfl
  | error e => exact herror e rfl

/-- An attempt and what follows it, in either case. -/
theorem Ends.attempt_bind {E' : ε' → σ → Prop} {R : β → σ → Prop}
    {f : Except ε α → EStateM ε' σ β} (h : Ends x s Q E)
    (hok : ∀ a t, Q a t → Ends (f (.ok a)) t R E')
    (herror : ∀ e t, E e t → Ends (f (.error e)) t R E') :
    Ends (attempt x >>= f) s R E' := by
  unfold Ends at h
  unfold Ends
  rw [bind_apply]
  unfold attempt
  cases hx : x s with
  | ok a t =>
    rw [hx] at h
    exact hok a t h
  | error e t =>
    rw [hx] at h
    exact herror e t h

end Rules

/-! ### Loops -/

section Loops

variable {l : List α} {s : σ} {I : σ → Prop} {E : ε → σ → Prop} {C : α → Prop}

/-- A loop that collects what its turns compute. -/
theorem ends_mapM {f : α → EStateM ε σ β} {g : α → β}
    (hf : ∀ a ∈ l, ∀ t, I t → Ends (f a) t (fun b t => I t ∧ C a ∧ b = g a) E) (hs : I s) :
    Ends (l.mapM f) s (fun bs t => I t ∧ (∀ a ∈ l, C a) ∧ bs = l.map g) E := by
  induction l generalizing s with
  | nil => exact ends_pure ⟨hs, by simp, rfl⟩
  | cons a l ih =>
    rw [List.mapM_cons]
    refine (hf a List.mem_cons_self s hs).bind ?_
    rintro b t ⟨ht, hC, rfl⟩
    refine (ih (fun a' ha' => hf a' (List.mem_cons_of_mem _ ha')) ht).bind ?_
    rintro bs t ⟨ht, hall, rfl⟩
    exact ends_pure ⟨ht, List.forall_mem_cons.2 ⟨hC, hall⟩, rfl⟩

/-- A loop run for its effect. -/
theorem ends_forM {f : α → EStateM ε σ Unit}
    (hf : ∀ a ∈ l, ∀ t, I t → Ends (f a) t (fun _ t => I t ∧ C a) E) (hs : I s) :
    Ends (l.forM f) s (fun _ t => I t ∧ ∀ a ∈ l, C a) E := by
  induction l generalizing s with
  | nil => exact ends_pure ⟨hs, by simp⟩
  | cons a l ih =>
    change Ends (f a >>= fun _ => l.forM f) s _ _
    refine (hf a List.mem_cons_self s hs).bind ?_
    rintro _ t ⟨ht, hC⟩
    refine (ih (fun a' ha' => hf a' (List.mem_cons_of_mem _ ha')) ht).mono ?_ fun _ _ h => h
    rintro _ t ⟨ht, hall⟩
    exact ⟨ht, List.forall_mem_cons.2 ⟨hC, hall⟩⟩

/-- A loop of at least one turn, each of which brings about `J`. -/
theorem ends_forM_of_ne_nil {f : α → EStateM ε σ Unit} {J : σ → Prop} (hne : l ≠ [])
    (hJ : ∀ t, J t → I t)
    (hf : ∀ a ∈ l, ∀ t, I t → Ends (f a) t (fun _ t => J t ∧ C a) E) (hs : I s) :
    Ends (l.forM f) s (fun _ t => J t ∧ ∀ a ∈ l, C a) E := by
  obtain ⟨a, l, rfl⟩ := List.exists_cons_of_ne_nil hne
  change Ends (f a >>= fun _ => l.forM f) s _ _
  refine (hf a List.mem_cons_self s hs).bind ?_
  rintro _ t ⟨ht, hC⟩
  have hrest : ∀ a' ∈ l, ∀ t, J t → Ends (f a') t (fun _ t => J t ∧ C a') E :=
    fun a' ha' t ht => hf a' (List.mem_cons_of_mem _ ha') t (hJ t ht)
  refine (ends_forM hrest ht).mono ?_ fun _ _ h => h
  rintro _ t ⟨ht, hall⟩
  exact ⟨ht, List.forall_mem_cons.2 ⟨hC, hall⟩⟩

end Loops

end Machine
