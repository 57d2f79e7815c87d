/-
# Worlds whose steps may fail

A `Faulted` world comes with a schedule: the `k`-th step fails where `faults k`
is `some cut`, and a step that was under way when it failed is told where it was
cut.  A process that dies between two steps, or in one, is one whose next step
fails: a body that stops at the first error leaves the same world.

`value x w` is what a body returns in the world `w` when no step fails.  A body
that only observes (`Observes`) leaves the world as it was, and returns that
value or fails; `value_bind` takes sequences of such bodies apart.
-/

import ALife.Machine.Disk

namespace Machine

/-- A world, the faults of its steps and the number of steps done. -/
structure Faulted (σ : Type) where
  world : σ
  faults : ℕ → Option ℕ
  clock : ℕ

namespace Faulted

variable {ε σ α β : Type}

/-- The world when no step fails. -/
def calm (w : σ) : Faulted σ := ⟨w, fun _ => none, 0⟩

/-- No step of the schedule fails. -/
def Calm (d : Faulted σ) : Prop := ∀ k, d.faults k = none

theorem calm_calm (w : σ) : (calm w).Calm := fun _ => rfl

/-- The schedule is as it was, and the world is this one. -/
structure Leaves (w : σ) (d t : Faulted σ) : Prop where
  world : t.world = w
  faults : t.faults = d.faults

/-- The world is as it was. -/
abbrev Kept (d t : Faulted σ) : Prop := Leaves d.world d t

theorem Kept.refl (d : Faulted σ) : Kept d d := ⟨rfl, rfl⟩

theorem Leaves.trans {d t u : Faulted σ} {v w : σ} (h : Leaves v d t) (h' : Leaves w t u) :
    Leaves w d u :=
  ⟨h'.world, h'.faults.trans h.faults⟩

theorem Kept.trans {d t u : Faulted σ} (h : Kept d t) (h' : Kept t u) : Kept d u :=
  ⟨h'.world.trans h.world, h'.faults.trans h.faults⟩

theorem Kept.leaves {d t u : Faulted σ} {w : σ} (h : Leaves w d t) (h' : Kept t u) :
    Leaves w d u :=
  ⟨h'.world.trans h.world, h'.faults.trans h.faults⟩

theorem Leaves.calm {d t : Faulted σ} {w : σ} (h : Leaves w d t) (hd : d.Calm) : t.Calm := by
  intro k
  rw [h.faults, hd k]

/-! ### Steps -/

section Steps

variable [FromIo ε]

/-- A step that can only fail. -/
def access : EStateM ε (Faulted σ) Unit := fun d =>
  match d.faults d.clock with
  | none => .ok () { d with clock := d.clock + 1 }
  | some _ => .error (FromIo.io .other) { d with clock := d.clock + 1 }

/-- What is seen of the world, without a step. -/
def observe (f : σ → Except ε α) : EStateM ε (Faulted σ) α := fun d =>
  match f d.world with
  | .ok a => .ok a d
  | .error e => .error e d

/-- Changes the world, without a step. -/
def change (f : σ → σ) : EStateM ε (Faulted σ) Unit := fun d =>
  .ok () { d with world := f d.world }

/-- A step that does `done`, or is cut and does what the cut left of it. -/
def cutting (done : σ → σ) (cut : ℕ → σ → σ) : EStateM ε (Faulted σ) Unit := fun d =>
  match d.faults d.clock with
  | none => .ok () { d with world := done d.world, clock := d.clock + 1 }
  | some k => .error (FromIo.io .other) { d with world := cut k d.world, clock := d.clock + 1 }

theorem ends_access (d : Faulted σ) :
    Ends (access : EStateM ε (Faulted σ) Unit) d (fun _ => Kept d) (fun _ => Kept d) := by
  unfold Ends access
  cases d.faults d.clock <;> exact ⟨rfl, rfl⟩

theorem ends_access_calm {d : Faulted σ} (hd : d.Calm) :
    Ends (access : EStateM ε (Faulted σ) Unit) d (fun _ => Kept d) (fun _ _ => False) := by
  unfold Ends access
  rw [hd d.clock]
  exact ⟨rfl, rfl⟩

omit [FromIo ε] in
theorem ends_observe (f : σ → Except ε α) (d : Faulted σ) :
    Ends (observe f) d (fun a t => f d.world = .ok a ∧ t = d)
      (fun e t => f d.world = .error e ∧ t = d) := by
  unfold Ends observe
  cases f d.world <;> exact ⟨rfl, rfl⟩

omit [FromIo ε] in
theorem ends_change (f : σ → σ) (d : Faulted σ) :
    Ends (change f : EStateM ε (Faulted σ) Unit) d (fun _ => Leaves (f d.world) d)
      (fun _ _ => False) :=
  ⟨rfl, rfl⟩

theorem ends_cutting (done : σ → σ) (cut : ℕ → σ → σ) (d : Faulted σ) :
    Ends (cutting done cut : EStateM ε (Faulted σ) Unit) d (fun _ => Leaves (done d.world) d)
      (fun _ t => ∃ k, Leaves (cut k d.world) d t) := by
  unfold Ends cutting
  cases d.faults d.clock with
  | none => exact ⟨rfl, rfl⟩
  | some k => exact ⟨k, rfl, rfl⟩

theorem ends_cutting_calm {d : Faulted σ} (hd : d.Calm) (done : σ → σ) (cut : ℕ → σ → σ) :
    Ends (cutting done cut : EStateM ε (Faulted σ) Unit) d (fun _ => Leaves (done d.world) d)
      (fun _ _ => False) := by
  unfold Ends cutting
  rw [hd d.clock]
  exact ⟨rfl, rfl⟩

end Steps

/-! ### Counting steps -/

section Counting

variable {x : EStateM ε (Faulted σ) α} {f : α → EStateM ε (Faulted σ) β} {w v w' : σ} {n m : ℕ}
  {a : α} {b : β}

/-- The body does `n` steps and, when none fails, returns `a` and leaves `w'`. -/
def Takes (x : EStateM ε (Faulted σ) α) (w : σ) (n : ℕ) (a : α) (w' : σ) : Prop :=
  ∀ d, d.world = w → (∀ k < n, d.faults (d.clock + k) = none) →
    x d = .ok a ⟨w', d.faults, d.clock + n⟩

theorem Takes.bind (hx : Takes x w n a v) (hf : Takes (f a) v m b w') :
    Takes (x >>= f) w (n + m) b w' := by
  intro d hd hfaults
  rw [bind_apply, hx d hd fun k hk => hfaults k (by omega)]
  dsimp only
  rw [hf _ rfl fun k hk => ?_, Nat.add_assoc]
  rw [Nat.add_assoc]
  exact hfaults (n + k) (by omega)

theorem takes_pure (a : α) (w : σ) : Takes (pure a : EStateM ε (Faulted σ) α) w 0 a w := by
  rintro d rfl -
  rfl

theorem takes_observe {g : σ → Except ε α} (h : g w = .ok a) : Takes (observe g) w 0 a w := by
  rintro d rfl -
  unfold observe
  rw [h]
  rfl

theorem takes_ofResult {r : Except ε α} (h : r = .ok a) :
    Takes (ofResult r : EStateM ε (Faulted σ) α) w 0 a w := by
  rintro d rfl -
  rw [h]
  rfl

theorem takes_change (g : σ → σ) (w : σ) :
    Takes (change g : EStateM ε (Faulted σ) Unit) w 0 () (g w) := by
  rintro d rfl -
  rfl

variable [FromIo ε]

theorem takes_access (w : σ) : Takes (access : EStateM ε (Faulted σ) Unit) w 1 () w := by
  rintro d rfl hfaults
  have hnone : d.faults d.clock = none := hfaults 0 Nat.one_pos
  unfold access
  rw [hnone]

theorem takes_cutting (done : σ → σ) (cut : ℕ → σ → σ) (w : σ) :
    Takes (cutting done cut : EStateM ε (Faulted σ) Unit) w 1 () (done w) := by
  rintro d rfl hfaults
  have hnone : d.faults d.clock = none := hfaults 0 Nat.one_pos
  unfold cutting
  rw [hnone]

end Counting

/-! ### Observing -/

/-- What a body returns when no step fails. -/
def value (x : EStateM ε (Faulted σ) α) (w : σ) : Except ε α :=
  match x (calm w) with
  | .ok a _ => .ok a
  | .error e _ => .error e

/-- A body that leaves the world as it was and returns its value, or fails; it
fails with the error of its value when no step fails, and it does so many steps to
its value. -/
class Observes (x : EStateM ε (Faulted σ) α) : Prop where
  ends : ∀ d, Ends x d (fun a t => value x d.world = .ok a ∧ Kept d t) (fun _ => Kept d)
  calm : ∀ d, d.Calm →
    Ends x d (fun a _ => value x d.world = .ok a) (fun e _ => value x d.world = .error e)
  takes : ∀ w a, value x w = .ok a → ∃ n, Takes x w n a w

instance (a : α) : Observes (pure a : EStateM ε (Faulted σ) α) where
  ends d := ⟨rfl, Kept.refl d⟩
  calm _ _ := rfl
  takes w b h := by
    cases h
    exact ⟨0, takes_pure a w⟩

@[simp] theorem value_pure (a : α) (w : σ) :
    value (pure a : EStateM ε (Faulted σ) α) w = .ok a := rfl

@[simp] theorem value_observe (f : σ → Except ε α) (w : σ) : value (observe f) w = f w := by
  unfold value observe
  change (match (match f w with | .ok a => _ | .error e => _ : EStateM.Result ε (Faulted σ) α)
    with | .ok a _ => _ | .error e _ => _) = _
  cases f w <;> rfl

instance (f : σ → Except ε α) : Observes (observe f) where
  ends d := by
    rw [value_observe]
    exact (ends_observe f d).mono (fun _ _ h => ⟨h.1, h.2 ▸ Kept.refl d⟩)
      fun _ _ h => h.2 ▸ Kept.refl d
  calm d _ := by
    rw [value_observe]
    exact (ends_observe f d).mono (fun _ _ h => h.1) fun _ _ h => h.1
  takes w a h := by
    rw [value_observe] at h
    exact ⟨0, takes_observe h⟩

@[simp] theorem value_ofResult (r : Except ε α) (w : σ) :
    value (ofResult r : EStateM ε (Faulted σ) α) w = r := by
  cases r <;> rfl

instance (r : Except ε α) : Observes (ofResult r : EStateM ε (Faulted σ) α) := by
  refine ⟨fun d => ?_, fun d _ => ?_, fun w a h => ?_⟩
  · cases r
    · exact Kept.refl d
    · exact ⟨rfl, Kept.refl d⟩
  · cases r <;> exact rfl
  · rw [value_ofResult] at h
    exact ⟨0, takes_ofResult h⟩

@[simp] theorem value_access [FromIo ε] (w : σ) :
    value (access : EStateM ε (Faulted σ) Unit) w = .ok () := rfl

instance [FromIo ε] : Observes (access : EStateM ε (Faulted σ) Unit) where
  ends d := (ends_access d).mono (fun _ _ h => ⟨rfl, h⟩) fun _ _ h => h
  calm _ hd := (ends_access_calm hd).mono (fun _ _ _ => rfl) fun _ _ h => h.elim
  takes w _ _ := ⟨1, takes_access w⟩

instance {c : Prop} [Decidable c] {x y : EStateM ε (Faulted σ) α} [hx : Observes x]
    [hy : Observes y] : Observes (if c then x else y) := by
  split_ifs
  · exact hx
  · exact hy

section Sequences

variable {x : EStateM ε (Faulted σ) α} {f : α → EStateM ε (Faulted σ) β}

/-- A sequence of observations returns what they return one after the other. -/
theorem value_bind [hx : Observes x] [hf : ∀ a, Observes (f a)] (w : σ) :
    value (x >>= f) w = value x w >>= fun a => value (f a) w := by
  cases h : x (Faulted.calm w) with
  | error e t =>
    have hx' : value x w = .error e := by rw [value, h]
    rw [hx', value, bind_apply, h]
    rfl
  | ok a t =>
    have hx' : value x w = .ok a := by rw [value, h]
    obtain ⟨-, hkept⟩ := (hx.ends (Faulted.calm w)).of_ok h
    have hcalm := (hf a).calm t (hkept.calm (calm_calm w))
    rw [show t.world = w from hkept.world] at hcalm
    rw [hx', value, bind_apply, h]
    change _ = value (f a) w
    unfold Ends at hcalm
    dsimp only
    cases hfa : f a t <;> rw [hfa] at hcalm <;> exact hcalm.symm

@[simp] theorem value_bind_eq_ok_iff [Observes x] [∀ a, Observes (f a)] {w : σ} {b : β} :
    value (x >>= f) w = .ok b ↔ ∃ a, value x w = .ok a ∧ value (f a) w = .ok b := by
  rw [value_bind]
  cases value x w <;> simp [bind, Except.bind]

instance observes_bind [hx : Observes x] [hf : ∀ a, Observes (f a)] : Observes (x >>= f) where
  ends d := by
    refine (hx.ends d).bind fun a t ⟨hvalue, hkept⟩ => ?_
    refine ((hf a).ends t).mono (fun b u ⟨hb, hu⟩ => ⟨?_, hkept.trans hu⟩)
      fun _ _ hu => hkept.trans hu
    rw [value_bind, hvalue, ← hkept.world]
    exact hb
  calm d hd := by
    have hxd := (hx.ends d).and (hx.calm d hd)
    refine ends_iff.2 ⟨fun b t hb => ?_, fun e t he => ?_⟩
    · obtain ⟨a, u, hxu, hfu⟩ := bind_eq_ok_iff.1 hb
      obtain ⟨⟨hvalue, hkept⟩, -⟩ := hxd.of_ok hxu
      rw [value_bind, hvalue, ← hkept.world]
      exact ((hf a).calm u (hkept.calm hd)).of_ok hfu
    · rw [value_bind]
      rcases bind_eq_error_iff.1 he with hxe | ⟨a, u, hxu, hfu⟩
      · rw [(hxd.of_error hxe).2]
        rfl
      · obtain ⟨⟨hvalue, hkept⟩, -⟩ := hxd.of_ok hxu
        rw [hvalue, ← hkept.world]
        exact ((hf a).calm u (hkept.calm hd)).of_error hfu
  takes w b h := by
    obtain ⟨a, ha, hb⟩ := value_bind_eq_ok_iff.1 h
    obtain ⟨n, hn⟩ := hx.takes w a ha
    obtain ⟨m, hm⟩ := (hf a).takes w b hb
    exact ⟨n + m, hn.bind hm⟩

@[simp] theorem value_access_bind [FromIo ε] {f : Unit → EStateM ε (Faulted σ) β}
    [∀ a, Observes (f a)] (w : σ) : value (access >>= f) w = value (f ()) w := by
  rw [value_bind, value_access]
  rfl

instance observes_foldlM {f : β → α → EStateM ε (Faulted σ) β} [hf : ∀ b a, Observes (f b a)]
    (l : List α) (b : β) : Observes (l.foldlM f b) := by
  induction l generalizing b with
  | nil => exact inferInstanceAs (Observes (pure b))
  | cons a l ih =>
    rw [List.foldlM_cons]
    exact @observes_bind _ _ _ _ _ _ (hf b a) ih

instance observes_forM {f : α → EStateM ε (Faulted σ) Unit} [hf : ∀ a, Observes (f a)]
    (l : List α) : Observes (l.forM f) := by
  induction l with
  | nil => exact inferInstanceAs (Observes (pure ()))
  | cons a l ih => exact @observes_bind _ _ _ _ _ _ (hf a) fun _ => ih

/-- A loop of observations folds what they return. -/
theorem value_foldlM {f : β → α → EStateM ε (Faulted σ) β} [hf : ∀ b a, Observes (f b a)]
    (l : List α) (b : β) (w : σ) :
    value (l.foldlM f b) w = l.foldlM (fun b a => value (f b a) w) b := by
  induction l generalizing b with
  | nil => rfl
  | cons a l ih =>
    rw [List.foldlM_cons, List.foldlM_cons, value_bind]
    congr 1
    exact funext ih

@[simp] theorem value_forM_access [FromIo ε] (l : List α) (w : σ) :
    value (l.forM fun _ => (access : EStateM ε (Faulted σ) Unit)) w = .ok () := by
  induction l with
  | nil => rfl
  | cons a l ih =>
    change value (access >>= fun _ => l.forM fun _ => access) w = _
    rw [value_access_bind, ih]

/-- A sequence that observes first. -/
theorem ends_observing [hx : Observes x] {d : Faulted σ} {R : β → Faulted σ → Prop}
    {E : ε → Faulted σ → Prop} (herror : ∀ e t, Kept d t → E e t)
    (hf : ∀ a t, value x d.world = .ok a → Kept d t → Ends (f a) t R E) : Ends (x >>= f) d R E :=
  ((hx.ends d).mono (fun _ _ h => h) herror).bind fun a t h => hf a t h.1 h.2

/-- A sequence that observes first, when no step fails and the observation succeeds. -/
theorem ends_observing_calm [hx : Observes x] {d : Faulted σ} (hd : d.Calm) {a : α}
    (ha : value x d.world = .ok a) {R : β → Faulted σ → Prop} {E : ε → Faulted σ → Prop}
    (hf : ∀ t, Kept d t → Ends (f a) t R E) : Ends (x >>= f) d R E := by
  refine (((hx.ends d).and (hx.calm d hd)).mono (fun _ _ h => h.1)
    fun e t h => ?_).bind fun b t h => ?_
  · have := h.2
    rw [ha] at this
    cases this
  · have := h.1
    rw [ha] at this
    cases this
    exact hf t h.2

end Sequences

end Faulted

end Machine
