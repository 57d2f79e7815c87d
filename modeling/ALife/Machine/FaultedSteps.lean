/-
# The last step

`Dies x w w'`: some step of the body can be the last one so that the world `w'` is
left.  A body that goes on after what it `Takes` dies where the rest dies.
-/

import ALife.Machine.Faulted

namespace Machine

namespace Faulted

variable {ε σ α β : Type} {x : EStateM ε (Faulted σ) α} {f : α → EStateM ε (Faulted σ) β}
  {w v w' : σ} {n : ℕ} {a : α}

/-- Some step can be the last one and leave `w'`. -/
def Dies (x : EStateM ε (Faulted σ) α) (w w' : σ) : Prop :=
  ∃ n, ∀ d, d.world = w → (∀ k < n, d.faults (d.clock + k) = none) →
    d.faults (d.clock + n) = some 0 → ∃ e t, x d = .error e t ∧ t.world = w'

/-- A body dies in its first part. -/
theorem Dies.first (h : Dies x w w') : Dies (x >>= f) w w' := by
  obtain ⟨n, h⟩ := h
  refine ⟨n, fun d hd hfaults hlast => ?_⟩
  obtain ⟨e, t, hx, ht⟩ := h d hd hfaults hlast
  exact ⟨e, t, by rw [bind_apply, hx], ht⟩

/-- A body dies after its first part. -/
theorem Dies.after (hx : Takes x w n a v) (h : Dies (f a) v w') : Dies (x >>= f) w w' := by
  obtain ⟨m, h⟩ := h
  refine ⟨n + m, fun d hd hfaults hlast => ?_⟩
  obtain ⟨e, t, hf, ht⟩ := h ⟨v, d.faults, d.clock + n⟩ rfl
    (fun k hk => by rw [Nat.add_assoc]; exact hfaults (n + k) (by omega))
    (by rw [Nat.add_assoc]; exact hlast)
  refine ⟨e, t, ?_, ht⟩
  rw [bind_apply, hx d hd fun k hk => hfaults k (by omega)]
  exact hf

/-- A body dies after an observation. -/
theorem Dies.observing [hx : Observes x] (ha : value x w = .ok a) (h : Dies (f a) w w') :
    Dies (x >>= f) w w' := by
  obtain ⟨n, hn⟩ := hx.takes w a ha
  exact h.after hn

/-- A schedule under which the body leaves the world it dies in. -/
theorem Dies.schedule (h : Dies x w w') :
    ∃ faults, (stateAfter (x ⟨w, faults, 0⟩)).world = w' := by
  obtain ⟨n, h⟩ := h
  obtain ⟨e, t, hx, ht⟩ := h ⟨w, fun k => if k = n then some 0 else none, 0⟩ rfl
    (fun k hk => by
      dsimp only
      rw [if_neg (by omega)])
    (by
      dsimp only
      rw [if_pos (by omega)])
  exact ⟨_, by rw [hx]; exact ht⟩

section Steps

variable [FromIo ε]

theorem dies_access (w : σ) : Dies (access : EStateM ε (Faulted σ) Unit) w w := by
  refine ⟨0, fun d hd _ hlast => ?_⟩
  rw [Nat.add_zero] at hlast
  unfold access
  rw [hlast]
  exact ⟨_, _, rfl, hd⟩

theorem dies_cutting (done : σ → σ) (cut : ℕ → σ → σ) (w : σ) :
    Dies (cutting done cut : EStateM ε (Faulted σ) Unit) w (cut 0 w) := by
  refine ⟨0, fun d hd _ hlast => ?_⟩
  rw [Nat.add_zero] at hlast
  unfold cutting
  rw [hlast]
  exact ⟨_, _, rfl, hd ▸ rfl⟩

end Steps

end Faulted

end Machine
