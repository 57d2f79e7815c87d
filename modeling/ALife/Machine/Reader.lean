/-
# Readers of byte strings

A reader takes a value off the front of a byte string, or fails.  A format is
written down once as what the reader accepts: `Reads x P w` says that `x` reads
exactly the values `a` with `P a`, each from the bytes `w a` and nothing else.
Both directions of a codec are read off it: what was written is read back with
the rest untouched (`Reads.read`), and what was read is what would be written
(`Reads.written`), so no byte is free and `w` is injective (`Reads.injective`).
Readers compose by their binds (`Reader.bind_eq_ok_iff`), records by their
fields (`Reads.field`).
-/

import Mathlib.Tactic

namespace Machine

/-- A reader of values from the front of a byte string. -/
abbrev Reader (ε α : Type) := StateT (List UInt8) (Except ε) α

variable {ε α β : Type}

namespace Reader

/-- Two readers in sequence succeed when both do. -/
theorem bind_eq_ok_iff {x : Reader ε α} {f : α → Reader ε β} {input rest : List UInt8} {b : β} :
    (x >>= f) input = .ok (b, rest) ↔ ∃ a mid, x input = .ok (a, mid) ∧ f a mid = .ok (b, rest) := by
  show ((x input) >>= fun p => f p.1 p.2) = .ok (b, rest) ↔ _
  cases x input with
  | ok p =>
    obtain ⟨a, mid⟩ := p
    simp [bind, Except.bind]
  | error e => simp [bind, Except.bind]

theorem pure_eq_ok_iff {a b : α} {input rest : List UInt8} :
    (pure a : Reader ε α) input = .ok (b, rest) ↔ a = b ∧ input = rest := by
  show (Except.ok (a, input) : Except ε (α × List UInt8)) = .ok (b, rest) ↔ _
  simp

/-- A pure fallible step inside a reader. -/
def lift (x : Except ε α) : Reader ε α := fun input => x.map fun a => (a, input)

theorem lift_eq_ok_iff {x : Except ε α} {input rest : List UInt8} {a : α} :
    lift x input = .ok (a, rest) ↔ x = .ok a ∧ input = rest := by
  cases x <;> simp [lift, Except.map]

/-- A check inside a reader. -/
def ensure (good : Prop) [Decidable good] (e : ε) : Reader ε Unit :=
  lift (if good then .ok () else .error e)

theorem ensure_eq_ok_iff {good : Prop} [Decidable good] {e : ε} {input rest : List UInt8}
    {u : Unit} : ensure good e input = .ok (u, rest) ↔ good ∧ input = rest := by
  rw [ensure, lift_eq_ok_iff]
  split_ifs with h <;> simp [h]

/-- What follows a check runs when the check passes. -/
theorem ensure_bind_eq_ok_iff {good : Prop} [Decidable good] {e : ε} {f : Unit → Reader ε β}
    {input rest : List UInt8} {b : β} :
    (ensure good e >>= f) input = .ok (b, rest) ↔ good ∧ f () input = .ok (b, rest) := by
  simp only [bind_eq_ok_iff, ensure_eq_ok_iff]
  constructor
  · rintro ⟨_, _, ⟨hgood, rfl⟩, h⟩
    exact ⟨hgood, h⟩
  · rintro ⟨hgood, h⟩
    exact ⟨(), input, ⟨hgood, rfl⟩, h⟩

/-- The next `n` bytes. -/
def take (e : ε) (n : ℕ) : Reader ε (List UInt8) := fun input =>
  if n ≤ input.length then .ok (input.take n, input.drop n) else .error e

theorem take_eq_ok_iff {e : ε} {n : ℕ} {input bs rest : List UInt8} :
    take e n input = .ok (bs, rest) ↔ bs.length = n ∧ input = bs ++ rest := by
  unfold take
  split_ifs with h
  · simp only [Except.ok.injEq, Prod.mk.injEq]
    constructor
    · rintro ⟨rfl, rfl⟩
      exact ⟨List.length_take_of_le h, (List.take_append_drop n input).symm⟩
    · rintro ⟨rfl, rfl⟩
      simp
  · simp only [false_iff, not_and]
    rintro rfl rfl
    rw [List.length_append] at h
    omega

/-- How many bytes are left. -/
def remaining : Reader ε ℕ := fun input => .ok (input.length, input)

theorem remaining_bind_eq_ok_iff {f : ℕ → Reader ε β} {input rest : List UInt8} {b : β} :
    (remaining >>= f) input = .ok (b, rest) ↔ f input.length input = .ok (b, rest) := by
  rfl

end Reader

/-- The reader takes exactly the values that satisfy `P`, each from its own bytes. -/
def Reads (x : Reader ε α) (P : α → Prop) (w : α → List UInt8) : Prop :=
  ∀ input a rest, x input = .ok (a, rest) ↔ P a ∧ input = w a ++ rest

namespace Reads

variable {x : Reader ε α} {P : α → Prop} {w : α → List UInt8}

/-- What was written is read back, with the rest untouched. -/
theorem read (h : Reads x P w) {a : α} (ha : P a) (rest : List UInt8) :
    x (w a ++ rest) = .ok (a, rest) :=
  (h _ _ _).2 ⟨ha, rfl⟩

/-- What was read is what would be written. -/
theorem written (h : Reads x P w) {a : α} {input rest : List UInt8}
    (hread : x input = .ok (a, rest)) : P a ∧ input = w a ++ rest :=
  (h _ _ _).1 hread

/-- Two values with the same bytes in front of anything are one, and so is what follows. -/
theorem append_injective (h : Reads x P w) {a b : α} (ha : P a) (hb : P b)
    {rest rest' : List UInt8} (heq : w a ++ rest = w b ++ rest') : a = b ∧ rest = rest' := by
  have hread := h.read ha rest
  rw [heq, h.read hb rest', Except.ok.injEq, Prod.mk.injEq] at hread
  exact ⟨hread.1.symm, hread.2.symm⟩

/-- The bytes of a value tell it, and tell what follows. -/
theorem append_eq_iff (h : Reads x (fun _ => True) w) {a b : α} {rest rest' : List UInt8} :
    w a ++ rest = w b ++ rest' ↔ a = b ∧ rest = rest' :=
  ⟨h.append_injective trivial trivial, fun ⟨ha, hrest⟩ => by rw [ha, hrest]⟩

theorem injective (h : Reads x P w) {a b : α} (ha : P a) (hb : P b) (heq : w a = w b) : a = b :=
  have hnil : w a ++ [] = w b ++ [] := by rw [heq]
  (h.append_injective ha hb hnil).1

/-- What follows a reader runs on what it left. -/
theorem bind_eq_ok_iff (h : Reads x P w) {f : α → Reader ε β} {input rest : List UInt8} {b : β} :
    (x >>= f) input = .ok (b, rest) ↔
      ∃ a mid, P a ∧ input = w a ++ mid ∧ f a mid = .ok (b, rest) := by
  rw [Reader.bind_eq_ok_iff]
  simp only [h _ _ _, and_assoc]

/-- A record read field by field: the reader takes one field off the front, then
the rest of the record under that field. -/
theorem field (h : Reads x (fun _ => True) w) {f : α → Reader ε β} (g : β → α) {Q : β → Prop}
    {v : β → List UInt8} (hf : ∀ a, Reads (f a) (fun b => Q b ∧ g b = a) v) :
    Reads (x >>= f) Q (fun b => w (g b) ++ v b) := by
  intro input b rest
  rw [Reader.bind_eq_ok_iff]
  constructor
  · rintro ⟨a, mid, hread, hrest⟩
    obtain ⟨-, rfl⟩ := h.written hread
    obtain ⟨⟨hb, rfl⟩, rfl⟩ := (hf a).written hrest
    exact ⟨hb, (List.append_assoc ..).symm⟩
  · rintro ⟨hb, rfl⟩
    refine ⟨g b, v b ++ rest, ?_, (hf (g b)).read ⟨hb, rfl⟩ rest⟩
    rw [List.append_assoc]
    exact h.read trivial _

/-- The last step of a record: its fields tell it. -/
theorem finish {a : α} (h : ∀ b, P b ↔ b = a) : Reads (pure a : Reader ε α) P (fun _ => []) := by
  intro input b rest
  rw [Reader.pure_eq_ok_iff, h, List.nil_append, eq_comm (a := b)]

/-- A value in a wrapper is read as the value. -/
theorem wrap (h : Reads x (fun _ => True) w) (get : β → α) {mk : α → β}
    (hmk : ∀ b, mk (get b) = b) (hget : ∀ a, get (mk a) = a) :
    Reads (x >>= fun a => pure (mk a)) (fun _ => True) (fun b => w (get b)) := by
  intro input b rest
  simp only [h.bind_eq_ok_iff, Reader.pure_eq_ok_iff, true_and]
  constructor
  · rintro ⟨a, mid, rfl, rfl, rfl⟩
    rw [hget]
  · rintro rfl
    exact ⟨get b, rest, rfl, hmk b, rfl⟩

/-- The same bytes, written otherwise. -/
theorem cast (h : Reads x P w) {w' : α → List UInt8} (hw : ∀ a, w' a = w a) : Reads x P w' := by
  rwa [show w' = w from funext hw]

end Reads

/-- `n` values, one after the other. -/
def Reader.many (x : Reader ε α) : ℕ → Reader ε (List α)
  | 0 => pure []
  | n + 1 => do
    let a ← x
    let as ← many x n
    pure (a :: as)

/-- A counted list reads as its items do. -/
theorem Reads.many {x : Reader ε α} {P : α → Prop} {w : α → List UInt8} (h : Reads x P w) (n : ℕ) :
    Reads (x.many n) (fun l => l.length = n ∧ ∀ a ∈ l, P a) (fun l => l.flatMap w) := by
  induction n with
  | zero =>
    intro input l rest
    rw [Reader.many, Reader.pure_eq_ok_iff]
    simp only [List.length_eq_zero_iff]
    constructor
    · rintro ⟨rfl, rfl⟩
      simp
    · rintro ⟨⟨rfl, -⟩, rfl⟩
      simp
  | succ n ih =>
    intro input l rest
    rw [Reader.many, Reader.bind_eq_ok_iff]
    simp only [h input, Reader.bind_eq_ok_iff, ih _ _ _, Reader.pure_eq_ok_iff]
    constructor
    · rintro ⟨a, mid, ⟨ha, rfl⟩, as, _, ⟨⟨hlen, has⟩, rfl⟩, rfl, rfl⟩
      refine ⟨⟨by simp [hlen], List.forall_mem_cons.2 ⟨ha, has⟩⟩, ?_⟩
      rw [List.flatMap_cons, List.append_assoc]
    · rintro ⟨⟨hlen, hall⟩, rfl⟩
      cases l with
      | nil => simp at hlen
      | cons a as =>
        rw [List.forall_mem_cons] at hall
        refine ⟨a, as.flatMap w ++ rest, ⟨hall.1, ?_⟩, as, rest,
          ⟨⟨by simpa using hlen, hall.2⟩, rfl⟩, rfl, rfl⟩
        rw [List.flatMap_cons, List.append_assoc]

end Machine
