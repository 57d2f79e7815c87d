/-
# Writers that tell what they wrote

A writer turns a value into a sequence of symbols.  `Tells w key` says that what `w` writes
tells the key of the value and where the value stops, whatever comes behind it; records,
lists behind their length and optional values behind a tag keep that.  A list without a
length tells its values only when a foreign symbol comes behind it (`TellsBefore`).
-/

import Mathlib.Data.List.Flatten
import Mathlib.Tactic.Common

namespace Machine

variable {α β κ κ' σ : Type}

/-- In front of a rest that stops it, what `w` writes tells the key and its own end. -/
def TellsBefore (stop : List σ → Prop) (w : α → List σ) (key : α → κ) : Prop :=
  ∀ a b r r', stop r → stop r' → w a ++ r = w b ++ r' → key a = key b ∧ r = r'

/-- In front of any rest, what `w` writes tells the key and its own end. -/
def Tells (w : α → List σ) (key : α → κ) : Prop :=
  ∀ a b r r', w a ++ r = w b ++ r' → key a = key b ∧ r = r'

section Writers

variable {stop : List σ → Prop} {w : α → List σ} {key : α → κ}

theorem Tells.split (h : Tells w key) {a b : α} {r r' : List σ} (heq : w a ++ r = w b ++ r') :
    key a = key b ∧ r = r' := h a b r r' heq

/-- Two values that are written alike have one key. -/
theorem Tells.key_eq (h : Tells w key) {a b : α} (heq : w a = w b) : key a = key b :=
  (h a b [] [] (by rw [heq])).1

theorem Tells.before (h : Tells w key) : TellsBefore stop w key := fun a b r r' _ _ => h a b r r'

/-- A writer of constant length is read back as soon as its values differ. -/
theorem tells_of_length (hlength : ∀ a b, (w a).length = (w b).length)
    (hkey : ∀ a b, w a = w b → key a = key b) : Tells w key := by
  intro a b r r' h
  obtain ⟨hw, hr⟩ := List.append_inj h (hlength a b)
  exact ⟨hkey a b hw, hr⟩

/-- The values of a list, written one after the other, from lists of one length. -/
theorem TellsBefore.flatMap (h : TellsBefore stop w key) (hstop : ∀ a r, stop (w a ++ r)) :
    ∀ {l l' : List α} {r r' : List σ}, l.length = l'.length → stop r → stop r' →
      l.flatMap w ++ r = l'.flatMap w ++ r' → l.map key = l'.map key ∧ r = r'
  | [], [], _, _, _, _, _, heq => ⟨rfl, heq⟩
  | [], _ :: _, _, _, hlength, _, _, _ => absurd hlength (Nat.succ_ne_zero _).symm
  | _ :: _, [], _, _, hlength, _, _, _ => absurd hlength (Nat.succ_ne_zero _)
  | a :: l, b :: l', r, r', hlength, hr, hr', heq => by
    have hrest : ∀ (l : List α) (r : List σ), stop r → stop (l.flatMap w ++ r) := by
      intro l r hr
      cases l with
      | nil => exact hr
      | cons a l =>
        rw [List.flatMap_cons, List.append_assoc]
        exact hstop a _
    rw [List.flatMap_cons, List.flatMap_cons, List.append_assoc, List.append_assoc] at heq
    obtain ⟨hkey, htail⟩ := h a b _ _ (hrest l r hr) (hrest l' r' hr') heq
    obtain ⟨hkeys, hend⟩ := TellsBefore.flatMap h hstop (Nat.succ.inj hlength) hr hr' htail
    exact ⟨by rw [List.map_cons, List.map_cons, hkey, hkeys], hend⟩

/-- A list behind its length. -/
theorem TellsBefore.list (h : TellsBefore stop w key) (hstop : ∀ a r, stop (w a ++ r)) {len : ℕ → σ}
    (hlen : Function.Injective len) :
    TellsBefore stop (fun l : List α => len l.length :: l.flatMap w) (List.map key) := by
  intro l l' r r' hr hr' heq
  obtain ⟨hhead, htail⟩ := List.cons.inj heq
  exact h.flatMap hstop (hlen hhead) hr hr' htail

theorem Tells.list (h : Tells w key) {len : ℕ → σ} (hlen : Function.Injective len) :
    Tells (fun l : List α => len l.length :: l.flatMap w) (List.map key) := by
  intro l l' r r' heq
  have hbefore : TellsBefore (fun _ => True) w key := h.before
  exact hbefore.list (fun _ _ => trivial) hlen l l' r r' trivial trivial heq

/-- An optional value behind a tag. -/
theorem Tells.option (h : Tells w key) {absent present : σ} (hne : absent ≠ present) :
    Tells (fun o : Option α => o.elim [absent] fun a => present :: w a) (Option.map key) := by
  intro o o' r r' heq
  rcases o with _ | a <;> rcases o' with _ | b
  · exact ⟨rfl, (List.cons.inj heq).2⟩
  · exact absurd (List.cons.inj heq).1 hne
  · exact absurd (List.cons.inj heq).1 hne.symm
  · obtain ⟨hkey, hr⟩ := h.split (List.cons.inj heq).2
    exact ⟨congrArg some hkey, hr⟩

/-- Values written as one symbol each, with a foreign symbol behind them. -/
theorem map_append_inj {f : α → σ} (hf : Function.Injective f) :
    ∀ {l l' : List α} {r r' : List σ}, (∀ a, r.head? ≠ some (f a)) → (∀ a, r'.head? ≠ some (f a)) →
      l.map f ++ r = l'.map f ++ r' → l = l' ∧ r = r'
  | [], [], _, _, _, _, heq => ⟨rfl, heq⟩
  | [], b :: l', _, _, hr, _, heq => by
    rw [List.map_nil, List.nil_append] at heq
    exact absurd (by rw [heq]; rfl) (hr b)
  | a :: l, [], _, _, _, hr', heq => by
    rw [List.map_nil, List.nil_append] at heq
    exact absurd (by rw [← heq]; rfl) (hr' a)
  | a :: l, b :: l', r, r', hr, hr', heq => by
    obtain ⟨hhead, htail⟩ := List.cons.inj heq
    obtain ⟨hl, hrest⟩ := map_append_inj hf hr hr' htail
    exact ⟨by rw [hf hhead, hl], hrest⟩

end Writers

end Machine
