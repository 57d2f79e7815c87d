/-
# Checks that return early

The body of a Rust validator is a sequence of `if bad { return Err(e) }`, of
`lookup.ok_or(e)?` and of loops of these over a slice, in an `Except ε`.  Each
of the three has its rule: what a passing check says (`failIf_eq_ok_iff`), what
a lookup returned (`getOr_eq_ok_iff`), and what a loop that passed says of every
element together with the elements before it (`foldlM_eq_ok_iff`).  A method
that makes all its checks before it assigns anything leaves the state alone when
it fails (`KeepsOnError`).
-/

import ALife.Machine.Mutation

namespace Machine

variable {ε α β σ : Type}

/-- `if bad { return Err(e) }`. -/
def failIf (bad : Prop) [Decidable bad] (e : ε) : Except ε Unit :=
  if bad then .error e else .ok ()

/-- `option.ok_or(e)?`. -/
def getOr (o : Option α) (e : ε) : Except ε α :=
  match o with
  | some a => .ok a
  | none => .error e

@[simp] theorem failIf_eq_ok_iff {bad : Prop} [Decidable bad] {e : ε} {u : Unit} :
    failIf bad e = .ok u ↔ ¬bad := by
  unfold failIf
  split_ifs with h <;> simp [h]

@[simp] theorem getOr_eq_ok_iff {o : Option α} {e : ε} {a : α} :
    getOr o e = .ok a ↔ o = some a := by
  cases o <;> simp [getOr]

theorem exists_eq_ok_of_isOk {x : Except ε α} (h : x.isOk = true) : ∃ a, x = .ok a := by
  cases x with
  | error e => cases h
  | ok a => exact ⟨a, rfl⟩

/-- A sequence passes when the first call does and the rest does on its result. -/
theorem except_bind_eq_ok_iff {x : Except ε α} {f : α → Except ε β} {b : β} :
    (x >>= f) = .ok b ↔ ∃ a, x = .ok a ∧ f a = .ok b := by
  cases x with
  | ok a => simp [bind, Except.bind]
  | error e => simp [bind, Except.bind]

/-- What follows a check runs when the check passes. -/
theorem except_seq_eq_ok_iff {x : Except ε Unit} {f : Unit → Except ε β} {b : β} :
    (x >>= f) = .ok b ↔ x = .ok () ∧ f () = .ok b := by
  cases x with
  | ok a => simp [bind, Except.bind]
  | error e => simp [bind, Except.bind]

/-- A call that returned, by what its result is mapped to. -/
theorem exists_of_map_eq_ok {x : Except ε α} {f : α → β} {b : β} (h : x.map f = .ok b) :
    ∃ a, x = .ok a ∧ f a = b := by
  cases x with
  | ok a => exact ⟨a, rfl, Except.ok.inj h⟩
  | error e => cases h

/-- A loop of checks passes when each of them does. -/
theorem forM_eq_ok_iff {f : α → Except ε Unit} {l : List α} :
    l.forM f = .ok () ↔ ∀ a ∈ l, f a = .ok () := by
  induction l with
  | nil => exact iff_of_true rfl fun _ h => absurd h List.not_mem_nil
  | cons a l ih =>
    rw [List.forall_mem_cons, ← ih]
    exact except_seq_eq_ok_iff

/-- A loop from what the elements before it left. -/
theorem foldlM_prefix_eq_ok_iff {f : σ → α → Except ε σ} {g : List α → σ} {C : List α → α → Prop}
    (hstep : ∀ pre a s, f (g pre) a = .ok s ↔ C pre a ∧ g (pre ++ [a]) = s) {before l : List α}
    {s : σ} :
    l.foldlM f (g before) = .ok s ↔
      (∀ pre a post, l = pre ++ a :: post → C (before ++ pre) a) ∧ g (before ++ l) = s := by
  induction l generalizing before with
  | nil =>
    rw [List.foldlM_nil, List.append_nil]
    constructor
    · intro h
      exact ⟨fun pre a post he => absurd he (by simp), Except.ok.inj h⟩
    · rintro ⟨-, rfl⟩
      rfl
  | cons a l ih =>
    rw [List.foldlM_cons, except_bind_eq_ok_iff]
    constructor
    · rintro ⟨s', hs', hl⟩
      obtain ⟨hC, rfl⟩ := (hstep before a s').1 hs'
      obtain ⟨hall, rfl⟩ := ih.1 hl
      refine ⟨fun pre b post he => ?_, by rw [List.append_assoc, List.singleton_append]⟩
      cases pre with
      | nil =>
        obtain ⟨rfl, -⟩ := List.cons.inj he
        rwa [List.append_nil]
      | cons c pre =>
        obtain ⟨rfl, hrest⟩ := List.cons.inj he
        have := hall pre b post hrest
        rwa [List.append_assoc, List.singleton_append] at this
    · rintro ⟨hall, rfl⟩
      have hC : C before a := by
        have := hall [] a l rfl
        rwa [List.append_nil] at this
      refine ⟨g (before ++ [a]), (hstep before a _).2 ⟨hC, rfl⟩, ih.2 ⟨fun pre b post he => ?_, ?_⟩⟩
      · rw [List.append_assoc, List.singleton_append]
        exact hall (a :: pre) b post (by rw [he]; rfl)
      · rw [List.append_assoc, List.singleton_append]

/-- **A loop passes** when each element passes behind the elements before it; its
state is then the one those elements determine. -/
theorem foldlM_eq_ok_iff {f : σ → α → Except ε σ} {g : List α → σ} {C : List α → α → Prop}
    (hstep : ∀ pre a s, f (g pre) a = .ok s ↔ C pre a ∧ g (pre ++ [a]) = s) {l : List α} {s : σ} :
    l.foldlM f (g []) = .ok s ↔ (∀ pre a post, l = pre ++ a :: post → C pre a) ∧ g l = s :=
  foldlM_prefix_eq_ok_iff hstep

/-- Every element had its turn in a loop that came to its end. -/
theorem exists_step_of_foldlM_eq_ok {f : σ → α → Except ε σ} {l : List α} {s s' : σ}
    (h : l.foldlM f s = .ok s') {a : α} (ha : a ∈ l) : ∃ t t', f t a = .ok t' := by
  induction l generalizing s with
  | nil => exact absurd ha List.not_mem_nil
  | cons b l ih =>
    rw [List.foldlM_cons] at h
    obtain ⟨t, ht, h⟩ := except_bind_eq_ok_iff.1 h
    obtain rfl | ha := List.mem_cons.1 ha
    · exact ⟨s, t, ht⟩
    · exact ih h ha

/-- A loop whose rounds pass or fail whatever its state passes when each of them does. -/
theorem exists_foldlM_eq_ok_iff {f : σ → α → Except ε σ} {P : α → Prop}
    (hstep : ∀ s a, (∃ s', f s a = .ok s') ↔ P a) {l : List α} {s : σ} :
    (∃ s', l.foldlM f s = .ok s') ↔ ∀ a ∈ l, P a := by
  induction l generalizing s with
  | nil => exact ⟨fun _ _ h => absurd h List.not_mem_nil, fun _ => ⟨s, rfl⟩⟩
  | cons a l ih =>
    simp only [List.foldlM_cons, except_bind_eq_ok_iff, List.forall_mem_cons]
    constructor
    · rintro ⟨s', t, ht, hs'⟩
      exact ⟨(hstep s a).1 ⟨t, ht⟩, ih.1 ⟨s', hs'⟩⟩
    · rintro ⟨hfirst, hrest⟩
      obtain ⟨t, ht⟩ := (hstep s a).2 hfirst
      obtain ⟨s', hs'⟩ := ih.2 hrest
      exact ⟨s', t, ht, hs'⟩

/-- What every round keeps holds of the state of a loop that passes. -/
theorem foldlM_invariant {f : σ → α → Except ε σ} {P : σ → Prop} {l : List α} {s s' : σ}
    (hstep : ∀ a ∈ l, ∀ t t', P t → f t a = .ok t' → P t') (hs : P s)
    (h : l.foldlM f s = .ok s') : P s' := by
  induction l generalizing s with
  | nil =>
    rw [List.foldlM_nil] at h
    exact Except.ok.inj h ▸ hs
  | cons a l ih =>
    rw [List.foldlM_cons] at h
    obtain ⟨t, hround, hrest⟩ := except_bind_eq_ok_iff.1 h
    exact ih (fun b hb => hstep b (List.mem_cons_of_mem a hb))
      (hstep a List.mem_cons_self s t hs hround) hrest

/-- A loop that keeps no state passes when each element does. -/
theorem foldlM_unit_eq_ok_iff {f : Unit → α → Except ε Unit} {l : List α} {u : Unit} :
    l.foldlM f () = .ok u ↔ ∀ a ∈ l, f () a = .ok () := by
  induction l with
  | nil => simp [pure, Except.pure]
  | cons a l ih => rw [List.foldlM_cons, except_seq_eq_ok_iff, ih, List.forall_mem_cons]

/-- A loop that makes one check of each element makes it of all. -/
theorem foldlM_failIf {bad : α → Prop} [DecidablePred bad] {e : ε} {l : List α} :
    l.foldlM (fun _ a => failIf (bad a) e) () = failIf (∃ a ∈ l, bad a) e := by
  induction l with
  | nil => simp [failIf, pure, Except.pure]
  | cons a l ih =>
    rw [List.foldlM_cons]
    by_cases ha : bad a
    · simp [failIf, ha, bind, Except.bind]
    · rw [show failIf (bad a) e = .ok () from if_neg ha]
      exact ih.trans (by simp [failIf, ha])

/-- A check of all neighbours, `windows(2)`, says the same of all pairs when the relation
is transitive. -/
theorem not_any_windows_iff {r : α → α → Prop} [IsTrans α r] {p : α × α → Bool}
    (hp : ∀ a b, p (a, b) = false ↔ r a b) {l : List α} :
    (l.zip l.tail).any p = false ↔ l.Pairwise r := by
  rw [← List.isChain_iff_pairwise]
  induction l with
  | nil => simp
  | cons a l ih =>
    cases l with
    | nil => simp
    | cons b l =>
      rw [List.isChain_cons_cons, ← ih, ← hp]
      simp

/-- A property of each element behind the elements before it, of a list that one
element is added to. -/
theorem forall_prefix_append_singleton {C : List α → α → Prop} {l : List α} {a : α} :
    (∀ pre b post, l ++ [a] = pre ++ b :: post → C pre b) ↔
      (∀ pre b post, l = pre ++ b :: post → C pre b) ∧ C l a := by
  constructor
  · intro h
    refine ⟨fun pre b post he => h pre b (post ++ [a]) (by rw [he]; simp), h l a [] rfl⟩
  · rintro ⟨hl, ha⟩ pre b post he
    obtain ⟨mid, rfl, hmid⟩ | ⟨mid, rfl, hmid⟩ := List.append_eq_append_iff.1 he
    · cases mid with
      | nil =>
        obtain ⟨rfl, -⟩ := List.cons.inj hmid
        rwa [List.append_nil]
      | cons c mid => simp at hmid
    · cases mid with
      | nil =>
        obtain ⟨rfl, -⟩ := List.cons.inj hmid
        rw [List.append_nil] at ha
        exact ha
      | cons c mid =>
        obtain ⟨rfl, rfl⟩ := List.cons.inj hmid
        exact hl pre b mid rfl

/-- What is asked of an element alone is asked of every member. -/
theorem forall_prefix_mem_iff {P : α → Prop} {l : List α} :
    (∀ pre a post, l = pre ++ a :: post → P a) ↔ ∀ a ∈ l, P a := by
  constructor
  · intro h a ha
    obtain ⟨pre, post, he⟩ := List.append_of_mem ha
    exact h pre a post he
  · rintro h pre a post rfl
    exact h a (by simp)

/-- No element has the key of an element before it: the keys are distinct. -/
theorem forall_prefix_notMem_iff {key : α → β} {l : List α} :
    (∀ pre a post, l = pre ++ a :: post → key a ∉ pre.map key) ↔ (l.map key).Nodup := by
  induction l using List.reverseRecOn with
  | nil => simp
  | append_singleton l a ih =>
    rw [forall_prefix_append_singleton (C := fun pre a => key a ∉ pre.map key), ih, List.map_append,
      List.map_singleton, ← List.concat_eq_append, List.nodup_concat]
    exact and_comm

/-- The key of the last element, `first` when there is none. -/
def lastKey (first : β) (key : α → β) (l : List α) : β := (l.getLast?.map key).getD first

@[simp] theorem lastKey_nil (first : β) (key : α → β) : lastKey first key [] = first := rfl

@[simp] theorem lastKey_append_singleton (first : β) (key : α → β) (l : List α) (a : α) :
    lastKey first key (l ++ [a]) = key a := by
  simp [lastKey]

theorem map_lastKey (f : β → σ) (first : β) (key : α → β) (l : List α) :
    f (lastKey first key l) = lastKey (f first) (fun a => f (key a)) l := by
  unfold lastKey
  cases l.getLast? <;> rfl

/-- Each element has a key above the one before it: the keys increase from zero. -/
theorem forall_prefix_lastKey_lt_iff {key : α → ℕ} {l : List α} :
    (∀ pre a post, l = pre ++ a :: post → lastKey 0 key pre < key a) ↔
      l.Pairwise (fun a b => key a < key b) ∧ ∀ a ∈ l, 0 < key a := by
  induction l using List.reverseRecOn with
  | nil => simp
  | append_singleton l a ih =>
    rw [forall_prefix_append_singleton (C := fun pre a => lastKey 0 key pre < key a), ih,
      List.pairwise_append]
    simp only [List.pairwise_singleton, List.mem_singleton, List.mem_append, true_and]
    constructor
    · rintro ⟨⟨hpair, hpos⟩, hlast⟩
      have hle : ∀ b ∈ l, key b ≤ lastKey 0 key l := by
        intro b hb
        obtain rfl | ⟨l', c, rfl⟩ := l.eq_nil_or_concat
        · cases hb
        · rw [List.concat_eq_append, lastKey_append_singleton]
          rw [List.concat_eq_append, List.pairwise_append] at hpair
          obtain hb | hb := List.mem_append.1 (List.concat_eq_append ▸ hb)
          · exact (hpair.2.2 b hb c (List.mem_singleton_self c)).le
          · rw [List.mem_singleton.1 hb]
      refine ⟨⟨hpair, fun b hb c hc => hc ▸ (hle b hb).trans_lt hlast⟩, fun b hb => ?_⟩
      obtain hb | rfl := hb
      · exact hpos b hb
      · omega
    · rintro ⟨⟨hpair, hlast⟩, hpos⟩
      refine ⟨⟨hpair, fun b hb => hpos b (Or.inl hb)⟩, ?_⟩
      obtain rfl | ⟨l', c, rfl⟩ := l.eq_nil_or_concat
      · exact hpos a (Or.inr rfl)
      · rw [List.concat_eq_append, lastKey_append_singleton]
        exact hlast c (by simp) a rfl

/-- An element of a filtered list stands behind what the filter keeps of the
elements before it. -/
theorem exists_prefix_of_filter {p : α → Bool} {l pre post : List α} {a : α}
    (h : l.filter p = pre ++ a :: post) :
    ∃ pre' post', l = pre' ++ a :: post' ∧ pre'.filter p = pre ∧ p a = true := by
  obtain ⟨l₁, l₂, rfl, rfl, h₂⟩ := List.filter_eq_append_iff.1 h
  obtain ⟨l₃, l₄, rfl, hnone, hp, -⟩ := List.filter_eq_cons_iff.1 h₂
  refine ⟨l₁ ++ l₃, l₄, by rw [List.append_assoc], ?_, hp⟩
  rw [List.filter_append, List.filter_eq_nil_iff.2 hnone, List.append_nil]

/-! ### Checks inside a mutating method -/

/-- A call that fails leaves the state as it was. -/
def KeepsOnError (x : EStateM ε σ α) (s : σ) : Prop := ∀ e s', x s = .error e s' → s' = s

theorem ofResult_bind_eq_ok_iff {r : Except ε α} {f : α → EStateM ε σ β} {s s' : σ} {b : β} :
    (ofResult r >>= f) s = .ok b s' ↔ ∃ a, r = .ok a ∧ f a s = .ok b s' := by
  cases r with
  | ok a => simp [bind_apply, ofResult_ok]
  | error e => simp [bind_apply, ofResult_error]

/-- Reading the state passes it on. -/
theorem keepsOnError_get {f : σ → EStateM ε σ α} {s : σ} (h : KeepsOnError (f s) s) :
    KeepsOnError (get >>= f) s := h

/-- A check passes the state on. -/
theorem keepsOnError_bind {r : Except ε α} {f : α → EStateM ε σ β} {s : σ}
    (h : ∀ a, r = .ok a → KeepsOnError (f a) s) : KeepsOnError (ofResult r >>= f) s := by
  intro e s' he
  rw [bind_apply] at he
  cases hr : r with
  | ok a =>
    rw [hr, ofResult_ok] at he
    exact h a hr e s' he
  | error err =>
    rw [hr, ofResult_error] at he
    cases he
    rfl

/-- Assigning the state and returning does not fail. -/
theorem keepsOnError_set {s s' : σ} {a : α} :
    KeepsOnError (do set s'; pure a : EStateM ε σ α) s := by
  intro e t h
  cases h

end Machine
