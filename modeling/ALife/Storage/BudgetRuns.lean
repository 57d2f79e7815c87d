/-
# Runs under a quota

What holds of an output tree after every run of calls: the files and what is held
stay within the limit and no difference wraps (`quota_kept`), two live writers are
never at one path (`writers_apart`), the used bytes are those of the files where
none was cut from outside (`used_eq_files`), and a ledger that is given up takes
nothing more (`given_up`).

The length of a file is read before the lock is taken by which it is opened.  The
results are about runs in which no file changes in between (`Timely`); one that
grows there is lost to the ledger.
-/

import ALife.Storage.BudgetInvariant

namespace ALife

open Machine

namespace Storage

variable {N : Type} [LinearOrder N]

namespace OutputTree

variable {t t' : OutputTree N}

/-! ### Runs -/

theorem register_inv {limit : UInt64} {files : OrderedMap (List N) ℕ}
    (h : register limit files = .ok t) : t.Inv ∧ t.limit = limit.toNat := by
  obtain ⟨-, h⟩ := except_seq_eq_ok_iff.1 h
  obtain ⟨-, h⟩ := except_seq_eq_ok_iff.1 h
  obtain ⟨hlimit, h⟩ := except_seq_eq_ok_iff.1 h
  obtain rfl := Except.ok.inj h
  rw [failIf_eq_ok_iff, not_lt] at hlimit
  have htotal : (files.mapValues fun bytes => (⟨bytes, 0, true⟩ : Entry)).total Entry.bytes
      = files.total id := by
    have := OrderedMap.total_mapValues_add (f := Entry.bytes) (g := fun _ => 0) (h := id)
      (t := fun bytes => (⟨bytes, 0, true⟩ : Entry)) (fun _ => rfl) files
    rwa [OrderedMap.total_eq_zero (f := fun _ : ℕ => 0) fun _ _ _ => rfl] at this
  have hentry : ∀ p e, (files.mapValues fun bytes => (⟨bytes, 0, true⟩ : Entry)).get? p = some e →
      ∃ n, files.get? p = some n ∧ (⟨n, 0, true⟩ : Entry) = e := by
    intro p e he
    rw [OrderedMap.get?_mapValues] at he
    exact Option.map_eq_some_iff.1 he
  refine ⟨⟨⟨limit.toNat_lt, htotal.le, hlimit, le_rfl, hlimit, hlimit, rfl, fun _ _ => rfl,
    fun _ _ => rfl, fun p e he => ?_, nofun⟩, fun _ => ⟨htotal.symm, fun p e he => ?_,
    fun p n hn => .inr ⟨⟨n, 0, true⟩, ?_, le_rfl⟩⟩⟩, rfl⟩
  · obtain ⟨n, -, rfl⟩ := hentry p e he
    exact ⟨rfl, Nat.zero_le 1, fun _ => rfl⟩
  · obtain ⟨n, hn, rfl⟩ := hentry p e he
    exact ⟨n, hn, le_rfl⟩
  · rw [OrderedMap.get?_mapValues, hn]
    rfl

/-- A call of which only the tree is of interest. -/
theorem fst_eq_ok {x : Except Stop (OutputTree N)} {r : OutputTree N × Option Stop}
    (h : (do pure (← x, (none : Option Stop))) = Except.ok r) : x = .ok r.1 := by
  obtain ⟨a, ha, h⟩ := except_bind_eq_ok_iff.1 h
  obtain rfl := Except.ok.inj h
  exact ha

/-- **A call keeps the ledger.** -/
theorem call_inv (h : t.Inv) {c : Call N} (hc : t.Current c) {r : OutputTree N × Option Stop}
    (hcall : t.call c = .ok r) : r.1.Inv := by
  cases c with
  | reserve bytes => exact reserve_inv h (fst_eq_ok hcall)
  | dropReservation handle => exact Except.ok.inj hcall ▸ dropReservation_inv h handle
  | writerInner path append length position => exact writerInner_inv h hc (fst_eq_ok hcall)
  | dropWriter handle => exact Except.ok.inj hcall ▸ dropWriter_inv h handle
  | seek handle next => exact seek_inv h (fst_eq_ok hcall)
  | write handle count o => exact write_inv h hcall
  | create path metadata created => exact create_inv h (fst_eq_ok hcall)
  | hardLink source destination bytes directory linked =>
    exact hardLink_inv h (fst_eq_ok hcall)
  | replaceWith source destination o => exact replaceWith_inv h hcall
  | removeFile path removed => exact removeFile_inv h (fst_eq_ok hcall)
  | removeTree path o => exact removeTree_inv h hcall
  | shrink path length => exact Except.ok.inj hcall ▸ shrink_inv h path length
  | touch path => exact Except.ok.inj hcall ▸ touch_inv h path

theorem after_inv (h : t.Inv) {c : Call N} (hc : t.Current c) : (t.after c).Inv := by
  unfold after
  cases hcall : t.call c with
  | error _ => exact h
  | ok r => exact call_inv h hc hcall

/-- **A run keeps the ledger.** -/
theorem run_inv (h : t.Inv) {calls : List (Call N)} (hcalls : t.Timely calls) :
    (t.run calls).Inv := by
  induction calls generalizing t with
  | nil => exact h
  | cons c calls ih => exact ih (after_inv h hcalls.1) hcalls.2

/-! ### The limit stays, and nothing wraps -/

/-- All that a computation can return. -/
def Returns {β : Type} (P : β → Prop) (x : Except Stop β) : Prop := ∀ b, x = .ok b → P b

theorem Returns.bind {α β : Type} {P : β → Prop} {x : Except Stop α} {f : α → Except Stop β}
    (h : ∀ a, x = .ok a → Returns P (f a)) : Returns P (x >>= f) := by
  intro b hb
  obtain ⟨a, ha, hb⟩ := except_bind_eq_ok_iff.1 hb
  exact h a ha b hb

theorem Returns.ok {β : Type} {P : β → Prop} {b : β} (h : P b) :
    Returns P (.ok b : Except Stop β) := fun _ hb => Except.ok.inj hb ▸ h

theorem Returns.fst {P : OutputTree N × Option Stop → Prop} {x : Except Stop (OutputTree N)}
    (h : Returns (fun a => P (a, none)) x) : Returns P (do pure (← x, (none : Option Stop))) := by
  intro r hr
  obtain ⟨a, ha, hr⟩ := except_bind_eq_ok_iff.1 hr
  exact Except.ok.inj hr ▸ h a ha

theorem call_limit (t : OutputTree N) (c : Call N) :
    Returns (fun r => r.1.limit = t.limit) (t.call c) := by
  cases c with
  | reserve bytes => exact .fst (.bind fun _ _ => .bind fun _ _ => .ok rfl)
  | dropReservation handle =>
    refine .ok ?_
    unfold dropReservation
    split <;> rfl
  | writerInner path append length position =>
    exact .fst (.bind fun _ _ => .bind fun _ _ => .bind fun _ _ => .bind fun _ _ => .bind fun _ _ =>
      .bind fun _ _ => .bind fun _ _ => .ok rfl)
  | dropWriter handle =>
    refine .ok ?_
    unfold dropWriter
    split <;> rfl
  | seek handle next => exact .fst (.bind fun _ _ => .bind fun _ _ => .ok rfl)
  | write handle count o =>
    exact .bind fun _ _ => .bind fun _ _ => .bind fun _ _ => .bind fun _ _ => .bind fun _ _ =>
      .bind fun _ _ => .ok rfl
  | create path metadata created =>
    exact .fst (.bind fun _ _ => .bind fun _ _ => .bind fun _ _ => .bind fun _ _ => .bind fun _ _ =>
      .ok rfl)
  | hardLink source destination bytes directory linked =>
    exact .fst (.bind fun _ _ => .bind fun _ _ => .bind fun _ _ => .bind fun _ _ => .bind fun _ _ =>
      .bind fun _ _ => .bind fun _ _ => .ok rfl)
  | replaceWith source destination o =>
    refine .bind fun _ _ => .bind fun _ _ => .bind fun _ _ => .bind fun _ _ => .bind fun _ _ => ?_
    cases o.outcome with
    | failed => exact nofun
    | kept =>
      refine .ok ?_
      split_ifs <;> rfl
    | moved =>
      refine .bind fun _ _ => ?_
      dsimp only
      split_ifs
      · exact .ok rfl
      · exact .bind fun _ _ => .ok rfl
  | removeFile path removed =>
    exact .fst (.bind fun _ _ => .bind fun _ _ => .bind fun _ _ => .ok rfl)
  | removeTree path o => exact .bind fun _ _ => .bind fun _ _ => .ok rfl
  | shrink path length =>
    refine .ok ?_
    unfold shrink
    split <;> rfl
  | touch path =>
    refine .ok ?_
    unfold touch
    split <;> rfl

theorem run_limit (t : OutputTree N) (calls : List (Call N)) : (t.run calls).limit = t.limit := by
  induction calls generalizing t with
  | nil => rfl
  | cons c calls ih =>
    refine (ih (t.after c)).trans ?_
    unfold after
    cases hcall : t.call c with
    | error _ => rfl
    | ok r => exact call_limit t c r hcall

/-- No difference wraps. -/
def Safe {α : Type} (x : Except Stop α) : Prop := x ≠ .error .panic

section Safe

variable {α β : Type}

theorem Safe.bind {x : Except Stop α} {f : α → Except Stop β} (hx : Safe x)
    (hf : ∀ a, x = .ok a → Safe (f a)) : Safe (x >>= f) := by
  cases hxa : x with
  | error e => exact fun h => hx (hxa.trans (congrArg Except.error (Except.error.inj h)))
  | ok a => exact hf a hxa

theorem safe_ok (a : α) : Safe (.ok a : Except Stop α) := nofun

theorem safe_failIf {bad : Prop} [Decidable bad] {e : Stop} (h : bad → e ≠ .panic) :
    Safe (failIf bad e) := by
  unfold failIf Safe
  split_ifs with hbad
  · exact fun heq => h hbad (Except.error.inj heq)
  · nofun

theorem safe_getOr {o : Option α} {e : Stop} (h : e ≠ .panic) : Safe (getOr o e) := by
  cases o with
  | none => exact fun heq => h (Except.error.inj heq)
  | some a => exact safe_ok a

theorem safe_sub {a b : ℕ} (h : b ≤ a) : Safe (sub a b) := by
  unfold sub
  rw [if_pos h]
  exact safe_ok _

theorem safe_check (t : OutputTree N) (additional : ℕ) : Safe (t.check additional) :=
  .bind (safe_failIf fun _ => nofun) fun _ _ => safe_failIf fun _ => nofun

theorem safe_foldlM_sub {K : Type} {l : List (K × Entry)} {used : ℕ}
    (h : (l.map fun e => e.2.bytes).sum ≤ used) :
    Safe (l.foldlM (fun used e => sub used e.2.bytes) used) := by
  induction l generalizing used with
  | nil => exact safe_ok used
  | cons e l ih =>
    rw [List.map_cons, List.sum_cons] at h
    rw [List.foldlM_cons]
    refine .bind (safe_sub (by omega)) fun mid hmid => ih ?_
    obtain ⟨-, rfl⟩ := sub_eq_ok hmid
    omega

end Safe

/-- **No call wraps**, whatever the file system answers. -/
theorem call_safe (h : t.Inv) (c : Call N) : Safe (t.call c) := by
  have hkept := h.kept
  have hbytes : ∀ path, (t.state.entries.get? path).elim 0 Entry.bytes ≤ t.state.used := by
    intro path
    cases he : t.state.entries.get? path with
    | none => exact Nat.zero_le _
    | some e => exact (OrderedMap.le_total (f := Entry.bytes) he).trans hkept.entries_le
  have hfiltered : ∀ p : List N × Entry → Bool,
      ((t.state.entries.entries.filter p).map fun e => e.2.bytes).sum ≤ t.state.used := by
    intro p
    have hparts := OrderedMap.total_filter_add (g := Entry.bytes) (fun e => !p e) t.state.entries
    simp only [Bool.not_not] at hparts
    exact (Nat.le_add_left _ _).trans (hparts.trans_le hkept.entries_le)
  cases c with
  | reserve bytes =>
    exact .bind (.bind (safe_check t _) fun _ _ => .bind (safe_failIf fun _ => nofun)
      fun _ _ => safe_ok _) fun _ _ => safe_ok _
  | dropReservation handle => exact safe_ok _
  | writerInner path append length position =>
    refine .bind ?_ fun _ _ => safe_ok _
    refine .bind (safe_getOr nofun) fun length _ => .bind (safe_getOr nofun) fun _ _ =>
      .bind (safe_check t 0) fun _ _ => .bind (safe_failIf fun _ => nofun) fun _ _ =>
      .bind (safe_failIf fun _ => nofun) fun _ _ => .bind (safe_failIf fun _ => nofun) fun _ _ =>
      .bind (safe_sub ?_) fun _ _ => safe_ok _
    refine le_trans ?_ (hbytes path)
    cases t.state.entries.get? path with
    | none => exact le_rfl
    | some e => exact Nat.sub_le _ _
  | dropWriter handle => exact safe_ok _
  | seek handle next =>
    exact .bind (.bind (safe_getOr nofun) fun _ _ => .bind (safe_getOr nofun) fun _ _ => safe_ok _)
      fun _ _ => safe_ok _
  | write handle count o =>
    refine .bind (safe_getOr nofun) fun w hw => .bind (safe_getOr nofun) fun e he =>
      .bind (safe_failIf fun _ => nofun) fun _ _ => .bind (safe_check t _) fun _ hcheck =>
      .bind (safe_failIf fun hfits => ?_) fun _ _ => .bind (safe_sub ?_) fun _ _ => safe_ok _
    · obtain ⟨-, hroom⟩ := check_eq_ok hcheck
      rw [getOr_eq_ok_iff] at he
      have hle := hkept.bytes_le he
      exact absurd (lt_of_le_of_lt (by omega) hkept.limit) hfits
    · rw [getOr_eq_ok_iff] at he
      exact Nat.add_le_add_right (hkept.bytes_le he) _
  | create path metadata created =>
    refine .bind (.bind (safe_check t 0) fun _ _ => .bind (safe_failIf fun _ => nofun) fun _ _ =>
      .bind (safe_failIf fun _ => nofun) fun _ _ => .bind (safe_failIf fun _ => nofun) fun _ _ =>
      .bind (safe_sub (hbytes path)) fun _ _ => safe_ok _) fun _ _ => safe_ok _
  | hardLink source destination bytes directory linked =>
    exact .bind (.bind (safe_failIf fun _ => nofun) fun _ _ => .bind (safe_check t _) fun _ _ =>
      .bind (safe_getOr nofun) fun _ _ => .bind (safe_failIf fun _ => nofun) fun _ _ =>
      .bind (safe_failIf fun _ => nofun) fun _ _ => .bind (safe_getOr nofun) fun _ _ =>
      .bind (safe_failIf fun _ => nofun) fun _ _ => safe_ok _) fun _ _ => safe_ok _
  | replaceWith source destination o =>
    refine .bind (safe_check t 0) fun _ _ => .bind (safe_failIf fun _ => nofun) fun _ _ =>
      .bind (safe_failIf fun _ => nofun) fun _ _ => .bind (safe_failIf fun _ => nofun) fun _ _ =>
      .bind (safe_failIf fun _ => nofun) fun _ _ => ?_
    cases o.outcome with
    | failed => exact nofun
    | kept => exact safe_ok _
    | moved =>
      refine .bind (safe_failIf fun _ => nofun) fun _ _ => ?_
      dsimp only
      split_ifs
      · exact safe_ok _
      · exact .bind (safe_foldlM_sub (hfiltered _)) fun _ _ => safe_ok _
  | removeFile path removed =>
    exact .bind (.bind (safe_failIf fun _ => nofun) fun _ _ => .bind (safe_failIf fun _ => nofun)
      fun _ _ => .bind (safe_sub (hbytes path)) fun _ _ => safe_ok _) fun _ _ => safe_ok _
  | removeTree path o =>
    refine .bind (safe_failIf fun _ => nofun) fun _ _ => .bind (safe_foldlM_sub ?_)
      fun _ _ => safe_ok _
    rw [OrderedMap.below, List.filter_filter]
    exact hfiltered _
  | shrink path length => exact safe_ok _
  | touch path => exact safe_ok _

/-! ### Without truncation from outside -/

/-- Every entry is as long as its file. -/
def Tight (t : OutputTree N) : Prop :=
  ∀ path e, t.state.entries.get? path = some e → t.files.get? path = some e.bytes

/-- An exact ledger with entries as long as their files says how much there is. -/
theorem Exact.used_eq (h : t.Exact) (htight : t.Tight) : t.state.used = t.files.total id := by
  refine le_antisymm ?_ (h.covered.total_le.trans h.used.ge)
  rw [h.used]
  exact OrderedMap.total_le_total fun path e he => .inr ⟨e.bytes, htight path e he, le_rfl⟩

theorem register_tight {limit : UInt64} {files : OrderedMap (List N) ℕ}
    (h : register limit files = .ok t) : t.Tight := by
  obtain ⟨-, h⟩ := except_seq_eq_ok_iff.1 h
  obtain ⟨-, h⟩ := except_seq_eq_ok_iff.1 h
  obtain ⟨-, h⟩ := except_seq_eq_ok_iff.1 h
  obtain rfl := Except.ok.inj h
  intro p e he
  dsimp only at he ⊢
  rw [OrderedMap.get?_mapValues] at he
  obtain ⟨n, hn, rfl⟩ := Option.map_eq_some_iff.1 he
  exact hn

theorem writerInner_tight (htight : t.Tight) {path : List N} {append : Bool}
    {read position : Option ℕ} (hread : t.Current (.writerInner path append read position))
    (hcall : t.writerInner path append read position = .ok t') : t'.Tight := by
  obtain ⟨length, hlength, hcall⟩ := except_bind_eq_ok_iff.1 hcall
  obtain ⟨position', -, hcall⟩ := except_bind_eq_ok_iff.1 hcall
  obtain ⟨-, hcall⟩ := except_seq_eq_ok_iff.1 hcall
  obtain ⟨-, hcall⟩ := except_seq_eq_ok_iff.1 hcall
  obtain ⟨-, hcall⟩ := except_seq_eq_ok_iff.1 hcall
  obtain ⟨-, hcall⟩ := except_seq_eq_ok_iff.1 hcall
  obtain ⟨used, -, hcall⟩ := except_bind_eq_ok_iff.1 hcall
  obtain rfl := Except.ok.inj hcall
  replace hlength := hread length (getOr_eq_ok_iff.1 hlength)
  exact OrderedMap.forall_get?_insert hlength fun p e _ he => htight p e he

theorem dropWriter_tight (htight : t.Tight) (handle : ℕ) : (t.dropWriter handle).Tight := by
  unfold dropWriter
  cases t.writers.get? handle with
  | none => exact htight
  | some w =>
    intro p e he
    dsimp only at he ⊢
    cases hentry : t.state.entries.get? w.path with
    | none =>
      rw [hentry] at he
      exact htight p e he
    | some f =>
      rw [hentry] at he
      exact OrderedMap.forall_get?_insert (P := fun p e => t.files.get? p = some e.bytes)
        (htight w.path f hentry) (fun p e _ he => htight p e he) p e he

theorem write_tight (htight : t.Tight) {handle count : ℕ} {o : Written} {stop : Option Stop}
    (hcall : t.write handle count o = .ok (t', stop)) (hp : t'.state.poisoned = false) :
    t'.Tight := by
  obtain ⟨w, -, hcall⟩ := except_bind_eq_ok_iff.1 hcall
  obtain ⟨e, -, hcall⟩ := except_bind_eq_ok_iff.1 hcall
  obtain ⟨-, hcall⟩ := except_seq_eq_ok_iff.1 hcall
  obtain ⟨-, hcall⟩ := except_seq_eq_ok_iff.1 hcall
  obtain ⟨-, hcall⟩ := except_seq_eq_ok_iff.1 hcall
  obtain ⟨used, -, hcall⟩ := except_bind_eq_ok_iff.1 hcall
  obtain ⟨rfl, -⟩ := Prod.mk.inj (Except.ok.inj hcall)
  -- a write that could not be verified gives the ledger up
  obtain ⟨hverified, -⟩ := Bool.or_eq_false_iff.1 hp
  rw [Bool.not_eq_false'] at hverified
  refine OrderedMap.forall_get?_insert ?_ fun p f hne hf => ?_
  · rw [OrderedMap.get?_insert_self]
    exact congrArg some (if_pos hverified).symm
  · rw [OrderedMap.get?_insert_of_ne hne]
    exact htight p f hf

theorem create_tight (htight : t.Tight) {path : List N} {metadata created : Bool}
    (hcall : t.create path metadata created = .ok t') : t'.Tight := by
  obtain ⟨-, hcall⟩ := except_seq_eq_ok_iff.1 hcall
  obtain ⟨-, hcall⟩ := except_seq_eq_ok_iff.1 hcall
  obtain ⟨-, hcall⟩ := except_seq_eq_ok_iff.1 hcall
  obtain ⟨-, hcall⟩ := except_seq_eq_ok_iff.1 hcall
  obtain ⟨used, -, hcall⟩ := except_bind_eq_ok_iff.1 hcall
  obtain rfl := Except.ok.inj hcall
  refine OrderedMap.forall_get?_insert OrderedMap.get?_insert_self fun p f hne hf => ?_
  exact (OrderedMap.get?_insert_of_ne hne).trans (htight p f hf)

theorem hardLink_tight (htight : t.Tight) {source destination : List N} {bytes : ℕ}
    {directory linked : Bool}
    (hcall : t.hardLink source destination bytes directory linked = .ok t') : t'.Tight := by
  obtain ⟨hfree, hcall⟩ := except_seq_eq_ok_iff.1 hcall
  obtain ⟨-, hcall⟩ := except_seq_eq_ok_iff.1 hcall
  obtain ⟨e, he, hcall⟩ := except_bind_eq_ok_iff.1 hcall
  obtain ⟨hbytes, hcall⟩ := except_seq_eq_ok_iff.1 hcall
  obtain ⟨-, hcall⟩ := except_seq_eq_ok_iff.1 hcall
  obtain ⟨length, hlength, hcall⟩ := except_bind_eq_ok_iff.1 hcall
  obtain ⟨-, hcall⟩ := except_seq_eq_ok_iff.1 hcall
  obtain rfl := Except.ok.inj hcall
  rw [failIf_eq_ok_iff] at hfree hbytes
  rw [not_not] at hbytes
  rw [getOr_eq_ok_iff] at he hlength
  have hnofile := holds_eq_false (Bool.eq_false_iff.2 fun h => hfree (.inl h))
  have hsource := htight source e he
  have hsame : length = bytes := by
    rw [hlength] at hsource
    exact (Option.some.inj hsource).trans hbytes
  have hother : ∀ p f, t.state.entries.get? p = some f →
      (t.files.insert destination length).get? p = some f.bytes := by
    intro p f hf
    rw [OrderedMap.get?_insert_of_ne]
    · exact htight p f hf
    · rintro rfl
      rw [htight p f hf] at hnofile
      cases hnofile
  refine OrderedMap.forall_get?_insert (OrderedMap.get?_insert_self.trans (congrArg some hsame))
    fun p f _ hf => ?_
  exact OrderedMap.forall_get?_insert
    (P := fun p f => (t.files.insert destination length).get? p = some f.bytes)
    (hother source e he) (fun p f _ hf => hother p f hf) p f hf

theorem replaceWith_tight (htight : t.Tight) {source destination : List N} {o : Replaced}
    {stop : Option Stop} (hcall : t.replaceWith source destination o = .ok (t', stop))
    (hp : t'.state.poisoned = false) : t'.Tight := by
  obtain ⟨-, hcall⟩ := except_seq_eq_ok_iff.1 hcall
  obtain ⟨-, hcall⟩ := except_seq_eq_ok_iff.1 hcall
  obtain ⟨-, hcall⟩ := except_seq_eq_ok_iff.1 hcall
  obtain ⟨-, hcall⟩ := except_seq_eq_ok_iff.1 hcall
  obtain ⟨-, hcall⟩ := except_seq_eq_ok_iff.1 hcall
  cases houtcome : o.outcome with
  | failed =>
    rw [houtcome] at hcall
    cases hcall
  | kept =>
    rw [houtcome] at hcall
    have heq := congrArg Prod.fst (Except.ok.inj hcall)
    dsimp only at heq
    split_ifs at heq
    · exact absurd (heq ▸ hp) (by simp [poison])
    · exact heq ▸ htight
    · exact absurd (heq ▸ hp) (by simp [poison])
  | moved =>
    rw [houtcome] at hcall
    obtain ⟨hapart, hcall⟩ := except_seq_eq_ok_iff.1 hcall
    rw [failIf_eq_ok_iff, not_or] at hapart
    split_ifs at hcall
    · obtain ⟨rfl, -⟩ := Prod.mk.inj (Except.ok.inj hcall)
      cases hp
    · obtain ⟨used, -, hcall⟩ := except_bind_eq_ok_iff.1 hcall
      obtain ⟨rfl, -⟩ := Prod.mk.inj (Except.ok.inj hcall)
      intro p e he
      dsimp only at he ⊢
      rw [OrderedMap.get?_relocate hapart] at he ⊢
      split_ifs at he ⊢ with hdst hsrc
      · obtain ⟨f, hf, rfl⟩ := Option.map_eq_some_iff.1 he
        rw [htight _ f hf]
        rfl
      · exact htight p e he

theorem removeFile_tight (htight : t.Tight) {path : List N} {removed : Bool}
    (hcall : t.removeFile path removed = .ok t') : t'.Tight := by
  obtain ⟨-, hcall⟩ := except_seq_eq_ok_iff.1 hcall
  obtain ⟨-, hcall⟩ := except_seq_eq_ok_iff.1 hcall
  obtain ⟨used, -, hcall⟩ := except_bind_eq_ok_iff.1 hcall
  obtain rfl := Except.ok.inj hcall
  refine OrderedMap.forall_get?_erase fun p e hne he => ?_
  exact (OrderedMap.get?_erase_of_ne hne).trans (htight p e he)

theorem removeTree_tight (htight : t.Tight) {path : List N} {o : Removed N} {stop : Option Stop}
    (hcall : t.removeTree path o = .ok (t', stop)) (hp : t'.state.poisoned = false) :
    t'.Tight := by
  obtain ⟨-, hcall⟩ := except_seq_eq_ok_iff.1 hcall
  obtain ⟨used, -, hcall⟩ := except_bind_eq_ok_iff.1 hcall
  obtain ⟨rfl, -⟩ := Prod.mk.inj (Except.ok.inj hcall)
  obtain ⟨-, hbad⟩ := Bool.or_eq_false_iff.1 hp
  intro p e he
  dsimp only at he ⊢
  rw [OrderedMap.get?_filter, Option.filter_eq_some_iff] at he
  obtain ⟨he, hstay⟩ := he
  by_cases hpath : path <+: p
  · obtain ⟨hread, hlength⟩ := left_of_not_bad hbad hpath he
    cases hget : (t.files.filter fun f => !(path <+: f.1) || o.left f.1).get? p with
    | some n => rw [hlength n hget]
    | none => simp [hpath, hread, hget] at hstay
  · rw [OrderedMap.get?_filter, htight p e he]
    simp [hpath]

theorem touch_tight (htight : t.Tight) (path : List N) : (t.touch path).Tight := by
  unfold touch
  cases hold : t.files.get? path with
  | some _ => exact htight
  | none =>
    intro p e he
    dsimp only
    rw [OrderedMap.get?_insert_of_ne]
    · exact htight p e he
    · rintro rfl
      rw [htight p e he] at hold
      cases hold

/-- Once the ledger is given up it stays so, and the files do not grow. -/
theorem call_given_up (t : OutputTree N) (c : Call N) :
    Returns (fun r => t.state.poisoned = true →
      r.1.state.poisoned = true ∧ r.1.files.total id ≤ t.files.total id) (t.call c) := by
  have hrefused : ∀ {additional : ℕ} {P : Prop}, t.check additional = .ok () →
      t.state.poisoned = true → P := by
    intro additional P hcheck hp
    rw [(check_eq_ok hcheck).1] at hp
    cases hp
  have hfilter : ∀ p : List N × ℕ → Bool, (t.files.filter p).total id ≤ t.files.total id :=
    fun p => (Nat.le_add_right _ _).trans (OrderedMap.total_filter_add p t.files).le
  cases c with
  | reserve bytes => exact .fst (.bind fun _ hcheck => .bind fun _ _ => .ok (hrefused hcheck))
  | dropReservation handle =>
    refine .ok fun hp => ?_
    unfold dropReservation
    split <;> exact ⟨hp, le_rfl⟩
  | writerInner path append length position =>
    exact .fst (.bind fun _ _ => .bind fun _ _ => .bind fun _ hcheck => .bind fun _ _ =>
      .bind fun _ _ => .bind fun _ _ => .bind fun _ _ => .ok (hrefused hcheck))
  | dropWriter handle =>
    refine .ok fun hp => ?_
    unfold dropWriter
    split <;> exact ⟨hp, le_rfl⟩
  | seek handle next =>
    exact .fst (.bind fun _ _ => .bind fun _ _ => .ok fun hp => ⟨hp, le_rfl⟩)
  | write handle count o =>
    exact .bind fun _ _ => .bind fun _ _ => .bind fun _ _ => .bind fun _ hcheck =>
      .bind fun _ _ => .bind fun _ _ => .ok (hrefused hcheck)
  | create path metadata created =>
    exact .fst (.bind fun _ hcheck => .bind fun _ _ => .bind fun _ _ => .bind fun _ _ =>
      .bind fun _ _ => .ok (hrefused hcheck))
  | hardLink source destination bytes directory linked =>
    exact .fst (.bind fun _ _ => .bind fun _ hcheck => .bind fun _ _ => .bind fun _ _ =>
      .bind fun _ _ => .bind fun _ _ => .bind fun _ _ => .ok (hrefused hcheck))
  | replaceWith source destination o =>
    exact .bind fun _ hcheck _ _ => hrefused hcheck
  | removeFile path removed =>
    refine .fst (.bind fun _ _ => .bind fun _ _ => .bind fun _ _ => .ok fun hp => ⟨hp, ?_⟩)
    exact hfilter _
  | removeTree path o =>
    refine .bind fun _ _ => .bind fun _ _ => .ok fun hp => ⟨?_, hfilter _⟩
    exact Bool.or_eq_true_iff.2 (.inl hp)
  | shrink path length =>
    refine .ok fun hp => ?_
    unfold shrink
    cases hold : t.files.get? path with
    | none => exact ⟨hp, le_rfl⟩
    | some old =>
      have htotal : (t.files.insert path (min old length)).total id + old
          = t.files.total id + min old length := OrderedMap.total_insert_some hold
      exact ⟨hp, by dsimp only; omega⟩
  | touch path =>
    refine .ok fun hp => ?_
    unfold touch
    cases hold : t.files.get? path with
    | none => exact ⟨hp, (OrderedMap.total_insert_new hold).le⟩
    | some _ => exact ⟨hp, le_rfl⟩

theorem call_tight (htight : t.state.poisoned = false → t.Tight) {c : Call N} (hread : t.Current c)
    (hc : ∀ path length, c ≠ .shrink path length) {r : OutputTree N × Option Stop}
    (hcall : t.call c = .ok r) (hp : r.1.state.poisoned = false) : r.1.Tight := by
  have htight : t.Tight := by
    refine htight (Bool.eq_false_iff.2 fun h => ?_)
    rw [(call_given_up t c r hcall h).1] at hp
    cases hp
  cases c with
  | reserve bytes =>
    have hr : Returns Tight (t.reserve bytes) := .bind fun _ _ => .bind fun _ _ => .ok htight
    exact hr _ (fst_eq_ok hcall)
  | dropReservation handle =>
    rw [← Except.ok.inj hcall]
    unfold dropReservation
    split <;> exact htight
  | writerInner path append length position =>
    exact writerInner_tight htight hread (fst_eq_ok hcall)
  | dropWriter handle => exact Except.ok.inj hcall ▸ dropWriter_tight htight handle
  | seek handle next =>
    have hr : Returns Tight (t.seek handle next) := .bind fun _ _ => .bind fun _ _ => .ok htight
    exact hr _ (fst_eq_ok hcall)
  | write handle count o => exact write_tight htight hcall hp
  | create path metadata created => exact create_tight htight (fst_eq_ok hcall)
  | hardLink source destination bytes directory linked =>
    exact hardLink_tight htight (fst_eq_ok hcall)
  | replaceWith source destination o => exact replaceWith_tight htight hcall hp
  | removeFile path removed => exact removeFile_tight htight (fst_eq_ok hcall)
  | removeTree path o => exact removeTree_tight htight hcall hp
  | shrink path length => exact absurd rfl (hc path length)
  | touch path => exact Except.ok.inj hcall ▸ touch_tight htight path

theorem run_tight (htight : t.state.poisoned = false → t.Tight) {calls : List (Call N)}
    (htimely : t.Timely calls) (hcalls : ∀ path length, Call.shrink path length ∉ calls)
    (hp : (t.run calls).state.poisoned = false) : (t.run calls).Tight := by
  induction calls generalizing t with
  | nil => exact htight hp
  | cons c calls ih =>
    refine ih (t := t.after c) (fun hafter => ?_) htimely.2
      (fun path length h => hcalls path length (List.mem_cons_of_mem c h)) hp
    have hc : ∀ path length, c ≠ .shrink path length := fun path length h =>
      hcalls path length (h ▸ List.mem_cons_self)
    unfold after at hafter ⊢
    cases hcall : t.call c with
    | error _ =>
      rw [hcall] at hafter
      exact htight hafter
    | ok r =>
      rw [hcall] at hafter
      exact call_tight htight htimely.1 hc hcall hafter

/-! ### What a registered quota promises -/

section Registered

variable {limit : UInt64} {files : OrderedMap (List N) ℕ} {calls : List (Call N)}

/-- An empty tree with a limit of eight bytes. -/
def emptyQuota : OutputTree ℕ := ⟨8, ⟨∅, 0, 0, 0, false⟩, ∅, ∅, ∅, 0⟩

/-- A file is written, opened again and left open next to a second one. -/
def openedTwice : List (Call ℕ) :=
  [.create [1] true true, .write 0 4 ⟨4, true, some 4, none⟩, .dropWriter 0,
    .writerInner [1] true (some 4) (some 0), .create [2] true true]

theorem register_emptyQuota : register 8 ∅ = .ok emptyQuota := rfl

theorem openedTwice_timely : emptyQuota.Timely openedTwice := by
  refine ⟨trivial, trivial, trivial, fun n h => ?_, trivial, trivial⟩
  obtain rfl := Option.some.inj h
  rfl

/-- **The quota is kept**: whatever the file system answers, the files of the tree stay within the
limit together with what the ledger says of them and holds, and no difference wraps. -/
theorem quota_kept (h : register limit files = .ok t) (hcalls : t.Timely calls) :
    (t.run calls).files.total id ≤ limit.toNat
      ∧ (t.run calls).state.used + (t.run calls).state.held ≤ limit.toNat
      ∧ (t.run calls).state.held = (t.run calls).reservations.total id
      ∧ (t.run calls).state.used ≤ (t.run calls).state.highWater
      ∧ (t.run calls).state.highWater ≤ limit.toNat
      ∧ ((t.run calls).state.poisoned = false →
        (t.run calls).files.total id ≤ (t.run calls).state.used)
      ∧ ∀ c, (t.run calls).call c ≠ .error .panic := by
  obtain ⟨hinv, hlimit⟩ := register_inv h
  have hrun := run_inv hinv hcalls
  have hkept := hrun.kept
  rw [← hlimit, ← run_limit t calls]
  refine ⟨hkept.files_le, hkept.within, hkept.held.symm, hkept.used_le, hkept.highWater_le,
    fun hp => ?_, fun c => call_safe hrun c⟩
  obtain ⟨hused, hcovered⟩ := hrun.exact hp
  exact hcovered.total_le.trans hused.ge

theorem quota_kept_openedTwice : (emptyQuota.run openedTwice).files.total id ≤ 8 :=
  (quota_kept register_emptyQuota openedTwice_timely).1

-- the length of a file is read, another writer adds four bytes, and then the file is opened
example : (emptyQuota.run [.create [1] true true, .dropWriter 0, .writerInner [1] true (some 0)
    (some 0), .write 1 4 ⟨4, true, some 4, none⟩, .dropWriter 1, .writerInner [1] true (some 0)
    (some 0), .dropWriter 2, .create [2] true true, .write 3 8 ⟨8, true, some 8, none⟩]).files.total
      id = 12 := rfl

/-- **Writers are apart**: two live ones are at two paths, and the entry of each counts it alone and
is not immutable. -/
theorem writers_apart (h : register limit files = .ok t) (hcalls : t.Timely calls) {i : ℕ}
    {v : BudgetWriter N} (hv : (t.run calls).writers.get? i = some v) :
    (∃ e, (t.run calls).state.entries.get? v.path = some e ∧ e.writers = 1 ∧ e.immutable = false)
      ∧ ∀ j w, j ≠ i → (t.run calls).writers.get? j = some w → w.path ≠ v.path := by
  have hhandles := (run_inv (register_inv h).1 hcalls).kept.handles
  obtain ⟨e, he⟩ := hhandles.writer i v hv
  exact ⟨⟨e, he, hhandles.writers_eq_one hv he⟩, fun j w hne hw => hhandles.paths_ne hne hw hv⟩

theorem writers_apart_openedTwice : ∃ e,
    (emptyQuota.run openedTwice).state.entries.get? [1] = some e ∧ e.writers = 1
      ∧ e.immutable = false :=
  (writers_apart register_emptyQuota openedTwice_timely (i := 1) (v := ⟨[1], 0, true⟩) rfl).1

/-- **The ledger is exact**: as long as it is not given up and no file is cut from outside, the used
bytes are those of the files. -/
theorem used_eq_files (h : register limit files = .ok t) (hcalls : t.Timely calls)
    (hcut : ∀ path length, Call.shrink path length ∉ calls)
    (hp : (t.run calls).state.poisoned = false) :
    (t.run calls).state.used = (t.run calls).files.total id :=
  ((run_inv (register_inv h).1 hcalls).exact hp).used_eq
    (run_tight (fun _ => register_tight h) hcalls hcut hp)

theorem used_eq_files_openedTwice :
    (emptyQuota.run openedTwice).state.used = (emptyQuota.run openedTwice).files.total id :=
  used_eq_files register_emptyQuota openedTwice_timely (by simp [openedTwice]) rfl

end Registered

/-- **A ledger that is given up** stays so, whatever is called, and lets no file grow. -/
theorem given_up (t : OutputTree N) (calls : List (Call N)) (h : t.state.poisoned = true) :
    (t.run calls).state.poisoned = true ∧ (t.run calls).files.total id ≤ t.files.total id := by
  induction calls generalizing t with
  | nil => exact ⟨h, le_rfl⟩
  | cons c calls ih =>
    have hstep : (t.after c).state.poisoned = true
        ∧ (t.after c).files.total id ≤ t.files.total id := by
      unfold after
      cases hcall : t.call c with
      | error _ => exact ⟨h, le_rfl⟩
      | ok r => exact call_given_up t c r hcall h
    obtain ⟨hpoisoned, hle⟩ := ih (t.after c) hstep.1
    exact ⟨hpoisoned, hle.trans hstep.2⟩

theorem given_up_openedTwice : (emptyQuota.poison.run openedTwice).files.total id ≤ 0 :=
  (given_up emptyQuota.poison openedTwice rfl).2

end OutputTree

end Storage

end ALife
