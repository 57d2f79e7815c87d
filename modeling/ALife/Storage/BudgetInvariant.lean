/-
# The ledger of an output tree

What holds of a quota after every call, whatever the file system answers: the used
bytes cover the entries and stay, with what is held, within the limit; so do the
files; an entry counts its live writers, of which there is one at most.  As long as
the ledger is not given up it is exact: every file has an entry that is as long, or
is empty.
-/

import ALife.Storage.OutputBudget

namespace ALife

open Machine

namespace Storage

variable {N : Type} [LinearOrder N]

/-- The live writers at a path. -/
def writersAt (writers : OrderedMap ℕ (BudgetWriter N)) (path : List N) : ℕ :=
  writers.total fun w => if w.path = path then 1 else 0

/-- The live writers and the entries that count them. -/
structure Handles (entries : OrderedMap (List N) Entry) (writers : OrderedMap ℕ (BudgetWriter N))
    (next : ℕ) : Prop where
  fresh : ∀ handle, next ≤ handle → writers.get? handle = none
  entry : ∀ path e, entries.get? path = some e →
    e.writers = writersAt writers path ∧ e.writers ≤ 1 ∧ (e.immutable = true → e.writers = 0)
  writer : ∀ handle w, writers.get? handle = some w → ∃ e, entries.get? w.path = some e

section Handles

variable {entries : OrderedMap (List N) Entry} {writers : OrderedMap ℕ (BudgetWriter N)}
  {next : ℕ} {path : List N}

theorem writersAt_pos {handle : ℕ} {w : BudgetWriter N} (hw : writers.get? handle = some w) :
    0 < writersAt writers w.path := by
  have hle : (if w.path = w.path then 1 else 0) ≤ writersAt writers w.path :=
    OrderedMap.le_total (f := fun v : BudgetWriter N => if v.path = w.path then 1 else 0) hw
  rwa [if_pos rfl] at hle

/-- No one writes at a path whose entry, if there is one, counts no writer. -/
theorem Handles.writersAt_eq_zero (h : Handles entries writers next)
    (hentry : ∀ e, entries.get? path = some e → e.writers = 0) : writersAt writers path = 0 := by
  refine OrderedMap.total_eq_zero fun handle w hw => if_neg fun hpath => ?_
  obtain ⟨e, he⟩ := h.writer handle w hw
  have hpos := writersAt_pos hw
  rw [← (h.entry w.path e he).1, hentry e (hpath ▸ he)] at hpos
  exact absurd hpos (lt_irrefl 0)

/-- A path with a live writer has an entry that counts it. -/
theorem Handles.writers_eq_one (h : Handles entries writers next) {handle : ℕ}
    {w : BudgetWriter N} (hw : writers.get? handle = some w) {e : Entry}
    (he : entries.get? w.path = some e) : e.writers = 1 ∧ e.immutable = false := by
  obtain ⟨hcount, hle, himmutable⟩ := h.entry w.path e he
  have hpos := writersAt_pos hw
  refine ⟨by omega, Bool.eq_false_iff.2 fun hi => ?_⟩
  have := himmutable hi
  omega

/-- Two live writers are at two paths. -/
theorem Handles.paths_ne (h : Handles entries writers next) {i j : ℕ} (hne : i ≠ j)
    {v w : BudgetWriter N} (hv : writers.get? i = some v) (hw : writers.get? j = some w) :
    v.path ≠ w.path := by
  intro hpath
  obtain ⟨e, he⟩ := h.writer i v hv
  obtain ⟨hcount, hle, -⟩ := h.entry v.path e he
  have herase : writersAt (writers.erase i) v.path + (if v.path = v.path then 1 else 0)
      = writersAt writers v.path := OrderedMap.total_erase_some hv
  have hrest : 0 < writersAt (writers.erase i) w.path :=
    writersAt_pos ((OrderedMap.get?_erase_of_ne hne.symm).trans hw)
  rw [if_pos rfl] at herase
  rw [← hpath] at hrest
  omega

theorem Handles.open (h : Handles entries writers next) (w : BudgetWriter N) (e' : Entry)
    (hfree : ∀ e, entries.get? w.path = some e → e.writers = 0)
    (hwriters : e'.writers = 1) (himmutable : e'.immutable = false) :
    Handles (entries.insert w.path e') (writers.insert next w) (next + 1) := by
  have hnew := h.fresh next le_rfl
  have hcount : ∀ p, writersAt (writers.insert next w) p
      = writersAt writers p + if w.path = p then 1 else 0 :=
    fun p => OrderedMap.total_insert_new hnew
  refine ⟨fun handle hle => ?_, ?_, ?_⟩
  · rw [OrderedMap.get?_insert_of_ne (by omega)]
    exact h.fresh handle (by omega)
  · refine OrderedMap.forall_get?_insert ?_ fun p e hp he => ?_
    · rw [hcount, if_pos rfl, h.writersAt_eq_zero hfree, hwriters, himmutable]
      exact ⟨rfl, le_rfl, nofun⟩
    · rw [hcount, if_neg hp.symm, Nat.add_zero]
      exact h.entry p e he
  · refine OrderedMap.forall_get?_insert ⟨e', OrderedMap.get?_insert_self⟩ fun handle v _ hv => ?_
    rcases eq_or_ne v.path w.path with hpath | hpath
    · exact ⟨e', hpath ▸ OrderedMap.get?_insert_self⟩
    · rw [OrderedMap.get?_insert_of_ne hpath]
      exact h.writer handle v hv

theorem Handles.close (h : Handles entries writers next) {handle : ℕ} {w : BudgetWriter N}
    (hw : writers.get? handle = some w) {e : Entry} (he : entries.get? w.path = some e) :
    Handles (entries.insert w.path { e with writers := e.writers - 1 }) (writers.erase handle)
      next := by
  have hcount : ∀ p, writersAt (writers.erase handle) p + (if w.path = p then 1 else 0)
      = writersAt writers p := fun p => OrderedMap.total_erase_some hw
  refine ⟨fun i hle => ?_, ?_, ?_⟩
  · rcases eq_or_ne i handle with rfl | hne
    · exact OrderedMap.get?_erase_self
    · rw [OrderedMap.get?_erase_of_ne hne]
      exact h.fresh i hle
  · refine OrderedMap.forall_get?_insert ?_ fun p f hp hf => ?_
    · have hpath := hcount w.path
      rw [if_pos rfl] at hpath
      obtain ⟨heq, hle, himmutable⟩ := h.entry w.path e he
      exact ⟨by dsimp only; omega, by dsimp only; omega, fun hi => by
        have := himmutable hi
        dsimp only
        omega⟩
    · have hpath := hcount p
      rw [if_neg hp.symm, Nat.add_zero] at hpath
      rw [hpath]
      exact h.entry p f hf
  · refine OrderedMap.forall_get?_erase fun i v _ hv => ?_
    rcases eq_or_ne v.path w.path with hpath | hpath
    · exact ⟨_, by rw [hpath, OrderedMap.get?_insert_self]⟩
    · rw [OrderedMap.get?_insert_of_ne hpath]
      exact h.writer i v hv

/-- A writer that goes on at its path. -/
theorem Handles.move (h : Handles entries writers next) {handle : ℕ} {w w' : BudgetWriter N}
    (hw : writers.get? handle = some w) (hpath : w'.path = w.path) :
    Handles entries (writers.insert handle w') next := by
  have hcount : ∀ p, writersAt (writers.insert handle w') p = writersAt writers p := by
    intro p
    have hsum := OrderedMap.total_insert_some (v := w')
      (f := fun v : BudgetWriter N => if v.path = p then 1 else 0) hw
    rw [hpath] at hsum
    exact Nat.add_right_cancel hsum
  refine ⟨fun i hle => ?_, fun p e he => ?_, ?_⟩
  · rw [OrderedMap.get?_insert_of_ne]
    · exact h.fresh i hle
    · rintro rfl
      rw [h.fresh i hle] at hw
      cases hw
  · rw [hcount]
    exact h.entry p e he
  · refine OrderedMap.forall_get?_insert ?_ fun i v _ hv => h.writer i v hv
    rw [hpath]
    exact h.writer handle w hw

/-- An entry with another length. -/
theorem Handles.resize (h : Handles entries writers next) {e : Entry}
    (he : entries.get? path = some e) (bytes : ℕ) :
    Handles (entries.insert path { e with bytes }) writers next := by
  refine ⟨h.fresh, OrderedMap.forall_get?_insert (h.entry path e he) fun p f _ hf => h.entry p f hf,
    fun handle w hw => ?_⟩
  rcases eq_or_ne w.path path with hpath | hpath
  · exact ⟨_, by rw [hpath, OrderedMap.get?_insert_self]⟩
  · rw [OrderedMap.get?_insert_of_ne hpath]
    exact h.writer handle w hw

/-- Other entries, where those with writers stay and all others have none. -/
theorem Handles.of_entries (h : Handles entries writers next)
    {entries' : OrderedMap (List N) Entry}
    (hstay : ∀ p e, entries.get? p = some e → e.writers ≠ 0 → entries'.get? p = some e)
    (hnew : ∀ p e, entries'.get? p = some e → entries.get? p = some e
      ∨ e.writers = 0 ∧ ∀ f, entries.get? p = some f → f.writers = 0) :
    Handles entries' writers next := by
  refine ⟨h.fresh, fun p e he => ?_, fun handle w hw => ?_⟩
  · obtain hold | ⟨hwriters, hfree⟩ := hnew p e he
    · exact h.entry p e hold
    · rw [hwriters, h.writersAt_eq_zero hfree]
      exact ⟨rfl, Nat.zero_le 1, fun _ => rfl⟩
  · obtain ⟨e, he⟩ := h.writer handle w hw
    have hone := (h.writers_eq_one hw he).1
    exact ⟨e, hstay w.path e he (by omega)⟩

/-- An entry without writers in the place of one without, or in a free place. -/
theorem Handles.insert (h : Handles entries writers next)
    (hfree : ∀ e, entries.get? path = some e → e.writers = 0) {e' : Entry}
    (hwriters : e'.writers = 0) : Handles (entries.insert path e') writers next := by
  refine h.of_entries (fun p e he hne => ?_) ?_
  · rwa [OrderedMap.get?_insert_of_ne]
    rintro rfl
    exact hne (hfree e he)
  · exact OrderedMap.forall_get?_insert (Or.inr ⟨hwriters, hfree⟩) fun p e _ he => Or.inl he

theorem Handles.erase (h : Handles entries writers next)
    (hfree : ∀ e, entries.get? path = some e → e.writers = 0) :
    Handles (entries.erase path) writers next := by
  refine h.of_entries (fun p e he hne => ?_) ?_
  · rwa [OrderedMap.get?_erase_of_ne]
    rintro rfl
    exact hne (hfree e he)
  · exact OrderedMap.forall_get?_erase fun p e _ he => Or.inl he

end Handles

/-! ### Entries and files -/

/-- Every entry has a file, and every file that is not empty has an entry that is as long at
least. -/
structure Covered (entries : OrderedMap (List N) Entry) (files : OrderedMap (List N) ℕ) : Prop where
  file_of_entry : ∀ path e, entries.get? path = some e →
    ∃ length, files.get? path = some length ∧ length ≤ e.bytes
  entry_of_file : ∀ path length, files.get? path = some length →
    length = 0 ∨ ∃ e, entries.get? path = some e ∧ length ≤ e.bytes

section Covered

variable {entries : OrderedMap (List N) Entry} {files : OrderedMap (List N) ℕ} {path : List N}
  {length : ℕ} {e : Entry}

/-- The entries sum up to the files at least. -/
theorem Covered.total_le (h : Covered entries files) :
    files.total id ≤ entries.total Entry.bytes := by
  refine OrderedMap.total_le_total fun path length hlength => ?_
  obtain hzero | ⟨e, he, hle⟩ := h.entry_of_file path length hlength
  · exact Or.inl hzero
  · exact Or.inr ⟨e, he, hle⟩

theorem Covered.insert (h : Covered entries files) (hle : length ≤ e.bytes) :
    Covered (entries.insert path e) (files.insert path length) := by
  constructor
  · refine OrderedMap.forall_get?_insert ⟨length, OrderedMap.get?_insert_self, hle⟩
      fun p f hp hf => ?_
    rw [OrderedMap.get?_insert_of_ne hp]
    exact h.file_of_entry p f hf
  · refine OrderedMap.forall_get?_insert (.inr ⟨e, OrderedMap.get?_insert_self, hle⟩)
      fun p n hp hn => ?_
    rw [OrderedMap.get?_insert_of_ne hp]
    exact h.entry_of_file p n hn

/-- Another entry for a file that is there. -/
theorem Covered.insert_entry (h : Covered entries files) (hfile : files.get? path = some length)
    (hle : length ≤ e.bytes) : Covered (entries.insert path e) files := by
  constructor
  · exact OrderedMap.forall_get?_insert ⟨length, hfile, hle⟩ fun p f _ hf => h.file_of_entry p f hf
  · intro p n hn
    rcases eq_or_ne p path with rfl | hp
    · rw [hfile] at hn
      exact .inr ⟨e, OrderedMap.get?_insert_self, Option.some.inj hn ▸ hle⟩
    · rw [OrderedMap.get?_insert_of_ne hp]
      exact h.entry_of_file p n hn

/-- Another length of a file, below that of its entry. -/
theorem Covered.insert_file (h : Covered entries files)
    (hentry : ∀ e, entries.get? path = some e → length ≤ e.bytes)
    (hzero : entries.get? path = none → length = 0) :
    Covered entries (files.insert path length) := by
  constructor
  · intro p f hf
    rcases eq_or_ne p path with rfl | hp
    · exact ⟨length, OrderedMap.get?_insert_self, hentry f hf⟩
    · rw [OrderedMap.get?_insert_of_ne hp]
      exact h.file_of_entry p f hf
  · refine OrderedMap.forall_get?_insert ?_ fun p n _ hn => h.entry_of_file p n hn
    cases he : entries.get? path with
    | none => exact .inl (hzero he)
    | some e => exact .inr ⟨e, rfl, hentry e he⟩

theorem Covered.erase (h : Covered entries files) :
    Covered (entries.erase path) (files.erase path) := by
  constructor
  · refine OrderedMap.forall_get?_erase fun p f hp hf => ?_
    rw [OrderedMap.get?_erase_of_ne hp]
    exact h.file_of_entry p f hf
  · refine OrderedMap.forall_get?_erase fun p n hp hn => ?_
    rw [OrderedMap.get?_erase_of_ne hp]
    exact h.entry_of_file p n hn

/-- A rename of both. -/
theorem Covered.relocate {src dst : List N} (h : Covered entries files)
    (hapart : OrderedMap.Apart src dst) {f : Entry → Entry} (hf : ∀ e, (f e).bytes = e.bytes) :
    Covered (entries.relocate src dst f) (files.relocate src dst id) := by
  constructor
  · intro p e' he
    rw [OrderedMap.get?_relocate hapart] at he ⊢
    split_ifs at he ⊢ with hdst hsrc
    · obtain ⟨e, hget, rfl⟩ := Option.map_eq_some_iff.1 he
      obtain ⟨n, hn, hle⟩ := h.file_of_entry _ e hget
      exact ⟨n, by rw [hn]; rfl, (hf e).symm ▸ hle⟩
    · exact h.file_of_entry p e' he
  · intro p n hn
    rw [OrderedMap.get?_relocate hapart] at hn ⊢
    split_ifs at hn ⊢ with hdst hsrc
    · rw [Option.map_id] at hn
      obtain hzero | ⟨e, he, hle⟩ := h.entry_of_file _ n hn
      · exact .inl hzero
      · exact .inr ⟨f e, by rw [he]; rfl, (hf e).symm ▸ hle⟩
    · exact h.entry_of_file p n hn

end Covered

/-! ### The invariant -/

namespace OutputTree

structure Kept (t : OutputTree N) : Prop where
  limit : Fits t.limit
  entries_le : t.state.entries.total Entry.bytes ≤ t.state.used
  within : t.state.used + t.state.held ≤ t.limit
  used_le : t.state.used ≤ t.state.highWater
  highWater_le : t.state.highWater ≤ t.limit
  files_le : t.files.total id ≤ t.limit
  held : t.reservations.total id = t.state.held
  reservations : ∀ handle, t.next ≤ handle → t.reservations.get? handle = none
  handles : Handles t.state.entries t.writers t.next

/-- The ledger says what the files are. -/
structure Exact (t : OutputTree N) : Prop where
  used : t.state.used = t.state.entries.total Entry.bytes
  covered : Covered t.state.entries t.files

/-- What holds after every call. -/
structure Inv (t : OutputTree N) : Prop where
  kept : t.Kept
  exact : t.state.poisoned = false → t.Exact

variable {t t' : OutputTree N}

theorem check_eq_ok {additional : ℕ} (h : t.check additional = .ok ()) :
    t.state.poisoned = false ∧ t.state.used + t.state.held + additional ≤ t.limit := by
  obtain ⟨hpoisoned, h⟩ := except_seq_eq_ok_iff.1 h
  rw [failIf_eq_ok_iff] at hpoisoned h
  rw [not_or, not_or, not_lt] at h
  exact ⟨Bool.eq_false_iff.2 hpoisoned, h.2.2⟩

theorem sub_eq_ok {a b c : ℕ} (h : sub a b = .ok c) : b ≤ a ∧ c = a - b := by
  unfold sub at h
  split_ifs at h with hle
  exact ⟨hle, (Except.ok.inj h).symm⟩

theorem Kept.bytes_le (h : t.Kept) {path : List N} {e : Entry}
    (he : t.state.entries.get? path = some e) : e.bytes ≤ t.state.used :=
  (OrderedMap.le_total (f := Entry.bytes) he).trans h.entries_le

/-- A call that changes what is held of nobody, and keeps to the limit. -/
theorem Kept.after (h : t.Kept) (hlimit : t'.limit = t.limit)
    (hreservations : t'.reservations = t.reservations) (hheld : t'.state.held = t.state.held)
    (hnext : t.next ≤ t'.next) (hwithin : t'.state.used + t.state.held ≤ t.limit)
    (hused : t'.state.used ≤ t'.state.highWater) (hhigh : t'.state.highWater ≤ t.limit)
    (hentries : t'.state.entries.total Entry.bytes ≤ t'.state.used)
    (hfiles : t'.files.total id ≤ t.limit)
    (hhandles : Handles t'.state.entries t'.writers t'.next) : t'.Kept where
  limit := hlimit ▸ h.limit
  entries_le := hentries
  within := by rw [hheld, hlimit]; exact hwithin
  used_le := hused
  highWater_le := hlimit ▸ hhigh
  files_le := hlimit ▸ hfiles
  held := by rw [hreservations, hheld]; exact h.held
  reservations handle hle := by rw [hreservations]; exact h.reservations handle (hnext.trans hle)
  handles := hhandles

/-- Such a call with an exact ledger. -/
theorem Kept.exact_after (h : t.Kept) (hlimit : t'.limit = t.limit)
    (hreservations : t'.reservations = t.reservations) (hheld : t'.state.held = t.state.held)
    (hnext : t.next ≤ t'.next) (hwithin : t'.state.used + t.state.held ≤ t.limit)
    (hused : t'.state.used ≤ t'.state.highWater) (hhigh : t'.state.highWater ≤ t.limit)
    (hexact : t'.Exact) (hhandles : Handles t'.state.entries t'.writers t'.next) : t'.Inv where
  kept := h.after hlimit hreservations hheld hnext hwithin hused hhigh hexact.used.ge
    ((hexact.covered.total_le.trans hexact.used.ge).trans (by omega)) hhandles
  exact _ := hexact

theorem reserve_inv (h : t.Inv) {bytes : ℕ} (hcall : t.reserve bytes = .ok t') : t'.Inv := by
  obtain ⟨hcheck, hcall⟩ := except_seq_eq_ok_iff.1 hcall
  obtain ⟨-, hcall⟩ := except_seq_eq_ok_iff.1 hcall
  obtain rfl := Except.ok.inj hcall
  obtain ⟨-, hroom⟩ := check_eq_ok hcheck
  obtain ⟨hkept, hexact⟩ := h
  refine ⟨{ hkept with within := ?_, held := ?_, reservations := ?_, handles := ?_ }, fun hp => ?_⟩
  · dsimp only
    omega
  · have htotal := OrderedMap.total_insert_new (v := bytes) (f := id)
      (hkept.reservations t.next le_rfl)
    rw [hkept.held] at htotal
    exact htotal
  · intro handle hle
    dsimp only at hle ⊢
    rw [OrderedMap.get?_insert_of_ne (by omega)]
    exact hkept.reservations handle (by omega)
  · exact ⟨fun handle hle => hkept.handles.fresh handle ((Nat.le_succ _).trans hle),
      hkept.handles.entry, hkept.handles.writer⟩
  · exact ⟨(hexact hp).used, (hexact hp).covered⟩

theorem dropReservation_inv (h : t.Inv) (handle : ℕ) : (t.dropReservation handle).Inv := by
  unfold dropReservation
  cases hget : t.reservations.get? handle with
  | none => exact h
  | some bytes =>
    obtain ⟨hkept, hexact⟩ := h
    have htotal : (t.reservations.erase handle).total id + bytes = t.reservations.total id :=
      OrderedMap.total_erase_some hget
    have hheld := hkept.held
    have hwithin := hkept.within
    refine ⟨{ hkept with within := ?_, held := ?_, reservations := ?_ }, fun hp => ?_⟩
    · dsimp only
      omega
    · dsimp only
      omega
    · intro i hle
      dsimp only
      rcases eq_or_ne i handle with rfl | hne
      · exact OrderedMap.get?_erase_self
      · rw [OrderedMap.get?_erase_of_ne hne]
        exact hkept.reservations i hle
    · exact ⟨(hexact hp).used, (hexact hp).covered⟩

theorem writerInner_inv (h : t.Inv) {path : List N} {append : Bool} {read position : Option ℕ}
    (hread : t.Current (.writerInner path append read position))
    (hcall : t.writerInner path append read position = .ok t') : t'.Inv := by
  obtain ⟨length, hlength, hcall⟩ := except_bind_eq_ok_iff.1 hcall
  obtain ⟨position', -, hcall⟩ := except_bind_eq_ok_iff.1 hcall
  obtain ⟨hcheck, hcall⟩ := except_seq_eq_ok_iff.1 hcall
  obtain ⟨hclosed, hcall⟩ := except_seq_eq_ok_iff.1 hcall
  obtain ⟨hgrew, hcall⟩ := except_seq_eq_ok_iff.1 hcall
  obtain ⟨hempty, hcall⟩ := except_seq_eq_ok_iff.1 hcall
  obtain ⟨used, hused, hcall⟩ := except_bind_eq_ok_iff.1 hcall
  obtain rfl := Except.ok.inj hcall
  replace hlength := hread length (getOr_eq_ok_iff.1 hlength)
  rw [failIf_eq_ok_iff] at hclosed hgrew hempty
  obtain ⟨hpoisoned, -⟩ := check_eq_ok hcheck
  obtain ⟨hle, rfl⟩ := sub_eq_ok hused
  obtain ⟨hkept, hexact⟩ := h
  obtain ⟨hsum, hcovered⟩ := hexact hpoisoned
  have hopen : ∀ e, t.state.entries.get? path = some e →
      e.immutable = false ∧ e.writers = 0 ∧ length ≤ e.bytes := by
    intro e he
    rw [he] at hclosed hgrew
    simpa [Entry.closed, and_assoc] using And.intro hclosed hgrew
  set entry := (t.state.entries.get? path).getD ⟨0, 0, false⟩ with hentry
  have hquiet : entry.writers = 0 ∧ entry.immutable = false := by
    cases hold : t.state.entries.get? path with
    | none => exact ⟨by rw [hentry, hold]; rfl, by rw [hentry, hold]; rfl⟩
    | some e =>
      rw [hentry, hold]
      exact ⟨(hopen e hold).2.1, (hopen e hold).1⟩
  have hexact' : Exact ({ t with state := { t.state with
      entries := t.state.entries.insert path
        { entry with bytes := length, writers := entry.writers + 1 }
      used := t.state.used - (t.state.entries.get? path).elim 0 fun e => e.bytes - length } }
        : OutputTree N) := by
    refine ⟨?_, hcovered.insert_entry hlength le_rfl⟩
    have htotal := OrderedMap.total_insert (m := t.state.entries) (k := path)
      (v := { entry with bytes := length, writers := entry.writers + 1 }) Entry.bytes
    dsimp only at htotal ⊢
    cases hold : t.state.entries.get? path with
    | none =>
      have hzero : length = 0 := by
        by_contra hne
        exact hempty ⟨hold, hne⟩
      rw [hold] at htotal
      simp only [Option.map_none, Option.getD_none, Option.elim_none] at htotal ⊢
      omega
    | some e =>
      have hgrown := (hopen e hold).2.2
      rw [hold] at htotal
      simp only [Option.map_some, Option.getD_some, Option.elim_some] at htotal ⊢
      omega
  refine hkept.exact_after rfl rfl rfl (Nat.le_succ _) ?_ ?_ hkept.highWater_le
    ⟨hexact'.used, hexact'.covered⟩ ?_
  · exact (Nat.add_le_add_right (Nat.sub_le _ _) _).trans hkept.within
  · exact (Nat.sub_le _ _).trans hkept.used_le
  · exact hkept.handles.open ⟨path, position', append⟩
      { entry with bytes := length, writers := entry.writers + 1 }
      (fun e he => (hopen e he).2.1) (congrArg (· + 1) hquiet.1) hquiet.2

theorem dropWriter_inv (h : t.Inv) (handle : ℕ) : (t.dropWriter handle).Inv := by
  unfold dropWriter
  cases hw : t.writers.get? handle with
  | none => exact h
  | some w =>
    obtain ⟨hkept, hexact⟩ := h
    obtain ⟨e, he⟩ := hkept.handles.writer handle w hw
    have htotal := OrderedMap.total_insert_some (v := { e with writers := e.writers - 1 })
      (f := Entry.bytes) he
    dsimp only at htotal ⊢
    rw [he]
    dsimp only
    have hsame : (t.state.entries.insert w.path { e with writers := e.writers - 1 }).total
        Entry.bytes = t.state.entries.total Entry.bytes := Nat.add_right_cancel htotal
    refine ⟨hkept.after rfl rfl rfl le_rfl hkept.within hkept.used_le hkept.highWater_le
      (hsame.trans_le hkept.entries_le) hkept.files_le (hkept.handles.close hw he), fun hp => ?_⟩
    obtain ⟨hsum, hcovered⟩ := hexact hp
    obtain ⟨length, hlength, hle⟩ := hcovered.file_of_entry w.path e he
    exact ⟨hsum.trans hsame.symm, hcovered.insert_entry hlength hle⟩

theorem seek_inv (h : t.Inv) {handle : ℕ} {next : Option ℕ} (hcall : t.seek handle next = .ok t') :
    t'.Inv := by
  obtain ⟨w, hw, hcall⟩ := except_bind_eq_ok_iff.1 hcall
  obtain ⟨position, -, hcall⟩ := except_bind_eq_ok_iff.1 hcall
  obtain rfl := Except.ok.inj hcall
  rw [getOr_eq_ok_iff] at hw
  obtain ⟨hkept, hexact⟩ := h
  refine ⟨hkept.after rfl rfl rfl le_rfl hkept.within hkept.used_le hkept.highWater_le
    hkept.entries_le hkept.files_le (hkept.handles.move hw rfl), fun hp => ?_⟩
  exact ⟨(hexact hp).used, (hexact hp).covered⟩

theorem write_inv (h : t.Inv) {handle count : ℕ} {o : Written} {stop : Option Stop}
    (hcall : t.write handle count o = .ok (t', stop)) : t'.Inv := by
  obtain ⟨w, hw, hcall⟩ := except_bind_eq_ok_iff.1 hcall
  obtain ⟨e, he, hcall⟩ := except_bind_eq_ok_iff.1 hcall
  obtain ⟨-, hcall⟩ := except_seq_eq_ok_iff.1 hcall
  obtain ⟨hcheck, hcall⟩ := except_seq_eq_ok_iff.1 hcall
  obtain ⟨-, hcall⟩ := except_seq_eq_ok_iff.1 hcall
  obtain ⟨used, hused, hcall⟩ := except_bind_eq_ok_iff.1 hcall
  obtain ⟨rfl, -⟩ := Prod.mk.inj (Except.ok.inj hcall)
  rw [getOr_eq_ok_iff] at hw he
  obtain ⟨hpoisoned, hroom⟩ := check_eq_ok hcheck
  obtain ⟨hle, rfl⟩ := sub_eq_ok hused
  obtain ⟨hkept, hexact⟩ := h
  obtain ⟨hsum, hcovered⟩ := hexact hpoisoned
  obtain ⟨old, hold, holdLe⟩ := hcovered.file_of_entry w.path e he
  have hbytes := hkept.handles
  -- what the write leaves ends where its bytes end at most
  set growth := if w.append = true then count else w.position + count - e.bytes with hgrowth
  set last := if w.append = true then (t.files.get? w.path).getD 0 + count
    else max ((t.files.get? w.path).getD 0) (w.position + count) with hlast
  set length := max ((t.files.get? w.path).getD 0) (min o.length last) with hlength
  have hlengthLe : length ≤ e.bytes + growth := by
    rw [hlength, hlast, hgrowth, hold, Option.getD_some]
    split_ifs <;> omega
  set actual := if (o.metadata && decide (length ≤ e.bytes + growth)) = true then length
    else e.bytes + growth with hactual
  have hactualLe : length ≤ actual ∧ actual ≤ e.bytes + growth := by
    rw [hactual]
    split_ifs
    · exact ⟨le_rfl, hlengthLe⟩
    · exact ⟨hlengthLe, le_rfl⟩
  have htotal : (t.state.entries.insert w.path { e with bytes := actual }).total Entry.bytes
      + e.bytes = t.state.entries.total Entry.bytes + actual := OrderedMap.total_insert_some he
  have hhigh := hkept.highWater_le
  refine hkept.exact_after rfl rfl rfl le_rfl ?_ ?_ ?_ ⟨?_, hcovered.insert hactualLe.1⟩
    ((hkept.handles.resize he actual).move hw rfl)
  · dsimp only
    omega
  · dsimp only
    omega
  · dsimp only
    omega
  · dsimp only
    omega

theorem create_inv (h : t.Inv) {path : List N} {metadata created : Bool}
    (hcall : t.create path metadata created = .ok t') : t'.Inv := by
  obtain ⟨hcheck, hcall⟩ := except_seq_eq_ok_iff.1 hcall
  obtain ⟨hclosed, hcall⟩ := except_seq_eq_ok_iff.1 hcall
  obtain ⟨-, hcall⟩ := except_seq_eq_ok_iff.1 hcall
  obtain ⟨-, hcall⟩ := except_seq_eq_ok_iff.1 hcall
  obtain ⟨used, hused, hcall⟩ := except_bind_eq_ok_iff.1 hcall
  obtain rfl := Except.ok.inj hcall
  rw [failIf_eq_ok_iff] at hclosed
  obtain ⟨hpoisoned, -⟩ := check_eq_ok hcheck
  obtain ⟨hle, rfl⟩ := sub_eq_ok hused
  obtain ⟨hkept, hexact⟩ := h
  obtain ⟨hsum, hcovered⟩ := hexact hpoisoned
  have hfree : ∀ e, t.state.entries.get? path = some e → e.writers = 0 := by
    intro e he
    rw [he] at hclosed
    simp only [Option.any_some, Entry.closed, Bool.or_eq_true, bne_iff_ne, not_or, not_not]
      at hclosed
    exact hclosed.2
  refine hkept.exact_after rfl rfl rfl (Nat.le_succ _)
    ((Nat.add_le_add_right (Nat.sub_le _ _) _).trans hkept.within)
    ((Nat.sub_le _ _).trans hkept.used_le) hkept.highWater_le
    ⟨?_, hcovered.insert le_rfl⟩ (hkept.handles.open ⟨path, 0, false⟩ ⟨0, 1, false⟩ hfree rfl rfl)
  have htotal := OrderedMap.total_insert (m := t.state.entries) (k := path)
    (v := (⟨0, 1, false⟩ : Entry)) Entry.bytes
  change t.state.used - (t.state.entries.get? path).elim 0 Entry.bytes
    = (t.state.entries.insert path ⟨0, 1, false⟩).total Entry.bytes
  cases hold : t.state.entries.get? path with
  | none =>
    rw [hold] at htotal
    simp only [Option.map_none, Option.getD_none, Option.elim_none] at htotal ⊢
    omega
  | some e =>
    rw [hold] at htotal
    simp only [Option.map_some, Option.getD_some, Option.elim_some] at htotal ⊢
    omega

theorem holds_eq_false {path : List N} (h : t.holds path = false) : t.files.get? path = none := by
  cases hget : t.files.get? path with
  | none => rfl
  | some length =>
    have hmem : (path, length) ∈ t.files.below path :=
      OrderedMap.mem_below.2 ⟨List.prefix_rfl, hget⟩
    unfold holds at h
    cases hbelow : t.files.below path with
    | nil =>
      rw [hbelow] at hmem
      cases hmem
    | cons a l =>
      rw [hbelow] at h
      simp at h

theorem hardLink_inv (h : t.Inv) {source destination : List N} {bytes : ℕ}
    {directory linked : Bool}
    (hcall : t.hardLink source destination bytes directory linked = .ok t') : t'.Inv := by
  obtain ⟨hfree, hcall⟩ := except_seq_eq_ok_iff.1 hcall
  obtain ⟨hcheck, hcall⟩ := except_seq_eq_ok_iff.1 hcall
  obtain ⟨e, he, hcall⟩ := except_bind_eq_ok_iff.1 hcall
  obtain ⟨hbytes, hcall⟩ := except_seq_eq_ok_iff.1 hcall
  obtain ⟨hwriters, hcall⟩ := except_seq_eq_ok_iff.1 hcall
  obtain ⟨length, hlength, hcall⟩ := except_bind_eq_ok_iff.1 hcall
  obtain ⟨-, hcall⟩ := except_seq_eq_ok_iff.1 hcall
  obtain rfl := Except.ok.inj hcall
  rw [failIf_eq_ok_iff] at hfree hbytes hwriters
  rw [not_not] at hbytes hwriters
  rw [getOr_eq_ok_iff] at he hlength
  obtain ⟨hpoisoned, hroom⟩ := check_eq_ok hcheck
  obtain ⟨hkept, hexact⟩ := h
  obtain ⟨hsum, hcovered⟩ := hexact hpoisoned
  -- nothing is at the destination, neither a file nor an entry
  have hnofile : t.files.get? destination = none :=
    holds_eq_false (Bool.eq_false_iff.2 fun h => hfree (.inl h))
  have hnoentry : t.state.entries.get? destination = none := by
    cases hget : t.state.entries.get? destination with
    | none => rfl
    | some f =>
      obtain ⟨n, hn, -⟩ := hcovered.file_of_entry destination f hget
      rw [hnofile] at hn
      cases hn
  have hne : destination ≠ source := by
    rintro rfl
    rw [hnoentry] at he
    cases he
  obtain ⟨n, hn, hle⟩ := hcovered.file_of_entry source e he
  rw [hlength] at hn
  obtain rfl := Option.some.inj hn
  set entries := t.state.entries.insert source { e with immutable := true } with hentries
  have hnoentry' : entries.get? destination = none := by
    rw [hentries, OrderedMap.get?_insert_of_ne hne, hnoentry]
  have htotal : entries.total Entry.bytes + e.bytes
      = t.state.entries.total Entry.bytes + e.bytes := OrderedMap.total_insert_some he
  have htotal' : (entries.insert destination ⟨bytes, 0, true⟩).total Entry.bytes
      = entries.total Entry.bytes + bytes := OrderedMap.total_insert_new hnoentry'
  have hhigh := hkept.highWater_le
  have hhandles : Handles entries t.writers t.next := by
    refine hkept.handles.insert (fun f hf => ?_) hwriters
    rw [he] at hf
    exact Option.some.inj hf ▸ hwriters
  refine hkept.exact_after rfl rfl rfl le_rfl ?_ ?_ ?_ ⟨?_, ?_⟩
    (hhandles.insert (fun f hf => ?_) rfl)
  · dsimp only
    omega
  · dsimp only
    omega
  · dsimp only
    omega
  · dsimp only
    omega
  · exact Covered.insert (e := ⟨bytes, 0, true⟩) (hcovered.insert_entry hlength hle) (hbytes ▸ hle)
  · rw [hnoentry'] at hf
    cases hf

theorem poison_inv (h : t.Inv) : t.poison.Inv :=
  ⟨h.kept.after rfl rfl rfl le_rfl h.kept.within h.kept.used_le h.kept.highWater_le
    h.kept.entries_le h.kept.files_le h.kept.handles, nofun⟩

/-- No one writes below a path that is not active. -/
theorem writers_of_not_active {path : List N} (h : ¬t.active path = true) {p : List N} {e : Entry}
    (hp : path <+: p) (he : t.state.entries.get? p = some e) : e.writers = 0 := by
  by_contra hne
  exact h (List.any_eq_true.2 ⟨(p, e), OrderedMap.mem_below.2 ⟨hp, he⟩, bne_iff_ne.2 hne⟩)

/-- The differences of a loop. -/
theorem foldlM_sub {K : Type} {l : List (K × Entry)} {used used' : ℕ}
    (h : l.foldlM (fun used e => sub used e.2.bytes) used = .ok used') :
    used' + (l.map fun e => e.2.bytes).sum = used := by
  induction l generalizing used with
  | nil => exact (Except.ok.inj h).symm
  | cons e l ih =>
    rw [List.foldlM_cons] at h
    obtain ⟨mid, hmid, h⟩ := except_bind_eq_ok_iff.1 h
    obtain ⟨hle, rfl⟩ := sub_eq_ok hmid
    have := ih h
    rw [List.map_cons, List.sum_cons]
    omega

theorem replaceWith_inv (h : t.Inv) {source destination : List N} {o : Replaced}
    {stop : Option Stop} (hcall : t.replaceWith source destination o = .ok (t', stop)) :
    t'.Inv := by
  obtain ⟨hcheck, hcall⟩ := except_seq_eq_ok_iff.1 hcall
  obtain ⟨-, hcall⟩ := except_seq_eq_ok_iff.1 hcall
  obtain ⟨-, hcall⟩ := except_seq_eq_ok_iff.1 hcall
  obtain ⟨hsource, hcall⟩ := except_seq_eq_ok_iff.1 hcall
  obtain ⟨hdestination, hcall⟩ := except_seq_eq_ok_iff.1 hcall
  rw [failIf_eq_ok_iff] at hsource hdestination
  obtain ⟨hpoisoned, -⟩ := check_eq_ok hcheck
  cases houtcome : o.outcome with
  | failed =>
    rw [houtcome] at hcall
    cases hcall
  | kept =>
    rw [houtcome] at hcall
    have heq := congrArg Prod.fst (Except.ok.inj hcall)
    dsimp only at heq
    split_ifs at heq
    · exact heq ▸ poison_inv h
    · exact heq ▸ h
    · exact heq ▸ poison_inv h
  | moved =>
    rw [houtcome] at hcall
    obtain ⟨hapart, hcall⟩ := except_seq_eq_ok_iff.1 hcall
    rw [failIf_eq_ok_iff, not_or] at hapart
    obtain ⟨hkept, hexact⟩ := h
    obtain ⟨hsum, hcovered⟩ := hexact hpoisoned
    have hfiles := OrderedMap.total_relocate (f := id) (g := id) hapart (fun _ => rfl) t.files
    split_ifs at hcall
    · obtain ⟨rfl, -⟩ := Prod.mk.inj (Except.ok.inj hcall)
      refine ⟨hkept.after rfl rfl rfl le_rfl hkept.within hkept.used_le hkept.highWater_le
        hkept.entries_le ?_ hkept.handles, nofun⟩
      exact (Nat.le_add_right _ _).trans (hfiles.trans_le hkept.files_le)
    · obtain ⟨used, hused, hcall⟩ := except_bind_eq_ok_iff.1 hcall
      obtain ⟨rfl, -⟩ := Prod.mk.inj (Except.ok.inj hcall)
      have hremoved := foldlM_sub hused
      have hentries := OrderedMap.total_relocate (g := Entry.bytes)
        (f := fun e => { e with immutable := true }) hapart (fun _ => rfl) t.state.entries
      have hwithin := hkept.within
      have husedLe := hkept.used_le
      refine hkept.exact_after rfl rfl rfl le_rfl ?_ ?_ hkept.highWater_le
        ⟨?_, Covered.relocate (f := fun e => { e with immutable := true }) hcovered hapart
          fun _ => rfl⟩ ?_
      · dsimp only
        omega
      · dsimp only
        omega
      · dsimp only
        omega
      · refine hkept.handles.of_entries (fun p e he hne => ?_) fun p e' he => ?_
        · rw [OrderedMap.get?_relocate hapart, if_neg, if_neg]
          · exact he
          · exact fun hp => hne (writers_of_not_active hsource hp he)
          · exact fun hp => hne (writers_of_not_active hdestination hp he)
        · dsimp only at he
          rw [OrderedMap.get?_relocate hapart] at he
          split_ifs at he with hdst hsrc
          · obtain ⟨e, hget, rfl⟩ := Option.map_eq_some_iff.1 he
            have hquiet := writers_of_not_active hsource (List.prefix_append _ _) hget
            exact .inr ⟨hquiet, fun f hf => writers_of_not_active hdestination hdst hf⟩
          · exact .inl he

theorem removeFile_inv (h : t.Inv) {path : List N} {removed : Bool}
    (hcall : t.removeFile path removed = .ok t') : t'.Inv := by
  obtain ⟨hwriters, hcall⟩ := except_seq_eq_ok_iff.1 hcall
  obtain ⟨-, hcall⟩ := except_seq_eq_ok_iff.1 hcall
  obtain ⟨used, hused, hcall⟩ := except_bind_eq_ok_iff.1 hcall
  obtain rfl := Except.ok.inj hcall
  rw [failIf_eq_ok_iff] at hwriters
  obtain ⟨hle, rfl⟩ := sub_eq_ok hused
  obtain ⟨hkept, hexact⟩ := h
  have hfree : ∀ e, t.state.entries.get? path = some e → e.writers = 0 := by
    intro e he
    rw [he] at hwriters
    simpa using hwriters
  have hfiles := OrderedMap.total_erase (m := t.files) (k := path) id
  have htotal := OrderedMap.total_erase (m := t.state.entries) (k := path) Entry.bytes
  have hbytes : (t.state.entries.get? path).elim 0 Entry.bytes
      = ((t.state.entries.get? path).map Entry.bytes).getD 0 := by
    cases t.state.entries.get? path <;> rfl
  have hentries := hkept.entries_le
  refine ⟨hkept.after rfl rfl rfl le_rfl ((Nat.add_le_add_right (Nat.sub_le _ _) _).trans
    hkept.within) ((Nat.sub_le _ _).trans hkept.used_le) hkept.highWater_le ?_ ?_
    (hkept.handles.erase hfree), fun hp => ⟨?_, (hexact hp).covered.erase⟩⟩
  · dsimp only
    omega
  · exact (Nat.le_add_right _ _).trans (hfiles.trans_le hkept.files_le)
  · have hsum := (hexact hp).used
    dsimp only
    omega

/-- What is left of a tree whose ledger is not given up. -/
theorem left_of_not_bad {path : List N} {unread : List N → Bool} {files : OrderedMap (List N) ℕ}
    (h : ((t.state.entries.below path).any fun e => unread e.1
      || (files.get? e.1).any fun length => length != e.2.bytes) = false)
    {p : List N} {e : Entry} (hp : path <+: p) (he : t.state.entries.get? p = some e) :
    unread p = false ∧ ∀ n, files.get? p = some n → n = e.bytes := by
  have hname := List.any_eq_false.1 h (p, e) (OrderedMap.mem_below.2 ⟨hp, he⟩)
  dsimp only at hname
  rw [Bool.or_eq_true, not_or, Bool.not_eq_true] at hname
  refine ⟨hname.1, fun n hn => ?_⟩
  have hlength := hname.2
  rw [hn] at hlength
  simpa using hlength

theorem removeTree_inv (h : t.Inv) {path : List N} {o : Removed N} {stop : Option Stop}
    (hcall : t.removeTree path o = .ok (t', stop)) : t'.Inv := by
  obtain ⟨hactive, hcall⟩ := except_seq_eq_ok_iff.1 hcall
  obtain ⟨used, hused, hcall⟩ := except_bind_eq_ok_iff.1 hcall
  obtain ⟨rfl, -⟩ := Prod.mk.inj (Except.ok.inj hcall)
  rw [failIf_eq_ok_iff] at hactive
  obtain ⟨hkept, hexact⟩ := h
  set files := t.files.filter fun f => !(path <+: f.1) || o.left f.1 with hfiles
  set gone : List N × Entry → Bool := fun e => !o.unread e.1 && (files.get? e.1).isNone with hgone
  have hremoved := foldlM_sub hused
  have htotal := OrderedMap.total_filter_add (g := Entry.bytes)
    (fun e => !(path <+: e.1 && gone e)) t.state.entries
  have hfilesTotal := OrderedMap.total_filter_add (g := id)
    (fun f => !(path <+: f.1) || o.left f.1) t.files
  have hdropped : (t.state.entries.entries.filter fun e => !!(path <+: e.1 && gone e))
      = (t.state.entries.below path).filter gone := by
    rw [OrderedMap.below, List.filter_filter]
    refine List.filter_congr fun e _ => ?_
    rw [Bool.not_not, Bool.and_comm]
  rw [hdropped] at htotal
  have hentries := hkept.entries_le
  have hwithin := hkept.within
  have husedLe := hkept.used_le
  refine ⟨hkept.after rfl rfl rfl le_rfl ?_ ?_ hkept.highWater_le ?_ ?_ ?_, fun hp => ⟨?_, ?_⟩⟩
  · dsimp only
    omega
  · dsimp only
    omega
  · dsimp only
    omega
  · exact (Nat.le_add_right _ _).trans (hfilesTotal.trans_le hkept.files_le)
  · refine hkept.handles.of_entries (fun p e he hne => ?_) fun p e he => .inl ?_
    · dsimp only
      have hp : ¬path <+: p := fun hp => hne (writers_of_not_active hactive hp he)
      rw [OrderedMap.get?_filter, he]
      simp [hp]
    · dsimp only at he
      rw [OrderedMap.get?_filter, Option.filter_eq_some_iff] at he
      exact he.1
  · have hsum := (hexact (Bool.or_eq_false_iff.1 hp).1).used
    dsimp only
    omega
  · obtain ⟨hpoisoned, hbad⟩ := Bool.or_eq_false_iff.1 hp
    have hcovered := (hexact hpoisoned).covered
    have hnames : ∀ p e, path <+: p → t.state.entries.get? p = some e →
        o.unread p = false ∧ ∀ n, files.get? p = some n → n = e.bytes :=
      fun p e hpath he => left_of_not_bad hbad hpath he
    constructor
    · intro p e he
      dsimp only at he ⊢
      rw [OrderedMap.get?_filter, Option.filter_eq_some_iff] at he
      obtain ⟨he, hstay⟩ := he
      by_cases hpath : path <+: p
      · obtain ⟨hread, hlength⟩ := hnames p e hpath he
        cases hget : files.get? p with
        | some n => exact ⟨n, rfl, (hlength n hget).le⟩
        | none => simp [hgone, hpath, hread, hget] at hstay
      · obtain ⟨n, hn, hle⟩ := hcovered.file_of_entry p e he
        exact ⟨n, by rw [hfiles, OrderedMap.get?_filter, hn]; simp [hpath], hle⟩
    · intro p n hn
      dsimp only at hn ⊢
      have hold : t.files.get? p = some n := by
        rw [hfiles, OrderedMap.get?_filter, Option.filter_eq_some_iff] at hn
        exact hn.1
      obtain hzero | ⟨e, he, hle⟩ := hcovered.entry_of_file p n hold
      · exact .inl hzero
      · refine .inr ⟨e, ?_, hle⟩
        rw [OrderedMap.get?_filter, he]
        simp [hgone, hn]

theorem shrink_inv (h : t.Inv) (path : List N) (length : ℕ) : (t.shrink path length).Inv := by
  unfold shrink
  cases hold : t.files.get? path with
  | none => exact h
  | some old =>
    obtain ⟨hkept, hexact⟩ := h
    have htotal : (t.files.insert path (min old length)).total id + old
        = t.files.total id + min old length := OrderedMap.total_insert_some hold
    have hfiles := hkept.files_le
    refine ⟨hkept.after rfl rfl rfl le_rfl hkept.within hkept.used_le hkept.highWater_le
      hkept.entries_le ?_ hkept.handles, fun hp => ⟨(hexact hp).used, ?_⟩⟩
    · dsimp only
      omega
    · obtain ⟨-, hcovered⟩ := hexact hp
      refine hcovered.insert_file (fun e he => ?_) fun hnone => ?_
      · obtain ⟨n, hn, hle⟩ := hcovered.file_of_entry path e he
        rw [hold] at hn
        obtain rfl := Option.some.inj hn
        exact (Nat.min_le_left _ _).trans hle
      · obtain hzero | ⟨e, he, -⟩ := hcovered.entry_of_file path old hold
        · rw [hzero, Nat.zero_min]
        · rw [hnone] at he
          cases he

theorem touch_inv (h : t.Inv) (path : List N) : (t.touch path).Inv := by
  unfold touch
  cases hold : t.files.get? path with
  | some _ => exact h
  | none =>
    obtain ⟨hkept, hexact⟩ := h
    have htotal : (t.files.insert path 0).total id = t.files.total id + 0 :=
      OrderedMap.total_insert_new hold
    refine ⟨hkept.after rfl rfl rfl le_rfl hkept.within hkept.used_le hkept.highWater_le
      hkept.entries_le (htotal.trans_le hkept.files_le) hkept.handles,
      fun hp => ⟨(hexact hp).used, ?_⟩⟩
    exact (hexact hp).covered.insert_file (fun _ _ => Nat.zero_le _) fun _ => rfl

end OutputTree

end Storage

end ALife
