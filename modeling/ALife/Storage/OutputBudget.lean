/-
# Quotas of output trees

`OutputBudget` of `crates/alife_storage/src/lib.rs`: a limit on the bytes of a tree
of files, a ledger of them behind a lock, and the calls by which all writers of the
tree go.  Every call that takes the lock is one step here, from the ledger, the
files, the live writers and the live reservations to those after it.

What the file system answers is a parameter of the step: what a write leaves of a
file, whether its length or the position can be read, whether a rename was done,
what survives the removal of a tree.  Paths are resolved, that is lists of names
below the root.  `u64` is `ℕ` with its bound, and a difference that would wrap is
the error `panic`.
-/

import ALife.Machine.Checks
import ALife.Machine.PathTree

namespace ALife

open Machine

namespace Storage

/-- `Entry`. -/
structure Entry where
  bytes : ℕ
  writers : ℕ
  immutable : Bool
  deriving DecidableEq, Repr

/-- `State`. -/
structure Ledger (N : Type) [LinearOrder N] where
  entries : OrderedMap (List N) Entry
  used : ℕ
  held : ℕ
  highWater : ℕ
  poisoned : Bool

/-- `BudgetWriter`. -/
structure BudgetWriter (N : Type) where
  path : List N
  position : ℕ
  append : Bool

/-- Why a call fails: `exhausted`, `invalid`, an error of the file system, or a difference of `u64`
that wraps. -/
inductive Stop where
  | exhausted
  | invalid (message : String)
  | io
  | panic
  deriving DecidableEq, Repr

/-- A quota with its tree: `Inner`, the files by length, the live writers and the live
reservations. -/
structure OutputTree (N : Type) [LinearOrder N] where
  limit : ℕ
  state : Ledger N
  files : OrderedMap (List N) ℕ
  writers : OrderedMap ℕ (BudgetWriter N)
  reservations : OrderedMap ℕ ℕ
  /-- The next handle. -/
  next : ℕ

/-- A sum is a `u64`. -/
def Fits (n : ℕ) : Prop := n < 2 ^ 64

instance (n : ℕ) : Decidable (Fits n) := inferInstanceAs (Decidable (_ < _))

/-- `a - b` of `u64`. -/
def sub (a b : ℕ) : Except Stop ℕ := if b ≤ a then .ok (a - b) else .error .panic

variable {N : Type} [LinearOrder N]

namespace OutputTree

variable (t : OutputTree N)

/-- `check`. -/
def check (additional : ℕ) : Except Stop Unit := do
  failIf (t.state.poisoned = true)
    (.invalid "output accounting failed; refusing further writes")
  let used := t.state.used + t.state.held
  failIf (¬Fits used ∨ ¬Fits (used + additional) ∨ t.limit < used + additional) .exhausted

/-- `scan` and `register`: the ledger of the files that are there. -/
def register (limit : UInt64) (files : OrderedMap (List N) ℕ) : Except Stop (OutputTree N) := do
  failIf (limit = 0) .exhausted
  let used := files.total id
  failIf (¬Fits used) (.invalid "output byte count overflow")
  failIf (limit.toNat < used) .exhausted
  pure
    { limit := limit.toNat
      state := ⟨files.mapValues fun bytes => ⟨bytes, 0, true⟩, used, 0, used, false⟩
      files
      writers := ∅
      reservations := ∅
      next := 0 }

/-- `reserve`. -/
def reserve (bytes : ℕ) : Except Stop (OutputTree N) := do
  t.check bytes
  failIf (¬Fits (t.state.held + bytes)) .exhausted
  pure
    { t with
      state := { t.state with held := t.state.held + bytes }
      reservations := t.reservations.insert t.next bytes
      next := t.next + 1 }

/-- `drop` of a `Reservation`. -/
def dropReservation (handle : ℕ) : OutputTree N :=
  match t.reservations.get? handle with
  | none => t
  | some bytes =>
    { t with
      state := { t.state with held := t.state.held - bytes }
      reservations := t.reservations.erase handle }

/-- The tree with a new writer. -/
def withWriter (w : BudgetWriter N) : OutputTree N :=
  { t with writers := t.writers.insert t.next w, next := t.next + 1 }

/-- An entry that no one may open for writing. -/
def Entry.closed (e : Entry) : Bool := e.immutable || e.writers != 0

/-- `writer_inner`, for a file that is open, with the length that was read before the lock is
taken. -/
def writerInner (path : List N) (append : Bool) (length position : Option ℕ) :
    Except Stop (OutputTree N) := do
  let length ← getOr length .io
  let position ← getOr position .io
  t.check 0
  let old := t.state.entries.get? path
  failIf (old.any Entry.closed = true)
    (.invalid "output already has an active or immutable writer")
  failIf (old.any (fun e => e.bytes < length) = true)
    (.invalid "file grew outside output accounting")
  failIf (old = none ∧ length ≠ 0) (.invalid "unaccounted nonempty output file")
  let used ← sub t.state.used (old.elim 0 fun e => e.bytes - length)
  let entry := old.getD ⟨0, 0, false⟩
  let entries := t.state.entries.insert path
    { entry with bytes := length, writers := entry.writers + 1 }
  pure ({ t with state := { t.state with entries, used } }.withWriter ⟨path, position, append⟩)

/-- `drop` of a `BudgetWriter`. -/
def dropWriter (handle : ℕ) : OutputTree N :=
  match t.writers.get? handle with
  | none => t
  | some w =>
    let entries := match t.state.entries.get? w.path with
      | none => t.state.entries
      | some e => t.state.entries.insert w.path { e with writers := e.writers - 1 }
    { t with state := { t.state with entries }, writers := t.writers.erase handle }

/-- `seek`, with the position that the file system answers. -/
def seek (handle : ℕ) (next : Option ℕ) : Except Stop (OutputTree N) := do
  let w ← getOr (t.writers.get? handle) .io
  let next ← getOr next .io
  pure { t with writers := t.writers.insert handle { w with position := next } }

/-- What the file system makes of a write. -/
structure Written where
  /-- The length that the file has afterwards, as far as the write allows. -/
  length : ℕ
  /-- The length can be read. -/
  metadata : Bool
  position : Option ℕ
  result : Option Stop

/-- `write` of some bytes: the tree after it, and the error where it ends with one. -/
def write (handle count : ℕ) (o : Written) : Except Stop (OutputTree N × Option Stop) := do
  let w ← getOr (t.writers.get? handle) .io
  let e ← getOr (t.state.entries.get? w.path) (.invalid "output file accounting missing")
  let stop := w.position + count
  failIf (¬Fits stop) .exhausted
  let growth := if w.append then count else stop - e.bytes
  t.check growth
  failIf (¬Fits (e.bytes + growth)) .panic
  -- the file does not shrink, and ends where the bytes end at most
  let length := (t.files.get? w.path).getD 0
  let last := if w.append then length + count else max length stop
  let length := max length (min o.length last)
  let verified := o.metadata && decide (length ≤ e.bytes + growth)
  let actual := if verified then length else e.bytes + growth
  let poisoned := !verified || o.position.isNone
  let used ← sub (t.state.used + growth) (e.bytes + growth)
  pure
    ({ t with
      state :=
        { t.state with
          entries := t.state.entries.insert w.path { e with bytes := actual }
          used := used + actual
          highWater := max t.state.highWater (t.state.used + growth)
          poisoned }
      files := t.files.insert w.path length
      writers := t.writers.insert handle { w with position := o.position.getD w.position } },
    if poisoned then some (.invalid "output accounting could not verify write") else o.result)

/-- `create`, where the length that is there can be read or not and the file be created or not. -/
def create (path : List N) (metadata created : Bool) : Except Stop (OutputTree N) := do
  t.check 0
  let old := t.state.entries.get? path
  failIf (old.any Entry.closed = true) (.invalid "cannot truncate immutable or active output")
  failIf (metadata = true ∧ (t.files.get? path).any (fun length =>
      length != 0 && old.all fun e => e.bytes != length) = true)
    (.invalid "cannot truncate unaccounted output")
  failIf (created = false) .io
  let used ← sub t.state.used (old.elim 0 Entry.bytes)
  let entries := t.state.entries.insert path ⟨0, 1, false⟩
  pure ({ t with
    state := { t.state with entries, used }
    files := t.files.insert path 0 }.withWriter ⟨path, 0, false⟩)

/-- There is a file at a path or below it. -/
def holds (path : List N) : Bool := (t.files.below path).isEmpty = false

/-- `hard_link`, with the length that was read of the source before, a directory at the destination
or not, and the link made or not. -/
def hardLink (source destination : List N) (bytes : ℕ) (directory linked : Bool) :
    Except Stop (OutputTree N) := do
  -- the link of the file system itself fails on what is there
  failIf (t.holds destination = true ∨ directory = true) .io
  t.check bytes
  let e ← getOr (t.state.entries.get? source) (.invalid "unaccounted hard-link source")
  failIf (e.bytes ≠ bytes) (.invalid "unaccounted hard-link source")
  failIf (e.writers ≠ 0) (.invalid "cannot publish a file with an active writer")
  let length ← getOr (t.files.get? source) .io
  failIf (linked = false) .io
  let used := t.state.used + bytes
  let entries := (t.state.entries.insert source { e with immutable := true }).insert destination
    ⟨bytes, 0, true⟩
  pure
    { t with
      state := { t.state with entries, used, highWater := max t.state.highWater used }
      files := t.files.insert destination length }

/-- `verify_accounted_tree`, where all of it can be read. -/
def accounted (path : List N) : Bool :=
  (t.files.below path).all fun f => (t.state.entries.get? f.1).any fun e => e.bytes = f.2

/-- Some writer is at a path or below it. -/
def active (path : List N) : Bool :=
  (t.state.entries.below path).any fun e => e.2.writers != 0

/-- The tree with its ledger given up. -/
def poison : OutputTree N := { t with state := { t.state with poisoned := true } }

/-- What comes of a rename. -/
inductive Renamed where
  | failed
  /-- Done without effect, as between two names of one file. -/
  | kept
  | moved

/-- What the file system answers around a rename. -/
structure Replaced where
  /-- The trees can be read before. -/
  walked : Bool
  outcome : Renamed
  /-- The source can be looked up afterwards. -/
  looked : Bool
  /-- The trees can be read again. -/
  rewalked : Bool

/-- `replace_with`: the tree after it, and the error where it ends with one. -/
def replaceWith (source destination : List N) (o : Replaced) :
    Except Stop (OutputTree N × Option Stop) := do
  t.check 0
  failIf (o.walked = false) .io
  failIf (t.accounted source = false
      ∨ t.holds destination = true ∧ t.accounted destination = false)
    (.invalid "unaccounted output rename source or destination")
  failIf (t.active source = true) (.invalid "cannot rename an active output writer")
  failIf (t.active destination = true) (.invalid "cannot replace an active destination writer")
  match o.outcome with
  | .failed => .error .io
  | .kept =>
    pure (if o.looked = false then (t.poison, some .io)
      else if o.rewalked = true ∧ t.accounted source = true ∧ t.accounted destination = true then
        (t, none)
      else (t.poison, some (.invalid "atomic replacement left an unaccounted output shape")))
  | .moved => do
    -- a path does not take the place of one above or below it
    failIf (source <+: destination ∨ destination <+: source) .io
    let files := t.files.relocate source destination id
    if o.looked = false then pure ({ t with files }.poison, some .io)
    else do
      let removed := t.state.entries.entries.filter fun e =>
        destination <+: e.1 && !(source <+: e.1)
      let used ← removed.foldlM (fun used e => sub used e.2.bytes) t.state.used
      let entries := t.state.entries.relocate source destination
        fun e => { e with immutable := true }
      pure ({ t with state := { t.state with entries, used }, files }, none)

/-- `remove_file`, done by the file system or not. -/
def removeFile (path : List N) (removed : Bool) : Except Stop (OutputTree N) := do
  let old := t.state.entries.get? path
  failIf (old.any (fun e => e.writers != 0) = true)
    (.invalid "cannot remove an active output writer")
  failIf (t.files.get? path = none ∨ removed = false) .io
  let used ← sub t.state.used (old.elim 0 Entry.bytes)
  pure
    { t with
      state := { t.state with entries := t.state.entries.erase path, used }
      files := t.files.erase path }

/-- What the removal of a tree leaves: the files that are still there, those whose length can not be
read, and the error where it ends with one. -/
structure Removed (N : Type) where
  left : List N → Bool
  unread : List N → Bool
  result : Option Stop

/-- `remove_tree_with`. -/
def removeTree (path : List N) (o : Removed N) : Except Stop (OutputTree N × Option Stop) := do
  failIf (t.active path = true) (.invalid "cannot remove an active output writer")
  let files := t.files.filter fun f => !(path <+: f.1) || o.left f.1
  let gone (e : List N × Entry) : Bool := !o.unread e.1 && (files.get? e.1).isNone
  let names := t.state.entries.below path
  let used ← (names.filter gone).foldlM (fun used e => sub used e.2.bytes) t.state.used
  let poisoned := names.any fun e => o.unread e.1
    || (files.get? e.1).any fun length => length != e.2.bytes
  pure
    ({ t with
      state :=
        { t.state with
          entries := t.state.entries.filter fun e => !(path <+: e.1 && gone e)
          used
          poisoned := t.state.poisoned || poisoned }
      files },
    o.result)

/-- A file is cut, or opened with truncation, by whoever writes it. -/
def shrink (path : List N) (length : ℕ) : OutputTree N :=
  match t.files.get? path with
  | none => t
  | some old => { t with files := t.files.insert path (min old length) }

/-- An empty file is opened at a new path. -/
def touch (path : List N) : OutputTree N :=
  match t.files.get? path with
  | none => { t with files := t.files.insert path 0 }
  | some _ => t

end OutputTree

/-- The calls under the lock, and what happens to files from outside. -/
inductive Call (N : Type) where
  | reserve (bytes : ℕ)
  | dropReservation (handle : ℕ)
  | writerInner (path : List N) (append : Bool) (length position : Option ℕ)
  | dropWriter (handle : ℕ)
  | seek (handle : ℕ) (next : Option ℕ)
  | write (handle count : ℕ) (o : OutputTree.Written)
  | create (path : List N) (metadata created : Bool)
  | hardLink (source destination : List N) (bytes : ℕ) (directory linked : Bool)
  | replaceWith (source destination : List N) (o : OutputTree.Replaced)
  | removeFile (path : List N) (removed : Bool)
  | removeTree (path : List N) (o : OutputTree.Removed N)
  | shrink (path : List N) (length : ℕ)
  | touch (path : List N)

namespace OutputTree

/-- A call: the tree after it and the error where it ends with one, or its refusal. -/
def call (t : OutputTree N) : Call N → Except Stop (OutputTree N × Option Stop)
  | .reserve bytes => do pure (← t.reserve bytes, none)
  | .dropReservation handle => pure (t.dropReservation handle, none)
  | .writerInner path append length position => do
    pure (← t.writerInner path append length position, none)
  | .dropWriter handle => pure (t.dropWriter handle, none)
  | .seek handle next => do pure (← t.seek handle next, none)
  | .write handle count o => t.write handle count o
  | .create path metadata created => do pure (← t.create path metadata created, none)
  | .hardLink source destination bytes directory linked => do
    pure (← t.hardLink source destination bytes directory linked, none)
  | .replaceWith source destination o => t.replaceWith source destination o
  | .removeFile path removed => do pure (← t.removeFile path removed, none)
  | .removeTree path o => t.removeTree path o
  | .shrink path length => pure (t.shrink path length, none)
  | .touch path => pure (t.touch path, none)

/-- The tree after a call; a refused one changes nothing. -/
def after (t : OutputTree N) (c : Call N) : OutputTree N :=
  match t.call c with
  | .ok (t', _) => t'
  | .error _ => t

/-- Calls of all handles, in the order in which they take the lock. -/
def run (t : OutputTree N) (calls : List (Call N)) : OutputTree N := calls.foldl after t

/-- A file that is opened is as long as was read of it. -/
def Current (t : OutputTree N) : Call N → Prop
  | .writerInner path _ length _ => ∀ n, length = some n → t.files.get? path = some n
  | _ => True

/-- No file changes between the reading of its length and the lock. -/
def Timely : OutputTree N → List (Call N) → Prop
  | _, [] => True
  | t, c :: calls => t.Current c ∧ (t.after c).Timely calls

end OutputTree

end Storage

end ALife
