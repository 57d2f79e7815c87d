/-
# A directory whose steps may fail

A `Disk` is a directory, a map from names to bytes, together with a schedule of
faults: the `k`-th step fails where `faults k` is `some junk`, and a write that
fails leaves the junk behind.  Every other failed step changes nothing; a rename
is atomic.  `moves` records the renames that were done.

`now x files` is what a body returns on a quiet disk.  Bodies that only read
(`ReadsOnly`) return under any schedule what they return on a quiet disk, or
fail, and `now` takes their sequences apart (`now_bind`).
-/

import ALife.Machine.Outcome

namespace Machine

abbrev Bytes := List UInt8

/-- `std::io::ErrorKind`, as far as it is told apart. -/
inductive IoErrorKind where
  | notFound | alreadyExists | other
  deriving DecidableEq, Repr

/-- An error type that takes in the errors of the file system, `From<io::Error>`. -/
class FromIo (ε : Type) where
  io : IoErrorKind → ε

instance : FromIo IoErrorKind := ⟨id⟩

structure Disk (N : Type) where
  files : N → Option Bytes
  faults : ℕ → Option Bytes
  clock : ℕ
  moves : List (N × N)
  /-- A counter that makes names. -/
  counter : UInt64

namespace Disk

variable {N ε ε' α β : Type}

section Steps

variable [FromIo ε]

/-- The fault of the next step, which is used up. -/
def nextFault : EStateM ε (Disk N) (Option Bytes) := fun d =>
  .ok (d.faults d.clock) { d with clock := d.clock + 1 }

/-- A step that can only fail. -/
def access : EStateM ε (Disk N) Unit := fun d =>
  match d.faults d.clock with
  | none => .ok () { d with clock := d.clock + 1 }
  | some _ => .error (FromIo.io .other) { d with clock := d.clock + 1 }

/-- Assigns the files. -/
def put (files : N → Option Bytes) : EStateM ε (Disk N) Unit := fun d =>
  .ok () { d with files }

def fail (e : IoErrorKind) : EStateM ε (Disk N) α := throw (FromIo.io e)

/-- `fs::read`. -/
def read (name : N) : EStateM ε (Disk N) Bytes := do
  access
  let d ← get
  match d.files name with
  | some bytes => pure bytes
  | none => fail .notFound

/-- `Path::exists`. -/
def pathExists (name : N) : EStateM ε (Disk N) Bool := do
  let d ← get
  pure (d.files name).isSome

/-- `fetch_add(1)` on the counter. -/
def nextCounter : EStateM ε (Disk N) UInt64 := fun d =>
  .ok d.counter { d with counter := d.counter + 1 }

variable [DecidableEq N]

/-- `OpenOptions::create_new`. -/
def createNew (name : N) : EStateM ε (Disk N) Unit := do
  access
  let d ← get
  match d.files name with
  | some _ => fail .alreadyExists
  | none => put (Function.update d.files name (some []))

/-- Writes a file that was just created; a failed write leaves junk. -/
def write (name : N) (bytes : Bytes) : EStateM ε (Disk N) Unit := do
  let fault ← nextFault
  let d ← get
  match fault with
  | none => put (Function.update d.files name (some bytes))
  | some junk => do
    put (Function.update d.files name (some junk))
    fail .other

/-- `rename`, which replaces its destination. -/
def rename (source destination : N) : EStateM ε (Disk N) Unit := do
  access
  let d ← get
  match d.files source with
  | none => fail .notFound
  | some bytes => set { d with
      files := Function.update (Function.update d.files source none) destination (some bytes)
      moves := (source, destination) :: d.moves }

/-- `remove_file`. -/
def removeFile (name : N) : EStateM ε (Disk N) Unit := do
  access
  let d ← get
  match d.files name with
  | none => fail .notFound
  | some _ => put (Function.update d.files name none)

end Steps

/-! ### What a step does -/

/-- All but the clock is as it was. -/
structure Same (d t : Disk N) : Prop where
  files : t.files = d.files
  moves : t.moves = d.moves
  faults : t.faults = d.faults
  counter : t.counter = d.counter

theorem Same.refl (d : Disk N) : Same d d := ⟨rfl, rfl, rfl, rfl⟩

theorem Same.trans {d t u : Disk N} (h : Same d t) (h' : Same t u) : Same d u :=
  ⟨h'.files.trans h.files, h'.moves.trans h.moves, h'.faults.trans h.faults,
    h'.counter.trans h.counter⟩

section Ends

variable [FromIo ε]

theorem ends_access (d : Disk N) :
    Ends (access : EStateM ε (Disk N) Unit) d (fun _ => Same d) (fun _ => Same d) := by
  unfold Ends access
  cases d.faults d.clock <;> exact ⟨rfl, rfl, rfl, rfl⟩

/-- A file that is not found is not there; other errors say nothing. -/
theorem ends_read_kind (name : N) (d : Disk N) :
    Ends (read name : EStateM ε (Disk N) Bytes) d
      (fun bytes t => d.files name = some bytes ∧ Same d t)
      (fun e t => Same d t ∧ ∃ kind, e = FromIo.io kind ∧
        (kind = .notFound → d.files name = none)) := by
  have haccess : Ends (access : EStateM ε (Disk N) Unit) d (fun _ => Same d)
      (fun e t => Same d t ∧ ∃ kind, e = FromIo.io kind ∧
        (kind = .notFound → d.files name = none)) := by
    unfold Ends access
    cases d.faults d.clock
    · exact ⟨rfl, rfl, rfl, rfl⟩
    · exact ⟨⟨rfl, rfl, rfl, rfl⟩, .other, rfl, fun h => by cases h⟩
  refine haccess.bind fun _ t h => ?_
  change Ends (match t.files name with | some bytes => pure bytes | none => fail .notFound) t _ _
  cases hname : t.files name with
  | none => exact ends_throw ⟨h, .notFound, rfl, fun _ => by rw [← h.files, hname]⟩
  | some bytes => exact ends_pure ⟨by rw [← h.files, hname], h⟩

theorem ends_read (name : N) (d : Disk N) :
    Ends (read name : EStateM ε (Disk N) Bytes) d
      (fun bytes t => d.files name = some bytes ∧ Same d t) (fun _ => Same d) :=
  (ends_read_kind name d).mono (fun _ _ h => h) fun _ _ h => h.1

omit [FromIo ε] in
theorem ends_nextCounter (d : Disk N) :
    Ends (nextCounter : EStateM ε (Disk N) UInt64) d
      (fun n t => n = d.counter ∧ t = { d with counter := d.counter + 1 }) (fun _ _ => False) :=
  ⟨rfl, rfl⟩

omit [FromIo ε] in
theorem ends_pathExists (name : N) (d : Disk N) :
    Ends (pathExists name : EStateM ε (Disk N) Bool) d
      (fun found t => found = (d.files name).isSome ∧ Same d t) (fun _ _ => False) :=
  ⟨rfl, Same.refl d⟩

variable [DecidableEq N]

theorem ends_createNew (name : N) (d : Disk N) :
    Ends (createNew name : EStateM ε (Disk N) Unit) d
      (fun _ t => d.files name = none ∧ t.files = Function.update d.files name (some []) ∧
        t.moves = d.moves)
      (fun _ => Same d) := by
  refine (ends_access d).bind fun _ t h => ?_
  change Ends (match t.files name with
    | some _ => fail .alreadyExists
    | none => put (Function.update t.files name (some []))) t _ _
  cases hname : t.files name with
  | some _ => exact ends_throw h
  | none => exact ⟨by rw [← h.files, hname], by rw [← h.files], h.moves⟩

/-- A write leaves some bytes in its file, the right ones if it succeeds. -/
theorem ends_write (name : N) (bytes : Bytes) (d : Disk N) :
    Ends (write name bytes : EStateM ε (Disk N) Unit) d
      (fun _ t => t.files = Function.update d.files name (some bytes) ∧ t.moves = d.moves)
      (fun _ t => ∃ junk, t.files = Function.update d.files name (some junk) ∧
        t.moves = d.moves) := by
  change Ends (match d.faults d.clock with
    | none => put (Function.update d.files name (some bytes))
    | some junk => (do
      put (Function.update d.files name (some junk))
      fail .other : EStateM ε (Disk N) Unit)) { d with clock := d.clock + 1 } _ _
  cases d.faults d.clock with
  | none => exact ⟨rfl, rfl⟩
  | some junk => exact ⟨junk, rfl, rfl⟩

theorem ends_rename (source destination : N) (d : Disk N) :
    Ends (rename source destination : EStateM ε (Disk N) Unit) d
      (fun _ t => ∃ bytes, d.files source = some bytes ∧
        t.files = Function.update (Function.update d.files source none) destination (some bytes) ∧
        t.moves = (source, destination) :: d.moves)
      (fun _ => Same d) := by
  refine (ends_access d).bind fun _ t h => ?_
  change Ends (match t.files source with
    | none => fail .notFound
    | some bytes => set ({ t with
        files := Function.update (Function.update t.files source none) destination (some bytes)
        moves := (source, destination) :: t.moves } : Disk N)) t _ _
  cases hname : t.files source with
  | none => exact ends_throw h
  | some bytes =>
    exact ⟨bytes, by rw [← h.files, hname], by rw [← h.files], by rw [← h.moves]⟩

theorem ends_removeFile (name : N) (d : Disk N) :
    Ends (removeFile name : EStateM ε (Disk N) Unit) d
      (fun _ t => t.files = Function.update d.files name none ∧ t.moves = d.moves)
      (fun _ => Same d) := by
  refine (ends_access d).bind fun _ t h => ?_
  change Ends (match t.files name with
    | none => fail .notFound
    | some _ => put (Function.update t.files name none)) t _ _
  cases t.files name with
  | none => exact ends_throw h
  | some _ => exact ⟨by rw [← h.files], h.moves⟩

end Ends

/-! ### Frames -/

/-- Every file that was there is there with its bytes, and so is what is at the
fixed names, which may be nothing. -/
def Adds (fixed : N → Prop) (F G : N → Option Bytes) : Prop :=
  ∀ n, fixed n ∨ (F n).isSome = true → G n = F n

/-- The same, but for one name. -/
def AddsBut (swapped : N) (fixed : N → Prop) (F G : N → Option Bytes) : Prop :=
  ∀ n, n ≠ swapped → fixed n ∨ (F n).isSome = true → G n = F n

section Frames

variable {fixed : N → Prop} {swapped : N} {F G H : N → Option Bytes}

theorem Adds.refl (F : N → Option Bytes) : Adds fixed F F := fun _ _ => rfl

theorem Adds.trans (h : Adds fixed F G) (h' : Adds fixed G H) : Adds fixed F H := by
  intro n hn
  have hFG := h n hn
  rw [h' n (hn.imp_right fun hsome => by rwa [hFG]), hFG]

theorem Adds.of_eq (h : G = F) : Adds fixed F G := fun _ _ => by rw [h]

theorem Adds.at_some (h : Adds fixed F G) {n : N} {bytes : Bytes} (hn : F n = some bytes) :
    G n = some bytes := by
  rw [h n (.inr (by rw [hn]; rfl)), hn]

theorem Adds.addsBut (h : Adds fixed F G) : AddsBut swapped fixed F G := fun n _ => h n

theorem AddsBut.trans (h : AddsBut swapped fixed F G) (h' : AddsBut swapped fixed G H) :
    AddsBut swapped fixed F H := by
  intro n hne hn
  have hFG := h n hne hn
  rw [h' n hne (hn.imp_right fun hsome => by rwa [hFG]), hFG]

/-- When the one name has its bytes again, nothing was lost. -/
theorem AddsBut.adds (h : AddsBut swapped fixed F G) (hback : G swapped = F swapped) : Adds fixed F G := by
  intro n hn
  by_cases he : n = swapped
  · rw [he, hback]
  · exact h n he hn

theorem AddsBut.at_some (h : AddsBut swapped fixed F G) {n : N} {bytes : Bytes} (hne : n ≠ swapped)
    (hn : F n = some bytes) : G n = some bytes := by
  rw [h n hne (.inr (by rw [hn]; rfl)), hn]

variable [DecidableEq N]

/-- A new name may be used freely. -/
theorem Adds.update (h : Adds fixed F G) {name : N} (hfree : ¬fixed name) (hnew : F name = none)
    (v : Option Bytes) : Adds fixed F (Function.update G name v) := by
  intro n hn
  have hne : n ≠ name := by
    rintro rfl
    rcases hn with hfixed | hsome
    · exact hfree hfixed
    · simp [hnew] at hsome
  rw [Function.update_of_ne hne, h n hn]

theorem AddsBut.update_swapped (h : AddsBut swapped fixed F G) (v : Option Bytes) :
    AddsBut swapped fixed F (Function.update G swapped v) := by
  intro n hne hn
  rw [Function.update_of_ne hne, h n hne hn]

end Frames

/-- A body that renamed nothing and kept what was there. -/
structure Grows (fixed : N → Prop) (d t : Disk N) : Prop where
  adds : Adds fixed d.files t.files
  moves : t.moves = d.moves

theorem Grows.refl {fixed : N → Prop} (d : Disk N) : Grows fixed d d := ⟨.refl _, rfl⟩

theorem Grows.trans {fixed : N → Prop} {d t u : Disk N} (h : Grows fixed d t)
    (h' : Grows fixed t u) : Grows fixed d u :=
  ⟨h.adds.trans h'.adds, h'.moves.trans h.moves⟩

theorem Same.grows {fixed : N → Prop} {d t : Disk N} (h : Same d t) : Grows fixed d t :=
  ⟨.of_eq h.files, h.moves⟩

/-! ### Reading -/

/-- No step of the schedule fails. -/
def Quiet (d : Disk N) : Prop := ∀ k, d.faults k = none

theorem Same.quiet {d t : Disk N} (h : Same d t) (hd : d.Quiet) : t.Quiet := by
  intro k
  rw [h.faults, hd k]

/-- The files on a disk no step of which fails. -/
def quietDisk (files : N → Option Bytes) : Disk N := ⟨files, fun _ => none, 0, [], 0⟩

theorem quietDisk_quiet (files : N → Option Bytes) : (quietDisk files).Quiet := fun _ => rfl

/-- What a body returns on a quiet disk. -/
def now (x : EStateM ε (Disk N) α) (files : N → Option Bytes) : Except ε α :=
  match x (quietDisk files) with
  | .ok a _ => .ok a
  | .error e _ => .error e

/-- A body that only reads: it changes nothing, it returns what it returns on a
quiet disk or fails, and on a quiet disk it does not depend on the past. -/
class ReadsOnly (x : EStateM ε (Disk N) α) : Prop where
  ends : ∀ d, Ends x d (fun a t => now x d.files = .ok a ∧ Same d t) (fun _ => Same d)
  quiet : ∀ d, d.Quiet →
    Ends x d (fun a _ => now x d.files = .ok a) (fun e _ => now x d.files = .error e)

instance (r : Except ε α) : ReadsOnly (ofResult r : EStateM ε (Disk N) α) := by
  refine ⟨fun d => ?_, fun d _ => ?_⟩ <;> cases r
  · exact Same.refl d
  · exact ⟨rfl, Same.refl d⟩
  · exact rfl
  · exact rfl

@[simp] theorem now_ofResult (r : Except ε α) (files : N → Option Bytes) :
    now (ofResult r : EStateM ε (Disk N) α) files = r := by
  cases r <;> rfl

instance (a : α) : ReadsOnly (pure a : EStateM ε (Disk N) α) :=
  ⟨fun d => ⟨rfl, Same.refl d⟩, fun _ _ => rfl⟩

@[simp] theorem now_pure (a : α) (files : N → Option Bytes) :
    now (pure a : EStateM ε (Disk N) α) files = .ok a := rfl

instance (name : N) : ReadsOnly (pathExists name : EStateM ε (Disk N) Bool) :=
  ⟨fun d => ⟨rfl, Same.refl d⟩, fun _ _ => rfl⟩

@[simp] theorem now_pathExists (name : N) (files : N → Option Bytes) :
    now (pathExists name : EStateM ε (Disk N) Bool) files = .ok (files name).isSome := rfl

instance {c : Prop} [Decidable c] {x y : EStateM ε (Disk N) α} [hx : ReadsOnly x]
    [hy : ReadsOnly y] : ReadsOnly (if c then x else y) := by
  split_ifs
  · exact hx
  · exact hy

section Read

variable [FromIo ε]

theorem access_of_quiet {d : Disk N} (h : d.Quiet) :
    (access : EStateM ε (Disk N) Unit) d = .ok () { d with clock := d.clock + 1 } := by
  unfold access
  rw [h d.clock]

@[simp] theorem now_access (files : N → Option Bytes) :
    now (access : EStateM ε (Disk N) Unit) files = .ok () := rfl

instance : ReadsOnly (access : EStateM ε (Disk N) Unit) where
  ends d := (ends_access d).mono (fun _ _ h => ⟨rfl, h⟩) fun _ _ h => h
  quiet d hd := by
    unfold Ends
    rw [access_of_quiet hd]
    exact rfl

theorem now_read (name : N) (files : N → Option Bytes) :
    now (read name : EStateM ε (Disk N) Bytes) files =
      match files name with
      | some bytes => .ok bytes
      | none => .error (FromIo.io .notFound) := by
  unfold now read
  rw [bind_apply, access_of_quiet (quietDisk_quiet files)]
  dsimp only
  rw [bind_apply, get_apply]
  dsimp only [quietDisk]
  cases files name <;> rfl

@[simp] theorem now_read_eq_ok_iff {name : N} {files : N → Option Bytes} {bytes : Bytes} :
    now (read name : EStateM ε (Disk N) Bytes) files = .ok bytes ↔ files name = some bytes := by
  rw [now_read]
  cases files name <;> simp

instance (name : N) : ReadsOnly (read name : EStateM ε (Disk N) Bytes) where
  ends d := (ends_read name d).mono (fun _ _ h => ⟨now_read_eq_ok_iff.2 h.1, h.2⟩) fun _ _ h => h
  quiet d hd := by
    rw [now_read]
    unfold Ends read
    rw [bind_apply, access_of_quiet hd]
    change Ends (match d.files name with | some bytes => pure bytes | none => fail .notFound)
      { d with clock := d.clock + 1 } _ _
    cases d.files name <;> exact rfl

end Read

section Sequences

variable {x : EStateM ε (Disk N) α} {f : α → EStateM ε (Disk N) β}

/-- On a quiet disk a sequence of reads is the sequence of what they return. -/
theorem now_bind [hx : ReadsOnly x] [hf : ∀ a, ReadsOnly (f a)] (files : N → Option Bytes) :
    now (x >>= f) files = now x files >>= fun a => now (f a) files := by
  cases h : x (quietDisk files) with
  | error e t =>
    have hx' : now x files = .error e := by rw [now, h]
    rw [hx', now, bind_apply, h]
    rfl
  | ok a t =>
    have hx' : now x files = .ok a := by rw [now, h]
    obtain ⟨-, hsame⟩ := (hx.ends (quietDisk files)).of_ok h
    have hquiet := (hf a).quiet t (hsame.quiet (quietDisk_quiet files))
    rw [show t.files = files from hsame.files] at hquiet
    rw [hx', now, bind_apply, h]
    change _ = now (f a) files
    unfold Ends at hquiet
    dsimp only
    cases hfa : f a t <;> rw [hfa] at hquiet <;> exact hquiet.symm

@[simp] theorem now_bind_eq_ok_iff [ReadsOnly x] [∀ a, ReadsOnly (f a)]
    {files : N → Option Bytes} {b : β} :
    now (x >>= f) files = .ok b ↔ ∃ a, now x files = .ok a ∧ now (f a) files = .ok b := by
  rw [now_bind]
  cases now x files <;> simp [bind, Except.bind]

instance [hx : ReadsOnly x] [hf : ∀ a, ReadsOnly (f a)] : ReadsOnly (x >>= f) where
  ends d := by
    refine (hx.ends d).bind fun a t ⟨hnow, hsame⟩ => ?_
    refine ((hf a).ends t).mono (fun b u ⟨hb, hu⟩ => ⟨?_, hsame.trans hu⟩)
      fun _ _ hu => hsame.trans hu
    rw [now_bind, hnow, ← hsame.files]
    exact hb
  quiet d hd := by
    have hxd := (hx.ends d).and (hx.quiet d hd)
    refine ends_iff.2 ⟨fun b t hb => ?_, fun e t he => ?_⟩
    · obtain ⟨a, u, hxu, hfu⟩ := bind_eq_ok_iff.1 hb
      obtain ⟨⟨hnow, hsame⟩, -⟩ := hxd.of_ok hxu
      rw [now_bind, hnow, ← hsame.files]
      exact ((hf a).quiet u (hsame.quiet hd)).of_ok hfu
    · rw [now_bind]
      rcases bind_eq_error_iff.1 he with hxe | ⟨a, u, hxu, hfu⟩
      · rw [(hxd.of_error hxe).2]
        rfl
      · obtain ⟨⟨hnow, hsame⟩, -⟩ := hxd.of_ok hxu
        rw [hnow, ← hsame.files]
        exact ((hf a).quiet u (hsame.quiet hd)).of_error hfu

end Sequences

/-- A sequence that reads first. -/
theorem ends_reads {x : EStateM ε (Disk N) α} {f : α → EStateM ε (Disk N) β} [hx : ReadsOnly x]
    {d : Disk N} {R : β → Disk N → Prop} {E : ε → Disk N → Prop}
    (herror : ∀ e t, Same d t → E e t)
    (hf : ∀ a t, now x d.files = .ok a → Same d t → Ends (f a) t R E) : Ends (x >>= f) d R E :=
  ((hx.ends d).mono (fun _ _ h => h) herror).bind fun a t h => hf a t h.1 h.2

/-- What only reads succeeds on a quiet disk when `now` does. -/
theorem ReadsOnly.eq_ok {x : EStateM ε (Disk N) α} [hx : ReadsOnly x] {d : Disk N}
    (hd : d.Quiet) {a : α} (h : now x d.files = .ok a) : ∃ t, x d = .ok a t ∧ Same d t := by
  have hends := (hx.ends d).and (hx.quiet d hd)
  unfold Ends at hends
  cases hxd : x d with
  | ok b t =>
    rw [hxd] at hends
    obtain ⟨⟨-, hsame⟩, hb⟩ := hends
    rw [h] at hb
    exact ⟨t, by rw [Except.ok.inj hb], hsame⟩
  | error e t =>
    rw [hxd] at hends
    rw [h] at hends
    exact absurd hends.2 (by simp)

/-! ### Quiet steps -/

/-- The files are set, and the schedule and the counter kept. -/
structure Sets (files : N → Option Bytes) (d t : Disk N) : Prop where
  files : t.files = files
  faults : t.faults = d.faults
  counter : t.counter = d.counter

theorem Same.sets {d t : Disk N} (h : Same d t) : Sets d.files d t := ⟨h.files, h.faults, h.counter⟩

theorem Sets.trans {d t u : Disk N} {F G : N → Option Bytes} (h : Sets F d t) (h' : Sets G t u) :
    Sets G d u :=
  ⟨h'.files, h'.faults.trans h.faults, h'.counter.trans h.counter⟩

theorem Sets.quiet {d t : Disk N} {F : N → Option Bytes} (h : Sets F d t) (hd : d.Quiet) :
    t.Quiet := by
  intro k
  rw [h.faults, hd k]

/-- On a quiet disk a sequence that reads first fails where `now` does. -/
theorem ends_reads_quiet {x : EStateM ε (Disk N) α} {f : α → EStateM ε (Disk N) β}
    [hx : ReadsOnly x] {d : Disk N} (hd : d.Quiet) {R : β → Disk N → Prop}
    {E : ε → Disk N → Prop} (herror : ∀ e t, now x d.files = .error e → Same d t → E e t)
    (hf : ∀ a t, now x d.files = .ok a → Same d t → Ends (f a) t R E) : Ends (x >>= f) d R E :=
  (((hx.ends d).and (hx.quiet d hd)).mono (fun _ _ h => h.1)
    fun e t h => herror e t h.2 h.1).bind fun a t h => hf a t h.1 h.2

section QuietSteps

variable [FromIo ε] [DecidableEq N] {d : Disk N}

omit [DecidableEq N] in
theorem ends_access_quiet (hd : d.Quiet) :
    Ends (access : EStateM ε (Disk N) Unit) d (fun _ => Same d) (fun _ _ => False) := by
  unfold Ends
  rw [access_of_quiet hd]
  exact ⟨rfl, rfl, rfl, rfl⟩

theorem ends_createNew_quiet (hd : d.Quiet) (name : N) :
    Ends (createNew name : EStateM ε (Disk N) Unit) d
      (fun _ t => d.files name = none ∧ Sets (Function.update d.files name (some [])) d t)
      (fun e t => e = FromIo.io .alreadyExists ∧ (d.files name).isSome = true ∧ Same d t) := by
  refine ((ends_access_quiet hd).mono (fun _ _ h => h) fun _ _ h => h.elim).bind fun _ t h => ?_
  change Ends (match t.files name with
    | some _ => fail .alreadyExists
    | none => put (Function.update t.files name (some []))) t _ _
  cases hname : t.files name with
  | some _ => exact ends_throw ⟨rfl, by rw [← h.files, hname]; rfl, h⟩
  | none => exact ⟨by rw [← h.files, hname], by rw [← h.files], h.faults, h.counter⟩

theorem ends_write_quiet (hd : d.Quiet) (name : N) (bytes : Bytes) :
    Ends (write name bytes : EStateM ε (Disk N) Unit) d
      (fun _ t => Sets (Function.update d.files name (some bytes)) d t) (fun _ _ => False) := by
  change Ends (match d.faults d.clock with
    | none => put (Function.update d.files name (some bytes))
    | some junk => (do
      put (Function.update d.files name (some junk))
      fail .other : EStateM ε (Disk N) Unit)) { d with clock := d.clock + 1 } _ _
  rw [hd d.clock]
  exact ⟨rfl, rfl, rfl⟩

theorem ends_rename_quiet (hd : d.Quiet) {source : N} {bytes : Bytes}
    (hsource : d.files source = some bytes) (destination : N) :
    Ends (rename source destination : EStateM ε (Disk N) Unit) d
      (fun _ t => Sets (Function.update (Function.update d.files source none) destination
        (some bytes)) d t) (fun _ _ => False) := by
  refine (ends_access_quiet hd).bind fun _ t h => ?_
  change Ends (match t.files source with
    | none => fail .notFound
    | some bytes => set ({ t with
        files := Function.update (Function.update t.files source none) destination (some bytes)
        moves := (source, destination) :: t.moves } : Disk N)) t _ _
  rw [h.files, hsource]
  exact ⟨rfl, h.faults, h.counter⟩

end QuietSteps

end Disk

end Machine
