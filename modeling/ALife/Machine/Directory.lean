/-
# A flat directory

The files of one directory by name, with a list of marks that the caller leaves
(what it has done so far).  Listing, reading, creating, linking and removing are
one step each, which may fail and then change nothing; a write that is cut
leaves a proper prefix of what it was to write.
-/

import ALife.Machine.Faulted
import ALife.Machine.OrderedMap

namespace Machine

structure Directory (N A : Type) [LinearOrder N] where
  files : OrderedMap N Bytes
  marks : List A

namespace Directory

variable {ε N A : Type} [FromIo ε] [LinearOrder N]

/-- The file, or the error that there is none. -/
def fileOrNotFound (d : Directory N A) (name : N) : Except ε Bytes :=
  match d.files.get? name with
  | some bytes => .ok bytes
  | none => .error (FromIo.io .notFound)

/-- The directory with a file in its place. -/
def withFile (name : N) (bytes : Bytes) (d : Directory N A) : Directory N A :=
  { d with files := d.files.insert name bytes }

/-- The directory without a file. -/
def withoutFile (name : N) (d : Directory N A) : Directory N A :=
  { d with files := d.files.erase name }

/-- What is left of a document when its write is cut. -/
def cutAt (k : ℕ) (bytes : Bytes) : Bytes := bytes.take (min k (bytes.length - 1))

theorem cutAt_prefix (k : ℕ) (bytes : Bytes) : cutAt k bytes <+: bytes := List.take_prefix _ _

theorem cutAt_ne {k : ℕ} {bytes : Bytes} (h : bytes ≠ []) : cutAt k bytes ≠ bytes := by
  intro heq
  have hpos : 0 < bytes.length := List.length_pos_of_ne_nil h
  have hlength := congrArg List.length heq
  rw [cutAt, List.length_take] at hlength
  omega

/-- `fs::read_dir`, with every entry it gives. -/
def readDir : EStateM ε (Faulted (Directory N A)) (List N) := do
  Faulted.access
  Faulted.observe fun d => .ok (d.files.entries.map (·.1))

/-- `metadata().len()`. -/
def fileLen (name : N) : EStateM ε (Faulted (Directory N A)) ℕ := do
  Faulted.access
  let bytes ← Faulted.observe fun d => d.fileOrNotFound name
  pure bytes.length

/-- Opens a file and reads it to its end. -/
def readFile (name : N) : EStateM ε (Faulted (Directory N A)) Bytes := do
  Faulted.access
  Faulted.observe fun d => d.fileOrNotFound name

/-- `OpenOptions::create_new`. -/
def createNew (name : N) : EStateM ε (Faulted (Directory N A)) Unit := do
  Faulted.access
  Faulted.observe fun d =>
    if d.files.contains name then .error (FromIo.io .alreadyExists) else .ok ()
  Faulted.change (withFile name [])

/-- Writes the bytes of a file that was just created. -/
def writeFile (name : N) (bytes : Bytes) : EStateM ε (Faulted (Directory N A)) Unit :=
  Faulted.cutting (withFile name bytes) fun k => withFile name (cutAt k bytes)

/-- `fs::hard_link`. -/
def hardLink (source destination : N) : EStateM ε (Faulted (Directory N A)) Unit := do
  Faulted.access
  let bytes ← Faulted.observe fun d => d.fileOrNotFound source
  Faulted.observe fun d =>
    if d.files.contains destination then .error (FromIo.io .alreadyExists) else .ok ()
  Faulted.change (withFile destination bytes)

/-- `fs::remove_file`. -/
def removeFile (name : N) : EStateM ε (Faulted (Directory N A)) Unit := do
  Faulted.access
  let _ ← Faulted.observe fun d => d.fileOrNotFound name
  Faulted.change (withoutFile name)

omit [FromIo ε] in
/-- Leaves a mark. -/
def mark (a : A) : EStateM ε (Faulted (Directory N A)) Unit :=
  Faulted.change fun d => { d with marks := d.marks ++ [a] }

/-! ### What they see and leave -/

section Observing

instance : Faulted.Observes (readDir : EStateM ε (Faulted (Directory N A)) (List N)) := by
  unfold readDir
  infer_instance

instance (name : N) : Faulted.Observes (fileLen name : EStateM ε (Faulted (Directory N A)) ℕ) := by
  unfold fileLen
  infer_instance

instance (name : N) :
    Faulted.Observes (readFile name : EStateM ε (Faulted (Directory N A)) Bytes) := by
  unfold readFile
  infer_instance

variable {d : Directory N A} {name : N} {bytes : Bytes} {n : ℕ}

theorem fileOrNotFound_eq_ok_iff :
    (d.fileOrNotFound name : Except ε Bytes) = .ok bytes ↔ d.files.get? name = some bytes := by
  unfold fileOrNotFound
  cases d.files.get? name <;> simp

@[simp] theorem value_readDir : Faulted.value
    (readDir : EStateM ε (Faulted (Directory N A)) (List N)) d =
      .ok (d.files.entries.map (·.1)) := by
  simp [readDir]

@[simp] theorem value_readFile_eq_ok_iff : Faulted.value
    (readFile name : EStateM ε (Faulted (Directory N A)) Bytes) d = .ok bytes ↔
      d.files.get? name = some bytes := by
  simp [readFile, fileOrNotFound_eq_ok_iff]

@[simp] theorem value_fileLen_eq_ok_iff : Faulted.value
    (fileLen name : EStateM ε (Faulted (Directory N A)) ℕ) d = .ok n ↔
      ∃ bytes, d.files.get? name = some bytes ∧ bytes.length = n := by
  unfold fileLen
  simp only [Faulted.value_access_bind, Faulted.value_bind_eq_ok_iff, Faulted.value_observe,
    fileOrNotFound_eq_ok_iff, Faulted.value_pure, Except.ok.injEq]

end Observing

section Leaving

open Faulted

variable {s : Faulted (Directory N A)} {name source destination : N} {bytes : Bytes}

theorem value_absent_eq_ok_iff {d : Directory N A} {u : Unit} :
    value (observe fun d : Directory N A =>
      if d.files.contains name then .error (FromIo.io .alreadyExists)
      else (.ok () : Except ε Unit)) d = .ok u ↔ d.files.contains name = false := by
  rw [value_observe]
  split_ifs with h <;> simp [h]

/-- A file is created only where there is none. -/
theorem ends_createNew : Ends (createNew name : EStateM ε (Faulted (Directory N A)) Unit) s
    (fun _ t => s.world.files.contains name = false ∧ Leaves (s.world.withFile name []) s t)
    (fun _ => Kept s) := by
  unfold createNew
  refine ends_observing (fun _ _ h => h) fun _ t _ ht => ?_
  refine ends_observing (fun _ _ h => ht.trans h) fun _ u hu hu' => ?_
  have hkept := ht.trans hu'
  rw [value_absent_eq_ok_iff, ht.world] at hu
  refine (ends_change _ u).mono (fun _ v hv => ⟨hu, ?_⟩) fun _ _ h => h.elim
  rw [hkept.world] at hv
  exact Leaves.trans hkept hv

/-- A link puts the bytes of its source where nothing was. -/
theorem ends_hardLink :
    Ends (hardLink source destination : EStateM ε (Faulted (Directory N A)) Unit) s
      (fun _ t => ∃ bytes, s.world.files.get? source = some bytes ∧
        s.world.files.contains destination = false ∧
        Leaves (s.world.withFile destination bytes) s t)
      (fun _ => Kept s) := by
  unfold hardLink
  refine ends_observing (fun _ _ h => h) fun _ t _ ht => ?_
  refine ends_observing (fun _ _ h => ht.trans h) fun bytes u hu hu' => ?_
  have hkept := ht.trans hu'
  rw [value_observe, fileOrNotFound_eq_ok_iff, ht.world] at hu
  refine ends_observing (fun _ _ h => hkept.trans h) fun _ v hv hv' => ?_
  have hkept' := hkept.trans hv'
  rw [value_absent_eq_ok_iff, hkept.world] at hv
  refine (ends_change _ v).mono (fun _ w hw => ⟨bytes, hu, hv, ?_⟩) fun _ _ h => h.elim
  rw [hkept'.world] at hw
  exact Leaves.trans hkept' hw

theorem ends_removeFile :
    Ends (removeFile name : EStateM ε (Faulted (Directory N A)) Unit) s
      (fun _ t => Leaves (s.world.withoutFile name) s t) (fun _ => Kept s) := by
  unfold removeFile
  refine ends_observing (fun _ _ h => h) fun _ t _ ht => ?_
  refine ends_observing (fun _ _ h => ht.trans h) fun _ u _ hu => ?_
  have hkept := ht.trans hu
  refine (ends_change _ u).mono (fun _ v hv => ?_) fun _ _ h => h.elim
  rw [hkept.world] at hv
  exact Leaves.trans hkept hv

/-- A write leaves the document, or a proper prefix of it. -/
theorem ends_writeFile (hne : bytes ≠ []) :
    Ends (writeFile name bytes : EStateM ε (Faulted (Directory N A)) Unit) s
      (fun _ => Leaves (s.world.withFile name bytes) s)
      (fun _ t => ∃ torn, torn <+: bytes ∧ torn ≠ bytes ∧
        Leaves (s.world.withFile name torn) s t) :=
  (ends_cutting _ _ s).mono (fun _ _ h => h)
    fun _ _ ⟨k, h⟩ => ⟨cutAt k bytes, cutAt_prefix k bytes, cutAt_ne hne, h⟩

theorem ends_hardLink_calm (hs : s.Calm) (hsource : s.world.files.get? source = some bytes)
    (hfree : s.world.files.contains destination = false) :
    Ends (hardLink source destination : EStateM ε (Faulted (Directory N A)) Unit) s
      (fun _ => Leaves (s.world.withFile destination bytes) s) (fun _ _ => False) := by
  unfold hardLink
  refine ends_observing_calm hs (value_access _) fun t ht => ?_
  refine ends_observing_calm (ht.calm hs) (a := bytes)
    (by rwa [value_observe, fileOrNotFound_eq_ok_iff, ht.world]) fun u hu => ?_
  have hkept := ht.trans hu
  refine ends_observing_calm (hkept.calm hs) (a := ())
    (by rwa [value_absent_eq_ok_iff, hkept.world]) fun v hv => ?_
  have hkept' := hkept.trans hv
  refine (ends_change _ v).mono (fun _ w hw => ?_) fun _ _ h => h
  rw [hkept'.world] at hw
  exact Leaves.trans hkept' hw

theorem ends_removeFile_calm (hs : s.Calm) (hname : s.world.files.get? name = some bytes) :
    Ends (removeFile name : EStateM ε (Faulted (Directory N A)) Unit) s
      (fun _ => Leaves (s.world.withoutFile name) s) (fun _ _ => False) := by
  unfold removeFile
  refine ends_observing_calm hs (value_access _) fun t ht => ?_
  refine ends_observing_calm (ht.calm hs) (a := bytes)
    (by rwa [value_observe, fileOrNotFound_eq_ok_iff, ht.world]) fun u hu => ?_
  have hkept := ht.trans hu
  refine (ends_change _ u).mono (fun _ v hv => ?_) fun _ _ h => h
  rw [hkept.world] at hv
  exact Leaves.trans hkept hv

end Leaving

end Directory

end Machine
