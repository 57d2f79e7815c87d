/-
# The durable cursor of a neural session

`GpuSessionAuthority` (`crates/alife_runtime/src/session.rs`).  The reference to
the latest durable checkpoint is moved either at once (`note_durable_checkpoint`)
or in two calls: one that checks the tick and hands out a permit, and one that
installs what the permit holds.  A permit can be cloned and says nothing of the
cursor it was checked against, so the second call writes whatever the cursor is
by then (`neverDecreases_iff`).

A `Session` is an authority with the permits it has handed out; an install names
one of them, any number of times and in any order.
-/

import ALife.Checkpoint.AssetDigest
import ALife.Machine.Checks
import ALife.Machine.Runs

namespace ALife

open Machine

inductive GpuSessionConsumerKind where
  | gameplay | training | challenge
  deriving DecidableEq, Repr

inductive GpuSessionFailStopCause where
  | deviceLost | backendUnavailable | checkpointRestoreFailed
  deriving DecidableEq, Repr

structure DurableGpuCheckpointRef where
  checkpointTick : Tick
  manifestDigest : Utf8
  neuralStateDigest : Digest256
  deriving DecidableEq, Repr

/-- `DurableGpuCheckpointRef::try_new`; the manifest digest has the format of an asset digest. -/
def DurableGpuCheckpointRef.tryNew (checkpointTick : Tick) (manifestDigest : Utf8)
    (neuralStateDigest : Digest256) : Contract DurableGpuCheckpointRef := do
  let validManifestDigest := (PortableAssetDigest.mk manifestDigest).formatIsValid
  failIf (validManifestDigest = false ∨ neuralStateDigest = .zero) .invalidId
  .ok ⟨checkpointTick, manifestDigest, neuralStateDigest⟩

/-- Only `prevalidate_durable_checkpoint` makes one. -/
structure DurableGpuCheckpointMonotonicityPermit where
  checkpoint : DurableGpuCheckpointRef
  deriving DecidableEq, Repr

inductive GpuSessionAuthorityState where
  | ready
  | failedStop (cause : GpuSessionFailStopCause)
  deriving DecidableEq, Repr

structure GpuSessionAuthority where
  consumer : GpuSessionConsumerKind
  state : GpuSessionAuthorityState
  latestDurableCheckpoint : Option DurableGpuCheckpointRef
  deriving DecidableEq, Repr

namespace GpuSessionAuthority

def new (consumer : GpuSessionConsumerKind) : GpuSessionAuthority := ⟨consumer, .ready, none⟩

/-- The tick of the latest durable checkpoint, below every tick when there is none. -/
def latestTick (a : GpuSessionAuthority) : WithBot ℕ :=
  a.latestDurableCheckpoint.map fun checkpoint => checkpoint.checkpointTick.raw.toNat

def prevalidateDurableCheckpoint (a : GpuSessionAuthority) (checkpoint : DurableGpuCheckpointRef) :
    Contract DurableGpuCheckpointMonotonicityPermit := do
  failIf (∃ current ∈ a.latestDurableCheckpoint,
    checkpoint.checkpointTick.raw < current.checkpointTick.raw) .brainActivitySequenceMismatch
  .ok ⟨checkpoint⟩

def installPrevalidatedDurableCheckpoint (a : GpuSessionAuthority)
    (permit : DurableGpuCheckpointMonotonicityPermit) : GpuSessionAuthority :=
  { a with latestDurableCheckpoint := some permit.checkpoint }

/-- `note_durable_checkpoint`: a failed check leaves the authority alone. -/
def noteDurableCheckpoint (a : GpuSessionAuthority) (checkpoint : DurableGpuCheckpointRef) :
    Contract GpuSessionAuthority := do
  let permit ← a.prevalidateDurableCheckpoint checkpoint
  .ok (a.installPrevalidatedDurableCheckpoint permit)

def failStop (a : GpuSessionAuthority) (cause : GpuSessionFailStopCause) : GpuSessionAuthority :=
  if a.state = .ready then { a with state := .failedStop cause } else a

/-- A permit is handed out for a checkpoint that is not older than the latest one. -/
theorem prevalidateDurableCheckpoint_eq_ok_iff {a : GpuSessionAuthority}
    {checkpoint : DurableGpuCheckpointRef} {permit : DurableGpuCheckpointMonotonicityPermit} :
    a.prevalidateDurableCheckpoint checkpoint = .ok permit ↔
      a.latestTick ≤ checkpoint.checkpointTick.raw.toNat ∧ permit = ⟨checkpoint⟩ := by
  unfold prevalidateDurableCheckpoint latestTick
  rw [except_seq_eq_ok_iff, failIf_eq_ok_iff, Except.ok.injEq, eq_comm (a := permit)]
  refine and_congr_left fun _ => ?_
  cases a.latestDurableCheckpoint with
  | none => exact iff_of_true (by simp) bot_le
  | some current =>
    simp only [Option.mem_def, Option.some.injEq, exists_eq_left', Option.map_some]
    rw [UInt64.not_lt, UInt64.le_iff_toNat_le]
    exact WithBot.coe_le_coe.symm

@[simp] theorem latestTick_install (a : GpuSessionAuthority)
    (permit : DurableGpuCheckpointMonotonicityPermit) :
    (a.installPrevalidatedDurableCheckpoint permit).latestTick
      = (permit.checkpoint.checkpointTick.raw.toNat : ℕ) := rfl

@[simp] theorem latestTick_failStop (a : GpuSessionAuthority) (cause : GpuSessionFailStopCause) :
    (a.failStop cause).latestTick = a.latestTick := by
  unfold failStop
  split_ifs <;> rfl

theorem noteDurableCheckpoint_eq_ok_iff {a a' : GpuSessionAuthority}
    {checkpoint : DurableGpuCheckpointRef} :
    a.noteDurableCheckpoint checkpoint = .ok a' ↔
      a.latestTick ≤ checkpoint.checkpointTick.raw.toNat ∧
        a' = a.installPrevalidatedDurableCheckpoint ⟨checkpoint⟩ := by
  simp only [noteDurableCheckpoint, except_bind_eq_ok_iff,
    prevalidateDurableCheckpoint_eq_ok_iff, Except.ok.injEq]
  exact ⟨fun ⟨_, ⟨hle, rfl⟩, h⟩ => ⟨hle, h.symm⟩, fun ⟨hle, h⟩ => ⟨_, ⟨hle, rfl⟩, h.symm⟩⟩

/-- `note_durable_checkpoint` never moves the cursor back. -/
theorem latestTick_le_of_note {a a' : GpuSessionAuthority} {checkpoint : DurableGpuCheckpointRef}
    (h : a.noteDurableCheckpoint checkpoint = .ok a') : a.latestTick ≤ a'.latestTick := by
  obtain ⟨hle, rfl⟩ := noteDurableCheckpoint_eq_ok_iff.1 h
  exact hle

end GpuSessionAuthority

/-- An authority with the permits it has handed out. -/
structure Session where
  authority : GpuSessionAuthority
  permits : List DurableGpuCheckpointMonotonicityPermit
  deriving DecidableEq, Repr

/-- A call on the authority; an install names a permit by its place. -/
inductive SessionCall where
  | prevalidate (checkpoint : DurableGpuCheckpointRef)
  | install (permit : ℕ)
  | note (checkpoint : DurableGpuCheckpointRef)
  | failStop (cause : GpuSessionFailStopCause)
  deriving DecidableEq, Repr

namespace Session

/-- A permit is handed out, or the call is refused. -/
def prevalidate (s : Session) (checkpoint : DurableGpuCheckpointRef) : Session :=
  match s.authority.prevalidateDurableCheckpoint checkpoint with
  | .ok permit => { s with permits := s.permits ++ [permit] }
  | .error _ => s

/-- There is no permit to install that was not handed out. -/
def install (s : Session) (i : ℕ) : Session :=
  match s.permits[i]? with
  | some permit =>
    { s with authority := s.authority.installPrevalidatedDurableCheckpoint permit }
  | none => s

def note (s : Session) (checkpoint : DurableGpuCheckpointRef) : Session :=
  match s.authority.noteDurableCheckpoint checkpoint with
  | .ok authority => { s with authority := authority }
  | .error _ => s

def step (s : Session) : SessionCall → Session
  | .prevalidate checkpoint => s.prevalidate checkpoint
  | .install i => s.install i
  | .note checkpoint => s.note checkpoint
  | .failStop cause => { s with authority := s.authority.failStop cause }

/-- The permit of an install is not older than the cursor it overwrites. -/
def Fresh (s : Session) : SessionCall → Prop
  | .install i => ∀ permit ∈ s.permits[i]?,
      s.authority.latestTick ≤ permit.checkpoint.checkpointTick.raw.toNat
  | _ => True

/-- **One call** keeps the cursor or moves it on, exactly when the permit it installs, if
any, is fresh. -/
theorem latestTick_le_step_iff (s : Session) (call : SessionCall) :
    s.authority.latestTick ≤ (s.step call).authority.latestTick ↔ Fresh s call := by
  cases call with
  | prevalidate checkpoint =>
    refine iff_of_true (le_of_eq ?_) trivial
    change _ = (s.prevalidate checkpoint).authority.latestTick
    unfold prevalidate
    cases s.authority.prevalidateDurableCheckpoint checkpoint <;> rfl
  | install i =>
    change _ ≤ (s.install i).authority.latestTick ↔ ∀ permit ∈ s.permits[i]?, _
    unfold install
    cases hi : s.permits[i]? with
    | none => simp
    | some permit => simp
  | note checkpoint =>
    refine iff_of_true ?_ trivial
    change _ ≤ (s.note checkpoint).authority.latestTick
    unfold note
    cases h : s.authority.noteDurableCheckpoint checkpoint with
    | error e => exact le_refl s.authority.latestTick
    | ok authority => exact GpuSessionAuthority.latestTick_le_of_note h
  | failStop cause => exact iff_of_true (by simp [step]) trivial

/-- The cursor never moves back in the run: no state of it has an earlier tick than a
state before it. -/
def NeverDecreases (s : Session) (calls : List SessionCall) : Prop :=
  ∀ pre mid post, calls = pre ++ mid ++ post →
    (pre.foldl step s).authority.latestTick ≤ ((pre ++ mid).foldl step s).authority.latestTick

theorem neverDecreases_of_fresh {s : Session} {calls : List SessionCall}
    (h : Along step Fresh s calls) : NeverDecreases s calls := by
  rw [along_iff_forall_split] at h
  intro pre mid post hcalls
  induction mid using List.reverseRecOn generalizing post with
  | nil => rw [List.append_nil]
  | append_singleton mid call ih =>
    have hfresh := h (pre ++ mid) call post (by rw [hcalls]; simp)
    refine (ih (call :: post) (by rw [hcalls]; simp)).trans ?_
    rw [← List.append_assoc, List.foldl_concat]
    exact (latestTick_le_step_iff _ call).2 hfresh

/-- **When the durable cursor is monotone.**  In a run of any calls on any session the tick
of the latest durable checkpoint never decreases exactly when each permit is installed
while the cursor is not beyond it. -/
theorem neverDecreases_iff (s : Session) (calls : List SessionCall) :
    NeverDecreases s calls ↔ Along step Fresh s calls := by
  refine ⟨fun h => ?_, neverDecreases_of_fresh⟩
  rw [along_iff_forall_split]
  intro pre call post hcalls
  rw [← latestTick_le_step_iff]
  have hle := h pre [call] post (by rw [hcalls]; simp)
  rwa [List.foldl_append] at hle

/-! ### The protocol of a permit -/

/-- The call installs nothing beyond the tick. -/
def NothingNewer (tick : Tick) (s : Session) : SessionCall → Prop
  | .install i => ∀ permit ∈ s.permits[i]?,
      permit.checkpoint.checkpointTick.raw.toNat ≤ tick.raw.toNat
  | .note checkpoint => checkpoint.checkpointTick.raw.toNat ≤ tick.raw.toNat
  | _ => True

/-- The permit was handed out and the cursor is not beyond it. -/
def Held (permit : DurableGpuCheckpointMonotonicityPermit) (i : ℕ) (s : Session) : Prop :=
  s.permits[i]? = some permit ∧
    s.authority.latestTick ≤ permit.checkpoint.checkpointTick.raw.toNat

theorem held_prevalidate {s : Session} {checkpoint : DurableGpuCheckpointRef}
    {permit : DurableGpuCheckpointMonotonicityPermit}
    (h : s.authority.prevalidateDurableCheckpoint checkpoint = .ok permit) :
    Held permit s.permits.length (s.prevalidate checkpoint) := by
  obtain ⟨hle, rfl⟩ := GpuSessionAuthority.prevalidateDurableCheckpoint_eq_ok_iff.1 h
  unfold prevalidate
  rw [h]
  exact ⟨List.getElem?_concat_length, hle⟩

/-- **One call** that installs nothing newer leaves a permit fresh. -/
theorem held_step {permit : DurableGpuCheckpointMonotonicityPermit} {i : ℕ} {s : Session}
    {call : SessionCall} (hs : Held permit i s)
    (hcall : NothingNewer permit.checkpoint.checkpointTick s call) :
    Held permit i (s.step call) := by
  obtain ⟨hpermit, hle⟩ := hs
  cases call with
  | prevalidate checkpoint =>
    change Held permit i (s.prevalidate checkpoint)
    unfold prevalidate
    cases s.authority.prevalidateDurableCheckpoint checkpoint with
    | error e => exact ⟨hpermit, hle⟩
    | ok other =>
      have hi := (List.getElem?_eq_some_iff.1 hpermit).1
      exact ⟨(List.getElem?_append_left hi).trans hpermit, hle⟩
  | install j =>
    change Held permit i (s.install j)
    unfold install
    cases hj : s.permits[j]? with
    | none => exact ⟨hpermit, hle⟩
    | some other => exact ⟨hpermit, WithBot.coe_le_coe.2 (hcall other hj)⟩
  | note checkpoint =>
    change Held permit i (s.note checkpoint)
    unfold note
    cases h : s.authority.noteDurableCheckpoint checkpoint with
    | error e => exact ⟨hpermit, hle⟩
    | ok authority =>
      refine ⟨hpermit, ?_⟩
      obtain ⟨-, rfl⟩ := GpuSessionAuthority.noteDurableCheckpoint_eq_ok_iff.1 h
      exact WithBot.coe_le_coe.2 hcall
  | failStop cause => exact ⟨hpermit, hle.trans' (by simp [step])⟩

/-- Each install is of a permit that the run handed out, with nothing newer installed in
between. -/
def InProtocol (s : Session) (calls : List SessionCall) : Prop :=
  ∀ pre i post, calls = pre ++ .install i :: post →
    ∃ before checkpoint between permit, pre = before ++ .prevalidate checkpoint :: between ∧
      (before.foldl step s).permits.length = i ∧
      (before.foldl step s).authority.prevalidateDurableCheckpoint checkpoint = .ok permit ∧
      Along step (NothingNewer checkpoint.checkpointTick)
        ((before.foldl step s).prevalidate checkpoint) between

/-- **A run in the protocol** never moves the cursor back. -/
theorem neverDecreases_of_inProtocol {s : Session} {calls : List SessionCall}
    (h : InProtocol s calls) : NeverDecreases s calls := by
  refine neverDecreases_of_fresh (along_iff_forall_split.2 fun pre call post hcalls => ?_)
  cases call with
  | install i =>
    obtain ⟨before, checkpoint, between, permit, rfl, rfl, hpermit, hbetween⟩ := h pre i post hcalls
    have hfirst := held_prevalidate hpermit
    obtain ⟨-, rfl⟩ := GpuSessionAuthority.prevalidateDurableCheckpoint_eq_ok_iff.1 hpermit
    obtain ⟨hheld, hle⟩ := foldl_of_invariant (fun _ _ => held_step) hfirst hbetween
    rw [List.foldl_append, List.foldl_cons]
    intro other hother
    obtain rfl := Option.some.inj (hheld.symm.trans hother)
    exact hle
  | prevalidate _ => trivial
  | note _ => trivial
  | failStop _ => trivial

/-! ### Two permits in the wrong order -/

/-- A checkpoint of a given tick. -/
def checkpointAt (tick : UInt64) : DurableGpuCheckpointRef :=
  ⟨⟨tick⟩, (PortableAssetDigest.forBytes []).text, ⟨1, 2, 3, 4⟩⟩

theorem tryNew_checkpointAt (tick : UInt64) :
    DurableGpuCheckpointRef.tryNew ⟨tick⟩ (PortableAssetDigest.forBytes []).text ⟨1, 2, 3, 4⟩
      = .ok (checkpointAt tick) := by
  unfold DurableGpuCheckpointRef.tryNew
  rw [except_seq_eq_ok_iff, failIf_eq_ok_iff, PortableAssetDigest.formatIsValid_forBytes]
  exact ⟨by decide, rfl⟩

/-- The permit for tick 5 is installed after tick 9 was noted; both are valid references. -/
theorem stale_permit_moves_cursor_back :
    (∀ tick, DurableGpuCheckpointRef.tryNew ⟨tick⟩ (PortableAssetDigest.forBytes []).text
      ⟨1, 2, 3, 4⟩ = .ok (checkpointAt tick)) ∧
    ¬NeverDecreases ⟨.new .gameplay, []⟩
      [.prevalidate (checkpointAt 5), .note (checkpointAt 9), .install 0] := by
  refine ⟨tryNew_checkpointAt, fun h => ?_⟩
  have hle := h [.prevalidate (checkpointAt 5), .note (checkpointAt 9)] [.install 0] [] rfl
  exact absurd hle (by decide)

end Session

end ALife
