/-
# Motor commands

`crates/alife_core/src/motor.rs` and the target of `action.rs`: the commands of a decision,
one for each motor channel, with their contract and their canonical digest.
-/

import ALife.Cognition.Writes

namespace ALife

open Machine

/-- `MOTOR_COMMAND_SCHEMA_VERSION`. -/
def motorCommandSchemaVersion : UInt16 := 1

/-- `MAX_MOTOR_CHANNELS`. -/
def maxMotorChannels : ℕ := 6

/-- `MAX_MOTOR_PAYLOAD_VALUES`. -/
def maxMotorPayloadValues : ℕ := 32

/-- `MAX_COORDINATION_GROUPS`. -/
def maxCoordinationGroups : ℕ := 8

/-- `Vec3f`, and `EgocentricDirection`. -/
structure Vec3f (R : Type) where
  x : R
  y : R
  z : R
  deriving DecidableEq, Repr

namespace Vec3f

variable {R D : Type}

/-- `validate`. -/
def validate [FloatValue R] (v : Vec3f R) : Contract Unit :=
  reject ([v.x, v.y, v.z].all FloatValue.isFinite = false) .nonFiniteFloat

/-- `write_vec3`. -/
def writes (v : Vec3f R) : List (Write R D) := [.f32 v.x, .f32 v.y, .f32 v.z]

theorem tells_writes : Tells (writes (R := R) (D := D)) id := by
  refine tells_of_length (fun a b => rfl) fun a b h => ?_
  cases a
  cases b
  simpa [writes] using h

end Vec3f

/-- `ActionTarget`, and `TargetBinding`. -/
structure ActionTarget (R : Type) where
  entity : Option WorldEntityId
  position : Option (Vec3f R)
  deriving DecidableEq, Repr

namespace ActionTarget

variable {R D : Type}

/-- `validate`. -/
def validate [FloatValue R] (t : ActionTarget R) : Contract Unit := do
  match t.entity with
  | some id => id.validate
  | none => .ok ()
  match t.position with
  | some position => position.validate
  | none => .ok ()

/-- The write of an entity. -/
def entityWrites (id : WorldEntityId) : List (Write R D) := [.u64 id.raw]

theorem tells_entityWrites : Tells (entityWrites (R := R) (D := D)) id := by
  refine tells_of_length (fun a b => rfl) fun a b h => ?_
  cases a
  cases b
  simpa [entityWrites] using h

/-- `write_target`. -/
def writes (t : ActionTarget R) : List (Write R D) :=
  Write.optional entityWrites t.entity ++ Write.optional Vec3f.writes t.position

theorem tells_writes : Tells (writes (R := R) (D := D)) id := by
  intro a b r r' h
  simp only [writes, List.append_assoc] at h
  obtain ⟨hentity, h⟩ := (Write.tells_optional tells_entityWrites).split h
  obtain ⟨hposition, h⟩ := (Write.tells_optional Vec3f.tells_writes).split h
  refine ⟨?_, h⟩
  cases a
  cases b
  simp_all

end ActionTarget

/-- `MotorChannel`. -/
inductive MotorChannel where
  | locomotion | orientation | manipulation | vocal | posture
  | speciesSpecific (id : UInt8)
  deriving DecidableEq, Repr

namespace MotorChannel

/-- `canonical_key`. -/
def canonicalKey : MotorChannel → UInt16
  | locomotion => 0
  | orientation => 1
  | manipulation => 2
  | vocal => 3
  | posture => 4
  | speciesSpecific id => 0x100 + id.toUInt16

theorem toNat_canonicalKey (c : MotorChannel) : c.canonicalKey.toNat =
    match c with
    | locomotion => 0
    | orientation => 1
    | manipulation => 2
    | vocal => 3
    | posture => 4
    | speciesSpecific id => 256 + id.toNat := by
  cases c with
  | speciesSpecific id =>
    have hid := id.toNat_lt
    rw [canonicalKey, UInt16.toNat_add, UInt8.toNat_toUInt16]
    exact Nat.mod_eq_of_lt (by simp; omega)
  | _ => rfl

theorem canonicalKey_injective : Function.Injective canonicalKey := by
  intro a b h
  have hnat := congrArg UInt16.toNat h
  rw [toNat_canonicalKey, toNat_canonicalKey] at hnat
  cases a <;> cases b <;> dsimp only at hnat <;>
    first
    | rfl
    | exact congrArg _ (UInt8.toNat_inj.1 (by omega))
    | omega

/-- The write of a channel. -/
def writes {R D : Type} (channel : MotorChannel) : List (Write R D) := [.u16 channel.canonicalKey]

theorem tells_writes {R D : Type} : Tells (writes (R := R) (D := D)) id := by
  refine tells_of_length (fun a b => rfl) fun a b h => canonicalKey_injective ?_
  simpa [writes] using h

end MotorChannel

/-- The write of a payload value. -/
def payloadWrites {R D : Type} (value : UInt32) : List (Write R D) := [.u32 value]

theorem tells_payloadWrites {R D : Type} : Tells (payloadWrites (R := R) (D := D)) id :=
  tells_of_length (fun _ _ => rfl) fun a b h => by simpa [payloadWrites] using h

/-- `BoundedMotorPayload`. -/
structure BoundedMotorPayload where
  values : List UInt32
  deriving DecidableEq, Repr

def BoundedMotorPayload.validateContract (p : BoundedMotorPayload) : Contract Unit :=
  reject (maxMotorPayloadValues < p.values.length) .invalidActionDecision

/-- `ChannelCommand`. -/
structure ChannelCommand (R : Type) where
  channel : MotorChannel
  primitive : ActionId
  target : Option (ActionTarget R)
  direction : Vec3f R
  intensity : R
  durationTicks : DurationTicks
  standOffDistance : R
  payload : BoundedMotorPayload
  confidence : R
  coordinationGroup : UInt8
  deriving DecidableEq, Repr

namespace ChannelCommand

variable {R D : Type}

/-- `validate_contract`. -/
def validateContract [FloatValue R] (c : ChannelCommand R) : Contract Unit := do
  c.primitive.validate
  match c.target with
  | some target => target.validate
  | none => .ok ()
  c.direction.validate
  Intensity.new c.intensity
  Confidence.new c.confidence
  reject (c.durationTicks.raw = 0 ∨ FloatValue.isFinite c.standOffDistance = false
    ∨ FloatValue.isNegative c.standOffDistance = true) .invalidActionDecision
  c.payload.validateContract

/-- The writes of a command in a bundle. -/
def writes (c : ChannelCommand R) : List (Write R D) :=
  List.flatten [
    [.u16 c.channel.canonicalKey, .u32 c.primitive.raw],
    Write.optional ActionTarget.writes c.target,
    c.direction.writes,
    [.f32 c.intensity, .u32 c.durationTicks.raw, .f32 c.standOffDistance],
    Write.sequence payloadWrites c.payload.values,
    [.f32 c.confidence, .u8 c.coordinationGroup]]

theorem tells_writes : Tells (writes (R := R) (D := D)) id := by
  intro a b r r' h
  simp only [writes, List.flatten_cons, List.flatten_nil, List.append_nil, List.cons_append,
    List.nil_append, List.append_assoc, List.cons.injEq, Write.u16.injEq, Write.u32.injEq] at h
  obtain ⟨hchannel, hprimitive, h⟩ := h
  obtain ⟨htarget, h⟩ := (Write.tells_optional ActionTarget.tells_writes).split h
  obtain ⟨hdirection, h⟩ := Vec3f.tells_writes.split h
  simp only [List.cons.injEq, Write.f32.injEq, Write.u32.injEq] at h
  obtain ⟨hintensity, hduration, hstandOff, h⟩ := h
  obtain ⟨hpayload, h⟩ := (Write.tells_sequence tells_payloadWrites).split h
  simp only [List.cons.injEq, Write.f32.injEq, Write.u8.injEq] at h
  obtain ⟨hconfidence, hgroup, h⟩ := h
  refine ⟨?_, h⟩
  replace hchannel := MotorChannel.canonicalKey_injective hchannel
  rcases a with ⟨_, ⟨_⟩, _, _, _, ⟨_⟩, _, ⟨_⟩, _, _⟩
  rcases b with ⟨_, ⟨_⟩, _, _, _, ⟨_⟩, _, ⟨_⟩, _, _⟩
  simp_all

end ChannelCommand

/-- `CoordinationGroup`. -/
structure CoordinationGroup where
  groupId : UInt8
  channels : List MotorChannel
  deriving DecidableEq, Repr

namespace CoordinationGroup

variable {R D : Type}

/-- `validate_contract`: the sorted keys hold no key twice. -/
def validateContract (g : CoordinationGroup) : Contract Unit := do
  reject (g.channels = [] ∨ maxMotorChannels < g.channels.length) .invalidActionDecision
  reject (¬(g.channels.map MotorChannel.canonicalKey).Nodup) .invalidActionDecision

/-- The writes of a group in a bundle. -/
def writes (g : CoordinationGroup) : List (Write R D) :=
  [.u8 g.groupId] ++ Write.sequence MotorChannel.writes g.channels

theorem tells_writes : Tells (writes (R := R) (D := D)) id := by
  intro a b r r' h
  simp only [writes, List.cons_append, List.nil_append, List.cons.injEq, Write.u8.injEq] at h
  obtain ⟨hgroup, h⟩ := h
  obtain ⟨hchannels, h⟩ := (Write.tells_sequence MotorChannel.tells_writes).split h
  refine ⟨?_, h⟩
  cases a
  cases b
  simp_all

end CoordinationGroup

/-- `BoundedCoordinationSummary`. -/
structure BoundedCoordinationSummary where
  groups : List CoordinationGroup
  deriving DecidableEq, Repr

def BoundedCoordinationSummary.validateContract (s : BoundedCoordinationSummary) :
    Contract Unit := do
  reject (maxCoordinationGroups < s.groups.length) .invalidActionDecision
  s.groups.forM CoordinationGroup.validateContract

/-- `MotorCommandBundle`. -/
structure MotorCommandBundle (R : Type) where
  schemaVersion : UInt16
  organismId : OrganismId
  sequenceId : ExperienceSequenceId
  tick : Tick
  channels : List (ChannelCommand R)
  coordination : BoundedCoordinationSummary
  deriving DecidableEq, Repr

namespace MotorCommandBundle

variable {R D : Type}

/-- What the digest of a bundle writes. -/
def writes (b : MotorCommandBundle R) : List (Write R D) :=
  [.u16 b.schemaVersion, .u64 b.organismId.raw, .u64 b.sequenceId.raw, .u64 b.tick.raw]
    ++ Write.sequence ChannelCommand.writes b.channels
    ++ Write.sequence CoordinationGroup.writes b.coordination.groups

theorem tells_writes : Tells (writes (R := R) (D := D)) id := by
  intro a b r r' h
  simp only [writes, List.cons_append, List.nil_append, List.append_assoc, List.cons.injEq,
    Write.u16.injEq, Write.u64.injEq] at h
  obtain ⟨hschema, horganism, hsequence, htick, h⟩ := h
  obtain ⟨hchannels, h⟩ := (Write.tells_sequence ChannelCommand.tells_writes).split h
  obtain ⟨hgroups, h⟩ := (Write.tells_sequence CoordinationGroup.tells_writes).split h
  refine ⟨?_, h⟩
  rcases a with ⟨_, ⟨_⟩, ⟨_⟩, ⟨_⟩, _, ⟨_⟩⟩
  rcases b with ⟨_, ⟨_⟩, ⟨_⟩, ⟨_⟩, _, ⟨_⟩⟩
  simp_all

variable [FloatValue R]

/-- `validate_contract`: every command passes, then the sorted keys hold no key twice. -/
def validateContract (b : MotorCommandBundle R) : Contract Unit := do
  reject (b.schemaVersion ≠ motorCommandSchemaVersion ∨ maxMotorChannels < b.channels.length)
    .invalidActionDecision
  b.organismId.validate
  b.sequenceId.validate
  b.channels.forM ChannelCommand.validateContract
  reject (¬(b.channels.map fun c => c.channel.canonicalKey).Nodup) .invalidActionDecision
  b.coordination.validateContract

/-- `canonical_digest`. -/
def canonicalDigest (finish : String → List (Write R D) → D) (b : MotorCommandBundle R) :
    Contract D := do
  b.validateContract
  finish256 finish "ALIFE-V11-MOTOR-BUNDLE" b.writes

/-- **The digest of a bundle** binds every field of it. -/
theorem eq_of_canonicalDigest {finish : String → List (Write R D) → D}
    (hfinish : Function.Injective2 finish) {a b : MotorCommandBundle R} {digest : D}
    (ha : a.canonicalDigest finish = .ok digest) (hb : b.canonicalDigest finish = .ok digest) :
    a = b :=
  tells_writes.key_eq (writes_of_finish256 hfinish (contract_check_eq_ok_iff.1 ha).2
    (contract_check_eq_ok_iff.1 hb).2)

end MotorCommandBundle

end ALife
