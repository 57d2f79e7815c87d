/-
# Semantic states and joint motor conditions

`crates/alife_core/src/predictive.rs`: what a prediction is made of, a semantic state and the
factors of every selected motor channel, with their contracts and their canonical digests.
-/

import ALife.Cognition.Motor

namespace ALife

open Machine

/-- `SEMANTIC_STATE_VECTOR_SCHEMA_VERSION`. -/
def semanticStateVectorSchemaVersion : UInt16 := 1

/-- `SEMANTIC_STATE_VECTOR_ABI_V1`. -/
def semanticStateVectorAbiV1 : UInt16 := 1

/-- `JOINT_MOTOR_CONDITION_SCHEMA_VERSION`. -/
def jointMotorConditionSchemaVersion : UInt16 := 2

/-- `JOINT_MOTOR_CONDITION_ABI_V2`. -/
def jointMotorConditionAbiV2 : UInt16 := 2

/-- `MAX_PREDICTOR_CATEGORIES`. -/
def maxPredictorCategories : ℕ := 4096

/-- `MAX_SEMANTIC_STATE_VALUES`, and `MAX_SUCCESSOR_FEATURES`. -/
def maxSemanticStateValues : ℕ := 32

/-- `SemanticStateVector`. -/
structure SemanticStateVector (R : Type) where
  schemaVersion : UInt16
  abiVersion : UInt16
  values : List R
  deriving DecidableEq, Repr

namespace SemanticStateVector

variable {R D : Type}

/-- The write of a state value. -/
def valueWrites (value : R) : List (Write R D) := [.f32 value]

theorem tells_valueWrites : Tells (valueWrites (R := R) (D := D)) id :=
  tells_of_length (fun _ _ => rfl) fun a b h => by simpa [valueWrites] using h

/-- What the digest of a state writes. -/
def writes (s : SemanticStateVector R) : List (Write R D) :=
  [.u16 s.schemaVersion, .u16 s.abiVersion] ++ Write.sequence valueWrites s.values

theorem tells_writes : Tells (writes (R := R) (D := D)) id := by
  intro a b r r' h
  simp only [writes, List.cons_append, List.nil_append, List.cons.injEq, Write.u16.injEq] at h
  obtain ⟨hschema, habi, h⟩ := h
  obtain ⟨hvalues, h⟩ := (Write.tells_sequence tells_valueWrites).split h
  refine ⟨?_, h⟩
  cases a
  cases b
  simp_all

variable [FloatValue R]

/-- `validate_contract`. -/
def validateContract (s : SemanticStateVector R) : Contract Unit := do
  reject (s.schemaVersion ≠ semanticStateVectorSchemaVersion
    ∨ s.abiVersion ≠ semanticStateVectorAbiV1
    ∨ s.values.length < 2
    ∨ maxSemanticStateValues < s.values.length) .invalidDecisionEvidence
  s.values.forM NormalizedScalar.new

/-- `canonical_digest`. -/
def canonicalDigest (finish : String → List (Write R D) → D) (s : SemanticStateVector R) :
    Contract D := do
  s.validateContract
  finish256 finish "ALIFE-V11-SEMANTIC-STATE-V1" s.writes

/-- **The digest of a semantic state** binds every field of it. -/
theorem eq_of_canonicalDigest {finish : String → List (Write R D) → D}
    (hfinish : Function.Injective2 finish) {a b : SemanticStateVector R} {digest : D}
    (ha : a.canonicalDigest finish = .ok digest) (hb : b.canonicalDigest finish = .ok digest) :
    a = b :=
  tells_writes.key_eq (writes_of_finish256 hfinish (contract_check_eq_ok_iff.1 ha).2
    (contract_check_eq_ok_iff.1 hb).2)

end SemanticStateVector

/-- `MotorChannelFactor`. -/
structure MotorChannelFactor (R : Type) where
  channel : MotorChannel
  primitive : ActionId
  intensity : R
  durationTicks : UInt32
  direction : Vec3f R
  standOffDistance : R
  confidence : R
  target : Option (ActionTarget R)
  payload : List UInt32
  coordinationGroup : UInt8
  deriving DecidableEq, Repr

namespace MotorChannelFactor

variable {R D : Type}

/-- `validate_contract`. -/
def validateContract [FloatValue R] (f : MotorChannelFactor R) : Contract Unit := do
  f.primitive.validate
  NormalizedScalar.new f.intensity
  f.direction.validate
  reject (f.durationTicks = 0
    ∨ FloatValue.isFinite f.standOffDistance = false
    ∨ FloatValue.isNegative f.standOffDistance = true
    ∨ FloatValue.inUnit f.confidence = false
    ∨ maxMotorPayloadValues < f.payload.length) .invalidActionDecision
  match f.target with
  | some target => target.validate
  | none => .ok ()

/-- The writes of a factor in a condition. -/
def writes (f : MotorChannelFactor R) : List (Write R D) :=
  List.flatten [
    [.u16 f.channel.canonicalKey, .u32 f.primitive.raw, .f32 f.intensity, .u32 f.durationTicks],
    f.direction.writes,
    [.f32 f.standOffDistance, .f32 f.confidence],
    Write.optional ActionTarget.writes f.target,
    Write.sequence payloadWrites f.payload,
    [.u8 f.coordinationGroup]]

theorem tells_writes : Tells (writes (R := R) (D := D)) id := by
  intro a b r r' h
  simp only [writes, List.flatten_cons, List.flatten_nil, List.append_nil, List.cons_append,
    List.nil_append, List.append_assoc, List.cons.injEq, Write.u16.injEq, Write.u32.injEq,
    Write.f32.injEq] at h
  obtain ⟨hchannel, hprimitive, hintensity, hduration, h⟩ := h
  obtain ⟨hdirection, h⟩ := Vec3f.tells_writes.split h
  simp only [List.cons.injEq, Write.f32.injEq] at h
  obtain ⟨hstandOff, hconfidence, h⟩ := h
  obtain ⟨htarget, h⟩ := (Write.tells_optional ActionTarget.tells_writes).split h
  obtain ⟨hpayload, h⟩ := (Write.tells_sequence tells_payloadWrites).split h
  simp only [List.cons.injEq, Write.u8.injEq] at h
  obtain ⟨hgroup, h⟩ := h
  refine ⟨?_, h⟩
  replace hchannel := MotorChannel.canonicalKey_injective hchannel
  rcases a with ⟨_, ⟨_⟩, _, _, _, _, _, _, _, _⟩
  rcases b with ⟨_, ⟨_⟩, _, _, _, _, _, _, _, _⟩
  simp_all

end MotorChannelFactor

/-- `JointMotorCondition`. -/
structure JointMotorCondition (R : Type) where
  schemaVersion : UInt16
  abiVersion : UInt16
  channels : List (MotorChannelFactor R)
  deriving DecidableEq, Repr

namespace JointMotorCondition

variable {R D : Type}

/-- What the digest of a condition writes. -/
def writes (c : JointMotorCondition R) : List (Write R D) :=
  [.u16 c.schemaVersion, .u16 c.abiVersion] ++ Write.sequence MotorChannelFactor.writes c.channels

theorem tells_writes : Tells (writes (R := R) (D := D)) id := by
  intro a b r r' h
  simp only [writes, List.cons_append, List.nil_append, List.cons.injEq, Write.u16.injEq] at h
  obtain ⟨hschema, habi, h⟩ := h
  obtain ⟨hchannels, h⟩ := (Write.tells_sequence MotorChannelFactor.tells_writes).split h
  refine ⟨?_, h⟩
  cases a
  cases b
  simp_all

variable [FloatValue R]

/-- `validate_contract`: the keys of neighbours ascend. -/
def validateContract (c : JointMotorCondition R) : Contract Unit := do
  reject (c.schemaVersion ≠ jointMotorConditionSchemaVersion
    ∨ c.abiVersion ≠ jointMotorConditionAbiV2
    ∨ c.channels = []
    ∨ maxMotorChannels < c.channels.length
    ∨ ¬(c.channels.map fun f => f.channel.canonicalKey).IsChain (· < ·)) .invalidActionDecision
  c.channels.forM MotorChannelFactor.validateContract

/-- `canonical_digest`. -/
def canonicalDigest (finish : String → List (Write R D) → D) (c : JointMotorCondition R) :
    Contract D := do
  c.validateContract
  finish256 finish "ALIFE-V11-JOINT-MOTOR-CONDITION-V2" c.writes

/-- **The digest of a motor condition** binds every field of it. -/
theorem eq_of_canonicalDigest {finish : String → List (Write R D) → D}
    (hfinish : Function.Injective2 finish) {a b : JointMotorCondition R} {digest : D}
    (ha : a.canonicalDigest finish = .ok digest) (hb : b.canonicalDigest finish = .ok digest) :
    a = b :=
  tells_writes.key_eq (writes_of_finish256 hfinish (contract_check_eq_ok_iff.1 ha).2
    (contract_check_eq_ok_iff.1 hb).2)

end JointMotorCondition

/-- `PredictionCategoryCoverage`. -/
structure PredictionCategoryCoverage where
  storedCategoricalKeys : UInt16
  modelledCategories : UInt16
  unmodelledCategories : UInt16
  deriving DecidableEq, Repr

namespace PredictionCategoryCoverage

variable {R D : Type}

/-- `validate_contract`. -/
def validateContract (c : PredictionCategoryCoverage) : Contract Unit :=
  reject (maxPredictorCategories < c.storedCategoricalKeys.toNat
    ∨ c.storedCategoricalKeys < c.modelledCategories
    ∨ maxMotorChannels * (maxMotorPayloadValues + 3)
      < c.modelledCategories.toNat + c.unmodelledCategories.toNat) .invalidDecisionEvidence

/-- The writes of a coverage in a context frame. -/
def writes (c : PredictionCategoryCoverage) : List (Write R D) :=
  [.u16 c.storedCategoricalKeys, .u16 c.modelledCategories, .u16 c.unmodelledCategories]

theorem tells_writes : Tells (writes (R := R) (D := D)) id := by
  refine tells_of_length (fun a b => rfl) fun a b h => ?_
  cases a
  cases b
  simpa [writes] using h

end PredictionCategoryCoverage

/-- `SuccessorPrediction`. -/
structure SuccessorPrediction (R D : Type) where
  sourceDigest : D
  sourceState : SemanticStateVector R
  motorCondition : JointMotorCondition R
  semanticStateAbi : UInt16
  predictedSuccessor : List R
  predictorAbiVersion : UInt16
  categoryCoverage : PredictionCategoryCoverage
  deriving DecidableEq, Repr

end ALife
