/-
# The selection of a joint action

`crates/alife_core/src/factorized_selection.rs`: the candidates that were chosen
for the motor channels become the commands of one bundle, and the receipt of the
selection keeps the digest of that bundle, whatever its sequence id is.

What the code asks of a candidate is `ActionCandidate` of `perception.rs`, and
what it makes of one is `ActionCommand` of `action.rs`, without the references
of a lesson, a payload and a trace, which a candidate does not have.  How the
confidence of a speech is quantized is any function.
-/

import ALife.Cognition.GroundingLedger
import ALife.Cognition.Motor
import ALife.Core.Perception
import ALife.Machine.SortedNames
import ALife.Training.ReplaySpeech

namespace ALife

open Machine

/-- `is_compatible_with`. -/
def CandidateActionFamily.isCompatibleWith : CandidateActionFamily → ActionKind → Bool
  | .idle, .idle => true
  | .rest, .rest => true
  | .inspect, .inspect | .inspect, .look => true
  | .approach, .move | .avoid, .move => true
  | .contact, .interact | .ingest, .interact => true
  | .other, .interact | .other, .hold | .other, .gesture | .other, .vocalize | .other, .write =>
    true
  | _, _ => false

/-- `CANDIDATE_FEATURE_COUNT`. -/
def candidateFeatureCount : ℕ := 24

/-- `ActionCandidate`. -/
structure ActionCandidate where
  candidateIndex : UInt16
  actionId : ActionId
  kind : ActionKind
  family : CandidateActionFamily
  target : ActionTarget F32Value
  features : Fin candidateFeatureCount → F32Value
  sensorConfidence : F32Value
  requiredEffort : F32Value
  minDuration : DurationTicks
  maxDuration : DurationTicks

/-- `ActionCommand`. -/
structure ActionCommand where
  abiVersion : UInt16
  organismId : OrganismId
  actionId : ActionId
  kind : ActionKind
  targetEntity : Option WorldEntityId
  targetPosition : Option (Vec3f F32Value)
  intensity : F32Value
  durationTicks : DurationTicks
  confidence : F32Value
  sourceMask : UInt32

namespace ActionCommand

/-- `ActionCommand::validate_contract`. -/
def validateContract (c : ActionCommand) : Contract Unit := do
  requireCurrentVersion .actionAbi c.abiVersion
  c.organismId.validate
  c.actionId.validate
  (⟨c.targetEntity, c.targetPosition⟩ : ActionTarget F32Value).validate
  Intensity.new c.intensity
  reject (c.durationTicks.raw = 0) .scalarOutOfRange
  Confidence.new c.confidence

end ActionCommand

/-- `map_err(|_| InvalidActionCandidate)`. -/
def asCandidateError (x : Contract Unit) : Contract Unit :=
  match x with
  | .ok u => .ok u
  | .error _ => .error .invalidActionCandidate

namespace ActionCandidate

/-- `ActionCandidate::validate_contract`. -/
def validateContract (c : ActionCandidate) : Contract Unit := do
  asCandidateError c.actionId.validate
  asCandidateError c.target.validate
  reject (∃ lane, (FloatValue.isFinite (c.features lane)
    && FloatValue.inSignedUnit (c.features lane)) = false) .invalidActionCandidate
  asCandidateError (Confidence.new c.sensorConfidence)
  asCandidateError (NormalizedScalar.new c.requiredEffort)
  reject (c.minDuration.raw = 0 ∨ c.maxDuration.raw = 0 ∨ c.maxDuration.raw < c.minDuration.raw
    ∨ c.family.isCompatibleWith c.kind = false) .invalidActionCandidate

/-- `to_command`, by `ActionCommand::structured`. -/
def toCommand (c : ActionCandidate) (organismId : OrganismId) (neuralConfidence : F32Value) :
    Contract ActionCommand := do
  c.validateContract
  Intensity.new F32Value.one
  let command : ActionCommand :=
    { abiVersion := SchemaKind.current .actionAbi
      organismId
      actionId := c.actionId
      kind := c.kind
      targetEntity := c.target.entity
      targetPosition := c.target.position
      intensity := F32Value.one
      durationTicks := c.minDuration
      confidence := neuralConfidence
      sourceMask := 0 }
  command.validateContract
  pure command

end ActionCandidate

/-- `ChannelCommand::new`, with an empty payload. -/
def ChannelCommand.new (channel : MotorChannel) (primitive : ActionId)
    (target : Option (ActionTarget F32Value)) (direction : Vec3f F32Value) (intensity : F32Value)
    (durationTicks : DurationTicks) (standOffDistance confidence : F32Value)
    (coordinationGroup : UInt8) : Contract (ChannelCommand F32Value) := do
  let command : ChannelCommand F32Value :=
    { channel, primitive, target, direction, intensity, durationTicks, standOffDistance
      payload := ⟨[]⟩
      confidence, coordinationGroup }
  command.validateContract
  pure command

/-- `channel_command_for_action`. -/
def channelCommandForAction (channel : MotorChannel) (command : ActionCommand) :
    Contract (ChannelCommand F32Value) :=
  let target : Option (ActionTarget F32Value) :=
    if command.targetEntity.isSome || command.targetPosition.isSome then
      some ⟨command.targetEntity, command.targetPosition⟩
    else none
  ChannelCommand.new channel command.actionId target
    (command.targetPosition.getD ⟨F32Value.zero, F32Value.zero, F32Value.zero⟩) command.intensity
    command.durationTicks F32Value.zero command.confidence 0

/-- `factorized_motor_channel_order`. -/
def factorizedMotorChannelOrder : MotorChannel → UInt16
  | .locomotion => 0
  | .orientation => 1
  | .manipulation => 2
  | .vocal => 3
  | .posture => 4
  | .speciesSpecific id => 0x100 + id.toUInt16

/-- `factorized_motor_channel_for_action`. -/
def factorizedMotorChannelForAction : ActionKind → Option MotorChannel
  | .move => some .locomotion
  | .look => some .orientation
  | .interact | .write => some .manipulation
  | .vocalize => some .vocal
  | .hold | .rest | .inspect => some .posture
  | .idle | .gesture => none

/-- The channel that the arbiter gives to the selected action. -/
def selectedChannel : ActionKind → MotorChannel
  | .idle | .hold | .rest | .inspect | .gesture => .posture
  | .move => .locomotion
  | .look => .orientation
  | .interact | .write => .manipulation
  | .vocalize => .vocal

/-- The slot that a head channel reads. -/
def headSlot : MotorChannel → Fin 6
  | .locomotion => 0
  | .orientation => 1
  | .manipulation => 2
  | .vocal => 3
  | .posture => 4
  | .speciesSpecific _ => 5

/-- `SpeechMotorPayload`. -/
structure SpeechMotorPayload where
  speechAct : CpuReplay.SpeechActKind
  tokens : List LanguageTokenId
  confidence : F32Value

/-- `MAX_GENERATED_TOKENS`. -/
def maxGeneratedTokens : ℕ := 6

/-- `SpeechMotorPayload::validate_contract`. -/
def SpeechMotorPayload.validateContract (p : SpeechMotorPayload) : Contract Unit := do
  reject (p.tokens = [] ∨ maxGeneratedTokens < p.tokens.length ∨ ∃ token ∈ p.tokens, token.raw = 0)
    .invalidDecisionEvidence
  Confidence.new p.confidence

/-- `VOCAL_CHANNEL_PAYLOAD_MAGIC_V1`. -/
def vocalChannelPayloadMagicV1 : UInt32 := 0x53485031

/-- The selected command takes the place of the first one on its channel, or the end. -/
def placeSelected (selected : ChannelCommand F32Value) :
    List (ChannelCommand F32Value) → List (ChannelCommand F32Value)
  | [] => [selected]
  | command :: rest =>
    if command.channel = selected.channel then selected :: rest
    else command :: placeSelected selected rest

/-- The first vocal command gets the payload; without one there is none to get it. -/
def setVocalPayload (payload : BoundedMotorPayload) :
    List (ChannelCommand F32Value) → List (ChannelCommand F32Value)
  | [] => []
  | command :: rest =>
    if command.channel = .vocal then { command with payload } :: rest
    else command :: setVocalPayload payload rest

/-- The values of a speech payload on its channel. -/
def speechValues (quantize : F32Value → UInt32) (payload : SpeechMotorPayload) (prompted : Bool) :
    List UInt32 :=
  [vocalChannelPayloadMagicV1, payload.speechAct.raw.toUInt32, if prompted then 1 else 0,
    quantize payload.confidence] ++ payload.tokens.map fun token => token.raw.toUInt32

/-- The speech of a bundle. -/
def addSpeech (quantize : F32Value → UInt32) (commands : List (ChannelCommand F32Value))
    (speech : Option SpeechMotorPayload) (prompted : Bool) :
    Contract (List (ChannelCommand F32Value)) :=
  match speech with
  | none => pure commands
  | some payload => do
    reject (∀ command ∈ commands, command.channel ≠ .vocal) .invalidDecisionEvidence
    let payload : BoundedMotorPayload := ⟨speechValues quantize payload prompted⟩
    payload.validateContract
    pure (setVocalPayload payload commands)

/-- `MotorCommandBundle::new`, then `with_coordination` where there is more than one command. -/
def coordinatedBundle (organismId : OrganismId) (sequenceId : ExperienceSequenceId) (tick : Tick)
    (commands : List (ChannelCommand F32Value)) : Contract (MotorCommandBundle F32Value) := do
  let bundle : MotorCommandBundle F32Value :=
    { schemaVersion := motorCommandSchemaVersion
      organismId, sequenceId, tick
      channels := commands
      coordination := ⟨[]⟩ }
  bundle.validateContract
  if 1 < commands.length then
    let bundle := { bundle with coordination := ⟨[⟨0, commands.map ChannelCommand.channel⟩]⟩ }
    bundle.validateContract
    pure bundle
  else pure bundle

/-- `arbitrate_gpu_selected_command_into_factorized_bundle`. -/
def arbitrateGpuSelectedCommandIntoFactorizedBundle (quantize : F32Value → UInt32)
    (organismId : OrganismId) (sequenceId : ExperienceSequenceId) (tick : Tick)
    (channelCommands : List (ChannelCommand F32Value)) (selectedAction : ActionCommand)
    (speech : Option SpeechMotorPayload) (prompted : Bool) :
    Contract (MotorCommandBundle F32Value) := do
  let selected ← channelCommandForAction (selectedChannel selectedAction.kind) selectedAction
  let commands ← addSpeech quantize (placeSelected selected channelCommands) speech prompted
  let commands := sortByKey (fun command => (factorizedMotorChannelOrder command.channel).toNat)
    commands
  coordinatedBundle organismId sequenceId tick commands

/-- The command of a head channel, none where its slot is empty or holds the selected candidate. -/
def headCommand (organismId : OrganismId) (candidates : List ActionCandidate)
    (candidateSlots : Fin 6 → UInt16) (selectedCandidateIndex : UInt16) (head : MotorChannel) :
    Contract (Option (ChannelCommand F32Value)) :=
  let encoded := candidateSlots (headSlot head)
  if encoded = 0 ∨ encoded - 1 = selectedCandidateIndex then pure none
  else
    match candidates[(encoded - 1).toNat]? with
    | none => .error .invalidDecisionEvidence
    | some candidate => do
      let command ← candidate.toCommand organismId candidate.sensorConfidence
      reject (factorizedMotorChannelForAction command.kind ≠ some head) .invalidDecisionEvidence
      let command ← channelCommandForAction head command
      pure (some command)

/-- `factorized_motor_bundle_for_candidates`. -/
def factorizedMotorBundleForCandidates (quantize : F32Value → UInt32) (organismId : OrganismId)
    (sequenceId : ExperienceSequenceId) (tick : Tick) (candidates : List ActionCandidate)
    (candidateSlots : Fin 6 → UInt16) (channels : List MotorChannel)
    (compatibilityCommand : ActionCommand) (selectedCandidateIndex : UInt16)
    (speech : Option SpeechMotorPayload) (prompted : Bool) :
    Contract (MotorCommandBundle F32Value) := do
  let commands ← channels.mapM (headCommand organismId candidates candidateSlots
    selectedCandidateIndex)
  arbitrateGpuSelectedCommandIntoFactorizedBundle quantize organismId sequenceId tick
    (commands.filterMap id) compatibilityCommand speech prompted

/-! ## The receipt of a selection -/

/-- `normalized_motor_bundle_digest`. -/
def normalizedMotorBundleDigest {D : Type} (finish : String → List (Write F32Value D) → D)
    (bundle : MotorCommandBundle F32Value) : Contract D :=
  ({ bundle with sequenceId := ⟨1⟩ } : MotorCommandBundle F32Value).canonicalDigest finish

/-- `JointActionSelectionV1`, for the digests of a `finish`. -/
structure JointSelection (D : Type) where
  schemaVersion : UInt16
  candidateSlots : Fin 6 → UInt16
  bundleDigest : D

namespace JointSelection

variable {D : Type} [DecidableEq D]

/-- `JointActionSelectionV1::validate`; `absent` is the digest of zeros. -/
def validate (absent : D) (s : JointSelection D) : Contract Unit := do
  reject (s.schemaVersion ≠ 1 ∨ s.bundleDigest = absent ∨ (∀ slot, s.candidateSlots slot = 0)
    ∨ ∃ slot, maxActionCandidates < (s.candidateSlots slot).toNat) .learningEvidenceMismatch
  reject (∃ slot, s.candidateSlots slot ≠ 0
    ∧ ∃ earlier < slot, s.candidateSlots earlier = s.candidateSlots slot) .learningEvidenceMismatch

/-- `JointActionSelectionV1::new`. -/
def new (finish : String → List (Write F32Value D) → D) (absent : D)
    (candidateSlots : Fin 6 → UInt16) (bundle : MotorCommandBundle F32Value) :
    Contract (JointSelection D) := do
  let bundleDigest ← normalizedMotorBundleDigest finish bundle
  let value : JointSelection D := ⟨1, candidateSlots, bundleDigest⟩
  value.validate absent
  pure value

/-- `validate_bundle`. -/
def validateBundle (finish : String → List (Write F32Value D) → D) (absent : D)
    (s : JointSelection D) (bundle : MotorCommandBundle F32Value) : Contract Unit := do
  s.validate absent
  let digest ← normalizedMotorBundleDigest finish bundle
  reject (digest ≠ s.bundleDigest) .learningEvidenceMismatch

end JointSelection

end ALife
