/-
# Outcome credit

`OutcomeCreditPacket` and the sequence guard of `crates/alife_core/src/learning.rs`,
and the device row made from a packet (`GpuOutcomeCreditRecord::try_from`,
`crates/alife_gpu_backend/src/closed_loop_learning.rs`).

A packet is derived from a sealed patch; the receptors of the organism then
replace its last two lanes and nothing else (`withBiochemicalReceptors_ok`).  The
two products that make these lanes are floating point and stay a parameter.  Of
a patch there is what deriving a packet reads.
-/

import ALife.Core.Perception
import ALife.Machine.Checks
import ALife.Replay.Codec

namespace ALife

open Machine

inductive PolicyBackend where
  | neuralClosedLoopGpu | heuristicBaseline | neuralClosedLoopCpu
  deriving DecidableEq, Repr

structure NeuralDecisionEvidence where
  phenotypeHash : Digest256
  frameDigest : Digest256
  activeActivationSide : UInt8
  candidateIndex : UInt16
  actionFamily : CandidateActionFamily
  actionId : ActionId
  candidateFeatureDigest : CandidateFeatureDigest
  dispatchGeneration : UInt64
  deriving DecidableEq, Repr

inductive DecisionEvidence where
  | neuralClosedLoopGpu (evidence : NeuralDecisionEvidence)
  | neuralClosedLoopCpu (evidence : NeuralDecisionEvidence)
  | heuristicBaseline
  deriving DecidableEq, Repr

/-- `DecisionSnapshot`; `bundle` is the rest of it, which a joint selection is checked against. -/
structure DecisionSnapshot (Bundle : Type) where
  organismId : OrganismId
  sequenceId : ExperienceSequenceId
  selectedActionId : ActionId
  evidence : DecisionEvidence
  bundle : Bundle
  deriving DecidableEq, Repr

/-- `policy_backend`. -/
def DecisionSnapshot.policyBackend {Bundle : Type} (decision : DecisionSnapshot Bundle) :
    PolicyBackend :=
  match decision.evidence with
  | .neuralClosedLoopGpu _ => .neuralClosedLoopGpu
  | .neuralClosedLoopCpu _ => .neuralClosedLoopCpu
  | .heuristicBaseline => .heuristicBaseline

/-- `neural_evidence`. -/
def DecisionSnapshot.neuralEvidence {Bundle : Type} (decision : DecisionSnapshot Bundle) :
    Contract NeuralDecisionEvidence :=
  match decision.evidence with
  | .neuralClosedLoopGpu evidence => .ok evidence
  | .neuralClosedLoopCpu evidence => .ok evidence
  | .heuristicBaseline => .error .evidenceKindMismatch

/-- The answers of the measured physiology: `aversive_value`, `homeostatic_improvement`, and the
frustration scaled by the disappointment and clamped. -/
structure MeasuredPhysiology where
  aversiveValue : F32
  homeostaticImprovement : F32
  frustration : F32
  deriving DecidableEq, Repr

structure OutcomeSnapshot where
  organismId : OrganismId
  sequenceId : ExperienceSequenceId
  outcomeTick : Tick
  predictionError : F32
  measuredPhysiology : Option MeasuredPhysiology
  deriving DecidableEq, Repr

/-- `ExperiencePatch`; `valid` is the answer of its `validate_contract`, `isSealed` compares the
phase, and `brainEvidence` are the phenotype and the frame of a neural pre-action snapshot. -/
structure ExperiencePatch (Bundle : Type) where
  valid : Bool
  isSealed : Bool
  organismId : OrganismId
  sequenceId : ExperienceSequenceId
  worldTick : Tick
  brainEvidence : Option (Digest256 × Digest256)
  decision : DecisionSnapshot Bundle
  outcome : OutcomeSnapshot
  deriving DecidableEq, Repr

/-- `NeuromodulatorSample::from_components`. -/
def NeuromodulatorSample.fromComponents
    (predictionResidual pain homeostaticImprovement frustration novelty : F32) :
    Contract NeuromodulatorSample := do
  let frame ← NeuromodulatoryFrame.tryNew
    ⟨predictionResidual, pain, homeostaticImprovement, frustration, novelty, .zero, .zero, .zero⟩
  .ok (.fromFrame frame)

inductive NeuralReceptorClass where
  | interoceptiveInput | regionalExcitability | projectionGain | localThreshold | attentionGate
  | plasticityAppetitive | plasticityAversive | structuralGrowth | sleep | consolidation
  deriving DecidableEq, Repr

structure NeuralReceptorActivation where
  receptorClass : NeuralReceptorClass
  signal : F32
  deriving DecidableEq, Repr

structure NeuralReceptorFrame where
  schemaVersion : UInt16
  sourceChemistryVersion : UInt16
  sourceTick : Tick
  activations : List NeuralReceptorActivation
  deriving DecidableEq, Repr

namespace NeuralReceptorFrame

/-- `BIOCHEMICAL_GRAPH_SCHEMA_VERSION`. -/
def biochemicalGraphSchemaVersion : UInt16 := 3

/-- `MAX_NEURAL_RECEPTOR_ACTIVATIONS`. -/
def maxNeuralReceptorActivations : ℕ := 32

/-- `activation_for`. -/
def activationFor (receptors : NeuralReceptorFrame) (receptorClass : NeuralReceptorClass) : F32 :=
  match receptors.activations.find? (·.receptorClass = receptorClass) with
  | some activation => activation.signal
  | none => .zero

/-- `validate_contract` of the receptors. -/
def validateContract (receptors : NeuralReceptorFrame) : Contract Unit := do
  reject (receptors.schemaVersion ≠ biochemicalGraphSchemaVersion
      ∨ receptors.sourceChemistryVersion ≠ biochemicalGraphSchemaVersion
      ∨ maxNeuralReceptorActivations < receptors.activations.length)
    .invalidDecisionEvidence
  reject (¬(receptors.activations.map (·.receptorClass)).Nodup) .invalidDecisionEvidence
  reject ((receptors.activations.map (·.signal)).all F32.isFinite = false) .nonFiniteFloat
  reject ((receptors.activations.map (·.signal)).all (F32.inRange .zero .one) = false)
    .scalarOutOfRange

end NeuralReceptorFrame

/-- The two products: a sample and the activations for the appetitive and the aversive class
give lanes six and seven. -/
abbrev BiochemicalLanes := NeuromodulatorSample → F32 → F32 → F32 × F32

/-- `NeuromodulatorSample::with_biochemical_receptors`; the copies of the first five lanes stay,
as those lanes do. -/
def NeuromodulatorSample.withBiochemicalReceptors (products : BiochemicalLanes)
    (sample : NeuromodulatorSample) (receptors : NeuralReceptorFrame) :
    Contract NeuromodulatorSample := do
  receptors.validateContract
  let lanes := products sample (receptors.activationFor .plasticityAppetitive)
    (receptors.activationFor .plasticityAversive)
  let frame ← NeuromodulatoryFrame.tryNew
    { sample.frame.lanes with lane6 := lanes.1, lane7 := lanes.2 }
  .ok (.fromFrame frame)

structure OutcomeCreditReplayKey where
  organismId : OrganismId
  phenotypeHash : Digest256
  sequenceId : ExperienceSequenceId
  deriving DecidableEq, Repr

structure OutcomeCreditPacket where
  policyBackend : PolicyBackend
  schemaVersion : UInt16
  organismId : OrganismId
  phenotypeHash : Digest256
  sequenceId : ExperienceSequenceId
  originatingTick : Tick
  outcomeTick : Tick
  frameDigest : Digest256
  activeActivationSide : UInt8
  selectedCandidate : UInt16
  selectedFamily : CandidateActionFamily
  selectedAction : ActionId
  candidateFeatureDigest : CandidateFeatureDigest
  dispatchGeneration : UInt64
  modulator : NeuromodulatorSample
  deriving DecidableEq

namespace OutcomeCreditPacket

/-- `from_sealed_patch`. -/
def fromSealedPatch {Bundle : Type} (patch : ExperiencePatch Bundle) :
    Contract OutcomeCreditPacket := do
  reject (patch.valid = false) .learningEvidenceMismatch
  reject (patch.isSealed = false) .learningEvidenceMismatch
  let evidence ← patch.decision.neuralEvidence.mapError fun _ => .learningEvidenceMismatch
  let preActionHash ← getOr
    ((patch.brainEvidence.filter fun neural => neural.2 = evidence.frameDigest).map (·.1))
    .learningEvidenceMismatch
  reject (preActionHash ≠ evidence.phenotypeHash
      ∨ patch.organismId ≠ patch.decision.organismId ∨ patch.organismId ≠ patch.outcome.organismId
      ∨ patch.sequenceId ≠ patch.decision.sequenceId ∨ patch.sequenceId ≠ patch.outcome.sequenceId
      ∨ patch.decision.selectedActionId ≠ evidence.actionId ∨ 1 < evidence.activeActivationSide
      ∨ evidence.dispatchGeneration = 0)
    .learningEvidenceMismatch
  let physiology ← getOr patch.outcome.measuredPhysiology .learningEvidenceMismatch
  let modulator ← NeuromodulatorSample.fromComponents patch.outcome.predictionError
    physiology.aversiveValue physiology.homeostaticImprovement physiology.frustration .zero
  .ok
    { policyBackend := patch.decision.policyBackend
      schemaVersion := SchemaKind.learning.current
      organismId := patch.organismId
      phenotypeHash := evidence.phenotypeHash
      sequenceId := patch.sequenceId
      originatingTick := patch.worldTick
      outcomeTick := patch.outcome.outcomeTick
      frameDigest := evidence.frameDigest
      activeActivationSide := evidence.activeActivationSide
      selectedCandidate := evidence.candidateIndex
      selectedFamily := evidence.actionFamily
      selectedAction := evidence.actionId
      candidateFeatureDigest := evidence.candidateFeatureDigest
      dispatchGeneration := evidence.dispatchGeneration
      modulator := modulator }

/-- `with_biochemical_receptors`. -/
def withBiochemicalReceptors (products : BiochemicalLanes) (packet : OutcomeCreditPacket)
    (receptors : NeuralReceptorFrame) : Contract OutcomeCreditPacket := do
  reject (receptors.sourceTick.raw < packet.originatingTick.raw
      ∨ packet.outcomeTick.raw < receptors.sourceTick.raw) .learningEvidenceMismatch
  let modulator ← packet.modulator.withBiochemicalReceptors products receptors
  .ok { packet with modulator := modulator }

/-- `replay_key`. -/
def replayKey (packet : OutcomeCreditPacket) : OutcomeCreditReplayKey :=
  ⟨packet.organismId, packet.phenotypeHash, packet.sequenceId⟩

/-- The receptors touch the sample and nothing else. -/
theorem withBiochemicalReceptors_ok {products : BiochemicalLanes}
    {packet packet' : OutcomeCreditPacket} {receptors : NeuralReceptorFrame}
    (h : packet.withBiochemicalReceptors products receptors = .ok packet') :
    ∃ modulator, packet' = { packet with modulator := modulator } := by
  unfold withBiochemicalReceptors at h
  obtain ⟨_, h⟩ := except_seq_eq_ok_iff.1 h
  obtain ⟨modulator, _, h⟩ := except_bind_eq_ok_iff.1 h
  exact ⟨modulator, (Except.ok.inj h).symm⟩

end OutcomeCreditPacket

/-! ### The sequence guard -/

structure LearningCommitToken where
  expectedPrevious : Option OutcomeCreditReplayKey
  next : OutcomeCreditReplayKey
  deriving DecidableEq, Repr

structure LearningSequenceGuard where
  organismId : OrganismId
  phenotypeHash : Digest256
  lastCommitted : Option OutcomeCreditReplayKey
  deriving DecidableEq, Repr

/-- `validate_next`. -/
def LearningSequenceGuard.validateNext (sequenceGuard : LearningSequenceGuard)
    (next : OutcomeCreditReplayKey) : Contract LearningCommitToken := do
  sequenceGuard.organismId.validate
  next.organismId.validate
  next.sequenceId.validate
  reject (next.organismId ≠ sequenceGuard.organismId
    ∨ next.phenotypeHash ≠ sequenceGuard.phenotypeHash) .learningEvidenceMismatch
  reject (sequenceGuard.lastCommitted.any fun last => next.sequenceId.raw ≤ last.sequenceId.raw)
    .learningReplayRejected
  .ok ⟨sequenceGuard.lastCommitted, next⟩

/-! ### The device row -/

structure GpuOutcomeCreditRecord where
  schemaVersion : UInt32
  selectedCandidateAndFamily : UInt32
  organismId : WordPair
  phenotypeHash : WordPairs4
  sequenceId : WordPair
  originatingTick : WordPair
  outcomeTick : WordPair
  selectedAction : UInt32
  activeActivationSide : UInt32
  candidateFeatureDigest : WordPairs2
  frameDigest : WordPairs4
  dispatchGeneration : WordPair
  lanes : NeuromodulatoryLanes
  reserved : WordPair
  deriving DecidableEq, Repr

/-- `pack_candidate_index_and_family`. -/
def packCandidateIndexAndFamily (candidateIndex : UInt16) (family : CandidateActionFamily) :
    UInt32 :=
  candidateIndex.toUInt32 ||| (family.raw.toUInt32 <<< 16)

/-- `GpuOutcomeCreditRecord::try_from`. -/
def GpuOutcomeCreditRecord.tryFrom (packet : OutcomeCreditPacket) :
    Contract GpuOutcomeCreditRecord := do
  reject (packet.policyBackend ≠ .neuralClosedLoopGpu) .learningEvidenceMismatch
  requireCurrentVersion .learning packet.schemaVersion
  packet.organismId.validate
  packet.sequenceId.validate
  packet.selectedAction.validate
  let family ← CandidateActionFamily.tryFromRaw packet.selectedFamily.raw
  let components := packet.modulator.frame.lanes
  reject (components.toList.all F32.isFinite = false) .nonFiniteFloat
  reject (components.toList.all (F32.inRange .negOne .one) = false
      ∨ 1 < packet.activeActivationSide ∨ packet.dispatchGeneration = 0
      ∨ packet.outcomeTick.raw ≤ packet.originatingTick.raw ∨ packet.phenotypeHash = .zero
      ∨ packet.frameDigest = .zero ∨ packet.candidateFeatureDigest = ⟨0, 0⟩)
    .learningEvidenceMismatch
  .ok
    { schemaVersion := packet.schemaVersion.toUInt32
      selectedCandidateAndFamily := packCandidateIndexAndFamily packet.selectedCandidate family
      organismId := splitPair packet.organismId.raw
      phenotypeHash := splitDigest4 packet.phenotypeHash
      sequenceId := splitPair packet.sequenceId.raw
      originatingTick := splitPair packet.originatingTick.raw
      outcomeTick := splitPair packet.outcomeTick.raw
      selectedAction := packet.selectedAction.raw
      activeActivationSide := packet.activeActivationSide.toUInt32
      candidateFeatureDigest := splitDigest2 packet.candidateFeatureDigest
      frameDigest := splitDigest4 packet.frameDigest
      dispatchGeneration := splitPair packet.dispatchGeneration
      lanes := components
      reserved := ⟨0, 0⟩ }

/-- What a packet needs to become a row; the lanes of a sample are always in range. -/
structure OutcomeCreditPacket.Uploadable (packet : OutcomeCreditPacket) : Prop where
  backend : packet.policyBackend = .neuralClosedLoopGpu
  version : packet.schemaVersion = SchemaKind.learning.current
  organism : packet.organismId.raw ≠ 0
  sequence : packet.sequenceId.raw ≠ 0
  action : packet.selectedAction.raw ≠ 0
  side : ¬1 < packet.activeActivationSide
  dispatch : packet.dispatchGeneration ≠ 0
  ticks : ¬packet.outcomeTick.raw ≤ packet.originatingTick.raw
  phenotype : packet.phenotypeHash ≠ .zero
  frame : packet.frameDigest ≠ .zero
  features : packet.candidateFeatureDigest ≠ ⟨0, 0⟩

theorem GpuOutcomeCreditRecord.exists_tryFrom_eq_ok_iff {packet : OutcomeCreditPacket} :
    (∃ record, tryFrom packet = .ok record) ↔ packet.Uploadable := by
  have hfinite := packet.modulator.frame.finite
  have hrange := packet.modulator.frame.inRange
  unfold tryFrom
  simp only [except_seq_eq_ok_iff, reject_eq_ok_iff, not_not, requireCurrentVersion_eq_ok_iff,
    OrganismId.validate, ExperienceSequenceId.validate, ActionId.validate]
  constructor
  · rintro ⟨record, hbackend, hversion, horganism, hsequence, haction, h⟩
    obtain ⟨family, _, h⟩ := except_bind_eq_ok_iff.1 h
    obtain ⟨_, h⟩ := except_seq_eq_ok_iff.1 h
    obtain ⟨hchecks, _⟩ := except_seq_eq_ok_iff.1 h
    rw [reject_eq_ok_iff, not_or, not_or, not_or, not_or, not_or, not_or] at hchecks
    obtain ⟨-, hside, hdispatch, hticks, hphenotype, hframe, hfeatures⟩ := hchecks
    exact ⟨hbackend, hversion, horganism, hsequence, haction, hside, hdispatch, hticks, hphenotype,
      hframe, hfeatures⟩
  · intro h
    refine ⟨_, h.backend, h.version, h.organism, h.sequence, h.action, except_bind_eq_ok_iff.2
      ⟨_, CandidateActionFamily.tryFromRaw_raw _, except_seq_eq_ok_iff.2 ⟨?_,
        except_seq_eq_ok_iff.2 ⟨?_, rfl⟩⟩⟩⟩
    · rw [reject_eq_ok_iff, hfinite]
      exact Bool.noConfusion
    · rw [reject_eq_ok_iff, hrange, not_or, not_or, not_or, not_or, not_or, not_or]
      exact ⟨Bool.noConfusion, h.side, h.dispatch, h.ticks, h.phenotype, h.frame,
        h.features⟩

/-- Whether a packet becomes a row does not depend on its sample. -/
theorem OutcomeCreditPacket.uploadable_modulator_iff {packet : OutcomeCreditPacket}
    {modulator : NeuromodulatorSample} :
    OutcomeCreditPacket.Uploadable { packet with modulator := modulator } ↔ packet.Uploadable := by
  constructor <;> rintro ⟨h₁, h₂, h₃, h₄, h₅, h₆, h₇, h₈, h₉, h₁₀, h₁₁⟩ <;>
    exact ⟨h₁, h₂, h₃, h₄, h₅, h₆, h₇, h₈, h₉, h₁₀, h₁₁⟩

end ALife
