/-
# Cognitive context frames

`crates/alife_core/src/cognitive_context.rs`: the views that a decision sees, and the contract
that a frame of them meets.
-/

import ALife.Cognition.Attention
import ALife.Cognition.Predictive
import ALife.Core.Perception

namespace ALife

open Machine

/-- `COGNITIVE_CONTEXT_SCHEMA_VERSION`. -/
def cognitiveContextSchemaVersion : UInt16 := 2

/-- `MAX_CONTEXT_MEMORY_EXPECTANCIES`. -/
def maxContextMemoryExpectancies : ℕ := 32

/-- `MAX_ACTIVE_CONCEPTS`. -/
def maxActiveConcepts : ℕ := 32

/-- `MAX_ACTIVE_GAPS`. -/
def maxActiveGaps : ℕ := 32

/-- `MAX_PREDICTION_ERROR_FEATURES`. -/
def maxPredictionErrorFeatures : ℕ := maxSemanticStateValues

/-- `UnresolvedGapId`; zero is reserved as invalid. -/
structure UnresolvedGapId where
  raw : UInt64
  deriving DecidableEq, Repr

def UnresolvedGapId.validate (id : UnresolvedGapId) : Contract Unit :=
  reject (id.raw = 0) .invalidId

section Views

variable {R D : Type} [FloatValue R]

/-- `CognitivePeripheralView`. -/
@[ext] structure CognitivePeripheralView (R : Type) where
  summaries : List (PeripheralSummary R)
  deriving DecidableEq, Repr

def CognitivePeripheralView.validateContract (v : CognitivePeripheralView R) : Contract Unit := do
  reject (maxPeripheralSummaries < v.summaries.length) .invalidDecisionEvidence
  v.summaries.forM PeripheralSummary.validateContract

/-- `CognitiveFocalView`. -/
@[ext] structure CognitiveFocalView (R : Type) where
  identities : List StableFocusIdentity
  salience : List (SalienceComponents R)
  hysteresis : HysteresisState R
  deriving DecidableEq, Repr

def CognitiveFocalView.validateContract (v : CognitiveFocalView R) : Contract Unit := do
  reject (maxFocalTargets < v.identities.length ∨ maxFocalTargets < v.salience.length)
    .invalidDecisionEvidence
  v.identities.forM StableFocusIdentity.validateContract
  reject (¬v.identities.Nodup) .invalidDecisionEvidence
  v.salience.forM SalienceComponents.validateContract
  v.hysteresis.validateContract

/-- `CognitiveInteroceptiveView`. -/
structure CognitiveInteroceptiveView (R : Type) where
  hunger : R
  fatigue : R
  pain : R
  temperatureStress : R
  sleepPressure : R
  energy : R
  deriving DecidableEq, Repr

/-- The values in their written order. -/
def CognitiveInteroceptiveView.values (v : CognitiveInteroceptiveView R) : List R :=
  [v.hunger, v.fatigue, v.pain, v.temperatureStress, v.sleepPressure, v.energy]

def CognitiveInteroceptiveView.validateContract (v : CognitiveInteroceptiveView R) :
    Contract Unit := v.values.forM NormalizedScalar.new

/-- `CognitiveMemoryExpectancy`. -/
structure CognitiveMemoryExpectancy (R : Type) where
  memoryId : MemoryId
  expectedValence : R
  confidence : R
  deriving DecidableEq, Repr

def CognitiveMemoryExpectancy.validateContract (e : CognitiveMemoryExpectancy R) :
    Contract Unit := do
  e.memoryId.validate
  SignedValence.new e.expectedValence
  NormalizedScalar.new e.confidence

/-- `CognitiveMemoryView`. -/
@[ext] structure CognitiveMemoryView (R : Type) where
  expectancies : List (CognitiveMemoryExpectancy R)
  deriving DecidableEq, Repr

def CognitiveMemoryView.validateContract (v : CognitiveMemoryView R) : Contract Unit := do
  reject (maxContextMemoryExpectancies < v.expectancies.length) .invalidDecisionEvidence
  v.expectancies.forM CognitiveMemoryExpectancy.validateContract

/-- `CognitiveConceptActivation`. -/
structure CognitiveConceptActivation (R : Type) where
  conceptId : ConceptCellId
  activation : R
  utility : R
  deriving DecidableEq, Repr

def CognitiveConceptActivation.validateContract (a : CognitiveConceptActivation R) :
    Contract Unit := do
  a.conceptId.validate
  NormalizedScalar.new a.activation
  NormalizedScalar.new a.utility

/-- `CognitiveConceptView`. -/
@[ext] structure CognitiveConceptView (R D : Type) where
  activeConcepts : List (CognitiveConceptActivation R)
  topologyDigest : D
  deriving DecidableEq, Repr

def CognitiveConceptView.validateContract (v : CognitiveConceptView R D) : Contract Unit := do
  reject (maxActiveConcepts < v.activeConcepts.length) .invalidDecisionEvidence
  v.activeConcepts.forM CognitiveConceptActivation.validateContract

/-- `CognitiveGapActivation`. -/
structure CognitiveGapActivation (R : Type) where
  gapId : UnresolvedGapId
  voltage : R
  uncertainty : R
  deriving DecidableEq, Repr

def CognitiveGapActivation.validateContract (a : CognitiveGapActivation R) : Contract Unit := do
  a.gapId.validate
  NormalizedScalar.new a.voltage
  NormalizedScalar.new a.uncertainty

/-- `CognitiveGapView`. -/
@[ext] structure CognitiveGapView (R : Type) where
  activeGaps : List (CognitiveGapActivation R)
  gapVoltage : R
  deriving DecidableEq, Repr

def CognitiveGapView.validateContract (v : CognitiveGapView R) : Contract Unit := do
  reject (maxActiveGaps < v.activeGaps.length) .invalidDecisionEvidence
  NormalizedScalar.new v.gapVoltage
  v.activeGaps.forM CognitiveGapActivation.validateContract

/-- `CognitivePredictionView`. -/
@[ext] structure CognitivePredictionView (R D : Type) where
  sourceDigest : D
  semanticStateAbi : UInt16
  sourceState : Option (SemanticStateVector R)
  predictionError : List R
  motorConditionMagnitude : R
  categoryCoverage : Option PredictionCategoryCoverage
  deriving DecidableEq, Repr

variable [DecidableEq D] [Zero D]

/-- `validate_contract`; a digest of zeros is no digest. -/
def CognitivePredictionView.validateContract (v : CognitivePredictionView R D) :
    Contract Unit := do
  reject (maxPredictionErrorFeatures < v.predictionError.length) .invalidDecisionEvidence
  match v.sourceState with
  | none =>
    reject (¬(v.semanticStateAbi = 0 ∧ v.predictionError = [] ∧ v.sourceDigest = 0))
      .invalidDecisionEvidence
  | some state => do
    state.validateContract
    reject (v.semanticStateAbi ≠ state.abiVersion ∨ v.sourceDigest = 0) .invalidDecisionEvidence
  NormalizedScalar.new v.motorConditionMagnitude
  match v.sourceState, v.categoryCoverage with
  | none, none => .ok ()
  | some _, some coverage => coverage.validateContract
  | _, _ => .error .invalidDecisionEvidence
  v.predictionError.forM NormalizedScalar.new

/-- `CognitiveBudgetView`. -/
structure CognitiveBudgetView where
  peripheralCapacity : UInt16
  focalCapacity : UInt8
  workLimit : UInt64
  workUsed : UInt64
  deriving DecidableEq, Repr

def CognitiveBudgetView.validateContract (v : CognitiveBudgetView) : Contract Unit :=
  reject (maxPeripheralSummaries < v.peripheralCapacity.toNat
    ∨ maxFocalTargets < v.focalCapacity.toNat
    ∨ v.workLimit < v.workUsed) .invalidDecisionEvidence

/-- `CognitiveObjectEvidence`. -/
structure CognitiveObjectEvidence (R : Type) where
  trackedObjectId : TrackedObjectId
  conceptMatch : R
  gapMatch : R
  priorResidual : R
  deriving DecidableEq, Repr

def CognitiveObjectEvidence.validateContract (e : CognitiveObjectEvidence R) : Contract Unit := do
  e.trackedObjectId.validate
  [e.conceptMatch, e.gapMatch, e.priorResidual].forM NormalizedScalar.new

/-- `CognitiveCandidateInput`. -/
structure CognitiveCandidateInput (R D : Type) where
  candidateIndex : UInt16
  candidateFeatureDigest : CandidateFeatureDigest
  trackedObjectId : Option TrackedObjectId
  prediction : SuccessorPrediction R D
  forecastAvailable : Bool
  conceptMatch : R
  gapMatch : R
  priorResidual : R
  deriving DecidableEq, Repr

/-- `validate_contract`: of the prediction only the source is checked. -/
def CognitiveCandidateInput.validateContract (c : CognitiveCandidateInput R D) :
    Contract Unit := do
  reject (maxActionCandidates ≤ c.candidateIndex.toNat) .invalidActionCandidate
  match c.trackedObjectId with
  | some id => id.validate
  | none => .ok ()
  [c.conceptMatch, c.gapMatch, c.priorResidual].forM NormalizedScalar.new
  c.prediction.sourceState.validateContract
  reject (c.prediction.sourceDigest = 0
    ∨ c.prediction.sourceState.abiVersion ≠ c.prediction.semanticStateAbi) .invalidDecisionEvidence

/-- `CognitiveProjectionFrame`. -/
structure CognitiveProjectionFrame (R D : Type) where
  schemaVersion : UInt16
  baseFrameDigest : D
  candidates : List (CognitiveCandidateInput R D)
  objects : List (CognitiveObjectEvidence R)
  deriving DecidableEq, Repr

/-- `CognitiveProjectionFrame::SCHEMA_VERSION`. -/
def cognitiveProjectionSchemaVersion : UInt16 := 1

/-- `validate_contract`: the candidates stand at their index, the ids of the objects ascend. -/
def CognitiveProjectionFrame.validateContract (p : CognitiveProjectionFrame R D) :
    Contract Unit := do
  reject (p.schemaVersion ≠ cognitiveProjectionSchemaVersion ∨ p.baseFrameDigest = 0
    ∨ maxActionCandidates < p.candidates.length) .invalidDecisionEvidence
  p.candidates.zipIdx.forM fun c => do
    c.1.validateContract
    reject (c.1.candidateIndex.toNat ≠ c.2) .invalidDecisionEvidence
  reject (maxPeripheralSummaries < p.objects.length
    ∨ ¬(p.objects.map fun e => e.trackedObjectId.raw).IsChain (· < ·)) .invalidDecisionEvidence
  p.objects.forM CognitiveObjectEvidence.validateContract

/-- `CognitiveContextFrame`. -/
@[ext] structure CognitiveContextFrame (R D : Type) where
  schemaVersion : UInt16
  organismId : OrganismId
  sequenceId : ExperienceSequenceId
  worldTick : Tick
  attention : AttentionFrame R
  peripheral : CognitivePeripheralView R
  focal : CognitiveFocalView R
  interoceptive : CognitiveInteroceptiveView R
  memory : CognitiveMemoryView R
  concept : CognitiveConceptView R D
  gap : CognitiveGapView R
  prediction : CognitivePredictionView R D
  cognitiveProjection : Option (CognitiveProjectionFrame R D)
  budget : CognitiveBudgetView
  deriving DecidableEq, Repr

/-- `validate_contract`. -/
def CognitiveContextFrame.validateContract (f : CognitiveContextFrame R D) : Contract Unit := do
  reject (f.schemaVersion ≠ cognitiveContextSchemaVersion)
    (.incompatibleAbi .experience cognitiveContextSchemaVersion f.schemaVersion)
  f.organismId.validate
  f.sequenceId.validate
  f.attention.validateContract
  reject (f.attention.organismId ≠ f.organismId ∨ f.attention.sequenceId ≠ f.sequenceId
    ∨ f.attention.worldTick ≠ f.worldTick) .mismatchedCreatureId
  f.peripheral.validateContract
  f.focal.validateContract
  f.interoceptive.validateContract
  f.memory.validateContract
  f.concept.validateContract
  f.gap.validateContract
  f.prediction.validateContract
  match f.cognitiveProjection with
  | some projection => projection.validateContract
  | none => .ok ()
  f.budget.validateContract
  reject (f.budget.peripheralCapacity.toNat < f.peripheral.summaries.length
    ∨ f.budget.focalCapacity.toNat < f.focal.identities.length) .invalidDecisionEvidence

end Views

end ALife
