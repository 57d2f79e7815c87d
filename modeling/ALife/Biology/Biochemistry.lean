/-
# The biochemistry of a body

`BiochemistryState` of `crates/alife_core/src/biochemistry.rs`: the body, its
chemical graph, the readiness to develop and to reproduce, and the pulse of
prediction error that waits for the next update.  `advance_with_neural_emission`
validates the state it starts from and the state it returns, so whatever its
parts cannot agree on stops the creature.
-/

import ALife.Biology.Upkeep

namespace ALife
namespace Biology

variable {K : Type} [Field K] [LinearOrder K]

/-- `cadence_boundary`. -/
def cadenceBoundary (tick : Tick) (period : UInt32) : Tick :=
  ⟨.ofNat (tick.raw.toNat / period.toNat * period.toNat)⟩

theorem cadenceBoundary_le (tick : Tick) (period : UInt32) :
    (cadenceBoundary tick period).raw ≤ tick.raw := by
  have hle := Nat.div_mul_le_self tick.raw.toNat period.toNat
  rw [UInt64.le_iff_toNat_le, cadenceBoundary]
  exact (UInt64.toNat_ofNat_of_lt' (lt_of_le_of_lt hle tick.raw.toNat_lt)).trans_le hle

/-- `DevelopmentState`, as far as readiness reads it. -/
structure DevelopmentState (K : Type) [Field K] [LinearOrder K] where
  maturation : NormalizedScalar K
  openCriticalPeriods : List (CriticalPeriod K)

/-- `CreaturePhenotype::development_state_at`. -/
def CreaturePhenotype.developmentStateAt (p : CreaturePhenotype K) (age : Tick) :
    Contract (DevelopmentState K) := do
  let duration := (p.development.maturationDurationTicks : K)
  let maturation ← normalized (clamp01 ((age.raw.toNat : K) / duration))
  let period := p.development.criticalPeriod
  let openCriticalPeriods :=
    if period.opensAt.raw ≤ age.raw ∧ age.raw ≤ period.closesAt.raw then [period] else []
  p.brainGenome.id.validate
  openCriticalPeriods.forM CriticalPeriod.validateContract
  pure { maturation, openCriticalPeriods }

/-- `DevelopmentReadiness`. -/
structure DevelopmentReadiness (K : Type) where
  lastUpdateTick : Tick
  ageTicks : Tick
  maturation : K
  pubertyReached : Bool
  criticalPeriodActive : Bool
  criticalPeriodPlasticityBias : K
  biochemicalExpression : K
  sleepMaturationReady : Bool
  migrationReady : Bool
  deriving DecidableEq, Repr

/-- `DevelopmentReadiness::validate_contract`. -/
def DevelopmentReadiness.validateContract (d : DevelopmentReadiness K) : Contract Unit := do
  let _ ← Tick.validateMonotonic d.lastUpdateTick d.ageTicks
  validateUnitValues [d.maturation, d.criticalPeriodPlasticityBias, d.biochemicalExpression]

/-- `DevelopmentReadiness::derive`. -/
def DevelopmentReadiness.derive (p : CreaturePhenotype K) (age lastUpdateTick : Tick) :
    Contract (DevelopmentReadiness K) := do
  let state ← p.developmentStateAt age
  let maturation := state.maturation.raw
  let gate := p.development.biochemicalActivationMaturation.raw
  let value : DevelopmentReadiness K :=
    { lastUpdateTick
      ageTicks := age
      maturation
      pubertyReached := decide (p.development.pubertyTick.raw ≤ age.raw)
      criticalPeriodActive := !state.openCriticalPeriods.isEmpty
      criticalPeriodPlasticityBias :=
        (state.openCriticalPeriods.head?.map (·.plasticityBias.raw)).getD 0
      biochemicalExpression := if gate = 0 then 1 else clamp01 (maturation / gate)
      sleepMaturationReady := decide (p.brainGenome.sleepPressureMaturationGate.raw ≤ maturation)
      migrationReady := decide (p.development.migrationCheckpoint.raw ≤ maturation) }
  value.validateContract
  pure value

/-- `ReproductionReadiness`. -/
structure ReproductionReadiness (K : Type) where
  lastUpdateTick : Tick
  pubertyReached : Bool
  healthyEnough : Bool
  energySufficient : Bool
  hormoneReady : Bool
  matingOpportunity : K
  ready : Bool
  deriving DecidableEq, Repr

/-- `ReproductionReadiness::validate_contract`. -/
def ReproductionReadiness.validateContract (r : ReproductionReadiness K) : Contract Unit :=
  validateUnitValues [r.matingOpportunity]

/-- `ReproductionReadiness::derive`, with the flags of `physiological_flags`. -/
def ReproductionReadiness.derive (lastUpdateTick : Tick) (body : BodyState K)
    (homeostasis : HomeostaticSnapshot K) (development : DevelopmentReadiness K)
    (matingOpportunity : K) (p : CreaturePhenotype K) : Contract (ReproductionReadiness K) := do
  let healthyEnough := decide (0.55 ≤ body.health) && decide (body.injury ≤ 0.45)
  let energySufficient :=
    decide (0.35 ≤ body.energy) && decide (0.25 ≤ homeostasis.drives.brainAtp)
  let hormoneReady :=
    decide (p.chemistry.reproductiveThreshold ≤ homeostasis.drives.reproductiveDrive)
      && decide (0.20 ≤ homeostasis.hormones.developmentalHormone)
  let value : ReproductionReadiness K :=
    { lastUpdateTick
      pubertyReached := development.pubertyReached
      healthyEnough
      energySufficient
      hormoneReady
      matingOpportunity
      ready := development.pubertyReached && healthyEnough && energySufficient && hormoneReady
        && decide (0.50 ≤ matingOpportunity) && decide (0 < p.fertility) }
  value.validateContract
  pure value

/-- `PendingPredictionResidualV1`. -/
structure PendingPredictionResidualV1 (K : Type) where
  schemaVersion : UInt16
  sourceTick : Tick
  sourceSequenceId : ExperienceSequenceId
  graphEpoch : UInt64
  activity : K
  confidence : K
  deriving DecidableEq, Repr

/-- `BiochemistryState`. -/
structure BiochemistryState (K : Type) where
  valueProfile : BiologicalValueProfile K
  sourceGenomeId : GenomeId
  tick : Tick
  body : BodyState K
  homeostasis : HomeostaticSnapshot K
  graphState : BiochemicalGraphState K
  pendingPredictionResidual : Option (PendingPredictionResidualV1 K)
  development : DevelopmentReadiness K
  reproduction : ReproductionReadiness K
  cadence : BiochemistryCadence
  deriving DecidableEq, Repr

/-- The check of a pending pulse against the tick of its state. -/
def PendingPredictionResidualV1.validateAt (pulse : PendingPredictionResidualV1 K) (tick : Tick) :
    Contract Unit := do
  reject (pulse.schemaVersion ≠ 1 ∨ pulse.graphEpoch = 0) .invalidDecisionEvidence
  pulse.sourceSequenceId.validate
  let _ ← NeuralEmission.new .predictionResidual pulse.activity pulse.confidence
  reject (pulse.sourceTick ≠ tick) .nonMonotonicTick

namespace BiochemistryState

/-- The check of the pulse, if one is pending. -/
def checkPending (s : BiochemistryState K) : Contract Unit :=
  match s.pendingPredictionResidual with
  | some pulse => pulse.validateAt s.tick
  | none => .ok ()

/-- `BiochemistryState::validate_contract`. -/
def validateContract (s : BiochemistryState K) : Contract Unit := do
  s.valueProfile.validateContract
  s.sourceGenomeId.validate
  s.body.validateContract
  s.homeostasis.validateContract
  s.graphState.validateContract
  s.development.validateContract
  s.reproduction.validateContract
  s.cadence.validateContract
  s.checkPending
  reject (s.homeostasis.tick ≠ s.tick ∨ s.graphState.tick ≠ s.tick
    ∨ s.tick.raw < s.development.ageTicks.raw ∨ s.tick.raw < s.development.lastUpdateTick.raw
    ∨ s.development.ageTicks.raw < s.reproduction.lastUpdateTick.raw
    ∨ s.tick.raw < s.reproduction.lastUpdateTick.raw) .nonMonotonicTick

/-- `BiochemistryState::validate_against`. -/
def validateAgainst (s : BiochemistryState K) (p : CreaturePhenotype K) : Contract Unit := do
  s.validateContract
  reject (s.sourceGenomeId ≠ p.sourceGenomeId
    ∨ s.valueProfile ≠ p.chemistry.biochemical.valueProfile) .invalidId
  s.graphState.validateAgainst p.chemistry.biochemical

/-- `BiochemistryState::new_with_age`. -/
def newWithAge (p : CreaturePhenotype K) (tick age : Tick) : Contract (BiochemistryState K) := do
  p.brainGenome.contract
  p.chemistry.endocrine
  let cadence := BiochemistryCadence.earlyMammal
  cadence.validateContract
  let body := BodyState.baseline p
  let development ←
    DevelopmentReadiness.derive p age (cadenceBoundary age cadence.developmentTicks)
  let graphState ←
    BiochemicalGraphState.new p.chemistry.biochemical tick development.biochemicalExpression
  let homeostasis ← graphState.deriveHomeostasis p.chemistry.biochemical
  let reproduction ← ReproductionReadiness.derive
    (cadenceBoundary age cadence.reproductionTicks) body homeostasis development 0 p
  let value : BiochemistryState K :=
    { valueProfile := p.chemistry.biochemical.valueProfile
      sourceGenomeId := p.sourceGenomeId
      tick, body, homeostasis, graphState
      pendingPredictionResidual := none
      development, reproduction, cadence }
  value.validateAgainst p
  pure value

/-- `BiochemistryState::with_prediction_residual_pulse`. -/
def withPredictionResidualPulse (s : BiochemistryState K)
    (sourceSequenceId : ExperienceSequenceId) (graphEpoch : UInt64) (activity confidence : K) :
    Contract (BiochemistryState K) := do
  s.validateContract
  reject (s.pendingPredictionResidual.isSome = true) .learningEvidenceMismatch
  let value : BiochemistryState K :=
    { s with
      pendingPredictionResidual := some
        { schemaVersion := 1, sourceTick := s.tick, sourceSequenceId, graphEpoch, activity
          confidence } }
  value.validateContract
  pure value

/-- The metabolic rate of a sleeper; the awake have none. -/
def asleepRate (s : BiochemistryState K) (event : BodyEventDelta K) (p : CreaturePhenotype K) :
    Contract (Option (Signal K)) :=
  if 0 < event.sleepRecovery then s.graphState.sleepMetabolicRate p.chemistry.biochemical
  else .ok none

variable [FloorRing K] [Exp2 K]

/-- The arguments `apply_event` is called with: the regulation read from the previous chemical
state, and the event with the upkeep of the crossed metabolic boundaries on the inherited
clock. -/
def exertion (s : BiochemistryState K) (nextTick : Tick) (event : BodyEventDelta K)
    (p : CreaturePhenotype K) : Contract (Exertion K) := do
  let metabolicSteps :=
    crossedBoundaries s.tick nextTick s.cadence.metabolismTicks s.cadence.maxCatchUpSteps
  let (energyUse, repairSignal) ← s.graphState.organRegulation p.chemistry.biochemical
  let upkeep := upkeepEvent p s.cadence metabolicSteps
  let asleep ← s.asleepRate event p
  let sleepMetabolicRate := signalOr1 asleep
  let turnover := p.body.metabolicTurnover
  pure
    { previousTick := s.tick
      nextTick
      event := { event with
        energy := signedClamp
          ((event.energy + upkeep.energy * signalOr1 energyUse * sleepMetabolicRate) * turnover) }
      maxCatchUpSteps := s.cadence.maxCatchUpSteps
      energyUse, repairSignal, sleepMetabolicRate }

/-- Development is derived again on its boundaries and ages in between. -/
def nextDevelopment (s : BiochemistryState K) (nextAge : Tick) (p : CreaturePhenotype K) :
    Contract (DevelopmentReadiness K) :=
  if 0 < crossedBoundaries s.development.ageTicks nextAge s.cadence.developmentTicks
      s.cadence.maxCatchUpSteps then
    DevelopmentReadiness.derive p nextAge (cadenceBoundary nextAge s.cadence.developmentTicks)
  else
    .ok { s.development with ageTicks := nextAge }

/-- The frame that carries a pending pulse: the frame at hand with one more emission. -/
def pendingFrame (s : BiochemistryState K) (neural : Option (NeuralEmissionFrame K)) :
    Contract (Option (NeuralEmissionFrame K)) :=
  match s.pendingPredictionResidual with
  | none => .ok none
  | some pulse => do
    neural.forM NeuralEmissionFrame.validateContract
    let emission ← NeuralEmission.new .predictionResidual pulse.activity pulse.confidence
    let frame ← NeuralEmissionFrame.new ((neural.map (·.sourceTick)).getD s.tick)
      ((neural.map (·.graphEpoch)).getD pulse.graphEpoch)
      ((neural.map (·.emissions)).getD [] ++ [emission])
    pure (some frame)

/-- Reproduction is derived again on its boundaries, and in between while a mate is or was near;
a mate met off the boundary keeps the freshness tick. -/
def nextReproduction (s : BiochemistryState K) (nextAge : Tick) (body : BodyState K)
    (homeostasis : HomeostaticSnapshot K) (development : DevelopmentReadiness K)
    (matingOpportunity : K) (p : CreaturePhenotype K) : Contract (ReproductionReadiness K) :=
  if 0 < crossedBoundaries s.development.ageTicks nextAge s.cadence.reproductionTicks
      s.cadence.maxCatchUpSteps then
    ReproductionReadiness.derive (cadenceBoundary nextAge s.cadence.reproductionTicks) body
      homeostasis development matingOpportunity p
  else if 0 < matingOpportunity ∨ 0 < s.reproduction.matingOpportunity then
    ReproductionReadiness.derive s.reproduction.lastUpdateTick body homeostasis development
      (max matingOpportunity s.reproduction.matingOpportunity) p
  else
    .ok s.reproduction

/-- `BiochemistryState::advance_with_neural_emission`. -/
def advanceWithNeuralEmission (s : BiochemistryState K) (nextTick nextAge : Tick)
    (event : BodyEventDelta K) (neural : Option (NeuralEmissionFrame K))
    (p : CreaturePhenotype K) : Contract (BiochemistryState K) := do
  s.validateAgainst p
  event.validateContract
  p.brainGenome.contract
  reject (p.sourceGenomeId ≠ s.sourceGenomeId) .invalidId
  let _ ← Tick.validateMonotonic s.tick nextTick
  let _ ← Tick.validateMonotonic s.development.ageTicks nextAge
  let _ ← Tick.validateMonotonic nextAge nextTick
  let x ← s.exertion nextTick event p
  let body := s.body.applyEvent x p
  body.validateContract
  let development ← s.nextDevelopment nextAge p
  let pendingFrame ← s.pendingFrame neural
  let graphState ← s.graphState.advance nextTick body x.event (pendingFrame.or neural)
    p.chemistry.biochemical development.biochemicalExpression
  let homeostasis ← graphState.deriveHomeostasis p.chemistry.biochemical
  let reproduction ← s.nextReproduction nextAge body homeostasis development
    x.event.matingOpportunity p
  let value : BiochemistryState K :=
    { valueProfile := s.valueProfile
      sourceGenomeId := s.sourceGenomeId
      tick := nextTick
      body, homeostasis, graphState
      pendingPredictionResidual := none
      development, reproduction
      cadence := s.cadence }
  value.validateAgainst p
  pure value

end BiochemistryState

end Biology
end ALife
