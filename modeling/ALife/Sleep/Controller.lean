/-
# The sleep controller

`SleepState` and `SleepController` (`crates/alife_core/src/sleep.rs`).  The
controller walks a creature through `Awake`, `EnteringSleep` or
`ForcedRecoverySleep`, `Consolidating` and `Waking`.  Its four methods share one
assignment, `transitionTo`, which writes the new state and validates it
afterwards; `applyConsolidationDriverEvent` moves the consolidation inside the
`Consolidating` phase.

Each mutating method is its pure decision, a definition of its own
(`nextPhase`, `sleepDecision`, `nextState`, `nextConsolidation`), followed by
the assignment.
-/

import ALife.Core.Chemistry
import ALife.Machine.Mutation
import ALife.Sleep.Contracts

namespace ALife

open Machine

inductive SleepPhase where
  | awake | enteringSleep | consolidating | waking | forcedRecoverySleep
  deriving DecidableEq, Repr

/-- The discriminant of a phase. -/
def SleepPhase.raw : SleepPhase → UInt16
  | .awake => 1
  | .enteringSleep => 2
  | .consolidating => 3
  | .waking => 4
  | .forcedRecoverySleep => 5

inductive SleepTrigger where
  | fatigueThreshold | forcedRequest | recoveryProtocol | seizureHyperactivity
  | catatoniaEnergyHypoplasia | extremeFatigue | unsafeActiveState
  deriving DecidableEq, Repr

structure SleepTransition where
  source : SleepPhase
  target : SleepPhase
  tick : Tick
  trigger : SleepTrigger
  deriving DecidableEq, Repr

structure SleepState where
  schemaVersion : UInt16
  phase : SleepPhase
  phaseStartedTick : Tick
  enteredSleepTick : Option Tick
  cyclesCompleted : UInt32
  lastTrigger : Option SleepTrigger
  activeCycleId : UInt64
  lastConsolidatedCycleId : UInt64
  consolidation : ConsolidationState
  deriving DecidableEq

namespace SleepState

/-- `SleepState::awake_at`. -/
def awakeAt (tick : Tick) : SleepState where
  schemaVersion := SchemaKind.sleepConsolidation.current
  phase := .awake
  phaseStartedTick := tick
  enteredSleepTick := none
  cyclesCompleted := 0
  lastTrigger := none
  activeCycleId := 0
  lastConsolidatedCycleId := 0
  consolidation := .none

/-- The first check on ticks: a recorded entry is not after the phase start. -/
def validateEntered (s : SleepState) : Contract Unit :=
  match s.enteredSleepTick with
  | some entered => reject (s.phaseStartedTick.raw < entered.raw) .nonMonotonicTick
  | none => .ok ()

/-- `SleepState::validate_contract`. -/
def validateContract (s : SleepState) : Contract Unit := do
  requireCurrentVersion .sleepConsolidation s.schemaVersion
  s.validateEntered
  reject (s.cyclesCompleted.toUInt64 < s.lastConsolidatedCycleId
      ∨ (s.phase = .awake ∧ (s.activeCycleId ≠ 0 ∨ s.consolidation ≠ .none))
      ∨ (s.phase ≠ .awake ∧ s.activeCycleId = 0)
      ∨ (¬(s.phase = .consolidating ∨ s.phase = .waking) ∧ s.consolidation ≠ .none)
      ∨ (s.phase = .waking ∧ s.consolidation.isCommitted = false))
    .consolidationGenerationMismatch
  if s.phase = .consolidating ∨ s.phase = .waking then
    s.consolidation.validateForCycle s.activeCycleId
  else
    pure ()

/-- What `validateContract` accepts, field by field. -/
structure Valid (s : SleepState) : Prop where
  version : s.schemaVersion = SchemaKind.sleepConsolidation.current
  entered : ∀ tick, s.enteredSleepTick = some tick → tick.raw ≤ s.phaseStartedTick.raw
  counted : s.lastConsolidatedCycleId.toNat ≤ s.cyclesCompleted.toNat
  awake : s.phase = .awake → s.activeCycleId = 0
  asleep : s.phase ≠ .awake → s.activeCycleId ≠ 0
  idle : s.phase ≠ .consolidating → s.phase ≠ .waking → s.consolidation = .none
  committed : s.phase = .waking → s.consolidation.isCommitted = true
  cycle : s.consolidation.validateForCycle s.activeCycleId = .ok ()

theorem validateContract_eq_ok_iff {s : SleepState} :
    s.validateContract = .ok () ↔ s.Valid := by
  have hcount : ¬s.cyclesCompleted.toUInt64 < s.lastConsolidatedCycleId ↔
      s.lastConsolidatedCycleId.toNat ≤ s.cyclesCompleted.toNat := by
    rw [UInt64.not_lt, UInt64.le_iff_toNat_le, UInt32.toNat_toUInt64]
  unfold validateContract
  constructor
  · intro h
    simp only [contract_seq_eq_ok_iff, requireCurrentVersion_eq_ok_iff, reject_eq_ok_iff] at h
    obtain ⟨hv, he, hr, hc⟩ := h
    push Not at hr
    obtain ⟨hcnt, haw, has, hidle, hwk⟩ := hr
    refine ⟨hv, ?_, hcount.1 (by simpa using hcnt), fun hp => (haw hp).1, has, ?_, ?_, ?_⟩
    · intro t ht
      simpa [validateEntered, ht] using he
    · intro h₁ h₂
      exact hidle ⟨h₁, h₂⟩
    · intro hp
      simpa using hwk hp
    · split_ifs at hc with hp
      · exact hc
      · push Not at hp
        rw [hidle hp]
        rfl
  · intro h
    simp only [contract_seq_eq_ok_iff, requireCurrentVersion_eq_ok_iff, reject_eq_ok_iff]
    refine ⟨h.version, ?_, ?_, ?_⟩
    · cases he : s.enteredSleepTick with
      | none => simp [validateEntered, he]
      | some t => simpa [validateEntered, he] using h.entered t he
    · push Not
      refine ⟨by simpa using hcount.2 h.counted, fun hp => ⟨h.awake hp, ?_⟩, h.asleep,
        fun hp => h.idle hp.1 hp.2, fun hp => by simp [h.committed hp]⟩
      exact h.idle (by simp [hp]) (by simp [hp])
    · split_ifs
      · exact h.cycle
      · rfl

end SleepState

structure SleepConsolidationConfig where
  schemaVersion : UInt16
  fatigueThreshold : F32
  sleepPressureThreshold : F32
  enteringDuration : DurationTicks
  wakingDuration : DurationTicks
  forcedRecoveryMinDuration : DurationTicks
  memoryMaxRecordsAfter : ℕ
  conceptSimplexConsolidationLimit : ℕ
  deriving DecidableEq, Repr

/-- `SleepConsolidationConfig::reference`: thresholds 0.9 and 0.85. -/
def SleepConsolidationConfig.reference : SleepConsolidationConfig where
  schemaVersion := SchemaKind.sleepConsolidation.current
  fatigueThreshold := ⟨0x3f666666⟩
  sleepPressureThreshold := ⟨0x3f59999a⟩
  enteringDuration := ⟨3⟩
  wakingDuration := ⟨3⟩
  forcedRecoveryMinDuration := ⟨8⟩
  memoryMaxRecordsAfter := 64
  conceptSimplexConsolidationLimit := 64

/-- `SleepConsolidationConfig::validate_contract`. -/
def SleepConsolidationConfig.validateContract (c : SleepConsolidationConfig) : Contract Unit := do
  requireCurrentVersion .sleepConsolidation c.schemaVersion
  normalizedScalar c.fatigueThreshold
  normalizedScalar c.sleepPressureThreshold
  reject (c.enteringDuration.raw = 0 ∨ c.wakingDuration.raw = 0
      ∨ c.forcedRecoveryMinDuration.raw = 0 ∨ c.memoryMaxRecordsAfter = 0
      ∨ c.conceptSimplexConsolidationLimit = 0)
    .scalarOutOfRange

structure SleepController where
  config : SleepConsolidationConfig
  state : SleepState
  deriving DecidableEq

/-- A method of the controller. -/
abbrev SleepM (α : Type) := EStateM ScaffoldContractError SleepController α

namespace SleepController

/-- `SleepController::new`. -/
def new (config : SleepConsolidationConfig) : Contract SleepController := do
  config.validateContract
  pure ⟨config, .awakeAt .zero⟩

/-- `SleepController::restore`. -/
def restore (config : SleepConsolidationConfig) (state : SleepState) :
    Contract SleepController := do
  config.validateContract
  state.validateContract
  pure ⟨config, state⟩

theorem new_eq_ok_iff {config : SleepConsolidationConfig} {c : SleepController} :
    new config = .ok c ↔ config.validateContract = .ok () ∧ c = ⟨config, .awakeAt .zero⟩ := by
  unfold new
  cases config.validateContract <;> simp [bind, Except.bind, pure, Except.pure, eq_comm]

theorem restore_eq_ok_iff {config : SleepConsolidationConfig} {state : SleepState}
    {c : SleepController} :
    restore config state = .ok c ↔
      config.validateContract = .ok () ∧ state.Valid ∧ c = ⟨config, state⟩ := by
  rw [← SleepState.validateContract_eq_ok_iff]
  unfold restore
  cases config.validateContract <;> cases state.validateContract <;>
    simp [bind, Except.bind, pure, Except.pure, eq_comm]

/-- The state that `transition_to` assigns. -/
def nextState (s : SleepState) (phase : SleepPhase) (tick : Tick) (trigger : SleepTrigger) :
    Contract SleepState := do
  let enteredSleepTick :=
    match s.phase, phase, s.enteredSleepTick with
    | .awake, .awake, _ => none
    | .awake, _, _ => some tick
    | _, .awake, _ => none
    | _, _, existing => existing
  let cyclesCompleted :=
    if phase = .awake ∧ s.phase ≠ .awake then saturatingAdd32 s.cyclesCompleted 1
    else s.cyclesCompleted
  let (activeCycleId, lastConsolidatedCycleId, consolidation) ←
    match s.phase, phase with
    | .awake, .awake => pure (0, s.lastConsolidatedCycleId, .none)
    | .awake, _ =>
      match checkedAdd64 s.lastConsolidatedCycleId 1 with
      | some next => pure (next, s.lastConsolidatedCycleId, .none)
      | none => .error .invalidId
    | _, .awake =>
      if s.consolidation.isCommitted then pure (0, s.activeCycleId, .none)
      else .error .consolidationGenerationMismatch
    | _, .consolidating => pure (s.activeCycleId, s.lastConsolidatedCycleId, s.consolidation)
    | _, .waking => pure (s.activeCycleId, s.lastConsolidatedCycleId, s.consolidation)
    | _, _ => pure (s.activeCycleId, s.lastConsolidatedCycleId, .none)
  pure
    { schemaVersion := SchemaKind.sleepConsolidation.current
      phase, phaseStartedTick := tick, enteredSleepTick, cyclesCompleted
      lastTrigger := some trigger, activeCycleId, lastConsolidatedCycleId, consolidation }

/-- `transition_to`: the new state is assigned first and validated after. -/
def transitionTo (phase : SleepPhase) (tick : Tick) (trigger : SleepTrigger) :
    SleepM SleepTransition := do
  let self ← get
  let next ← ofResult (nextState self.state phase tick trigger)
  set { self with state := next }
  ofResult next.validateContract
  pure ⟨self.state.phase, phase, tick, trigger⟩

/-- The phase and trigger that a homeostatic snapshot calls for. -/
def sleepDecision (config : SleepConsolidationConfig) (homeostasis : HomeostaticSnapshot)
    (recovery : RecoveryAssessment) : Option (SleepPhase × SleepTrigger) :=
  if recovery.seizureHyperactivity then some (.forcedRecoverySleep, .seizureHyperactivity)
  else if recovery.catatoniaEnergyHypoplasia then
    some (.forcedRecoverySleep, .catatoniaEnergyHypoplasia)
  else if F32.le config.fatigueThreshold homeostasis.drives.fatigue
      || F32.le config.sleepPressureThreshold homeostasis.hormones.sleepPressure then
    some (.enteringSleep, .fatigueThreshold)
  else none

/-- `evaluate_homeostasis`. -/
def evaluateHomeostasis (homeostasis : HomeostaticSnapshot) (parameters : HomeostaticParameters)
    (tick : Tick) : SleepM (Option SleepTransition) := do
  ofResult homeostasis.validateContract
  ofResult parameters.validateContract
  let self ← get
  let _ ← ofResult (Tick.validateMonotonic self.state.phaseStartedTick tick)
  if self.state.phase ≠ .awake then
    return none
  let recovery ← ofResult (recoveryTriggers homeostasis parameters)
  match sleepDecision self.config homeostasis recovery with
  | some (phase, trigger) => some <$> transitionTo phase tick trigger
  | none => return none

/-- The trigger that `force_sleep` records: a fatigue threshold counts as a
forced request. -/
def forcedTrigger : SleepTrigger → SleepTrigger
  | .fatigueThreshold => .forcedRequest
  | trigger => trigger

/-- `force_sleep`. -/
def forceSleep (tick : Tick) (trigger : SleepTrigger) : SleepM SleepTransition := do
  let self ← get
  let _ ← ofResult (Tick.validateMonotonic self.state.phaseStartedTick tick)
  transitionTo .forcedRecoverySleep tick (forcedTrigger trigger)

/-- The time in the phase, cut at `u32::MAX`. -/
def elapsed (s : SleepState) (tick : Tick) : ℕ :=
  min (tick.raw.toNat - s.phaseStartedTick.raw.toNat) (2 ^ 32 - 1)

/-- The phase that `advance` moves to, if it moves. -/
def nextPhase (config : SleepConsolidationConfig) (s : SleepState) (tick : Tick) :
    Option SleepPhase :=
  match s.phase with
  | .awake => none
  | .enteringSleep =>
    if config.enteringDuration.raw.toNat ≤ elapsed s tick then some .consolidating else none
  | .consolidating => if s.consolidation.isCommitted then some .waking else none
  | .waking => if config.wakingDuration.raw.toNat ≤ elapsed s tick then some .awake else none
  | .forcedRecoverySleep =>
    if config.forcedRecoveryMinDuration.raw.toNat ≤ elapsed s tick then some .consolidating
    else none

/-- `advance`. -/
def advance (tick : Tick) : SleepM (Option SleepTransition) := do
  let self ← get
  let _ ← ofResult (Tick.validateMonotonic self.state.phaseStartedTick tick)
  match nextPhase self.config self.state tick with
  | none => return none
  | some phase =>
    some <$> transitionTo phase tick (self.state.lastTrigger.getD .recoveryProtocol)

/-- The progress that an accepted driver event leads to. -/
def nextConsolidation (current : ConsolidationState) (activeCycleId : UInt64)
    (event : ConsolidationDriverEvent) : Contract ConsolidationState :=
  match current, event with
  | .none, .replayAssetPersisted intent replayDigest eventCount sampleCount =>
    if intent.cycleId = activeCycleId then
      .ok (.pending intent replayDigest eventCount sampleCount)
    else .error .consolidationGenerationMismatch
  | .pending intent replayDigest eventCount sampleCount, .prepared request =>
    if request.cycleId = intent.cycleId ∧ request.replayDigest = replayDigest
        ∧ eventCount ≤ request.maxReplayEvents
        ∧ sampleCount ≤ request.maxReplayEligibilitySamples then do
      request.validateContract
      pure (.prepared request)
    else .error .consolidationGenerationMismatch
  | .prepared expected, .submitted request jobId =>
    if request = expected then .ok (.submitted request jobId)
    else .error .consolidationGenerationMismatch
  | .submitted expected expectedLostJob, .recoveredSubmitted request lostJobId recoveredJobId =>
    if request = expected ∧ lostJobId = expectedLostJob ∧ recoveredJobId ≠ lostJobId then
      .ok (.submitted request recoveredJobId)
    else .error .consolidationGenerationMismatch
  | .submitted expected jobId, .completed request staged =>
    if request = expected ∧ staged.jobId = jobId then do
      staged.validateAgainst request 1 1
      pure (.completed request staged)
    else .error .consolidationGenerationMismatch
  | .completed request staged, .committed cycleId outputGeneration outputDigest =>
    if cycleId = request.cycleId ∧ outputGeneration = staged.outputGeneration
        ∧ outputDigest = staged.outputDigest then
      .ok (.committed cycleId outputGeneration outputDigest)
    else .error .consolidationGenerationMismatch
  | _, _ => .error .consolidationGenerationMismatch

/-- `apply_consolidation_driver_event`: the progress is validated for the cycle
before it is assigned, the whole state after. -/
def applyConsolidationDriverEvent (event : ConsolidationDriverEvent) : SleepM Unit := do
  let self ← get
  ofResult (reject (self.state.phase ≠ .consolidating ∨ self.state.activeCycleId = 0)
    .consolidationGenerationMismatch)
  let next ← ofResult (nextConsolidation self.state.consolidation self.state.activeCycleId event)
  ofResult (next.validateForCycle self.state.activeCycleId)
  let state := { self.state with consolidation := next }
  set { self with state }
  ofResult state.validateContract

end SleepController

/-- One call of a mutating method. -/
inductive SleepCall where
  | evaluateHomeostasis (homeostasis : HomeostaticSnapshot) (parameters : HomeostaticParameters)
      (tick : Tick)
  | forceSleep (tick : Tick) (trigger : SleepTrigger)
  | advance (tick : Tick)
  | applyConsolidationDriverEvent (event : ConsolidationDriverEvent)

/-- The call run on a controller; the transition it reports, if any. -/
def SleepCall.exec : SleepCall → SleepM (Option SleepTransition)
  | .evaluateHomeostasis h p tick => SleepController.evaluateHomeostasis h p tick
  | .forceSleep tick trigger => some <$> SleepController.forceSleep tick trigger
  | .advance tick => SleepController.advance tick
  | .applyConsolidationDriverEvent event =>
    (fun _ => none) <$> SleepController.applyConsolidationDriverEvent event

/-- The controller after a call, whatever it returned. -/
def SleepController.step (c : SleepController) (call : SleepCall) : SleepController :=
  stateAfter (call.exec c)

end ALife
