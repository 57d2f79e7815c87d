/-
# The GPU sleep scheduler

`GpuSleepScheduler` (`crates/alife_runtime/src/sleep_scheduler.rs`).  It owns a
sleep controller and drives its consolidation: on a scheduled tick it evaluates
or advances the controller, asks the driver for progress while the phase is
`Consolidating`, and applies what the driver reports.  The driver is handed the
intent of the active cycle until a report on it was accepted; the scheduler
remembers that in `lastEmittedIntentCycle`, beside the controller's state.

A driver is the reply it gives to the one call a tick makes.  The ticks with an
organism, which also run bounded sleep work, are left out; `handed` is the call
a tick makes, and `scheduledTick_congr` says that a tick reads its driver there
and nowhere else.
-/

import ALife.Sleep.Controller

namespace ALife

open Machine

/-- `SleepWorkDue`: a set of flags. -/
structure SleepWorkDue where
  bits : UInt8
  deriving DecidableEq, Repr

structure SleepSubsystemCadence where
  replayTicks : UInt64
  fastToLifetimeTicks : UInt64
  predictorTicks : UInt64
  conceptGapTicks : UInt64
  structuralGrowthPruningTicks : UInt64
  deriving DecidableEq, Repr

/-- `SleepSubsystemCadence::reference`. -/
def SleepSubsystemCadence.reference : SleepSubsystemCadence := ⟨1, 2, 2, 4, 4⟩

/-- `SleepSubsystemCadence::validate`. -/
def SleepSubsystemCadence.validate (c : SleepSubsystemCadence) : Contract Unit :=
  reject (c.replayTicks = 0 ∨ c.fastToLifetimeTicks = 0 ∨ c.predictorTicks = 0
    ∨ c.conceptGapTicks = 0 ∨ c.structuralGrowthPruningTicks = 0) .scalarOutOfRange

structure SleepPhaseReceipt where
  phase : SleepPhase
  cycleId : UInt64
  tick : Tick
  dueWork : SleepWorkDue
  workUnits : UInt64
  cumulativeWorkUnits : UInt64
  isSealed : Bool
  deriving DecidableEq

structure GpuSleepScheduleEvent where
  tick : Tick
  phase : SleepPhase
  cycleId : UInt64
  transition : Option SleepTransition
  consolidationKindRaw : UInt16
  motorEligible : Bool
  sleepWorkUnits : UInt64
  phaseReceipt : SleepPhaseReceipt
  deriving DecidableEq

structure GpuSleepScheduler where
  controller : SleepController
  cadence : SleepSubsystemCadence
  lastEmittedIntentCycle : Option UInt64
  lastSleepWorkCycle : Option UInt64
  lastSleepWorkTicks : List (Option Tick)
  deriving DecidableEq

/-- A method of the scheduler. -/
abbrev SchedulerM (α : Type) := EStateM ScaffoldContractError GpuSleepScheduler α

/-- What a driver's `progress` replies. -/
abbrev DriverReply :=
  OrganismId → SleepState → Option ConsolidationIntent → Contract (Option ConsolidationDriverEvent)

namespace GpuSleepScheduler

/-- `[None; 5]`. -/
def noSleepWork : List (Option Tick) := List.replicate 5 none

/-- `with_cadence`. -/
def withCadence (config : SleepConsolidationConfig) (cadence : SleepSubsystemCadence) :
    Contract GpuSleepScheduler := do
  cadence.validate
  let controller ← SleepController.new config
  pure ⟨controller, cadence, none, none, noSleepWork⟩

/-- The intent that a restored state counts as emitted. -/
def restoredIntentCycle (state : SleepState) : Option UInt64 :=
  if state.phase = .consolidating ∧ state.consolidation ≠ .none then some state.activeCycleId
  else none

/-- `restore_with_cadence`. -/
def restoreWithCadence (config : SleepConsolidationConfig) (state : SleepState)
    (cadence : SleepSubsystemCadence) : Contract GpuSleepScheduler := do
  cadence.validate
  let controller ← SleepController.restore config state
  pure ⟨controller, cadence, restoredIntentCycle state, none, noSleepWork⟩

/-- `state`. -/
def state (s : GpuSleepScheduler) : SleepState := s.controller.state

/-- A method of the owned controller. -/
def onController {α : Type} : SleepM α → SchedulerM α :=
  focus controller fun s controller => { s with controller }

/-- `force_recovery_sleep`. -/
def forceRecoverySleep (tick : Tick) : SchedulerM SleepTransition :=
  onController (SleepController.forceSleep tick .recoveryProtocol)

/-- `cycle_id`. -/
def cycleId (state : SleepState) : UInt64 :=
  if state.activeCycleId = 0 then state.lastConsolidatedCycleId else state.activeCycleId

/-- `event`. -/
def event (tick : Tick) (transition : Option SleepTransition) (state : SleepState)
    (motorEligible : Bool) (dueWork : SleepWorkDue) (workUnits cumulativeWorkUnits : UInt64)
    (isSealed : Bool) : GpuSleepScheduleEvent where
  tick
  phase := state.phase
  cycleId := cycleId state
  transition
  consolidationKindRaw := state.consolidation.kindRaw
  motorEligible
  sleepWorkUnits := workUnits
  phaseReceipt :=
    ⟨state.phase, cycleId state, tick, dueWork, workUnits, cumulativeWorkUnits, isSealed⟩

/-- The intent that `progress_driver` hands out. -/
def intentDue (s : GpuSleepScheduler) : Option ConsolidationIntent :=
  if s.state.phase = .consolidating ∧ s.state.consolidation = .none
      ∧ s.lastEmittedIntentCycle ≠ some s.state.activeCycleId then
    some ⟨s.state.activeCycleId⟩
  else none

/-- The end of `progress_driver`: the driver's report is applied, and an intent
it was handed counts as emitted once the report was accepted. -/
def applyProgress (intent : Option ConsolidationIntent) :
    Option ConsolidationDriverEvent → SchedulerM Unit
  | none => ofResult (reject (intent.isSome = true) .missingPhaseData)
  | some progress => do
    onController (SleepController.applyConsolidationDriverEvent progress)
    let self ← get
    set { self with
      lastEmittedIntentCycle := intent.elim self.lastEmittedIntentCycle fun i => some i.cycleId }

/-- `progress_driver`. -/
def progressDriver (organismId : OrganismId) (driver : DriverReply) : SchedulerM Unit := do
  let self ← get
  if self.state.phase = .consolidating then
    let progress ← ofResult (driver organismId self.state self.intentDue)
    applyProgress self.intentDue progress
  else pure ()

/-- The end of a tick: an awake creature has no intent emitted and no work done. -/
def resetIfAwake : SchedulerM Unit := do
  let self ← get
  if self.state.phase = .awake then
    set { self with
      lastEmittedIntentCycle := none, lastSleepWorkCycle := none
      lastSleepWorkTicks := noSleepWork }
  else pure ()

/-- The controller call that opens a tick. -/
def tickCall (s : GpuSleepScheduler) (homeostasis : HomeostaticSnapshot)
    (parameters : HomeostaticParameters) (tick : Tick) : SleepCall :=
  if s.state.phase = .awake then .evaluateHomeostasis homeostasis parameters tick
  else .advance tick

/-- `scheduled_tick`. -/
def scheduledTick (organismId : OrganismId) (homeostasis : HomeostaticSnapshot)
    (parameters : HomeostaticParameters) (tick : Tick) (driver : DriverReply) :
    SchedulerM GpuSleepScheduleEvent := do
  let self ← get
  let transition ← onController (self.tickCall homeostasis parameters tick).exec
  progressDriver organismId driver
  resetIfAwake
  let self ← get
  pure (event tick transition self.state (self.state.phase = .awake) ⟨0⟩ 0 0 false)

/-- The state and intent that a tick hands to the driver, if it reaches it. -/
def handed (s : GpuSleepScheduler) (homeostasis : HomeostaticSnapshot)
    (parameters : HomeostaticParameters) (tick : Tick) :
    Option (SleepState × Option ConsolidationIntent) :=
  match onController (s.tickCall homeostasis parameters tick).exec s with
  | .ok _ s' => if s'.state.phase = .consolidating then some (s'.state, s'.intentDue) else none
  | .error _ _ => none

/-- A tick reads its driver at what it hands out and nowhere else. -/
theorem scheduledTick_congr {s : GpuSleepScheduler} {organismId : OrganismId}
    {homeostasis : HomeostaticSnapshot} {parameters : HomeostaticParameters} {tick : Tick}
    {driver driver' : DriverReply}
    (h : ∀ state intent, s.handed homeostasis parameters tick = some (state, intent) →
      driver organismId state intent = driver' organismId state intent) :
    scheduledTick organismId homeostasis parameters tick driver s =
      scheduledTick organismId homeostasis parameters tick driver' s := by
  unfold scheduledTick
  rw [bind_apply, bind_apply, get_apply]
  dsimp only
  rw [bind_apply, bind_apply]
  unfold handed at h
  cases hcall : onController (s.tickCall homeostasis parameters tick).exec s with
  | error e s' => rfl
  | ok transition s' =>
    rw [hcall] at h
    dsimp only at h ⊢
    have hprogress : progressDriver organismId driver s' = progressDriver organismId driver' s' := by
      unfold progressDriver
      rw [bind_apply, bind_apply, get_apply]
      dsimp only
      split_ifs at h ⊢ with hphase
      · rw [h s'.state s'.intentDue rfl]
      · rfl
    rw [bind_apply, bind_apply, hprogress]

/-- A tick that hands its driver a state and an intent asks it: an error the driver has there
is the tick's. -/
theorem scheduledTick_asks {s : GpuSleepScheduler} {organismId : OrganismId}
    {homeostasis : HomeostaticSnapshot} {parameters : HomeostaticParameters} {tick : Tick}
    {driver : DriverReply} {state : SleepState} {intent : Option ConsolidationIntent}
    {e : ScaffoldContractError}
    (h : s.handed homeostasis parameters tick = some (state, intent))
    (hdriver : driver organismId state intent = .error e) :
    ∃ s', scheduledTick organismId homeostasis parameters tick driver s = .error e s' := by
  unfold scheduledTick
  rw [bind_apply, get_apply]
  dsimp only
  rw [bind_apply]
  unfold handed at h
  cases hcall : onController (s.tickCall homeostasis parameters tick).exec s with
  | error e s' =>
    rw [hcall] at h
    cases h
  | ok transition s' =>
    rw [hcall] at h
    dsimp only at h ⊢
    split_ifs at h with hphase
    obtain ⟨rfl, rfl⟩ := Prod.mk.inj (Option.some.inj h)
    have hprogress : progressDriver organismId driver s' = .error e s' := by
      unfold progressDriver
      rw [bind_apply, get_apply]
      dsimp only
      rw [if_pos hphase, hdriver]
      rfl
    rw [bind_apply, hprogress]
    exact ⟨s', rfl⟩

end GpuSleepScheduler

/-- One call of the scheduler, a tick with the reply its driver gives. -/
inductive ScheduleCall where
  | scheduledTick (organismId : OrganismId) (homeostasis : HomeostaticSnapshot)
      (parameters : HomeostaticParameters) (tick : Tick) (driver : DriverReply)
  | forceRecoverySleep (tick : Tick)

namespace GpuSleepScheduler

/-- The scheduler after a call, whatever it returned. -/
def step (s : GpuSleepScheduler) : ScheduleCall → GpuSleepScheduler
  | .scheduledTick organismId homeostasis parameters tick driver =>
    stateAfter (scheduledTick organismId homeostasis parameters tick driver s)
  | .forceRecoverySleep tick => stateAfter (forceRecoverySleep tick s)

end GpuSleepScheduler

end ALife
