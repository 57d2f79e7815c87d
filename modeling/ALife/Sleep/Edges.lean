/-
# What one call of the sleep controller can do

`SleepEdge config s call t` lists the assignments a controller makes to its
state, guards included: fall asleep, be forced, start consolidating, start
waking, wake, and progress the consolidation.  `exec_assigns` is the inversion
of all four methods at once: a call leaves the controller alone or assigns the
target of an edge, and then it succeeds exactly when that target passes its
contract.  `SleepEdge.exec` is the converse, every edge is taken.  Every edge
out of a valid state but `wake` leads to a valid state (`SleepEdge.valid_iff`);
waking does when the active cycle id fits the count it is about to become.
-/

import ALife.Machine.Integers
import ALife.Machine.Runs
import ALife.Sleep.Controller

namespace ALife

open Machine

namespace SleepState

/-- An awake creature asleep, in the cycle `id`. -/
def fallenAsleep (s : SleepState) (phase : SleepPhase) (tick : Tick) (trigger : SleepTrigger)
    (id : UInt64) : SleepState :=
  { s with
    schemaVersion := SchemaKind.sleepConsolidation.current, phase, phaseStartedTick := tick
    enteredSleepTick := some tick, lastTrigger := some trigger, activeCycleId := id
    consolidation := .none }

/-- A sleeping creature thrown back into forced recovery, its consolidation dropped. -/
def forced (s : SleepState) (tick : Tick) (trigger : SleepTrigger) : SleepState :=
  { s with
    schemaVersion := SchemaKind.sleepConsolidation.current, phase := .forcedRecoverySleep
    phaseStartedTick := tick, lastTrigger := some trigger, consolidation := .none }

/-- A sleeping creature in its next phase, within the cycle. -/
def movedTo (s : SleepState) (phase : SleepPhase) (tick : Tick) : SleepState :=
  { s with
    schemaVersion := SchemaKind.sleepConsolidation.current, phase, phaseStartedTick := tick
    lastTrigger := some (s.lastTrigger.getD .recoveryProtocol) }

/-- A sleeping creature awake, its cycle counted. -/
def woken (s : SleepState) (tick : Tick) : SleepState where
  schemaVersion := SchemaKind.sleepConsolidation.current
  phase := .awake
  phaseStartedTick := tick
  enteredSleepTick := none
  cyclesCompleted := saturatingAdd32 s.cyclesCompleted 1
  lastTrigger := some (s.lastTrigger.getD .recoveryProtocol)
  activeCycleId := 0
  lastConsolidatedCycleId := s.activeCycleId
  consolidation := .none

end SleepState

/-- A sleep is due to consolidate: its entering or forced phase has run its time. -/
def ConsolidationDue (config : SleepConsolidationConfig) (s : SleepState) (tick : Tick) : Prop :=
  (s.phase = .enteringSleep ∧
      config.enteringDuration.raw.toNat ≤ SleepController.elapsed s tick) ∨
    (s.phase = .forcedRecoverySleep ∧
      config.forcedRecoveryMinDuration.raw.toNat ≤ SleepController.elapsed s tick)

/-- The assignments the controller makes, by source state and call. -/
inductive SleepEdge (config : SleepConsolidationConfig) (s : SleepState) :
    SleepCall → SleepState → Prop where
  | drowse (h : HomeostaticSnapshot) (p : HomeostaticParameters) (tick : Tick)
      (r : RecoveryAssessment) (phase : SleepPhase) (trigger : SleepTrigger) (id : UInt64)
      (hphase : s.phase = .awake) (htick : s.phaseStartedTick.raw ≤ tick.raw)
      (hh : h.validateContract = .ok ()) (hp : p.validateContract = .ok ())
      (hr : recoveryTriggers h p = .ok r)
      (hd : SleepController.sleepDecision config h r = some (phase, trigger))
      (hid : checkedAdd64 s.lastConsolidatedCycleId 1 = some id) :
      SleepEdge config s (.evaluateHomeostasis h p tick) (s.fallenAsleep phase tick trigger id)
  | forceAwake (tick : Tick) (trigger : SleepTrigger) (id : UInt64)
      (hphase : s.phase = .awake) (htick : s.phaseStartedTick.raw ≤ tick.raw)
      (hid : checkedAdd64 s.lastConsolidatedCycleId 1 = some id) :
      SleepEdge config s (.forceSleep tick trigger)
        (s.fallenAsleep .forcedRecoverySleep tick (SleepController.forcedTrigger trigger) id)
  | forceAsleep (tick : Tick) (trigger : SleepTrigger) (hphase : s.phase ≠ .awake)
      (htick : s.phaseStartedTick.raw ≤ tick.raw) :
      SleepEdge config s (.forceSleep tick trigger)
        (s.forced tick (SleepController.forcedTrigger trigger))
  | consolidate (tick : Tick) (htick : s.phaseStartedTick.raw ≤ tick.raw)
      (hdue : ConsolidationDue config s tick) :
      SleepEdge config s (.advance tick) (s.movedTo .consolidating tick)
  | startWaking (tick : Tick) (htick : s.phaseStartedTick.raw ≤ tick.raw)
      (hphase : s.phase = .consolidating) (hcommitted : s.consolidation.isCommitted = true) :
      SleepEdge config s (.advance tick) (s.movedTo .waking tick)
  | wake (tick : Tick) (htick : s.phaseStartedTick.raw ≤ tick.raw) (hphase : s.phase = .waking)
      (hdue : config.wakingDuration.raw.toNat ≤ SleepController.elapsed s tick)
      (hcommitted : s.consolidation.isCommitted = true) :
      SleepEdge config s (.advance tick) (s.woken tick)
  | progress (event : ConsolidationDriverEvent) (next : ConsolidationState)
      (hphase : s.phase = .consolidating) (hactive : s.activeCycleId ≠ 0)
      (hnext : SleepController.nextConsolidation s.consolidation s.activeCycleId event = .ok next)
      (hcycle : next.validateForCycle s.activeCycleId = .ok ()) :
      SleepEdge config s (.applyConsolidationDriverEvent event) { s with consolidation := next }

/-- The call leaves `t`, which it assigned and then validated. -/
def Assigns {α : Type} (c : SleepController) (t : SleepState)
    (r : EStateM.Result ScaffoldContractError SleepController α) : Prop :=
  stateAfter r = { c with state := t } ∧ (isOk r = true ↔ t.Valid)

theorem Assigns.map {α β : Type} {c : SleepController} {t : SleepState} {x : SleepM α}
    (f : α → β) (h : Assigns c t (x c)) : Assigns c t ((f <$> x) c) := by
  unfold Assigns at h ⊢
  rwa [stateAfter_map, isOk_map]

namespace SleepController

/-! ### The assignment -/

theorem transitionTo_of_error {c : SleepController} {phase : SleepPhase} {tick : Tick}
    {trigger : SleepTrigger} {e : ScaffoldContractError}
    (h : nextState c.state phase tick trigger = .error e) :
    transitionTo phase tick trigger c = .error e c := by
  unfold transitionTo
  rw [bind_apply, get_apply]
  dsimp only
  rw [bind_apply, h, ofResult_error]

theorem transitionTo_assigns {c : SleepController} {phase : SleepPhase} {tick : Tick}
    {trigger : SleepTrigger} {t : SleepState}
    (h : nextState c.state phase tick trigger = .ok t) :
    Assigns c t (transitionTo phase tick trigger c) := by
  unfold transitionTo
  rw [bind_apply, get_apply]
  dsimp only
  rw [bind_apply, h, ofResult_ok]
  dsimp only
  rw [bind_apply, set_apply]
  dsimp only
  rw [bind_apply, Assigns, ← SleepState.validateContract_eq_ok_iff]
  cases hv : t.validateContract <;> simp [ofResult, pure_apply]

theorem nextState_awake {s : SleepState} {phase : SleepPhase} (tick : Tick)
    (trigger : SleepTrigger) (hs : s.phase = .awake) (hp : phase ≠ .awake) :
    nextState s phase tick trigger =
      match checkedAdd64 s.lastConsolidatedCycleId 1 with
      | some id => .ok (s.fallenAsleep phase tick trigger id)
      | none => .error .invalidId := by
  unfold nextState
  cases phase <;>
    first
    | exact absurd rfl hp
    | (rw [hs]; cases checkedAdd64 s.lastConsolidatedCycleId 1 <;> rfl)

theorem nextState_forced {s : SleepState} (tick : Tick) (trigger : SleepTrigger)
    (hs : s.phase ≠ .awake) :
    nextState s .forcedRecoverySleep tick trigger = .ok (s.forced tick trigger) := by
  unfold nextState
  cases hp : s.phase <;> first | exact absurd hp hs | rfl

theorem nextState_movedTo {s : SleepState} {phase : SleepPhase} (tick : Tick)
    (hs : s.phase ≠ .awake) (hphase : phase = .consolidating ∨ phase = .waking) :
    nextState s phase tick (s.lastTrigger.getD .recoveryProtocol) = .ok (s.movedTo phase tick) := by
  unfold nextState
  rcases hphase with rfl | rfl <;>
    cases hp : s.phase <;> first | exact absurd hp hs | rfl

theorem nextState_wake {s : SleepState} (tick : Tick) (hs : s.phase ≠ .awake) :
    nextState s .awake tick (s.lastTrigger.getD .recoveryProtocol) =
      if s.consolidation.isCommitted then .ok (s.woken tick)
      else .error .consolidationGenerationMismatch := by
  unfold nextState
  cases hp : s.phase <;>
    first | exact absurd hp hs | (cases s.consolidation.isCommitted <;> rfl)

theorem sleepDecision_cases {config : SleepConsolidationConfig} {h : HomeostaticSnapshot}
    {r : RecoveryAssessment} {phase : SleepPhase} {trigger : SleepTrigger}
    (hd : sleepDecision config h r = some (phase, trigger)) :
    (phase = .enteringSleep ∧ trigger = .fatigueThreshold) ∨
      (phase = .forcedRecoverySleep ∧ trigger ≠ .fatigueThreshold) := by
  unfold sleepDecision at hd
  split_ifs at hd <;> cases hd <;> simp

theorem sleepDecision_ne_awake {config : SleepConsolidationConfig} {h : HomeostaticSnapshot}
    {r : RecoveryAssessment} {phase : SleepPhase} {trigger : SleepTrigger}
    (hd : sleepDecision config h r = some (phase, trigger)) : phase ≠ .awake := by
  rcases sleepDecision_cases hd with ⟨rfl, -⟩ | ⟨rfl, -⟩ <;> decide

/-- The recorded trigger of a forced sleep is never a fatigue threshold. -/
theorem forcedTrigger_ne_fatigue (trigger : SleepTrigger) :
    forcedTrigger trigger ≠ .fatigueThreshold := by
  cases trigger <;> decide

/-! ### The guards of each method -/

/-- An evaluation decides on an awake creature within its tick and parameters,
and otherwise leaves the controller alone. -/
theorem evaluateHomeostasis_cases (c : SleepController) (h : HomeostaticSnapshot)
    (p : HomeostaticParameters) (tick : Tick) :
    stateAfter (evaluateHomeostasis h p tick c) = c ∨
      ∃ r phase trigger, c.state.phase = .awake ∧ c.state.phaseStartedTick.raw ≤ tick.raw ∧
        h.validateContract = .ok () ∧ p.validateContract = .ok () ∧
        recoveryTriggers h p = .ok r ∧ sleepDecision c.config h r = some (phase, trigger) := by
  unfold evaluateHomeostasis
  rw [bind_apply]
  cases hh : h.validateContract with
  | error e => exact .inl rfl
  | ok _ =>
  rw [ofResult_ok]
  dsimp only
  rw [bind_apply]
  cases hp : p.validateContract with
  | error e => exact .inl rfl
  | ok _ =>
  rw [ofResult_ok]
  dsimp only
  rw [bind_apply, get_apply]
  dsimp only
  rw [bind_apply]
  cases ht : Tick.validateMonotonic c.state.phaseStartedTick tick with
  | error e => exact .inl rfl
  | ok t =>
  rw [ofResult_ok]
  dsimp only
  split_ifs with hphase
  · exact .inl rfl
  rw [bind_apply]
  cases hr : recoveryTriggers h p with
  | error e => exact .inl rfl
  | ok r =>
  rw [ofResult_ok]
  dsimp only
  cases hd : sleepDecision c.config h r with
  | none => exact .inl rfl
  | some decision =>
    exact .inr ⟨r, decision.1, decision.2, not_not.1 hphase,
      (Tick.validateMonotonic_eq_ok_iff.1 ht).1, rfl, rfl, rfl, hd⟩

theorem evaluateHomeostasis_eq {c : SleepController} {h : HomeostaticSnapshot}
    {p : HomeostaticParameters} {tick : Tick} {r : RecoveryAssessment} {phase : SleepPhase}
    {trigger : SleepTrigger} (hphase : c.state.phase = .awake)
    (htick : c.state.phaseStartedTick.raw ≤ tick.raw) (hh : h.validateContract = .ok ())
    (hp : p.validateContract = .ok ()) (hr : recoveryTriggers h p = .ok r)
    (hd : sleepDecision c.config h r = some (phase, trigger)) :
    evaluateHomeostasis h p tick c = (some <$> transitionTo phase tick trigger) c := by
  have ht := Tick.validateMonotonic_eq_ok_iff.2 ⟨htick, rfl⟩
  simp [evaluateHomeostasis, bind_apply, get_apply, hh, hp, ht, ofResult_ok, hphase, hr, hd]

theorem forceSleep_eq {c : SleepController} {tick : Tick} (trigger : SleepTrigger)
    (htick : c.state.phaseStartedTick.raw ≤ tick.raw) :
    forceSleep tick trigger c =
      transitionTo .forcedRecoverySleep tick (forcedTrigger trigger) c := by
  have ht := Tick.validateMonotonic_eq_ok_iff.2 ⟨htick, rfl⟩
  simp [forceSleep, bind_apply, get_apply, ht, ofResult_ok]

theorem forceSleep_of_lt {c : SleepController} {tick : Tick} (trigger : SleepTrigger)
    (htick : ¬c.state.phaseStartedTick.raw ≤ tick.raw) :
    forceSleep tick trigger c = .error .nonMonotonicTick c := by
  simp [forceSleep, bind_apply, get_apply, Tick.validateMonotonic, htick, ofResult_error]

theorem advance_eq {c : SleepController} {tick : Tick} {phase : SleepPhase}
    (htick : c.state.phaseStartedTick.raw ≤ tick.raw)
    (hnext : nextPhase c.config c.state tick = some phase) :
    advance tick c =
      (some <$> transitionTo phase tick (c.state.lastTrigger.getD .recoveryProtocol)) c := by
  have ht := Tick.validateMonotonic_eq_ok_iff.2 ⟨htick, rfl⟩
  simp [advance, bind_apply, get_apply, ht, ofResult_ok, hnext]

theorem advance_of_not {c : SleepController} {tick : Tick}
    (h : c.state.phaseStartedTick.raw ≤ tick.raw → nextPhase c.config c.state tick = none) :
    stateAfter (advance tick c) = c := by
  by_cases htick : c.state.phaseStartedTick.raw ≤ tick.raw
  · have ht := Tick.validateMonotonic_eq_ok_iff.2 ⟨htick, rfl⟩
    simp [advance, bind_apply, get_apply, ht, ofResult_ok, h htick, pure_apply]
  · simp [advance, bind_apply, get_apply, Tick.validateMonotonic, htick, ofResult_error]

/-- A driver event is refused before anything is assigned, or progresses the
consolidation of the active cycle. -/
theorem applyConsolidationDriverEvent_cases (c : SleepController)
    (event : ConsolidationDriverEvent) :
    (∃ e, applyConsolidationDriverEvent event c = .error e c) ∨
      ∃ next, c.state.phase = .consolidating ∧ c.state.activeCycleId ≠ 0 ∧
        nextConsolidation c.state.consolidation c.state.activeCycleId event = .ok next ∧
        next.validateForCycle c.state.activeCycleId = .ok () := by
  unfold applyConsolidationDriverEvent
  rw [bind_apply, get_apply]
  dsimp only
  rw [bind_apply]
  cases hg : reject (c.state.phase ≠ .consolidating ∨ c.state.activeCycleId = 0)
    .consolidationGenerationMismatch with
  | error e => exact .inl ⟨e, rfl⟩
  | ok _ =>
  rw [ofResult_ok]
  dsimp only
  rw [bind_apply]
  cases hn : nextConsolidation c.state.consolidation c.state.activeCycleId event with
  | error e => exact .inl ⟨e, rfl⟩
  | ok next =>
  rw [ofResult_ok]
  dsimp only
  rw [bind_apply]
  cases hc : next.validateForCycle c.state.activeCycleId with
  | error e => exact .inl ⟨e, rfl⟩
  | ok _ =>
    rw [reject_eq_ok_iff] at hg
    push Not at hg
    exact .inr ⟨next, hg.1, hg.2, rfl, hc⟩

theorem applyConsolidationDriverEvent_assigns {c : SleepController}
    {event : ConsolidationDriverEvent} {next : ConsolidationState}
    (hphase : c.state.phase = .consolidating) (hactive : c.state.activeCycleId ≠ 0)
    (hnext : nextConsolidation c.state.consolidation c.state.activeCycleId event = .ok next)
    (hcycle : next.validateForCycle c.state.activeCycleId = .ok ()) :
    Assigns c { c.state with consolidation := next } (applyConsolidationDriverEvent event c) := by
  have hg : reject (c.state.phase ≠ .consolidating ∨ c.state.activeCycleId = 0)
      .consolidationGenerationMismatch = .ok () := by
    rw [reject_eq_ok_iff]
    simp [hphase, hactive]
  unfold applyConsolidationDriverEvent
  simp only [bind_apply, get_apply, hg, hnext, hcycle, ofResult_ok, set_apply]
  rw [Assigns, ← SleepState.validateContract_eq_ok_iff]
  cases ({ c.state with consolidation := next } : SleepState).validateContract <;> simp [ofResult]

/-- A committed consolidation takes no further event. -/
theorem nextConsolidation_open {current next : ConsolidationState} {active : UInt64}
    {event : ConsolidationDriverEvent} (h : nextConsolidation current active event = .ok next) :
    current.isCommitted = false := by
  cases current <;> first | rfl | (cases event <;> cases h)

/-- A `Committed` event leads to the commit it reports. -/
theorem nextConsolidation_committed {current next : ConsolidationState} {active id : UInt64}
    {generation : UInt64} {digest : Digest256}
    (h : nextConsolidation current active (.committed id generation digest) = .ok next) :
    next = .committed id generation digest := by
  cases current with
  | completed request staged =>
    unfold nextConsolidation at h
    dsimp only at h
    split_ifs at h
    exact (Except.ok.inj h).symm
  | _ => cases h

/-- The moves of `advance`. -/
theorem nextPhase_eq_some_iff {config : SleepConsolidationConfig} {s : SleepState} {tick : Tick}
    {phase : SleepPhase} :
    nextPhase config s tick = some phase ↔
      (phase = .consolidating ∧ ConsolidationDue config s tick) ∨
      (phase = .waking ∧ s.phase = .consolidating ∧ s.consolidation.isCommitted = true) ∨
      (phase = .awake ∧ s.phase = .waking ∧
        config.wakingDuration.raw.toNat ≤ elapsed s tick) := by
  unfold nextPhase ConsolidationDue
  cases hp : s.phase <;> simp only [reduceCtorEq, false_and, and_false, or_self, false_or, or_false,
    true_and, Option.ite_none_right_eq_some, Option.some.injEq]
  all_goals exact ⟨fun ⟨h, he⟩ => ⟨he.symm, h⟩, fun ⟨he, h⟩ => ⟨h, he.symm⟩⟩

end SleepController

open SleepController

/-! ### The edges are the calls -/

theorem evaluateHomeostasis_assigns {c : SleepController} {h : HomeostaticSnapshot}
    {p : HomeostaticParameters} {tick : Tick} {r : RecoveryAssessment} {phase : SleepPhase}
    {trigger : SleepTrigger} {id : UInt64} (hphase : c.state.phase = .awake)
    (htick : c.state.phaseStartedTick.raw ≤ tick.raw) (hh : h.validateContract = .ok ())
    (hp : p.validateContract = .ok ()) (hr : recoveryTriggers h p = .ok r)
    (hd : sleepDecision c.config h r = some (phase, trigger))
    (hid : checkedAdd64 c.state.lastConsolidatedCycleId 1 = some id) :
    Assigns c (c.state.fallenAsleep phase tick trigger id)
      ((SleepCall.evaluateHomeostasis h p tick).exec c) := by
  have hnext := nextState_awake tick trigger hphase (sleepDecision_ne_awake hd)
  rw [hid] at hnext
  rw [SleepCall.exec, evaluateHomeostasis_eq hphase htick hh hp hr hd]
  exact (transitionTo_assigns hnext).map some

theorem forceSleep_assigns {c : SleepController} {tick : Tick} {trigger : SleepTrigger}
    {t : SleepState} (htick : c.state.phaseStartedTick.raw ≤ tick.raw)
    (hnext : nextState c.state .forcedRecoverySleep tick (forcedTrigger trigger) = .ok t) :
    Assigns c t ((SleepCall.forceSleep tick trigger).exec c) := by
  refine Assigns.map some ?_
  rw [forceSleep_eq trigger htick]
  exact transitionTo_assigns hnext

theorem advance_assigns {c : SleepController} {tick : Tick} {phase : SleepPhase}
    {t : SleepState} (htick : c.state.phaseStartedTick.raw ≤ tick.raw)
    (hphase : nextPhase c.config c.state tick = some phase)
    (hnext : nextState c.state phase tick (c.state.lastTrigger.getD .recoveryProtocol) = .ok t) :
    Assigns c t ((SleepCall.advance tick).exec c) := by
  rw [SleepCall.exec, advance_eq htick hphase]
  exact (transitionTo_assigns hnext).map some

/-- Every edge is taken: the call assigns its target. -/
theorem SleepEdge.exec {c : SleepController} {call : SleepCall} {t : SleepState}
    (e : SleepEdge c.config c.state call t) : Assigns c t (call.exec c) := by
  cases e with
  | drowse h p tick r phase trigger id hphase htick hh hp hr hd hid =>
    exact evaluateHomeostasis_assigns hphase htick hh hp hr hd hid
  | forceAwake tick trigger id hphase htick hid =>
    refine forceSleep_assigns htick ?_
    rw [nextState_awake tick _ hphase (by decide), hid]
  | forceAsleep tick trigger hphase htick =>
    exact forceSleep_assigns htick (nextState_forced tick _ hphase)
  | consolidate tick htick hdue =>
    refine advance_assigns htick (nextPhase_eq_some_iff.2 (.inl ⟨rfl, hdue⟩))
      (nextState_movedTo tick ?_ (.inl rfl))
    rcases hdue with ⟨hphase, -⟩ | ⟨hphase, -⟩ <;> simp [hphase]
  | startWaking tick htick hphase hcommitted =>
    exact advance_assigns htick (nextPhase_eq_some_iff.2 (.inr (.inl ⟨rfl, hphase, hcommitted⟩)))
      (nextState_movedTo tick (by simp [hphase]) (.inr rfl))
  | wake tick htick hphase hdue hcommitted =>
    refine advance_assigns htick (nextPhase_eq_some_iff.2 (.inr (.inr ⟨rfl, hphase, hdue⟩))) ?_
    rw [nextState_wake tick (by simp [hphase]), if_pos hcommitted]
  | progress event next hphase hactive hnext hcycle =>
    exact (applyConsolidationDriverEvent_assigns hphase hactive hnext hcycle).map _

/-- A call leaves the controller alone or takes one of its edges. -/
theorem step_eq_or_edge (c : SleepController) (call : SleepCall) :
    c.step call = c ∨ ∃ t, SleepEdge c.config c.state call t := by
  cases call with
  | evaluateHomeostasis h p tick =>
    rcases evaluateHomeostasis_cases c h p tick with
      hsame | ⟨r, phase, trigger, hphase, htick, hh, hp, hr, hd⟩
    · exact .inl hsame
    cases hid : checkedAdd64 c.state.lastConsolidatedCycleId 1 with
    | some id => exact .inr ⟨_, .drowse h p tick r phase trigger id hphase htick hh hp hr hd hid⟩
    | none =>
      have hnext := nextState_awake tick trigger hphase (sleepDecision_ne_awake hd)
      rw [hid] at hnext
      refine .inl ?_
      rw [step, SleepCall.exec, evaluateHomeostasis_eq hphase htick hh hp hr hd, stateAfter_map,
        transitionTo_of_error hnext, stateAfter_error]
  | forceSleep tick trigger =>
    by_cases htick : c.state.phaseStartedTick.raw ≤ tick.raw
    swap
    · refine .inl ?_
      rw [step, SleepCall.exec, stateAfter_map, forceSleep_of_lt trigger htick, stateAfter_error]
    by_cases hphase : c.state.phase = .awake
    swap
    · exact .inr ⟨_, .forceAsleep tick trigger hphase htick⟩
    cases hid : checkedAdd64 c.state.lastConsolidatedCycleId 1 with
    | some id => exact .inr ⟨_, .forceAwake tick trigger id hphase htick hid⟩
    | none =>
      have hnext : nextState c.state .forcedRecoverySleep tick (forcedTrigger trigger) = _ :=
        nextState_awake tick _ hphase (by decide)
      rw [hid] at hnext
      refine .inl ?_
      rw [step, SleepCall.exec, stateAfter_map, forceSleep_eq trigger htick,
        transitionTo_of_error hnext, stateAfter_error]
  | advance tick =>
    by_cases htick : c.state.phaseStartedTick.raw ≤ tick.raw
    swap
    · exact .inl (advance_of_not fun h => absurd h htick)
    cases hnext : nextPhase c.config c.state tick with
    | none => exact .inl (advance_of_not fun _ => hnext)
    | some phase =>
    rcases nextPhase_eq_some_iff.1 hnext with
      ⟨rfl, hdue⟩ | ⟨rfl, hphase, hcommitted⟩ | ⟨rfl, hphase, hdue⟩
    · exact .inr ⟨_, .consolidate tick htick hdue⟩
    · exact .inr ⟨_, .startWaking tick htick hphase hcommitted⟩
    · by_cases hcommitted : c.state.consolidation.isCommitted = true
      · exact .inr ⟨_, .wake tick htick hphase hdue hcommitted⟩
      have hstate := nextState_wake tick (s := c.state) (by simp [hphase])
      rw [if_neg hcommitted] at hstate
      refine .inl ?_
      rw [step, SleepCall.exec, advance_eq htick hnext, stateAfter_map,
        transitionTo_of_error hstate, stateAfter_error]
  | applyConsolidationDriverEvent event =>
    rcases applyConsolidationDriverEvent_cases c event with ⟨e, he⟩ | ⟨next, hphase, hactive, hn, hc⟩
    · exact .inl (by rw [step, SleepCall.exec, stateAfter_map, he, stateAfter_error])
    · exact .inr ⟨_, .progress event next hphase hactive hn hc⟩

/-- The controller after a call that takes an edge. -/
theorem SleepEdge.step_eq {c : SleepController} {call : SleepCall} {t : SleepState}
    (e : SleepEdge c.config c.state call t) : c.step call = { c with state := t } :=
  e.exec.1

/-! ### Which edges keep the contract -/

/-- The call wakes a creature whose cycle id is beyond the count it would get. -/
def WakesBeyondCount (c : SleepController) (call : SleepCall) : Prop :=
  ∃ tick, call = .advance tick ∧ c.state.phaseStartedTick.raw ≤ tick.raw ∧
    c.state.phase = .waking ∧ c.config.wakingDuration.raw.toNat ≤ elapsed c.state tick ∧
    (saturatingAdd32 c.state.cyclesCompleted 1).toNat < c.state.activeCycleId.toNat

namespace SleepState

theorem Valid.fallenAsleep {s : SleepState} (hs : s.Valid) {phase : SleepPhase} {tick : Tick}
    {trigger : SleepTrigger} {id : UInt64} (hphase : phase = .enteringSleep
      ∨ phase = .forcedRecoverySleep) (hid : checkedAdd64 s.lastConsolidatedCycleId 1 = some id) :
    (s.fallenAsleep phase tick trigger id).Valid where
  version := rfl
  entered _ h := by cases h; exact UInt64.le_refl _
  counted := hs.counted
  awake h := by
    rcases hphase with rfl | rfl <;> cases h
  asleep _ h := by
    rw [checkedAdd64_eq_some_iff, show id = 0 from h] at hid
    simp at hid
  idle _ _ := rfl
  committed h := by rcases hphase with rfl | rfl <;> cases h
  cycle := rfl

theorem Valid.forced {s : SleepState} (hs : s.Valid) {tick : Tick} (trigger : SleepTrigger)
    (hphase : s.phase ≠ .awake) (htick : s.phaseStartedTick.raw ≤ tick.raw) :
    (s.forced tick trigger).Valid where
  version := rfl
  entered t h := UInt64.le_trans (hs.entered t h) htick
  counted := hs.counted
  awake h := by cases h
  asleep _ := hs.asleep hphase
  idle _ _ := rfl
  committed h := by cases h
  cycle := rfl

theorem Valid.movedTo {s : SleepState} (hs : s.Valid) {phase : SleepPhase} {tick : Tick}
    (hphase : s.phase ≠ .awake) (htick : s.phaseStartedTick.raw ≤ tick.raw)
    (hto : phase = .consolidating ∨ phase = .waking ∧ s.consolidation.isCommitted = true) :
    (s.movedTo phase tick).Valid where
  version := rfl
  entered t h := UInt64.le_trans (hs.entered t h) htick
  counted := hs.counted
  awake h := by rcases hto with rfl | ⟨rfl, -⟩ <;> cases h
  asleep _ := hs.asleep hphase
  idle h₁ h₂ := by rcases hto with rfl | ⟨rfl, -⟩ <;> exact absurd rfl ‹_›
  committed h := by
    rcases hto with rfl | ⟨-, hc⟩
    · cases h
    · exact hc
  cycle := hs.cycle

theorem woken_valid_iff {s : SleepState} {tick : Tick} :
    (s.woken tick).Valid ↔
      s.activeCycleId.toNat ≤ (saturatingAdd32 s.cyclesCompleted 1).toNat := by
  refine ⟨fun h => h.counted, fun h => ⟨rfl, ?_, h, fun _ => rfl, ?_, fun _ _ => rfl, ?_, rfl⟩⟩
  · intro t ht
    cases ht
  · intro h
    exact absurd rfl h
  · intro h
    cases h

theorem Valid.progressed {s : SleepState} (hs : s.Valid) {next : ConsolidationState}
    (hphase : s.phase = .consolidating)
    (hcycle : next.validateForCycle s.activeCycleId = .ok ()) :
    ({ s with consolidation := next } : SleepState).Valid where
  version := hs.version
  entered := hs.entered
  counted := hs.counted
  awake := hs.awake
  asleep := hs.asleep
  idle h _ := absurd hphase h
  committed h := by simp [hphase] at h
  cycle := hcycle

end SleepState

/-- An edge out of a valid state leads to a valid state, unless it wakes beyond
the count. -/
theorem SleepEdge.valid_iff {c : SleepController} {call : SleepCall} {t : SleepState}
    (hs : c.state.Valid) (e : SleepEdge c.config c.state call t) :
    t.Valid ↔ ¬WakesBeyondCount c call := by
  have hkeeps (ht : t.Valid) (hcall : ∀ tick, call = .advance tick → c.state.phase ≠ .waking) :
      t.Valid ↔ ¬WakesBeyondCount c call :=
    iff_of_true ht fun ⟨tick, he, _, hphase, _⟩ => hcall tick he hphase
  cases e with
  | drowse h p tick r phase trigger id hphase htick hh hp hr hd hid =>
    refine hkeeps (hs.fallenAsleep ?_ hid) (by simp)
    rcases sleepDecision_cases hd with ⟨rfl, -⟩ | ⟨rfl, -⟩ <;> simp
  | forceAwake tick trigger id hphase htick hid =>
    exact hkeeps (hs.fallenAsleep (.inr rfl) hid) (by simp)
  | forceAsleep tick trigger hphase htick => exact hkeeps (hs.forced _ hphase htick) (by simp)
  | consolidate tick htick hdue =>
    have hphase : c.state.phase ≠ .awake ∧ c.state.phase ≠ .waking := by
      rcases hdue with ⟨hphase, -⟩ | ⟨hphase, -⟩ <;> simp [hphase]
    exact hkeeps (hs.movedTo hphase.1 htick (.inl rfl)) fun _ _ => hphase.2
  | startWaking tick htick hphase hcommitted =>
    exact hkeeps (hs.movedTo (by simp [hphase]) htick (.inr ⟨rfl, hcommitted⟩))
      fun _ _ => by simp [hphase]
  | wake tick htick hphase hdue hcommitted =>
    rw [SleepState.woken_valid_iff, ← not_lt, not_iff_not]
    constructor
    · exact fun hlt => ⟨tick, rfl, htick, hphase, hdue, hlt⟩
    · rintro ⟨_, -, -, -, -, hlt⟩
      exact hlt
  | progress event next hphase hactive hnext hcycle =>
    exact hkeeps (hs.progressed hphase hcycle) (by simp)

end ALife
