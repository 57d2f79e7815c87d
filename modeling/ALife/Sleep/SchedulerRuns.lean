/-
# Runs of the sleep scheduler

The scheduler and its controller remember the intent of a cycle apart.  They
agree as long as `IntentMemory` holds: a cycle the scheduler counts as emitted
is the active one with its consolidation under way, or one that is past.  Every
call keeps that but a forced recovery sleep of the emitted cycle, which drops
the consolidation and not the memory.  While it holds, what a tick hands to the
driver is read off the controller's state alone (`intentDue_eq`), so a restored
scheduler hands out the same.
-/

import ALife.Sleep.Edges
import ALife.Sleep.Scheduler

namespace ALife

open Machine GpuSleepScheduler

/-- A cycle counted as emitted is the active one, its consolidation under way,
or it is past: not above the last one consolidated. -/
def IntentMemory (emitted : Option UInt64) (s : SleepState) : Prop :=
  ∀ c, emitted = some c →
    ((s.phase = .consolidating ∨ s.phase = .waking) ∧ s.consolidation ≠ .none ∧
      c = s.activeCycleId) ∨
    (c.toNat ≤ s.lastConsolidatedCycleId.toNat ∧
      (s.phase ≠ .awake → s.lastConsolidatedCycleId.toNat < s.activeCycleId.toNat))

/-- A forced sleep, in time, of the cycle that counts as emitted. -/
def ForcesEmitted (s : GpuSleepScheduler) (call : ScheduleCall) : Prop :=
  ∃ tick, call = .forceRecoverySleep tick ∧ s.state.phaseStartedTick.raw ≤ tick.raw ∧
    s.state.phase ≠ .awake ∧ s.lastEmittedIntentCycle = some s.state.activeCycleId

theorem intentMemory_none (s : SleepState) : IntentMemory none s := by
  intro c h
  cases h

theorem SleepController.nextConsolidation_ne_none {current next : ConsolidationState}
    {active : UInt64} {event : ConsolidationDriverEvent}
    (h : nextConsolidation current active event = .ok next) : next ≠ .none := by
  rintro rfl
  unfold nextConsolidation at h
  split at h <;> first | cases h | split_ifs at h
  all_goals
    first
    | (simp only [bind, Except.bind] at h; split at h <;> cases h)
    | cases h

/-! ### The controller's steps -/

/-- Every edge but a forced sleep of the emitted cycle keeps the memory. -/
theorem IntentMemory.edge {emitted : Option UInt64} {config : SleepConsolidationConfig}
    {s t : SleepState} {call : SleepCall} (h : IntentMemory emitted s)
    (hforce : s.phase ≠ .awake → emitted = some s.activeCycleId →
      ∀ tick trigger, call ≠ .forceSleep tick trigger)
    (e : SleepEdge config s call t) : IntentMemory emitted t := by
  intro c hc
  have hmem := h c hc
  cases e with
  | drowse hom p tick r phase trigger id hphase htick hh hp hr hd hid =>
    rw [checkedAdd64_eq_some_iff] at hid
    rcases hmem with ⟨hasleep, -⟩ | ⟨hle, -⟩
    · simp [hphase] at hasleep
    · refine .inr ⟨hle, fun _ => ?_⟩
      simp only [SleepState.fallenAsleep, hid]
      exact Nat.lt_succ_self _
  | forceAwake tick trigger id hphase htick hid =>
    rw [checkedAdd64_eq_some_iff] at hid
    rcases hmem with ⟨hasleep, -⟩ | ⟨hle, -⟩
    · simp [hphase] at hasleep
    · refine .inr ⟨hle, fun _ => ?_⟩
      simp only [SleepState.fallenAsleep, hid]
      exact Nat.lt_succ_self _
  | forceAsleep tick trigger hphase htick =>
    rcases hmem with ⟨-, -, rfl⟩ | ⟨hle, hlt⟩
    · exact absurd rfl (hforce hphase hc tick trigger)
    · exact .inr ⟨hle, fun _ => hlt hphase⟩
  | consolidate tick htick hdue =>
    have hphase : s.phase ≠ .awake := by
      rcases hdue with ⟨hphase, -⟩ | ⟨hphase, -⟩ <;> simp [hphase]
    rcases hmem with ⟨-, hne, hactive⟩ | ⟨hle, hlt⟩
    · exact .inl ⟨.inl rfl, hne, hactive⟩
    · exact .inr ⟨hle, fun _ => hlt hphase⟩
  | startWaking tick htick hphase =>
    rcases hmem with ⟨-, hne, hactive⟩ | ⟨hle, hlt⟩
    · exact .inl ⟨.inr rfl, hne, hactive⟩
    · exact .inr ⟨hle, fun _ => hlt (by simp [hphase])⟩
  | wake tick htick hphase =>
    refine .inr ⟨?_, fun hawake => absurd rfl hawake⟩
    rcases hmem with ⟨-, -, rfl⟩ | ⟨hle, hlt⟩
    · exact le_rfl
    · exact hle.trans (hlt (by simp [hphase])).le
  | progress event next hphase hactive hnext =>
    rcases hmem with ⟨hasleep, -, hc⟩ | hpast
    · exact .inl ⟨hasleep, SleepController.nextConsolidation_ne_none hnext, hc⟩
    · exact .inr hpast

theorem IntentMemory.step {emitted : Option UInt64} {c : SleepController} {call : SleepCall}
    (h : IntentMemory emitted c.state)
    (hforce : c.state.phase ≠ .awake → emitted = some c.state.activeCycleId →
      ∀ tick trigger, call ≠ .forceSleep tick trigger) :
    IntentMemory emitted (c.step call).state := by
  rcases step_eq_or_edge c call with hsame | ⟨t, e⟩
  · rwa [hsame]
  · rw [e.step_eq]
    exact h.edge hforce e

/-! ### The scheduler's steps -/

namespace GpuSleepScheduler

/-- The scheduler's memory agrees with its controller. -/
def Remembers (s : GpuSleepScheduler) : Prop := IntentMemory s.lastEmittedIntentCycle s.state

theorem onController_remembers {s : GpuSleepScheduler} (h : s.Remembers) (call : SleepCall)
    (hforce : s.state.phase ≠ .awake → s.lastEmittedIntentCycle = some s.state.activeCycleId →
      ∀ tick trigger, call ≠ .forceSleep tick trigger) :
    (stateAfter (onController call.exec s)).Remembers := by
  rw [onController, stateAfter_focus]
  exact IntentMemory.step (c := s.controller) h hforce

theorem tickCall_remembers {s : GpuSleepScheduler} (h : s.Remembers)
    (homeostasis : HomeostaticSnapshot) (parameters : HomeostaticParameters) (tick : Tick) :
    (stateAfter (onController (s.tickCall homeostasis parameters tick).exec s)).Remembers := by
  refine onController_remembers h _ fun _ _ tick' trigger => ?_
  unfold tickCall
  split_ifs <;> simp

theorem applyProgress_remembers {s : GpuSleepScheduler} (h : s.Remembers)
    (progress : Option ConsolidationDriverEvent) :
    (stateAfter (applyProgress s.intentDue progress s)).Remembers := by
  cases progress with
  | none =>
    rw [applyProgress]
    cases reject (s.intentDue.isSome = true) .missingPhaseData <;> exact h
  | some progress =>
    rw [applyProgress, bind_apply, onController, focus]
    rcases SleepController.applyConsolidationDriverEvent_cases s.controller progress with
      ⟨e, he⟩ | ⟨next, hphase, hactive, hnext, hcycle⟩
    · rw [he]
      exact h
    have e : SleepEdge s.controller.config s.controller.state _ _ :=
      .progress progress next hphase hactive hnext hcycle
    obtain ⟨hstate, -⟩ :=
      SleepController.applyConsolidationDriverEvent_assigns hphase hactive hnext hcycle
    have hkept : IntentMemory s.lastEmittedIntentCycle
        { s.controller.state with consolidation := next } := h.edge (by simp) e
    cases hr : SleepController.applyConsolidationDriverEvent progress s.controller with
    | error err c =>
      rw [hr, stateAfter_error] at hstate
      subst hstate
      exact hkept
    | ok u c =>
      rw [hr, stateAfter_ok] at hstate
      subst hstate
      cases hintent : s.intentDue with
      | none => exact hkept
      | some intent =>
        -- The report on a handed intent was accepted: its cycle is the active one.
        unfold intentDue at hintent
        split_ifs at hintent
        cases hintent
        intro c hc
        cases hc
        exact .inl ⟨.inl hphase, SleepController.nextConsolidation_ne_none hnext, rfl⟩

theorem progressDriver_remembers {s : GpuSleepScheduler} (h : s.Remembers)
    (organismId : OrganismId) (driver : DriverReply) :
    (stateAfter (progressDriver organismId driver s)).Remembers := by
  unfold progressDriver
  rw [bind_apply, get_apply]
  dsimp only
  split_ifs with hphase
  · rw [bind_apply]
    cases driver organismId s.state s.intentDue with
    | error e => exact h
    | ok progress => exact applyProgress_remembers h progress
  · exact h

theorem scheduledTick_remembers {s : GpuSleepScheduler} (h : s.Remembers)
    (organismId : OrganismId) (homeostasis : HomeostaticSnapshot)
    (parameters : HomeostaticParameters) (tick : Tick) (driver : DriverReply) :
    (stateAfter (scheduledTick organismId homeostasis parameters tick driver s)).Remembers := by
  unfold scheduledTick
  rw [bind_apply, get_apply]
  dsimp only
  refine stateAfter_bind_of (tickCall_remembers h homeostasis parameters tick)
    fun transition s₁ _ h₁ => ?_
  refine stateAfter_bind_of (progressDriver_remembers h₁ organismId driver) fun _ s₂ _ h₂ => ?_
  refine stateAfter_bind_of ?_ fun _ s₃ _ h₃ => h₃
  unfold resetIfAwake
  rw [bind_apply, get_apply]
  dsimp only
  split_ifs
  · exact intentMemory_none _
  · exact h₂

/-- Every call but a forced sleep of the emitted cycle keeps the memory. -/
theorem Remembers.step {s : GpuSleepScheduler} {call : ScheduleCall} (h : s.Remembers)
    (hforce : ¬ForcesEmitted s call) : (s.step call).Remembers := by
  cases call with
  | scheduledTick organismId homeostasis parameters tick driver =>
    exact scheduledTick_remembers h organismId homeostasis parameters tick driver
  | forceRecoverySleep tick =>
    rw [GpuSleepScheduler.step, forceRecoverySleep, onController, stateAfter_focus]
    by_cases htick : s.controller.state.phaseStartedTick.raw ≤ tick.raw
    · let sleepCall : SleepCall := .forceSleep tick .recoveryProtocol
      have hkept : IntentMemory s.lastEmittedIntentCycle (s.controller.step sleepCall).state :=
        IntentMemory.step h fun hphase hemitted =>
          absurd ⟨tick, rfl, htick, hphase, hemitted⟩ hforce
      rwa [SleepController.step, SleepCall.exec, stateAfter_map] at hkept
    · rw [SleepController.forceSleep_of_lt _ htick]
      exact h

/-- While the memory agrees, the intent is due exactly when the consolidation
has not started. -/
theorem Remembers.intentDue_eq {s : GpuSleepScheduler} (h : s.Remembers) :
    s.intentDue =
      if s.state.phase = .consolidating ∧ s.state.consolidation = .none then
        some ⟨s.state.activeCycleId⟩
      else none := by
  unfold intentDue
  by_cases hopen : s.state.phase = .consolidating ∧ s.state.consolidation = .none
  · have hne : s.lastEmittedIntentCycle ≠ some s.state.activeCycleId := by
      intro he
      rcases h _ he with ⟨-, hne, -⟩ | ⟨hle, hlt⟩
      · exact hne hopen.2
      · have := hlt (by simp [hopen.1])
        omega
    rw [if_pos ⟨hopen.1, hopen.2, hne⟩, if_pos hopen]
  · rw [if_neg fun h => hopen ⟨h.1, h.2.1⟩, if_neg hopen]

/-- What a tick hands out, read off the controller alone. -/
def handedBy (c : SleepController) (call : SleepCall) :
    Option (SleepState × Option ConsolidationIntent) :=
  match call.exec c with
  | .ok _ c' =>
    if c'.state.phase = .consolidating then
      some (c'.state,
        if c'.state.consolidation = .none then some ⟨c'.state.activeCycleId⟩ else none)
    else none
  | .error _ _ => none

theorem Remembers.handed_eq {s : GpuSleepScheduler} (h : s.Remembers)
    (homeostasis : HomeostaticSnapshot) (parameters : HomeostaticParameters) (tick : Tick) :
    s.handed homeostasis parameters tick =
      handedBy s.controller (s.tickCall homeostasis parameters tick) := by
  have hafter := tickCall_remembers h homeostasis parameters tick
  unfold handed handedBy
  unfold onController focus at hafter ⊢
  cases hcall : (s.tickCall homeostasis parameters tick).exec s.controller with
  | error e c => rfl
  | ok transition c =>
    rw [hcall] at hafter
    have hdue := Remembers.intentDue_eq hafter
    dsimp only [stateAfter_ok] at hdue ⊢
    rw [hdue]
    by_cases hphase : c.state.phase = .consolidating
    · simp [state, hphase]
    · simp [state, hphase]

theorem restored_remembers {config : SleepConsolidationConfig} {state : SleepState}
    {cadence : SleepSubsystemCadence} {s : GpuSleepScheduler}
    (h : restoreWithCadence config state cadence = .ok s) :
    s.Remembers ∧ s.controller = ⟨config, state⟩ := by
  unfold restoreWithCadence at h
  obtain ⟨-, -, h⟩ := contract_bind_eq_ok_iff.1 h
  obtain ⟨controller, hc, h⟩ := contract_bind_eq_ok_iff.1 h
  obtain ⟨-, -, rfl⟩ := SleepController.restore_eq_ok_iff.1 hc
  cases h
  refine ⟨fun c hemitted => ?_, rfl⟩
  dsimp only [restoredIntentCycle] at hemitted
  split_ifs at hemitted with hopen
  cases hemitted
  exact .inl ⟨.inl hopen.1, hopen.2, rfl⟩

theorem new_remembers {config : SleepConsolidationConfig} {cadence : SleepSubsystemCadence}
    {s : GpuSleepScheduler} (h : withCadence config cadence = .ok s) : s.Remembers := by
  unfold withCadence at h
  obtain ⟨-, -, h⟩ := contract_bind_eq_ok_iff.1 h
  obtain ⟨controller, -, h⟩ := contract_bind_eq_ok_iff.1 h
  cases h
  exact intentMemory_none _

/-- What the driver is handed: the intent of the active cycle exactly while its
consolidation has not started, and the same from a restored scheduler.  A tick asks its
driver for what it is handed (`asks`) and for nothing else (`reads`). -/
structure HandsIntents (s : GpuSleepScheduler) : Prop where
  asks : ∀ organismId homeostasis parameters tick driver state intent e,
    s.handed homeostasis parameters tick = some (state, intent) →
      driver organismId state intent = .error e →
        ∃ s', scheduledTick organismId homeostasis parameters tick driver s = .error e s'
  reads : ∀ organismId homeostasis parameters tick (driver driver' : DriverReply),
    (∀ state intent, s.handed homeostasis parameters tick = some (state, intent) →
      driver organismId state intent = driver' organismId state intent) →
        scheduledTick organismId homeostasis parameters tick driver s
          = scheduledTick organismId homeostasis parameters tick driver' s
  given : ∀ homeostasis parameters tick state intent,
    s.handed homeostasis parameters tick = some (state, intent) →
      state.phase = .consolidating ∧
      (state.consolidation = .none → intent = some ⟨state.activeCycleId⟩) ∧
      (state.consolidation ≠ .none → intent = none)
  startable : ∀ homeostasis parameters tick, s.state.phase = .consolidating →
    s.state.consolidation = .none → s.state.phaseStartedTick.raw ≤ tick.raw →
      s.handed homeostasis parameters tick = some (s.state, some ⟨s.state.activeCycleId⟩)
  restored : ∀ cadence s', restoreWithCadence s.controller.config s.state cadence = .ok s' →
    ∀ homeostasis parameters tick,
      s'.handed homeostasis parameters tick = s.handed homeostasis parameters tick

theorem Remembers.handsIntents {s : GpuSleepScheduler} (h : s.Remembers) : s.HandsIntents where
  asks _ _ _ _ _ _ _ _ := scheduledTick_asks
  reads _ _ _ _ _ _ := scheduledTick_congr
  given homeostasis parameters tick state intent hhanded := by
    rw [h.handed_eq] at hhanded
    unfold handedBy at hhanded
    split at hhanded
    · split_ifs at hhanded with hphase hopen <;> cases hhanded
      · exact ⟨hphase, fun _ => rfl, fun hne => absurd hopen hne⟩
      · exact ⟨hphase, fun hnone => absurd hnone hopen, fun _ => rfl⟩
    · cases hhanded
  startable homeostasis parameters tick hphase hnone htick := by
    have ht := Tick.validateMonotonic_eq_ok_iff.2 ⟨htick, rfl⟩
    have hadvance : SleepController.advance tick s.controller = .ok none s.controller := by
      unfold state at hphase hnone ht
      simp [SleepController.advance, bind_apply, get_apply, ht, ofResult_ok,
        SleepController.nextPhase, hphase, hnone, pure_apply]
    have hcall : s.tickCall homeostasis parameters tick = .advance tick :=
      if_neg (by simp [hphase])
    rw [h.handed_eq, hcall, handedBy, SleepCall.exec, hadvance]
    dsimp only [state] at hphase hnone ⊢
    rw [if_pos hphase, if_pos hnone]
  restored cadence s' hrestored homeostasis parameters tick := by
    obtain ⟨hremembers, hcontroller⟩ := restored_remembers hrestored
    have hsame : s'.controller = s.controller := hcontroller
    rw [hremembers.handed_eq, h.handed_eq, tickCall, tickCall, state, state, hsame]

end GpuSleepScheduler

/-- In every state of a run of a new or restored scheduler that never forces the
sleep of the emitted cycle, the driver is handed the intent it needs. -/
theorem scheduler_run_handsIntents {config : SleepConsolidationConfig}
    {cadence : SleepSubsystemCadence} {s : GpuSleepScheduler}
    (h : withCadence config cadence = .ok s ∨
      ∃ state, restoreWithCadence config state cadence = .ok s)
    {calls : List ScheduleCall}
    (hforce : Along step (fun s call => ¬ForcesEmitted s call) s calls) :
    (calls.foldl step s).HandsIntents := by
  have hs : s.Remembers := by
    rcases h with h | ⟨state, h⟩
    · exact new_remembers h
    · exact (restored_remembers h).1
  have hlast : (calls.foldl step s).Remembers :=
    foldl_of_invariant (fun _ _ hI hC => Remembers.step hI hC) hs hforce
  exact hlast.handsIntents

/-- The driver that reports the replay of the cycle it is asked about. -/
def replayDriver : DriverReply := fun _ state _ =>
  .ok (some (.replayAssetPersisted ⟨state.activeCycleId⟩ ⟨61, 62, 63, 64⟩ 1 1))

/-- A cycle opened, forced back into recovery, and due to consolidate again. -/
def forcedAfterIntent : List ScheduleCall :=
  [.forceRecoverySleep ⟨0⟩,
    .scheduledTick ⟨1⟩ (.baseline ⟨8⟩) .reference ⟨8⟩ replayDriver,
    .forceRecoverySleep ⟨8⟩,
    .scheduledTick ⟨1⟩ (.baseline ⟨16⟩) .reference ⟨16⟩ fun _ _ _ => .ok none]

/-- The driver of the forced cycle is never handed its intent again, while the
driver of a restored scheduler is. -/
theorem scheduler_run_withholds_intent :
    ∃ s s', withCadence .reference .reference = .ok s ∧
      (forcedAfterIntent.foldl step s).state.phase = .consolidating ∧
      (forcedAfterIntent.foldl step s).state.consolidation = .none ∧
      (forcedAfterIntent.foldl step s).handed (.baseline ⟨17⟩) .reference ⟨17⟩ =
        some ((forcedAfterIntent.foldl step s).state, none) ∧
      restoreWithCadence .reference (forcedAfterIntent.foldl step s).state .reference = .ok s' ∧
      s'.handed (.baseline ⟨17⟩) .reference ⟨17⟩ =
        some ((forcedAfterIntent.foldl step s).state, some ⟨1⟩) ∧
      ¬(forcedAfterIntent.foldl step s).HandsIntents := by
  let s : GpuSleepScheduler := ⟨⟨.reference, .awakeAt .zero⟩, .reference, none, none, noSleepWork⟩
  have hnone : (forcedAfterIntent.foldl step s).state.consolidation = .none := by decide
  have hhanded : (forcedAfterIntent.foldl step s).handed (.baseline ⟨17⟩) .reference ⟨17⟩ =
      some ((forcedAfterIntent.foldl step s).state, none) := by decide
  refine ⟨s, ⟨⟨.reference, (forcedAfterIntent.foldl step s).state⟩, .reference, none, none,
    noSleepWork⟩, rfl, by decide, hnone, hhanded, by decide, by decide, fun h => ?_⟩
  have hgiven := (h.given _ _ _ _ _ hhanded).2.1 hnone
  cases hgiven

/-- A recovery sleep forced before the cycle's intent was emitted. -/
theorem scheduler_run_handsIntents_forced :
    ([.forceRecoverySleep ⟨0⟩, .scheduledTick ⟨1⟩ (.baseline ⟨8⟩) .reference ⟨8⟩ replayDriver].foldl
      step ⟨⟨.reference, .awakeAt .zero⟩, .reference, none, none, noSleepWork⟩).HandsIntents := by
  refine scheduler_run_handsIntents (.inl (rfl : withCadence .reference .reference = .ok _))
    ⟨?_, ?_, trivial⟩
  · rintro ⟨tick, -, -, -, hemitted⟩
    cases hemitted
  · rintro ⟨tick, hcall, -⟩
    cases hcall

end ALife
