/-
# Runs of the sleep controller

What holds over every sequence of calls.  A restored controller keeps its
contract, and its failed calls change nothing, exactly as long as no call wakes
a creature whose cycle id is beyond the count it is about to get: the wake is
assigned before it is validated.  From a new controller that never happens,
because the cycle counters stay in step (`InStep`); every wake follows a commit
of the active cycle and adds one to both counters.  A cycle is committed at most
once as long as no forced sleep drops a commit: then the committed cycle ids
come out strictly increasing, above `committedLevel`.
-/

import ALife.Sleep.Edges

namespace ALife

open Machine SleepController

/-! ### Restored controllers -/

/-- A call leaves a state that passes its contract, and nothing changed if it failed. -/
def KeepsContract (c : SleepController) (call : SleepCall) : Prop :=
  (c.step call).state.validateContract = .ok () ∧
    (isOk (call.exec c) = false → c.step call = c)

theorem WakesBeyondCount.edge {c : SleepController} {call : SleepCall} (hs : c.state.Valid)
    (h : WakesBeyondCount c call) : ∃ t, SleepEdge c.config c.state call t := by
  obtain ⟨tick, rfl, htick, hphase, hdue, -⟩ := h
  exact ⟨_, .wake tick htick hphase hdue (hs.committed hphase)⟩

/-- One call from a valid state. -/
theorem keepsContract_iff {c : SleepController} {call : SleepCall} (hs : c.state.Valid) :
    KeepsContract c call ↔ ¬WakesBeyondCount c call := by
  rw [KeepsContract, SleepState.validateContract_eq_ok_iff]
  constructor
  · rintro ⟨hvalid, -⟩ hwakes
    obtain ⟨t, e⟩ := hwakes.edge hs
    rw [e.step_eq] at hvalid
    exact (e.valid_iff hs).1 hvalid hwakes
  · intro hwakes
    rcases step_eq_or_edge c call with hsame | ⟨t, e⟩
    · exact ⟨by rwa [hsame], fun _ => hsame⟩
    · have ht := (e.valid_iff hs).2 hwakes
      refine ⟨by rw [e.step_eq]; exact ht, fun hfailed => ?_⟩
      rw [e.exec.2.2 ht] at hfailed
      cases hfailed

/-- From a valid state, every call of a run keeps the contract and every failed
call changes nothing iff no call wakes beyond the count. -/
theorem restored_run_keepsContract_iff {config : SleepConsolidationConfig} {state : SleepState}
    {c : SleepController} (h : SleepController.restore config state = .ok c)
    (calls : List SleepCall) :
    Along step KeepsContract c calls ↔
      Along step (fun c call => ¬WakesBeyondCount c call) c calls := by
  obtain ⟨-, hs, rfl⟩ := SleepController.restore_eq_ok_iff.1 h
  exact along_iff_of_invariant (I := fun c => c.state.Valid) (fun _ _ => keepsContract_iff)
    (fun _ _ _ hkeeps => SleepState.validateContract_eq_ok_iff.1 hkeeps.1) hs

/-- A creature waking from cycle 5 that has counted none. -/
def wakingUncounted : SleepState where
  schemaVersion := SchemaKind.sleepConsolidation.current
  phase := .waking
  phaseStartedTick := .zero
  enteredSleepTick := some .zero
  cyclesCompleted := 0
  lastTrigger := some .forcedRequest
  activeCycleId := 5
  lastConsolidatedCycleId := 0
  consolidation := .committed 5 1 ⟨1, 0, 0, 0⟩

/-- A restored controller whose wake fails and leaves an invalid state behind. -/
theorem restored_run_breaks_contract :
    ∃ c, SleepController.restore .reference wakingUncounted = .ok c ∧
      ¬Along step KeepsContract c [.advance ⟨3⟩] ∧
      isOk ((SleepCall.advance ⟨3⟩).exec c) = false ∧ c.step (.advance ⟨3⟩) ≠ c ∧
      (c.step (.advance ⟨3⟩)).state.validateContract =
        .error .consolidationGenerationMismatch := by
  refine ⟨⟨.reference, wakingUncounted⟩, by decide, fun h => ?_, by decide, by decide, by decide⟩
  exact absurd (h.1.2 (by decide)) (by decide)

/-- The same creature, counted to its cycle. -/
def wakingCounted : SleepState :=
  { wakingUncounted with cyclesCompleted := 4, lastConsolidatedCycleId := 4 }

theorem restored_run_keepsContract_counted :
    Along step KeepsContract ⟨.reference, wakingCounted⟩ [.advance ⟨3⟩] := by
  have hrestored : SleepController.restore .reference wakingCounted =
      .ok ⟨.reference, wakingCounted⟩ := rfl
  refine (restored_run_keepsContract_iff hrestored _).2 ⟨?_, trivial⟩
  rintro ⟨tick, -, -, -, -, hlt⟩
  exact absurd hlt (by decide)

/-! ### Controllers from new -/

/-- The call wakes the creature. -/
def Wakes (c : SleepController) (call : SleepCall) : Prop :=
  c.state.phase ≠ .awake ∧ (c.step call).state.phase = .awake

instance (c : SleepController) (call : SleepCall) : Decidable (Wakes c call) :=
  inferInstanceAs (Decidable (_ ∧ _))

/-- The cycle that an accepted `Committed` event of the driver is about. -/
def committedCycle (c : SleepController) : SleepCall → Option ℕ
  | .applyConsolidationDriverEvent (.committed id generation digest) =>
    if isOk ((SleepCall.applyConsolidationDriverEvent (.committed id generation digest)).exec c)
    then some id.toNat else none
  | _ => none

/-- A wake follows a commit of the active cycle, and adds one to both counters. -/
def WakesCounted (c : SleepController) (call : SleepCall) : Prop :=
  Wakes c call →
    (∃ generation digest,
      c.state.consolidation = .committed c.state.activeCycleId generation digest) ∧
    (c.step call).state.cyclesCompleted.toNat = c.state.cyclesCompleted.toNat + 1 ∧
    (c.step call).state.lastConsolidatedCycleId.toNat =
      c.state.lastConsolidatedCycleId.toNat + 1

/-- The cycle counters agree: the sleep in progress is the cycle after the last
one consolidated, and as many cycles are counted as consolidated. -/
structure InStep (s : SleepState) : Prop where
  valid : s.Valid
  counted : s.lastConsolidatedCycleId.toNat = s.cyclesCompleted.toNat
  active : s.phase ≠ .awake → s.activeCycleId.toNat = s.lastConsolidatedCycleId.toNat + 1

theorem SleepState.Valid.committed_active {s : SleepState} (hs : s.Valid)
    (h : s.consolidation.isCommitted = true) :
    ∃ generation digest, s.consolidation = .committed s.activeCycleId generation digest := by
  obtain ⟨id, generation, digest, hc⟩ := ConsolidationState.isCommitted_iff.1 h
  have hcycle := hs.cycle
  rw [hc, ConsolidationState.validateForCycle, reject_eq_ok_iff, not_not] at hcycle
  exact ⟨generation, digest, hcycle.1 ▸ hc⟩

/-- An edge from counters in step below saturation keeps them in step. -/
theorem SleepEdge.inStep {c : SleepController} {call : SleepCall} {t : SleepState}
    (hs : InStep c.state) (hcycles : c.state.cyclesCompleted.toNat < 2 ^ 32 - 1)
    (e : SleepEdge c.config c.state call t) : InStep t := by
  have hwakes : ¬WakesBeyondCount c call := by
    rintro ⟨tick, -, -, hphase, -, hlt⟩
    have := hs.active (by simp [hphase])
    rw [toNat_saturatingAdd32, this, hs.counted] at hlt
    simp at hlt
    omega
  refine ⟨(e.valid_iff hs.valid).2 hwakes, ?_, ?_⟩
  · cases e with
    | wake tick htick hphase hdue hcommitted =>
      have := hs.active (by simp [hphase])
      rw [SleepState.woken, toNat_saturatingAdd32, this, hs.counted]
      simp
      omega
    | _ => exact hs.counted
  · cases e with
    | drowse h p tick r phase trigger id hphase htick hh hp hr hd hid =>
      exact fun _ => checkedAdd64_eq_some_iff.1 hid
    | forceAwake tick trigger id hphase htick hid =>
      exact fun _ => checkedAdd64_eq_some_iff.1 hid
    | forceAsleep tick trigger hphase htick => exact fun _ => hs.active hphase
    | consolidate tick htick hdue =>
      refine fun _ => hs.active ?_
      rcases hdue with ⟨hphase, -⟩ | ⟨hphase, -⟩ <;> simp [hphase]
    | startWaking tick htick hphase => exact fun _ => hs.active (by simp [hphase])
    | wake => exact fun h => absurd rfl h
    | progress event next hphase => exact fun _ => hs.active (by simp [hphase])

theorem InStep.step {c : SleepController} {call : SleepCall} (hs : InStep c.state)
    (hcycles : c.state.cyclesCompleted.toNat < 2 ^ 32 - 1) : InStep (c.step call).state := by
  rcases step_eq_or_edge c call with hsame | ⟨t, e⟩
  · rwa [hsame]
  · rw [e.step_eq]
    exact e.inStep hs hcycles

/-- A call that wakes is an `advance` of a waking creature. -/
theorem Wakes.edge {c : SleepController} {call : SleepCall} (h : Wakes c call) :
    c.state.phase = .waking ∧ ∃ tick, (c.step call).state = c.state.woken tick := by
  obtain ⟨hbefore, hafter⟩ := h
  rcases step_eq_or_edge c call with hsame | ⟨t, e⟩
  · exact absurd (hsame ▸ hafter) hbefore
  rw [e.step_eq] at hafter ⊢
  cases e with
  | wake tick htick hphase hdue hcommitted => exact ⟨hphase, tick, rfl⟩
  | drowse h p tick r phase trigger id hphase htick hh hp hr hd hid =>
    exact absurd hafter (sleepDecision_ne_awake hd)
  | progress event next hphase => exact absurd hafter (by simp [hphase])
  | _ => cases hafter

theorem InStep.wakesCounted {c : SleepController} {call : SleepCall} (hs : InStep c.state)
    (hcycles : c.state.cyclesCompleted.toNat < 2 ^ 32 - 1) : WakesCounted c call := by
  intro hwakes
  obtain ⟨hphase, tick, hstep⟩ := hwakes.edge
  refine ⟨hs.valid.committed_active (hs.valid.committed hphase), ?_, ?_⟩
  · rw [hstep, SleepState.woken, toNat_saturatingAdd32]
    simp
    omega
  · rw [hstep]
    exact hs.active (by simp [hphase])

/-- The number of wakes in a run. -/
def wakeCount (c : SleepController) (calls : List SleepCall) : ℕ :=
  (outputs step (fun c call => if Wakes c call then some () else none) c calls).length

/-- Only a wake counts a cycle. -/
theorem cyclesCompleted_step_le (c : SleepController) (call : SleepCall) :
    (c.step call).state.cyclesCompleted.toNat ≤ c.state.cyclesCompleted.toNat +
      (if Wakes c call then some () else none).toList.length := by
  rcases step_eq_or_edge c call with hsame | ⟨t, e⟩
  · rw [hsame]
    omega
  have hstep := e.step_eq
  cases e with
  | wake tick htick hphase =>
    have hwakes : Wakes c (.advance tick) := ⟨by simp [hphase], by rw [hstep]; rfl⟩
    rw [if_pos hwakes, hstep, SleepState.woken, toNat_saturatingAdd32]
    exact Nat.min_le_left _ _
  | _ =>
    rw [hstep]
    exact Nat.le_add_right _ _

/-- Fewer than `u32::MAX` wakes keep the counters in step before every call. -/
theorem along_inStep {c : SleepController} {calls : List SleepCall} (hs : InStep c.state)
    (hwakes : c.state.cyclesCompleted.toNat + wakeCount c calls < 2 ^ 32 - 1) :
    Along step (fun c _ => InStep c.state ∧ c.state.cyclesCompleted.toNat < 2 ^ 32 - 1) c
      calls := by
  have hcycles : Along step (fun c _ => c.state.cyclesCompleted.toNat < 2 ^ 32 - 1) c calls :=
    along_lt_of_outputs cyclesCompleted_step_le hwakes
  exact Along.of_invariant (I := fun c => InStep c.state)
    (fun _ _ hI hlt => ⟨hI.step hlt, hI, hlt⟩) hs hcycles

/-! ### Committing once -/

/-- A forced sleep, in time, of a creature whose consolidation is committed. -/
def ForcesCommitted (c : SleepController) (call : SleepCall) : Prop :=
  c.state.consolidation.isCommitted = true ∧
    ∃ tick trigger, call = .forceSleep tick trigger ∧ c.state.phaseStartedTick.raw ≤ tick.raw

/-- The tick that a call forces sleep at. -/
def forcedTick : SleepCall → Option Tick
  | .forceSleep tick _ => some tick
  | _ => none

theorem forcesCommitted_iff {c : SleepController} {call : SleepCall} :
    ForcesCommitted c call ↔ c.state.consolidation.isCommitted = true ∧
      ∃ tick ∈ forcedTick call, c.state.phaseStartedTick.raw ≤ tick.raw := by
  unfold ForcesCommitted
  cases call <;> simp [forcedTick]

instance (c : SleepController) (call : SleepCall) : Decidable (ForcesCommitted c call) :=
  decidable_of_iff _ forcesCommitted_iff.symm

/-- The last cycle committed: the active one once its commit is in, else the
last one consolidated. -/
def SleepState.committedLevel (s : SleepState) : ℕ :=
  if s.consolidation.isCommitted then s.activeCycleId.toNat else s.lastConsolidatedCycleId.toNat

theorem SleepState.committedLevel_of_open {s : SleepState}
    (h : s.consolidation.isCommitted = false) :
    s.committedLevel = s.lastConsolidatedCycleId.toNat := by
  simp [committedLevel, h]

theorem SleepState.committedLevel_of_committed {s : SleepState}
    (h : s.consolidation.isCommitted = true) : s.committedLevel = s.activeCycleId.toNat := by
  simp [committedLevel, h]

/-- An accepted `Committed` event is the first about the active cycle. -/
theorem committedCycle_eq_some {c : SleepController} {call : SleepCall} {id : ℕ}
    (h : committedCycle c call = some id) :
    c.state.phase = .consolidating ∧ c.state.consolidation.isCommitted = false ∧
      id = c.state.activeCycleId.toNat ∧ (c.step call).state.committedLevel = id := by
  unfold committedCycle at h
  split at h
  · rename_i cycle generation digest
    split_ifs at h with hok
    rw [SleepCall.exec, isOk_map] at hok
    rcases applyConsolidationDriverEvent_cases c (.committed cycle generation digest) with
      ⟨e, he⟩ | ⟨next, hphase, hactive, hnext, hcycle⟩
    · rw [he] at hok
      cases hok
    have e : SleepEdge c.config c.state _ _ := .progress _ next hphase hactive hnext hcycle
    obtain rfl := nextConsolidation_committed hnext
    rw [ConsolidationState.validateForCycle, reject_eq_ok_iff, not_not] at hcycle
    obtain ⟨rfl, -⟩ := hcycle
    refine ⟨hphase, nextConsolidation_open hnext, (Option.some.inj h).symm, ?_⟩
    rw [e.step_eq, SleepState.committedLevel_of_committed rfl]
    exact Option.some.inj h
  · cases h

/-- No edge but a forced sleep of a committed cycle lowers the level. -/
theorem SleepEdge.committedLevel_mono {c : SleepController} {call : SleepCall} {t : SleepState}
    (hs : InStep c.state) (hforce : ¬ForcesCommitted c call)
    (e : SleepEdge c.config c.state call t) : c.state.committedLevel ≤ t.committedLevel := by
  have hawake (hphase : c.state.phase = .awake) : c.state.consolidation.isCommitted = false := by
    rw [hs.valid.idle (by simp [hphase]) (by simp [hphase]), ConsolidationState.isCommitted_none]
  cases e with
  | drowse h p tick r phase trigger id hphase =>
    exact (SleepState.committedLevel_of_open (hawake hphase)).le
  | forceAwake tick trigger id hphase =>
    exact (SleepState.committedLevel_of_open (hawake hphase)).le
  | forceAsleep tick trigger hphase htick =>
    refine (SleepState.committedLevel_of_open ?_).le
    by_contra hc
    exact hforce ⟨by simpa using hc, tick, trigger, rfl, htick⟩
  | consolidate => exact le_rfl
  | startWaking => exact le_rfl
  | wake tick htick hphase hdue hcommitted =>
    exact (SleepState.committedLevel_of_committed hcommitted).le
  | progress event next hphase hactive hnext hcycle =>
    have := hs.active (by simp [hphase])
    rw [SleepState.committedLevel_of_open (nextConsolidation_open hnext),
      SleepState.committedLevel]
    split_ifs <;> simp [this]

theorem committedLevel_step_mono {c : SleepController} {call : SleepCall} (hs : InStep c.state)
    (hforce : ¬ForcesCommitted c call) :
    c.state.committedLevel ≤ (c.step call).state.committedLevel := by
  rcases step_eq_or_edge c call with hsame | ⟨t, e⟩
  · rw [hsame]
  · rw [e.step_eq]
    exact e.committedLevel_mono hs hforce

/-- A cycle is committed above the level before the step, and raises it. -/
theorem committedLevel_step {c : SleepController} {call : SleepCall} (hs : InStep c.state)
    (hforce : ¬ForcesCommitted c call) :
    c.state.committedLevel ≤ (c.step call).state.committedLevel ∧
      ∀ id, committedCycle c call = some id →
        c.state.committedLevel < id ∧ id ≤ (c.step call).state.committedLevel := by
  refine ⟨committedLevel_step_mono hs hforce, fun id hid => ?_⟩
  obtain ⟨hphase, hopen, rfl, hlevel⟩ := committedCycle_eq_some hid
  have hactive := hs.active (by simp [hphase])
  refine ⟨?_, hlevel.ge⟩
  rw [SleepState.committedLevel_of_open hopen, hactive]
  exact Nat.lt_succ_self _

/-- From a new controller and over fewer than `u32::MAX` wakes, every wake
follows a commit of the active cycle and adds one to both counters, and as long
as no forced sleep drops a commit no cycle is committed twice. -/
theorem new_run_commits_once {config : SleepConsolidationConfig} {c : SleepController}
    (h : SleepController.new config = .ok c) {calls : List SleepCall}
    (hwakes : wakeCount c calls < 2 ^ 32 - 1) :
    Along step WakesCounted c calls ∧
      (Along step (fun c call => ¬ForcesCommitted c call) c calls →
        (outputs step committedCycle c calls).Nodup) := by
  obtain ⟨-, rfl⟩ := new_eq_ok_iff.1 h
  have hs : InStep (SleepState.awakeAt .zero) :=
    ⟨SleepState.validateContract_eq_ok_iff.1 (by decide), rfl, fun h => absurd rfl h⟩
  have hin := along_inStep (c := ⟨config, .awakeAt .zero⟩) hs (by
    rwa [show (SleepState.awakeAt .zero).cyclesCompleted.toNat = 0 from rfl, Nat.zero_add])
  refine ⟨hin.mono fun _ _ ⟨hI, hcycles⟩ => hI.wakesCounted hcycles, fun hforce => ?_⟩
  have hlevel : Along step (fun c call =>
      c.state.committedLevel ≤ (c.step call).state.committedLevel ∧
        ∀ id, committedCycle c call = some id →
          c.state.committedLevel < id ∧ id ≤ (c.step call).state.committedLevel)
      ⟨config, .awakeAt .zero⟩ calls := by
    refine (hin.and hforce).mono ?_
    rintro c call ⟨⟨hI, -⟩, hforce⟩
    exact committedLevel_step hI hforce
  have hpairwise := (pairwise_lt_outputs hlevel).1
  exact hpairwise.imp ne_of_lt
/-- A request for the cycle, its digest in place. -/
def sampleRequest (cycleId : UInt64) : GpuConsolidationRequest :=
  let r : GpuConsolidationRequest :=
    { schemaVersion := 1, requestFlags := 0, cycleId
      phenotypeHash := ⟨⟨1, 2, 3, 4⟩⟩, inputGeneration := 1, expectedOutputGeneration := 2
      inputDigest := ⟨5, 6, 7, 8⟩, replayDigest := ⟨61, 62, 63, 64⟩, maxReplayEvents := 1
      maxReplayEligibilitySamples := 1, requestDigest := .zero }
  { r with requestDigest := (r.recomputeRequestDigest.toOption).getD .zero }

/-- An output of the request, its digest in place. -/
def sampleStaged (r : GpuConsolidationRequest) : ConsolidationStagedOutput :=
  let s : ConsolidationStagedOutput :=
    { jobId := ⟨9, by decide⟩, outputGeneration := 2, outputWeightBank := 1
      outputDigest := ⟨9, 9, 9, 9⟩, eligibilityResetGeneration := 1, outputEligibilityBank := 1
      eligibilityOutputDigest := ⟨1, 1, 1, 1⟩, replayJournalGeneration := 1
      replayJournalCursor := 0, replayJournalEventCount := 0
      replayJournalOutputDigest := ⟨2, 2, 2, 2⟩, stagingDigest := .zero
      promotedFastL1Bits := 0, replayInducedFastL1Bits := 0 }
  { s with stagingDigest := (s.recomputeStagingDigest r 1 1).toOption.getD .zero }

/-- The driver events that take a cycle to its commit. -/
def commitEvents (cycleId : UInt64) : List SleepCall :=
  let r := sampleRequest cycleId
  [.applyConsolidationDriverEvent (.replayAssetPersisted ⟨cycleId⟩ r.replayDigest 1 1),
    .applyConsolidationDriverEvent (.prepared r),
    .applyConsolidationDriverEvent (.submitted r ⟨9, by decide⟩),
    .applyConsolidationDriverEvent (.completed r (sampleStaged r)),
    .applyConsolidationDriverEvent (.committed cycleId 2 ⟨9, 9, 9, 9⟩)]

/-- A creature forced to sleep, consolidated and woken once. -/
def sleptOnce : List SleepCall :=
  [.forceSleep ⟨0⟩ .forcedRequest, .advance ⟨8⟩] ++ commitEvents 1 ++ [.advance ⟨8⟩, .advance ⟨11⟩]

theorem new_run_commits_once_sleptOnce :
    Along step WakesCounted ⟨.reference, .awakeAt .zero⟩ sleptOnce ∧
      (outputs step committedCycle ⟨.reference, .awakeAt .zero⟩ sleptOnce).Nodup := by
  have hnew : SleepController.new .reference = .ok ⟨.reference, .awakeAt .zero⟩ := rfl
  have hwakes : wakeCount ⟨.reference, .awakeAt .zero⟩ sleptOnce < 2 ^ 32 - 1 :=
    (length_outputs_le _ _ _).trans_lt (by decide)
  have hforce : Along step (fun c call => ¬ForcesCommitted c call) ⟨.reference, .awakeAt .zero⟩
      sleptOnce := by
    decide +kernel
  obtain ⟨hcounted, honce⟩ := new_run_commits_once hnew hwakes
  exact ⟨hcounted, honce hforce⟩

/-- Cycle 1 committed, forced back into recovery, and committed again. -/
def committedTwice : List SleepCall :=
  [.forceSleep ⟨0⟩ .forcedRequest, .advance ⟨8⟩] ++ commitEvents 1 ++
    [.forceSleep ⟨8⟩ .forcedRequest, .advance ⟨16⟩] ++ commitEvents 1

/-- A forced sleep lets the driver commit one cycle twice. -/
theorem new_run_commits_twice :
    ∃ c, SleepController.new .reference = .ok c ∧ wakeCount c committedTwice < 2 ^ 32 - 1 ∧
      outputs step committedCycle c committedTwice = [1, 1] := by
  exact ⟨⟨.reference, .awakeAt .zero⟩, rfl, (length_outputs_le _ _ _).trans_lt (by decide),
    by decide +kernel⟩

end ALife
