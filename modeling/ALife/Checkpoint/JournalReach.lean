/-
# Journal entries against the controller

Which accepted journal entries the sleep controller could have made.
`ReachableWithin` is the claim an entry makes: one call of some controller, at a
tick not after the transition, takes `source` to `target`.  `CarriedOver` lists,
arm by arm, the fields that this takes; the journal checks them all when the
consolidation opens and when it commits, and only some of them in the other
arms.  An accepted entry is reachable exactly when they are carried over.
-/

import ALife.Checkpoint.SleepJournal
import ALife.Sleep.Edges

namespace ALife

open Machine SleepController

/-- The tick a call is made at; driver events carry none. -/
def SleepCall.tick : SleepCall → Option Tick
  | .evaluateHomeostasis _ _ tick => some tick
  | .forceSleep tick _ => some tick
  | .advance tick => some tick
  | .applyConsolidationDriverEvent _ => none

/-- One successful call of some controller, no later than `latest`, takes the
source to the target. -/
def ReachableWithin (source target : SleepState) (latest : Tick) : Prop :=
  ∃ (config : SleepConsolidationConfig) (call : SleepCall),
    config.validateContract = .ok () ∧
    (∀ tick, call.tick = some tick → tick.raw ≤ latest.raw) ∧
    isOk (call.exec ⟨config, source⟩) = true ∧
    (SleepController.step ⟨config, source⟩ call).state = target

/-- The fields a start of waking carries, or sets from the source. -/
def WakingCarriedOver (source target : SleepState) : Prop :=
  target.phase = .waking ∧ target.enteredSleepTick = source.enteredSleepTick ∧
    target.cyclesCompleted = source.cyclesCompleted ∧
    target.lastTrigger = some (source.lastTrigger.getD .recoveryProtocol) ∧
    target.activeCycleId = source.activeCycleId ∧
    target.lastConsolidatedCycleId = source.lastConsolidatedCycleId

/-- The fields a wake sets from the source. -/
def WakeCarriedOver (source target : SleepState) : Prop :=
  target.enteredSleepTick = none ∧
    target.cyclesCompleted = saturatingAdd32 source.cyclesCompleted 1 ∧
    target.lastTrigger = some (source.lastTrigger.getD .recoveryProtocol) ∧
    target.lastConsolidatedCycleId = source.activeCycleId

/-- What the controller carries from the source to the target, by the pair of
consolidations. -/
def CarriedOver (source target : SleepState) : Prop :=
  match source.consolidation, target.consolidation with
  | .none, .none =>
    if source.phase = .awake then source.phaseStartedTick.raw ≤ target.phaseStartedTick.raw
    else source.phaseStartedTick.raw < target.phaseStartedTick.raw ∧ source.lastTrigger ≠ none
  | .pending .., .prepared _ | .prepared _, .submitted .. =>
    sleepIdentityUnchangedExceptConsolidation source target = true
  | .committed .., .committed .. =>
    target = source ∨
      (source.phase = .consolidating ∧
        source.phaseStartedTick.raw ≤ target.phaseStartedTick.raw ∧
        WakingCarriedOver source target)
  | .committed .., .none =>
    source.phase = .waking ∧ source.phaseStartedTick.raw < target.phaseStartedTick.raw ∧
      WakeCarriedOver source target
  | _, _ => True

/-! ### Reachability is an edge or no change -/

/-- The shortest durations a configuration can have. -/
def eagerConfig : SleepConsolidationConfig :=
  { SleepConsolidationConfig.reference with
    fatigueThreshold := .zero, enteringDuration := ⟨1⟩, wakingDuration := ⟨1⟩
    forcedRecoveryMinDuration := ⟨1⟩ }

theorem eagerConfig_valid : eagerConfig.validateContract = .ok () := by decide

/-- An eager creature at its baseline falls asleep from fatigue. -/
theorem sleepDecision_eager : ∃ r, recoveryTriggers (.baseline .zero) .reference = .ok r ∧
    sleepDecision eagerConfig (.baseline .zero) r = some (.enteringSleep, .fatigueThreshold) :=
  ⟨_, rfl, by decide⟩

/-- An evaluation of a sleeping creature changes nothing. -/
theorem evaluateHomeostasis_asleep {c : SleepController} {h : HomeostaticSnapshot}
    {p : HomeostaticParameters} {tick : Tick} (hh : h.validateContract = .ok ())
    (hp : p.validateContract = .ok ()) (htick : c.state.phaseStartedTick.raw ≤ tick.raw)
    (hphase : c.state.phase ≠ .awake) : evaluateHomeostasis h p tick c = .ok none c := by
  have ht := Tick.validateMonotonic_eq_ok_iff.2 ⟨htick, rfl⟩
  simp [evaluateHomeostasis, bind_apply, get_apply, hh, hp, ht, ofResult_ok, hphase, pure_apply]

theorem ReachableWithin.of_edge {config : SleepConsolidationConfig} {call : SleepCall}
    {source target : SleepState} {latest : Tick} (hconfig : config.validateContract = .ok ())
    (htick : ∀ tick, call.tick = some tick → tick.raw ≤ latest.raw) (htarget : target.Valid)
    (e : SleepEdge config source call target) : ReachableWithin source target latest := by
  have hexec := SleepEdge.exec (c := ⟨config, source⟩) e
  exact ⟨config, call, hconfig, htick, hexec.2.2 htarget, by rw [step, hexec.1]⟩

theorem ReachableWithin.refl {s : SleepState} {latest : Tick} (hphase : s.phase ≠ .awake)
    (hlatest : s.phaseStartedTick.raw ≤ latest.raw) : ReachableWithin s s latest := by
  have hstay : evaluateHomeostasis (.baseline .zero) .reference latest ⟨eagerConfig, s⟩ =
      .ok none ⟨eagerConfig, s⟩ :=
    evaluateHomeostasis_asleep (by decide) (by decide) hlatest hphase
  refine ⟨eagerConfig, .evaluateHomeostasis (.baseline .zero) .reference latest,
    eagerConfig_valid, fun tick h => ?_, ?_, ?_⟩
  · cases h
    exact UInt64.le_refl _
  · rw [SleepCall.exec, hstay, isOk_ok]
  · rw [step, SleepCall.exec, hstay, stateAfter_ok]

theorem ReachableWithin.cases {source target : SleepState} {latest : Tick}
    (h : ReachableWithin source target latest) :
    target = source ∨ ∃ (config : SleepConsolidationConfig) (call : SleepCall),
      config.validateContract = .ok () ∧ SleepEdge config source call target := by
  obtain ⟨config, call, hconfig, -, -, rfl⟩ := h
  rcases step_eq_or_edge ⟨config, source⟩ call with hsame | ⟨t, e⟩
  · exact .inl (by rw [hsame])
  · exact .inr ⟨config, call, hconfig, by rw [SleepEdge.step_eq (c := ⟨config, source⟩) e]; exact e⟩

/-! ### Reaching through the edges -/

theorem SleepConsolidationConfig.durations_pos {config : SleepConsolidationConfig}
    (h : config.validateContract = .ok ()) :
    0 < config.enteringDuration.raw.toNat ∧ 0 < config.wakingDuration.raw.toNat ∧
      0 < config.forcedRecoveryMinDuration.raw.toNat := by
  unfold SleepConsolidationConfig.validateContract at h
  simp only [contract_seq_eq_ok_iff, reject_eq_ok_iff] at h
  obtain ⟨-, -, -, h⟩ := h
  push Not at h
  obtain ⟨he, hw, hf, -⟩ := h
  refine ⟨?_, ?_, ?_⟩ <;> rw [Nat.pos_iff_ne_zero] <;>
    first
    | exact fun h0 => he (UInt32.toNat_inj.1 h0)
    | exact fun h0 => hw (UInt32.toNat_inj.1 h0)
    | exact fun h0 => hf (UInt32.toNat_inj.1 h0)

/-- Time has passed in the phase exactly when the tick moved on. -/
theorem elapsed_pos_iff {s : SleepState} {tick : Tick} :
    0 < elapsed s tick ↔ s.phaseStartedTick.raw < tick.raw := by
  rw [elapsed, UInt64.lt_iff_toNat_lt]
  omega

theorem identityUnchanged_iff {source target : SleepState} :
    sleepIdentityUnchangedExceptConsolidation source target = true ↔
      target = { source with consolidation := target.consolidation } := by
  constructor
  · intro h
    cases source
    cases target
    simp_all [sleepIdentityUnchangedExceptConsolidation]
  · intro h
    rw [h]
    simp [sleepIdentityUnchangedExceptConsolidation]

/-- A consolidation in progress puts the creature in the consolidating phase. -/
theorem SleepState.Valid.consolidating {s : SleepState} (hs : s.Valid)
    (hnone : s.consolidation ≠ .none) (hopen : s.consolidation.isCommitted = false) :
    s.phase = .consolidating := by
  by_contra hp
  by_cases hw : s.phase = .waking
  · rw [hs.committed hw] at hopen
    cases hopen
  · exact hnone (hs.idle hp hw)

/-- A driver event reaches the target that differs in the consolidation only. -/
theorem ReachableWithin.of_progress {source target : SleepState} (latest : Tick)
    (hs : source.Valid) (ht : target.Valid) (hphase : source.phase = .consolidating)
    (hid : sleepIdentityUnchangedExceptConsolidation source target = true)
    (event : ConsolidationDriverEvent)
    (hnext : nextConsolidation source.consolidation source.activeCycleId event =
      .ok target.consolidation) : ReachableWithin source target latest := by
  have htarget := identityUnchanged_iff.1 hid
  have hcycle : target.consolidation.validateForCycle source.activeCycleId = .ok () := by
    have hactive : target.activeCycleId = source.activeCycleId := by rw [htarget]
    exact hactive ▸ ht.cycle
  have e : SleepEdge eagerConfig source (.applyConsolidationDriverEvent event)
      { source with consolidation := target.consolidation } :=
    .progress event target.consolidation hphase (hs.asleep (by simp [hphase])) hnext hcycle
  rw [← htarget] at e
  exact .of_edge eagerConfig_valid (fun _ h => by cases h) ht e

/-- A changed consolidation that is not dropped was progressed, and nothing else changed. -/
theorem ReachableWithin.identityUnchanged {source target : SleepState} {latest : Tick}
    (h : ReachableWithin source target latest) (hnone : target.consolidation ≠ .none)
    (hne : target.consolidation ≠ source.consolidation) :
    sleepIdentityUnchangedExceptConsolidation source target = true := by
  rcases h.cases with rfl | ⟨config, call, -, e⟩
  · exact absurd rfl hne
  cases e with
  | progress event next => exact identityUnchanged_iff.2 rfl
  | consolidate | startWaking => exact absurd rfl hne
  | _ => exact absurd rfl hnone

/-! ### The arms -/

/-- Falling asleep, as the journal describes it. -/
theorem fallenAsleep_of_canonical {source target : SleepState} {trigger : SleepTrigger}
    (hs : source.Valid) (ht : target.Valid) (h : fallsAsleepCanonically source target = true)
    (hnone : source.consolidation = .none) (htrigger : target.lastTrigger = some trigger) :
    checkedAdd64 source.lastConsolidatedCycleId 1 = some target.activeCycleId ∧
      target = source.fallenAsleep target.phase target.phaseStartedTick trigger
        target.activeCycleId := by
  simp only [fallsAsleepCanonically, sleepCycleFieldsMatch, Bool.and_eq_true,
    decide_eq_true_eq] at h
  obtain ⟨⟨⟨⟨-, -⟩, hentered⟩, hactive⟩, ⟨⟨hversion, hcycles⟩, hlast⟩, hcons⟩ := h
  refine ⟨?_, ?_⟩
  · have hcount := hs.counted
    have hcycles := source.cyclesCompleted.toNat_lt
    rw [checkedAdd64_eq_some_iff, hactive, toNat_saturatingAdd64]
    simp
    omega
  · have := ht.version
    cases target
    simp_all [SleepState.fallenAsleep]

theorem movedTo_of_canonical {source target : SleepState} (ht : target.Valid)
    (hphase : target.phase = .consolidating)
    (hentered : source.enteredSleepTick = target.enteredSleepTick)
    (htrigger : source.lastTrigger = target.lastTrigger) (hsome : source.lastTrigger ≠ none)
    (hactive : source.activeCycleId = target.activeCycleId)
    (hmatch : sleepCycleFieldsMatch source target = true) :
    target = source.movedTo .consolidating target.phaseStartedTick := by
  simp only [sleepCycleFieldsMatch, Bool.and_eq_true, decide_eq_true_eq] at hmatch
  obtain ⟨⟨⟨hversion, hcycles⟩, hlast⟩, hcons⟩ := hmatch
  obtain ⟨trigger, htr⟩ := Option.ne_none_iff_exists'.1 hsome
  have := ht.version
  cases target
  simp_all [SleepState.movedTo]

/-- The three kinds of canonical edge before the consolidation opens. -/
theorem canonicalPrePendingPhaseEdge_cases {source target : SleepState}
    (h : canonicalPrePendingPhaseEdge source target = true) :
    (source.phase = .awake ∧ target.phase = .enteringSleep ∧
        target.lastTrigger = some .fatigueThreshold ∧
        fallsAsleepCanonically source target = true) ∨
      (source.phase = .awake ∧ target.phase = .forcedRecoverySleep ∧
        (∃ trigger, target.lastTrigger = some trigger ∧ trigger ≠ .fatigueThreshold) ∧
        fallsAsleepCanonically source target = true) ∨
      ((source.phase = .enteringSleep ∨ source.phase = .forcedRecoverySleep) ∧
        target.phase = .consolidating ∧ source.enteredSleepTick = target.enteredSleepTick ∧
        source.lastTrigger = target.lastTrigger ∧ source.activeCycleId = target.activeCycleId ∧
        sleepCycleFieldsMatch source target = true) := by
  unfold canonicalPrePendingPhaseEdge at h
  split at h
  · simp_all
  · rename_i hsource htarget
    simp only [Bool.and_eq_true, decide_eq_true_eq] at h
    obtain ⟨hfalls, hsome, hne⟩ := h
    obtain ⟨trigger, htrigger⟩ := Option.ne_none_iff_exists'.1 hsome
    exact .inr (.inl ⟨hsource, htarget, ⟨trigger, htrigger, fun he => hne (he ▸ htrigger)⟩, hfalls⟩)
  · simp_all [and_assoc]
  · simp_all [and_assoc]
  · cases h

theorem forcedTrigger_of_ne {trigger : SleepTrigger} (h : trigger ≠ .fatigueThreshold) :
    forcedTrigger trigger = trigger := by
  cases trigger <;> first | rfl | exact absurd rfl h

theorem reachable_fallAsleep_iff {source target : SleepState} {latest : Tick}
    (hs : source.Valid) (ht : target.Valid)
    (hlatest : target.phaseStartedTick.raw ≤ latest.raw) (hnone : source.consolidation = .none)
    (hsource : source.phase = .awake) (hfalls : fallsAsleepCanonically source target = true)
    (htarget : (target.phase = .enteringSleep ∧ target.lastTrigger = some .fatigueThreshold) ∨
      (target.phase = .forcedRecoverySleep ∧
        ∃ trigger, target.lastTrigger = some trigger ∧ trigger ≠ .fatigueThreshold)) :
    ReachableWithin source target latest ↔
      source.phaseStartedTick.raw ≤ target.phaseStartedTick.raw := by
  constructor
  · intro h
    rcases h.cases with rfl | ⟨config, call, -, e⟩
    · exact UInt64.le_refl _
    cases e with
    | drowse h p tick r phase trigger id hphase htick => exact htick
    | forceAwake tick trigger id hphase htick => exact htick
    | forceAsleep tick trigger hphase => exact absurd hsource hphase
    | consolidate tick htick hdue =>
      rcases hdue with ⟨hphase, -⟩ | ⟨hphase, -⟩ <;> simp [hsource] at hphase
    | startWaking tick htick hphase => simp [hsource] at hphase
    | wake tick htick hphase => simp [hsource] at hphase
    | progress event next hphase => simp [hsource] at hphase
  · intro htick
    rcases htarget with ⟨hphase, htrigger⟩ | ⟨hphase, trigger, htrigger, hne⟩
    · obtain ⟨hid, heq⟩ := fallenAsleep_of_canonical hs ht hfalls hnone htrigger
      obtain ⟨r, hr, hd⟩ := sleepDecision_eager
      rw [hphase] at heq
      have e : SleepEdge eagerConfig source (.evaluateHomeostasis (.baseline .zero) .reference
          target.phaseStartedTick) target :=
        heq ▸ .drowse _ _ _ r _ _ _ hsource htick (by decide) (by decide) hr hd hid
      exact .of_edge eagerConfig_valid (fun _ h => by cases h; exact hlatest) ht e
    · obtain ⟨hid, heq⟩ := fallenAsleep_of_canonical hs ht hfalls hnone htrigger
      rw [hphase] at heq
      have e : SleepEdge eagerConfig source (.forceSleep target.phaseStartedTick trigger) _ :=
        .forceAwake target.phaseStartedTick trigger _ hsource htick hid
      rw [forcedTrigger_of_ne hne, ← heq] at e
      exact .of_edge eagerConfig_valid (fun _ h => by cases h; exact hlatest) ht e

theorem reachable_consolidate_iff {source target : SleepState} {latest : Tick}
    (ht : target.Valid) (hlatest : target.phaseStartedTick.raw ≤ latest.raw)
    (hsource : source.phase = .enteringSleep ∨ source.phase = .forcedRecoverySleep)
    (htarget : target.phase = .consolidating)
    (hentered : source.enteredSleepTick = target.enteredSleepTick)
    (htrigger : source.lastTrigger = target.lastTrigger)
    (hactive : source.activeCycleId = target.activeCycleId)
    (hmatch : sleepCycleFieldsMatch source target = true) :
    ReachableWithin source target latest ↔
      source.phaseStartedTick.raw < target.phaseStartedTick.raw ∧ source.lastTrigger ≠ none := by
  constructor
  · intro h
    rcases h.cases with rfl | ⟨config, call, hconfig, e⟩
    · rw [htarget] at hsource
      simp at hsource
    obtain ⟨he, hw, hf⟩ := SleepConsolidationConfig.durations_pos hconfig
    cases e with
    | consolidate tick htick hdue =>
      refine ⟨elapsed_pos_iff.1 ?_, by rw [htrigger]; exact Option.some_ne_none _⟩
      rcases hdue with ⟨-, hdue⟩ | ⟨-, hdue⟩
      · exact he.trans_le hdue
      · exact hf.trans_le hdue
    | drowse h p tick r phase trigger id hphase => simp [hphase] at hsource
    | forceAwake tick trigger id hphase => simp [hphase] at hsource
    | progress event next hphase => simp [hphase] at hsource
    | _ => cases htarget
  · rintro ⟨hlt, hsome⟩
    have heq := movedTo_of_canonical ht htarget hentered htrigger hsome hactive hmatch
    have hdue : 1 ≤ elapsed source target.phaseStartedTick := elapsed_pos_iff.2 hlt
    have e : SleepEdge eagerConfig source (.advance target.phaseStartedTick) target :=
      heq ▸ .consolidate _ (UInt64.le_of_lt hlt)
        (hsource.imp (fun h => ⟨h, hdue⟩) (fun h => ⟨h, hdue⟩))
    exact .of_edge eagerConfig_valid (fun _ h => by cases h; exact hlatest) ht e

theorem eq_movedTo_waking_iff {source target : SleepState} (ht : target.Valid)
    (hsame : source.consolidation = target.consolidation) :
    target = source.movedTo .waking target.phaseStartedTick ↔ WakingCarriedOver source target := by
  refine ⟨fun h => by rw [h]; simp [WakingCarriedOver, SleepState.movedTo], fun h => ?_⟩
  have := ht.version
  cases target
  simp_all [WakingCarriedOver, SleepState.movedTo]

theorem eq_woken_iff {source target : SleepState} (ht : target.Valid)
    (hawake : target.phase = .awake) :
    target = source.woken target.phaseStartedTick ↔ WakeCarriedOver source target := by
  refine ⟨fun h => by rw [h]; simp [WakeCarriedOver, SleepState.woken], fun h => ?_⟩
  have hversion := ht.version
  have hactive := ht.awake hawake
  have hnone := ht.idle (by simp [hawake]) (by simp [hawake])
  cases target
  simp_all [WakeCarriedOver, SleepState.woken]

theorem reachable_committed_iff {source target : SleepState} {latest : Tick} (hs : source.Valid)
    (ht : target.Valid) (hlatest : source.phaseStartedTick.raw ≤ latest.raw)
    (htlatest : target.phaseStartedTick.raw ≤ latest.raw)
    (hcommitted : source.consolidation.isCommitted = true)
    (hsame : source.consolidation = target.consolidation) :
    ReachableWithin source target latest ↔ target = source ∨
      (source.phase = .consolidating ∧
        source.phaseStartedTick.raw ≤ target.phaseStartedTick.raw ∧
        WakingCarriedOver source target) := by
  rw [← eq_movedTo_waking_iff ht hsame]
  have hasleep : source.phase = .consolidating ∨ source.phase = .waking := by
    by_contra h
    push Not at h
    rw [hs.idle h.1 h.2] at hcommitted
    cases hcommitted
  constructor
  · intro h
    rcases h.cases with rfl | ⟨config, call, -, e⟩
    · exact .inl rfl
    cases e with
    | startWaking tick htick hphase => exact .inr ⟨hphase, htick, rfl⟩
    | consolidate tick htick hdue =>
      rcases hdue with ⟨hphase, -⟩ | ⟨hphase, -⟩ <;> simp [hphase] at hasleep
    | progress event next hphase hactive hnext =>
      rw [nextConsolidation_open hnext] at hcommitted
      cases hcommitted
    | _ =>
      rw [hsame] at hcommitted
      cases hcommitted
  · rintro (rfl | ⟨hphase, htick, htarget⟩)
    · exact .refl (by rcases hasleep with h | h <;> simp [h]) hlatest
    · have e : SleepEdge eagerConfig source (.advance target.phaseStartedTick) target :=
        htarget ▸ .startWaking _ htick hphase hcommitted
      exact .of_edge eagerConfig_valid (fun _ h => by cases h; exact htlatest) ht e

theorem reachable_wake_iff {source target : SleepState} {latest : Tick} (hs : source.Valid)
    (ht : target.Valid) (htlatest : target.phaseStartedTick.raw ≤ latest.raw)
    (hcommitted : source.consolidation.isCommitted = true) (hawake : target.phase = .awake) :
    ReachableWithin source target latest ↔
      source.phase = .waking ∧ source.phaseStartedTick.raw < target.phaseStartedTick.raw ∧
        WakeCarriedOver source target := by
  rw [← eq_woken_iff ht hawake]
  constructor
  · intro h
    rcases h.cases with rfl | ⟨config, call, hconfig, e⟩
    · have := hs.idle (by simp [hawake]) (by simp [hawake])
      simp [this] at hcommitted
    cases e with
    | wake tick htick hphase hdue =>
      have hpos := (SleepConsolidationConfig.durations_pos hconfig).2.1
      exact ⟨hphase, elapsed_pos_iff.1 (hpos.trans_le hdue), rfl⟩
    | drowse h p tick r phase trigger id hphase htick hh hp hr hd =>
      exact absurd hawake (sleepDecision_ne_awake hd)
    | progress event next hphase => simp [hphase] at hawake
    | _ => cases hawake
  · rintro ⟨hphase, hlt, htarget⟩
    have e : SleepEdge eagerConfig source (.advance target.phaseStartedTick) target :=
      htarget ▸ .wake _ (UInt64.le_of_lt hlt) hphase (elapsed_pos_iff.2 hlt) hcommitted
    exact .of_edge eagerConfig_valid (fun _ h => by cases h; exact htlatest) ht e

/-! ### Accepted entries -/

/-- A permitted transition from one valid state to another is reachable exactly
when it carries over what the controller does. -/
theorem reachable_iff_carriedOver {source target : SleepState} {latest : Tick}
    (hs : source.Valid) (ht : target.Valid) (hlatest : source.phaseStartedTick.raw ≤ latest.raw)
    (htlatest : target.phaseStartedTick.raw ≤ latest.raw)
    (hpermitted : transitionPermitted source target = true) :
    ReachableWithin source target latest ↔ CarriedOver source target := by
  unfold transitionPermitted at hpermitted
  unfold CarriedOver
  split at hpermitted
  case h_1 hcs hct =>
    simp only [hcs, hct]
    rcases canonicalPrePendingPhaseEdge_cases hpermitted with
      ⟨hsource, htarget, htrigger, hfalls⟩ | ⟨hsource, htarget, htrigger, hfalls⟩ |
      ⟨hsource, htarget, hentered, htrigger, hactive, hmatch⟩
    · rw [if_pos hsource]
      exact reachable_fallAsleep_iff hs ht htlatest hcs hsource hfalls (.inl ⟨htarget, htrigger⟩)
    · rw [if_pos hsource]
      exact reachable_fallAsleep_iff hs ht htlatest hcs hsource hfalls (.inr ⟨htarget, htrigger⟩)
    · rw [if_neg (by rcases hsource with h | h <;> simp [h])]
      exact reachable_consolidate_iff ht htlatest hsource htarget hentered htrigger hactive hmatch
  case h_2 intent replayDigest events samples hcs hct =>
    simp only [Bool.and_eq_true, decide_eq_true_eq] at hpermitted
    obtain ⟨⟨hphase, hintent⟩, hid⟩ := hpermitted
    simp only [hcs, hct, iff_true]
    refine .of_progress latest hs ht hphase hid
      (.replayAssetPersisted intent replayDigest events samples) ?_
    rw [hcs, hct, nextConsolidation, if_pos hintent]
  case h_3 intent replayDigest events samples request hcs hct =>
    simp only [Bool.and_eq_true, decide_eq_true_eq] at hpermitted
    obtain ⟨⟨⟨hrequest, hdigest⟩, hevents⟩, hsamples⟩ := hpermitted
    simp only [hcs, hct]
    refine ⟨fun h => h.identityUnchanged (by simp [hct]) (by simp [hcs, hct]), fun hid => ?_⟩
    have hphase := hs.consolidating (by simp [hcs]) (by simp [hcs, ConsolidationState.isCommitted])
    refine .of_progress latest hs ht hphase hid (.prepared request) ?_
    have hintent : intent.cycleId = source.activeCycleId := by
      have hcycle := hs.cycle
      rw [hcs] at hcycle
      simp only [ConsolidationState.validateForCycle, contract_seq_eq_ok_iff,
        reject_eq_ok_iff] at hcycle
      exact not_not.1 fun h => hcycle.2 (.inl h)
    have hvalid : request.validateContract = .ok () := by
      have hcycle := ht.cycle
      rw [hct] at hcycle
      simp only [ConsolidationState.validateForCycle, contract_seq_eq_ok_iff] at hcycle
      exact hcycle.1
    rw [hcs, hct, nextConsolidation,
      if_pos ⟨hrequest.trans hintent.symm, hdigest, hevents, hsamples⟩, hvalid]
    rfl
  case h_4 request request' jobId hcs hct =>
    simp only [decide_eq_true_eq] at hpermitted
    simp only [hcs, hct]
    refine ⟨fun h => h.identityUnchanged (by simp [hct]) (by simp [hcs, hct]), fun hid => ?_⟩
    have hphase := hs.consolidating (by simp [hcs]) (by simp [hcs, ConsolidationState.isCommitted])
    refine .of_progress latest hs ht hphase hid (.submitted request' jobId) ?_
    rw [hcs, hct, nextConsolidation, if_pos hpermitted.symm]
  case h_5 request staged cycleId generation digest hcs hct =>
    simp only [Bool.and_eq_true, decide_eq_true_eq] at hpermitted
    obtain ⟨⟨⟨hcycle, hgeneration⟩, hdigest⟩, hid⟩ := hpermitted
    simp only [hcs, hct, iff_true]
    have hphase := hs.consolidating (by simp [hcs]) (by simp [hcs, ConsolidationState.isCommitted])
    refine .of_progress latest hs ht hphase hid (.committed cycleId generation digest) ?_
    rw [hcs, hct, nextConsolidation, if_pos ⟨hcycle, hgeneration, hdigest⟩]
  case h_6 hcs hct =>
    simp only [decide_eq_true_eq] at hpermitted
    simp only [hcs, hct]
    exact reachable_committed_iff hs ht hlatest htlatest (by simp [hcs]) hpermitted
  case h_7 hcs hct =>
    simp only [decide_eq_true_eq] at hpermitted
    simp only [hcs, hct]
    exact reachable_wake_iff hs ht htlatest (by simp [hcs]) hpermitted
  case h_8 => cases hpermitted

/-- An accepted entry, alone or in an accepted journal, is a transition the
controller can make exactly when it carries over what the controller does. -/
theorem accepted_entry_reachable_iff {e : GpuSleepTransactionJournalEntryV2}
    (h : e.validate = .ok () ∨ ∃ j : GpuSleepTransactionJournalV2,
      j.validate = .ok () ∧ e ∈ j.entries) :
    ReachableWithin e.source e.target e.transitionTick ↔ CarriedOver e.source e.target := by
  have haccepted : e.Accepted := by
    rcases h with h | ⟨j, hj, he⟩
    · exact GpuSleepTransactionJournalEntryV2.accepted_of_validate h
    · exact GpuSleepTransactionJournalEntryV2.accepted_of_validate (j.entry_validate hj he)
  exact reachable_iff_carriedOver haccepted.source haccepted.target haccepted.sourceTick
    haccepted.targetTick haccepted.permitted

/-- An entry for the transition, its digest in place. -/
def sampleEntry (tick : Tick) (source target : SleepState) : GpuSleepTransactionJournalEntryV2 :=
  let e : GpuSleepTransactionJournalEntryV2 :=
    { organismId := ⟨1⟩, transitionTick := tick, transitionOrdinal := 0, source, target
      rollbackToExactBase := true, entryDigest := .zero }
  { e with entryDigest := e.recomputeDigest.toOption.getD .zero }

/-- A creature that committed cycle 1 and has not started waking. -/
def committedAsleep : SleepState where
  schemaVersion := SchemaKind.sleepConsolidation.current
  phase := .consolidating
  phaseStartedTick := ⟨8⟩
  enteredSleepTick := some .zero
  cyclesCompleted := 0
  lastTrigger := some .forcedRequest
  activeCycleId := 1
  lastConsolidatedCycleId := 0
  consolidation := .committed 1 2 ⟨9, 9, 9, 9⟩

/-- The creature awake since before it slept, with cycles it never slept. -/
def forgedAwake : SleepState :=
  { SleepState.awakeAt .zero with cyclesCompleted := 9, lastConsolidatedCycleId := 7 }

/-- A journal of one entry, its digest in place. -/
def sampleJournal (e : GpuSleepTransactionJournalEntryV2) : GpuSleepTransactionJournalV2 :=
  let j : GpuSleepTransactionJournalV2 :=
    { schemaVersion := 2, exactBaseManifestDigest := .forBytes [], exactBaseCheckpointTick := ⟨8⟩
      entries := [e], journalDigest := .zero }
  { j with journalDigest := j.recomputeDigest }

/-- An accepted journal with a wake no controller makes. -/
theorem accepted_entry_forged :
    (sampleJournal (sampleEntry ⟨9⟩ committedAsleep forgedAwake)).validate = .ok () ∧
      (sampleEntry ⟨9⟩ committedAsleep forgedAwake).validate = .ok () ∧
      ¬ReachableWithin committedAsleep forgedAwake ⟨9⟩ := by
  refine ⟨by decide +kernel, by decide +kernel, fun h => ?_⟩
  have := (reachable_wake_iff (SleepState.validateContract_eq_ok_iff.1 (by decide))
    (SleepState.validateContract_eq_ok_iff.1 (by decide)) (by decide) rfl rfl).1 h
  exact absurd this.1 (by decide)

/-- Starting to wake is carried over. -/
theorem accepted_entry_reachable_startWaking :
    ReachableWithin committedAsleep (committedAsleep.movedTo .waking ⟨9⟩) ⟨9⟩ :=
  (accepted_entry_reachable_iff
    (e := sampleEntry ⟨9⟩ committedAsleep (committedAsleep.movedTo .waking ⟨9⟩))
    (.inl (by decide +kernel))).2 (.inr ⟨rfl, by decide, rfl, rfl, rfl, rfl, rfl, rfl⟩)

end ALife
