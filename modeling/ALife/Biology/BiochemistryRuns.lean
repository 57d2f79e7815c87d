/-
# A body's next step

Every state a body reaches passes its own validation, and every valid event with
a frame of its tick takes it one step further (`body_steps`), with one exception:
a pulse that is pending is pushed onto the frame at hand, and a frame that is
already full refuses it.  The creature then cannot advance and the pulse stays.
-/

import ALife.Biology.Biochemistry
import ALife.Machine.Checks

namespace ALife
namespace Biology

variable {K : Type} [Field K] [LinearOrder K]

/-! ## Readiness -/

/-- What the readiness of a development is derived from. -/
structure CreaturePhenotype.Grows (p : CreaturePhenotype K) : Prop where
  genomeId : p.brainGenome.id.validate = .ok ()
  criticalPeriod : p.development.criticalPeriod.validateContract = .ok ()

/-- A development that passes its check and is as old as it says. -/
structure DevelopmentReadiness.At (d : DevelopmentReadiness K) (age : Tick) : Prop where
  aged : d.ageTicks = age
  fresh : d.lastUpdateTick.raw ≤ age.raw
  maturation : IsUnit d.maturation
  bias : IsUnit d.criticalPeriodPlasticityBias
  expression : IsUnit d.biochemicalExpression

theorem DevelopmentReadiness.validateContract_eq_ok_iff {d : DevelopmentReadiness K} :
    d.validateContract = .ok () ↔ d.At d.ageTicks := by
  unfold validateContract
  constructor
  · intro h
    obtain ⟨_, htick, h⟩ := contract_bind_eq_ok_iff.1 h
    rw [validateUnitValues_eq_ok_iff] at h
    exact ⟨rfl, (Tick.validateMonotonic_eq_ok_iff.1 htick).1, h _ (by simp), h _ (by simp),
      h _ (by simp)⟩
  · intro h
    refine contract_bind_eq_ok_iff.2 ⟨_, Tick.validateMonotonic_eq_ok_iff.2 ⟨h.fresh, rfl⟩, ?_⟩
    rw [validateUnitValues_eq_ok_iff]
    simp only [List.forall_mem_cons, List.not_mem_nil, false_implies, implies_true, and_true]
    exact ⟨h.maturation, h.bias, h.expression⟩

theorem ReproductionReadiness.derive_ok (last : Tick) (body : BodyState K)
    (homeostasis : HomeostaticSnapshot K) (development : DevelopmentReadiness K) {mating : K}
    (hmating : IsUnit mating) (p : CreaturePhenotype K) :
    ∃ r, ReproductionReadiness.derive last body homeostasis development mating p = .ok r ∧
      r.lastUpdateTick = last ∧ r.validateContract = .ok () := by
  refine ⟨_, contract_check_eq_ok_iff.2 ⟨?_, rfl⟩, rfl, ?_⟩ <;>
    · rw [validateContract, validateUnitValues_eq_ok_iff]
      exact fun v hv => List.mem_singleton.1 hv ▸ hmating

section Readiness

variable [IsStrictOrderedRing K]

theorem developmentStateAt_ok {p : CreaturePhenotype K} (hp : p.Grows) (age : Tick) :
    ∃ d, p.developmentStateAt age = .ok d := by
  have hmaturation : normalized (clamp01 ((age.raw.toNat : K)
      / (p.development.maturationDurationTicks : K))) = .ok ⟨_, isUnit_clamp01 _⟩ :=
    normalized_eq_ok_iff.2 rfl
  have hperiods : (if p.development.criticalPeriod.opensAt.raw ≤ age.raw
      ∧ age.raw ≤ p.development.criticalPeriod.closesAt.raw then [p.development.criticalPeriod]
      else []).forM CriticalPeriod.validateContract = .ok () := by
    rw [contract_forM_eq_ok_iff]
    intro c hc
    split_ifs at hc
    · rw [List.mem_singleton.1 hc]
      exact hp.criticalPeriod
    · exact absurd hc List.not_mem_nil
  exact ⟨_, contract_bind_eq_ok_iff.2 ⟨_, hmaturation, contract_check_eq_ok_iff.2
    ⟨hp.genomeId, contract_check_eq_ok_iff.2 ⟨hperiods, rfl⟩⟩⟩⟩

/-- Readiness is derived at every age. -/
theorem DevelopmentReadiness.derive_ok {p : CreaturePhenotype K} (hp : p.Grows)
    {age last : Tick} (hlast : last.raw ≤ age.raw) :
    ∃ d, DevelopmentReadiness.derive p age last = .ok d ∧ d.At age := by
  obtain ⟨state, hstate⟩ := developmentStateAt_ok hp age
  have hbias :
      IsUnit ((state.openCriticalPeriods.head?.map (·.plasticityBias.raw)).getD (0 : K)) := by
    cases state.openCriticalPeriods.head? with
    | none => exact isUnit_zero
    | some c => exact c.plasticityBias.isUnit
  have hexpression : ∀ gate : K, IsUnit (if gate = 0 then (1 : K)
      else clamp01 (state.maturation.raw / gate)) := by
    intro gate
    split_ifs
    · exact isUnit_one
    · exact isUnit_clamp01 _
  refine ⟨_, contract_bind_eq_ok_iff.2 ⟨state, hstate, contract_check_eq_ok_iff.2
    ⟨validateContract_eq_ok_iff.2 ?_, rfl⟩⟩, ?_⟩ <;>
    exact ⟨rfl, hlast, state.maturation.isUnit, hbias, hexpression _⟩

end Readiness

/-! ## The invariant -/

/-- A phenotype that gave birth to a body. -/
structure CreaturePhenotype.Lives (p : CreaturePhenotype K) : Prop where
  body : p.body.Sound
  grows : p.Grows
  graph : p.chemistry.biochemical.Sound
  brain : p.brainGenome.contract = .ok ()
  profile : p.chemistry.biochemical.valueProfile.validateContract = .ok ()
  genomeId : p.sourceGenomeId.validate = .ok ()

namespace BiochemistryState

/-- What holds of the biochemistry of a living body. -/
structure Inv (p : CreaturePhenotype K) (s : BiochemistryState K) : Prop where
  body : s.body.Sound
  homeostasis : s.homeostasis.validateContract = .ok ()
  homeostasisTick : s.homeostasis.tick = s.tick
  graph : s.graphState.Fits p.chemistry.biochemical
  graphTick : s.graphState.tick = s.tick
  development : s.development.At s.development.ageTicks
  age : s.development.ageTicks.raw ≤ s.tick.raw
  reproduction : s.reproduction.validateContract = .ok ()
  reproductionFresh : s.reproduction.lastUpdateTick.raw ≤ s.development.ageTicks.raw
  pending : s.checkPending = .ok ()
  genome : s.sourceGenomeId = p.sourceGenomeId
  profile : s.valueProfile = p.chemistry.biochemical.valueProfile
  cadence : s.cadence = .earlyMammal

variable {p : CreaturePhenotype K} {s s' : BiochemistryState K}

/-- The pulse check is part of the state's. -/
theorem checkPending_of_valid (h : s.validateContract = .ok ()) : s.checkPending = .ok () := by
  rw [validateContract] at h
  simp only [contract_seq_eq_ok_iff] at h
  exact h.2.2.2.2.2.2.2.2.1

section Laws

variable [IsStrictOrderedRing K]

/-- **The invariant passes the state's own validation.** -/
theorem Inv.valid (h : Inv p s) (hp : p.Lives) :
    s.validateContract = .ok () ∧ s.validateAgainst p = .ok () := by
  have hcontract : s.validateContract = .ok () := by
    rw [validateContract]
    simp only [contract_seq_eq_ok_iff, reject_eq_ok_iff]
    refine ⟨h.profile ▸ hp.profile, h.genome ▸ hp.genomeId,
      BodyState.validateContract_eq_ok_iff.2 h.body, h.homeostasis, (h.graph.valid hp.graph).1,
      DevelopmentReadiness.validateContract_eq_ok_iff.2 h.development, h.reproduction,
      h.cadence ▸ rfl, h.pending, ?_⟩
    simp only [not_or, not_not, ne_eq, UInt64.not_lt]
    exact ⟨h.homeostasisTick, h.graphTick, h.age, UInt64.le_trans h.development.fresh h.age,
      h.reproductionFresh, UInt64.le_trans h.reproductionFresh h.age⟩
  refine ⟨hcontract, ?_⟩
  rw [validateAgainst, hcontract]
  simp only [contract_seq_eq_ok_iff, reject_eq_ok_iff, not_or, not_not, ne_eq]
  exact ⟨trivial, ⟨h.genome, h.profile⟩, (h.graph.valid hp.graph).2⟩

/-- A body is born with the invariant, of a phenotype that can live. -/
theorem inv_newWithAge (hp : p.body.Sound)
    (hperiod : p.development.criticalPeriod.validateContract = .ok ()) {tick age : Tick}
    (h : newWithAge p tick age = .ok s) : p.Lives ∧ Inv p s := by
  rw [newWithAge] at h
  obtain ⟨hbrain, h⟩ := contract_check_eq_ok_iff.1 h
  obtain ⟨-, h⟩ := contract_check_eq_ok_iff.1 h
  obtain ⟨-, h⟩ := contract_check_eq_ok_iff.1 h
  obtain ⟨development, hdevelopment, h⟩ := contract_bind_eq_ok_iff.1 h
  obtain ⟨graphState, hgraph, h⟩ := contract_bind_eq_ok_iff.1 h
  obtain ⟨homeostasis, hhomeostasis, h⟩ := contract_bind_eq_ok_iff.1 h
  obtain ⟨reproduction, hreproduction, h⟩ := contract_bind_eq_ok_iff.1 h
  obtain ⟨hvalid, h⟩ := contract_check_eq_ok_iff.1 h
  cases h
  have hgrows : p.Grows := by
    obtain ⟨state, hstate, -⟩ := contract_bind_eq_ok_iff.1 hdevelopment
    obtain ⟨_, -, hstate⟩ := contract_bind_eq_ok_iff.1 hstate
    exact ⟨(contract_check_eq_ok_iff.1 hstate).1, hperiod⟩
  obtain ⟨hsound, hfits, hgraphTick⟩ := BiochemicalGraphState.new_spec hgraph
  obtain ⟨d, hd, hdat⟩ := DevelopmentReadiness.derive_ok hgrows
    (cadenceBoundary_le age BiochemistryCadence.earlyMammal.developmentTicks)
  obtain rfl : d = development := Except.ok.inj (hd.symm.trans hdevelopment)
  obtain ⟨t, ht, htvalid, httick⟩ := hfits.homeostasis hsound
  obtain rfl : t = homeostasis := Except.ok.inj (ht.symm.trans hhomeostasis)
  obtain ⟨r, hr, hrlast, hrvalid⟩ := ReproductionReadiness.derive_ok
    (cadenceBoundary age BiochemistryCadence.earlyMammal.reproductionTicks)
    (BodyState.baseline p) t d isUnit_zero p
  obtain rfl : r = reproduction := Except.ok.inj (hr.symm.trans hreproduction)
  rw [validateAgainst] at hvalid
  simp only [contract_seq_eq_ok_iff, validateContract, reject_eq_ok_iff, not_or, not_not,
    UInt64.not_lt, ne_eq] at hvalid
  obtain ⟨⟨hprofile, hid, -, -, -, -, -, -, -, -, -, hage, -⟩, -⟩ := hvalid
  refine ⟨⟨hp, hgrows, hsound, hbrain, hprofile, hid⟩, ⟨BodyState.baseline_sound p, htvalid,
    httick.trans hgraphTick, hfits, hgraphTick, hdat.aged ▸ hdat, hage, hrvalid, ?_, rfl, rfl,
    rfl, rfl⟩⟩
  rw [hrlast, hdat.aged]
  exact cadenceBoundary_le age _

/-- A debit of energy keeps the invariant. -/
theorem Inv.debit (h : Inv p s) {b : BodyState K} {debit applied : K}
    (hdebit : s.body.debitEnergyProRata debit = .ok (applied, b)) :
    Inv p { s with body := b } :=
  { h with body := (BodyState.debit_spec hdebit).1 }

end Laws

/-- A pulse that is accepted changes nothing but what is pending. -/
theorem withPulse_spec {sequenceId : ExperienceSequenceId} {epoch : UInt64}
    {activity confidence : K}
    (h : s.withPredictionResidualPulse sequenceId epoch activity confidence = .ok s') :
    (∃ pulse, s' = { s with pendingPredictionResidual := some pulse }) ∧
      s'.checkPending = .ok () := by
  rw [withPredictionResidualPulse] at h
  obtain ⟨-, h⟩ := contract_check_eq_ok_iff.1 h
  obtain ⟨-, h⟩ := contract_check_eq_ok_iff.1 h
  obtain ⟨hvalid, h⟩ := contract_check_eq_ok_iff.1 h
  cases h
  exact ⟨⟨_, rfl⟩, checkPending_of_valid hvalid⟩

theorem Inv.withPulse (h : Inv p s) {sequenceId : ExperienceSequenceId} {epoch : UInt64}
    {activity confidence : K}
    (hpulse : s.withPredictionResidualPulse sequenceId epoch activity confidence = .ok s') :
    Inv p s' := by
  obtain ⟨⟨pulse, rfl⟩, hpending⟩ := withPulse_spec hpulse
  exact { h with pending := hpending }

/-! ## One step -/

/-- A step's inputs as its callers promise them: a valid event, a valid frame of the state's own
tick, and ticks and ages in order. -/
structure Accepts (s : BiochemistryState K) (nextTick nextAge : Tick) (event : BodyEventDelta K)
    (neural : Option (NeuralEmissionFrame K)) : Prop where
  event : event.validateContract = .ok ()
  frame : ∀ f ∈ neural, f.validateContract = .ok () ∧ f.sourceTick = s.tick
  tick : s.tick.raw ≤ nextTick.raw
  age : s.development.ageTicks.raw ≤ nextAge.raw
  order : nextAge.raw ≤ nextTick.raw

/-- There is room for a pending pulse: none is pending, or the frame is not full. -/
def HasRoom (s : BiochemistryState K) (neural : Option (NeuralEmissionFrame K)) : Prop :=
  s.pendingPredictionResidual = none ∨ ∀ f ∈ neural, f.emissions.length < maxNeuralEmissions

/-- The frame with the pulse as one more emission; without a frame, a frame of the pulse alone. -/
def pulseFrame (s : BiochemistryState K) (pulse : PendingPredictionResidualV1 K)
    (neural : Option (NeuralEmissionFrame K)) : NeuralEmissionFrame K where
  schemaVersion := biochemicalGraphSchemaVersion
  sourceTick := (neural.map (·.sourceTick)).getD s.tick
  graphEpoch := (neural.map (·.graphEpoch)).getD pulse.graphEpoch
  emissions := (neural.map (·.emissions)).getD []
    ++ [⟨.predictionResidual, pulse.activity, pulse.confidence⟩]

/-- The emission of a pulse that passed its check, and its epoch. -/
theorem pulse_valid {pulse : PendingPredictionResidualV1 K} {tick : Tick}
    (h : pulse.validateAt tick = .ok ()) :
    NeuralEmission.validateContract ⟨.predictionResidual, pulse.activity, pulse.confidence⟩
      = .ok () ∧ pulse.graphEpoch ≠ 0 := by
  rw [PendingPredictionResidualV1.validateAt] at h
  obtain ⟨hepoch, h⟩ := contract_check_eq_ok_iff.1 h
  obtain ⟨-, h⟩ := contract_check_eq_ok_iff.1 h
  obtain ⟨_, hemission, -⟩ := contract_bind_eq_ok_iff.1 h
  rw [reject_eq_ok_iff, not_or] at hepoch
  exact ⟨(contract_check_eq_ok_iff.1 hemission).1, hepoch.2⟩

/-- Where there is room, the pulse frame is a valid frame of the same tick. -/
theorem pulseFrame_valid {pulse : PendingPredictionResidualV1 K}
    {neural : Option (NeuralEmissionFrame K)} {nextTick nextAge : Tick}
    {event : BodyEventDelta K} (hpending : s.checkPending = .ok ())
    (hpulse : s.pendingPredictionResidual = some pulse)
    (ha : s.Accepts nextTick nextAge event neural) :
    (s.pulseFrame pulse neural).sourceTick = s.tick ∧
      ((s.pulseFrame pulse neural).validateContract = .ok () ↔
        ∀ f ∈ neural, f.emissions.length < maxNeuralEmissions) := by
  rw [checkPending, hpulse] at hpending
  obtain ⟨hemission, hepoch⟩ := pulse_valid hpending
  rw [NeuralEmissionFrame.validateContract_eq_ok_iff]
  cases neural with
  | none =>
    refine ⟨rfl, iff_of_true ⟨rfl, hepoch, ?_, ?_⟩ fun f hf => absurd hf (Option.not_mem_none f)⟩
    · exact of_decide_eq_true rfl
    · exact fun e he => List.mem_singleton.1 he ▸ hemission
  | some f =>
    obtain ⟨hf, htick⟩ := ha.frame f rfl
    obtain ⟨-, hfepoch, -, hemissions⟩ := NeuralEmissionFrame.validateContract_eq_ok_iff.1 hf
    refine ⟨htick, ?_⟩
    have hlen : (s.pulseFrame pulse (some f)).emissions.length = f.emissions.length + 1 :=
      List.length_append
    constructor
    · rintro ⟨-, -, hle, -⟩ g hg
      rw [← Option.mem_some_iff.1 hg]
      omega
    · intro hroom
      have := hroom f rfl
      refine ⟨rfl, hfepoch, by omega, fun e he => ?_⟩
      rcases List.mem_append.1 he with he | he
      · exact hemissions e he
      · exact List.mem_singleton.1 he ▸ hemission

/-- The pulse is merged exactly where there is room for it. -/
theorem pendingFrame_some {pulse : PendingPredictionResidualV1 K}
    {neural : Option (NeuralEmissionFrame K)} {nextTick nextAge : Tick}
    {event : BodyEventDelta K} (hpending : s.checkPending = .ok ())
    (hpulse : s.pendingPredictionResidual = some pulse)
    (ha : s.Accepts nextTick nextAge event neural) {o : Option (NeuralEmissionFrame K)} :
    s.pendingFrame neural = .ok o ↔
      (∀ f ∈ neural, f.emissions.length < maxNeuralEmissions) ∧
        o = some (s.pulseFrame pulse neural) := by
  have hneural : neural.forM NeuralEmissionFrame.validateContract = .ok () := by
    cases neural with
    | none => rfl
    | some f => exact (ha.frame f rfl).1
  have hemission : NeuralEmission.new .predictionResidual pulse.activity pulse.confidence
      = .ok ⟨.predictionResidual, pulse.activity, pulse.confidence⟩ := by
    rw [checkPending, hpulse] at hpending
    exact contract_check_eq_ok_iff.2 ⟨(pulse_valid hpending).1, rfl⟩
  have hframe : s.pendingFrame neural = (do
      (s.pulseFrame pulse neural).validateContract
      pure (some (s.pulseFrame pulse neural))) := by
    rw [pendingFrame, hpulse]
    dsimp only
    rw [hneural, hemission]
    show ((do (s.pulseFrame pulse neural).validateContract; pure _) >>= _) = _
    cases (s.pulseFrame pulse neural).validateContract <;> rfl
  rw [hframe, contract_check_eq_ok_iff, (pulseFrame_valid hpending hpulse ha).2]
  exact and_congr_right fun _ => ⟨fun h => (Except.ok.inj h).symm, fun h => h ▸ rfl⟩

/-! ## The parts of a step -/

variable {nextTick nextAge : Tick} {event : BodyEventDelta K}
  {neural : Option (NeuralEmissionFrame K)}

theorem Inv.nextReproduction_ok (h : Inv p s) {mating : K} (hmating : IsUnit mating)
    (hage : s.development.ageTicks.raw ≤ nextAge.raw) (body : BodyState K)
    (homeostasis : HomeostaticSnapshot K) (development : DevelopmentReadiness K) :
    ∃ r, s.nextReproduction nextAge body homeostasis development mating p = .ok r ∧
      r.lastUpdateTick.raw ≤ nextAge.raw ∧ r.validateContract = .ok () := by
  have hold : IsUnit s.reproduction.matingOpportunity :=
    validateUnitValues_eq_ok_iff.1 h.reproduction _ List.mem_cons_self
  have hfresh := UInt64.le_trans h.reproductionFresh hage
  unfold nextReproduction
  split_ifs
  · obtain ⟨r, hr, hlast, hvalid⟩ := ReproductionReadiness.derive_ok _ body homeostasis development
      hmating p
    exact ⟨r, hr, hlast ▸ cadenceBoundary_le _ _, hvalid⟩
  · have hmax : IsUnit (max mating s.reproduction.matingOpportunity) :=
      ⟨hmating.1.trans (le_max_left _ _), max_le hmating.2 hold.2⟩
    obtain ⟨r, hr, hlast, hvalid⟩ := ReproductionReadiness.derive_ok _ body homeostasis development
      hmax p
    exact ⟨r, hr, hlast ▸ hfresh, hvalid⟩
  · exact ⟨_, rfl, hfresh, h.reproduction⟩

/-- The regulation is read without an error, and the event keeps its wounds, sleep and mates. -/
theorem Inv.exertion_ok [FloorRing K] (h : Inv p s) (hp : p.Lives) (nextTick : Tick)
    (hevent : event.validateContract = .ok ()) :
    ∃ x, s.exertion nextTick event p = .ok x ∧ x.Sound ∧
      x.event.matingOpportunity = event.matingOpportunity := by
  obtain ⟨hregulation, hsleep⟩ := h.graph.regulation hp.graph
  have hsound := BodyEventDelta.sound_of_valid hevent
  have hasleep : ∃ a, s.asleepRate event p = .ok a := by
    unfold asleepRate
    split_ifs
    · exact ⟨_, hsleep⟩
    · exact ⟨_, rfl⟩
  obtain ⟨a, hasleep⟩ := hasleep
  refine ⟨_, contract_bind_eq_ok_iff.2 ⟨_, hregulation, contract_bind_eq_ok_iff.2
    ⟨a, hasleep, rfl⟩⟩, ⟨hsound.damage, hsound.sleepRecovery⟩, rfl⟩

/-- What a step that goes through has checked. -/
theorem advance_checks [FloorRing K] [Exp2 K]
    (h : s.advanceWithNeuralEmission nextTick nextAge event neural p = .ok s') :
    event.validateContract = .ok () ∧ s.tick.raw ≤ nextTick.raw ∧
      s.development.ageTicks.raw ≤ nextAge.raw ∧ nextAge.raw ≤ nextTick.raw ∧
      ∃ o, s.pendingFrame neural = .ok o ∧ s.graphState.checkFrame (o.or neural) = .ok () := by
  rw [advanceWithNeuralEmission] at h
  obtain ⟨-, h⟩ := contract_check_eq_ok_iff.1 h
  obtain ⟨hevent, h⟩ := contract_check_eq_ok_iff.1 h
  obtain ⟨-, h⟩ := contract_check_eq_ok_iff.1 h
  obtain ⟨-, h⟩ := contract_check_eq_ok_iff.1 h
  obtain ⟨_, htick, h⟩ := contract_bind_eq_ok_iff.1 h
  obtain ⟨_, hage, h⟩ := contract_bind_eq_ok_iff.1 h
  obtain ⟨_, horder, h⟩ := contract_bind_eq_ok_iff.1 h
  obtain ⟨_, -, h⟩ := contract_bind_eq_ok_iff.1 h
  obtain ⟨-, h⟩ := contract_check_eq_ok_iff.1 h
  obtain ⟨_, -, h⟩ := contract_bind_eq_ok_iff.1 h
  obtain ⟨o, ho, h⟩ := contract_bind_eq_ok_iff.1 h
  obtain ⟨_, hgraph, -⟩ := contract_bind_eq_ok_iff.1 h
  rw [BiochemicalGraphState.advance] at hgraph
  obtain ⟨-, hgraph⟩ := contract_check_eq_ok_iff.1 hgraph
  obtain ⟨-, hgraph⟩ := contract_check_eq_ok_iff.1 hgraph
  obtain ⟨_, -, hgraph⟩ := contract_bind_eq_ok_iff.1 hgraph
  exact ⟨hevent, (Tick.validateMonotonic_eq_ok_iff.1 htick).1,
    (Tick.validateMonotonic_eq_ok_iff.1 hage).1, (Tick.validateMonotonic_eq_ok_iff.1 horder).1,
    o, ho, (contract_check_eq_ok_iff.1 hgraph).1⟩

/-- A step goes through on inputs as they are promised only. -/
theorem Inv.accepts_of_advance [FloorRing K] [Exp2 K] (hs : Inv p s)
    (h : s.advanceWithNeuralEmission nextTick nextAge event neural p = .ok s') :
    s.Accepts nextTick nextAge event neural := by
  obtain ⟨hevent, htick, hage, horder, o, ho, hframe⟩ := advance_checks h
  refine ⟨hevent, fun f hf => ?_, htick, hage, horder⟩
  obtain rfl : neural = some f := Option.mem_def.1 hf
  rw [pendingFrame] at ho
  cases hpulse : s.pendingPredictionResidual with
  | none =>
    rw [hpulse] at ho
    cases ho
    obtain ⟨hvalid, hsame⟩ := contract_check_eq_ok_iff.1 hframe
    rw [reject_eq_ok_iff, not_not] at hsame
    exact ⟨hvalid, hsame.trans hs.graphTick⟩
  | some pulse =>
    rw [hpulse] at ho
    obtain ⟨hvalid, ho⟩ := contract_check_eq_ok_iff.1 ho
    obtain ⟨emission, -, ho⟩ := contract_bind_eq_ok_iff.1 ho
    obtain ⟨frame, hnew, ho⟩ := contract_bind_eq_ok_iff.1 ho
    obtain ⟨-, hnew⟩ := contract_check_eq_ok_iff.1 hnew
    cases hnew
    cases ho
    obtain ⟨-, hsame⟩ := contract_check_eq_ok_iff.1 hframe
    rw [reject_eq_ok_iff, not_not] at hsame
    exact ⟨hvalid, hsame.trans hs.graphTick⟩

section Step

variable [IsStrictOrderedRing K]

theorem Inv.nextDevelopment_ok (h : Inv p s) (hp : p.Lives)
    (hage : s.development.ageTicks.raw ≤ nextAge.raw) :
    ∃ d, s.nextDevelopment nextAge p = .ok d ∧ d.At nextAge := by
  unfold nextDevelopment
  split_ifs
  · exact DevelopmentReadiness.derive_ok hp.grows (cadenceBoundary_le _ _)
  · have hd := h.development
    exact ⟨_, rfl, rfl, UInt64.le_trans hd.fresh hage, hd.maturation, hd.bias, hd.expression⟩

variable [FloorRing K] [Exp2 K]

/-- What a step that went through has done. -/
structure Advanced (p : CreaturePhenotype K) (s s' : BiochemistryState K) (nextTick : Tick)
    (event : BodyEventDelta K) : Prop where
  inv : Inv p s'
  consumed : s'.pendingPredictionResidual = none
  body : ∃ x, s.exertion nextTick event p = .ok x ∧ x.Sound ∧ s'.body = s.body.applyEvent x p

/-- **With its frame accepted, a step of a living body goes through.** -/
theorem Inv.advance_ok (h : Inv p s) (hp : p.Lives)
    (ha : s.Accepts nextTick nextAge event neural) {o : Option (NeuralEmissionFrame K)}
    (hpending : s.pendingFrame neural = .ok o)
    (hframe : s.graphState.checkFrame (o.or neural) = .ok ()) :
    ∃ s', s.advanceWithNeuralEmission nextTick nextAge event neural p = .ok s' ∧
      Advanced p s s' nextTick event := by
  obtain ⟨x, hx, hxsound, hxmating⟩ := h.exertion_ok hp nextTick ha.event
  have hbody : (s.body.applyEvent x p).Sound := BodyState.applyEvent_sound h.body hxsound hp.body
  obtain ⟨d, hd, hdat⟩ := h.nextDevelopment_ok hp ha.age
  have hgraphLe : s.graphState.tick.raw ≤ nextTick.raw := h.graphTick ▸ ha.tick
  have hgraph := h.graph.advance_eq hp.graph hgraphLe (s.body.applyEvent x p) x.event
    (o.or neural) hdat.expression
  rw [hframe] at hgraph
  have hfits := h.graph.next hp.graph nextTick (s.body.applyEvent x p) x.event (o.or neural)
    d.biochemicalExpression
  obtain ⟨t, ht, htvalid, httick⟩ := hfits.homeostasis hp.graph
  have hmating : IsUnit x.event.matingOpportunity :=
    hxmating ▸ (BodyEventDelta.sound_of_valid ha.event).matingOpportunity
  obtain ⟨r, hr, hrfresh, hrvalid⟩ :=
    h.nextReproduction_ok hmating ha.age (s.body.applyEvent x p) t d
  have hinv : Inv p
      { valueProfile := s.valueProfile
        sourceGenomeId := s.sourceGenomeId
        tick := nextTick
        body := s.body.applyEvent x p
        homeostasis := t
        graphState := s.graphState.next nextTick (s.body.applyEvent x p) x.event (o.or neural)
          p.chemistry.biochemical d.biochemicalExpression
        pendingPredictionResidual := none
        development := d
        reproduction := r
        cadence := s.cadence } :=
    { body := hbody, homeostasis := htvalid, homeostasisTick := httick, graph := hfits
      graphTick := rfl, development := hdat.aged ▸ hdat, age := hdat.aged ▸ ha.order
      reproduction := hrvalid, reproductionFresh := hdat.aged ▸ hrfresh, pending := rfl
      genome := h.genome, profile := h.profile, cadence := h.cadence }
  refine ⟨_, ?_, hinv, rfl, x, hx, hxsound, rfl⟩
  refine contract_check_eq_ok_iff.2 ⟨(h.valid hp).2, contract_check_eq_ok_iff.2 ⟨ha.event,
    contract_check_eq_ok_iff.2 ⟨hp.brain, contract_check_eq_ok_iff.2
    ⟨reject_eq_ok_iff.2 fun hne => hne h.genome.symm, ?_⟩⟩⟩⟩
  refine contract_bind_eq_ok_iff.2 ⟨_, Tick.validateMonotonic_eq_ok_iff.2 ⟨ha.tick, rfl⟩,
    contract_bind_eq_ok_iff.2 ⟨_, Tick.validateMonotonic_eq_ok_iff.2 ⟨ha.age, rfl⟩,
    contract_bind_eq_ok_iff.2 ⟨_, Tick.validateMonotonic_eq_ok_iff.2 ⟨ha.order, rfl⟩, ?_⟩⟩⟩
  refine contract_bind_eq_ok_iff.2 ⟨x, hx, contract_check_eq_ok_iff.2
    ⟨BodyState.validateContract_eq_ok_iff.2 hbody, contract_bind_eq_ok_iff.2 ⟨d, hd,
    contract_bind_eq_ok_iff.2 ⟨o, hpending, contract_bind_eq_ok_iff.2 ⟨_, hgraph,
    contract_bind_eq_ok_iff.2 ⟨t, ht, contract_bind_eq_ok_iff.2 ⟨r, hr,
    contract_check_eq_ok_iff.2 ⟨(hinv.valid hp).2, rfl⟩⟩⟩⟩⟩⟩⟩⟩

/-- **A living body goes one step further exactly where there is room for its pulse.** -/
theorem Inv.advance_iff (h : Inv p s) (hp : p.Lives)
    (ha : s.Accepts nextTick nextAge event neural) :
    (∃ s', s.advanceWithNeuralEmission nextTick nextAge event neural p = .ok s') ↔
      s.HasRoom neural := by
  cases hpulse : s.pendingPredictionResidual with
  | none =>
    refine iff_of_true ?_ (.inl hpulse)
    have hpending : s.pendingFrame neural = .ok none := by rw [pendingFrame, hpulse]
    have hframe : s.graphState.checkFrame ((none : Option (NeuralEmissionFrame K)).or neural)
        = .ok () := by
      rw [Option.none_or]
      cases neural with
      | none => rfl
      | some f =>
        obtain ⟨hvalid, htick⟩ := ha.frame f rfl
        exact contract_check_eq_ok_iff.2
          ⟨hvalid, reject_eq_ok_iff.2 fun hne => hne (htick.trans h.graphTick.symm)⟩
    obtain ⟨s', hs', -⟩ := h.advance_ok hp ha hpending hframe
    exact ⟨s', hs'⟩
  | some pulse =>
    have hmerge := fun o => pendingFrame_some h.pending hpulse ha (o := o)
    constructor
    · rintro ⟨s', hs'⟩
      obtain ⟨-, -, -, -, o, ho, -⟩ := advance_checks hs'
      exact .inr ((hmerge o).1 ho).1
    · rintro (hnone | hroom)
      · rw [hpulse] at hnone
        cases hnone
      · obtain ⟨htick, hvalid⟩ := pulseFrame_valid h.pending hpulse ha
        have hframe : s.graphState.checkFrame ((some (s.pulseFrame pulse neural)).or neural)
            = .ok () := by
          exact contract_check_eq_ok_iff.2 ⟨hvalid.2 hroom,
            reject_eq_ok_iff.2 fun hne => hne (htick.trans h.graphTick.symm)⟩
        obtain ⟨s', hs', -⟩ := h.advance_ok hp ha ((hmerge _).2 ⟨hroom, rfl⟩) hframe
        exact ⟨s', hs'⟩

/-- **A pending pulse is one more emission**: the step is that of the state without it, given the
frame with it. -/
theorem Inv.advance_pulse (h : Inv p s) (hp : p.Lives)
    (ha : s.Accepts nextTick nextAge event neural) {pulse : PendingPredictionResidualV1 K}
    (hpulse : s.pendingPredictionResidual = some pulse)
    (hroom : ∀ f ∈ neural, f.emissions.length < maxNeuralEmissions) :
    s.advanceWithNeuralEmission nextTick nextAge event neural p =
      { s with pendingPredictionResidual := none }.advanceWithNeuralEmission nextTick nextAge event
        (some (s.pulseFrame pulse neural)) p := by
  have hrest : Inv p { s with pendingPredictionResidual := none } := { h with pending := rfl }
  have hmerged : s.pendingFrame neural = .ok (some (s.pulseFrame pulse neural)) :=
    (pendingFrame_some h.pending hpulse ha).2 ⟨hroom, rfl⟩
  rw [advanceWithNeuralEmission, advanceWithNeuralEmission, (h.valid hp).2, (hrest.valid hp).2,
    hmerged]
  rfl

/-- What any step that goes through does to a living body. -/
theorem Inv.advanced (h : Inv p s) (hp : p.Lives)
    (hs' : s.advanceWithNeuralEmission nextTick nextAge event neural p = .ok s') :
    Advanced p s s' nextTick event := by
  obtain ⟨-, -, -, -, o, ho, hframe⟩ := advance_checks hs'
  obtain ⟨s₁, hs₁, hadvanced⟩ := h.advance_ok hp (h.accepts_of_advance hs') ho hframe
  obtain rfl : s₁ = s' := Except.ok.inj (hs₁.symm.trans hs')
  exact hadvanced

/-! ## Every run -/

variable (p) in
/-- What may happen to the biochemistry of a living body. -/
inductive Step : BiochemistryState K → BiochemistryState K → Prop
  | advance {s s' : BiochemistryState K} (nextTick nextAge : Tick) (event : BodyEventDelta K)
      (neural : Option (NeuralEmissionFrame K))
      (h : s.advanceWithNeuralEmission nextTick nextAge event neural p = .ok s') : Step s s'
  | pulse {s s' : BiochemistryState K} (sequenceId : ExperienceSequenceId) (epoch : UInt64)
      (activity confidence : K)
      (h : s.withPredictionResidualPulse sequenceId epoch activity confidence = .ok s') : Step s s'
  | debit {s : BiochemistryState K} {b : BodyState K} (requested applied : K)
      (h : s.body.debitEnergyProRata requested = .ok (applied, b)) : Step s { s with body := b }

/-- A step keeps the invariant. -/
theorem Inv.step (h : Inv p s) (hp : p.Lives) (hstep : Step p s s') : Inv p s' := by
  cases hstep with
  | advance _ _ _ _ hadvance => exact (h.advanced hp hadvance).inv
  | pulse _ _ _ _ hpulse => exact h.withPulse hpulse
  | debit _ _ hdebit => exact h.debit hdebit

/-- A run keeps the invariant. -/
theorem Inv.run (h : Inv p s) (hp : p.Lives) (hrun : Relation.ReflTransGen (Step p) s s') :
    Inv p s' := by
  induction hrun with
  | refl => exact h
  | tail _ hstep ih => exact ih.step hp hstep

/-- No step revives an exhausted body. -/
theorem Inv.step_exhausted (h : Inv p s) (hp : p.Lives) (hstep : Step p s s')
    (hexhausted : Exhausted s.body.organs) : Exhausted s'.body.organs := by
  cases hstep with
  | advance _ _ _ _ hadvance =>
    obtain ⟨x, -, hx, hbody⟩ := (h.advanced hp hadvance).body
    rw [hbody]
    exact BodyState.applyEvent_exhausted hexhausted hx hp.body
  | pulse _ _ _ _ hpulse =>
    obtain ⟨⟨pulse, rfl⟩, -⟩ := withPulse_spec hpulse
    exact hexhausted
  | @debit b _ _ hdebit =>
    intro o ho
    have hmem : o.integrity ∈ b.organs.map (·.integrity) := List.mem_map_of_mem ho
    rw [(BodyState.debit_spec hdebit).2] at hmem
    obtain ⟨o', ho', heq⟩ := List.mem_map.1 hmem
    rw [← heq]
    exact hexhausted o' ho'

/-- No run revives an exhausted body. -/
theorem Inv.run_exhausted (h : Inv p s) (hp : p.Lives)
    (hrun : Relation.ReflTransGen (Step p) s s') (hexhausted : Exhausted s.body.organs) :
    Exhausted s'.body.organs := by
  induction hrun with
  | refl => exact hexhausted
  | tail hrun hstep ih => exact (h.run hp hrun).step_exhausted hp hstep ih

variable (p s) in
/-- What a body's next step gives it and takes from it. -/
structure StepsOn : Prop where
  accepted : s.validateAgainst p = .ok ()
  energy : s.body.energy = organMean s.body.organs (·.energy)
  health : s.body.health = organMean s.body.organs (·.integrity)
  injury : s.body.injury = organMean s.body.organs (·.damage)
  /-- On promised inputs the step goes through exactly where there is room for the pulse. -/
  advances : ∀ nextTick nextAge event neural, s.Accepts nextTick nextAge event neural →
    ((∃ s', s.advanceWithNeuralEmission nextTick nextAge event neural p = .ok s' ∧
      s'.validateAgainst p = .ok ()) ↔ s.HasRoom neural)
  /-- The pulse is gone after one step, however many ticks it spans. -/
  consumed : ∀ nextTick nextAge event neural s',
    s.advanceWithNeuralEmission nextTick nextAge event neural p = .ok s' →
      s'.pendingPredictionResidual = none
  /-- The pulse is one more emission of the frame. -/
  pulse : ∀ nextTick nextAge event neural pulse, s.Accepts nextTick nextAge event neural →
    s.HasRoom neural → s.pendingPredictionResidual = some pulse →
      s.advanceWithNeuralEmission nextTick nextAge event neural p =
        { s with pendingPredictionResidual := none }.advanceWithNeuralEmission nextTick nextAge
          event (some (s.pulseFrame pulse neural)) p
  /-- Wounds only take, and each organ pays for what repair gives it. -/
  repair : ∀ nextTick nextAge event neural s',
    s.advanceWithNeuralEmission nextTick nextAge event neural p = .ok s' →
      ∃ x, s.exertion nextTick event p = .ok x ∧ s'.body = s.body.applyEvent x p ∧
        List.Forall₂ Worn s.body.organs (s.body.beforeRepair x p) ∧
        List.Forall₂ RepairPaid (s.body.beforeRepair x p) s'.body.organs
  /-- A body whose organs all have integrity zero keeps health zero for ever. -/
  exhausted : Exhausted s.body.organs → ∀ s', Relation.ReflTransGen (Step p) s s' →
    Exhausted s'.body.organs ∧ s'.body.health = 0

/-- **Every body that is born can take its next step**, unless its pulse meets a full frame. -/
theorem body_steps {g : CreatureGenome K} (hg : g.express = .ok p) {tick age : Tick}
    {born : BiochemistryState K} (hborn : newWithAge p tick age = .ok born)
    (hrun : Relation.ReflTransGen (Step p) born s) : StepsOn p s := by
  have hsound := CreatureGenome.sound_of_express hg
  obtain ⟨hp, hbirth⟩ := inv_newWithAge hsound.body hsound.criticalPeriod hborn
  have h := hbirth.run hp hrun
  refine ⟨(h.valid hp).2, h.body.energy, h.body.health, h.body.injury, ?_, ?_, ?_, ?_, ?_⟩
  · intro nextTick nextAge event neural ha
    rw [← h.advance_iff hp ha]
    exact ⟨fun ⟨s', hs', _⟩ => ⟨s', hs'⟩,
      fun ⟨s', hs'⟩ => ⟨s', hs', ((h.advanced hp hs').inv.valid hp).2⟩⟩
  · intro nextTick nextAge event neural s' hs'
    exact (h.advanced hp hs').consumed
  · intro nextTick nextAge event neural pulse ha hroom hpulse
    refine h.advance_pulse hp ha hpulse (hroom.resolve_left fun hnone => ?_)
    rw [hpulse] at hnone
    cases hnone
  · intro nextTick nextAge event neural s' hs'
    obtain ⟨x, hx, hxsound, hbody⟩ := (h.advanced hp hs').body
    refine ⟨x, hx, hbody, BodyState.worn_beforeRepair h.body.organs hxsound hp.body, ?_⟩
    rw [hbody]
    exact BodyState.applyEvent_repairPaid h.body hxsound hp.body
  · intro hexhausted s' hrun'
    have h' := h.run hp hrun'
    have hlater := h.run_exhausted hp hrun' hexhausted
    exact ⟨hlater, h'.body.health_eq_zero hlater⟩

end Step

/-! ## A body whose pulse meets a full frame -/

/-- A locus whose alleles agree, in the unit interval. -/
def sampleLocus (value : ℚ) : ContinuousLocus ℚ := ⟨value, value, 0, 1, 0.5⟩

/-- A genome of balanced frame, whose efficiencies stand at the middle of their ranges and whose
graph has one chemical. -/
def sampleGenome : CreatureGenome ℚ where
  id := ⟨1⟩
  contract := .ok ()
  body :=
    { size := sampleLocus 0.5
      metabolicEfficiency := sampleLocus 0.5
      metabolicTurnoverLog2 := ⟨0, 0, -10.0, 0, 0.5⟩
      sensoryAcuity := sampleLocus 0.5
      movementEfficiency := sampleLocus 0.535
      lifespan := sampleLocus 0.5
      injuryResistance := sampleLocus 0.5
      temperatureTolerance := sampleLocus 0.5
      appearanceHue := sampleLocus 0.5
      frame := ⟨⟨.balanced, .dominant⟩, ⟨.balanced, .recessive⟩⟩ }
  reproductiveThreshold := sampleLocus 0.5
  brainAtpEfficiency := sampleLocus 0.56
  development :=
    { maturationRate := sampleLocus 0.5
      pubertyOnset := sampleLocus 0.5
      sensorActivation := sampleLocus 0.1
      lobeActivation := sampleLocus 0.1
      biochemicalActivation := sampleLocus 0.1
      criticalPeriodOpen := sampleLocus 0.1
      criticalPeriodClose := sampleLocus 0.5
      migrationCheckpoint := sampleLocus 0.9 }
  fertility := sampleLocus 0.5
  endocrine := .ok ()
  biochemical := .ok
    { valueProfile := ⟨[], [], 0, 1, 0⟩
      schemaVersion := biochemicalGraphSchemaVersion
      speciesBudget := 1
      species := [⟨1, .material, 0.5, 0.5, 0, 1⟩]
      wiring := .ok ()
      level := fun _ _ _ _ _ _ _ => ⟨0, isUnit_zero⟩
      drive := fun _ _ => ⟨0, isUnit_zero⟩
      endocrine := fun _ _ => ⟨0, isUnit_zero⟩
      organEnergy := some fun _ => ⟨1, isUnit_one⟩
      organRepair := some fun _ => ⟨1, isUnit_one⟩
      sleepMetabolic := none }
  brainGenome := fun _ _ => .ok ⟨⟨1⟩, ⟨1, isUnit_one⟩, .ok ()⟩

/-- A body of the sample genome is born, and a pulse is staged. -/
def sampleRun : Contract (CreaturePhenotype ℚ × BiochemistryState ℚ × BiochemistryState ℚ) := do
  let p ← sampleGenome.express
  let born ← newWithAge p ⟨600⟩ ⟨600⟩
  let s ← born.withPredictionResidualPulse ⟨7⟩ 11 0.8 1
  pure (p, born, s)

/-- A frame of the body's tick that is valid and full. -/
def fullFrame : NeuralEmissionFrame ℚ where
  schemaVersion := biochemicalGraphSchemaVersion
  sourceTick := ⟨600⟩
  graphEpoch := 19
  emissions := List.replicate maxNeuralEmissions ⟨.regionalArousal, 0.2, 0.9⟩

/-- The frame with one emission less. -/
def roomyFrame : NeuralEmissionFrame ℚ :=
  { fullFrame with emissions := List.replicate 15 ⟨.regionalArousal, 0.2, 0.9⟩ }

/-- A wound, and some sleep. -/
def woundedAsleep : BodyEventDelta ℚ :=
  { (BodyEventDelta.zero : BodyEventDelta ℚ) with damage := 0.2, sleepRecovery := 0.5 }

/-- The sample body stands at its tick and age with a pulse pending, and stops at the full
frame. -/
def sampleStops (p : CreaturePhenotype ℚ) (s : BiochemistryState ℚ) : Bool :=
  decide (s.tick = ⟨600⟩ ∧ s.development.ageTicks = ⟨600⟩)
    && s.pendingPredictionResidual.isSome
    && match s.advanceWithNeuralEmission ⟨601⟩ ⟨601⟩ .zero (some fullFrame) p with
      | .error .invalidDecisionEvidence => true
      | _ => false

/-- The integrity and the energy of the second organ before and after its repair. -/
def sampleRepair (p : CreaturePhenotype ℚ) (s : BiochemistryState ℚ) :
    Contract (Option (ℚ × ℚ) × Option (ℚ × ℚ)) := do
  let x ← s.exertion ⟨601⟩ woundedAsleep p
  let s' ← s.advanceWithNeuralEmission ⟨601⟩ ⟨601⟩ woundedAsleep (some roomyFrame) p
  let second (organs : List (OrganPhysiology ℚ)) := organs[1]?.map fun o => (o.integrity, o.energy)
  pure (second (s.body.beforeRepair x p), second s'.body.organs)

theorem sampleRun_stops : (sampleRun.map fun r => sampleStops r.1 r.2.2).toOption = some true := by
  decide +kernel

theorem sampleRun_repair : (sampleRun >>= fun r => sampleRepair r.1 r.2.2)
    = .ok (some (9 / 10, 3743 / 5000), some (1, 3243 / 5000)) := by
  decide +kernel

/-- The sample run, step by step. -/
theorem exists_sampleRun : ∃ p born s, sampleGenome.express = .ok p ∧
    newWithAge p ⟨600⟩ ⟨600⟩ = .ok born ∧ Step p born s ∧ sampleStops p s = true ∧
    sampleRepair p s = .ok (some (9 / 10, 3743 / 5000), some (1, 3243 / 5000)) := by
  have hstops := sampleRun_stops
  obtain ⟨r, hrun, hrepair⟩ := contract_bind_eq_ok_iff.1 sampleRun_repair
  rw [hrun] at hstops
  rw [sampleRun] at hrun
  obtain ⟨p, hp, hrun⟩ := contract_bind_eq_ok_iff.1 hrun
  obtain ⟨born, hborn, hrun⟩ := contract_bind_eq_ok_iff.1 hrun
  obtain ⟨s, hs, hrun⟩ := contract_bind_eq_ok_iff.1 hrun
  cases hrun
  exact ⟨p, born, s, hp, hborn, .pulse _ _ _ _ hs, Option.some.inj hstops, hrepair⟩

/-- The inputs of the next step are as they are promised. -/
theorem accepts_sample {p : CreaturePhenotype ℚ} {s : BiochemistryState ℚ}
    (hstops : sampleStops p s = true) {event : BodyEventDelta ℚ}
    (hevent : event.validateContract = .ok ()) {n : ℕ} (hn : n ≤ maxNeuralEmissions) :
    s.Accepts ⟨601⟩ ⟨601⟩ event
      (some { fullFrame with emissions := List.replicate n ⟨.regionalArousal, 0.2, 0.9⟩ }) := by
  rw [sampleStops, Bool.and_eq_true, Bool.and_eq_true, decide_eq_true_iff] at hstops
  obtain ⟨⟨⟨htick, hage⟩, -⟩, -⟩ := hstops
  refine ⟨hevent, fun f hf => ?_, ?_, ?_, ?_⟩
  · rw [← Option.mem_some_iff.1 hf, htick]
    refine ⟨NeuralEmissionFrame.validateContract_eq_ok_iff.2
      ⟨rfl, (by decide : fullFrame.graphEpoch ≠ 0), List.length_replicate.trans_le hn,
        fun e he => ?_⟩, rfl⟩
    rw [List.eq_of_mem_replicate he, NeuralEmission.validateContract,
      validateUnitValues_eq_ok_iff]
    decide +kernel
  · rw [htick]
    decide
  · rw [hage]
    decide
  · decide

/-- The next step of the body with a frame of fifteen emissions: the pulse is the sixteenth, and is
gone; the second organ is repaired and pays for it. -/
theorem body_steps_sample : ∃ p born s s', sampleGenome.express = .ok p ∧
    newWithAge p ⟨600⟩ ⟨600⟩ = .ok born ∧ Step p born s ∧
    s.advanceWithNeuralEmission ⟨601⟩ ⟨601⟩ woundedAsleep (some roomyFrame) p = .ok s' ∧
    s'.validateAgainst p = .ok () ∧ s'.pendingPredictionResidual = none ∧
    (∃ pulse, s.pendingPredictionResidual = some pulse ∧
      s.advanceWithNeuralEmission ⟨601⟩ ⟨601⟩ woundedAsleep (some roomyFrame) p =
        { s with pendingPredictionResidual := none }.advanceWithNeuralEmission ⟨601⟩ ⟨601⟩
          woundedAsleep (some (s.pulseFrame pulse (some roomyFrame))) p) ∧
    ∃ before after, s'.body.organs[1]? = some after ∧ before.integrity = 9 / 10 ∧
      after.integrity = 1 ∧ RepairPaid before after := by
  obtain ⟨p, born, s, hp, hborn, hstep, hstops, hrepair⟩ := exists_sampleRun
  have haccepts : s.Accepts ⟨601⟩ ⟨601⟩ woundedAsleep (some roomyFrame) :=
    accepts_sample hstops (by decide +kernel) (by decide)
  have hroom : s.HasRoom (some roomyFrame) := Or.inr fun f hf => by
    rw [← Option.mem_some_iff.1 hf]
    decide
  rw [sampleStops, Bool.and_eq_true, Bool.and_eq_true] at hstops
  obtain ⟨pulse, hpulse⟩ := Option.isSome_iff_exists.1 hstops.1.2
  have hon := body_steps hp hborn (.single hstep)
  obtain ⟨s', hs', hvalid⟩ := (hon.advances _ _ _ _ haccepts).2 hroom
  obtain ⟨x, hx, -, -, hpaid⟩ := hon.repair _ _ _ _ _ hs'
  simp only [sampleRepair, hx, hs'] at hrepair
  obtain ⟨hbefore, hafter⟩ := Prod.mk.inj (Except.ok.inj hrepair)
  obtain ⟨before, hsecond, hbefore⟩ := Option.map_eq_some_iff.1 hbefore
  obtain ⟨after, hsecond', hafter⟩ := Option.map_eq_some_iff.1 hafter
  refine ⟨p, born, s, s', hp, hborn, hstep, hs', hvalid, hon.consumed _ _ _ _ _ hs',
    ⟨pulse, hpulse, hon.pulse _ _ _ _ _ haccepts hroom hpulse⟩, before, after, hsecond',
    (Prod.mk.inj hbefore).1, (Prod.mk.inj hafter).1, ?_⟩
  obtain ⟨hlt, rfl⟩ := List.getElem?_eq_some_iff.1 hsecond
  obtain ⟨hlt', rfl⟩ := List.getElem?_eq_some_iff.1 hsecond'
  exact hpaid.get hlt hlt'

/-- **A full frame stops a body whose pulse is pending**, at inputs as they are promised. -/
theorem full_frame_stops : ∃ p born s, sampleGenome.express = .ok p ∧
    newWithAge p ⟨600⟩ ⟨600⟩ = .ok born ∧ Relation.ReflTransGen (Step p) born s ∧
    s.Accepts ⟨601⟩ ⟨601⟩ .zero (some fullFrame) ∧
    s.advanceWithNeuralEmission ⟨601⟩ ⟨601⟩ .zero (some fullFrame) p
      = .error .invalidDecisionEvidence := by
  obtain ⟨p, born, s, hp, hborn, hstep, hstops, -⟩ := exists_sampleRun
  refine ⟨p, born, s, hp, hborn, .single hstep, accepts_sample hstops rfl le_rfl, ?_⟩
  rw [sampleStops, Bool.and_eq_true] at hstops
  obtain ⟨-, hstops⟩ := hstops
  split at hstops
  · assumption
  · cases hstops

end BiochemistryState

end Biology
end ALife
