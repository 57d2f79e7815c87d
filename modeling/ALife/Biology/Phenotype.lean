/-
# The chemical graph and the phenotype

The checks around the chemical graph (`crates/alife_core/src/biochemical_graph.rs`)
and the phenotype a genome expresses, as far as a body reads them.

What the graph does inside a step and what its receptors signal is opaque: total
functions into the unit interval, kept in the phenotype that determines them.
Every write of the graph ends in a clamp to the bounds of its species, so the
opaque `level` is the value that is clamped.  The parts of a genome that a body
never reads (identity and provenance, brain, predisposition, the legacy
endocrine profile) stand for the answer of their own checks.  The work receipt
is left out: nothing reads it.
-/

import ALife.Biology.Body

namespace ALife
namespace Biology

variable {K : Type} [Field K] [LinearOrder K]

/-- A value of the unit interval. -/
abbrev Signal (K : Type) [Field K] [LinearOrder K] := {x : K // IsUnit x}

inductive NeuralEmissionClass where
  | regionalArousal | predictionResidual | motorCommitment | unresolvedGap | socialState
  | executiveSustain
  deriving DecidableEq, Repr

structure NeuralEmission (K : Type) where
  cls : NeuralEmissionClass
  activity : K
  confidence : K
  deriving DecidableEq, Repr

/-- `NeuralEmission::validate_contract`. -/
def NeuralEmission.validateContract (e : NeuralEmission K) : Contract Unit :=
  validateUnitValues [e.activity, e.confidence]

/-- `NeuralEmission::new`. -/
def NeuralEmission.new (cls : NeuralEmissionClass) (activity confidence : K) :
    Contract (NeuralEmission K) := do
  let value : NeuralEmission K := { cls, activity, confidence }
  value.validateContract
  pure value

def biochemicalGraphSchemaVersion : UInt16 := 3

def maxActiveChemicalSpecies : ℕ := 32

def maxNeuralEmissions : ℕ := 16

structure NeuralEmissionFrame (K : Type) where
  schemaVersion : UInt16
  sourceTick : Tick
  graphEpoch : UInt64
  emissions : List (NeuralEmission K)
  deriving DecidableEq, Repr

/-- `NeuralEmissionFrame::validate_contract`. -/
def NeuralEmissionFrame.validateContract (f : NeuralEmissionFrame K) : Contract Unit := do
  reject (f.schemaVersion ≠ biochemicalGraphSchemaVersion ∨ f.graphEpoch = 0
    ∨ maxNeuralEmissions < f.emissions.length) .invalidDecisionEvidence
  f.emissions.forM NeuralEmission.validateContract

/-- `NeuralEmissionFrame::new`. -/
def NeuralEmissionFrame.new (sourceTick : Tick) (graphEpoch : UInt64)
    (emissions : List (NeuralEmission K)) : Contract (NeuralEmissionFrame K) := do
  let frame : NeuralEmissionFrame K :=
    { schemaVersion := biochemicalGraphSchemaVersion, sourceTick, graphEpoch, emissions }
  frame.validateContract
  pure frame

theorem NeuralEmissionFrame.validateContract_eq_ok_iff {f : NeuralEmissionFrame K} :
    f.validateContract = .ok () ↔ f.schemaVersion = biochemicalGraphSchemaVersion ∧
      f.graphEpoch ≠ 0 ∧ f.emissions.length ≤ maxNeuralEmissions ∧
      ∀ e ∈ f.emissions, e.validateContract = .ok () := by
  rw [validateContract, contract_seq_eq_ok_iff, reject_eq_ok_iff, contract_forM_eq_ok_iff]
  simp only [ne_eq, not_or, not_not, not_lt, and_assoc]

inductive ChemicalSpeciesKind where
  | material | regulatory
  deriving DecidableEq, Repr

structure ChemicalSpecies (K : Type) where
  id : UInt16
  kind : ChemicalSpeciesKind
  baseline : K
  decayRetention : K
  minimum : K
  maximum : K
  deriving DecidableEq, Repr

/-- `ChemicalSpecies::expressed_baseline`. -/
def ChemicalSpecies.expressedBaseline (s : ChemicalSpecies K) (developmentalExpression : K) : K :=
  match s.kind with
  | .material => s.baseline
  | .regulatory => s.minimum + (s.baseline - s.minimum) * developmentalExpression

/-- `ChemicalSpecies::validate_contract`. -/
def ChemicalSpecies.validateContract (s : ChemicalSpecies K) : Contract Unit := do
  reject (s.id = 0) .invalidId
  reject (¬IsUnit s.decayRetention ∨ s.minimum < 0 ∨ s.maximum ≤ s.minimum
    ∨ ¬(s.minimum ≤ s.baseline ∧ s.baseline ≤ s.maximum)) .scalarOutOfRange

/-- What a species holds lies between its bounds. -/
def ChemicalSpecies.Holds (s : ChemicalSpecies K) (v : K) : Prop := s.minimum ≤ v ∧ v ≤ s.maximum

instance (s : ChemicalSpecies K) (v : K) : Decidable (s.Holds v) :=
  inferInstanceAs (Decidable (_ ∧ _))

inductive DriveChannel where
  | hunger | fatigue | fear | pain | loneliness | curiosity | brainAtp | temperatureStress
  | reproductive | extension0 | extension1
  deriving DecidableEq, Repr

inductive EndocrineChannel where
  | adrenaline | cortisol | dopamine | oxytocin | serotonin | acetylcholine | learningModulator
  | developmentalHormone | sleepPressure | extension0 | extension1
  deriving DecidableEq, Repr

structure DriveSnapshot (K : Type) where
  hunger : K
  fatigue : K
  fear : K
  pain : K
  loneliness : K
  curiosity : K
  brainAtp : K
  temperatureStress : K
  reproductiveDrive : K
  extension0 : K
  extension1 : K
  deriving DecidableEq, Repr

def DriveSnapshot.toList (d : DriveSnapshot K) : List K :=
  [d.hunger, d.fatigue, d.fear, d.pain, d.loneliness, d.curiosity, d.brainAtp,
    d.temperatureStress, d.reproductiveDrive, d.extension0, d.extension1]

structure EndocrineSnapshot (K : Type) where
  adrenaline : K
  cortisol : K
  dopamine : K
  oxytocin : K
  serotonin : K
  acetylcholine : K
  learningModulator : K
  developmentalHormone : K
  sleepPressure : K
  extension0 : K
  extension1 : K
  deriving DecidableEq, Repr

def EndocrineSnapshot.toList (e : EndocrineSnapshot K) : List K :=
  [e.adrenaline, e.cortisol, e.dopamine, e.oxytocin, e.serotonin, e.acetylcholine,
    e.learningModulator, e.developmentalHormone, e.sleepPressure, e.extension0, e.extension1]

structure HomeostaticSnapshot (K : Type) where
  schemaVersion : UInt16
  tick : Tick
  drives : DriveSnapshot K
  hormones : EndocrineSnapshot K
  deriving DecidableEq, Repr

/-- `HomeostaticSnapshot::validate_contract`. -/
def HomeostaticSnapshot.validateContract (h : HomeostaticSnapshot K) : Contract Unit := do
  requireCurrentVersion .chemistry h.schemaVersion
  validateUnitValues h.drives.toList
  validateUnitValues h.hormones.toList

/-- `HomeostaticSnapshot::new`. -/
def HomeostaticSnapshot.new (tick : Tick) (drives : DriveSnapshot K)
    (hormones : EndocrineSnapshot K) : Contract (HomeostaticSnapshot K) := do
  let snapshot : HomeostaticSnapshot K :=
    { schemaVersion := SchemaKind.chemistry.current, tick, drives, hormones }
  snapshot.validateContract
  pure snapshot

/-- `BiologicalValueProfile`. -/
structure BiologicalValueProfile (K : Type) where
  drives : List K
  hormones : List K
  energy : K
  injury : K
  disappointment : K
  deriving DecidableEq, Repr

/-- `BiologicalValueProfile::validate_contract`. -/
def BiologicalValueProfile.validateContract (v : BiologicalValueProfile K) : Contract Unit := do
  reject (¬ ∀ x ∈ v.drives ++ v.hormones ++ [v.energy, v.injury, v.disappointment],
    -2.0 ≤ x ∧ x ≤ 2.0) .scalarOutOfRange
  reject (v.injury < 0 ∨ v.disappointment < 0 ∨ 1 < v.disappointment) .scalarOutOfRange

/-- `BiochemicalGraphState`; the species beyond `activeSpecies` stay at zero. -/
structure BiochemicalGraphState (K : Type) where
  schemaVersion : UInt16
  tick : Tick
  activeSpecies : UInt16
  concentrations : List K
  deriving DecidableEq, Repr

/-- `BiochemicalPhenotype`.  `wiring` is what `validate_contract` answers about the order of the
species, the reactions, emitters, receptors and neuroemitters. -/
structure BiochemicalPhenotype (K : Type) [Field K] [LinearOrder K] where
  valueProfile : BiologicalValueProfile K
  schemaVersion : UInt16
  speciesBudget : ℕ
  species : List (ChemicalSpecies K)
  wiring : Contract Unit
  /-- The value the step writes to a species, before the clamp to its bounds. -/
  level : BiochemicalGraphState K → Tick → BodyState K → BodyEventDelta K →
    Option (NeuralEmissionFrame K) → K → ℕ → Signal K
  /-- The receptor groups of the drives and hormones. -/
  drive : BiochemicalGraphState K → DriveChannel → Signal K
  endocrine : BiochemicalGraphState K → EndocrineChannel → Signal K
  /-- The receptor groups that a phenotype may lack. -/
  organEnergy : Option (BiochemicalGraphState K → Signal K)
  organRepair : Option (BiochemicalGraphState K → Signal K)
  sleepMetabolic : Option (BiochemicalGraphState K → Signal K)

namespace BiochemicalPhenotype

/-- `BiochemicalPhenotype::validate_contract`. -/
def validateContract (p : BiochemicalPhenotype K) : Contract Unit := do
  p.valueProfile.validateContract
  reject (p.schemaVersion ≠ biochemicalGraphSchemaVersion ∨ p.species = []
    ∨ p.speciesBudget < p.species.length ∨ maxActiveChemicalSpecies < p.speciesBudget)
    .scalarOutOfRange
  p.species.forM ChemicalSpecies.validateContract
  p.wiring

/-- What the body relies on in a valid graph. -/
structure Sound (p : BiochemicalPhenotype K) : Prop where
  nonempty : p.species ≠ []
  size : p.species.length ≤ maxActiveChemicalSpecies
  lower : ∀ s ∈ p.species, 0 ≤ s.minimum
  bounds : ∀ s ∈ p.species, s.minimum ≤ s.maximum
  baseline : ∀ s ∈ p.species, s.Holds s.baseline

theorem sound_of_valid {p : BiochemicalPhenotype K} (h : p.validateContract = .ok ()) :
    p.Sound := by
  rw [validateContract, contract_seq_eq_ok_iff, contract_seq_eq_ok_iff, contract_seq_eq_ok_iff,
    reject_eq_ok_iff, contract_forM_eq_ok_iff] at h
  obtain ⟨-, hsize, hrows, -⟩ := h
  push Not at hsize
  obtain ⟨-, hne, hbudget, hmax⟩ := hsize
  have hrow : ∀ s ∈ p.species, 0 ≤ s.minimum ∧ s.minimum < s.maximum ∧ s.Holds s.baseline := by
    intro s hs
    have := hrows s hs
    rw [ChemicalSpecies.validateContract, contract_seq_eq_ok_iff, reject_eq_ok_iff,
      reject_eq_ok_iff] at this
    obtain ⟨-, hrow⟩ := this
    push Not at hrow
    exact ⟨hrow.2.1, hrow.2.2.1, hrow.2.2.2⟩
  exact ⟨hne, hbudget.trans hmax, fun s hs => (hrow s hs).1, fun s hs => (hrow s hs).2.1.le,
    fun s hs => (hrow s hs).2.2⟩

end BiochemicalPhenotype

/-- `validate_developmental_expression`. -/
def validateDevelopmentalExpression (value : K) : Contract Unit :=
  reject (¬IsUnit value) .scalarOutOfRange

namespace BiochemicalGraphState

/-- `BiochemicalGraphState::validate_contract`. -/
def validateContract (g : BiochemicalGraphState K) : Contract Unit := do
  reject (g.schemaVersion ≠ biochemicalGraphSchemaVersion ∨ g.activeSpecies = 0
    ∨ maxActiveChemicalSpecies < g.activeSpecies.toNat) .invalidDecisionEvidence
  reject (¬ ∀ v ∈ g.concentrations.take g.activeSpecies.toNat, 0 ≤ v) .scalarOutOfRange

/-- `BiochemicalGraphState::validate_against`. -/
def validateAgainst (g : BiochemicalGraphState K) (p : BiochemicalPhenotype K) :
    Contract Unit := do
  reject (g.schemaVersion ≠ biochemicalGraphSchemaVersion
    ∨ g.activeSpecies.toNat ≠ p.species.length) .invalidDecisionEvidence
  reject (¬ ∀ row ∈ p.species.zip g.concentrations, row.1.Holds row.2) .scalarOutOfRange

/-- `BiochemicalGraphState::new`. -/
def new (p : BiochemicalPhenotype K) (tick : Tick) (developmentalExpression : K) :
    Contract (BiochemicalGraphState K) := do
  p.validateContract
  validateDevelopmentalExpression developmentalExpression
  pure
    { schemaVersion := biochemicalGraphSchemaVersion
      tick
      activeSpecies := .ofNat p.species.length
      concentrations := p.species.map (·.expressedBaseline developmentalExpression)
        ++ List.replicate (maxActiveChemicalSpecies - p.species.length) 0 }

/-- The check the step makes of a frame of emissions. -/
def checkFrame (g : BiochemicalGraphState K) : Option (NeuralEmissionFrame K) → Contract Unit
  | some frame => do
    frame.validateContract
    reject (frame.sourceTick ≠ g.tick) .nonMonotonicTick
  | none => .ok ()

/-- The state the step publishes: each species clamped to its bounds. -/
def next (g : BiochemicalGraphState K) (nextTick : Tick) (body : BodyState K)
    (event : BodyEventDelta K) (neural : Option (NeuralEmissionFrame K))
    (p : BiochemicalPhenotype K) (developmentalExpression : K) : BiochemicalGraphState K :=
  let level := p.level g nextTick body event neural developmentalExpression
  { g with
    tick := nextTick
    concentrations :=
      (p.species.zipIdx.map fun row => clamp row.1.minimum row.1.maximum (level row.2).1)
        ++ g.concentrations.drop p.species.length }

/-- `BiochemicalGraphState::advance`. -/
def advance (g : BiochemicalGraphState K) (nextTick : Tick) (body : BodyState K)
    (event : BodyEventDelta K) (neural : Option (NeuralEmissionFrame K))
    (p : BiochemicalPhenotype K) (developmentalExpression : K) :
    Contract (BiochemicalGraphState K) := do
  g.validateAgainst p
  validateDevelopmentalExpression developmentalExpression
  let _ ← Tick.validateMonotonic g.tick nextTick
  g.checkFrame neural
  let next := g.next nextTick body event neural p developmentalExpression
  next.validateAgainst p
  pure next

/-- `BiochemicalGraphState::derive_homeostasis`. -/
def deriveHomeostasis (g : BiochemicalGraphState K) (p : BiochemicalPhenotype K) :
    Contract (HomeostaticSnapshot K) := do
  g.validateAgainst p
  HomeostaticSnapshot.new g.tick
    { hunger := p.drive g .hunger, fatigue := p.drive g .fatigue, fear := p.drive g .fear
      pain := p.drive g .pain, loneliness := p.drive g .loneliness
      curiosity := p.drive g .curiosity, brainAtp := p.drive g .brainAtp
      temperatureStress := p.drive g .temperatureStress
      reproductiveDrive := p.drive g .reproductive, extension0 := p.drive g .extension0
      extension1 := p.drive g .extension1 }
    { adrenaline := p.endocrine g .adrenaline, cortisol := p.endocrine g .cortisol
      dopamine := p.endocrine g .dopamine, oxytocin := p.endocrine g .oxytocin
      serotonin := p.endocrine g .serotonin, acetylcholine := p.endocrine g .acetylcholine
      learningModulator := p.endocrine g .learningModulator
      developmentalHormone := p.endocrine g .developmentalHormone
      sleepPressure := p.endocrine g .sleepPressure, extension0 := p.endocrine g .extension0
      extension1 := p.endocrine g .extension1 }

/-- `BiochemicalGraphState::organ_regulation`: energy use and repair. -/
def organRegulation (g : BiochemicalGraphState K) (p : BiochemicalPhenotype K) :
    Contract (Option (Signal K) × Option (Signal K)) := do
  g.validateAgainst p
  pure (p.organEnergy.map (· g), p.organRepair.map (· g))

/-- `BiochemicalGraphState::sleep_metabolic_rate`. -/
def sleepMetabolicRate (g : BiochemicalGraphState K) (p : BiochemicalPhenotype K) :
    Contract (Option (Signal K)) := do
  g.validateAgainst p
  pure (p.sleepMetabolic.map (· g))

/-- A graph state that fits the phenotype: each species holds what its bounds allow. -/
structure Fits (g : BiochemicalGraphState K) (p : BiochemicalPhenotype K) : Prop where
  schema : g.schemaVersion = biochemicalGraphSchemaVersion
  active : g.activeSpecies.toNat = p.species.length
  held : ∃ values rest, g.concentrations = values ++ rest ∧
    List.Forall₂ ChemicalSpecies.Holds p.species values

/-- Both checks of a graph state pass where it fits a sound phenotype. -/
theorem Fits.valid {g : BiochemicalGraphState K} {p : BiochemicalPhenotype K} (h : g.Fits p)
    (hp : p.Sound) : g.validateContract = .ok () ∧ g.validateAgainst p = .ok () := by
  obtain ⟨values, rest, hconc, hheld⟩ := h.held
  have hlen := hheld.length_eq
  constructor
  · rw [validateContract, contract_seq_eq_ok_iff, reject_eq_ok_iff, reject_eq_ok_iff, not_not,
      hconc, h.active, hlen, List.take_left]
    constructor
    · push Not
      refine ⟨h.schema, fun hzero => hp.nonempty (List.length_eq_zero_iff.1 ?_), hlen ▸ hp.size⟩
      rw [← h.active, hzero]
      rfl
    · intro v hv
      obtain ⟨i, hi, rfl⟩ := List.getElem_of_mem hv
      have hrow := (List.forall₂_iff_get.1 hheld).2 i (hlen ▸ hi) hi
      exact (hp.lower _ (List.get_mem _ _)).trans hrow.1
  · rw [validateAgainst, contract_seq_eq_ok_iff, reject_eq_ok_iff, reject_eq_ok_iff, not_not]
    refine ⟨fun hbad => hbad.elim (· h.schema) (· h.active), ?_⟩
    rw [hconc, ← List.append_nil p.species, List.zip_append hlen, List.zip_nil_left,
      List.append_nil]
    exact fun row hrow => (List.forall₂_iff_zip.1 hheld).2 hrow

theorem holds_expressedBaseline [IsStrictOrderedRing K] {s : ChemicalSpecies K} {e : K}
    (hs : s.Holds s.baseline) (he : IsUnit e) : s.Holds (s.expressedBaseline e) := by
  unfold ChemicalSpecies.expressedBaseline
  cases s.kind with
  | material => exact hs
  | regulatory =>
    have hroom : 0 ≤ s.baseline - s.minimum := sub_nonneg.2 hs.1
    refine ⟨le_add_of_nonneg_right (mul_nonneg hroom he.1), ?_⟩
    have := mul_le_of_le_one_right hroom he.2
    calc s.minimum + (s.baseline - s.minimum) * e ≤ s.minimum + (s.baseline - s.minimum) := by
          gcongr
      _ = s.baseline := by ring
      _ ≤ s.maximum := hs.2

/-- A new graph state fits its phenotype and carries the tick it was given. -/
theorem new_spec [IsStrictOrderedRing K] {p : BiochemicalPhenotype K} {tick : Tick} {e : K}
    {g : BiochemicalGraphState K} (h : new p tick e = .ok g) :
    p.Sound ∧ g.Fits p ∧ g.tick = tick := by
  rw [new] at h
  obtain ⟨hvalid, h⟩ := contract_check_eq_ok_iff.1 h
  obtain ⟨he, h⟩ := contract_check_eq_ok_iff.1 h
  cases h
  have hp := BiochemicalPhenotype.sound_of_valid hvalid
  rw [validateDevelopmentalExpression, reject_eq_ok_iff, not_not] at he
  have hsize : p.species.length < UInt16.size := lt_of_le_of_lt hp.size (by decide)
  refine ⟨hp, ⟨rfl, UInt16.toNat_ofNat_of_lt hsize, _, _, rfl, ?_⟩, rfl⟩
  rw [List.forall₂_map_right_iff, List.forall₂_same]
  exact fun s hs => holds_expressedBaseline (hp.baseline s hs) he

/-- The published state fits the phenotype again. -/
theorem Fits.next {g : BiochemicalGraphState K} {p : BiochemicalPhenotype K} (h : g.Fits p)
    (hp : p.Sound) (nextTick : Tick) (body : BodyState K) (event : BodyEventDelta K)
    (neural : Option (NeuralEmissionFrame K)) (e : K) :
    (g.next nextTick body event neural p e).Fits p := by
  refine ⟨h.schema, h.active, _, _, rfl, ?_⟩
  conv_lhs => rw [← List.zipIdx_map_fst 0 p.species]
  rw [List.forall₂_map_left_iff, List.forall₂_map_right_iff, List.forall₂_same]
  intro row hrow
  have hmem : row.1 ∈ p.species := by
    rw [← List.zipIdx_map_fst 0 p.species]
    exact List.mem_map_of_mem hrow
  exact ⟨le_clamp _ _ _, clamp_le (hp.bounds _ hmem) _⟩

/-- **The graph's step fails only on its frame.** -/
theorem Fits.advance_eq {g : BiochemicalGraphState K} {p : BiochemicalPhenotype K}
    (h : g.Fits p) (hp : p.Sound) {nextTick : Tick} (htick : g.tick.raw ≤ nextTick.raw)
    (body : BodyState K) (event : BodyEventDelta K) (neural : Option (NeuralEmissionFrame K))
    {e : K} (he : IsUnit e) :
    g.advance nextTick body event neural p e =
      (do g.checkFrame neural
          pure (g.next nextTick body event neural p e)) := by
  have hexpr : validateDevelopmentalExpression e = .ok () := by
    rw [validateDevelopmentalExpression, reject_eq_ok_iff, not_not]
    exact he
  have hnext := ((h.next hp nextTick body event neural e).valid hp).2
  rw [advance, (h.valid hp).2, hexpr, Tick.validateMonotonic_eq_ok_iff.2 ⟨htick, rfl⟩]
  dsimp only
  rw [hnext]
  rfl

/-- What a state that fits gives its organs and its sleep: the signals, and no error. -/
theorem Fits.regulation {g : BiochemicalGraphState K} {p : BiochemicalPhenotype K}
    (h : g.Fits p) (hp : p.Sound) :
    g.organRegulation p = .ok (p.organEnergy.map (· g), p.organRepair.map (· g)) ∧
      g.sleepMetabolicRate p = .ok (p.sleepMetabolic.map (· g)) := by
  rw [organRegulation, sleepMetabolicRate, (h.valid hp).2]
  exact ⟨rfl, rfl⟩

/-- A state that fits has a valid homeostasis of its own tick. -/
theorem Fits.homeostasis {g : BiochemicalGraphState K} {p : BiochemicalPhenotype K}
    (h : g.Fits p) (hp : p.Sound) :
    ∃ s, g.deriveHomeostasis p = .ok s ∧ s.validateContract = .ok () ∧ s.tick = g.tick := by
  have hnew : ∀ d : DriveSnapshot K, ∀ e : EndocrineSnapshot K, (∀ v ∈ d.toList, IsUnit v) →
      (∀ v ∈ e.toList, IsUnit v) → ∃ s, HomeostaticSnapshot.new g.tick d e = .ok s ∧
        s.validateContract = .ok () ∧ s.tick = g.tick := by
    intro d e hd he
    have hvalid : HomeostaticSnapshot.validateContract
        ⟨SchemaKind.chemistry.current, g.tick, d, e⟩ = .ok () := by
      rw [HomeostaticSnapshot.validateContract, contract_seq_eq_ok_iff, contract_seq_eq_ok_iff,
        requireCurrentVersion_eq_ok_iff, validateUnitValues_eq_ok_iff,
        validateUnitValues_eq_ok_iff]
      exact ⟨rfl, hd, he⟩
    refine ⟨_, ?_, hvalid, rfl⟩
    rw [HomeostaticSnapshot.new, hvalid]
    rfl
  rw [deriveHomeostasis, (h.valid hp).2]
  refine hnew _ _ ?_ ?_
  · simp only [DriveSnapshot.toList, List.forall_mem_cons, List.not_mem_nil, false_implies,
      implies_true, and_true]
    exact ⟨Subtype.prop _, Subtype.prop _, Subtype.prop _, Subtype.prop _, Subtype.prop _,
      Subtype.prop _, Subtype.prop _, Subtype.prop _, Subtype.prop _, Subtype.prop _,
      Subtype.prop _⟩
  · simp only [EndocrineSnapshot.toList, List.forall_mem_cons, List.not_mem_nil, false_implies,
      implies_true, and_true]
    exact ⟨Subtype.prop _, Subtype.prop _, Subtype.prop _, Subtype.prop _, Subtype.prop _,
      Subtype.prop _, Subtype.prop _, Subtype.prop _, Subtype.prop _, Subtype.prop _,
      Subtype.prop _⟩

end BiochemicalGraphState

/-- `GenomeId`; zero is reserved as invalid. -/
structure GenomeId where
  raw : UInt64
  deriving DecidableEq, Repr

def GenomeId.validate (id : GenomeId) : Contract Unit := reject (id.raw = 0) .invalidId

/-- What a body reads of the brain genome; `contract` is what its `validate_contract` answers. -/
structure BrainGenome (K : Type) [Field K] [LinearOrder K] where
  id : GenomeId
  sleepPressureMaturationGate : NormalizedScalar K
  contract : Contract Unit

/-- `ChemistryPhenotype`; `endocrine` is what the check of the legacy profile answers. -/
structure ChemistryPhenotype (K : Type) [Field K] [LinearOrder K] where
  biochemical : BiochemicalPhenotype K
  endocrine : Contract Unit
  reproductiveThreshold : K
  brainAtpEfficiency : K

/-- `CreaturePhenotype`, as far as a body reads it. -/
structure CreaturePhenotype (K : Type) [Field K] [LinearOrder K] where
  sourceGenomeId : GenomeId
  brainGenome : BrainGenome K
  body : BodyPhenotype K
  chemistry : ChemistryPhenotype K
  development : DevelopmentPhenotype K
  /-- `reproduction.fertility` -/
  fertility : K

/-- `CreatureGenome`; `contract` is what its check answers on the parts left out, `biochemical` and
`brainGenome` are what these parts express. -/
structure CreatureGenome (K : Type) [Field K] [LinearOrder K] where
  id : GenomeId
  contract : Contract Unit
  body : BodyChromosome K
  /-- of the chemistry chromosome -/
  reproductiveThreshold : ContinuousLocus K
  brainAtpEfficiency : ContinuousLocus K
  development : DevelopmentChromosome K
  /-- of the reproduction chromosome -/
  fertility : ContinuousLocus K
  endocrine : Contract Unit
  biochemical : Contract (BiochemicalPhenotype K)
  brainGenome : BodyPhenotype K → DevelopmentPhenotype K → Contract (BrainGenome K)

/-- `CreatureGenome::validate_contract`. -/
def CreatureGenome.validateContract (g : CreatureGenome K) : Contract Unit := do
  g.id.validate
  g.contract
  g.body.validateContract
  validateLoci [g.reproductiveThreshold, g.brainAtpEfficiency]
  g.development.validateContract
  validateLoci [g.fertility]

variable [FloorRing K] [Exp2 K]

/-- `CreatureGenome::express`. -/
def CreatureGenome.express (g : CreatureGenome K) : Contract (CreaturePhenotype K) := do
  g.validateContract
  let body ← expressBody g.body
  let reproductiveThreshold ← g.reproductiveThreshold.expressed
  let brainAtpEfficiency ← g.brainAtpEfficiency.expressed
  g.endocrine
  let development ← expressDevelopment g.development
  let fertility ← g.fertility.expressed
  let biochemical ← g.biochemical
  let brainGenome ← g.brainGenome body development
  pure
    { sourceGenomeId := g.id
      brainGenome
      body
      chemistry :=
        { biochemical, endocrine := g.endocrine, reproductiveThreshold, brainAtpEfficiency }
      development
      fertility }

/-- What the physiology relies on in a phenotype. -/
structure CreaturePhenotype.Sound (p : CreaturePhenotype K) : Prop where
  body : p.body.Sound
  criticalPeriod : p.development.criticalPeriod.validateContract = .ok ()

/-- A genome expresses sound phenotypes only. -/
theorem CreatureGenome.sound_of_express [IsStrictOrderedRing K] {g : CreatureGenome K}
    {p : CreaturePhenotype K} (h : g.express = .ok p) : p.Sound := by
  rw [express] at h
  obtain ⟨-, h⟩ := contract_check_eq_ok_iff.1 h
  obtain ⟨body, hbody, h⟩ := contract_bind_eq_ok_iff.1 h
  obtain ⟨_, -, h⟩ := contract_bind_eq_ok_iff.1 h
  obtain ⟨_, -, h⟩ := contract_bind_eq_ok_iff.1 h
  obtain ⟨-, h⟩ := contract_check_eq_ok_iff.1 h
  obtain ⟨development, hdevelopment, h⟩ := contract_bind_eq_ok_iff.1 h
  obtain ⟨_, -, h⟩ := contract_bind_eq_ok_iff.1 h
  obtain ⟨_, -, h⟩ := contract_bind_eq_ok_iff.1 h
  obtain ⟨_, -, h⟩ := contract_bind_eq_ok_iff.1 h
  cases h
  exact ⟨sound_of_expressBody hbody, criticalPeriod_valid hdevelopment⟩

end Biology
end ALife
