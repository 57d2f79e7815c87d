/-
# Homeostatic snapshots and recovery triggers

The part of `crates/alife_core/src/chemistry.rs` that decides when a creature
falls asleep: the snapshot of drives and hormones, the thresholds, and
`ChemistryModulation::recovery_triggers`.  The dynamics (drift, decay, deltas)
are left out: the sleep controller never runs them.
-/

import ALife.Core.Units

namespace ALife

open Machine

structure DriveSnapshot where
  hunger : F32
  fatigue : F32
  fear : F32
  pain : F32
  loneliness : F32
  curiosity : F32
  brainAtp : F32
  temperatureStress : F32
  reproductiveDrive : F32
  extension0 : F32
  extension1 : F32
  deriving DecidableEq, Repr

def DriveSnapshot.toList (d : DriveSnapshot) : List F32 :=
  [d.hunger, d.fatigue, d.fear, d.pain, d.loneliness, d.curiosity, d.brainAtp,
    d.temperatureStress, d.reproductiveDrive, d.extension0, d.extension1]

/-- `DriveSnapshot::baseline`. -/
def DriveSnapshot.baseline : DriveSnapshot where
  hunger := ⟨0x3e800000⟩
  fatigue := ⟨0x3e4ccccd⟩
  fear := ⟨0x3dcccccd⟩
  pain := .zero
  loneliness := ⟨0x3e19999a⟩
  curiosity := ⟨0x3ee66666⟩
  brainAtp := ⟨0x3f400000⟩
  temperatureStress := .zero
  reproductiveDrive := ⟨0x3dcccccd⟩
  extension0 := .zero
  extension1 := .zero

structure EndocrineSnapshot where
  adrenaline : F32
  cortisol : F32
  dopamine : F32
  oxytocin : F32
  serotonin : F32
  acetylcholine : F32
  learningModulator : F32
  developmentalHormone : F32
  sleepPressure : F32
  extension0 : F32
  extension1 : F32
  deriving DecidableEq, Repr

def EndocrineSnapshot.toList (e : EndocrineSnapshot) : List F32 :=
  [e.adrenaline, e.cortisol, e.dopamine, e.oxytocin, e.serotonin, e.acetylcholine,
    e.learningModulator, e.developmentalHormone, e.sleepPressure, e.extension0, e.extension1]

/-- `EndocrineSnapshot::baseline`. -/
def EndocrineSnapshot.baseline : EndocrineSnapshot where
  adrenaline := ⟨0x3e4ccccd⟩
  cortisol := ⟨0x3e4ccccd⟩
  dopamine := ⟨0x3f000000⟩
  oxytocin := ⟨0x3f000000⟩
  serotonin := ⟨0x3f19999a⟩
  acetylcholine := ⟨0x3f000000⟩
  learningModulator := ⟨0x3f000000⟩
  developmentalHormone := ⟨0x3f000000⟩
  sleepPressure := ⟨0x3e4ccccd⟩
  extension0 := .zero
  extension1 := .zero

structure HomeostaticSnapshot where
  schemaVersion : UInt16
  tick : Tick
  drives : DriveSnapshot
  hormones : EndocrineSnapshot
  deriving DecidableEq, Repr

/-- `HomeostaticSnapshot::baseline`. -/
def HomeostaticSnapshot.baseline (tick : Tick) : HomeostaticSnapshot :=
  ⟨SchemaKind.chemistry.current, tick, .baseline, .baseline⟩

/-- `HomeostaticSnapshot::validate_contract`. -/
def HomeostaticSnapshot.validateContract (h : HomeostaticSnapshot) : Contract Unit := do
  requireCurrentVersion .chemistry h.schemaVersion
  validateUnitValues h.drives.toList
  validateUnitValues h.hormones.toList

structure HomeostaticParameters where
  hungerDriftPerUpdate : F32
  fatigueDriftPerUpdate : F32
  lonelinessDriftPerUpdate : F32
  curiosityDriftPerUpdate : F32
  reproductiveDriftPerUpdate : F32
  brainAtpDrainPerUpdate : F32
  driveDecayPerUpdate : F32
  hormoneDecayPerUpdate : F32
  sleepPressureDriftPerUpdate : F32
  seizureAdrenalineThreshold : F32
  seizureCortisolThreshold : F32
  catatoniaBrainAtpThreshold : F32
  fatigueSleepThreshold : F32
  sleepPressureThreshold : F32
  painFrustrationThreshold : F32
  safeIdleBrainAtpThreshold : F32
  safeIdlePainThreshold : F32
  deriving DecidableEq, Repr

def HomeostaticParameters.toList (p : HomeostaticParameters) : List F32 :=
  [p.hungerDriftPerUpdate, p.fatigueDriftPerUpdate, p.lonelinessDriftPerUpdate,
    p.curiosityDriftPerUpdate, p.reproductiveDriftPerUpdate, p.brainAtpDrainPerUpdate,
    p.driveDecayPerUpdate, p.hormoneDecayPerUpdate, p.sleepPressureDriftPerUpdate,
    p.seizureAdrenalineThreshold, p.seizureCortisolThreshold, p.catatoniaBrainAtpThreshold,
    p.fatigueSleepThreshold, p.sleepPressureThreshold, p.painFrustrationThreshold,
    p.safeIdleBrainAtpThreshold, p.safeIdlePainThreshold]

/-- `HomeostaticParameters::reference`. -/
def HomeostaticParameters.reference : HomeostaticParameters where
  hungerDriftPerUpdate := ⟨0x3c23d70a⟩
  fatigueDriftPerUpdate := ⟨0x3c23d70a⟩
  lonelinessDriftPerUpdate := ⟨0x3b449ba6⟩
  curiosityDriftPerUpdate := ⟨0x3b03126f⟩
  reproductiveDriftPerUpdate := ⟨0x3a83126f⟩
  brainAtpDrainPerUpdate := ⟨0x3c23d70a⟩
  driveDecayPerUpdate := ⟨0x3d23d70a⟩
  hormoneDecayPerUpdate := ⟨0x3d75c28f⟩
  sleepPressureDriftPerUpdate := ⟨0x3c23d70a⟩
  seizureAdrenalineThreshold := ⟨0x3f733333⟩
  seizureCortisolThreshold := ⟨0x3f666666⟩
  catatoniaBrainAtpThreshold := ⟨0x3d4ccccd⟩
  fatigueSleepThreshold := ⟨0x3f666666⟩
  sleepPressureThreshold := ⟨0x3f59999a⟩
  painFrustrationThreshold := ⟨0x3f59999a⟩
  safeIdleBrainAtpThreshold := ⟨0x3da3d70a⟩
  safeIdlePainThreshold := ⟨0x3f733333⟩

/-- `HomeostaticParameters::validate_contract`. -/
def HomeostaticParameters.validateContract (p : HomeostaticParameters) : Contract Unit :=
  validateUnitValues p.toList

/-- The recovery triggers that a snapshot raises. -/
structure RecoveryAssessment where
  seizureHyperactivity : Bool
  catatoniaEnergyHypoplasia : Bool
  fatigueSleepEntry : Bool
  painFrustrationSpike : Bool
  safeIdleFallback : Bool
  deriving DecidableEq, Repr

/-- `ChemistryModulation::recovery_triggers`. -/
def recoveryTriggers (state : HomeostaticSnapshot) (parameters : HomeostaticParameters) :
    Contract RecoveryAssessment := do
  state.validateContract
  parameters.validateContract
  let seizure := F32.le parameters.seizureAdrenalineThreshold state.hormones.adrenaline
    && F32.le parameters.seizureCortisolThreshold state.hormones.cortisol
  let catatonia := F32.le state.drives.brainAtp parameters.catatoniaBrainAtpThreshold
  pure
    { seizureHyperactivity := seizure
      catatoniaEnergyHypoplasia := catatonia
      fatigueSleepEntry := F32.le parameters.fatigueSleepThreshold state.drives.fatigue
        || F32.le parameters.sleepPressureThreshold state.hormones.sleepPressure
      painFrustrationSpike := F32.le parameters.painFrustrationThreshold state.drives.pain
      safeIdleFallback := seizure || catatonia
        || F32.le state.drives.brainAtp parameters.safeIdleBrainAtpThreshold
        || F32.le parameters.safeIdlePainThreshold state.drives.pain }

end ALife
