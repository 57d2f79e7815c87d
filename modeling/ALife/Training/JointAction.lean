/-
# Joint actions

`PpoConfig`, `PpoJointAction` and their checks (`crates/alife_training/src/ppo.rs`):
a representative candidate, and a candidate for each of six motor slots, drawn
from masks.  The slot that the representative forces takes the representative.
-/

import ALife.Training.FoundationTrainer

namespace ALife

open Machine

namespace Training

variable {F : Type}

/-- `PPO_MAX_CANDIDATES`. -/
def ppoMaxCandidates : ℕ := 32

/-- `PPO_MOTOR_SLOTS`. -/
def ppoMotorSlots : ℕ := 6

structure PpoConfig (F : Type) where
  clipRatio : F
  epochs : UInt32
  targetKl : F
  entropyCoefficient : F
  valueCoefficient : F
  discountHalfLifeSeconds : F
  gaeHalfLifeSeconds : F
  temperature : F
  valueOptimizer : AdamWConfig F
  deriving DecidableEq, Repr

namespace PpoConfig

def floats (c : PpoConfig F) : List F :=
  [c.clipRatio, c.targetKl, c.entropyCoefficient, c.valueCoefficient, c.discountHalfLifeSeconds,
    c.gaeHalfLifeSeconds, c.temperature]

open FloatOrder in
/-- `PpoConfig::validate`. -/
def validate [FloatOrder F] (c : PpoConfig F) : Contract Unit := do
  c.valueOptimizer.validate
  reject (c.epochs = 0 ∨ c.floats.all isFinite = false
    ∨ (le zero c.clipRatio && lt c.clipRatio one) = false
    ∨ feq c.clipRatio zero = true ∨ le c.targetKl zero = true
    ∨ lt c.entropyCoefficient zero = true ∨ lt c.valueCoefficient zero = true
    ∨ le c.discountHalfLifeSeconds zero = true ∨ le c.gaeHalfLifeSeconds zero = true
    ∨ le c.temperature zero = true) .invalidDecisionEvidence

end PpoConfig

structure PpoJointAction (F : Type) where
  candidateCount : UInt16
  representativeMask : UInt32
  motorMasks : Fin ppoMotorSlots → UInt32
  representative : UInt16
  forcedSlots : List (Option UInt8)
  motorCandidates : Fin ppoMotorSlots → Option UInt16
  oldJointLogProbability : F
  temperature : F

/-- `mask & (1 << candidate) != 0`. -/
def hasBit (mask : UInt32) (candidate : ℕ) : Bool := mask.toNat.testBit candidate

variable [FloatOps F]

namespace PpoJointAction

variable (a : PpoJointAction F)

/-- The slot that a candidate forces. -/
def forced (candidate : ℕ) : Option UInt8 := (a.forcedSlots[candidate]?).join

/-- The loop over candidates in the check of a slot. -/
def maskFits (slot : Fin ppoMotorSlots) : Bool :=
  (List.range a.candidateCount.toNat).all fun candidate =>
    !hasBit (a.motorMasks slot) candidate || a.forced candidate == some (UInt8.ofNat slot.val)

/-- The candidate of a slot is the one it has to be, or one of its mask. -/
def candidateFits (slot : Fin ppoMotorSlots) : Bool :=
  let forced := a.forced a.representative.toNat == some (UInt8.ofNat slot.val)
  match a.motorCandidates slot with
  | some index =>
    if forced then index == a.representative
    else decide (index < a.candidateCount) && hasBit (a.motorMasks slot) index.toNat
  | none => !forced && a.motorMasks slot == 0

/-- `PpoJointAction::validate`. -/
def validate (temperature : F) : Contract Unit := do
  let count := a.candidateCount.toNat
  reject (count = 0 ∨ ppoMaxCandidates < count ∨ a.forcedSlots.length ≠ count
    ∨ count ≤ a.representative.toNat ∨ FloatOps.isFinite a.oldJointLogProbability = false
    ∨ FloatOps.lt (literal 1 100000) a.oldJointLogProbability = true
    ∨ FloatOps.toBits a.temperature ≠ FloatOps.toBits temperature
    ∨ FloatOps.isFinite a.temperature = false ∨ FloatOps.le a.temperature 0 = true)
    .invalidDecisionEvidence
  reject (a.representativeMask = 0 ∨ 2 ^ count ≤ a.representativeMask.toNat
    ∨ hasBit a.representativeMask a.representative.toNat = false
    ∨ ∃ slot ∈ a.forcedSlots.filterMap id, ppoMotorSlots ≤ slot.toNat) .invalidDecisionEvidence
  (List.finRange ppoMotorSlots).forM fun slot => do
    reject (a.motorMasks slot &&& ~~~a.representativeMask ≠ 0) .invalidDecisionEvidence
    reject (a.maskFits slot = false) .invalidDecisionEvidence
    reject (a.candidateFits slot = false) .invalidDecisionEvidence

end PpoJointAction

end Training

end ALife
