/-
# Loci and what they express

The diploid loci of `crates/alife_core/src/evolutionary_genetics.rs` and the two
chromosomes a living body is grown from: `express_body` and `express_development`.

Floats are exact here: an ordered field `K` with floors, so `is_finite` holds of
every value and its checks are left out, and `mul_add` is the product and the
sum.  `exp2` is the one operation a field lacks; of it only the sign is used
(`Exp2`).  Ticks and counts stay machine integers.
-/

import Mathlib
import ALife.Core.Units

namespace ALife
namespace Biology

/-- `f32::exp2`: a positive function. -/
class Exp2 (K : Type) [Zero K] [LT K] where
  exp2 : K → K
  exp2_pos : ∀ x, 0 < exp2 x

export Exp2 (exp2 exp2_pos)

noncomputable instance : Exp2 ℝ where
  exp2 x := (2 : ℝ) ^ x
  exp2_pos x := Real.rpow_pos_of_pos two_pos x

/-- On the rationals `exp2` is right at the integers. -/
instance : Exp2 ℚ where
  exp2 x := (2 : ℚ) ^ ⌊x⌋
  exp2_pos x := zpow_pos two_pos ⌊x⌋

section Clamp

variable {L : Type} [LinearOrder L]

/-- `x.clamp(lo, hi)`. -/
def clamp (lo hi x : L) : L := max lo (min x hi)

theorem le_clamp (lo hi x : L) : lo ≤ clamp lo hi x := le_max_left _ _

theorem clamp_le {lo hi : L} (h : lo ≤ hi) (x : L) : clamp lo hi x ≤ hi :=
  max_le h (min_le_right _ _)

theorem clamp_eq_self {lo hi x : L} (hlo : lo ≤ x) (hhi : x ≤ hi) : clamp lo hi x = x := by
  rw [clamp, min_eq_left hhi, max_eq_right hlo]

theorem clamp_le_of_le {lo hi x y : L} (hlo : lo ≤ y) (h : x ≤ y) : clamp lo hi x ≤ y :=
  max_le hlo ((min_le_left _ _).trans h)

theorem le_clamp_of_le {lo hi x y : L} (hhi : y ≤ hi) (h : y ≤ x) : y ≤ clamp lo hi x :=
  (le_min h hhi).trans (le_max_right _ _)

end Clamp

variable {K : Type} [Field K] [LinearOrder K]

/-- A value of the unit interval. -/
def IsUnit (x : K) : Prop := 0 ≤ x ∧ x ≤ 1

instance (x : K) : Decidable (IsUnit x) := inferInstanceAs (Decidable (_ ∧ _))

theorem isUnit_zero [IsStrictOrderedRing K] : IsUnit (0 : K) := ⟨le_rfl, zero_le_one⟩

theorem isUnit_one [IsStrictOrderedRing K] : IsUnit (1 : K) := ⟨zero_le_one, le_rfl⟩

/-- `clamp01`. -/
def clamp01 (x : K) : K := clamp 0 1 x

theorem isUnit_clamp01 [IsStrictOrderedRing K] (x : K) : IsUnit (clamp01 x) :=
  ⟨le_clamp 0 1 x, clamp_le zero_le_one x⟩

theorem clamp01_eq_self {x : K} (h : IsUnit x) : clamp01 x = x := clamp_eq_self h.1 h.2

/-- `signed_clamp`. -/
def signedClamp (x : K) : K := clamp (-1) 1 x

/-- `validate_unit_values`. -/
def validateUnitValues (values : List K) : Contract Unit :=
  reject (¬ ∀ v ∈ values, IsUnit v) .scalarOutOfRange

@[simp] theorem validateUnitValues_eq_ok_iff {values : List K} :
    validateUnitValues values = .ok () ↔ ∀ v ∈ values, IsUnit v := by
  rw [validateUnitValues, reject_eq_ok_iff, not_not]

/-- `validate_signed_unit_values`. -/
def validateSignedUnitValues (values : List K) : Contract Unit :=
  reject (¬ ∀ v ∈ values, -1 ≤ v ∧ v ≤ 1) .scalarOutOfRange

/-- `NormalizedScalar`: a value of the unit interval by construction. -/
structure NormalizedScalar (K : Type) [Field K] [LinearOrder K] where
  raw : K
  isUnit : IsUnit raw

/-- `normalized`. -/
def normalized (value : K) : Contract (NormalizedScalar K) :=
  if h : IsUnit value then .ok ⟨value, h⟩ else .error .scalarOutOfRange

theorem normalized_eq_ok_iff {value : K} {n : NormalizedScalar K} :
    normalized value = .ok n ↔ n.raw = value := by
  unfold normalized
  split_ifs with h
  · constructor
    · rintro ⟨⟩
      rfl
    · rintro rfl
      rfl
  · constructor
    · rintro ⟨⟩
    · rintro rfl
      exact absurd n.isUnit h

/-- `ContinuousLocus`. -/
structure ContinuousLocus (K : Type) where
  maternal : K
  paternal : K
  lower : K
  upper : K
  maternalWeight : K
  deriving DecidableEq, Repr

/-- `ContinuousLocus::midpoint_value`. -/
def ContinuousLocus.midpointValue (maternal paternal : K) : K := maternal * 0.5 + paternal * 0.5

/-- `ContinuousLocus::validate_contract`. -/
def ContinuousLocus.validateContract (l : ContinuousLocus K) : Contract Unit :=
  reject (l.upper ≤ l.lower ∨ ¬(l.lower ≤ l.maternal ∧ l.maternal ≤ l.upper)
    ∨ ¬(l.lower ≤ l.paternal ∧ l.paternal ≤ l.upper)
    ∨ ¬(0 ≤ l.maternalWeight ∧ l.maternalWeight < 1)) .invalidGeneticBounds

/-- `ContinuousLocus::expressed`. -/
def ContinuousLocus.expressed (l : ContinuousLocus K) : Contract K := do
  l.validateContract
  let value := l.maternal * l.maternalWeight + l.paternal * (1 - l.maternalWeight)
  if l.lower ≤ value ∧ value ≤ l.upper then pure value else .error .invalidGeneticBounds

/-- A locus that passes its check expresses a value between its bounds: the second check of
`expressed` never fails over exact numbers. -/
theorem ContinuousLocus.expressed_ok [IsStrictOrderedRing K] {l : ContinuousLocus K}
    (h : l.validateContract = .ok ()) : ∃ v, l.expressed = .ok v ∧ l.lower ≤ v ∧ v ≤ l.upper := by
  have hv := h
  rw [validateContract, reject_eq_ok_iff] at hv
  push Not at hv
  obtain ⟨-, ⟨hml, hmu⟩, ⟨hpl, hpu⟩, hw0, hw1⟩ := hv
  have hw : 0 ≤ 1 - l.maternalWeight := sub_nonneg.2 hw1.le
  have hlow : l.lower ≤ l.maternal * l.maternalWeight + l.paternal * (1 - l.maternalWeight) := by
    calc l.lower = l.lower * l.maternalWeight + l.lower * (1 - l.maternalWeight) := by ring
      _ ≤ _ := add_le_add (mul_le_mul_of_nonneg_right hml hw0) (mul_le_mul_of_nonneg_right hpl hw)
  have hup : l.maternal * l.maternalWeight + l.paternal * (1 - l.maternalWeight) ≤ l.upper := by
    calc _ ≤ l.upper * l.maternalWeight + l.upper * (1 - l.maternalWeight) :=
          add_le_add (mul_le_mul_of_nonneg_right hmu hw0) (mul_le_mul_of_nonneg_right hpu hw)
      _ = l.upper := by ring
  refine ⟨_, ?_, hlow, hup⟩
  rw [expressed, h]
  exact if_pos ⟨hlow, hup⟩

/-- `validate_loci`. -/
def validateLoci (loci : List (ContinuousLocus K)) : Contract Unit :=
  loci.forM ContinuousLocus.validateContract

inductive AlleleDominance where
  | recessive | dominant | codominant
  deriving DecidableEq, Repr

structure DiscreteAllele (α : Type) where
  value : α
  dominance : AlleleDominance
  deriving DecidableEq, Repr

structure DiscreteLocus (α : Type) where
  maternal : DiscreteAllele α
  paternal : DiscreteAllele α
  deriving DecidableEq, Repr

inductive DiscreteExpression (α : Type) where
  | single (a : α)
  | codominant (a b : α)
  deriving DecidableEq, Repr

/-- `DiscreteLocus::expressed`. -/
def DiscreteLocus.expressed {α : Type} [DecidableEq α] (l : DiscreteLocus α) :
    DiscreteExpression α :=
  if l.maternal.value = l.paternal.value then .single l.maternal.value
  else if l.maternal.dominance = .codominant ∨ l.paternal.dominance = .codominant then
    .codominant l.maternal.value l.paternal.value
  else match l.maternal.dominance, l.paternal.dominance with
    | .dominant, .recessive => .single l.maternal.value
    | .recessive, .dominant => .single l.paternal.value
    | _, _ => .codominant l.maternal.value l.paternal.value

inductive BodyFrame where
  | light | balanced | sturdy
  deriving DecidableEq, Repr

/-- `BodyFrame::bulk`. -/
def BodyFrame.bulk : BodyFrame → K
  | .light => -1
  | .balanced => 0
  | .sturdy => 1

/-- `BodyChromosome`. -/
structure BodyChromosome (K : Type) where
  size : ContinuousLocus K
  metabolicEfficiency : ContinuousLocus K
  metabolicTurnoverLog2 : ContinuousLocus K
  sensoryAcuity : ContinuousLocus K
  movementEfficiency : ContinuousLocus K
  lifespan : ContinuousLocus K
  injuryResistance : ContinuousLocus K
  temperatureTolerance : ContinuousLocus K
  appearanceHue : ContinuousLocus K
  frame : DiscreteLocus BodyFrame

/-- `BodyChromosome::validate_contract`. -/
def BodyChromosome.validateContract (b : BodyChromosome K) : Contract Unit := do
  reject (b.metabolicTurnoverLog2.lower ≠ -10.0 ∨ b.metabolicTurnoverLog2.upper ≠ 0)
    .invalidGeneticBounds
  validateLoci [b.size, b.metabolicEfficiency, b.metabolicTurnoverLog2, b.sensoryAcuity,
    b.movementEfficiency, b.lifespan, b.injuryResistance, b.temperatureTolerance, b.appearanceHue]

/-- `BodyPhenotype`. -/
structure BodyPhenotype (K : Type) where
  frame : DiscreteExpression BodyFrame
  sizeScale : K
  metabolicEfficiency : K
  metabolicTurnover : K
  sensoryAcuity : K
  movementEfficiency : K
  lifespanScale : K
  injuryResistance : K
  temperatureTolerance : K
  appearanceHue : K

/-- `express_body`. -/
def expressBody [Exp2 K] (body : BodyChromosome K) : Contract (BodyPhenotype K) := do
  let frame := body.frame.expressed
  let bulk : K := match frame with
    | .single a => a.bulk
    | .codominant a b => (a.bulk + b.bulk) * 0.5
  let size ← body.size.expressed
  let metabolicEfficiency ← body.metabolicEfficiency.expressed
  let turnoverLog2 ← body.metabolicTurnoverLog2.expressed
  let sensoryAcuity ← body.sensoryAcuity.expressed
  let movementEfficiency ← body.movementEfficiency.expressed
  let lifespanScale ← body.lifespan.expressed
  let injuryResistance ← body.injuryResistance.expressed
  let temperatureTolerance ← body.temperatureTolerance.expressed
  let appearanceHue ← body.appearanceHue.expressed
  pure
    { frame
      sizeScale := clamp01 (size + bulk * 0.10)
      metabolicEfficiency
      metabolicTurnover := exp2 turnoverLog2
      sensoryAcuity
      movementEfficiency
      lifespanScale
      injuryResistance := clamp01 (injuryResistance + bulk * 0.05)
      temperatureTolerance
      appearanceHue }

/-- What the physiology relies on in an expressed body: wounds never heal a creature, and the
inherited clock runs forwards. -/
structure BodyPhenotype.Sound (b : BodyPhenotype K) : Prop where
  resistance : IsUnit b.injuryResistance
  turnover : 0 < b.metabolicTurnover

theorem sound_of_expressBody [IsStrictOrderedRing K] [Exp2 K] {body : BodyChromosome K}
    {b : BodyPhenotype K} (h : expressBody body = .ok b) : b.Sound := by
  rw [expressBody] at h
  obtain ⟨_, -, h⟩ := contract_bind_eq_ok_iff.1 h
  obtain ⟨_, -, h⟩ := contract_bind_eq_ok_iff.1 h
  obtain ⟨_, -, h⟩ := contract_bind_eq_ok_iff.1 h
  obtain ⟨_, -, h⟩ := contract_bind_eq_ok_iff.1 h
  obtain ⟨_, -, h⟩ := contract_bind_eq_ok_iff.1 h
  obtain ⟨_, -, h⟩ := contract_bind_eq_ok_iff.1 h
  obtain ⟨_, -, h⟩ := contract_bind_eq_ok_iff.1 h
  obtain ⟨_, -, h⟩ := contract_bind_eq_ok_iff.1 h
  obtain ⟨_, -, h⟩ := contract_bind_eq_ok_iff.1 h
  cases h
  exact ⟨isUnit_clamp01 _, exp2_pos _⟩

/-- `DevelopmentChromosome`. -/
structure DevelopmentChromosome (K : Type) where
  maturationRate : ContinuousLocus K
  pubertyOnset : ContinuousLocus K
  sensorActivation : ContinuousLocus K
  lobeActivation : ContinuousLocus K
  biochemicalActivation : ContinuousLocus K
  criticalPeriodOpen : ContinuousLocus K
  criticalPeriodClose : ContinuousLocus K
  migrationCheckpoint : ContinuousLocus K

/-- `DevelopmentChromosome::validate_contract`. -/
def DevelopmentChromosome.validateContract (d : DevelopmentChromosome K) : Contract Unit :=
  validateLoci [d.maturationRate, d.pubertyOnset, d.sensorActivation, d.lobeActivation,
    d.biochemicalActivation, d.criticalPeriodOpen, d.criticalPeriodClose, d.migrationCheckpoint]

/-- `CriticalPeriod`; its bias is in the unit interval by construction. -/
structure CriticalPeriod (K : Type) [Field K] [LinearOrder K] where
  opensAt : Tick
  closesAt : Tick
  plasticityBias : NormalizedScalar K

/-- `CriticalPeriod::validate_contract`. -/
def CriticalPeriod.validateContract (c : CriticalPeriod K) : Contract Unit := do
  let _ ← Tick.validateMonotonic c.opensAt c.closesAt

/-- `DevelopmentPhenotype`. -/
structure DevelopmentPhenotype (K : Type) [Field K] [LinearOrder K] where
  maturationDurationTicks : ℕ
  pubertyTick : Tick
  sensorActivationMaturation : NormalizedScalar K
  lobeActivationMaturation : NormalizedScalar K
  biochemicalActivationMaturation : NormalizedScalar K
  criticalPeriod : CriticalPeriod K
  migrationCheckpoint : NormalizedScalar K

/-- `x.round() as uN`, which stops at the ends of the type. -/
def roundTo [FloorRing K] (largest : ℕ) (x : K) : ℕ := min ⌊x + 0.5⌋₊ largest

def u32Max : ℕ := 4294967295

def u64Max : ℕ := 18446744073709551615

/-- `express_development`.  The subtractions stay above zero in every phenotype it returns: the
bias is normalized, so the duration is at least 1050 ticks. -/
def expressDevelopment [FloorRing K] (development : DevelopmentChromosome K) :
    Contract (DevelopmentPhenotype K) := do
  let maturationRate ← development.maturationRate.expressed
  let duration := roundTo u32Max (2400.0 - 1200.0 * maturationRate)
  let pubertyFraction ← development.pubertyOnset.expressed
  let juvenileTick := duration / 3
  let pubertyTick :=
    clamp (juvenileTick + 1) (duration - 1) (roundTo u32Max ((duration : K) * pubertyFraction))
  let openFraction ← development.criticalPeriodOpen.expressed
  let opensAt := min (roundTo u64Max ((duration : K) * openFraction)) (duration - 2)
  let closeFraction ← development.criticalPeriodClose.expressed
  let closesAt := clamp (opensAt + 1) duration (roundTo u64Max ((duration : K) * closeFraction))
  let plasticityBias ← normalized (0.55 + 0.40 * maturationRate)
  let criticalPeriod : CriticalPeriod K :=
    { opensAt := ⟨.ofNat opensAt⟩, closesAt := ⟨.ofNat closesAt⟩, plasticityBias }
  criticalPeriod.validateContract
  let sensorActivation ← development.sensorActivation.expressed
  let sensorActivationMaturation ← normalized sensorActivation
  let lobeActivation ← development.lobeActivation.expressed
  let lobeActivationMaturation ← normalized lobeActivation
  let biochemicalActivation ← development.biochemicalActivation.expressed
  let biochemicalActivationMaturation ← normalized biochemicalActivation
  let migration ← development.migrationCheckpoint.expressed
  let migrationCheckpoint ← normalized migration
  pure
    { maturationDurationTicks := duration
      pubertyTick := ⟨.ofNat pubertyTick⟩
      sensorActivationMaturation
      lobeActivationMaturation
      biochemicalActivationMaturation
      criticalPeriod
      migrationCheckpoint }

/-- The critical period an expressed development carries passes its own check. -/
theorem criticalPeriod_valid [FloorRing K] {development : DevelopmentChromosome K}
    {d : DevelopmentPhenotype K} (h : expressDevelopment development = .ok d) :
    d.criticalPeriod.validateContract = .ok () := by
  rw [expressDevelopment] at h
  obtain ⟨_, -, h⟩ := contract_bind_eq_ok_iff.1 h
  obtain ⟨_, -, h⟩ := contract_bind_eq_ok_iff.1 h
  obtain ⟨_, -, h⟩ := contract_bind_eq_ok_iff.1 h
  obtain ⟨_, -, h⟩ := contract_bind_eq_ok_iff.1 h
  obtain ⟨_, -, h⟩ := contract_bind_eq_ok_iff.1 h
  obtain ⟨hperiod, h⟩ := contract_check_eq_ok_iff.1 h
  obtain ⟨_, -, h⟩ := contract_bind_eq_ok_iff.1 h
  obtain ⟨_, -, h⟩ := contract_bind_eq_ok_iff.1 h
  obtain ⟨_, -, h⟩ := contract_bind_eq_ok_iff.1 h
  obtain ⟨_, -, h⟩ := contract_bind_eq_ok_iff.1 h
  obtain ⟨_, -, h⟩ := contract_bind_eq_ok_iff.1 h
  obtain ⟨_, -, h⟩ := contract_bind_eq_ok_iff.1 h
  obtain ⟨_, -, h⟩ := contract_bind_eq_ok_iff.1 h
  obtain ⟨_, -, h⟩ := contract_bind_eq_ok_iff.1 h
  cases h
  exact hperiod

end Biology
end ALife
