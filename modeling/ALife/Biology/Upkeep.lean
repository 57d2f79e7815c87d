/-
# Upkeep, wounds and repair

`PassiveBodyUpkeepPolicy`, `BodyState::baseline` and `BodyState::apply_event` of
`crates/alife_core/src/biochemistry.rs`.  The loop over the organs is taken
apart: an organ is wounded, pays its upkeep, and then buys repair from its own
reserve.  Repair is bounded three times: by what is asked, by what is damaged
and by what is left (`OrganPhysiology.mend`).
-/

import ALife.Biology.Phenotype

namespace ALife
namespace Biology

variable {K : Type} [Field K] [LinearOrder K]

/-- `crossed_boundaries`. -/
def crossedBoundaries (previous next : Tick) (period cap : UInt32) : ℕ :=
  min (next.raw.toNat / period.toNat - previous.raw.toNat / period.toNat) cap.toNat

/-- `BiochemistryCadence`. -/
structure BiochemistryCadence where
  fastHormoneTicks : UInt32
  metabolismTicks : UInt32
  developmentTicks : UInt32
  reproductionTicks : UInt32
  maxCatchUpSteps : UInt32
  deriving DecidableEq, Repr

def maxBiochemistryCatchUpSteps : UInt32 := 64

/-- `BiochemistryCadence::early_mammal`. -/
def BiochemistryCadence.earlyMammal : BiochemistryCadence where
  fastHormoneTicks := 1
  metabolismTicks := 6
  developmentTicks := 60
  reproductionTicks := 120
  maxCatchUpSteps := maxBiochemistryCatchUpSteps

/-- `BiochemistryCadence::validate_contract`. -/
def BiochemistryCadence.validateContract (c : BiochemistryCadence) : Contract Unit :=
  reject (c.fastHormoneTicks = 0 ∨ c.metabolismTicks < c.fastHormoneTicks
    ∨ c.developmentTicks < c.metabolismTicks ∨ c.reproductionTicks < c.developmentTicks
    ∨ c.maxCatchUpSteps = 0 ∨ maxBiochemistryCatchUpSteps < c.maxCatchUpSteps) .scalarOutOfRange

/-- The cadence of an organ at birth. -/
def OrganKind.cadenceTicks : OrganKind → UInt32
  | .neuralSupport | .circulatory => 1
  | .locomotor | .thermoregulatory => 6
  | .metabolicReserve | .digestive => 12

/-- The cost of an organ at birth. -/
def OrganKind.energeticCost : OrganKind → K
  | .neuralSupport => 0.18
  | .circulatory => 0.14
  | .locomotor => 0.12
  | _ => 0.08

/-- `BodyState::baseline`. -/
def BodyState.baseline (p : CreaturePhenotype K) : BodyState K :=
  let energy := clamp01 (0.50 + 0.50 * p.body.metabolicEfficiency)
  let organs := OrganKind.all.map fun kind =>
    { kind
      energy
      integrity := 1
      damage := 0
      temperatureStress := 0
      repairCapacity := clamp01 (0.35 + 0.55 * p.body.injuryResistance)
      cadenceTicks := kind.cadenceTicks
      energeticCost := kind.energeticCost
      exposedLocus := kind.code + 1 : OrganPhysiology K }
  { organs, energy, health := 1, injury := 0, temperatureStress := 0, sleeping := false
    : BodyState K }.refreshCompatibilityProjections

/-- What one organ takes of a wound. -/
def OrganKind.localDamage (kind : OrganKind) (injuryGain : K) : K :=
  match kind with
  | .circulatory | .locomotor => injuryGain
  | .neuralSupport => injuryGain * 0.35
  | _ => injuryGain * 0.15

/-- An organ takes its part of a wound. -/
def OrganPhysiology.wound (o : OrganPhysiology K) (injuryGain : K) : OrganPhysiology K :=
  let localDamage := o.kind.localDamage injuryGain
  { o with
    damage := clamp01 (o.damage + localDamage)
    integrity := clamp01 (o.integrity - localDamage) }

/-- An organ's part of the energy of an event. -/
def OrganKind.eventShare (kind : OrganKind) (energy : K) : K :=
  match kind with
  | .locomotor => energy * 0.35
  | .neuralSupport => energy * 0.25
  | .circulatory => energy * 0.20
  | _ => energy * 0.10

/-- What food gives an organ. -/
def OrganKind.nutritionGain (kind : OrganKind) (nutrition efficiency : K) : K :=
  match kind with
  | .digestive => nutrition * efficiency
  | .metabolicReserve => nutrition * efficiency * 0.75
  | _ => nutrition * efficiency * 0.15

/-- The inherited efficiency of an organ, as a factor of its upkeep. -/
def OrganKind.upkeepFactor [Exp2 K] (kind : OrganKind) (p : CreaturePhenotype K) : K :=
  match kind with
  | .neuralSupport =>
    exp2 (ContinuousLocus.midpointValue 0.52 0.60 - p.chemistry.brainAtpEfficiency)
  | .locomotor => exp2 (ContinuousLocus.midpointValue 0.50 0.57 - p.body.movementEfficiency)
  | _ => 1

/-- The arguments of `apply_event` beside the body and its phenotype. -/
structure Exertion (K : Type) [Field K] [LinearOrder K] where
  previousTick : Tick
  nextTick : Tick
  event : BodyEventDelta K
  maxCatchUpSteps : UInt32
  energyUse : Option (Signal K)
  repairSignal : Option (Signal K)
  sleepMetabolicRate : K

/-- `unwrap_or(1.0)` of a signal. -/
def signalOr1 (s : Option (Signal K)) : K := (s.map Subtype.val).getD 1

namespace Exertion

variable (x : Exertion K) (p : CreaturePhenotype K)

/-- `injury_gain`. -/
def injuryGain : K := x.event.damage * (1 - p.body.injuryResistance)

/-- `recovery`. -/
def recovery : K := x.event.sleepRecovery * p.body.metabolicTurnover

/-- `cadence_steps`. -/
def cadenceSteps (o : OrganPhysiology K) : K :=
  ((crossedBoundaries x.previousTick x.nextTick o.cadenceTicks x.maxCatchUpSteps : ℕ) : K)

/-- `periodic_upkeep`. -/
def periodicUpkeep [Exp2 K] (o : OrganPhysiology K) : K :=
  o.energeticCost * 0.01 * x.cadenceSteps o * signalOr1 x.energyUse * o.kind.upkeepFactor p
    * p.body.metabolicTurnover * x.sleepMetabolicRate

/-- An organ is fed and pays its upkeep. -/
def feed [Exp2 K] (o : OrganPhysiology K) : OrganPhysiology K :=
  { o with
    energy := clamp01 (o.energy + o.kind.eventShare x.event.energy
      + o.kind.nutritionGain x.event.nutrition p.body.metabolicEfficiency
      - x.periodicUpkeep p o) }

/-- The repair that is asked of an organ. -/
def repairDemand (o : OrganPhysiology K) : K :=
  match x.repairSignal with
  | none => x.recovery p * o.repairCapacity
  | some signal => signal.1 * o.repairCapacity * x.cadenceSteps o * p.body.metabolicTurnover

end Exertion

/-- An organ buys repair: no more than is asked, than is damaged, and than it can pay. -/
def OrganPhysiology.mend (o : OrganPhysiology K) (demand : K) : OrganPhysiology K :=
  let repair := min (min demand (max o.damage (1 - o.integrity))) o.energy
  { o with
    damage := clamp01 (o.damage - repair)
    integrity := clamp01 (o.integrity + repair)
    energy := o.energy - repair }

/-- The heat reaches the thermoregulatory organ in full. -/
def OrganPhysiology.heat (o : OrganPhysiology K) (temperatureStress : K) : OrganPhysiology K :=
  { o with
    temperatureStress :=
      if o.kind = .thermoregulatory then temperatureStress else clamp01 (temperatureStress * 0.25) }

namespace BodyState

/-- The organs after a wound. -/
def wounded (b : BodyState K) (x : Exertion K) (p : CreaturePhenotype K) :
    List (OrganPhysiology K) :=
  b.organs.map (·.wound (x.injuryGain p))

/-- Some organ still works: without one, repair revives nothing. -/
def canRepair (b : BodyState K) (x : Exertion K) (p : CreaturePhenotype K) : Bool :=
  (b.wounded x p).any fun o => decide (0 < o.integrity)

/-- The organs as they stand when repair begins. -/
def beforeRepair [Exp2 K] (b : BodyState K) (x : Exertion K) (p : CreaturePhenotype K) :
    List (OrganPhysiology K) :=
  (b.wounded x p).map (x.feed p)

/-- `BodyState::apply_event`. -/
def applyEvent [Exp2 K] (b : BodyState K) (x : Exertion K) (p : CreaturePhenotype K) :
    BodyState K :=
  let temperatureStress := clamp01 (b.temperatureStress
    + x.event.temperatureStress * (1 - p.body.temperatureTolerance) - x.recovery p * 0.20)
  let organs := (b.beforeRepair x p).map fun o =>
    (if b.canRepair x p then o.mend (x.repairDemand p o) else o).heat temperatureStress
  { organs, energy := b.energy, health := b.health, injury := b.injury, temperatureStress
    sleeping := decide (0 < x.recovery p) : BodyState K }.refreshCompatibilityProjections

end BodyState

/-- `PassiveBodyUpkeepPolicy`. -/
def referenceLifetimeTicks : ℕ := 1824

def adultLifetimeBaseMultiplier : K := 2.0

def noFoodReserveFraction : K := 0.55

def maturationReserveBuffer : K := 1.25

/-- `PassiveBodyUpkeepPolicy::maximum_lifespan_ticks`. -/
def maximumLifespanTicks [FloorRing K] (p : CreaturePhenotype K) : ℕ :=
  roundTo u64Max ((referenceLifetimeTicks : K)
    * (adultLifetimeBaseMultiplier + p.body.lifespanScale))

/-- `PassiveBodyUpkeepPolicy::body_load`. -/
def bodyLoad (p : CreaturePhenotype K) : K :=
  (0.90 + 0.20 * p.body.sizeScale) * (1.10 - 0.20 * p.body.metabolicEfficiency)

/-- `PassiveBodyUpkeepPolicy::reserve_horizon_ticks`; the load is kept above `f32::EPSILON`. -/
def reserveHorizonTicks [FloorRing K] (p : CreaturePhenotype K) : ℕ :=
  roundTo u64Max (max (maturationReserveBuffer * (referenceLifetimeTicks : K))
    (noFoodReserveFraction * (maximumLifespanTicks p : K)
      / max (bodyLoad p) 1.1920928955078125e-7))

/-- `PassiveBodyUpkeepPolicy::upkeep_event`. -/
def upkeepEvent [FloorRing K] (p : CreaturePhenotype K) (cadence : BiochemistryCadence)
    (crossedMetabolismSteps : ℕ) : BodyEventDelta K :=
  if crossedMetabolismSteps = 0 then
    .zero
  else
    let reserveHorizonTicks := max (reserveHorizonTicks p) 1
    let baselineEnergy : K := 0.50 + 0.50 * p.body.metabolicEfficiency
    let cost := baselineEnergy * (cadence.metabolismTicks.toNat : K) / (reserveHorizonTicks : K)
      * (crossedMetabolismSteps : K)
    { (BodyEventDelta.zero : BodyEventDelta K) with energy := -clamp01 cost }

/-- What repair gives an organ, it pays for: `after` is `before` with repair bought. -/
structure RepairPaid (before after : OrganPhysiology K) : Prop where
  paid : after.energy ≤ before.energy
  integrity : after.integrity - before.integrity ≤ before.energy - after.energy
  damage : before.damage - after.damage ≤ before.energy - after.energy

theorem RepairPaid.refl (o : OrganPhysiology K) : RepairPaid o o :=
  ⟨le_rfl, by rw [sub_self, sub_self], by rw [sub_self, sub_self]⟩

/-- Every organ has lost its integrity. -/
def Exhausted (organs : List (OrganPhysiology K)) : Prop := ∀ o ∈ organs, o.integrity = 0

/-- An exhausted body has no health. -/
theorem BodyState.Sound.health_eq_zero {b : BodyState K} (hb : b.Sound) (h : Exhausted b.organs) :
    b.health = 0 := by
  rw [hb.health, organMean, List.sum_eq_zero, zero_div]
  intro v hv
  obtain ⟨o, ho, rfl⟩ := List.mem_map.1 hv
  exact h o ho

section Laws

variable [IsStrictOrderedRing K]

theorem OrganPhysiology.Sound.wound {o : OrganPhysiology K} (h : o.Sound) (injuryGain : K) :
    (o.wound injuryGain).Sound :=
  { h with damage := isUnit_clamp01 _, integrity := isUnit_clamp01 _ }

theorem OrganPhysiology.Sound.feed [Exp2 K] {o : OrganPhysiology K} (h : o.Sound)
    (x : Exertion K) (p : CreaturePhenotype K) : (x.feed p o).Sound :=
  { h with energy := isUnit_clamp01 _ }

theorem OrganPhysiology.Sound.heat {o : OrganPhysiology K} (h : o.Sound) {t : K}
    (ht : IsUnit t) : (o.heat t).Sound := by
  refine { h with temperature := ?_ }
  unfold OrganPhysiology.heat
  dsimp only
  split_ifs
  · exact ht
  · exact isUnit_clamp01 _

/-- The repair bought: nothing below zero, and nothing beyond the reserve. -/
theorem OrganPhysiology.mend_energy {o : OrganPhysiology K} (h : o.Sound) {demand : K}
    (hdemand : 0 ≤ demand) :
    0 ≤ o.energy - (o.mend demand).energy ∧ 0 ≤ (o.mend demand).energy := by
  have hpaid : o.energy - (o.mend demand).energy
      = min (min demand (max o.damage (1 - o.integrity))) o.energy := sub_sub_cancel _ _
  rw [hpaid]
  refine ⟨le_min (le_min hdemand (le_max_of_le_left h.damage.1)) h.energy.1, ?_⟩
  exact sub_nonneg.2 (min_le_right _ _)

theorem OrganPhysiology.Sound.mend {o : OrganPhysiology K} (h : o.Sound) {demand : K}
    (hdemand : 0 ≤ demand) : (o.mend demand).Sound := by
  obtain ⟨hpaid, hleft⟩ := OrganPhysiology.mend_energy h hdemand
  refine { h with damage := isUnit_clamp01 _, integrity := isUnit_clamp01 _, energy := ⟨hleft, ?_⟩ }
  exact (sub_nonneg.1 hpaid).trans h.energy.2

/-- **Repair is paid for in full.** -/
theorem OrganPhysiology.repairPaid_mend {o : OrganPhysiology K} (h : o.Sound) {demand : K}
    (hdemand : 0 ≤ demand) : RepairPaid o (o.mend demand) := by
  obtain ⟨hpaid, -⟩ := OrganPhysiology.mend_energy h hdemand
  have hsub : o.energy - (o.mend demand).energy
      = min (min demand (max o.damage (1 - o.integrity))) o.energy := sub_sub_cancel _ _
  refine ⟨sub_nonneg.1 hpaid, ?_, ?_⟩
  · -- the clamp from above only takes away from the gain
    rw [hsub] at hpaid ⊢
    rw [sub_le_iff_le_add']
    exact clamp_le_of_le (add_nonneg h.integrity.1 hpaid) le_rfl
  · rw [hsub] at hpaid ⊢
    rw [sub_le_comm]
    exact le_clamp_of_le ((sub_le_self _ hpaid).trans h.damage.2) le_rfl

/-- The signals and events under which `apply_event` is called. -/
structure Exertion.Sound (x : Exertion K) : Prop where
  damage : IsUnit x.event.damage
  sleepRecovery : IsUnit x.event.sleepRecovery

theorem Exertion.injuryGain_nonneg {x : Exertion K} {p : CreaturePhenotype K} (hx : x.Sound)
    (hp : p.body.Sound) : 0 ≤ x.injuryGain p :=
  mul_nonneg hx.damage.1 (sub_nonneg.2 hp.resistance.2)

theorem Exertion.repairDemand_nonneg {x : Exertion K} {p : CreaturePhenotype K} (hx : x.Sound)
    (hp : p.body.Sound) {o : OrganPhysiology K} (ho : o.Sound) : 0 ≤ x.repairDemand p o := by
  unfold Exertion.repairDemand
  cases x.repairSignal with
  | none => exact mul_nonneg (mul_nonneg hx.sleepRecovery.1 hp.turnover.le) ho.capacity.1
  | some signal =>
    exact mul_nonneg (mul_nonneg (mul_nonneg signal.2.1 ho.capacity.1) (Nat.cast_nonneg _))
      hp.turnover.le

theorem OrganKind.localDamage_nonneg (kind : OrganKind) {injuryGain : K} (h : 0 ≤ injuryGain) :
    0 ≤ kind.localDamage injuryGain := by
  cases kind <;> first | exact h | exact mul_nonneg h (by norm_num)

/-- What stands before repair against the organs of the body: wounds only take. -/
structure Worn (before after : OrganPhysiology K) : Prop where
  kind : after.kind = before.kind
  integrity : after.integrity ≤ before.integrity
  damage : before.damage ≤ after.damage

variable {b : BodyState K} {x : Exertion K} {p : CreaturePhenotype K}

theorem BodyState.worn_beforeRepair [Exp2 K] (hb : OrgansSound b.organs) (hx : x.Sound)
    (hp : p.body.Sound) : List.Forall₂ Worn b.organs (b.beforeRepair x p) := by
  rw [beforeRepair, wounded, List.map_map, List.forall₂_map_right_iff, List.forall₂_same]
  intro o ho
  have hlocal := o.kind.localDamage_nonneg (Exertion.injuryGain_nonneg hx hp)
  have hsound := hb.sound o ho
  exact ⟨rfl, clamp_le_of_le hsound.integrity.1 (sub_le_self _ hlocal),
    le_clamp_of_le hsound.damage.2 (le_add_of_nonneg_right hlocal)⟩

theorem BodyState.beforeRepair_sound [Exp2 K] (hb : OrgansSound b.organs) :
    OrgansSound (b.beforeRepair x p) := by
  have hwounded : OrgansSound (b.wounded x p) :=
    hb.map (f := (·.wound (x.injuryGain p))) (fun _ => rfl) fun _ _ ho => ho.wound _
  exact hwounded.map (fun _ => rfl) fun _ _ ho => ho.feed x p

/-- **An event leaves a sound body sound.** -/
theorem BodyState.applyEvent_sound [Exp2 K] (hb : b.Sound) (hx : x.Sound) (hp : p.body.Sound) :
    (b.applyEvent x p).Sound := by
  refine sound_refresh ((beforeRepair_sound hb.organs).map (fun o => ?_) fun o _ ho => ?_)
  · split_ifs <;> rfl
  · refine OrganPhysiology.Sound.heat ?_ (isUnit_clamp01 _)
    split_ifs
    · exact ho.mend (Exertion.repairDemand_nonneg hx hp ho)
    · exact ho

/-- **Every organ pays for its repair**, from what it holds when repair begins. -/
theorem BodyState.applyEvent_repairPaid [Exp2 K] (hb : b.Sound) (hx : x.Sound)
    (hp : p.body.Sound) :
    List.Forall₂ RepairPaid (b.beforeRepair x p) (b.applyEvent x p).organs := by
  show List.Forall₂ RepairPaid (b.beforeRepair x p) ((b.beforeRepair x p).map _)
  rw [List.forall₂_map_right_iff, List.forall₂_same]
  intro o ho
  have hsound := (beforeRepair_sound (x := x) (p := p) hb.organs).sound o ho
  split_ifs
  · have hpaid := OrganPhysiology.repairPaid_mend hsound
      (Exertion.repairDemand_nonneg hx hp hsound)
    exact ⟨hpaid.paid, hpaid.integrity, hpaid.damage⟩
  · exact ⟨le_rfl, (RepairPaid.refl o).integrity, (RepairPaid.refl o).damage⟩

/-- **No event revives an exhausted body**: repair needs one organ that still works. -/
theorem BodyState.applyEvent_exhausted [Exp2 K] (h : Exhausted b.organs) (hx : x.Sound)
    (hp : p.body.Sound) : Exhausted (b.applyEvent x p).organs := by
  have hwounded : ∀ o ∈ b.wounded x p, o.integrity = 0 := by
    intro o' ho'
    obtain ⟨o, ho, rfl⟩ := List.mem_map.1 ho'
    have hlocal := o.kind.localDamage_nonneg (Exertion.injuryGain_nonneg hx hp)
    have hle : o.integrity - o.kind.localDamage (x.injuryGain p) ≤ 0 := by
      rw [h o ho, zero_sub]
      exact neg_nonpos.2 hlocal
    exact le_antisymm (clamp_le_of_le le_rfl hle) (isUnit_clamp01 _).1
  have hcannot : b.canRepair x p = false := by
    rw [canRepair, List.any_eq_false]
    intro o ho
    rw [hwounded o ho, decide_eq_true_iff]
    exact lt_irrefl 0
  intro o' ho'
  obtain ⟨fed, hfed, rfl⟩ := List.mem_map.1 ho'
  obtain ⟨o, ho, rfl⟩ := List.mem_map.1 hfed
  rw [hcannot]
  exact hwounded o ho

/-- A newborn's body is sound. -/
theorem BodyState.baseline_sound (p : CreaturePhenotype K) : (BodyState.baseline p).Sound := by
  refine sound_refresh ⟨?_, ?_⟩
  · rw [List.map_map]
    exact List.map_id _
  · intro o ho
    obtain ⟨kind, -, rfl⟩ := List.mem_map.1 ho
    refine ⟨isUnit_clamp01 _, isUnit_one, isUnit_zero, isUnit_zero, isUnit_clamp01 _, ?_, ?_, ?_⟩
    · cases kind <;> exact ⟨by norm_num [OrganKind.energeticCost], by
        norm_num [OrganKind.energeticCost]⟩
    · cases kind <;> exact of_decide_eq_true rfl
    · cases kind <;> exact of_decide_eq_true rfl

end Laws

end Biology
end ALife
