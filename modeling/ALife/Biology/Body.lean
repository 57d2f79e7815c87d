/-
# The body and what happens to it

`OrganPhysiology`, `BodyState` and `BodyEventDelta` of
`crates/alife_core/src/biochemistry.rs`.  The energy, health and injury of a body
are the means over its six organs and its temperature stress their maximum; the
code keeps both and checks one against the other.
-/

import ALife.Biology.Expression

namespace ALife
namespace Biology

variable {K : Type} [Field K] [LinearOrder K]

inductive OrganKind where
  | metabolicReserve | circulatory | neuralSupport | thermoregulatory | locomotor | digestive
  deriving DecidableEq, Repr

/-- `OrganKind::ALL`. -/
def OrganKind.all : List OrganKind :=
  [.metabolicReserve, .circulatory, .neuralSupport, .thermoregulatory, .locomotor, .digestive]

def organKindCount : ℕ := 6

/-- `kind as u16`. -/
def OrganKind.code : OrganKind → UInt16
  | .metabolicReserve => 0
  | .circulatory => 1
  | .neuralSupport => 2
  | .thermoregulatory => 3
  | .locomotor => 4
  | .digestive => 5

/-- `OrganPhysiology`. -/
structure OrganPhysiology (K : Type) where
  kind : OrganKind
  energy : K
  integrity : K
  damage : K
  temperatureStress : K
  repairCapacity : K
  cadenceTicks : UInt32
  energeticCost : K
  exposedLocus : UInt16
  deriving DecidableEq, Repr

/-- `OrganPhysiology::validate_contract`. -/
def OrganPhysiology.validateContract (o : OrganPhysiology K) : Contract Unit := do
  validateUnitValues [o.energy, o.integrity, o.damage, o.temperatureStress, o.repairCapacity,
    o.energeticCost]
  reject (o.cadenceTicks = 0 ∨ o.exposedLocus = 0) .invalidGeneticBounds

/-- An organ that passes its check. -/
structure OrganPhysiology.Sound (o : OrganPhysiology K) : Prop where
  energy : IsUnit o.energy
  integrity : IsUnit o.integrity
  damage : IsUnit o.damage
  temperature : IsUnit o.temperatureStress
  capacity : IsUnit o.repairCapacity
  cost : IsUnit o.energeticCost
  cadence : o.cadenceTicks ≠ 0
  locus : o.exposedLocus ≠ 0

theorem OrganPhysiology.validateContract_eq_ok_iff {o : OrganPhysiology K} :
    o.validateContract = .ok () ↔ o.Sound := by
  rw [validateContract, contract_seq_eq_ok_iff, validateUnitValues_eq_ok_iff, reject_eq_ok_iff]
  simp only [List.forall_mem_cons, List.not_mem_nil, false_implies, implies_true, and_true, not_or]
  constructor
  · rintro ⟨⟨he, hi, hd, ht, hr, hc⟩, hcad, hloc⟩
    exact ⟨he, hi, hd, ht, hr, hc, hcad, hloc⟩
  · rintro ⟨he, hi, hd, ht, hr, hc, hcad, hloc⟩
    exact ⟨⟨he, hi, hd, ht, hr, hc⟩, hcad, hloc⟩

/-- `BodyState`. -/
structure BodyState (K : Type) where
  organs : List (OrganPhysiology K)
  energy : K
  health : K
  injury : K
  temperatureStress : K
  sleeping : Bool
  deriving DecidableEq, Repr

/-- The mean over the organs, `iter().sum() / ORGAN_KIND_COUNT as f32`. -/
def organMean (organs : List (OrganPhysiology K)) (f : OrganPhysiology K → K) : K :=
  (organs.map f).sum / (organKindCount : K)

/-- The maximum over the organs, `iter().fold(0.0, f32::max)`. -/
def organMax (organs : List (OrganPhysiology K)) (f : OrganPhysiology K → K) : K :=
  (organs.map f).foldl max 0

/-- `BodyState::refresh_compatibility_projections`, on the values of `projected_values`. -/
def BodyState.refreshCompatibilityProjections (b : BodyState K) : BodyState K :=
  { b with
    energy := organMean b.organs (·.energy)
    health := organMean b.organs (·.integrity)
    injury := organMean b.organs (·.damage)
    temperatureStress := organMax b.organs (·.temperatureStress) }

/-- `BodyState::validate_contract`.  Exact numbers with equal bits are equal. -/
def BodyState.validateContract (b : BodyState K) : Contract Unit := do
  validateUnitValues [b.energy, b.health, b.injury, b.temperatureStress]
  b.organs.forM OrganPhysiology.validateContract
  reject (b.organs.map (·.kind) ≠ OrganKind.all) .invalidGeneticBounds
  reject (b.energy ≠ organMean b.organs (·.energy) ∨ b.health ≠ organMean b.organs (·.integrity)
    ∨ b.injury ≠ organMean b.organs (·.damage)
    ∨ b.temperatureStress ≠ organMax b.organs (·.temperatureStress)) .invalidDecisionEvidence

/-- The organs of a body: one of each kind, in order, each sound. -/
structure OrgansSound (organs : List (OrganPhysiology K)) : Prop where
  kinds : organs.map (·.kind) = OrganKind.all
  sound : ∀ o ∈ organs, o.Sound

/-- A body whose organs are sound and whose projections are read off them. -/
structure BodyState.Sound (b : BodyState K) : Prop where
  organs : OrgansSound b.organs
  energy : b.energy = organMean b.organs (·.energy)
  health : b.health = organMean b.organs (·.integrity)
  injury : b.injury = organMean b.organs (·.damage)
  temperature : b.temperatureStress = organMax b.organs (·.temperatureStress)

theorem OrgansSound.length_eq {organs : List (OrganPhysiology K)} (h : OrgansSound organs) :
    organs.length = organKindCount := by
  have hlen := congrArg List.length h.kinds
  rwa [List.length_map] at hlen

theorem organKindCount_pos [IsStrictOrderedRing K] : (0 : K) < (organKindCount : K) :=
  Nat.cast_pos.2 (Nat.succ_pos 5)

/-- A sum of values of the unit interval lies between zero and their number. -/
theorem sum_isUnit [IsStrictOrderedRing K] {l : List K} (h : ∀ x ∈ l, IsUnit x) :
    0 ≤ l.sum ∧ l.sum ≤ l.length := by
  refine ⟨List.sum_nonneg fun x hx => (h x hx).1, ?_⟩
  have := List.sum_le_card_nsmul l 1 fun x hx => (h x hx).2
  rwa [nsmul_eq_mul, mul_one] at this

/-- The mean of unit values over the six organs is a unit value. -/
theorem OrgansSound.isUnit_mean [IsStrictOrderedRing K] {organs : List (OrganPhysiology K)}
    (h : OrgansSound organs) {f : OrganPhysiology K → K} (hf : ∀ o ∈ organs, IsUnit (f o)) :
    IsUnit (organMean organs f) := by
  have hmap : ∀ x ∈ organs.map f, IsUnit x := by
    intro x hx
    obtain ⟨o, ho, rfl⟩ := List.mem_map.1 hx
    exact hf o ho
  obtain ⟨hnonneg, hle⟩ := sum_isUnit hmap
  rw [List.length_map, h.length_eq] at hle
  refine ⟨div_nonneg hnonneg organKindCount_pos.le, ?_⟩
  rwa [organMean, div_le_one organKindCount_pos]

/-- The running maximum of unit values from a unit value is one. -/
theorem isUnit_foldl_max {l : List K} (h : ∀ x ∈ l, IsUnit x) {a : K} (ha : IsUnit a) :
    IsUnit (l.foldl max a) := by
  induction l generalizing a with
  | nil => exact ha
  | cons x l ih =>
    have hx := h x List.mem_cons_self
    exact ih (fun y hy => h y (List.mem_cons_of_mem _ hy))
      ⟨ha.1.trans (le_max_left _ _), max_le ha.2 hx.2⟩

theorem OrgansSound.isUnit_max [IsStrictOrderedRing K] {organs : List (OrganPhysiology K)}
    (h : OrgansSound organs) :
    IsUnit (organMax organs (·.temperatureStress)) := by
  refine isUnit_foldl_max (fun x hx => ?_) isUnit_zero
  obtain ⟨o, ho, rfl⟩ := List.mem_map.1 hx
  exact (h.sound o ho).temperature

/-- **A refreshed body of sound organs is sound.** -/
theorem BodyState.sound_refresh {b : BodyState K} (h : OrgansSound b.organs) :
    b.refreshCompatibilityProjections.Sound :=
  ⟨h, rfl, rfl, rfl, rfl⟩

/-- The body check passes exactly for the sound bodies. -/
theorem BodyState.validateContract_eq_ok_iff [IsStrictOrderedRing K] {b : BodyState K} :
    b.validateContract = .ok () ↔ b.Sound := by
  rw [validateContract, contract_seq_eq_ok_iff, contract_seq_eq_ok_iff, contract_seq_eq_ok_iff,
    validateUnitValues_eq_ok_iff, contract_forM_eq_ok_iff, reject_eq_ok_iff, reject_eq_ok_iff]
  simp only [OrganPhysiology.validateContract_eq_ok_iff, not_or, not_not, ne_eq]
  constructor
  · rintro ⟨-, hsound, hkinds, he, hh, hi, ht⟩
    exact ⟨⟨hkinds, hsound⟩, he, hh, hi, ht⟩
  · rintro ⟨ho, he, hh, hi, ht⟩
    refine ⟨?_, ho.sound, ho.kinds, he, hh, hi, ht⟩
    simp only [List.forall_mem_cons, List.not_mem_nil, false_implies, implies_true, and_true,
      he, hh, hi, ht]
    exact ⟨ho.isUnit_mean fun o h => (ho.sound o h).energy,
      ho.isUnit_mean fun o h => (ho.sound o h).integrity,
      ho.isUnit_mean fun o h => (ho.sound o h).damage, ho.isUnit_max⟩

/-- `BodyState::debit_energy_pro_rata`: the amount applied and the body after it. -/
def BodyState.debitEnergyProRata (b : BodyState K) (requestedDebit : K) :
    Contract (K × BodyState K) := do
  reject (requestedDebit < 0) .scalarOutOfRange
  b.validateContract
  let appliedDebit := min requestedDebit b.energy
  if appliedDebit = 0 then
    pure (0, b)
  else
    let totalEnergy := (b.organs.map (·.energy)).sum
    let totalDebit := appliedDebit * (organKindCount : K)
    let scale := max (1 - totalDebit / totalEnergy) 0
    let organs := b.organs.map fun o => { o with energy := clamp01 (o.energy * scale) }
    pure (appliedDebit, { b with organs }.refreshCompatibilityProjections)

/-- A change of the organs one by one that keeps kinds and soundness keeps the organs sound. -/
theorem OrgansSound.map {organs : List (OrganPhysiology K)} (h : OrgansSound organs)
    {f : OrganPhysiology K → OrganPhysiology K} (hkind : ∀ o, (f o).kind = o.kind)
    (hf : ∀ o ∈ organs, o.Sound → (f o).Sound) : OrgansSound (organs.map f) where
  kinds := by
    rw [List.map_map, ← h.kinds]
    exact List.map_congr_left fun o _ => hkind o
  sound := by
    intro o' ho'
    obtain ⟨o, ho, rfl⟩ := List.mem_map.1 ho'
    exact hf o ho (h.sound o ho)

/-- What a debit does to a body: it stays sound and no organ's integrity moves. -/
theorem BodyState.debit_spec [IsStrictOrderedRing K] {b b' : BodyState K}
    {requestedDebit applied : K} (h : b.debitEnergyProRata requestedDebit = .ok (applied, b')) :
    b'.Sound ∧ b'.organs.map (·.integrity) = b.organs.map (·.integrity) := by
  rw [debitEnergyProRata] at h
  obtain ⟨-, h⟩ := contract_check_eq_ok_iff.1 h
  obtain ⟨hvalid, h⟩ := contract_check_eq_ok_iff.1 h
  have hb := BodyState.validateContract_eq_ok_iff.1 hvalid
  dsimp only at h
  split_ifs at h with hzero
  · cases h
    exact ⟨hb, rfl⟩
  · cases h
    refine ⟨sound_refresh (hb.organs.map (fun _ => rfl) fun o _ ho => ?_), ?_⟩
    · exact { ho with energy := isUnit_clamp01 _ }
    · exact List.map_map ..

/-- `BodyEventDelta`. -/
structure BodyEventDelta (K : Type) where
  energy : K
  damage : K
  temperatureStress : K
  nutrition : K
  socialContact : K
  playerReward : K
  playStimulation : K
  perceivedNovelty : K
  investigation : K
  sleepRecovery : K
  matingOpportunity : K
  deriving DecidableEq, Repr

/-- `BodyEventDelta::zero`. -/
def BodyEventDelta.zero : BodyEventDelta K where
  energy := 0
  damage := 0
  temperatureStress := 0
  nutrition := 0
  socialContact := 0
  playerReward := 0
  playStimulation := 0
  perceivedNovelty := 0
  investigation := 0
  sleepRecovery := 0
  matingOpportunity := 0

/-- `BodyEventDelta::validate_contract`. -/
def BodyEventDelta.validateContract (e : BodyEventDelta K) : Contract Unit := do
  validateSignedUnitValues [e.energy]
  validateUnitValues [e.damage, e.temperatureStress, e.nutrition, e.socialContact, e.playerReward,
    e.playStimulation, e.perceivedNovelty, e.investigation, e.sleepRecovery, e.matingOpportunity]

/-- What the physiology reads in a valid event. -/
structure BodyEventDelta.Sound (e : BodyEventDelta K) : Prop where
  damage : IsUnit e.damage
  sleepRecovery : IsUnit e.sleepRecovery
  matingOpportunity : IsUnit e.matingOpportunity

theorem BodyEventDelta.sound_of_valid {e : BodyEventDelta K} (h : e.validateContract = .ok ()) :
    e.Sound := by
  rw [validateContract, contract_seq_eq_ok_iff, validateUnitValues_eq_ok_iff] at h
  obtain ⟨-, h⟩ := h
  exact ⟨h _ (by simp), h _ (by simp), h _ (by simp)⟩

end Biology
end ALife
