/-
# Ticks, identifiers and bounded scalars

`crates/alife_core/src/units.rs`, `ids.rs` and the slice checks of `math.rs`
and `chemistry.rs`.
-/

import ALife.Core.Error
import ALife.Machine.Binary32

namespace ALife

open Machine

/-- A simulation tick. -/
@[ext] structure Tick where
  raw : UInt64
  deriving DecidableEq, Repr

/-- `Tick::ZERO`. -/
def Tick.zero : Tick := ⟨0⟩

/-- `Tick::validate_monotonic`. -/
def Tick.validateMonotonic (previous current : Tick) : Contract Tick :=
  if previous.raw ≤ current.raw then .ok current else .error .nonMonotonicTick

@[simp] theorem Tick.validateMonotonic_eq_ok_iff {p c t : Tick} :
    Tick.validateMonotonic p c = .ok t ↔ p.raw ≤ c.raw ∧ c = t := by
  unfold Tick.validateMonotonic
  split_ifs with h <;> simp [h]

/-- A duration in ticks. -/
structure DurationTicks where
  raw : UInt32
  deriving DecidableEq, Repr

/-- An organism; zero is reserved as invalid. -/
@[ext] structure OrganismId where
  raw : UInt64
  deriving DecidableEq, Repr

/-- `OrganismId::validate`. -/
def OrganismId.validate (id : OrganismId) : Contract Unit := reject (id.raw = 0) .invalidId

/-- `TrackedObjectId`; zero is reserved as invalid. -/
structure TrackedObjectId where
  raw : UInt64
  deriving DecidableEq, Repr

/-- `TrackedObjectId::validate`. -/
def TrackedObjectId.validate (id : TrackedObjectId) : Contract Unit :=
  reject (id.raw = 0) .invalidId

/-- `ExperienceSequenceId`; zero is reserved as invalid. -/
@[ext] structure ExperienceSequenceId where
  raw : UInt64
  deriving DecidableEq, Repr

def ExperienceSequenceId.validate (id : ExperienceSequenceId) : Contract Unit :=
  reject (id.raw = 0) .invalidId

/-- `ConceptCellId`; zero is reserved as invalid. -/
structure ConceptCellId where
  raw : UInt64
  deriving DecidableEq, Repr

def ConceptCellId.validate (id : ConceptCellId) : Contract Unit := reject (id.raw = 0) .invalidId

/-- `MemoryId`; zero is reserved as invalid. -/
structure MemoryId where
  raw : UInt64
  deriving DecidableEq, Repr

def MemoryId.validate (id : MemoryId) : Contract Unit := reject (id.raw = 0) .invalidId

/-- `WorldEntityId`; zero is reserved as invalid. -/
structure WorldEntityId where
  raw : UInt64
  deriving DecidableEq, Repr

def WorldEntityId.validate (id : WorldEntityId) : Contract Unit := reject (id.raw = 0) .invalidId

/-- `ActionId`; zero is reserved as invalid. -/
structure ActionId where
  raw : UInt32
  deriving DecidableEq, Repr

def ActionId.validate (id : ActionId) : Contract Unit := reject (id.raw = 0) .invalidId

/-- A capacity class, by its raw number. -/
@[ext]
structure BrainClassId where
  raw : UInt16
  deriving DecidableEq, Repr

namespace BrainClassId

/-- `BrainCapacityClass::N512_ID`. -/
def n512 : BrainClassId := ⟨1⟩

/-- `BrainCapacityClass::N2048_ID`. -/
def n2048 : BrainClassId := ⟨3⟩

end BrainClassId

/-- `validate_finite`. -/
def validateFinite (x : F32) : Contract Unit := reject (x.isFinite = false) .nonFiniteFloat

/-- The check that the `new` of a bounded scalar makes: finite, then in range. -/
def boundedScalar (lo hi x : F32) : Contract Unit := do
  validateFinite x
  reject (F32.inRange lo hi x = false) .scalarOutOfRange

/-- `NormalizedScalar::new(x)?`, called for its check. -/
def normalizedScalar (x : F32) : Contract Unit := boundedScalar .zero .one x

/-- `validate_unit_values`: all finite, then all in `0.0..=1.0`. -/
def validateUnitValues (values : List F32) : Contract Unit := do
  reject (values.all F32.isFinite = false) .nonFiniteFloat
  reject (values.all (F32.inRange .zero .one) = false) .outOfRangeDriveHormone

end ALife
