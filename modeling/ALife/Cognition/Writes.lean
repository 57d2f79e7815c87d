/-
# Writing cognitive evidence

The cognitive types of `crates/alife_core` hold `f32` fields, and their digests are `[u64; 4]`
from a `CanonicalDigestBuilder`.  Both types are parameters here: `FloatValue` is what the
contracts ask of a float, `F32Value` the binary32 values with their two zeros as one, and the
digest of a builder is a function of its domain and of the writes it took.
-/

import ALife.Core.Units
import ALife.Machine.SelfDelimiting

namespace ALife

open Machine

/-- What the contracts ask of a float. -/
class FloatValue (R : Type) where
  isFinite : R → Bool
  inUnit : R → Bool
  inSignedUnit : R → Bool
  isNegative : R → Bool

/-- A binary32 value; its two zeros are one value, as `==` has it. -/
structure F32Value where
  float : F32
  float_ne_negZero : float ≠ F32.negZero
  deriving DecidableEq

instance : FloatValue F32Value where
  isFinite x := x.float.isFinite
  inUnit x := F32.inRange .zero .one x.float
  inSignedUnit x := F32.inRange .negOne .one x.float
  isNegative x := F32.lt x.float .zero

/-- The zero of both signs. -/
def F32Value.zero : F32Value := ⟨.zero, by decide⟩

/-- The one of `f32`. -/
def F32Value.one : F32Value := ⟨.one, by decide⟩

section Scalars

variable {R : Type} [FloatValue R]

/-- The `new` of `bounded_scalar!`, called for its check. -/
def boundedValue (contains : R → Bool) (x : R) : Contract Unit := do
  reject (FloatValue.isFinite x = false) .nonFiniteFloat
  reject (contains x = false) .scalarOutOfRange

/-- `NormalizedScalar::new`. -/
def NormalizedScalar.new (x : R) : Contract Unit := boundedValue FloatValue.inUnit x

/-- `Confidence::new`. -/
def Confidence.new (x : R) : Contract Unit := boundedValue FloatValue.inUnit x

/-- `Intensity::new`. -/
def Intensity.new (x : R) : Contract Unit := boundedValue FloatValue.inUnit x

/-- `SignedValence::new`. -/
def SignedValence.new (x : R) : Contract Unit := boundedValue FloatValue.inSignedUnit x

end Scalars

/-- A write on a digest builder; `words` stands for the four `write_u64` of a digest. -/
inductive Write (R D : Type) where
  | bool (value : Bool)
  | u8 (value : UInt8)
  | u16 (value : UInt16)
  | u32 (value : UInt32)
  | u64 (value : UInt64)
  | f32 (value : R)
  | sequenceLen (len : ℕ)
  | none
  | some
  | words (digest : D)
  deriving DecidableEq

namespace Write

variable {R D : Type}

theorem sequenceLen_injective : Function.Injective (sequenceLen : ℕ → Write R D) :=
  fun _ _ h => Write.sequenceLen.inj h

theorem f32_injective : Function.Injective (f32 : R → Write R D) := fun _ _ h => Write.f32.inj h

section Parts

variable {α κ : Type} {w : α → List (Write R D)} {key : α → κ}

/-- A sequence behind `write_sequence_len`. -/
def sequence (w : α → List (Write R D)) (l : List α) : List (Write R D) :=
  sequenceLen l.length :: l.flatMap w

/-- An optional value behind `write_some` or `write_none`. -/
def optional (w : α → List (Write R D)) (o : Option α) : List (Write R D) :=
  o.elim [Write.none] fun a => Write.some :: w a

theorem tells_sequence (h : Tells w key) : Tells (sequence w) (List.map key) :=
  h.list sequenceLen_injective

theorem tells_optional (h : Tells w key) : Tells (optional w) (Option.map key) :=
  h.option fun h => by cases h

end Parts

variable [FloatValue R]

/-- `write_f32` refuses what is not finite. -/
def accepted : Write R D → Bool
  | f32 value => FloatValue.isFinite value
  | _ => true

end Write

/-! ### Counting writes -/

instance : Countable F32Value :=
  (show Function.Injective fun x : F32Value => x.float.bits.toNat from fun a b h => by
    obtain ⟨⟨_⟩, _⟩ := a
    obtain ⟨⟨_⟩, _⟩ := b
    simpa [UInt32.toNat_inj] using h).countable

namespace Write

variable {R D : Type}

/-- The kind of a write, its number, and its float or its digest. -/
def parts : Write R D → ℕ × ℕ × Option R × Option D
  | bool value => (0, value.toNat, Option.none, Option.none)
  | u8 value => (1, value.toNat, Option.none, Option.none)
  | u16 value => (2, value.toNat, Option.none, Option.none)
  | u32 value => (3, value.toNat, Option.none, Option.none)
  | u64 value => (4, value.toNat, Option.none, Option.none)
  | f32 value => (5, 0, Option.some value, Option.none)
  | sequenceLen len => (6, len, Option.none, Option.none)
  | none => (7, 0, Option.none, Option.none)
  | some => (8, 0, Option.none, Option.none)
  | words digest => (9, 0, Option.none, Option.some digest)

theorem parts_injective : Function.Injective (parts : Write R D → _) := by
  intro a b h
  cases a <;> cases b <;> simp_all [parts, ← UInt8.toNat_inj, ← UInt16.toNat_inj,
    ← UInt32.toNat_inj, ← UInt64.toNat_inj]
  case bool.bool a b => cases a <;> cases b <;> simp_all

instance [Countable R] [Countable D] : Countable (Write R D) := parts_injective.countable

end Write

section Digests

variable {R D : Type} [FloatValue R]

/-- The writes on a new builder and its `finish256`. -/
def finish256 (finish : String → List (Write R D) → D) (domain : String)
    (writes : List (Write R D)) : Contract D := do
  reject (writes.all Write.accepted = false) .nonFiniteFloat
  .ok (finish domain writes)

variable {finish : String → List (Write R D) → D} {domain : String}
  {writes writes' : List (Write R D)}

theorem finish256_eq_ok_iff {digest : D} : finish256 finish domain writes = .ok digest ↔
    writes.all Write.accepted = true ∧ finish domain writes = digest := by
  unfold finish256
  rw [contract_check_eq_ok_iff, reject_eq_ok_iff, Bool.not_eq_false, Except.ok.injEq]

/-- Two builders of one domain with one digest took the same writes. -/
theorem writes_of_finish256 {digest : D}
    (hfinish : Function.Injective2 finish) (h : finish256 finish domain writes = .ok digest)
    (h' : finish256 finish domain writes' = .ok digest) : writes = writes' :=
  (hfinish ((finish256_eq_ok_iff.1 h).2.trans (finish256_eq_ok_iff.1 h').2.symm)).2

end Digests

end ALife
