/-
# Attention frames

`crates/alife_core/src/attention.rs`: what a creature attends to, with its contract and its
canonical digest.
-/

import ALife.Cognition.Writes

namespace ALife

open Machine

/-- `NeuralStructuralIdentity`; zero is reserved as invalid. -/
structure NeuralStructuralIdentity where
  raw : UInt64
  deriving DecidableEq, Repr

def NeuralStructuralIdentity.validate (id : NeuralStructuralIdentity) : Contract Unit :=
  reject (id.raw = 0) .invalidId

/-- `ATTENTION_SCHEMA_VERSION`. -/
def attentionSchemaVersion : UInt16 := 1

/-- `MAX_PERIPHERAL_SUMMARIES`. -/
def maxPeripheralSummaries : ℕ := 64

/-- `MAX_FOCAL_TARGETS`. -/
def maxFocalTargets : ℕ := 8

/-- `MAX_ATTENTION_SALIENCE_COMPONENTS`. -/
def maxAttentionSalienceComponents : ℕ := 64

/-- What attention can rest on. -/
inductive StableFocusIdentity where
  | trackedObject (id : TrackedObjectId)
  | organism (id : OrganismId)
  | concept (id : ConceptCellId)
  | neuralStructural (id : NeuralStructuralIdentity)
  deriving DecidableEq, Repr

namespace StableFocusIdentity

/-- `validate_contract`, and `validate_focus_identity`. -/
def validateContract : StableFocusIdentity → Contract Unit
  | trackedObject id => id.validate
  | organism id => id.validate
  | concept id => id.validate
  | neuralStructural id => id.validate

/-- `canonical_key`, and `kind_tag` beside `raw`. -/
def canonicalKey : StableFocusIdentity → UInt8 × UInt64
  | trackedObject id => (0, id.raw)
  | organism id => (1, id.raw)
  | concept id => (2, id.raw)
  | neuralStructural id => (3, id.raw)

theorem canonicalKey_injective : Function.Injective canonicalKey := by
  rintro (⟨⟨a⟩⟩ | ⟨⟨a⟩⟩ | ⟨⟨a⟩⟩ | ⟨⟨a⟩⟩) (⟨⟨b⟩⟩ | ⟨⟨b⟩⟩ | ⟨⟨b⟩⟩ | ⟨⟨b⟩⟩) h <;>
    simp [canonicalKey] at h <;> rw [h]

/-- `write_identity`. -/
def writes {R D : Type} (identity : StableFocusIdentity) : List (Write R D) :=
  [.u8 identity.canonicalKey.1, .u64 identity.canonicalKey.2]

theorem tells_writes {R D : Type} : Tells (writes (R := R) (D := D)) id := by
  refine tells_of_length (fun a b => rfl) fun a b h => ?_
  simp only [writes, List.cons.injEq, Write.u8.injEq, Write.u64.injEq, and_true] at h
  exact canonicalKey_injective (Prod.ext h.1 h.2)

end StableFocusIdentity

/-- `SalienceComponents`. -/
structure SalienceComponents (R : Type) where
  peripheralIntensity : R
  drive : R
  memoryExpectancy : R
  concept : R
  novelty : R
  uncertainty : R
  gapVoltage : R
  deriving DecidableEq, Repr

namespace SalienceComponents

variable {R D : Type}

/-- The components in their written order. -/
def values (s : SalienceComponents R) : List R :=
  [s.peripheralIntensity, s.drive, s.memoryExpectancy, s.concept, s.novelty, s.uncertainty,
    s.gapVoltage]

/-- `validate_contract`. -/
def validateContract [FloatValue R] (s : SalienceComponents R) : Contract Unit :=
  s.values.forM NormalizedScalar.new

/-- `write_salience`, in both files. -/
def writes (s : SalienceComponents R) : List (Write R D) := s.values.map .f32

theorem tells_writes : Tells (writes (R := R) (D := D)) id := by
  refine tells_of_length (fun a b => rfl) fun a b h => ?_
  cases a
  cases b
  simpa [writes, values] using h

end SalienceComponents

/-- `PeripheralSummary`. -/
structure PeripheralSummary (R : Type) where
  identity : StableFocusIdentity
  salience : SalienceComponents R
  confidence : R
  deriving DecidableEq, Repr

namespace PeripheralSummary

variable {R D : Type}

/-- `validate_contract`. -/
def validateContract [FloatValue R] (s : PeripheralSummary R) : Contract Unit := do
  s.identity.validateContract
  s.salience.validateContract
  Confidence.new s.confidence

/-- The writes of a summary in an attention frame. -/
def writes (s : PeripheralSummary R) : List (Write R D) :=
  s.identity.writes ++ s.salience.writes ++ [.f32 s.confidence]

theorem tells_writes : Tells (writes (R := R) (D := D)) id := by
  intro a b r r' h
  simp only [writes, List.append_assoc] at h
  obtain ⟨hidentity, h⟩ := StableFocusIdentity.tells_writes.split h
  obtain ⟨hsalience, h⟩ := SalienceComponents.tells_writes.split h
  obtain ⟨hconfidence, h⟩ := List.cons.inj h
  refine ⟨?_, h⟩
  cases a
  cases b
  simp_all

end PeripheralSummary

/-- `HysteresisState`. -/
structure HysteresisState (R : Type) where
  previousIdentity : Option StableFocusIdentity
  retainedTicks : UInt16
  switchMargin : R
  deriving DecidableEq, Repr

namespace HysteresisState

variable {R D : Type}

/-- `validate_contract`. -/
def validateContract [FloatValue R] (s : HysteresisState R) : Contract Unit := do
  match s.previousIdentity with
  | some identity => identity.validateContract
  | none => .ok ()
  NormalizedScalar.new s.switchMargin

/-- `write_hysteresis`. -/
def writes (s : HysteresisState R) : List (Write R D) :=
  Write.optional StableFocusIdentity.writes s.previousIdentity
    ++ [.u16 s.retainedTicks, .f32 s.switchMargin]

theorem tells_writes : Tells (writes (R := R) (D := D)) id := by
  intro a b r r' h
  simp only [writes, List.append_assoc] at h
  obtain ⟨hprevious, h⟩ := (Write.tells_optional StableFocusIdentity.tells_writes).split h
  obtain ⟨hticks, h⟩ := List.cons.inj h
  obtain ⟨hmargin, h⟩ := List.cons.inj h
  refine ⟨?_, h⟩
  cases a
  cases b
  simp_all

end HysteresisState

/-- `AttentionBudgetReceipt`. -/
structure AttentionBudgetReceipt where
  schemaVersion : UInt16
  peripheralCapacity : UInt16
  focalCapacity : UInt8
  protectedMinimum : UInt8
  requestedFocalCount : UInt8
  grantedFocalCount : UInt8
  workUnits : UInt64
  deriving DecidableEq, Repr

namespace AttentionBudgetReceipt

variable {R D : Type}

/-- `validate_contract`. -/
def validateContract (s : AttentionBudgetReceipt) : Contract Unit :=
  reject (s.schemaVersion ≠ attentionSchemaVersion
    ∨ maxPeripheralSummaries < s.peripheralCapacity.toNat
    ∨ maxFocalTargets < s.focalCapacity.toNat
    ∨ s.focalCapacity < s.protectedMinimum
    ∨ s.focalCapacity < s.requestedFocalCount
    ∨ s.requestedFocalCount < s.grantedFocalCount
    ∨ s.grantedFocalCount < s.protectedMinimum) .invalidDecisionEvidence

/-- The writes of a receipt in an attention frame. -/
def writes (s : AttentionBudgetReceipt) : List (Write R D) :=
  [.u16 s.schemaVersion, .u16 s.peripheralCapacity, .u8 s.focalCapacity, .u8 s.protectedMinimum,
    .u8 s.requestedFocalCount, .u8 s.grantedFocalCount, .u64 s.workUnits]

theorem tells_writes : Tells (writes (R := R) (D := D)) id := by
  refine tells_of_length (fun a b => rfl) fun a b h => ?_
  cases a
  cases b
  simpa [writes] using h

end AttentionBudgetReceipt

/-- `AttentionFrame`. -/
structure AttentionFrame (R : Type) where
  schemaVersion : UInt16
  organismId : OrganismId
  sequenceId : ExperienceSequenceId
  worldTick : Tick
  peripheralSummaries : List (PeripheralSummary R)
  focalTargets : List StableFocusIdentity
  salienceComponents : List (SalienceComponents R)
  hysteresis : HysteresisState R
  budgetReceipt : AttentionBudgetReceipt
  deriving DecidableEq, Repr

namespace AttentionFrame

variable {R D : Type}

/-- What the digest of a frame writes. -/
def writes (s : AttentionFrame R) : List (Write R D) :=
  List.flatten [
    [.u16 s.schemaVersion, .u64 s.organismId.raw, .u64 s.sequenceId.raw, .u64 s.worldTick.raw],
    Write.sequence PeripheralSummary.writes s.peripheralSummaries,
    Write.sequence StableFocusIdentity.writes s.focalTargets,
    Write.sequence SalienceComponents.writes s.salienceComponents,
    s.hysteresis.writes,
    s.budgetReceipt.writes]

theorem tells_writes : Tells (writes (R := R) (D := D)) id := by
  intro a b r r' h
  simp only [writes, List.flatten_cons, List.flatten_nil, List.append_nil, List.cons_append,
    List.nil_append, List.append_assoc, List.cons.injEq, Write.u16.injEq, Write.u64.injEq] at h
  obtain ⟨hschema, horganism, hsequence, htick, h⟩ := h
  obtain ⟨hperipheral, h⟩ := (Write.tells_sequence PeripheralSummary.tells_writes).split h
  obtain ⟨hfocal, h⟩ := (Write.tells_sequence StableFocusIdentity.tells_writes).split h
  obtain ⟨hsalience, h⟩ := (Write.tells_sequence SalienceComponents.tells_writes).split h
  obtain ⟨hhysteresis, h⟩ := HysteresisState.tells_writes.split h
  obtain ⟨hbudget, h⟩ := AttentionBudgetReceipt.tells_writes.split h
  refine ⟨?_, h⟩
  rcases a with ⟨_, ⟨_⟩, ⟨_⟩, ⟨_⟩, _, _, _, _, _⟩
  rcases b with ⟨_, ⟨_⟩, ⟨_⟩, ⟨_⟩, _, _, _, _, _⟩
  simp_all

variable [FloatValue R]

/-- `validate_contract`; the focal targets are checked for repetitions pair by pair. -/
def validateContract (s : AttentionFrame R) : Contract Unit := do
  reject (s.schemaVersion ≠ attentionSchemaVersion)
    (.incompatibleAbi .experience attentionSchemaVersion s.schemaVersion)
  s.organismId.validate
  s.sequenceId.validate
  reject (maxPeripheralSummaries < s.peripheralSummaries.length
    ∨ maxFocalTargets < s.focalTargets.length
    ∨ maxAttentionSalienceComponents < s.salienceComponents.length
    ∨ s.budgetReceipt.grantedFocalCount.toNat < s.focalTargets.length) .invalidDecisionEvidence
  s.peripheralSummaries.forM PeripheralSummary.validateContract
  s.focalTargets.forM StableFocusIdentity.validateContract
  reject (¬s.focalTargets.Nodup) .invalidDecisionEvidence
  s.salienceComponents.forM SalienceComponents.validateContract
  s.hysteresis.validateContract
  s.budgetReceipt.validateContract
  reject (s.budgetReceipt.peripheralCapacity.toNat < s.peripheralSummaries.length
    ∨ s.budgetReceipt.grantedFocalCount.toNat ≠ s.focalTargets.length) .invalidDecisionEvidence

/-- `canonical_digest`. -/
def canonicalDigest (finish : String → List (Write R D) → D) (s : AttentionFrame R) :
    Contract D := do
  s.validateContract
  finish256 finish "ALIFE-V11-ATTENTION-FRAME" s.writes

/-- **The digest of an attention frame** binds every field of it. -/
theorem eq_of_canonicalDigest {finish : String → List (Write R D) → D}
    (hfinish : Function.Injective2 finish) {a b : AttentionFrame R} {digest : D}
    (ha : a.canonicalDigest finish = .ok digest) (hb : b.canonicalDigest finish = .ok digest) :
    a = b :=
  tells_writes.key_eq (writes_of_finish256 hfinish (contract_check_eq_ok_iff.1 ha).2
    (contract_check_eq_ok_iff.1 hb).2)

end AttentionFrame

end ALife
