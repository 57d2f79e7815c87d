/-
# Assets of a founder in training

`FoundationManifest::validate_against`, `FoundationWeightAsset::validate_against`
and `from_trained_weights` (`crates/alife_core/src/foundation.rs`), for weights of
any float arithmetic.  A phenotype has its foundation from a canonical binding, or
from one of the four older selections, whose own descriptors check an asset; of
these only the legacy Nano512 selection can be given trained weights, and it is of
the class N512.
-/

import ALife.Foundation.Asset
import ALife.Machine.FloatOps

namespace ALife

open Machine

namespace Training

variable {F : Type}

/-- `FoundationWeightAsset` with weights of the arithmetic. -/
structure FounderAsset (F : Type) where
  manifest : FoundationManifest
  weights : List F
  digest : Blake3Digest
  deriving DecidableEq, Repr

structure FoundationAbiBinding where
  layoutDigest : Blake3Digest
  foundationId : Option FoundationId
  foundationVersion : Option FoundationVersion
  compatibilityFamilyId : Option FoundationCompatibilityFamilyId
  weightAsset : Option FoundationWeightAssetRef
  deriving DecidableEq, Repr

/-- `foundation_payload_digest`. -/
def FoundationAbiBinding.foundationPayloadDigest (b : FoundationAbiBinding) : Option Blake3Digest :=
  b.weightAsset.map (·.digest)

/-- `FoundationAbiSelection`; the older selections are what their descriptors check of an asset. -/
inductive FoundationAbiSelection (F : Type) where
  | canonicalV2 (binding : FoundationAbiBinding)
  | legacyNano512 (validateAsset : FounderAsset F → Contract Unit)
      (fromReadoutCandidate : List F → TrainingStageManifest → Contract (FounderAsset F))
  | migratedOrCandidate (validateAsset : FounderAsset F → Contract Unit)

/-- `canonical_v2`. -/
def FoundationAbiSelection.canonical : FoundationAbiSelection F → Option FoundationAbiBinding
  | .canonicalV2 binding => some binding
  | _ => none

/-- What an asset has in common with the phenotype it is for. -/
structure FoundationPhenotype (F : Type) where
  brainClassId : BrainClassId
  sensorProfile : SensorProfile
  foundationAbi : FoundationAbiSelection F
  languageCodebookDigest : Blake3Digest
  actionDecoderDigest : Digest256
  speechDecoderDigest : Option Digest256
  memoryDecoderDigest : Option Digest256
  routeAbiDigest : Blake3Digest
  plasticityAbiDigest : Blake3Digest
  addressMapDigest : Blake3Digest

section Hashing

variable (blake3 : List UInt8 → Blake3Digest)

/-- `TrainingStageManifest::new`. -/
def newTrainingStage (curriculumVersion evaluationVersion : UInt32) (completedStageCount : UInt16) :
    TrainingStageManifest :=
  let value : TrainingStageManifest :=
    ⟨1, curriculumVersion, evaluationVersion, completedStageCount, .default⟩
  { value with manifestDigest := value.recomputeDigest blake3 }

/-- `FoundationPromotionReceipt::bootstrap`. -/
def bootstrapReceipt (training : TrainingStageManifest) : FoundationPromotionReceipt :=
  .new blake3 training.manifestDigest none
    (blake3 (domainHasher (asciiBytes "alife.foundation.bootstrap-provenance.v1")
      ++ training.manifestDigest.toList))

/-- `FoundationManifest::validate_against`. -/
def validateManifest (m : FoundationManifest) (p : FoundationPhenotype F)
    (binding : FoundationAbiBinding) (synapses : ℕ) : Contract Unit := do
  m.trainingStage.validate blake3
  m.promotionReceipt.validate blake3 m.trainingStage
  let (foundationId, compatibilityFamilyId) ← foundationIdentityForClass m.capacityClassId
  reject (m.schemaVersion ≠ 1 ∨ m.foundationId ≠ foundationId ∨ m.foundationVersion ≠ .v1
    ∨ m.compatibilityFamilyId ≠ compatibilityFamilyId ∨ m.capacityClassId ≠ p.brainClassId
    ∨ m.sensorProfile ≠ p.sensorProfile ∨ m.layoutDigest ≠ binding.layoutDigest
    ∨ binding.foundationId ≠ some m.foundationId
    ∨ binding.foundationVersion ≠ some m.foundationVersion
    ∨ binding.compatibilityFamilyId ≠ some m.compatibilityFamilyId
    ∨ binding.weightAsset ≠ some m.weightAsset
    ∨ m.languageCodebookDigest ≠ p.languageCodebookDigest
    ∨ m.actionDecoderDigest ≠ p.actionDecoderDigest
    ∨ m.speechDecoderDigest ≠ p.speechDecoderDigest
    ∨ m.memoryDecoderDigest ≠ p.memoryDecoderDigest ∨ m.routeAbiDigest ≠ p.routeAbiDigest
    ∨ m.plasticityAbiDigest ≠ p.plasticityAbiDigest ∨ m.addressMapDigest ≠ p.addressMapDigest
    ∨ m.weightAsset.weightCount.toNat ≠ synapses) .phenotypeCompile

/-- `FoundationManifest::from_phenotype`; both identities are written over by its callers. -/
def manifestFromPhenotype (p : FoundationPhenotype F) (weightAsset : FoundationWeightAssetRef) :
    Contract FoundationManifest := do
  match p.foundationAbi.canonical with
  | none => .error .phenotypeCompile
  | some binding => do
    let trainingStage := newTrainingStage blake3 0 0 0
    let (foundationId, compatibilityFamilyId) ← foundationIdentityForClass p.brainClassId
    .ok
      { schemaVersion := 1
        foundationId
        foundationVersion := .v1
        compatibilityFamilyId
        capacityClassId := p.brainClassId
        sensorProfile := p.sensorProfile
        layoutDigest := binding.layoutDigest
        languageCodebookDigest := p.languageCodebookDigest
        actionDecoderDigest := p.actionDecoderDigest
        speechDecoderDigest := p.speechDecoderDigest
        memoryDecoderDigest := p.memoryDecoderDigest
        routeAbiDigest := p.routeAbiDigest
        plasticityAbiDigest := p.plasticityAbiDigest
        addressMapDigest := p.addressMapDigest
        trainingStage
        promotionReceipt := bootstrapReceipt blake3 trainingStage
        weightAsset }

variable [FloatOps F]

/-- `compute_weight_asset_digest`. -/
def weightAssetDigest (m : FoundationManifest) (weights : List F) : Contract Blake3Digest := do
  reject (weights.isEmpty ∨ ∃ weight ∈ weights, ¬FloatOps.isFinite weight = true) .phenotypeCompile
  .ok (blake3 (payloadBytes m (weights.map fun weight => ⟨FloatOps.toBits weight⟩)))

namespace FounderAsset

/-- `FoundationWeightAsset::validate_against`. -/
def validateAgainst (a : FounderAsset F) (p : FoundationPhenotype F) (synapses : ℕ) :
    Contract Unit :=
  match p.foundationAbi with
  | .canonicalV2 binding => do
    validateManifest blake3 a.manifest p binding synapses
    reject (a.weights.length ≠ synapses ∨ ∃ weight ∈ a.weights, ¬FloatOps.isFinite weight = true)
      .phenotypeCompile
    let digest ← weightAssetDigest blake3 a.manifest a.weights
    reject (digest ≠ a.digest ∨ digest ≠ a.manifest.weightAsset.digest) .phenotypeCompile
  | .legacyNano512 validateAsset _ => validateAsset a
  | .migratedOrCandidate validateAsset => validateAsset a

/-- `from_weights_with_provenance`. -/
def fromWeightsWithProvenance (p : FoundationPhenotype F) (synapses : ℕ) (weights : List F)
    (trainingStage : TrainingStageManifest) (receipt : FoundationPromotionReceipt) :
    Contract (FounderAsset F) := do
  reject ((foundationIdentityForClass p.brainClassId).isOk = false ∨ weights.length ≠ synapses
    ∨ ∃ weight ∈ weights, ¬FloatOps.isFinite weight = true) .phenotypeCompile
  trainingStage.validate blake3
  receipt.validate blake3 trainingStage
  reject (2 ^ 32 ≤ weights.length) .phenotypeCompile
  let manifest ← manifestFromPhenotype blake3 p ⟨.default, weights.length.toUInt32⟩
  let manifest := { manifest with trainingStage, promotionReceipt := receipt }
  let digest ← weightAssetDigest blake3 manifest weights
  .ok ⟨{ manifest with weightAsset := ⟨digest, weights.length.toUInt32⟩ }, weights, digest⟩

/-- `from_trained_weights`. -/
def fromTrainedWeights (p : FoundationPhenotype F) (synapses : ℕ) (weights : List F)
    (trainingStage : TrainingStageManifest) : Contract (FounderAsset F) :=
  match p.foundationAbi with
  | .legacyNano512 _ fromReadoutCandidate => do
    -- the phenotype is compared with the built-in one, which is of this class
    reject (p.brainClassId ≠ .n512) .phenotypeCompile
    fromReadoutCandidate weights trainingStage
  | _ => fromWeightsWithProvenance blake3 p synapses weights trainingStage
      (bootstrapReceipt blake3 trainingStage)

variable {blake3} {p : FoundationPhenotype F} {synapses : ℕ} {stage : TrainingStageManifest}
  {weights : List F}

/-- **What trained weights need** on a phenotype that is not the legacy one. -/
theorem fromTrainedWeights_eq_ok {a : FounderAsset F} (hclass : p.brainClassId ≠ .n512)
    (h : fromTrainedWeights blake3 p synapses weights stage = .ok a) :
    a.weights = weights ∧ weights.length = synapses
      ∧ (∀ weight ∈ weights, FloatOps.isFinite weight = true) ∧ a.manifest.trainingStage = stage := by
  have hplain : fromWeightsWithProvenance blake3 p synapses weights stage
      (bootstrapReceipt blake3 stage) = .ok a := by
    unfold fromTrainedWeights at h
    split at h
    · obtain ⟨hlegacy, -⟩ := contract_check_eq_ok_iff.1 h
      exact absurd hclass (reject_eq_ok_iff.1 hlegacy)
    · exact h
  unfold fromWeightsWithProvenance at hplain
  obtain ⟨hshape, hplain⟩ := contract_check_eq_ok_iff.1 hplain
  obtain ⟨-, hplain⟩ := contract_check_eq_ok_iff.1 hplain
  obtain ⟨-, hplain⟩ := contract_check_eq_ok_iff.1 hplain
  obtain ⟨-, hplain⟩ := contract_check_eq_ok_iff.1 hplain
  obtain ⟨manifest, -, hplain⟩ := contract_bind_eq_ok_iff.1 hplain
  obtain ⟨digest, -, hplain⟩ := contract_bind_eq_ok_iff.1 hplain
  rw [reject_eq_ok_iff, not_or, not_or, not_not] at hshape
  obtain ⟨-, hlength, hfinite⟩ := hshape
  push Not at hfinite
  obtain rfl := Except.ok.inj hplain
  exact ⟨rfl, hlength, hfinite, rfl⟩

/-- Other finite weights of the same number are accepted as well. -/
theorem fromTrainedWeights_of_ok {a : FounderAsset F} (hclass : p.brainClassId ≠ .n512)
    (h : fromTrainedWeights blake3 p synapses weights stage = .ok a) {weights' : List F}
    (hlength : weights'.length = weights.length)
    (hfinite : ∀ weight ∈ weights', FloatOps.isFinite weight = true) :
    ∃ a', fromTrainedWeights blake3 p synapses weights' stage = .ok a' := by
  obtain ⟨-, hsame, -⟩ := fromTrainedWeights_eq_ok hclass h
  unfold fromTrainedWeights at h ⊢
  split at h
  · obtain ⟨hlegacy, -⟩ := contract_check_eq_ok_iff.1 h
    exact absurd hclass (reject_eq_ok_iff.1 hlegacy)
  · unfold fromWeightsWithProvenance at h ⊢
    obtain ⟨hshape, h⟩ := contract_check_eq_ok_iff.1 h
    obtain ⟨hstage, h⟩ := contract_check_eq_ok_iff.1 h
    obtain ⟨hreceipt, h⟩ := contract_check_eq_ok_iff.1 h
    obtain ⟨hsmall, h⟩ := contract_check_eq_ok_iff.1 h
    obtain ⟨manifest, hmanifest, h⟩ := contract_bind_eq_ok_iff.1 h
    obtain ⟨digest, hdigest, -⟩ := contract_bind_eq_ok_iff.1 h
    unfold weightAssetDigest at hdigest
    obtain ⟨hnonempty, -⟩ := contract_check_eq_ok_iff.1 hdigest
    rw [reject_eq_ok_iff, not_or] at hshape hnonempty
    have hne : ¬weights'.isEmpty = true := by
      rw [List.isEmpty_iff_length_eq_zero, hlength, ← List.isEmpty_iff_length_eq_zero]
      exact hnonempty.1
    have hall : ¬∃ weight ∈ weights', ¬FloatOps.isFinite weight = true := by
      push Not
      exact hfinite
    have hshape' : reject ((foundationIdentityForClass p.brainClassId).isOk = false
        ∨ weights'.length ≠ synapses ∨ ∃ weight ∈ weights', ¬FloatOps.isFinite weight = true)
        .phenotypeCompile = .ok () := by
      rw [reject_eq_ok_iff, not_or, not_or, not_not]
      exact ⟨hshape.1, hlength.trans hsame, hall⟩
    have hsmall' : reject (2 ^ 32 ≤ weights'.length) .phenotypeCompile = .ok () := by
      rw [hlength]
      exact hsmall
    have hempty : reject (weights'.isEmpty ∨ ∃ weight ∈ weights', ¬FloatOps.isFinite weight = true)
        .phenotypeCompile = .ok () := by
      rw [reject_eq_ok_iff, not_or]
      exact ⟨hne, hall⟩
    refine ⟨_, contract_check_eq_ok_iff.2 ⟨hshape', contract_check_eq_ok_iff.2 ⟨hstage,
      contract_check_eq_ok_iff.2 ⟨hreceipt, contract_check_eq_ok_iff.2 ⟨hsmall',
        contract_bind_eq_ok_iff.2 ⟨manifest, ?_, contract_bind_eq_ok_iff.2 ⟨_,
          contract_check_eq_ok_iff.2 ⟨hempty, rfl⟩, rfl⟩⟩⟩⟩⟩⟩⟩
    rw [hlength]
    exact hmanifest

end FounderAsset

end Hashing

end Training

end ALife
