/-
# Foundation weight assets

`FoundationWeightAsset` and its validation (`crates/alife_core/src/foundation.rs`).
An asset is a manifest, a list of weights and a digest.  The digest is taken over
most of the manifest and every weight bit; the fields left out of it are forced
by `validate_self_contained`: the schema and the family by the class, the length
by the weights, the training stage and the receipt through digests of their own.

The hash comes from a package and is a parameter, `blake3`.  So is
`readoutSource`: the built-in Nano512 asset and the phenotype compiled from it,
as far as `from_nano512_readout_candidate` reads them.
-/

import ALife.Core.Blake3
import ALife.Core.Error
import ALife.Core.Perception
import ALife.Machine.Binary32

namespace ALife

open Machine

@[ext]
structure FoundationId where
  raw : UInt64
  deriving DecidableEq, Repr

namespace FoundationId

/-- `FoundationId::N512_V1`. -/
def n512V1 : FoundationId := ⟨0x004E3531325F5631⟩

/-- `FoundationId::N512_READOUT_CANDIDATE_V1`. -/
def n512ReadoutCandidateV1 : FoundationId := ⟨0x4E35313252430001⟩

/-- `FoundationId::N2048_V1`. -/
def n2048V1 : FoundationId := ⟨0x4E323034385F5631⟩

end FoundationId

@[ext]
structure FoundationVersion where
  raw : UInt32
  deriving DecidableEq, Repr

/-- `FoundationVersion::V1`. -/
def FoundationVersion.v1 : FoundationVersion := ⟨1⟩

@[ext]
structure FoundationCompatibilityFamilyId where
  raw : UInt64
  deriving DecidableEq, Repr

namespace FoundationCompatibilityFamilyId

/-- `FoundationCompatibilityFamilyId::N512_FOUNDATION`. -/
def n512Foundation : FoundationCompatibilityFamilyId := ⟨0x4E3531325F00FA11⟩

/-- `FoundationCompatibilityFamilyId::N2048_FOUNDATION`. -/
def n2048Foundation : FoundationCompatibilityFamilyId := ⟨0x4E323034385FFA11⟩

end FoundationCompatibilityFamilyId

@[ext]
structure FoundationWeightAssetRef where
  digest : Blake3Digest
  weightCount : UInt32
  deriving DecidableEq, Repr

@[ext]
structure TrainingStageManifest where
  schemaVersion : UInt16
  curriculumVersion : UInt32
  evaluationVersion : UInt32
  completedStageCount : UInt16
  manifestDigest : Blake3Digest
  deriving DecidableEq, Repr

@[ext]
structure FoundationPromotionReceipt where
  schemaVersion : UInt16
  trainingManifestDigest : Blake3Digest
  evaluationEvidenceDigest : Option Blake3Digest
  provenanceDigest : Blake3Digest
  receiptDigest : Blake3Digest
  deriving DecidableEq, Repr

@[ext]
structure FoundationManifest where
  schemaVersion : UInt16
  foundationId : FoundationId
  foundationVersion : FoundationVersion
  compatibilityFamilyId : FoundationCompatibilityFamilyId
  capacityClassId : BrainClassId
  sensorProfile : SensorProfile
  layoutDigest : Blake3Digest
  languageCodebookDigest : Blake3Digest
  actionDecoderDigest : Digest256
  speechDecoderDigest : Option Digest256
  memoryDecoderDigest : Option Digest256
  routeAbiDigest : Blake3Digest
  plasticityAbiDigest : Blake3Digest
  addressMapDigest : Blake3Digest
  trainingStage : TrainingStageManifest
  promotionReceipt : FoundationPromotionReceipt
  weightAsset : FoundationWeightAssetRef
  deriving DecidableEq, Repr

@[ext]
structure FoundationWeightAsset where
  manifest : FoundationManifest
  weights : List F32
  digest : Blake3Digest
  deriving DecidableEq, Repr

/-- `FOUNDATION_ASSET_MAX_WEIGHTS`. -/
def foundationAssetMaxWeights : ℕ := 65536

/-- `foundation_identity_for_class`. -/
def foundationIdentityForClass (classId : BrainClassId) :
    Contract (FoundationId × FoundationCompatibilityFamilyId) :=
  if classId = .n512 then .ok (.n512V1, .n512Foundation)
  else if classId = .n2048 then .ok (.n2048V1, .n2048Foundation)
  else .error .phenotypeCompile

section Hashing

variable (blake3 : List UInt8 → Blake3Digest)

namespace TrainingStageManifest

/-- What `recompute_digest` writes to its hasher. -/
def hashed (t : TrainingStageManifest) : List UInt8 :=
  List.flatten [domainHasher (asciiBytes "alife.foundation.training-stage.v1"),
    leBytes16 t.schemaVersion, leBytes32 t.curriculumVersion, leBytes32 t.evaluationVersion,
    leBytes16 t.completedStageCount]

/-- `TrainingStageManifest::recompute_digest`. -/
def recomputeDigest (t : TrainingStageManifest) : Blake3Digest := blake3 t.hashed

/-- `TrainingStageManifest::validate`. -/
def validate (t : TrainingStageManifest) : Contract Unit :=
  reject (t.schemaVersion ≠ 1 ∨ t.manifestDigest ≠ t.recomputeDigest blake3) .phenotypeCompile

end TrainingStageManifest

namespace FoundationPromotionReceipt

/-- What `recompute_digest` writes to its hasher. -/
def hashed (r : FoundationPromotionReceipt) : List UInt8 :=
  List.flatten [domainHasher (asciiBytes "alife.foundation.promotion-receipt.v1"),
    leBytes16 r.schemaVersion, r.trainingManifestDigest.toList,
    optionalBytes Blake3Digest.toList r.evaluationEvidenceDigest, r.provenanceDigest.toList]

/-- `FoundationPromotionReceipt::recompute_digest`. -/
def recomputeDigest (r : FoundationPromotionReceipt) : Blake3Digest := blake3 r.hashed

/-- `FoundationPromotionReceipt::new`. -/
def new (trainingManifestDigest : Blake3Digest) (evaluationEvidenceDigest : Option Blake3Digest)
    (provenanceDigest : Blake3Digest) : FoundationPromotionReceipt :=
  let value : FoundationPromotionReceipt :=
    ⟨1, trainingManifestDigest, evaluationEvidenceDigest, provenanceDigest, .default⟩
  { value with receiptDigest := value.recomputeDigest blake3 }

/-- `FoundationPromotionReceipt::validate`. -/
def validate (r : FoundationPromotionReceipt) (training : TrainingStageManifest) : Contract Unit :=
  reject (r.schemaVersion ≠ 1 ∨ r.trainingManifestDigest ≠ training.manifestDigest
    ∨ r.provenanceDigest = .default ∨ r.evaluationEvidenceDigest = some .default
    ∨ r.receiptDigest ≠ r.recomputeDigest blake3) .phenotypeCompile

end FoundationPromotionReceipt

/-- What `compute_weight_asset_digest` writes to its hasher. -/
def payloadBytes (m : FoundationManifest) (weights : List F32) : List UInt8 :=
  List.flatten [domainHasher (asciiBytes "alife.foundation.weight-payload.v1"),
    leBytes64 m.foundationId.raw, leBytes32 m.foundationVersion.raw,
    leBytes16 m.capacityClassId.raw, leBytes16 m.sensorProfile.raw, m.layoutDigest.toList,
    m.languageCodebookDigest.toList, m.routeAbiDigest.toList, m.plasticityAbiDigest.toList,
    m.addressMapDigest.toList, digest4Bytes m.actionDecoderDigest,
    optionalBytes digest4Bytes m.speechDecoderDigest,
    optionalBytes digest4Bytes m.memoryDecoderDigest, m.trainingStage.manifestDigest.toList,
    m.promotionReceipt.receiptDigest.toList, leBytes64 weights.length.toUInt64,
    weights.flatMap fun weight => leBytes32 weight.bits]

/-- `compute_weight_asset_digest`. -/
def computeWeightAssetDigest (m : FoundationManifest) (weights : List F32) :
    Contract Blake3Digest := do
  reject (weights = [] ∨ ∃ weight ∈ weights, ¬weight.isFinite = true) .phenotypeCompile
  .ok (blake3 (payloadBytes m weights))

/-- What the readout check reads of the built-in Nano512 asset and of the phenotype
compiled from it; a synapse is whether its weight may be trained, and the weight. -/
structure ReadoutSource where
  manifest : FoundationManifest
  digest : Blake3Digest
  phenotypeHash : Digest256
  layoutDigest : Blake3Digest
  routeAbiDigest : Blake3Digest
  plasticityAbiDigest : Blake3Digest
  addressMapDigest : Blake3Digest
  actionDecoderDigest : Digest256
  synapses : List (Bool × F32)

namespace FoundationWeightAsset

/-- `PartialEq` of two assets: the weights are compared as floats. -/
def peq (a b : FoundationWeightAsset) : Bool :=
  decide (a.manifest = b.manifest) && decide (a.weights.length = b.weights.length)
    && (a.weights.zip b.weights).all (fun p => F32.feq p.1 p.2) && decide (a.digest = b.digest)

/-- `is_nano512_readout_candidate`. -/
def isNano512ReadoutCandidate (a : FoundationWeightAsset) : Bool :=
  a.manifest.foundationId.raw == FoundationId.n512ReadoutCandidateV1.raw

/-- `from_nano512_readout_candidate` for the phenotype of the source itself. -/
def fromNano512ReadoutCandidate (source : ReadoutSource) (weights : List F32)
    (trainingStage : TrainingStageManifest) : Contract FoundationWeightAsset := do
  reject (weights.length ≠ source.synapses.length ∨ ∃ weight ∈ weights, ¬weight.isFinite = true)
    .phenotypeCompile
  reject (∃ p ∈ source.synapses.zip weights, ¬p.1.1 = true ∧ p.2.bits ≠ p.1.2.bits)
    .phenotypeCompile
  trainingStage.validate blake3
  let provenance := blake3 (domainHasher (asciiBytes "alife.nano512.fixed-readout-candidate.v1")
    ++ source.digest.toList ++ digest4Bytes source.phenotypeHash)
  let manifest : FoundationManifest := { source.manifest with
    foundationId := .n512ReadoutCandidateV1
    layoutDigest := source.layoutDigest
    routeAbiDigest := source.routeAbiDigest
    plasticityAbiDigest := source.plasticityAbiDigest
    addressMapDigest := source.addressMapDigest
    actionDecoderDigest := source.actionDecoderDigest
    trainingStage := trainingStage
    promotionReceipt := .new blake3 trainingStage.manifestDigest none provenance }
  let digest ← computeWeightAssetDigest blake3 manifest weights
  .ok ⟨{ manifest with weightAsset := ⟨digest, weights.length.toUInt32⟩ }, weights, digest⟩

variable (readoutSource : SensorProfile → Contract ReadoutSource)

/-- `validate_self_contained`. -/
def validateSelfContained (a : FoundationWeightAsset) : Contract Unit := do
  a.manifest.trainingStage.validate blake3
  a.manifest.promotionReceipt.validate blake3 a.manifest.trainingStage
  let (foundationId, compatibilityFamilyId) ← foundationIdentityForClass a.manifest.capacityClassId
  reject (a.manifest.schemaVersion ≠ 1
    ∨ (a.manifest.foundationId ≠ foundationId ∧ ¬a.isNano512ReadoutCandidate = true)
    ∨ a.manifest.foundationVersion ≠ .v1
    ∨ a.manifest.compatibilityFamilyId ≠ compatibilityFamilyId
    ∨ a.weights = [] ∨ foundationAssetMaxWeights < a.weights.length
    ∨ a.weights.length ≠ a.manifest.weightAsset.weightCount.toNat
    ∨ ∃ weight ∈ a.weights, ¬weight.isFinite = true) .phenotypeCompile
  let digest ← computeWeightAssetDigest blake3 a.manifest a.weights
  reject (digest ≠ a.digest ∨ digest ≠ a.manifest.weightAsset.digest) .phenotypeCompile
  if a.isNano512ReadoutCandidate then do
    let source ← readoutSource a.manifest.sensorProfile
    let expected ← fromNano512ReadoutCandidate blake3 source a.weights a.manifest.trainingStage
    reject (¬peq a expected = true) .phenotypeCompile
  else .ok ()

/-- What the validation forces of an asset, the readout check apart. -/
structure Forced (a : FoundationWeightAsset) : Prop where
  training : a.manifest.trainingStage.schemaVersion = 1
    ∧ a.manifest.trainingStage.manifestDigest = blake3 a.manifest.trainingStage.hashed
  receiptSchema : a.manifest.promotionReceipt.schemaVersion = 1
  receiptDigest : a.manifest.promotionReceipt.receiptDigest = blake3 a.manifest.promotionReceipt.hashed
  identity : ∃ id, foundationIdentityForClass a.manifest.capacityClassId
    = .ok (id, a.manifest.compatibilityFamilyId)
  schema : a.manifest.schemaVersion = 1
  weights_ne : a.weights ≠ []
  weights_le : a.weights.length ≤ foundationAssetMaxWeights
  weightCount : a.manifest.weightAsset.weightCount.toNat = a.weights.length
  digest : a.digest = blake3 (payloadBytes a.manifest a.weights)
  assetDigest : a.manifest.weightAsset.digest = a.digest

variable {blake3 readoutSource} in
/-- Validation forces them. -/
theorem forced_of_validateSelfContained {a : FoundationWeightAsset}
    (h : a.validateSelfContained blake3 readoutSource = .ok ()) : Forced blake3 a := by
  simp only [validateSelfContained, contract_check_eq_ok_iff] at h
  obtain ⟨htraining, hreceipt, h⟩ := h
  obtain ⟨⟨id, family⟩, hidentity, h⟩ := contract_bind_eq_ok_iff.1 h
  obtain ⟨hmanifest, h⟩ := contract_check_eq_ok_iff.1 h
  obtain ⟨digest, hdigest, h⟩ := contract_bind_eq_ok_iff.1 h
  obtain ⟨hequal, -⟩ := contract_check_eq_ok_iff.1 h
  obtain ⟨-, hdigest⟩ := contract_check_eq_ok_iff.1 hdigest
  obtain rfl := Except.ok.inj hdigest
  simp only [TrainingStageManifest.validate, FoundationPromotionReceipt.validate,
    reject_eq_ok_iff, not_or, not_not] at htraining hreceipt hmanifest hequal
  obtain ⟨hschema, -, -, hfamily, hne, hle, hcount, -⟩ := hmanifest
  exact {
    training := htraining
    receiptSchema := hreceipt.1
    receiptDigest := hreceipt.2.2.2.2
    identity := ⟨id, by rw [hidentity, hfamily]⟩
    schema := hschema
    weights_ne := hne
    weights_le := Nat.not_lt.1 hle
    weightCount := hcount.symm
    digest := hequal.1.symm
    assetDigest := hequal.2.symm.trans hequal.1 }

end FoundationWeightAsset

end Hashing

end ALife
