/-
# The foundation asset codec

`encode_canonical` and `decode_canonical` of `FoundationWeightAsset`
(`crates/alife_core/src/foundation.rs`): the magic of the class, a version, the
manifest field by field, the weights under their count, the digest.  Each part
has one writer and one reader, and a lemma that the reader takes exactly what the
writer writes; both ends validate the asset, so they accept the same assets
(`encodeCanonical_eq_ok_iff`, `decodeCanonical_eq_ok_iff`).
-/

import ALife.Foundation.Asset

namespace ALife

open Machine

/-- A reader of the asset codec, `FoundationAssetCursor`. -/
abbrev AssetReader (α : Type) := Reader ScaffoldContractError α

/-! ### The manifest -/

/-- `encode_training_stage`. -/
def encodeTrainingStage (t : TrainingStageManifest) : List UInt8 :=
  List.flatten [leBytes16 t.schemaVersion, leBytes32 t.curriculumVersion,
    leBytes32 t.evaluationVersion, leBytes16 t.completedStageCount, t.manifestDigest.toList]

/-- `decode_training_stage`. -/
def decodeTrainingStage : AssetReader TrainingStageManifest := do
  let schemaVersion ← readU16 .phenotypeCompile
  let curriculumVersion ← readU32 .phenotypeCompile
  let evaluationVersion ← readU32 .phenotypeCompile
  let completedStageCount ← readU16 .phenotypeCompile
  let manifestDigest ← readBlake3 .phenotypeCompile
  pure ⟨schemaVersion, curriculumVersion, evaluationVersion, completedStageCount, manifestDigest⟩

theorem reads_trainingStage : Reads decodeTrainingStage (fun _ => True) encodeTrainingStage := by
  refine ((reads_u16 _).field TrainingStageManifest.schemaVersion fun schemaVersion =>
    (reads_u32 _).field TrainingStageManifest.curriculumVersion fun curriculumVersion =>
    (reads_u32 _).field TrainingStageManifest.evaluationVersion fun evaluationVersion =>
    (reads_u16 _).field TrainingStageManifest.completedStageCount fun completedStageCount =>
    (reads_blake3 _).field TrainingStageManifest.manifestDigest fun manifestDigest =>
    Reads.finish fun t => ?_).cast fun _ => rfl
  rw [TrainingStageManifest.ext_iff]
  tauto

/-- `encode_promotion_receipt`. -/
def encodePromotionReceipt (r : FoundationPromotionReceipt) : List UInt8 :=
  List.flatten [leBytes16 r.schemaVersion, r.trainingManifestDigest.toList,
    optionalBytes Blake3Digest.toList r.evaluationEvidenceDigest, r.provenanceDigest.toList,
    r.receiptDigest.toList]

/-- `decode_promotion_receipt`. -/
def decodePromotionReceipt : AssetReader FoundationPromotionReceipt := do
  let schemaVersion ← readU16 .phenotypeCompile
  let trainingManifestDigest ← readBlake3 .phenotypeCompile
  let evaluationEvidenceDigest ← readOptional .phenotypeCompile (readBlake3 .phenotypeCompile)
  let provenanceDigest ← readBlake3 .phenotypeCompile
  let receiptDigest ← readBlake3 .phenotypeCompile
  pure ⟨schemaVersion, trainingManifestDigest, evaluationEvidenceDigest, provenanceDigest,
    receiptDigest⟩

theorem reads_promotionReceipt :
    Reads decodePromotionReceipt (fun _ => True) encodePromotionReceipt := by
  refine ((reads_u16 _).field FoundationPromotionReceipt.schemaVersion fun schemaVersion =>
    (reads_blake3 _).field FoundationPromotionReceipt.trainingManifestDigest fun training =>
    (reads_optional _ (reads_blake3 _)).field
      FoundationPromotionReceipt.evaluationEvidenceDigest fun evidence =>
    (reads_blake3 _).field FoundationPromotionReceipt.provenanceDigest fun provenance =>
    (reads_blake3 _).field FoundationPromotionReceipt.receiptDigest fun receipt =>
    Reads.finish fun r => ?_).cast fun _ => rfl
  rw [FoundationPromotionReceipt.ext_iff]
  tauto

/-- `encode_manifest`. -/
def encodeManifest (m : FoundationManifest) : List UInt8 :=
  List.flatten [leBytes16 m.schemaVersion, leBytes64 m.foundationId.raw,
    leBytes32 m.foundationVersion.raw, leBytes64 m.compatibilityFamilyId.raw,
    leBytes16 m.capacityClassId.raw, leBytes16 m.sensorProfile.raw, m.layoutDigest.toList,
    m.languageCodebookDigest.toList, digest4Bytes m.actionDecoderDigest,
    optionalBytes digest4Bytes m.speechDecoderDigest,
    optionalBytes digest4Bytes m.memoryDecoderDigest, m.routeAbiDigest.toList,
    m.plasticityAbiDigest.toList, m.addressMapDigest.toList, encodeTrainingStage m.trainingStage,
    encodePromotionReceipt m.promotionReceipt, m.weightAsset.digest.toList,
    leBytes32 m.weightAsset.weightCount]

/-- `SensorProfile::try_from_raw(cursor.u16()?)?`. -/
def readSensorProfile : AssetReader SensorProfile := do
  let profile ← readU16 .phenotypeCompile
  Reader.lift (SensorProfile.tryFromRaw profile)

theorem reads_sensorProfile :
    Reads readSensorProfile (fun _ => True) (fun profile => leBytes16 profile.raw) := by
  intro input profile rest
  simp only [readSensorProfile, Reader.bind_eq_ok_iff, reads_u16 _ _ _ _, Reader.lift_eq_ok_iff,
    SensorProfile.tryFromRaw_eq_ok_iff, true_and]
  constructor
  · rintro ⟨_, _, rfl, rfl, rfl⟩
    rfl
  · rintro rfl
    exact ⟨_, _, rfl, rfl, rfl⟩

/-- `decode_manifest`. -/
def decodeManifest : AssetReader FoundationManifest := do
  let schemaVersion ← readU16 .phenotypeCompile
  let foundationId ← readU64 .phenotypeCompile >>= fun raw => pure (FoundationId.mk raw)
  let foundationVersion ← readU32 .phenotypeCompile >>= fun raw => pure (FoundationVersion.mk raw)
  let compatibilityFamilyId ← readU64 .phenotypeCompile >>= fun raw => pure (FoundationCompatibilityFamilyId.mk raw)
  let capacityClassId ← readU16 .phenotypeCompile >>= fun raw => pure (BrainClassId.mk raw)
  let sensorProfile ← readSensorProfile
  let layoutDigest ← readBlake3 .phenotypeCompile
  let languageCodebookDigest ← readBlake3 .phenotypeCompile
  let actionDecoderDigest ← readDigest4 .phenotypeCompile
  let speechDecoderDigest ← readOptional .phenotypeCompile (readDigest4 .phenotypeCompile)
  let memoryDecoderDigest ← readOptional .phenotypeCompile (readDigest4 .phenotypeCompile)
  let routeAbiDigest ← readBlake3 .phenotypeCompile
  let plasticityAbiDigest ← readBlake3 .phenotypeCompile
  let addressMapDigest ← readBlake3 .phenotypeCompile
  let trainingStage ← decodeTrainingStage
  let promotionReceipt ← decodePromotionReceipt
  let digest ← readBlake3 .phenotypeCompile
  let weightCount ← readU32 .phenotypeCompile
  pure ⟨schemaVersion, foundationId, foundationVersion, compatibilityFamilyId, capacityClassId,
    sensorProfile, layoutDigest, languageCodebookDigest, actionDecoderDigest,
    speechDecoderDigest, memoryDecoderDigest, routeAbiDigest, plasticityAbiDigest,
    addressMapDigest, trainingStage, promotionReceipt, ⟨digest, weightCount⟩⟩

theorem reads_manifest : Reads decodeManifest (fun _ => True) encodeManifest := by
  refine ((reads_u16 _).field FoundationManifest.schemaVersion fun _ =>
    ((reads_u64 _).wrap FoundationId.raw (fun _ => rfl) fun _ => rfl).field
      FoundationManifest.foundationId fun _ =>
    ((reads_u32 _).wrap FoundationVersion.raw (fun _ => rfl) fun _ => rfl).field
      FoundationManifest.foundationVersion fun _ =>
    ((reads_u64 _).wrap FoundationCompatibilityFamilyId.raw (fun _ => rfl)
      fun _ => rfl).field FoundationManifest.compatibilityFamilyId fun _ =>
    ((reads_u16 _).wrap BrainClassId.raw (fun _ => rfl) fun _ => rfl).field
      FoundationManifest.capacityClassId fun _ =>
    reads_sensorProfile.field FoundationManifest.sensorProfile fun _ =>
    (reads_blake3 _).field FoundationManifest.layoutDigest fun _ =>
    (reads_blake3 _).field FoundationManifest.languageCodebookDigest fun _ =>
    (reads_digest4 _).field FoundationManifest.actionDecoderDigest fun _ =>
    (reads_optional _ (reads_digest4 _)).field FoundationManifest.speechDecoderDigest fun _ =>
    (reads_optional _ (reads_digest4 _)).field FoundationManifest.memoryDecoderDigest fun _ =>
    (reads_blake3 _).field FoundationManifest.routeAbiDigest fun _ =>
    (reads_blake3 _).field FoundationManifest.plasticityAbiDigest fun _ =>
    (reads_blake3 _).field FoundationManifest.addressMapDigest fun _ =>
    reads_trainingStage.field FoundationManifest.trainingStage fun _ =>
    reads_promotionReceipt.field FoundationManifest.promotionReceipt fun _ =>
    (reads_blake3 _).field (fun m : FoundationManifest => m.weightAsset.digest) fun _ =>
    (reads_u32 _).field (fun m : FoundationManifest => m.weightAsset.weightCount) fun _ =>
    Reads.finish fun m => ?_).cast fun _ => rfl
  rw [FoundationManifest.ext_iff, FoundationWeightAssetRef.ext_iff]
  simp only [true_and, and_assoc]

/-! ### The asset -/

/-- `FOUNDATION_ASSET_MAGIC_N512`. -/
def foundationAssetMagicN512 : List UInt8 := asciiBytes "ALFN0512"

/-- `FOUNDATION_ASSET_MAGIC_N2048`. -/
def foundationAssetMagicN2048 : List UInt8 := asciiBytes "ALFN2048"

/-- `FOUNDATION_ASSET_CODEC_VERSION`. -/
def foundationAssetCodecVersion : UInt16 := 1

/-- `foundation_asset_magic`. -/
def foundationAssetMagic (classId : BrainClassId) : Contract (List UInt8) :=
  if classId = .n512 then .ok foundationAssetMagicN512
  else if classId = .n2048 then .ok foundationAssetMagicN2048
  else .error .phenotypeCompile

/-- A class with an identity has a magic, one of the two. -/
theorem foundationAssetMagic_of_identity {classId : BrainClassId}
    {identity : FoundationId × FoundationCompatibilityFamilyId}
    (h : foundationIdentityForClass classId = .ok identity) :
    ∃ magic, foundationAssetMagic classId = .ok magic := by
  unfold foundationIdentityForClass at h
  unfold foundationAssetMagic
  split_ifs at h ⊢
  · exact ⟨_, rfl⟩
  · exact ⟨_, rfl⟩

theorem foundationAssetMagic_cases {classId : BrainClassId} {magic : List UInt8}
    (h : foundationAssetMagic classId = .ok magic) :
    magic = foundationAssetMagicN512 ∨ magic = foundationAssetMagicN2048 := by
  unfold foundationAssetMagic at h
  split_ifs at h
  · exact .inl (Except.ok.inj h).symm
  · exact .inr (Except.ok.inj h).symm

theorem length_foundationAssetMagic {classId : BrainClassId} {magic : List UInt8}
    (h : foundationAssetMagic classId = .ok magic) : magic.length = 8 := by
  obtain rfl | rfl := foundationAssetMagic_cases h
  · rfl
  · rfl

/-- What `encode_canonical` writes, behind the magic of the class. -/
def assetBytes (magic : List UInt8) (a : FoundationWeightAsset) : List UInt8 :=
  magic ++ leBytes16 foundationAssetCodecVersion ++ encodeManifest a.manifest
    ++ leBytes32 a.weights.length.toUInt32 ++ (a.weights.flatMap fun weight => leBytes32 weight.bits)
    ++ a.digest.toList

/-- One weight, `f32::from_bits(cursor.u32()?)`. -/
def readWeight : AssetReader F32 := do
  let bits ← readU32 .phenotypeCompile
  pure ⟨bits⟩

theorem reads_weight : Reads readWeight (fun _ => True) (fun weight => leBytes32 weight.bits) := by
  exact (reads_u32 _).wrap F32.bits (fun _ => rfl) fun _ => rfl

theorem length_weightBytes (weights : List F32) :
    (weights.flatMap fun weight => leBytes32 weight.bits).length = weights.length * 4 := by
  induction weights with
  | nil => rfl
  | cons weight weights ih =>
    rw [List.flatMap_cons, List.length_append, ih, List.length_cons]
    show 4 + weights.length * 4 = _
    omega

/-- `decode_canonical` up to the validation. -/
def readAsset : AssetReader FoundationWeightAsset := do
  let magic ← Reader.take .phenotypeCompile 8
  Reader.ensure (magic = foundationAssetMagicN512 ∨ magic = foundationAssetMagicN2048)
    .phenotypeCompile
  let version ← readU16 .phenotypeCompile
  Reader.ensure (version = foundationAssetCodecVersion) .phenotypeCompile
  let manifest ← decodeManifest
  let expected ← Reader.lift (foundationAssetMagic manifest.capacityClassId)
  Reader.ensure (magic = expected) .phenotypeCompile
  let weightCount ← readU32 .phenotypeCompile
  Reader.ensure (¬(weightCount.toNat = 0 ∨ foundationAssetMaxWeights < weightCount.toNat))
    .phenotypeCompile
  let remaining ← Reader.remaining
  Reader.ensure (remaining = weightCount.toNat * 4 + 32) .phenotypeCompile
  let weights ← readWeight.many weightCount.toNat
  let digest ← readBlake3 .phenotypeCompile
  let slack ← Reader.remaining
  Reader.ensure (slack = 0) .phenotypeCompile
  pure ⟨manifest, weights, digest⟩

/-- **What the reader accepts:** the bytes of an asset with a permitted number of
weights, to the last byte. -/
theorem readAsset_eq_ok_iff {input rest : List UInt8} {a : FoundationWeightAsset} :
    readAsset input = .ok (a, rest) ↔
      (∃ magic, foundationAssetMagic a.manifest.capacityClassId = .ok magic
        ∧ input = assetBytes magic a)
      ∧ a.weights ≠ [] ∧ a.weights.length ≤ foundationAssetMaxWeights ∧ rest = [] := by
  rw [readAsset]
  constructor
  · intro h0
    obtain ⟨magic, _, htake, h1⟩ := Reader.bind_eq_ok_iff.1 h0
    obtain ⟨-, h2⟩ := Reader.ensure_bind_eq_ok_iff.1 h1
    obtain ⟨version, _, -, hversion, h3⟩ := (reads_u16 _).bind_eq_ok_iff.1 h2
    obtain ⟨rfl, h4⟩ := Reader.ensure_bind_eq_ok_iff.1 h3
    obtain ⟨manifest, _, -, hmanifest, h5⟩ := reads_manifest.bind_eq_ok_iff.1 h4
    obtain ⟨expected, _, hlift, h6⟩ := Reader.bind_eq_ok_iff.1 h5
    obtain ⟨hmagic, hmid⟩ := Reader.lift_eq_ok_iff.1 hlift
    obtain ⟨hexpected, h7⟩ := Reader.ensure_bind_eq_ok_iff.1 h6
    obtain ⟨count, _, -, hcountBytes, h8⟩ := (reads_u32 _).bind_eq_ok_iff.1 h7
    obtain ⟨hcount, h9⟩ := Reader.ensure_bind_eq_ok_iff.1 h8
    obtain ⟨-, h10⟩ := Reader.ensure_bind_eq_ok_iff.1 (Reader.remaining_bind_eq_ok_iff.1 h9)
    obtain ⟨weights, _, ⟨hlen, -⟩, hweights, h11⟩ := (reads_weight.many _).bind_eq_ok_iff.1 h10
    obtain ⟨digest, slack, -, hdigest, h12⟩ := (reads_blake3 _).bind_eq_ok_iff.1 h11
    obtain ⟨hslack, h13⟩ := Reader.ensure_bind_eq_ok_iff.1 (Reader.remaining_bind_eq_ok_iff.1 h12)
    obtain ⟨rfl, rfl⟩ := Reader.pure_eq_ok_iff.1 h13
    obtain rfl := List.length_eq_zero_iff.1 hslack
    rw [not_or, Nat.not_lt, ← hlen, List.length_eq_zero_iff] at hcount
    have hword : count = weights.length.toUInt32 := by
      rw [hlen, Nat.toUInt32, UInt32.ofNat_toNat]
    refine ⟨⟨expected, hmagic, ?_⟩, hcount.1, hcount.2, rfl⟩
    rw [(Reader.take_eq_ok_iff.1 htake).2, hexpected, hversion, hmanifest, hmid, hcountBytes,
      hweights, hdigest]
    simp only [assetBytes, ← hword, List.append_assoc, List.append_nil]
  · rintro ⟨⟨magic, hmagic, rfl⟩, hne, hle, rfl⟩
    have hpos : 0 < a.weights.length := List.length_pos_iff.2 hne
    have hcount : a.weights.length.toUInt32.toNat = a.weights.length := by
      refine UInt32.toNat_ofNat_of_lt' ?_
      simp only [foundationAssetMaxWeights] at hle
      simp only [UInt32.size]
      omega
    simp only [assetBytes, List.append_assoc]
    refine Reader.bind_eq_ok_iff.2
      ⟨magic, _, Reader.take_eq_ok_iff.2 ⟨length_foundationAssetMagic hmagic, rfl⟩, ?_⟩
    refine Reader.ensure_bind_eq_ok_iff.2 ⟨foundationAssetMagic_cases hmagic, ?_⟩
    refine (reads_u16 _).bind_eq_ok_iff.2 ⟨_, _, trivial, rfl, ?_⟩
    refine Reader.ensure_bind_eq_ok_iff.2 ⟨rfl, ?_⟩
    refine reads_manifest.bind_eq_ok_iff.2 ⟨_, _, trivial, rfl, ?_⟩
    refine Reader.bind_eq_ok_iff.2 ⟨magic, _, Reader.lift_eq_ok_iff.2 ⟨hmagic, rfl⟩, ?_⟩
    refine Reader.ensure_bind_eq_ok_iff.2 ⟨rfl, ?_⟩
    refine (reads_u32 _).bind_eq_ok_iff.2 ⟨_, _, trivial, rfl, ?_⟩
    refine Reader.ensure_bind_eq_ok_iff.2 ⟨by omega, ?_⟩
    refine Reader.remaining_bind_eq_ok_iff.2 (Reader.ensure_bind_eq_ok_iff.2 ⟨?_, ?_⟩)
    · rw [List.length_append, length_weightBytes, a.digest.length_toList, hcount]
    refine (reads_weight.many _).bind_eq_ok_iff.2
      ⟨a.weights, _, ⟨hcount.symm, fun _ _ => trivial⟩, rfl, ?_⟩
    refine (reads_blake3 _).bind_eq_ok_iff.2
      ⟨a.digest, [], trivial, (List.append_nil _).symm, ?_⟩
    exact Reader.remaining_bind_eq_ok_iff.2
      (Reader.ensure_bind_eq_ok_iff.2 ⟨rfl, Reader.pure_eq_ok_iff.2 ⟨rfl, rfl⟩⟩)

namespace FoundationWeightAsset

variable (blake3 : List UInt8 → Blake3Digest)
  (readoutSource : SensorProfile → Contract ReadoutSource)

/-- `encode_canonical`. -/
def encodeCanonical (a : FoundationWeightAsset) : Contract (List UInt8) := do
  a.validateSelfContained blake3 readoutSource
  let magic ← foundationAssetMagic a.manifest.capacityClassId
  reject (UInt32.size ≤ a.weights.length) .phenotypeCompile
  .ok (assetBytes magic a)

/-- `decode_canonical`. -/
def decodeCanonical (bytes : List UInt8) : Contract FoundationWeightAsset := do
  let (asset, _) ← readAsset bytes
  asset.validateSelfContained blake3 readoutSource
  .ok asset

variable {blake3 readoutSource}

/-- **What the encoder accepts:** an asset that validates. -/
theorem encodeCanonical_eq_ok_iff {a : FoundationWeightAsset} {bytes : List UInt8} :
    a.encodeCanonical blake3 readoutSource = .ok bytes ↔
      a.validateSelfContained blake3 readoutSource = .ok ()
        ∧ ∃ magic, foundationAssetMagic a.manifest.capacityClassId = .ok magic
          ∧ bytes = assetBytes magic a := by
  rw [encodeCanonical, contract_check_eq_ok_iff]
  refine and_congr_right fun hvalid => ?_
  rw [contract_bind_eq_ok_iff]
  refine exists_congr fun magic => and_congr_right fun _ => ?_
  have hle := (forced_of_validateSelfContained hvalid).weights_le
  rw [contract_check_eq_ok_iff, reject_eq_ok_iff, Nat.not_le, Except.ok.injEq, eq_comm]
  simp only [foundationAssetMaxWeights] at hle
  refine and_iff_right ?_
  simp only [UInt32.size]
  omega

/-- **What the decoder accepts:** the bytes of an asset that validates. -/
theorem decodeCanonical_eq_ok_iff {a : FoundationWeightAsset} {bytes : List UInt8} :
    decodeCanonical blake3 readoutSource bytes = .ok a ↔
      a.validateSelfContained blake3 readoutSource = .ok ()
        ∧ ∃ magic, foundationAssetMagic a.manifest.capacityClassId = .ok magic
          ∧ bytes = assetBytes magic a := by
  rw [decodeCanonical, contract_bind_eq_ok_iff]
  constructor
  · rintro ⟨⟨asset, rest⟩, hread, h⟩
    obtain ⟨hvalid, hasset⟩ := contract_check_eq_ok_iff.1 h
    obtain rfl := Except.ok.inj hasset
    exact ⟨hvalid, (readAsset_eq_ok_iff.1 hread).1⟩
  · rintro ⟨hvalid, hbytes⟩
    have hforced := forced_of_validateSelfContained hvalid
    exact ⟨(a, []), readAsset_eq_ok_iff.2 ⟨hbytes, hforced.weights_ne, hforced.weights_le, rfl⟩,
      contract_check_eq_ok_iff.2 ⟨hvalid, rfl⟩⟩

end FoundationWeightAsset

end ALife
