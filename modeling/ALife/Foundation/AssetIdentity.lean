/-
# The foundation asset codec is exact and tamper-evident

What is hashed tells what was hashed: each hashed byte string lays out fields of
fixed width, or with a tag or a count in front, so it can be read in one way
only.  The payload's digest covers the digests of the training stage and of the
receipt, and validation recomputes both, so an accepted asset is told by its
digest as long as the hash does not collide on the strings that the two assets
hash (`foundation_asset_exact`).
-/

import ALife.Foundation.AssetCodec

namespace ALife

open Machine

namespace TrainingStageManifest

/-- Two training stages with the same hashed bytes agree but for their digests. -/
theorem eq_of_hashed_eq {t t' : TrainingStageManifest} (h : t.hashed = t'.hashed)
    (hdigest : t.manifestDigest = t'.manifestDigest) : t = t' := by
  simp only [hashed, List.flatten_cons, List.append_cancel_left_eq, (reads_u16 ()).append_eq_iff,
    (reads_u32 ()).append_eq_iff] at h
  obtain ⟨hschema, hcurriculum, hevaluation, hstages, -⟩ := h
  exact TrainingStageManifest.ext hschema hcurriculum hevaluation hstages hdigest

end TrainingStageManifest

namespace FoundationPromotionReceipt

/-- Two receipts with the same hashed bytes agree but for their digests. -/
theorem eq_of_hashed_eq {r r' : FoundationPromotionReceipt} (h : r.hashed = r'.hashed)
    (hdigest : r.receiptDigest = r'.receiptDigest) : r = r' := by
  simp only [hashed, List.flatten_cons, List.append_cancel_left_eq, (reads_u16 ()).append_eq_iff,
    (reads_blake3 ()).append_eq_iff, (reads_optional () (reads_blake3 ())).append_eq_iff] at h
  obtain ⟨hschema, htraining, hevidence, hprovenance, -⟩ := h
  exact FoundationPromotionReceipt.ext hschema htraining hevidence hprovenance hdigest

end FoundationPromotionReceipt

/-- The bytes of the weights tell them. -/
theorem weights_eq_of_bytes {ws ws' : List F32}
    (h : (ws.flatMap fun weight => leBytes32 weight.bits)
      = ws'.flatMap fun weight => leBytes32 weight.bits) : ws = ws' := by
  have hlength := congrArg List.length h
  rw [length_weightBytes, length_weightBytes] at hlength
  exact (reads_weight.many ws.length).injective ⟨rfl, fun _ _ => trivial⟩
    ⟨by omega, fun _ _ => trivial⟩ h

namespace FoundationWeightAsset

/-- The byte strings that the digests of an asset are taken over. -/
def hashedStrings (a : FoundationWeightAsset) : List (List UInt8) :=
  [a.manifest.trainingStage.hashed, a.manifest.promotionReceipt.hashed,
    payloadBytes a.manifest a.weights]

variable {blake3 : List UInt8 → Blake3Digest}

/-- An asset whose forced fields are in place is told by its digest. -/
theorem Forced.eq_of_digest_eq {a b : FoundationWeightAsset} (ha : a.Forced blake3)
    (hb : b.Forced blake3)
    (hinj : Set.InjOn blake3 {s | s ∈ a.hashedStrings ∨ s ∈ b.hashedStrings})
    (h : a.digest = b.digest) : a = b := by
  have hpayload : payloadBytes a.manifest a.weights = payloadBytes b.manifest b.weights :=
    hinj (.inl (by simp [hashedStrings])) (.inr (by simp [hashedStrings]))
      (by rw [← ha.digest, ← hb.digest, h])
  simp only [payloadBytes, List.flatten_cons, List.flatten_nil, List.append_nil,
    List.append_cancel_left_eq, (reads_u64 ()).append_eq_iff, (reads_u32 ()).append_eq_iff,
    (reads_u16 ()).append_eq_iff, (reads_blake3 ()).append_eq_iff,
    (reads_digest4 ()).append_eq_iff, (reads_optional () (reads_digest4 ())).append_eq_iff]
    at hpayload
  obtain ⟨hid, hversion, hclass, hprofile, hlayout, hcodebook, hroute, hplasticity, haddress,
    haction, hspeech, hmemory, htraining, hreceipt, -, hweights⟩ := hpayload
  have hweights := weights_eq_of_bytes hweights
  have hclass := BrainClassId.ext hclass
  -- the training stage and the receipt through digests of their own
  have htraining : a.manifest.trainingStage = b.manifest.trainingStage := by
    refine TrainingStageManifest.eq_of_hashed_eq (hinj (.inl (by simp [hashedStrings]))
      (.inr (by simp [hashedStrings])) ?_) htraining
    rw [← ha.training.2, ← hb.training.2, htraining]
  have hreceipt : a.manifest.promotionReceipt = b.manifest.promotionReceipt := by
    refine FoundationPromotionReceipt.eq_of_hashed_eq (hinj (.inl (by simp [hashedStrings]))
      (.inr (by simp [hashedStrings])) ?_) hreceipt
    rw [← ha.receiptDigest, ← hb.receiptDigest, hreceipt]
  -- the fields that validation forces
  have hfamily : a.manifest.compatibilityFamilyId = b.manifest.compatibilityFamilyId := by
    obtain ⟨ida, hida⟩ := ha.identity
    obtain ⟨idb, hidb⟩ := hb.identity
    rw [hclass, hidb, Except.ok.injEq, Prod.mk.injEq] at hida
    exact hida.2.symm
  have hasset : a.manifest.weightAsset = b.manifest.weightAsset := by
    refine FoundationWeightAssetRef.ext (by rw [ha.assetDigest, hb.assetDigest, h]) ?_
    exact UInt32.toNat_inj.1 (by rw [ha.weightCount, hb.weightCount, hweights])
  refine FoundationWeightAsset.ext (FoundationManifest.ext ?_ (FoundationId.ext hid)
    (FoundationVersion.ext hversion) hfamily hclass (SensorProfile.raw_injective hprofile) hlayout
    hcodebook haction hspeech hmemory hroute hplasticity haddress htraining hreceipt hasset)
    hweights h
  rw [ha.schema, hb.schema]

/-- **The codec is exact in both directions, and an accepted asset is told by its
digest.** -/
theorem foundation_asset_exact (blake3 : List UInt8 → Blake3Digest)
    (readoutSource : SensorProfile → Contract ReadoutSource) :
    (∀ a, validateSelfContained blake3 readoutSource a = .ok () →
      ∃ bytes, a.encodeCanonical blake3 readoutSource = .ok bytes
        ∧ decodeCanonical blake3 readoutSource bytes = .ok a)
    ∧ (∀ bytes a, decodeCanonical blake3 readoutSource bytes = .ok a →
      a.encodeCanonical blake3 readoutSource = .ok bytes)
    ∧ ∀ a b, validateSelfContained blake3 readoutSource a = .ok () →
      validateSelfContained blake3 readoutSource b = .ok () →
        Set.InjOn blake3 {s | s ∈ a.hashedStrings ∨ s ∈ b.hashedStrings} →
          a.digest = b.digest → a = b := by
  refine ⟨fun a hvalid => ?_, fun bytes a hdecode => ?_, fun a b ha hb hinj h => ?_⟩
  · obtain ⟨id, hidentity⟩ := (forced_of_validateSelfContained hvalid).identity
    obtain ⟨magic, hmagic⟩ := foundationAssetMagic_of_identity hidentity
    exact ⟨assetBytes magic a, encodeCanonical_eq_ok_iff.2 ⟨hvalid, magic, hmagic, rfl⟩,
      decodeCanonical_eq_ok_iff.2 ⟨hvalid, magic, hmagic, rfl⟩⟩
  · exact encodeCanonical_eq_ok_iff.2 (decodeCanonical_eq_ok_iff.1 hdecode)
  · exact (forced_of_validateSelfContained ha).eq_of_digest_eq (forced_of_validateSelfContained hb)
      hinj h

/-! ### A bootstrap asset of one weight -/

/-- The hash of the bootstrap training stage. -/
def sampleTrainingDigest : Blake3Digest :=
  ⟨#v[61, 77, 73, 111, 153, 131, 178, 19, 193, 235, 122, 145, 237, 188, 134, 121,
    160, 53, 12, 22, 103, 156, 71, 8, 209, 61, 94, 245, 249, 173, 163, 61]⟩

/-- The hash of the bootstrap provenance. -/
def sampleProvenance : Blake3Digest :=
  ⟨#v[184, 239, 54, 212, 184, 111, 63, 34, 10, 240, 139, 17, 144, 160, 201, 183,
    216, 192, 122, 45, 97, 50, 17, 43, 234, 250, 136, 119, 44, 131, 132, 146]⟩

/-- The hash of the bootstrap receipt. -/
def sampleReceiptDigest : Blake3Digest :=
  ⟨#v[226, 120, 195, 54, 22, 45, 203, 54, 18, 14, 75, 160, 253, 245, 247, 175,
    48, 41, 57, 120, 118, 194, 148, 222, 254, 121, 166, 95, 153, 244, 237, 235]⟩

/-- The hash of the payload of one weight. -/
def samplePayloadDigest : Blake3Digest :=
  ⟨#v[64, 177, 29, 170, 91, 195, 240, 72, 67, 231, 80, 20, 85, 245, 191, 146,
    61, 139, 117, 90, 11, 254, 76, 49, 180, 44, 16, 123, 79, 40, 14, 65]⟩


/-- The bootstrap asset of the N512 class with the one weight `1`, its other digests zero. -/
def sampleAsset : FoundationWeightAsset where
  manifest :=
    { schemaVersion := 1
      foundationId := .n512V1
      foundationVersion := .v1
      compatibilityFamilyId := .n512Foundation
      capacityClassId := .n512
      sensorProfile := .groundedObjectSlotsV1
      layoutDigest := .default
      languageCodebookDigest := .default
      actionDecoderDigest := .zero
      speechDecoderDigest := none
      memoryDecoderDigest := none
      routeAbiDigest := .default
      plasticityAbiDigest := .default
      addressMapDigest := .default
      trainingStage := ⟨1, 0, 0, 0, sampleTrainingDigest⟩
      promotionReceipt := ⟨1, sampleTrainingDigest, none, sampleProvenance, sampleReceiptDigest⟩
      weightAsset := ⟨samplePayloadDigest, 1⟩ }
  weights := [.one]
  digest := samplePayloadDigest

/-- The hash of the payload of another weight. -/
def otherPayloadDigest : Blake3Digest := ⟨Vector.replicate 32 5⟩

/-- The same with the weight `2`. -/
def otherAsset : FoundationWeightAsset where
  manifest := { sampleAsset.manifest with weightAsset := ⟨otherPayloadDigest, 1⟩ }
  weights := [⟨0x40000000⟩]
  digest := otherPayloadDigest

/-- BLAKE3 on the strings that the assets hash. -/
def sampleBlake3 (s : List UInt8) : Blake3Digest :=
  if s = sampleAsset.manifest.trainingStage.hashed then sampleTrainingDigest
  else if s = sampleAsset.manifest.promotionReceipt.hashed then sampleReceiptDigest
  else if s = payloadBytes sampleAsset.manifest sampleAsset.weights then samplePayloadDigest
  else otherPayloadDigest

/-- The asset goes through the codec and back, and its digest is not that of the other. -/
theorem foundation_asset_exact_sample :
    (∃ bytes, sampleAsset.encodeCanonical sampleBlake3 (fun _ => .error .phenotypeCompile)
        = .ok bytes
      ∧ decodeCanonical sampleBlake3 (fun _ => .error .phenotypeCompile) bytes = .ok sampleAsset
      ∧ ∀ a, decodeCanonical sampleBlake3 (fun _ => .error .phenotypeCompile) bytes = .ok a →
        a.encodeCanonical sampleBlake3 (fun _ => .error .phenotypeCompile) = .ok bytes)
    ∧ validateSelfContained sampleBlake3 (fun _ => .error .phenotypeCompile) otherAsset = .ok ()
    ∧ sampleAsset.digest ≠ otherAsset.digest := by
  have hvalid : validateSelfContained sampleBlake3 (fun _ => .error .phenotypeCompile) sampleAsset
      = .ok () := by decide +kernel
  have hother : validateSelfContained sampleBlake3 (fun _ => .error .phenotypeCompile) otherAsset
      = .ok () := by decide +kernel
  have hpairs : ∀ s ∈ sampleAsset.hashedStrings ++ otherAsset.hashedStrings,
      ∀ s' ∈ sampleAsset.hashedStrings ++ otherAsset.hashedStrings,
        sampleBlake3 s = sampleBlake3 s' → s = s' := by decide +kernel
  have hinj : Set.InjOn sampleBlake3
      {s | s ∈ sampleAsset.hashedStrings ∨ s ∈ otherAsset.hashedStrings} :=
    fun s hs s' hs' => hpairs s (List.mem_append.2 hs) s' (List.mem_append.2 hs')
  obtain ⟨hencodes, hdecodes, htold⟩ :=
    foundation_asset_exact sampleBlake3 fun _ => .error .phenotypeCompile
  obtain ⟨bytes, hbytes, hdecoded⟩ := hencodes _ hvalid
  refine ⟨⟨bytes, hbytes, hdecoded, hdecodes bytes⟩, hother, fun h => ?_⟩
  have hweights := congrArg FoundationWeightAsset.weights (htold _ _ hvalid hother hinj h)
  exact absurd hweights (by decide)

end FoundationWeightAsset

end ALife
