/-
# Pressure samples

`GpuPressureSample` (`crates/alife_core/src/activity.rs`).  A sample puts four
measurements into buckets against the thresholds of the policy: completed GPU
time, queue depth, heap pressure and what is left of the ATP, the last two as
`Q16` fractions.  The worst bucket is the throttle level, which therefore only
rises when time, depth and heap pressure rise and ATP falls
(`NoLessPressure.throttleLevel_le`).
-/

import ALife.Activity.Policy
import Mathlib.Algebra.Order.Floor.Semifield

namespace ALife

open Machine

structure BrainDispatchIdentity where
  organismIdRaw : UInt64
  tick : UInt64
  classIdRaw : UInt16
  handleSlot : UInt32
  handleGeneration : UInt32
  sequenceCursor : UInt64
  dispatchGeneration : UInt64
  frameDigest : Digest256
  deriving DecidableEq, Repr

def BrainDispatchIdentity.validateContract (i : BrainDispatchIdentity) : Contract Unit :=
  failIf (i.organismIdRaw = 0 ∨ i.classIdRaw = 0 ∨ i.handleGeneration = 0 ∨ i.sequenceCursor = 0
    ∨ i.dispatchGeneration = 0 ∨ i.frameDigest = .zero) .brainActivitySequenceMismatch

structure GpuPressureSampleInput where
  identity : BrainDispatchIdentity
  sourceDispatchGeneration : UInt64
  sourceFrameDigest : Digest256
  completedGpuTimeNs : UInt64
  queueDepth : UInt32
  logicalHeapUsed : UInt64
  logicalHeapCapacity : UInt64
  brainAtpRemainingQ16 : UInt32
  brainAtpCapacityQ16 : UInt32
  deriving DecidableEq, Repr

inductive NeuralThrottleLevel where
  | full | reduced | essentialOnly
  deriving DecidableEq, Repr

/-- `NeuralThrottleLevel::raw`. -/
def NeuralThrottleLevel.raw : NeuralThrottleLevel → UInt8
  | .full => 0
  | .reduced => 1
  | .essentialOnly => 2

/-! ## Fractions and buckets -/

/-- `q16_fraction`. -/
def q16Fraction (numerator denominator : UInt64) : Contract UInt32 := do
  failIf (denominator = 0 ∨ denominator < numerator) .brainActivityPolicyMismatch
  let shifted ← getOr (checkedShl 128 numerator.toNat 16) .brainActivityPolicyMismatch
  let scaled := shifted / denominator.toNat
  getOr (tryFrom32 (min scaled brainAtpQ16Max.toNat)) .brainActivityPolicyMismatch

section Buckets

variable {α : Type} [LT α] [DecidableLT α]

/-- `threshold_bucket_u64` and `threshold_bucket_u32`. -/
def thresholdBucket (value : α) (thresholds : Thresholds α) : UInt8 :=
  if value < thresholds.t0 then 0
  else if value < thresholds.t1 then 1
  else if value < thresholds.t2 then 2
  else 3

/-- `descending_atp_bucket`. -/
def descendingAtpBucket (value : UInt32) (thresholds : Thresholds UInt32) : UInt8 :=
  if thresholds.t0 ≤ value then 0
  else if thresholds.t1 ≤ value then 1
  else if thresholds.t2 ≤ value then 2
  else 3

/-- A larger value is in no lower bucket, whatever the thresholds. -/
theorem thresholdBucket_mono {f : α → ℕ} (hf : ∀ a b, a < b ↔ f a < f b) {a b : α}
    (h : f a ≤ f b) (t : Thresholds α) :
    (thresholdBucket a t).toNat ≤ (thresholdBucket b t).toNat := by
  have hlt : ∀ c, b < c → a < c := fun c hc => (hf a c).2 (lt_of_le_of_lt h ((hf b c).1 hc))
  unfold thresholdBucket
  split_ifs with h₀ h₁ h₂ h₃ h₄ h₅ <;> first | decide | skip
  all_goals exact absurd (hlt _ ‹_›) ‹_›

theorem descendingAtpBucket_anti {a b : UInt32} (h : b.toNat ≤ a.toNat) (t : Thresholds UInt32) :
    (descendingAtpBucket a t).toNat ≤ (descendingAtpBucket b t).toNat := by
  have hle : ∀ c : UInt32, c ≤ b → c ≤ a := fun c hc => by
    rw [UInt32.le_iff_toNat_le] at hc ⊢
    omega
  unfold descendingAtpBucket
  split_ifs with h₀ h₁ h₂ h₃ h₄ h₅ <;> first | decide | skip
  all_goals exact absurd (hle _ ‹_›) ‹_›

end Buckets

/-- A fraction is rounded down, and a whole is the largest `Q16` number. -/
theorem q16Fraction_eq_ok_iff {n d : UInt64} {v : UInt32} :
    q16Fraction n d = .ok v ↔
      d ≠ 0 ∧ n ≤ d ∧ v.toNat = min (n.toNat * 2 ^ 16 / d.toNat) 65535 := by
  unfold q16Fraction
  have hn := n.toNat_lt
  have hshift : checkedShl 128 n.toNat 16 = some (n.toNat * 2 ^ 16) :=
    checkedShl_eq_some (by decide) (by omega)
  have hmax : (65535 : ℕ) = brainAtpQ16Max.toNat := rfl
  rw [except_seq_eq_ok_iff, failIf_eq_ok_iff, not_or, UInt64.not_lt, and_assoc, hmax,
    except_bind_eq_ok_iff]
  simp only [getOr_eq_ok_iff, hshift, tryFrom32_eq_some_iff, Option.some.injEq, exists_eq_left',
    ne_eq]

/-- A `Q16` number is its own fraction of `BRAIN_ATP_Q16_MAX`. -/
theorem q16Fraction_self {v : UInt32} (h : v ≤ brainAtpQ16Max) :
    q16Fraction v.toUInt64 brainAtpQ16Max.toUInt64 = .ok v := by
  have hmax : brainAtpQ16Max.toUInt64.toNat = 65535 := rfl
  have hle : v.toNat ≤ 65535 := UInt32.le_iff_toNat_le.1 h
  refine q16Fraction_eq_ok_iff.2 ⟨by decide, ?_, ?_⟩
  · rw [UInt64.le_iff_toNat_le, UInt32.toNat_toUInt64, hmax]
    exact hle
  · rw [UInt32.toNat_toUInt64, hmax]
    omega

/-- `q16_fraction` is monotone in the exact fraction. -/
theorem q16Fraction_mono {n d n' d' : UInt64} {v v' : UInt32} (h : q16Fraction n d = .ok v)
    (h' : q16Fraction n' d' = .ok v')
    (hle : (n.toNat : ℚ) / d.toNat ≤ (n'.toNat : ℚ) / d'.toNat) : v.toNat ≤ v'.toNat := by
  rw [(q16Fraction_eq_ok_iff.1 h).2.2, (q16Fraction_eq_ok_iff.1 h').2.2]
  refine min_le_min_right _ ?_
  have hscaled : ((n.toNat * 2 ^ 16 : ℕ) : ℚ) / d.toNat ≤ ((n'.toNat * 2 ^ 16 : ℕ) : ℚ) / d'.toNat := by
    push_cast
    rw [mul_div_right_comm, mul_div_right_comm]
    exact mul_le_mul_of_nonneg_right hle (by positivity)
  rw [← Nat.floor_div_eq_div (K := ℚ), ← Nat.floor_div_eq_div (K := ℚ)]
  exact Nat.floor_mono hscaled

/-! ## Samples -/

structure GpuPressureSample where
  schemaVersion : UInt16
  policyVersion : UInt16
  organismIdRaw : UInt64
  tick : UInt64
  classIdRaw : UInt16
  handleSlot : UInt32
  handleGeneration : UInt32
  sequenceCursor : UInt64
  sourceDispatchGeneration : UInt64
  sourceFrameDigest : Digest256
  completedGpuTimeNs : UInt64
  queueDepth : UInt32
  logicalHeapPressureQ16 : UInt32
  brainAtpFractionQ16 : UInt32
  completedGpuTimeBucket : UInt16
  queueDepthBucket : UInt8
  neuralHeapPressureBucket : UInt8
  brainAtpBucket : UInt8
  sampleDigest : Digest256
  dispatchGeneration : UInt64
  frameDigest : Digest256
  deriving DecidableEq, Repr

namespace GpuPressureSample

def dispatchIdentity (s : GpuPressureSample) : BrainDispatchIdentity where
  organismIdRaw := s.organismIdRaw
  tick := s.tick
  classIdRaw := s.classIdRaw
  handleSlot := s.handleSlot
  handleGeneration := s.handleGeneration
  sequenceCursor := s.sequenceCursor
  dispatchGeneration := s.dispatchGeneration
  frameDigest := s.frameDigest

/-- The worst of the four buckets. -/
def worstBucket (s : GpuPressureSample) : ℕ :=
  max (max (max s.completedGpuTimeBucket.toNat s.queueDepthBucket.toNat)
    s.neuralHeapPressureBucket.toNat) s.brainAtpBucket.toNat

def throttleLevel (s : GpuPressureSample) : NeuralThrottleLevel :=
  match s.worstBucket with
  | 0 => .full
  | 1 => .reduced
  | _ => .essentialOnly

def recomputeDigest (s : GpuPressureSample) : Digest256 :=
  (CanonicalDigestBuilder.new (asciiBytes "alife.brain.activity.pressure.v1"))
    |>.writeU16 s.schemaVersion |>.writeU16 s.policyVersion |>.writeU64 s.organismIdRaw
    |>.writeU64 s.tick |>.writeU16 s.classIdRaw |>.writeU32 s.handleSlot
    |>.writeU32 s.handleGeneration |>.writeU64 s.sequenceCursor |>.writeU64 s.dispatchGeneration
    |>.writeDigest s.frameDigest |>.writeU64 s.sourceDispatchGeneration
    |>.writeDigest s.sourceFrameDigest |>.writeU64 s.completedGpuTimeNs |>.writeU32 s.queueDepth
    |>.writeU32 s.logicalHeapPressureQ16 |>.writeU32 s.brainAtpFractionQ16
    |>.writeU16 s.completedGpuTimeBucket |>.writeU8 s.queueDepthBucket
    |>.writeU8 s.neuralHeapPressureBucket |>.writeU8 s.brainAtpBucket
    |>.finish256

/-- The digest does not cover its own field. -/
theorem recomputeDigest_withDigest (s : GpuPressureSample) (digest : Digest256) :
    { s with sampleDigest := digest }.recomputeDigest = s.recomputeDigest := rfl

theorem recomputeDigest_ne_zero (s : GpuPressureSample) : s.recomputeDigest ≠ .zero :=
  CanonicalDigestBuilder.finish256_ne_zero _

def validateFor (s : GpuPressureSample) (policy : BrainActivityPolicyV1) : Contract Unit := do
  policy.validateContract
  s.dispatchIdentity.validateContract
  failIf (s.schemaVersion ≠ policy.schemaVersion
      ∨ s.policyVersion ≠ policy.policyVersion
      ∨ brainAtpQ16Max < s.logicalHeapPressureQ16
      ∨ brainAtpQ16Max < s.brainAtpFractionQ16
      ∨ s.completedGpuTimeBucket
          ≠ (thresholdBucket s.completedGpuTimeNs policy.gpuTimeThresholdNs).toUInt16
      ∨ s.queueDepthBucket ≠ thresholdBucket s.queueDepth policy.queueDepthThresholds
      ∨ s.neuralHeapPressureBucket
          ≠ thresholdBucket s.logicalHeapPressureQ16 policy.logicalHeapPressureThresholdsQ16
      ∨ s.brainAtpBucket
          ≠ descendingAtpBucket s.brainAtpFractionQ16 policy.atpRemainingThresholdsQ16Desc
      ∨ ¬(s.sourceDispatchGeneration < s.dispatchGeneration
          ∧ (s.sourceDispatchGeneration = 0 ↔ s.sourceFrameDigest = .zero))
      ∨ s.sampleDigest = .zero ∨ s.sampleDigest ≠ s.recomputeDigest)
    .brainActivitySequenceMismatch

/-- The fields of a new sample, before its digest is set. -/
def fields (policy : BrainActivityPolicyV1) (input : GpuPressureSampleInput)
    (logicalHeapPressureQ16 brainAtpFractionQ16 : UInt32) : GpuPressureSample where
  schemaVersion := policy.schemaVersion
  policyVersion := policy.policyVersion
  organismIdRaw := input.identity.organismIdRaw
  tick := input.identity.tick
  classIdRaw := input.identity.classIdRaw
  handleSlot := input.identity.handleSlot
  handleGeneration := input.identity.handleGeneration
  sequenceCursor := input.identity.sequenceCursor
  sourceDispatchGeneration := input.sourceDispatchGeneration
  sourceFrameDigest := input.sourceFrameDigest
  completedGpuTimeNs := input.completedGpuTimeNs
  queueDepth := input.queueDepth
  logicalHeapPressureQ16 := logicalHeapPressureQ16
  brainAtpFractionQ16 := brainAtpFractionQ16
  completedGpuTimeBucket :=
    (thresholdBucket input.completedGpuTimeNs policy.gpuTimeThresholdNs).toUInt16
  queueDepthBucket := thresholdBucket input.queueDepth policy.queueDepthThresholds
  neuralHeapPressureBucket :=
    thresholdBucket logicalHeapPressureQ16 policy.logicalHeapPressureThresholdsQ16
  brainAtpBucket := descendingAtpBucket brainAtpFractionQ16 policy.atpRemainingThresholdsQ16Desc
  sampleDigest := .zero
  dispatchGeneration := input.identity.dispatchGeneration
  frameDigest := input.identity.frameDigest

/-- A new sample with its digest. -/
def sealed (policy : BrainActivityPolicyV1) (input : GpuPressureSampleInput)
    (logicalHeapPressureQ16 brainAtpFractionQ16 : UInt32) : GpuPressureSample :=
  let sample := fields policy input logicalHeapPressureQ16 brainAtpFractionQ16
  { sample with sampleDigest := sample.recomputeDigest }

def tryNew (policy : BrainActivityPolicyV1) (input : GpuPressureSampleInput) :
    Contract GpuPressureSample := do
  policy.validateContract
  input.identity.validateContract
  failIf (input.logicalHeapCapacity = 0 ∨ input.brainAtpCapacityQ16 = 0
      ∨ input.logicalHeapCapacity < input.logicalHeapUsed
      ∨ input.brainAtpCapacityQ16 < input.brainAtpRemainingQ16
      ∨ input.identity.dispatchGeneration ≤ input.sourceDispatchGeneration
      ∨ ¬(input.sourceDispatchGeneration = 0 ↔ input.sourceFrameDigest = .zero))
    .brainActivitySequenceMismatch
  let logicalHeapPressureQ16 ← q16Fraction input.logicalHeapUsed input.logicalHeapCapacity
  let brainAtpFractionQ16 ←
    q16Fraction input.brainAtpRemainingQ16.toUInt64 input.brainAtpCapacityQ16.toUInt64
  let sample := sealed policy input logicalHeapPressureQ16 brainAtpFractionQ16
  sample.validateFor policy
  .ok sample

/-- **What a new sample is.** -/
theorem tryNew_eq_ok {policy : BrainActivityPolicyV1} {input : GpuPressureSampleInput}
    {s : GpuPressureSample} (h : tryNew policy input = .ok s) :
    policy = .productionV1 ∧ s.validateFor policy = .ok () ∧ ∃ heap atp,
      q16Fraction input.logicalHeapUsed input.logicalHeapCapacity = .ok heap ∧
      q16Fraction input.brainAtpRemainingQ16.toUInt64 input.brainAtpCapacityQ16.toUInt64 = .ok atp ∧
      s = sealed policy input heap atp := by
  unfold tryNew at h
  obtain ⟨hpolicy, h⟩ := except_seq_eq_ok_iff.1 h
  obtain ⟨-, h⟩ := except_seq_eq_ok_iff.1 h
  obtain ⟨-, h⟩ := except_seq_eq_ok_iff.1 h
  obtain ⟨heap, hheap, h⟩ := except_bind_eq_ok_iff.1 h
  obtain ⟨atp, hatp, h⟩ := except_bind_eq_ok_iff.1 h
  obtain ⟨hvalid, h⟩ := except_seq_eq_ok_iff.1 h
  obtain rfl := Except.ok.inj h
  exact ⟨BrainActivityPolicyV1.validateContract_eq_ok_iff.1 hpolicy, hvalid, heap, atp, hheap,
    hatp, rfl⟩

/-- A sample that is put together from valid parts is valid. -/
theorem validateFor_sealed {input : GpuPressureSampleInput} {heap atp : UInt32}
    (hidentity : input.identity.validateContract = .ok ())
    (hsource : input.sourceDispatchGeneration < input.identity.dispatchGeneration ∧
      (input.sourceDispatchGeneration = 0 ↔ input.sourceFrameDigest = .zero))
    (hheap : heap ≤ brainAtpQ16Max) (hatp : atp ≤ brainAtpQ16Max) :
    (sealed .productionV1 input heap atp).validateFor .productionV1 = .ok () := by
  unfold validateFor
  rw [except_seq_eq_ok_iff, BrainActivityPolicyV1.validateContract_eq_ok_iff,
    except_seq_eq_ok_iff, failIf_eq_ok_iff]
  simp only [not_or, not_not, UInt32.not_lt]
  exact ⟨trivial, hidentity, rfl, rfl, hheap, hatp, rfl, rfl, rfl, rfl, hsource,
    recomputeDigest_ne_zero _, (recomputeDigest_withDigest _ _).symm⟩

/-- A measurement whose fractions are defined gives a sample. -/
theorem tryNew_eq_sealed {input : GpuPressureSampleInput} {heap atp : UInt32}
    (hidentity : input.identity.validateContract = .ok ())
    (hsource : input.sourceDispatchGeneration < input.identity.dispatchGeneration ∧
      (input.sourceDispatchGeneration = 0 ↔ input.sourceFrameDigest = .zero))
    (hheap : q16Fraction input.logicalHeapUsed input.logicalHeapCapacity = .ok heap)
    (hatp : q16Fraction input.brainAtpRemainingQ16.toUInt64 input.brainAtpCapacityQ16.toUInt64
      = .ok atp) :
    tryNew .productionV1 input = .ok (sealed .productionV1 input heap atp) := by
  obtain ⟨hheap0, hheapLe, hheapEq⟩ := q16Fraction_eq_ok_iff.1 hheap
  obtain ⟨hatp0, hatpLe, hatpEq⟩ := q16Fraction_eq_ok_iff.1 hatp
  have hscale : ∀ {v : UInt32} {n : ℕ}, v.toNat = min n 65535 → v ≤ brainAtpQ16Max :=
    fun h => UInt32.le_iff_toNat_le.2 (h ▸ min_le_right _ _)
  unfold tryNew
  rw [except_seq_eq_ok_iff, BrainActivityPolicyV1.validateContract_eq_ok_iff, except_seq_eq_ok_iff,
    except_seq_eq_ok_iff, except_bind_eq_ok_iff]
  refine ⟨rfl, hidentity, ?_, heap, hheap, except_bind_eq_ok_iff.2 ⟨atp, hatp,
    except_seq_eq_ok_iff.2 ⟨validateFor_sealed hidentity hsource (hscale hheapEq) (hscale hatpEq),
      rfl⟩⟩⟩
  rw [failIf_eq_ok_iff]
  simp only [not_or, not_not, UInt64.not_lt, UInt32.not_lt, UInt64.not_le]
  refine ⟨hheap0, fun h => hatp0 (by rw [h]; rfl), hheapLe, ?_, hsource.1, hsource.2⟩
  rw [UInt64.le_iff_toNat_le, UInt32.toNat_toUInt64, UInt32.toNat_toUInt64] at hatpLe
  exact UInt32.le_iff_toNat_le.2 hatpLe

/-- A sample carries the identity it was taken under. -/
theorem dispatchIdentity_of_tryNew {policy : BrainActivityPolicyV1}
    {input : GpuPressureSampleInput} {s : GpuPressureSample} (h : tryNew policy input = .ok s) :
    s.dispatchIdentity = input.identity := by
  obtain ⟨-, -, heap, atp, -, -, rfl⟩ := tryNew_eq_ok h
  rfl

theorem toNat_raw_throttleLevel (s : GpuPressureSample) :
    s.throttleLevel.raw.toNat = min s.worstBucket 2 := by
  unfold throttleLevel
  match s.worstBucket with
  | 0 => rfl
  | 1 => rfl
  | n + 2 =>
    change 2 = min (n + 2) 2
    omega

end GpuPressureSample

/-- Two measurements of one dispatch, the second with no less pressure in any respect;
heap and ATP are compared as exact fractions. -/
structure NoLessPressure (a b : GpuPressureSampleInput) : Prop where
  identity : a.identity = b.identity
  time : a.completedGpuTimeNs ≤ b.completedGpuTimeNs
  queue : a.queueDepth ≤ b.queueDepth
  heap : (a.logicalHeapUsed.toNat : ℚ) / a.logicalHeapCapacity.toNat
    ≤ (b.logicalHeapUsed.toNat : ℚ) / b.logicalHeapCapacity.toNat
  atp : (b.brainAtpRemainingQ16.toNat : ℚ) / b.brainAtpCapacityQ16.toNat
    ≤ (a.brainAtpRemainingQ16.toNat : ℚ) / a.brainAtpCapacityQ16.toNat

/-- **More pressure never lowers the throttle level.** -/
theorem NoLessPressure.throttleLevel_le {policy : BrainActivityPolicyV1}
    {a b : GpuPressureSampleInput} (h : NoLessPressure a b) {s t : GpuPressureSample}
    (hs : GpuPressureSample.tryNew policy a = .ok s)
    (ht : GpuPressureSample.tryNew policy b = .ok t) :
    s.throttleLevel.raw.toNat ≤ t.throttleLevel.raw.toNat := by
  obtain ⟨-, -, heap, atp, hheap, hatp, rfl⟩ := GpuPressureSample.tryNew_eq_ok hs
  obtain ⟨-, -, heap', atp', hheap', hatp', rfl⟩ := GpuPressureSample.tryNew_eq_ok ht
  have htime := thresholdBucket_mono (fun _ _ => UInt64.lt_iff_toNat_lt)
    (UInt64.le_iff_toNat_le.1 h.time) policy.gpuTimeThresholdNs
  have hqueue := thresholdBucket_mono (fun _ _ => UInt32.lt_iff_toNat_lt)
    (UInt32.le_iff_toNat_le.1 h.queue) policy.queueDepthThresholds
  have hheap := thresholdBucket_mono (fun _ _ => UInt32.lt_iff_toNat_lt)
    (q16Fraction_mono hheap hheap' h.heap) policy.logicalHeapPressureThresholdsQ16
  have hatp := descendingAtpBucket_anti
    (q16Fraction_mono hatp' hatp (by simpa only [UInt32.toNat_toUInt64] using h.atp))
    policy.atpRemainingThresholdsQ16Desc
  rw [GpuPressureSample.toNat_raw_throttleLevel, GpuPressureSample.toNat_raw_throttleLevel]
  refine min_le_min_right 2 ?_
  unfold GpuPressureSample.worstBucket GpuPressureSample.sealed GpuPressureSample.fields
  simp only [UInt8.toNat_toUInt16]
  exact max_le_max (max_le_max (max_le_max htime hqueue) hheap) hatp

end ALife
