/-
# The activity policy

`BrainWorkCounters`, `BrainAtpCostModel` and `BrainActivityPolicyV1`
(`crates/alife_core/src/activity.rs`).  A policy is valid only when it is the
production policy, digest included, so every valid call uses one price list:
the cost of a tick's work is a sum of products in `Q24`, and its ATP debit that
sum rounded half up to `Q16`.
-/

import ALife.Core.DigestMixing
import ALife.Machine.CheckedNat
import ALife.Machine.Checks
import ALife.Machine.Integers

namespace ALife

open Machine

/-- `BRAIN_ACTIVITY_SCHEMA_VERSION`. -/
def brainActivitySchemaVersion : UInt16 := 1

/-- `BRAIN_ACTIVITY_POLICY_VERSION`. -/
def brainActivityPolicyVersion : UInt16 := 1

/-- `BRAIN_ATP_Q16_MAX`. -/
def brainAtpQ16Max : UInt32 := 65535

structure BrainWorkCounters where
  microsteps : UInt32
  neuronUpdates : UInt64
  tileVisits : UInt64
  synapseOps : UInt64
  decoderCandidateOps : UInt64
  memoryContextOps : UInt64
  deriving DecidableEq, Repr

structure BrainAtpCostModel where
  schemaVersion : UInt16
  qFractionBits : UInt8
  roundingModeRaw : UInt8
  neuronUpdateQ24 : UInt64
  tileVisitQ24 : UInt64
  synapseOpQ24 : UInt64
  decoderCandidateOpQ24 : UInt64
  memoryContextOpQ24 : UInt64
  deriving DecidableEq, Repr

namespace BrainAtpCostModel

def productionV1 : BrainAtpCostModel where
  schemaVersion := brainActivitySchemaVersion
  qFractionBits := 24
  roundingModeRaw := 1
  neuronUpdateQ24 := 32
  tileVisitQ24 := 256
  synapseOpQ24 := 4
  decoderCandidateOpQ24 := 128
  memoryContextOpQ24 := 64

def validateContract (m : BrainAtpCostModel) : Contract Unit :=
  failIf (m ≠ productionV1) .brainActivityPolicyMismatch

/-- The counters with their rates, in the order of the sum. -/
def terms (m : BrainAtpCostModel) (c : BrainWorkCounters) : List (UInt64 × UInt64) :=
  [(c.neuronUpdates, m.neuronUpdateQ24), (c.tileVisits, m.tileVisitQ24),
    (c.synapseOps, m.synapseOpQ24), (c.decoderCandidateOps, m.decoderCandidateOpQ24),
    (c.memoryContextOps, m.memoryContextOpQ24)]

/-- `neural_cost_q24`: a checked `u128` sum, narrowed to `u64`. -/
def neuralCostQ24 (m : BrainAtpCostModel) (c : BrainWorkCounters) : Contract UInt64 := do
  m.validateContract
  let total := (m.terms c).foldlM (fun sum term =>
    (checkedMul 128 term.1.toNat term.2.toNat).bind fun product => checkedAdd 128 sum product) 0
  getOr (total.bind tryFrom64) .brainActivityPolicyMismatch

/-- `q24_to_atp_q16_round_half_up`. -/
def q24ToAtpQ16RoundHalfUp (m : BrainAtpCostModel) (costQ24 : UInt64) : Contract UInt32 := do
  m.validateContract
  let rounded ← getOr (checkedAdd64 costQ24 0x80) .brainActivityPolicyMismatch
  getOr (tryFrom32 (rounded >>> 8).toNat) .brainActivityPolicyMismatch

@[simp] theorem validateContract_eq_ok_iff {m : BrainAtpCostModel} {u : Unit} :
    m.validateContract = .ok u ↔ m = productionV1 := by
  rw [validateContract, failIf_eq_ok_iff, not_not]

end BrainAtpCostModel

/-- The price of the work, in units of `2 ^ -24`. -/
def BrainWorkCounters.costQ24 (c : BrainWorkCounters) : ℕ :=
  32 * c.neuronUpdates.toNat + 256 * c.tileVisits.toNat + 4 * c.synapseOps.toNat
    + 128 * c.decoderCandidateOps.toNat + 64 * c.memoryContextOps.toNat

/-- The same as an exact number. -/
def BrainWorkCounters.cost (c : BrainWorkCounters) : ℚ := c.costQ24 / 2 ^ 24

namespace BrainAtpCostModel

/-- A checked sum that stays below the width is the sum. -/
theorem foldlM_checked_eq_some {w : ℕ} {terms : List (UInt64 × UInt64)} {start : ℕ}
    (h : start + (terms.map fun term => term.1.toNat * term.2.toNat).sum < 2 ^ w) :
    terms.foldlM (fun sum term =>
        (checkedMul w term.1.toNat term.2.toNat).bind fun product => checkedAdd w sum product)
      start = some (start + (terms.map fun term => term.1.toNat * term.2.toNat).sum) := by
  induction terms generalizing start with
  | nil => rfl
  | cons term terms ih =>
    rw [List.map_cons, List.sum_cons] at h ⊢
    have hproduct : checkedMul w term.1.toNat term.2.toNat = some (term.1.toNat * term.2.toNat) :=
      checkedMul_eq_some_iff.2 ⟨rfl, by omega⟩
    have hsum : checkedAdd w start (term.1.toNat * term.2.toNat)
        = some (start + term.1.toNat * term.2.toNat) :=
      checkedAdd_eq_some_iff.2 ⟨rfl, by omega⟩
    rw [List.foldlM_cons, hproduct, Option.bind_some, hsum, ← add_assoc]
    exact ih (by omega)

/-- **The cost is the exact sum**, whenever it is one. -/
theorem neuralCostQ24_eq_ok_iff {m : BrainAtpCostModel} {c : BrainWorkCounters} {v : UInt64} :
    m.neuralCostQ24 c = .ok v ↔ m = productionV1 ∧ v.toNat = c.costQ24 := by
  unfold neuralCostQ24
  rw [except_seq_eq_ok_iff, validateContract_eq_ok_iff]
  refine and_congr_right ?_
  rintro rfl
  have hsum : ((productionV1.terms c).map fun term => term.1.toNat * term.2.toNat).sum
      = c.costQ24 := by
    have hrates : productionV1.terms c = [(c.neuronUpdates, 32), (c.tileVisits, 256),
      (c.synapseOps, 4), (c.decoderCandidateOps, 128), (c.memoryContextOps, 64)] := rfl
    rw [hrates]
    simp [BrainWorkCounters.costQ24]
    omega
  have hfits : c.costQ24 < 2 ^ 128 := by
    have h₁ := c.neuronUpdates.toNat_lt
    have h₂ := c.tileVisits.toNat_lt
    have h₃ := c.synapseOps.toNat_lt
    have h₄ := c.decoderCandidateOps.toNat_lt
    have h₅ := c.memoryContextOps.toNat_lt
    unfold BrainWorkCounters.costQ24
    omega
  rw [foldlM_checked_eq_some (by rwa [zero_add, hsum]), zero_add, hsum]
  exact getOr_eq_ok_iff.trans tryFrom64_eq_some_iff

/-- **The debit is the cost rounded half up**, whenever it fits. -/
theorem q24ToAtpQ16RoundHalfUp_eq_ok_iff {m : BrainAtpCostModel} {costQ24 : UInt64} {v : UInt32} :
    m.q24ToAtpQ16RoundHalfUp costQ24 = .ok v ↔
      m = productionV1 ∧ v.toNat = (costQ24.toNat + 128) / 256 := by
  unfold q24ToAtpQ16RoundHalfUp
  rw [except_seq_eq_ok_iff, validateContract_eq_ok_iff, except_bind_eq_ok_iff]
  refine and_congr_right fun _ => ?_
  have hv := v.toNat_lt
  constructor
  · rintro ⟨rounded, hrounded, hnarrow⟩
    rw [getOr_eq_ok_iff, checkedAdd64_eq_some_iff] at hrounded
    rw [getOr_eq_ok_iff, tryFrom32_eq_some_iff, UInt64.toNat_shiftRight, hrounded] at hnarrow
    rw [hnarrow, Nat.shiftRight_eq_div_pow]
    rfl
  · intro h
    have hfits : costQ24.toNat + (0x80 : UInt64).toNat < 2 ^ 64 := by
      change costQ24.toNat + 128 < 2 ^ 64
      omega
    refine ⟨costQ24 + 0x80, ?_, ?_⟩
    · rw [getOr_eq_ok_iff, checkedAdd64_eq_some_iff, toNat_add_of_lt64 hfits]
    · rw [getOr_eq_ok_iff, tryFrom32_eq_some_iff, UInt64.toNat_shiftRight, toNat_add_of_lt64 hfits,
        Nat.shiftRight_eq_div_pow, h]
      rfl

end BrainAtpCostModel

/-- Three thresholds, `[T; 3]`. -/
structure Thresholds (α : Type) where
  t0 : α
  t1 : α
  t2 : α
  deriving DecidableEq, Repr

structure BrainActivityPolicyV1 where
  schemaVersion : UInt16
  policyVersion : UInt16
  cost : BrainAtpCostModel
  gpuTimeThresholdNs : Thresholds UInt64
  queueDepthThresholds : Thresholds UInt32
  logicalHeapPressureThresholdsQ16 : Thresholds UInt32
  atpRemainingThresholdsQ16Desc : Thresholds UInt32
  policyDigest : Digest256
  deriving DecidableEq, Repr

namespace BrainActivityPolicyV1

def recomputeDigest (p : BrainActivityPolicyV1) : Digest256 :=
  (CanonicalDigestBuilder.new (asciiBytes "alife.brain.activity.policy.v1"))
    |>.writeU16 p.schemaVersion |>.writeU16 p.policyVersion
    |>.writeU16 p.cost.schemaVersion |>.writeU8 p.cost.qFractionBits
    |>.writeU8 p.cost.roundingModeRaw |>.writeU64 p.cost.neuronUpdateQ24
    |>.writeU64 p.cost.tileVisitQ24 |>.writeU64 p.cost.synapseOpQ24
    |>.writeU64 p.cost.decoderCandidateOpQ24 |>.writeU64 p.cost.memoryContextOpQ24
    |>.writeU64 p.gpuTimeThresholdNs.t0 |>.writeU64 p.gpuTimeThresholdNs.t1
    |>.writeU64 p.gpuTimeThresholdNs.t2 |>.writeU32 p.queueDepthThresholds.t0
    |>.writeU32 p.queueDepthThresholds.t1 |>.writeU32 p.queueDepthThresholds.t2
    |>.writeU32 p.logicalHeapPressureThresholdsQ16.t0
    |>.writeU32 p.logicalHeapPressureThresholdsQ16.t1
    |>.writeU32 p.logicalHeapPressureThresholdsQ16.t2
    |>.writeU32 p.atpRemainingThresholdsQ16Desc.t0
    |>.writeU32 p.atpRemainingThresholdsQ16Desc.t1
    |>.writeU32 p.atpRemainingThresholdsQ16Desc.t2
    |>.finish256

/-- The production policy before its digest is set. -/
def productionFields : BrainActivityPolicyV1 where
  schemaVersion := brainActivitySchemaVersion
  policyVersion := brainActivityPolicyVersion
  cost := .productionV1
  gpuTimeThresholdNs := ⟨2000000, 4000000, 8000000⟩
  queueDepthThresholds := ⟨1, 2, 4⟩
  logicalHeapPressureThresholdsQ16 := ⟨32768, 49152, 58982⟩
  atpRemainingThresholdsQ16Desc := ⟨49152, 32768, 16384⟩
  policyDigest := .zero

def productionV1 : BrainActivityPolicyV1 :=
  { productionFields with policyDigest := productionFields.recomputeDigest }

def validateContract (p : BrainActivityPolicyV1) : Contract Unit := do
  p.cost.validateContract
  failIf (p.schemaVersion ≠ brainActivitySchemaVersion
      ∨ p.policyVersion ≠ brainActivityPolicyVersion
      ∨ p.gpuTimeThresholdNs ≠ productionV1.gpuTimeThresholdNs
      ∨ p.queueDepthThresholds ≠ productionV1.queueDepthThresholds
      ∨ p.logicalHeapPressureThresholdsQ16 ≠ productionV1.logicalHeapPressureThresholdsQ16
      ∨ p.atpRemainingThresholdsQ16Desc ≠ productionV1.atpRemainingThresholdsQ16Desc
      ∨ p.policyDigest = .zero ∨ p.policyDigest ≠ p.recomputeDigest)
    .brainActivityPolicyMismatch

/-- **The production policy is the one valid policy.** -/
@[simp] theorem validateContract_eq_ok_iff {p : BrainActivityPolicyV1} {u : Unit} :
    p.validateContract = .ok u ↔ p = productionV1 := by
  unfold validateContract
  rw [except_seq_eq_ok_iff, BrainAtpCostModel.validateContract_eq_ok_iff, failIf_eq_ok_iff]
  simp only [not_or, not_not]
  constructor
  · rintro ⟨hcost, hschema, hversion, htime, hqueue, hheap, hatp, -, hdigest⟩
    obtain ⟨_, _, _, _, _, _, _, digest⟩ := p
    cases hcost
    cases hschema
    cases hversion
    cases htime
    cases hqueue
    cases hheap
    cases hatp
    -- the digest is not among the fields it is computed from
    have : digest = productionFields.recomputeDigest := hdigest
    rw [this]
    rfl
  · rintro rfl
    exact ⟨rfl, rfl, rfl, rfl, rfl, rfl, rfl, CanonicalDigestBuilder.finish256_ne_zero _, rfl⟩

end BrainActivityPolicyV1

end ALife
