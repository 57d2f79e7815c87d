/-
# Cognitive work receipts

`crates/alife_core/src/cognitive_work.rs`: the operations that a tick's cognition took, with
their checked total and the canonical digest of the receipt.  The counters are `u64`, of
which the contract admits the numbers up to `MAX_COGNITIVE_WORK_COUNTER`.
-/

import ALife.Cognition.Writes
import ALife.Machine.Checks

namespace ALife

open Machine

/-- `COGNITIVE_WORK_SCHEMA_VERSION`. -/
def cognitiveWorkSchemaVersion : ℕ := 1

/-- `COGNITIVE_WORK_POLICY_VERSION`. -/
def cognitiveWorkPolicyVersion : ℕ := 1

/-- `MAX_COGNITIVE_WORK_COUNTER`. -/
def maxCognitiveWorkCounter : ℕ := 1000000000

/-- `CognitiveWorkCounters`. -/
structure CognitiveWorkCounters where
  neuralUpdates : ℕ
  synapsesEvaluated : ℕ
  dendriticOps : ℕ
  focalTargetOps : ℕ
  memoryOps : ℕ
  conceptOps : ℕ
  gapOps : ℕ
  predictionOps : ℕ
  replayOps : ℕ
  structuralOps : ℕ
  learningOps : ℕ
  sleepOps : ℕ
  deriving DecidableEq, Repr

/-- `CognitiveWorkCounters::values`. -/
def CognitiveWorkCounters.values (c : CognitiveWorkCounters) : List ℕ :=
  [c.neuralUpdates, c.synapsesEvaluated, c.dendriticOps, c.focalTargetOps, c.memoryOps,
    c.conceptOps, c.gapOps, c.predictionOps, c.replayOps, c.structuralOps, c.learningOps,
    c.sleepOps]

/-- `CognitiveWorkReceipt`: the schema, the counters, their total and the policy. -/
structure CognitiveWorkReceipt where
  schemaVersion : ℕ
  counters : CognitiveWorkCounters
  weightedTotal : ℕ
  policyVersion : ℕ
  deriving DecidableEq, Repr

/-- `CognitiveWorkReceipt::zero`. -/
def CognitiveWorkReceipt.zero : CognitiveWorkReceipt :=
  ⟨1, ⟨0, 0, 0, 0, 0, 0, 0, 0, 0, 0, 0, 0⟩, 0, 1⟩

/-- `validate_counter_bounds`. -/
def CognitiveWorkCounters.validateCounterBounds (c : CognitiveWorkCounters) : Contract Unit :=
  failIf (∃ value ∈ c.values, maxCognitiveWorkCounter < value) .scalarOutOfRange

/-- `recompute_total`, a checked sum of `u64`. -/
def CognitiveWorkCounters.recomputeTotal (c : CognitiveWorkCounters) : Contract ℕ :=
  c.values.foldlM (fun total value => do
    failIf (2 ^ 64 ≤ total + value) .scalarOutOfRange
    .ok (total + value)) 0

/-- `CognitiveWorkReceipt::aggregate`. -/
def CognitiveWorkReceipt.aggregate (c : CognitiveWorkCounters) : Contract CognitiveWorkReceipt := do
  c.validateCounterBounds
  let total ← c.recomputeTotal
  .ok ⟨1, c, total, 1⟩

namespace CognitiveWorkReceipt

variable {R D : Type}

/-- `validate_contract`. -/
def validateContract (r : CognitiveWorkReceipt) : Contract Unit := do
  failIf (r.schemaVersion ≠ cognitiveWorkSchemaVersion
    ∨ r.policyVersion ≠ cognitiveWorkPolicyVersion)
    (.incompatibleAbi .experience cognitiveWorkSchemaVersion.toUInt16 r.schemaVersion.toUInt16)
  r.counters.validateCounterBounds
  let total ← r.counters.recomputeTotal
  failIf (r.weightedTotal ≠ total) .invalidDecisionEvidence

/-- What the digest of a receipt writes. -/
def writes (r : CognitiveWorkReceipt) : List (Write R D) :=
  [.u16 r.schemaVersion.toUInt16] ++ (r.counters.values.map fun value => .u64 value.toUInt64)
    ++ [.u64 r.weightedTotal.toUInt64, .u16 r.policyVersion.toUInt16]

/-- The counters of a valid receipt decide the rest of it. -/
theorem eq_of_validateContract {r r' : CognitiveWorkReceipt} (h : r.validateContract = .ok ())
    (h' : r'.validateContract = .ok ()) (hcounters : r.counters = r'.counters) : r = r' := by
  unfold validateContract at h h'
  obtain ⟨hversions, h⟩ := contract_check_eq_ok_iff.1 h
  obtain ⟨-, h⟩ := contract_check_eq_ok_iff.1 h
  obtain ⟨total, htotal, h⟩ := contract_bind_eq_ok_iff.1 h
  obtain ⟨hversions', h'⟩ := contract_check_eq_ok_iff.1 h'
  obtain ⟨-, h'⟩ := contract_check_eq_ok_iff.1 h'
  obtain ⟨total', htotal', h'⟩ := contract_bind_eq_ok_iff.1 h'
  rw [hcounters, htotal'] at htotal
  obtain rfl := Except.ok.inj htotal
  rw [failIf_eq_ok_iff, not_not] at h h'
  rw [failIf_eq_ok_iff, not_or, not_not, not_not] at hversions hversions'
  cases r
  cases r'
  simp_all

theorem le_of_validateContract {r : CognitiveWorkReceipt} (h : r.validateContract = .ok ()) :
    ∀ value ∈ r.counters.values, value ≤ maxCognitiveWorkCounter := by
  unfold validateContract at h
  have hbounds := (contract_check_eq_ok_iff.1 (contract_check_eq_ok_iff.1 h).2).1
  unfold CognitiveWorkCounters.validateCounterBounds at hbounds
  rw [failIf_eq_ok_iff] at hbounds
  push Not at hbounds
  exact hbounds

theorem map_toNat_map_toUInt64 {l : List ℕ} (h : ∀ value ∈ l, value ≤ maxCognitiveWorkCounter) :
    (l.map Nat.toUInt64).map UInt64.toNat = l := by
  rw [List.map_map]
  refine (List.map_congr_left fun value hvalue => ?_).trans (List.map_id l)
  have hle := h value hvalue
  unfold maxCognitiveWorkCounter at hle
  exact UInt64.toNat_ofNat_of_lt' (hle.trans_lt (by decide))

/-- Valid receipts that are written alike are equal. -/
theorem eq_of_writes {r r' : CognitiveWorkReceipt} (h : r.validateContract = .ok ())
    (h' : r'.validateContract = .ok ())
    (hwrites : (r.writes : List (Write R D)) = r'.writes) : r = r' := by
  refine eq_of_validateContract h h' ?_
  have hmap : r.counters.values.map Nat.toUInt64 = r'.counters.values.map Nat.toUInt64 := by
    simp only [writes, List.cons_append, List.nil_append, List.cons.injEq] at hwrites
    have hcounters := (List.append_inj hwrites.2 rfl).1
    exact List.map_injective_iff.2 (fun a b h => Write.u64.inj h)
      (by rw [List.map_map, List.map_map]; exact hcounters)
  have hvalues : r.counters.values = r'.counters.values := by
    rw [← map_toNat_map_toUInt64 (le_of_validateContract h), hmap,
      map_toNat_map_toUInt64 (le_of_validateContract h')]
  rcases hc : r.counters
  rcases hc' : r'.counters
  simpa [CognitiveWorkCounters.values, hc, hc'] using hvalues

/-- `canonical_digest`. -/
def canonicalDigest [FloatValue R] (finish : String → List (Write R D) → D)
    (r : CognitiveWorkReceipt) : Contract D := do
  r.validateContract
  finish256 finish "ALIFE-V11-COGNITIVE-WORK" r.writes

/-- **The digest of a work receipt** binds every field of it. -/
theorem eq_of_canonicalDigest [FloatValue R] {finish : String → List (Write R D) → D}
    (hfinish : Function.Injective2 finish) {a b : CognitiveWorkReceipt} {digest : D}
    (ha : a.canonicalDigest finish = .ok digest) (hb : b.canonicalDigest finish = .ok digest) :
    a = b := by
  obtain ⟨hvalid, ha⟩ := contract_check_eq_ok_iff.1 ha
  obtain ⟨hvalid', hb⟩ := contract_check_eq_ok_iff.1 hb
  exact eq_of_writes hvalid hvalid' (writes_of_finish256 hfinish ha hb)

end CognitiveWorkReceipt

end ALife
