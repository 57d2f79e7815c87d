/-
# Work receipts

`BrainWorkReceipt` (`crates/alife_core/src/activity.rs`).  `try_new` issues the
receipt of a tick's work, `validate_for` accepts one that was stored.  A receipt
tallies with a decision (`Tallies`) when its identity is that of the decision and
its cost, its debit and what is left are the ones the arithmetic gives;
accepting asks for no more than that, issuing also for an ATP level that the
`Q16` scale has.
-/

import ALife.Activity.Throttle

namespace ALife

open Machine

namespace Activity

structure BrainWorkReceipt where
  schemaVersion : UInt16
  classIdRaw : UInt16
  organismIdRaw : UInt64
  tick : UInt64
  handleSlot : UInt32
  handleGeneration : UInt32
  dispatchGeneration : UInt64
  frameDigest : Digest256
  sequenceCursor : UInt64
  counters : BrainWorkCounters
  routeScheduleDigest : Digest256
  neuralCostQ24 : UInt64
  atpBeforeQ16 : UInt32
  atpDebitQ16 : UInt32
  atpAfterQ16 : UInt32
  receiptDigest : Digest256
  deriving DecidableEq, Repr

open NeuralThrottleDecision (motorPhenotype firstDispatch measured)

namespace BrainWorkReceipt

def recomputeDigest (r : BrainWorkReceipt) : Digest256 :=
  (CanonicalDigestBuilder.new (asciiBytes "alife.brain.activity.work_receipt.v1"))
    |>.writeU16 r.schemaVersion |>.writeU16 r.classIdRaw |>.writeU64 r.organismIdRaw
    |>.writeU64 r.tick |>.writeU32 r.handleSlot |>.writeU32 r.handleGeneration
    |>.writeU64 r.dispatchGeneration |>.writeDigest r.frameDigest |>.writeU64 r.sequenceCursor
    |>.writeU32 r.counters.microsteps |>.writeU64 r.counters.neuronUpdates
    |>.writeU64 r.counters.tileVisits |>.writeU64 r.counters.synapseOps
    |>.writeU64 r.counters.decoderCandidateOps |>.writeU64 r.counters.memoryContextOps
    |>.writeDigest r.routeScheduleDigest |>.writeU64 r.neuralCostQ24 |>.writeU32 r.atpBeforeQ16
    |>.writeU32 r.atpDebitQ16 |>.writeU32 r.atpAfterQ16
    |>.finish256

theorem recomputeDigest_ne_zero (r : BrainWorkReceipt) : r.recomputeDigest ≠ .zero :=
  CanonicalDigestBuilder.finish256_ne_zero _

/-- The digest does not cover its own field. -/
theorem recomputeDigest_withDigest (r : BrainWorkReceipt) (digest : Digest256) :
    { r with receiptDigest := digest }.recomputeDigest = r.recomputeDigest := rfl

def validateFor (r : BrainWorkReceipt) (policy : BrainActivityPolicyV1)
    (decision : NeuralThrottleDecision) : Contract Unit := do
  policy.validateContract
  let expectedCost ← policy.cost.neuralCostQ24 r.counters
  let expectedDebit ← policy.cost.q24ToAtpQ16RoundHalfUp expectedCost
  let expectedAfter := checkedSub32 r.atpBeforeQ16 expectedDebit
  failIf (r.schemaVersion ≠ policy.schemaVersion
      ∨ r.classIdRaw ≠ decision.classIdRaw
      ∨ r.organismIdRaw ≠ decision.organismIdRaw
      ∨ r.tick ≠ decision.tick
      ∨ r.handleSlot ≠ decision.handleSlot
      ∨ r.handleGeneration ≠ decision.handleGeneration
      ∨ r.dispatchGeneration ≠ decision.dispatchGeneration
      ∨ r.frameDigest ≠ decision.frameDigest
      ∨ r.sequenceCursor ≠ decision.sequenceCursor
      ∨ r.counters.microsteps ≠ decision.microsteps.toUInt32
      ∨ r.routeScheduleDigest ≠ decision.routeScheduleDigest
      ∨ r.neuralCostQ24 ≠ expectedCost
      ∨ r.atpDebitQ16 ≠ expectedDebit
      ∨ expectedAfter ≠ some r.atpAfterQ16
      ∨ r.receiptDigest = .zero ∨ r.receiptDigest ≠ r.recomputeDigest)
    .brainActivitySequenceMismatch

/-- The fields of a new receipt, before its digest is set. -/
def fields (policy : BrainActivityPolicyV1) (decision : NeuralThrottleDecision)
    (counters : BrainWorkCounters) (atpBeforeQ16 : UInt32) (neuralCostQ24 : UInt64)
    (atpDebitQ16 atpAfterQ16 : UInt32) : BrainWorkReceipt where
  schemaVersion := policy.schemaVersion
  classIdRaw := decision.classIdRaw
  organismIdRaw := decision.organismIdRaw
  tick := decision.tick
  handleSlot := decision.handleSlot
  handleGeneration := decision.handleGeneration
  dispatchGeneration := decision.dispatchGeneration
  frameDigest := decision.frameDigest
  sequenceCursor := decision.sequenceCursor
  counters := counters
  routeScheduleDigest := decision.routeScheduleDigest
  neuralCostQ24 := neuralCostQ24
  atpBeforeQ16 := atpBeforeQ16
  atpDebitQ16 := atpDebitQ16
  atpAfterQ16 := atpAfterQ16
  receiptDigest := .zero

/-- The receipt with its digest. -/
def sealed (r : BrainWorkReceipt) : BrainWorkReceipt :=
  { r with receiptDigest := r.recomputeDigest }

def tryNew (policy : BrainActivityPolicyV1) (decision : NeuralThrottleDecision)
    (counters : BrainWorkCounters) (atpBeforeQ16 : UInt32) : Contract BrainWorkReceipt := do
  policy.validateContract
  failIf (counters.microsteps ≠ decision.microsteps.toUInt32 ∨ brainAtpQ16Max < atpBeforeQ16)
    .brainActivitySequenceMismatch
  let neuralCostQ24 ← policy.cost.neuralCostQ24 counters
  let atpDebitQ16 ← policy.cost.q24ToAtpQ16RoundHalfUp neuralCostQ24
  let atpAfterQ16 ← getOr (checkedSub32 atpBeforeQ16 atpDebitQ16) .brainAtpExhausted
  let receipt := (fields policy decision counters atpBeforeQ16 neuralCostQ24 atpDebitQ16
    atpAfterQ16).sealed
  receipt.validateFor policy decision
  .ok receipt

/-- The receipt is that of the decision and its amounts are right. -/
structure Tallies (policy : BrainActivityPolicyV1) (decision : NeuralThrottleDecision)
    (r : BrainWorkReceipt) : Prop where
  policy_eq : policy = .productionV1
  fields_eq : r = (fields policy decision r.counters r.atpBeforeQ16 r.neuralCostQ24 r.atpDebitQ16
    r.atpAfterQ16).sealed
  microsteps : r.counters.microsteps = decision.microsteps.toUInt32
  cost : r.neuralCostQ24.toNat = r.counters.costQ24
  debit : r.atpDebitQ16.toNat = (r.counters.costQ24 + 128) / 256
  balance : r.atpDebitQ16.toNat + r.atpAfterQ16.toNat = r.atpBeforeQ16.toNat

variable {policy : BrainActivityPolicyV1} {decision : NeuralThrottleDecision}
  {r : BrainWorkReceipt}

theorem eq_sealed_iff : r = (fields policy decision r.counters r.atpBeforeQ16 r.neuralCostQ24
      r.atpDebitQ16 r.atpAfterQ16).sealed ↔
    r.schemaVersion = policy.schemaVersion ∧ r.classIdRaw = decision.classIdRaw ∧
    r.organismIdRaw = decision.organismIdRaw ∧ r.tick = decision.tick ∧
    r.handleSlot = decision.handleSlot ∧ r.handleGeneration = decision.handleGeneration ∧
    r.dispatchGeneration = decision.dispatchGeneration ∧ r.frameDigest = decision.frameDigest ∧
    r.sequenceCursor = decision.sequenceCursor ∧
    r.routeScheduleDigest = decision.routeScheduleDigest ∧
    r.receiptDigest = r.recomputeDigest := by
  constructor
  · intro h
    have hdigest : r.receiptDigest = (fields policy decision r.counters r.atpBeforeQ16
        r.neuralCostQ24 r.atpDebitQ16 r.atpAfterQ16).recomputeDigest :=
      congrArg receiptDigest h
    refine ⟨congrArg schemaVersion h, congrArg classIdRaw h, congrArg organismIdRaw h,
      congrArg tick h, congrArg handleSlot h, congrArg handleGeneration h,
      congrArg dispatchGeneration h, congrArg frameDigest h, congrArg sequenceCursor h,
      congrArg routeScheduleDigest h, ?_⟩
    rw [hdigest, ← recomputeDigest_withDigest _ (recomputeDigest _)]
    exact congrArg recomputeDigest h.symm
  · obtain ⟨schema, class', organism, tick, slot, generation, dispatch, frame, cursor, counters,
      route, cost, before, debit, after, digest⟩ := r
    rintro ⟨hschema, hclass, horganism, htick, hslot, hgeneration, hdispatch, hframe, hcursor,
      hroute, hdigest⟩
    dsimp only at hschema hclass horganism htick hslot hgeneration hdispatch hframe hcursor hroute
    subst hschema hclass horganism htick hslot hgeneration hdispatch hframe hcursor hroute
    unfold sealed
    rw [← recomputeDigest_withDigest _ digest]
    exact congrArg _ hdigest

/-- **What `validate_for` accepts.** -/
theorem validateFor_eq_ok_iff :
    r.validateFor policy decision = .ok () ↔ Tallies policy decision r := by
  unfold validateFor
  rw [except_seq_eq_ok_iff, BrainActivityPolicyV1.validateContract_eq_ok_iff,
    except_bind_eq_ok_iff]
  constructor
  · rintro ⟨hpolicy, cost, hcost, h⟩
    obtain ⟨debit, hdebit, h⟩ := except_bind_eq_ok_iff.1 h
    rw [failIf_eq_ok_iff] at h
    simp only [not_or, not_not] at h
    obtain ⟨hschema, hclass, horganism, htick, hslot, hgeneration, hdispatch, hframe, hcursor,
      hmicrosteps, hroute, rfl, rfl, hafter, -, hdigest⟩ := h
    obtain ⟨-, hcost⟩ := BrainAtpCostModel.neuralCostQ24_eq_ok_iff.1 hcost
    obtain ⟨-, hdebit⟩ := BrainAtpCostModel.q24ToAtpQ16RoundHalfUp_eq_ok_iff.1 hdebit
    exact ⟨hpolicy, eq_sealed_iff.2 ⟨hschema, hclass, horganism, htick, hslot, hgeneration,
      hdispatch, hframe, hcursor, hroute, hdigest⟩, hmicrosteps, hcost, hcost ▸ hdebit,
      checkedSub32_eq_some_iff.1 hafter⟩
  · intro h
    obtain ⟨hschema, hclass, horganism, htick, hslot, hgeneration, hdispatch, hframe, hcursor,
      hroute, hdigest⟩ := eq_sealed_iff.1 h.fields_eq
    have hmodel : policy.cost = .productionV1 := by rw [h.policy_eq]; rfl
    refine ⟨h.policy_eq, r.neuralCostQ24,
      BrainAtpCostModel.neuralCostQ24_eq_ok_iff.2 ⟨hmodel, h.cost⟩,
      except_bind_eq_ok_iff.2 ⟨r.atpDebitQ16,
        BrainAtpCostModel.q24ToAtpQ16RoundHalfUp_eq_ok_iff.2 ⟨hmodel, h.cost ▸ h.debit⟩, ?_⟩⟩
    rw [failIf_eq_ok_iff]
    simp only [not_or, not_not]
    exact ⟨hschema, hclass, horganism, htick, hslot, hgeneration, hdispatch, hframe, hcursor,
      h.microsteps, hroute, trivial, trivial, checkedSub32_eq_some_iff.2 h.balance,
      hdigest ▸ recomputeDigest_ne_zero r, hdigest⟩

/-- **What `try_new` issues.** -/
theorem tryNew_eq_ok_iff {counters : BrainWorkCounters} {atpBeforeQ16 : UInt32} :
    tryNew policy decision counters atpBeforeQ16 = .ok r ↔ Tallies policy decision r ∧
      r.counters = counters ∧ r.atpBeforeQ16 = atpBeforeQ16 ∧ atpBeforeQ16 ≤ brainAtpQ16Max := by
  unfold tryNew
  rw [except_seq_eq_ok_iff, BrainActivityPolicyV1.validateContract_eq_ok_iff,
    except_seq_eq_ok_iff, failIf_eq_ok_iff, not_or, not_not, UInt32.not_lt, except_bind_eq_ok_iff]
  constructor
  · rintro ⟨-, ⟨-, hbefore⟩, cost, -, h⟩
    obtain ⟨debit, -, h⟩ := except_bind_eq_ok_iff.1 h
    obtain ⟨after, -, h⟩ := except_bind_eq_ok_iff.1 h
    obtain ⟨hvalid, h⟩ := except_seq_eq_ok_iff.1 h
    obtain rfl := Except.ok.inj h
    exact ⟨validateFor_eq_ok_iff.1 hvalid, rfl, rfl, hbefore⟩
  · rintro ⟨h, rfl, rfl, hbefore⟩
    have hmodel : policy.cost = .productionV1 := by rw [h.policy_eq]; rfl
    refine ⟨h.policy_eq, ⟨h.microsteps, hbefore⟩, r.neuralCostQ24,
      BrainAtpCostModel.neuralCostQ24_eq_ok_iff.2 ⟨hmodel, h.cost⟩,
      except_bind_eq_ok_iff.2 ⟨r.atpDebitQ16,
        BrainAtpCostModel.q24ToAtpQ16RoundHalfUp_eq_ok_iff.2 ⟨hmodel, h.cost ▸ h.debit⟩,
      except_bind_eq_ok_iff.2 ⟨r.atpAfterQ16,
        getOr_eq_ok_iff.2 (checkedSub32_eq_some_iff.2 h.balance), ?_⟩⟩⟩
    rw [← h.fields_eq, except_seq_eq_ok_iff]
    exact ⟨validateFor_eq_ok_iff.2 h, rfl⟩

/-- The debit of a receipt that tallies is the exact cost, rounded half up to `Q16`. -/
theorem Tallies.debit_eq_round (h : Tallies policy decision r) :
    (r.atpDebitQ16.toNat : ℤ) = round (r.counters.cost * 2 ^ 16) := by
  have hscaled : r.counters.cost * 2 ^ 16 + 1 / 2 = ((r.counters.costQ24 + 128 : ℕ) : ℚ) / 256 := by
    rw [BrainWorkCounters.cost]
    push_cast
    ring
  have hfloor := Rat.floor_intCast_div_natCast ((r.counters.costQ24 + 128 : ℕ) : ℤ) 256
  rw [Int.cast_natCast] at hfloor
  rw [round_eq, hscaled, h.debit, Int.natCast_div]
  exact hfloor.symm

/-- What the acceptance of a receipt is to mean: the receipt could have been issued, its ATP
level is one of the scale, the debit is exact and nothing wraps. -/
def AcceptedAsIssued (policy : BrainActivityPolicyV1) (decision : NeuralThrottleDecision)
    (r : BrainWorkReceipt) : Prop :=
  (r.validateFor policy decision = .ok () ↔
    tryNew policy decision r.counters r.atpBeforeQ16 = .ok r) ∧
  (r.validateFor policy decision = .ok () →
    r.atpBeforeQ16 ≤ brainAtpQ16Max ∧
    r.atpBeforeQ16.toNat = r.atpAfterQ16.toNat + r.atpDebitQ16.toNat ∧
    (r.atpDebitQ16.toNat : ℤ) = round (r.counters.cost * 2 ^ 16))

/-- **When acceptance means issuance.**  A receipt that tallies is accepted whatever its ATP
level, and could have been issued only up to `BRAIN_ATP_Q16_MAX`. -/
theorem acceptedAsIssued_iff (policy : BrainActivityPolicyV1) (decision : NeuralThrottleDecision)
    (r : BrainWorkReceipt) :
    AcceptedAsIssued policy decision r ↔
      r.atpBeforeQ16 ≤ brainAtpQ16Max ∨ ¬Tallies policy decision r := by
  unfold AcceptedAsIssued
  rw [validateFor_eq_ok_iff, tryNew_eq_ok_iff]
  constructor
  · rintro ⟨hsame, -⟩
    by_cases h : Tallies policy decision r
    · exact .inl (hsame.1 h).2.2.2
    · exact .inr h
  · rintro (hbefore | hnot)
    · refine ⟨⟨fun h => ⟨h, rfl, rfl, hbefore⟩, And.left⟩, fun h => ⟨hbefore, ?_, h.debit_eq_round⟩⟩
      rw [← h.balance, add_comm]
    · exact ⟨⟨fun h => absurd h hnot, fun h => absurd h.1 hnot⟩, fun h => absurd h hnot⟩

/-! ### A forged level -/

/-- No work at all. -/
def idle (microsteps : UInt8) : BrainWorkCounters := ⟨microsteps.toUInt32, 0, 0, 0, 0, 0⟩

/-- The receipt of an idle tick at a given ATP level. -/
def idleReceipt (decision : NeuralThrottleDecision) (atpQ16 : UInt32) : BrainWorkReceipt :=
  (fields .productionV1 decision (idle decision.microsteps) atpQ16 0 0 atpQ16).sealed

theorem tallies_idleReceipt (decision : NeuralThrottleDecision) (atpQ16 : UInt32) :
    Tallies .productionV1 decision (idleReceipt decision atpQ16) where
  policy_eq := rfl
  fields_eq := rfl
  microsteps := rfl
  cost := rfl
  debit := by
    change 0 = (0 + 128) / 256
    decide
  balance := Nat.zero_add _

/-- An ATP level above the scale, on the receipt of a dispatch: accepted, never issued. -/
theorem forged_level_accepted :
    ∃ p decision, GpuPressureSample.tryNew .productionV1 (measured 0) = .ok p ∧
      NeuralThrottleDecision.derive .productionV1 motorPhenotype ⟨1, 4⟩ firstDispatch p
        = .ok decision ∧
      (idleReceipt decision 70000).validateFor .productionV1 decision = .ok () ∧
      (∀ r, tryNew .productionV1 decision (idleReceipt decision 70000).counters
        (idleReceipt decision 70000).atpBeforeQ16 ≠ .ok r) ∧
      ¬AcceptedAsIssued .productionV1 decision (idleReceipt decision 70000) := by
  obtain ⟨p, hp⟩ := NeuralThrottleDecision.exists_tryNew_measured 0
  obtain ⟨decision, hdecision⟩ := NeuralThrottleDecision.exists_derive_measured hp
  have haccepted := validateFor_eq_ok_iff.2 (tallies_idleReceipt decision 70000)
  have hlarge : ¬(idleReceipt decision 70000).atpBeforeQ16 ≤ brainAtpQ16Max := by
    change ¬(70000 : UInt32) ≤ brainAtpQ16Max
    decide
  refine ⟨p, decision, hp, hdecision, haccepted, fun r hr => ?_, fun h => ?_⟩
  · exact hlarge (tryNew_eq_ok_iff.1 hr).2.2.2
  · exact hlarge (h.2 haccepted).1

end BrainWorkReceipt

end Activity

end ALife
