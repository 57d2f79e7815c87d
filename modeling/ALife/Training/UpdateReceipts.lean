/-
# The receipts of updates

The check of a round reads off its receipt, by division and comparison, what the
loop of the training counted.  `accepted_receipts_are_loops` says that it accepts
exactly the receipts that the loop leaves for some finite divergences, wherever
the divergence stopped it; so the receipt of a training that returned is never
refused (`trained_receipt_accepted`), nor are the actor and the critic it leaves.
-/

import ALife.Machine.Binary32Value
import ALife.Training.CohortTraining
import ALife.Training.RoundStranding
import ALife.Training.TrainerRestart

namespace ALife

open Machine

namespace Training

/-! ### The loop of the divergences -/

/-- A training as its divergences drive it. -/
structure KlRun where
  completedEpochs : ℕ
  updates : ℕ
  meanKl : List F32

/-- One batch: its divergence is kept, and it is applied unless the divergence is too large. -/
def klStep (target : F32) (kl : ℕ → F32) (_start : ℕ) (s : KlRun) : Except Empty (KlRun × Bool) :=
  let meanKl := s.meanKl ++ [kl s.updates]
  if F32.lt target (kl s.updates) then .ok ({ s with meanKl }, true)
  else .ok (⟨s.completedEpochs, s.updates + 1, meanKl⟩, false)

/-- Epochs of batches over the divergences `kl`. -/
def klLoop (target : F32) (kl : ℕ → F32) (windowCount effectiveBatchSize epochs : ℕ) :
    Except Empty (KlRun × Bool) :=
  passes (klStep target kl) (fun s => { s with completedEpochs := s.completedEpochs + 1 })
    (stepBy windowCount effectiveBatchSize) epochs ⟨0, 0, []⟩

theorem length_stepBy (len step : ℕ) : (stepBy len step).length = (len + step - 1) / step := by
  rw [stepBy, List.length_map, List.length_range]

/-- After `k` batches that were applied. -/
structure KlRun.Runs (target : F32) (kl : ℕ → F32) (p k : ℕ) (s : KlRun) : Prop where
  completed : s.completedEpochs = p
  updates : s.updates = k
  meanKl : s.meanKl = (List.range k).map kl
  below : ∀ i < k, F32.lt target (kl i) = false

/-- Before a batch that is not. -/
structure KlRun.Stops (target : F32) (kl : ℕ → F32) (p k : ℕ) (s : KlRun) : Prop where
  completed : s.completedEpochs = p
  updates : s.updates = k
  meanKl : s.meanKl = (List.range (k + 1)).map kl
  below : ∀ i < k, F32.lt target (kl i) = false
  above : F32.lt target (kl k) = true

theorem klLoop_rule {target : F32} {kl : ℕ → F32} {windowCount effectiveBatchSize epochs : ℕ}
    {s : KlRun} {stopped : Bool}
    (h : klLoop target kl windowCount effectiveBatchSize epochs = .ok (s, stopped)) :
    let batches := (windowCount + effectiveBatchSize - 1) / effectiveBatchSize
    if stopped then ∃ k < epochs * batches, KlRun.Stops target kl (k / batches) k s
    else KlRun.Runs target kl epochs (epochs * batches) s := by
  have hrule := passes_rule (KlRun.Runs target kl) (KlRun.Stops target kl) (p := 0)
    ?_ ?_ ?_ h
  · rwa [Nat.zero_add, length_stepBy] at hrule
  · intro p start _ k s s' stopped hs hstep
    unfold klStep at hstep
    dsimp only at hstep
    have hmeanKl : s.meanKl ++ [kl s.updates] = (List.range (k + 1)).map kl := by
      rw [hs.meanKl, hs.updates, List.range_succ, List.map_append, List.map_singleton]
    split_ifs at hstep with habove
    · obtain ⟨rfl, rfl⟩ := Prod.mk.inj (Except.ok.inj hstep)
      exact ⟨hs.completed, hs.updates, hmeanKl, hs.below, hs.updates ▸ habove⟩
    · obtain ⟨rfl, rfl⟩ := Prod.mk.inj (Except.ok.inj hstep)
      refine ⟨hs.completed, congrArg (· + 1) hs.updates, hmeanKl, fun i hi => ?_⟩
      rcases Nat.lt_succ_iff_lt_or_eq.1 hi with hi | rfl
      · exact hs.below i hi
      · exact Bool.eq_false_iff.2 (hs.updates ▸ habove)
  · exact fun p s hs => ⟨congrArg (· + 1) hs.completed, hs.updates, hs.meanKl, hs.below⟩
  · rw [Nat.zero_mul]
    exact ⟨rfl, rfl, rfl, fun i hi => absurd hi (Nat.not_lt_zero i)⟩

theorem exists_klLoop (target : F32) (kl : ℕ → F32) (windowCount effectiveBatchSize epochs : ℕ) :
    ∃ s stopped, klLoop target kl windowCount effectiveBatchSize epochs = .ok (s, stopped) := by
  have hstep : ∀ start ∈ stepBy windowCount effectiveBatchSize, ∀ s,
      ∃ r, klStep target kl start s = .ok r := by
    intro start _ s
    unfold klStep
    dsimp only
    split_ifs <;> exact ⟨_, rfl⟩
  obtain ⟨⟨s, stopped⟩, h⟩ := exists_passes hstep epochs ⟨0, 0, []⟩
  exact ⟨s, stopped, h⟩

/-! ### Receipts -/

/-- A receipt as a number of updates explains it. -/
structure ReceiptFits (batches epochs : ℕ) (target : F32) (u : PpoUpdateReceipt) (updates : ℕ) :
    Prop where
  completed : u.completedEpochs.toNat = updates / batches
  length : u.meanKlBeforeUpdates.length = updates + u.stoppedForKl.toNat
  stopped : u.stoppedForKl = true → updates < epochs * batches
  finished : u.stoppedForKl = false → updates = epochs * batches
  divergence : ∀ i kl, u.meanKlBeforeUpdates[i]? = some kl → kl.isFinite = true
    ∧ F32.lt target kl = (u.stoppedForKl && i + 1 == u.meanKlBeforeUpdates.length)

/-- The receipt that a loop of divergences leaves after some updates. -/
structure LeftBy (kl : ℕ → F32) (windowCount effectiveBatchSize epochs : ℕ) (target : F32)
    (u : PpoUpdateReceipt) (updates : ℕ) : Prop where
  finite : ∀ i, (kl i).isFinite = true
  left : ∃ s, klLoop target kl windowCount effectiveBatchSize epochs = .ok (s, u.stoppedForKl)
    ∧ u.completedEpochs.toNat = s.completedEpochs ∧ u.meanKlBeforeUpdates = s.meanKl
    ∧ updates = s.updates

section Receipt

variable {windowCount effectiveBatchSize epochs updates : ℕ} {target : F32} {u : PpoUpdateReceipt}

theorem of_getElem?_map_range {α : Type} {f : ℕ → α} {n i : ℕ} {a : α}
    (h : ((List.range n).map f)[i]? = some a) : i < n ∧ f i = a := by
  obtain ⟨j, hj, rfl⟩ := Option.map_eq_some_iff.1 (List.getElem?_map ▸ h)
  obtain ⟨hi, rfl⟩ := List.getElem?_eq_some_iff.1 hj
  rw [List.length_range] at hi
  exact ⟨hi, by rw [List.getElem_range]⟩

/-- What a loop leaves is explained by its updates. -/
theorem LeftBy.fits {kl : ℕ → F32}
    (h : LeftBy kl windowCount effectiveBatchSize epochs target u updates)
    (hbatches : 0 < (windowCount + effectiveBatchSize - 1) / effectiveBatchSize) :
    ReceiptFits ((windowCount + effectiveBatchSize - 1) / effectiveBatchSize) epochs target u
      updates := by
  obtain ⟨hfinite, s, hloop, hcompleted, hmeanKl, rfl⟩ := h
  have hrule := klLoop_rule hloop
  set batches := (windowCount + effectiveBatchSize - 1) / effectiveBatchSize
  cases hstopped : u.stoppedForKl with
  | true =>
    rw [hstopped] at hrule
    obtain ⟨k, hk, hstops⟩ := hrule
    have hlength : u.meanKlBeforeUpdates.length = k + 1 := by
      rw [hmeanKl, hstops.meanKl, List.length_map, List.length_range]
    refine ⟨?_, ?_, fun _ => hstops.updates ▸ hk, fun h => absurd (hstopped.symm.trans h) nofun,
      fun i x hi => ?_⟩
    · rw [hcompleted, hstops.completed, hstops.updates]
    · rw [hlength, hstops.updates, hstopped]
      rfl
    · rw [hlength, hstopped, Bool.true_and]
      rw [hmeanKl, hstops.meanKl] at hi
      obtain ⟨hj, rfl⟩ := of_getElem?_map_range hi
      refine ⟨hfinite i, ?_⟩
      rcases Nat.lt_succ_iff_lt_or_eq.1 hj with hlt | rfl
      · rw [hstops.below i hlt, eq_comm, beq_eq_false_iff_ne]
        omega
      · rw [hstops.above, eq_comm, beq_iff_eq]
  | false =>
    rw [hstopped] at hrule
    have hruns : KlRun.Runs target kl epochs (epochs * batches) s := hrule
    refine ⟨?_, ?_, fun h => absurd (hstopped.symm.trans h) nofun, fun _ => hruns.updates,
      fun i x hi => ?_⟩
    · rw [hcompleted, hruns.completed, hruns.updates, Nat.mul_div_cancel _ hbatches]
    · rw [hmeanKl, hruns.meanKl, List.length_map, List.length_range, hruns.updates, hstopped]
      rfl
    · rw [hstopped, Bool.false_and]
      rw [hmeanKl, hruns.meanKl] at hi
      obtain ⟨hj, rfl⟩ := of_getElem?_map_range hi
      exact ⟨hfinite i, hruns.below i hj⟩

/-- A receipt that its updates explain is left by its own divergences. -/
theorem ReceiptFits.left
    (h : ReceiptFits ((windowCount + effectiveBatchSize - 1) / effectiveBatchSize) epochs target u
      updates)
    (hbatches : 0 < (windowCount + effectiveBatchSize - 1) / effectiveBatchSize) :
    LeftBy (fun i => u.meanKlBeforeUpdates[i]?.getD F32.zero) windowCount effectiveBatchSize epochs
      target u updates := by
  set batches := (windowCount + effectiveBatchSize - 1) / effectiveBatchSize
  set kl : ℕ → F32 := fun i => u.meanKlBeforeUpdates[i]?.getD F32.zero with hkl
  have hfinite : ∀ i, (kl i).isFinite = true := by
    intro i
    rw [hkl]
    dsimp only
    cases hi : u.meanKlBeforeUpdates[i]? with
    | none => decide
    | some x => exact (h.divergence i x hi).1
  have hget : ∀ i, i < u.meanKlBeforeUpdates.length →
      u.meanKlBeforeUpdates[i]? = some (kl i) := by
    intro i hi
    rw [hkl]
    dsimp only
    rw [List.getElem?_eq_getElem hi, Option.getD_some]
  have habove : ∀ i, i < u.meanKlBeforeUpdates.length → F32.lt target (kl i)
      = (u.stoppedForKl && i + 1 == u.meanKlBeforeUpdates.length) :=
    fun i hi => (h.divergence i _ (hget i hi)).2
  have hmap : u.meanKlBeforeUpdates = (List.range u.meanKlBeforeUpdates.length).map kl := by
    refine List.ext_getElem? fun i => ?_
    rw [List.getElem?_map]
    by_cases hi : i < u.meanKlBeforeUpdates.length
    · rw [hget i hi, List.getElem?_range hi, Option.map_some]
    · rw [List.getElem?_eq_none (not_lt.1 hi), List.getElem?_eq_none (by simpa using hi)]
      rfl
  obtain ⟨s, stopped, hloop⟩ := exists_klLoop target kl windowCount effectiveBatchSize epochs
  have hrule := klLoop_rule hloop
  have hlength := h.length
  refine ⟨hfinite, s, ?_⟩
  cases stopped with
  | true =>
    obtain ⟨k, hk, hstops⟩ := hrule
    -- the loop and the receipt stop before the same update
    have hstopped : u.stoppedForKl = true := by
      by_contra hrun
      rw [Bool.not_eq_true] at hrun
      rw [hrun, Bool.toNat_false, Nat.add_zero, h.finished hrun] at hlength
      have hlt := habove k (hlength.symm ▸ hk)
      rw [hstops.above, hrun, Bool.false_and] at hlt
      cases hlt
    rw [hstopped, Bool.toNat_true] at hlength
    have hle : ¬ updates < k := by
      intro hlt
      have hlast := habove updates (by omega)
      rw [hstops.below updates hlt, hstopped, Bool.true_and, eq_comm, beq_eq_false_iff_ne]
        at hlast
      exact hlast hlength.symm
    have hge : ¬ k < updates := by
      intro hlt
      have hfirst := habove k (by omega)
      rw [hstops.above, hstopped, Bool.true_and, eq_comm, beq_iff_eq] at hfirst
      omega
    obtain rfl : k = updates := by omega
    rw [hstopped]
    refine ⟨hloop, ?_, ?_, hstops.updates.symm⟩
    · rw [h.completed, hstops.completed]
    · rw [hstops.meanKl, ← hlength, ← hmap]
  | false =>
    have hruns : KlRun.Runs target kl epochs (epochs * batches) s := hrule
    have hstopped : u.stoppedForKl = false := by
      by_contra hstop
      rw [Bool.not_eq_false] at hstop
      rw [hstop, Bool.toNat_true] at hlength
      have hlast := habove updates (by omega)
      rw [hruns.below updates (h.stopped hstop), hstop, Bool.true_and, eq_comm,
        beq_eq_false_iff_ne] at hlast
      exact hlast hlength.symm
    rw [hstopped, Bool.toNat_false, Nat.add_zero] at hlength
    have hupdates := h.finished hstopped
    rw [hstopped]
    refine ⟨hloop, ?_, ?_, hupdates.trans hruns.updates.symm⟩
    · rw [h.completed, hupdates, Nat.mul_div_cancel _ hbatches, hruns.completed]
    · rw [hruns.meanKl, ← hupdates, ← hlength, ← hmap]

end Receipt

/-! ### The check of a round -/

section Round

variable {Handoff Trainer Cohort : Type} {L : RoundLearner Handoff Trainer Cohort}
  {r : CpuCooperativeRoundResultV1 Handoff}

/-- A counter that was raised by `k`. -/
theorem not_lt_and_toNat_sub_eq {before after : UInt32} {k : ℕ} (h : after.toNat = before.toNat + k) :
    ¬ after < before ∧ (after - before).toNat = k := by
  have hle : before ≤ after := by
    rw [UInt32.le_iff_toNat_le]
    omega
  refine ⟨UInt32.not_lt.2 hle, ?_⟩
  rw [UInt32.toNat_sub_of_le _ _ hle]
  omega

/-- The updates of a result, as its handoffs tell them. -/
def roundUpdates (L : RoundLearner Handoff Trainer Cohort)
    (r : CpuCooperativeRoundResultV1 Handoff) : UInt32 :=
  L.actorStep r.outputHandoff - L.actorStep r.sourceHandoff

/-- The batches of an epoch. -/
def roundBatches (r : CpuCooperativeRoundResultV1 Handoff) : ℕ :=
  (r.windows + r.plan.effectiveBatchSize - 1) / r.plan.effectiveBatchSize

/-- A coordinate of an output as the check wants it: a trainable one is older by the updates, and
another has the bits of the source. -/
def Aged (before after : FoundationTrainerCheckpoint F32) (updates : UInt32) (i : ℕ) : Prop :=
  if before.stageMask.isTrainable i = true then
    (after.updateAges.getD i 0).toNat = (before.updateAges.getD i 0).toNat + updates.toNat
  else
    after.weights.getD i .zero = before.weights.getD i .zero
      ∧ after.firstMoment.getD i .zero = before.firstMoment.getD i .zero
      ∧ after.secondMoment.getD i .zero = before.secondMoment.getD i .zero
      ∧ after.updateAges.getD i 0 = before.updateAges.getD i 0

/-- The actor of an output after updates of the one of its source. -/
structure ActorFits (before after : FoundationTrainerCheckpoint F32) (updates : UInt32) : Prop where
  stageMask : before.stageMask = after.stageMask
  length : before.weights.length = after.weights.length
  aged : ∀ i < before.weights.length, Aged before after updates i

/-- What the check of an output that was updated asks besides its actor. -/
structure OutputFits (L : RoundLearner Handoff Trainer Cohort)
    (r : CpuCooperativeRoundResultV1 Handoff) (trainer : Trainer) : Prop where
  origin : L.origin r.outputHandoff = .nativeCpu
  policyVersion : L.policyVersion r.outputHandoff = r.plan.snapshot.policyVersion
  config : L.exactConfig (L.actor r.sourceHandoff).config (L.actor r.outputHandoff).config = true
  compiled : L.validateCompiled trainer r.sourceHandoff r.outputHandoff = .ok ()

/-- What the check of a result asks of the parts that its training does not make. -/
structure RoundRest (L : RoundLearner Handoff Trainer Cohort)
    (r : CpuCooperativeRoundResultV1 Handoff) : Prop where
  plan : r.plan.validate L = .ok ()
  handoff : L.validateHandoff r.outputHandoff = .ok ()
  schemaVersion : r.schemaVersion = 1
  mode : r.mode = "native_cpu_cooperative_round".toList
  digest : r.payloadSha256 = L.resultDigest r.payload
  windows : r.windows ≠ 0 ∧ r.windows ≤ maxDecisions
  rows : r.windows ≤ r.trainingRows ∧ r.trainingRows ≤ maxDecisions
  budget : roundBatches r * r.plan.config.epochs.toNat ≤ maxOptimizerUpdates
  trajectories : r.windowTrajectories.length = r.windows
    ∧ ∃ last, r.windowTrajectories.foldlM r.validateTrajectory none = .ok last
  output : ∃ trainer, L.restoreSource r.sourceHandoff r.plan = .ok trainer
    ∧ if roundUpdates L r = 0 then L.exact r.sourceHandoff r.outputHandoff = true
      else OutputFits L r trainer

/-- What the check of a result asks besides the divergences and counts of its receipt. -/
structure RoundFits (L : RoundLearner Handoff Trainer Cohort)
    (r : CpuCooperativeRoundResultV1 Handoff) : Prop extends RoundRest L r where
  forwards : ¬ L.actorStep r.outputHandoff < L.actorStep r.sourceHandoff
  critic : ¬ L.valueStep r.outputHandoff < L.valueStep r.sourceHandoff
    ∧ L.valueStep r.outputHandoff - L.valueStep r.sourceHandoff = roundUpdates L r
  version : r.update.collectionPolicyVersion = r.plan.snapshot.policyVersion
  steps : r.update.actorOptimizerStep = L.actorStep r.outputHandoff
    ∧ r.update.valueOptimizerStep = L.valueStep r.outputHandoff
  actor : roundUpdates L r ≠ 0 →
    ActorFits (L.actor r.sourceHandoff) (L.actor r.outputHandoff) (roundUpdates L r)

/-- A plan that was checked has batches and epochs. -/
theorem of_validate_plan {plan : CpuCooperativeRoundPlanV1} (h : plan.validate L = .ok ()) :
    plan.effectiveBatchSize ≠ 0 ∧ plan.config.epochs ≠ 0 := by
  unfold CpuCooperativeRoundPlanV1.validate at h
  obtain ⟨hconfig, h⟩ := except_seq_eq_ok_iff.1 h
  obtain ⟨hplan, -⟩ := except_seq_eq_ok_iff.1 h
  rw [RoundError.ofContract_eq_ok_iff] at hconfig
  unfold PpoConfig.validate at hconfig
  obtain ⟨-, hconfig⟩ := contract_check_eq_ok_iff.1 hconfig
  rw [reject_eq_ok_iff, not_or] at hconfig
  rw [failIf_eq_ok_iff] at hplan
  exact ⟨fun hbatch => hplan (by tauto), hconfig.1⟩

theorem validateCoordinate_eq_ok_iff {before after : FoundationTrainerCheckpoint F32}
    {updates : UInt32} {i : ℕ} :
    CpuCooperativeRoundResultV1.validateCoordinate before after updates i = .ok ()
      ↔ Aged before after updates i := by
  have hbits : ∀ x y : F32, x.bits = y.bits ↔ y = x := fun x y =>
    ⟨fun h => congrArg F32.mk h.symm, fun h => h ▸ rfl⟩
  unfold CpuCooperativeRoundResultV1.validateCoordinate Aged
  split_ifs
  · rw [failIf_eq_ok_iff, not_not, checkedAdd32_eq_some_iff]
  · rw [failIf_eq_ok_iff]
    simp only [ne_eq, not_or, not_not]
    exact and_congr (hbits _ _) (and_congr (hbits _ _) (and_congr (hbits _ _) eq_comm))

/-- **The check of an output that was updated**, with its actor set apart. -/
theorem validateUpdated_eq_ok_iff {trainer : Trainer} {updates : UInt32} :
    r.validateUpdated L trainer updates = .ok () ↔ OutputFits L r trainer
      ∧ ActorFits (L.actor r.sourceHandoff) (L.actor r.outputHandoff) updates := by
  unfold CpuCooperativeRoundResultV1.validateUpdated
  dsimp only
  rw [except_seq_eq_ok_iff, except_seq_eq_ok_iff, failIf_eq_ok_iff, forM_eq_ok_iff]
  simp only [validateCoordinate_eq_ok_iff, List.mem_range, ne_eq, not_or, not_not,
    Bool.not_eq_true', Bool.not_eq_false]
  constructor
  · rintro ⟨⟨horigin, hversion, hconfig, hmask, hlength⟩, haged, hcompiled⟩
    exact ⟨⟨horigin, hversion, hconfig, hcompiled⟩, hmask, hlength, haged⟩
  · rintro ⟨hout, hactor⟩
    exact ⟨⟨hout.origin, hout.policyVersion, hout.config, hactor.stageMask, hactor.length⟩,
      hactor.aged, hout.compiled⟩

theorem roundBatches_pos (hplan : r.plan.validate L = .ok ()) (hwindows : r.windows ≠ 0) :
    0 < roundBatches r := by
  have hbatch := (of_validate_plan hplan).1
  exact Nat.div_pos (by omega) (by omega)

/-- No divergence of a receipt is refused when each is finite and on its side of the target. -/
theorem any_klRefused_iff : (r.update.meanKlBeforeUpdates.zipIdx.any fun k => r.klRefused k.2 k.1)
      = false ↔ ∀ i kl, r.update.meanKlBeforeUpdates[i]? = some kl → kl.isFinite = true
    ∧ F32.lt r.plan.config.targetKl kl
      = (r.update.stoppedForKl && i + 1 == r.update.meanKlBeforeUpdates.length) := by
  rw [List.any_eq_false]
  simp only [Prod.forall, List.mem_zipIdx_iff_getElem?, CpuCooperativeRoundResultV1.klRefused,
    Bool.or_eq_true, Bool.not_eq_true', bne_iff_ne, ne_eq, not_or, not_not, Bool.not_eq_false]
  exact ⟨fun h i kl => h kl i, fun h kl i => h i kl⟩

/-- **The check of a result**, with the receipt set apart. -/
theorem validate_eq_ok_iff :
    r.validate L = .ok () ↔ RoundFits L r ∧ ReceiptFits (roundBatches r)
      r.plan.config.epochs.toNat r.plan.config.targetKl r.update (roundUpdates L r).toNat := by
  constructor
  · intro h
    unfold CpuCooperativeRoundResultV1.validate at h
    obtain ⟨hplan, h⟩ := except_seq_eq_ok_iff.1 h
    obtain ⟨trainer, hsource, h⟩ := except_bind_eq_ok_iff.1 h
    obtain ⟨hhandoff, h⟩ := except_seq_eq_ok_iff.1 h
    obtain ⟨hforwards, h⟩ := except_seq_eq_ok_iff.1 h
    obtain ⟨-, h⟩ := except_seq_eq_ok_iff.1 h
    obtain ⟨hreceipt, h⟩ := except_seq_eq_ok_iff.1 h
    obtain ⟨last, hlast, hout⟩ := except_bind_eq_ok_iff.1 h
    simp only [failIf_eq_ok_iff, not_or, not_lt, ne_eq, not_not, not_and, not_le,
      Bool.not_eq_true, any_klRefused_iff] at hforwards hreceipt
    obtain ⟨hschema, hmode, hdigest, hwindows, hmaxWindows, hrows, hmaxRows, hbudget,
      htrajectories, hcritic, hdelta, hversion, hactor, hvalue, hcompleted, hlength, hstopped,
      hfinished, hdivergence⟩ := hreceipt
    have hpos := roundBatches_pos hplan hwindows
    refine ⟨⟨⟨hplan, hhandoff, hschema, hmode, hdigest, ⟨hwindows, hmaxWindows⟩,
      ⟨hrows, hmaxRows⟩, hbudget, ⟨htrajectories, last, hlast⟩, trainer, hsource, ?_⟩, hforwards,
      ⟨hcritic, hdelta⟩, hversion, ⟨hactor, hvalue⟩, fun hupdates => ?_⟩,
      ?_, hlength, fun hstop => ?_, fun hrun => ?_, hdivergence⟩
    · unfold roundUpdates
      split_ifs at hout ⊢ with hzero
      · rw [failIf_eq_ok_iff, not_or] at hout
        simpa using hout.2
      · exact (validateUpdated_eq_ok_iff.1 hout).1
    · unfold roundUpdates at hupdates
      rw [if_neg hupdates] at hout
      exact (validateUpdated_eq_ok_iff.1 hout).2
    · rw [hcompleted]
      exact congrArg _ (max_eq_left hpos)
    · rw [Nat.mul_comm]
      exact hstopped hstop
    · rw [Nat.mul_comm]
      exact hfinished (by rw [hrun]; rfl)
  · rintro ⟨h, hreceipt⟩
    obtain ⟨htrajectories, last, hlast⟩ := h.trajectories
    obtain ⟨trainer, hsource, hout⟩ := h.output
    have hpos := roundBatches_pos h.plan h.windows.1
    have hmax : max (roundBatches r) 1 = roundBatches r := max_eq_left hpos
    have hbudget := h.budget
    unfold CpuCooperativeRoundResultV1.validate
    refine except_seq_eq_ok_iff.2 ⟨h.plan, except_bind_eq_ok_iff.2 ⟨trainer, hsource,
      except_seq_eq_ok_iff.2 ⟨h.handoff, except_seq_eq_ok_iff.2 ⟨failIf_eq_ok_iff.2 h.forwards,
      except_seq_eq_ok_iff.2 ⟨failIf_eq_ok_iff.2 ?_, except_seq_eq_ok_iff.2 ⟨?_,
      except_bind_eq_ok_iff.2 ⟨last, hlast, ?_⟩⟩⟩⟩⟩⟩⟩
    · rw [not_le]
      exact lt_of_le_of_lt hbudget (by decide)
    · simp only [failIf_eq_ok_iff, not_or, not_lt, ne_eq, not_not, not_and, not_le,
        Bool.not_eq_true, any_klRefused_iff]
      refine ⟨h.schemaVersion, h.mode, h.digest, h.windows.1, h.windows.2, h.rows.1, h.rows.2,
        hbudget, htrajectories, h.critic.1, h.critic.2, h.version, h.steps.1, h.steps.2, ?_,
        hreceipt.length, fun hstop => ?_, fun hrun => ?_, hreceipt.divergence⟩
      · exact hreceipt.completed.trans (congrArg _ hmax.symm)
      · have hlt := hreceipt.stopped hstop
        rwa [Nat.mul_comm] at hlt
      · have heq := hreceipt.finished (by simpa using hrun)
        rwa [Nat.mul_comm] at heq
    · unfold roundUpdates at hout
      by_cases hzero : L.actorStep r.outputHandoff - L.actorStep r.sourceHandoff = 0
      · rw [if_pos hzero] at hout ⊢
        -- a round without updates has stopped
        have hstopped : r.update.stoppedForKl = true := by
          by_contra hrun
          rw [Bool.not_eq_true] at hrun
          have hupdates := hreceipt.finished hrun
          have hnone : (roundUpdates L r).toNat = 0 := congrArg UInt32.toNat hzero
          rw [hnone] at hupdates
          rcases Nat.mul_eq_zero.1 hupdates.symm with hepochs | hbatches
          · exact (of_validate_plan h.plan).2 (UInt32.toNat_inj.1 hepochs)
          · exact hpos.ne' hbatches
        rw [failIf_eq_ok_iff, hstopped, hout]
        decide
      · rw [if_neg hzero] at hout ⊢
        exact validateUpdated_eq_ok_iff.2 ⟨hout, h.actor hzero⟩

/-- **The check accepts what the loop leaves.**  A result is accepted when its receipt is the one
of some loop of finite divergences, and the rest of the result fits. -/
theorem accepted_receipts_are_loops (L : RoundLearner Handoff Trainer Cohort)
    (r : CpuCooperativeRoundResultV1 Handoff) :
    r.validate L = .ok () ↔ RoundFits L r ∧ ∃ kl : ℕ → F32,
      LeftBy kl r.windows r.plan.effectiveBatchSize r.plan.config.epochs.toNat
        r.plan.config.targetKl r.update (roundUpdates L r).toNat := by
  rw [validate_eq_ok_iff]
  refine and_congr_right fun hround => ?_
  have hpos := roundBatches_pos hround.plan hround.windows.1
  exact ⟨fun h => ⟨_, h.left hpos⟩, fun ⟨_, h⟩ => h.fits hpos⟩

end Round

/-! ### The training -/

section Cohort

variable [F32Arithmetic] {P Window S : Type} {W : WindowLearning P Window S}

/-- The trainer after `k` updates of another one: its trainable coordinates have aged by `k`, and
the others are as they were. -/
structure TrainedBy (k : ℕ) (t t' : CpuFoundationTrainer F32 P) : Prop where
  kept : ∃ next, t' = { t with checkpoint := next }
  step : t'.checkpoint.optimizerStep.toNat = t.checkpoint.optimizerStep.toNat + k
  mask : t'.checkpoint.stageMask = t.checkpoint.stageMask
  full : FullColumns t'.phenotype t'.checkpoint
  age : ∀ i, t.checkpoint.stageMask.isTrainable i = true →
    (coordinate t'.checkpoint i).age.toNat = (coordinate t.checkpoint i).age.toNat + k
  frozen : ∀ i, t.checkpoint.stageMask.isTrainable i = false →
    coordinate t'.checkpoint i = coordinate t.checkpoint i

theorem TrainedBy.update {k : ℕ} {t t' : CpuFoundationTrainer F32 P} (h : TrainedBy k t t')
    {gradients : List F32} {norm : F32} {next : FoundationTrainerCheckpoint F32}
    (hnext : CpuFoundationTrainer.nextCheckpoint t'.phenotype t'.checkpoint gradients
      = .ok (norm, next)) : TrainedBy (k + 1) t { t' with checkpoint := next } := by
  obtain ⟨hstep, hframe, htouched⟩ := nextCheckpoint_spec h.full hnext
  have hfull : FullColumns t'.phenotype
      { t'.checkpoint with optimizerStep := next.optimizerStep } :=
    ⟨h.full.weights_length, h.full.first_length, h.full.second_length, h.full.ages_length,
      h.full.mask_length⟩
  refine ⟨?_, ?_, hframe.stageMask.trans h.mask, hfull.of_sameFrame hframe, fun i hi => ?_,
    fun i hi => ?_⟩
  · obtain ⟨checkpoint, rfl⟩ := h.kept
    exact ⟨next, rfl⟩
  · dsimp only
    rw [hstep, h.step, Nat.add_assoc]
  · have hi' := htouched i
    unfold Touched at hi'
    rw [h.mask, if_pos hi] at hi'
    obtain ⟨-, -, -, hage, -⟩ := hi'
    rw [hage, h.age i hi, Nat.add_assoc]
  · have hi' := htouched i
    unfold Touched at hi'
    rw [h.mask, if_neg (by rw [hi]; exact Bool.false_ne_true)] at hi'
    exact hi'.trans (h.frozen i hi)

/-- A training after `p` epochs and `k` updates, but for its divergences. -/
structure CohortRun.Counts (start : CohortRun P S) (p k : ℕ) (run : CohortRun P S) : Prop where
  trained : TrainedBy k start.trainer run.trainer
  critic : run.value.checkpoint.optimizerStep.toNat
    = start.value.checkpoint.optimizerStep.toNat + k
  version : run.receipt.collectionPolicyVersion = start.receipt.collectionPolicyVersion
  completed : run.receipt.completedEpochs = UInt32.ofNat p
  actorStep : run.receipt.actorOptimizerStep = run.trainer.checkpoint.optimizerStep
  valueStep : run.receipt.valueOptimizerStep = run.value.checkpoint.optimizerStep

structure CohortRun.Runs (target : F32) (start : CohortRun P S) (p k : ℕ)
    (run : CohortRun P S) : Prop extends CohortRun.Counts start p k run where
  running : run.receipt.stoppedForKl = false
  length : run.receipt.meanKlBeforeUpdates.length = k
  below : ∀ x ∈ run.receipt.meanKlBeforeUpdates,
    x.isFinite = true ∧ F32.lt target x = false

structure CohortRun.Stops (target : F32) (start : CohortRun P S) (p k : ℕ)
    (run : CohortRun P S) : Prop extends CohortRun.Counts start p k run where
  stopped : run.receipt.stoppedForKl = true
  divergences : ∃ before last, run.receipt.meanKlBeforeUpdates = before ++ [last]
    ∧ before.length = k ∧ (∀ x ∈ before, x.isFinite = true ∧ F32.lt target x = false)
    ∧ last.isFinite = true ∧ F32.lt target last = true

/-- **A batch** is one more update, or the stop. -/
theorem trainBatch_spec {config : PpoConfig F32} {version : UInt64} {counts : List ℕ}
    {effectiveBatchSize start : ℕ} {first run run' : CohortRun P S} {p k : ℕ} {stopped : Bool}
    (hrun : CohortRun.Runs config.targetKl first p k run)
    (h : trainBatch W config version counts effectiveBatchSize start run = .ok (run', stopped)) :
    if stopped then CohortRun.Stops config.targetKl first p k run'
    else CohortRun.Runs config.targetKl first p (k + 1) run' := by
  unfold trainBatch at h
  obtain ⟨⟨sums, loader⟩, -, h⟩ := contract_bind_eq_ok_iff.1 h
  obtain ⟨-, h⟩ := contract_check_eq_ok_iff.1 h
  obtain ⟨-, h⟩ := contract_check_eq_ok_iff.1 h
  obtain ⟨hfinite, h⟩ := contract_check_eq_ok_iff.1 h
  have hkl : sums.kl.isFinite = true := by
    rw [CpuFoundationTrainer.finite, reject_eq_ok_iff] at hfinite
    by_contra hinfinite
    exact hfinite ⟨sums.kl, List.mem_singleton_self _, hinfinite⟩
  dsimp only at h
  split_ifs at h with habove
  · obtain ⟨rfl, rfl⟩ := Prod.mk.inj (Except.ok.inj h)
    exact ⟨⟨hrun.trained, hrun.critic, hrun.version, hrun.completed, hrun.actorStep,
      hrun.valueStep⟩, rfl, _, _, rfl, hrun.length, hrun.below, hkl, habove⟩
  · obtain ⟨value, hvalue, h⟩ := contract_bind_eq_ok_iff.1 h
    obtain ⟨⟨norm, checkpoint⟩, hcheckpoint, h⟩ := contract_bind_eq_ok_iff.1 h
    obtain ⟨rfl, rfl⟩ := Prod.mk.inj (Except.ok.inj h)
    refine ⟨⟨hrun.trained.update hcheckpoint, ?_, hrun.version, hrun.completed, rfl, rfl⟩,
      hrun.running, ?_, fun x hx => ?_⟩
    · rw [CpuValueHead.optimizerStep_of_proposal hvalue, hrun.critic, Nat.add_assoc]
    · rw [List.length_append, hrun.length, List.length_singleton]
    · rcases List.mem_append.1 hx with hx | hx
      · exact hrun.below x hx
      · rw [List.mem_singleton.1 hx]
        exact ⟨hkl, Bool.eq_false_iff.2 habove⟩

theorem CohortRun.Runs.finishEpoch {target : F32} {first run : CohortRun P S} {p k : ℕ}
    (h : CohortRun.Runs target first p k run) :
    CohortRun.Runs target first (p + 1) k run.finishEpoch :=
  ⟨⟨h.trained, h.critic, h.version,
    (congrArg (· + 1) h.completed).trans (UInt32.ofNat_add p 1).symm, h.actorStep, h.valueStep⟩,
    h.running, h.length, h.below⟩

/-- **A training that returned**: its receipt is explained by the updates it made. -/
theorem trainCpuResidualCohort_spec {trainer : CpuFoundationTrainer F32 P}
    {value : CpuValueHead F32} {windowCount effectiveBatchSize : ℕ} {loader : S}
    {config : PpoConfig F32} {version : UInt64} {run : CohortRun P S}
    (hfull : FullColumns trainer.phenotype trainer.checkpoint)
    (h : trainCpuResidualCohort W trainer value windowCount effectiveBatchSize loader config version
      = .ok run) :
    ∃ updates, ReceiptFits ((windowCount + effectiveBatchSize - 1) / effectiveBatchSize)
        config.epochs.toNat config.targetKl run.receipt updates
      ∧ TrainedBy updates trainer run.trainer
      ∧ run.value.checkpoint.optimizerStep.toNat = value.checkpoint.optimizerStep.toNat + updates
      ∧ run.receipt.collectionPolicyVersion = version
      ∧ run.receipt.actorOptimizerStep = run.trainer.checkpoint.optimizerStep
      ∧ run.receipt.valueOptimizerStep = run.value.checkpoint.optimizerStep := by
  unfold trainCpuResidualCohort at h
  obtain ⟨-, h⟩ := contract_check_eq_ok_iff.1 h
  obtain ⟨hcounts, h⟩ := contract_check_eq_ok_iff.1 h
  obtain ⟨⟨counts, loader'⟩, -, h⟩ := contract_bind_eq_ok_iff.1 h
  obtain ⟨⟨last, stopped⟩, hpasses, h⟩ := contract_bind_eq_ok_iff.1 h
  obtain rfl : last = run := Except.ok.inj h
  rw [reject_eq_ok_iff] at hcounts
  push Not at hcounts
  obtain ⟨hwindows, hbatch, -⟩ := hcounts
  have hpos : 0 < (windowCount + effectiveBatchSize - 1) / effectiveBatchSize :=
    Nat.div_pos (by omega) (by omega)
  set first : CohortRun P S := ⟨trainer, value, loader', _⟩
  have hfirst : CohortRun.Runs config.targetKl first 0 0 first :=
    ⟨⟨⟨⟨_, rfl⟩, rfl, rfl, hfull, fun _ _ => rfl, fun _ _ => rfl⟩, rfl, rfl, rfl, rfl, rfl⟩, rfl,
      rfl, fun x hx => absurd hx List.not_mem_nil⟩
  have hrule := passes_rule (CohortRun.Runs config.targetKl first)
    (CohortRun.Stops config.targetKl first) (p := 0)
    (fun p start _ k run run' stopped hrun hstep => trainBatch_spec hrun hstep)
    (fun p run hrun => hrun.finishEpoch)
    (by rwa [Nat.zero_mul]) hpasses
  rw [Nat.zero_add, length_stepBy] at hrule
  set batches := (windowCount + effectiveBatchSize - 1) / effectiveBatchSize
  cases stopped with
  | true =>
    obtain ⟨k, hk, hstops⟩ := hrule
    obtain ⟨before, kl, hmeanKl, hlength, hbelow, hfinite, habove⟩ := hstops.divergences
    have hepoch : k / batches < config.epochs.toNat := (Nat.div_lt_iff_lt_mul hpos).2 hk
    refine ⟨k, ⟨?_, ?_, fun _ => hk, fun hrun => absurd (hstops.stopped.symm.trans hrun) nofun,
      fun i x hi => ?_⟩, hstops.trained, hstops.critic, hstops.version, hstops.actorStep,
      hstops.valueStep⟩
    · rw [hstops.completed]
      exact UInt32.toNat_ofNat_of_lt' (hepoch.trans config.epochs.toNat_lt)
    · rw [hmeanKl, List.length_append, hlength, hstops.stopped]
      rfl
    · rw [hmeanKl, List.length_append, List.length_singleton, hstops.stopped, Bool.true_and]
      rw [hmeanKl] at hi
      by_cases hlast : i < before.length
      · rw [List.getElem?_append_left hlast] at hi
        obtain ⟨hx, hlt⟩ := hbelow x (List.mem_of_getElem? hi)
        refine ⟨hx, ?_⟩
        rw [hlt, eq_comm, beq_eq_false_iff_ne]
        omega
      · rw [List.getElem?_append_right (not_lt.1 hlast)] at hi
        obtain ⟨hzero, hx⟩ := List.getElem?_eq_some_iff.1 hi
        rw [List.length_singleton] at hzero
        rw [List.getElem_singleton] at hx
        subst hx
        refine ⟨hfinite, ?_⟩
        rw [habove, eq_comm, beq_iff_eq]
        omega
  | false =>
    have hruns : CohortRun.Runs config.targetKl first config.epochs.toNat
      (config.epochs.toNat * batches) last := hrule
    refine ⟨config.epochs.toNat * batches, ⟨?_, ?_,
      fun hstop => absurd (hruns.running.symm.trans hstop) nofun, fun _ => rfl,
      fun i x hi => ?_⟩, hruns.trained, hruns.critic, hruns.version, hruns.actorStep,
      hruns.valueStep⟩
    · rw [hruns.completed, Nat.mul_div_cancel _ hpos]
      exact UInt32.toNat_ofNat_of_lt' config.epochs.toNat_lt
    · rw [hruns.length, hruns.running]
      rfl
    · rw [hruns.running, Bool.false_and]
      exact hruns.below x (List.mem_of_getElem? hi)

/-- The checkpoint after a training fits the one before it, bound to whatever phenotype. -/
theorem TrainedBy.actorFits {k : ℕ} {t t' : CpuFoundationTrainer F32 P} (h : TrainedBy k t t')
    (hfull : FullColumns t.phenotype t.checkpoint) {updates : UInt32} (hupdates : updates.toNat = k)
    (phenotypeHash : Digest256) (sourceFoundationDigest : Blake3Digest) :
    ActorFits t.checkpoint { t'.checkpoint with phenotypeHash, sourceFoundationDigest }
      updates := by
  refine ⟨h.mask.symm, ?_, fun i _ => ?_⟩
  · obtain ⟨next, hnext⟩ := h.kept
    have hlength := h.full.weights_length
    rw [hnext] at hlength ⊢
    exact hfull.weights_length.trans hlength.symm
  · unfold Aged
    split_ifs with htrainable
    · rw [hupdates]
      exact h.age i htrainable
    · -- a frozen coordinate is the same in each of its columns
      have hsame := h.frozen i (Bool.eq_false_iff.2 htrainable)
      exact ⟨congrArg Coordinate.weight hsame, congrArg Coordinate.first hsame,
        congrArg Coordinate.second hsame, congrArg Coordinate.age hsame⟩

variable {Handoff Trainer Cohort : Type}

/-- **The round accepts what its training leaves.**  A result whose receipt is that of a training,
and whose handoffs hold the actor and the critic before and after it, is accepted when the rest of
it fits; its steps tell how many updates the trainable coordinates have aged by, and the frozen
coordinates are as they were. -/
theorem trained_receipt_accepted {L : RoundLearner Handoff Trainer Cohort}
    {r : CpuCooperativeRoundResultV1 Handoff} {trainer : CpuFoundationTrainer F32 P}
    {value : CpuValueHead F32} {loader : S} {config : PpoConfig F32} {version : UInt64}
    {run : CohortRun P S} (hfull : FullColumns trainer.phenotype trainer.checkpoint)
    (htrain : trainCpuResidualCohort W trainer value r.windows r.plan.effectiveBatchSize loader
      config version = .ok run)
    (hepochs : config.epochs = r.plan.config.epochs)
    (htarget : config.targetKl = r.plan.config.targetKl)
    (hversion : version = r.plan.snapshot.policyVersion) (hupdate : r.update = run.receipt)
    (hbefore : L.actor r.sourceHandoff = trainer.checkpoint)
    (hafter : ∃ phenotypeHash sourceFoundationDigest, L.actor r.outputHandoff
      = { run.trainer.checkpoint with phenotypeHash, sourceFoundationDigest })
    (hvalueBefore : L.valueStep r.sourceHandoff = value.checkpoint.optimizerStep)
    (hvalueAfter : L.valueStep r.outputHandoff = run.value.checkpoint.optimizerStep)
    (hround : RoundRest L r) :
    r.validate L = .ok ()
      ∧ (∀ i, trainer.checkpoint.stageMask.isTrainable i = true →
        (coordinate run.trainer.checkpoint i).age.toNat
          = (coordinate trainer.checkpoint i).age.toNat + (roundUpdates L r).toNat)
      ∧ ∀ i, trainer.checkpoint.stageMask.isTrainable i = false →
        coordinate run.trainer.checkpoint i = coordinate trainer.checkpoint i := by
  obtain ⟨updates, hreceipt, htrained, hcritic, hcollection, hactorStep, hvalueStep⟩ :=
    trainCpuResidualCohort_spec hfull htrain
  obtain ⟨phenotypeHash, sourceFoundationDigest, hafter⟩ := hafter
  have hsource : L.actorStep r.sourceHandoff = trainer.checkpoint.optimizerStep := by
    rw [RoundLearner.actorStep, hbefore]
  have houtput : L.actorStep r.outputHandoff = run.trainer.checkpoint.optimizerStep := by
    rw [RoundLearner.actorStep, hafter]
  obtain ⟨hforwards, hupdates⟩ := not_lt_and_toNat_sub_eq htrained.step
  obtain ⟨hcriticForwards, hcriticUpdates⟩ := not_lt_and_toNat_sub_eq hcritic
  rw [← hsource, ← houtput] at hforwards hupdates
  rw [← hvalueBefore, ← hvalueAfter] at hcriticForwards hcriticUpdates
  have hfits : RoundFits L r := by
    refine ⟨hround, hforwards, ⟨hcriticForwards, ?_⟩, ?_, ⟨?_, ?_⟩, fun _ => ?_⟩
    · exact UInt32.toNat_inj.1 (hcriticUpdates.trans hupdates.symm)
    · rw [hupdate, hcollection, hversion]
    · rw [hupdate, hactorStep, houtput]
    · rw [hupdate, hvalueStep, hvalueAfter]
    · rw [hbefore, hafter]
      exact htrained.actorFits hfull hupdates _ _
  rw [validate_eq_ok_iff, roundUpdates, hupdates, hupdate, ← hepochs, ← htarget]
  exact ⟨⟨hfits, hreceipt⟩, htrained.age, htrained.frozen⟩

end Cohort

/-! ### A training that stops in its second epoch -/

/-- A rational rounded towards zero. -/
def towardsZero (q : ℚ) : F32 :=
  let ulps := (|q| * 2 ^ 149).floor.toNat
  let shift := ulps.log2 - 23
  ⟨UInt32.ofNat ((if q < 0 then 2 ^ 31 else 0) + shift * 2 ^ 23 + ulps / 2 ^ shift)⟩

/-- The operations of rationals, each result rounded towards zero. -/
@[reducible]
def truncatedArithmetic : F32Arithmetic where
  add a b := towardsZero (a.value + b.value)
  sub a b := towardsZero (a.value - b.value)
  mul a b := towardsZero (a.value * b.value)
  div a b := towardsZero (a.value / b.value)
  neg a := towardsZero (-a.value)
  max a b := towardsZero (max a.value b.value)
  abs a := towardsZero |a.value|
  sqrt a := towardsZero (FloatOps.sqrt a.value)
  exp a := towardsZero (FloatOps.exp a.value)
  tanh a := towardsZero (FloatOps.tanh a.value)
  powf a n := towardsZero (FloatOps.powf a.value n)
  sum l := towardsZero (FloatOps.sum (l.map F32.value))
  literal n d := towardsZero (n / d)

attribute [local
instance] truncatedArithmetic

/-- A neuron and two synapses from it to itself. -/
def pairGraph : CpuReplay.BrainPhenotype F32 where
  phenotypeHash := ⟨1, 2, 3, 4⟩
  neuronCount := 1
  microstepCount := 1
  microstepCount_pos := Nat.zero_lt_one
  routeCount := 1
  projections := fun _ => ⟨.hot60Hz, 0⟩
  synapseCount := 2
  synapses := fun _ =>
    ⟨⟨0, Nat.zero_lt_one⟩, ⟨0, Nat.zero_lt_one⟩, ⟨0, Nat.zero_lt_one⟩, .recurrent⟩
  neuronDynamics := fun _ => ⟨.zero, .one, .identity, .zero, .zero, .zero⟩
  candidateDecoder := ⟨0, none, []⟩
  inputLane_lt := fun _ _ h => absurd h CompiledSynapseKind.noConfusion
  speech_coordinate := fun _ _ h => absurd h CompiledSynapseKind.noConfusion

/-- The first synapse is trainable, the second frozen. -/
def pairTrainer : CpuFoundationTrainer F32 Unit where
  phenotype :=
    { foundation :=
        { brainClassId := .n2048
          sensorProfile := .groundedObjectSlotsV1
          foundationAbi := .migratedOrCandidate fun _ => .ok ()
          languageCodebookDigest := .default
          actionDecoderDigest := ⟨0, 0, 0, 0⟩
          speechDecoderDigest := none
          memoryDecoderDigest := none
          routeAbiDigest := .default
          plasticityAbiDigest := .default
          addressMapDigest := .default }
      graph := pairGraph
      projectionType := fun _ => .homeostatic
      geneticWeight := fun _ => .one
      alpha := fun _ => .one
      receptorIndex := fun _ => 0
      geneticWeight_finite := fun _ => rfl
      plan := () }
  sourceFoundation := ⟨sampleSource.manifest, [.one, .one], ⟨Vector.replicate 32 1⟩⟩
  checkpoint :=
    { schemaVersion := 2
      phenotypeHash := ⟨1, 2, 3, 4⟩
      sourceFoundationDigest := ⟨Vector.replicate 32 1⟩
      optimizerStep := 3
      config := ⟨⟨0x3E000000⟩, ⟨0x3F000000⟩, ⟨0x3F000000⟩, .one, .zero, .one⟩
      stageMask := ⟨[1, 0]⟩
      weights := [.one, .one]
      firstMoment := [.zero, .zero]
      secondMoment := [.zero, .zero]
      updateAges := [1, 0] }
  graph := CpuReplay.SparseGraph.new pairGraph

def sampleHead : CpuValueHead F32 := ⟨⟨1, 0, List.replicate 6 .zero, none⟩⟩

/-- Windows of one row, counted as they are loaded, which do not diverge until two updates are
made. -/
def divergingWindows : WindowLearning Unit Unit ℕ where
  load _ loads := .ok ((), loads + 1)
  rows _ := 1
  criticFeatures _ := [[.zero], [.one]]
  criticRows _ := [⟨0, 1, .one, .zero⟩]
  validateFrozen _ _ _ _ _ := .ok ()
  evaluate t _ _ _ := .ok ([.one, .zero], [if t.checkpoint.optimizerStep < 5 then .zero else .one])

/-- A learner whose handoffs are an actor and the optimizer step of its critic. -/
def handoffLearner : RoundLearner (FoundationTrainerCheckpoint F32 × UInt32) Unit Unit where
  planDigest _ := Vector.replicate 32 1
  resultDigest _ := Vector.replicate 32 1
  fileDigest _ := zeroSha256
  encode _ := []
  parse _ := .error .eof
  origin _ := .nativeCpu
  policyVersion _ := 1
  actor := Prod.fst
  valueStep := Prod.snd
  exact a b := a == b
  exactConfig a b := a == b
  validateHandoff _ := .ok ()
  restoreSource _ _ := .ok ()
  validateCompiled _ _ _ := .ok ()
  source _ := .ok (pairTrainer.checkpoint, 0)
  admitCpuCollectorShards _ _ _ := .error (.json .other)
  verify _ := .ok ()
  train _ _ _ _ := .error (.json .other)
  optimizerStep _ := 0
  handoff _ handoff _ := .ok handoff

/-- The result of a training of the pair, which was exported and bound to another phenotype. -/
def pairResult (run : CohortRun Unit ℕ) :
    CpuCooperativeRoundResultV1 (FoundationTrainerCheckpoint F32 × UInt32) where
  schemaVersion := 1
  mode := "native_cpu_cooperative_round".toList
  plan := samplePlan
  sourceHandoff := (pairTrainer.checkpoint, 0)
  outputHandoff :=
    ({ run.trainer.checkpoint with
        phenotypeHash := ⟨5, 6, 7, 8⟩
        sourceFoundationDigest := ⟨Vector.replicate 32 2⟩ }, run.value.checkpoint.optimizerStep)
  update := run.receipt
  windows := 2
  trainingRows := 2
  windowTrajectories := [⟨"run".toList, 1⟩, ⟨"run".toList, 2⟩]
  payloadSha256 := Vector.replicate 32 1

/-- The divergence stops the training in its second epoch, after two updates: the round accepts its
result, in which the first synapse has aged and the second is as it was. -/
theorem trained_receipt_accepted_stopped :
    ∃ run, trainCpuResidualCohort divergingWindows pairTrainer sampleHead 2 1 0 samplePlan.config 1
        = .ok run
      ∧ run.receipt = ⟨1, 1, true, [.zero, .zero, .one], 5, 2⟩
      ∧ (pairResult run).validate handoffLearner = .ok ()
      ∧ (coordinate run.trainer.checkpoint 0).age.toNat
        = (coordinate pairTrainer.checkpoint 0).age.toNat + 2
      ∧ coordinate run.trainer.checkpoint 1 = coordinate pairTrainer.checkpoint 1 := by
  have hmap : (trainCpuResidualCohort divergingWindows pairTrainer sampleHead 2 1 0
      samplePlan.config 1).map
        (fun run => (run.receipt, run.trainer.checkpoint.optimizerStep,
          run.trainer.checkpoint.config))
      = .ok (⟨1, 1, true, [.zero, .zero, .one], 5, 2⟩, 5, pairTrainer.checkpoint.config) := by
    decide +kernel
  obtain ⟨run, hrun, hnumbers⟩ := exists_of_map_eq_ok hmap
  obtain ⟨hreceipt, hrest⟩ := Prod.mk.inj hnumbers
  obtain ⟨hstep, hconfig⟩ := Prod.mk.inj hrest
  have hupdates : roundUpdates handoffLearner (pairResult run) = 2 := by
    change run.trainer.checkpoint.optimizerStep - 3 = 2
    rw [hstep]
    decide
  have hplan : samplePlan.validate handoffLearner = .ok () := by rfl
  have houtput : OutputFits handoffLearner (pairResult run) () := by
    refine ⟨rfl, rfl, ?_, rfl⟩
    change (pairTrainer.checkpoint.config == run.trainer.checkpoint.config) = true
    rw [hconfig, beq_self_eq_true]
  have hbounds : (2 ≠ 0 ∧ 2 ≤ maxDecisions) ∧ 2 ≤ 2 ∧ 2 ≤ maxDecisions := by decide
  have hbudget : (2 + 1 - 1) / 1 * samplePlan.config.epochs.toNat ≤ maxOptimizerUpdates := by
    decide
  have hround : RoundRest handoffLearner (pairResult run) := by
    refine ⟨hplan, rfl, rfl, rfl, rfl, hbounds.1, hbounds.2, hbudget, ⟨rfl, _, by rfl⟩, (), rfl,
      ?_⟩
    rw [hupdates, if_neg (by decide)]
    exact houtput
  obtain ⟨hvalidate, hage, hfrozen⟩ := trained_receipt_accepted (r := pairResult run)
    ⟨rfl, rfl, rfl, rfl, rfl⟩ hrun rfl rfl rfl rfl rfl ⟨_, _, rfl⟩ rfl rfl hround
  rw [hupdates] at hage
  exact ⟨run, hrun, hreceipt, hvalidate, hage 0 (by decide), hfrozen 1 (by decide)⟩

end Training

end ALife
