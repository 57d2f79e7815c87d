/-
# The plan and the result of a cooperative round

The contracts of `crates/alife_training/src/cpu/cooperative_round.rs`.  A
`RoundLearner` is what the round calls and does not define: the hashes, the
JSON texts, the checks of a handoff, the compilation of an output and the learning
itself, as functions of the plan and of inputs that do not change.  Texts are lists of characters.
-/

import ALife.Machine.Disk
import ALife.Training.JointAction
import ALife.World.Habitat
import Mathlib.Data.Char
import Mathlib.Data.List.Lex

namespace ALife

open Machine
open Training (AdamWConfig FoundationTrainerCheckpoint PpoConfig)

/-- `[u8; 32]`. -/
abbrev Sha256 := Vector UInt8 32

def zeroSha256 : Sha256 := Vector.replicate 32 0

/-- What `serde_json` tells of an error: whether the text ended too early. -/
inductive JsonError where
  | eof | other
  deriving DecidableEq, Repr

/-- `Box<dyn Error>`, as far as the round tells its errors apart. -/
inductive RoundError where
  | invalid (message : String)
  | io (kind : IoErrorKind)
  | json (error : JsonError)
  | training (error : ScaffoldContractError)
  deriving DecidableEq, Repr

instance : FromIo RoundError := ⟨RoundError.io⟩

/-- `?` on a contract. -/
def RoundError.ofContract {α : Type} (x : Contract α) : Except RoundError α := x.mapError .training

theorem RoundError.ofContract_eq_ok_iff {α : Type} {x : Contract α} {a : α} :
    RoundError.ofContract x = .ok a ↔ x = .ok a := by
  cases x <;> simp [RoundError.ofContract, Except.mapError]

/-- `str::len`. -/
def byteLen (text : List Char) : ℕ := (text.map Char.utf8Size).sum

def maxCollectors : ℕ := 64
def maxDecisions : ℕ := 65536
def maxOptimizerUpdates : ℕ := 65536
def maxTrainingSequenceTicks : ℕ := 2048

inductive FoundationTrainingBackendV1 where
  | nativeCpu | nativeGpu
  deriving DecidableEq, Repr

/-- The derived `==`: the floats are compared as floats. -/
def Training.PpoConfig.eq (a b : PpoConfig F32) : Bool :=
  a.epochs == b.epochs && (a.floats.zip b.floats).all (fun p => F32.feq p.1 p.2)
    && (a.valueOptimizer.floats.zip b.valueOptimizer.floats).all (fun p => F32.feq p.1 p.2)

structure CpuCollectionSnapshotV1 where
  policyVersion : UInt64
  biologicalObjectiveVersion : UInt16
  criticObjectiveVersion : UInt16
  actorSha256 : Sha256
  criticSha256 : Sha256
  compilerSha256 : Sha256
  ppoConfigSha256 : Sha256
  deriving DecidableEq, Repr

structure CpuCollectorAssignmentV1 where
  collectorRunId : List Char
  backend : FoundationTrainingBackendV1
  producerRevision : List Char
  worldSeed : UInt64
  samplingSeed : UInt32
  samplingCounterStart : UInt32
  samplingCounterEnd : UInt32
  lesson : List Char
  episodeConfigSha256 : Sha256
  deriving DecidableEq, Repr

/-- `CpuCollectorAssignmentV1::validate`. -/
def CpuCollectorAssignmentV1.validate (a : CpuCollectorAssignmentV1) : Contract Unit :=
  let text (s : List Char) : Bool := !isBlank s && byteLen s ≤ 256
  reject (!text a.collectorRunId ∨ !text a.producerRevision ∨ !text a.lesson ∨ a.worldSeed = 0
      ∨ a.samplingCounterStart ≥ a.samplingCounterEnd ∨ a.backend ≠ .nativeCpu
      ∨ a.episodeConfigSha256 = zeroSha256)
    .invalidDecisionEvidence

structure CpuCooperativeRoundMemberV1 where
  assignment : CpuCollectorAssignmentV1
  collectorCommitSha256 : Sha256
  deriving DecidableEq, Repr

structure CpuCooperativeRoundPlanV1 where
  schemaVersion : UInt16
  roundId : List Char
  sourceHandoffSha256 : Sha256
  snapshot : CpuCollectionSnapshotV1
  config : PpoConfig F32
  windowTicks : ℕ
  burnIn : ℕ
  effectiveBatchSize : ℕ
  members : List CpuCooperativeRoundMemberV1
  payloadSha256 : Sha256
  deriving DecidableEq, Repr

structure PpoUpdateReceipt where
  collectionPolicyVersion : UInt64
  completedEpochs : UInt32
  stoppedForKl : Bool
  meanKlBeforeUpdates : List F32
  actorOptimizerStep : UInt32
  valueOptimizerStep : UInt32
  deriving DecidableEq, Repr

structure CpuCollectorTrajectoryId where
  collectorRunId : List Char
  organismId : UInt64
  deriving DecidableEq, Repr

structure CpuCooperativeRoundResultV1 (Handoff : Type) where
  schemaVersion : UInt16
  mode : List Char
  plan : CpuCooperativeRoundPlanV1
  sourceHandoff : Handoff
  outputHandoff : Handoff
  update : PpoUpdateReceipt
  windows : ℕ
  trainingRows : ℕ
  windowTrajectories : List CpuCollectorTrajectoryId
  payloadSha256 : Sha256

/-- What the digest of a plan is taken of. -/
abbrev PlanPayload :=
  UInt16 × List Char × Sha256 × CpuCollectionSnapshotV1 × PpoConfig F32 × ℕ × ℕ × ℕ ×
    List CpuCooperativeRoundMemberV1

/-- What the digest of a result is taken of. -/
abbrev ResultPayload (Handoff : Type) :=
  UInt16 × List Char × CpuCooperativeRoundPlanV1 × Handoff × Handoff × PpoUpdateReceipt × ℕ × ℕ ×
    List CpuCollectorTrajectoryId

/-- The admitted windows of a round: the training rows of each, the trajectory it
is of, and the windows themselves. -/
structure AdmittedCohort (Cohort : Type) where
  rows : List ℕ
  trajectories : List CpuCollectorTrajectoryId
  windows : Cohort

/-- What the round calls: the hashes of JSON texts and of files, the texts of
results, the checks of handoffs, the admission of the inputs and the learning; and
what it reads of a handoff. -/
structure RoundLearner (Handoff Trainer Cohort : Type) where
  planDigest : PlanPayload → Sha256
  resultDigest : ResultPayload Handoff → Sha256
  fileDigest : Bytes → Sha256
  encode : CpuCooperativeRoundResultV1 Handoff → Bytes
  parse : Bytes → Except JsonError (CpuCooperativeRoundResultV1 Handoff)
  origin : Handoff → FoundationTrainingBackendV1
  policyVersion : Handoff → UInt64
  actor : Handoff → FoundationTrainerCheckpoint F32
  valueStep : Handoff → UInt32
  exact : Handoff → Handoff → Bool
  /-- `exact` of two optimizer configurations. -/
  exactConfig : AdamWConfig F32 → AdamWConfig F32 → Bool
  validateHandoff : Handoff → Except RoundError Unit
  restoreSource : Handoff → CpuCooperativeRoundPlanV1 → Except RoundError Trainer
  /-- The compilation of an output that was updated, its restoring in the trainer of the source and
  the comparison of both. -/
  validateCompiled : Trainer → Handoff → Handoff → Except RoundError Unit
  /-- The source that the plan names, as it is read. -/
  source : CpuCooperativeRoundPlanV1 → Except RoundError Handoff
  admitCpuCollectorShards : CpuCooperativeRoundPlanV1 → Handoff → Trainer →
    Except RoundError (AdmittedCohort Cohort)
  /-- `RoundInputs::verify`. -/
  verify : CpuCooperativeRoundPlanV1 → Except RoundError Unit
  train : CpuCooperativeRoundPlanV1 → Handoff → Trainer → Cohort →
    Except RoundError (PpoUpdateReceipt × Trainer)
  optimizerStep : Trainer → UInt32
  /-- The handoff of a trainer that has learned. -/
  handoff : CpuCooperativeRoundPlanV1 → Handoff → Trainer → Except RoundError Handoff

variable {Handoff Trainer Cohort : Type}

/-- The optimizer step of the actor. -/
def RoundLearner.actorStep (L : RoundLearner Handoff Trainer Cohort) (handoff : Handoff) : UInt32 :=
  (L.actor handoff).optimizerStep

namespace CpuCooperativeRoundPlanV1

def payload (p : CpuCooperativeRoundPlanV1) : PlanPayload :=
  (p.schemaVersion, p.roundId, p.sourceHandoffSha256, p.snapshot, p.config, p.windowTicks, p.burnIn,
    p.effectiveBatchSize, p.members)

/-- The derived `==`. -/
def eq (a b : CpuCooperativeRoundPlanV1) : Bool :=
  a.schemaVersion == b.schemaVersion && a.roundId == b.roundId
    && a.sourceHandoffSha256 == b.sourceHandoffSha256 && a.snapshot == b.snapshot
    && a.config.eq b.config && a.windowTicks == b.windowTicks && a.burnIn == b.burnIn
    && a.effectiveBatchSize == b.effectiveBatchSize && a.members == b.members
    && a.payloadSha256 == b.payloadSha256

/-- One member of the loop of `validate`: the run before it and the decisions so far. -/
def validateMember (seen : Option (List Char) × ℕ) (m : CpuCooperativeRoundMemberV1) :
    Except RoundError (Option (List Char) × ℕ) := do
  RoundError.ofContract m.assignment.validate
  let run := m.assignment.collectorRunId
  failIf (seen.1.any (fun p => run ≤ p) ∨ m.collectorCommitSha256 = zeroSha256)
    (.invalid "round members must be unique and canonically ordered")
  let decisions := seen.2 +
    (m.assignment.samplingCounterEnd - m.assignment.samplingCounterStart).toNat
  failIf (2 ^ 64 ≤ decisions) (.invalid "round decision count overflow")
  pure (some run, decisions)

/-- `CpuCooperativeRoundPlanV1::validate`. -/
def validate (L : RoundLearner Handoff Trainer Cohort) (p : CpuCooperativeRoundPlanV1) :
    Except RoundError Unit := do
  RoundError.ofContract p.config.validate
  failIf (p.schemaVersion ≠ 1 ∨ isBlank p.roundId ∨ 256 < byteLen p.roundId
      ∨ p.sourceHandoffSha256 = zeroSha256 ∨ p.payloadSha256 ≠ L.planDigest p.payload
      ∨ p.windowTicks = 0 ∨ maxTrainingSequenceTicks < p.windowTicks + p.burnIn
      ∨ p.effectiveBatchSize = 0 ∨ F32.le p.config.valueCoefficient .zero
      ∨ maxOptimizerUpdates < p.config.epochs.toNat ∨ p.members = []
      ∨ maxCollectors < p.members.length)
    (.invalid "invalid or unbounded cooperative round plan")
  let seen ← p.members.foldlM validateMember (none, 0)
  failIf (maxDecisions < seen.2) (.invalid "round exceeds its decision bound")

end CpuCooperativeRoundPlanV1

namespace CpuCooperativeRoundResultV1

def payload (r : CpuCooperativeRoundResultV1 Handoff) : ResultPayload Handoff :=
  (r.schemaVersion, r.mode, r.plan, r.sourceHandoff, r.outputHandoff, r.update, r.windows,
    r.trainingRows, r.windowTrajectories)

/-- A divergence before an update is finite, and above its target only where the
round stopped for it. -/
def klRefused (r : CpuCooperativeRoundResultV1 Handoff) (i : ℕ) (kl : F32) : Bool :=
  !kl.isFinite || (F32.lt r.plan.config.targetKl kl !=
    (r.update.stoppedForKl && i + 1 == r.update.meanKlBeforeUpdates.length))

/-- One trajectory of the loop of `validate`, after the run before it. -/
def validateTrajectory (r : CpuCooperativeRoundResultV1 Handoff) (last : Option (List Char))
    (t : CpuCollectorTrajectoryId) : Except RoundError (Option (List Char)) := do
  let run := t.collectorRunId
  failIf (last.any (fun l => run < l)
      ∨ !r.plan.members.any (fun m => m.assignment.collectorRunId == run))
    (.invalid "result trajectory order or membership differs from plan")
  pure (some run)

/-- One coordinate of the loop of `validate`: the columns of a checked handoff are as long as its
weights. -/
def validateCoordinate (before after : FoundationTrainerCheckpoint F32) (delta : UInt32) (i : ℕ) :
    Except RoundError Unit :=
  if before.stageMask.isTrainable i then
    failIf (checkedAdd32 (before.updateAges.getD i 0) delta ≠ some (after.updateAges.getD i 0))
      (.invalid "round reset a trainable coordinate age")
  else
    failIf ((before.weights.getD i .zero).bits ≠ (after.weights.getD i .zero).bits
        ∨ (before.firstMoment.getD i .zero).bits ≠ (after.firstMoment.getD i .zero).bits
        ∨ (before.secondMoment.getD i .zero).bits ≠ (after.secondMoment.getD i .zero).bits
        ∨ before.updateAges.getD i 0 ≠ after.updateAges.getD i 0)
      (.invalid "round changed a frozen coordinate")

/-- The checks of an output that was updated, against its source. -/
def validateUpdated (r : CpuCooperativeRoundResultV1 Handoff)
    (L : RoundLearner Handoff Trainer Cohort) (trainer : Trainer) (delta : UInt32) :
    Except RoundError Unit := do
  let before := L.actor r.sourceHandoff
  let after := L.actor r.outputHandoff
  failIf (L.origin r.outputHandoff ≠ .nativeCpu
      ∨ L.policyVersion r.outputHandoff ≠ r.plan.snapshot.policyVersion
      ∨ !L.exactConfig before.config after.config ∨ before.stageMask ≠ after.stageMask
      ∨ before.weights.length ≠ after.weights.length)
    (.invalid "round changed optimizer configuration or policy identity")
  (List.range before.weights.length).forM (validateCoordinate before after delta)
  L.validateCompiled trainer r.sourceHandoff r.outputHandoff

/-- `CpuCooperativeRoundResultV1::validate`. -/
def validate (L : RoundLearner Handoff Trainer Cohort) (r : CpuCooperativeRoundResultV1 Handoff) :
    Except RoundError Unit := do
  r.plan.validate L
  let trainer ← L.restoreSource r.sourceHandoff r.plan
  L.validateHandoff r.outputHandoff
  let before := r.sourceHandoff
  let after := r.outputHandoff
  failIf (L.actorStep after < L.actorStep before) (.invalid "round actor optimizer moved backwards")
  let delta := L.actorStep after - L.actorStep before
  let batches := (r.windows + r.plan.effectiveBatchSize - 1) / r.plan.effectiveBatchSize
  let maxUpdates := batches * r.plan.config.epochs.toNat
  failIf (2 ^ 64 ≤ maxUpdates) (.invalid "round optimizer budget overflow")
  failIf (r.schemaVersion ≠ 1 ∨ r.mode ≠ "native_cpu_cooperative_round".toList
      ∨ r.payloadSha256 ≠ L.resultDigest r.payload ∨ r.windows = 0 ∨ maxDecisions < r.windows
      ∨ r.trainingRows < r.windows ∨ maxDecisions < r.trainingRows
      ∨ maxOptimizerUpdates < maxUpdates ∨ r.windowTrajectories.length ≠ r.windows
      ∨ L.valueStep after < L.valueStep before ∨ L.valueStep after - L.valueStep before ≠ delta
      ∨ r.update.collectionPolicyVersion ≠ r.plan.snapshot.policyVersion
      ∨ r.update.actorOptimizerStep ≠ L.actorStep after
      ∨ r.update.valueOptimizerStep ≠ L.valueStep after
      ∨ r.update.completedEpochs.toNat ≠ delta.toNat / max batches 1
      ∨ r.update.meanKlBeforeUpdates.length ≠ delta.toNat + r.update.stoppedForKl.toNat
      ∨ (r.update.stoppedForKl ∧ maxUpdates ≤ delta.toNat)
      ∨ (!r.update.stoppedForKl ∧ delta.toNat ≠ maxUpdates)
      ∨ (r.update.meanKlBeforeUpdates.zipIdx.any fun k => r.klRefused k.2 k.1))
    (.invalid "invalid cooperative optimizer result or budget")
  let _ ← r.windowTrajectories.foldlM r.validateTrajectory none
  if delta = 0 then
    failIf (!r.update.stoppedForKl ∨ !L.exact before after)
      (.invalid "zero-update round must retain exact source handoff")
  else
    r.validateUpdated L trainer delta

end CpuCooperativeRoundResultV1

/-! ### A checked plan equals itself -/

theorem feq_self_of_isFinite {x : F32} (h : x.isFinite = true) : F32.feq x x = true := by
  have hnan : x.isNan = false := by
    simp only [F32.isFinite, F32.isNan, decide_eq_true_eq, decide_eq_false_iff_not] at h ⊢
    omega
  simp [F32.feq, hnan]

theorem all_feq_self {l : List F32} (h : l.all F32.isFinite = true) :
    ((l.zip l).all fun p => F32.feq p.1 p.2) = true := by
  rw [List.all_eq_true] at h ⊢
  rintro ⟨x, y⟩ hxy
  obtain rfl : x = y := by
    obtain ⟨i, hi, he⟩ := List.mem_iff_getElem.1 hxy
    rw [List.getElem_zip] at he
    exact (Prod.mk.inj he).1.symm.trans (Prod.mk.inj he).2
  exact feq_self_of_isFinite (h x (List.of_mem_zip hxy).1)

theorem Training.PpoConfig.eq_self {c : PpoConfig F32} (h : c.validate = .ok ()) :
    c.eq c = true := by
  unfold PpoConfig.validate at h
  rw [contract_check_eq_ok_iff, reject_eq_ok_iff] at h
  obtain ⟨hadam, hc⟩ := h
  simp only [not_or, Bool.not_eq_false] at hc
  have hoptimizer : c.valueOptimizer.floats.all F32.isFinite = true := by
    unfold AdamWConfig.validate at hadam
    dsimp only at hadam
    split_ifs at hadam with hall
    simp only [Bool.and_eq_true] at hall
    exact hall.1.1.1.1.1.1
  simp [PpoConfig.eq, all_feq_self hc.2.1, all_feq_self hoptimizer]

theorem CpuCooperativeRoundPlanV1.eq_self {L : RoundLearner Handoff Trainer Cohort}
    {p : CpuCooperativeRoundPlanV1} (h : p.validate L = .ok ()) : p.eq p = true := by
  unfold CpuCooperativeRoundPlanV1.validate at h
  rw [except_seq_eq_ok_iff, RoundError.ofContract_eq_ok_iff] at h
  simp [CpuCooperativeRoundPlanV1.eq, Training.PpoConfig.eq_self h.1]

end ALife
