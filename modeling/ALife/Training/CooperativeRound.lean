/-
# A cooperative round

`run_cpu_cooperative_round`.  A `RoundCall` is a call with what it meets: the
suffix its stage gets and the steps that fail, or before which the process dies.
`learned` is what the plan and its inputs make, when nothing fails.
-/

import ALife.Training.RoundOutput

namespace ALife

open Machine Directory

variable {Handoff Trainer Cohort : Type}

/-- What a round has when it starts to learn. -/
structure PreparedRound (Handoff Trainer Cohort : Type) where
  source : Handoff
  trainer : Trainer
  cohort : AdmittedCohort Cohort

/-- The result before it has its digest. -/
def PreparedRound.unsealed (round : PreparedRound Handoff Trainer Cohort)
    (plan : CpuCooperativeRoundPlanV1) (outputHandoff : Handoff) (update : PpoUpdateReceipt) :
    CpuCooperativeRoundResultV1 Handoff where
  schemaVersion := 1
  mode := "native_cpu_cooperative_round".toList
  plan := plan
  sourceHandoff := round.source
  outputHandoff := outputHandoff
  update := update
  windows := round.cohort.rows.length
  trainingRows := round.cohort.rows.sum
  windowTrajectories := round.cohort.trajectories
  payloadSha256 := zeroSha256

namespace RoundLearner

variable (L : RoundLearner Handoff Trainer Cohort)

/-- The bounds on the admitted cohort and on the updates it may take. -/
def checkBudget (plan : CpuCooperativeRoundPlanV1) (source : Handoff)
    (cohort : AdmittedCohort Cohort) : Except RoundError Unit := do
  let windows := cohort.rows.length
  let trainingRows := cohort.rows.sum
  failIf (windows = 0 ∨ maxDecisions < windows ∨ maxDecisions < trainingRows)
    (.invalid "round has no loss rows or exceeds its window bound")
  let maxUpdates := (windows + plan.effectiveBatchSize - 1) / plan.effectiveBatchSize
    * plan.config.epochs.toNat
  failIf (maxOptimizerUpdates < maxUpdates) (.invalid "round exceeds its optimizer update bound")
  failIf (2 ^ 32 ≤ (L.actorStep source).toNat + maxUpdates
      ∨ 2 ^ 32 ≤ (L.valueStep source).toNat + maxUpdates)
    (.invalid "round optimizer budget would overflow retained integer steps")

/-- Restores the source and admits the inputs. -/
def prepared (plan : CpuCooperativeRoundPlanV1) (source : Handoff) :
    Except RoundError (PreparedRound Handoff Trainer Cohort) := do
  let trainer ← L.restoreSource source plan
  let cohort ← L.admitCpuCollectorShards plan source trainer
  L.checkBudget plan source cohort
  pure ⟨source, trainer, cohort⟩

/-- The handoff of the output: the source when nothing was updated. -/
def outputHandoff (plan : CpuCooperativeRoundPlanV1) (source : Handoff) (trainer : Trainer) :
    Except RoundError Handoff :=
  if L.optimizerStep trainer = L.actorStep source then .ok source
  else L.handoff plan source trainer

/-- Learns, and seals and checks the result. -/
def learn (plan : CpuCooperativeRoundPlanV1) (round : PreparedRound Handoff Trainer Cohort) :
    Except RoundError (CpuCooperativeRoundResultV1 Handoff) := do
  let (update, trainer) ← L.train plan round.source round.trainer round.cohort.windows
  let outputHandoff ← L.outputHandoff plan round.source trainer
  let result := round.unsealed plan outputHandoff update
  let result := { result with payloadSha256 := L.resultDigest result.payload }
  result.validate L
  pure result

/-- What a round does before it looks at its output. -/
def prepareRound (plan : CpuCooperativeRoundPlanV1) :
    RoundM (PreparedRound Handoff Trainer Cohort) := do
  ofResult (plan.validate L)
  Faulted.access
  let source ← ofResult (L.source plan)
  Faulted.access
  let round ← ofResult (L.prepared plan source)
  Faulted.access
  ofResult (L.verify plan)
  Faulted.access
  pure round

/-- Learns, publishes the result and looks at the inputs once more. -/
def learnAndPublish (depth : ℕ) (suffix : List Char) (plan : CpuCooperativeRoundPlanV1)
    (round : PreparedRound Handoff Trainer Cohort) :
    RoundM (CpuCooperativeRoundResultV1 Handoff) := do
  mark plan
  let result ← ofResult (L.learn plan round)
  Faulted.access
  ofResult (L.verify plan)
  let result ← L.publishRoundResult depth suffix result
  Faulted.access
  ofResult (L.verify plan)
  pure result

/-- `run_cpu_cooperative_round`. -/
def runCpuCooperativeRound (depth : ℕ) (suffix : List Char) (plan : CpuCooperativeRoundPlanV1) :
    RoundM (CpuCooperativeRoundResultV1 Handoff) := do
  let round ← L.prepareRound plan
  let recovered ← L.recoverRoundResult depth plan
  match recovered with
  | some result => do
    Faulted.access
    ofResult (L.verify plan)
    pure result
  | none => L.learnAndPublish depth suffix plan round

/-- What a plan makes of its inputs. -/
def learned (plan : CpuCooperativeRoundPlanV1) :
    Except RoundError (CpuCooperativeRoundResultV1 Handoff) := do
  plan.validate L
  let source ← L.source plan
  let round ← L.prepared plan source
  L.verify plan
  L.learn plan round

end RoundLearner

/-- What is known of the JSON texts of the results that are learned: a result is read
back from its text, a proper prefix of the text ends too early, and no text is
empty. -/
structure RoundLearner.Lawful (L : RoundLearner Handoff Trainer Cohort) : Prop where
  roundTrip : ∀ plan r, L.learned plan = .ok r → L.parse (L.encode r) = .ok r
  torn : ∀ plan r bytes, L.learned plan = .ok r → bytes <+: L.encode r → bytes ≠ L.encode r →
    L.parse bytes = .error .eof
  encode_ne_nil : ∀ plan r, L.learned plan = .ok r → L.encode r ≠ []

/-- A call: its plan, the suffix of its stage, the depth of the directory and the
steps that fail. -/
structure RoundCall where
  plan : CpuCooperativeRoundPlanV1
  suffix : List Char
  depth : ℕ
  faults : ℕ → Option ℕ

namespace RoundLearner

variable (L : RoundLearner Handoff Trainer Cohort)

/-- How a call ends in a directory. -/
def call (w : RoundDirectory) (c : RoundCall) :
    EStateM.Result RoundError (Faulted RoundDirectory) (CpuCooperativeRoundResultV1 Handoff) :=
  L.runCpuCooperativeRound c.depth c.suffix c.plan ⟨w, c.faults, 0⟩

/-- The directory that a call leaves. -/
def after (w : RoundDirectory) (c : RoundCall) : RoundDirectory := (stateAfter (L.call w c)).world

/-- The directory that a history of calls leaves. -/
def afterAll (w : RoundDirectory) (calls : List RoundCall) : RoundDirectory := calls.foldl L.after w

end RoundLearner

/-- The output directory before the first call. -/
def emptyOutput : RoundDirectory := ⟨∅, []⟩

end ALife
