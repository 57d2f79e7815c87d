/-
# Windows of a trajectory

`cpu_training_windows` and `validate_residual_window`
(`crates/alife_training/src/cpu/cohort.rs`).  The advantages are computed once,
over the whole trajectory of an organism, and sliced into windows; each window
has on its tape the ticks of its rows behind a detached burn-in.  What the code
reads of a record, a patch and a measured physiology is `Evidence`; the reward of
a gap between two measurements is any function of them.
-/

import ALife.Training.FloatReplay
import ALife.Training.PpoBatch

namespace ALife

open Machine

namespace Training

open CpuReplay (BrainPhenotype ReplaySpeechTarget TrainingInitialState TrainingReplayTick
  TrainingSequence)

/-- What is read of the records of an organism: its patches, its measured physiologies and its
final record. -/
structure Evidence (F Patch Bio Record Creature : Type) where
  sequenceId : Patch → UInt64
  preActionTick : Patch → UInt64
  /-- `policy_backend() == NeuralClosedLoopCpu`. -/
  closedLoopCpu : Patch → Bool
  /-- `measured_physiology`, before and after. -/
  measured : Patch → Option (Bio × Bio)
  tick : Bio → UInt64
  organismId : Record → UInt64
  isAlive : Record → Bool
  biochemistry : Record → Bio
  creature : Record → Creature
  sameCreature : Creature → Creature → Bool
  validateRecord : Record → Contract Unit
  /-- The projected reward of the gap from one measurement to the next. -/
  gapReward : Creature → Bio → Bio → Contract F

variable {F D Patch Bio Record Creature : Type}

/-- `CpuCollectedDecision`. -/
structure CpuCollectedDecision (p : BrainPhenotype F) (Patch : Type) where
  organismId : UInt64
  samplingCounter : Option UInt32
  initial : TrainingInitialState p
  replayTick : TrainingReplayTick p
  action : PpoJointAction F
  finalFeatures : List F
  biologicalReward : F
  patch : Patch

structure CriticResidualRow (F : Type) where
  current : UInt32
  next : UInt32
  reward : F
  discount : F

/-- `PpoTrainingWindow`. -/
structure PpoTrainingWindow (p : BrainPhenotype F) (D : Type) where
  sequence : TrainingSequence p
  batch : PpoBatch F D
  speechTargets : List (Option (ReplaySpeechTarget F))

structure CpuResidualTrainingWindow (p : BrainPhenotype F) (D : Type) where
  actor : PpoTrainingWindow p D
  criticFeatures : List (List F)
  criticRows : List (CriticResidualRow F)

variable [FloatOps F] [FloatOps D] (W : Widening F D) (E : Evidence F Patch Bio Record Creature)
  {p : BrainPhenotype F}

/-- `std::f32::consts::LN_2`. -/
def ln2f : F := literal 11629080 16777216

/-- The discount of an elapsed time. -/
def discountOf (config : PpoConfig F) (elapsed : F) : F :=
  FloatOps.exp (-ln2f * elapsed / config.discountHalfLifeSeconds)

/-- Ticks as seconds. -/
def seconds (ticks : UInt64) : F := literal ticks.toNat 1 / literal 20 1

/-! ### The rollout -/

/-- The reward of a decision, with the gap up to the measurement behind it. -/
def rewardOf (config : PpoConfig F) (creature : Creature) (reward : F) (after before : Bio) :
    Contract F :=
  if E.tick after < E.tick before then do
    let gap ← E.gapReward creature after before
    .ok (FloatOps.clamp
      (reward + gap * discountOf config (seconds (E.tick before - E.tick after))) (-1) 1)
  else .ok reward

/-- The body of the loop over decisions. -/
def rolloutRow (decisions : List (CpuCollectedDecision p Patch)) (terminal : Option Bio)
    (values : List F) (creature : Creature) (version : UInt64) (config : PpoConfig F)
    (trainLen i : ℕ) : Contract (PpoTransition F × CriticResidualRow F) := do
  let first ← getOr decisions.head? .invalidDecisionEvidence
  let current ← getOr decisions[i]? .invalidDecisionEvidence
  let next := decisions[i + 1]?
  reject (current.organismId ≠ first.organismId
    ∨ (∃ n ∈ next, n.organismId ≠ first.organismId
        ∨ checkedAdd64 (E.sequenceId current.patch) 1 ≠ some (E.sequenceId n.patch))
    ∨ E.closedLoopCpu current.patch = false) .invalidDecisionEvidence
  let endTick ← getOr (match next with
    | none => terminal.map E.tick
    | some n => some (E.preActionTick n.patch)) .invalidDecisionEvidence
  reject (endTick ≤ E.preActionTick current.patch) .invalidDecisionEvidence
  let dt : F := seconds (endTick - E.preActionTick current.patch)
  let measured ← getOr (E.measured current.patch) .invalidDecisionEvidence
  let before ← getOr (match next with
    | some n => (E.measured n.patch).map (·.1)
    | none => terminal) .invalidDecisionEvidence
  let reward ← rewardOf E config creature current.biologicalReward measured.2 before
  .ok
    ({ policyVersion := version
       trajectoryId := first.organismId
       step := UInt64.ofNat i
       action := current.action
       reward
       oldValue := values.getD i 0
       nextValue := if next.isNone then 0 else values.getD (i + 1) 0
       elapsedSeconds := dt
       boundary :=
         if next.isNone then .terminated
         else if i + 1 = trainLen then .truncated
         else .continuing },
     { current := UInt32.ofNat i
       next := UInt32.ofNat i + 1
       reward
       discount := if next.isNone then 0 else discountOf config dt })

/-- What does not depend on the windows: the batch of the trajectory, its residual rows and the
features they are between. -/
structure Rollout (F D : Type) where
  batch : PpoBatch F D
  residual : List (CriticResidualRow F)
  features : List (List F)

/-- The number of decisions with a row. -/
def trainLen (decisions : List (CpuCollectedDecision p Patch)) (terminal : Option Bio) : ℕ :=
  decisions.length - (if terminal.isNone then 1 else 0)

/-- The first half of `cpu_training_windows`, behind its checks. -/
def rollout (decisions : List (CpuCollectedDecision p Patch)) (terminal : Option Bio)
    (predict : List F → Contract F) (creature : Creature) (version : UInt64)
    (config : PpoConfig F) : Contract (Rollout F D) := do
  let own := decisions.map (·.finalFeatures)
  let last ← getOr own.getLast? .invalidDecisionEvidence
  let features := if terminal.isSome then own ++ [last] else own
  let values ← features.mapM predict
  let rows ← (List.range (trainLen decisions terminal)).mapM
    (rolloutRow E decisions terminal values creature version config (trainLen decisions terminal))
  let batch ← PpoBatch.fromRollout W version (rows.map (·.1)) config
  .ok ⟨batch, rows.map (·.2), features⟩

/-! ### Windows -/

/-- `(0..len).step_by(step)`. -/
def stepBy (len step : ℕ) : List ℕ := (List.range ((len + step - 1) / step)).map (· * step)

/-- The window of the rows from `start` to `stop`. -/
def windowAt (decisions : List (CpuCollectedDecision p Patch)) (r : Rollout F D)
    (burnIn start stop : ℕ) : Contract (CpuResidualTrainingWindow p D) := do
  let before := start - burnIn
  let first ← getOr decisions[before]? .invalidDecisionEvidence
  let ticks := ((decisions.drop before).take (stop - before)).map (·.replayTick)
  let batch ← r.batch.window start stop
  .ok
    { actor :=
        { sequence :=
            { phenotypeHash := p.phenotypeHash
              initial := first.initial
              ticks
              burnInTicks := start - before
              memoryCandidateGain := p.candidateDecoder.memoryChannel.getD 0 }
          batch
          speechTargets := ticks.map fun _ => none }
      criticFeatures := (r.features.drop start).take (stop + 1 - start)
      criticRows := ((r.residual.drop start).take (stop - start)).mapIdx fun i row =>
        { current := UInt32.ofNat i
          next := UInt32.ofNat i + 1
          reward := row.reward
          discount := row.discount } }

/-- The second half of `cpu_training_windows`. -/
def slices (decisions : List (CpuCollectedDecision p Patch)) (r : Rollout F D)
    (windowTicks burnIn : ℕ) : Contract (List (CpuResidualTrainingWindow p D)) :=
  let len := r.batch.transitions.length
  (stepBy len windowTicks).mapM fun start =>
    windowAt decisions r burnIn start (min (start + windowTicks) len)

/-- The check of a final record. -/
def checkTerminal (decisions : List (CpuCollectedDecision p Patch)) (creature : Creature)
    (record : Record) : Contract Unit := do
  E.validateRecord record
  let first ← getOr decisions.head? .invalidDecisionEvidence
  reject (E.isAlive record = true ∨ E.organismId record ≠ first.organismId
    ∨ E.sameCreature (E.creature record) creature = false) .invalidDecisionEvidence

/-- `cpu_training_windows`. -/
def cpuTrainingWindows (decisions : List (CpuCollectedDecision p Patch))
    (terminalRecord : Option Record) (predict : List F → Contract F) (creature : Creature)
    (version : UInt64) (config : PpoConfig F) (windowTicks burnIn : ℕ) :
    Contract (List (CpuResidualTrainingWindow p D)) := do
  config.validate
  terminalRecord.forM (checkTerminal E decisions creature)
  let terminal := terminalRecord.map E.biochemistry
  reject (decisions = [] ∨ (terminal.isNone ∧ decisions.length < 2) ∨ windowTicks = 0
    ∨ CpuReplay.maxTrainingSequenceTicks < windowTicks + burnIn) .invalidDecisionEvidence
  let r ← rollout W E decisions terminal predict creature version config
  slices decisions r windowTicks burnIn

/-- One row of the loop of `validate_residual_window`. -/
def checkResidualRow (config : PpoConfig F) (i : ℕ) (row : CriticResidualRow F)
    (t : PpoTransition F) : Contract Unit :=
  let discount := if t.boundary = .terminated then 0 else discountOf config t.elapsedSeconds
  reject (row.current ≠ UInt32.ofNat i ∨ row.next ≠ UInt32.ofNat i + 1
    ∨ FloatOps.toBits row.reward ≠ FloatOps.toBits t.reward
    ∨ FloatOps.lt (literal 1 1000000) (FloatOps.abs (row.discount - discount)) = true)
    .invalidDecisionEvidence

/-- The features of a window are finite and close to those of a replay. -/
def closeFeatures (actual replay : List F) : Bool :=
  actual.length == replay.length && (actual.zip replay).all fun x =>
    FloatOps.isFinite x.1 && !FloatOps.lt (literal 2 100000 + literal 2 10000
      * FloatOps.max (FloatOps.abs x.1) (FloatOps.abs x.2)) (FloatOps.abs (x.1 - x.2))

/-- `validate_residual_window`. -/
def validateResidualWindow (w : CpuResidualTrainingWindow p D) (replayed : Option (List (List F)))
    (config : PpoConfig F) : Contract Unit := do
  let len := w.actor.batch.transitions.length
  reject (w.criticRows.length ≠ len ∨ w.criticFeatures.length ≠ len + 1) .invalidDecisionEvidence
  reject (∃ x ∈ w.criticFeatures.zip (replayed.getD []), closeFeatures x.1 x.2 = false)
    .invalidDecisionEvidence
  (w.criticRows.zip w.actor.batch.transitions).zipIdx.forM fun x =>
    checkResidualRow config x.2 x.1.1 x.1.2

end Training

end ALife
