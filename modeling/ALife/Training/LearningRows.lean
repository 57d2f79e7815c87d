/-
# What learning sees

The rows of a trajectory do not depend on the windows, the batch of several
trajectories is made of their batches, and a cohort does not depend on the order
of transport (`learning_rows`).
-/

import ALife.Training.ReplayGradient
import ALife.Training.ShardOrder

namespace ALife

open Machine

namespace Training

open CpuReplay (BrainPhenotype)

section Rows

variable {F D Patch Bio Record Creature : Type} [FloatOps F] [FloatOps D]

/-- **Slicing and transport order are invisible to learning.**  Windows that come from a trajectory
are the slices of its rollout; a batch of complete trajectories is made of their batches; and an
admitted cohort is admitted in every order, with every assignment in one shard and every counter of
its range in one decision. -/
theorem learning_rows (W : Widening F D) {p : BrainPhenotype F}
    (C : Collection p D Patch Bio Record Creature)
    (hself : ∀ x : F, FloatOps.lt (literal 1 1000000) (FloatOps.abs (x - x)) = false) :
    (∀ (decisions : List (CpuCollectedDecision p Patch)) (record : Option Record)
      (predict : List F → Contract F) (creature : Creature) (version : UInt64)
      (config : PpoConfig F) (windowTicks burnIn : ℕ)
      (windows : List (CpuResidualTrainingWindow p D)),
      cpuTrainingWindows W C.toEvidence decisions record predict creature version config
        windowTicks burnIn = .ok windows →
      ∃ r : Rollout F D, rollout W C.toEvidence decisions (record.map C.biochemistry) predict
          creature version config = .ok r ∧
        SlicedRollout decisions (record.map C.biochemistry) config burnIn r windows) ∧
    (∀ (version : UInt64) (config : PpoConfig F) (first : List (PpoTransition F))
      (behind : List (List (PpoTransition F))), (∀ t ∈ first :: behind, Complete t) →
      ∀ b : PpoBatch F D,
        PpoBatch.fromRollout W version (first :: behind).flatten config = .ok b ↔
          ∃ x xs, PpoBatch.fromRollout W version first config = .ok x ∧
            behind.mapM (PpoBatch.fromRollout W version · config) = .ok xs ∧
            b = xs.foldl PpoBatch.append x) ∧
    ∀ (config : PpoConfig F) (version : UInt64) (windowTicks burnIn : ℕ)
      (assignments : List CpuCollectorAssignmentV1)
      (shards : List (CpuCollectorShardV1 p Patch Record))
      (cohort : AdmittedCpuCollectorCohort p D),
      admitCpuCollectorShards W C config version windowTicks burnIn assignments shards
        = .ok cohort →
      (∀ assignments' shards', assignments.Perm assignments' → Reordered C shards shards' →
        admitCpuCollectorShards W C config version windowTicks burnIn assignments' shards'
          = .ok cohort) ∧
      (shards.map (·.assignment)).Perm assignments ∧
      ∀ s ∈ shards, ((countersOf s.trajectories).map (Option.map UInt32.toNat)).Perm
        ((List.range' s.assignment.samplingCounterStart.toNat
          (s.assignment.samplingCounterEnd.toNat
            - s.assignment.samplingCounterStart.toNat)).map some) :=
  ⟨fun _ _ _ _ _ _ _ _ _ h => slicedRollout_of_cpuTrainingWindows hself h,
    fun _ _ _ _ h _ => fromRollout_flatten_iff W h,
    fun _ _ _ _ _ _ _ h => ⟨fun _ _ hassignments hshards =>
      admit_reordered hassignments hshards h, counters_of_cohort h⟩⟩

end Rows

/-! ### Two collectors -/

/-- One candidate, in no motor slot. -/
def sampleAction : PpoJointAction ℚ where
  candidateCount := 1
  representativeMask := 1
  motorMasks := fun _ => 0
  representative := 0
  forcedSlots := [none]
  motorCandidates := fun _ => none
  oldJointLogProbability := 0
  temperature := 1

def samplePpoConfig : PpoConfig ℚ where
  clipRatio := 1 / 5
  epochs := 1
  targetKl := 1 / 50
  entropyCoefficient := 0
  valueCoefficient := 1
  discountHalfLifeSeconds := 1
  gaeHalfLifeSeconds := 1
  temperature := 1
  valueOptimizer := ⟨1 / 10, 0, 0, 1, 0, 1⟩

/-- Of two organisms the first lives until the third tick. -/
def organismAt (tick : UInt64) : UInt64 := if tick ≤ 3 then 3 else 6

/-- A decision at a tick, which its patch is. -/
def sampleDecision (tick : UInt64) (counter : UInt32) :
    CpuCollectedDecision (CpuReplay.SparseGraph.samplePhenotype ℚ) UInt64 where
  organismId := organismAt tick
  samplingCounter := some counter
  initial := ⟨fun _ => 1, fun _ => 0, fun _ => 1 / 2, ⟨[], List.Pairwise.nil⟩⟩
  replayTick := ⟨fun _ => 0, 1, 0, 1, fun _ => true, fun _ => 0, [], [⟨.idle, fun _ => 1, 0⟩]⟩
  action := sampleAction
  finalFeatures := []
  biologicalReward := 1
  patch := tick

/-- Patches and measurements are their ticks, and a record and its organism are the tick of its
death. -/
def sampleCollection :
    Collection (CpuReplay.SparseGraph.samplePhenotype ℚ) ℚ UInt64 UInt64 UInt64 Unit where
  sequenceId := id
  preActionTick := id
  closedLoopCpu _ := true
  measured tick := some (tick, tick)
  tick := id
  organismId := id
  isAlive _ := false
  biochemistry := id
  creature _ := ()
  sameCreature _ _ := true
  validateRecord _ := .ok ()
  gapReward _ _ _ := .ok 0
  deathTick := some
  patchOrganism := organismAt
  outcomeTick := id
  validatePatch _ := .ok ()
  neuralEvidence _ := .ok (⟨0, 0, 0, 0⟩, 0)
  validateRecordFounder _ := .ok ()
  capture _ version := .ok ⟨version, 1, 1, zeroSha256, zeroSha256, zeroSha256, zeroSha256⟩
  predict _ := .ok 0
  validateDecision _ _ _ _ := .ok ()
  validateFrozenResidualWindow _ _ _ := .ok ()
  shardDigest _ _ _ _ := .ok zeroSha256

def sampleAssignment (run : List Char) (worldSeed : UInt64) : CpuCollectorAssignmentV1 where
  collectorRunId := run
  backend := .nativeCpu
  producerRevision := ['r']
  worldSeed
  samplingSeed := 1
  samplingCounterStart := 4
  samplingCounterEnd := 8
  lesson := ['l']
  episodeConfigSha256 := Vector.replicate 32 1

/-- Two decisions of each organism. -/
def sampleTrajectories :
    List (CpuCollectorTrajectoryV1 (CpuReplay.SparseGraph.samplePhenotype ℚ) UInt64 UInt64) :=
  [⟨6, [sampleDecision 4 6, sampleDecision 5 7]⟩, ⟨3, [sampleDecision 1 4, sampleDecision 2 5]⟩]

def sampleShard (a : CpuCollectorAssignmentV1)
    (trajectories :
      List (CpuCollectorTrajectoryV1 (CpuReplay.SparseGraph.samplePhenotype ℚ) UInt64 UInt64)) :
    CpuCollectorShardV1 (CpuReplay.SparseGraph.samplePhenotype ℚ) UInt64 UInt64 where
  schemaVersion := 1
  snapshot := ⟨7, 1, 1, zeroSha256, zeroSha256, zeroSha256, zeroSha256⟩
  assignment := a
  trajectories
  payloadSha256 := zeroSha256

/-- A transition from a value of 1. -/
def sampleTransition (trajectoryId step : UInt64) (nextValue : ℚ) (boundary : PpoBoundary) :
    PpoTransition ℚ :=
  ⟨7, trajectoryId, step, sampleAction, 1, 1, nextValue, 1, boundary⟩

/-- The windows of a trajectory, the batch of two trajectories of which one is cut off, and two
shards in both orders, the first of them with its trajectories in the other order. -/
theorem learning_rows_sample :
    let W : Widening ℚ ℚ := ⟨id, id⟩
    let a := sampleAssignment ['a'] 1
    let b := sampleAssignment ['b'] 2
    let ended := [sampleTransition 1 1 1 .continuing, sampleTransition 1 2 0 .terminated]
    let cut := [sampleTransition 2 1 5 .truncated]
    (∃ (windows : List (CpuResidualTrainingWindow (CpuReplay.SparseGraph.samplePhenotype ℚ) ℚ))
        (r : Rollout ℚ ℚ),
      cpuTrainingWindows W sampleCollection.toEvidence [sampleDecision 1 4, sampleDecision 2 5]
        (some 3) sampleCollection.predict () 7 samplePpoConfig 1 1 = .ok windows ∧
      SlicedRollout [sampleDecision 1 4, sampleDecision 2 5] (some (3 : UInt64)) samplePpoConfig 1 r
        windows) ∧
    (∃ x y, PpoBatch.fromRollout W 7 ended samplePpoConfig = .ok x ∧
      PpoBatch.fromRollout W 7 cut samplePpoConfig = .ok y ∧
      PpoBatch.fromRollout W 7 (ended ++ cut) samplePpoConfig = .ok (x.append y)) ∧
    ∃ cohort : AdmittedCpuCollectorCohort (CpuReplay.SparseGraph.samplePhenotype ℚ) ℚ,
      admitCpuCollectorShards W sampleCollection samplePpoConfig 7 1 1 [a, b]
        [sampleShard a sampleTrajectories, sampleShard b sampleTrajectories] = .ok cohort ∧
      admitCpuCollectorShards W sampleCollection samplePpoConfig 7 1 1 [b, a]
        [sampleShard b sampleTrajectories, sampleShard a sampleTrajectories.reverse]
          = .ok cohort := by
  have hself : ∀ x : ℚ, FloatOps.lt (literal 1 1000000) (FloatOps.abs (x - x)) = false := by
    intro x
    simp [FloatOps.lt, FloatOps.abs, literal]
  obtain ⟨hslices, hbatches, hcohorts⟩ := learning_rows ⟨id, id⟩ sampleCollection hself
  refine ⟨?_, ?_, ?_⟩
  · have hok : (cpuTrainingWindows (D := ℚ) ⟨id, id⟩ sampleCollection.toEvidence
        [sampleDecision 1 4, sampleDecision 2 5] (some 3) sampleCollection.predict () 7
        samplePpoConfig 1 1).isOk = true := by
      decide +kernel
    obtain ⟨windows, hwindows⟩ := exists_eq_ok_of_isOk hok
    obtain ⟨r, -, hsliced⟩ := hslices _ _ _ _ _ _ _ _ windows hwindows
    exact ⟨windows, r, hwindows, hsliced⟩
  · have hended : (PpoBatch.fromRollout (D := ℚ) ⟨id, id⟩ 7
        [sampleTransition 1 1 1 .continuing, sampleTransition 1 2 0 .terminated]
        samplePpoConfig).isOk = true := by
      decide +kernel
    have hcut : (PpoBatch.fromRollout (D := ℚ) ⟨id, id⟩ 7 [sampleTransition 2 1 5 .truncated]
        samplePpoConfig).isOk = true := by
      decide +kernel
    obtain ⟨x, hx⟩ := exists_eq_ok_of_isOk hended
    obtain ⟨y, hy⟩ := exists_eq_ok_of_isOk hcut
    refine ⟨x, y, hx, hy, (hbatches 7 samplePpoConfig
      [sampleTransition 1 1 1 .continuing, sampleTransition 1 2 0 .terminated]
      [[sampleTransition 2 1 5 .truncated]] ?_ _).2 ⟨x, [y], hx, ?_, rfl⟩⟩
    · intro t ht
      rcases List.mem_pair.1 ht with rfl | rfl
      · exact ⟨[_], _, rfl, PpoBoundary.noConfusion⟩
      · exact ⟨[], _, rfl, PpoBoundary.noConfusion⟩
    · rw [List.mapM_cons, hy]
      rfl
  · have hok : (admitCpuCollectorShards (D := ℚ) ⟨id, id⟩ sampleCollection samplePpoConfig 7 1 1
        [sampleAssignment ['a'] 1, sampleAssignment ['b'] 2]
        [sampleShard (sampleAssignment ['a'] 1) sampleTrajectories,
          sampleShard (sampleAssignment ['b'] 2) sampleTrajectories]).isOk = true := by
      decide +kernel
    obtain ⟨cohort, hcohort⟩ := exists_eq_ok_of_isOk hok
    refine ⟨cohort, hcohort, (hcohorts _ _ _ _ _ _ cohort hcohort).1 _ _ (List.Perm.swap _ _ _)
      ⟨_, List.Perm.swap _ _ _, ?_⟩⟩
    have hsealed : ∀ a : CpuCollectorAssignmentV1, a.validate.isOk = true →
        ∀ trajectories, sampleTrajectories.Perm trajectories →
        Resealed sampleCollection (sampleShard a sampleTrajectories)
          (sampleShard a trajectories) := fun a ha trajectories hperm =>
      { snapshot := rfl
        assignment := rfl
        trajectories := hperm
        sealed := by
          have hne : trajectories.isEmpty = false := by
            rw [List.isEmpty_eq_false_iff, ← List.length_pos_iff, ← hperm.length_eq]
            exact Nat.two_pos
          unfold CpuCollectorShardV1.validateSeal
          rw [show (sampleShard a trajectories).assignment = a from rfl, ha,
            show (sampleShard a trajectories).trajectories = trajectories from rfl, hne]
          rfl }
    exact .cons (hsealed _ (by decide +kernel) _ (List.Perm.refl _))
      (.cons (hsealed _ (by decide +kernel) _ (List.reverse_perm _).symm) .nil)

end Training

end ALife
