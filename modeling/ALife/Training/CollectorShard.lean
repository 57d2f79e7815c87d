/-
# The admission of collector shards

`admit_cpu_collector_shards` (`crates/alife_training/src/cpu/collector_shard.rs`).
What the admission calls and is not modelled is `Collection`: the records and
patches that it reads, their checks, the value head and the replays it compares
with.  A set is the list of what was put into it.
-/

import ALife.Machine.SortedNames
import ALife.Training.CohortWindows
import ALife.Training.RoundContracts

namespace ALife

open Machine

namespace Training

open CpuReplay (BrainPhenotype)

/-- `CpuCollectorTrajectoryV1`. -/
structure CpuCollectorTrajectoryV1 {F : Type} (p : BrainPhenotype F) (Patch Record : Type) where
  finalRecord : Record
  decisions : List (CpuCollectedDecision p Patch)

/-- `CpuCollectorShardV1`. -/
structure CpuCollectorShardV1 {F : Type} (p : BrainPhenotype F) (Patch Record : Type) where
  schemaVersion : UInt16
  snapshot : CpuCollectionSnapshotV1
  assignment : CpuCollectorAssignmentV1
  trajectories : List (CpuCollectorTrajectoryV1 p Patch Record)
  payloadSha256 : Sha256

/-- What the admission reads and calls. -/
structure Collection {F : Type} (p : BrainPhenotype F) (D Patch Bio Record Creature : Type) extends
    Evidence F Patch Bio Record Creature where
  deathTick : Record → Option UInt64
  patchOrganism : Patch → UInt64
  outcomeTick : Patch → UInt64
  validatePatch : Patch → Contract Unit
  /-- `neural_evidence`: the phenotype hash and the candidate index. -/
  neuralEvidence : Patch → Contract (Digest256 × UInt16)
  /-- `validate_record_founder`. -/
  validateRecordFounder : Record → Contract Unit
  /-- `CpuCollectionSnapshotV1::capture` of the learner, with a configuration and a version. -/
  capture : PpoConfig F → UInt64 → Contract CpuCollectionSnapshotV1
  predict : List F → Contract F
  /-- `validate_decision`. -/
  validateDecision : CpuCollectedDecision p Patch → Record → CpuCollectorAssignmentV1 →
    PpoConfig F → Contract Unit
  /-- `validate_frozen_residual_window`. -/
  validateFrozenResidualWindow : CpuResidualTrainingWindow p D → PpoConfig F → UInt64 →
    Contract Unit
  /-- The digest of the sealed fields. -/
  shardDigest : UInt16 → CpuCollectionSnapshotV1 → CpuCollectorAssignmentV1 →
    List (CpuCollectorTrajectoryV1 p Patch Record) → Contract Sha256

/-- `AdmittedCpuCollectorCohort`. -/
structure AdmittedCpuCollectorCohort {F : Type} (p : BrainPhenotype F) (D : Type) where
  snapshot : CpuCollectionSnapshotV1
  windows : List (CpuResidualTrainingWindow p D)
  windowTrajectories : List CpuCollectorTrajectoryId

/-- A sample: the seeds and the configuration it was drawn under, and its counter. -/
abbrev SamplingEvidence := UInt64 × UInt32 × Sha256 × UInt32

variable {F D Patch Bio Record Creature : Type} [FloatOps F] [FloatOps D] (W : Widening F D)
  {p : BrainPhenotype F} (C : Collection p D Patch Bio Record Creature) (config : PpoConfig F)
  (version : UInt64) (windowTicks burnIn : ℕ)

namespace CpuCollectorShardV1

/-- `validate_seal`. -/
def validateSeal (s : CpuCollectorShardV1 p Patch Record) : Contract Unit := do
  reject (s.assignment.validate.isOk = false) .invalidDecisionEvidence
  let digest ← C.shardDigest s.schemaVersion s.snapshot s.assignment s.trajectories
  reject (s.schemaVersion ≠ 1 ∨ s.trajectories.isEmpty = true ∨ s.payloadSha256 ≠ digest)
    .invalidDecisionEvidence

end CpuCollectorShardV1

/-- The sets of the decision loop. -/
structure CounterSets where
  previous : Option UInt32
  counters : List UInt32
  evidence : List SamplingEvidence

/-- The sample of a counter of an assignment. -/
def samplingEvidence (a : CpuCollectorAssignmentV1) (counter : UInt32) : SamplingEvidence :=
  (a.worldSeed, a.samplingSeed, a.episodeConfigSha256, counter)

/-- The body of the decision loop. -/
def admitDecision (a : CpuCollectorAssignmentV1) (record : Record) (s : CounterSets)
    (d : CpuCollectedDecision p Patch) : Contract CounterSets := do
  let counter ← getOr d.samplingCounter .invalidDecisionEvidence
  C.validatePatch d.patch
  let neural ← C.neuralEvidence d.patch
  reject (d.organismId ≠ C.organismId record ∨ C.patchOrganism d.patch ≠ C.organismId record
    ∨ neural.1 ≠ p.phenotypeHash ∨ neural.2 ≠ d.action.representative
    ∨ C.closedLoopCpu d.patch = false
    ∨ C.tick (C.biochemistry record) < C.outcomeTick d.patch
    ∨ (∃ c ∈ s.previous, counter ≤ c)
    ∨ ¬(a.samplingCounterStart ≤ counter ∧ counter < a.samplingCounterEnd)
    ∨ counter ∈ s.counters ∨ samplingEvidence a counter ∈ s.evidence) .invalidDecisionEvidence
  C.validateDecision d record a config
  .ok ⟨some counter, counter :: s.counters, samplingEvidence a counter :: s.evidence⟩

/-- The sets and the windows of the trajectory loop. -/
structure TrajectorySets (p : BrainPhenotype F) (D : Type) where
  organisms : List UInt64
  counters : List UInt32
  evidence : List SamplingEvidence
  windows : List (CpuResidualTrainingWindow p D)
  windowTrajectories : List CpuCollectorTrajectoryId

/-- The body of the trajectory loop. -/
def admitTrajectory (a : CpuCollectorAssignmentV1) (s : TrajectorySets p D)
    (t : CpuCollectorTrajectoryV1 p Patch Record) : Contract (TrajectorySets p D) := do
  let record := t.finalRecord
  C.validateRecord record
  reject ((C.validateRecordFounder record).isOk = false) .invalidDecisionEvidence
  let id := C.organismId record
  reject (id ∈ s.organisms ∨ t.decisions.isEmpty = true) .invalidDecisionEvidence
  reject (∃ death ∈ C.deathTick record, death ≠ C.tick (C.biochemistry record))
    .invalidDecisionEvidence
  let sets ← t.decisions.foldlM (admitDecision C config a record) ⟨none, s.counters, s.evidence⟩
  let windows ← cpuTrainingWindows W C.toEvidence t.decisions
    (if C.isAlive record then none else some record) C.predict (C.creature record) version config
    windowTicks burnIn
  windows.forM fun w => C.validateFrozenResidualWindow w config version
  .ok
    { organisms := id :: s.organisms
      counters := sets.counters
      evidence := sets.evidence
      windows := s.windows ++ windows
      windowTrajectories := s.windowTrajectories ++ windows.map fun _ => ⟨a.collectorRunId, id⟩ }

/-- The sets and the windows of the shard loop. -/
structure ShardSets (p : BrainPhenotype F) (D : Type) where
  seen : List (List Char)
  evidence : List SamplingEvidence
  windows : List (CpuResidualTrainingWindow p D)
  windowTrajectories : List CpuCollectorTrajectoryId

/-- `sort_by_key` of the organisms. -/
def sortTrajectories (ts : List (CpuCollectorTrajectoryV1 p Patch Record)) :
    List (CpuCollectorTrajectoryV1 p Patch Record) :=
  sortByKey (fun t => (C.organismId t.finalRecord).toNat) ts

/-- `sort_by` of the runs. -/
def sortShards (shards : List (CpuCollectorShardV1 p Patch Record)) :
    List (CpuCollectorShardV1 p Patch Record) :=
  sortByKey (fun s => s.assignment.collectorRunId) shards

/-- The body of the shard loop. -/
def admitShard (snapshot : CpuCollectionSnapshotV1) (assignments : List CpuCollectorAssignmentV1)
    (s : ShardSets p D) (shard : CpuCollectorShardV1 p Patch Record) :
    Contract (ShardSets p D) := do
  shard.validateSeal C
  let a := shard.assignment
  reject (shard.snapshot ≠ snapshot ∨ a ∉ assignments ∨ a.collectorRunId ∈ s.seen)
    .invalidDecisionEvidence
  let sets ← (sortTrajectories C shard.trajectories).foldlM
    (admitTrajectory W C config version windowTicks burnIn a)
    ⟨[], [], s.evidence, s.windows, s.windowTrajectories⟩
  reject (sets.counters.length ≠ a.samplingCounterEnd.toNat - a.samplingCounterStart.toNat)
    .invalidDecisionEvidence
  .ok ⟨a.collectorRunId :: s.seen, sets.evidence, sets.windows, sets.windowTrajectories⟩

/-- The body of the assignment loop. -/
def admitAssignment (runs : List (List Char)) (a : CpuCollectorAssignmentV1) :
    Contract (List (List Char)) := do
  reject (a.validate.isOk = false) .invalidDecisionEvidence
  reject (a.collectorRunId ∈ runs) .invalidDecisionEvidence
  .ok (a.collectorRunId :: runs)

/-- `admit_cpu_collector_shards`. -/
def admitCpuCollectorShards (assignments : List CpuCollectorAssignmentV1)
    (shards : List (CpuCollectorShardV1 p Patch Record)) :
    Contract (AdmittedCpuCollectorCohort p D) := do
  let snapshot ← C.capture config version
  reject (assignments.isEmpty = true ∨ assignments.length ≠ shards.length ∨ windowTicks = 0
    ∨ CpuReplay.maxTrainingSequenceTicks < windowTicks + burnIn) .invalidDecisionEvidence
  let _ ← assignments.foldlM admitAssignment []
  let sets ← (sortShards shards).foldlM
    (admitShard W C config version windowTicks burnIn snapshot assignments) ⟨[], [], [], []⟩
  .ok ⟨snapshot, sets.windows, sets.windowTrajectories⟩

end Training

end ALife
