/-
# The causal state behind the recurrent dispatch

`GpuV11CausalState` (`crates/alife_gpu_backend/src/closed_loop_v11.rs`): the
dendritic branches, the structural state and the sparse spans that the kernels
read.  A structural phase runs on a copy, rebuilds the spans and reports one
pending synapse; only a phase that went through replaces the state.  Left out
are the stepping of the recurrent network and the live topology checkpoint,
which read the spans and do not change them.
-/

import ALife.Cognition.WorkReceipt
import ALife.Core.Units
import ALife.Plasticity.Structural

namespace ALife

open Machine

/-! ### Dendritic branches -/

/-- `MAX_DENDRITIC_INPUTS`. -/
def maxDendriticInputs : ℕ := 32

/-- `MAX_DENDRITIC_BRANCHES`. -/
def maxDendriticBranches : ℕ := 4096

/-- `MAX_DENDRITIC_BRANCHES_PER_NEURON`. -/
def maxDendriticBranchesPerNeuron : ℕ := 4

/-- `DendriticInputRef`. -/
structure DendriticInputRef where
  source : ℕ
  weight : F32
  deriving DecidableEq, Repr

/-- `DendriticInputRef::new`. -/
def DendriticInputRef.new (source : ℕ) (weight : F32) : Contract DendriticInputRef := do
  validateFinite weight
  .ok ⟨source, weight⟩

/-- `DendriticBranch`. -/
structure DendriticBranch where
  target : ℕ
  threshold : F32
  outputGain : F32
  inputs : List DendriticInputRef
  deriving DecidableEq, Repr

/-- `DendriticBranch::validate_metadata`. -/
def DendriticBranch.validateMetadata (branch : DendriticBranch) : Contract Unit := do
  failIf (branch.inputs = [] ∨ maxDendriticInputs < branch.inputs.length)
    .invalidSparseProjectionSchema
  validateFinite branch.threshold
  validateFinite branch.outputGain
  branch.inputs.foldlM (fun _ input => validateFinite input.weight) ()

/-- `DendriticBranch::new`. -/
def DendriticBranch.new (target : ℕ) (threshold outputGain : F32)
    (inputs : List DendriticInputRef) : Contract DendriticBranch := do
  let branch : DendriticBranch := ⟨target, threshold, outputGain, inputs⟩
  branch.validateMetadata
  .ok branch

/-- `DendriticBranchSet`. -/
structure DendriticBranchSet where
  branches : List DendriticBranch
  deriving DecidableEq, Repr

/-- The branches for one target so far, behind one more. -/
def countedBranches (previous : Option ℕ × ℕ) (branch : DendriticBranch) : ℕ :=
  if previous.1 = some branch.target then previous.2 + 1 else 1

/-- `DendriticBranchSet::new`. -/
def DendriticBranchSet.new (branches : List DendriticBranch) : Contract DendriticBranchSet := do
  failIf (maxDendriticBranches < branches.length) .invalidSparseProjectionSchema
  let sorted := sortByKey (·.target) branches
  let _ ← sorted.foldlM (fun previous branch => do
    branch.validateMetadata
    failIf (maxDendriticBranchesPerNeuron < countedBranches previous branch)
      .invalidSparseProjectionSchema
    .ok (some branch.target, countedBranches previous branch)) (none, 0)
  .ok ⟨sorted⟩

/-- One turn of the loop of `validate_dendritic_branches`, on the previous target and the
branches it has. -/
def checkBranch (neuronCount : ℕ) (previous : Option ℕ × ℕ) (branch : DendriticBranch) :
    Contract (Option ℕ × ℕ) := do
  failIf (neuronCount ≤ branch.target
      ∨ branch.inputs = []
      ∨ maxDendriticInputs < branch.inputs.length
      ∨ branch.threshold.isFinite = false
      ∨ branch.outputGain.isFinite = false
      ∨ (∃ input ∈ branch.inputs, neuronCount ≤ input.source ∨ input.weight.isFinite = false)
      ∨ (previous.1.any fun target => branch.target < target) = true)
    .invalidSparseProjectionSchema
  failIf (maxDendriticBranchesPerNeuron < countedBranches previous branch)
    .invalidSparseProjectionSchema
  .ok (some branch.target, countedBranches previous branch)

/-- `validate_dendritic_branches`. -/
def validateDendriticBranches (neuronCount : ℕ) (branches : DendriticBranchSet) :
    Contract Unit := do
  failIf (maxDendriticBranches < branches.branches.length) .invalidSparseProjectionSchema
  let _ ← branches.branches.foldlM (checkBranch neuronCount) (none, 0)
  .ok ()

/-! ### Work receipts -/

/-- `DendriticWorkReceipt`. -/
structure DendriticWorkReceipt where
  branchesEvaluated : ℕ
  inputsEvaluated : ℕ
  gatedBranches : ℕ
  workUnits : ℕ
  deriving DecidableEq, Repr

/-- `GpuV11WorkReceipt`. -/
structure GpuV11WorkReceipt where
  dendritic : DendriticWorkReceipt
  structural : StructuralWorkReceipt
  cognitive : CognitiveWorkReceipt
  deriving DecidableEq, Repr

/-- `GpuV11WorkReceipt::default`. -/
def GpuV11WorkReceipt.default : GpuV11WorkReceipt :=
  ⟨⟨0, 0, 0, 0⟩, ⟨0, 0, 0, 0, 0, 0⟩, CognitiveWorkReceipt.zero⟩

/-- `make_cognitive_receipt_for`. -/
def makeCognitiveReceiptFor (dendriticWorkUnits structuralWorkUnits : ℕ) :
    Contract CognitiveWorkReceipt := do
  let counters : CognitiveWorkCounters :=
    ⟨0, 0, dendriticWorkUnits, 0, 0, 0, 0, 0, 0, structuralWorkUnits, 0, 0⟩
  counters.validateCounterBounds
  CognitiveWorkReceipt.aggregate counters

/-- `make_cognitive_receipt`; the sum of four `u16` and a `u32` does not saturate a `u64`. -/
def GpuV11WorkReceipt.makeCognitiveReceipt (work : GpuV11WorkReceipt) :
    Contract CognitiveWorkReceipt := do
  let units := work.structural.candidateComparisons + work.structural.candidatesKept
    + work.structural.acceptedEdges + work.structural.prunedEdges + work.structural.activeEdges
  failIf (2 ^ 32 ≤ units) .scalarOutOfRange
  makeCognitiveReceiptFor work.dendritic.workUnits units

/-! ### The state -/

/-- `GpuV11SparseEdge`. -/
structure GpuV11SparseEdge where
  source : ℕ
  target : ℕ
  route : ℕ
  weight : F32
  deriving DecidableEq, Repr

/-- `AddLifetimeSynapse`. -/
structure AddLifetimeSynapse where
  source : ℕ
  target : ℕ
  route : ℕ
  initialWeight : F32
  evidence : CoactivationEvidence
  deriving DecidableEq, Repr

/-- `GpuV11SparseSpan`. -/
structure GpuV11SparseSpan where
  target : ℕ
  edges : List GpuV11SparseEdge
  deriving DecidableEq, Repr

/-- `GPU_V11_CAUSAL_STATE_SCHEMA_VERSION`. -/
def gpuV11CausalStateSchemaVersion : ℕ := 1

/-- `GpuV11Checkpoint`. -/
structure GpuV11Checkpoint where
  schemaVersion : ℕ
  neuronCount : ℕ
  dendriticBranches : DendriticBranchSet
  structural : StructuralPlasticityState
  sparseSpans : List GpuV11SparseSpan
  pendingLifetimeSynapse : Option AddLifetimeSynapse
  work : GpuV11WorkReceipt
  deriving DecidableEq

/-- `GpuV11CausalState`. -/
structure GpuV11CausalState where
  neuronCount : ℕ
  dendriticBranches : DendriticBranchSet
  structural : StructuralPlasticityState
  sparseSpans : List GpuV11SparseSpan
  pendingLifetimeSynapse : Option AddLifetimeSynapse
  lastWork : GpuV11WorkReceipt
  deriving DecidableEq

/-- A call on a copy whose error is mapped to `e`: what it returned and the copy. -/
def onCopy {ε ε' σ α : Type} (r : EStateM.Result ε σ α) (e : ε') : Except ε' (α × σ) :=
  match r with
  | .ok a s => .ok (a, s)
  | .error _ _ => .error e

namespace GpuV11CausalState

/-- `GpuV11CausalState::new`. -/
def new (neuronCount : ℕ) (dendriticBranches : DendriticBranchSet)
    (structuralConfig : StructuralPlasticityConfig) : Contract GpuV11CausalState := do
  failIf (neuronCount = 0) .invalidSparseProjectionSchema
  validateDendriticBranches neuronCount dendriticBranches
  let structural ← (StructuralPlasticityState.new neuronCount structuralConfig).mapError
    fun _ => .invalidSparseProjectionSchema
  .ok ⟨neuronCount, dendriticBranches, structural, [], none, GpuV11WorkReceipt.default⟩

/-- What `for_phenotype` reads of a phenotype. -/
structure PhenotypePlan where
  neuronCount : ℕ
  motorStart : ℕ
  motorWidth : ℕ
  dendriticBranchCapacity : ℕ
  structuralEditBudget : ℕ
  structuralCandidateBudget : ℕ

/-- The value `6.0`. -/
def motorBranchGain : F32 := ⟨0x40C00000⟩

/-- The branch that `for_phenotype` makes for a motor neuron. -/
def motorBranch (plan : PhenotypePlan) (index : ℕ) : Contract DendriticBranch := do
  let target := plan.motorStart + index
  failIf (plan.neuronCount ≤ target) .gpuLayoutMismatch
  let secondSource := if target + 1 < plan.neuronCount then target + 1 else target - 1
  let first ← DendriticInputRef.new target F32.one
  let second ← DendriticInputRef.new secondSource F32.one
  DendriticBranch.new target F32.negOne motorBranchGain [first, second]

/-- `GpuV11CausalState::for_phenotype`. -/
def forPhenotype (plan : PhenotypePlan) : Contract GpuV11CausalState := do
  let branchCount := min (min (max plan.dendriticBranchCapacity 1) plan.motorWidth) 64
  let branches ← (List.range branchCount).mapM (motorBranch plan)
  let budget := max plan.structuralEditBudget 1
  let branchSet ← DendriticBranchSet.new branches
  new plan.neuronCount branchSet
    { maxCandidatesPerRegion := min (max plan.structuralCandidateBudget 1) 8
      maxRegions := 1
      maxAcceptedPerPhase := min budget 4
      maxStructuralEdges := min (max (min (budget * 4) 65535) 1) 64
      minCandidateScore := 2
      pruneScoreBelow := 1 }

/-- `clear_pending_lifetime_synapse`. -/
def clearPendingLifetimeSynapse (expected : AddLifetimeSynapse) :
    EStateM ScaffoldContractError GpuV11CausalState Unit := do
  let s ← get
  ofResult (failIf (s.pendingLifetimeSynapse ≠ some expected) .consolidationGenerationMismatch)
  set { s with pendingLifetimeSynapse := none }

/-- `set_dendritic_branches`. -/
def setDendriticBranches (branches : DendriticBranchSet) :
    EStateM ScaffoldContractError GpuV11CausalState Unit := do
  let s ← get
  ofResult (validateDendriticBranches s.neuronCount branches)
  set { s with dendriticBranches := branches }

/-! ### The structural phase -/

/-- A map from pairs to routes, by its lookups. -/
abbrev PairIndex := ℕ → ℕ → Option ℕ

/-- The index with one more entry. -/
def PairIndex.insert (index : PairIndex) (source target route : ℕ) : PairIndex :=
  fun s t => if s = source ∧ t = target then some route else index s t

/-- `indexed_pairs`: the listed edges with their routes, then the pairs of the evidence that
are not there yet. -/
def indexedPairs (spans : List GpuV11SparseSpan) (evidence : List CoactivationEvidence) :
    PairIndex :=
  let listed : PairIndex := (spans.flatMap (·.edges)).foldl
    (fun index edge => index.insert edge.source edge.target edge.route) fun _ _ => none
  evidence.foldl (fun index item =>
    if (index item.source item.target).isSome then index
    else index.insert item.source item.target item.region) listed

/-- The sparse edge of a connection: none when its pair is not indexed or its weight is
zero. -/
def sparseEdge (index : PairIndex) (edge : SparseConnection) : Option GpuV11SparseEdge :=
  match index edge.source edge.target with
  | none => none
  | some route =>
    if edge.weight.feq F32.zero then none
    else some ⟨edge.source, edge.target, route, edge.weight⟩

/-- The spans rebuilt from the stored connections. -/
def rebuiltSpans (index : PairIndex) (structural : StructuralPlasticityState) :
    List GpuV11SparseSpan :=
  (OrderedMap.group (·.target)
    (structural.connections.values.flatten.filterMap (sparseEdge index))).entries.map
      fun row => ⟨row.1, row.2⟩

/-- The pending synapse that an item of evidence names: its edge is rebuilt and was not
listed before. -/
def acceptedSynapse (before rebuilt : List GpuV11SparseSpan) (item : CoactivationEvidence) :
    Option AddLifetimeSynapse :=
  if before.any fun span => span.target = item.target ∧
      (span.edges.any fun edge => edge.source = item.source ∧ edge.target = item.target) then none
  else
    (rebuilt.find? fun span => span.target = item.target).bind fun span =>
      ((span.edges.find? fun edge =>
        edge.source = item.source ∧ edge.target = item.target).filter fun edge =>
          edge.weight.isFinite && !edge.weight.feq F32.zero).map fun edge =>
            ⟨item.source, item.target, edge.route, edge.weight, item⟩

/-- `GpuV11CausalState::apply_structural_phase`. -/
def applyStructuralPhase (evidence : List CoactivationEvidence) :
    EStateM ScaffoldContractError GpuV11CausalState GpuV11WorkReceipt := do
  let s ← get
  ofResult (failIf (s.pendingLifetimeSynapse.isSome = true ∨
      ∃ item ∈ evidence, s.neuronCount ≤ item.source ∨ s.neuronCount ≤ item.target)
    .invalidSparseProjectionSchema)
  let (_, discovered) ← ofResult (onCopy
    (StructuralPlasticityState.discoverCandidates evidence s.structural)
    .invalidSparseProjectionSchema)
  let (receipt, structural) ← ofResult (onCopy
    (StructuralPlasticityState.applyStructuralPhase discovered) .invalidSparseProjectionSchema)
  let rebuilt := rebuiltSpans (indexedPairs s.sparseSpans evidence) structural
  let pending :=
    if 0 < receipt.acceptedEdges then evidence.findSome? (acceptedSynapse s.sparseSpans rebuilt)
    else s.pendingLifetimeSynapse
  let work := { s.lastWork with structural := receipt }
  let cognitive ← ofResult work.makeCognitiveReceipt
  set { s with
    structural := structural
    sparseSpans := rebuilt
    pendingLifetimeSynapse := pending
    lastWork := { work with cognitive := cognitive } }
  pure { work with cognitive := cognitive }

/-! ### Checkpoints -/

/-- `GpuV11CausalState::checkpoint`. -/
def checkpoint (s : GpuV11CausalState) : GpuV11Checkpoint :=
  ⟨gpuV11CausalStateSchemaVersion, s.neuronCount, s.dendriticBranches, s.structural,
    s.sparseSpans, s.pendingLifetimeSynapse, s.lastWork⟩

/-- What `restore` refuses of a pending synapse. -/
def PendingRefused (s : GpuV11CausalState) (pending : AddLifetimeSynapse) : Prop :=
  s.neuronCount ≤ pending.source
    ∨ s.neuronCount ≤ pending.target
    ∨ pending.initialWeight.isFinite = false
    ∨ pending.evidence.source ≠ pending.source
    ∨ pending.evidence.target ≠ pending.target
    ∨ pending.route ≠ pending.evidence.region
    ∨ ¬∃ span ∈ s.sparseSpans, span.target = pending.target ∧ ∃ edge ∈ span.edges,
        edge.source = pending.source ∧ edge.target = pending.target ∧
          edge.weight.feq pending.initialWeight = true

instance (s : GpuV11CausalState) (pending : AddLifetimeSynapse) :
    Decidable (s.PendingRefused pending) := by
  unfold PendingRefused
  infer_instance

/-- `GpuV11CausalState::restore`. -/
def restore (checkpoint : GpuV11Checkpoint) : Contract GpuV11CausalState := do
  failIf (checkpoint.schemaVersion ≠ gpuV11CausalStateSchemaVersion ∨ checkpoint.neuronCount = 0)
    .invalidSparseProjectionSchema
  let state : GpuV11CausalState :=
    ⟨checkpoint.neuronCount, checkpoint.dendriticBranches, checkpoint.structural,
      checkpoint.sparseSpans, checkpoint.pendingLifetimeSynapse, checkpoint.work⟩
  validateDendriticBranches state.neuronCount state.dendriticBranches
  failIf (∃ span ∈ state.sparseSpans, state.neuronCount ≤ span.target ∨ ∃ edge ∈ span.edges,
      state.neuronCount ≤ edge.source ∨ edge.target ≠ span.target ∨ 65535 < edge.route
        ∨ edge.weight.isFinite = false)
    .invalidSparseProjectionSchema
  match state.pendingLifetimeSynapse with
  | none => .ok ()
  | some pending => failIf (state.PendingRefused pending) .invalidSparseProjectionSchema
  .ok state

end GpuV11CausalState

end ALife
