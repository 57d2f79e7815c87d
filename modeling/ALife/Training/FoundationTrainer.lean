/-
# The foundation trainer

`CpuFoundationTrainer` (`crates/alife_training/src/cpu/mod.rs`) with its
checkpoint and its mask (`crates/alife_training/src/types.rs`): one Adam step
over the trainable coordinates, the restore of a checkpoint, and the rebinding to
an exported founder.  The arithmetic is any `FloatOps`; a phenotype is one that
its own validation accepts, so its weights are finite.  An index into a list of
the checkpoint is in range by `validate_for`, and reads zero where it is not.
-/

import ALife.Machine.Checks
import ALife.Machine.Integers
import ALife.Phenotype.Routing
import ALife.Training.FounderAsset
import ALife.Training.SparseGraph

namespace ALife

open Machine

namespace Training

-- a quantifier over the words of a list is decided along the list
attribute [local
instance 2000] List.decidableBAll List.decidableBEx

open CpuReplay (BrainPhenotype NeuronDynamics CandidateDecoderPlan SparseGraph)

variable {F P : Type}

structure AdamWConfig (F : Type) where
  learningRate : F
  beta1 : F
  beta2 : F
  epsilon : F
  weightDecay : F
  gradientClip : F
  deriving DecidableEq, Repr

namespace AdamWConfig

def floats (c : AdamWConfig F) : List F :=
  [c.learningRate, c.beta1, c.beta2, c.epsilon, c.weightDecay, c.gradientClip]

open FloatOrder in
/-- `AdamWConfig::validate`. -/
def validate [FloatOrder F] (c : AdamWConfig F) : Contract Unit :=
  let inUnit (x : F) : Bool := le zero x && lt x one
  if c.floats.all isFinite && lt zero c.learningRate && inUnit c.beta1 && inUnit c.beta2
      && lt zero c.epsilon && le zero c.weightDecay && lt zero c.gradientClip
  then .ok ()
  else .error .phenotypeCompile

end AdamWConfig

structure StageTrainableMask where
  words : List UInt32
  deriving DecidableEq, Repr

/-- `FoundationTrainerCheckpoint`. -/
structure FoundationTrainerCheckpoint (F : Type) where
  schemaVersion : UInt32
  phenotypeHash : Digest256
  sourceFoundationDigest : Blake3Digest
  optimizerStep : UInt32
  config : AdamWConfig F
  stageMask : StageTrainableMask
  weights : List F
  firstMoment : List F
  secondMoment : List F
  updateAges : List UInt32
  deriving DecidableEq, Repr

/-- A compiled phenotype as far as training reads it: its foundation, the graph that is replayed,
the kinds of its projections, its genes, and as `plan` what a rebinding compares whole (the schema,
the lobe layout, the codebook, the architecture, the encoder, the auxiliary decoders, the channel,
replay and sleep plans, the receptors, the address map and the budgets). -/
structure TrainerPhenotype (F P : Type) [FloatOps F] where
  foundation : FoundationPhenotype F
  graph : BrainPhenotype F
  projectionType : graph.Route → ProjectionType
  geneticWeight : graph.Synapse → F
  alpha : graph.Synapse → F
  receptorIndex : graph.Synapse → UInt16
  geneticWeight_finite : ∀ id, FloatOps.isFinite (geneticWeight id) = true
  plan : P

section Methods

variable [FloatOps F]

/-- `StageTrainableMask::is_trainable`. -/
def StageTrainableMask.isTrainable (m : StageTrainableMask) (index : ℕ) : Bool :=
  m.words[index]? == some 1

/-- `StageTrainableMask::validate_for`. -/
def StageTrainableMask.validateFor (m : StageTrainableMask) (p : TrainerPhenotype F P) :
    Contract Unit :=
  if m.words.length = p.graph.synapseCount ∧ 1 ∈ m.words ∧ ∀ word ∈ m.words, word ≤ 1 then .ok ()
  else .error .phenotypeCompile

/-- `FoundationTrainerCheckpoint::validate_for`. -/
def FoundationTrainerCheckpoint.validateFor (c : FoundationTrainerCheckpoint F)
    (p : TrainerPhenotype F P) (sourceFoundationDigest : Blake3Digest) : Contract Unit := do
  c.config.validate
  c.stageMask.validateFor p
  let n := p.graph.synapseCount
  reject (c.schemaVersion ≠ 2 ∨ c.phenotypeHash ≠ p.graph.phenotypeHash
    ∨ c.sourceFoundationDigest ≠ sourceFoundationDigest ∨ c.weights.length ≠ n
    ∨ c.firstMoment.length ≠ n ∨ c.secondMoment.length ≠ n ∨ c.updateAges.length ≠ n
    ∨ (∃ age ∈ c.updateAges, c.optimizerStep < age)
    ∨ (∃ row ∈ (c.updateAges.zip c.firstMoment).zip c.secondMoment,
        row.1.1 = 0 ∧ (!FloatOps.feq row.1.2 0 || !FloatOps.feq row.2 0) = true)
    ∨ (∃ v ∈ c.weights ++ c.firstMoment ++ c.secondMoment, ¬FloatOps.isFinite v = true)
    ∨ ∃ v ∈ c.secondMoment, FloatOps.lt v 0 = true) .phenotypeCompile

end Methods

/-- `CpuFoundationTrainer`. -/
structure CpuFoundationTrainer (F P : Type) [FloatOps F] where
  phenotype : TrainerPhenotype F P
  sourceFoundation : FounderAsset F
  checkpoint : FoundationTrainerCheckpoint F
  graph : SparseGraph phenotype.graph

inductive CpuReplayExecution where
  | reference | cadenceCsr
  deriving DecidableEq, Repr

namespace CpuFoundationTrainer

variable [FloatOps F]

/-- A method of the trainer. -/
abbrev TrainerM (F P : Type) [FloatOps F] (α : Type) :=
  EStateM ScaffoldContractError (CpuFoundationTrainer F P) α

/-- `CpuFoundationTrainer::new`. -/
def new (blake3 : List UInt8 → Blake3Digest) (phenotype : TrainerPhenotype F P)
    (source : FounderAsset F) (mask : StageTrainableMask) (config : AdamWConfig F) :
    Contract (CpuFoundationTrainer F P) := do
  config.validate
  source.validateAgainst blake3 phenotype.foundation phenotype.graph.synapseCount
  mask.validateFor phenotype
  reject (∃ route, (phenotype.graph.projections route).delayMicrosteps ≠ 0) .invalidDecisionEvidence
  let weights := List.ofFn phenotype.geneticWeight
  .ok
    { phenotype
      sourceFoundation := source
      checkpoint :=
        { schemaVersion := 2
          phenotypeHash := phenotype.graph.phenotypeHash
          sourceFoundationDigest := source.digest
          optimizerStep := 0
          config
          stageMask := mask
          weights
          firstMoment := List.replicate weights.length 0
          secondMoment := List.replicate weights.length 0
          updateAges := List.replicate weights.length 0 }
      graph := SparseGraph.new phenotype.graph }

/-- `CpuFoundationTrainer::from_checkpoint`. -/
def fromCheckpoint (blake3 : List UInt8 → Blake3Digest) (phenotype : TrainerPhenotype F P)
    (source : FounderAsset F) (checkpoint : FoundationTrainerCheckpoint F) :
    Contract (CpuFoundationTrainer F P) := do
  checkpoint.validateFor phenotype source.digest
  let result ← new blake3 phenotype source checkpoint.stageMask checkpoint.config
  .ok { result with checkpoint }

/-- `restore_checkpoint`. -/
def restoreCheckpoint (checkpoint : FoundationTrainerCheckpoint F) : TrainerM F P Unit := do
  let t ← get
  ofResult (checkpoint.validateFor t.phenotype t.sourceFoundation.digest)
  set { t with checkpoint }

/-- `set_replay_execution`. -/
def setReplayExecution (execution : CpuReplayExecution) : TrainerM F P Unit := do
  let t ← get
  set { t with graph := t.graph.setCadenceRows (execution == CpuReplayExecution.cadenceCsr) }

/-- `replay_execution`. -/
def replayExecution (t : CpuFoundationTrainer F P) : CpuReplayExecution :=
  if t.graph.cadenceRows.isSome then .cadenceCsr else .reference

/-- `set_stage_mask`. -/
def setStageMask (mask : StageTrainableMask) : TrainerM F P Unit := do
  let t ← get
  ofResult (mask.validateFor t.phenotype)
  set { t with checkpoint := { t.checkpoint with stageMask := mask } }

/-! ### Rebinding -/

/-- The derived `==` of neuron dynamics. -/
def sameDynamics (a b : NeuronDynamics F) : Bool :=
  FloatOps.feq a.bias b.bias && FloatOps.feq a.leak b.leak && a.activation == b.activation
    && FloatOps.feq a.activityEmaDecay b.activityEmaDecay
    && FloatOps.feq a.metabolicDecay b.metabolicDecay
    && FloatOps.feq a.homeostaticGain b.homeostaticGain

/-- The derived `==` of candidate decoders. -/
def sameDecoder (a b : CandidateDecoderPlan F) : Bool :=
  a.motorStart == b.motorStart
    && (match a.memoryChannel, b.memoryChannel with
      | none, none => true
      | some x, some y => FloatOps.feq x y
      | _, _ => false)
    && a.families.length == b.families.length
    && (a.families.zip b.families).all fun x =>
      x.1.family == x.2.family && FloatOps.feq x.1.bias x.2.bias

/-- The projections of a phenotype. -/
def projectionRows (p : TrainerPhenotype F P) :
    List (ProjectionType × CpuReplay.UpdateCadence × UInt8) :=
  List.ofFn fun route => (p.projectionType route, (p.graph.projections route).updateCadence,
    (p.graph.projections route).delayMicrosteps)

/-- The synapses of a phenotype, their genetic weights apart. -/
def synapseRows (p : TrainerPhenotype F P) :
    List (ℕ × ℕ × UInt32 × ℕ × UInt16 × CompiledSynapseKind) :=
  List.ofFn fun id => ((p.graph.synapses id).source.val, (p.graph.synapses id).target.val,
    FloatOps.toBits (p.alpha id), (p.graph.synapses id).routeIndex.val, p.receptorIndex id,
    (p.graph.synapses id).kind)

/-- What two phenotypes must share for a rebinding. -/
def samePlan [BEq P] (p next : TrainerPhenotype F P) : Bool :=
  p.plan == next.plan && p.foundation.brainClassId == next.foundation.brainClassId
    && p.foundation.sensorProfile == next.foundation.sensorProfile
    && p.foundation.routeAbiDigest == next.foundation.routeAbiDigest
    && p.foundation.plasticityAbiDigest == next.foundation.plasticityAbiDigest
    && p.graph.neuronCount == next.graph.neuronCount
    && p.graph.microstepCount == next.graph.microstepCount
    && projectionRows p == projectionRows next
    && ((List.ofFn p.graph.neuronDynamics).zip (List.ofFn next.graph.neuronDynamics)).all
      (fun d => sameDynamics d.1 d.2)
    && sameDecoder p.graph.candidateDecoder next.graph.candidateDecoder
    && p.graph.synapseCount == next.graph.synapseCount && synapseRows p == synapseRows next

/-- The weights of the trainer, of the asset and of the phenotype are the same bits. -/
def sameWeights (weights assetWeights geneticWeights : List F) : Bool :=
  ((weights.zip assetWeights).zip geneticWeights).all fun x =>
    FloatOps.toBits x.1.1 == FloatOps.toBits x.1.2 && FloatOps.toBits x.1.1 == FloatOps.toBits x.2

/-- The checks of `rebind_for_next_cohort`. -/
def admitNextCohort [BEq P] (blake3 : List UInt8 → Blake3Digest) (p : TrainerPhenotype F P)
    (checkpoint : FoundationTrainerCheckpoint F) (next : TrainerPhenotype F P)
    (asset : FounderAsset F) : Contract Unit := do
  asset.validateAgainst blake3 next.foundation next.graph.synapseCount
  checkpoint.stageMask.validateFor next
  let binding ← getOr next.foundation.foundationAbi.canonical .invalidDecisionEvidence
  reject (p.foundation.foundationAbi.canonical.isNone
    ∨ binding.foundationPayloadDigest ≠ some asset.digest ∨ samePlan p next = false
    ∨ sameWeights checkpoint.weights asset.weights (List.ofFn next.geneticWeight) = false)
    .invalidDecisionEvidence

/-- `rebind_for_next_cohort`. -/
def rebindForNextCohort [BEq P] (blake3 : List UInt8 → Blake3Digest) (next : TrainerPhenotype F P)
    (asset : FounderAsset F) : TrainerM F P Unit := do
  let t ← get
  ofResult (admitNextCohort blake3 t.phenotype t.checkpoint next asset)
  let rebound : CpuFoundationTrainer F P :=
    { phenotype := next
      sourceFoundation := asset
      checkpoint := { t.checkpoint with
        phenotypeHash := next.graph.phenotypeHash
        sourceFoundationDigest := asset.digest }
      graph := (SparseGraph.new next.graph).setCadenceRows (t.replayExecution == .cadenceCsr) }
  set rebound

/-! ### The optimizer -/

/-- `finite`. -/
def finite (xs : List F) : Contract Unit :=
  reject (∃ x ∈ xs, ¬FloatOps.isFinite x = true) .invalidDecisionEvidence

/-- `adam_coordinate`: the next weight and moments. -/
def adamCoordinate (w m v g : F) (age : UInt32) (c : AdamWConfig F) : Contract (F × F × F) := do
  reject (age = 0) .invalidDecisionEvidence
  let m := c.beta1 * m + (1 - c.beta1) * g
  let v := c.beta2 * v + (1 - c.beta2) * g * g
  let next := w - c.learningRate
    * ((m / (1 - FloatOps.powf c.beta1 age))
        / (FloatOps.sqrt (v / (1 - FloatOps.powf c.beta2 age)) + c.epsilon)
      + c.weightDecay * w)
  finite [next, m, v]
  .ok (next, m, v)

/-- The weight of a synapse after its sign guard. -/
def signGuard (p : TrainerPhenotype F P) (id : p.graph.Synapse) (w : F) : F :=
  match (p.graph.synapses id).kind, p.projectionType (p.graph.synapses id).routeIndex with
  | .recurrent, .lateralInhibition => if FloatOps.le 0 w then literal (-1) 10000 else w
  | .recurrent, .homeostatic => if FloatOps.lt w 0 then literal 1 10000 else w
  | .recurrent, .motorProposal => if FloatOps.lt w 0 then literal 1 10000 else w
  | _, _ => w

/-- The body of the coordinate loop of `apply_gradients`. -/
def updateCoordinate (p : TrainerPhenotype F P) (scale : F) (next : FoundationTrainerCheckpoint F)
    (row : F × ℕ) : Contract (FoundationTrainerCheckpoint F) :=
  let i := row.2
  if next.stageMask.isTrainable i = false then .ok next
  else if h : i < p.graph.synapseCount then do
    let age ← getOr (checkedAdd32 (next.updateAges.getD i 0) 1) .invalidDecisionEvidence
    let (w, m, v) ← adamCoordinate (next.weights.getD i 0) (next.firstMoment.getD i 0)
      (next.secondMoment.getD i 0) (row.1 * scale) age next.config
    .ok { next with
      weights := next.weights.set i (signGuard p ⟨i, h⟩ w)
      firstMoment := next.firstMoment.set i m
      secondMoment := next.secondMoment.set i v
      updateAges := next.updateAges.set i age }
  else .ok next

/-- `norm` of the trainable gradients. -/
def gradientNorm (mask : StageTrainableMask) (gradients : List F) : F :=
  FloatOps.sqrt (FloatOps.sum
    ((gradients.zipIdx.filter fun row => mask.isTrainable row.2).map fun row => row.1 * row.1))

/-- The gradient norm and the `next` that `apply_gradients` computes. -/
def nextCheckpoint (p : TrainerPhenotype F P) (checkpoint : FoundationTrainerCheckpoint F)
    (gradients : List F) : Contract (F × FoundationTrainerCheckpoint F) := do
  reject (gradients.length ≠ checkpoint.weights.length) .invalidDecisionEvidence
  finite gradients
  let step ← getOr (checkedAdd32 checkpoint.optimizerStep 1) .invalidDecisionEvidence
  let norm := gradientNorm checkpoint.stageMask gradients
  reject (FloatOps.isFinite norm = false) .invalidDecisionEvidence
  let clip := checkpoint.config.gradientClip
  let scale := if FloatOps.lt clip norm then clip / norm else 1
  let next ← gradients.zipIdx.foldlM (updateCoordinate p scale)
    { checkpoint with optimizerStep := step }
  .ok (norm, next)

/-- `apply_gradients`. -/
def applyGradients (gradients : List F) : TrainerM F P F := do
  let t ← get
  let (norm, next) ← ofResult (nextCheckpoint t.phenotype t.checkpoint gradients)
  set { t with checkpoint := next }
  pure norm

/-! ### Calls -/

end CpuFoundationTrainer

/-- The calls that change a trainer. -/
inductive TrainerCall (F P : Type) [FloatOps F] where
  | applyGradients (gradients : List F)
  | setStageMask (mask : StageTrainableMask)
  | restoreCheckpoint (checkpoint : FoundationTrainerCheckpoint F)
  | setReplayExecution (execution : CpuReplayExecution)
  | rebindForNextCohort (next : TrainerPhenotype F P) (asset : FounderAsset F)

namespace CpuFoundationTrainer

variable [FloatOps F] [BEq P] (blake3 : List UInt8 → Blake3Digest)

/-- What a call does; an update returns its gradient norm. -/
def call : TrainerCall F P → TrainerM F P (Option F)
  | .applyGradients gradients => some <$> applyGradients gradients
  | .setStageMask mask => (fun _ => none) <$> setStageMask mask
  | .restoreCheckpoint checkpoint => (fun _ => none) <$> restoreCheckpoint checkpoint
  | .setReplayExecution execution => (fun _ => none) <$> setReplayExecution execution
  | .rebindForNextCohort next asset => (fun _ => none) <$> rebindForNextCohort blake3 next asset

/-- The trainer after a call, refused or not. -/
def step (t : CpuFoundationTrainer F P) (c : TrainerCall F P) : CpuFoundationTrainer F P :=
  stateAfter (call blake3 c t)

end CpuFoundationTrainer

end Training

end ALife
