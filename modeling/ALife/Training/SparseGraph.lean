/-
# The forward replay of the sparse graph

`SparseGraph` of `crates/alife_training/src/cpu/replay.rs` with its cadence rows
(`replay/cadence_rows.rs`): the synapses onto each neuron, the decoder synapses of
each family, and the replay of a window of ticks that records every state it goes
through on a tape.  `ema` is a local of `forward`; the checks that a row is finite
pass on numbers.
-/

import ALife.Machine.Kinks
import ALife.Training.ReplaySequence

namespace ALife

open Machine

namespace CpuReplay

variable {R : Type}

/-- `route_fires`. -/
def routeFires (raw : UInt8) (step : ℕ) : Bool :=
  match raw.toNat with
  | 0 => true
  | 1 | 2 => step % 2 == 0
  | 3 | 4 => step == 0
  | _ => false

section Kernels

variable [Field R] [LinearOrder R] [FloatFunctions R]

/-- `activate`. -/
def activate (x : R) : ActivationFunction → R
  | .identity => x
  | .relu => max x 0
  | .tanh => FloatFunctions.tanh x
  | .logistic => 1 / (1 + FloatFunctions.exp (-x))

/-- `derivative` of an activation, from its output. -/
def derivative (x : R) : ActivationFunction → R
  | .identity => 1
  | .relu => if 0 < x then 1 else 0
  | .tanh => max (1 - x * x) 0
  | .logistic => x * (1 - x)

end Kernels

/-- `CadenceRows`: for each class of steps, the synapses that fire, target by target. -/
structure CadenceRows (p : BrainPhenotype R) where
  offsets : Fin 3 → List ℕ
  ids : Fin 3 → List p.Synapse

namespace CadenceRows

/-- `class` of a step. -/
def stepClass (step : ℕ) : Fin 3 := if step = 0 then 0 else if step % 2 = 0 then 2 else 1

/-- The offsets and ids of one class, row after row. -/
def extend {p : BrainPhenotype R} (step : ℕ) (x : List ℕ × List p.Synapse)
    (row : List p.Synapse) : List ℕ × List p.Synapse :=
  let ids := x.2 ++ row.filter fun id => routeFires (p.cadence id) step
  (x.1 ++ [ids.length], ids)

/-- `CadenceRows::new`. -/
def new {p : BrainPhenotype R} (incoming : List (List p.Synapse)) : CadenceRows p where
  offsets step := (incoming.foldl (extend step.val) ([0], [])).1
  ids step := (incoming.foldl (extend step.val) ([0], [])).2

/-- `CadenceRows::row`. -/
def row {p : BrainPhenotype R} (c : CadenceRows p) (target step : ℕ) : List p.Synapse :=
  let start := (c.offsets (stepClass step)).getD target 0
  let stop := (c.offsets (stepClass step)).getD (target + 1) 0
  ((c.ids (stepClass step)).drop start).take (stop - start)

end CadenceRows

/-- The incoming synapses of each neuron and the decoder synapses of each family. -/
structure SparseGraph (p : BrainPhenotype R) where
  incoming : p.Neuron → List p.Synapse
  decoders : CandidateActionFamily → List p.Synapse
  cadenceRows : Option (CadenceRows p)

/-- `Tape`. -/
structure Tape (p : BrainPhenotype R) where
  candidateLogits : List (List R)
  finalActivations : List (p.Neuron → R)
  finalActivityEma : List (p.Neuron → R)
  finalMetabolicLoad : List (p.Neuron → R)
  a : List (p.Neuron → R)
  m : List (p.Neuron → R)
  activated : List (p.Neuron → R)
  memory : List (List R)
  cognitive : List (List R)

namespace SparseGraph

/-- `SparseGraph::new`. -/
def new (p : BrainPhenotype R) : SparseGraph p where
  incoming target := (List.finRange p.synapseCount).filter fun id =>
    (p.synapses id).kind = .recurrent ∧ (p.synapses id).target = target
  decoders family := (List.finRange p.synapseCount).filter fun id =>
    match (p.synapses id).kind with
    | .recurrent => false
    | .decoder c => c.head ≠ .speechPayload ∧ c.family = family
  cadenceRows := none

variable {p : BrainPhenotype R} (g : SparseGraph p)

/-- `set_cadence_rows`. -/
def setCadenceRows (enabled : Bool) : SparseGraph p :=
  { g with
    cadenceRows :=
      if enabled then some (CadenceRows.new ((List.finRange p.neuronCount).map g.incoming))
      else none }

/-- `incoming_at`. -/
def incomingAt (target : p.Neuron) (step : ℕ) : List p.Synapse :=
  match g.cadenceRows with
  | some rows => rows.row target step
  | none => g.incoming target

/-- A synapse takes part in a step: its route is enabled and due. -/
def active (tick : TrainingReplayTick p) (step : ℕ) (id : p.Synapse) : Bool :=
  tick.enabledRoutes (p.synapses id).routeIndex && routeFires (p.cadence id) step

/-- A structural edge takes part in a step. -/
def edgeActive (tick : TrainingReplayTick p) (step : ℕ) (s : TrainingFrozenSynapse p) : Bool :=
  tick.enabledRoutes s.route && routeFires s.cadence.toUInt8 step

variable [Field R] [LinearOrder R] [FloatFunctions R]

/-- What a branch's inputs exceed its threshold by. -/
def excess (previous : p.Neuron → R) (b : DendriticBranch R p.neuronCount) : R :=
  (b.inputs.map fun i => previous i.source * i.weight).sum - b.threshold

/-- `sum` of a target: its compiled and its structural synapses. -/
def synapticSum (weights : p.Synapse → R) (tick : TrainingReplayTick p) (step : ℕ)
    (previous : p.Neuron → R) (target : p.Neuron) : R :=
  ((g.incomingAt target step).map fun id =>
      if active tick step id then
        previous (p.synapses id).source * (weights id + tick.effectiveWeightOffsets id)
      else 0).sum
    + ((tick.structuralSynapses.filter fun s => s.target = target).map fun s =>
      if edgeActive tick step s then previous s.source * s.effectiveWeight else 0).sum

/-- `dendritic` of a target. -/
def dendriticSum (dendrites : DendriticBranchSet R p.neuronCount) (previous : p.Neuron → R)
    (target : p.Neuron) : R :=
  ((dendrites.branchesAt target).map fun b =>
    FloatFunctions.tanh (max (excess previous b) 0) * b.outputGain).sum

/-- The argument of a neuron's activation. -/
def preactivation (weights : p.Synapse → R) (dendrites : DendriticBranchSet R p.neuronCount)
    (tick : TrainingReplayTick p) (step : ℕ) (previous previousM : p.Neuron → R)
    (target : p.Neuron) : R :=
  (p.neuronDynamics target).bias + tick.encodedInputs target
    + tick.projectionGain
      * (g.synapticSum weights tick step previous target + dendriticSum dendrites previous target)
    - (p.neuronDynamics target).homeostaticGain * previousM target
    - tick.localThresholdShift

/-- The rows of one microstep. -/
structure Microstep (p : BrainPhenotype R) where
  act : p.Neuron → R
  next : p.Neuron → R
  nextM : p.Neuron → R
  ema : p.Neuron → R

/-- The metabolic load before its clamp. -/
def metabolicRaw (output previousM : p.Neuron → R) (i : p.Neuron) : R :=
  (p.neuronDynamics i).metabolicDecay * previousM i
    + (1 - (p.neuronDynamics i).metabolicDecay) * output i * output i

/-- The body of the microstep loop of `forward`. -/
def microstep (weights : p.Synapse → R) (dendrites : DendriticBranchSet R p.neuronCount)
    (tick : TrainingReplayTick p) (step : ℕ) (previous previousM ema : p.Neuron → R) :
    Microstep p :=
  let act := fun target =>
    activate (g.preactivation weights dendrites tick step previous previousM target)
      (p.neuronDynamics target).activation
  let next := fun target =>
    (1 - (p.neuronDynamics target).leak) * previous target
      + (p.neuronDynamics target).leak * act target
  { act, next
    nextM := fun target => clamp (metabolicRaw next previousM target) 0 1
    ema := fun target => clamp ((p.neuronDynamics target).activityEmaDecay * ema target
      + (1 - (p.neuronDynamics target).activityEmaDecay) * |next target|) 0 1 }

/-- The weighted inputs of a candidate that its family's synapses of one head carry. -/
def headSum (weights : p.Synapse → R) (tick : TrainingReplayTick p)
    (candidate : TrainingReplayCandidate R) (h : DecoderHeadKind) (factor : p.Synapse → R) : R :=
  ((g.decoders candidate.family).map fun id =>
    if p.head id = some h then
      factor id * (candidate.decoderInputs (p.inputLane id)
        * (weights id + tick.effectiveWeightOffsets id))
    else 0).sum

/-- `memory` of a candidate. -/
def memorySum (weights : p.Synapse → R) (tick : TrainingReplayTick p)
    (candidate : TrainingReplayCandidate R) : R :=
  g.headSum weights tick candidate .memoryContext fun _ => 1

/-- `cognitive` of a candidate. -/
def cognitiveSum (weights : p.Synapse → R) (tick : TrainingReplayTick p)
    (candidate : TrainingReplayCandidate R) : R :=
  g.headSum weights tick candidate .cognitiveContext fun _ => 1

/-- The logit of a candidate whose family has the decoder bias `bias`. -/
def candidateLogit (weights : p.Synapse → R) (gain : R) (tick : TrainingReplayTick p)
    (last : p.Neuron → R) (candidate : TrainingReplayCandidate R) (bias : R) : R :=
  bias + candidate.innateBias
    + g.headSum weights tick candidate .actionCandidate (fun id => last (p.synapses id).source)
    + (clamp (g.memorySum weights tick candidate) (-gain) gain
      + clamp (g.cognitiveSum weights tick candidate) (-gain) gain)

/-- The decoder bias of a candidate's family. -/
def familyBias (candidate : TrainingReplayCandidate R) : Contract R :=
  match p.candidateDecoder.families.find? fun f => f.family = candidate.family with
  | some f => .ok f.bias
  | none => .error .invalidDecisionEvidence

/-- The tape under way, with the local `ema`. -/
structure Replay (p : BrainPhenotype R) where
  tape : Tape p
  ema : p.Neuron → R

/-- One round of the microstep loop of `forward`. -/
def replayMicrostep (weights : p.Synapse → R) (dendrites : DendriticBranchSet R p.neuronCount)
    (tick : TrainingReplayTick p) (x : Replay p) (step : ℕ) : Replay p :=
  let previous := x.tape.a.getLastD 0
  let previousM := x.tape.m.getLastD 0
  if tick.microstepCount ≤ step then
    { x with
      tape := { x.tape with
        a := x.tape.a ++ [previous]
        m := x.tape.m ++ [previousM]
        activated := x.tape.activated ++ [0] } }
  else
    let r := g.microstep weights dendrites tick step previous previousM x.ema
    { tape := { x.tape with
        a := x.tape.a ++ [r.next]
        m := x.tape.m ++ [r.nextM]
        activated := x.tape.activated ++ [r.act] }
      ema := r.ema }

/-- One round of the tick loop of `forward`. -/
def replayTick (weights : p.Synapse → R) (q : TrainingSequence p) (x : Replay p)
    (tick : TrainingReplayTick p) : Contract (Replay p) := do
  let x := (List.range p.microstepCount).foldl
    (g.replayMicrostep weights q.initial.dendrites tick) x
  let last := x.tape.a.getLastD 0
  let biases ← tick.candidates.mapM (familyBias (p := p))
  .ok { x with
    tape := { x.tape with
      candidateLogits := x.tape.candidateLogits
        ++ [List.zipWith (g.candidateLogit weights q.memoryCandidateGain tick last)
          tick.candidates biases]
      finalActivations := x.tape.finalActivations ++ [last]
      finalActivityEma := x.tape.finalActivityEma ++ [x.ema]
      finalMetabolicLoad := x.tape.finalMetabolicLoad ++ [x.tape.m.getLastD 0]
      memory := x.tape.memory ++ [tick.candidates.map (g.memorySum weights tick)]
      cognitive := x.tape.cognitive ++ [tick.candidates.map (g.cognitiveSum weights tick)] } }

/-- What `forward` starts with. -/
def replayStart (q : TrainingSequence p) : Replay p where
  tape :=
    { candidateLogits := [], finalActivations := [], finalActivityEma := []
      finalMetabolicLoad := [], a := [q.initial.activations], m := [q.initial.metabolicLoad]
      activated := [], memory := [], cognitive := [] }
  ema := q.initial.activityEma

/-- `SparseGraph::forward`. -/
def forward (weights : p.Synapse → R) (q : TrainingSequence p) : Contract (Tape p) := do
  let x ← q.ticks.foldlM (g.replayTick weights q) (replayStart q)
  .ok x.tape

end SparseGraph

end CpuReplay

end ALife
