/-
# The replay in floats

`SparseGraph::forward`, `backward` and `speech_backward`
(`crates/alife_training/src/cpu/replay.rs`) and `TrainingSequence::validate_for`
(`crates/alife_training/src/types.rs`) in an arithmetic that is only given: every
sum is folded in the order of the source, and a value that is not finite is an
error where the source checks.  The objective is kept in a wider arithmetic, into
which `widen` takes a float.
-/

import ALife.Training.FoundationTrainer
import ALife.Training.ReplayBackward

namespace ALife

open Machine

namespace FloatReplay

attribute [local instance] CpuReplay.neZero_thirtyTwo

open CpuReplay (ActivationFunction BrainPhenotype ReplayError ReplaySpeechTarget SparseGraph Tape
  TrainingFrozenSynapse TrainingReplayCandidate TrainingReplayTick TrainingSequence)
open Training.CpuFoundationTrainer (finite)

variable {F : Type} [FloatOps F] {p : BrainPhenotype F}

/-! ### Windows -/

def isFiniteRow {n : ℕ} (row : Fin n → F) : Bool := decide (∀ i, FloatOps.isFinite (row i) = true)

/-- `(0.0..=1.0).contains(x)`. -/
def inUnit (x : F) : Bool := FloatOps.le 0 x && FloatOps.le x 1

/-- `DendriticBranch::validate_metadata`. -/
def validateBranch {n : ℕ} (b : CpuReplay.DendriticBranch F n) : Contract Unit := do
  reject (b.inputs = [] ∨ 32 < b.inputs.length) .invalidSparseProjectionSchema
  let values : List F := b.threshold :: b.outputGain :: b.inputs.map fun i => i.weight
  reject (∃ x ∈ values, FloatOps.isFinite x = false) .nonFiniteFloat

/-- `DendriticBranchSet::validate_for_neuron_count`. -/
def validateDendrites {n : ℕ} (s : CpuReplay.DendriticBranchSet F n) : Contract Unit := do
  reject (n = 0) .invalidSparseProjectionSchema
  s.branches.forM validateBranch

/-- The checks of `validate_for` on one tick. -/
def validateTick (tick : TrainingReplayTick p) : Contract Unit :=
  reject (isFiniteRow tick.encodedInputs = false ∨ FloatOps.isFinite tick.projectionGain = false
    ∨ FloatOps.isFinite tick.localThresholdShift = false
    ∨ p.microstepCount < tick.microstepCount ∨ isFiniteRow tick.effectiveWeightOffsets = false
    ∨ CpuReplay.maxStructuralEdges < tick.structuralSynapses.length
    ∨ (∃ edge ∈ tick.structuralSynapses,
        edge.cadence ≠ (p.projections edge.route).updateCadence.raw.toUInt32
          ∨ FloatOps.isFinite edge.effectiveWeight = false)
    ∨ tick.candidates = [] ∨ CpuReplay.maxActionCandidates < tick.candidates.length
    ∨ ∃ c ∈ tick.candidates, isFiniteRow c.decoderInputs = false
        ∨ FloatOps.isFinite c.innateBias = false) .phenotypeCompile

/-- `TrainingSequence::validate_for`. -/
def validateFor (q : TrainingSequence p) : Contract Unit := do
  reject (q.ticks = [] ∨ CpuReplay.maxTrainingSequenceTicks < q.ticks.length
    ∨ q.phenotypeHash ≠ p.phenotypeHash ∨ q.ticks.length ≤ q.burnInTicks
    ∨ isFiniteRow q.initial.activations = false
    ∨ (∃ x ∈ List.ofFn q.initial.activityEma ++ List.ofFn q.initial.metabolicLoad,
        (FloatOps.isFinite x && inUnit x) = false)
    ∨ FloatOps.isFinite q.memoryCandidateGain = false ∨ FloatOps.lt q.memoryCandidateGain 0 = true
    ∨ FloatOps.feq q.memoryCandidateGain (p.candidateDecoder.memoryChannel.getD 0) = false
    ∨ ∃ r, (p.projections r).delayMicrosteps ≠ 0) .phenotypeCompile
  validateDendrites q.initial.dendrites
  q.ticks.forM validateTick

/-! ### Forward -/

/-- `activate`. -/
def activate (x : F) : ActivationFunction → F
  | .identity => x
  | .relu => FloatOps.max x 0
  | .tanh => FloatOps.tanh x
  | .logistic => 1 / (1 + FloatOps.exp (-x))

/-- `f32::from(b as u8)`. -/
def ofBool (b : Bool) : F := if b then 1 else 0

/-- `derivative` of an activation, from its output. -/
def derivative (x : F) : ActivationFunction → F
  | .identity => 1
  | .relu => ofBool (FloatOps.lt 0 x)
  | .tanh => FloatOps.max (1 - x * x) 0
  | .logistic => x * (1 - x)

/-- What a branch's inputs exceed its threshold by. -/
def excess {n : ℕ} (previous : Fin n → F) (b : CpuReplay.DendriticBranch F n) : F :=
  FloatOps.sum (b.inputs.map fun i => previous i.source * i.weight) - b.threshold

section Forward

variable (g : SparseGraph p) (weights : p.Synapse → F)

/-- `sum` of a target, compiled synapses first and structural ones behind them. -/
def synapticSum (tick : TrainingReplayTick p) (step : ℕ) (previous : p.Neuron → F)
    (target : p.Neuron) : F :=
  let sum := (g.incomingAt target step).foldl (fun sum id =>
    if SparseGraph.active tick step id then
      sum + previous (p.synapses id).source * (weights id + tick.effectiveWeightOffsets id)
    else sum) 0
  (tick.structuralSynapses.filter fun s => s.target = target).foldl (fun sum s =>
    if SparseGraph.edgeActive tick step s then sum + previous s.source * s.effectiveWeight
    else sum) sum

/-- `dendritic` of a target. -/
def dendriticSum {n : ℕ} (dendrites : CpuReplay.DendriticBranchSet F n) (previous : Fin n → F)
    (target : Fin n) : F :=
  (dendrites.branchesAt target).foldl (fun dendritic b =>
    dendritic + FloatOps.tanh (FloatOps.max (excess previous b) 0) * b.outputGain) 0

/-- The rows of a microstep. -/
structure Microstep (p : BrainPhenotype F) where
  act : p.Neuron → F
  next : p.Neuron → F
  nextM : p.Neuron → F
  ema : p.Neuron → F

/-- The metabolic load before its clamp. -/
def metabolicRaw (output previousM : p.Neuron → F) (i : p.Neuron) : F :=
  (p.neuronDynamics i).metabolicDecay * previousM i
    + (1 - (p.neuronDynamics i).metabolicDecay) * output i * output i

/-- The target loop of a microstep. -/
def microstep (dendrites : CpuReplay.DendriticBranchSet F p.neuronCount)
    (tick : TrainingReplayTick p) (step : ℕ) (previous previousM ema : p.Neuron → F) :
    Microstep p :=
  let act := fun target =>
    let d := p.neuronDynamics target
    activate (d.bias + tick.encodedInputs target
      + tick.projectionGain
        * (synapticSum g weights tick step previous target + dendriticSum dendrites previous target)
      - d.homeostaticGain * previousM target - tick.localThresholdShift) d.activation
  let next := fun target =>
    (1 - (p.neuronDynamics target).leak) * previous target
      + (p.neuronDynamics target).leak * act target
  { act, next
    nextM := fun target => FloatOps.clamp (metabolicRaw next previousM target) 0 1
    ema := fun target => FloatOps.clamp ((p.neuronDynamics target).activityEmaDecay * ema target
      + (1 - (p.neuronDynamics target).activityEmaDecay) * FloatOps.abs (next target)) 0 1 }

/-- The tape under way, with the local `ema`. -/
structure Progress (p : BrainPhenotype F) where
  tape : Tape p
  ema : p.Neuron → F

/-- One round of the microstep loop. -/
def replayMicrostep (dendrites : CpuReplay.DendriticBranchSet F p.neuronCount)
    (tick : TrainingReplayTick p) (x : Progress p) (step : ℕ) : Contract (Progress p) :=
  let previous := x.tape.a.getLastD fun _ => 0
  let previousM := x.tape.m.getLastD fun _ => 0
  if tick.microstepCount ≤ step then
    .ok { x with
      tape := { x.tape with
        a := x.tape.a ++ [previous]
        m := x.tape.m ++ [previousM]
        activated := x.tape.activated ++ [fun _ => 0] } }
  else do
    let r := microstep g weights dendrites tick step previous previousM x.ema
    finite (List.ofFn r.next)
    finite (List.ofFn r.nextM)
    finite (List.ofFn r.ema)
    .ok
      { tape := { x.tape with
          a := x.tape.a ++ [r.next]
          m := x.tape.m ++ [r.nextM]
          activated := x.tape.activated ++ [r.act] }
        ema := r.ema }

/-- A decoder synapse of a candidate adds to `logit`, `memory` or `cognitive`. -/
def decode (tick : TrainingReplayTick p) (last : p.Neuron → F) (c : TrainingReplayCandidate F)
    (x : F × F × F) (id : p.Synapse) : F × F × F :=
  let v := c.decoderInputs (p.inputLane id) * (weights id + tick.effectiveWeightOffsets id)
  match p.head id with
  | some .actionCandidate => (x.1 + last (p.synapses id).source * v, x.2.1, x.2.2)
  | some .memoryContext => (x.1, x.2.1 + v, x.2.2)
  | some .cognitiveContext => (x.1, x.2.1, x.2.2 + v)
  | _ => x

/-- The `logit`, `memory` and `cognitive` of a candidate. -/
def candidateRow (gain : F) (tick : TrainingReplayTick p) (last : p.Neuron → F)
    (c : TrainingReplayCandidate F) : Contract (F × F × F) := do
  let f ← getOr (p.candidateDecoder.families.find? fun f => f.family = c.family)
    .invalidDecisionEvidence
  let x := (g.decoders c.family).foldl (decode weights tick last c) (f.bias + c.innateBias, 0, 0)
  .ok (x.1 + (FloatOps.clamp x.2.1 (-gain) gain + FloatOps.clamp x.2.2 (-gain) gain), x.2)

/-- One round of the tick loop of `forward`. -/
def replayTick (q : TrainingSequence p) (x : Progress p) (tick : TrainingReplayTick p) :
    Contract (Progress p) := do
  let x ← (List.range p.microstepCount).foldlM
    (replayMicrostep g weights q.initial.dendrites tick) x
  let last := x.tape.a.getLastD fun _ => 0
  let rows ← tick.candidates.mapM (candidateRow g weights q.memoryCandidateGain tick last)
  finite (rows.map (·.1))
  .ok { x with
    tape := { x.tape with
      candidateLogits := x.tape.candidateLogits ++ [rows.map (·.1)]
      finalActivations := x.tape.finalActivations ++ [last]
      finalActivityEma := x.tape.finalActivityEma ++ [x.ema]
      finalMetabolicLoad := x.tape.finalMetabolicLoad ++ [x.tape.m.getLastD fun _ => 0]
      memory := x.tape.memory ++ [rows.map (·.2.1)]
      cognitive := x.tape.cognitive ++ [rows.map (·.2.2)] } }

/-- `SparseGraph::forward`. -/
def forward (q : TrainingSequence p) : Contract (Tape p) := do
  let x ← q.ticks.foldlM (replayTick g weights q)
    { tape :=
        { candidateLogits := [], finalActivations := [], finalActivityEma := []
          finalMetabolicLoad := [], a := [q.initial.activations], m := [q.initial.metabolicLoad]
          activated := [], memory := [], cognitive := [] }
      ema := q.initial.activityEma }
  .ok x.tape

end Forward

/-! ### Utterances -/

/-- `step_logits`. -/
def stepLogits (t : ReplaySpeechTarget F) (step : ℕ) (output : Fin 32) : F :=
  let token := if step = 0 then t.token else t.continuation[step - 1]?.filter (· ≠ 0)
  match token with
  | none =>
    if output = 16 then literal (-4) 5 else if output = 17 then literal 4 5 else 0
  | some token =>
    if output < 8 then
      if output.val = t.act.raw then literal 4 5 else literal (-4) 5
    else if output < 16 then
      if token.toNat.testBit (output.val - 8) then literal 4 5 else literal (-4) 5
    else if output = 16 then literal 4 5
    else if output = 17 then
      if step + 1 = t.len then literal 4 5 else literal (-4) 5
    else 0

/-- `output_weight`. -/
def outputWeight (t : ReplaySpeechTarget F) (output : Fin 32) : F :=
  if t.token = none ∧ output ≠ 16 ∧ output ≠ 17 then 0
  else if 18 ≤ output.val then 0
  else t.weight

/-- `ReplaySpeechTarget::validate`. -/
def validateTarget (t : ReplaySpeechTarget F) : Contract Unit :=
  reject ((∃ token ∈ t.token, token = 0 ∨ 256 ≤ token) ∨ (∃ token ∈ t.continuation, 256 ≤ token)
    ∨ (t.token = none ∧ t.continuation ≠ [0, 0, 0, 0, 0])
    ∨ (∃ pair ∈ t.continuation.zip t.continuation.tail, pair.1 = 0 ∧ pair.2 ≠ 0)
    ∨ FloatOps.isFinite t.weight = false ∨ FloatOps.le t.weight 0 = true) .invalidDecisionEvidence

/-- `mass` of a class: of the utterances, or of the silences. -/
def speechMass (targets : List (Option (ReplaySpeechTarget F))) (silence : Bool) : F :=
  ((targets.filterMap id).filter fun t => t.token.isNone = silence).foldl
    (fun mass t => mass + t.weight * literal t.len 1) 0

/-- `replay_speech_loss_scales`. -/
def replaySpeechLossScales (targets : List (Option (ReplaySpeechTarget F))) (silence : Bool) : F :=
  let classes := max ([false, true].countP fun c => FloatOps.lt 0 (speechMass targets c)) 1
  if FloatOps.lt 0 (speechMass targets silence) then
    1 / (literal classes 1 * speechMass targets silence
      * (if silence then literal 2 1 else literal 18 1))
  else 0

/-- `input` of a speech synapse. -/
def speechInput (a : p.Neuron → F) (previous : Option (Fin 32 → F)) (id : p.Synapse) : F :=
  match previous with
  | some raw =>
    if 18 ≤ (p.speechLane id).val then FloatOps.tanh (raw (p.speechLane id))
    else a (p.synapses id).source
  | none => a (p.synapses id).source

/-- `raw[step]`, from the row before. -/
def speechRow (weights : p.Synapse → F) (tick : TrainingReplayTick p) (a : p.Neuron → F)
    (previous : Option (Fin 32 → F)) : Fin 32 → F :=
  p.speechIds.foldl (fun row id => addAt row (p.speechOutput id)
    (speechInput a previous id * (weights id + tick.effectiveWeightOffsets id))) fun _ => 0

/-- `raw[step]`. -/
def speechRaw (weights : p.Synapse → F) (tick : TrainingReplayTick p) (a : p.Neuron → F) :
    ℕ → Fin 32 → F
  | 0 => speechRow weights tick a none
  | step + 1 => speechRow weights tick a (some (speechRaw weights tick a step))

/-- `weight` of an output. -/
def lossWeight (t : ReplaySpeechTarget F) (scales : Bool → F) (step : ℕ) (output : Fin 32) : F :=
  if step < t.len then outputWeight t output * scales t.token.isNone else 0

/-! ### Backward -/

/-- What `backward` accumulates: `ga`, `gm`, `gradients` and `objective`. -/
structure Adjoints (p : BrainPhenotype F) (D : Type) where
  ga : ℕ → p.Neuron → F
  gm : ℕ → p.Neuron → F
  gradients : p.Synapse → F
  objective : D

/-- `TrainingGradientProbe`. -/
structure TrainingGradientProbe (p : BrainPhenotype F) (D : Type) where
  objective : D
  gradients : p.Synapse → F

section Backward

variable {D : Type} [FloatOps D] (widen : F → D)

namespace Adjoints

variable (s : Adjoints p D)

/-- `ga[state][i] += v`. -/
def addGa (state : ℕ) (i : p.Neuron) (v : F) : Adjoints p D :=
  { s with ga := Function.update s.ga state (addAt (s.ga state) i v) }

/-- `gradients[id] += v`. -/
def addGradient (id : p.Synapse) (v : F) : Adjoints p D :=
  { s with gradients := addAt s.gradients id v }

/-- `objective += v`. -/
def addObjective (v : D) : Adjoints p D := { s with objective := s.objective + v }

/-- Whole rows added to `ga[state]` and `gm[state]`. -/
def addRows (state : ℕ) (a m : p.Neuron → F) : Adjoints p D :=
  { s with ga := addAt s.ga state a, gm := addAt s.gm state m }

end Adjoints

section Speech

variable (t : ReplaySpeechTarget F) (scales : Bool → F) (weights : p.Synapse → F)
  (tick : TrainingReplayTick p) (a : p.Neuron → F)

/-- `error` of an output. -/
def speechError (step : ℕ) (output : Fin 32) : F :=
  speechRaw weights tick a step output - stepLogits t step output

/-- `deltas` of a step, from the input gradient of the step behind it. -/
def speechDeltas (future : Fin 32 → F) (step : ℕ) (output : Fin 32) : F :=
  let delta := literal 2 1 * lossWeight t scales step output * speechError t weights tick a step output
  if 18 ≤ output.val then
    let activation := FloatOps.tanh (speechRaw weights tick a step output)
    delta + future output * (1 - activation * activation)
  else delta

/-- `input_gradient` of a step. -/
def speechInputGradient (deltas : Fin 32 → F) : Fin 32 → F :=
  p.speechIds.foldl (fun row id => addAt row (p.speechLane id)
    (deltas (p.speechOutput id) * (weights id + tick.effectiveWeightOffsets id))) fun _ => 0

/-- One round of the reversed step loop of `speech_backward`. -/
def speechStep (state : ℕ) (hroom : p.speechSourceStart + 32 ≤ p.neuronCount)
    (x : (Fin 32 → F) × Adjoints p D) (step : ℕ) : (Fin 32 → F) × Adjoints p D :=
  let deltas := speechDeltas t scales weights tick a x.1 step
  let previous := if step = 0 then none else some (speechRaw weights tick a (step - 1))
  let inputGradient := speechInputGradient weights tick deltas
  let s := (List.finRange 32).foldl (fun s output =>
    let error := widen (speechError t weights tick a step output)
    s.addObjective (widen (lossWeight t scales step output) * (error * error))) x.2
  let s := p.speechIds.foldl (fun s id =>
    s.addGradient id (deltas (p.speechOutput id) * speechInput a previous id)) s
  let s := (List.finRange 32).foldl (fun s lane =>
    if step = 0 ∨ lane.val < 18 then
      s.addGa state ⟨p.speechSourceStart + lane.val, p.speechSource_lt hroom lane⟩
        (inputGradient lane)
    else s) s
  (inputGradient, s)

end Speech

/-- One round of the target loop of `speech_backward`. -/
def seedSpeech (weights : p.Synapse → F) (q : TrainingSequence p) (tape : Tape p)
    (scales : Bool → F) (s : Adjoints p D)
    (row : (TrainingReplayTick p × Option (ReplaySpeechTarget F)) × ℕ) :
    Except ReplayError (Adjoints p D) :=
  match row with
  | ((_, none), _) => .ok s
  | ((tick, some target), t) => do
    CpuReplay.ofContract (validateTarget target)
    failIf (t < q.burnInTicks) (.contract .invalidDecisionEvidence)
    let state := (t + 1) * p.microstepCount
    if hroom : p.speechSourceStart + 32 ≤ p.neuronCount then
      .ok ((List.range 6).reverse.foldl
        (speechStep widen target scales weights tick (tape.a.getD state fun _ => 0) state hroom)
        (fun _ => 0, s)).2
    else .error .panic

/-- `speech_backward`. -/
def speechBackward (weights : p.Synapse → F) (q : TrainingSequence p) (tape : Tape p)
    (targets : List (Option (ReplaySpeechTarget F))) (s : Adjoints p D) :
    Except ReplayError (Adjoints p D) :=
  (q.ticks.zip targets).zipIdx.foldlM
    (seedSpeech widen weights q tape (replaySpeechLossScales targets)) s

variable (g : SparseGraph p) (weights : p.Synapse → F)

/-- The body of the decoder loop of `backward` for one candidate. -/
def seedDecoder (gain : F) (tick : TrainingReplayTick p) (a : p.Neuron → F) (state : ℕ)
    (memory cognitive : F) (candidate : TrainingReplayCandidate F) (adjoint : F)
    (s : Adjoints p D) (id : p.Synapse) : Adjoints p D :=
  let input := candidate.decoderInputs (p.inputLane id)
  match p.head id with
  | some .actionCandidate =>
    (s.addGradient id (adjoint * a (p.synapses id).source * input)).addGa state
      (p.synapses id).source
      (adjoint * input * (weights id + tick.effectiveWeightOffsets id))
  | some .memoryContext =>
    if FloatOps.lt (-gain) memory && FloatOps.lt memory gain then s.addGradient id (adjoint * input)
    else s
  | some .cognitiveContext =>
    if FloatOps.lt (-gain) cognitive && FloatOps.lt cognitive gain then
      s.addGradient id (adjoint * input)
    else s
  | _ => s

/-- The body of the candidate loop of `backward`. -/
def seedCandidate (gain : F) (tape : Tape p) (tick : TrainingReplayTick p) (t : ℕ)
    (s : Adjoints p D) (row : (TrainingReplayCandidate F × F) × ℕ) : Adjoints p D :=
  let state := (t + 1) * p.microstepCount
  let logit := (tape.candidateLogits.getD t []).getD row.2 0
  (g.decoders row.1.1.family).foldl
    (seedDecoder weights gain tick (tape.a.getD state fun _ => 0) state
      ((tape.memory.getD t []).getD row.2 0) ((tape.cognitive.getD t []).getD row.2 0)
      row.1.1 row.1.2)
    (s.addObjective (widen row.1.2 * widen logit))

/-- One round of the row loop of `backward`. -/
def seedRow (q : TrainingSequence p) (tape : Tape p) (s : Adjoints p D)
    (row : (TrainingReplayTick p × List F) × ℕ) : Except ReplayError (Adjoints p D) := do
  failIf (row.1.2.length ≠ row.1.1.candidates.length) (.contract .invalidDecisionEvidence)
  CpuReplay.ofContract (finite row.1.2)
  if row.2 < q.burnInTicks then
    failIf (∃ adjoint ∈ row.1.2, FloatOps.feq adjoint 0 = false) (.contract .invalidDecisionEvidence)
    .ok s
  else
    .ok ((row.1.1.candidates.zip row.1.2).zipIdx.foldl
      (seedCandidate widen g weights q.memoryCandidateGain tape row.1.1 row.2) s)

/-- `gate` of a neuron. -/
def metabolicGate (output previousM : p.Neuron → F) (i : p.Neuron) : F :=
  ofBool (FloatOps.lt 0 (metabolicRaw output previousM i)
    && FloatOps.lt (metabolicRaw output previousM i) 1)

/-- `total` of a neuron. -/
def outputAdjoint (output previousM gaNext gmNext : p.Neuron → F) (i : p.Neuron) : F :=
  gaNext i + gmNext i * metabolicGate output previousM i * literal 2 1
    * (1 - (p.neuronDynamics i).metabolicDecay) * output i

/-- `delta` of a neuron. -/
def delta (output previousM act gaNext gmNext : p.Neuron → F) (i : p.Neuron) : F :=
  outputAdjoint output previousM gaNext gmNext i * (p.neuronDynamics i).leak
    * derivative (act i) (p.neuronDynamics i).activation

/-- The body of the loop over compiled synapses. -/
def sweepSynapse (tick : TrainingReplayTick p) (step : ℕ) (a δ : p.Neuron → F) (state : ℕ)
    (target : p.Neuron) (s : Adjoints p D) (id : p.Synapse) : Adjoints p D :=
  if SparseGraph.active tick step id then
    (s.addGradient id (δ target * a (p.synapses id).source * tick.projectionGain)).addGa state
      (p.synapses id).source
      (δ target * (weights id + tick.effectiveWeightOffsets id) * tick.projectionGain)
  else s

/-- The body of the loop over structural edges. -/
def sweepEdge (tick : TrainingReplayTick p) (step : ℕ) (δ : p.Neuron → F) (state : ℕ)
    (s : Adjoints p D) (e : TrainingFrozenSynapse p) : Adjoints p D :=
  if SparseGraph.edgeActive tick step e then
    s.addGa state e.source (δ e.target * e.effectiveWeight * tick.projectionGain)
  else s

/-- The body of the loop over dendritic branches. -/
def sweepBranch (tick : TrainingReplayTick p) (a δ : p.Neuron → F) (state : ℕ)
    (s : Adjoints p D) (b : CpuReplay.DendriticBranch F p.neuronCount) : Adjoints p D :=
  if FloatOps.lt 0 (excess a b) then
    let v := FloatOps.tanh (excess a b)
    b.inputs.foldl (fun s input => s.addGa state input.source
      (δ b.target * tick.projectionGain * b.outputGain * (1 - v * v) * input.weight)) s
  else s

/-- The loop over the targets of a microstep and their incoming synapses. -/
def sweepTargets (tick : TrainingReplayTick p) (step : ℕ) (a δ : p.Neuron → F) (state : ℕ)
    (s : Adjoints p D) : Adjoints p D :=
  (List.finRange p.neuronCount).foldl (fun s target =>
    (g.incomingAt target step).foldl (sweepSynapse weights tick step a δ state target) s) s

/-- One round of the reversed microstep loop of `backward`. -/
def backwardStep (q : TrainingSequence p) (tape : Tape p) (s : Adjoints p D) (step : ℕ) :
    Adjoints p D :=
  match q.ticks[step / p.microstepCount]? with
  | none => s
  | some tick =>
    let localStep := step % p.microstepCount
    if tick.microstepCount ≤ localStep then s.addRows step (s.ga (step + 1)) (s.gm (step + 1))
    else
      let output := tape.a.getD (step + 1) fun _ => 0
      let a := tape.a.getD step fun _ => 0
      let m := tape.m.getD step fun _ => 0
      let act := tape.activated.getD step fun _ => 0
      let gaNext := s.ga (step + 1)
      let gmNext := s.gm (step + 1)
      let δ := delta output m act gaNext gmNext
      let s := s.addRows step
        (fun i => outputAdjoint output m gaNext gmNext i * (1 - (p.neuronDynamics i).leak))
        (fun i => gmNext i * metabolicGate output m i * (p.neuronDynamics i).metabolicDecay
          - δ i * (p.neuronDynamics i).homeostaticGain)
      let s := sweepTargets g weights tick localStep a δ step s
      let s := tick.structuralSynapses.foldl (sweepEdge tick localStep δ step) s
      q.initial.dendrites.branches.foldl (sweepBranch tick a δ step) s

/-- `SparseGraph::backward`. -/
def backward (q : TrainingSequence p) (tape : Tape p) (adjoints : List (List F))
    (speechTargets : List (Option (ReplaySpeechTarget F))) :
    Except ReplayError (TrainingGradientProbe p D) := do
  failIf (adjoints.length ≠ q.ticks.length ∨ speechTargets.length ≠ q.ticks.length)
    (.contract .invalidDecisionEvidence)
  let s ← speechBackward widen weights q tape speechTargets
    { ga := fun _ _ => 0, gm := fun _ _ => 0, gradients := fun _ => 0, objective := 0 }
  let s ← (q.ticks.zip adjoints).zipIdx.foldlM (seedRow widen g weights q tape) s
  let s := sweep (backwardStep g weights q tape) (q.burnInTicks * p.microstepCount)
    ((q.ticks.length - q.burnInTicks) * p.microstepCount) s
  CpuReplay.ofContract (finite (List.ofFn s.gradients))
  failIf (FloatOps.isFinite s.objective = false) (.contract .invalidDecisionEvidence)
  .ok { objective := s.objective, gradients := s.gradients }

end Backward

end FloatReplay

end ALife
