/-
# The backward pass of the replay

`SparseGraph::backward` and `speech_backward` of
`crates/alife_training/src/cpu/replay.rs`: the adjoints of all states of the tape
are seeded by the speech targets and by the candidate rows, and the microsteps are
then gone through from the last to the burn-in boundary.  An index that the code
would find out of range ends in a panic (`ReplayError.panic`).
-/

import ALife.Machine.ReverseSweep
import ALife.Training.ReplaySpeech

namespace ALife

open Machine

namespace CpuReplay

attribute [local instance] atLeastTwo_two

variable {R : Type} {p : BrainPhenotype R}

inductive ReplayError where
  | contract (e : ScaffoldContractError)
  | panic
  deriving DecidableEq, Repr

/-- A contract error becomes a training error. -/
def ofContract {α : Type} : Contract α → Except ReplayError α
  | .ok a => .ok a
  | .error e => .error (.contract e)

theorem ofContract_eq_ok_iff {α : Type} {x : Contract α} {a : α} :
    ofContract x = .ok a ↔ x = .ok a := by
  cases x <;> simp [ofContract]

/-- What `backward` accumulates: `ga`, `gm`, `gradients` and `objective`. -/
structure Adjoints (p : BrainPhenotype R) where
  ga : ℕ → p.Neuron → R
  gm : ℕ → p.Neuron → R
  gradients : p.Synapse → R
  objective : R

namespace Adjoints

variable [Add R] (s : Adjoints p)

/-- `ga[state][i] += v`. -/
def addGa (state : ℕ) (i : p.Neuron) (v : R) : Adjoints p :=
  { s with ga := Function.update s.ga state (addAt (s.ga state) i v) }

/-- `gradients[id] += v`. -/
def addGradient (id : p.Synapse) (v : R) : Adjoints p :=
  { s with gradients := addAt s.gradients id v }

/-- `objective += v`. -/
def addObjective (v : R) : Adjoints p := { s with objective := s.objective + v }

/-- Whole rows added to `ga[state]` and `gm[state]`. -/
def addRows (state : ℕ) (a m : p.Neuron → R) : Adjoints p :=
  { s with ga := addAt s.ga state a, gm := addAt s.gm state m }

end Adjoints

/-- `TrainingGradientProbe`. -/
structure TrainingGradientProbe (p : BrainPhenotype R) where
  objective : R
  gradients : p.Synapse → R

namespace SparseGraph

variable [Field R] [LinearOrder R] [FloatFunctions R]

section Speech

variable (t : ReplaySpeechTarget R) (scales : Bool → R) (weights : p.Synapse → R)
  (tick : TrainingReplayTick p) (a : p.Neuron → R)

/-- `deltas` of a step, from the input gradient of the step behind it. -/
def speechDeltas (future : Fin 32 → R) (step : ℕ) (output : Fin 32) : R :=
  let raw := speechRaw weights tick a step output
  let activation := FloatFunctions.tanh raw
  2 * lossWeight t scales step output * (raw - t.stepLogits step output)
    + if 18 ≤ output.val then future output * (1 - activation * activation) else 0

/-- `input_gradient` of a step. -/
def speechInputGradient (deltas : Fin 32 → R) (lane : Fin 32) : R :=
  (p.speechIds.map fun id =>
    if p.speechLane id = lane then
      deltas (p.speechOutput id) * (weights id + tick.effectiveWeightOffsets id)
    else 0).sum

/-- One round of the reversed step loop of `speech_backward`. -/
def speechStep (state : ℕ) (hroom : p.speechSourceStart + 32 ≤ p.neuronCount)
    (x : (Fin 32 → R) × Adjoints p) (step : ℕ) : (Fin 32 → R) × Adjoints p :=
  let deltas := speechDeltas t scales weights tick a x.1 step
  let previous := rowBefore (speechRaw weights tick a) step
  let inputGradient := speechInputGradient weights tick deltas
  let s := x.2.addObjective (∑ output, lossWeight t scales step output
    * (speechRaw weights tick a step output - t.stepLogits step output) ^ 2)
  let s := p.speechIds.foldl (fun s id =>
    s.addGradient id (deltas (p.speechOutput id) * speechInput a previous id)) s
  let s := (List.finRange 32).foldl (fun s lane =>
    if step = 0 ∨ lane.val < 18 then
      s.addGa state ⟨p.speechSourceStart + lane.val, p.speechSource_lt hroom lane⟩
        (inputGradient lane)
    else s) s
  (inputGradient, s)

end Speech

/-- One round of the target loop of `speech_backward`. -/
def seedSpeech (weights : p.Synapse → R) (q : TrainingSequence p) (tape : Tape p)
    (scales : Bool → R) (s : Adjoints p)
    (row : (TrainingReplayTick p × Option (ReplaySpeechTarget R)) × ℕ) :
    Except ReplayError (Adjoints p) :=
  match row with
  | ((_, none), _) => .ok s
  | ((tick, some target), t) => do
    ofContract target.validate
    failIf (t < q.burnInTicks) (.contract .invalidDecisionEvidence)
    let state := (t + 1) * p.microstepCount
    if hroom : p.speechSourceStart + 32 ≤ p.neuronCount then
      .ok ((List.range 6).reverse.foldl
        (speechStep target scales weights tick (tape.a.getD state 0) state hroom) (0, s)).2
    else .error .panic

/-- `speech_backward`. -/
def speechBackward (weights : p.Synapse → R) (q : TrainingSequence p) (tape : Tape p)
    (targets : List (Option (ReplaySpeechTarget R))) (s : Adjoints p) :
    Except ReplayError (Adjoints p) :=
  (q.ticks.zip targets).zipIdx.foldlM
    (seedSpeech weights q tape (replaySpeechLossScales targets)) s

variable (g : SparseGraph p)

/-- The body of the decoder loop of `backward` for one candidate. -/
def seedDecoder (weights : p.Synapse → R) (gain : R) (tick : TrainingReplayTick p)
    (a : p.Neuron → R) (state : ℕ) (memory cognitive : R)
    (candidate : TrainingReplayCandidate R) (adjoint : R) (s : Adjoints p) (id : p.Synapse) :
    Adjoints p :=
  let input := candidate.decoderInputs (p.inputLane id)
  match p.head id with
  | some .actionCandidate =>
    (s.addGradient id (adjoint * a (p.synapses id).source * input)).addGa state
      (p.synapses id).source
      (adjoint * input * (weights id + tick.effectiveWeightOffsets id))
  | some .memoryContext =>
    if -gain < memory ∧ memory < gain then s.addGradient id (adjoint * input) else s
  | some .cognitiveContext =>
    if -gain < cognitive ∧ cognitive < gain then s.addGradient id (adjoint * input) else s
  | _ => s

/-- The body of the candidate loop of `backward`. -/
def seedCandidate (weights : p.Synapse → R) (gain : R) (tape : Tape p)
    (tick : TrainingReplayTick p) (t : ℕ) (s : Adjoints p)
    (row : (TrainingReplayCandidate R × R) × ℕ) : Adjoints p :=
  let state := (t + 1) * p.microstepCount
  let logit := (tape.candidateLogits.getD t []).getD row.2 0
  (g.decoders row.1.1.family).foldl
    (seedDecoder weights gain tick (tape.a.getD state 0) state
      ((tape.memory.getD t []).getD row.2 0) ((tape.cognitive.getD t []).getD row.2 0)
      row.1.1 row.1.2)
    (s.addObjective (row.1.2 * logit))

/-- One round of the row loop of `backward`. -/
def seedRow (weights : p.Synapse → R) (q : TrainingSequence p) (tape : Tape p) (s : Adjoints p)
    (row : (TrainingReplayTick p × List R) × ℕ) : Except ReplayError (Adjoints p) := do
  failIf (row.1.2.length ≠ row.1.1.candidates.length) (.contract .invalidDecisionEvidence)
  if row.2 < q.burnInTicks then
    failIf (∃ adjoint ∈ row.1.2, adjoint ≠ 0) (.contract .invalidDecisionEvidence)
    .ok s
  else
    .ok ((row.1.1.candidates.zip row.1.2).zipIdx.foldl
      (g.seedCandidate weights q.memoryCandidateGain tape row.1.1 row.2) s)

/-- Whether the clamp of a neuron's metabolic load lets its argument through. -/
def metabolicGate (output previousM : p.Neuron → R) (i : p.Neuron) : R :=
  if 0 < metabolicRaw output previousM i ∧ metabolicRaw output previousM i < 1 then 1 else 0

/-- `total` of a neuron. -/
def outputAdjoint (output previousM gaNext gmNext : p.Neuron → R) (i : p.Neuron) : R :=
  gaNext i + gmNext i * metabolicGate output previousM i * 2
    * (1 - (p.neuronDynamics i).metabolicDecay) * output i

/-- `delta` of a neuron. -/
def delta (output previousM act gaNext gmNext : p.Neuron → R) (i : p.Neuron) : R :=
  outputAdjoint output previousM gaNext gmNext i * (p.neuronDynamics i).leak
    * derivative (act i) (p.neuronDynamics i).activation

/-- The body of the loop over compiled synapses. -/
def sweepSynapse (weights : p.Synapse → R) (tick : TrainingReplayTick p) (step : ℕ)
    (a δ : p.Neuron → R) (state : ℕ) (target : p.Neuron) (s : Adjoints p) (id : p.Synapse) :
    Adjoints p :=
  if active tick step id then
    (s.addGradient id (δ target * a (p.synapses id).source * tick.projectionGain)).addGa state
      (p.synapses id).source
      (δ target * (weights id + tick.effectiveWeightOffsets id) * tick.projectionGain)
  else s

/-- The body of the loop over structural edges. -/
def sweepEdge (tick : TrainingReplayTick p) (step : ℕ) (δ : p.Neuron → R) (state : ℕ)
    (s : Adjoints p) (e : TrainingFrozenSynapse p) : Adjoints p :=
  if edgeActive tick step e then
    s.addGa state e.source (δ e.target * e.effectiveWeight * tick.projectionGain)
  else s

/-- The body of the loop over dendritic branches. -/
def sweepBranch (tick : TrainingReplayTick p) (a δ : p.Neuron → R) (state : ℕ) (s : Adjoints p)
    (b : DendriticBranch R p.neuronCount) : Adjoints p :=
  if 0 < excess a b then
    let v := FloatFunctions.tanh (excess a b)
    b.inputs.foldl (fun s input => s.addGa state input.source
      (δ b.target * tick.projectionGain * b.outputGain * (1 - v * v) * input.weight)) s
  else s

/-- One round of the reversed microstep loop of `backward`. -/
def backwardStep (weights : p.Synapse → R) (q : TrainingSequence p) (tape : Tape p)
    (s : Adjoints p) (step : ℕ) : Adjoints p :=
  match q.ticks[step / p.microstepCount]? with
  | none => s
  | some tick =>
    let localStep := step % p.microstepCount
    if tick.microstepCount ≤ localStep then s.addRows step (s.ga (step + 1)) (s.gm (step + 1))
    else
      let output := tape.a.getD (step + 1) 0
      let a := tape.a.getD step 0
      let m := tape.m.getD step 0
      let act := tape.activated.getD step 0
      let gaNext := s.ga (step + 1)
      let gmNext := s.gm (step + 1)
      let δ := delta output m act gaNext gmNext
      let s := s.addRows step
        (fun i => outputAdjoint output m gaNext gmNext i * (1 - (p.neuronDynamics i).leak))
        (fun i => gmNext i * metabolicGate output m i * (p.neuronDynamics i).metabolicDecay
          - δ i * (p.neuronDynamics i).homeostaticGain)
      let s := (List.finRange p.neuronCount).foldl (fun s target =>
        (g.incomingAt target localStep).foldl (sweepSynapse weights tick localStep a δ step target) s) s
      let s := tick.structuralSynapses.foldl (sweepEdge tick localStep δ step) s
      q.initial.dendrites.branches.foldl (sweepBranch tick a δ step) s

/-- `SparseGraph::backward`. -/
def backward (weights : p.Synapse → R) (q : TrainingSequence p) (tape : Tape p)
    (adjoints : List (List R)) (speechTargets : List (Option (ReplaySpeechTarget R))) :
    Except ReplayError (TrainingGradientProbe p) := do
  failIf (adjoints.length ≠ q.ticks.length ∨ speechTargets.length ≠ q.ticks.length)
    (.contract .invalidDecisionEvidence)
  let s ← speechBackward weights q tape speechTargets
    { ga := 0, gm := 0, gradients := 0, objective := 0 }
  let s ← (q.ticks.zip adjoints).zipIdx.foldlM (g.seedRow weights q tape) s
  let s := sweep (g.backwardStep weights q tape) (q.burnInTicks * p.microstepCount)
    ((q.ticks.length - q.burnInTicks) * p.microstepCount) s
  .ok { objective := s.objective, gradients := s.gradients }

end SparseGraph

end CpuReplay

end ALife
