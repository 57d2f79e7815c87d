/-
# What the CPU learner replays

The compiled graph, as far as a replay reads it (`BrainPhenotype` of
`crates/alife_core/src/phenotype`), and the recorded window
(`crates/alife_training/src/types.rs`): the state at its start, a frozen context
for every tick, and the utterances it is to be trained on.

Numbers are those of an ordered field with two library functions, so that every
value is finite.  A vector has its length in its type: an array over the neurons
or the synapses of the phenotype is a function on them, and an index into it
cannot be out of range.  What `validate_against` of a phenotype guarantees of the
decoder's coordinates is carried by `BrainPhenotype`, and the order of dendritic
branches by `DendriticBranchSet`.
-/

import ALife.Core.CanonicalDigest
import ALife.Machine.Checks
import ALife.Phenotype.Compiled

namespace ALife

open Machine

namespace CpuReplay

/-- The library functions of `f32` that a replay calls. -/
class FloatFunctions (R : Type) where
  exp : R → R
  tanh : R → R

inductive ActivationFunction where
  | identity | relu | tanh | logistic
  deriving DecidableEq, Repr

inductive UpdateCadence where
  | hot60Hz | hot15To60Hz | hot10To30Hz | hot5To15Hz | hot1To5Hz | sleepOrOffline | disabled
  deriving DecidableEq, Repr

/-- `UpdateCadence::raw`. -/
def UpdateCadence.raw : UpdateCadence → UInt8
  | .hot60Hz => 0
  | .hot15To60Hz => 1
  | .hot10To30Hz => 2
  | .hot5To15Hz => 3
  | .hot1To5Hz => 4
  | .sleepOrOffline => 5
  | .disabled => 6

structure NeuronDynamics (R : Type) where
  bias : R
  leak : R
  activation : ActivationFunction
  activityEmaDecay : R
  metabolicDecay : R
  homeostaticGain : R

structure CompiledProjection where
  updateCadence : UpdateCadence
  delayMicrosteps : UInt8

structure CompiledSynapse (neuronCount routeCount : ℕ) where
  source : Fin neuronCount
  target : Fin neuronCount
  routeIndex : Fin routeCount
  kind : CompiledSynapseKind

structure CandidateDecoderFamilyPlan (R : Type) where
  family : CandidateActionFamily
  bias : R

structure CandidateDecoderPlan (R : Type) where
  motorStart : ℕ
  /-- `memory_channel` with its `max_candidate_gain`. -/
  memoryChannel : Option R
  families : List (CandidateDecoderFamilyPlan R)

/-- `SpeechDecoderLayoutV1::MOTOR_SOURCE_OFFSET`. -/
def motorSourceOffset : ℕ := 128

/-- `SpeechDecoderLayoutV1::MOTOR_TARGET_OFFSET`. -/
def motorTargetOffset : ℕ := 160

/-- A phenotype that its own `validate_against` accepts. -/
structure BrainPhenotype (R : Type) where
  phenotypeHash : Digest256
  neuronCount : ℕ
  microstepCount : ℕ
  microstepCount_pos : 0 < microstepCount
  routeCount : ℕ
  projections : Fin routeCount → CompiledProjection
  synapseCount : ℕ
  synapses : Fin synapseCount → CompiledSynapse neuronCount routeCount
  neuronDynamics : Fin neuronCount → NeuronDynamics R
  candidateDecoder : CandidateDecoderPlan R
  inputLane_lt : ∀ id c, (synapses id).kind = .decoder c → c.head ≠ .speechPayload →
    c.inputLane.toNat < 54
  speech_coordinate : ∀ id c, (synapses id).kind = .decoder c → c.head = .speechPayload →
    c.inputLane.toNat < 32 ∧ c.motorIndex.toNat < 32 ∧
      (synapses id).source.val
        = candidateDecoder.motorStart + motorSourceOffset + c.inputLane.toNat ∧
      (synapses id).target.val
        = candidateDecoder.motorStart + motorTargetOffset + c.motorIndex.toNat

variable {R : Type}

/-- Of the numeral 2 in an arbitrary field. -/
theorem atLeastTwo_two : Nat.AtLeastTwo 2 := ⟨le_rfl⟩

/-- Of the numerals among the lanes of a row. -/
theorem neZero_thirtyTwo : NeZero 32 := ⟨by decide⟩

namespace BrainPhenotype

variable (p : BrainPhenotype R)

abbrev Neuron : Type := Fin p.neuronCount

abbrev Route : Type := Fin p.routeCount

abbrev Synapse : Type := Fin p.synapseCount

/-- The cadence of a synapse's projection. -/
def cadence (id : p.Synapse) : UInt8 :=
  (p.projections (p.synapses id).routeIndex).updateCadence.raw

/-- The head of a decoder synapse. -/
def head (id : p.Synapse) : Option DecoderHeadKind :=
  match (p.synapses id).kind with
  | .recurrent => none
  | .decoder c => some c.head

/-- The lane a decoder synapse reads of a candidate's inputs. -/
def inputLane (id : p.Synapse) : Fin 54 :=
  match (p.synapses id).kind with
  | .recurrent => 0
  | .decoder c => Fin.ofNat 54 c.inputLane.toNat

/-- `target_start` of the speech decoder. -/
def speechTargetStart : ℕ := p.candidateDecoder.motorStart + motorTargetOffset

/-- `source_start` of the speech decoder. -/
def speechSourceStart : ℕ := p.speechTargetStart - 32

/-- The synapses of the speech decoder. -/
def speechIds : List p.Synapse :=
  (List.finRange p.synapseCount).filter fun id => p.head id = some .speechPayload

/-- The output of a speech synapse, counted from `target_start`. -/
def speechOutput (id : p.Synapse) : Fin 32 :=
  Fin.ofNat 32 ((p.synapses id).target.val - p.speechTargetStart)

/-- The lane of a speech synapse, counted from `source_start`. -/
def speechLane (id : p.Synapse) : Fin 32 :=
  Fin.ofNat 32 ((p.synapses id).source.val - p.speechSourceStart)

theorem speechSourceStart_eq :
    p.speechSourceStart = p.candidateDecoder.motorStart + motorSourceOffset := by
  simp only [speechSourceStart, speechTargetStart, motorTargetOffset, motorSourceOffset]
  omega

theorem speechSource_lt (h : p.speechSourceStart + 32 ≤ p.neuronCount) (lane : Fin 32) :
    p.speechSourceStart + lane.val < p.neuronCount := by
  omega

/-- A speech synapse reads the motor neuron of its lane. -/
theorem source_eq_speechLane {id : p.Synapse} (h : id ∈ p.speechIds) :
    (p.synapses id).source.val = p.speechSourceStart + (p.speechLane id).val := by
  have hhead : p.head id = some .speechPayload := by simpa [speechIds] using h
  unfold head at hhead
  split at hhead
  · simp at hhead
  · rename_i c hkind
    obtain ⟨hlane, -, hsource, -⟩ := p.speech_coordinate id c hkind (Option.some.inj hhead)
    have hval : (p.speechLane id).val = c.inputLane.toNat := by
      simp only [speechLane, speechSourceStart_eq, hsource, Fin.ofNat_eq_cast, Fin.val_natCast]
      omega
    rw [hval, hsource, speechSourceStart_eq]

end BrainPhenotype

structure DendriticInputRef (R : Type) (neuronCount : ℕ) where
  source : Fin neuronCount
  weight : R

structure DendriticBranch (R : Type) (neuronCount : ℕ) where
  target : Fin neuronCount
  threshold : R
  outputGain : R
  inputs : List (DendriticInputRef R neuronCount)

/-- Branches in the order of their targets, as `DendriticBranchSet::new` leaves them. -/
structure DendriticBranchSet (R : Type) (neuronCount : ℕ) where
  branches : List (DendriticBranch R neuronCount)
  sorted : branches.Pairwise fun b c => b.target ≤ c.target

/-- `slice::partition_point` of a list whose elements with `p` stand before the others. -/
def partitionPoint {α : Type} (l : List α) (p : α → Bool) : ℕ := (l.takeWhile p).length

namespace DendriticBranchSet

variable {n : ℕ} (s : DendriticBranchSet R n)

/-- `DendriticBranchSet::target_span`. -/
def targetSpan (target : Fin n) : ℕ × ℕ :=
  let start := partitionPoint s.branches fun b => b.target < target
  (start, partitionPoint (s.branches.drop start) (fun b => b.target = target) + start)

/-- `branches()[target_span(target)]`. -/
def branchesAt (target : Fin n) : List (DendriticBranch R n) :=
  (s.branches.drop (s.targetSpan target).1).take
    ((s.targetSpan target).2 - (s.targetSpan target).1)

/-- `DendriticBranchSet::validate_for_neuron_count`. -/
def validateForNeuronCount : Contract Unit :=
  if n = 0 ∨ ∃ b ∈ s.branches, b.inputs = [] ∨ 32 < b.inputs.length then
    .error .invalidSparseProjectionSchema
  else .ok ()

end DendriticBranchSet

theorem drop_length_takeWhile {α : Type} (p : α → Bool) (l : List α) :
    l.drop (l.takeWhile p).length = l.dropWhile p := by
  induction l with
  | nil => rfl
  | cons a l ih => by_cases h : p a <;> simp [h, ih]

theorem take_length_takeWhile {α : Type} (p : α → Bool) (l : List α) :
    l.take (l.takeWhile p).length = l.takeWhile p := by
  induction l with
  | nil => rfl
  | cons a l ih => by_cases h : p a <;> simp [h, ih]

/-- The span of a target holds the branches onto it. -/
theorem DendriticBranchSet.branchesAt_eq_filter {n : ℕ} (s : DendriticBranchSet R n)
    (target : Fin n) : s.branchesAt target = s.branches.filter fun b => b.target = target := by
  have hspan : s.branchesAt target
      = (s.branches.dropWhile fun b => b.target < target).takeWhile fun b => b.target = target := by
    simp only [branchesAt, targetSpan, partitionPoint, Nat.add_sub_cancel, drop_length_takeWhile,
      take_length_takeWhile]
  rw [hspan]
  have hsorted := s.sorted
  generalize s.branches = branches at hsorted ⊢
  induction branches with
  | nil => rfl
  | cons b l ih =>
    obtain ⟨hb, hl⟩ := List.pairwise_cons.1 hsorted
    rcases lt_trichotomy b.target target with h | h | h
    · simp [h, h.ne, ih hl]
    · subst h
      have hnone : l.dropWhile (fun c => c.target < b.target) = l := by
        rcases l with _ | ⟨c, l⟩
        · rfl
        · simp [not_lt.2 (hb c List.mem_cons_self)]
      rw [List.dropWhile_cons_of_neg (by simp), List.takeWhile_cons_of_pos (by simp),
        List.filter_cons_of_pos (by simp), ← ih hl, hnone]
    · have hnone : ∀ c ∈ l, c.target ≠ target := fun c hc => (h.trans_le (hb c hc)).ne'
      have hfilter : l.filter (fun c => decide (c.target = target)) = [] := by
        simpa using hnone
      simp [h.ne', not_lt.2 h.le, hfilter]

structure TrainingInitialState (p : BrainPhenotype R) where
  activations : p.Neuron → R
  activityEma : p.Neuron → R
  metabolicLoad : p.Neuron → R
  dendrites : DendriticBranchSet R p.neuronCount

structure TrainingReplayCandidate (R : Type) where
  family : CandidateActionFamily
  decoderInputs : Fin 54 → R
  innateBias : R

structure TrainingFrozenSynapse (p : BrainPhenotype R) where
  source : p.Neuron
  target : p.Neuron
  route : p.Route
  cadence : UInt32
  effectiveWeight : R

structure TrainingReplayTick (p : BrainPhenotype R) where
  encodedInputs : p.Neuron → R
  projectionGain : R
  localThresholdShift : R
  microstepCount : ℕ
  enabledRoutes : p.Route → Bool
  effectiveWeightOffsets : p.Synapse → R
  structuralSynapses : List (TrainingFrozenSynapse p)
  candidates : List (TrainingReplayCandidate R)

structure TrainingSequence (p : BrainPhenotype R) where
  phenotypeHash : Digest256
  initial : TrainingInitialState p
  ticks : List (TrainingReplayTick p)
  burnInTicks : ℕ
  memoryCandidateGain : R

/-- `MAX_TRAINING_SEQUENCE_TICKS`. -/
def maxTrainingSequenceTicks : ℕ := 2048

/-- `MAX_STRUCTURAL_EDGES`. -/
def maxStructuralEdges : ℕ := 64

/-- `MAX_ACTION_CANDIDATES`. -/
def maxActionCandidates : ℕ := 32

section Checks

variable [Field R] [LinearOrder R] {p : BrainPhenotype R}

/-- The checks of `validate_for` on one tick. -/
def TrainingReplayTick.validate (tick : TrainingReplayTick p) : Contract Unit :=
  failIf (p.microstepCount < tick.microstepCount
    ∨ maxStructuralEdges < tick.structuralSynapses.length
    ∨ (∃ edge ∈ tick.structuralSynapses,
        edge.cadence ≠ (p.projections edge.route).updateCadence.raw.toUInt32)
    ∨ tick.candidates = []
    ∨ maxActionCandidates < tick.candidates.length) .phenotypeCompile

/-- `TrainingSequence::validate_for`. -/
def TrainingSequence.validateFor (q : TrainingSequence p) : Contract Unit := do
  failIf (q.ticks = []
    ∨ maxTrainingSequenceTicks < q.ticks.length
    ∨ q.phenotypeHash ≠ p.phenotypeHash
    ∨ q.ticks.length ≤ q.burnInTicks
    ∨ (∃ i, ¬(0 ≤ q.initial.activityEma i ∧ q.initial.activityEma i ≤ 1))
    ∨ (∃ i, ¬(0 ≤ q.initial.metabolicLoad i ∧ q.initial.metabolicLoad i ≤ 1))
    ∨ q.memoryCandidateGain < 0
    ∨ q.memoryCandidateGain ≠ p.candidateDecoder.memoryChannel.getD 0
    ∨ ∃ r, (p.projections r).delayMicrosteps ≠ 0) .phenotypeCompile
  q.initial.dendrites.validateForNeuronCount
  q.ticks.forM TrainingReplayTick.validate

/-- What the gradient needs of an accepted window. -/
theorem TrainingSequence.of_validateFor {q : TrainingSequence p} (h : q.validateFor = .ok ()) :
    q.burnInTicks < q.ticks.length ∧ 0 ≤ q.memoryCandidateGain := by
  unfold validateFor at h
  rw [contract_seq_eq_ok_iff, failIf_eq_ok_iff] at h
  have hchecks := h.1
  push Not at hchecks
  exact ⟨hchecks.2.2.2.1, hchecks.2.2.2.2.2.2.1⟩

end Checks

end CpuReplay

end ALife
