/-
# Learning from the replay of a trainer

The methods of `CpuFoundationTrainer` that replay a window
(`crates/alife_training/src/cpu/mod.rs`), and the runs of a learner that computes
its gradients from them.  A learner is any function of what the replay shows it
(`ReplayView`).  The view does not depend on the execution that is selected
(`view_withGraph`), so a selection anywhere in a run changes nothing behind it.
-/

import ALife.Training.CadenceRows
import ALife.Training.TrainerRestart

namespace ALife

open Machine

namespace Training

open CpuReplay (BrainPhenotype ReplayError ReplaySpeechTarget SparseGraph Tape TrainingSequence)
open FloatReplay (TrainingGradientProbe)
open CpuFoundationTrainer

variable {F P D : Type} [FloatOps F] [FloatOps D]

/-- What the replay of a phenotype shows: the tape of a window, and its gradients. -/
@[ext]
structure ReplayView (p : BrainPhenotype F) (D : Type) where
  forward : TrainingSequence p → Contract (Tape p)
  probe : TrainingSequence p → List (List F) → List (Option (ReplaySpeechTarget F)) →
    Except ReplayError (TrainingGradientProbe p D)

namespace CpuFoundationTrainer

variable (t : CpuFoundationTrainer F P)

/-- `weights`. -/
def weight (id : t.phenotype.graph.Synapse) : F := t.checkpoint.weights.getD id 0

/-- `forward`. -/
def forward (q : TrainingSequence t.phenotype.graph) : Contract (Tape t.phenotype.graph) := do
  FloatReplay.validateFor q
  FloatReplay.forward t.graph t.weight q

/-- `probe_replay_gradients_with_speech`. -/
def probeReplayGradients (widen : F → D) (q : TrainingSequence t.phenotype.graph)
    (adjoints : List (List F)) (targets : List (Option (ReplaySpeechTarget F))) :
    Except ReplayError (TrainingGradientProbe t.phenotype.graph D) := do
  CpuReplay.ofContract (FloatReplay.validateFor q)
  failIf (adjoints.length ≠ q.ticks.length - q.burnInTicks) (.contract .invalidDecisionEvidence)
  let full := (q.ticks.take q.burnInTicks).map fun tick => List.replicate tick.candidates.length 0
  let tape ← CpuReplay.ofContract (t.forward q)
  FloatReplay.backward widen t.graph t.weight q tape (full ++ adjoints) targets

/-- What the replay of a trainer shows. -/
def view (widen : F → D) : ReplayView t.phenotype.graph D where
  forward := t.forward
  probe := t.probeReplayGradients widen

end CpuFoundationTrainer

/-- A step of a run: a call with given arguments, or an update by gradients that the learner
computes from the phenotype, the checkpoint and what the replay shows. -/
inductive LearnerEvent (F P D : Type) [FloatOps F] where
  | call (c : TrainerCall F P)
  | learn (gradients : (p : TrainerPhenotype F P) → FoundationTrainerCheckpoint F →
      ReplayView p.graph D → Contract (List F))

/-- The step selects an execution. -/
def LearnerEvent.selects : LearnerEvent F P D → Bool
  | .call (.setReplayExecution _) => true
  | _ => false

section Runs

variable [BEq P] (blake3 : List UInt8 → Blake3Digest) (widen : F → D)

/-- The call that a step makes; a learner that fails makes none. -/
def LearnerEvent.callOn (t : CpuFoundationTrainer F P) :
    LearnerEvent F P D → Contract (TrainerCall F P)
  | .call c => .ok c
  | .learn gradients =>
    (gradients t.phenotype t.checkpoint (t.view widen)).map .applyGradients

/-- The trainer after a step. -/
def learnStep (t : CpuFoundationTrainer F P) (e : LearnerEvent F P D) : CpuFoundationTrainer F P :=
  match e.callOn widen t with
  | .ok c => step blake3 t c
  | .error _ => t

/-- What is seen of a step: its result and the checkpoint it leaves; of a selection, nothing. -/
def learnReply (t : CpuFoundationTrainer F P) (e : LearnerEvent F P D) :
    Option (Contract (Option F) × FoundationTrainerCheckpoint F) :=
  if e.selects then none
  else
    match e.callOn widen t with
    | .ok c => some (resultOf (call blake3 c t), (step blake3 t c).checkpoint)
    | .error err => some (.error err, t.checkpoint)

/-! ### The execution -/

/-- The graph is that of the phenotype, with or without its cadence rows. -/
def Rowed (t : CpuFoundationTrainer F P) (g : SparseGraph t.phenotype.graph) : Prop :=
  ∃ enabled, g = (SparseGraph.new t.phenotype.graph).setCadenceRows enabled

omit [BEq P] in
/-- **The replay shows the same** whether or not the cadence rows are installed. -/
theorem view_withGraph {t : CpuFoundationTrainer F P} {g : SparseGraph t.phenotype.graph}
    (ht : Rowed t t.graph) (hg : Rowed t g) :
    ({ t with graph := g } : CpuFoundationTrainer F P).view widen = t.view widen := by
  obtain ⟨enabled, ht⟩ := ht
  obtain ⟨enabled', rfl⟩ := hg
  have hforward : ∀ q : TrainingSequence t.phenotype.graph,
      FloatReplay.forward ((SparseGraph.new t.phenotype.graph).setCadenceRows enabled') t.weight q
        = FloatReplay.forward t.graph t.weight q := by
    intro q
    rw [ht, FloatReplay.forward_setCadenceRows _ _ enabled,
      FloatReplay.forward_setCadenceRows _ _ enabled']
  have hbackward : ∀ q tape adjoints targets,
      FloatReplay.backward widen ((SparseGraph.new t.phenotype.graph).setCadenceRows enabled')
          t.weight q tape adjoints targets
        = FloatReplay.backward widen t.graph t.weight q tape adjoints targets := by
    intro q tape adjoints targets
    rw [ht, FloatReplay.backward_setCadenceRows _ _ _ enabled,
      FloatReplay.backward_setCadenceRows _ _ _ enabled']
  have htape : ∀ q, ({ t with
      graph := (SparseGraph.new t.phenotype.graph).setCadenceRows enabled' } :
      CpuFoundationTrainer F P).forward q = t.forward q :=
    fun q => congrArg (fun x => FloatReplay.validateFor q >>= fun _ => x) (hforward q)
  refine ReplayView.ext (funext htape) ?_
  funext q adjoints targets
  unfold view probeReplayGradients
  dsimp only
  rw [htape]
  congr 1
  funext _
  congr 1
  funext _
  congr 1
  funext tape
  exact hbackward q tape _ targets

/-- A call keeps the graph that of the phenotype. -/
theorem rowed_of_outcome {t t' : CpuFoundationTrainer F P} {c : TrainerCall F P} {a : Option F}
    (h : outcome blake3 t c = .ok (a, t')) (ht : Rowed t t.graph) : Rowed t' t'.graph := by
  obtain ⟨enabled, ht⟩ := ht
  cases c with
  | applyGradients gradients =>
    obtain ⟨⟨norm, next⟩, -, h⟩ := contract_bind_eq_ok_iff.1 h
    obtain ⟨-, rfl⟩ := Prod.mk.inj (Except.ok.inj h)
    exact ⟨enabled, ht⟩
  | setStageMask mask =>
    obtain ⟨-, h⟩ := contract_check_eq_ok_iff.1 h
    obtain ⟨-, rfl⟩ := Prod.mk.inj (Except.ok.inj h)
    exact ⟨enabled, ht⟩
  | restoreCheckpoint checkpoint =>
    obtain ⟨-, h⟩ := contract_check_eq_ok_iff.1 h
    obtain ⟨-, rfl⟩ := Prod.mk.inj (Except.ok.inj h)
    exact ⟨enabled, ht⟩
  | setReplayExecution execution =>
    obtain ⟨-, rfl⟩ := Prod.mk.inj (Except.ok.inj h)
    exact ⟨_, by rw [ht]; rfl⟩
  | rebindForNextCohort next asset =>
    obtain ⟨-, h⟩ := contract_check_eq_ok_iff.1 h
    obtain ⟨-, rfl⟩ := Prod.mk.inj (Except.ok.inj h)
    exact ⟨_, rfl⟩

/-- A call on two trainers that differ in their cadence rows alone. -/
theorem call_withGraph {t : CpuFoundationTrainer F P} {g : SparseGraph t.phenotype.graph}
    (ht : Rowed t t.graph) (hg : Rowed t g) (c : TrainerCall F P) :
    resultOf (call blake3 c { t with graph := g }) = resultOf (call blake3 c t) ∧
      ∃ g', step blake3 { t with graph := g } c = { step blake3 t c with graph := g' } ∧
        Rowed (step blake3 t c) (step blake3 t c).graph ∧ Rowed (step blake3 t c) g' := by
  unfold step
  rw [call_eq, call_eq]
  rcases outcome_withGraph blake3 t g c with ⟨e, h, h'⟩ | ⟨a, t', g', h, h'⟩
  · rw [h, h']
    exact ⟨rfl, g, rfl, ht, hg⟩
  · rw [h, h']
    exact ⟨rfl, g', rfl, rowed_of_outcome blake3 h ht, rowed_of_outcome blake3 h' hg⟩

variable {blake3 widen} in
theorem learnReply_of_ok {t : CpuFoundationTrainer F P} {e : LearnerEvent F P D}
    {c : TrainerCall F P} (hselects : e.selects = false) (h : e.callOn widen t = .ok c) :
    learnReply blake3 widen t e
      = some (resultOf (call blake3 c t), (step blake3 t c).checkpoint) := by
  unfold learnReply
  rw [hselects, if_neg Bool.false_ne_true, h]

variable {blake3 widen} in
theorem learnReply_of_error {t : CpuFoundationTrainer F P} {e : LearnerEvent F P D}
    {err : ScaffoldContractError} (hselects : e.selects = false)
    (h : e.callOn widen t = .error err) :
    learnReply blake3 widen t e = some (.error err, t.checkpoint) := by
  unfold learnReply
  rw [hselects, if_neg Bool.false_ne_true, h]

/-- **A run and the run without its selections** show the same, and end with the same
checkpoint. -/
theorem outputs_filter (events : List (LearnerEvent F P D)) {t : CpuFoundationTrainer F P}
    {g : SparseGraph t.phenotype.graph} (ht : Rowed t t.graph) (hg : Rowed t g) :
    outputs (learnStep blake3 widen) (learnReply blake3 widen) { t with graph := g } events
        = outputs (learnStep blake3 widen) (learnReply blake3 widen) t
          (events.filter fun e => !e.selects) ∧
      (events.foldl (learnStep blake3 widen) { t with graph := g }).checkpoint
        = ((events.filter fun e => !e.selects).foldl (learnStep blake3 widen) t).checkpoint := by
  induction events generalizing t with
  | nil => exact ⟨rfl, rfl⟩
  | cons e events ih =>
    have hcallOn : e.callOn widen { t with graph := g } = e.callOn widen t := by
      cases e with
      | call c => rfl
      | learn gradients =>
        unfold LearnerEvent.callOn
        dsimp only
        rw [view_withGraph widen ht hg]
    cases hselects : e.selects with
    | true =>
      -- a selection gives the trainer another graph, and the other run does not have it
      rw [List.filter_cons_of_neg (by rw [hselects]; exact Bool.false_ne_true), outputs,
        List.foldl_cons]
      have hreply : learnReply blake3 widen { t with graph := g } e = none := if_pos hselects
      obtain ⟨execution, rfl⟩ : ∃ execution, e = .call (.setReplayExecution execution) := by
        unfold LearnerEvent.selects at hselects
        split at hselects
        · exact ⟨_, rfl⟩
        · cases hselects
      have hstep : learnStep blake3 widen ({ t with graph := g } : CpuFoundationTrainer F P)
          (.call (.setReplayExecution execution))
          = { t with graph := g.setCadenceRows (execution == CpuReplayExecution.cadenceCsr) } := rfl
      obtain ⟨enabled, rfl⟩ := hg
      rw [hreply, hstep]
      exact ih ht ⟨_, rfl⟩
    | false =>
      rw [List.filter_cons_of_pos (by rw [hselects]; rfl), outputs, outputs, List.foldl_cons,
        List.foldl_cons]
      cases hcall : e.callOn widen t with
      | error err =>
        have hstep : learnStep blake3 widen t e = t := by
          unfold learnStep
          rw [hcall]
        have hstep' : learnStep blake3 widen { t with graph := g } e = { t with graph := g } := by
          unfold learnStep
          rw [hcallOn, hcall]
        obtain ⟨houtputs, hlast⟩ := ih ht hg
        rw [learnReply_of_error hselects (hcallOn.trans hcall), learnReply_of_error hselects hcall,
          hstep, hstep']
        exact ⟨congrArg _ houtputs, hlast⟩
      | ok c =>
        have hstep : learnStep blake3 widen t e = step blake3 t c := by
          unfold learnStep
          rw [hcall]
        have hstep' : learnStep blake3 widen { t with graph := g } e
            = step blake3 { t with graph := g } c := by
          unfold learnStep
          rw [hcallOn, hcall]
        obtain ⟨hresult, g', hnext, ht', hg'⟩ := call_withGraph blake3 ht hg c
        obtain ⟨houtputs, hlast⟩ := ih ht' hg'
        rw [learnReply_of_ok hselects (hcallOn.trans hcall), learnReply_of_ok hselects hcall, hstep,
          hstep', hresult, hnext]
        exact ⟨congrArg _ houtputs, hlast⟩

variable {blake3} in
omit [BEq P] in
theorem rowed_of_started {t : CpuFoundationTrainer F P} (h : Started blake3 t) :
    Rowed t t.graph := by
  rcases h with ⟨phenotype, source, mask, config, h⟩ | ⟨phenotype, source, checkpoint, h⟩
  · obtain ⟨-, -, -, -, rfl⟩ := new_eq_ok_iff.1 h
    exact ⟨false, rfl⟩
  · unfold fromCheckpoint at h
    obtain ⟨-, h⟩ := contract_check_eq_ok_iff.1 h
    obtain ⟨result, hnew, h⟩ := contract_bind_eq_ok_iff.1 h
    obtain rfl := Except.ok.inj h
    obtain ⟨-, -, -, -, rfl⟩ := new_eq_ok_iff.1 hnew
    exact ⟨false, rfl⟩

/-- **The execution is invisible.**  A window has the same tape and the same gradients with the
cadence rows and without them, and two runs of a trainer that differ in their selections alone show
the same results and checkpoints. -/
theorem executions_invisible :
    (∀ (p : BrainPhenotype F) (g : SparseGraph p) (enabled : Bool) (weights : p.Synapse → F)
      (q : TrainingSequence p), FloatReplay.forward (g.setCadenceRows enabled) weights q
        = FloatReplay.forward (g.setCadenceRows false) weights q) ∧
    (∀ (p : BrainPhenotype F) (g : SparseGraph p) (enabled : Bool) (weights : p.Synapse → F)
      (q : TrainingSequence p) (tape : Tape p) (adjoints : List (List F))
      (targets : List (Option (ReplaySpeechTarget F))),
      FloatReplay.backward widen (g.setCadenceRows enabled) weights q tape adjoints targets
        = FloatReplay.backward widen (g.setCadenceRows false) weights q tape adjoints targets) ∧
    ∀ t : CpuFoundationTrainer F P, Started blake3 t → ∀ events events' : List (LearnerEvent F P D),
      (events.filter fun e => !e.selects) = (events'.filter fun e => !e.selects) →
      outputs (learnStep blake3 widen) (learnReply blake3 widen) t events
          = outputs (learnStep blake3 widen) (learnReply blake3 widen) t events' ∧
        (events.foldl (learnStep blake3 widen) t).checkpoint
          = (events'.foldl (learnStep blake3 widen) t).checkpoint := by
  refine ⟨fun p g enabled weights q => FloatReplay.forward_setCadenceRows g weights enabled q,
    fun p g enabled weights q tape adjoints targets =>
      FloatReplay.backward_setCadenceRows g weights widen enabled q tape adjoints targets,
    fun t hstart events events' hfilter => ?_⟩
  have hrowed := rowed_of_started hstart
  obtain ⟨houtputs, hlast⟩ := outputs_filter blake3 widen events hrowed hrowed
  obtain ⟨houtputs', hlast'⟩ := outputs_filter blake3 widen events' hrowed hrowed
  rw [hfilter] at houtputs hlast
  exact ⟨houtputs.trans houtputs'.symm, hlast.trans hlast'.symm⟩

/-- A window of one tick with all neurons at 1. -/
def sampleWindow (p : BrainPhenotype ℚ) : TrainingSequence p where
  phenotypeHash := p.phenotypeHash
  initial := ⟨fun _ => 1, fun _ => 0, fun _ => 0, ⟨[], List.Pairwise.nil⟩⟩
  ticks := [⟨fun _ => 0, 1, 0, p.microstepCount, fun _ => true, fun _ => 0, [],
    [⟨.idle, fun _ => 1, 0⟩]⟩]
  burnInTicks := 0
  memoryCandidateGain := p.candidateDecoder.memoryChannel.getD 0

/-- A learner that takes the gradients of this window, its only candidate pushed up. -/
def sampleLearn : LearnerEvent ℚ Unit ℚ :=
  .learn fun p _ view =>
    (view.probe (sampleWindow p.graph) [[-1]] [none]).toOption.elim (.error .phenotypeCompile)
      fun probe => .ok (List.ofFn probe.gradients)

/-- Two updates of the trainer whose second route fires in every other microstep, with and without
selections between them. -/
theorem executions_invisible_sample :
    FloatReplay.forward (trioTrainer.graph.setCadenceRows true) (fun _ => -(1 / 10))
          (sampleWindow trioPhenotype.graph)
        = FloatReplay.forward (trioTrainer.graph.setCadenceRows false) (fun _ => -(1 / 10))
          (sampleWindow trioPhenotype.graph) ∧
      (outputs (learnStep constantHash id) (learnReply constantHash id) trioTrainer
          [.call (.setReplayExecution .cadenceCsr), sampleLearn,
            .call (.setReplayExecution .reference), sampleLearn]
        = outputs (learnStep constantHash id) (learnReply constantHash id) trioTrainer
          [sampleLearn, sampleLearn]) ∧
      ([sampleLearn, sampleLearn].foldl (learnStep constantHash id)
        trioTrainer).checkpoint.optimizerStep = 2 := by
  obtain ⟨hforward, -, hruns⟩ :=
    executions_invisible (P := Unit) constantHash (id : ℚ → ℚ)
  refine ⟨hforward _ _ true _ _, (hruns trioTrainer started_trio _ _ ?_).1, ?_⟩
  · rfl
  · decide +kernel

end Runs

end Training

end ALife
