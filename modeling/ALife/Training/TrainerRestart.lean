/-
# The trainer and its checkpoint

A trainer that is rebuilt from its checkpoint differs from the original in its
cadence rows alone, which no call reads: the two answer every later sequence of
calls alike (`outputs_withGraph`), and selecting the original's execution makes
them equal.  With what a call keeps (`TrainerValid.outcome`) this holds at the end
of every run of calls, refused or not.
-/

import ALife.Training.TrainerRuns

namespace ALife

open Machine

namespace Training

open CpuReplay (SparseGraph)
open CpuFoundationTrainer

variable {F P : Type} [FloatOps F] [BEq P] (blake3 : List UInt8 → Blake3Digest)

/-- What a caller sees of a call: its result, and the checkpoint it leaves. -/
def reply (t : CpuFoundationTrainer F P) (c : TrainerCall F P) :
    Option (Contract (Option F) × FoundationTrainerCheckpoint F) :=
  some (resultOf (call blake3 c t), (step blake3 t c).checkpoint)

/-- A call does not read the cadence rows. -/
theorem outcome_withGraph (t : CpuFoundationTrainer F P) (g : SparseGraph t.phenotype.graph)
    (c : TrainerCall F P) :
    (∃ e, outcome blake3 t c = .error e ∧ outcome blake3 { t with graph := g } c = .error e) ∨
    ∃ a t' g', outcome blake3 t c = .ok (a, t') ∧
      outcome blake3 { t with graph := g } c = .ok (a, { t' with graph := g' }) := by
  cases c with
  | applyGradients gradients =>
    unfold outcome
    dsimp only
    cases nextCheckpoint t.phenotype t.checkpoint gradients with
    | ok x => exact Or.inr ⟨some x.1, { t with checkpoint := x.2 }, g, rfl, rfl⟩
    | error e => exact Or.inl ⟨e, rfl, rfl⟩
  | setStageMask mask =>
    unfold outcome
    dsimp only
    cases mask.validateFor t.phenotype with
    | ok x =>
      exact Or.inr ⟨none, { t with checkpoint := { t.checkpoint with stageMask := mask } }, g, rfl,
        rfl⟩
    | error e => exact Or.inl ⟨e, rfl, rfl⟩
  | restoreCheckpoint checkpoint =>
    unfold outcome
    dsimp only
    cases checkpoint.validateFor t.phenotype t.sourceFoundation.digest with
    | ok x => exact Or.inr ⟨none, { t with checkpoint }, g, rfl, rfl⟩
    | error e => exact Or.inl ⟨e, rfl, rfl⟩
  | setReplayExecution execution => exact Or.inr ⟨_, _, _, rfl, rfl⟩
  | rebindForNextCohort next asset =>
    unfold outcome
    dsimp only
    cases admitNextCohort blake3 t.phenotype t.checkpoint next asset with
    | ok x => exact Or.inr ⟨_, _, _, rfl, rfl⟩
    | error e => exact Or.inl ⟨e, rfl, rfl⟩

/-- **Trainers that differ in their cadence rows alone** answer every sequence of calls alike. -/
theorem outputs_withGraph (t : CpuFoundationTrainer F P) (g : SparseGraph t.phenotype.graph)
    (calls : List (TrainerCall F P)) :
    outputs (step blake3) (reply blake3) { t with graph := g } calls
      = outputs (step blake3) (reply blake3) t calls := by
  induction calls generalizing t with
  | nil => rfl
  | cons c calls ih =>
    rw [outputs, outputs]
    unfold reply step
    rw [call_eq, call_eq]
    rcases outcome_withGraph blake3 t g c with ⟨e, h, h'⟩ | ⟨a, t', g', h, h'⟩
    · rw [h, h']
      exact congrArg _ (ih t g)
    · rw [h, h']
      exact congrArg _ (ih t' g')

/-! ### Updates -/

/-- What an accepted update does to a trainer. -/
structure Updated (t t' : CpuFoundationTrainer F P) : Prop where
  kept : ∃ next, t' = { t with checkpoint := next }
  step : t'.checkpoint.optimizerStep.toNat = t.checkpoint.optimizerStep.toNat + 1
  age : ∀ i, t.checkpoint.stageMask.isTrainable i = true →
    (coordinate t'.checkpoint i).age.toNat = (coordinate t.checkpoint i).age.toNat + 1
  frozen : ∀ i, t.checkpoint.stageMask.isTrainable i = false →
    coordinate t'.checkpoint i = coordinate t.checkpoint i
  inhibition : ∀ id : t.phenotype.graph.Synapse, t.checkpoint.stageMask.isTrainable id = true →
    (t.phenotype.graph.synapses id).kind = .recurrent →
    t.phenotype.projectionType (t.phenotype.graph.synapses id).routeIndex = .lateralInhibition →
    FloatOps.le 0 (coordinate t'.checkpoint id).weight = false
  excitation : ∀ id : t.phenotype.graph.Synapse, t.checkpoint.stageMask.isTrainable id = true →
    (t.phenotype.graph.synapses id).kind = .recurrent →
    (t.phenotype.projectionType (t.phenotype.graph.synapses id).routeIndex = .homeostatic ∨
      t.phenotype.projectionType (t.phenotype.graph.synapses id).routeIndex = .motorProposal) →
    FloatOps.lt (coordinate t'.checkpoint id).weight 0 = false

omit [BEq P] in
/-- **What an update does**, from a restorable trainer. -/
theorem updated_of_nextCheckpoint [RoundedSigns F] {t : CpuFoundationTrainer F P}
    (h : TrainerValid blake3 t) {gradients : List F} {norm : F}
    {next : FoundationTrainerCheckpoint F}
    (hnext : nextCheckpoint t.phenotype t.checkpoint gradients = .ok (norm, next)) :
    Updated t { t with checkpoint := next } := by
  obtain ⟨hstep, -, htouched⟩ := nextCheckpoint_spec h.checkpoint.full hnext
  have htrainable : ∀ i, t.checkpoint.stageMask.isTrainable i = true →
      Stepped t.phenotype t.checkpoint.config i (coordinate t.checkpoint i)
        (coordinate next i) := by
    intro i hi
    have := htouched i
    unfold Touched at this
    rwa [if_pos hi] at this
  refine ⟨⟨next, rfl⟩, hstep, fun i hi => ?_, fun i hi => ?_, fun id hid hkind htype => ?_,
    fun id hid hkind htype => ?_⟩
  · obtain ⟨-, w, g, hage, -⟩ := htrainable i hi
    exact hage
  · have := htouched i
    unfold Touched at this
    rwa [if_neg (by rw [hi]; exact Bool.false_ne_true)] at this
  · obtain ⟨hlt, w, g, -, -, hweight⟩ := htrainable id hid
    dsimp only
    rw [hweight]
    exact (signGuard_signs t.phenotype id w hkind).1 htype
  · obtain ⟨hlt, w, g, -, -, hweight⟩ := htrainable id hid
    dsimp only
    rw [hweight]
    exact (signGuard_signs t.phenotype id w hkind).2 htype

/-! ### Runs -/

/-- A trainer that `new` or `from_checkpoint` returned. -/
def Started (t : CpuFoundationTrainer F P) : Prop :=
  (∃ phenotype source mask config, new blake3 phenotype source mask config = .ok t) ∨
    ∃ phenotype source checkpoint, fromCheckpoint blake3 phenotype source checkpoint = .ok t

/-- A failed call leaves the trainer as it was, and an accepted update does what it is to do. -/
def Kept (t : CpuFoundationTrainer F P) (c : TrainerCall F P) : Prop :=
  KeepsOnError (call blake3 c) t ∧
    ∀ gradients norm t', c = .applyGradients gradients → call blake3 c t = .ok norm t' →
      Updated t t'

/-- The checkpoint passes its check; the trainer restored from it answers every sequence of calls
as the original does, and is the original once the same execution is selected. -/
def Restorable (t : CpuFoundationTrainer F P) : Prop :=
  t.checkpoint.validateFor t.phenotype t.sourceFoundation.digest = .ok () ∧
    ∃ r, fromCheckpoint blake3 t.phenotype t.sourceFoundation t.checkpoint = .ok r ∧
      stateAfter (setReplayExecution t.replayExecution r) = t ∧
      ∀ calls, outputs (step blake3) (reply blake3) r calls
        = outputs (step blake3) (reply blake3) t calls

section Invariant

variable {blake3} [RoundedSigns F] {t : CpuFoundationTrainer F P}

omit [BEq P] in
theorem trainerValid_of_started (h : Started blake3 t) : TrainerValid blake3 t := by
  rcases h with ⟨phenotype, source, mask, config, h⟩ | ⟨phenotype, source, checkpoint, h⟩
  · exact trainerValid_new h
  · exact trainerValid_fromCheckpoint h

theorem TrainerValid.step (h : TrainerValid blake3 t) (c : TrainerCall F P) :
    TrainerValid blake3 (CpuFoundationTrainer.step blake3 t c) := by
  unfold CpuFoundationTrainer.step
  rw [call_eq]
  cases hc : CpuFoundationTrainer.outcome blake3 t c with
  | ok x => exact h.outcome hc
  | error e => exact h

theorem TrainerValid.kept (h : TrainerValid blake3 t) (c : TrainerCall F P) : Kept blake3 t c := by
  refine ⟨fun e t' hc => ?_, fun gradients norm t' hgradients hc => ?_⟩
  · rw [call_eq] at hc
    cases hout : CpuFoundationTrainer.outcome blake3 t c with
    | ok x =>
      rw [hout] at hc
      cases hc
    | error e' =>
      rw [hout] at hc
      cases hc
      rfl
  · subst hgradients
    rw [call_eq] at hc
    cases hout : CpuFoundationTrainer.outcome blake3 t (.applyGradients gradients) with
    | error e =>
      rw [hout] at hc
      cases hc
    | ok x =>
      rw [hout] at hc
      cases hc
      obtain ⟨⟨norm, next⟩, hnext, hpair⟩ := contract_bind_eq_ok_iff.1 hout
      obtain rfl := Except.ok.inj hpair
      exact updated_of_nextCheckpoint blake3 h hnext

omit [RoundedSigns F] in
theorem TrainerValid.restorable (h : TrainerValid blake3 t) : Restorable blake3 t := by
  refine ⟨validateFor_eq_ok_iff.2 h.checkpoint, _, h.fromCheckpoint_eq, ?_,
    outputs_withGraph blake3 t _⟩
  obtain ⟨phenotype, source, checkpoint, graph⟩ := t
  obtain ⟨enabled, hgraph⟩ := h.graph
  dsimp only at hgraph
  subst hgraph
  -- the rows are those of the execution in use
  cases enabled <;> rfl

/-- **Every run of the trainer** can be restored from its checkpoint, after every call. -/
theorem restorable_along (hstart : Started blake3 t) (calls : List (TrainerCall F P)) :
    Along (CpuFoundationTrainer.step blake3)
        (fun t c => Kept blake3 t c ∧ Restorable blake3 t) t calls ∧
      Restorable blake3 (calls.foldl (CpuFoundationTrainer.step blake3) t) := by
  have hvalid := trainerValid_of_started hstart
  have hall : Along (CpuFoundationTrainer.step blake3) (fun _ _ => True) t calls :=
    along_iff_forall_split.2 fun _ _ _ _ => trivial
  refine ⟨Along.of_invariant (fun t c h _ => ⟨h.step c, h.kept c, h.restorable⟩) hvalid hall, ?_⟩
  have hlast : TrainerValid blake3 (calls.foldl (CpuFoundationTrainer.step blake3) t) :=
    foldl_of_invariant (fun t c (h : TrainerValid blake3 t) _ => h.step c) hvalid hall
  exact hlast.restorable

end Invariant

/-! ### A trained motor proposal -/

/-- A phenotype of one decoder synapse, which a motor proposal carries, between two neurons. -/
def samplePhenotype : TrainerPhenotype ℚ Unit where
  foundation :=
    { brainClassId := .n2048
      sensorProfile := .groundedObjectSlotsV1
      foundationAbi := .canonicalV2
        { layoutDigest := .default
          foundationId := some .n2048V1
          foundationVersion := some .v1
          compatibilityFamilyId := some .n2048Foundation
          weightAsset := some ⟨⟨Vector.replicate 32 1⟩, 1⟩ }
      languageCodebookDigest := .default
      actionDecoderDigest := ⟨0, 0, 0, 0⟩
      speechDecoderDigest := none
      memoryDecoderDigest := none
      routeAbiDigest := .default
      plasticityAbiDigest := .default
      addressMapDigest := .default }
  graph :=
    { phenotypeHash := ⟨1, 2, 3, 4⟩
      neuronCount := 2
      microstepCount := 1
      microstepCount_pos := by decide
      routeCount := 1
      projections := fun _ => ⟨.hot60Hz, 0⟩
      synapseCount := 1
      synapses := fun _ =>
        ⟨⟨0, Nat.zero_lt_two⟩, ⟨1, Nat.one_lt_two⟩, ⟨0, Nat.one_pos⟩,
          .decoder ⟨.actionCandidate, .idle, 0, 0⟩⟩
      neuronDynamics := fun _ => ⟨0, 1, .identity, 0, 0, 0⟩
      candidateDecoder := ⟨0, none, [⟨.idle, 0⟩]⟩
      inputLane_lt := fun _ c h _ => by cases h; decide
      speech_coordinate := fun _ c h hhead => by cases h; cases hhead }
  projectionType := fun _ => .motorProposal
  geneticWeight := fun _ => 1 / 10
  alpha := fun _ => 1
  receptorIndex := fun _ => 0
  geneticWeight_finite := fun _ => rfl
  plan := ()

/-- A hash with one value. -/
def constantHash (_ : List UInt8) : Blake3Digest := ⟨Vector.replicate 32 1⟩

def sampleStage : TrainingStageManifest := newTrainingStage constantHash 0 0 0

def sampleSource : FounderAsset ℚ where
  manifest :=
    { schemaVersion := 1
      foundationId := .n2048V1
      foundationVersion := .v1
      compatibilityFamilyId := .n2048Foundation
      capacityClassId := .n2048
      sensorProfile := .groundedObjectSlotsV1
      layoutDigest := .default
      languageCodebookDigest := .default
      actionDecoderDigest := ⟨0, 0, 0, 0⟩
      speechDecoderDigest := none
      memoryDecoderDigest := none
      routeAbiDigest := .default
      plasticityAbiDigest := .default
      addressMapDigest := .default
      trainingStage := sampleStage
      promotionReceipt := bootstrapReceipt constantHash sampleStage
      weightAsset := ⟨⟨Vector.replicate 32 1⟩, 1⟩ }
  weights := [1 / 10]
  digest := ⟨Vector.replicate 32 1⟩

def sampleConfig : AdamWConfig ℚ := ⟨1, 1 / 2, 1 / 2, 1 / 100, 0, 10⟩

def sampleTrainer : CpuFoundationTrainer ℚ Unit :=
  fresh samplePhenotype sampleSource ⟨[1]⟩ sampleConfig

theorem started_sample : Started constantHash sampleTrainer :=
  Or.inl ⟨samplePhenotype, sampleSource, ⟨[1]⟩, sampleConfig, new_eq_ok_iff.2
    ⟨by decide +kernel, by decide +kernel, by decide +kernel, fun _ => rfl, rfl⟩⟩

/-- The first update of the sample. -/
def sampleCall : TrainerCall ℚ Unit := .applyGradients [1]

/-- Inhibitory synapses both ways between the two neurons, on routes of their own, and a decoder
synapse. -/
def trioSynapses : Fin 3 → CpuReplay.CompiledSynapse 2 2 :=
  ![⟨⟨0, Nat.zero_lt_two⟩, ⟨1, Nat.one_lt_two⟩, ⟨0, Nat.zero_lt_two⟩, .recurrent⟩,
    ⟨⟨1, Nat.one_lt_two⟩, ⟨0, Nat.zero_lt_two⟩, ⟨1, Nat.one_lt_two⟩, .recurrent⟩,
    ⟨⟨1, Nat.one_lt_two⟩, ⟨1, Nat.one_lt_two⟩, ⟨0, Nat.zero_lt_two⟩,
      .decoder ⟨.actionCandidate, .idle, 0, 0⟩⟩]

theorem trioSynapses_decoder {id : Fin 3} {c : DecoderSynapseCoordinate}
    (h : (trioSynapses id).kind = .decoder c) : c = ⟨.actionCandidate, .idle, 0, 0⟩ := by
  fin_cases id
  · exact absurd h CompiledSynapseKind.noConfusion
  · exact absurd h CompiledSynapseKind.noConfusion
  · exact (CompiledSynapseKind.decoder.inj h).symm

/-- The second route fires in every other microstep. -/
def trioPhenotype : TrainerPhenotype ℚ Unit where
  foundation :=
    { samplePhenotype.foundation with
      foundationAbi := .canonicalV2
        { layoutDigest := .default
          foundationId := some .n2048V1
          foundationVersion := some .v1
          compatibilityFamilyId := some .n2048Foundation
          weightAsset := some ⟨⟨Vector.replicate 32 1⟩, 3⟩ } }
  graph :=
    { phenotypeHash := ⟨1, 2, 3, 4⟩
      neuronCount := 2
      microstepCount := 2
      microstepCount_pos := Nat.two_pos
      routeCount := 2
      projections := fun r => ⟨if r.val = 0 then .hot60Hz else .hot15To60Hz, 0⟩
      synapseCount := 3
      synapses := trioSynapses
      neuronDynamics := fun _ => ⟨0, 1, .identity, 0, 0, 0⟩
      candidateDecoder := ⟨0, none, [⟨.idle, 0⟩]⟩
      inputLane_lt := fun _ c h _ => by
        rw [trioSynapses_decoder h]
        decide
      speech_coordinate := fun _ c h hhead => by
        rw [trioSynapses_decoder h] at hhead
        cases hhead }
  projectionType := fun _ => .lateralInhibition
  geneticWeight := fun _ => -(1 / 10)
  alpha := fun _ => 1
  receptorIndex := fun _ => 0
  geneticWeight_finite := fun _ => rfl
  plan := ()

def trioSource : FounderAsset ℚ where
  manifest := { sampleSource.manifest with weightAsset := ⟨⟨Vector.replicate 32 1⟩, 3⟩ }
  weights := [-(1 / 10), -(1 / 10), -(1 / 10)]
  digest := ⟨Vector.replicate 32 1⟩

/-- All synapses are trainable. -/
def trioTrainer : CpuFoundationTrainer ℚ Unit :=
  fresh trioPhenotype trioSource ⟨[1, 1, 1]⟩ sampleConfig

theorem started_trio : Started constantHash trioTrainer :=
  Or.inl ⟨trioPhenotype, trioSource, ⟨[1, 1, 1]⟩, sampleConfig, new_eq_ok_iff.2
    ⟨by decide +kernel, by decide +kernel, by decide +kernel, fun _ => rfl, rfl⟩⟩

/-- The second synapse is frozen and thawed between updates, the first checkpoint restored, and
the trainer bound to the next cohort. -/
def trioCalls : List (TrainerCall ℚ Unit) :=
  [.applyGradients [1, 1, 1], .setStageMask ⟨[1, 0, 1]⟩, .applyGradients [-1, 0, 1],
    .setStageMask ⟨[1, 1, 1]⟩, .restoreCheckpoint trioTrainer.checkpoint,
    .rebindForNextCohort trioPhenotype trioSource, .setReplayExecution .cadenceCsr,
    .applyGradients [1, 1, 1]]

/-- A run whose calls are all accepted, restorable throughout. -/
theorem restorable_along_sample :
    Along (CpuFoundationTrainer.step constantHash)
        (fun t c => (resultOf (call constantHash c t)).isOk = true) trioTrainer trioCalls ∧
      Along (CpuFoundationTrainer.step constantHash)
        (fun t c => Kept constantHash t c ∧ Restorable constantHash t) trioTrainer trioCalls ∧
      Restorable constantHash
        (trioCalls.foldl (CpuFoundationTrainer.step constantHash) trioTrainer) := by
  have haccepted : Along (CpuFoundationTrainer.step constantHash)
      (fun t c => (resultOf (call constantHash c t)).isOk = true) trioTrainer trioCalls := by
    decide +kernel
  exact ⟨haccepted, restorable_along started_trio trioCalls⟩

/-- **A trainable decoder weight of a motor proposal goes below zero**: the guard is for recurrent
synapses. -/
theorem decoder_weight_negative :
    Started constantHash sampleTrainer ∧
      ∃ norm t', call constantHash sampleCall sampleTrainer = .ok norm t' ∧
        sampleTrainer.checkpoint.stageMask.isTrainable 0 = true ∧
        (∀ id, samplePhenotype.projectionType (samplePhenotype.graph.synapses id).routeIndex
          = .motorProposal) ∧
        FloatOps.lt (coordinate t'.checkpoint 0).weight 0 = true := by
  refine ⟨started_sample, ?_⟩
  obtain ⟨⟨norm, next⟩, hnext, hweights⟩ : ∃ x,
      nextCheckpoint samplePhenotype sampleTrainer.checkpoint [1] = .ok x ∧
        x.2.weights = [1 / 10 - 100 / 101] := by
    have hmap : (nextCheckpoint samplePhenotype sampleTrainer.checkpoint [1]).map
        (fun x => x.2.weights) = .ok [1 / 10 - 100 / 101] := by decide +kernel
    exact exists_of_map_eq_ok hmap
  refine ⟨some norm, { sampleTrainer with checkpoint := next }, ?_, rfl, fun _ => rfl, ?_⟩
  · have hout : outcome constantHash sampleTrainer sampleCall
        = .ok (some norm, { sampleTrainer with checkpoint := next }) :=
      contract_bind_eq_ok_iff.2 ⟨_, hnext, rfl⟩
    rw [call_eq, hout]
  · unfold coordinate
    dsimp only at hweights ⊢
    rw [hweights]
    decide +kernel

end Training

end ALife
