/-
# Training on a cohort

The value head of `crates/alife_training/src/cpu/objective.rs` and
`train_cpu_residual_cohort` of `cohort.rs`: epochs of batches, each with the mean
divergence of its windows.  The first divergence above the target ends the
training; before that every batch is one update of the actor and of the critic.

How a window is loaded and what its gradients are is given (`WindowLearning`),
and so is the arithmetic of `f32`; its order and its finite values are those of
the floats.
-/

import ALife.Machine.FloatOps
import ALife.Machine.StoppingLoop
import ALife.Training.CohortWindows
import ALife.Training.RoundContracts
import ALife.Training.TrainerRuns

namespace ALife

open Machine

namespace Training

section ValueHead

variable {F : Type} [FloatOps F]

structure PpoValueHeadCheckpoint (F : Type) where
  featureCount : UInt32
  optimizerStep : UInt32
  /-- The coefficients with the bias, their first and their second moments. -/
  parameters : List F
  lastUpdatedPolicyVersion : Option UInt64
  deriving DecidableEq, Repr

/-- `CpuValueHead`. -/
structure CpuValueHead (F : Type) where
  checkpoint : PpoValueHeadCheckpoint F
  deriving DecidableEq, Repr

namespace CpuValueHead

def width (v : CpuValueHead F) : ℕ := v.checkpoint.featureCount.toNat + 1

/-- `CpuValueHead::from_checkpoint`. -/
def fromCheckpoint (checkpoint : PpoValueHeadCheckpoint F) : Contract (CpuValueHead F) := do
  let width := checkpoint.featureCount.toNat + 1
  reject (checkpoint.featureCount = 0 ∨ checkpoint.parameters.length ≠ width * 3
    ∨ (checkpoint.parameters.drop (2 * width)).any (FloatOps.lt · 0) = true)
    .invalidDecisionEvidence
  CpuFoundationTrainer.finite checkpoint.parameters
  pure ⟨checkpoint⟩

/-- `predict`. -/
def predict (v : CpuValueHead F) (features : List F) : Contract F := do
  let n := v.checkpoint.featureCount.toNat
  reject (features.length ≠ n) .invalidDecisionEvidence
  CpuFoundationTrainer.finite features
  let value := ((v.checkpoint.parameters.take n).zip features).foldl
    (fun sum row => sum + row.1 * row.2) (v.checkpoint.parameters.getD n 0)
  CpuFoundationTrainer.finite [value]
  pure value

/-- One coordinate of the loop of `proposal`. -/
def proposeCoordinate (v : CpuValueHead F) (config : AdamWConfig F) (scale : F) (age : UInt32)
    (parameters : List F) (row : F × ℕ) : Contract (List F) := do
  let i := row.2
  let old := v.checkpoint.parameters
  let (w, m, second) ← CpuFoundationTrainer.adamCoordinate (old.getD i 0)
    (old.getD (v.width + i) 0) (old.getD (2 * v.width + i) 0) (row.1 * scale) age config
  pure (((parameters.set i w).set (v.width + i) m).set (2 * v.width + i) second)

/-- `proposal`. -/
def proposal (v : CpuValueHead F) (gradients : List F) (config : AdamWConfig F) (policy : UInt64) :
    Contract (CpuValueHead F) := do
  config.validate
  CpuFoundationTrainer.finite gradients
  reject (gradients.length ≠ v.width) .invalidDecisionEvidence
  let age ← getOr (checkedAdd32 v.checkpoint.optimizerStep 1) .invalidDecisionEvidence
  let norm := FloatOps.sqrt (FloatOps.sum (gradients.map fun g => g * g))
  reject (FloatOps.isFinite norm = false) .invalidDecisionEvidence
  let ratio := config.gradientClip / FloatOps.max norm (literal 1 1000000000000)
  let scale := if FloatOps.lt ratio 1 then ratio else 1
  let parameters ← gradients.zipIdx.foldlM (v.proposeCoordinate config scale age)
    v.checkpoint.parameters
  pure ⟨{ v.checkpoint with
    parameters, optimizerStep := age, lastUpdatedPolicyVersion := some policy }⟩

/-- One row of the loop of `residual_gradients`. -/
def residualRow (v : CpuValueHead F) (features : List (List F)) (values : List F)
    (rowCount : ℕ) (coefficient : F) (sums : F × List F) (r : CriticResidualRow F) :
    Contract (F × List F) := do
  let current := r.current.toNat
  let next := r.next.toNat
  reject (features.length ≤ current ∨ features.length ≤ next
    ∨ FloatOps.isFinite r.reward = false ∨ FloatOps.isFinite r.discount = false
    ∨ (FloatOps.le 0 r.discount && FloatOps.le r.discount 1) = false) .invalidDecisionEvidence
  let residual := values.getD current 0 - r.reward - r.discount * values.getD next 0
  let rows := literal rowCount 1
  let delta (i : ℕ) : F :=
    if i + 1 = v.width then 1 - r.discount
    else (features.getD current []).getD i 0 - r.discount * (features.getD next []).getD i 0
  pure (sums.1 + literal 1 2 * residual * residual / rows,
    sums.2.zipIdx.map fun g => g.1 + coefficient * residual * delta g.2 / rows)

/-- `residual_gradients`. -/
def residualGradients (v : CpuValueHead F) (features : List (List F))
    (rows : List (CriticResidualRow F)) (coefficient : F) : Contract (F × List F) := do
  reject (rows = [] ∨ FloatOps.isFinite coefficient = false ∨ FloatOps.le coefficient 0 = true)
    .invalidDecisionEvidence
  let values ← features.mapM v.predict
  let (loss, gradients) ← rows.foldlM
    (v.residualRow features values rows.length coefficient) (0, List.replicate v.width 0)
  CpuFoundationTrainer.finite [loss]
  CpuFoundationTrainer.finite gradients
  pure (loss, gradients)

/-- A proposal is one step of the optimizer. -/
theorem optimizerStep_of_proposal {v v' : CpuValueHead F} {gradients : List F}
    {config : AdamWConfig F} {policy : UInt64}
    (h : v.proposal gradients config policy = .ok v') :
    v'.checkpoint.optimizerStep.toNat = v.checkpoint.optimizerStep.toNat + 1 := by
  obtain ⟨-, h⟩ := contract_check_eq_ok_iff.1 h
  obtain ⟨-, h⟩ := contract_check_eq_ok_iff.1 h
  obtain ⟨-, h⟩ := contract_check_eq_ok_iff.1 h
  obtain ⟨age, hage, h⟩ := contract_bind_eq_ok_iff.1 h
  obtain ⟨-, h⟩ := contract_check_eq_ok_iff.1 h
  obtain ⟨parameters, -, h⟩ := contract_bind_eq_ok_iff.1 h
  obtain rfl := Except.ok.inj h
  exact checkedAdd32_eq_some_iff.1 (getOr_eq_ok_iff.1 hage)

/-- What `from_checkpoint` accepts. -/
structure Valid (v : CpuValueHead F) : Prop where
  featureCount : v.checkpoint.featureCount ≠ 0
  length : v.checkpoint.parameters.length = v.width * 3
  finite : ∀ x ∈ v.checkpoint.parameters, FloatOps.isFinite x = true
  second : ∀ i < v.width, FloatOps.lt (v.checkpoint.parameters.getD (2 * v.width + i) 0) 0 = false

theorem second_iff {n : ℕ} {parameters : List F} (hlength : parameters.length = n * 3) :
    (parameters.drop (2 * n)).any (FloatOps.lt · 0) = false ↔
      ∀ i < n, FloatOps.lt (parameters.getD (2 * n + i) 0) 0 = false := by
  have hdrop : (parameters.drop (2 * n)).length = n := by
    rw [List.length_drop]
    omega
  rw [List.any_eq_false]
  simp only [Bool.not_eq_true]
  rw [forall_mem_iff_getD 0 hdrop]
  refine forall₂_congr fun i _ => ?_
  rw [List.getD_eq_getElem?_getD, List.getElem?_drop, ← List.getD_eq_getElem?_getD]

theorem fromCheckpoint_eq_ok_iff {checkpoint : PpoValueHeadCheckpoint F} {v : CpuValueHead F} :
    fromCheckpoint checkpoint = .ok v ↔ v = ⟨checkpoint⟩ ∧ v.Valid := by
  constructor
  · intro h
    obtain ⟨hcounts, h⟩ := contract_check_eq_ok_iff.1 h
    obtain ⟨hfinite, h⟩ := contract_check_eq_ok_iff.1 h
    obtain rfl := Except.ok.inj h
    rw [reject_eq_ok_iff] at hcounts
    rw [CpuFoundationTrainer.finite, reject_eq_ok_iff] at hfinite
    push Not at hcounts hfinite
    obtain ⟨hcount, hlength, hsecond⟩ := hcounts
    exact ⟨rfl, hcount, hlength, hfinite, (second_iff hlength).1 (Bool.eq_false_iff.2 hsecond)⟩
  · rintro ⟨rfl, h⟩
    refine contract_check_eq_ok_iff.2 ⟨reject_eq_ok_iff.2 ?_, contract_check_eq_ok_iff.2 ⟨?_, rfl⟩⟩
    · push Not
      exact ⟨h.featureCount, h.length, Bool.eq_false_iff.1 ((second_iff h.length).2 h.second)⟩
    · rw [CpuFoundationTrainer.finite, reject_eq_ok_iff]
      push Not
      exact h.finite

/-- The parameters of a valid head of a width. -/
structure ValidParameters (width : ℕ) (parameters : List F) : Prop where
  length : parameters.length = width * 3
  finite : ∀ x ∈ parameters, FloatOps.isFinite x = true
  second : ∀ i < width, FloatOps.lt (parameters.getD (2 * width + i) 0) 0 = false

section Updates

variable [RoundedSigns F] {v v' : CpuValueHead F} {config : AdamWConfig F}

/-- One coordinate of a proposal keeps the parameters valid. -/
theorem proposeCoordinate_valid (hv : v.Valid) (hconfig : config.validate = .ok ()) {scale : F}
    {age : UInt32} {parameters next : List F} {row : F × ℕ} (hrow : row.2 < v.width)
    (hparameters : ValidParameters v.width parameters)
    (h : v.proposeCoordinate config scale age parameters row = .ok next) :
    ValidParameters v.width next := by
  obtain ⟨⟨w, m, second⟩, hadam, h⟩ := contract_bind_eq_ok_iff.1 h
  obtain rfl := Except.ok.inj h
  obtain ⟨hw, hm, hsecond, hnonneg⟩ := adamCoordinate_spec hconfig (hv.second _ hrow) hadam
  have hlength := hparameters.length
  refine ⟨by simpa using hlength, fun x hx => ?_, fun i hi => ?_⟩
  · rcases List.mem_or_eq_of_mem_set hx with hx | rfl
    · rcases List.mem_or_eq_of_mem_set hx with hx | rfl
      · rcases List.mem_or_eq_of_mem_set hx with hx | rfl
        · exact hparameters.finite x hx
        · exact hw
      · exact hm
    · exact hsecond
  · have hset : ∀ {l : List F} {j : ℕ} (a : F), l.length = v.width * 3 → j < v.width * 3 →
        (l.set j a).getD (2 * v.width + i) 0
          = if 2 * v.width + i = j then a else l.getD (2 * v.width + i) 0 :=
      fun a hl hj => getD_set (by omega) a 0 _
    rw [hset second (by simpa using hlength) (by omega)]
    split_ifs with heq
    · exact hnonneg
    · rw [hset m (by simpa using hlength) (by omega), if_neg (by omega),
        hset w hlength (by omega), if_neg (by omega)]
      exact hparameters.second i hi

/-- **A proposal of a valid head is a valid head.** -/
theorem Valid.proposal (hv : v.Valid) {gradients : List F} {policy : UInt64}
    (h : v.proposal gradients config policy = .ok v') : v'.Valid := by
  obtain ⟨hconfig, h⟩ := contract_check_eq_ok_iff.1 h
  obtain ⟨-, h⟩ := contract_check_eq_ok_iff.1 h
  obtain ⟨hlength, h⟩ := contract_check_eq_ok_iff.1 h
  obtain ⟨age, -, h⟩ := contract_bind_eq_ok_iff.1 h
  obtain ⟨-, h⟩ := contract_check_eq_ok_iff.1 h
  obtain ⟨parameters, hparameters, h⟩ := contract_bind_eq_ok_iff.1 h
  obtain rfl := Except.ok.inj h
  rw [reject_eq_ok_iff, not_not] at hlength
  have hfold : ∀ (scale : F) (rows : List (F × ℕ)) (before : List F),
      (∀ row ∈ rows, row.2 < v.width) → ValidParameters v.width before →
      rows.foldlM (v.proposeCoordinate config scale age) before = .ok parameters →
      ValidParameters v.width parameters := by
    intro scale rows
    induction rows with
    | nil => exact fun before _ hbefore h => Except.ok.inj h ▸ hbefore
    | cons row rows ih =>
      intro before hrows hbefore h
      rw [List.foldlM_cons] at h
      obtain ⟨middle, hmiddle, h⟩ := contract_bind_eq_ok_iff.1 h
      exact ih middle (fun r hr => hrows r (List.mem_cons_of_mem row hr))
        (proposeCoordinate_valid hv hconfig (hrows row List.mem_cons_self) hbefore hmiddle) h
  obtain ⟨hnextLength, hfinite, hsecond⟩ := hfold _ _ _
    (fun row hrow => hlength ▸ (List.mem_zipIdx' hrow).1) ⟨hv.length, hv.finite, hv.second⟩
    hparameters
  exact ⟨hv.featureCount, hnextLength, hfinite, hsecond⟩

/-- What a proposal is made of. -/
structure Proposed (F : Type) where
  gradients : List F
  config : AdamWConfig F
  policy : UInt64

/-- The head and the number of its updates after a proposal: one that fails changes nothing. -/
def afterProposal (state : CpuValueHead F × ℕ) (c : Proposed F) : CpuValueHead F × ℕ :=
  match state.1.proposal c.gradients c.config c.policy with
  | .ok next => (next, state.2 + 1)
  | .error _ => state

/-- **A head that was restored can be restored again** after any proposals, those that fail
included, and its optimizer has taken one step for each that did not. -/
theorem restorable_after {checkpoint : PpoValueHeadCheckpoint F}
    (h : fromCheckpoint checkpoint = .ok v) (calls : List (Proposed F)) :
    fromCheckpoint (calls.foldl afterProposal (v, 0)).1.checkpoint
        = .ok (calls.foldl afterProposal (v, 0)).1
      ∧ (calls.foldl afterProposal (v, 0)).1.checkpoint.optimizerStep.toNat
        = checkpoint.optimizerStep.toNat + (calls.foldl afterProposal (v, 0)).2 := by
  obtain ⟨rfl, hvalid⟩ := fromCheckpoint_eq_ok_iff.1 h
  have hrun : ∀ (calls : List (Proposed F)) (state : CpuValueHead F × ℕ), state.1.Valid →
      (calls.foldl afterProposal state).1.Valid
        ∧ (calls.foldl afterProposal state).1.checkpoint.optimizerStep.toNat + state.2
          = state.1.checkpoint.optimizerStep.toNat + (calls.foldl afterProposal state).2 := by
    intro calls
    induction calls with
    | nil => exact fun state hstate => ⟨hstate, rfl⟩
    | cons c calls ih =>
      intro state hstate
      rw [List.foldl_cons]
      cases hc : state.1.proposal c.gradients c.config c.policy with
      | error e =>
        have hsame : afterProposal state c = state := by rw [afterProposal, hc]
        rw [hsame]
        exact ih state hstate
      | ok next =>
        have hnext : afterProposal state c = (next, state.2 + 1) := by rw [afterProposal, hc]
        have hstep := optimizerStep_of_proposal hc
        obtain ⟨hend, hcount⟩ := ih (next, state.2 + 1) (hstate.proposal hc)
        dsimp only at hcount
        rw [hnext]
        exact ⟨hend, by omega⟩
  obtain ⟨hend, hcount⟩ := hrun calls (⟨checkpoint⟩, 0) hvalid
  exact ⟨fromCheckpoint_eq_ok_iff.2 ⟨rfl, hend⟩, hcount⟩

end Updates

/-- A head of one feature, before its first update. -/
def zeroHead : CpuValueHead ℚ := ⟨⟨1, 0, [0, 0, 0, 0, 0, 0], none⟩⟩

/-- A proposal that is accepted, and one without gradients, which is not. -/
def zeroHeadCalls : List (Proposed ℚ) :=
  [⟨[1, 1], ⟨1, 1 / 2, 1 / 2, 1, 0, 1⟩, 3⟩, ⟨[], ⟨1, 1 / 2, 1 / 2, 1, 0, 1⟩, 4⟩]

theorem restorable_after_zeroHead :
    fromCheckpoint (zeroHeadCalls.foldl afterProposal (zeroHead, 0)).1.checkpoint
        = .ok (zeroHeadCalls.foldl afterProposal (zeroHead, 0)).1
      ∧ (zeroHeadCalls.foldl afterProposal (zeroHead, 0)).1.checkpoint.optimizerStep.toNat
        = zeroHead.checkpoint.optimizerStep.toNat
          + (zeroHeadCalls.foldl afterProposal (zeroHead, 0)).2 :=
  restorable_after (fromCheckpoint_eq_ok_iff.2
    ⟨rfl, by decide, by decide, by decide, by decide +kernel⟩) _

end CpuValueHead

end ValueHead

/-! ## Epochs of batches -/

section Cohort

variable [F32Arithmetic] {P Window S : Type}

/-- How a window is loaded, checked and evaluated. -/
structure WindowLearning [F32Arithmetic] (P Window S : Type) where
  load : ℕ → S → Contract (Window × S)
  /-- `batch.len()` of a window. -/
  rows : Window → ℕ
  criticFeatures : Window → List (List F32)
  criticRows : Window → List (CriticResidualRow F32)
  /-- `validate_frozen_residual_window`. -/
  validateFrozen : CpuFoundationTrainer F32 P → CpuValueHead F32 → Window → PpoConfig F32 →
    UInt64 → Contract Unit
  /-- The gradients of the actor and the divergences of the objectives, by `evaluate_window`,
  `validate_residual_window` and `replay_gradients_from_tape`. -/
  evaluate : CpuFoundationTrainer F32 P → Window → PpoConfig F32 → UInt64 →
    Contract (List F32 × List F32)

/-- A training under way. -/
structure CohortRun [F32Arithmetic] (P S : Type) where
  trainer : CpuFoundationTrainer F32 P
  value : CpuValueHead F32
  loader : S
  receipt : PpoUpdateReceipt

/-- The sums of a batch. -/
structure BatchSums where
  gradient : List F32
  valueGradient : List F32
  kl : F32

/-- `*g += part * scale` over two lists. -/
def addScaled (scale : F32) (sums parts : List F32) : List F32 :=
  sums.zipIdx.map fun g => (parts[g.2]?).elim g.1 fun part => g.1 + part * scale

variable (W : WindowLearning P Window S)

/-- The checks of all windows before the first update, and their rows. -/
def validateWindows (trainer : CpuFoundationTrainer F32 P) (value : CpuValueHead F32)
    (config : PpoConfig F32) (version : UInt64) (windowCount : ℕ) (loader : S) :
    Contract (List ℕ × S) :=
  (List.range windowCount).foldlM (fun (counts, loader) i => do
    let (w, loader) ← W.load i loader
    W.validateFrozen trainer value w config version
    pure (counts ++ [W.rows w], loader)) ([], loader)

/-- One window of a batch. -/
def addWindow (run : CohortRun P S) (config : PpoConfig F32) (version : UInt64) (counts : List ℕ)
    (total : ℕ) (state : BatchSums × S) (i : ℕ) : Contract (BatchSums × S) := do
  let (w, loader) ← W.load i state.2
  let count := counts.getD i 0
  reject (W.rows w ≠ count) .invalidDecisionEvidence
  let (gradients, divergences) ← W.evaluate run.trainer w config version
  let scale : F32 := literal count 1 / literal total 1
  let (_, parts) ← run.value.residualGradients (W.criticFeatures w) (W.criticRows w)
    config.valueCoefficient
  let sums := state.1
  pure (⟨addScaled scale sums.gradient gradients, addScaled scale sums.valueGradient parts,
    divergences.foldl (fun kl d => kl + d / literal total 1) sums.kl⟩, loader)

/-- One batch: its divergence, and an update of both heads unless it is above the target. -/
def trainBatch (config : PpoConfig F32) (version : UInt64) (counts : List ℕ)
    (effectiveBatchSize : ℕ) (start : ℕ) (run : CohortRun P S) :
    Contract (CohortRun P S × Bool) := do
  let stop := min (start + effectiveBatchSize) counts.length
  let total := ((counts.take stop).drop start).sum
  let empty : BatchSums :=
    ⟨List.replicate run.trainer.checkpoint.weights.length 0, List.replicate run.value.width 0, 0⟩
  let (sums, loader) ← (List.range' start (stop - start)).foldlM
    (addWindow W run config version counts total) (empty, run.loader)
  CpuFoundationTrainer.finite sums.gradient
  CpuFoundationTrainer.finite sums.valueGradient
  CpuFoundationTrainer.finite [sums.kl]
  let receipt := { run.receipt with
    meanKlBeforeUpdates := run.receipt.meanKlBeforeUpdates ++ [sums.kl] }
  if FloatOps.lt config.targetKl sums.kl then
    pure ({ run with loader, receipt := { receipt with stoppedForKl := true } }, true)
  else do
    let value ← run.value.proposal sums.valueGradient config.valueOptimizer version
    let (_, checkpoint) ← CpuFoundationTrainer.nextCheckpoint run.trainer.phenotype
      run.trainer.checkpoint sums.gradient
    pure (⟨{ run.trainer with checkpoint }, value, loader, { receipt with
      actorOptimizerStep := checkpoint.optimizerStep
      valueOptimizerStep := value.checkpoint.optimizerStep }⟩, false)

/-- The end of an epoch. -/
def CohortRun.finishEpoch (run : CohortRun P S) : CohortRun P S :=
  { run with receipt := { run.receipt with
    completedEpochs := run.receipt.completedEpochs + 1 } }

/-- `train_cpu_residual_cohort`. -/
def trainCpuResidualCohort (trainer : CpuFoundationTrainer F32 P) (value : CpuValueHead F32)
    (windowCount effectiveBatchSize : ℕ) (loader : S) (config : PpoConfig F32) (version : UInt64) :
    Contract (CohortRun P S) := do
  config.validate
  reject (windowCount = 0 ∨ effectiveBatchSize = 0 ∨ FloatOps.le config.valueCoefficient 0 = true
    ∨ value.checkpoint.featureCount.toNat ≠ trainer.phenotype.graph.neuronCount
    ∨ value.checkpoint.lastUpdatedPolicyVersion.any (version ≤ ·) = true) .invalidDecisionEvidence
  let (counts, loader) ← validateWindows W trainer value config version windowCount loader
  let receipt : PpoUpdateReceipt :=
    { collectionPolicyVersion := version
      completedEpochs := 0
      stoppedForKl := false
      meanKlBeforeUpdates := []
      actorOptimizerStep := trainer.checkpoint.optimizerStep
      valueOptimizerStep := value.checkpoint.optimizerStep }
  let (run, _) ← passes (trainBatch W config version counts effectiveBatchSize)
    CohortRun.finishEpoch (stepBy windowCount effectiveBatchSize) config.epochs.toNat
    ⟨trainer, value, loader, receipt⟩
  pure run

end Cohort

end Training

end ALife
