/-
# Every run of the trainer

What the calls of `CpuFoundationTrainer` keep.  An update goes through the
coordinates one by one and touches each trainable one once
(`nextCheckpoint_spec`), so it keeps what `validate_for` asks of ages, steps and
moments (`CheckpointValid`); a rebinding keeps it because the two phenotypes have
their synapses and their projections in common.  A trainer that is restored from
its checkpoint differs from the original in its cadence rows alone, which no call
reads (`Same`).
-/

import ALife.Machine.Runs
import ALife.Training.FoundationTrainer
import Mathlib.Data.List.GetD

namespace ALife

open Machine

namespace Training

open CpuReplay (SparseGraph)

variable {F P : Type} [FloatOps F]

/-! ### Lists by their indices -/

theorem forall_mem_iff_getD {α : Type} {l : List α} {n : ℕ} {Q : α → Prop} (d : α)
    (h : l.length = n) : (∀ a ∈ l, Q a) ↔ ∀ i < n, Q (l.getD i d) := by
  subst h
  constructor
  · intro hall i hi
    rw [List.getD_eq_getElem _ _ hi]
    exact hall _ (List.getElem_mem hi)
  · intro hall a ha
    obtain ⟨i, hi, rfl⟩ := List.mem_iff_getElem.1 ha
    have := hall i hi
    rwa [List.getD_eq_getElem _ _ hi] at this

theorem getD_zip {α β : Type} {l : List α} {m : List β} (h : l.length = m.length) (i : ℕ) (a : α)
    (b : β) : (l.zip m).getD i (a, b) = (l.getD i a, m.getD i b) := by
  by_cases hi : i < l.length
  · have hm : i < m.length := h ▸ hi
    have hz : i < (l.zip m).length := by
      rw [List.length_zip]
      omega
    rw [List.getD_eq_getElem _ _ hi, List.getD_eq_getElem _ _ hm, List.getD_eq_getElem _ _ hz,
      List.getElem_zip]
  · have hm : m.length ≤ i := by omega
    have hz : (l.zip m).length ≤ i := by
      rw [List.length_zip]
      omega
    rw [List.getD_eq_default _ _ hz, List.getD_eq_default _ _ (by omega),
      List.getD_eq_default _ _ hm]

theorem getD_set {α : Type} {l : List α} {i : ℕ} (hi : i < l.length) (a d : α) (j : ℕ) :
    (l.set i a).getD j d = if j = i then a else l.getD j d := by
  rw [List.getD_eq_getElem?_getD, List.getElem?_set, List.getD_eq_getElem?_getD]
  by_cases h : j = i
  · subst h
    simp [hi]
  · rw [if_neg (fun h' => h h'.symm), if_neg h]

/-! ### What a valid checkpoint is -/

/-- What `validate_for` accepts, coordinate by coordinate. -/
structure CheckpointValid (c : FoundationTrainerCheckpoint F) (p : TrainerPhenotype F P)
    (digest : Blake3Digest) : Prop where
  config : c.config.validate = .ok ()
  mask : c.stageMask.validateFor p = .ok ()
  schemaVersion : c.schemaVersion = 2
  phenotypeHash : c.phenotypeHash = p.graph.phenotypeHash
  sourceDigest : c.sourceFoundationDigest = digest
  weights_length : c.weights.length = p.graph.synapseCount
  first_length : c.firstMoment.length = p.graph.synapseCount
  second_length : c.secondMoment.length = p.graph.synapseCount
  ages_length : c.updateAges.length = p.graph.synapseCount
  age_le : ∀ i < p.graph.synapseCount, c.updateAges.getD i 0 ≤ c.optimizerStep
  moments : ∀ i < p.graph.synapseCount, c.updateAges.getD i 0 = 0 →
    FloatOps.feq (c.firstMoment.getD i 0) 0 = true ∧ FloatOps.feq (c.secondMoment.getD i 0) 0 = true
  finite : ∀ i < p.graph.synapseCount, FloatOps.isFinite (c.weights.getD i 0) = true
    ∧ FloatOps.isFinite (c.firstMoment.getD i 0) = true
    ∧ FloatOps.isFinite (c.secondMoment.getD i 0) = true
  second_nonneg : ∀ i < p.graph.synapseCount, FloatOps.lt (c.secondMoment.getD i 0) 0 = false

theorem validateFor_eq_ok_iff {c : FoundationTrainerCheckpoint F} {p : TrainerPhenotype F P}
    {digest : Blake3Digest} : c.validateFor p digest = .ok () ↔ CheckpointValid c p digest := by
  unfold FoundationTrainerCheckpoint.validateFor
  rw [contract_seq_eq_ok_iff, contract_seq_eq_ok_iff, reject_eq_ok_iff]
  simp only [not_or, not_not, ne_eq]
  constructor
  · rintro ⟨hconfig, hmask, hschema, hhash, hdigest, hw, hm, hv, ha, hages, hzero, hfinite, hneg⟩
    push Not at hages hzero hfinite hneg
    have hzip : ((c.updateAges.zip c.firstMoment).zip c.secondMoment).length
        = p.graph.synapseCount := by
      rw [List.length_zip, List.length_zip, ha, hm, hv, min_self, min_self]
    refine ⟨hconfig, hmask, hschema, hhash, hdigest, hw, hm, hv, ha, fun i hi => ?_,
      fun i hi hage => ?_, fun i hi => ?_, fun i hi => ?_⟩
    · exact UInt32.not_lt.1 ((forall_mem_iff_getD 0 ha).1 hages i hi)
    · have hrow := (forall_mem_iff_getD ((0, 0), 0) hzip).1 hzero i hi
      rw [getD_zip (by rw [List.length_zip, ha, hm, hv, min_self]), getD_zip (ha.trans hm.symm)]
        at hrow
      simpa using hrow hage
    · refine ⟨(forall_mem_iff_getD 0 hw).1 (fun a h => hfinite a ?_) i hi,
        (forall_mem_iff_getD 0 hm).1 (fun a h => hfinite a ?_) i hi,
        (forall_mem_iff_getD 0 hv).1 (fun a h => hfinite a ?_) i hi⟩ <;> simp [h]
    · simpa using (forall_mem_iff_getD 0 hv).1 hneg i hi
  · intro h
    have hzip : ((c.updateAges.zip c.firstMoment).zip c.secondMoment).length
        = p.graph.synapseCount := by
      rw [List.length_zip, List.length_zip, h.ages_length, h.first_length, h.second_length,
        min_self, min_self]
    refine ⟨h.config, h.mask, h.schemaVersion, h.phenotypeHash, h.sourceDigest, h.weights_length,
      h.first_length, h.second_length, h.ages_length, ?_, ?_, ?_, ?_⟩ <;> push Not
    · exact (forall_mem_iff_getD 0 h.ages_length).2 fun i hi => UInt32.not_lt.2 (h.age_le i hi)
    · refine (forall_mem_iff_getD ((0, 0), 0) hzip).2 fun i hi => ?_
      rw [getD_zip (by
          rw [List.length_zip, h.ages_length, h.first_length, h.second_length, min_self]),
        getD_zip (h.ages_length.trans h.first_length.symm)]
      intro hage
      simpa using h.moments i hi hage
    · have hall : ∀ {l : List F}, l.length = p.graph.synapseCount →
          (∀ i < p.graph.synapseCount, FloatOps.isFinite (l.getD i 0) = true) →
          ∀ v ∈ l, FloatOps.isFinite v = true := fun hl hi => (forall_mem_iff_getD 0 hl).2 hi
      intro v hv
      rw [List.mem_append, List.mem_append] at hv
      rcases hv with (hv | hv) | hv
      · exact hall h.weights_length (fun i hi => (h.finite i hi).1) v hv
      · exact hall h.first_length (fun i hi => (h.finite i hi).2.1) v hv
      · exact hall h.second_length (fun i hi => (h.finite i hi).2.2) v hv
    · refine (forall_mem_iff_getD 0 h.second_length).2 fun i hi => ?_
      rw [h.second_nonneg i hi]
      exact Bool.false_ne_true

/-! ### One update -/

/-- The state of a coordinate: its weight, its moments and its age. -/
structure Coordinate (F : Type) where
  weight : F
  first : F
  second : F
  age : UInt32

def coordinate (c : FoundationTrainerCheckpoint F) (i : ℕ) : Coordinate F :=
  ⟨c.weights.getD i 0, c.firstMoment.getD i 0, c.secondMoment.getD i 0, c.updateAges.getD i 0⟩

/-- One Adam step of a coordinate, behind the sign guard of its synapse. -/
def Stepped (p : TrainerPhenotype F P) (config : AdamWConfig F) (i : ℕ)
    (x y : Coordinate F) : Prop :=
  ∃ (hi : i < p.graph.synapseCount) (w g : F), y.age.toNat = x.age.toNat + 1 ∧
    CpuFoundationTrainer.adamCoordinate x.weight x.first x.second g y.age config
      = .ok (w, y.first, y.second) ∧
    y.weight = CpuFoundationTrainer.signGuard p ⟨i, hi⟩ w

/-- A trainable coordinate is stepped, and another is as it was. -/
def Touched (p : TrainerPhenotype F P) (c : FoundationTrainerCheckpoint F) (i : ℕ)
    (x y : Coordinate F) : Prop :=
  if c.stageMask.isTrainable i = true then Stepped p c.config i x y else y = x

section Frame

omit [FloatOps F]

/-- The two checkpoints differ in their coordinates alone, and have as many. -/
structure SameFrame (c c' : FoundationTrainerCheckpoint F) : Prop where
  schemaVersion : c'.schemaVersion = c.schemaVersion
  phenotypeHash : c'.phenotypeHash = c.phenotypeHash
  sourceDigest : c'.sourceFoundationDigest = c.sourceFoundationDigest
  optimizerStep : c'.optimizerStep = c.optimizerStep
  config : c'.config = c.config
  stageMask : c'.stageMask = c.stageMask
  weights_length : c'.weights.length = c.weights.length
  first_length : c'.firstMoment.length = c.firstMoment.length
  second_length : c'.secondMoment.length = c.secondMoment.length
  ages_length : c'.updateAges.length = c.updateAges.length

theorem SameFrame.refl (c : FoundationTrainerCheckpoint F) : SameFrame c c :=
  ⟨rfl, rfl, rfl, rfl, rfl, rfl, rfl, rfl, rfl, rfl⟩

theorem SameFrame.trans {c c' c'' : FoundationTrainerCheckpoint F} (h : SameFrame c c')
    (h' : SameFrame c' c'') : SameFrame c c'' where
  schemaVersion := h'.schemaVersion.trans h.schemaVersion
  phenotypeHash := h'.phenotypeHash.trans h.phenotypeHash
  sourceDigest := h'.sourceDigest.trans h.sourceDigest
  optimizerStep := h'.optimizerStep.trans h.optimizerStep
  config := h'.config.trans h.config
  stageMask := h'.stageMask.trans h.stageMask
  weights_length := h'.weights_length.trans h.weights_length
  first_length := h'.first_length.trans h.first_length
  second_length := h'.second_length.trans h.second_length
  ages_length := h'.ages_length.trans h.ages_length

end Frame

/-- The list has an entry for each synapse in each of its four columns. -/
structure FullColumns (p : TrainerPhenotype F P) (c : FoundationTrainerCheckpoint F) : Prop where
  weights_length : c.weights.length = p.graph.synapseCount
  first_length : c.firstMoment.length = p.graph.synapseCount
  second_length : c.secondMoment.length = p.graph.synapseCount
  ages_length : c.updateAges.length = p.graph.synapseCount
  mask_length : c.stageMask.words.length = p.graph.synapseCount

theorem FullColumns.of_sameFrame {p : TrainerPhenotype F P} {c c' : FoundationTrainerCheckpoint F}
    (h : FullColumns p c) (hframe : SameFrame c c') : FullColumns p c' where
  weights_length := hframe.weights_length.trans h.weights_length
  first_length := hframe.first_length.trans h.first_length
  second_length := hframe.second_length.trans h.second_length
  ages_length := hframe.ages_length.trans h.ages_length
  mask_length := by rw [hframe.stageMask, h.mask_length]

theorem isTrainable_lt {m : StageTrainableMask} {i : ℕ} (h : m.isTrainable i = true) :
    i < m.words.length := by
  unfold StageTrainableMask.isTrainable at h
  by_contra hi
  rw [List.getElem?_eq_none (by omega)] at h
  cases h

/-- **What a round of the coordinate loop does**: it touches its own coordinate. -/
theorem updateCoordinate_spec {p : TrainerPhenotype F P} {scale : F}
    {c c' : FoundationTrainerCheckpoint F} (hfull : FullColumns p c) {g : F} {i : ℕ}
    (h : CpuFoundationTrainer.updateCoordinate p scale c (g, i) = .ok c') :
    SameFrame c c' ∧ Touched p c i (coordinate c i) (coordinate c' i) ∧
      ∀ j ≠ i, coordinate c' j = coordinate c j := by
  unfold CpuFoundationTrainer.updateCoordinate at h
  dsimp only at h
  unfold Touched
  split_ifs at h with hfrozen hi
  · obtain rfl := Except.ok.inj h
    refine ⟨SameFrame.refl c, ?_, fun _ _ => rfl⟩
    rw [if_neg (by rw [hfrozen]; exact Bool.false_ne_true)]
  · obtain ⟨age, hage, h⟩ := contract_bind_eq_ok_iff.1 h
    obtain ⟨⟨w, m, v⟩, hadam, h⟩ := contract_bind_eq_ok_iff.1 h
    obtain rfl := Except.ok.inj h
    have hnext := checkedAdd32_eq_some_iff.1 (getOr_eq_ok_iff.1 hage)
    refine ⟨⟨rfl, rfl, rfl, rfl, rfl, rfl, List.length_set, List.length_set, List.length_set,
      List.length_set⟩, ?_,
      fun j hj => ?_⟩
    · rw [if_pos (Bool.eq_true_of_not_eq_false hfrozen)]
      unfold coordinate
      rw [getD_set (hfull.weights_length ▸ hi), getD_set (hfull.first_length ▸ hi),
        getD_set (hfull.second_length ▸ hi), getD_set (hfull.ages_length ▸ hi)]
      simp only [if_pos]
      exact ⟨hi, w, g * scale, hnext, hadam, rfl⟩
    · unfold coordinate
      rw [getD_set (hfull.weights_length ▸ hi), getD_set (hfull.first_length ▸ hi),
        getD_set (hfull.second_length ▸ hi), getD_set (hfull.ages_length ▸ hi)]
      simp only [if_neg hj]
  · have htrainable := isTrainable_lt (Bool.eq_true_of_not_eq_false hfrozen)
    rw [hfull.mask_length] at htrainable
    exact absurd htrainable hi

/-- The loop touches the coordinates of its rows, each once. -/
theorem foldlM_updateCoordinate {p : TrainerPhenotype F P} {scale : F} {rows : List (F × ℕ)}
    {c c' : FoundationTrainerCheckpoint F} (hfull : FullColumns p c)
    (hnodup : (rows.map Prod.snd).Nodup)
    (h : rows.foldlM (CpuFoundationTrainer.updateCoordinate p scale) c = .ok c') :
    SameFrame c c' ∧
      (∀ i ∈ rows.map Prod.snd, Touched p c i (coordinate c i) (coordinate c' i)) ∧
      ∀ j ∉ rows.map Prod.snd, coordinate c' j = coordinate c j := by
  induction rows generalizing c with
  | nil =>
    obtain rfl := Except.ok.inj h
    exact ⟨SameFrame.refl c, fun i hi => absurd hi List.not_mem_nil, fun _ _ => rfl⟩
  | cons row rows ih =>
    obtain ⟨g, i⟩ := row
    rw [List.foldlM_cons] at h
    obtain ⟨middle, hfirst, hrest⟩ := contract_bind_eq_ok_iff.1 h
    rw [List.map_cons, List.nodup_cons] at hnodup
    obtain ⟨hframe, htouched, hothers⟩ := updateCoordinate_spec hfull hfirst
    obtain ⟨hframe', htouched', hothers'⟩ := ih (hfull.of_sameFrame hframe) hnodup.2 hrest
    refine ⟨hframe.trans hframe', fun j hj => ?_, fun j hj => ?_⟩
    · rcases List.mem_cons.1 hj with rfl | hj
      · -- the rows behind the first do not touch its coordinate
        rw [hothers' _ hnodup.1]
        exact htouched
      · have hne : j ≠ i := fun hji => hnodup.1 (hji ▸ hj)
        have hlater := htouched' j hj
        unfold Touched at hlater ⊢
        rwa [hframe.stageMask, hframe.config, hothers j hne] at hlater
    · rw [List.map_cons, List.mem_cons, not_or] at hj
      rw [hothers' j hj.2, hothers j hj.1]

/-- **What an update does.**  It raises the step by one and touches every coordinate. -/
theorem nextCheckpoint_spec {p : TrainerPhenotype F P} {c c' : FoundationTrainerCheckpoint F}
    {gradients : List F} {norm : F} (hfull : FullColumns p c)
    (h : CpuFoundationTrainer.nextCheckpoint p c gradients = .ok (norm, c')) :
    c'.optimizerStep.toNat = c.optimizerStep.toNat + 1 ∧
      SameFrame { c with optimizerStep := c'.optimizerStep } c' ∧
      ∀ i, Touched p c i (coordinate c i) (coordinate c' i) := by
  unfold CpuFoundationTrainer.nextCheckpoint at h
  obtain ⟨hlength, h⟩ := contract_check_eq_ok_iff.1 h
  obtain ⟨-, h⟩ := contract_check_eq_ok_iff.1 h
  obtain ⟨step, hstep, h⟩ := contract_bind_eq_ok_iff.1 h
  obtain ⟨-, h⟩ := contract_check_eq_ok_iff.1 h
  obtain ⟨next, hloop, h⟩ := contract_bind_eq_ok_iff.1 h
  obtain ⟨-, rfl⟩ := Prod.mk.inj (Except.ok.inj h)
  rw [reject_eq_ok_iff, not_not] at hlength
  have hindices : gradients.zipIdx.map Prod.snd = List.range gradients.length := by
    rw [List.zipIdx_map_snd, List.range_eq_range']
  have hfull' : FullColumns p { c with optimizerStep := step } :=
    ⟨hfull.weights_length, hfull.first_length, hfull.second_length, hfull.ages_length,
      hfull.mask_length⟩
  obtain ⟨hframe, htouched, hothers⟩ := foldlM_updateCoordinate hfull'
    (by rw [hindices]; exact List.nodup_range) hloop
  have hsame := hframe.optimizerStep
  dsimp only at hsame
  refine ⟨?_, ?_, fun i => ?_⟩
  · rw [hsame]
    exact checkedAdd32_eq_some_iff.1 (getOr_eq_ok_iff.1 hstep)
  · rwa [hsame]
  · by_cases hi : i ∈ gradients.zipIdx.map Prod.snd
    · exact htouched i hi
    · -- behind the last synapse nothing is trainable
      rw [hindices, List.mem_range] at hi
      unfold Touched
      rw [if_neg]
      · exact hothers i (by rw [hindices, List.mem_range]; exact hi)
      · intro htrainable
        have := isTrainable_lt htrainable
        rw [hfull.mask_length, ← hfull.weights_length, ← hlength] at this
        exact hi this

/-! ### Signs -/

/-- The second decay of an accepted configuration is between zero and one. -/
theorem beta2_of_validate {c : AdamWConfig F} (h : c.validate = .ok ()) :
    FloatOps.le 0 c.beta2 = true ∧ FloatOps.lt c.beta2 1 = true := by
  unfold AdamWConfig.validate at h
  dsimp only at h
  split_ifs at h with hall
  simp only [Bool.and_eq_true] at hall
  exact hall.1.1.1.2

section Signs

variable [RoundedSigns F]

/-- **An Adam step** is finite and keeps the second moment nonnegative. -/
theorem adamCoordinate_spec {c : AdamWConfig F} (hconfig : c.validate = .ok ())
    {w m v g w' m' v' : F} {age : UInt32} (hneg : FloatOps.lt v 0 = false)
    (h : CpuFoundationTrainer.adamCoordinate w m v g age c = .ok (w', m', v')) :
    FloatOps.isFinite w' = true ∧ FloatOps.isFinite m' = true ∧ FloatOps.isFinite v' = true ∧
      FloatOps.lt v' 0 = false := by
  unfold CpuFoundationTrainer.adamCoordinate at h
  obtain ⟨-, h⟩ := contract_check_eq_ok_iff.1 h
  dsimp only at h
  obtain ⟨hfinite, h⟩ := contract_check_eq_ok_iff.1 h
  unfold CpuFoundationTrainer.finite at hfinite
  rw [reject_eq_ok_iff] at hfinite
  push Not at hfinite
  obtain ⟨rfl, hpair⟩ := Prod.mk.inj (Except.ok.inj h)
  obtain ⟨rfl, rfl⟩ := Prod.mk.inj hpair
  obtain ⟨hlow, hhigh⟩ := beta2_of_validate hconfig
  refine ⟨hfinite _ List.mem_cons_self, hfinite _ (List.mem_cons_of_mem _ List.mem_cons_self),
    hfinite _ (List.mem_cons_of_mem _ (List.mem_cons_of_mem _ List.mem_cons_self)), ?_⟩
  -- the next second moment is a decayed one and a weighted square
  exact RoundedSigns.add_nonneg _ _
    (RoundedSigns.mul_nonneg _ _ (RoundedSigns.not_lt_of_le _ hlow) hneg)
    (RoundedSigns.mul_square _ _ (RoundedSigns.one_sub _ hhigh))

/-- A guarded weight is finite. -/
theorem isFinite_signGuard (p : TrainerPhenotype F P) (id : p.graph.Synapse) {w : F}
    (hw : FloatOps.isFinite w = true) :
    FloatOps.isFinite (CpuFoundationTrainer.signGuard p id w) = true := by
  unfold CpuFoundationTrainer.signGuard
  split
  · split_ifs
    · exact RoundedSigns.neg_tenThousandth_finite
    · exact hw
  · split_ifs
    · exact RoundedSigns.tenThousandth_finite
    · exact hw
  · split_ifs
    · exact RoundedSigns.tenThousandth_finite
    · exact hw
  · exact hw

/-- A guarded recurrent weight has the sign of its projection. -/
theorem signGuard_signs (p : TrainerPhenotype F P) (id : p.graph.Synapse) (w : F)
    (hkind : (p.graph.synapses id).kind = .recurrent) :
    (p.projectionType (p.graph.synapses id).routeIndex = .lateralInhibition →
      FloatOps.le 0 (CpuFoundationTrainer.signGuard p id w) = false) ∧
    (p.projectionType (p.graph.synapses id).routeIndex = .homeostatic ∨
      p.projectionType (p.graph.synapses id).routeIndex = .motorProposal →
      FloatOps.lt (CpuFoundationTrainer.signGuard p id w) 0 = false) := by
  unfold CpuFoundationTrainer.signGuard
  rw [hkind]
  refine ⟨fun htype => ?_, fun htype => ?_⟩
  · rw [htype]
    dsimp only
    split_ifs with h
    · exact RoundedSigns.neg_tenThousandth_neg
    · exact Bool.eq_false_iff.2 h
  · rcases htype with htype | htype <;> rw [htype] <;> dsimp only <;> split_ifs with h
    · exact RoundedSigns.tenThousandth_pos
    · exact Bool.eq_false_iff.2 h
    · exact RoundedSigns.tenThousandth_pos
    · exact Bool.eq_false_iff.2 h

end Signs

/-! ### What every call keeps -/

theorem CheckpointValid.full {c : FoundationTrainerCheckpoint F} {p : TrainerPhenotype F P}
    {digest : Blake3Digest} (h : CheckpointValid c p digest) : FullColumns p c := by
  have hmask := h.mask
  unfold StageTrainableMask.validateFor at hmask
  split_ifs at hmask with hwords
  exact ⟨h.weights_length, h.first_length, h.second_length, h.ages_length, hwords.1⟩

/-- The trainer could be restored from its checkpoint. -/
structure TrainerValid (blake3 : List UInt8 → Blake3Digest)
    (t : CpuFoundationTrainer F P) : Prop where
  checkpoint : CheckpointValid t.checkpoint t.phenotype t.sourceFoundation.digest
  source : t.sourceFoundation.validateAgainst blake3 t.phenotype.foundation
    t.phenotype.graph.synapseCount = .ok ()
  delays : ∀ route, (t.phenotype.graph.projections route).delayMicrosteps = 0
  graph : ∃ enabled, t.graph = (SparseGraph.new t.phenotype.graph).setCadenceRows enabled

section Keep

variable [RoundedSigns F]

/-- **An update keeps a checkpoint valid.** -/
theorem CheckpointValid.nextCheckpoint {c c' : FoundationTrainerCheckpoint F}
    {p : TrainerPhenotype F P} {digest : Blake3Digest} (h : CheckpointValid c p digest)
    {gradients : List F} {norm : F}
    (hnext : CpuFoundationTrainer.nextCheckpoint p c gradients = .ok (norm, c')) :
    CheckpointValid c' p digest := by
  obtain ⟨hstep, hframe, htouched⟩ := nextCheckpoint_spec h.full hnext
  have hlater : c.optimizerStep ≤ c'.optimizerStep := by
    rw [UInt32.le_iff_toNat_le, hstep]
    exact Nat.le_succ _
  -- what an old coordinate has, the touched one has
  have hcoordinate : ∀ i < p.graph.synapseCount,
      (coordinate c' i).age ≤ c'.optimizerStep ∧
      ((coordinate c' i).age = 0 → FloatOps.feq (coordinate c' i).first 0 = true ∧
        FloatOps.feq (coordinate c' i).second 0 = true) ∧
      FloatOps.isFinite (coordinate c' i).weight = true ∧
      FloatOps.isFinite (coordinate c' i).first = true ∧
      FloatOps.isFinite (coordinate c' i).second = true ∧
      FloatOps.lt (coordinate c' i).second 0 = false := by
    intro i hi
    obtain ⟨hweight, hfirst, hsecond⟩ := h.finite i hi
    have hchange := htouched i
    unfold Touched at hchange
    split_ifs at hchange with htrainable
    · obtain ⟨hi', w, g, hage, hadam, hguarded⟩ := hchange
      obtain ⟨hw, hm, hv, hneg⟩ := adamCoordinate_spec h.config (h.second_nonneg i hi) hadam
      refine ⟨?_, fun hzero => ?_, ?_, hm, hv, hneg⟩
      · have hold := UInt32.le_iff_toNat_le.1 (h.age_le i hi)
        rw [UInt32.le_iff_toNat_le, hage, hstep]
        exact Nat.succ_le_succ hold
      · rw [hzero] at hage
        cases hage
      · rw [hguarded]
        exact isFinite_signGuard p _ hw
    · rw [hchange]
      exact ⟨UInt32.le_trans (h.age_le i hi) hlater, h.moments i hi, hweight, hfirst, hsecond,
        h.second_nonneg i hi⟩
  exact
    { config := by rw [hframe.config]; exact h.config
      mask := by rw [hframe.stageMask]; exact h.mask
      schemaVersion := hframe.schemaVersion.trans h.schemaVersion
      phenotypeHash := hframe.phenotypeHash.trans h.phenotypeHash
      sourceDigest := hframe.sourceDigest.trans h.sourceDigest
      weights_length := hframe.weights_length.trans h.weights_length
      first_length := hframe.first_length.trans h.first_length
      second_length := hframe.second_length.trans h.second_length
      ages_length := hframe.ages_length.trans h.ages_length
      age_le := fun i hi => (hcoordinate i hi).1
      moments := fun i hi => (hcoordinate i hi).2.1
      finite := fun i hi => ⟨(hcoordinate i hi).2.2.1, (hcoordinate i hi).2.2.2.1,
        (hcoordinate i hi).2.2.2.2.1⟩
      second_nonneg := fun i hi => (hcoordinate i hi).2.2.2.2.2 }

end Keep

/-- What `new` builds. -/
def CpuFoundationTrainer.fresh (phenotype : TrainerPhenotype F P) (source : FounderAsset F)
    (mask : StageTrainableMask) (config : AdamWConfig F) : CpuFoundationTrainer F P :=
  let weights := List.ofFn phenotype.geneticWeight
  { phenotype
    sourceFoundation := source
    checkpoint :=
      { schemaVersion := 2
        phenotypeHash := phenotype.graph.phenotypeHash
        sourceFoundationDigest := source.digest
        optimizerStep := 0
        config
        stageMask := mask
        weights
        firstMoment := List.replicate weights.length 0
        secondMoment := List.replicate weights.length 0
        updateAges := List.replicate weights.length 0 }
    graph := SparseGraph.new phenotype.graph }

/-! ### Calls -/

section Calls

variable [BEq P] (blake3 : List UInt8 → Blake3Digest)

namespace CpuFoundationTrainer

/-- What a call on a trainer returns, with the trainer it leaves. -/
def outcome (t : CpuFoundationTrainer F P) :
    TrainerCall F P → Contract (Option F × CpuFoundationTrainer F P)
  | .applyGradients gradients => do
    let (norm, next) ← nextCheckpoint t.phenotype t.checkpoint gradients
    .ok (some norm, { t with checkpoint := next })
  | .setStageMask mask => do
    mask.validateFor t.phenotype
    .ok (none, { t with checkpoint := { t.checkpoint with stageMask := mask } })
  | .restoreCheckpoint checkpoint => do
    checkpoint.validateFor t.phenotype t.sourceFoundation.digest
    .ok (none, { t with checkpoint })
  | .setReplayExecution execution =>
    .ok (none, { t with
      graph := t.graph.setCadenceRows (execution == CpuReplayExecution.cadenceCsr) })
  | .rebindForNextCohort next asset => do
    admitNextCohort blake3 t.phenotype t.checkpoint next asset
    .ok (none,
      { phenotype := next
        sourceFoundation := asset
        checkpoint := { t.checkpoint with
          phenotypeHash := next.graph.phenotypeHash
          sourceFoundationDigest := asset.digest }
        graph := (SparseGraph.new next.graph).setCadenceRows
          (t.replayExecution == .cadenceCsr) })

omit [FloatOps F] [BEq P] in
theorem map_apply {σ α β : Type} (f : α → β) (x : EStateM ScaffoldContractError σ α) (s : σ) :
    (f <$> x) s = match x s with
      | .ok a t => .ok (f a) t
      | .error e t => .error e t := by
  change EStateM.map f x s = _
  unfold EStateM.map
  cases x s <;> rfl

/-- **A call checks before it changes anything.** -/
theorem call_eq (t : CpuFoundationTrainer F P) (c : TrainerCall F P) :
    call blake3 c t = match outcome blake3 t c with
      | .ok (a, t') => .ok a t'
      | .error e => .error e t := by
  cases c with
  | applyGradients gradients =>
    unfold call applyGradients outcome
    dsimp only
    rw [map_apply, bind_apply, get_apply]
    dsimp only
    rw [bind_apply]
    cases nextCheckpoint t.phenotype t.checkpoint gradients <;> rfl
  | setStageMask mask =>
    unfold call setStageMask outcome
    dsimp only
    rw [map_apply, bind_apply, get_apply]
    dsimp only
    rw [bind_apply]
    cases mask.validateFor t.phenotype <;> rfl
  | restoreCheckpoint checkpoint =>
    unfold call restoreCheckpoint outcome
    dsimp only
    rw [map_apply, bind_apply, get_apply]
    dsimp only
    rw [bind_apply]
    cases checkpoint.validateFor t.phenotype t.sourceFoundation.digest <;> rfl
  | setReplayExecution execution => rfl
  | rebindForNextCohort next asset =>
    unfold call rebindForNextCohort outcome
    dsimp only
    rw [map_apply, bind_apply, get_apply]
    dsimp only
    rw [bind_apply]
    cases admitNextCohort blake3 t.phenotype t.checkpoint next asset <;> rfl

/-- What an admitted successor has in common with the phenotype before it. -/
theorem admitNextCohort_eq_ok {p next : TrainerPhenotype F P} {c : FoundationTrainerCheckpoint F}
    {asset : FounderAsset F} (h : admitNextCohort blake3 p c next asset = .ok ()) :
    asset.validateAgainst blake3 next.foundation next.graph.synapseCount = .ok () ∧
      c.stageMask.validateFor next = .ok () ∧ p.graph.synapseCount = next.graph.synapseCount ∧
      projectionRows p = projectionRows next := by
  unfold admitNextCohort at h
  obtain ⟨hasset, h⟩ := contract_check_eq_ok_iff.1 h
  obtain ⟨hmask, h⟩ := contract_check_eq_ok_iff.1 h
  obtain ⟨binding, -, h⟩ := contract_bind_eq_ok_iff.1 h
  rw [reject_eq_ok_iff, not_or, not_or, not_or, Bool.not_eq_false] at h
  have hplan := h.2.2.1
  unfold samePlan at hplan
  simp only [Bool.and_eq_true, beq_iff_eq] at hplan
  obtain ⟨⟨⟨⟨⟨-, hprojections⟩, -⟩, -⟩, hsynapses⟩, -⟩ := hplan
  exact ⟨hasset, hmask, hsynapses, hprojections⟩

omit [BEq P] in
/-- Projections in common have their delays in common. -/
theorem delays_of_projectionRows {p next : TrainerPhenotype F P}
    (h : projectionRows p = projectionRows next)
    (hp : ∀ route, (p.graph.projections route).delayMicrosteps = 0) (route : next.graph.Route) :
    (next.graph.projections route).delayMicrosteps = 0 := by
  have hmem : (next.projectionType route, (next.graph.projections route).updateCadence,
      (next.graph.projections route).delayMicrosteps) ∈ projectionRows p := by
    rw [h]
    exact List.mem_ofFn.2 ⟨route, rfl⟩
  obtain ⟨route', hrow⟩ := List.mem_ofFn.1 hmem
  exact (congrArg (fun row => row.2.2) hrow).symm.trans (hp route')

end CpuFoundationTrainer

open CpuFoundationTrainer

section Keep

variable [RoundedSigns F] {blake3} {t t' : CpuFoundationTrainer F P}

/-- **A call keeps the trainer restorable.** -/
theorem TrainerValid.outcome (h : TrainerValid blake3 t) {c : TrainerCall F P} {a : Option F}
    (hc : CpuFoundationTrainer.outcome blake3 t c = .ok (a, t')) : TrainerValid blake3 t' := by
  obtain ⟨hcheckpoint, hsource, hdelays, enabled, hgraph⟩ := h
  cases c with
  | applyGradients gradients =>
    obtain ⟨⟨norm, next⟩, hnext, hc⟩ := contract_bind_eq_ok_iff.1 hc
    obtain ⟨-, rfl⟩ := Prod.mk.inj (Except.ok.inj hc)
    exact ⟨hcheckpoint.nextCheckpoint hnext, hsource, hdelays, enabled, hgraph⟩
  | setStageMask mask =>
    obtain ⟨hmask, hc⟩ := contract_check_eq_ok_iff.1 hc
    obtain ⟨-, rfl⟩ := Prod.mk.inj (Except.ok.inj hc)
    exact ⟨{ hcheckpoint with mask := hmask }, hsource, hdelays, enabled, hgraph⟩
  | restoreCheckpoint checkpoint =>
    obtain ⟨hvalid, hc⟩ := contract_check_eq_ok_iff.1 hc
    obtain ⟨-, rfl⟩ := Prod.mk.inj (Except.ok.inj hc)
    exact ⟨validateFor_eq_ok_iff.1 hvalid, hsource, hdelays, enabled, hgraph⟩
  | setReplayExecution execution =>
    obtain ⟨-, rfl⟩ := Prod.mk.inj (Except.ok.inj hc)
    exact ⟨hcheckpoint, hsource, hdelays, _, by rw [hgraph]; rfl⟩
  | rebindForNextCohort next asset =>
    obtain ⟨hadmitted, hc⟩ := contract_check_eq_ok_iff.1 hc
    obtain ⟨-, rfl⟩ := Prod.mk.inj (Except.ok.inj hc)
    obtain ⟨hasset, hmask, hsynapses, hprojections⟩ := admitNextCohort_eq_ok blake3 hadmitted
    refine ⟨?_, hasset, delays_of_projectionRows hprojections hdelays, _, rfl⟩
    exact
      { config := hcheckpoint.config
        mask := hmask
        schemaVersion := hcheckpoint.schemaVersion
        phenotypeHash := rfl
        sourceDigest := rfl
        weights_length := hcheckpoint.weights_length.trans hsynapses
        first_length := hcheckpoint.first_length.trans hsynapses
        second_length := hcheckpoint.second_length.trans hsynapses
        ages_length := hcheckpoint.ages_length.trans hsynapses
        age_le := hsynapses ▸ hcheckpoint.age_le
        moments := hsynapses ▸ hcheckpoint.moments
        finite := hsynapses ▸ hcheckpoint.finite
        second_nonneg := hsynapses ▸ hcheckpoint.second_nonneg }

omit [BEq P] [RoundedSigns F] in
theorem new_eq_ok_iff {phenotype : TrainerPhenotype F P} {source : FounderAsset F}
    {mask : StageTrainableMask} {config : AdamWConfig F} :
    new blake3 phenotype source mask config = .ok t ↔
      config.validate = .ok () ∧
      source.validateAgainst blake3 phenotype.foundation phenotype.graph.synapseCount = .ok () ∧
      mask.validateFor phenotype = .ok () ∧
      (∀ route, (phenotype.graph.projections route).delayMicrosteps = 0) ∧
      fresh phenotype source mask config = t := by
  have hdelays : (reject (∃ route, (phenotype.graph.projections route).delayMicrosteps ≠ 0)
      .invalidDecisionEvidence : Contract Unit) = .ok () ↔
      ∀ route, (phenotype.graph.projections route).delayMicrosteps = 0 := by
    rw [reject_eq_ok_iff]
    push Not
    exact Iff.rfl
  unfold new
  rw [contract_check_eq_ok_iff, contract_check_eq_ok_iff, contract_check_eq_ok_iff,
    contract_check_eq_ok_iff, hdelays]
  exact and_congr_right fun _ => and_congr_right fun _ => and_congr_right fun _ =>
    and_congr_right fun _ => ⟨Except.ok.inj, congrArg _⟩

omit [BEq P] in
/-- A new trainer is restorable. -/
theorem trainerValid_new {phenotype : TrainerPhenotype F P} {source : FounderAsset F}
    {mask : StageTrainableMask} {config : AdamWConfig F}
    (h : new blake3 phenotype source mask config = .ok t) : TrainerValid blake3 t := by
  obtain ⟨hconfig, hsource, hmask, hdelays, rfl⟩ := new_eq_ok_iff.1 h
  have hlength : (List.ofFn phenotype.geneticWeight).length = phenotype.graph.synapseCount :=
    List.length_ofFn
  have hzero : ∀ {α : Type} (z : α) (i : ℕ),
      (List.replicate (List.ofFn phenotype.geneticWeight).length z).getD i z = z := by
    intro α z i
    rw [List.getD_eq_getElem?_getD, List.getElem?_replicate]
    split_ifs <;> rfl
  refine ⟨?_, hsource, hdelays, false, rfl⟩
  exact
    { config := hconfig
      mask := hmask
      schemaVersion := rfl
      phenotypeHash := rfl
      sourceDigest := rfl
      weights_length := hlength
      first_length := List.length_replicate.trans hlength
      second_length := List.length_replicate.trans hlength
      ages_length := List.length_replicate.trans hlength
      age_le := fun i _ => by
        unfold fresh
        dsimp only
        rw [hzero]
        exact UInt32.le_refl _
      moments := fun i _ _ => by
        unfold fresh
        dsimp only
        rw [hzero]
        exact ⟨RoundedSigns.zero_eq, RoundedSigns.zero_eq⟩
      finite := fun i hi => by
        unfold fresh
        dsimp only
        rw [hzero, List.getD_eq_getElem _ _ (hlength.symm ▸ hi), List.getElem_ofFn]
        exact ⟨phenotype.geneticWeight_finite _, RoundedSigns.zero_finite,
          RoundedSigns.zero_finite⟩
      second_nonneg := fun i _ => by
        unfold fresh
        dsimp only
        rw [hzero]
        exact RoundedSigns.zero_nonneg }

omit [BEq P] in
/-- A trainer from a checkpoint is restorable. -/
theorem trainerValid_fromCheckpoint {phenotype : TrainerPhenotype F P} {source : FounderAsset F}
    {checkpoint : FoundationTrainerCheckpoint F}
    (h : fromCheckpoint blake3 phenotype source checkpoint = .ok t) : TrainerValid blake3 t := by
  unfold fromCheckpoint at h
  obtain ⟨hvalid, h⟩ := contract_check_eq_ok_iff.1 h
  obtain ⟨result, hnew, h⟩ := contract_bind_eq_ok_iff.1 h
  obtain rfl := Except.ok.inj h
  have hresult := trainerValid_new hnew
  obtain ⟨-, -, -, -, rfl⟩ := new_eq_ok_iff.1 hnew
  exact ⟨validateFor_eq_ok_iff.1 hvalid, hresult.source, hresult.delays, hresult.graph⟩

omit [BEq P] [RoundedSigns F] in
/-- **A restorable trainer is restored**, its cadence rows apart. -/
theorem TrainerValid.fromCheckpoint_eq (h : TrainerValid blake3 t) :
    fromCheckpoint blake3 t.phenotype t.sourceFoundation t.checkpoint
      = .ok { t with graph := SparseGraph.new t.phenotype.graph } := by
  unfold fromCheckpoint
  have hnew : new blake3 t.phenotype t.sourceFoundation t.checkpoint.stageMask t.checkpoint.config
      = .ok (fresh t.phenotype t.sourceFoundation t.checkpoint.stageMask t.checkpoint.config) :=
    new_eq_ok_iff.2 ⟨h.checkpoint.config, h.source, h.checkpoint.mask, h.delays, rfl⟩
  exact contract_check_eq_ok_iff.2 ⟨validateFor_eq_ok_iff.2 h.checkpoint,
    contract_bind_eq_ok_iff.2 ⟨_, hnew, rfl⟩⟩

end Keep

end Calls

end Training

end ALife
