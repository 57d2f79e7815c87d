/-
# Cadence rows

The rows of a class of steps are addressed by prefix lengths, so a row holds the
synapses of its target that fire in the class, in their order (`row_new`); the
three classes cover every step (`routeFires_stepClass`).  A loop that does nothing
for a synapse that does not fire is the same over the row and over all incoming
synapses (`foldl_incomingAt`), and with it `forward` and `backward` are the same,
whatever the arithmetic does.
-/

import ALife.Training.FloatReplay
import Mathlib.Data.List.GetD

namespace ALife

open Machine

namespace CpuReplay

variable {R : Type} {p : BrainPhenotype R}

/-! ### The rows -/

/-- **The classes cover every step**: a cadence fires in a step as it does in its class. -/
theorem routeFires_stepClass (raw : UInt8) (step : ℕ) :
    routeFires raw (CadenceRows.stepClass step).val = routeFires raw step := by
  have hparity : ((CadenceRows.stepClass step).val % 2 == 0) = (step % 2 == 0) := by
    unfold CadenceRows.stepClass
    split_ifs with hzero heven
    · rw [hzero]
      rfl
    · rw [heven]
      rfl
    · rw [show step % 2 = 1 by omega]
      rfl
  have hzero : ((CadenceRows.stepClass step).val == 0) = (step == 0) := by
    unfold CadenceRows.stepClass
    split_ifs with hzero heven
    · rw [hzero]
      rfl
    · exact (beq_eq_false_iff_ne.2 hzero).symm
    · exact (beq_eq_false_iff_ne.2 hzero).symm
  unfold routeFires
  split
  · rfl
  · exact hparity
  · exact hparity
  · exact hzero
  · exact hzero
  · rfl

namespace CadenceRows

/-- The synapses of a row that fire in a class. -/
def firing (step : ℕ) (row : List p.Synapse) : List p.Synapse :=
  row.filter fun id => routeFires (p.cadence id) step

/-- The offsets are the lengths of the prefixes, and the ids the rows one after the other. -/
theorem foldl_extend (step : ℕ) (rows : List (List p.Synapse)) :
    (rows.foldl (extend step) ([0], [])).2 = rows.flatMap (firing step) ∧
      (rows.foldl (extend step) ([0], [])).1
        = (List.range (rows.length + 1)).map fun k => ((rows.take k).flatMap (firing step)).length := by
  induction rows using List.reverseRecOn with
  | nil => exact ⟨rfl, rfl⟩
  | append_singleton rows row ih =>
    obtain ⟨hids, hoffsets⟩ := ih
    rw [List.foldl_append, List.foldl_cons, List.foldl_nil]
    have hall : (rows.foldl (extend step) ([0], [])).2 ++ firing step row
        = (rows ++ [row]).flatMap (firing step) := by
      rw [hids, List.flatMap_append, List.flatMap_singleton]
    refine ⟨hall, ?_⟩
    change (rows.foldl (extend step) ([0], [])).1
      ++ [((rows.foldl (extend step) ([0], [])).2 ++ firing step row).length] = _
    rw [hall, hoffsets, List.length_append, List.length_singleton, List.range_succ (n := _ + 1),
      List.map_append, List.map_singleton]
    congr 1
    · refine List.map_congr_left fun k hk => ?_
      rw [List.take_append_of_le_length (Nat.lt_succ_iff.1 (List.mem_range.1 hk))]
    · rw [List.take_of_length_le (by simp)]

/-- **A row holds the synapses of its target that fire in the class.** -/
theorem row_new (rows : List (List p.Synapse)) {target : ℕ} (h : target < rows.length)
    (step : ℕ) : (new rows).row target step = firing (stepClass step).val rows[target] := by
  obtain ⟨hids, hoffsets⟩ := foldl_extend (stepClass step).val rows
  have hoffset : ∀ k ≤ rows.length, ((new rows).offsets (stepClass step)).getD k 0
      = ((rows.take k).flatMap (firing (stepClass step).val)).length := by
    intro k hk
    unfold new
    dsimp only
    rw [hoffsets, List.getD_eq_getElem _ _ (by simpa using Nat.lt_succ_of_le hk), List.getElem_map,
      List.getElem_range]
  have hnext : (rows.take (target + 1)).flatMap (firing (stepClass step).val)
      = (rows.take target).flatMap (firing (stepClass step).val)
        ++ firing (stepClass step).val rows[target] := by
    rw [List.take_succ_eq_append_getElem h, List.flatMap_append, List.flatMap_singleton]
  have hsplit : rows.flatMap (firing (stepClass step).val)
      = (rows.take target).flatMap (firing (stepClass step).val)
        ++ (firing (stepClass step).val rows[target]
          ++ (rows.drop (target + 1)).flatMap (firing (stepClass step).val)) := by
    rw [← List.append_assoc, ← hnext, ← List.flatMap_append, List.take_append_drop]
  have hlist : (new rows).ids (stepClass step) = rows.flatMap (firing (stepClass step).val) := hids
  unfold row
  dsimp only
  rw [hlist, hoffset target h.le, hoffset (target + 1) h, hnext, List.length_append,
    Nat.add_sub_cancel_left, hsplit, List.drop_left, List.take_left]

end CadenceRows

namespace SparseGraph

variable (g : SparseGraph p)

/-- **A loop that does nothing for a synapse that does not fire** does not depend on the rows. -/
theorem foldl_incomingAt {β : Type} (enabled : Bool) (target : p.Neuron) (step : ℕ)
    {f : β → p.Synapse → β}
    (hskip : ∀ s id, routeFires (p.cadence id) step = false → f s id = s) (s : β) :
    ((g.setCadenceRows enabled).incomingAt target step).foldl f s
      = (g.incoming target).foldl f s := by
  cases enabled with
  | false => rfl
  | true =>
    have hlength : target.val < ((List.finRange p.neuronCount).map g.incoming).length := by simp
    have hrow : (g.setCadenceRows true).incomingAt target step
        = CadenceRows.firing (CadenceRows.stepClass step).val (g.incoming target) := by
      refine (CadenceRows.row_new _ hlength step).trans ?_
      rw [List.getElem_map, List.getElem_finRange]
      rfl
    rw [hrow]
    unfold CadenceRows.firing
    generalize g.incoming target = ids
    induction ids generalizing s with
    | nil => rfl
    | cons id ids ih =>
      cases hfires : routeFires (p.cadence id) step with
      | true =>
        rw [List.filter_cons_of_pos (by rw [routeFires_stepClass, hfires]), List.foldl_cons, ih,
          List.foldl_cons]
      | false =>
        rw [List.filter_cons_of_neg (by rw [routeFires_stepClass, hfires]; exact Bool.false_ne_true),
          ih, List.foldl_cons, hskip s id hfires]

/-- A synapse that does not fire is not active. -/
theorem active_eq_false {tick : TrainingReplayTick p} {step : ℕ} {id : p.Synapse}
    (h : routeFires (p.cadence id) step = false) : active tick step id = false := by
  unfold active
  rw [h, Bool.and_false]

end SparseGraph

end CpuReplay

namespace FloatReplay

open CpuReplay (BrainPhenotype ReplaySpeechTarget SparseGraph Tape TrainingReplayTick
  TrainingSequence)

variable {F : Type} [FloatOps F] {p : BrainPhenotype F} (g : SparseGraph p)
  (weights : p.Synapse → F)

/-! ### Forward -/

theorem synapticSum_setCadenceRows (enabled : Bool) :
    synapticSum (g.setCadenceRows enabled) weights = synapticSum (g.setCadenceRows false) weights := by
  funext tick step previous target
  unfold synapticSum
  dsimp only
  have hskip : ∀ (sum : F) (id : p.Synapse), CpuReplay.routeFires (p.cadence id) step = false →
      (if SparseGraph.active tick step id then
        sum + previous (p.synapses id).source * (weights id + tick.effectiveWeightOffsets id)
      else sum) = sum := by
    intro sum id hfires
    rw [SparseGraph.active_eq_false hfires]
    rfl
  rw [SparseGraph.foldl_incomingAt g enabled target step hskip,
    SparseGraph.foldl_incomingAt g false target step hskip]

theorem forward_setCadenceRows (enabled : Bool) (q : TrainingSequence p) :
    forward (g.setCadenceRows enabled) weights q = forward (g.setCadenceRows false) weights q := by
  have hmicrostep : microstep (g.setCadenceRows enabled) weights
      = microstep (g.setCadenceRows false) weights := by
    funext dendrites tick step previous previousM ema
    unfold microstep
    rw [synapticSum_setCadenceRows]
  have hround : replayMicrostep (g.setCadenceRows enabled) weights
      = replayMicrostep (g.setCadenceRows false) weights := by
    funext dendrites tick x step
    unfold replayMicrostep
    rw [hmicrostep]
  have htick : replayTick (g.setCadenceRows enabled) weights
      = replayTick (g.setCadenceRows false) weights := by
    funext q x tick
    unfold replayTick
    rw [hround]
    rfl
  unfold forward
  rw [htick]

/-! ### Backward -/

section Backward

variable {D : Type} [FloatOps D] (widen : F → D)

omit [FloatOps D] in
theorem sweepTargets_setCadenceRows (enabled : Bool) (tick : TrainingReplayTick p) (step : ℕ)
    (a δ : p.Neuron → F) (state : ℕ) (s : Adjoints p D) :
    sweepTargets (g.setCadenceRows enabled) weights tick step a δ state s
      = sweepTargets (g.setCadenceRows false) weights tick step a δ state s := by
  unfold sweepTargets
  congr 1
  funext s target
  have hskip : ∀ (s : Adjoints p D) (id : p.Synapse),
      CpuReplay.routeFires (p.cadence id) step = false →
      sweepSynapse weights tick step a δ state target s id = s := by
    intro s id hfires
    unfold sweepSynapse
    rw [SparseGraph.active_eq_false hfires]
    rfl
  rw [SparseGraph.foldl_incomingAt g enabled target step hskip,
    SparseGraph.foldl_incomingAt g false target step hskip]

theorem backward_setCadenceRows (enabled : Bool) (q : TrainingSequence p) (tape : Tape p)
    (adjoints : List (List F)) (targets : List (Option (ReplaySpeechTarget F))) :
    backward widen (g.setCadenceRows enabled) weights q tape adjoints targets
      = backward widen (g.setCadenceRows false) weights q tape adjoints targets := by
  have hstep : backwardStep (D := D) (g.setCadenceRows enabled) weights
      = backwardStep (g.setCadenceRows false) weights := by
    funext q tape s step
    unfold backwardStep
    simp only [sweepTargets_setCadenceRows g weights enabled]
  unfold backward
  rw [hstep]
  rfl

end Backward

end FloatReplay

end ALife
