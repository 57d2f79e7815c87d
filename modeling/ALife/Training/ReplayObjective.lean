/-
# The objective of a replay window

The state at the burn-in boundary is held fixed by replaying the rest of the
window from it (`TrainingSequence.detached`), and the objective of a weight vector
is read off the tape of that replay (`objective`): the adjoints times the logits of
the candidates, and the normalised speech loss of the targets.  From the boundary
the replay goes through the states of the whole one (`stateAt_detached`), and the
objective is the sum of the rows of these states (`objective_detached`).
-/

import ALife.Training.ReplayTape

namespace ALife

open Machine

namespace CpuReplay

section Objective

variable {R : Type} [Field R] [LinearOrder R] [FloatFunctions R] {p : BrainPhenotype R}

/-- The window after its burn-in, from a state that is held fixed. -/
def TrainingSequence.detached (q : TrainingSequence p) (boundary : ReplayState p) :
    TrainingSequence p :=
  { q with
    initial := { q.initial with activations := boundary.a, metabolicLoad := boundary.m }
    ticks := q.ticks.drop q.burnInTicks
    burnInTicks := 0 }

/-- The state that a tape holds at the burn-in boundary. -/
def TrainingSequence.boundary (q : TrainingSequence p) (tape : Tape p) : ReplayState p :=
  ⟨tape.a.getD (q.burnInTicks * p.microstepCount) 0,
    tape.m.getD (q.burnInTicks * p.microstepCount) 0⟩

namespace SparseGraph

/-- The part of the objective that tick `t` of a tape has. -/
def tapeRow (weights : p.Synapse → R) (q : TrainingSequence p) (scales : Bool → R)
    (adjoints : List (List R)) (targets : List (Option (ReplaySpeechTarget R))) (tape : Tape p)
    (t : ℕ) : R :=
  (List.zipWith (· * ·) (adjoints.getD t []) (tape.candidateLogits.getD t [])).sum
    + match q.ticks[t]?, targets.getD t none with
      | some tick, some target =>
        speechLoss target scales weights tick (tape.a.getD ((t + 1) * p.microstepCount) 0)
      | _, _ => 0

/-- The objective of a weight vector: the rows of the tape that it replays. -/
def objective (g : SparseGraph p) (q : TrainingSequence p) (scales : Bool → R)
    (adjoints : List (List R)) (targets : List (Option (ReplaySpeechTarget R)))
    (weights : p.Synapse → R) : R :=
  match g.forward weights q with
  | .ok tape => ∑ t ∈ Finset.range q.ticks.length, tapeRow weights q scales adjoints targets tape t
  | .error _ => 0

/-- The candidates of a row, from the state of the replay. -/
def candidatesObjective (g : SparseGraph p) (weights : p.Synapse → R) (q : TrainingSequence p)
    (tick : TrainingReplayTick p) (adjoint : List R) (a : p.Neuron → R) : R :=
  ((tick.candidates.zip adjoint).map fun r =>
    r.2 * g.candidateLogit weights q.memoryCandidateGain tick a r.1 (biasOf (p := p) r.1)).sum

/-- The speech loss of a row. -/
def speechLossOf (weights : p.Synapse → R) (scales : Bool → R) (tick : TrainingReplayTick p)
    (target : Option (ReplaySpeechTarget R)) (a : p.Neuron → R) : R :=
  match target with
  | some target => speechLoss target scales weights tick a
  | none => 0

/-- The row of a tick, from the state of the replay. -/
def rowObjective (g : SparseGraph p) (weights : p.Synapse → R) (q : TrainingSequence p)
    (scales : Bool → R) (tick : TrainingReplayTick p) (adjoint : List R)
    (target : Option (ReplaySpeechTarget R)) (a : p.Neuron → R) : R :=
  g.candidatesObjective weights q tick adjoint a + speechLossOf weights scales tick target a

variable {g : SparseGraph p} {weights : p.Synapse → R} {q : TrainingSequence p}

omit [LinearOrder R] [FloatFunctions R] in
theorem sum_zipWith_map {α : Type} (F : α → R) (l : List α) (m : List R) :
    (List.zipWith (· * ·) m (l.map F)).sum = ((l.zip m).map fun r => r.2 * F r.1).sum := by
  induction l generalizing m with
  | nil => simp
  | cons c l ih =>
    rcases m with _ | ⟨x, m⟩
    · simp
    · simp only [List.map_cons, List.zipWith_cons_cons, List.zip_cons_cons, List.sum_cons, ih]

theorem Rows.get_logits {tape : Tape p} {n t : ℕ} (h : g.Rows weights q tape n) (ht : t < n)
    {tick : TrainingReplayTick p} (htick : q.ticks[t]? = some tick) :
    tape.candidateLogits.getD t [] = g.logitRow weights q tick (g.endState weights q t).a := by
  rw [h.logits, List.getD_eq_getElem?_getD, List.getElem?_map, List.getElem?_range ht]
  simp only [Option.map_some, Option.getD_some, rowAt, htick]

theorem Rows.get_memory {tape : Tape p} {n t : ℕ} (h : g.Rows weights q tape n) (ht : t < n)
    {tick : TrainingReplayTick p} (htick : q.ticks[t]? = some tick) :
    tape.memory.getD t [] = tick.candidates.map (g.memorySum weights tick) := by
  rw [h.memory, List.getD_eq_getElem?_getD, List.getElem?_map, List.getElem?_range ht]
  simp only [Option.map_some, Option.getD_some, rowAt, htick]

theorem Rows.get_cognitive {tape : Tape p} {n t : ℕ} (h : g.Rows weights q tape n) (ht : t < n)
    {tick : TrainingReplayTick p} (htick : q.ticks[t]? = some tick) :
    tape.cognitive.getD t [] = tick.candidates.map (g.cognitiveSum weights tick) := by
  rw [h.cognitive, List.getD_eq_getElem?_getD, List.getElem?_map, List.getElem?_range ht]
  simp only [Option.map_some, Option.getD_some, rowAt, htick]

theorem Recorded.get_end {tape : Tape p}
    (h : g.Recorded weights q tape (q.ticks.length * p.microstepCount)) {t : ℕ}
    (ht : t < q.ticks.length) :
    tape.a.getD ((t + 1) * p.microstepCount) 0 = (g.endState weights q t).a :=
  h.get_a (Nat.mul_le_mul_right _ ht)

/-- A row of the tape is the row of the states it holds. -/
theorem tapeRow_eq {tape : Tape p} (h : g.forward weights q = .ok tape) (scales : Bool → R)
    (adjoints : List (List R)) (targets : List (Option (ReplaySpeechTarget R))) {t : ℕ}
    {tick : TrainingReplayTick p} (htick : q.ticks[t]? = some tick) :
    tapeRow weights q scales adjoints targets tape t
      = g.rowObjective weights q scales tick (adjoints.getD t []) (targets.getD t none)
        (g.endState weights q t).a := by
  obtain ⟨hstates, hrows⟩ := recorded_of_forward h
  have ht : t < q.ticks.length := (List.getElem?_eq_some_iff.1 htick).1
  unfold tapeRow rowObjective candidatesObjective speechLossOf
  rw [hrows.get_logits ht htick, hstates.get_end ht, logitRow, sum_zipWith_map]
  simp only [htick]
  rcases targets.getD t none with _ | target <;> rfl

section Detached

variable {boundary : ReplayState p}

omit [Field R] [LinearOrder R] [FloatFunctions R] in
theorem detached_ticks_getElem? (j : ℕ) :
    (q.detached boundary).ticks[j]? = q.ticks[q.burnInTicks + j]? := List.getElem?_drop

omit [Field R] [LinearOrder R] [FloatFunctions R] in
theorem boundary_add_div (j : ℕ) :
    (q.burnInTicks * p.microstepCount + j) / p.microstepCount
      = q.burnInTicks + j / p.microstepCount := by
  rw [Nat.mul_comm, Nat.mul_add_div p.microstepCount_pos]

omit [Field R] [LinearOrder R] [FloatFunctions R] in
theorem boundary_add_mod (j : ℕ) :
    (q.burnInTicks * p.microstepCount + j) % p.microstepCount = j % p.microstepCount := by
  rw [Nat.mul_comm, Nat.mul_add_mod]

/-- The replay from the boundary goes through the states of the whole replay. -/
theorem stateAt_detached (hboundary : boundary
      = g.stateAt weights q (q.burnInTicks * p.microstepCount)) (j : ℕ) :
    g.stateAt weights (q.detached boundary) j
      = g.stateAt weights q (q.burnInTicks * p.microstepCount + j) := by
  induction j with
  | zero => exact hboundary
  | succ j ih =>
    rw [← Nat.add_assoc, stateAt, stateAt, ih, stepAt, stepAt, detached_ticks_getElem?,
      boundary_add_div, boundary_add_mod]
    rfl

theorem forward_detached (h : ∃ tape, g.forward weights q = .ok tape) (boundary : ReplayState p)
    (weights' : p.Synapse → R) : ∃ tape, g.forward weights' (q.detached boundary) = .ok tape := by
  rw [forward_eq_ok_iff] at h ⊢
  exact fun tick htick => h tick (List.mem_of_mem_drop htick)

/-- The objective of any weights is the sum of the rows they replay. -/
theorem objective_detached (h : ∃ tape, g.forward weights q = .ok tape) (scales : Bool → R)
    (adjoints : List (List R)) (targets : List (Option (ReplaySpeechTarget R)))
    (weights' : p.Synapse → R) :
    g.objective (q.detached boundary) scales (adjoints.drop q.burnInTicks)
        (targets.drop q.burnInTicks) weights'
      = ∑ j ∈ Finset.range (q.ticks.length - q.burnInTicks),
        match q.ticks[q.burnInTicks + j]? with
        | none => 0
        | some tick => g.rowObjective weights' q scales tick
          (adjoints.getD (q.burnInTicks + j) []) (targets.getD (q.burnInTicks + j) none)
          (g.endState weights' (q.detached boundary) j).a := by
  obtain ⟨tape, htape⟩ := forward_detached h boundary weights'
  have hlength : (q.detached boundary).ticks.length = q.ticks.length - q.burnInTicks :=
    List.length_drop
  simp only [objective, htape, hlength]
  refine Finset.sum_congr rfl fun j hj => ?_
  have hlt : q.burnInTicks + j < q.ticks.length := by
    have := Finset.mem_range.1 hj
    omega
  obtain ⟨tick, htick⟩ : ∃ tick, q.ticks[q.burnInTicks + j]? = some tick :=
    ⟨_, List.getElem?_eq_getElem hlt⟩
  rw [tapeRow_eq htape scales _ _ ((detached_ticks_getElem? j).trans htick), htick]
  simp only [List.getD_eq_getElem?_getD, List.getElem?_drop]
  rfl

end Detached

end SparseGraph

end Objective

end CpuReplay

end ALife
