/-
# What the tape of a replay holds

The states of a replay by their index, each from the one before (`stateAt`), and
the rows of its candidates.  The tape that `forward` returns holds exactly these
(`recorded_of_forward`), and whether it returns one does not depend on the
weights (`forward_ok_of_forward_ok`).
-/

import ALife.Training.ReplayBackward

namespace ALife

open Machine

namespace CpuReplay

variable {R : Type} [Field R] [LinearOrder R] [FloatFunctions R] {p : BrainPhenotype R}

/-- The activations and metabolic loads of a state. -/
@[ext]
structure ReplayState (p : BrainPhenotype R) where
  a : p.Neuron → R
  m : p.Neuron → R

namespace SparseGraph

variable (g : SparseGraph p) (weights : p.Synapse → R) (q : TrainingSequence p)

/-- One microstep of a tick; a tick with fewer microsteps keeps its last state. -/
def tickStep (dendrites : DendriticBranchSet R p.neuronCount) (tick : TrainingReplayTick p)
    (step : ℕ) (s : ReplayState p) : ReplayState p :=
  if tick.microstepCount ≤ step then s
  else
    let r := g.microstep weights dendrites tick step s.a s.m 0
    ⟨r.next, r.nextM⟩

/-- The step with index `k` of the window. -/
def stepAt (k : ℕ) (s : ReplayState p) : ReplayState p :=
  match q.ticks[k / p.microstepCount]? with
  | none => s
  | some tick => g.tickStep weights q.initial.dendrites tick (k % p.microstepCount) s

/-- The state after `k` steps. -/
def stateAt : ℕ → ReplayState p
  | 0 => ⟨q.initial.activations, q.initial.metabolicLoad⟩
  | k + 1 => g.stepAt weights q k (stateAt k)

/-- The activated row that step `k` puts on the tape. -/
def activatedAt (k : ℕ) : p.Neuron → R :=
  match q.ticks[k / p.microstepCount]? with
  | none => 0
  | some tick =>
    if tick.microstepCount ≤ k % p.microstepCount then 0
    else (g.microstep weights q.initial.dendrites tick (k % p.microstepCount)
      (g.stateAt weights q k).a (g.stateAt weights q k).m 0).act

/-- The decoder bias of a candidate, zero where its family has none. -/
def biasOf (candidate : TrainingReplayCandidate R) : R :=
  match p.candidateDecoder.families.find? fun f => f.family = candidate.family with
  | some f => f.bias
  | none => 0

/-- The logits of a tick's candidates in a state. -/
def logitRow (tick : TrainingReplayTick p) (a : p.Neuron → R) : List R :=
  tick.candidates.map fun c => g.candidateLogit weights q.memoryCandidateGain tick a c
    (biasOf (p := p) c)

/-- Tick `t` of the window, mapped to a row. -/
def rowAt (row : TrainingReplayTick p → ℕ → List R) (t : ℕ) : List R :=
  match q.ticks[t]? with
  | none => []
  | some tick => row tick t

/-- The state at the end of tick `t`. -/
def endState (t : ℕ) : ReplayState p := g.stateAt weights q ((t + 1) * p.microstepCount)

/-- The tape holds the states up to `k`. -/
structure Recorded (tape : Tape p) (k : ℕ) : Prop where
  a : tape.a = (List.range (k + 1)).map fun j => (g.stateAt weights q j).a
  m : tape.m = (List.range (k + 1)).map fun j => (g.stateAt weights q j).m
  activated : tape.activated = (List.range k).map (g.activatedAt weights q)

/-- The tape holds the rows of the first `t` ticks. -/
structure Rows (tape : Tape p) (t : ℕ) : Prop where
  logits : tape.candidateLogits = (List.range t).map
    (rowAt q fun tick t => g.logitRow weights q tick (g.endState weights q t).a)
  memory : tape.memory = (List.range t).map
    (rowAt q fun tick _ => tick.candidates.map (g.memorySum weights tick))
  cognitive : tape.cognitive = (List.range t).map
    (rowAt q fun tick _ => tick.candidates.map (g.cognitiveSum weights tick))

variable {g weights q}

theorem Recorded.getLast_a {tape : Tape p} {k : ℕ} (h : g.Recorded weights q tape k) :
    tape.a.getLastD 0 = (g.stateAt weights q k).a := by
  rw [h.a, List.range_succ, List.map_append, List.map_singleton, List.getLastD_concat]

theorem Recorded.getLast_m {tape : Tape p} {k : ℕ} (h : g.Recorded weights q tape k) :
    tape.m.getLastD 0 = (g.stateAt weights q k).m := by
  rw [h.m, List.range_succ, List.map_append, List.map_singleton, List.getLastD_concat]

theorem Recorded.get_a {tape : Tape p} {k j : ℕ} (h : g.Recorded weights q tape k) (hj : j ≤ k) :
    tape.a.getD j 0 = (g.stateAt weights q j).a := by
  rw [h.a, List.getD_eq_getElem?_getD, List.getElem?_map, List.getElem?_range (by omega)]
  rfl

theorem Recorded.get_m {tape : Tape p} {k j : ℕ} (h : g.Recorded weights q tape k) (hj : j ≤ k) :
    tape.m.getD j 0 = (g.stateAt weights q j).m := by
  rw [h.m, List.getD_eq_getElem?_getD, List.getElem?_map, List.getElem?_range (by omega)]
  rfl

theorem Recorded.get_activated {tape : Tape p} {k j : ℕ} (h : g.Recorded weights q tape k)
    (hj : j < k) : tape.activated.getD j 0 = g.activatedAt weights q j := by
  rw [h.activated, List.getD_eq_getElem?_getD, List.getElem?_map, List.getElem?_range hj]
  rfl

/-- **One microstep** puts the next state on the tape. -/
theorem Recorded.replayMicrostep {x : Replay p} {tick : TrainingReplayTick p} {t step : ℕ}
    (htick : q.ticks[t]? = some tick) (hstep : step < p.microstepCount)
    (h : g.Recorded weights q x.tape (t * p.microstepCount + step)) :
    g.Recorded weights q (g.replayMicrostep weights q.initial.dendrites tick x step).tape
      (t * p.microstepCount + step + 1) := by
  have hdiv : (t * p.microstepCount + step) / p.microstepCount = t := by
    rw [Nat.mul_comm, Nat.mul_add_div p.microstepCount_pos, Nat.div_eq_of_lt hstep, Nat.add_zero]
  have hmod : (t * p.microstepCount + step) % p.microstepCount = step := by
    rw [Nat.mul_comm, Nat.mul_add_mod, Nat.mod_eq_of_lt hstep]
  have hstate : g.stateAt weights q (t * p.microstepCount + step + 1)
      = g.tickStep weights q.initial.dendrites tick step
        (g.stateAt weights q (t * p.microstepCount + step)) := by
    rw [stateAt, stepAt, hdiv, hmod, htick]
  have hact : g.activatedAt weights q (t * p.microstepCount + step)
      = if tick.microstepCount ≤ step then 0
        else (g.microstep weights q.initial.dendrites tick step
          (g.stateAt weights q (t * p.microstepCount + step)).a
          (g.stateAt weights q (t * p.microstepCount + step)).m 0).act := by
    rw [activatedAt, hdiv, hmod, htick]
  unfold SparseGraph.replayMicrostep
  rw [h.getLast_a, h.getLast_m]
  unfold tickStep at hstate
  split_ifs at hstate hact ⊢ with hlate <;>
  refine ⟨?_, ?_, ?_⟩ <;>
  dsimp only <;>
  rw [List.range_succ, List.map_append, List.map_singleton]
  · rw [h.a, hstate]
  · rw [h.m, hstate]
  · rw [h.activated, hact]
  · rw [h.a, hstate]
    rfl
  · rw [h.m, hstate]
    rfl
  · rw [h.activated, hact]
    rfl

theorem Recorded.replayMicrosteps {x : Replay p} {tick : TrainingReplayTick p} {t : ℕ}
    (htick : q.ticks[t]? = some tick)
    (h : g.Recorded weights q x.tape (t * p.microstepCount)) {n : ℕ} (hn : n ≤ p.microstepCount) :
    g.Recorded weights q
      ((List.range n).foldl (g.replayMicrostep weights q.initial.dendrites tick) x).tape
      (t * p.microstepCount + n) := by
  induction n with
  | zero => exact h
  | succ n ih =>
    rw [List.range_succ, List.foldl_append, List.foldl_cons, List.foldl_nil]
    exact (ih (by omega)).replayMicrostep htick (by omega)

/-- The rows of the candidates are left alone by the microsteps. -/
theorem Rows.replayMicrosteps {x : Replay p} {t : ℕ} (h : g.Rows weights q x.tape t)
    (tick : TrainingReplayTick p) (l : List ℕ) :
    g.Rows weights q
      (l.foldl (g.replayMicrostep weights q.initial.dendrites tick) x).tape t := by
  have hkeeps : ∀ (x : Replay p) step,
      ((g.replayMicrostep weights q.initial.dendrites tick x step).tape.candidateLogits,
        (g.replayMicrostep weights q.initial.dendrites tick x step).tape.memory,
        (g.replayMicrostep weights q.initial.dendrites tick x step).tape.cognitive)
      = (x.tape.candidateLogits, x.tape.memory, x.tape.cognitive) := by
    intro x step
    unfold SparseGraph.replayMicrostep
    split_ifs <;> rfl
  have hall := foldl_keeps
    (π := fun x : Replay p => (x.tape.candidateLogits, x.tape.memory, x.tape.cognitive)) hkeeps l x
  obtain ⟨hlogits, hrest⟩ := Prod.mk.inj hall
  obtain ⟨hmemory, hcognitive⟩ := Prod.mk.inj hrest
  exact ⟨hlogits.trans h.logits, hmemory.trans h.memory, hcognitive.trans h.cognitive⟩

omit [LinearOrder R] [FloatFunctions R] in
/-- The bias of a candidate whose family is known. -/
theorem eq_biasOf_of_familyBias {c : TrainingReplayCandidate R} {b : R}
    (h : familyBias (p := p) c = .ok b) : b = biasOf (p := p) c := by
  unfold familyBias at h
  unfold biasOf
  cases hf : p.candidateDecoder.families.find? fun f => f.family = c.family with
  | none =>
    rw [hf] at h
    cases h
  | some f =>
    rw [hf] at h
    exact (Except.ok.inj h).symm

omit [LinearOrder R] [FloatFunctions R] in
/-- The biases of a row whose families are all known. -/
theorem mapM_familyBias {l : List (TrainingReplayCandidate R)} {biases : List R}
    (h : l.mapM (familyBias (p := p)) = .ok biases) : biases = l.map (biasOf (p := p)) := by
  induction l generalizing biases with
  | nil =>
    cases h
    rfl
  | cons c l ih =>
    rw [List.mapM_cons] at h
    obtain ⟨b, hb, h⟩ := contract_bind_eq_ok_iff.1 h
    obtain ⟨bs, hbs, h⟩ := contract_bind_eq_ok_iff.1 h
    obtain rfl := Except.ok.inj h
    rw [List.map_cons, eq_biasOf_of_familyBias hb, ih hbs]

/-- **One tick** puts its states and its rows on the tape. -/
theorem recorded_replayTick {x x' : Replay p} {tick : TrainingReplayTick p} {t : ℕ}
    (htick : q.ticks[t]? = some tick)
    (hstates : g.Recorded weights q x.tape (t * p.microstepCount))
    (hrows : g.Rows weights q x.tape t) (h : g.replayTick weights q x tick = .ok x') :
    g.Recorded weights q x'.tape ((t + 1) * p.microstepCount) ∧ g.Rows weights q x'.tape (t + 1) := by
  have hend := hstates.replayMicrosteps htick le_rfl
  rw [← Nat.succ_mul] at hend
  have hkept := hrows.replayMicrosteps tick (List.range p.microstepCount)
  unfold replayTick at h
  obtain ⟨biases, hbiases, h⟩ := contract_bind_eq_ok_iff.1 h
  obtain rfl := Except.ok.inj h
  obtain rfl := mapM_familyBias hbiases
  refine ⟨⟨hend.a, hend.m, hend.activated⟩, ⟨?_, ?_, ?_⟩⟩ <;>
  dsimp only <;>
  rw [List.range_succ, List.map_append, List.map_singleton]
  · rw [hkept.logits, rowAt, htick, hend.getLast_a, List.zipWith_map_right, List.zipWith_self]
    rfl
  · rw [hkept.memory, rowAt, htick]
  · rw [hkept.cognitive, rowAt, htick]

theorem recorded_replayTicks {x x' : Replay p} (before after : List (TrainingReplayTick p))
    (hticks : q.ticks = before ++ after)
    (hstates : g.Recorded weights q x.tape (before.length * p.microstepCount))
    (hrows : g.Rows weights q x.tape before.length)
    (h : after.foldlM (g.replayTick weights q) x = .ok x') :
    g.Recorded weights q x'.tape (q.ticks.length * p.microstepCount) ∧
      g.Rows weights q x'.tape q.ticks.length := by
  induction after generalizing before x with
  | nil =>
    obtain rfl := Except.ok.inj h
    rw [hticks, List.append_nil]
    exact ⟨hstates, hrows⟩
  | cons tick after ih =>
    rw [List.foldlM_cons] at h
    obtain ⟨y, hy, h⟩ := contract_bind_eq_ok_iff.1 h
    have htick : q.ticks[before.length]? = some tick := by rw [hticks]; simp
    obtain ⟨hstates', hrows'⟩ := recorded_replayTick htick hstates hrows hy
    refine ih (before ++ [tick]) (by rw [hticks, List.append_assoc, List.singleton_append]) ?_ ?_ h
    · rwa [List.length_append, List.length_singleton]
    · rwa [List.length_append, List.length_singleton]

/-- **The tape of a replay** holds its states and its candidates' rows. -/
theorem recorded_of_forward {tape : Tape p} (h : g.forward weights q = .ok tape) :
    g.Recorded weights q tape (q.ticks.length * p.microstepCount) ∧
      g.Rows weights q tape q.ticks.length := by
  unfold forward at h
  obtain ⟨x, hx, h⟩ := contract_bind_eq_ok_iff.1 h
  obtain rfl := Except.ok.inj h
  refine recorded_replayTicks [] q.ticks rfl ?_ ?_ hx
  · rw [List.length_nil, Nat.zero_mul]
    exact ⟨rfl, rfl, rfl⟩
  · exact ⟨rfl, rfl, rfl⟩

/-- A window is replayed when the families of its candidates are known. -/
theorem forward_eq_ok_iff :
    (∃ tape, g.forward weights q = .ok tape) ↔
      ∀ tick ∈ q.ticks, ∃ biases, tick.candidates.mapM (familyBias (p := p)) = .ok biases := by
  have htick : ∀ (x : Replay p) (tick : TrainingReplayTick p),
      (∃ x', g.replayTick weights q x tick = .ok x') ↔
        ∃ biases, tick.candidates.mapM (familyBias (p := p)) = .ok biases := by
    intro x tick
    unfold replayTick
    simp only [contract_bind_eq_ok_iff]
    constructor
    · rintro ⟨x', biases, hbiases, -⟩
      exact ⟨biases, hbiases⟩
    · rintro ⟨biases, hbiases⟩
      exact ⟨_, biases, hbiases, rfl⟩
  unfold forward
  simp only [contract_bind_eq_ok_iff]
  rw [← exists_foldlM_eq_ok_iff htick (s := replayStart q)]
  constructor
  · rintro ⟨tape, x, hx, -⟩
    exact ⟨x, hx⟩
  · rintro ⟨x, hx⟩
    exact ⟨x.tape, x, hx, rfl⟩

end SparseGraph

end CpuReplay

end ALife
