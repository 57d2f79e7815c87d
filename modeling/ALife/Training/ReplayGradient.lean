/-
# The learner's gradient is right

`backward` seeds the velocity of every row of the objective and adds the row to the
objective (`seedSpeech_adds`, `seedRow_adds`); the sweep collects the seeds in the
gradient (`gradients_dotProduct`), and the objective moves with the sum of the rows'
velocities (`hasDerivAt_objective`).  So the gradient that `backward` returns is the
gradient of the objective, the state at the burn-in boundary held fixed
(`backward_gradient`).  The targets it accepts are valid and stand after the burn-in
(`accepted_of_backward`), so the weights of their loss are normalised.
-/

import ALife.Training.ReplayObjective
import ALife.Training.SpeechSweep
import Mathlib.Analysis.Calculus.Deriv.Pi
import Mathlib.Analysis.Calculus.Deriv.Prod

namespace ALife

open Machine

namespace CpuReplay

attribute [local instance] atLeastTwo_two

variable {p : BrainPhenotype ℝ}

namespace SparseGraph

variable {g : SparseGraph p} {weights dw : p.Synapse → ℝ} {q : TrainingSequence p}
  {T : ℕ → ReplayState p} {start len : ℕ} {tape : Tape p} {scales : Bool → ℝ}

/-- The velocity of a row's candidates. -/
noncomputable def candidatesTangent (g : SparseGraph p) (weights dw : p.Synapse → ℝ) (gain : ℝ)
    (tick : TrainingReplayTick p) (adjoint : List ℝ) (a da : p.Neuron → ℝ) : ℝ :=
  ((tick.candidates.zip adjoint).map fun r =>
    r.2 * g.logitTangent weights gain dw tick a da r.1).sum

/-- The velocity of a row's speech loss. -/
noncomputable def speechTangentOf (weights dw : p.Synapse → ℝ) (scales : Bool → ℝ)
    (tick : TrainingReplayTick p) (target : Option (ReplaySpeechTarget ℝ))
    (a da : p.Neuron → ℝ) : ℝ :=
  match target with
  | none => 0
  | some target => speechLossTangent weights dw tick a da target scales 6

variable (dw T) in
/-- **A speech target** seeds the velocity of its loss and adds its loss. -/
theorem seedSpeech_adds (hstates : g.Recorded weights q tape (q.ticks.length * p.microstepCount))
    (hstart : start = q.burnInTicks * p.microstepCount)
    (hlen : start + len = q.ticks.length * p.microstepCount) {s s' : Adjoints p} {t : ℕ}
    {tick : TrainingReplayTick p} {target : Option (ReplaySpeechTarget ℝ)}
    (ht : t < q.ticks.length)
    (h : seedSpeech weights q tape scales s ((tick, target), t) = .ok s') :
    s'.total T dw start len = s.total T dw start len + (if t < q.burnInTicks then 0 else
        speechTangentOf weights dw scales tick target (g.endState weights q t).a
          (T ((t + 1) * p.microstepCount)).a) ∧
      s'.objective = s.objective + (if t < q.burnInTicks then 0 else
        speechLossOf weights scales tick target (g.endState weights q t).a) := by
  rcases target with _ | target
  · obtain rfl := Except.ok.inj h
    simp [speechTangentOf, speechLossOf]
  · simp only [seedSpeech, except_bind_eq_ok_iff, failIf_eq_ok_iff] at h
    obtain ⟨_, -, _, hburn, h⟩ := h
    split_ifs at h with hroom
    rw [hstates.get_end ht] at h
    obtain rfl := Except.ok.inj h
    have hk : start ≤ (t + 1) * p.microstepCount :=
      hstart ▸ Nat.mul_le_mul_right _ (by omega)
    have hk' : (t + 1) * p.microstepCount ≤ start + len :=
      hlen ▸ Nat.mul_le_mul_right _ ht
    rw [if_neg hburn, if_neg hburn]
    constructor
    · rw [total_speechSteps hk hk' rfl, pendingValue_zero, add_zero, speechTangentOf]
    · exact objective_speechSteps 6 (0, s)

/-- The loop over a row's candidates. -/
theorem seedCandidates_add (htape : g.forward weights q = .ok tape) {s : Adjoints p} {t : ℕ}
    {tick : TrainingReplayTick p} (htick : q.ticks[t]? = some tick)
    (hk : start ≤ (t + 1) * p.microstepCount) (hk' : (t + 1) * p.microstepCount ≤ start + len)
    (adjoint : List ℝ) :
    ((tick.candidates.zip adjoint).zipIdx.foldl
        (g.seedCandidate weights q.memoryCandidateGain tape tick t) s).total T dw start len
      = s.total T dw start len + g.candidatesTangent weights dw q.memoryCandidateGain tick adjoint
        (g.endState weights q t).a (T ((t + 1) * p.microstepCount)).a ∧
    ((tick.candidates.zip adjoint).zipIdx.foldl
        (g.seedCandidate weights q.memoryCandidateGain tape tick t) s).objective
      = s.objective + g.candidatesObjective weights q tick adjoint (g.endState weights q t).a := by
  obtain ⟨hstates, hrows⟩ := recorded_of_forward htape
  have ht : t < q.ticks.length := (List.getElem?_eq_some_iff.1 htick).1
  have hcandidate : ∀ r ∈ (tick.candidates.zip adjoint).zipIdx,
      tick.candidates[r.2]? = some r.1.1 := by
    rintro ⟨⟨c, x⟩, i⟩ hr
    have hget := List.mk_mem_zipIdx_iff_getElem?.1 hr
    exact (List.getElem?_zip_eq_some.1 hget).1
  have hindices : ∀ F : TrainingReplayCandidate ℝ × ℝ → ℝ,
      ((tick.candidates.zip adjoint).zipIdx.map fun r => F r.1).sum
        = ((tick.candidates.zip adjoint).map F).sum := by
    intro F
    rw [← List.zipIdx_map_fst 0 (tick.candidates.zip adjoint), List.map_map]
    simp only [List.zipIdx_map_fst]
    rfl
  constructor
  · rw [candidatesTangent, ← hindices fun r => r.2 * g.logitTangent weights _ dw tick _ _ r.1]
    refine foldl_add_of_mem (π := Adjoints.total T dw start len) (fun s r hr => ?_) s
    have hget := hcandidate r hr
    refine total_seedCandidate hk hk' tick (hstates.get_end ht) ?_ ?_ s
    · rw [hrows.get_memory ht htick, List.getD_eq_getElem?_getD, List.getElem?_map, hget]
      rfl
    · rw [hrows.get_cognitive ht htick, List.getD_eq_getElem?_getD, List.getElem?_map, hget]
      rfl
  · rw [candidatesObjective,
      ← hindices fun r => r.2 * g.candidateLogit weights _ tick _ r.1 (biasOf (p := p) r.1)]
    refine foldl_add_of_mem (π := Adjoints.objective) (fun s r hr => ?_) s
    rw [objective_seedCandidate, hrows.get_logits ht htick, logitRow,
      List.getD_eq_getElem?_getD, List.getElem?_map, hcandidate r hr]
    rfl

variable (dw T) in
/-- **A candidate row** after the burn-in seeds its velocity and adds its value; one before
it adds nothing. -/
theorem seedRow_adds (htape : g.forward weights q = .ok tape)
    (hstart : start = q.burnInTicks * p.microstepCount)
    (hlen : start + len = q.ticks.length * p.microstepCount) {s s' : Adjoints p} {t : ℕ}
    {tick : TrainingReplayTick p} {adjoint : List ℝ} (htick : q.ticks[t]? = some tick)
    (h : g.seedRow weights q tape s ((tick, adjoint), t) = .ok s') :
    s'.total T dw start len = s.total T dw start len + (if t < q.burnInTicks then 0 else
        g.candidatesTangent weights dw q.memoryCandidateGain tick adjoint
          (g.endState weights q t).a (T ((t + 1) * p.microstepCount)).a) ∧
      s'.objective = s.objective + (if t < q.burnInTicks then 0 else
        g.candidatesObjective weights q tick adjoint (g.endState weights q t).a) := by
  have ht : t < q.ticks.length := (List.getElem?_eq_some_iff.1 htick).1
  simp only [seedRow, except_bind_eq_ok_iff] at h
  obtain ⟨_, -, h⟩ := h
  split_ifs at h ⊢ with hburn
  · simp only [except_bind_eq_ok_iff] at h
    obtain ⟨_, -, h⟩ := h
    obtain rfl := Except.ok.inj h
    exact ⟨(add_zero _).symm, (add_zero _).symm⟩
  · obtain rfl := Except.ok.inj h
    exact seedCandidates_add htape htick (hstart ▸ Nat.mul_le_mul_right _ (by omega))
      (hlen ▸ Nat.mul_le_mul_right _ ht) adjoint

/-- A sum over all ticks that skips the burn-in. -/
theorem sum_after_burnIn {n b : ℕ} (h : b ≤ n) (G : ℕ → ℝ) :
    ∑ t ∈ Finset.range n, (if t < b then 0 else G t) = ∑ j ∈ Finset.range (n - b), G (b + j) := by
  conv_lhs => rw [← Nat.add_sub_cancel' h, Finset.sum_range_add]
  rw [Finset.sum_congr rfl fun t ht => if_pos (Finset.mem_range.1 ht), Finset.sum_const_zero,
    zero_add]
  exact Finset.sum_congr rfl fun j _ => if_neg (by omega)

/-- A value of the ticks after the burn-in with what is listed beside them, summed. -/
noncomputable def sumRows {α : Type} (q : TrainingSequence p) (l : List α) (none_ : α)
    (F : TrainingReplayTick p → α → ℕ → ℝ) : ℝ :=
  ∑ j ∈ Finset.range (q.ticks.length - q.burnInTicks),
    match q.ticks[q.burnInTicks + j]? with
    | none => 0
    | some tick => F tick (l.getD (q.burnInTicks + j) none_) (q.burnInTicks + j)

theorem sum_map_rows {α : Type} {l : List α} (hl : l.length = q.ticks.length)
    (hburn : q.burnInTicks ≤ q.ticks.length) (none_ : α)
    (F : TrainingReplayTick p → α → ℕ → ℝ) :
    ((q.ticks.zip l).zipIdx.map fun r => if r.2 < q.burnInTicks then 0
        else F r.1.1 r.1.2 r.2).sum = sumRows q l none_ F := by
  rw [sum_map_zipIdx fun i x hx => ?_, List.length_zip, hl, min_self,
    sum_after_burnIn hburn fun t => match q.ticks[t]? with
      | none => 0
      | some tick => F tick (l.getD t none_) t, sumRows]
  obtain ⟨htick, hx⟩ := List.getElem?_zip_eq_some.1 hx
  simp only [htick, List.getD_eq_getElem?_getD, hx, Option.getD_some]

/-- The tick and the listed value of a numbered row. -/
theorem getElem?_of_mem_rows {α : Type} {l : List α} {r : (TrainingReplayTick p × α) × ℕ}
    (h : r ∈ (q.ticks.zip l).zipIdx) : q.ticks[r.2]? = some r.1.1 ∧ l[r.2]? = some r.1.2 :=
  List.getElem?_zip_eq_some.1 (List.mk_mem_zipIdx_iff_getElem?.1 h)

variable {adjoints : List (List ℝ)} {targets : List (Option (ReplaySpeechTarget ℝ))}

variable (dw T) in
/-- **The speech targets** seed the velocities of their losses and add their losses. -/
theorem speechBackward_adds (hburn : q.burnInTicks ≤ q.ticks.length)
    (hstates : g.Recorded weights q tape (q.ticks.length * p.microstepCount))
    (hstart : start = q.burnInTicks * p.microstepCount)
    (hlen : start + len = q.ticks.length * p.microstepCount)
    (htargets : targets.length = q.ticks.length) {s s' : Adjoints p}
    (h : speechBackward weights q tape targets s = .ok s') :
    s'.total T dw start len = s.total T dw start len + sumRows q targets none (fun tick target t =>
        speechTangentOf weights dw (replaySpeechLossScales targets) tick target
          (g.endState weights q t).a (T ((t + 1) * p.microstepCount)).a) ∧
      s'.objective = s.objective + sumRows q targets none (fun tick target t =>
        speechLossOf weights (replaySpeechLossScales targets) tick target
          (g.endState weights q t).a) := by
  have hrow : ∀ (s s' : Adjoints p), ∀ r ∈ (q.ticks.zip targets).zipIdx,
      seedSpeech weights q tape (replaySpeechLossScales targets) s r = .ok s' → _ ∧ _ :=
    fun s s' r hr h => seedSpeech_adds dw T hstates hstart hlen
      (List.getElem?_eq_some_iff.1 (getElem?_of_mem_rows hr).1).1 h
  rw [← sum_map_rows htargets hburn, ← sum_map_rows htargets hburn]
  exact ⟨foldlM_add_of_mem (fun s s' r hr h => (hrow s s' r hr h).1) h,
    foldlM_add_of_mem (fun s s' r hr h => (hrow s s' r hr h).2) h⟩

variable (dw T) in
/-- **The candidate rows** seed their velocities and add their values. -/
theorem seedRows_add (hburn : q.burnInTicks ≤ q.ticks.length)
    (htape : g.forward weights q = .ok tape)
    (hstart : start = q.burnInTicks * p.microstepCount)
    (hlen : start + len = q.ticks.length * p.microstepCount)
    (hadjoints : adjoints.length = q.ticks.length) {s s' : Adjoints p}
    (h : (q.ticks.zip adjoints).zipIdx.foldlM (g.seedRow weights q tape) s = .ok s') :
    s'.total T dw start len = s.total T dw start len + sumRows q adjoints [] (fun tick adjoint t =>
        g.candidatesTangent weights dw q.memoryCandidateGain tick adjoint
          (g.endState weights q t).a (T ((t + 1) * p.microstepCount)).a) ∧
      s'.objective = s.objective + sumRows q adjoints [] (fun tick adjoint t =>
        g.candidatesObjective weights q tick adjoint (g.endState weights q t).a) := by
  have hrow : ∀ (s s' : Adjoints p), ∀ r ∈ (q.ticks.zip adjoints).zipIdx,
      g.seedRow weights q tape s r = .ok s' → _ ∧ _ :=
    fun s s' r hr h => seedRow_adds dw T htape hstart hlen
      (getElem?_of_mem_rows hr).1 h
  rw [← sum_map_rows hadjoints hburn, ← sum_map_rows hadjoints hburn]
  exact ⟨foldlM_add_of_mem (fun s s' r hr h => (hrow s s' r hr h).1) h,
    foldlM_add_of_mem (fun s s' r hr h => (hrow s s' r hr h).2) h⟩

/-- What `backward` does, when it returns: it seeds the rows and sweeps. -/
theorem of_backward {probe : TrainingGradientProbe p}
    (h : g.backward weights q tape adjoints targets = .ok probe) :
    adjoints.length = q.ticks.length ∧ targets.length = q.ticks.length ∧ ∃ s s' : Adjoints p,
      speechBackward weights q tape targets ⟨0, 0, 0, 0⟩ = .ok s ∧
      (q.ticks.zip adjoints).zipIdx.foldlM (g.seedRow weights q tape) s = .ok s' ∧
      probe.objective = (sweep (g.backwardStep weights q tape) (q.burnInTicks * p.microstepCount)
        ((q.ticks.length - q.burnInTicks) * p.microstepCount) s').objective ∧
      probe.gradients = (sweep (g.backwardStep weights q tape) (q.burnInTicks * p.microstepCount)
        ((q.ticks.length - q.burnInTicks) * p.microstepCount) s').gradients := by
  simp only [backward, except_bind_eq_ok_iff, failIf_eq_ok_iff, not_or, not_not] at h
  obtain ⟨_, ⟨hadjoints, htargets⟩, s, hs, s', hs', h⟩ := h
  obtain rfl := Except.ok.inj h
  exact ⟨hadjoints, htargets, s, s', hs, hs', rfl, rfl⟩

/-- The sweep adds nothing to the objective. -/
theorem objective_backwardStep (s : Adjoints p) (k : ℕ) :
    (g.backwardStep weights q tape s k).objective = s.objective := by
  have hsynapse : ∀ (tick : TrainingReplayTick p) (step state : ℕ) (a δ : p.Neuron → ℝ)
      (target : p.Neuron) (s : Adjoints p) (id : p.Synapse),
      (sweepSynapse weights tick step a δ state target s id).objective = s.objective := by
    intro tick step state a δ target s id
    unfold sweepSynapse
    split_ifs <;> rfl
  have hedge : ∀ (tick : TrainingReplayTick p) (step state : ℕ) (δ : p.Neuron → ℝ)
      (s : Adjoints p) (e : TrainingFrozenSynapse p),
      (sweepEdge tick step δ state s e).objective = s.objective := by
    intro tick step state δ s e
    unfold sweepEdge
    split_ifs <;> rfl
  have hbranch : ∀ (tick : TrainingReplayTick p) (state : ℕ) (a δ : p.Neuron → ℝ)
      (s : Adjoints p) (b : DendriticBranch ℝ p.neuronCount),
      (sweepBranch tick a δ state s b).objective = s.objective := by
    intro tick state a δ s b
    unfold sweepBranch
    split_ifs
    · refine foldl_keeps (π := Adjoints.objective) (fun _ _ => ?_) b.inputs s
      rfl
    · rfl
  unfold backwardStep
  split
  · rfl
  · dsimp only
    split_ifs
    · rfl
    · rw [foldl_keeps (π := Adjoints.objective) (hbranch _ _ _ _),
        foldl_keeps (π := Adjoints.objective) (hedge _ _ _ _),
        foldl_keeps (π := Adjoints.objective)
          fun s target => foldl_keeps (π := Adjoints.objective) (hsynapse _ _ _ _ _ target) _ s]
      rfl

/-- The velocity of the state with index `k`, from the burn-in boundary on. -/
noncomputable def windowTangent (g : SparseGraph p) (weights dw : p.Synapse → ℝ)
    (q : TrainingSequence p) (boundary : ReplayState p) (k : ℕ) : ReplayState p :=
  g.tangentAt weights dw (q.detached boundary) (k - q.burnInTicks * p.microstepCount)

section Boundary

variable {boundary : ReplayState p}

theorem windowTangent_succ
    (hboundary : boundary = g.stateAt weights q (q.burnInTicks * p.microstepCount)) {k : ℕ}
    (hk : q.burnInTicks * p.microstepCount ≤ k) {tick : TrainingReplayTick p}
    (htick : q.ticks[k / p.microstepCount]? = some tick) :
    g.windowTangent weights dw q boundary (k + 1)
      = g.tangentStep weights dw q.initial.dendrites tick (k % p.microstepCount)
        (g.stateAt weights q k) (g.windowTangent weights dw q boundary k) := by
  obtain ⟨j, rfl⟩ := Nat.exists_eq_add_of_le hk
  rw [boundary_add_div] at htick
  unfold windowTangent
  rw [Nat.add_assoc, Nat.add_sub_cancel_left, Nat.add_sub_cancel_left, tangentAt,
    detached_ticks_getElem?, htick, stateAt_detached hboundary, boundary_add_mod]
  rfl

/-- **The gradient collects the seeds**: paired with the velocity of the weights it is the
sum of the velocities of the rows. -/
theorem gradients_dotProduct (hburn : q.burnInTicks ≤ q.ticks.length)
    (hstates : g.Recorded weights q tape (q.ticks.length * p.microstepCount))
    (hboundary : boundary = g.stateAt weights q (q.burnInTicks * p.microstepCount))
    (s : Adjoints p) :
    (sweep (g.backwardStep weights q tape) (q.burnInTicks * p.microstepCount)
        ((q.ticks.length - q.burnInTicks) * p.microstepCount) s).gradients ⬝ᵥ dw
      = s.total (g.windowTangent weights dw q boundary) dw (q.burnInTicks * p.microstepCount)
        ((q.ticks.length - q.burnInTicks) * p.microstepCount) := by
  have hwhole : q.burnInTicks * p.microstepCount
      + (q.ticks.length - q.burnInTicks) * p.microstepCount
      = q.ticks.length * p.microstepCount := by
    rw [← Nat.add_mul, Nat.add_sub_cancel' hburn]
  have hback : ∀ k, q.burnInTicks * p.microstepCount ≤ k →
      k < q.burnInTicks * p.microstepCount
        + (q.ticks.length - q.burnInTicks) * p.microstepCount →
      HandsBack (fun s j => s.rowValue (g.windowTangent weights dw q boundary) j)
        (Adjoints.paramValue dw) (g.backwardStep weights q tape) k :=
    fun k hk hk' => handsBack hstates (hwhole ▸ hk') fun tick htick =>
      windowTangent_succ hboundary hk htick
  have hduality := sweep_duality hback s
  have hfirst : g.windowTangent weights dw q boundary (q.burnInTicks * p.microstepCount)
      = ⟨0, 0⟩ := by
    rw [windowTangent, Nat.sub_self, tangentAt]
  simp only [Adjoints.rowValue, hfirst, dotProduct_zero, add_zero, zero_add] at hduality
  exact hduality

/-- The window after its burn-in is away from the kinks of its steps and of the clamps of
its candidates. -/
structure Smooth (g : SparseGraph p) (weights : p.Synapse → ℝ) (q : TrainingSequence p)
    (tape : Tape p) : Prop where
  step : ∀ k tick, q.burnInTicks * p.microstepCount ≤ k →
    q.ticks[k / p.microstepCount]? = some tick → k % p.microstepCount < tick.microstepCount →
      g.SmoothStep weights q.initial.dendrites tick (k % p.microstepCount)
        ⟨tape.a.getD k 0, tape.m.getD k 0⟩
  candidate : ∀ t tick, q.burnInTicks ≤ t → q.ticks[t]? = some tick →
    ∀ c ∈ tick.candidates, g.SmoothCandidate weights q.memoryCandidateGain tick c

theorem Smooth.upTo (h : g.Smooth weights q tape)
    (hstates : g.Recorded weights q tape (q.ticks.length * p.microstepCount))
    (hboundary : boundary = g.stateAt weights q (q.burnInTicks * p.microstepCount)) (k : ℕ) :
    g.SmoothUpTo weights (q.detached boundary) k := by
  intro j _ tick htick hdue
  rw [detached_ticks_getElem?, ← boundary_add_div] at htick
  have hlt : q.burnInTicks * p.microstepCount + j < q.ticks.length * p.microstepCount := by
    have := (List.getElem?_eq_some_iff.1 htick).1
    rwa [Nat.div_lt_iff_lt_mul p.microstepCount_pos] at this
  have hstep := h.step (q.burnInTicks * p.microstepCount + j) tick (Nat.le_add_right _ _) htick
    (by rwa [boundary_add_mod])
  rw [boundary_add_mod, hstates.get_a hlt.le, hstates.get_m hlt.le] at hstep
  rw [stateAt_detached hboundary]
  exact hstep

/-- **The objective moves** with the sum of the velocities of its rows. -/
theorem hasDerivAt_objective {W : ℝ → p.Synapse → ℝ} {x : ℝ} (hx : W x = weights)
    (hW : ∀ id, HasDerivAt (fun y => W y id) (dw id) x) (hgain : 0 ≤ q.memoryCandidateGain)
    (htape : g.forward weights q = .ok tape)
    (hboundary : boundary = g.stateAt weights q (q.burnInTicks * p.microstepCount))
    (hsmooth : g.Smooth weights q tape) (scales : Bool → ℝ) :
    HasDerivAt (fun y => g.objective (q.detached boundary) scales
        (adjoints.drop q.burnInTicks) (targets.drop q.burnInTicks) (W y))
      (sumRows q adjoints [] (fun tick adjoint t =>
          g.candidatesTangent weights dw q.memoryCandidateGain tick adjoint
            (g.endState weights q t).a
            (g.windowTangent weights dw q boundary ((t + 1) * p.microstepCount)).a)
        + sumRows q targets none (fun tick target t =>
          speechTangentOf weights dw scales tick target (g.endState weights q t).a
            (g.windowTangent weights dw q boundary ((t + 1) * p.microstepCount)).a)) x := by
  obtain ⟨hstates, -⟩ := recorded_of_forward htape
  simp only [objective_detached ⟨tape, htape⟩]
  rw [sumRows, sumRows, ← Finset.sum_add_distrib]
  refine HasDerivAt.fun_sum fun j hj => ?_
  rcases htick : q.ticks[q.burnInTicks + j]? with _ | tick
  · simpa only [add_zero] using hasDerivAt_const x (0 : ℝ)
  dsimp only
  have hsteps : (q.burnInTicks + j + 1) * p.microstepCount
      = q.burnInTicks * p.microstepCount + (j + 1) * p.microstepCount := by ring
  have hmoves := moves_stateAt (g := g) (q := q.detached boundary) hW
    (hx ▸ hsmooth.upTo hstates hboundary ((j + 1) * p.microstepCount))
  have hend : g.stateAt (W x) (q.detached boundary) ((j + 1) * p.microstepCount)
      = g.endState weights q (q.burnInTicks + j) := by
    rw [hx, stateAt_detached hboundary, endState, hsteps]
  have htangent : g.tangentAt (W x) dw (q.detached boundary) ((j + 1) * p.microstepCount)
      = g.windowTangent weights dw q boundary ((q.burnInTicks + j + 1) * p.microstepCount) := by
    rw [windowTangent, hsteps, Nat.add_sub_cancel_left, hx]
  rw [htangent] at hmoves
  refine HasDerivAt.fun_add ?_ ?_
  · refine hasDerivAt_list_sum fun r hr => ?_
    have hc : r.1 ∈ tick.candidates := (List.of_mem_zip hr).1
    have hlogit := hasDerivAt_candidateLogit (g := g) hW hmoves hgain
      (hx ▸ hsmooth.candidate _ tick (Nat.le_add_right _ _) htick r.1 hc) (biasOf (p := p) r.1)
    rw [hend, hx] at hlogit
    exact hlogit.const_mul r.2
  · rcases targets.getD (q.burnInTicks + j) none with _ | target
    · exact hasDerivAt_const x 0
    · have hloss := hasDerivAt_speechLoss hW hmoves.a tick target scales
      rw [hend, hx] at hloss
      exact hloss

end Boundary

/-- What `backward` returns: the objective, and its derivative along every path of the
weights. -/
theorem gradient_of_backward (hburn : q.burnInTicks ≤ q.ticks.length)
    (hgain : 0 ≤ q.memoryCandidateGain) (hforward : g.forward weights q = .ok tape)
    {probe : TrainingGradientProbe p}
    (hbackward : g.backward weights q tape adjoints targets = .ok probe) :
    probe.objective = g.objective (q.detached (q.boundary tape)) (replaySpeechLossScales targets)
        (adjoints.drop q.burnInTicks) (targets.drop q.burnInTicks) weights ∧
      (g.Smooth weights q tape → ∀ (W : ℝ → p.Synapse → ℝ) (dw : p.Synapse → ℝ) (x : ℝ),
        W x = weights → (∀ id, HasDerivAt (fun y => W y id) (dw id) x) →
        HasDerivAt (fun y => g.objective (q.detached (q.boundary tape))
            (replaySpeechLossScales targets) (adjoints.drop q.burnInTicks)
            (targets.drop q.burnInTicks) (W y))
          (probe.gradients ⬝ᵥ dw) x) := by
  obtain ⟨hstates, hrows⟩ := recorded_of_forward hforward
  obtain ⟨hadjoints, htargets, s, s', hs, hs', hobjective, hgradients⟩ := of_backward hbackward
  have hboundary : q.boundary tape = g.stateAt weights q (q.burnInTicks * p.microstepCount) := by
    have hle := Nat.mul_le_mul_right p.microstepCount hburn
    rw [TrainingSequence.boundary, hstates.get_a hle, hstates.get_m hle]
  have hwhole : q.burnInTicks * p.microstepCount
      + (q.ticks.length - q.burnInTicks) * p.microstepCount
      = q.ticks.length * p.microstepCount := by
    rw [← Nat.add_mul, Nat.add_sub_cancel' hburn]
  constructor
  · obtain ⟨-, hspeech⟩ := speechBackward_adds 0 (fun _ => ⟨0, 0⟩) hburn hstates rfl
      hwhole htargets hs
    obtain ⟨-, hcandidates⟩ := seedRows_add 0 (fun _ => ⟨0, 0⟩) hburn hforward rfl
      hwhole hadjoints hs'
    rw [hobjective, sweep_keeps (π := Adjoints.objective) objective_backwardStep, hcandidates,
      hspeech, zero_add, objective_detached ⟨tape, hforward⟩, sumRows, sumRows, add_comm,
      ← Finset.sum_add_distrib]
    refine Finset.sum_congr rfl fun j _ => ?_
    rcases q.ticks[q.burnInTicks + j]? with _ | tick
    · exact add_zero 0
    · have hend : g.endState weights (q.detached (q.boundary tape)) j
          = g.endState weights q (q.burnInTicks + j) := by
        rw [endState, stateAt_detached hboundary, endState]
        congr 1
        ring
      rw [hend]
      rfl
  · intro hsmooth W dw x hx hW
    obtain ⟨hspeech, -⟩ := speechBackward_adds
      dw (g.windowTangent weights dw q (q.boundary tape)) hburn hstates rfl hwhole
      htargets hs
    obtain ⟨hcandidates, -⟩ := seedRows_add
      dw (g.windowTangent weights dw q (q.boundary tape)) hburn hforward rfl hwhole
      hadjoints hs'
    have hstart : (⟨0, 0, 0, 0⟩ : Adjoints p).total
        (g.windowTangent weights dw q (q.boundary tape)) dw (q.burnInTicks * p.microstepCount)
        ((q.ticks.length - q.burnInTicks) * p.microstepCount) = 0 := by
      simp [Adjoints.total, Adjoints.rowValue, Adjoints.paramValue]
    rw [hgradients, gradients_dotProduct hburn hstates hboundary, hcandidates, hspeech, hstart,
      zero_add, add_comm]
    exact hasDerivAt_objective hx hW hgain hforward hboundary hsmooth _

/-- A speech target is seeded when it is valid, after the burn-in, and the speech decoder has
its neurons. -/
theorem exists_seedSpeech_iff (s : Adjoints p)
    (r : (TrainingReplayTick p × Option (ReplaySpeechTarget ℝ)) × ℕ) :
    (∃ s', seedSpeech weights q tape scales s r = .ok s') ↔ ∀ target ∈ r.1.2,
      target.validate = .ok () ∧ q.burnInTicks ≤ r.2 ∧
        p.speechSourceStart + 32 ≤ p.neuronCount := by
  obtain ⟨⟨tick, _ | target⟩, t⟩ := r
  · exact ⟨fun _ _ h => absurd h (Option.not_mem_none _), fun _ => ⟨s, rfl⟩⟩
  · simp only [seedSpeech, except_bind_eq_ok_iff, failIf_eq_ok_iff, Option.mem_some_iff,
      forall_eq', not_lt]
    constructor
    · rintro ⟨s', _, hvalid, _, hburn, h⟩
      split_ifs at h with hroom
      exact ⟨ofContract_eq_ok_iff.1 hvalid, hburn, hroom⟩
    · rintro ⟨hvalid, hburn, hroom⟩
      exact ⟨_, (), ofContract_eq_ok_iff.2 hvalid, (), hburn, dif_pos hroom⟩

/-- A candidate row is seeded when it has an adjoint for each candidate, during the burn-in
only zeros. -/
theorem exists_seedRow_iff (s : Adjoints p) (r : (TrainingReplayTick p × List ℝ) × ℕ) :
    (∃ s', g.seedRow weights q tape s r = .ok s') ↔
      r.1.2.length = r.1.1.candidates.length ∧ (r.2 < q.burnInTicks → ∀ x ∈ r.1.2, x = 0) := by
  simp only [seedRow, except_bind_eq_ok_iff, failIf_eq_ok_iff, not_not]
  split_ifs with hburn
  · simp only [except_bind_eq_ok_iff, failIf_eq_ok_iff, not_exists, not_and, not_not]
    constructor
    · rintro ⟨_, _, hlength, _, hzero, _⟩
      exact ⟨hlength, fun _ => hzero⟩
    · rintro ⟨hlength, hzero⟩
      exact ⟨s, (), hlength, (), hzero hburn, rfl⟩
  · constructor
    · rintro ⟨_, _, hlength, _⟩
      exact ⟨hlength, fun h => absurd h hburn⟩
    · rintro ⟨hlength, -⟩
      exact ⟨_, (), hlength, rfl⟩

/-- What `backward` accepts. -/
theorem exists_backward_iff :
    (∃ probe, g.backward weights q tape adjoints targets = .ok probe) ↔
      (adjoints.length = q.ticks.length ∧ targets.length = q.ticks.length) ∧
      (∀ r ∈ (q.ticks.zip targets).zipIdx, ∀ target ∈ r.1.2, target.validate = .ok () ∧
        q.burnInTicks ≤ r.2 ∧ p.speechSourceStart + 32 ≤ p.neuronCount) ∧
      ∀ r ∈ (q.ticks.zip adjoints).zipIdx, r.1.2.length = r.1.1.candidates.length ∧
        (r.2 < q.burnInTicks → ∀ x ∈ r.1.2, x = 0) := by
  have hspeech (s : Adjoints p) : (∃ s', (q.ticks.zip targets).zipIdx.foldlM
      (seedSpeech weights q tape (replaySpeechLossScales targets)) s = .ok s') ↔ _ :=
    exists_foldlM_eq_ok_iff exists_seedSpeech_iff
  have hrows (s : Adjoints p) : (∃ s', (q.ticks.zip adjoints).zipIdx.foldlM
      (g.seedRow weights q tape) s = .ok s') ↔ _ :=
    exists_foldlM_eq_ok_iff exists_seedRow_iff
  simp only [backward, except_bind_eq_ok_iff, failIf_eq_ok_iff, not_or, not_not]
  rw [← hspeech ⟨0, 0, 0, 0⟩]
  constructor
  · rintro ⟨_, _, hlengths, s, hs, s', hs', -⟩
    exact ⟨hlengths, ⟨s, hs⟩, (hrows s).1 ⟨s', hs'⟩⟩
  · rintro ⟨hlengths, ⟨s, hs⟩, hadjoints⟩
    obtain ⟨s', hs'⟩ := (hrows s).2 hadjoints
    exact ⟨_, (), hlengths, s, hs, s', hs', rfl⟩

/-- The targets that `backward` accepts are valid, and none stands in the burn-in. -/
theorem accepted_of_backward {probe : TrainingGradientProbe p}
    (h : g.backward weights q tape adjoints targets = .ok probe) :
    (∀ target, some target ∈ targets → target.validate = .ok ()) ∧
      targets.filterMap id = (targets.drop q.burnInTicks).filterMap id := by
  obtain ⟨⟨-, hlength⟩, hspeech, -⟩ := exists_backward_iff.1 ⟨probe, h⟩
  have hrow : ∀ t target, targets[t]? = some (some target) →
      target.validate = .ok () ∧ q.burnInTicks ≤ t := by
    intro t target ht
    have hlt : t < q.ticks.length := hlength ▸ (List.getElem?_eq_some_iff.1 ht).1
    have hmem : ((q.ticks[t], some target), t) ∈ (q.ticks.zip targets).zipIdx :=
      List.mk_mem_zipIdx_iff_getElem?.2
        (List.getElem?_zip_eq_some.2 ⟨List.getElem?_eq_getElem hlt, ht⟩)
    obtain ⟨hvalid, hburn, -⟩ := hspeech _ hmem target rfl
    exact ⟨hvalid, hburn⟩
  constructor
  · intro target hmem
    obtain ⟨t, ht⟩ := List.mem_iff_getElem?.1 hmem
    exact (hrow t target ht).1
  · have hburnIn : (targets.take q.burnInTicks).filterMap id = [] := by
      refine List.filterMap_eq_nil_iff.2 fun target hmem => ?_
      obtain ⟨t, ht⟩ := List.mem_iff_getElem?.1 hmem
      rw [List.getElem?_take] at ht
      split_ifs at ht with hlt
      rcases target with _ | target
      · rfl
      · exact absurd (hrow t target ht).2 (by omega)
    conv_lhs => rw [← List.take_append_drop q.burnInTicks targets, List.filterMap_append,
      hburnIn, List.nil_append]

/-- The scales of the targets that `backward` accepts are those of the targets after the
burn-in. -/
theorem scales_of_backward {probe : TrainingGradientProbe p}
    (h : g.backward weights q tape adjoints targets = .ok probe) :
    replaySpeechLossScales targets = replaySpeechLossScales (targets.drop q.burnInTicks) := by
  have hmass : ∀ silence, speechMass targets silence
      = speechMass (targets.drop q.burnInTicks) silence := by
    intro silence
    rw [speechMass, (accepted_of_backward h).2, speechMass]
  funext silence
  simp only [replaySpeechLossScales, hmass]

/-- **The learner's gradient is right.**  On the tape of the forward replay of an accepted
window, `backward` returns the objective, and for every weight the partial derivative of the
objective with the state at the burn-in boundary held fixed, wherever no rectifier, clamp
or dendrite threshold is at its kink.  The speech loss of the objective is normalised: the
classes that its targets have share a budget of one, and the other has no scale. -/
theorem backward_gradient (cadence : Bool) (weights : p.Synapse → ℝ) (q : TrainingSequence p)
    (adjoints : List (List ℝ)) (targets : List (Option (ReplaySpeechTarget ℝ))) (tape : Tape p)
    (probe : TrainingGradientProbe p) (hq : q.validateFor = .ok ())
    (hforward : ((SparseGraph.new p).setCadenceRows cadence).forward weights q = .ok tape)
    (hbackward : ((SparseGraph.new p).setCadenceRows cadence).backward weights q tape adjoints
      targets = .ok probe) :
    probe.objective = ((SparseGraph.new p).setCadenceRows cadence).objective
        (q.detached (q.boundary tape)) (replaySpeechLossScales targets)
        (adjoints.drop q.burnInTicks) (targets.drop q.burnInTicks) weights ∧
      (∀ silence,
        (silence ∈ presentClasses (targets.drop q.burnInTicks) →
          classWeight (replaySpeechLossScales targets) (targets.drop q.burnInTicks) silence
            = 1 / ((presentClasses (targets.drop q.burnInTicks)).length : ℝ)) ∧
        (silence ∉ presentClasses (targets.drop q.burnInTicks) →
          replaySpeechLossScales targets silence = 0)) ∧
      (((SparseGraph.new p).setCadenceRows cadence).Smooth weights q tape → ∀ id,
        HasDerivAt (fun x => ((SparseGraph.new p).setCadenceRows cadence).objective
            (q.detached (q.boundary tape)) (replaySpeechLossScales targets)
            (adjoints.drop q.burnInTicks) (targets.drop q.burnInTicks)
            (Function.update weights id x))
          (probe.gradients id) (weights id)) := by
  obtain ⟨hburn, hgain⟩ := TrainingSequence.of_validateFor hq
  obtain ⟨hobjective, hderiv⟩ := gradient_of_backward hburn.le hgain hforward hbackward
  obtain ⟨hvalid, -⟩ := accepted_of_backward hbackward
  refine ⟨hobjective, fun silence => ?_, fun hsmooth id => ?_⟩
  · rw [scales_of_backward hbackward]
    exact classWeight_replaySpeechLossScales
      (fun target hmem => hvalid target (List.mem_of_mem_drop hmem)) silence
  · have hpath := hderiv hsmooth (Function.update weights id) (Pi.single id 1) (weights id)
      (Function.update_eq_self id weights)
      fun j => hasDerivAt_pi.1 (hasDerivAt_update weights id (weights id)) j
    rwa [dotProduct_single_one] at hpath

theorem neZero_sampleNeurons : NeZero 192 := ⟨by decide⟩

attribute [local instance] neZero_sampleNeurons

/-- A neuron that excites another, which decides one candidate, and a speech decoder of one
synapse. -/
def sampleSynapses : Fin 3 → CompiledSynapse 192 1 :=
  ![⟨0, 1, 0, .recurrent⟩, ⟨1, 2, 0, .decoder ⟨.actionCandidate, .idle, 0, 0⟩⟩,
    ⟨128, 160, 0, .decoder ⟨.speechPayload, .other, 0, 0⟩⟩]

theorem sampleSynapses_decoder {id : Fin 3} {c : DecoderSynapseCoordinate}
    (h : (sampleSynapses id).kind = .decoder c) :
    c = ⟨.actionCandidate, .idle, 0, 0⟩ ∨ id = 2 ∧ c = ⟨.speechPayload, .other, 0, 0⟩ := by
  fin_cases id
  · exact absurd h CompiledSynapseKind.noConfusion
  · exact Or.inl (CompiledSynapseKind.decoder.inj h).symm
  · exact Or.inr ⟨rfl, (CompiledSynapseKind.decoder.inj h).symm⟩

/-- A phenotype with a speech decoder and without memory channel. -/
def samplePhenotype (R : Type) [Field R] : BrainPhenotype R where
  phenotypeHash := ⟨0, 0, 0, 0⟩
  neuronCount := 192
  microstepCount := 2
  microstepCount_pos := Nat.two_pos
  routeCount := 1
  projections _ := ⟨.hot60Hz, 0⟩
  synapseCount := 3
  synapses := sampleSynapses
  neuronDynamics i := ⟨1, 1, if i = 0 then .relu else .identity, 0, 1, if i = 1 then 1 else 0⟩
  candidateDecoder := ⟨0, none, [⟨.idle, 0⟩]⟩
  inputLane_lt id c h _ := by
    rcases sampleSynapses_decoder h with rfl | ⟨-, rfl⟩ <;> decide
  speech_coordinate id c h hhead := by
    rcases sampleSynapses_decoder h with rfl | ⟨rfl, rfl⟩
    · cases hhead
    · exact ⟨by decide, by decide, rfl, rfl⟩

section Sample

variable (R : Type) [Field R]

/-- A neuron of the phenotype. -/
def sampleNeuron (i : Fin 192) : (samplePhenotype R).Neuron := i

/-- A tick of so many microsteps, with an edge onto the input of the speech decoder. -/
def sampleTick (steps : ℕ) : TrainingReplayTick (samplePhenotype R) where
  encodedInputs _ := 0
  projectionGain := 1
  localThresholdShift := 0
  microstepCount := steps
  enabledRoutes _ := true
  effectiveWeightOffsets _ := 0
  structuralSynapses := [⟨sampleNeuron R 0, sampleNeuron R 128, Fin.ofNat 1 0, 0, 1⟩]
  candidates := [⟨.idle, fun _ => 1, 0⟩]

/-- A window whose first tick burns in and whose last stops early, with a dendrite onto the
second neuron. -/
def sampleWindow : TrainingSequence (samplePhenotype R) where
  phenotypeHash := ⟨0, 0, 0, 0⟩
  initial := ⟨fun _ => 1, fun _ => 0, fun _ => 1 / 2,
    ⟨[⟨sampleNeuron R 1, 1 / 2, 1, [⟨sampleNeuron R 0, 1⟩]⟩], List.pairwise_singleton _ _⟩⟩
  ticks := [sampleTick R 2, sampleTick R 2, sampleTick R 1]
  burnInTicks := 1
  memoryCandidateGain := 0

/-- An utterance of two tokens. -/
def sampleUtterance : ReplaySpeechTarget R := ⟨some 7, [3, 0, 0, 0, 0], rfl, .request, 2⟩

def sampleSilence : ReplaySpeechTarget R := ⟨none, [0, 0, 0, 0, 0], rfl, .declare, 1⟩

/-- No target for the burn-in. -/
def sampleTargets : List (Option (ReplaySpeechTarget R)) :=
  [none, some (sampleUtterance R), some (sampleSilence R)]

def sampleGraph : SparseGraph (samplePhenotype R) :=
  (SparseGraph.new (samplePhenotype R)).setCadenceRows false

end Sample

theorem mem_sampleWindow_ticks {tick : TrainingReplayTick (samplePhenotype ℝ)}
    (h : tick ∈ (sampleWindow ℝ).ticks) : ∃ steps, steps ≤ 2 ∧ tick = sampleTick ℝ steps := by
  simp only [sampleWindow, List.mem_cons, List.not_mem_nil, or_false] at h
  rcases h with rfl | rfl | rfl
  · exact ⟨2, le_rfl, rfl⟩
  · exact ⟨2, le_rfl, rfl⟩
  · exact ⟨1, one_le_two, rfl⟩

/-- Nothing drives the first neuron but its bias. -/
theorem sampleGraph_preactivation (weights : (samplePhenotype ℝ).Synapse → ℝ) (steps step : ℕ)
    (a m : (samplePhenotype ℝ).Neuron → ℝ) :
    (sampleGraph ℝ).preactivation weights (sampleWindow ℝ).initial.dendrites
      (sampleTick ℝ steps) step a m (sampleNeuron ℝ 0) = 1 := by
  have hincoming : (sampleGraph ℝ).incomingAt (sampleNeuron ℝ 0) step = [] := rfl
  have hbranches : (sampleWindow ℝ).initial.dendrites.branchesAt (sampleNeuron ℝ 0) = [] := by
    rw [DendriticBranchSet.branchesAt_eq_filter]
    rfl
  have hedges : (sampleTick ℝ steps).structuralSynapses.filter
      (fun s => s.target = sampleNeuron ℝ 0) = [] := rfl
  have hdynamics : (samplePhenotype ℝ).neuronDynamics (sampleNeuron ℝ 0)
      = ⟨1, 1, .relu, 0, 1, 0⟩ := rfl
  rw [preactivation, synapticSum, dendriticSum, hincoming, hbranches, hedges, hdynamics]
  simp [sampleTick]

/-- The loads before their clamps stay what they are. -/
theorem samplePhenotype_metabolicRaw (next m : (samplePhenotype ℝ).Neuron → ℝ)
    (i : (samplePhenotype ℝ).Neuron) : metabolicRaw next m i = m i := by
  simp [metabolicRaw, samplePhenotype]

/-- The first neuron stays at its bias, and the loads stay at a half. -/
theorem sampleGraph_stateAt (weights : (samplePhenotype ℝ).Synapse → ℝ) (k : ℕ) :
    ((sampleGraph ℝ).stateAt weights (sampleWindow ℝ) k).a (sampleNeuron ℝ 0) = 1 ∧
      ∀ i, ((sampleGraph ℝ).stateAt weights (sampleWindow ℝ) k).m i = 1 / 2 := by
  induction k with
  | zero => exact ⟨rfl, fun _ => rfl⟩
  | succ k ih =>
    rw [stateAt, stepAt]
    rcases htick : (sampleWindow ℝ).ticks[k / (samplePhenotype ℝ).microstepCount]? with _ | tick
    · exact ih
    obtain ⟨steps, -, rfl⟩ := mem_sampleWindow_ticks (List.mem_of_getElem? htick)
    dsimp only
    rw [tickStep]
    split_ifs
    · exact ih
    · have hdynamics : (samplePhenotype ℝ).neuronDynamics (sampleNeuron ℝ 0)
          = ⟨1, 1, .relu, 0, 1, 0⟩ := rfl
      constructor
      · simp [microstep, sampleGraph_preactivation, hdynamics, activate]
      · intro i
        change clamp (metabolicRaw _ _ i) 0 1 = 1 / 2
        rw [samplePhenotype_metabolicRaw, ih.2 i, clamp_of_mem (by norm_num) (by norm_num)]

theorem sampleWindow_validateFor : (sampleWindow ℝ).validateFor = .ok () := by
  have hdelay : ∀ r, ((samplePhenotype ℝ).projections r).delayMicrosteps = 0 := fun _ => rfl
  have htick : ∀ tick ∈ (sampleWindow ℝ).ticks, tick.validate = .ok () := by
    intro tick hmem
    obtain ⟨steps, hsteps, rfl⟩ := mem_sampleWindow_ticks hmem
    rw [TrainingReplayTick.validate, failIf_eq_ok_iff]
    have hedge : ∀ edge ∈ (sampleTick ℝ steps).structuralSynapses, edge.cadence
        = ((samplePhenotype ℝ).projections edge.route).updateCadence.raw.toUInt32 := by
      intro edge hedge
      obtain rfl := List.mem_singleton.1 hedge
      rfl
    push Not
    exact ⟨hsteps, by norm_num [sampleTick, maxStructuralEdges], hedge, List.cons_ne_nil _ _,
      by norm_num [sampleTick, maxActionCandidates]⟩
  unfold TrainingSequence.validateFor
  rw [contract_seq_eq_ok_iff, contract_seq_eq_ok_iff, failIf_eq_ok_iff, contract_forM_eq_ok_iff]
  refine ⟨?_, rfl, htick⟩
  norm_num [sampleWindow, maxTrainingSequenceTicks, hdelay]
  exact ⟨List.cons_ne_nil _ _, rfl, rfl⟩

/-- The only rectifier is open, the only branch over its threshold, no load at its bounds,
and no context clamp has an edge. -/
theorem sampleWindow_smooth {weights : (samplePhenotype ℝ).Synapse → ℝ}
    {tape : Tape (samplePhenotype ℝ)}
    (h : (sampleGraph ℝ).forward weights (sampleWindow ℝ) = .ok tape) :
    (sampleGraph ℝ).Smooth weights (sampleWindow ℝ) tape := by
  obtain ⟨hstates, -⟩ := recorded_of_forward h
  constructor
  · intro k tick _ htick _
    have hk : k ≤ (sampleWindow ℝ).ticks.length * (samplePhenotype ℝ).microstepCount := by
      have hlt := (List.getElem?_eq_some_iff.1 htick).1
      exact ((Nat.div_lt_iff_lt_mul (samplePhenotype ℝ).microstepCount_pos).1 hlt).le
    obtain ⟨steps, -, rfl⟩ := mem_sampleWindow_ticks (List.mem_of_getElem? htick)
    rw [hstates.get_a hk, hstates.get_m hk]
    obtain ⟨ha, hm⟩ := sampleGraph_stateAt weights k
    refine ⟨fun i hi => ?_, fun b hb => ?_, fun i => ?_, fun i => ?_⟩
    · have hactivation : ((samplePhenotype ℝ).neuronDynamics i).activation
          = if i = sampleNeuron ℝ 0 then .relu else .identity := rfl
      rw [hactivation] at hi
      split_ifs at hi with hzero
      rw [hzero, sampleGraph_preactivation]
      exact one_ne_zero
    · obtain rfl := List.mem_singleton.1 hb
      simp only [excess, List.map_cons, List.map_nil, List.sum_singleton, ha]
      norm_num
    · exact ((samplePhenotype_metabolicRaw _ _ i).trans (hm i)).trans_ne (by norm_num)
    · exact ((samplePhenotype_metabolicRaw _ _ i).trans (hm i)).trans_ne (by norm_num)
  · intro t tick _ _ c _
    exact ⟨fun hgain => absurd rfl hgain, fun hgain => absurd rfl hgain⟩

theorem sampleTargets_validate :
    (sampleUtterance ℝ).validate = .ok () ∧ (sampleSilence ℝ).validate = .ok () := by
  constructor
  · simp [ReplaySpeechTarget.validate, sampleUtterance]
  · simp [ReplaySpeechTarget.validate, sampleSilence]

/-- An utterance and a silence after the burn-in: each class weighs a half, and the gradient
is the derivative at any weights. -/
theorem backward_gradient_sample :
    ∃ probe : ((samplePhenotype ℝ).Synapse → ℝ) → TrainingGradientProbe (samplePhenotype ℝ),
      ∀ weights, ∃ tape : Tape (samplePhenotype ℝ),
        (sampleGraph ℝ).forward weights (sampleWindow ℝ) = .ok tape ∧
        (sampleGraph ℝ).backward weights (sampleWindow ℝ) tape [[0], [1], [-1]]
          (sampleTargets ℝ) = .ok (probe weights) ∧
        (∀ silence, classWeight (replaySpeechLossScales (sampleTargets ℝ))
          [some (sampleUtterance ℝ), some (sampleSilence ℝ)] silence = 1 / 2) ∧
        ∀ id, HasDerivAt (fun x => (sampleGraph ℝ).objective
            ((sampleWindow ℝ).detached ((sampleWindow ℝ).boundary tape))
            (replaySpeechLossScales (sampleTargets ℝ)) [[1], [-1]]
            [some (sampleUtterance ℝ), some (sampleSilence ℝ)] (Function.update weights id x))
          ((probe weights).gradients id) (weights id) := by
  have hruns : ∀ weights, ∃ probe tape,
      (sampleGraph ℝ).forward weights (sampleWindow ℝ) = .ok tape ∧
      (sampleGraph ℝ).backward weights (sampleWindow ℝ) tape [[0], [1], [-1]] (sampleTargets ℝ)
        = .ok probe := by
    intro weights
    obtain ⟨tape, htape⟩ : ∃ tape, (sampleGraph ℝ).forward weights (sampleWindow ℝ)
        = .ok tape := by
      refine forward_eq_ok_iff.2 fun tick hmem => ?_
      obtain ⟨steps, -, rfl⟩ := mem_sampleWindow_ticks hmem
      exact ⟨_, rfl⟩
    have hbackward : ∃ probe, (sampleGraph ℝ).backward weights (sampleWindow ℝ) tape
        [[0], [1], [-1]] (sampleTargets ℝ) = .ok probe := by
      refine exists_backward_iff.2 ⟨⟨rfl, rfl⟩, ?_, ?_⟩
      · obtain ⟨hutterance, hsilence⟩ := sampleTargets_validate
        have hroom : (samplePhenotype ℝ).speechSourceStart + 32
            ≤ (samplePhenotype ℝ).neuronCount := by decide
        simpa [sampleWindow, sampleTargets, hroom] using ⟨hutterance, hsilence⟩
      · simp [sampleWindow, sampleTick]
    obtain ⟨probe, hprobe⟩ := hbackward
    exact ⟨probe, tape, htape, hprobe⟩
  choose probe tape htape hprobe using hruns
  refine ⟨probe, fun weights => ⟨tape weights, htape weights, hprobe weights, ?_⟩⟩
  obtain ⟨-, hnormalised, hderiv⟩ := backward_gradient false weights (sampleWindow ℝ) _ _ _ _
    sampleWindow_validateFor (htape weights) (hprobe weights)
  have hpresent : presentClasses [some (sampleUtterance ℝ), some (sampleSilence ℝ)]
      = [false, true] := rfl
  refine ⟨fun silence => ?_, hderiv (sampleWindow_smooth (htape weights))⟩
  have hshare := (hnormalised silence).1 (hpresent ▸ by cases silence <;> decide)
  rwa [show (sampleTargets ℝ).drop (sampleWindow ℝ).burnInTicks
    = [some (sampleUtterance ℝ), some (sampleSilence ℝ)] from rfl, hpresent] at hshare

end SparseGraph

end CpuReplay

end ALife
