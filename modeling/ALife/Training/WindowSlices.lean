/-
# The windows give the trajectory back

A rollout has one row for each decision that is followed by a measurement
(`rollout_spec`), and the windows that are sliced out of it hold its rows once
and in their order, whatever their size and their burn-in
(`slicedRollout_of_cpuTrainingWindows`).  The critic's rows of a window are those
that `validate_residual_window` asks for (`windowAt_spec`).
-/

import ALife.Training.CohortWindows

namespace ALife

open Machine

namespace Training

open CpuReplay (BrainPhenotype)

/-! ### Lists -/

/-- A map that succeeded, seen through its elements. -/
theorem map_eq_of_contract_mapM {α β γ : Type} {f : α → Contract β} {g : β → γ} {k : α → γ}
    {l : List α} {r : List β} (h : l.mapM f = .ok r)
    (hfg : ∀ a ∈ l, ∀ b, f a = .ok b → g b = k a) : r.map g = l.map k := by
  induction l generalizing r with
  | nil =>
    cases h
    rfl
  | cons a l ih =>
    rw [List.mapM_cons] at h
    obtain ⟨b, hb, h⟩ := contract_bind_eq_ok_iff.1 h
    obtain ⟨bs, hbs, h⟩ := contract_bind_eq_ok_iff.1 h
    cases h
    rw [List.map_cons, List.map_cons, hfg a List.mem_cons_self b hb,
      ih hbs fun a' ha' => hfg a' (List.mem_cons_of_mem _ ha')]

theorem exists_of_mem_contract_mapM {α β : Type} {f : α → Contract β} {l : List α} {r : List β}
    (h : l.mapM f = .ok r) {b : β} (hb : b ∈ r) : ∃ a ∈ l, f a = .ok b := by
  obtain ⟨hlength, hat⟩ := getElem?_of_contract_mapM h
  obtain ⟨i, hi, rfl⟩ := List.mem_iff_getElem.1 hb
  obtain ⟨b', hf, hb'⟩ := hat i l[i] (List.getElem?_eq_getElem (hlength ▸ hi))
  rw [List.getElem?_eq_getElem hi] at hb'
  obtain rfl := Option.some.inj hb'
  exact ⟨_, List.getElem_mem _, hf⟩

/-- The slices between the multiples of a step give the list back. -/
theorem flatMap_stepBy {α : Type} (l : List α) {step : ℕ} (hstep : 0 < step) :
    ((stepBy l.length step).flatMap fun start =>
      (l.drop start).take (min (start + step) l.length - start)) = l := by
  -- the first slices give the elements before the next multiple
  have hfirst : ∀ k, k * step ≤ l.length + step - 1 →
      (((List.range k).map (· * step)).flatMap fun start =>
        (l.drop start).take (min (start + step) l.length - start)) = l.take (k * step) := by
    intro k
    induction k with
    | zero => simp
    | succ k ih =>
      intro hk
      rw [Nat.succ_mul] at hk
      rw [List.range_succ, List.map_append, List.flatMap_append, ih (by omega), List.map_singleton,
        List.flatMap_singleton, Nat.succ_mul, List.take_add]
      congr 1
      rcases Nat.le_total (k * step + step) l.length with h | h
      · rw [Nat.min_eq_left h, Nat.add_sub_cancel_left]
      · rw [Nat.min_eq_right h, List.take_of_length_le (by rw [List.length_drop]),
          List.take_of_length_le (by rw [List.length_drop]; omega)]
  unfold stepBy
  have hdiv := Nat.div_mul_le_self (l.length + step - 1) step
  have hmod := Nat.mod_lt (l.length + step - 1) hstep
  have hsum := Nat.div_add_mod (l.length + step - 1) step
  rw [Nat.mul_comm] at hsum
  rw [hfirst _ hdiv, List.take_of_length_le (by omega)]

/-- A multiple of the step below the length. -/
theorem lt_of_mem_stepBy {len step start : ℕ} (hstep : 0 < step)
    (h : start ∈ stepBy len step) : start < len := by
  obtain ⟨k, hk, rfl⟩ := List.mem_map.1 h
  have hlt := List.mem_range.1 hk
  have hle := Nat.mul_le_mul_right step (Nat.succ_le_of_lt hlt)
  have hdiv := Nat.div_mul_le_self (len + step - 1) step
  rw [Nat.succ_mul] at hle
  omega

/-! ### The rollout -/

variable {F D Patch Bio Record Creature : Type} [FloatOps F] [FloatOps D] {W : Widening F D}
  {E : Evidence F Patch Bio Record Creature} {p : BrainPhenotype F}

/-- The discount that the check of a window recomputes. -/
def demandedDiscount (config : PpoConfig F) (t : PpoTransition F) : F :=
  if t.boundary = .terminated then 0 else discountOf config t.elapsedSeconds

/-- The row that the check of a window asks for at a place. -/
def demandedRow (config : PpoConfig F) (i : ℕ) (t : PpoTransition F) : CriticResidualRow F where
  current := UInt32.ofNat i
  next := UInt32.ofNat i + 1
  reward := t.reward
  discount := demandedDiscount config t

/-- A row of the rollout is of its own decision, and its residual row says the same. -/
theorem rolloutRow_spec {decisions : List (CpuCollectedDecision p Patch)} {terminal : Option Bio}
    {values : List F} {creature : Creature} {version : UInt64} {config : PpoConfig F}
    {len i : ℕ} {t : PpoTransition F} {row : CriticResidualRow F}
    (h : rolloutRow E decisions terminal values creature version config len i = .ok (t, row)) :
    row = demandedRow config i t ∧
      ∃ d, decisions[i]? = some d ∧ t.action = d.action ∧ t.step = UInt64.ofNat i := by
  unfold rolloutRow at h
  obtain ⟨first, -, h⟩ := contract_bind_eq_ok_iff.1 h
  obtain ⟨current, hcurrent, h⟩ := contract_bind_eq_ok_iff.1 h
  obtain ⟨-, h⟩ := contract_check_eq_ok_iff.1 h
  obtain ⟨endTick, -, h⟩ := contract_bind_eq_ok_iff.1 h
  obtain ⟨-, h⟩ := contract_check_eq_ok_iff.1 h
  obtain ⟨measured, -, h⟩ := contract_bind_eq_ok_iff.1 h
  obtain ⟨before, -, h⟩ := contract_bind_eq_ok_iff.1 h
  obtain ⟨reward, -, h⟩ := contract_bind_eq_ok_iff.1 h
  obtain ⟨rfl, rfl⟩ := Prod.mk.inj (Except.ok.inj h)
  refine ⟨?_, current, getOr_eq_ok_iff.1 hcurrent, rfl, rfl⟩
  unfold demandedRow demandedDiscount
  dsimp only
  congr 1
  cases decisions[i + 1]? with
  | none => rfl
  | some next =>
    have hboundary : (if i + 1 = len then PpoBoundary.truncated else .continuing) ≠ .terminated := by
      split_ifs <;> exact nofun
    simp only [Option.isNone_some, Bool.false_eq_true, if_false]
    rw [if_neg hboundary]

theorem length_of_account {config : PpoConfig F} {transitions : List (PpoTransition F)}
    {tail : D} {advantages returns : List F}
    (h : account W config transitions = .ok (tail, advantages, returns)) :
    advantages.length = transitions.length ∧ returns.length = transitions.length := by
  induction transitions generalizing tail advantages returns with
  | nil =>
    obtain ⟨-, hpair⟩ := Prod.mk.inj (Except.ok.inj h)
    obtain ⟨rfl, rfl⟩ := Prod.mk.inj hpair
    exact ⟨rfl, rfl⟩
  | cons t rest ih =>
    obtain ⟨⟨next, A, R⟩, hrest, h⟩ := contract_bind_eq_ok_iff.1 h
    obtain ⟨-, h⟩ := contract_check_eq_ok_iff.1 h
    obtain ⟨-, hpair⟩ := Prod.mk.inj (Except.ok.inj h)
    obtain ⟨rfl, rfl⟩ := Prod.mk.inj hpair
    obtain ⟨hA, hR⟩ := ih hrest
    exact ⟨congrArg Nat.succ hA, congrArg Nat.succ hR⟩

/-- **What a rollout is**: a transition for each of its decisions, in their order, with an
advantage, a return and a residual row, between one more rows of features. -/
structure RolloutSpec (decisions : List (CpuCollectedDecision p Patch)) (terminal : Option Bio)
    (config : PpoConfig F) (r : Rollout F D) : Prop where
  length : r.batch.transitions.length = trainLen decisions terminal
  ofDecision : ∀ i t, r.batch.transitions[i]? = some t →
    ∃ d, decisions[i]? = some d ∧ t.action = d.action ∧ t.step = UInt64.ofNat i
  residual_length : r.residual.length = r.batch.transitions.length
  residual : ∀ i t, r.batch.transitions[i]? = some t →
    r.residual[i]? = some (demandedRow config i t)
  advantages_length : r.batch.advantages.length = r.batch.transitions.length
  returns_length : r.batch.returns.length = r.batch.transitions.length
  features_length : r.features.length = r.batch.transitions.length + 1

theorem rollout_spec {decisions : List (CpuCollectedDecision p Patch)} {terminal : Option Bio}
    {predict : List F → Contract F} {creature : Creature} {version : UInt64}
    {config : PpoConfig F} {r : Rollout F D}
    (h : rollout W E decisions terminal predict creature version config = .ok r) :
    RolloutSpec decisions terminal config r := by
  unfold rollout at h
  obtain ⟨last, hlast, h⟩ := contract_bind_eq_ok_iff.1 h
  obtain ⟨values, -, h⟩ := contract_bind_eq_ok_iff.1 h
  obtain ⟨rows, hrows, h⟩ := contract_bind_eq_ok_iff.1 h
  obtain ⟨batch, hbatch, h⟩ := contract_bind_eq_ok_iff.1 h
  obtain rfl := Except.ok.inj h
  obtain ⟨-, -, -, tail, haccount, -, htransitions, -⟩ := (fromRollout_eq_ok_iff W).1 hbatch
  obtain ⟨hadvantages, hreturns⟩ := length_of_account haccount
  obtain ⟨hlength, hat⟩ := getElem?_of_contract_mapM hrows
  rw [List.length_range] at hlength
  have hrow : ∀ i t, batch.transitions[i]? = some t → ∃ row, rows[i]? = some (t, row) ∧
      rolloutRow E decisions terminal values creature version config (trainLen decisions terminal) i
        = .ok (t, row) := by
    intro i t ht
    rw [htransitions, List.getElem?_map] at ht
    obtain ⟨⟨t', row⟩, hi, rfl⟩ := Option.map_eq_some_iff.1 ht
    have hlt : i < trainLen decisions terminal := by
      rw [← hlength]
      exact (List.getElem?_eq_some_iff.1 hi).1
    obtain ⟨x, hx, hi'⟩ := hat i i (by rw [List.getElem?_range hlt])
    rw [hi] at hi'
    obtain rfl := Option.some.inj hi'
    exact ⟨row, hi, hx⟩
  have hlen : batch.transitions.length = trainLen decisions terminal := by
    rw [htransitions, List.length_map, hlength]
  have hne : decisions ≠ [] := by
    rintro rfl
    cases hlast
  refine ⟨hlen, fun i t ht => ?_, ?_, fun i t ht => ?_, hadvantages.trans (by rw [htransitions]),
    hreturns.trans (by rw [htransitions]), ?_⟩
  · obtain ⟨row, -, hx⟩ := hrow i t ht
    exact (rolloutRow_spec hx).2
  · rw [List.length_map, hlength, hlen]
  · obtain ⟨row, hi, hx⟩ := hrow i t ht
    rw [List.getElem?_map, hi, Option.map_some, ← (rolloutRow_spec hx).1]
  · have hpos := List.length_pos_of_ne_nil hne
    dsimp only
    rw [hlen]
    unfold trainLen
    cases terminal with
    | none =>
      simp only [Option.isSome_none, Bool.false_eq_true, if_false, Option.isNone_none, if_true,
        List.length_map]
      omega
    | some bio =>
      simp only [Option.isSome_some, if_true, Option.isNone_some, Bool.false_eq_true, if_false,
        List.length_append, List.length_map, List.length_singleton]
      omega

/-! ### A window -/

/-- **What a window is**: the rows of the rollout from `start` to `stop`, the ticks of these
decisions behind those of its burn-in, and the critic's rows that its check asks for. -/
structure WindowSpec (decisions : List (CpuCollectedDecision p Patch)) (r : Rollout F D)
    (config : PpoConfig F) (burnIn start stop : ℕ) (w : CpuResidualTrainingWindow p D) : Prop where
  transitions : w.actor.batch.transitions = (r.batch.transitions.drop start).take (stop - start)
  advantages : w.actor.batch.advantages = (r.batch.advantages.drop start).take (stop - start)
  returns : w.actor.batch.returns = (r.batch.returns.drop start).take (stop - start)
  nonempty : start < stop
  inside : stop ≤ r.batch.transitions.length
  ticks : w.actor.sequence.ticks
    = ((decisions.drop (start - burnIn)).take (stop - (start - burnIn))).map (·.replayTick)
  ticks_length : w.actor.sequence.ticks.length
    = w.actor.sequence.burnInTicks + w.actor.batch.transitions.length
  burnIn_le : w.actor.sequence.burnInTicks ≤ burnIn
  initial : ∃ d, decisions[start - burnIn]? = some d ∧ w.actor.sequence.initial = d.initial
  criticRows : w.criticRows = w.actor.batch.transitions.mapIdx (demandedRow config)
  criticFeatures : w.criticFeatures.length = w.actor.batch.transitions.length + 1

omit [FloatOps D] in
theorem windowAt_spec {decisions : List (CpuCollectedDecision p Patch)} {terminal : Option Bio}
    {config : PpoConfig F} {r : Rollout F D} (hr : RolloutSpec decisions terminal config r)
    {burnIn start stop : ℕ} {w : CpuResidualTrainingWindow p D}
    (h : windowAt decisions r burnIn start stop = .ok w) :
    WindowSpec decisions r config burnIn start stop w := by
  unfold windowAt at h
  obtain ⟨first, hfirst, h⟩ := contract_bind_eq_ok_iff.1 h
  obtain ⟨batch, hbatch, h⟩ := contract_bind_eq_ok_iff.1 h
  obtain rfl := Except.ok.inj h
  unfold PpoBatch.window at hbatch
  obtain ⟨hbounds, hbatch⟩ := contract_check_eq_ok_iff.1 hbatch
  obtain rfl := Except.ok.inj hbatch
  rw [reject_eq_ok_iff] at hbounds
  push Not at hbounds
  obtain ⟨hlt, hle⟩ := hbounds
  have hdecisions : r.batch.transitions.length ≤ decisions.length := by
    rw [hr.length]
    exact Nat.sub_le _ _
  refine ⟨rfl, rfl, rfl, hlt, hle, rfl, ?_, ?_,
    ⟨first, getOr_eq_ok_iff.1 hfirst, rfl⟩, ?_, ?_⟩
  · dsimp only
    rw [List.length_map, List.length_take, List.length_drop, List.length_take, List.length_drop]
    omega
  · dsimp only
    omega
  · dsimp only
    refine List.ext_getElem? fun i => ?_
    rw [List.getElem?_mapIdx, List.getElem?_mapIdx, List.getElem?_take, List.getElem?_take]
    split_ifs with hi
    · rw [List.getElem?_drop, List.getElem?_drop]
      have hlt' : start + i < r.batch.transitions.length := by omega
      rw [List.getElem?_eq_getElem hlt', hr.residual _ _ (List.getElem?_eq_getElem hlt')]
      rfl
    · rfl
  · dsimp only
    rw [List.length_take, List.length_drop, List.length_take, List.length_drop, hr.features_length]
    omega

omit [FloatOps D] in
/-- The demanded rows are what the check of a window asks of its rows. -/
theorem validateResidualWindow_of_demanded {config : PpoConfig F}
    {w : CpuResidualTrainingWindow p D}
    (hself : ∀ x : F, FloatOps.lt (literal 1 1000000) (FloatOps.abs (x - x)) = false)
    (hrows : w.criticRows = w.actor.batch.transitions.mapIdx (demandedRow config))
    (hfeatures : w.criticFeatures.length = w.actor.batch.transitions.length + 1)
    (replayed : Option (List (List F))) :
    validateResidualWindow w replayed config = .ok () ↔
      ∀ x ∈ w.criticFeatures.zip (replayed.getD []), closeFeatures x.1 x.2 = true := by
  have hchecked : ((w.criticRows.zip w.actor.batch.transitions).zipIdx.forM fun x =>
      checkResidualRow config x.2 x.1.1 x.1.2) = .ok () := by
    refine contract_forM_eq_ok_iff.2 fun x hx => ?_
    obtain ⟨i, hi, rfl⟩ := List.mem_iff_getElem.1 hx
    rw [List.length_zipIdx, List.length_zip, hrows, List.length_mapIdx, min_self] at hi
    simp only [List.getElem_zipIdx, List.getElem_zip, hrows, List.getElem_mapIdx, Nat.zero_add]
    unfold checkResidualRow demandedRow demandedDiscount
    dsimp only
    rw [reject_eq_ok_iff]
    simp only [ne_eq, not_true_eq_false, false_or, Bool.not_eq_true]
    exact hself _
  unfold validateResidualWindow
  rw [hchecked, contract_check_eq_ok_iff, contract_check_eq_ok_iff, reject_eq_ok_iff,
    reject_eq_ok_iff, hrows, List.length_mapIdx]
  push Not
  constructor
  · rintro ⟨-, hclose, -⟩
    exact fun x hx => by simpa using hclose x hx
  · intro hclose
    exact ⟨⟨rfl, hfeatures⟩, fun x hx => by simpa using hclose x hx, rfl⟩

/-! ### All windows -/

/-- **What the windows of a rollout are**: its rows once and in their order, in windows whose
critic rows pass their check when the replayed features are close. -/
structure SlicedRollout (decisions : List (CpuCollectedDecision p Patch)) (terminal : Option Bio)
    (config : PpoConfig F) (burnIn : ℕ) (r : Rollout F D)
    (windows : List (CpuResidualTrainingWindow p D)) : Prop where
  rollout : RolloutSpec decisions terminal config r
  transitions : (windows.flatMap fun w => w.actor.batch.transitions) = r.batch.transitions
  advantages : (windows.flatMap fun w => w.actor.batch.advantages) = r.batch.advantages
  returns : (windows.flatMap fun w => w.actor.batch.returns) = r.batch.returns
  window : ∀ w ∈ windows, ∃ start stop, WindowSpec decisions r config burnIn start stop w
  demanded : ∀ w ∈ windows, ∀ replayed, validateResidualWindow w replayed config = .ok () ↔
    ∀ x ∈ w.criticFeatures.zip (replayed.getD []), closeFeatures x.1 x.2 = true
  /-- The decision that only bootstraps. -/
  living : terminal = none → r.batch.transitions.length + 1 = decisions.length

/-- The windows of a trajectory are the slices of its rollout, which knows nothing of them. -/
theorem slicedRollout_of_cpuTrainingWindows
    (hself : ∀ x : F, FloatOps.lt (literal 1 1000000) (FloatOps.abs (x - x)) = false)
    {decisions : List (CpuCollectedDecision p Patch)} {record : Option Record}
    {predict : List F → Contract F} {creature : Creature} {version : UInt64}
    {config : PpoConfig F} {windowTicks burnIn : ℕ}
    {windows : List (CpuResidualTrainingWindow p D)}
    (h : cpuTrainingWindows W E decisions record predict creature version config windowTicks burnIn
      = .ok windows) :
    ∃ r : Rollout F D, rollout W E decisions (record.map E.biochemistry) predict creature version
        config = .ok r ∧
      SlicedRollout decisions (record.map E.biochemistry) config burnIn r windows := by
  unfold cpuTrainingWindows at h
  obtain ⟨-, h⟩ := contract_check_eq_ok_iff.1 h
  obtain ⟨-, h⟩ := contract_check_eq_ok_iff.1 h
  obtain ⟨hbounds, h⟩ := contract_check_eq_ok_iff.1 h
  obtain ⟨r, hr, h⟩ := contract_bind_eq_ok_iff.1 h
  rw [reject_eq_ok_iff] at hbounds
  push Not at hbounds
  obtain ⟨hne, -, hpos, -⟩ := hbounds
  have hspec := rollout_spec hr
  have hwindow : ∀ w ∈ windows, ∃ start stop, WindowSpec decisions r config burnIn start stop w :=
    fun w hw => by
      obtain ⟨start, -, hstart⟩ := exists_of_mem_contract_mapM h hw
      exact ⟨start, _, windowAt_spec hspec hstart⟩
  -- a column of the windows, put together again
  have hcolumn : ∀ {α : Type} (whole : List α) (slice : CpuResidualTrainingWindow p D → List α),
      whole.length = r.batch.transitions.length →
      (∀ start stop w, WindowSpec decisions r config burnIn start stop w →
        slice w = (whole.drop start).take (stop - start)) →
      windows.flatMap slice = whole := by
    intro α whole slice hlength hslice
    have hmap := map_eq_of_contract_mapM (g := slice) h fun start _ w hw =>
      hslice _ _ w (windowAt_spec hspec hw)
    rw [List.flatMap_def, hmap, ← List.flatMap_def, ← hlength]
    exact flatMap_stepBy whole (Nat.pos_of_ne_zero hpos)
  exact ⟨r, hr,
    { rollout := hspec
      transitions := hcolumn _ _ rfl fun _ _ _ hw => hw.transitions
      advantages := hcolumn _ _ hspec.advantages_length fun _ _ _ hw => hw.advantages
      returns := hcolumn _ _ hspec.returns_length fun _ _ _ hw => hw.returns
      window := hwindow
      demanded := fun w hw => by
        obtain ⟨start, stop, hw⟩ := hwindow w hw
        exact validateResidualWindow_of_demanded hself hw.criticRows hw.criticFeatures
      living := fun hterminal => by
        have hpos := List.length_pos_of_ne_nil hne
        rw [hspec.length, hterminal]
        unfold trainLen
        rw [Option.isNone_none, if_pos rfl]
        omega }⟩

end Training

end ALife
