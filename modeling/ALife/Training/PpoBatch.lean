/-
# Advantages of a rollout

`PpoBatch` (`crates/alife_training/src/ppo.rs`): the transitions of a rollout with
their advantages and returns.  The accounts are kept in a wider arithmetic, into
which `widen` takes a float and from which `narrow` rounds it, and go from the
last transition to the first; a boundary forgets what stands behind it, so the
batch of a concatenation is the concatenation of the batches
(`fromRollout_append_iff`, `fromRollout_flatten_iff`).
-/

import ALife.Training.JointAction

namespace ALife

open Machine

namespace Training

inductive PpoBoundary where
  | continuing | terminated | truncated
  deriving DecidableEq, Repr

structure PpoTransition (F : Type) where
  policyVersion : UInt64
  trajectoryId : UInt64
  step : UInt64
  action : PpoJointAction F
  reward : F
  oldValue : F
  nextValue : F
  elapsedSeconds : F
  boundary : PpoBoundary

structure PpoBatch (F D : Type) where
  policyVersion : UInt64
  transitions : List (PpoTransition F)
  advantages : List F
  returns : List F
  actorAdvantageCenteringMean : Option D

/-- The conversions between `f32` and `f64`. -/
structure Widening (F D : Type) where
  widen : F → D
  narrow : D → F

variable {F D : Type} [FloatOps F] [FloatOps D] (W : Widening F D)

/-- `std::f64::consts::LN_2`. -/
def ln2 : D := literal 6243314768165359 9007199254740992

/-- The checks of `from_rollout` on a transition, with the one behind it. -/
def checkTransition (version : UInt64) (config : PpoConfig F) (t : PpoTransition F)
    (next : Option (PpoTransition F)) : Contract Unit := do
  t.action.validate config.temperature
  let values : List F := [t.reward, t.oldValue, t.nextValue, t.elapsedSeconds]
  reject (t.policyVersion ≠ version ∨ values.all FloatOps.isFinite = false
    ∨ FloatOps.le t.elapsedSeconds 0 = true
    ∨ (t.boundary = .terminated ∧ FloatOps.feq t.nextValue 0 = false)) .invalidDecisionEvidence
  if t.boundary = .continuing then do
    let next ← getOr next .invalidDecisionEvidence
    reject (next.trajectoryId ≠ t.trajectoryId ∨ checkedAdd64 t.step 1 ≠ some next.step
      ∨ FloatOps.toBits t.nextValue ≠ FloatOps.toBits next.oldValue) .invalidDecisionEvidence
  else .ok ()

/-- The first loop of `from_rollout`. -/
def checkRollout (version : UInt64) (config : PpoConfig F) :
    List (PpoTransition F) → Contract Unit
  | [] => .ok ()
  | t :: rest => do
    checkTransition version config t rest.head?
    checkRollout version config rest

/-- `tail` of a transition, from the one behind it. -/
def tailOf (config : PpoConfig F) (t : PpoTransition F) (tail : D) : D :=
  let dt := W.widen t.elapsedSeconds
  let gamma := FloatOps.exp (-ln2 * dt / W.widen config.discountHalfLifeSeconds)
  let lambda := FloatOps.exp (-ln2 * dt / W.widen config.gaeHalfLifeSeconds)
  let bootstrap := if t.boundary = .terminated then 0 else W.widen t.nextValue
  let delta := W.widen t.reward + gamma * bootstrap - W.widen t.oldValue
  delta + if t.boundary = .continuing then gamma * lambda * tail else 0

/-- The second loop of `from_rollout`, with its `tail`, from the last transition on. -/
def account (config : PpoConfig F) : List (PpoTransition F) → Contract (D × List F × List F)
  | [] => .ok (0, [], [])
  | t :: rest => do
    let (tail, advantages, returns) ← account config rest
    let tail := tailOf W config t tail
    let advantage := W.narrow tail
    let returned := W.narrow (tail + W.widen t.oldValue)
    reject (FloatOps.isFinite advantage = false ∨ FloatOps.isFinite returned = false)
      .invalidDecisionEvidence
    .ok (tail, advantage :: advantages, returned :: returns)

namespace PpoBatch

/-- `PpoBatch::from_rollout`. -/
def fromRollout (version : UInt64) (transitions : List (PpoTransition F)) (config : PpoConfig F) :
    Contract (PpoBatch F D) := do
  config.validate
  reject (transitions = []) .invalidDecisionEvidence
  checkRollout version config transitions
  let (_, advantages, returns) ← account W config transitions
  .ok ⟨version, transitions, advantages, returns, none⟩

/-- `window`. -/
def window (b : PpoBatch F D) (start stop : ℕ) : Contract (PpoBatch F D) := do
  reject (stop ≤ start ∨ b.transitions.length < stop) .invalidDecisionEvidence
  let slice {α : Type} (l : List α) : List α := (l.drop start).take (stop - start)
  .ok { b with
    transitions := slice b.transitions
    advantages := slice b.advantages
    returns := slice b.returns }

/-- The rows of one batch before those of another. -/
def append (b c : PpoBatch F D) : PpoBatch F D where
  policyVersion := b.policyVersion
  transitions := b.transitions ++ c.transitions
  advantages := b.advantages ++ c.advantages
  returns := b.returns ++ c.returns
  actorAdvantageCenteringMean := b.actorAdvantageCenteringMean

end PpoBatch

/-! ### Trajectories -/

/-- The trajectory ends in a termination or in an explicit truncation. -/
def Complete (transitions : List (PpoTransition F)) : Prop :=
  ∃ before last, transitions = before ++ [last] ∧ last.boundary ≠ .continuing

/-- Behind a boundary nothing is checked. -/
theorem checkTransition_of_boundary {version : UInt64} {config : PpoConfig F}
    {t : PpoTransition F} (h : t.boundary ≠ .continuing) (next next' : Option (PpoTransition F)) :
    checkTransition version config t next = checkTransition version config t next' := by
  unfold checkTransition
  rw [if_neg h, if_neg h]

theorem checkRollout_append {version : UInt64} {config : PpoConfig F}
    {before : List (PpoTransition F)} {last : PpoTransition F} (h : last.boundary ≠ .continuing)
    (behind : List (PpoTransition F)) :
    checkRollout version config (before ++ last :: behind) = .ok () ↔
      checkRollout version config (before ++ [last]) = .ok () ∧
        checkRollout version config behind = .ok () := by
  induction before with
  | nil =>
    rw [List.nil_append, List.nil_append, checkRollout, checkRollout, contract_check_eq_ok_iff,
      contract_check_eq_ok_iff, checkTransition_of_boundary h behind.head? none]
    exact ⟨fun ⟨hlast, hbehind⟩ => ⟨⟨hlast, rfl⟩, hbehind⟩,
      fun ⟨⟨hlast, _⟩, hbehind⟩ => ⟨hlast, hbehind⟩⟩
  | cons t before ih =>
    have hhead : (before ++ last :: behind).head? = (before ++ [last]).head? := by
      cases before <;> rfl
    rw [List.cons_append, List.cons_append, checkRollout, checkRollout, contract_check_eq_ok_iff,
      contract_check_eq_ok_iff, ih, hhead, and_assoc]

omit [FloatOps F] in
/-- Behind a boundary the tail is forgotten. -/
theorem tailOf_of_boundary {config : PpoConfig F} {t : PpoTransition F}
    (h : t.boundary ≠ .continuing) (tail tail' : D) :
    tailOf W config t tail = tailOf W config t tail' := by
  unfold tailOf
  dsimp only
  rw [if_neg h, if_neg h]

theorem account_append {config : PpoConfig F} {before : List (PpoTransition F)}
    {last : PpoTransition F} (h : last.boundary ≠ .continuing) {behind : List (PpoTransition F)}
    {tail : D} {advantages returns : List F} :
    account W config (before ++ last :: behind) = .ok (tail, advantages, returns) ↔
      ∃ A R tail' A' R', account W config (before ++ [last]) = .ok (tail, A, R) ∧
        account W config behind = .ok (tail', A', R') ∧ advantages = A ++ A' ∧
        returns = R ++ R' := by
  induction before generalizing tail advantages returns with
  | nil =>
    rw [List.nil_append, List.nil_append]
    constructor
    · intro haccount
      obtain ⟨⟨tail', A', R'⟩, hbehind, haccount⟩ := contract_bind_eq_ok_iff.1 haccount
      obtain ⟨hfinite, haccount⟩ := contract_check_eq_ok_iff.1 haccount
      obtain ⟨rfl, hpair⟩ := Prod.mk.inj (Except.ok.inj haccount)
      obtain ⟨rfl, rfl⟩ := Prod.mk.inj hpair
      rw [tailOf_of_boundary W h tail' 0] at hfinite ⊢
      exact ⟨[_], [_], tail', A', R', contract_bind_eq_ok_iff.2 ⟨_, rfl,
        contract_check_eq_ok_iff.2 ⟨hfinite, rfl⟩⟩, hbehind, rfl, rfl⟩
    · rintro ⟨A, R, tail', A', R', hlast, hbehind, rfl, rfl⟩
      obtain ⟨x, hnil, hlast⟩ := contract_bind_eq_ok_iff.1 hlast
      obtain rfl := Except.ok.inj hnil
      obtain ⟨hfinite, hlast⟩ := contract_check_eq_ok_iff.1 hlast
      obtain ⟨rfl, hpair⟩ := Prod.mk.inj (Except.ok.inj hlast)
      obtain ⟨rfl, rfl⟩ := Prod.mk.inj hpair
      refine contract_bind_eq_ok_iff.2 ⟨_, hbehind, contract_check_eq_ok_iff.2 ⟨?_, ?_⟩⟩
      · rw [tailOf_of_boundary W h tail' 0]
        exact hfinite
      · rw [tailOf_of_boundary W h tail' 0]
        rfl
  | cons t before ih =>
    rw [List.cons_append, List.cons_append]
    constructor
    · intro haccount
      obtain ⟨⟨next, advantages', returns'⟩, hrest, haccount⟩ := contract_bind_eq_ok_iff.1 haccount
      obtain ⟨hfinite, haccount⟩ := contract_check_eq_ok_iff.1 haccount
      obtain ⟨rfl, hpair⟩ := Prod.mk.inj (Except.ok.inj haccount)
      obtain ⟨rfl, rfl⟩ := Prod.mk.inj hpair
      obtain ⟨A, R, tail', A', R', hbefore, hbehind, rfl, rfl⟩ := ih.1 hrest
      exact ⟨_ :: A, _ :: R, tail', A', R', contract_bind_eq_ok_iff.2 ⟨_, hbefore,
        contract_check_eq_ok_iff.2 ⟨hfinite, rfl⟩⟩, hbehind, rfl, rfl⟩
    · rintro ⟨A, R, tail', A', R', hbefore, hbehind, rfl, rfl⟩
      obtain ⟨⟨next, A, R⟩, hrest, hbefore⟩ := contract_bind_eq_ok_iff.1 hbefore
      obtain ⟨hfinite, hbefore⟩ := contract_check_eq_ok_iff.1 hbefore
      obtain ⟨rfl, hpair⟩ := Prod.mk.inj (Except.ok.inj hbefore)
      obtain ⟨rfl, rfl⟩ := Prod.mk.inj hpair
      exact contract_bind_eq_ok_iff.2 ⟨_, ih.2 ⟨A, R, tail', A', R', hrest, hbehind, rfl, rfl⟩,
        contract_check_eq_ok_iff.2 ⟨hfinite, rfl⟩⟩

/-- What `from_rollout` accepts, and what it makes of it. -/
theorem fromRollout_eq_ok_iff {version : UInt64} {transitions : List (PpoTransition F)}
    {config : PpoConfig F} {b : PpoBatch F D} :
    PpoBatch.fromRollout W version transitions config = .ok b ↔
      config.validate = .ok () ∧ transitions ≠ [] ∧
        checkRollout version config transitions = .ok () ∧
        ∃ tail, account W config transitions = .ok (tail, b.advantages, b.returns) ∧
          b.policyVersion = version ∧ b.transitions = transitions ∧
          b.actorAdvantageCenteringMean = none := by
  unfold PpoBatch.fromRollout
  rw [contract_check_eq_ok_iff, contract_check_eq_ok_iff, contract_check_eq_ok_iff,
    reject_eq_ok_iff, contract_bind_eq_ok_iff]
  refine and_congr_right fun _ => and_congr_right fun _ => and_congr_right fun _ => ?_
  constructor
  · rintro ⟨⟨tail, A, R⟩, haccount, h⟩
    obtain rfl := Except.ok.inj h
    exact ⟨tail, haccount, rfl, rfl, rfl⟩
  · rintro ⟨tail, haccount, rfl, rfl, hmean⟩
    refine ⟨_, haccount, ?_⟩
    dsimp only
    rw [← hmean]

/-- **The batch of a concatenation** of a complete trajectory with others is the concatenation of
the batches, and is refused where one of them is. -/
theorem fromRollout_append_iff {version : UInt64} {a behind : List (PpoTransition F)}
    (ha : Complete a) (hbehind : behind ≠ []) {config : PpoConfig F} {b : PpoBatch F D} :
    PpoBatch.fromRollout W version (a ++ behind) config = .ok b ↔
      ∃ x y, PpoBatch.fromRollout W version a config = .ok x ∧
        PpoBatch.fromRollout W version behind config = .ok y ∧ b = x.append y := by
  obtain ⟨before, last, rfl, hlast⟩ := ha
  have hne : before ++ [last] ≠ [] := List.append_ne_nil_of_right_ne_nil _ (List.cons_ne_nil _ _)
  rw [fromRollout_eq_ok_iff, List.append_assoc, List.singleton_append, checkRollout_append hlast]
  constructor
  · rintro ⟨hconfig, -, ⟨hchecks, hchecks'⟩, tail, haccount, hversion, htransitions, hmean⟩
    obtain ⟨A, R, tail', A', R', hA, hA', hadvantages, hreturns⟩ :=
      (account_append W hlast).1 haccount
    refine ⟨⟨version, before ++ [last], A, R, none⟩, ⟨version, behind, A', R', none⟩,
      (fromRollout_eq_ok_iff W).2 ⟨hconfig, hne, hchecks, tail, hA, rfl, rfl, rfl⟩,
      (fromRollout_eq_ok_iff W).2 ⟨hconfig, hbehind, hchecks', tail', hA', rfl, rfl, rfl⟩, ?_⟩
    obtain ⟨v, ts, advantages, returns, mean⟩ := b
    dsimp only at hversion htransitions hmean hadvantages hreturns
    subst hversion htransitions hmean hadvantages hreturns
    simp [PpoBatch.append]
  · rintro ⟨x, y, hx, hy, rfl⟩
    obtain ⟨hconfig, -, hchecks, tail, hA, hversion, htransitions, hmean⟩ :=
      (fromRollout_eq_ok_iff W).1 hx
    obtain ⟨-, -, hchecks', tail', hA', -, htransitions', -⟩ := (fromRollout_eq_ok_iff W).1 hy
    refine ⟨hconfig, List.append_ne_nil_of_right_ne_nil _ (List.cons_ne_nil _ _),
      ⟨hchecks, hchecks'⟩, tail, ?_, hversion, ?_, hmean⟩
    · exact (account_append W hlast).2 ⟨_, _, tail', _, _, hA, hA', rfl, rfl⟩
    · simp [PpoBatch.append, htransitions, htransitions']

omit [FloatOps F] in
theorem Complete.ne_nil {transitions : List (PpoTransition F)} (h : Complete transitions) :
    transitions ≠ [] := by
  obtain ⟨before, last, rfl, -⟩ := h
  exact List.append_ne_nil_of_right_ne_nil _ (List.cons_ne_nil _ _)

omit [FloatOps F] [FloatOps D] in
theorem PpoBatch.append_assoc (b c d : PpoBatch F D) :
    (b.append c).append d = b.append (c.append d) := by
  simp [PpoBatch.append, List.append_assoc]

omit [FloatOps F] [FloatOps D] in
theorem foldl_append_assoc (bs : List (PpoBatch F D)) (b c : PpoBatch F D) :
    bs.foldl PpoBatch.append (b.append c) = b.append (bs.foldl PpoBatch.append c) := by
  induction bs generalizing c with
  | nil => rfl
  | cons d bs ih => rw [List.foldl_cons, List.foldl_cons, PpoBatch.append_assoc, ih]

/-- **The batch of a list of complete trajectories** is made of the batch of each. -/
theorem fromRollout_flatten_iff {version : UInt64} {config : PpoConfig F}
    {a : List (PpoTransition F)} {behind : List (List (PpoTransition F))}
    (h : ∀ t ∈ a :: behind, Complete t) {b : PpoBatch F D} :
    PpoBatch.fromRollout W version (a :: behind).flatten config = .ok b ↔
      ∃ x xs, PpoBatch.fromRollout W version a config = .ok x ∧
        behind.mapM (PpoBatch.fromRollout W version · config) = .ok xs ∧
        b = xs.foldl PpoBatch.append x := by
  induction behind generalizing a b with
  | nil =>
    rw [List.flatten_cons, List.flatten_nil, List.append_nil]
    constructor
    · exact fun hb => ⟨b, [], hb, rfl, rfl⟩
    · rintro ⟨x, xs, hx, hxs, rfl⟩
      obtain rfl := Except.ok.inj hxs
      exact hx
  | cons c behind ih =>
    have hne : (c :: behind).flatten ≠ [] :=
      List.append_ne_nil_of_left_ne_nil (h c (by simp)).ne_nil _
    rw [List.flatten_cons, fromRollout_append_iff W (h a List.mem_cons_self) hne]
    constructor
    · rintro ⟨x, y, hx, hy, rfl⟩
      obtain ⟨z, zs, hz, hzs, rfl⟩ :=
        (ih fun t ht => h t (List.mem_cons_of_mem _ ht)).1 hy
      refine ⟨x, z :: zs, hx, ?_, by rw [List.foldl_cons, foldl_append_assoc]⟩
      rw [List.mapM_cons]
      exact contract_bind_eq_ok_iff.2 ⟨z, hz, contract_bind_eq_ok_iff.2 ⟨zs, hzs, rfl⟩⟩
    · rintro ⟨x, xs, hx, hxs, rfl⟩
      rw [List.mapM_cons] at hxs
      obtain ⟨z, hz, hxs⟩ := contract_bind_eq_ok_iff.1 hxs
      obtain ⟨zs, hzs, hxs⟩ := contract_bind_eq_ok_iff.1 hxs
      obtain rfl := Except.ok.inj hxs
      exact ⟨x, zs.foldl PpoBatch.append z, hx,
        (ih fun t ht => h t (List.mem_cons_of_mem _ ht)).2 ⟨z, zs, hz, hzs, rfl⟩,
        by rw [List.foldl_cons, foldl_append_assoc]⟩

end Training

end ALife
