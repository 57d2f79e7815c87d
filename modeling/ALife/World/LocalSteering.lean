/-
# Local steering

`crates/alife_world/src/headless/local_steering.rs`.  A step towards an observed
target goes straight when the straight direction is clear, and otherwise turns
to the first clear one of eight angles; a budget of detours is spent by the
steps that do not improve on the best observed distance and is refilled by the
steps that do.  Whatever the target does and whatever the clearances are, the
best distance never rises and the detours of a run are bounded by the distance
it starts from (`steered`).

Distances are elements of an ordered field.  The clearances of a step are read
from the world and are any nine values, `none` where one is not finite; what the
rest of `execute_move` makes of the chosen destination is any function.
-/

import ALife.Cognition.Motor
import ALife.Core.Units
import ALife.Machine.Checks
import ALife.Machine.Potential
import Mathlib

namespace ALife

open Machine

namespace World

/-- `MAX_NON_PROGRESS_STEPS`. -/
def maxNonProgressSteps : ℕ := 16

/-- `STEERING_ANGLES`, in degrees. -/
def steeringAngles : List ℤ := [0, -30, 30, -60, 60, -90, 90, -105, 105]

/-- The functions of the standard library that steering calls. -/
structure PlaneMath (R : Type) [Zero R] [LE R] where
  hypot : R → R → R
  atan2 : R → R → R
  cos : R → R
  sin : R → R
  toRadians : ℤ → R
  hypot_nonneg : ∀ x z, 0 ≤ hypot x z

structure LocalSteeringState (R : Type) where
  target : WorldEntityId
  nonProgressSteps : ℕ
  bestObservedDistance : R
  deriving DecidableEq, Repr

inductive WorldObjectKind where
  | agent | food | hazard | obstacle | token | ball | activityToy
  deriving DecidableEq, Repr

/-- `WorldObject`, as far as steering reads it. -/
structure WorldObject (R : Type) where
  kind : WorldObjectKind
  position : Vec3f R
  localSteering : Option (LocalSteeringState R)
  deriving DecidableEq, Repr

/-- `WorldObjectSaveState`, as far as steering reads it. -/
structure WorldObjectSaveState (R : Type) where
  kind : WorldObjectKind
  position : Vec3f R
  localSteering : Option (LocalSteeringState R)
  deriving DecidableEq, Repr

section Steering

variable {R : Type} [Field R] [LinearOrder R]

/-- `validate`; every element of the field is finite. -/
def LocalSteeringState.validate (state : LocalSteeringState R) : Contract Unit := do
  state.target.validate
  reject (maxNonProgressSteps < state.nonProgressSteps ∨ state.bestObservedDistance < 0)
    .invalidId

-- numerals of an arbitrary field by named facts
theorem atLeastTwo_two : Nat.AtLeastTwo 2 := ⟨le_rfl⟩

theorem atLeastTwo_five : Nat.AtLeastTwo 5 := ⟨by decide⟩

attribute [local instance] atLeastTwo_two atLeastTwo_five

/-- `select_clearance_step`. -/
def selectClearanceStep (ranges : Fin 9 → Option R) (step : R) (exhausted : Bool) :
    Option (Fin 9) :=
  let clear (index : Fin 9) : Bool := (ranges index).any fun range => step + 5 / 1000 ≤ range
  if clear 0 then some 0
  else if exhausted then none
  else [1, 2, 3, 4, 5, 6, 7, 8].find? clear

/-- The budget of detours towards the target is used up. -/
def WorldObject.exhausted (observer : WorldObject R) (target : WorldEntityId) : Bool :=
  observer.localSteering.any fun state =>
    state.target = target && maxNonProgressSteps ≤ state.nonProgressSteps

/-- The length of the step from the observer to the destination it would go to straight. -/
def stepLength (m : PlaneMath R) (observer : WorldObject R) (original : Vec3f R) : R :=
  m.hypot (original.x - observer.position.x) (original.z - observer.position.z)

/-- `steer_visible_step`: the destination of the step, and whether it is a detour. -/
def steerVisibleStep (m : PlaneMath R) (observer : WorldObject R) (target : WorldEntityId)
    (relative original : Vec3f R) (ranges : Fin 9 → Option R) : Option (Vec3f R × Bool) :=
  let step := stepLength m observer original
  if step ≤ 1 / 2 ^ 23 then some (original, false)
  else
    let bearing := m.atan2 relative.z relative.x
    (selectClearanceStep ranges step (observer.exhausted target)).map fun (index : Fin 9) =>
      if index = 0 then (original, false)
      else
        let yaw := bearing + m.toRadians (steeringAngles.getD index 0)
        (⟨observer.position.x + m.cos yaw * step, original.y,
          observer.position.z + m.sin yaw * step⟩, true)

/-- The state that was kept for the target. -/
def WorldObject.previous (object : WorldObject R) (target : WorldEntityId) :
    Option (LocalSteeringState R) :=
  object.localSteering.filter fun state => state.target = target

/-- The best distance that a recorded step starts from. -/
def bestBefore (m : PlaneMath R) (object : WorldObject R) (target : WorldEntityId)
    (relative : Vec3f R) : R :=
  let before := m.hypot relative.x relative.z
  (object.previous target).elim before fun state => min state.bestObservedDistance before

/-- The distance that a recorded step leads to. -/
def distanceAfter (m : PlaneMath R) (relative displacement : Vec3f R) : R :=
  m.hypot (relative.x - displacement.x) (relative.z - displacement.z)

/-- `commit_local_steering`. -/
def commitLocalSteering (m : PlaneMath R) (object : WorldObject R)
    (observedGoal : Option (WorldEntityId × Vec3f R)) (displacement : Vec3f R) (detour : Bool) :
    WorldObject R :=
  match observedGoal with
  | some (target, relative) =>
    let after := distanceAfter m relative displacement
    let best := bestBefore m object target relative
    let count := (object.previous target).elim 0 (·.nonProgressSteps)
    { object with
      localSteering := some
        { target
          nonProgressSteps :=
            if after + 1 / 1000 < best then 0
            -- `count.saturating_add(1).min(MAX_NON_PROGRESS_STEPS)`
            else if detour then min (min (count + 1) 255) maxNonProgressSteps
            else count
          bestObservedDistance := if after + 1 / 1000 < best then after else best } }
  | none =>
    if 1 / 100000 < m.hypot displacement.x displacement.z then { object with localSteering := none }
    else object

/-! ## Saving -/

def WorldObject.save (object : WorldObject R) : WorldObjectSaveState R :=
  ⟨object.kind, object.position, object.localSteering⟩

/-- `WorldObjectSaveState::validate`, as far as steering goes. -/
def WorldObjectSaveState.validate (saved : WorldObjectSaveState R) : Contract Unit :=
  match saved.localSteering with
  | some state => do
    state.validate
    reject (saved.kind ≠ .agent) .invalidId
  | none => .ok ()

def WorldObjectSaveState.restore (saved : WorldObjectSaveState R) : Contract (WorldObject R) := do
  saved.validate
  .ok ⟨saved.kind, saved.position, saved.localSteering⟩

/-! ## Runs -/

/-- A step towards the observed target: where the organism is, where the target is seen, where
the straight step would go, the clearances, and how far the move to a destination gets, if the
terrain and the objects on the way admit it. -/
structure Attempt (R : Type) where
  position : Vec3f R
  relative : Vec3f R
  original : Vec3f R
  ranges : Fin 9 → Option R
  moved : Vec3f R → Option (Vec3f R)

inductive SteerInput (R : Type) where
  | attempt (a : Attempt R)
  | reload

variable (m : PlaneMath R) (target : WorldEntityId)

/-- What steering chooses for the step. -/
def Attempt.choice (object : WorldObject R) (a : Attempt R) : Option (Vec3f R × Bool) :=
  steerVisibleStep m { object with position := a.position } target a.relative a.original a.ranges

/-- The displacement that is recorded, and whether by a detour; `none` when the step is blocked. -/
def Attempt.recorded (object : WorldObject R) (a : Attempt R) : Option (Vec3f R × Bool) := do
  let (destination, detour) ← a.choice m target object
  let displacement ← a.moved destination
  some (displacement, detour)

/-- The organism after a step or after the world was saved and restored. -/
def steer (object : WorldObject R) : SteerInput R → WorldObject R
  | .attempt a =>
    match a.recorded m target object with
    | some (displacement, detour) =>
      commitLocalSteering m { object with position := a.position } (some (target, a.relative))
        displacement detour
    | none => { object with position := a.position }
  | .reload =>
    match object.save.restore with
    | .ok restored => restored
    | .error _ => object

/-- A detour is taken. -/
def takesDetour (object : WorldObject R) : SteerInput R → Bool
  | .attempt a => (a.recorded m target object).any (·.2)
  | .reload => false

/-- The best distance falls by more than 0.001 below the one that the step starts from. -/
def improves (object : WorldObject R) : SteerInput R → Bool
  | .attempt a => (a.recorded m target object).any fun (displacement, _) =>
      distanceAfter m a.relative displacement + 1 / 1000 < bestBefore m object target a.relative
  | .reload => false

/-- The best distance that the first recorded step of the run starts from. -/
def firstBest : WorldObject R → List (SteerInput R) → Option R
  | _, [] => none
  | object, .attempt a :: inputs =>
    if (a.recorded m target object).isSome then some (bestBefore m object target a.relative)
    else firstBest (steer m target object (.attempt a)) inputs
  | object, .reload :: inputs => firstBest (steer m target object .reload) inputs

/-- What the controller promises of a run: the best distance never rises; between two
improvements at most 16 detours are taken, and in the whole run at most 16 for each 0.001 of the
first best distance and 16 more; a clear direct path is taken; and what is saved is restored. -/
structure Steered (object : WorldObject R) (inputs : List (SteerInput R)) : Prop where
  best_le : Along (steer m target) (fun object i => ∀ state, object.previous target = some state →
    ∃ next, (steer m target object i).previous target = some next ∧
      next.bestObservedDistance ≤ state.bestObservedDistance) object inputs
  between : ∀ pre mid post, inputs = pre ++ mid ++ post →
    Along (steer m target) (fun object i => improves m target object i = false)
      (pre.foldl (steer m target) object) mid →
    tally (steer m target) (fun object i => takesDetour m target object i = true)
      (pre.foldl (steer m target) object) mid ≤ maxNonProgressSteps
  total_le : ∀ d, firstBest m target object inputs = some d →
    (tally (steer m target) (fun object i => takesDetour m target object i = true)
      object inputs : R) ≤ (d / (1 / 1000) + 1) * maxNonProgressSteps
  direct : Along (steer m target) (fun object i => ∀ a, i = .attempt a →
    (∃ range, a.ranges 0 = some range ∧
      stepLength m { object with position := a.position } a.original + 5 / 1000 ≤ range) →
    a.choice m target object = some (a.original, false)) object inputs
  restored : Along (steer m target) (fun object i =>
    (steer m target object i).save.restore = .ok (steer m target object i)) object inputs

section Step

variable {m : PlaneMath R} {target : WorldEntityId} {object : WorldObject R} {a : Attempt R}
  {i : SteerInput R} {displacement : Vec3f R} {detour : Bool}

/-- The detours that are left. -/
def remaining (target : WorldEntityId) (object : WorldObject R) : ℕ :=
  maxNonProgressSteps - (object.previous target).elim 0 (·.nonProgressSteps)

/-- The best distance that is kept for the target. -/
def kept (target : WorldEntityId) (object : WorldObject R) : R :=
  (object.previous target).elim 0 (·.bestObservedDistance)

/-- Without a budget only the straight direction is chosen. -/
theorem index_eq_zero_of_exhausted {ranges : Fin 9 → Option R} {step : R} {index : Fin 9}
    (h : selectClearanceStep ranges step true = some index) : index = 0 := by
  unfold selectClearanceStep at h
  dsimp only at h
  split_ifs at h with hclear hexhausted
  · exact (Option.some.inj h).symm
  · exact absurd rfl hexhausted

/-- A detour is chosen only while the budget lasts. -/
theorem remaining_pos_of_choice {destination : Vec3f R}
    (h : a.choice m target object = some (destination, true)) : 0 < remaining target object := by
  by_contra hspent
  have hcount : 16 ≤ (object.previous target).elim 0 (·.nonProgressSteps) := by
    unfold remaining maxNonProgressSteps at hspent
    omega
  have hexhausted : WorldObject.exhausted { object with position := a.position } target = true := by
    cases hprevious : object.previous target with
    | none =>
      rw [hprevious] at hcount
      exact absurd hcount (by simp)
    | some state =>
      rw [hprevious] at hcount
      obtain ⟨hstate, htarget⟩ := Option.filter_eq_some_iff.1 hprevious
      unfold WorldObject.exhausted
      simp only [hstate, Option.any_some, Bool.and_eq_true, decide_eq_true_eq]
      exact ⟨by simpa using htarget, hcount⟩
  unfold Attempt.choice steerVisibleStep at h
  dsimp only at h
  split_ifs at h with hshort
  · simp at h
  · rw [hexhausted] at h
    obtain ⟨index, hindex, hchosen⟩ := Option.map_eq_some_iff.1 h
    rw [if_pos (index_eq_zero_of_exhausted hindex)] at hchosen
    simp at hchosen

/-- **What a recorded step keeps.** -/
theorem previous_steer (h : a.recorded m target object = some (displacement, detour)) :
    (steer m target object (.attempt a)).previous target = some
      { target
        nonProgressSteps :=
          if distanceAfter m a.relative displacement + 1 / 1000
              < bestBefore m object target a.relative then 0
          else if detour then
            min (min ((object.previous target).elim 0 (·.nonProgressSteps) + 1) 255)
              maxNonProgressSteps
          else (object.previous target).elim 0 (·.nonProgressSteps)
        bestObservedDistance :=
          if distanceAfter m a.relative displacement + 1 / 1000
              < bestBefore m object target a.relative then distanceAfter m a.relative displacement
          else bestBefore m object target a.relative } := by
  simp only [steer, h, commitLocalSteering, WorldObject.previous, Option.filter_some, decide_true,
    if_true]
  rfl

/-- A blocked step keeps the state. -/
theorem localSteering_steer_of_blocked (h : a.recorded m target object = none) :
    (steer m target object (.attempt a)).localSteering = object.localSteering := by
  simp only [steer, h]

/-- The best distance of a step is at most the one that is kept. -/
theorem bestBefore_le {state : LocalSteeringState R} (h : object.previous target = some state)
    (relative : Vec3f R) : bestBefore m object target relative ≤ state.bestObservedDistance := by
  unfold bestBefore
  rw [h]
  exact min_le_left _ _

theorem steer_reload (h : object.save.restore = .ok object) :
    steer m target object .reload = object := by
  simp only [steer, h]

/-- **A step pays for its detour** with one of those that are left; an improvement refills them. -/
theorem remaining_steer (h : object.save.restore = .ok object) :
    remaining target (steer m target object i) +
        (if takesDetour m target object i = true then 1 else 0) ≤
      remaining target object +
        (if improves m target object i = true then maxNonProgressSteps else 0) := by
  cases i with
  | reload =>
    rw [steer_reload h]
    simp [takesDetour, improves]
  | attempt a =>
    cases hrecorded : a.recorded m target object with
    | none =>
      have hsame :
          remaining target (steer m target object (.attempt a)) = remaining target object := by
        unfold remaining WorldObject.previous
        rw [localSteering_steer_of_blocked hrecorded]
      simp [takesDetour, improves, hrecorded, hsame]
    | some record =>
      obtain ⟨displacement, detour⟩ := record
      have hleft : detour = true → 0 < remaining target object := by
        rintro rfl
        obtain ⟨⟨destination, chosen⟩, hchoice, hmoved⟩ := Option.bind_eq_some_iff.1 hrecorded
        obtain ⟨displaced, -, hpair⟩ := Option.bind_eq_some_iff.1 hmoved
        obtain ⟨-, rfl⟩ := Prod.mk.inj (Option.some.inj hpair)
        exact remaining_pos_of_choice hchoice
      unfold remaining at hleft ⊢
      rw [previous_steer hrecorded]
      simp only [takesDetour, improves, hrecorded, Option.any_some, Option.elim_some,
        decide_eq_true_eq, maxNonProgressSteps] at hleft ⊢
      cases detour with
      | true =>
        have := hleft rfl
        split_ifs <;> omega
      | false =>
        simp only [Bool.false_eq_true, if_false]
        split_ifs <;> omega

/-- **A step pays for its improvement** with the best distance. -/
theorem kept_steer [IsStrictOrderedRing R] (h : object.save.restore = .ok object)
    (hkept : (object.previous target).isSome = true) :
    kept target (steer m target object i) +
        (if improves m target object i = true then 1 / 1000 else 0) ≤ kept target object := by
  obtain ⟨state, hstate⟩ := Option.isSome_iff_exists.1 hkept
  cases i with
  | reload =>
    rw [steer_reload h]
    simp [improves]
  | attempt a =>
    cases hrecorded : a.recorded m target object with
    | none =>
      have hsame : kept target (steer m target object (.attempt a)) = kept target object := by
        unfold kept WorldObject.previous
        rw [localSteering_steer_of_blocked hrecorded]
      simp [improves, hrecorded, hsame]
    | some record =>
      obtain ⟨displacement, detour⟩ := record
      have hbest := bestBefore_le (m := m) hstate a.relative
      unfold kept
      rw [previous_steer hrecorded, hstate]
      simp only [improves, hrecorded, Option.any_some, Option.elim_some, decide_eq_true_eq]
      split_ifs with himproves
      · exact (le_of_lt himproves).trans hbest
      · rwa [add_zero]

/-- A state is kept from the first recorded step on. -/
theorem isSome_previous_steer (h : object.save.restore = .ok object)
    (hkept : (object.previous target).isSome = true) :
    ((steer m target object i).previous target).isSome = true := by
  cases i with
  | reload => rwa [steer_reload h]
  | attempt a =>
    cases hrecorded : a.recorded m target object with
    | none =>
      unfold WorldObject.previous at hkept ⊢
      rwa [localSteering_steer_of_blocked hrecorded]
    | some record => rw [previous_steer hrecorded]; rfl

/-- **What can be restored.** -/
theorem restore_save_eq_ok_iff : object.save.restore = .ok object ↔
    ∀ state, object.localSteering = some state → state.target.validate = .ok () ∧
      state.nonProgressSteps ≤ maxNonProgressSteps ∧ 0 ≤ state.bestObservedDistance ∧
      object.kind = .agent := by
  obtain ⟨kind, position, steering⟩ := object
  unfold WorldObjectSaveState.restore WorldObjectSaveState.validate WorldObject.save
  rw [except_seq_eq_ok_iff]
  cases steering with
  | none => simp
  | some state =>
    simp only [and_true, Option.some.injEq, forall_eq']
    unfold LocalSteeringState.validate
    rw [except_seq_eq_ok_iff, except_seq_eq_ok_iff, reject_eq_ok_iff, reject_eq_ok_iff]
    simp only [not_or, not_lt, not_not, and_assoc]

/-- What a step leaves can be restored. -/
theorem restore_steer (hkind : object.kind = .agent) (htarget : target.validate = .ok ())
    (h : object.save.restore = .ok object) :
    (steer m target object i).kind = .agent ∧
      (steer m target object i).save.restore = .ok (steer m target object i) := by
  cases i with
  | reload =>
    rw [steer_reload h]
    exact ⟨hkind, h⟩
  | attempt a =>
    cases hrecorded : a.recorded m target object with
    | none =>
      have hagent : (steer m target object (.attempt a)).kind = .agent := by
        simp only [steer, hrecorded, hkind]
      refine ⟨hagent, restore_save_eq_ok_iff.2 fun state hstate => ?_⟩
      rw [localSteering_steer_of_blocked hrecorded] at hstate
      obtain ⟨hid, hcount, hbest, -⟩ := restore_save_eq_ok_iff.1 h state hstate
      exact ⟨hid, hcount, hbest, hagent⟩
    | some record =>
      obtain ⟨displacement, detour⟩ := record
      have hagent : (steer m target object (.attempt a)).kind = .agent := by
        simp only [steer, hrecorded, commitLocalSteering, hkind]
      refine ⟨hagent, restore_save_eq_ok_iff.2 fun state hstate => ?_⟩
      have hprevious := previous_steer hrecorded
      obtain ⟨hsame, htargeted⟩ := Option.filter_eq_some_iff.1 hprevious
      rw [hstate] at hsame
      obtain rfl := Option.some.inj hsame
      have hbefore : 0 ≤ bestBefore m object target a.relative := by
        unfold bestBefore
        cases hold : object.previous target with
        | none => exact m.hypot_nonneg _ _
        | some old =>
          have hstored := (Option.filter_eq_some_iff.1 hold).1
          exact le_min (restore_save_eq_ok_iff.1 h old hstored).2.2.1 (m.hypot_nonneg _ _)
      refine ⟨htarget, ?_, ?_, hagent⟩
      · dsimp only
        split_ifs
        · exact Nat.zero_le _
        · exact min_le_right _ _
        · cases hold : object.previous target with
          | none => exact Nat.zero_le _
          | some old =>
            have hstored := (Option.filter_eq_some_iff.1 hold).1
            exact (restore_save_eq_ok_iff.1 h old hstored).2.1
      · dsimp only
        split_ifs
        · exact m.hypot_nonneg _ _
        · exact hbefore

/-- A clear straight direction is taken, whatever the budget is. -/
theorem choice_of_clear {range : R} (hrange : a.ranges 0 = some range)
    (hclear : stepLength m { object with position := a.position } a.original + 5 / 1000 ≤ range) :
    a.choice m target object = some (a.original, false) := by
  unfold Attempt.choice steerVisibleStep
  dsimp only
  split_ifs with hshort
  · rfl
  · have hstraight : ∀ exhausted, selectClearanceStep a.ranges
        (stepLength m { object with position := a.position } a.original) exhausted = some 0 := by
      intro exhausted
      unfold selectClearanceStep
      dsimp only
      rw [if_pos (by simpa [hrange] using hclear)]
    rw [hstraight, Option.map_some, if_pos rfl]

end Step

section Runs

variable {m : PlaneMath R} {target : WorldEntityId} {object : WorldObject R}

/-- An organism that is saved and restored as it is. -/
def Sound (object : WorldObject R) : Prop :=
  object.kind = .agent ∧ object.save.restore = .ok object

theorem sound_steer (htarget : target.validate = .ok ()) (h : Sound object) (i : SteerInput R) :
    Sound (steer m target object i) := restore_steer h.1 htarget h.2

theorem sound_foldl (htarget : target.validate = .ok ()) (h : Sound object)
    (inputs : List (SteerInput R)) : Sound (inputs.foldl (steer m target) object) := by
  induction inputs generalizing object with
  | nil => exact h
  | cons i inputs ih => exact ih (sound_steer htarget h i)

/-- The detours of a run are paid by the budget and by the improvements. -/
theorem tally_takesDetour_le (htarget : target.validate = .ok ()) (h : Sound object)
    (inputs : List (SteerInput R)) :
    tally (steer m target) (fun object i => takesDetour m target object i = true) object inputs ≤
      remaining target object + maxNonProgressSteps * tally (steer m target)
        (fun object i => improves m target object i = true) object inputs := by
  have hpays : remaining target (inputs.foldl (steer m target) object) +
      total (steer m target) (fun object i => if takesDetour m target object i = true then 1 else 0)
        object inputs ≤
      remaining target object + total (steer m target)
        (fun object i => if improves m target object i = true then maxNonProgressSteps else 0)
        object inputs :=
    total_add_le (fun object i h => ⟨sound_steer htarget h i, remaining_steer h.2⟩) h inputs
  rw [total_indicator, total_indicator, mul_one, mul_comm _ maxNonProgressSteps] at hpays
  exact (Nat.le_add_left _ _).trans hpays

/-- The improvements of a run are paid by the best distance that is kept. -/
theorem tally_improves_le_kept [IsStrictOrderedRing R] (htarget : target.validate = .ok ())
    (h : Sound object) (hkept : (object.previous target).isSome = true)
    (inputs : List (SteerInput R)) :
    (tally (steer m target) (fun object i => improves m target object i = true) object inputs : R)
      * (1 / 1000) ≤ kept target object := by
  have hpays : kept target (inputs.foldl (steer m target) object) +
      total (steer m target)
        (fun object i => if improves m target object i = true then 1 / 1000 else 0) object inputs ≤
      kept target object :=
    total_add_le_of_le (I := fun object => Sound object ∧ (object.previous target).isSome = true)
      (fun object i h => ⟨⟨sound_steer htarget h.1 i, isSome_previous_steer h.1.2 h.2⟩,
        kept_steer h.1.2 h.2⟩) ⟨h, hkept⟩ inputs
  rw [total_indicator] at hpays
  refine le_trans (le_add_of_nonneg_left ?_) hpays
  obtain ⟨-, hrestored⟩ := sound_foldl (m := m) htarget h inputs
  unfold kept
  cases hstate : (inputs.foldl (steer m target) object).previous target with
  | none => exact le_rfl
  | some state =>
    exact (restore_save_eq_ok_iff.1 hrestored state (Option.filter_eq_some_iff.1 hstate).1).2.2.1

/-- **The first best distance pays for the improvements of the run.** -/
theorem tally_improves_le_firstBest [IsStrictOrderedRing R] (htarget : target.validate = .ok ())
    (h : Sound object) {inputs : List (SteerInput R)} {d : R}
    (hd : firstBest m target object inputs = some d) :
    (tally (steer m target) (fun object i => improves m target object i = true) object inputs : R)
      * (1 / 1000) ≤ d := by
  induction inputs generalizing object with
  | nil => cases hd
  | cons i inputs ih =>
    have hnext := sound_steer (m := m) htarget h i
    rw [tally_cons]
    cases i with
    | reload => simpa [improves] using ih hnext hd
    | attempt a =>
      rw [firstBest] at hd
      cases hrecorded : a.recorded m target object with
      | none =>
        rw [hrecorded] at hd
        simpa [improves, hrecorded] using ih hnext hd
      | some record =>
        obtain ⟨displacement, detour⟩ := record
        rw [hrecorded] at hd
        obtain rfl := Option.some.inj hd
        have hprevious := previous_steer hrecorded
        have hrest := tally_improves_le_kept (m := m) htarget hnext (by rw [hprevious]; rfl) inputs
        unfold kept at hrest
        rw [hprevious] at hrest
        simp only [improves, hrecorded, Option.any_some, Option.elim_some, decide_eq_true_eq]
          at hrest ⊢
        rw [Nat.cast_add, add_mul]
        split_ifs at hrest ⊢ with himproves
        · rw [Nat.cast_one, one_mul]
          linarith
        · rw [Nat.cast_zero, zero_mul, zero_add]
          exact hrest

/-- **Local steering keeps its promises.**  For every organism, every target it sees, and every
run of steps towards it, wherever the target is seen, whatever the clearances are and wherever the
world is saved and restored. -/
theorem steered [IsStrictOrderedRing R] (htarget : target.validate = .ok ())
    (hkind : object.kind = .agent) (hsaved : object.save.restore = .ok object)
    (inputs : List (SteerInput R)) : Steered m target object inputs := by
  have hsound : Sound object := ⟨hkind, hsaved⟩
  have hbudget : ∀ object, remaining target (object : WorldObject R) ≤ maxNonProgressSteps :=
    fun _ => Nat.sub_le _ _
  refine
    { best_le := along_iff_forall_split.2 fun pre i post _ state hstate => ?_
      between := fun pre mid post _ hmid => ?_
      total_le := fun d hd => ?_
      direct := along_iff_forall_split.2 fun pre i post _ a _ ⟨range, hrange, hclear⟩ =>
        choice_of_clear hrange hclear
      restored := along_iff_forall_split.2 fun pre i post _ =>
        (sound_steer htarget (sound_foldl htarget hsound pre) i).2 }
  · have hhere := (sound_foldl (m := m) htarget hsound pre).2
    have hkept : ((pre.foldl (steer m target) object).previous target).isSome = true := by
      rw [hstate]
      rfl
    obtain ⟨next, hnext⟩ := Option.isSome_iff_exists.1 (isSome_previous_steer (i := i) hhere hkept)
    have hpays := kept_steer (m := m) (i := i) hhere hkept
    unfold kept at hpays
    rw [hnext, hstate] at hpays
    refine ⟨next, hnext, le_trans (le_add_of_nonneg_right ?_) hpays⟩
    split_ifs
    · norm_num
    · exact le_rfl
  · have hhere := sound_foldl (m := m) htarget hsound pre
    have hpaid := tally_takesDetour_le (m := m) htarget hhere mid
    have hnone := tally_eq_zero (p := fun object i => improves m target object i = true)
      (hmid.mono fun object i h => by rw [h]; exact Bool.false_ne_true)
    rw [hnone] at hpaid
    exact hpaid.trans (hbudget _)
  · have hpaid := tally_takesDetour_le (m := m) htarget hsound inputs
    have hdistance := tally_improves_le_firstBest htarget hsound hd
    have hcount := (Nat.cast_le (α := R)).2
      (hpaid.trans (Nat.add_le_add_right (hbudget object) _))
    push_cast at hcount
    have hscaled : (tally (steer m target) (fun object i => improves m target object i = true)
        object inputs : R) ≤ d / (1 / 1000) := (le_div_iff₀ (by norm_num)).2 hdistance
    calc _ ≤ _ := hcount
      _ ≤ (maxNonProgressSteps : R) + maxNonProgressSteps * (d / (1 / 1000)) := by gcongr
      _ = _ := by ring

end Runs

end Steering

/-- The real plane. -/
noncomputable def realPlane : PlaneMath ℝ where
  hypot x z := √(x ^ 2 + z ^ 2)
  atan2 z x := Complex.arg ⟨x, z⟩
  cos := Real.cos
  sin := Real.sin
  toRadians degrees := degrees * Real.pi / 180
  hypot_nonneg _ _ := Real.sqrt_nonneg _

/-- A blocked organism turns, is saved, and goes straight. -/
theorem steered_turn : Steered realPlane ⟨7⟩ ⟨.agent, ⟨0, 0, 0⟩, none⟩
    [.attempt ⟨⟨0, 0, 0⟩, ⟨3, 0, 4⟩, ⟨3 / 10, 0, 4 / 10⟩,
        fun index => if index = 0 then none else some 1, some⟩,
      .reload,
      .attempt ⟨⟨3 / 10, 0, 4 / 10⟩, ⟨3, 0, 4⟩, ⟨6 / 10, 0, 8 / 10⟩, fun _ => some 1, some⟩] :=
  steered (by decide) rfl rfl _

end World

end ALife
