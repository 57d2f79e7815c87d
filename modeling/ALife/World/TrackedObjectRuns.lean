/-
# The registry over whole histories

A history is a list of calls, with saves, restores and failing calls among them.
Every observation that succeeds leaves a sighting: who saw which object under
which id, and which id went to make room.  `Recorded` ties the sightings so far
to the registry: the counter of an organism is above every id it has given, one
id was given for one key only, and an object whose id was not evicted since it
was seen still holds it.  One observation keeps this (`Recorded.sight`), and so
does a restore, because it leaves a registry that no call tells apart from the
one saved.
-/

import ALife.Machine.Runs
import ALife.World.TrackedObjectRestore

namespace ALife

open Machine Std

namespace TrackedObjectRegistry

/-- A call on the registry, queries and a save of the observers read back among
them. -/
inductive Call where
  | observe (observer : OrganismId) (o : Observation)
  | observeBatch (observer : OrganismId) (observations : List Observation)
  | saveState (observer : OrganismId)
  | record (observer : OrganismId) (id : TrackedObjectId)
  | roundTrip (observers : List OrganismId)
  deriving DecidableEq, Repr

/-- The registry after a call; a round trip that fails leaves the one at hand. -/
def step (r : TrackedObjectRegistry) : Call → TrackedObjectRegistry
  | .observe observer o => stateAfter (observe observer o r)
  | .observeBatch observer observations => stateAfter (observeBatch observer observations r)
  | .saveState _ => r
  | .record _ _ => r
  | .roundTrip observers =>
    match r.restore observers with
    | .ok r' => r'
    | .error _ => r

/-- What a call answers. -/
inductive Answer where
  | observed (result : Except Refusal TrackedObjectObservationReceipt)
  | batch (result : Except Refusal (List TrackedObjectId))
  | saved (result : Contract TrackedObjectRegistrySaveState)
  | record (result : Option TrackedObjectRecord)
  | restored (result : Contract TrackedObjectRegistry)

/-- The answer of one call. -/
def answer (r : TrackedObjectRegistry) : Call → Answer
  | .observe observer o => .observed (resultOf (observe observer o r))
  | .observeBatch observer observations => .batch (resultOf (observeBatch observer observations r))
  | .saveState observer => .saved (r.saveState observer)
  | .record observer id => .record (TrackedObjectRegistry.record r observer id)
  | .roundTrip observers => .restored (r.restore observers)

/-- The answers of a list of calls, in order. -/
def answers (r : TrackedObjectRegistry) (calls : List Call) : List Answer :=
  outputs step (fun r call => some (answer r call)) r calls

/-- A sighting: the observer, the object and the id it was answered with, and the
id that was evicted for it. -/
structure Sighting where
  observer : OrganismId
  provenance : PhysicalTrackingProvenance
  trackedObjectId : TrackedObjectId
  evicted : Option TrackedObjectId
  deriving DecidableEq, Repr

/-- The key of the object that was seen. -/
def Sighting.key (a : Sighting) : PhysicalTrackingKey := a.provenance.canonicalKey

/-- One observation, answered as a sighting. -/
def sight (observer : OrganismId) (o : Observation) : RegistryM Sighting := do
  let receipt ← observe observer o
  return ⟨observer, o.provenance, receipt.trackedObjectId, receipt.evicted⟩

/-- The observations made one by one. -/
def observeEach (observer : OrganismId) (observations : List Observation) :
    RegistryM (List Sighting) :=
  observations.mapM (sight observer)

/-- The sightings of a call: those of its observations made one by one, none when
the call fails. -/
def sightings (r : TrackedObjectRegistry) : Call → List Sighting
  | .observe observer o => ((resultOf (observeEach observer [o] r)).toOption).getD []
  | .observeBatch observer observations =>
    ((resultOf (observeEach observer observations r)).toOption).getD []
  | _ => []

/-- The objects tracked at the start, as if just seen. -/
def recorded (r : TrackedObjectRegistry) : List Sighting :=
  r.organisms.toList.flatMap fun e => e.2.recordsByKey.toList.map fun x =>
    ⟨⟨e.1⟩, x.2.trackingProvenance, x.2.trackedObjectId, none⟩

/-- The sightings of a run. -/
def sightingsOf : TrackedObjectRegistry → List Call → List Sighting
  | _, [] => []
  | r, call :: calls => sightings r call ++ sightingsOf (step r call) calls

/-- The whole history: what was tracked at the start, then what was seen. -/
def history (r : TrackedObjectRegistry) (calls : List Call) : List Sighting :=
  recorded r ++ sightingsOf r calls

/-- A round trip saves every organism that the registry has an entry for. -/
def RoundTripsCover (r : TrackedObjectRegistry) : Call → Prop
  | .roundTrip observers => r.Covers observers
  | _ => True

instance (r : TrackedObjectRegistry) : (call : Call) → Decidable (RoundTripsCover r call)
  | .roundTrip observers => inferInstanceAs (Decidable (r.Covers observers))
  | .observe _ _ | .observeBatch _ _ | .saveState _ | .record _ _ => isTrue trivial

/-- The registry after an observation on the staged copy. -/
theorem staged_install (r : TrackedObjectRegistry) (observer other : OrganismId)
    (s : OrganismTrackedObjects) :
    (r.install observer s).staged other = if observer = other then s else r.staged other := by
  unfold staged install
  rw [ExtTreeMap.getElem?_insert]
  by_cases h : observer = other
  · subst h
    simp
  · have hne : observer.raw ≠ other.raw := fun heq => h (OrganismId.mk.injEq _ _ ▸ heq)
    simp [h, hne]

theorem install_install (r : TrackedObjectRegistry) (observer : OrganismId)
    (s s' : OrganismTrackedObjects) :
    (r.install observer s).install observer s' = r.install observer s' := by
  unfold install
  rw [insert_insert_self]

/-- What one observation does, on the staged copy alone. -/
def observed (observer : OrganismId) (o : Observation) (s : OrganismTrackedObjects) :
    Except Refusal (TrackedObjectObservationReceipt × OrganismTrackedObjects) := do
  let beforeDigest ← s.canonicalDigest
  let (a, s') ← s.observe o
  let afterDigest ← s'.canonicalDigest
  .ok (⟨observer.raw, a.trackedObjectId, a.inserted, a.evicted, s'.recordsByKey.size.toUInt32,
    s'.nextId, beforeDigest, afterDigest⟩, s')

/-- An observation works on the staged copy and installs it when it succeeds. -/
theorem observe_apply (observer : OrganismId) (o : Observation) (r : TrackedObjectRegistry) :
    observe observer o r =
      match checked (r.stagedObserver observer) >>= observed observer o with
      | .ok (receipt, s') => .ok receipt (r.install observer s')
      | .error e => .error e r := by
  unfold observe observed
  rw [bind_apply, get_apply]
  dsimp only
  rw [bind_apply]
  cases r.stagedObserver observer with
  | error e => rfl
  | ok s =>
    rw [checked_ok, ofResult_ok]
    dsimp only
    rw [bind_apply]
    cases hbefore : s.canonicalDigest with
    | error e => simp [ofResult_error, bind, Except.bind, hbefore]
    | ok before =>
      rw [ofResult_ok]
      dsimp only
      rw [bind_apply]
      cases hobs : s.observe o with
      | error e => simp [ofResult_error, bind, Except.bind, hbefore, hobs]
      | ok x =>
        obtain ⟨a, s'⟩ := x
        rw [ofResult_ok]
        dsimp only
        rw [bind_apply]
        cases hafter : s'.canonicalDigest with
        | error e => simp [ofResult_error, bind, Except.bind, hbefore, hobs, hafter]
        | ok after =>
          simp only [ofResult_ok, bind, Except.bind, hbefore, hobs, hafter]
          rfl

/-- A batch works on the staged copy and installs it when it succeeds and is not
empty. -/
theorem observeBatch_apply (observer : OrganismId) (observations : List Observation)
    (r : TrackedObjectRegistry) :
    observeBatch observer observations r =
      match checked (r.stagedObserver observer) >>=
        fun s => s.observeAll observations with
      | .ok (ids, s') => .ok ids (if ids = [] then r else r.install observer s')
      | .error e => .error e r := by
  unfold observeBatch
  rw [bind_apply, get_apply]
  dsimp only
  rw [bind_apply]
  cases r.stagedObserver observer with
  | error e => rfl
  | ok s =>
    rw [checked_ok, ofResult_ok]
    dsimp only
    rw [bind_apply]
    cases hobs : s.observeAll observations with
    | error e => simp [ofResult_error, bind, Except.bind, hobs]
    | ok x =>
      obtain ⟨ids, s'⟩ := x
      simp only [ofResult_ok, bind, Except.bind, hobs]
      cases ids <;> rfl

/-- A failing observation changes nothing. -/
theorem observe_failed {observer : OrganismId} {o : Observation} {r r' : TrackedObjectRegistry}
    {e : Refusal} (h : observe observer o r = .error e r') : r' = r := by
  rw [observe_apply] at h
  split at h <;> cases h
  rfl

/-- A failing batch changes nothing. -/
theorem observeBatch_failed {observer : OrganismId} {observations : List Observation}
    {r r' : TrackedObjectRegistry} {e : Refusal}
    (h : observeBatch observer observations r = .error e r') : r' = r := by
  rw [observeBatch_apply] at h
  split at h <;> cases h
  rfl

/-- A batch adds an entry for its observer at most. -/
theorem covers_observeBatch {r : TrackedObjectRegistry} {observers : List OrganismId}
    (hr : r.Covers observers) {observer : OrganismId} (ho : observer ∈ observers)
    (observations : List Observation) :
    (stateAfter (observeBatch observer observations r)).Covers observers := by
  rw [observeBatch_apply]
  split
  · rw [stateAfter_ok]
    split_ifs
    · exact hr
    · intro raw hraw
      rw [ExtTreeMap.mem_keys, install, ExtTreeMap.mem_insert] at hraw
      obtain heq | hmem := hraw
      · rw [Std.compare_eq_iff_eq] at heq
        rwa [← heq]
      · exact hr raw (ExtTreeMap.mem_keys.2 hmem)
  · exact hr

/-- An invalid observer is refused. -/
theorem stagedObserver_of_invalid {r : TrackedObjectRegistry} {observer : OrganismId}
    (h : observer.raw = 0) : r.stagedObserver observer = .error .invalidId := by
  rw [stagedObserver, OrganismId.validate, reject, if_pos h]
  rfl

theorem stagedObserver_of_valid {r : TrackedObjectRegistry} {observer : OrganismId}
    (h : observer.raw ≠ 0) : r.stagedObserver observer = .ok (r.staged observer) :=
  stagedObserver_eq_ok_iff.2 ⟨h, rfl⟩

/-- In a sound organism an observation succeeds or fails as the one on the
records does: both digests exist. -/
theorem observed_of_sound {s : OrganismTrackedObjects} (hs : s.Sound) (observer : OrganismId)
    (o : Observation) :
    (∀ e, s.observe o = .error e → observed observer o s = .error e) ∧
      ∀ a s', s.observe o = .ok (a, s') → ∃ receipt, observed observer o s = .ok (receipt, s')
        ∧ receipt.trackedObjectId = a.trackedObjectId ∧ receipt.evicted = a.evicted := by
  obtain ⟨before, hbefore⟩ := hs.canonicalDigest_ok
  unfold observed
  rw [hbefore]
  refine ⟨fun e he => ?_, fun a s' ha => ?_⟩
  · simp [bind, Except.bind, he]
  · obtain ⟨after, hafter⟩ := (hs.observe ha).canonicalDigest_ok
    simp [bind, Except.bind, ha, hafter]

/-- A sighting in a sound registry follows the observation on the staged copy. -/
theorem sight_apply {r : TrackedObjectRegistry} (hr : r.Sound) {observer : OrganismId}
    (hobserver : observer.raw ≠ 0) (o : Observation) :
    sight observer o r =
      match (r.staged observer).observe o with
      | .ok (a, s') =>
        .ok ⟨observer, o.provenance, a.trackedObjectId, a.evicted⟩ (r.install observer s')
      | .error e => .error e r := by
  obtain ⟨herr, hok⟩ := observed_of_sound (hr.staged observer).2.2.2 observer o
  unfold sight
  rw [bind_apply, observe_apply, stagedObserver_of_valid hobserver, checked_ok]
  cases hobs : (r.staged observer).observe o with
  | error e =>
    simp only [bind, Except.bind, herr e hobs]
  | ok x =>
    obtain ⟨a, s'⟩ := x
    obtain ⟨receipt, hreceipt, hid, hevicted⟩ := hok a s' hobs
    simp only [bind, Except.bind, hreceipt, pure_apply, hid, hevicted]

theorem sight_of_invalid {r : TrackedObjectRegistry} {observer : OrganismId}
    (hobserver : observer.raw = 0) (o : Observation) :
    sight observer o r = .error (.contract .invalidId) r := by
  unfold sight
  rw [bind_apply, observe_apply, stagedObserver_of_invalid hobserver, checked_error]
  rfl

/-- All that a sighting in a sound registry can do. -/
theorem sight_cases {r r' : TrackedObjectRegistry} (hr : r.Sound) {observer : OrganismId}
    {o : Observation} {a : Sighting} (h : sight observer o r = .ok a r') :
    observer.raw ≠ 0 ∧ ∃ b s', (r.staged observer).observe o = .ok (b, s')
      ∧ r' = r.install observer s'
      ∧ a = ⟨observer, o.provenance, b.trackedObjectId, b.evicted⟩ := by
  by_cases hobserver : observer.raw = 0
  · rw [sight_of_invalid hobserver] at h
    cases h
  · refine ⟨hobserver, ?_⟩
    rw [sight_apply hr hobserver] at h
    split at h
    · rename_i b s' hobs
      cases h
      exact ⟨b, s', hobs, rfl, rfl⟩
    · cases h

/-- A sound registry stays sound when an organism of its own is installed. -/
theorem Sound.install {r : TrackedObjectRegistry} (hr : r.Sound) {observer : OrganismId}
    (hobserver : observer.raw ≠ 0) {s : OrganismTrackedObjects} (hs : s.Sound)
    (hraw : s.organismIdRaw = observer.raw) (hseed : s.worldSeed = r.worldSeed)
    (hcap : s.capacity = r.perOrganismCapacity) : (r.install observer s).Sound where
  capacity := hr.capacity
  organism := by
    intro raw s' hs'
    obtain ⟨rfl, rfl⟩ | ⟨-, hold⟩ := getElem?_insert_eq_some_iff.1 hs'
    · exact ⟨hobserver, hraw, hseed, hcap, hs⟩
    · exact hr.organism raw s' hold

/-- An observation on the staged copy, installed, keeps the registry sound. -/
theorem Sound.install_observed {r : TrackedObjectRegistry} (hr : r.Sound) {observer : OrganismId}
    (hobserver : observer.raw ≠ 0) {o : Observation} {a : Observed} {s : OrganismTrackedObjects}
    (h : (r.staged observer).observe o = .ok (a, s)) : (r.install observer s).Sound := by
  obtain ⟨hraw, hseed, hcap, hs⟩ := hr.staged observer
  obtain ⟨hraw', hseed', hcap', -⟩ := OrganismTrackedObjects.observe_frame h
  exact hr.install hobserver (hs.observe h) (hraw'.trans hraw) (hseed'.trans hseed)
    (hcap'.trans hcap)

/-- The observations of one organism made one by one do what the loop of the
batch does on the staged copy, and stop with its error. -/
theorem observeEach_spec {r : TrackedObjectRegistry} (hr : r.Sound) {observer : OrganismId}
    (hobserver : observer.raw ≠ 0) (observations : List Observation) :
    (∀ ids s, (r.staged observer).observeAll observations = .ok (ids, s) →
      ∃ seen, observeEach observer observations r
        = .ok seen (if ids = [] then r else r.install observer s)
        ∧ seen.map (·.trackedObjectId) = ids) ∧
    ∀ e, (r.staged observer).observeAll observations = .error e →
      ∃ r', observeEach observer observations r = .error e r' := by
  induction observations generalizing r with
  | nil =>
    refine ⟨fun ids s h => ?_, fun e h => ?_⟩
    · cases h
      exact ⟨[], rfl, rfl⟩
    · cases h
  | cons o rest ih =>
    have hstep : ∀ x, (r.staged observer).observe o = x → observeEach observer (o :: rest) r =
        match x with
        | .ok (a, s) => (observeEach observer rest >>= fun seen => pure (⟨observer, o.provenance,
            a.trackedObjectId, a.evicted⟩ :: seen)) (r.install observer s)
        | .error e => .error e r := by
      rintro x rfl
      unfold observeEach
      rw [List.mapM_cons, bind_apply, sight_apply hr hobserver]
      cases (r.staged observer).observe o <;> rfl
    simp only [OrganismTrackedObjects.observeAll]
    cases hobs : (r.staged observer).observe o with
    | error e₀ =>
      rw [hstep _ hobs]
      refine ⟨fun ids s h => ?_, fun e h => ?_⟩
      · cases h
      · cases h
        exact ⟨r, rfl⟩
    | ok x =>
      obtain ⟨a, s₁⟩ := x
      have hr₁ : (r.install observer s₁).Sound := hr.install_observed hobserver hobs
      obtain ⟨ihok, iherr⟩ := ih hr₁
      rw [staged_install, if_pos rfl] at ihok iherr
      rw [hstep _ hobs]
      dsimp only
      rw [bind_apply]
      cases hrest : s₁.observeAll rest with
      | error e₀ =>
        obtain ⟨r', hr'⟩ := iherr e₀ hrest
        rw [hr']
        refine ⟨fun ids s h => ?_, fun e h => ?_⟩
        · simp [bind, Except.bind, hrest] at h
        · simp only [bind, Except.bind, hrest] at h
          cases h
          exact ⟨r', rfl⟩
      | ok y =>
        obtain ⟨ids₀, s₂⟩ := y
        obtain ⟨seen, hseen, hids⟩ := ihok ids₀ s₂ hrest
        rw [hseen]
        refine ⟨fun ids s h => ?_, fun e h => ?_⟩
        · simp only [bind, Except.bind, hrest] at h
          cases h
          refine ⟨⟨observer, o.provenance, a.trackedObjectId, a.evicted⟩ :: seen, ?_,
            by rw [List.map_cons, hids]⟩
          rw [if_neg (List.cons_ne_nil _ _)]
          -- Without further observations the copy installed first is the last one.
          split_ifs with hnil
          · subst hnil
            cases rest with
            | nil =>
              cases hrest
              rfl
            | cons o' rest =>
              simp only [OrganismTrackedObjects.observeAll, refusal_bind_eq_ok_iff] at hrest
              obtain ⟨_, -, _, -, h⟩ := hrest
              cases h
          · rw [install_install]
            rfl
        · simp [bind, Except.bind, hrest] at h

/-- A batch answers the ids, and leaves the registry, of its observations made one
by one; it fails with their error when one of them fails. -/
def BatchesAreSequences (r : TrackedObjectRegistry) : Prop :=
  ∀ observer : OrganismId, observer.raw ≠ 0 → ∀ observations : List Observation,
    (∀ ids r', observeBatch observer observations r = .ok ids r' ↔
      ∃ seen, observeEach observer observations r = .ok seen r'
        ∧ seen.map (·.trackedObjectId) = ids) ∧
    ∀ e, resultOf (observeBatch observer observations r) = .error e ↔
      resultOf (observeEach observer observations r) = .error e

theorem batchesAreSequences_of_sound {r : TrackedObjectRegistry} (hr : r.Sound) :
    r.BatchesAreSequences := by
  intro observer hobserver observations
  obtain ⟨hok, herr⟩ := observeEach_spec hr hobserver observations
  rw [observeBatch_apply, stagedObserver_of_valid hobserver, checked_ok]
  simp only [bind, Except.bind]
  cases hall : (r.staged observer).observeAll observations with
  | error e =>
    obtain ⟨r', hr'⟩ := herr e hall
    simp [hr', resultOf]
  | ok x =>
    obtain ⟨ids, s⟩ := x
    obtain ⟨seen, hseen, hids⟩ := hok ids s hall
    simp only [hseen, resultOf, EStateM.Result.ok.injEq, reduceCtorEq, implies_true, and_true]
    intro ids' r'
    constructor
    · rintro ⟨rfl, rfl⟩
      exact ⟨seen, ⟨rfl, rfl⟩, hids⟩
    · rintro ⟨_, ⟨rfl, rfl⟩, rfl⟩
      exact ⟨hids.symm, rfl⟩

/-- A call of the registry that fails leaves it as it was. -/
def FailuresKeep (r : TrackedObjectRegistry) : Prop :=
  (∀ observer o e r', observe observer o r = .error e r' → r' = r) ∧
    ∀ observer observations e r', observeBatch observer observations r = .error e r' → r' = r

theorem stagedObserver_congr {r r' : TrackedObjectRegistry} (h : r.Alike r')
    (observer : OrganismId) : r'.stagedObserver observer = r.stagedObserver observer := by
  by_cases hobserver : observer.raw = 0
  · rw [stagedObserver_of_invalid hobserver, stagedObserver_of_invalid hobserver]
  · rw [stagedObserver_of_valid hobserver, stagedObserver_of_valid hobserver, h.staged]

namespace Alike

variable {r r' : TrackedObjectRegistry}

theorem install (h : r.Alike r') (observer : OrganismId) (s : OrganismTrackedObjects) :
    (r.install observer s).Alike (r'.install observer s) where
  worldSeed := h.worldSeed
  capacity := h.capacity
  staged := by
    intro other
    rw [staged_install, staged_install, h.staged]

/-- Alike registries save the same. -/
theorem saveState (h : r.Alike r') (hr : r.Sound) (hr' : r'.Sound) (observer : OrganismId) :
    r'.saveState observer = r.saveState observer := by
  by_cases hobserver : observer.raw = 0
  · have hinvalid : observer.validate = .error .invalidId := by
      rw [OrganismId.validate, reject, if_pos hobserver]
    rw [TrackedObjectRegistry.saveState, TrackedObjectRegistry.saveState, hinvalid]
    rfl
  · rw [saveState_of_sound hr hobserver, saveState_of_sound hr' hobserver, h.staged]

/-- Alike registries read the same back. -/
theorem restore (h : r.Alike r') (hr : r.Sound) (hr' : r'.Sound) (observers : List OrganismId) :
    r'.restore observers = r.restore observers := by
  have hsave : r'.saveState = r.saveState := funext fun o => h.saveState hr hr' o
  rw [TrackedObjectRegistry.restore, TrackedObjectRegistry.restore, hsave, h.worldSeed,
    h.capacity]

/-- Alike registries find the same records. -/
theorem record (h : r.Alike r') (observer : OrganismId) (id : TrackedObjectId) :
    r'.record observer id = r.record observer id := by
  have hrecord : ∀ r : TrackedObjectRegistry, r.record observer id =
      ((r.staged observer).recordsByKey.toList.map (·.2)).find?
        fun record => record.trackedObjectId = id := by
    intro r
    unfold TrackedObjectRegistry.record TrackedObjectRegistry.staged
    cases r.organisms[observer.raw]? with
    | none => simp [OrganismTrackedObjects.new]
    | some s => rfl
  rw [hrecord, hrecord, h.staged]

/-- Alike registries answer a call alike and stay alike, and the call keeps both sound. -/
theorem step (h : r.Alike r') (hr : r.Sound) (hr' : r'.Sound) (call : Call) :
    answer r' call = answer r call ∧ (step r call).Alike (step r' call) := by
  cases call with
  | observe observer o =>
    simp only [answer, TrackedObjectRegistry.step, observe_apply, stagedObserver_congr h]
    cases checked (r.stagedObserver observer) >>= observed observer o with
    | error e => exact ⟨rfl, h⟩
    | ok x => exact ⟨rfl, h.install observer x.2⟩
  | observeBatch observer observations =>
    simp only [answer, TrackedObjectRegistry.step, observeBatch_apply, stagedObserver_congr h]
    cases checked (r.stagedObserver observer) >>= fun s => s.observeAll observations with
    | error e => exact ⟨rfl, h⟩
    | ok x =>
      refine ⟨rfl, ?_⟩
      simp only [stateAfter]
      split_ifs
      · exact h
      · exact h.install observer x.2
  | saveState observer => exact ⟨congrArg Answer.saved (h.saveState hr hr' observer), h⟩
  | record observer id => exact ⟨congrArg Answer.record (h.record observer id), h⟩
  | roundTrip observers =>
    simp only [answer, TrackedObjectRegistry.step, h.restore hr hr' observers]
    cases r.restore observers with
    | error e => exact ⟨trivial, h⟩
    | ok r'' => exact ⟨trivial, rfl, rfl, fun _ => rfl⟩

end Alike

/-- The registry leads to another one by sightings, with restores in between. -/
inductive Leads (r : TrackedObjectRegistry) : List Sighting → TrackedObjectRegistry → Prop where
  | refl : Leads r [] r
  | sight {log : List Sighting} {r' r'' : TrackedObjectRegistry} {observer : OrganismId}
      {o : Observation} {a : Sighting} (h : Leads r log r') (ha : sight observer o r' = .ok a r'') :
      Leads r (log ++ [a]) r''
  | restored {log : List Sighting} {r' r'' : TrackedObjectRegistry} (h : Leads r log r')
      (halike : r'.Alike r'') (hsound : r''.Sound) : Leads r log r''

namespace Leads

variable {r r' r'' : TrackedObjectRegistry} {log log' : List Sighting}

theorem trans (h : Leads r log r') (h' : Leads r' log' r'') : Leads r (log ++ log') r'' := by
  induction h' with
  | refl => rwa [List.append_nil]
  | sight _ ha ih =>
    rw [← List.append_assoc]
    exact ih.sight ha
  | restored _ halike hsound ih => exact ih.restored halike hsound

/-- Sightings and restores keep a sound registry sound. -/
theorem sound (h : Leads r log r') (hr : r.Sound) : r'.Sound := by
  induction h with
  | refl => exact hr
  | sight _ ha ih =>
    obtain ⟨hobserver, b, s', hobs, rfl, -⟩ := sight_cases ih ha
    exact ih.install_observed hobserver hobs
  | restored _ _ hsound _ => exact hsound

/-- Observations made one by one lead by their sightings. -/
theorem of_observeEach {observer : OrganismId} {observations : List Observation}
    (h : observeEach observer observations r = .ok log r') : Leads r log r' := by
  induction observations generalizing r log with
  | nil =>
    cases h
    exact .refl
  | cons o rest ih =>
    unfold observeEach at h
    rw [List.mapM_cons, bind_eq_ok_iff] at h
    obtain ⟨a, r₁, ha, h⟩ := h
    obtain ⟨seen, r₂, hseen, h⟩ := bind_eq_ok_iff.1 h
    cases h
    exact (Leads.refl.sight ha).trans (ih hseen)

end Leads

/-- One observation, as a list of one. -/
theorem observeEach_singleton (observer : OrganismId) (o : Observation)
    (r : TrackedObjectRegistry) :
    observeEach observer [o] r = match sight observer o r with
      | .ok a r' => .ok [a] r'
      | .error e r' => .error e r' := by
  unfold observeEach
  rw [List.mapM_cons, bind_apply]
  cases sight observer o r <;> rfl

/-- A call leads by its sightings. -/
theorem leads_step {r : TrackedObjectRegistry} (hr : r.Sound) (call : Call)
    (hcover : RoundTripsCover r call) : Leads r (sightings r call) (step r call) := by
  cases call with
  | observe observer o =>
    have hstate : TrackedObjectRegistry.step r (.observe observer o)
        = stateAfter (sight observer o r) := by
      unfold sight
      rw [bind_apply]
      change stateAfter (observe observer o r) = _
      cases observe observer o r <;> rfl
    rw [hstate, sightings, observeEach_singleton]
    cases h : sight observer o r with
    | ok a r' => exact Leads.refl.sight h
    | error e r' =>
      have hsame : r' = r := by
        unfold sight at h
        obtain h | ⟨receipt, r₁, -, h⟩ := bind_eq_error_iff.1 h
        · exact observe_failed h
        · cases h
      rw [hsame]
      exact .refl
  | observeBatch observer observations =>
    simp only [sightings, TrackedObjectRegistry.step]
    by_cases hobserver : observer.raw = 0
    · have hfail : observeBatch observer observations r = .error (.contract .invalidId) r := by
        rw [observeBatch_apply, stagedObserver_of_invalid hobserver, checked_error]
        rfl
      have hnone : (resultOf (observeEach observer observations r)).toOption.getD [] = [] := by
        cases observations with
        | nil => rfl
        | cons o rest =>
          unfold observeEach
          rw [List.mapM_cons, bind_apply, sight_of_invalid hobserver]
          rfl
      rw [hfail, hnone]
      exact .refl
    · obtain ⟨hok, herr⟩ := batchesAreSequences_of_sound hr observer hobserver observations
      cases h : observeBatch observer observations r with
      | ok ids r' =>
        obtain ⟨seen, hseen, -⟩ := (hok ids r').1 h
        rw [hseen]
        exact .of_observeEach hseen
      | error e r' =>
        have heach := (herr e).1 (by rw [h]; rfl)
        rw [heach, observeBatch_failed h]
        exact .refl
  | saveState observer => exact .refl
  | record observer id => exact .refl
  | roundTrip observers =>
    simp only [sightings, TrackedObjectRegistry.step]
    cases h : r.restore observers with
    | error e => exact .refl
    | ok r' => exact Leads.refl.restored (alike_of_restore hr hcover h) (sound_of_restore h)

/-- A run leads by its sightings. -/
theorem leads_run {r : TrackedObjectRegistry} (hr : r.Sound) {calls : List Call}
    (hcover : Along step RoundTripsCover r calls) :
    Leads r (sightingsOf r calls) (calls.foldl step r) := by
  induction calls generalizing r with
  | nil => exact .refl
  | cons call calls ih =>
    have hstep := leads_step hr call hcover.1
    exact hstep.trans (ih (hstep.sound hr) hcover.2)

/-- Every call keeps a sound registry sound. -/
theorem Sound.step {r : TrackedObjectRegistry} (hr : r.Sound) (call : Call) :
    (step r call).Sound := by
  cases call with
  | observe observer o => exact (leads_step hr (.observe observer o) trivial).sound hr
  | observeBatch observer observations =>
    exact (leads_step hr (.observeBatch observer observations) trivial).sound hr
  | saveState observer => exact hr
  | record observer id => exact hr
  | roundTrip observers =>
    simp only [TrackedObjectRegistry.step]
    split
    · rename_i r' h
      exact sound_of_restore h
    · exact hr

/-- Alike sound registries answer every list of calls alike. -/
theorem Alike.answers {r r' : TrackedObjectRegistry} (h : r.Alike r') (hr : r.Sound)
    (hr' : r'.Sound) (calls : List Call) : answers r' calls = answers r calls := by
  induction calls generalizing r r' with
  | nil => rfl
  | cons call calls ih =>
    obtain ⟨hanswer, hnext⟩ := h.step hr hr' call
    have htail := ih hnext (hr.step call) (hr'.step call)
    unfold TrackedObjectRegistry.answers at htail ⊢
    rw [outputs, outputs, htail, hanswer]

/-- The object keeps its id for as long as it is tracked: two sightings of one
object answer the same id unless a sighting in between evicted it. -/
def KeepsIds (log : List Sighting) : Prop :=
  ∀ pre a mid b post, log = pre ++ a :: (mid ++ b :: post) → a.observer = b.observer →
    a.provenance = b.provenance →
    (∀ c ∈ mid, c.observer = a.observer → c.evicted ≠ some a.trackedObjectId) →
    b.trackedObjectId = a.trackedObjectId

/-- No id is given to a second object. -/
def NeverReassigns (log : List Sighting) : Prop :=
  ∀ a ∈ log, ∀ b ∈ log, a.observer = b.observer → a.trackedObjectId = b.trackedObjectId →
    a.provenance = b.provenance

/-- How the sightings so far stand to the registry. -/
structure Recorded (log : List Sighting) (r : TrackedObjectRegistry) : Prop where
  below : ∀ a ∈ log, a.trackedObjectId.raw.toNat < (r.staged a.observer).nextId.toNat
  one : ∀ a ∈ log, ∀ b ∈ log, a.observer = b.observer → a.trackedObjectId = b.trackedObjectId →
    a.key = b.key
  known : ∀ observer k id, (r.staged observer).Holds k id →
    ∃ a ∈ log, a.observer = observer ∧ a.trackedObjectId = id ∧ a.key = k
  live : ∀ pre a post, log = pre ++ a :: post →
    (∀ c ∈ post, c.observer = a.observer → c.evicted ≠ some a.trackedObjectId) →
    (r.staged a.observer).Holds a.key a.trackedObjectId
  keeps : KeepsIds log

/-- A list with one item appended, split at an item. -/
theorem append_singleton_split {α : Type} {l pre post : List α} {a b : α}
    (h : l ++ [b] = pre ++ a :: post) :
    (l = pre ∧ a = b ∧ post = []) ∨ ∃ post', post = post' ++ [b] ∧ l = pre ++ a :: post' := by
  obtain rfl | ⟨post', c, rfl⟩ := List.eq_nil_or_concat' post
  · obtain ⟨rfl, hb⟩ := List.append_inj' h rfl
    cases hb
    exact .inl ⟨rfl, rfl, rfl⟩
  · rw [← List.cons_append, ← List.append_assoc] at h
    obtain ⟨rfl, hb⟩ := List.append_inj' h rfl
    cases hb
    exact .inr ⟨post', rfl, rfl⟩

namespace Recorded

variable {log : List Sighting} {r r' : TrackedObjectRegistry}

/-- A restore keeps the record: it is read off the staged copies. -/
theorem alike (h : Recorded log r) (halike : r.Alike r') : Recorded log r' where
  below := by
    intro a ha
    rw [halike.staged]
    exact h.below a ha
  one := h.one
  known := by
    intro observer k id hid
    rw [halike.staged] at hid
    exact h.known observer k id hid
  live := by
    intro pre a post hlog hpost
    rw [halike.staged]
    exact h.live pre a post hlog hpost
  keeps := h.keeps

/-- **One observation keeps the record.** -/
theorem sight (h : Recorded log r) (hr : r.Sound) {observer : OrganismId} {o : Observation}
    {b : Sighting} (hb : sight observer o r = .ok b r') : Recorded (log ++ [b]) r' := by
  obtain ⟨hobserver, a, s', hobs, rfl, rfl⟩ := sight_cases hr hb
  have hs := (hr.staged observer).2.2.2
  have hholds := OrganismTrackedObjects.observe_holds hobs
  have hnext := (OrganismTrackedObjects.observe_frame hobs).2.2.2
  -- A sighting before that is not evicted still holds its id.
  have hlive : ∀ pre c post, log = pre ++ c :: post → c.observer = observer →
      (∀ d ∈ post, d.observer = c.observer → d.evicted ≠ some c.trackedObjectId) →
      (r.staged observer).Holds c.key c.trackedObjectId := by
    rintro pre c post hlog rfl hpost
    exact h.live pre c post hlog hpost
  refine ⟨fun c hc => ?_, ?_, fun other k id hid => ?_, fun pre c post hlog hpost => ?_,
    fun pre c mid d post hlog hsame hprov hmid => ?_⟩
  · rw [staged_install]
    obtain hc | hc := List.mem_append.1 hc
    · have hbelow := h.below c hc
      split_ifs with hother
      · subst hother
        omega
      · exact hbelow
    · rw [List.mem_singleton.1 hc, if_pos rfl]
      exact ((hs.observe hobs).holds_bounds hholds).2
  · -- The id answered is one that the key holds already, or one above all given.
    have hnew : ∀ c ∈ log, c.observer = observer → c.trackedObjectId = a.trackedObjectId →
        c.key = o.provenance.canonicalKey := by
      intro c hc hco hid
      obtain hheld | hfresh := OrganismTrackedObjects.observe_of_not_holds hobs
      · obtain ⟨d, hd, hdo, hdid, hdkey⟩ := h.known observer _ _ hheld
        rw [h.one c hc d hd (hco.trans hdo.symm) (hid.trans hdid.symm), hdkey]
      · have hbelow := h.below c hc
        rw [hco, hid, hfresh] at hbelow
        exact absurd hbelow (lt_irrefl _)
    intro c hc d hd hsame hid
    obtain hc | hc := List.mem_append.1 hc <;> obtain hd | hd := List.mem_append.1 hd
    · exact h.one c hc d hd hsame hid
    · rw [List.mem_singleton.1 hd] at hsame hid ⊢
      exact hnew c hc hsame hid
    · rw [List.mem_singleton.1 hc] at hsame hid ⊢
      exact (hnew d hd hsame.symm hid.symm).symm
    · rw [List.mem_singleton.1 hc, List.mem_singleton.1 hd]
  · rw [staged_install] at hid
    split_ifs at hid with hother
    · subst hother
      obtain hold | ⟨rfl, rfl⟩ := hs.holds_of_observe hobs hid
      · obtain ⟨c, hc, hrest⟩ := h.known observer k id hold
        exact ⟨c, List.mem_append_left _ hc, hrest⟩
      · exact ⟨_, List.mem_append_right _ (List.mem_singleton_self _), rfl, rfl, rfl⟩
    · obtain ⟨c, hc, hrest⟩ := h.known other k id hid
      exact ⟨c, List.mem_append_left _ hc, hrest⟩
  · rw [staged_install]
    obtain ⟨rfl, rfl, rfl⟩ | ⟨post', rfl, rfl⟩ := append_singleton_split hlog
    · rw [if_pos rfl]
      exact hholds
    · have hpost' : ∀ d ∈ post', d.observer = c.observer → d.evicted ≠ some c.trackedObjectId :=
        fun d hd => hpost d (List.mem_append_left _ hd)
      split_ifs with hother
      · have hheld := hlive pre c post' rfl hother.symm hpost'
        obtain hkept | hgone := hs.observe_keeps hobs hheld
        · exact hkept
        · exact absurd hgone (hpost _ (List.mem_append_right _ (List.mem_singleton_self _)) hother)
      · exact h.live pre c post' rfl hpost'
  · obtain ⟨rfl, hcb, hnil⟩ | ⟨tail, htail, rfl⟩ := append_singleton_split hlog
    · exact absurd hnil (by simp)
    · obtain ⟨rfl, rfl, rfl⟩ | ⟨post', rfl, rfl⟩ := append_singleton_split htail.symm
      · have hheld := hlive pre c tail rfl hsame hmid
        unfold Sighting.key at hheld
        rw [hprov] at hheld
        exact OrganismTrackedObjects.observe_of_holds hobs hheld
      · exact h.keeps pre c mid d post' rfl hsame hprov hmid

end Recorded

/-- What is tracked at the start holds the id it is recorded with. -/
theorem holds_of_mem_recorded {r : TrackedObjectRegistry} (hr : r.Sound) {a : Sighting}
    (ha : a ∈ recorded r) : (r.staged a.observer).Holds a.key a.trackedObjectId := by
  obtain ⟨⟨raw, s⟩, he, ha⟩ := List.mem_flatMap.1 ha
  obtain ⟨⟨k, record⟩, hrecord, rfl⟩ := List.mem_map.1 ha
  have hs := ExtTreeMap.mem_toList_iff_getElem?_eq_some.1 he
  have hget := ExtTreeMap.mem_toList_iff_getElem?_eq_some.1 hrecord
  obtain ⟨-, -, -, -, hsound⟩ := hr.organism raw s hs
  refine ⟨record, ?_, rfl⟩
  unfold Sighting.key TrackedObjectRegistry.staged
  dsimp only
  rw [hs, Option.getD_some, (hsound.record k record hget).canonical]
  exact hget

/-- Whatever is tracked at the start is recorded. -/
theorem mem_recorded_of_holds {r : TrackedObjectRegistry} (hr : r.Sound) {observer : OrganismId}
    {k : PhysicalTrackingKey} {id : TrackedObjectId} (h : (r.staged observer).Holds k id) :
    ∃ a ∈ recorded r, a.observer = observer ∧ a.trackedObjectId = id ∧ a.key = k := by
  obtain ⟨record, hrecord, rfl⟩ := h
  have hkey := ((hr.staged observer).2.2.2.record k record hrecord).canonical
  unfold TrackedObjectRegistry.staged at hrecord
  cases hs : r.organisms[observer.raw]? with
  | none =>
    rw [hs] at hrecord
    simp [OrganismTrackedObjects.new] at hrecord
  | some s =>
    rw [hs, Option.getD_some] at hrecord
    refine ⟨⟨observer, record.trackingProvenance, record.trackedObjectId, none⟩,
      List.mem_flatMap.2 ⟨(observer.raw, s), ExtTreeMap.mem_toList_iff_getElem?_eq_some.2 hs, ?_⟩,
      rfl, rfl, hkey⟩
    exact List.mem_map.2
      ⟨(k, record), ExtTreeMap.mem_toList_iff_getElem?_eq_some.2 hrecord, rfl⟩

/-- The record of a sound registry at the start. -/
theorem recorded_start {r : TrackedObjectRegistry} (hr : r.Sound) : Recorded (recorded r) r where
  below := by
    intro a ha
    exact ((hr.staged a.observer).2.2.2.holds_bounds (holds_of_mem_recorded hr ha)).2
  one := by
    intro a ha b hb hobserver hid
    have hb := holds_of_mem_recorded hr hb
    rw [← hobserver, ← hid] at hb
    exact (hr.staged a.observer).2.2.2.holds_unique (holds_of_mem_recorded hr ha) hb
  known := fun _ _ _ h => mem_recorded_of_holds hr h
  live := by
    intro pre a post hlog _
    exact holds_of_mem_recorded hr (hlog ▸ List.mem_append_right _ List.mem_cons_self)
  keeps := by
    intro pre a mid b post hlog hobserver hprov _
    have ha : a ∈ recorded r := hlog ▸ List.mem_append_right _ List.mem_cons_self
    have hb : b ∈ recorded r := by
      rw [hlog]
      simp
    obtain ⟨record, hrecord, hid⟩ := holds_of_mem_recorded hr ha
    obtain ⟨record', hrecord', hid'⟩ := holds_of_mem_recorded hr hb
    unfold Sighting.key at hrecord hrecord'
    rw [← hobserver, ← hprov, hrecord] at hrecord'
    cases hrecord'
    exact hid'.symm.trans hid

/-- Sightings and restores keep the record. -/
theorem Leads.recorded {r r' : TrackedObjectRegistry} {log : List Sighting} (h : Leads r log r')
    (hr : r.Sound) : Recorded (TrackedObjectRegistry.recorded r ++ log) r' := by
  induction h with
  | refl =>
    rw [List.append_nil]
    exact recorded_start hr
  | sight h ha ih =>
    rw [← List.append_assoc]
    exact ih.sight (h.sound hr) ha
  | restored _ halike _ ih => exact ih.alike halike

/-- Saving and reading back: every valid organism is saved; reading back any
distinct valid organisms that cover the registry succeeds and gives a registry
that answers every later call alike, and the registry itself when no other
organism was saved. -/
def Restores (r : TrackedObjectRegistry) : Prop :=
  (∀ observer : OrganismId, observer.raw ≠ 0 → ∃ saved, r.saveState observer = .ok saved) ∧
    ∀ observers : List OrganismId, (∀ o ∈ observers, o.raw ≠ 0) → observers.Nodup →
      r.Covers observers → ∃ r', r.restore observers = .ok r'
        ∧ (∀ calls, answers r' calls = answers r calls)
        ∧ ((∀ o ∈ observers, o.raw ∈ r.organisms) → r' = r)

theorem restores_of_sound {r : TrackedObjectRegistry} (hr : r.Sound) : r.Restores := by
  refine ⟨fun observer h => ⟨_, saveState_of_sound hr h⟩, fun observers hvalid hnodup hcover => ?_⟩
  have hrestore := (restore_eq_ok_iff hr).2 ⟨hvalid, hnodup, rfl⟩
  refine ⟨_, hrestore, ?_, fun hexact => ?_⟩
  · exact (alike_of_restore hr hcover hrestore).answers hr (sound_of_restore hrestore)
  · refine restore_eq_self hr (fun o => ⟨hexact o, fun ho => ?_⟩) hrestore
    exact hcover _ (ExtTreeMap.mem_keys.2 ho)

/-- No observation runs into an `expect`. -/
def NeverPanics (r : TrackedObjectRegistry) : Prop :=
  (∀ observer o, resultOf (observe observer o r) ≠ .error .panic) ∧
    ∀ observer observations, resultOf (observeBatch observer observations r) ≠ .error .panic

theorem neverPanics_of_sound {r : TrackedObjectRegistry} (hr : r.Sound) : r.NeverPanics := by
  constructor
  · intro observer o
    by_cases hobserver : observer.raw = 0
    · rw [observe_apply, stagedObserver_of_invalid hobserver, checked_error]
      simp [bind, Except.bind, resultOf]
    · have hs := (hr.staged observer).2.2.2
      obtain ⟨herr, hok⟩ := observed_of_sound hs observer o
      rw [observe_apply, stagedObserver_of_valid hobserver, checked_ok]
      cases hobs : (r.staged observer).observe o with
      | error e =>
        have hne : e ≠ .panic := fun h => hs.observe_ne_panic o (h ▸ hobs)
        simpa [bind, Except.bind, herr e hobs, resultOf] using hne
      | ok x =>
        obtain ⟨receipt, hreceipt, -⟩ := hok x.1 x.2 hobs
        simp [bind, Except.bind, hreceipt, resultOf]
  · intro observer observations
    by_cases hobserver : observer.raw = 0
    · rw [observeBatch_apply, stagedObserver_of_invalid hobserver, checked_error]
      simp [bind, Except.bind, resultOf]
    · have hne := (hr.staged observer).2.2.2.observeAll_ne_panic observations
      rw [observeBatch_apply, stagedObserver_of_valid hobserver, checked_ok]
      simp only [bind, Except.bind]
      cases hall : (r.staged observer).observeAll observations with
      | error e =>
        rw [hall] at hne
        simpa [resultOf] using hne
      | ok x => simp [resultOf]

/-- A registry as a run starts with it: new, or read back from saves. -/
def Started (worldSeed : UInt64) (capacity : UInt32) (r : TrackedObjectRegistry) : Prop :=
  TrackedObjectRegistry.new worldSeed capacity = .ok r ∨
    ∃ states, fromSaveStates worldSeed capacity states = .ok r

theorem Started.sound {worldSeed : UInt64} {capacity : UInt32} {r : TrackedObjectRegistry}
    (h : Started worldSeed capacity r) : r.Sound := by
  obtain h | ⟨states, h⟩ := h
  · exact sound_of_new h
  · exact sound_of_fromSaveStates h

/-- **Tracked objects keep their identity.**  After any calls, failing ones and
round trips among them, the registry is sound: within capacity, every id from the
initial one up to the counter, each for one record.  Over the whole history an
object keeps its id while it is tracked and no id is given to a second object,
when the keys of the objects seen are distinct.  The registry saves and restores
without a difference, a batch is its observations made one by one, a call that
fails changes nothing, and none panics. -/
theorem tracked_objects_keep_identity {worldSeed : UInt64} {capacity : UInt32}
    {r₀ : TrackedObjectRegistry} (hstart : Started worldSeed capacity r₀) (calls : List Call)
    (hcover : Along step RoundTripsCover r₀ calls)
    (hkeys : Set.InjOn PhysicalTrackingProvenance.canonicalKey
      {p | ∃ a ∈ history r₀ calls, a.provenance = p}) :
    (calls.foldl step r₀).Sound ∧ KeepsIds (history r₀ calls) ∧ NeverReassigns (history r₀ calls)
      ∧ (calls.foldl step r₀).Restores ∧ (calls.foldl step r₀).BatchesAreSequences
      ∧ (calls.foldl step r₀).FailuresKeep ∧ (calls.foldl step r₀).NeverPanics := by
  have hr₀ := hstart.sound
  have hleads := leads_run hr₀ hcover
  have hr := hleads.sound hr₀
  have hrecorded := hleads.recorded hr₀
  refine ⟨hr, hrecorded.keeps, fun a ha b hb hobserver hid => ?_, restores_of_sound hr,
    batchesAreSequences_of_sound hr, ⟨fun _ _ _ _ h => observe_failed h,
      fun _ _ _ _ h => observeBatch_failed h⟩, neverPanics_of_sound hr⟩
  exact hkeys ⟨a, ha, rfl⟩ ⟨b, hb, rfl⟩ (hrecorded.one a ha b hb hobserver hid)

/-- An observation of the sample world: an object seen at a tick. -/
def sampleObservation (spawnSequence tick : UInt64) : Observation :=
  ⟨⟨1, 77, 0, spawnSequence, 0⟩, ⟨Vector.replicate 15 .zero⟩, ⟨tick⟩⟩

/-- A sample run: two objects fill the organism, a restore, and a third object
that evicts one of them. -/
def sampleCalls : List Call :=
  [.observeBatch ⟨1⟩ [sampleObservation 1 1, sampleObservation 2 2], .roundTrip [⟨1⟩],
    .observe ⟨1⟩ (sampleObservation 3 3)]

/-- The sample run meets the hypotheses. -/
theorem tracked_objects_keep_identity_sample :
    KeepsIds (history ⟨77, 2, ∅⟩ sampleCalls) ∧ NeverReassigns (history ⟨77, 2, ∅⟩ sampleCalls) := by
  have hnew : TrackedObjectRegistry.new 77 2 = .ok ⟨77, 2, ∅⟩ := by decide +kernel
  have hempty : Covers ⟨77, 2, ∅⟩ [⟨1⟩] := by simp [Covers, ExtTreeMap.mem_keys]
  have hcover : Along step RoundTripsCover ⟨77, 2, ∅⟩ sampleCalls :=
    ⟨trivial, covers_observeBatch hempty (List.mem_singleton_self _) _, trivial, trivial⟩
  have hkeys : ∀ a ∈ history ⟨77, 2, ∅⟩ sampleCalls, ∀ b ∈ history ⟨77, 2, ∅⟩ sampleCalls,
      a.provenance.canonicalKey = b.provenance.canonicalKey → a.provenance = b.provenance := by
    decide +kernel
  have h := tracked_objects_keep_identity (.inl hnew) sampleCalls hcover
    (by rintro _ ⟨a, ha, rfl⟩ _ ⟨b, hb, rfl⟩ heq; exact hkeys a ha b hb heq)
  exact ⟨h.2.1, h.2.2.1⟩

end TrackedObjectRegistry

end ALife
