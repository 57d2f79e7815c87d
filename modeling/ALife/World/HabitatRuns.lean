/-
# Runs of a habitat authority

A run is any sequence of registrations, tags, transfers and retirements, refused
calls included, with ticks not after the world tick.  From an accepted authority
whose rows ascend by id every run keeps what the authority promises
(`keepsPromise`): exact lookups, acceptance for the creatures that are known
then, rows that are the replays of their ledgers, sequences that are never used
twice, and a snapshot that restores to the same authority.

`restore` sorts the rows it is given, and a deserialized authority is taken as
it comes: the validator reads no order, so an accepted authority may have rows
that the binary search misses.  The promise holds exactly when they ascend
(`habitat_runs_keep_iff`).
-/

import ALife.Machine.Runs
import ALife.World.HabitatSteps

namespace ALife

open Machine

namespace HabitatAuthority

variable {a : HabitatAuthority} {known : List OrganismId} {worldTick : Tick}

/-! ### Calls -/

inductive Call where
  | registerCreature (organismId : OrganismId) (habitatId : HabitatId) (tick : Tick)
  | tagCreature (reserveId : HabitatId) (organismId : OrganismId) (tick : Tick)
    (actor : HabitatActor)
  | transfer (request : HabitatTransferRequest)
  | retireCreature (organismId : OrganismId)
  deriving DecidableEq, Repr

/-- The tick of a call, where it has one, is not after the world tick. -/
def Call.NotAfter (worldTick : Tick) : Call → Prop
  | .registerCreature _ _ tick => tick.raw ≤ worldTick.raw
  | .tagCreature _ _ tick _ => tick.raw ≤ worldTick.raw
  | .transfer request => request.tick.raw ≤ worldTick.raw
  | .retireCreature _ => True

/-- An authority and the creatures that the world knows. -/
abbrev World := HabitatAuthority × List OrganismId

/-- One call, refused or not. -/
def step (s : World) : Call → World
  | .registerCreature organismId habitatId tick =>
    match HabitatAuthority.registerCreature organismId habitatId tick s.1 with
    | .ok _ a => (a, s.2 ++ [organismId])
    | .error _ a => (a, s.2)
  | .tagCreature reserveId organismId tick actor =>
    (stateAfter (HabitatAuthority.tagCreature reserveId organismId tick actor s.1), s.2)
  | .transfer request => (stateAfter (HabitatAuthority.transfer request s.1), s.2)
  | .retireCreature organismId =>
    (s.1.retireCreature organismId, s.2.filter (· ≠ organismId))

/-- The tag that a call issues. -/
def issuedTag (s : World) : Call → Option HabitatTagRecord
  | .tagCreature reserveId organismId tick actor =>
    match HabitatAuthority.tagCreature reserveId organismId tick actor s.1 with
    | .ok record _ => some record
    | .error _ _ => none
  | _ => none

/-- The transfer that a call issues. -/
def issuedTransfer (s : World) : Call → Option HabitatTransferRecord
  | .transfer request =>
    match HabitatAuthority.transfer request s.1 with
    | .ok record _ => some record
    | .error _ _ => none
  | _ => none

/-! ### One step -/

/-- A step keeps an ordered accepted authority so. -/
theorem step_keeps {s : World} {call : Call} (ho : s.1.Ordered) (ha : s.1.Accepted s.2 worldTick)
    (htick : call.NotAfter worldTick) :
    (step s call).1.Ordered ∧ (step s call).1.Accepted (step s call).2 worldTick := by
  obtain ⟨a, known⟩ := s
  cases call with
  | registerCreature id habitatId tick =>
    simp only [step]
    cases h : HabitatAuthority.registerCreature id habitatId tick a with
    | ok u a' => exact ⟨ho.of_registerCreature h, ha.of_registerCreature ho htick h⟩
    | error e a' =>
      obtain rfl := registerCreature_keepsOnError id habitatId tick e a' h
      exact ⟨ho, ha⟩
  | tagCreature reserveId id tick actor =>
    simp only [step]
    cases h : HabitatAuthority.tagCreature reserveId id tick actor a with
    | ok record a' =>
      have haccepted := ha.of_tagCreature htick h
      obtain ⟨-, -, -, -, -, next, -, rfl⟩ := tagCreature_cases h
      exact ⟨⟨ho.habitats, ho.rows⟩, haccepted⟩
    | error e a' =>
      obtain rfl := tagCreature_keepsOnError reserveId id tick actor e a' h
      exact ⟨ho, ha⟩
  | transfer request =>
    simp only [step]
    cases h : HabitatAuthority.transfer request a with
    | ok record a' => exact ⟨ho.of_transfer h, ha.of_transfer ho htick h⟩
    | error e a' =>
      obtain rfl := transfer_keepsOnError request e a' h
      exact ⟨ho, ha⟩
  | retireCreature id => exact ⟨ho.of_retireCreature id, ha.of_retireCreature ho id⟩

/-- **A run keeps an ordered accepted authority so.** -/
theorem run_keeps (ho : a.Ordered) (ha : a.Accepted known worldTick) {calls : List Call}
    (hticks : ∀ call ∈ calls, call.NotAfter worldTick) :
    (calls.foldl step (a, known)).1.Ordered ∧
      (calls.foldl step (a, known)).1.Accepted (calls.foldl step (a, known)).2 worldTick := by
  refine foldl_of_invariant (I := fun s : World => s.1.Ordered ∧ s.1.Accepted s.2 worldTick)
    (C := fun _ call => call.NotAfter worldTick)
    (fun s call hs htick => step_keeps hs.1 hs.2 htick) ⟨ho, ha⟩ ?_
  exact along_iff_forall_split.2 fun pre call post he => hticks call (by simp [he])

/-- A tag takes the next sequence, and nothing else moves it. -/
theorem step_tag (s : World) (call : Call) :
    s.1.nextTagSequence.toNat ≤ (step s call).1.nextTagSequence.toNat
      ∧ (∀ record, issuedTag s call = some record →
        s.1.nextTagSequence.toNat ≤ record.sequence.toNat
          ∧ record.sequence.toNat < (step s call).1.nextTagSequence.toNat)
      ∧ (step s call).1.tags.Sublist (s.1.tags ++ (issuedTag s call).toList) := by
  obtain ⟨a, known⟩ := s
  cases call with
  | registerCreature id habitatId tick =>
    simp only [step, issuedTag]
    cases h : HabitatAuthority.registerCreature id habitatId tick a with
    | ok u a' =>
      obtain ⟨-, -, index, -, rfl⟩ := registerCreature_cases h
      simp
    | error e a' =>
      obtain rfl := registerCreature_keepsOnError id habitatId tick e a' h
      simp
  | tagCreature reserveId id tick actor =>
    simp only [step, issuedTag]
    cases h : HabitatAuthority.tagCreature reserveId id tick actor a with
    | ok record a' =>
      obtain ⟨hrecord, -, -, -, -, next, hnext, rfl⟩ := tagCreature_cases h
      have hsucc := toNat_of_checkedAdd64_one hnext
      simp only [stateAfter_ok, Option.some.injEq, forall_eq', Option.toList_some]
      have hsequence : record.sequence = a.nextTagSequence := by rw [hrecord]
      rw [hsequence, hsucc]
      exact ⟨by omega, ⟨le_rfl, by omega⟩, List.Sublist.refl _⟩
    | error e a' =>
      obtain rfl := tagCreature_keepsOnError reserveId id tick actor e a' h
      simp
  | transfer request =>
    simp only [step, issuedTag]
    cases h : HabitatAuthority.transfer request a with
    | ok record a' =>
      obtain ⟨-, -, -, -, index, row, next, -, -, -, -, rfl⟩ := transfer_cases h
      simp
    | error e a' =>
      obtain rfl := transfer_keepsOnError request e a' h
      simp
  | retireCreature id =>
    simp only [step, issuedTag, retireCreature, Option.toList_none, List.append_nil]
    exact ⟨le_rfl, by simp, List.filter_sublist⟩

/-- A transfer takes the next sequence, and nothing else moves it. -/
theorem step_transfer (s : World) (call : Call) :
    s.1.nextTransferSequence.toNat ≤ (step s call).1.nextTransferSequence.toNat
      ∧ (∀ record, issuedTransfer s call = some record →
        s.1.nextTransferSequence.toNat ≤ record.sequence.toNat
          ∧ record.sequence.toNat < (step s call).1.nextTransferSequence.toNat)
      ∧ (step s call).1.transfers.Sublist (s.1.transfers ++ (issuedTransfer s call).toList) := by
  obtain ⟨a, known⟩ := s
  cases call with
  | registerCreature id habitatId tick =>
    simp only [step, issuedTransfer]
    cases h : HabitatAuthority.registerCreature id habitatId tick a with
    | ok u a' =>
      obtain ⟨-, -, index, -, rfl⟩ := registerCreature_cases h
      simp
    | error e a' =>
      obtain rfl := registerCreature_keepsOnError id habitatId tick e a' h
      simp
  | tagCreature reserveId id tick actor =>
    simp only [step, issuedTransfer]
    cases h : HabitatAuthority.tagCreature reserveId id tick actor a with
    | ok record a' =>
      obtain ⟨-, -, -, -, -, next, -, rfl⟩ := tagCreature_cases h
      simp
    | error e a' =>
      obtain rfl := tagCreature_keepsOnError reserveId id tick actor e a' h
      simp
  | transfer request =>
    simp only [step, issuedTransfer]
    cases h : HabitatAuthority.transfer request a with
    | ok record a' =>
      obtain ⟨hrecord, -, -, -, index, row, next, -, -, -, hnext, rfl⟩ := transfer_cases h
      have hsucc := toNat_of_checkedAdd64_one hnext
      simp only [stateAfter_ok, Option.some.injEq, forall_eq', Option.toList_some]
      have hsequence : record.sequence = a.nextTransferSequence := by rw [hrecord]
      rw [hsequence, hsucc]
      exact ⟨by omega, ⟨le_rfl, by omega⟩, List.Sublist.refl _⟩
    | error e a' =>
      obtain rfl := transfer_keepsOnError request e a' h
      simp
  | retireCreature id =>
    simp only [step, issuedTransfer, retireCreature, Option.toList_none, List.append_nil]
    exact ⟨le_rfl, by simp, List.filter_sublist⟩

/-! ### The promise -/

/-- The creatures of the list are those of the other. -/
theorem Accepted.congr {known' : List OrganismId} (ha : a.Accepted known worldTick)
    (h : ∀ id, id ∈ known' ↔ id ∈ known) : a.Accepted known' worldTick :=
  { ha with
    rowOk := fun m hm => ⟨(ha.rowOk m hm).1, (h _).2 (ha.rowOk m hm).2.1, (ha.rowOk m hm).2.2⟩
    known := fun id hid => ha.known id ((h id).1 hid) }

/-- Rows that ascend are sorted already. -/
theorem restore_snapshot (ho : a.Ordered) (ha : a.Accepted known worldTick) :
    restore a.snapshot known = .ok a := by
  have hhabitats : sortByKey (fun h : Habitat => h.id.raw.toNat) a.habitats = a.habitats :=
    sortByKey_eq_self (ho.habitats.imp Nat.le_of_lt)
  have hrows : sortByKey (fun m : HabitatMembership => m.organismId.raw.toNat) a.memberships =
      a.memberships := sortByKey_eq_self (ho.rows.imp Nat.le_of_lt)
  have hvalid : a.validate known = .ok () := by
    have h := validateAtTick_eq_ok_iff.2 ha
    rw [validateAtTick, except_seq_eq_ok_iff] at h
    exact h.1
  unfold restore snapshot
  dsimp only
  rw [hhabitats, hrows, except_seq_eq_ok_iff]
  exact ⟨hvalid, rfl⟩

/-- What `restore` returns has its rows in order. -/
theorem ordered_of_restore {snapshot : HabitatAuthoritySnapshot}
    (h : restore snapshot known = .ok a) : a.Ordered := by
  rw [restore, except_seq_eq_ok_iff] at h
  obtain ⟨hvalid, h⟩ := h
  obtain rfl := Except.ok.inj h
  simp only [validate, except_bind_eq_ok_iff, failIf_eq_ok_iff, foldlM_checkHabitat_eq_ok_iff,
    foldlM_checkMembership_eq_ok_iff] at hvalid
  obtain ⟨_, -, _, ⟨-, hhabitats, -⟩, _, ⟨hrows, -, -⟩, -⟩ := hvalid
  refine ⟨?_, ?_⟩
  · have hle := pairwise_sortByKey (fun h : Habitat => h.id.raw.toNat) snapshot.habitats
    exact List.Pairwise.imp₂ (fun x y hle hne => lt_of_le_of_ne hle hne) (List.pairwise_map.2 hle)
      (nodup_toNat_iff.2 hhabitats)
  · have hle := pairwise_sortByKey (fun m : HabitatMembership => m.organismId.raw.toNat)
      snapshot.memberships
    exact List.Pairwise.imp₂ (fun x y hle hne => lt_of_le_of_ne hle hne) (List.pairwise_map.2 hle)
      (nodup_toNat_iff.2 hrows)

/-- What is promised of the state `s` after the calls of a run from `s₀`. -/
structure KeepsPromise (worldTick : Tick) (s₀ : World) (calls : List Call) (s : World) : Prop where
  /-- A lookup finds the row of its id, whenever one is stored. -/
  lookups : s.1.LookupsExact
  /-- The validator accepts it for the creatures known by now, in whatever order. -/
  accepted : ∀ known, (∀ id, id ∈ known ↔ id ∈ s.2) → s.1.validateAtTick known worldTick = .ok ()
  /-- A refused call changes nothing. -/
  registerRefused : ∀ id habitatId tick, KeepsOnError (registerCreature id habitatId tick) s.1
  tagRefused : ∀ reserveId id tick actor, KeepsOnError (tagCreature reserveId id tick actor) s.1
  transferRefused : ∀ request, KeepsOnError (transfer request) s.1
  /-- Each row is what its creature's transfers make of its origin. -/
  replays : ∀ m ∈ s.1.memberships, s.1.Replays m
  /-- The tags ever stored or issued have increasing sequences, and the ledger has some of them. -/
  tagSequences : (s₀.1.tags ++ outputs step issuedTag s₀ calls).Pairwise
    fun t t' => t.sequence.toNat < t'.sequence.toNat
  tagLedger : s.1.tags.Sublist (s₀.1.tags ++ outputs step issuedTag s₀ calls)
  /-- The transfers likewise. -/
  transferSequences : (s₀.1.transfers ++ outputs step issuedTransfer s₀ calls).Pairwise
    fun t t' => t.sequence.toNat < t'.sequence.toNat
  transferLedger : s.1.transfers.Sublist (s₀.1.transfers ++ outputs step issuedTransfer s₀ calls)
  /-- Restoring the current fields gives the authority back. -/
  restores : restore s.1.snapshot s.2 = .ok s.1

/-- Outputs under a counter come behind what was below it. -/
theorem pairwise_append_outputs {ο : Type} {out : World → Call → Option ο} {key : ο → ℕ}
    {counter : World → ℕ} {log : List ο} {s : World} {calls : List Call}
    (hstep : ∀ s call, counter s ≤ counter (step s call) ∧
      ∀ o, out s call = some o → counter s ≤ key o ∧ key o < counter (step s call))
    (hlog : log.Pairwise fun o o' => key o < key o') (hbelow : ∀ o ∈ log, key o < counter s) :
    (log ++ outputs step out s calls).Pairwise fun o o' => key o < key o' := by
  have halong : Along step (fun s call => counter s ≤ counter (step s call) ∧
      ∀ o, out s call = some o → counter s ≤ key o ∧ key o < counter (step s call)) s calls :=
    along_iff_forall_split.2 fun pre call post _ => hstep _ call
  obtain ⟨hpair, habove⟩ := pairwise_key_lt_outputs halong
  exact List.pairwise_append.2 ⟨hlog, hpair, fun o ho o' ho' =>
    (hbelow o ho).trans_le (habove o' ho')⟩

/-- **An ordered accepted authority keeps the promise over every run.** -/
theorem keepsPromise (ho : a.Ordered) (ha : a.Accepted known worldTick) {calls : List Call}
    (hticks : ∀ call ∈ calls, call.NotAfter worldTick) :
    KeepsPromise worldTick (a, known) calls (calls.foldl step (a, known)) := by
  obtain ⟨ho', ha'⟩ := run_keeps ho ha hticks
  exact {
    lookups := ho'.lookupsExact
    accepted := fun _ hknown => validateAtTick_eq_ok_iff.2 (ha'.congr hknown)
    registerRefused := registerCreature_keepsOnError
    tagRefused := tagCreature_keepsOnError
    transferRefused := transfer_keepsOnError
    replays := ha'.replays
    tagSequences := pairwise_append_outputs
      (fun s call => ⟨(step_tag s call).1, (step_tag s call).2.1⟩) ha.tags_increase
      fun tag htag => UInt64.lt_iff_toNat_lt.1 (ha.tagOk tag htag).2.2.2
    tagLedger := sublist_append_outputs (·.1.tags) (fun s call => (step_tag s call).2.2) _ _
    transferSequences := pairwise_append_outputs
      (fun s call => ⟨(step_transfer s call).1, (step_transfer s call).2.1⟩) ha.transfers_increase
      fun t ht => UInt64.lt_iff_toNat_lt.1 (ha.transferOk t ht).2.2.2.2
    transferLedger :=
      sublist_append_outputs (·.1.transfers) (fun s call => (step_transfer s call).2.2) _ _
    restores := restore_snapshot ho' ha' }

/-- **Accepted authorities keep the promise over every run exactly when their rows
ascend by id.** -/
theorem habitat_runs_keep_iff (h : a.validateAtTick known worldTick = .ok ()) :
    (∀ calls : List Call, (∀ call ∈ calls, call.NotAfter worldTick) →
      KeepsPromise worldTick (a, known) calls (calls.foldl step (a, known))) ↔ a.Ordered := by
  have ha := validateAtTick_eq_ok_iff.1 h
  constructor
  · intro hruns
    have hnow := hruns [] (by simp)
    exact (lookupsExact_iff_ordered ha.habitats_nodup ha.rows_nodup).1 hnow.lookups
  · exact fun ho calls hticks => keepsPromise ho ha hticks

/-- A wild habitat. -/
def sampleHabitat (raw : UInt64) (mode : HabitatMode) : Habitat := ⟨⟨raw⟩, ['h'], mode⟩

/-- A creature that came to a reserve. -/
def sampleAuthority : HabitatAuthority :=
  ⟨1, 1, [sampleHabitat 1 .wild, sampleHabitat 2 .reserve], [newRow ⟨7⟩ ⟨2⟩ ⟨3⟩], [], []⟩

/-- From the wild to the reserve, by its keeper. -/
def sampleTransfer : HabitatTransferRequest :=
  ⟨⟨8⟩, ⟨1⟩, ⟨2⟩, ⟨4⟩, ⟨some .player, some .reserveKeeper, some .notRequired,
    some .captureTransport, some .unknown, some .notPossessed, some .unknown⟩⟩

/-- A creature is born, tagged and moved, a transfer from where it no longer is is refused,
and the first creature dies. -/
def sampleCalls : List Call :=
  [.registerCreature ⟨8⟩ ⟨1⟩ ⟨3⟩, .tagCreature ⟨2⟩ ⟨8⟩ ⟨4⟩ .player,
    .transfer sampleTransfer, .transfer sampleTransfer, .retireCreature ⟨7⟩]

/-- The promise is kept over these calls: the rows were in order. -/
theorem habitat_runs_keep_sample :
    sampleAuthority.validateAtTick [⟨7⟩] ⟨5⟩ = .ok () ∧
      KeepsPromise ⟨5⟩ (sampleAuthority, [⟨7⟩]) sampleCalls
        (sampleCalls.foldl step (sampleAuthority, [⟨7⟩])) ∧
      (sampleCalls.foldl step (sampleAuthority, [⟨7⟩])).1.transfers.length = 1 := by
  have h : sampleAuthority.validateAtTick [⟨7⟩] ⟨5⟩ = .ok () := by decide
  have hordered : sampleAuthority.Ordered := by decide
  refine ⟨h, (habitat_runs_keep_iff h).2 hordered sampleCalls ?_, by decide⟩
  simp only [sampleCalls, List.forall_mem_cons, Call.NotAfter, List.not_mem_nil, false_implies,
    implies_true]
  decide

/-- Two habitats as a save may hold them, the larger id first. -/
def disorderedAuthority : HabitatAuthority :=
  ⟨1, 1, [sampleHabitat 2 .reserve, sampleHabitat 1 .wild], [], [], []⟩

/-- The validator accepts rows out of order, and the search then misses one of them. -/
theorem disordered_habitat_missed :
    disorderedAuthority.validateAtTick [] ⟨0⟩ = .ok () ∧
      sampleHabitat 2 .reserve ∈ disorderedAuthority.habitats ∧
      disorderedAuthority.habitat ⟨2⟩ = none ∧
      ¬KeepsPromise ⟨0⟩ (disorderedAuthority, []) [] (disorderedAuthority, []) := by
  refine ⟨by decide, by decide, by decide, fun h => ?_⟩
  have hfound := (h.lookups.habitat ⟨2⟩ (sampleHabitat 2 .reserve)).2 (by decide)
  exact absurd hfound (by decide)

end HabitatAuthority

end ALife
