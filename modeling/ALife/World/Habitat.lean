/-
# Habitats: membership, tags and transfers

`HabitatAuthority` (`crates/alife_world/src/habitat.rs`) says which habitat each
creature lives in.  It has the habitats and the membership rows, each a vector
searched by id, and two ledgers: the tags that reserves put on creatures and the
transfers from one habitat to another, each entry under a sequence number.
`validate` checks all of it against the set of known creatures, `restore` sorts
the rows of a snapshot and validates, and `register_creature`, `tag_creature`,
`transfer` and `retire_creature` change it.

A label is its characters.  The permissions of single operations and of breeding
are left out with their receipts and errors: they read the authority and none of
the functions here calls them.
-/

import ALife.Foundation.Asset
import ALife.Machine.BinarySearch
import ALife.Machine.Checks
import ALife.Machine.Integers
import ALife.Machine.Mutation
import ALife.Machine.SortedNames

namespace ALife

open Machine

/-- A habitat; zero is reserved as invalid. -/
structure HabitatId where
  raw : UInt64
  deriving DecidableEq, Repr

inductive HabitatMode where
  | wild | reserve | managed | school
  deriving DecidableEq, Repr

inductive HabitatOperation where
  | tag | capture | test | reintroduce | membershipControl | structuredEducation
  deriving DecidableEq, Repr

inductive HabitatActor where
  | organism (id : OrganismId) | player | teacher | worldAuthority
  deriving DecidableEq, Repr

inductive HabitatAuthorityKind where
  | creatureChoice | reserveKeeper | managedController | schoolAdministrator | worldSystem
  deriving DecidableEq, Repr

inductive QuarantineProvenance where
  | notRequired | requiredUntil (until_ : Tick)
  deriving DecidableEq, Repr

inductive AssistanceProvenance where
  | unassisted | captureTransport | structuredEducation | playerPossession
  deriving DecidableEq, Repr

inductive FoundationProvenance where
  | unknown | known (id : FoundationId)
  deriving DecidableEq, Repr

inductive PossessionProvenance where
  | notPossessed | assisted (startedTick : Tick)
  deriving DecidableEq, Repr

inductive SelectionExposureProvenance where
  | unknown | unexposed | exposed (evaluationId : List Char) (exposureTick : Tick)
  deriving DecidableEq, Repr

/-- `HabitatAuthorityError`. -/
inductive HabitatAuthorityError where
  | invalidHabitatId (raw : UInt64)
  | malformedHabitat (text : String)
  | duplicateHabitat (id : HabitatId)
  | duplicateMembership (id : OrganismId)
  | duplicateTag (organismId : OrganismId) (reserveId : HabitatId)
  | missingMembership (id : OrganismId)
  | unknownHabitat (id : HabitatId)
  | unknownCreature (id : OrganismId)
  | stalePriorHabitat (organismId : OrganismId) (expected actual : HabitatId)
  | staleTransfer (sequence : UInt64) (organismId : OrganismId)
  | staleTag (sequence : UInt64) (organismId : OrganismId)
  | malformedTransfer (text : String)
  | missingProvenance (text : String)
  | malformedProvenance (text : String)
  | malformedTag (text : String)
  | illegalModeOperation (mode : HabitatMode) (operation : HabitatOperation)
  | creatureNotTagged (organismId : OrganismId) (reserveId : HabitatId)
  | invalidActor (actor : HabitatActor) (context : String)
  | illegalTransferAuthority (priorMode newMode : HabitatMode) (authority : HabitatAuthorityKind)
  deriving DecidableEq, Repr

abbrev HabitatResult (α : Type) := Except HabitatAuthorityError α

/-- `char::is_whitespace`: the characters of Unicode's `White_Space`. -/
def isWhitespace (c : Char) : Bool :=
  let n := c.toNat
  (9 ≤ n && n ≤ 13) || n == 0x20 || n == 0x85 || n == 0xA0 || n == 0x1680
    || (0x2000 ≤ n && n ≤ 0x200A) || n == 0x2028 || n == 0x2029 || n == 0x202F || n == 0x205F
    || n == 0x3000

/-- `text.trim().is_empty()`. -/
def isBlank (text : List Char) : Bool := text.all isWhitespace

structure Habitat where
  id : HabitatId
  label : List Char
  mode : HabitatMode
  deriving DecidableEq, Repr

/-- `Habitat::validate`. -/
def Habitat.validate (h : Habitat) : HabitatResult Unit := do
  failIf (h.id.raw = 0) (.invalidHabitatId h.id.raw)
  failIf (isBlank h.label = true) (.malformedHabitat "habitat label is required")

structure HabitatTransferProvenance where
  actor : Option HabitatActor
  authority : Option HabitatAuthorityKind
  quarantine : Option QuarantineProvenance
  assistance : Option AssistanceProvenance
  foundation : Option FoundationProvenance
  possession : Option PossessionProvenance
  selectionExposure : Option SelectionExposureProvenance
  deriving DecidableEq, Repr

namespace HabitatTransferProvenance

/-- `HabitatTransferProvenance::validate`. -/
def validate (p : HabitatTransferProvenance) (transferTick : Tick) : HabitatResult Unit := do
  let actor ← getOr p.actor (.missingProvenance "actor")
  let _ ← getOr p.authority (.missingProvenance "authority")
  let quarantine ← getOr p.quarantine (.missingProvenance "quarantine")
  let assistance ← getOr p.assistance (.missingProvenance "assistance")
  let foundation ← getOr p.foundation (.missingProvenance "foundation")
  let possession ← getOr p.possession (.missingProvenance "possession")
  let selectionExposure ← getOr p.selectionExposure (.missingProvenance "selection_exposure")
  match actor with
  | .organism id => failIf (id.raw = 0) (.missingProvenance "actor")
  | _ => .ok ()
  match quarantine with
  | .requiredUntil release =>
    failIf (release.raw ≤ transferTick.raw)
      (.malformedProvenance "quarantine release must follow the transfer tick")
  | .notRequired => .ok ()
  match foundation with
  | .known id => failIf (id.raw = 0) (.malformedProvenance "foundation id must be nonzero")
  | .unknown => .ok ()
  match possession with
  | .assisted startedTick =>
    failIf (transferTick.raw < startedTick.raw)
      (.malformedProvenance "possession cannot start after the transfer")
  | .notPossessed => .ok ()
  match selectionExposure with
  | .exposed evaluationId exposureTick =>
    failIf (isBlank evaluationId = true ∨ transferTick.raw < exposureTick.raw)
      (.malformedProvenance "selection exposure requires an id at or before transfer")
  | .unknown | .unexposed => .ok ()
  let assisted : Bool :=
    match possession with
    | .assisted _ => true
    | .notPossessed => false
  failIf (decide (assistance = .playerPossession) ≠ assisted)
    (.malformedProvenance "possession assistance and possession state must agree")

/-- `HabitatTransferProvenance::quarantine_until`. -/
def quarantineUntil (p : HabitatTransferProvenance) : Option Tick :=
  match p.quarantine with
  | some (.requiredUntil release) => some release
  | some .notRequired | none => none

end HabitatTransferProvenance

structure HabitatMembership where
  organismId : OrganismId
  habitatId : HabitatId
  enteredTick : Tick
  originHabitatId : HabitatId
  originTick : Tick
  lastTransferSequence : Option UInt64
  quarantineUntil : Option Tick
  deriving DecidableEq, Repr

structure HabitatTransferRecord where
  sequence : UInt64
  organismId : OrganismId
  priorHabitatId : HabitatId
  newHabitatId : HabitatId
  tick : Tick
  provenance : HabitatTransferProvenance
  deriving DecidableEq, Repr

structure HabitatTransferRequest where
  organismId : OrganismId
  expectedPriorHabitatId : HabitatId
  newHabitatId : HabitatId
  tick : Tick
  provenance : HabitatTransferProvenance
  deriving DecidableEq, Repr

structure HabitatTagRecord where
  sequence : UInt64
  reserveId : HabitatId
  organismId : OrganismId
  tick : Tick
  actor : HabitatActor
  deriving DecidableEq, Repr

/-- `HabitatAuthoritySnapshot`. -/
structure HabitatAuthoritySnapshot where
  nextTransferSequence : UInt64
  nextTagSequence : UInt64
  habitats : List Habitat
  memberships : List HabitatMembership
  tags : List HabitatTagRecord
  transfers : List HabitatTransferRecord
  deriving DecidableEq, Repr

/-- `HabitatAuthority`. -/
structure HabitatAuthority where
  nextTransferSequence : UInt64
  nextTagSequence : UInt64
  habitats : List Habitat
  memberships : List HabitatMembership
  tags : List HabitatTagRecord
  transfers : List HabitatTransferRecord
  deriving DecidableEq, Repr

namespace HabitatAuthority

/-! ### Reading -/

/-- The keys that the habitats are searched by. -/
def habitatIds (a : HabitatAuthority) : List ℕ := a.habitats.map (·.id.raw.toNat)

/-- The keys that the memberships are searched by. -/
def membershipIds (a : HabitatAuthority) : List ℕ := a.memberships.map (·.organismId.raw.toNat)

/-- `HabitatAuthority::habitat`. -/
def habitat (a : HabitatAuthority) (id : HabitatId) : Option Habitat :=
  match binarySearch a.habitatIds id.raw.toNat with
  | .ok index => a.habitats[index]?
  | .error _ => none

/-- The membership row of an organism, with its place. -/
def findMembership (a : HabitatAuthority) (id : OrganismId) : Option (ℕ × HabitatMembership) :=
  match binarySearch a.membershipIds id.raw.toNat with
  | .ok index => a.memberships[index]?.map (index, ·)
  | .error _ => none

/-- `HabitatAuthority::membership`. -/
def membership (a : HabitatAuthority) (id : OrganismId) : Option HabitatMembership :=
  (a.findMembership id).map (·.2)

/-- `HabitatAuthority::is_tagged`. -/
def isTagged (a : HabitatAuthority) (reserveId : HabitatId) (organismId : OrganismId) : Bool :=
  a.tags.any fun tag => decide (tag.reserveId = reserveId ∧ tag.organismId = organismId)

/-- `HabitatAuthority::validate_actor_known`. -/
def validateActorKnown (a : HabitatAuthority) (actor : HabitatActor) : HabitatResult Unit :=
  match actor with
  | .organism id => failIf (a.membership id = none) (.unknownCreature id)
  | _ => .ok ()

/-- `HabitatAuthority::validate_transfer_authority`. -/
def validateTransferAuthority (a : HabitatAuthority) (organismId : OrganismId)
    (priorHabitatId newHabitatId : HabitatId) (provenance : HabitatTransferProvenance) :
    HabitatResult Unit := do
  let prior ← getOr (a.habitat priorHabitatId) (.unknownHabitat priorHabitatId)
  let new ← getOr (a.habitat newHabitatId) (.unknownHabitat newHabitatId)
  let actor ← getOr provenance.actor (.missingProvenance "actor")
  let authority ← getOr provenance.authority (.missingProvenance "authority")
  a.validateActorKnown actor
  let invalidAuthority := HabitatAuthorityError.illegalTransferAuthority prior.mode new.mode authority
  match authority with
  | .creatureChoice => do
    failIf (prior.mode ≠ .wild ∨ new.mode ≠ .wild) invalidAuthority
    failIf (actor ≠ .organism organismId) (.invalidActor actor "wild transfer")
  | .reserveKeeper => do
    failIf (prior.mode ≠ .reserve ∧ new.mode ≠ .reserve) invalidAuthority
    failIf (actor ≠ .player ∧ actor ≠ .worldAuthority) (.invalidActor actor "reserve transfer")
    let reserveId := if new.mode = .reserve then newHabitatId else priorHabitatId
    failIf (a.isTagged reserveId organismId = false) (.creatureNotTagged organismId reserveId)
  | .managedController => do
    failIf (prior.mode ≠ .managed ∧ new.mode ≠ .managed) invalidAuthority
    failIf (actor ≠ .player ∧ actor ≠ .worldAuthority) (.invalidActor actor "managed transfer")
  | .schoolAdministrator => do
    failIf (prior.mode ≠ .school ∧ new.mode ≠ .school) invalidAuthority
    failIf (actor ≠ .player ∧ actor ≠ .teacher ∧ actor ≠ .worldAuthority)
      (.invalidActor actor "school transfer")
  | .worldSystem => failIf (actor ≠ .worldAuthority) (.invalidActor actor "world transfer")

/-! ### Validation -/

/-- One habitat of `validate`, with the ids seen before it. -/
def checkHabitat (seen : List UInt64) (h : Habitat) : HabitatResult (List UInt64) := do
  h.validate
  failIf (h.id.raw ∈ seen) (.duplicateHabitat h.id)
  .ok (seen ++ [h.id.raw])

/-- One membership of `validate`, with the organisms seen before it. -/
def checkMembership (known habitatIds : List UInt64) (seen : List UInt64) (m : HabitatMembership) :
    HabitatResult (List UInt64) := do
  failIf (m.organismId.raw ∈ seen) (.duplicateMembership m.organismId)
  failIf (m.organismId.raw = 0 ∨ m.organismId.raw ∉ known) (.unknownCreature m.organismId)
  failIf (m.habitatId.raw ∉ habitatIds) (.unknownHabitat m.habitatId)
  failIf (m.originHabitatId.raw ∉ habitatIds) (.unknownHabitat m.originHabitatId)
  .ok (seen ++ [m.organismId.raw])

/-- One known creature of `validate`. -/
def checkKnown (membershipIds : List UInt64) (_ : Unit) (id : OrganismId) : HabitatResult Unit := do
  failIf (id.raw = 0) (.unknownCreature id)
  failIf (id.raw ∉ membershipIds) (.missingMembership id)

/-- One tag of `validate`, with the sequence before it and the pairs tagged so far. -/
def checkTag (a : HabitatAuthority) (state : UInt64 × List (UInt64 × UInt64))
    (tag : HabitatTagRecord) : HabitatResult (UInt64 × List (UInt64 × UInt64)) := do
  failIf (tag.sequence ≤ state.1 ∨ a.nextTagSequence ≤ tag.sequence)
    (.malformedTag "tag sequences must increase below the next sequence")
  let reserve ← getOr (a.habitat tag.reserveId) (.unknownHabitat tag.reserveId)
  failIf (reserve.mode ≠ .reserve) (.illegalModeOperation reserve.mode .tag)
  let membership ← getOr (a.membership tag.organismId) (.unknownCreature tag.organismId)
  a.validateActorKnown tag.actor
  failIf (tag.actor ≠ .player ∧ tag.actor ≠ .worldAuthority) (.invalidActor tag.actor "reserve tag")
  failIf (tag.tick.raw < membership.originTick.raw) (.staleTag tag.sequence tag.organismId)
  failIf ((tag.reserveId.raw, tag.organismId.raw) ∈ state.2)
    (.duplicateTag tag.organismId tag.reserveId)
  .ok (tag.sequence, state.2 ++ [(tag.reserveId.raw, tag.organismId.raw)])

/-- Where the transfers so far took a creature. -/
structure Chain where
  habitatId : HabitatId
  tick : Tick
  sequence : UInt64
  quarantineUntil : Option Tick
  deriving DecidableEq, Repr

/-- Where one transfer takes its creature. -/
def chainOf (t : HabitatTransferRecord) : Chain :=
  ⟨t.newHabitatId, t.tick, t.sequence, t.provenance.quarantineUntil⟩

/-- Where a transfer has to depart from, and not before when: the end of the chain so
far, the origin when there is none. -/
def departure (m : HabitatMembership) : Option Chain → HabitatId × Tick
  | some chain => (chain.habitatId, chain.tick)
  | none => (m.originHabitatId, m.originTick)

/-- The actor of a transfer is no creature, or a known one. -/
def checkTransferActor (known : List UInt64) (actor : Option HabitatActor) : HabitatResult Unit :=
  match actor with
  | some (.organism id) => failIf (id.raw ∉ known) (.unknownCreature id)
  | _ => .ok ()

/-- One transfer of `validate`, with the sequence before it and the chains so far. -/
def checkTransfer (a : HabitatAuthority) (known habitatIds : List UInt64)
    (state : UInt64 × (UInt64 → Option Chain)) (t : HabitatTransferRecord) :
    HabitatResult (UInt64 × (UInt64 → Option Chain)) := do
  failIf (t.sequence ≤ state.1 ∨ a.nextTransferSequence ≤ t.sequence ∨
      t.priorHabitatId = t.newHabitatId)
    (.malformedTransfer
      "transfer sequences must increase below the next sequence and change habitat")
  failIf (t.organismId.raw ∉ known) (.unknownCreature t.organismId)
  failIf (t.priorHabitatId.raw ∉ habitatIds) (.unknownHabitat t.priorHabitatId)
  failIf (t.newHabitatId.raw ∉ habitatIds) (.unknownHabitat t.newHabitatId)
  t.provenance.validate t.tick
  checkTransferActor known t.provenance.actor
  a.validateTransferAuthority t.organismId t.priorHabitatId t.newHabitatId t.provenance
  let membership ← getOr (a.membership t.organismId) (.unknownCreature t.organismId)
  let expected := departure membership (state.2 t.organismId.raw)
  failIf (t.priorHabitatId ≠ expected.1 ∨ t.tick.raw < expected.2.raw)
    (.staleTransfer t.sequence t.organismId)
  .ok (t.sequence, Function.update state.2 t.organismId.raw (some (chainOf t)))

/-- One membership against the end of its chain. -/
def checkChain (chains : UInt64 → Option Chain) (_ : Unit) (m : HabitatMembership) :
    HabitatResult Unit :=
  match chains m.organismId.raw with
  | some chain =>
    failIf (m.habitatId ≠ chain.habitatId ∨ m.enteredTick ≠ chain.tick ∨
        m.lastTransferSequence ≠ some chain.sequence ∨ m.quarantineUntil ≠ chain.quarantineUntil)
      (.staleTransfer chain.sequence m.organismId)
  | none =>
    failIf (m.habitatId ≠ m.originHabitatId ∨ m.enteredTick ≠ m.originTick ∨
        m.lastTransferSequence ≠ none ∨ m.quarantineUntil ≠ none)
      (.malformedTransfer "untransferred membership must match its origin")

/-- `HabitatAuthority::validate`. -/
def validate (a : HabitatAuthority) (knownCreatures : List OrganismId) : HabitatResult Unit := do
  failIf (a.habitats = []) (.malformedHabitat "at least one habitat is required")
  let habitatIds ← a.habitats.foldlM checkHabitat []
  let known := knownCreatures.map (·.raw)
  let membershipIds ← a.memberships.foldlM (checkMembership known habitatIds) []
  knownCreatures.foldlM (checkKnown membershipIds) ()
  failIf (a.nextTagSequence = 0) (.malformedTag "next tag sequence must be nonzero")
  let _ ← a.tags.foldlM a.checkTag (0, [])
  failIf (a.nextTransferSequence = 0) (.malformedTransfer "next transfer sequence must be nonzero")
  let transferred ← a.transfers.foldlM (a.checkTransfer known habitatIds) (0, fun _ => none)
  a.memberships.foldlM (checkChain transferred.2) ()

/-- One membership of `validate_at_tick`. -/
def checkMembershipTick (worldTick : Tick) (_ : Unit) (m : HabitatMembership) :
    HabitatResult Unit :=
  failIf (worldTick.raw < m.originTick.raw ∨ worldTick.raw < m.enteredTick.raw)
    (.malformedTransfer "membership tick cannot exceed the world tick")

/-- One tag of `validate_at_tick`. -/
def checkTagTick (worldTick : Tick) (_ : Unit) (tag : HabitatTagRecord) : HabitatResult Unit :=
  failIf (worldTick.raw < tag.tick.raw) (.staleTag tag.sequence tag.organismId)

/-- One transfer of `validate_at_tick`. -/
def checkTransferTick (worldTick : Tick) (_ : Unit) (t : HabitatTransferRecord) :
    HabitatResult Unit :=
  failIf (worldTick.raw < t.tick.raw) (.staleTransfer t.sequence t.organismId)

/-- `HabitatAuthority::validate_at_tick`. -/
def validateAtTick (a : HabitatAuthority) (knownCreatures : List OrganismId) (worldTick : Tick) :
    HabitatResult Unit := do
  a.validate knownCreatures
  a.memberships.foldlM (checkMembershipTick worldTick) ()
  a.tags.foldlM (checkTagTick worldTick) ()
  a.transfers.foldlM (checkTransferTick worldTick) ()

/-- `HabitatAuthority::restore`. -/
def restore (snapshot : HabitatAuthoritySnapshot) (knownCreatures : List OrganismId) :
    HabitatResult HabitatAuthority := do
  let authority : HabitatAuthority :=
    { nextTransferSequence := snapshot.nextTransferSequence
      nextTagSequence := snapshot.nextTagSequence
      habitats := sortByKey (·.id.raw.toNat) snapshot.habitats
      memberships := sortByKey (·.organismId.raw.toNat) snapshot.memberships
      tags := snapshot.tags
      transfers := snapshot.transfers }
  authority.validate knownCreatures
  .ok authority

/-- `HabitatAuthority::new`. -/
def new (habitats : List Habitat) : HabitatResult HabitatAuthority :=
  restore ⟨1, 1, habitats, [], [], []⟩ []

/-- The current fields. -/
def snapshot (a : HabitatAuthority) : HabitatAuthoritySnapshot :=
  ⟨a.nextTransferSequence, a.nextTagSequence, a.habitats, a.memberships, a.tags, a.transfers⟩

/-! ### Changes -/

abbrev HabitatM (α : Type) := EStateM HabitatAuthorityError HabitatAuthority α

/-- `HabitatAuthority::tag_creature`. -/
def tagCreature (reserveId : HabitatId) (organismId : OrganismId) (tick : Tick)
    (actor : HabitatActor) : HabitatM HabitatTagRecord := do
  let a ← get
  let reserve ← ofResult (getOr (a.habitat reserveId) (.unknownHabitat reserveId))
  ofResult (failIf (reserve.mode ≠ .reserve) (.illegalModeOperation reserve.mode .tag))
  let membership ← ofResult (getOr (a.membership organismId) (.unknownCreature organismId))
  ofResult (failIf (tick.raw < membership.originTick.raw)
    (.staleTag a.nextTagSequence organismId))
  ofResult (a.validateActorKnown actor)
  ofResult (failIf (actor ≠ .player ∧ actor ≠ .worldAuthority) (.invalidActor actor "reserve tag"))
  ofResult (failIf (a.isTagged reserveId organismId = true) (.duplicateTag organismId reserveId))
  let sequence := a.nextTagSequence
  let next ← ofResult (getOr (checkedAdd64 sequence 1) (.malformedTag "tag sequence exhausted"))
  let record : HabitatTagRecord := ⟨sequence, reserveId, organismId, tick, actor⟩
  set { a with nextTagSequence := next, tags := a.tags ++ [record] }
  pure record

/-- The row of a new creature. -/
def newRow (organismId : OrganismId) (habitatId : HabitatId) (tick : Tick) : HabitatMembership :=
  ⟨organismId, habitatId, tick, habitatId, tick, none, none⟩

/-- `HabitatAuthority::register_creature`. -/
def registerCreature (organismId : OrganismId) (habitatId : HabitatId) (tick : Tick) :
    HabitatM Unit := do
  let a ← get
  ofResult (failIf (organismId.raw = 0) (.unknownCreature organismId))
  ofResult (failIf (a.habitat habitatId = none) (.unknownHabitat habitatId))
  match binarySearch a.membershipIds organismId.raw.toNat with
  | .ok _ => throw (.duplicateMembership organismId)
  | .error index =>
    set { a with memberships := a.memberships.insertIdx index (newRow organismId habitatId tick) }

/-- A membership after a transfer. -/
def moved (m : HabitatMembership) (t : HabitatTransferRecord) : HabitatMembership :=
  { m with habitatId := t.newHabitatId, enteredTick := t.tick
           lastTransferSequence := some t.sequence
           quarantineUntil := t.provenance.quarantineUntil }

/-- `HabitatAuthority::transfer`. -/
def transfer (request : HabitatTransferRequest) : HabitatM HabitatTransferRecord := do
  let a ← get
  ofResult (failIf (request.organismId.raw = 0) (.unknownCreature request.organismId))
  ofResult (failIf (a.habitat request.newHabitatId = none) (.unknownHabitat request.newHabitatId))
  ofResult (failIf (request.expectedPriorHabitatId = request.newHabitatId)
    (.malformedTransfer "prior and new habitat must differ"))
  ofResult (request.provenance.validate request.tick)
  let (index, row) ← ofResult (getOr (a.findMembership request.organismId)
    (.unknownCreature request.organismId))
  ofResult (failIf (row.habitatId ≠ request.expectedPriorHabitatId)
    (.stalePriorHabitat request.organismId request.expectedPriorHabitatId row.habitatId))
  ofResult (failIf (request.tick.raw < row.enteredTick.raw)
    (.staleTransfer a.nextTransferSequence request.organismId))
  ofResult (a.validateTransferAuthority request.organismId request.expectedPriorHabitatId
    request.newHabitatId request.provenance)
  let sequence := a.nextTransferSequence
  let next ← ofResult (getOr (checkedAdd64 sequence 1)
    (.malformedTransfer "transfer sequence exhausted"))
  let record : HabitatTransferRecord :=
    ⟨sequence, request.organismId, request.expectedPriorHabitatId, request.newHabitatId,
      request.tick, request.provenance⟩
  set { a with transfers := a.transfers ++ [record], nextTransferSequence := next
               memberships := a.memberships.set index (moved row record) }
  pure record

/-- `HabitatAuthority::retire_creature`.  The receipts left keep their sequences and
the next sequences stay: retirement leaves gaps. -/
def retireCreature (a : HabitatAuthority) (organismId : OrganismId) : HabitatAuthority :=
  { a with memberships := a.memberships.filter (·.organismId ≠ organismId)
           tags := a.tags.filter (·.organismId ≠ organismId)
           transfers := a.transfers.filter (·.organismId ≠ organismId) }

end HabitatAuthority

end ALife
