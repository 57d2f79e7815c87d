/-
# The tracked-object registry

`crates/alife_world/src/tracked_objects.rs`.  For each organism the registry
keeps the physical objects it has observed, under a key computed from the
object's provenance, and gives every object that is not tracked yet the next id
of the organism's counter.  A full organism evicts the record that was seen
longest ago.

`BTreeMap` is Std's extensional tree map: the order of its entries is the order
of the keys.  The two `expect` of the source are a failure of their own,
`Refusal.panic`, so that it can be proved that no call runs into them.
-/

import ALife.Core.CanonicalDigest
import ALife.Machine.Integers
import ALife.Machine.Mutation
import Std.Data.ExtTreeMap
import Std.Data.ExtTreeSet

namespace ALife

open Machine Std

/-- `PHYSICAL_TRACKING_PROVENANCE_SCHEMA_VERSION`. -/
def physicalTrackingProvenanceSchemaVersion : UInt16 := 1

/-- `DEFAULT_TRACKED_OBJECT_CAPACITY_PER_ORGANISM`. -/
def defaultTrackedObjectCapacityPerOrganism : UInt32 := 1024

/-- `TRACKED_OBJECT_REGISTRY_SAVE_SCHEMA_VERSION`. -/
def trackedObjectRegistrySaveSchemaVersion : UInt16 := 1

def physicalTrackingDomain : List UInt8 := asciiBytes "ALIFE-PHYSICAL-TRACK-V1"

def trackedObjectStateDomain : List UInt8 := asciiBytes "ALIFE-TRACKED-OBJECT-STATE-V1"

/-- How a call of the registry fails: with a contract error, or in one of the
two `expect`. -/
inductive Refusal where
  | contract (e : ScaffoldContractError)
  | panic
  deriving DecidableEq, Repr

/-- A contract check inside a call of the registry: `check?`. -/
def checked {α : Type} : Contract α → Except Refusal α
  | .ok a => .ok a
  | .error e => .error (.contract e)

@[simp] theorem checked_ok {α : Type} (a : α) : checked (.ok a) = .ok a := rfl

@[simp] theorem checked_error {α : Type} (e : ScaffoldContractError) :
    checked (.error e : Contract α) = .error (.contract e) := rfl

theorem checked_eq_ok_iff {α : Type} {x : Contract α} {a : α} : checked x = .ok a ↔ x = .ok a := by
  cases x <;> simp

/-- A fallible call inside another one passes its value on. -/
theorem refusal_bind_eq_ok_iff {α β : Type} {x : Except Refusal α} {f : α → Except Refusal β}
    {b : β} : (x >>= f) = .ok b ↔ ∃ a, x = .ok a ∧ f a = .ok b := by
  cases x with
  | ok a => simp [bind, Except.bind]
  | error e => simp [bind, Except.bind]

/-- A failing call inside another one passes its failure on. -/
theorem refusal_bind_eq_error_iff {α β : Type} {x : Except Refusal α} {f : α → Except Refusal β}
    {e : Refusal} : (x >>= f) = .error e ↔ x = .error e ∨ ∃ a, x = .ok a ∧ f a = .error e := by
  cases x with
  | ok a => simp [bind, Except.bind]
  | error e => simp [bind, Except.bind]

/-- A contract check does not panic. -/
theorem checked_ne_panic {α : Type} (x : Contract α) : checked x ≠ .error .panic := by
  cases x <;> simp

/-- The key that a physical object is tracked under, ordered as its two words. -/
structure PhysicalTrackingKey where
  w0 : UInt64
  w1 : UInt64
  deriving DecidableEq, Repr

namespace PhysicalTrackingKey

instance : Ord PhysicalTrackingKey := ⟨compareLex (compareOn w0) (compareOn w1)⟩

instance : TransOrd PhysicalTrackingKey :=
  inferInstanceAs (TransCmp (compareLex (compareOn w0) (compareOn w1)))

instance : LawfulEqOrd PhysicalTrackingKey where
  eq_of_compare {a b} h := by
    obtain ⟨h0, h1⟩ := Ordering.then_eq_eq.1 h
    cases a
    cases b
    rw [mk.injEq]
    exact ⟨LawfulEqCmp.eq_of_compare h0, LawfulEqCmp.eq_of_compare h1⟩

/-- One word mixed into both streams. -/
def mix (k : PhysicalTrackingKey) (word : UInt64) : PhysicalTrackingKey :=
  ⟨CanonicalDigestBuilder.splitmix64 (k.w0 ^^^ word),
    CanonicalDigestBuilder.splitmix64 (k.w1 ^^^ word)⟩

/-- The chunk loop of `canonical_key`: words of eight bytes, the last padded
with zeros. -/
def absorb (k : PhysicalTrackingKey) : List UInt8 → PhysicalTrackingKey
  | b0 :: b1 :: b2 :: b3 :: b4 :: b5 :: b6 :: b7 :: rest =>
    absorb (mix k (CanonicalDigestBuilder.leWord [b0, b1, b2, b3, b4, b5, b6, b7])) rest
  | [] => k
  | short => mix k (CanonicalDigestBuilder.leWord short)

end PhysicalTrackingKey

/-- Where a physical object comes from. -/
structure PhysicalTrackingProvenance where
  schemaVersion : UInt16
  worldSeed : UInt64
  zoneId : UInt32
  spawnSequence : UInt64
  lineageKey : UInt64
  deriving DecidableEq, Repr

namespace PhysicalTrackingProvenance

/-- `PhysicalTrackingProvenance::validate_contract`. -/
def validateContract (p : PhysicalTrackingProvenance) : Contract Unit :=
  reject (p.schemaVersion ≠ physicalTrackingProvenanceSchemaVersion ∨ p.spawnSequence = 0)
    .invalidId

/-- `canonical_key`. -/
def canonicalKey (p : PhysicalTrackingProvenance) : PhysicalTrackingKey :=
  let bytes := physicalTrackingDomain ++ leBytes16 p.schemaVersion ++ leBytes64 p.worldSeed
    ++ leBytes32 p.zoneId ++ leBytes64 p.spawnSequence ++ leBytes64 p.lineageKey
  let key := PhysicalTrackingKey.absorb ⟨0xa11fea7ed00d0001, 0xc0decafe51a70002⟩ bytes
  if key.w0 = 0 ∧ key.w1 = 0 then
    ⟨CanonicalDigestBuilder.splitmix64 key.w0, CanonicalDigestBuilder.splitmix64 key.w1⟩
  else key

end PhysicalTrackingProvenance

/-- The fifteen values that describe a physical object. -/
structure StablePhysicalDescriptor where
  values : Vector F32 15
  deriving DecidableEq, Repr

namespace StablePhysicalDescriptor

/-- The test that fails a value: not finite, or outside `lo..=hi`. -/
def outside (lo hi x : F32) : Bool := !x.isFinite || !F32.inRange lo hi x

/-- `StablePhysicalDescriptor::validate_contract`: values 9 to 12 are signed
units, all others units. -/
def validateContract (d : StablePhysicalDescriptor) : Contract Unit :=
  let values := d.values.toList
  reject ((values.take 9 ++ values.drop 13).any (outside .zero .one)
    ∨ ((values.drop 9).take 4).any (outside .negOne .one)) .scalarOutOfRange

end StablePhysicalDescriptor

structure TrackedObjectRecord where
  trackedObjectId : TrackedObjectId
  trackingProvenance : PhysicalTrackingProvenance
  trackingKey : PhysicalTrackingKey
  lastSeenTick : Tick
  stablePhysicalDescriptor : StablePhysicalDescriptor
  deriving DecidableEq, Repr

/-- `initial_tracked_object_id`. -/
def initialTrackedObjectId (worldSeed organismIdRaw : UInt64) : UInt64 :=
  (1 : UInt64) + (CanonicalDigestBuilder.splitmix64
    (worldSeed ^^^ (organismIdRaw <<< 23 ||| organismIdRaw >>> 41) ^^^ 0xa11f7a4c0b1ec701)
    &&& 0x0000ffffffffffff)

/-- The initial id is not the reserved one. -/
theorem initialTrackedObjectId_pos (worldSeed raw : UInt64) :
    0 < (initialTrackedObjectId worldSeed raw).toNat := by
  unfold initialTrackedObjectId
  generalize CanonicalDigestBuilder.splitmix64 _ = x
  have hmask : (x &&& 0x0000ffffffffffff).toNat ≤ 0x0000ffffffffffff := by
    rw [UInt64.toNat_and]
    exact Nat.and_le_right
  rw [toNat_add_of_lt64 (by change 1 + _ < _; omega)]
  change 0 < 1 + _
  omega

-- Nothing below computes either of them.
attribute [irreducible] initialTrackedObjectId PhysicalTrackingProvenance.canonicalKey

/-- The records of one organism under their keys. -/
abbrev TrackedRecords := ExtTreeMap PhysicalTrackingKey TrackedObjectRecord

structure OrganismTrackedObjects where
  organismIdRaw : UInt64
  worldSeed : UInt64
  capacity : UInt32
  nextId : UInt64
  recordsByKey : TrackedRecords
  deriving DecidableEq

/-- One observation: what was seen, how it looked and when. -/
structure Observation where
  provenance : PhysicalTrackingProvenance
  descriptor : StablePhysicalDescriptor
  tick : Tick
  deriving DecidableEq, Repr

/-- What an observation answers: the id, whether it is new, and the id whose
record made room for it. -/
structure Observed where
  trackedObjectId : TrackedObjectId
  inserted : Bool
  evicted : Option TrackedObjectId
  deriving DecidableEq, Repr

/-- The order of eviction: last seen first, then the lower id, then the lower key. -/
def evictionOrder (a b : PhysicalTrackingKey × TrackedObjectRecord) : Ordering :=
  (compare a.2.lastSeenTick.raw b.2.lastSeenTick.raw).then
    ((compare a.2.trackedObjectId.raw b.2.trackedObjectId.raw).then (compare a.1 b.1))

/-- `min_by_key(..)` over the records, with the key of the entry. -/
def evictionTarget (records : TrackedRecords) : Option PhysicalTrackingKey :=
  match records.toList with
  | [] => none
  | entry :: entries =>
    some (entries.foldl (fun best e => if evictionOrder e best = .lt then e else best) entry).1

namespace OrganismTrackedObjects

/-- `OrganismTrackedObjects::new`. -/
def new (organismIdRaw worldSeed : UInt64) (capacity : UInt32) : OrganismTrackedObjects :=
  ⟨organismIdRaw, worldSeed, capacity, initialTrackedObjectId worldSeed organismIdRaw, ∅⟩

/-- A second sighting: the record keeps its id and takes the new tick and descriptor. -/
def resight (s : OrganismTrackedObjects) (existing : TrackedObjectRecord) (o : Observation) :
    OrganismTrackedObjects :=
  { s with
    recordsByKey := s.recordsByKey.insert o.provenance.canonicalKey
      { existing with lastSeenTick := o.tick, stablePhysicalDescriptor := o.descriptor } }

/-- The counter behind the id it hands out. -/
def nextIdAfter (s : OrganismTrackedObjects) : Contract UInt64 :=
  match checkedAdd64 s.nextId 1 with
  | some nextId => .ok nextId
  | none => .error .trackedObjectIdentityExhausted

/-- The eviction of a full organism: the records left and the id that went. -/
def evict (s : OrganismTrackedObjects) :
    Except Refusal (TrackedRecords × Option TrackedObjectId) :=
  if s.recordsByKey.size = s.capacity.toNat then
    match evictionTarget s.recordsByKey with
    | none => .error .panic
    | some key => .ok (s.recordsByKey.erase key, (s.recordsByKey[key]?).map (·.trackedObjectId))
  else .ok (s.recordsByKey, none)

/-- `OrganismTrackedObjects::observe`.  Its callers observe on a staged copy and
drop the copy when the call fails, so a failure has no state of its own. -/
def observe (s : OrganismTrackedObjects) (o : Observation) :
    Except Refusal (Observed × OrganismTrackedObjects) := do
  checked o.provenance.validateContract
  checked o.descriptor.validateContract
  checked (reject (o.provenance.worldSeed ≠ s.worldSeed) .invalidId)
  match s.recordsByKey[o.provenance.canonicalKey]? with
  | some existing =>
    checked (reject (o.tick.raw < existing.lastSeenTick.raw) .nonMonotonicTick)
    .ok (⟨existing.trackedObjectId, false, none⟩, s.resight existing o)
  | none =>
    let nextId ← checked s.nextIdAfter
    let (records, evicted) ← s.evict
    let record : TrackedObjectRecord :=
      ⟨⟨s.nextId⟩, o.provenance, o.provenance.canonicalKey, o.tick, o.descriptor⟩
    .ok (⟨⟨s.nextId⟩, true, evicted⟩,
      { s with nextId, recordsByKey := records.insert o.provenance.canonicalKey record })

/-- The observations of a batch on the staged copy, with the ids pushed. -/
def observeAll (s : OrganismTrackedObjects) :
    List Observation → Except Refusal (List TrackedObjectId × OrganismTrackedObjects)
  | [] => .ok ([], s)
  | o :: rest => do
    let (observed, s) ← s.observe o
    let (ids, s) ← s.observeAll rest
    .ok (observed.trackedObjectId :: ids, s)

/-- The digest of one record. -/
def writeRecord (d : CanonicalDigestBuilder) (entry : PhysicalTrackingKey × TrackedObjectRecord) :
    Contract CanonicalDigestBuilder :=
  let p := entry.2.trackingProvenance
  let d := (((d.writeU64 entry.1.w0).writeU64 entry.1.w1).writeU64
    entry.2.trackedObjectId.raw).writeU16 p.schemaVersion
  let d := (((d.writeU64 p.worldSeed).writeU32 p.zoneId).writeU64 p.spawnSequence).writeU64
    p.lineageKey
  entry.2.stablePhysicalDescriptor.values.toList.foldlM CanonicalDigestBuilder.writeF32
    (d.writeU64 entry.2.lastSeenTick.raw)

/-- `canonical_digest`: a value that is not finite makes the `expect` panic. -/
def canonicalDigest (s : OrganismTrackedObjects) : Except Refusal Digest256 :=
  let d := (CanonicalDigestBuilder.new trackedObjectStateDomain).writeU64 s.organismIdRaw
  let d := ((d.writeU64 s.worldSeed).writeU32 s.capacity).writeU64 s.nextId
  match s.recordsByKey.toList.foldlM writeRecord (d.writeSequenceLen s.recordsByKey.size) with
  | .ok d => .ok d.finish256
  | .error _ => .error .panic

end OrganismTrackedObjects

structure TrackedObjectObservationReceipt where
  organismIdRaw : UInt64
  trackedObjectId : TrackedObjectId
  inserted : Bool
  evicted : Option TrackedObjectId
  recordCount : UInt32
  nextId : UInt64
  beforeDigest : Digest256
  afterDigest : Digest256
  deriving DecidableEq, Repr

structure TrackedObjectRegistrySaveState where
  schemaVersion : UInt16
  worldSeed : UInt64
  organismId : OrganismId
  capacity : UInt32
  nextId : UInt64
  records : List TrackedObjectRecord
  deriving DecidableEq, Repr

namespace TrackedObjectRegistrySaveState

/-- `(1..=DEFAULT_TRACKED_OBJECT_CAPACITY_PER_ORGANISM).contains(&capacity)`. -/
def capacityInRange (capacity : UInt32) : Prop :=
  1 ≤ capacity ∧ capacity ≤ defaultTrackedObjectCapacityPerOrganism

instance (capacity : UInt32) : Decidable (capacityInRange capacity) :=
  inferInstanceAs (Decidable (_ ∧ _))

/-- What the record loop carries: the key before, and the ids so far. -/
structure Scan where
  previousKey : Option PhysicalTrackingKey
  seenIds : ExtTreeSet UInt64

/-- One turn of the record loop of `validate_contract`. -/
def checkRecord (worldSeed initialId : UInt64) (scan : Scan) (record : TrackedObjectRecord) :
    Contract Scan := do
  record.trackedObjectId.validate
  record.trackingProvenance.validateContract
  record.stablePhysicalDescriptor.validateContract
  reject (record.trackingProvenance.worldSeed ≠ worldSeed
    ∨ record.trackingKey ≠ record.trackingProvenance.canonicalKey) .invalidId
  reject ((∃ key ∈ scan.previousKey, (compare key record.trackingKey).isGE)
    ∨ record.trackedObjectId.raw ∈ scan.seenIds) .invalidId
  reject (record.trackedObjectId.raw < initialId) .mismatchedCreatureId
  .ok ⟨some record.trackingKey, scan.seenIds.insert record.trackedObjectId.raw⟩

/-- `TrackedObjectRegistrySaveState::validate_contract`. -/
def validateContract (saved : TrackedObjectRegistrySaveState) : Contract Unit := do
  reject (saved.schemaVersion ≠ trackedObjectRegistrySaveSchemaVersion
    ∨ ¬capacityInRange saved.capacity ∨ saved.capacity.toNat < saved.records.length)
    .scalarOutOfRange
  saved.organismId.validate
  let initialId := initialTrackedObjectId saved.worldSeed saved.organismId.raw
  let scan ← saved.records.foldlM (checkRecord saved.worldSeed initialId) ⟨none, ∅⟩
  let highestId := scan.seenIds.toList.getLast?.getD (saturatingSub64 initialId 1)
  reject (saved.nextId < initialId ∨ saved.nextId ≤ highestId) .trackedObjectIdentityExhausted

end TrackedObjectRegistrySaveState

structure TrackedObjectRegistry where
  worldSeed : UInt64
  perOrganismCapacity : UInt32
  organisms : ExtTreeMap UInt64 OrganismTrackedObjects
  deriving DecidableEq

/-- A method of the registry. -/
abbrev RegistryM (α : Type) := EStateM Refusal TrackedObjectRegistry α

namespace TrackedObjectRegistry

open TrackedObjectRegistrySaveState (capacityInRange)

/-- `TrackedObjectRegistry::new`. -/
def new (worldSeed : UInt64) (perOrganismCapacity : UInt32) : Contract TrackedObjectRegistry := do
  reject (¬capacityInRange perOrganismCapacity) .scalarOutOfRange
  .ok ⟨worldSeed, perOrganismCapacity, ∅⟩

/-- `staged_observer`: a copy of the organism's records, empty when it has none. -/
def stagedObserver (r : TrackedObjectRegistry) (observer : OrganismId) :
    Contract OrganismTrackedObjects := do
  observer.validate
  .ok (r.organisms[observer.raw]?.getD
    (OrganismTrackedObjects.new observer.raw r.worldSeed r.perOrganismCapacity))

/-- `self.organisms.insert(observer.raw(), candidate)`. -/
def install (r : TrackedObjectRegistry) (observer : OrganismId)
    (candidate : OrganismTrackedObjects) : TrackedObjectRegistry :=
  { r with organisms := r.organisms.insert observer.raw candidate }

/-- `TrackedObjectRegistry::observe`. -/
def observe (observer : OrganismId) (o : Observation) :
    RegistryM TrackedObjectObservationReceipt := do
  let r ← get
  let candidate ← ofResult (checked (r.stagedObserver observer))
  let beforeDigest ← ofResult candidate.canonicalDigest
  let (observed, candidate) ← ofResult (candidate.observe o)
  let afterDigest ← ofResult candidate.canonicalDigest
  set (r.install observer candidate)
  return ⟨observer.raw, observed.trackedObjectId, observed.inserted, observed.evicted,
    candidate.recordsByKey.size.toUInt32, candidate.nextId, beforeDigest, afterDigest⟩

/-- `observe_batch`. -/
def observeBatch (observer : OrganismId) (observations : List Observation) :
    RegistryM (List TrackedObjectId) := do
  let r ← get
  let candidate ← ofResult (checked (r.stagedObserver observer))
  let (ids, candidate) ← ofResult (candidate.observeAll observations)
  if ids ≠ [] then set (r.install observer candidate)
  return ids

/-- `records_for`. -/
def recordsFor (r : TrackedObjectRegistry) (observer : OrganismId) :
    Option (List TrackedObjectRecord) :=
  (r.organisms[observer.raw]?).map fun s => s.recordsByKey.toList.map (·.2)

/-- `record`. -/
def record (r : TrackedObjectRegistry) (observer : OrganismId) (id : TrackedObjectId) :
    Option TrackedObjectRecord :=
  (r.organisms[observer.raw]?).bind fun s =>
    (s.recordsByKey.toList.map (·.2)).find? fun record => record.trackedObjectId = id

/-- `save_state`. -/
def saveState (r : TrackedObjectRegistry) (observer : OrganismId) :
    Contract TrackedObjectRegistrySaveState := do
  observer.validate
  let state := r.organisms[observer.raw]?
  let saved : TrackedObjectRegistrySaveState :=
    { schemaVersion := trackedObjectRegistrySaveSchemaVersion
      worldSeed := r.worldSeed
      organismId := observer
      capacity := r.perOrganismCapacity
      nextId := state.elim (initialTrackedObjectId r.worldSeed observer.raw) (·.nextId)
      records := state.elim [] fun s => s.recordsByKey.toList.map (·.2) }
  saved.validateContract
  .ok saved

/-- The organism a save describes. -/
def organismOf (saved : TrackedObjectRegistrySaveState) : OrganismTrackedObjects :=
  { organismIdRaw := saved.organismId.raw
    worldSeed := saved.worldSeed
    capacity := saved.capacity
    nextId := saved.nextId
    recordsByKey := saved.records.foldl (fun m record => m.insert record.trackingKey record) ∅ }

/-- One turn of the loop of `from_save_states`. -/
def restoreOne (worldSeed : UInt64) (perOrganismCapacity : UInt32)
    (organisms : ExtTreeMap UInt64 OrganismTrackedObjects)
    (saved : TrackedObjectRegistrySaveState) :
    Contract (ExtTreeMap UInt64 OrganismTrackedObjects) := do
  saved.validateContract
  reject (saved.worldSeed ≠ worldSeed ∨ saved.capacity ≠ perOrganismCapacity) .invalidId
  reject (saved.organismId.raw ∈ organisms) .mismatchedCreatureId
  .ok (organisms.insert saved.organismId.raw (organismOf saved))

/-- `from_save_states`. -/
def fromSaveStates (worldSeed : UInt64) (perOrganismCapacity : UInt32)
    (states : List TrackedObjectRegistrySaveState) : Contract TrackedObjectRegistry := do
  reject (¬capacityInRange perOrganismCapacity) .scalarOutOfRange
  let organisms ← states.foldlM (restoreOne worldSeed perOrganismCapacity) ∅
  .ok ⟨worldSeed, perOrganismCapacity, organisms⟩

end TrackedObjectRegistry

end ALife
