/-
# Persistent addresses

`PersistentAddressMap::compile` and its digest
(`crates/alife_core/src/phenotype/persistent_address.rs`).  A neuron is named by
its lobe and its place in the lobe, a projection by its lobes and its role, a
synapse by its projection, its endpoints and its decoder coordinate; rows that
still agree are told apart by a running ordinal.  The rows of each kind are
sorted by address, and the digest is taken over the addresses alone.

The derived order of the source compares the fields of an address one by one; an
address is read here as the list of its discriminants (`names`), compared
lexicographically, and last its ordinal.  The hash is a parameter.
-/

import ALife.Core.Blake3
import ALife.Machine.SortedNames
import ALife.Phenotype.Compiled
import Mathlib.Data.Prod.Lex

namespace ALife

open Machine

@[ext]
structure PersistentNeuronAddress where
  lobe : LobeKind
  ordinal : UInt32
  deriving DecidableEq, Repr

inductive PersistentProjectionRole where
  | recurrent | actionAndSpeechDecoder | memoryDecoder | cognitiveDecoder
  deriving DecidableEq, Repr

/-- `role as u8`. -/
def PersistentProjectionRole.raw : PersistentProjectionRole → UInt8
  | .recurrent => 0
  | .actionAndSpeechDecoder => 1
  | .memoryDecoder => 2
  | .cognitiveDecoder => 3

theorem PersistentProjectionRole.raw_injective :
    Function.Injective PersistentProjectionRole.raw := by
  intro a b
  cases a <;> cases b <;> decide

@[ext]
structure PersistentProjectionAddress where
  sourceLobe : LobeKind
  targetLobe : LobeKind
  role : PersistentProjectionRole
  logicalOrdinal : UInt16
  deriving DecidableEq, Repr

@[ext]
structure PersistentDecoderAddress where
  head : DecoderHeadKind
  logicalGroup : UInt8
  inputLane : UInt16
  outputIndex : UInt16
  deriving DecidableEq, Repr

@[ext]
structure PersistentSynapseAddress where
  projection : PersistentProjectionAddress
  source : PersistentNeuronAddress
  target : PersistentNeuronAddress
  decoder : Option PersistentDecoderAddress
  duplicateOrdinal : UInt16
  deriving DecidableEq, Repr

structure PersistentNeuronAddressEntry where
  address : PersistentNeuronAddress
  packedIndex : UInt32
  deriving DecidableEq, Repr

structure PersistentProjectionAddressEntry where
  address : PersistentProjectionAddress
  packedIndex : UInt16
  deriving DecidableEq, Repr

structure PersistentSynapseAddressEntry where
  address : PersistentSynapseAddress
  packedIndex : UInt32
  deriving DecidableEq, Repr

structure PersistentDecoderAddressEntry where
  address : PersistentDecoderAddress
  synapseAddress : PersistentSynapseAddress
  packedSynapseIndex : UInt32
  deriving DecidableEq, Repr

structure PersistentAddressMap where
  schemaVersion : UInt16
  neurons : List PersistentNeuronAddressEntry
  projections : List PersistentProjectionAddressEntry
  synapses : List PersistentSynapseAddressEntry
  decoders : List PersistentDecoderAddressEntry
  digest : Blake3Digest
  deriving DecidableEq, Repr

/-! ### The order of addresses -/

/-- The fields of a neuron's address, as compared. -/
def PersistentNeuronAddress.key (a : PersistentNeuronAddress) : List ℕ :=
  [a.lobe.raw.toNat, a.ordinal.toNat]

/-- The fields of a projection's address before the ordinal, as compared. -/
def PersistentProjectionAddress.names (a : PersistentProjectionAddress) : List ℕ :=
  [a.sourceLobe.raw.toNat, a.targetLobe.raw.toNat, a.role.raw.toNat]

/-- A projection's address, as compared. -/
def PersistentProjectionAddress.key (a : PersistentProjectionAddress) : List ℕ ×ₗ ℕ :=
  toLex (a.names, a.logicalOrdinal.toNat)

/-- The fields of a decoder's address, as compared. -/
def PersistentDecoderAddress.names (a : PersistentDecoderAddress) : List ℕ :=
  [a.head.raw.toNat, a.logicalGroup.toNat, a.inputLane.toNat, a.outputIndex.toNat]

/-- An optional decoder's address, as compared: `None` comes first. -/
def decoderNames : Option PersistentDecoderAddress → List ℕ
  | none => [0]
  | some a => 1 :: a.names

/-- The fields of a synapse's address before the ordinal, as compared. -/
def PersistentSynapseAddress.names (a : PersistentSynapseAddress) : List ℕ :=
  a.projection.names ++ [a.projection.logicalOrdinal.toNat] ++ a.source.key ++ a.target.key
    ++ decoderNames a.decoder

/-- A synapse's address, as compared. -/
def PersistentSynapseAddress.key (a : PersistentSynapseAddress) : List ℕ ×ₗ ℕ :=
  toLex (a.names, a.duplicateOrdinal.toNat)

/-! ### The digest -/

/-- `encode_neuron`. -/
def encodeNeuron (a : PersistentNeuronAddress) : List UInt8 :=
  leBytes16 a.lobe.raw ++ leBytes32 a.ordinal

/-- `encode_projection`. -/
def encodeProjection (a : PersistentProjectionAddress) : List UInt8 :=
  leBytes16 a.sourceLobe.raw ++ leBytes16 a.targetLobe.raw ++ [a.role.raw]
    ++ leBytes16 a.logicalOrdinal

/-- `encode_decoder`. -/
def encodeDecoder (a : PersistentDecoderAddress) : List UInt8 :=
  leBytes32 a.head.raw ++ [a.logicalGroup] ++ leBytes16 a.inputLane ++ leBytes16 a.outputIndex

/-- `encode_synapse`. -/
def encodeSynapse (a : PersistentSynapseAddress) : List UInt8 :=
  encodeProjection a.projection ++ encodeNeuron a.source ++ encodeNeuron a.target
    ++ optionalBytes encodeDecoder a.decoder ++ leBytes16 a.duplicateOrdinal

namespace PersistentAddressMap

/-- What `recompute_digest` writes to its hasher. -/
def hashed (m : PersistentAddressMap) : List UInt8 :=
  domainHasher (asciiBytes "alife.phenotype.persistent-address-map.v1")
    ++ leBytes16 m.schemaVersion
    ++ leBytes64 m.neurons.length.toUInt64 ++ m.neurons.flatMap (fun e => encodeNeuron e.address)
    ++ leBytes64 m.projections.length.toUInt64
    ++ m.projections.flatMap (fun e => encodeProjection e.address)
    ++ leBytes64 m.synapses.length.toUInt64
    ++ m.synapses.flatMap (fun e => encodeSynapse e.address)
    ++ leBytes64 m.decoders.length.toUInt64
    ++ m.decoders.flatMap (fun e => encodeDecoder e.address ++ encodeSynapse e.synapseAddress)

/-- `recompute_digest`. -/
def recomputeDigest (blake3 : List UInt8 → Blake3Digest) (m : PersistentAddressMap) :
    Contract Blake3Digest := do
  reject (m.schemaVersion ≠ 1) .phenotypeCompile
  .ok (blake3 m.hashed)

end PersistentAddressMap

/-! ### The compiler -/

/-- `synapses.get(start..stop)`. -/
def slice? {α : Type} (l : List α) (start stop : ℕ) : Option (List α) :=
  if start ≤ stop ∧ stop ≤ l.length then some ((l.drop start).take (stop - start)) else none

/-- The role of one synapse in `projection_role`. -/
def synapseRole : CompiledSynapseKind → PersistentProjectionRole
  | .recurrent => .recurrent
  | .decoder c =>
    match c.head with
    | .actionCandidate => .actionAndSpeechDecoder
    | .speechPayload => .actionAndSpeechDecoder
    | .memoryContext => .memoryDecoder
    | .cognitiveContext => .cognitiveDecoder

/-- The loop of `projection_role`, with the role so far. -/
def foldRole : Option PersistentProjectionRole → List CompiledSynapse →
    Contract (Option PersistentProjectionRole)
  | role, [] => .ok role
  | role, synapse :: synapses => do
    reject (∃ prior ∈ role, prior ≠ synapseRole synapse.kind) .phenotypeCompile
    foldRole (some (synapseRole synapse.kind)) synapses

/-- `Option::ok_or` with the compiler's error. -/
def okOr {α : Type} : Option α → Contract α
  | some a => .ok a
  | none => .error .phenotypeCompile

theorem okOr_eq_ok_iff {α : Type} {o : Option α} {a : α} : okOr o = .ok a ↔ o = some a := by
  cases o <;> simp [okOr]

/-- `projection_role`. -/
def projectionRole (synapses : List CompiledSynapse) : Contract PersistentProjectionRole := do
  let role ← foldRole none synapses
  okOr role

/-- `neuron_address`. -/
def neuronAddress (layout : LobeLayout) (packedIndex : UInt32) :
    Contract PersistentNeuronAddress := do
  let region ← okOr (layout.lobeByNeuronIndex packedIndex)
  .ok ⟨region.kind, packedIndex - region.start⟩

/-- The neuron entries of one region. -/
def regionEntries (region : LobeRegion) : List PersistentNeuronAddressEntry :=
  (List.range region.len.toNat).map fun ordinal =>
    ⟨⟨region.kind, ordinal.toUInt32⟩, region.start + ordinal.toUInt32⟩

/-- The neuron loop of `compile`. -/
def neuronEntries (layout : LobeLayout) : List PersistentNeuronAddressEntry :=
  layout.enabledRegions.flatMap regionEntries

/-- The role of a projection: that of the synapses in its range. -/
def roleOf (synapses : List CompiledSynapse) (projection : CompiledProjection) :
    Contract PersistentProjectionRole := do
  let slice ← okOr (slice? synapses projection.synapseStart.toNat
    (projection.synapseStart + projection.synapseLen).toNat)
  projectionRole slice

/-- The address of a projection before its ordinal. -/
def projectionAddress (synapses : List CompiledSynapse) (projection : CompiledProjection) :
    Contract PersistentProjectionAddress := do
  let role ← roleOf synapses projection
  .ok ⟨projection.sourceLobe, projection.targetLobe, role, 0⟩

/-- `iter().enumerate()`: each item behind its packed index. -/
def enumerate {α : Type} (l : List α) : List (ℕ × α) := (List.range l.length).zip l

/-- The ordinals of a sorted list of names: one more than before where the name
repeats, else zero. -/
def runningOrdinals : Option (List ℕ) → UInt16 → List (List ℕ) → Contract (List UInt16)
  | _, _, [] => .ok []
  | prior, ordinal, names :: rest =>
    if prior = some names then do
      reject (ordinal.toNat = 65535) .phenotypeCompile
      let ordinals ← runningOrdinals prior (ordinal + 1) rest
      .ok ((ordinal + 1) :: ordinals)
    else do
      let ordinals ← runningOrdinals (some names) 0 rest
      .ok (0 :: ordinals)

/-- The ordinal loop over sorted rows. -/
def numberRows {A : Type} (names : A → List ℕ) (setOrdinal : A → UInt16 → A) (rows : List (ℕ × A)) :
    Contract (List (ℕ × A)) := do
  let ordinals ← runningOrdinals none 0 (rows.map fun row => names row.2)
  .ok (rows.zipWith (fun row ordinal => (row.1, setOrdinal row.2 ordinal)) ordinals)

/-- The ordinal loop over the projection rows. -/
def numberProjections :
    List (ℕ × PersistentProjectionAddress) → Contract (List (ℕ × PersistentProjectionAddress)) :=
  numberRows PersistentProjectionAddress.names fun a ordinal => { a with logicalOrdinal := ordinal }

/-- The entry of a projection row. -/
def projectionEntry (row : ℕ × PersistentProjectionAddress) :
    Contract PersistentProjectionAddressEntry := do
  reject (UInt16.size ≤ row.1) .phenotypeCompile
  .ok ⟨row.2, row.1.toUInt16⟩

/-- The decoder part of a synapse's address. -/
def decoderAddress : CompiledSynapseKind → Option PersistentDecoderAddress
  | .recurrent => none
  | .decoder c => some ⟨c.head, c.family.raw, c.inputLane, c.motorIndex⟩

/-- The address of a synapse before its ordinal, under the addresses of the packed
projections. -/
def synapseAddress (layout : LobeLayout) (projectionRows : List (ℕ × PersistentProjectionAddress))
    (synapse : CompiledSynapse) : Contract PersistentSynapseAddress := do
  let projection ← okOr (projectionRows.lookup synapse.routeIndex.toNat)
  let source ← neuronAddress layout synapse.source
  let target ← neuronAddress layout synapse.target
  .ok ⟨projection, source, target, decoderAddress synapse.kind, 0⟩

/-- The ordinal loop over the synapse rows. -/
def numberSynapses :
    List (ℕ × PersistentSynapseAddress) → Contract (List (ℕ × PersistentSynapseAddress)) :=
  numberRows PersistentSynapseAddress.names fun a ordinal => { a with duplicateOrdinal := ordinal }

/-- The entry of a synapse row. -/
def synapseEntry (row : ℕ × PersistentSynapseAddress) : Contract PersistentSynapseAddressEntry := do
  reject (UInt32.size ≤ row.1) .phenotypeCompile
  .ok ⟨row.2, row.1.toUInt32⟩

/-- The decoder entry of a synapse row with a decoder. -/
def decoderEntry (row : ℕ × PersistentSynapseAddress) (decoder : PersistentDecoderAddress) :
    Contract PersistentDecoderAddressEntry := do
  reject (UInt32.size ≤ row.1) .phenotypeCompile
  .ok ⟨decoder, row.2, row.1.toUInt32⟩

/-- The rows whose synapse has a decoder. -/
def decoderRows (rows : List (ℕ × PersistentSynapseAddress)) :
    List ((ℕ × PersistentSynapseAddress) × PersistentDecoderAddress) :=
  rows.filterMap fun row => row.2.decoder.map fun decoder => (row, decoder)

/-- `PersistentAddressMap::compile`. -/
def PersistentAddressMap.compile (blake3 : List UInt8 → Blake3Digest) (layout : LobeLayout)
    (projections : List CompiledProjection) (synapses : List CompiledSynapse) :
    Contract PersistentAddressMap := do
  let neurons := sortByKey (fun e => e.address.key) (neuronEntries layout)
  let addresses ← projections.mapM (projectionAddress synapses)
  let projectionRows ← numberProjections (sortByKey (fun row => row.2.key) (enumerate addresses))
  let projectionEntries ← projectionRows.mapM projectionEntry
  let addresses ← synapses.mapM (synapseAddress layout projectionRows)
  let synapseRows ← numberSynapses (sortByKey (fun row => row.2.key) (enumerate addresses))
  let synapseEntries ← synapseRows.mapM synapseEntry
  let decoders ← (decoderRows synapseRows).mapM fun row => decoderEntry row.1 row.2
  let value : PersistentAddressMap :=
    ⟨1, neurons, projectionEntries, synapseEntries, decoders, .default⟩
  let digest ← value.recomputeDigest blake3
  .ok { value with digest := digest }

/-- What the compiler does, stage by stage. -/
theorem PersistentAddressMap.compile_eq_ok_iff {blake3 : List UInt8 → Blake3Digest}
    {layout : LobeLayout} {projections : List CompiledProjection} {synapses : List CompiledSynapse}
    {m : PersistentAddressMap} :
    compile blake3 layout projections synapses = .ok m ↔
      ∃ paddresses prows saddresses srows,
        (projections.mapM (projectionAddress synapses) = .ok paddresses
        ∧ numberProjections (sortByKey (fun row => row.2.key) (enumerate paddresses)) = .ok prows
        ∧ synapses.mapM (synapseAddress layout prows) = .ok saddresses
        ∧ numberSynapses (sortByKey (fun row => row.2.key) (enumerate saddresses)) = .ok srows)
        ∧ m.schemaVersion = 1
        ∧ m.neurons = sortByKey (fun e => e.address.key) (neuronEntries layout)
        ∧ prows.mapM projectionEntry = .ok m.projections
        ∧ srows.mapM synapseEntry = .ok m.synapses
        ∧ ((decoderRows srows).mapM fun row => decoderEntry row.1 row.2) = .ok m.decoders
        ∧ m.digest = blake3 m.hashed := by
  unfold compile
  constructor
  · intro h0
    obtain ⟨paddresses, hpaddresses, h1⟩ := contract_bind_eq_ok_iff.1 h0
    obtain ⟨prows, hprows, h2⟩ := contract_bind_eq_ok_iff.1 h1
    obtain ⟨pentries, hpentries, h3⟩ := contract_bind_eq_ok_iff.1 h2
    obtain ⟨saddresses, hsaddresses, h4⟩ := contract_bind_eq_ok_iff.1 h3
    obtain ⟨srows, hsrows, h5⟩ := contract_bind_eq_ok_iff.1 h4
    obtain ⟨sentries, hsentries, h6⟩ := contract_bind_eq_ok_iff.1 h5
    obtain ⟨decoders, hdecoders, h7⟩ := contract_bind_eq_ok_iff.1 h6
    obtain ⟨digest, hdigest, h8⟩ := contract_bind_eq_ok_iff.1 h7
    obtain ⟨-, hdigest⟩ := contract_check_eq_ok_iff.1 hdigest
    obtain rfl := Except.ok.inj hdigest
    obtain rfl := Except.ok.inj h8
    exact ⟨paddresses, prows, saddresses, srows, ⟨hpaddresses, hprows, hsaddresses, hsrows⟩, rfl,
      rfl, hpentries, hsentries, hdecoders, rfl⟩
  · rintro ⟨paddresses, prows, saddresses, srows, ⟨hpaddresses, hprows, hsaddresses, hsrows⟩,
      hversion, hneurons, hpentries, hsentries, hdecoders, hdigest⟩
    refine contract_bind_eq_ok_iff.2 ⟨_, hpaddresses, contract_bind_eq_ok_iff.2 ⟨_, hprows,
      contract_bind_eq_ok_iff.2 ⟨_, hpentries, contract_bind_eq_ok_iff.2 ⟨_, hsaddresses,
        contract_bind_eq_ok_iff.2 ⟨_, hsrows, contract_bind_eq_ok_iff.2 ⟨_, hsentries,
          contract_bind_eq_ok_iff.2 ⟨_, hdecoders, ?_⟩⟩⟩⟩⟩⟩⟩
    obtain ⟨version, neurons, pentries, sentries, decoders, digest⟩ := m
    subst hversion hneurons
    dsimp only at hdigest ⊢
    rw [hdigest]
    rfl

end ALife
