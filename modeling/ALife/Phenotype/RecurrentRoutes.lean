/-
# Compiling the recurrent routes

`compile_recurrent` (`crates/alife_core/src/phenotype/topology_compile.rs`): the
genome's masks and density priors are checked against each other, every enabled
route gets its share of synapses, and `deterministicTilePairs` places them.  The
N2048 class has a layout and routes of its own, and a route there may be placed
in several segments.  What a projection says of its active tiles is what
`BrainPhenotype::validate_against` counts in its synapses
(`compileRecurrent_counts_tiles`).

Weights and alphas are left out, as are the values of the alpha overrides: only
the keys of the overrides can refuse a genome here.  The two products of a count
with a share are exact: they have at most 53 significant bits for every class,
so that `f64` does not round them.
-/

import ALife.Machine.Binary32Value
import ALife.Machine.Checks
import ALife.Machine.SortedNames
import ALife.Phenotype.Routing
import Mathlib.Data.Prod.Lex

namespace ALife

open Machine

namespace Topology

/-- `NormalizedScalar`. -/
structure NormalizedScalar where
  raw : F32
  mem_unit : F32.inRange .zero .one raw = true
  deriving DecidableEq, Repr

structure MacroConnectomeMask where
  projection : ProjectionKey
  enabled : Bool
  structuralGrowthAllowed : Bool
  deriving DecidableEq, Repr

structure SparseDensityPrior where
  projection : ProjectionKey
  density : NormalizedScalar
  maxActiveSynapseShare : NormalizedScalar
  deriving DecidableEq, Repr

/-- `AlphaMask`, the keys of its overrides. -/
structure AlphaMask where
  projectionOverrides : List ProjectionKey
  lobeOverrides : List LobeKind
  tileOverrides : List (LobeKind × UInt32)
  perSynapseOverrides : List (UInt32 × UInt32)
  deriving DecidableEq, Repr

structure BrainGenome where
  geneticPriorSeed : UInt64
  macroConnectomeMasks : List MacroConnectomeMask
  sparseDensityPriors : List SparseDensityPrior
  alphaMask : AlphaMask
  /-- `plasticity_mask.projection_masks`, their keys. -/
  plasticityProjections : List ProjectionKey
  deriving DecidableEq, Repr

structure BrainCapacityClass where
  id : BrainClassId
  maxRecurrentSynapses : ℕ
  maxActiveTiles : ℕ
  deriving DecidableEq, Repr

structure CompiledSynapse where
  source : ℕ
  target : ℕ
  routeIndex : ℕ
  deriving DecidableEq, Repr

structure CompiledProjection where
  routeIndex : ℕ
  sourceLobe : LobeKind
  targetLobe : LobeKind
  projectionType : ProjectionType
  activeTilePolicy : ActiveTilePolicy
  priority : BiologicalPriority
  delayMicrosteps : ℕ
  synapseStart : ℕ
  synapseLen : ℕ
  activeTileCount : ℕ
  deriving DecidableEq, Repr

structure RouteBudgetReceipt where
  routeIndex : ℕ
  activeTiles : ℕ
  recurrentSynapses : ℕ
  actionDecoderSynapses : ℕ
  memoryDecoderSynapses : ℕ
  immutablePayloadWords : ℕ
  tileCeiling : ℕ
  synapseCeiling : ℕ
  payloadWordCeiling : ℕ
  deriving DecidableEq, Repr

/-- What the loop over the routes has made so far, with its running tile total. -/
structure RecurrentCompilation where
  projections : List CompiledProjection
  synapses : List CompiledSynapse
  receipts : List RouteBudgetReceipt
  tileTotal : ℕ
  deriving DecidableEq, Repr

/-- How a compilation stops: with an error, or in a panic. -/
inductive CompileStop where
  | refused (e : ScaffoldContractError)
  | panicked
  deriving DecidableEq, Repr

/-- A body of the compiler. -/
abbrev Compiling (α : Type) := Except CompileStop α

/-- `compile_error`. -/
def compileError : CompileStop := .refused .phenotypeCompile

/-- A value that the source takes without a check. -/
def orPanic {α : Type} (value : Option α) : Compiling α := getOr value .panicked

/-! ## The checks of the genome -/

/-- The loops over the masks and the priors; their errors are all `compile_error`. -/
def validateRouteKeys (genome : BrainGenome) : Compiling Unit := do
  failIf (¬(genome.macroConnectomeMasks.map (·.projection)).Nodup
      ∨ ∃ mask ∈ genome.macroConnectomeMasks,
        canonicalRoute mask.projection = none ∨ mask.structuralGrowthAllowed = true) compileError
  failIf (¬(genome.sparseDensityPriors.map (·.projection)).Nodup
      ∨ ∃ prior ∈ genome.sparseDensityPriors,
        F32.le prior.density.raw .zero ∨ F32.le prior.maxActiveSynapseShare.raw .zero
          ∨ ¬∃ mask ∈ genome.macroConnectomeMasks,
            mask.projection = prior.projection ∧ mask.enabled = true) compileError
  failIf (∃ mask ∈ genome.macroConnectomeMasks,
      ¬(mask.enabled = true ↔ ∃ prior ∈ genome.sparseDensityPriors,
        prior.projection = mask.projection)) compileError

/-- `validate_alpha_keys`. -/
def validateAlphaKeys (genome : BrainGenome) : Compiling Unit :=
  failIf (¬genome.alphaMask.projectionOverrides.Nodup ∨ ¬genome.alphaMask.lobeOverrides.Nodup
      ∨ ¬genome.alphaMask.tileOverrides.Nodup ∨ ¬genome.alphaMask.perSynapseOverrides.Nodup
      ∨ ¬genome.plasticityProjections.Nodup
      ∨ ∃ key ∈ genome.plasticityProjections, ¬∃ mask ∈ genome.macroConnectomeMasks,
        mask.enabled = true ∧ mask.projection = key) compileError

/-! ## One route -/

/-- `sort_unstable` of rows. -/
def sortRows (rows : List (ℕ × ℕ)) : List (ℕ × ℕ) := sortByKey toLex rows

/-- The end of a round: the synapses of the route, its projection and its receipt. -/
def closeRoute (c : RecurrentCompilation) (routeIndex : ℕ) (route : RoutingMask) (activeTiles : ℕ)
    (rows : List (ℕ × ℕ)) : RecurrentCompilation where
  projections := c.projections ++ [{
    routeIndex := routeIndex, sourceLobe := route.sourceLobe, targetLobe := route.targetLobe,
    projectionType := route.projectionType, activeTilePolicy := route.activeTilePolicy,
    priority := route.priority, delayMicrosteps := 0, synapseStart := c.synapses.length,
    synapseLen := rows.length, activeTileCount := activeTiles }]
  synapses := c.synapses ++ rows.map fun row => ⟨row.1, row.2, routeIndex⟩
  receipts := c.receipts ++ [⟨routeIndex, activeTiles, rows.length, 0, 0, rows.length, activeTiles,
    rows.length, rows.length⟩]
  tileTotal := c.tileTotal + activeTiles

/-- `as u32` of a number that is not negative. -/
def saturate32 (n : ℕ) : ℕ := min n (2 ^ 32 - 1)

/-- The number of synapses of a route: what its density asks for, within its share and within
what is left. -/
def synapseCount (capacity : BrainCapacityClass) (density : SparseDensityPrior)
    (possible placed : ℕ) : ℕ :=
  let densityCount := saturate32 ⌈(possible : ℚ) * density.density.raw.value⌉₊
  let shareCount :=
    saturate32 ⌊(capacity.maxRecurrentSynapses : ℚ) * density.maxActiveSynapseShare.raw.value⌋₊
  min (min (max densityCount 1) (max shareCount 1)) (capacity.maxRecurrentSynapses - placed)

/-- A route of the general path. -/
def compileRoute (genome : BrainGenome) (layout : LobeLayout) (capacity : BrainCapacityClass)
    (fuel : ℕ) (c : RecurrentCompilation) (row : (RoutingMask × SparseDensityPrior) × ℕ) :
    Compiling RecurrentCompilation := do
  let ((route, density), routeIndex) := row
  let source ← getOr (layout.enabledRegion route.sourceLobe) compileError
  let target ← getOr (layout.enabledRegion route.targetLobe) compileError
  let possible := source.len.toNat * target.len.toNat
  let count := synapseCount capacity density possible (c.synapses.length % 2 ^ 32)
  failIf (count = 0) compileError
  let activeTiles := max (tilesFor count) 1
  let tileTotal ← orPanic (checkedAdd 32 c.tileTotal activeTiles)
  failIf (capacity.maxActiveTiles < tileTotal) compileError
  failIf (2 ^ 16 ≤ routeIndex ∨ 2 ^ 32 ≤ c.synapses.length) compileError
  let rows ← orPanic (deterministicTilePairs fuel source.start.toNat source.len.toNat
    target.start.toNat target.len.toNat count (genome.geneticPriorSeed ^^^ routeIndex.toUInt64)
    route.activeTilePolicy)
  failIf (2 ^ 32 ≤ c.synapses.length + rows.length) compileError
  .ok (closeRoute c routeIndex route activeTiles (sortRows rows))

/-- The enabled routes with their priors; neither lookup fails after the checks. -/
def enabledRoutes (genome : BrainGenome) : Option (List (RoutingMask × SparseDensityPrior)) :=
  (genome.macroConnectomeMasks.filter (·.enabled)).mapM fun mask => do
    let route ← canonicalRoute mask.projection
    let density ← genome.sparseDensityPriors.find? fun prior => prior.projection = mask.projection
    some (route, density)

/-- `(priority, source_lobe, target_lobe)`; the keys of the enabled routes are distinct, so
the order they come in does not matter. -/
def routeOrder (row : RoutingMask × SparseDensityPrior) : ℕ ×ₗ ℕ ×ₗ ℕ :=
  toLex (row.1.priority.raw.toNat, toLex (row.1.sourceLobe.raw.toNat, row.1.targetLobe.raw.toNat))

/-! ## The N2048 foundation -/

/-- `u64::rotate_left`. -/
def rotateLeft (v : UInt64) (k : UInt64) : UInt64 := (v <<< k) ||| (v >>> (64 - k))

/-- The rows of one segment, behind those of the segments before it. -/
def compileSegment (fuel : ℕ) (source target : LobeRegion) (density : SparseDensityPrior)
    (policy : ActiveTilePolicy) (rows : List (ℕ × ℕ)) (segment : N2048CoordinateSegmentV1) :
    Compiling (List (ℕ × ℕ)) := do
  let segmentSource ←
    getOr (checkedAdd 32 source.start.toNat segment.sourceOffset) compileError
  let segmentTarget ←
    getOr (checkedAdd 32 target.start.toNat segment.targetOffset) compileError
  failIf (source.len.toNat < segment.sourceOffset + segment.sourceLen
    ∨ target.len.toNat < segment.targetOffset + segment.targetLen) compileError
  let placed ← orPanic (deterministicTilePairs fuel segmentSource segment.sourceLen segmentTarget
    segment.targetLen segment.synapseCount
    (0xF0A0DA7120480001 ^^^ segment.legacyRouteOrdinal.toUInt64
      ^^^ rotateLeft density.density.raw.bits.toUInt64 19) policy)
  .ok (rows ++ sortRows placed)

/-- A route of the N2048 path. -/
def compileN2048Route (genome : BrainGenome) (layout : LobeLayout) (capacity : BrainCapacityClass)
    (fuel : ℕ) (c : RecurrentCompilation) (row : N2048FoundationRouteSpec × ℕ) :
    Compiling RecurrentCompilation := do
  let (spec, index) := row
  let mask ← getOr (genome.macroConnectomeMasks.find? fun mask =>
    mask.projection = ⟨spec.sourceLobe, spec.targetLobe⟩) compileError
  let density ← getOr (genome.sparseDensityPriors.find? fun prior =>
    prior.projection = ⟨spec.sourceLobe, spec.targetLobe⟩) compileError
  failIf (mask.enabled = false ∨ mask.structuralGrowthAllowed = true) compileError
  let source ← getOr (layout.enabledRegion spec.sourceLobe) compileError
  let target ← getOr (layout.enabledRegion spec.targetLobe) compileError
  let possible := source.len.toNat * target.len.toNat
  failIf (density.density.raw.bits ≠ (F32.ofQuotient spec.synapseCount possible).bits
    ∨ density.maxActiveSynapseShare.raw.bits
      ≠ (F32.ofQuotient spec.synapseCount N2048FoundationLayoutV1.recurrentSynapseCount).bits)
    compileError
  failIf (2 ^ 16 ≤ index ∨ 2 ^ 32 ≤ c.synapses.length) compileError
  let activeTiles := max (tilesFor spec.synapseCount) 1
  let tileTotal ← getOr (checkedAdd 32 c.tileTotal activeTiles) compileError
  failIf (capacity.maxActiveTiles < tileTotal) compileError
  let segments ← getOr (N2048FoundationLayoutV1.coordinateSegments[index]?) compileError
  failIf ((segments.map (·.synapseCount)).sum ≠ spec.synapseCount) compileError
  let rows ← segments.foldlM
    (compileSegment fuel source target density spec.route.activeTilePolicy) []
  failIf (2 ^ 32 ≤ c.synapses.length + rows.length ∨ rows.length ≠ spec.synapseCount) compileError
  .ok (closeRoute c index spec.route activeTiles rows)

/-- `compile_n2048_foundation`. -/
def compileN2048Foundation (genome : BrainGenome) (layout : LobeLayout)
    (capacity : BrainCapacityClass) (fuel : ℕ) : Compiling RecurrentCompilation := do
  let specs := N2048FoundationLayoutV1.routeSpecs
  failIf (layout ≠ N2048FoundationLayoutV1.lobeLayout
    ∨ genome.macroConnectomeMasks.length ≠ specs.length
    ∨ genome.sparseDensityPriors.length ≠ specs.length
    ∨ capacity.maxRecurrentSynapses < N2048FoundationLayoutV1.recurrentSynapseCount) compileError
  let compiled ← specs.zipIdx.foldlM (compileN2048Route genome layout capacity fuel) ⟨[], [], [], 0⟩
  failIf (compiled.synapses.length ≠ N2048FoundationLayoutV1.recurrentSynapseCount) compileError
  .ok compiled

/-- `compile_recurrent`. -/
def compileRecurrent (genome : BrainGenome) (layout : LobeLayout) (capacity : BrainCapacityClass)
    (fuel : ℕ) : Compiling RecurrentCompilation := do
  validateRouteKeys genome
  validateAlphaKeys genome
  if capacity.id = .n2048 then compileN2048Foundation genome layout capacity fuel
  else do
    let enabled ← orPanic (enabledRoutes genome)
    (sortByKey routeOrder enabled).zipIdx.foldlM (compileRoute genome layout capacity fuel)
      ⟨[], [], [], 0⟩

end Topology

end ALife
