/-
# Routes between lobes

The routing vocabulary (`crates/alife_core/src/routing.rs`), the canonical route
of a pair of lobes
(`crates/alife_core/src/phenotype/topology_compile.rs`) and the constants of the
N2048 foundation (`crates/alife_core/src/foundation.rs`): its fifteen routes, the
segments their synapses are spread over, and its lobe layout.  Update cadences
and section policies are left out: nothing here reads them.
-/

import ALife.Phenotype.Compiled
import ALife.Phenotype.TilePairs

namespace ALife

inductive ProjectionType where
  | feedForward | feedback | recurrent | modulatory | motorProposal | homeostatic
  | lateralInhibition
  deriving DecidableEq, Repr

inductive BiologicalPriority where
  | essential | high | normal | nonEssential
  deriving DecidableEq, Repr

/-- `BiologicalPriority::raw`. -/
def BiologicalPriority.raw : BiologicalPriority → UInt8
  | .essential => 0
  | .high => 1
  | .normal => 2
  | .nonEssential => 3

structure ProjectionKey where
  sourceLobe : LobeKind
  targetLobe : LobeKind
  deriving DecidableEq, Repr

structure RoutingMask where
  sourceLobe : LobeKind
  targetLobe : LobeKind
  projectionType : ProjectionType
  activeTilePolicy : ActiveTilePolicy
  priority : BiologicalPriority
  deriving DecidableEq, Repr

/-- `LobeLayout::region`. -/
def LobeLayout.region (layout : LobeLayout) (kind : LobeKind) : Option LobeRegion :=
  layout.regions.find? fun region => region.kind = kind

/-- `layout.region(kind).filter(|region| region.enabled)`. -/
def LobeLayout.enabledRegion (layout : LobeLayout) (kind : LobeKind) : Option LobeRegion :=
  (layout.region kind).filter (·.enabled)

structure N2048FoundationRouteSpec where
  sourceLobe : LobeKind
  targetLobe : LobeKind
  synapseCount : ℕ
  projectionType : ProjectionType
  priority : BiologicalPriority
  deriving DecidableEq, Repr

/-- The route of a specification; all of them reserve essential tiles. -/
def N2048FoundationRouteSpec.route (spec : N2048FoundationRouteSpec) : RoutingMask :=
  ⟨spec.sourceLobe, spec.targetLobe, spec.projectionType, .essentialReservation, spec.priority⟩

structure N2048CoordinateSegmentV1 where
  sourceOffset : ℕ
  sourceLen : ℕ
  targetOffset : ℕ
  targetLen : ℕ
  synapseCount : ℕ
  legacyRouteOrdinal : UInt16
  deriving DecidableEq, Repr

namespace N2048FoundationLayoutV1

def recurrentSynapseCount : ℕ := 24576

/-- `N2048_ROUTES`. -/
def routeSpecs : List N2048FoundationRouteSpec :=
  [⟨.perceptualIntegration, .temporalPredictive, 3584, .feedForward, .essential⟩,
    ⟨.socialCommunication, .temporalPredictive, 3072, .feedForward, .high⟩,
    ⟨.interoceptiveMotivational, .flexibleReserve, 1024, .homeostatic, .essential⟩,
    ⟨.flexibleReserve, .temporalPredictive, 1024, .modulatory, .essential⟩,
    ⟨.flexibleReserve, .actionPlanning, 768, .homeostatic, .essential⟩,
    ⟨.temporalPredictive, .actionPlanning, 3072, .motorProposal, .essential⟩,
    ⟨.actionPlanning, .actionPlanning, 1536, .lateralInhibition, .essential⟩,
    ⟨.temporalPredictive, .workingContextExecutive, 1536, .feedForward, .high⟩,
    ⟨.workingContextExecutive, .temporalPredictive, 1536, .feedback, .high⟩,
    ⟨.temporalPredictive, .memoryInterface, 1536, .feedForward, .normal⟩,
    ⟨.memoryInterface, .temporalPredictive, 1536, .feedback, .normal⟩,
    ⟨.temporalPredictive, .multimodalAssociation, 1536, .feedForward, .normal⟩,
    ⟨.multimodalAssociation, .temporalPredictive, 1536, .feedback, .normal⟩,
    ⟨.multimodalAssociation, .workingContextExecutive, 768, .feedForward, .high⟩,
    ⟨.workingContextExecutive, .multimodalAssociation, 512, .feedback, .high⟩]

/-- `N2048_COORDINATE_SEGMENTS`. -/
def coordinateSegments : List (List N2048CoordinateSegmentV1) :=
  [[⟨0, 256, 0, 448, 3584, 0⟩],
    [⟨0, 128, 0, 448, 1536, 1⟩, ⟨128, 128, 0, 448, 1536, 2⟩],
    [⟨0, 128, 0, 96, 1024, 3⟩],
    [⟨0, 96, 0, 448, 1024, 4⟩],
    [⟨0, 96, 0, 224, 768, 5⟩],
    [⟨0, 448, 0, 224, 3072, 6⟩],
    [⟨0, 224, 0, 224, 1536, 7⟩],
    [⟨0, 448, 0, 128, 1536, 8⟩],
    [⟨0, 128, 0, 448, 1536, 9⟩],
    [⟨0, 448, 0, 256, 1536, 10⟩],
    [⟨0, 256, 0, 448, 1536, 11⟩],
    [⟨0, 448, 0, 256, 1536, 12⟩],
    [⟨0, 256, 0, 448, 1536, 13⟩],
    [⟨0, 256, 0, 128, 768, 14⟩],
    [⟨0, 128, 0, 256, 512, 15⟩]]

def lobeLayout : LobeLayout :=
  ⟨[⟨.perceptualIntegration, 0, 256, true⟩, ⟨.interoceptiveMotivational, 256, 128, true⟩,
    ⟨.socialCommunication, 384, 256, true⟩, ⟨.multimodalAssociation, 640, 256, true⟩,
    ⟨.temporalPredictive, 896, 448, true⟩, ⟨.memoryInterface, 1344, 256, true⟩,
    ⟨.workingContextExecutive, 1600, 128, true⟩, ⟨.actionPlanning, 1728, 224, true⟩,
    ⟨.flexibleReserve, 1952, 96, true⟩]⟩

end N2048FoundationLayoutV1

/-- `canonical_route`. -/
def canonicalRoute (key : ProjectionKey) : Option RoutingMask :=
  match N2048FoundationLayoutV1.routeSpecs.find? fun spec =>
      spec.sourceLobe = key.sourceLobe ∧ spec.targetLobe = key.targetLobe with
  | some spec => some spec.route
  | none =>
    match key.sourceLobe, key.targetLobe with
    | .perceptualIntegration, .temporalPredictive =>
      some ⟨key.sourceLobe, key.targetLobe, .feedForward, .essentialReservation, .essential⟩
    | .temporalPredictive, .actionPlanning =>
      some ⟨key.sourceLobe, key.targetLobe, .motorProposal, .essentialReservation, .essential⟩
    | .interoceptiveMotivational, .flexibleReserve =>
      some ⟨key.sourceLobe, key.targetLobe, .homeostatic, .essentialReservation, .essential⟩
    | .actionPlanning, .actionPlanning =>
      some ⟨key.sourceLobe, key.targetLobe, .lateralInhibition, .essentialReservation, .essential⟩
    | _, _ => none

end ALife
