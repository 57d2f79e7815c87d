/-
# Lobes, projections and synapses of a compiled phenotype

`LobeKind` and `LobeLayout` (`crates/alife_core/src/lobe.rs`), `CompiledSynapse`
and `CompiledProjection` (`crates/alife_core/src/phenotype/compiled.rs`), as far
as a packing is concerned: a region is an interval of packed neuron indices, a
projection an interval of packed synapse indices.  The policies of a region and
the schedule of a projection are left out.
-/

import ALife.Core.Perception
import ALife.Machine.Binary32

namespace ALife

open Machine

inductive LobeKind where
  | perceptualIntegration | interoceptiveMotivational | multimodalAssociation | temporalPredictive
  | workingContextExecutive | memoryInterface | actionPlanning | socialCommunication
  | flexibleReserve
  deriving DecidableEq, Repr

/-- `LobeKind::raw`. -/
def LobeKind.raw : LobeKind → UInt16
  | .perceptualIntegration => 1
  | .interoceptiveMotivational => 2
  | .multimodalAssociation => 3
  | .temporalPredictive => 4
  | .workingContextExecutive => 5
  | .memoryInterface => 6
  | .actionPlanning => 7
  | .socialCommunication => 8
  | .flexibleReserve => 9

theorem LobeKind.raw_injective : Function.Injective LobeKind.raw := by
  intro a b
  cases a <;> cases b <;> decide

structure LobeRegion where
  kind : LobeKind
  start : UInt32
  len : UInt32
  enabled : Bool
  deriving DecidableEq, Repr

namespace LobeRegion

/-- `LobeRegion::end`. -/
def finish (r : LobeRegion) : UInt32 := r.start + r.len

/-- `LobeRegion::contains_neuron`. -/
def containsNeuron (r : LobeRegion) (neuronIndex : UInt32) : Bool :=
  r.enabled && (decide (r.start ≤ neuronIndex) && decide (neuronIndex < r.finish))

end LobeRegion

structure LobeLayout where
  regions : List LobeRegion
  deriving DecidableEq, Repr

namespace LobeLayout

/-- `LobeLayout::enabled_regions`. -/
def enabledRegions (layout : LobeLayout) : List LobeRegion := layout.regions.filter (·.enabled)

/-- `LobeLayout::lobe_by_neuron_index`. -/
def lobeByNeuronIndex (layout : LobeLayout) (neuronIndex : UInt32) : Option LobeRegion :=
  layout.enabledRegions.find? (·.containsNeuron neuronIndex)

end LobeLayout

inductive DecoderHeadKind where
  | actionCandidate | memoryContext | speechPayload | cognitiveContext
  deriving DecidableEq, Repr

/-- `DecoderHeadKind::raw`. -/
def DecoderHeadKind.raw : DecoderHeadKind → UInt32
  | .actionCandidate => 1
  | .memoryContext => 2
  | .speechPayload => 3
  | .cognitiveContext => 4

theorem DecoderHeadKind.raw_injective : Function.Injective DecoderHeadKind.raw := by
  intro a b
  cases a <;> cases b <;> decide

@[ext]
structure DecoderSynapseCoordinate where
  head : DecoderHeadKind
  family : CandidateActionFamily
  inputLane : UInt16
  motorIndex : UInt16
  deriving DecidableEq, Repr

inductive CompiledSynapseKind where
  | recurrent
  | decoder (coordinate : DecoderSynapseCoordinate)
  deriving DecidableEq, Repr

structure CompiledSynapse where
  source : UInt32
  target : UInt32
  geneticWeight : F32
  alpha : F32
  routeIndex : UInt16
  receptorIndex : UInt16
  kind : CompiledSynapseKind
  deriving DecidableEq, Repr

structure CompiledProjection where
  sourceLobe : LobeKind
  targetLobe : LobeKind
  synapseStart : UInt32
  synapseLen : UInt32
  deriving DecidableEq, Repr

end ALife
