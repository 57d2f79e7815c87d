/-
# Runs of structural plasticity

A state that `new` built or the loader accepted goes through any sequence of
discoveries, structural phases and recorded supports, failing ones included.
Every call keeps the contract (`Valid.structuralStep`), a call that fails changes
nothing, the phase never fails and its receipt adds up, and the order of the
evidence does not matter (`structural_runs_keep_contract`).
-/

import ALife.Machine.Runs
import ALife.Plasticity.StructuralPhase

namespace ALife

open Machine

namespace StructuralPlasticityState

variable {s s' : StructuralPlasticityState}

/-! ### Support of an edge -/

/-- A supported row has the sources of the row, and its connections are old ones or one
with the support as score. -/
theorem supported_spec {source support : ℕ} {edges edges' : List SparseConnection}
    (h : supported source support edges = some edges') :
    edges'.map (·.source) = edges.map (·.source) ∧
      ∀ e ∈ edges', e ∈ edges ∨ ∃ old ∈ edges,
        e = { old with score := support, weight := scoreToWeight support } := by
  induction edges generalizing edges' with
  | nil => cases h
  | cons a edges ih =>
    unfold supported at h
    split_ifs at h with hsource
    · obtain rfl := Option.some.inj h
      refine ⟨rfl, fun e he => ?_⟩
      obtain rfl | he := List.mem_cons.1 he
      · exact Or.inr ⟨a, List.mem_cons_self .., rfl⟩
      · exact Or.inl (List.mem_cons_of_mem _ he)
    · obtain ⟨rest, hrest, rfl⟩ := Option.map_eq_some_iff.1 h
      obtain ⟨hsources, hmem⟩ := ih hrest
      refine ⟨by rw [List.map_cons, List.map_cons, hsources], fun e he => ?_⟩
      obtain rfl | he := List.mem_cons.1 he
      · exact Or.inl (List.mem_cons_self ..)
      · obtain he | ⟨old, hold, rfl⟩ := hmem e he
        · exact Or.inl (List.mem_cons_of_mem _ he)
        · exact Or.inr ⟨old, List.mem_cons_of_mem _ hold, rfl⟩

theorem targetOk_supported {n source support target : ℕ} {edges edges' : List SparseConnection}
    (h : TargetOk n (target, edges)) (hs : supported source support edges = some edges') :
    TargetOk n (target, edges') := by
  obtain ⟨hsources, hmem⟩ := supported_spec hs
  refine ⟨h.target_lt, fun hnil => h.nonempty ?_, fun e he => ?_, ?_⟩
  · have hlength := congrArg List.length hsources
    rw [List.length_map, List.length_map] at hlength
    change edges' = [] at hnil
    rw [hnil] at hlength
    exact List.length_eq_zero_iff.1 hlength.symm
  · obtain he | ⟨old, hold, rfl⟩ := hmem e he
    · exact h.edgeOk e he
    · have hok := h.edgeOk old hold
      exact ⟨hok.target_eq, hok.source_lt, hok.distinct, rfl⟩
  · have hord : (edges.map (·.source)).Pairwise (· < ·) := List.pairwise_map.2 h.ordered
    rw [← hsources] at hord
    exact List.pairwise_map.1 hord

/-- A call of `record_edge_support` either fails and changes nothing, or rewrites the
connections of the target. -/
theorem recordEdgeSupport_cases (source target support : ℕ) (s : StructuralPlasticityState) :
    (∃ e, recordEdgeSupport source target support s = .error e s) ∨
      ∃ edges edges', s.connections.get? target = some edges ∧
        supported source support edges = some edges' ∧
        recordEdgeSupport source target support s =
          .ok () { s with connections := s.connections.insert target edges' } := by
  unfold recordEdgeSupport
  rw [bind_apply, get_apply]
  simp only
  by_cases hrange : s.neuronCount ≤ source ∨ s.neuronCount ≤ target
  · refine Or.inl ⟨.nodeOutOfRange, ?_⟩
    rw [bind_apply, failIf, if_pos hrange, ofResult_error]
  · rw [bind_apply, failIf, if_neg hrange, ofResult_ok]
    simp only
    cases hfound : (s.connections.get? target).bind (supported source support) with
    | none => exact Or.inl ⟨.connectionNotFound, rfl⟩
    | some edges' =>
      obtain ⟨edges, hget, hsupported⟩ := Option.bind_eq_some_iff.1 hfound
      exact Or.inr ⟨edges, edges', hget, hsupported, rfl⟩

theorem Valid.supported (h : s.Valid) {source support target : ℕ}
    {edges edges' : List SparseConnection} (hget : s.connections.get? target = some edges)
    (hs : supported source support edges = some edges') :
    ({ s with connections := s.connections.insert target edges' }
      : StructuralPlasticityState).Valid := by
  have hold := h.targetOk _ (OrderedMap.get?_eq_some_iff.1 hget)
  refine ⟨h.neurons, h.config, h.regions, ?_, h.comparisons, h.regionOk, fun row hrow => ?_⟩
  · have htotal := OrderedMap.total_insert List.length (m := s.connections) (k := target)
      (v := edges')
    have hlength := congrArg List.length (supported_spec hs).1
    rw [List.length_map, List.length_map] at hlength
    rw [hget, Option.map_some, Option.getD_some] at htotal
    have hle := h.edges
    change (s.connections.insert target edges').total List.length ≤ s.config.maxStructuralEdges
    change s.connections.total List.length ≤ s.config.maxStructuralEdges at hle
    omega
  · obtain rfl | ⟨-, hrow⟩ := OrderedMap.mem_insert.1 hrow
    · exact targetOk_supported hold hs
    · exact h.targetOk row hrow

/-! ### Calls -/

/-- The calls that change a state. -/
inductive StructuralCall where
  | discoverCandidates (evidence : List CoactivationEvidence)
  | applyStructuralPhase
  | recordEdgeSupport (source target support : ℕ)

/-- The call returns `Ok`. -/
def StructuralCall.succeeds (s : StructuralPlasticityState) : StructuralCall → Bool
  | .discoverCandidates evidence => isOk (StructuralPlasticityState.discoverCandidates evidence s)
  | .applyStructuralPhase => isOk (StructuralPlasticityState.applyStructuralPhase s)
  | .recordEdgeSupport source target support =>
    isOk (StructuralPlasticityState.recordEdgeSupport source target support s)

/-- The state after a call, whatever it returned. -/
def structuralStep (s : StructuralPlasticityState) : StructuralCall → StructuralPlasticityState
  | .discoverCandidates evidence =>
    stateAfter (StructuralPlasticityState.discoverCandidates evidence s)
  | .applyStructuralPhase => stateAfter (StructuralPlasticityState.applyStructuralPhase s)
  | .recordEdgeSupport source target support =>
    stateAfter (StructuralPlasticityState.recordEdgeSupport source target support s)

theorem Valid.structuralStep (h : s.Valid) (call : StructuralCall) :
    (s.structuralStep call).Valid := by
  cases call with
  | discoverCandidates evidence =>
    obtain ⟨ha, hrun⟩ | ⟨-, e, hrun⟩ := discoverCandidates_apply evidence s
    · rw [StructuralPlasticityState.structuralStep, hrun]
      exact h.discovered ha
    · rw [StructuralPlasticityState.structuralStep, hrun]
      exact h
  | applyStructuralPhase =>
    obtain ⟨grown, hgrown, -, hrun⟩ := h.applyStructuralPhase
    rw [StructuralPlasticityState.structuralStep, hrun]
    exact hgrown.valid.settled
  | recordEdgeSupport source target support =>
    obtain ⟨e, hrun⟩ | ⟨edges, edges', hget, hs, hrun⟩ :=
      recordEdgeSupport_cases source target support s
    · rw [StructuralPlasticityState.structuralStep, hrun]
      exact h
    · rw [StructuralPlasticityState.structuralStep, hrun]
      exact h.supported hget hs

/-- The state came from `new` or from the loader. -/
def Obtained (s : StructuralPlasticityState) : Prop :=
  (∃ neuronCount config, new neuronCount config = .ok s) ∨ ∃ wire, deserialize wire = .ok s

theorem Obtained.valid (h : s.Obtained) : s.Valid := by
  obtain ⟨n, config, hnew⟩ | ⟨wire, hload⟩ := h
  · exact valid_of_new hnew
  · exact valid_of_deserialize hload

/-- The phase returns `Ok`; the counters of its receipt are the numbers counted, none of
them cut by its cast, and they add up. -/
def PhaseAddsUp (s : StructuralPlasticityState) : Prop :=
  ∃ accepted grown receipt s',
    acceptCandidates s.orderedCandidates 0 s = .ok accepted grown ∧
    applyStructuralPhase s = .ok receipt s' ∧
    receipt.acceptedEdges = accepted ∧
    receipt.prunedEdges = grown.pruneWeakConnections.2 ∧
    receipt.activeEdges = s'.connectionCount ∧
    receipt.candidatesKept = s'.candidateCount ∧
    receipt.activeEdges + receipt.prunedEdges = s.connectionCount + receipt.acceptedEdges

theorem Valid.phaseAddsUp (h : s.Valid) : s.PhaseAddsUp := by
  obtain ⟨grown, hgrown, hloop, hrun⟩ := h.applyStructuralPhase
  refine ⟨_, grown, _, _, hloop, hrun, ?_⟩
  have hcount := grown.pruneWeakConnections_count
  have hsettled : grown.settled.connectionCount = grown.pruneWeakConnections.1.connectionCount :=
    rfl
  have hpromoted := hgrown.count
  have hedges := hgrown.valid.edges
  have hmax := hgrown.valid.config.edges_le
  have hkept := hgrown.valid.settled.candidateCount_le
  unfold maxStructuralEdges at hmax
  unfold maxRegionsPerState maxCandidatesPerRegion at hkept
  simp only [phaseReceipt]
  rw [Nat.mod_eq_of_lt (show s.promoted.length < 2 ^ 16 by omega),
    Nat.mod_eq_of_lt (show grown.pruneWeakConnections.2 < 2 ^ 16 by omega),
    Nat.mod_eq_of_lt (show grown.settled.connectionCount < 2 ^ 16 by omega),
    Nat.mod_eq_of_lt (show grown.settled.candidateCount < 2 ^ 16 by omega)]
  exact ⟨rfl, rfl, rfl, rfl, by omega⟩

/-- What is promised of a call. -/
structure StructuralPromise (s : StructuralPlasticityState) (call : StructuralCall) : Prop where
  contract : (s.structuralStep call).validateContract = .ok ()
  loads : deserialize (s.structuralStep call).serialize = .ok (s.structuralStep call)
  unchanged : call.succeeds s = false → s.structuralStep call = s
  phase : s.PhaseAddsUp
  anyOrder : ∀ evidence evidence', evidence.Perm evidence' →
    discoverCandidates evidence s = discoverCandidates evidence' s

theorem unchanged_of_fails {call : StructuralCall} (h : s.Valid)
    (hfail : call.succeeds s = false) : s.structuralStep call = s := by
  cases call with
  | discoverCandidates evidence =>
    obtain ⟨-, hrun⟩ | ⟨-, e, hrun⟩ := discoverCandidates_apply evidence s
    · rw [StructuralCall.succeeds, hrun] at hfail
      cases hfail
    · rw [structuralStep, hrun]
      rfl
  | applyStructuralPhase =>
    obtain ⟨grown, -, -, hrun⟩ := h.applyStructuralPhase
    rw [StructuralCall.succeeds, hrun] at hfail
    cases hfail
  | recordEdgeSupport source target support =>
    obtain ⟨e, hrun⟩ | ⟨edges, edges', -, -, hrun⟩ :=
      recordEdgeSupport_cases source target support s
    · rw [structuralStep, hrun]
      rfl
    · rw [StructuralCall.succeeds, hrun] at hfail
      cases hfail

/-- **Every run keeps the contract.** -/
theorem structural_runs_keep_contract (h : s.Obtained) (calls : List StructuralCall) :
    Along structuralStep StructuralPromise s calls := by
  refine Along.of_invariant (I := Valid) (C := fun _ _ => True) (fun s call hs _ => ?_) h.valid
    (along_iff_forall_split.2 fun _ _ _ _ => trivial)
  have hnext := hs.structuralStep call
  exact ⟨hnext, validateContract_eq_ok_iff.2 hnext, deserialize_serialize_iff.2 hnext,
    unchanged_of_fails hs, hs.phaseAddsUp, fun _ _ hperm => discoverCandidates_of_perm hperm s⟩

/-- The config of `for_phenotype` for an edit budget of one. -/
def sampleConfig : StructuralPlasticityConfig := ⟨8, 1, 1, 4, 2, 1⟩

/-- Two pieces of evidence in one region, about two pairs. -/
def sampleEvidence : List CoactivationEvidence := [⟨0, 1, 2, 9, 0, 0⟩, ⟨0, 3, 4, 7, 0, 0⟩]

/-- A state, a discovery, two phases and a support of the edge that came first. -/
theorem structural_runs_keep_sample :
    Obtained ⟨8, sampleConfig, ∅, ∅, 0⟩ ∧
      Along structuralStep StructuralPromise ⟨8, sampleConfig, ∅, ∅, 0⟩
        [.discoverCandidates sampleEvidence, .applyStructuralPhase, .applyStructuralPhase,
          .recordEdgeSupport 1 2 5] :=
  have h : Obtained ⟨8, sampleConfig, ∅, ∅, 0⟩ := Or.inl ⟨8, sampleConfig, rfl⟩
  ⟨h, structural_runs_keep_contract h _⟩

end StructuralPlasticityState

end ALife
