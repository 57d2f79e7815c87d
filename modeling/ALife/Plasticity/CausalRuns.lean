/-
# Runs of the causal state

A state that `new` or `for_phenotype` built goes through structural phases, new
dendritic branches and restores of its own checkpoint; a pending synapse is
cleared after the phase that reported it.  Whatever happens the state stays well
formed (`Formed.causalStep`), so that its checkpoint restores to it.  The spans
list the stored connections, and a phase that accepts reports a new edge, along
a run exactly when every edge that its phases promote and keep is named by the
evidence of that phase, and each phase that promotes keeps one of its edges
(`causal_runs_keep_iff`): a candidate left over from an earlier phase is stored
without being listed.
-/

import ALife.Plasticity.SparseSpans
import ALife.Plasticity.StructuralRuns

namespace ALife

open Machine

namespace GpuV11CausalState

variable {s s' : GpuV11CausalState} {evidence : List CoactivationEvidence}

/-! ### What every state satisfies -/

/-- A pending synapse that names an edge of the spans. -/
def PendingOk (s : GpuV11CausalState) (pending : AddLifetimeSynapse) : Prop :=
  pending.evidence.source = pending.source ∧ pending.evidence.target = pending.target ∧
    pending.route = pending.evidence.region ∧
    ∃ span ∈ s.sparseSpans, span.target = pending.target ∧ ∃ edge ∈ span.edges,
      edge.source = pending.source ∧ edge.target = pending.target ∧
        edge.weight = pending.initialWeight

/-- The state is well formed: its parts are valid, and its spans list stored connections
only. -/
structure Formed (s : GpuV11CausalState) : Prop where
  neurons : s.neuronCount ≠ 0
  branches : validateDendriticBranches s.neuronCount s.dendriticBranches = .ok ()
  structural : s.structural.Valid
  sameNeurons : s.structural.neuronCount = s.neuronCount
  scores : ∀ e ∈ s.structural.edges, 0 < e.score
  spans : ∀ span ∈ s.sparseSpans, span.edges ≠ [] ∧ ∀ edge ∈ span.edges,
    edge.target = span.target ∧ edge.route ≤ 65535 ∧
      ∃ e ∈ s.structural.edges, edge.pair = e.pair ∧ edge.weight = e.weight
  pending : ∀ pending, s.pendingLifetimeSynapse = some pending → s.PendingOk pending
  noDendriticWork : s.lastWork.dendritic.workUnits = 0

theorem Formed.under (h : s.Formed) :
    ∀ span ∈ s.sparseSpans, ∀ edge ∈ span.edges, edge.target = span.target :=
  fun span hspan edge hedge => ((h.spans span hspan).2 edge hedge).1

/-- The weight of a stored connection is that of its score. -/
theorem Formed.edgeOk (h : s.Formed) {e : SparseConnection} (he : e ∈ s.structural.edges) :
    EdgeOk s.neuronCount e.target e ∧ e.target < s.neuronCount := by
  obtain ⟨row, hrow, her⟩ := h.structural.mem_edges_iff.1 he
  have hok := h.structural.targetOk _ hrow
  rw [h.sameNeurons] at hok
  exact ⟨hok.edgeOk e her, hok.target_lt⟩

/-- No stored connection of a positive score weighs zero. -/
theorem feq_zero_of_score {score : ℕ} (h : 0 < score) :
    (scoreToWeight score).feq F32.zero = false := by
  obtain ⟨-, -, hkey⟩ := scoreToWeight_spec score
  have hzero : F32.zero.key = 0 := by decide
  have := hkey h
  simp only [F32.feq, hzero, Bool.and_eq_false_iff, decide_eq_false_iff_not]
  exact Or.inr (by omega)

theorem Formed.weight (h : s.Formed) {e : SparseConnection} (he : e ∈ s.structural.edges) :
    e.weight.isFinite = true ∧ e.weight.isNan = false ∧ e.weight.feq F32.zero = false := by
  obtain ⟨hfinite, hnan, -⟩ := scoreToWeight_spec e.score
  rw [(h.edgeOk he).1.weight_eq]
  exact ⟨hfinite, hnan, feq_zero_of_score (h.scores e he)⟩

/-- **A checkpoint of a well formed state restores to it.** -/
theorem Formed.restore (h : s.Formed) : restore s.checkpoint = .ok s := by
  have hspans : ¬∃ span ∈ s.sparseSpans, s.neuronCount ≤ span.target ∨ ∃ edge ∈ span.edges,
      s.neuronCount ≤ edge.source ∨ edge.target ≠ span.target ∨ 65535 < edge.route
        ∨ edge.weight.isFinite = false := by
    rintro ⟨span, hspan, hbad⟩
    obtain ⟨hne, hedges⟩ := h.spans span hspan
    obtain hbad | ⟨edge, hedge, hbad⟩ := hbad
    · obtain ⟨edge, hedge⟩ := List.exists_mem_of_ne_nil _ hne
      obtain ⟨htarget, -, e, he, hpair, -⟩ := hedges edge hedge
      have hlt := (h.edgeOk he).2
      rw [← (Prod.mk.inj hpair).2, htarget] at hlt
      exact absurd hlt (not_lt.2 hbad)
    · obtain ⟨htarget, hroute, e, he, hpair, hweight⟩ := hedges edge hedge
      have hlt := (h.edgeOk he).1.source_lt
      rw [← (Prod.mk.inj hpair).1] at hlt
      rw [hweight, (h.weight he).1] at hbad
      obtain hbad | hbad | hbad | hbad := hbad
      · exact absurd hlt (not_lt.2 hbad)
      · exact hbad htarget
      · exact absurd hroute (not_le.2 hbad)
      · cases hbad
  have hpending : ∀ pending, s.pendingLifetimeSynapse = some pending →
      ¬s.PendingRefused pending := by
    intro pending hp hrefused
    obtain ⟨hsource, htarget, hroute, span, hspan, hst, edge, hedge, hes, het, hew⟩ :=
      h.pending pending hp
    obtain ⟨-, -, e, he, hpair, hweight⟩ := (h.spans span hspan).2 edge hedge
    obtain ⟨hps, hpt⟩ := Prod.mk.inj hpair
    have hslt := (h.edgeOk he).1.source_lt
    have htlt := (h.edgeOk he).2
    obtain ⟨hfinite, hnan, -⟩ := h.weight he
    have hself : edge.weight.feq pending.initialWeight = true := by
      rw [← hew, hweight]
      simp [F32.feq, hnan]
    obtain hbad | hbad | hbad | hbad | hbad | hbad | hbad := hrefused
    · omega
    · omega
    · rw [← hew, hweight, hfinite] at hbad
      cases hbad
    · exact hbad hsource
    · exact hbad htarget
    · exact hbad hroute
    · exact hbad ⟨span, hspan, hst, edge, hedge, hes, het, hself⟩
  unfold GpuV11CausalState.restore
  simp only [checkpoint, except_seq_eq_ok_iff, failIf_eq_ok_iff, h.branches, hspans, h.neurons,
    ne_eq, not_true, or_self, not_false_iff, true_and]
  have hself : ∀ p, s.pendingLifetimeSynapse = p → (⟨s.neuronCount, s.dendriticBranches,
      s.structural, s.sparseSpans, p, s.lastWork⟩ : GpuV11CausalState) = s := by
    rintro p rfl
    rfl
  cases hp : s.pendingLifetimeSynapse with
  | none => exact congrArg Except.ok (hself none hp)
  | some pending =>
    simp only [hself (some pending) hp]
    exact except_seq_eq_ok_iff.2 ⟨if_neg (hpending pending hp), rfl⟩

/-- A new state is empty. -/
theorem new_cases {n : ℕ} {branches : DendriticBranchSet} {config : StructuralPlasticityConfig}
    (h : new n branches config = .ok s) :
    n ≠ 0 ∧ validateDendriticBranches n branches = .ok () ∧
      StructuralPlasticityState.Valid ⟨n, config, ∅, ∅, 0⟩ ∧
      s = ⟨n, branches, ⟨n, config, ∅, ∅, 0⟩, [], none, GpuV11WorkReceipt.default⟩ := by
  simp only [new, except_bind_eq_ok_iff, failIf_eq_ok_iff, Except.ok.injEq] at h
  obtain ⟨_, hn, _, hbranches, structural, hstructural, rfl⟩ := h
  cases hs : StructuralPlasticityState.new n config with
  | ok t =>
    rw [hs] at hstructural
    obtain rfl : t = structural := Except.ok.inj hstructural
    have hvalid := StructuralPlasticityState.valid_of_new hs
    simp only [StructuralPlasticityState.new, except_seq_eq_ok_iff, Except.ok.injEq] at hs
    obtain ⟨-, -, rfl⟩ := hs
    exact ⟨hn, hbranches, hvalid, rfl⟩
  | error e =>
    rw [hs] at hstructural
    cases hstructural

/-! ### The structural phase -/

/-- A checked sum that fits is the sum. -/
theorem foldlM_checkedSum {l : List ℕ} {t : ℕ} (h : t + l.sum < 2 ^ 64) :
    l.foldlM (fun total value => do
      failIf (2 ^ 64 ≤ total + value) ScaffoldContractError.scalarOutOfRange
      .ok (total + value)) t = .ok (t + l.sum) := by
  induction l generalizing t with
  | nil => rfl
  | cons a l ih =>
    rw [List.sum_cons] at h
    have hfits : ¬2 ^ 64 ≤ t + a := by omega
    rw [List.foldlM_cons, failIf, if_neg hfits, List.sum_cons, ← Nat.add_assoc]
    exact ih (by omega)

/-- The work of a phase is within the bounds of a cognitive receipt. -/
theorem makeCognitiveReceipt_ok (work : GpuV11WorkReceipt)
    (hdendritic : work.dendritic.workUnits = 0)
    (hunits : work.structural.candidateComparisons + work.structural.candidatesKept
      + work.structural.acceptedEdges + work.structural.prunedEdges + work.structural.activeEdges
      ≤ maxCognitiveWorkCounter) : ∃ c, work.makeCognitiveReceipt = .ok c := by
  obtain ⟨units, hdef⟩ : ∃ units, units = work.structural.candidateComparisons
    + work.structural.candidatesKept + work.structural.acceptedEdges
    + work.structural.prunedEdges + work.structural.activeEdges := ⟨_, rfl⟩
  rw [← hdef] at hunits
  let counters : CognitiveWorkCounters := ⟨0, 0, 0, 0, 0, 0, 0, 0, 0, units, 0, 0⟩
  have hbounds : ¬∃ value ∈ counters.values, maxCognitiveWorkCounter < value := by
    simpa [counters, CognitiveWorkCounters.values] using hunits
  have hsum : counters.values.sum = units := by
    simp [counters, CognitiveWorkCounters.values]
  unfold maxCognitiveWorkCounter at hunits
  have htotal : counters.recomputeTotal = .ok (0 + counters.values.sum) :=
    foldlM_checkedSum (by omega)
  have hcut : ¬2 ^ 32 ≤ units := by omega
  refine ⟨⟨1, counters, 0 + counters.values.sum, 1⟩, ?_⟩
  unfold GpuV11WorkReceipt.makeCognitiveReceipt makeCognitiveReceiptFor
    CognitiveWorkReceipt.aggregate CognitiveWorkCounters.validateCounterBounds
  simp only [← hdef, hdendritic]
  simp only [except_bind_eq_ok_iff, failIf_eq_ok_iff]
  exact ⟨(), hcut, (), hbounds, (), hbounds, _, htotal, rfl⟩

/-- What a phase that went through leaves, given what its loop left. -/
structure PhaseResult (s : GpuV11CausalState) (evidence : List CoactivationEvidence)
    (grown : StructuralPlasticityState) (s' : GpuV11CausalState) : Prop where
  grows : StructuralPlasticityState.Grown (s.structural.discovered evidence) grown
    (s.structural.discovered evidence).promoted
  structural : s'.structural = grown.settled
  neuronCount : s'.neuronCount = s.neuronCount
  branches : s'.dendriticBranches = s.dendriticBranches
  spans : s'.sparseSpans = rebuiltSpans (indexedPairs s.sparseSpans evidence) grown.settled
  pending : s'.pendingLifetimeSynapse =
    if 0 < (s.structural.discovered evidence).promoted.length then
      evidence.findSome? (acceptedSynapse s.sparseSpans s'.sparseSpans)
    else none
  dendritic : s'.lastWork.dendritic = s.lastWork.dendritic
  accepted : s'.lastWork.structural.acceptedEdges =
    (s.structural.discovered evidence).promoted.length

/-- A phase goes through when the structural state admits the evidence, and else changes
nothing. -/
theorem applyStructuralPhase_cases (h : s.Formed) (hpending : s.pendingLifetimeSynapse = none)
    (evidence : List CoactivationEvidence) :
    (¬s.structural.Admits evidence ∧ ∃ e, applyStructuralPhase evidence s = .error e s) ∨
      s.structural.Admits evidence ∧ ∃ grown work s',
        applyStructuralPhase evidence s = .ok work s' ∧ s.PhaseResult evidence grown s' := by
  unfold applyStructuralPhase
  rw [bind_apply, get_apply]
  simp only [hpending, Option.isSome_none, Bool.false_eq_true, false_or]
  by_cases hrange : ∃ item ∈ evidence, s.neuronCount ≤ item.source ∨ s.neuronCount ≤ item.target
  · refine Or.inl ⟨fun ha => ?_, .invalidSparseProjectionSchema, ?_⟩
    · obtain ⟨item, hitem, hout⟩ := hrange
      have hin := ha.inRange item hitem
      rw [h.sameNeurons] at hin
      omega
    · rw [bind_apply, failIf, if_pos hrange, ofResult_error]
  rw [bind_apply, failIf, if_neg hrange, ofResult_ok]
  simp only
  obtain ⟨ha, hrun⟩ | ⟨hna, e, hrun⟩ :=
    StructuralPlasticityState.discoverCandidates_apply evidence s.structural
  · have hdiscovered := h.structural.discovered ha
    obtain ⟨grown, hgrown, -, hphase⟩ := hdiscovered.applyStructuralPhase
    have hmax := hgrown.valid.config.edges_le
    have hedges := hgrown.valid.edges
    have hcount := hgrown.count
    have hcut : (s.structural.discovered evidence).promoted.length % 2 ^ 16 =
        (s.structural.discovered evidence).promoted.length := by
      unfold maxStructuralEdges at hmax
      exact Nat.mod_eq_of_lt (by omega)
    have hcomparisons := hdiscovered.comparisons
    unfold maxEvidencePerPhase maxCandidatesPerRegion at hcomparisons
    have hmod (n : ℕ) : n % 2 ^ 16 < 2 ^ 16 := Nat.mod_lt _ (by decide)
    have hkept := hmod grown.settled.candidateCount
    have haccepted := hmod (s.structural.discovered evidence).promoted.length
    have hpruned := hmod grown.pruneWeakConnections.2
    have hactive := hmod grown.settled.connectionCount
    rw [bind_apply, hrun, onCopy, ofResult_ok]
    simp only
    rw [bind_apply, hphase, onCopy, ofResult_ok]
    simp only
    obtain ⟨cognitive, hcognitive⟩ := makeCognitiveReceipt_ok
      { s.lastWork with structural := (s.structural.discovered evidence).phaseReceipt grown }
      h.noDendriticWork (by
        unfold maxCognitiveWorkCounter
        simp only [StructuralPlasticityState.phaseReceipt]
        omega)
    rw [bind_apply, hcognitive, ofResult_ok]
    refine Or.inr ⟨ha, grown, _, _, rfl, hgrown, rfl, rfl, rfl, rfl, ?_, rfl, hcut⟩
    simp only [StructuralPlasticityState.phaseReceipt, hcut]
  · refine Or.inl ⟨hna, .invalidSparseProjectionSchema, ?_⟩
    rw [bind_apply, hrun, onCopy, ofResult_error]

/-- The connections after a phase: those before that are kept, and the promotions that
are. -/
theorem PhaseResult.mem_edges {grown : StructuralPlasticityState}
    (hr : s.PhaseResult evidence grown s') {e : SparseConnection} :
    e ∈ s'.structural.edges ↔ (e ∈ s.structural.edges ∨
      ∃ c ∈ (s.structural.discovered evidence).promoted,
        StructuralPlasticityState.connectionOf c = e) ∧
      s.structural.config.pruneScoreBelow ≤ e.score := by
  have hmem := StructuralPlasticityState.mem_edges_pruned (s := grown) (e := e)
  rw [hr.grows.edges, List.mem_map, hr.grows.config] at hmem
  rw [hr.structural]
  exact hmem

theorem PhaseResult.formed (h : s.Formed) (ha : s.structural.Admits evidence)
    {grown : StructuralPlasticityState} (hr : s.PhaseResult evidence grown s') : s'.Formed := by
  have hsame : s'.structural.neuronCount = s.structural.neuronCount := by
    rw [hr.structural]
    exact hr.grows.neuronCount
  have hspans : ∀ span ∈ s'.sparseSpans, span.edges ≠ [] ∧ ∀ edge ∈ span.edges,
      edge.target = span.target ∧ edge.route ≤ 65535 ∧
        ∃ e ∈ s'.structural.edges, edge.pair = e.pair ∧ edge.weight = e.weight := by
    intro span hspan
    rw [hr.spans] at hspan
    refine ⟨(mem_rebuiltSpans.1 hspan).1, fun edge hedge => ?_⟩
    have hlisted : edge ∈ listedEdges (rebuiltSpans (indexedPairs s.sparseSpans evidence)
        grown.settled) := List.mem_flatMap.2 ⟨span, hspan, hedge⟩
    obtain ⟨e, he, hsparse⟩ := mem_listed_rebuilt.1 hlisted
    obtain ⟨hroute, -, hs, ht, hw⟩ := sparseEdge_eq_some_iff.1 hsparse
    refine ⟨target_of_mem_rebuilt hspan hedge, ?_, e, by rw [hr.structural]; exact he,
      Prod.ext hs ht, hw⟩
    obtain ⟨old, hold, heq⟩ | hle := indexedPairs_route hroute
    · obtain ⟨oldSpan, holdSpan, hmem⟩ := List.mem_flatMap.1 hold
      rw [← heq]
      exact ((h.spans oldSpan holdSpan).2 old hmem).2.1
    · exact hle
  refine ⟨hr.neuronCount ▸ h.neurons, ?_, ?_, ?_, fun e he => ?_, hspans, fun pending hp => ?_, ?_⟩
  · rw [hr.neuronCount, hr.branches]
    exact h.branches
  · rw [hr.structural]
    exact hr.grows.valid.settled
  · rw [hsame, hr.neuronCount, h.sameNeurons]
  · obtain ⟨hold | ⟨c, hc, rfl⟩, -⟩ := hr.mem_edges.1 he
    · exact h.scores e hold
    · exact ((h.structural.discovered ha).holds
        (StructuralPlasticityState.mem_promotions hc).1).score_pos
  · rw [hr.pending] at hp
    split_ifs at hp
    obtain ⟨l₁, item, l₂, hevidence, hitem, hfirst⟩ := List.findSome?_eq_some_iff.1 hp
    obtain ⟨hnew, span, hspan, hst, edge, hedge, hes, het, rfl⟩ :=
      acceptedSynapse_eq_some hitem h.under
    have hroute := region_of_findSome? hevidence hitem hfirst hnew
    refine ⟨rfl, rfl, ?_, span, hspan, hst, edge, hedge, hes, het, rfl⟩
    rw [hr.spans] at hspan
    have hlisted : edge ∈ listedEdges (rebuiltSpans (indexedPairs s.sparseSpans evidence)
        grown.settled) := List.mem_flatMap.2 ⟨span, hspan, hedge⟩
    obtain ⟨e, -, hsparse⟩ := mem_listed_rebuilt.1 hlisted
    obtain ⟨hindex, -, hs, ht, -⟩ := sparseEdge_eq_some_iff.1 hsparse
    rw [← hs, ← ht, hes, het, hroute] at hindex
    exact (Option.some.inj hindex).symm
  · rw [hr.dendritic]
    exact h.noDendriticWork

/-! ### What the spans list -/

/-- The spans list exactly the stored connections of nonzero weight, each once, by ascending
target and under it. -/
structure Listed (s : GpuV11CausalState) : Prop where
  exact : ∀ source target weight,
    (∃ edge ∈ listedEdges s.sparseSpans,
      edge.source = source ∧ edge.target = target ∧ edge.weight = weight) ↔
    ∃ e ∈ s.structural.edges, e.source = source ∧ e.target = target ∧ e.weight = weight ∧
      e.weight.feq F32.zero = false
  once : ((listedEdges s.sparseSpans).map (·.pair)).Nodup
  ascending : (s.sparseSpans.map (·.target)).Pairwise (· < ·)
  under : ∀ span ∈ s.sparseSpans, ∀ edge ∈ span.edges, edge.target = span.target

/-- The pair is listed. -/
def ListsPair (s : GpuV11CausalState) (p : ℕ × ℕ) : Prop :=
  p ∈ (listedEdges s.sparseSpans).map (·.pair)

/-- The pair is connected. -/
def StoresPair (s : GpuV11CausalState) (p : ℕ × ℕ) : Prop :=
  p ∈ s.structural.edges.map (·.pair)

/-- Of a well formed state, the spans list no pair that is not connected. -/
theorem Formed.storesPair (h : s.Formed) {p : ℕ × ℕ} (hp : s.ListsPair p) : s.StoresPair p := by
  obtain ⟨edge, hedge, rfl⟩ := List.mem_map.1 hp
  obtain ⟨span, hspan, hmem⟩ := List.mem_flatMap.1 hedge
  obtain ⟨-, -, e, he, hpair, -⟩ := (h.spans span hspan).2 edge hmem
  exact List.mem_map.2 ⟨e, he, hpair.symm⟩

theorem Listed.listsPair_iff (hl : s.Listed) (h : s.Formed) {p : ℕ × ℕ} :
    s.ListsPair p ↔ s.StoresPair p := by
  refine ⟨h.storesPair, fun hp => ?_⟩
  obtain ⟨e, he, rfl⟩ := List.mem_map.1 hp
  obtain ⟨edge, hedge, hs, ht, -⟩ := (hl.exact e.source e.target e.weight).2
    ⟨e, he, rfl, rfl, rfl, (h.weight he).2.2⟩
  exact List.mem_map.2 ⟨edge, hedge, Prod.ext hs ht⟩

/-- The spans of a phase list what is stored when every stored pair is indexed. -/
theorem PhaseResult.listed_iff (h : s.Formed) (ha : s.structural.Admits evidence)
    {grown : StructuralPlasticityState} (hr : s.PhaseResult evidence grown s') :
    s'.Listed ↔ ∀ p, s'.StoresPair p → s.ListsPair p ∨ p ∈ evidence.map (·.pair) := by
  have hformed := hr.formed h ha
  constructor
  · intro hl p hp
    obtain ⟨edge, hedge, rfl⟩ := List.mem_map.1 ((hl.listsPair_iff hformed).2 hp)
    rw [hr.spans] at hedge
    obtain ⟨e, -, hsparse⟩ := mem_listed_rebuilt.1 hedge
    obtain ⟨hroute, -, hs, ht, -⟩ := sparseEdge_eq_some_iff.1 hsparse
    rw [← hs, ← ht] at hroute
    exact indexedPairs_isSome_iff.1 (by rw [hroute]; rfl)
  · intro hindexed
    refine ⟨fun source target weight => ?_, ?_, ?_, hformed.under⟩
    · constructor
      · rintro ⟨edge, hedge, rfl, rfl, rfl⟩
        rw [hr.spans] at hedge
        obtain ⟨e, he, hsparse⟩ := mem_listed_rebuilt.1 hedge
        obtain ⟨-, hzero, hs, ht, hw⟩ := sparseEdge_eq_some_iff.1 hsparse
        exact ⟨e, by rw [hr.structural]; exact he, hs.symm, ht.symm, hw.symm, hzero⟩
      · rintro ⟨e, he, rfl, rfl, rfl, hzero⟩
        have hsome := indexedPairs_isSome_iff.2 (hindexed e.pair (List.mem_map_of_mem he))
        obtain ⟨route, hroute⟩ := Option.isSome_iff_exists.1 hsome
        have hsparse : sparseEdge (indexedPairs s.sparseSpans evidence) e =
            some ⟨e.source, e.target, route, e.weight⟩ :=
          sparseEdge_eq_some_iff.2 ⟨hroute, hzero, rfl, rfl, rfl⟩
        refine ⟨⟨e.source, e.target, route, e.weight⟩, ?_, rfl, rfl, rfl⟩
        rw [hr.spans]
        exact mem_listed_rebuilt.2 ⟨e, by rw [← hr.structural]; exact he, hsparse⟩
    · rw [hr.spans]
      exact nodup_listed_rebuilt hr.grows.valid.settled
    · rw [hr.spans]
      exact pairwise_targets_rebuilt _ _

/-! ### Calls -/

/-- The calls that change a state. -/
inductive CausalCall where
  | applyStructuralPhase (evidence : List CoactivationEvidence)
  | setDendriticBranches (branches : DendriticBranchSet)
  | restoreCheckpoint

/-- The call itself; the last one replaces the state by what its own checkpoint restores
to. -/
def CausalCall.run : CausalCall → EStateM ScaffoldContractError GpuV11CausalState Unit
  | .applyStructuralPhase evidence => do
    let _ ← GpuV11CausalState.applyStructuralPhase evidence
    pure ()
  | .setDendriticBranches branches => GpuV11CausalState.setDendriticBranches branches
  | .restoreCheckpoint => do
    let s ← get
    let restored ← ofResult (restore s.checkpoint)
    set restored

/-- The runtime clears the pending synapse it read. -/
def cleared (s : GpuV11CausalState) : GpuV11CausalState :=
  match s.pendingLifetimeSynapse with
  | none => s
  | some pending => stateAfter (clearPendingLifetimeSynapse pending s)

/-- A call, and the pending synapse cleared when it went through. -/
def causalStep (s : GpuV11CausalState) (call : CausalCall) : GpuV11CausalState :=
  match call.run s with
  | .ok _ s' => s'.cleared
  | .error _ s' => s'

theorem cleared_eq (s : GpuV11CausalState) :
    s.cleared = { s with pendingLifetimeSynapse := none } := by
  cases hp : s.pendingLifetimeSynapse with
  | none =>
    obtain ⟨n, branches, structural, spans, p, work⟩ := s
    obtain rfl : p = none := hp
    rfl
  | some pending =>
    rw [cleared, hp]
    simp [clearPendingLifetimeSynapse, bind_apply, get_apply, failIf, hp, ofResult_ok, set_apply]

theorem Formed.cleared (h : s.Formed) : s.cleared.Formed := by
  rw [cleared_eq]
  exact ⟨h.neurons, h.branches, h.structural, h.sameNeurons, h.scores, h.spans,
    fun p hp => (by cases hp), h.noDendriticWork⟩

theorem listed_cleared_iff : s.cleared.Listed ↔ s.Listed := by
  rw [cleared_eq]
  constructor
  · rintro ⟨h₁, h₂, h₃, h₄⟩
    exact ⟨h₁, h₂, h₃, h₄⟩
  · rintro ⟨h₁, h₂, h₃, h₄⟩
    exact ⟨h₁, h₂, h₃, h₄⟩

/-- What is promised of a call. -/
structure CausalPromise (s : GpuV11CausalState) (call : CausalCall) : Prop where
  listed : (s.causalStep call).Listed
  stays : ∀ p, s.ListsPair p → (s.causalStep call).StoresPair p → (s.causalStep call).ListsPair p
  reports : ∀ evidence work s', call = .applyStructuralPhase evidence →
    GpuV11CausalState.applyStructuralPhase evidence s = .ok work s' →
    0 < s'.lastWork.structural.acceptedEdges →
    ∃ pending, s'.pendingLifetimeSynapse = some pending ∧
      ¬s.StoresPair (pending.source, pending.target) ∧
      s'.StoresPair (pending.source, pending.target)
  restoresCall : restore (stateAfter (call.run s)).checkpoint = .ok (stateAfter (call.run s))
  restores : restore (s.causalStep call).checkpoint = .ok (s.causalStep call)
  unchanged : isOk (call.run s) = false → stateAfter (call.run s) = s

/-- Every edge that the phase promotes and keeps is named by its evidence, and a phase that
promotes keeps an edge. -/
structure NamesPromotions (s : GpuV11CausalState) (evidence : List CoactivationEvidence) :
    Prop where
  named : ∀ c ∈ (s.structural.discovered evidence).promoted,
    s.structural.config.pruneScoreBelow ≤ c.score → c.pair ∈ evidence.map (·.pair)
  kept : (s.structural.discovered evidence).promoted ≠ [] →
    ∃ c ∈ (s.structural.discovered evidence).promoted,
      s.structural.config.pruneScoreBelow ≤ c.score

/-- The condition on a call: a phase whose evidence is admitted names its promotions. -/
def CausalCall.Named (s : GpuV11CausalState) (call : CausalCall) : Prop :=
  ∀ evidence, call = .applyStructuralPhase evidence → s.structural.Admits evidence →
    s.NamesPromotions evidence

/-- What holds between the calls of a run that kept the promise. -/
structure Ready (s : GpuV11CausalState) : Prop where
  formed : s.Formed
  listed : s.Listed
  idle : s.pendingLifetimeSynapse = none

/-- No promotion was connected before. -/
theorem not_storesPair_of_promoted {c : StructuralCandidate}
    (hc : c ∈ (s.structural.discovered evidence).promoted) : ¬s.StoresPair c.pair :=
  (StructuralPlasticityState.mem_promotions hc).2

/-- A kept promotion is connected after the phase. -/
theorem PhaseResult.storesPair {grown : StructuralPlasticityState}
    (hr : s.PhaseResult evidence grown s') {c : StructuralCandidate}
    (hc : c ∈ (s.structural.discovered evidence).promoted)
    (hkept : s.structural.config.pruneScoreBelow ≤ c.score) : s'.StoresPair c.pair :=
  List.mem_map.2 ⟨StructuralPlasticityState.connectionOf c,
    hr.mem_edges.2 ⟨Or.inr ⟨c, hc, rfl⟩, hkept⟩, rfl⟩

/-- A pair connected after the phase was connected before or is that of a kept promotion. -/
theorem PhaseResult.storesPair_cases {grown : StructuralPlasticityState}
    (hr : s.PhaseResult evidence grown s') {p : ℕ × ℕ} (hp : s'.StoresPair p) :
    s.StoresPair p ∨ ∃ c ∈ (s.structural.discovered evidence).promoted,
      s.structural.config.pruneScoreBelow ≤ c.score ∧ c.pair = p := by
  obtain ⟨e, he, rfl⟩ := List.mem_map.1 hp
  obtain ⟨hold | ⟨c, hc, rfl⟩, hkept⟩ := hr.mem_edges.1 he
  · exact Or.inl (List.mem_map_of_mem hold)
  · exact Or.inr ⟨c, hc, hkept, rfl⟩

/-- The phase lists what it stores when the kept promotions are named. -/
theorem PhaseResult.listed_iff_named (h : s.Ready) (ha : s.structural.Admits evidence)
    {grown : StructuralPlasticityState} (hr : s.PhaseResult evidence grown s') :
    s'.Listed ↔ ∀ c ∈ (s.structural.discovered evidence).promoted,
      s.structural.config.pruneScoreBelow ≤ c.score → c.pair ∈ evidence.map (·.pair) := by
  rw [hr.listed_iff h.formed ha]
  constructor
  · intro hindexed c hc hkept
    obtain hlisted | hnamed := hindexed c.pair (hr.storesPair hc hkept)
    · exact absurd (h.formed.storesPair hlisted) (not_storesPair_of_promoted hc)
    · exact hnamed
  · intro hnamed p hp
    obtain hold | ⟨c, hc, hkept, rfl⟩ := hr.storesPair_cases hp
    · exact Or.inl ((h.listed.listsPair_iff h.formed).2 hold)
    · exact Or.inr (hnamed c hc hkept)

/-- The pending synapse that a phase reports names an edge that is new. -/
theorem PhaseResult.pending_new (h : s.Ready) (ha : s.structural.Admits evidence)
    {grown : StructuralPlasticityState} (hr : s.PhaseResult evidence grown s')
    {pending : AddLifetimeSynapse} (hp : s'.pendingLifetimeSynapse = some pending) :
    ¬s.StoresPair (pending.source, pending.target) ∧
      s'.StoresPair (pending.source, pending.target) := by
  have hformed := hr.formed h.formed ha
  obtain ⟨-, -, -, span, hspan, -, edge, hedge, hs, ht, -⟩ := hformed.pending pending hp
  rw [hr.pending] at hp
  split_ifs at hp
  obtain ⟨item, -, hitem⟩ := List.exists_of_findSome?_eq_some hp
  obtain ⟨hnew, -, -, -, found, -, -, -, rfl⟩ := acceptedSynapse_eq_some hitem h.formed.under
  refine ⟨fun hstored => hnew ((h.listed.listsPair_iff h.formed).2 hstored), ?_⟩
  refine hformed.storesPair (List.mem_map.2 ⟨edge, List.mem_flatMap.2 ⟨span, hspan, hedge⟩, ?_⟩)
  exact Prod.ext hs ht

/-- A kept promotion that the evidence names is reported. -/
theorem PhaseResult.reports (h : s.Ready) (ha : s.structural.Admits evidence)
    {grown : StructuralPlasticityState} (hr : s.PhaseResult evidence grown s') (hl : s'.Listed)
    {c : StructuralCandidate} (hc : c ∈ (s.structural.discovered evidence).promoted)
    (hkept : s.structural.config.pruneScoreBelow ≤ c.score)
    (hnamed : c.pair ∈ evidence.map (·.pair)) : s'.pendingLifetimeSynapse.isSome = true := by
  have hformed := hr.formed h.formed ha
  obtain ⟨item, hitem, hpair⟩ := List.mem_map.1 hnamed
  have hlisted : s'.ListsPair item.pair :=
    hpair ▸ (hl.listsPair_iff hformed).2 (hr.storesPair hc hkept)
  have hnew : ¬s.ListsPair item.pair := fun hin =>
    not_storesPair_of_promoted hc (hpair ▸ h.formed.storesPair hin)
  rw [hr.pending, if_pos (List.length_pos_of_mem hc), List.findSome?_isSome_iff]
  refine ⟨item, hitem, ?_⟩
  rw [ListsPair, hr.spans] at hlisted
  rw [hr.spans]
  refine acceptedSynapse_isSome h.formed.under hnew hlisted fun e he => ?_
  rw [← hr.structural] at he
  exact (hformed.weight he).1

/-- A call that fails, or that replaces nothing that the promise reads, keeps it. -/
theorem promise_of_same (h : s.Ready) {call : CausalCall}
    (hformed : (stateAfter (call.run s)).Formed)
    (hstructural : (stateAfter (call.run s)).structural = s.structural)
    (hspans : (stateAfter (call.run s)).sparseSpans = s.sparseSpans)
    (hidle : (stateAfter (call.run s)).pendingLifetimeSynapse = none)
    (hunchanged : isOk (call.run s) = false → stateAfter (call.run s) = s)
    (hphase : ∀ evidence work s', call = .applyStructuralPhase evidence →
      GpuV11CausalState.applyStructuralPhase evidence s ≠ .ok work s') :
    s.CausalPromise call ∧ (s.causalStep call).Formed := by
  have hstep : s.causalStep call = stateAfter (call.run s) := by
    unfold causalStep
    cases hrun : call.run s with
    | ok u s' =>
      rw [hrun] at hidle
      change s'.cleared = s'
      rw [cleared, show s'.pendingLifetimeSynapse = none from hidle]
    | error e s' => rfl
  have hlisted : (stateAfter (call.run s)).Listed := by
    obtain ⟨h₁, h₂, h₃, h₄⟩ := h.listed
    rw [← hspans, ← hstructural] at h₁
    rw [← hspans] at h₂ h₃ h₄
    exact ⟨h₁, h₂, h₃, h₄⟩
  rw [hstep]
  refine ⟨⟨?_, ?_, fun evidence work s' hcall hrun => absurd hrun (hphase evidence work s' hcall),
    hformed.restore, ?_, hunchanged⟩, hformed⟩
  · rw [hstep]
    exact hlisted
  · intro p hp _
    rw [hstep, ListsPair, hspans]
    exact hp
  · rw [hstep]
    exact hformed.restore

/-- A call other than a phase keeps the promise. -/
theorem promise_setDendriticBranches (h : s.Ready) (branches : DendriticBranchSet) :
    s.CausalPromise (.setDendriticBranches branches) ∧
      (s.causalStep (.setDendriticBranches branches)).Formed := by
  have hrun : (∃ e, setDendriticBranches branches s = .error e s) ∨
      validateDendriticBranches s.neuronCount branches = .ok () ∧
        setDendriticBranches branches s = .ok () { s with dendriticBranches := branches } := by
    unfold setDendriticBranches
    rw [bind_apply, get_apply]
    simp only
    cases hvalid : validateDendriticBranches s.neuronCount branches with
    | error e => exact Or.inl ⟨e, by rw [bind_apply, ofResult_error]⟩
    | ok u => exact Or.inr ⟨rfl, by rw [bind_apply, ofResult_ok]; rfl⟩
  have hf := h.formed
  obtain ⟨e, hrun⟩ | ⟨hvalid, hrun⟩ := hrun
  · have hafter : CausalCall.run (.setDendriticBranches branches) s = .error e s := hrun
    refine promise_of_same h ?_ ?_ ?_ ?_ ?_ fun _ _ _ hcall => (by cases hcall) <;> rw [hafter]
    · exact hf
    · rfl
    · rfl
    · exact h.idle
    · exact fun _ => rfl
  · have hafter : CausalCall.run (.setDendriticBranches branches) s =
        .ok () { s with dendriticBranches := branches } := hrun
    refine promise_of_same h ?_ ?_ ?_ ?_ ?_ fun _ _ _ hcall => (by cases hcall) <;> rw [hafter]
    · exact ⟨hf.neurons, hvalid, hf.structural, hf.sameNeurons, hf.scores, hf.spans, hf.pending,
        hf.noDendriticWork⟩
    · rfl
    · rfl
    · exact h.idle
    · exact fun hfail => absurd hfail Bool.noConfusion

theorem promise_restoreCheckpoint (h : s.Ready) : s.CausalPromise .restoreCheckpoint ∧
    (s.causalStep .restoreCheckpoint).Formed := by
  have hafter : CausalCall.run .restoreCheckpoint s = .ok () s := by
    change (do
      let s ← get
      let restored ← ofResult (restore s.checkpoint)
      set restored : EStateM ScaffoldContractError GpuV11CausalState Unit) s = _
    rw [bind_apply, get_apply]
    simp only
    rw [bind_apply, h.formed.restore, ofResult_ok]
    rfl
  refine promise_of_same h ?_ ?_ ?_ ?_ ?_ fun _ _ _ hcall => (by cases hcall) <;> rw [hafter]
  · exact h.formed
  · rfl
  · rfl
  · exact h.idle
  · exact fun _ => rfl

/-- **One phase** keeps the promise exactly when it names its promotions, and keeps the
state formed in any case. -/
theorem promise_applyStructuralPhase (h : s.Ready) (evidence : List CoactivationEvidence) :
    (s.CausalPromise (.applyStructuralPhase evidence) ↔
      CausalCall.Named s (.applyStructuralPhase evidence)) ∧
      (s.causalStep (.applyStructuralPhase evidence)).Formed := by
  obtain ⟨hna, e, hrun⟩ | ⟨ha, grown, work, s', hrun, hr⟩ :=
    applyStructuralPhase_cases h.formed h.idle evidence
  · have hafter : CausalCall.run (.applyStructuralPhase evidence) s = .error e s := by
      change (GpuV11CausalState.applyStructuralPhase evidence >>= fun _ => pure ()) s = _
      rw [bind_apply, hrun]
    have hkeeps : s.CausalPromise (.applyStructuralPhase evidence) ∧
        (s.causalStep (.applyStructuralPhase evidence)).Formed := by
      refine promise_of_same h ?_ ?_ ?_ ?_ ?_ ?_ <;> try rw [hafter]
      · exact h.formed
      · rfl
      · rfl
      · exact h.idle
      · exact fun _ => rfl
      · intro evidence' work s' hcall hok
        obtain rfl := CausalCall.applyStructuralPhase.inj hcall
        rw [hrun] at hok
        cases hok
    refine ⟨⟨fun _ evidence' hcall ha => ?_, fun _ => hkeeps.1⟩, hkeeps.2⟩
    obtain rfl := CausalCall.applyStructuralPhase.inj hcall
    exact absurd ha hna
  have hafter : CausalCall.run (.applyStructuralPhase evidence) s = .ok () s' := by
    change (GpuV11CausalState.applyStructuralPhase evidence >>= fun _ => pure ()) s = _
    rw [bind_apply, hrun]
    rfl
  have hstep : s.causalStep (.applyStructuralPhase evidence) = s'.cleared := by
    rw [causalStep, hafter]
  have hformed := hr.formed h.formed ha
  rw [hstep]
  refine ⟨⟨fun hpromise evidence' hcall _ => ?_, fun hnamed => ?_⟩, hformed.cleared⟩
  · obtain rfl := CausalCall.applyStructuralPhase.inj hcall
    have hlisted := hpromise.listed
    rw [hstep, listed_cleared_iff] at hlisted
    refine ⟨(hr.listed_iff_named h ha).1 hlisted, fun hne => ?_⟩
    have haccepted : 0 < s'.lastWork.structural.acceptedEdges := by
      rw [hr.accepted]
      exact List.length_pos_iff.2 hne
    obtain ⟨pending, -, hnew, hstored⟩ := hpromise.reports evidence work s' rfl hrun haccepted
    obtain hold | ⟨c, hc, hkept, -⟩ := hr.storesPair_cases hstored
    · exact absurd hold hnew
    · exact ⟨c, hc, hkept⟩
  · obtain ⟨hpromoted, hkept⟩ := hnamed evidence rfl ha
    have hlisted := (hr.listed_iff_named h ha).2 hpromoted
    have hcleared := listed_cleared_iff.2 hlisted
    refine ⟨hstep ▸ hcleared, fun p _ hp => ?_, ?_, ?_, ?_, fun hfail => ?_⟩
    · rw [hstep] at hp ⊢
      exact (hcleared.listsPair_iff hformed.cleared).2 hp
    · intro evidence' work' t hcall hok haccepted
      obtain rfl := CausalCall.applyStructuralPhase.inj hcall
      rw [hrun] at hok
      cases hok
      rw [hr.accepted] at haccepted
      obtain ⟨c, hc, hscore⟩ := hkept (List.length_pos_iff.1 haccepted)
      obtain ⟨pending, hp⟩ := Option.isSome_iff_exists.1
        (hr.reports h ha hlisted hc hscore (hpromoted c hc hscore))
      exact ⟨pending, hp, hr.pending_new h ha hp⟩
    · rw [hafter]
      exact hformed.restore
    · rw [hstep]
      exact hformed.cleared.restore
    · rw [hafter] at hfail
      cases hfail

theorem promise_iff_named (h : s.Ready) (call : CausalCall) :
    (s.CausalPromise call ↔ call.Named s) ∧ (s.causalStep call).Formed := by
  cases call with
  | applyStructuralPhase evidence => exact promise_applyStructuralPhase h evidence
  | setDendriticBranches branches =>
    obtain ⟨hpromise, hformed⟩ := promise_setDendriticBranches h branches
    exact ⟨⟨fun _ evidence hcall => (by cases hcall), fun _ => hpromise⟩, hformed⟩
  | restoreCheckpoint =>
    obtain ⟨hpromise, hformed⟩ := promise_restoreCheckpoint h
    exact ⟨⟨fun _ evidence hcall => (by cases hcall), fun _ => hpromise⟩, hformed⟩

/-- No synapse is pending after a call. -/
theorem idle_causalStep (h : s.Ready) (call : CausalCall) (hpromise : s.CausalPromise call) :
    (s.causalStep call).pendingLifetimeSynapse = none := by
  have hunchanged := hpromise.unchanged
  unfold causalStep
  cases hrun : call.run s with
  | ok u s' =>
    change s'.cleared.pendingLifetimeSynapse = none
    rw [cleared_eq]
  | error e s' =>
    rw [hrun] at hunchanged
    change s'.pendingLifetimeSynapse = none
    rw [show s' = s from hunchanged rfl]
    exact h.idle

/-- The state came from `new` or from `for_phenotype`. -/
def Started (s : GpuV11CausalState) : Prop :=
  (∃ neuronCount branches config, new neuronCount branches config = .ok s) ∨
    ∃ plan, forPhenotype plan = .ok s

/-- `for_phenotype` ends in `new`. -/
theorem Started.new (h : s.Started) :
    ∃ neuronCount branches config, new neuronCount branches config = .ok s := by
  obtain h | ⟨plan, h⟩ := h
  · exact h
  · simp only [forPhenotype, except_bind_eq_ok_iff] at h
    obtain ⟨_, -, branches, -, hnew⟩ := h
    exact ⟨_, _, _, hnew⟩

theorem Started.ready (h : s.Started) : s.Ready := by
  obtain ⟨n, branches, config, hnew⟩ := h.new
  obtain ⟨hn, hbranches, hvalid, rfl⟩ := new_cases hnew
  refine ⟨⟨hn, hbranches, hvalid, rfl, fun e he => absurd he List.not_mem_nil,
    fun span hspan => absurd hspan List.not_mem_nil, fun p hp => (by cases hp), rfl⟩,
    ⟨fun source target weight => ?_, List.nodup_nil, List.Pairwise.nil,
      fun span hspan => absurd hspan List.not_mem_nil⟩, rfl⟩
  constructor
  · rintro ⟨edge, hedge, -⟩
    exact absurd hedge List.not_mem_nil
  · rintro ⟨e, he, -⟩
    exact absurd he List.not_mem_nil

/-- **Along a run the promise is kept exactly when every phase names what it promotes.** -/
theorem causal_runs_keep_iff (h : s.Started) (calls : List CausalCall) :
    Along causalStep CausalPromise s calls ↔
      Along causalStep (fun s call => call.Named s) s calls := by
  refine along_iff_of_invariant (I := Ready) (fun s call hs => (promise_iff_named hs call).1) ?_
    h.ready
  intro s call hs hpromise
  exact ⟨(promise_iff_named hs call).2, hpromise.listed, idle_causalStep hs call hpromise⟩

/-- A fresh state for eight neurons whose phases promote one edge each. -/
def sampleState : GpuV11CausalState :=
  ⟨8, ⟨[]⟩, ⟨8, StructuralPlasticityState.sampleConfig, ∅, ∅, 0⟩, [], none,
    GpuV11WorkReceipt.default⟩

theorem sampleState_started : sampleState.Started :=
  Or.inl ⟨8, ⟨[]⟩, StructuralPlasticityState.sampleConfig, rfl⟩

def pairEvidence (source target coactivation : ℕ) : CoactivationEvidence :=
  ⟨⟨0, Nat.two_pow_pos 16⟩, source, target, coactivation, 0, 0⟩

/-- Evidence about one pair in each of two phases, a restart between them. -/
def sampleCalls : List CausalCall :=
  [.applyStructuralPhase [pairEvidence 1 2 9], .restoreCheckpoint,
    .applyStructuralPhase [pairEvidence 3 4 7]]

/-- Each phase promotes the pair it is told of, so the promise is kept. -/
theorem causal_runs_keep_sample :
    sampleState.Started ∧ Along causalStep CausalPromise sampleState sampleCalls ∧
      (sampleCalls.foldl causalStep sampleState).ListsPair (3, 4) := by
  have hnamed : Along causalStep (fun s call => call.Named s) sampleState sampleCalls := by
    refine ⟨?_, ?_, ?_, trivial⟩
    · intro evidence hcall _
      cases hcall
      exact ⟨by decide, by decide⟩
    · intro evidence hcall
      cases hcall
    · intro evidence hcall _
      cases hcall
      exact ⟨by decide, by decide⟩
  refine ⟨sampleState_started, (causal_runs_keep_iff sampleState_started _).2 hnamed, ?_⟩
  unfold ListsPair
  decide

/-- The state after evidence about two pairs, of which the phase promotes the first, and a
phase without evidence. -/
def leftoverState : GpuV11CausalState :=
  causalStep
    (sampleState.causalStep (.applyStructuralPhase StructuralPlasticityState.sampleEvidence))
    (.applyStructuralPhase [])

/-- The second phase stores the edge of the candidate left over without listing it. -/
theorem leftover_candidate_not_listed :
    sampleState.Started ∧ leftoverState.StoresPair (3, 4) ∧ ¬leftoverState.ListsPair (3, 4) ∧
      ¬Along causalStep CausalPromise sampleState
        [.applyStructuralPhase StructuralPlasticityState.sampleEvidence,
          .applyStructuralPhase []] := by
  have hstored : ∃ e ∈ leftoverState.structural.edges, e.source = 3 ∧ e.target = 4 ∧
      e.weight = scoreToWeight 7 ∧ e.weight.feq F32.zero = false := by decide
  have hmissing : ¬∃ edge ∈ listedEdges leftoverState.sparseSpans,
      edge.source = 3 ∧ edge.target = 4 ∧ edge.weight = scoreToWeight 7 := by decide
  refine ⟨sampleState_started, ?_, ?_, fun h => ?_⟩
  · unfold StoresPair
    decide
  · unfold ListsPair
    decide
  · obtain ⟨-, hsecond, -⟩ := h
    exact hmissing ((hsecond.listed.exact 3 4 (scoreToWeight 7)).2 hstored)

end GpuV11CausalState

end ALife
