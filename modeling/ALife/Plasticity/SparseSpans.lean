/-
# The spans that a phase rebuilds

A rebuilt span lists the stored connections of its target whose pair is indexed
and whose weight is not zero (`mem_listed_rebuilt`), each once
(`nodup_listed_rebuilt`).  A pair is indexed when it was listed before or occurs
in the evidence (`indexedPairs_eq`), with the route it had or the region of its
first evidence.
-/

import ALife.Plasticity.CausalState
import ALife.Plasticity.StructuralPhase

namespace ALife

open Machine

/-- The pair of neurons a sparse edge joins. -/
def GpuV11SparseEdge.pair (edge : GpuV11SparseEdge) : ℕ × ℕ := (edge.source, edge.target)

/-- The edges of all spans. -/
def listedEdges (spans : List GpuV11SparseSpan) : List GpuV11SparseEdge := spans.flatMap (·.edges)

namespace StructuralPlasticityState

/-- The connections of a valid state have distinct pairs. -/
theorem Valid.nodup_pairs {s : StructuralPlasticityState} (h : s.Valid) :
    (s.edges.map (·.pair)).Nodup := by
  have hflat : s.edges.map (·.pair) =
      s.connections.entries.flatMap fun row => row.2.map (·.pair) := by
    rw [StructuralPlasticityState.edges, OrderedMap.values, ← List.flatMap_def, List.map_flatMap]
  rw [hflat, List.nodup_flatMap]
  constructor
  · intro row hrow
    exact List.pairwise_map.2 ((h.targetOk row hrow).ordered.imp fun hlt heq =>
      hlt.ne (Prod.mk.inj heq).1)
  · refine s.connections.ascending.imp_of_mem ?_
    intro a b ha hb hlt p hpa hpb
    obtain ⟨e, he, rfl⟩ := List.mem_map.1 hpa
    obtain ⟨e', he', heq⟩ := List.mem_map.1 hpb
    have ht := ((h.targetOk a ha).edgeOk e he).target_eq
    have ht' := ((h.targetOk b hb).edgeOk e' he').target_eq
    have htarget : e'.target = e.target := (Prod.mk.inj heq).2
    omega

end StructuralPlasticityState

namespace GpuV11CausalState

variable {spans : List GpuV11SparseSpan} {evidence : List CoactivationEvidence}
  {index : PairIndex} {structural : StructuralPlasticityState} {edge : GpuV11SparseEdge}
  {source target route : ℕ}

/-! ### The index -/

theorem foldl_insert_listed (l : List GpuV11SparseEdge) (index : PairIndex) (source target : ℕ) :
    l.foldl (fun index edge => index.insert edge.source edge.target edge.route) index
        source target =
      ((l.reverse.find? fun edge => edge.pair = (source, target)).map (·.route)).or
        (index source target) := by
  induction l generalizing index with
  | nil => rfl
  | cons a l ih =>
    rw [List.foldl_cons, ih, List.reverse_cons, List.find?_append, Option.map_or, Option.or_assoc]
    congr 1
    by_cases ha : a.pair = (source, target)
    · obtain ⟨hs, ht⟩ := Prod.mk.inj ha
      simp only [PairIndex.insert, List.find?_singleton, ha, decide_true, if_true, Option.map_some,
        Option.some_or]
      rw [if_pos ⟨hs.symm, ht.symm⟩]
    · have hne : ¬(source = a.source ∧ target = a.target) := fun h =>
        ha (Prod.ext h.1.symm h.2.symm)
      simp [PairIndex.insert, ha, hne]

theorem foldl_insert_evidence (l : List CoactivationEvidence) (index : PairIndex)
    (source target : ℕ) :
    l.foldl (fun index item => if (index item.source item.target).isSome then index
        else index.insert item.source item.target item.region) index source target =
      (index source target).or
        ((l.find? fun item => item.pair = (source, target)).map fun item => (item.region : ℕ)) := by
  induction l generalizing index with
  | nil => exact (Option.or_none).symm
  | cons a l ih =>
    rw [List.foldl_cons, ih]
    by_cases ha : a.pair = (source, target)
    · obtain ⟨hs, ht⟩ := Prod.mk.inj ha
      obtain rfl : a.source = source := hs
      obtain rfl : a.target = target := ht
      rw [List.find?_cons_of_pos (by simpa using ha)]
      cases hold : index a.source a.target with
      | none => simp [PairIndex.insert]
      | some r => simp [hold]
    · rw [List.find?_cons_of_neg (by simpa using ha)]
      split_ifs with hsome
      · rfl
      · have hne : ¬(source = a.source ∧ target = a.target) := fun h =>
          ha (Prod.ext h.1.symm h.2.symm)
        rw [PairIndex.insert, if_neg hne]

/-- A listed pair keeps its route, another pair takes the region of its first evidence. -/
theorem indexedPairs_eq (spans : List GpuV11SparseSpan) (evidence : List CoactivationEvidence)
    (source target : ℕ) :
    indexedPairs spans evidence source target =
      (((listedEdges spans).reverse.find? fun edge => edge.pair = (source, target)).map
        (·.route)).or
      ((evidence.find? fun item => item.pair = (source, target)).map
        fun item => (item.region : ℕ)) := by
  unfold indexedPairs
  rw [foldl_insert_evidence, foldl_insert_listed, Option.or_none]
  rfl

theorem indexedPairs_isSome_iff : (indexedPairs spans evidence source target).isSome = true ↔
    (source, target) ∈ (listedEdges spans).map (·.pair) ∨
      (source, target) ∈ evidence.map (·.pair) := by
  rw [indexedPairs_eq, Option.isSome_or, Bool.or_eq_true, Option.isSome_map, Option.isSome_map,
    List.find?_isSome, List.find?_isSome]
  simp only [List.mem_reverse, decide_eq_true_eq, List.mem_map]

/-- The routes of the index come from the listed edges and from regions. -/
theorem indexedPairs_route (h : indexedPairs spans evidence source target = some route) :
    (∃ edge ∈ listedEdges spans, edge.route = route) ∨ route ≤ 65535 := by
  rw [indexedPairs_eq, Option.or_eq_some_iff] at h
  obtain h | ⟨-, h⟩ := h
  · obtain ⟨edge, hfind, rfl⟩ := Option.map_eq_some_iff.1 h
    exact Or.inl ⟨edge, List.mem_reverse.1 (List.mem_of_find?_eq_some hfind), rfl⟩
  · obtain ⟨item, -, rfl⟩ := Option.map_eq_some_iff.1 h
    exact Or.inr (by have := item.region.isLt; omega)

/-! ### The rebuilt spans -/

theorem sparseEdge_eq_some_iff {e : SparseConnection} : sparseEdge index e = some edge ↔
    index e.source e.target = some edge.route ∧ e.weight.feq F32.zero = false ∧
      edge.source = e.source ∧ edge.target = e.target ∧ edge.weight = e.weight := by
  unfold sparseEdge
  cases hroute : index e.source e.target with
  | none => simp
  | some r =>
    cases hzero : e.weight.feq F32.zero with
    | true => simp
    | false =>
      obtain ⟨s, t, r', w⟩ := edge
      simp only [Bool.false_eq_true, if_false, Option.some.injEq, GpuV11SparseEdge.mk.injEq,
        true_and]
      constructor
      · rintro ⟨rfl, rfl, rfl, rfl⟩
        exact ⟨rfl, rfl, rfl, rfl⟩
      · rintro ⟨rfl, rfl, rfl, rfl⟩
        exact ⟨rfl, rfl, rfl, rfl⟩

/-- The row of a target in a rebuilt list. -/
theorem mem_rebuiltSpans {span : GpuV11SparseSpan} :
    span ∈ rebuiltSpans index structural ↔ span.edges ≠ [] ∧ span.edges =
      (structural.edges.filterMap (sparseEdge index)).filter fun edge =>
        edge.target = span.target := by
  unfold rebuiltSpans
  rw [List.mem_map]
  constructor
  · rintro ⟨⟨t, row⟩, hrow, rfl⟩
    exact OrderedMap.mem_group.1 hrow
  · intro h
    exact ⟨(span.target, span.edges), OrderedMap.mem_group.2 h, rfl⟩

theorem mem_listed_rebuilt : edge ∈ listedEdges (rebuiltSpans index structural) ↔
    ∃ e ∈ structural.edges, sparseEdge index e = some edge := by
  rw [← List.mem_filterMap, listedEdges, List.mem_flatMap]
  constructor
  · rintro ⟨span, hspan, hedge⟩
    rw [(mem_rebuiltSpans.1 hspan).2] at hedge
    exact (List.mem_filter.1 hedge).1
  · intro hedge
    have hmem : edge ∈ (structural.edges.filterMap (sparseEdge index)).filter fun other =>
        other.target = edge.target := List.mem_filter.2 ⟨hedge, by simp⟩
    exact ⟨⟨edge.target, _⟩, mem_rebuiltSpans.2 ⟨List.ne_nil_of_mem hmem, rfl⟩, hmem⟩

theorem target_of_mem_rebuilt {span : GpuV11SparseSpan} (h : span ∈ rebuiltSpans index structural)
    (hedge : edge ∈ span.edges) : edge.target = span.target := by
  rw [(mem_rebuiltSpans.1 h).2] at hedge
  exact of_decide_eq_true (List.mem_filter.1 hedge).2

theorem pairwise_targets_rebuilt (index : PairIndex) (structural : StructuralPlasticityState) :
    ((rebuiltSpans index structural).map (·.target)).Pairwise (· < ·) := by
  unfold rebuiltSpans
  rw [List.map_map, List.pairwise_map]
  exact OrderedMap.ascending _

theorem nodup_listed_rebuilt (h : structural.Valid) :
    ((listedEdges (rebuiltSpans index structural)).map (·.pair)).Nodup := by
  have hpairs : ((structural.edges.filterMap (sparseEdge index)).map (·.pair)).Nodup := by
    have hsub : ((structural.edges.filterMap (sparseEdge index)).map (·.pair)).Sublist
        (structural.edges.map (·.pair)) := by
      induction structural.edges with
      | nil => exact List.Sublist.refl _
      | cons e l ih =>
        cases he : sparseEdge index e with
        | none =>
          rw [List.filterMap_cons_none he, List.map_cons]
          exact ih.cons _
        | some edge =>
          obtain ⟨-, -, hs, ht, -⟩ := sparseEdge_eq_some_iff.1 he
          rw [List.filterMap_cons_some he, List.map_cons, List.map_cons,
            show edge.pair = e.pair from Prod.ext hs ht]
          exact ih.cons_cons _
    exact h.nodup_pairs.sublist hsub
  rw [listedEdges, List.map_flatMap, List.nodup_flatMap]
  constructor
  · intro span hspan
    rw [(mem_rebuiltSpans.1 hspan).2]
    exact hpairs.sublist (List.filter_sublist.map _)
  · refine (List.pairwise_map.1 (pairwise_targets_rebuilt index structural)).imp_of_mem ?_
    intro a b ha hb hlt p hpa hpb
    obtain ⟨e, he, rfl⟩ := List.mem_map.1 hpa
    obtain ⟨e', he', heq⟩ := List.mem_map.1 hpb
    have ht := target_of_mem_rebuilt ha he
    have ht' := target_of_mem_rebuilt hb he'
    have htarget : e'.target = e.target := (Prod.mk.inj heq).2
    omega

/-! ### The pending synapse -/

theorem pair_listed_iff {item : CoactivationEvidence}
    (hunder : ∀ span ∈ spans, ∀ edge ∈ span.edges, edge.target = span.target) :
    (spans.any fun span => span.target = item.target ∧
      (span.edges.any fun edge => edge.source = item.source ∧ edge.target = item.target)) = true ↔
        item.pair ∈ (listedEdges spans).map (·.pair) := by
  simp only [List.any_eq_true, decide_eq_true_eq, List.mem_map, listedEdges, List.mem_flatMap]
  constructor
  · rintro ⟨span, hspan, -, edge, hedge, hs, ht⟩
    exact ⟨edge, ⟨span, hspan, hedge⟩, Prod.ext hs ht⟩
  · rintro ⟨edge, ⟨span, hspan, hedge⟩, hpair⟩
    obtain ⟨hs, ht⟩ := Prod.mk.inj hpair
    exact ⟨span, hspan, (hunder span hspan edge hedge).symm.trans ht, edge, hedge, hs, ht⟩

/-- The pending synapse names an edge that the rebuilt spans list and the spans before did
not. -/
theorem acceptedSynapse_eq_some {before rebuilt : List GpuV11SparseSpan}
    {item : CoactivationEvidence} {pending : AddLifetimeSynapse}
    (h : acceptedSynapse before rebuilt item = some pending)
    (hunder : ∀ span ∈ before, ∀ edge ∈ span.edges, edge.target = span.target) :
    item.pair ∉ (listedEdges before).map (·.pair) ∧
      ∃ span ∈ rebuilt, span.target = item.target ∧ ∃ edge ∈ span.edges,
        edge.source = item.source ∧ edge.target = item.target ∧
          pending = ⟨item.source, item.target, edge.route, edge.weight, item⟩ := by
  unfold acceptedSynapse at h
  split_ifs at h with hbefore
  obtain ⟨span, hspan, h⟩ := Option.bind_eq_some_iff.1 h
  obtain ⟨edge, hedge, rfl⟩ := Option.map_eq_some_iff.1 h
  rw [Option.filter_eq_some_iff] at hedge
  have htarget : span.target = item.target := by simpa using List.find?_some hspan
  have hpair : edge.source = item.source ∧ edge.target = item.target := by
    simpa using List.find?_some hedge.1
  exact ⟨fun hmem => hbefore ((pair_listed_iff hunder).2 hmem), span,
    List.mem_of_find?_eq_some hspan, htarget, edge, List.mem_of_find?_eq_some hedge.1, hpair.1,
    hpair.2, rfl⟩

/-- Whether an item names a synapse depends on its pair only. -/
theorem acceptedSynapse_isSome_congr (before rebuilt : List GpuV11SparseSpan)
    {item other : CoactivationEvidence} (h : item.pair = other.pair) :
    (acceptedSynapse before rebuilt item).isSome =
      (acceptedSynapse before rebuilt other).isSome := by
  obtain ⟨hs, ht⟩ := Prod.mk.inj h
  unfold acceptedSynapse
  rw [hs, ht]
  split_ifs
  · rfl
  · cases rebuilt.find? fun span => span.target = other.target with
    | none => rfl
    | some span => rw [Option.bind_some, Option.bind_some, Option.isSome_map, Option.isSome_map]

/-- The item that names the pending synapse is the first of its pair, so the index has its
region for a pair that was not listed. -/
theorem region_of_findSome? {before rebuilt : List GpuV11SparseSpan} {item : CoactivationEvidence}
    {pending : AddLifetimeSynapse} {l₁ l₂ : List CoactivationEvidence}
    (hevidence : evidence = l₁ ++ item :: l₂)
    (h : acceptedSynapse before rebuilt item = some pending)
    (hfirst : ∀ other ∈ l₁, acceptedSynapse before rebuilt other = none)
    (hnew : item.pair ∉ (listedEdges before).map (·.pair)) :
    indexedPairs before evidence item.source item.target = some (item.region : ℕ) := by
  have hlisted : (listedEdges before).reverse.find?
      (fun edge => edge.pair = (item.source, item.target)) = none := by
    rw [List.find?_eq_none]
    intro edge hedge heq
    exact hnew (List.mem_map.2 ⟨edge, List.mem_reverse.1 hedge, of_decide_eq_true heq⟩)
  have hother : l₁.find? (fun other => other.pair = (item.source, item.target)) = none := by
    rw [List.find?_eq_none]
    intro other hother heq
    have hpair : other.pair = item.pair := of_decide_eq_true heq
    have hcongr := acceptedSynapse_isSome_congr before rebuilt hpair
    rw [hfirst other hother, h] at hcongr
    cases hcongr
  rw [indexedPairs_eq, hlisted, hevidence, List.find?_append, hother, Option.map_none,
    Option.none_or, Option.none_or, List.find?_cons_of_pos (by simp [CoactivationEvidence.pair]),
    Option.map_some]

/-- An item whose edge is new in the rebuilt spans names a synapse. -/
theorem acceptedSynapse_isSome {before : List GpuV11SparseSpan} {item : CoactivationEvidence}
    (hunder : ∀ span ∈ before, ∀ edge ∈ span.edges, edge.target = span.target)
    (hbefore : item.pair ∉ (listedEdges before).map (·.pair))
    (hrebuilt : item.pair ∈ (listedEdges (rebuiltSpans index structural)).map (·.pair))
    (hfinite : ∀ e ∈ structural.edges, e.weight.isFinite = true) :
    (acceptedSynapse before (rebuiltSpans index structural) item).isSome = true := by
  obtain ⟨edge, hedge, hpair⟩ := List.mem_map.1 hrebuilt
  obtain ⟨hs, ht⟩ := Prod.mk.inj hpair
  obtain ⟨span, hspan, hmem⟩ := List.mem_flatMap.1 hedge
  have htarget := (target_of_mem_rebuilt hspan hmem).symm.trans ht
  -- the span of a target is the only one, and so it is the one that the search finds
  have hfind : (rebuiltSpans index structural).find? (fun other => other.target = item.target) =
      some span := by
    have hsome : ((rebuiltSpans index structural).find?
        fun other => other.target = item.target).isSome = true :=
      List.find?_isSome.2 ⟨span, hspan, by simpa using htarget⟩
    obtain ⟨other, hother⟩ := Option.isSome_iff_exists.1 hsome
    have hnodup : ((rebuiltSpans index structural).map (·.target)).Nodup :=
      (pairwise_targets_rebuilt index structural).imp fun hlt => hlt.ne
    have hotarget : other.target = item.target := by simpa using List.find?_some hother
    rw [hother, List.inj_on_of_nodup_map hnodup (List.mem_of_find?_eq_some hother) hspan
      (hotarget.trans htarget.symm)]
  have hfound : (span.edges.find? fun other =>
      other.source = item.source ∧ other.target = item.target).isSome = true :=
    List.find?_isSome.2 ⟨edge, hmem, by simpa using And.intro hs ht⟩
  obtain ⟨found, hfound⟩ := Option.isSome_iff_exists.1 hfound
  have hlisted : found ∈ listedEdges (rebuiltSpans index structural) :=
    List.mem_flatMap.2 ⟨span, hspan, List.mem_of_find?_eq_some hfound⟩
  obtain ⟨e, he, hsparse⟩ := mem_listed_rebuilt.1 hlisted
  obtain ⟨-, hzero, -, -, hweight⟩ := sparseEdge_eq_some_iff.1 hsparse
  unfold acceptedSynapse
  rw [if_neg fun hany => hbefore ((pair_listed_iff hunder).1 hany), hfind, Option.bind_some, hfound,
    Option.isSome_map, Option.filter_some, if_pos]
  · rfl
  · rw [hweight, hfinite e he, hzero]
    rfl

end GpuV11CausalState

end ALife
