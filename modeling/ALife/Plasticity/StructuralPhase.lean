/-
# What a structural phase does

The loop of `apply_structural_phase` promotes the first candidates, in
`candidate_order`, of the pairs that are not connected yet, as many as the budgets
of the phase and of the edges leave room for (`promotions`,
`acceptCandidates_spec`), and then prunes (`applyStructuralPhase_spec`).  Nothing
in it can fail on a valid state.
-/

import ALife.Plasticity.StructuralContract
import Mathlib

namespace ALife

open Machine

namespace StructuralPlasticityState

variable {s s' : StructuralPlasticityState} {c : StructuralCandidate} {e : SparseConnection}

/-- All connections, in target-major order. -/
def edges (s : StructuralPlasticityState) : List SparseConnection := s.connections.values.flatten

theorem mem_edges : e ∈ s.edges ↔ ∃ row ∈ s.connections.entries, e ∈ row.2 := by
  rw [edges, OrderedMap.mem_flatten_values]

theorem Valid.mem_edges_iff (h : s.Valid) : e ∈ s.edges ↔
    ∃ row, (e.target, row) ∈ s.connections.entries ∧ e ∈ row := by
  rw [mem_edges]
  constructor
  · rintro ⟨⟨target, row⟩, hrow, he⟩
    have htarget := ((h.targetOk _ hrow).edgeOk e he).target_eq
    exact ⟨row, htarget ▸ hrow, he⟩
  · rintro ⟨row, hrow, he⟩
    exact ⟨_, hrow, he⟩

/-- A valid state has one connection for a pair at most. -/
theorem Valid.eq_of_pair_eq (h : s.Valid) {a b : SparseConnection} (ha : a ∈ s.edges)
    (hb : b ∈ s.edges) (hab : a.pair = b.pair) : a = b := by
  obtain ⟨row, hrow, har⟩ := h.mem_edges_iff.1 ha
  obtain ⟨row', hrow', hbr⟩ := h.mem_edges_iff.1 hb
  simp only [SparseConnection.pair, Prod.mk.injEq] at hab
  have heq := OrderedMap.eq_of_key_eq hrow hrow' hab.2
  obtain rfl : row = row' := (Prod.mk.inj heq).2
  have hnodup : (row.map (·.source)).Nodup :=
    List.pairwise_map.2 ((h.targetOk _ hrow).ordered.imp fun hlt => hlt.ne)
  exact List.inj_on_of_nodup_map hnodup har hbr hab.1

theorem Valid.hasConnection_iff (h : s.Valid) {source target : ℕ} :
    s.hasConnection source target = true ↔ (source, target) ∈ s.edges.map (·.pair) := by
  unfold hasConnection
  rw [Option.any_eq_true, List.mem_map]
  constructor
  · rintro ⟨row, hget, hany⟩
    obtain ⟨e, he, hsource⟩ := List.any_eq_true.1 hany
    have hrow := OrderedMap.get?_eq_some_iff.1 hget
    have htarget := ((h.targetOk _ hrow).edgeOk e he).target_eq
    refine ⟨e, mem_edges.2 ⟨_, hrow, he⟩, ?_⟩
    rw [SparseConnection.pair, htarget, of_decide_eq_true hsource]
  · rintro ⟨e, he, hpair⟩
    simp only [SparseConnection.pair, Prod.mk.injEq] at hpair
    obtain ⟨rfl, rfl⟩ := hpair
    obtain ⟨row, hrow, her⟩ := h.mem_edges_iff.1 he
    exact ⟨row, OrderedMap.get?_eq_some_iff.2 hrow, List.any_eq_true.2 ⟨e, her, by simp⟩⟩

/-! ### Candidates that go -/

theorem removeCandidate_frame (s : StructuralPlasticityState) (c : StructuralCandidate) :
    (s.removeCandidate c).neuronCount = s.neuronCount ∧ (s.removeCandidate c).config = s.config ∧
      (s.removeCandidate c).connections = s.connections ∧
      (s.removeCandidate c).lastCandidateComparisons = s.lastCandidateComparisons := by
  unfold removeCandidate
  split
  · exact ⟨rfl, rfl, rfl, rfl⟩
  · simp only
    split_ifs <;> exact ⟨rfl, rfl, rfl, rfl⟩

theorem Valid.removeCandidate (h : s.Valid) (c : StructuralCandidate) :
    (s.removeCandidate c).Valid := by
  unfold StructuralPlasticityState.removeCandidate
  split
  · exact h
  · rename_i row hget
    have hrow := OrderedMap.get?_eq_some_iff.1 hget
    simp only
    split_ifs with hnil
    · have hsize : (s.candidates.erase c.region).size ≤ s.candidates.size :=
        (List.filter_sublist).length_le
      exact ⟨h.neurons, h.config, hsize.trans h.regions, h.edges, h.comparisons,
        fun r hr => h.regionOk r (OrderedMap.mem_erase.1 hr).2, h.targetOk⟩
    · refine ⟨h.neurons, h.config, ?_, h.edges, h.comparisons, fun r hr => ?_, h.targetOk⟩
      · change (s.candidates.insert _ _).size ≤ _
        rw [OrderedMap.size_insert, if_pos (OrderedMap.contains_iff.2 ⟨row, hrow⟩)]
        exact h.regions
      · obtain rfl | ⟨-, hr⟩ := OrderedMap.mem_insert.1 hr
        · exact (h.regionOk _ hrow).sublist List.filter_sublist hnil
        · exact h.regionOk r hr

/-! ### Connections that come -/

/-- The connections under a target. -/
def edgesOf (s : StructuralPlasticityState) (target : ℕ) : List SparseConnection :=
  (s.connections.get? target).getD []

/-- The state with one connection more. -/
def inserted (s : StructuralPlasticityState) (e : SparseConnection) : StructuralPlasticityState :=
  { s with
    connections := s.connections.insert e.target
      (sortByKey (·.source) (s.edgesOf e.target ++ [e])) }

theorem edgesOf_cases (s : StructuralPlasticityState) (target : ℕ) :
    s.connections.get? target = none ∧ s.edgesOf target = [] ∨
      s.connections.get? target = some (s.edgesOf target) ∧
        (target, s.edgesOf target) ∈ s.connections.entries := by
  cases hget : s.connections.get? target with
  | none => exact Or.inl ⟨rfl, by rw [edgesOf, hget]; rfl⟩
  | some row =>
    have hrow : s.edgesOf target = row := by
      rw [edgesOf, hget]
      rfl
    rw [hrow]
    exact Or.inr ⟨rfl, OrderedMap.get?_eq_some_iff.1 hget⟩

theorem mem_edges_of_edgesOf {target : ℕ} (h : e ∈ s.edgesOf target) : e ∈ s.edges := by
  obtain ⟨-, hnil⟩ | ⟨-, hrow⟩ := s.edgesOf_cases target
  · rw [hnil] at h
    exact absurd h List.not_mem_nil
  · exact mem_edges.2 ⟨_, hrow, h⟩

theorem Valid.edgesOf (h : s.Valid) (target : ℕ) :
    (∀ a ∈ s.edgesOf target, EdgeOk s.neuronCount target a) ∧
      ((s.edgesOf target).map (·.source)).Nodup := by
  obtain ⟨-, hnil⟩ | ⟨-, hrow⟩ := s.edgesOf_cases target
  · rw [hnil]
    exact ⟨fun a ha => absurd ha List.not_mem_nil, List.nodup_nil⟩
  · exact ⟨(h.targetOk _ hrow).edgeOk,
      List.pairwise_map.2 ((h.targetOk _ hrow).ordered.imp fun hlt => hlt.ne)⟩

theorem insertConnection_apply (h : ∀ a ∈ s.edgesOf e.target, a.source ≠ e.source) :
    insertConnection e s = .ok () (s.inserted e) := by
  have hfree : ¬∃ a ∈ (s.connections.get? e.target).getD [], a.source = e.source :=
    fun ⟨a, ha, hsource⟩ => h a ha hsource
  unfold insertConnection
  rw [bind_apply, get_apply]
  simp only [failIf, hfree, if_false, bind_apply, ofResult_ok, set_apply]
  rfl

theorem mem_edges_inserted {a : SparseConnection} :
    a ∈ (s.inserted e).edges ↔ a = e ∨ a ∈ s.edges := by
  have hrest : a ∈ s.edges ↔ a ∈ s.edgesOf e.target ∨
      ∃ row ∈ s.connections.entries, row.1 ≠ e.target ∧ a ∈ row.2 := by
    constructor
    · intro ha
      obtain ⟨row, hrow, har⟩ := mem_edges.1 ha
      by_cases hkey : row.1 = e.target
      · obtain ⟨hget, -⟩ | ⟨-, hold⟩ := s.edgesOf_cases e.target
        · exact absurd hkey (OrderedMap.get?_eq_none_iff.1 hget row hrow)
        · rw [OrderedMap.eq_of_key_eq hrow hold hkey] at har
          exact Or.inl har
      · exact Or.inr ⟨row, hrow, hkey, har⟩
    · rintro (ha | ⟨row, hrow, -, har⟩)
      · exact mem_edges_of_edgesOf ha
      · exact mem_edges.2 ⟨row, hrow, har⟩
  rw [mem_edges, hrest]
  constructor
  · rintro ⟨row, hrow, har⟩
    obtain rfl | ⟨hkey, hrow⟩ := OrderedMap.mem_insert.1 hrow
    · obtain har | har := List.mem_append.1 (mem_sortByKey.1 har)
      · exact Or.inr (Or.inl har)
      · exact Or.inl (List.mem_singleton.1 har)
    · exact Or.inr (Or.inr ⟨row, hrow, hkey, har⟩)
  · have hnew : (e.target, sortByKey (·.source) (s.edgesOf e.target ++ [e])) ∈
        (s.inserted e).connections.entries := OrderedMap.mem_insert.2 (Or.inl rfl)
    rintro (rfl | ha | ⟨row, hrow, hkey, har⟩)
    · exact ⟨_, hnew, mem_sortByKey.2 (by simp)⟩
    · exact ⟨_, hnew, mem_sortByKey.2 (List.mem_append_left _ ha)⟩
    · exact ⟨row, OrderedMap.mem_insert.2 (Or.inr ⟨hkey, hrow⟩), har⟩

theorem connectionCount_inserted (s : StructuralPlasticityState) (e : SparseConnection) :
    (s.inserted e).connectionCount = s.connectionCount + 1 := by
  have htotal := OrderedMap.total_insert List.length (m := s.connections) (k := e.target)
    (v := sortByKey (·.source) (s.edgesOf e.target ++ [e]))
  have hlength := (sortByKey_perm (·.source) (s.edgesOf e.target ++ [e])).length_eq
  rw [List.length_append, List.length_singleton] at hlength
  change (s.connections.insert _ _).total List.length = s.connections.total List.length + 1
  obtain ⟨hget, hnil⟩ | ⟨hget, -⟩ := s.edgesOf_cases e.target
  · rw [hget, Option.map_none, Option.getD_none] at htotal
    rw [hnil, List.length_nil] at hlength
    rw [hnil] at htotal ⊢
    omega
  · rw [hget, Option.map_some, Option.getD_some] at htotal
    omega

/-- A connection between two neurons of the state that are not connected yet keeps the
state valid. -/
theorem Valid.inserted (h : s.Valid) (he : EdgeOk s.neuronCount e.target e)
    (htarget : e.target < s.neuronCount) (hnew : ∀ a ∈ s.edgesOf e.target, a.source ≠ e.source)
    (hroom : s.connectionCount < s.config.maxStructuralEdges) : (s.inserted e).Valid := by
  obtain ⟨hok, hnodup⟩ := h.edgesOf e.target
  have hperm := sortByKey_perm (fun a : SparseConnection => a.source) (s.edgesOf e.target ++ [e])
  refine ⟨h.neurons, h.config, h.regions, ?_, h.comparisons, h.regionOk, fun row hrow => ?_⟩
  · rw [connectionCount_inserted]
    exact hroom
  · obtain rfl | ⟨-, hrow⟩ := OrderedMap.mem_insert.1 hrow
    · refine ⟨htarget, fun hnil => ?_, fun a ha => ?_, ?_⟩
      · exact absurd (hperm.symm.trans (List.Perm.of_eq hnil)).eq_nil (by simp)
      · obtain ha | ha := List.mem_append.1 (mem_sortByKey.1 ha)
        · exact hok a ha
        · rwa [List.mem_singleton.1 ha]
      · have hdistinct : ((sortByKey (fun a : SparseConnection => a.source)
            (s.edgesOf e.target ++ [e])).map (·.source)).Nodup := by
          refine (hperm.map _).nodup_iff.2 ?_
          rw [List.map_append, List.map_singleton, ← List.concat_eq_append]
          refine hnodup.concat fun hmem => ?_
          obtain ⟨a, ha, hsource⟩ := List.mem_map.1 hmem
          exact hnew a ha hsource
        exact ((pairwise_sortByKey _ _).and (List.pairwise_map.1 hdistinct)).imp
          fun hab => lt_of_le_of_ne hab.1 hab.2
    · exact h.targetOk row hrow

/-! ### The loop of the phase -/

/-- The first candidate of each pair. -/
def firstOfPairs : List StructuralCandidate → List StructuralCandidate
  | [] => []
  | c :: l => c :: (firstOfPairs l).filter fun a => a.pair ≠ c.pair

/-- The candidates that a phase promotes from a list in candidate order: the first of each
pair that is not connected, as many as there is room for. -/
def promotions (s : StructuralPlasticityState) (room : ℕ) (l : List StructuralCandidate) :
    List StructuralCandidate :=
  (firstOfPairs (l.filter fun c => ∀ e ∈ s.edges, e.pair ≠ c.pair)).take room

theorem firstOfPairs_filter (p : ℕ × ℕ → Bool) (l : List StructuralCandidate) :
    firstOfPairs (l.filter fun c => p c.pair) = (firstOfPairs l).filter fun c => p c.pair := by
  induction l with
  | nil => rfl
  | cons c l ih =>
    by_cases hc : p c.pair = true
    · rw [List.filter_cons_of_pos (by exact hc), firstOfPairs, firstOfPairs,
        List.filter_cons_of_pos (by exact hc), ih, List.filter_comm]
    · rw [List.filter_cons_of_neg (by exact hc), firstOfPairs,
        List.filter_cons_of_neg (by exact hc), ih, List.filter_filter]
      refine List.filter_congr fun a _ => ?_
      by_cases ha : p a.pair = true
      · have hne : a.pair ≠ c.pair := fun heq => hc (heq ▸ ha)
        simp [ha, hne]
      · simp [ha]

theorem mem_of_mem_firstOfPairs {l : List StructuralCandidate} (h : c ∈ firstOfPairs l) :
    c ∈ l := by
  induction l with
  | nil => exact h
  | cons a l ih =>
    obtain rfl | h := List.mem_cons.1 h
    · exact List.mem_cons_self ..
    · exact List.mem_cons_of_mem _ (ih (List.mem_filter.1 h).1)

theorem mem_promotions {room : ℕ} {l : List StructuralCandidate} (h : c ∈ s.promotions room l) :
    c ∈ l ∧ c.pair ∉ s.edges.map (·.pair) := by
  have hmem := mem_of_mem_firstOfPairs (List.mem_of_mem_take h)
  refine ⟨(List.mem_filter.1 hmem).1, fun hpair => ?_⟩
  obtain ⟨e, he, hpair⟩ := List.mem_map.1 hpair
  exact of_decide_eq_true (List.mem_filter.1 hmem).2 e he hpair

/-- A candidate between connected neurons is passed over. -/
theorem promotions_cons_of_connected {room : ℕ} {l : List StructuralCandidate}
    (h : c.pair ∈ s.edges.map (·.pair)) : s.promotions room (c :: l) = s.promotions room l := by
  unfold promotions
  rw [List.filter_cons_of_neg (by simpa using h)]

/-- A candidate between neurons that are not connected is promoted when there is room, and
its pair counts as connected for the rest. -/
theorem promotions_cons_of_not_connected {room : ℕ} {l : List StructuralCandidate}
    (h : c.pair ∉ s.edges.map (·.pair))
    (hedges : ∀ p, p ∈ s'.edges.map (·.pair) ↔ p = c.pair ∨ p ∈ s.edges.map (·.pair)) :
    s.promotions (room + 1) (c :: l) = c :: s'.promotions room l := by
  unfold promotions
  rw [List.filter_cons_of_pos (by simpa using h), firstOfPairs, List.take_succ_cons,
    ← firstOfPairs_filter (fun p => p ≠ c.pair), List.filter_filter]
  congr 3
  refine List.filter_congr fun a _ => ?_
  have hfree : (∀ e ∈ s'.edges, e.pair ≠ a.pair) ↔
      a.pair ≠ c.pair ∧ ∀ e ∈ s.edges, e.pair ≠ a.pair := by
    simpa [List.mem_map, not_or] using not_congr (hedges a.pair)
  rw [← Bool.decide_and, decide_eq_decide]
  exact hfree.symm

/-- A candidate that a valid state holds under some region. -/
def Holds (s : StructuralPlasticityState) (c : StructuralCandidate) : Prop :=
  CandidateOk s.neuronCount s.config c.region c

theorem mem_orderedCandidates : c ∈ s.orderedCandidates ↔
    ∃ row ∈ s.candidates.entries, c ∈ row.2 := by
  rw [orderedCandidates, mem_sortByKey, OrderedMap.mem_flatten_values]

theorem Valid.holds (h : s.Valid) (hc : c ∈ s.orderedCandidates) : s.Holds c := by
  obtain ⟨row, hrow, hcr⟩ := mem_orderedCandidates.1 hc
  have hok := (h.regionOk row hrow).candidateOk c hcr
  rw [Holds, hok.region_eq]
  exact hok

theorem edgeOk_connectionOf (h : s.Holds c) : EdgeOk s.neuronCount c.target (connectionOf c) :=
  ⟨rfl, h.source_lt, h.distinct, rfl⟩

/-- What the loop has left to take, given what it took. -/
def room (s : StructuralPlasticityState) (accepted : ℕ) : ℕ :=
  min (s.config.maxAcceptedPerPhase - accepted) (s.config.maxStructuralEdges - s.connectionCount)

/-- What a state and a later one have in common, but for the promoted connections. -/
structure Grown (s s' : StructuralPlasticityState) (promoted : List StructuralCandidate) :
    Prop where
  valid : s'.Valid
  neuronCount : s'.neuronCount = s.neuronCount
  config : s'.config = s.config
  comparisons : s'.lastCandidateComparisons = s.lastCandidateComparisons
  count : s'.connectionCount = s.connectionCount + promoted.length
  edges : ∀ e, e ∈ s'.edges ↔ e ∈ s.edges ∨ e ∈ promoted.map connectionOf

theorem Grown.removeCandidate (h : s.Valid) (c : StructuralCandidate) :
    Grown s (s.removeCandidate c) [] := by
  obtain ⟨hn, hconfig, hconnections, hlast⟩ := removeCandidate_frame s c
  refine ⟨h.removeCandidate c, hn, hconfig, hlast, ?_, fun e => ?_⟩
  · rw [connectionCount, hconnections]
    rfl
  · rw [StructuralPlasticityState.edges, hconnections, List.map_nil]
    exact (or_iff_left List.not_mem_nil).symm

theorem Grown.trans {t : StructuralPlasticityState} {p q : List StructuralCandidate}
    (h : Grown s s' p) (h' : Grown s' t q) : Grown s t (p ++ q) := by
  refine ⟨h'.valid, h'.neuronCount.trans h.neuronCount, h'.config.trans h.config,
    h'.comparisons.trans h.comparisons, ?_, fun e => ?_⟩
  · rw [h'.count, h.count, List.length_append, Nat.add_assoc]
  · rw [h'.edges, h.edges, List.map_append, List.mem_append, or_assoc]

/-- The promotion of a candidate between neurons that are not connected. -/
theorem Valid.grown_promote (h : s.Valid) (hc : s.Holds c)
    (hnew : c.pair ∉ s.edges.map (·.pair))
    (hroom : s.connectionCount < s.config.maxStructuralEdges) :
    insertConnection (connectionOf c) s = .ok () (s.inserted (connectionOf c)) ∧
      Grown s ((s.inserted (connectionOf c)).removeCandidate c) [c] := by
  have hfree : ∀ a ∈ s.edgesOf (connectionOf c).target, a.source ≠ (connectionOf c).source := by
    intro a ha hsource
    refine hnew (List.mem_map.2 ⟨a, mem_edges_of_edgesOf ha, ?_⟩)
    rw [SparseConnection.pair, ((h.edgesOf _).1 a ha).target_eq, hsource]
    rfl
  have hvalid := h.inserted (edgeOk_connectionOf hc) hc.target_lt hfree hroom
  refine ⟨insertConnection_apply hfree, ?_⟩
  have hinserted : Grown s (s.inserted (connectionOf c)) [c] :=
    ⟨hvalid, rfl, rfl, rfl, connectionCount_inserted _ _, fun e => by
      rw [mem_edges_inserted, List.map_singleton, List.mem_singleton, or_comm]⟩
  exact hinserted.trans (Grown.removeCandidate hvalid c)

/-- **The loop** promotes the promotions and nothing else, and does not fail. -/
theorem acceptCandidates_spec {l : List StructuralCandidate} (accepted : ℕ) (h : s.Valid)
    (hl : ∀ c ∈ l, s.Holds c) :
    ∃ s', acceptCandidates l accepted s =
        .ok (accepted + (s.promotions (s.room accepted) l).length) s' ∧
      Grown s s' (s.promotions (s.room accepted) l) := by
  induction l generalizing s accepted with
  | nil =>
    have hnil : s.promotions (s.room accepted) [] = [] := List.take_nil
    rw [hnil]
    exact ⟨s, rfl, h, rfl, rfl, rfl, rfl, fun e => by simp⟩
  | cons c l ih =>
    rw [List.forall_mem_cons] at hl
    obtain ⟨hc, hl⟩ := hl
    rw [acceptCandidates, bind_apply, get_apply]
    simp only
    by_cases hfull : s.config.maxAcceptedPerPhase ≤ accepted ∨
        s.config.maxStructuralEdges ≤ s.connectionCount
    · have hroom : s.room accepted = 0 := by
        unfold room
        omega
      rw [if_pos hfull, hroom]
      exact ⟨s, rfl, h, rfl, rfl, rfl, rfl, fun e => by simp [promotions]⟩
    rw [if_neg hfull]
    by_cases hconnected : s.hasConnection c.source c.target = true
    · have hgrown := Grown.removeCandidate h c
      rw [if_pos hconnected, bind_apply, set_apply,
        promotions_cons_of_connected (h.hasConnection_iff.1 hconnected)]
      have hl' : ∀ a ∈ l, (s.removeCandidate c).Holds a := by
        intro a ha
        rw [Holds, hgrown.neuronCount, hgrown.config]
        exact hl a ha
      obtain ⟨s', hrun, hs'⟩ := ih accepted hgrown.valid hl'
      have hroom : (s.removeCandidate c).room accepted = s.room accepted := by
        rw [room, room, hgrown.config, hgrown.count]
        rfl
      have hpromotions : (s.removeCandidate c).promotions (s.room accepted) l =
          s.promotions (s.room accepted) l := by
        rw [promotions, promotions, StructuralPlasticityState.edges,
          (removeCandidate_frame s c).2.2.1]
        rfl
      rw [hroom, hpromotions] at hrun hs'
      exact ⟨s', hrun, hgrown.trans hs'⟩
    · have hnew : c.pair ∉ s.edges.map (·.pair) := fun hmem =>
        hconnected (h.hasConnection_iff.2 hmem)
      obtain ⟨hinsert, hgrown⟩ := h.grown_promote hc hnew (by omega)
      rw [if_neg hconnected, scoreToWeight_le_zero hc.score_pos, if_neg Bool.false_ne_true,
        bind_apply, hinsert]
      simp only
      rw [bind_apply]
      have hl' : ∀ a ∈ l, ((s.inserted (connectionOf c)).removeCandidate c).Holds a := by
        intro a ha
        rw [Holds, hgrown.neuronCount, hgrown.config]
        exact hl a ha
      obtain ⟨s', hrun, hs'⟩ := ih (accepted + 1) hgrown.valid hl'
      have hroom : s.room accepted =
          ((s.inserted (connectionOf c)).removeCandidate c).room (accepted + 1) + 1 := by
        rw [room, room, hgrown.config, hgrown.count, List.length_singleton]
        omega
      have hpairs : ∀ p, p ∈ ((s.inserted (connectionOf c)).removeCandidate c).edges.map (·.pair) ↔
          p = c.pair ∨ p ∈ s.edges.map (·.pair) := by
        intro p
        simp only [List.mem_map, hgrown.edges, List.map_singleton, List.mem_singleton, or_and_right,
          exists_or, exists_eq_left]
        rw [or_comm]
        exact or_congr_left eq_comm
      rw [hroom, promotions_cons_of_not_connected hnew hpairs, List.length_cons]
      refine ⟨s', ?_, hgrown.trans hs'⟩
      rw [← Nat.add_assoc, Nat.add_right_comm]
      exact hrun

/-! ### The phase -/

theorem pruneWeakConnections_count (s : StructuralPlasticityState) :
    s.pruneWeakConnections.1.connectionCount + s.pruneWeakConnections.2 = s.connectionCount := by
  have hkept := OrderedMap.total_mapValues_add (f := List.length)
    (g := fun edges => edges.length - (s.keptEdges edges).length) (h := List.length)
    (t := s.keptEdges) (fun edges => by
      have : (s.keptEdges edges).length ≤ edges.length := List.length_filter_le _ _
      omega) s.connections
  have hrows : ((s.connections.mapValues s.keptEdges).filter fun row => row.2 ≠ []).total
      List.length = (s.connections.mapValues s.keptEdges).total List.length :=
    OrderedMap.total_filter (fun row hrow => by
      rw [decide_eq_false_iff_not, ne_eq, not_not] at hrow
      rw [hrow, List.length_nil]) _
  exact (congrArg (· + _) hrows).trans hkept

theorem mem_pruned {row : ℕ × List SparseConnection} :
    row ∈ s.pruneWeakConnections.1.connections.entries ↔
      row.2 ≠ [] ∧ ∃ old, (row.1, old) ∈ s.connections.entries ∧ row.2 = s.keptEdges old := by
  change row ∈ (((s.connections.entries.map fun e => (e.1, s.keptEdges e.2)).filter
    fun row => row.2 ≠ [])) ↔ _
  rw [List.mem_filter, List.mem_map, decide_eq_true_iff, and_comm]
  refine and_congr_right' ?_
  constructor
  · rintro ⟨e, he, rfl⟩
    exact ⟨e.2, he, rfl⟩
  · rintro ⟨old, hold, heq⟩
    exact ⟨_, hold, Prod.ext rfl heq.symm⟩

theorem Valid.pruned (h : s.Valid) : s.pruneWeakConnections.1.Valid := by
  have hcount := s.pruneWeakConnections_count
  have hle := h.edges
  refine ⟨h.neurons, h.config, h.regions, ?_, h.comparisons, h.regionOk, fun row hrow => ?_⟩
  · change s.pruneWeakConnections.1.connectionCount ≤ s.config.maxStructuralEdges
    omega
  · obtain ⟨hne, old, hold, hkept⟩ := mem_pruned.1 hrow
    have hsub : row.2.Sublist old := hkept ▸ List.filter_sublist
    exact (h.targetOk _ hold).sublist hsub hne

theorem mem_edges_pruned :
    e ∈ s.pruneWeakConnections.1.edges ↔ e ∈ s.edges ∧ s.config.pruneScoreBelow ≤ e.score := by
  rw [mem_edges, mem_edges]
  constructor
  · rintro ⟨row, hrow, he⟩
    obtain ⟨-, old, hold, hkept⟩ := mem_pruned.1 hrow
    rw [hkept, keptEdges, List.mem_filter, decide_eq_true_iff] at he
    exact ⟨⟨_, hold, he.1⟩, he.2⟩
  · rintro ⟨⟨row, hrow, he⟩, hscore⟩
    have hmem : e ∈ s.keptEdges row.2 := List.mem_filter.2 ⟨he, decide_eq_true hscore⟩
    exact ⟨(row.1, s.keptEdges row.2),
      mem_pruned.2 ⟨List.ne_nil_of_mem hmem, row.2, hrow, rfl⟩, hmem⟩

/-- The candidates that the phase promotes. -/
def promoted (s : StructuralPlasticityState) : List StructuralCandidate :=
  s.promotions (s.room 0) s.orderedCandidates

/-- The state that the phase leaves, given what its loop left. -/
def settled (grown : StructuralPlasticityState) : StructuralPlasticityState :=
  { grown.pruneWeakConnections.1 with lastCandidateComparisons := 0 }

/-- The receipt of the phase, given what its loop left. -/
def phaseReceipt (s grown : StructuralPlasticityState) : StructuralWorkReceipt where
  candidateComparisons := s.lastCandidateComparisons
  candidatesKept := grown.settled.candidateCount % 2 ^ 16
  acceptedEdges := s.promoted.length % 2 ^ 16
  prunedEdges := grown.pruneWeakConnections.2 % 2 ^ 16
  activeEdges := grown.settled.connectionCount % 2 ^ 16
  deterministicDigest := grown.settled.deterministicDigest

theorem Valid.settled (h : s.Valid) : s.settled.Valid :=
  ⟨h.pruned.neurons, h.pruned.config, h.pruned.regions, h.pruned.edges, Nat.zero_le _,
    h.pruned.regionOk, h.pruned.targetOk⟩

/-- The phase does not fail; it promotes, and then prunes. -/
theorem Valid.applyStructuralPhase (h : s.Valid) :
    ∃ grown, Grown s grown s.promoted ∧
      acceptCandidates s.orderedCandidates 0 s = .ok s.promoted.length grown ∧
      applyStructuralPhase s = .ok (s.phaseReceipt grown) grown.settled := by
  obtain ⟨grown, hrun, hgrown⟩ := acceptCandidates_spec 0 h fun c hc => h.holds hc
  rw [Nat.zero_add] at hrun
  refine ⟨grown, hgrown, hrun, ?_⟩
  unfold StructuralPlasticityState.applyStructuralPhase
  rw [bind_apply, get_apply]
  simp only
  rw [bind_apply, hrun]
  rfl

theorem Valid.candidateCount_le (h : s.Valid) :
    s.candidateCount ≤ maxRegionsPerState * maxCandidatesPerRegion := by
  have hrow : ∀ row ∈ s.candidates.entries, row.2.length ≤ maxCandidatesPerRegion :=
    fun row hrow => (h.regionOk row hrow).bounded.trans h.config.candidates_le
  exact (OrderedMap.total_le hrow).trans
    (Nat.mul_le_mul_right _ (h.regions.trans h.config.regions_le))

end StructuralPlasticityState

end ALife
