/-
# What the structural contract says, and that discovery keeps it

`validate_contract` accepts a state exactly when it is `Valid`
(`validateContract_eq_ok_iff`): rows of candidates that are bounded, ordered and
without a repeated pair, rows of connections that ascend by source, and counts
within the budgets.  The evidence of a phase is noted item by item; each item
rewrites the row of its region and keeps it a good row (`regionOk_discoverItem`),
and the order in which the evidence came does not matter (`discovered_of_perm`).
-/

import ALife.Plasticity.Structural

namespace ALife

open Machine

/-- The bounds that `validate` checks. -/
structure StructuralPlasticityConfig.Within (config : StructuralPlasticityConfig) : Prop where
  candidates_pos : 0 < config.maxCandidatesPerRegion
  candidates_le : config.maxCandidatesPerRegion ≤ ALife.maxCandidatesPerRegion
  regions_pos : 0 < config.maxRegions
  regions_le : config.maxRegions ≤ maxRegionsPerState
  accepted_pos : 0 < config.maxAcceptedPerPhase
  accepted_le : config.maxAcceptedPerPhase ≤ ALife.maxAcceptedPerPhase
  edges_pos : 0 < config.maxStructuralEdges
  edges_le : config.maxStructuralEdges ≤ ALife.maxStructuralEdges

theorem StructuralPlasticityConfig.validate_eq_ok_iff {config : StructuralPlasticityConfig}
    {u : Unit} : config.validate = .ok u ↔ config.Within := by
  simp only [validate, failIf_eq_ok_iff, not_or, not_lt, ← ne_eq, ← Nat.pos_iff_ne_zero]
  constructor
  · rintro ⟨h₁, h₂, h₃, h₄, h₅, h₆, h₇, h₈⟩
    exact ⟨h₁, h₂, h₃, h₄, h₅, h₆, h₇, h₈⟩
  · rintro ⟨h₁, h₂, h₃, h₄, h₅, h₆, h₇, h₈⟩
    exact ⟨h₁, h₂, h₃, h₄, h₅, h₆, h₇, h₈⟩

/-! ### Scores and weights -/

theorem satAdd_eq_zero_iff {a b : ℕ} : satAdd a b = 0 ↔ a = 0 ∧ b = 0 := by
  unfold satAdd
  omega

/-- More evidence never lowers a score. -/
theorem satAdd_score_le (a b c i j k : ℕ) :
    satAdd (satAdd a b) c ≤ satAdd (satAdd (satAdd a i) (satAdd b j)) (satAdd c k) := by
  unfold satAdd
  omega

/-- A weight is finite, and positive as soon as its score is. -/
theorem scoreToWeight_spec (score : ℕ) : (scoreToWeight score).isFinite = true ∧
    (scoreToWeight score).isNan = false ∧ (0 < score → 0 < (scoreToWeight score).key) := by
  unfold scoreToWeight maxWeightScore
  obtain rfl | hpos := Nat.eq_zero_or_pos score
  · decide
  · obtain ⟨hfin, hnan, hkey⟩ :=
      F32.key_ofQuotient (n := min score 1000) (d := 1000) (by omega) (by omega) (by decide)
    exact ⟨hfin, hnan, fun _ => hkey⟩

/-- The test `weight <= 0.0` of the phase. -/
theorem scoreToWeight_le_zero {score : ℕ} (h : 0 < score) :
    (scoreToWeight score).le F32.zero = false := by
  obtain ⟨-, -, hkey⟩ := scoreToWeight_spec score
  have hzero : F32.zero.key = 0 := by decide
  have := hkey h
  simp only [F32.le, hzero, Bool.and_eq_false_iff, decide_eq_false_iff_not]
  exact Or.inr (by omega)

/-! ### Good rows -/

/-- A candidate that the contract accepts in a region. -/
structure CandidateOk (n : ℕ) (config : StructuralPlasticityConfig) (region : U16)
    (c : StructuralCandidate) : Prop where
  region_eq : c.region = region
  source_lt : c.source < n
  target_lt : c.target < n
  distinct : c.source ≠ c.target
  evidence : ¬(c.coactivation = 0 ∧ c.eligibility = 0)
  score_eq : c.score = candidateScore c
  enough : config.minCandidateScore ≤ c.score

/-- A row of candidates that the contract accepts. -/
structure RegionOk (n : ℕ) (config : StructuralPlasticityConfig)
    (row : U16 × List StructuralCandidate) : Prop where
  nonempty : row.2 ≠ []
  bounded : row.2.length ≤ config.maxCandidatesPerRegion
  candidateOk : ∀ c ∈ row.2, CandidateOk n config row.1 c
  pairs : (row.2.map (·.pair)).Nodup
  ordered : row.2.Pairwise fun a b => candidateKey a ≤ candidateKey b

/-- A connection that the contract accepts under a target. -/
structure EdgeOk (n target : ℕ) (edge : SparseConnection) : Prop where
  target_eq : edge.target = target
  source_lt : edge.source < n
  distinct : edge.source ≠ edge.target
  weight_eq : edge.weight = scoreToWeight edge.score

/-- A row of connections that the contract accepts. -/
structure TargetOk (n : ℕ) (row : ℕ × List SparseConnection) : Prop where
  target_lt : row.1 < n
  nonempty : row.2 ≠ []
  edgeOk : ∀ edge ∈ row.2, EdgeOk n row.1 edge
  ordered : row.2.Pairwise fun a b => a.source < b.source

theorem CandidateOk.score_pos {n : ℕ} {config : StructuralPlasticityConfig} {region : U16}
    {c : StructuralCandidate} (h : CandidateOk n config region c) : 0 < c.score := by
  have := h.evidence
  rw [h.score_eq, Nat.pos_iff_ne_zero, candidateScore, ne_eq, satAdd_eq_zero_iff,
    satAdd_eq_zero_iff]
  tauto

/-- Some of the candidates of a good row are a good row. -/
theorem RegionOk.sublist {n : ℕ} {config : StructuralPlasticityConfig}
    {row : U16 × List StructuralCandidate} (h : RegionOk n config row)
    {kept : List StructuralCandidate} (hsub : kept.Sublist row.2) (hne : kept ≠ []) :
    RegionOk n config (row.1, kept) where
  nonempty := hne
  bounded := hsub.length_le.trans h.bounded
  candidateOk c hc := h.candidateOk c (hsub.subset hc)
  pairs := h.pairs.sublist (hsub.map _)
  ordered := h.ordered.sublist hsub

/-- Some of the connections of a good row are a good row. -/
theorem TargetOk.sublist {n : ℕ} {row : ℕ × List SparseConnection} (h : TargetOk n row)
    {kept : List SparseConnection} (hsub : kept.Sublist row.2) (hne : kept ≠ []) :
    TargetOk n (row.1, kept) where
  target_lt := h.target_lt
  nonempty := hne
  edgeOk edge he := h.edgeOk edge (hsub.subset he)
  ordered := h.ordered.sublist hsub

namespace StructuralPlasticityState

variable {s : StructuralPlasticityState}

/-- What `validate_contract` accepts. -/
structure Valid (s : StructuralPlasticityState) : Prop where
  neurons : 0 < s.neuronCount
  config : s.config.Within
  regions : s.candidates.size ≤ s.config.maxRegions
  edges : s.connectionCount ≤ s.config.maxStructuralEdges
  comparisons : s.lastCandidateComparisons ≤ maxEvidencePerPhase * maxCandidatesPerRegion
  regionOk : ∀ row ∈ s.candidates.entries, RegionOk s.neuronCount s.config row
  targetOk : ∀ row ∈ s.connections.entries, TargetOk s.neuronCount row

theorem checkCandidate_eq_ok_iff {region : U16} (pre : List StructuralCandidate)
    {c : StructuralCandidate} {t : List (ℕ × ℕ)} :
    s.checkCandidate region (pre.map (·.pair)) c = .ok t ↔
      (CandidateOk s.neuronCount s.config region c ∧ c.pair ∉ pre.map (·.pair)) ∧
        (pre ++ [c]).map (·.pair) = t := by
  simp only [checkCandidate, except_seq_eq_ok_iff, failIf_eq_ok_iff, not_or, not_le, not_lt,
    ne_eq, not_not, Except.ok.injEq, List.map_append, List.map_singleton]
  refine and_congr_left' ?_
  constructor
  · rintro ⟨h₁, h₂, h₃, h₄, h₅, h₆, h₇, h₈⟩
    exact ⟨⟨h₁, h₂, h₃, h₄, h₅, h₆, h₇⟩, h₈⟩
  · rintro ⟨⟨h₁, h₂, h₃, h₄, h₅, h₆, h₇⟩, h₈⟩
    exact ⟨h₁, h₂, h₃, h₄, h₅, h₆, h₇, h₈⟩

theorem candidateOrder_gt_iff {a b : StructuralCandidate} :
    decide (candidateOrder a b = .gt) = false ↔ candidateKey a ≤ candidateKey b := by
  rw [decide_eq_false_iff_not, candidateOrder, compare_gt_iff_gt, not_lt]

theorem checkRegion_eq_ok_iff {row : U16 × List StructuralCandidate} {u : Unit} :
    s.checkRegion row = .ok u ↔ RegionOk s.neuronCount s.config row := by
  have hkeys : IsTrans StructuralCandidate fun a b => candidateKey a ≤ candidateKey b :=
    ⟨fun a b c => le_trans⟩
  have hloop (t : List (ℕ × ℕ)) : row.2.foldlM (s.checkCandidate row.1) [] = .ok t ↔ _ :=
    foldlM_eq_ok_iff (g := fun pre => pre.map (·.pair))
      fun pre c t => checkCandidate_eq_ok_iff pre
  have hpair (a b : StructuralCandidate) : decide (candidateOrder a b = .gt) = false ↔
      candidateKey a ≤ candidateKey b := candidateOrder_gt_iff
  have hwindows : ((row.2.zip row.2.tail).any fun pair =>
      candidateOrder pair.1 pair.2 = .gt) = false ↔
        row.2.Pairwise fun a b => candidateKey a ≤ candidateKey b :=
    not_any_windows_iff hpair
  simp only [checkRegion, except_bind_eq_ok_iff, failIf_eq_ok_iff, not_or, not_lt,
    Bool.not_eq_true, hwindows, hloop, imp_and, forall_and,
    forall_prefix_mem_iff (P := CandidateOk s.neuronCount s.config row.1),
    forall_prefix_notMem_iff]
  constructor
  · rintro ⟨_, ⟨hne, hlen⟩, _, ⟨⟨hall, hpairs⟩, -⟩, hord⟩
    exact ⟨hne, hlen, hall, hpairs, hord⟩
  · rintro ⟨hne, hlen, hall, hpairs, hord⟩
    exact ⟨(), ⟨hne, hlen⟩, _, ⟨⟨hall, hpairs⟩, rfl⟩, hord⟩

theorem checkEdge_eq_ok_iff {target : ℕ} {edge : SparseConnection} {u : Unit} :
    s.checkEdge target edge = .ok u ↔ EdgeOk s.neuronCount target edge := by
  have hbits : edge.weight.bits = (scoreToWeight edge.score).bits ↔
      edge.weight = scoreToWeight edge.score := by
    cases edge.weight
    cases scoreToWeight edge.score
    simp
  simp only [checkEdge, failIf_eq_ok_iff, not_or, not_le, ne_eq, not_not, hbits,
    Bool.not_eq_false]
  constructor
  · rintro ⟨h₁, h₂, h₃, -, h₅⟩
    exact ⟨h₁, h₂, h₃, h₅⟩
  · rintro ⟨h₁, h₂, h₃, h₅⟩
    exact ⟨h₁, h₂, h₃, h₅ ▸ (scoreToWeight_spec edge.score).1, h₅⟩

theorem checkTarget_eq_ok_iff {row : ℕ × List SparseConnection} {u : Unit} :
    s.checkTarget row = .ok u ↔ TargetOk s.neuronCount row := by
  have hsources : IsTrans SparseConnection fun a b => a.source < b.source :=
    ⟨fun a b c => lt_trans⟩
  have hpair (a b : SparseConnection) : decide (b.source ≤ a.source) = false ↔
      a.source < b.source := by
    rw [decide_eq_false_iff_not, not_le]
  have hwindows : ((row.2.zip row.2.tail).any fun pair => pair.2.source ≤ pair.1.source) = false ↔
      row.2.Pairwise fun a b => a.source < b.source :=
    not_any_windows_iff hpair
  simp only [checkTarget, except_seq_eq_ok_iff, failIf_eq_ok_iff, not_or, not_le,
    Bool.not_eq_true, hwindows, foldlM_unit_eq_ok_iff, checkEdge_eq_ok_iff]
  constructor
  · rintro ⟨⟨hlt, hne⟩, hall, hord⟩
    exact ⟨hlt, hne, hall, hord⟩
  · rintro ⟨hlt, hne, hall, hord⟩
    exact ⟨⟨hlt, hne⟩, hall, hord⟩

/-- **The contract**, as a property of the state. -/
theorem validateContract_eq_ok_iff {u : Unit} : s.validateContract = .ok u ↔ s.Valid := by
  simp only [validateContract, except_seq_eq_ok_iff, failIf_eq_ok_iff,
    StructuralPlasticityConfig.validate_eq_ok_iff, foldlM_unit_eq_ok_iff, checkRegion_eq_ok_iff,
    checkTarget_eq_ok_iff, not_or, not_lt, ← ne_eq, ← Nat.pos_iff_ne_zero]
  constructor
  · rintro ⟨h₁, h₂, ⟨h₃, h₄, h₅⟩, h₆, h₇⟩
    exact ⟨h₁, h₂, h₃, h₄, h₅, h₆, h₇⟩
  · rintro ⟨h₁, h₂, h₃, h₄, h₅, h₆, h₇⟩
    exact ⟨h₁, h₂, ⟨h₃, h₄, h₅⟩, h₆, h₇⟩

theorem valid_of_new {n : ℕ} {config : StructuralPlasticityConfig} (h : new n config = .ok s) :
    s.Valid := by
  simp only [new, except_seq_eq_ok_iff, failIf_eq_ok_iff,
    StructuralPlasticityConfig.validate_eq_ok_iff, Except.ok.injEq] at h
  obtain ⟨hn, hconfig, rfl⟩ := h
  exact ⟨Nat.pos_of_ne_zero hn, hconfig, Nat.zero_le _, Nat.zero_le _, Nat.zero_le _,
    fun row hrow => absurd hrow List.not_mem_nil, fun row hrow => absurd hrow List.not_mem_nil⟩

/-- The loader accepts what is valid, and gives back what was saved. -/
theorem deserialize_serialize_iff : deserialize s.serialize = .ok s ↔ s.Valid := by
  change (s.validateContract >>= fun _ => Except.ok s) = .ok s ↔ _
  rw [except_seq_eq_ok_iff, validateContract_eq_ok_iff]
  exact and_iff_left rfl

theorem valid_of_deserialize {wire : Wire} (h : deserialize wire = .ok s) : s.Valid := by
  rw [deserialize, except_seq_eq_ok_iff, Except.ok.injEq] at h
  obtain ⟨hvalid, rfl⟩ := h
  exact validateContract_eq_ok_iff.1 hvalid

/-! ### Discovery -/

variable {n : ℕ} {config : StructuralPlasticityConfig} {item : CoactivationEvidence} {score : ℕ}

/-- The pairs of a row after an item: its own is there, and none is repeated. -/
theorem map_pair_note (row : List StructuralCandidate) :
    (note item score row).map (·.pair) =
      if item.pair ∈ row.map (·.pair) then row.map (·.pair)
      else row.map (·.pair) ++ [item.pair] := by
  induction row with
  | nil => rfl
  | cons c row ih =>
    unfold note
    by_cases h : c.source = item.source ∧ c.target = item.target
    · have hpair : item.pair = c.pair := by
        rw [StructuralCandidate.pair, h.1, h.2]
        rfl
      rw [if_pos h, if_pos (by simp [hpair])]
      rfl
    · have hpair : item.pair ≠ c.pair := fun heq => h (by
        simp only [StructuralCandidate.pair, CoactivationEvidence.pair, Prod.mk.injEq] at heq
        exact ⟨heq.1.symm, heq.2.symm⟩)
      rw [if_neg h, List.map_cons, ih]
      simp only [List.map_cons, List.mem_cons, hpair, false_or]
      split_ifs <;> rfl

/-- Where a candidate of the row after an item comes from. -/
theorem mem_note {c : StructuralCandidate} {row : List StructuralCandidate}
    (h : c ∈ note item score row) :
    c ∈ row ∨ (∃ old ∈ row, c = strengthened old item) ∨ c = fresh item score := by
  induction row with
  | nil => exact Or.inr (Or.inr (List.mem_singleton.1 h))
  | cons a row ih =>
    unfold note at h
    split_ifs at h with hpair
    · obtain rfl | h := List.mem_cons.1 h
      · exact Or.inr (Or.inl ⟨a, List.mem_cons_self .., rfl⟩)
      · exact Or.inl (List.mem_cons_of_mem _ h)
    · obtain rfl | h := List.mem_cons.1 h
      · exact Or.inl (List.mem_cons_self ..)
      · obtain h | ⟨old, hold, rfl⟩ | h := ih h
        · exact Or.inl (List.mem_cons_of_mem _ h)
        · exact Or.inr (Or.inl ⟨old, List.mem_cons_of_mem _ hold, rfl⟩)
        · exact Or.inr (Or.inr h)

theorem note_ne_nil (item : CoactivationEvidence) (score : ℕ) (row : List StructuralCandidate) :
    note item score row ≠ [] := by
  cases row with
  | nil => exact List.cons_ne_nil _ _
  | cons c row =>
    unfold note
    split_ifs <;> exact List.cons_ne_nil _ _

theorem candidateOk_strengthened {region : U16} {c : StructuralCandidate}
    (h : CandidateOk n config region c) : CandidateOk n config region (strengthened c item) where
  region_eq := h.region_eq
  source_lt := h.source_lt
  target_lt := h.target_lt
  distinct := h.distinct
  evidence := by
    have := h.evidence
    simp only [strengthened, satAdd_eq_zero_iff]
    tauto
  score_eq := rfl
  enough := by
    refine h.enough.trans ?_
    rw [h.score_eq]
    exact satAdd_score_le ..

/-- A row that is good, or not there yet, is good after an item that counts. -/
theorem regionOk_noted (hconfig : config.Within) (hfresh : CandidateOk n config item.region
    (fresh item score)) {row : List StructuralCandidate}
    (h : row = [] ∨ RegionOk n config (item.region, row)) :
    RegionOk n config (item.region,
      (sortByKey candidateKey (note item score row)).take config.maxCandidatesPerRegion) := by
  have hcandidates : ∀ c ∈ row, CandidateOk n config item.region c := by
    obtain rfl | hok := h
    · exact fun c hc => absurd hc List.not_mem_nil
    · exact hok.candidateOk
  have hpairs : (row.map (·.pair)).Nodup := by
    obtain rfl | hok := h
    · exact List.nodup_nil
    · exact hok.pairs
  have hperm := sortByKey_perm candidateKey (note item score row)
  refine ⟨?_, List.length_take_le _ _, fun c hc => ?_, ?_, ?_⟩
  · have hpos := List.length_pos_iff.2 (note_ne_nil item score row)
    have := hconfig.candidates_pos
    rw [← List.length_pos_iff, List.length_take, hperm.length_eq]
    omega
  · obtain hc | ⟨old, hold, rfl⟩ | rfl := mem_note (mem_sortByKey.1 (List.mem_of_mem_take hc))
    · exact hcandidates c hc
    · exact candidateOk_strengthened (hcandidates old hold)
    · exact hfresh
  · refine List.Nodup.sublist ((List.take_sublist _ _).map _) ((hperm.map _).nodup_iff.2 ?_)
    rw [map_pair_note]
    split_ifs with hmem
    · exact hpairs
    · rw [← List.concat_eq_append]
      exact hpairs.concat hmem
  · exact (pairwise_sortByKey candidateKey _).sublist (List.take_sublist _ _)

/-- The turn of the loop keeps the rows good, adds at most the item's region, and compares
no more than a row holds. -/
theorem discoverItem_spec (hconfig : config.Within) (hsource : item.source < n)
    (htarget : item.target < n) {found : OrderedMap U16 (List StructuralCandidate) × ℕ}
    (h : ∀ row ∈ found.1.entries, RegionOk n config row) :
    (∀ row ∈ (discoverItem config found item).1.entries,
      RegionOk n config row ∧ (row.1 = item.region ∨ row ∈ found.1.entries)) ∧
      (discoverItem config found item).2 ≤ found.2 + maxCandidatesPerRegion := by
  have hsame : (∀ row ∈ found.1.entries,
      RegionOk n config row ∧ (row.1 = item.region ∨ row ∈ found.1.entries)) ∧
      found.2 ≤ found.2 + maxCandidatesPerRegion :=
    ⟨fun row hrow => ⟨h row hrow, Or.inr hrow⟩, Nat.le_add_right _ _⟩
  unfold discoverItem
  simp only
  split_ifs with hskip hweak
  · exact hsame
  · exact hsame
  · rw [not_or] at hskip
    have hrow : (found.1.get? item.region).getD [] = [] ∨
        RegionOk n config (item.region, (found.1.get? item.region).getD []) := by
      cases hget : found.1.get? item.region with
      | none => exact Or.inl rfl
      | some row => exact Or.inr (h _ (OrderedMap.get?_eq_some_iff.1 hget))
    have hfresh : CandidateOk n config item.region (fresh item
        (satAdd (satAdd item.coactivation item.eligibility) item.conceptGapSupport)) :=
      ⟨rfl, hsource, htarget, hskip.1, hskip.2, rfl, not_lt.1 hweak⟩
    refine ⟨fun new hnew => ?_, ?_⟩
    · obtain rfl | ⟨-, hmem⟩ := OrderedMap.mem_insert.1 hnew
      · exact ⟨regionOk_noted hconfig hfresh hrow, Or.inl rfl⟩
      · exact ⟨h new hmem, Or.inr hmem⟩
    · have hlength : ((found.1.get? item.region).getD []).length ≤ maxCandidatesPerRegion := by
        obtain hnil | hok := hrow
        · rw [hnil]
          exact Nat.zero_le _
        · exact hok.bounded.trans hconfig.candidates_le
      have hsat (a b : ℕ) : satAdd a b ≤ a + b := min_le_left _ _
      refine (hsat _ _).trans ?_
      have := Nat.mod_le ((found.1.get? item.region).getD []).length (2 ^ 32)
      omega

/-- The loop over the evidence. -/
theorem foldl_discoverItem_spec (hconfig : config.Within) {l : List CoactivationEvidence}
    (hl : ∀ item ∈ l, item.source < n ∧ item.target < n)
    (found : OrderedMap U16 (List StructuralCandidate) × ℕ)
    (h : ∀ row ∈ found.1.entries, RegionOk n config row) :
    (∀ row ∈ (l.foldl (discoverItem config) found).1.entries, RegionOk n config row ∧
      (row.1 ∈ l.map (·.region) ∨ ∃ old ∈ found.1.entries, old.1 = row.1)) ∧
      (l.foldl (discoverItem config) found).2 ≤ found.2 + l.length * maxCandidatesPerRegion := by
  induction l generalizing found with
  | nil => exact ⟨fun row hrow => ⟨h row hrow, Or.inr ⟨row, hrow, rfl⟩⟩, Nat.le_add_right _ _⟩
  | cons item l ih =>
    rw [List.forall_mem_cons] at hl
    obtain ⟨hrows, hcompared⟩ := discoverItem_spec hconfig hl.1.1 hl.1.2 h
    obtain ⟨hall, hsum⟩ := ih hl.2 _ fun row hrow => (hrows row hrow).1
    refine ⟨fun row hrow => ⟨(hall row hrow).1, ?_⟩, ?_⟩
    · obtain hin | ⟨old, hold, heq⟩ := (hall row hrow).2
      · exact Or.inl (List.mem_cons_of_mem _ hin)
      · obtain hregion | hmem := (hrows old hold).2
        · exact Or.inl (by rw [← heq, hregion]; exact List.mem_cons_self ..)
        · exact Or.inr ⟨old, hmem, heq⟩
    · rw [List.foldl_cons, List.length_cons, Nat.add_mul, Nat.one_mul]
      omega

/-- The checks that `discover_candidates` makes of the evidence. -/
structure Admits (s : StructuralPlasticityState) (evidence : List CoactivationEvidence) :
    Prop where
  length_le : evidence.length ≤ maxEvidencePerPhase
  regions_le : s.candidates.size + (s.newRegions evidence).length ≤ s.config.maxRegions
  inRange : ∀ item ∈ evidence, item.source < s.neuronCount ∧ item.target < s.neuronCount

theorem Valid.discovered (h : s.Valid) {evidence : List CoactivationEvidence}
    (ha : s.Admits evidence) : (s.discovered evidence).Valid := by
  have hperm := sortByKey_perm evidenceKey evidence
  have hrange : ∀ item ∈ sortByKey evidenceKey evidence,
      item.source < s.neuronCount ∧ item.target < s.neuronCount :=
    fun item hitem => ha.inRange item (mem_sortByKey.1 hitem)
  obtain ⟨hrows, hcompared⟩ := foldl_discoverItem_spec h.config hrange (s.candidates, 0) h.regionOk
  refine ⟨h.neurons, h.config, ?_, h.edges, ?_, fun row hrow => (hrows row hrow).1, h.targetOk⟩
  · -- the regions of the evidence that are not there yet were counted before the loop
    refine (OrderedMap.size_le_of_keys
      (s.candidates.entries.map (·.1) ++ s.newRegions evidence) ?_).trans ?_
    · intro row hrow
      rw [List.mem_append]
      obtain hin | ⟨old, hold, heq⟩ := (hrows row hrow).2
      · by_cases hc : s.candidates.contains row.1 = true
        · obtain ⟨v, hv⟩ := OrderedMap.contains_iff.1 hc
          exact Or.inl (List.mem_map.2 ⟨_, hv, rfl⟩)
        · refine Or.inr (List.mem_filter.2 ⟨List.mem_dedup.2 ?_, by simpa using hc⟩)
          exact ((hperm.map _).mem_iff).1 hin
      · exact Or.inl (heq ▸ List.mem_map_of_mem hold)
    · rw [List.length_append, List.length_map]
      exact ha.regions_le
  · refine hcompared.trans ?_
    have := Nat.mul_le_mul_right maxCandidatesPerRegion ha.length_le
    rw [hperm.length_eq]
    omega

/-- A call of `discover_candidates`: the checks, then the loop. -/
theorem discoverCandidates_apply (evidence : List CoactivationEvidence) (s) :
    (s.Admits evidence ∧ discoverCandidates evidence s = .ok
      { evidenceItems := evidence.length % 2 ^ 16
        candidateComparisons := (s.discovered evidence).lastCandidateComparisons
        candidatesKept := (s.discovered evidence).candidateCount % 2 ^ 16
        deterministicDigest := (s.discovered evidence).deterministicDigest }
      (s.discovered evidence)) ∨
    ¬s.Admits evidence ∧ ∃ e, discoverCandidates evidence s = .error e s := by
  unfold discoverCandidates
  rw [bind_apply, get_apply]
  simp only [foldlM_failIf]
  by_cases hlength : maxEvidencePerPhase < evidence.length
  · refine Or.inr ⟨fun ha => absurd ha.length_le (not_le.2 hlength),
      .evidenceBudgetExceeded, ?_⟩
    rw [bind_apply, failIf, if_pos hlength, ofResult_error]
  by_cases hregions : s.config.maxRegions < s.candidates.size + (s.newRegions evidence).length
  · refine Or.inr ⟨fun ha => absurd ha.regions_le (not_le.2 hregions), .regionBudgetExceeded, ?_⟩
    simp [bind_apply, failIf, hlength, hregions, ofResult_ok, ofResult_error]
  by_cases hrange : ∃ item ∈ evidence, s.neuronCount ≤ item.source ∨ s.neuronCount ≤ item.target
  · refine Or.inr ⟨fun ha => ?_, .nodeOutOfRange, ?_⟩
    · obtain ⟨item, hitem, hout⟩ := hrange
      have := ha.inRange item hitem
      omega
    · simp [bind_apply, failIf, hlength, hregions, hrange, ofResult_ok, ofResult_error]
  · refine Or.inl ⟨⟨not_lt.1 hlength, not_lt.1 hregions, fun item hitem => ?_⟩, ?_⟩
    · by_contra hout
      exact hrange ⟨item, hitem, by omega⟩
    · simp only [bind_apply, failIf, hlength, hregions, hrange, if_false, ofResult_ok, set_apply,
        pure_apply]

theorem evidenceKey_injective : Function.Injective evidenceKey := by
  rintro ⟨r, a, b, c, d, e⟩ ⟨r', a', b', c', d', e'⟩ h
  simp only [evidenceKey, EmbeddingLike.apply_eq_iff_eq, Prod.mk.injEq] at h
  obtain ⟨rfl, rfl, rfl, rfl, rfl, rfl⟩ := h
  rfl

/-- The order of the evidence does not matter. -/
theorem discoverCandidates_of_perm {evidence evidence' : List CoactivationEvidence}
    (h : evidence.Perm evidence') (s : StructuralPlasticityState) :
    discoverCandidates evidence s = discoverCandidates evidence' s := by
  have hsort : sortByKey evidenceKey evidence = sortByKey evidenceKey evidence' :=
    sortByKey_eq_of_perm evidenceKey_injective h
  have hregions : (s.newRegions evidence).length = (s.newRegions evidence').length :=
    (((h.map _).dedup).filter _).length_eq
  have hrange : (∃ item ∈ evidence, s.neuronCount ≤ item.source ∨ s.neuronCount ≤ item.target) ↔
      ∃ item ∈ evidence', s.neuronCount ≤ item.source ∨ s.neuronCount ≤ item.target := by
    simp only [h.mem_iff]
  unfold discoverCandidates
  rw [bind_apply, bind_apply, get_apply]
  simp only [foldlM_failIf, discovered, hsort, hregions, hrange, h.length_eq]

end StructuralPlasticityState

end ALife
