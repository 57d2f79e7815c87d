/-
# Each packed index once, under an address of its own

What a successful compilation puts into the tables.  A table of projections or
synapses lists every packed index once, and the numbering keeps its addresses
apart (`RowTable`); a neuron is listed with each enabled region that holds it, so
the neuron table is exact when the enabled regions do not meet and no lobe has
two of them (`LobeLayout.Apart`).
-/

import ALife.Phenotype.AddressNumbering

namespace ALife

open Machine

/-! ### Layouts -/

namespace LobeLayout

/-- The enabled regions are intervals of packed indices that do not meet. -/
structure Disjoint (layout : LobeLayout) : Prop where
  fits : ∀ r ∈ layout.enabledRegions, r.start.toNat + r.len.toNat < 2 ^ 32
  disjoint : layout.enabledRegions.Pairwise fun r s =>
    r.start.toNat + r.len.toNat ≤ s.start.toNat ∨ s.start.toNat + s.len.toNat ≤ r.start.toNat

/-- They do not meet, and no lobe has two of them. -/
structure Apart (layout : LobeLayout) : Prop extends layout.Disjoint where
  kinds : (layout.enabledRegions.map LobeRegion.kind).Nodup

end LobeLayout

/-- The index of a region's neuron does not wrap around. -/
theorem toNat_start_add {r : LobeRegion} (hfits : r.start.toNat + r.len.toNat < 2 ^ 32) {k : ℕ}
    (hk : k < r.len.toNat) : (r.start + k.toUInt32).toNat = r.start.toNat + k := by
  have hword : k.toUInt32.toNat = k :=
    UInt32.toNat_ofNat_of_lt' (by have := r.len.toNat_lt; simp only [UInt32.size]; omega)
  rw [UInt32.toNat_add, hword]
  omega

/-- The entries of a region: one for each of its places. -/
theorem mem_regionEntries {r : LobeRegion} {e : PersistentNeuronAddressEntry} :
    e ∈ regionEntries r ↔ ∃ k < r.len.toNat, e = ⟨⟨r.kind, k.toUInt32⟩, r.start + k.toUInt32⟩ := by
  unfold regionEntries
  simp only [List.mem_map, List.mem_range, eq_comm]

theorem toUInt32_inj_of_lt {j k : ℕ} {len : UInt32} (hj : j < len.toNat) (hk : k < len.toNat)
    (h : j.toUInt32 = k.toUInt32) : j = k := by
  have hlen := len.toNat_lt
  have hword : ∀ n : ℕ, n < len.toNat → n.toUInt32.toNat = n := fun n hn =>
    UInt32.toNat_ofNat_of_lt' (by simp only [UInt32.size]; omega)
  rw [← hword j hj, ← hword k hk, h]

/-- Two places of one region have two addresses. -/
theorem nodup_regionEntries (r : LobeRegion) :
    ((regionEntries r).map fun e => e.address).Nodup := by
  unfold regionEntries
  rw [List.map_map]
  refine List.Nodup.map_on (fun j hj k hk h => ?_) List.nodup_range
  rw [List.mem_range] at hj hk
  exact toUInt32_inj_of_lt hj hk (congrArg PersistentNeuronAddress.ordinal h)

theorem mem_neuronEntries {layout : LobeLayout} {e : PersistentNeuronAddressEntry} :
    e ∈ neuronEntries layout ↔ ∃ r ∈ layout.enabledRegions, ∃ k < r.len.toNat,
      e = ⟨⟨r.kind, k.toUInt32⟩, r.start + k.toUInt32⟩ := by
  unfold neuronEntries
  simp only [List.mem_flatMap, mem_regionEntries]

namespace LobeLayout.Apart

variable {layout : LobeLayout}

/-- Two neurons have two addresses. -/
theorem nodup_addresses (h : layout.Apart) :
    ((neuronEntries layout).map fun e => e.address).Nodup := by
  unfold neuronEntries
  rw [List.map_flatMap, List.nodup_flatMap]
  refine ⟨fun r _ => nodup_regionEntries r, ?_⟩
  have hkinds := h.kinds
  rw [List.Nodup, List.pairwise_map] at hkinds
  refine hkinds.imp fun {r s} hne => ?_
  intro a ha ha'
  obtain ⟨e, he, rfl⟩ := List.mem_map.1 ha
  obtain ⟨e', he', heq⟩ := List.mem_map.1 ha'
  obtain ⟨k, -, rfl⟩ := mem_regionEntries.1 he
  obtain ⟨k', -, rfl⟩ := mem_regionEntries.1 he'
  exact hne (congrArg PersistentNeuronAddress.lobe heq).symm

/-- Two neurons have two packed indices. -/
theorem nodup_packed (h : layout.Apart) :
    ((neuronEntries layout).map fun e => e.packedIndex).Nodup := by
  unfold neuronEntries
  rw [List.map_flatMap, List.nodup_flatMap]
  constructor
  · intro r hr
    unfold regionEntries
    rw [List.map_map]
    refine List.Nodup.map_on (fun j hj k hk heq => ?_) List.nodup_range
    rw [List.mem_range] at hj hk
    have hnat := congrArg UInt32.toNat heq
    simp only [Function.comp, toNat_start_add (h.fits r hr) hj,
      toNat_start_add (h.fits r hr) hk] at hnat
    omega
  · refine h.disjoint.imp_of_mem ?_
    intro r s hr hs happart i hi hi'
    obtain ⟨e, he, rfl⟩ := List.mem_map.1 hi
    obtain ⟨e', he', heq⟩ := List.mem_map.1 hi'
    obtain ⟨k, hk, rfl⟩ := mem_regionEntries.1 he
    obtain ⟨k', hk', rfl⟩ := mem_regionEntries.1 he'
    have hnat := congrArg UInt32.toNat heq
    simp only [toNat_start_add (h.fits r hr) hk, toNat_start_add (h.fits s hs) hk'] at hnat
    omega

end LobeLayout.Apart

/-! ### Rows -/

theorem map_fst_enumerate {α : Type} (l : List α) :
    (enumerate l).map Prod.fst = List.range l.length := by
  unfold enumerate
  rw [List.map_fst_zip (by simp)]

theorem mem_enumerate {α : Type} {l : List α} {i : ℕ} {a : α} :
    (i, a) ∈ enumerate l ↔ l[i]? = some a := by
  unfold enumerate
  rw [List.mem_iff_getElem?]
  constructor
  · rintro ⟨k, hk⟩
    obtain ⟨hrange, hget⟩ := List.getElem?_zip_eq_some.1 hk
    obtain ⟨hbound, hindex⟩ := List.getElem?_eq_some_iff.1 hrange
    rw [List.getElem_range] at hindex
    exact (show k = i from hindex) ▸ hget
  · intro h
    have hi := (List.getElem?_eq_some_iff.1 h).1
    exact ⟨i, List.getElem?_zip_eq_some.2 ⟨by rw [List.getElem?_range hi], h⟩⟩

/-- A table of rows: each packed index below `count` once, no address twice. -/
structure RowTable {A : Type} (rows : List (ℕ × A)) (count : ℕ) : Prop where
  packed : (rows.map Prod.fst).Perm (List.range count)
  addresses : (rows.map Prod.snd).Nodup

/-- Sorting and numbering fresh rows gives a table. -/
theorem rowTable_of_numberRows {A : Type} (names : A → List ℕ) (setOrdinal : A → UInt16 → A)
    (ordinalOf : A → UInt16) (hnames : ∀ a o, names (setOrdinal a o) = names a)
    (hordinal : ∀ a o, ordinalOf (setOrdinal a o) = o) {addresses : List A}
    (hfresh : ∀ a ∈ addresses, ordinalOf a = 0) {rows : List (ℕ × A)}
    (h : numberRows names setOrdinal
      (sortByKey (fun row => toLex (names row.2, (ordinalOf row.2).toNat)) (enumerate addresses))
        = .ok rows) :
    RowTable rows addresses.length := by
  have hsorted : ((sortByKey (fun row : ℕ × A => toLex (names row.2, (ordinalOf row.2).toNat))
      (enumerate addresses)).map fun row => names row.2).Pairwise (· ≤ ·) := by
    rw [List.pairwise_map]
    refine (pairwise_sortByKey _ _).imp_of_mem ?_
    intro a b ha hb hab
    have hzero : ∀ row ∈ enumerate addresses, ordinalOf row.2 = 0 := fun row hrow =>
      hfresh _ (List.of_mem_zip hrow).2
    rw [hzero a (mem_sortByKey.1 ha), hzero b (mem_sortByKey.1 hb), Prod.Lex.toLex_le_toLex] at hab
    exact hab.elim le_of_lt fun heq => heq.1.le
  obtain ⟨hfst, hkeys⟩ := numberRows_spec hnames hordinal hsorted h
  constructor
  · rw [hfst, ← map_fst_enumerate addresses]
    exact (sortByKey_perm _ _).map _
  · have hnodup := hkeys.imp fun {a b} hab => ne_of_lt hab
    have hkeyed : ((rows.map Prod.snd).map fun a => toLex (names a, (ordinalOf a).toNat)).Nodup := by
      rw [List.map_map]
      exact hnodup
    exact hkeyed.of_map _

/-! ### The tables of a compilation -/

/-- The projection rows, and that their addresses are still those of the names. -/
theorem rowTable_projections {synapses : List CompiledSynapse}
    {projections : List CompiledProjection} {addresses : List PersistentProjectionAddress}
    (hmap : projections.mapM (projectionAddress synapses) = .ok addresses)
    {rows : List (ℕ × PersistentProjectionAddress)}
    (h : numberProjections (sortByKey (fun row => row.2.key) (enumerate addresses)) = .ok rows) :
    RowTable rows projections.length := by
  have hfresh : ∀ a ∈ addresses, a.logicalOrdinal = 0 := by
    intro a ha
    obtain ⟨p, -, hp⟩ := mem_of_contract_mapM hmap ha
    obtain ⟨role, -, hrole⟩ := contract_bind_eq_ok_iff.1 hp
    obtain rfl := Except.ok.inj hrole
    rfl
  rw [← (getElem?_of_contract_mapM hmap).1]
  exact rowTable_of_numberRows PersistentProjectionAddress.names
    (fun a ordinal => { a with logicalOrdinal := ordinal }) (fun a => a.logicalOrdinal)
    (fun _ _ => rfl) (fun _ _ => rfl) hfresh h

theorem rowTable_synapses {layout : LobeLayout}
    {projectionRows : List (ℕ × PersistentProjectionAddress)} {synapses : List CompiledSynapse}
    {addresses : List PersistentSynapseAddress}
    (hmap : synapses.mapM (synapseAddress layout projectionRows) = .ok addresses)
    {rows : List (ℕ × PersistentSynapseAddress)}
    (h : numberSynapses (sortByKey (fun row => row.2.key) (enumerate addresses)) = .ok rows) :
    RowTable rows synapses.length := by
  have hfresh : ∀ a ∈ addresses, a.duplicateOrdinal = 0 := by
    intro a ha
    obtain ⟨s, -, hs⟩ := mem_of_contract_mapM hmap ha
    obtain ⟨projection, -, hs⟩ := contract_bind_eq_ok_iff.1 hs
    obtain ⟨source, -, hs⟩ := contract_bind_eq_ok_iff.1 hs
    obtain ⟨target, -, hs⟩ := contract_bind_eq_ok_iff.1 hs
    obtain rfl := Except.ok.inj hs
    rfl
  rw [← (getElem?_of_contract_mapM hmap).1]
  exact rowTable_of_numberRows PersistentSynapseAddress.names
    (fun a ordinal => { a with duplicateOrdinal := ordinal }) (fun a => a.duplicateOrdinal)
    (fun _ _ => rfl) (fun _ _ => rfl) hfresh h

/-- The entries of the projection rows, while the packed indices fit. -/
theorem projectionEntries_eq_ok_iff {rows : List (ℕ × PersistentProjectionAddress)}
    {entries : List PersistentProjectionAddressEntry} :
    rows.mapM projectionEntry = .ok entries ↔ (∀ row ∈ rows, row.1 < UInt16.size)
      ∧ entries = rows.map fun row => ⟨row.2, row.1.toUInt16⟩ := by
  unfold projectionEntry
  rw [contract_mapM_reject_eq_ok_iff]
  simp only [Nat.not_le]

/-- The entries of the synapse rows, while the packed indices fit. -/
theorem synapseEntries_eq_ok_iff {rows : List (ℕ × PersistentSynapseAddress)}
    {entries : List PersistentSynapseAddressEntry} :
    rows.mapM synapseEntry = .ok entries ↔ (∀ row ∈ rows, row.1 < UInt32.size)
      ∧ entries = rows.map fun row => ⟨row.2, row.1.toUInt32⟩ := by
  unfold synapseEntry
  rw [contract_mapM_reject_eq_ok_iff]
  simp only [Nat.not_le]

/-- The entries of the decoder rows, while the packed indices fit. -/
theorem decoderEntries_eq_ok_iff
    {rows : List ((ℕ × PersistentSynapseAddress) × PersistentDecoderAddress)}
    {entries : List PersistentDecoderAddressEntry} :
    (rows.mapM fun row => decoderEntry row.1 row.2) = .ok entries ↔
      (∀ row ∈ rows, row.1.1 < UInt32.size)
        ∧ entries = rows.map fun row => ⟨row.2, row.1.2, row.1.1.toUInt32⟩ := by
  unfold decoderEntry
  rw [contract_mapM_reject_eq_ok_iff]
  simp only [Nat.not_le]

end ALife
