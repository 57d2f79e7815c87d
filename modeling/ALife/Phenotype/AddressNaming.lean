/-
# Persistent addresses name a phenotype whatever its packing

The two halves of what an address map is for.  Within one packing, distinct
neurons, projections and synapses have distinct addresses, and each packed index
is listed once; across a repacking, each of them keeps its address and the digest
stays (`PersistentAddressMap.persistent_addresses_name_the_phenotype`).  A layout
that gives one lobe two regions names two neurons alike, whatever the regions'
places; phenotypes are validated against such layouts.
-/

import ALife.Phenotype.AddressRepacking

namespace ALife

open Machine

/-- A call that gives a moved item the same result gives the same rows relabelled. -/
theorem mapM_of_moved {α β : Type} {f g : α → Contract β} {l l' : List α} {π : ℕ → ℕ}
    (hperm : ((List.range l.length).map π).Perm (List.range l'.length))
    (hmoved : ∀ (i : ℕ) (a : α), l[i]? = some a →
      ∃ a', l'[π i]? = some a' ∧ ∀ b, f a = .ok b → g a' = .ok b)
    {r : List β} (h : l.mapM f = .ok r) :
    ∃ r', l'.mapM g = .ok r' ∧ (enumerate r').Perm ((enumerate r).map (Prod.map π id)) := by
  obtain ⟨hlength, hget⟩ := getElem?_of_contract_mapM h
  have hok : ∀ a' ∈ l', ∃ b, g a' = .ok b := by
    intro a' ha'
    obtain ⟨k, hk⟩ := List.mem_iff_getElem?.1 ha'
    have hrange : k ∈ List.range l'.length := List.mem_range.2 (List.getElem?_eq_some_iff.1 hk).1
    obtain ⟨i, hi, rfl⟩ := List.mem_map.1 (hperm.mem_iff.2 hrange)
    obtain ⟨a, ha⟩ : ∃ a, l[i]? = some a := ⟨_, List.getElem?_eq_getElem (List.mem_range.1 hi)⟩
    obtain ⟨b, hb, -⟩ := hget i a ha
    obtain ⟨a'', ha'', hsame⟩ := hmoved i a ha
    rw [hk, Option.some.injEq] at ha''
    exact ⟨b, ha'' ▸ hsame b hb⟩
  obtain ⟨r', hr'⟩ := exists_contract_mapM hok
  obtain ⟨hlength', hget'⟩ := getElem?_of_contract_mapM hr'
  refine ⟨r', hr', enumerate_perm (by rwa [hlength, hlength']) fun i b hb => ?_⟩
  have hi : i < l.length := hlength ▸ (List.getElem?_eq_some_iff.1 hb).1
  obtain ⟨a, ha⟩ : ∃ a, l[i]? = some a := ⟨_, List.getElem?_eq_getElem hi⟩
  obtain ⟨b', hb', hri⟩ := hget i a ha
  rw [hb, Option.some.injEq] at hri
  obtain ⟨a', ha', hsame⟩ := hmoved i a ha
  obtain ⟨b'', hb'', hri'⟩ := hget' (π i) a' ha'
  rw [hsame b' hb', Except.ok.injEq] at hb''
  rw [hri', ← hb'', hri]

namespace Repacking

variable {layout layout' : LobeLayout} {projections projections' : List CompiledProjection}
  {synapses synapses' : List CompiledSynapse}
  (R : Repacking layout layout' projections projections' synapses synapses')

include R in
theorem length_projections : projections'.length = projections.length := by
  simpa using R.projection_perm.length_eq.symm

include R in
theorem length_synapses : synapses'.length = synapses.length := by
  simpa using R.synapse_perm.length_eq.symm

theorem projection_lt {i : ℕ} (hi : i < projections.length) :
    R.projection i < projections.length := by
  have hmem := R.projection_perm.mem_iff.1 (List.mem_map.2 ⟨i, List.mem_range.2 hi, rfl⟩)
  rwa [List.mem_range, R.length_projections] at hmem

theorem synapse_lt {j : ℕ} (hj : j < synapses.length) : R.synapse j < synapses.length := by
  have hmem := R.synapse_perm.mem_iff.1 (List.mem_map.2 ⟨j, List.mem_range.2 hj, rfl⟩)
  rwa [List.mem_range, R.length_synapses] at hmem

/-- A moved projection keeps its role. -/
theorem roleOf_moved (hpart : Partitions projections synapses)
    (hpart' : Partitions projections' synapses') {p p' : CompiledProjection}
    (hp : p ∈ projections) (hp' : p' ∈ projections')
    (hholds : ∀ j < synapses.length, p'.Holds (R.synapse j) ↔ p.Holds j)
    {role : PersistentProjectionRole} (h : roleOf synapses p = .ok role) :
    roleOf synapses' p' = .ok role := by
  obtain ⟨⟨j, hj⟩, hall⟩ := (roleOf_eq_ok_iff (hpart.fits p hp) (hpart.inside p hp)).1 h
  have hbound : j < synapses.length := lt_of_lt_of_le hj.2 (hpart.inside p hp)
  refine (roleOf_eq_ok_iff (hpart'.fits p' hp') (hpart'.inside p' hp')).2
    ⟨⟨R.synapse j, (hholds j hbound).2 hj⟩, fun k s' hk hs' => ?_⟩
  have hrange : k ∈ List.range synapses'.length :=
    List.mem_range.2 (List.getElem?_eq_some_iff.1 hs').1
  obtain ⟨i, hi, rfl⟩ := List.mem_map.1 (R.synapse_perm.mem_iff.2 hrange)
  rw [List.mem_range] at hi
  obtain ⟨s, hs⟩ : ∃ s, synapses[i]? = some s := ⟨_, List.getElem?_eq_getElem hi⟩
  obtain ⟨s'', hs'', hkind, -⟩ := R.moved_synapse i s hs
  rw [hs', Option.some.injEq] at hs''
  rw [hs'', hkind]
  exact hall i s ((hholds i hi).1 hk) hs

/-- The projection rows of the repacked phenotype. -/
theorem projectionAddresses (hpart : Partitions projections synapses)
    (hpart' : Partitions projections' synapses') {addresses : List PersistentProjectionAddress}
    (h : projections.mapM (projectionAddress synapses) = .ok addresses) :
    ∃ addresses', projections'.mapM (projectionAddress synapses') = .ok addresses'
      ∧ (enumerate addresses').Perm ((enumerate addresses).map (Prod.map R.projection id)) := by
  refine mapM_of_moved R.projection_perm (fun i p hp => ?_) h
  obtain ⟨p', hp', hsource, htarget, hholds⟩ := R.moved_projection i p hp
  refine ⟨p', hp', fun a ha => ?_⟩
  obtain ⟨role, hrole, ha⟩ := contract_bind_eq_ok_iff.1 ha
  obtain rfl := Except.ok.inj ha
  refine contract_bind_eq_ok_iff.2 ⟨role, R.roleOf_moved hpart hpart' (List.mem_of_getElem? hp)
    (List.mem_of_getElem? hp') hholds hrole, ?_⟩
  rw [hsource, htarget]

/-- The synapse rows of the repacked phenotype. -/
theorem synapseAddresses (h : layout.Apart) (h' : layout'.Apart)
    {rows : List (ℕ × PersistentProjectionAddress)} (hrows : RowTable rows projections.length)
    {addresses : List PersistentSynapseAddress}
    (hmap : synapses.mapM (synapseAddress layout rows) = .ok addresses) :
    ∃ addresses',
      synapses'.mapM (synapseAddress layout' (rows.map (Prod.map R.projection id))) = .ok addresses'
        ∧ (enumerate addresses').Perm ((enumerate addresses).map (Prod.map R.synapse id)) := by
  refine mapM_of_moved R.synapse_perm (fun j s hs => ?_) hmap
  obtain ⟨s', hs', hkind, -, -, -, hroute, hsource, htarget⟩ := R.moved_synapse j s hs
  refine ⟨s', hs', fun a ha => ?_⟩
  obtain ⟨projection, hlookup, ha⟩ := contract_bind_eq_ok_iff.1 ha
  obtain ⟨source, hsourceAddress, ha⟩ := contract_bind_eq_ok_iff.1 ha
  obtain ⟨target, htargetAddress, ha⟩ := contract_bind_eq_ok_iff.1 ha
  obtain rfl := Except.ok.inj ha
  have hnodup : ((rows.map (Prod.map R.projection id)).map Prod.fst).Nodup := by
    have hfst : (rows.map (Prod.map R.projection id)).map Prod.fst
        = (rows.map Prod.fst).map R.projection := by
      rw [List.map_map, List.map_map]
      rfl
    rw [hfst]
    exact (hrows.packed.map R.projection).nodup_iff.2
      (R.projection_perm.nodup_iff.2 List.nodup_range)
  have hmem := mem_of_lookup (okOr_eq_ok_iff.1 hlookup)
  have hmoved : (rows.map (Prod.map R.projection id)).lookup s'.routeIndex.toNat
      = some projection := by
    rw [hroute]
    exact lookup_of_mem hnodup (List.mem_map.2 ⟨_, hmem, rfl⟩)
  refine contract_bind_eq_ok_iff.2 ⟨projection, okOr_eq_ok_iff.2 hmoved,
    contract_bind_eq_ok_iff.2 ⟨source, ?_, contract_bind_eq_ok_iff.2 ⟨target, ?_, ?_⟩⟩⟩
  · rw [hsource.neuronAddress_eq h h', hsourceAddress]
  · rw [htarget.neuronAddress_eq h h', htargetAddress]
  · rw [hkind]

include R in
/-- Moved regions are apart once they do not meet. -/
theorem apart (h : layout.Apart) (h' : layout'.Disjoint) : layout'.Apart := by
  refine ⟨h', ?_⟩
  have hkinds : ∀ l : LobeLayout, l.enabledRegions.map LobeRegion.kind
      = (l.enabledRegions.map fun r => (r.kind, r.len)).map Prod.fst := fun l => by
    rw [List.map_map]
    rfl
  have hnodup := h.kinds
  rw [hkinds] at hnodup ⊢
  exact (R.regions.map Prod.fst).nodup_iff.2 hnodup

end Repacking

/-! ### Names that occur once -/

theorem nodup_projectionAddresses {projections : List CompiledProjection}
    {synapses : List CompiledSynapse} {addresses : List PersistentProjectionAddress}
    (htriples : (projections.map fun p => (p.sourceLobe, p.targetLobe, roleOf synapses p)).Nodup)
    (h : projections.mapM (projectionAddress synapses) = .ok addresses) : addresses.Nodup := by
  refine nodup_of_contract_mapM h (fun p _ p' _ a ha ha' => ?_) htriples
  obtain ⟨role, hrole, ha⟩ := contract_bind_eq_ok_iff.1 ha
  obtain ⟨role', hrole', ha'⟩ := contract_bind_eq_ok_iff.1 ha'
  rw [← Except.ok.inj ha', Except.ok.injEq, PersistentProjectionAddress.mk.injEq] at ha
  rw [ha.1, ha.2.1, hrole, hrole', ha.2.2.1]

theorem nodup_synapseAddresses {layout : LobeLayout} (hlayout : layout.Apart) {count : ℕ}
    {rows : List (ℕ × PersistentProjectionAddress)} (hrows : RowTable rows count)
    {synapses : List CompiledSynapse} {addresses : List PersistentSynapseAddress}
    (hnodup : (synapses.map fun s => (s.routeIndex, s.source, s.target, s.kind)).Nodup)
    (h : synapses.mapM (synapseAddress layout rows) = .ok addresses) : addresses.Nodup := by
  refine nodup_of_contract_mapM h (fun s _ s' _ a ha ha' => ?_) hnodup
  obtain ⟨projection, hlookup, ha⟩ := contract_bind_eq_ok_iff.1 ha
  obtain ⟨source, hsource, ha⟩ := contract_bind_eq_ok_iff.1 ha
  obtain ⟨target, htarget, ha⟩ := contract_bind_eq_ok_iff.1 ha
  obtain ⟨projection', hlookup', ha'⟩ := contract_bind_eq_ok_iff.1 ha'
  obtain ⟨source', hsource', ha'⟩ := contract_bind_eq_ok_iff.1 ha'
  obtain ⟨target', htarget', ha'⟩ := contract_bind_eq_ok_iff.1 ha'
  rw [← Except.ok.inj ha', Except.ok.injEq, PersistentSynapseAddress.mk.injEq] at ha
  obtain ⟨hprojection, hsourceEq, htargetEq, hdecoder, -⟩ := ha
  subst hprojection hsourceEq htargetEq
  -- one projection address is one packed projection
  have hroute := List.inj_on_of_nodup_map hrows.addresses
    (mem_of_lookup (okOr_eq_ok_iff.1 hlookup)) (mem_of_lookup (okOr_eq_ok_iff.1 hlookup')) rfl
  rw [UInt16.toNat_inj.1 (Prod.mk.inj hroute).1, neuronAddress_inj hlayout hsource hsource',
    neuronAddress_inj hlayout htarget htarget', decoderAddress_injective hdecoder]

/-! ### Neuron tables -/

/-- The addresses of the neurons, place by place. -/
theorem map_address_neuronEntries (layout : LobeLayout) :
    (neuronEntries layout).map (fun e => e.address)
      = (layout.enabledRegions.map fun r => (r.kind, r.len)).flatMap fun place =>
          (List.range place.2.toNat).map fun k => ⟨place.1, k.toUInt32⟩ := by
  unfold neuronEntries
  rw [List.map_flatMap, List.flatMap_map]
  refine List.flatMap_congr fun r _ => ?_
  unfold regionEntries
  rw [List.map_map]
  rfl

theorem map_address_sorted {layout : LobeLayout} (h : layout.Apart) :
    (sortByKey (fun e => e.address.key) (neuronEntries layout)).map (fun e => e.address)
      = sortByKey PersistentNeuronAddress.key
          ((neuronEntries layout).map fun e => e.address) := by
  have hkeys : ((neuronEntries layout).map fun e => e.address.key).Nodup := by
    have hnodup := h.nodup_addresses.map PersistentNeuronAddress.key_injective
    rwa [List.map_map] at hnodup
  exact (sortByKey_eq_map (fun _ _ => rfl) hkeys (List.Perm.refl _)).symm

/-- Moving the regions leaves the sorted addresses of the neurons alone. -/
theorem Repacking.map_address_neurons {layout layout' : LobeLayout}
    {projections projections' : List CompiledProjection} {synapses synapses' : List CompiledSynapse}
    (R : Repacking layout layout' projections projections' synapses synapses') (h : layout.Apart)
    (h' : layout'.Apart) :
    (sortByKey (fun e => e.address.key) (neuronEntries layout')).map (fun e => e.address)
      = (sortByKey (fun e => e.address.key) (neuronEntries layout)).map fun e => e.address := by
  have hperm : ((neuronEntries layout').map fun e => e.address).Perm
      (((neuronEntries layout).map fun e => e.address).map id) := by
    rw [List.map_id, map_address_neuronEntries, map_address_neuronEntries]
    exact R.regions.flatMap_right _
  rw [map_address_sorted h, map_address_sorted h', sortByKey_eq_map (fun _ _ => rfl)
    (h.nodup_addresses.map PersistentNeuronAddress.key_injective) hperm]
  exact List.map_id _

/-- The same neuron is listed under the same address. -/
theorem mem_neuronEntries_of_sameNeuron {layout layout' : LobeLayout} (h : layout.Apart)
    {e : PersistentNeuronAddressEntry} (he : e ∈ neuronEntries layout) {i' : UInt32}
    (hsame : SameNeuron layout layout' e.packedIndex i') :
    ⟨e.address, i'⟩ ∈ neuronEntries layout' := by
  obtain ⟨r, hr, r', hr', hkind, hlen, k, hk, hi, rfl⟩ := hsame
  have hplace : ⟨⟨r.kind, k.toUInt32⟩, r.start + k.toUInt32⟩ ∈ neuronEntries layout :=
    mem_neuronEntries.2 ⟨r, hr, k, hk, rfl⟩
  have heq := List.inj_on_of_nodup_map h.nodup_packed he hplace hi
  rw [heq, ← hkind]
  exact mem_neuronEntries.2 ⟨r', hr', k, hlen ▸ hk, rfl⟩

/-! ### The theorem -/

/-- Relabelled rows fit where the rows did. -/
theorem RowTable.moved_lt {A : Type} {rows : List (ℕ × A)} {count : ℕ} (h : RowTable rows count)
    {bound : ℕ} (hbound : ∀ row ∈ rows, row.1 < bound) {π : ℕ → ℕ} (hπ : ∀ i < count, π i < count) :
    ∀ row ∈ rows.map (Prod.map π id), row.1 < bound := by
  intro row hrow
  obtain ⟨⟨i, a⟩, hmem, rfl⟩ := List.mem_map.1 hrow
  have hi := List.mem_range.1 (h.packed.mem_iff.1 (List.mem_map.2 ⟨_, hmem, rfl⟩))
  obtain ⟨row', hrow', hfst⟩ := List.mem_map.1 (h.packed.mem_iff.2 (List.mem_range.2 (hπ i hi)))
  show π i < bound
  rw [← hfst]
  exact hbound row' hrow'

theorem decoderRows_relabelled (rows : List (ℕ × PersistentSynapseAddress)) (π : ℕ → ℕ) :
    decoderRows (rows.map (Prod.map π id))
      = (decoderRows rows).map fun row => (Prod.map π id row.1, row.2) := by
  unfold decoderRows
  rw [List.filterMap_map, List.map_filterMap]
  refine List.filterMap_congr fun row _ => ?_
  simp only [Function.comp, Prod.map_snd, id, Option.map_map]
  rfl

namespace PersistentAddressMap

/-- The digest is taken over the addresses alone. -/
theorem hashed_congr {m m' : PersistentAddressMap} (hversion : m'.schemaVersion = m.schemaVersion)
    (hneurons : (m'.neurons.map fun e => e.address) = m.neurons.map fun e => e.address)
    (hprojections : (m'.projections.map fun e => e.address) = m.projections.map fun e => e.address)
    (hsynapses : (m'.synapses.map fun e => e.address) = m.synapses.map fun e => e.address)
    (hdecoders : (m'.decoders.map fun e => (e.address, e.synapseAddress))
      = m.decoders.map fun e => (e.address, e.synapseAddress)) : m'.hashed = m.hashed := by
  have hn := congrArg (List.flatMap encodeNeuron) hneurons
  have hp := congrArg (List.flatMap encodeProjection) hprojections
  have hs := congrArg (List.flatMap encodeSynapse) hsynapses
  have hd := congrArg (List.flatMap fun p : PersistentDecoderAddress × PersistentSynapseAddress =>
    encodeDecoder p.1 ++ encodeSynapse p.2) hdecoders
  have hnl := congrArg List.length hneurons
  have hpl := congrArg List.length hprojections
  have hsl := congrArg List.length hsynapses
  have hdl := congrArg List.length hdecoders
  simp only [List.length_map, List.flatMap_map] at hn hp hs hd hnl hpl hsl hdl
  unfold hashed
  rw [hversion, hn, hp, hs, hd, hnl, hpl, hsl, hdl]

variable {blake3 : List UInt8 → Blake3Digest} {layout layout' : LobeLayout}
  {projections projections' : List CompiledProjection} {synapses synapses' : List CompiledSynapse}
  {m : PersistentAddressMap}

/-- The neuron table: each packed index of an enabled region once, no address twice. -/
theorem neurons_exact (hlayout : layout.Apart)
    (h : compile blake3 layout projections synapses = .ok m) :
    (m.neurons.map fun e => e.address).Nodup ∧ (m.neurons.map fun e => e.packedIndex).Nodup
      ∧ ∀ i : UInt32, i ∈ (m.neurons.map fun e => e.packedIndex) ↔
        ∃ r ∈ layout.enabledRegions, r.start.toNat ≤ i.toNat
          ∧ i.toNat < r.start.toNat + r.len.toNat := by
  obtain ⟨_, _, _, _, -, -, hneurons, -⟩ := compile_eq_ok_iff.1 h
  have hperm : m.neurons.Perm (neuronEntries layout) := hneurons ▸ sortByKey_perm _ _
  refine ⟨(hperm.map _).nodup_iff.2 hlayout.nodup_addresses,
    (hperm.map _).nodup_iff.2 hlayout.nodup_packed, fun i => ?_⟩
  rw [(hperm.map _).mem_iff, List.mem_map]
  constructor
  · rintro ⟨e, he, rfl⟩
    obtain ⟨r, hr, k, hk, rfl⟩ := mem_neuronEntries.1 he
    have hindex := toNat_start_add (hlayout.fits r hr) hk
    exact ⟨r, hr, by dsimp only; omega, by dsimp only; omega⟩
  · rintro ⟨r, hr, hstart, hend⟩
    have hk : i.toNat - r.start.toNat < r.len.toNat := by omega
    refine ⟨_, mem_neuronEntries.2 ⟨r, hr, i.toNat - r.start.toNat, hk, rfl⟩,
      UInt32.toNat_inj.1 ?_⟩
    rw [toNat_start_add (hlayout.fits r hr) hk]
    omega

/-- The projection table: each packed index once, no address twice. -/
theorem projections_exact (h : compile blake3 layout projections synapses = .ok m) :
    (m.projections.map fun e => e.address).Nodup
      ∧ (m.projections.map fun e => e.packedIndex.toNat).Perm (List.range projections.length) := by
  obtain ⟨_, rows, _, _, ⟨hmap, hrows, -, -⟩, -, -, hentries, -⟩ := compile_eq_ok_iff.1 h
  have htable := rowTable_projections hmap hrows
  obtain ⟨hfits, hentries⟩ := projectionEntries_eq_ok_iff.1 hentries
  rw [hentries, List.map_map, List.map_map]
  refine ⟨htable.addresses, ?_⟩
  have hpacked : rows.map ((fun e : PersistentProjectionAddressEntry => e.packedIndex.toNat)
      ∘ fun row => ⟨row.2, row.1.toUInt16⟩) = rows.map Prod.fst :=
    List.map_congr_left fun row hrow => UInt16.toNat_ofNat_of_lt' (hfits row hrow)
  rw [hpacked]
  exact htable.packed

/-- The synapse table: each packed index once, no address twice. -/
theorem synapses_exact (h : compile blake3 layout projections synapses = .ok m) :
    (m.synapses.map fun e => e.address).Nodup
      ∧ (m.synapses.map fun e => e.packedIndex.toNat).Perm (List.range synapses.length) := by
  obtain ⟨_, _, _, rows, ⟨-, -, hmap, hrows⟩, -, -, -, hentries, -⟩ := compile_eq_ok_iff.1 h
  have htable := rowTable_synapses hmap hrows
  obtain ⟨hfits, hentries⟩ := synapseEntries_eq_ok_iff.1 hentries
  rw [hentries, List.map_map, List.map_map]
  refine ⟨htable.addresses, ?_⟩
  have hpacked : rows.map ((fun e : PersistentSynapseAddressEntry => e.packedIndex.toNat)
      ∘ fun row => ⟨row.2, row.1.toUInt32⟩) = rows.map Prod.fst :=
    List.map_congr_left fun row hrow => UInt32.toNat_ofNat_of_lt' (hfits row hrow)
  rw [hpacked]
  exact htable.packed

/-- What a repacking keeps: the digest, and the address of each neuron, projection
and synapse. -/
structure Keeps (R : Repacking layout layout' projections projections' synapses synapses')
    (m m' : PersistentAddressMap) : Prop where
  digest : m'.digest = m.digest
  neurons : ∀ e ∈ m.neurons, ∀ i', SameNeuron layout layout' e.packedIndex i' →
    ⟨e.address, i'⟩ ∈ m'.neurons
  projections : ∀ e ∈ m.projections, ∃ e' ∈ m'.projections, e'.address = e.address
    ∧ e'.packedIndex.toNat = R.projection e.packedIndex.toNat
  synapses : ∀ e ∈ m.synapses, ∃ e' ∈ m'.synapses, e'.address = e.address
    ∧ e'.packedIndex.toNat = R.synapse e.packedIndex.toNat

/-- A repacked phenotype compiles to the same names. -/
theorem compile_repacked (hlayout : layout.Apart)
    (htriples : (projections.map fun p => (p.sourceLobe, p.targetLobe, roleOf synapses p)).Nodup)
    (hpart : Partitions projections synapses)
    (h : compile blake3 layout projections synapses = .ok m)
    (R : Repacking layout layout' projections projections' synapses synapses')
    (hlayout' : layout'.Disjoint) (hpart' : Partitions projections' synapses')
    (hnodup : (synapses.map fun s => (s.routeIndex, s.source, s.target, s.kind)).Nodup) :
    ∃ m', compile blake3 layout' projections' synapses' = .ok m' ∧ Keeps R m m' := by
  have hapart' := R.apart hlayout hlayout'
  obtain ⟨paddresses, prows, saddresses, srows, ⟨hpmap, hprows, hsmap, hsrows⟩, hversion, hneurons,
    hpentries, hsentries, hdentries, hdigest⟩ := compile_eq_ok_iff.1 h
  have hptable := rowTable_projections hpmap hprows
  have hstable := rowTable_synapses hsmap hsrows
  -- the stages of the repacked phenotype
  obtain ⟨paddresses', hpmap', hpperm⟩ := R.projectionAddresses hpart hpart' hpmap
  have hprows' := numberRows_of_perm PersistentProjectionAddress.key_injective
    (nodup_projectionAddresses htriples hpmap) hpperm hprows
  obtain ⟨saddresses', hsmap', hsperm⟩ := R.synapseAddresses hlayout hapart' hptable hsmap
  have hsrows' := numberRows_of_perm PersistentSynapseAddress.key_injective
    (nodup_synapseAddresses hlayout hptable hnodup hsmap) hsperm hsrows
  -- the entries, whose packed indices still fit
  obtain ⟨hpfits, hpentries⟩ := projectionEntries_eq_ok_iff.1 hpentries
  obtain ⟨hsfits, hsentries⟩ := synapseEntries_eq_ok_iff.1 hsentries
  obtain ⟨hdfits, hdentries⟩ := decoderEntries_eq_ok_iff.1 hdentries
  have hpfits' := hptable.moved_lt hpfits fun i hi => R.projection_lt hi
  have hsfits' := hstable.moved_lt hsfits fun j hj => R.synapse_lt hj
  have hdfits' : ∀ row ∈ decoderRows (srows.map (Prod.map R.synapse id)),
      row.1.1 < UInt32.size := by
    intro row hrow
    obtain ⟨srow, hsrow, hrow⟩ := List.mem_filterMap.1 hrow
    obtain ⟨decoder, -, rfl⟩ := Option.map_eq_some_iff.1 hrow
    exact hsfits' srow hsrow
  let unsigned : PersistentAddressMap :=
    { schemaVersion := 1
      neurons := sortByKey (fun e => e.address.key) (neuronEntries layout')
      projections := (prows.map (Prod.map R.projection id)).map fun row => ⟨row.2, row.1.toUInt16⟩
      synapses := (srows.map (Prod.map R.synapse id)).map fun row => ⟨row.2, row.1.toUInt32⟩
      decoders := (decoderRows (srows.map (Prod.map R.synapse id))).map fun row =>
        ⟨row.2, row.1.2, row.1.1.toUInt32⟩
      digest := .default }
  let m' : PersistentAddressMap := { unsigned with digest := blake3 unsigned.hashed }
  have hm' : compile blake3 layout' projections' synapses' = .ok m' :=
    compile_eq_ok_iff.2 ⟨paddresses', prows.map (Prod.map R.projection id), saddresses',
      srows.map (Prod.map R.synapse id), ⟨hpmap', hprows', hsmap', hsrows'⟩, rfl, rfl,
      projectionEntries_eq_ok_iff.2 ⟨hpfits', rfl⟩, synapseEntries_eq_ok_iff.2 ⟨hsfits', rfl⟩,
      decoderEntries_eq_ok_iff.2 ⟨hdfits', rfl⟩, rfl⟩
  refine ⟨m', hm', ⟨?_, ?_, ?_, ?_⟩⟩
  · rw [hdigest]
    refine congrArg blake3 (hashed_congr hversion.symm ?_ ?_ ?_ ?_)
    · rw [hneurons]
      exact R.map_address_neurons hlayout hapart'
    · rw [hpentries, List.map_map, List.map_map, List.map_map]
      rfl
    · rw [hsentries, List.map_map, List.map_map, List.map_map]
      rfl
    · rw [hdentries, List.map_map, List.map_map, decoderRows_relabelled, List.map_map]
      rfl
  · intro e he i' hsame
    rw [hneurons, mem_sortByKey] at he
    exact mem_sortByKey.2 (mem_neuronEntries_of_sameNeuron hlayout he hsame)
  · intro e he
    rw [hpentries] at he
    obtain ⟨row, hrow, rfl⟩ := List.mem_map.1 he
    have hmoved : Prod.map R.projection id row ∈ prows.map (Prod.map R.projection id) :=
      List.mem_map.2 ⟨row, hrow, rfl⟩
    refine ⟨_, List.mem_map.2 ⟨Prod.map R.projection id row, hmoved, rfl⟩, rfl, ?_⟩
    have hpacked : row.1.toUInt16.toNat = row.1 := UInt16.toNat_ofNat_of_lt' (hpfits row hrow)
    show (R.projection row.1).toUInt16.toNat = R.projection row.1.toUInt16.toNat
    rw [hpacked]
    exact UInt16.toNat_ofNat_of_lt' (hpfits' _ hmoved)
  · intro e he
    rw [hsentries] at he
    obtain ⟨row, hrow, rfl⟩ := List.mem_map.1 he
    have hmoved : Prod.map R.synapse id row ∈ srows.map (Prod.map R.synapse id) :=
      List.mem_map.2 ⟨row, hrow, rfl⟩
    refine ⟨_, List.mem_map.2 ⟨Prod.map R.synapse id row, hmoved, rfl⟩, rfl, ?_⟩
    have hpacked : row.1.toUInt32.toNat = row.1 := UInt32.toNat_ofNat_of_lt' (hsfits row hrow)
    show (R.synapse row.1).toUInt32.toNat = R.synapse row.1.toUInt32.toNat
    rw [hpacked]
    exact UInt32.toNat_ofNat_of_lt' (hsfits' _ hmoved)

/-- **Persistent addresses name a phenotype whatever its packing.** -/
theorem persistent_addresses_name_the_phenotype (hlayout : layout.Apart)
    (htriples : (projections.map fun p => (p.sourceLobe, p.targetLobe, roleOf synapses p)).Nodup)
    (hpart : Partitions projections synapses)
    (h : compile blake3 layout projections synapses = .ok m) :
    ((m.neurons.map fun e => e.address).Nodup ∧ (m.neurons.map fun e => e.packedIndex).Nodup
      ∧ ∀ i : UInt32, i ∈ (m.neurons.map fun e => e.packedIndex) ↔
        ∃ r ∈ layout.enabledRegions, r.start.toNat ≤ i.toNat
          ∧ i.toNat < r.start.toNat + r.len.toNat)
    ∧ ((m.projections.map fun e => e.address).Nodup
      ∧ (m.projections.map fun e => e.packedIndex.toNat).Perm (List.range projections.length))
    ∧ ((m.synapses.map fun e => e.address).Nodup
      ∧ (m.synapses.map fun e => e.packedIndex.toNat).Perm (List.range synapses.length))
    ∧ ∀ (layout' : LobeLayout) (projections' : List CompiledProjection)
        (synapses' : List CompiledSynapse)
        (R : Repacking layout layout' projections projections' synapses synapses'),
      layout'.Disjoint → Partitions projections' synapses' →
        (synapses.map fun s => (s.routeIndex, s.source, s.target, s.kind)).Nodup →
          ∃ m', compile blake3 layout' projections' synapses' = .ok m' ∧ Keeps R m m' :=
  ⟨neurons_exact hlayout h, projections_exact h, synapses_exact h,
    fun _ _ _ R hlayout' hpart' hnodup =>
      compile_repacked hlayout htriples hpart h R hlayout' hpart' hnodup⟩

/-! ### A packing of three synapses, and the same one repacked -/

def sampleLayout : LobeLayout :=
  ⟨[⟨.perceptualIntegration, 0, 2, true⟩, ⟨.actionPlanning, 2, 2, true⟩]⟩

def sampleProjections : List CompiledProjection :=
  [⟨.perceptualIntegration, .actionPlanning, 0, 2⟩, ⟨.actionPlanning, .perceptualIntegration, 2, 1⟩]

def sampleSynapses : List CompiledSynapse :=
  [⟨0, 2, .one, .zero, 0, 0, .recurrent⟩, ⟨1, 3, .one, .zero, 0, 0, .recurrent⟩,
    ⟨2, 1, .one, .zero, 1, 0, .recurrent⟩]

def repackedLayout : LobeLayout :=
  ⟨[⟨.perceptualIntegration, 2, 2, true⟩, ⟨.actionPlanning, 0, 2, true⟩]⟩

def repackedProjections : List CompiledProjection :=
  [⟨.actionPlanning, .perceptualIntegration, 0, 1⟩, ⟨.perceptualIntegration, .actionPlanning, 1, 2⟩]

def repackedSynapses : List CompiledSynapse :=
  [⟨0, 3, .one, .zero, 0, 0, .recurrent⟩, ⟨3, 1, .one, .zero, 1, 0, .recurrent⟩,
    ⟨2, 0, .one, .zero, 1, 0, .recurrent⟩]

/-- The regions and the projections change places, and the synapses are reversed. -/
def sampleRepacking : Repacking sampleLayout repackedLayout sampleProjections repackedProjections
    sampleSynapses repackedSynapses where
  projection i := 1 - i
  synapse j := 2 - j
  regions := by decide
  projection_perm := by decide
  synapse_perm := by decide
  moved_projection i p hp := by
    match i with
    | 0 =>
      cases hp
      exact ⟨_, rfl, rfl, rfl, by decide⟩
    | 1 =>
      cases hp
      exact ⟨_, rfl, rfl, rfl, by decide⟩
    | _ + 2 => simp [sampleProjections] at hp
  moved_synapse j s hs := by
    match j with
    | 0 =>
      cases hs
      exact ⟨_, rfl, rfl, rfl, rfl, rfl, rfl, by decide, by decide⟩
    | 1 =>
      cases hs
      exact ⟨_, rfl, rfl, rfl, rfl, rfl, rfl, by decide, by decide⟩
    | 2 =>
      cases hs
      exact ⟨_, rfl, rfl, rfl, rfl, rfl, rfl, by decide, by decide⟩
    | _ + 3 => simp [sampleSynapses] at hs

/-- The hash of the sample's addresses. -/
def sampleAddressDigest : Blake3Digest :=
  ⟨#v[163, 9, 28, 213, 148, 50, 75, 102, 80, 236, 74, 66, 11, 53, 178, 139,
    31, 105, 110, 222, 36, 14, 5, 101, 109, 169, 195, 131, 147, 165, 38, 208]⟩

/-- The theorem on the sample. -/
theorem persistent_addresses_sample :
    ∃ m, compile (fun _ => sampleAddressDigest) sampleLayout sampleProjections sampleSynapses = .ok m
      ∧ (m.neurons.map fun e => e.address).Nodup
      ∧ ∃ m', compile (fun _ => sampleAddressDigest) repackedLayout repackedProjections
          repackedSynapses = .ok m' ∧ Keeps sampleRepacking m m' := by
  obtain ⟨m, hm⟩ : ∃ m, compile (fun _ => sampleAddressDigest) sampleLayout sampleProjections
      sampleSynapses = .ok m := by
    cases h : compile (fun _ => sampleAddressDigest) sampleLayout sampleProjections
      sampleSynapses with
    | ok m => exact ⟨m, rfl⟩
    | error e =>
      have hok : (compile (fun _ => sampleAddressDigest) sampleLayout sampleProjections
        sampleSynapses).isOk = true := by decide +kernel
      rw [h] at hok
      exact absurd hok Bool.false_ne_true
  have hall := persistent_addresses_name_the_phenotype ⟨⟨by decide, by decide⟩, by decide⟩
    (by decide +kernel) ⟨by decide, by decide, by decide⟩ hm
  exact ⟨m, hm, hall.1.1, hall.2.2.2 repackedLayout repackedProjections repackedSynapses
    sampleRepacking ⟨by decide, by decide⟩ ⟨by decide, by decide, by decide⟩ (by decide)⟩

/-! ### Two regions of one lobe -/

/-- Two regions that do not meet, of one lobe. -/
def doubledLayout : LobeLayout :=
  ⟨[⟨.perceptualIntegration, 0, 16, true⟩, ⟨.perceptualIntegration, 16, 16, true⟩]⟩

def doubledProjections : List CompiledProjection :=
  [⟨.perceptualIntegration, .perceptualIntegration, 0, 1⟩]

def doubledSynapses : List CompiledSynapse := [⟨0, 0, .one, .zero, 0, 0, .recurrent⟩]

/-- The hash of the doubled layout's addresses. -/
def doubledAddressDigest : Blake3Digest :=
  ⟨#v[148, 196, 219, 163, 108, 197, 133, 72, 214, 112, 141, 96, 120, 79, 123, 108,
    216, 211, 211, 52, 84, 133, 236, 54, 17, 174, 118, 253, 130, 115, 215, 140]⟩

/-- Disjoint regions alone do not keep the neurons' addresses apart. -/
theorem disjoint_regions_share_addresses :
    ¬∀ (layout : LobeLayout) (projections : List CompiledProjection)
      (synapses : List CompiledSynapse) (m : PersistentAddressMap), layout.Disjoint →
      (projections.map fun p => (p.sourceLobe, p.targetLobe, roleOf synapses p)).Nodup →
      Partitions projections synapses →
      compile (fun _ => doubledAddressDigest) layout projections synapses = .ok m →
      (m.neurons.map fun e => e.address).Nodup := by
  intro h
  cases hm : compile (fun _ => doubledAddressDigest) doubledLayout doubledProjections
    doubledSynapses with
  | error e =>
    have hok : (compile (fun _ => doubledAddressDigest) doubledLayout doubledProjections
      doubledSynapses).isOk = true := by decide +kernel
    rw [hm] at hok
    exact absurd hok Bool.false_ne_true
  | ok m =>
    have hnodup := h doubledLayout doubledProjections doubledSynapses m ⟨by decide, by decide⟩
      (by decide +kernel) ⟨by decide, by decide, by decide⟩ hm
    obtain ⟨_, _, _, _, -, -, hneurons, -⟩ := compile_eq_ok_iff.1 hm
    rw [hneurons, ((sortByKey_perm _ _).map _).nodup_iff] at hnodup
    exact absurd hnodup (by decide +kernel)

end PersistentAddressMap

end ALife
