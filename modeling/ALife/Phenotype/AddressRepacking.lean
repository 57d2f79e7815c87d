/-
# Addresses under a repacking

A repacking moves the regions, permutes the projections, and permutes the
synapses inside each projection, so that every packed index has a counterpart
(`Repacking`).  Stage by stage the rows of the repacked phenotype are the old
rows with their packed indices relabelled: a neuron's address depends on its
place in its lobe, a projection's on its lobes and on the kinds of its synapses,
a synapse's on the addresses of its parts.  Names that occur once sort in one way,
so the sorted tables agree address by address (`Repacking.compile`).
-/

import ALife.Phenotype.AddressTables

namespace ALife

open Machine

/-- The same place of the same lobe, under two layouts. -/
def SameNeuron (layout layout' : LobeLayout) (i i' : UInt32) : Prop :=
  ∃ r ∈ layout.enabledRegions, ∃ r' ∈ layout'.enabledRegions, r'.kind = r.kind ∧ r'.len = r.len
    ∧ ∃ k < r.len.toNat, i = r.start + k.toUInt32 ∧ i' = r'.start + k.toUInt32

instance (layout layout' : LobeLayout) (i i' : UInt32) :
    Decidable (SameNeuron layout layout' i i') :=
  inferInstanceAs (Decidable (∃ r ∈ layout.enabledRegions, ∃ r' ∈ layout'.enabledRegions,
    r'.kind = r.kind ∧ r'.len = r.len
      ∧ ∃ k < r.len.toNat, i = r.start + k.toUInt32 ∧ i' = r'.start + k.toUInt32))

namespace CompiledProjection

/-- The packed synapse index is in the range of the projection. -/
def Holds (p : CompiledProjection) (j : ℕ) : Prop :=
  p.synapseStart.toNat ≤ j ∧ j < p.synapseStart.toNat + p.synapseLen.toNat

instance (p : CompiledProjection) (j : ℕ) : Decidable (p.Holds j) :=
  inferInstanceAs (Decidable (_ ∧ _))

end CompiledProjection

/-- The ranges of the projections divide the synapses among them. -/
structure Partitions (projections : List CompiledProjection) (synapses : List CompiledSynapse) :
    Prop where
  fits : ∀ p ∈ projections, p.synapseStart.toNat + p.synapseLen.toNat < 2 ^ 32
  inside : ∀ p ∈ projections, p.synapseStart.toNat + p.synapseLen.toNat ≤ synapses.length
  once : (projections.flatMap fun p => List.range' p.synapseStart.toNat p.synapseLen.toNat).Perm
    (List.range synapses.length)

/-- A phenotype packed otherwise. -/
structure Repacking (layout layout' : LobeLayout) (projections projections' : List CompiledProjection)
    (synapses synapses' : List CompiledSynapse) where
  /-- The new packed index of a projection. -/
  projection : ℕ → ℕ
  /-- The new packed index of a synapse. -/
  synapse : ℕ → ℕ
  regions : (layout'.enabledRegions.map fun r => (r.kind, r.len)).Perm
    (layout.enabledRegions.map fun r => (r.kind, r.len))
  projection_perm : ((List.range projections.length).map projection).Perm
    (List.range projections'.length)
  synapse_perm : ((List.range synapses.length).map synapse).Perm (List.range synapses'.length)
  moved_projection : ∀ (i : ℕ) (p : CompiledProjection), projections[i]? = some p →
    ∃ p', projections'[projection i]? = some p' ∧ p'.sourceLobe = p.sourceLobe
      ∧ p'.targetLobe = p.targetLobe ∧ ∀ j < synapses.length, p'.Holds (synapse j) ↔ p.Holds j
  moved_synapse : ∀ (j : ℕ) (s : CompiledSynapse), synapses[j]? = some s →
    ∃ s', synapses'[synapse j]? = some s' ∧ s'.kind = s.kind
      ∧ s'.geneticWeight = s.geneticWeight ∧ s'.alpha = s.alpha
      ∧ s'.receptorIndex = s.receptorIndex
      ∧ s'.routeIndex.toNat = projection s.routeIndex.toNat
      ∧ SameNeuron layout layout' s.source s'.source ∧ SameNeuron layout layout' s.target s'.target

/-! ### Neurons -/

/-- The neuron at a place of a lobe has that place for its address. -/
theorem neuronAddress_of_place {layout : LobeLayout} (h : layout.Apart) {r : LobeRegion}
    (hr : r ∈ layout.enabledRegions) {k : ℕ} (hk : k < r.len.toNat) :
    neuronAddress layout (r.start + k.toUInt32) = .ok ⟨r.kind, k.toUInt32⟩ := by
  have hindex := toNat_start_add (h.fits r hr) hk
  have hcontains : ∀ s ∈ layout.enabledRegions,
      s.containsNeuron (r.start + k.toUInt32) = true ↔ s.start.toNat ≤ r.start.toNat + k
        ∧ r.start.toNat + k < s.start.toNat + s.len.toNat := by
    intro s hs
    have henabled : s.enabled = true := (List.mem_filter.1 hs).2
    have hend : s.finish.toNat = s.start.toNat + s.len.toNat := by
      have := h.fits s hs
      rw [LobeRegion.finish, UInt32.toNat_add]
      omega
    simp only [LobeRegion.containsNeuron, henabled, Bool.true_and, Bool.and_eq_true,
      decide_eq_true_eq, UInt32.le_iff_toNat_le, UInt32.lt_iff_toNat_lt, hindex, hend]
  have hfound : layout.lobeByNeuronIndex (r.start + k.toUInt32) = some r := by
    unfold LobeLayout.lobeByNeuronIndex
    cases hfind : layout.enabledRegions.find? (·.containsNeuron (r.start + k.toUInt32)) with
    | none => exact absurd ((hcontains r hr).2 (by omega)) (List.find?_eq_none.1 hfind r hr)
    | some s =>
      have hs := List.mem_of_find?_eq_some hfind
      have hfound : s.containsNeuron (r.start + k.toUInt32) = true :=
        List.find?_some (p := fun s : LobeRegion => s.containsNeuron _) hfind
      have hboth := (hcontains s hs).1 hfound
      by_contra hne
      have : Std.Symm fun r s : LobeRegion => r.start.toNat + r.len.toNat ≤ s.start.toNat
          ∨ s.start.toNat + s.len.toNat ≤ r.start.toNat := ⟨fun _ _ => Or.symm⟩
      have happart := h.disjoint.forall hs hr fun heq => hne (by rw [heq])
      omega
  unfold neuronAddress
  rw [hfound]
  show Except.ok _ = _
  have hsub : r.start + k.toUInt32 - r.start = k.toUInt32 := by
    rw [UInt32.add_comm, UInt32.add_sub_cancel]
  rw [hsub]

/-- One address, one neuron. -/
theorem neuronAddress_inj {layout : LobeLayout} (h : layout.Apart) {i j : UInt32}
    {a : PersistentNeuronAddress} (hi : neuronAddress layout i = .ok a)
    (hj : neuronAddress layout j = .ok a) : i = j := by
  obtain ⟨r, hr, hi⟩ := contract_bind_eq_ok_iff.1 hi
  obtain ⟨s, hs, hj⟩ := contract_bind_eq_ok_iff.1 hj
  rw [okOr_eq_ok_iff] at hr hs
  rw [Except.ok.injEq] at hi hj
  rw [← hj, PersistentNeuronAddress.mk.injEq] at hi
  have hrs := List.inj_on_of_nodup_map h.kinds (List.mem_of_find?_eq_some hr)
    (List.mem_of_find?_eq_some hs) hi.1
  rw [hrs] at hi
  rw [← UInt32.sub_add_cancel i s.start, hi.2, UInt32.sub_add_cancel]

/-- The same neuron keeps its address. -/
theorem SameNeuron.neuronAddress_eq {layout layout' : LobeLayout} (h : layout.Apart)
    (h' : layout'.Apart) {i i' : UInt32} (hsame : SameNeuron layout layout' i i') :
    neuronAddress layout' i' = neuronAddress layout i := by
  obtain ⟨r, hr, r', hr', hkind, hlen, k, hk, rfl, rfl⟩ := hsame
  rw [neuronAddress_of_place h hr hk, neuronAddress_of_place h' hr' (hlen ▸ hk), hkind]

/-! ### Roles -/

theorem foldRole_some_eq_ok_iff {role : PersistentProjectionRole} {l : List CompiledSynapse}
    {o : Option PersistentProjectionRole} :
    foldRole (some role) l = .ok o ↔ (∀ s ∈ l, synapseRole s.kind = role) ∧ o = some role := by
  induction l generalizing role with
  | nil => simp [foldRole, eq_comm]
  | cons s l ih =>
    simp only [foldRole, contract_check_eq_ok_iff, reject_eq_ok_iff, ih, List.forall_mem_cons,
      Option.mem_def, Option.some.injEq, exists_eq_left', ne_eq, not_not]
    constructor
    · rintro ⟨rfl, hall, rfl⟩
      exact ⟨⟨rfl, hall⟩, rfl⟩
    · rintro ⟨⟨rfl, hall⟩, rfl⟩
      exact ⟨rfl, hall, rfl⟩

/-- The role of a projection is the role of each of its synapses. -/
theorem projectionRole_eq_ok_iff {l : List CompiledSynapse} {role : PersistentProjectionRole} :
    projectionRole l = .ok role ↔ l ≠ [] ∧ ∀ s ∈ l, synapseRole s.kind = role := by
  unfold projectionRole
  rw [contract_bind_eq_ok_iff]
  simp only [okOr_eq_ok_iff]
  cases l with
  | nil => simp [foldRole]
  | cons s l =>
    simp only [foldRole, contract_check_eq_ok_iff, reject_eq_ok_iff, foldRole_some_eq_ok_iff,
      List.forall_mem_cons]
    constructor
    · rintro ⟨_, ⟨-, hall, rfl⟩, h⟩
      obtain rfl := Option.some.inj h
      exact ⟨by simp, rfl, hall⟩
    · rintro ⟨-, rfl, hall⟩
      exact ⟨_, ⟨by simp, hall, rfl⟩, rfl⟩

theorem mem_take_drop {α : Type} {l : List α} {start stop : ℕ} {a : α} :
    a ∈ (l.drop start).take (stop - start) ↔ ∃ j, start ≤ j ∧ j < stop ∧ l[j]? = some a := by
  rw [List.mem_iff_getElem?]
  simp only [List.getElem?_take, List.getElem?_drop]
  constructor
  · rintro ⟨k, hk⟩
    split_ifs at hk with hbound
    exact ⟨start + k, by omega, by omega, hk⟩
  · rintro ⟨j, hstart, hstop, hget⟩
    refine ⟨j - start, ?_⟩
    rwa [if_pos (by omega), show start + (j - start) = j by omega]

/-- The role of a projection, read off the synapses that it holds. -/
theorem roleOf_eq_ok_iff {synapses : List CompiledSynapse} {p : CompiledProjection}
    (hfits : p.synapseStart.toNat + p.synapseLen.toNat < 2 ^ 32)
    (hinside : p.synapseStart.toNat + p.synapseLen.toNat ≤ synapses.length)
    {role : PersistentProjectionRole} :
    roleOf synapses p = .ok role ↔ (∃ j, p.Holds j)
      ∧ ∀ (j : ℕ) (s : CompiledSynapse), p.Holds j → synapses[j]? = some s →
        synapseRole s.kind = role := by
  have hstop : (p.synapseStart + p.synapseLen).toNat = p.synapseStart.toNat + p.synapseLen.toNat := by
    rw [UInt32.toNat_add]
    omega
  unfold roleOf slice?
  rw [hstop, if_pos ⟨by omega, hinside⟩, okOr]
  show projectionRole _ = _ ↔ _
  have hne : ∀ l : List CompiledSynapse, l ≠ [] ↔ ∃ s, s ∈ l := by
    intro l
    constructor
    · exact List.exists_mem_of_ne_nil l
    · rintro ⟨s, hs⟩
      exact List.ne_nil_of_mem hs
  rw [projectionRole_eq_ok_iff, hne]
  simp only [mem_take_drop]
  constructor
  · rintro ⟨⟨s, j, hstart, hend, -⟩, hall⟩
    exact ⟨⟨j, hstart, hend⟩, fun j s hj hs => hall s ⟨j, hj.1, hj.2, hs⟩⟩
  · rintro ⟨⟨j, hj⟩, hall⟩
    have hbound : j < synapses.length := lt_of_lt_of_le hj.2 hinside
    refine ⟨⟨synapses[j], j, hj.1, hj.2, List.getElem?_eq_getElem hbound⟩, ?_⟩
    rintro s ⟨j, hstart, hend, hs⟩
    exact hall j s ⟨hstart, hend⟩ hs

/-! ### Rows -/

/-- Items that keep their values under new packed indices are the old rows relabelled. -/
theorem enumerate_perm {A : Type} {l l' : List A} {f : ℕ → ℕ}
    (hperm : ((List.range l.length).map f).Perm (List.range l'.length))
    (hget : ∀ (i : ℕ) (a : A), l[i]? = some a → l'[f i]? = some a) :
    (enumerate l').Perm ((enumerate l).map (Prod.map f id)) := by
  have hfst : ((enumerate l).map (Prod.map f id)).map Prod.fst = (List.range l.length).map f := by
    rw [← map_fst_enumerate, List.map_map, List.map_map]
    rfl
  refine (List.perm_ext_iff_of_nodup ?_ ?_).2 fun ⟨k, a⟩ => ?_
  · refine List.Nodup.of_map Prod.fst ?_
    rw [map_fst_enumerate]
    exact List.nodup_range
  · refine List.Nodup.of_map Prod.fst ?_
    rw [hfst]
    exact hperm.nodup_iff.2 List.nodup_range
  rw [mem_enumerate, List.mem_map]
  constructor
  · intro hk
    have hrange : k ∈ List.range l'.length := List.mem_range.2 (List.getElem?_eq_some_iff.1 hk).1
    obtain ⟨i, hi, rfl⟩ := List.mem_map.1 (hperm.mem_iff.2 hrange)
    obtain ⟨b, hb⟩ : ∃ b, l[i]? = some b := ⟨_, List.getElem?_eq_getElem (List.mem_range.1 hi)⟩
    have hmoved := hget i b hb
    rw [hk, Option.some.injEq] at hmoved
    exact ⟨(i, b), mem_enumerate.2 hb, by rw [hmoved]; rfl⟩
  · rintro ⟨⟨i, b⟩, hrow, heq⟩
    obtain ⟨rfl, rfl⟩ := Prod.mk.inj heq
    exact hget i b (mem_enumerate.1 hrow)

theorem map_snd_enumerate {A : Type} (l : List A) : (enumerate l).map Prod.snd = l := by
  unfold enumerate
  exact List.map_snd_zip (by simp)

/-- Names that occur once: the numbered rows are the old ones relabelled. -/
theorem numberRows_of_perm {A : Type} {names : A → List ℕ} {setOrdinal : A → UInt16 → A}
    {key : A → List ℕ ×ₗ ℕ} (hkey : Function.Injective key) {f : ℕ → ℕ} {l l' : List A}
    (hnodup : l.Nodup) (hperm : (enumerate l').Perm ((enumerate l).map (Prod.map f id)))
    {rows : List (ℕ × A)}
    (h : numberRows names setOrdinal (sortByKey (fun row => key row.2) (enumerate l)) = .ok rows) :
    numberRows names setOrdinal (sortByKey (fun row => key row.2) (enumerate l'))
      = .ok (rows.map (Prod.map f id)) := by
  have hkeys : ((enumerate l).map fun row => key row.2).Nodup := by
    have hmap : ((enumerate l).map fun row => key row.2) = l.map key := by
      conv_rhs => rw [← map_snd_enumerate l]
      rw [List.map_map]
      rfl
    rw [hmap]
    exact hnodup.map hkey
  have hsort : sortByKey (fun row : ℕ × A => key row.2) (enumerate l')
      = (sortByKey (fun row => key row.2) (enumerate l)).map (Prod.map f id) :=
    sortByKey_eq_map (fun _ _ => rfl) hkeys hperm
  rw [hsort]
  exact numberRows_map f h

theorem lookup_of_mem {A : Type} {rows : List (ℕ × A)} (hnodup : (rows.map Prod.fst).Nodup)
    {k : ℕ} {a : A} (h : (k, a) ∈ rows) : rows.lookup k = some a := by
  induction rows with
  | nil => simp at h
  | cons row rows ih =>
    obtain ⟨k', a'⟩ := row
    rw [List.map_cons, List.nodup_cons] at hnodup
    obtain heq | hmem := List.mem_cons.1 h
    · obtain ⟨rfl, rfl⟩ := Prod.mk.inj heq
      exact List.lookup_cons_self
    · have hne : k ≠ k' := by
        rintro rfl
        exact hnodup.1 (List.mem_map.2 ⟨_, hmem, rfl⟩)
      rw [List.lookup_cons, beq_false_of_ne hne]
      exact ih hnodup.2 hmem

theorem mem_of_lookup {A : Type} {rows : List (ℕ × A)} {k : ℕ} {a : A}
    (h : rows.lookup k = some a) : (k, a) ∈ rows := by
  induction rows with
  | nil => simp at h
  | cons row rows ih =>
    obtain ⟨k', a'⟩ := row
    by_cases hk : k = k'
    · subst hk
      rw [List.lookup_cons_self, Option.some.injEq] at h
      rw [h]
      exact List.mem_cons_self
    · rw [List.lookup_cons, beq_false_of_ne hk] at h
      exact List.mem_cons_of_mem _ (ih h)

/-! ### Keys tell addresses -/

theorem PersistentNeuronAddress.key_injective : Function.Injective PersistentNeuronAddress.key := by
  intro a b h
  simp only [key, List.cons.injEq, UInt16.toNat_inj, UInt32.toNat_inj, and_true] at h
  exact PersistentNeuronAddress.ext (LobeKind.raw_injective h.1) h.2

theorem PersistentProjectionAddress.key_injective :
    Function.Injective PersistentProjectionAddress.key := by
  intro a b h
  simp only [key, names, toLex_inj, Prod.mk.injEq, List.cons.injEq, UInt16.toNat_inj,
    UInt8.toNat_inj, and_true] at h
  exact PersistentProjectionAddress.ext (LobeKind.raw_injective h.1.1)
    (LobeKind.raw_injective h.1.2.1) (PersistentProjectionRole.raw_injective h.1.2.2) h.2

theorem decoderNames_injective : Function.Injective decoderNames := by
  intro a b h
  cases a with
  | none =>
    cases b with
    | none => rfl
    | some b => simp [decoderNames] at h
  | some a =>
    cases b with
    | none => simp [decoderNames] at h
    | some b =>
      simp only [decoderNames, PersistentDecoderAddress.names, List.cons.injEq, UInt32.toNat_inj,
        UInt16.toNat_inj, UInt8.toNat_inj, true_and, and_true] at h
      rw [PersistentDecoderAddress.ext (DecoderHeadKind.raw_injective h.1) h.2.1 h.2.2.1 h.2.2.2]

theorem PersistentSynapseAddress.key_injective :
    Function.Injective PersistentSynapseAddress.key := by
  intro a b h
  simp only [key, names, PersistentProjectionAddress.names, PersistentNeuronAddress.key, toLex_inj,
    Prod.mk.injEq, List.cons_append, List.nil_append, List.cons.injEq, UInt16.toNat_inj,
    UInt32.toNat_inj, UInt8.toNat_inj] at h
  obtain ⟨⟨hsource, htarget, hrole, hordinal, hslobe, hs, htlobe, ht, hdecoder⟩, hduplicate⟩ := h
  exact PersistentSynapseAddress.ext
    (PersistentProjectionAddress.ext (LobeKind.raw_injective hsource)
      (LobeKind.raw_injective htarget) (PersistentProjectionRole.raw_injective hrole) hordinal)
    (PersistentNeuronAddress.ext (LobeKind.raw_injective hslobe) hs)
    (PersistentNeuronAddress.ext (LobeKind.raw_injective htlobe) ht)
    (decoderNames_injective hdecoder) hduplicate

theorem decoderAddress_injective : Function.Injective decoderAddress := by
  intro a b h
  cases a with
  | recurrent =>
    cases b with
    | recurrent => rfl
    | decoder c => simp [decoderAddress] at h
  | decoder c =>
    cases b with
    | recurrent => simp [decoderAddress] at h
    | decoder d =>
      simp only [decoderAddress, Option.some.injEq, PersistentDecoderAddress.mk.injEq] at h
      rw [DecoderSynapseCoordinate.ext h.1 (CandidateActionFamily.raw_injective h.2.1) h.2.2.1
        h.2.2.2]

end ALife
