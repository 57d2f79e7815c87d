/-
# One change of a habitat authority

On an authority whose rows ascend by id (`Ordered`) the lookups are exact, and
each of the four changes keeps the rows in order and the authority accepted, for
the set of creatures that the change makes known.  A change that fails leaves
the authority as it was, whatever the order of its rows.
-/

import ALife.World.HabitatLedger

namespace ALife

open Machine

namespace HabitatAuthority

variable {a a' : HabitatAuthority} {known : List OrganismId} {worldTick : Tick}

/-! ### Order and lookups -/

/-- The habitats and the membership rows ascend by id. -/
structure Ordered (a : HabitatAuthority) : Prop where
  habitats : a.habitatIds.Pairwise (· < ·)
  rows : a.membershipIds.Pairwise (· < ·)

instance (a : HabitatAuthority) : Decidable a.Ordered :=
  decidable_of_iff (a.habitatIds.Pairwise (· < ·) ∧ a.membershipIds.Pairwise (· < ·))
    ⟨fun h => ⟨h.1, h.2⟩, fun h => ⟨h.1, h.2⟩⟩

/-- A lookup finds the row of its id, whenever one is stored. -/
structure LookupsExact (a : HabitatAuthority) : Prop where
  habitat : ∀ id h, a.habitat id = some h ↔ h ∈ a.habitats ∧ h.id = id
  membership : ∀ id m, a.membership id = some m ↔ m ∈ a.memberships ∧ m.organismId = id

theorem Ordered.findMembership (ho : a.Ordered) {id : OrganismId} {m : HabitatMembership}
    (hm : m ∈ a.memberships) (hid : m.organismId = id) : ∃ i, a.findMembership id = some (i, m) := by
  have hkey : id.raw.toNat ∈ a.membershipIds := List.mem_map.2 ⟨m, hm, by rw [hid]⟩
  obtain ⟨i, hi⟩ := (exists_binarySearch_iff (ho.rows.imp Nat.le_of_lt)).2 hkey
  have hget := getElem?_of_binarySearch hi
  rw [membershipIds, List.getElem?_map] at hget
  obtain ⟨m', hm', hraw⟩ := Option.map_eq_some_iff.1 hget
  have heq : m' = m := List.inj_on_of_nodup_map (ho.rows.imp ne_of_lt)
    (List.mem_of_getElem? hm') hm (by rw [hraw, hid])
  refine ⟨i, ?_⟩
  unfold HabitatAuthority.findMembership
  rw [hi]
  dsimp only
  rw [hm', heq]
  rfl

theorem Ordered.lookupsExact (ho : a.Ordered) : a.LookupsExact where
  habitat id h := by
    refine ⟨mem_of_habitat, ?_⟩
    rintro ⟨hh, hid⟩
    have hkey : id.raw.toNat ∈ a.habitatIds := List.mem_map.2 ⟨h, hh, by rw [hid]⟩
    obtain ⟨i, hi⟩ := (exists_binarySearch_iff (ho.habitats.imp Nat.le_of_lt)).2 hkey
    have hget := getElem?_of_binarySearch hi
    rw [habitatIds, List.getElem?_map] at hget
    obtain ⟨h', hh', hraw⟩ := Option.map_eq_some_iff.1 hget
    have heq : h' = h := List.inj_on_of_nodup_map (ho.habitats.imp ne_of_lt)
      (List.mem_of_getElem? hh') hh (by rw [hraw, hid])
    unfold HabitatAuthority.habitat
    rw [hi]
    exact heq ▸ hh'
  membership id m := by
    refine ⟨mem_of_membership, ?_⟩
    rintro ⟨hm, hid⟩
    obtain ⟨i, hi⟩ := ho.findMembership hm hid
    unfold HabitatAuthority.membership
    rw [hi]
    rfl

/-- **Distinct rows are all found exactly when they ascend.** -/
theorem lookupsExact_iff_ordered (hhabitats : a.habitatIds.Nodup) (hrows : a.membershipIds.Nodup) :
    a.LookupsExact ↔ a.Ordered := by
  refine ⟨fun h => ⟨?_, ?_⟩, Ordered.lookupsExact⟩
  · refine pairwise_lt_of_found hhabitats fun k hk => ?_
    obtain ⟨row, hrow, rfl⟩ := List.mem_map.1 hk
    have hfound := (h.habitat row.id row).2 ⟨hrow, rfl⟩
    unfold HabitatAuthority.habitat at hfound
    split at hfound
    · exact ⟨_, ‹_›⟩
    · cases hfound
  · refine pairwise_lt_of_found hrows fun k hk => ?_
    obtain ⟨row, hrow, rfl⟩ := List.mem_map.1 hk
    have hfound := (h.membership row.organismId row).2 ⟨hrow, rfl⟩
    unfold HabitatAuthority.membership HabitatAuthority.findMembership at hfound
    split at hfound
    · exact ⟨_, ‹_›⟩
    · cases hfound

/-! ### What the checks depend on -/

/-- A transfer that was authorised stays so when the habitats stay, the row of its
creature is found and the tags of its creature stay. -/
theorem validateTransferAuthority_mono {id : OrganismId} {prior new : HabitatId}
    {p : HabitatTransferProvenance} (h : a.validateTransferAuthority id prior new p = .ok ())
    (hhabitats : a'.habitats = a.habitats) (hrow : ∃ m, a'.membership id = some m)
    (htag : ∀ reserve, a.isTagged reserve id = true → a'.isTagged reserve id = true) :
    a'.validateTransferAuthority id prior new p = .ok () := by
  -- the actor is no creature, or the one that is moved
  have hactor : ∀ actor, p.actor = some actor → a'.validateActorKnown actor = .ok () := by
    obtain ⟨-, -, actor, hactor, -, hself⟩ := of_validateTransferAuthority h
    intro actor' hactor'
    obtain rfl := Option.some.inj (hactor'.symm.trans hactor)
    obtain ⟨m, hm⟩ := hrow
    cases actor' with
    | organism other =>
      rw [hself other rfl, validateActorKnown, failIf_eq_ok_iff, hm]
      exact Option.some_ne_none m
    | player => rfl
    | teacher => rfl
    | worldAuthority => rfl
  have hhabitat : a'.habitat = a.habitat := by
    funext id
    unfold HabitatAuthority.habitat habitatIds
    rw [hhabitats]
  simp only [validateTransferAuthority, except_bind_eq_ok_iff, getOr_eq_ok_iff, hhabitat] at h ⊢
  obtain ⟨hprior, hp, hnew, hn, actor, hact, authority, hauth, _, -, hrest⟩ := h
  refine ⟨hprior, hp, hnew, hn, actor, hact, authority, hauth, (), hactor actor hact, ?_⟩
  cases authority with
  | reserveKeeper =>
    simp only [except_seq_eq_ok_iff, failIf_eq_ok_iff, Bool.not_eq_false] at hrest ⊢
    exact ⟨hrest.1, hrest.2.1, htag _ hrest.2.2⟩
  | creatureChoice => exact hrest
  | managedController => exact hrest
  | schoolAdministrator => exact hrest
  | worldSystem => exact hrest

/-- A tag stays valid when the habitats stay, its creature keeps its origin and the next
sequence does not go back. -/
theorem TagOk.mono {tag : HabitatTagRecord} (h : a.TagOk tag) (hhabitats : a'.habitats = a.habitats)
    (hrow : ∀ m, a.membership tag.organismId = some m → ∃ m',
      a'.membership tag.organismId = some m' ∧ m'.originTick = m.originTick)
    (hnext : a.nextTagSequence ≤ a'.nextTagSequence) : a'.TagOk tag := by
  obtain ⟨⟨reserve, hreserve, hmode⟩, ⟨m, hm, htick⟩, hactor, hseq⟩ := h
  obtain ⟨m', hm', horigin⟩ := hrow m hm
  refine ⟨⟨reserve, ?_, hmode⟩, ⟨m', hm', horigin ▸ htick⟩, hactor, UInt64.lt_of_lt_of_le hseq hnext⟩
  unfold HabitatAuthority.habitat habitatIds at hreserve ⊢
  rwa [hhabitats]

/-- A transfer stays valid when the habitats stay, the rows of its creature and its actor
are still found, the tags stay and the next sequence does not go back. -/
theorem TransferOk.mono {t : HabitatTransferRecord} (h : a.TransferOk t)
    (hhabitats : a'.habitats = a.habitats)
    (hrow : ∀ m, a.membership t.organismId = some m → ∃ m', a'.membership t.organismId = some m')
    (htag : ∀ reserve, a.isTagged reserve t.organismId = true →
      a'.isTagged reserve t.organismId = true)
    (hnext : a.nextTransferSequence ≤ a'.nextTransferSequence) : a'.TransferOk t := by
  obtain ⟨hne, hprov, hauth, ⟨m, hm⟩, hseq⟩ := h
  obtain ⟨m', hm'⟩ := hrow m hm
  exact ⟨hne, hprov, validateTransferAuthority_mono hauth hhabitats ⟨m', hm'⟩ htag, ⟨m', hm'⟩,
    UInt64.lt_of_lt_of_le hseq hnext⟩

/-! ### A tag -/

theorem tagCreature_cases {reserveId : HabitatId} {id : OrganismId} {tick : Tick}
    {actor : HabitatActor} {record : HabitatTagRecord}
    (h : tagCreature reserveId id tick actor a = .ok record a') :
    record = ⟨a.nextTagSequence, reserveId, id, tick, actor⟩
      ∧ (∃ reserve, a.habitat reserveId = some reserve ∧ reserve.mode = .reserve)
      ∧ (∃ m, a.membership id = some m ∧ m.originTick.raw ≤ tick.raw)
      ∧ (actor = .player ∨ actor = .worldAuthority) ∧ a.isTagged reserveId id = false
      ∧ ∃ next, checkedAdd64 a.nextTagSequence 1 = some next
        ∧ a' = { a with nextTagSequence := next, tags := a.tags ++ [record] } := by
  rw [tagCreature, bind_apply, get_apply] at h
  simp only [ofResult_bind_eq_ok_iff, getOr_eq_ok_iff, failIf_eq_ok_iff, not_not, ne_eq,
    not_and_or, UInt64.not_lt, Bool.not_eq_true] at h
  obtain ⟨reserve, hreserve, _, hmode, m, hm, _, htick, _, -, _, hactor, _, hnew, next, hnext, h⟩ := h
  cases h
  exact ⟨rfl, ⟨reserve, hreserve, hmode⟩, ⟨m, hm, htick⟩, hactor, hnew, next, hnext, rfl⟩

theorem tagCreature_keepsOnError (reserveId : HabitatId) (id : OrganismId) (tick : Tick)
    (actor : HabitatActor) : KeepsOnError (tagCreature reserveId id tick actor) a := by
  refine keepsOnError_get (keepsOnError_bind fun reserve _ => keepsOnError_bind fun _ _ =>
    keepsOnError_bind fun membership _ => keepsOnError_bind fun _ _ => keepsOnError_bind fun _ _ =>
    keepsOnError_bind fun _ _ => keepsOnError_bind fun _ _ => keepsOnError_bind fun next _ => ?_)
  exact keepsOnError_set

theorem toNat_of_checkedAdd64_one {n next : UInt64} (h : checkedAdd64 n 1 = some next) :
    next.toNat = n.toNat + 1 :=
  checkedAdd64_eq_some_iff.1 h

/-- Tags added to the ledger leave those of before. -/
theorem isTagged_append {reserve : HabitatId} {id : OrganismId} {tags : List HabitatTagRecord}
    {n : UInt64} (h : a.isTagged reserve id = true) :
    ({ a with nextTagSequence := n, tags := a.tags ++ tags } : HabitatAuthority).isTagged reserve id
      = true := by
  unfold isTagged at h ⊢
  rw [List.any_append, h, Bool.true_or]

/-- **A tag keeps the authority accepted.** -/
theorem Accepted.of_tagCreature (ha : a.Accepted known worldTick) {reserveId : HabitatId}
    {id : OrganismId} {tick : Tick} {actor : HabitatActor} {record : HabitatTagRecord}
    (htick : tick.raw ≤ worldTick.raw)
    (h : tagCreature reserveId id tick actor a = .ok record a') : a'.Accepted known worldTick := by
  obtain ⟨hrecord, hreserve, hrow, hactor, hnew, next, hnext, rfl⟩ := tagCreature_cases h
  have hsucc := toNat_of_checkedAdd64_one hnext
  have hle : a.nextTagSequence ≤ next := UInt64.le_iff_toNat_le.2 (by omega)
  have hlt : a.nextTagSequence < next := UInt64.lt_iff_toNat_lt.2 (by omega)
  have hold : ∀ tag ∈ a.tags, tag.sequence.toNat < a.nextTagSequence.toNat :=
    fun tag htag => UInt64.lt_iff_toNat_lt.1 (ha.tagOk tag htag).2.2.2
  have hpos : a.nextTagSequence.toNat ≠ 0 := fun h0 => ha.nextTag (UInt64.toNat_inj.1 h0)
  have hsequence : record.sequence = a.nextTagSequence := by rw [hrecord]
  exact { ha with
    nextTag := fun h0 => by
      dsimp only at h0
      rw [h0] at hsucc
      exact absurd hsucc (by simp)
    tags_increase := by
      refine List.pairwise_append.2 ⟨ha.tags_increase, List.pairwise_singleton _ _, ?_⟩
      intro tag htag tag' htag'
      rw [List.mem_singleton.1 htag', hsequence]
      exact hold tag htag
    tags_pos := by
      refine List.forall_mem_append.2 ⟨ha.tags_pos, List.forall_mem_singleton.2 ?_⟩
      rw [hsequence]
      omega
    tagOk := by
      refine List.forall_mem_append.2 ⟨fun tag htag => (ha.tagOk tag htag).mono rfl
        (fun m hm => ⟨m, hm, rfl⟩) hle, List.forall_mem_singleton.2 ?_⟩
      rw [hrecord]
      exact ⟨hreserve, hrow, hactor, hlt⟩
    tags_nodup := by
      rw [List.map_append, List.map_singleton, ← List.concat_eq_append, List.nodup_concat]
      refine ⟨fun hmem => ?_, ha.tags_nodup⟩
      obtain ⟨tag, htag, heq⟩ := List.mem_map.1 hmem
      rw [hrecord] at heq
      obtain ⟨hreserve', hid'⟩ := Prod.mk.inj heq
      have htagged : a.isTagged reserveId id = true := List.any_eq_true.2 ⟨tag, htag,
        decide_eq_true ⟨(HabitatId.mk.injEq _ _).mpr hreserve', (OrganismId.mk.injEq _ _).mpr hid'⟩⟩
      rw [hnew] at htagged
      cases htagged
    transferOk := fun t ht => (ha.transferOk t ht).mono rfl (fun m hm => ⟨m, hm⟩)
      (fun reserve hreserve => isTagged_append hreserve) (UInt64.le_refl _)
    replays := ha.replays
    tagTick := List.forall_mem_append.2 ⟨ha.tagTick, List.forall_mem_singleton.2 (by
      rw [hrecord]
      exact htick)⟩ }

/-! ### A registration -/

theorem registerCreature_cases {id : OrganismId} {habitatId : HabitatId} {tick : Tick}
    (h : registerCreature id habitatId tick a = .ok () a') :
    id.raw ≠ 0 ∧ (∃ hab, a.habitat habitatId = some hab)
      ∧ ∃ index, binarySearch a.membershipIds id.raw.toNat = .error index
        ∧ a' = { a with memberships := a.memberships.insertIdx index (newRow id habitatId tick) } := by
  rw [registerCreature, bind_apply, get_apply] at h
  simp only [ofResult_bind_eq_ok_iff, failIf_eq_ok_iff] at h
  obtain ⟨_, hid, _, hhab, h⟩ := h
  refine ⟨hid, Option.ne_none_iff_exists'.1 hhab, ?_⟩
  cases hsearch : binarySearch a.membershipIds id.raw.toNat with
  | ok index =>
    rw [hsearch] at h
    cases h
  | error index =>
    rw [hsearch] at h
    cases h
    exact ⟨index, rfl, rfl⟩

theorem registerCreature_keepsOnError (id : OrganismId) (habitatId : HabitatId) (tick : Tick) :
    KeepsOnError (registerCreature id habitatId tick) a := by
  refine keepsOnError_get (keepsOnError_bind fun _ _ => keepsOnError_bind fun _ _ => ?_)
  cases binarySearch a.membershipIds id.raw.toNat with
  | ok index =>
    intro e s' h
    cases h
    rfl
  | error index =>
    intro e s' h
    cases h

theorem Ordered.of_registerCreature (ho : a.Ordered) {id : OrganismId} {habitatId : HabitatId}
    {tick : Tick} (h : registerCreature id habitatId tick a = .ok () a') : a'.Ordered := by
  obtain ⟨-, -, index, hindex, rfl⟩ := registerCreature_cases h
  obtain ⟨hle, hbelow, habove⟩ := binarySearch_eq_error (ho.rows.imp Nat.le_of_lt) hindex
  refine ⟨ho.habitats, ?_⟩
  rw [membershipIds, List.map_insertIdx]
  exact pairwise_insertIdx ho.rows hle hbelow habove

/-- **A registration keeps the authority accepted**, its creature known. -/
theorem Accepted.of_registerCreature (ha : a.Accepted known worldTick) (ho : a.Ordered)
    {id : OrganismId} {habitatId : HabitatId} {tick : Tick} (htick : tick.raw ≤ worldTick.raw)
    (h : registerCreature id habitatId tick a = .ok () a') :
    a'.Accepted (known ++ [id]) worldTick := by
  have ho' := ho.of_registerCreature h
  obtain ⟨hid, ⟨hab, hhab⟩, index, hindex, rfl⟩ := registerCreature_cases h
  obtain ⟨hle, -, -⟩ := binarySearch_eq_error (ho.rows.imp Nat.le_of_lt) hindex
  have hlength : index ≤ a.memberships.length := by rwa [membershipIds, List.length_map] at hle
  have hnew : ∀ m ∈ a.memberships, m.organismId ≠ id := by
    rintro m hm rfl
    obtain ⟨i, hi⟩ := (exists_binarySearch_iff (ho.rows.imp Nat.le_of_lt)).2
      (List.mem_map.2 ⟨m, hm, rfl⟩)
    rw [hindex] at hi
    cases hi
  obtain ⟨hhabmem, hhabid⟩ := mem_of_habitat hhab
  generalize hrow : newRow id habitatId tick = row at *
  have hmem : ∀ m, m ∈ a.memberships.insertIdx index row ↔ m = row ∨ m ∈ a.memberships :=
    fun m => List.mem_insertIdx hlength
  have hlookup : ∀ o m, a.membership o = some m →
      ({ a with memberships := a.memberships.insertIdx index row } : HabitatAuthority).membership o
        = some m := by
    intro o m hm
    obtain ⟨hin, horg⟩ := mem_of_membership hm
    exact (ho'.lookupsExact.membership o m).2 ⟨(hmem m).2 (Or.inr hin), horg⟩
  exact { ha with
    rows_nodup := ho'.rows.imp ne_of_lt
    rowOk := fun m hm => by
      obtain rfl | hm := (hmem m).1 hm
      · rw [← hrow]
        exact ⟨hid, by simp [newRow], ⟨hab, hhabmem, hhabid⟩, hab, hhabmem, hhabid⟩
      · obtain ⟨h0, hk, hh, horigin⟩ := ha.rowOk m hm
        exact ⟨h0, List.mem_append_left _ hk, hh, horigin⟩
    known := by
      refine List.forall_mem_append.2 ⟨fun o hk => ?_, List.forall_mem_singleton.2 ⟨hid, row, ?_, ?_⟩⟩
      · obtain ⟨h0, m, hm, hmo⟩ := ha.known o hk
        exact ⟨h0, m, (hmem m).2 (Or.inr hm), hmo⟩
      · exact (hmem row).2 (Or.inl rfl)
      · rw [← hrow]
        rfl
    tagOk := fun tag htag => (ha.tagOk tag htag).mono rfl (fun m hm => ⟨m, hlookup _ m hm, rfl⟩)
      (UInt64.le_refl _)
    transferOk := fun t ht => (ha.transferOk t ht).mono rfl (fun m hm => ⟨m, hlookup _ m hm⟩)
      (fun _ htag => htag) (UInt64.le_refl _)
    replays := fun m hm => by
      obtain rfl | hm := (hmem m).1 hm
      · -- no transfer is of the new creature
        have hnone : a.transfersOf m.organismId = [] := by
          refine List.filter_eq_nil_iff.2 fun t ht heq => ?_
          obtain ⟨m', hm'⟩ := (ha.transferOk t ht).2.2.2.1
          obtain ⟨hin, horg⟩ := mem_of_membership hm'
          refine hnew m' hin (horg.trans ((of_decide_eq_true heq).trans ?_))
          rw [← hrow]
          rfl
        show (a.transfersOf m.organismId).foldlM replayTransfer (origin m) = .ok m
        rw [hnone, ← hrow]
        rfl
      · exact ha.replays m hm
    rowTick := fun m hm => by
      obtain rfl | hm := (hmem m).1 hm
      · rw [← hrow]
        exact ⟨htick, htick⟩
      · exact ha.rowTick m hm }

/-! ### A transfer -/

theorem transfer_cases {request : HabitatTransferRequest} {record : HabitatTransferRecord}
    (h : transfer request a = .ok record a') :
    record = ⟨a.nextTransferSequence, request.organismId, request.expectedPriorHabitatId,
        request.newHabitatId, request.tick, request.provenance⟩
      ∧ request.expectedPriorHabitatId ≠ request.newHabitatId
      ∧ request.provenance.validate request.tick = .ok ()
      ∧ a.validateTransferAuthority request.organismId request.expectedPriorHabitatId
        request.newHabitatId request.provenance = .ok ()
      ∧ ∃ index row next, a.findMembership request.organismId = some (index, row)
        ∧ row.habitatId = request.expectedPriorHabitatId
        ∧ row.enteredTick.raw ≤ request.tick.raw
        ∧ checkedAdd64 a.nextTransferSequence 1 = some next
        ∧ a' = { a with transfers := a.transfers ++ [record], nextTransferSequence := next
                        memberships := a.memberships.set index (moved row record) } := by
  rw [transfer, bind_apply, get_apply] at h
  simp only [ofResult_bind_eq_ok_iff, getOr_eq_ok_iff, failIf_eq_ok_iff, not_not, ne_eq,
    UInt64.not_lt] at h
  obtain ⟨_, -, _, -, _, hne, _, hprov, ⟨index, row⟩, hfind, _, hprior, _, htick, _, hauth, next,
    hnext, h⟩ := h
  cases h
  exact ⟨rfl, hne, hprov, hauth, index, row, next, hfind, hprior, htick, hnext, rfl⟩

theorem transfer_keepsOnError (request : HabitatTransferRequest) :
    KeepsOnError (transfer request) a := by
  refine keepsOnError_get (keepsOnError_bind fun _ _ => keepsOnError_bind fun _ _ =>
    keepsOnError_bind fun _ _ => keepsOnError_bind fun _ _ => keepsOnError_bind fun row _ =>
    keepsOnError_bind fun _ _ => keepsOnError_bind fun _ _ => keepsOnError_bind fun _ _ =>
    keepsOnError_bind fun next _ => ?_)
  exact keepsOnError_set

/-- The rows keep their ids. -/
theorem membershipIds_set {index : ℕ} {row : HabitatMembership}
    (hrow : a.memberships[index]? = some row) (record : HabitatTransferRecord) :
    (a.memberships.set index (moved row record)).map (·.organismId.raw.toNat) = a.membershipIds := by
  have hkey : (a.memberships.map (·.organismId.raw.toNat))[index]? =
      some (moved row record).organismId.raw.toNat := by
    rw [List.getElem?_map, hrow]
    rfl
  obtain ⟨hlt, hget⟩ := List.getElem?_eq_some_iff.1 hkey
  rw [List.map_set, ← hget, List.set_getElem_self]
  rfl

theorem Ordered.of_transfer (ho : a.Ordered) {request : HabitatTransferRequest}
    {record : HabitatTransferRecord} (h : transfer request a = .ok record a') : a'.Ordered := by
  obtain ⟨-, -, -, -, index, row, next, hfind, -, -, -, rfl⟩ := transfer_cases h
  refine ⟨ho.habitats, ?_⟩
  rw [membershipIds, membershipIds_set (getElem?_of_findMembership hfind).1]
  exact ho.rows

/-- The rows after a transfer: the moved one, and the old ones of the other creatures. -/
theorem mem_set_moved_iff (hnodup : a.membershipIds.Nodup) {index : ℕ} {row : HabitatMembership}
    (hget : a.memberships[index]? = some row) {record : HabitatTransferRecord}
    {m : HabitatMembership} :
    m ∈ a.memberships.set index (moved row record) ↔
      m = moved row record ∨ m ∈ a.memberships ∧ m.organismId ≠ row.organismId := by
  have hlt : index < a.memberships.length := (List.getElem?_eq_some_iff.1 hget).1
  constructor
  · intro hm
    obtain ⟨j, hj⟩ := List.mem_iff_getElem?.1 hm
    obtain rfl | hne := eq_or_ne index j
    · rw [List.getElem?_set_self hlt, Option.some.injEq] at hj
      exact Or.inl hj.symm
    · rw [List.getElem?_set_ne hne] at hj
      refine Or.inr ⟨List.mem_of_getElem? hj, fun heq => hne ?_⟩
      have hrows := eq_of_organismId_eq hnodup (List.mem_of_getElem? hget)
        (List.mem_of_getElem? hj) heq.symm
      exact (List.getElem?_inj hlt (List.Nodup.of_map _ hnodup)).1 (by rw [hget, hj, hrows])
  · rintro (rfl | ⟨hm, hne⟩)
    · exact List.mem_set hlt _
    · obtain ⟨j, hj⟩ := List.mem_iff_getElem?.1 hm
      have hindex : index ≠ j := by
        rintro rfl
        rw [hget, Option.some.injEq] at hj
        exact hne (by rw [hj])
      exact List.mem_of_getElem? ((List.getElem?_set_ne hindex).trans hj)

/-- **A transfer keeps the authority accepted.** -/
theorem Accepted.of_transfer (ha : a.Accepted known worldTick) (ho : a.Ordered)
    {request : HabitatTransferRequest} {record : HabitatTransferRecord}
    (htick : request.tick.raw ≤ worldTick.raw) (h : transfer request a = .ok record a') :
    a'.Accepted known worldTick := by
  have ho' := ho.of_transfer h
  obtain ⟨hrecord, hne, hprov, hauth, index, row, next, hfind, hprior, hentered, hnext, ha'⟩ :=
    transfer_cases h
  obtain ⟨hget, hid⟩ := getElem?_of_findMembership hfind
  have hrowmem : row ∈ a.memberships := List.mem_of_getElem? hget
  have hsucc := toNat_of_checkedAdd64_one hnext
  have hle : a.nextTransferSequence ≤ next := UInt64.le_iff_toNat_le.2 (by omega)
  have hlt : a.nextTransferSequence < next := UInt64.lt_iff_toNat_lt.2 (by omega)
  have hpos : a.nextTransferSequence.toNat ≠ 0 := fun h0 => ha.nextTransfer (UInt64.toNat_inj.1 h0)
  have hold : ∀ t ∈ a.transfers, t.sequence.toNat < a.nextTransferSequence.toNat :=
    fun t ht => UInt64.lt_iff_toNat_lt.1 (ha.transferOk t ht).2.2.2.2
  have hsequence : record.sequence = a.nextTransferSequence := by rw [hrecord]
  have horganism : record.organismId = row.organismId := by rw [hrecord, hid]
  have hmem : ∀ m, m ∈ a'.memberships ↔
      m = moved row record ∨ m ∈ a.memberships ∧ m.organismId ≠ row.organismId := by
    intro m
    rw [ha']
    exact mem_set_moved_iff ha.rows_nodup hget
  have hlookup : ∀ o m, a.membership o = some m →
      ∃ m', a'.membership o = some m' ∧ m'.originTick = m.originTick := by
    intro o m hm
    obtain ⟨hin, horg⟩ := mem_of_membership hm
    by_cases heq : m.organismId = row.organismId
    · obtain rfl := eq_of_organismId_eq ha.rows_nodup hin hrowmem heq
      exact ⟨moved m record, (ho'.lookupsExact.membership o _).2 ⟨(hmem _).2 (Or.inl rfl), horg⟩, rfl⟩
    · exact ⟨m, (ho'.lookupsExact.membership o m).2 ⟨(hmem m).2 (Or.inr ⟨hin, heq⟩), horg⟩, rfl⟩
  have hstill : ∀ t, a.TransferOk t → a'.TransferOk t := by
    intro t ht
    refine ht.mono (by rw [ha']) (fun m hm => ?_) (fun reserve htag => ?_) (by rw [ha']; exact hle)
    · obtain ⟨m', hm', -⟩ := hlookup _ m hm
      exact ⟨m', hm'⟩
    · rw [ha']
      exact htag
  have hnew : a'.TransferOk record := by
    rw [hrecord]
    obtain ⟨m, hm, -⟩ := hlookup _ row ((ho.lookupsExact.membership _ row).2 ⟨hrowmem, hid⟩)
    refine ⟨hne, hprov, validateTransferAuthority_mono hauth (by rw [ha']) ⟨m, hm⟩ ?_, ⟨m, hm⟩, ?_⟩
    · rw [ha']
      exact fun _ htag => htag
    · rw [ha']
      exact hlt
  have hreplays : ∀ m ∈ a'.memberships, a'.Replays m := by
    have htransfers : a'.transfers = a.transfers ++ [record] := by rw [ha']
    intro m hm
    rw [Replays, transfersOf, htransfers, List.filter_append]
    obtain rfl | ⟨hin, hother⟩ := (hmem m).1 hm
    · have hmine : decide (record.organismId = (moved row record).organismId) = true :=
        decide_eq_true horganism
      rw [List.filter_singleton, hmine, List.foldlM_append, except_bind_eq_ok_iff]
      refine ⟨row, ha.replays row hrowmem, ?_⟩
      rw [cond_true, List.foldlM_cons, except_bind_eq_ok_iff]
      refine ⟨moved row record, replayTransfer_eq_ok_iff.2 ⟨⟨?_, ?_⟩, rfl⟩, rfl⟩
      · rw [hrecord]
        exact hprior.symm
      · rw [hrecord]
        exact hentered
    · have hnot : decide (record.organismId = m.organismId) = false :=
        decide_eq_false fun heq => hother (heq.symm.trans horganism)
      rw [List.filter_singleton, hnot, cond_false, List.append_nil]
      exact ha.replays m hin
  obtain ⟨-, ⟨hab, hhabmem, hhabid⟩, -⟩ := of_validateTransferAuthority hauth
  have hrowOk := ha.rowOk row hrowmem
  subst ha'
  exact { ha with
    rows_nodup := ho'.rows.imp ne_of_lt
    rowOk := fun m hm => by
      obtain rfl | ⟨hm, -⟩ := (hmem m).1 hm
      · refine ⟨hrowOk.1, hrowOk.2.1, ⟨hab, hhabmem, ?_⟩, hrowOk.2.2.2⟩
        rw [hhabid, hrecord]
        rfl
      · exact ha.rowOk m hm
    known := fun o hk => by
      obtain ⟨h0, m, hm, hmo⟩ := ha.known o hk
      obtain ⟨m', hm', -⟩ := hlookup o m ((ho.lookupsExact.membership o m).2 ⟨hm, hmo⟩)
      obtain ⟨hin, horg⟩ := mem_of_membership hm'
      exact ⟨h0, m', hin, horg⟩
    tagOk := fun tag htag => (ha.tagOk tag htag).mono rfl (hlookup _) (UInt64.le_refl _)
    nextTransfer := fun h0 => by
      dsimp only at h0
      rw [h0] at hsucc
      exact absurd hsucc (by simp)
    transfers_increase := by
      refine List.pairwise_append.2 ⟨ha.transfers_increase, List.pairwise_singleton _ _, ?_⟩
      intro t ht t' ht'
      rw [List.mem_singleton.1 ht', hsequence]
      exact hold t ht
    transfers_pos := by
      refine List.forall_mem_append.2 ⟨ha.transfers_pos, List.forall_mem_singleton.2 ?_⟩
      rw [hsequence]
      omega
    transferOk := List.forall_mem_append.2
      ⟨fun t ht => hstill t (ha.transferOk t ht), List.forall_mem_singleton.2 hnew⟩
    replays := hreplays
    rowTick := fun m hm => by
      obtain rfl | ⟨hm, -⟩ := (hmem m).1 hm
      · refine ⟨(ha.rowTick row hrowmem).1, ?_⟩
        rw [hrecord]
        exact htick
      · exact ha.rowTick m hm
    transferTick := List.forall_mem_append.2 ⟨ha.transferTick, List.forall_mem_singleton.2 (by
      rw [hrecord]
      exact htick)⟩ }

/-! ### A retirement -/

theorem Ordered.of_retireCreature (ho : a.Ordered) (id : OrganismId) :
    (a.retireCreature id).Ordered :=
  ⟨ho.habitats, ho.rows.sublist (List.filter_sublist.map _)⟩

/-- The ledgers of the other creatures stay. -/
theorem transfersOf_retireCreature {id other : OrganismId} (hne : other ≠ id) :
    (a.retireCreature id).transfersOf other = a.transfersOf other := by
  unfold transfersOf retireCreature
  dsimp only
  rw [List.filter_filter]
  refine List.filter_congr fun t _ => ?_
  by_cases h : t.organismId = other
  · simp [h, hne]
  · simp [h]

/-- **A retirement keeps the authority accepted**, its creature unknown. -/
theorem Accepted.of_retireCreature (ha : a.Accepted known worldTick) (ho : a.Ordered)
    (id : OrganismId) :
    (a.retireCreature id).Accepted (known.filter (· ≠ id)) worldTick := by
  have ho' := ho.of_retireCreature id
  have hrow : ∀ m, m ∈ (a.retireCreature id).memberships ↔ m ∈ a.memberships ∧ m.organismId ≠ id := by
    intro m
    simp [retireCreature]
  have htag : ∀ tag, tag ∈ (a.retireCreature id).tags ↔ tag ∈ a.tags ∧ tag.organismId ≠ id := by
    intro tag
    simp [retireCreature]
  have htransfer : ∀ t, t ∈ (a.retireCreature id).transfers ↔
      t ∈ a.transfers ∧ t.organismId ≠ id := by
    intro t
    simp [retireCreature]
  have hlookup : ∀ o, o ≠ id → ∀ m, a.membership o = some m →
      (a.retireCreature id).membership o = some m := by
    intro o ho'' m hm
    obtain ⟨hin, rfl⟩ := mem_of_membership hm
    exact (ho'.lookupsExact.membership _ m).2 ⟨(hrow m).2 ⟨hin, ho''⟩, rfl⟩
  have htagged : ∀ o, o ≠ id → ∀ reserve, a.isTagged reserve o = true →
      (a.retireCreature id).isTagged reserve o = true := by
    intro o ho'' reserve h
    obtain ⟨tag, hin, heq⟩ := List.any_eq_true.1 h
    have hid := (of_decide_eq_true heq).2
    exact List.any_eq_true.2 ⟨tag, (htag tag).2 ⟨hin, hid ▸ ho''⟩, heq⟩
  exact {
    habitats_ne := ha.habitats_ne
    habitatOk := ha.habitatOk
    habitats_nodup := ha.habitats_nodup
    rows_nodup := ho'.rows.imp ne_of_lt
    rowOk := fun m hm => by
      obtain ⟨hin, hne⟩ := (hrow m).1 hm
      obtain ⟨h0, hk, hh, horigin⟩ := ha.rowOk m hin
      exact ⟨h0, by simpa using ⟨hk, hne⟩, hh, horigin⟩
    known := fun o hk => by
      obtain ⟨hk, hne⟩ := List.mem_filter.1 hk
      obtain ⟨h0, m, hm, rfl⟩ := ha.known o hk
      exact ⟨h0, m, (hrow m).2 ⟨hm, by simpa using hne⟩, rfl⟩
    nextTag := ha.nextTag
    tags_increase := ha.tags_increase.filter _
    tags_pos := fun tag h => ha.tags_pos tag ((htag tag).1 h).1
    tagOk := fun tag h => by
      obtain ⟨hin, hne⟩ := (htag tag).1 h
      exact (ha.tagOk tag hin).mono rfl (fun m hm => ⟨m, hlookup _ hne m hm, rfl⟩)
        (UInt64.le_refl _)
    tags_nodup := ha.tags_nodup.sublist (List.filter_sublist.map _)
    nextTransfer := ha.nextTransfer
    transfers_increase := ha.transfers_increase.filter _
    transfers_pos := fun t h => ha.transfers_pos t ((htransfer t).1 h).1
    transferOk := fun t h => by
      obtain ⟨hin, hne⟩ := (htransfer t).1 h
      exact (ha.transferOk t hin).mono rfl (fun m hm => ⟨m, hlookup _ hne m hm⟩) (htagged _ hne)
        (UInt64.le_refl _)
    replays := fun m hm => by
      obtain ⟨hin, hne⟩ := (hrow m).1 hm
      rw [Replays, transfersOf_retireCreature hne]
      exact ha.replays m hin
    rowTick := fun m hm => ha.rowTick m ((hrow m).1 hm).1
    tagTick := fun tag h => ha.tagTick tag ((htag tag).1 h).1
    transferTick := fun t h => ha.transferTick t ((htransfer t).1 h).1 }

end HabitatAuthority

end ALife
