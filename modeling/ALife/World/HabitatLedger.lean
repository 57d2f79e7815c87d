/-
# What a validated habitat authority is

`validate_at_tick` passes exactly on the authorities that are `Accepted`: valid
habitats under distinct ids, one row for each known creature, tags and transfers
under increasing sequences, and each row what its creature's transfers make of
its origin (`validateAtTick_eq_ok_iff`).  The loops of the validator are read
element by element, each behind the elements before it.
-/

import ALife.World.Habitat

namespace ALife

open Machine

namespace HabitatAuthority

/-! ### Lookups -/

theorem mem_of_habitat {a : HabitatAuthority} {id : HabitatId} {h : Habitat}
    (hfound : a.habitat id = some h) : h ∈ a.habitats ∧ h.id = id := by
  unfold habitat at hfound
  split at hfound
  · rename_i index hindex
    refine ⟨List.mem_of_getElem? hfound, ?_⟩
    have hkey := getElem?_of_binarySearch hindex
    rw [habitatIds, List.getElem?_map, hfound, Option.map_some, Option.some.injEq] at hkey
    exact (HabitatId.mk.injEq _ _).mpr (UInt64.toNat_inj.1 hkey)
  · cases hfound

theorem getElem?_of_findMembership {a : HabitatAuthority} {id : OrganismId} {i : ℕ}
    {m : HabitatMembership} (hfound : a.findMembership id = some (i, m)) :
    a.memberships[i]? = some m ∧ m.organismId = id := by
  unfold findMembership at hfound
  split at hfound
  · rename_i index hindex
    obtain ⟨row, hrow, heq⟩ := Option.map_eq_some_iff.1 hfound
    obtain ⟨rfl, rfl⟩ := Prod.mk.inj heq
    refine ⟨hrow, ?_⟩
    have hkey := getElem?_of_binarySearch hindex
    rw [membershipIds, List.getElem?_map, hrow, Option.map_some, Option.some.injEq] at hkey
    exact (OrganismId.mk.injEq _ _).mpr (UInt64.toNat_inj.1 hkey)
  · cases hfound

theorem mem_of_membership {a : HabitatAuthority} {id : OrganismId} {m : HabitatMembership}
    (hfound : a.membership id = some m) : m ∈ a.memberships ∧ m.organismId = id := by
  obtain ⟨⟨i, row⟩, hi, rfl⟩ := Option.map_eq_some_iff.1 hfound
  exact ⟨List.mem_of_getElem? (getElem?_of_findMembership hi).1, (getElem?_of_findMembership hi).2⟩

/-- Distinct ids have one row each. -/
theorem eq_of_organismId_eq {a : HabitatAuthority} (hnodup : a.membershipIds.Nodup)
    {m m' : HabitatMembership} (hm : m ∈ a.memberships) (hm' : m' ∈ a.memberships)
    (h : m.organismId = m'.organismId) : m = m' :=
  List.inj_on_of_nodup_map hnodup hm hm' (by rw [h])

/-! ### What the validator says -/

/-- What it says of one membership row. -/
def RowOk (a : HabitatAuthority) (known : List OrganismId) (m : HabitatMembership) : Prop :=
  m.organismId.raw ≠ 0 ∧ m.organismId ∈ known ∧ (∃ h ∈ a.habitats, h.id = m.habitatId)
    ∧ (∃ h ∈ a.habitats, h.id = m.originHabitatId)

/-- What it says of one tag. -/
def TagOk (a : HabitatAuthority) (tag : HabitatTagRecord) : Prop :=
  (∃ reserve, a.habitat tag.reserveId = some reserve ∧ reserve.mode = .reserve)
    ∧ (∃ m, a.membership tag.organismId = some m ∧ m.originTick.raw ≤ tag.tick.raw)
    ∧ (tag.actor = .player ∨ tag.actor = .worldAuthority)
    ∧ tag.sequence < a.nextTagSequence

/-- What it says of one transfer alone. -/
def TransferOk (a : HabitatAuthority) (t : HabitatTransferRecord) : Prop :=
  t.priorHabitatId ≠ t.newHabitatId ∧ t.provenance.validate t.tick = .ok ()
    ∧ a.validateTransferAuthority t.organismId t.priorHabitatId t.newHabitatId t.provenance = .ok ()
    ∧ (∃ m, a.membership t.organismId = some m)
    ∧ t.sequence < a.nextTransferSequence

/-- A row as its creature was registered. -/
def origin (m : HabitatMembership) : HabitatMembership :=
  { m with habitatId := m.originHabitatId, enteredTick := m.originTick
           lastTransferSequence := none, quarantineUntil := none }

/-- A transfer carried out on a row: it leaves the habitat of the row, not before the
row was entered. -/
def replayTransfer (m : HabitatMembership) (t : HabitatTransferRecord) :
    HabitatResult HabitatMembership := do
  failIf (t.priorHabitatId ≠ m.habitatId ∨ t.tick.raw < m.enteredTick.raw)
    (.staleTransfer t.sequence t.organismId)
  .ok (moved m t)

/-- The transfers of one creature, in order. -/
def transfersOf (a : HabitatAuthority) (id : OrganismId) : List HabitatTransferRecord :=
  a.transfers.filter (·.organismId = id)

/-- The row is what its creature's transfers make of its origin. -/
def Replays (a : HabitatAuthority) (m : HabitatMembership) : Prop :=
  (a.transfersOf m.organismId).foldlM replayTransfer (origin m) = .ok m

/-- An authority as `validate_at_tick` accepts it. -/
structure Accepted (a : HabitatAuthority) (known : List OrganismId) (worldTick : Tick) : Prop where
  habitats_ne : a.habitats ≠ []
  habitatOk : ∀ h ∈ a.habitats, h.validate = .ok ()
  habitats_nodup : a.habitatIds.Nodup
  rows_nodup : a.membershipIds.Nodup
  rowOk : ∀ m ∈ a.memberships, a.RowOk known m
  known : ∀ id ∈ known, id.raw ≠ 0 ∧ ∃ m ∈ a.memberships, m.organismId = id
  nextTag : a.nextTagSequence ≠ 0
  tags_increase : a.tags.Pairwise fun t t' => t.sequence.toNat < t'.sequence.toNat
  tags_pos : ∀ tag ∈ a.tags, 0 < tag.sequence.toNat
  tagOk : ∀ tag ∈ a.tags, a.TagOk tag
  tags_nodup : (a.tags.map fun tag => (tag.reserveId.raw, tag.organismId.raw)).Nodup
  nextTransfer : a.nextTransferSequence ≠ 0
  transfers_increase : a.transfers.Pairwise fun t t' => t.sequence.toNat < t'.sequence.toNat
  transfers_pos : ∀ t ∈ a.transfers, 0 < t.sequence.toNat
  transferOk : ∀ t ∈ a.transfers, a.TransferOk t
  replays : ∀ m ∈ a.memberships, a.Replays m
  rowTick : ∀ m ∈ a.memberships,
    m.originTick.raw ≤ worldTick.raw ∧ m.enteredTick.raw ≤ worldTick.raw
  tagTick : ∀ tag ∈ a.tags, tag.tick.raw ≤ worldTick.raw
  transferTick : ∀ t ∈ a.transfers, t.tick.raw ≤ worldTick.raw

/-! ### The loops -/

/-- Distinct ids are distinct search keys. -/
theorem nodup_toNat_iff {α : Type} {key : α → UInt64} {l : List α} :
    (l.map fun a => (key a).toNat).Nodup ↔ (l.map key).Nodup := by
  rw [← List.nodup_map_iff (fun x y h => UInt64.toNat_inj.1 h : Function.Injective UInt64.toNat),
    List.map_map]
  rfl

theorem foldlM_checkHabitat_eq_ok_iff {l : List Habitat} {ids : List UInt64} :
    l.foldlM checkHabitat [] = .ok ids ↔
      (∀ h ∈ l, h.validate = .ok ()) ∧ (l.map (·.id.raw)).Nodup ∧ l.map (·.id.raw) = ids := by
  have hstep : ∀ (pre : List Habitat) (h : Habitat) (s : List UInt64),
      checkHabitat (pre.map (·.id.raw)) h = .ok s ↔
        (h.validate = .ok () ∧ h.id.raw ∉ pre.map (·.id.raw)) ∧ (pre ++ [h]).map (·.id.raw) = s := by
    intro pre h s
    simp only [checkHabitat, except_seq_eq_ok_iff, failIf_eq_ok_iff, Except.ok.injEq,
      List.map_append, List.map_singleton, and_assoc]
  refine (foldlM_eq_ok_iff hstep).trans ?_
  simp only [imp_and, forall_and, forall_prefix_mem_iff, forall_prefix_notMem_iff, and_assoc]

theorem foldlM_checkMembership_eq_ok_iff {known habitatIds : List UInt64}
    {l : List HabitatMembership} {ids : List UInt64} :
    l.foldlM (checkMembership known habitatIds) [] = .ok ids ↔
      (l.map (·.organismId.raw)).Nodup
        ∧ (∀ m ∈ l, m.organismId.raw ≠ 0 ∧ m.organismId.raw ∈ known
          ∧ m.habitatId.raw ∈ habitatIds ∧ m.originHabitatId.raw ∈ habitatIds)
        ∧ l.map (·.organismId.raw) = ids := by
  have hstep : ∀ (pre : List HabitatMembership) (m : HabitatMembership) (s : List UInt64),
      checkMembership known habitatIds (pre.map (·.organismId.raw)) m = .ok s ↔
        (m.organismId.raw ∉ pre.map (·.organismId.raw)
          ∧ (m.organismId.raw ≠ 0 ∧ m.organismId.raw ∈ known
            ∧ m.habitatId.raw ∈ habitatIds ∧ m.originHabitatId.raw ∈ habitatIds))
          ∧ (pre ++ [m]).map (·.organismId.raw) = s := by
    intro pre m s
    simp only [checkMembership, except_seq_eq_ok_iff, failIf_eq_ok_iff, Except.ok.injEq,
      List.map_append, List.map_singleton, and_assoc, not_or, not_not, ne_eq]
  refine (foldlM_eq_ok_iff hstep).trans ?_
  rw [← forall_prefix_notMem_iff, ← forall_prefix_mem_iff]
  simp only [imp_and, forall_and, and_assoc]

theorem validateActorKnown_of_not_organism {a : HabitatAuthority} {actor : HabitatActor}
    (h : actor = .player ∨ actor = .worldAuthority) : a.validateActorKnown actor = .ok () := by
  obtain rfl | rfl := h <;> rfl

/-- One tag behind the tags before it. -/
theorem checkTag_eq_ok_iff {a : HabitatAuthority} (pre : List HabitatTagRecord)
    {tag : HabitatTagRecord} {s : UInt64 × List (UInt64 × UInt64)} :
    a.checkTag (lastKey 0 (·.sequence) pre,
        pre.map fun tag => (tag.reserveId.raw, tag.organismId.raw)) tag = .ok s ↔
      (lastKey 0 (·.sequence.toNat) pre < tag.sequence.toNat ∧ a.TagOk tag
        ∧ (tag.reserveId.raw, tag.organismId.raw) ∉
          pre.map fun tag => (tag.reserveId.raw, tag.organismId.raw))
        ∧ (lastKey 0 (·.sequence) (pre ++ [tag]),
          (pre ++ [tag]).map fun tag => (tag.reserveId.raw, tag.organismId.raw)) = s := by
  have hlast : tag.sequence ≤ lastKey 0 (·.sequence) pre ↔
      ¬lastKey 0 (·.sequence.toNat) pre < tag.sequence.toNat := by
    rw [UInt64.le_iff_toNat_le, map_lastKey UInt64.toNat, Nat.not_lt]
    rfl
  simp only [checkTag, except_bind_eq_ok_iff, failIf_eq_ok_iff, getOr_eq_ok_iff, Except.ok.injEq,
    hlast, not_or, not_not, not_and_or, UInt64.not_le, UInt64.not_lt, exists_const, ne_eq,
    lastKey_append_singleton, List.map_append, List.map_singleton, TagOk]
  constructor
  · rintro ⟨⟨hprev, hnext⟩, reserve, hreserve, hmode, m, hm, _, -, hact, htick, hnew, hs⟩
    exact ⟨⟨hprev, ⟨⟨reserve, hreserve, hmode⟩, ⟨m, hm, htick⟩, hact, hnext⟩, hnew⟩, hs⟩
  · rintro ⟨⟨hprev, ⟨⟨reserve, hreserve, hmode⟩, ⟨m, hm, htick⟩, hact, hnext⟩, hnew⟩, hs⟩
    exact ⟨⟨hprev, hnext⟩, reserve, hreserve, hmode, m, hm, (),
      validateActorKnown_of_not_organism hact, hact, htick, hnew, hs⟩

theorem foldlM_checkTag_eq_ok_iff {a : HabitatAuthority} {l : List HabitatTagRecord}
    {s : UInt64 × List (UInt64 × UInt64)} :
    l.foldlM a.checkTag (0, []) = .ok s ↔
      (l.Pairwise (fun t t' => t.sequence.toNat < t'.sequence.toNat)
        ∧ (∀ tag ∈ l, 0 < tag.sequence.toNat) ∧ (∀ tag ∈ l, a.TagOk tag)
        ∧ (l.map fun tag => (tag.reserveId.raw, tag.organismId.raw)).Nodup)
      ∧ (lastKey 0 (·.sequence) l, l.map fun tag => (tag.reserveId.raw, tag.organismId.raw)) = s := by
  refine (foldlM_eq_ok_iff fun pre tag s => checkTag_eq_ok_iff pre).trans ?_
  rw [← forall_prefix_mem_iff (P := a.TagOk), ← and_assoc (b := ∀ tag ∈ l, _),
    ← forall_prefix_lastKey_lt_iff, ← forall_prefix_notMem_iff]
  simp only [imp_and, forall_and]

/-- The ends of the chains after some transfers. -/
def chainsAfter (ts : List HabitatTransferRecord) : UInt64 → Option Chain :=
  ts.foldl (fun chains t => Function.update chains t.organismId.raw (some (chainOf t))) fun _ => none

@[simp] theorem chainsAfter_append_singleton (ts : List HabitatTransferRecord)
    (t : HabitatTransferRecord) :
    chainsAfter (ts ++ [t]) =
      Function.update (chainsAfter ts) t.organismId.raw (some (chainOf t)) := by
  simp [chainsAfter, List.foldl_append]

/-- The row at the end of a chain. -/
def ofChain (m : HabitatMembership) : Option Chain → HabitatMembership
  | some chain =>
    { m with habitatId := chain.habitatId, enteredTick := chain.tick
             lastTransferSequence := some chain.sequence
             quarantineUntil := chain.quarantineUntil }
  | none => origin m

/-- The row that a creature's transfers among `ts` lead to. -/
def standing (m : HabitatMembership) (ts : List HabitatTransferRecord) : HabitatMembership :=
  (ts.filter (·.organismId = m.organismId)).foldl moved (origin m)

/-- The chains of the validator say where a row stands. -/
theorem standing_eq_ofChain (m : HabitatMembership) (ts : List HabitatTransferRecord) :
    standing m ts = ofChain m (chainsAfter ts m.organismId.raw) := by
  induction ts using List.reverseRecOn with
  | nil => rfl
  | append_singleton ts t ih =>
    unfold standing at ih ⊢
    rw [List.filter_append, List.foldl_append, ih, chainsAfter_append_singleton]
    by_cases h : t.organismId = m.organismId
    · rw [h, Function.update_self, List.filter_singleton, h, decide_eq_true rfl]
      cases chainsAfter ts m.organismId.raw <;> rfl
    · have hraw : m.organismId.raw ≠ t.organismId.raw :=
        fun heq => h ((OrganismId.mk.injEq _ _).mpr heq.symm)
      rw [Function.update_of_ne hraw, List.filter_singleton, decide_eq_false h]
      rfl

theorem checkChain_eq_ok_iff {chains : UInt64 → Option Chain} {m : HabitatMembership} :
    checkChain chains () m = .ok () ↔ ofChain m (chains m.organismId.raw) = m := by
  unfold checkChain
  cases chains m.organismId.raw with
  | some chain =>
    simp only [failIf_eq_ok_iff, ofChain, not_or, ne_eq, not_not]
    obtain ⟨id, h, e, oh, ot, l, q⟩ := m
    simp only [HabitatMembership.mk.injEq, true_and, eq_comm]
  | none =>
    simp only [failIf_eq_ok_iff, ofChain, origin, not_or, ne_eq, not_not]
    obtain ⟨id, h, e, oh, ot, l, q⟩ := m
    simp only [HabitatMembership.mk.injEq, true_and, eq_comm]

/-- One transfer behind the transfers before it. -/
theorem checkTransfer_eq_ok_iff {a : HabitatAuthority} {known habitatIds : List UInt64}
    (pre : List HabitatTransferRecord) {t : HabitatTransferRecord}
    {s : UInt64 × (UInt64 → Option Chain)} :
    a.checkTransfer known habitatIds (lastKey 0 (·.sequence) pre, chainsAfter pre) t = .ok s ↔
      (lastKey 0 (·.sequence.toNat) pre < t.sequence.toNat
        ∧ (a.TransferOk t ∧ t.organismId.raw ∈ known ∧ t.priorHabitatId.raw ∈ habitatIds
          ∧ t.newHabitatId.raw ∈ habitatIds ∧ checkTransferActor known t.provenance.actor = .ok ())
        ∧ ∃ m, a.membership t.organismId = some m
          ∧ t.priorHabitatId = (standing m pre).habitatId
          ∧ (standing m pre).enteredTick.raw ≤ t.tick.raw)
        ∧ (lastKey 0 (·.sequence) (pre ++ [t]), chainsAfter (pre ++ [t])) = s := by
  have hlast : t.sequence ≤ lastKey 0 (·.sequence) pre ↔
      ¬lastKey 0 (·.sequence.toNat) pre < t.sequence.toNat := by
    rw [UInt64.le_iff_toNat_le, map_lastKey UInt64.toNat, Nat.not_lt]
    rfl
  have hstand : ∀ m, a.membership t.organismId = some m →
      departure m (chainsAfter pre t.organismId.raw) =
        ((standing m pre).habitatId, (standing m pre).enteredTick) := by
    intro m hm
    rw [standing_eq_ofChain, (mem_of_membership hm).2]
    cases chainsAfter pre t.organismId.raw <;> rfl
  simp only [checkTransfer, except_bind_eq_ok_iff, failIf_eq_ok_iff, getOr_eq_ok_iff,
    Except.ok.injEq, hlast, not_or, not_not, UInt64.not_le, exists_const, ne_eq,
    lastKey_append_singleton, chainsAfter_append_singleton, TransferOk]
  constructor
  · rintro ⟨⟨hprev, hnext, hne⟩, hknown, hprior, hnew, _, hprov, _, hactor, _, hauth, m, hm, hchain,
      hs⟩
    rw [hstand m hm] at hchain
    exact ⟨⟨hprev, ⟨⟨hne, hprov, hauth, ⟨m, hm⟩, hnext⟩, hknown, hprior, hnew, hactor⟩, m, hm,
      hchain.1, UInt64.not_lt.1 hchain.2⟩, hs⟩
  · rintro ⟨⟨hprev, ⟨⟨hne, hprov, hauth, -, hnext⟩, hknown, hprior, hnew, hactor⟩, m, hm, hhab,
      htick⟩, hs⟩
    refine ⟨⟨hprev, hnext, hne⟩, hknown, hprior, hnew, (), hprov, (), hactor, (), hauth, m, hm, ?_,
      hs⟩
    rw [hstand m hm]
    exact ⟨hhab, UInt64.not_lt.2 htick⟩

theorem foldlM_checkTransfer_eq_ok_iff {a : HabitatAuthority} {known habitatIds : List UInt64}
    {l : List HabitatTransferRecord} {s : UInt64 × (UInt64 → Option Chain)} :
    l.foldlM (a.checkTransfer known habitatIds) (0, fun _ => none) = .ok s ↔
      ((l.Pairwise (fun t t' => t.sequence.toNat < t'.sequence.toNat)
          ∧ ∀ t ∈ l, 0 < t.sequence.toNat)
        ∧ (∀ t ∈ l, a.TransferOk t ∧ t.organismId.raw ∈ known ∧ t.priorHabitatId.raw ∈ habitatIds
          ∧ t.newHabitatId.raw ∈ habitatIds ∧ checkTransferActor known t.provenance.actor = .ok ())
        ∧ ∀ pre t post, l = pre ++ t :: post → ∃ m, a.membership t.organismId = some m
          ∧ t.priorHabitatId = (standing m pre).habitatId
          ∧ (standing m pre).enteredTick.raw ≤ t.tick.raw)
      ∧ (lastKey 0 (·.sequence) l, chainsAfter l) = s := by
  refine (foldlM_eq_ok_iff fun pre t s => checkTransfer_eq_ok_iff pre).trans ?_
  rw [← forall_prefix_lastKey_lt_iff, ← forall_prefix_mem_iff (P := fun t => a.TransferOk t ∧ _)]
  simp only [imp_and, forall_and]

theorem replayTransfer_eq_ok_iff {m m' : HabitatMembership} {t : HabitatTransferRecord} :
    replayTransfer m t = .ok m' ↔
      (t.priorHabitatId = m.habitatId ∧ m.enteredTick.raw ≤ t.tick.raw) ∧ moved m t = m' := by
  simp only [replayTransfer, except_seq_eq_ok_iff, failIf_eq_ok_iff, not_or, not_not, ne_eq,
    UInt64.not_lt, Except.ok.injEq]

/-- Replaying the transfers of a creature one after the other. -/
theorem replays_iff {a : HabitatAuthority} {m : HabitatMembership} :
    a.Replays m ↔
      (∀ pre t post, a.transfers = pre ++ t :: post → t.organismId = m.organismId →
        t.priorHabitatId = (standing m pre).habitatId
          ∧ (standing m pre).enteredTick.raw ≤ t.tick.raw)
      ∧ standing m a.transfers = m := by
  have hstep : ∀ (pre : List HabitatTransferRecord) (t : HabitatTransferRecord)
      (s : HabitatMembership), replayTransfer (pre.foldl moved (origin m)) t = .ok s ↔
        (t.priorHabitatId = (pre.foldl moved (origin m)).habitatId
          ∧ (pre.foldl moved (origin m)).enteredTick.raw ≤ t.tick.raw)
        ∧ (pre ++ [t]).foldl moved (origin m) = s := by
    intro pre t s
    rw [replayTransfer_eq_ok_iff, List.foldl_append]
    rfl
  refine (foldlM_eq_ok_iff hstep).trans (and_congr_left fun _ => ?_)
  constructor
  · rintro h pre t post he hid
    refine h _ t (post.filter (·.organismId = m.organismId)) ?_
    rw [transfersOf, he, List.filter_append, List.filter_cons_of_pos (by simp [hid])]
  · intro h pre t post he
    obtain ⟨pre', post', hpre', rfl, hid⟩ := exists_prefix_of_filter he
    exact h pre' t post' hpre' (by simpa using hid)

/-- The authority check finds both habitats and knows the actor, who is no other creature. -/
theorem of_validateTransferAuthority {a : HabitatAuthority} {id : OrganismId}
    {prior new : HabitatId} {p : HabitatTransferProvenance}
    (h : a.validateTransferAuthority id prior new p = .ok ()) :
    (∃ hab ∈ a.habitats, hab.id = prior) ∧ (∃ hab ∈ a.habitats, hab.id = new)
      ∧ ∃ actor, p.actor = some actor ∧ a.validateActorKnown actor = .ok ()
        ∧ ∀ other, actor = .organism other → other = id := by
  simp only [validateTransferAuthority, except_bind_eq_ok_iff, getOr_eq_ok_iff] at h
  obtain ⟨hprior, hp, hnew, hn, actor, hactor, authority, -, _, hknown, hauthority⟩ := h
  refine ⟨⟨hprior, mem_of_habitat hp⟩, ⟨hnew, mem_of_habitat hn⟩, actor, hactor, hknown, ?_⟩
  rintro other rfl
  cases authority <;>
    simp only [except_seq_eq_ok_iff, failIf_eq_ok_iff, not_not, ne_eq, not_and_or, reduceCtorEq,
      HabitatActor.organism.injEq, or_self, and_false, false_and, not_false_eq_true,
      not_true] at hauthority
  exact hauthority.2

theorem raw_mem_map_iff {ids : List OrganismId} {id : OrganismId} :
    id.raw ∈ ids.map (·.raw) ↔ id ∈ ids :=
  List.mem_map_of_injective fun x y h => (OrganismId.mk.injEq x.raw y.raw).mpr h

theorem habitat_raw_mem_iff {a : HabitatAuthority} {id : HabitatId} :
    id.raw ∈ a.habitats.map (·.id.raw) ↔ ∃ h ∈ a.habitats, h.id = id := by
  rw [List.mem_map]
  exact exists_congr fun h => and_congr_right fun _ =>
    ⟨fun heq => (HabitatId.mk.injEq h.id.raw id.raw).mpr heq, fun heq => by rw [heq]⟩

theorem organism_raw_mem_iff {a : HabitatAuthority} {id : OrganismId} :
    id.raw ∈ a.memberships.map (·.organismId.raw) ↔ ∃ m ∈ a.memberships, m.organismId = id := by
  rw [List.mem_map]
  exact exists_congr fun m => and_congr_right fun _ =>
    ⟨fun heq => (OrganismId.mk.injEq m.organismId.raw id.raw).mpr heq, fun heq => by rw [heq]⟩

theorem checkKnown_eq_ok_iff {a : HabitatAuthority} {id : OrganismId} :
    checkKnown (a.memberships.map (·.organismId.raw)) () id = .ok () ↔
      id.raw ≠ 0 ∧ ∃ m ∈ a.memberships, m.organismId = id := by
  rw [checkKnown, except_seq_eq_ok_iff, failIf_eq_ok_iff, failIf_eq_ok_iff, not_not,
    organism_raw_mem_iff]

/-- What the loop over the transfers leaves agrees with the rows exactly when each row
is its replay. -/
theorem chains_iff_replays {a : HabitatAuthority} (hnodup : a.membershipIds.Nodup)
    (hfound : ∀ t ∈ a.transfers, ∃ m, a.membership t.organismId = some m) :
    (∀ pre t post, a.transfers = pre ++ t :: post → ∃ m, a.membership t.organismId = some m
        ∧ t.priorHabitatId = (standing m pre).habitatId
        ∧ (standing m pre).enteredTick.raw ≤ t.tick.raw)
      ∧ (∀ m ∈ a.memberships, checkChain (chainsAfter a.transfers) () m = .ok ()) ↔
      ∀ m ∈ a.memberships, a.Replays m := by
  simp only [checkChain_eq_ok_iff, ← standing_eq_ofChain, replays_iff]
  constructor
  · rintro ⟨hchain, hend⟩ m hm
    refine ⟨fun pre t post he hid => ?_, hend m hm⟩
    obtain ⟨m', hm', hprior⟩ := hchain pre t post he
    obtain ⟨hmem, hid'⟩ := mem_of_membership hm'
    rwa [← eq_of_organismId_eq hnodup hmem hm (hid'.trans hid)]
  · intro h
    refine ⟨fun pre t post he => ?_, fun m hm => (h m hm).2⟩
    obtain ⟨m, hm⟩ := hfound t (by rw [he]; simp)
    obtain ⟨hmem, hid⟩ := mem_of_membership hm
    exact ⟨m, hm, (h m hmem).1 pre t post he hid.symm⟩

/-- **What `validate_at_tick` accepts.** -/
theorem validateAtTick_eq_ok_iff {a : HabitatAuthority} {known : List OrganismId}
    {worldTick : Tick} :
    a.validateAtTick known worldTick = .ok () ↔ a.Accepted known worldTick := by
  simp only [validateAtTick, validate, except_bind_eq_ok_iff, failIf_eq_ok_iff, exists_const,
    foldlM_checkHabitat_eq_ok_iff, foldlM_checkMembership_eq_ok_iff, foldlM_checkTag_eq_ok_iff,
    foldlM_checkTransfer_eq_ok_iff, foldlM_unit_eq_ok_iff, checkMembershipTick, checkTagTick,
    checkTransferTick, not_or, UInt64.not_lt]
  constructor
  · rintro ⟨⟨hne, _, ⟨hhab, hhabs, rfl⟩, _, ⟨hrows, hrow, rfl⟩, hknown, htag0, _,
      ⟨⟨htags, hpos, htag, hpairs⟩, -⟩, htransfer0, ends, ⟨⟨⟨htransfers, htpos⟩, htransfer, hchain⟩,
      rfl⟩, hends⟩, hrowTick, htagTick, htransferTick⟩
    have hnodup : a.membershipIds.Nodup := nodup_toNat_iff.2 hrows
    exact {
      habitats_ne := hne
      habitatOk := hhab
      habitats_nodup := nodup_toNat_iff.2 hhabs
      rows_nodup := hnodup
      rowOk := fun m hm => by
        obtain ⟨h0, hk, hh, ho⟩ := hrow m hm
        exact ⟨h0, raw_mem_map_iff.1 hk, habitat_raw_mem_iff.1 hh, habitat_raw_mem_iff.1 ho⟩
      known := fun id hid => checkKnown_eq_ok_iff.1 (hknown id hid)
      nextTag := htag0
      tags_increase := htags
      tags_pos := hpos
      tagOk := htag
      tags_nodup := hpairs
      nextTransfer := htransfer0
      transfers_increase := htransfers
      transfers_pos := htpos
      transferOk := fun t ht => (htransfer t ht).1
      replays := (chains_iff_replays hnodup fun t ht => (htransfer t ht).1.2.2.2.1).1 ⟨hchain, hends⟩
      rowTick := hrowTick
      tagTick := htagTick
      transferTick := htransferTick }
  · intro h
    have hends := (chains_iff_replays h.rows_nodup fun t ht => (h.transferOk t ht).2.2.2.1).2 h.replays
    have htransfer : ∀ t ∈ a.transfers, a.TransferOk t ∧ t.organismId.raw ∈ known.map (·.raw)
        ∧ t.priorHabitatId.raw ∈ a.habitats.map (·.id.raw)
        ∧ t.newHabitatId.raw ∈ a.habitats.map (·.id.raw)
        ∧ checkTransferActor (known.map (·.raw)) t.provenance.actor = .ok () := by
      intro t ht
      have hok := h.transferOk t ht
      obtain ⟨hprior, hnew, actor, hactor, -, hself⟩ := of_validateTransferAuthority hok.2.2.1
      obtain ⟨m, hm⟩ := hok.2.2.2.1
      obtain ⟨hmem, hid⟩ := mem_of_membership hm
      have hknown : t.organismId.raw ∈ known.map (·.raw) :=
        raw_mem_map_iff.2 (hid ▸ (h.rowOk m hmem).2.1)
      refine ⟨hok, hknown, habitat_raw_mem_iff.2 hprior, habitat_raw_mem_iff.2 hnew, ?_⟩
      rw [hactor]
      cases actor with
      | organism other =>
        rw [checkTransferActor, failIf_eq_ok_iff, not_not, hself other rfl]
        exact hknown
      | player => rfl
      | teacher => rfl
      | worldAuthority => rfl
    refine ⟨⟨h.habitats_ne, _, ⟨h.habitatOk, nodup_toNat_iff.1 h.habitats_nodup, rfl⟩, _,
      ⟨nodup_toNat_iff.1 h.rows_nodup, fun m hm => ?_, rfl⟩,
      fun id hid => checkKnown_eq_ok_iff.2 (h.known id hid), h.nextTag, _,
      ⟨⟨h.tags_increase, h.tags_pos, h.tagOk, h.tags_nodup⟩, rfl⟩, h.nextTransfer, _,
      ⟨⟨⟨h.transfers_increase, h.transfers_pos⟩, htransfer, hends.1⟩, rfl⟩, hends.2⟩,
      h.rowTick, h.tagTick, h.transferTick⟩
    obtain ⟨h0, hk, hh, ho⟩ := h.rowOk m hm
    exact ⟨h0, raw_mem_map_iff.2 hk, habitat_raw_mem_iff.2 hh, habitat_raw_mem_iff.2 ho⟩

end HabitatAuthority

end ALife
