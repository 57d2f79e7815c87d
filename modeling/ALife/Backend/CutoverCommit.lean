/-
# What a cutover commits

The commit of a cutover empties every slot and places the staged entries in
their reserved slots.  The plans stay (`plans_placeAll`), so the places stay, and
the residents afterwards are the staged ones in the order of the reservations
(`residents_of_placed`).  The last step, the admission event, passes exactly when
the counts moved as an admission into a retained slot moves them
(`commitAdmissionEvent_eq_ok_iff`).
-/

import ALife.Backend.CuratedCutover
import ALife.Backend.ResidentRows

namespace ALife

open Machine

/-- A list read through a partial function that is defined on a sublist of it is
that sublist with the values. -/
theorem filterMap_eq_zip_of_sublist {α β : Type} {L ls : List α} {rs : List β}
    {f : α → Option β} (hsub : ls.Sublist L) (hnodup : L.Nodup) (hlen : ls.length = rs.length)
    (h : ∀ a ∈ L, ∀ b, f a = some b ↔ (a, b) ∈ ls.zip rs) :
    (L.filterMap fun a => (f a).map fun b => (a, b)) = ls.zip rs := by
  induction hsub generalizing rs with
  | slnil => rw [List.zip_nil_left, List.filterMap_nil]
  | @cons ls L a hsub ih =>
    obtain ⟨ha, hnodup⟩ := List.nodup_cons.1 hnodup
    have hnone : f a = none := by
      by_contra hne
      obtain ⟨b, hb⟩ := Option.ne_none_iff_exists'.1 hne
      exact ha (hsub.subset (List.of_mem_zip ((h a List.mem_cons_self b).1 hb)).1)
    rw [List.filterMap_cons_none (by rw [hnone]; rfl)]
    exact ih hnodup hlen fun a' ha' => h a' (List.mem_cons_of_mem _ ha')
  | @cons_cons ls L a hsub ih =>
    obtain ⟨ha, hnodup⟩ := List.nodup_cons.1 hnodup
    rcases rs with _ | ⟨b, rs⟩
    · simp at hlen
    have hsome : f a = some b := (h a List.mem_cons_self b).2 List.mem_cons_self
    rw [List.filterMap_cons_some (by rw [hsome]; rfl), List.zip_cons_cons,
      ih hnodup (by simpa using hlen)]
    intro a' ha' b'
    rw [h a' (List.mem_cons_of_mem _ ha'), List.zip_cons_cons, List.mem_cons]
    have hne : (a', b') ≠ (a, b) := fun heq => ha ((Prod.mk.inj heq).1 ▸ ha')
    exact or_iff_right hne

namespace ClassBucketRuntime

variable {bucket : ClassBucketRuntime} {r : ResidentBrainSlot} {s t g : ℕ}

theorem resident_clear : bucket.clear.resident s = none := by
  unfold resident clear
  rw [List.getElem?_map]
  cases bucket.slots[s]? <;> rfl

theorem resident_place (h : s < bucket.plan.slotCapacity) :
    (bucket.place s g r).resident t = if t = s then some r else bucket.resident t := by
  unfold resident place
  dsimp only
  by_cases ht : t = s
  · rw [ht, List.getElem?_set_self (bucket.length_slots ▸ h), if_pos rfl]
    rfl
  · rw [List.getElem?_set_ne (Ne.symm ht), if_neg ht]

end ClassBucketRuntime

namespace ClassBuckets

variable {m m' : ClassBuckets} {l : SlotLocation} {r : ResidentBrainSlot} {g : ℕ}

theorem plans_mapValues_clear (m : ClassBuckets) :
    ClassBuckets.plans (m.mapValues (·.map ClassBucketRuntime.clear)) = m.plans := by
  refine OrderedMap.ext_get? fun c => ?_
  rw [plans, plans, OrderedMap.get?_mapValues, OrderedMap.get?_mapValues, OrderedMap.get?_mapValues,
    Option.map_map]
  refine congrArg (fun f => Option.map f (m.get? c)) (funext fun pool => ?_)
  rw [Function.comp_apply, List.map_map]
  rfl

theorem residentAt_mapValues_clear (m : ClassBuckets) (l : SlotLocation) :
    ClassBuckets.residentAt (m.mapValues (·.map ClassBucketRuntime.clear)) l = none := by
  unfold residentAt chunk?
  rw [OrderedMap.get?_mapValues]
  rcases m.get? l.classId with _ | pool
  · rfl
  · rw [Option.map_some, Option.bind_some, List.getElem?_map]
    rcases pool[l.chunkIndex]? with _ | bucket
    · rfl
    · exact ClassBucketRuntime.resident_clear

/-- Placing in a slot that exists fills it and leaves every other one. -/
theorem residentAt_place (hl : l ∈ m.locations)
    (h : m.modifyChunk l.classId l.chunkIndex (·.place l.slot g r) = some m')
    (l' : SlotLocation) : m'.residentAt l' = if l' = l then some r else m.residentAt l' := by
  obtain ⟨bucket, hchunk, hslot⟩ := mem_locations.1 hl
  unfold residentAt
  rw [chunk?_modifyChunk h]
  by_cases hplace : l'.classId = l.classId ∧ l'.chunkIndex = l.chunkIndex
  · rw [if_pos hplace, hplace.1, hplace.2, hchunk, Option.map_some, Option.bind_some,
      ClassBucketRuntime.resident_place hslot, Option.bind_some]
    by_cases hs : l'.slot = l.slot
    · have heq : l' = l := by
        rcases l' with ⟨c, k, s⟩
        exact (SlotLocation.mk.injEq _ _ _ _ _ _).mpr ⟨hplace.1, hplace.2, hs⟩
      rw [if_pos hs, if_pos heq]
    · have hne : l' ≠ l := fun heq => hs (heq ▸ rfl)
      rw [if_neg hs, if_neg hne]
  · have hne : l' ≠ l := fun heq => hplace ⟨heq ▸ rfl, heq ▸ rfl⟩
    rw [if_neg hplace, if_neg hne]

/-- What holds a sublist of the places is that sublist, in order. -/
theorem residents_of_placed {ls : List SlotLocation} {rs : List ResidentBrainSlot}
    (hsub : ls.Sublist m.locations) (hlen : ls.length = rs.length)
    (h : ∀ l r, m.residentAt l = some r ↔ (l, r) ∈ ls.zip rs) : m.residents = ls.zip rs := by
  rw [residents_eq]
  exact filterMap_eq_zip_of_sublist hsub m.nodup_locations hlen fun l _ r => h l r

end ClassBuckets

namespace GpuClosedLoopBackend

variable {b b' : GpuClosedLoopBackend}

/-- A staged entry goes where its reservation points. -/
def Paired (rs : CuratedResidencySlotState × PreparedCuratedBackendEntry) : Prop :=
  rs.2.classId = rs.1.location.classId ∧ rs.2.chunkIndex = rs.1.location.chunkIndex

/-- The loop that places the staged entries. -/
def placeAll (b : GpuClosedLoopBackend)
    (pairs : List (CuratedResidencySlotState × PreparedCuratedBackendEntry)) :
    Contract GpuClosedLoopBackend :=
  pairs.foldlM (fun b rs => b.placePrepared rs.1 rs.2) b

theorem placePrepared_eq_ok {rs : CuratedResidencySlotState × PreparedCuratedBackendEntry}
    (hl : rs.1.location ∈ b.classBuckets.locations) (hpair : Paired rs) :
    ∃ m watermarks organisms, b.placePrepared rs.1 rs.2 = .ok { b with
        classBuckets := m, slotGenerationWatermarks := watermarks, organisms := organisms }
      ∧ m.plans = b.classBuckets.plans
      ∧ ∀ l, m.residentAt l = if l = rs.1.location then some rs.2.resident
          else b.classBuckets.residentAt l := by
  obtain ⟨bucket, hchunk, -⟩ := ClassBuckets.mem_locations.1 hl
  obtain ⟨m, hm⟩ := ClassBuckets.exists_modifyChunk
    (f := (·.place rs.1.location.slot rs.1.reservedGeneration rs.2.resident)) hchunk
  refine ⟨m, b.slotGenerationWatermarks.insert
      (toLex (rs.1.location.classId, rs.1.location.slot)) rs.1.reservedGeneration,
    b.organisms.insert rs.2.handle.organismId.raw.toNat rs.2.handle, ?_,
    ClassBuckets.plans_modifyChunk hm fun _ => rfl, ClassBuckets.residentAt_place hl hm⟩
  rw [placePrepared, hpair.1, hpair.2, hm]
  rfl

/-- **Placing in distinct slots that exist succeeds and fills exactly these.** -/
theorem placeAll_eq_ok {pairs : List (CuratedResidencySlotState × PreparedCuratedBackendEntry)}
    (hl : ∀ rs ∈ pairs, rs.1.location ∈ b.classBuckets.locations) (hpair : ∀ rs ∈ pairs, Paired rs)
    (hnodup : (pairs.map (·.1.location)).Nodup) :
    ∃ m watermarks organisms, b.placeAll pairs = .ok { b with
        classBuckets := m, slotGenerationWatermarks := watermarks, organisms := organisms }
      ∧ m.plans = b.classBuckets.plans
      ∧ ∀ l r, m.residentAt l = some r ↔ (l, r) ∈ pairs.map (fun rs => (rs.1.location, rs.2.resident))
          ∨ l ∉ pairs.map (·.1.location) ∧ b.classBuckets.residentAt l = some r := by
  induction pairs generalizing b with
  | nil => exact ⟨_, _, _, rfl, rfl, fun l r => by simp⟩
  | cons rs pairs ih =>
    obtain ⟨hrs, hpairs⟩ := List.nodup_cons.1 hnodup
    obtain ⟨m₁, w₁, o₁, hok₁, hplans₁, hat₁⟩ :=
      placePrepared_eq_ok (hl rs List.mem_cons_self) (hpair rs List.mem_cons_self)
    obtain ⟨m, w, o, hok, hplans, hat⟩ := ih (b := { b with
        classBuckets := m₁, slotGenerationWatermarks := w₁, organisms := o₁ })
      (fun q hq => ClassBuckets.locations_congr hplans₁ ▸ hl q (List.mem_cons_of_mem _ hq))
      (fun q hq => hpair q (List.mem_cons_of_mem _ hq)) hpairs
    refine ⟨m, w, o, ?_, hplans.trans hplans₁, fun l r => ?_⟩
    · rw [placeAll, List.foldlM_cons, hok₁]
      exact hok
    · rw [hat, hat₁]
      by_cases heq : l = rs.1.location
      · subst heq
        rw [if_pos rfl]
        simp only [List.map_cons, List.mem_cons, Prod.mk.injEq, Option.some.injEq, true_and,
          not_true_eq_false, true_or, false_and, or_false]
        have hnot : (rs.1.location, r) ∉ pairs.map fun rs => (rs.1.location, rs.2.resident) :=
          fun hmem => hrs (by
            obtain ⟨q, hq, heq⟩ := List.mem_map.1 hmem
            exact List.mem_map.2 ⟨q, hq, (Prod.mk.inj heq).1⟩)
        constructor
        · rintro (hmem | ⟨-, rfl⟩)
          · exact absurd hmem hnot
          · exact Or.inl rfl
        · rintro (rfl | hmem)
          · exact Or.inr ⟨hrs, rfl⟩
          · exact absurd hmem hnot
      · rw [if_neg heq]
        simp only [List.map_cons, List.mem_cons, Prod.mk.injEq, heq, false_and, false_or]

/-! ### The admission event -/

variable {kind : GpuAllocationEventKind} {handle : GpuBrainHandle} {peak : ℕ}

/-- The receipt that an event would publish, but for the event. -/
def receiptAfter (b : GpuClosedLoopBackend) (peak : ℕ) : GpuAdmissionReceipt :=
  { b.snapshotReceipt with
    allocationGeneration := b.admission.allocationGeneration + 1
    peakLogicalCommittedBytes :=
      max b.admission.peakLogicalCommittedBytes b.totals.logicalCommittedBytes
    peakPhysicalAllocatedBytes :=
      max (max b.admission.peakPhysicalAllocatedBytes b.totals.physicalAllocatedBytes) peak }

/-- The event between the published receipt and the counts. -/
def eventAfter (b : GpuClosedLoopBackend) (kind : GpuAllocationEventKind)
    (handle : GpuBrainHandle) (peak : ℕ) : GpuAllocationEventReceipt :=
  .new kind handle.classId handle.slot handle.generation b.admission (b.receiptAfter peak)

/-- **An event is committed when the counts fit their budgets and moved as its
kind asks.** -/
theorem commitAdmissionEvent_eq_ok_iff : b.commitAdmissionEvent kind handle peak = .ok b' ↔
    b' = { b with admission := { b.receiptAfter peak with
      lastEvent := some (b.eventAfter kind handle peak) } }
    ∧ b.totals.Fit ∧ b.WithinBudget ∧ b.admission.allocationGeneration + 1 < 2 ^ 64
    ∧ supportedForId handle.classId = .ok () ∧ handle.generation ≠ 0
    ∧ (b.eventAfter kind handle peak).transitionIsValid = true := by
  simp only [commitAdmissionEvent, except_bind_eq_ok_iff, getOr_eq_ok_iff, checkedAdd_eq_some_iff,
    currentAdmissionSnapshot_eq_ok_iff]
  have hvalid (hfit : b.totals.Fit) :
      GpuAdmissionReceipt.validateContract { b.receiptAfter peak with
        lastEvent := some (b.eventAfter kind handle peak) } = .ok () ↔ b.WithinBudget ∧
        supportedForId handle.classId = .ok () ∧ handle.generation ≠ 0
        ∧ (b.eventAfter kind handle peak).transitionIsValid = true := by
    rw [validateContract_of_counts hfit rfl]
    have hlogical : b.totals.logicalCommittedBytes ≤
        max b.admission.peakLogicalCommittedBytes b.totals.logicalCommittedBytes :=
      Nat.le_max_right _ _
    have hphysical : b.totals.physicalAllocatedBytes ≤ max (max
        b.admission.peakPhysicalAllocatedBytes b.totals.physicalAllocatedBytes) peak :=
      (Nat.le_max_right _ _).trans (Nat.le_max_left _ _)
    have hgeneration : (b.admission.allocationGeneration + 1 == 0)
        = (some (b.eventAfter kind handle peak)).isNone := by simp
    constructor
    · rintro ⟨⟨hw, -⟩, -, he⟩
      exact ⟨hw, GpuAllocationEventReceipt.validateContract_new_eq_ok_iff.1 (he _ rfl).1⟩
    · rintro ⟨hw, he⟩
      refine ⟨⟨hw, hlogical, hphysical⟩, hgeneration, ?_⟩
      rintro e ⟨⟩
      exact ⟨GpuAllocationEventReceipt.validateContract_new_eq_ok_iff.2 he,
        GpuAllocationEventReceipt.reconcilesAfter_new⟩
  constructor
  · rintro ⟨_, ⟨rfl, hfit, hw⟩, _, ⟨rfl, hgen⟩, u, hu, hb⟩
    exact ⟨(Except.ok.inj hb).symm, hfit, hw, hgen, ((hvalid hfit).1 hu).2⟩
  · rintro ⟨rfl, hfit, hw, hgen, he⟩
    exact ⟨_, ⟨rfl, hfit, hw⟩, _, ⟨rfl, hgen⟩, (), (hvalid hfit).2 ⟨hw, he⟩, rfl⟩

/-- An admission into a retained slot commits more bytes of the same allocation,
out of the unused ones. -/
theorem transitionIsValid_retained :
    (b.eventAfter .admitFromRetainedSlot handle peak).transitionIsValid = true ↔
      b.admission.logicalCommittedBytes < b.totals.logicalCommittedBytes
      ∧ b.totals.physicalAllocatedBytes = b.admission.physicalAllocatedBytes
      ∧ b.totals.physicalUnusedRetainedBytes < b.admission.physicalUnusedRetainedBytes := by
  simp [eventAfter, GpuAllocationEventReceipt.transitionIsValid, GpuAllocationEventReceipt.new,
    GpuAllocationEventKind.raw, receiptAfter, snapshotReceipt, and_assoc]

end GpuClosedLoopBackend

end ALife
