/-
# When a cutover commits

The commit of a staged cohort passes when the pipelines of the old residents are
idle, neither generation counter is at its end, and the counts of the backend
move from the old cohort to the new one as an admission into a retained slot
does (`CommitReady`, `commit_iff`).  What it leaves has exactly the staged
residents, in order.
-/

import ALife.Backend.CutoverCommit

namespace ALife

open Machine

namespace GpuClosedLoopBackend

variable {b b' : GpuClosedLoopBackend} {count : ℕ}

/-- What all slots of a backend commit, occupied or not. -/
def slotBytes (b : GpuClosedLoopBackend) : ℕ :=
  ClassBuckets.total (slotBytesOf b.slotLayout) b.classBuckets.chunks

/-- What a slot of the class N512 commits. -/
def n512CommitBytes (b : GpuClosedLoopBackend) : ℕ := (b.slotLayout n512Id).logicalSlotCommitBytes

/-- The counts go from the published receipt to `count` N512 residents as the
admission of one brain into a retained slot moves them: more bytes committed, of
the same allocation, and fewer unused. -/
structure MovesAsAdmission (b : GpuClosedLoopBackend) (count : ℕ) : Prop where
  logical : b.admission.logicalCommittedBytes < count * b.n512CommitBytes
  physical : b.totals.physicalAllocatedBytes = b.admission.physicalAllocatedBytes
  unused : b.slotBytes - count * b.n512CommitBytes < b.admission.physicalUnusedRetainedBytes

/-- The backend can commit a staged cohort of `count` entries. -/
structure CommitReady (b : GpuClosedLoopBackend) (count : ℕ) : Prop where
  pipelines : b.pipelinesIdle = true
  curated : b.curatedResidencyGeneration + 1 < 2 ^ 64
  allocation : b.admission.allocationGeneration + 1 < 2 ^ 64
  moves : b.MovesAsAdmission count

/-- Buckets of the same plans allocate the same and have the same slot bytes. -/
theorem totals_of_plans (hlayout : b'.slotLayout = b.slotLayout)
    (hplans : b'.classBuckets.plans = b.classBuckets.plans) :
    b'.totals.physicalAllocatedBytes = b.totals.physicalAllocatedBytes
      ∧ b'.slotBytes = b.slotBytes := by
  have hshared (w : ℕ → GpuFixedClassArenaPlan → ℕ) :
      ClassBuckets.total (fun c k => w c k.plan) b'.classBuckets.chunks
        = ClassBuckets.total (fun c k => w c k.plan) b.classBuckets.chunks := by
    rw [ClassBuckets.total_plan, ClassBuckets.total_plan, hplans]
  refine ⟨?_, ?_⟩
  · simp only [totals, totalsFrom, Nat.zero_add, hlayout]
    exact hshared fun c plan => plan.aggregateResidentBytes (b.slotLayout c)
  · unfold slotBytes
    rw [hlayout]
    exact hshared fun c plan => (b.slotLayout c).logicalSlotCommitBytes * plan.slotCapacity

/-- What the residents commit and how many they are. -/
theorem totals_of_residents (b : GpuClosedLoopBackend) :
    b.totals.logicalCommittedBytes = (b.classBuckets.residents.map fun lr =>
        (b.slotLayout lr.1.classId).logicalSlotCommitBytes).sum
      ∧ b.totals.liveBrains = b.classBuckets.residents.length := by
  simp only [totals, totalsFrom, Nat.zero_add]
  refine ⟨ClassBuckets.total_live (fun c => (b.slotLayout c).logicalSlotCommitBytes) _, ?_⟩
  have hlive := ClassBuckets.total_live (fun _ => 1) b.classBuckets
  simp only [one_mul, List.map_const', List.sum_replicate, smul_eq_mul, mul_one] at hlive
  exact hlive

/-- The unused bytes are the slot bytes less the committed ones. -/
theorem unused_totals (b : GpuClosedLoopBackend) :
    b.totals.physicalUnusedRetainedBytes = b.slotBytes - b.totals.logicalCommittedBytes := by
  have h := total_slotBytesOf b.slotLayout b.classBuckets.chunks
  simp only [totals, totalsFrom, Nat.zero_add, slotBytes]
  omega

/-- The counts of a backend with `count` residents, all of the class N512. -/
theorem totals_of_n512 {placed : List (SlotLocation × ResidentBrainSlot)}
    (hplans : b'.classBuckets.plans = b.classBuckets.plans) (hlayout : b'.slotLayout = b.slotLayout)
    (hresidents : b'.classBuckets.residents = placed) (hlength : placed.length = count)
    (hclass : ∀ lr ∈ placed, lr.1.classId = n512Id) :
    b'.totals.logicalCommittedBytes = count * b.n512CommitBytes
      ∧ b'.totals.physicalAllocatedBytes = b.totals.physicalAllocatedBytes
      ∧ b'.totals.physicalUnusedRetainedBytes = b.slotBytes - count * b.n512CommitBytes
      ∧ b'.totals.liveBrains = count := by
  obtain ⟨hallocated, hslots⟩ := totals_of_plans hlayout hplans
  obtain ⟨hlogical, hlive⟩ := b'.totals_of_residents
  have hcommit : (placed.map fun lr => (b.slotLayout lr.1.classId).logicalSlotCommitBytes).sum
      = count * b.n512CommitBytes := by
    rw [List.map_congr_left fun lr hlr => by rw [hclass lr hlr], List.map_const',
      List.sum_replicate, hlength]
    rfl
  rw [hresidents, hlayout, hcommit] at hlogical
  rw [hresidents, hlength] at hlive
  refine ⟨hlogical, hallocated, ?_, hlive⟩
  rw [unused_totals, hslots, hlogical]

theorem advanceCuratedGeneration_eq_ok_iff : b.advanceCuratedGeneration = .ok b' ↔
    b.curatedResidencyGeneration + 1 < 2 ^ 64
      ∧ b' = { b with curatedResidencyGeneration := b.curatedResidencyGeneration + 1 } := by
  simp only [advanceCuratedGeneration, except_bind_eq_ok_iff, getOr_eq_ok_iff,
    checkedAdd_eq_some_iff]
  constructor
  · rintro ⟨_, ⟨rfl, hgen⟩, hb⟩
    exact ⟨hgen, (Except.ok.inj hb).symm⟩
  · rintro ⟨hgen, rfl⟩
    exact ⟨_, ⟨rfl, hgen⟩, rfl⟩

end GpuClosedLoopBackend

namespace CuratedBackendPort

open GpuClosedLoopBackend

variable {p p' : CuratedBackendPort} {f : GpuClosedLoopBackend → Contract GpuClosedLoopBackend}

theorem update_bind_eq_ok_iff {g : Unit → EStateM ScaffoldContractError CuratedBackendPort Unit} :
    (update f >>= g) p = .ok () p' ↔
      ∃ b', f p.backend = .ok b' ∧ g () { p with backend := b' } = .ok () p' := by
  rw [bind_apply, update]
  cases h : f p.backend with
  | ok b' => simp
  | error e => simp

theorem update_eq_ok_iff : update f p = .ok () p' ↔
    ∃ b', f p.backend = .ok b' ∧ p' = { p with backend := b' } := by
  rw [update]
  cases h : f p.backend with
  | ok b' => simp [eq_comm]
  | error e => simp

/-- A loop of updates that all pass is one update. -/
theorem forM_update_eq_ok {α : Type} {f : α → GpuClosedLoopBackend → Contract GpuClosedLoopBackend}
    {l : List α} {b' : GpuClosedLoopBackend}
    (h : l.foldlM (fun b a => f a b) p.backend = .ok b') :
    (l.forM fun a => update (f a)) p = .ok () { p with backend := b' } := by
  induction l generalizing p with
  | nil =>
    cases h
    rfl
  | cons a l ih =>
    rw [List.foldlM_cons] at h
    obtain ⟨b₁, hb₁, h⟩ := except_bind_eq_ok_iff.1 h
    change (update (f a) >>= fun _ => l.forM fun a => update (f a)) p = _
    exact update_bind_eq_ok_iff.2 ⟨b₁, hb₁, ih (p := { p with backend := b₁ }) h⟩

/-! ### The commit -/

variable {cohort : GpuCuratedResidencyCohort} {reservations : List CuratedResidencySlotState}
  {staged : List PreparedCuratedBackendEntry} {receipt : GpuCuratedResidencyReceipt}

/-- What staging promises the commit: distinct open N512 slots in the order of
the loops, an entry staged for each, and the receipt of these. -/
structure Staged (b : GpuClosedLoopBackend) (reservations : List CuratedResidencySlotState)
    (staged : List PreparedCuratedBackendEntry) (receipt : GpuCuratedResidencyReceipt) : Prop where
  nonempty : reservations ≠ []
  length : reservations.length = staged.length
  handles : receipt.orderedResidents.map (·.handle) = staged.map (·.handle)
  paired : ∀ rs ∈ reservations.zip staged, Paired rs
  isOpen : ∀ row ∈ reservations, b.slotIsOpen row.location = true
  places : (reservations.map (·.location)).Sublist b.classBuckets.locations
  n512 : ∀ row ∈ reservations, row.location.classId = n512Id
  handle : ∀ s ∈ staged, s.handle.classId = n512Id ∧ s.handle.generation ≠ 0

/-- The budgets leave room for `count` N512 brains and the present allocation. -/
structure BudgetsAllow (b : GpuClosedLoopBackend) (count : ℕ) : Prop where
  live : count ≤ b.runtimeBudget.maxHotBrains
  words : count < 2 ^ 32
  logical : count * b.n512CommitBytes < 2 ^ 64 →
    count * b.n512CommitBytes ≤ b.runtimeBudget.logicalNeuralHeapBudgetBytes
  physical : b.admission.physicalAllocatedBytes ≤ b.runtimeBudget.physicalAllocationCeilingBytes
  fits : b.admission.physicalAllocatedBytes < 2 ^ 64

theorem Staged.first {b : GpuClosedLoopBackend} (h : Staged b reservations staged receipt) :
    ∃ first, receipt.orderedResidents.head? = some first ∧ first.handle.classId = n512Id
      ∧ first.handle.generation ≠ 0 := by
  have hne : staged ≠ [] := fun hnil =>
    h.nonempty (List.length_eq_zero_iff.1 (by rw [h.length, hnil]; rfl))
  obtain ⟨s, tail, rfl⟩ := List.exists_cons_of_ne_nil hne
  have hhandles := h.handles
  rcases hr : receipt.orderedResidents with _ | ⟨first, rest⟩
  · rw [hr] at hhandles
    simp at hhandles
  · rw [hr, List.map_cons, List.map_cons] at hhandles
    refine ⟨first, rfl, ?_⟩
    rw [(List.cons.inj hhandles).1]
    exact h.handle s List.mem_cons_self

/-- The checks before anything is changed. -/
theorem Staged.checks {b : GpuClosedLoopBackend} (h : Staged b reservations staged receipt) :
    (¬(reservations.length ≠ staged.length ∨ staged.length ≠ receipt.orderedResidents.length
      ∨ (∃ rs ∈ receipt.orderedResidents.zip staged, rs.1.handle ≠ rs.2.handle)))
    ∧ ¬∃ rs ∈ reservations.zip staged, rs.1.location.classId ≠ rs.2.classId
      ∨ rs.1.location.chunkIndex ≠ rs.2.chunkIndex ∨ b.slotIsOpen rs.1.location = false := by
  have hlen : receipt.orderedResidents.length = staged.length := by
    simpa using congrArg List.length h.handles
  refine ⟨?_, ?_⟩
  · rintro (hne | hne | ⟨⟨g, s⟩, hmem, hne⟩)
    · exact hne h.length
    · exact hne hlen.symm
    · obtain ⟨i, hi, hget⟩ := List.mem_iff_getElem.1 hmem
      rw [List.getElem_zip] at hget
      obtain ⟨rfl, rfl⟩ := Prod.mk.inj hget
      rw [List.length_zip] at hi
      have hr : i < receipt.orderedResidents.length := by omega
      have hs : i < staged.length := by omega
      have hmap : (receipt.orderedResidents.map (·.handle))[i]? = (staged.map (·.handle))[i]? :=
        congrArg (·[i]?) h.handles
      rw [List.getElem?_map, List.getElem?_map, List.getElem?_eq_getElem hr,
        List.getElem?_eq_getElem hs] at hmap
      exact hne (Option.some.inj hmap)
  · rintro ⟨⟨row, s⟩, hmem, hbad⟩
    have hpair := h.paired _ hmem
    have hopen := h.isOpen row (List.of_mem_zip hmem).1
    rcases hbad with hbad | hbad | hbad
    · exact hbad hpair.1.symm
    · exact hbad hpair.2.symm
    · exact Bool.false_ne_true (hbad.symm.trans hopen)

/-- The backend that a commit has when it comes to the admission event. -/
def beforeEvent (b : GpuClosedLoopBackend) (cohort : GpuCuratedResidencyCohort) (m : ClassBuckets)
    (watermarks : OrderedMap (ℕ ×ₗ ℕ) ℕ) (organisms : OrderedMap ℕ GpuBrainHandle) :
    GpuClosedLoopBackend :=
  { b with
    classBuckets := m
    slotGenerationWatermarks := watermarks
    organisms := organisms
    curatedResidencyGeneration := b.curatedResidencyGeneration + 1
    curatedResidencyGenerationFingerprint := cohort.newGenerationFingerprint }

/-- A commit is the checks, which staging promises, the idle pipelines, the
generation counter and the admission event. -/
theorem commit_eq_ok_iff (h : Staged p.backend reservations staged receipt)
    {first : GpuCuratedResidentReceipt} (hfirst : receipt.orderedResidents.head? = some first)
    {m : ClassBuckets} {watermarks : OrderedMap (ℕ ×ₗ ℕ) ℕ}
    {organisms : OrderedMap ℕ GpuBrainHandle}
    (hplace : p.backend.clearResidents.placeAll (reservations.zip staged)
      = .ok { p.backend.clearResidents with
          classBuckets := m, slotGenerationWatermarks := watermarks, organisms := organisms }) :
    commit cohort reservations staged receipt p = .ok () p' ↔
      p.backend.pipelinesIdle = true ∧ p.backend.curatedResidencyGeneration + 1 < 2 ^ 64
      ∧ ∃ b', (beforeEvent p.backend cohort m watermarks organisms).commitAdmissionEvent
          .admitFromRetainedSlot first.handle p.backend.admission.physicalAllocatedBytes = .ok b'
        ∧ p' = { p with backend := b' } := by
  obtain ⟨hlengths, hplaces⟩ := h.checks
  have hloop := forM_update_eq_ok (p := { p with backend := p.backend.clearResidents })
    (f := fun (rs : CuratedResidencySlotState × PreparedCuratedBackendEntry) b =>
      b.placePrepared rs.1 rs.2) hplace
  rw [commit, update_bind_eq_ok_iff]
  simp only [except_seq_eq_ok_iff, reject_eq_ok_iff, Bool.not_eq_false, hlengths, hplaces,
    not_false_eq_true, true_and]
  constructor
  · rintro ⟨b₁, ⟨hidle, hb₁⟩, hrest⟩
    cases hb₁
    rw [bind_apply, hloop] at hrest
    dsimp only at hrest
    obtain ⟨b₂, hb₂, hrest⟩ := update_bind_eq_ok_iff.1 hrest
    obtain ⟨b₃, hb₃, hrest⟩ := update_bind_eq_ok_iff.1 hrest
    obtain ⟨b₄, hb₄, rfl⟩ := update_eq_ok_iff.1 hrest
    cases hb₃
    obtain ⟨hgen, rfl⟩ := advanceCuratedGeneration_eq_ok_iff.1 hb₂
    rw [hfirst] at hb₄
    exact ⟨hidle, hgen, b₄, hb₄, rfl⟩
  · rintro ⟨hidle, hgen, b', hevent, rfl⟩
    refine ⟨_, ⟨hidle, rfl⟩, ?_⟩
    rw [bind_apply, hloop]
    refine update_bind_eq_ok_iff.2 ⟨_, advanceCuratedGeneration_eq_ok_iff.2 ⟨hgen, rfl⟩,
      update_bind_eq_ok_iff.2 ⟨_, rfl, update_eq_ok_iff.2 ⟨b', ?_, rfl⟩⟩⟩
    rw [hfirst]
    exact hevent

/-- **A staged cohort is committed exactly when the backend is ready for it**, and
then the residents are the staged ones in order. -/
theorem commit_iff (h : Staged p.backend reservations staged receipt)
    (hbudgets : BudgetsAllow p.backend reservations.length) :
    ((∃ p', commit cohort reservations staged receipt p = .ok () p')
      ↔ p.backend.CommitReady reservations.length)
    ∧ ∀ p', commit cohort reservations staged receipt p = .ok () p' →
      p' = { p with backend := p'.backend } ∧ p'.backend.state = p.backend.state
      ∧ p'.backend.curatedResidencyGeneration = p.backend.curatedResidencyGeneration + 1
      ∧ p'.backend.classBuckets.residents
          = (reservations.map (·.location)).zip (staged.map (·.resident)) := by
  obtain ⟨first, hfirst, hclass, hgeneration⟩ := h.first
  have hplans : p.backend.clearResidents.classBuckets.plans = p.backend.classBuckets.plans :=
    ClassBuckets.plans_mapValues_clear _
  have hfst : (reservations.zip staged).map (·.1.location) = reservations.map (·.location) := by
    have hzip := List.map_fst_zip h.length.le
    calc (reservations.zip staged).map (·.1.location)
        = ((reservations.zip staged).map Prod.fst).map (·.location) := by rw [List.map_map]; rfl
      _ = reservations.map (·.location) := by rw [hzip]
  have hpairs : (reservations.zip staged).map (fun rs => (rs.1.location, rs.2.resident))
      = (reservations.map (·.location)).zip (staged.map (·.resident)) := by
    rw [List.zip_map]
    rfl
  have hin : ∀ rs ∈ reservations.zip staged,
      rs.1.location ∈ p.backend.clearResidents.classBuckets.locations := fun rs hrs =>
    ClassBuckets.locations_congr hplans ▸ h.places.subset
      (List.mem_map_of_mem (List.of_mem_zip hrs).1)
  have hnodup : ((reservations.zip staged).map (·.1.location)).Nodup :=
    hfst ▸ h.places.nodup p.backend.classBuckets.nodup_locations
  obtain ⟨m, watermarks, organisms, hplace, hm, hat⟩ := placeAll_eq_ok hin h.paired hnodup
  have hresidents : m.residents = (reservations.map (·.location)).zip (staged.map (·.resident)) := by
    refine ClassBuckets.residents_of_placed
      (ClassBuckets.locations_congr (hm.trans hplans) ▸ h.places) (by simp [h.length]) fun l r => ?_
    rw [hat, hpairs, hfst]
    exact or_iff_left fun hold => by
      have hnone := ClassBuckets.residentAt_mapValues_clear p.backend.classBuckets l
      exact absurd (hnone.symm.trans hold.2) (by simp)
  set bF := beforeEvent p.backend cohort m watermarks organisms with hbF
  have hlength : ((reservations.map (·.location)).zip (staged.map (·.resident))).length
      = reservations.length := by simp [h.length]
  have hn512 : ∀ lr ∈ (reservations.map (·.location)).zip (staged.map (·.resident)),
      lr.1.classId = n512Id := fun lr hlr => by
    obtain ⟨row, hrow, hl⟩ := List.mem_map.1 (List.of_mem_zip hlr).1
    rw [← hl]
    exact h.n512 row hrow
  obtain ⟨hlogical, hallocated, hunused, hlive⟩ :=
    @totals_of_n512 p.backend bF _ _ (hm.trans hplans) rfl hresidents hlength hn512
  have hrun (p' : CuratedBackendPort) : commit cohort reservations staged receipt p = .ok () p' ↔ _ :=
    commit_eq_ok_iff h hfirst hplace
  have hmoves : (bF.eventAfter .admitFromRetainedSlot first.handle
      p.backend.admission.physicalAllocatedBytes).transitionIsValid = true
        ↔ p.backend.MovesAsAdmission reservations.length := by
    rw [transitionIsValid_retained, hlogical, hallocated, hunused]
    exact ⟨fun ⟨h₁, h₂, h₃⟩ => ⟨h₁, h₂, h₃⟩, fun h => ⟨h.logical, h.physical, h.unused⟩⟩
  refine ⟨⟨?_, ?_⟩, ?_⟩
  · rintro ⟨p', hp'⟩
    obtain ⟨hidle, hgen, b', hevent, -⟩ := (hrun p').1 hp'
    obtain ⟨-, -, -, halloc, -, -, htransition⟩ := commitAdmissionEvent_eq_ok_iff.1 hevent
    exact ⟨hidle, hgen, halloc, hmoves.1 htransition⟩
  · intro hready
    have hphysical := hready.moves.physical
    have hsum := bF.allocated_totals
    have hfits := hbudgets.fits
    have hfit : bF.totals.Fit := fit_totals_iff.2 ⟨by omega, hlive ▸ hbudgets.words⟩
    have hbytes : reservations.length * p.backend.n512CommitBytes < 2 ^ 64 :=
      hlogical ▸ hfit.logical
    have hw : bF.WithinBudget :=
      ⟨hlogical ▸ hbudgets.logical hbytes, (hallocated.trans hphysical) ▸ hbudgets.physical,
        hlive ▸ hbudgets.live⟩
    exact ⟨_, (hrun _).2 ⟨hready.pipelines, hready.curated, _, commitAdmissionEvent_eq_ok_iff.2
      ⟨rfl, hfit, hw, hready.allocation, by rw [hclass]; rfl, hgeneration,
        hmoves.2 hready.moves⟩, rfl⟩⟩
  · intro p' hp'
    obtain ⟨-, -, b', hevent, rfl⟩ := (hrun p').1 hp'
    obtain ⟨rfl, -⟩ := commitAdmissionEvent_eq_ok_iff.1 hevent
    exact ⟨rfl, rfl, rfl, hresidents⟩

end CuratedBackendPort

end ALife
