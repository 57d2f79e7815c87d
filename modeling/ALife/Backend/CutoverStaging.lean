/-
# What a cutover stages

Before the submission a cutover changes nothing of the backend: it opens the
encoder and reads (`stage_ends`).  It gets through exactly when the cohort is
accepted, the free slots it would take can be issued once more, nothing is
pending on an old resident, and the device refuses none of its calls
(`Stageable`); then it has reserved the first free slots and staged an entry for
each, in order.
-/

import ALife.Backend.CutoverOutcome
import ALife.Machine.Outcome

namespace ALife

open Machine

variable {b : GpuClosedLoopBackend} {faults : CutoverFaults} {cohort : GpuCuratedResidencyCohort}

/-- A row as it is reserved. -/
def CuratedResidencySlotState.reserve (row : CuratedResidencySlotState) :
    CuratedResidencySlotState :=
  { row with reservedGeneration := row.generationWatermark + 1 }

/-- **The reserving loop takes the first free rows**, when there are enough and
none of them is at its last generation. -/
theorem reserveSlots_eq_ok_iff {classId count : ℕ} {rows rs : List CuratedResidencySlotState} :
    reserveSlots classId count rows = .ok rs ↔
      count ≤ (rows.filter (·.isFree classId)).length
      ∧ (∀ row ∈ (rows.filter (·.isFree classId)).take count, row.generationWatermark + 1 < 2 ^ 32)
      ∧ rs = ((rows.filter (·.isFree classId)).take count).map (·.reserve) := by
  have hzero (rows rs : List CuratedResidencySlotState) : reserveSlots classId 0 rows = .ok rs ↔
      0 ≤ (rows.filter (·.isFree classId)).length
      ∧ (∀ row ∈ (rows.filter (·.isFree classId)).take 0, row.generationWatermark + 1 < 2 ^ 32)
      ∧ rs = ((rows.filter (·.isFree classId)).take 0).map (·.reserve) := by
    rw [reserveSlots, List.take_zero]
    constructor
    · exact fun h => ⟨Nat.zero_le _, by simp, (Except.ok.inj h).symm⟩
    · exact fun h => congrArg Except.ok h.2.2.symm
  induction rows generalizing count rs with
  | nil =>
    rcases count with _ | count
    · exact hzero [] rs
    · simp [reserveSlots]
  | cons row rows ih =>
    rcases count with _ | count
    · exact hzero (row :: rows) rs
    rw [reserveSlots]
    by_cases hfree : row.isFree classId = true
    · rw [if_pos hfree, List.filter_cons_of_pos hfree, List.take_succ_cons, List.length_cons,
        List.forall_mem_cons, List.map_cons]
      simp only [except_bind_eq_ok_iff, getOr_eq_ok_iff, checkedAdd_eq_some_iff]
      constructor
      · rintro ⟨_, ⟨rfl, hgen⟩, rest, hrest, h⟩
        obtain ⟨hlen, hrows, rfl⟩ := ih.1 hrest
        exact ⟨Nat.succ_le_succ hlen, ⟨hgen, hrows⟩, (Except.ok.inj h).symm⟩
      · rintro ⟨hlen, ⟨hgen, hrows⟩, rfl⟩
        exact ⟨_, ⟨rfl, hgen⟩, _, ih.2 ⟨Nat.le_of_succ_le_succ hlen, hrows, rfl⟩, rfl⟩
    · rw [if_neg hfree, List.filter_cons_of_neg hfree]
      exact ih

/-- A cohort that validates is not empty and of the class N512. -/
theorem of_validateCuratedResidencyCohort {snapshot : CuratedResidencyPortSnapshot} {c : ℕ}
    (h : validateCuratedResidencyCohort cohort snapshot = .ok c) :
    cohort.orderedEntries ≠ [] ∧ c = n512Id := by
  rw [validateCuratedResidencyCohort, contract_check_eq_ok_iff, reject_eq_ok_iff] at h
  obtain ⟨hentries, h⟩ := h
  obtain ⟨first, -, h⟩ := except_bind_eq_ok_iff.1 h
  obtain ⟨hclass, h⟩ := contract_check_eq_ok_iff.1 h
  obtain ⟨_, -, h⟩ := except_bind_eq_ok_iff.1 h
  rw [reject_eq_ok_iff, not_not] at hclass
  exact ⟨fun hnil => hentries (Or.inl hnil), (Except.ok.inj h).symm.trans hclass⟩

namespace GpuClosedLoopBackend

/-- The rows of N512 slots that are neither occupied nor retired. -/
def freeRows (b : GpuClosedLoopBackend) : List CuratedResidencySlotState :=
  b.slotStates.filter (·.isFree n512Id)

/-- The rows that a cohort is given. -/
def reservationsFor (b : GpuClosedLoopBackend) (cohort : GpuCuratedResidencyCohort) :
    List CuratedResidencySlotState :=
  (b.freeRows.take cohort.orderedEntries.length).map (·.reserve)

/-- An entry staged for its row. -/
def preparedFor (b : GpuClosedLoopBackend)
    (er : GpuCuratedResidencyEntry × CuratedResidencySlotState) : PreparedCuratedBackendEntry where
  handle := reservedHandle b.backendInstanceId er.2.location.classId er.1 er.2
  classId := er.2.location.classId
  chunkIndex := er.2.location.chunkIndex
  resident := stagedResident er.1 er.2

/-- The entries staged for a cohort. -/
def stagedFor (b : GpuClosedLoopBackend) (cohort : GpuCuratedResidencyCohort) :
    List PreparedCuratedBackendEntry :=
  (cohort.orderedEntries.zip (b.reservationsFor cohort)).map b.preparedFor

/-- What staging hands to the submission. -/
def planFor (b : GpuClosedLoopBackend) (cohort : GpuCuratedResidencyCohort) :
    StagedCohort PreparedCuratedBackendEntry where
  snapshot := b.residencySnapshot
  classId := n512Id
  reservations := b.reservationsFor cohort
  staged := b.stagedFor cohort

/-- The cohort is validated, the budgets hold it beside the residents, and there
are enough free slots. -/
structure Accepts (b : GpuClosedLoopBackend) (cohort : GpuCuratedResidencyCohort) : Prop where
  valid : ∃ c, validateCuratedResidencyCohort cohort b.residencySnapshot = .ok c
  budgets : withinBudgets b.residencySnapshot cohort.orderedEntries.length = true
  slots : cohort.orderedEntries.length ≤ b.freeRows.length

/-- The scrub of an old resident finds it, with nothing pending. -/
def MayScrub (b : GpuClosedLoopBackend) (receipt : GpuCuratedResidentReceipt) : Prop :=
  ∃ r, b.classBuckets.resolve receipt.handle = some r
    ∧ r.slotGeneration = receipt.handle.generation ∧ r.organismId = receipt.handle.organismId
    ∧ r.phenotypeHash = receipt.handle.phenotypeHash ∧ r.pendingEligibility = false
    ∧ r.pendingEligibilityRecord = false

/-- The backend itself stands in the way of no step before the submission. -/
structure Unobstructed (b : GpuClosedLoopBackend) (cohort : GpuCuratedResidencyCohort) : Prop where
  watermarks : ∀ row ∈ b.freeRows.take cohort.orderedEntries.length,
    row.generationWatermark + 1 < 2 ^ 32
  scrubs : ∀ receipt ∈ b.oldResidents, b.MayScrub receipt

/-- The device refuses no call before the submission. -/
structure Unrefused (b : GpuClosedLoopBackend) (faults : CutoverFaults)
    (cohort : GpuCuratedResidencyCohort) : Prop where
  plan : faults.refusesSlotPlan = none
  uploads : ∀ i < cohort.orderedEntries.length, faults.refusesUpload i = none
  scrubs : ∀ receipt ∈ b.oldResidents, faults.refusesScrub receipt = none
  initializations : ∀ s ∈ b.stagedFor cohort, faults.refusesInitialization s.handle = none

/-- A cutover gets to its submission. -/
structure Stageable (b : GpuClosedLoopBackend) (faults : CutoverFaults)
    (cohort : GpuCuratedResidencyCohort) : Prop where
  accepts : b.Accepts cohort
  unobstructed : b.Unobstructed cohort
  unrefused : b.Unrefused faults cohort

theorem map_location_slotStates (b : GpuClosedLoopBackend) :
    b.slotStates.map (·.location) = b.classBuckets.locations := by
  rw [slotStates, List.map_map, ← ClassBuckets.map_fst_slotRows]
  rfl

theorem map_location_reservationsFor (b : GpuClosedLoopBackend)
    (cohort : GpuCuratedResidencyCohort) : (b.reservationsFor cohort).map (·.location)
      = (b.freeRows.take cohort.orderedEntries.length).map (·.location) := by
  rw [reservationsFor, List.map_map]
  rfl

theorem length_reservationsFor (h : cohort.orderedEntries.length ≤ b.freeRows.length) :
    (b.reservationsFor cohort).length = cohort.orderedEntries.length := by
  rw [reservationsFor, List.length_map, List.length_take, Nat.min_eq_left h]

/-- A free row is of the class N512 and shows an open slot. -/
theorem of_mem_freeRows {row : CuratedResidencySlotState} (h : row ∈ b.freeRows) :
    row.location.classId = n512Id ∧ b.slotIsOpen row.location = true := by
  obtain ⟨hrow, hfree⟩ := List.mem_filter.1 h
  obtain ⟨⟨l, bucket, o⟩, hmem, rfl⟩ := List.mem_map.1 hrow
  obtain ⟨hchunk, hslot⟩ := ClassBuckets.mem_slotRows.1 hmem
  simp only [CuratedResidencySlotState.isFree, Bool.and_eq_true, beq_iff_eq, Bool.not_eq_true',
    Option.isSome_eq_false_iff] at hfree
  refine ⟨hfree.1.1, ?_⟩
  rw [slotIsOpen, hchunk, Option.any_some, ClassBucketRuntime.resident, hslot,
    Option.isNone_iff_eq_none.1 hfree.1.2, hfree.2]
  rfl

theorem of_mem_reservationsFor {row : CuratedResidencySlotState}
    (h : row ∈ b.reservationsFor cohort) :
    row.location.classId = n512Id ∧ b.slotIsOpen row.location = true
      ∧ row.reservedGeneration ≠ 0 := by
  obtain ⟨row, hrow, rfl⟩ := List.mem_map.1 h
  obtain ⟨hclass, hopen⟩ := of_mem_freeRows (List.mem_of_mem_take hrow)
  exact ⟨hclass, hopen, Nat.succ_ne_zero _⟩

end GpuClosedLoopBackend

namespace CuratedBackendPort

open GpuClosedLoopBackend

/-- The port between the snapshot and the submission: the backend as it was, but
for the flag of a lost device, and nothing logged. -/
structure Reading (b : GpuClosedLoopBackend) (lost : Bool) (p : CuratedBackendPort) : Prop where
  backend : p.backend = { b with lost := lost }
  submitted : p.submitted = false
  calls : p.calls = []

/-- How staging fails: the flag was up before the snapshot, or a step was in the
way and nothing has changed. -/
def StagingFails (b : GpuClosedLoopBackend) (faults : CutoverFaults)
    (cohort : GpuCuratedResidencyCohort) (_ : ScaffoldContractError) (p : CuratedBackendPort) :
    Prop :=
  CutoverCall.submit ∉ p.calls ∧
    (faults.lostBeforeSnapshot = true ∧ p.backend.lost = true
      ∨ faults.lostBeforeSnapshot = false ∧ ¬b.Stageable faults cohort
        ∧ Reading b faults.lostAfterSnapshot p)

theorem StagingFails.of_reading {p : CuratedBackendPort} {e : ScaffoldContractError}
    (hlost : faults.lostBeforeSnapshot = false) (h : ¬b.Stageable faults cohort)
    (hp : Reading b faults.lostAfterSnapshot p) : StagingFails b faults cohort e p :=
  ⟨by simp [hp.calls], Or.inr ⟨hlost, h, hp⟩⟩

variable {p : CuratedBackendPort}

/-- Residents beyond `u32` are beyond every budget. -/
theorem length_oldResidents_lt {count : ℕ} (h : withinBudgets b.residencySnapshot count = true) :
    b.oldResidents.length + count < 2 ^ 32 := by
  simp only [withinBudgets, Bool.and_eq_true, Option.any_eq_true, checkedAdd_eq_some_iff,
    residencySnapshot] at h
  obtain ⟨⟨⟨_, ⟨rfl, hlt⟩, -⟩, -⟩, -⟩ := h
  exact hlt

theorem reading_new (hlost : b.lost = false) (lost : Bool) :
    Reading b lost (((new b).raiseLost false).raiseLost lost) := by
  refine ⟨?_, rfl, rfl⟩
  simp [raiseLost, new, hlost]

/-- The snapshot of a ready backend. -/
theorem snapshot_ends (hstate : b.state = .ready) (hlost : b.lost = false) :
    Ends (snapshot faults) (new b)
      (fun s p => faults.lostBeforeSnapshot = false ∧ faults.refusesSlotPlan = none
        ∧ s = b.residencySnapshot ∧ Reading b faults.lostAfterSnapshot p)
      (StagingFails b faults cohort) := by
  unfold Ends snapshot
  rcases hbefore : faults.lostBeforeSnapshot with _ | _
  · have hready : ((new b).raiseLost false).ensureReady = (.ok (), (new b).raiseLost false) := by
      simp [ensureReady, raiseLost, new, hlost, hstate, reject]
    dsimp only
    rw [hready]
    dsimp only
    rcases hplan : faults.refusesSlotPlan with _ | e
    · dsimp only
      have hsnapshot : ((new b).raiseLost false).backend = b := by
        simp [raiseLost, new, hlost.symm]
      rw [hsnapshot]
      split_ifs with hlength
      · exact ⟨rfl, rfl, rfl, reading_new hlost _⟩
      · refine StagingFails.of_reading hbefore (fun h => hlength ?_) (reading_new hlost _)
        exact (Nat.le_add_right _ _).trans_lt (length_oldResidents_lt h.accepts.budgets)
    · dsimp only
      refine StagingFails.of_reading hbefore (fun h => ?_) (reading_new hlost _)
      have hnone := h.unrefused.plan
      rw [hplan] at hnone
      cases hnone
  · have hready : ((new b).raiseLost true).ensureReady
        = (.error .neuralBackendUnavailable, ((new b).raiseLost true).markUnknown) := by
      simp [ensureReady, raiseLost, new, markUnknown, markDeviceLost, reject]
    dsimp only
    rw [hready]
    refine ⟨by simp [markUnknown, raiseLost, new], Or.inl ⟨hbefore, ?_⟩⟩
    simp [markUnknown, raiseLost, new, markDeviceLost]

theorem chunk?_ne_none {l : SlotLocation} (h : b.slotIsOpen l = true) :
    b.classBuckets.chunk? l.classId l.chunkIndex ≠ none := by
  intro hnone
  rw [slotIsOpen, hnone] at h
  cases h

/-- One entry is staged unless the device refuses its upload. -/
theorem prepareEntry_ends {index : ℕ} {entry : GpuCuratedResidencyEntry} {lost : Bool}
    {row : CuratedResidencySlotState} (hopen : b.slotIsOpen row.location = true)
    (hp : Reading b lost p) :
    Ends (prepareEntry faults index entry row) p
      (fun s t => t = p ∧ faults.refusesUpload index = none ∧ s = b.preparedFor (entry, row))
      (fun _ t => t = p ∧ faults.refusesUpload index ≠ none) := by
  have hopen' : p.backend.slotIsOpen row.location = true := by
    rw [hp.backend]
    exact hopen
  have hid : p.backend.backendInstanceId = b.backendInstanceId := by rw [hp.backend]
  unfold Ends prepareEntry
  rw [if_neg (chunk?_ne_none hopen'), if_neg (by rw [hopen']; exact Bool.noConfusion), hid]
  rcases faults.refusesUpload index with _ | e
  · exact ⟨rfl, rfl, rfl⟩
  · exact ⟨rfl, Option.some_ne_none e⟩

/-- One old resident is scrubbed when it may be and the device does not refuse. -/
theorem recordOldSlotScrub_ends {receipt : GpuCuratedResidentReceipt} {lost : Bool}
    (hp : Reading b lost p) :
    Ends (recordOldSlotScrub faults receipt) p
      (fun _ t => t = { p with encoder := true } ∧ b.MayScrub receipt
        ∧ faults.refusesScrub receipt = none)
      (fun _ t => t = { p with encoder := true }
        ∧ ¬(b.MayScrub receipt ∧ faults.refusesScrub receipt = none)) := by
  have hbuckets : p.backend.classBuckets = b.classBuckets := by rw [hp.backend]
  unfold Ends recordOldSlotScrub
  dsimp only
  rw [hbuckets]
  rcases hresolve : b.classBuckets.resolve receipt.handle with _ | r
  · refine ⟨rfl, ?_⟩
    rintro ⟨⟨r, hr, -⟩, -⟩
    rw [hresolve] at hr
    cases hr
  · dsimp only
    split_ifs with hbad
    · refine ⟨rfl, ?_⟩
      rintro ⟨⟨r', hr, hgen, horg, hhash, hpend, hrecord⟩, -⟩
      rw [hresolve] at hr
      cases hr
      rcases hbad with hbad | hbad | hbad | hbad | hbad
      · exact hbad hgen
      · exact hbad horg
      · exact hbad hhash
      · exact Bool.false_ne_true (hpend.symm.trans hbad)
      · exact Bool.false_ne_true (hrecord.symm.trans hbad)
    · simp only [not_or, not_not, ne_eq, Bool.not_eq_true] at hbad
      have hmay : b.MayScrub receipt :=
        ⟨r, hresolve, hbad.1, hbad.2.1, hbad.2.2.1, hbad.2.2.2.1, hbad.2.2.2.2⟩
      rcases hrefuses : faults.refusesScrub receipt with _ | e
      · exact ⟨rfl, hmay, rfl⟩
      · exact ⟨rfl, fun h => Option.some_ne_none e h.2⟩

/-- One reserved slot is initialised unless the device refuses. -/
theorem recordNewSlotInitialization_ends {s : PreparedCuratedBackendEntry} {lost : Bool}
    (hs : b.classBuckets.chunk? s.classId s.chunkIndex ≠ none) (hp : Reading b lost p) :
    Ends (recordNewSlotInitialization faults s) p
      (fun _ t => t = { p with encoder := true } ∧ faults.refusesInitialization s.handle = none)
      (fun _ t => t = { p with encoder := true }
        ∧ faults.refusesInitialization s.handle ≠ none) := by
  have hbuckets : p.backend.classBuckets = b.classBuckets := by rw [hp.backend]
  unfold Ends recordNewSlotInitialization
  dsimp only
  rw [hbuckets, if_neg hs]
  rcases faults.refusesInitialization s.handle with _ | e
  · exact ⟨rfl, rfl⟩
  · exact ⟨rfl, Option.some_ne_none e⟩

theorem Reading.open_encoder {lost : Bool} (hp : Reading b lost p) :
    Reading b lost { p with encoder := true } := ⟨hp.backend, hp.submitted, hp.calls⟩

/-- **Staging succeeds exactly when the cohort is stageable**, with the plan for
it, an open encoder and the backend as it was; and failing changes nothing. -/
theorem stage_ends (hstate : b.state = .ready) (hlost : b.lost = false) :
    Ends ((port faults).stage cohort) (new b)
      (fun plan p => faults.lostBeforeSnapshot = false ∧ b.Stageable faults cohort
        ∧ plan = b.planFor cohort ∧ Reading b faults.lostAfterSnapshot p ∧ p.encoder = true)
      (StagingFails b faults cohort) := by
  refine (snapshot_ends hstate hlost).bind ?_
  rintro _ p ⟨hbefore, hplan, rfl, hp⟩
  have hfails {t : CuratedBackendPort} {e : ScaffoldContractError}
      (ht : Reading b faults.lostAfterSnapshot t) (h : ¬b.Stageable faults cohort) :
      StagingFails b faults cohort e t := StagingFails.of_reading hbefore h ht
  refine Ends.bind (ends_ofResult (Q := fun c t => t = p ∧
    validateCuratedResidencyCohort cohort b.residencySnapshot = .ok c)
    (fun c hc => ⟨rfl, hc⟩) fun e he => hfails hp fun h => ?_) ?_
  · obtain ⟨c, hc⟩ := h.accepts.valid
    rw [he] at hc
    cases hc
  rintro c p ⟨rfl, hvalid⟩
  obtain ⟨hnonempty, rfl⟩ := of_validateCuratedResidencyCohort hvalid
  refine Ends.bind (ends_ofResult (Q := fun _ t => t = p) (fun _ _ => rfl) fun e he =>
    hfails hp fun h => ?_) ?_
  · have hcount := length_oldResidents_lt h.accepts.budgets
    rw [failIf, if_neg (by omega)] at he
    cases he
  rintro _ p rfl
  refine Ends.bind (ends_ofResult (Q := fun _ t => t = p ∧
    withinBudgets b.residencySnapshot cohort.orderedEntries.length = true)
    (fun _ hok => ⟨rfl, Bool.not_eq_false _ |>.mp (failIf_eq_ok_iff.1 hok)⟩) fun e he =>
    hfails hp fun h => ?_) ?_
  · rw [failIf, if_neg (by rw [h.accepts.budgets]; exact Bool.noConfusion)] at he
    cases he
  rintro _ p ⟨rfl, hbudgets⟩
  refine Ends.bind (ends_ofResult (Q := fun rs t => t = p ∧ reserveSlots n512Id
    cohort.orderedEntries.length b.residencySnapshot.slots = .ok rs)
    (fun rs hok => ⟨rfl, hok⟩) fun e he => hfails hp fun h => ?_) ?_
  · have hok : reserveSlots n512Id cohort.orderedEntries.length b.residencySnapshot.slots
        = .ok (b.reservationsFor cohort) :=
      reserveSlots_eq_ok_iff.2 ⟨h.accepts.slots, h.unobstructed.watermarks, rfl⟩
    rw [hok] at he
    cases he
  rintro rs p ⟨rfl, hreserve⟩
  obtain ⟨hslots, hwatermarks, hrs⟩ := reserveSlots_eq_ok_iff.1 hreserve
  obtain rfl : rs = b.reservationsFor cohort := hrs
  have haccepts : b.Accepts cohort := ⟨⟨_, hvalid⟩, hbudgets, hslots⟩
  have hlength := length_reservationsFor hslots
  refine Ends.bind (ends_mapM (I := fun t => t = p)
    (E := StagingFails b faults cohort) (g := fun er => b.preparedFor er.1)
    (C := fun er => faults.refusesUpload er.2 = none) ?_ rfl) ?_
  · rintro ⟨⟨entry, row⟩, index⟩ hmem t rfl
    have hget := List.mem_zipIdx_iff_getElem?.1 hmem
    have hrow : row ∈ b.reservationsFor cohort := (List.of_mem_zip (List.mem_of_getElem? hget)).2
    refine (prepareEntry_ends (of_mem_reservationsFor hrow).2.1 hp).mono ?_ ?_
    · rintro s t ⟨rfl, hnone, rfl⟩
      exact ⟨rfl, hnone, rfl⟩
    · rintro e t ⟨rfl, hrefuses⟩
      refine hfails hp fun h => hrefuses (h.unrefused.uploads index ?_)
      have hlt := (List.getElem?_eq_some_iff.1 hget).1
      rw [List.length_zip] at hlt
      exact hlt.trans_le (Nat.min_le_left _ _)
  rintro _ p ⟨rfl, huploads, rfl⟩
  have hstaged : (cohort.orderedEntries.zip (b.reservationsFor cohort)).zipIdx.map
      (fun er => b.preparedFor er.1) = b.stagedFor cohort := by
    rw [stagedFor]
    conv_rhs => rw [← List.zipIdx_map_fst 0 (cohort.orderedEntries.zip (b.reservationsFor cohort)),
      List.map_map]
    rfl
  rw [hstaged]
  have huploads : ∀ i < cohort.orderedEntries.length, faults.refusesUpload i = none := by
    intro i hi
    have hzip : i < (cohort.orderedEntries.zip (b.reservationsFor cohort)).length := by
      rw [List.length_zip, hlength, Nat.min_self]
      exact hi
    exact huploads (_, i) (List.mem_zipIdx_iff_getElem?.2 (List.getElem?_eq_getElem hzip))
  refine Ends.bind (ends_forM (I := fun t => Reading b faults.lostAfterSnapshot t)
    (E := StagingFails b faults cohort)
    (C := fun r => b.MayScrub r ∧ faults.refusesScrub r = none) ?_ hp) ?_
  · intro receipt hmem t ht
    refine (recordOldSlotScrub_ends ht).mono ?_ ?_
    · rintro _ _ ⟨rfl, hscrub⟩
      exact ⟨ht.open_encoder, hscrub⟩
    · rintro e _ ⟨rfl, hnot⟩
      exact hfails ht.open_encoder fun h =>
        hnot ⟨h.unobstructed.scrubs _ hmem, h.unrefused.scrubs _ hmem⟩
  rintro _ q ⟨hq, hscrubs⟩
  have hne : b.stagedFor cohort ≠ [] := by
    intro hnil
    have hzero : (b.stagedFor cohort).length = 0 := by rw [hnil]; rfl
    rw [stagedFor, List.length_map, List.length_zip, hlength, Nat.min_self] at hzero
    exact hnonempty (List.length_eq_zero_iff.1 hzero)
  refine Ends.bind (ends_forM_of_ne_nil (I := fun t => Reading b faults.lostAfterSnapshot t)
    (J := fun t => Reading b faults.lostAfterSnapshot t ∧ t.encoder = true)
    (E := StagingFails b faults cohort)
    (C := fun s => faults.refusesInitialization s.handle = none) hne (fun t ht => ht.1) ?_ hq) ?_
  · intro s hmem t ht
    obtain ⟨⟨entry, row⟩, her, rfl⟩ := List.mem_map.1 hmem
    have hopen := (of_mem_reservationsFor (List.of_mem_zip her).2).2.1
    refine (recordNewSlotInitialization_ends (chunk?_ne_none hopen) ht).mono ?_ ?_
    · rintro _ _ ⟨rfl, hnone⟩
      exact ⟨⟨ht.open_encoder, rfl⟩, hnone⟩
    · rintro e _ ⟨rfl, hrefuses⟩
      exact hfails ht.open_encoder fun h => hrefuses (h.unrefused.initializations _ hmem)
  rintro _ t ⟨⟨ht, hencoder⟩, hinits⟩
  refine ends_pure ⟨hbefore, ⟨haccepts, ⟨hwatermarks, fun r hr => (hscrubs r hr).1⟩,
    ⟨hplan, huploads, fun r hr => (hscrubs r hr).2, hinits⟩⟩, rfl, ht, hencoder⟩

end CuratedBackendPort

end ALife