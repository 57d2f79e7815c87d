/-
# The counts of an admission receipt

The loop of `current_admission_snapshot` adds up what each chunk commits, keeps
and allocates, every sum checked.  It ends in the plain sums exactly when these
fit their words (`foldlM_addChunk_eq_some_iff`): the sums only grow, so the last
ones bound the ones before.  What the chunks commit is the sum over their
residents (`logicalTotal_eq`), and what they allocate is fixed by their plans.
-/

import ALife.Backend.ClassBuckets

namespace ALife

open Machine

namespace ClassBucketRuntime

variable {bucket : ClassBucketRuntime}

theorem live_le : bucket.live ≤ bucket.plan.slotCapacity :=
  bucket.length_slots ▸ List.length_filter_le _ _

end ClassBucketRuntime

namespace ClassBuckets

/-- A figure of each chunk, summed. -/
def total (w : ℕ → ClassBucketRuntime → ℕ) (l : List (ℕ × ClassBucketRuntime)) : ℕ :=
  (l.map fun c => w c.1 c.2).sum

variable {w v : ℕ → ClassBucketRuntime → ℕ} {c : ℕ × ClassBucketRuntime}
  {l : List (ℕ × ClassBucketRuntime)}

@[simp] theorem total_nil : total w [] = 0 := rfl

@[simp] theorem total_cons : total w (c :: l) = w c.1 c.2 + total w l := by simp [total]

theorem total_add (w v : ℕ → ClassBucketRuntime → ℕ) (l : List (ℕ × ClassBucketRuntime)) :
    total (fun k b => w k b + v k b) l = total w l + total v l := by
  induction l with
  | nil => rfl
  | cons c l ih =>
    rw [total_cons, total_cons, total_cons, ih]
    omega

theorem total_congr (h : ∀ c ∈ l, w c.1 c.2 = v c.1 c.2) : total w l = total v l := by
  unfold total
  exact congrArg List.sum (List.map_congr_left h)

end ClassBuckets

namespace GpuClosedLoopBackend

open ClassBuckets

variable {layout : ℕ → SlotLayout} {l : List (ℕ × ClassBucketRuntime)}
  {s t : AdmissionTotals}

/-- What the residents of a chunk commit. -/
def logicalOf (layout : ℕ → SlotLayout) (c : ℕ) (bucket : ClassBucketRuntime) : ℕ :=
  (layout c).logicalSlotCommitBytes * bucket.live

/-- What the slots of a chunk commit, occupied or not. -/
def slotBytesOf (layout : ℕ → SlotLayout) (c : ℕ) (bucket : ClassBucketRuntime) : ℕ :=
  (layout c).logicalSlotCommitBytes * bucket.plan.slotCapacity

/-- What the empty slots of a chunk keep. -/
def unusedOf (layout : ℕ → SlotLayout) (c : ℕ) (bucket : ClassBucketRuntime) : ℕ :=
  (layout c).logicalSlotCommitBytes * (bucket.plan.slotCapacity - bucket.live)

/-- The padding of a chunk. -/
def slackOf (layout : ℕ → SlotLayout) (c : ℕ) (bucket : ClassBucketRuntime) : ℕ :=
  (layout c).alignmentPaddingBytes * bucket.plan.slotCapacity

/-- What a chunk allocates. -/
def allocatedOf (layout : ℕ → SlotLayout) (c : ℕ) (bucket : ClassBucketRuntime) : ℕ :=
  bucket.plan.aggregateResidentBytes (layout c)

/-- The sums that the loop ends in, from the ones it starts with. -/
def totalsFrom (layout : ℕ → SlotLayout) (t : AdmissionTotals)
    (l : List (ℕ × ClassBucketRuntime)) : AdmissionTotals where
  logicalCommittedBytes := t.logicalCommittedBytes + total (logicalOf layout) l
  physicalUnusedRetainedBytes := t.physicalUnusedRetainedBytes + total (unusedOf layout) l
  physicalSharedBytes := t.physicalSharedBytes + total (fun _ b => b.plan.sharedClassBytes) l
  physicalAlignmentSlackBytes := t.physicalAlignmentSlackBytes + total (slackOf layout) l
  physicalAllocatedBytes := t.physicalAllocatedBytes + total (allocatedOf layout) l
  liveBrains := t.liveBrains + total (fun _ b => b.live) l

/-- Counts that fit their words. -/
structure AdmissionTotals.Fit (t : AdmissionTotals) : Prop where
  logical : t.logicalCommittedBytes < 2 ^ 64
  unused : t.physicalUnusedRetainedBytes < 2 ^ 64
  shared : t.physicalSharedBytes < 2 ^ 64
  slack : t.physicalAlignmentSlackBytes < 2 ^ 64
  allocated : t.physicalAllocatedBytes < 2 ^ 64
  live : t.liveBrains < 2 ^ 32

/-- Sums that fit fit from the start. -/
theorem AdmissionTotals.Fit.of_totalsFrom (h : (totalsFrom layout t l).Fit) : t.Fit where
  logical := (Nat.le_add_right _ _).trans_lt h.logical
  unused := (Nat.le_add_right _ _).trans_lt h.unused
  shared := (Nat.le_add_right _ _).trans_lt h.shared
  slack := (Nat.le_add_right _ _).trans_lt h.slack
  allocated := (Nat.le_add_right _ _).trans_lt h.allocated
  live := (Nat.le_add_right _ _).trans_lt h.live

theorem totalsFrom_cons (c : ℕ × ClassBucketRuntime) :
    totalsFrom layout t (c :: l) = totalsFrom layout (totalsFrom layout t [c]) l := by
  ext <;> simp [totalsFrom, Nat.add_assoc]

/-- One turn adds the figures of its chunk, when they fit. -/
theorem addChunk_eq_some_iff {c : ℕ × ClassBucketRuntime} :
    addChunk layout t c = some s ↔ s = totalsFrom layout t [c] ∧ s.Fit := by
  have hlive := c.2.live_le
  simp only [addChunk, Option.bind_eq_bind, Option.bind_eq_some_iff, checkedSub_eq_some_iff,
    checkedMul_eq_some_iff, checkedAdd_eq_some_iff, Option.some.injEq]
  constructor
  · rintro ⟨u, hu, _, ⟨rfl, -⟩, lo, ⟨rfl, hlo⟩, _, ⟨rfl, -⟩, re, ⟨rfl, hre⟩, sh, ⟨rfl, hsh⟩,
      _, ⟨rfl, -⟩, sl, ⟨rfl, hsl⟩, al, ⟨rfl, hal⟩, li, ⟨rfl, hli⟩, rfl⟩
    have hunused : c.2.plan.slotCapacity - c.2.live = u := by omega
    refine ⟨?_, ⟨hlo, hre, hsh, hsl, hal, hli⟩⟩
    simp [totalsFrom, logicalOf, unusedOf, slackOf, allocatedOf, hunused]
  · rintro ⟨rfl, hfit⟩
    have hlo := hfit.logical
    have hre := hfit.unused
    have hsl := hfit.slack
    simp only [totalsFrom, total_cons, total_nil, Nat.add_zero, logicalOf, unusedOf, slackOf]
      at hlo hre hsl
    refine ⟨c.2.plan.slotCapacity - c.2.live, by omega, _, ⟨rfl, by omega⟩, _, ⟨rfl, hlo⟩,
      _, ⟨rfl, by omega⟩, _, ⟨rfl, hre⟩, _, ⟨rfl, ?_⟩, _, ⟨rfl, by omega⟩, _, ⟨rfl, hsl⟩,
      _, ⟨rfl, ?_⟩, _, ⟨rfl, ?_⟩, ?_⟩
    · simpa [totalsFrom] using hfit.shared
    · simpa [totalsFrom, allocatedOf] using hfit.allocated
    · simpa [totalsFrom] using hfit.live
    · simp [totalsFrom, logicalOf, unusedOf, slackOf, allocatedOf]

/-- **The loop ends in the sums, when they fit.** -/
theorem foldlM_addChunk_eq_some_iff (hfit : t.Fit) :
    l.foldlM (addChunk layout) t = some s ↔ s = totalsFrom layout t l ∧ s.Fit := by
  induction l generalizing t with
  | nil =>
    have hnil : totalsFrom layout t [] = t := by ext <;> simp [totalsFrom]
    simp only [List.foldlM_nil, Option.pure_def, Option.some.injEq, hnil]
    constructor
    · rintro rfl
      exact ⟨rfl, hfit⟩
    · exact fun h => h.1.symm
  | cons c l ih =>
    simp only [List.foldlM_cons, Option.bind_eq_bind, Option.bind_eq_some_iff,
      addChunk_eq_some_iff]
    have hcons : totalsFrom layout t (c :: l) = totalsFrom layout (totalsFrom layout t [c]) l :=
      totalsFrom_cons c
    rw [hcons]
    constructor
    · rintro ⟨_, ⟨rfl, hc⟩, h⟩
      exact (ih hc).1 h
    · rintro ⟨rfl, hs⟩
      exact ⟨_, ⟨rfl, hs.of_totalsFrom⟩, (ih hs.of_totalsFrom).2 ⟨rfl, hs⟩⟩

/-- A chunk allocates its shared bytes, its padding and the bytes of its slots. -/
theorem total_allocatedOf (layout : ℕ → SlotLayout) (l : List (ℕ × ClassBucketRuntime)) :
    total (allocatedOf layout) l = total (fun _ b => b.plan.sharedClassBytes) l
      + total (slotBytesOf layout) l + total (slackOf layout) l := by
  rw [← total_add, ← total_add]
  refine total_congr fun c _ => ?_
  simp only [allocatedOf, GpuFixedClassArenaPlan.aggregateResidentBytes, slotBytesOf, slackOf]
  ring

/-- The slots of a chunk are occupied or unused. -/
theorem total_slotBytesOf (layout : ℕ → SlotLayout) (l : List (ℕ × ClassBucketRuntime)) :
    total (slotBytesOf layout) l = total (logicalOf layout) l + total (unusedOf layout) l := by
  rw [← total_add]
  refine total_congr fun c _ => ?_
  rw [slotBytesOf, logicalOf, unusedOf, ← Nat.mul_add, Nat.add_sub_cancel' c.2.live_le]

/-- The counts of a backend, as sums. -/
def totals (b : GpuClosedLoopBackend) : AdmissionTotals :=
  totalsFrom b.slotLayout ⟨0, 0, 0, 0, 0, 0⟩ b.classBuckets.chunks

variable {b : GpuClosedLoopBackend} {receipt : GpuAdmissionReceipt}

/-- The four parts of the allocation. -/
theorem allocated_totals : b.totals.physicalAllocatedBytes = b.totals.physicalSharedBytes
    + b.totals.logicalCommittedBytes + b.totals.physicalUnusedRetainedBytes
    + b.totals.physicalAlignmentSlackBytes := by
  simp only [totals, totalsFrom, Nat.zero_add, total_allocatedOf, total_slotBytesOf]
  omega

/-- Counts whose allocation fits fit, for no more than `2 ^ 32` brains. -/
theorem fit_totals_iff : b.totals.Fit ↔
    b.totals.physicalAllocatedBytes < 2 ^ 64 ∧ b.totals.liveBrains < 2 ^ 32 := by
  refine ⟨fun h => ⟨h.allocated, h.live⟩, ?_⟩
  rintro ⟨h, hlive⟩
  have hsum := b.allocated_totals
  exact ⟨by omega, by omega, by omega, by omega, h, hlive⟩

/-- The receipt that a snapshot takes, before it is checked. -/
def snapshotReceipt (b : GpuClosedLoopBackend) : GpuAdmissionReceipt where
  schemaVersion := admissionSchemaVersion
  runtime := b.runtimeBudget
  logicalCommittedBytes := b.totals.logicalCommittedBytes
  logicalAvailableBytes :=
    b.runtimeBudget.logicalNeuralHeapBudgetBytes - b.totals.logicalCommittedBytes
  physicalAllocatedBytes := b.totals.physicalAllocatedBytes
  physicalUnusedRetainedBytes := b.totals.physicalUnusedRetainedBytes
  physicalSharedBytes := b.totals.physicalSharedBytes
  physicalAlignmentSlackBytes := b.totals.physicalAlignmentSlackBytes
  peakLogicalCommittedBytes :=
    max b.admission.peakLogicalCommittedBytes b.totals.logicalCommittedBytes
  peakPhysicalAllocatedBytes :=
    max b.admission.peakPhysicalAllocatedBytes b.totals.physicalAllocatedBytes
  liveBrains := b.totals.liveBrains
  maxHotBrains := b.runtimeBudget.maxHotBrains
  allocationGeneration := 0
  lastEvent := none

/-- The counts are within the budgets. -/
structure WithinBudget (b : GpuClosedLoopBackend) : Prop where
  logical : b.totals.logicalCommittedBytes ≤ b.runtimeBudget.logicalNeuralHeapBudgetBytes
  physical : b.totals.physicalAllocatedBytes ≤ b.runtimeBudget.physicalAllocationCeilingBytes
  live : b.totals.liveBrains ≤ b.runtimeBudget.maxHotBrains

/-- A receipt with the counts of the backend passes but for its event and its
generation, which agree with each other. -/
theorem validateContract_of_counts {r : GpuAdmissionReceipt}
    (hfit : b.totals.Fit) (hr : r = { b.snapshotReceipt with
      peakLogicalCommittedBytes := r.peakLogicalCommittedBytes
      peakPhysicalAllocatedBytes := r.peakPhysicalAllocatedBytes
      allocationGeneration := r.allocationGeneration
      lastEvent := r.lastEvent }) :
    r.validateContract = .ok () ↔
      (b.WithinBudget ∧ b.totals.logicalCommittedBytes ≤ r.peakLogicalCommittedBytes
        ∧ b.totals.physicalAllocatedBytes ≤ r.peakPhysicalAllocatedBytes)
      ∧ ((r.allocationGeneration == 0) = r.lastEvent.isNone)
      ∧ ∀ e ∈ r.lastEvent, e.validateContract = .ok () ∧ e.reconcilesAfter r = true := by
  have hsum : r.physicalSum = some r.physicalAllocatedBytes := by
    rw [GpuAdmissionReceipt.physicalSum_eq_some_iff, hr]
    exact ⟨hfit.allocated, b.allocated_totals.symm⟩
  rw [GpuAdmissionReceipt.validateContract, reject_eq_ok_iff]
  simp only [hsum, not_or, not_not, not_exists, not_and, not_lt, gt_iff_lt, ne_eq,
    Bool.not_eq_false, not_true_eq_false, not_false_eq_true, true_and]
  have hlogical : r.logicalCommittedBytes = b.totals.logicalCommittedBytes := by rw [hr]; rfl
  have hallocated : r.physicalAllocatedBytes = b.totals.physicalAllocatedBytes := by rw [hr]; rfl
  have hruntime : r.runtime = b.runtimeBudget := by rw [hr]; rfl
  have hschema : r.schemaVersion = admissionSchemaVersion := by rw [hr]; rfl
  have hmax : r.maxHotBrains = b.runtimeBudget.maxHotBrains := by rw [hr]; rfl
  have hlive : r.liveBrains = b.totals.liveBrains := by rw [hr]; rfl
  have havailable : r.logicalAvailableBytes
      = b.runtimeBudget.logicalNeuralHeapBudgetBytes - b.totals.logicalCommittedBytes := by
    rw [hr]; rfl
  rw [hlogical, hallocated, hruntime, hschema, hmax, hlive, havailable]
  constructor
  · rintro ⟨-, -, hl, hc, -, hp, hpl, hpp, hg, he⟩
    exact ⟨⟨⟨hc, hp, hl⟩, hpl, hpp⟩, hg, fun e h => by simpa using he e h⟩
  · rintro ⟨⟨hw, hpl, hpp⟩, hg, he⟩
    refine ⟨rfl, rfl, hw.live, hw.logical, ?_, hw.physical, hpl, hpp, hg,
      fun e h => by simpa using he e h⟩
    exact (checkedSub_eq_some_iff.2 (Nat.add_sub_cancel' hw.logical)).symm

/-- **A snapshot succeeds when the counts fit and are within the budgets.** -/
theorem currentAdmissionSnapshot_eq_ok_iff : b.currentAdmissionSnapshot = .ok receipt ↔
    receipt = b.snapshotReceipt ∧ b.totals.Fit ∧ b.WithinBudget := by
  simp only [currentAdmissionSnapshot, except_bind_eq_ok_iff, getOr_eq_ok_iff,
    checkedSub_eq_some_iff]
  have hzero : AdmissionTotals.Fit ⟨0, 0, 0, 0, 0, 0⟩ := by constructor <;> simp
  rw [exists_congr fun t => and_congr_left' (foldlM_addChunk_eq_some_iff hzero)]
  constructor
  · rintro ⟨t, ⟨rfl, hfit⟩, available, havailable, u, hu, hreceipt⟩
    have hav : available
        = b.runtimeBudget.logicalNeuralHeapBudgetBytes - b.totals.logicalCommittedBytes := by
      unfold totals
      omega
    subst hav
    cases hreceipt
    have hvalid := (validateContract_of_counts (r := b.snapshotReceipt) hfit rfl).1 hu
    exact ⟨rfl, hfit, hvalid.1.1⟩
  · rintro ⟨rfl, hfit, hw⟩
    refine ⟨_, ⟨rfl, hfit⟩, _, Nat.add_sub_cancel' hw.logical, (), ?_, rfl⟩
    refine (validateContract_of_counts (r := b.snapshotReceipt) hfit rfl).2
      ⟨⟨hw, Nat.le_max_right _ _, Nat.le_max_right _ _⟩, rfl, ?_⟩
    rintro e ⟨⟩

end GpuClosedLoopBackend

end ALife
