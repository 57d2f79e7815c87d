/-
# The order of the shards

Runs and organisms are told apart by their keys, so sorting makes the order in
which shards, assignments and trajectories came disappear (`admit_reordered`).
The counters of a shard are distinct, lie in the range of its assignment and are
as many as the range has, so they are the range (`counters_of_cohort`).
-/

import ALife.Training.CollectorShard
import ALife.Training.WindowSlices

namespace ALife

open Machine

namespace Training

open CpuReplay (BrainPhenotype)

/-! ### Sorting rows that are alike -/

/-- Rows that are alike, of lists that have their rows in common, sort alike when the keys are
distinct. -/
theorem forall₂_sortByKey {α κ : Type} [LinearOrder κ] {key : α → κ} {R : α → α → Prop}
    (hR : ∀ a b, R a b → key a = key b) {l m l' : List α} (hnodup : (l.map key).Nodup)
    (hperm : l.Perm m) (hall : List.Forall₂ R m l') :
    List.Forall₂ R (sortByKey key l) (sortByKey key l') := by
  obtain ⟨w, hw, hwm⟩ := List.perm_comp_forall₂ (sortByKey_perm key l') hall.flip
  have hkeys : w.map key = (sortByKey key l').map key := by
    refine List.ext_getElem? fun i => ?_
    have : List.Forall₂ (fun a b => key b = key a) (sortByKey key l') w :=
      hw.imp fun a b hab => hR b a hab
    rw [List.getElem?_map, List.getElem?_map]
    rcases Nat.lt_or_ge i w.length with hi | hi
    · have hi' : i < (sortByKey key l').length := by
        rw [this.length_eq]
        exact hi
      rw [List.getElem?_eq_getElem hi, List.getElem?_eq_getElem hi']
      exact congrArg some ((List.forall₂_iff_get.1 this).2 i hi' hi)
    · rw [List.getElem?_eq_none hi, List.getElem?_eq_none (by rw [this.length_eq]; exact hi)]
  have hsorted : w.Pairwise fun a b => key a ≤ key b := by
    rw [← List.pairwise_map (f := key) (R := (· ≤ ·)), hkeys, List.pairwise_map]
    exact pairwise_sortByKey key l'
  have hwl : w.Perm (sortByKey key l) := hwm.trans (hperm.symm.trans (sortByKey_perm key l).symm)
  have hinj : ∀ a ∈ w, ∀ b ∈ w, key a = key b → a = b := by
    intro a ha b hb hab
    have hl : ∀ {a : α}, a ∈ w → a ∈ l := fun h =>
      ((sortByKey_perm key l).mem_iff).1 (hwl.mem_iff.1 h)
    exact List.inj_on_of_nodup_map hnodup (hl ha) (hl hb) hab
  have heq : w = sortByKey key l := by
    refine List.Perm.eq_of_pairwise ?_ hsorted (pairwise_sortByKey key l) hwl
    intro a b ha hb hab hba
    exact hinj a ha b (hwl.mem_iff.2 hb) (le_antisymm hab hba)
  rw [← heq]
  exact hw.flip

variable {F D Patch Bio Record Creature : Type} [FloatOps F] [FloatOps D] {W : Widening F D}
  {p : BrainPhenotype F} {C : Collection p D Patch Bio Record Creature} {config : PpoConfig F}
  {version : UInt64} {windowTicks burnIn : ℕ}

/-! ### Decisions -/

/-- What the decision loop does to its counters. -/
structure CounterStep (a : CpuCollectorAssignmentV1) (before after : List UInt32)
    (counters : List (Option UInt32)) : Prop where
  perm : (after.map some).Perm (counters ++ before.map some)
  nodup : before.Nodup → after.Nodup
  inRange : (∀ c ∈ before, a.samplingCounterStart ≤ c ∧ c < a.samplingCounterEnd) →
    ∀ c ∈ after, a.samplingCounterStart ≤ c ∧ c < a.samplingCounterEnd

theorem CounterStep.trans {a : CpuCollectorAssignmentV1} {x y z : List UInt32}
    {cs ds : List (Option UInt32)} (h : CounterStep a x y cs) (h' : CounterStep a y z ds) :
    CounterStep a x z (cs ++ ds) where
  perm := h'.perm.trans (((List.Perm.append_left ds h.perm).trans (by
    rw [← List.append_assoc]
    exact List.Perm.append_right _ List.perm_append_comm)))
  nodup := fun hx => h'.nodup (h.nodup hx)
  inRange := fun hx => h'.inRange (h.inRange hx)

omit [FloatOps F] [FloatOps D] in
theorem counterStep_of_admitDecision {a : CpuCollectorAssignmentV1} {record : Record}
    {s s' : CounterSets} {d : CpuCollectedDecision p Patch}
    (h : admitDecision C config a record s d = .ok s') :
    CounterStep a s.counters s'.counters [d.samplingCounter] := by
  unfold admitDecision at h
  obtain ⟨counter, hcounter, h⟩ := contract_bind_eq_ok_iff.1 h
  obtain ⟨-, h⟩ := contract_check_eq_ok_iff.1 h
  obtain ⟨neural, -, h⟩ := contract_bind_eq_ok_iff.1 h
  obtain ⟨hchecks, h⟩ := contract_check_eq_ok_iff.1 h
  obtain ⟨-, h⟩ := contract_check_eq_ok_iff.1 h
  obtain rfl := Except.ok.inj h
  rw [reject_eq_ok_iff] at hchecks
  simp only [not_or, not_not] at hchecks
  obtain ⟨-, -, -, -, -, -, -, hrange, hnew, -⟩ := hchecks
  rw [getOr_eq_ok_iff] at hcounter
  rw [hcounter]
  exact
    { perm := List.Perm.refl _
      nodup := fun hx => List.nodup_cons.2 ⟨hnew, hx⟩
      inRange := fun hx => List.forall_mem_cons.2 ⟨hrange, hx⟩ }

omit [FloatOps F] [FloatOps D] in
theorem counterStep_of_foldlM_admitDecision {a : CpuCollectorAssignmentV1} {record : Record}
    {ds : List (CpuCollectedDecision p Patch)} {s s' : CounterSets}
    (h : ds.foldlM (admitDecision C config a record) s = .ok s') :
    CounterStep a s.counters s'.counters (ds.map (·.samplingCounter)) := by
  induction ds generalizing s with
  | nil =>
    obtain rfl := Except.ok.inj h
    exact ⟨List.Perm.refl _, id, id⟩
  | cons d ds ih =>
    rw [List.foldlM_cons] at h
    obtain ⟨s₁, hd, h⟩ := contract_bind_eq_ok_iff.1 h
    exact (counterStep_of_admitDecision hd).trans (ih h)

/-! ### Trajectories -/

/-- The counters of a list of trajectories. -/
def countersOf (ts : List (CpuCollectorTrajectoryV1 p Patch Record)) : List (Option UInt32) :=
  ts.flatMap fun t => t.decisions.map (·.samplingCounter)

/-- What the trajectory loop does to its organisms and counters. -/
structure TrajectoryStep (C : Collection p D Patch Bio Record Creature)
    (a : CpuCollectorAssignmentV1) (s s' : TrajectorySets p D)
    (ts : List (CpuCollectorTrajectoryV1 p Patch Record)) : Prop where
  counters : CounterStep a s.counters s'.counters (countersOf ts)
  organisms : s'.organisms = (ts.map fun t => C.organismId t.finalRecord).reverse ++ s.organisms
  distinct : s.organisms.Nodup → s'.organisms.Nodup

theorem trajectoryStep_of_admitTrajectory {a : CpuCollectorAssignmentV1}
    {s s' : TrajectorySets p D} {t : CpuCollectorTrajectoryV1 p Patch Record}
    (h : admitTrajectory W C config version windowTicks burnIn a s t = .ok s') :
    TrajectoryStep C a s s' [t] := by
  unfold admitTrajectory at h
  obtain ⟨-, h⟩ := contract_check_eq_ok_iff.1 h
  obtain ⟨-, h⟩ := contract_check_eq_ok_iff.1 h
  obtain ⟨hnew, h⟩ := contract_check_eq_ok_iff.1 h
  obtain ⟨-, h⟩ := contract_check_eq_ok_iff.1 h
  obtain ⟨sets, hsets, h⟩ := contract_bind_eq_ok_iff.1 h
  obtain ⟨windows, -, h⟩ := contract_bind_eq_ok_iff.1 h
  obtain ⟨-, h⟩ := contract_check_eq_ok_iff.1 h
  obtain rfl := Except.ok.inj h
  rw [reject_eq_ok_iff, not_or] at hnew
  refine ⟨?_, rfl, fun hs => List.nodup_cons.2 ⟨hnew.1, hs⟩⟩
  unfold countersOf
  rw [List.flatMap_singleton]
  exact counterStep_of_foldlM_admitDecision hsets

theorem trajectoryStep_of_foldlM {a : CpuCollectorAssignmentV1}
    {ts : List (CpuCollectorTrajectoryV1 p Patch Record)} {s s' : TrajectorySets p D}
    (h : ts.foldlM (admitTrajectory W C config version windowTicks burnIn a) s = .ok s') :
    TrajectoryStep C a s s' ts := by
  induction ts generalizing s with
  | nil =>
    obtain rfl := Except.ok.inj h
    exact ⟨⟨List.Perm.refl _, id, id⟩, rfl, id⟩
  | cons t ts ih =>
    rw [List.foldlM_cons] at h
    obtain ⟨s₁, ht, h⟩ := contract_bind_eq_ok_iff.1 h
    have hfirst := trajectoryStep_of_admitTrajectory ht
    have hrest := ih h
    refine ⟨?_, ?_, fun hs => hrest.distinct (hfirst.distinct hs)⟩
    · have hcounters := hfirst.counters.trans hrest.counters
      unfold countersOf at hcounters ⊢
      rw [List.flatMap_singleton] at hcounters
      rwa [List.flatMap_cons]
    · rw [hrest.organisms, hfirst.organisms]
      simp [List.append_assoc]

omit [FloatOps F] [FloatOps D] in
/-- The trajectories of an admitted shard have distinct organisms. -/
theorem nodup_organisms {a : CpuCollectorAssignmentV1} {s s' : TrajectorySets p D}
    {ts : List (CpuCollectorTrajectoryV1 p Patch Record)} (hs : s.organisms = [])
    (h : TrajectoryStep C a s s' (sortTrajectories C ts)) :
    (ts.map fun t => (C.organismId t.finalRecord).toNat).Nodup := by
  have hdistinct := h.distinct (by rw [hs]; exact List.nodup_nil)
  rw [h.organisms, hs, List.append_nil, List.nodup_reverse] at hdistinct
  have hperm := (sortByKey_perm (fun t => (C.organismId t.finalRecord).toNat) ts).map
    fun t => C.organismId t.finalRecord
  have hnodup := hperm.nodup_iff.1 hdistinct
  have hinjective : Function.Injective UInt64.toNat := fun _ _ => UInt64.toNat_inj.1
  have hkeys := hnodup.map hinjective
  rwa [List.map_map] at hkeys

/-! ### Shards -/

/-- The same trajectories in another order, under a seal of their own. -/
structure Resealed (C : Collection p D Patch Bio Record Creature)
    (s s' : CpuCollectorShardV1 p Patch Record) : Prop where
  snapshot : s'.snapshot = s.snapshot
  assignment : s'.assignment = s.assignment
  trajectories : s.trajectories.Perm s'.trajectories
  sealed : s'.validateSeal C = .ok ()

/-- The same shards in another order, each with its trajectories in another order. -/
def Reordered (C : Collection p D Patch Bio Record Creature)
    (shards shards' : List (CpuCollectorShardV1 p Patch Record)) : Prop :=
  ∃ m, shards.Perm m ∧ List.Forall₂ (Resealed C) m shards'

/-- What the admission of a shard does. -/
structure ShardStep (C : Collection p D Patch Bio Record Creature)
    (assignments : List CpuCollectorAssignmentV1) (s s' : ShardSets p D)
    (shard : CpuCollectorShardV1 p Patch Record) : Prop where
  seen : s'.seen = shard.assignment.collectorRunId :: s.seen
  new : shard.assignment.collectorRunId ∉ s.seen
  assigned : shard.assignment ∈ assignments
  counters : ((countersOf shard.trajectories).map (Option.map UInt32.toNat)).Perm
    ((List.range' shard.assignment.samplingCounterStart.toNat
      (shard.assignment.samplingCounterEnd.toNat
        - shard.assignment.samplingCounterStart.toNat)).map some)

/-- Distinct counters of a range that are as many as the range has are the range. -/
theorem perm_range'_of_counters {a : CpuCollectorAssignmentV1} {counters : List UInt32}
    (hnodup : counters.Nodup)
    (hrange : ∀ c ∈ counters, a.samplingCounterStart ≤ c ∧ c < a.samplingCounterEnd)
    (hlength : counters.length
      = a.samplingCounterEnd.toNat - a.samplingCounterStart.toNat) :
    (counters.map UInt32.toNat).Perm (List.range' a.samplingCounterStart.toNat
      (a.samplingCounterEnd.toNat - a.samplingCounterStart.toNat)) := by
  have hinjective : Function.Injective UInt32.toNat := fun _ _ => UInt32.toNat_inj.1
  refine ((hnodup.map hinjective).subperm fun n hn => ?_).perm_of_length_le ?_
  · obtain ⟨c, hc, rfl⟩ := List.mem_map.1 hn
    obtain ⟨hstart, hend⟩ := hrange c hc
    rw [UInt32.le_iff_toNat_le] at hstart
    rw [UInt32.lt_iff_toNat_lt] at hend
    rw [List.mem_range'_1]
    omega
  · rw [List.length_range', List.length_map, hlength]

omit [FloatOps F] in
theorem countersOf_perm {ts ts' : List (CpuCollectorTrajectoryV1 p Patch Record)}
    (h : ts.Perm ts') : (countersOf ts).Perm (countersOf ts') :=
  List.Perm.flatMap_right _ h

theorem shardStep_of_admitShard {snapshot : CpuCollectionSnapshotV1}
    {assignments : List CpuCollectorAssignmentV1} {s s' : ShardSets p D}
    {shard : CpuCollectorShardV1 p Patch Record}
    (h : admitShard W C config version windowTicks burnIn snapshot assignments s shard = .ok s') :
    ShardStep C assignments s s' shard := by
  unfold admitShard at h
  obtain ⟨-, h⟩ := contract_check_eq_ok_iff.1 h
  obtain ⟨hassigned, h⟩ := contract_check_eq_ok_iff.1 h
  obtain ⟨sets, hsets, h⟩ := contract_bind_eq_ok_iff.1 h
  obtain ⟨hlength, h⟩ := contract_check_eq_ok_iff.1 h
  obtain rfl := Except.ok.inj h
  rw [reject_eq_ok_iff] at hassigned hlength
  push Not at hassigned hlength
  have hstep := (trajectoryStep_of_foldlM hsets).counters
  refine ⟨rfl, hassigned.2.2, hassigned.2.1, ?_⟩
  have hperm : (sets.counters.map some).Perm (countersOf shard.trajectories) := by
    have hsorted := hstep.perm
    rw [List.map_nil, List.append_nil] at hsorted
    exact hsorted.trans (countersOf_perm (sortByKey_perm _ _))
  refine (hperm.symm.map _).trans ?_
  rw [List.map_map]
  have hrange := perm_range'_of_counters (hstep.nodup List.nodup_nil)
    (hstep.inRange fun _ hc => absurd hc List.not_mem_nil) hlength
  have := hrange.map some
  rwa [List.map_map] at this

/-- A resealed shard is admitted in place of the other, and leaves what the other leaves. -/
theorem admitShard_resealed {snapshot : CpuCollectionSnapshotV1}
    {assignments assignments' : List CpuCollectorAssignmentV1}
    (hassignments : assignments.Perm assignments') {s s' : ShardSets p D}
    {shard shard' : CpuCollectorShardV1 p Patch Record} (hsealed : Resealed C shard shard')
    (h : admitShard W C config version windowTicks burnIn snapshot assignments s shard = .ok s') :
    admitShard W C config version windowTicks burnIn snapshot assignments' s shard' = .ok s' := by
  unfold admitShard at h ⊢
  obtain ⟨-, h⟩ := contract_check_eq_ok_iff.1 h
  obtain ⟨hassigned, h⟩ := contract_check_eq_ok_iff.1 h
  obtain ⟨sets, hsets, h⟩ := contract_bind_eq_ok_iff.1 h
  have hnodup := nodup_organisms rfl (trajectoryStep_of_foldlM hsets)
  have hsort : sortTrajectories C shard'.trajectories = sortTrajectories C shard.trajectories := by
    have := forall₂_sortByKey (R := Eq) (fun a b hab => congrArg _ hab) hnodup
      hsealed.trajectories (List.forall₂_refl _)
    exact (List.forall₂_eq_eq_eq ▸ this : _ = _).symm
  refine contract_check_eq_ok_iff.2 ⟨hsealed.sealed, contract_check_eq_ok_iff.2 ⟨?_, ?_⟩⟩
  · rw [reject_eq_ok_iff] at hassigned ⊢
    rwa [hsealed.snapshot, hsealed.assignment, ← hassignments.mem_iff]
  · rw [hsort, hsealed.assignment]
    exact contract_bind_eq_ok_iff.2 ⟨sets, hsets, h⟩

theorem foldlM_admitShard_resealed {snapshot : CpuCollectionSnapshotV1}
    {assignments assignments' : List CpuCollectorAssignmentV1}
    (hassignments : assignments.Perm assignments')
    {shards shards' : List (CpuCollectorShardV1 p Patch Record)}
    (hshards : List.Forall₂ (Resealed C) shards shards') {s s' : ShardSets p D}
    (h : shards.foldlM (admitShard W C config version windowTicks burnIn snapshot assignments) s
      = .ok s') :
    shards'.foldlM (admitShard W C config version windowTicks burnIn snapshot assignments') s
      = .ok s' := by
  induction hshards generalizing s with
  | nil => exact h
  | cons hhead _ ih =>
    rw [List.foldlM_cons] at h ⊢
    obtain ⟨s₁, hs₁, h⟩ := contract_bind_eq_ok_iff.1 h
    exact contract_bind_eq_ok_iff.2 ⟨s₁, admitShard_resealed hassignments hhead hs₁, ih h⟩

/-- The runs that were seen are those of the shards, and each was new. -/
theorem seen_of_foldlM_admitShard {snapshot : CpuCollectionSnapshotV1}
    {assignments : List CpuCollectorAssignmentV1}
    {shards : List (CpuCollectorShardV1 p Patch Record)} {s s' : ShardSets p D}
    (h : shards.foldlM (admitShard W C config version windowTicks burnIn snapshot assignments) s
      = .ok s') :
    s'.seen = (shards.map fun x => x.assignment.collectorRunId).reverse ++ s.seen ∧
      (s.seen.Nodup → s'.seen.Nodup) ∧ ∀ x ∈ shards, ∃ t t', ShardStep C assignments t t' x := by
  induction shards generalizing s with
  | nil =>
    obtain rfl := Except.ok.inj h
    exact ⟨rfl, id, fun _ hx => absurd hx List.not_mem_nil⟩
  | cons x shards ih =>
    rw [List.foldlM_cons] at h
    obtain ⟨s₁, hx, h⟩ := contract_bind_eq_ok_iff.1 h
    have hstep := shardStep_of_admitShard hx
    obtain ⟨hseen, hnodup, hall⟩ := ih h
    refine ⟨?_, fun hs => hnodup ?_, List.forall_mem_cons.2 ⟨⟨s, s₁, hstep⟩, hall⟩⟩
    · rw [hseen, hstep.seen]
      simp [List.append_assoc]
    · rw [hstep.seen]
      exact List.nodup_cons.2 ⟨hstep.new, hs⟩

/-! ### The cohort -/

theorem foldlM_admitAssignment_iff {assignments : List CpuCollectorAssignmentV1}
    {runs : List (List Char)} :
    (∃ out, assignments.foldlM admitAssignment runs = .ok out) ↔
      (∀ a ∈ assignments, a.validate.isOk = true) ∧
        (assignments.map (·.collectorRunId)).Nodup ∧
        ∀ a ∈ assignments, a.collectorRunId ∉ runs := by
  induction assignments generalizing runs with
  | nil =>
    simp only [List.foldlM_nil, List.map_nil, List.nodup_nil, List.not_mem_nil, false_imp_iff,
      implies_true, and_true, iff_true]
    exact ⟨runs, rfl⟩
  | cons a assignments ih =>
    have hhead : (∃ out, (a :: assignments).foldlM admitAssignment runs = .ok out) ↔
        (a.validate.isOk = true ∧ a.collectorRunId ∉ runs) ∧
          ∃ out, assignments.foldlM admitAssignment (a.collectorRunId :: runs) = .ok out := by
      simp only [List.foldlM_cons, contract_bind_eq_ok_iff]
      unfold admitAssignment
      simp only [contract_check_eq_ok_iff, reject_eq_ok_iff, Except.ok.injEq, Bool.not_eq_false]
      constructor
      · rintro ⟨out, _, ⟨hvalid, hnew, rfl⟩, hrest⟩
        exact ⟨⟨hvalid, hnew⟩, out, hrest⟩
      · rintro ⟨⟨hvalid, hnew⟩, out, hrest⟩
        exact ⟨out, _, ⟨hvalid, hnew, rfl⟩, hrest⟩
    rw [hhead, ih, List.forall_mem_cons, List.forall_mem_cons, List.map_cons, List.nodup_cons]
    simp only [List.mem_cons, not_or, List.mem_map, not_exists, not_and]
    constructor
    · rintro ⟨⟨hvalid, hnew⟩, hall, hnodup, hruns⟩
      exact ⟨⟨hvalid, hall⟩, ⟨fun b hb => (hruns b hb).1, hnodup⟩, hnew,
        fun b hb => (hruns b hb).2⟩
    · rintro ⟨⟨hvalid, hall⟩, ⟨hother, hnodup⟩, hnew, hruns⟩
      exact ⟨⟨hvalid, hnew⟩, hall, hnodup, fun b hb => ⟨hother b hb, hruns b hb⟩⟩

/-- The order of the assignments does not decide whether they are admitted. -/
theorem foldlM_admitAssignment_perm {assignments assignments' : List CpuCollectorAssignmentV1}
    (h : assignments.Perm assignments') {runs : List (List Char)}
    (hok : ∃ out, assignments.foldlM admitAssignment runs = .ok out) :
    ∃ out, assignments'.foldlM admitAssignment runs = .ok out := by
  rw [foldlM_admitAssignment_iff] at hok ⊢
  obtain ⟨hvalid, hnodup, hnew⟩ := hok
  exact ⟨fun a ha => hvalid a (h.mem_iff.2 ha), (h.map _).nodup_iff.1 hnodup,
    fun a ha => hnew a (h.mem_iff.2 ha)⟩

/-- What an admitted cohort comes from. -/
theorem admit_eq_ok_iff {assignments : List CpuCollectorAssignmentV1}
    {shards : List (CpuCollectorShardV1 p Patch Record)}
    {cohort : AdmittedCpuCollectorCohort p D} :
    admitCpuCollectorShards W C config version windowTicks burnIn assignments shards = .ok cohort ↔
      C.capture config version = .ok cohort.snapshot ∧
        (assignments ≠ [] ∧ assignments.length = shards.length ∧ windowTicks ≠ 0 ∧
          windowTicks + burnIn ≤ CpuReplay.maxTrainingSequenceTicks) ∧
        (∃ out, assignments.foldlM admitAssignment [] = .ok out) ∧
        ∃ sets : ShardSets p D, (sortShards shards).foldlM
          (admitShard W C config version windowTicks burnIn cohort.snapshot assignments)
          ⟨[], [], [], []⟩ = .ok sets ∧ sets.windows = cohort.windows ∧
          sets.windowTrajectories = cohort.windowTrajectories := by
  unfold admitCpuCollectorShards
  rw [contract_bind_eq_ok_iff]
  constructor
  · rintro ⟨snapshot, hsnapshot, h⟩
    obtain ⟨hbounds, h⟩ := contract_check_eq_ok_iff.1 h
    obtain ⟨runs, hruns, h⟩ := contract_bind_eq_ok_iff.1 h
    obtain ⟨sets, hsets, h⟩ := contract_bind_eq_ok_iff.1 h
    obtain rfl := Except.ok.inj h
    rw [reject_eq_ok_iff, List.isEmpty_iff] at hbounds
    push Not at hbounds
    exact ⟨hsnapshot, hbounds, ⟨runs, hruns⟩, sets, hsets, rfl, rfl⟩
  · rintro ⟨hsnapshot, hbounds, ⟨runs, hruns⟩, sets, hsets, hwindows, htrajectories⟩
    refine ⟨_, hsnapshot, contract_check_eq_ok_iff.2 ⟨?_, contract_bind_eq_ok_iff.2 ⟨runs, hruns,
      contract_bind_eq_ok_iff.2 ⟨sets, hsets, ?_⟩⟩⟩⟩
    · rw [reject_eq_ok_iff, List.isEmpty_iff]
      push Not
      exact hbounds
    · rw [hwindows, htrajectories]

theorem nodup_runs_of_sets {assignments : List CpuCollectorAssignmentV1}
    {snapshot : CpuCollectionSnapshotV1} {shards : List (CpuCollectorShardV1 p Patch Record)}
    {sets : ShardSets p D}
    (h : (sortShards shards).foldlM
      (admitShard W C config version windowTicks burnIn snapshot assignments)
      ⟨[], [], [], []⟩ = .ok sets) :
    (shards.map fun s => s.assignment.collectorRunId).Nodup := by
  obtain ⟨hseen, hnodup, -⟩ := seen_of_foldlM_admitShard h
  have := hnodup List.nodup_nil
  rw [hseen, List.append_nil, List.nodup_reverse] at this
  exact ((sortByKey_perm _ shards).map _).nodup_iff.1 this

/-- **The order of transport is invisible**: shards and assignments in another order, each shard
with its trajectories in another order, are the same cohort. -/
theorem admit_reordered {assignments assignments' : List CpuCollectorAssignmentV1}
    {shards shards' : List (CpuCollectorShardV1 p Patch Record)}
    {cohort : AdmittedCpuCollectorCohort p D} (hassignments : assignments.Perm assignments')
    (hshards : Reordered C shards shards')
    (h : admitCpuCollectorShards W C config version windowTicks burnIn assignments shards
      = .ok cohort) :
    admitCpuCollectorShards W C config version windowTicks burnIn assignments' shards'
      = .ok cohort := by
  rw [admit_eq_ok_iff] at h ⊢
  obtain ⟨hsnapshot, ⟨hne, hlength, hticks, hmax⟩, hruns, sets, hsets, hwindows, htrajectories⟩ := h
  have hsorted : List.Forall₂ (Resealed C) (sortShards shards) (sortShards shards') := by
    obtain ⟨m, hperm, hall⟩ := hshards
    refine forall₂_sortByKey (fun s s' hs => ?_) (nodup_runs_of_sets hsets) hperm hall
    rw [hs.assignment]
  refine ⟨hsnapshot, ⟨?_, ?_, hticks, hmax⟩, foldlM_admitAssignment_perm hassignments hruns, sets,
    foldlM_admitShard_resealed hassignments hsorted hsets, hwindows, htrajectories⟩
  · rintro rfl
    exact hne hassignments.eq_nil
  · obtain ⟨m, hperm, hall⟩ := hshards
    rw [← hassignments.length_eq, hlength, hperm.length_eq, hall.length_eq]

/-- **Every assignment is used by one shard, and every counter of its range by one decision.** -/
theorem counters_of_cohort {assignments : List CpuCollectorAssignmentV1}
    {shards : List (CpuCollectorShardV1 p Patch Record)}
    {cohort : AdmittedCpuCollectorCohort p D}
    (h : admitCpuCollectorShards W C config version windowTicks burnIn assignments shards
      = .ok cohort) :
    (shards.map (·.assignment)).Perm assignments ∧
      ∀ s ∈ shards, ((countersOf s.trajectories).map (Option.map UInt32.toNat)).Perm
        ((List.range' s.assignment.samplingCounterStart.toNat
          (s.assignment.samplingCounterEnd.toNat
            - s.assignment.samplingCounterStart.toNat)).map some) := by
  obtain ⟨-, ⟨-, hlength, -⟩, -, sets, hsets, -⟩ := admit_eq_ok_iff.1 h
  have hall := (seen_of_foldlM_admitShard hsets).2.2
  have hstep : ∀ s ∈ shards, ∃ t t', ShardStep C assignments t t' s := fun s hs =>
    hall s (mem_sortByKey.2 hs)
  constructor
  · have hnodup : (shards.map (·.assignment)).Nodup := by
      refine List.Nodup.of_map (·.collectorRunId) ?_
      rw [List.map_map]
      exact nodup_runs_of_sets hsets
    refine (hnodup.subperm fun a ha => ?_).perm_of_length_le ?_
    · obtain ⟨s, hs, rfl⟩ := List.mem_map.1 ha
      obtain ⟨t, t', ht⟩ := hstep s hs
      exact ht.assigned
    · rw [List.length_map, hlength]
  · intro s hs
    obtain ⟨t, t', ht⟩ := hstep s hs
    exact ht.counters

end Training

end ALife
