/-
# The rows of the class buckets

The loops over `class_buckets` meet every slot once, in the order of classes,
chunks and slot numbers.  Which places they meet depends on the plans alone
(`locations`), so a change of one chunk that keeps its plan keeps them; what sits
at a place is `residentAt`, and the residents in order are what sits at the
places in order (`residents_eq`).
-/

import ALife.Backend.AdmissionTotals

namespace ALife

open Machine

namespace ClassBuckets

variable {m m' : ClassBuckets} {l : SlotLocation} {c k : ℕ}
  {bucket : ClassBucketRuntime} {r : ResidentBrainSlot}

/-- The plans, which no change of a chunk moves. -/
def plans (m : ClassBuckets) : OrderedMap ℕ (List GpuFixedClassArenaPlan) :=
  m.mapValues (·.map (·.plan))

/-- The places that a loop over the buckets meets. -/
def locations (m : ClassBuckets) : List SlotLocation :=
  m.plans.entries.flatMap fun e => e.2.zipIdx.flatMap fun p =>
    (List.range p.1.slotCapacity).map fun s => ⟨e.1, p.2, s⟩

/-- What sits at a place. -/
def residentAt (m : ClassBuckets) (l : SlotLocation) : Option ResidentBrainSlot :=
  (m.chunk? l.classId l.chunkIndex).bind (·.resident l.slot)

theorem mem_slotRows {o : Option ResidentBrainSlot} : (l, bucket, o) ∈ m.slotRows ↔
    m.chunk? l.classId l.chunkIndex = some bucket ∧ bucket.slots[l.slot]? = some o := by
  simp only [slotRows, List.mem_flatMap, List.mem_map, Prod.exists, Prod.mk.injEq,
    List.mem_zipIdx_iff_getElem?, chunk?, Option.bind_eq_some_iff, OrderedMap.get?_eq_some_iff]
  constructor
  · rintro ⟨c, pool, he, b, k, hk, o', s, hs, rfl, rfl, rfl⟩
    exact ⟨⟨pool, he, hk⟩, hs⟩
  · rintro ⟨⟨pool, he, hk⟩, hs⟩
    exact ⟨l.classId, pool, he, bucket, l.chunkIndex, hk, o, l.slot, hs, rfl, rfl, rfl⟩

theorem map_fst_slotRows (m : ClassBuckets) : m.slotRows.map (·.1) = m.locations := by
  simp only [slotRows, locations, plans, OrderedMap.mapValues, List.map_flatMap, List.flatMap_map,
    List.zipIdx_map, List.map_map]
  refine List.flatMap_congr fun e _ => List.flatMap_congr fun b _ => ?_
  have hrange : List.range b.1.plan.slotCapacity = b.1.slots.zipIdx.map Prod.snd := by
    rw [List.zipIdx_map_snd, b.1.length_slots, List.range_eq_range']
  rw [Prod.map_fst, hrange, List.map_map]
  rfl

theorem mem_locations : l ∈ m.locations ↔
    ∃ bucket, m.chunk? l.classId l.chunkIndex = some bucket ∧ l.slot < bucket.plan.slotCapacity := by
  rw [← map_fst_slotRows, List.mem_map]
  constructor
  · rintro ⟨⟨l, bucket, o⟩, hrow, rfl⟩
    obtain ⟨hchunk, hslot⟩ := mem_slotRows.1 hrow
    exact ⟨bucket, hchunk, bucket.length_slots ▸ (List.getElem?_eq_some_iff.1 hslot).1⟩
  · rintro ⟨bucket, hchunk, hlt⟩
    rw [← bucket.length_slots] at hlt
    exact ⟨(l, bucket, bucket.slots[l.slot]),
      mem_slotRows.2 ⟨hchunk, List.getElem?_eq_getElem hlt⟩, rfl⟩

theorem nodup_locations (m : ClassBuckets) : m.locations.Nodup := by
  rw [locations, List.nodup_flatMap]
  refine ⟨fun e _ => ?_, ?_⟩
  · rw [List.nodup_flatMap]
    refine ⟨fun p _ => List.nodup_range.map fun s t h => by simpa using h, ?_⟩
    have hnodup : (e.2.zipIdx.map Prod.snd).Nodup := by
      rw [List.zipIdx_map_snd]
      exact List.nodup_range'
    refine (List.pairwise_map.1 hnodup).imp fun {p q} hne => ?_
    intro l hp hq
    obtain ⟨s, -, rfl⟩ := List.mem_map.1 hp
    obtain ⟨t, -, heq⟩ := List.mem_map.1 hq
    exact hne (SlotLocation.mk.inj heq).2.1.symm
  · refine m.plans.ascending.imp fun {e f} hlt => ?_
    intro l he hf
    obtain ⟨p, -, hp⟩ := List.mem_flatMap.1 he
    obtain ⟨q, -, hq⟩ := List.mem_flatMap.1 hf
    obtain ⟨s, -, rfl⟩ := List.mem_map.1 hp
    obtain ⟨t, -, heq⟩ := List.mem_map.1 hq
    exact hlt.ne (SlotLocation.mk.inj heq).1.symm

/-- **The residents in order are what sits at the places in order.** -/
theorem residents_eq (m : ClassBuckets) : m.residents = m.locations.filterMap fun l =>
    (m.residentAt l).map fun r => (l, r) := by
  rw [← map_fst_slotRows, List.filterMap_map, residents]
  refine List.filterMap_congr fun row hrow => ?_
  obtain ⟨hchunk, hslot⟩ := mem_slotRows.1 hrow
  rw [Function.comp_apply, residentAt, hchunk, Option.bind_some, ClassBucketRuntime.resident, hslot]
  rfl

theorem mem_residents : (l, r) ∈ m.residents ↔ m.residentAt l = some r := by
  rw [residents_eq, List.mem_filterMap]
  constructor
  · rintro ⟨l', -, h⟩
    obtain ⟨r', hr', heq⟩ := Option.map_eq_some_iff.1 h
    cases heq
    exact hr'
  · intro h
    refine ⟨l, ?_, by rw [h]; rfl⟩
    obtain ⟨bucket, hchunk, hslot⟩ := Option.bind_eq_some_iff.1 h
    refine mem_locations.2 ⟨bucket, hchunk, ?_⟩
    have hget : bucket.slots[l.slot]? = some (some r) := Option.join_eq_some_iff.1 hslot
    exact bucket.length_slots ▸ (List.getElem?_eq_some_iff.1 hget).1

/-! ### Changes of one chunk -/

theorem modifyChunk_eq_some_iff {f : ClassBucketRuntime → ClassBucketRuntime} :
    m.modifyChunk c k f = some m' ↔ ∃ pool bucket, m.get? c = some pool ∧ pool[k]? = some bucket
      ∧ m' = m.insert c (pool.set k (f bucket)) := by
  simp only [modifyChunk, Option.bind_eq_some_iff, Option.map_eq_some_iff]
  constructor
  · rintro ⟨pool, hpool, bucket, hbucket, rfl⟩
    exact ⟨pool, bucket, hpool, hbucket, rfl⟩
  · rintro ⟨pool, bucket, hpool, hbucket, rfl⟩
    exact ⟨pool, hpool, bucket, hbucket, rfl⟩

theorem exists_modifyChunk {f : ClassBucketRuntime → ClassBucketRuntime}
    (h : m.chunk? c k = some bucket) : ∃ m', m.modifyChunk c k f = some m' := by
  obtain ⟨pool, hpool, hbucket⟩ := Option.bind_eq_some_iff.1 h
  exact ⟨_, modifyChunk_eq_some_iff.2 ⟨pool, bucket, hpool, hbucket, rfl⟩⟩

/-- The chunk that was changed, and every other one. -/
theorem chunk?_modifyChunk {f : ClassBucketRuntime → ClassBucketRuntime}
    (h : m.modifyChunk c k f = some m') (c' k' : ℕ) :
    m'.chunk? c' k' = if c' = c ∧ k' = k then (m.chunk? c k).map f else m.chunk? c' k' := by
  obtain ⟨pool, bucket, hpool, hbucket, rfl⟩ := modifyChunk_eq_some_iff.1 h
  unfold chunk?
  by_cases hc : c' = c
  · subst hc
    rw [OrderedMap.get?_insert_self, hpool, Option.bind_some, Option.bind_some]
    by_cases hk : k' = k
    · subst hk
      rw [if_pos ⟨rfl, rfl⟩, hbucket, List.getElem?_set_self (List.getElem?_eq_some_iff.1 hbucket).1]
      rfl
    · rw [if_neg fun h => hk h.2, List.getElem?_set_ne (Ne.symm hk)]
      rfl
  · rw [if_neg fun h => hc h.1, OrderedMap.get?_insert_of_ne hc]

/-- A change that keeps the plan keeps all plans. -/
theorem plans_modifyChunk {f : ClassBucketRuntime → ClassBucketRuntime}
    (h : m.modifyChunk c k f = some m') (hf : ∀ b, (f b).plan = b.plan) : m'.plans = m.plans := by
  obtain ⟨pool, bucket, hpool, hbucket, rfl⟩ := modifyChunk_eq_some_iff.1 h
  refine OrderedMap.ext_get? fun c' => ?_
  rw [plans, plans, OrderedMap.get?_mapValues, OrderedMap.get?_mapValues]
  by_cases hc : c' = c
  · subst hc
    rw [OrderedMap.get?_insert_self, hpool, Option.map_some, Option.map_some, List.map_set, hf]
    refine congrArg some (List.ext_getElem? fun i => ?_)
    by_cases hi : i = k
    · subst hi
      rw [List.getElem?_set_self (by simpa using (List.getElem?_eq_some_iff.1 hbucket).1),
        List.getElem?_map, hbucket]
      rfl
    · rw [List.getElem?_set_ne (Ne.symm hi)]
  · rw [OrderedMap.get?_insert_of_ne hc]

theorem locations_congr (h : m'.plans = m.plans) : m'.locations = m.locations := by
  rw [locations, locations, h]

/-! ### Sums over the chunks -/

/-- A figure of the plans is a sum over the plans. -/
theorem total_plan (w : ℕ → GpuFixedClassArenaPlan → ℕ) (m : ClassBuckets) :
    total (fun c b => w c b.plan) m.chunks
      = ((m.plans.entries.flatMap fun e => e.2.map (w e.1)).sum) := by
  simp only [total, chunks, plans, OrderedMap.mapValues, List.map_flatMap, List.flatMap_map,
    List.map_map]
  rfl

/-- **A figure of the residents, by class, is a sum over the residents.** -/
theorem total_live (w : ℕ → ℕ) (m : ClassBuckets) :
    total (fun c b => w c * b.live) m.chunks = (m.residents.map fun lr => w lr.1.classId).sum := by
  have hslots (c k : ℕ) (b : ClassBucketRuntime) : (((b.slots.zipIdx.filterMap fun s =>
      s.1.map fun r => ((⟨c, k, s.2⟩ : SlotLocation), r)).map fun lr => w lr.1.classId)).sum
        = w c * b.live := by
    have hw : (b.slots.zipIdx.filterMap fun s => s.1.map fun r => ((⟨c, k, s.2⟩ : SlotLocation), r)).map
        (fun lr => w lr.1.classId) = (b.slots.filter Option.isSome).map fun _ => w c := by
      conv_rhs => rw [← List.zipIdx_map_fst 0 b.slots, List.filter_map, List.map_map]
      rw [List.map_filterMap]
      induction b.slots.zipIdx with
      | nil => rfl
      | cons s l ih =>
        rcases hs : s.1 with _ | r
        · rw [List.filterMap_cons_none (by simp [hs]), ih, List.filter_cons_of_neg (by simp [hs])]
        · rw [List.filterMap_cons_some (by simp [hs]; rfl), ih,
            List.filter_cons_of_pos (by simp [hs])]
          rfl
    rw [hw, List.map_const', List.sum_replicate, ClassBucketRuntime.live, smul_eq_mul, mul_comm]
  simp only [residents, slotRows, total, chunks, List.filterMap_flatMap, List.map_flatMap,
    List.filterMap_map]
  rw [List.flatMap_def, List.flatMap_def, List.sum_flatten, List.sum_flatten, List.map_map,
    List.map_map]
  refine congrArg List.sum (List.map_congr_left fun e _ => ?_)
  have hchunks : (e.2.zipIdx.map fun p => w e.1 * p.1.live) = e.2.map fun b => w e.1 * b.live := by
    conv_rhs => rw [← List.zipIdx_map_fst 0 e.2, List.map_map]
    rfl
  rw [Function.comp_apply, Function.comp_apply, List.map_map, List.flatMap_def, List.sum_flatten,
    List.map_map]
  refine congrArg List.sum (hchunks.symm.trans (List.map_congr_left fun p _ => ?_))
  exact (hslots e.1 p.2 p.1).symm

end ClassBuckets

end ALife
