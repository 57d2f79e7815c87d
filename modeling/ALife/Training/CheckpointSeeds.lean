/-
# The seed ledger of a checkpoint

`CheckpointSeedsV1` (`crates/alife_training/src/current_checkpoint.rs`).  The
ledger excludes every seed that was ever allocated, as sorted ranges that do not
touch, and hands out the seeds of one pending range in order.  `reserve` joins
the new range to the excluded ones and validates afterwards: on a ledger of
1,000,000 ranges, a range that touches none of them is refused with the ledger
already written (`RunKept`, `runKept_iff`).
-/

import ALife.Machine.Checks
import ALife.Machine.Runs
import ALife.Machine.WordRanges

namespace ALife

open Machine

namespace Training

structure CheckpointSeedsV1 where
  historicalFreshness : String
  excludedRanges : List WordRange
  pendingRange : Option WordRange
  deriving DecidableEq, Repr

namespace CheckpointSeedsV1

/-- The loop of `validate` over the exclusions. -/
def validateRanges : Option UInt64 → List WordRange → Except String Unit
  | _, [] => .ok ()
  | previous, r :: rest => do
    failIf (r.first = 0 ∨ r.last < r.first
        ∨ ∃ stop ∈ previous, r.first ≤ saturatingAdd64 stop 1)
      "checkpoint exclusions must be sorted, disjoint and coalesced"
    validateRanges (some r.last) rest

def validate (s : CheckpointSeedsV1) : Except String Unit := do
  failIf (s.historicalFreshness ∉ ["operator-attested-complete", "unknown"]
      ∨ 1000000 < s.excludedRanges.length)
    "invalid checkpoint seed metadata"
  validateRanges none s.excludedRanges
  failIf (∃ r ∈ s.pendingRange, r.first = 0 ∨ r.last < r.first
      ∨ ¬∃ t ∈ s.excludedRanges, t.first ≤ r.first ∧ r.last ≤ t.last)
    "pending allocation must be fully excluded and nonempty"

def contains (s : CheckpointSeedsV1) (seed : UInt64) : Bool :=
  s.excludedRanges.any fun r => r.Holds seed

/-- The range is one that `reserve` may add. -/
def Free (s : CheckpointSeedsV1) (r : WordRange) : Prop :=
  ¬(r.first = 0 ∨ r.last < r.first ∨ ∃ t ∈ s.excludedRanges, r.first ≤ t.last ∧ t.first ≤ r.last)

instance (s : CheckpointSeedsV1) (r : WordRange) : Decidable (s.Free r) :=
  inferInstanceAs (Decidable (¬_))

/-- The ledger that `reserve` writes. -/
def reserved (s : CheckpointSeedsV1) (r : WordRange) : CheckpointSeedsV1 :=
  { s with
    excludedRanges := WordRange.coalesce (sortByKey WordRange.key (s.excludedRanges ++ [r]))
    pendingRange := some r }

def reserve (first last : UInt64) : EStateM String CheckpointSeedsV1 Unit := do
  let s ← get
  let r : WordRange := ⟨first, last⟩
  ofResult s.validate
  if s.pendingRange = some r then pure ()
  else do
    ofResult (failIf (s.pendingRange.isSome) "resume the current unused seed allocation first")
    ofResult (failIf (¬s.Free r) "allocation overlaps an excluded seed or is invalid")
    set (s.reserved r)
    ofResult (s.reserved r).validate

/-- The pending range without its first seed. -/
def rest (r : WordRange) : Option WordRange :=
  if r.first = r.last then none else some ⟨r.first + 1, r.last⟩

def consume (seed : UInt64) : EStateM String CheckpointSeedsV1 Unit := do
  let s ← get
  ofResult s.validate
  let r ← ofResult (getOr s.pendingRange "no owned seed allocation")
  ofResult (failIf (seed ≠ r.first) "dispatch must consume the next owned seed")
  set { s with pendingRange := rest r }

/-! ## What `validate` accepts -/

/-- The ranges are sorted, disjoint and coalesced, and hold no zero. -/
structure Normal (l : List WordRange) : Prop where
  positive : ∀ r ∈ l, r.first ≠ 0
  nonempty : ∀ r ∈ l, r.first ≤ r.last
  apart : l.Pairwise WordRange.Apart

theorem validateRanges_eq_ok_iff {previous : Option UInt64} {l : List WordRange} :
    validateRanges previous l = .ok () ↔
      Normal l ∧ ∀ stop ∈ previous, ∀ r ∈ l, stop.toNat + 1 < r.first.toNat := by
  induction l generalizing previous with
  | nil => exact ⟨fun _ => ⟨⟨by simp, by simp, List.Pairwise.nil⟩, by simp⟩, fun _ => rfl⟩
  | cons r rest ih =>
    have hgap : ∀ stop : UInt64, ¬r.first ≤ saturatingAdd64 stop 1 ↔
        stop.toNat + 1 < r.first.toNat := by
      intro stop
      have hr := r.first.toNat_lt
      rw [UInt64.le_iff_toNat_le, toNat_saturatingAdd64]
      change ¬_ ≤ min (stop.toNat + 1) _ ↔ _
      omega
    rw [validateRanges, except_seq_eq_ok_iff, failIf_eq_ok_iff, ih]
    simp only [not_or, not_exists, not_and, UInt64.not_lt, hgap, Option.mem_some_iff,
      forall_eq']
    constructor
    · rintro ⟨⟨hpositive, hnonempty, hprevious⟩, hrest, hafter⟩
      refine ⟨⟨?_, ?_, List.pairwise_cons.2 ⟨hafter, hrest.apart⟩⟩, fun stop hstop t ht => ?_⟩
      · exact List.forall_mem_cons.2 ⟨hpositive, hrest.positive⟩
      · exact List.forall_mem_cons.2 ⟨hnonempty, hrest.nonempty⟩
      · have hfirst := hprevious stop hstop
        rcases List.mem_cons.1 ht with rfl | ht
        · exact hfirst
        · have hnext := hafter t ht
          rw [UInt64.le_iff_toNat_le] at hnonempty
          omega
    · rintro ⟨hall, hprevious⟩
      have hapart := List.pairwise_cons.1 hall.apart
      refine ⟨⟨hall.positive r (by simp), hall.nonempty r (by simp), fun stop hstop =>
        hprevious stop hstop r (by simp)⟩, ⟨?_, ?_, hapart.2⟩, hapart.1⟩
      · exact fun t ht => hall.positive t (List.mem_cons_of_mem _ ht)
      · exact fun t ht => hall.nonempty t (List.mem_cons_of_mem _ ht)

/-- What `validate` accepts. -/
structure Valid (s : CheckpointSeedsV1) : Prop where
  freshness : s.historicalFreshness ∈ ["operator-attested-complete", "unknown"]
  length_le : s.excludedRanges.length ≤ 1000000
  normal : Normal s.excludedRanges
  pending : ∀ r, s.pendingRange = some r → r.first ≠ 0 ∧ r.first ≤ r.last ∧
    ∃ t ∈ s.excludedRanges, t.first ≤ r.first ∧ r.last ≤ t.last

theorem validate_eq_ok_iff {s : CheckpointSeedsV1} : s.validate = .ok () ↔ s.Valid := by
  unfold validate
  rw [except_seq_eq_ok_iff, except_seq_eq_ok_iff, failIf_eq_ok_iff, failIf_eq_ok_iff,
    validateRanges_eq_ok_iff]
  simp only [not_or, not_not, Nat.not_lt, not_exists, not_and, UInt64.not_lt, Option.mem_def]
  constructor
  · rintro ⟨⟨hfreshness, hlength⟩, ⟨hnormal, -⟩, hpending⟩
    refine ⟨hfreshness, hlength, hnormal, fun r hr => ?_⟩
    obtain ⟨hzero, hle, hinside⟩ := hpending r hr
    push Not at hinside
    exact ⟨hzero, hle, hinside⟩
  · intro h
    refine ⟨⟨h.freshness, h.length_le⟩, ⟨h.normal, by simp⟩, fun r hr => ?_⟩
    obtain ⟨hzero, hle, hinside⟩ := h.pending r hr
    push Not
    exact ⟨hzero, hle, hinside⟩

/-! ## What `reserve` writes -/

section Reserved

variable {s : CheckpointSeedsV1} {r : WordRange}

/-- A free range is before or after each excluded range. -/
theorem Free.before (hfree : s.Free r) {t : WordRange} (ht : t ∈ s.excludedRanges) :
    t.Before r ∨ r.Before t := by
  have hdisjoint : ¬(r.first ≤ t.last ∧ t.first ≤ r.last) := fun h =>
    hfree (.inr (.inr ⟨t, ht, h⟩))
  rw [not_and_or, UInt64.not_le, UInt64.not_le, UInt64.lt_iff_toNat_lt, UInt64.lt_iff_toNat_lt]
    at hdisjoint
  exact hdisjoint

theorem Free.first_ne_zero (hfree : s.Free r) : r.first ≠ 0 := fun h => hfree (.inl h)

theorem Free.nonempty (hfree : s.Free r) : r.first ≤ r.last :=
  UInt64.not_lt.1 fun h => hfree (.inr (.inl h))

/-- Ranges that are related one way or the other stand in order when they are sorted. -/
theorem pairwise_sorted {R : WordRange → WordRange → Prop} (hs : Normal s.excludedRanges)
    (hfree : s.Free r) (hR : ∀ t u, R t u → t.Before u)
    (hin : s.excludedRanges.Pairwise R) (hnew : ∀ t ∈ s.excludedRanges, R t r ∨ R r t) :
    (sortByKey WordRange.key (s.excludedRanges ++ [r])).Pairwise R := by
  have hperm := sortByKey_perm WordRange.key (s.excludedRanges ++ [r])
  have hall : (s.excludedRanges ++ [r]).Pairwise fun t u => R t u ∨ R u t := by
    refine List.pairwise_append.2 ⟨hin.imp .inl, List.pairwise_singleton _ _, fun t ht u hu => ?_⟩
    rw [List.mem_singleton.1 hu]
    exact hnew t ht
  have hsorted := (hperm.pairwise_iff (fun h => Or.symm h)).2 hall
  have hkeys := pairwise_sortByKey WordRange.key (s.excludedRanges ++ [r])
  refine ((hsorted.and hkeys).imp_of_mem fun {t u} ht hu h => ?_)
  obtain ⟨hrelated | hrelated, hkey⟩ := h
  · exact hrelated
  · -- the later range cannot start below the earlier one
    exfalso
    have hnonempty : ∀ v ∈ s.excludedRanges ++ [r], v.first.toNat ≤ v.last.toNat := by
      intro v hv
      rcases List.mem_append.1 hv with hv | hv
      · exact UInt64.le_iff_toNat_le.1 (hs.nonempty v hv)
      · rw [List.mem_singleton.1 hv]
        exact UInt64.le_iff_toNat_le.1 hfree.nonempty
    have hbefore : u.last.toNat < t.first.toNat := hR u t hrelated
    have hu' := hnonempty u (hperm.mem_iff.1 hu)
    rcases Prod.Lex.toLex_le_toLex.1 hkey with hlt | ⟨heq, -⟩ <;> dsimp only at * <;> omega

/-- **What is written** are the ranges and the new one, joined where they touch. -/
theorem coalesced_reserved (hs : Normal s.excludedRanges) (hfree : s.Free r) :
    WordRange.Coalesced (sortByKey WordRange.key (s.excludedRanges ++ [r]))
      (s.reserved r).excludedRanges := by
  refine WordRange.coalesced_coalesce (fun t ht => ?_) (pairwise_sorted hs hfree (fun _ _ h => h)
    (hs.apart.imp WordRange.Apart.before) fun t => hfree.before)
  rcases List.mem_append.1 (mem_sortByKey.1 ht) with ht | ht
  · exact hs.nonempty t ht
  · rw [List.mem_singleton.1 ht]
    exact hfree.nonempty

theorem covers_reserved (hs : Normal s.excludedRanges) (hfree : s.Free r) (x : UInt64) :
    WordRange.Covers (s.reserved r).excludedRanges x ↔
      WordRange.Covers s.excludedRanges x ∨ r.Holds x := by
  rw [(coalesced_reserved hs hfree).covers, WordRange.covers_of_perm (sortByKey_perm _ _),
    WordRange.covers_append, WordRange.covers_singleton]

theorem normal_reserved (hs : Normal s.excludedRanges) (hfree : s.Free r) :
    Normal (s.reserved r).excludedRanges := by
  have h := coalesced_reserved hs hfree
  refine ⟨fun t ht => ?_, h.nonempty, h.apart⟩
  obtain ⟨u, hu, hsame⟩ := h.first_mem t ht
  rw [hsame]
  rcases List.mem_append.1 (mem_sortByKey.1 hu) with hu | hu
  · exact hs.positive u hu
  · rw [List.mem_singleton.1 hu]
    exact hfree.first_ne_zero

/-- The list grows, by one range, exactly when the new range touches none. -/
theorem length_reserved (hs : Normal s.excludedRanges) (hfree : s.Free r) :
    (s.reserved r).excludedRanges.length ≤ s.excludedRanges.length + 1 ∧
    ((s.reserved r).excludedRanges.length = s.excludedRanges.length + 1 ↔
      ∀ t ∈ s.excludedRanges, t.Apart r ∨ r.Apart t) := by
  have h := coalesced_reserved hs hfree
  have hperm := sortByKey_perm WordRange.key (s.excludedRanges ++ [r])
  have hlength : (sortByKey WordRange.key (s.excludedRanges ++ [r])).length
      = s.excludedRanges.length + 1 := by
    rw [hperm.length_eq, List.length_append, List.length_singleton]
  refine ⟨hlength ▸ h.length_le, fun heq t ht => ?_, fun hapart => ?_⟩
  · -- nothing was joined, so the sorted ranges are apart
    have hsame := h.eq_of_length (heq.trans hlength.symm)
    have hpairs : (s.excludedRanges ++ [r]).Pairwise fun t u => t.Apart u ∨ u.Apart t := by
      refine (hperm.pairwise_iff (fun h => Or.symm h)).1 ?_
      rw [← hsame]
      exact h.apart.imp .inl
    exact (List.pairwise_append.1 hpairs).2.2 t ht r (List.mem_singleton_self _)
  · have hsorted := pairwise_sorted hs hfree (fun _ _ h => WordRange.Apart.before h) hs.apart hapart
    rw [reserved]
    dsimp only
    rw [WordRange.coalesce_eq_self hsorted, hlength]

/-- The written ledger is valid up to the number of its ranges. -/
theorem valid_reserved_iff (hs : s.Valid) (hfree : s.Free r) :
    (s.reserved r).Valid ↔ (s.reserved r).excludedRanges.length ≤ 1000000 := by
  refine ⟨Valid.length_le, fun hlength => ⟨hs.freshness, hlength, normal_reserved hs.normal hfree,
    fun u hu => ?_⟩⟩
  obtain rfl := Option.some.inj hu
  obtain ⟨t, ht, hinside⟩ := (coalesced_reserved hs.normal hfree).inside r
    (mem_sortByKey.2 (by simp))
  exact ⟨hfree.first_ne_zero, hfree.nonempty, t, ht, hinside⟩

/-- A ledger of 1,000,000 ranges, and a free range that touches none of them. -/
structure Overfull (s : CheckpointSeedsV1) (r : WordRange) : Prop where
  idle : s.pendingRange = none
  free : s.Free r
  full : s.excludedRanges.length = 1000000
  apart : ∀ t ∈ s.excludedRanges, t.Apart r ∨ r.Apart t

theorem valid_reserved_iff_not_overfull (hs : s.Valid) (hidle : s.pendingRange = none)
    (hfree : s.Free r) : (s.reserved r).Valid ↔ ¬s.Overfull r := by
  obtain ⟨hle, hgrows⟩ := length_reserved hs.normal hfree
  have hlength := hs.length_le
  rw [valid_reserved_iff hs hfree]
  constructor
  · intro h hover
    have := hgrows.2 hover.apart
    have := hover.full
    omega
  · intro hnot
    by_contra hmore
    have hfull : s.excludedRanges.length = 1000000 := by omega
    exact hnot ⟨hidle, hfree, hfull, hgrows.1 (by omega)⟩

/-- **The ways a reservation of a valid ledger ends.** -/
theorem reserve_cases (hs : s.Valid) (first last : UInt64) :
    (s.pendingRange = some ⟨first, last⟩ ∧ reserve first last s = .ok () s) ∨
    (s.pendingRange ≠ some ⟨first, last⟩ ∧ ¬(s.pendingRange = none ∧ s.Free ⟨first, last⟩) ∧
      ∃ e, reserve first last s = .error e s) ∨
    (s.pendingRange = none ∧ s.Free ⟨first, last⟩ ∧ ¬s.Overfull ⟨first, last⟩ ∧
      reserve first last s = .ok () (s.reserved ⟨first, last⟩)) ∨
    (s.Overfull ⟨first, last⟩ ∧ ¬(s.reserved ⟨first, last⟩).Valid ∧
      ∃ e, reserve first last s = .error e (s.reserved ⟨first, last⟩)) := by
  have hvalid := validate_eq_ok_iff.2 hs
  unfold reserve
  simp only [bind_apply, get_apply, hvalid, ofResult_ok]
  by_cases hsame : s.pendingRange = some ⟨first, last⟩
  · exact .inl ⟨hsame, by rw [if_pos hsame]; rfl⟩
  · rw [if_neg hsame]
    by_cases hidle : s.pendingRange = none
    · by_cases hfree : s.Free ⟨first, last⟩
      · have hnew := valid_reserved_iff_not_overfull hs hidle hfree
        have hchecks : ∀ x : EStateM String CheckpointSeedsV1 Unit, (do
            ofResult (failIf (s.pendingRange.isSome = true)
              "resume the current unused seed allocation first")
            ofResult (failIf (¬s.Free ⟨first, last⟩)
              "allocation overlaps an excluded seed or is invalid")
            x) s = x s := by
          intro x
          rw [hidle]
          simp [bind_apply, failIf, ofResult_ok, hfree]
        rw [hchecks, bind_apply, set_apply]
        by_cases hover : s.Overfull ⟨first, last⟩
        · refine .inr (.inr (.inr ⟨hover, fun h => hnew.1 h hover, ?_⟩))
          cases herr : (s.reserved ⟨first, last⟩).validate with
          | ok u => exact absurd (hnew.1 (validate_eq_ok_iff.1 herr)) (not_not.2 hover)
          | error e => exact ⟨e, rfl⟩
        · refine .inr (.inr (.inl ⟨hidle, hfree, hover, ?_⟩))
          dsimp only
          rw [validate_eq_ok_iff.2 (hnew.2 hover)]
          rfl
      · refine .inr (.inl ⟨hsame, fun h => hfree h.2,
          "allocation overlaps an excluded seed or is invalid", ?_⟩)
        rw [hidle]
        simp [bind_apply, failIf, ofResult_ok, ofResult_error, hfree]
    · refine .inr (.inl ⟨hsame, fun h => hidle h.1,
        "resume the current unused seed allocation first", ?_⟩)
      have hsome : s.pendingRange.isSome = true := Option.isSome_iff_ne_none.2 hidle
      simp [bind_apply, failIf, ofResult_error, hsome]

/-- **The ways a consumption ends.** -/
theorem consume_cases (hs : s.Valid) (seed : UInt64) :
    (∃ last, s.pendingRange = some ⟨seed, last⟩ ∧
      consume seed s = .ok () { s with pendingRange := rest ⟨seed, last⟩ }) ∨
    ((∀ last, s.pendingRange ≠ some ⟨seed, last⟩) ∧ ∃ e, consume seed s = .error e s) := by
  have hvalid := validate_eq_ok_iff.2 hs
  unfold consume
  simp only [bind_apply, get_apply, hvalid, ofResult_ok]
  cases hpending : s.pendingRange with
  | none => exact .inr ⟨fun _ h => (by cases h), _, rfl⟩
  | some r =>
    by_cases hseed : seed = r.first
    · subst hseed
      refine .inl ⟨r.last, rfl, ?_⟩
      simp [getOr, failIf, ofResult_ok, set_apply]
    · refine .inr ⟨fun last h => hseed ?_, "dispatch must consume the next owned seed", ?_⟩
      · exact (congrArg WordRange.first (Option.some.inj h)).symm
      · simp [getOr, failIf, ofResult_ok, ofResult_error, hseed]

end Reserved

/-! ## Runs -/

/-- The documents of a ledger (`serde_json`, with the derived `Serialize` and
`Deserialize`). -/
structure SeedFormat (Document : Type) where
  write : CheckpointSeedsV1 → Option Document
  read : Document → Option CheckpointSeedsV1

/-- Ledgers are read back from their documents as they were written. -/
structure SeedFormat.Lawful {Document : Type} (f : SeedFormat Document) : Prop where
  roundTrip : ∀ s, (f.write s).bind f.read = some s

/-- What happens to a ledger. -/
inductive SeedCall where
  | reserve (first last : UInt64)
  | consume (seed : UInt64)
  | reload
  deriving DecidableEq, Repr

section Calls

variable {Document : Type} (f : SeedFormat Document)

/-- `serde_json` there and back. -/
def reload : EStateM String CheckpointSeedsV1 Unit := do
  let s ← get
  let document ← ofResult (getOr (f.write s) "invalid checkpoint")
  let s ← ofResult (getOr (f.read document) "invalid checkpoint")
  set s

def call : SeedCall → EStateM String CheckpointSeedsV1 Unit
  | .reserve first last => reserve first last
  | .consume seed => consume seed
  | .reload => reload f

/-- The ledger after a call, refused or not. -/
def step (s : CheckpointSeedsV1) (c : SeedCall) : CheckpointSeedsV1 := stateAfter (call f c s)

/-- What an accepted call did. -/
inductive SeedEvent where
  | reserved (r : WordRange)
  | consumed (seed : UInt64)
  deriving DecidableEq, Repr

def event (s : CheckpointSeedsV1) (c : SeedCall) : Option SeedEvent :=
  if isOk (call f c s) then
    match c with
    | .reserve first last => some (.reserved ⟨first, last⟩)
    | .consume seed => some (.consumed seed)
    | .reload => none
  else none

/-- The call keeps the ledger: it is valid after it and as before when the call is refused;
the range that is pending is reserved again, and the ledger reloaded, without a change; a seed
that is consumed is the first of the pending range and leaves the rest of it. -/
structure StepKept (s : CheckpointSeedsV1) (c : SeedCall) : Prop where
  valid : (step f s c).validate = .ok ()
  refused : isOk (call f c s) = false → step f s c = s
  repeated : ∀ first last, c = .reserve first last → s.pendingRange = some ⟨first, last⟩ →
    isOk (call f c s) = true ∧ step f s c = s
  consumed : ∀ seed, c = .consume seed → isOk (call f c s) = true →
    ∃ last, s.pendingRange = some ⟨seed, last⟩ ∧ seed ≤ last ∧
      step f s c = { s with pendingRange := rest ⟨seed, last⟩ }
  reloaded : c = .reload → isOk (call f c s) = true ∧ step f s c = s

/-- A run keeps the ledger: each call does, the excluded seeds are those of the start and of the
accepted reservations, and a consumed seed is never reserved or consumed again. -/
structure RunKept (s : CheckpointSeedsV1) (calls : List SeedCall) : Prop where
  steps : Along (step f) (StepKept f) s calls
  excluded : ∀ x, (calls.foldl (step f) s).contains x = true ↔
    s.contains x = true ∨ ∃ r, .reserved r ∈ outputs (step f) (event f) s calls ∧ r.Holds x
  once : ∀ x, (outputs (step f) (event f) s calls).Pairwise fun e e' =>
    e = .consumed x → e' ≠ .consumed x ∧ ∀ r, e' = .reserved r → ¬r.Holds x

end Calls

/-- The call reserves a range that the ledger has no room for. -/
def Overflows (s : CheckpointSeedsV1) (c : SeedCall) : Prop :=
  ∃ first last, c = .reserve first last ∧ s.Overfull ⟨first, last⟩

section Runs

variable {Document : Type} {f : SeedFormat Document} {s : CheckpointSeedsV1} {c : SeedCall}

theorem reload_apply (hf : f.Lawful) (s : CheckpointSeedsV1) : reload f s = .ok () s := by
  obtain ⟨document, hwrite, hread⟩ := Option.bind_eq_some_iff.1 (hf.roundTrip s)
  simp [reload, bind_apply, get_apply, hwrite, hread, getOr, ofResult_ok, set_apply]

/-- What a consumption leaves is valid. -/
theorem valid_consumed (hs : s.Valid) {seed last : UInt64}
    (hpending : s.pendingRange = some ⟨seed, last⟩) :
    seed ≤ last ∧ ({ s with pendingRange := rest ⟨seed, last⟩ } : CheckpointSeedsV1).Valid := by
  obtain ⟨hzero, hle, t, ht, hstart, hstop⟩ := hs.pending _ hpending
  dsimp only at hzero hle hstart hstop
  refine ⟨hle, ⟨hs.freshness, hs.length_le, hs.normal, fun r hr => ?_⟩⟩
  change rest ⟨seed, last⟩ = some r at hr
  unfold rest at hr
  split_ifs at hr with hsame
  obtain rfl := Option.some.inj hr
  have hlt : seed.toNat < last.toNat := by
    have hne : seed.toNat ≠ last.toNat := fun h => hsame (UInt64.toNat_inj.1 h)
    rw [UInt64.le_iff_toNat_le] at hle
    omega
  have hlast := last.toNat_lt
  have hnext : (seed + 1).toNat = seed.toNat + 1 := toNat_add_of_lt64 (by
    change seed.toNat + 1 < 2 ^ 64
    omega)
  refine ⟨fun h => ?_, ?_, t, ht, ?_, hstop⟩
  · have := congrArg UInt64.toNat h
    rw [hnext] at this
    exact absurd this (Nat.succ_ne_zero _)
  · rw [UInt64.le_iff_toNat_le, hnext]
    exact hlt
  · rw [UInt64.le_iff_toNat_le] at hstart ⊢
    rw [hnext]
    omega

/-- **One call keeps a valid ledger exactly when it does not overflow it.** -/
theorem stepKept_iff (hf : f.Lawful) (hs : s.Valid) : StepKept f s c ↔ ¬Overflows s c := by
  constructor
  · rintro hkept ⟨first, last, rfl, hover⟩
    rcases reserve_cases hs first last with ⟨hpending, -⟩ | ⟨-, hnot, -⟩ | ⟨-, -, hnot, -⟩ |
        ⟨-, hinvalid, e, hrun⟩
    · rw [hover.idle] at hpending
      cases hpending
    · exact hnot ⟨hover.idle, hover.free⟩
    · exact hnot hover
    · have hvalid := hkept.valid
      rw [step, call, hrun] at hvalid
      exact hinvalid (validate_eq_ok_iff.1 hvalid)
  · intro hnot
    have hvalid := validate_eq_ok_iff.2 hs
    cases c with
    | reserve first last =>
      rcases reserve_cases hs first last with ⟨hpending, hrun⟩ | ⟨hother, -, e, hrun⟩ |
          ⟨hidle, hfree, hroom, hrun⟩ | ⟨hover, -⟩
      · have hok : isOk (call f (.reserve first last) s) = true := by rw [call, hrun]; rfl
        have hsame : step f s (.reserve first last) = s := by rw [step, call, hrun]; rfl
        exact ⟨by rw [hsame]; exact hvalid, fun _ => hsame, fun _ _ _ _ => ⟨hok, hsame⟩,
          nofun, nofun⟩
      · have hfails : isOk (call f (.reserve first last) s) = false := by rw [call, hrun]; rfl
        have hsame : step f s (.reserve first last) = s := by rw [step, call, hrun]; rfl
        refine ⟨by rw [hsame]; exact hvalid, fun _ => hsame, fun _ _ hc hpending => ?_,
          nofun, nofun⟩
        cases hc
        exact absurd hpending hother
      · have hok : isOk (call f (.reserve first last) s) = true := by rw [call, hrun]; rfl
        have hnew : step f s (.reserve first last) = s.reserved ⟨first, last⟩ := by
          rw [step, call, hrun]
          rfl
        refine ⟨?_, fun hrefused => ?_, fun _ _ hc hpending => ?_, nofun, nofun⟩
        · rw [hnew]
          exact validate_eq_ok_iff.2 ((valid_reserved_iff_not_overfull hs hidle hfree).2 hroom)
        · rw [hok] at hrefused
          cases hrefused
        · rw [hidle] at hpending
          cases hpending
      · exact absurd ⟨first, last, rfl, hover⟩ hnot
    | consume seed =>
      rcases consume_cases hs seed with ⟨last, hpending, hrun⟩ | ⟨-, e, hrun⟩
      · obtain ⟨hle, hrest⟩ := valid_consumed hs hpending
        have hok : isOk (call f (.consume seed) s) = true := by rw [call, hrun]; rfl
        have hnew : step f s (.consume seed) = { s with pendingRange := rest ⟨seed, last⟩ } := by
          rw [step, call, hrun]
          rfl
        refine ⟨by rw [hnew]; exact validate_eq_ok_iff.2 hrest, fun hrefused => ?_, nofun,
          fun _ hc _ => ?_, nofun⟩
        · rw [hok] at hrefused
          cases hrefused
        · cases hc
          exact ⟨last, hpending, hle, hnew⟩
      · have hfails : isOk (call f (.consume seed) s) = false := by rw [call, hrun]; rfl
        have hsame : step f s (.consume seed) = s := by rw [step, call, hrun]; rfl
        refine ⟨by rw [hsame]; exact hvalid, fun _ => hsame, nofun, fun _ _ hok => ?_, nofun⟩
        rw [hfails] at hok
        cases hok
    | reload =>
      have hok : isOk (call f .reload s) = true := by rw [call, reload_apply hf]; rfl
      have hsame : step f s .reload = s := by rw [step, call, reload_apply hf]; rfl
      exact ⟨by rw [hsame]; exact hvalid, fun _ => hsame, nofun, nofun, fun _ => ⟨hok, hsame⟩⟩

/-- A seed that was handed out: excluded, and not pending. -/
def Spent (s : CheckpointSeedsV1) (x : UInt64) : Prop :=
  WordRange.Covers s.excludedRanges x ∧ ∀ r, s.pendingRange = some r → ¬r.Holds x

theorem contains_iff {x : UInt64} : s.contains x = true ↔ WordRange.Covers s.excludedRanges x := by
  simp [contains, WordRange.Covers]

/-- **What a call does to a ledger that has room for it.** -/
theorem step_cases (hf : f.Lawful) (hs : s.Valid) (hroom : ¬Overflows s c) :
    (step f s c = s ∧ (event f s c = none ∨
      ∃ r, event f s c = some (.reserved r) ∧ s.pendingRange = some r)) ∨
    (∃ r, s.pendingRange = none ∧ s.Free r ∧ step f s c = s.reserved r ∧
      event f s c = some (.reserved r)) ∨
    (∃ seed last, s.pendingRange = some ⟨seed, last⟩ ∧
      step f s c = { s with pendingRange := rest ⟨seed, last⟩ } ∧
      event f s c = some (.consumed seed)) := by
  have hstate : ∀ {result : EStateM.Result String CheckpointSeedsV1 Unit} {t : CheckpointSeedsV1},
      call f c s = result → stateAfter result = t → step f s c = t := fun h ht => by
    rw [step, h, ht]
  cases c with
  | reserve first last =>
    rcases reserve_cases hs first last with ⟨hpending, hrun⟩ | ⟨-, -, e, hrun⟩ |
        ⟨hidle, hfree, -, hrun⟩ | ⟨hover, -⟩
    · exact .inl ⟨hstate hrun rfl, .inr ⟨_, by rw [event, call, hrun]; rfl, hpending⟩⟩
    · exact .inl ⟨hstate hrun rfl, .inl (by rw [event, call, hrun]; rfl)⟩
    · exact .inr (.inl ⟨_, hidle, hfree, hstate hrun rfl, by rw [event, call, hrun]; rfl⟩)
    · exact absurd ⟨first, last, rfl, hover⟩ hroom
  | consume seed =>
    rcases consume_cases hs seed with ⟨last, hpending, hrun⟩ | ⟨-, e, hrun⟩
    · exact .inr (.inr ⟨seed, last, hpending, hstate hrun rfl, by rw [event, call, hrun]; rfl⟩)
    · exact .inl ⟨hstate hrun rfl, .inl (by rw [event, call, hrun]; rfl)⟩
  | reload =>
    exact .inl ⟨hstate (reload_apply hf s) rfl, .inl (by rw [event, call, reload_apply hf]; rfl)⟩

/-- A call excludes the seeds of the range it reserves, and no others. -/
theorem contains_step (hf : f.Lawful) (hs : s.Valid) (hroom : ¬Overflows s c) (x : UInt64) :
    (step f s c).contains x = true ↔
      s.contains x = true ∨ ∃ r, event f s c = some (.reserved r) ∧ r.Holds x := by
  rcases step_cases hf hs hroom with ⟨hsame, hnone | ⟨r, hevent, hpending⟩⟩ |
      ⟨r, -, hfree, hnew, hevent⟩ | ⟨seed, last, -, hnew, hevent⟩
  · rw [hsame, hnone]
    simp
  · -- the pending range is excluded already
    obtain ⟨-, -, t, ht, hstart, hstop⟩ := hs.pending r hpending
    rw [hsame, hevent, contains_iff]
    refine ⟨.inl, fun h => h.elim id ?_⟩
    rintro ⟨u, hu, hholds⟩
    cases hu
    exact ⟨t, ht, UInt64.le_trans hstart hholds.1, UInt64.le_trans hholds.2 hstop⟩
  · rw [hnew, hevent, contains_iff, contains_iff, covers_reserved hs.normal hfree]
    simp
  · rw [hnew, hevent, contains_iff, contains_iff]
    simp

/-- The seed that a call consumes is spent after it. -/
theorem spent_consumed (hf : f.Lawful) (hs : s.Valid) (hroom : ¬Overflows s c) {x : UInt64}
    (hx : event f s c = some (.consumed x)) : Spent (step f s c) x := by
  rcases step_cases hf hs hroom with ⟨-, hnone | ⟨r, hevent, -⟩⟩ | ⟨r, -, -, -, hevent⟩ |
      ⟨seed, last, hpending, hnew, hevent⟩
  · rw [hnone] at hx
    cases hx
  · rw [hevent] at hx
    cases hx
  · rw [hevent] at hx
    cases hx
  · rw [hevent] at hx
    cases hx
    obtain ⟨-, hle, t, ht, hstart, hstop⟩ := hs.pending _ hpending
    rw [hnew]
    refine ⟨⟨t, ht, hstart, UInt64.le_trans hle hstop⟩, fun r hr hholds => ?_⟩
    change rest ⟨x, last⟩ = some r at hr
    unfold rest at hr
    split_ifs at hr with hsame
    obtain rfl := Option.some.inj hr
    have hne : x.toNat ≠ last.toNat := fun h => hsame (UInt64.toNat_inj.1 h)
    have hlast := last.toNat_lt
    rw [UInt64.le_iff_toNat_le] at hle
    have hafter := UInt64.le_iff_toNat_le.1 hholds.1
    rw [toNat_add_of_lt64 (by change x.toNat + 1 < 2 ^ 64; dsimp only at hle; omega)] at hafter
    exact absurd hafter (Nat.not_succ_le_self _)

/-- A spent seed stays spent; it is neither consumed nor reserved. -/
theorem spent_step (hf : f.Lawful) (hs : s.Valid) (hroom : ¬Overflows s c) {x : UInt64}
    (hx : s.Spent x) :
    Spent (step f s c) x ∧ ∀ e, event f s c = some e →
      e ≠ .consumed x ∧ ∀ r, e = .reserved r → ¬r.Holds x := by
  obtain ⟨⟨t, ht, hin⟩, hpast⟩ := hx
  rcases step_cases hf hs hroom with ⟨hsame, hnone | ⟨r, hevent, hpending⟩⟩ |
      ⟨r, hidle, hfree, hnew, hevent⟩ | ⟨seed, last, hpending, hnew, hevent⟩
  · rw [hsame, hnone]
    exact ⟨⟨⟨t, ht, hin⟩, hpast⟩, fun e he => by cases he⟩
  · rw [hsame, hevent]
    refine ⟨⟨⟨t, ht, hin⟩, hpast⟩, fun e he => ?_⟩
    cases he
    exact ⟨nofun, fun u hu => by cases hu; exact hpast r hpending⟩
  · have hout : ¬r.Holds x := fun hr => by
      rcases hfree.before ht with hbefore | hbefore
      · exact WordRange.not_holds_both_of_before hbefore ⟨hin, hr⟩
      · exact WordRange.not_holds_both_of_before hbefore ⟨hr, hin⟩
    rw [hnew, hevent]
    refine ⟨⟨(covers_reserved hs.normal hfree x).2 (.inl ⟨t, ht, hin⟩), fun u hu => ?_⟩,
      fun e he => ?_⟩
    · cases hu
      exact hout
    · cases he
      exact ⟨nofun, fun u hu => by cases hu; exact hout⟩
  · obtain ⟨-, hle, -⟩ := hs.pending _ hpending
    have hout : ¬(seed ≤ x ∧ x ≤ last) := hpast _ hpending
    rw [hnew, hevent]
    refine ⟨⟨⟨t, ht, hin⟩, fun u hu hholds => hout ?_⟩, fun e he => ?_⟩
    · change rest ⟨seed, last⟩ = some u at hu
      unfold rest at hu
      split_ifs at hu with hsame
      obtain rfl := Option.some.inj hu
      have hne : seed.toNat ≠ last.toNat := fun h => hsame (UInt64.toNat_inj.1 h)
      have hlast := last.toNat_lt
      rw [UInt64.le_iff_toNat_le] at hle
      have hafter := UInt64.le_iff_toNat_le.1 hholds.1
      rw [toNat_add_of_lt64 (by change seed.toNat + 1 < 2 ^ 64; dsimp only at hle; omega)]
        at hafter
      exact ⟨UInt64.le_iff_toNat_le.2 (Nat.le_of_succ_le hafter), hholds.2⟩
    · cases he
      refine ⟨fun h => hout ?_, fun u hu => by cases hu⟩
      cases h
      exact ⟨UInt64.le_refl _, hle⟩

/-- A seed that is spent is neither consumed nor reserved in the run. -/
theorem not_output_of_spent (hf : f.Lawful) {calls : List SeedCall} (hs : s.Valid)
    (hroom : Along (step f) (fun s c => ¬Overflows s c) s calls) {x : UInt64} (hx : s.Spent x) :
    ∀ e ∈ outputs (step f) (event f) s calls,
      e ≠ .consumed x ∧ ∀ r, e = .reserved r → ¬r.Holds x := by
  induction calls generalizing s with
  | nil => exact fun e he => by cases he
  | cons c calls ih =>
    have hnext := validate_eq_ok_iff.1 ((stepKept_iff hf hs).2 hroom.1).valid
    obtain ⟨hspent, hevent⟩ := spent_step hf hs hroom.1 hx
    intro e he
    rcases List.mem_append.1 he with he | he
    · exact hevent e (Option.mem_toList.1 he)
    · exact ih hnext hroom.2 hspent e he

theorem contains_foldl (hf : f.Lawful) {calls : List SeedCall} (hs : s.Valid)
    (hroom : Along (step f) (fun s c => ¬Overflows s c) s calls) (x : UInt64) :
    (calls.foldl (step f) s).contains x = true ↔
      s.contains x = true ∨ ∃ r, .reserved r ∈ outputs (step f) (event f) s calls ∧ r.Holds x := by
  induction calls generalizing s with
  | nil => simp [outputs]
  | cons c calls ih =>
    have hnext := validate_eq_ok_iff.1 ((stepKept_iff hf hs).2 hroom.1).valid
    rw [List.foldl_cons, ih hnext hroom.2, contains_step hf hs hroom.1, or_assoc, outputs]
    simp only [List.mem_append, Option.mem_toList, or_and_right, exists_or]

theorem once_outputs (hf : f.Lawful) {calls : List SeedCall} (hs : s.Valid)
    (hroom : Along (step f) (fun s c => ¬Overflows s c) s calls) (x : UInt64) :
    (outputs (step f) (event f) s calls).Pairwise fun e e' =>
      e = .consumed x → e' ≠ .consumed x ∧ ∀ r, e' = .reserved r → ¬r.Holds x := by
  induction calls generalizing s with
  | nil => exact List.Pairwise.nil
  | cons c calls ih =>
    have hnext := validate_eq_ok_iff.1 ((stepKept_iff hf hs).2 hroom.1).valid
    refine List.pairwise_append.2 ⟨?_, ih hnext hroom.2, fun e he e' he' hconsumed => ?_⟩
    · cases event f s c <;> simp
    · -- the consumed seed is spent for the rest of the run
      rw [hconsumed] at he
      exact not_output_of_spent hf hnext hroom.2
        (spent_consumed hf hs hroom.1 (Option.mem_toList.1 he)) e' he'

/-- **A run keeps a valid ledger exactly when no call overflows it.** -/
theorem runKept_iff (hf : f.Lawful) {calls : List SeedCall} (hs : s.validate = .ok ()) :
    RunKept f s calls ↔ Along (step f) (fun s c => ¬Overflows s c) s calls := by
  have hvalid := validate_eq_ok_iff.1 hs
  have hsteps : Along (step f) (StepKept f) s calls ↔
      Along (step f) (fun s c => ¬Overflows s c) s calls :=
    along_iff_of_invariant (I := Valid) (fun s c hs => (stepKept_iff hf hs : StepKept f s c ↔ _))
      (fun s c _ hkept => validate_eq_ok_iff.1 (StepKept.valid hkept)) hvalid
  refine ⟨fun h => hsteps.1 h.steps, fun hroom => ⟨hsteps.2 hroom, ?_, ?_⟩⟩
  · exact contains_foldl hf hvalid hroom
  · exact once_outputs hf hvalid hroom

end Runs

end CheckpointSeedsV1

/-! ### A small run

The format that writes an object, and reads it or the array of its values. -/

/-- A JSON document, as far as the ledger goes. -/
inductive JsonValue where
  | null
  | number (n : ℕ)
  | string (text : String)
  | array (values : List JsonValue)
  | object (members : List (String × JsonValue))

namespace CheckpointSeedsV1

def rangeToJson (r : WordRange) : JsonValue :=
  .array [.number r.first.toNat, .number r.last.toNat]

def toJson (s : CheckpointSeedsV1) : JsonValue :=
  .object [("historical_freshness", .string s.historicalFreshness),
    ("excluded_ranges", .array (s.excludedRanges.map rangeToJson)),
    ("pending_range", s.pendingRange.elim .null rangeToJson)]

def rangeFromJson : JsonValue → Option WordRange
  | .array [.number first, .number last] => do some ⟨← tryFrom64 first, ← tryFrom64 last⟩
  | _ => none

/-- The fields that were read so far. -/
structure SeedFields where
  historicalFreshness : Option String
  excludedRanges : Option (List WordRange)
  pendingRange : Option (Option WordRange)

/-- One member of the object: a field that was not read yet, and no other. -/
def readMember (fields : SeedFields) : String × JsonValue → Option SeedFields
  | ("historical_freshness", .string text) =>
    if fields.historicalFreshness.isSome then none
    else some { fields with historicalFreshness := some text }
  | ("excluded_ranges", .array ranges) => do
    if fields.excludedRanges.isSome then none
    else some { fields with excludedRanges := some (← ranges.mapM rangeFromJson) }
  | ("pending_range", value) => do
    if fields.pendingRange.isSome then none
    else
      let range ← match value with
        | .null => some none
        | value => (rangeFromJson value).map some
      some { fields with pendingRange := some range }
  | _ => none

/-- An absent `Option` is `None`. -/
def fromMembers (members : List (String × JsonValue)) : Option CheckpointSeedsV1 := do
  let fields ← members.foldlM readMember ⟨none, none, none⟩
  some ⟨← fields.historicalFreshness, ← fields.excludedRanges, fields.pendingRange.getD none⟩

/-- `Deserialize`, under `deny_unknown_fields`. -/
def fromJson : JsonValue → Option CheckpointSeedsV1
  | .object members => fromMembers members
  | .array [freshness, ranges, pending] => fromMembers
    [("historical_freshness", freshness), ("excluded_ranges", ranges), ("pending_range", pending)]
  | _ => none

theorem rangeFromJson_rangeToJson (r : WordRange) : rangeFromJson (rangeToJson r) = some r := by
  have hword : ∀ v : UInt64, tryFrom64 v.toNat = some v := fun v => tryFrom64_eq_some_iff.2 rfl
  unfold rangeFromJson rangeToJson
  simp [hword]

/-- **A ledger is read back as it was written.** -/
theorem fromJson_toJson (s : CheckpointSeedsV1) : fromJson s.toJson = some s := by
  have hranges : (s.excludedRanges.map rangeToJson).mapM rangeFromJson = some s.excludedRanges := by
    generalize s.excludedRanges = l
    induction l with
    | nil => rfl
    | cons r l ih =>
      rw [List.map_cons, List.mapM_cons, rangeFromJson_rangeToJson, ih]
      rfl
  obtain ⟨freshness, ranges, pending⟩ := s
  have hfreshness : readMember ⟨none, none, none⟩ ("historical_freshness", .string freshness)
      = some ⟨some freshness, none, none⟩ := by
    simp [readMember]
  have hexcluded : readMember ⟨some freshness, none, none⟩
      ("excluded_ranges", .array (ranges.map rangeToJson))
      = some ⟨some freshness, some ranges, none⟩ := by
    simp [readMember, hranges]
  have hpending : readMember ⟨some freshness, some ranges, none⟩
      ("pending_range", pending.elim .null rangeToJson)
      = some ⟨some freshness, some ranges, some pending⟩ := by
    cases pending with
    | none => simp [readMember]
    | some r =>
      have hr := rangeFromJson_rangeToJson r
      unfold rangeToJson at hr
      simp [readMember, rangeToJson, hr]
  have hmembers : [("historical_freshness", JsonValue.string freshness),
      ("excluded_ranges", .array (ranges.map rangeToJson)),
      ("pending_range", pending.elim .null rangeToJson)].foldlM readMember ⟨none, none, none⟩
      = some ⟨some freshness, some ranges, some pending⟩ := by
    rw [List.foldlM_cons, hfreshness, Option.bind_eq_bind, Option.bind_some, List.foldlM_cons,
      hexcluded, Option.bind_eq_bind, Option.bind_some, List.foldlM_cons, hpending]
    rfl
  unfold fromJson toJson fromMembers
  dsimp only
  rw [hmembers]
  rfl

def jsonFormat : SeedFormat JsonValue := ⟨fun s => some s.toJson, fromJson⟩

theorem jsonFormat_lawful : jsonFormat.Lawful := ⟨fromJson_toJson⟩

/-- The seeds are consumed in order, survive a reload, and the last word can be reserved. -/
theorem runKept_small : RunKept jsonFormat ⟨"unknown", [⟨1, 3⟩], none⟩
    [.reserve 4 5, .consume 4, .reload, .consume 4, .consume 5, .reserve 5 9,
      .reserve 18446744073709551615 18446744073709551615] := by
  have hroom : ∀ (s : CheckpointSeedsV1) (c : SeedCall), s.excludedRanges.length < 1000000 →
      ¬Overflows s c := fun s c hlt ⟨_, _, _, h⟩ => absurd h.full (Nat.ne_of_lt hlt)
  refine (runKept_iff jsonFormat_lawful (by decide)).2 ⟨?_, ?_, ?_, ?_, ?_, ?_, ?_, trivial⟩ <;>
    exact hroom _ _ (by decide)

/-- The odd seeds, one a range. -/
def oddSeeds (n : ℕ) : List WordRange :=
  (List.range n).map fun k => ⟨UInt64.ofNat (2 * k + 1), UInt64.ofNat (2 * k + 1)⟩

theorem toNat_oddSeed {n k : ℕ} (hn : n ≤ 2 ^ 32) (hk : k < n) :
    (UInt64.ofNat (2 * k + 1)).toNat = 2 * k + 1 := by
  rw [UInt64.toNat_ofNat']
  exact Nat.mod_eq_of_lt (by omega)

theorem normal_oddSeeds {n : ℕ} (hn : n ≤ 2 ^ 32) : Normal (oddSeeds n) := by
  refine ⟨fun r hr hzero => ?_, fun r hr => ?_, ?_⟩
  · obtain ⟨k, hk, rfl⟩ := List.mem_map.1 hr
    have := congrArg UInt64.toNat hzero
    rw [toNat_oddSeed hn (List.mem_range.1 hk)] at this
    exact absurd this (Nat.succ_ne_zero _)
  · obtain ⟨k, -, rfl⟩ := List.mem_map.1 hr
    exact UInt64.le_refl _
  · refine List.pairwise_map.2 ((List.pairwise_lt_range).imp_of_mem fun {i j} hi hj hlt => ?_)
    unfold WordRange.Apart
    dsimp only
    rw [toNat_oddSeed hn (List.mem_range.1 hi), toNat_oddSeed hn (List.mem_range.1 hj)]
    omega

/-- A ledger of odd seeds. -/
def crowded (n : ℕ) : CheckpointSeedsV1 := ⟨"unknown", oddSeeds n, none⟩

theorem valid_crowded {n : ℕ} (hn : n ≤ 1000000) : (crowded n).Valid := by
  refine ⟨by simp [crowded], ?_, normal_oddSeeds (by omega), fun r hr => by cases hr⟩
  rw [crowded, oddSeeds, List.length_map, List.length_range]
  exact hn

/-- A range behind 1,000,000 others does not fit. -/
theorem overfull_crowded {n : ℕ} (hn : n = 1000000) :
    (crowded n).Overfull ⟨3000000, 3000001⟩ := by
  have hfirst : (3000000 : UInt64).toNat = 3000000 := rfl
  have hbelow : ∀ t ∈ (crowded n).excludedRanges, t.last.toNat < 2000000 := by
    intro t ht
    obtain ⟨k, hk, rfl⟩ := List.mem_map.1 ht
    have hlt := List.mem_range.1 hk
    rw [toNat_oddSeed (by omega) hlt]
    omega
  refine ⟨rfl, ?_, ?_, fun t ht => .inl ?_⟩
  · rintro (hzero | hempty | ⟨t, ht, hin, -⟩)
    · exact absurd hzero (by decide)
    · exact absurd hempty (by decide)
    · have := hbelow t ht
      rw [UInt64.le_iff_toNat_le, hfirst] at hin
      omega
  · rw [crowded, oddSeeds, List.length_map, List.length_range]
    exact hn
  · have := hbelow t ht
    unfold WordRange.Apart
    rw [hfirst]
    omega

/-- A range that does not fit is refused with the ledger changed, and invalid from then on. -/
theorem overfull_reserve {s : CheckpointSeedsV1} (hs : s.Valid) {first last : UInt64}
    (hover : s.Overfull ⟨first, last⟩) :
    isOk (reserve first last s) = false ∧ step jsonFormat s (.reserve first last) ≠ s ∧
      (step jsonFormat s (.reserve first last)).validate ≠ .ok () := by
  rcases reserve_cases hs first last with ⟨hpending, -⟩ | ⟨-, hnot, -⟩ | ⟨-, -, hnot, -⟩ |
      ⟨-, hinvalid, e, hrun⟩
  · rw [hover.idle] at hpending
    cases hpending
  · exact absurd ⟨hover.idle, hover.free⟩ hnot
  · exact absurd hover hnot
  · have hstep : step jsonFormat s (.reserve first last) = s.reserved ⟨first, last⟩ := by
      rw [step, call, hrun]
      rfl
    rw [hstep, hrun]
    refine ⟨rfl, fun h => hinvalid ?_, fun h => hinvalid (validate_eq_ok_iff.1 h)⟩
    rw [h]
    exact hs

theorem reserve_crowded : (crowded 1000000).validate = .ok () ∧
    isOk (reserve 3000000 3000001 (crowded 1000000)) = false ∧
    step jsonFormat (crowded 1000000) (.reserve 3000000 3000001) ≠ crowded 1000000 ∧
    (step jsonFormat (crowded 1000000) (.reserve 3000000 3000001)).validate ≠ .ok () :=
  ⟨validate_eq_ok_iff.2 (valid_crowded le_rfl),
    overfull_reserve (valid_crowded le_rfl) (overfull_crowded rfl)⟩

end CheckpointSeedsV1

end Training

end ALife
