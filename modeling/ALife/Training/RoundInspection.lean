/-
# What an inspection finds

`inventory` accepts a directory exactly when it is `Admitted`: own names, at
most 256 files, none too long; it returns the fingerprints of the files
(`value_inventory_eq_ok_iff`).  `inspect` finds no candidate exactly when every
receipt is a torn stage, and otherwise the first complete one
(`inspect_none_iff`, `inspect_some_iff`).
-/

import ALife.Training.CooperativeRound

namespace ALife

open Machine Directory Faulted

variable {Handoff Trainer Cohort : Type}

/-- The files that `inventory` takes for the plan's own. -/
structure Admitted (planDigest : Sha256) (w : RoundDirectory) : Prop where
  name : ∀ e ∈ w.files.entries, e.1 = cpuCooperativeRoundResultFile ∨ isStage planDigest e.1 = true
  length_le : ∀ e ∈ w.files.entries, e.2.length ≤ maxRoundBytes
  size_le : w.files.size ≤ maxRoundFiles

namespace RoundLearner

variable {L : RoundLearner Handoff Trainer Cohort} {w : RoundDirectory} {planDigest : Sha256}
  {name : FileName} {bytes : Bytes}

/-! ### Names -/

/-- A stage of the plan is its prefix, a suffix that is allowed, and `.pending`. -/
theorem isStage_iff : isStage planDigest name = true ↔ ∃ suffix, validStageSuffix suffix = true ∧
    name = stagePrefix planDigest ++ suffix ++ pendingSuffix := by
  unfold isStage
  simp only [Bool.and_eq_true, List.isPrefixOf_iff_prefix, List.isSuffixOf_iff_suffix]
  constructor
  · rintro ⟨⟨⟨rest, rfl⟩, hsuffix⟩, hvalid⟩
    rw [List.drop_left] at hsuffix hvalid
    obtain ⟨suffix, rfl⟩ := hsuffix
    rw [List.length_append, Nat.add_sub_cancel, List.take_left] at hvalid
    exact ⟨suffix, hvalid, by rw [List.append_assoc]⟩
  · rintro ⟨suffix, hvalid, rfl⟩
    rw [List.append_assoc, List.drop_left, List.length_append, Nat.add_sub_cancel, List.take_left]
    exact ⟨⟨List.prefix_append _ _, List.suffix_append _ _⟩, hvalid⟩

/-- A stage comes after the canonical receipt. -/
theorem canonical_lt_of_isStage (h : isStage planDigest name = true) :
    cpuCooperativeRoundResultFile < name := by
  obtain ⟨suffix, -, rfl⟩ := isStage_iff.1 h
  have hc : ('c' : Char) < 'r' := by decide
  exact List.Lex.rel hc

theorem ne_canonical_of_isStage (h : isStage planDigest name = true) :
    name ≠ cpuCooperativeRoundResultFile :=
  (canonical_lt_of_isStage h).ne'

/-! ### Files -/

/-- The fingerprint of some bytes. -/
def artifactOf (L : RoundLearner Handoff Trainer Cohort) (bytes : Bytes) : CpuCollectorArtifact :=
  ⟨bytes.length, L.fileDigest bytes⟩

instance (name : FileName) (sync : Bool) : Observes (L.fingerprint name sync) := by
  unfold fingerprint
  infer_instance

theorem value_fingerprint_eq_ok_iff {sync : Bool} {a : CpuCollectorArtifact} :
    value (L.fingerprint name sync) w = .ok a ↔
      ∃ bytes, w.files.get? name = some bytes ∧ a = L.artifactOf bytes := by
  unfold fingerprint artifactOf
  cases sync <;>
  simp only [value_bind_eq_ok_iff, value_fileLen_eq_ok_iff, value_readFile_eq_ok_iff,
    value_ofResult, failIf_eq_ok_iff, value_pure, value_access_bind, Except.ok.injEq,
    Bool.false_eq_true, if_true, if_false]
  all_goals
    constructor
    · rintro ⟨_, ⟨b, hb, rfl⟩, b', hb', _, -, -, -, rfl⟩
      exact ⟨b', hb', rfl⟩
    · rintro ⟨b, hb, rfl⟩
      exact ⟨_, ⟨b, hb, rfl⟩, b, hb, _, ⟨b, hb, rfl⟩, (), by simp, rfl⟩

set_option synthInstance.maxSize 512 in
instance (files : Inventory) (name : FileName) :
    Observes (L.inventoryEntry planDigest files name) := by
  unfold inventoryEntry
  infer_instance

instance : Observes (L.inventory planDigest) := by
  unfold inventory
  infer_instance

set_option synthInstance.maxSize 512 in
theorem value_inventoryEntry_eq_ok_iff {files files' : Inventory}
    (hname : w.files.get? name = some bytes) :
    value (L.inventoryEntry planDigest files name) w = .ok files' ↔
      (name = cpuCooperativeRoundResultFile ∨ isStage planDigest name = true) ∧
        files.size < maxRoundFiles ∧ bytes.length ≤ maxRoundBytes ∧
        files' = files.insert name (L.artifactOf bytes) := by
  unfold inventoryEntry
  simp only [value_access_bind, value_bind_eq_ok_iff, value_fileLen_eq_ok_iff,
    value_ofResult, failIf_eq_ok_iff, value_pure, Except.ok.injEq, value_fingerprint_eq_ok_iff,
    hname, Option.some.injEq, exists_eq_left', not_and_or, not_le, not_lt, ne_eq, not_not,
    Bool.not_eq_false, exists_const]
  constructor
  · rintro ⟨h, hsize, hlen, _, rfl, -, rfl⟩
    exact ⟨h, hsize, hlen, rfl⟩
  · rintro ⟨h, hsize, hlen, rfl⟩
    exact ⟨h, hsize, hlen, _, rfl, hlen, rfl⟩

/-- The loop of `inventory` from what it has seen. -/
theorem inventory_loop {seen : Inventory} {pre post : List (FileName × Bytes)} {files : Inventory}
    (hentries : w.files.entries = pre ++ post)
    (hseen : seen.entries = pre.map fun e => (e.1, L.artifactOf e.2)) :
    (post.map (·.1)).foldlM (fun m n => value (L.inventoryEntry planDigest m n) w) seen =
        .ok files ↔
      (∀ e ∈ post, (e.1 = cpuCooperativeRoundResultFile ∨ isStage planDigest e.1 = true) ∧
        e.2.length ≤ maxRoundBytes) ∧
      (post = [] ∨ w.files.size ≤ maxRoundFiles) ∧ files = w.files.mapValues L.artifactOf := by
  induction post generalizing seen pre with
  | nil =>
    have hfiles : seen = w.files.mapValues L.artifactOf := by
      refine OrderedMap.ext_entries ?_
      rw [hseen, OrderedMap.entries_mapValues, hentries, List.append_nil]
    rw [List.map_nil, List.foldlM_nil, ← hfiles]
    constructor
    · intro h
      cases h
      exact ⟨fun _ h => absurd h List.not_mem_nil, Or.inl rfl, rfl⟩
    · rintro ⟨-, -, rfl⟩
      rfl
  | cons e post ih =>
    have hmem : (e.1, e.2) ∈ w.files.entries := by
      rw [hentries]
      exact List.mem_append_right _ (List.mem_cons_self ..)
    have hsize : seen.size = pre.length := by
      rw [OrderedMap.size, hseen, List.length_map]
    have hlast : ∀ a ∈ seen.entries, a.1 < e.1 := by
      intro a ha
      rw [hseen] at ha
      obtain ⟨b, hb, rfl⟩ := List.mem_map.1 ha
      have hpairwise := w.files.ascending
      rw [hentries] at hpairwise
      exact (List.pairwise_append.1 hpairwise).2.2 b hb e (List.mem_cons_self ..)
    have hnext : (seen.insert e.1 (L.artifactOf e.2)).entries =
        (pre ++ [e]).map fun e => (e.1, L.artifactOf e.2) := by
      rw [OrderedMap.entries_insert_of_lt hlast, hseen, List.map_append]
      rfl
    have hlength : w.files.size = pre.length + (post.length + 1) := by
      rw [OrderedMap.size, hentries, List.length_append, List.length_cons]
    have hrest := ih (by rw [hentries, List.append_assoc]; rfl) hnext
    rw [List.map_cons, List.foldlM_cons, except_bind_eq_ok_iff]
    simp only [value_inventoryEntry_eq_ok_iff (OrderedMap.get?_eq_some_iff.2 hmem)]
    constructor
    · rintro ⟨_, ⟨hown, hroom, hlen, rfl⟩, hloop⟩
      obtain ⟨hall, hbound, hfiles⟩ := hrest.1 hloop
      refine ⟨fun a ha => ?_, Or.inr ?_, hfiles⟩
      · obtain rfl | ha := List.mem_cons.1 ha
        · exact ⟨hown, hlen⟩
        · exact hall a ha
      · rcases hbound with rfl | hbound
        · rw [hlength, List.length_nil]
          omega
        · exact hbound
    · rintro ⟨hall, hbound, hfiles⟩
      have hbound := hbound.resolve_left (List.cons_ne_nil _ _)
      obtain ⟨hown, hlen⟩ := hall e (List.mem_cons_self ..)
      exact ⟨_, ⟨hown, by omega, hlen, rfl⟩,
        hrest.2 ⟨fun a ha => hall a (List.mem_cons_of_mem _ ha), Or.inr hbound, hfiles⟩⟩

/-- **An inventory is taken exactly of an admitted directory.** -/
theorem value_inventory_eq_ok_iff {files : Inventory} :
    value (L.inventory planDigest) w = .ok files ↔
      Admitted planDigest w ∧ files = w.files.mapValues L.artifactOf := by
  unfold inventory
  rw [value_bind_eq_ok_iff]
  simp only [value_readDir, Except.ok.injEq, exists_eq_left', value_foldlM]
  rw [inventory_loop (List.nil_append _).symm rfl]
  constructor
  · rintro ⟨hall, hbound, rfl⟩
    refine ⟨⟨fun e he => (hall e he).1, fun e he => (hall e he).2, ?_⟩, rfl⟩
    rcases hbound with hnil | hbound
    · rw [OrderedMap.size, hnil]
      exact Nat.zero_le _
    · exact hbound
  · rintro ⟨hadmitted, rfl⟩
    exact ⟨fun e he => ⟨hadmitted.name e he, hadmitted.length_le e he⟩, Or.inr hadmitted.size_le,
      rfl⟩

/-! ### Receipts -/

/-- What the bytes under a name are read as. -/
def receiptOf (L : RoundLearner Handoff Trainer Cohort) (name : FileName) (bytes : Bytes) :
    Except RoundError (Option (CpuCooperativeRoundResultV1 Handoff)) :=
  match L.parse bytes with
  | .ok r => do
    r.validate L
    pure (some r)
  | .error .eof =>
    if name = cpuCooperativeRoundResultFile then .error (.json .eof) else .ok none
  | .error .other => .error (.json .other)

instance (name : FileName) : Observes (L.readStage name) := by
  unfold readStage
  infer_instance

instance (name : FileName) : Observes (L.readReceipt name) := by
  unfold readReceipt readJson
  infer_instance

/-- A stage is read as its receipt is. -/
theorem readReceipt_of_ne (h : name ≠ cpuCooperativeRoundResultFile) :
    L.readReceipt name = L.readStage name := if_neg h

theorem value_readReceipt_eq_ok_iff {r : Option (CpuCooperativeRoundResultV1 Handoff)}
    (hname : w.files.get? name = some bytes) :
    value (L.readReceipt name) w = .ok r ↔
      bytes.length ≤ maxRoundBytes ∧ L.receiptOf name bytes = .ok r := by
  have htake (h : bytes.length ≤ maxRoundBytes) : bytes.take (maxRoundBytes + 1) = bytes :=
    List.take_of_length_le (by omega)
  unfold readReceipt readJson readStage receiptOf
  split_ifs with hcanonical <;>
  simp only [value_bind_eq_ok_iff, value_fileLen_eq_ok_iff, value_readFile_eq_ok_iff,
    value_ofResult, failIf_eq_ok_iff, hname, Option.some.injEq, exists_eq_left', not_lt,
    value_pure, exists_const]
  all_goals
    by_cases hlen : bytes.length ≤ maxRoundBytes
    · rcases hparse : L.parse bytes with (_ | _) | r'
      · simp [htake hlen, hparse, hlen]
      · simp [htake hlen, hparse, hlen]
      · rcases hvalid : r'.validate L <;>
          simp [htake hlen, hparse, hlen, hvalid, bind, Except.bind, pure, Except.pure]
    · simp [hlen]

/-- A receipt that is read is complete and valid. -/
theorem receiptOf_eq_some_iff {r : CpuCooperativeRoundResultV1 Handoff} :
    L.receiptOf name bytes = .ok (some r) ↔ L.parse bytes = .ok r ∧ r.validate L = .ok () := by
  unfold receiptOf
  rcases L.parse bytes with (_ | _) | r'
  · split_ifs <;> simp
  · simp
  · rcases hvalid : r'.validate L <;> simp [hvalid, bind, Except.bind, pure, Except.pure]
    · rintro rfl
      simp [hvalid]
    · rintro rfl
      exact hvalid

/-- Only a torn stage is passed over. -/
theorem receiptOf_eq_none_iff : L.receiptOf name bytes = .ok none ↔
    name ≠ cpuCooperativeRoundResultFile ∧ L.parse bytes = .error .eof := by
  unfold receiptOf
  rcases L.parse bytes with (_ | _) | r'
  · split_ifs with h <;> simp [h]
  · simp
  · rcases hvalid : r'.validate L <;> simp [hvalid, bind, Except.bind, pure, Except.pure]

/-! ### The loop over the receipts -/

instance (plan : CpuCooperativeRoundPlanV1) (candidate : Option (Candidate Handoff))
    (name : FileName) : Observes (L.inspectName plan candidate name) := by
  unfold inspectName
  infer_instance

instance (plan : CpuCooperativeRoundPlanV1) : Observes (L.inspect plan) := by
  unfold inspect
  infer_instance

/-- A further receipt, after a candidate: a torn stage, or one that agrees with it. -/
def Agrees (L : RoundLearner Handoff Trainer Cohort) (plan : CpuCooperativeRoundPlanV1)
    (c : Candidate Handoff) (e : FileName × Bytes) : Prop :=
  L.receiptOf e.1 e.2 = .ok none ∨ ∃ r, L.receiptOf e.1 e.2 = .ok (some r) ∧
    r.plan.eq plan = true ∧ c.result.payloadSha256 = r.payloadSha256

theorem value_inspectName_some_iff {plan : CpuCooperativeRoundPlanV1} {c : Candidate Handoff}
    {x : Option (Candidate Handoff)} (hname : w.files.get? name = some bytes) :
    value (L.inspectName plan (some c) name) w = .ok x ↔
      bytes.length ≤ maxRoundBytes ∧ L.Agrees plan c (name, bytes) ∧ x = some c := by
  unfold inspectName Agrees
  simp only [value_bind_eq_ok_iff, value_readReceipt_eq_ok_iff hname, value_ofResult]
  constructor
  · rintro ⟨_ | r, ⟨hlen, hr⟩, h⟩
    · cases h
      exact ⟨hlen, Or.inl hr, rfl⟩
    · dsimp only at h
      split_ifs at h with hplan hpayload
      cases h
      exact ⟨hlen, Or.inr ⟨r, hr, by simpa using hplan, by simpa using hpayload⟩, rfl⟩
  · rintro ⟨hlen, hr | ⟨r, hr, hplan, hpayload⟩, rfl⟩
    · exact ⟨none, ⟨hlen, hr⟩, rfl⟩
    · exact ⟨some r, ⟨hlen, hr⟩, by simp [hplan, hpayload]⟩

theorem value_inspectName_none_iff {plan : CpuCooperativeRoundPlanV1}
    {x : Option (Candidate Handoff)} (hname : w.files.get? name = some bytes) :
    value (L.inspectName plan none name) w = .ok x ↔
      bytes.length ≤ maxRoundBytes ∧ (L.receiptOf name bytes = .ok none ∧ x = none ∨
        ∃ r, L.receiptOf name bytes = .ok (some r) ∧ r.plan.eq plan = true ∧
          x = some ⟨name, r⟩) := by
  unfold inspectName
  simp only [value_bind_eq_ok_iff, value_readReceipt_eq_ok_iff hname, value_ofResult]
  constructor
  · rintro ⟨_ | r, ⟨hlen, hr⟩, h⟩
    · cases h
      exact ⟨hlen, Or.inl ⟨hr, rfl⟩⟩
    · dsimp only at h
      split_ifs at h with hplan
      cases h
      exact ⟨hlen, Or.inr ⟨r, hr, by simpa using hplan, rfl⟩⟩
  · rintro ⟨hlen, ⟨hr, rfl⟩ | ⟨r, hr, hplan, rfl⟩⟩
    · exact ⟨none, ⟨hlen, hr⟩, rfl⟩
    · exact ⟨some r, ⟨hlen, hr⟩, by simp [hplan]⟩

/-- The loop after a candidate was found. -/
theorem inspect_loop_some {plan : CpuCooperativeRoundPlanV1} {c : Candidate Handoff}
    {x : Option (Candidate Handoff)} {l : List (FileName × Bytes)}
    (hl : ∀ e ∈ l, e ∈ w.files.entries) :
    (l.map (·.1)).foldlM (fun x n => value (L.inspectName plan x n) w) (some c) = .ok x ↔
      (∀ e ∈ l, e.2.length ≤ maxRoundBytes ∧ L.Agrees plan c e) ∧ x = some c := by
  induction l with
  | nil =>
    rw [List.map_nil, List.foldlM_nil]
    constructor
    · intro h
      cases h
      exact ⟨fun _ h => absurd h List.not_mem_nil, rfl⟩
    · rintro ⟨-, rfl⟩
      rfl
  | cons e l ih =>
    have he := OrderedMap.get?_eq_some_iff.2 (hl e (List.mem_cons_self ..))
    rw [List.map_cons, List.foldlM_cons, except_bind_eq_ok_iff]
    simp only [value_inspectName_some_iff he]
    rw [List.forall_mem_cons]
    have hrest := ih fun a ha => hl a (List.mem_cons_of_mem _ ha)
    constructor
    · rintro ⟨_, ⟨hlen, hagrees, rfl⟩, hloop⟩
      obtain ⟨hall, rfl⟩ := hrest.1 hloop
      exact ⟨⟨⟨hlen, hagrees⟩, hall⟩, rfl⟩
    · rintro ⟨⟨⟨hlen, hagrees⟩, hall⟩, rfl⟩
      exact ⟨_, ⟨hlen, hagrees, rfl⟩, hrest.2 ⟨hall, rfl⟩⟩

/-- What the loop returns: nothing when every receipt is a torn stage, or the first
complete one, with which the others agree. -/
inductive Finds (L : RoundLearner Handoff Trainer Cohort) (plan : CpuCooperativeRoundPlanV1)
    (l : List (FileName × Bytes)) : Option (Candidate Handoff) → Prop where
  | none (torn : ∀ e ∈ l, L.receiptOf e.1 e.2 = .ok none) : Finds L plan l none
  | some (pre post : List (FileName × Bytes)) (bytes : Bytes) (c : Candidate Handoff)
      (split : l = pre ++ (c.name, bytes) :: post)
      (torn : ∀ e ∈ pre, L.receiptOf e.1 e.2 = .ok none)
      (read : L.receiptOf c.name bytes = .ok (some c.result))
      (plan_eq : c.result.plan.eq plan = true)
      (agrees : ∀ e ∈ post, L.Agrees plan c e) : Finds L plan l (some c)

theorem inspect_loop_none {plan : CpuCooperativeRoundPlanV1} {x : Option (Candidate Handoff)}
    {l : List (FileName × Bytes)} (hl : ∀ e ∈ l, e ∈ w.files.entries) :
    (l.map (·.1)).foldlM (fun x n => value (L.inspectName plan x n) w) none = .ok x ↔
      (∀ e ∈ l, e.2.length ≤ maxRoundBytes) ∧ L.Finds plan l x := by
  induction l with
  | nil =>
    rw [List.map_nil, List.foldlM_nil]
    constructor
    · intro h
      cases h
      exact ⟨fun _ h => absurd h List.not_mem_nil, .none fun _ h => absurd h List.not_mem_nil⟩
    · rintro ⟨-, ⟨torn⟩ | ⟨pre, post, bytes, c, split, _⟩⟩
      · rfl
      · simp at split
  | cons e l ih =>
    have hl' : ∀ a ∈ l, a ∈ w.files.entries := fun a ha => hl a (List.mem_cons_of_mem _ ha)
    have he := OrderedMap.get?_eq_some_iff.2 (hl e (List.mem_cons_self ..))
    rw [List.map_cons, List.foldlM_cons, except_bind_eq_ok_iff]
    simp only [value_inspectName_none_iff he]
    rw [List.forall_mem_cons]
    constructor
    · rintro ⟨_, ⟨hlen, ⟨hr, rfl⟩ | ⟨r, hr, hplan, rfl⟩⟩, hloop⟩
      · obtain ⟨hall, ⟨torn⟩ | ⟨pre, post, bytes, c, rfl, torn, read, plan_eq, agrees⟩⟩ :=
          (ih hl').1 hloop
        · exact ⟨⟨hlen, hall⟩, .none (List.forall_mem_cons.2 ⟨hr, torn⟩)⟩
        · exact ⟨⟨hlen, hall⟩, .some (e :: pre) post bytes c rfl
            (List.forall_mem_cons.2 ⟨hr, torn⟩) read plan_eq agrees⟩
      · obtain ⟨hall, rfl⟩ := (inspect_loop_some hl').1 hloop
        exact ⟨⟨hlen, fun a ha => (hall a ha).1⟩, .some [] l e.2 ⟨e.1, r⟩ rfl
          (fun _ h => absurd h List.not_mem_nil) hr hplan fun a ha => (hall a ha).2⟩
    · rintro ⟨⟨hlen, hall⟩, ⟨torn⟩ | ⟨pre, post, bytes, c, split, torn, read, plan_eq, agrees⟩⟩
      · obtain ⟨hr, torn⟩ := List.forall_mem_cons.1 torn
        exact ⟨none, ⟨hlen, Or.inl ⟨hr, rfl⟩⟩, (ih hl').2 ⟨hall, .none torn⟩⟩
      · rcases pre with _ | ⟨a, pre⟩
        · obtain ⟨rfl, rfl⟩ := List.cons.inj split
          exact ⟨some c, ⟨hlen, Or.inr ⟨c.result, read, plan_eq, rfl⟩⟩,
            (inspect_loop_some hl').2 ⟨fun a ha => ⟨hall a ha, agrees a ha⟩, rfl⟩⟩
        · obtain ⟨rfl, rfl⟩ := List.cons.inj split
          obtain ⟨hr, torn⟩ := List.forall_mem_cons.1 torn
          exact ⟨none, ⟨hlen, Or.inl ⟨hr, rfl⟩⟩,
            (ih hl').2 ⟨hall, .some pre post bytes c rfl torn read plan_eq agrees⟩⟩

/-- **An inspection succeeds exactly in an admitted directory that leaves room, with
what its receipts say.** -/
theorem value_inspect_eq_ok_iff {plan : CpuCooperativeRoundPlanV1} {files : Inventory}
    {x : Option (Candidate Handoff)} :
    value (L.inspect plan) w = .ok (files, x) ↔
      Admitted plan.payloadSha256 w ∧ L.Finds plan w.files.entries x ∧
        (x = none → w.files.size < maxRoundFiles) ∧ files = w.files.mapValues L.artifactOf := by
  have hkeys : (w.files.mapValues L.artifactOf).entries.map (·.1) = w.files.entries.map (·.1) := by
    rw [OrderedMap.entries_mapValues, List.map_map]
    rfl
  have hsize : (w.files.mapValues L.artifactOf).size = w.files.size := by
    rw [OrderedMap.size, OrderedMap.entries_mapValues, List.length_map]
    rfl
  unfold inspect
  simp only [value_bind_eq_ok_iff, value_inventory_eq_ok_iff, value_foldlM, value_ofResult,
    failIf_eq_ok_iff, value_pure, Except.ok.injEq, Prod.mk.injEq]
  constructor
  · rintro ⟨_, ⟨hadmitted, rfl⟩, _, hloop, _, ⟨-, rfl⟩, _, -, _, hroom, rfl, rfl⟩
    rw [hkeys, inspect_loop_none fun _ h => h] at hloop
    refine ⟨hadmitted, hloop.2, fun hnone => ?_, rfl⟩
    rw [hsize] at hroom
    by_contra hfull
    exact hroom ⟨by rw [hnone]; rfl, not_lt.1 hfull⟩
  · rintro ⟨hadmitted, hfinds, hroom, rfl⟩
    refine ⟨_, ⟨hadmitted, rfl⟩, x, ?_, _, ⟨hadmitted, rfl⟩, (), fun h => h rfl, (), ?_, rfl, rfl⟩
    · rw [hkeys, inspect_loop_none fun _ h => h]
      exact ⟨hadmitted.length_le, hfinds⟩
    · rintro ⟨hnone, hfull⟩
      rw [hsize] at hfull
      exact absurd (hroom (Option.isNone_iff_eq_none.1 hnone)) (not_lt.2 hfull)

end RoundLearner

end ALife
