/-
# A call in which no step fails

In a settled directory that `inventory` admits, a call for the plan of the result
returns it when no step fails (`Settled.call_eq_ok`).  The candidate is the
canonical receipt where there is one, because its name comes first; otherwise
the link finds its place free.
-/

import ALife.Training.RoundHistory

namespace ALife

open Machine Directory Faulted

variable {Handoff Trainer Cohort : Type}

namespace RoundLearner

variable {L : RoundLearner Handoff Trainer Cohort} {w : RoundDirectory}
  {s : Faulted RoundDirectory} {depth : ℕ} {suffix : List Char} {plan : CpuCooperativeRoundPlanV1}
  {name : FileName} {bytes : Bytes} {r : CpuCooperativeRoundResultV1 Handoff}

/-! ### What a settled directory shows -/

theorem validate_of_learned (h : L.learned plan = .ok r) : r.validate L = .ok () := by
  obtain ⟨_, -, hlearn⟩ := (learned_eq_ok_iff (w := emptyOutput)).1 h
  exact (of_learn hlearn).2

/-- Its receipts are torn stages and the result. -/
theorem SettledFile.receipt (hlawful : L.Lawful) (hlearned : L.learned r.plan = .ok r)
    {e : FileName × Bytes} (h : L.SettledFile r e) :
    (e.2 ≠ L.encode r ∧ L.receiptOf e.1 e.2 = .ok none) ∨
      e.2 = L.encode r ∧ L.receiptOf e.1 e.2 = .ok (some r) := by
  have hcomplete : e.2 = L.encode r → L.receiptOf e.1 e.2 = .ok (some r) := fun heq =>
    receiptOf_eq_some_iff.2 ⟨heq ▸ hlawful.roundTrip _ _ hlearned, validate_of_learned hlearned⟩
  rcases h with rfl | ⟨hstage, htorn | heq⟩
  · exact Or.inr ⟨rfl, hcomplete rfl⟩
  · exact Or.inl ⟨htorn.ne_encode hlawful hlearned,
      receiptOf_eq_none_iff.2 ⟨ne_canonical_of_isStage hstage, htorn.parse hlawful⟩⟩
  · exact Or.inr ⟨heq, hcomplete heq⟩

/-- The first complete receipt is found. -/
theorem finds_of_settledFiles (hlawful : L.Lawful) (hlearned : L.learned r.plan = .ok r)
    (hplan : r.plan.eq r.plan = true) {l : List (FileName × Bytes)}
    (hl : ∀ e ∈ l, L.SettledFile r e) (hcomplete : ∃ e ∈ l, e.2 = L.encode r) :
    ∃ name, L.Finds r.plan l (some ⟨name, r⟩) := by
  induction l with
  | nil =>
    obtain ⟨e, he, -⟩ := hcomplete
    exact absurd he List.not_mem_nil
  | cons e l ih =>
    obtain ⟨he, hl⟩ := List.forall_mem_cons.1 hl
    rcases he.receipt hlawful hlearned with ⟨hne, hnone⟩ | ⟨heq, hsome⟩
    · obtain ⟨a, ha, hbytes⟩ := hcomplete
      obtain rfl | ha := List.mem_cons.1 ha
      · exact absurd hbytes hne
      · obtain ⟨name, ⟨⟩ | ⟨pre, post, bytes, c, rfl, torn, read, plan_eq, agrees⟩⟩ :=
          ih hl ⟨a, ha, hbytes⟩
        exact ⟨name, .some (e :: pre) post bytes _ rfl
          (List.forall_mem_cons.2 ⟨hnone, torn⟩) read plan_eq agrees⟩
    · refine ⟨e.1, .some [] l e.2 ⟨e.1, r⟩ rfl (fun _ h => absurd h List.not_mem_nil) hsome hplan
        fun a ha => ?_⟩
      rcases (hl a ha).receipt hlawful hlearned with ⟨-, hnone⟩ | ⟨-, hsome⟩
      · exact Or.inl hnone
      · exact Or.inr ⟨r, hsome, hplan, rfl⟩

/-- A candidate that is not canonical stands in a directory without a canonical receipt. -/
theorem free_of_finds {c : Candidate Handoff} (h : L.Finds plan w.files.entries (some c))
    (hstage : cpuCooperativeRoundResultFile < c.name) :
    w.files.contains cpuCooperativeRoundResultFile = false := by
  obtain _ | ⟨pre, post, bytes, _, split, torn, -⟩ := h
  rw [OrderedMap.contains_eq_false_iff, OrderedMap.get?_eq_none_iff]
  intro e he hcanonical
  have hpairwise := w.files.ascending
  rw [split] at he hpairwise
  rcases List.mem_append.1 he with he | he
  · exact (receiptOf_eq_none_iff.1 (torn e he)).1 hcanonical
  · have hpost := (List.pairwise_cons.1 (List.pairwise_append.1 hpairwise).2.1).1
    obtain rfl | he := List.mem_cons.1 he
    · exact hstage.ne' hcanonical
    · exact lt_asymm hstage (hcanonical ▸ hpost e he)

/-! ### Publishing -/

/-- An admitted directory in which a stage was published is admitted. -/
theorem admitted_published {planDigest : Sha256} (h : Admitted planDigest w)
    (hname : w.files.get? name = some bytes) (hne : name ≠ cpuCooperativeRoundResultFile)
    (hfree : w.files.contains cpuCooperativeRoundResultFile = false) :
    Admitted planDigest ((w.withFile cpuCooperativeRoundResultFile bytes).withoutFile name) := by
  have hmem : ∀ e ∈ ((w.withFile cpuCooperativeRoundResultFile bytes).withoutFile
      name).files.entries, e = (cpuCooperativeRoundResultFile, bytes) ∨ e ∈ w.files.entries := by
    intro e he
    rcases OrderedMap.mem_insert.1 (OrderedMap.mem_erase.1 he).2 with heq | ⟨-, he⟩
    · exact Or.inl heq
    · exact Or.inr he
  refine ⟨fun e he => ?_, fun e he => ?_, ?_⟩
  · obtain rfl | he := hmem e he
    · exact Or.inl rfl
    · exact h.name e he
  · obtain rfl | he := hmem e he
    · exact h.length_le (name, bytes) (OrderedMap.get?_eq_some_iff.1 hname)
    · exact h.length_le e he
  · have hlinked : (w.files.insert cpuCooperativeRoundResultFile bytes).get? name = some bytes := by
      rw [OrderedMap.get?_insert_of_ne hne, hname]
    have herase := OrderedMap.size_erase hlinked
    have hinsert := OrderedMap.size_insert (m := w.files) (k := cpuCooperativeRoundResultFile)
      (v := bytes)
    rw [if_neg (by rw [hfree]; exact Bool.false_ne_true)] at hinsert
    have hsize := h.size_le
    change OrderedMap.size ((w.files.insert cpuCooperativeRoundResultFile bytes).erase name) ≤ _
    omega

/-- The inventory after a publication is the one that `finish` expects. -/
theorem inventory_published (hne : name ≠ cpuCooperativeRoundResultFile) :
    ((w.withFile cpuCooperativeRoundResultFile bytes).withoutFile name).files.mapValues
        L.artifactOf =
      ((w.files.mapValues L.artifactOf).erase name).insert cpuCooperativeRoundResultFile
        (L.artifactOf bytes) := by
  refine OrderedMap.ext_get? fun k => ?_
  rw [OrderedMap.get?_mapValues]
  change Option.map _ (((w.files.insert _ _).erase name).get? k) = _
  by_cases hk : k = cpuCooperativeRoundResultFile
  · subst hk
    rw [OrderedMap.get?_erase_of_ne hne.symm, OrderedMap.get?_insert_self,
      OrderedMap.get?_insert_self]
    rfl
  · rw [OrderedMap.get?_insert_of_ne hk]
    by_cases hn : k = name
    · subst hn
      rw [OrderedMap.get?_erase_self, OrderedMap.get?_erase_self]
      rfl
    · rw [OrderedMap.get?_erase_of_ne hn, OrderedMap.get?_insert_of_ne hk,
        OrderedMap.get?_erase_of_ne hn, OrderedMap.get?_mapValues]

theorem ends_publishNew_calm (hs : s.Calm) (hne : name ≠ cpuCooperativeRoundResultFile)
    (hname : s.world.files.get? name = some bytes)
    (hfree : s.world.files.contains cpuCooperativeRoundResultFile = false) :
    Ends (publishNew name cpuCooperativeRoundResultFile) s
      (fun _ => Leaves ((s.world.withFile cpuCooperativeRoundResultFile bytes).withoutFile name) s)
      (fun _ _ => False) := by
  unfold publishNew
  refine (ends_hardLink_calm hs hname hfree).bind fun _ t ht => ?_
  have hlinked : t.world.files.get? name = some bytes := by
    rw [ht.world]
    exact (OrderedMap.get?_insert_of_ne hne).trans hname
  refine (ends_removeFile_calm (ht.calm hs) hlinked).bind fun _ u hu => ?_
  have hu' := ht.trans hu
  rw [ht.world] at hu'
  exact (ends_access_calm (hu'.calm hs)).mono (fun _ _ h => Kept.leaves hu' h) fun _ _ h => h

/-- A candidate of an admitted directory is finished when no step fails. -/
theorem ends_finish_calm (hs : s.Calm) {c : Candidate Handoff}
    (hadmitted : Admitted c.result.plan.payloadSha256 s.world)
    (hname : s.world.files.get? c.name = some bytes)
    (hfree : c.name ≠ cpuCooperativeRoundResultFile →
      s.world.files.contains cpuCooperativeRoundResultFile = false) :
    Ends (L.finish depth (s.world.files.mapValues L.artifactOf) c) s
      (fun x t => x = c.result ∧ t.Calm) (fun _ _ => False) := by
  unfold finish syncDirectoryAncestry
  refine ends_observing_calm hs (a := L.artifactOf bytes)
    (value_fingerprint_eq_ok_iff.2 ⟨bytes, hname, rfl⟩) fun t₁ h₁ => ?_
  refine ends_observing_calm (h₁.calm hs) (a := ()) ?_ fun t₂ h₂ => ?_
  · rw [value_ofResult, failIf_eq_ok_iff, OrderedMap.get?_mapValues, hname]
    exact fun h => h rfl
  have h₂ := h₁.trans h₂
  refine ends_observing_calm (h₂.calm hs) (a := ()) ?_ fun t₃ h₃ => ?_
  · exact value_forM_access _ _
  have h₃ := h₂.trans h₃
  refine ends_observing_calm (h₃.calm hs) (a := s.world.files.mapValues L.artifactOf) ?_
    fun t₄ h₄ => ?_
  · rw [value_inventory_eq_ok_iff, h₃.world]
    exact ⟨hadmitted, rfl⟩
  have h₄ := h₃.trans h₄
  refine ends_observing_calm (h₄.calm hs) (a := ()) ?_ fun t₅ h₅ => ?_
  · rw [value_ofResult, failIf_eq_ok_iff]
    exact fun h => h rfl
  have h₅ := h₄.trans h₅
  split_ifs with hne
  · have hfree := hfree hne
    refine (ends_publishNew_calm (h₅.calm hs) hne (by rwa [h₅.world]) (by rwa [h₅.world])).bind
      fun _ t₆ h₆ => ?_
    have h₆ := Leaves.trans h₅ h₆
    rw [h₅.world] at h₆
    refine ends_observing_calm (h₆.calm hs)
      (a := ((s.world.files.mapValues L.artifactOf).erase c.name).insert
        cpuCooperativeRoundResultFile (L.artifactOf bytes)) ?_ fun t₇ h₇ => ?_
    · rw [value_inventory_eq_ok_iff, h₆.world]
      exact ⟨admitted_published hadmitted hname hne hfree, (inventory_published hne).symm⟩
    have h₇ := Kept.leaves h₆ h₇
    refine ends_observing_calm (h₇.calm hs) (a := ()) ?_ fun t₈ h₈ => ?_
    · rw [value_ofResult, failIf_eq_ok_iff]
      exact fun h => h rfl
    · exact ends_pure ⟨rfl, (Kept.leaves h₇ h₈).calm hs⟩
  · exact ends_pure ⟨rfl, h₅.calm hs⟩

/-! ### The call -/

/-- The names of a settled directory are its result's own. -/
theorem Settled.admitted (h : L.Settled r w)
    (hlength : ∀ e ∈ w.files.entries, e.2.length ≤ maxRoundBytes)
    (hsize : w.files.size ≤ maxRoundFiles) : Admitted r.plan.payloadSha256 w where
  name e he := by
    rcases h.files e he with rfl | ⟨hstage, -⟩
    · exact Or.inl rfl
    · exact Or.inr hstage
  length_le := hlength
  size_le := hsize

theorem ends_recoverRoundResult_calm (hlawful : L.Lawful) (hs : s.Calm)
    (h : L.Settled r s.world) (hadmitted : Admitted r.plan.payloadSha256 s.world) :
    Ends (L.recoverRoundResult depth r.plan) s (fun x t => x = some r ∧ t.Calm)
      (fun _ _ => False) := by
  obtain ⟨round, hround, -⟩ := (learned_eq_ok_iff (w := emptyOutput)).1 h.learned
  have hvalid := (value_prepareRound_eq_ok_iff.1 hround).1
  obtain ⟨name, hfinds⟩ := finds_of_settledFiles hlawful h.learned
    (CpuCooperativeRoundPlanV1.eq_self hvalid) h.files h.holds
  obtain ⟨_, hc, -, hname⟩ := h.found hlawful hfinds
  cases hc
  unfold recoverRoundResult ownedRoot
  refine ends_observing_calm hs (a := ()) (by rwa [value_ofResult]) fun t₁ h₁ => ?_
  refine ends_observing_calm (h₁.calm hs) (a := ()) ?_ fun t₂ h₂ => ?_
  · simp
  have h₂ := h₁.trans h₂
  refine ends_observing_calm (h₂.calm hs)
    (a := (s.world.files.mapValues L.artifactOf, some ⟨name, r⟩)) ?_ fun t₃ h₃ => ?_
  · rw [value_inspect_eq_ok_iff, h₂.world]
    exact ⟨hadmitted, hfinds, fun hnone => absurd hnone (Option.some_ne_none _), rfl⟩
  have h₃ := h₂.trans h₃
  have hfree : name ≠ cpuCooperativeRoundResultFile →
      s.world.files.contains cpuCooperativeRoundResultFile = false := fun hne => by
    refine free_of_finds hfinds ?_
    rcases hadmitted.name _ (OrderedMap.get?_eq_some_iff.1 hname) with heq | hstage
    · exact absurd heq hne
    · exact canonical_lt_of_isStage hstage
  have hfinish : Ends (L.finish depth (t₃.world.files.mapValues L.artifactOf) ⟨name, r⟩) t₃
      (fun x t => x = r ∧ t.Calm) (fun _ _ => False) :=
    ends_finish_calm (h₃.calm hs) (by rwa [h₃.world]) (by rw [h₃.world]; exact hname)
      (by rwa [h₃.world])
  rw [h₃.world] at hfinish
  refine hfinish.bind ?_
  rintro _ t ⟨rfl, ht⟩
  exact ends_pure ⟨rfl, ht⟩

/-- **In an admitted directory the result is returned when no step fails.** -/
theorem Settled.ends_run (hlawful : L.Lawful) (hs : s.Calm) (h : L.Settled r s.world)
    (hadmitted : Admitted r.plan.payloadSha256 s.world) :
    Ends (L.runCpuCooperativeRound depth suffix r.plan) s (fun x _ => x = r)
      (fun _ _ => False) := by
  obtain ⟨round, hround, -⟩ := (learned_eq_ok_iff (w := s.world)).1 h.learned
  have hverify := (value_prepareRound_eq_ok_iff.1 hround).2.2
  unfold runCpuCooperativeRound
  refine ends_observing_calm hs hround fun t₁ h₁ => ?_
  refine (ends_recoverRoundResult_calm hlawful (h₁.calm hs) (by rwa [h₁.world])
    (by rwa [h₁.world])).bind ?_
  rintro _ t₂ ⟨rfl, h₂⟩
  refine ends_observing_calm h₂ (a := ()) (value_access _) fun t₃ h₃ => ?_
  refine ends_observing_calm (h₃.calm h₂) (a := ()) (by rwa [value_ofResult]) fun t₄ _ => ?_
  exact ends_pure rfl

end RoundLearner

end ALife
