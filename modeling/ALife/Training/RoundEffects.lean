/-
# What a call leaves in the directory

`Finishes`, `Publishes` and `Runs` list the directories that the functions of
the round can leave, whatever step fails: one constructor for each point at
which a step was the last.  Whatever the directory held before, a call that
returns has the result under the canonical name (`ends_run`).
-/

import ALife.Training.RoundInspection

namespace ALife

open Machine Directory Faulted

variable {Handoff Trainer Cohort : Type}

/-- What publishing a candidate can leave: it is linked under the canonical name, and
then its stage is removed. -/
inductive Finishes (name : FileName) (w : RoundDirectory) : RoundDirectory → Prop where
  | kept : Finishes name w w
  | linked (bytes : Bytes) (hne : name ≠ cpuCooperativeRoundResultFile)
      (hname : w.files.get? name = some bytes)
      (hfree : w.files.contains cpuCooperativeRoundResultFile = false) :
      Finishes name w (w.withFile cpuCooperativeRoundResultFile bytes)
  | moved (bytes : Bytes) (hne : name ≠ cpuCooperativeRoundResultFile)
      (hname : w.files.get? name = some bytes)
      (hfree : w.files.contains cpuCooperativeRoundResultFile = false) :
      Finishes name w ((w.withFile cpuCooperativeRoundResultFile bytes).withoutFile name)

/-- The result stands under the canonical name. -/
def RoundLearner.HoldsResult (L : RoundLearner Handoff Trainer Cohort) (w : RoundDirectory)
    (r : CpuCooperativeRoundResultV1 Handoff) : Prop :=
  ∃ bytes, w.files.get? cpuCooperativeRoundResultFile = some bytes ∧ L.parse bytes = .ok r

namespace RoundLearner

variable {L : RoundLearner Handoff Trainer Cohort} {s : Faulted RoundDirectory} {w : RoundDirectory}
  {depth : ℕ} {suffix : List Char} {plan : CpuCooperativeRoundPlanV1}

theorem ends_publishNew {name : FileName} (hne : name ≠ cpuCooperativeRoundResultFile) :
    Ends (publishNew name cpuCooperativeRoundResultFile) s
      (fun _ t => ∃ bytes, s.world.files.get? name = some bytes ∧
        s.world.files.contains cpuCooperativeRoundResultFile = false ∧
        Leaves ((s.world.withFile cpuCooperativeRoundResultFile bytes).withoutFile name) s t)
      (fun _ t => Finishes name s.world t.world) := by
  unfold publishNew
  refine (ends_hardLink.mono (fun _ _ h => h) fun _ _ h => ?_).bind ?_
  · rw [h.world]
    exact .kept
  · rintro _ t ⟨bytes, hname, hfree, ht⟩
    refine (ends_removeFile.mono (fun _ _ h => h) fun _ _ h => ?_).bind fun _ u hu => ?_
    · rw [h.world, ht.world]
      exact .linked bytes hne hname hfree
    · have hu' := ht.trans hu
      rw [ht.world] at hu'
      refine (ends_access u).mono (fun _ _ h => ⟨bytes, hname, hfree, Kept.leaves hu' h⟩)
        fun _ _ h => ?_
      rw [h.world, hu'.world]
      exact .moved bytes hne hname hfree

/-- A candidate that is finished stands under the canonical name. -/
theorem ends_finish {files : Inventory} {c : Candidate Handoff} {bytes : Bytes}
    (hname : s.world.files.get? c.name = some bytes) (hparse : L.parse bytes = .ok c.result) :
    Ends (L.finish depth files c) s
      (fun r t => r = c.result ∧ Finishes c.name s.world t.world ∧ L.HoldsResult t.world r)
      (fun _ t => Finishes c.name s.world t.world) := by
  have hkept {t : Faulted RoundDirectory} (h : Kept s t) : Finishes c.name s.world t.world := by
    rw [h.world]
    exact .kept
  unfold finish syncDirectoryAncestry
  refine ends_observing (fun _ _ h => hkept h) fun synced t₁ _ h₁ => ?_
  refine ends_observing (fun _ _ h => hkept (h₁.trans h)) fun _ t₂ _ h₂ => ?_
  have h₂ := h₁.trans h₂
  refine ends_observing (fun _ _ h => hkept (h₂.trans h)) fun _ t₃ _ h₃ => ?_
  have h₃ := h₂.trans h₃
  refine ends_observing (fun _ _ h => hkept (h₃.trans h)) fun _ t₄ _ h₄ => ?_
  have h₄ := h₃.trans h₄
  refine ends_observing (fun _ _ h => hkept (h₄.trans h)) fun _ t₅ _ h₅ => ?_
  have h₅ := h₄.trans h₅
  split_ifs with hne
  · refine ((ends_publishNew hne).mono (fun _ _ h => h) fun _ _ h => ?_).bind ?_
    · rwa [h₅.world] at h
    · rintro _ u ⟨bytes', hname', hfree, hu⟩
      rw [h₅.world] at hname' hfree hu
      obtain rfl : bytes = bytes' := Option.some.inj (hname.symm.trans hname')
      have hmoved : Finishes c.name s.world u.world := by
        rw [hu.world]
        exact .moved bytes hne hname hfree
      have hholds : L.HoldsResult u.world c.result := by
        refine ⟨bytes, ?_, hparse⟩
        rw [hu.world]
        exact (OrderedMap.get?_erase_of_ne hne.symm).trans OrderedMap.get?_insert_self
      refine ends_observing (fun _ _ h => ?_) fun _ v _ hv => ?_
      · rwa [h.world]
      · refine ends_observing (fun _ _ h => ?_) fun _ x _ hx => ?_
        · rwa [h.world, hv.world]
        · refine ends_pure ⟨rfl, ?_, ?_⟩ <;> rwa [hx.world, hv.world]
  · refine ends_pure ⟨rfl, hkept h₅, bytes, ?_, hparse⟩
    rw [h₅.world, ← not_ne_iff.1 hne]
    exact hname

/-- What is found is a complete receipt of the plan. -/
theorem candidate_of_finds {c : Candidate Handoff} (h : L.Finds plan w.files.entries (some c)) :
    c.result.plan.eq plan = true ∧
      ∃ bytes, w.files.get? c.name = some bytes ∧ L.parse bytes = .ok c.result := by
  obtain _ | ⟨pre, post, bytes, _, split, -, read, plan_eq, -⟩ := h
  refine ⟨plan_eq, bytes, ?_, (receiptOf_eq_some_iff.1 read).1⟩
  rw [OrderedMap.get?_eq_some_iff, split]
  exact List.mem_append_right _ (List.mem_cons_self ..)

/-- A recovery finds nothing and leaves all as it was, or finishes what it finds. -/
theorem ends_recoverRoundResult : Ends (L.recoverRoundResult depth plan) s
    (fun x t => Admitted plan.payloadSha256 s.world ∧
      ((x = none ∧ Kept s t ∧ L.Finds plan s.world.files.entries none ∧
        s.world.files.size < maxRoundFiles) ∨
      ∃ c, x = some c.result ∧ L.Finds plan s.world.files.entries (some c) ∧
        Finishes c.name s.world t.world ∧ L.HoldsResult t.world c.result))
    (fun _ t => t.world = s.world ∨ ∃ c, L.Finds plan s.world.files.entries (some c) ∧
      Finishes c.name s.world t.world) := by
  unfold recoverRoundResult ownedRoot
  refine ends_observing (fun _ _ h => Or.inl h.world) fun _ t₁ _ h₁ => ?_
  refine ends_observing (fun _ _ h => Or.inl (h₁.trans h).world) fun _ t₂ _ h₂ => ?_
  have h₂ := h₁.trans h₂
  refine ends_observing (fun _ _ h => Or.inl (h₂.trans h).world) fun ⟨files, x⟩ t₃ hx h₃ => ?_
  have h₃ := h₂.trans h₃
  rw [value_inspect_eq_ok_iff, h₂.world] at hx
  obtain ⟨hadmitted, hfinds, hroom, -⟩ := hx
  rcases x with _ | c
  · exact ends_pure ⟨hadmitted, Or.inl ⟨rfl, h₃, hfinds, hroom rfl⟩⟩
  · obtain ⟨-, bytes, hname, hparse⟩ := candidate_of_finds hfinds
    refine (ends_finish (by rwa [h₃.world]) hparse |>.mono (fun _ _ h => h) fun _ t h => ?_).bind ?_
    · rw [h₃.world] at h
      exact Or.inr ⟨c, hfinds, h⟩
    · rintro _ t ⟨rfl, hfinish, hholds⟩
      rw [h₃.world] at hfinish
      exact ends_pure ⟨hadmitted, Or.inr ⟨c, rfl, hfinds, hfinish, hholds⟩⟩

/-- What publishing a result can leave. -/
inductive Publishes (L : RoundLearner Handoff Trainer Cohort)
    (r : CpuCooperativeRoundResultV1 Handoff) (w : RoundDirectory) : RoundDirectory → Prop where
  | kept : Publishes L r w w
  | recovers (c : Candidate Handoff) (w' : RoundDirectory)
      (hfinds : L.Finds r.plan w.files.entries (some c)) (h : Finishes c.name w w') :
      Publishes L r w w'
  | torn (name : FileName) (bytes : Bytes) (hstage : isStage r.plan.payloadSha256 name = true)
      (hnew : w.files.contains name = false) (hbytes : bytes <+: L.encode r)
      (htorn : bytes ≠ L.encode r) : Publishes L r w (w.withFile name bytes)
  | staged (name : FileName) (w' : RoundDirectory)
      (hstage : isStage r.plan.payloadSha256 name = true) (hnew : w.files.contains name = false)
      (h : Finishes name (w.withFile name (L.encode r)) w') : Publishes L r w w'

theorem withFile_withFile (w : RoundDirectory) (name : FileName) (b b' : Bytes) :
    (w.withFile name b).withFile name b' = w.withFile name b' := by
  unfold withFile
  refine congrArg (Directory.mk · w.marks) (OrderedMap.ext_get? fun k => ?_)
  by_cases hk : k = name
  · subst hk
    rw [OrderedMap.get?_insert_self, OrderedMap.get?_insert_self]
  · rw [OrderedMap.get?_insert_of_ne hk, OrderedMap.get?_insert_of_ne hk,
      OrderedMap.get?_insert_of_ne hk]

/-- Writing a stage leaves its text, or a torn stage, or nothing. -/
theorem ends_writePending {r : CpuCooperativeRoundResultV1 Handoff} {name : FileName}
    (hne : L.encode r ≠ []) : Ends (L.writePending name r) s
      (fun _ t => s.world.files.contains name = false ∧
        Leaves (s.world.withFile name (L.encode r)) s t)
      (fun _ t => t.world = s.world ∨ s.world.files.contains name = false ∧
        ∃ bytes, bytes <+: L.encode r ∧ t.world = s.world.withFile name bytes) := by
  unfold writePending
  refine (ends_createNew.mono (fun _ _ h => h) fun _ _ h => Or.inl h.world).bind ?_
  rintro _ t₁ ⟨hnew, h₁⟩
  refine ((ends_writeFile hne).mono (fun _ _ h => h) ?_).bind fun _ t₂ h₂ => ?_
  · rintro _ t ⟨torn, htorn, -, ht⟩
    refine Or.inr ⟨hnew, torn, htorn, ?_⟩
    rw [ht.world, h₁.world, withFile_withFile]
  · have h₂ := h₁.trans h₂
    rw [h₁.world, withFile_withFile] at h₂
    have hfull {t : Faulted RoundDirectory} (h : Kept t₂ t) : t.world = s.world ∨
        s.world.files.contains name = false ∧ ∃ bytes, bytes <+: L.encode r ∧
          t.world = s.world.withFile name bytes :=
      Or.inr ⟨hnew, _, List.prefix_refl _, by rw [h.world, h₂.world]⟩
    refine ends_observing (fun _ _ h => hfull h) fun _ t₃ _ h₃ => ?_
    refine ends_observing (fun _ _ h => hfull (h₃.trans h)) fun _ t₄ _ h₄ => ?_
    have h₄ := h₃.trans h₄
    exact (ends_access t₄).mono (fun _ _ h => ⟨hnew, Kept.leaves h₂ (h₄.trans h)⟩)
      fun _ _ h => hfull (h₄.trans h)

theorem isStage_of_roundStageName {name : FileName} (h : roundStageName plan suffix = .ok name) :
    isStage plan.payloadSha256 name = true := by
  unfold roundStageName at h
  split_ifs at h with hvalid
  cases h
  exact isStage_iff.2 ⟨suffix, hvalid, rfl⟩

/-- A result that is published stands under the canonical name. -/
theorem ends_publishRoundResult (hlawful : L.Lawful) {r : CpuCooperativeRoundResultV1 Handoff}
    (hlearned : L.learned plan = .ok r) :
    Ends (L.publishRoundResult depth suffix r) s
      (fun x t => Publishes L r s.world t.world ∧ x.plan.eq r.plan = true ∧ L.HoldsResult t.world x)
      (fun _ t => Publishes L r s.world t.world) := by
  have hkept {t : Faulted RoundDirectory} (h : Kept s t) : Publishes L r s.world t.world := by
    rw [h.world]
    exact .kept
  unfold publishRoundResult ownedRoot
  refine ends_observing (fun _ _ h => hkept h) fun _ t₁ _ h₁ => ?_
  refine ends_observing (fun _ _ h => hkept (h₁.trans h)) fun _ t₂ _ h₂ => ?_
  have h₂ := h₁.trans h₂
  refine ends_observing (fun _ _ h => hkept (h₂.trans h)) fun ⟨files, x⟩ t₃ hx h₃ => ?_
  have h₃ := h₂.trans h₃
  rw [value_inspect_eq_ok_iff, h₂.world] at hx
  obtain ⟨-, hfinds, -, -⟩ := hx
  rcases x with _ | c
  · unfold stageResult
    refine ends_observing (fun _ _ h => hkept (h₃.trans h)) fun name t₄ hname h₄ => ?_
    have h₄ := h₃.trans h₄
    rw [value_ofResult] at hname
    have hstage := isStage_of_roundStageName hname
    have hne := hlawful.encode_ne_nil _ _ hlearned
    refine ((ends_writePending hne).mono (fun _ _ h => h) ?_).bind ?_
    · rintro _ t (ht | ⟨hnew, bytes, hbytes, ht⟩)
      · rw [ht, h₄.world]
        exact .kept
      · rw [ht, h₄.world]
        rw [h₄.world] at hnew
        by_cases hfull : bytes = L.encode r
        · subst hfull
          exact .staged name _ hstage hnew .kept
        · exact .torn name bytes hstage hnew hbytes hfull
    · rintro _ t₅ ⟨hnew, h₅⟩
      have h₅ := Leaves.trans h₄ h₅
      rw [h₄.world] at hnew h₅
      have hstaged {t : Faulted RoundDirectory} (h : Kept t₅ t) :
          Publishes L r s.world t.world := by
        rw [h.world, h₅.world]
        exact .staged name _ hstage hnew .kept
      refine ends_observing (fun _ _ h => hstaged h) fun staged t₆ hread h₆ => ?_
      refine ends_observing (fun _ _ h => hstaged (h₆.trans h)) fun staged' t₇ hget h₇ => ?_
      have h₇ := h₆.trans h₇
      refine ends_observing (fun _ _ h => hstaged (h₇.trans h)) fun _ t₈ hsame h₈ => ?_
      have h₈ := h₇.trans h₈
      refine ends_observing (fun _ _ h => hstaged (h₈.trans h)) fun artifact t₉ _ h₉ => ?_
      have h₉ := h₈.trans h₉
      have hfile : t₅.world.files.get? name = some (L.encode r) := by
        rw [h₅.world]
        exact OrderedMap.get?_insert_self
      have hr : staged' = r := by
        rw [← readReceipt_of_ne (ne_canonical_of_isStage hstage),
          value_readReceipt_eq_ok_iff hfile] at hread
        rw [value_ofResult, getOr_eq_ok_iff] at hget
        subst hget
        have hparse := (receiptOf_eq_some_iff.1 hread.2).1
        rw [hlawful.roundTrip _ _ hlearned] at hparse
        exact (Except.ok.inj hparse).symm
      subst hr
      rw [value_ofResult, failIf_eq_ok_iff, not_or, Bool.not_eq_false] at hsame
      have hfile' : t₉.world.files.get? name = some (L.encode staged') := by
        rwa [h₉.world]
      refine (ends_finish hfile' (hlawful.roundTrip _ _ hlearned)).mono ?_ fun _ t h => ?_
      · rintro _ t ⟨rfl, hfinish, hholds⟩
        rw [h₉.world, h₅.world] at hfinish
        exact ⟨.staged name _ hstage hnew hfinish, hsame.1, hholds⟩
      · rw [h₉.world, h₅.world] at h
        exact .staged name _ hstage hnew h
  · obtain ⟨hplan, bytes, hname, hparse⟩ := candidate_of_finds hfinds
    refine ends_observing (fun _ _ h => hkept (h₃.trans h)) fun _ t₄ _ h₄ => ?_
    have h₄ := h₃.trans h₄
    refine (ends_finish (by rwa [h₄.world]) hparse).mono ?_ fun _ t h => ?_
    · rintro _ t ⟨rfl, hfinish, hholds⟩
      rw [h₄.world] at hfinish
      exact ⟨.recovers c _ hfinds hfinish, hplan, hholds⟩
    · rw [h₄.world] at h
      exact .recovers c _ hfinds h

/-! ### Calls -/

set_option synthInstance.maxSize 512 in
instance (plan : CpuCooperativeRoundPlanV1) : Observes (L.prepareRound plan) := by
  unfold prepareRound
  infer_instance

/-- What a plan learns is a valid result of the plan. -/
theorem of_learn {round : PreparedRound Handoff Trainer Cohort}
    {r : CpuCooperativeRoundResultV1 Handoff} (h : L.learn plan round = .ok r) :
    r.plan = plan ∧ r.validate L = .ok () := by
  unfold learn at h
  simp only [except_bind_eq_ok_iff, pure, Except.pure, Except.ok.injEq] at h
  obtain ⟨⟨update, trainer⟩, -, output, -, _, hvalid, rfl⟩ := h
  exact ⟨rfl, hvalid⟩

set_option synthInstance.maxSize 512 in
theorem value_prepareRound_eq_ok_iff {round : PreparedRound Handoff Trainer Cohort} :
    value (L.prepareRound plan) w = .ok round ↔ plan.validate L = .ok () ∧
      (∃ source, L.source plan = .ok source ∧ L.prepared plan source = .ok round) ∧
      L.verify plan = .ok () := by
  unfold prepareRound
  simp only [value_bind_eq_ok_iff, value_access, value_ofResult, value_pure, Except.ok.injEq]
  constructor
  · rintro ⟨_, hvalid, _, -, source, hsource, _, -, _, hprepared, _, -, _, hverify, _, -, rfl⟩
    exact ⟨hvalid, ⟨source, hsource, hprepared⟩, hverify⟩
  · rintro ⟨hvalid, ⟨source, hsource, hprepared⟩, hverify⟩
    exact ⟨(), hvalid, (), trivial, source, hsource, (), trivial, round, hprepared, (), trivial, (),
      hverify, (), trivial, rfl⟩

theorem learned_eq_ok_iff {r : CpuCooperativeRoundResultV1 Handoff} :
    L.learned plan = .ok r ↔
      ∃ round, value (L.prepareRound plan) w = .ok round ∧ L.learn plan round = .ok r := by
  unfold learned
  simp only [except_bind_eq_ok_iff, value_prepareRound_eq_ok_iff]
  constructor
  · rintro ⟨_, hvalid, source, hsource, round, hprepared, _, hverify, hlearn⟩
    exact ⟨round, ⟨hvalid, ⟨source, hsource, hprepared⟩, hverify⟩, hlearn⟩
  · rintro ⟨round, ⟨hvalid, ⟨source, hsource, hprepared⟩, hverify⟩, hlearn⟩
    exact ⟨(), hvalid, source, hsource, round, hprepared, (), hverify, hlearn⟩

theorem plan_of_learned {r : CpuCooperativeRoundResultV1 Handoff} (h : L.learned plan = .ok r) :
    r.plan = plan := by
  obtain ⟨_, -, hlearn⟩ := (learned_eq_ok_iff (w := emptyOutput)).1 h
  exact (of_learn hlearn).1

/-- The directory with a plan marked as trained. -/
def marked (w : RoundDirectory) (plan : CpuCooperativeRoundPlanV1) : RoundDirectory :=
  { w with marks := w.marks ++ [plan] }

/-- What a call can leave: it trains only where every receipt is a torn stage of its
plan. -/
inductive Runs (L : RoundLearner Handoff Trainer Cohort) (plan : CpuCooperativeRoundPlanV1)
    (w : RoundDirectory) : RoundDirectory → Prop where
  | kept : Runs L plan w w
  | recovers (c : Candidate Handoff) (w' : RoundDirectory)
      (hfinds : L.Finds plan w.files.entries (some c)) (h : Finishes c.name w w') : Runs L plan w w'
  | trains (w' : RoundDirectory) (hadmitted : Admitted plan.payloadSha256 w)
      (hfinds : L.Finds plan w.files.entries none) (hroom : w.files.size < maxRoundFiles)
      (h : w' = marked w plan ∨ ∃ r, L.learned plan = .ok r ∧ Publishes L r (marked w plan) w') :
      Runs L plan w w'

/-- Whatever the directory held, a call that returns has a result of its plan, which
stands under the canonical name. -/
theorem ends_run (hlawful : L.Lawful) : Ends (L.runCpuCooperativeRound depth suffix plan) s
    (fun r t => Runs L plan s.world t.world ∧ r.plan.eq plan = true ∧ L.HoldsResult t.world r ∧
      Admitted plan.payloadSha256 s.world)
    (fun _ t => Runs L plan s.world t.world) := by
  unfold runCpuCooperativeRound
  refine ends_observing (fun _ _ h => ?_) fun round t₁ hround h₁ => ?_
  · rw [h.world]
    exact .kept
  refine (ends_recoverRoundResult.mono (fun _ _ h => h) ?_).bind ?_
  · rintro _ t (ht | ⟨c, hfinds, hfinish⟩)
    · rw [ht, h₁.world]
      exact .kept
    · rw [h₁.world] at hfinds hfinish
      exact .recovers c _ hfinds hfinish
  · rintro _ t₂ ⟨hadmitted, ⟨rfl, h₂, hfinds, hroom⟩ | ⟨c, rfl, hfinds, hfinish, hholds⟩⟩ <;>
    rw [h₁.world] at hadmitted
    · rw [h₁.world] at hfinds hroom
      have h₂ := h₁.trans h₂
      have htrains {w' : RoundDirectory} (h : w' = marked s.world plan ∨
          ∃ r, L.learned plan = .ok r ∧ Publishes L r (marked s.world plan) w') :
          Runs L plan s.world w' := .trains w' hadmitted hfinds hroom h
      unfold learnAndPublish mark
      refine ((ends_change _ t₂).mono (fun _ _ h => h) fun _ _ h => h.elim).bind fun _ t₃ h₃ => ?_
      rw [h₂.world] at h₃
      refine ends_observing (fun _ _ h => htrains (Or.inl (h.world.trans h₃.world)))
        fun r t₄ hlearn h₄ => ?_
      rw [value_ofResult] at hlearn
      have hlearned : L.learned plan = .ok r := learned_eq_ok_iff.2 ⟨round, hround, hlearn⟩
      obtain ⟨rfl, -⟩ := of_learn hlearn
      refine ends_observing
        (fun _ _ h => htrains (Or.inl ((h₄.trans h).world.trans h₃.world))) fun _ t₅ _ h₅ => ?_
      have h₅ := h₄.trans h₅
      refine ends_observing
        (fun _ _ h => htrains (Or.inl ((h₅.trans h).world.trans h₃.world))) fun _ t₆ _ h₆ => ?_
      have h₆ := (h₅.trans h₆).world.trans h₃.world
      have hpublishes := @ends_publishRoundResult _ _ _ L t₆ depth suffix _ hlawful _ hlearned
      refine (hpublishes.mono (fun _ _ h => h) fun _ t h => ?_).bind ?_
      · rw [h₆] at h
        exact htrains (Or.inr ⟨r, hlearned, h⟩)
      · rintro x t₇ ⟨hpublish, hplan, hholds⟩
        rw [h₆] at hpublish
        have hdone {w' : RoundDirectory} (h : w' = t₇.world) : Runs L r.plan s.world w' :=
          htrains (Or.inr ⟨r, hlearned, h ▸ hpublish⟩)
        refine ends_observing (fun _ _ h => hdone h.world) fun _ t₈ _ h₈ => ?_
        refine ends_observing (fun _ _ h => hdone (h₈.trans h).world) fun _ t₉ _ h₉ => ?_
        have h₉ := h₈.trans h₉
        exact ends_pure ⟨hdone h₉.world, hplan, h₉.world ▸ hholds, hadmitted⟩
    · obtain ⟨hplan, -⟩ := candidate_of_finds hfinds
      rw [h₁.world] at hfinds hfinish
      have hdone {w' : RoundDirectory} (h : w' = t₂.world) : Runs L plan s.world w' :=
        .recovers c _ hfinds (h ▸ hfinish)
      refine ends_observing (fun _ _ h => hdone h.world) fun _ t₃ _ h₃ => ?_
      refine ends_observing (fun _ _ h => hdone (h₃.trans h).world) fun _ t₄ _ h₄ => ?_
      have h₄ := h₃.trans h₄
      exact ends_pure ⟨hdone h₄.world, hplan, h₄.world ▸ hholds, hadmitted⟩

end RoundLearner

end ALife
