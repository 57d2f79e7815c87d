/-
# Histories of calls on one directory

From the empty directory a history reaches only two kinds of directories: `Open`
ones, where all stages are torn and of one plan digest, and `Settled` ones, which
hold the text of one learned result and besides it only torn stages
(`reached_afterAll`).  A settled directory stays settled on its result and is
not trained in again (`Settled.runs`).
-/

import ALife.Training.RoundEffects

namespace ALife

open Machine Directory Faulted

variable {Handoff Trainer Cohort : Type}

namespace RoundLearner

variable {L : RoundLearner Handoff Trainer Cohort} {w w' : RoundDirectory}
  {plan : CpuCooperativeRoundPlanV1} {planDigest : Sha256} {name : FileName} {bytes : Bytes}
  {r : CpuCooperativeRoundResultV1 Handoff}

/-- A proper prefix of the text of a learned result. -/
def Torn (L : RoundLearner Handoff Trainer Cohort) (bytes : Bytes) : Prop :=
  ∃ plan r, L.learned plan = .ok r ∧ bytes <+: L.encode r ∧ bytes ≠ L.encode r

theorem Torn.parse (hlawful : L.Lawful) (h : L.Torn bytes) : L.parse bytes = .error .eof := by
  obtain ⟨plan, r, hlearned, hprefix, hne⟩ := h
  exact hlawful.torn plan r bytes hlearned hprefix hne

/-- All files are torn stages of one plan digest. -/
def Open (L : RoundLearner Handoff Trainer Cohort) (planDigest : Sha256) (w : RoundDirectory) :
    Prop :=
  ∀ e ∈ w.files.entries, isStage planDigest e.1 = true ∧ L.Torn e.2

/-- A file of a settled directory. -/
def SettledFile (L : RoundLearner Handoff Trainer Cohort) (r : CpuCooperativeRoundResultV1 Handoff)
    (e : FileName × Bytes) : Prop :=
  e = (cpuCooperativeRoundResultFile, L.encode r) ∨
    isStage r.plan.payloadSha256 e.1 = true ∧ (L.Torn e.2 ∨ e.2 = L.encode r)

/-- The directory holds the text of a learned result. -/
structure Settled (L : RoundLearner Handoff Trainer Cohort)
    (r : CpuCooperativeRoundResultV1 Handoff) (w : RoundDirectory) : Prop where
  learned : L.learned r.plan = .ok r
  files : ∀ e ∈ w.files.entries, L.SettledFile r e
  holds : ∃ e ∈ w.files.entries, e.2 = L.encode r

/-- The complete result stands in some file. -/
def Complete (L : RoundLearner Handoff Trainer Cohort) (r : CpuCooperativeRoundResultV1 Handoff)
    (w : RoundDirectory) : Prop :=
  L.learned r.plan = .ok r ∧ ∃ e ∈ w.files.entries, e.2 = L.encode r

theorem Settled.complete (h : L.Settled r w) : L.Complete r w := ⟨h.learned, h.holds⟩

/-! ### Receipts of a settled directory -/

theorem Torn.ne_encode (hlawful : L.Lawful) (hlearned : L.learned plan = .ok r)
    (h : L.Torn bytes) : bytes ≠ L.encode r := by
  rintro rfl
  have hparse := h.parse hlawful
  rw [hlawful.roundTrip _ _ hlearned] at hparse
  cases hparse

/-- A file of a settled directory that is read holds its result. -/
theorem SettledFile.of_parse (hlawful : L.Lawful) {e : FileName × Bytes} (h : L.SettledFile r e)
    {x : CpuCooperativeRoundResultV1 Handoff} (hx : L.parse e.2 = .ok x) : e.2 = L.encode r := by
  rcases h with rfl | ⟨-, htorn | heq⟩
  · rfl
  · rw [htorn.parse hlawful] at hx
    cases hx
  · exact heq

/-- What is found in a settled directory is its result. -/
theorem Settled.found (hlawful : L.Lawful) (h : L.Settled r w) {x : Option (Candidate Handoff)}
    (hfinds : L.Finds plan w.files.entries x) :
    ∃ c, x = some c ∧ c.result = r ∧ w.files.get? c.name = some (L.encode r) := by
  rcases x with _ | c
  · obtain ⟨torn⟩ := hfinds
    obtain ⟨e, he, hbytes⟩ := h.holds
    have hparse := (receiptOf_eq_none_iff.1 (torn e he)).2
    rw [hbytes, hlawful.roundTrip _ _ h.learned] at hparse
    cases hparse
  · obtain ⟨-, bytes, hname, hparse⟩ := candidate_of_finds hfinds
    have hbytes : bytes = L.encode r :=
      (h.files _ (OrderedMap.get?_eq_some_iff.1 hname)).of_parse hlawful hparse
    subst hbytes
    rw [hlawful.roundTrip _ _ h.learned] at hparse
    exact ⟨c, rfl, (Except.ok.inj hparse).symm, hname⟩

theorem Open.not_found (hlawful : L.Lawful) (h : L.Open planDigest w) {c : Candidate Handoff} :
    ¬L.Finds plan w.files.entries (some c) := by
  intro hfinds
  obtain ⟨-, bytes, hname, hparse⟩ := candidate_of_finds hfinds
  rw [(h _ (OrderedMap.get?_eq_some_iff.1 hname)).2.parse hlawful] at hparse
  cases hparse

/-- An open directory that a plan takes for its own has its stages. -/
theorem Open.of_admitted (h : L.Open planDigest w) (hadmitted : Admitted plan.payloadSha256 w) :
    L.Open plan.payloadSha256 w := by
  intro e he
  obtain ⟨hstage, htorn⟩ := h e he
  exact ⟨(hadmitted.name e he).resolve_left (ne_canonical_of_isStage hstage), htorn⟩

/-! ### Steps -/

/-- A text of the result under a further name. -/
theorem Settled.withFile (h : L.Settled r w) (hfile : L.SettledFile r (name, bytes))
    (hnew : w.files.contains name = false) : L.Settled r (w.withFile name bytes) where
  learned := h.learned
  files e he := by
    rcases OrderedMap.mem_insert.1 he with rfl | ⟨-, he⟩
    · exact hfile
    · exact h.files e he
  holds := by
    obtain ⟨e, he, hbytes⟩ := h.holds
    refine ⟨e, OrderedMap.mem_insert.2 (Or.inr ⟨?_, he⟩), hbytes⟩
    rw [OrderedMap.contains_eq_false_iff, OrderedMap.get?_eq_none_iff] at hnew
    exact hnew e he

/-- Publishing the result of a settled directory leaves it settled. -/
theorem Settled.finishes (h : L.Settled r w) (hname : w.files.get? name = some (L.encode r))
    (hfinish : Finishes name w w') : L.Settled r w' := by
  obtain _ | ⟨bytes, hne, hname', hfree⟩ | ⟨bytes, hne, hname', hfree⟩ := hfinish
  · exact h
  · obtain rfl := Option.some.inj (hname.symm.trans hname')
    exact h.withFile (Or.inl rfl) hfree
  · obtain rfl := Option.some.inj (hname.symm.trans hname')
    have hlinked := h.withFile (Or.inl rfl) hfree
    refine ⟨h.learned, fun e he => hlinked.files e (OrderedMap.mem_erase.1 he).2, ?_⟩
    exact ⟨(cpuCooperativeRoundResultFile, L.encode r),
      OrderedMap.mem_erase.2 ⟨hne.symm, OrderedMap.mem_insert.2 (Or.inl rfl)⟩, rfl⟩

theorem Finishes.marks (h : Finishes name w w') : w'.marks = w.marks := by
  cases h <;> rfl

/-- **A settled directory stays settled, and no call trains in it.** -/
theorem Settled.runs (hlawful : L.Lawful) (h : L.Settled r w) (hruns : L.Runs plan w w') :
    L.Settled r w' ∧ w'.marks = w.marks := by
  obtain _ | ⟨c, _, hfinds, hfinish⟩ | ⟨_, -, hfinds, -, -⟩ := hruns
  · exact ⟨h, rfl⟩
  · obtain ⟨_, hc, -, hname⟩ := h.found hlawful hfinds
    cases hc
    exact ⟨h.finishes hname hfinish, Finishes.marks hfinish⟩
  · obtain ⟨_, hnone, -⟩ := h.found hlawful hfinds
    cases hnone

/-- Publishing in an open directory leaves it open, or settles it. -/
theorem Open.publishes (hlawful : L.Lawful) (hlearned : L.learned r.plan = .ok r)
    (h : L.Open r.plan.payloadSha256 w) (hpublish : Publishes L r w w') :
    L.Open r.plan.payloadSha256 w' ∨ L.Settled r w' := by
  obtain _ | ⟨_, _, hfinds, -⟩ | ⟨name, bytes, hstage, -, hbytes, htorn⟩ |
    ⟨name, _, hstage, -, hfinish⟩ := hpublish
  · exact Or.inl h
  · exact absurd hfinds (h.not_found hlawful)
  · refine Or.inl fun e he => ?_
    rcases OrderedMap.mem_insert.1 he with rfl | ⟨-, he⟩
    · exact ⟨hstage, r.plan, r, hlearned, hbytes, htorn⟩
    · exact h e he
  · have hsettled : L.Settled r (w.withFile name (L.encode r)) := by
      refine ⟨hlearned, fun e he => ?_, _, OrderedMap.mem_insert.2 (Or.inl rfl), rfl⟩
      rcases OrderedMap.mem_insert.1 he with rfl | ⟨-, he⟩
      · exact Or.inr ⟨hstage, Or.inr rfl⟩
      · exact Or.inr ⟨(h e he).1, Or.inl (h e he).2⟩
    exact Or.inr (hsettled.finishes OrderedMap.get?_insert_self hfinish)

/-- The directories that histories reach. -/
def Reached (L : RoundLearner Handoff Trainer Cohort) (w : RoundDirectory) : Prop :=
  (∃ planDigest, L.Open planDigest w) ∨ ∃ r, L.Settled r w

theorem Reached.runs (hlawful : L.Lawful) (h : L.Reached w) (hruns : L.Runs plan w w') :
    L.Reached w' := by
  rcases h with ⟨planDigest, hopen⟩ | ⟨r, hsettled⟩
  · obtain _ | ⟨_, _, hfinds, -⟩ | ⟨_, hadmitted, -, -, hafter⟩ := hruns
    · exact Or.inl ⟨planDigest, hopen⟩
    · exact absurd hfinds (hopen.not_found hlawful)
    · have hown : L.Open plan.payloadSha256 (marked w plan) := hopen.of_admitted hadmitted
      rcases hafter with rfl | ⟨r, hlearned, hpublish⟩
      · exact Or.inl ⟨_, hown⟩
      · obtain rfl : r.plan = plan := plan_of_learned hlearned
        exact (hown.publishes hlawful hlearned hpublish).imp (fun h => ⟨_, h⟩) fun h => ⟨r, h⟩
  · exact Or.inr ⟨r, (hsettled.runs hlawful hruns).1⟩

end RoundLearner

end ALife
