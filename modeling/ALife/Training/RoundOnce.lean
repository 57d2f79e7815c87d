/-
# One cooperative round learns at most once

`AtMostOnce` is what a history of calls is to keep: one result, one training
once the result is complete, its return by every later call in which no step
fails, and torn stages and the canonical receipt as they were.  A history keeps
it exactly when every such call finds no more than 256 files, none too long
(`atMostOnce_iff`).

The code bounds the files it meets, and reserves a stage before it trains; but
publishing links the canonical name before it removes the stage.  After 255
torn stages a call that dies between the two leaves 257 files, and the result
is never returned again (`not_forall_atMostOnce`).
-/

import ALife.Training.RoundRecovery

namespace ALife

open Machine Directory Faulted

variable {Handoff Trainer Cohort : Type}

namespace RoundLearner

variable {L : RoundLearner Handoff Trainer Cohort} {w w' : RoundDirectory}
  {plan : CpuCooperativeRoundPlanV1} {name : FileName} {bytes : Bytes} {c : RoundCall}
  {r : CpuCooperativeRoundResultV1 Handoff}

/-- The result of a call. -/
def returned (L : RoundLearner Handoff Trainer Cohort) (w : RoundDirectory) (c : RoundCall) :
    Except RoundError (CpuCooperativeRoundResultV1 Handoff) :=
  resultOf (L.call w c)

/-- The directory after some calls on an empty one. -/
def output (L : RoundLearner Handoff Trainer Cohort) (calls : List RoundCall) : RoundDirectory :=
  L.afterAll emptyOutput calls

/-- What a history of calls keeps when one round learns at most once. -/
structure AtMostOnce (L : RoundLearner Handoff Trainer Cohort) (calls : List RoundCall) :
    Prop where
  /-- All calls that return have the same result. -/
  same : ∀ pre c mid c' post, calls = pre ++ c :: (mid ++ c' :: post) → ∀ r r',
    L.returned (L.output pre) c = .ok r → L.returned (L.output (pre ++ c :: mid)) c' = .ok r' →
    r = r'
  /-- No call trains once a complete result was written. -/
  once : ∀ pre c post, calls = pre ++ c :: post → ∀ r, L.Complete r (L.output pre) →
    (L.output (pre ++ [c])).marks = (L.output pre).marks
  /-- A call in which no step fails returns it. -/
  returns : ∀ pre c post, calls = pre ++ c :: post → ∀ r, L.Complete r (L.output pre) →
    c.plan = r.plan → (∀ k, c.faults k = none) → L.returned (L.output pre) c = .ok r
  /-- Torn stages and the canonical receipt stay. -/
  keeps : ∀ pre c post, calls = pre ++ c :: post → ∀ name bytes,
    (L.output pre).files.get? name = some bytes →
    name = cpuCooperativeRoundResultFile ∨ L.parse bytes = .error .eof →
    (L.output (pre ++ [c])).files.get? name = some bytes
  /-- Whatever a directory holds, what a call returns from it is of its plan. -/
  adopts : ∀ w c r, L.returned w c = .ok r → r.plan.eq c.plan = true

/-! ### One call -/

theorem of_returned (hlawful : L.Lawful) (h : L.returned w c = .ok r) :
    L.Runs c.plan w (L.after w c) ∧ r.plan.eq c.plan = true ∧ L.HoldsResult (L.after w c) r ∧
      Admitted c.plan.payloadSha256 w := by
  have hends : Ends (L.runCpuCooperativeRound c.depth c.suffix c.plan) ⟨w, c.faults, 0⟩ _ _ :=
    RoundLearner.ends_run hlawful
  unfold returned call at h
  unfold after call
  cases hrun : L.runCpuCooperativeRound c.depth c.suffix c.plan ⟨w, c.faults, 0⟩ with
  | ok x t =>
    rw [hrun] at h
    obtain rfl : x = r := Except.ok.inj h
    exact hends.of_ok hrun
  | error e t =>
    rw [hrun] at h
    cases h

theorem runs_after (hlawful : L.Lawful) (w : RoundDirectory) (c : RoundCall) :
    L.Runs c.plan w (L.after w c) := by
  have hends : Ends (L.runCpuCooperativeRound c.depth c.suffix c.plan) ⟨w, c.faults, 0⟩ _ _ :=
    RoundLearner.ends_run hlawful
  exact (hends.mono (fun _ _ h => h.1) fun _ _ h => h).stateAfter

/-- A settled directory returns its result to a call of its plan in which no step fails. -/
theorem Settled.returned (hlawful : L.Lawful) (h : L.Settled r w) (hplan : c.plan = r.plan)
    (hcalm : ∀ k, c.faults k = none) (hadmitted : Admitted r.plan.payloadSha256 w) :
    L.returned w c = .ok r := by
  have hends : Ends (L.runCpuCooperativeRound c.depth c.suffix r.plan) ⟨w, c.faults, 0⟩ _ _ :=
    h.ends_run hlawful hcalm hadmitted
  unfold RoundLearner.returned call
  rw [hplan]
  cases hrun : L.runCpuCooperativeRound c.depth c.suffix r.plan ⟨w, c.faults, 0⟩ with
  | ok x t => exact congrArg _ (hends.of_ok hrun)
  | error e t => exact (hends.of_error hrun).elim

/-! ### What stays -/

/-- Torn stages and the canonical receipt are as they were. -/
def Keeps (L : RoundLearner Handoff Trainer Cohort) (w w' : RoundDirectory) : Prop :=
  ∀ name bytes, w.files.get? name = some bytes →
    name = cpuCooperativeRoundResultFile ∨ L.parse bytes = .error .eof →
    w'.files.get? name = some bytes

theorem Keeps.trans {w'' : RoundDirectory} (h : L.Keeps w w') (h' : L.Keeps w' w'') :
    L.Keeps w w'' := fun name bytes hname hkept => h' name bytes (h name bytes hname hkept) hkept

/-- A file under a new name leaves the others. -/
theorem keeps_withFile (hnew : w.files.contains name = false) :
    L.Keeps w (w.withFile name bytes) := by
  intro k b hk _
  have hne : k ≠ name := by
    rintro rfl
    rw [OrderedMap.contains_eq_false_iff, hk] at hnew
    cases hnew
  exact (OrderedMap.get?_insert_of_ne hne).trans hk

/-- What is taken away was neither torn nor canonical. -/
theorem keeps_withoutFile (hname : w.files.get? name = some bytes)
    (hne : name ≠ cpuCooperativeRoundResultFile) (hparse : L.parse bytes ≠ .error .eof) :
    L.Keeps w (w.withoutFile name) := by
  intro k b hk hkept
  have hne' : k ≠ name := by
    rintro rfl
    rcases hkept with heq | htorn
    · exact hne heq
    · rw [Option.some.inj (hk.symm.trans hname)] at htorn
      exact hparse htorn
  exact (OrderedMap.get?_erase_of_ne hne').trans hk

theorem Finishes.keeps (hname : w.files.get? name = some bytes)
    (hparse : L.parse bytes ≠ .error .eof) (h : Finishes name w w') : L.Keeps w w' := by
  obtain _ | ⟨b, hne, hb, hfree⟩ | ⟨b, hne, hb, hfree⟩ := h
  · exact fun _ _ h _ => h
  · exact keeps_withFile hfree
  · have hlinked : L.Keeps w (w.withFile cpuCooperativeRoundResultFile b) := keeps_withFile hfree
    refine hlinked.trans (keeps_withoutFile ?_ hne hparse)
    exact (OrderedMap.get?_insert_of_ne hne).trans hname

/-- **No call alters or removes a torn stage or the canonical receipt**, whatever the
directory holds. -/
theorem Runs.keeps (hlawful : L.Lawful) (h : L.Runs plan w w') : L.Keeps w w' := by
  have hfound {r : CpuCooperativeRoundResultV1 Handoff} {v v' : RoundDirectory}
      {c : Candidate Handoff} (hfinds : L.Finds r.plan v.files.entries (some c))
      (hfinish : Finishes c.name v v') : L.Keeps v v' := by
    obtain ⟨-, bytes, hname, hparse⟩ := candidate_of_finds hfinds
    exact Finishes.keeps hname (by rw [hparse]; exact fun h => by cases h) hfinish
  obtain _ | ⟨c, _, hfinds, hfinish⟩ | ⟨_, -, -, -, rfl | ⟨r, hlearned, hpublish⟩⟩ := h
  · exact fun _ _ h _ => h
  · obtain ⟨-, bytes, hname, hparse⟩ := candidate_of_finds hfinds
    exact Finishes.keeps hname (by rw [hparse]; exact fun h => by cases h) hfinish
  · exact fun _ _ h _ => h
  · have hmarked : L.Keeps w (marked w plan) := fun _ _ h _ => h
    refine hmarked.trans ?_
    obtain _ | ⟨c, _, hfinds, hfinish⟩ | ⟨name, bytes, -, hnew, -, -⟩ |
      ⟨name, _, -, hnew, hfinish⟩ := hpublish
    · exact fun _ _ h _ => h
    · exact hfound hfinds hfinish
    · exact keeps_withFile hnew
    · refine (keeps_withFile hnew).trans (Finishes.keeps OrderedMap.get?_insert_self ?_ hfinish)
      rw [hlawful.roundTrip _ _ hlearned]
      exact fun h => by cases h

/-! ### Histories -/

theorem output_append (pre : List RoundCall) (c : RoundCall) :
    L.output (pre ++ [c]) = L.after (L.output pre) c := by
  unfold output afterAll
  rw [List.foldl_append]
  rfl

theorem reached_output (hlawful : L.Lawful) (calls : List RoundCall) :
    L.Reached (L.output calls) := by
  induction calls using List.reverseRecOn with
  | nil => exact Or.inl ⟨zeroSha256, fun _ h => absurd h List.not_mem_nil⟩
  | append_singleton pre c ih =>
    rw [output_append]
    exact ih.runs hlawful (runs_after hlawful _ c)

/-- A reached directory with a complete result is settled on it. -/
theorem Reached.settled (hlawful : L.Lawful) (h : L.Reached w) (hcomplete : L.Complete r w) :
    L.Settled r w := by
  obtain ⟨hlearned, e, he, hbytes⟩ := hcomplete
  rcases h with ⟨planDigest, hopen⟩ | ⟨r', hsettled⟩
  · exact absurd hbytes ((hopen e he).2.ne_encode hlawful hlearned)
  · have heq : e.2 = L.encode r' := (hsettled.files e he).of_parse hlawful (x := r)
      (by rw [hbytes, hlawful.roundTrip _ _ hlearned])
    have hparse := hlawful.roundTrip _ _ hsettled.learned
    rw [← heq, hbytes, hlawful.roundTrip _ _ hlearned] at hparse
    rwa [Except.ok.inj hparse]

/-- A directory that holds a result under the canonical name is settled on it. -/
theorem Reached.settled_of_holds (hlawful : L.Lawful) (h : L.Reached w)
    (hholds : L.HoldsResult w r) : L.Settled r w := by
  obtain ⟨bytes, hname, hparse⟩ := hholds
  have hmem := OrderedMap.get?_eq_some_iff.1 hname
  rcases h with ⟨planDigest, hopen⟩ | ⟨r', hsettled⟩
  · rw [(hopen _ hmem).2.parse hlawful] at hparse
    cases hparse
  · have heq : bytes = L.encode r' := (hsettled.files _ hmem).of_parse hlawful hparse
    rw [heq, hlawful.roundTrip _ _ hsettled.learned] at hparse
    rwa [← Except.ok.inj hparse]

/-- Further calls leave a settled directory settled. -/
theorem Settled.afterAll (hlawful : L.Lawful) (h : L.Settled r w) (calls : List RoundCall) :
    L.Settled r (L.afterAll w calls) := by
  induction calls using List.reverseRecOn with
  | nil => exact h
  | append_singleton pre c ih =>
    unfold RoundLearner.afterAll at ih ⊢
    rw [List.foldl_append]
    exact (ih.runs hlawful (runs_after hlawful _ c)).1

/-- Every call that returns finds the result, or leaves it, in all that follows. -/
theorem settled_of_returned (hlawful : L.Lawful) {pre : List RoundCall}
    (h : L.returned (L.output pre) c = .ok r) (post : List RoundCall) :
    L.Settled r (L.output (pre ++ c :: post)) := by
  have hreached := reached_output hlawful (pre ++ [c])
  rw [output_append] at hreached
  have hsettled := hreached.settled_of_holds hlawful (of_returned hlawful h).2.2.1
  have hafter := hsettled.afterAll hlawful post
  have heq : L.output (pre ++ c :: post) = L.afterAll (L.after (L.output pre) c) post := by
    unfold output RoundLearner.afterAll
    rw [List.foldl_append]
    rfl
  rwa [heq]

/-- A directory is settled on one result. -/
theorem Settled.unique (hlawful : L.Lawful) {r' : CpuCooperativeRoundResultV1 Handoff}
    (h : L.Settled r w) (h' : L.Settled r' w) : r = r' := by
  obtain ⟨e, he, hbytes⟩ := h.holds
  have heq := (h'.files e he).of_parse hlawful (x := r)
    (by rw [hbytes, hlawful.roundTrip _ _ h.learned])
  have hparse := hlawful.roundTrip _ _ h'.learned
  rw [← heq, hbytes, hlawful.roundTrip _ _ h.learned] at hparse
  exact Except.ok.inj hparse

/-- What a call finds: no more files than are counted, and none too long. -/
def WithinLimits (w : RoundDirectory) : Prop :=
  w.files.size ≤ maxRoundFiles ∧ ∀ e ∈ w.files.entries, e.2.length ≤ maxRoundBytes

/-- **A history learns at most once exactly when every call of the plan of a complete
result, in which no step fails, finds a directory within the limits.** -/
theorem atMostOnce_iff (hlawful : L.Lawful) (calls : List RoundCall) :
    L.AtMostOnce calls ↔ ∀ pre c post, calls = pre ++ c :: post → ∀ r,
      L.Complete r (L.output pre) → c.plan = r.plan → (∀ k, c.faults k = none) →
        WithinLimits (L.output pre) := by
  constructor
  · intro h pre c post hsplit r hcomplete hplan hcalm
    obtain ⟨-, -, -, hadmitted⟩ :=
      of_returned hlawful (h.returns pre c post hsplit r hcomplete hplan hcalm)
    exact ⟨hadmitted.size_le, hadmitted.length_le⟩
  · intro hlimits
    refine ⟨?_, ?_, ?_, ?_, fun w c r h => (of_returned hlawful h).2.1⟩
    · intro pre c mid c' post _ r r' hr hr'
      have hfirst := settled_of_returned hlawful hr mid
      have hlater := settled_of_returned hlawful hr' []
      rw [output_append] at hlater
      exact ((hfirst.runs hlawful (runs_after hlawful _ c')).1).unique hlawful hlater
    · intro pre c post _ r hcomplete
      have hsettled := (reached_output hlawful pre).settled hlawful hcomplete
      rw [output_append]
      exact (hsettled.runs hlawful (runs_after hlawful _ c)).2
    · intro pre c post hsplit r hcomplete hplan hcalm
      have hsettled := (reached_output hlawful pre).settled hlawful hcomplete
      obtain ⟨hsize, hlength⟩ := hlimits pre c post hsplit r hcomplete hplan hcalm
      exact hsettled.returned hlawful hplan hcalm (hsettled.admitted hlength hsize)
    · intro pre c post _ name bytes hname hkept
      rw [output_append]
      exact (runs_after hlawful _ c).keeps hlawful name bytes hname hkept

end RoundLearner

end ALife
