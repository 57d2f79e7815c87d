/-
# Replacing a cohort

A call of `replace_curated_cohort` as a transaction: what it owes its caller
(`ReplacementCorrect`) and exactly when it keeps that (`ReplacementCondition`).
The commit publishes one admission event for the whole cutover, and the event
validator was written for the admission of one brain: it wants more bytes
committed than before.  A cohort that commits no more than the one it replaces is
submitted, polled and then refused, and the backend is lost with it.
-/

import ALife.Backend.CutoverStaging

namespace ALife

open Machine

/-- No step of the device fails and its flag stays down. -/
structure CutoverFaults.Quiet (faults : CutoverFaults) : Prop where
  lostBeforeSnapshot : faults.lostBeforeSnapshot = false
  plan : faults.refusesSlotPlan = none
  lostAfterSnapshot : faults.lostAfterSnapshot = false
  uploads : ∀ i, faults.refusesUpload i = none
  scrubs : ∀ r, faults.refusesScrub r = none
  initializations : ∀ h, faults.refusesInitialization h = none
  lostAtSubmission : faults.lostAtSubmission = false
  poll : faults.pollFails = false
  lostWhilePolling : faults.lostWhilePolling = false

/-- The device fails at the submission or after it. -/
def CutoverFaults.FailsAfterSubmission (faults : CutoverFaults) : Prop :=
  faults.lostAfterSnapshot = true ∨ faults.lostAtSubmission = true ∨ faults.pollFails = true
    ∨ faults.lostWhilePolling = true

namespace GpuClosedLoopBackend

/-- The residents are the entries of the cohort, in order. -/
def HoldsEntries (b : GpuClosedLoopBackend) (cohort : GpuCuratedResidencyCohort) : Prop :=
  b.classBuckets.residents.map (fun lr => (lr.2.organismId, lr.2.phenotype, lr.2.phenotypeHash))
    = cohort.orderedEntries.map fun e => (e.organismId, e.phenotype, e.exactPhenotypeHash)

/-- What a replacement owes: an accepted cohort on a quiet device is committed; a
failure before the submission is retryable and changes nothing; one from the
submission on loses the backend once and is never committed; and there is at
most one submission. -/
structure ReplacementCorrect (b : GpuClosedLoopBackend) (faults : CutoverFaults)
    (cohort : GpuCuratedResidencyCohort) : Prop where
  commits : b.Accepts cohort → faults.Quiet →
    (∃ receipt, (b.replaceCuratedCohort faults cohort).1 = .committed receipt)
    ∧ (b.replaceCuratedCohort faults cohort).2.backend.HoldsEntries cohort
    ∧ (b.replaceCuratedCohort faults cohort).2.backend.curatedResidencyGeneration
        = b.curatedResidencyGeneration + 1
  submitsOnce : (b.replaceCuratedCohort faults cohort).2.calls.count .submit ≤ 1
  beforeSubmission : CutoverCall.submit ∉ (b.replaceCuratedCohort faults cohort).2.calls →
    (∃ e, (b.replaceCuratedCohort faults cohort).1 = .preSubmitFailure e true)
    ∧ (b.replaceCuratedCohort faults cohort).2.backend = b
  afterSubmission : CutoverCall.submit ∈ (b.replaceCuratedCohort faults cohort).2.calls →
    (∀ receipt, (b.replaceCuratedCohort faults cohort).1 ≠ .committed receipt) →
    (b.replaceCuratedCohort faults cohort).2.calls.count .markDeviceLost = 1
    ∧ (b.replaceCuratedCohort faults cohort).2.backend.state = .deviceLost
  neverCommitted : faults.FailsAfterSubmission →
    ∀ receipt, (b.replaceCuratedCohort faults cohort).1 ≠ .committed receipt

/-- When a replacement keeps what it owes: no loss of the device is seen before
the submission, and an accepted cohort on a quiet device meets no pending
eligibility and no slot at its last generation, and moves the counts as the
admission of one brain does. -/
structure ReplacementCondition (b : GpuClosedLoopBackend) (faults : CutoverFaults)
    (cohort : GpuCuratedResidencyCohort) : Prop where
  seesNoLoss : faults.lostBeforeSnapshot = false
  failsUnlost : ¬b.Stageable faults cohort → faults.lostAfterSnapshot = false
  mayCommit : b.Accepts cohort → faults.Quiet →
    b.Unobstructed cohort ∧ b.CommitReady cohort.orderedEntries.length

variable {b : GpuClosedLoopBackend} {faults : CutoverFaults} {cohort : GpuCuratedResidencyCohort}

theorem Stageable.of_quiet (hquiet : faults.Quiet) (haccepts : b.Accepts cohort)
    (h : b.Unobstructed cohort) : b.Stageable faults cohort :=
  ⟨haccepts, h, ⟨hquiet.plan, fun i _ => hquiet.uploads i, fun r _ => hquiet.scrubs r,
    fun s _ => hquiet.initializations s.handle⟩⟩

/-- The budgets that accept a cohort allow it alone. -/
theorem Accepts.budgetsAllow (h : b.Accepts cohort) :
    CuratedBackendPort.BudgetsAllow b cohort.orderedEntries.length := by
  have hbudgets := h.budgets
  simp only [withinBudgets, Bool.and_eq_true, Option.any_eq_true, checkedAdd_eq_some_iff,
    residencySnapshot] at hbudgets
  obtain ⟨⟨⟨_, ⟨rfl, hlive⟩, hmax⟩, _, ⟨rfl, -⟩, hlogical⟩, _, ⟨rfl, hfits⟩, hphysical⟩ := hbudgets
  have hmax := of_decide_eq_true hmax
  have hlogical := of_decide_eq_true hlogical
  have hphysical := of_decide_eq_true hphysical
  refine ⟨by omega, by omega, fun hbytes => ?_, by omega, by omega⟩
  have hcommit : saturatingMul 64 (b.slotLayout n512Id).logicalSlotCommitBytes
      cohort.orderedEntries.length = cohort.orderedEntries.length * b.n512CommitBytes := by
    rw [saturatingMul, Nat.mul_comm]
    exact Nat.min_eq_left (Nat.le_sub_one_of_lt hbytes)
  omega

end GpuClosedLoopBackend

namespace CuratedBackendPort

open GpuClosedLoopBackend

variable {b : GpuClosedLoopBackend} {faults : CutoverFaults} {cohort : GpuCuratedResidencyCohort}
  {p : CuratedBackendPort}

theorem update_ends {f : GpuClosedLoopBackend → Contract GpuClosedLoopBackend} {calls : List CutoverCall}
    (h : p.calls = calls) :
    Ends (update f) p (fun _ t => t.calls = calls) (fun _ t => t.calls = calls) := by
  unfold Ends update
  cases f p.backend <;> exact h

/-- A commit logs nothing, however it ends. -/
theorem commit_ends {reservations : List CuratedResidencySlotState}
    {staged : List PreparedCuratedBackendEntry} {receipt : GpuCuratedResidencyReceipt}
    {calls : List CutoverCall} (h : p.calls = calls) :
    Ends (commit cohort reservations staged receipt) p (fun _ t => t.calls = calls)
      (fun _ t => t.calls = calls) := by
  refine (update_ends h).bind fun _ t ht => Ends.bind (Q := fun _ t => t.calls = calls) ?_
    fun _ t ht => (update_ends ht).bind fun _ t ht => (update_ends ht).bind fun _ t ht =>
      update_ends ht
  refine (ends_forM (I := fun t => t.calls = calls) (E := fun _ t => t.calls = calls)
    (C := fun _ => True) (fun rs _ t ht => ?_) ht).mono (fun _ _ h => h.1) fun _ _ h => h
  exact (update_ends ht).mono (fun _ _ h => ⟨h, trivial⟩) fun _ _ h => h

/-- What staging hands over is what the commit is promised. -/
theorem staged_planFor (haccepts : b.Accepts cohort) :
    Staged b (b.planFor cohort).reservations (b.planFor cohort).staged
      (cohortReceipt cohort (b.planFor cohort)) := by
  obtain ⟨c, hvalid⟩ := haccepts.valid
  obtain ⟨hnonempty, -⟩ := of_validateCuratedResidencyCohort hvalid
  have hlength := length_reservationsFor haccepts.slots
  have hstaged : (b.stagedFor cohort).length = cohort.orderedEntries.length := by
    rw [stagedFor, List.length_map, List.length_zip, hlength, Nat.min_self]
  refine ⟨?_, hlength.trans hstaged.symm, ?_, ?_, ?_, ?_, ?_, ?_⟩
  · intro hnil
    have hnil : b.reservationsFor cohort = [] := hnil
    rw [hnil] at hlength
    exact hnonempty (List.length_eq_zero_iff.1 hlength.symm)
  · simp only [cohortReceipt, planFor, stagedFor, List.map_map]
    refine List.map_congr_left fun er her => ?_
    have hclass := (of_mem_reservationsFor (List.of_mem_zip her).2).1
    rw [Function.comp_apply, Function.comp_apply, preparedFor, hclass]
    rfl
  · rintro ⟨row, s⟩ hmem
    obtain ⟨i, hi, hget⟩ := List.mem_iff_getElem.1 hmem
    rw [List.getElem_zip] at hget
    obtain ⟨rfl, rfl⟩ := Prod.mk.inj hget
    simp only [planFor, stagedFor, List.getElem_map, List.getElem_zip]
    exact ⟨rfl, rfl⟩
  · exact fun row hrow => (of_mem_reservationsFor hrow).2.1
  · have hsub : (b.freeRows.take cohort.orderedEntries.length).Sublist b.slotStates :=
      (List.take_sublist _ _).trans List.filter_sublist
    rw [← map_location_slotStates]
    exact (map_location_reservationsFor b cohort) ▸ hsub.map _
  · exact fun row hrow => (of_mem_reservationsFor hrow).1
  · intro s hs
    obtain ⟨⟨entry, row⟩, her, rfl⟩ := List.mem_map.1 hs
    obtain ⟨hclass, -, hgeneration⟩ := of_mem_reservationsFor (List.of_mem_zip her).2
    exact ⟨hclass, hgeneration⟩

/-- The residents placed for a cohort are its entries. -/
theorem holdsEntries_of_placed {b' : GpuClosedLoopBackend} (haccepts : b.Accepts cohort)
    (h : b'.classBuckets.residents = ((b.planFor cohort).reservations.map (·.location)).zip
      ((b.planFor cohort).staged.map (·.resident))) : b'.HoldsEntries cohort := by
  have hlength := length_reservationsFor haccepts.slots
  have hstaged := (staged_planFor haccepts).length
  rw [HoldsEntries, h]
  calc (((b.planFor cohort).reservations.map (·.location)).zip
        ((b.planFor cohort).staged.map (·.resident))).map
          (fun lr => (lr.2.organismId, lr.2.phenotype, lr.2.phenotypeHash))
      = ((((b.planFor cohort).reservations.map (·.location)).zip
          ((b.planFor cohort).staged.map (·.resident))).map Prod.snd).map
            (fun r => (r.organismId, r.phenotype, r.phenotypeHash)) := by
        rw [List.map_map]
        rfl
    _ = ((b.planFor cohort).staged.map (·.resident)).map
          (fun r => (r.organismId, r.phenotype, r.phenotypeHash)) := by
        rw [List.map_snd_zip (by rw [List.length_map, List.length_map, hstaged])]
    _ = ((cohort.orderedEntries.zip (b.reservationsFor cohort)).map Prod.fst).map
          (fun e => (e.organismId, e.phenotype, e.exactPhenotypeHash)) := by
        simp only [planFor, stagedFor, List.map_map]
        rfl
    _ = cohort.orderedEntries.map fun e => (e.organismId, e.phenotype, e.exactPhenotypeHash) := by
        rw [List.map_fst_zip hlength.ge]

theorem with_lost (hlost : b.lost = false) :
    ({ b with lost := false } : GpuClosedLoopBackend) = b := by
  rw [← hlost]

/-- The submission: logged, and failing when the flag is up. -/
theorem submitOnce_ends (hlost : b.lost = false) (hp : Reading b faults.lostAfterSnapshot p)
    (hencoder : p.encoder = true) :
    Ends (submitOnce faults) p
      (fun _ t => t.backend = b ∧ t.submitted = true ∧ t.calls = [.submit]
        ∧ faults.lostAfterSnapshot = false ∧ faults.lostAtSubmission = false)
      (fun _ t => t.calls = [.submit] ∧ faults.FailsAfterSubmission) := by
  unfold Ends submitOnce
  rw [if_neg (by rw [hp.submitted]; exact Bool.noConfusion),
    if_neg (by rw [hencoder]; exact Bool.noConfusion)]
  simp only [raiseLost, hp.backend, hp.calls, List.nil_append]
  rcases hafter : faults.lostAfterSnapshot with _ | _
  · rcases hat : faults.lostAtSubmission with _ | _
    · exact ⟨with_lost hlost, rfl, rfl, rfl, rfl⟩
    · exact ⟨rfl, Or.inr (Or.inl hat)⟩
  · exact ⟨rfl, Or.inl hafter⟩

/-- The wait for the submission. -/
theorem pollCompletion_ends (hlost : b.lost = false) (hp : p.backend = b)
    (hsubmitted : p.submitted = true) (hcalls : p.calls = [.submit]) :
    Ends (pollCompletion faults) p
      (fun _ t => t.backend = b ∧ t.calls = [.submit]
        ∧ faults.pollFails = false ∧ faults.lostWhilePolling = false)
      (fun _ t => t.calls = [.submit] ∧ faults.FailsAfterSubmission) := by
  unfold Ends pollCompletion
  simp only [raiseLost, hp, hsubmitted, hlost, Bool.false_or]
  rcases hpoll : faults.pollFails with _ | _
  · rcases hwhile : faults.lostWhilePolling with _ | _
    · exact ⟨with_lost hlost, hcalls, rfl, rfl⟩
    · simp [hcalls, CutoverFaults.FailsAfterSubmission, hwhile]
  · simp [hcalls, CutoverFaults.FailsAfterSubmission, hpoll]

/-- **From the submission on**: one submission is logged, and the cohort is
committed exactly when no step fails and the backend is ready to commit it. -/
theorem submit_ends (hlost : b.lost = false) (haccepts : b.Accepts cohort)
    (hp : Reading b faults.lostAfterSnapshot p) (hencoder : p.encoder = true) :
    Ends ((port faults).submit cohort (b.planFor cohort)) p
      (fun _ t => t.calls = [.submit] ∧ ¬faults.FailsAfterSubmission
        ∧ b.CommitReady cohort.orderedEntries.length ∧ t.backend.HoldsEntries cohort
        ∧ t.backend.curatedResidencyGeneration = b.curatedResidencyGeneration + 1)
      (fun _ t => t.calls = [.submit] ∧ (faults.FailsAfterSubmission
        ∨ ¬b.CommitReady cohort.orderedEntries.length)) := by
  have hlength : (b.planFor cohort).reservations.length = cohort.orderedEntries.length :=
    length_reservationsFor haccepts.slots
  refine Ends.bind ((submitOnce_ends hlost hp hencoder).mono (fun _ _ h => h)
    fun _ t h => ⟨h.1, Or.inl h.2⟩) ?_
  rintro _ p₁ ⟨hb₁, hsubmitted, hcalls₁, hafter, hat⟩
  refine Ends.bind ((pollCompletion_ends hlost hb₁ hsubmitted hcalls₁).mono (fun _ _ h => h)
    fun _ t h => ⟨h.1, Or.inl h.2⟩) ?_
  rintro _ p₂ ⟨rfl, hcalls₂, hpoll, hwhile⟩
  have hnofail : ¬faults.FailsAfterSubmission := by
    simp [CutoverFaults.FailsAfterSubmission, hafter, hat, hpoll, hwhile]
  have hbudgets := haccepts.budgetsAllow
  rw [← hlength] at hbudgets
  obtain ⟨hiff, hpost⟩ := commit_iff (staged_planFor haccepts) hbudgets
  rw [hlength] at hiff
  have hends : Ends (commit cohort (p₂.backend.planFor cohort).reservations
      (p₂.backend.planFor cohort).staged (cohortReceipt cohort (p₂.backend.planFor cohort))) p₂
      (fun _ t => t.calls = [.submit] ∧ p₂.backend.CommitReady cohort.orderedEntries.length
        ∧ t.backend.HoldsEntries cohort
        ∧ t.backend.curatedResidencyGeneration = p₂.backend.curatedResidencyGeneration + 1)
      (fun _ t => t.calls = [.submit] ∧ ¬p₂.backend.CommitReady cohort.orderedEntries.length) := by
    refine ends_iff.2 ⟨fun _ t ht => ?_, fun e t ht => ?_⟩
    · obtain ⟨-, -, hgeneration, hresidents⟩ := hpost t ht
      exact ⟨(commit_ends hcalls₂).of_ok ht, hiff.1 ⟨t, ht⟩,
        holdsEntries_of_placed haccepts hresidents, hgeneration⟩
    · refine ⟨(commit_ends hcalls₂).of_error ht, fun hready => ?_⟩
      obtain ⟨t', ht'⟩ := hiff.2 hready
      rw [ht] at ht'
      cases ht'
  refine Ends.bind (hends.mono (fun _ _ h => h) fun _ t h => ⟨h.1, Or.inr h.2⟩) ?_
  rintro _ t ⟨hcalls, hready, hholds, hgeneration⟩
  exact ends_pure ⟨hcalls, hnofail, hready, hholds, hgeneration⟩

end CuratedBackendPort

namespace GpuClosedLoopBackend

open CuratedBackendPort

variable {b : GpuClosedLoopBackend} {faults : CutoverFaults} {cohort : GpuCuratedResidencyCohort}

theorem replaceCuratedCohort_of_ready (hstate : b.state = .ready) (hlost : b.lost = false) :
    b.replaceCuratedCohort faults cohort
      = (port faults).runCuratedResidencyTransaction cohort (CuratedBackendPort.new b) := by
  have hready : (CuratedBackendPort.new b).ensureReady = (.ok (), CuratedBackendPort.new b) := by
    simp [CuratedBackendPort.ensureReady, CuratedBackendPort.new, hlost, hstate, reject]
  rw [replaceCuratedCohort, hready]

/-- How a replacement ends: refused while staging, submitted and lost, or
committed. -/
theorem replaceCuratedCohort_cases (hstate : b.state = .ready) (hlost : b.lost = false) :
    (∃ (e : ScaffoldContractError) (p : CuratedBackendPort), StagingFails b faults cohort e p
      ∧ b.replaceCuratedCohort faults cohort = classifyPreSubmit e p)
    ∨ (∃ (e : ScaffoldContractError) (p : CuratedBackendPort),
      faults.lostBeforeSnapshot = false ∧ b.Stageable faults cohort ∧ p.calls = [.submit]
      ∧ (faults.FailsAfterSubmission ∨ ¬b.CommitReady cohort.orderedEntries.length)
      ∧ b.replaceCuratedCohort faults cohort = (.unknown e true, p.markUnknown))
    ∨ ∃ (receipt : GpuCuratedResidencyReceipt) (p : CuratedBackendPort),
      faults.lostBeforeSnapshot = false ∧ b.Stageable faults cohort
      ∧ p.calls = [.submit] ∧ ¬faults.FailsAfterSubmission
      ∧ b.CommitReady cohort.orderedEntries.length ∧ p.backend.HoldsEntries cohort
      ∧ p.backend.curatedResidencyGeneration = b.curatedResidencyGeneration + 1
      ∧ b.replaceCuratedCohort faults cohort = (.committed receipt, p) := by
  rw [replaceCuratedCohort_of_ready hstate hlost]
  unfold CuratedResidencyTransactionPort.runCuratedResidencyTransaction
  have hstage := @stage_ends b faults cohort hstate hlost
  rcases hs : (port faults).stage cohort (CuratedBackendPort.new b) with ⟨plan, p⟩ | ⟨e, p⟩
  · obtain ⟨hbefore, hstageable, rfl, hp, hencoder⟩ := hstage.of_ok hs
    have hsubmit := submit_ends hlost hstageable.accepts hp hencoder
    right
    dsimp only
    rcases ht : (port faults).submit cohort (b.planFor cohort) p with ⟨receipt, t⟩ | ⟨e, t⟩
    · obtain ⟨hcalls, hnofail, hready, hholds, hgeneration⟩ := hsubmit.of_ok ht
      exact Or.inr ⟨receipt, t, hbefore, hstageable, hcalls, hnofail, hready, hholds, hgeneration,
        rfl⟩
    · obtain ⟨hcalls, hfails⟩ := hsubmit.of_error ht
      exact Or.inl ⟨e, t, hbefore, hstageable, hcalls, hfails, rfl⟩
  · exact Or.inl ⟨e, p, hstage.of_error hs, rfl⟩

/-- A failure to stage is classified: with the flag up it is unknown, and
otherwise the cohort was not stageable and nothing has changed. -/
theorem classify_of_stagingFails {e : ScaffoldContractError} {p : CuratedBackendPort}
    (h : StagingFails b faults cohort e p) (hstate : b.state = .ready) :
    (p.backend.lost = true ∧ classifyPreSubmit e p = (.unknown e true, p.markUnknown)
      ∧ (faults.lostBeforeSnapshot = false →
        ¬b.Stageable faults cohort ∧ faults.lostAfterSnapshot = true))
    ∨ (faults.lostBeforeSnapshot = false ∧ faults.lostAfterSnapshot = false
      ∧ ¬b.Stageable faults cohort ∧ p.backend = { b with lost := false } ∧ p.calls = []
      ∧ classifyPreSubmit e p = (.preSubmitFailure e true, p)) := by
  obtain ⟨-, ⟨hbefore, hlost⟩ | ⟨hbefore, hnot, hp⟩⟩ := h
  · refine Or.inl ⟨hlost, ?_, fun hfalse => absurd hfalse (by rw [hbefore]; decide)⟩
    rw [classifyPreSubmit, if_pos (Or.inl hlost)]
  · have hplost : p.backend.lost = faults.lostAfterSnapshot := by rw [hp.backend]
    have hpstate : p.backend.state = .ready := by rw [hp.backend]; exact hstate
    rcases hafter : faults.lostAfterSnapshot with _ | _
    · refine Or.inr ⟨hbefore, rfl, hnot, hafter ▸ hp.backend, hp.calls, ?_⟩
      rw [classifyPreSubmit, if_neg (by rw [hplost, hafter, hpstate]; simp)]
      rfl
    · refine Or.inl ⟨hplost.trans hafter, ?_, fun _ => ⟨hnot, rfl⟩⟩
      rw [classifyPreSubmit, if_pos (Or.inl (hplost.trans hafter))]

/-- **The condition is enough.** -/
theorem ReplacementCorrect.of_condition (hstate : b.state = .ready) (hlost : b.lost = false)
    (h : b.ReplacementCondition faults cohort) : b.ReplacementCorrect faults cohort := by
  rcases @replaceCuratedCohort_cases b faults cohort hstate hlost with
    ⟨e, p, hfails, hresult⟩ | ⟨e, p, hbefore, hstageable, hcalls, hfails, hresult⟩
      | ⟨receipt, p, hbefore, hstageable, hcalls, hnofail, hready, hholds, hgeneration, hresult⟩
  · rcases classify_of_stagingFails hfails hstate with
      ⟨-, -, hlate⟩ | ⟨-, -, hnot, hbackend, hcalls, hclassify⟩
    · obtain ⟨hnot, hafter⟩ := hlate h.seesNoLoss
      exact absurd (h.failsUnlost hnot) (by rw [hafter]; decide)
    · rw [hclassify] at hresult
      refine ⟨fun ha hq => ?_, ?_, fun _ => ?_, fun hmem => ?_, fun _ => ?_⟩
      · exact absurd (Stageable.of_quiet hq ha (h.mayCommit ha hq).1) hnot
      · rw [hresult, hcalls]
        decide
      · rw [hresult, hbackend]
        exact ⟨⟨e, rfl⟩, with_lost hlost⟩
      · rw [hresult, hcalls] at hmem
        cases hmem
      · simp [hresult]
  · have hlog : p.markUnknown.calls = [.submit, .markDeviceLost] := by
      rw [markUnknown, hcalls]
      rfl
    refine ⟨fun ha hq => ?_, ?_, fun hmem => ?_, fun _ _ => ?_, fun _ => ?_⟩
    · have hnofail : ¬faults.FailsAfterSubmission := by
        simp [CutoverFaults.FailsAfterSubmission, hq.lostAfterSnapshot, hq.lostAtSubmission,
          hq.poll, hq.lostWhilePolling]
      rcases hfails with hfails | hnot
      · exact absurd hfails hnofail
      · exact absurd (h.mayCommit ha hq).2 hnot
    · rw [hresult, hlog]
      decide
    · refine absurd ?_ hmem
      rw [hresult, hlog]
      decide
    · rw [hresult, hlog]
      exact ⟨by decide, rfl⟩
    · simp [hresult]
  · refine ⟨fun _ _ => ?_, ?_, fun hmem => ?_, fun _ hnever => ?_, fun hfail => ?_⟩
    · rw [hresult]
      exact ⟨⟨receipt, rfl⟩, hholds, hgeneration⟩
    · rw [hresult, hcalls]
      decide
    · refine absurd ?_ hmem
      rw [hresult, hcalls]
      decide
    · exact absurd (by rw [hresult]) (hnever receipt)
    · exact absurd hfail hnofail

/-- **The condition is needed.** -/
theorem ReplacementCorrect.condition (hstate : b.state = .ready) (hlost : b.lost = false)
    (h : b.ReplacementCorrect faults cohort) : b.ReplacementCondition faults cohort := by
  rcases @replaceCuratedCohort_cases b faults cohort hstate hlost with
    ⟨e, p, hfails, hresult⟩ | ⟨e, p, hbefore, hstageable, hcalls, hfails, hresult⟩
      | ⟨receipt, p, hbefore, hstageable, hcalls, hnofail, hready, hholds, hgeneration, hresult⟩
  · rcases classify_of_stagingFails hfails hstate with
      ⟨-, hclassify, -⟩ | ⟨hbefore, hafter, hnot, -, -, hclassify⟩
    · rw [hclassify] at hresult
      have hmem : CutoverCall.submit ∉ (b.replaceCuratedCohort faults cohort).2.calls := by
        rw [hresult]
        simpa [markUnknown] using hfails.1
      obtain ⟨⟨e', he'⟩, -⟩ := h.beforeSubmission hmem
      rw [hresult] at he'
      cases he'
    · rw [hclassify] at hresult
      refine ⟨hbefore, fun _ => hafter, fun ha hq => ?_⟩
      obtain ⟨⟨receipt, hreceipt⟩, -⟩ := h.commits ha hq
      rw [hresult] at hreceipt
      cases hreceipt
  · refine ⟨hbefore, fun hnot => absurd hstageable hnot, fun ha hq => ?_⟩
    obtain ⟨⟨receipt, hreceipt⟩, -⟩ := h.commits ha hq
    rw [hresult] at hreceipt
    cases hreceipt
  · exact ⟨hbefore, fun hnot => absurd hstageable hnot,
      fun _ _ => ⟨hstageable.unobstructed, hready⟩⟩

/-- **A replacement keeps what it owes exactly under its condition.** -/
theorem replaceCuratedCohort_correct_iff (hstate : b.state = .ready) (hlost : b.lost = false) :
    b.ReplacementCorrect faults cohort ↔ b.ReplacementCondition faults cohort :=
  ⟨ReplacementCorrect.condition hstate hlost, ReplacementCorrect.of_condition hstate hlost⟩

/-! ### Two backends of one chunk -/

/-- A device that never fails. -/
def quietFaults : CutoverFaults where
  lostBeforeSnapshot := false
  refusesSlotPlan := none
  lostAfterSnapshot := false
  refusesUpload _ := none
  refusesScrub _ := none
  refusesInitialization _ := none
  lostAtSubmission := false
  pollFails := false
  lostWhilePolling := false

theorem quiet_quietFaults : quietFaults.Quiet :=
  ⟨rfl, rfl, rfl, fun _ => rfl, fun _ => rfl, fun _ => rfl, rfl, rfl, rfl⟩

/-- A foundation digest. -/
def sampleFoundation : Blake3Digest := ⟨Vector.replicate 32 1⟩

/-- A phenotype of the class N512. -/
def samplePhenotype : ResidentPhenotype where
  brainClassId := n512Id
  sensorProfile := 0
  phenotypeHash := ⟨5, 0, 0, 0⟩
  foundationPayloadDigest := some sampleFoundation
  valid := true

/-- A cohort of one organism. -/
def sampleCohort : GpuCuratedResidencyCohort where
  expectedOldGeneration := 0
  newGenerationFingerprint := ⟨1, 2, 3, 4⟩
  orderedEntries := [⟨⟨8⟩, 8, samplePhenotype, ⟨5, 0, 0, 0⟩, sampleFoundation⟩]

/-- A chunk of two slots. -/
def sampleChunk (first : Option ResidentBrainSlot) (freeSlots : List ℕ) : ClassBucketRuntime where
  plan := ⟨2, 40⟩
  authority := ⟨false, false⟩
  slots := [first, none]
  generations := [1, 0]
  retired := []
  freeSlots := freeSlots
  length_slots := rfl

/-- A ready backend of one chunk, its receipt still empty. -/
def sampleBackend (first : Option ResidentBrainSlot) (freeSlots : List ℕ)
    (organisms : OrderedMap ℕ GpuBrainHandle) : GpuClosedLoopBackend where
  backendInstanceId := 1
  state := .ready
  lost := false
  slotLayout _ := ⟨100, 28, by decide⟩
  runtimeBudget := ⟨1000, 1000, 4⟩
  hardwareGeneration := 1
  classBuckets := ⟨[(n512Id, [sampleChunk first freeSlots])], List.pairwise_singleton _ _⟩
  organisms := organisms
  slotGenerationWatermarks := ⟨[(toLex (n512Id, 0), 1)], List.pairwise_singleton _ _⟩
  admission := .empty ⟨1000, 1000, 4⟩
  curatedResidencyGeneration := 0
  curatedResidencyGenerationFingerprint := Digest256.zero

/-- The handle of the first slot's resident. -/
def sampleHandle : GpuBrainHandle := ⟨1, n512Id, 0, 1, ⟨7⟩, ⟨5, 0, 0, 0⟩⟩

/-- A brain in the first slot, admitted with its chunk. -/
def heldBackend : GpuClosedLoopBackend :=
  let b := sampleBackend (some ⟨⟨7⟩, ⟨5, 0, 0, 0⟩, 0, samplePhenotype, 1, false, false⟩) [1]
    ⟨[(7, sampleHandle)], List.pairwise_singleton _ _⟩
  { b with admission := { b.receiptAfter 296 with
      lastEvent := some (b.eventAfter .admitFromNewChunk sampleHandle 296) } }

/-- The chunk after that brain was removed, retained empty. -/
def retainedBackend : GpuClosedLoopBackend :=
  let b := { sampleBackend none [1, 0] ∅ with admission := heldBackend.admission }
  { b with admission := { b.receiptAfter 296 with
      lastEvent := some (b.eventAfter .releaseToRetainedSlot sampleHandle 296) } }

theorem accepts_heldBackend : heldBackend.Accepts sampleCohort :=
  ⟨⟨n512Id, by decide⟩, by decide, by decide⟩

/-- One brain in place of one brain: the counts do not move, and the backend is
lost after the submission. -/
theorem not_replacementCorrect_heldBackend :
    ¬heldBackend.ReplacementCorrect quietFaults sampleCohort := by
  intro h
  have hcondition := h.condition rfl rfl
  have hready := (hcondition.mayCommit accepts_heldBackend quiet_quietFaults).2
  exact absurd hready.moves.logical (by decide)

/-- The same cohort over the retained empty chunk is committed. -/
theorem replaceCuratedCohort_correct_retained :
    retainedBackend.ReplacementCorrect quietFaults sampleCohort := by
  refine (replaceCuratedCohort_correct_iff rfl rfl).2 ⟨rfl, fun _ => rfl, fun _ _ => ⟨?_, ?_⟩⟩
  · refine ⟨by decide, fun receipt hreceipt => ?_⟩
    have hnil : retainedBackend.oldResidents = [] := rfl
    rw [hnil] at hreceipt
    cases hreceipt
  · exact ⟨by decide, by decide, by decide, ⟨by decide, by decide, by decide⟩⟩

end GpuClosedLoopBackend

end ALife
