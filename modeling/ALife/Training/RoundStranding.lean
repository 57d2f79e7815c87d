/-
# How a result is stranded

A call can die so that it leaves one more torn stage (`after_tearing`), and so
that its result is linked and its stage not yet removed (`after_linking`).  From
255 torn stages the second leaves 257 files, more than a later inventory takes,
and the result is never returned again: no plan that learns a result keeps
`AtMostOnce` in every history (`exists_not_atMostOnce`).
-/

import ALife.Machine.FaultedSteps
import ALife.Training.RoundOnce

namespace ALife

open Machine Directory Faulted

variable {Handoff Trainer Cohort : Type}

namespace RoundLearner

variable {L : RoundLearner Handoff Trainer Cohort} {w w' : RoundDirectory}
  {plan : CpuCooperativeRoundPlanV1} {name : FileName} {depth n : ℕ} {suffix : List Char}
  {r : CpuCooperativeRoundResultV1 Handoff}

/-! ### Where a call dies -/

theorem takes_absent (hnew : w.files.contains name = false) :
    Takes (observe fun d : RoundDirectory =>
      if d.files.contains name then .error (FromIo.io .alreadyExists)
      else (.ok () : Except RoundError Unit)) w 0 () w := by
  refine takes_observe ?_
  rw [if_neg (by rw [hnew]; exact Bool.false_ne_true)]

theorem takes_createNew (hnew : w.files.contains name = false) :
    Takes (createNew name : RoundM Unit) w 1 () (w.withFile name []) := by
  unfold createNew
  refine Takes.bind (n := 1) (m := 0) (takes_access w) ?_
  exact Takes.bind (n := 0) (m := 0) (takes_absent hnew) (takes_change (withFile name []) w)

theorem takes_hardLink {source destination : FileName} {bytes : Bytes}
    (hsource : w.files.get? source = some bytes) (hnew : w.files.contains destination = false) :
    Takes (hardLink source destination : RoundM Unit) w 1 () (w.withFile destination bytes) := by
  have hread : Takes (observe fun d : RoundDirectory => d.fileOrNotFound source :
      RoundM Bytes) w 0 bytes w := takes_observe (fileOrNotFound_eq_ok_iff.2 hsource)
  unfold hardLink
  refine Takes.bind (n := 1) (m := 0) (takes_access w) ?_
  refine Takes.bind (n := 0) (m := 0) hread ?_
  exact Takes.bind (n := 0) (m := 0) (takes_absent hnew)
    (takes_change (withFile destination bytes) w)

/-- A call dies where it publishes, when it has found nothing. -/
theorem dies_run (hlearned : L.learned plan = .ok r) (hadmitted : Admitted plan.payloadSha256 w)
    (hfinds : L.Finds plan w.files.entries none) (hroom : w.files.size < maxRoundFiles)
    (h : Dies (L.stageResult depth suffix (w.files.mapValues L.artifactOf) r) (marked w plan) w') :
    Dies (L.runCpuCooperativeRound depth suffix plan) w w' := by
  obtain ⟨round, hround, hlearn⟩ := (learned_eq_ok_iff (w := w)).1 hlearned
  obtain ⟨hvalid, -, hverify⟩ := value_prepareRound_eq_ok_iff.1 hround
  obtain ⟨rfl, hresult⟩ := of_learn hlearn
  have hinspect : value (L.inspect r.plan) w = .ok (w.files.mapValues L.artifactOf, none) :=
    value_inspect_eq_ok_iff.2 ⟨hadmitted, hfinds, fun _ => hroom, rfl⟩
  have hinspect' : value (L.inspect r.plan) (marked w r.plan) =
      .ok (w.files.mapValues L.artifactOf, none) :=
    value_inspect_eq_ok_iff.2
      ⟨⟨hadmitted.name, hadmitted.length_le, hadmitted.size_le⟩, hfinds, fun _ => hroom, rfl⟩
  have hrecover : ∃ k, Takes (L.recoverRoundResult depth r.plan) w k none w := by
    obtain ⟨k, hk⟩ := Observes.takes w _ hinspect
    unfold recoverRoundResult ownedRoot
    exact ⟨_, (takes_ofResult hvalid).bind (((takes_access w).bind (takes_access w)).bind
      (hk.bind (takes_pure none w)))⟩
  obtain ⟨k, hk⟩ := hrecover
  unfold runCpuCooperativeRound
  refine Dies.observing hround (Dies.after hk ?_)
  unfold learnAndPublish
  refine Dies.after (takes_change _ w) ?_
  refine Dies.observing (a := r) (by rwa [value_ofResult]) ?_
  refine Dies.observing (value_access _) (Dies.observing (a := ()) (by rwa [value_ofResult]) ?_)
  refine Dies.first ?_
  unfold publishRoundResult ownedRoot
  refine Dies.observing (a := ()) (by rwa [value_ofResult]) ?_
  exact Dies.observing (a := ()) (by simp) (Dies.observing hinspect' h)

/-- It can die where it writes its stage, which is then empty. -/
theorem dies_writing (hname : roundStageName r.plan suffix = .ok name)
    (hnew : w.files.contains name = false) (files : Inventory) :
    Dies (L.stageResult depth suffix files r) w (w.withFile name []) := by
  have hcut : withFile name (cutAt 0 (L.encode r)) (w.withFile name []) = w.withFile name [] := by
    rw [withFile_withFile, cutAt, Nat.zero_min, List.take_zero]
  unfold stageResult writePending
  refine Dies.observing (a := name) (by rwa [value_ofResult]) (Dies.first ?_)
  refine Dies.after (takes_createNew hnew) (Dies.first ?_)
  have hdies := dies_cutting (ε := RoundError) (withFile name (L.encode r))
    (fun k => withFile name (cutAt k (L.encode r))) (w.withFile name [])
  rwa [hcut] at hdies

/-- It can die where it has linked its stage and not yet removed it. -/
theorem dies_linking (hlawful : L.Lawful) (hlearned : L.learned r.plan = .ok r)
    (hlength : (L.encode r).length ≤ maxRoundBytes)
    (hname : roundStageName r.plan suffix = .ok name) (hnew : w.files.contains name = false)
    (hadmitted : Admitted r.plan.payloadSha256 (w.withFile name (L.encode r)))
    (hfree : w.files.contains cpuCooperativeRoundResultFile = false) :
    Dies (L.stageResult depth suffix (w.files.mapValues L.artifactOf) r) w
      ((w.withFile name (L.encode r)).withFile cpuCooperativeRoundResultFile (L.encode r)) := by
  obtain ⟨round, hround, hlearn⟩ := (learned_eq_ok_iff (w := w)).1 hlearned
  have hvalid := (value_prepareRound_eq_ok_iff.1 hround).1
  have hstage := isStage_of_roundStageName hname
  have hne := ne_canonical_of_isStage hstage
  have hfile : (w.withFile name (L.encode r)).files.get? name = some (L.encode r) :=
    OrderedMap.get?_insert_self
  have hfingerprint (sync : Bool) : value (L.fingerprint name sync)
      (w.withFile name (L.encode r)) = .ok (L.artifactOf (L.encode r)) :=
    value_fingerprint_eq_ok_iff.2 ⟨_, hfile, rfl⟩
  have hfiles : (w.files.mapValues L.artifactOf).insert name (L.artifactOf (L.encode r)) =
      (w.withFile name (L.encode r)).files.mapValues L.artifactOf :=
    (OrderedMap.mapValues_insert _).symm
  have hpending : ∃ k, Takes (L.writePending name r) w k () (w.withFile name (L.encode r)) := by
    have hwrite := takes_cutting (ε := RoundError) (withFile name (L.encode r))
      (fun k => withFile name (cutAt k (L.encode r))) (w.withFile name [])
    rw [withFile_withFile] at hwrite
    obtain ⟨k, hk⟩ := Observes.takes (x := (fileLen name : RoundM ℕ)) _ _
      (value_fileLen_eq_ok_iff.2 ⟨_, hfile, rfl⟩)
    unfold writePending
    exact ⟨_, (takes_createNew hnew).bind (hwrite.bind (hk.bind
      ((takes_ofResult (failIf_eq_ok_iff (u := ()) |>.2 (not_lt.2 hlength))).bind
        (takes_access _))))⟩
  obtain ⟨k, hk⟩ := hpending
  unfold stageResult
  refine Dies.observing (a := name) (by rwa [value_ofResult]) (Dies.after hk ?_)
  refine Dies.observing (a := some r) ?_ (Dies.observing (a := r) (value_ofResult _ _) ?_)
  · rw [← readReceipt_of_ne hne, value_readReceipt_eq_ok_iff hfile]
    exact ⟨hlength, receiptOf_eq_some_iff.2
      ⟨hlawful.roundTrip _ _ hlearned, validate_of_learned hlearned⟩⟩
  refine Dies.observing (a := ()) ?_ (Dies.observing (hfingerprint false) ?_)
  · rw [value_ofResult, failIf_eq_ok_iff, CpuCooperativeRoundPlanV1.eq_self hvalid]
    simp
  rw [hfiles]
  unfold finish syncDirectoryAncestry
  refine Dies.observing (hfingerprint true) (Dies.observing (a := ()) ?_ ?_)
  · rw [value_ofResult, failIf_eq_ok_iff, OrderedMap.get?_mapValues, hfile]
    exact fun h => h rfl
  refine Dies.observing (value_forM_access _ _) (Dies.observing
    (value_inventory_eq_ok_iff.2 ⟨hadmitted, rfl⟩) (Dies.observing (a := ()) ?_ ?_))
  · rw [value_ofResult, failIf_eq_ok_iff]
    exact fun h => h rfl
  rw [if_pos hne]
  refine Dies.first ?_
  have hlinked : (w.withFile name (L.encode r)).files.contains cpuCooperativeRoundResultFile =
      false := by
    rw [OrderedMap.contains_eq_false_iff] at hfree ⊢
    exact (OrderedMap.get?_insert_of_ne hne.symm).trans hfree
  unfold publishNew removeFile
  exact Dies.after (takes_hardLink hfile hlinked) (Dies.first (Dies.first (dies_access _)))

/-! ### 255 torn stages -/

/-- The suffixes of the stages: one letter, again and again. -/
def tornSuffix (n : ℕ) : List Char := List.replicate (n + 1) 'a'

def tornStage (plan : CpuCooperativeRoundPlanV1) (n : ℕ) : FileName :=
  stagePrefix plan.payloadSha256 ++ tornSuffix n ++ pendingSuffix

theorem roundStageName_tornSuffix (plan : CpuCooperativeRoundPlanV1) (n : ℕ) :
    roundStageName plan (tornSuffix n) = .ok (tornStage plan n) := by
  refine if_pos ?_
  simp only [validStageSuffix, tornSuffix, Bool.and_eq_true, List.all_eq_true]
  refine ⟨rfl, fun c hc => ?_⟩
  obtain rfl := List.eq_of_mem_replicate hc
  decide

theorem tornStage_injective (plan : CpuCooperativeRoundPlanV1) :
    Function.Injective (tornStage plan) := by
  intro n m h
  have hlength := congrArg List.length h
  simp only [tornStage, tornSuffix, List.length_append, List.length_replicate] at hlength
  omega

/-- The directory holds `n` empty stages. -/
structure Strewn (plan : CpuCooperativeRoundPlanV1) (n : ℕ) (w : RoundDirectory) : Prop where
  files : ∀ e ∈ w.files.entries, ∃ i < n, e = (tornStage plan i, [])
  size : w.files.size = n

theorem isStage_tornStage (plan : CpuCooperativeRoundPlanV1) (n : ℕ) :
    isStage plan.payloadSha256 (tornStage plan n) = true :=
  isStage_of_roundStageName (roundStageName_tornSuffix plan n)

theorem Strewn.fresh (h : Strewn plan n w) : w.files.contains (tornStage plan n) = false := by
  rw [OrderedMap.contains_eq_false_iff, OrderedMap.get?_eq_none_iff]
  rintro e he hname
  obtain ⟨i, hi, rfl⟩ := h.files e he
  exact hi.ne (tornStage_injective plan hname)

theorem Strewn.free (h : Strewn plan n w) :
    w.files.contains cpuCooperativeRoundResultFile = false := by
  rw [OrderedMap.contains_eq_false_iff, OrderedMap.get?_eq_none_iff]
  rintro e he hname
  obtain ⟨i, -, rfl⟩ := h.files e he
  exact ne_canonical_of_isStage (isStage_tornStage plan i) hname

theorem Strewn.admitted (h : Strewn plan n w) (hn : n ≤ maxRoundFiles) :
    Admitted plan.payloadSha256 w where
  name e he := by
    obtain ⟨i, -, rfl⟩ := h.files e he
    exact Or.inr (isStage_tornStage plan i)
  length_le e he := by
    obtain ⟨i, -, rfl⟩ := h.files e he
    exact Nat.zero_le _
  size_le := by rwa [h.size]

/-- Nothing is found among empty stages. -/
theorem Strewn.finds (hlawful : L.Lawful) (hlearned : L.learned plan = .ok r)
    (h : Strewn plan n w) : L.Finds plan w.files.entries none := by
  refine .none fun e he => ?_
  obtain ⟨i, -, rfl⟩ := h.files e he
  exact receiptOf_eq_none_iff.2 ⟨ne_canonical_of_isStage (isStage_tornStage plan i),
    hlawful.torn _ _ _ hlearned List.nil_prefix (hlawful.encode_ne_nil _ _ hlearned).symm⟩

/-- A call can leave one more torn stage. -/
theorem after_tearing (hlawful : L.Lawful) (hlearned : L.learned plan = .ok r)
    (h : Strewn plan n w) (hn : n < maxRoundFiles) : ∃ c, Strewn plan (n + 1) (L.after w c) := by
  obtain rfl := plan_of_learned hlearned
  have hfresh : (marked w r.plan).files.contains (tornStage r.plan n) = false := h.fresh
  have hdies : Dies (L.runCpuCooperativeRound 0 (tornSuffix n) r.plan) w
      ((marked w r.plan).withFile (tornStage r.plan n) []) :=
    dies_run hlearned (h.admitted hn.le) (h.finds hlawful hlearned) (by rwa [h.size])
      (dies_writing (roundStageName_tornSuffix r.plan n) hfresh _)
  obtain ⟨faults, hworld⟩ := hdies.schedule
  refine ⟨⟨r.plan, tornSuffix n, 0, faults⟩, ?_⟩
  change Strewn r.plan (n + 1) (stateAfter (L.runCpuCooperativeRound 0 _ _ _)).world
  rw [hworld]
  refine ⟨fun e he => ?_, ?_⟩
  · rcases OrderedMap.mem_insert.1 he with rfl | ⟨-, he⟩
    · exact ⟨n, n.lt_succ_self, rfl⟩
    · obtain ⟨i, hi, rfl⟩ := h.files e he
      exact ⟨i, hi.trans n.lt_succ_self, rfl⟩
  · change OrderedMap.size (w.files.insert _ _) = _
    rw [OrderedMap.size_insert, h.size, if_neg (by rw [h.fresh]; exact Bool.false_ne_true)]

/-- A call can leave its result linked, and its stage beside it. -/
theorem after_linking (hlawful : L.Lawful) (hlearned : L.learned plan = .ok r)
    (hlength : (L.encode r).length ≤ maxRoundBytes) (h : Strewn plan n w)
    (hn : n < maxRoundFiles) :
    ∃ c, (L.after w c).files.size = n + 2 ∧ L.Complete r (L.after w c) := by
  obtain rfl := plan_of_learned hlearned
  have hfresh : (marked w r.plan).files.contains (tornStage r.plan n) = false := h.fresh
  have hfree : (marked w r.plan).files.contains cpuCooperativeRoundResultFile = false := h.free
  have hsize : ((marked w r.plan).withFile (tornStage r.plan n) (L.encode r)).files.size =
      n + 1 := by
    change OrderedMap.size (w.files.insert _ _) = _
    rw [OrderedMap.size_insert, h.size, if_neg (by rw [h.fresh]; exact Bool.false_ne_true)]
  have hadmitted := h.admitted hn.le
  have hadmitted' : Admitted r.plan.payloadSha256
      ((marked w r.plan).withFile (tornStage r.plan n) (L.encode r)) := by
    refine ⟨fun e he => ?_, fun e he => ?_, by omega⟩
    · rcases OrderedMap.mem_insert.1 he with rfl | ⟨-, he⟩
      · exact Or.inr (isStage_tornStage r.plan n)
      · exact hadmitted.name e he
    · rcases OrderedMap.mem_insert.1 he with rfl | ⟨-, he⟩
      · exact hlength
      · exact hadmitted.length_le e he
  have hdies : Dies (L.runCpuCooperativeRound 0 (tornSuffix n) r.plan) w
      (((marked w r.plan).withFile (tornStage r.plan n) (L.encode r)).withFile
        cpuCooperativeRoundResultFile (L.encode r)) :=
    dies_run hlearned hadmitted (h.finds hlawful hlearned) (by rwa [h.size])
      (dies_linking hlawful hlearned hlength (roundStageName_tornSuffix r.plan n) hfresh
        hadmitted' hfree)
  obtain ⟨faults, hworld⟩ := hdies.schedule
  refine ⟨⟨r.plan, tornSuffix n, 0, faults⟩, ?_⟩
  change (stateAfter (L.runCpuCooperativeRound 0 _ _ _)).world.files.size = n + 2 ∧
    L.Complete r (stateAfter (L.runCpuCooperativeRound 0 _ _ _)).world
  rw [hworld]
  refine ⟨?_, hlearned, _, OrderedMap.mem_insert.2 (Or.inl rfl), rfl⟩
  have hlinked : ((marked w r.plan).withFile (tornStage r.plan n) (L.encode r)).files.contains
      cpuCooperativeRoundResultFile = false := by
    rw [OrderedMap.contains_eq_false_iff] at hfree ⊢
    exact (OrderedMap.get?_insert_of_ne
      (ne_canonical_of_isStage (isStage_tornStage r.plan n)).symm).trans hfree
  refine OrderedMap.size_insert.trans ?_
  rw [hsize, hlinked]
  rfl

theorem strewn_output (hlawful : L.Lawful) (hlearned : L.learned plan = .ok r)
    (hn : n < maxRoundFiles) : ∃ calls, Strewn plan n (L.output calls) := by
  induction n with
  | zero => exact ⟨[], fun _ h => absurd h List.not_mem_nil, rfl⟩
  | succ n ih =>
    obtain ⟨calls, h⟩ := ih (by omega)
    obtain ⟨c, hc⟩ := after_tearing hlawful hlearned h (by omega)
    exact ⟨calls ++ [c], by rwa [output_append]⟩

/-- **A plan that learns a result has a history that strands it.** -/
theorem exists_not_atMostOnce (hlawful : L.Lawful) (hlearned : L.learned plan = .ok r)
    (hlength : (L.encode r).length ≤ maxRoundBytes) : ∃ calls, ¬L.AtMostOnce calls := by
  obtain rfl := plan_of_learned hlearned
  obtain ⟨calls, hstrewn⟩ := strewn_output (n := 255) hlawful hlearned (by decide)
  obtain ⟨c, hsize, hcomplete⟩ := after_linking hlawful hlearned hlength hstrewn (by decide)
  rw [← output_append] at hsize hcomplete
  refine ⟨calls ++ [c] ++ [⟨r.plan, [], 0, fun _ => none⟩], fun h => ?_⟩
  have hlimits := h.returns (calls ++ [c]) _ [] rfl r hcomplete rfl fun _ => rfl
  have hbound := (of_returned hlawful hlimits).2.2.2.size_le
  rw [hsize] at hbound
  exact absurd hbound (by decide)

end RoundLearner

/-! ### A learner -/

/-- The default configuration, one collector and one window of one tick. -/
def samplePlan : CpuCooperativeRoundPlanV1 where
  schemaVersion := 1
  roundId := "round".toList
  sourceHandoffSha256 := Vector.replicate 32 1
  snapshot := ⟨1, 2, 1, zeroSha256, zeroSha256, zeroSha256, zeroSha256⟩
  config :=
    { clipRatio := ⟨0x3E4CCCCD⟩, epochs := 2, targetKl := ⟨0x3CA3D70A⟩
      entropyCoefficient := ⟨0x3C23D70A⟩, valueCoefficient := ⟨0x3F000000⟩
      discountHalfLifeSeconds := ⟨0x42700000⟩, gaeHalfLifeSeconds := ⟨0x41200000⟩
      temperature := .one
      valueOptimizer :=
        ⟨⟨0x399D4952⟩, ⟨0x3F666666⟩, ⟨0x3F7FBE77⟩, ⟨0x322BCC77⟩, ⟨0x38D1B717⟩, .one⟩ }
  windowTicks := 1
  burnIn := 0
  effectiveBatchSize := 1
  members := [⟨⟨"run".toList, .nativeCpu, "revision".toList, 1, 1, 0, 2, "lesson".toList,
    Vector.replicate 32 1⟩, Vector.replicate 32 1⟩]
  payloadSha256 := Vector.replicate 32 1

/-- What is learned of it: two updates. -/
def sampleResult : CpuCooperativeRoundResultV1 UInt32 where
  schemaVersion := 1
  mode := "native_cpu_cooperative_round".toList
  plan := samplePlan
  sourceHandoff := 0
  outputHandoff := 2
  update := ⟨1, 2, false, [.zero, .zero], 2, 2⟩
  windows := 1
  trainingRows := 1
  windowTrajectories := [⟨"run".toList, 1⟩]
  payloadSha256 := Vector.replicate 32 1

/-- A learner of this plan alone, whose handoffs are their optimizer steps; the text of
its result has two bytes. -/
def sampleLearner : RoundLearner UInt32 UInt32 Unit where
  planDigest _ := Vector.replicate 32 1
  resultDigest _ := Vector.replicate 32 1
  fileDigest _ := zeroSha256
  encode _ := [0x7B, 0x7D]
  parse bytes :=
    if bytes = [0x7B, 0x7D] then .ok sampleResult
    else if bytes <+: [0x7B, 0x7D] then .error .eof
    else .error .other
  origin _ := .nativeCpu
  policyVersion _ := 1
  actor step := ⟨2, .zero, ⟨Vector.replicate 32 1⟩, step,
    ⟨.one, .zero, .zero, .one, .zero, .one⟩, ⟨[]⟩, [], [], [], []⟩
  valueStep := id
  exact a b := a == b
  exactConfig a b := a == b
  validateHandoff _ := .ok ()
  restoreSource handoff _ := .ok handoff
  validateCompiled _ _ _ := .ok ()
  source _ := .ok 0
  admitCpuCollectorShards _ _ _ := .ok ⟨[1], [⟨"run".toList, 1⟩], ()⟩
  verify plan := if plan = samplePlan then .ok () else .error (.invalid "another plan")
  train _ _ _ _ := .ok (⟨1, 2, false, [.zero, .zero], 2, 2⟩, 2)
  optimizerStep := id
  handoff _ _ trainer := .ok trainer

theorem learned_samplePlan : sampleLearner.learned samplePlan = .ok sampleResult := by rfl

theorem sampleLearner_lawful : sampleLearner.Lawful where
  roundTrip plan r h := by
    have hverify : sampleLearner.verify plan = .ok () := by
      obtain ⟨_, hround, -⟩ := (RoundLearner.learned_eq_ok_iff (w := emptyOutput)).1 h
      exact (RoundLearner.value_prepareRound_eq_ok_iff.1 hround).2.2
    have hplan : plan = samplePlan := by
      by_contra hne
      rw [show sampleLearner.verify plan = _ from if_neg hne] at hverify
      cases hverify
    rw [hplan, learned_samplePlan] at h
    rw [← Except.ok.inj h]
    rfl
  torn _ _ _ _ hprefix hne := (if_neg hne).trans (if_pos hprefix)
  encode_ne_nil _ _ _ := List.cons_ne_nil _ _

/-- The histories of this learner do not all learn at most once: 255 calls that die
writing, one that dies between its link and the removal of its stage, and one in
which no step fails. -/
theorem not_forall_atMostOnce : ¬∀ calls, sampleLearner.AtMostOnce calls := by
  obtain ⟨calls, h⟩ := RoundLearner.exists_not_atMostOnce sampleLearner_lawful learned_samplePlan
    (by decide)
  exact fun hall => h (hall calls)

/-- A call that dies writing its stage. -/
def tornCall : RoundCall := ⟨samplePlan, ['a'], 1, fun k => if k = 14 then some 1 else none⟩

/-- A call that dies between writing its stage and publishing it. -/
def unpublishedCall : RoundCall :=
  ⟨samplePlan, ['b'], 1, fun k => if k = 45 then some 1 else none⟩

/-- A call in which no step fails. -/
def calmCall : RoundCall := ⟨samplePlan, ['c'], 1, fun _ => none⟩

/-- A torn stage, a stage left unpublished, and the call that publishes it: what was learned
is returned, and later calls return it too. -/
theorem atMostOnce_sample :
    (sampleLearner.output [tornCall]).files.size = 1 ∧
      (sampleLearner.output [tornCall, unpublishedCall]).files.size = 2 ∧
      sampleLearner.AtMostOnce [tornCall, unpublishedCall, calmCall, calmCall] ∧
      sampleLearner.returned (sampleLearner.output [tornCall, unpublishedCall]) calmCall
        = .ok sampleResult := by
  have hlimits : ∀ pre ∈ [tornCall, unpublishedCall, calmCall, calmCall].inits,
      RoundLearner.WithinLimits (sampleLearner.output pre) := by
    unfold RoundLearner.WithinLimits
    decide +kernel
  have honce : sampleLearner.AtMostOnce [tornCall, unpublishedCall, calmCall, calmCall] :=
    (RoundLearner.atMostOnce_iff sampleLearner_lawful _).2 fun pre c post hsplit _ _ _ _ =>
      hlimits pre ((List.mem_inits _ _).2 ⟨c :: post, hsplit.symm⟩)
  have hcomplete : sampleLearner.Complete sampleResult
      (sampleLearner.output [tornCall, unpublishedCall]) :=
    ⟨learned_samplePlan, by decide +kernel⟩
  exact ⟨by decide +kernel, by decide +kernel, honce,
    honce.returns [tornCall, unpublishedCall] calmCall [calmCall] rfl _ hcomplete rfl fun _ => rfl⟩

end ALife
