/-
# The replay journal of a waking creature

`SleepReplayJournal` of `crates/alife_core/src/sleep/replay.rs`: a ring of events and,
row after row, a ring of eligibilities for each captured synapse, all written at one
cursor.  A push makes its checks before it writes, and none of its writes fails
(`push_eq`), so the journal holds the last accepted pushes (`Holds`) after every history
of calls (`after_holds`).

The indices are in range in every journal that `new` and `push` leave: an index past the
end would be a panic of the source.
-/

import ALife.Sleep.ReplayCapture

namespace ALife

open Machine

structure SleepReplayJournal where
  plan : ReplayCapturePlan
  cursor : UInt32
  eventCount : UInt32
  events : List (Option SleepReplayEvent)
  physicalSamples : List Int16

/-- The arguments of a `push`. -/
structure ReplayPush where
  event : SleepReplayEvent
  eligibility : List F32

/-- The q15 values of the eligibilities. -/
def ReplayPush.encoded (p : ReplayPush) : List Int16 :=
  match p.eligibility.mapM encodeReplayEligibilityQ15 with
  | .ok encoded => encoded
  | .error _ => []

namespace SleepReplayJournal

/-- `SleepReplayJournal::new`. -/
def new (plan : ReplayCapturePlan) : Contract SleepReplayJournal := do
  plan.validateContract
  pure
    { plan, cursor := 0, eventCount := 0
      events := List.replicate plan.eventCapacity.toNat none
      physicalSamples := List.replicate plan.sampleCapacity.toNat 0 }

/-- The checks of `push`: the encoded eligibilities. -/
def checkPush (j : SleepReplayJournal) (p : ReplayPush) : Contract (List Int16) := do
  p.event.validateContract
  reject (p.eligibility.length ≠ j.plan.samplesPerEvent.toNat) .consolidationGenerationMismatch
  if j.eventCount ≠ 0 then
    let previous := (j.cursor + j.plan.eventCapacity - 1) % j.plan.eventCapacity
    let previous ← orMismatch (j.events.getD previous.toNat none)
    reject (p.event.sequenceId ≤ previous.sequenceId) .consolidationGenerationMismatch
  p.eligibility.mapM encodeReplayEligibilityQ15

/-- One round of the loop over the encoded samples. -/
def writeSample (physicalEvent : UInt32) (sample : Int16 × ℕ) :
    EStateM ScaffoldContractError SleepReplayJournal Unit := do
  let j ← get
  let captureIndex ← ofResult (tryU32 sample.2)
  let start ← ofResult (orMismatch (checkedMul32 captureIndex j.plan.eventCapacity))
  let sampleIndex ← ofResult (orMismatch (checkedAdd32 start physicalEvent))
  set { j with physicalSamples := j.physicalSamples.set sampleIndex.toNat sample.1 }

/-- The cursor and the count after a push. -/
def advance (j : SleepReplayJournal) : SleepReplayJournal :=
  let counted := saturatingAdd32 j.eventCount 1
  { j with
    cursor := (j.cursor + 1) % j.plan.eventCapacity
    eventCount := if counted ≤ j.plan.eventCapacity then counted else j.plan.eventCapacity }

/-- `push`. -/
def push (p : ReplayPush) : EStateM ScaffoldContractError SleepReplayJournal Unit := do
  let j ← get
  let encoded ← ofResult (j.checkPush p)
  set { j with events := j.events.set j.cursor.toNat (some p.event) }
  encoded.zipIdx.forM (writeSample j.cursor)
  modify advance

/-- A call of `push`: the journal it leaves, and the pushes accepted so far. -/
def pushStep (s : SleepReplayJournal × List ReplayPush) (p : ReplayPush) :
    SleepReplayJournal × List ReplayPush :=
  match push p s.1 with
  | .ok _ j => (j, s.2 ++ [p])
  | .error _ j => (j, s.2)

/-- The journal after a history of calls of `push`, and the pushes it accepted. -/
def after (j : SleepReplayJournal) (pushes : List ReplayPush) :
    SleepReplayJournal × List ReplayPush := pushes.foldl pushStep (j, [])

/-! ### What a push writes -/

/-- The slots of one event in the sample matrix, with its samples. -/
def sampleWrites (capacity cursor : ℕ) (samples : List (Int16 × ℕ)) : List (ℕ × Int16) :=
  samples.map fun s => (s.2 * capacity + cursor, s.1)

theorem toNat_toUInt32_of_lt {n : ℕ} (h : n < 2 ^ 32) : n.toUInt32.toNat = n :=
  UInt32.toNat_ofNat_of_lt' h

theorem writeSample_eq {j : SleepReplayJournal} (hsound : j.plan.Sound) {cursor : UInt32}
    (hcursor : cursor.toNat < j.plan.eventCapacity.toNat) {sample : Int16 × ℕ}
    (hindex : sample.2 < j.plan.width) :
    writeSample cursor sample j = .ok () { j with
      physicalSamples := j.physicalSamples.set
        (sample.2 * j.plan.eventCapacity.toNat + cursor.toNat) sample.1 } := by
  have hwidth := hsound.width_le
  have hcapacity := hsound.capacity_le
  have hproduct : sample.2 * j.plan.eventCapacity.toNat ≤ 63 * 65536 :=
    Nat.mul_le_mul (by omega) hcapacity
  have hindexWord : tryU32 sample.2 = .ok sample.2.toUInt32 :=
    tryU32_eq_ok_iff.2 (toNat_toUInt32_of_lt (by omega))
  have hstart : orMismatch (checkedMul32 sample.2.toUInt32 j.plan.eventCapacity)
      = .ok (sample.2 * j.plan.eventCapacity.toNat).toUInt32 := by
    rw [orMismatch_eq_ok_iff, checkedMul32_eq_some_iff, toNat_toUInt32_of_lt (by omega),
      toNat_toUInt32_of_lt (by omega)]
  have hslot : orMismatch
      (checkedAdd32 (sample.2 * j.plan.eventCapacity.toNat).toUInt32 cursor)
        = .ok (sample.2 * j.plan.eventCapacity.toNat + cursor.toNat).toUInt32 := by
    rw [orMismatch_eq_ok_iff, checkedAdd32_eq_some_iff, toNat_toUInt32_of_lt (by omega),
      toNat_toUInt32_of_lt (by omega)]
  simp only [writeSample, bind_apply, get_apply, hindexWord, hstart, hslot, ofResult_ok, set_apply,
    toNat_toUInt32_of_lt (show sample.2 * j.plan.eventCapacity.toNat + cursor.toNat < 2 ^ 32 by
      omega)]

theorem map_fst_sampleWrites (capacity cursor : ℕ) (encoded : List Int16) :
    (sampleWrites capacity cursor encoded.zipIdx).map Prod.fst
      = (List.range encoded.length).map fun i => i * capacity + cursor := by
  refine List.ext_getElem (by simp [sampleWrites]) fun n h₁ h₂ => ?_
  simp [sampleWrites]

/-- Each row of the matrix is written at the cursor only. -/
theorem getElem?_scatter_sampleWrites {capacity cursor : ℕ} (hcursor : cursor < capacity)
    {samples : List Int16} {encoded : List Int16}
    (hlength : samples.length = capacity * encoded.length) {i slot : ℕ}
    (hi : i < encoded.length) (hslot : slot < capacity) :
    (scatter samples (sampleWrites capacity cursor encoded.zipIdx))[i * capacity + slot]?
      = if slot = cursor then some (encoded.getD i 0) else samples[i * capacity + slot]? := by
  have hfst := map_fst_sampleWrites capacity cursor encoded
  have hrow : ∀ {i' slot'}, slot' < capacity → i * capacity + slot = i' * capacity + slot' →
      i = i' ∧ slot = slot' := by
    intro i' slot' hslot' heq
    have hdiv := congrArg (· / capacity) heq
    have hmod := congrArg (· % capacity) heq
    simp only [Nat.mul_comm _ capacity, Nat.mul_add_div (Nat.zero_lt_of_lt hslot),
      Nat.div_eq_of_lt hslot, Nat.div_eq_of_lt hslot', Nat.mul_add_mod, Nat.mod_eq_of_lt hslot,
      Nat.mod_eq_of_lt hslot', Nat.add_zero] at hdiv hmod
    exact ⟨hdiv, hmod⟩
  split_ifs with heq
  · subst heq
    refine getElem?_scatter_of_mem ?_ ?_ ?_
    · rw [hfst]
      refine (List.nodup_map_iff_inj_on List.nodup_range).2 fun a _ b _ hab => ?_
      exact Nat.eq_of_mul_eq_mul_right (Nat.zero_lt_of_lt hslot) (Nat.add_right_cancel hab)
    · rw [hlength, Nat.mul_comm capacity]
      have := Nat.mul_le_mul_right capacity (Nat.succ_le_of_lt hi)
      rw [Nat.succ_mul] at this
      omega
    · refine List.mem_map.2 ⟨(encoded.getD i 0, i), ?_, rfl⟩
      rw [List.mem_zipIdx_iff_getElem?, List.getD_eq_getElem?_getD, List.getElem?_eq_getElem hi]
      rfl
  · refine getElem?_scatter_of_notMem fun hmem => heq ?_
    rw [hfst, List.mem_map] at hmem
    obtain ⟨i', -, hi'⟩ := hmem
    exact (hrow hcursor hi'.symm).2

/-- The loop over the encoded samples writes each into its row at the cursor. -/
theorem forM_writeSample {j : SleepReplayJournal} (hsound : j.plan.Sound) {cursor : UInt32}
    (hcursor : cursor.toNat < j.plan.eventCapacity.toNat) {samples : List (Int16 × ℕ)}
    (hindex : ∀ s ∈ samples, s.2 < j.plan.width) :
    samples.forM (writeSample cursor) j = .ok () { j with
      physicalSamples := scatter j.physicalSamples
        (sampleWrites j.plan.eventCapacity.toNat cursor.toNat samples) } := by
  induction samples generalizing j with
  | nil => rfl
  | cons s samples ih =>
    rw [List.forall_mem_cons] at hindex
    change (writeSample cursor s >>= fun _ => samples.forM (writeSample cursor)) j = _
    rw [bind_apply, writeSample_eq hsound hcursor hindex.1]
    exact ih hsound hcursor hindex.2

/-- The journal after an accepted push. -/
def pushed (j : SleepReplayJournal) (p : ReplayPush) : SleepReplayJournal :=
  advance { j with
    events := j.events.set j.cursor.toNat (some p.event)
    physicalSamples := scatter j.physicalSamples
      (sampleWrites j.plan.eventCapacity.toNat j.cursor.toNat p.encoded.zipIdx) }

/-- What an accepted push checked of its eligibilities. -/
theorem of_checkPush {j : SleepReplayJournal} {p : ReplayPush} {encoded : List Int16}
    (h : j.checkPush p = .ok encoded) :
    p.eligibility.length = j.plan.samplesPerEvent.toNat ∧
      p.eligibility.mapM encodeReplayEligibilityQ15 = .ok encoded := by
  unfold checkPush at h
  rw [contract_check_eq_ok_iff, contract_check_eq_ok_iff, reject_eq_ok_iff, not_not] at h
  obtain ⟨-, hlength, h⟩ := h
  split_ifs at h
  · obtain ⟨previous, -, h⟩ := contract_bind_eq_ok_iff.1 h
    exact ⟨hlength, (contract_check_eq_ok_iff.1 h).2⟩
  · exact ⟨hlength, h⟩

/-- A push that fails its checks changes nothing, and one that passes them succeeds. -/
theorem push_eq {j : SleepReplayJournal} (hsound : j.plan.Sound)
    (hcursor : j.cursor.toNat < j.plan.eventCapacity.toNat) (p : ReplayPush) :
    (∃ e, j.checkPush p = .error e ∧ push p j = .error e j) ∨
      (j.checkPush p = .ok p.encoded ∧ push p j = .ok () (j.pushed p)) := by
  unfold push
  rw [bind_apply, get_apply]
  dsimp only
  rw [bind_apply]
  cases hcheck : j.checkPush p with
  | error e => exact .inl ⟨e, rfl, rfl⟩
  | ok encoded =>
    obtain ⟨hlength, hencode⟩ := of_checkPush hcheck
    have hencoded : p.encoded = encoded := by
      rw [ReplayPush.encoded, hencode]
    subst hencoded
    have hwidth : ∀ s ∈ p.encoded.zipIdx, s.2 < j.plan.width := by
      intro s hs
      have hlt := List.snd_lt_of_mem_zipIdx hs
      have := (getElem?_of_contract_mapM hencode).1
      rw [← hsound.samplesPerEvent]
      omega
    refine .inr ⟨rfl, ?_⟩
    rw [ofResult_ok]
    dsimp only
    rw [bind_apply, set_apply]
    dsimp only
    rw [bind_apply, forM_writeSample (j := { j with
      events := j.events.set j.cursor.toNat (some p.event) }) hsound hcursor hwidth]
    rfl

/-! ### What the journal holds -/

/-- A push that was accepted: its event is valid and every eligibility encodes. -/
structure Accepted (plan : ReplayCapturePlan) (p : ReplayPush) : Prop where
  valid : p.event.validateContract = .ok ()
  length : p.eligibility.length = plan.width
  encodes : p.eligibility.mapM encodeReplayEligibilityQ15 = .ok p.encoded

theorem Accepted.length_encoded {plan : ReplayCapturePlan} {p : ReplayPush}
    (h : Accepted plan p) : p.encoded.length = plan.width := by
  rw [(getElem?_of_contract_mapM h.encodes).1, h.length]

/-- A journal of the plan that holds the last of the accepted pushes. -/
structure Holds (plan : ReplayCapturePlan) (j : SleepReplayJournal) (history : List ReplayPush) :
    Prop where
  plan_eq : j.plan = plan
  valid : plan.validateContract = .ok ()
  cursor : j.cursor.toNat = history.length % plan.eventCapacity.toNat
  eventCount : j.eventCount.toNat = min history.length plan.eventCapacity.toNat
  events_length : j.events.length = plan.eventCapacity.toNat
  samples_length : j.physicalSamples.length = plan.eventCapacity.toNat * plan.width
  events : RingHolds (fun slot => j.events.getD slot none) plan.eventCapacity.toNat
    (history.map ReplayPush.event)
  samples : ∀ i < plan.width,
    RingHolds (fun slot => j.physicalSamples[i * plan.eventCapacity.toNat + slot]?)
      plan.eventCapacity.toNat (history.map fun p => p.encoded.getD i 0)
  accepted : ∀ p ∈ history, Accepted plan p
  ascending : strictlyAscending (history.map fun p => p.event.sequenceId.toNat)

variable {plan : ReplayCapturePlan} {j : SleepReplayJournal} {history : List ReplayPush}

theorem Holds.sound (h : Holds plan j history) : plan.Sound :=
  ReplayCapturePlan.sound_of_validateContract h.valid

theorem holds_new (hnew : new plan = .ok j) : Holds plan j [] := by
  unfold new at hnew
  rw [contract_check_eq_ok_iff] at hnew
  obtain ⟨hvalid, hnew⟩ := hnew
  obtain rfl := Except.ok.inj hnew
  have hsound := ReplayCapturePlan.sound_of_validateContract hvalid
  exact
    { plan_eq := rfl
      valid := hvalid
      cursor := (Nat.zero_mod _).symm
      eventCount := (Nat.zero_min _).symm
      events_length := List.length_replicate
      samples_length := by rw [List.length_replicate, hsound.sampleCapacity]
      events := ringHolds_nil _ _
      samples := fun _ _ => ringHolds_nil _ _
      accepted := fun _ hp => absurd hp List.not_mem_nil
      ascending := List.isChain_nil }

theorem Holds.cursor_lt (h : Holds plan j history) :
    j.cursor.toNat < j.plan.eventCapacity.toNat := by
  rw [h.plan_eq, h.cursor]
  exact Nat.mod_lt _ h.sound.capacity_pos

/-- The event before the cursor is the last one accepted. -/
theorem Holds.previous (h : Holds plan j history) {last : ReplayPush}
    (hlast : history.getLast? = some last) :
    j.events.getD ((j.cursor + j.plan.eventCapacity - 1) % j.plan.eventCapacity).toNat none
      = some last.event := by
  have hpos := h.sound.capacity_pos
  have hsmall := h.sound.capacity_le
  have hcursor := h.cursor_lt
  rw [h.plan_eq] at hcursor ⊢
  rw [List.getLast?_eq_getElem?] at hlast
  have hlt := (List.getElem?_eq_some_iff.1 hlast).1
  have hsum : (j.cursor + plan.eventCapacity).toNat = j.cursor.toNat + plan.eventCapacity.toNat :=
    toNat_add_of_lt32 (by omega)
  have hslot : ((j.cursor + plan.eventCapacity - 1) % plan.eventCapacity).toNat
      = (history.length - 1) % plan.eventCapacity.toNat := by
    have hone : (1 : UInt32) ≤ j.cursor + plan.eventCapacity := by
      rw [UInt32.le_iff_toNat_le, hsum]
      exact Nat.succ_le_of_lt (by omega)
    have hbefore : history.length % plan.eventCapacity.toNat + plan.eventCapacity.toNat - 1
        = history.length % plan.eventCapacity.toNat + (plan.eventCapacity.toNat - 1) := by omega
    have hround : history.length + (plan.eventCapacity.toNat - 1)
        = history.length - 1 + plan.eventCapacity.toNat := by omega
    rw [UInt32.toNat_mod, UInt32.toNat_sub_of_le _ _ hone, hsum, h.cursor, UInt32.toNat_one,
      hbefore, Nat.mod_add_mod, hround, Nat.add_mod_right]
  have hread := h.events (history.length - 1) (by rwa [List.length_map])
    (by rw [List.length_map]; omega)
  rw [hslot]
  refine hread.trans ?_
  rw [List.getElem?_map, hlast]
  rfl

/-- What an accepted push passed. -/
theorem Holds.accepts (h : Holds plan j history) {p : ReplayPush}
    (hcheck : j.checkPush p = .ok p.encoded) : Accepted plan p ∧
      ∀ last ∈ history.getLast?, last.event.sequenceId < p.event.sequenceId := by
  obtain ⟨hlength, hencodes⟩ := of_checkPush hcheck
  rw [h.plan_eq, h.sound.samplesPerEvent] at hlength
  unfold checkPush at hcheck
  rw [contract_check_eq_ok_iff, contract_check_eq_ok_iff] at hcheck
  obtain ⟨hvalid, -, hcheck⟩ := hcheck
  refine ⟨⟨hvalid, hlength, hencodes⟩, fun last hlast => ?_⟩
  have hcount : j.eventCount ≠ 0 := by
    intro hzero
    have hpos := h.sound.capacity_pos
    have hmin := h.eventCount
    rw [hzero] at hmin
    rcases history with _ | ⟨_, _⟩
    · cases hlast
    · rw [List.length_cons, UInt32.toNat_zero] at hmin
      omega
  rw [if_pos hcount, contract_bind_eq_ok_iff] at hcheck
  obtain ⟨previous, hprevious, hcheck⟩ := hcheck
  rw [orMismatch_eq_ok_iff, h.previous hlast] at hprevious
  obtain rfl := Option.some.inj hprevious
  rw [contract_check_eq_ok_iff, reject_eq_ok_iff, UInt64.not_le] at hcheck
  exact hcheck.1

/-- **An accepted push** replaces the oldest event and its samples. -/
theorem Holds.pushed (h : Holds plan j history) {p : ReplayPush}
    (hcheck : j.checkPush p = .ok p.encoded) : Holds plan (j.pushed p) (history ++ [p]) := by
  obtain ⟨haccepted, hlast⟩ := h.accepts hcheck
  have hpos := h.sound.capacity_pos
  have hsmall := h.sound.capacity_le
  have hcursor := h.cursor_lt
  have hcount := h.eventCount
  rw [h.plan_eq] at hcursor
  constructor
  case plan_eq => exact h.plan_eq
  case valid => exact h.valid
  case cursor =>
    have hone : (j.cursor + 1).toNat = j.cursor.toNat + 1 := toNat_add_of_lt32 (by
      rw [UInt32.toNat_one]
      omega)
    show ((j.cursor + 1) % j.plan.eventCapacity).toNat = _
    rw [h.plan_eq, UInt32.toNat_mod, hone, h.cursor, Nat.mod_add_mod, List.length_append,
      List.length_singleton]
  case eventCount =>
    have hcounted := toNat_saturatingAdd32 j.eventCount 1
    rw [UInt32.toNat_one] at hcounted
    show (if saturatingAdd32 j.eventCount 1 ≤ j.plan.eventCapacity then
      saturatingAdd32 j.eventCount 1 else j.plan.eventCapacity).toNat = _
    rw [h.plan_eq, List.length_append, List.length_singleton]
    split_ifs with hle
    · rw [UInt32.le_iff_toNat_le] at hle
      omega
    · rw [UInt32.le_iff_toNat_le] at hle
      omega
  case events_length => exact (List.length_set ..).trans h.events_length
  case samples_length => exact (length_scatter ..).trans h.samples_length
  case events =>
    rw [List.map_append]
    refine h.events.push ?_ fun slot hslot hne => ?_
    · rw [List.length_map, ← h.cursor]
      show (j.events.set j.cursor.toNat (some p.event)).getD j.cursor.toNat none = _
      rw [List.getD_eq_getElem?_getD, List.getElem?_set_self (h.events_length ▸ hcursor)]
      rfl
    · rw [List.length_map, ← h.cursor] at hne
      show (j.events.set j.cursor.toNat (some p.event)).getD slot none = _
      rw [List.getD_eq_getElem?_getD, List.getElem?_set_ne hne.symm, ← List.getD_eq_getElem?_getD]
  case samples =>
    intro i hi
    have hwritten : ∀ slot < plan.eventCapacity.toNat,
        (j.pushed p).physicalSamples[i * plan.eventCapacity.toNat + slot]?
          = if slot = j.cursor.toNat then some (p.encoded.getD i 0)
            else j.physicalSamples[i * plan.eventCapacity.toNat + slot]? := by
      intro slot hslot
      show (scatter j.physicalSamples (sampleWrites j.plan.eventCapacity.toNat j.cursor.toNat
        p.encoded.zipIdx))[i * plan.eventCapacity.toNat + slot]? = _
      rw [h.plan_eq]
      exact getElem?_scatter_sampleWrites hcursor
        (by rw [h.samples_length, haccepted.length_encoded])
        (by rwa [haccepted.length_encoded]) hslot
    rw [List.map_append]
    refine (h.samples i hi).push ?_ fun slot hslot hne => ?_
    · rw [List.length_map, ← h.cursor]
      exact (hwritten _ hcursor).trans (if_pos rfl)
    · rw [List.length_map, ← h.cursor] at hne
      exact (hwritten slot hslot).trans (if_neg hne)
  case accepted =>
    rw [List.forall_mem_append, List.forall_mem_singleton]
    exact ⟨h.accepted, haccepted⟩
  case ascending =>
    rw [List.map_append]
    refine List.isChain_append.2 ⟨h.ascending, List.isChain_singleton _, ?_⟩
    intro x hx y hy
    rw [List.getLast?_map] at hx
    obtain ⟨last, hmem, rfl⟩ := Option.mem_map.1 hx
    obtain rfl := Option.some.inj hy
    exact UInt64.lt_iff_toNat_lt.1 (hlast last hmem)

/-- A rejected push changes nothing. -/
theorem Holds.push_error (h : Holds plan j history) {p : ReplayPush} {e : ScaffoldContractError}
    {j' : SleepReplayJournal} (hpush : push p j = .error e j') : j' = j := by
  rcases push_eq (h.plan_eq ▸ h.sound) h.cursor_lt p with ⟨e', -, heq⟩ | ⟨-, heq⟩
  · rw [heq] at hpush
    cases hpush
    rfl
  · rw [heq] at hpush
    cases hpush

theorem Holds.pushStep {s : SleepReplayJournal × List ReplayPush} (h : Holds plan s.1 s.2)
    (p : ReplayPush) : Holds plan (pushStep s p).1 (pushStep s p).2 := by
  unfold SleepReplayJournal.pushStep
  rcases push_eq (h.plan_eq ▸ h.sound) h.cursor_lt p with ⟨e, -, heq⟩ | ⟨hcheck, heq⟩
  · rw [heq]
    exact h
  · rw [heq]
    exact h.pushed hcheck

/-- **Every history of calls** leaves the last pushes it accepted. -/
theorem after_holds (hnew : new plan = .ok j) (pushes : List ReplayPush) :
    Holds plan (after j pushes).1 (after j pushes).2 := by
  have hrun : ∀ s : SleepReplayJournal × List ReplayPush, Holds plan s.1 s.2 →
      Holds plan (pushes.foldl SleepReplayJournal.pushStep s).1
        (pushes.foldl SleepReplayJournal.pushStep s).2 := by
    induction pushes with
    | nil => exact fun _ h => h
    | cons p pushes ih => exact fun s h => ih _ (h.pushStep p)
  exact hrun (j, []) (holds_new hnew)

end SleepReplayJournal

end ALife
