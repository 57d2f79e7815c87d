/-
# Executing a joint action

Whatever `sample_cpu_joint_action` draws can be executed: the bundle of the
chosen candidates is built (`sampled_action_executes`), with one command for each
chosen slot in the order of the channels, and its receipt accepts that bundle and
no other one.
-/

import ALife.Core.DigestMixing
import ALife.Training.JointCommands

namespace ALife

open Machine

namespace Training

/-! ### The receipt -/

section Digest

variable {D : Type}

theorem accepted_vec {v : Vec3f F32Value} (h : v.validate = .ok ()) :
    (v.writes (D := D)).all Write.accepted = true := by
  rw [Vec3f.validate, reject_eq_ok_iff, Bool.not_eq_false] at h
  simpa [Vec3f.writes, Write.accepted] using h

theorem accepted_target {t : ActionTarget F32Value} (h : t.validate = .ok ()) :
    (t.writes (D := D)).all Write.accepted = true := by
  have hposition := (validate_target_eq_ok_iff.1 h).2
  rw [ActionTarget.writes, List.all_append, Bool.and_eq_true]
  constructor
  · cases t.entity <;> rfl
  · cases hp : t.position with
    | none => rfl
    | some p => exact accepted_vec (hposition p hp)

theorem finite_of_new {x : F32Value} (h : Intensity.new x = .ok ()) :
    FloatValue.isFinite x = true := by
  rw [Intensity.new, boundedValue, contract_seq_eq_ok_iff, reject_eq_ok_iff, Bool.not_eq_false] at h
  exact h.1

theorem accepted_command {command : ChannelCommand F32Value}
    (h : command.validateContract = .ok ()) :
    (command.writes (D := D)).all Write.accepted = true := by
  have hpayload : (Write.sequence (payloadWrites (R := F32Value) (D := D))
      command.payload.values).all Write.accepted = true := by
    simp [Write.sequence, payloadWrites, Write.accepted, List.all_flatMap]
  have hparts : (∀ t, command.target = some t → t.validate = .ok ())
      ∧ command.direction.validate = .ok () ∧ Intensity.new command.intensity = .ok ()
      ∧ Confidence.new command.confidence = .ok ()
      ∧ FloatValue.isFinite command.standOffDistance = true := by
    unfold ChannelCommand.validateContract at h
    cases htarget : command.target <;> rw [htarget] at h <;>
      simp only [contract_seq_eq_ok_iff, reject_eq_ok_iff] at h
    · obtain ⟨-, -, hdirection, hintensity, hconfidence, hstandOff, -⟩ := h
      push Not at hstandOff
      exact ⟨nofun, hdirection, hintensity, hconfidence, Bool.eq_true_of_not_eq_false hstandOff.2.1⟩
    · obtain ⟨-, ht, hdirection, hintensity, hconfidence, hstandOff, -⟩ := h
      push Not at hstandOff
      exact ⟨fun t heq => Option.some.inj heq ▸ ht, hdirection, hintensity, hconfidence,
        Bool.eq_true_of_not_eq_false hstandOff.2.1⟩
  obtain ⟨htarget, hdirection, hintensity, hconfidence, hstandOff⟩ := hparts
  have htarget_writes : (Write.optional (ActionTarget.writes (D := D)) command.target).all
      Write.accepted = true := by
    cases ht : command.target with
    | none => rfl
    | some t =>
      rw [Write.optional, Option.elim_some, List.all_cons, accepted_target (htarget t ht)]
      rfl
  simp only [ChannelCommand.writes, List.flatten_cons, List.flatten_nil, List.append_nil,
    List.all_append, List.all_cons, List.all_nil, Write.accepted, htarget_writes,
    accepted_vec hdirection, finite_of_new hintensity, hstandOff, hpayload,
    finite_of_new hconfidence, Bool.and_self]

/-- The floats of a valid bundle are finite, so that it has a digest. -/
theorem canonicalDigest_eq_ok {finish : String → List (Write F32Value D) → D}
    {bundle : MotorCommandBundle F32Value} (h : bundle.validateContract = .ok ()) :
    bundle.canonicalDigest finish = .ok (finish "ALIFE-V11-MOTOR-BUNDLE" bundle.writes) := by
  refine contract_check_eq_ok_iff.2 ⟨h, finish256_eq_ok_iff.2 ⟨?_, rfl⟩⟩
  have hcommands : ∀ command ∈ bundle.channels, command.validateContract = .ok () := by
    unfold MotorCommandBundle.validateContract at h
    simp only [contract_seq_eq_ok_iff, contract_forM_eq_ok_iff] at h
    exact h.2.2.2.1
  have hchannels : (bundle.channels.flatMap (ChannelCommand.writes (D := D))).all Write.accepted
      = true := by
    rw [List.all_flatMap, List.all_eq_true]
    exact fun command hcommand => accepted_command (hcommands command hcommand)
  have hgroups : (bundle.coordination.groups.flatMap
      (CoordinationGroup.writes (R := F32Value) (D := D))).all Write.accepted = true := by
    simp [CoordinationGroup.writes, MotorChannel.writes, Write.sequence, Write.accepted,
      List.all_flatMap]
  simp only [MotorCommandBundle.writes, Write.sequence, List.all_append, List.all_cons,
    List.all_nil, Write.accepted, hchannels, hgroups, Bool.and_self]

/-- The sequence id of a bundle does not matter to its contract. -/
theorem validateContract_normalized {bundle : MotorCommandBundle F32Value}
    (h : bundle.validateContract = .ok ()) :
    ({ bundle with sequenceId := ⟨1⟩ } : MotorCommandBundle F32Value).validateContract
      = .ok () := by
  unfold MotorCommandBundle.validateContract at h ⊢
  simp only [contract_seq_eq_ok_iff] at h ⊢
  exact ⟨h.1, h.2.1, by decide, h.2.2.2⟩

variable [DecidableEq D] {finish : String → List (Write F32Value D) → D} {absent : D}

/-- **A receipt accepts its bundle alone**, up to the sequence id. -/
theorem validateBundle_eq_ok_iff (hfinish : Function.Injective2 finish)
    {bundle other : MotorCommandBundle F32Value} {slots : Fin 6 → UInt16} {s : JointSelection D}
    (hs : JointSelection.new finish absent slots bundle = .ok s)
    (hbundle : bundle.validateContract = .ok ()) (hother : other.validateContract = .ok ()) :
    s.validateBundle finish absent other = .ok () ↔
      ({ other with sequenceId := ⟨1⟩ } : MotorCommandBundle F32Value)
        = { bundle with sequenceId := ⟨1⟩ } := by
  obtain ⟨digest, hdigest, hs⟩ := contract_bind_eq_ok_iff.1 hs
  obtain ⟨hvalid, hs⟩ := contract_check_eq_ok_iff.1 hs
  obtain rfl := Except.ok.inj hs
  rw [normalizedMotorBundleDigest, canonicalDigest_eq_ok (validateContract_normalized hbundle)]
    at hdigest
  obtain rfl := Except.ok.inj hdigest
  rw [JointSelection.validateBundle, contract_check_eq_ok_iff, contract_bind_eq_ok_iff,
    normalizedMotorBundleDigest, canonicalDigest_eq_ok (validateContract_normalized hother)]
  constructor
  · rintro ⟨-, digest, hdigest, heq⟩
    obtain rfl := Except.ok.inj hdigest
    rw [reject_eq_ok_iff, not_not] at heq
    exact MotorCommandBundle.tells_writes.key_eq (hfinish heq).2
  · intro heq
    exact ⟨hvalid, _, rfl, reject_eq_ok_iff.2 (not_not.2 (by rw [heq]))⟩

end Digest

/-! ### Every drawn action is executed -/

namespace Drawn

variable {candidates : List ActionCandidate} {channels : List MotorChannel}
  {representative : UInt16} {m : Fin 6 → Option UInt16} {first : ActionCandidate}

/-- The slot that the representative forces. -/
theorem forced_eq (h : Drawn candidates channels representative m first) :
    m (headSlot (selectedChannel first.kind)) = some representative :=
  h.forced _ (forcedSlot_eq first.kind)

/-- A slot that is not forced has a candidate of its own, on its own channel. -/
theorem own (h : Drawn candidates channels representative m first) {slot : Fin 6} {i : UInt16}
    (hslot : slot ≠ headSlot (selectedChannel first.kind)) (hi : m slot = some i) :
    i ≠ representative ∧ (∃ head ∈ channels, headSlot head = slot)
      ∧ ∃ c, candidates[i.toNat]? = some c ∧ motorSlot c.kind = some slot := by
  have hfree : forcedSlot first.kind ≠ some slot := by
    rw [forcedSlot_eq]
    exact fun heq => hslot (Option.some.inj heq).symm
  obtain ⟨hhead, c, hc, hkind⟩ := h.chosen slot i hfree hi
  refine ⟨?_, hhead, c, hc, hkind⟩
  rintro rfl
  obtain rfl := Option.some.inj (h.first_eq.symm.trans hc)
  exact hfree (forcedSlot_of_motorSlot hkind)

/-- What is chosen is a candidate. -/
theorem lt_length (h : Drawn candidates channels representative m first) {slot : Fin 6}
    {i : UInt16} (hi : m slot = some i) : i.toNat < candidates.length := by
  by_cases hslot : slot = headSlot (selectedChannel first.kind)
  · subst hslot
    obtain rfl := Option.some.inj (h.forced_eq.symm.trans hi)
    exact (List.getElem?_eq_some_iff.1 h.first_eq).1
  · obtain ⟨-, -, c, hc, -⟩ := h.own hslot hi
    exact (List.getElem?_eq_some_iff.1 hc).1

theorem injective (h : Drawn candidates channels representative m first) {slot slot' : Fin 6}
    {i : UInt16} (hi : m slot = some i) (hi' : m slot' = some i) : slot = slot' := by
  by_cases hslot : slot = headSlot (selectedChannel first.kind)
  · by_cases hslot' : slot' = headSlot (selectedChannel first.kind)
    · rw [hslot, hslot']
    · subst hslot
      obtain rfl := Option.some.inj (h.forced_eq.symm.trans hi)
      exact absurd rfl (h.own hslot' hi').1
  · obtain ⟨hne, -, c, hc, hkind⟩ := h.own hslot hi
    by_cases hslot' : slot' = headSlot (selectedChannel first.kind)
    · subst hslot'
      exact absurd (Option.some.inj (hi'.symm.trans h.forced_eq)) hne
    · obtain ⟨-, -, c', hc', hkind'⟩ := h.own hslot' hi'
      obtain rfl := Option.some.inj (hc.symm.trans hc')
      exact Option.some.inj (hkind.symm.trans hkind')

/-- The slots of a drawn action are accepted by a receipt. -/
theorem exists_new {D : Type} [DecidableEq D] {finish : String → List (Write F32Value D) → D}
    {absent : D} (habsent : ∀ domain writes, finish domain writes ≠ absent)
    (h : Drawn candidates channels representative m first)
    {bundle : MotorCommandBundle F32Value} (hbundle : bundle.validateContract = .ok ()) :
    ∃ s, JointSelection.new finish absent (candidateSlots m) bundle = .ok s := by
  have hvalue : ∀ {slot : Fin 6} {i : UInt16}, m slot = some i →
      (candidateSlots m slot).toNat = i.toNat + 1 := by
    intro slot i hi
    have hlt := h.lt_length hi
    have hcount := h.count
    rw [candidateSlots, hi, Option.elim_some, UInt16.toNat_add]
    exact Nat.mod_eq_of_lt (by rw [UInt16.toNat_one]; omega)
  have hnone : ∀ {slot : Fin 6}, m slot = none → candidateSlots m slot = 0 := by
    intro slot hslot
    rw [candidateSlots, hslot, Option.elim_none]
  refine ⟨_, contract_bind_eq_ok_iff.2 ⟨_, canonicalDigest_eq_ok
    (validateContract_normalized hbundle), contract_check_eq_ok_iff.2 ⟨?_, rfl⟩⟩⟩
  rw [JointSelection.validate, contract_seq_eq_ok_iff, reject_eq_ok_iff, reject_eq_ok_iff]
  push Not
  refine ⟨⟨rfl, habsent _ _, ⟨headSlot (selectedChannel first.kind), ?_⟩, fun slot => ?_⟩,
    fun slot hslot earlier hlt heq => ?_⟩
  · have hforced := hvalue h.forced_eq
    intro hzero
    dsimp only at hzero
    rw [hzero] at hforced
    cases hforced
  · cases hslot : m slot with
    | none =>
      dsimp only
      rw [hnone hslot]
      exact Nat.zero_le _
    | some i =>
      have hlt := h.lt_length hslot
      have hcount := h.count
      dsimp only
      rw [hvalue hslot, maxActionCandidates]
      omega
  · cases hi : m slot with
    | none => exact hslot (hnone hi)
    | some i =>
      cases hi' : m earlier with
      | none =>
        dsimp only at heq hslot
        rw [hnone hi'] at heq
        exact hslot heq.symm
      | some i' =>
        have hval := congrArg UInt16.toNat heq
        dsimp only at hval
        rw [hvalue hi, hvalue hi'] at hval
        obtain rfl : i' = i := UInt16.toNat_inj.1 (by omega)
        exact hlt.ne (h.injective hi' hi)

/-- Every chosen slot has a command. -/
theorem exists_slotCommand (h : Drawn candidates channels representative m first)
    (hcandidates : ∀ c ∈ candidates, c.validateContract = .ok ()) {organismId : OrganismId}
    (horganism : organismId.validate = .ok ()) {command : ActionCommand}
    (hcommand : command.validateContract = .ok ()) {slot : Fin 6} (hslot : (m slot).isSome) :
    ∃ c, slotCommand organismId candidates representative command m slot = .ok c
      ∧ c.channel = slotChannel slot ∧ c.validateContract = .ok () := by
  by_cases hrep : m slot = some representative
  · obtain ⟨c, hc, hchannel, -, hvalid⟩ := exists_channelCommand hcommand (slotChannel slot)
    exact ⟨c, by rw [slotCommand, if_pos hrep, hc], hchannel, hvalid⟩
  · obtain ⟨i, hi⟩ := Option.isSome_iff_exists.1 hslot
    have hforced : slot ≠ headSlot (selectedChannel first.kind) :=
      fun heq => hrep (heq ▸ h.forced_eq)
    obtain ⟨-, -, candidate, hcandidate, -⟩ := h.own hforced hi
    have hmem : candidate ∈ candidates := List.mem_of_getElem? hcandidate
    have hparts := hcandidates candidate hmem
    have hconfidence : Confidence.new candidate.sensorConfidence = .ok () := by
      rw [ActionCandidate.validateContract] at hparts
      simp only [contract_seq_eq_ok_iff, asCandidateError_eq_ok_iff] at hparts
      exact hparts.2.2.2.1
    obtain ⟨own, hown, -, hownValid⟩ :=
      exists_toCommand (hcandidates candidate hmem) horganism hconfidence
    obtain ⟨c, hc, hchannel, -, hvalid⟩ := exists_channelCommand hownValid (slotChannel slot)
    refine ⟨c, ?_, hchannel, hvalid⟩
    rw [slotCommand, if_neg hrep, hi, Option.bind_some, hcandidate]
    exact contract_bind_eq_ok_iff.2 ⟨own, hown, hc⟩

/-- What the builder makes of a head: the command of its slot, unless the representative has it. -/
theorem headCommand_eq (h : Drawn candidates channels representative m first)
    {organismId : OrganismId} {command : ActionCommand} {head : MotorChannel}
    (hhead : slotChannel (headSlot head) = head)
    {c : ChannelCommand F32Value} (hc : (m (headSlot head)).isSome →
      slotCommand organismId candidates representative command m (headSlot head) = .ok c) :
    headCommand organismId candidates (candidateSlots m) representative head
      = .ok (if (m (headSlot head)).isSome
          ∧ headSlot head ≠ headSlot (selectedChannel first.kind) then some c else none) := by
  unfold headCommand
  cases hi : m (headSlot head) with
  | none =>
    have hzero : candidateSlots m (headSlot head) = 0 := by
      rw [candidateSlots, hi, Option.elim_none]
    simp only [hzero, true_or, if_true, Option.isSome_none, Bool.false_eq_true, false_and, if_false]
    rfl
  | some i =>
    have hencoded : candidateSlots m (headSlot head) = i + 1 := by
      rw [candidateSlots, hi, Option.elim_some]
    have hsub : i + 1 - 1 = i := UInt16.add_sub_cancel i 1
    have hne : i + 1 ≠ 0 := by
      have hlt := h.lt_length hi
      have hcount := h.count
      intro hzero
      have hval := congrArg UInt16.toNat hzero
      rw [UInt16.toNat_add, UInt16.toNat_one, UInt16.toNat_zero] at hval
      omega
    simp only [hencoded, hsub, hne, false_or, Option.isSome_some, true_and]
    by_cases hforced : headSlot head = headSlot (selectedChannel first.kind)
    · obtain rfl := Option.some.inj ((hforced ▸ hi).symm.trans h.forced_eq)
      rw [if_pos rfl, if_neg fun hslot => hslot hforced]
      rfl
    · obtain ⟨hrep, -, candidate, hcandidate, hkind⟩ := h.own hforced hi
      have hslot := hc (by rw [hi]; rfl)
      rw [slotCommand, hi, if_neg fun heq => hrep (Option.some.inj heq), Option.bind_some,
        hcandidate] at hslot
      obtain ⟨own, hown, hchannel⟩ := contract_bind_eq_ok_iff.1 hslot
      rw [if_neg hrep, if_pos hforced, hcandidate]
      refine contract_bind_eq_ok_iff.2 ⟨own, hown, contract_check_eq_ok_iff.2 ⟨?_, ?_⟩⟩
      · have hownKind : own.kind = candidate.kind := by
          obtain ⟨-, hown⟩ := contract_check_eq_ok_iff.1 hown
          obtain ⟨-, hown⟩ := contract_check_eq_ok_iff.1 hown
          obtain ⟨-, hown⟩ := contract_check_eq_ok_iff.1 hown
          rw [← Except.ok.inj hown]
        rw [reject_eq_ok_iff, not_not, hownKind, factorizedMotorChannelForAction_eq hkind, hhead]
      · rw [hhead] at hchannel
        exact contract_bind_eq_ok_iff.2 ⟨c, hchannel, rfl⟩

/-- The chosen slots are those of the enabled heads and the one that the representative forces. -/
theorem perm_chosenSlots (h : Drawn candidates channels representative m first)
    (hnodup : (channels.map headSlot).Nodup) :
    ((channels.map headSlot).filter (fun slot => (m slot).isSome
        ∧ slot ≠ headSlot (selectedChannel first.kind))
      ++ [headSlot (selectedChannel first.kind)]).Perm (chosenSlots m) := by
  set forced := headSlot (selectedChannel first.kind) with hforced
  refine (List.perm_ext_iff_of_nodup ?_ ?_).2 fun slot => ?_
  · rw [List.nodup_append]
    refine ⟨hnodup.filter _, List.nodup_singleton _, fun slot hslot slot' hslot' => ?_⟩
    rw [List.mem_singleton.1 hslot']
    exact (of_decide_eq_true (List.mem_filter.1 hslot).2).2
  · exact (List.nodup_finRange 6).filter _
  · rw [mem_chosenSlots, List.mem_append, List.mem_filter, List.mem_singleton, decide_eq_true_eq]
    constructor
    · rintro (⟨-, hsome, -⟩ | rfl)
      · exact hsome
      · rw [h.forced_eq]
        rfl
    · intro hsome
      by_cases heq : slot = forced
      · exact .inr heq
      · obtain ⟨i, hi⟩ := Option.isSome_iff_exists.1 hsome
        obtain ⟨-, ⟨head, hhead, rfl⟩, -⟩ := h.own heq hi
        exact .inl ⟨List.mem_map_of_mem hhead, hsome, heq⟩

/-- **The bundle of a drawn action**: one command for each chosen slot, in their order. -/
theorem exists_bundle (h : Drawn candidates channels representative m first) {heads : MotorHeads}
    (hchannels : heads.factorizedMotorChannels = .ok channels)
    (hcandidates : ∀ c ∈ candidates, c.validateContract = .ok ()) {organismId : OrganismId}
    (horganism : organismId.validate = .ok ()) {sequenceId : ExperienceSequenceId}
    (hsequence : sequenceId.validate = .ok ()) (tick : Tick) {command : ActionCommand}
    (hkind : command.kind = first.kind) (hcommand : command.validateContract = .ok ())
    (quantize : F32Value → UInt32) {speech : Option SpeechMotorPayload}
    (hspeech : ∀ payload, speech = some payload →
      payload.validateContract = .ok () ∧ m (headSlot .vocal) ≠ none) (prompted : Bool) :
    ∃ commands bundle,
      (chosenSlots m).mapM (slotCommand organismId candidates representative command m)
        = .ok commands
      ∧ commands.map ChannelCommand.channel = (chosenSlots m).map slotChannel
      ∧ factorizedMotorBundleForCandidates quantize organismId sequenceId tick candidates
        (candidateSlots m) channels command representative speech prompted = .ok bundle
      ∧ bundle.channels = commands.map (speak quantize speech prompted)
      ∧ bundle.validateContract = .ok () := by
  set forced := headSlot (selectedChannel first.kind) with hforced
  have hexists : ∀ slot, (m slot).isSome → ∃ c,
      slotCommand organismId candidates representative command m slot = .ok c
        ∧ c.channel = slotChannel slot ∧ c.validateContract = .ok () :=
    fun slot hslot => h.exists_slotCommand hcandidates horganism hcommand hslot
  have hforcedSome : (m forced).isSome := by rw [h.forced_eq]; rfl
  have : Nonempty (ChannelCommand F32Value) := ⟨(hexists forced hforcedSome).choose⟩
  choose! cmd hcmd hchannel hvalid using hexists
  -- the commands of the heads, then that of the representative
  set slots := (channels.map headSlot).filter (fun slot => (m slot).isSome ∧ slot ≠ forced)
    ++ [forced] with hslots
  have hperm : slots.Perm (chosenSlots m) := h.perm_chosenSlots (nodup_headSlots hchannels)
  have hmem : ∀ slot ∈ slots, (m slot).isSome := fun slot hslot =>
    mem_chosenSlots.1 (hperm.mem_iff.1 hslot)
  have hcommands : channels.mapM (headCommand organismId candidates (candidateSlots m)
      representative) = .ok (channels.map fun head =>
        if (m (headSlot head)).isSome ∧ headSlot head ≠ forced then some (cmd (headSlot head))
        else none) :=
    contract_mapM_ok fun head hhead =>
      h.headCommand_eq (slotChannel_headSlot hchannels hhead) fun hslot => hcmd _ hslot
  have hothers : (channels.map fun head =>
      if (m (headSlot head)).isSome ∧ headSlot head ≠ forced then some (cmd (headSlot head))
      else none).filterMap id
      = ((channels.map headSlot).filter fun slot => (m slot).isSome ∧ slot ≠ forced).map cmd := by
    rw [List.filterMap_map, List.filter_map, List.map_map, ← List.filterMap_eq_map,
      List.filterMap_filter]
    exact List.filterMap_congr fun head _ => by
      simp only [Function.comp_apply, id_eq, decide_eq_true_eq]
  have hselected : channelCommandForAction (selectedChannel command.kind) command
      = .ok (cmd forced) := by
    have hslot := hcmd forced hforcedSome
    rw [slotCommand, if_pos h.forced_eq, hforced, slotChannel_selectedChannel] at hslot
    rw [hkind, hslot]
  have hplaced : placeSelected (cmd forced)
      (((channels.map headSlot).filter fun slot => (m slot).isSome ∧ slot ≠ forced).map cmd)
      = slots.map cmd := by
    rw [placeSelected_eq_append, hslots, List.map_append, List.map_singleton]
    intro c hc
    obtain ⟨slot, hslot, rfl⟩ := List.mem_map.1 hc
    obtain ⟨hsome, hne⟩ := of_decide_eq_true (List.mem_filter.1 hslot).2
    rw [hchannel slot hsome, hchannel forced hforcedSome]
    exact fun heq => hne (slotChannel_injective heq)
  have hslotChannels : ∀ l : List (Fin 6), (∀ slot ∈ l, (m slot).isSome) →
      (l.map cmd).map ChannelCommand.channel = l.map slotChannel := by
    intro l hl
    rw [List.map_map]
    exact List.map_congr_left fun slot hslot => hchannel slot (hl slot hslot)
  have hchosen : ∀ slot ∈ chosenSlots m, (m slot).isSome := fun slot => mem_chosenSlots.1
  have hchosenNodup : (chosenSlots m).Nodup := (List.nodup_finRange 6).filter _
  have hspoken : addSpeech quantize (slots.map cmd) speech prompted
      = .ok ((slots.map cmd).map (speak quantize speech prompted)) := by
    refine addSpeech_eq_ok ?_ fun payload hpayload => ?_
    · rw [hslotChannels slots hmem]
      exact (hperm.nodup_iff.2 hchosenNodup).map slotChannel_injective
    · obtain ⟨hpayload, hvocal⟩ := hspeech payload hpayload
      have hvocalSome := Option.isSome_iff_ne_none.2 hvocal
      have hvocalSlot := hperm.mem_iff.2 (mem_chosenSlots.2 hvocalSome)
      exact ⟨hpayload, cmd _, List.mem_map_of_mem hvocalSlot, hchannel _ hvocalSome⟩
  have hsorted : sortByKey (fun c => (factorizedMotorChannelOrder c.channel).toNat)
      ((slots.map cmd).map (speak quantize speech prompted))
      = ((chosenSlots m).map cmd).map (speak quantize speech prompted) :=
    sortByKey_speak hchannel hperm quantize speech prompted
  have hnodup : ((((chosenSlots m).map cmd).map (speak quantize speech prompted)).map
      ChannelCommand.channel).Nodup := by
    have hsame : ChannelCommand.channel ∘ speak quantize speech prompted
        = ChannelCommand.channel := funext fun c => channel_speak quantize speech prompted c
    rw [List.map_map, hsame, hslotChannels _ hchosen]
    exact hchosenNodup.map slotChannel_injective
  have hlength : (((chosenSlots m).map cmd).map (speak quantize speech prompted)).length
      ≤ maxMotorChannels := by
    rw [List.length_map, List.length_map]
    exact (List.length_filter_le _ _).trans_eq List.length_finRange
  obtain ⟨bundle, hbundle, hbundleChannels, hbundleValid⟩ := exists_coordinatedBundle horganism
    hsequence tick hlength (fun c hc => by
      obtain ⟨unspoken, hunspoken, rfl⟩ := List.mem_map.1 hc
      obtain ⟨slot, hslot, rfl⟩ := List.mem_map.1 hunspoken
      exact validateContract_speak (hvalid slot (hchosen slot hslot))
        fun payload hpayload => (hspeech payload hpayload).1) hnodup
  refine ⟨(chosenSlots m).map cmd, bundle,
    contract_mapM_ok fun slot hslot => hcmd slot (hchosen slot hslot),
    hslotChannels _ hchosen, ?_, hbundleChannels, hbundleValid⟩
  refine contract_bind_eq_ok_iff.2 ⟨_, hcommands, ?_⟩
  rw [hothers]
  refine contract_bind_eq_ok_iff.2 ⟨cmd forced, hselected, ?_⟩
  rw [hplaced]
  refine contract_bind_eq_ok_iff.2 ⟨_, hspoken, ?_⟩
  rw [hsorted]
  exact hbundle

/-- The slot of the representative is the one of the channel of its kind. -/
theorem eq_representative_iff (h : Drawn candidates channels representative m first)
    (slot : Fin 6) :
    m slot = some representative ↔ slotChannel slot = selectedChannel first.kind := by
  constructor
  · intro hslot
    rw [h.injective hslot h.forced_eq, slotChannel_selectedChannel]
  · intro hslot
    rw [← headSlot_slotChannel slot, hslot, h.forced_eq]

end Drawn

/-- **Every sampled action executes and is bound by its receipt.**  The candidates of a drawn
action, as slots, make a bundle that holds one command for each chosen slot, on the channel of the
slot and in their order; the command of the representative is on the channel of its kind, every
other one is that of its candidate.  The receipt of slots and bundle is made, and accepts a valid
bundle exactly when it is this one up to its sequence id. -/
theorem sampled_action_executes {F : Type} [FloatOps F] [FloatLog F] {D : Type} [DecidableEq D]
    {finish : String → List (Write F32Value D) → D} {absent : D}
    (hfinish : Function.Injective2 finish)
    (habsent : ∀ domain writes, finish domain writes ≠ absent) {heads : MotorHeads}
    {candidates : List ActionCandidate} {logits : List F} {seed counter : UInt32}
    {temperature : F} {a : PpoJointAction F}
    (hsample : sampleCpuJointAction heads candidates logits seed counter temperature = .ok a)
    (hcandidates : ∀ c ∈ candidates, c.validateContract = .ok ()) {organismId : OrganismId}
    (horganism : organismId.validate = .ok ()) {sequenceId : ExperienceSequenceId}
    (hsequence : sequenceId.validate = .ok ()) (tick : Tick) {confidence : F32Value}
    (hconfidence : Confidence.new confidence = .ok ()) (quantize : F32Value → UInt32)
    {speech : Option SpeechMotorPayload}
    (hspeech : ∀ payload, speech = some payload →
      payload.validateContract = .ok () ∧ a.motorCandidates (headSlot .vocal) ≠ none)
    (prompted : Bool) :
    ∃ channels first command commands bundle s,
      heads.factorizedMotorChannels = .ok channels
      ∧ candidates[a.representative.toNat]? = some first
      ∧ first.toCommand organismId confidence = .ok command
      ∧ (chosenSlots a.motorCandidates).mapM (slotCommand organismId candidates a.representative
        command a.motorCandidates) = .ok commands
      ∧ commands.map ChannelCommand.channel = (chosenSlots a.motorCandidates).map slotChannel
      ∧ (∀ slot, a.motorCandidates slot = some a.representative ↔
        slotChannel slot = selectedChannel first.kind)
      ∧ factorizedMotorBundleForCandidates quantize organismId sequenceId tick candidates
        (candidateSlots a.motorCandidates) channels command a.representative speech prompted
        = .ok bundle
      ∧ bundle.channels = commands.map (speak quantize speech prompted)
      ∧ JointSelection.new finish absent (candidateSlots a.motorCandidates) bundle = .ok s
      ∧ ∀ other : MotorCommandBundle F32Value, other.validateContract = .ok () →
        (s.validateBundle finish absent other = .ok () ↔
          ({ other with sequenceId := ⟨1⟩ } : MotorCommandBundle F32Value)
            = { bundle with sequenceId := ⟨1⟩ }) := by
  obtain ⟨channels, first, hchannels, h⟩ := sampleCpuJointAction_eq_ok hsample
  have hfirst : first ∈ candidates := List.mem_of_getElem? h.first_eq
  obtain ⟨command, hcommand, hkind, hvalid⟩ :=
    exists_toCommand (hcandidates first hfirst) horganism hconfidence
  obtain ⟨commands, bundle, hcommands, hcommandChannels, hbundle, hbundleChannels, hbundleValid⟩ :=
    h.exists_bundle hchannels hcandidates horganism hsequence tick hkind hvalid quantize hspeech
      prompted
  obtain ⟨s, hs⟩ := h.exists_new habsent hbundleValid
  exact ⟨channels, first, command, commands, bundle, s, hchannels, h.first_eq, hcommand, hcommands,
    hcommandChannels, h.eq_representative_iff, hbundle, hbundleChannels, hs,
    fun other hother => validateBundle_eq_ok_iff hfinish hs hbundleValid hother⟩

/-- The logarithm to first order at one. -/
instance : FloatLog ℚ := ⟨fun x => x - 1⟩

/-! ### An idle creature that walks, grasps and speaks -/

/-- The calls on a builder that a write stands for. -/
def builderCalls : Write F32Value (Digest256 × ℕ) → List DigestWrite
  | .bool value => [.bool value]
  | .u8 value => [.u8 value]
  | .u16 value => [.u16 value]
  | .u32 value => [.u32 value]
  | .u64 value => [.u64 value]
  | .f32 value => [.f32 value.float]
  | .sequenceLen len => [.sequenceLen len.toUInt64]
  | .none => [.none]
  | .some => [.some]
  | .words digest => digest.1.words.map .u64

/-- The digest of the writes, with a number that tells them apart. -/
def numberedDigest (number : List ℕ × List (Write F32Value (Digest256 × ℕ)) → ℕ) (domain : String)
    (writes : List (Write F32Value (Digest256 × ℕ))) : Digest256 × ℕ :=
  ((DigestWrite.after (.new (asciiBytes domain)) (writes.flatMap builderCalls)).finish256,
    number (domain.toList.map Char.toNat, writes))

theorem numberedDigest_injective {number : List ℕ × List (Write F32Value (Digest256 × ℕ)) → ℕ}
    (h : Function.Injective number) : Function.Injective2 (numberedDigest number) := by
  intro a b s t hequal
  obtain ⟨hdomain, hwrites⟩ := Prod.mk.inj (h (Prod.mk.inj hequal).2)
  exact ⟨String.toList_inj.1 (List.map_injective_iff.2 (fun _ _ => Char.toNat_inj.1) hdomain),
    hwrites⟩

theorem numberedDigest_ne_zero (number : List ℕ × List (Write F32Value (Digest256 × ℕ)) → ℕ)
    (domain : String) (writes : List (Write F32Value (Digest256 × ℕ))) :
    numberedDigest number domain writes ≠ (.zero, 0) := fun h =>
  CanonicalDigestBuilder.finish256_ne_zero _ (Prod.mk.inj h).1

instance : Countable Digest256 :=
  (show Function.Injective fun d : Digest256 =>
      (d.w0.toNat, d.w1.toNat, d.w2.toNat, d.w3.toNat) from fun a b h => by
    cases a
    cases b
    simpa [UInt64.toNat_inj] using h).countable

/-- A candidate without a target. -/
def sampleCandidate (index : UInt16) (kind : ActionKind) (family : CandidateActionFamily) :
    ActionCandidate where
  candidateIndex := index
  actionId := ⟨index.toUInt32 + 1⟩
  kind
  family
  target := ⟨none, none⟩
  features := fun _ => F32Value.zero
  sensorConfidence := F32Value.one
  requiredEffort := F32Value.zero
  minDuration := ⟨1⟩
  maxDuration := ⟨1⟩

/-- Two of the candidates are for the legs. -/
def sampleCandidates : List ActionCandidate :=
  [sampleCandidate 0 .idle .idle, sampleCandidate 1 .move .approach,
    sampleCandidate 2 .interact .contact, sampleCandidate 3 .vocalize .other,
    sampleCandidate 4 .move .avoid]

def sampleLogits : List ℚ := [0, -1 / 2, -1 / 3, -1 / 4, -1 / 5]

def sampleSpeech : SpeechMotorPayload := ⟨.declare, [⟨4⟩], F32Value.one⟩

/-- With three heads there is none for the posture, the channel of the representative; the action
takes it from the representative, and carries the speech. -/
theorem sampled_action_executes_vocalize :
    ∃ (finish : String → List (Write F32Value (Digest256 × ℕ)) → Digest256 × ℕ)
      (a : PpoJointAction ℚ),
      Function.Injective2 finish ∧
      sampleCpuJointAction ⟨3, 1, 3⟩ sampleCandidates sampleLogits 1 2 1 = .ok a ∧
      ∃ channels first command commands bundle s,
        (MotorHeads.mk 3 1 3).factorizedMotorChannels = .ok channels
        ∧ .posture ∉ channels
        ∧ sampleCandidates[a.representative.toNat]? = some first
        ∧ first.toCommand ⟨7⟩ F32Value.one = .ok command
        ∧ (chosenSlots a.motorCandidates).mapM (slotCommand ⟨7⟩ sampleCandidates
          a.representative command a.motorCandidates) = .ok commands
        ∧ commands.map ChannelCommand.channel = [.locomotion, .manipulation, .vocal, .posture]
        ∧ a.motorCandidates (headSlot .posture) = some a.representative
        ∧ factorizedMotorBundleForCandidates (fun _ => 65535) ⟨7⟩ ⟨5⟩ ⟨9⟩ sampleCandidates
          (candidateSlots a.motorCandidates) channels command a.representative
          (some sampleSpeech) true = .ok bundle
        ∧ bundle.channels = commands.map (speak (fun _ => 65535) (some sampleSpeech) true)
        ∧ JointSelection.new finish (.zero, 0) (candidateSlots a.motorCandidates) bundle = .ok s
        ∧ ∀ other : MotorCommandBundle F32Value, other.validateContract = .ok () →
          (s.validateBundle finish (.zero, 0) other = .ok () ↔
            ({ other with sequenceId := ⟨1⟩ } : MotorCommandBundle F32Value)
              = { bundle with sequenceId := ⟨1⟩ }) := by
  obtain ⟨number, hnumber⟩ :=
    exists_injective_nat (List ℕ × List (Write F32Value (Digest256 × ℕ)))
  have hdrawn : (sampleCpuJointAction ⟨3, 1, 3⟩ sampleCandidates sampleLogits 1 2 1).map
      (fun a => (a.motorCandidates (headSlot .vocal), a.motorCandidates (headSlot .posture),
        a.representative, (chosenSlots a.motorCandidates).map slotChannel))
      = .ok (some 3, some 0, 0, [.locomotion, .manipulation, .vocal, .posture]) := by
    decide +kernel
  have hcandidates : ∀ c ∈ sampleCandidates, c.validateContract = .ok () := by decide
  obtain ⟨a, hsample, ha⟩ := exists_of_map_eq_ok hdrawn
  simp only [Prod.mk.injEq] at ha
  obtain ⟨hvocal, hposture, hrepresentative, hslots⟩ := ha
  obtain ⟨channels, first, command, commands, bundle, s, hchannels, hfirst, hcommand, hcommands,
      hcommandChannels, -, hbundle, hbundleChannels, hs, hother⟩ :=
    sampled_action_executes (numberedDigest_injective hnumber) (numberedDigest_ne_zero number)
      hsample hcandidates (show OrganismId.validate ⟨7⟩ = .ok () by decide)
      (show ExperienceSequenceId.validate ⟨5⟩ = .ok () by decide) ⟨9⟩ one_valid (fun _ => 65535)
      (fun payload (hpayload : some sampleSpeech = some payload) =>
        ⟨Option.some.inj hpayload ▸ by decide, by rw [hvocal]; exact Option.some_ne_none _⟩) true
  refine ⟨_, a, numberedDigest_injective hnumber, hsample, channels, first, command, commands,
    bundle, s, hchannels, ?_, hfirst, hcommand, hcommands, hcommandChannels.trans hslots,
    by rw [hposture, hrepresentative], hbundle, hbundleChannels, hs, hother⟩
  cases hchannels
  decide

end Training

end ALife
