/-
# The commands of a joint action

The sampler, the builder and the arbiter each have a table of their own from
kinds to channels; `motorSlot_eq`, `forcedSlot_eq` and `headSlot_slotChannel` say
that they agree.  Valid candidates become valid commands (`exists_toCommand`,
`exists_channelCommand`), and valid commands on distinct channels make a bundle
(`exists_coordinatedBundle`).
-/

import ALife.Training.JointSampling

namespace ALife

open Machine

namespace Training

/-- The channel of a slot that is chosen; the last slot has none of its own. -/
def slotChannel (slot : Fin 6) : MotorChannel :=
  ([.locomotion, .orientation, .manipulation, .vocal, .posture] : List MotorChannel)[slot.val]?.getD
    (.speciesSpecific 0)

/-! ### The tables agree -/

theorem headSlot_slotChannel (slot : Fin 6) : headSlot (slotChannel slot) = slot := by
  revert slot
  decide

theorem motorSlot_eq (kind : ActionKind) :
    motorSlot kind = (factorizedMotorChannelForAction kind).map headSlot := by
  cases kind <;> rfl

theorem forcedSlot_eq (kind : ActionKind) :
    forcedSlot kind = some (headSlot (selectedChannel kind)) := by
  cases kind <;> rfl

theorem forcedSlot_of_motorSlot {kind : ActionKind} {slot : Fin 6}
    (h : motorSlot kind = some slot) : forcedSlot kind = some slot := by
  cases kind <;> first | exact h | cases h

theorem slotChannel_selectedChannel (kind : ActionKind) :
    slotChannel (headSlot (selectedChannel kind)) = selectedChannel kind := by
  cases kind <;> rfl

/-- A head channel is the channel of its slot. -/
theorem slotChannel_headSlot {heads : MotorHeads} {channels : List MotorChannel}
    (h : heads.factorizedMotorChannels = .ok channels) {head : MotorChannel}
    (hhead : head ∈ channels) : slotChannel (headSlot head) = head := by
  obtain ⟨-, h⟩ := contract_check_eq_ok_iff.1 h
  obtain rfl := Except.ok.inj h
  have hall : ∀ head ∈ factorizedMotorChannelList, slotChannel (headSlot head) = head := by decide
  exact hall head (List.mem_of_mem_take hhead)

theorem nodup_headSlots {heads : MotorHeads} {channels : List MotorChannel}
    (h : heads.factorizedMotorChannels = .ok channels) : (channels.map headSlot).Nodup := by
  obtain ⟨-, h⟩ := contract_check_eq_ok_iff.1 h
  obtain rfl := Except.ok.inj h
  have hall : (factorizedMotorChannelList.map headSlot).Nodup := by decide
  exact hall.sublist ((List.take_sublist _ _).map _)

/-- The kinds that a slot is drawn for are those of its channel. -/
theorem factorizedMotorChannelForAction_eq {kind : ActionKind} {slot : Fin 6}
    (h : motorSlot kind = some slot) :
    factorizedMotorChannelForAction kind = some (slotChannel slot) := by
  cases kind <;> cases h <;> rfl

/-! ### Commands -/

theorem asCandidateError_eq_ok_iff {x : Contract Unit} :
    asCandidateError x = .ok () ↔ x = .ok () := by
  cases x with
  | ok u => rfl
  | error e => exact ⟨nofun, nofun⟩

theorem validate_target_eq_ok_iff {t : ActionTarget F32Value} : t.validate = .ok () ↔
    (∀ id, t.entity = some id → id.validate = .ok ())
      ∧ ∀ p, t.position = some p → p.validate = .ok () := by
  obtain ⟨entity, position⟩ := t
  unfold ActionTarget.validate
  cases entity <;> cases position <;>
    simp only [contract_seq_eq_ok_iff, reduceCtorEq, false_implies, implies_true, true_and,
      and_true, Option.some.injEq, forall_eq']

theorem one_valid : Intensity.new F32Value.one = .ok () := by decide

theorem zero_vec_valid :
    Vec3f.validate (⟨F32Value.zero, F32Value.zero, F32Value.zero⟩ : Vec3f F32Value) = .ok () := by
  decide

/-- What the contract of a command promises. -/
theorem of_validate_command {c : ActionCommand} (h : c.validateContract = .ok ()) :
    c.actionId.validate = .ok ()
      ∧ (⟨c.targetEntity, c.targetPosition⟩ : ActionTarget F32Value).validate = .ok ()
      ∧ Intensity.new c.intensity = .ok () ∧ c.durationTicks.raw ≠ 0
      ∧ Confidence.new c.confidence = .ok () := by
  rw [ActionCommand.validateContract] at h
  simp only [contract_seq_eq_ok_iff, reject_eq_ok_iff] at h
  exact ⟨h.2.2.1, h.2.2.2.1, h.2.2.2.2.1, h.2.2.2.2.2.1, h.2.2.2.2.2.2⟩

/-- A command goes on any channel. -/
theorem exists_channelCommand {command : ActionCommand} (h : command.validateContract = .ok ())
    (channel : MotorChannel) : ∃ c, channelCommandForAction channel command = .ok c
      ∧ c.channel = channel ∧ c.payload = ⟨[]⟩ ∧ c.validateContract = .ok () := by
  obtain ⟨hid, htarget, hintensity, hduration, hconfidence⟩ := of_validate_command h
  have hposition := (validate_target_eq_ok_iff.1 htarget).2
  have hdirection : (command.targetPosition.getD
      ⟨F32Value.zero, F32Value.zero, F32Value.zero⟩).validate = .ok () := by
    cases hp : command.targetPosition with
    | none => exact zero_vec_valid
    | some p => exact hposition p hp
  unfold channelCommandForAction ChannelCommand.new
  dsimp only
  have hvalid : ∀ target : Option (ActionTarget F32Value),
      (∀ t, target = some t → t.validate = .ok ()) →
      ({ channel, primitive := command.actionId, target
         direction := command.targetPosition.getD ⟨F32Value.zero, F32Value.zero, F32Value.zero⟩
         intensity := command.intensity, durationTicks := command.durationTicks
         standOffDistance := F32Value.zero, payload := ⟨[]⟩, confidence := command.confidence
         coordinationGroup := 0 } : ChannelCommand F32Value).validateContract = .ok () := by
    intro target ht
    unfold ChannelCommand.validateContract
    cases target with
    | none =>
      simp only [contract_seq_eq_ok_iff, reject_eq_ok_iff, BoundedMotorPayload.validateContract,
        hid, hdirection, hintensity, hconfidence, hduration, true_and]
      decide
    | some t =>
      simp only [contract_seq_eq_ok_iff, reject_eq_ok_iff, BoundedMotorPayload.validateContract,
        hid, ht t rfl, hdirection, hintensity, hconfidence, hduration, true_and]
      decide
  have hcommand := hvalid (if command.targetEntity.isSome || command.targetPosition.isSome then
      some ⟨command.targetEntity, command.targetPosition⟩ else none) fun t ht => by
    split_ifs at ht
    exact Option.some.inj ht ▸ htarget
  exact ⟨_, contract_check_eq_ok_iff.2 ⟨hcommand, rfl⟩, rfl, rfl, hcommand⟩

/-- A valid candidate becomes a valid command of its kind. -/
theorem exists_toCommand {c : ActionCandidate} (hc : c.validateContract = .ok ())
    {organismId : OrganismId} (horganism : organismId.validate = .ok ()) {confidence : F32Value}
    (hconfidence : Confidence.new confidence = .ok ()) :
    ∃ command, c.toCommand organismId confidence = .ok command ∧ command.kind = c.kind
      ∧ command.validateContract = .ok () := by
  have hparts := hc
  rw [ActionCandidate.validateContract] at hparts
  simp only [contract_seq_eq_ok_iff, reject_eq_ok_iff, asCandidateError_eq_ok_iff] at hparts
  obtain ⟨hid, htarget, -, -, -, hduration⟩ := hparts
  push Not at hduration
  have hcommand : ({ abiVersion := SchemaKind.current .actionAbi, organismId
                     actionId := c.actionId, kind := c.kind, targetEntity := c.target.entity
                     targetPosition := c.target.position, intensity := F32Value.one
                     durationTicks := c.minDuration, confidence, sourceMask := 0 } :
                     ActionCommand).validateContract = .ok () := by
    unfold ActionCommand.validateContract
    simp only [contract_seq_eq_ok_iff, requireCurrentVersion_eq_ok_iff, reject_eq_ok_iff,
      horganism, hid, htarget, one_valid, hduration.1, hconfidence, not_false_eq_true, and_self]
  exact ⟨_, contract_check_eq_ok_iff.2 ⟨hc, contract_check_eq_ok_iff.2 ⟨one_valid,
    contract_check_eq_ok_iff.2 ⟨hcommand, rfl⟩⟩⟩, rfl, hcommand⟩

/-! ### The commands of the chosen slots -/

/-- The candidate slots of a receipt: zero for none, else one more than the candidate. -/
def candidateSlots (motorCandidates : Fin 6 → Option UInt16) (slot : Fin 6) : UInt16 :=
  (motorCandidates slot).elim 0 (· + 1)

/-- The slots that are chosen, in their order. -/
def chosenSlots (motorCandidates : Fin 6 → Option UInt16) : List (Fin 6) :=
  (List.finRange 6).filter fun slot => (motorCandidates slot).isSome

/-- The command of a chosen slot: that of the representative, or of its own candidate. -/
def slotCommand (organismId : OrganismId) (candidates : List ActionCandidate)
    (representative : UInt16) (command : ActionCommand) (motorCandidates : Fin 6 → Option UInt16)
    (slot : Fin 6) : Contract (ChannelCommand F32Value) :=
  if motorCandidates slot = some representative then
    channelCommandForAction (slotChannel slot) command
  else
    match (motorCandidates slot).bind fun i => candidates[i.toNat]? with
    | none => .error .invalidDecisionEvidence
    | some candidate => do
      let command ← candidate.toCommand organismId candidate.sensorConfidence
      channelCommandForAction (slotChannel slot) command

/-- A vocal command carries the speech, if there is one. -/
def speak (quantize : F32Value → UInt32) (speech : Option SpeechMotorPayload) (prompted : Bool)
    (command : ChannelCommand F32Value) : ChannelCommand F32Value :=
  match speech with
  | some payload =>
    if command.channel = .vocal then
      { command with payload := ⟨speechValues quantize payload prompted⟩ }
    else command
  | none => command

theorem mem_chosenSlots {m : Fin 6 → Option UInt16} {slot : Fin 6} :
    slot ∈ chosenSlots m ↔ (m slot).isSome := by
  rw [chosenSlots, List.mem_filter]
  exact and_iff_right (List.mem_finRange slot)

/-- Where the channel of a slot stands in a bundle. -/
def slotOrder (slot : Fin 6) : ℕ := (factorizedMotorChannelOrder (slotChannel slot)).toNat

theorem slotOrder_lt {slot slot' : Fin 6} (h : slot < slot') :
    slotOrder slot < slotOrder slot' := by
  revert slot slot'
  decide

theorem slotChannel_injective : Function.Injective slotChannel := fun slot slot' h => by
  rw [← headSlot_slotChannel slot, h, headSlot_slotChannel]

@[simp] theorem channel_speak (quantize : F32Value → UInt32) (speech : Option SpeechMotorPayload)
    (prompted : Bool) (command : ChannelCommand F32Value) :
    (speak quantize speech prompted command).channel = command.channel := by
  unfold speak
  cases speech with
  | none => rfl
  | some payload =>
    dsimp only
    split_ifs <;> rfl

theorem payload_valid {quantize : F32Value → UInt32} {payload : SpeechMotorPayload}
    (h : payload.validateContract = .ok ()) (prompted : Bool) :
    (⟨speechValues quantize payload prompted⟩ : BoundedMotorPayload).validateContract = .ok () := by
  have hlength := reject_eq_ok_iff.1 (contract_seq_eq_ok_iff.1 h).1
  push Not at hlength
  have htokens : payload.tokens.length ≤ 6 := hlength.2.1
  rw [BoundedMotorPayload.validateContract, reject_eq_ok_iff, speechValues, List.length_append,
    List.length_map, not_lt]
  simp only [List.length_cons, List.length_nil, maxMotorPayloadValues]
  omega

/-- Another payload of a valid command is looked at alone. -/
theorem validateContract_with_payload {command : ChannelCommand F32Value}
    (h : command.validateContract = .ok ()) {payload : BoundedMotorPayload}
    (hpayload : payload.validateContract = .ok ()) :
    ({ command with payload } : ChannelCommand F32Value).validateContract = .ok () := by
  unfold ChannelCommand.validateContract at h ⊢
  cases htarget : command.target <;> rw [htarget] at h <;>
    simp only [contract_seq_eq_ok_iff] at h ⊢ <;> tauto

theorem validateContract_speak {command : ChannelCommand F32Value}
    (h : command.validateContract = .ok ()) {quantize : F32Value → UInt32}
    {speech : Option SpeechMotorPayload} {prompted : Bool}
    (hspeech : ∀ payload, speech = some payload → payload.validateContract = .ok ()) :
    (speak quantize speech prompted command).validateContract = .ok () := by
  unfold speak
  cases speech with
  | none => exact h
  | some payload =>
    dsimp only
    split_ifs
    · exact validateContract_with_payload h (payload_valid (hspeech payload rfl) prompted)
    · exact h

/-- On a channel that is not taken, the selected command is appended. -/
theorem placeSelected_eq_append {selected : ChannelCommand F32Value}
    {commands : List (ChannelCommand F32Value)}
    (h : ∀ command ∈ commands, command.channel ≠ selected.channel) :
    placeSelected selected commands = commands ++ [selected] := by
  induction commands with
  | nil => rfl
  | cons command commands ih =>
    rw [placeSelected, if_neg (h command List.mem_cons_self),
      ih fun c hc => h c (List.mem_cons_of_mem command hc), List.cons_append]

theorem setVocalPayload_eq_map {payload : SpeechMotorPayload} {quantize : F32Value → UInt32}
    {prompted : Bool} {commands : List (ChannelCommand F32Value)}
    (h : (commands.map ChannelCommand.channel).Nodup) :
    setVocalPayload ⟨speechValues quantize payload prompted⟩ commands
      = commands.map (speak quantize (some payload) prompted) := by
  induction commands with
  | nil => rfl
  | cons command commands ih =>
    rw [List.map_cons, List.nodup_cons] at h
    obtain ⟨hnew, hrest⟩ := h
    rw [setVocalPayload, List.map_cons]
    by_cases hvocal : command.channel = .vocal
    · -- no other command is vocal
      have hothers : commands.map (speak quantize (some payload) prompted) = commands := by
        refine (List.map_congr_left fun c hc => ?_).trans (List.map_id commands)
        have hne : c.channel ≠ .vocal := fun heq =>
          hnew (List.mem_map.2 ⟨c, hc, heq.trans hvocal.symm⟩)
        exact if_neg hne
      rw [if_pos hvocal, hothers]
      exact congrArg (· :: commands) (if_pos hvocal).symm
    · rw [if_neg hvocal, ih hrest]
      exact congrArg (· :: commands.map _) (if_neg hvocal).symm

theorem addSpeech_eq_ok {quantize : F32Value → UInt32} {speech : Option SpeechMotorPayload}
    {prompted : Bool} {commands : List (ChannelCommand F32Value)}
    (hnodup : (commands.map ChannelCommand.channel).Nodup)
    (hspeech : ∀ payload, speech = some payload → payload.validateContract = .ok ()
      ∧ ∃ command ∈ commands, command.channel = .vocal) :
    addSpeech quantize commands speech prompted
      = .ok (commands.map (speak quantize speech prompted)) := by
  cases speech with
  | none => exact congrArg Except.ok (List.map_id commands).symm
  | some payload =>
    obtain ⟨hvalid, command, hcommand, hvocal⟩ := hspeech payload rfl
    unfold addSpeech
    rw [← setVocalPayload_eq_map hnodup]
    refine contract_check_eq_ok_iff.2 ⟨reject_eq_ok_iff.2 fun h => h command hcommand hvocal, ?_⟩
    exact contract_check_eq_ok_iff.2 ⟨payload_valid hvalid prompted, rfl⟩

/-- The chosen slots ascend, and so do their channels. -/
theorem sortByKey_speak {m : Fin 6 → Option UInt16} {cmd : Fin 6 → ChannelCommand F32Value}
    (hchannel : ∀ slot, (m slot).isSome → (cmd slot).channel = slotChannel slot)
    {slots : List (Fin 6)} (hperm : slots.Perm (chosenSlots m)) (quantize : F32Value → UInt32)
    (speech : Option SpeechMotorPayload) (prompted : Bool) :
    sortByKey (fun c => (factorizedMotorChannelOrder c.channel).toNat)
        ((slots.map cmd).map (speak quantize speech prompted))
      = ((chosenSlots m).map cmd).map (speak quantize speech prompted) := by
  have hpairwise : ((chosenSlots m).map slotOrder).Pairwise (· < ·) :=
    List.pairwise_map.2 (((List.pairwise_lt_finRange 6).filter _).imp slotOrder_lt)
  have hkeys : ∀ slot ∈ chosenSlots m, (factorizedMotorChannelOrder
      ((speak quantize speech prompted ∘ cmd) slot).channel).toNat = slotOrder slot := by
    intro slot hslot
    rw [Function.comp_apply, channel_speak, hchannel slot (mem_chosenSlots.1 hslot), slotOrder]
  rw [List.map_map, List.map_map]
  calc sortByKey (fun c => (factorizedMotorChannelOrder c.channel).toNat)
        (slots.map (speak quantize speech prompted ∘ cmd))
      = (sortByKey slotOrder (chosenSlots m)).map (speak quantize speech prompted ∘ cmd) :=
        sortByKey_eq_map hkeys (hpairwise.imp fun hlt => hlt.ne) (hperm.map _)
    _ = (chosenSlots m).map (speak quantize speech prompted ∘ cmd) := by
        rw [sortByKey_eq_self (hpairwise.imp le_of_lt)]

/-- Valid commands on distinct channels make a bundle. -/
theorem exists_coordinatedBundle {organismId : OrganismId}
    (horganism : organismId.validate = .ok ()) {sequenceId : ExperienceSequenceId}
    (hsequence : sequenceId.validate = .ok ()) (tick : Tick)
    {commands : List (ChannelCommand F32Value)} (hlength : commands.length ≤ maxMotorChannels)
    (hvalid : ∀ command ∈ commands, command.validateContract = .ok ())
    (hnodup : (commands.map ChannelCommand.channel).Nodup) :
    ∃ bundle, coordinatedBundle organismId sequenceId tick commands = .ok bundle
      ∧ bundle.channels = commands ∧ bundle.validateContract = .ok () := by
  have hkeys : ∀ channels : List MotorChannel, channels.Nodup →
      (channels.map MotorChannel.canonicalKey).Nodup :=
    fun channels h => h.map MotorChannel.canonicalKey_injective
  have hbundle : ∀ coordination : BoundedCoordinationSummary,
      coordination.validateContract = .ok () →
      ({ schemaVersion := motorCommandSchemaVersion, organismId, sequenceId, tick
         channels := commands, coordination } : MotorCommandBundle F32Value).validateContract
        = .ok () := by
    intro coordination hcoordination
    unfold MotorCommandBundle.validateContract
    simp only [contract_seq_eq_ok_iff, reject_eq_ok_iff, horganism, hsequence, hcoordination,
      contract_forM_eq_ok_iff, true_and, and_true, not_not]
    refine ⟨by simpa using hlength, hvalid, ?_⟩
    have hcommands := hkeys _ hnodup
    rwa [List.map_map] at hcommands
  have hplain := hbundle ⟨[]⟩ rfl
  by_cases hmany : 1 < commands.length
  · have hgroup : BoundedCoordinationSummary.validateContract
        ⟨[⟨0, commands.map ChannelCommand.channel⟩]⟩ = .ok () := by
      unfold BoundedCoordinationSummary.validateContract
      simp only [contract_seq_eq_ok_iff, reject_eq_ok_iff, contract_forM_eq_ok_iff,
        List.mem_singleton, forall_eq, CoordinationGroup.validateContract, List.length_map, not_not]
      refine ⟨by simp [maxCoordinationGroups], ?_, hkeys _ hnodup⟩
      rw [List.map_eq_nil_iff, not_or, not_lt]
      exact ⟨fun h => by simp [h] at hmany, hlength⟩
    refine ⟨_, ?_, rfl, hbundle _ hgroup⟩
    refine contract_check_eq_ok_iff.2 ⟨hplain, ?_⟩
    rw [if_pos hmany]
    exact contract_check_eq_ok_iff.2 ⟨hbundle _ hgroup, rfl⟩
  · refine ⟨_, ?_, rfl, hplain⟩
    refine contract_check_eq_ok_iff.2 ⟨hplain, ?_⟩
    rw [if_neg hmany]
    rfl

end Training

end ALife
