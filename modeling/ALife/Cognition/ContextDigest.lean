/-
# What the digest of a cognitive context binds

`canonical_digest` of `crates/alife_core/src/cognitive_context.rs` writes the views of a frame
field by field, some of them through digests of their own.  Each writer tells the part it
writes (`Machine.Tells`), so that equal digests mean equal parts.  Two parts are not written:
the previous identity of the focal hysteresis, which the attention frame's writer of the same
type does write, and most of the prediction of a projected candidate.  Frames that differ
there alone have one digest (`canonicalDigest_binds`).
-/

import ALife.Cognition.Context
import ALife.Cognition.WorkReceipt
import Mathlib.Logic.Equiv.List

namespace ALife

open Machine

section Writers

variable {R D : Type}

/-- The writes of a peripheral summary's own digest: the confidence stands before the salience. -/
def PeripheralSummary.nestedWrites (s : PeripheralSummary R) : List (Write R D) :=
  s.identity.writes ++ [.f32 s.confidence] ++ s.salience.writes

theorem PeripheralSummary.tells_nestedWrites : Tells (nestedWrites (R := R) (D := D)) id := by
  intro a b r r' h
  simp only [nestedWrites, List.append_assoc] at h
  obtain ⟨hidentity, h⟩ := StableFocusIdentity.tells_writes.split h
  obtain ⟨hconfidence, h⟩ := List.cons.inj h
  obtain ⟨hsalience, h⟩ := SalienceComponents.tells_writes.split h
  refine ⟨?_, h⟩
  cases a
  cases b
  simp_all

/-- The write of a nested digest. -/
def digestWrites (digest : D) : List (Write R D) := [.words digest]

theorem tells_digestWrites : Tells (digestWrites (R := R) (D := D)) id :=
  tells_of_length (fun _ _ => rfl) fun a b h => by simpa [digestWrites] using h

/-- `write_interoceptive`. -/
def CognitiveInteroceptiveView.writes (v : CognitiveInteroceptiveView R) : List (Write R D) :=
  v.values.map .f32

theorem CognitiveInteroceptiveView.tells_writes : Tells (writes (R := R) (D := D)) id := by
  refine tells_of_length (fun a b => rfl) fun a b h => ?_
  cases a
  cases b
  simpa [writes, values] using h

def CognitiveMemoryExpectancy.writes (e : CognitiveMemoryExpectancy R) : List (Write R D) :=
  [.u64 e.memoryId.raw, .f32 e.expectedValence, .f32 e.confidence]

theorem CognitiveMemoryExpectancy.tells_writes : Tells (writes (R := R) (D := D)) id := by
  refine tells_of_length (fun a b => rfl) fun a b h => ?_
  rcases a with ⟨⟨_⟩, _, _⟩
  rcases b with ⟨⟨_⟩, _, _⟩
  simpa [writes] using h

def CognitiveConceptActivation.writes (a : CognitiveConceptActivation R) : List (Write R D) :=
  [.u64 a.conceptId.raw, .f32 a.activation, .f32 a.utility]

theorem CognitiveConceptActivation.tells_writes : Tells (writes (R := R) (D := D)) id := by
  refine tells_of_length (fun a b => rfl) fun a b h => ?_
  rcases a with ⟨⟨_⟩, _, _⟩
  rcases b with ⟨⟨_⟩, _, _⟩
  simpa [writes] using h

def CognitiveGapActivation.writes (a : CognitiveGapActivation R) : List (Write R D) :=
  [.u64 a.gapId.raw, .f32 a.voltage, .f32 a.uncertainty]

theorem CognitiveGapActivation.tells_writes : Tells (writes (R := R) (D := D)) id := by
  refine tells_of_length (fun a b => rfl) fun a b h => ?_
  rcases a with ⟨⟨_⟩, _, _⟩
  rcases b with ⟨⟨_⟩, _, _⟩
  simpa [writes] using h

def CognitiveObjectEvidence.writes (e : CognitiveObjectEvidence R) : List (Write R D) :=
  [.u64 e.trackedObjectId.raw, .f32 e.conceptMatch, .f32 e.gapMatch, .f32 e.priorResidual]

theorem CognitiveObjectEvidence.tells_writes : Tells (writes (R := R) (D := D)) id := by
  refine tells_of_length (fun a b => rfl) fun a b h => ?_
  rcases a with ⟨⟨_⟩, _, _, _⟩
  rcases b with ⟨⟨_⟩, _, _, _⟩
  simpa [writes] using h

def CognitiveBudgetView.writes (v : CognitiveBudgetView) : List (Write R D) :=
  [.u16 v.peripheralCapacity, .u8 v.focalCapacity, .u64 v.workLimit, .u64 v.workUsed]

theorem CognitiveBudgetView.tells_writes : Tells (writes (R := R) (D := D)) id := by
  refine tells_of_length (fun a b => rfl) fun a b h => ?_
  cases a
  cases b
  simpa [writes] using h

/-- The write of a tracked object. -/
def TrackedObjectId.writes (id : TrackedObjectId) : List (Write R D) := [.u64 id.raw]

theorem TrackedObjectId.tells_writes : Tells (writes (R := R) (D := D)) id := by
  refine tells_of_length (fun a b => rfl) fun a b h => ?_
  cases a
  cases b
  simpa [writes] using h

/-! ### The focal view -/

/-- The writes of the focal view: of the hysteresis only the ticks and the margin. -/
def CognitiveFocalView.writes (v : CognitiveFocalView R) : List (Write R D) :=
  Write.sequence StableFocusIdentity.writes v.identities
    ++ Write.sequence SalienceComponents.writes v.salience
    ++ [.u16 v.hysteresis.retainedTicks, .f32 v.hysteresis.switchMargin]

/-- The view without the previous identity. -/
def CognitiveFocalView.sealed (v : CognitiveFocalView R) : CognitiveFocalView R :=
  { v with hysteresis := { v.hysteresis with previousIdentity := none } }

theorem CognitiveFocalView.tells_writes :
    Tells (writes (R := R) (D := D)) CognitiveFocalView.sealed := by
  intro a b r r' h
  simp only [writes, List.append_assoc] at h
  obtain ⟨hidentities, h⟩ := (Write.tells_sequence StableFocusIdentity.tells_writes).split h
  obtain ⟨hsalience, h⟩ := (Write.tells_sequence SalienceComponents.tells_writes).split h
  obtain ⟨hticks, h⟩ := List.cons.inj h
  obtain ⟨hmargin, h⟩ := List.cons.inj h
  refine ⟨?_, h⟩
  rcases a with ⟨_, _, ⟨_, _, _⟩⟩
  rcases b with ⟨_, _, ⟨_, _, _⟩⟩
  simp_all [CognitiveFocalView.sealed]

theorem CognitiveFocalView.eq_of_sealed {v w : CognitiveFocalView R}
    (hsealed : v.sealed = w.sealed)
    (hprevious : v.hysteresis.previousIdentity = w.hysteresis.previousIdentity) : v = w := by
  rcases v with ⟨_, _, ⟨_, _, _⟩⟩
  rcases w with ⟨_, _, ⟨_, _, _⟩⟩
  simp_all [CognitiveFocalView.sealed]

/-! ### Projected candidates -/

/-- The writes of a projected candidate: of the prediction only its source and its values,
without their number. -/
def CognitiveCandidateInput.writes (c : CognitiveCandidateInput R D) : List (Write R D) :=
  [.u16 c.candidateIndex, .u64 c.candidateFeatureDigest.w0, .u64 c.candidateFeatureDigest.w1]
    ++ Write.optional TrackedObjectId.writes c.trackedObjectId
    ++ [.bool c.forecastAvailable, .f32 c.conceptMatch, .f32 c.gapMatch, .f32 c.priorResidual,
      .words c.prediction.sourceDigest]
    ++ c.prediction.predictedSuccessor.map .f32

/-- What the writer of a candidate leaves out of its prediction. -/
structure UnsealedForecast (R : Type) where
  sourceState : SemanticStateVector R
  motorCondition : JointMotorCondition R
  semanticStateAbi : UInt16
  predictorAbiVersion : UInt16
  categoryCoverage : PredictionCategoryCoverage
  deriving DecidableEq

def SuccessorPrediction.unsealed (p : SuccessorPrediction R D) : UnsealedForecast R :=
  ⟨p.sourceState, p.motorCondition, p.semanticStateAbi, p.predictorAbiVersion,
    p.categoryCoverage⟩

/-- The candidate without what its writer leaves out. -/
def CognitiveCandidateInput.sealed (c : CognitiveCandidateInput R D) :
    CognitiveCandidateInput R D :=
  { c with prediction := ⟨c.prediction.sourceDigest, ⟨0, 0, []⟩, ⟨0, 0, []⟩, 0,
      c.prediction.predictedSuccessor, 0, ⟨0, 0, 0⟩⟩ }

/-- No float comes next, so that a list of floats ends here. -/
def NoFloat (r : List (Write R D)) : Prop := ∀ x : R, r.head? ≠ some (.f32 x)

/-- A candidate is told in front of anything that does not begin with a float. -/
theorem CognitiveCandidateInput.tells_writes :
    TellsBefore NoFloat (writes (R := R) (D := D)) CognitiveCandidateInput.sealed := by
  intro a b r r' hr hr' h
  simp only [writes, List.cons_append, List.nil_append, List.append_assoc, List.cons.injEq,
    Write.u16.injEq, Write.u64.injEq] at h
  obtain ⟨hindex, hw0, hw1, h⟩ := h
  obtain ⟨hobject, h⟩ := (Write.tells_optional TrackedObjectId.tells_writes).split h
  simp only [List.cons.injEq, Write.bool.injEq, Write.f32.injEq, Write.words.injEq] at h
  obtain ⟨hforecast, hconcept, hgap, hprior, hsource, h⟩ := h
  obtain ⟨hsuccessor, h⟩ := map_append_inj Write.f32_injective hr hr' h
  refine ⟨?_, h⟩
  rcases a with ⟨_, ⟨_, _⟩, _, ⟨_, _, _, _, _, _, _⟩, _, _, _, _⟩
  rcases b with ⟨_, ⟨_, _⟩, _, ⟨_, _, _, _, _, _, _⟩, _, _, _, _⟩
  simp_all [CognitiveCandidateInput.sealed]

theorem CognitiveCandidateInput.noFloat_writes (c : CognitiveCandidateInput R D)
    (r : List (Write R D)) : NoFloat (c.writes ++ r) := by
  intro x h
  simp [CognitiveCandidateInput.writes] at h

theorem CognitiveCandidateInput.tells_sequence :
    TellsBefore NoFloat (Write.sequence (writes (R := R) (D := D)))
      (List.map CognitiveCandidateInput.sealed) :=
  tells_writes.list noFloat_writes Write.sequenceLen_injective

/-- The writes of a projection; without one nothing is written, not even that it is missing. -/
def CognitiveProjectionFrame.writes : Option (CognitiveProjectionFrame R D) → List (Write R D)
  | some p => [.some, .u16 p.schemaVersion, .words p.baseFrameDigest]
    ++ Write.sequence CognitiveCandidateInput.writes p.candidates
    ++ Write.sequence CognitiveObjectEvidence.writes p.objects
  | none => []

/-- The projection without what the writers of its candidates leave out. -/
def CognitiveProjectionFrame.sealed (p : CognitiveProjectionFrame R D) :
    CognitiveProjectionFrame R D :=
  { p with candidates := p.candidates.map CognitiveCandidateInput.sealed }

theorem CognitiveCandidateInput.eq_of_sealed {c c' : CognitiveCandidateInput R D}
    (hsealed : c.sealed = c'.sealed) (hunsealed : c.prediction.unsealed = c'.prediction.unsealed) :
    c = c' := by
  rcases c with ⟨_, _, _, ⟨_, _, _, _, _, _, _⟩, _, _, _, _⟩
  rcases c' with ⟨_, _, _, ⟨_, _, _, _, _, _, _⟩, _, _, _, _⟩
  simp_all [CognitiveCandidateInput.sealed, SuccessorPrediction.unsealed]

theorem CognitiveProjectionFrame.eq_of_sealed {p q : CognitiveProjectionFrame R D}
    (hsealed : p.sealed = q.sealed)
    (hunsealed : (p.candidates.map fun c => c.prediction.unsealed)
      = q.candidates.map fun c => c.prediction.unsealed) : p = q := by
  have hlists : ∀ l l' : List (CognitiveCandidateInput R D),
      l.map CognitiveCandidateInput.sealed = l'.map CognitiveCandidateInput.sealed →
      (l.map fun c => c.prediction.unsealed) = (l'.map fun c => c.prediction.unsealed) →
      l = l' := by
    intro l
    induction l with
    | nil => exact fun l' h _ => (List.map_eq_nil_iff.1 h.symm).symm
    | cons c l ih =>
      rintro (_ | ⟨c', l'⟩) h h'
      · cases h
      · obtain ⟨hc, hl⟩ := List.cons.inj h
        obtain ⟨hc', hl'⟩ := List.cons.inj h'
        rw [CognitiveCandidateInput.eq_of_sealed hc hc', ih l' hl hl']
  obtain ⟨_, _, candidates, _⟩ := p
  obtain ⟨_, _, candidates', _⟩ := q
  simp only [CognitiveProjectionFrame.sealed, CognitiveProjectionFrame.mk.injEq] at hsealed
  obtain ⟨rfl, rfl, hcandidates, rfl⟩ := hsealed
  obtain rfl := hlists candidates candidates' hcandidates hunsealed
  rfl

/-- A projection is told in front of a budget, which begins with no tag. -/
theorem eq_of_projection_budget {p q : Option (CognitiveProjectionFrame R D)}
    {v w : CognitiveBudgetView} {r r' : List (Write R D)}
    (h : CognitiveProjectionFrame.writes p ++ (v.writes ++ r)
      = CognitiveProjectionFrame.writes q ++ (w.writes ++ r')) :
    p.map CognitiveProjectionFrame.sealed = q.map CognitiveProjectionFrame.sealed ∧ v = w := by
  rcases p with _ | p <;> rcases q with _ | q
  · exact ⟨rfl, (CognitiveBudgetView.tells_writes.split h).1⟩
  · cases (List.cons.inj h).1
  · cases (List.cons.inj h).1
  · simp only [CognitiveProjectionFrame.writes, List.cons_append, List.nil_append,
      List.append_assoc, List.cons.injEq, Write.u16.injEq, Write.words.injEq, true_and] at h
    obtain ⟨hschema, hbase, h⟩ := h
    obtain ⟨hsealed, h⟩ := CognitiveCandidateInput.tells_sequence _ _ _ _ nofun nofun h
    obtain ⟨hobjects, h⟩ := (Write.tells_sequence CognitiveObjectEvidence.tells_writes).split h
    refine ⟨?_, (CognitiveBudgetView.tells_writes.split h).1⟩
    cases p
    cases q
    simp_all [CognitiveProjectionFrame.sealed]

end Writers

/-! ### The frame -/

namespace CognitiveContextFrame

variable {R D : Type}

/-- What the digest of a frame writes, with the digests of its attention, of its peripheral
summaries and of its source state. -/
def writes (f : CognitiveContextFrame R D) (attention : D) (summaries : List D)
    (sourceState : Option D) : List (Write R D) :=
  List.flatten [
    [.u16 f.schemaVersion, .u64 f.organismId.raw, .u64 f.sequenceId.raw, .u64 f.worldTick.raw,
      .words attention],
    Write.sequence digestWrites summaries,
    f.focal.writes,
    f.interoceptive.writes,
    Write.sequence CognitiveMemoryExpectancy.writes f.memory.expectancies,
    Write.sequence CognitiveConceptActivation.writes f.concept.activeConcepts,
    [.words f.concept.topologyDigest],
    Write.sequence CognitiveGapActivation.writes f.gap.activeGaps,
    [.f32 f.gap.gapVoltage],
    Write.sequence SemanticStateVector.valueWrites f.prediction.predictionError,
    [.u16 f.prediction.semanticStateAbi, .words f.prediction.sourceDigest],
    Write.optional digestWrites sourceState,
    [.f32 f.prediction.motorConditionMagnitude],
    Write.optional PredictionCategoryCoverage.writes f.prediction.categoryCoverage,
    CognitiveProjectionFrame.writes f.cognitiveProjection,
    f.budget.writes]

/-- The frame without what the digest leaves out. -/
def sealed (f : CognitiveContextFrame R D) : CognitiveContextFrame R D :=
  { f with
    focal := f.focal.sealed
    cognitiveProjection := f.cognitiveProjection.map CognitiveProjectionFrame.sealed }

/-- What the digest leaves out: the previous identity of the focal hysteresis, and of every
projected candidate the prediction but for its source digest and its values. -/
def unsealed (f : CognitiveContextFrame R D) :
    Option StableFocusIdentity × Option (List (UnsealedForecast R)) :=
  (f.focal.hysteresis.previousIdentity,
    f.cognitiveProjection.map fun p => p.candidates.map fun c => c.prediction.unsealed)

/-- Frames that agree in both parts are equal. -/
theorem eq_of_sealed {f g : CognitiveContextFrame R D} (hsealed : f.sealed = g.sealed)
    (hunsealed : f.unsealed = g.unsealed) : f = g := by
  obtain ⟨hprevious, hforecasts⟩ := Prod.mk.inj hunsealed
  obtain ⟨hschema, horganism, hsequence, htick, hattention, hperipheral, hfocal, hinteroceptive,
    hmemory, hconcept, hgap, hprediction, hprojection, hbudget⟩ :=
    CognitiveContextFrame.mk.inj hsealed
  refine CognitiveContextFrame.ext hschema horganism hsequence htick hattention hperipheral
    (CognitiveFocalView.eq_of_sealed hfocal hprevious) hinteroceptive hmemory hconcept hgap
    hprediction ?_ hbudget
  generalize f.cognitiveProjection = p, g.cognitiveProjection = q at hprojection hforecasts ⊢
  rcases p with _ | p <;> rcases q with _ | q
  · rfl
  · cases hprojection
  · cases hprojection
  · exact congrArg some (CognitiveProjectionFrame.eq_of_sealed (Option.some.inj hprojection)
      (Option.some.inj hforecasts))

/-- A frame whose nested digests are known is told but for what it leaves out. -/
theorem sealed_of_writes {f g : CognitiveContextFrame R D} {a b : D} {s t : List D}
    {x y : Option D} (h : f.writes a s x = g.writes b t y)
    (hattention : a = b → f.attention = g.attention)
    (hsummaries : s = t → f.peripheral = g.peripheral)
    (hstate : x = y → f.prediction.sourceState = g.prediction.sourceState) :
    f.sealed = g.sealed := by
  simp only [writes, List.flatten_cons, List.flatten_nil, List.cons_append,
    List.nil_append, List.cons.injEq, Write.u16.injEq, Write.u64.injEq, Write.words.injEq] at h
  obtain ⟨hschema, horganism, hsequence, htick, rfl, h⟩ := h
  obtain ⟨hsum, h⟩ := (Write.tells_sequence tells_digestWrites).split h
  obtain ⟨hfocal, h⟩ := CognitiveFocalView.tells_writes.split h
  obtain ⟨hinteroceptive, h⟩ := CognitiveInteroceptiveView.tells_writes.split h
  obtain ⟨hmemory, h⟩ := (Write.tells_sequence CognitiveMemoryExpectancy.tells_writes).split h
  obtain ⟨hconcept, h⟩ := (Write.tells_sequence CognitiveConceptActivation.tells_writes).split h
  simp only [List.cons.injEq, Write.words.injEq] at h
  obtain ⟨htopology, h⟩ := h
  obtain ⟨hgap, h⟩ := (Write.tells_sequence CognitiveGapActivation.tells_writes).split h
  simp only [List.cons.injEq, Write.f32.injEq] at h
  obtain ⟨hvoltage, h⟩ := h
  obtain ⟨herror, h⟩ := (Write.tells_sequence SemanticStateVector.tells_valueWrites).split h
  simp only [List.cons.injEq, Write.u16.injEq, Write.words.injEq] at h
  obtain ⟨habi, hsource, h⟩ := h
  obtain ⟨hstated, h⟩ := (Write.tells_optional tells_digestWrites).split h
  simp only [List.cons.injEq, Write.f32.injEq] at h
  obtain ⟨hmagnitude, h⟩ := h
  obtain ⟨hcoverage, h⟩ := (Write.tells_optional PredictionCategoryCoverage.tells_writes).split h
  obtain ⟨hprojection, hbudget⟩ := eq_of_projection_budget h
  rw [List.map_id, List.map_id] at hsum hmemory hconcept hgap herror
  rw [Option.map_id, id, id] at hstated hcoverage
  ext1
  · exact hschema
  · exact OrganismId.ext horganism
  · exact ExperienceSequenceId.ext hsequence
  · exact Tick.ext htick
  · exact hattention rfl
  · exact hsummaries hsum
  · exact hfocal
  · exact hinteroceptive
  · exact CognitiveMemoryView.ext hmemory
  · exact CognitiveConceptView.ext hconcept htopology
  · exact CognitiveGapView.ext hgap hvoltage
  · exact CognitivePredictionView.ext hsource habi (hstate hstated) herror hmagnitude hcoverage
  · exact hprojection
  · exact hbudget

/-- The writes do not reach what is left out. -/
theorem writes_sealed (f : CognitiveContextFrame R D) (a : D) (s : List D) (x : Option D) :
    f.sealed.writes a s x = f.writes a s x := by
  have hprojection : CognitiveProjectionFrame.writes
      (f.cognitiveProjection.map CognitiveProjectionFrame.sealed) (R := R)
      = CognitiveProjectionFrame.writes f.cognitiveProjection := by
    rcases f.cognitiveProjection with _ | p
    · rfl
    · simp only [Option.map_some, CognitiveProjectionFrame.writes,
        CognitiveProjectionFrame.sealed, Write.sequence, List.length_map, List.flatMap_map]
      rfl
  simp only [writes, sealed, hprojection]
  rfl

variable [FloatValue R]

/-- The nested digest of a peripheral summary. -/
def summaryDigest (finish : String → List (Write R D) → D) (s : PeripheralSummary R) :
    Contract D :=
  finish256 finish "ALIFE-V11-PERIPHERAL-SUMMARY" s.nestedWrites

variable [DecidableEq D] [Zero D]

/-- `canonical_digest`. -/
def canonicalDigest (finish : String → List (Write R D) → D) (f : CognitiveContextFrame R D) :
    Contract D := do
  f.validateContract
  let attention ← f.attention.canonicalDigest finish
  let summaries ← f.peripheral.summaries.mapM (summaryDigest finish)
  let sourceState ← f.prediction.sourceState.mapM (SemanticStateVector.canonicalDigest finish)
  finish256 finish "ALIFE-V11-COGNITIVE-CONTEXT" (f.writes attention summaries sourceState)

variable {finish : String → List (Write R D) → D} {f g : CognitiveContextFrame R D} {d d' : D}

/-- A digest comes from the writes with the nested digests in place. -/
theorem canonicalDigest_eq_ok_iff : f.canonicalDigest finish = .ok d ↔
    f.validateContract = .ok () ∧ ∃ a s x, f.attention.canonicalDigest finish = .ok a ∧
      f.peripheral.summaries.mapM (summaryDigest finish) = .ok s ∧
      f.prediction.sourceState.mapM (SemanticStateVector.canonicalDigest finish) = .ok x ∧
      finish256 finish "ALIFE-V11-COGNITIVE-CONTEXT" (f.writes a s x) = .ok d := by
  unfold canonicalDigest
  rw [contract_check_eq_ok_iff]
  simp only [contract_bind_eq_ok_iff]
  constructor
  · rintro ⟨hvalid, a, ha, s, hs, x, hx, hd⟩
    exact ⟨hvalid, a, s, x, ha, hs, hx, hd⟩
  · rintro ⟨hvalid, a, s, x, ha, hs, hx, hd⟩
    exact ⟨hvalid, a, ha, s, hs, x, hx, hd⟩

omit [DecidableEq D] [Zero D] in
theorem eq_of_mapM_summaryDigest (hfinish : Function.Injective2 finish)
    {l l' : List (PeripheralSummary R)} {s : List D} (h : l.mapM (summaryDigest finish) = .ok s)
    (h' : l'.mapM (summaryDigest finish) = .ok s) : l = l' :=
  eq_of_contract_mapM (fun _ _ _ h h' =>
    PeripheralSummary.tells_nestedWrites.key_eq (writes_of_finish256 hfinish h h')) h h'

omit [DecidableEq D] [Zero D] in
theorem eq_of_mapM_stateDigest (hfinish : Function.Injective2 finish)
    {o o' : Option (SemanticStateVector R)} {x : Option D}
    (h : o.mapM (SemanticStateVector.canonicalDigest finish) = .ok x)
    (h' : o'.mapM (SemanticStateVector.canonicalDigest finish) = .ok x) : o = o' := by
  rcases o with _ | s <;> rcases o' with _ | s'
  · rfl
  · cases h
    obtain ⟨_, -, h'⟩ := contract_bind_eq_ok_iff.1 h'
    cases h'
  · cases h'
    obtain ⟨_, -, h⟩ := contract_bind_eq_ok_iff.1 h
    cases h
  · obtain ⟨b, hb, h⟩ := contract_bind_eq_ok_iff.1 h
    obtain ⟨b', hb', h'⟩ := contract_bind_eq_ok_iff.1 h'
    cases h
    cases h'
    rw [SemanticStateVector.eq_of_canonicalDigest hfinish hb hb']

/-- Equal digests mean frames that agree in all that is written. -/
theorem sealed_of_canonicalDigest (hfinish : Function.Injective2 finish)
    (hf : f.canonicalDigest finish = .ok d) (hg : g.canonicalDigest finish = .ok d) :
    f.sealed = g.sealed := by
  obtain ⟨-, a, s, x, ha, hs, hx, hd⟩ := canonicalDigest_eq_ok_iff.1 hf
  obtain ⟨-, a', s', x', ha', hs', hx', hd'⟩ := canonicalDigest_eq_ok_iff.1 hg
  refine sealed_of_writes (writes_of_finish256 hfinish hd hd') ?_ ?_ ?_
  · rintro rfl
    exact AttentionFrame.eq_of_canonicalDigest hfinish ha ha'
  · rintro rfl
    exact CognitivePeripheralView.ext (eq_of_mapM_summaryDigest hfinish hs hs')
  · rintro rfl
    exact eq_of_mapM_stateDigest hfinish hx hx'

/-- Frames that agree in all that is written have one digest. -/
theorem canonicalDigest_of_sealed (h : f.sealed = g.sealed)
    (hf : f.canonicalDigest finish = .ok d) (hg : g.canonicalDigest finish = .ok d') : d = d' := by
  obtain ⟨-, a, s, x, ha, hs, hx, hd⟩ := canonicalDigest_eq_ok_iff.1 hf
  obtain ⟨-, a', s', x', ha', hs', hx', hd'⟩ := canonicalDigest_eq_ok_iff.1 hg
  have hattention : f.attention = g.attention :=
    show f.sealed.attention = g.sealed.attention from congrArg attention h
  have hperipheral : f.peripheral = g.peripheral :=
    show f.sealed.peripheral = g.sealed.peripheral from congrArg peripheral h
  have hprediction : f.prediction = g.prediction :=
    show f.sealed.prediction = g.sealed.prediction from congrArg prediction h
  rw [hattention, ha'] at ha
  rw [hperipheral, hs'] at hs
  rw [hprediction, hx'] at hx
  obtain rfl := Except.ok.inj ha
  obtain rfl := Except.ok.inj hs
  obtain rfl := Except.ok.inj hx
  rw [← writes_sealed, h, writes_sealed, hd'] at hd
  exact (Except.ok.inj hd).symm

/-- **The digest of a context** binds its frame exactly when frames that agree in all that is
written agree in what is left out; the five digests beside it bind every field. -/
theorem cognitive_context_digest_binds {R D : Type} [FloatValue R] [DecidableEq D] [Zero D]
    {finish : String → List (Write R D) → D} (hfinish : Function.Injective2 finish) :
    (∀ (f g : CognitiveContextFrame R D) (d d' : D), f.canonicalDigest finish = .ok d →
      g.canonicalDigest finish = .ok d' →
        ((d = d' → f = g) ↔ (f.sealed = g.sealed → f.unsealed = g.unsealed)))
      ∧ (∀ (a b : AttentionFrame R) (d : D), a.canonicalDigest finish = .ok d →
        b.canonicalDigest finish = .ok d → a = b)
      ∧ (∀ (a b : JointMotorCondition R) (d : D), a.canonicalDigest finish = .ok d →
        b.canonicalDigest finish = .ok d → a = b)
      ∧ (∀ (a b : SemanticStateVector R) (d : D), a.canonicalDigest finish = .ok d →
        b.canonicalDigest finish = .ok d → a = b)
      ∧ (∀ (a b : MotorCommandBundle R) (d : D), a.canonicalDigest finish = .ok d →
        b.canonicalDigest finish = .ok d → a = b)
      ∧ ∀ (a b : CognitiveWorkReceipt) (d : D), a.canonicalDigest finish = .ok d →
        b.canonicalDigest finish = .ok d → a = b := by
  refine ⟨fun f g d d' hf hg => ⟨fun h hsealed => ?_, fun h => ?_⟩,
    fun _ _ _ => AttentionFrame.eq_of_canonicalDigest hfinish,
    fun _ _ _ => JointMotorCondition.eq_of_canonicalDigest hfinish,
    fun _ _ _ => SemanticStateVector.eq_of_canonicalDigest hfinish,
    fun _ _ _ => MotorCommandBundle.eq_of_canonicalDigest hfinish,
    fun _ _ _ => CognitiveWorkReceipt.eq_of_canonicalDigest hfinish⟩
  · rw [h (canonicalDigest_of_sealed hsealed hf hg)]
  · rintro rfl
    have hsealed := sealed_of_canonicalDigest hfinish hf hg
    exact eq_of_sealed hsealed (h hsealed)

/-- An empty frame whose focal hysteresis remembers an identity or none. -/
def sampleContext (previous : Option StableFocusIdentity) : CognitiveContextFrame F32Value ℕ where
  schemaVersion := cognitiveContextSchemaVersion
  organismId := ⟨1⟩
  sequenceId := ⟨1⟩
  worldTick := .zero
  attention := ⟨attentionSchemaVersion, ⟨1⟩, ⟨1⟩, .zero, [], [], [], ⟨none, 0, .zero⟩,
    ⟨attentionSchemaVersion, 64, 8, 0, 0, 0, 0⟩⟩
  peripheral := ⟨[]⟩
  focal := ⟨[], [], ⟨previous, 0, .zero⟩⟩
  interoceptive := ⟨.zero, .zero, .zero, .zero, .zero, F32Value.one⟩
  memory := ⟨[]⟩
  concept := ⟨[], 0⟩
  gap := ⟨[], .zero⟩
  prediction := ⟨0, 0, none, [], .zero, none⟩
  cognitiveProjection := none
  budget := ⟨64, 8, 0, 0⟩

/-- Whatever the builder makes of the writes, two frames with different previous identities
have one digest. -/
theorem canonicalDigest_sampleContext :
    sampleContext none ≠ sampleContext (some (.organism ⟨2⟩)) ∧
      ∀ finish : String → List (Write F32Value ℕ) → ℕ, ∃ d,
        (sampleContext none).canonicalDigest finish = .ok d ∧
          (sampleContext (some (.organism ⟨2⟩))).canonicalDigest finish = .ok d := by
  refine ⟨by decide, fun finish => ?_⟩
  have hattention : (sampleContext none).attention.canonicalDigest finish
      = .ok (finish "ALIFE-V11-ATTENTION-FRAME" (sampleContext none).attention.writes) :=
    contract_check_eq_ok_iff.2 ⟨rfl, finish256_eq_ok_iff.2 ⟨rfl, rfl⟩⟩
  refine ⟨_, canonicalDigest_eq_ok_iff.2 ⟨rfl, _, [], none, hattention, rfl, rfl,
    finish256_eq_ok_iff.2 ⟨rfl, rfl⟩⟩, canonicalDigest_eq_ok_iff.2 ⟨rfl, _, [], none, hattention,
    rfl, rfl, finish256_eq_ok_iff.2 ⟨rfl, rfl⟩⟩⟩

/-- The empty frame of the next sequence. -/
def laterContext : CognitiveContextFrame F32Value ℕ :=
  { sampleContext none with
    sequenceId := ⟨2⟩
    attention := { (sampleContext none).attention with sequenceId := ⟨2⟩ } }

/-- A condition of a voice at some intensity. -/
def sampleCondition (intensity : F32Value) : JointMotorCondition F32Value :=
  ⟨2, 2, [⟨.vocal, ⟨1⟩, intensity, 1, ⟨.zero, .zero, .zero⟩, .zero, .one, none, [7], 0⟩]⟩

/-- A bundle that commands the voice at some intensity. -/
def sampleBundle (intensity : F32Value) : MotorCommandBundle F32Value :=
  ⟨motorCommandSchemaVersion, ⟨1⟩, ⟨1⟩, .zero, [⟨.vocal, ⟨1⟩, none, ⟨.zero, .zero, .zero⟩,
    intensity, ⟨1⟩, .zero, ⟨[7]⟩, .one, 0⟩], ⟨[⟨0, [.vocal]⟩]⟩⟩

/-- The work of some neural updates. -/
def sampleReceipt (neuralUpdates : ℕ) : CognitiveWorkReceipt :=
  ⟨1, { CognitiveWorkReceipt.zero.counters with neuralUpdates }, neuralUpdates, 1⟩

/-- Both values have a digest, and not the same one. -/
def Apart (x y : Contract ℕ) : Prop := ∃ d d', x = .ok d ∧ y = .ok d' ∧ d ≠ d'

theorem apart_of_binds {α : Type} {a b : α} {x y : Contract ℕ} (hx : ∃ d, x = .ok d)
    (hy : ∃ d, y = .ok d) (h : ∀ d, x = .ok d → y = .ok d → a = b) (hne : a ≠ b) : Apart x y := by
  obtain ⟨d, hd⟩ := hx
  obtain ⟨d', hd'⟩ := hy
  refine ⟨d, d', hd, hd', ?_⟩
  rintro rfl
  exact hne (h d hd hd')

theorem exists_checked_digest {finish : String → List (Write F32Value ℕ) → ℕ}
    {check : Contract Unit} {domain : String} {writes : List (Write F32Value ℕ)}
    (hcheck : check = .ok ()) (hwrites : writes.all Write.accepted = true) :
    ∃ d, (do check; finish256 finish domain writes) = .ok d :=
  ⟨_, contract_check_eq_ok_iff.2 ⟨hcheck, finish256_eq_ok_iff.2 ⟨hwrites, rfl⟩⟩⟩

theorem apart_of_checked {α : Type} {a b : α} {finish : String → List (Write F32Value ℕ) → ℕ}
    {check check' : Contract Unit} {domain : String} {writes writes' : List (Write F32Value ℕ)}
    (hcheck : check = .ok ()) (hwrites : writes.all Write.accepted = true)
    (hcheck' : check' = .ok ()) (hwrites' : writes'.all Write.accepted = true)
    (h : ∀ d, (do check; finish256 finish domain writes) = .ok d →
      (do check'; finish256 finish domain writes') = .ok d → a = b) (hne : a ≠ b) :
    Apart (do check; finish256 finish domain writes) (do check'; finish256 finish domain writes') :=
  apart_of_binds (exists_checked_digest hcheck hwrites) (exists_checked_digest hcheck' hwrites')
    h hne

/-- A valid frame without summaries and source state has a digest. -/
theorem exists_canonicalDigest {finish : String → List (Write F32Value ℕ) → ℕ}
    {f : CognitiveContextFrame F32Value ℕ} {a : ℕ} (hvalid : f.validateContract = .ok ())
    (hattention : f.attention.canonicalDigest finish = .ok a)
    (hsummaries : f.peripheral.summaries = []) (hsource : f.prediction.sourceState = none)
    (hwrites : (f.writes a [] none).all Write.accepted = true) :
    ∃ d, f.canonicalDigest finish = .ok d := by
  refine ⟨_, canonicalDigest_eq_ok_iff.2 ⟨hvalid, a, [], none, hattention, ?_, ?_,
    finish256_eq_ok_iff.2 ⟨hwrites, rfl⟩⟩⟩
  · rw [hsummaries]
    rfl
  · rw [hsource]
    rfl

/-- A builder that keeps its writes apart.  The frames that differ in the previous identity
do not meet the condition, those of two sequences do, and so have two digests; and so have two
attention frames, conditions, states, bundles and receipts. -/
theorem cognitive_context_digest_binds_sampleContext :
    ∃ finish : String → List (Write F32Value ℕ) → ℕ, Function.Injective2 finish ∧
      (∀ d d', (sampleContext none).canonicalDigest finish = .ok d →
        (sampleContext (some (.organism ⟨2⟩))).canonicalDigest finish = .ok d' →
          ((d = d' → sampleContext none = sampleContext (some (.organism ⟨2⟩))) ↔
            ((sampleContext none).sealed = (sampleContext (some (.organism ⟨2⟩))).sealed →
              (sampleContext none).unsealed
                = (sampleContext (some (.organism ⟨2⟩))).unsealed))) ∧
      Apart ((sampleContext none).canonicalDigest finish) (laterContext.canonicalDigest finish) ∧
      Apart ((sampleContext none).attention.canonicalDigest finish)
        (laterContext.attention.canonicalDigest finish) ∧
      Apart ((sampleCondition .zero).canonicalDigest finish)
        ((sampleCondition .one).canonicalDigest finish) ∧
      Apart ((SemanticStateVector.mk 1 1 [.zero, .zero]).canonicalDigest finish)
        ((SemanticStateVector.mk 1 1 [.zero, .one]).canonicalDigest finish) ∧
      Apart ((sampleBundle .zero).canonicalDigest finish)
        ((sampleBundle .one).canonicalDigest finish) ∧
      Apart ((sampleReceipt 0).canonicalDigest finish)
        ((sampleReceipt 1).canonicalDigest finish) := by
  obtain ⟨code, hcode⟩ := exists_injective_nat (List ℕ × List (Write F32Value ℕ))
  have hfinish : Function.Injective2 fun (domain : String) (writes : List (Write F32Value ℕ)) =>
      code (domain.toList.map Char.toNat, writes) := by
    intro a b s t h
    obtain ⟨hdomain, hwrites⟩ := Prod.mk.inj (hcode h)
    exact ⟨String.toList_inj.1 (List.map_injective_iff.2 (fun _ _ => Char.toNat_inj.1) hdomain),
      hwrites⟩
  generalize (fun (domain : String) (writes : List (Write F32Value ℕ)) =>
      code (domain.toList.map Char.toNat, writes)) = finish at hfinish
  obtain ⟨hframe, hattention, hcondition, hstate, hbundle, hreceipt⟩ :=
    cognitive_context_digest_binds hfinish
  refine ⟨finish, hfinish, hframe _ _, ?_,
    apart_of_checked rfl rfl rfl rfl (hattention _ _) (by decide),
    apart_of_checked rfl rfl rfl rfl (hcondition _ _) (by decide),
    apart_of_checked rfl rfl rfl rfl (hstate _ _) (by decide),
    apart_of_checked rfl rfl rfl rfl (hbundle _ _) (by decide),
    apart_of_checked rfl rfl rfl rfl (hreceipt _ _) (by decide)⟩
  obtain ⟨a, ha⟩ : ∃ a, (sampleContext none).attention.canonicalDigest finish = .ok a :=
    exists_checked_digest rfl rfl
  obtain ⟨a', ha'⟩ : ∃ a, laterContext.attention.canonicalDigest finish = .ok a :=
    exists_checked_digest rfl rfl
  refine apart_of_binds (exists_canonicalDigest rfl ha rfl rfl rfl)
    (exists_canonicalDigest rfl ha' rfl rfl rfl) (fun d hd hd' => ?_)
    (show sampleContext none ≠ laterContext by decide)
  -- the frames differ in what is written, so the condition asks nothing of what is left out
  refine (hframe _ _ d d hd hd').2 (fun hsealed => ?_) rfl
  exact absurd (congrArg sequenceId hsealed) (by decide)

end CognitiveContextFrame

end ALife
