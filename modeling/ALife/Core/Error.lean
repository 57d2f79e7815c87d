/-
# Contract errors and schema versions

`ScaffoldContractError` (`crates/alife_core/src/error.rs`) and the schema
registry (`crates/alife_core/src/version.rs`).  The display texts of the errors
are left out: no modelled function reads them.
-/

import Mathlib.Tactic

namespace ALife

/-- The versioned schemas of the registry. -/
inductive SchemaKind where
  | chemistry | sensoryAbi | actionAbi | experience | perception | phenotype | packedLog | genome
  | neuralProjection | learning | sleepConsolidation | sensorProfile | memoryQuery | save
  | teacherSchool | lineageExport
  deriving DecidableEq, Repr

/-- `SchemaVersions::current_for`. -/
def SchemaKind.current : SchemaKind → UInt16
  | .chemistry => 3
  | .sensoryAbi => 1
  | .actionAbi => 2
  | .experience => 4
  | .perception => 1
  | .phenotype => 3
  | .packedLog => 2
  | .genome => 3
  | .neuralProjection => 2
  | .learning => 3
  | .sleepConsolidation => 2
  | .sensorProfile => 1
  | .memoryQuery => 2
  | .save => 3
  | .teacherSchool => 3
  | .lineageExport => 1

/-- The errors of the core contracts. -/
inductive ScaffoldContractError where
  | brainClassTooSmall | brainClassAlignment | lobeTotalMismatch | lobeAlignment
  | lobeRangeCoverage | routingReferencesDisabledLobe | routingDuplicateMask
  | missingCanonicalNeuronCount | invalidId | unknownBrainClass | nonFiniteFloat
  | scalarOutOfRange | denseAlphaRequiresOptIn | lamarckianInheritanceRequiresOptIn
  | invalidGeneticBounds | incompatibleGeneticClass | mutationOverflow | nonMonotonicTick
  | invalidBounds | missingPhaseData | unorderedExperiencePhase | mismatchedCreatureId
  | invalidActionDecision | outOfRangeDriveHormone
  | incompatibleAbi (kind : SchemaKind) (expected actual : UInt16)
  | packedLogSchemaMismatch (expected actual : UInt16)
  | packedLogSideBufferOverflow | packedLogFrameCapacityExceeded | topologyCapacityExceeded
  | invalidSparseProjectionSchema | unsupportedSparseTileFormat | backendParity
  | invalidPerceptionFrame | invalidActionCandidate | invalidDecisionEvidence
  | evidenceKindMismatch | phenotypeCompile | unsupportedProductionBrainClass
  | gpuLayoutMismatch | sensorProfileMismatch | trackedObjectIdentityExhausted
  | invalidMemoryQuery | memoryModeConflict | memoryReplayRejected | memoryCompactionConflict
  | brainOwnershipMismatch | learningEvidenceMismatch | learningReplayRejected
  | consolidationGenerationMismatch | brainActivityPolicyMismatch
  | brainActivitySequenceMismatch | brainAtpExhausted | gpuTimestampQueryUnavailable
  | neuralBackendUnavailable
  deriving DecidableEq, Repr

/-- The result of a fallible core call. -/
abbrev Contract (α : Type) := Except ScaffoldContractError α

/-- `require_current_version`. -/
def requireCurrentVersion (kind : SchemaKind) (actual : UInt16) : Contract Unit :=
  if actual = kind.current then .ok () else .error (.incompatibleAbi kind kind.current actual)

@[simp] theorem requireCurrentVersion_eq_ok_iff {kind : SchemaKind} {v : UInt16} :
    requireCurrentVersion kind v = .ok () ↔ v = kind.current := by
  unfold requireCurrentVersion
  split_ifs with h <;> simp [h]

/-- A check of the form `if bad { return Err(e) }`. -/
def reject (bad : Prop) [Decidable bad] (e : ScaffoldContractError) : Contract Unit :=
  if bad then .error e else .ok ()

@[simp] theorem reject_eq_ok_iff {bad : Prop} [Decidable bad] {e : ScaffoldContractError} :
    reject bad e = .ok () ↔ ¬bad := by
  unfold reject
  split_ifs with h <;> simp [h]

/-- A chain of checks passes exactly when each of them does. -/
@[simp] theorem contract_seq_eq_ok_iff {x y : Contract Unit} :
    (x >>= fun _ => y) = .ok () ↔ x = .ok () ∧ y = .ok () := by
  cases x with
  | ok a => simp [bind, Except.bind]
  | error e => simp [bind, Except.bind]

/-- A fallible call inside a check passes when it and the rest do. -/
theorem contract_bind_eq_ok_iff {α β : Type} {x : Contract α} {f : α → Contract β} {b : β} :
    (x >>= f) = .ok b ↔ ∃ a, x = .ok a ∧ f a = .ok b := by
  cases x with
  | ok a => simp [bind, Except.bind]
  | error e => simp [bind, Except.bind]

/-- What follows a check runs when the check passes. -/
theorem contract_check_eq_ok_iff {β : Type} {x : Contract Unit} {f : Unit → Contract β} {b : β} :
    (x >>= f) = .ok b ↔ x = .ok () ∧ f () = .ok b := by
  cases x with
  | ok a => simp [bind, Except.bind]
  | error e => simp [bind, Except.bind]

/-- A loop of checks passes when each of them does. -/
theorem contract_forM_eq_ok_iff {α : Type} {f : α → Contract Unit} {l : List α} :
    l.forM f = .ok () ↔ ∀ a ∈ l, f a = .ok () := by
  induction l with
  | nil => exact iff_of_true rfl fun _ h => absurd h List.not_mem_nil
  | cons a l ih =>
    rw [List.forall_mem_cons, ← ih]
    exact contract_seq_eq_ok_iff

/-- A call that never fails on the list maps it. -/
theorem contract_mapM_ok {α β : Type} {f : α → Contract β} {g : α → β} {l : List α}
    (h : ∀ a ∈ l, f a = .ok (g a)) : l.mapM f = .ok (l.map g) := by
  induction l with
  | nil => rfl
  | cons a l ih =>
    rw [List.mapM_cons, h a List.mem_cons_self, ih fun b hb => h b (List.mem_cons_of_mem _ hb)]
    rfl

/-- A map that succeeded is undone by an inverse of the call. -/
theorem map_of_contract_mapM {α β : Type} {f : α → Contract β} {g : β → α}
    (hinv : ∀ a b, f a = .ok b → g b = a) {l : List α} {r : List β} (h : l.mapM f = .ok r) :
    r.map g = l := by
  induction l generalizing r with
  | nil =>
    cases h
    rfl
  | cons a l ih =>
    rw [List.mapM_cons] at h
    obtain ⟨b, hb, h⟩ := contract_bind_eq_ok_iff.1 h
    obtain ⟨bs, hbs, h⟩ := contract_bind_eq_ok_iff.1 h
    cases h
    rw [List.map_cons, hinv a b hb, ih hbs]

/-- Maps of an injective call with one result come from one list. -/
theorem eq_of_contract_mapM {α β : Type} {f : α → Contract β}
    (hinj : ∀ a a' b, f a = .ok b → f a' = .ok b → a = a') {l l' : List α} {r : List β}
    (h : l.mapM f = .ok r) (h' : l'.mapM f = .ok r) : l = l' := by
  induction l generalizing l' r with
  | nil =>
    cases h
    rcases l' with _ | ⟨a, l'⟩
    · rfl
    · rw [List.mapM_cons] at h'
      obtain ⟨b, -, h'⟩ := contract_bind_eq_ok_iff.1 h'
      obtain ⟨bs, -, h'⟩ := contract_bind_eq_ok_iff.1 h'
      cases h'
  | cons a l ih =>
    rw [List.mapM_cons] at h
    obtain ⟨b, hb, h⟩ := contract_bind_eq_ok_iff.1 h
    obtain ⟨bs, hbs, h⟩ := contract_bind_eq_ok_iff.1 h
    cases h
    rcases l' with _ | ⟨a', l'⟩
    · cases h'
    · rw [List.mapM_cons] at h'
      obtain ⟨b', hb', h'⟩ := contract_bind_eq_ok_iff.1 h'
      obtain ⟨bs', hbs', h'⟩ := contract_bind_eq_ok_iff.1 h'
      cases h'
      rw [hinj a a' b hb hb', ih hbs hbs']

/-- A map that succeeded did so on each element. -/
theorem ok_of_contract_mapM {α β : Type} {f : α → Contract β} {l : List α} {r : List β}
    (h : l.mapM f = .ok r) : ∀ a ∈ l, ∃ b, f a = .ok b := by
  induction l generalizing r with
  | nil => simp
  | cons a l ih =>
    rw [List.mapM_cons] at h
    obtain ⟨b, hb, h⟩ := contract_bind_eq_ok_iff.1 h
    obtain ⟨bs, hbs, -⟩ := contract_bind_eq_ok_iff.1 h
    exact List.forall_mem_cons.2 ⟨⟨b, hb⟩, ih hbs⟩

/-- A map succeeds when the call does on each element. -/
theorem exists_contract_mapM {α β : Type} {f : α → Contract β} {l : List α}
    (h : ∀ a ∈ l, ∃ b, f a = .ok b) : ∃ r, l.mapM f = .ok r := by
  induction l with
  | nil => exact ⟨[], rfl⟩
  | cons a l ih =>
    rw [List.forall_mem_cons] at h
    obtain ⟨b, hb⟩ := h.1
    obtain ⟨r, hr⟩ := ih h.2
    refine ⟨b :: r, ?_⟩
    rw [List.mapM_cons, hb, contract_bind_eq_ok_iff]
    exact ⟨b, rfl, by rw [hr]; rfl⟩

/-- A map that succeeded holds the call's results in place. -/
theorem getElem?_of_contract_mapM {α β : Type} {f : α → Contract β} {l : List α} {r : List β}
    (h : l.mapM f = .ok r) :
    r.length = l.length ∧ ∀ (i : ℕ) (a : α), l[i]? = some a → ∃ b, f a = .ok b ∧ r[i]? = some b := by
  induction l generalizing r with
  | nil =>
    cases h
    simp
  | cons a l ih =>
    rw [List.mapM_cons] at h
    obtain ⟨b, hb, h⟩ := contract_bind_eq_ok_iff.1 h
    obtain ⟨bs, hbs, h⟩ := contract_bind_eq_ok_iff.1 h
    obtain rfl := Except.ok.inj h
    obtain ⟨hlength, hget⟩ := ih hbs
    refine ⟨by rw [List.length_cons, List.length_cons, hlength], fun i x hx => ?_⟩
    cases i with
    | zero =>
      rw [List.getElem?_cons_zero, Option.some.injEq] at hx
      subst hx
      exact ⟨b, hb, rfl⟩
    | succ i => exact hget i x hx

/-- A map that succeeded holds nothing but the call's results. -/
theorem mem_of_contract_mapM {α β : Type} {f : α → Contract β} {l : List α} {r : List β}
    (h : l.mapM f = .ok r) {b : β} (hb : b ∈ r) : ∃ a ∈ l, f a = .ok b := by
  obtain ⟨hlength, hget⟩ := getElem?_of_contract_mapM h
  obtain ⟨i, hi⟩ := List.mem_iff_getElem?.1 hb
  have hbound : i < l.length := hlength ▸ (List.getElem?_eq_some_iff.1 hi).1
  obtain ⟨b', hb', hi'⟩ := hget i l[i] (List.getElem?_eq_getElem hbound)
  rw [hi, Option.some.injEq] at hi'
  exact ⟨l[i], List.getElem_mem hbound, hi' ▸ hb'⟩

/-- A map that succeeded has distinct results when a result tells what was distinct
of its element. -/
theorem nodup_of_contract_mapM {α β γ : Type} {f : α → Contract β} {g : α → γ} {l : List α}
    {r : List β} (h : l.mapM f = .ok r)
    (htells : ∀ a ∈ l, ∀ a' ∈ l, ∀ b, f a = .ok b → f a' = .ok b → g a = g a')
    (hnodup : (l.map g).Nodup) : r.Nodup := by
  induction l generalizing r with
  | nil =>
    cases h
    exact List.nodup_nil
  | cons a l ih =>
    rw [List.mapM_cons] at h
    obtain ⟨b, hb, h⟩ := contract_bind_eq_ok_iff.1 h
    obtain ⟨bs, hbs, h⟩ := contract_bind_eq_ok_iff.1 h
    obtain rfl := Except.ok.inj h
    rw [List.map_cons, List.nodup_cons] at hnodup
    refine List.nodup_cons.2 ⟨fun hmem => ?_, ih hbs (fun a ha a' ha' => htells a
      (List.mem_cons_of_mem _ ha) a' (List.mem_cons_of_mem _ ha')) hnodup.2⟩
    obtain ⟨a', ha', hb'⟩ := mem_of_contract_mapM hbs hmem
    exact hnodup.1 (List.mem_map.2 ⟨a', ha',
      htells a' (List.mem_cons_of_mem _ ha') a List.mem_cons_self b hb' hb⟩)

/-- A checked map succeeds when every check passes. -/
theorem contract_mapM_ite_eq_ok_iff {α β : Type} {bad : α → Prop} [DecidablePred bad]
    {e : ScaffoldContractError} {g : α → β} {l : List α} {r : List β} :
    (l.mapM fun a => if bad a then (.error e : Contract β) else .ok (g a)) = .ok r ↔
      (∀ a ∈ l, ¬bad a) ∧ r = l.map g := by
  induction l generalizing r with
  | nil => simp [pure, Except.pure, eq_comm]
  | cons a l ih =>
    rw [List.mapM_cons, contract_bind_eq_ok_iff]
    by_cases ha : bad a
    · simp [ha]
    · simp only [ha, if_false, Except.ok.injEq, contract_bind_eq_ok_iff, exists_eq_left',
        List.forall_mem_cons, not_false_eq_true, true_and, List.map_cons]
      constructor
      · rintro ⟨bs, hbs, h⟩
        cases h
        exact ⟨(ih.1 hbs).1, by rw [(ih.1 hbs).2]⟩
      · rintro ⟨hl, rfl⟩
        exact ⟨l.map g, ih.2 ⟨hl, rfl⟩, rfl⟩

/-- A map of a check and a result succeeds when every check passes. -/
theorem contract_mapM_reject_eq_ok_iff {α β : Type} {bad : α → Prop} [DecidablePred bad]
    {e : ScaffoldContractError} {g : α → β} {l : List α} {r : List β} :
    (l.mapM fun a => (do reject (bad a) e; .ok (g a) : Contract β)) = .ok r ↔
      (∀ a ∈ l, ¬bad a) ∧ r = l.map g := by
  have hcheck : (fun a => (do reject (bad a) e; .ok (g a) : Contract β))
      = fun a => if bad a then (.error e : Contract β) else .ok (g a) := by
    funext a
    unfold reject
    split_ifs <;> rfl
  rw [hcheck, contract_mapM_ite_eq_ok_iff]

end ALife
