/-
# Throttle decisions

`NeuralThrottleDecision` (`crates/alife_core/src/activity.rs`).  The throttle
level of a pressure sample decides the microsteps of a tick and which routes
take part.  More pressure never adds a microstep or a route
(`throttledMicrosteps_anti`, `routesAt_anti`), and no level drops a
mandatory route: a phenotype that marks one non-essential is refused at every
level.  A phenotype is seen as far as a decision reads it.
-/

import ALife.Activity.Pressure
import ALife.Machine.SortedNames
import ALife.Phenotype.Routing
import Mathlib.Data.Nat.Bitwise

namespace ALife

open Machine

namespace Activity

structure CompiledProjection where
  routeIndex : UInt16
  sourceLobe : LobeKind
  targetLobe : LobeKind
  projectionType : ProjectionType
  priority : BiologicalPriority
  deriving DecidableEq, Repr

structure BrainPhenotype where
  brainClassId : BrainClassId
  phenotypeHash : PhenotypeHash
  microstepCount : UInt8
  projections : List CompiledProjection

/-- `BrainExecutionBudget`, its `microstep_range`. -/
structure BrainExecutionBudget where
  minMicrosteps : UInt8
  maxMicrosteps : UInt8
  deriving DecidableEq, Repr

/-! ## The route schedule digest -/

/-- `ROUTE_DIGEST_SEEDS`. -/
def routeDigestSeeds : Fin 8 → UInt32 :=
  ![0x811c9dc5, 0x9e3779b9, 0x243f6a88, 0xb7e15163, 0xa4093822, 0x299f31d0, 0x082efa98, 0xec4e6c89]

/-- `ROUTE_DIGEST_SALTS`. -/
def routeDigestSalts : Fin 8 → UInt32 :=
  ![0x00000000, 0x85ebca6b, 0xc2b2ae35, 0x27d4eb2f, 0x165667b1, 0xd3a2646c, 0xfd7046c5, 0xb55a4f09]

/-- `mix_route_digest_word`. -/
def mixRouteDigestWord (digest : Fin 8 → UInt32) (word : UInt32) : Fin 8 → UInt32 :=
  fun lane => ((digest lane + routeDigestSalts lane) ^^^ word) * 16777619

/-- The two halves of a word, the low one first. -/
def halves (word : UInt64) : List UInt32 := [word.toUInt32, (word >>> 32).toUInt32]

def routeScheduleDigest (phenotype : BrainPhenotype) (microsteps : UInt8)
    (enabledRouteIds : List UInt16) : Digest256 :=
  let words := phenotype.phenotypeHash.words.words.flatMap halves
    ++ [microsteps.toUInt32, (tryFrom32 enabledRouteIds.length).getD 0xFFFFFFFF]
    ++ enabledRouteIds.map UInt16.toUInt32
  let digest := words.foldl mixRouteDigestWord routeDigestSeeds
  let pair := fun low high : Fin 8 => (digest low).toUInt64 ||| ((digest high).toUInt64 <<< 32)
  ⟨pair 0 1, pair 2 3, pair 4 5, pair 6 7⟩

/-- Mixing in a word keeps the parity of two lanes with even salts together. -/
theorem mixRouteDigestWord_parity (digest : Fin 8 → UInt32) (word : UInt32) :
    ((mixRouteDigestWord digest word 0).toNat + (mixRouteDigestWord digest word 5).toNat) % 2
      = ((digest 0).toNat + (digest 5).toNat) % 2 := by
  have hlane : ∀ x salt : UInt32, salt.toNat % 2 = 0 →
      ((x + salt ^^^ word) * 16777619).toNat % 2 = (x.toNat + word.toNat) % 2 := by
    intro x salt hsalt
    have hodd : (16777619 : UInt32).toNat % 2 = 1 := by decide
    rw [UInt32.toNat_mul, Nat.mod_mod_of_dvd _ (by decide), Nat.mul_mod, hodd, mul_one, Nat.mod_mod,
      UInt32.toNat_xor, Nat.xor_mod_two_eq, Nat.add_mod, UInt32.toNat_add,
      Nat.mod_mod_of_dvd _ (by decide)]
    omega
  have hzero := hlane (digest 0) (routeDigestSalts 0) (by decide)
  have hfive := hlane (digest 5) (routeDigestSalts 5) (by decide)
  unfold mixRouteDigestWord
  omega

/-- **No schedule has the absent digest**: its first and its sixth lane differ in parity. -/
theorem routeScheduleDigest_ne_zero (phenotype : BrainPhenotype) (microsteps : UInt8)
    (enabledRouteIds : List UInt16) :
    routeScheduleDigest phenotype microsteps enabledRouteIds ≠ .zero := by
  have hparity : ∀ (words : List UInt32) (digest : Fin 8 → UInt32),
      ((digest 0).toNat + (digest 5).toNat) % 2 = 1 →
      ((words.foldl mixRouteDigestWord digest 0).toNat
        + (words.foldl mixRouteDigestWord digest 5).toNat) % 2 = 1 := by
    intro words
    induction words with
    | nil => exact fun _ h => h
    | cons word words ih =>
      exact fun digest h => ih _ (by rw [mixRouteDigestWord_parity]; exact h)
  intro hzero
  have hlanes := hparity (phenotype.phenotypeHash.words.words.flatMap halves
    ++ [microsteps.toUInt32, (tryFrom32 enabledRouteIds.length).getD 0xFFFFFFFF]
    ++ enabledRouteIds.map UInt16.toUInt32) routeDigestSeeds (by decide)
  have h0 := congrArg Digest256.w0 hzero
  have h2 := congrArg Digest256.w2 hzero
  simp only [routeScheduleDigest, Digest256.zero, UInt64.or_eq_zero_iff] at h0 h2
  have hlow : ∀ x : UInt32, x.toUInt64 = 0 → x.toNat = 0 := fun x hx => by
    simpa using congrArg UInt64.toNat hx
  have hhigh : ∀ x : UInt32, x.toUInt64 <<< 32 = 0 → x.toNat = 0 := fun x hx => by
    have := congrArg UInt64.toNat hx
    have hx := x.toNat_lt
    simp [Nat.shiftLeft_eq] at this
    omega
  rw [hlow _ h0.1, hhigh _ h2.2] at hlanes
  exact absurd hlanes (by decide)

/-! ## Decisions -/

structure NeuralThrottleDecision where
  schemaVersion : UInt16
  policyVersion : UInt16
  organismIdRaw : UInt64
  tick : UInt64
  classIdRaw : UInt16
  handleSlot : UInt32
  handleGeneration : UInt32
  sequenceCursor : UInt64
  dispatchGeneration : UInt64
  frameDigest : Digest256
  level : NeuralThrottleLevel
  pressure : GpuPressureSample
  microsteps : UInt8
  enabledRouteIds : List UInt16
  pressureDigest : Digest256
  routeScheduleDigest : Digest256
  policyDigest : Digest256
  decisionDigest : Digest256
  deriving DecidableEq, Repr

namespace NeuralThrottleDecision

def routeIsMandatory (route : CompiledProjection) : Bool :=
  route.sourceLobe matches .perceptualIntegration | .socialCommunication | .flexibleReserve
    || route.targetLobe matches .flexibleReserve | .actionPlanning
    || route.projectionType matches .motorProposal | .homeostatic | .lateralInhibition

def recomputeDigest (d : NeuralThrottleDecision) : Digest256 :=
  let header := (CanonicalDigestBuilder.new (asciiBytes "alife.brain.activity.decision.v1"))
    |>.writeU16 d.schemaVersion |>.writeU16 d.policyVersion |>.writeU64 d.organismIdRaw
    |>.writeU64 d.tick |>.writeU16 d.classIdRaw |>.writeU32 d.handleSlot
    |>.writeU32 d.handleGeneration |>.writeU64 d.sequenceCursor |>.writeU64 d.dispatchGeneration
    |>.writeDigest d.frameDigest |>.writeU8 d.level.raw |>.writeU8 d.microsteps
    |>.writeSequenceLen d.enabledRouteIds.length
  (d.enabledRouteIds.foldl CanonicalDigestBuilder.writeU16 header)
    |>.writeDigest d.pressureDigest |>.writeDigest d.routeScheduleDigest
    |>.writeDigest d.policyDigest |>.finish256

/-- The digest does not cover its own field. -/
theorem recomputeDigest_withDigest (d : NeuralThrottleDecision) (digest : Digest256) :
    { d with decisionDigest := digest }.recomputeDigest = d.recomputeDigest := rfl

/-- The `match level` that chooses the microsteps. -/
def throttledMicrosteps (level : NeuralThrottleLevel) (configured minMicrosteps : UInt8) : UInt8 :=
  match level with
  | .full => configured
  | .reduced =>
    -- `configured.saturating_sub(1).max(min_microsteps)`
    let fewer := if configured = 0 then 0 else configured - 1
    if fewer < minMicrosteps then minMicrosteps else fewer
  | .essentialOnly => minMicrosteps

/-- The `match level` that enables a route. -/
def enabledAt (level : NeuralThrottleLevel) (route : CompiledProjection) : Bool :=
  match level with
  | .full => true
  | .reduced => route.priority ≠ .nonEssential
  | .essentialOnly => route.priority = .essential || routeIsMandatory route

/-- One round of the loop over the routes. -/
def collectRoute (level : NeuralThrottleLevel) (ids : List UInt16) (route : CompiledProjection) :
    Contract (List UInt16) := do
  failIf (routeIsMandatory route ∧ route.priority = .nonEssential) .brainActivityPolicyMismatch
  .ok (if enabledAt level route then ids ++ [route.routeIndex] else ids)

/-- The fields of a decision, before its digest is set. -/
def fields (policy : BrainActivityPolicyV1) (phenotype : BrainPhenotype)
    (identity : BrainDispatchIdentity) (pressure : GpuPressureSample) (microsteps : UInt8)
    (enabledRouteIds : List UInt16) : NeuralThrottleDecision where
  schemaVersion := policy.schemaVersion
  policyVersion := policy.policyVersion
  organismIdRaw := identity.organismIdRaw
  tick := identity.tick
  classIdRaw := identity.classIdRaw
  handleSlot := identity.handleSlot
  handleGeneration := identity.handleGeneration
  sequenceCursor := identity.sequenceCursor
  dispatchGeneration := identity.dispatchGeneration
  frameDigest := identity.frameDigest
  level := pressure.throttleLevel
  pressure := pressure
  microsteps := microsteps
  enabledRouteIds := enabledRouteIds
  pressureDigest := pressure.sampleDigest
  routeScheduleDigest := Activity.routeScheduleDigest phenotype microsteps enabledRouteIds
  policyDigest := policy.policyDigest
  decisionDigest := .zero

/-- A decision with its digest. -/
def sealed (policy : BrainActivityPolicyV1) (phenotype : BrainPhenotype)
    (identity : BrainDispatchIdentity) (pressure : GpuPressureSample) (microsteps : UInt8)
    (enabledRouteIds : List UInt16) : NeuralThrottleDecision :=
  let decision := fields policy phenotype identity pressure microsteps enabledRouteIds
  { decision with decisionDigest := decision.recomputeDigest }

def deriveUnchecked (policy : BrainActivityPolicyV1) (phenotype : BrainPhenotype)
    (execution : BrainExecutionBudget) (identity : BrainDispatchIdentity)
    (pressure : GpuPressureSample) : Contract NeuralThrottleDecision := do
  let level := pressure.throttleLevel
  let configured := phenotype.microstepCount
  failIf (¬(execution.minMicrosteps ≤ configured ∧ configured ≤ execution.maxMicrosteps))
    .brainActivityPolicyMismatch
  let microsteps := throttledMicrosteps level configured execution.minMicrosteps
  let collected ← phenotype.projections.foldlM (collectRoute level) []
  let enabledRouteIds := sortDedup UInt16.toNat collected
  failIf (enabledRouteIds = []) .brainActivityPolicyMismatch
  let decision := sealed policy phenotype identity pressure microsteps enabledRouteIds
  failIf (decision.decisionDigest = .zero) .brainActivitySequenceMismatch
  .ok decision

def derive (policy : BrainActivityPolicyV1) (phenotype : BrainPhenotype)
    (execution : BrainExecutionBudget) (identity : BrainDispatchIdentity)
    (pressure : GpuPressureSample) : Contract NeuralThrottleDecision := do
  policy.validateContract
  pressure.validateFor policy
  failIf (identity ≠ pressure.dispatchIdentity ∨ identity.classIdRaw ≠ phenotype.brainClassId.raw)
    .brainActivitySequenceMismatch
  deriveUnchecked policy phenotype execution identity pressure

/-- The identity that a decision carries. -/
def dispatchIdentity (d : NeuralThrottleDecision) : BrainDispatchIdentity where
  organismIdRaw := d.organismIdRaw
  tick := d.tick
  classIdRaw := d.classIdRaw
  handleSlot := d.handleSlot
  handleGeneration := d.handleGeneration
  sequenceCursor := d.sequenceCursor
  dispatchGeneration := d.dispatchGeneration
  frameDigest := d.frameDigest

def validateFor (d : NeuralThrottleDecision) (phenotype : BrainPhenotype)
    (execution : BrainExecutionBudget) : Contract Unit := do
  let policy := BrainActivityPolicyV1.productionV1
  d.pressure.validateFor policy
  let identity := d.dispatchIdentity
  identity.validateContract
  let expected ← deriveUnchecked policy phenotype execution identity d.pressure
  failIf (d.schemaVersion ≠ policy.schemaVersion
      ∨ d.policyVersion ≠ policy.policyVersion
      ∨ d.classIdRaw ≠ phenotype.brainClassId.raw
      ∨ d.pressure.dispatchIdentity ≠ identity
      ∨ d.pressureDigest ≠ d.pressure.sampleDigest
      ∨ d.policyDigest ≠ policy.policyDigest
      ∨ d.level ≠ expected.level
      ∨ d.microsteps ≠ expected.microsteps
      ∨ d.enabledRouteIds ≠ expected.enabledRouteIds
      ∨ d.routeScheduleDigest ≠ expected.routeScheduleDigest
      ∨ d.decisionDigest = .zero ∨ d.decisionDigest ≠ d.recomputeDigest)
    .brainActivitySequenceMismatch

/-! ## What a decision is -/

/-- No mandatory route is marked non-essential. -/
def Consistent (phenotype : BrainPhenotype) : Prop :=
  ∀ route ∈ phenotype.projections,
    ¬(routeIsMandatory route ∧ route.priority = .nonEssential)

/-- The routes of a phenotype that a level enables. -/
def routesAt (level : NeuralThrottleLevel) (phenotype : BrainPhenotype) : List UInt16 :=
  sortDedup UInt16.toNat
    ((phenotype.projections.filter (enabledAt level)).map CompiledProjection.routeIndex)

theorem mem_routesAt {level : NeuralThrottleLevel} {phenotype : BrainPhenotype} {id : UInt16} :
    id ∈ routesAt level phenotype ↔
      ∃ route ∈ phenotype.projections, enabledAt level route ∧ route.routeIndex = id := by
  rw [routesAt, mem_sortDedup, List.mem_map]
  simp only [List.mem_filter, and_assoc]

theorem pairwise_routesAt (level : NeuralThrottleLevel) (phenotype : BrainPhenotype) :
    (routesAt level phenotype).Pairwise fun a b => a.toNat < b.toNat :=
  pairwise_sortDedup (fun _ _ => UInt16.toNat_inj.1) _

/-- **The loop** enables the routes of its level, unless the phenotype is refused. -/
theorem foldlM_collectRoute_eq_ok_iff {level : NeuralThrottleLevel} {phenotype : BrainPhenotype}
    {ids : List UInt16} :
    phenotype.projections.foldlM (collectRoute level) [] = .ok ids ↔ Consistent phenotype ∧
      (phenotype.projections.filter (enabledAt level)).map CompiledProjection.routeIndex = ids := by
  have hloop := foldlM_eq_ok_iff (f := collectRoute level)
    (g := fun pre => (pre.filter (enabledAt level)).map CompiledProjection.routeIndex)
    (C := fun _ route => ¬(routeIsMandatory route ∧ route.priority = .nonEssential))
    (fun pre route s => by
      rw [collectRoute, except_seq_eq_ok_iff, failIf_eq_ok_iff, Except.ok.injEq]
      refine and_congr_right fun _ => ?_
      by_cases henabled : enabledAt level route <;> simp [henabled])
    (l := phenotype.projections) (s := ids)
  refine hloop.trans (and_congr_left fun _ => ?_)
  constructor
  · intro h route hroute
    obtain ⟨pre, post, hsplit⟩ := List.append_of_mem hroute
    exact h pre route post hsplit
  · intro h pre route post hsplit
    exact h route (by rw [hsplit]; simp)

section Spec

variable {policy : BrainActivityPolicyV1} {phenotype : BrainPhenotype}
  {execution : BrainExecutionBudget} {identity : BrainDispatchIdentity}
  {pressure : GpuPressureSample} {d : NeuralThrottleDecision}

/-- What a derivation needs, apart from a route that is left. -/
structure Admissible (policy : BrainActivityPolicyV1) (phenotype : BrainPhenotype)
    (execution : BrainExecutionBudget) (identity : BrainDispatchIdentity)
    (pressure : GpuPressureSample) : Prop where
  policy_valid : policy.validateContract = .ok ()
  pressure_valid : pressure.validateFor policy = .ok ()
  identity_eq : identity = pressure.dispatchIdentity
  class_eq : identity.classIdRaw = phenotype.brainClassId.raw
  le_configured : execution.minMicrosteps ≤ phenotype.microstepCount
  configured_le : phenotype.microstepCount ≤ execution.maxMicrosteps
  consistent : Consistent phenotype

/-- **What `derive` returns.** -/
theorem derive_eq_ok_iff :
    derive policy phenotype execution identity pressure = .ok d ↔
      Admissible policy phenotype execution identity pressure ∧
      routesAt pressure.throttleLevel phenotype ≠ [] ∧
      d = sealed policy phenotype identity pressure
        (throttledMicrosteps pressure.throttleLevel phenotype.microstepCount
          execution.minMicrosteps)
        (routesAt pressure.throttleLevel phenotype) := by
  unfold derive deriveUnchecked
  rw [except_seq_eq_ok_iff, except_seq_eq_ok_iff, except_seq_eq_ok_iff, except_seq_eq_ok_iff,
    except_bind_eq_ok_iff]
  simp only [except_seq_eq_ok_iff, failIf_eq_ok_iff, foldlM_collectRoute_eq_ok_iff, not_or,
    not_not, ne_eq, Except.ok.injEq]
  constructor
  · rintro ⟨hpolicy, hpressure, ⟨hidentity, hclass⟩, ⟨hmin, hmax⟩, _, ⟨hconsistent, rfl⟩,
      hroutes, -, rfl⟩
    exact ⟨⟨hpolicy, hpressure, hidentity, hclass, hmin, hmax, hconsistent⟩, hroutes, rfl⟩
  · rintro ⟨⟨hpolicy, hpressure, hidentity, hclass, hmin, hmax, hconsistent⟩, hroutes, rfl⟩
    exact ⟨hpolicy, hpressure, ⟨hidentity, hclass⟩, ⟨hmin, hmax⟩, _, ⟨hconsistent, rfl⟩,
      hroutes, CanonicalDigestBuilder.finish256_ne_zero _, rfl⟩

theorem exists_derive_eq_ok_iff :
    (∃ d, derive policy phenotype execution identity pressure = .ok d) ↔
      Admissible policy phenotype execution identity pressure ∧
      routesAt pressure.throttleLevel phenotype ≠ [] := by
  simp only [derive_eq_ok_iff, exists_and_left, exists_eq, and_true]

theorem exists_derive_eq_error_iff :
    (∃ e, derive policy phenotype execution identity pressure = .error e) ↔
      ¬∃ d, derive policy phenotype execution identity pressure = .ok d := by
  cases derive policy phenotype execution identity pressure <;> simp

/-- **A derived decision is valid**, for the production policy. -/
theorem validateFor_of_derive
    (h : derive .productionV1 phenotype execution identity pressure = .ok d) :
    d.validateFor phenotype execution = .ok () := by
  have hunchecked := h
  unfold derive at hunchecked
  obtain ⟨-, hunchecked⟩ := except_seq_eq_ok_iff.1 hunchecked
  obtain ⟨-, hunchecked⟩ := except_seq_eq_ok_iff.1 hunchecked
  obtain ⟨-, hunchecked⟩ := except_seq_eq_ok_iff.1 hunchecked
  obtain ⟨hadmissible, -, rfl⟩ := derive_eq_ok_iff.1 h
  have hidentity : identity.validateContract = .ok () := by
    have hvalid := hadmissible.pressure_valid
    rw [hadmissible.identity_eq]
    unfold GpuPressureSample.validateFor at hvalid
    obtain ⟨-, hvalid⟩ := except_seq_eq_ok_iff.1 hvalid
    exact (except_seq_eq_ok_iff.1 hvalid).1
  unfold validateFor
  rw [except_seq_eq_ok_iff, except_seq_eq_ok_iff, except_bind_eq_ok_iff]
  refine ⟨hadmissible.pressure_valid, hidentity, _, hunchecked, ?_⟩
  rw [failIf_eq_ok_iff]
  simp only [not_or, not_not]
  exact ⟨rfl, rfl, hadmissible.class_eq, hadmissible.identity_eq.symm, rfl, rfl, trivial, trivial,
    trivial, trivial, CanonicalDigestBuilder.finish256_ne_zero _,
    (recomputeDigest_withDigest _ _).symm⟩

end Spec

/-! ## Monotone throttling -/

section Monotone

variable {level level' : NeuralThrottleLevel}

/-- A higher level runs no more microsteps. -/
theorem throttledMicrosteps_anti (hlevel : level.raw.toNat ≤ level'.raw.toNat)
    {configured least : UInt8} (hleast : least ≤ configured) :
    throttledMicrosteps level' configured least ≤ throttledMicrosteps level configured least := by
  have hzero : ¬configured = 0 → 1 ≤ configured.toNat := fun h => by
    rw [← UInt8.toNat_inj] at h
    exact Nat.one_le_iff_ne_zero.2 h
  have hsub : ¬configured = 0 → (configured - 1).toNat = configured.toNat - 1 := fun h =>
    UInt8.toNat_sub_of_le _ _ (UInt8.le_iff_toNat_le.2 (hzero h))
  rw [UInt8.le_iff_toNat_le] at hleast ⊢
  cases level <;> cases level' <;>
    first
    | exact absurd hlevel (by decide)
    | exact le_rfl
    | skip
  · -- from full to reduced
    unfold throttledMicrosteps
    dsimp only
    split_ifs with h0 h1 h1
    · exact hleast
    · exact Nat.zero_le _
    · exact hleast
    · rw [hsub h0]
      omega
  · exact hleast
  · -- from reduced to essential only
    unfold throttledMicrosteps
    dsimp only
    split_ifs with h0 h1 h1
    · exact le_rfl
    · rw [UInt8.not_lt, UInt8.le_iff_toNat_le] at h1
      exact h1
    · exact le_rfl
    · rw [UInt8.not_lt, UInt8.le_iff_toNat_le] at h1
      exact h1

/-- The microsteps stay between the least and the configured number. -/
theorem throttledMicrosteps_mem (level : NeuralThrottleLevel) {configured least : UInt8}
    (hleast : least ≤ configured) :
    least ≤ throttledMicrosteps level configured least ∧
      throttledMicrosteps level configured least ≤ configured := by
  have hfull : NeuralThrottleLevel.full.raw.toNat ≤ level.raw.toNat := Nat.zero_le _
  have hessential : level.raw.toNat ≤ NeuralThrottleLevel.essentialOnly.raw.toNat := by
    cases level <;> decide
  have hbelow := throttledMicrosteps_anti hfull hleast
  have habove := throttledMicrosteps_anti hessential hleast
  exact ⟨habove, hbelow⟩

/-- A higher level enables no route that a lower one does not. -/
theorem enabledAt_anti (hlevel : level.raw.toNat ≤ level'.raw.toNat) {route : CompiledProjection}
    (hroute : ¬(routeIsMandatory route ∧ route.priority = .nonEssential))
    (h : enabledAt level' route) : enabledAt level route := by
  cases level <;> cases level' <;>
    first
    | exact absurd hlevel (by decide)
    | exact h
    | rfl
    | skip
  -- from reduced to essential only
  simp only [enabledAt, Bool.or_eq_true, decide_eq_true_eq, ne_eq] at h ⊢
  obtain hessential | hmandatory := h
  · rw [hessential]
    decide
  · exact fun hpriority => hroute ⟨hmandatory, hpriority⟩

theorem routesAt_anti (hlevel : level.raw.toNat ≤ level'.raw.toNat) {phenotype : BrainPhenotype}
    (hconsistent : Consistent phenotype) : routesAt level' phenotype ⊆ routesAt level phenotype := by
  intro id hid
  obtain ⟨route, hroute, henabled, rfl⟩ := mem_routesAt.1 hid
  exact mem_routesAt.2
    ⟨route, hroute, enabledAt_anti hlevel (hconsistent route hroute) henabled, rfl⟩

/-- What no level drops. -/
theorem enabledAt_of_mandatory_or_essential (level : NeuralThrottleLevel)
    {route : CompiledProjection}
    (hroute : ¬(routeIsMandatory route ∧ route.priority = .nonEssential))
    (h : routeIsMandatory route ∨ route.priority = .essential) : enabledAt level route := by
  have hessential : level.raw.toNat ≤ NeuralThrottleLevel.essentialOnly.raw.toNat := by
    cases level <;> decide
  refine enabledAt_anti hessential hroute ?_
  simp only [enabledAt, Bool.or_eq_true, decide_eq_true_eq]
  exact h.symm

end Monotone

/-- What every decision says of the microsteps and the routes. -/
structure WellScheduled (phenotype : BrainPhenotype) (execution : BrainExecutionBudget)
    (d : NeuralThrottleDecision) : Prop where
  le_microsteps : execution.minMicrosteps ≤ d.microsteps
  microsteps_le : d.microsteps ≤ execution.maxMicrosteps
  ascending : d.enabledRouteIds.Pairwise fun a b => a < b
  of_phenotype : ∀ id ∈ d.enabledRouteIds, ∃ route ∈ phenotype.projections, route.routeIndex = id
  keeps : ∀ route ∈ phenotype.projections,
    routeIsMandatory route ∨ route.priority = .essential → route.routeIndex ∈ d.enabledRouteIds

theorem wellScheduled_of_derive {policy : BrainActivityPolicyV1} {phenotype : BrainPhenotype}
    {execution : BrainExecutionBudget} {identity : BrainDispatchIdentity}
    {pressure : GpuPressureSample} {d : NeuralThrottleDecision}
    (h : derive policy phenotype execution identity pressure = .ok d) :
    WellScheduled phenotype execution d := by
  obtain ⟨hadmissible, -, rfl⟩ := derive_eq_ok_iff.1 h
  have hsteps := throttledMicrosteps_mem pressure.throttleLevel hadmissible.le_configured
  refine ⟨hsteps.1, UInt8.le_trans hsteps.2 hadmissible.configured_le, ?_, fun id hid => ?_,
    fun route hroute hkept => ?_⟩
  · exact (pairwise_routesAt _ _).imp UInt16.lt_iff_toNat_lt.2
  · obtain ⟨route, hroute, -, hindex⟩ := mem_routesAt.1 hid
    exact ⟨route, hroute, hindex⟩
  · exact mem_routesAt.2 ⟨route, hroute,
      enabledAt_of_mandatory_or_essential _ (hadmissible.consistent route hroute) hkept, rfl⟩

/-- Samples of one identity are admissible together. -/
theorem Admissible.congr {policy : BrainActivityPolicyV1} {phenotype : BrainPhenotype}
    {execution : BrainExecutionBudget} {identity : BrainDispatchIdentity}
    {p q : GpuPressureSample} (h : Admissible policy phenotype execution identity p)
    (hvalid : q.validateFor policy = .ok ()) (hidentity : p.dispatchIdentity = q.dispatchIdentity) :
    Admissible policy phenotype execution identity q :=
  { h with pressure_valid := hvalid, identity_eq := h.identity_eq.trans hidentity }

/-- **Throttling is monotone and drops no mandatory route.**  Of two samples of one
identity, the one with no less pressure gets no more microsteps and no other routes, and is
refused when the other is, unless it alone has no route left.  Every decision stays in the
microstep range and keeps every mandatory and every essential route. -/
theorem derive_monotone (policy : BrainActivityPolicyV1) (phenotype : BrainPhenotype)
    (execution : BrainExecutionBudget) (identity : BrainDispatchIdentity) :
    (∀ a b p q, NoLessPressure a b → GpuPressureSample.tryNew policy a = .ok p →
      GpuPressureSample.tryNew policy b = .ok q →
      (∀ d e, derive policy phenotype execution identity p = .ok d →
        derive policy phenotype execution identity q = .ok e →
        e.microsteps ≤ d.microsteps ∧ e.enabledRouteIds ⊆ d.enabledRouteIds) ∧
      (((∃ err, derive policy phenotype execution identity p = .error err) ↔
          ∃ err, derive policy phenotype execution identity q = .error err) ∨
        (∃ d, derive policy phenotype execution identity p = .ok d) ∧
          routesAt q.throttleLevel phenotype = [])) ∧
    ∀ p d, derive policy phenotype execution identity p = .ok d →
      WellScheduled phenotype execution d := by
  refine ⟨fun a b p q hle hp hq => ?_, fun p d hd => wellScheduled_of_derive hd⟩
  have hlevel := hle.throttleLevel_le hp hq
  refine ⟨fun d e hd he => ?_, ?_⟩
  · obtain ⟨hadmissible, -, rfl⟩ := derive_eq_ok_iff.1 hd
    obtain ⟨-, -, rfl⟩ := derive_eq_ok_iff.1 he
    exact ⟨throttledMicrosteps_anti hlevel hadmissible.le_configured,
      routesAt_anti hlevel hadmissible.consistent⟩
  · have hidentity : p.dispatchIdentity = q.dispatchIdentity := by
      rw [GpuPressureSample.dispatchIdentity_of_tryNew hp,
        GpuPressureSample.dispatchIdentity_of_tryNew hq, hle.identity]
    have hadmissible : Admissible policy phenotype execution identity p ↔
        Admissible policy phenotype execution identity q :=
      ⟨fun h => h.congr (GpuPressureSample.tryNew_eq_ok hq).2.1 hidentity,
        fun h => h.congr (GpuPressureSample.tryNew_eq_ok hp).2.1 hidentity.symm⟩
    by_cases hroutes : routesAt q.throttleLevel phenotype = []
    · by_cases hok : ∃ d, derive policy phenotype execution identity p = .ok d
      · exact .inr ⟨hok, hroutes⟩
      · refine .inl (iff_of_true (exists_derive_eq_error_iff.2 hok) ?_)
        exact exists_derive_eq_error_iff.2 fun h => (exists_derive_eq_ok_iff.1 h).2 hroutes
    · left
      rw [exists_derive_eq_error_iff, exists_derive_eq_error_iff, exists_derive_eq_ok_iff,
        exists_derive_eq_ok_iff, hadmissible]
      refine not_congr (and_congr_right fun hq' => iff_of_true (fun hnil => hroutes ?_) hroutes)
      -- the routes of the second sample are routes of the first
      exact List.eq_nil_of_subset_nil (hnil ▸ routesAt_anti hlevel hq'.consistent)

/-! ### A dispatch under rising pressure -/

/-- A dispatch of the first organism. -/
def firstDispatch : BrainDispatchIdentity := ⟨1, 0, 1, 0, 1, 1, 1, ⟨1, 0, 0, 0⟩⟩

/-- A measurement of it, with half of the heap used and all of the ATP left. -/
def measured (completedGpuTimeNs : UInt64) : GpuPressureSampleInput :=
  ⟨firstDispatch, 0, .zero, completedGpuTimeNs, 0, 1, 2, 65535, 65535⟩

/-- A phenotype with one motor route. -/
def motorPhenotype : BrainPhenotype where
  brainClassId := .n512
  phenotypeHash := ⟨⟨1, 2, 3, 4⟩⟩
  microstepCount := 3
  projections := [⟨7, .workingContextExecutive, .actionPlanning, .motorProposal, .essential⟩]

theorem exists_tryNew_measured (completedGpuTimeNs : UInt64) :
    ∃ p, GpuPressureSample.tryNew .productionV1 (measured completedGpuTimeNs) = .ok p := by
  have hidentity : firstDispatch.validateContract = .ok () := by decide
  have hheap : q16Fraction 1 2 = .ok 32768 :=
    q16Fraction_eq_ok_iff.2 ⟨by decide, by decide, by decide⟩
  have hatp : q16Fraction (65535 : UInt32).toUInt64 (65535 : UInt32).toUInt64 = .ok 65535 :=
    q16Fraction_eq_ok_iff.2 ⟨by decide, by decide, by decide⟩
  exact ⟨_, GpuPressureSample.tryNew_eq_sealed hidentity (by simp only [measured]; decide)
    hheap hatp⟩

theorem exists_derive_measured {completedGpuTimeNs : UInt64} {p : GpuPressureSample}
    (hp : GpuPressureSample.tryNew .productionV1 (measured completedGpuTimeNs) = .ok p) :
    ∃ d, derive .productionV1 motorPhenotype ⟨1, 4⟩ firstDispatch p = .ok d := by
  refine exists_derive_eq_ok_iff.2 ⟨⟨?_, (GpuPressureSample.tryNew_eq_ok hp).2.1, ?_, by decide,
    by decide, by decide, by unfold Consistent; decide⟩, ?_⟩
  · exact BrainActivityPolicyV1.validateContract_eq_ok_iff.2 rfl
  · rw [GpuPressureSample.dispatchIdentity_of_tryNew hp]
    rfl
  · refine List.ne_nil_of_mem (a := (7 : UInt16)) (mem_routesAt.2 ?_)
    refine ⟨_, List.mem_singleton_self _, enabledAt_of_mandatory_or_essential _ ?_ ?_, rfl⟩
    · decide
    · decide

theorem derive_monotone_measured :
    ∃ p q d e, GpuPressureSample.tryNew .productionV1 (measured 0) = .ok p ∧
      GpuPressureSample.tryNew .productionV1 (measured 9000000) = .ok q ∧
      derive .productionV1 motorPhenotype ⟨1, 4⟩ firstDispatch p = .ok d ∧
      derive .productionV1 motorPhenotype ⟨1, 4⟩ firstDispatch q = .ok e ∧
      e.microsteps ≤ d.microsteps ∧ e.enabledRouteIds ⊆ d.enabledRouteIds := by
  obtain ⟨p, hp⟩ := exists_tryNew_measured 0
  obtain ⟨q, hq⟩ := exists_tryNew_measured 9000000
  obtain ⟨d, hd⟩ := exists_derive_measured hp
  obtain ⟨e, he⟩ := exists_derive_measured hq
  have hle : NoLessPressure (measured 0) (measured 9000000) :=
    ⟨rfl, by decide, by decide, le_rfl, le_rfl⟩
  exact ⟨p, q, d, e, hp, hq, hd, he,
    ((derive_monotone .productionV1 motorPhenotype ⟨1, 4⟩ firstDispatch).1 _ _ p q hle hp hq).1
      d e hd he⟩

end NeuralThrottleDecision

end Activity

end ALife
