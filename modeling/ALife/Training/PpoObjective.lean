/-
# The objectives of joint actions

`cpu_ppo_objective` of `crates/alife_training/src/cpu/objective.rs`: the log
probability of an action under the softmaxes of its masks, where the slot that
its representative forces is counted once, its entropy, the clipped loss and the
gradient of both in the logits.

`cpu_imitation_objective` of the same file: the loss of a demonstration, of which
some choices are labelled with sets of candidates, and its gradient.

The arithmetic of `f32` is a parameter.
-/

import ALife.Training.JointSampling

namespace ALife

open Machine

namespace Training

variable {F : Type} [FloatOps F] [FloatLog F]

@[ext]
structure CpuPpoObjective (F : Type) where
  jointLogProbability : F
  entropy : F
  policyLoss : F
  approximateKl : F
  ratio : F
  clipped : Bool
  logitGradients : List F

/-- `Distribution`, zero outside of its mask. -/
structure Distribution (F : Type) where
  p : ℕ → F
  lp : ℕ → F
  entropy : F

/-- `Distribution::default()`. -/
def Distribution.default : Distribution F := ⟨fun _ => 0, fun _ => 0, 0⟩

/-- `shifted_logit`. -/
def shiftedLogit (value maximum temperature : F) : F :=
  if FloatOps.lt 1 temperature && FloatOps.lt value 0 && FloatOps.lt 0 maximum then
    value / temperature - maximum / temperature
  else (value - maximum) / temperature

/-- `categorical`. -/
def categorical (logits : List F) (mask : UInt32) (temperature : F) :
    Contract (Distribution F) :=
  if mask = 0 then pure Distribution.default
  else
    let rows := maskedLogits logits mask
    match maxLogit rows with
    | none => .error .invalidDecisionEvidence
    | some top => do
      let z := rows.foldl (fun z row => z + FloatOps.exp (shiftedLogit row.1 top temperature)) 0
      reject (FloatOps.isFinite z = false ∨ FloatOps.le z 0 = true) .invalidDecisionEvidence
      let p (i : ℕ) : F :=
        if hasBit mask i then
          (logits[i]?).elim 0 fun v => FloatOps.exp (shiftedLogit v top temperature) / z
        else 0
      let lp (i : ℕ) : F :=
        if hasBit mask i then
          (logits[i]?).elim 0 fun v => shiftedLogit v top temperature - FloatLog.ln z
        else 0
      let entropy := rows.foldl (fun entropy row =>
        if FloatOps.lt 0 (p row.2) then entropy - p row.2 * lp row.2 else entropy) 0
      pure ⟨p, lp, entropy⟩

/-- `f32::min`. -/
def minOf (a b : F) : F := if FloatOps.lt a b then a else b

/-- The distributions of an action: of its representative, and of its slots. -/
structure Distributions (F : Type) where
  first : Distribution F
  slots : Fin ppoMotorSlots → Distribution F

/-- The distributions of all masks. -/
def distributions (logits : List F) (representativeMask : UInt32)
    (motorMasks : Fin ppoMotorSlots → UInt32) (temperature : F) : Contract (Distributions F) := do
  let first ← categorical logits representativeMask temperature
  let slots ← (List.finRange ppoMotorSlots).mapM fun s =>
    categorical logits (motorMasks s) temperature
  pure ⟨first, fun s => (slots[s.val]?).getD Distribution.default⟩

/-- The slot that a candidate forces. -/
def forcedBy (a : PpoJointAction F) (candidate : ℕ) (s : Fin ppoMotorSlots) : Bool :=
  a.forced candidate == some (UInt8.ofNat s.val)

/-- `logp`, with its slots added in order. -/
def jointLogProbability (d : Distributions F) (a : PpoJointAction F) : Contract F :=
  (List.finRange ppoMotorSlots).foldlM (fun logp s =>
    if forcedBy a a.representative.toNat s = false ∧ a.motorMasks s ≠ 0 then
      match a.motorCandidates s with
      | none => .error .invalidDecisionEvidence
      | some i => pure (logp + (d.slots s).lp i.toNat)
    else pure logp) (d.first.lp a.representative.toNat)

/-- `forced_mass` of a slot. -/
def forcedMass (d : Distributions F) (a : PpoJointAction F) (s : Fin ppoMotorSlots) : F :=
  (List.range a.forcedSlots.length).foldl (fun mass i =>
    if forcedBy a i s then mass + d.first.p i else mass) 0

/-- `expected_forced`. -/
def expectedForced (d : Distributions F) (a : PpoJointAction F) : F :=
  FloatOps.sum ((List.finRange ppoMotorSlots).map fun s => forcedMass d a s * (d.slots s).entropy)

/-- The entropy of the slot that a candidate forces. -/
def forcedEntropy (d : Distributions F) (a : PpoJointAction F) (i : ℕ) : F :=
  ((List.finRange ppoMotorSlots).find? fun s => forcedBy a i s).elim 0 fun s => (d.slots s).entropy

/-- `lp` and `ent` of a logit: the gradients of the log probability and of the entropy, times the
temperature. -/
def candidateGradients (d : Distributions F) (a : PpoJointAction F) (i : ℕ) : F × F :=
  let p := d.first.p i
  let lp := (if i = a.representative.toNat then 1 else 0) - p
  let ent := if FloatOps.lt 0 p then
      -p * (d.first.lp i + d.first.entropy + forcedEntropy d a i - expectedForced d a)
    else 0
  (List.finRange ppoMotorSlots).foldl (fun sums s =>
    if a.motorMasks s ≠ 0 then
      let p := (d.slots s).p i
      let lp := if forcedBy a a.representative.toNat s = false then
          sums.1 + ((if a.motorCandidates s = some i.toUInt16 then 1 else 0) - p)
        else sums.1
      let ent := if FloatOps.lt 0 p then
          sums.2 - (1 - forcedMass d a s) * p * ((d.slots s).lp i + (d.slots s).entropy)
        else sums.2
      (lp, ent)
    else sums) (lp, ent)

/-- `cpu_ppo_objective`. -/
def cpuPpoObjective (logits : List F) (action : PpoJointAction F) (advantage : F)
    (config : PpoConfig F) : Contract (CpuPpoObjective F) := do
  config.validate
  action.validate config.temperature
  CpuFoundationTrainer.finite logits
  reject (logits.length ≠ action.candidateCount.toNat ∨ FloatOps.isFinite advantage = false)
    .invalidDecisionEvidence
  let d ← distributions logits action.representativeMask action.motorMasks config.temperature
  let logp ← jointLogProbability d action
  let slots := List.finRange ppoMotorSlots
  let mass (s : Fin ppoMotorSlots) : F := forcedMass d action s
  let entropy := d.first.entropy
    + FloatOps.sum (slots.map fun s => (1 - mass s) * (d.slots s).entropy)
  let logRatio := logp - action.oldJointLogProbability
  let ratio := FloatOps.exp logRatio
  let clippedRatio := FloatOps.clamp ratio (1 - config.clipRatio) (1 + config.clipRatio)
  let policyLoss := -minOf (ratio * advantage) (clippedRatio * advantage)
  let clipped := (FloatOps.le 0 advantage && FloatOps.lt (1 + config.clipRatio) ratio)
    || (FloatOps.lt advantage 0 && FloatOps.lt ratio (1 - config.clipRatio))
  let logpGradient := if clipped then 0 else -advantage * ratio
  let gradient (i : ℕ) : F :=
    let (lp, ent) := candidateGradients d action i
    (logpGradient * lp - config.entropyCoefficient * ent) / config.temperature
  let gradients := (List.range logits.length).map gradient
  let kl := FloatOps.max (ratio - 1 - logRatio) 0
  CpuFoundationTrainer.finite [logp, entropy, policyLoss, ratio, kl]
  CpuFoundationTrainer.finite gradients
  pure ⟨logp, entropy, policyLoss, kl, ratio, clipped, gradients⟩

/-! ### Imitation -/

/-- `ImitationTarget`. -/
structure ImitationTarget where
  representative : Option UInt32
  motors : Fin ppoMotorSlots → Option UInt32

/-- `ImitationExample`. -/
structure ImitationExample where
  candidateCount : UInt16
  representativeMask : UInt32
  motorMasks : Fin ppoMotorSlots → UInt32
  forcedSlots : List (Option UInt8)
  target : ImitationTarget

namespace ImitationExample

variable (e : ImitationExample)

/-- A candidate forces a slot. -/
def forces (candidate : ℕ) (s : Fin ppoMotorSlots) : Bool :=
  (e.forcedSlots[candidate]?).join == some (UInt8.ofNat s.val)

/-- The candidates of the representative mask that force a slot. -/
def possible (s : Fin ppoMotorSlots) : UInt32 :=
  let mask : UInt32 := ((List.range e.candidateCount.toNat).filter (e.forces · s)).foldl
    (fun mask candidate => mask ||| (1 : UInt32) <<< candidate.toUInt32) 0
  mask &&& e.representativeMask

/-- The representatives that the target leaves. -/
def labelledMask : UInt32 := e.target.representative.getD e.representativeMask

/-- A representative permits all labels of slots: by itself where it forces the slot, else by some
candidate of the mask. -/
def permits (candidate : ℕ) : Bool :=
  (List.finRange ppoMotorSlots).all fun s => (e.target.motors s).all fun mask =>
    if e.forces candidate s then hasBit mask candidate else mask &&& e.motorMasks s != 0

/-- `ImitationExample::validate`. -/
def validate : Contract Unit := do
  let count := e.candidateCount.toNat
  reject (count = 0 ∨ ppoMaxCandidates < count ∨ e.forcedSlots.length ≠ count)
    .invalidDecisionEvidence
  reject (e.representativeMask = 0 ∨ 2 ^ count ≤ e.representativeMask.toNat
    ∨ (∃ slot ∈ e.forcedSlots.filterMap id, ppoMotorSlots ≤ slot.toNat)
    ∨ (∃ mask ∈ e.target.representative, mask = 0 ∨ mask &&& ~~~e.representativeMask ≠ 0)
    ∨ e.target.representative = none ∧ ∀ s, e.target.motors s = none) .invalidDecisionEvidence
  (List.finRange ppoMotorSlots).forM fun s =>
    reject (e.motorMasks s &&& ~~~e.possible s ≠ 0
      ∨ ∃ mask ∈ e.target.motors s, mask = 0 ∨ mask &&& ~~~e.possible s ≠ 0)
      .invalidDecisionEvidence
  reject ((List.range count).any (fun candidate =>
    hasBit e.labelledMask candidate && e.permits candidate) = false) .invalidDecisionEvidence

/-- The labelled candidates of a slot that its mask has. -/
def labelMask (s : Fin ppoMotorSlots) : UInt32 :=
  (e.target.motors s).elim 0 (· &&& e.motorMasks s)

/-- The distribution over the labelled candidates of a slot, and the log of their weight there. -/
def accept (logits : List F) (d : Distributions F) (temperature : F) (s : Fin ppoMotorSlots) :
    Contract (Distribution F × F) := do
  let a ← categorical logits (e.labelMask s) temperature
  if e.labelMask s = 0 then pure (a, 0)
  else
    match (List.range logits.length).find? (hasBit (e.labelMask s)) with
    | none => .error .invalidDecisionEvidence
    | some pivot => pure (a, (d.slots s).lp pivot - a.lp pivot)

/-- A member of `terms`, none for the negative infinity. -/
def term (d : Distributions F) (mass : Fin ppoMotorSlots → F) (r : ℕ) : Option F :=
  if hasBit e.labelledMask r && e.permits r then
    some ((List.finRange ppoMotorSlots).foldl (fun value s =>
      if (e.target.motors s).isSome && !e.forces r s then value + mass s else value)
      (d.first.lp r))
  else none

end ImitationExample

/-- `f32::max`, where none is the negative infinity. -/
def maxOption (a b : Option F) : Option F :=
  match a, b with
  | some a, some b => some (FloatOps.max a b)
  | none, b => b
  | a, none => a

/-- The largest of the terms. -/
def maxTerm (terms : List (Option F)) : Option F := terms.foldl maxOption none

structure CpuImitationObjective (F : Type) where
  loss : F
  logitGradients : List F

/-- `cpu_imitation_objective`. -/
def cpuImitationObjective (logits : List F) (e : ImitationExample) (temperature coefficient : F) :
    Contract (CpuImitationObjective F) := do
  e.validate
  CpuFoundationTrainer.finite logits
  reject (logits.length ≠ e.candidateCount.toNat ∨ FloatOps.isFinite temperature = false
    ∨ FloatOps.le temperature 0 = true ∨ FloatOps.isFinite coefficient = false
    ∨ FloatOps.lt coefficient 0 = true) .invalidDecisionEvidence
  let d ← distributions logits e.representativeMask e.motorMasks temperature
  let accepted ← (List.finRange ppoMotorSlots).mapM fun s => e.accept logits d temperature s
  let accepted (s : Fin ppoMotorSlots) : Distribution F × F :=
    (accepted[s.val]?).getD (Distribution.default, 0)
  let terms := (List.range logits.length).map (e.term d fun s => (accepted s).2)
  match maxTerm terms with
  | none => .error .invalidDecisionEvidence
  | some top => do
    let weight (t : Option F) : F := t.elim 0 fun t => FloatOps.exp (t - top)
    let z := FloatOps.sum (terms.map weight)
    reject (FloatOps.isFinite z = false ∨ FloatOps.le z 0 = true) .invalidDecisionEvidence
    let logp := top + FloatLog.ln z
    let posterior (r : ℕ) : F := (terms[r]?).elim 0 fun t => weight t / z
    let forced (s : Fin ppoMotorSlots) : F := (List.range logits.length).foldl (fun mass r =>
      if e.forces r s then mass + posterior r else mass) 0
    let gradient (i : ℕ) : F :=
      (List.finRange ppoMotorSlots).foldl (fun gradient s =>
        if (e.target.motors s).isSome then
          gradient + (1 - forced s) * ((d.slots s).p i - (accepted s).1.p i)
        else gradient) (d.first.p i - posterior i)
    let gradients := (List.range logits.length).map fun i => coefficient * gradient i / temperature
    CpuFoundationTrainer.finite gradients
    let loss := -coefficient * logp
    CpuFoundationTrainer.finite [logp, loss]
    pure ⟨loss, gradients⟩

end Training

end ALife
