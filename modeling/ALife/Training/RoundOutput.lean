/-
# The receipt of a cooperative round in its directory

`crates/alife_training/src/cpu/round_output.rs`, with the file helpers it uses
from `collector_output.rs`, on a platform that publishes by linking and
unlinking.  The directory holds regular files only, under names that are texts;
`depth` is the number of its ancestors.  A call that trains leaves a mark with
its plan.
-/

import ALife.Machine.Directory
import ALife.Training.RoundContracts

namespace ALife

open Machine Directory

abbrev FileName := List Char

def cpuCooperativeRoundResultFile : FileName := "cooperative-round.json".toList
def maxRoundBytes : ℕ := 256 * 1024 * 1024
def maxRoundFiles : ℕ := 256

/-- The output directory, with the plans that were trained. -/
abbrev RoundDirectory := Directory FileName CpuCooperativeRoundPlanV1

abbrev RoundM := EStateM RoundError (Faulted RoundDirectory)

structure CpuCollectorArtifact where
  encodedBytes : ℕ
  sha256 : Sha256
  deriving DecidableEq, Repr

abbrev Inventory := OrderedMap FileName CpuCollectorArtifact

def hexChar (n : ℕ) : Char := ("0123456789abcdef".toList)[n]?.getD '0'

/-- `stage_prefix`. -/
def stagePrefix (planDigest : Sha256) : FileName :=
  "round-".toList
    ++ planDigest.toList.flatMap (fun b => [hexChar (b.toNat / 16), hexChar (b.toNat % 16)])
    ++ ['-']

/-- `valid_stage_suffix`. -/
def validStageSuffix (suffix : List Char) : Bool :=
  !suffix.isEmpty && suffix.all fun c => c.isAlphanum || c == '-'

def pendingSuffix : List Char := ".pending".toList

/-- `round_stage_name`. -/
def roundStageName (plan : CpuCooperativeRoundPlanV1) (suffix : List Char) :
    Except RoundError FileName :=
  if validStageSuffix suffix then .ok (stagePrefix plan.payloadSha256 ++ suffix ++ pendingSuffix)
  else .error (.invalid "invalid cooperative round stage suffix")

/-- The test of `inventory` for a stage of the plan. -/
def isStage (planDigest : Sha256) (name : FileName) : Bool :=
  let rest := name.drop (stagePrefix planDigest).length
  (stagePrefix planDigest).isPrefixOf name && pendingSuffix.isSuffixOf rest
    && validStageSuffix (rest.take (rest.length - pendingSuffix.length))

variable {Handoff Trainer Cohort : Type}

namespace RoundLearner

variable (L : RoundLearner Handoff Trainer Cohort)

/-- `fingerprint`: the length is taken before, while and after the file is read. -/
def fingerprint (name : FileName) (sync : Bool) : RoundM CpuCollectorArtifact := do
  let before ← fileLen name
  let bytes ← readFile name
  let after ← fileLen name
  ofResult (failIf (bytes.length ≠ before ∨ bytes.length ≠ after)
    (.invalid "collector artifact changed while reading"))
  if sync then Faulted.access
  pure ⟨bytes.length, L.fileDigest bytes⟩

/-- One entry of the loop of `inventory`. -/
def inventoryEntry (planDigest : Sha256) (files : Inventory) (name : FileName) :
    RoundM Inventory := do
  Faulted.access
  ofResult (failIf (name ≠ cpuCooperativeRoundResultFile ∧ isStage planDigest name = false)
    (.invalid "foreign or nonregular file in cooperative round output"))
  Faulted.access
  ofResult (failIf (maxRoundFiles ≤ files.size)
    (.invalid "foreign or nonregular file in cooperative round output"))
  let len ← fileLen name
  ofResult (failIf (maxRoundBytes < len)
    (.invalid "cooperative round receipt exceeds its byte limit"))
  let artifact ← L.fingerprint name false
  ofResult (failIf (maxRoundBytes < artifact.encodedBytes)
    (.invalid "cooperative round receipt exceeds its byte limit"))
  pure (files.insert name artifact)

/-- `inventory`. -/
def inventory (planDigest : Sha256) : RoundM Inventory := do
  let names ← readDir
  names.foldlM (L.inventoryEntry planDigest) ∅

/-- `read_json`. -/
def readJson (name : FileName) : RoundM (CpuCooperativeRoundResultV1 Handoff) := do
  let len ← fileLen name
  ofResult (failIf (maxRoundBytes < len)
    (.invalid "invalid collector JSON file or byte length"))
  let bytes ← readFile name
  ofResult (match L.parse (bytes.take (maxRoundBytes + 1)) with
    | .ok r => .ok r
    | .error e => .error (.json e))

/-- `read_stage`: a text that ends too early is no result, and no error. -/
def readStage (name : FileName) : RoundM (Option (CpuCooperativeRoundResultV1 Handoff)) := do
  let len ← fileLen name
  ofResult (failIf (maxRoundBytes < len)
    (.invalid "invalid collector JSON file or byte length"))
  let bytes ← readFile name
  ofResult (match L.parse (bytes.take (maxRoundBytes + 1)) with
    | .ok r => do
      r.validate L
      pure (some r)
    | .error .eof => .ok none
    | .error .other => .error (.json .other))

end RoundLearner

structure Candidate (Handoff : Type) where
  name : FileName
  result : CpuCooperativeRoundResultV1 Handoff

namespace RoundLearner

variable (L : RoundLearner Handoff Trainer Cohort)

/-- The receipt under a name: the canonical one is complete. -/
def readReceipt (name : FileName) : RoundM (Option (CpuCooperativeRoundResultV1 Handoff)) :=
  if name = cpuCooperativeRoundResultFile then do
    let result ← L.readJson name
    ofResult (result.validate L)
    pure (some result)
  else L.readStage name

/-- One name of the loop of `inspect`. -/
def inspectName (plan : CpuCooperativeRoundPlanV1) (candidate : Option (Candidate Handoff))
    (name : FileName) : RoundM (Option (Candidate Handoff)) := do
  let result ← L.readReceipt name
  ofResult (match result with
    | none => .ok candidate
    | some result =>
      if !result.plan.eq plan then
        .error (.invalid "cooperative round receipt binds a different plan")
      else
        match candidate with
        | some previous =>
          if previous.result.payloadSha256 ≠ result.payloadSha256 then
            .error (.invalid "ambiguous cooperative round recovery results")
          else .ok (some previous)
        | none => .ok (some ⟨name, result⟩))

/-- `inspect`. -/
def inspect (plan : CpuCooperativeRoundPlanV1) :
    RoundM (Inventory × Option (Candidate Handoff)) := do
  let before ← L.inventory plan.payloadSha256
  let candidate ← (before.entries.map (·.1)).foldlM (L.inspectName plan) none
  let again ← L.inventory plan.payloadSha256
  ofResult (failIf (again ≠ before)
    (.invalid "cooperative round output changed during recovery"))
  ofResult (failIf (candidate.isNone ∧ maxRoundFiles ≤ before.size)
    (.invalid "cooperative round output has no free result stage slot"))
  pure (before, candidate)

/-- `sync_directory_ancestry`. -/
def syncDirectoryAncestry (depth : ℕ) : RoundM Unit :=
  (List.range depth).forM fun _ => Faulted.access

/-- `publish_new`. -/
def publishNew (pending sealedName : FileName) : RoundM Unit := do
  hardLink pending sealedName
  removeFile pending
  Faulted.access

/-- `finish`. -/
def finish (depth : ℕ) (files : Inventory) (candidate : Candidate Handoff) :
    RoundM (CpuCooperativeRoundResultV1 Handoff) := do
  let planDigest := candidate.result.plan.payloadSha256
  let synced ← L.fingerprint candidate.name true
  ofResult (failIf (files.get? candidate.name ≠ some synced)
    (.invalid "cooperative round candidate changed before publication"))
  syncDirectoryAncestry depth
  let again ← L.inventory planDigest
  ofResult (failIf (again ≠ files)
    (.invalid "cooperative round inventory changed before publication"))
  if candidate.name ≠ cpuCooperativeRoundResultFile then
    publishNew candidate.name cpuCooperativeRoundResultFile
    let after ← L.inventory planDigest
    ofResult (failIf
      (after ≠ (files.erase candidate.name).insert cpuCooperativeRoundResultFile synced)
      (.invalid "cooperative round inventory changed after publication"))
  pure candidate.result

/-- `owned_root`: the directory is a real one, and its path is resolved. -/
def ownedRoot : RoundM Unit := do
  Faulted.access
  Faulted.access

/-- `recover_round_result`. -/
def recoverRoundResult (depth : ℕ) (plan : CpuCooperativeRoundPlanV1) :
    RoundM (Option (CpuCooperativeRoundResultV1 Handoff)) := do
  ofResult (plan.validate L)
  ownedRoot
  let (files, candidate) ← L.inspect plan
  match candidate with
  | none => pure none
  | some candidate => do
    let result ← L.finish depth files candidate
    pure (some result)

/-- `write_pending`: creates the file, writes the text, checks its length and syncs it. -/
def writePending (name : FileName) (result : CpuCooperativeRoundResultV1 Handoff) :
    RoundM Unit := do
  createNew name
  writeFile name (L.encode result)
  let len ← fileLen name
  ofResult (failIf (maxRoundBytes < len) (.invalid "collector JSON exceeds its byte limit"))
  Faulted.access

/-- The end of `publish_round_result`, where nothing was found: the result is written
to a stage of its own, read back and finished. -/
def stageResult (depth : ℕ) (suffix : List Char) (files : Inventory)
    (result : CpuCooperativeRoundResultV1 Handoff) :
    RoundM (CpuCooperativeRoundResultV1 Handoff) := do
  let name ← ofResult (roundStageName result.plan suffix)
  L.writePending name result
  let staged ← L.readStage name
  let staged ← ofResult (getOr staged (.invalid "cooperative round result write was incomplete"))
  ofResult (failIf (staged.plan.eq result.plan = false
      ∨ staged.payloadSha256 ≠ result.payloadSha256)
    (.invalid "cooperative round staged result changed"))
  let artifact ← L.fingerprint name false
  L.finish depth (files.insert name artifact) ⟨name, staged⟩

/-- `publish_round_result`, with the suffix its stage gets. -/
def publishRoundResult (depth : ℕ) (suffix : List Char)
    (result : CpuCooperativeRoundResultV1 Handoff) :
    RoundM (CpuCooperativeRoundResultV1 Handoff) := do
  ofResult (result.validate L)
  ownedRoot
  let (files, candidate) ← L.inspect result.plan
  match candidate with
  | some candidate => do
    ofResult (failIf (candidate.result.payloadSha256 ≠ result.payloadSha256)
      (.invalid "cooperative round output already contains a different result"))
    L.finish depth files candidate
  | none => L.stageResult depth suffix files result

end RoundLearner

end ALife
