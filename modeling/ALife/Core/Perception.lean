/-
# Sensor profiles and action families

Two enumerations of `crates/alife_core/src/perception.rs` by their raw numbers.
-/

import ALife.Core.Error

namespace ALife

inductive SensorProfile where
  | privilegedAffordanceV1
  | groundedObjectSlotsV1
  | groundedTerrainVisionV1
  deriving DecidableEq, Repr

namespace SensorProfile

/-- `SensorProfile::raw`. -/
def raw : SensorProfile → UInt16
  | .privilegedAffordanceV1 => 1
  | .groundedObjectSlotsV1 => 2
  | .groundedTerrainVisionV1 => 3

/-- `SensorProfile::try_from_raw`. -/
def tryFromRaw (raw : UInt16) : Contract SensorProfile :=
  if raw = 1 then .ok .privilegedAffordanceV1
  else if raw = 2 then .ok .groundedObjectSlotsV1
  else if raw = 3 then .ok .groundedTerrainVisionV1
  else .error .sensorProfileMismatch

theorem tryFromRaw_eq_ok_iff {raw : UInt16} {profile : SensorProfile} :
    tryFromRaw raw = .ok profile ↔ raw = profile.raw := by
  unfold tryFromRaw
  split_ifs with h1 h2 h3
  · cases profile <;> simp [SensorProfile.raw, h1]
  · cases profile <;> simp [SensorProfile.raw, h2]
  · cases profile <;> simp [SensorProfile.raw, h3]
  · cases profile <;> simp [SensorProfile.raw, h1, h2, h3]

theorem raw_injective : Function.Injective raw := by
  intro a b h
  have ha := tryFromRaw_eq_ok_iff.2 (rfl : a.raw = a.raw)
  rw [h, tryFromRaw_eq_ok_iff.2 rfl] at ha
  exact (Except.ok.inj ha).symm

end SensorProfile

/-- `MAX_ACTION_CANDIDATES`. -/
def maxActionCandidates : ℕ := 32

/-- `CandidateFeatureDigest`: two words. -/
structure CandidateFeatureDigest where
  w0 : UInt64
  w1 : UInt64
  deriving DecidableEq, Repr

/-- `CandidateActionFamily`. -/
inductive CandidateActionFamily where
  | idle | rest | inspect | approach | avoid | contact | ingest | other
  deriving DecidableEq, Repr

/-- `raw` of a family. -/
def CandidateActionFamily.raw : CandidateActionFamily → UInt8
  | .idle => 0
  | .rest => 1
  | .inspect => 2
  | .approach => 3
  | .avoid => 4
  | .contact => 5
  | .ingest => 6
  | .other => 7

/-- `try_from_raw` of a family. -/
def CandidateActionFamily.tryFromRaw (raw : UInt8) : Contract CandidateActionFamily :=
  match raw.toNat with
  | 0 => .ok .idle
  | 1 => .ok .rest
  | 2 => .ok .inspect
  | 3 => .ok .approach
  | 4 => .ok .avoid
  | 5 => .ok .contact
  | 6 => .ok .ingest
  | 7 => .ok .other
  | _ => .error .invalidActionCandidate

theorem CandidateActionFamily.tryFromRaw_raw (f : CandidateActionFamily) :
    tryFromRaw f.raw = .ok f := by
  cases f <;> rfl

theorem CandidateActionFamily.raw_of_tryFromRaw {raw : UInt8} {f : CandidateActionFamily}
    (h : tryFromRaw raw = .ok f) : f.raw = raw := by
  unfold tryFromRaw at h
  split at h <;> cases h <;> rename_i hraw <;> exact UInt8.toNat_inj.1 hraw.symm

theorem CandidateActionFamily.raw_injective : Function.Injective CandidateActionFamily.raw := by
  intro a b
  cases a <;> cases b <;> decide

end ALife
