/-
# Procedural terrain

The deterministic terrain of `crates/alife_world/src/procedural_chunks.rs`: what
a tile is made of depends on the configuration and its coordinates alone.
Coordinates are `i32`, modelled as integers with every operation checked, so an
overflow is an outcome of its own (`ProceduralFault.overflow`).  The biases of
a material are floats of an arbitrary arithmetic `F`: nothing but their range
check reads them.
-/

import ALife.Core.Units
import ALife.Machine.CheckedInt
import ALife.Machine.FloatOps
import ALife.Machine.Mixing

namespace ALife
namespace Procedural

open Machine

/-- What stops a call: a contract error, or a panic of `i32` or `i64` arithmetic. -/
inductive ProceduralFault where
  | contract (e : ScaffoldContractError)
  | overflow
  deriving DecidableEq, Repr

/-- A call that may be stopped. -/
abbrev Call (α : Type) := Except ProceduralFault α

/-- A contract check as part of a call. -/
def lift {α : Type} (x : Contract α) : Call α :=
  match x with
  | .ok a => .ok a
  | .error e => .error (.contract e)

/-- An `i32` operation. -/
def i32 (v : ℤ) : Call ℤ := checked .overflow 32 v

/-- An `i64` operation. -/
def i64 (v : ℤ) : Call ℤ := checked .overflow 64 v

structure ProceduralChunkCoord where
  x : ℤ
  z : ℤ
  deriving DecidableEq, Repr

structure ProceduralTileCoord where
  x : ℤ
  z : ℤ
  deriving DecidableEq, Repr

inductive ProceduralBiomeKind where
  | safeGrass | soilPath | resourceGrove | hazardPressure | stoneRough | waterLowland | sandBank
  deriving DecidableEq, Repr

inductive ProceduralTerrainMaterial where
  | safeGrass | neutralSoil | resourceGrove | hazardPressure | stoneRough | water | sand
  deriving DecidableEq, Repr

/-- `ProceduralWorldConfig`. -/
structure ProceduralWorldConfig where
  schemaVersion : UInt16
  seed : UInt64
  chunkTileSize : ℤ
  activationRadiusChunks : ℤ
  maxActiveChunks : ℕ
  maxActiveContentCandidates : ℕ
  virtualHalfExtentChunks : ℤ
  deriving DecidableEq, Repr

/-- `PROCEDURAL_WORLD_CHUNKS_SCHEMA_VERSION`. -/
def proceduralWorldChunksSchemaVersion : UInt16 := 1

/-- `ProceduralWorldConfig::validate`. -/
def ProceduralWorldConfig.validate (c : ProceduralWorldConfig) : Contract Unit :=
  reject (c.schemaVersion ≠ proceduralWorldChunksSchemaVersion
    ∨ ¬(4 ≤ c.chunkTileSize ∧ c.chunkTileSize ≤ 64)
    ∨ ¬(0 ≤ c.activationRadiusChunks ∧ c.activationRadiusChunks ≤ 10)
    ∨ c.maxActiveChunks = 0 ∨ 4096 < c.maxActiveChunks
    ∨ c.maxActiveContentCandidates = 0 ∨ 8192 < c.maxActiveContentCandidates
    ∨ c.virtualHalfExtentChunks < c.activationRadiusChunks
    ∨ 8192 < c.virtualHalfExtentChunks) .scalarOutOfRange

/-- What a valid configuration promises the arithmetic. -/
structure ProceduralWorldConfig.Bounded (c : ProceduralWorldConfig) : Prop where
  tile_ge : 4 ≤ c.chunkTileSize
  tile_le : c.chunkTileSize ≤ 64
  radius_ge : 0 ≤ c.activationRadiusChunks
  radius_le : c.activationRadiusChunks ≤ 10
  extent_ge : c.activationRadiusChunks ≤ c.virtualHalfExtentChunks
  extent_le : c.virtualHalfExtentChunks ≤ 8192

theorem ProceduralWorldConfig.bounded {c : ProceduralWorldConfig} (h : c.validate = .ok ()) :
    c.Bounded := by
  rw [validate, reject_eq_ok_iff] at h
  push Not at h
  obtain ⟨-, ⟨h₁, h₂⟩, ⟨h₃, h₄⟩, -, -, -, -, h₅, h₆⟩ := h
  exact ⟨h₁, h₂, h₃, h₄, h₅, h₆⟩

/-- `seeded_hash`. -/
def seededHash (seed : UInt64) (x z : ℤ) : UInt32 :=
  let value := seed ^^^ (UInt64.ofInt x * 0x9E3779B97F4A7C15)
    ^^^ (UInt64.ofInt z * 0xBF58476D1CE4E5B9)
  let value := xorShiftRight 30 value * 0xBF58476D1CE4E5B9
  let value := xorShiftRight 27 value * 0x94D049BB133111EB
  (xorShiftRight 31 value).toUInt32

/-! ### Mirrored tiles -/

/-- Of odd words, the signs do not show in the exclusive or. -/
theorem neg_xor_neg {w : ℕ} {p q : BitVec w} (hp : p.getLsbD 0 = true) (hq : q.getLsbD 0 = true) :
    -p ^^^ -q = p ^^^ q := by
  have hbit : ∀ {v : BitVec w}, v.getLsbD 0 = true → ∀ i < w,
      (-v).getLsbD i = (v.getLsbD i ^^ decide (0 < i)) := by
    intro v hv i hi
    rw [BitVec.getLsbD_neg]
    by_cases hpos : 0 < i
    · have : ∃ j < i, v.getLsbD j = true := ⟨0, hpos, hv⟩
      simp [hi, hpos, this]
    · simp [Nat.eq_zero_of_not_pos hpos]
  refine BitVec.eq_of_getLsbD_eq fun i hi => ?_
  rw [BitVec.getLsbD_xor, BitVec.getLsbD_xor, hbit hp i hi, hbit hq i hi]
  cases p.getLsbD i <;> cases q.getLsbD i <;> cases decide (0 < i) <;> rfl

theorem getLsbD_ofInt_mul {v : ℤ} (hv : v % 2 = 1) {k : UInt64} (hk : k.toNat % 2 = 1) :
    (UInt64.ofInt v * k).toBitVec.getLsbD 0 = true := by
  have hofInt : (UInt64.ofInt v).toNat = (v % 2 ^ 64).toNat := by
    rw [UInt64.ofInt, UInt64.toNat_ofNat_of_lt']
    change _ < 2 ^ 64
    omega
  have hodd : (UInt64.ofInt v).toNat % 2 = 1 := by omega
  rw [BitVec.getLsbD, Nat.testBit_zero, decide_eq_true_eq, UInt64.toNat_toBitVec, UInt64.toNat_mul,
    Nat.mod_mod_of_dvd _ (by decide), Nat.mul_mod, hodd, hk]

/-- **The hash does not tell an odd tile from its mirror image.** -/
theorem seededHash_mirror (seed : UInt64) {x z : ℤ} (hx : x % 2 = 1) (hz : z % 2 = 1) :
    seededHash seed (-x) (-z) = seededHash seed x z := by
  have hneg : ∀ p q : UInt64, p.toBitVec.getLsbD 0 = true → q.toBitVec.getLsbD 0 = true →
      seed ^^^ -p ^^^ -q = seed ^^^ p ^^^ q := by
    intro p q hp hq
    rw [UInt64.xor_assoc, UInt64.xor_assoc]
    refine congrArg _ (UInt64.toBitVec_inj.1 ?_)
    exact neg_xor_neg hp hq
  unfold seededHash
  rw [UInt64.ofInt_neg, UInt64.ofInt_neg, UInt64.neg_mul, UInt64.neg_mul,
    hneg _ _ (getLsbD_ofInt_mul hx rfl) (getLsbD_ofInt_mul hz rfl)]

/-! ### Tiles and chunks -/

/-- `floor_div`, whose quotient and remainder are truncated. -/
def floorDiv (value divisor : ℤ) : Call ℤ := do
  let quotient ← i32 (value.tdiv divisor)
  let remainder := value.tmod divisor
  if remainder ≠ 0 ∧ (0 < remainder) ≠ (0 < divisor) then i32 (quotient - 1) else pure quotient

/-- `chunk_coord_for_tile`. -/
def chunkCoordForTile (c : ProceduralWorldConfig) (tile : ProceduralTileCoord) :
    Call ProceduralChunkCoord := do
  lift c.validate
  let x ← floorDiv tile.x c.chunkTileSize
  let z ← floorDiv tile.z c.chunkTileSize
  pure ⟨x, z⟩

/-- `chunk_in_virtual_extent`. -/
def chunkInVirtualExtent (c : ProceduralWorldConfig) (coord : ProceduralChunkCoord) : Bool :=
  decide (-c.virtualHalfExtentChunks ≤ coord.x ∧ coord.x ≤ c.virtualHalfExtentChunks)
    && decide (-c.virtualHalfExtentChunks ≤ coord.z ∧ coord.z ≤ c.virtualHalfExtentChunks)

/-- `(lo..=hi).contains(&v)`. -/
def within (lo hi v : ℤ) : Bool := decide (lo ≤ v ∧ v ≤ hi)

/-- `dx * dx + dz * dz` of `i64`. -/
def squaredDistance (dx dz : ℤ) : Call ℤ := do
  let xx ← i64 (dx * dx)
  let zz ← i64 (dz * dz)
  i64 (xx + zz)

/-- A disc of `i64` distances around a centre. -/
def inDisc (tile : ProceduralTileCoord) (centerX centerZ radius : ℤ) : Call Bool := do
  let dx ← i64 (tile.x - centerX)
  let dz ← i64 (tile.z - centerZ)
  let distance ← squaredDistance dx dz
  pure (decide (distance ≤ radius * radius))

/-- The material of a blob, if its hash has one. -/
def blobMaterial (hash : UInt32) : Option ProceduralTerrainMaterial :=
  let share := hash % 100
  if share ≤ 7 then some .hazardPressure
  else if share ≤ 19 then some .resourceGrove
  else if share ≤ 30 then some .stoneRough
  else if share ≤ 37 then some .neutralSoil
  else if share ≤ 41 then some .sand
  else none

/-- The squared distance of a tile from the centre of a blob, at its offset in its cell. -/
def blobDistance (tile : ProceduralTileCoord) (cell : ℤ × ℤ) (offsetX offsetZ : ℕ) : Call ℤ := do
  let scaledX ← i32 (cell.1 * 18)
  let centerX ← i32 (scaledX + (3 + (offsetX : ℤ)))
  let scaledZ ← i32 (cell.2 * 18)
  let centerZ ← i32 (scaledZ + (3 + (offsetZ : ℤ)))
  let dx ← i32 (tile.x - centerX)
  let dz ← i32 (tile.z - centerZ)
  let xx ← i32 (dx * dx)
  let zz ← i32 (dz * dz)
  i32 (xx + zz)

/-- The nearest blob over a tile, once the blob of a cell with this hash is looked at. -/
def blobOfHash (tile : ProceduralTileCoord) (best : Option (ℤ × ProceduralTerrainMaterial))
    (cell : ℤ × ℤ) (hash : UInt32) : Call (Option (ℤ × ProceduralTerrainMaterial)) :=
  match blobMaterial hash with
  | none => pure best
  | some material => do
    let distance ←
      blobDistance tile cell ((hash >>> 8) % 12).toNat ((hash >>> 16) % 12).toNat
    let radius : ℤ := 4 + ((hash >>> 24) % 5).toNat
    let kept : Bool := match best with
      | some (bestDistance, _) => decide (bestDistance ≤ distance)
      | none => false
    pure (if distance ≤ radius * radius ∧ kept = false then some (distance, material) else best)

/-- One cell of the loop of `procedural_blob_material`. -/
def blobStep (c : ProceduralWorldConfig) (tile : ProceduralTileCoord)
    (best : Option (ℤ × ProceduralTerrainMaterial)) (cell : ℤ × ℤ) :
    Call (Option (ℤ × ProceduralTerrainMaterial)) :=
  blobOfHash tile best cell (seededHash (c.seed ^^^ 0x71E5AA555EEDCAFE) cell.1 cell.2)

/-- `procedural_blob_material`. -/
def proceduralBlobMaterial (c : ProceduralWorldConfig) (tile : ProceduralTileCoord) :
    Call (Option ProceduralTerrainMaterial) := do
  let cellX ← floorDiv tile.x 18
  let cellZ ← floorDiv tile.z 18
  let lowX ← i32 (cellX - 1)
  let _ ← i32 (cellX + 1)
  let lowZ ← i32 (cellZ - 1)
  let _ ← i32 (cellZ + 1)
  let cells := (List.range 3).flatMap fun (i : ℕ) => (List.range 3).map fun (j : ℕ) =>
    (lowX + i, lowZ + j)
  let best ← cells.foldlM (blobStep c tile) none
  pure (best.map Prod.snd)

/-- The biome of a chunk by its hash, away from the places around the origin. -/
def biomeOfHash (chunkHash : UInt32) : ProceduralBiomeKind :=
  let share := chunkHash % 100
  if share ≤ 5 then .waterLowland
  else if share ≤ 13 then .sandBank
  else if share ≤ 21 then .hazardPressure
  else if share ≤ 36 then .resourceGrove
  else if share ≤ 48 then .stoneRough
  else if share ≤ 63 then .soilPath
  else .safeGrass

/-- `ProceduralTerrainSample`. -/
structure ProceduralTerrainSample (F : Type) where
  tile : ProceduralTileCoord
  chunk : ProceduralChunkCoord
  biome : ProceduralBiomeKind
  material : ProceduralTerrainMaterial
  resourceBias : F
  hazardPressure : F
  roughness : F
  traversalCost : F
  deriving DecidableEq, Repr

section Floats

variable {F : Type} [FloatOps F]

/-- `NormalizedScalar::new(x)?`, called for its check. -/
def checkNormalized (x : F) : Contract Unit := do
  reject (FloatOps.isFinite x = false) .nonFiniteFloat
  reject ((FloatOps.le 0 x && FloatOps.le x 1) = false) .scalarOutOfRange

/-- `ProceduralTerrainSample::validate`. -/
def ProceduralTerrainSample.validate (s : ProceduralTerrainSample F) : Contract Unit :=
  [s.resourceBias, s.hazardPressure, s.roughness, s.traversalCost].forM checkNormalized

/-- The biases of a material: resource, hazard, roughness and traversal cost. -/
def ProceduralTerrainMaterial.biases : ProceduralTerrainMaterial → F × F × F × F
  | .safeGrass => (literal 24 100, literal 4 100, literal 20 100, literal 18 100)
  | .neutralSoil => (literal 30 100, literal 6 100, literal 28 100, literal 22 100)
  | .resourceGrove => (literal 82 100, literal 5 100, literal 34 100, literal 26 100)
  | .hazardPressure => (literal 8 100, literal 86 100, literal 60 100, literal 52 100)
  | .stoneRough => (literal 14 100, literal 16 100, literal 78 100, literal 64 100)
  | .water => (literal 12 100, literal 10 100, literal 24 100, literal 44 100)
  | .sand => (literal 22 100, literal 7 100, literal 38 100, literal 30 100)

/-- Whether a tile lies on one of the two path bands. -/
def pathBand (tile : ProceduralTileCoord) : Call Bool := do
  let quarter ← floorDiv tile.x 4
  let first ← i32 (tile.z - quarter)
  let first ← i32 |first|
  let sixth ← floorDiv tile.x 6
  let second ← i32 (tile.z + sixth)
  let second ← i32 |second|
  pure (decide (first ≤ 1) || decide (second ≤ 1))

/-- The distance of a tile from the water channel. -/
def waterChannelMetric (tile : ProceduralTileCoord) : Call ℤ := do
  let fifth ← floorDiv tile.x 5
  let sum ← i32 (tile.z + fifth)
  let metric ← i32 (sum + 18)
  i32 |metric|

/-- `sample_procedural_terrain_tile`. -/
def sampleProceduralTerrainTile (F : Type) [FloatOps F] (c : ProceduralWorldConfig)
    (tile : ProceduralTileCoord) : Call (ProceduralTerrainSample F) := do
  lift c.validate
  let chunk ← chunkCoordForTile c tile
  lift (reject (chunkInVirtualExtent c chunk = false) .invalidBounds)
  let chunkHash := seededHash c.seed chunk.x chunk.z
  let localHash := seededHash (c.seed ^^^ 0xA11FEC010DDBA5E5) tile.x tile.z
  let onPath ← pathBand tile
  let originNursery ← inDisc tile 0 0 22
  let hazardDisc ← inDisc tile 18 8 7
  let localHazardPressure := hazardDisc || (within 18 30 tile.x && within 3 16 tile.z)
  let groveDisc ← inDisc tile 8 (-7) 8
  let localResourceGrove := groveDisc || (within (-3) 7 tile.x && within (-13) (-5) tile.z)
  let stoneDisc ← inDisc tile (-7) 4 7
  let localStoneRough := stoneDisc || (within (-15) (-6) tile.x && within 0 10 tile.z)
  let channel ← waterChannelMetric tile
  let localWaterLowland :=
    decide (channel ≤ 2) || (within (-34) (-18) tile.x && within (-27) (-16) tile.z)
  let localSandBank :=
    decide (channel ≤ 4) || (within (-38) (-14) tile.x && within (-30) (-12) tile.z)
  let hazardBasin := within 18 34 tile.x && within 4 22 tile.z
  let resourceGlade := within 8 28 tile.x && within (-24) (-7) tile.z
  let stoneRidge := within (-28) (-10) tile.x && within 6 24 tile.z
  let biome : ProceduralBiomeKind :=
    if localWaterLowland then .waterLowland
    else if localSandBank then .sandBank
    else if localHazardPressure || hazardBasin then .hazardPressure
    else if localResourceGrove || resourceGlade then .resourceGrove
    else if localStoneRough || stoneRidge then .stoneRough
    else if originNursery then .safeGrass
    else biomeOfHash chunkHash
  let blob ← proceduralBlobMaterial c tile
  let material : ProceduralTerrainMaterial :=
    if localWaterLowland && decide (localHash % 100 < 82) then .water
    else if localSandBank && decide (localHash % 100 < 72) then .sand
    else if localHazardPressure then .hazardPressure
    else if localResourceGrove then .resourceGrove
    else if localStoneRough then .stoneRough
    else if hazardBasin then .hazardPressure
    else if resourceGlade then .resourceGrove
    else if stoneRidge then .stoneRough
    else if originNursery && onPath then .neutralSoil
    else if originNursery then .safeGrass
    else if onPath && decide (biome ≠ .hazardPressure) then .neutralSoil
    else match blob with
      | some material => material
      | none => if decide (biome = .soilPath) || onPath then .neutralSoil else .safeGrass
  let (resourceBias, hazardPressure, roughness, traversalCost) := material.biases (F := F)
  let sample : ProceduralTerrainSample F :=
    { tile, chunk, biome, material, resourceBias, hazardPressure, roughness, traversalCost }
  lift sample.validate
  pure sample

end Floats

/-! ## The arithmetic stays in range -/

theorem avoids_lift {α : Type} {x : Contract α} {Q : α → Prop} (h : ∀ a, x = .ok a → Q a) :
    Avoids ProceduralFault.overflow (lift x) Q := by
  cases x with
  | ok a => exact h a rfl
  | error e => exact nofun

theorem avoids_i32 {v : ℤ} (h : InSigned 32 v) : Avoids .overflow (i32 v) (· = v) :=
  avoids_checked h

theorem avoids_i64 {v : ℤ} (h : InSigned 64 v) : Avoids .overflow (i64 v) (· = v) :=
  avoids_checked h

theorem inSigned32_iff {v : ℤ} : InSigned 32 v ↔ -2147483648 ≤ v ∧ v < 2147483648 := Iff.rfl

theorem inSigned64_iff {v : ℤ} :
    InSigned 64 v ↔ -9223372036854775808 ≤ v ∧ v < 9223372036854775808 := Iff.rfl

/-- Of a positive divisor, `floor_div` is the quotient rounded down. -/
theorem avoids_floorDiv {value divisor : ℤ} (hv : InSigned 32 value) (hd : 0 < divisor) :
    Avoids .overflow (floorDiv value divisor) (· = value / divisor) := by
  rw [inSigned32_iff] at hv
  have hlow : -2147483648 ≤ value / divisor :=
    Int.le_ediv_of_mul_le hd (by nlinarith)
  have hup : value / divisor < 2147483648 :=
    Int.ediv_lt_of_lt_mul hd (by nlinarith)
  have htdiv := Int.tdiv_eq_ediv (a := value) (b := divisor)
  have htmod := Int.tmod_eq_emod (a := value) (b := divisor)
  have hmod_nonneg := Int.emod_nonneg value hd.ne'
  have hmod_lt := Int.emod_lt_of_pos value hd
  rw [Int.sign_eq_one_of_pos hd] at htdiv
  unfold floorDiv
  by_cases hexact : 0 ≤ value ∨ divisor ∣ value
  · rw [if_pos hexact, add_zero] at htdiv
    rw [if_pos hexact, Nat.cast_zero, sub_zero] at htmod
    rw [htdiv, htmod]
    refine (avoids_i32 (inSigned32_iff.2 ⟨hlow, hup⟩)).bind fun q hq => ?_
    have hkeep : ¬(value % divisor ≠ 0 ∧ (0 < value % divisor) ≠ (0 < divisor)) := by
      rintro ⟨hne, hsign⟩
      exact hsign (propext ⟨fun _ => hd, fun _ => lt_of_le_of_ne hmod_nonneg hne.symm⟩)
    rw [if_neg hkeep]
    exact avoids_ok hq
  · -- the remainder is negative and the quotient was rounded up
    rw [if_neg hexact] at htdiv
    rw [if_neg hexact, Int.natAbs_of_nonneg hd.le] at htmod
    have hneg : value < 0 := not_le.1 fun h => hexact (.inl h)
    have hquot : value / divisor < 0 := Int.ediv_neg_of_neg_of_pos hneg hd
    rw [htdiv, htmod]
    refine (avoids_i32 (inSigned32_iff.2 ⟨by omega, by omega⟩)).bind fun q hq => ?_
    have hround : value % divisor - divisor ≠ 0
        ∧ (0 < value % divisor - divisor) ≠ (0 < divisor) := by
      refine ⟨by omega, fun heq => ?_⟩
      have : 0 < value % divisor - divisor := heq.mpr hd
      omega
    rw [if_pos hround, hq, add_sub_cancel_right]
    exact avoids_i32 (inSigned32_iff.2 ⟨hlow, hup⟩)

/-- The coordinates a valid configuration lets a tile have. -/
def Near (v : ℤ) : Prop := -1048576 ≤ v ∧ v ≤ 1048576

theorem Near.inSigned {v : ℤ} (h : Near v) : InSigned 32 v :=
  inSigned32_iff.2 ⟨by have := h.1; omega, by have := h.2; omega⟩

theorem Near.ediv {v d : ℤ} (h : Near v) (hd : 0 < d) : Near (v / d) := by
  obtain ⟨h₁, h₂⟩ := h
  exact ⟨Int.le_ediv_of_mul_le hd (by nlinarith), Int.ediv_le_of_le_mul hd (by nlinarith)⟩

theorem avoids_chunkCoordForTile {c : ProceduralWorldConfig} {tile : ProceduralTileCoord}
    (hc : c.validate = .ok ()) (hx : InSigned 32 tile.x) (hz : InSigned 32 tile.z) :
    Avoids .overflow (chunkCoordForTile c tile)
      (· = ⟨tile.x / c.chunkTileSize, tile.z / c.chunkTileSize⟩) := by
  have hsize : 0 < c.chunkTileSize := lt_of_lt_of_le four_pos (c.bounded hc).tile_ge
  unfold chunkCoordForTile
  rw [hc]
  refine (avoids_floorDiv hx hsize).bind fun x hx => (avoids_floorDiv hz hsize).bind fun z hz => ?_
  rw [hx, hz]
  exact avoids_ok rfl

/-- An absolute value is in range but of the least integer. -/
theorem avoids_abs {v : ℤ} (h : -2147483648 < v ∧ v < 2147483648) :
    Avoids .overflow (i32 |v|) (· = |v|) :=
  avoids_i32 (inSigned32_iff.2
    ⟨(by omega : (-2147483648 : ℤ) ≤ 0).trans (abs_nonneg v), abs_lt.2 h⟩)

variable {tile : ProceduralTileCoord}

theorem avoids_squaredDistance {dx dz : ℤ} (hx : -4194304 ≤ dx ∧ dx ≤ 4194304)
    (hz : -4194304 ≤ dz ∧ dz ≤ 4194304) :
    Avoids .overflow (squaredDistance dx dz) (· = dx * dx + dz * dz) := by
  have hxx : 0 ≤ dx * dx ∧ dx * dx ≤ 17592186044416 := ⟨mul_self_nonneg dx, by nlinarith⟩
  have hzz : 0 ≤ dz * dz ∧ dz * dz ≤ 17592186044416 := ⟨mul_self_nonneg dz, by nlinarith⟩
  refine (avoids_i64 (inSigned64_iff.2 ⟨by omega, by omega⟩)).bind fun xx hxx' =>
    (avoids_i64 (inSigned64_iff.2 ⟨by omega, by omega⟩)).bind fun zz hzz' => ?_
  rw [hxx', hzz']
  exact avoids_i64 (inSigned64_iff.2 ⟨by omega, by omega⟩)

theorem avoids_inDisc (hx : Near tile.x) (hz : Near tile.z) {centerX centerZ radius : ℤ}
    (hcx : -100 ≤ centerX ∧ centerX ≤ 100) (hcz : -100 ≤ centerZ ∧ centerZ ≤ 100) :
    Avoids .overflow (inDisc tile centerX centerZ radius) fun _ => True := by
  obtain ⟨hx₁, hx₂⟩ := hx
  obtain ⟨hz₁, hz₂⟩ := hz
  refine (avoids_i64 (inSigned64_iff.2 ⟨by omega, by omega⟩)).bind fun dx hdx =>
    (avoids_i64 (inSigned64_iff.2 ⟨by omega, by omega⟩)).bind fun dz hdz => ?_
  refine (avoids_squaredDistance (by omega) (by omega)).bind fun _ _ => avoids_ok trivial

theorem avoids_pathBand (hx : Near tile.x) (hz : Near tile.z) :
    Avoids .overflow (pathBand tile) fun _ => True := by
  have hquarter := hx.ediv (d := 4) (by omega)
  have hsixth := hx.ediv (d := 6) (by omega)
  obtain ⟨hz₁, hz₂⟩ := hz
  obtain ⟨hq₁, hq₂⟩ := hquarter
  obtain ⟨hs₁, hs₂⟩ := hsixth
  refine (avoids_floorDiv hx.inSigned (by omega)).bind fun q hq => ?_
  refine (avoids_i32 (inSigned32_iff.2 ⟨by omega, by omega⟩)).bind fun a ha =>
    (avoids_abs ⟨by omega, by omega⟩).bind fun _ _ => ?_
  refine (avoids_floorDiv hx.inSigned (by omega)).bind fun r hr => ?_
  refine (avoids_i32 (inSigned32_iff.2 ⟨by omega, by omega⟩)).bind fun b hb =>
    (avoids_abs ⟨by omega, by omega⟩).bind fun _ _ => avoids_ok trivial

theorem avoids_waterChannelMetric (hx : Near tile.x) (hz : Near tile.z) :
    Avoids .overflow (waterChannelMetric tile) fun _ => True := by
  obtain ⟨hf₁, hf₂⟩ := hx.ediv (d := 5) (by omega)
  obtain ⟨hz₁, hz₂⟩ := hz
  refine (avoids_floorDiv hx.inSigned (by omega)).bind fun f hf => ?_
  refine (avoids_i32 (inSigned32_iff.2 ⟨by omega, by omega⟩)).bind fun a ha =>
    (avoids_i32 (inSigned32_iff.2 ⟨by omega, by omega⟩)).bind fun b hb => ?_
  exact (avoids_abs ⟨by omega, by omega⟩).mono fun _ _ => trivial

theorem avoids_blobDistance (hx : Near tile.x) (hz : Near tile.z) {cell : ℤ × ℤ}
    {offsetX offsetZ : ℕ} (hoffX : offsetX < 12) (hoffZ : offsetZ < 12)
    (hcx : tile.x / 18 - 1 ≤ cell.1 ∧ cell.1 ≤ tile.x / 18 + 1)
    (hcz : tile.z / 18 - 1 ≤ cell.2 ∧ cell.2 ≤ tile.z / 18 + 1) :
    Avoids .overflow (blobDistance tile cell offsetX offsetZ) fun _ => True := by
  obtain ⟨hx₁, hx₂⟩ := hx
  obtain ⟨hz₁, hz₂⟩ := hz
  have hsquare : ∀ d : ℤ, -100 ≤ d → d ≤ 100 → 0 ≤ d * d ∧ d * d ≤ 10000 :=
    fun d h₁ h₂ => ⟨mul_self_nonneg d, by nlinarith⟩
  refine (avoids_i32 (inSigned32_iff.2 ⟨by omega, by omega⟩)).bind fun sx hsx =>
    (avoids_i32 (inSigned32_iff.2 ⟨by omega, by omega⟩)).bind fun mx hmx =>
    (avoids_i32 (inSigned32_iff.2 ⟨by omega, by omega⟩)).bind fun sz hsz =>
    (avoids_i32 (inSigned32_iff.2 ⟨by omega, by omega⟩)).bind fun mz hmz =>
    (avoids_i32 (inSigned32_iff.2 ⟨by omega, by omega⟩)).bind fun dx hdx =>
    (avoids_i32 (inSigned32_iff.2 ⟨by omega, by omega⟩)).bind fun dz hdz => ?_
  obtain ⟨hxx₁, hxx₂⟩ := hsquare dx (by omega) (by omega)
  obtain ⟨hzz₁, hzz₂⟩ := hsquare dz (by omega) (by omega)
  refine (avoids_i32 (inSigned32_iff.2 ⟨by omega, by omega⟩)).bind fun xx hxx =>
    (avoids_i32 (inSigned32_iff.2 ⟨by omega, by omega⟩)).bind fun zz hzz => ?_
  exact (avoids_i32 (inSigned32_iff.2 ⟨by omega, by omega⟩)).mono fun _ _ => trivial

theorem toNat_mod_lt (h : UInt32) : (h % 12).toNat < 12 := by
  have hmod : (h % 12).toNat = h.toNat % 12 := UInt32.toNat_mod h 12
  omega

theorem avoids_blobOfHash (hx : Near tile.x) (hz : Near tile.z)
    (best : Option (ℤ × ProceduralTerrainMaterial)) {cell : ℤ × ℤ} (hash : UInt32)
    (hcx : tile.x / 18 - 1 ≤ cell.1 ∧ cell.1 ≤ tile.x / 18 + 1)
    (hcz : tile.z / 18 - 1 ≤ cell.2 ∧ cell.2 ≤ tile.z / 18 + 1) :
    Avoids .overflow (blobOfHash tile best cell hash) fun _ => True := by
  unfold blobOfHash
  cases blobMaterial hash with
  | none => exact avoids_ok trivial
  | some material =>
    exact (avoids_blobDistance hx hz (toNat_mod_lt _) (toNat_mod_lt _) hcx hcz).bind
      fun _ _ => avoids_ok trivial

theorem avoids_proceduralBlobMaterial (c : ProceduralWorldConfig) (hx : Near tile.x)
    (hz : Near tile.z) : Avoids .overflow (proceduralBlobMaterial c tile) fun _ => True := by
  obtain ⟨hx₁, hx₂⟩ := hx.ediv (d := 18) (by omega)
  obtain ⟨hz₁, hz₂⟩ := hz.ediv (d := 18) (by omega)
  refine (avoids_floorDiv hx.inSigned (by omega)).bind fun cx hcx =>
    (avoids_floorDiv hz.inSigned (by omega)).bind fun cz hcz => ?_
  refine (avoids_i32 (inSigned32_iff.2 ⟨by omega, by omega⟩)).bind fun lx hlx =>
    (avoids_i32 (inSigned32_iff.2 ⟨by omega, by omega⟩)).bind fun _ _ =>
    (avoids_i32 (inSigned32_iff.2 ⟨by omega, by omega⟩)).bind fun lz hlz =>
    (avoids_i32 (inSigned32_iff.2 ⟨by omega, by omega⟩)).bind fun _ _ => ?_
  refine (Avoids.foldlM (I := fun _ => True) trivial fun best _ cell hcell => ?_).bind
    fun _ _ => avoids_ok trivial
  obtain ⟨i, hi, hcell⟩ := List.mem_flatMap.1 hcell
  obtain ⟨j, hj, rfl⟩ := List.mem_map.1 hcell
  rw [List.mem_range] at hi hj
  exact avoids_blobOfHash hx hz best _ (by dsimp only; omega) (by dsimp only; omega)

/-- A chunk inside the virtual extent holds near tiles only. -/
theorem near_of_extent {c : ProceduralWorldConfig} (hc : c.Bounded) {v : ℤ}
    (h : -c.virtualHalfExtentChunks ≤ v / c.chunkTileSize
      ∧ v / c.chunkTileSize ≤ c.virtualHalfExtentChunks) : Near v := by
  have hsize : 0 < c.chunkTileSize := lt_of_lt_of_le four_pos hc.tile_ge
  have hdivmod := Int.mul_ediv_add_emod v c.chunkTileSize
  have hmod_nonneg := Int.emod_nonneg v hsize.ne'
  have hmod_lt := Int.emod_lt_of_pos v hsize
  have hextent := hc.extent_le
  have htile := hc.tile_le
  have hradius := hc.radius_ge.trans hc.extent_ge
  have hlow : -524288 ≤ c.chunkTileSize * (v / c.chunkTileSize) := by nlinarith [h.1]
  have hup : c.chunkTileSize * (v / c.chunkTileSize) ≤ 524288 := by nlinarith [h.2]
  exact ⟨by omega, by omega⟩

/-- **Sampling a tile never overflows**, wherever the tile is. -/
theorem avoids_sample (F : Type) [FloatOps F] {c : ProceduralWorldConfig}
    (hc : c.validate = .ok ()) (hx : InSigned 32 tile.x) (hz : InSigned 32 tile.z) :
    Avoids .overflow (sampleProceduralTerrainTile F c tile) fun s =>
      s.tile = tile ∧ s.chunk = ⟨tile.x / c.chunkTileSize, tile.z / c.chunkTileSize⟩ := by
  unfold sampleProceduralTerrainTile
  refine (avoids_lift (Q := fun _ => True) fun _ _ => trivial).bind fun _ _ =>
    (avoids_chunkCoordForTile hc hx hz).bind fun chunk hchunk => ?_
  refine (avoids_lift fun u hu => (reject_eq_ok_iff (e := .invalidBounds)).1 hu).bind
    fun _ hextent => ?_
  rw [Bool.not_eq_false, chunkInVirtualExtent, Bool.and_eq_true, decide_eq_true_iff,
    decide_eq_true_iff, hchunk] at hextent
  have hnearX := near_of_extent (c.bounded hc) hextent.1
  have hnearZ := near_of_extent (c.bounded hc) hextent.2
  refine (avoids_pathBand hnearX hnearZ).bind fun _ _ =>
    (avoids_inDisc hnearX hnearZ (by omega) (by omega)).bind fun _ _ =>
    (avoids_inDisc hnearX hnearZ (by omega) (by omega)).bind fun _ _ =>
    (avoids_inDisc hnearX hnearZ (by omega) (by omega)).bind fun _ _ =>
    (avoids_inDisc hnearX hnearZ (by omega) (by omega)).bind fun _ _ =>
    (avoids_waterChannelMetric hnearX hnearZ).bind fun _ _ =>
    (avoids_proceduralBlobMaterial c hnearX hnearZ).bind fun _ _ => ?_
  exact (avoids_lift (Q := fun _ => True) fun _ _ => trivial).bind fun _ _ =>
    avoids_ok ⟨rfl, hchunk⟩

end Procedural
end ALife
