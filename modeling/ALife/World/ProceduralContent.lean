/-
# The content of active chunks

`generate_procedural_world_content` of `crates/alife_world/src/procedural_chunks.rs`.
The active chunks are visited from the nearest to its anchor on; a tile whose
hash suits its material becomes a candidate, of which a chunk has at most 48 and
the report at most its cap.  An identifier is a hash of the tile, salted as often
as it is taken by a candidate of the same call.
-/

import ALife.World.LocalSteering
import ALife.World.ProceduralChunks

namespace ALife
namespace Procedural

open Machine

/-- `DEFAULT_MAX_CONTENT_CANDIDATES_PER_CHUNK`. -/
def defaultMaxContentCandidatesPerChunk : ℕ := 48

/-- `PROCEDURAL_WORLD_CONTENT_SCHEMA`. -/
def proceduralWorldContentSchema : String := "alife.ca44a.procedural_world_content.v1"

/-- `PROCEDURAL_WORLD_CONTENT_SCHEMA_VERSION`. -/
def proceduralWorldContentSchemaVersion : UInt16 := 1

/-- `PROCEDURAL_CONTENT_ID_BASE`. -/
def proceduralContentIdBase : UInt64 := 8800000000000

inductive ProceduralWorldContentKind where
  | food | hazard | obstacle | dressingProp
  deriving DecidableEq, Repr

namespace ProceduralWorldContentKind

/-- `alpha_art_role`. -/
def alphaArtRole : ProceduralWorldContentKind → String
  | food => "food"
  | hazard => "hazard"
  | obstacle => "rock-obstacle"
  | dressingProp => "prop-dressing"

/-- `world_object_kind`. -/
def worldObjectKind : ProceduralWorldContentKind → Option World.WorldObjectKind
  | food => some .food
  | hazard => some .hazard
  | obstacle => some .obstacle
  | dressingProp => none

/-- `id_discriminator`. -/
def idDiscriminator : ProceduralWorldContentKind → UInt64
  | food => 1
  | hazard => 2
  | obstacle => 3
  | dressingProp => 4

/-- `label`. -/
def label : ProceduralWorldContentKind → String
  | food => "procedural food"
  | hazard => "procedural hazard"
  | obstacle => "procedural rock"
  | dressingProp => "procedural dressing"

end ProceduralWorldContentKind

/-- `ProceduralWorldContentCandidate`. -/
structure ProceduralWorldContentCandidate (F : Type) where
  stableId : WorldEntityId
  label : String
  kind : ProceduralWorldContentKind
  worldObjectKind : Option World.WorldObjectKind
  alphaArtRole : String
  tile : ProceduralTileCoord
  chunk : ProceduralChunkCoord
  material : ProceduralTerrainMaterial
  anchorStableId : WorldEntityId
  position : Vec3f F
  radius : F
  nutrition : F
  hazardPain : F
  deriving DecidableEq, Repr

/-- `ProceduralWorldContentReport`. -/
structure ProceduralWorldContentReport (F : Type) where
  schema : String
  schemaVersion : UInt16
  seed : UInt64
  activeChunkCount : ℕ
  candidateCount : ℕ
  skippedDueToCap : UInt64
  candidates : List (ProceduralWorldContentCandidate F)
  deriving DecidableEq, Repr

section Content

variable {F : Type} [FloatOps F]

/-- The last check of a candidate: food feeds, a hazard hurts, and the others do neither. -/
def ProceduralWorldContentKind.checkEffects (kind : ProceduralWorldContentKind)
    (nutrition hazardPain : F) : Contract Unit :=
  match kind with
  | .food => reject (FloatOps.le nutrition 0 = true ∨ FloatOps.feq hazardPain 0 = false)
      .scalarOutOfRange
  | .hazard => reject (FloatOps.le hazardPain 0 = true ∨ FloatOps.feq nutrition 0 = false)
      .scalarOutOfRange
  | .obstacle | .dressingProp =>
    reject (FloatOps.feq nutrition 0 = false ∨ FloatOps.feq hazardPain 0 = false)
      .scalarOutOfRange

/-- `ProceduralWorldContentCandidate::validate`. -/
def ProceduralWorldContentCandidate.validate (k : ProceduralWorldContentCandidate F) :
    Contract Unit := do
  k.stableId.validate
  k.anchorStableId.validate
  checkPosition k.position
  checkNormalized k.radius
  checkNormalized k.nutrition
  checkNormalized k.hazardPain
  reject (k.alphaArtRole ≠ k.kind.alphaArtRole ∨ k.worldObjectKind ≠ k.kind.worldObjectKind)
    .scalarOutOfRange
  k.kind.checkEffects k.nutrition k.hazardPain

/-- `ProceduralWorldContentReport::validate`. -/
def ProceduralWorldContentReport.validate (r : ProceduralWorldContentReport F)
    (c : ProceduralWorldConfig) : Contract Unit := do
  c.validate
  reject (r.schema ≠ proceduralWorldContentSchema
    ∨ r.schemaVersion ≠ proceduralWorldContentSchemaVersion
    ∨ r.seed ≠ c.seed ∨ r.candidateCount ≠ r.candidates.length
    ∨ c.maxActiveContentCandidates < r.candidateCount) .scalarOutOfRange
  checkDistinct ProceduralWorldContentCandidate.validate (fun k => k.stableId.raw) r.candidates

/-- `procedural_content_kind_for_sample`. -/
def proceduralContentKindForSample (s : ProceduralTerrainSample F) (hash : UInt32) :
    Option ProceduralWorldContentKind :=
  match s.material with
  | .resourceGrove =>
    if hash % 4 = 0 then some .food else if hash % 2 = 0 then some .dressingProp else none
  | .hazardPressure =>
    if hash % 8 = 0 then some .hazard else if hash % 3 = 0 then some .dressingProp else none
  | .stoneRough =>
    if hash % 5 = 0 then some .obstacle else if hash % 2 = 0 then some .dressingProp else none
  | .water => if hash % 7 = 0 then some .dressingProp else none
  | .sand => if hash % 3 = 0 then some .dressingProp else none
  | .safeGrass | .neutralSoil => if hash % 2 = 0 then some .dressingProp else none

/-- The identifier `procedural_content_stable_id` tries with a salt. -/
def saltedId (c : ProceduralWorldConfig) (kind : ProceduralWorldContentKind)
    (tile : ProceduralTileCoord) (salt : ℕ) : UInt64 :=
  let hash := seededHash (c.seed ^^^ (kind.idDiscriminator <<< 48) ^^^ salt.toUInt64) tile.x tile.z
  proceduralContentIdBase + kind.idDiscriminator * 1000000000 + hash.toUInt64 % 900000000

/-- `procedural_content_stable_id`: the identifier, and the identifiers taken after it. -/
def proceduralContentStableId (c : ProceduralWorldConfig) (kind : ProceduralWorldContentKind)
    (tile : ProceduralTileCoord) (seenIds : List UInt64) :
    Contract (WorldEntityId × List UInt64) :=
  match ((List.range 16).map (saltedId c kind tile)).find? (· ∉ seenIds) with
  | some raw => do
    (WorldEntityId.mk raw).validate
    pure (⟨raw⟩, raw :: seenIds)
  | none => .error .invalidId

/-- `x.min(y)` of numbers. -/
def minNumber (x y : F) : F := if FloatOps.lt y x then y else x

/-- The radius, nutrition and pain of a kind. -/
def ProceduralWorldContentKind.effects (kind : ProceduralWorldContentKind) (hash : UInt32) :
    F × F × F :=
  match kind with
  | .food => (literal 44 100, literal 70 100 + literal (hash % 19).toNat 1 / literal 100 1, 0)
  | .hazard => (literal 58 100, 0, literal 55 100 + literal (hash % 23).toNat 1 / literal 100 1)
  | .obstacle => (literal 66 100, 0, 0)
  | .dressingProp => (literal 36 100, 0, 0)

/-- Where a tile's content is, off the middle by its hash. -/
def contentPosition (tile : ProceduralTileCoord) (hash : UInt32) : Vec3f F :=
  let offsetX : F := (literal (hash % 17).toNat 1 - literal 8 1) / literal 24 1
  let offsetZ : F := (literal (hash / 17 % 17).toNat 1 - literal 8 1) / literal 24 1
  ⟨literal tile.x 1 + offsetX, 0, literal tile.z 1 + offsetZ⟩

/-- `procedural_world_content_candidate`. -/
def proceduralWorldContentCandidate (stableId : WorldEntityId) (kind : ProceduralWorldContentKind)
    (sample : ProceduralTerrainSample F) (activeChunk : ProceduralActiveChunk) (hash : UInt32) :
    Contract (ProceduralWorldContentCandidate F) := do
  let (radius, nutrition, hazardPain) := kind.effects (F := F) hash
  let candidate : ProceduralWorldContentCandidate F :=
    { stableId
      label := kind.label ++ " " ++ toString stableId.raw
      kind
      worldObjectKind := kind.worldObjectKind
      alphaArtRole := kind.alphaArtRole
      tile := sample.tile
      chunk := sample.chunk
      material := sample.material
      anchorStableId := activeChunk.anchorStableId
      position := contentPosition sample.tile hash
      radius
      nutrition := minNumber nutrition (literal 95 100)
      hazardPain := minNumber hazardPain (literal 95 100) }
  candidate.validate
  pure candidate

/-- What the loop over the chunks keeps. -/
structure ContentState (F : Type) where
  candidates : List (ProceduralWorldContentCandidate F) := []
  skipped : UInt64 := 0
  seenIds : List UInt64 := []

/-- The seed of the hash that decides the content of a tile. -/
def contentHash (c : ProceduralWorldConfig) (tile : ProceduralTileCoord) : UInt32 :=
  seededHash (c.seed ^^^ 0xC0DEC0DE51A7EED5) tile.x tile.z

/-- The body of the loop at a tile whose sample has a content. -/
def addContent (c : ProceduralWorldConfig) (chunk : ProceduralActiveChunk)
    (sample : ProceduralTerrainSample F) (kind : ProceduralWorldContentKind)
    (s : ContentState F) (count : ℕ) : Call (ContentState F × ℕ) :=
  if c.maxActiveContentCandidates ≤ s.candidates.length then
    pure ({ s with skipped := saturatingAdd64 s.skipped 1 }, count)
  else do
    let (stableId, seenIds) ← lift (proceduralContentStableId c kind sample.tile s.seenIds)
    let candidate ← lift (proceduralWorldContentCandidate stableId kind sample chunk
      (contentHash c sample.tile))
    lift candidate.validate
    pure ({ s with candidates := s.candidates ++ [candidate], seenIds }, count + 1)

/-- The body of the loop over the tiles of a chunk. -/
def visitTile (c : ProceduralWorldConfig) (chunk : ProceduralActiveChunk) (baseX baseZ : ℤ)
    (run : ContentState F × ℕ) (offset : ℕ × ℕ) : Call (ContentState F × ℕ) :=
  if defaultMaxContentCandidatesPerChunk ≤ run.2 then pure run
  else do
    let x ← i32 (baseX + offset.1)
    let z ← i32 (baseZ + offset.2)
    let sample ← sampleProceduralTerrainTile F c ⟨x, z⟩
    match proceduralContentKindForSample sample (contentHash c ⟨x, z⟩) with
    | none => pure run
    | some kind => addContent c chunk sample kind run.1 run.2

/-- The tiles of a chunk, row by row. -/
def tileOffsets (c : ProceduralWorldConfig) : List (ℕ × ℕ) :=
  let side := List.range c.chunkTileSize.toNat
  side.flatMap fun dz => side.map fun dx => (dx, dz)

/-- The loop over the tiles of a chunk. -/
def visitChunk (c : ProceduralWorldConfig) (s : ContentState F) (chunk : ProceduralActiveChunk) :
    Call (ContentState F) := do
  let baseX ← i32 (chunk.coord.x * c.chunkTileSize)
  let baseZ ← i32 (chunk.coord.z * c.chunkTileSize)
  let (s, _) ← (tileOffsets c).foldlM (visitTile c chunk baseX baseZ) (s, 0)
  pure s

/-- The key by which the active chunks are visited. -/
def visitKey (c : ProceduralWorldConfig) (chunk : ProceduralActiveChunk) :
    Call (ℤ ×ₗ ℕ ×ₗ ℤ ×ₗ ℤ) := do
  let half := c.chunkTileSize.tdiv 2
  let baseX ← i32 (chunk.coord.x * c.chunkTileSize)
  let centerX ← i32 (baseX + half)
  let baseZ ← i32 (chunk.coord.z * c.chunkTileSize)
  let centerZ ← i32 (baseZ + half)
  let dx ← i32 (centerX - chunk.anchorTile.x)
  let dz ← i32 (centerZ - chunk.anchorTile.z)
  let xx ← i32 (dx * dx)
  let zz ← i32 (dz * dz)
  let distance ← i32 (xx + zz)
  pure (toLex (distance, toLex (chunk.anchorStableId.raw.toNat,
    toLex (chunk.coord.x, chunk.coord.z))))

/-- `sort_by_key` of the active chunks; a single row is not compared. -/
def visitOrder (c : ProceduralWorldConfig) (chunks : List ProceduralActiveChunk) :
    Call (List ProceduralActiveChunk) :=
  if chunks.length < 2 then pure chunks
  else do
    let keyed ← chunks.mapM fun chunk => do
      let key ← visitKey c chunk
      pure (key, chunk)
    pure ((sortByKey Prod.fst keyed).map Prod.snd)

/-- `generate_procedural_world_content`. -/
def generateProceduralWorldContent (F : Type) [FloatOps F] (c : ProceduralWorldConfig)
    (activation : ProceduralChunkActivationReport) : Call (ProceduralWorldContentReport F) := do
  lift c.validate
  lift (activation.validate c)
  let activeChunks ← visitOrder c activation.activeChunks
  let state ← activeChunks.foldlM (visitChunk (F := F) c) {}
  let candidates := sortByKey (fun k => k.stableId.raw.toNat) state.candidates
  let report : ProceduralWorldContentReport F :=
    { schema := proceduralWorldContentSchema
      schemaVersion := proceduralWorldContentSchemaVersion
      seed := c.seed
      activeChunkCount := activation.activeChunks.length
      candidateCount := candidates.length
      skippedDueToCap := state.skipped
      candidates }
  lift (report.validate c)
  pure report

end Content

end Procedural
end ALife
