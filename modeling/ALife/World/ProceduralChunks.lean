/-
# Chunks around creatures

`activate_procedural_chunks_around_creatures` of
`crates/alife_world/src/procedural_chunks.rs`.  The anchors are sorted by their
ids, and each activates the chunks of the square around it that are inside the
virtual extent and not active yet, as long as the cap lets it.

The loop never leaves `i32` (`activateAnchor_eq_ok`), so a call with valid
anchors returns the report that `activationReport` computes
(`activate_eq_ok`), whatever the order of the anchors (`activate_perm`).
-/

import ALife.Cognition.Motor
import ALife.Machine.Checks
import ALife.Machine.Integers
import ALife.Machine.SortedNames
import ALife.World.ProceduralTerrain

namespace ALife
namespace Procedural

open Machine

/-- `x.round() as i32`, a conversion that saturates. -/
class RoundToI32 (F : Type) where
  roundToI32 : F → Int32

/-- Of an exact number, halves are rounded away from zero. -/
instance : RoundToI32 ℚ where
  roundToI32 q :=
    let rounded := if 0 ≤ q then ⌊q + 0.5⌋ else -⌊-q + 0.5⌋
    Int32.ofInt (max (-2147483648) (min 2147483647 rounded))

/-- `CreatureWorldAnchor`. -/
structure CreatureWorldAnchor (F : Type) where
  stableId : WorldEntityId
  position : Vec3f F
  deriving DecidableEq, Repr

/-- `ProceduralActiveChunk`. -/
structure ProceduralActiveChunk where
  coord : ProceduralChunkCoord
  anchorStableId : WorldEntityId
  anchorTile : ProceduralTileCoord
  deriving DecidableEq, Repr

/-- `ProceduralChunkActivationReport`. -/
structure ProceduralChunkActivationReport where
  schema : String
  schemaVersion : UInt16
  seed : UInt64
  creatureAnchorCount : ℕ
  activeChunks : List ProceduralActiveChunk
  skippedDueToCap : UInt64
  deriving DecidableEq, Repr

/-- `PROCEDURAL_WORLD_CHUNKS_SCHEMA`. -/
def proceduralWorldChunksSchema : String := "alife.ca44a.procedural_world_chunks.v1"

/-- The loop of a report's `validate`: every row passes its check, and no key repeats. -/
def checkDistinct {α κ : Type} [DecidableEq κ] (check : α → Contract Unit) (key : α → κ)
    (rows : List α) : Contract Unit := do
  let _ ← rows.foldlM (fun seen row => do
    check row
    reject (key row ∈ seen) .invalidId
    pure (seen ++ [key row])) []
  pure ()

theorem checkDistinct_eq_ok_iff {α κ : Type} [DecidableEq κ] {check : α → Contract Unit}
    {key : α → κ} {rows : List α} :
    checkDistinct check key rows = .ok () ↔
      (∀ row ∈ rows, check row = .ok ()) ∧ (rows.map key).Nodup := by
  have hloop : ∀ seen : List κ, rows.foldlM (fun seen row => do
      check row
      reject (key row ∈ seen) .invalidId
      pure (seen ++ [key row])) [] = (.ok seen : Contract (List κ)) ↔
      (∀ pre row post, rows = pre ++ row :: post → check row = .ok () ∧ key row ∉ pre.map key)
        ∧ rows.map key = seen := by
    intro seen
    refine foldlM_eq_ok_iff (g := fun pre => pre.map key)
      (C := fun pre row => check row = .ok () ∧ key row ∉ pre.map key) fun pre row s => ?_
    rw [contract_check_eq_ok_iff, contract_check_eq_ok_iff, reject_eq_ok_iff, and_assoc,
      List.map_append, List.map_singleton]
    exact and_congr_right' (and_congr_right' ⟨fun h => Except.ok.inj h, fun h => congrArg _ h⟩)
  unfold checkDistinct
  rw [contract_bind_eq_ok_iff]
  constructor
  · rintro ⟨seen, hrun, -⟩
    have hall := ((hloop seen).1 hrun).1
    exact ⟨forall_prefix_mem_iff.1 fun pre row post he => (hall pre row post he).1,
      forall_prefix_notMem_iff.1 fun pre row post he => (hall pre row post he).2⟩
  · rintro ⟨hcheck, hnodup⟩
    exact ⟨_, (hloop _).2 ⟨fun pre row post he => ⟨forall_prefix_mem_iff.2 hcheck pre row post he,
      forall_prefix_notMem_iff.2 hnodup pre row post he⟩, rfl⟩, rfl⟩

/-- `ProceduralChunkActivationReport::validate`. -/
def ProceduralChunkActivationReport.validate (r : ProceduralChunkActivationReport)
    (c : ProceduralWorldConfig) : Contract Unit := do
  c.validate
  reject (r.schema ≠ proceduralWorldChunksSchema
    ∨ r.schemaVersion ≠ proceduralWorldChunksSchemaVersion
    ∨ r.seed ≠ c.seed ∨ c.maxActiveChunks < r.activeChunks.length) .scalarOutOfRange
  checkDistinct (fun chunk => chunk.anchorStableId.validate) ProceduralActiveChunk.coord
    r.activeChunks

/-- What the loop over the anchors keeps. -/
structure ActivationState where
  active : List ProceduralActiveChunk := []
  seen : List ProceduralChunkCoord := []
  skipped : UInt64 := 0
  deriving DecidableEq, Repr

/-- The body of the loop, at a chunk. -/
def ActivationState.visit (c : ProceduralWorldConfig) (s : ActivationState)
    (chunk : ProceduralActiveChunk) : ActivationState :=
  if chunkInVirtualExtent c chunk.coord = false ∨ chunk.coord ∈ s.seen then s
  else if c.maxActiveChunks ≤ s.active.length then
    { s with seen := chunk.coord :: s.seen, skipped := saturatingAdd64 s.skipped 1 }
  else { s with seen := chunk.coord :: s.seen, active := s.active ++ [chunk] }

/-- The offsets of a square, row by row. -/
def squareOffsets (radius : ℤ) : List (ℤ × ℤ) :=
  let side := List.range (2 * radius + 1).toNat
  side.flatMap fun (dz : ℕ) => side.map fun (dx : ℕ) => ((dx : ℤ) - radius, (dz : ℤ) - radius)

/-- The lexicographic order of the active chunks. -/
def ProceduralActiveChunk.sortKey (chunk : ProceduralActiveChunk) : ℤ ×ₗ ℤ ×ₗ ℕ :=
  toLex (chunk.coord.x, toLex (chunk.coord.z, chunk.anchorStableId.raw.toNat))

section Activation

variable {F : Type}

/-- `Vec3f::validate`. -/
def checkPosition [FloatOps F] (v : Vec3f F) : Contract Unit :=
  reject ([v.x, v.y, v.z].all FloatOps.isFinite = false) .nonFiniteFloat

namespace CreatureWorldAnchor

/-- `CreatureWorldAnchor::validate`. -/
def validate [FloatOps F] (a : CreatureWorldAnchor F) : Contract Unit := do
  a.stableId.validate
  checkPosition a.position

/-- The coordinates of an anchor are finite numbers. -/
def Finite [FloatOps F] (a : CreatureWorldAnchor F) : Prop :=
  [a.position.x, a.position.y, a.position.z].all FloatOps.isFinite = true

/-- Of anchors at finite positions only an identifier can be refused. -/
theorem forM_validate_of_finite [FloatOps F] {anchors : List (CreatureWorldAnchor F)}
    (hfinite : ∀ a ∈ anchors, a.Finite) :
    anchors.forM validate
      = if ∀ a ∈ anchors, a.stableId.raw ≠ 0 then .ok () else .error .invalidId := by
  induction anchors with
  | nil => rfl
  | cons a anchors ih =>
    have hposition : checkPosition a.position = .ok () := by
      rw [checkPosition, reject_eq_ok_iff, hfinite a List.mem_cons_self]
      exact Bool.noConfusion
    have hvalidate : validate a
        = if a.stableId.raw = 0 then .error .invalidId else .ok () := by
      rw [validate, hposition, WorldEntityId.validate, reject]
      split_ifs <;> rfl
    change (validate a >>= fun _ => anchors.forM validate) = _
    rw [hvalidate, ih fun b hb => hfinite b (List.mem_cons_of_mem a hb)]
    simp only [List.forall_mem_cons]
    by_cases hid : a.stableId.raw = 0
    · have hsome : ¬(a.stableId.raw ≠ 0 ∧ ∀ b ∈ anchors, b.stableId.raw ≠ 0) :=
        fun h => h.1 hid
      rw [if_pos hid, if_neg hsome]
      rfl
    · rw [if_neg hid]
      simp only [ne_eq, hid, not_false_eq_true, true_and]
      rfl

variable [RoundToI32 F]

/-- `CreatureWorldAnchor::tile_coord`. -/
def tileCoord (a : CreatureWorldAnchor F) : ProceduralTileCoord :=
  ⟨(RoundToI32.roundToI32 a.position.x).toInt, (RoundToI32.roundToI32 a.position.z).toInt⟩

end CreatureWorldAnchor

variable [RoundToI32 F]

/-- The loop over the chunks around an anchor. -/
def activateAnchor (c : ProceduralWorldConfig) (s : ActivationState)
    (anchor : CreatureWorldAnchor F) : Call ActivationState := do
  let center ← chunkCoordForTile c anchor.tileCoord
  (squareOffsets c.activationRadiusChunks).foldlM (fun s (dx, dz) => do
    let x ← i32 (center.x + dx)
    let z ← i32 (center.z + dz)
    pure (s.visit c ⟨⟨x, z⟩, anchor.stableId, anchor.tileCoord⟩)) s

/-- `activate_procedural_chunks_around_creatures`. -/
def activateProceduralChunksAroundCreatures [FloatOps F] (c : ProceduralWorldConfig)
    (anchors : List (CreatureWorldAnchor F)) : Call ProceduralChunkActivationReport := do
  lift c.validate
  lift (anchors.forM CreatureWorldAnchor.validate)
  let validAnchors := sortByKey (fun anchor => anchor.stableId.raw.toNat) anchors
  let state ← validAnchors.foldlM (activateAnchor c) {}
  let report : ProceduralChunkActivationReport :=
    { schema := proceduralWorldChunksSchema
      schemaVersion := proceduralWorldChunksSchemaVersion
      seed := c.seed
      creatureAnchorCount := validAnchors.length
      activeChunks := sortByKey ProceduralActiveChunk.sortKey state.active
      skippedDueToCap := state.skipped }
  lift (report.validate c)
  pure report

/-! ## The loop in exact arithmetic -/

/-- A loop whose rounds never fail is the fold of what they return. -/
theorem foldlM_eq_ok_foldl {ε σ α : Type} {f : σ → α → Except ε σ} {g : σ → α → σ} {l : List α}
    {s : σ} (h : ∀ s, ∀ a ∈ l, f s a = .ok (g s a)) : l.foldlM f s = .ok (l.foldl g s) := by
  induction l generalizing s with
  | nil => rfl
  | cons a l ih =>
    rw [List.foldlM_cons, h s a List.mem_cons_self]
    exact ih fun s b hb => h s b (List.mem_cons_of_mem a hb)

theorem floorDiv_eq_error {value divisor : ℤ} {e : ProceduralFault}
    (h : floorDiv value divisor = .error e) : e = .overflow := by
  have hi32 : ∀ {v : ℤ} {e : ProceduralFault}, i32 v = .error e → e = .overflow := by
    intro v e he
    unfold i32 checked at he
    split_ifs at he
    exact (Except.error.inj he).symm
  unfold floorDiv at h
  cases hq : i32 (value.tdiv divisor) with
  | error e' =>
    rw [hq] at h
    obtain rfl := Except.error.inj h
    exact hi32 hq
  | ok q =>
    rw [hq] at h
    dsimp only [bind, Except.bind] at h
    split_ifs at h with hround
    · exact hi32 h
    · cases h

theorem floorDiv_eq_ok {value divisor : ℤ} (hv : InSigned 32 value) (hd : 0 < divisor) :
    floorDiv value divisor = .ok (value / divisor) := by
  have havoids := avoids_floorDiv hv hd
  cases h : floorDiv value divisor with
  | ok q => rw [havoids.of_eq_ok h]
  | error e => exact absurd (h.trans (congrArg _ (floorDiv_eq_error h))) havoids.ne_error

theorem chunkCoordForTile_eq_ok {c : ProceduralWorldConfig} (hc : c.validate = .ok ())
    {tile : ProceduralTileCoord} (hx : InSigned 32 tile.x) (hz : InSigned 32 tile.z) :
    chunkCoordForTile c tile = .ok ⟨tile.x / c.chunkTileSize, tile.z / c.chunkTileSize⟩ := by
  have hsize : 0 < c.chunkTileSize := lt_of_lt_of_le four_pos (c.bounded hc).tile_ge
  unfold chunkCoordForTile
  rw [hc, floorDiv_eq_ok hx hsize, floorDiv_eq_ok hz hsize]
  rfl

theorem mem_squareOffsets {radius : ℤ} {o : ℤ × ℤ} (h : o ∈ squareOffsets radius) :
    (-radius ≤ o.1 ∧ o.1 ≤ radius) ∧ -radius ≤ o.2 ∧ o.2 ≤ radius := by
  obtain ⟨dz, hdz, ho⟩ := List.mem_flatMap.1 h
  obtain ⟨dx, hdx, rfl⟩ := List.mem_map.1 ho
  rw [List.mem_range] at hdz hdx
  dsimp only
  omega

theorem tileCoord_inSigned (a : CreatureWorldAnchor F) :
    InSigned 32 a.tileCoord.x ∧ InSigned 32 a.tileCoord.z :=
  ⟨⟨Int32.le_toInt _, Int32.toInt_lt _⟩, Int32.le_toInt _, Int32.toInt_lt _⟩

/-- The chunk of an anchor. -/
def CreatureWorldAnchor.center (c : ProceduralWorldConfig) (a : CreatureWorldAnchor F) :
    ProceduralChunkCoord :=
  ⟨a.tileCoord.x / c.chunkTileSize, a.tileCoord.z / c.chunkTileSize⟩

/-- The chunks an anchor offers, in their order. -/
def CreatureWorldAnchor.offers (c : ProceduralWorldConfig) (a : CreatureWorldAnchor F) :
    List ProceduralActiveChunk :=
  (squareOffsets c.activationRadiusChunks).map fun o =>
    ⟨⟨(a.center c).x + o.1, (a.center c).z + o.2⟩, a.stableId, a.tileCoord⟩

/-- **The loop around an anchor does not overflow**: it visits the chunks the anchor offers. -/
theorem activateAnchor_eq_ok {c : ProceduralWorldConfig} (hc : c.validate = .ok ())
    (s : ActivationState) (a : CreatureWorldAnchor F) :
    activateAnchor c s a = .ok ((a.offers c).foldl (ActivationState.visit c) s) := by
  obtain ⟨hx, hz⟩ := tileCoord_inSigned a
  have hb := c.bounded hc
  have hdiv : ∀ {v : ℤ}, InSigned 32 v →
      -536870912 ≤ v / c.chunkTileSize ∧ v / c.chunkTileSize ≤ 536870912 := by
    intro v hv
    rw [inSigned32_iff] at hv
    have hsize := hb.tile_ge
    exact ⟨Int.le_ediv_of_mul_le (by omega) (by nlinarith),
      Int.ediv_le_of_le_mul (by omega) (by nlinarith)⟩
  obtain ⟨hx₁, hx₂⟩ := hdiv hx
  obtain ⟨hz₁, hz₂⟩ := hdiv hz
  have hradius := hb.radius_le
  unfold activateAnchor CreatureWorldAnchor.offers
  rw [chunkCoordForTile_eq_ok hc hx hz, List.foldl_map]
  have hoffset : ∀ o ∈ squareOffsets c.activationRadiusChunks, InSigned 32 ((a.center c).x + o.1)
      ∧ InSigned 32 ((a.center c).z + o.2) := by
    intro o ho
    obtain ⟨hox, hoz⟩ := mem_squareOffsets ho
    rw [inSigned32_iff, inSigned32_iff, CreatureWorldAnchor.center]
    dsimp only
    omega
  refine foldlM_eq_ok_foldl fun s o ho => ?_
  obtain ⟨hox, hoz⟩ := hoffset o ho
  have hstep_x : i32 (a.tileCoord.x / c.chunkTileSize + o.1) = .ok ((a.center c).x + o.1) :=
    if_pos hox
  have hstep_z : i32 (a.tileCoord.z / c.chunkTileSize + o.2) = .ok ((a.center c).z + o.2) :=
    if_pos hoz
  dsimp only
  rw [hstep_x, hstep_z]
  rfl

/-! ## What is activated -/

/-- A chunk inside the virtual extent, and within the radius of the anchor it names. -/
structure ProceduralActiveChunk.Placed (c : ProceduralWorldConfig)
    (anchors : List (CreatureWorldAnchor F)) (chunk : ProceduralActiveChunk) : Prop where
  inside : chunkInVirtualExtent c chunk.coord = true
  anchored : ∃ a ∈ anchors, chunk.anchorStableId = a.stableId ∧ chunk.anchorTile = a.tileCoord
    ∧ |chunk.coord.x - (a.center c).x| ≤ c.activationRadiusChunks
    ∧ |chunk.coord.z - (a.center c).z| ≤ c.activationRadiusChunks

/-- The invariant of the loop over the anchors. -/
structure ActivationState.Sound (c : ProceduralWorldConfig)
    (anchors : List (CreatureWorldAnchor F)) (s : ActivationState) : Prop where
  nodup : (s.active.map ProceduralActiveChunk.coord).Nodup
  seen : ∀ chunk ∈ s.active, chunk.coord ∈ s.seen
  cap : s.active.length ≤ c.maxActiveChunks
  placed : ∀ chunk ∈ s.active, chunk.Placed c anchors

theorem CreatureWorldAnchor.anchored_of_mem_offers {c : ProceduralWorldConfig}
    {a : CreatureWorldAnchor F} {chunk : ProceduralActiveChunk} (h : chunk ∈ a.offers c) :
    chunk.anchorStableId = a.stableId ∧ chunk.anchorTile = a.tileCoord
      ∧ |chunk.coord.x - (a.center c).x| ≤ c.activationRadiusChunks
      ∧ |chunk.coord.z - (a.center c).z| ≤ c.activationRadiusChunks := by
  obtain ⟨o, ho, rfl⟩ := List.mem_map.1 h
  obtain ⟨hx, hz⟩ := mem_squareOffsets ho
  dsimp only
  rw [add_sub_cancel_left, add_sub_cancel_left]
  exact ⟨rfl, rfl, abs_le.2 hx, abs_le.2 hz⟩

variable {c : ProceduralWorldConfig} {anchors : List (CreatureWorldAnchor F)}

theorem ActivationState.Sound.visit {s : ActivationState} (hs : s.Sound c anchors)
    {a : CreatureWorldAnchor F} (ha : a ∈ anchors) {chunk : ProceduralActiveChunk}
    (hchunk : chunk ∈ a.offers c) : (s.visit c chunk).Sound c anchors := by
  unfold ActivationState.visit
  split_ifs with hskip hcap
  · exact hs
  · exact ⟨hs.nodup, fun b hb => List.mem_cons_of_mem _ (hs.seen b hb), hs.cap, hs.placed⟩
  · obtain ⟨hinside, hfresh⟩ := not_or.1 hskip
    refine ⟨?_, fun b hb => ?_, ?_, fun b hb => ?_⟩
    · dsimp only
      rw [List.map_append, List.map_singleton, ← List.concat_eq_append, List.nodup_concat]
      refine ⟨fun hmem => hfresh ?_, hs.nodup⟩
      obtain ⟨b, hb, heq⟩ := List.mem_map.1 hmem
      exact heq ▸ hs.seen b hb
    · obtain hb | hb := List.mem_append.1 hb
      · exact List.mem_cons_of_mem _ (hs.seen b hb)
      · rw [List.mem_singleton.1 hb]
        exact List.mem_cons_self
    · rw [List.length_append, List.length_singleton]
      omega
    · obtain hb | hb := List.mem_append.1 hb
      · exact hs.placed b hb
      · rw [List.mem_singleton.1 hb]
        exact ⟨Bool.not_eq_false _ ▸ hinside, a, ha,
          CreatureWorldAnchor.anchored_of_mem_offers hchunk⟩

/-- The state after the anchors of a list. -/
def activationState (c : ProceduralWorldConfig) (anchors : List (CreatureWorldAnchor F)) :
    ActivationState :=
  anchors.foldl (fun s a => (a.offers c).foldl (ActivationState.visit c) s) {}

theorem sound_activationState (c : ProceduralWorldConfig)
    (anchors : List (CreatureWorldAnchor F)) : (activationState c anchors).Sound c anchors := by
  refine List.foldlRecOn anchors _ (motive := fun s : ActivationState => s.Sound c anchors)
    ⟨List.nodup_nil, nofun, Nat.zero_le _, nofun⟩ fun s hs a ha => ?_
  exact List.foldlRecOn _ _ hs fun s hs chunk hchunk => hs.visit ha hchunk

/-- The report that a call returns when its anchors are valid. -/
def activationReport (c : ProceduralWorldConfig) (anchors : List (CreatureWorldAnchor F)) :
    ProceduralChunkActivationReport :=
  let sorted := sortByKey (fun anchor => anchor.stableId.raw.toNat) anchors
  { schema := proceduralWorldChunksSchema
    schemaVersion := proceduralWorldChunksSchemaVersion
    seed := c.seed
    creatureAnchorCount := sorted.length
    activeChunks := sortByKey ProceduralActiveChunk.sortKey (activationState c sorted).active
    skippedDueToCap := (activationState c sorted).skipped }

/-- What an activation promises of its chunks. -/
structure ProceduralChunkActivationReport.Sound (c : ProceduralWorldConfig)
    (anchors : List (CreatureWorldAnchor F)) (r : ProceduralChunkActivationReport) : Prop where
  nodup : (r.activeChunks.map ProceduralActiveChunk.coord).Nodup
  cap : r.activeChunks.length ≤ c.maxActiveChunks
  placed : ∀ chunk ∈ r.activeChunks, chunk.Placed c anchors

theorem sound_activationReport (c : ProceduralWorldConfig)
    (anchors : List (CreatureWorldAnchor F)) : (activationReport c anchors).Sound c anchors := by
  set sorted := sortByKey (fun anchor => anchor.stableId.raw.toNat) anchors with hsorted
  have hs := sound_activationState c sorted
  have hperm := sortByKey_perm ProceduralActiveChunk.sortKey (activationState c sorted).active
  refine ⟨(hperm.map _).nodup_iff.2 hs.nodup, hperm.length_eq ▸ hs.cap, fun chunk hchunk => ?_⟩
  obtain ⟨hinside, a, ha, hanchored⟩ := hs.placed chunk (mem_sortByKey.1 hchunk)
  exact ⟨hinside, a, mem_sortByKey.1 ha, hanchored⟩

variable [FloatOps F]

/-- **Valid anchors activate a report**: no check fails and no operation overflows. -/
theorem activate_eq_ok (hc : c.validate = .ok ())
    (hanchors : ∀ a ∈ anchors, CreatureWorldAnchor.validate a = .ok ()) :
    activateProceduralChunksAroundCreatures c anchors = .ok (activationReport c anchors) := by
  have hreport : (activationReport c anchors).validate c = .ok () := by
    have hs := sound_activationReport c anchors
    rw [ProceduralChunkActivationReport.validate, contract_seq_eq_ok_iff, contract_seq_eq_ok_iff,
      reject_eq_ok_iff, checkDistinct_eq_ok_iff]
    refine ⟨hc, ?_, fun chunk hchunk => ?_, hs.nodup⟩
    · simpa [activationReport] using hs.cap
    · obtain ⟨-, a, ha, hid, -⟩ := hs.placed chunk hchunk
      exact hid ▸ (contract_seq_eq_ok_iff.1 (hanchors a ha)).1
  unfold activateProceduralChunksAroundCreatures
  rw [hc, contract_forM_eq_ok_iff.2 hanchors]
  have hloop : ∀ l : List (CreatureWorldAnchor F),
      l.foldlM (activateAnchor c) {} = .ok (activationState c l) :=
    fun l => foldlM_eq_ok_foldl fun s a _ => activateAnchor_eq_ok hc s a
  change (List.foldlM (activateAnchor c) _ _ >>= fun state => _) = _
  rw [hloop]
  change (lift ((activationReport c anchors).validate c) >>= fun _ => _) = _
  rw [hreport]
  rfl

/-- **The order of the anchors does not matter.** -/
theorem activate_perm {anchors' : List (CreatureWorldAnchor F)} (h : anchors'.Perm anchors)
    (hids : (anchors.map CreatureWorldAnchor.stableId).Nodup)
    (hfinite : ∀ a ∈ anchors, CreatureWorldAnchor.Finite a) :
    activateProceduralChunksAroundCreatures c anchors'
      = activateProceduralChunksAroundCreatures c anchors := by
  have hvalidate : anchors'.forM CreatureWorldAnchor.validate
      = anchors.forM CreatureWorldAnchor.validate := by
    rw [CreatureWorldAnchor.forM_validate_of_finite hfinite,
      CreatureWorldAnchor.forM_validate_of_finite fun a ha => hfinite a (h.mem_iff.1 ha)]
    simp only [h.mem_iff]
  have hsorted : sortByKey (fun anchor => anchor.stableId.raw.toNat) anchors'
      = sortByKey (fun anchor => anchor.stableId.raw.toNat) anchors := by
    have hkeys : (anchors.map fun anchor => anchor.stableId.raw.toNat).Nodup := by
      have hmap : anchors.map (fun anchor => anchor.stableId.raw.toNat)
          = (anchors.map CreatureWorldAnchor.stableId).map fun id => id.raw.toNat := by
        rw [List.map_map]
        rfl
      rw [hmap]
      refine hids.map fun id id' heq => ?_
      cases id
      cases id'
      exact congrArg _ (UInt64.toNat.inj heq)
    rw [← List.map_id (sortByKey (fun anchor => anchor.stableId.raw.toNat) anchors)]
    exact sortByKey_eq_map (fun _ _ => rfl) hkeys (by rwa [List.map_id])
  rw [activateProceduralChunksAroundCreatures, hvalidate, hsorted]
  rfl

/-- A call that returns had valid anchors, and returned their report. -/
theorem eq_activationReport (hc : c.validate = .ok ()) {r : ProceduralChunkActivationReport}
    (h : activateProceduralChunksAroundCreatures c anchors = .ok r) :
    r = activationReport c anchors := by
  cases hanchors : anchors.forM CreatureWorldAnchor.validate with
  | ok u =>
    rw [activate_eq_ok hc (contract_forM_eq_ok_iff.1 hanchors)] at h
    exact (Except.ok.inj h).symm
  | error e =>
    rw [activateProceduralChunksAroundCreatures, hc, hanchors] at h
    cases h

end Activation

end Procedural
end ALife
