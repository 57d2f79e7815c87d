/-
# Synapses spread over tiles

`deterministic_tile_pairs`
(`crates/alife_core/src/phenotype/topology_compile.rs`).  A route with `count`
synapses walks over the 16 × 16 tiles between two regions with a seeded step
that is coprime to the number of tiles, takes as few tiles as hold `count`
cells, and fills them in turn, one cell of each tile before the second cell of
any (`deterministicTilePairs_spec`).

`u32` and `u64` are natural numbers with the checks of a build that traps
overflow: no result is a panic, or a search that found no step within the fuel.
-/

import ALife.Core.CanonicalDigest
import ALife.Machine.CheckedNat
import ALife.Machine.CoprimeWalk

namespace ALife

open Machine CanonicalDigestBuilder

inductive ActiveTilePolicy where
  | essentialReservation | salienceGated | decimated | sleepQueued
  deriving DecidableEq, Repr

/-- `ActiveTilePolicy::raw`. -/
def ActiveTilePolicy.raw : ActiveTilePolicy → UInt8
  | .essentialReservation => 0
  | .salienceGated => 1
  | .decimated => 2
  | .sleepQueued => 3

/-- `(tile_start + index * tile_step) % available_tiles`. -/
def tileAt (tileStart tileStep available index : ℕ) : Option ℕ := do
  let offset ← checkedMul 64 index tileStep
  let place ← checkedAdd 64 tileStart offset
  checkedRem place available

/-- `start + tile as u32 * 16 + offset as u32`. -/
def neuronAt (start tile offset : ℕ) : Option ℕ := do
  let base ← checkedMul 32 (tile % 2 ^ 32) 16
  let corner ← checkedAdd 32 start base
  checkedAdd 32 corner (offset % 2 ^ 32)

/-- The row of one synapse. -/
def pairAt (sourceStart targetStart targetTiles tileCount : ℕ) (tiles : List ℕ) (index : ℕ) :
    Option (ℕ × ℕ) := do
  let slot ← checkedRem index tiles.length
  let tile ← tiles[slot]?
  let within ← checkedDiv index tileCount
  let sourceTile ← checkedDiv tile targetTiles
  let targetTile ← checkedRem tile targetTiles
  let source ← neuronAt sourceStart sourceTile (within / 16)
  let target ← neuronAt targetStart targetTile (within % 16)
  some (source, target)

/-- `count.div_ceil(256)`. -/
def tilesFor (count : ℕ) : ℕ := (count + 255) / 256

def deterministicTilePairs (fuel sourceStart sourceLen targetStart targetLen count : ℕ)
    (seed : UInt64) (policy : ActiveTilePolicy) : Option (List (ℕ × ℕ)) := do
  let sourceTiles := sourceLen / 16
  let targetTiles := targetLen / 16
  let available := sourceTiles * targetTiles
  let tileCount := max (tilesFor count) 1
  -- the `debug_assert`
  if available < tileCount then none
  let policySeed := seed ^^^ (policy.raw.toUInt64 <<< 56)
  let first ← checkedRem (splitmix64 policySeed).toNat available
  let tileStep ← coprimeSearch available fuel (first ||| 1)
  let tileStart ← checkedRem (splitmix64 (policySeed ^^^ 0xD1B54A32D192ED03)).toNat available
  let tiles ← (List.range tileCount).mapM (tileAt tileStart tileStep available)
  (List.range count).mapM (pairAt sourceStart targetStart targetTiles tileCount tiles)

/-- Fuel beyond what the search takes changes nothing. -/
theorem deterministicTilePairs_fuel {fuel more sourceStart sourceLen targetStart targetLen count
    step : ℕ} {seed : UInt64} {policy : ActiveTilePolicy} (hle : fuel ≤ more)
    (hstep : coprimeSearch (sourceLen / 16 * (targetLen / 16)) fuel
      ((splitmix64 (seed ^^^ (policy.raw.toUInt64 <<< 56))).toNat
        % (sourceLen / 16 * (targetLen / 16)) ||| 1) = some step) :
    deterministicTilePairs more sourceStart sourceLen targetStart targetLen count seed policy =
      deterministicTilePairs fuel sourceStart sourceLen targetStart targetLen count seed policy := by
  have hmore := coprimeSearch_mono hle hstep
  unfold deterministicTilePairs
  dsimp only
  by_cases hfew : sourceLen / 16 * (targetLen / 16) < max (tilesFor count) 1
  · rw [if_pos hfew, if_pos hfew]
    rfl
  · rw [if_neg hfew, if_neg hfew]
    simp only [checkedRem_of_pos (show 0 < sourceLen / 16 * (targetLen / 16) by omega),
      Option.bind_eq_bind, Option.bind_some, hstep, hmore]

/-- The 16 × 16 tile of a row, as the validation of a phenotype counts it. -/
def tileOf (row : ℕ × ℕ) : ℕ × ℕ := (row.1 / 16, row.2 / 16)

/-- The tiles that rows touch. -/
def touchedTiles (rows : List (ℕ × ℕ)) : Finset (ℕ × ℕ) := (rows.map tileOf).toFinset

/-- An interval of neurons made of whole tiles. -/
structure TileRegion where
  start : ℕ
  len : ℕ
  start_dvd : 16 ∣ start
  len_dvd : 16 ∣ len
  len_pos : 0 < len
  fits : start + len ≤ 2 ^ 32

namespace TileRegion

/-- The number of tiles along the region. -/
def tiles (r : TileRegion) : ℕ := r.len / 16

def Contains (r : TileRegion) (neuron : ℕ) : Prop := r.start ≤ neuron ∧ neuron < r.start + r.len

theorem len_div (r : TileRegion) : r.len / 16 = r.tiles := rfl

theorem len_eq (r : TileRegion) : r.len = 16 * r.tiles := (Nat.mul_div_cancel' r.len_dvd).symm

theorem tiles_pos (r : TileRegion) : 0 < r.tiles := by
  have := r.len_eq
  have := r.len_pos
  omega

/-- The neurons of a tile of the region. -/
theorem contains_neuron (r : TileRegion) {tile offset : ℕ} (htile : tile < r.tiles)
    (hoffset : offset < 16) : r.Contains (r.start + tile * 16 + offset) := by
  have := r.len_eq
  constructor <;> omega

theorem neuronAt_eq (r : TileRegion) {tile offset : ℕ} (htile : tile < r.tiles)
    (hoffset : offset < 16) :
    neuronAt r.start tile offset = some (r.start + tile * 16 + offset) := by
  have hlen := r.len_eq
  have hfits := r.fits
  unfold neuronAt
  rw [Nat.mod_eq_of_lt (show tile < 2 ^ 32 by omega),
    Nat.mod_eq_of_lt (show offset < 2 ^ 32 by omega)]
  rw [checkedMul_of_lt (by omega), Option.bind_eq_bind, Option.bind_some,
    checkedAdd_of_lt (by omega), Option.bind_some, checkedAdd_of_lt (by omega)]

/-- A tile of the region is one of the tiles of the brain. -/
theorem div_neuron (r : TileRegion) {tile offset : ℕ} (hoffset : offset < 16) :
    (r.start + tile * 16 + offset) / 16 = r.start / 16 + tile := by
  obtain ⟨k, hk⟩ := r.start_dvd
  omega

end TileRegion

section Rows

variable (source target : TileRegion) (start step count : ℕ)

/-- The tile of the `index`-th synapse. -/
def tileOfIndex (index : ℕ) : ℕ :=
  walk (source.tiles * target.tiles) start step (index % tilesFor count)

/-- The row of the `index`-th synapse, as a formula. -/
def rowAt (index : ℕ) : ℕ × ℕ :=
  let tile := tileOfIndex source target start step count index
  let within := index / tilesFor count
  (source.start + tile / target.tiles * 16 + within / 16,
    target.start + tile % target.tiles * 16 + within % 16)

variable {source target start step count}

theorem tileOfIndex_lt (index : ℕ) :
    tileOfIndex source target start step count index < source.tiles * target.tiles :=
  walk_lt (Nat.mul_pos source.tiles_pos target.tiles_pos)

theorem source_tile_lt (index : ℕ) :
    tileOfIndex source target start step count index / target.tiles < source.tiles :=
  Nat.div_lt_of_lt_mul (by
    rw [Nat.mul_comm]
    exact tileOfIndex_lt index)

theorem target_tile_lt (index : ℕ) :
    tileOfIndex source target start step count index % target.tiles < target.tiles :=
  Nat.mod_lt _ target.tiles_pos

theorem tilesFor_pos (hcount : 1 ≤ count) : 0 < tilesFor count := by
  unfold tilesFor
  omega

/-- A tile takes at most 256 cells. -/
theorem within_lt {index : ℕ} (hindex : index < count) : index / tilesFor count < 256 := by
  refine Nat.div_lt_of_lt_mul ?_
  unfold tilesFor
  omega

/-- No more tiles are taken than there are. -/
theorem tilesFor_le (hle : count ≤ source.len * target.len) :
    tilesFor count ≤ source.tiles * target.tiles := by
  have hcells : source.len * target.len = 256 * (source.tiles * target.tiles) := by
    rw [source.len_eq, target.len_eq]
    ring
  unfold tilesFor
  omega

theorem contains_rowAt {index : ℕ} (hindex : index < count) :
    source.Contains (rowAt source target start step count index).1 ∧
      target.Contains (rowAt source target start step count index).2 := by
  have hwithin := within_lt hindex
  exact ⟨source.contains_neuron (source_tile_lt index) (by omega),
    target.contains_neuron (target_tile_lt index) (by omega)⟩

theorem tileOf_rowAt {index : ℕ} (hindex : index < count) :
    tileOf (rowAt source target start step count index) =
      (source.start / 16 + tileOfIndex source target start step count index / target.tiles,
        target.start / 16 + tileOfIndex source target start step count index % target.tiles) := by
  have hwithin := within_lt hindex
  exact Prod.ext (source.div_neuron (by omega)) (target.div_neuron (by omega))

/-- The tile of the brain tells the tile between the regions. -/
theorem tileOfIndex_eq_of_tileOf {i j : ℕ} (hi : i < count) (hj : j < count)
    (h : tileOf (rowAt source target start step count i)
      = tileOf (rowAt source target start step count j)) :
    tileOfIndex source target start step count i = tileOfIndex source target start step count j := by
  rw [tileOf_rowAt hi, tileOf_rowAt hj, Prod.mk.injEq] at h
  have hdiv := Nat.add_left_cancel h.1
  have hmod := Nat.add_left_cancel h.2
  rw [← Nat.div_add_mod (tileOfIndex source target start step count i) target.tiles, hdiv, hmod,
    Nat.div_add_mod]

/-- **No two synapses share a cell**: their tiles differ, or their places within one. -/
theorem rowAt_injective (hstep : step.Coprime (source.tiles * target.tiles)) (hcount : 1 ≤ count)
    (hle : count ≤ source.len * target.len) {i j : ℕ} (hi : i < count) (hj : j < count)
    (h : rowAt source target start step count i = rowAt source target start step count j) :
    i = j := by
  have hpos := tilesFor_pos hcount
  have hfew := tilesFor_le hle
  have htile := tileOfIndex_eq_of_tileOf hi hj (congrArg tileOf h)
  have hslot : i % tilesFor count = j % tilesFor count :=
    walk_injective hstep ((Nat.mod_lt _ hpos).trans_le hfew) ((Nat.mod_lt _ hpos).trans_le hfew)
      htile
  have hwithin : i / tilesFor count = j / tilesFor count := by
    have hi' := within_lt hi
    have hj' := within_lt hj
    simp only [rowAt, htile, Prod.mk.injEq] at h
    omega
  rw [← Nat.div_add_mod i (tilesFor count), hwithin, hslot, Nat.div_add_mod]

/-- **The synapses touch every tile that was taken, and no other.** -/
theorem card_touchedTiles (hstep : step.Coprime (source.tiles * target.tiles)) (hcount : 1 ≤ count)
    (hle : count ≤ source.len * target.len) :
    (touchedTiles ((List.range count).map (rowAt source target start step count))).card
      = tilesFor count := by
  have hpos := tilesFor_pos hcount
  have hfew := tilesFor_le hle
  have htaken : tilesFor count ≤ count := by
    unfold tilesFor
    omega
  have hslot : ∀ i, i % tilesFor count < count := fun i => (Nat.mod_lt i hpos).trans_le htaken
  have himage : touchedTiles ((List.range count).map (rowAt source target start step count))
      = (Finset.range (tilesFor count)).image
        fun slot => tileOf (rowAt source target start step count slot) := by
    ext tile
    simp only [touchedTiles, List.map_map, List.mem_toFinset, List.mem_map, List.mem_range,
      Function.comp_apply, Finset.mem_image, Finset.mem_range]
    constructor
    · rintro ⟨i, hi, rfl⟩
      refine ⟨i % tilesFor count, Nat.mod_lt i hpos, ?_⟩
      rw [tileOf_rowAt (hslot i), tileOf_rowAt hi, tileOfIndex, tileOfIndex, Nat.mod_mod]
    · rintro ⟨slot, hlt, rfl⟩
      exact ⟨slot, hlt.trans_le htaken, rfl⟩
  rw [himage, Finset.card_image_of_injOn, Finset.card_range]
  intro i hi j hj hij
  rw [Finset.coe_range, Set.mem_Iio] at hi hj
  have htile := tileOfIndex_eq_of_tileOf (hi.trans_le htaken) (hj.trans_le htaken) hij
  rw [tileOfIndex, tileOfIndex, Nat.mod_eq_of_lt hi, Nat.mod_eq_of_lt hj] at htile
  exact walk_injective hstep (hi.trans_le hfew) (hj.trans_le hfew) htile

end Rows

section Pairs

variable (source target : TileRegion) (seed : UInt64) (policy : ActiveTilePolicy) {count fuel : ℕ}

/-- A tile of the walk is found without overflow. -/
theorem tileAt_eq {start step available index : ℕ} (hstart : start < available)
    (hstep : step ≤ available) (hindex : index < tilesFor count)
    (hfits : tilesFor count * available ≤ 2 ^ 64) :
    tileAt start step available index = some (walk available start step index) := by
  have hmul : index * step ≤ index * available := Nat.mul_le_mul_left index hstep
  have hlast : (index + 1) * available ≤ tilesFor count * available :=
    Nat.mul_le_mul_right available hindex
  rw [Nat.add_mul, Nat.one_mul] at hlast
  unfold tileAt
  rw [checkedMul_of_lt (by omega), Option.bind_eq_bind, Option.bind_some,
    checkedAdd_of_lt (by omega), Option.bind_some, checkedRem_of_pos (by omega)]
  rfl

theorem pairAt_eq {start step index : ℕ} (hcount : 1 ≤ count) (hindex : index < count) :
    pairAt source.start target.start target.tiles (tilesFor count)
        ((List.range (tilesFor count)).map (walk (source.tiles * target.tiles) start step)) index
      = some (rowAt source target start step count index) := by
  have hpos := tilesFor_pos hcount
  have hwithin := within_lt hindex
  have hslot : index % tilesFor count < tilesFor count := Nat.mod_lt _ hpos
  unfold pairAt
  rw [List.length_map, List.length_range, checkedRem_of_pos hpos, Option.bind_eq_bind,
    Option.bind_some, List.getElem?_map, List.getElem?_range hslot, Option.map_some,
    Option.bind_some, checkedDiv_of_pos hpos, Option.bind_some,
    checkedDiv_of_pos target.tiles_pos, Option.bind_some, checkedRem_of_pos target.tiles_pos,
    Option.bind_some]
  have hsource : neuronAt source.start
      (tileOfIndex source target start step count index / target.tiles)
      (index / tilesFor count / 16) = some (rowAt source target start step count index).1 :=
    source.neuronAt_eq (source_tile_lt index) (by omega)
  have htarget : neuronAt target.start
      (tileOfIndex source target start step count index % target.tiles)
      (index / tilesFor count % 16) = some (rowAt source target start step count index).2 :=
    target.neuronAt_eq (target_tile_lt index) (by omega)
  unfold tileOfIndex at hsource htarget
  rw [hsource, Option.bind_some, htarget, Option.bind_some]

/-- **What the function returns**: the rows of a walk whose step is coprime to the number
of tiles.  It does return: the search ends, no divisor is zero and nothing overflows. -/
theorem deterministicTilePairs_eq (hcount : 1 ≤ count) (hle : count ≤ source.len * target.len)
    (hfits : tilesFor count * (source.tiles * target.tiles) ≤ 2 ^ 64)
    (hfuel : source.tiles * target.tiles + 1 ≤ fuel) :
    ∃ start step, step.Coprime (source.tiles * target.tiles) ∧
      deterministicTilePairs fuel source.start source.len target.start target.len count seed policy
        = some ((List.range count).map (rowAt source target start step count)) := by
  have hpos := tilesFor_pos hcount
  have hfew := tilesFor_le hle
  have havailable : 0 < source.tiles * target.tiles := by omega
  set policySeed := seed ^^^ (policy.raw.toUInt64 <<< 56) with hseed
  obtain ⟨step, hsearch, hcoprime, -, hstep⟩ :=
    coprimeSearch_lor_one havailable hfuel (splitmix64 policySeed).toNat
  set start := (splitmix64 (policySeed ^^^ 0xD1B54A32D192ED03)).toNat
    % (source.tiles * target.tiles) with hstart
  have hstart_lt : start < source.tiles * target.tiles := Nat.mod_lt _ havailable
  refine ⟨start, step, hcoprime, ?_⟩
  have htiles : (List.range (tilesFor count)).mapM (tileAt start step (source.tiles * target.tiles))
      = some ((List.range (tilesFor count)).map (walk (source.tiles * target.tiles) start step)) :=
    mapM_eq_some_map fun index hindex =>
      tileAt_eq hstart_lt hstep (List.mem_range.1 hindex) hfits
  have hpairs := mapM_eq_some_map (l := List.range count)
    (f := pairAt source.start target.start target.tiles (tilesFor count)
      ((List.range (tilesFor count)).map (walk (source.tiles * target.tiles) start step)))
    (g := rowAt source target start step count)
    fun index hindex => pairAt_eq source target hcount (List.mem_range.1 hindex)
  unfold deterministicTilePairs
  simp only [TileRegion.len_div, max_eq_left (Nat.succ_le_of_lt hpos), ← hseed]
  rw [if_neg (by omega), checkedRem_of_pos havailable, Option.bind_eq_bind, Option.bind_some,
    hsearch, Option.bind_some, checkedRem_of_pos havailable, Option.bind_some, ← hstart, htiles]
  exact hpairs

end Pairs

end ALife
