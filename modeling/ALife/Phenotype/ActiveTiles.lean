/-
# The active tiles of a projection

`BrainPhenotype::validate_against` (`crates/alife_core/src/phenotype/record.rs`)
counts the 16 × 16 tiles that the synapses of a projection touch and compares
them with the count the compiler wrote down.  The two agree for every projection
of every genome (`activeTileCount_eq_touched`): the compiler writes
`ceil(count / 256)`, and a placement touches exactly that many tiles
(`deterministicTilePairs_spec`).  On the N2048 path a projection may be placed in
segments; they lie one behind the other along the source lobe, so that they share
no tile (`compileSegments_counts_tiles`).
-/

import ALife.Phenotype.RecurrentRoutes

namespace ALife

open Machine

/-! ## Touched tiles -/

theorem touchedTiles_perm {rows rows' : List (ℕ × ℕ)} (h : rows.Perm rows') :
    touchedTiles rows = touchedTiles rows' :=
  List.toFinset_eq_of_perm _ _ (h.map tileOf)

theorem touchedTiles_append (rows rows' : List (ℕ × ℕ)) :
    touchedTiles (rows ++ rows') = touchedTiles rows ∪ touchedTiles rows' := by
  rw [touchedTiles, List.map_append, List.toFinset_append, touchedTiles, touchedTiles]

/-- Rows before a boundary of tiles share no tile with rows behind it. -/
theorem touchedTiles_disjoint {rows rows' : List (ℕ × ℕ)} {boundary : ℕ} (hdvd : 16 ∣ boundary)
    (hbefore : ∀ row ∈ rows, row.1 < boundary) (hbehind : ∀ row ∈ rows', boundary ≤ row.1) :
    Disjoint (touchedTiles rows) (touchedTiles rows') := by
  rw [Finset.disjoint_left]
  intro tile hleft hright
  simp only [touchedTiles, List.mem_toFinset, List.mem_map] at hleft hright
  obtain ⟨row, hrow, rfl⟩ := hleft
  obtain ⟨row', hrow', htile⟩ := hright
  have hlow := hbefore row hrow
  have hhigh := hbehind row' hrow'
  have hsame : row'.1 / 16 = row.1 / 16 := congrArg Prod.fst htile
  omega

/-- **A placement** of 1 to `source.len * target.len` synapses between regions of whole tiles:
it ends, its rows are distinct and inside the regions, and they touch `ceil(count / 256)`
tiles. -/
theorem deterministicTilePairs_spec (source target : TileRegion) (seed : UInt64)
    (policy : ActiveTilePolicy) {count fuel : ℕ} (hcount : 1 ≤ count)
    (hle : count ≤ source.len * target.len)
    (hfits : tilesFor count * (source.tiles * target.tiles) ≤ 2 ^ 64)
    (hfuel : source.tiles * target.tiles + 1 ≤ fuel) :
    ∃ rows, deterministicTilePairs fuel source.start source.len target.start target.len count seed
        policy = some rows ∧ rows.length = count ∧ rows.Nodup ∧
      (∀ row ∈ rows, source.Contains row.1 ∧ target.Contains row.2) ∧
      (touchedTiles rows).card = tilesFor count := by
  obtain ⟨start, step, hstep, heq⟩ :=
    deterministicTilePairs_eq source target seed policy hcount hle hfits hfuel
  refine ⟨_, heq, by rw [List.length_map, List.length_range], ?_, ?_,
    card_touchedTiles hstep hcount hle⟩
  · refine List.Nodup.map_on (fun i hi j hj hij => ?_) List.nodup_range
    exact rowAt_injective hstep hcount hle (List.mem_range.1 hi) (List.mem_range.1 hj) hij
  · intro row hrow
    obtain ⟨index, hindex, rfl⟩ := List.mem_map.1 hrow
    exact contains_rowAt (List.mem_range.1 hindex)

/-! ## Layouts of whole tiles -/

/-- A region of whole tiles, in a brain of at most `2 ^ 20` neurons. -/
structure LobeRegion.WholeTiles (r : LobeRegion) : Prop where
  start_dvd : 16 ∣ r.start.toNat
  len_dvd : 16 ∣ r.len.toNat
  len_pos : 0 < r.len.toNat
  fits : r.start.toNat + r.len.toNat ≤ 2 ^ 20

/-- A layout whose enabled lobes are made of whole tiles. -/
def LobeLayout.Tiled (layout : LobeLayout) : Prop :=
  ∀ region ∈ layout.regions, region.enabled = true → region.WholeTiles

/-- A part of a region that is made of whole tiles itself. -/
def LobeRegion.WholeTiles.part {r : LobeRegion} (h : r.WholeTiles) {offset len : ℕ}
    (hoffset : 16 ∣ offset) (hlen : 16 ∣ len) (hpos : 0 < len)
    (hinside : offset + len ≤ r.len.toNat) : TileRegion where
  start := r.start.toNat + offset
  len := len
  start_dvd := Nat.dvd_add h.start_dvd hoffset
  len_dvd := hlen
  len_pos := hpos
  fits := by
    have := h.fits
    omega

theorem LobeRegion.WholeTiles.part_tiles_le {r : LobeRegion} (h : r.WholeTiles) {offset len : ℕ}
    (hoffset : 16 ∣ offset) (hlen : 16 ∣ len) (hpos : 0 < len)
    (hinside : offset + len ≤ r.len.toNat) : (h.part hoffset hlen hpos hinside).tiles ≤ 2 ^ 16 := by
  have := h.fits
  show len / 16 ≤ 2 ^ 16
  omega

theorem LobeLayout.Tiled.wholeTiles {layout : LobeLayout} (h : layout.Tiled) {kind : LobeKind}
    {region : LobeRegion} (hregion : layout.enabledRegion kind = some region) :
    region.WholeTiles := by
  rw [LobeLayout.enabledRegion, Option.filter_eq_some_iff] at hregion
  exact h region (List.mem_of_find?_eq_some hregion.1) hregion.2

/-- A placement between parts of two lobes: nothing overflows in a brain of at most `2 ^ 20`
neurons. -/
theorem deterministicTilePairs_part {source target : TileRegion} (hsource : source.tiles ≤ 2 ^ 16)
    (htarget : target.tiles ≤ 2 ^ 16) {seed : UInt64} {policy : ActiveTilePolicy}
    {count fuel : ℕ} {rows : List (ℕ × ℕ)} (hcount : 1 ≤ count)
    (hle : count ≤ source.len * target.len) (hfuel : 2 ^ 32 < fuel)
    (hrows : deterministicTilePairs fuel source.start source.len target.start target.len count seed
      policy = some rows) :
    rows.length = count ∧ (∀ row ∈ rows, source.Contains row.1) ∧
      (touchedTiles rows).card = tilesFor count := by
  have htiles : source.tiles * target.tiles ≤ 2 ^ 32 :=
    calc source.tiles * target.tiles ≤ 2 ^ 16 * 2 ^ 16 := Nat.mul_le_mul hsource htarget
      _ = 2 ^ 32 := by norm_num
  have hfits : tilesFor count * (source.tiles * target.tiles) ≤ 2 ^ 64 :=
    calc tilesFor count * (source.tiles * target.tiles)
        ≤ 2 ^ 32 * 2 ^ 32 := Nat.mul_le_mul ((tilesFor_le hle).trans htiles) htiles
      _ = 2 ^ 64 := by norm_num
  obtain ⟨placed, hplaced, hlength, -, hinside, hcard⟩ :=
    deterministicTilePairs_spec source target seed policy hcount hle hfits
      (show source.tiles * target.tiles + 1 ≤ fuel by omega)
  obtain rfl : placed = rows := Option.some.inj (hplaced.symm.trans hrows)
  exact ⟨hlength, fun row hrow => (hinside row hrow).1, hcard⟩

namespace Topology

/-! ## What a projection says of its tiles -/

/-- The rows of a projection. -/
def CompiledProjection.rows (p : CompiledProjection) (synapses : List CompiledSynapse) :
    List (ℕ × ℕ) :=
  ((synapses.drop p.synapseStart).take p.synapseLen).map fun s => (s.source, s.target)

/-- The count of a projection is the one that the validation recomputes. -/
def CompiledProjection.CountsTiles (p : CompiledProjection) (synapses : List CompiledSynapse) :
    Prop :=
  p.synapseStart + p.synapseLen ≤ synapses.length ∧
    (touchedTiles (p.rows synapses)).card = p.activeTileCount

/-- Every projection that was made says so. -/
def RecurrentCompilation.CountsTiles (c : RecurrentCompilation) : Prop :=
  ∀ p ∈ c.projections, p.CountsTiles c.synapses

/-- Synapses of later routes do not change what a projection touches. -/
theorem CompiledProjection.CountsTiles.append {p : CompiledProjection}
    {synapses : List CompiledSynapse} (h : p.CountsTiles synapses) (more : List CompiledSynapse) :
    p.CountsTiles (synapses ++ more) := by
  obtain ⟨hfits, hcard⟩ := h
  refine ⟨by rw [List.length_append]; omega, ?_⟩
  have hdrop : (synapses ++ more).drop p.synapseStart
      = synapses.drop p.synapseStart ++ more := List.drop_append_of_le_length (by omega)
  have hrows : p.rows (synapses ++ more) = p.rows synapses := by
    unfold rows
    rw [hdrop, List.take_append_of_le_length (by rw [List.length_drop]; omega)]
  rw [hrows, hcard]

/-- The end of a round. -/
theorem closeRoute_countsTiles {c : RecurrentCompilation} (hc : c.CountsTiles) {routeIndex : ℕ}
    {route : RoutingMask} {activeTiles : ℕ} {rows : List (ℕ × ℕ)}
    (hrows : (touchedTiles rows).card = activeTiles) :
    (closeRoute c routeIndex route activeTiles rows).CountsTiles := by
  intro p hp
  obtain hold | hnew := List.mem_append.1 hp
  · exact (hc p hold).append _
  · obtain rfl := List.mem_singleton.1 hnew
    refine ⟨by simp [closeRoute], ?_⟩
    rw [CompiledProjection.rows, closeRoute, List.drop_left, List.take_of_length_le (by simp),
      List.map_map]
    exact (congrArg (fun l => (touchedTiles l).card) (List.map_id rows)).trans hrows

theorem sortRows_perm (rows : List (ℕ × ℕ)) : (sortRows rows).Perm rows := sortByKey_perm toLex rows

/-! ## The general path -/

/-- A route gets at least one synapse and no more than it has cells. -/
theorem synapseCount_le {capacity : BrainCapacityClass} {density : SparseDensityPrior}
    {possible placed : ℕ} (hpossible : 0 < possible) :
    synapseCount capacity density possible placed ≤ possible := by
  obtain ⟨-, hunit⟩ := F32.value_mem_unit density.density.mem_unit
  have hproduct : (possible : ℚ) * density.density.raw.value ≤ possible :=
    mul_le_of_le_one_right (Nat.cast_nonneg possible) hunit
  have hceil : ⌈(possible : ℚ) * density.density.raw.value⌉₊ ≤ possible := Nat.ceil_le.2 hproduct
  unfold synapseCount saturate32
  dsimp only
  omega

/-- **A round of the general path** keeps the counts. -/
theorem compileRoute_countsTiles {genome : BrainGenome} {layout : LobeLayout}
    {capacity : BrainCapacityClass} {fuel : ℕ} {c c' : RecurrentCompilation}
    {row : (RoutingMask × SparseDensityPrior) × ℕ} (hlayout : layout.Tiled)
    (hfuel : 2 ^ 32 < fuel) (hc : c.CountsTiles)
    (h : compileRoute genome layout capacity fuel c row = .ok c') : c'.CountsTiles := by
  obtain ⟨⟨route, density⟩, routeIndex⟩ := row
  unfold compileRoute at h
  obtain ⟨source, hsource, h⟩ := except_bind_eq_ok_iff.1 h
  obtain ⟨target, htarget, h⟩ := except_bind_eq_ok_iff.1 h
  rw [getOr_eq_ok_iff] at hsource htarget
  have hsource := hlayout.wholeTiles hsource
  have htarget := hlayout.wholeTiles htarget
  obtain ⟨hcount, h⟩ := except_seq_eq_ok_iff.1 h
  obtain ⟨tileTotal, -, h⟩ := except_bind_eq_ok_iff.1 h
  obtain ⟨-, h⟩ := except_seq_eq_ok_iff.1 h
  obtain ⟨-, h⟩ := except_seq_eq_ok_iff.1 h
  obtain ⟨rows, hrows, h⟩ := except_bind_eq_ok_iff.1 h
  obtain ⟨-, h⟩ := except_seq_eq_ok_iff.1 h
  rw [failIf_eq_ok_iff] at hcount
  rw [orPanic, getOr_eq_ok_iff] at hrows
  set count := synapseCount capacity density (source.len.toNat * target.len.toNat)
    (c.synapses.length % 2 ^ 32)
  have hle : count ≤ source.len.toNat * target.len.toNat :=
    synapseCount_le (Nat.mul_pos hsource.len_pos htarget.len_pos)
  have hplaced := deterministicTilePairs_part
    (hsource.part_tiles_le (dvd_zero 16) hsource.len_dvd hsource.len_pos (Nat.zero_add _).le)
    (htarget.part_tiles_le (dvd_zero 16) htarget.len_dvd htarget.len_pos (Nat.zero_add _).le)
    (Nat.one_le_iff_ne_zero.2 hcount) hle hfuel hrows
  obtain rfl := Except.ok.inj h
  refine closeRoute_countsTiles hc ?_
  have hpos := tilesFor_pos (Nat.one_le_iff_ne_zero.2 hcount)
  rw [touchedTiles_perm (sortRows_perm rows), hplaced.2.2, max_eq_left hpos]

/-! ## The N2048 foundation -/

/-- Segments of whole tiles with room for their synapses, one behind the other along the
source lobe from `start` on. -/
def TiledSegments : ℕ → List N2048CoordinateSegmentV1 → Prop
  | _, [] => True
  | start, segment :: rest =>
    (16 ∣ start ∧ start ≤ segment.sourceOffset ∧ 16 ∣ segment.sourceOffset
      ∧ 16 ∣ segment.targetOffset ∧ 16 ∣ segment.sourceLen ∧ 16 ∣ segment.targetLen
      ∧ 0 < segment.sourceLen ∧ 0 < segment.targetLen ∧ 1 ≤ segment.synapseCount
      ∧ segment.synapseCount ≤ segment.sourceLen * segment.targetLen)
    ∧ TiledSegments (segment.sourceOffset + segment.sourceLen) rest

instance decidableTiledSegments :
    (start : ℕ) → (segments : List N2048CoordinateSegmentV1) →
      Decidable (TiledSegments start segments)
  | _, [] => isTrue trivial
  | _, segment :: rest =>
    have := decidableTiledSegments (segment.sourceOffset + segment.sourceLen) rest
    inferInstanceAs (Decidable (_ ∧ _))

/-- The tiles of segments that share none. -/
def segmentTiles (segments : List N2048CoordinateSegmentV1) : ℕ :=
  (segments.map fun segment => tilesFor segment.synapseCount).sum

/-- The segments of the foundation, and the tiles its routes are given. -/
theorem coordinateSegments_tiled : ∀ segments ∈ N2048FoundationLayoutV1.coordinateSegments,
    TiledSegments 0 segments ∧
      segmentTiles segments = max (tilesFor (segments.map (·.synapseCount)).sum) 1 := by
  decide

/-- The rows of one segment. -/
theorem compileSegment_spec {fuel : ℕ} {source target : LobeRegion} {density : SparseDensityPrior}
    {policy : ActiveTilePolicy} {rows rows' : List (ℕ × ℕ)} {segment : N2048CoordinateSegmentV1}
    {rest : List N2048CoordinateSegmentV1} {start : ℕ} (hsource : source.WholeTiles)
    (htarget : target.WholeTiles) (hfuel : 2 ^ 32 < fuel)
    (htiled : TiledSegments start (segment :: rest))
    (h : compileSegment fuel source target density policy rows segment = .ok rows') :
    ∃ placed, rows' = rows ++ placed ∧
      (∀ row ∈ placed, source.start.toNat + segment.sourceOffset ≤ row.1 ∧
        row.1 < source.start.toNat + (segment.sourceOffset + segment.sourceLen)) ∧
      (touchedTiles placed).card = tilesFor segment.synapseCount := by
  obtain ⟨⟨-, -, hsourceOffset, htargetOffset, hsourceLen, htargetLen, hsourcePos, htargetPos,
    hcount, hle⟩, -⟩ := htiled
  unfold compileSegment at h
  obtain ⟨segmentSource, hsegmentSource, h⟩ := except_bind_eq_ok_iff.1 h
  obtain ⟨segmentTarget, hsegmentTarget, h⟩ := except_bind_eq_ok_iff.1 h
  obtain ⟨hinside, h⟩ := except_seq_eq_ok_iff.1 h
  obtain ⟨placed, hplaced, h⟩ := except_bind_eq_ok_iff.1 h
  obtain rfl := Except.ok.inj h
  rw [getOr_eq_ok_iff, checkedAdd_eq_some_iff] at hsegmentSource hsegmentTarget
  obtain ⟨rfl, -⟩ := hsegmentSource
  obtain ⟨rfl, -⟩ := hsegmentTarget
  rw [failIf_eq_ok_iff] at hinside
  push Not at hinside
  rw [orPanic, getOr_eq_ok_iff] at hplaced
  have hspec := deterministicTilePairs_part
    (hsource.part_tiles_le hsourceOffset hsourceLen hsourcePos hinside.1)
    (htarget.part_tiles_le htargetOffset htargetLen htargetPos hinside.2) hcount hle hfuel hplaced
  refine ⟨sortRows placed, rfl, fun row hrow => ?_, ?_⟩
  · obtain ⟨hlow, hhigh⟩ := hspec.2.1 row ((sortRows_perm placed).mem_iff.1 hrow)
    exact ⟨hlow, by rwa [← Nat.add_assoc]⟩
  · rw [touchedTiles_perm (sortRows_perm placed), hspec.2.2]

/-- **The segments of a route** touch tiles of their own. -/
theorem compileSegments_counts_tiles {fuel : ℕ} {source target : LobeRegion}
    {density : SparseDensityPrior} {policy : ActiveTilePolicy}
    {segments : List N2048CoordinateSegmentV1} {rows rows' : List (ℕ × ℕ)} {start : ℕ}
    (hsource : source.WholeTiles) (htarget : target.WholeTiles) (hfuel : 2 ^ 32 < fuel)
    (htiled : TiledSegments start segments)
    (hrows : ∀ row ∈ rows, row.1 < source.start.toNat + start)
    (h : segments.foldlM (compileSegment fuel source target density policy) rows = .ok rows') :
    (touchedTiles rows').card = (touchedTiles rows).card + segmentTiles segments := by
  induction segments generalizing rows start with
  | nil =>
    rw [List.foldlM_nil] at h
    obtain rfl := Except.ok.inj h
    rfl
  | cons segment rest ih =>
    rw [List.foldlM_cons] at h
    obtain ⟨mid, hmid, hrest⟩ := except_bind_eq_ok_iff.1 h
    obtain ⟨placed, rfl, hplaced, hcard⟩ := compileSegment_spec hsource htarget hfuel htiled hmid
    obtain ⟨⟨hstart, hbehind, -⟩, htail⟩ := htiled
    have hdisjoint : Disjoint (touchedTiles rows) (touchedTiles placed) :=
      touchedTiles_disjoint (Nat.dvd_add hsource.start_dvd hstart) hrows fun row hrow => by
        have := (hplaced row hrow).1
        omega
    have hbound : ∀ row ∈ rows ++ placed,
        row.1 < source.start.toNat + (segment.sourceOffset + segment.sourceLen) := by
      intro row hrow
      obtain hold | hnew := List.mem_append.1 hrow
      · have := hrows row hold
        omega
      · exact (hplaced row hnew).2
    rw [ih htail hbound hrest, touchedTiles_append, Finset.card_union_of_disjoint hdisjoint, hcard,
      Nat.add_assoc]
    rfl

/-- **A round of the N2048 path** keeps the counts. -/
theorem compileN2048Route_countsTiles {genome : BrainGenome} {layout : LobeLayout}
    {capacity : BrainCapacityClass} {fuel : ℕ} {c c' : RecurrentCompilation}
    {row : N2048FoundationRouteSpec × ℕ} (hlayout : layout.Tiled) (hfuel : 2 ^ 32 < fuel)
    (hc : c.CountsTiles) (h : compileN2048Route genome layout capacity fuel c row = .ok c') :
    c'.CountsTiles := by
  obtain ⟨spec, index⟩ := row
  unfold compileN2048Route at h
  obtain ⟨mask, -, h⟩ := except_bind_eq_ok_iff.1 h
  obtain ⟨density, -, h⟩ := except_bind_eq_ok_iff.1 h
  obtain ⟨-, h⟩ := except_seq_eq_ok_iff.1 h
  obtain ⟨source, hsource, h⟩ := except_bind_eq_ok_iff.1 h
  obtain ⟨target, htarget, h⟩ := except_bind_eq_ok_iff.1 h
  obtain ⟨-, h⟩ := except_seq_eq_ok_iff.1 h
  obtain ⟨-, h⟩ := except_seq_eq_ok_iff.1 h
  obtain ⟨tileTotal, -, h⟩ := except_bind_eq_ok_iff.1 h
  obtain ⟨-, h⟩ := except_seq_eq_ok_iff.1 h
  obtain ⟨segments, hsegments, h⟩ := except_bind_eq_ok_iff.1 h
  obtain ⟨hsum, h⟩ := except_seq_eq_ok_iff.1 h
  obtain ⟨rows, hrows, h⟩ := except_bind_eq_ok_iff.1 h
  obtain ⟨-, h⟩ := except_seq_eq_ok_iff.1 h
  rw [getOr_eq_ok_iff] at hsource htarget hsegments
  rw [failIf_eq_ok_iff, not_not] at hsum
  obtain ⟨htiled, htiles⟩ := coordinateSegments_tiled segments (List.mem_of_getElem? hsegments)
  have hcard := compileSegments_counts_tiles (hlayout.wholeTiles hsource)
    (hlayout.wholeTiles htarget) hfuel htiled (fun row hrow => absurd hrow List.not_mem_nil) hrows
  obtain rfl := Except.ok.inj h
  refine closeRoute_countsTiles hc ?_
  rw [hcard, htiles, hsum]
  exact Nat.zero_add _

/-- **Every compilation counts its tiles as the validation does.** -/
theorem compileRecurrent_countsTiles {genome : BrainGenome} {layout : LobeLayout}
    {capacity : BrainCapacityClass} {fuel : ℕ} {c : RecurrentCompilation} (hlayout : layout.Tiled)
    (hfuel : 2 ^ 32 < fuel) (h : compileRecurrent genome layout capacity fuel = .ok c) :
    c.CountsTiles := by
  have hempty : RecurrentCompilation.CountsTiles ⟨[], [], [], 0⟩ :=
    fun p hp => absurd hp List.not_mem_nil
  unfold compileRecurrent at h
  obtain ⟨-, h⟩ := except_seq_eq_ok_iff.1 h
  obtain ⟨-, h⟩ := except_seq_eq_ok_iff.1 h
  split_ifs at h with hclass
  · unfold compileN2048Foundation at h
    obtain ⟨-, h⟩ := except_seq_eq_ok_iff.1 h
    obtain ⟨compiled, hcompiled, h⟩ := except_bind_eq_ok_iff.1 h
    obtain ⟨-, h⟩ := except_seq_eq_ok_iff.1 h
    obtain rfl := Except.ok.inj h
    exact foldlM_invariant
      (fun row _ t t' ht hround => compileN2048Route_countsTiles hlayout hfuel ht hround)
      hempty hcompiled
  · obtain ⟨enabled, -, h⟩ := except_bind_eq_ok_iff.1 h
    exact foldlM_invariant
      (fun row _ t t' ht hround => compileRoute_countsTiles hlayout hfuel ht hround) hempty h

/-- **The active tile count is the count of touched tiles.**  A placement between regions of
whole tiles ends, without a zero divisor, in `count` distinct rows inside the regions that
touch `ceil(count / 256)` tiles; and what the compiler writes down for a projection is what
the validation counts in its synapses. -/
theorem activeTileCount_eq_touched :
    (∀ (source target : TileRegion) (seed : UInt64) (policy : ActiveTilePolicy) (count fuel : ℕ),
      1 ≤ count → count ≤ source.len * target.len →
      tilesFor count * (source.tiles * target.tiles) ≤ 2 ^ 64 →
      source.tiles * target.tiles + 1 ≤ fuel →
      ∃ rows, deterministicTilePairs fuel source.start source.len target.start target.len count
          seed policy = some rows ∧ rows.length = count ∧ rows.Nodup ∧
        (∀ row ∈ rows, source.Contains row.1 ∧ target.Contains row.2) ∧
        (touchedTiles rows).card = tilesFor count) ∧
    ∀ (genome : BrainGenome) (layout : LobeLayout) (capacity : BrainCapacityClass) (fuel : ℕ)
      (c : RecurrentCompilation), layout.Tiled → 2 ^ 32 < fuel →
      compileRecurrent genome layout capacity fuel = .ok c →
      ∀ p ∈ c.projections, p.synapseStart + p.synapseLen ≤ c.synapses.length ∧
        (touchedTiles (p.rows c.synapses)).card = p.activeTileCount :=
  ⟨fun source target seed policy _ _ hcount hle hfits hfuel =>
      deterministicTilePairs_spec source target seed policy hcount hle hfits hfuel,
    fun _ _ _ _ _ hlayout hfuel h => compileRecurrent_countsTiles hlayout hfuel h⟩

def fullShare : NormalizedScalar := ⟨.one, by decide⟩

/-- One route of full density. -/
def sampleRouteGenome : BrainGenome where
  geneticPriorSeed := 7
  macroConnectomeMasks := [⟨⟨.perceptualIntegration, .temporalPredictive⟩, true, false⟩]
  sparseDensityPriors := [⟨⟨.perceptualIntegration, .temporalPredictive⟩, fullShare, fullShare⟩]
  alphaMask := ⟨[], [], [], []⟩
  plasticityProjections := []

def sampleRouteLayout : LobeLayout :=
  ⟨[⟨.perceptualIntegration, 0, 32, true⟩, ⟨.temporalPredictive, 32, 16, true⟩]⟩

theorem sampleRouteLayout_tiled : sampleRouteLayout.Tiled := by
  intro region hregion _
  simp only [sampleRouteLayout, List.mem_cons, List.not_mem_nil, or_false] at hregion
  obtain rfl | rfl := hregion <;> constructor <;> decide

theorem activeTileCount_eq_touched_sample :
    (∃ rows, deterministicTilePairs 3 0 32 32 16 300 7 .essentialReservation = some rows ∧
      rows.length = 300 ∧ (touchedTiles rows).card = 2) ∧
    ∃ c, compileRecurrent sampleRouteGenome sampleRouteLayout ⟨.n512, 300, 4⟩ (2 ^ 32 + 1) = .ok c ∧
      ∀ p ∈ c.projections, (touchedTiles (p.rows c.synapses)).card = p.activeTileCount := by
  constructor
  · obtain ⟨rows, hrows, hlength, -, -, hcard⟩ := activeTileCount_eq_touched.1
      ⟨0, 32, by decide, by decide, by decide, by decide⟩
      ⟨32, 16, by decide, by decide, by decide, by decide⟩ 7 .essentialReservation 300 3
      (by decide) (by decide) (by decide) (by decide)
    exact ⟨rows, hrows, hlength, hcard⟩
  · have hok : (compileRecurrent sampleRouteGenome sampleRouteLayout ⟨.n512, 300, 4⟩
        (2 ^ 32 + 1)).isOk = true := by decide +kernel
    obtain ⟨c, hc⟩ := exists_eq_ok_of_isOk hok
    exact ⟨c, hc, fun p hp => (activeTileCount_eq_touched.2 _ _ _ _ c sampleRouteLayout_tiled
      (by decide) hc p hp).2⟩

/-- Two placements that overflow whatever the fuel: a source region that ends behind the last
index, and a walk over `2 ^ 54` tiles whose last product is beyond `u64`. -/
theorem deterministicTilePairs_overflows :
    ¬∃ fuel, deterministicTilePairs fuel (2 ^ 32 - 16) 32 16 16 512 0 .essentialReservation ≠ none ∨
      deterministicTilePairs fuel 16 (2 ^ 31) 16 (2 ^ 31) (2 ^ 20) 0 .essentialReservation
        ≠ none := by
  rintro ⟨fuel, h⟩
  revert h
  rw [imp_false, not_or, not_not, not_not]
  cases fuel with
  | zero => decide +kernel
  | succ fuel =>
    have hseed : (0 : UInt64) ^^^ (ActiveTilePolicy.essentialReservation.raw.toUInt64 <<< 56)
        = 0 := by decide
    have hsmall : (coprimeSearch (32 / 16 * (16 / 16)) 1
        ((CanonicalDigestBuilder.splitmix64 0).toNat % (32 / 16 * (16 / 16)) ||| 1)).isSome
          = true := by decide +kernel
    have hlarge : (coprimeSearch (2 ^ 31 / 16 * (2 ^ 31 / 16)) 1
        ((CanonicalDigestBuilder.splitmix64 0).toNat % (2 ^ 31 / 16 * (2 ^ 31 / 16)) ||| 1)).isSome
          = true := by decide +kernel
    obtain ⟨small, hsmall⟩ := Option.isSome_iff_exists.1 hsmall
    obtain ⟨large, hlarge⟩ := Option.isSome_iff_exists.1 hlarge
    rw [← hseed] at hsmall hlarge
    rw [deterministicTilePairs_fuel (Nat.le_add_left 1 fuel) hsmall,
      deterministicTilePairs_fuel (Nat.le_add_left 1 fuel) hlarge]
    decide +kernel

end Topology

end ALife
