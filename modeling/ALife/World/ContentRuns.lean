/-
# What a place contains

What a tile contains is a function of the configuration and the tile
(`tileContent`), and so is what a chunk contains (`chunkContent`): the loop of
`generate_procedural_world_content` collects the contents of the chunks it visits
(`visitChunk_generates`) unless the cap of the report makes it skip some.

The identifier of a content is the first of its salted identifiers that no
content generated before it has taken (`ContentState.Numbered`), so it does
depend on what else is active.  As long as no two tiles share their unsalted
identifier, no salt is needed, and two runs agree (`eq_unsalted`).
-/

import ALife.World.ProceduralContent

namespace ALife
namespace Procedural

open Machine

/-- What is at a tile, apart from its identifier. -/
structure TileContent (F : Type) where
  tile : ProceduralTileCoord
  kind : ProceduralWorldContentKind
  position : Vec3f F
  radius : F
  nutrition : F
  hazardPain : F

/-- The identifier a content gets where none of its salts is needed. -/
def TileContent.unsaltedId {F : Type} (c : ProceduralWorldConfig) (x : TileContent F) : UInt64 :=
  saltedId c x.kind x.tile 0

/-- The chunk of a tile. -/
def chunkOf (c : ProceduralWorldConfig) (tile : ProceduralTileCoord) : ProceduralChunkCoord :=
  ⟨tile.x / c.chunkTileSize, tile.z / c.chunkTileSize⟩

/-- The tile of a chunk at an offset. -/
def tileAt (c : ProceduralWorldConfig) (coord : ProceduralChunkCoord) (offset : ℕ × ℕ) :
    ProceduralTileCoord :=
  ⟨coord.x * c.chunkTileSize + offset.1, coord.z * c.chunkTileSize + offset.2⟩

section Content

variable {F : Type}

/-- What a candidate puts on its tile. -/
def ProceduralWorldContentCandidate.content (k : ProceduralWorldContentCandidate F) :
    TileContent F :=
  ⟨k.tile, k.kind, k.position, k.radius, k.nutrition, k.hazardPain⟩

/-- The identifiers of candidates. -/
def rawIds (candidates : List (ProceduralWorldContentCandidate F)) : List UInt64 :=
  candidates.map fun k => k.stableId.raw

/-- A candidate has the first of its salted identifiers that is not taken. -/
def ProceduralWorldContentCandidate.FirstFree (c : ProceduralWorldConfig) (taken : List UInt64)
    (k : ProceduralWorldContentCandidate F) : Prop :=
  ((List.range 16).map (saltedId c k.kind k.tile)).find? (· ∉ taken) = some k.stableId.raw

/-- Every candidate got its identifier behind the candidates before it. -/
structure ContentState.Numbered (c : ProceduralWorldConfig) (s : ContentState F) : Prop where
  seen : s.seenIds = (rawIds s.candidates).reverse
  firstFree : ∀ pre k post, s.candidates = pre ++ k :: post → k.FirstFree c (rawIds pre)

/-- A part of the loop that skipped nothing: it appended the candidates of some contents. -/
structure Generates (c : ProceduralWorldConfig) (s s' : ContentState F)
    (contents : List (TileContent F)) : Prop where
  skipped : s.skipped = 0
  numbered : s.Numbered c → s'.Numbered c
  contents : s'.candidates.map (·.content) = s.candidates.map (·.content) ++ contents

variable {c : ProceduralWorldConfig} {s s' s'' : ContentState F}
  {contents contents' : List (TileContent F)} {chunk : ProceduralActiveChunk}

theorem Generates.refl (h : s.skipped = 0) : Generates c s s [] :=
  ⟨h, id, (List.append_nil _).symm⟩

theorem Generates.trans (h : Generates c s s' contents) (h' : Generates c s' s'' contents') :
    Generates c s s'' (contents ++ contents') :=
  ⟨h.skipped, h'.numbered ∘ h.numbered, by rw [h'.contents, h.contents, List.append_assoc]⟩

/-- A candidate is appended behind the others, with its own identifier. -/
theorem ContentState.Numbered.append (hs : s.Numbered c) {k : ProceduralWorldContentCandidate F}
    (hfree : k.FirstFree c (rawIds s.candidates)) :
    ContentState.Numbered c
      { s with candidates := s.candidates ++ [k], seenIds := k.stableId.raw :: s.seenIds } := by
  refine ⟨?_, ?_⟩
  · simp only [rawIds, List.map_append, List.reverse_append, List.map_singleton,
      List.reverse_singleton, List.singleton_append]
    exact congrArg _ hs.seen
  · refine (forall_prefix_append_singleton
      (C := fun pre (k : ProceduralWorldContentCandidate F) => k.FirstFree c (rawIds pre))).2 ?_
    exact ⟨hs.firstFree, hfree⟩

/-! ### The order of the visits -/

/-- The arithmetic of a chunk along one axis. -/
theorem ProceduralWorldConfig.Bounded.axis (hb : c.Bounded) {coord tile : ℤ}
    (hin : -c.virtualHalfExtentChunks ≤ coord ∧ coord ≤ c.virtualHalfExtentChunks)
    (hnear : |coord - tile / c.chunkTileSize| ≤ c.activationRadiusChunks) :
    (-524288 ≤ coord * c.chunkTileSize ∧ coord * c.chunkTileSize ≤ 524288)
      ∧ -1000 ≤ coord * c.chunkTileSize + c.chunkTileSize / 2 - tile
      ∧ coord * c.chunkTileSize + c.chunkTileSize / 2 - tile ≤ 1000 := by
  obtain ⟨htile_ge, htile_le, -, hradius_le, -, hextent_le⟩ := hb
  have hdivmod := Int.mul_ediv_add_emod tile c.chunkTileSize
  have hmod_nonneg := Int.emod_nonneg tile (by omega : c.chunkTileSize ≠ 0)
  have hmod_lt := Int.emod_lt_of_pos tile (by omega : 0 < c.chunkTileSize)
  obtain ⟨hnear₁, hnear₂⟩ := abs_le.1 (hnear.trans hradius_le)
  set q := tile / c.chunkTileSize with hq
  have hgap : coord * c.chunkTileSize - c.chunkTileSize * q
      = (coord - q) * c.chunkTileSize := by ring
  have hgap₁ : -640 ≤ (coord - q) * c.chunkTileSize := by nlinarith
  have hgap₂ : (coord - q) * c.chunkTileSize ≤ 640 := by nlinarith
  exact ⟨⟨by nlinarith [hin.1], by nlinarith [hin.2]⟩, by omega, by omega⟩

theorem inside_iff {coord : ProceduralChunkCoord} : chunkInVirtualExtent c coord = true ↔
    (-c.virtualHalfExtentChunks ≤ coord.x ∧ coord.x ≤ c.virtualHalfExtentChunks)
      ∧ -c.virtualHalfExtentChunks ≤ coord.z ∧ coord.z ≤ c.virtualHalfExtentChunks := by
  rw [chunkInVirtualExtent, Bool.and_eq_true, decide_eq_true_eq, decide_eq_true_eq]

theorem avoids_visitKey [RoundToI32 F] {anchors : List (CreatureWorldAnchor F)}
    (hc : c.validate = .ok ()) (hchunk : chunk.Placed c anchors) :
    Avoids .overflow (visitKey c chunk) fun _ => True := by
  have hb := c.bounded hc
  obtain ⟨hinside, a, -, -, htile, hx, hz⟩ := hchunk
  obtain ⟨hinx, hinz⟩ := inside_iff.1 hinside
  obtain ⟨hbx, hdx₁, hdx₂⟩ := hb.axis hinx hx
  obtain ⟨hbz, hdz₁, hdz₂⟩ := hb.axis hinz hz
  rw [← htile] at hdx₁ hdx₂ hdz₁ hdz₂
  have hhalf : c.chunkTileSize.tdiv 2 = c.chunkTileSize / 2 :=
    Int.tdiv_eq_ediv_of_nonneg ((by omega : (0 : ℤ) ≤ 4).trans hb.tile_ge)
  have hsize := hb.tile_ge
  have hsize' := hb.tile_le
  have hsquare : ∀ d : ℤ, -1000 ≤ d → d ≤ 1000 → 0 ≤ d * d ∧ d * d ≤ 1000000 :=
    fun d h₁ h₂ => ⟨mul_self_nonneg d, by nlinarith⟩
  obtain ⟨hxx₁, hxx₂⟩ := hsquare _ hdx₁ hdx₂
  obtain ⟨hzz₁, hzz₂⟩ := hsquare _ hdz₁ hdz₂
  unfold visitKey
  rw [hhalf]
  dsimp only
  refine (avoids_i32 (inSigned32_iff.2 (by omega))).bind fun baseX h₁ => ?_
  subst h₁
  refine (avoids_i32 (inSigned32_iff.2 (by omega))).bind fun centerX h₂ => ?_
  subst h₂
  refine (avoids_i32 (inSigned32_iff.2 (by omega))).bind fun baseZ h₃ => ?_
  subst h₃
  refine (avoids_i32 (inSigned32_iff.2 (by omega))).bind fun centerZ h₄ => ?_
  subst h₄
  refine (avoids_i32 (inSigned32_iff.2 (by omega))).bind fun dx h₅ => ?_
  subst h₅
  refine (avoids_i32 (inSigned32_iff.2 (by omega))).bind fun dz h₆ => ?_
  subst h₆
  refine (avoids_i32 (inSigned32_iff.2 (by omega))).bind fun xx h₇ => ?_
  subst h₇
  refine (avoids_i32 (inSigned32_iff.2 (by omega))).bind fun zz h₈ => ?_
  subst h₈
  exact (avoids_i32 (inSigned32_iff.2 (by omega))).bind fun _ _ => avoids_ok trivial

theorem avoids_visitOrder [RoundToI32 F] {anchors : List (CreatureWorldAnchor F)}
    (hc : c.validate = .ok ()) {chunks : List ProceduralActiveChunk}
    (hchunks : ∀ chunk ∈ chunks, chunk.Placed c anchors) :
    Avoids .overflow (visitOrder c chunks) (·.Perm chunks) := by
  unfold visitOrder
  split_ifs
  · exact avoids_ok (.refl chunks)
  refine (Avoids.mapM (R := fun chunk keyed => chunk = keyed.2) fun chunk hchunk =>
    (avoids_visitKey hc (hchunks chunk hchunk)).bind fun _ _ => avoids_ok rfl).bind
      fun keyed hkeyed => ?_
  have hrows : chunks = keyed.map Prod.snd := by
    rwa [← List.forall₂_eq_eq_eq, List.forall₂_map_right_iff]
  exact avoids_ok (hrows ▸ (sortByKey_perm Prod.fst keyed).map Prod.snd)

/-! ## Identifiers without salt -/

theorem find?_map_range {α : Type} {p : α → Bool} {f : ℕ → α} {n : ℕ} (h : p (f 0) = true) :
    ((List.range (n + 1)).map f).find? p = some (f 0) := by
  rw [List.range_succ_eq_map, List.map_cons, List.find?_cons_of_pos h]

/-- **Without a clash no salt is needed**: candidates on distinct tiles whose unsalted identifiers
are distinct have those. -/
theorem eq_unsalted {order : List (ProceduralWorldContentCandidate F)}
    (hfree : ∀ pre k post, order = pre ++ k :: post → k.FirstFree c (rawIds pre))
    (htiles : (order.map (·.tile)).Nodup)
    (hclash : ∀ k ∈ order, ∀ k' ∈ order,
      k.content.unsaltedId c = k'.content.unsaltedId c → k.tile = k'.tile) :
    ∀ k ∈ order, k.stableId.raw = k.content.unsaltedId c := by
  induction order using List.reverseRecOn with
  | nil => exact fun k hk => absurd hk List.not_mem_nil
  | append_singleton order k ih =>
    rw [List.map_append, List.map_singleton, ← List.concat_eq_append, List.nodup_concat] at htiles
    obtain ⟨hnew, htiles⟩ := htiles
    obtain ⟨hfree, hlast⟩ := (forall_prefix_append_singleton
      (C := fun pre (k : ProceduralWorldContentCandidate F) => k.FirstFree c (rawIds pre))).1 hfree
    have hbefore := ih hfree htiles fun k hk k' hk' =>
      hclash k (List.mem_append_left _ hk) k' (List.mem_append_left _ hk')
    intro k' hk'
    obtain hk' | hk' := List.mem_append.1 hk'
    · exact hbefore k' hk'
    obtain rfl := List.mem_singleton.1 hk'
    -- the unsalted identifier is free behind the others
    have hunsalted : k'.content.unsaltedId c ∉ rawIds order := by
      intro hmem
      obtain ⟨k, hk, heq⟩ := List.mem_map.1 hmem
      rw [hbefore k hk] at heq
      have htile := hclash k (List.mem_append_left _ hk) k'
        (List.mem_append_right _ (List.mem_singleton_self k')) heq
      exact hnew (List.mem_map.2 ⟨k, hk, htile⟩)
    have hfirst : k'.FirstFree c (rawIds order) := hlast
    have hzero := find?_map_range (p := fun raw => decide (raw ∉ rawIds order))
      (f := saltedId c k'.kind k'.tile) (n := 15) (decide_eq_true hunsalted)
    exact Option.some.inj (hfirst.symm.trans hzero)

/-! ## The content of the visits -/

variable [FloatOps F]

/-- The content of a kind on a tile. -/
def contentOfKind (c : ProceduralWorldConfig) (tile : ProceduralTileCoord)
    (kind : ProceduralWorldContentKind) : TileContent F :=
  let effects := kind.effects (F := F) (contentHash c tile)
  { tile
    kind
    position := contentPosition tile (contentHash c tile)
    radius := effects.1
    nutrition := minNumber effects.2.1 (literal 95 100)
    hazardPain := minNumber effects.2.2 (literal 95 100) }

/-- The content of a tile. -/
def tileContent (F : Type) [FloatOps F] (c : ProceduralWorldConfig) (tile : ProceduralTileCoord) :
    Option (TileContent F) :=
  match sampleProceduralTerrainTile F c tile with
  | .ok sample => (proceduralContentKindForSample sample (contentHash c tile)).map
      (contentOfKind c tile)
  | .error _ => none

/-- The content of a chunk: the first 48 contents of its tiles. -/
def chunkContent (F : Type) [FloatOps F] (c : ProceduralWorldConfig)
    (coord : ProceduralChunkCoord) : List (TileContent F) :=
  ((tileOffsets c).filterMap fun offset => tileContent F c (tileAt c coord offset)).take
    defaultMaxContentCandidatesPerChunk

theorem lift_eq_ok_iff {α : Type} {x : Contract α} {a : α} : lift x = .ok a ↔ x = .ok a := by
  cases x with
  | ok b => exact ⟨fun h => congrArg _ (Except.ok.inj h), fun h => congrArg _ (Except.ok.inj h)⟩
  | error e => exact ⟨nofun, nofun⟩

theorem i32_eq_ok_iff {v w : ℤ} : i32 v = .ok w ↔ InSigned 32 v ∧ v = w := by
  unfold i32 checked
  split_ifs with h
  · exact ⟨fun he => ⟨h, Except.ok.inj he⟩, fun he => congrArg _ he.2⟩
  · exact ⟨nofun, fun he => absurd he.1 h⟩

theorem proceduralWorldContentCandidate_eq_ok {id : WorldEntityId}
    {kind : ProceduralWorldContentKind} {sample : ProceduralTerrainSample F} {hash : UInt32}
    {k : ProceduralWorldContentCandidate F}
    (h : proceduralWorldContentCandidate id kind sample chunk hash = .ok k)
    (hhash : hash = contentHash c sample.tile) :
    k.stableId = id ∧ k.content = contentOfKind c sample.tile kind := by
  unfold proceduralWorldContentCandidate at h
  obtain ⟨-, h⟩ := contract_check_eq_ok_iff.1 h
  obtain rfl := Except.ok.inj h
  exact ⟨rfl, hhash ▸ rfl⟩

theorem proceduralContentStableId_eq_ok {kind : ProceduralWorldContentKind}
    {tile : ProceduralTileCoord} {seen seen' : List UInt64} {id : WorldEntityId}
    (h : proceduralContentStableId c kind tile seen = .ok (id, seen')) :
    ((List.range 16).map (saltedId c kind tile)).find? (· ∉ seen) = some id.raw
      ∧ seen' = id.raw :: seen := by
  unfold proceduralContentStableId at h
  cases hfind : ((List.range 16).map (saltedId c kind tile)).find? (· ∉ seen) with
  | none =>
    rw [hfind] at h
    cases h
  | some raw =>
    rw [hfind] at h
    obtain ⟨-, h⟩ := contract_check_eq_ok_iff.1 h
    obtain ⟨rfl, rfl⟩ := Prod.mk.inj (Except.ok.inj h)
    exact ⟨rfl, rfl⟩

theorem addContent_generates {sample : ProceduralTerrainSample F}
    {kind : ProceduralWorldContentKind} {n n' : ℕ}
    (h : addContent c chunk sample kind s n = .ok (s', n')) (hskip : s'.skipped = 0) :
    Generates c s s' [contentOfKind c sample.tile kind] ∧ n' = n + 1 := by
  unfold addContent at h
  split_ifs at h with hcap
  · -- the skip is counted
    obtain ⟨rfl, rfl⟩ := Prod.mk.inj (Except.ok.inj h)
    have hcount := congrArg UInt64.toNat hskip
    rw [toNat_saturatingAdd64] at hcount
    have hone : (1 : UInt64).toNat = 1 := rfl
    have hzero : (0 : UInt64).toNat = 0 := rfl
    omega
  · obtain ⟨⟨id, seen⟩, hid, h⟩ := except_bind_eq_ok_iff.1 h
    obtain ⟨k, hk, h⟩ := except_bind_eq_ok_iff.1 h
    obtain ⟨-, -, h⟩ := except_bind_eq_ok_iff.1 h
    obtain ⟨rfl, rfl⟩ := Prod.mk.inj (Except.ok.inj h)
    obtain ⟨hfind, rfl⟩ := proceduralContentStableId_eq_ok (lift_eq_ok_iff.1 hid)
    obtain ⟨rfl, hcontent⟩ := proceduralWorldContentCandidate_eq_ok (lift_eq_ok_iff.1 hk) rfl
    refine ⟨⟨hskip, fun hs => hs.append ?_, ?_⟩, rfl⟩
    · have hkind : k.kind = kind := congrArg TileContent.kind hcontent
      have htile : k.tile = sample.tile := congrArg TileContent.tile hcontent
      rw [ProceduralWorldContentCandidate.FirstFree, hkind, htile, ← hfind, hs.seen]
      simp only [List.mem_reverse]
    · simp only [List.map_append, List.map_singleton, hcontent]

/-- The contents that the visit of a tile adds behind `n` others of its chunk. -/
def visited (F : Type) [FloatOps F] (c : ProceduralWorldConfig) (n : ℕ)
    (tiles : List ProceduralTileCoord) : List (TileContent F) :=
  (tiles.filterMap (tileContent F c)).take (defaultMaxContentCandidatesPerChunk - n)

theorem visitTile_generates (hc : c.validate = .ok ()) {baseX baseZ : ℤ} {offset : ℕ × ℕ}
    {n n' : ℕ} (h : visitTile c chunk baseX baseZ (s, n) offset = .ok (s', n'))
    (hskip : s'.skipped = 0) :
    Generates c s s' (visited F c n [⟨baseX + offset.1, baseZ + offset.2⟩])
      ∧ n' = n + (visited F c n [⟨baseX + offset.1, baseZ + offset.2⟩]).length := by
  unfold visitTile at h
  split_ifs at h with hfull
  · obtain ⟨rfl, rfl⟩ := Prod.mk.inj (Except.ok.inj h)
    rw [visited, Nat.sub_eq_zero_of_le hfull, List.take_zero]
    exact ⟨.refl hskip, rfl⟩
  · obtain ⟨x, hx, h⟩ := except_bind_eq_ok_iff.1 h
    obtain ⟨z, hz, h⟩ := except_bind_eq_ok_iff.1 h
    obtain ⟨sample, hsample, h⟩ := except_bind_eq_ok_iff.1 h
    obtain ⟨hx₃₂, rfl⟩ := i32_eq_ok_iff.1 hx
    obtain ⟨hz₃₂, rfl⟩ := i32_eq_ok_iff.1 hz
    have havoids : Avoids .overflow (sampleProceduralTerrainTile F c
        ⟨baseX + offset.1, baseZ + offset.2⟩) _ := avoids_sample F hc hx₃₂ hz₃₂
    have htile := (havoids.of_eq_ok hsample).1
    obtain ⟨room, hroom⟩ : ∃ room, defaultMaxContentCandidatesPerChunk - n = room + 1 :=
      ⟨defaultMaxContentCandidatesPerChunk - n - 1, by omega⟩
    cases hkind : proceduralContentKindForSample sample
        (contentHash c ⟨baseX + offset.1, baseZ + offset.2⟩) with
    | none =>
      rw [hkind] at h
      obtain ⟨rfl, rfl⟩ := Prod.mk.inj (Except.ok.inj h)
      have hnone : tileContent F c ⟨baseX + offset.1, baseZ + offset.2⟩ = none := by
        rw [tileContent, hsample]
        dsimp only
        rw [hkind]
        rfl
      rw [visited, List.filterMap_cons_none hnone, List.filterMap_nil, List.take_nil]
      exact ⟨.refl hskip, rfl⟩
    | some kind =>
      rw [hkind] at h
      have hsome : tileContent F c ⟨baseX + offset.1, baseZ + offset.2⟩
          = some (contentOfKind c sample.tile kind) := by
        rw [tileContent, hsample, htile]
        dsimp only
        rw [hkind]
        rfl
      rw [visited, List.filterMap_cons_some hsome, List.filterMap_nil, hroom, List.take_succ_cons,
        List.take_nil]
      exact addContent_generates h hskip

theorem visited_cons (n : ℕ) (tile : ProceduralTileCoord) (tiles : List ProceduralTileCoord) :
    visited F c n (tile :: tiles)
      = visited F c n [tile] ++ visited F c (n + (visited F c n [tile]).length) tiles := by
  unfold visited
  cases hcontent : tileContent F c tile with
  | none =>
    rw [List.filterMap_cons_none hcontent, List.filterMap_cons_none hcontent, List.filterMap_nil,
      List.take_nil, List.nil_append]
    rfl
  | some x =>
    rw [List.filterMap_cons_some hcontent, List.filterMap_cons_some hcontent, List.filterMap_nil]
    cases hroom : defaultMaxContentCandidatesPerChunk - n with
    | zero =>
      rw [List.take_zero, List.take_zero, List.nil_append]
      exact (List.take_eq_nil_iff.2 (.inl hroom)).symm
    | succ room =>
      have hrest : defaultMaxContentCandidatesPerChunk - (n + 1) = room := by omega
      rw [List.take_succ_cons, List.take_succ_cons, List.take_nil, List.length_singleton, hrest]
      rfl

theorem visitTiles_generates (hc : c.validate = .ok ()) {baseX baseZ : ℤ}
    {offsets : List (ℕ × ℕ)} {n n' : ℕ}
    (h : offsets.foldlM (visitTile c chunk baseX baseZ) (s, n) = .ok (s', n'))
    (hskip : s'.skipped = 0) :
    Generates c s s' (visited F c n (offsets.map fun o => ⟨baseX + o.1, baseZ + o.2⟩)) := by
  induction offsets generalizing s n with
  | nil =>
    obtain ⟨rfl, rfl⟩ := Prod.mk.inj (Except.ok.inj h)
    rw [List.map_nil, visited, List.filterMap_nil, List.take_nil]
    exact .refl hskip
  | cons o offsets ih =>
    rw [List.foldlM_cons] at h
    obtain ⟨⟨t, m⟩, hround, hrest⟩ := except_bind_eq_ok_iff.1 h
    have hlater := ih hrest
    obtain ⟨hfirst, rfl⟩ := visitTile_generates hc hround hlater.skipped
    rw [List.map_cons, visited_cons]
    exact hfirst.trans hlater

theorem visitChunk_generates (hc : c.validate = .ok ()) (h : visitChunk c s chunk = .ok s')
    (hskip : s'.skipped = 0) : Generates c s s' (chunkContent F c chunk.coord) := by
  obtain ⟨baseX, hx, hrows⟩ := except_bind_eq_ok_iff.1 h
  obtain ⟨-, rfl⟩ := i32_eq_ok_iff.1 hx
  obtain ⟨baseZ, hz, htiles⟩ := except_bind_eq_ok_iff.1 hrows
  obtain ⟨-, rfl⟩ := i32_eq_ok_iff.1 hz
  obtain ⟨⟨t, n⟩, hloop, hend⟩ := except_bind_eq_ok_iff.1 htiles
  obtain rfl := Except.ok.inj hend
  have hrun := visitTiles_generates hc hloop hskip
  rwa [visited, List.filterMap_map] at hrun

/-- **The loop over the chunks collects their contents**, when it skips none. -/
theorem visitChunks_generates (hc : c.validate = .ok ()) {chunks : List ProceduralActiveChunk}
    (h : chunks.foldlM (visitChunk c) s = .ok s') (hskip : s'.skipped = 0) :
    Generates c s s' (chunks.flatMap fun chunk => chunkContent F c chunk.coord) := by
  induction chunks generalizing s with
  | nil =>
    obtain rfl := Except.ok.inj h
    exact .refl hskip
  | cons chunk chunks ih =>
    rw [List.foldlM_cons] at h
    obtain ⟨t, hround, hrest⟩ := except_bind_eq_ok_iff.1 h
    have hlater := ih hrest
    rw [List.flatMap_cons]
    exact (visitChunk_generates hc hround hlater.skipped).trans hlater

/-! ## No operation overflows -/

theorem avoids_visitTile (hc : c.validate = .ok ()) {baseX baseZ : ℤ}
    (hx : -524288 ≤ baseX ∧ baseX ≤ 524288) (hz : -524288 ≤ baseZ ∧ baseZ ≤ 524288)
    (run : ContentState F × ℕ) {offset : ℕ × ℕ} (hoffset : offset.1 < 64 ∧ offset.2 < 64) :
    Avoids .overflow (visitTile c chunk baseX baseZ run offset) fun _ => True := by
  have hx₃₂ : InSigned 32 (baseX + offset.1) := inSigned32_iff.2 (by omega)
  have hz₃₂ : InSigned 32 (baseZ + offset.2) := inSigned32_iff.2 (by omega)
  unfold visitTile
  split_ifs
  · exact avoids_ok trivial
  refine (avoids_i32 hx₃₂).bind fun x hx => (avoids_i32 hz₃₂).bind fun z hz => ?_
  subst hx hz
  refine (avoids_sample F hc hx₃₂ hz₃₂).bind fun sample _ => ?_
  cases proceduralContentKindForSample sample _ with
  | none => exact avoids_ok trivial
  | some kind =>
    dsimp only
    unfold addContent
    split_ifs
    · exact avoids_ok trivial
    refine (avoids_lift fun _ _ => trivial).bind fun ⟨id, seen⟩ _ => ?_
    refine (avoids_lift fun _ _ => trivial).bind fun k _ => ?_
    exact (avoids_lift fun _ _ => trivial).bind fun _ _ => avoids_ok trivial

theorem mem_tileOffsets {offset : ℕ × ℕ} : offset ∈ tileOffsets c ↔
    offset.1 < c.chunkTileSize.toNat ∧ offset.2 < c.chunkTileSize.toNat := by
  simp only [tileOffsets, List.mem_flatMap, List.mem_map, List.mem_range]
  constructor
  · rintro ⟨dz, hdz, dx, hdx, rfl⟩
    exact ⟨hdx, hdz⟩
  · rintro ⟨hdx, hdz⟩
    exact ⟨offset.2, hdz, offset.1, hdx, rfl⟩

variable [RoundToI32 F] {anchors : List (CreatureWorldAnchor F)}

theorem avoids_visitChunk (hc : c.validate = .ok ()) (hchunk : chunk.Placed c anchors)
    (s : ContentState F) : Avoids .overflow (visitChunk c s chunk) fun _ => True := by
  have hb := c.bounded hc
  obtain ⟨hinside, a, -, -, -, hx, hz⟩ := hchunk
  obtain ⟨hinx, hinz⟩ := inside_iff.1 hinside
  have hbx := (hb.axis hinx hx).1
  have hbz := (hb.axis hinz hz).1
  refine (avoids_i32 (inSigned32_iff.2 (by omega))).bind fun baseX hbaseX => ?_
  refine (avoids_i32 (inSigned32_iff.2 (by omega))).bind fun baseZ hbaseZ => ?_
  subst hbaseX hbaseZ
  refine (Avoids.foldlM (I := fun _ => True) trivial fun run _ offset hoffset => ?_).bind
    fun run _ => avoids_ok trivial
  obtain ⟨ho₁, ho₂⟩ := mem_tileOffsets.1 hoffset
  have htile := hb.tile_le
  exact avoids_visitTile hc hbx hbz run (by omega)

/-- **Generating the content of an activation overflows nowhere.** -/
theorem avoids_generate (hc : c.validate = .ok ()) {r : ProceduralChunkActivationReport}
    (hr : r.Sound c anchors) :
    Avoids .overflow (generateProceduralWorldContent F c r) fun _ => True := by
  refine (avoids_lift fun _ _ => trivial).bind fun _ _ => ?_
  refine (avoids_lift fun _ _ => trivial).bind fun _ _ => ?_
  refine (avoids_visitOrder hc hr.placed).bind fun chunks hchunks => ?_
  refine (Avoids.foldlM (I := fun _ => True) trivial fun s _ chunk hchunk =>
    avoids_visitChunk hc (hr.placed chunk (hchunks.mem_iff.1 hchunk)) s).bind fun s _ => ?_
  exact (avoids_lift fun _ _ => trivial).bind fun _ _ => avoids_ok trivial

/-! ## A place and its content -/

omit [RoundToI32 F]

theorem chunkOf_tileAt (hb : c.Bounded) {coord : ProceduralChunkCoord} {offset : ℕ × ℕ}
    (hoffset : offset ∈ tileOffsets c) : chunkOf c (tileAt c coord offset) = coord := by
  obtain ⟨hx, hz⟩ := mem_tileOffsets.1 hoffset
  have hsize := hb.tile_ge
  have haxis : ∀ (v : ℤ) (o : ℕ), o < c.chunkTileSize.toNat →
      (v * c.chunkTileSize + o) / c.chunkTileSize = v := by
    intro v o ho
    rw [add_comm, Int.add_mul_ediv_right _ _ (by omega),
      Int.ediv_eq_zero_of_lt (by omega) (by omega), zero_add]
  rw [chunkOf, tileAt, haxis _ _ hx, haxis _ _ hz]

theorem nodup_tileOffsets (c : ProceduralWorldConfig) : (tileOffsets c).Nodup := by
  refine List.nodup_flatMap.2 ⟨fun dz _ => List.nodup_range.map fun a b h => ?_, ?_⟩
  · exact (Prod.mk.inj h).1
  · refine List.nodup_range.imp fun {a b} hne => ?_
    refine List.disjoint_left.2 fun o ho ho' => hne ?_
    obtain ⟨_, -, rfl⟩ := List.mem_map.1 ho
    obtain ⟨_, -, heq⟩ := List.mem_map.1 ho'
    exact (Prod.mk.inj heq).2.symm

theorem tileAt_injective (c : ProceduralWorldConfig) (coord : ProceduralChunkCoord) :
    Function.Injective (tileAt c coord) := by
  intro o o' h
  obtain ⟨hx, hz⟩ := ProceduralTileCoord.mk.inj h
  exact Prod.ext (by omega) (by omega)

theorem eq_contentOfKind {tile : ProceduralTileCoord} {x : TileContent F}
    (h : tileContent F c tile = some x) : ∃ kind, x = contentOfKind c tile kind := by
  unfold tileContent at h
  cases hsample : sampleProceduralTerrainTile F c tile with
  | error e =>
    rw [hsample] at h
    cases h
  | ok sample =>
    rw [hsample] at h
    obtain ⟨kind, -, rfl⟩ := Option.map_eq_some_iff.1 h
    exact ⟨kind, rfl⟩

theorem tile_eq {tile : ProceduralTileCoord} {x : TileContent F}
    (h : tileContent F c tile = some x) : x.tile = tile := by
  obtain ⟨kind, rfl⟩ := eq_contentOfKind h
  rfl

/-- A content of a chunk is that of its own tile, and its tile lies in the chunk. -/
theorem of_mem_chunkContent (hb : c.Bounded) {coord : ProceduralChunkCoord} {x : TileContent F}
    (h : x ∈ chunkContent F c coord) :
    tileContent F c x.tile = some x ∧ chunkOf c x.tile = coord := by
  obtain ⟨o, ho, hx⟩ := List.mem_filterMap.1 (List.mem_of_mem_take h)
  rw [tile_eq hx]
  exact ⟨hx, chunkOf_tileAt hb ho⟩

theorem nodup_tiles_chunkContent (c : ProceduralWorldConfig) (coord : ProceduralChunkCoord) :
    ((chunkContent F c coord).map TileContent.tile).Nodup := by
  have htiles : (((tileOffsets c).filterMap fun offset =>
      tileContent F c (tileAt c coord offset)).map TileContent.tile).Nodup := by
    rw [List.map_filterMap]
    refine (nodup_tileOffsets c).filterMap fun o o' tile h h' => tileAt_injective c coord ?_
    obtain ⟨x, hx, rfl⟩ := Option.map_eq_some_iff.1 h
    obtain ⟨x', hx', heq⟩ := Option.map_eq_some_iff.1 h'
    rw [← tile_eq hx, ← tile_eq hx', heq]
  exact htiles.sublist ((List.take_sublist _ _).map _)

/-- The contents of chunks at distinct coordinates lie on distinct tiles. -/
theorem nodup_tiles_flatMap (hb : c.Bounded) {chunks : List ProceduralActiveChunk}
    (hchunks : (chunks.map ProceduralActiveChunk.coord).Nodup) :
    ((chunks.flatMap fun chunk => chunkContent F c chunk.coord).map TileContent.tile).Nodup := by
  rw [List.map_flatMap]
  refine List.nodup_flatMap.2 ⟨fun chunk _ => nodup_tiles_chunkContent c chunk.coord, ?_⟩
  refine (List.pairwise_map.1 hchunks).imp fun {chunk chunk'} hne => ?_
  refine List.disjoint_left.2 fun tile htile htile' => hne ?_
  obtain ⟨x, hx, rfl⟩ := List.mem_map.1 htile
  obtain ⟨x', hx', heq⟩ := List.mem_map.1 htile'
  rw [← (of_mem_chunkContent hb hx).2, ← (of_mem_chunkContent hb hx').2, heq]

end Content

end Procedural
end ALife
