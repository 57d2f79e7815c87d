/-
# Content and its place

Two runs of `generate_procedural_world_content` for one configuration, side by
side.  A tile that is active in both contains the same in both
(`ContentRun.mem_contents_of_activates`).  Its identifier need not be the same:
tiles whose coordinates are odd have the unsalted identifier of their mirror
image (`saltedId_mirror`), so one of the two is salted when both are active.
`content_belongs_to_place` says what a place determines, and when its identifier
belongs to it as well.
-/

import ALife.World.ContentRuns

namespace ALife
namespace Procedural

open Machine

section Content

variable {F : Type} [FloatOps F] {c : ProceduralWorldConfig}

/-- An activation and its content, none of which was skipped. -/
structure ContentRun [RoundToI32 F] (c : ProceduralWorldConfig)
    (anchors : List (CreatureWorldAnchor F)) (r : ProceduralChunkActivationReport)
    (g : ProceduralWorldContentReport F) : Prop where
  activated : activateProceduralChunksAroundCreatures c anchors = .ok r
  generated : generateProceduralWorldContent F c r = .ok g
  complete : g.skippedDueToCap = 0

/-- The contents of a report. -/
def ProceduralWorldContentReport.contents (g : ProceduralWorldContentReport F) :
    List (TileContent F) :=
  g.candidates.map (·.content)

/-- A chunk of the report holds the tile. -/
def ProceduralChunkActivationReport.Activates (r : ProceduralChunkActivationReport)
    (c : ProceduralWorldConfig) (tile : ProceduralTileCoord) : Prop :=
  ∃ chunk ∈ r.activeChunks, chunk.coord = chunkOf c tile

/-- Contents of different tiles have different identifiers where no salt is needed. -/
def NoClash (c : ProceduralWorldConfig) (contents : List (TileContent F)) : Prop :=
  ∀ x ∈ contents, ∀ y ∈ contents, x.unsaltedId c = y.unsaltedId c → x.tile = y.tile

/-- What a generation that returns went through. -/
theorem generate_eq_ok {r : ProceduralChunkActivationReport} {g : ProceduralWorldContentReport F}
    (h : generateProceduralWorldContent F c r = .ok g) :
    ∃ chunks s, visitOrder c r.activeChunks = .ok chunks
      ∧ chunks.foldlM (visitChunk (F := F) c) {} = .ok s ∧ g.validate c = .ok ()
      ∧ g.candidates = sortByKey (fun k => k.stableId.raw.toNat) s.candidates
      ∧ g.skippedDueToCap = s.skipped := by
  obtain ⟨-, -, hrun⟩ := except_bind_eq_ok_iff.1 h
  obtain ⟨-, -, hrun⟩ := except_bind_eq_ok_iff.1 hrun
  obtain ⟨chunks, horder, hrun⟩ := except_bind_eq_ok_iff.1 hrun
  obtain ⟨s, hloop, hrun⟩ := except_bind_eq_ok_iff.1 hrun
  obtain ⟨u, hvalidate, hrun⟩ := except_bind_eq_ok_iff.1 hrun
  obtain rfl := Except.ok.inj hrun
  exact ⟨chunks, s, horder, hloop, lift_eq_ok_iff.1 hvalidate, rfl, rfl⟩

namespace ContentRun

variable [RoundToI32 F] {anchors : List (CreatureWorldAnchor F)}
  {r : ProceduralChunkActivationReport} {g : ProceduralWorldContentReport F}

/-- The candidates in the order in which they were generated. -/
theorem exists_order (hc : c.validate = .ok ()) (h : ContentRun c anchors r g) :
    ∃ order : List (ProceduralWorldContentCandidate F), order.Perm g.candidates
      ∧ (∀ pre k post, order = pre ++ k :: post → k.FirstFree c (rawIds pre))
      ∧ ∃ chunks : List ProceduralActiveChunk, chunks.Perm r.activeChunks ∧
        order.map (·.content) = chunks.flatMap fun chunk => chunkContent F c chunk.coord := by
  have hsound : r.Sound c anchors := eq_activationReport hc h.activated ▸ sound_activationReport c _
  obtain ⟨chunks, s, horder, hloop, -, hcandidates, hskipped⟩ := generate_eq_ok h.generated
  have hgenerates := visitChunks_generates hc hloop (hskipped ▸ h.complete)
  have hnumbered := hgenerates.numbered ⟨rfl, fun pre k post he => by simp at he⟩
  refine ⟨s.candidates, ?_, hnumbered.firstFree, chunks,
    (avoids_visitOrder hc hsound.placed).of_eq_ok horder, hgenerates.contents⟩
  rw [hcandidates]
  exact (sortByKey_perm _ _).symm

/-- **What a run contains**: the contents of its active chunks. -/
theorem mem_contents (hc : c.validate = .ok ()) (h : ContentRun c anchors r g)
    {x : TileContent F} :
    x ∈ g.contents ↔ ∃ chunk ∈ r.activeChunks, x ∈ chunkContent F c chunk.coord := by
  obtain ⟨order, hperm, -, chunks, hchunks, hcontents⟩ := h.exists_order hc
  have hmem := (hperm.map (·.content)).mem_iff (a := x)
  rw [hcontents, List.mem_flatMap] at hmem
  simp only [hchunks.mem_iff] at hmem
  exact hmem.symm

/-- On a tile that the run activates, there is what its chunk has there. -/
theorem mem_contents_of_activates (hc : c.validate = .ok ()) (h : ContentRun c anchors r g)
    {x : TileContent F} (hactive : r.Activates c x.tile) :
    x ∈ g.contents ↔ x ∈ chunkContent F c (chunkOf c x.tile) := by
  rw [h.mem_contents hc]
  constructor
  · rintro ⟨chunk, -, hx⟩
    rwa [(of_mem_chunkContent (c.bounded hc) hx).2]
  · intro hx
    obtain ⟨chunk, hchunk, hcoord⟩ := hactive
    exact ⟨chunk, hchunk, hcoord ▸ hx⟩

theorem nodup_tiles (hc : c.validate = .ok ()) (h : ContentRun c anchors r g) :
    (g.candidates.map (·.tile)).Nodup := by
  have hsound : r.Sound c anchors := eq_activationReport hc h.activated ▸ sound_activationReport c _
  obtain ⟨order, hperm, -, chunks, hchunks, hcontents⟩ := h.exists_order hc
  have hnodup := nodup_tiles_flatMap (F := F) (c.bounded hc)
    ((hchunks.map ProceduralActiveChunk.coord).nodup_iff.2 hsound.nodup)
  rw [← hcontents, List.map_map] at hnodup
  exact (hperm.map _).nodup_iff.1 hnodup

theorem nodup_ids (h : ContentRun c anchors r g) :
    (g.candidates.map (·.stableId.raw)).Nodup := by
  obtain ⟨chunks, s, -, -, hvalid, -, -⟩ := generate_eq_ok h.generated
  rw [ProceduralWorldContentReport.validate, contract_seq_eq_ok_iff, contract_seq_eq_ok_iff,
    checkDistinct_eq_ok_iff] at hvalid
  exact hvalid.2.2.2

/-- Every identifier is one of the sixteen of its tile. -/
theorem exists_salt (hc : c.validate = .ok ()) (h : ContentRun c anchors r g)
    {k : ProceduralWorldContentCandidate F} (hk : k ∈ g.candidates) :
    ∃ salt < 16, k.stableId.raw = saltedId c k.kind k.tile salt := by
  obtain ⟨order, hperm, hfree, -⟩ := h.exists_order hc
  obtain ⟨pre, post, he⟩ := List.append_of_mem (hperm.mem_iff.2 hk)
  obtain ⟨salt, hsalt, heq⟩ := List.mem_map.1 (List.mem_of_find?_eq_some (hfree pre k post he))
  exact ⟨salt, List.mem_range.1 hsalt, heq.symm⟩

/-- Where no two of its tiles clash, a run salts no identifier. -/
theorem unsalted (hc : c.validate = .ok ()) (h : ContentRun c anchors r g)
    (hclash : NoClash c g.contents) :
    ∀ k ∈ g.candidates, k.stableId.raw = k.content.unsaltedId c := by
  obtain ⟨order, hperm, hfree, -⟩ := h.exists_order hc
  have htiles : (order.map (·.tile)).Nodup := (hperm.map _).nodup_iff.2 (h.nodup_tiles hc)
  intro k hk
  refine eq_unsalted hfree htiles (fun k hk k' hk' => ?_) k (hperm.mem_iff.2 hk)
  exact hclash _ (List.mem_map_of_mem (hperm.mem_iff.1 hk)) _
    (List.mem_map_of_mem (hperm.mem_iff.1 hk'))

end ContentRun

/-- Tiles with odd coordinates share their identifiers with their mirror images. -/
theorem saltedId_mirror (c : ProceduralWorldConfig) (kind : ProceduralWorldContentKind) {x z : ℤ}
    (hx : x % 2 = 1) (hz : z % 2 = 1) (salt : ℕ) :
    saltedId c kind ⟨-x, -z⟩ salt = saltedId c kind ⟨x, z⟩ salt := by
  unfold saltedId
  rw [seededHash_mirror _ hx hz]

instance (c : ProceduralWorldConfig) (contents : List (TileContent F)) :
    Decidable (NoClash c contents) :=
  inferInstanceAs (Decidable (∀ x ∈ contents, ∀ y ∈ contents, _ → _))

/-- An activation overflows nowhere. -/
theorem activate_ne_overflow [RoundToI32 F] (hc : c.validate = .ok ())
    {anchors : List (CreatureWorldAnchor F)} :
    activateProceduralChunksAroundCreatures c anchors ≠ .error .overflow := by
  cases hanchors : anchors.forM CreatureWorldAnchor.validate with
  | ok u =>
    rw [activate_eq_ok hc (contract_forM_eq_ok_iff.1 hanchors)]
    intro h
    cases h
  | error e =>
    rw [activateProceduralChunksAroundCreatures, hc, hanchors]
    intro h
    cases h

/-- **Content belongs to its place.**  An activation does not depend on the order of the anchors,
stays within its bounds and overflows nowhere.  Two activations of a configuration have the same
content on every tile that is active in both; within one, identifiers are distinct, and where no two
of the tiles clash the identifier belongs to the tile as well. -/
theorem content_belongs_to_place [RoundToI32 F] (hc : c.validate = .ok ()) :
    (∀ anchors : List (CreatureWorldAnchor F), (anchors.map (·.stableId)).Nodup →
      (∀ a ∈ anchors, a.Finite) →
      (∀ anchors', anchors'.Perm anchors → activateProceduralChunksAroundCreatures c anchors'
          = activateProceduralChunksAroundCreatures c anchors)
        ∧ ((∀ a ∈ anchors, a.stableId.raw ≠ 0) →
          ∃ r, activateProceduralChunksAroundCreatures c anchors = .ok r)
        ∧ activateProceduralChunksAroundCreatures c anchors ≠ .error .overflow
        ∧ ∀ r, activateProceduralChunksAroundCreatures c anchors = .ok r →
          r.Sound c anchors ∧ generateProceduralWorldContent F c r ≠ .error .overflow)
    ∧ ∀ (anchors anchors' : List (CreatureWorldAnchor F)) (r r' : ProceduralChunkActivationReport)
        (g g' : ProceduralWorldContentReport F),
        ContentRun c anchors r g → ContentRun c anchors' r' g' →
        (∀ x : TileContent F, r.Activates c x.tile → r'.Activates c x.tile →
          (x ∈ g.contents ↔ x ∈ g'.contents))
        ∧ (g.candidates.map (·.tile)).Nodup ∧ (g.candidates.map (·.stableId.raw)).Nodup
        ∧ (∀ k ∈ g.candidates, ∃ salt < 16, k.stableId.raw = saltedId c k.kind k.tile salt)
        ∧ (NoClash c (g.contents ++ g'.contents) → ∀ k ∈ g.candidates, ∀ k' ∈ g'.candidates,
          k.stableId = k'.stableId ↔ k.tile = k'.tile) := by
  refine ⟨fun anchors hids hfinite => ⟨fun anchors' hperm => activate_perm hperm hids hfinite,
    fun hraw => ?_, activate_ne_overflow hc, fun r hr => ?_⟩,
    fun anchors anchors' r r' g g' h h' => ⟨fun x hactive hactive' => ?_, h.nodup_tiles hc,
      h.nodup_ids, fun k hk => h.exists_salt hc hk, fun hclash k hk k' hk' => ?_⟩⟩
  · have hvalid := CreatureWorldAnchor.forM_validate_of_finite hfinite
    rw [if_pos hraw] at hvalid
    exact ⟨_, activate_eq_ok hc (contract_forM_eq_ok_iff.1 hvalid)⟩
  · obtain rfl := eq_activationReport hc hr
    exact ⟨sound_activationReport c anchors,
      (avoids_generate hc (sound_activationReport c anchors)).ne_error⟩
  · rw [h.mem_contents_of_activates hc hactive, h'.mem_contents_of_activates hc hactive']
  · have hmem : k.content ∈ g.contents := List.mem_map_of_mem hk
    have hmem' : k'.content ∈ g'.contents := List.mem_map_of_mem hk'
    have hid := h.unsalted hc (fun x hx y hy => hclash x (List.mem_append_left _ hx) y
      (List.mem_append_left _ hy)) k hk
    have hid' := h'.unsalted hc (fun x hx y hy => hclash x (List.mem_append_right _ hx) y
      (List.mem_append_right _ hy)) k' hk'
    constructor
    · intro heq
      refine hclash _ (List.mem_append_left _ hmem) _ (List.mem_append_right _ hmem') ?_
      rw [← hid, ← hid', heq]
    · intro htile
      -- one tile has one content, so one kind
      obtain ⟨chunk, -, hx⟩ := (h.mem_contents hc).1 hmem
      obtain ⟨chunk', -, hx'⟩ := (h'.mem_contents hc).1 hmem'
      have hsome : tileContent F c k.tile = some k.content :=
        (of_mem_chunkContent (c.bounded hc) hx).1
      have hsome' : tileContent F c k'.tile = some k'.content :=
        (of_mem_chunkContent (c.bounded hc) hx').1
      have hcontent : k.content = k'.content :=
        Option.some.inj (hsome.symm.trans ((congrArg _ htile).trans hsome'))
      have hraw : k.stableId.raw = k'.stableId.raw := by rw [hid, hid', hcontent]
      cases hk : k.stableId
      cases hk' : k'.stableId
      rw [hk, hk'] at hraw
      exact congrArg _ hraw

end Content

/-! ## Mirrored anchors -/

/-- A small world. -/
def mirrorConfig : ProceduralWorldConfig := ⟨1, 4242, 4, 0, 256, 512, 128⟩

/-- An anchor in the middle of a tile. -/
def anchorAt (id : UInt64) (x z : ℤ) : CreatureWorldAnchor ℚ := ⟨⟨id⟩, ⟨x, 0, z⟩⟩

/-- An activation and its content. -/
def runAt (anchors : List (CreatureWorldAnchor ℚ)) :
    Call (ProceduralChunkActivationReport × ProceduralWorldContentReport ℚ) := do
  let r ← activateProceduralChunksAroundCreatures mirrorConfig anchors
  let g ← generateProceduralWorldContent ℚ mirrorConfig r
  pure (r, g)

theorem contentRun_of_runAt {anchors : List (CreatureWorldAnchor ℚ)}
    {r : ProceduralChunkActivationReport} {g : ProceduralWorldContentReport ℚ}
    (h : runAt anchors = .ok (r, g)) (hskip : g.skippedDueToCap = 0) :
    ContentRun mirrorConfig anchors r g := by
  obtain ⟨r', hr, h⟩ := except_bind_eq_ok_iff.1 h
  obtain ⟨g', hg, h⟩ := except_bind_eq_ok_iff.1 h
  obtain ⟨rfl, rfl⟩ := Prod.mk.inj (Except.ok.inj h)
  exact ⟨hr, hg, hskip⟩

/-- Two runs that both return, and what they returned. -/
def bothRuns (anchors anchors' : List (CreatureWorldAnchor ℚ))
    (p : ProceduralChunkActivationReport × ProceduralWorldContentReport ℚ →
      ProceduralChunkActivationReport × ProceduralWorldContentReport ℚ → Bool) : Bool :=
  match runAt anchors, runAt anchors' with
  | .ok a, .ok b => p a b
  | _, _ => false

theorem exists_of_bothRuns {anchors anchors' : List (CreatureWorldAnchor ℚ)}
    {p : ProceduralChunkActivationReport × ProceduralWorldContentReport ℚ →
      ProceduralChunkActivationReport × ProceduralWorldContentReport ℚ → Bool}
    (h : bothRuns anchors anchors' p = true) :
    ∃ a b, runAt anchors = .ok a ∧ runAt anchors' = .ok b ∧ p a b = true := by
  unfold bothRuns at h
  cases ha : runAt anchors with
  | error e =>
    rw [ha] at h
    cases h
  | ok a =>
    cases hb : runAt anchors' with
    | error e =>
      rw [ha, hb] at h
      cases h
    | ok b =>
      rw [ha, hb] at h
      exact ⟨a, b, rfl, rfl, h⟩

/-- **The identifier of a tile depends on what else is active**: alone, the tile has the identifier
that its mirror image has where both are active. -/
theorem content_id_depends_on_activation :
    ∃ r r' g g', ContentRun mirrorConfig [anchorAt 1 (-1) 121, anchorAt 2 1 (-121)] r g
      ∧ ContentRun mirrorConfig [anchorAt 2 1 (-121)] r' g'
      ∧ g.candidates.length < 48 ∧ g'.candidates.length < 48
      ∧ (∃ k ∈ g.candidates, ∃ k' ∈ g'.candidates, k.tile = k'.tile ∧ k.stableId ≠ k'.stableId)
      ∧ ∃ k ∈ g.candidates, ∃ k' ∈ g'.candidates, k.tile ≠ k'.tile ∧ k.stableId = k'.stableId := by
  have hruns : bothRuns [anchorAt 1 (-1) 121, anchorAt 2 1 (-121)] [anchorAt 2 1 (-121)]
      (fun a b => decide (a.2.skippedDueToCap = 0 ∧ b.2.skippedDueToCap = 0
        ∧ a.2.candidates.length < 48 ∧ b.2.candidates.length < 48
        ∧ (∃ k ∈ a.2.candidates, ∃ k' ∈ b.2.candidates,
          k.tile = k'.tile ∧ k.stableId ≠ k'.stableId)
        ∧ ∃ k ∈ a.2.candidates, ∃ k' ∈ b.2.candidates,
          k.tile ≠ k'.tile ∧ k.stableId = k'.stableId)) = true := by decide +kernel
  obtain ⟨⟨r, g⟩, ⟨r', g'⟩, ha, hb, hfacts⟩ := exists_of_bothRuns hruns
  obtain ⟨hskip, hskip', hfacts⟩ := of_decide_eq_true hfacts
  exact ⟨r, r', g, g', contentRun_of_runAt ha hskip, contentRun_of_runAt hb hskip', hfacts⟩

theorem content_belongs_to_place_mirrorConfig :
    ∃ r r' g g', ContentRun mirrorConfig [anchorAt 2 1 (-121)] r g
      ∧ ContentRun mirrorConfig [anchorAt 7 2 (-122)] r' g'
      ∧ (∃ k ∈ g.candidates, k.tile = ⟨1, -121⟩)
      ∧ ∀ k ∈ g.candidates, ∀ k' ∈ g'.candidates, k.stableId = k'.stableId ↔ k.tile = k'.tile := by
  have hruns : bothRuns [anchorAt 2 1 (-121)] [anchorAt 7 2 (-122)]
      (fun a b => decide (a.2.skippedDueToCap = 0 ∧ b.2.skippedDueToCap = 0
        ∧ NoClash mirrorConfig (a.2.contents ++ b.2.contents)
        ∧ ∃ k ∈ a.2.candidates, k.tile = ⟨1, -121⟩)) = true := by decide +kernel
  obtain ⟨⟨r, g⟩, ⟨r', g'⟩, ha, hb, hfacts⟩ := exists_of_bothRuns hruns
  obtain ⟨hskip, hskip', hclash, htile⟩ := of_decide_eq_true hfacts
  have h := contentRun_of_runAt ha hskip
  have h' := contentRun_of_runAt hb hskip'
  have hplace := (content_belongs_to_place (F := ℚ) (c := mirrorConfig) rfl).2
    _ _ _ _ _ _ h h'
  exact ⟨r, r', g, g', h, h', htile, hplace.2.2.2.2 hclash⟩

end Procedural
end ALife
