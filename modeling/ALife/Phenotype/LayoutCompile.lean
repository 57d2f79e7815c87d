/-
# Allocating neurons to lobes

`compile_layout` (`crates/alife_core/src/phenotype/layout_compile.rs`) and the
reference layout it starts from (`crates/alife_core/src/lobe.rs`).  The genome
and the development of a brain give every lobe a weight; blocks of sixteen
neurons are shared out by the largest remainders, with at least one block for
every lobe of positive weight (`Apportionment.award`).

The layout that comes out is sound, and it is proportional exactly when the
second pass of the allocation comes to no lobe whose share is below one block
(`compileLayout_proportional_iff`): the remainders are those from before such a
lobe was raised to one block, so it can be given a second.

Weights and shares are exact rationals.
-/

import ALife.Machine.Apportionment
import ALife.Machine.Binary32Value
import ALife.Machine.CheckedNat
import ALife.Machine.Checks
import ALife.Phenotype.ActiveTiles

namespace ALife

open Machine

/-- `LobeKind::ALL`. -/
def LobeKind.all : List LobeKind :=
  [.perceptualIntegration, .interoceptiveMotivational, .multimodalAssociation, .temporalPredictive,
    .workingContextExecutive, .memoryInterface, .actionPlanning, .socialCommunication,
    .flexibleReserve]

/-- `LobeRegion::enabled`. -/
def LobeRegion.enabledAt (kind : LobeKind) (start len : ℕ) : LobeRegion :=
  ⟨kind, start.toUInt32, len.toUInt32, true⟩

/-- `LobeRegion::disabled`. -/
def LobeRegion.disabledAt (kind : LobeKind) (start : ℕ) : LobeRegion :=
  ⟨kind, start.toUInt32, 0, false⟩

namespace LobeLayout

/-- The loop over the enabled regions in `validate_for_neuron_count`. -/
def coverStep (neuronCount : UInt32) (cursor : ℕ) (region : LobeRegion) : Contract ℕ := do
  let finish ← getOr (checkedAdd 32 region.start.toNat region.len.toNat) .lobeRangeCoverage
  reject (region.len = 0 ∨ region.start.toNat ≠ cursor ∨ neuronCount.toNat < finish)
    .lobeRangeCoverage
  .ok finish

/-- `LobeLayout::validate_for_neuron_count`. -/
def validateForNeuronCount (layout : LobeLayout) (neuronCount : UInt32) : Contract Unit := do
  let total : Option ℕ := layout.regions.foldlM (fun total region =>
    checkedAdd 32 total region.len.toNat) 0
  reject (total ≠ some neuronCount.toNat) .lobeTotalMismatch
  reject (∃ region ∈ layout.regions, ¬(16 ∣ region.start.toNat ∧ 16 ∣ region.len.toNat))
    .lobeAlignment
  let cursor ← layout.enabledRegions.foldlM (coverStep neuronCount) 0
  reject (cursor ≠ neuronCount.toNat) .lobeRangeCoverage
  reject (∃ kind ∈ LobeKind.all, (layout.regions.map (·.kind)).count kind ≠ 1) .lobeRangeCoverage

/-- `FLOORS` and `SHARES` of the founder layout. -/
def founderFloors : List ℕ := [64, 32, 64, 48, 48, 32, 48, 32, 32]

def founderShares : List ℕ := [16, 6, 23, 13, 10, 7, 10, 8, 7]

/-- `founder_floor_share_lengths`. -/
def founderFloorShareLengths (neuronCount : UInt32) : Contract (List ℕ) := do
  reject (neuronCount < 512) .brainClassTooSmall
  reject (¬16 ∣ neuronCount.toNat) .lobeAlignment
  let remainderBlocks := (neuronCount.toNat - founderFloors.sum) / 16
  let weighted := founderShares.map (remainderBlocks * ·)
  let lengths := List.zipWith (fun floor w => floor + w / 100 * 16) founderFloors weighted
  let assigned := (weighted.map (· / 100)).sum
  -- descending by remainder, then by index
  let order := (sortByKey (fun (row : ℕ × ℕ) => toLex (row.1 % 100, row.2))
    weighted.zipIdx).reverse.map (·.2)
  .ok ((order.take (remainderBlocks - assigned)).foldl (fun lengths index =>
    lengths.modify index (· + 16)) lengths)

/-- `build_regions_from_lengths`. -/
def buildRegions : ℕ → List (LobeKind × ℕ) → List LobeRegion
  | _, [] => []
  | start, (kind, len) :: rest => .enabledAt kind start len :: buildRegions (start + len) rest

/-- `LobeLayout::reference_for_neuron_count`. -/
def referenceForNeuronCount (neuronCount : UInt32) : Contract LobeLayout := do
  let lengths ← founderFloorShareLengths neuronCount
  let layout : LobeLayout := ⟨buildRegions 0 (LobeKind.all.zip lengths)⟩
  layout.validateForNeuronCount neuronCount
  .ok layout

end LobeLayout

/-! ### What the validation promises -/

namespace LobeLayout

theorem validateForNeuronCount_tiled {layout : LobeLayout} {neuronCount : UInt32}
    (hsmall : neuronCount.toNat ≤ 2 ^ 20)
    (h : layout.validateForNeuronCount neuronCount = .ok ()) : layout.Tiled := by
  unfold validateForNeuronCount at h
  obtain ⟨_, h⟩ := except_seq_eq_ok_iff.1 h
  obtain ⟨haligned, h⟩ := except_seq_eq_ok_iff.1 h
  obtain ⟨cursor, hcursor, _⟩ := except_bind_eq_ok_iff.1 h
  rw [reject_eq_ok_iff] at haligned
  intro region hregion henabled
  have halign : 16 ∣ region.start.toNat ∧ 16 ∣ region.len.toNat :=
    not_not.1 fun hne => haligned ⟨region, hregion, hne⟩
  obtain ⟨start, finish, hstep⟩ := exists_step_of_foldlM_eq_ok hcursor
    (List.mem_filter.2 ⟨hregion, henabled⟩)
  unfold coverStep at hstep
  obtain ⟨total, htotal, hstep⟩ := except_bind_eq_ok_iff.1 hstep
  obtain ⟨hchecks, _⟩ := except_seq_eq_ok_iff.1 hstep
  rw [getOr_eq_ok_iff, checkedAdd_eq_some_iff] at htotal
  rw [reject_eq_ok_iff, not_or, not_or, not_lt] at hchecks
  obtain ⟨hlen, _, hfits⟩ := hchecks
  refine ⟨halign.1, halign.2, Nat.pos_of_ne_zero fun hzero => hlen ?_, ?_⟩
  · exact UInt32.toNat_inj.1 hzero
  · omega

end LobeLayout

namespace Topology

structure LobeRatioOverride where
  lobe : LobeKind
  ratio : NormalizedScalar
  deriving DecidableEq, Repr

inductive LobeRatioPlan where
  | classDefault
  | registryRef (registryId : UInt64) (version : UInt16)
  | inlineOverrides (rows : List LobeRatioOverride)
  deriving DecidableEq, Repr

/-- `ESSENTIAL`. -/
def essentialLobes : List LobeKind :=
  [.perceptualIntegration, .interoceptiveMotivational, .actionPlanning, .flexibleReserve]

/-- The weights of the reference layout, of all lobes. -/
def referenceWeights (reference : LobeLayout) (neurons : UInt32) (kind : LobeKind) : ℚ :=
  match reference.region kind with
  | some region => (region.len.toNat : ℚ) / neurons.toNat
  | none => 0

/-- The weights after the overrides of the genome. -/
def ratioWeights (ratios : LobeRatioPlan) (weights : LobeKind → ℚ) :
    Contract (LobeKind → ℚ) :=
  match ratios with
  | .classDefault => .ok weights
  | .registryRef _ _ => .error .phenotypeCompile
  | .inlineOverrides rows => do
    reject (¬(rows.map (·.lobe)).Nodup) .phenotypeCompile
    .ok (rows.foldl (fun weights row => Function.update weights row.lobe row.ratio.raw.value)
      weights)

/-- The weights after the development has switched lobes off. -/
def developedWeights (enabledLobes : List LobeKind) (weights : LobeKind → ℚ) (kind : LobeKind) :
    ℚ :=
  if enabledLobes ≠ [] ∧ kind ∉ enabledLobes then 0 else weights kind

/-- The weights of the lobes, from the genome and the development. -/
def layoutWeights (ratios : LobeRatioPlan) (enabledLobes : List LobeKind) (neurons : UInt32) :
    Contract (LobeKind → ℚ) := do
  let reference ← LobeLayout.referenceForNeuronCount neurons
  let weights ← ratioWeights ratios (referenceWeights reference neurons)
  reject (enabledLobes ≠ [] ∧ ∃ kind ∈ essentialLobes, kind ∉ enabledLobes) .phenotypeCompile
  let weights := developedWeights enabledLobes weights
  reject (∃ kind ∈ essentialLobes, weights kind ≤ 0) .phenotypeCompile
  .ok weights

/-- The lobes of positive weight. -/
def weightedLobes (weights : LobeKind → ℚ) : List LobeKind :=
  LobeKind.all.filter fun kind => 0 < weights kind

/-- The exact share of a lobe, in blocks. -/
def exactShare (weights : LobeKind → ℚ) (blockCount : ℕ) (kind : LobeKind) : ℚ :=
  weights kind / (LobeKind.all.map weights).sum * blockCount

/-- The regions of an allocation, one behind the other. -/
def placeRegions (blocks : LobeKind → ℕ) : ℕ → List LobeKind → List LobeRegion
  | _, [] => []
  | cursor, kind :: rest =>
    if blocks kind = 0 then .disabledAt kind cursor :: placeRegions blocks cursor rest
    else .enabledAt kind cursor (blocks kind * 16)
      :: placeRegions blocks (cursor + blocks kind * 16) rest

/-- The allocation of the blocks; a lobe without weight has none. -/
def allocateBlocks (weights : LobeKind → ℚ) (neurons : UInt32) : Contract (LobeKind → ℕ) := do
  let blockCount := neurons.toNat / 16
  reject ((LobeKind.all.map weights).sum ≤ 0) .phenotypeCompile
  let enabled := weightedLobes weights
  reject (blockCount < enabled.length) .phenotypeCompile
  let share := exactShare weights blockCount
  reject (blockCount < (enabled.map (Apportionment.floorOrOne share)).sum) .phenotypeCompile
  .ok fun kind =>
    if kind ∈ enabled then Apportionment.award share (·.raw.toNat) enabled blockCount kind else 0

/-- `compile_layout`. -/
def compileLayout (ratios : LobeRatioPlan) (enabledLobes : List LobeKind) (neurons : UInt32) :
    Contract LobeLayout :=
  if ratios = .classDefault ∧ enabledLobes = [] then LobeLayout.referenceForNeuronCount neurons
  else do
    let weights ← layoutWeights ratios enabledLobes neurons
    let blocks ← allocateBlocks weights neurons
    let layout : LobeLayout := ⟨placeRegions blocks 0 LobeKind.all⟩
    layout.validateForNeuronCount neurons
    .ok layout

/-! ### The regions of an allocation -/

/-- The regions are one behind the other, from `start` to `finish`. -/
def Covers : ℕ → List LobeRegion → ℕ → Prop
  | start, [], finish => start = finish
  | start, region :: rest, finish =>
    region.start.toNat = start ∧ Covers (start + region.len.toNat) rest finish

/-- What a layout has to do with the weights it was made from. -/
structure LayoutSound (weights : LobeKind → ℚ) (neurons : UInt32) (regions : List LobeRegion) :
    Prop where
  order : regions.map (·.kind) = LobeKind.all
  covers : Covers 0 regions neurons.toNat
  aligned : ∀ region ∈ regions, 16 ∣ region.start.toNat ∧ 16 ∣ region.len.toNat
  enabled : ∀ region ∈ regions, region.enabled = true ↔ 0 < weights region.kind

section Regions

variable {blocks : LobeKind → ℕ} {cursor : ℕ} {kinds : List LobeKind}

theorem map_kind_placeRegions : (placeRegions blocks cursor kinds).map (·.kind) = kinds := by
  induction kinds generalizing cursor with
  | nil => rfl
  | cons kind rest ih =>
    rw [placeRegions]
    split_ifs
    · exact congrArg (kind :: ·) ih
    · exact congrArg (kind :: ·) ih

theorem covers_placeRegions (hfits : cursor + (kinds.map blocks).sum * 16 < 2 ^ 32) :
    Covers cursor (placeRegions blocks cursor kinds) (cursor + (kinds.map blocks).sum * 16) := by
  induction kinds generalizing cursor with
  | nil => rfl
  | cons kind rest ih =>
    rw [List.map_cons, List.sum_cons] at hfits ⊢
    have hstart : cursor.toUInt32.toNat = cursor := Nat.mod_eq_of_lt (by omega)
    rw [placeRegions]
    split_ifs with hzero
    · refine ⟨hstart, ?_⟩
      rw [hzero, Nat.zero_add] at hfits ⊢
      exact ih hfits
    · have hlen : (blocks kind * 16).toUInt32.toNat = blocks kind * 16 :=
        Nat.mod_eq_of_lt (by omega)
      refine ⟨hstart, ?_⟩
      rw [LobeRegion.enabledAt, hlen, Nat.add_mul, ← Nat.add_assoc]
      exact ih (by omega)

theorem mem_placeRegions (hcursor : 16 ∣ cursor)
    (hfits : cursor + (kinds.map blocks).sum * 16 < 2 ^ 32) {region : LobeRegion}
    (hregion : region ∈ placeRegions blocks cursor kinds) :
    16 ∣ region.start.toNat ∧ region.len.toNat = blocks region.kind * 16
      ∧ (region.enabled = true ↔ 0 < blocks region.kind) := by
  induction kinds generalizing cursor with
  | nil => exact absurd hregion List.not_mem_nil
  | cons kind rest ih =>
    rw [List.map_cons, List.sum_cons] at hfits
    have hstart : cursor.toUInt32.toNat = cursor := Nat.mod_eq_of_lt (by omega)
    rw [placeRegions] at hregion
    split_ifs at hregion with hzero
    · obtain rfl | hrest := List.mem_cons.1 hregion
      · refine ⟨hstart.symm ▸ hcursor, ?_, iff_of_false Bool.false_ne_true ?_⟩
        · rw [LobeRegion.disabledAt, hzero]
          rfl
        · rw [LobeRegion.disabledAt, hzero]
          exact lt_irrefl 0
      · exact ih hcursor (by omega) hrest
    · obtain rfl | hrest := List.mem_cons.1 hregion
      · exact ⟨hstart.symm ▸ hcursor, Nat.mod_eq_of_lt (by omega),
          iff_of_true rfl (Nat.pos_of_ne_zero hzero)⟩
      · exact ih (Nat.dvd_add hcursor (Nat.dvd_mul_left 16 _)) (by omega) hrest

end Regions

/-! ### The shares -/

section Shares

variable {weights : LobeKind → ℚ} {neurons : UInt32} {blockCount : ℕ}

theorem LobeKind.nodup_all : LobeKind.all.Nodup := by decide

theorem LobeKind.mem_all (kind : LobeKind) : kind ∈ LobeKind.all := by
  cases kind <;> decide

theorem mem_weightedLobes {kind : LobeKind} : kind ∈ weightedLobes weights ↔ 0 < weights kind := by
  rw [weightedLobes, List.mem_filter, decide_eq_true_eq]
  exact and_iff_right (LobeKind.mem_all kind)

/-- What is filtered out of a sum is zero. -/
theorem sum_map_filter {α M : Type} [AddCommMonoid M] {p : α → Bool} {f : α → M} {l : List α}
    (h : ∀ a, p a = false → f a = 0) : ((l.filter p).map f).sum = (l.map f).sum := by
  induction l with
  | nil => rfl
  | cons a l ih =>
    rw [List.map_cons, List.sum_cons, ← ih]
    cases hp : p a with
    | false => rw [List.filter_cons_of_neg (by rw [hp]; exact Bool.false_ne_true), h a hp, zero_add]
    | true => rw [List.filter_cons_of_pos hp, List.map_cons, List.sum_cons]

/-- The shares of the enabled lobes add up to all blocks. -/
theorem sum_exactShare (hnonneg : ∀ kind, 0 ≤ weights kind)
    (hpos : 0 < (LobeKind.all.map weights).sum) :
    ((weightedLobes weights).map (exactShare weights blockCount)).sum = blockCount := by
  have hzero : ∀ kind, decide (0 < weights kind) = false → weights kind = 0 := fun kind h =>
    le_antisymm (not_lt.1 (of_decide_eq_false h)) (hnonneg kind)
  have hshare : exactShare weights blockCount
      = fun kind => weights kind * ((LobeKind.all.map weights).sum⁻¹ * blockCount) :=
    funext fun kind => by rw [exactShare, div_eq_mul_inv, mul_assoc]
  have hfactor := List.sum_map_mul_right (l := weightedLobes weights) weights
    ((LobeKind.all.map weights).sum⁻¹ * blockCount)
  rw [hshare, hfactor, weightedLobes, sum_map_filter hzero, ← mul_assoc,
    mul_inv_cancel₀ hpos.ne', one_mul]

theorem exactShare_nonneg (hnonneg : ∀ kind, 0 ≤ weights kind) (kind : LobeKind) :
    0 ≤ exactShare weights blockCount kind :=
  mul_nonneg (div_nonneg (hnonneg kind) (List.sum_nonneg fun w hw => by
    obtain ⟨other, -, rfl⟩ := List.mem_map.1 hw
    exact hnonneg other)) (Nat.cast_nonneg _)

theorem referenceWeights_nonneg {reference : LobeLayout} (kind : LobeKind) :
    0 ≤ referenceWeights reference neurons kind := by
  rw [referenceWeights]
  cases reference.region kind with
  | none => exact le_rfl
  | some region => exact div_nonneg (Nat.cast_nonneg _) (Nat.cast_nonneg _)

theorem overrides_nonneg {rows : List LobeRatioOverride} (hnonneg : ∀ kind, 0 ≤ weights kind)
    (kind : LobeKind) : 0 ≤ rows.foldl (fun weights row =>
      Function.update weights row.lobe row.ratio.raw.value) weights kind := by
  induction rows generalizing weights with
  | nil => exact hnonneg kind
  | cons row rows ih =>
    refine ih fun other => ?_
    show 0 ≤ Function.update weights row.lobe row.ratio.raw.value other
    rw [Function.update_apply]
    split_ifs
    · exact (F32.value_mem_unit row.ratio.mem_unit).1
    · exact hnonneg other

theorem ratioWeights_nonneg {ratios : LobeRatioPlan} {weights' : LobeKind → ℚ}
    (hnonneg : ∀ kind, 0 ≤ weights kind) (h : ratioWeights ratios weights = .ok weights')
    (kind : LobeKind) : 0 ≤ weights' kind := by
  cases ratios with
  | classDefault =>
    obtain rfl := Except.ok.inj h
    exact hnonneg kind
  | registryRef registryId version => cases h
  | inlineOverrides rows =>
    obtain ⟨_, h⟩ := except_seq_eq_ok_iff.1 h
    obtain rfl := Except.ok.inj h
    exact overrides_nonneg hnonneg kind

theorem layoutWeights_nonneg {ratios : LobeRatioPlan} {enabledLobes : List LobeKind}
    (h : layoutWeights ratios enabledLobes neurons = .ok weights) (kind : LobeKind) :
    0 ≤ weights kind := by
  unfold layoutWeights at h
  obtain ⟨reference, hreference, h⟩ := except_bind_eq_ok_iff.1 h
  obtain ⟨ratioed, hratioed, h⟩ := except_bind_eq_ok_iff.1 h
  obtain ⟨_, h⟩ := except_seq_eq_ok_iff.1 h
  obtain ⟨_, h⟩ := except_seq_eq_ok_iff.1 h
  obtain rfl := Except.ok.inj h
  rw [developedWeights]
  split_ifs
  · exact le_rfl
  · exact ratioWeights_nonneg referenceWeights_nonneg hratioed kind

/-- The layout starts from a reference layout, which is made of whole blocks. -/
theorem neurons_dvd_of_layoutWeights {ratios : LobeRatioPlan} {enabledLobes : List LobeKind}
    (h : layoutWeights ratios enabledLobes neurons = .ok weights) : 16 ∣ neurons.toNat := by
  unfold layoutWeights at h
  obtain ⟨reference, hreference, h⟩ := except_bind_eq_ok_iff.1 h
  unfold LobeLayout.referenceForNeuronCount at hreference
  obtain ⟨lengths, hlengths, _⟩ := except_bind_eq_ok_iff.1 hreference
  unfold LobeLayout.founderFloorShareLengths at hlengths
  obtain ⟨_, hlengths⟩ := except_seq_eq_ok_iff.1 hlengths
  obtain ⟨haligned, hlengths⟩ := except_seq_eq_ok_iff.1 hlengths
  exact not_not.1 (reject_eq_ok_iff.1 haligned)

/-! ### The allocation -/

section Allocation

variable {blocks : LobeKind → ℕ}

theorem allocateBlocks_eq_ok_iff : allocateBlocks weights neurons = .ok blocks ↔
    0 < (LobeKind.all.map weights).sum ∧ (weightedLobes weights).length ≤ neurons.toNat / 16
      ∧ ((weightedLobes weights).map
          (Apportionment.floorOrOne (exactShare weights (neurons.toNat / 16)))).sum
        ≤ neurons.toNat / 16
      ∧ blocks = fun kind => if kind ∈ weightedLobes weights then
          Apportionment.award (exactShare weights (neurons.toNat / 16)) (·.raw.toNat)
            (weightedLobes weights) (neurons.toNat / 16) kind
        else 0 := by
  unfold allocateBlocks
  simp only [except_seq_eq_ok_iff, reject_eq_ok_iff, not_le, not_lt,
    Except.ok.injEq]
  constructor
  · rintro ⟨h₁, h₂, h₃, rfl⟩
    exact ⟨h₁, h₂, h₃, rfl⟩
  · rintro ⟨h₁, h₂, h₃, rfl⟩
    exact ⟨h₁, h₂, h₃, rfl⟩

theorem nodup_weightedLobes : (weightedLobes weights).Nodup := LobeKind.nodup_all.filter _

theorem blocks_pos_iff (hnonneg : ∀ kind, 0 ≤ weights kind)
    (h : allocateBlocks weights neurons = .ok blocks) (kind : LobeKind) :
    0 < blocks kind ↔ 0 < weights kind := by
  obtain ⟨hpos, hcount, hused, rfl⟩ := allocateBlocks_eq_ok_iff.1 h
  rw [← mem_weightedLobes]
  dsimp only
  split_ifs with hmem
  · exact iff_of_true (Apportionment.award_pos nodup_weightedLobes
      (sum_exactShare hnonneg hpos) hused kind) hmem
  · exact iff_of_false (lt_irrefl 0) hmem

/-- All blocks are given out. -/
theorem sum_blocks (hnonneg : ∀ kind, 0 ≤ weights kind)
    (h : allocateBlocks weights neurons = .ok blocks) :
    (LobeKind.all.map blocks).sum = neurons.toNat / 16 := by
  have hzero : ∀ kind, decide (0 < weights kind) = false → blocks kind = 0 := fun kind hkind =>
    Nat.eq_zero_of_not_pos fun hpos =>
      of_decide_eq_false hkind ((blocks_pos_iff hnonneg h kind).1 hpos)
  rw [← sum_map_filter hzero]
  obtain ⟨hpos, hcount, hused, rfl⟩ := allocateBlocks_eq_ok_iff.1 h
  refine Eq.trans (congrArg List.sum (List.map_congr_left fun kind hkind => if_pos hkind)) ?_
  exact Apportionment.sum_award nodup_weightedLobes (sum_exactShare hnonneg hpos) hused

theorem blocks_fit (hnonneg : ∀ kind, 0 ≤ weights kind)
    (h : allocateBlocks weights neurons = .ok blocks) :
    0 + (LobeKind.all.map blocks).sum * 16 < 2 ^ 32 := by
  have := neurons.toNat_lt
  rw [sum_blocks hnonneg h]
  omega

/-- The regions of an allocation are sound. -/
theorem layoutSound_placeRegions (hdvd : 16 ∣ neurons.toNat) (hnonneg : ∀ kind, 0 ≤ weights kind)
    (h : allocateBlocks weights neurons = .ok blocks) :
    LayoutSound weights neurons (placeRegions blocks 0 LobeKind.all) := by
  have hsum : 0 + (LobeKind.all.map blocks).sum * 16 = neurons.toNat := by
    rw [sum_blocks hnonneg h]
    omega
  have hfits := blocks_fit hnonneg h
  refine ⟨map_kind_placeRegions, hsum ▸ covers_placeRegions hfits, ?_, ?_⟩
  · intro region hregion
    obtain ⟨hstart, hlen, -⟩ := mem_placeRegions (Nat.dvd_zero 16) hfits hregion
    exact ⟨hstart, hlen ▸ Nat.dvd_mul_left 16 _⟩
  · intro region hregion
    obtain ⟨-, -, henabled⟩ := mem_placeRegions (Nat.dvd_zero 16) hfits hregion
    exact henabled.trans (blocks_pos_iff hnonneg h region.kind)

end Allocation

end Shares

/-! ### When an allocation is proportional -/

/-- The lobe has a share below one block, and the second pass comes to it. -/
def RaisedTwice (weights : LobeKind → ℚ) (neurons : UInt32) (kind : LobeKind) : Prop :=
  exactShare weights (neurons.toNat / 16) kind < 1
    ∧ Apportionment.Reached (exactShare weights (neurons.toNat / 16)) (·.raw.toNat)
      (weightedLobes weights) (neurons.toNat / 16) kind

theorem LobeKind.raw_toNat_injective : Function.Injective fun kind : LobeKind => kind.raw.toNat := by
  intro kind kind' h
  cases kind <;> cases kind' <;> first | rfl | exact absurd h (by decide)

theorem award_proportional_iff {blocks : LobeKind → ℕ} (hnonneg : ∀ kind, 0 ≤ weights kind)
    (h : allocateBlocks weights neurons = .ok blocks) {kind : LobeKind} (hkind : 0 < weights kind) :
    Apportionment.Proportional (exactShare weights (neurons.toNat / 16) kind) (blocks kind)
      ↔ ¬RaisedTwice weights neurons kind := by
  obtain ⟨hpos, hcount, hused, rfl⟩ := allocateBlocks_eq_ok_iff.1 h
  have hmem : kind ∈ weightedLobes weights := mem_weightedLobes.2 hkind
  dsimp only
  rw [if_pos hmem, Apportionment.award_proportional_iff (exactShare_nonneg hnonneg)
    LobeKind.raw_toNat_injective nodup_weightedLobes (sum_exactShare hnonneg hpos) hused hmem,
    RaisedTwice, not_and, ← not_lt]
  exact imp_not_comm

/-- **A compiled layout is sound**, and it is proportional unless the second pass of the allocation
comes to a lobe that was raised to one block. -/
theorem compileLayout_proportional_iff {ratios : LobeRatioPlan} {enabledLobes : List LobeKind}
    {layout : LobeLayout} (hpath : ¬(ratios = .classDefault ∧ enabledLobes = []))
    (h : compileLayout ratios enabledLobes neurons = .ok layout) :
    ∃ weights, layoutWeights ratios enabledLobes neurons = .ok weights
      ∧ LayoutSound weights neurons layout.regions
      ∧ ((∀ region ∈ layout.regions, region.enabled = true →
          Apportionment.Proportional (exactShare weights (neurons.toNat / 16) region.kind)
            (region.len.toNat / 16))
        ↔ ∀ kind, 0 < weights kind → ¬RaisedTwice weights neurons kind) := by
  rw [compileLayout, if_neg hpath] at h
  obtain ⟨weights, hweights, h⟩ := except_bind_eq_ok_iff.1 h
  obtain ⟨blocks, hblocks, h⟩ := except_bind_eq_ok_iff.1 h
  obtain ⟨_, h⟩ := except_seq_eq_ok_iff.1 h
  obtain rfl := Except.ok.inj h
  have hnonneg := layoutWeights_nonneg hweights
  have hsound := layoutSound_placeRegions (neurons_dvd_of_layoutWeights hweights) hnonneg hblocks
  refine ⟨weights, hweights, hsound, ?_⟩
  have hlen : ∀ region ∈ placeRegions blocks 0 LobeKind.all,
      region.len.toNat / 16 = blocks region.kind := by
    intro region hregion
    obtain ⟨-, hlen, -⟩ :=
      mem_placeRegions (Nat.dvd_zero 16) (blocks_fit hnonneg hblocks) hregion
    rw [hlen, Nat.mul_div_cancel _ (by decide)]
  constructor
  · intro hall kind hkind
    have hmem : kind ∈ (placeRegions blocks 0 LobeKind.all).map (·.kind) :=
      map_kind_placeRegions.symm ▸ LobeKind.mem_all kind
    obtain ⟨region, hregion, rfl⟩ := List.mem_map.1 hmem
    have hproportional := hall region hregion ((hsound.enabled region hregion).2 hkind)
    rw [hlen region hregion] at hproportional
    exact (award_proportional_iff hnonneg hblocks hkind).1 hproportional
  · intro hnone region hregion henabled
    have hkind := (hsound.enabled region hregion).1 henabled
    rw [hlen region hregion]
    exact (award_proportional_iff hnonneg hblocks hkind).2 (hnone region.kind hkind)

/-- A compiled layout is made of whole tiles, as the placement of the tiles needs it. -/
theorem compileLayout_tiled {ratios : LobeRatioPlan} {enabledLobes : List LobeKind}
    {layout : LobeLayout} (hsmall : neurons.toNat ≤ 2 ^ 20)
    (h : compileLayout ratios enabledLobes neurons = .ok layout) : layout.Tiled := by
  rw [compileLayout] at h
  split_ifs at h
  · unfold LobeLayout.referenceForNeuronCount at h
    obtain ⟨lengths, hlengths, h⟩ := except_bind_eq_ok_iff.1 h
    obtain ⟨hvalid, h⟩ := except_seq_eq_ok_iff.1 h
    obtain rfl := Except.ok.inj h
    exact LobeLayout.validateForNeuronCount_tiled hsmall hvalid
  · obtain ⟨weights, hweights, h⟩ := except_bind_eq_ok_iff.1 h
    obtain ⟨blocks, hblocks, h⟩ := except_bind_eq_ok_iff.1 h
    obtain ⟨hvalid, h⟩ := except_seq_eq_ok_iff.1 h
    obtain rfl := Except.ok.inj h
    exact LobeLayout.validateForNeuronCount_tiled hsmall hvalid

/-- Shares of 4½, 4½, ¾, 3¼, 4, 4, 4, 4 and 3 blocks of 512 neurons. -/
def crowdedRatios : List LobeRatioOverride :=
  [⟨.perceptualIntegration, ⟨⟨0x3E100000⟩, by decide⟩⟩,
    ⟨.interoceptiveMotivational, ⟨⟨0x3E100000⟩, by decide⟩⟩,
    ⟨.multimodalAssociation, ⟨⟨0x3CC00000⟩, by decide⟩⟩,
    ⟨.temporalPredictive, ⟨⟨0x3DD00000⟩, by decide⟩⟩,
    ⟨.workingContextExecutive, ⟨⟨0x3E000000⟩, by decide⟩⟩,
    ⟨.memoryInterface, ⟨⟨0x3E000000⟩, by decide⟩⟩,
    ⟨.actionPlanning, ⟨⟨0x3E000000⟩, by decide⟩⟩,
    ⟨.socialCommunication, ⟨⟨0x3E000000⟩, by decide⟩⟩,
    ⟨.flexibleReserve, ⟨⟨0x3DC00000⟩, by decide⟩⟩]

/-- `placeRegions` of 4, 4, 2, 3, 4, 4, 4, 4 and 3 blocks. -/
def crowdedLayout : LobeLayout :=
  ⟨[⟨.perceptualIntegration, 0, 64, true⟩, ⟨.interoceptiveMotivational, 64, 64, true⟩,
    ⟨.multimodalAssociation, 128, 32, true⟩, ⟨.temporalPredictive, 160, 48, true⟩,
    ⟨.workingContextExecutive, 208, 64, true⟩, ⟨.memoryInterface, 272, 64, true⟩,
    ⟨.actionPlanning, 336, 64, true⟩, ⟨.socialCommunication, 400, 64, true⟩,
    ⟨.flexibleReserve, 464, 48, true⟩]⟩

theorem compileLayout_crowded :
    compileLayout (.inlineOverrides crowdedRatios) [] 512 = .ok crowdedLayout := by
  decide +kernel

/-- Shares of 4½, 4½, 2¾, 1¼, 4, 4, 4, 4 and 3 blocks. -/
def roomyRatios : List LobeRatioOverride :=
  [⟨.perceptualIntegration, ⟨⟨0x3E100000⟩, by decide⟩⟩,
    ⟨.interoceptiveMotivational, ⟨⟨0x3E100000⟩, by decide⟩⟩,
    ⟨.multimodalAssociation, ⟨⟨0x3DB00000⟩, by decide⟩⟩,
    ⟨.temporalPredictive, ⟨⟨0x3D200000⟩, by decide⟩⟩,
    ⟨.workingContextExecutive, ⟨⟨0x3E000000⟩, by decide⟩⟩,
    ⟨.memoryInterface, ⟨⟨0x3E000000⟩, by decide⟩⟩,
    ⟨.actionPlanning, ⟨⟨0x3E000000⟩, by decide⟩⟩,
    ⟨.socialCommunication, ⟨⟨0x3E000000⟩, by decide⟩⟩,
    ⟨.flexibleReserve, ⟨⟨0x3DC00000⟩, by decide⟩⟩]

/-- `placeRegions` of 5, 4, 3, 1, 4, 4, 4, 4 and 3 blocks. -/
def roomyLayout : LobeLayout :=
  ⟨[⟨.perceptualIntegration, 0, 80, true⟩, ⟨.interoceptiveMotivational, 80, 64, true⟩,
    ⟨.multimodalAssociation, 144, 48, true⟩, ⟨.temporalPredictive, 192, 16, true⟩,
    ⟨.workingContextExecutive, 208, 64, true⟩, ⟨.memoryInterface, 272, 64, true⟩,
    ⟨.actionPlanning, 336, 64, true⟩, ⟨.socialCommunication, 400, 64, true⟩,
    ⟨.flexibleReserve, 464, 48, true⟩]⟩

/-- Where every share is a block or more, the layout is proportional; the crowded one is as far
as no lobe is raised twice. -/
theorem compileLayout_proportional_iff_crowded :
    (∃ weights, layoutWeights (.inlineOverrides crowdedRatios) [] 512 = .ok weights
      ∧ LayoutSound weights 512 crowdedLayout.regions
      ∧ ((∀ region ∈ crowdedLayout.regions, region.enabled = true →
          Apportionment.Proportional (exactShare weights ((512 : UInt32).toNat / 16) region.kind)
            (region.len.toNat / 16))
        ↔ ∀ kind, 0 < weights kind → ¬RaisedTwice weights 512 kind))
    ∧ ∃ weights, layoutWeights (.inlineOverrides roomyRatios) [] 512 = .ok weights
      ∧ LayoutSound weights 512 roomyLayout.regions
      ∧ ∀ region ∈ roomyLayout.regions,
          Apportionment.Proportional (exactShare weights 32 region.kind)
            (region.len.toNat / 16) := by
  have hroomy : compileLayout (.inlineOverrides roomyRatios) [] 512 = .ok roomyLayout := by
    decide +kernel
  have hshares : (layoutWeights (.inlineOverrides roomyRatios) [] 512).map
      (fun weights => decide (∀ kind ∈ LobeKind.all, 1 ≤ exactShare weights 32 kind))
        = .ok true := by
    decide +kernel
  obtain ⟨weights, hweights, hsound, hproportional⟩ :=
    compileLayout_proportional_iff (by decide) hroomy
  refine ⟨compileLayout_proportional_iff (by decide) compileLayout_crowded, weights, hweights,
    hsound, fun region hregion => ?_⟩
  rw [hweights] at hshares
  have hblock := of_decide_eq_true (Except.ok.inj hshares)
  refine hproportional.2 (fun kind _ hraised => ?_) region hregion ?_
  · exact absurd hraised.1 (not_lt.2 (hblock kind (LobeKind.mem_all kind)))
  · simp only [roomyLayout, List.mem_cons, List.not_mem_nil, or_false] at hregion
    rcases hregion with rfl | rfl | rfl | rfl | rfl | rfl | rfl | rfl | rfl <;> rfl

/-- A share of three quarters of a block is given two blocks. -/
theorem compileLayout_raises_twice :
    ¬∀ (ratios : LobeRatioPlan) (enabledLobes : List LobeKind) (neurons : UInt32)
      (layout : LobeLayout) (weights : LobeKind → ℚ),
      16 ∣ neurons.toNat → ¬(ratios = .classDefault ∧ enabledLobes = []) →
      compileLayout ratios enabledLobes neurons = .ok layout →
      layoutWeights ratios enabledLobes neurons = .ok weights →
      ∀ region ∈ layout.regions, region.enabled = true →
        Apportionment.Proportional (exactShare weights (neurons.toNat / 16) region.kind)
          (region.len.toNat / 16) := by
  intro h
  obtain ⟨weights, hweights⟩ := exists_eq_ok_of_isOk
    (x := layoutWeights (.inlineOverrides crowdedRatios) [] 512) (by decide +kernel)
  have hshare : exactShare weights 32 .multimodalAssociation = 3 / 4 := by
    have hcomputed : (layoutWeights (.inlineOverrides crowdedRatios) [] 512).map
        (exactShare · 32 .multimodalAssociation) = .ok (3 / 4) := by decide +kernel
    rw [hweights] at hcomputed
    exact Except.ok.inj hcomputed
  have hregion := h _ _ 512 _ weights (by decide) (by decide) compileLayout_crowded hweights
    ⟨.multimodalAssociation, 128, 32, true⟩ (by decide) rfl
  change Apportionment.Proportional (exactShare weights 32 .multimodalAssociation) 2 at hregion
  rw [hshare] at hregion
  exact absurd hregion (by decide +kernel)

end Topology

end ALife
