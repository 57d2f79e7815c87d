/-
# The policy in exact arithmetic

The sampler and the objective over the reals.  A factor is drawn from the softmax
of its mask: the draws that pick a candidate are an interval as long as its
probability (`sample_eq_ok_iff`).
-/

import ALife.Machine.Choices
import ALife.Training.PpoObjective

namespace ALife

open Machine

namespace Training

/-- Exact arithmetic, where every value is finite.  The bits of no two values differ: a check that
compares bits, as that of an action's temperature against the configured one, passes whatever the
two values are. -/
@[reducible]
noncomputable def exactReals : FloatOps ℝ where
  lt a b := decide (a < b)
  le a b := decide (a ≤ b)
  feq a b := decide (a = b)
  max := max
  abs a := |a|
  sqrt := Real.sqrt
  exp := Real.exp
  tanh := Real.tanh
  powf a n := a ^ n.toNat
  sum := List.sum
  isFinite _ := true
  toBits _ := 0
  literal n d := n / d

@[reducible]
noncomputable def exactLog : FloatLog ℝ := ⟨Real.log⟩

attribute [local
instance] exactReals exactLog

@[simp] theorem exact_lt (a b : ℝ) : FloatOps.lt a b = decide (a < b) := rfl
@[simp] theorem exact_le (a b : ℝ) : FloatOps.le a b = decide (a ≤ b) := rfl
@[simp] theorem exact_feq (a b : ℝ) : FloatOps.feq a b = decide (a = b) := rfl
@[simp] theorem exact_isFinite (a : ℝ) : FloatOps.isFinite a = true := rfl

/-- The candidates of a mask. -/
def support (count : ℕ) (mask : UInt32) : Finset ℕ :=
  (Finset.range count).filter fun i => hasBit mask i = true

/-- The candidates of a mask, in their order. -/
def supportList (count : ℕ) (mask : UInt32) : List ℕ :=
  (List.range count).filter fun i => hasBit mask i

def logitAt {F : Type} [Zero F] (logits : List F) (i : ℕ) : F := logits.getD i 0

theorem mem_support {count : ℕ} {mask : UInt32} {i : ℕ} :
    i ∈ support count mask ↔ i < count ∧ hasBit mask i = true := by
  rw [support, Finset.mem_filter, Finset.mem_range]

theorem support_zero (count : ℕ) : support count 0 = ∅ := by
  refine Finset.eq_empty_of_forall_notMem fun i hi => ?_
  have hbit := (mem_support.1 hi).2
  rw [hasBit, UInt32.toNat_zero, Nat.zero_testBit] at hbit
  cases hbit

theorem mem_supportList {count : ℕ} {mask : UInt32} {i : ℕ} :
    i ∈ supportList count mask ↔ i ∈ support count mask := by
  rw [supportList, List.mem_filter, List.mem_range, mem_support]

theorem nodup_supportList (count : ℕ) (mask : UInt32) : (supportList count mask).Nodup :=
  List.nodup_range.filter _

/-- A sum over the mask in its order. -/
theorem sum_supportList (f : ℕ → ℝ) (count : ℕ) (mask : UInt32) :
    ((supportList count mask).map f).sum = ∑ i ∈ support count mask, f i := by
  rw [← List.sum_toFinset f (nodup_supportList count mask)]
  refine Finset.sum_congr (Finset.ext fun i => ?_) fun _ _ => rfl
  rw [List.mem_toFinset, mem_supportList]

theorem maskedLogits_eq (logits : List ℝ) (mask : UInt32) :
    maskedLogits logits mask
      = (supportList logits.length mask).map fun i => (logitAt logits i, i) := by
  have hrows : logits.zipIdx = (List.range logits.length).map fun i => (logitAt logits i, i) := by
    refine List.ext_getElem? fun i => ?_
    rw [List.getElem?_zipIdx, List.getElem?_map]
    by_cases hi : i < logits.length
    · rw [List.getElem?_range hi, List.getElem?_eq_getElem hi, Option.map_some, Option.map_some,
        logitAt, List.getD_eq_getElem _ _ hi, Nat.zero_add]
    · rw [List.getElem?_eq_none (not_lt.1 hi), List.getElem?_eq_none (by simpa using hi)]
      rfl
  rw [maskedLogits, hrows, List.filter_map, supportList]
  rfl

/-- The greatest logit is there where something is. -/
theorem exists_maxLogit {rows : List (ℝ × ℕ)} (h : rows ≠ []) :
    ∃ top, maxLogit rows = some top := by
  obtain ⟨row, rows, rfl⟩ := List.exists_cons_of_ne_nil h
  have hfold : ∀ (rows : List (ℝ × ℕ)) (best : ℝ), ∃ top,
      rows.foldl (fun best row => some (best.elim row.1 fun b => FloatOps.max b row.1)) (some best)
        = some top := by
    intro rows
    induction rows with
    | nil => exact fun best => ⟨best, rfl⟩
    | cons row rows ih => exact fun best => ih _
  exact hfold rows row.1

theorem foldl_add (l : List (ℝ × ℕ × ℝ)) :
    l.foldl (fun sum value => sum + value.2.2) 0 = (l.map fun value => value.2.2).sum := by
  rw [List.sum_eq_foldl, List.foldl_map]

theorem pickRow_eq (target cumulative : ℝ) (last : ℝ × ℕ × ℝ) (l : List (ℝ × ℕ × ℝ)) :
    pickRow target cumulative last l
      = pickFrom (fun row : ℝ × ℕ × ℝ => row.2.2) target cumulative last l := by
  induction l generalizing cumulative with
  | nil => rfl
  | cons row l ih =>
    rw [pickRow, pickFrom, ih]
    exact if_congr decide_eq_true_iff rfl rfl

/-- What comes before a candidate in the order of the mask are the smaller ones. -/
theorem sum_map_before {count : ℕ} {mask : UInt32} {pre post : List ℕ} {i : ℕ}
    (h : supportList count mask = pre ++ i :: post) (f : ℕ → ℝ) :
    (pre.map f).sum = ∑ j ∈ (support count mask).filter (· < i), f j := by
  have hsorted : (supportList count mask).Pairwise (· < ·) := List.pairwise_lt_range.filter _
  have hnodup := nodup_supportList count mask
  rw [h] at hsorted hnodup
  obtain ⟨-, hpost, hcross⟩ := List.pairwise_append.1 hsorted
  rw [← List.sum_toFinset f (List.nodup_append.1 hnodup).1]
  refine Finset.sum_congr (Finset.ext fun j => ?_) fun _ _ => rfl
  rw [List.mem_toFinset, Finset.mem_filter, ← mem_supportList, h, List.mem_append, List.mem_cons]
  constructor
  · exact fun hj => ⟨.inl hj, hcross j hj i List.mem_cons_self⟩
  · rintro ⟨hj | rfl | hj, hlt⟩
    · exact hj
    · exact absurd hlt (lt_irrefl _)
    · exact absurd (List.rel_of_pairwise_cons hpost hj) (not_lt.2 hlt.le)

/-- What is drawn: an entry of the mask and the logarithm of its probability. -/
theorem sample_eq {logits : List ℝ} {mask : UInt32} (temperature random : ℝ)
    (hmask : (support logits.length mask).Nonempty) :
    ∃ (top : ℝ) (last : ℕ),
      let S := support logits.length mask
      let weight (i : ℕ) := Real.exp ((logitAt logits i - top) / temperature)
      let i := pickFrom weight (random * ∑ i ∈ S, weight i) 0 last
        (supportList logits.length mask)
      sample logits mask temperature random
        = .ok (i.toUInt16, logSoftmax S temperature (logitAt logits) i) := by
  obtain ⟨first, hfirst⟩ := hmask
  have hne : supportList logits.length mask ≠ [] :=
    List.ne_nil_of_mem (mem_supportList.2 hfirst)
  have hrows := maskedLogits_eq logits mask
  have hrowsNe : maskedLogits logits mask ≠ [] := by
    rw [hrows]
    exact fun h => hne (List.map_eq_nil_iff.1 h)
  obtain ⟨top, htop⟩ := exists_maxLogit hrowsNe
  refine ⟨top, (supportList logits.length mask).getLast hne, ?_⟩
  have hlast : (maskedLogits logits mask).getLast?
      = some (logitAt logits ((supportList logits.length mask).getLast hne),
          (supportList logits.length mask).getLast hne) := by
    rw [hrows, List.getLast?_map, List.getLast?_eq_some_getLast hne]
    rfl
  dsimp only
  set weight : ℕ → ℝ := fun i => Real.exp ((logitAt logits i - top) / temperature) with hweight
  set entry : ℕ → ℝ × ℕ × ℝ := fun i => (logitAt logits i, i, weight i) with hentry
  have hsum : ((maskedLogits logits mask).map fun row : ℝ × ℕ =>
      (row.1, row.2, Real.exp ((row.1 - top) / temperature))).foldl
        (fun sum value => sum + value.2.2) 0 = ∑ i ∈ support logits.length mask, weight i := by
    rw [foldl_add, hrows, List.map_map, List.map_map, ← sum_supportList]
    rfl
  have hpositive : 0 < ∑ i ∈ support logits.length mask, weight i :=
    Finset.sum_pos (fun _ _ => Real.exp_pos _) ⟨first, hfirst⟩
  unfold sample
  dsimp only
  rw [htop, hlast]
  dsimp only
  refine contract_check_eq_ok_iff.2 ⟨reject_eq_ok_iff.2 ?_, ?_⟩
  · rintro (hinfinite | hle)
    · cases hinfinite
    · exact absurd (of_decide_eq_true hle) (not_le.2 (hsum ▸ hpositive))
  · set last := (supportList logits.length mask).getLast hne
    set values := (maskedLogits logits mask).map fun row : ℝ × ℕ =>
      (row.1, row.2, Real.exp ((row.1 - top) / temperature)) with hvalues
    have hentries : values = (supportList logits.length mask).map entry := by
      rw [hvalues, hrows, List.map_map]
      rfl
    have hselected : pickRow (random * values.foldl (fun sum value => sum + value.2.2) 0) 0
        (entry last) values = entry (pickFrom weight
          (random * ∑ i ∈ support logits.length mask, weight i) 0 last
          (supportList logits.length mask)) := by
      rw [pickRow_eq, hsum, hentries]
      exact pickFrom_map entry 0 last _
    set i := pickFrom weight (random * ∑ i ∈ support logits.length mask, weight i) 0 last
      (supportList logits.length mask)
    have hlog : (logitAt logits i - top) / temperature
        - Real.log (∑ i ∈ support logits.length mask, weight i)
        = logSoftmax (support logits.length mask) temperature (logitAt logits) i :=
      logSoftmax_shift ⟨first, hfirst⟩ top i
    refine congrArg Except.ok (Eq.trans (b := ((entry i).2.1.toUInt16,
      ((entry i).1 - top) / temperature - Real.log (∑ i ∈ support logits.length mask, weight i)))
      ?_ (Prod.ext rfl hlog))
    rw [← hselected, ← hsum]
    rfl

/-- The probability of the candidates before one. -/
noncomputable def drawnBefore (count : ℕ) (mask : UInt32) (temperature : ℝ) (x : ℕ → ℝ) (i : ℕ) :
    ℝ :=
  ∑ j ∈ (support count mask).filter (· < i), softmax (support count mask) temperature x j

section Interval

variable {logits : List ℝ} {mask : UInt32} {temperature random : ℝ}

/-- What is drawn has its interval above what comes before it. -/
theorem exists_sample_interval (temperature : ℝ) (hmask : (support logits.length mask).Nonempty)
    (hzero : 0 ≤ random) (hone : random < 1) :
    ∃ i ∈ support logits.length mask,
      sample logits mask temperature random
        = .ok (i.toUInt16, logSoftmax (support logits.length mask) temperature (logitAt logits) i)
      ∧ drawnBefore logits.length mask temperature (logitAt logits) i ≤ random
      ∧ random < drawnBefore logits.length mask temperature (logitAt logits) i
        + softmax (support logits.length mask) temperature (logitAt logits) i := by
  obtain ⟨top, last, hsample⟩ := sample_eq temperature random hmask
  dsimp only at hsample
  set S := support logits.length mask with hS
  set weight : ℕ → ℝ := fun i => Real.exp ((logitAt logits i - top) / temperature) with hweight
  set total := ∑ i ∈ S, weight i with htotal
  have hpositive : 0 < total := Finset.sum_pos (fun _ _ => Real.exp_pos _) hmask
  have hprobability : ∀ i, softmax S temperature (logitAt logits) i = weight i / total :=
    fun i => (softmax_shift top i).symm
  have hbefore : ∀ i, drawnBefore logits.length mask temperature (logitAt logits) i
      = (∑ j ∈ S.filter (· < i), weight j) / total := by
    intro i
    rw [drawnBefore, Finset.sum_div]
    exact Finset.sum_congr rfl fun j _ => hprobability j
  have hbelow : random * total < 0 + ((supportList logits.length mask).map weight).sum := by
    rw [zero_add, sum_supportList]
    exact mul_lt_of_lt_one_left hpositive hone
  obtain ⟨pre, post, hl, hlow, hhigh⟩ :=
    pickFrom_spec last (mul_nonneg hzero hpositive.le) hbelow
  set i := pickFrom weight (random * total) 0 last (supportList logits.length mask)
  rw [zero_add, sum_map_before hl] at hlow hhigh
  refine ⟨i, mem_supportList.1 (by rw [hl]; simp), hsample, ?_, ?_⟩
  · rwa [hbefore, div_le_iff₀ hpositive]
  · rwa [hbefore, hprobability, ← add_div, lt_div_iff₀ hpositive]

/-- The intervals of the candidates follow one another. -/
theorem drawnBefore_add_le {count : ℕ} {x : ℕ → ℝ} {i j : ℕ} (hi : i ∈ support count mask)
    (hij : i < j) :
    drawnBefore count mask temperature x i + softmax (support count mask) temperature x i
      ≤ drawnBefore count mask temperature x j := by
  have hnot : i ∉ (support count mask).filter (· < i) := fun h =>
    lt_irrefl i (Finset.mem_filter.1 h).2
  unfold drawnBefore
  rw [add_comm, ← Finset.sum_insert hnot]
  refine Finset.sum_le_sum_of_subset_of_nonneg (fun k hk => ?_)
    fun k _ _ => (softmax_pos ⟨i, hi⟩ k).le
  rw [Finset.mem_insert, Finset.mem_filter] at hk
  rw [Finset.mem_filter]
  rcases hk with rfl | ⟨hk, hlt⟩
  · exact ⟨hi, hij⟩
  · exact ⟨hk, hlt.trans hij⟩

theorem toNat_toUInt16 {count : ℕ} (hcount : count ≤ 32) {i : ℕ} (hi : i ∈ support count mask) :
    i.toUInt16.toNat = i := by
  have := (mem_support.1 hi).1
  exact UInt16.toNat_ofNat_of_lt' (by simp only [UInt16.size]; omega)

/-- **A draw from the softmax of a mask.**  A draw between zero and one picks a candidate exactly
when it lies in the interval that starts at the probability of the candidates before it and is as
long as its own, and the log probability that comes with it is the logarithm of that.  A division
by a temperature of zero is not that of the floats. -/
theorem sample_eq_ok_iff (hcount : logits.length ≤ 32)
    (hmask : (support logits.length mask).Nonempty) (_htemperature : temperature ≠ 0)
    (hzero : 0 ≤ random) (hone : random < 1)
    (index : UInt16) (logProbability : ℝ) :
    sample logits mask temperature random = .ok (index, logProbability) ↔
      index.toNat ∈ support logits.length mask
      ∧ drawnBefore logits.length mask temperature (logitAt logits) index.toNat ≤ random
      ∧ random < drawnBefore logits.length mask temperature (logitAt logits) index.toNat
        + softmax (support logits.length mask) temperature (logitAt logits) index.toNat
      ∧ Real.exp logProbability
        = softmax (support logits.length mask) temperature (logitAt logits) index.toNat := by
  obtain ⟨i, hi, hsample, hlow, hhigh⟩ :=
    exists_sample_interval temperature hmask hzero hone
  rw [hsample]
  constructor
  · intro h
    obtain ⟨rfl, rfl⟩ := Prod.mk.inj (Except.ok.inj h)
    rw [toNat_toUInt16 hcount hi]
    exact ⟨hi, hlow, hhigh, exp_logSoftmax hmask i⟩
  · rintro ⟨hj, hlow', hhigh', hlog⟩
    -- two intervals that share the draw are one
    have heq : i = index.toNat := by
      rcases lt_trichotomy i index.toNat with hlt | heq | hlt
      · exact absurd hhigh (not_lt.2 ((drawnBefore_add_le hi hlt).trans hlow'))
      · exact heq
      · exact absurd hhigh' (not_lt.2 ((drawnBefore_add_le hj hlt).trans hlow))
    subst heq
    refine congrArg Except.ok (Prod.ext (UInt16.toNat_inj.1 (toNat_toUInt16 hcount hi)) ?_)
    rw [← exp_logSoftmax hmask, Real.exp_eq_exp] at hlog
    exact hlog.symm

end Interval

/-- Two equal candidates: the upper half of the draws picks the second one. -/
theorem sample_eq_ok_iff_fair :
    sample ([0, 0] : List ℝ) 3 1 (3 / 4) = .ok (1, Real.log (1 / 2)) := by
  have hsupport : support [(0 : ℝ), 0].length 3 = {0, 1} := by decide
  have hlogits : ∀ i, logitAt [(0 : ℝ), 0] i = 0 := by
    rintro (_ | _ | i) <;> rfl
  have hhalf : ∀ i, softmax {0, 1} 1 (logitAt [(0 : ℝ), 0]) i = 1 / 2 := by
    intro i
    simp only [softmax, partitionSum, hlogits]
    norm_num
  have hbefore : drawnBefore [(0 : ℝ), 0].length 3 1 (logitAt [(0 : ℝ), 0]) 1 = 1 / 2 := by
    have hfilter : (support [(0 : ℝ), 0].length 3).filter (· < 1) = {0} := by decide
    rw [drawnBefore, hfilter, Finset.sum_singleton, hsupport, hhalf]
  refine (sample_eq_ok_iff (by simp) ⟨0, by decide⟩ one_ne_zero (by norm_num) (by norm_num) 1
    _).2 ?_
  have hindex : (1 : UInt16).toNat = 1 := rfl
  rw [hindex, hbefore, hsupport, hhalf, Real.exp_log (by norm_num)]
  exact ⟨by decide, by norm_num, by norm_num, rfl⟩

/-- A draw lies between zero and one. -/
theorem draw_mem (seed counter factor : UInt32) :
    0 < draw ℝ seed counter factor ∧ draw ℝ seed counter factor < 1 := by
  have hbound : (drawHash seed counter factor >>> 9).toNat < 8388608 := by
    rw [UInt32.toNat_shiftRight]
    have hlt := (drawHash seed counter factor).toNat_lt
    have hshift : (9 : UInt32).toNat % 32 = 9 := rfl
    rw [hshift, Nat.shiftRight_eq_div_pow]
    omega
  set k := (drawHash seed counter factor >>> 9).toNat with hk
  have hdraw : draw ℝ seed counter factor = ((k : ℝ) + 1 / 2) / 8388608 := by
    unfold draw
    change (((k : ℤ) : ℝ) / ((1 : ℕ) : ℝ) + ((1 : ℤ) : ℝ) / ((2 : ℕ) : ℝ))
      / (((8388608 : ℤ) : ℝ) / ((1 : ℕ) : ℝ)) = _
    norm_num
  have hcast : (k : ℝ) + 1 ≤ 8388608 := by exact_mod_cast hbound
  have hnonneg : (0 : ℝ) ≤ k := Nat.cast_nonneg k
  rw [hdraw]
  exact ⟨div_pos (by linarith) (by norm_num), (div_lt_one (by norm_num)).2 (by linarith)⟩

/-! ### The distributions of the objective -/

/-- The softmax of a mask, zero outside of it. -/
noncomputable def exactDistribution (count : ℕ) (mask : UInt32) (temperature : ℝ) (x : ℕ → ℝ) :
    Distribution ℝ where
  p i := if i ∈ support count mask then softmax (support count mask) temperature x i else 0
  lp i := if i ∈ support count mask then logSoftmax (support count mask) temperature x i else 0
  entropy := softEntropy (support count mask) temperature x

theorem shiftedLogit_eq (value maximum temperature : ℝ) :
    shiftedLogit value maximum temperature = (value - maximum) / temperature := by
  unfold shiftedLogit
  split_ifs
  · exact (sub_div value maximum temperature).symm
  · rfl

/-- A loop that takes positive terms away. -/
theorem foldl_sub_pos {p lp : ℕ → ℝ} {rows : List (ℝ × ℕ)} (h : ∀ row ∈ rows, 0 < p row.2)
    (start : ℝ) :
    rows.foldl (fun entropy row =>
        if decide (0 < p row.2) = true then entropy - p row.2 * lp row.2 else entropy) start
      = start - (rows.map fun row => p row.2 * lp row.2).sum := by
  induction rows generalizing start with
  | nil => rw [List.map_nil, List.sum_nil, sub_zero, List.foldl_nil]
  | cons row rows ih =>
    rw [List.forall_mem_cons] at h
    rw [List.foldl_cons, if_pos (decide_eq_true h.1), ih h.2, List.map_cons, List.sum_cons, sub_sub]

/-- What is read of the logits of a mask alone. -/
theorem elim_hasBit (f : ℝ → ℝ) (logits : List ℝ) (mask : UInt32) (i : ℕ) :
    (if hasBit mask i = true then (logits[i]?).elim 0 f else 0)
      = if i ∈ support logits.length mask then f (logitAt logits i) else 0 := by
  by_cases hi : i < logits.length
  · rw [List.getElem?_eq_getElem hi, Option.elim_some, logitAt, List.getD_eq_getElem _ _ hi]
    exact if_congr (by rw [mem_support, and_iff_right hi]) rfl rfl
  · rw [List.getElem?_eq_none (not_lt.1 hi), Option.elim_none, ite_self,
      if_neg fun hmem => hi (mem_support.1 hmem).1]

/-- **The distribution of a mask** is its softmax. -/
theorem categorical_eq {logits : List ℝ} {mask : UInt32} (temperature : ℝ)
    (hmask : mask = 0 ∨ (support logits.length mask).Nonempty) :
    categorical logits mask temperature
      = .ok (exactDistribution logits.length mask temperature (logitAt logits)) := by
  unfold categorical
  by_cases hzero : mask = 0
  · subst hzero
    rw [if_pos rfl]
    unfold exactDistribution softEntropy Distribution.default
    rw [support_zero]
    simp only [Finset.notMem_empty, if_false, Finset.sum_empty, neg_zero]
    rfl
  · obtain ⟨first, hfirst⟩ := hmask.resolve_left hzero
    have hne : supportList logits.length mask ≠ [] :=
      List.ne_nil_of_mem (mem_supportList.2 hfirst)
    have hrows := maskedLogits_eq logits mask
    have hrowsNe : maskedLogits logits mask ≠ [] := by
      rw [hrows]
      exact fun h => hne (List.map_eq_nil_iff.1 h)
    obtain ⟨top, htop⟩ := exists_maxLogit hrowsNe
    rw [if_neg hzero]
    dsimp only
    rw [htop]
    dsimp only
    set S := support logits.length mask
    set exact := exactDistribution logits.length mask temperature (logitAt logits) with hexact
    set z := (maskedLogits logits mask).foldl
      (fun z row => z + Real.exp (shiftedLogit row.1 top temperature)) 0 with hz
    have htotal : z = ∑ i ∈ S, Real.exp ((logitAt logits i - top) / temperature) := by
      rw [hz, hrows, List.foldl_map, ← sum_supportList, List.sum_eq_foldl, List.foldl_map]
      simp only [shiftedLogit_eq]
    have hpositive : 0 < z := htotal ▸ Finset.sum_pos (fun _ _ => Real.exp_pos _) ⟨first, hfirst⟩
    have hp : (fun i => if hasBit mask i = true then (logits[i]?).elim 0 fun v =>
        Real.exp (shiftedLogit v top temperature) / z else 0) = exact.p := by
      funext i
      rw [elim_hasBit]
      refine if_congr Iff.rfl ?_ rfl
      rw [shiftedLogit_eq, htotal]
      exact softmax_shift top i
    have hlp : (fun i => if hasBit mask i = true then (logits[i]?).elim 0 fun v =>
        shiftedLogit v top temperature - Real.log z else 0) = exact.lp := by
      funext i
      rw [elim_hasBit]
      refine if_congr Iff.rfl ?_ rfl
      rw [shiftedLogit_eq, htotal]
      exact logSoftmax_shift ⟨first, hfirst⟩ top i
    have hentropy : (maskedLogits logits mask).foldl (fun entropy row =>
        if decide (0 < exact.p row.2) = true then entropy - exact.p row.2 * exact.lp row.2
        else entropy) 0 = exact.entropy := by
      rw [foldl_sub_pos, zero_sub, hrows, List.map_map]
      · refine congrArg Neg.neg ?_
        have hsum := sum_supportList (fun i => exact.p i * exact.lp i) logits.length mask
        refine hsum.trans (Finset.sum_congr rfl fun i hi => ?_)
        rw [hexact]
        dsimp only [exactDistribution]
        rw [if_pos hi, if_pos hi]
      · intro row hrow
        rw [hrows] at hrow
        obtain ⟨i, hi, rfl⟩ := List.mem_map.1 hrow
        rw [hexact]
        dsimp only [exactDistribution]
        rw [if_pos (mem_supportList.1 hi)]
        exact softmax_pos ⟨first, hfirst⟩ i
    refine contract_check_eq_ok_iff.2 ⟨reject_eq_ok_iff.2 ?_, congrArg Except.ok ?_⟩
    · rintro (hinfinite | hle)
      · cases hinfinite
      · exact absurd (of_decide_eq_true hle) (not_le.2 hpositive)
    · refine Eq.trans (b := (⟨exact.p, exact.lp, exact.entropy⟩ : Distribution ℝ)) ?_ rfl
      rw [← hentropy, ← hp, ← hlp]
      rfl

end Training

end ALife
