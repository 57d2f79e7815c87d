/-
# Runs of a step function

A run is a list of inputs fed to `step : σ → ι → σ` one after the other; its
last state is `List.foldl step s is`.  `Along step P s is` says that `P` holds
of every state and input the run passes through, `outputs` collects what the
steps hand out.  The rules here are the inductions done once: an invariant
carried along (`foldl_of_invariant`, `Along.of_invariant`), a property of every
step decided step by step (`along_iff_of_invariant`), a counter bounded by the
number of outputs (`along_lt_of_outputs`), and outputs that a monotone level
keeps strictly increasing, hence distinct (`pairwise_lt_outputs`).
-/

import Mathlib.Tactic

namespace Machine

variable {σ ι ο : Type*} {step : σ → ι → σ}

/-- Every step of the run from `s` on the inputs satisfies `P`. -/
def Along (step : σ → ι → σ) (P : σ → ι → Prop) : σ → List ι → Prop
  | _, [] => True
  | s, i :: is => P s i ∧ Along step P (step s i) is

instance decidableAlong {P : σ → ι → Prop} [∀ s i, Decidable (P s i)] :
    ∀ s is, Decidable (Along step P s is)
  | _, [] => .isTrue trivial
  | s, i :: is => @instDecidableAnd _ _ _ (decidableAlong (step s i) is)

/-- What the steps of the run hand out, in order. -/
def outputs (step : σ → ι → σ) (out : σ → ι → Option ο) : σ → List ι → List ο
  | _, [] => []
  | s, i :: is => (out s i).toList ++ outputs step out (step s i) is

/-- A step hands out at most one output. -/
theorem length_outputs_le (out : σ → ι → Option ο) (s : σ) (is : List ι) :
    (outputs step out s is).length ≤ is.length := by
  induction is generalizing s with
  | nil => exact le_rfl
  | cons i is ih =>
    have hone : (out s i).toList.length ≤ 1 := by cases out s i <;> simp
    have := ih (step s i)
    rw [outputs, List.length_append, List.length_cons]
    omega

/-- Along a run is at every input of it, in the state the earlier inputs lead to. -/
theorem along_iff_forall_split {P : σ → ι → Prop} {s : σ} {is : List ι} :
    Along step P s is ↔ ∀ pre i post, is = pre ++ i :: post → P (pre.foldl step s) i := by
  induction is generalizing s with
  | nil => simp [Along]
  | cons i is ih =>
    rw [Along, ih]
    constructor
    · rintro ⟨hi, his⟩ pre j post he
      cases pre with
      | nil =>
        obtain ⟨rfl, -⟩ := List.cons.inj he
        exact hi
      | cons k pre =>
        obtain ⟨rfl, htail⟩ := List.cons.inj he
        exact his pre j post htail
    · intro h
      exact ⟨h [] i is rfl, fun pre j post he => h (i :: pre) j post (by rw [he]; rfl)⟩

/-- A property of one step that follows from another holds along where the other does. -/
theorem Along.mono {P Q : σ → ι → Prop} (h : ∀ s i, P s i → Q s i) {s : σ} {is : List ι} :
    Along step P s is → Along step Q s is := by
  induction is generalizing s with
  | nil => exact id
  | cons i is ih => exact fun ⟨hi, his⟩ => ⟨h s i hi, ih his⟩

/-- An invariant that the steps allowed by `C` preserve holds of the last state. -/
theorem foldl_of_invariant {I : σ → Prop} {C : σ → ι → Prop}
    (hstep : ∀ s i, I s → C s i → I (step s i)) {s : σ} {is : List ι} (hs : I s)
    (hC : Along step C s is) : I (is.foldl step s) := by
  induction is generalizing s with
  | nil => exact hs
  | cons i is ih => exact ih (hstep s i hs hC.1) hC.2

/-- What every allowed step from an invariant state satisfies holds along the run. -/
theorem Along.of_invariant {I : σ → Prop} {C P : σ → ι → Prop}
    (hstep : ∀ s i, I s → C s i → I (step s i) ∧ P s i) {s : σ} {is : List ι} (hs : I s)
    (hC : Along step C s is) : Along step P s is := by
  induction is generalizing s with
  | nil => trivial
  | cons i is ih =>
    obtain ⟨hI, hP⟩ := hstep s i hs hC.1
    exact ⟨hP, ih hI hC.2⟩

/-- When `P` re-establishes the invariant and `C` decides `P` in invariant
states, the run satisfies `P` throughout iff it satisfies `C` throughout. -/
theorem along_iff_of_invariant {I : σ → Prop} {P C : σ → ι → Prop}
    (hiff : ∀ s i, I s → (P s i ↔ C s i)) (hstep : ∀ s i, I s → P s i → I (step s i))
    {s : σ} {is : List ι} (hs : I s) : Along step P s is ↔ Along step C s is := by
  induction is generalizing s with
  | nil => exact Iff.rfl
  | cons i is ih =>
    rw [Along, Along, ← hiff s i hs]
    exact and_congr_right fun hP => ih (hstep s i hs hP)

theorem Along.and {P Q : σ → ι → Prop} {s : σ} {is : List ι} (hP : Along step P s is)
    (hQ : Along step Q s is) : Along step (fun s i => P s i ∧ Q s i) s is := by
  induction is generalizing s with
  | nil => trivial
  | cons i is ih => exact ⟨⟨hP.1, hQ.1⟩, ih hP.2 hQ.2⟩

/-- A counter that rises at most once for each output stays below any bound that
its start and the number of outputs stay below. -/
theorem along_lt_of_outputs {out : σ → ι → Option ο} {level : σ → ℕ} {b : ℕ}
    (hstep : ∀ s i, level (step s i) ≤ level s + (out s i).toList.length) {s : σ} {is : List ι}
    (h : level s + (outputs step out s is).length < b) :
    Along step (fun s _ => level s < b) s is := by
  induction is generalizing s with
  | nil => trivial
  | cons i is ih =>
    rw [outputs, List.length_append] at h
    refine ⟨by omega, ih ?_⟩
    have := hstep s i
    omega

/-- Outputs handed out above a level that only rises come out strictly
increasing: each is above the level before its step and at most the level
after it. -/
theorem pairwise_lt_outputs [Preorder ο] {out : σ → ι → Option ο} {level : σ → ο} {s : σ}
    {is : List ι}
    (h : Along step (fun s i => level s ≤ level (step s i) ∧
      ∀ o, out s i = some o → level s < o ∧ o ≤ level (step s i)) s is) :
    (outputs step out s is).Pairwise (· < ·) ∧ ∀ o ∈ outputs step out s is, level s < o := by
  induction is generalizing s with
  | nil => simp [outputs]
  | cons i is ih =>
    obtain ⟨⟨hmono, hout⟩, his⟩ := h
    obtain ⟨hpair, habove⟩ := ih his
    cases ho : out s i with
    | none =>
      simp only [outputs, ho, Option.toList_none, List.nil_append]
      exact ⟨hpair, fun o hmem => hmono.trans_lt (habove o hmem)⟩
    | some o =>
      obtain ⟨hlt, hle⟩ := hout o ho
      simp only [outputs, ho, Option.toList_some, List.singleton_append, List.pairwise_cons,
        List.mem_cons]
      refine ⟨⟨fun o' hmem => hle.trans_lt (habove o' hmem), hpair⟩, ?_⟩
      rintro o' (rfl | hmem)
      · exact hlt
      · exact hmono.trans_lt (habove o' hmem)

/-- Outputs whose keys a counter hands out, each below the counter after its step, have
increasing keys from the counter on. -/
theorem pairwise_key_lt_outputs {out : σ → ι → Option ο} {key : ο → ℕ} {counter : σ → ℕ} {s : σ}
    {is : List ι}
    (h : Along step (fun s i => counter s ≤ counter (step s i) ∧
      ∀ o, out s i = some o → counter s ≤ key o ∧ key o < counter (step s i)) s is) :
    (outputs step out s is).Pairwise (fun o o' => key o < key o') ∧
      ∀ o ∈ outputs step out s is, counter s ≤ key o := by
  induction is generalizing s with
  | nil => simp [outputs]
  | cons i is ih =>
    obtain ⟨⟨hmono, hout⟩, his⟩ := h
    obtain ⟨hpair, habove⟩ := ih his
    cases ho : out s i with
    | none =>
      simp only [outputs, ho, Option.toList_none, List.nil_append]
      exact ⟨hpair, fun o hmem => hmono.trans (habove o hmem)⟩
    | some o =>
      obtain ⟨hle, hlt⟩ := hout o ho
      simp only [outputs, ho, Option.toList_some, List.singleton_append, List.pairwise_cons,
        List.mem_cons]
      refine ⟨⟨fun o' hmem => hlt.trans_le (habove o' hmem), hpair⟩, ?_⟩
      rintro o' (rfl | hmem)
      · exact hle
      · exact hmono.trans (habove o' hmem)

/-- A log that each step extends by its output at most stays a part of the log at the
start and all outputs. -/
theorem sublist_append_outputs {out : σ → ι → Option ο} (log : σ → List ο)
    (hstep : ∀ s i, (log (step s i)).Sublist (log s ++ (out s i).toList)) (s : σ) (is : List ι) :
    (log (is.foldl step s)).Sublist (log s ++ outputs step out s is) := by
  induction is generalizing s with
  | nil =>
    rw [outputs, List.append_nil]
    exact List.Sublist.refl _
  | cons i is ih =>
    rw [outputs, ← List.append_assoc]
    exact (ih (step s i)).trans ((hstep s i).append_right _)

end Machine
