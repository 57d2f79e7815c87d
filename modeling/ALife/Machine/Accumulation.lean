/-
# Loops that add into an array

The body of a loop `for x in xs { acc[i] += v }` adds something to what it
accumulates and reads only what the loop does not write.  Such a loop leaves the
start value plus the sum of what its rounds added (`foldl_add_of_step`).  The
accumulator of a gradient is compared through its pairing with a tangent, and a
pairing turns the sums of the loop into sums of numbers (`sum_dotProduct_list`,
`single_dotProduct`).  A loop over the edges of a graph and one over the nodes
and their incoming edges add the same numbers (`sum_mul_sum_ite`).
-/

import Mathlib.Data.Matrix.Mul
import Mathlib.Algebra.BigOperators.Fin

namespace Machine

open scoped BigOperators

variable {ι κ σ A R : Type*}

section Arrays

variable [DecidableEq ι]

/-- `f[i] += v`. -/
def addAt [Add A] (f : ι → A) (i : ι) (v : A) : ι → A := Function.update f i (f i + v)

theorem addAt_same [Add A] (f : ι → A) (i : ι) (v : A) : addAt f i v i = f i + v :=
  Function.update_self i _ f

theorem addAt_of_ne [Add A] (f : ι → A) {i j : ι} (v : A) (h : j ≠ i) : addAt f i v j = f j :=
  Function.update_of_ne h _ f

theorem addAt_eq_add_single [AddZeroClass A] (f : ι → A) (i : ι) (v : A) :
    addAt f i v = f + Pi.single i v := by
  funext j
  rcases eq_or_ne j i with rfl | h
  · rw [addAt_same, Pi.add_apply, Pi.single_eq_same]
  · rw [addAt_of_ne f v h, Pi.add_apply, Pi.single_eq_of_ne h, add_zero]

/-- A map to which an addition at a place is an addition. -/
theorem apply_addAt [AddZeroClass A] [AddCommMonoid R] (π : (ι → A) →+ R) (f : ι → A) (i : ι)
    (v : A) : π (addAt f i v) = π f + π (Pi.single i v) := by
  rw [addAt_eq_add_single, map_add]

end Arrays

section Loops

variable [AddCommMonoid A]

/-- A loop whose every round adds `inc x` to what `π` reads. -/
theorem foldl_add_of_step {π : σ → A} {f : σ → κ → σ} {inc : κ → A}
    (hstep : ∀ s x, π (f s x) = π s + inc x) (l : List κ) (s : σ) :
    π (l.foldl f s) = π s + (l.map inc).sum := by
  induction l generalizing s with
  | nil => simp
  | cons x l ih => rw [List.foldl_cons, ih, hstep, List.map_cons, List.sum_cons, add_assoc]

/-- A loop over a list, round by round of its members. -/
theorem foldl_add_of_mem {π : σ → A} {f : σ → κ → σ} {inc : κ → A} {l : List κ}
    (hstep : ∀ s, ∀ x ∈ l, π (f s x) = π s + inc x) (s : σ) :
    π (l.foldl f s) = π s + (l.map inc).sum := by
  induction l generalizing s with
  | nil => simp
  | cons x l ih =>
    rw [List.foldl_cons, ih fun s y hy => hstep s y (List.mem_cons_of_mem _ hy),
      hstep s x List.mem_cons_self, List.map_cons, List.sum_cons, add_assoc]

/-- A loop whose rounds may fail, when none did. -/
theorem foldlM_add_of_mem {ε : Type*} {π : σ → A} {f : σ → κ → Except ε σ} {inc : κ → A}
    {l : List κ} (hstep : ∀ s s', ∀ x ∈ l, f s x = .ok s' → π s' = π s + inc x) {s s' : σ}
    (h : l.foldlM f s = .ok s') : π s' = π s + (l.map inc).sum := by
  induction l generalizing s with
  | nil =>
    obtain rfl := Except.ok.inj h
    simp
  | cons x l ih =>
    rw [List.foldlM_cons] at h
    rcases hx : f s x with e | y
    · rw [hx] at h
      cases h
    · rw [hx] at h
      rw [ih (fun s s' z hz => hstep s s' z (List.mem_cons_of_mem _ hz)) h,
        hstep s y x List.mem_cons_self hx, List.map_cons, List.sum_cons, add_assoc]

/-- The numbered rounds of a loop, summed by their numbers. -/
theorem sum_map_zipIdx {l : List κ} {inc : κ × ℕ → A} {G : ℕ → A}
    (h : ∀ i x, l[i]? = some x → inc (x, i) = G i) :
    (l.zipIdx.map inc).sum = ∑ i ∈ Finset.range l.length, G i := by
  induction l using List.reverseRecOn with
  | nil => rfl
  | append_singleton l x ih =>
    have hlast := h l.length x (by simp)
    have hinit := ih fun i y hy => h i y (by
      rw [List.getElem?_append_left (List.getElem?_eq_some_iff.1 hy).1]
      exact hy)
    rw [List.zipIdx_append, List.map_append, List.sum_append, hinit, List.length_append,
      List.length_singleton, Finset.sum_range_succ]
    simpa using congrArg _ hlast

/-- A loop that leaves alone what `π` reads. -/
theorem foldl_keeps {β : Type*} {π : σ → β} {f : σ → κ → σ} (hstep : ∀ s x, π (f s x) = π s)
    (l : List κ) (s : σ) : π (l.foldl f s) = π s := by
  induction l generalizing s with
  | nil => rfl
  | cons x l ih => rw [List.foldl_cons, ih, hstep]

end Loops

section Pairings

variable [Fintype ι]

theorem sum_dotProduct_list [NonUnitalNonAssocSemiring R] (l : List κ) (u : κ → ι → R)
    (v : ι → R) : (l.map u).sum ⬝ᵥ v = (l.map fun x => u x ⬝ᵥ v).sum := by
  induction l with
  | nil => simp
  | cons x l ih => simp only [List.map_cons, List.sum_cons, add_dotProduct, ih]

/-- The edges with their targets, summed node by node. -/
theorem sum_mul_sum_ite [DecidableEq ι] [CommSemiring R] (δ : ι → R) (target : κ → ι) (x : κ → R)
    (l : List κ) :
    ∑ i, δ i * (l.map fun e => if target e = i then x e else 0).sum
      = (l.map fun e => δ (target e) * x e).sum := by
  induction l with
  | nil => simp
  | cons e l ih => simp [mul_add, Finset.sum_add_distrib, ih]

/-- The same, of the edges that a list picks for each node. -/
theorem sum_mul_sum_filter [DecidableEq ι] [CommSemiring R] (δ : ι → R) (target : κ → ι)
    (x : κ → R) (l : List κ) :
    ∑ i, δ i * ((l.filter fun e => target e = i).map x).sum
      = (l.map fun e => δ (target e) * x e).sum := by
  rw [← sum_mul_sum_ite]
  refine Finset.sum_congr rfl fun i _ => congrArg (δ i * ·) ?_
  induction l with
  | nil => rfl
  | cons e l ih => by_cases h : target e = i <;> simp [h, ih]

end Pairings

end Machine
