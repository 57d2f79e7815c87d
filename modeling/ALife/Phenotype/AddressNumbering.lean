/-
# Numbering the rows of an address table

The ordinal loop runs over rows sorted by name and counts the repetitions of a
name.  It leaves the packed indices alone and makes the keys strictly
increasing (`numberRows_spec`), so no two numbered rows share an address; and
it looks at the names only, so relabelling the packed indices commutes with it
(`numberRows_map`).
-/

import ALife.Phenotype.PersistentAddress

namespace ALife

open Machine

/-- The loop counts strictly up: behind a name that was already there, and from
row to row. -/
theorem runningOrdinals_spec {names : List (List ℕ)} {prior : Option (List ℕ)} {ordinal : UInt16}
    {ordinals : List UInt16} (h : runningOrdinals prior ordinal names = .ok ordinals)
    (hsorted : names.Pairwise (· ≤ ·)) (hprior : ∀ p, prior = some p → ∀ n ∈ names, p ≤ n) :
    ordinals.length = names.length
      ∧ (List.zipWith (fun n o => toLex (n, o.toNat)) names ordinals).Pairwise (· < ·)
      ∧ ∀ p, prior = some p → ∀ k ∈ List.zipWith (fun n o => toLex (n, o.toNat)) names ordinals,
        toLex (p, ordinal.toNat) < k := by
  induction names generalizing prior ordinal ordinals with
  | nil =>
    cases h
    simp
  | cons name names ih =>
    rw [List.pairwise_cons] at hsorted
    have hnext : ∀ p, some name = some p → ∀ n ∈ names, p ≤ n := by
      rintro p hp n hn
      cases hp
      exact hsorted.1 n hn
    unfold runningOrdinals at h
    split_ifs at h with hrepeat
    · -- the name repeats: the ordinal goes up by one
      obtain ⟨hroom, h⟩ := contract_check_eq_ok_iff.1 h
      obtain ⟨rest, hrest, h⟩ := contract_bind_eq_ok_iff.1 h
      obtain rfl := Except.ok.inj h
      rw [reject_eq_ok_iff] at hroom
      subst hrepeat
      obtain ⟨hlength, hpairwise, habove⟩ := ih hrest hsorted.2 hnext
      have hstep : (ordinal + 1).toNat = ordinal.toNat + 1 := by
        have := ordinal.toNat_lt
        rw [UInt16.toNat_add]
        show (ordinal.toNat + 1) % 65536 = _
        omega
      have hup : toLex (name, ordinal.toNat) < toLex (name, (ordinal + 1).toNat) :=
        Prod.Lex.toLex_lt_toLex.2 (.inr ⟨rfl, by omega⟩)
      refine ⟨by rw [List.length_cons, List.length_cons, hlength], ?_, ?_⟩
      · rw [List.zipWith_cons_cons, List.pairwise_cons]
        exact ⟨habove name rfl, hpairwise⟩
      · rintro p hp k hk
        cases hp
        rw [List.zipWith_cons_cons, List.mem_cons] at hk
        obtain rfl | hk := hk
        · exact hup
        · exact hup.trans (habove name rfl k hk)
    · -- a new name: above the one before, and the ordinal starts again
      obtain ⟨rest, hrest, h⟩ := contract_bind_eq_ok_iff.1 h
      obtain rfl := Except.ok.inj h
      obtain ⟨hlength, hpairwise, habove⟩ := ih hrest hsorted.2 hnext
      refine ⟨by rw [List.length_cons, List.length_cons, hlength], ?_, ?_⟩
      · rw [List.zipWith_cons_cons, List.pairwise_cons]
        exact ⟨habove name rfl, hpairwise⟩
      · intro p hp k hk
        have hlt : p < name := lt_of_le_of_ne (hprior p hp name List.mem_cons_self)
          (by rintro rfl; exact hrepeat hp)
        have hup : toLex (p, ordinal.toNat) < toLex (name, (0 : UInt16).toNat) :=
          Prod.Lex.toLex_lt_toLex.2 (.inl hlt)
        rw [List.zipWith_cons_cons, List.mem_cons] at hk
        obtain rfl | hk := hk
        · exact hup
        · exact hup.trans (habove name rfl k hk)

variable {A : Type} {names : A → List ℕ} {setOrdinal : A → UInt16 → A}

/-- **Numbered rows:** the packed indices of the sorted rows, under strictly
increasing keys. -/
theorem numberRows_spec {ordinalOf : A → UInt16} (hnames : ∀ a o, names (setOrdinal a o) = names a)
    (hordinal : ∀ a o, ordinalOf (setOrdinal a o) = o) {rows numbered : List (ℕ × A)}
    (hsorted : (rows.map fun row => names row.2).Pairwise (· ≤ ·))
    (h : numberRows names setOrdinal rows = .ok numbered) :
    numbered.map Prod.fst = rows.map Prod.fst
      ∧ (numbered.map fun row => toLex (names row.2, (ordinalOf row.2).toNat)).Pairwise (· < ·) := by
  obtain ⟨ordinals, hordinals, h⟩ := contract_bind_eq_ok_iff.1 h
  obtain rfl := Except.ok.inj h
  obtain ⟨hlength, hpairwise, -⟩ := runningOrdinals_spec hordinals hsorted (by simp)
  rw [List.length_map] at hlength
  constructor
  · have hfst : (rows.zip ordinals).map Prod.fst = rows :=
      List.map_fst_zip (le_of_eq hlength.symm)
    calc _ = List.map (fun p : (ℕ × A) × UInt16 => p.1.1) (rows.zip ordinals) := by
          rw [List.map_zipWith, List.map_zip_eq_zipWith]
          rfl
      _ = ((rows.zip ordinals).map Prod.fst).map Prod.fst := by rw [List.map_map]; rfl
      _ = rows.map Prod.fst := by rw [hfst]
  · rw [List.map_zipWith]
    simp only [hnames, hordinal]
    rwa [List.zipWith_map_left] at hpairwise

/-- Relabelling the packed indices commutes with the loop. -/
theorem numberRows_map (f : ℕ → ℕ) {rows numbered : List (ℕ × A)}
    (h : numberRows names setOrdinal rows = .ok numbered) :
    numberRows names setOrdinal (rows.map (Prod.map f id)) = .ok (numbered.map (Prod.map f id)) := by
  obtain ⟨ordinals, hordinals, h⟩ := contract_bind_eq_ok_iff.1 h
  obtain rfl := Except.ok.inj h
  refine contract_bind_eq_ok_iff.2 ⟨ordinals, ?_, ?_⟩
  · rw [List.map_map]
    exact hordinals
  · rw [List.zipWith_map_left, List.map_zipWith]
    rfl

end ALife
