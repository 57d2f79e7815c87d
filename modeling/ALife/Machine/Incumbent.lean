/-
# An incumbent in front of a ranking

A selection takes the first `n` of a ranked list.  A selection with an incumbent puts that one
in front and cuts to `n` again, as `retain`, `insert(0, _)` and `truncate` do (`keepFirst`).
An incumbent among the first `n` moves to the front; one behind them takes the place of the
last (`keepFirst_of_mem`, `keepFirst_of_notMem`).
-/

import ALife.Machine.SortedNames

namespace Machine

variable {α : Type} [DecidableEq α] {n : ℕ} {a : α} {ranked : List α}

/-- The first `n` of a ranking with `a` put in front of them. -/
def keepFirst (n : ℕ) (a : α) (ranked : List α) : List α :=
  (a :: (ranked.take n).filter (· ≠ a)).take n

theorem keepFirst_zero : keepFirst 0 a ranked = [] := List.take_zero

theorem head?_keepFirst (hn : 0 < n) : (keepFirst n a ranked).head? = some a := by
  obtain ⟨m, rfl⟩ := Nat.exists_eq_succ_of_ne_zero hn.ne'
  rfl

theorem filter_ne_eq_erase {l : List α} (hl : l.Nodup) : l.filter (· ≠ a) = l.erase a := by
  rw [hl.erase_eq_filter]
  exact List.filter_congr fun b _ => by simp [bne, beq_eq_decide]

/-- An incumbent among the first `n` moves to the front, and the rest keep their order. -/
theorem keepFirst_of_mem (hranked : ranked.Nodup) (ha : a ∈ ranked.take n) :
    keepFirst n a ranked = a :: (ranked.take n).erase a := by
  have hlength := List.length_erase_of_mem ha
  have hpos := List.length_pos_of_mem ha
  have htake : (ranked.take n).length ≤ n := List.length_take_le n ranked
  unfold keepFirst
  rw [filter_ne_eq_erase (hranked.sublist (List.take_sublist n ranked))]
  refine List.take_of_length_le ?_
  rw [List.length_cons]
  omega

/-- An incumbent behind the first `n` takes the place of the last of them. -/
theorem keepFirst_of_notMem (hn : 0 < n) (ha : a ∉ ranked.take n) :
    keepFirst n a ranked = a :: ranked.take (n - 1) := by
  obtain ⟨m, rfl⟩ := Nat.exists_eq_succ_of_ne_zero hn.ne'
  have hfilter : (ranked.take (m + 1)).filter (· ≠ a) = ranked.take (m + 1) :=
    List.filter_eq_self.2 fun b hb => decide_eq_true fun hba => ha (hba ▸ hb)
  unfold keepFirst
  rw [hfilter, List.take_succ_cons, List.take_take, Nat.succ_eq_add_one, Nat.add_sub_cancel,
    min_eq_left (Nat.le_succ m)]

theorem keepFirst_subset (ha : a ∈ ranked) : keepFirst n a ranked ⊆ ranked := by
  intro b hb
  obtain rfl | hb := List.mem_cons.1 (List.mem_of_mem_take hb)
  · exact ha
  · exact List.mem_of_mem_take (List.mem_of_mem_filter hb)

theorem nodup_keepFirst (hranked : ranked.Nodup) : (keepFirst n a ranked).Nodup := by
  refine List.Nodup.sublist (List.take_sublist _ _) (List.nodup_cons.2 ⟨fun h => ?_, ?_⟩)
  · exact of_decide_eq_true (List.mem_filter.1 h).2 rfl
  · exact (hranked.sublist (List.take_sublist n ranked)).filter _

/-- The selection is as long with an incumbent as without. -/
theorem length_keepFirst (hranked : ranked.Nodup) (ha : a ∈ ranked) :
    (keepFirst n a ranked).length = min n ranked.length := by
  by_cases hmem : a ∈ ranked.take n
  · have hlength := List.length_erase_of_mem hmem
    have hpos := List.length_pos_of_mem hmem
    rw [keepFirst_of_mem hranked hmem, List.length_cons, hlength, Nat.sub_add_cancel hpos,
      List.length_take]
  · obtain rfl | hn := Nat.eq_zero_or_pos n
    · rw [keepFirst_zero, List.length_nil, Nat.zero_min]
    · have hlong : n < ranked.length := by
        by_contra hle
        exact hmem (by rwa [List.take_of_length_le (not_lt.1 hle)])
      rw [keepFirst_of_notMem hn hmem, List.length_cons, List.length_take]
      omega

section Challenger

variable {κ : Type} [LinearOrder κ] {score : α → κ}

/-- In a ranking by descending score the first one other than the incumbent scores most among
the others. -/
theorem exists_score_find?_iff (hranked : ranked.Pairwise fun b c => score c ≤ score b)
    (bound : κ) :
    (∃ b, ranked.find? (· ≠ a) = some b ∧ bound < score b) ↔
      ∃ b ∈ ranked, b ≠ a ∧ bound < score b := by
  constructor
  · rintro ⟨b, hb, hlt⟩
    exact ⟨b, List.mem_of_find?_eq_some hb, by simpa using List.find?_some hb, hlt⟩
  · rintro ⟨b, hb, hne, hlt⟩
    induction ranked with
    | nil => cases hb
    | cons c rest ih =>
      obtain ⟨hfirst, hrest⟩ := List.pairwise_cons.1 hranked
      by_cases hc : c = a
      · obtain rfl | hb := List.mem_cons.1 hb
        · exact absurd hc hne
        · obtain ⟨d, hd, hdlt⟩ := ih hrest hb
          exact ⟨d, by rw [List.find?_cons_of_neg (by simpa using hc), hd], hdlt⟩
      · refine ⟨c, List.find?_cons_of_pos (by simpa using hc), ?_⟩
        obtain rfl | hb := List.mem_cons.1 hb
        · exact hlt
        · exact hlt.trans_le (hfirst b hb)

end Challenger

end Machine
