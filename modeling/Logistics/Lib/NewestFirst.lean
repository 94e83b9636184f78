import Mathlib

/-!
# Sorting entries by the time they carry

A log is kept in the order in which its entries were made, and is shown sorted by a key of the
entries, greatest key first; the sort is stable, so entries with one key stand in the order in which
they were made.

* `newestFirst key l`       the list as it is shown;
* `Climbs key l`            the keys grow, but for repetitions of one entry;
* `newestFirst_of_climbs`   such a list is shown backwards;
* `newestFirst_concat_iff`  **one more entry leaves it so exactly if its key is the greatest**.
-/

namespace NewestFirst
variable {α κ : Type} [LinearOrder κ] (key : α → κ)

def newestFirst (l : List α) : List α := l.insertionSort fun a b => key b ≤ key a

def Climbs (l : List α) : Prop := l.Pairwise fun a b => key a < key b ∨ a = b

variable {key} {l : List α} {a : α}

theorem climbs_concat :
    Climbs key (l ++ [a]) ↔ Climbs key l ∧ ∀ b ∈ l, key b < key a ∨ b = a := by
  unfold Climbs
  rw [List.pairwise_append]
  constructor
  · rintro ⟨hl, -, hlast⟩
    exact ⟨hl, fun b hb => hlast b hb a (List.mem_singleton_self a)⟩
  · rintro ⟨hl, hlast⟩
    refine ⟨hl, List.pairwise_singleton _ a, fun b hb c hc => ?_⟩
    rw [List.mem_singleton.mp hc]
    exact hlast b hb

/-- an entry whose key is below all others, itself apart, goes to the end -/
theorem orderedInsert_eq_concat (hsorted : l.Pairwise fun b c => key c ≤ key b)
    (hlow : ∀ b ∈ l, key a < key b ∨ a = b) :
    l.orderedInsert (fun b c => key c ≤ key b) a = l ++ [a] := by
  induction l with
  | nil => rfl
  | cons b l ih =>
    obtain ⟨hb, hl⟩ := List.pairwise_cons.mp hsorted
    obtain ⟨hlow_b, hlow_l⟩ := List.forall_mem_cons.mp hlow
    rw [List.orderedInsert_cons]
    by_cases hle : key b ≤ key a
    · rw [if_pos hle]
      have hab : a = b := hlow_b.resolve_left (not_lt_of_ge hle)
      -- from here on every entry is `a`
      have hall : ∀ c ∈ l, c = a := by
        intro c hc
        have hca : key c ≤ key a := (hb c hc).trans hle
        exact ((hlow_l c hc).resolve_left (not_lt_of_ge hca)).symm
      rw [← hab, List.eq_replicate_of_mem hall, ← List.replicate_succ, ← List.replicate_succ,
        List.replicate_succ']
    · rw [if_neg hle, ih hl hlow_l]
      rfl

theorem newestFirst_of_climbs (h : Climbs key l) : newestFirst key l = l.reverse := by
  unfold newestFirst
  induction l with
  | nil => rfl
  | cons a l ih =>
    obtain ⟨ha, hl⟩ := List.pairwise_cons.mp h
    rw [List.insertionSort_cons, ih hl, List.reverse_cons]
    apply orderedInsert_eq_concat
    · rw [List.pairwise_reverse]
      refine hl.imp fun {b c} hbc => ?_
      rcases hbc with hlt | rfl
      · exact hlt.le
      · exact le_rfl
    · intro b hb
      exact ha b (List.mem_reverse.mp hb)

/-- **Where the entries so far climb, one more leaves the list shown backwards exactly if its key is
greater than those of all other entries.** -/
theorem newestFirst_concat_iff (h : Climbs key l) :
    newestFirst key (l ++ [a]) = (l ++ [a]).reverse ↔ ∀ b ∈ l, key b < key a ∨ b = a := by
  constructor
  · intro hshown b hb
    by_contra hno
    obtain ⟨hnlt, hne⟩ := not_or.mp hno
    rw [List.reverse_concat] at hshown
    have hsorted : (a :: l.reverse).Pairwise fun b c => key c ≤ key b := by
      rw [← hshown]
      exact List.pairwise_insertionSort _ _
    have hle : key b ≤ key a := (List.pairwise_cons.mp hsorted).1 b (List.mem_reverse.mpr hb)
    -- the sort is stable: `b` was made before `a`, and its key is not smaller
    have hstable : [b, a].Sublist (a :: l.reverse) := by
      rw [← hshown]
      apply List.pair_sublist_insertionSort
      · exact le_of_not_gt hnlt
      · exact (List.singleton_sublist.mpr hb).append (List.Sublist.refl [a])
    -- so `a` had been made before, and before `b`
    have hearlier : [a, b].Sublist l := by
      rcases List.cons_sublist_cons'.mp hstable with htail | ⟨heq, -⟩
      · exact List.reverse_sublist.mp htail
      · exact absurd heq hne
    rcases List.pairwise_iff_forall_sublist.mp h hearlier with hlt | heq
    · exact absurd hlt (not_lt_of_ge hle)
    · exact hne heq.symm
  · intro hlast
    exact newestFirst_of_climbs (climbs_concat.mpr ⟨h, hlast⟩)

end NewestFirst
