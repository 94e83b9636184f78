import Mathlib

/-!
# Copying a source in chunks

A loop that reads a chunk, writes it and goes on until a read delivers nothing.  A read delivers at
most `size` items and may deliver fewer; that it delivers none says that the source is at its end,
or that it failed.  A write returns how many items it took, and the loop gives up if these are not
all.

`left` are the items still to be read after a number of turns, whatever becomes of the writes.

* `copied_iff`         the loop gets to its end exactly if every write takes its chunk (`WroteAll`);
* `copied_whole_iff`   **it has then copied all exactly if no read was `CutShort`**.
-/

namespace Chunked
variable {α : Type}

/-- what the calls of one turn do: how many items the read can deliver, what the write returns -/
structure Turn where
  read : Nat
  wrote : Int

variable (size : Nat)

def chunk (turns : Nat → Turn) (rest : List α) : List α := rest.take (min size (turns 0).read)

def later (turns : Nat → Turn) : Nat → Turn := fun k => turns (k + 1)

/-- whether the loop got to its end, and what it has written -/
def copy (turns : Nat → Turn) (rest written : List α) : Bool × List α :=
  if chunk size turns rest = [] then (true, written)
  else if (turns 0).wrote ≠ (chunk size turns rest).length then (false, written)
  else copy (later turns) (rest.drop (chunk size turns rest).length)
    (written ++ chunk size turns rest)
termination_by rest.length
decreasing_by
  rename_i hchunk _
  have hpos := List.length_pos_iff.mpr hchunk
  have hle : (chunk size turns rest).length ≤ rest.length := List.length_take_le' _ _
  rw [List.length_drop]
  omega

def left (turns : Nat → Turn) (xs : List α) : Nat → List α
  | 0 => xs
  | k + 1 => (left turns xs k).drop (min size (turns k).read)

/-- a read delivers nothing although the source is not at its end -/
def CutShort (turns : Nat → Turn) (xs : List α) : Prop :=
  ∃ k, left size turns xs k ≠ [] ∧ (turns k).read = 0

/-- every write that is made takes its chunk -/
def WroteAll (turns : Nat → Turn) (xs : List α) : Prop :=
  ∀ k, (∀ j ≤ k, left size turns xs j ≠ [] ∧ (turns j).read ≠ 0) →
    (turns k).wrote = (min (min size (turns k).read) (left size turns xs k).length : Nat)

/-! ## one turn -/

section Turns
variable {size} {turns : Nat → Turn} {rest : List α}

theorem chunk_length : (chunk size turns rest).length =
    min (min size (turns 0).read) rest.length := List.length_take

theorem drop_chunk : rest.drop (chunk size turns rest).length =
    rest.drop (min size (turns 0).read) := by
  rw [chunk_length]
  rcases le_total (min size (turns 0).read) rest.length with h | h
  · rw [Nat.min_eq_left h]
  · rw [Nat.min_eq_right h, List.drop_length, List.drop_eq_nil_of_le h]

theorem left_later (turns : Nat → Turn) (rest : List α) (k : Nat) :
    left size (later turns) (rest.drop (min size (turns 0).read)) k =
      left size turns rest (k + 1) := by
  induction k with
  | zero => rfl
  | succ k ih =>
    rw [left, ih]
    rfl

theorem wroteAll_next (h : ¬ (rest = [] ∨ (turns 0).read = 0))
    (hwrote : (turns 0).wrote = (chunk size turns rest).length) :
    WroteAll size turns rest ↔
      WroteAll size (later turns) (rest.drop (min size (turns 0).read)) := by
  constructor
  · intro hall k hk
    rw [left_later]
    refine hall (k + 1) fun j hj => ?_
    cases j with
    | zero => exact not_or.mp h
    | succ j =>
      have hlater := hk j (by omega)
      rw [left_later] at hlater
      exact hlater
  · intro hall k hk
    cases k with
    | zero =>
      rw [hwrote, chunk_length]
      rfl
    | succ k =>
      have hlater := hall k fun j hj => by
        rw [left_later]
        exact hk (j + 1) (by omega)
      rw [left_later] at hlater
      exact hlater

theorem cutShort_next (h : (turns 0).read ≠ 0) : CutShort size turns rest ↔
    CutShort size (later turns) (rest.drop (min size (turns 0).read)) := by
  constructor
  · rintro ⟨k, hleft, hread⟩
    cases k with
    | zero => exact absurd hread h
    | succ k =>
      refine ⟨k, ?_, hread⟩
      rw [left_later]
      exact hleft
  · rintro ⟨k, hleft, hread⟩
    refine ⟨k + 1, ?_, hread⟩
    rw [left_later] at hleft
    exact hleft

theorem left_nil (turns : Nat → Turn) (k : Nat) : left size turns ([] : List α) k = [] := by
  induction k with
  | zero => rfl
  | succ k ih => rw [left, ih, List.drop_nil]

end Turns

section Loop
variable {size} (hsize : 0 < size) {turns : Nat → Turn} {rest written : List α}
include hsize

theorem chunk_eq_nil_iff : chunk size turns rest = [] ↔ rest = [] ∨ (turns 0).read = 0 := by
  unfold chunk
  rw [List.take_eq_nil_iff]
  constructor
  · rintro (h | h)
    · exact .inr (by omega)
    · exact .inl h
  · rintro (h | h)
    · exact .inr h
    · exact .inl (by omega)

theorem copy_end (h : rest = [] ∨ (turns 0).read = 0) :
    copy size turns rest written = (true, written) := by
  rw [copy, if_pos ((chunk_eq_nil_iff hsize).mpr h)]

theorem copy_refused (h : ¬ (rest = [] ∨ (turns 0).read = 0))
    (hwrote : (turns 0).wrote ≠ (chunk size turns rest).length) :
    copy size turns rest written = (false, written) := by
  rw [copy, if_neg fun he => h ((chunk_eq_nil_iff hsize).mp he), if_pos hwrote]

theorem copy_next (h : ¬ (rest = [] ∨ (turns 0).read = 0))
    (hwrote : (turns 0).wrote = (chunk size turns rest).length) :
    copy size turns rest written = copy size (later turns)
      (rest.drop (min size (turns 0).read)) (written ++ chunk size turns rest) := by
  rw [copy, if_neg fun he => h ((chunk_eq_nil_iff hsize).mp he), if_neg (not_not.mpr hwrote),
    drop_chunk]

/-- what holds where the loop ends or gives up, and is handed on by a turn, holds of every loop -/
theorem copy_rule {P : (Nat → Turn) → List α → List α → Bool × List α → Prop}
    (hend : ∀ turns rest written, rest = [] ∨ (turns 0).read = 0 →
      P turns rest written (true, written))
    (hrefused : ∀ turns rest written, ¬ (rest = [] ∨ (turns 0).read = 0) →
      (turns 0).wrote ≠ (chunk size turns rest).length → P turns rest written (false, written))
    (hnext : ∀ turns rest written r, ¬ (rest = [] ∨ (turns 0).read = 0) →
      (turns 0).wrote = (chunk size turns rest).length →
      P (later turns) (rest.drop (min size (turns 0).read)) (written ++ chunk size turns rest) r →
      P turns rest written r) :
    ∀ turns rest written, P turns rest written (copy size turns rest written) := by
  intro turns rest
  -- on the number of items left; a turn that goes on reads at least one
  induction hn : rest.length using Nat.strong_induction_on generalizing turns rest with
  | _ n ih =>
    intro written
    by_cases h : rest = [] ∨ (turns 0).read = 0
    · rw [copy_end hsize h]
      exact hend turns rest written h
    by_cases hwrote : (turns 0).wrote = (chunk size turns rest).length
    · rw [copy_next hsize h hwrote]
      refine hnext turns rest written _ h hwrote (ih _ ?_ _ _ rfl _)
      obtain ⟨hrest, hread⟩ := not_or.mp h
      have hpos := List.length_pos_iff.mpr hrest
      rw [List.length_drop]
      omega
    · rw [copy_refused hsize h hwrote]
      exact hrefused turns rest written h hwrote

/-! ## the whole loop -/

theorem copied_iff (turns : Nat → Turn) (rest written : List α) :
    (copy size turns rest written).1 = true ↔ WroteAll size turns rest := by
  refine copy_rule hsize (P := fun turns rest _ r => r.1 = true ↔ WroteAll size turns rest)
    ?_ ?_ ?_ turns rest written
  · intro turns rest written h
    refine iff_of_true rfl fun k hk => ?_
    obtain ⟨hleft, hread⟩ := hk 0 (Nat.zero_le k)
    exact absurd h (not_or.mpr ⟨hleft, hread⟩)
  · intro turns rest written h hwrote
    refine iff_of_false Bool.false_ne_true fun hall => hwrote ?_
    rw [chunk_length]
    refine hall 0 fun j hj => ?_
    rw [Nat.le_zero.mp hj]
    exact not_or.mp h
  · intro turns rest written r h hwrote ih
    rw [ih, wroteAll_next h hwrote]

/-- **A loop that got to its end has copied the whole source exactly if no read delivered nothing
with items left.** -/
theorem copied_whole_iff {turns : Nat → Turn} {rest written : List α}
    (h : (copy size turns rest written).1 = true) :
    (copy size turns rest written).2 = written ++ rest ↔ ¬ CutShort size turns rest := by
  refine copy_rule hsize (P := fun turns rest written r => r.1 = true →
    (r.2 = written ++ rest ↔ ¬ CutShort size turns rest)) ?_ ?_ ?_ turns rest written h
  · intro turns rest written h _
    by_cases hrest : rest = []
    · rw [hrest, List.append_nil]
      refine iff_of_true rfl ?_
      rintro ⟨k, hleft, -⟩
      exact hleft (left_nil turns k)
    · have hread := h.resolve_left hrest
      refine iff_of_false (fun he => hrest ?_) fun hno => hno ⟨0, hrest, hread⟩
      exact List.self_eq_append_right.mp he
  · intro turns rest written _ _ he
    cases he
  · intro turns rest written r h _ ih hr
    obtain ⟨-, hread⟩ := not_or.mp h
    rw [cutShort_next hread, ← ih hr, List.append_assoc, chunk, List.take_append_drop]

end Loop
end Chunked
