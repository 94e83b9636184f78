import Mathlib.Data.List.TakeWhile
import Logistics.Lib.Words

/-!
# A tokeniser that writes into its memory

Strings end at a terminator in memory, and a pointer is a position.  `next` goes on from the saved
position: it skips separators, returns the position of the token, and overwrites the separator
behind the token with the terminator.  A token is read later, from memory that may have changed.

* `stringAt`        the string at a position;
* `Tracks t rest`   `rest` is what there is still to be cut up;
* `Held t i w`      `w` stands at `i`, and no later cut touches it;
* `next_spec`       **`next` cuts the memory as `Words.next` cuts the string**.
-/

set_option linter.unusedSectionVars false

namespace Strtok
variable {α : Type}

structure State (α : Type) where
  mem : List α
  saved : Nat

theorem takeWhile_drop {q : α → Bool} {l : List α} {n : Nat} (h : n ≤ (l.takeWhile q).length) :
    (l.drop n).takeWhile q = (l.takeWhile q).drop n := by
  induction l generalizing n with
  | nil => simp
  | cons a l ih =>
    cases n with
    | zero => rfl
    | succ n =>
      cases ha : q a with
      | true =>
        rw [List.takeWhile_cons_of_pos ha] at h ⊢
        exact ih (Nat.le_of_succ_le_succ h)
      | false =>
        rw [List.takeWhile_cons_of_neg (by rw [ha]; exact Bool.false_ne_true)] at h
        cases h

theorem drop_length_takeWhile (q : α → Bool) (l : List α) :
    l.drop (l.takeWhile q).length = l.dropWhile q := by
  calc l.drop (l.takeWhile q).length
      = (l.takeWhile q ++ l.dropWhile q).drop (l.takeWhile q).length := by
        rw [List.takeWhile_append_dropWhile]
    _ = l.dropWhile q := List.drop_left

/-! ## strings in memory -/

variable [DecidableEq α]

section Strings
variable (nul : α)

def stringAt (mem : List α) (i : Nat) : List α := (mem.drop i).takeWhile (· ≠ nul)

/-- the memory is terminated behind a position -/
def Ends (mem : List α) (i : Nat) : Prop := nul ∈ mem.drop i

variable {nul}

theorem mem_drop_of_le {l : List α} {n : Nat} (hmem : nul ∈ l)
    (h : n ≤ (l.takeWhile (· ≠ nul)).length) : nul ∈ l.drop n := by
  induction l generalizing n with
  | nil => cases hmem
  | cons a l ih =>
    cases n with
    | zero => exact hmem
    | succ n =>
      by_cases ha : a = nul
      · rw [List.takeWhile_cons_of_neg (by simpa using ha)] at h
        cases h
      · rw [List.takeWhile_cons_of_pos (by simpa using ha)] at h
        exact ih ((List.mem_cons.mp hmem).resolve_left (Ne.symm ha)) (Nat.le_of_succ_le_succ h)

theorem takeWhile_set (l : List α) (n : Nat) :
    (l.set n nul).takeWhile (· ≠ nul) = (l.takeWhile (· ≠ nul)).take n := by
  induction l generalizing n with
  | nil => simp
  | cons a l ih =>
    cases n with
    | zero => simp
    | succ n =>
      rw [List.set_cons_succ, List.takeWhile_cons, List.takeWhile_cons, ih]
      split_ifs
      · rfl
      · rfl

theorem stringAt_add {mem : List α} {i n : Nat} (h : n ≤ (stringAt nul mem i).length) :
    stringAt nul mem (i + n) = (stringAt nul mem i).drop n := by
  unfold stringAt at h ⊢
  rw [← List.drop_drop]
  exact takeWhile_drop h

theorem Ends.add {mem : List α} {i n : Nat} (hends : Ends nul mem i)
    (h : n ≤ (stringAt nul mem i).length) : Ends nul mem (i + n) := by
  unfold Ends
  rw [← List.drop_drop]
  exact mem_drop_of_le hends h

theorem stringAt_set {mem : List α} {i k : Nat} (h : i ≤ k) :
    stringAt nul (mem.set k nul) i = (stringAt nul mem i).take (k - i) := by
  unfold stringAt
  rw [List.drop_set, if_neg (not_lt.mpr h), takeWhile_set]

theorem Ends.of_le {mem : List α} {i j : Nat} (h : Ends nul mem j) (hij : i ≤ j) :
    Ends nul mem i := by
  obtain ⟨n, rfl⟩ := Nat.exists_eq_add_of_le hij
  unfold Ends at h
  rw [← List.drop_drop] at h
  exact List.mem_of_mem_drop h

end Strings

/-! ## one token -/

section Next
variable (nul : α) (p : α → Bool)

/-- the separator at a position overwritten, unless the string ends there -/
def cut (mem : List α) (stop : Nat) : State α :=
  if stringAt nul mem stop = [] then ⟨mem, stop⟩ else ⟨mem.set stop nul, stop + 1⟩

def next (t : State α) : Option Nat × State α :=
  let start := t.saved + ((stringAt nul t.mem t.saved).takeWhile p).length
  if stringAt nul t.mem start = [] then (none, ⟨t.mem, start⟩)
  else
    let stop := start + ((stringAt nul t.mem start).takeWhile fun b => !p b).length
    (some start, cut nul t.mem stop)

structure Tracks (t : State α) (rest : List α) : Prop where
  string : stringAt nul t.mem t.saved = rest
  ends : Ends nul t.mem t.saved

structure Held (t : State α) (i : Nat) (w : List α) : Prop where
  string : stringAt nul t.mem i = w
  ends : Ends nul t.mem i
  before : i + w.length ≤ t.saved

variable {nul p}

theorem cut_tracks {mem : List α} {stop : Nat} (hends : Ends nul mem stop) :
    Tracks nul (cut nul mem stop) (stringAt nul mem stop).tail ∧
      stop ≤ (cut nul mem stop).saved := by
  unfold cut
  split_ifs with hstop
  · rw [hstop]
    exact ⟨⟨hstop, hends⟩, le_rfl⟩
  · have hone : 1 ≤ (stringAt nul mem stop).length := List.length_pos_iff.mpr hstop
    have hlater : (mem.set stop nul).drop (stop + 1) = mem.drop (stop + 1) := by
      rw [List.drop_set, if_pos (Nat.lt_succ_self stop)]
    refine ⟨⟨?_, ?_⟩, Nat.le_succ stop⟩
    · show stringAt nul (mem.set stop nul) (stop + 1) = _
      rw [← List.drop_one, ← stringAt_add hone]
      unfold stringAt
      rw [hlater]
    · show nul ∈ (mem.set stop nul).drop (stop + 1)
      rw [hlater]
      exact hends.add hone

/-- a string in front of the cut now ends there -/
theorem cut_string {mem : List α} {stop i : Nat} (hi : i ≤ stop) :
    stringAt nul (cut nul mem stop).mem i = (stringAt nul mem i).take (stop - i) := by
  unfold cut
  split_ifs with hstop
  · refine (List.take_of_length_le ?_).symm
    show (stringAt nul mem i).length ≤ stop - i
    by_contra hlong
    have hrest := stringAt_add (le_of_not_ge hlong)
    rw [Nat.add_sub_cancel' hi, hstop] at hrest
    have hlength := congrArg List.length hrest
    rw [List.length_nil, List.length_drop] at hlength
    omega
  · exact stringAt_set hi

theorem held_cut {mem : List α} {stop i : Nat} (hends : Ends nul mem stop) (hi : i ≤ stop) :
    Held nul (cut nul mem stop) i ((stringAt nul mem i).take (stop - i)) := by
  obtain ⟨htracks, hsaved⟩ := cut_tracks hends
  refine ⟨cut_string hi, htracks.ends.of_le (le_trans hi hsaved), le_trans ?_ hsaved⟩
  rw [List.length_take]
  omega

variable {t : State α} {rest : List α}

/-- the string behind the separators -/
theorem stringAt_start (h : Tracks nul t rest) :
    stringAt nul t.mem (t.saved + (rest.takeWhile p).length) = rest.dropWhile p ∧
      Ends nul t.mem (t.saved + (rest.takeWhile p).length) := by
  have hle : (rest.takeWhile p).length ≤ (stringAt nul t.mem t.saved).length := by
    rw [h.string]
    exact (List.takeWhile_sublist p).length_le
  refine ⟨?_, h.ends.add hle⟩
  rw [stringAt_add hle, h.string, drop_length_takeWhile]

/-- only separators are left -/
theorem next_none (h : Tracks nul t rest) (hrest : rest.dropWhile p = []) :
    ∃ t', next nul p t = (none, t') ∧ Tracks nul t' [] ∧
      ∀ j v, Held nul t j v → Held nul t' j v := by
  obtain ⟨hstart, hends⟩ := stringAt_start (p := p) h
  rw [hrest] at hstart
  refine ⟨⟨t.mem, t.saved + (rest.takeWhile p).length⟩, ?_, ⟨hstart, hends⟩, fun j v hv => ?_⟩
  · unfold next
    rw [h.string]
    exact if_pos hstart
  · exact ⟨hv.string, hv.ends, le_trans hv.before (Nat.le_add_right ..)⟩

/-- the token that comes next, behind separators -/
theorem next_some (h : Tracks nul t rest) (hrest : rest.dropWhile p ≠ []) :
    ∃ i t', next nul p t = (some i, t') ∧
      Tracks nul t' ((rest.dropWhile p).dropWhile fun b => !p b).tail ∧
      Held nul t' i ((rest.dropWhile p).takeWhile fun b => !p b) ∧
      Held nul t' t.saved
        (rest.takeWhile p ++ (rest.dropWhile p).takeWhile fun b => !p b) ∧
      ∀ j v, Held nul t j v → Held nul t' j v := by
  obtain ⟨hstart, hends⟩ := stringAt_start (p := p) h
  have hsaved := h.string
  have hsplit := List.takeWhile_append_dropWhile (p := p) (l := rest)
  have hbody := List.takeWhile_append_dropWhile (p := fun b => !p b) (l := rest.dropWhile p)
  have hrun : next nul p t = (some (t.saved + (rest.takeWhile p).length),
      cut nul t.mem (t.saved + (rest.takeWhile p).length +
        ((rest.dropWhile p).takeWhile fun b => !p b).length)) := by
    unfold next
    rw [h.string]
    simp only
    rw [hstart, if_neg hrest]
  -- the string is the separators, the token and the tail behind it
  generalize rest.takeWhile p = gap at *
  generalize rest.dropWhile p = body at *
  generalize body.takeWhile (fun b => !p b) = w at *
  generalize body.dropWhile (fun b => !p b) = tail at *
  subst hbody hsplit
  have hw : w.length ≤ (stringAt nul t.mem (t.saved + gap.length)).length := by
    rw [hstart, List.length_append]
    omega
  have hstop : Ends nul t.mem (t.saved + gap.length + w.length) := hends.add hw
  obtain ⟨htracks, hlate⟩ := cut_tracks hstop
  have htoken := held_cut hstop (Nat.le_add_right (t.saved + gap.length) w.length)
  have hall := held_cut hstop
    (show t.saved ≤ t.saved + gap.length + w.length by omega)
  rw [stringAt_add hw, hstart, List.drop_left] at htracks
  rw [hstart, Nat.add_sub_cancel_left, List.take_left] at htoken
  rw [hsaved, ← List.append_assoc, show t.saved + gap.length + w.length - t.saved =
    (gap ++ w).length by rw [List.length_append]; omega, List.take_left] at hall
  refine ⟨_, _, hrun, htracks, htoken, hall, fun j v hv => ?_⟩
  have hbefore := hv.before
  have hkept := held_cut hstop (show j ≤ t.saved + gap.length + w.length by omega)
  rwa [hv.string, List.take_of_length_le (by omega)] at hkept

/-- **The memory is cut as the string is, and what was held is held.** -/
theorem next_spec (h : Tracks nul t rest) :
    (∃ t', next nul p t = (none, t') ∧ Words.next p rest = (none, []) ∧ Tracks nul t' [] ∧
        ∀ j v, Held nul t j v → Held nul t' j v) ∨
      ∃ i t' w r, next nul p t = (some i, t') ∧ Words.next p rest = (some w, r) ∧
        Tracks nul t' r ∧ Held nul t' i w ∧ Held nul t' t.saved (rest.takeWhile p ++ w) ∧
        ∀ j v, Held nul t j v → Held nul t' j v := by
  unfold Words.next
  cases hrest : rest.dropWhile p with
  | nil =>
    obtain ⟨t', hrun, htracks, hheld⟩ := next_none h hrest
    exact .inl ⟨t', hrun, rfl, htracks, hheld⟩
  | cons a l =>
    obtain ⟨i, t', hrun, htracks, htoken, hall, hheld⟩ :=
      next_some (p := p) h (by rw [hrest]; exact List.cons_ne_nil a l)
    rw [hrest] at htracks htoken hall
    exact .inr ⟨i, t', _, _, hrun, rfl, htracks, htoken, hall, hheld⟩

end Next
end Strtok
