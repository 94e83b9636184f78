import Mathlib

/-!
# Files of lines, and where a line is

A disk maps each path to the lines of its file, or to nothing.  `contents` forgets whether an empty
file exists; what happens to the lines is a matter of contents alone.  A file is renamed, or copied
and then removed: both move its lines to another path and drop what was there (`move`).

* `Once`             the line stands in one file, once, and in no other;
* `Kept`             every line of a list does;
* `Kept.write`       a new line is appended to a file;
* `kept_move_iff`    **a move keeps the lines exactly if its target was empty**.
-/

namespace Disk
variable {κ ℓ : Type} [DecidableEq κ]

def contents (d : κ → Option (List ℓ)) (p : κ) : List ℓ := (d p).getD []

/-- append to a file, which is created if need be -/
def write (d : κ → Option (List ℓ)) (p : κ) (xs : List ℓ) : κ → Option (List ℓ) :=
  Function.update d p (some (contents d p ++ xs))

def remove (d : κ → Option (List ℓ)) (p : κ) : κ → Option (List ℓ) := Function.update d p none

/-- the target is replaced -/
def rename (d : κ → Option (List ℓ)) (p q : κ) : κ → Option (List ℓ) :=
  remove (Function.update d q (d p)) p

/-- the target is truncated first -/
def copy (d : κ → Option (List ℓ)) (p q : κ) : κ → Option (List ℓ) :=
  Function.update d q (some (contents d p))

/-! ## contents -/

/-- the contents once the lines at `p` have gone to `q` -/
def move (c : κ → List ℓ) (p q : κ) : κ → List ℓ :=
  Function.update (Function.update c q (c p)) p []

theorem contents_update (d : κ → Option (List ℓ)) (p : κ) (f : Option (List ℓ)) :
    contents (Function.update d p f) = Function.update (contents d) p (f.getD []) := by
  funext r
  unfold contents
  by_cases hr : r = p
  · rw [hr, Function.update_self, Function.update_self]
  · rw [Function.update_of_ne hr, Function.update_of_ne hr]

theorem contents_write (d : κ → Option (List ℓ)) (p : κ) (xs : List ℓ) :
    contents (write d p xs) = Function.update (contents d) p (contents d p ++ xs) :=
  contents_update d p _

/-- to create a file changes no contents -/
theorem contents_write_nil (d : κ → Option (List ℓ)) (p : κ) :
    contents (write d p []) = contents d := by
  rw [contents_write, List.append_nil, Function.update_eq_self]

theorem contents_rename (d : κ → Option (List ℓ)) (p q : κ) :
    contents (rename d p q) = move (contents d) p q := by
  unfold rename remove move
  rw [contents_update, contents_update]
  rfl

theorem contents_copy_remove (d : κ → Option (List ℓ)) (p q : κ) :
    contents (remove (copy d p q) p) = move (contents d) p q := by
  unfold remove copy move
  rw [contents_update, contents_update]
  rfl

section Move
variable (c : κ → List ℓ) {p q : κ}

theorem move_source : move c p q p = [] := Function.update_self p _ _

theorem move_target (h : q ≠ p) : move c p q q = c p := by
  unfold move
  rw [Function.update_of_ne h, Function.update_self]

theorem move_of_ne {r : κ} (hp : r ≠ p) (hq : r ≠ q) : move c p q r = c r := by
  unfold move
  rw [Function.update_of_ne hp, Function.update_of_ne hq]

/-- a line that is somewhere after the move was somewhere before -/
theorem exists_of_mem_move {x : ℓ} {r : κ} (h : x ∈ move c p q r) : ∃ r', x ∈ c r' := by
  by_cases hp : r = p
  · rw [hp, move_source] at h
    cases h
  · by_cases hq : r = q
    · rw [hq] at h hp
      rw [move_target c hp] at h
      exact ⟨p, h⟩
    · rw [move_of_ne c hp hq] at h
      exact ⟨r, h⟩

end Move

/-! ## the lines there are -/

/-- there are no other lines than these -/
def Within (c : κ → List ℓ) (xs : List ℓ) : Prop := ∀ p, ∀ x ∈ c p, x ∈ xs

def Missing (c : κ → List ℓ) (x : ℓ) : Prop := ∀ p, x ∉ c p

section Lines
variable {c : κ → List ℓ} {xs : List ℓ} {x : ℓ}

theorem Missing.move (h : Missing c x) (p q : κ) : Missing (move c p q) x := by
  intro r hx
  obtain ⟨r', hr'⟩ := exists_of_mem_move c hx
  exact h r' hr'

theorem Within.move (h : Within c xs) (p q : κ) : Within (move c p q) xs := by
  intro r x hx
  obtain ⟨r', hr'⟩ := exists_of_mem_move c hx
  exact h r' x hr'

theorem Within.update (h : Within c xs) {ys : List ℓ} (hys : ∀ x ∈ ys, x ∈ xs) (p : κ) :
    Within (Function.update c p ys) xs := by
  intro r x hx
  by_cases hr : r = p
  · rw [hr, Function.update_self] at hx
    exact hys x hx
  · rw [Function.update_of_ne hr] at hx
    exact h r x hx

theorem Within.write (h : Within c xs) (p : κ) (x : ℓ) :
    Within (Function.update c p (c p ++ [x])) (xs ++ [x]) := by
  have hmore : Within c (xs ++ [x]) := fun r y hy => List.mem_append_left [x] (h r y hy)
  apply hmore.update
  intro y hy
  rcases List.mem_append.mp hy with hold | hnew
  · exact hmore p y hold
  · exact List.mem_append_right xs hnew

end Lines

/-! ## the place of a line -/

variable [DecidableEq ℓ]

def Once (c : κ → List ℓ) (x : ℓ) : Prop := ∃ p, (c p).count x = 1 ∧ ∀ q, q ≠ p → x ∉ c q

def Kept (c : κ → List ℓ) (xs : List ℓ) : Prop := ∀ x ∈ xs, Once c x

section Rules
variable {c : κ → List ℓ} {xs : List ℓ} {x : ℓ} {p q : κ}

omit [DecidableEq κ] in
theorem Once.not_missing (h : Once c x) : ¬ Missing c x := by
  intro hmissing
  obtain ⟨p, hcount, -⟩ := h
  have hzero := List.count_eq_zero_of_not_mem (hmissing p)
  omega

/-- **A new line at the end of a file is there once, and every other line stays where it was.** -/
theorem Kept.write (h : Kept c xs) (hwithin : Within c xs) (hnew : x ∉ xs) (p : κ) :
    Kept (Function.update c p (c p ++ [x])) (xs ++ [x]) := by
  have hfresh : ∀ r, x ∉ c r := fun r hx => hnew (hwithin r x hx)
  intro y hy
  rcases List.mem_append.mp hy with hold | hlast
  · have hne : y ≠ x := by
      rintro rfl
      exact hnew hold
    obtain ⟨r, hcount, hothers⟩ := h y hold
    refine ⟨r, ?_, ?_⟩
    · by_cases hr : r = p
      · rw [hr] at hcount
        rw [hr, Function.update_self, List.count_append, hcount]
        simp [hne.symm]
      · rw [Function.update_of_ne hr]
        exact hcount
    · intro q hq
      by_cases hqp : q = p
      · rw [hqp] at hq
        rw [hqp, Function.update_self, List.mem_append, not_or]
        exact ⟨hothers p hq, fun hyx => hne (List.mem_singleton.mp hyx)⟩
      · rw [Function.update_of_ne hqp]
        exact hothers q hq
  · rw [List.mem_singleton.mp hlast]
    refine ⟨p, ?_, ?_⟩
    · rw [Function.update_self, List.count_append, List.count_eq_zero_of_not_mem (hfresh p)]
      simp
    · intro q hq
      rw [Function.update_of_ne hq]
      exact hfresh q

/-- onto an empty target the lines move as they are -/
theorem Once.move (h : Once c x) (hne : q ≠ p) (hempty : c q = []) : Once (move c p q) x := by
  obtain ⟨r, hcount, hothers⟩ := h
  have hrq : r ≠ q := by
    rintro rfl
    rw [hempty] at hcount
    cases hcount
  by_cases hrp : r = p
  · subst hrp
    refine ⟨q, ?_, ?_⟩
    · rw [move_target c hne]
      exact hcount
    · intro s hs
      by_cases hsr : s = r
      · rw [hsr, move_source]
        exact List.not_mem_nil
      · rw [move_of_ne c hsr hs]
        exact hothers s hsr
  · refine ⟨r, ?_, ?_⟩
    · rw [move_of_ne c hrp hrq]
      exact hcount
    · intro s hs
      by_cases hsp : s = p
      · rw [hsp, move_source]
        exact List.not_mem_nil
      · by_cases hsq : s = q
        · rw [hsq, move_target c hne]
          exact hothers p fun hpr => hrp hpr.symm
        · rw [move_of_ne c hsp hsq]
          exact hothers s hs

/-- what was at the target of a move is gone -/
theorem Once.missing_of_target (h : Once c x) (hne : q ≠ p) (hx : x ∈ c q) :
    Missing (Disk.move c p q) x := by
  obtain ⟨r, -, hothers⟩ := h
  have hrq : r = q := by
    by_contra hrq
    exact hothers q (fun hqr => hrq hqr.symm) hx
  subst hrq
  intro s hs
  by_cases hsp : s = p
  · rw [hsp, move_source] at hs
    cases hs
  · by_cases hsr : s = r
    · rw [hsr, move_target c hne] at hs
      exact hothers p (fun hpr => hne hpr.symm) hs
    · rw [move_of_ne c hsp hsr] at hs
      exact hothers s hsr hs

theorem Kept.move (h : Kept c xs) (hne : q ≠ p) (hempty : c q = []) : Kept (move c p q) xs :=
  fun x hx => (h x hx).move hne hempty

/-- a move onto a file that has lines loses one of the lines -/
theorem Kept.missing (h : Kept c xs) (hwithin : Within c xs) (hne : q ≠ p) (hfull : c q ≠ []) :
    ∃ x ∈ xs, Missing (Disk.move c p q) x := by
  obtain ⟨x, hx⟩ := List.exists_mem_of_ne_nil (c q) hfull
  exact ⟨x, hwithin q x hx, (h x (hwithin q x hx)).missing_of_target hne hx⟩

theorem kept_move_iff (h : Kept c xs) (hwithin : Within c xs) (hne : q ≠ p) :
    Kept (Disk.move c p q) xs ↔ c q = [] := by
  constructor
  · intro hkept
    by_contra hfull
    obtain ⟨x, hx, hmissing⟩ := h.missing hwithin hne hfull
    exact (hkept x hx).not_missing hmissing
  · exact h.move hne

end Rules

end Disk
