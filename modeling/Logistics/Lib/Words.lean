import Mathlib.Data.List.TakeWhile

/-!
# Words

The words of a list are the non-empty parts between its separators, `next` takes the first of them
off, the way C's `strtok` does.

* `next_nil`, `next_cons`   what `next` returns, in terms of the words;
* `next_again`              the first word is found again in what it was cut off from;
* `words_append_cons`       a separator cuts the words in two;
* `words_front`             a front part with two words or more has the first of them whole;
* `Code.words_flatMap`      **the words of a code are the codes of the words**.
-/

namespace Words
variable {α β : Type} {p : α → Bool}

def words (p : α → Bool) (l : List α) : List (List α) :=
  (l.splitOnP p).filter fun w => !w.isEmpty

/-- the first word, if there is one, and what follows the separator after it -/
def next (p : α → Bool) (l : List α) : Option (List α) × List α :=
  match l.dropWhile p with
  | [] => (none, [])
  | a :: l => (some ((a :: l).takeWhile fun b => !p b), ((a :: l).dropWhile fun b => !p b).tail)

/-- a separator cuts the words in two -/
theorem words_append_cons {a : α} (ha : p a = true) (l r : List α) :
    words p (l ++ a :: r) = words p l ++ words p r := by
  unfold words
  rw [List.splitOnP_append_cons l r ha, List.filter_append]

theorem words_cons_sep {a : α} (ha : p a = true) (l : List α) : words p (a :: l) = words p l :=
  words_append_cons ha [] l

theorem words_of_letters {w : List α} (hw : ∀ a ∈ w, p a = false) (hne : w ≠ []) :
    words p w = [w] := by
  cases w with
  | nil => exact absurd rfl hne
  | cons a w =>
    unfold words
    rw [List.splitOnP_eq_singleton hw]
    rfl

/-! ## the first word -/

/-- dropping stops where the test fails -/
theorem dropWhile_stop {q : α → Bool} {a : α} {l r : List α} (h : l.dropWhile q = a :: r) :
    q a = false := by
  have hhead := List.head?_dropWhile_not q l
  rw [h] at hhead
  exact hhead

theorem words_dropWhile (l : List α) : words p (l.dropWhile p) = words p l := by
  induction l with
  | nil => rfl
  | cons a l ih =>
    rw [List.dropWhile_cons]
    cases ha : p a with
    | true =>
      rw [if_pos rfl, words_cons_sep ha]
      exact ih
    | false => rfl

/-- the first word of a list that starts with one -/
theorem words_cons_letter {a : α} (ha : p a = false) (l : List α) :
    words p (a :: l) = (a :: l).takeWhile (fun b => !p b) ::
      words p ((a :: l).dropWhile fun b => !p b).tail := by
  have hne : (a :: l).takeWhile (fun b => !p b) ≠ [] := by
    rw [List.takeWhile_cons_of_pos (by rw [ha]; rfl)]
    exact List.cons_ne_nil _ _
  have hword : ∀ b ∈ (a :: l).takeWhile (fun b => !p b), p b = false := by
    intro b hb
    have hletter := List.mem_takeWhile_imp (p := fun b => !p b) hb
    rwa [Bool.not_eq_true'] at hletter
  have hsplit := List.takeWhile_append_dropWhile (p := fun b => !p b) (l := a :: l)
  generalize (a :: l).takeWhile (fun b => !p b) = w at hne hword hsplit ⊢
  cases hrest : (a :: l).dropWhile fun b => !p b with
  | nil =>
    rw [hrest, List.append_nil] at hsplit
    rw [← hsplit, words_of_letters hword hne]
    rfl
  | cons s r =>
    have hs : p s = true := by
      have hstop := dropWhile_stop (q := fun b => !p b) hrest
      rwa [Bool.not_eq_false'] at hstop
    rw [hrest] at hsplit
    rw [← hsplit, words_append_cons hs, words_of_letters hword hne]
    rfl

theorem next_nil {l : List α} (h : words p l = []) : next p l = (none, []) := by
  rw [← words_dropWhile] at h
  unfold next
  cases hdrop : l.dropWhile p with
  | nil => rfl
  | cons a r =>
    rw [hdrop, words_cons_letter (dropWhile_stop hdrop)] at h
    cases h

theorem next_cons {l w : List α} {ws : List (List α)} (h : words p l = w :: ws) :
    ∃ r, next p l = (some w, r) ∧ words p r = ws := by
  rw [← words_dropWhile] at h
  unfold next
  cases hdrop : l.dropWhile p with
  | nil =>
    rw [hdrop] at h
    cases h
  | cons a r =>
    rw [hdrop, words_cons_letter (dropWhile_stop hdrop)] at h
    obtain ⟨hword, hrest⟩ := List.cons.inj h
    refine ⟨_, ?_, hrest⟩
    rw [← hword]

theorem next_letters {l w r : List α} (h : next p l = (some w, r)) : ∀ a ∈ w, p a = false := by
  unfold next at h
  cases hdrop : l.dropWhile p with
  | nil =>
    rw [hdrop] at h
    cases h
  | cons b t =>
    rw [hdrop] at h
    cases h
    intro a ha
    have hletter := List.mem_takeWhile_imp (p := fun b => !p b) ha
    rwa [Bool.not_eq_true'] at hletter

/-- a front part of a word and what follows it has one word at most, or the word whole -/
theorem words_front {w r l : List α} {s : α} (hw : ∀ a ∈ w, p a = false)
    (h : l <+: w ++ s :: r) (htwo : 2 ≤ (words p l).length) :
    ∃ r', r' <+: r ∧ l = w ++ s :: r' := by
  have htake := List.prefix_iff_eq_take.mp h
  by_cases hlength : l.length ≤ w.length
  · exfalso
    rw [List.take_append_of_le_length hlength] at htake
    have hletters : ∀ a ∈ l, p a = false := by
      intro a ha
      rw [htake] at ha
      exact hw a (List.mem_of_mem_take ha)
    cases l with
    | nil => cases htwo
    | cons a l =>
      rw [words_of_letters hletters (List.cons_ne_nil a l), List.length_singleton] at htwo
      omega
  · obtain ⟨k, hk⟩ : ∃ k, l.length - w.length = k + 1 := ⟨l.length - w.length - 1, by omega⟩
    rw [List.take_append, List.take_of_length_le (by omega), hk, List.take_succ_cons] at htake
    exact ⟨r.take k, List.take_prefix k r, htake⟩

theorem next_front {l w r : List α} (h : next p l = (some w, r)) :
    (l.takeWhile p ++ w).length ≤ l.length := by
  unfold next at h
  cases hdrop : l.dropWhile p with
  | nil =>
    rw [hdrop] at h
    cases h
  | cons a t =>
    rw [hdrop] at h
    cases h
    have hword : ((a :: t).takeWhile fun b => !p b).length ≤ (a :: t).length :=
      (List.takeWhile_sublist _).length_le
    have hsplit := congrArg List.length (List.takeWhile_append_dropWhile (p := p) (l := l))
    rw [hdrop, List.length_append] at hsplit
    rw [List.length_append]
    omega

/-- the first word, with the separators in front of it, is cut in the same way -/
theorem next_again {l w r : List α} (h : next p l = (some w, r)) :
    next p (l.takeWhile p ++ w) = (some w, []) := by
  unfold next at h
  cases hdrop : l.dropWhile p with
  | nil =>
    rw [hdrop] at h
    cases h
  | cons a t =>
    rw [hdrop] at h
    cases h
    have ha := dropWhile_stop hdrop
    have hletters : ∀ b ∈ (a :: t).takeWhile (fun b => !p b), (!p b) = true :=
      fun b hb => List.mem_takeWhile_imp (p := fun b => !p b) hb
    have hfront : ∀ b ∈ l.takeWhile p, p b = true := fun b hb => List.mem_takeWhile_imp hb
    unfold next
    rw [List.dropWhile_append_of_pos hfront,
      List.takeWhile_cons_of_pos (p := fun b => !p b) (by rw [ha]; rfl)] at *
    rw [List.dropWhile_cons_of_neg (by rw [ha]; exact Bool.false_ne_true)]
    simp only
    rw [List.takeWhile_eq_self_iff.mpr hletters, List.dropWhile_eq_nil_iff.mpr hletters]
    rfl

/-! ## codes -/

theorem splitOnP_letters {w : List α} (hw : ∀ a ∈ w, p a = false) (l : List α) :
    (w ++ l).splitOnP p = (l.splitOnP p).modifyHead (w ++ ·) := by
  induction w with
  | nil =>
    show l.splitOnP p = (l.splitOnP p).modifyHead id
    cases l.splitOnP p <;> rfl
  | cons a w ih =>
    obtain ⟨ha, hw⟩ := List.forall_mem_cons.mp hw
    rw [List.cons_append, List.splitOnP_cons_eq_if_modifyHead, ha, if_neg (by decide), ih hw,
      List.modifyHead_modifyHead]
    rfl

/-- how letters are written: a separator as one separator, any other letter without any -/
structure Code (p : α → Bool) (q : β → Bool) (f : α → List β) : Prop where
  sep : ∀ a, p a = true → ∃ b, f a = [b] ∧ q b = true
  letter : ∀ a, p a = false → f a ≠ [] ∧ ∀ b ∈ f a, q b = false

variable {q : β → Bool} {f : α → List β}

theorem Code.splitOnP_flatMap (hf : Code p q f) (l : List α) :
    (l.flatMap f).splitOnP q = (l.splitOnP p).map (List.flatMap f) := by
  induction l with
  | nil => rfl
  | cons a l ih =>
    rw [List.flatMap_cons, List.splitOnP_cons_eq_if_modifyHead]
    cases ha : p a with
    | true =>
      obtain ⟨b, hb, hq⟩ := hf.sep a ha
      rw [hb, List.singleton_append, List.splitOnP_cons_eq_if_modifyHead, hq, if_pos rfl,
        if_pos rfl, ih]
      rfl
    | false =>
      rw [splitOnP_letters (hf.letter a ha).2, ih, if_neg (by decide)]
      cases l.splitOnP p <;> rfl

theorem Code.isEmpty_flatMap (hf : Code p q f) (w : List α) :
    (w.flatMap f).isEmpty = w.isEmpty := by
  cases w with
  | nil => rfl
  | cons a w =>
    have hne : f a ≠ [] := by
      cases ha : p a with
      | true =>
        obtain ⟨b, hb, -⟩ := hf.sep a ha
        rw [hb]
        exact List.cons_ne_nil b []
      | false => exact (hf.letter a ha).1
    rw [List.flatMap_cons]
    cases hcode : f a with
    | nil => exact absurd hcode hne
    | cons b code => rfl

/-- the words of the code are the codes of the words -/
theorem Code.words_flatMap (hf : Code p q f) (l : List α) :
    words q (l.flatMap f) = (words p l).map (List.flatMap f) := by
  unfold words
  rw [hf.splitOnP_flatMap, List.filter_map]
  refine congrArg _ (List.filter_congr fun w _ => ?_)
  rw [Function.comp_apply, hf.isEmpty_flatMap]

end Words
