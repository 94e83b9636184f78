import Mathlib.Data.List.Basic

/-!
# A bounded queue with waiting senders

Threads put items into a queue of bounded length, and a reader takes out the oldest item of the
highest rank.  A send that finds the queue full is refused, or it waits: that depends on how the
queue was opened, not on the send.  Where sends wait, the reader's next receive lets in the one that
has waited longest.

* `Bounded`              the items and the sends that wait, which none does while there is room;
* `send`, `receive`      with `send_cases` and `receive_cases`, what they can do;
* `held_receive_rank`, `receive_highest`   items of one rank in order, the highest first.
-/

structure Bounded (τ α : Type) (capacity : Nat) where
  items : List α
  waiting : List (τ × α)
  bounded : items.length ≤ capacity
  full : waiting ≠ [] → capacity ≤ items.length

namespace Bounded
variable {τ α : Type} {capacity : Nat}

inductive Mode where
  | blocking
  | nonblocking
  deriving DecidableEq

inductive Outcome where
  | done
  | refused
  | waits
  deriving DecidableEq

def Full (q : Bounded τ α capacity) : Prop := capacity ≤ q.items.length

instance (q : Bounded τ α capacity) : Decidable q.Full := inferInstanceAs (Decidable (_ ≤ _))

def send (mode : Mode) (t : τ) (a : α) (q : Bounded τ α capacity) :
    Outcome × Bounded τ α capacity :=
  if h : q.Full then
    match mode with
    | .nonblocking => (.refused, q)
    | .blocking => (.waits, ⟨q.items, q.waiting ++ [(t, a)], q.bounded, fun _ => h⟩)
  else
    (.done, ⟨q.items ++ [a], q.waiting, by
      unfold Full at h
      rw [List.length_append, List.length_singleton]
      omega, fun hwaiting => absurd (q.full hwaiting) h⟩)

section
variable {mode : Mode} {t : τ} {a : α} {q q' : Bounded τ α capacity} {o : Outcome}

theorem send_cases (h : q.send mode t a = (o, q')) :
    (o = .done ∧ ¬ q.Full ∧ q'.items = q.items ++ [a] ∧ q'.waiting = q.waiting) ∨
    (o = .refused ∧ q.Full ∧ mode = .nonblocking ∧ q' = q) ∨
    (o = .waits ∧ q.Full ∧ mode = .blocking ∧ q'.items = q.items ∧
      q'.waiting = q.waiting ++ [(t, a)]) := by
  unfold send at h
  split_ifs at h with hfull
  · cases mode with
    | blocking =>
      cases h
      exact .inr (.inr ⟨rfl, hfull, rfl, rfl, rfl⟩)
    | nonblocking =>
      cases h
      exact .inr (.inl ⟨rfl, hfull, rfl, rfl⟩)
  · cases h
    exact .inl ⟨rfl, hfull, rfl, rfl⟩

end

/-- the first of the items with the highest rank -/
def highest (rank : α → Int) : List α → Option α
  | [] => none
  | a :: l => (highest rank l).elim (some a) fun b => some (if rank a < rank b then b else a)

theorem highest_mem {rank : α → Int} {l : List α} {a : α} (h : highest rank l = some a) :
    a ∈ l := by
  induction l generalizing a with
  | nil => cases h
  | cons b l ih =>
    unfold highest at h
    cases hrest : highest rank l with
    | none =>
      rw [hrest] at h
      cases h
      exact List.mem_cons_self
    | some c =>
      rw [hrest] at h
      cases h
      split_ifs
      · exact List.mem_cons_of_mem b (ih hrest)
      · exact List.mem_cons_self

/-- the item that is taken has only items of lower rank before it, and none of higher rank behind -/
theorem highest_split {rank : α → Int} {l : List α} {a : α} (h : highest rank l = some a) :
    ∃ front back, l = front ++ a :: back ∧ (∀ b ∈ front, rank b < rank a) ∧
      ∀ b ∈ back, rank b ≤ rank a := by
  induction l generalizing a with
  | nil => cases h
  | cons c l ih =>
    unfold highest at h
    cases hrest : highest rank l with
    | none =>
      rw [hrest] at h
      cases h
      have hnil : l = [] := by
        cases l with
        | nil => rfl
        | cons d l =>
          unfold highest at hrest
          cases hd : highest rank l with
          | none => rw [hd] at hrest; cases hrest
          | some e => rw [hd] at hrest; cases hrest
      subst hnil
      exact ⟨[], [], rfl, fun b hb => (by cases hb), fun b hb => (by cases hb)⟩
    | some d =>
      rw [hrest] at h
      cases h
      obtain ⟨front, back, hl, hfront, hback⟩ := ih hrest
      split_ifs with hlt
      · refine ⟨c :: front, back, congrArg (c :: ·) hl, ?_, hback⟩
        exact List.forall_mem_cons.mpr ⟨hlt, hfront⟩
      · refine ⟨[], l, rfl, fun b hb => (by cases hb), fun b hb => ?_⟩
        have hd : rank d ≤ rank c := by omega
        rw [hl] at hb
        rcases List.mem_append.mp hb with hb | hb
        · exact Int.le_trans (Int.le_of_lt (hfront b hb)) hd
        · rcases List.mem_cons.mp hb with rfl | hb
          · exact hd
          · exact Int.le_trans (hback b hb) hd

section
variable [DecidableEq α] (rank : α → Int)

/-- the queue without the item `a` of it, with the first send that waits let in -/
def without (q : Bounded τ α capacity) (a : α) (ha : a ∈ q.items) :
    Option τ × Bounded τ α capacity :=
  have hlength := List.length_erase_add_one ha
  match hw : q.waiting with
  | [] => (none, ⟨q.items.erase a, [], by have := q.bounded; omega, nofun⟩)
  | (t, a') :: rest => (some t, ⟨q.items.erase a ++ [a'], rest, by
      rw [List.length_append, List.length_singleton, hlength]
      exact q.bounded, fun _ => by
      rw [List.length_append, List.length_singleton, hlength]
      exact q.full (by rw [hw]; exact List.cons_ne_nil _ _)⟩)

/-- the item that the reader gets, and the thread of which the send ends with that -/
def receive (q : Bounded τ α capacity) : Option (α × Option τ × Bounded τ α capacity) :=
  match h : highest rank q.items with
  | none => none
  | some a => some (a, q.without a (highest_mem h))

variable {rank} {a : α} {w : Option τ} {q q' : Bounded τ α capacity}

theorem receive_cases (h : q.receive rank = some (a, w, q')) :
    (q.waiting = [] ∧ w = none ∧ q'.items = q.items.erase a ∧ q'.waiting = []) ∨
    ∃ t a' rest, q.waiting = (t, a') :: rest ∧ w = some t ∧ q'.items = q.items.erase a ++ [a'] ∧
      q'.waiting = rest := by
  unfold receive at h
  split at h
  · cases h
  · obtain ⟨rfl, h⟩ := Prod.mk.inj (Option.some.inj h)
    unfold without at h
    split at h
    · cases h
      exact .inl ⟨‹_›, rfl, rfl, rfl⟩
    · cases h
      exact .inr ⟨_, _, _, ‹_›, rfl, rfl, rfl⟩

/-! ## the order in which items leave -/

theorem highest_of_receive (h : q.receive rank = some (a, w, q')) :
    highest rank q.items = some a := by
  unfold receive at h
  split at h
  · cases h
  · obtain ⟨rfl, -⟩ := Prod.mk.inj (Option.some.inj h)
    assumption

/-- all that was sent and not received, the sends that wait included -/
def held (q : Bounded τ α capacity) : List α := q.items ++ q.waiting.map Prod.snd

theorem held_receive (h : q.receive rank = some (a, w, q')) :
    ∃ front back, q.held = front ++ a :: back ∧ q'.held = front ++ back ∧
      ∀ b ∈ front, rank b < rank a := by
  obtain ⟨front, back, hitems, hfront, -⟩ := highest_split (highest_of_receive h)
  have hnew : a ∉ front := fun hmem => Int.lt_irrefl _ (hfront a hmem)
  have herase : q.items.erase a = front ++ back := by
    rw [hitems, List.erase_append_right _ hnew, List.erase_cons_head]
  refine ⟨front, back ++ q.waiting.map Prod.snd, ?_, ?_, hfront⟩
  · unfold held
    rw [hitems, List.append_assoc, List.cons_append]
  · unfold held
    rcases receive_cases h with
      ⟨hwaiting, -, hq', hwaiting'⟩ | ⟨t, a', rest, hwaiting, -, hq', hwaiting'⟩
    · rw [hq', hwaiting', hwaiting, herase, List.append_assoc]
    · rw [hq', hwaiting', hwaiting, herase, List.append_assoc, List.append_assoc]
      rfl

/-- **Items of one rank leave in the order in which they were sent.** -/
theorem held_receive_rank (h : q.receive rank = some (a, w, q')) (n : Int) :
    q.held.filter (rank · = n) =
      (if rank a = n then [a] else []) ++ q'.held.filter (rank · = n) := by
  obtain ⟨front, back, hheld, hheld', hfront⟩ := held_receive h
  rw [hheld, hheld', List.filter_append, List.filter_append, List.filter_cons]
  by_cases hrank : rank a = n
  · have hnone : front.filter (rank · = n) = [] := by
      refine List.filter_eq_nil_iff.mpr fun b hb heq => ?_
      have hlt := hfront b hb
      have hb' : rank b = n := of_decide_eq_true heq
      omega
    rw [hnone, if_pos (decide_eq_true hrank), if_pos hrank]
    rfl
  · rw [if_neg (by simpa using hrank), if_neg hrank]
    rfl

/-- **What is received has the highest rank.** -/
theorem receive_highest (h : q.receive rank = some (a, w, q')) : ∀ b ∈ q.items, rank b ≤ rank a := by
  obtain ⟨front, back, hitems, hfront, hback⟩ := highest_split (highest_of_receive h)
  intro b hb
  rw [hitems] at hb
  rcases List.mem_append.mp hb with hb | hb
  · exact Int.le_of_lt (hfront b hb)
  · rcases List.mem_cons.mp hb with rfl | hb
    · exact Int.le_refl _
    · exact hback b hb

end

end Bounded
