import Mathlib.Data.List.Basic

/-!
# A bounded backlog

A plain list with drop-oldest at a given length, with the record of what went through it: everything
that was pushed, and everything that has left, in the order in which it left and with the way it
left.

* `push`, `pop`      a push that finds `n` entries drops the oldest first;
* `Sound`            what has left, followed by the list, is what was pushed; at most `n` are left;
* `Sound.suffix`     so the list is a suffix of what was pushed;
* `popped`, `Sound.popped_sublist`   the popped entries come in the order of the pushes.
-/

inductive Backlog.Exit where
  | popped
  | dropped
  deriving DecidableEq

structure Backlog (α : Type) where
  sent : List α
  left : List (Backlog.Exit × α)
  queue : List α

namespace Backlog
variable {α : Type} {n : Nat}

def empty : Backlog α := ⟨[], [], []⟩

/-- the oldest entry leaves, if there is one -/
def oldest (way : Exit) (b : Backlog α) : Backlog α :=
  match b.queue with
  | [] => b
  | a :: queue => ⟨b.sent, b.left ++ [(way, a)], queue⟩

def append (a : α) (b : Backlog α) : Backlog α := ⟨b.sent ++ [a], b.left, b.queue ++ [a]⟩

def push (n : Nat) (a : α) (b : Backlog α) : Backlog α :=
  if b.queue.length = n then (b.oldest .dropped).append a else b.append a

def pop (b : Backlog α) : Backlog α := b.oldest .popped

/-- what was popped, in the order in which it was -/
def popped (b : Backlog α) : List α := (b.left.filter fun e => e.1 = .popped).map Prod.snd

theorem queue_oldest (way : Exit) (b : Backlog α) : (b.oldest way).queue = b.queue.tail := by
  unfold oldest
  cases hq : b.queue with
  | nil =>
    show b.queue = _
    rw [hq]
    rfl
  | cons a queue => rfl

theorem sent_oldest (way : Exit) (b : Backlog α) : (b.oldest way).sent = b.sent := by
  unfold oldest
  cases b.queue with
  | nil => rfl
  | cons a queue => rfl

theorem sent_pop (b : Backlog α) : b.pop.sent = b.sent := sent_oldest .popped b

theorem sent_push (a : α) (b : Backlog α) : (b.push n a).sent = b.sent ++ [a] := by
  unfold push
  split
  · show (b.oldest .dropped).sent ++ [a] = _
    rw [sent_oldest]
  · rfl

theorem queue_push (a : α) (b : Backlog α) : (b.push n a).queue =
    (if b.queue.length = n then b.queue.tail else b.queue) ++ [a] := by
  unfold push
  split
  · show (b.oldest .dropped).queue ++ [a] = _
    rw [queue_oldest]
  · rfl

theorem popped_pop (b : Backlog α) : b.pop.popped = b.popped ++ b.queue.head?.toList := by
  unfold pop oldest popped
  cases b.queue with
  | nil => simp
  | cons a queue => simp

theorem popped_push (a : α) (b : Backlog α) : (b.push n a).popped = b.popped := by
  unfold push
  split
  · unfold oldest append popped
    cases b.queue with
    | nil => rfl
    | cons a queue => simp
  · rfl

structure Sound (n : Nat) (b : Backlog α) : Prop where
  conserved : b.left.map Prod.snd ++ b.queue = b.sent
  bounded : b.queue.length ≤ n

theorem sound_empty : (empty : Backlog α).Sound n := ⟨rfl, Nat.zero_le n⟩

section Sound
variable {b : Backlog α}

theorem Sound.oldest (h : b.Sound n) (way : Exit) : (b.oldest way).Sound n := by
  obtain ⟨hconserved, hbounded⟩ := h
  unfold Backlog.oldest
  cases hq : b.queue with
  | nil =>
    rw [hq] at hconserved hbounded
    refine ⟨?_, ?_⟩
    · show b.left.map Prod.snd ++ b.queue = b.sent
      rw [hq]
      exact hconserved
    · show b.queue.length ≤ n
      rw [hq]
      exact hbounded
  | cons a queue =>
    rw [hq] at hconserved hbounded
    refine ⟨?_, Nat.le_of_succ_le hbounded⟩
    show (b.left ++ [(way, a)]).map Prod.snd ++ queue = b.sent
    rw [← hconserved]
    simp

theorem Sound.append (h : b.Sound n) (a : α) (hroom : b.queue.length < n) :
    (b.append a).Sound n := by
  refine ⟨?_, ?_⟩
  · show b.left.map Prod.snd ++ (b.queue ++ [a]) = b.sent ++ [a]
    rw [← h.conserved, List.append_assoc]
  · show (b.queue ++ [a]).length ≤ n
    rw [List.length_append]
    exact hroom

theorem Sound.push (h : b.Sound n) (hn : 0 < n) (a : α) : (b.push n a).Sound n := by
  have hbounded := h.bounded
  unfold Backlog.push
  by_cases hfull : b.queue.length = n
  · rw [if_pos hfull]
    refine (h.oldest .dropped).append a ?_
    rw [queue_oldest, List.length_tail]
    omega
  · rw [if_neg hfull]
    exact h.append a (by omega)

theorem Sound.pop (h : b.Sound n) : b.pop.Sound n := h.oldest .popped

theorem Sound.suffix (h : b.Sound n) : b.queue <:+ b.sent := ⟨_, h.conserved⟩

theorem Sound.popped_sublist (h : b.Sound n) : b.popped.Sublist b.sent := by
  have hleft : b.popped.Sublist (b.left.map Prod.snd) := List.filter_sublist.map Prod.snd
  rw [← h.conserved]
  exact hleft.trans (List.sublist_append_left _ _)

end Sound

end Backlog
