import Mathlib

/-!
# A bounded mailbox and the fate of its letters

A mailbox takes letters at its end and gives them out at its head; a letter that arrives at a full
mailbox drives out the oldest one.  A letter taken out is handed over, or it is lost.  `Mailbox`
keeps, besides the letters in it, those of each fate, every one with the number of its arrival.

* `Complete`            every letter that arrived has exactly one fate, being lost included;
* `Accounted`           every letter that arrived is in the box, was driven out, or was handed over;
* `accounted_iff`       in a complete mailbox this means that no letter was lost.
-/

structure Mailbox (α : Type) where
  arrivals : Nat
  queue : List (Nat × α)
  evicted : List (Nat × α)
  handed : List (Nat × α)
  lost : List (Nat × α)

namespace Mailbox
variable {α : Type}

def empty : Mailbox α := ⟨0, [], [], [], []⟩

def push (capacity : Nat) (a : α) (m : Mailbox α) : Mailbox α :=
  if capacity ≤ m.queue.length then
    { m with
      arrivals := m.arrivals + 1
      queue := m.queue.tail ++ [(m.arrivals, a)]
      evicted := m.evicted ++ m.queue.take 1 }
  else
    { m with
      arrivals := m.arrivals + 1
      queue := m.queue ++ [(m.arrivals, a)] }

/-- the oldest letter is taken out, and handed over or lost -/
def take (hand : Bool) (m : Mailbox α) : Mailbox α :=
  if hand then { m with queue := m.queue.tail, handed := m.handed ++ m.queue.take 1 }
  else { m with queue := m.queue.tail, lost := m.lost ++ m.queue.take 1 }

def letters (m : Mailbox α) : List α := m.queue.map Prod.snd

theorem letters_push (capacity : Nat) (a : α) (m : Mailbox α) : (m.push capacity a).letters =
    (if capacity ≤ m.letters.length then m.letters.tail else m.letters) ++ [a] := by
  unfold push letters
  rw [List.length_map]
  by_cases hfull : capacity ≤ m.queue.length
  · rw [if_pos hfull, if_pos hfull, List.map_append, List.map_tail]
    rfl
  · rw [if_neg hfull, if_neg hfull, List.map_append]
    rfl

theorem letters_take (hand : Bool) (m : Mailbox α) : (m.take hand).letters = m.letters.tail := by
  unfold take letters
  cases hand with
  | true => exact List.map_tail
  | false => exact List.map_tail

theorem lost_push (capacity : Nat) (a : α) (m : Mailbox α) : (m.push capacity a).lost = m.lost := by
  unfold push
  split <;> rfl

/-- a letter that is there and is not handed over is lost -/
theorem lost_take_ne_nil {m : Mailbox α} {a : α} {rest : List α} (h : m.letters = a :: rest) :
    (m.take false).lost ≠ [] := by
  unfold letters at h
  show m.lost ++ m.queue.take 1 ≠ []
  cases hq : m.queue with
  | nil =>
    rw [hq] at h
    cases h
  | cons letter queue => simp

/-- the arrival numbers of all fates are those that were given out, each once -/
def Complete (m : Mailbox α) : Prop :=
  ((m.evicted ++ m.handed ++ m.lost ++ m.queue).map Prod.fst).Perm (List.range m.arrivals)

def Accounted (m : Mailbox α) : Prop :=
  ((m.evicted ++ m.handed ++ m.queue).map Prod.fst).Perm (List.range m.arrivals)

theorem complete_empty : (empty : Mailbox α).Complete := List.Perm.refl _

/-- the head of the queue, put in front of the rest, is the queue -/
theorem take_append_tail (queue : List (Nat × α)) : queue.take 1 ++ queue.tail = queue := by
  cases queue with
  | nil => rfl
  | cons letter queue => rfl

theorem Complete.push {m : Mailbox α} (h : m.Complete) (capacity : Nat) (a : α) :
    (m.push capacity a).Complete := by
  have hnew : ((m.evicted ++ m.handed ++ m.lost ++ m.queue ++ [(m.arrivals, a)]).map
      Prod.fst).Perm (List.range (m.arrivals + 1)) := by
    rw [List.map_append, List.range_succ]
    exact List.Perm.append_right _ h
  refine List.Perm.trans (List.Perm.map Prod.fst ?_) (by
    have harrivals : (m.push capacity a).arrivals = m.arrivals + 1 := by
      unfold Mailbox.push
      split <;> rfl
    rw [harrivals]
    exact hnew)
  unfold Mailbox.push
  by_cases hfull : capacity ≤ m.queue.length
  · rw [if_pos hfull]
    show (m.evicted ++ m.queue.take 1 ++ m.handed ++ m.lost ++
      (m.queue.tail ++ [(m.arrivals, a)])).Perm _
    -- the head of the queue moves over the letters handed over and lost
    have hmove : (m.evicted ++ m.queue.take 1 ++ m.handed ++ m.lost).Perm
        (m.evicted ++ m.handed ++ m.lost ++ m.queue.take 1) := by
      simp only [List.append_assoc]
      refine List.Perm.append_left _ ?_
      rw [← List.append_assoc m.handed]
      exact List.perm_append_comm
    refine (hmove.append_right _).trans (List.Perm.of_eq ?_)
    rw [← List.append_assoc, List.append_assoc _ (m.queue.take 1), take_append_tail]
  · rw [if_neg hfull, List.append_assoc _ m.queue]

theorem Complete.take {m : Mailbox α} (h : m.Complete) (hand : Bool) : (m.take hand).Complete := by
  unfold Mailbox.take
  cases hand with
  | true =>
    refine List.Perm.trans (List.Perm.map Prod.fst ?_) h
    show (m.evicted ++ (m.handed ++ m.queue.take 1) ++ m.lost ++ m.queue.tail).Perm _
    have hmove : (m.evicted ++ (m.handed ++ m.queue.take 1) ++ m.lost).Perm
        (m.evicted ++ m.handed ++ m.lost ++ m.queue.take 1) := by
      rw [← List.append_assoc, List.append_assoc, List.append_assoc _ m.lost]
      exact List.Perm.append_left _ List.perm_append_comm
    refine (hmove.append_right _).trans (List.Perm.of_eq ?_)
    rw [List.append_assoc, take_append_tail]
  | false =>
    refine List.Perm.trans (List.Perm.map Prod.fst (List.Perm.of_eq ?_)) h
    show m.evicted ++ m.handed ++ (m.lost ++ m.queue.take 1) ++ m.queue.tail = _
    rw [← List.append_assoc, List.append_assoc _ (m.queue.take 1), take_append_tail]

/-- **In a complete mailbox every letter is accounted for exactly if none was lost.** -/
theorem Complete.accounted_iff {m : Mailbox α} (h : m.Complete) : m.Accounted ↔ m.lost = [] := by
  constructor
  · intro haccounted
    have hlength := haccounted.length_eq.trans h.length_eq.symm
    simp only [List.length_map, List.length_append] at hlength
    exact List.length_eq_zero_iff.mp (by omega)
  · intro hlost
    unfold Complete at h
    rw [hlost, List.append_nil] at h
    exact h

end Mailbox
