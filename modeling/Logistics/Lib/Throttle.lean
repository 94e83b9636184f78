import Mathlib

/-!
# A limit on failed attempts

A counter of failures blocks further attempts for a time: after `limit` failures an attempt less
than `block` after the last one is refused, and the first one after that starts the count anew.  A
passed attempt sets the count back.

* `attempt`         one attempt at a time, with the outcome and the new counter;
* `Kept`            what the counter says about the attempts so far;
* `Kept.attempt`    **it is kept by every attempt**; `Kept.window` then bounds the attempts.
-/

namespace Throttle

structure Counter where
  count : Int
  last : Int

inductive Outcome where
  | refused
  | passed
  | failed
  deriving DecidableEq, Repr

structure Record where
  time : Int
  outcome : Outcome

def attempt (limit block : Int) (c : Counter) (time : Int) (ok : Bool) : Outcome × Counter :=
  if limit ≤ c.count ∧ time - c.last < block then (.refused, c)
  else if ok = true then (.passed, ⟨0, c.last⟩)
  else if limit ≤ c.count then (.failed, ⟨1, time⟩)
  else (.failed, ⟨c.count + 1, time⟩)

/-- how many attempts from `w` on were checked -/
def checksFrom (history : List Record) (w : Int) : Nat :=
  history.countP fun r => r.outcome ≠ .refused ∧ w ≤ r.time

/-- how many attempts in `[w, w')` were checked -/
def checksIn (history : List Record) (w w' : Int) : Nat :=
  history.countP fun r => r.outcome ≠ .refused ∧ w ≤ r.time ∧ r.time < w'

structure Kept (limit block now : Int) (c : Counter) (history : List Record) : Prop where
  nonneg : 0 ≤ c.count
  le_limit : c.count ≤ limit
  past : ∀ r ∈ history, r.time ≤ now
  latest : 0 < c.count → ∀ r ∈ history, r.outcome ≠ .refused → r.time ≤ c.last
  recent : ∀ w, now < w + block → (∀ r ∈ history, r.outcome = .passed → r.time < w) →
    (checksFrom history w : Int) ≤ c.count
  window : ∀ w, (∀ r ∈ history, r.outcome = .passed → r.time < w ∨ w + block ≤ r.time) →
    (checksIn history w (w + block) : Int) ≤ limit

/-! ## counting -/

theorem checksFrom_concat (history : List Record) (r : Record) (w : Int) :
    checksFrom (history ++ [r]) w =
      checksFrom history w + if r.outcome ≠ .refused ∧ w ≤ r.time then 1 else 0 := by
  unfold checksFrom
  rw [List.countP_append, List.countP_singleton]
  simp

theorem checksIn_concat (history : List Record) (r : Record) (w w' : Int) :
    checksIn (history ++ [r]) w w' =
      checksIn history w w' +
        if r.outcome ≠ .refused ∧ w ≤ r.time ∧ r.time < w' then 1 else 0 := by
  unfold checksIn
  rw [List.countP_append, List.countP_singleton]
  simp

theorem checksIn_le (history : List Record) (w w' : Int) :
    checksIn history w w' ≤ checksFrom history w := by
  refine List.countP_mono_left ?_
  intro r _ h
  obtain ⟨hchecked, hw, -⟩ := of_decide_eq_true h
  exact decide_eq_true ⟨hchecked, hw⟩

theorem checksFrom_eq_zero {history : List Record} {w : Int}
    (h : ∀ r ∈ history, r.outcome ≠ .refused → r.time < w) : checksFrom history w = 0 := by
  refine List.countP_eq_zero.mpr ?_
  intro r hr hcount
  obtain ⟨hchecked, hw⟩ := of_decide_eq_true hcount
  have := h r hr hchecked
  omega

/-! ## one attempt -/

section
variable {limit block now time : Int} {c : Counter} {history : List Record}

theorem Kept.start (hlimit : 0 ≤ limit) (now last : Int) :
    Kept limit block now ⟨0, last⟩ [] where
  nonneg := le_rfl
  le_limit := hlimit
  past _ h := by cases h
  latest h := absurd h (lt_irrefl 0)
  recent _ _ _ := le_rfl
  window _ _ := hlimit

theorem Kept.later (h : Kept limit block now c history) (htime : now ≤ time) :
    Kept limit block time c history where
  nonneg := h.nonneg
  le_limit := h.le_limit
  past r hr := (h.past r hr).trans htime
  latest := h.latest
  recent w hw := h.recent w (lt_of_le_of_lt htime hw)
  window := h.window

theorem past_concat (h : Kept limit block now c history) (htime : now ≤ time) (outcome : Outcome) :
    ∀ r ∈ history ++ [⟨time, outcome⟩], r.time ≤ time := by
  intro r hr
  rcases List.mem_append.mp hr with hr | hr
  · exact (h.past r hr).trans htime
  · obtain rfl := List.mem_singleton.mp hr
    exact le_rfl

/-- an attempt that is not checked -/
theorem Kept.refused (h : Kept limit block now c history) (htime : now ≤ time) :
    Kept limit block time c (history ++ [⟨time, .refused⟩]) := by
  have hold : ∀ r ∈ history, r ∈ history ++ [⟨time, .refused⟩] :=
    fun _ hr => List.mem_append_left _ hr
  refine ⟨h.nonneg, h.le_limit, past_concat h htime _, ?_, ?_, ?_⟩
  · intro hpos r hr hchecked
    rcases List.mem_append.mp hr with hr | hr
    · exact h.latest hpos r hr hchecked
    · obtain rfl := List.mem_singleton.mp hr
      exact absurd rfl hchecked
  · intro w hw hpassed
    rw [checksFrom_concat, if_neg (by simp)]
    exact h.recent w (by omega) fun r hr => hpassed r (hold r hr)
  · intro w hpassed
    rw [checksIn_concat, if_neg (by simp)]
    exact h.window w fun r hr => hpassed r (hold r hr)

theorem Kept.passed (h : Kept limit block now c history) (htime : now ≤ time) (hlimit : 0 ≤ limit) :
    Kept limit block time ⟨0, c.last⟩ (history ++ [⟨time, .passed⟩]) := by
  have hlast : (⟨time, .passed⟩ : Record) ∈ history ++ [⟨time, .passed⟩] := by simp
  have hpast := past_concat h htime .passed
  refine ⟨le_rfl, hlimit, hpast, fun hpos => absurd hpos (lt_irrefl 0), ?_, ?_⟩
  · intro w hw hpassed
    have hnow : time < w := hpassed _ hlast rfl
    rw [checksFrom_eq_zero fun r hr _ => lt_of_le_of_lt (hpast r hr) hnow]
    rfl
  · intro w hpassed
    rcases hpassed _ hlast rfl with hnow | hnow
    · have hzero := checksFrom_eq_zero (w := w) fun r hr _ => lt_of_le_of_lt (hpast r hr) hnow
      have hle := checksIn_le (history ++ [⟨time, .passed⟩]) w (w + block)
      omega
    · rw [checksIn_concat, if_neg (by dsimp only at hnow ⊢; omega)]
      exact h.window w fun r hr => hpassed r (List.mem_append_left _ hr)

/-- a failure below the limit -/
theorem Kept.failed (h : Kept limit block now c history) (htime : now ≤ time)
    (hbelow : c.count < limit) :
    Kept limit block time ⟨c.count + 1, time⟩ (history ++ [⟨time, .failed⟩]) := by
  have hold : ∀ r ∈ history, r ∈ history ++ [⟨time, .failed⟩] :=
    fun _ hr => List.mem_append_left _ hr
  have hpast := past_concat h htime .failed
  have hnonneg := h.nonneg
  refine ⟨by dsimp only; omega, by dsimp only; omega, hpast, fun _ r hr _ => hpast r hr, ?_, ?_⟩
  · intro w hw hpassed
    have hrecent := h.recent w (by omega) fun r hr => hpassed r (hold r hr)
    rw [checksFrom_concat]
    dsimp only
    split <;> omega
  · intro w hpassed
    rw [checksIn_concat]
    by_cases hin : w ≤ time ∧ time < w + block
    · -- the window reaches back from now: the counter covers it
      have hrecent : (checksFrom history w : Int) ≤ c.count := by
        refine h.recent w (by omega) ?_
        intro r hr hp
        have htime' := h.past r hr
        rcases hpassed r (hold r hr) hp with hlt | hge
        · exact hlt
        · omega
      have hle := checksIn_le history w (w + block)
      split <;> omega
    · rw [if_neg fun hcount => hin hcount.2]
      exact h.window w fun r hr => hpassed r (hold r hr)

/-- after the block: the attempts so far are out of every window that reaches now -/
theorem Kept.expired (h : Kept limit block now c history) (htime : now ≤ time)
    (hlimit : 1 ≤ limit) (hfull : limit ≤ c.count) (hexpired : block ≤ time - c.last) :
    Kept limit block time ⟨0, c.last⟩ history where
  nonneg := le_rfl
  le_limit := by dsimp only; omega
  past r hr := (h.past r hr).trans htime
  latest hpos := absurd hpos (lt_irrefl 0)
  recent w hw _ := by
    rw [checksFrom_eq_zero]
    · rfl
    · intro r hr hchecked
      have := h.latest (by omega) r hr hchecked
      omega
  window := h.window

/-- **One attempt keeps the invariant.** -/
theorem Kept.attempt (h : Kept limit block now c history) (htime : now ≤ time)
    (hlimit : 1 ≤ limit) (ok : Bool) :
    Kept limit block time (attempt limit block c time ok).2
      (history ++ [⟨time, (attempt limit block c time ok).1⟩]) := by
  unfold Throttle.attempt
  by_cases hblocked : limit ≤ c.count ∧ time - c.last < block
  · rw [if_pos hblocked]
    exact h.refused htime
  · rw [if_neg hblocked]
    cases ok with
    | true => exact h.passed htime (by omega)
    | false =>
      simp only [Bool.false_eq_true, if_false]
      by_cases hfull : limit ≤ c.count
      · rw [if_pos hfull]
        exact (h.expired htime hlimit hfull (by omega)).failed le_rfl hlimit
      · rw [if_neg hfull]
        exact h.failed htime (by omega)

end

end Throttle
