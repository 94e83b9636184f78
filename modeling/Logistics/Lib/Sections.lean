import Logistics.Lib.Runs

/-!
# Calls cut into atomic sections

Any number of calls of type `κ` are in flight over one shared state `σ`.  A call is a chain of
atomic sections: `first` says with which section it begins (`none`: it returns at once), and
`act s ω p` runs the section `p` on the state `s` with the outcome `ω` of what the environment
decides, and says with which section the call goes on (`none`: it has returned).

* `Flight`, `Act`, `flightStep`   the calls in flight, and the next section of one of them;
* `flightStep_cases`              a step starts a call or runs one section of a call;
* `callRun`, `runFrom_callRun`    a call alone is a run from rest to rest.
-/

namespace Sections
open Runs
variable {σ π κ ω : Type}

structure Flight (σ π : Type) where
  shared : σ
  calls : Nat → Option π

inductive Act (κ ω : Type) where
  | begin (id : Nat) (call : κ)
  | advance (id : Nat) (outcome : ω)

def Flight.atRest (s : σ) : Flight σ π := ⟨s, fun _ => none⟩

/-- no call is in flight -/
def Flight.Idle (f : Flight σ π) : Prop := ∀ id, f.calls id = none

section
variable (first : κ → Option π) (act : σ → ω → π → σ × Option π)

def flightStep (f : Flight σ π) : Act κ ω → Option (Flight σ π)
  | .begin id call =>
    match f.calls id with
    | some _ => none
    | none => some { f with calls := Function.update f.calls id (first call) }
  | .advance id outcome =>
    match f.calls id with
    | none => none
    | some p => some ⟨(act f.shared outcome p).1,
        Function.update f.calls id (act f.shared outcome p).2⟩

/-- the sections of one call from `p` on, with their outcomes, up to its return -/
def callRun (s : σ) : Option π → List ω → Option σ
  | none, [] => some s
  | none, _ :: _ => none
  | some _, [] => none
  | some p, outcome :: rest => callRun (act s outcome p).1 (act s outcome p).2 rest

end

variable {first : κ → Option π} {act : σ → ω → π → σ × Option π}

/-- **A step starts a call under a free number, or runs one section of a call in flight.** -/
theorem flightStep_cases {f f' : Flight σ π} {a : Act κ ω} (h : flightStep first act f a = some f') :
    (∃ id call, a = .begin id call ∧ f.calls id = none ∧
      f' = ⟨f.shared, Function.update f.calls id (first call)⟩) ∨
    (∃ id outcome p, a = .advance id outcome ∧ f.calls id = some p ∧
      f' = ⟨(act f.shared outcome p).1, Function.update f.calls id (act f.shared outcome p).2⟩) := by
  cases a with
  | begin id call =>
    unfold flightStep at h
    cases hid : f.calls id with
    | some p => simp only [hid, reduceCtorEq] at h
    | none =>
      simp only [hid, Option.some.injEq] at h
      exact .inl ⟨id, call, rfl, hid, h.symm⟩
  | advance id outcome =>
    unfold flightStep at h
    cases hid : f.calls id with
    | none => simp only [hid, reduceCtorEq] at h
    | some p =>
      simp only [hid, Option.some.injEq] at h
      exact .inr ⟨id, outcome, p, rfl, hid, h.symm⟩

theorem flightStep_advance {f : Flight σ π} {id : Nat} {p : π} (hp : f.calls id = some p)
    (outcome : ω) :
    flightStep first act f (.advance id outcome) = some ⟨(act f.shared outcome p).1,
      Function.update f.calls id (act f.shared outcome p).2⟩ := by
  unfold flightStep
  simp only [hp]

/-! ## one call alone -/

/-- one call in flight -/
def Flight.one (s : σ) (id : Nat) (next : Option π) : Flight σ π :=
  ⟨s, Function.update (fun _ => none) id next⟩

theorem Flight.one_none (s : σ) (id : Nat) : Flight.one s id none = (.atRest s : Flight σ π) := by
  unfold Flight.one Flight.atRest
  congr 1
  exact Function.update_eq_self id fun _ => none

theorem flightStep_one (s : σ) (id : Nat) (p : π) (outcome : ω) :
    flightStep first act (.one s id (some p)) (.advance id outcome) =
      some (.one (act s outcome p).1 id (act s outcome p).2) := by
  have hp : (Flight.one s id (some p)).calls id = some p := by
    show Function.update (fun _ => none) id (some p) id = some p
    rw [Function.update_self]
  rw [flightStep_advance hp]
  unfold Flight.one
  rw [Function.update_idem]

theorem runFrom_sections {s s' : σ} {p : Option π} {outcomes : List ω} (id : Nat)
    (h : callRun act s p outcomes = some s') :
    runFrom (flightStep first act) (.one s id p) (outcomes.map (.advance id)) =
      some (.atRest s') := by
  induction outcomes generalizing s p with
  | nil =>
    cases p with
    | some p => cases h
    | none =>
      cases h
      rw [Flight.one_none]
      rfl
  | cons outcome rest ih =>
    cases p with
    | none => cases h
    | some p =>
      rw [List.map_cons, runFrom_cons, flightStep_one]
      exact ih h

/-- **A call whose sections are not interrupted is a run from rest to rest.** -/
theorem runFrom_callRun {s s' : σ} {call : κ} {outcomes : List ω} (id : Nat)
    (h : callRun act s (first call) outcomes = some s') :
    runFrom (flightStep first act) (.atRest s) (.begin id call :: outcomes.map (.advance id)) =
      some (.atRest s') := by
  have hbegin : flightStep first act (.atRest s) (.begin id call) =
      some (.one s id (first call)) := rfl
  rw [runFrom_cons, hbegin]
  exact runFrom_sections id h

end Sections
