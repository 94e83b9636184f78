import Mathlib

/-!
# Programs over a state that return or throw

`Prog σ ε α` is the shape of an imperative function with exceptions: it reads and changes a state
`σ`, and either returns an `α` or throws an `ε`.  What was done to the state BEFORE a throw stays
done: a handler sees the state as the throw left it.

* `Prog.get`, `Prog.modify`                read the state, change it;
* `tryCatch p h`                           runs the handler on the state at the throw;
* `run_pure`, `run_bind`, ...              the equations of the symbolic execution;
* `run_bind_eq_ok`                         how a sequence of two programs can have returned;
* `Prog.Returns`                           the program returns and does not throw;
* `Prog.Keeps R`                           `R` relates the states before and after;
-/

set_option linter.unusedSectionVars false
set_option linter.unusedVariables false

/-- a program over the state `σ` that returns an `α` or throws an `ε` -/
def Prog (σ ε α : Type) : Type := σ → Except ε α × σ

namespace Prog
variable {σ ε α β : Type}

def run (p : Prog σ ε α) (s : σ) : Except ε α × σ := p s

instance : Monad (Prog σ ε) where
  pure a := fun s => (.ok a, s)
  bind p f := fun s =>
    match p s with
    | (.ok a, s') => f a s'
    | (.error e, s') => (.error e, s')

instance : MonadExceptOf ε (Prog σ ε) where
  throw e := fun s => (.error e, s)
  tryCatch p h := fun s =>
    match p s with
    | (.ok a, s') => (.ok a, s')
    | (.error e, s') => h e s'

def get : Prog σ ε σ := fun s => (.ok s, s)

def modify (f : σ → σ) : Prog σ ε Unit := fun s => (.ok (), f s)

/-! ## execution -/

@[simp] theorem run_pure (a : α) (s : σ) : (pure a : Prog σ ε α).run s = (.ok a, s) := rfl

@[simp] theorem run_get (s : σ) : (get : Prog σ ε σ).run s = (.ok s, s) := rfl

@[simp] theorem run_modify (f : σ → σ) (s : σ) :
    (modify f : Prog σ ε Unit).run s = (.ok (), f s) := rfl

theorem run_bind (p : Prog σ ε α) (f : α → Prog σ ε β) (s : σ) :
    (p >>= f).run s =
      match p.run s with
      | (.ok a, s') => (f a).run s'
      | (.error e, s') => (.error e, s') := rfl

theorem run_tryCatch (p : Prog σ ε α) (h : ε → Prog σ ε α) (s : σ) :
    (tryCatch p h).run s =
      match p.run s with
      | (.ok a, s') => (.ok a, s')
      | (.error e, s') => (h e).run s' := rfl

theorem run_ite (c : Prop) [Decidable c] (p q : Prog σ ε α) (s : σ) :
    (if c then p else q).run s = if c then p.run s else q.run s := by
  by_cases h : c
  · rw [if_pos h, if_pos h]
  · rw [if_neg h, if_neg h]

theorem run_bind_eq_ok {p : Prog σ ε α} {f : α → Prog σ ε β} {s s'' : σ} {b : β} :
    (p >>= f).run s = (.ok b, s'') ↔
      ∃ a s', p.run s = (.ok a, s') ∧ (f a).run s' = (.ok b, s'') := by
  rw [run_bind]
  generalize p.run s = r
  obtain ⟨r, s'⟩ := r
  cases r with
  | error e => simp
  | ok a =>
    constructor
    · intro h
      exact ⟨a, s', rfl, h⟩
    · rintro ⟨a', s₁, h, h'⟩
      cases h
      exact h'

/-- sequences of programs may be regrouped -/
theorem bind_assoc {γ : Type} (p : Prog σ ε α) (f : α → Prog σ ε β) (g : β → Prog σ ε γ) :
    (p >>= f) >>= g = p >>= fun a => f a >>= g := by
  funext s
  show ((p >>= f) >>= g).run s = (p >>= fun a => f a >>= g).run s
  rw [run_bind, run_bind, run_bind]
  generalize p.run s = r
  obtain ⟨r, s'⟩ := r
  cases r with
  | error e => rfl
  | ok a => rfl

/-! ## returning -/

/-- from `s` the program returns a value -/
def Returns (p : Prog σ ε α) (s : σ) : Prop := ∃ a s', p.run s = (.ok a, s')

theorem returns_pure (a : α) (s : σ) : (pure a : Prog σ ε α).Returns s := ⟨a, s, rfl⟩

theorem returns_bind {p : Prog σ ε α} {f : α → Prog σ ε β} {s : σ} (hp : p.Returns s)
    (hf : ∀ a s', (f a).Returns s') : (p >>= f).Returns s := by
  obtain ⟨a, s', hrun⟩ := hp
  unfold Returns
  rw [run_bind, hrun]
  exact hf a s'

theorem returns_ite {c : Prop} [Decidable c] {p q : Prog σ ε α} {s : σ} (hp : p.Returns s)
    (hq : q.Returns s) : (if c then p else q).Returns s := by
  by_cases h : c
  · rw [if_pos h]
    exact hp
  · rw [if_neg h]
    exact hq

theorem returns_tryCatch {p : Prog σ ε α} {h : ε → Prog σ ε α} {s : σ}
    (hh : ∀ e s', (h e).Returns s') : (tryCatch p h).Returns s := by
  unfold Returns
  rw [run_tryCatch]
  generalize p.run s = r
  obtain ⟨r, s'⟩ := r
  cases r with
  | ok a => exact ⟨a, s', rfl⟩
  | error e => exact hh e s'

/-! ## results -/

/-- whatever the program returns has the property -/
def Yields (Q : α → Prop) (p : Prog σ ε α) : Prop := ∀ s a s', p.run s = (.ok a, s') → Q a

section Yields
variable {Q : β → Prop}

theorem yields_pure {b : β} (h : Q b) : Yields Q (pure b : Prog σ ε β) := by
  intro s b' s' hrun
  cases hrun
  exact h

theorem yields_bind {p : Prog σ ε α} {f : α → Prog σ ε β} (hf : ∀ a, Yields Q (f a)) :
    Yields Q (p >>= f) := by
  intro s b s'' hrun
  obtain ⟨a, s', -, hrun⟩ := run_bind_eq_ok.mp hrun
  exact hf a s' b s'' hrun

theorem yields_ite {c : Prop} [Decidable c] {p q : Prog σ ε β} (hp : c → Yields Q p)
    (hq : ¬ c → Yields Q q) : Yields Q (if c then p else q) := by
  by_cases h : c
  · rw [if_pos h]
    exact hp h
  · rw [if_neg h]
    exact hq h

theorem yields_tryCatch {p : Prog σ ε β} {h : ε → Prog σ ε β} (hp : Yields Q p)
    (hh : ∀ e, Yields Q (h e)) : Yields Q (tryCatch p h) := by
  intro s b s'' hrun
  have hreturned := hp s
  rw [run_tryCatch] at hrun
  generalize p.run s = r at hrun hreturned
  obtain ⟨r, s'⟩ := r
  cases r with
  | ok a =>
    cases hrun
    exact hreturned b s'' rfl
  | error e => exact hh e s' b s'' hrun

end Yields

/-! ## frames -/

/-- `R` relates the state before `p` to the state after it -/
def Keeps (R : σ → σ → Prop) (p : Prog σ ε α) : Prop := ∀ s, R s (p.run s).2

section Keeps
variable {R : σ → σ → Prop} [IsPreorder σ R]

theorem keeps_pure (a : α) : Keeps R (pure a : Prog σ ε α) := fun s => refl_of R s

theorem keeps_get : Keeps R (get : Prog σ ε σ) := fun s => refl_of R s

theorem keeps_bind {p : Prog σ ε α} {f : α → Prog σ ε β} (hp : Keeps R p)
    (hf : ∀ a, Keeps R (f a)) : Keeps R (p >>= f) := by
  intro s
  have h := hp s
  rw [run_bind]
  generalize p.run s = r at h ⊢
  obtain ⟨r, s'⟩ := r
  cases r with
  | ok a => exact trans_of R h (hf a s')
  | error e => exact h

theorem keeps_tryCatch {p : Prog σ ε α} {h : ε → Prog σ ε α} (hp : Keeps R p)
    (hh : ∀ e, Keeps R (h e)) : Keeps R (tryCatch p h) := by
  intro s
  have hs := hp s
  rw [run_tryCatch]
  generalize p.run s = r at hs ⊢
  obtain ⟨r, s'⟩ := r
  cases r with
  | ok a => exact hs
  | error e => exact trans_of R hs (hh e s')

theorem keeps_ite {c : Prop} [Decidable c] {p q : Prog σ ε α} (hp : Keeps R p) (hq : Keeps R q) :
    Keeps R (if c then p else q) := by
  by_cases h : c
  · rw [if_pos h]
    exact hp
  · rw [if_neg h]
    exact hq

end Keeps

end Prog
