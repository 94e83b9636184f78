import Logistics.Lib.Prog

/-!
# Two runs of one program

To say what a program depends on, it is run twice, from two states that a relation `R` couples: it
does not depend on what `R` leaves open if both runs have the same result and end coupled again.

* `Couples R p`        every pair of runs from coupled states;
* `couples_bind`, `couples_ite`, `couples_tryCatch`, ...   the rules, one per way to build a program;
* `couples_read`       what is read of the state must be the same in both.
-/

namespace Prog
variable {σ ε α β : Type} {R : σ → σ → Prop}

def Couples (R : σ → σ → Prop) (p : Prog σ ε α) : Prop :=
  ∀ s t, R s t → (p.run s).1 = (p.run t).1 ∧ R (p.run s).2 (p.run t).2

theorem couples_pure (a : α) : Couples R (pure a : Prog σ ε α) := fun _ _ h => ⟨rfl, h⟩

theorem couples_throw (e : ε) : Couples R (throw e : Prog σ ε α) := fun _ _ h => ⟨rfl, h⟩

theorem couples_modify {f : σ → σ} (hf : ∀ s t, R s t → R (f s) (f t)) :
    Couples R (modify f : Prog σ ε Unit) := fun s t h => ⟨rfl, hf s t h⟩

/-- two coupled runs end with one result -/
theorem Couples.result {p : Prog σ ε α} (hp : Couples R p) {s t : σ} (h : R s t) :
    ∃ r s' t', p.run s = (r, s') ∧ p.run t = (r, t') ∧ R s' t' := by
  obtain ⟨hresult, hend⟩ := hp s t h
  exact ⟨(p.run s).1, (p.run s).2, (p.run t).2, rfl, by rw [hresult], hend⟩

theorem couples_bind {p : Prog σ ε α} {f : α → Prog σ ε β} (hp : Couples R p)
    (hf : ∀ a, Couples R (f a)) : Couples R (p >>= f) := by
  intro s t h
  obtain ⟨r, s', t', hs, ht, hend⟩ := hp.result h
  rw [run_bind, run_bind, hs, ht]
  cases r with
  | ok a => exact hf a s' t' hend
  | error e => exact ⟨rfl, hend⟩

/-- a value read of the state that is the same in both runs -/
theorem couples_read {γ : Type} (read : σ → γ) (hread : ∀ s t, R s t → read s = read t)
    {f : γ → Prog σ ε β} (hf : ∀ c, Couples R (f c)) :
    Couples R (get >>= fun s => f (read s)) := by
  intro s t h
  rw [run_bind, run_bind]
  show ((f (read s)).run s).1 = ((f (read t)).run t).1 ∧
    R ((f (read s)).run s).2 ((f (read t)).run t).2
  rw [hread s t h]
  exact hf (read t) s t h

theorem couples_ite {c : Prop} [Decidable c] {p q : Prog σ ε α} (hp : c → Couples R p)
    (hq : ¬ c → Couples R q) : Couples R (if c then p else q) := by
  by_cases h : c
  · rw [if_pos h]
    exact hp h
  · rw [if_neg h]
    exact hq h

theorem couples_tryCatch {p : Prog σ ε α} {handler : ε → Prog σ ε α} (hp : Couples R p)
    (hh : ∀ e, Couples R (handler e)) : Couples R (tryCatch p handler) := by
  intro s t h
  obtain ⟨r, s', t', hs, ht, hend⟩ := hp.result h
  rw [run_tryCatch, run_tryCatch, hs, ht]
  cases r with
  | ok a => exact ⟨rfl, hend⟩
  | error e => exact hh e s' t' hend

end Prog
