import Logistics.Lib.Runs

/-!
# What a run puts out

A step of a run may put something out: `out s i` lists what the input `i` puts out in the state `s`.
`trace` is all that a run has put out.

* `trace_concat`     one more step;
* `trace_append`     a run that goes on;
* `run_trace_induction`  **the induction over a run with its trace**;
* `trace_conserves`  a queue in the state: what was in it and went in is what came out and is in it.
-/

namespace Runs
variable {σ ι β : Type} (step : σ → ι → Option σ) (out : σ → ι → List β)

def trace (s : σ) : List ι → List β
  | [] => []
  | i :: is => (step s i).elim [] fun s' => out s i ++ trace s' is

variable {step out}

theorem trace_cons {s s' : σ} {i : ι} (hstep : step s i = some s') (is : List ι) :
    trace step out s (i :: is) = out s i ++ trace step out s' is := by
  rw [trace, hstep, Option.elim_some]

theorem trace_append {s s' : σ} {is : List ι} (hrun : runFrom step s is = some s') (js : List ι) :
    trace step out s (is ++ js) = trace step out s is ++ trace step out s' js := by
  induction is generalizing s with
  | nil =>
    cases hrun
    rfl
  | cons i is ih =>
    rw [runFrom_cons] at hrun
    obtain ⟨s₁, hstep, hrun⟩ := Option.bind_eq_some_iff.mp hrun
    rw [List.cons_append, trace_cons hstep, trace_cons hstep, ih hrun, List.append_assoc]

theorem trace_concat {s s' s'' : σ} {is : List ι} {i : ι} (hrun : runFrom step s is = some s')
    (hstep : step s' i = some s'') :
    trace step out s (is ++ [i]) = trace step out s is ++ out s' i := by
  rw [trace_append hrun, trace_cons hstep]
  show _ ++ (out s' i ++ []) = _
  rw [List.append_nil]

variable (step out) in
theorem run_trace_induction {s₀ : σ} {P : List β → σ → Prop} (h₀ : P [] s₀)
    (hstep : ∀ bs s i s', P bs s → step s i = some s' → P (bs ++ out s i) s') :
    ∀ is s, runFrom step s₀ is = some s → P (trace step out s₀ is) s := by
  refine runFrom_induction (P := fun is s => P (trace step out s₀ is) s) h₀ ?_
  intro is s i s' hrun ih hi
  rw [trace_concat hrun hi]
  exact hstep _ s i s' ih hi

/-- the entries of `queue` go in at its end and come out at its front -/
theorem trace_conserves {γ : Type} (queue : σ → List γ) {goesIn comesOut : β → Option γ}
    (hstep : ∀ s i s', step s i = some s' →
      queue s ++ (out s i).filterMap goesIn = (out s i).filterMap comesOut ++ queue s')
    {s₀ s : σ} {is : List ι} (hrun : runFrom step s₀ is = some s) :
    queue s₀ ++ (trace step out s₀ is).filterMap goesIn =
      (trace step out s₀ is).filterMap comesOut ++ queue s := by
  refine run_trace_induction step out (P := fun bs s => queue s₀ ++ bs.filterMap goesIn =
    bs.filterMap comesOut ++ queue s) (List.append_nil _) ?_ is s hrun
  intro bs s i s' ih hi
  rw [List.filterMap_append, List.filterMap_append, ← List.append_assoc, ih, List.append_assoc,
    hstep s i s' hi, List.append_assoc]

end Runs
