import Mathlib

/-!
# Machines with outputs, and refinement between them

A machine is a step function `step : σ → ι → ο × σ` that answers every input.  A concrete machine
refines an abstract one when, from related states, each of its answers is the abstract answer to
the same input.  The abstract input may depend on what was observed of the concrete step, its own
answer included: this is how an outside event that the concrete step met (a fault, say) is replayed
by the abstract machine.

* `outputs`          the answers to a list of inputs and the state after it;
* `Simulates`        the step condition;
* `outputs_refine`   **one step carries over to whole runs**.
-/

namespace Machine
variable {σ τ ι κ ο : Type}

def outputs (step : σ → ι → ο × σ) (s : σ) : List ι → List ο × σ
  | [] => ([], s)
  | i :: is =>
    let r := step s i
    let rest := outputs step r.2 is
    (r.1 :: rest.1, rest.2)

theorem outputs_cons (step : σ → ι → ο × σ) (s : σ) (i : ι) (is : List ι) :
    outputs step s (i :: is) =
      ((step s i).1 :: (outputs step (step s i).2 is).1, (outputs step (step s i).2 is).2) := rfl

/-- from related states the abstract machine, fed what was observed, gives the same answer and
ends related -/
def Simulates (step : σ → ι → ο × σ) (astep : τ → κ → ο × τ) (observe : ι → ο → κ)
    (R : σ → τ → Prop) : Prop :=
  ∀ s t i, R s t →
    (astep t (observe i (step s i).1)).1 = (step s i).1 ∧
      R (step s i).2 (astep t (observe i (step s i).1)).2

theorem outputs_refine {step : σ → ι → ο × σ} {astep : τ → κ → ο × τ} {observe : ι → ο → κ}
    {R : σ → τ → Prop} (hsim : Simulates step astep observe R) (is : List ι) (s : σ) (t : τ)
    (h : R s t) :
    (outputs astep t (List.zipWith observe is (outputs step s is).1)).1 = (outputs step s is).1 ∧
      R (outputs step s is).2
        (outputs astep t (List.zipWith observe is (outputs step s is).1)).2 := by
  induction is generalizing s t with
  | nil => exact ⟨rfl, h⟩
  | cons i is ih =>
    obtain ⟨hanswer, hrel⟩ := hsim s t i h
    obtain ⟨hrest, hend⟩ := ih (step s i).2 (astep t (observe i (step s i).1)).2 hrel
    rw [outputs_cons, List.zipWith_cons_cons, outputs_cons]
    refine ⟨?_, hend⟩
    show _ :: _ = _ :: _
    rw [hanswer, hrest]

end Machine
