import Mathlib

/-!
# Runs of a partial step function

A system is a step function `step : σ → ι → Option σ`: in the state `s` the input `i` leads to
`step s i`, or cannot be taken.  `runFrom step s is` takes a whole list of inputs.

* `runFrom_nil`, `runFrom_cons`, `runFrom_append`, `runFrom_concat`
* `runFrom_induction`   what holds at the start and is kept by every step holds after a run;
* `runFrom_invariant`   the same for a property of the state alone;
* `Occurred`            somewhere in the run an input was taken in a state with it in `Q`;
* `Throughout`          every input of the run was taken in a state with it in `G`;
* `Always`              a property of every state of the run;
* `always_iff_never`    the property lasts through a run exactly if no step of it was in `Q`;
* `always_iff_not_occurred`   the same, where each step keeps it exactly outside `Q`.
-/

namespace Runs
variable {σ ι : Type} (step : σ → ι → Option σ)

def runFrom (s : σ) : List ι → Option σ
  | [] => some s
  | i :: is => (step s i).bind fun s' => runFrom s' is

@[simp] theorem runFrom_nil (s : σ) : runFrom step s [] = some s := rfl

theorem runFrom_cons (s : σ) (i : ι) (is : List ι) :
    runFrom step s (i :: is) = (step s i).bind fun s' => runFrom step s' is := rfl

theorem runFrom_append (s : σ) (is js : List ι) :
    runFrom step s (is ++ js) = (runFrom step s is).bind fun s' => runFrom step s' js := by
  induction is generalizing s with
  | nil => rfl
  | cons i is ih =>
    rw [List.cons_append, runFrom_cons, runFrom_cons, Option.bind_assoc]
    congr 1
    funext s'
    exact ih s'

theorem runFrom_concat (s : σ) (is : List ι) (i : ι) :
    runFrom step s (is ++ [i]) = (runFrom step s is).bind fun s' => step s' i := by
  rw [runFrom_append]
  congr 1
  funext s'
  show (step s' i).bind some = step s' i
  cases step s' i <;> rfl

variable {step}

/-- **What holds at the start and is kept by every step of the run holds after the run.** -/
theorem runFrom_induction {s₀ : σ} {P : List ι → σ → Prop} (h₀ : P [] s₀)
    (hstep : ∀ is s i s', runFrom step s₀ is = some s → P is s → step s i = some s' →
      P (is ++ [i]) s') :
    ∀ is s, runFrom step s₀ is = some s → P is s := by
  intro is
  induction is using List.reverseRecOn with
  | nil =>
    intro s h
    cases h
    exact h₀
  | append_singleton is i ih =>
    intro s' h
    rw [runFrom_concat] at h
    obtain ⟨s, hs, hi⟩ := Option.bind_eq_some_iff.mp h
    exact hstep is s i s' hs (ih s hs) hi

theorem runFrom_invariant {s₀ : σ} {I : σ → Prop} (h₀ : I s₀)
    (hstep : ∀ s i s', I s → step s i = some s' → I s') :
    ∀ is s, runFrom step s₀ is = some s → I s :=
  runFrom_induction h₀ fun _ s i s' _ hI hi => hstep s i s' hI hi

variable {s₀ s : σ} {i : ι} {is : List ι} {G Q : σ → ι → Prop} {I : σ → Prop}

/-! ## something happened -/

variable (step) in
/-- in the run `is` from `s₀` some input was taken in a state with it in `Q` -/
def Occurred (s₀ : σ) (is : List ι) (Q : σ → ι → Prop) : Prop :=
  ∃ before i after s, is = before ++ i :: after ∧ runFrom step s₀ before = some s ∧ Q s i

theorem not_occurred_nil (s₀ : σ) (Q : σ → ι → Prop) : ¬ Occurred step s₀ [] Q := by
  rintro ⟨before, i, after, s, h, -, -⟩
  simp at h

theorem occurred_concat (hs : runFrom step s₀ is = some s) (i : ι) (Q : σ → ι → Prop) :
    Occurred step s₀ (is ++ [i]) Q ↔ Occurred step s₀ is Q ∨ Q s i := by
  constructor
  · rintro ⟨before, j, after, s', h, hs', hq⟩
    rcases List.eq_nil_or_concat after with rfl | ⟨after, k, rfl⟩
    · obtain ⟨rfl, hij⟩ := List.append_inj' h rfl
      obtain rfl : i = j := List.singleton_inj.mp hij
      rw [hs] at hs'
      cases hs'
      exact .inr hq
    · rw [List.concat_eq_append, ← List.cons_append, ← List.append_assoc] at h
      obtain ⟨rfl, -⟩ := List.append_inj' h rfl
      exact .inl ⟨before, j, after, s', rfl, hs', hq⟩
  · rintro (⟨before, j, after, s', rfl, hs', hq⟩ | hq)
    · exact ⟨before, j, after ++ [i], s', by simp, hs', hq⟩
    · exact ⟨is, i, [], s, rfl, hs, hq⟩

theorem occurred_cons (s₀ : σ) (i : ι) (is : List ι) (Q : σ → ι → Prop) :
    Occurred step s₀ (i :: is) Q ↔ Q s₀ i ∨ ∃ s, step s₀ i = some s ∧ Occurred step s is Q := by
  constructor
  · rintro ⟨before, j, after, s', h, hs', hq⟩
    cases before with
    | nil =>
      cases h
      cases hs'
      exact .inl hq
    | cons k before =>
      cases h
      rw [runFrom_cons] at hs'
      obtain ⟨s, hs, hrun⟩ := Option.bind_eq_some_iff.mp hs'
      exact .inr ⟨s, hs, before, j, after, s', rfl, hrun, hq⟩
  · rintro (hq | ⟨s, hs, before, j, after, s', rfl, hrun, hq⟩)
    · exact ⟨[], i, is, s₀, rfl, rfl, hq⟩
    · refine ⟨i :: before, j, after, s', rfl, ?_, hq⟩
      rw [runFrom_cons, hs]
      exact hrun

theorem not_occurred_cons (hi : ¬ Q s₀ i) (his : ∀ s, step s₀ i = some s → ¬ Occurred step s is Q) :
    ¬ Occurred step s₀ (i :: is) Q := by
  rw [occurred_cons]
  rintro (hbad | ⟨s, hs, hbad⟩)
  · exact hi hbad
  · exact his s hs hbad

/-- where `Q` says which inputs a state does not take, a run goes through exactly if none of its
inputs was in `Q` -/
theorem runs_iff_not_occurred (hQ : ∀ s i, step s i = none ↔ Q s i) (s₀ : σ) (is : List ι) :
    (∃ s, runFrom step s₀ is = some s) ↔ ¬ Occurred step s₀ is Q := by
  induction is generalizing s₀ with
  | nil => exact iff_of_true ⟨s₀, rfl⟩ (not_occurred_nil s₀ Q)
  | cons i is ih =>
    rw [occurred_cons, runFrom_cons]
    cases hi : step s₀ i with
    | none => exact iff_of_false nofun fun h => h (.inl ((hQ s₀ i).mp hi))
    | some s =>
      have hnot : ¬ Q s₀ i := by
        rw [← hQ, hi]
        exact Option.some_ne_none s
      rw [Option.bind_some, ih s]
      constructor
      · rintro h (hq | ⟨s', hs', hlater⟩)
        · exact hnot hq
        · cases hs'
          exact h hlater
      · exact fun h hlater => h (.inr ⟨s, rfl, hlater⟩)

variable (step) in
/-- every input of the run `is` from `s₀` was taken in a state with it in `G` -/
def Throughout (s₀ : σ) (is : List ι) (G : σ → ι → Prop) : Prop :=
  ¬ Occurred step s₀ is fun s i => ¬ G s i

theorem throughout_concat (hs : runFrom step s₀ is = some s) (i : ι) (G : σ → ι → Prop) :
    Throughout step s₀ (is ++ [i]) G ↔ Throughout step s₀ is G ∧ G s i := by
  unfold Throughout
  rw [occurred_concat hs, not_or, not_not]

/-- a guard that does not look at the state -/
theorem throughout_of_forall {G : ι → Prop} (h : ∀ i ∈ is, G i) (s₀ : σ) :
    Throughout step s₀ is fun _ i => G i := by
  rintro ⟨before, i, after, s, rfl, -, hno⟩
  exact hno (h i (by simp))

theorem throughout_nil (s₀ : σ) (G : σ → ι → Prop) : Throughout step s₀ [] G :=
  not_occurred_nil s₀ _

theorem throughout_cons (hi : G s₀ i) (his : ∀ s, step s₀ i = some s → Throughout step s is G) :
    Throughout step s₀ (i :: is) G :=
  not_occurred_cons (not_not.mpr hi) his

/-- **What steps that meet `G` keep holds after every run of such steps.** -/
theorem runFrom_guarded (h₀ : I s₀) (hstep : ∀ s i s', I s → G s i → step s i = some s' → I s') :
    ∀ is s, runFrom step s₀ is = some s → Throughout step s₀ is G → I s := by
  refine runFrom_induction (fun _ => h₀) ?_
  intro is s i s' hrun ih hi hall
  obtain ⟨hbefore, hnow⟩ := (throughout_concat hrun i G).mp hall
  exact hstep s i s' (ih hbefore) hnow hi

/-! ## every state of a run -/

variable (step) in
/-- every state that the run `is` from `s₀` goes through has `P` -/
def Always (s₀ : σ) (is : List ι) (P : σ → Prop) : Prop :=
  ∀ before after s, is = before ++ after → runFrom step s₀ before = some s → P s

theorem Occurred.append (h : Occurred step s₀ is Q) (js : List ι) : Occurred step s₀ (is ++ js) Q := by
  obtain ⟨before, i, after, s, rfl, hs, hq⟩ := h
  exact ⟨before, i, after ++ js, s, by simp, hs, hq⟩

theorem always_guarded (h₀ : I s₀) (hstep : ∀ s i s', I s → G s i → step s i = some s' → I s')
    (hall : Throughout step s₀ is G) : Always step s₀ is I := by
  rintro before after s rfl hrun
  exact runFrom_guarded h₀ hstep before s hrun fun hbad => hall (hbad.append after)

theorem Always.mono {P P' : σ → Prop} (h : Always step s₀ is P) (himp : ∀ s, P s → P' s) :
    Always step s₀ is P' := by
  intro before after s his hrun
  exact himp s (h before after s his hrun)

/-- a step that occurs in the run has `P` before it and after it -/
theorem Always.around {P : σ → Prop} (h : Always step s₀ is P) (hocc : Occurred step s₀ is Q) :
    ∃ s i, Q s i ∧ P s ∧ ∀ s', step s i = some s' → P s' := by
  obtain ⟨before, i, after, s, rfl, hs, hq⟩ := hocc
  refine ⟨s, i, hq, h before (i :: after) s rfl hs, ?_⟩
  intro s' hs'
  refine h (before ++ [i]) after s' (by simp) ?_
  rw [runFrom_concat, hs]
  exact hs'

theorem Throughout.holds {before after : List ι} (h : Throughout step s₀ is G)
    (his : is = before ++ i :: after) (hs : runFrom step s₀ before = some s) : G s i := by
  by_contra hno
  exact h ⟨before, i, after, s, his, hs, hno⟩

/-- **Where steps outside `Q` keep an invariant `K` that gives `P`, and a step in `Q` loses `P`, the
property holds throughout a run of steps in `G` exactly if nothing in `Q` occurred.** -/
theorem always_iff_never_guarded {K P : σ → Prop} (hG : Throughout step s₀ is G) (hK₀ : K s₀)
    (hP : ∀ s, K s → P s) (hQ : ∀ s i, Q s i → ∃ s', step s i = some s')
    (hkeep : ∀ s i s', K s → G s i → ¬ Q s i → step s i = some s' → K s')
    (hlose : ∀ s i s', K s → G s i → Q s i → step s i = some s' → ¬ P s') :
    Always step s₀ is P ↔ ¬ Occurred step s₀ is Q := by
  constructor
  · intro halways
    have hsafe : ∀ before i after s, is = before ++ i :: after →
        runFrom step s₀ before = some s → K s → ¬ Q s i := by
      intro before i after s his hs hK hq
      obtain ⟨s', hs'⟩ := hQ s i hq
      refine hlose s i s' hK (hG.holds his hs) hq hs' ?_
      refine halways (before ++ [i]) after s' (by simp [his]) ?_
      rw [runFrom_concat, hs]
      exact hs'
    have hK : ∀ before s, runFrom step s₀ before = some s →
        ∀ after, is = before ++ after → K s := by
      refine runFrom_induction (fun _ _ => hK₀) ?_
      intro before s i s' hs ih hstep after his
      rw [List.append_assoc] at his
      have hKs := ih (i :: after) his
      exact hkeep s i s' hKs (hG.holds his hs) (hsafe before i after s his hs hKs) hstep
    rintro ⟨before, i, after, s, his, hs, hq⟩
    exact hsafe before i after s his hs (hK before s hs (i :: after) his) hq
  · intro hnever
    have hguard : Throughout step s₀ is fun s i => G s i ∧ ¬ Q s i := by
      rintro ⟨before, i, after, s, rfl, hs, hbad⟩
      exact hbad ⟨hG.holds rfl hs, fun hq => hnever ⟨before, i, after, s, rfl, hs, hq⟩⟩
    have hK : Always step s₀ is K := always_guarded hK₀
      (fun s i s' hKs hg hs' => hkeep s i s' hKs hg.1 hg.2 hs') hguard
    exact hK.mono hP

/-- the same where the guard is on the inputs only -/
theorem always_iff_never {K P : σ → Prop} {G : ι → Prop} (hG : ∀ i ∈ is, G i) (hK₀ : K s₀)
    (hP : ∀ s, K s → P s) (hQ : ∀ s i, Q s i → ∃ s', step s i = some s')
    (hkeep : ∀ s i s', K s → G i → ¬ Q s i → step s i = some s' → K s')
    (hlose : ∀ s i s', K s → G i → Q s i → step s i = some s' → ¬ P s') :
    Always step s₀ is P ↔ ¬ Occurred step s₀ is Q := by
  refine always_iff_never_guarded (G := fun _ i => G i) ?_ hK₀ hP hQ hkeep hlose
  rintro ⟨before, i, after, s, rfl, -, hno⟩
  exact hno (hG i (by simp))

/-- **What a step keeps exactly if it is not in `Q` holds throughout a run exactly if nothing in `Q`
occurred.**  The steps may be restricted to inputs in `G`, and to states in an invariant `I`. -/
theorem always_iff_not_occurred {P : σ → Prop} {G : ι → Prop} (hG : ∀ i ∈ is, G i) (hI₀ : I s₀)
    (hI : ∀ s i s', I s → step s i = some s' → I s') (hP₀ : P s₀)
    (hQ : ∀ s i, Q s i → ∃ s', step s i = some s')
    (hiff : ∀ s i s', I s → P s → G i → step s i = some s' → (P s' ↔ ¬ Q s i)) :
    Always step s₀ is P ↔ ¬ Occurred step s₀ is Q := by
  refine always_iff_never (K := fun s => I s ∧ P s) hG ⟨hI₀, hP₀⟩ (fun _ h => h.2) hQ ?_ ?_
  · intro s i s' hs hi hq hstep
    exact ⟨hI s i s' hs.1 hstep, (hiff s i s' hs.1 hs.2 hi hstep).mpr hq⟩
  · intro s i s' hs hi hq hstep hP'
    exact (hiff s i s' hs.1 hs.2 hi hstep).mp hP' hq

end Runs
