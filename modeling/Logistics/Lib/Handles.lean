import Logistics.Lib.Prog

/-!
# Programs that open and close descriptors

A `Kernel` knows the descriptors that are open and the names that exist, and answers the system calls
of a program: a call succeeds or fails, and a descriptor that is handed out is any one that is free.
`stray` records that a descriptor was closed that is not open.

* `Prog.Meets Q E p s`   from `s` the program returns into `Q` or throws into `E`;
* `Kernel.call`, `acquire`, `release`, `link`, `touch`, `unlink`   the system calls;
* `Kernel.firstOf`       tries one candidate after the other, each with a descriptor of its own;
* `Owns base fds`        besides those of `base` exactly the descriptors of `fds` are open;
* `meets_acquire`, `meets_release`, ...   one rule for each call.
-/

set_option linter.unusedSectionVars false

namespace Prog
variable {σ ε α β : Type}

/-- the program returns with `Q` or throws with `E` -/
def Meets (Q : α → σ → Prop) (E : ε → σ → Prop) (p : Prog σ ε α) (s : σ) : Prop :=
  match p.run s with
  | (.ok a, s') => Q a s'
  | (.error e, s') => E e s'

section Rules
variable {Q : α → σ → Prop} {E : ε → σ → Prop} {s : σ}

theorem meets_bind {R : β → σ → Prop} {p : Prog σ ε α} {f : α → Prog σ ε β}
    (h : p.Meets (fun a => (f a).Meets R E) E s) : (p >>= f).Meets R E s := by
  unfold Meets at h ⊢
  rw [run_bind]
  generalize p.run s = r at h ⊢
  obtain ⟨r, s'⟩ := r
  cases r with
  | ok a => exact h
  | error e => exact h

theorem meets_ok {p : Prog σ ε α} (h : p.Meets Q E s) {a : α} {s' : σ}
    (hrun : p.run s = (.ok a, s')) : Q a s' := by
  unfold Meets at h
  rw [hrun] at h
  exact h

end Rules

end Prog

/-- `answers` are those of the calls to come: whether the call succeeds, and a number -/
structure Kernel (ν : Type) where
  held : Finset Nat
  names : Finset ν
  stray : Bool
  answers : Nat → Bool × Nat

namespace Kernel
variable {ν ε : Type} [DecidableEq ν]

/-- a descriptor that is not open: any one, for some number -/
def free (held : Finset Nat) (pick : Nat) : Nat :=
  if pick ∈ held then held.sup id + 1 else pick

theorem free_not_mem (held : Finset Nat) (pick : Nat) : free held pick ∉ held := by
  unfold free
  split
  · intro hmem
    have hle : held.sup id + 1 ≤ held.sup id := Finset.le_sup (f := id) hmem
    omega
  · assumption

def asked (k : Kernel ν) : Kernel ν := { k with answers := fun n => k.answers (n + 1) }

/-- a call that concerns neither descriptors nor names -/
def call : Prog (Kernel ν) ε Bool := do
  let k ← Prog.get
  Prog.modify asked
  pure (k.answers 0).1

/-- a call that opens a descriptor -/
def acquire : Prog (Kernel ν) ε (Option Nat) := do
  let k ← Prog.get
  if (k.answers 0).1 then do
    let fd := free k.held (k.answers 0).2
    Prog.modify fun k => { k.asked with held := insert fd k.held }
    pure (some fd)
  else do
    Prog.modify asked
    pure none

/-- `close` of a descriptor -/
def release (fd : Nat) : Prog (Kernel ν) ε Unit :=
  Prog.modify fun k => { k with held := k.held.erase fd, stray := k.stray || fd ∉ k.held }

/-- a call that makes a name, which must not exist -/
def link (name : ν) : Prog (Kernel ν) ε Bool := do
  let k ← Prog.get
  if name ∉ k.names ∧ (k.answers 0).1 then do
    Prog.modify fun k => { k.asked with names := insert name k.names }
    pure true
  else do
    Prog.modify asked
    pure false

/-- the first candidate for which the attempt succeeds, and its descriptor; the others are closed -/
def firstOf {α : Type} (attempt : Nat → Prog (Kernel ν) ε Bool) :
    List α → Prog (Kernel ν) ε (Option (α × Nat))
  | [] => pure none
  | a :: candidates => do
    let opened ← acquire
    match opened with
    | none => firstOf attempt candidates
    | some fd => do
      let succeeded ← attempt fd
      if succeeded then pure (some (a, fd))
      else do
        release fd
        firstOf attempt candidates

def unlink (name : ν) : Prog (Kernel ν) ε Unit :=
  Prog.modify fun k => { k with names := k.names.erase name }

/-- makes a name if it is not there -/
def touch (name : ν) : Prog (Kernel ν) ε Unit :=
  Prog.modify fun k => { k with names := insert name k.names }

/-- the system as a program finds it -/
def boot (held : Finset Nat) (names : Finset ν) (answers : Nat → Bool × Nat) : Kernel ν :=
  ⟨held, names, false, answers⟩

/-- every call to come succeeds -/
def Willing (k : Kernel ν) : Prop := ∀ n, (k.answers n).1 = true

theorem Willing.asked {k : Kernel ν} (h : k.Willing) : k.asked.Willing := fun n => h (n + 1)

/-! ## ownership -/

structure Owns (base : Finset Nat) (fds : List Nat) (k : Kernel ν) : Prop where
  held : ∀ d, d ∈ k.held ↔ d ∈ base ∨ d ∈ fds
  nodup : fds.Nodup
  apart : ∀ d ∈ fds, d ∉ base
  clean : k.stray = false

/-- what a call leaves alone -/
structure Calm (k k' : Kernel ν) : Prop where
  names : k'.names = k.names
  willing : k.Willing → k'.Willing

theorem Calm.trans {k k' k'' : Kernel ν} (h : Calm k k') (h' : Calm k' k'') : Calm k k'' :=
  ⟨h'.names.trans h.names, fun hw => h'.willing (h.willing hw)⟩

theorem owns_boot (held : Finset Nat) (names : Finset ν) (answers : Nat → Bool × Nat) :
    Owns held [] (boot held names answers) := by
  refine ⟨fun d => ?_, List.nodup_nil, ?_, rfl⟩
  · exact (or_iff_left List.not_mem_nil).symm
  · intro d hd
    cases hd

section Rules
variable {base : Finset Nat} {fds : List Nat} {k : Kernel ν} {E : ε → Kernel ν → Prop}

theorem Owns.asked (h : Owns base fds k) : Owns base fds k.asked :=
  ⟨h.held, h.nodup, h.apart, h.clean⟩

theorem meets_call {Q : Bool → Kernel ν → Prop} (h : Owns base fds k)
    (hQ : ∀ b k', Owns base fds k' → Calm k k' → (k.Willing → b = true) → Q b k') :
    (call : Prog (Kernel ν) ε Bool).Meets Q E k :=
  hQ _ k.asked h.asked ⟨rfl, Willing.asked⟩ fun hw => hw 0

theorem meets_acquire {Q : Option Nat → Kernel ν → Prop} (h : Owns base fds k)
    (hnone : ∀ k', Owns base fds k' → Calm k k' → ¬ k.Willing → Q none k')
    (hsome : ∀ fd k', Owns base (fd :: fds) k' → Calm k k' → Q (some fd) k') :
    (acquire : Prog (Kernel ν) ε (Option Nat)).Meets Q E k := by
  refine Prog.meets_bind ?_
  show Prog.Meets Q E (ite _ _ _) k
  by_cases hans : (k.answers 0).1 = true
  · rw [if_pos hans]
    have hfree := free_not_mem k.held (k.answers 0).2
    rw [h.held, not_or] at hfree
    refine hsome _ _ ⟨?_, ?_, ?_, h.clean⟩ ⟨rfl, Willing.asked⟩
    · intro d
      rw [Finset.mem_insert, h.held, List.mem_cons]
      exact or_left_comm
    · exact List.nodup_cons.mpr ⟨hfree.2, h.nodup⟩
    · exact List.forall_mem_cons.mpr ⟨hfree.1, h.apart⟩
  · rw [if_neg hans]
    exact hnone _ h.asked ⟨rfl, Willing.asked⟩ fun hw => hans (hw 0)

theorem meets_release {Q : Unit → Kernel ν → Prop} {fd : Nat} (h : Owns base (fd :: fds) k)
    (hQ : ∀ k', Owns base fds k' → Calm k k' → Q () k') :
    (release fd : Prog (Kernel ν) ε Unit).Meets Q E k := by
  obtain ⟨hfresh, hnodup⟩ := List.nodup_cons.mp h.nodup
  obtain ⟨hbase, hapart⟩ := List.forall_mem_cons.mp h.apart
  refine hQ _ ⟨?_, hnodup, hapart, ?_⟩ ⟨rfl, id⟩
  · intro d
    rw [Finset.mem_erase, h.held, List.mem_cons]
    constructor
    · rintro ⟨hne, hd | hd | hd⟩
      · exact .inl hd
      · exact absurd hd hne
      · exact .inr hd
    · rintro (hd | hd)
      · exact ⟨fun heq => hbase (heq ▸ hd), .inl hd⟩
      · exact ⟨fun heq => hfresh (heq ▸ hd), .inr (.inr hd)⟩
  · have hmem : fd ∈ k.held := (h.held fd).mpr (.inr List.mem_cons_self)
    show (k.stray || decide (fd ∉ k.held)) = false
    rw [h.clean, decide_eq_false (not_not.mpr hmem)]
    rfl

/-- a descriptor that was there before is given up -/
theorem meets_release_base {Q : Unit → Kernel ν → Prop} {fd : Nat} (h : Owns base fds k)
    (hfd : fd ∈ base) (hQ : ∀ k', Owns (base.erase fd) fds k' → Calm k k' → Q () k') :
    (release fd : Prog (Kernel ν) ε Unit).Meets Q E k := by
  have hfresh : ∀ d ∈ fds, d ≠ fd := fun d hd heq => h.apart d hd (heq ▸ hfd)
  refine hQ _ ⟨?_, h.nodup, ?_, ?_⟩ ⟨rfl, id⟩
  · intro d
    rw [Finset.mem_erase, Finset.mem_erase, h.held]
    constructor
    · rintro ⟨hne, hd | hd⟩
      · exact .inl ⟨hne, hd⟩
      · exact .inr hd
    · rintro (hd | hd)
      · exact ⟨hd.1, .inl hd.2⟩
      · exact ⟨hfresh d hd, .inr hd⟩
  · exact fun d hd hmem => h.apart d hd (Finset.mem_of_mem_erase hmem)
  · have hmem : fd ∈ k.held := (h.held fd).mpr (.inl hfd)
    show (k.stray || decide (fd ∉ k.held)) = false
    rw [h.clean, decide_eq_false (not_not.mpr hmem)]
    rfl

/-- candidates that failed leave nothing behind, and a willing system takes the first -/
theorem meets_firstOf {α : Type} {attempt : Nat → Prog (Kernel ν) ε Bool}
    {Q : Option (α × Nat) → Kernel ν → Prop} (candidates : List α) (h : Owns base fds k)
    (hattempt : ∀ fd k' (R : Bool → Kernel ν → Prop), Owns base (fd :: fds) k' → Calm k k' →
      (∀ b k'', Owns base (fd :: fds) k'' → Calm k' k'' → (k'.Willing → b = true) → R b k'') →
      (attempt fd).Meets R E k')
    (hnone : ∀ k', Owns base fds k' → Calm k k' → (k.Willing → candidates = []) → Q none k')
    (hsome : ∀ a fd k', a ∈ candidates → Owns base (fd :: fds) k' → Calm k k' → Q (some (a, fd)) k') :
    (firstOf attempt candidates).Meets Q E k := by
  induction candidates generalizing k with
  | nil => exact hnone k h ⟨rfl, id⟩ fun _ => rfl
  | cons a candidates ih =>
    -- the rest of the list, after an attempt that failed
    have hrest : ∀ k₁, Owns base fds k₁ → Calm k k₁ → ¬ k.Willing →
        (firstOf attempt candidates).Meets Q E k₁ := by
      intro k₁ h₁ hcalm hnot
      refine ih h₁ (fun fd k' R hk' hcalm' => hattempt fd k' R hk' (hcalm.trans hcalm')) ?_ ?_
      · exact fun k' hk' hcalm' _ => hnone k' hk' (hcalm.trans hcalm') fun hw => absurd hw hnot
      · exact fun a' fd k' ha' hk' hcalm' =>
          hsome a' fd k' (List.mem_cons_of_mem a ha') hk' (hcalm.trans hcalm')
    unfold firstOf
    refine Prog.meets_bind (meets_acquire h (fun k₁ h₁ hcalm₁ hnot => hrest k₁ h₁ hcalm₁ hnot) ?_)
    intro fd k₁ h₁ hcalm₁
    refine Prog.meets_bind (hattempt fd k₁ _ h₁ hcalm₁ fun succeeded k₂ h₂ hcalm₂ hsucceeded => ?_)
    have hcalm := hcalm₁.trans hcalm₂
    cases succeeded with
    | true => exact hsome a fd k₂ List.mem_cons_self h₂ hcalm
    | false =>
      refine Prog.meets_bind (meets_release h₂ fun k₃ h₃ hcalm₃ => ?_)
      refine hrest k₃ h₃ (hcalm.trans hcalm₃) fun hw => ?_
      cases hsucceeded (hcalm₁.willing hw)

theorem meets_link {Q : Bool → Kernel ν → Prop} {name : ν} (h : Owns base fds k)
    (hfalse : ∀ k', Owns base fds k' → Calm k k' → (k.Willing → name ∈ k.names) → Q false k')
    (htrue : ∀ k', Owns base fds k' → k'.names = insert name k.names → name ∉ k.names →
      (k.Willing → k'.Willing) → Q true k') :
    (link name : Prog (Kernel ν) ε Bool).Meets Q E k := by
  refine Prog.meets_bind ?_
  show Prog.Meets Q E (ite _ _ _) k
  by_cases hans : name ∉ k.names ∧ (k.answers 0).1 = true
  · rw [if_pos hans]
    exact htrue _ ⟨h.held, h.nodup, h.apart, h.clean⟩ rfl hans.1 Willing.asked
  · rw [if_neg hans]
    refine hfalse _ h.asked ⟨rfl, Willing.asked⟩ fun hw => ?_
    by_contra hname
    exact hans ⟨hname, hw 0⟩

theorem meets_touch {Q : Unit → Kernel ν → Prop} {name : ν} (h : Owns base fds k)
    (hQ : ∀ k', Owns base fds k' → k'.names = insert name k.names → (k.Willing → k'.Willing) →
      Q () k') : (touch name : Prog (Kernel ν) ε Unit).Meets Q E k :=
  hQ _ ⟨h.held, h.nodup, h.apart, h.clean⟩ rfl id

theorem meets_unlink {Q : Unit → Kernel ν → Prop} {name : ν} (h : Owns base fds k)
    (hQ : ∀ k', Owns base fds k' → k'.names = k.names.erase name → (k.Willing → k'.Willing) →
      Q () k') : (unlink name : Prog (Kernel ν) ε Unit).Meets Q E k :=
  hQ _ ⟨h.held, h.nodup, h.apart, h.clean⟩ rfl id

theorem Owns.perm {fds' : List Nat} (h : Owns base fds k) (hperm : fds.Perm fds') :
    Owns base fds' k := by
  refine ⟨fun d => ?_, hperm.nodup_iff.mp h.nodup, fun d hd => h.apart d (hperm.mem_iff.mpr hd),
    h.clean⟩
  rw [h.held, hperm.mem_iff]

end Rules

end Kernel
