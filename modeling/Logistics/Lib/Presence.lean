import Mathlib

/-!
# Who is present: users, and the sessions they are logged in on

Sessions are many and come and go; a registry keyed by user remembers for each user at most one
session, which users were ever there, and which of them are away.

* `login s u`        `s` becomes the session of `u`, in place of an older one;
* `leave s`          `s` ends, and its user is taken out of the registry and is away;
* `drop s`           `s` ends and the registry is not told;
* `Sound`            the registry agrees with the sessions, and a user seen before is in it or away;
* `Faithful`         **registered means logged in on an open session, away means on none**.
-/

set_option linter.unusedSectionVars false

structure Presence (U S : Type) where
  active : U → Option S
  offline : Set U
  connected : Set U
  user : S → Option U
  ended : Set S

namespace Presence
variable {U S : Type} [DecidableEq U] [DecidableEq S] (p : Presence U S)

def login (s : S) (u : U) : Presence U S where
  active := Function.update p.active u (some s)
  offline := p.offline \ {u}
  connected := insert u p.connected
  user := Function.update p.user s (some u)
  ended := p.ended

def unregister (u : U) : Presence U S :=
  { p with active := Function.update p.active u none, offline := insert u p.offline }

def drop (s : S) : Presence U S := { p with ended := insert s p.ended }

def leave (s : S) : Presence U S :=
  match p.user s with
  | none => p.drop s
  | some u => (p.unregister u).drop s

structure Sound : Prop where
  registered : ∀ u s, p.active u = some s → p.user s = some u
  connected_iff : ∀ u, u ∈ p.connected ↔ p.active u ≠ none ∨ u ∈ p.offline
  apart : ∀ u, u ∈ p.offline → p.active u = none
  seen : ∀ s u, p.user s = some u → u ∈ p.connected

variable {p}

theorem Sound.login (h : p.Sound) {s : S} (hs : p.user s = none) (u : U) : (p.login s u).Sound where
  registered v t ht := by
    show Function.update p.user s (some u) t = some v
    by_cases hv : v = u
    · have hts : some s = some t := by
        rw [← ht, hv]
        exact (Function.update_self u (some s) p.active).symm
      cases hts
      rw [Function.update_self, hv]
    · have hold : p.active v = some t := by
        rw [← ht]
        exact (Function.update_of_ne hv (some s) p.active).symm
      have huser := h.registered v t hold
      have hne : t ≠ s := by
        intro hts
        rw [hts, hs] at huser
        cases huser
      rw [Function.update_of_ne hne, huser]
  connected_iff v := by
    show v ∈ insert u p.connected ↔
      Function.update p.active u (some s) v ≠ none ∨ v ∈ p.offline \ {u}
    by_cases hv : v = u
    · rw [hv, Function.update_self]
      exact iff_of_true (Set.mem_insert u _) (.inl (Option.some_ne_none s))
    · rw [Function.update_of_ne hv, Set.mem_insert_iff, h.connected_iff v, Set.mem_sdiff,
        Set.mem_singleton_iff]
      simp only [hv, false_or, not_false_eq_true, and_true]
  apart v hv := by
    obtain ⟨hoff, hne⟩ := hv
    have hne' : v ≠ u := hne
    show Function.update p.active u (some s) v = none
    rw [Function.update_of_ne hne']
    exact h.apart v hoff
  seen t v ht := by
    show v ∈ insert u p.connected
    have ht' : Function.update p.user s (some u) t = some v := ht
    by_cases hts : t = s
    · rw [hts, Function.update_self] at ht'
      cases ht'
      exact Set.mem_insert u _
    · rw [Function.update_of_ne hts] at ht'
      exact Set.mem_insert_of_mem u (h.seen t v ht')

theorem Sound.drop (h : p.Sound) (s : S) : (p.drop s).Sound :=
  ⟨h.registered, h.connected_iff, h.apart, h.seen⟩

theorem Sound.unregister (h : p.Sound) {u : U} (hu : u ∈ p.connected) : (p.unregister u).Sound where
  registered v t ht := by
    have ht' : Function.update p.active u none v = some t := ht
    by_cases hv : v = u
    · rw [hv, Function.update_self] at ht'
      cases ht'
    · rw [Function.update_of_ne hv] at ht'
      exact h.registered v t ht'
  connected_iff v := by
    show v ∈ p.connected ↔ Function.update p.active u none v ≠ none ∨ v ∈ insert u p.offline
    by_cases hv : v = u
    · rw [hv]
      exact iff_of_true hu (.inr (Set.mem_insert u _))
    · rw [Function.update_of_ne hv, Set.mem_insert_iff, h.connected_iff v]
      simp only [hv, false_or]
  apart v hv := by
    show Function.update p.active u none v = none
    by_cases hvu : v = u
    · rw [hvu, Function.update_self]
    · rw [Function.update_of_ne hvu]
      exact h.apart v (hv.resolve_left hvu)
  seen := h.seen

theorem Sound.leave (h : p.Sound) (s : S) : (p.leave s).Sound := by
  unfold Presence.leave
  cases hu : p.user s with
  | none => exact h.drop s
  | some u => exact (h.unregister (h.seen s u hu)).drop s

/-- a session that left is the session of no one, and its user is away -/
theorem Sound.gone (h : p.Sound) {s : S} {u : U} (hu : p.user s = some u) :
    (p.leave s).active u = none ∧ u ∈ (p.leave s).offline ∧ ∀ v, (p.leave s).active v ≠ some s := by
  unfold Presence.leave
  rw [hu]
  refine ⟨Function.update_self .., Set.mem_insert u _, ?_⟩
  intro v hv
  have hv' : Function.update p.active u none v = some s := hv
  by_cases hvu : v = u
  · rw [hvu, Function.update_self] at hv'
    cases hv'
  · rw [Function.update_of_ne hvu] at hv'
    have huser := h.registered v s hv'
    rw [hu] at huser
    cases huser
    exact hvu rfl

/-- a user that was seen stays seen -/
theorem connected_subset_leave (s : S) : p.connected ⊆ (p.leave s).connected := by
  unfold Presence.leave
  cases p.user s with
  | none => exact subset_rfl
  | some u => exact subset_rfl

theorem connected_subset_login (s : S) (u : U) : p.connected ⊆ (p.login s u).connected :=
  Set.subset_insert u p.connected

/-! ## sessions that were never used -/

variable (p) in
/-- the sessions that have a user or have ended -/
def touched : Set S := {s | p.user s ≠ none ∨ s ∈ p.ended}

theorem touched_drop (s : S) : (p.drop s).touched ⊆ insert s p.touched := by
  rintro t (hu | ht | ht)
  · exact .inr (.inl hu)
  · exact .inl ht
  · exact .inr (.inr ht)

theorem touched_leave (s : S) : (p.leave s).touched ⊆ insert s p.touched := by
  unfold leave
  cases p.user s with
  | none => exact touched_drop s
  | some u => exact touched_drop (p := p.unregister u) s

theorem touched_login (s : S) (u : U) : (p.login s u).touched ⊆ insert s p.touched := by
  rintro t (hu | ht)
  · by_cases hts : t = s
    · exact .inl hts
    · have hold : p.user t ≠ none := by
        intro hnone
        refine hu ?_
        show Function.update p.user s (some u) t = none
        rw [Function.update_of_ne hts, hnone]
      exact .inr (.inl hold)
  · exact .inr (.inr ht)

/-! ## the registry and the open sessions -/

variable (p) in
structure Faithful : Prop where
  live : ∀ u s, p.active u = some s → s ∉ p.ended
  present : ∀ u s, s ∉ p.ended → p.user s = some u → p.active u ≠ none
  away : ∀ u s, u ∈ p.offline → s ∉ p.ended → p.user s ≠ some u

theorem Faithful.login (h : p.Faithful) {s : S} (hs : s ∉ p.ended) (u : U) :
    (p.login s u).Faithful where
  live v t ht := by
    have ht' : Function.update p.active u (some s) v = some t := ht
    by_cases hv : v = u
    · rw [hv, Function.update_self] at ht'
      cases ht'
      exact hs
    · rw [Function.update_of_ne hv] at ht'
      exact h.live v t ht'
  present v t ht hv := by
    show Function.update p.active u (some s) v ≠ none
    by_cases hvu : v = u
    · rw [hvu, Function.update_self]
      exact Option.some_ne_none s
    · rw [Function.update_of_ne hvu]
      refine h.present v t ht ?_
      have hv' : Function.update p.user s (some u) t = some v := hv
      by_cases hts : t = s
      · rw [hts, Function.update_self] at hv'
        cases hv'
        exact absurd rfl hvu
      · rwa [Function.update_of_ne hts] at hv'
  away v t hv ht := by
    obtain ⟨hoff, hne⟩ := hv
    show Function.update p.user s (some u) t ≠ some v
    by_cases hts : t = s
    · rw [hts, Function.update_self]
      intro hvu
      cases hvu
      exact hne rfl
    · rw [Function.update_of_ne hts]
      exact h.away v t hoff ht

/-- `s` is the only open session of its user -/
def Alone (p : Presence U S) (s : S) : Prop :=
  ∀ t u, t ∉ p.ended → t ≠ s → p.user s = some u → p.user t ≠ some u

theorem Faithful.leave (h : p.Faithful) (hp : p.Sound) {s : S} (halone : p.Alone s) :
    (p.leave s).Faithful := by
  unfold Presence.leave
  cases hu : p.user s with
  | none =>
    -- no user is registered for a session without a login
    refine ⟨?_, ?_, ?_⟩
    · rintro v t hv (rfl | ht)
      · have huser := hp.registered v t hv
        rw [hu] at huser
        cases huser
      · exact h.live v t hv ht
    · intro v t ht hv
      exact h.present v t (fun hended => ht (.inr hended)) hv
    · intro v t hv ht
      exact h.away v t hv fun hended => ht (.inr hended)
  | some u =>
    refine ⟨?_, ?_, ?_⟩
    · intro v t hv ht
      have hv' : Function.update p.active u none v = some t := hv
      by_cases hvu : v = u
      · rw [hvu, Function.update_self] at hv'
        cases hv'
      · rw [Function.update_of_ne hvu] at hv'
        rcases ht with rfl | ht
        · have huser := hp.registered v t hv'
          rw [hu] at huser
          cases huser
          exact hvu rfl
        · exact h.live v t hv' ht
    · intro v t ht hv
      show Function.update p.active u none v ≠ none
      have hts : t ≠ s := fun hts => ht (.inl hts)
      have hvu : v ≠ u := by
        intro hvu
        exact halone t u (fun hended => ht (.inr hended)) hts hu (hvu ▸ hv)
      rw [Function.update_of_ne hvu]
      exact h.present v t (fun hended => ht (.inr hended)) hv
    · intro v t hv ht
      have hts : t ≠ s := fun hts => ht (.inl hts)
      have hopen : t ∉ p.ended := fun hended => ht (.inr hended)
      rcases hv with rfl | hv
      · exact halone t v hopen hts hu
      · exact h.away v t hv hopen

/-- **An end keeps the registry faithful exactly if its user has no other open session.** -/
theorem faithful_leave_iff (h : p.Faithful) (hp : p.Sound) {s : S} :
    (p.leave s).Faithful ↔ p.Alone s := by
  refine ⟨?_, h.leave hp⟩
  intro hleave t u hopen hts hu ht
  have hopen' : t ∉ (p.leave s).ended := by
    unfold Presence.leave
    rw [hu]
    rintro (h | h)
    · exact hts h
    · exact hopen h
  have huser : (p.leave s).user t = some u := by
    unfold Presence.leave
    rw [hu]
    exact ht
  exact hleave.present u t hopen' huser (hp.gone hu).1

end Presence
