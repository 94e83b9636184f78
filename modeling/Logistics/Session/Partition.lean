import Logistics.Session.Registry

/-!
# The registry as a partition of the users seen

Sequences of `registerSession` and `unregisterSession` calls in any order, where a user is
unregistered only after having been registered once.  The database may fail at any point: the
calls use it for a log entry only.

* `Enrolment`, `enrolStep`   the server and the registrations so far;
* `Partitioned`              the registry agrees with the registrations so far;
* `registry_partition`       **it holds after every sequence of calls**.
-/

namespace Logistics
open Std Runs

inductive RegistryCall where
  | registerSession (clientId : String) (session : Nat)
  | unregisterSession (clientId : String)

structure RegistryInput where
  call : RegistryCall
  env : Nat → Answer

/-- the server, and which sessions were registered for whom so far -/
structure Enrolment where
  world : World
  registrations : List (String × Nat)

def Enrolment.ids (e : Enrolment) : Finset String := (e.registrations.map Prod.fst).toFinset

/-- the session registered last for a user -/
def Enrolment.last (e : Enrolment) (clientId : String) : Option Nat :=
  (e.registrations.reverse.find? fun r => r.1 = clientId).map Prod.snd

def Enrolment.start (users : Users) (stock : Stock) (ips : Nat → String) : Enrolment :=
  ⟨⟨.boot users stock ips, .empty⟩, []⟩

def enrolStep (e : Enrolment) (i : RegistryInput) : Option Enrolment :=
  match i.call with
  | .registerSession clientId session =>
    some ⟨((registerSession clientId session).run (e.world.facing i.env)).2.world,
      e.registrations ++ [(clientId, session)]⟩
  | .unregisterSession clientId =>
    if clientId ∈ e.ids then
      some { e with world := ((unregisterSession clientId).run (e.world.facing i.env)).2.world }
    else none

/-! ## one call -/

/-- `registerSession` counts a reconnection where the user was seen before -/
theorem registerSession_reconnections (clientId : String) (session : Nat) (s : St) :
    ((registerSession clientId session).run s).2.journal.reconnections (.tcp, .rx) =
      s.journal.reconnections (.tcp, .rx) +
        if clientId ∈ s.core.manager.connectedUsers then 1 else 0 := by
  unfold registerSession
  simp only [Prog.run_bind, run_setManager, Prog.run_get, Prog.run_ite]
  by_cases hseen : clientId ∈ s.core.manager.connectedUsers
  · rw [if_neg (not_not.mpr hseen), if_pos hseen]
    simp only [incrementReconnection, Prog.run_modify, run_log, St.logged_eq]
    exact Function.update_self ..
  · rw [if_pos hseen, if_neg hseen]
    rfl

theorem registerSession_manager (clientId : String) (session : Nat) (s : St) :
    ((registerSession clientId session).run s).2.core.manager =
      s.core.manager.registered clientId session := by
  obtain ⟨s', hrun, hcore⟩ := run_registerSession clientId session s
  rw [hrun]
  show s'.core.manager = _
  rw [hcore]

/-! ## the invariant -/

structure Partitioned (e : Enrolment) : Prop where
  apart : ∀ clientId, clientId ∈ e.world.core.manager.offlineUsers →
    e.world.core.manager.activeSessions[clientId]? = none
  seen : ∀ clientId, clientId ∈ e.world.core.manager.connectedUsers ↔
    e.world.core.manager.activeSessions[clientId]? ≠ none ∨
      clientId ∈ e.world.core.manager.offlineUsers
  connected : e.world.core.manager.connectedUsers = e.ids
  latest : ∀ clientId session, e.world.core.manager.activeSessions[clientId]? = some session →
    e.last clientId = some session
  counted : e.world.journal.reconnections (.tcp, .rx) + e.ids.card = e.registrations.length

theorem partitioned_start (users : Users) (stock : Stock) (ips : Nat → String) :
    Partitioned (.start users stock ips) where
  apart clientId h := by
    have hempty : clientId ∈ (∅ : ExtTreeSet String) := h
    simp at hempty
  seen clientId := by
    show clientId ∈ (∅ : Finset String) ↔
      (∅ : ExtTreeMap String Nat)[clientId]? ≠ none ∨ clientId ∈ (∅ : ExtTreeSet String)
    simp
  connected := rfl
  latest clientId session h := by
    have hempty : (∅ : ExtTreeMap String Nat)[clientId]? = some session := h
    simp at hempty
  counted := rfl

theorem ids_register (e : Enrolment) (w : World) (clientId : String) (session : Nat) :
    (⟨w, e.registrations ++ [(clientId, session)]⟩ : Enrolment).ids = insert clientId e.ids := by
  unfold Enrolment.ids
  rw [List.map_append, List.toFinset_append, Finset.union_comm]
  rfl

theorem last_register (e : Enrolment) (w : World) (clientId : String) (session : Nat)
    (other : String) :
    (⟨w, e.registrations ++ [(clientId, session)]⟩ : Enrolment).last other =
      if other = clientId then some session else e.last other := by
  unfold Enrolment.last
  rw [List.reverse_append, List.reverse_singleton, List.singleton_append, List.find?_cons]
  by_cases h : other = clientId
  · rw [if_pos h, h, decide_eq_true rfl]
    rfl
  · rw [if_neg h, decide_eq_false (Ne.symm h)]

theorem Partitioned.register {e : Enrolment} (h : Partitioned e) (clientId : String)
    (session : Nat) (env : Nat → Answer) :
    Partitioned ⟨((registerSession clientId session).run (e.world.facing env)).2.world,
      e.registrations ++ [(clientId, session)]⟩ := by
  have hmanager := registerSession_manager clientId session (e.world.facing env)
  have hcount := registerSession_reconnections clientId session (e.world.facing env)
  generalize (registerSession clientId session).run (e.world.facing env) = r at hmanager hcount ⊢
  have hactive : ∀ other, r.2.core.manager.activeSessions[other]? =
      if other = clientId then some session
      else e.world.core.manager.activeSessions[other]? := by
    intro other
    rw [hmanager]
    have hupdate := congrFun (getElem?_insert_eq_update e.world.core.manager.activeSessions clientId
      session) other
    rw [Function.update_apply] at hupdate
    exact hupdate
  have hoffline : ∀ other, other ∈ r.2.core.manager.offlineUsers ↔
      other ≠ clientId ∧ other ∈ e.world.core.manager.offlineUsers := by
    intro other
    rw [hmanager]
    show other ∈ e.world.core.manager.offlineUsers.erase clientId ↔ _
    rw [ExtTreeSet.mem_erase, Ne, Std.compare_eq_iff_eq, eq_comm]
  have hconnected : r.2.core.manager.connectedUsers =
      insert clientId e.world.core.manager.connectedUsers := by
    rw [hmanager]
    rfl
  refine ⟨?_, ?_, ?_, ?_, ?_⟩
  · intro other hoff
    obtain ⟨hne, hoff⟩ := (hoffline other).mp hoff
    show r.2.core.manager.activeSessions[other]? = none
    rw [hactive, if_neg hne]
    exact h.apart other hoff
  · intro other
    show other ∈ r.2.core.manager.connectedUsers ↔
      r.2.core.manager.activeSessions[other]? ≠ none ∨ other ∈ r.2.core.manager.offlineUsers
    rw [hconnected, Finset.mem_insert, hactive, hoffline, h.seen]
    by_cases ho : other = clientId
    · simp [ho]
    · simp [ho]
  · show r.2.core.manager.connectedUsers = _
    rw [hconnected, ids_register, h.connected]
  · intro other session' hs
    have hs' : r.2.core.manager.activeSessions[other]? = some session' := hs
    rw [hactive] at hs'
    rw [last_register]
    by_cases ho : other = clientId
    · rw [if_pos ho] at hs' ⊢
      exact hs'
    · rw [if_neg ho] at hs' ⊢
      exact h.latest other session' hs'
  · show r.2.journal.reconnections (.tcp, .rx) + _ = (e.registrations ++ [(clientId, session)]).length
    have hcounted := h.counted
    rw [ids_register, hcount, List.length_append, List.length_singleton]
    change e.world.journal.reconnections (.tcp, .rx) +
      (if clientId ∈ e.world.core.manager.connectedUsers then 1 else 0) + _ = _
    rw [h.connected]
    by_cases hseen : clientId ∈ e.ids
    · rw [if_pos hseen, Finset.insert_eq_of_mem hseen]
      omega
    · rw [if_neg hseen, Finset.card_insert_of_notMem hseen]
      omega

theorem Partitioned.unregister {e : Enrolment} (h : Partitioned e) {clientId : String}
    (hid : clientId ∈ e.ids) (env : Nat → Answer) :
    Partitioned
      { e with world := ((unregisterSession clientId).run (e.world.facing env)).2.world } := by
  have hactive : ∀ other, (e.world.core.manager.activeSessions.erase clientId)[other]? =
      if other = clientId then none else e.world.core.manager.activeSessions[other]? := by
    intro other
    have hupdate := congrFun (getElem?_erase_eq_update e.world.core.manager.activeSessions clientId)
      other
    rw [Function.update_apply] at hupdate
    exact hupdate
  have hoffline : ∀ other, other ∈ e.world.core.manager.offlineUsers.insert clientId ↔
      other = clientId ∨ other ∈ e.world.core.manager.offlineUsers := by
    intro other
    rw [ExtTreeSet.mem_insert, Std.compare_eq_iff_eq, eq_comm]
  refine ⟨?_, ?_, h.connected, ?_, h.counted⟩
  · intro other hoff
    show (e.world.core.manager.activeSessions.erase clientId)[other]? = none
    rw [hactive]
    by_cases ho : other = clientId
    · rw [if_pos ho]
    · rw [if_neg ho]
      exact h.apart other (((hoffline other).mp hoff).resolve_left ho)
  · intro other
    show other ∈ e.world.core.manager.connectedUsers ↔
      (e.world.core.manager.activeSessions.erase clientId)[other]? ≠ none ∨
        other ∈ e.world.core.manager.offlineUsers.insert clientId
    rw [hactive, hoffline]
    by_cases ho : other = clientId
    · rw [ho, h.connected]
      exact iff_of_true hid (.inr (.inl rfl))
    · rw [if_neg ho, h.seen]
      simp [ho]
  · intro other session hs
    have hs' : (e.world.core.manager.activeSessions.erase clientId)[other]? = some session := hs
    rw [hactive] at hs'
    by_cases ho : other = clientId
    · rw [if_pos ho] at hs'
      cases hs'
    · rw [if_neg ho] at hs'
      exact h.latest other session hs'

theorem partitioned_step {e e' : Enrolment} {i : RegistryInput} (h : Partitioned e)
    (hstep : enrolStep e i = some e') : Partitioned e' := by
  unfold enrolStep at hstep
  cases hcall : i.call with
  | registerSession clientId session =>
    simp only [hcall, Option.some.injEq] at hstep
    subst hstep
    exact h.register clientId session i.env
  | unregisterSession clientId =>
    simp only [hcall] at hstep
    obtain ⟨hid, hstep⟩ := Option.ite_none_right_eq_some.mp hstep
    cases hstep
    exact h.unregister hid i.env

/-- **After any calls the active and the offline users are disjoint and together the users seen,
an active user is on the session registered last, and the reconnections are the registrations less
the users registered.** -/
theorem registry_partition (users : Users) (stock : Stock) (ips : Nat → String)
    (inputs : List RegistryInput) (e : Enrolment)
    (hrun : runFrom enrolStep (.start users stock ips) inputs = some e) :
    (∀ clientId, ¬ (clientId ∈ e.world.core.manager.activeSessions ∧
      clientId ∈ e.world.core.manager.offlineUsers)) ∧
    (∀ clientId, clientId ∈ e.world.core.manager.connectedUsers ↔
      clientId ∈ e.world.core.manager.activeSessions ∨
        clientId ∈ e.world.core.manager.offlineUsers) ∧
    (∀ clientId session, e.world.core.manager.activeSessions[clientId]? = some session →
      e.last clientId = some session) ∧
    (e.world.journal.reconnections (.tcp, .rx) : Int) =
      e.registrations.length - (e.registrations.map Prod.fst).toFinset.card := by
  have h : Partitioned e := runFrom_invariant (partitioned_start users stock ips)
    (fun _ _ _ h hstep => partitioned_step h hstep) inputs e hrun
  have hactive : ∀ clientId, clientId ∈ e.world.core.manager.activeSessions ↔
      e.world.core.manager.activeSessions[clientId]? ≠ none := by
    intro clientId
    rw [ExtTreeMap.mem_iff_isSome_getElem?, Option.isSome_iff_ne_none]
  refine ⟨?_, ?_, h.latest, ?_⟩
  · intro clientId hboth
    exact (hactive clientId).mp hboth.1 (h.apart clientId hboth.2)
  · intro clientId
    rw [hactive]
    exact h.seen clientId
  · have hcounted := h.counted
    unfold Enrolment.ids at hcounted
    omega

/-! Two sessions of one user, and the end of the first. -/

def twoSessions : List RegistryInput :=
  [⟨.registerSession "alice" 1, healthy⟩, ⟨.registerSession "alice" 2, healthy⟩,
    ⟨.unregisterSession "alice", healthy⟩]

theorem twoSessions_isSome :
    (runFrom enrolStep (.start .empty .empty fun _ => "") twoSessions).isSome := by
  decide

theorem registry_partition_alice :
    ∃ e, runFrom enrolStep (.start .empty .empty fun _ => "") twoSessions = some e ∧
      (e.world.journal.reconnections (.tcp, .rx) : Int) =
        e.registrations.length - (e.registrations.map Prod.fst).toFinset.card :=
  ⟨_, (Option.some_get twoSessions_isSome).symm,
    (registry_partition .empty .empty (fun _ => "") twoSessions _
      (Option.some_get twoSessions_isSome).symm).2.2.2⟩

end Logistics
