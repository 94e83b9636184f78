import Logistics.Session.Alert

/-!
# The event queues, user by user

`m_eventQueueMap` has no entry for a user without events: `Core.queue` reads it as one queue for
every user.  Over it each member function is one line:

* `pushEvent_queue`, `popEvent_spec`   one user's queue grows at its end or loses its head;
* `broadcastMessage_queue`             **the alert is pushed once for every user that is offline**.
-/

namespace Logistics
open Std

def Core.queue (c : Core) (user : String) : List Event := c.eventQueueMap.getD user []

theorem Core.queue_congr {c c' : Core} (h : c'.eventQueueMap = c.eventQueueMap) :
    c'.queue = c.queue := by
  funext user
  unfold Core.queue
  rw [h]

/-- the queue of the user after a push: a full one loses its oldest event -/
def pushed (cfg : Config) (event : Event) (queue : List Event) : List Event :=
  (if cfg.queueSize ≤ queue.length then queue.tail else queue) ++ [event]

theorem queue_insert (c : Core) (user : String) (queue : List Event) :
    Core.queue { c with eventQueueMap := c.eventQueueMap.insert user queue } =
      Function.update c.queue user queue := by
  funext user'
  show (c.eventQueueMap.insert user queue).getD user' [] = _
  rw [ExtTreeMap.getD_insert]
  by_cases h : user' = user
  · rw [h, Function.update_self, if_pos (Std.compare_eq_iff_eq.mpr rfl)]
  · rw [Function.update_of_ne h, if_neg fun heq => h (Std.compare_eq_iff_eq.mp heq).symm]
    rfl

theorem queue_erase (c : Core) (user : String) :
    Core.queue { c with eventQueueMap := c.eventQueueMap.erase user } =
      Function.update c.queue user [] := by
  funext user'
  show (c.eventQueueMap.erase user).getD user' [] = _
  rw [ExtTreeMap.getD_erase]
  by_cases h : user' = user
  · rw [h, Function.update_self, if_pos (Std.compare_eq_iff_eq.mpr rfl)]
  · rw [Function.update_of_ne h, if_neg fun heq => h (Std.compare_eq_iff_eq.mp heq).symm]
    rfl

/-! ## push and pop -/

theorem run_dropOldest (cfg : Config) (user : String) (s : St) :
    ∃ s', (dropOldest cfg user).run s = (.ok (), s') ∧
      s'.core.queue = Function.update s.core.queue user
        (if cfg.queueSize ≤ (s.core.queue user).length then (s.core.queue user).tail
          else s.core.queue user) := by
  have hqueue : s.core.eventQueueMap.getD user [] = s.core.queue user := rfl
  unfold dropOldest
  simp only [setQueue, Prog.run_bind, Prog.run_get, Prog.run_ite, run_setCore, run_log, hqueue]
  by_cases hfull : cfg.queueSize ≤ (s.core.queue user).length
  · rw [if_pos hfull, if_pos hfull]
    refine ⟨_, rfl, ?_⟩
    rw [St.logged_core]
    exact queue_insert s.core user (s.core.queue user).tail
  · rw [if_neg hfull, if_neg hfull, Function.update_eq_self]
    exact ⟨s, rfl, rfl⟩

/-- **A push returns, and touches the queue of its user only.** -/
theorem pushEvent_queue (cfg : Config) (user : String) (event : Event) (s : St) :
    ∃ s', (pushEvent cfg user event).run s = (.ok (), s') ∧
      s'.core.queue =
        Function.update s.core.queue user (pushed cfg event (s.core.queue user)) := by
  obtain ⟨s₁, hdrop, hqueue⟩ := run_dropOldest cfg user s
  have hpush := queue_insert s₁.core user (s₁.core.queue user ++ [event])
  rw [hqueue, Function.update_idem, Function.update_self] at hpush
  unfold pushEvent
  simp only [setQueue, Prog.run_bind, hdrop, Prog.run_get, run_setCore, run_log]
  refine ⟨_, rfl, ?_⟩
  rw [St.logged_core]
  have hself := congrFun hqueue user
  rw [Function.update_self] at hself
  have hget : s₁.core.eventQueueMap.getD user [] = s₁.core.queue user := rfl
  rw [hget, hself]
  exact hpush

/-- `popEvent` returns the head of the queue, if there is one -/
theorem popEvent_spec (user : String) (s : St) :
    ∃ s', (popEvent user).run s = (.ok (s.core.queue user).head?, s') ∧
      s'.core.queue = Function.update s.core.queue user (s.core.queue user).tail := by
  have hget : s.core.queue user = s.core.eventQueueMap[user]?.getD [] :=
    ExtTreeMap.getD_eq_getD_getElem?
  unfold popEvent
  rw [Prog.run_bind, Prog.run_get]
  dsimp only
  cases hentry : s.core.eventQueueMap[user]? with
  | none =>
    rw [hentry] at hget
    have hempty : s.core.queue user = [] := hget
    simp only [Prog.run_bind, run_log]
    refine ⟨_, by rw [hempty]; rfl, ?_⟩
    rw [St.logged_core, hempty, List.tail_nil, ← hempty, Function.update_eq_self]
  | some queue =>
    rw [hentry] at hget
    have hqueue : s.core.queue user = queue := hget
    cases queue with
    | nil =>
      simp only [Prog.run_bind, run_log]
      refine ⟨_, by rw [hqueue]; rfl, ?_⟩
      rw [St.logged_core, hqueue, List.tail_nil, ← hqueue, Function.update_eq_self]
    | cons event rest =>
      rw [hqueue, List.head?_cons, List.tail_cons]
      cases rest with
      | nil =>
        simp only [Prog.run_bind, run_setCore, run_log]
        refine ⟨_, rfl, ?_⟩
        rw [St.logged_core]
        exact queue_erase s.core user
      | cons next rest =>
        simp only [setQueue, Prog.run_bind, run_setCore, run_log]
        refine ⟨_, rfl, ?_⟩
        rw [St.logged_core]
        exact queue_insert s.core user (next :: rest)

/-! ## the broadcast -/

theorem queueFor_queue (cfg : Config) (event : Event) (users : List String) (hnodup : users.Nodup)
    (s : St) (user : String) : ((queueFor cfg event users).run s).2.core.queue user =
      if user ∈ users then pushed cfg event (s.core.queue user) else s.core.queue user := by
  induction users generalizing s with
  | nil => rfl
  | cons first users ih =>
    obtain ⟨hfirst, hrest⟩ := List.nodup_cons.mp hnodup
    obtain ⟨s₁, hpush, hqueue⟩ := pushEvent_queue cfg first event s
    unfold queueFor
    rw [Prog.run_bind, hpush]
    dsimp only
    rw [Prog.run_bind, run_log]
    dsimp only
    rw [ih hrest, St.logged_core, hqueue]
    by_cases h : user = first
    · rw [h, Function.update_self, if_neg hfirst, if_pos List.mem_cons_self]
    · rw [Function.update_of_ne h]
      simp only [List.mem_cons, h, false_or]

theorem nodup_toList (users : ExtTreeSet String) : users.toList.Nodup := by
  refine users.distinct_toList.imp ?_
  intro user user' hne heq
  exact hne (Std.compare_eq_iff_eq.mpr heq)

/-- the sends of a broadcast leave the core alone -/
theorem broadcastTo_core (message : String) (addresses : List String) (s : St) :
    ((broadcastTo message addresses).run s).2.core = s.core :=
  (broadcastTo_keeps (R := Eq) message addresses s).symm

theorem broadcastTo_returns (message : String) (addresses : List String) (s : St) :
    ∃ s', (broadcastTo message addresses).run s = (.ok (), s') := by
  induction addresses generalizing s with
  | nil => exact ⟨s, rfl⟩
  | cons address addresses ih =>
    unfold broadcastTo sendto
    simp only [Prog.run_bind, run_ask, Prog.run_ite]
    cases (s.env 0).fails with
    | true =>
      simp only [if_true, Prog.run_pure, Bool.false_eq_true, if_false, run_log]
      exact ih _
    | false => exact ih _

theorem broadcastMessage_queue (L : Libs) (cfg : Config) (alertMessage : Json) (s : St)
    (user : String) : ((broadcastMessage L cfg alertMessage).run s).2.core.queue user =
      if user ∈ s.core.manager.offlineUsers then
        pushed cfg ⟨L.dump alertMessage⟩ (s.core.queue user)
      else s.core.queue user := by
  have hcore := broadcastTo_core (L.dump alertMessage)
    (s.core.manager.activeSessions.toList.filterMap fun e => (s.core.sessions e.2).udpAddress) s
  obtain ⟨s₁, hsent⟩ := broadcastTo_returns (L.dump alertMessage)
    (s.core.manager.activeSessions.toList.filterMap fun e => (s.core.sessions e.2).udpAddress) s
  rw [hsent] at hcore
  unfold broadcastMessage
  rw [Prog.run_bind]
  show (Prog.run (broadcastTo _ _ >>= fun _ => _) s).2.core.queue user = _
  rw [Prog.run_bind, hsent]
  dsimp only
  rw [Prog.run_bind, run_log]
  show ((queueFor cfg ⟨L.dump alertMessage⟩ (s₁.logged _ _ _ _).core.manager.offlineUsers.toList).run
    _).2.core.queue user = _
  rw [queueFor_queue cfg _ _ (nodup_toList _), St.logged_core, hcore]
  simp only [ExtTreeSet.mem_toList]

end Logistics
