import Logistics.Lib.Backlog
import Logistics.Lib.Runs
import Logistics.Session.Queues

/-!
# The event queue is a bounded FIFO for each client

`EventQueue` is a map from clients to deques.  A run is any list of `pushEvent` and `popEvent`
calls for any clients, from the empty map; `Desk` keeps what the pops have returned.

* `backlog`               the reference: a list with drop-oldest for each client;
* `Core.Tidy`             no empty deque is kept;
* `Tracks`, `tracks_step` the map holds the lists of the reference, and is tidy;
* `event_queue_fifo`      **every run succeeds and agrees with the reference**.
-/

namespace Logistics
open Std Runs

inductive EventCall where
  | push (client : String) (event : Event)
  | pop (client : String)

def EventCall.client : EventCall → String
  | .push client _ => client
  | .pop client => client

structure EventInput where
  call : EventCall
  env : Nat → Answer

/-- the server and what the pops have returned so far, with the client of each -/
structure Desk where
  world : World
  results : List (String × Option Event)

def Desk.start (core : Core) (journal : Journal) : Desk :=
  ⟨⟨{ core with eventQueueMap := ∅ }, journal⟩, []⟩

def Desk.queue (d : Desk) (client : String) : List Event := d.world.core.queue client

def eventStep (cfg : Config) (d : Desk) (i : EventInput) : Option Desk :=
  match i.call with
  | .push client event =>
    match (pushEvent cfg client event).run (d.world.facing i.env) with
    | (.ok _, s) => some ⟨s.world, d.results⟩
    | (.error _, _) => none
  | .pop client =>
    match (popEvent client).run (d.world.facing i.env) with
    | (.ok event, s) => some ⟨s.world, d.results ++ [(client, event)]⟩
    | (.error _, _) => none

/-! ## the reference -/

/-- one call, for the backlog of `client` -/
def EventCall.apply (n : Nat) (client : String) (b : Backlog Event) (call : EventCall) :
    Backlog Event :=
  if call.client = client then
    match call with
    | .push _ event => b.push n event
    | .pop _ => b.pop
  else b

def backlog (n : Nat) (calls : List EventCall) (client : String) : Backlog Event :=
  calls.foldl (EventCall.apply n client) .empty

/-- the event that the call pushes for the client -/
def EventCall.pushed? (client : String) : EventCall → Option Event
  | .push client' event => if client' = client then some event else none
  | .pop _ => none

/-- the events pushed for the client, in order -/
def pushesFor (client : String) (calls : List EventCall) : List Event :=
  calls.filterMap (EventCall.pushed? client)

/-- the results of the pops for the client that returned an event, in order -/
def popsFor (client : String) (results : List (String × Option Event)) : List Event :=
  results.filterMap fun r => if r.1 = client then r.2 else none

section Reference
variable {n : Nat}

theorem backlog_concat (calls : List EventCall) (call : EventCall) (client : String) :
    backlog n (calls ++ [call]) client = call.apply n client (backlog n calls client) := by
  unfold backlog
  rw [List.foldl_append]
  rfl

theorem pushesFor_concat (client : String) (calls : List EventCall) (call : EventCall) :
    pushesFor client (calls ++ [call]) = pushesFor client calls ++ pushesFor client [call] :=
  List.filterMap_append

theorem popsFor_concat (client : String) (results : List (String × Option Event))
    (r : String × Option Event) :
    popsFor client (results ++ [r]) = popsFor client results ++ popsFor client [r] :=
  List.filterMap_append

theorem apply_of_ne {b : Backlog Event} {call : EventCall} {client : String}
    (h : call.client ≠ client) : call.apply n client b = b := if_neg h

theorem apply_pop_self (b : Backlog Event) (client : String) :
    (EventCall.pop client).apply n client b = b.pop := if_pos rfl

theorem queue_apply_push (b : Backlog Event) (client : String) (event : Event) :
    ((EventCall.push client event).apply n client b).queue =
      (if b.queue.length = n then b.queue.tail else b.queue) ++ [event] := by
  have hself : (EventCall.push client event).apply n client b = b.push n event := if_pos rfl
  rw [hself, Backlog.queue_push]

theorem sound_apply (hn : 0 < n) {b : Backlog Event} (h : b.Sound n) (call : EventCall)
    (client : String) : (call.apply n client b).Sound n := by
  unfold EventCall.apply
  by_cases hc : call.client = client
  · rw [if_pos hc]
    cases call with
    | push client' event => exact h.push hn event
    | pop client' => exact h.pop
  · rw [if_neg hc]
    exact h

theorem sent_apply (b : Backlog Event) (call : EventCall) (client : String) :
    (call.apply n client b).sent = b.sent ++ pushesFor client [call] := by
  by_cases hc : call.client = client
  · have hself : call.apply n client b = _ := if_pos hc
    rw [hself]
    cases call with
    | push client' event =>
      have hpushed : (EventCall.push client' event).pushed? client = some event := if_pos hc
      unfold pushesFor
      rw [List.filterMap_cons_some hpushed]
      exact Backlog.sent_push event b
    | pop client' =>
      show b.pop.sent = b.sent ++ []
      rw [List.append_nil, Backlog.sent_pop]
  · have hnone : call.pushed? client = none := by
      cases call with
      | push client' event => exact if_neg hc
      | pop client' => rfl
    unfold pushesFor
    rw [apply_of_ne hc, List.filterMap_cons_none hnone, List.filterMap_nil, List.append_nil]

/-- **The reference: the backlog of every client is sound, and records the pushes for it.** -/
theorem backlog_sound (hn : 0 < n) (calls : List EventCall) (client : String) :
    (backlog n calls client).Sound n ∧ (backlog n calls client).sent = pushesFor client calls := by
  induction calls using List.reverseRecOn with
  | nil => exact ⟨Backlog.sound_empty, rfl⟩
  | append_singleton calls call ih =>
    rw [backlog_concat, pushesFor_concat, sent_apply, ih.2]
    exact ⟨sound_apply hn ih.1 call client, rfl⟩

end Reference

/-! ## the entries of the map -/

/-- no deque in the map is empty -/
def Core.Tidy (c : Core) : Prop := ∀ client : String, c.eventQueueMap[client]? ≠ some []

theorem tidy_insert {c : Core} (h : c.Tidy) (client : String) {queue : List Event}
    (hne : queue ≠ []) :
    Core.Tidy { c with eventQueueMap := c.eventQueueMap.insert client queue } := by
  intro client' hentry
  have hentry' : (c.eventQueueMap.insert client queue)[client']? = some [] := hentry
  rw [ExtTreeMap.getElem?_insert] at hentry'
  split at hentry'
  · exact hne (Option.some.inj hentry')
  · exact h client' hentry'

theorem tidy_erase {c : Core} (h : c.Tidy) (client : String) :
    Core.Tidy { c with eventQueueMap := c.eventQueueMap.erase client } := by
  intro client' hentry
  have hentry' : (c.eventQueueMap.erase client)[client']? = some [] := hentry
  rw [ExtTreeMap.getElem?_erase] at hentry'
  split at hentry'
  · cases hentry'
  · exact h client' hentry'

/-- a push may empty the deque of its client, and fills it again -/
theorem pushEvent_tidy (cfg : Config) (client : String) (event : Event) {s : St}
    (h : s.core.Tidy) : ((pushEvent cfg client event).run s).2.core.Tidy := by
  have hdrop : ∃ s₁, (dropOldest cfg client).run s = (.ok (), s₁) ∧
      ∀ client', client' ≠ client → s₁.core.eventQueueMap[client']? ≠ some [] := by
    unfold dropOldest
    simp only [setQueue, Prog.run_bind, Prog.run_get, Prog.run_ite, run_setCore, run_log]
    split
    · refine ⟨_, rfl, fun client' hne => ?_⟩
      rw [St.logged_core]
      show (s.core.eventQueueMap.insert client _)[client']? ≠ some []
      rw [ExtTreeMap.getElem?_insert, if_neg fun heq => hne (Std.compare_eq_iff_eq.mp heq).symm]
      exact h client'
    · exact ⟨s, rfl, fun client' _ => h client'⟩
  obtain ⟨s₁, hrun, hothers⟩ := hdrop
  unfold pushEvent
  simp only [setQueue, Prog.run_bind, hrun, Prog.run_get, run_setCore, run_log]
  rw [St.logged_core]
  intro client'
  show (s₁.core.eventQueueMap.insert client _)[client']? ≠ some []
  rw [ExtTreeMap.getElem?_insert]
  split
  · simp
  · rename_i hne
    exact hothers client' fun heq => hne (Std.compare_eq_iff_eq.mpr heq.symm)

theorem popEvent_tidy (client : String) {s : St} (h : s.core.Tidy) :
    ((popEvent client).run s).2.core.Tidy := by
  unfold popEvent
  rw [Prog.run_bind, Prog.run_get]
  dsimp only
  cases s.core.eventQueueMap[client]? with
  | none =>
    simp only [Prog.run_bind, run_log, Prog.run_pure]
    rw [St.logged_core]
    exact h
  | some queue =>
    match queue with
    | [] =>
      simp only [Prog.run_bind, run_log, Prog.run_pure]
      rw [St.logged_core]
      exact h
    | [event] =>
      simp only [Prog.run_bind, run_setCore, run_log, Prog.run_pure]
      rw [St.logged_core]
      exact tidy_erase h client
    | event :: next :: rest =>
      simp only [setQueue, Prog.run_bind, run_setCore, run_log, Prog.run_pure]
      rw [St.logged_core]
      exact tidy_insert h client (List.cons_ne_nil next rest)

/-! ## a run -/

/-- the desk agrees with the reference -/
structure Tracks (n : Nat) (calls : List EventCall) (d : Desk) : Prop where
  queue : ∀ client, d.queue client = (backlog n calls client).queue
  popped : ∀ client, popsFor client d.results = (backlog n calls client).popped
  tidy : d.world.core.Tidy

theorem tracks_start (n : Nat) (core : Core) (journal : Journal) :
    Tracks n [] (.start core journal) where
  queue client := by
    show (∅ : EventQueues).getD client [] = []
    exact ExtTreeMap.getD_empty
  popped client := rfl
  tidy client := by
    show (∅ : EventQueues)[client]? ≠ some []
    rw [ExtTreeMap.getElem?_empty]
    exact nofun

theorem tracks_step (cfg : Config) {calls : List EventCall} {d : Desk}
    (h : Tracks cfg.queueSize calls d) (i : EventInput) :
    ∃ d', eventStep cfg d i = some d' ∧ Tracks cfg.queueSize (calls ++ [i.call]) d' := by
  obtain ⟨call, env⟩ := i
  cases call with
  | push client event =>
    obtain ⟨s', hrun, hqueue⟩ := pushEvent_queue cfg client event (d.world.facing env)
    have htidy := pushEvent_tidy cfg client event (s := d.world.facing env) h.tidy
    rw [hrun] at htidy
    refine ⟨⟨s'.world, d.results⟩, by unfold eventStep; simp only [hrun], ?_, ?_, htidy⟩
    · intro client'
      show s'.core.queue client' = _
      rw [hqueue, backlog_concat]
      by_cases hc : client' = client
      · subst hc
        have hold : (d.world.facing env).core.queue client' = (backlog _ calls client').queue :=
          h.queue client'
        rw [Function.update_self, hold, queue_apply_push, pushed]
        -- the source tests for "at least", the reference for "exactly"
        have hbounded := (backlog_sound cfg.queue_pos calls client').1.bounded
        have hfull : cfg.queueSize ≤ (backlog cfg.queueSize calls client').queue.length ↔
            (backlog cfg.queueSize calls client').queue.length = cfg.queueSize := by omega
        simp only [hfull]
      · rw [Function.update_of_ne hc, apply_of_ne (fun heq => hc heq.symm)]
        exact h.queue client'
    · intro client'
      show popsFor client' d.results = _
      rw [h.popped, backlog_concat]
      unfold EventCall.apply
      split
      · exact (Backlog.popped_push event _).symm
      · rfl
  | pop client =>
    obtain ⟨s', hrun, hqueue⟩ := popEvent_spec client (d.world.facing env)
    have htidy := popEvent_tidy client (s := d.world.facing env) h.tidy
    rw [hrun] at htidy
    refine ⟨⟨s'.world, d.results ++ [(client, (d.queue client).head?)]⟩,
      by unfold eventStep; simp only [hrun]; rfl, ?_, ?_, htidy⟩
    · intro client'
      show s'.core.queue client' = _
      rw [hqueue, backlog_concat]
      by_cases hc : client' = client
      · subst hc
        have hold : (d.world.facing env).core.queue client' = (backlog _ calls client').queue :=
          h.queue client'
        rw [Function.update_self, hold, apply_pop_self]
        exact (Backlog.queue_oldest .popped _).symm
      · rw [Function.update_of_ne hc, apply_of_ne (fun heq => hc heq.symm)]
        exact h.queue client'
    · intro client'
      rw [popsFor_concat, h.popped, backlog_concat]
      by_cases hc : client' = client
      · subst hc
        rw [apply_pop_self, Backlog.popped_pop, h.queue]
        unfold popsFor
        cases (backlog cfg.queueSize calls client').queue.head? <;> simp
      · rw [apply_of_ne (fun heq => hc heq.symm)]
        have hne : ¬ client = client' := fun heq => hc heq.symm
        unfold popsFor
        simp only [List.filterMap_cons, List.filterMap_nil, if_neg hne, List.append_nil]

/-- what a run of calls has made of the event queues -/
structure FifoRight (cfg : Config) (calls : List EventCall) (d : Desk) : Prop where
  /-- the queues are those of the reference -/
  reference : ∀ client, d.queue client = (backlog cfg.queueSize calls client).queue
  bounded : ∀ client, (d.queue client).length ≤ cfg.queueSize
  suffix : ∀ client, d.queue client <:+ pushesFor client calls
  /-- what was popped or dropped, in order, and the queue are all that was pushed -/
  conserved : ∀ client, (backlog cfg.queueSize calls client).left.map Prod.snd ++ d.queue client =
    pushesFor client calls
  popped : ∀ client, popsFor client d.results = (backlog cfg.queueSize calls client).popped
  ordered : ∀ client, (popsFor client d.results).Sublist (pushesFor client calls)
  /-- the next pop returns the oldest event there is -/
  oldest : ∀ client env, ((popEvent client).run (d.world.facing env)).1 = .ok (d.queue client).head?
  others : ∀ i d', eventStep cfg d i = some d' →
    ∀ client, client ≠ i.call.client → d'.queue client = d.queue client
  tidy : d.world.core.Tidy

theorem Tracks.right {cfg : Config} {calls : List EventCall} {d : Desk}
    (h : Tracks cfg.queueSize calls d) : FifoRight cfg calls d where
  reference := h.queue
  bounded client := by
    rw [h.queue]
    exact (backlog_sound cfg.queue_pos calls client).1.bounded
  suffix client := by
    obtain ⟨hsound, hsent⟩ := backlog_sound cfg.queue_pos calls client
    rw [h.queue, ← hsent]
    exact hsound.suffix
  conserved client := by
    obtain ⟨hsound, hsent⟩ := backlog_sound cfg.queue_pos calls client
    rw [h.queue, ← hsent]
    exact hsound.conserved
  popped := h.popped
  ordered client := by
    obtain ⟨hsound, hsent⟩ := backlog_sound cfg.queue_pos calls client
    rw [h.popped, ← hsent]
    exact hsound.popped_sublist
  oldest client env := by
    obtain ⟨s', hrun, -⟩ := popEvent_spec client (d.world.facing env)
    rw [hrun]
    rfl
  others i d' hstep client hne := by
    obtain ⟨d'', hstep', htracks⟩ := tracks_step cfg h i
    rw [hstep] at hstep'
    cases hstep'
    rw [htracks.queue, h.queue, backlog_concat, apply_of_ne fun heq => hne heq.symm]
  tidy := h.tidy

/-- **For every capacity and every list of calls, from the empty map, the calls return and the event
queues are bounded FIFOs, one for each client.** -/
theorem event_queue_fifo (cfg : Config) (core : Core) (journal : Journal)
    (inputs : List EventInput) :
    ∃ d, runFrom (eventStep cfg) (.start core journal) inputs = some d ∧
      FifoRight cfg (inputs.map EventInput.call) d := by
  have hrun : ∃ d, runFrom (eventStep cfg) (.start core journal) inputs = some d ∧
      Tracks cfg.queueSize (inputs.map EventInput.call) d := by
    induction inputs using List.reverseRecOn with
    | nil => exact ⟨_, rfl, tracks_start cfg.queueSize core journal⟩
    | append_singleton inputs i ih =>
      obtain ⟨d, hd, htracks⟩ := ih
      obtain ⟨d', hd', htracks'⟩ := tracks_step cfg htracks i
      refine ⟨d', ?_, ?_⟩
      · rw [runFrom_concat, hd]
        exact hd'
      · rw [List.map_append]
        exact htracks'
  obtain ⟨d, hd, htracks⟩ := hrun
  exact ⟨d, hd, htracks.right⟩

end Logistics
