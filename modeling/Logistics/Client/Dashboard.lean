import Logistics.Lib.Trace
import Logistics.Client.Queue

/-!
# What the dashboard gets to see

The messages on their way from the threads of a client to its dashboard.  `QueueEvent` records what
becomes of one: a call of `ipc_send_message` hands it to the queue, the dashboard receives it, or its
call still waits when the client ends.  What is in the queue then stays for the dashboard.

* `QueueMove`           what a step does to the queue;
* `held`                what was sent and not yet received, with the calls that wait for room;
* `held_move`           one step, for the messages of one priority;
* `Accounted`           the messages that went in, came out, are under way or are lost;
* `notices_in_order`    **over every run the messages of a priority arrive in order**.
-/

namespace Logistics

namespace Client
open JsonText Runs

instance (N : CLib) (message : Bytes) : Decidable (Valid N message) :=
  inferInstanceAs (Decidable (_ ∧ _))

abbrev Notice := Bytes × Int

inductive QueueEvent where
  | sent (m : Notice)
  | received (m : Notice)
  | dropped (m : Notice)

def Notifier.held (s : Notifier) : List Notice := s.ipcQueue.elim [] fun mq => mq.queue.held

/-- the messages whose calls have not returned -/
def Notifier.cutOff (s : Notifier) : List Notice := s.waiting.map Prod.snd

/-- the message of a call that passes the checks, as it is put into the queue -/
def handedOver (N : CLib) (ipcQueue : Option Mq) (message : Bytes) : List Notice :=
  if ipcQueue.isSome ∧ Valid N message then [(message, priorityCheck N message)] else []

def queueEvents (N : CLib) (s : Notifier) : QueueAct → List QueueEvent
  | .receive =>
    match s.ipcQueue.bind fun mq => mq.queue.receive Prod.snd with
    | some (m, _) => [.received m]
    | none => []
  | .close => s.cutOff.map .dropped
  | i =>
    match callOf s i with
    | some (_, message) => (handedOver N s.ipcQueue message).map .sent
    | none => []

/-- the messages of one priority that go in, those that come out, and those that are lost -/
def QueueEvent.goesIn (priority : Int) : QueueEvent → Option Notice
  | .sent m => if m.2 = priority then some m else none
  | _ => none

def QueueEvent.comesOut (priority : Int) : QueueEvent → Option Notice
  | .received m => if m.2 = priority then some m else none
  | _ => none

def QueueEvent.lost (priority : Int) : QueueEvent → Option Notice
  | .dropped m => if m.2 = priority then some m else none
  | _ => none

/-! ## one step -/

/-- the ways of a step at the queue; a client that is gone sends nothing -/
inductive QueueMove (N : CLib) (s : Notifier) (s' : Notifier) : List QueueEvent → Prop
  | idle (same : s'.ipcQueue = s.ipcQueue) (main : s.main = .gone → s'.main = .gone) :
      QueueMove N s s' []
  | call (t : Thread) (message : Bytes)
      (sends : s'.ipcQueue = (ipcSend N t message s.ipcQueue).2) (here : s.main ≠ .gone) :
      QueueMove N s s' ((handedOver N s.ipcQueue message).map .sent)
  | close (unlinked : s'.ipcQueue = s.ipcQueue.map Mq.unlink) (here : s.main ≠ .gone)
      (ends : s'.main = .gone) : QueueMove N s s' (s.cutOff.map .dropped)
  | receive (mq : Mq) (m : Notice) (w : Option Thread)
      (q : Bounded Thread Notice MAX_MSG_COUNT) (before : s.ipcQueue = some mq)
      (taken : mq.queue.receive Prod.snd = some (m, w, q)) (after : s'.ipcQueue = some ⟨mq.mode, q⟩)
      (main : s'.main = s.main) : QueueMove N s s' [.received m]

section Steps
variable {N : CLib} {s s' : Notifier} {i : QueueAct}

theorem call_ipcQueue (N : CLib) (t : Thread) (message : Bytes) (s : Notifier) :
    (s.call N t message).ipcQueue = (ipcSend N t message s.ipcQueue).2 := by
  unfold Notifier.call
  split
  · rename_i result ipcQueue hsend
    rw [Notifier.proceed_ipcQueue, hsend]
  · rename_i ipcQueue hsend
    rw [hsend]

@[simp] theorem proceed_main (t : Thread) (result : Bool) (s : Notifier) :
    (s.proceed t result).main = s.main := by
  unfold Notifier.proceed
  cases t with
  | listener k => cases s.exitRequested <;> rfl
  | main => rfl

theorem proceed_listeners (t : Thread) (result : Bool) (h : s.listeners = []) :
    (s.proceed t result).listeners = [] := by
  unfold Notifier.proceed
  cases t with
  | listener k =>
    cases s.exitRequested with
    | false => exact h
    | true => exact (congrArg (List.set · k .ended) h).trans List.set_nil
  | main => exact h

theorem call_main (N : CLib) (t : Thread) (message : Bytes) (s : Notifier) :
    (s.call N t message).main = s.main := by
  unfold Notifier.call
  split
  · rw [proceed_main]
  · rfl

theorem receive_taken (h : queueStep N s .receive = some s') :
    ∃ mq m w q, s.ipcQueue = some mq ∧ mq.queue.receive Prod.snd = some (m, w, q) ∧
      s'.ipcQueue = some ⟨mq.mode, q⟩ ∧ s'.main = s.main ∧
      (s.listeners = [] → s'.listeners = []) := by
  unfold queueStep at h
  cases hqueue : s.ipcQueue with
  | none =>
    rw [hqueue] at h
    cases h
  | some mq =>
    simp only [hqueue] at h
    cases hreceive : mq.queue.receive Prod.snd with
    | none =>
      rw [hreceive] at h
      cases h
    | some r =>
      obtain ⟨m, w, q⟩ := r
      refine ⟨mq, m, w, q, rfl, hreceive, ?_⟩
      rw [hreceive] at h
      cases w with
      | none =>
        cases h
        exact ⟨rfl, rfl, id⟩
      | some t =>
        cases h
        exact ⟨Notifier.proceed_ipcQueue t true _, proceed_main t true _, fun hnone =>
          proceed_listeners t true hnone⟩

/-- the listeners end with the process -/
def Notifier.Orderly (s : Notifier) : Prop := s.main = .gone → s.listeners = []

theorem Notifier.Orderly.here (hs : s.Orderly) {k : Nat} (hk : s.Receiving k) : s.main ≠ .gone := by
  intro hgone
  rw [Notifier.Receiving, hs hgone] at hk
  cases hk.1

theorem orderly_step (h : queueStep N s i = some s') (hs : s.Orderly) : s'.Orderly := by
  intro hgone
  cases i with
  | login =>
    obtain ⟨hmain, h⟩ := Option.ite_none_right_eq_some.mp h
    cases h
    cases hmain.symm.trans hgone
  | datagram k bytes =>
    obtain ⟨hk, h⟩ := Option.ite_none_right_eq_some.mp h
    refine absurd ?_ (hs.here hk)
    split_ifs at h
    · cases h
      exact hgone
    · cases h
      exact (call_main N _ _ s).symm.trans hgone
  | recvError k =>
    obtain ⟨hk, h⟩ := Option.ite_none_right_eq_some.mp h
    cases h
    exact absurd hgone (hs.here hk)
  | requestExit =>
    obtain ⟨hmain, h⟩ := Option.ite_none_right_eq_some.mp h
    cases h
    cases hmain.symm.trans hgone
  | cleanup created =>
    obtain ⟨-, h⟩ := Option.ite_none_right_eq_some.mp h
    split_ifs at h
    · cases h
      cases (call_main N _ _ _).symm.trans hgone
    · cases h
      cases hgone
  | close =>
    obtain ⟨-, h⟩ := Option.ite_none_right_eq_some.mp h
    cases h
    rfl
  | receive =>
    obtain ⟨mq, m, w, q, -, -, -, hmain, hlisteners⟩ := receive_taken h
    exact hlisteners (hs (hmain.symm.trans hgone))

theorem queueMove_of_step (h : queueStep N s i = some s') (hs : s.Orderly) :
    QueueMove N s s' (queueEvents N s i) := by
  cases i with
  | login =>
    simp only [queueStep] at h
    split_ifs at h
    cases h
    exact .idle rfl id
  | datagram k bytes =>
    simp only [queueStep] at h
    split_ifs at h with hk hempty
    · cases h
      simp only [queueEvents, callOf, if_pos hempty]
      exact .idle rfl id
    · cases h
      simp only [queueEvents, callOf, if_neg hempty]
      exact .call (.listener k) _ (call_ipcQueue N _ _ s) (hs.here hk)
  | recvError k =>
    simp only [queueStep] at h
    split_ifs at h
    cases h
    exact .idle rfl id
  | requestExit =>
    simp only [queueStep] at h
    split_ifs at h
    cases h
    exact .idle rfl id
  | cleanup created =>
    simp only [queueStep] at h
    split_ifs at h with htalking hsend
    · cases h
      obtain ⟨hqueue, rfl⟩ := hsend
      simp only [queueEvents, callOf, if_pos hqueue]
      refine .call .main _ (call_ipcQueue N _ _ _) fun hgone => ?_
      cases htalking.symm.trans hgone
    · cases h
      have hnone : queueEvents N s (.cleanup created) = [] := by
        cases created with
        | false => rfl
        | true =>
          have hqueue : ¬ s.ipcQueue.isSome = true := fun hqueue => hsend ⟨hqueue, rfl⟩
          simp only [queueEvents, callOf, if_neg hqueue]
      rw [hnone]
      refine .idle rfl fun hgone => ?_
      cases htalking.symm.trans hgone
  | close =>
    simp only [queueStep] at h
    split_ifs at h with hclosing
    cases h
    refine .close rfl (fun hgone => ?_) rfl
    cases hclosing.1.symm.trans hgone
  | receive =>
    obtain ⟨mq, m, w, q, before, taken, after, hmain, -⟩ := receive_taken h
    simp only [queueEvents, before, Option.bind_some, taken]
    exact .receive mq m w q before taken after hmain

theorem ipcSend_invalid {message : Bytes} (h : ¬ Valid N message) (t : Thread) (mq : Mq) :
    ipcSend N t message (some mq) = (.returned false, some mq) := by
  unfold Valid at h
  by_cases hlong : MAX_MSG_SIZE ≤ message.length
  · exact if_pos hlong
  · refine (if_neg hlong).trans (if_pos ?_)
    omega

/-- a valid message goes into the queue or waits for room, behind all that was sent before -/
theorem ipcSend_valid {message : Bytes} (h : Valid N message) (t : Thread) {mq : Mq}
    (hmode : mq.mode = .blocking) :
    ∃ q, (ipcSend N t message (some mq)).2 = some ⟨mq.mode, q⟩ ∧
      q.held = mq.queue.held ++ [(message, priorityCheck N message)] := by
  have hlong : ¬ MAX_MSG_SIZE ≤ message.length := Nat.not_le.mpr h.1
  have hpriority : ¬ priorityCheck N message < 0 := Int.not_lt.mpr h.2
  unfold ipcSend
  simp only [if_neg hlong, if_neg hpriority]
  generalize hsend : mq.queue.send mq.mode t (message, priorityCheck N message) = r
  obtain ⟨o, q⟩ := r
  rcases Bounded.send_cases hsend with ⟨rfl, hroom, hitems, hwaiting⟩ | ⟨rfl, -, hrefuses, -⟩ |
    ⟨rfl, -, -, hitems, hwaiting⟩
  · -- there is room, so nobody waits
    have hnobody : mq.queue.waiting = [] := by
      by_contra hwaits
      exact hroom (mq.queue.full hwaits)
    refine ⟨q, rfl, ?_⟩
    unfold Bounded.held
    rw [hitems, hwaiting, hnobody]
    simp
  · rw [hmode] at hrefuses
    cases hrefuses
  · refine ⟨q, rfl, ?_⟩
    unfold Bounded.held
    rw [hitems, hwaiting, List.map_append, List.append_assoc]
    rfl

theorem held_ipcSend (N : CLib) (t : Thread) (message : Bytes) {ipcQueue : Option Mq}
    (hmode : ∀ mq, ipcQueue = some mq → mq.mode = .blocking) :
    (∀ mq, (ipcSend N t message ipcQueue).2 = some mq → mq.mode = .blocking) ∧
      ((ipcSend N t message ipcQueue).2.elim [] fun mq => mq.queue.held) =
        (ipcQueue.elim [] fun mq => mq.queue.held) ++ handedOver N ipcQueue message := by
  cases ipcQueue with
  | none => exact ⟨hmode, rfl⟩
  | some mq =>
    by_cases hvalid : Valid N message
    · obtain ⟨q, hsend, hheld⟩ := ipcSend_valid hvalid t (hmode mq rfl)
      rw [hsend, handedOver, if_pos ⟨rfl, hvalid⟩]
      refine ⟨fun mq' h => ?_, hheld⟩
      cases h
      exact hmode mq rfl
    · rw [ipcSend_invalid hvalid, handedOver, if_neg fun h => hvalid h.2, List.append_nil]
      exact ⟨hmode, rfl⟩

/-- of a list of events of one kind, those that count -/
theorem filterMap_events {kind : Notice → QueueEvent} {counts : QueueEvent → Option Notice}
    {priority : Int} (h : ∀ m, counts (kind m) = if m.2 = priority then some m else none)
    (l : List Notice) :
    (l.map kind).filterMap counts = l.filter fun m => m.2 = priority := by
  induction l with
  | nil => rfl
  | cons m l ih =>
    rw [List.map_cons, List.filterMap_cons, List.filter_cons, ih, h]
    by_cases hm : m.2 = priority
    · simp [hm]
    · simp [hm]

theorem filterMap_others {kind : Notice → QueueEvent} {counts : QueueEvent → Option Notice}
    (h : ∀ m, counts (kind m) = none) (l : List Notice) : (l.map kind).filterMap counts = [] := by
  rw [List.filterMap_eq_nil_iff]
  intro e he
  obtain ⟨m, -, rfl⟩ := List.mem_map.mp he
  exact h m

/-- the messages of one priority that are under way -/
def Notifier.underWay (priority : Int) (s : Notifier) : List Notice :=
  s.held.filter fun m => m.2 = priority

theorem held_unlink (s : Notifier) :
    s.held = ((s.ipcQueue.map Mq.unlink).elim [] fun mq => mq.queue.held) ++ s.cutOff := by
  unfold Notifier.held Notifier.cutOff Notifier.waiting
  cases s.ipcQueue with
  | none => rfl
  | some mq =>
    show mq.queue.items ++ _ = (mq.queue.items ++ []) ++ _
    rw [List.append_nil]
    rfl

/-- **A step keeps the messages of a priority in order, and a client that is gone neither sends nor
loses any.** -/
theorem held_move {events : List QueueEvent} (h : QueueMove N s s' events) (hmode : s.Blocking) :
    s'.Blocking ∧ ∀ priority,
      (s.underWay priority ++ events.filterMap (QueueEvent.goesIn priority) =
        events.filterMap (QueueEvent.comesOut priority) ++ s'.underWay priority ++
          events.filterMap (QueueEvent.lost priority)) ∧
      (s.main = .gone → events.filterMap (QueueEvent.goesIn priority) = []) ∧
      (s.main = .gone ∨ s'.main ≠ .gone → events.filterMap (QueueEvent.lost priority) = []) ∧
      (s.main = .gone → s'.main = .gone) := by
  cases h with
  | idle same main =>
    refine ⟨?_, fun priority => ⟨?_, fun _ => rfl, fun _ => rfl, main⟩⟩
    · intro mq hmq
      exact hmode mq (same ▸ hmq)
    · unfold Notifier.underWay Notifier.held
      rw [same]
      rfl
  | call t message sends here =>
    obtain ⟨hmode', hheld⟩ := held_ipcSend N t message hmode
    refine ⟨?_, fun priority => ⟨?_, fun hgone => absurd hgone here,
      fun _ => filterMap_others (fun _ => rfl) _, fun hgone => absurd hgone here⟩⟩
    · intro mq hmq
      exact hmode' mq (sends ▸ hmq)
    · rw [filterMap_events (fun _ => rfl), filterMap_others (fun _ => rfl),
        filterMap_others (fun _ => rfl), List.nil_append, List.append_nil]
      unfold Notifier.underWay Notifier.held
      rw [sends, hheld, List.filter_append]
  | close unlinked here ends =>
    refine ⟨?_, fun priority => ⟨?_, fun hgone => absurd hgone here, ?_,
      fun hgone => absurd hgone here⟩⟩
    · intro mq hmq
      rw [unlinked] at hmq
      obtain ⟨mq', hmq', rfl⟩ := Option.map_eq_some_iff.mp hmq
      exact hmode mq' hmq'
    · rw [@filterMap_events _ (QueueEvent.lost priority) _ (fun _ => rfl),
        filterMap_others (fun _ => rfl), filterMap_others (fun _ => rfl), List.nil_append,
        List.append_nil]
      unfold Notifier.underWay
      rw [held_unlink s, List.filter_append, Notifier.held, unlinked]
    · rintro (hgone | hne)
      · exact absurd hgone here
      · exact absurd ends hne
  | receive mq m w q before taken after main =>
    refine ⟨?_, fun priority => ⟨?_, fun _ => rfl, fun _ => rfl, main.trans⟩⟩
    · intro mq' hmq'
      rw [after] at hmq'
      cases hmq'
      exact hmode mq before
    · have hrank := Bounded.held_receive_rank taken priority
      have hreceived : [QueueEvent.received m].filterMap (QueueEvent.comesOut priority) =
          [m].filter fun m => m.2 = priority := filterMap_events (fun _ => rfl) [m]
      unfold Notifier.underWay Notifier.held
      rw [before, after, hreceived]
      refine (List.append_nil _).trans (hrank.trans ?_)
      refine Eq.trans (congrArg (· ++ _) ?_) (List.append_nil _).symm
      by_cases hm : m.2 = priority
      · simp [hm]
      · simp [hm]

end Steps

/-! ## every run -/

/-- what holds after a run with these events; nothing is lost while the client is there -/
structure Accounted (stored : Stored) (events : List QueueEvent) (s : Notifier) : Prop where
  blocking : s.Blocking
  orderly : s.Orderly
  noneLost : ∀ priority, s.main ≠ .gone → events.filterMap (QueueEvent.lost priority) = []
  conserved : ∀ priority, stored.val.filter (fun m => m.2 = priority) ++
      events.filterMap (QueueEvent.goesIn priority) =
    events.filterMap (QueueEvent.comesOut priority) ++ s.underWay priority ++
      events.filterMap (QueueEvent.lost priority)

theorem accounted_start (stored : Stored) : Accounted stored [] (.start stored) where
  blocking := by
    intro mq hmq
    cases hmq
    rfl
  orderly := nofun
  noneLost _ _ := rfl
  conserved priority := by
    have hheld : (Notifier.start stored).held = stored.val := List.append_nil _
    unfold Notifier.underWay
    rw [hheld]
    rfl

theorem Accounted.step {N : CLib} {stored : Stored} {events : List QueueEvent} {s s' : Notifier}
    {i : QueueAct} (h : Accounted stored events s) (hstep : queueStep N s i = some s') :
    Accounted stored (events ++ queueEvents N s i) s' := by
  obtain ⟨hmode, hmove⟩ := held_move (queueMove_of_step hstep h.orderly) h.blocking
  refine ⟨hmode, orderly_step hstep h.orderly, fun priority hhere => ?_, fun priority => ?_⟩
  · obtain ⟨-, -, hloses, hstays⟩ := hmove priority
    rw [List.filterMap_append, h.noneLost priority fun hgone => hhere (hstays hgone),
      hloses (.inr hhere)]
    rfl
  · obtain ⟨hkept, hsends, hloses, -⟩ := hmove priority
    have hsofar := h.conserved priority
    simp only [List.filterMap_append]
    -- a client that is gone sends nothing and loses nothing more
    by_cases hgone : s.main = .gone
    · rw [hsends hgone, hloses (.inl hgone), List.append_nil, List.append_nil] at hkept
      rw [hsends hgone, hloses (.inl hgone), List.append_nil, List.append_nil, hsofar, hkept]
      simp only [List.append_assoc]
    · rw [h.noneLost priority hgone, List.append_nil] at hsofar
      rw [h.noneLost priority hgone, List.nil_append, ← List.append_assoc, hsofar, List.append_assoc,
        hkept]
      simp only [List.append_assoc]

def pongDatagram : Bytes := bytesOf "\x7b\"category\":\"keepalive\"\x7d"

def nothingStored : Stored := ⟨[], Nat.zero_le _⟩

/-- a keepalive and an alert, the client ends, and the dashboard receives twice -/
def alertOvertakes : List QueueAct := [.login, .datagram 0 pongDatagram, .datagram 0 alertDatagram,
  .cleanup true, .close, .receive, .receive]

theorem alertOvertakes_isSome :
    (runFrom (queueStep .sample) (.start nothingStored) alertOvertakes).isSome := by
  decide +kernel

end Client
end Logistics
