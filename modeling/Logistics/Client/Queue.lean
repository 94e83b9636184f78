import Logistics.Lib.Bounded
import Logistics.Lib.Runs
import Logistics.Client.Listener

/-!
# The queue of the dashboard

`ipc_init` opens the message queue without `O_NONBLOCK`, the UDP listeners and the main thread's
`client_cleanup` send to it, and the dashboard, if it runs, receives from it.  Each login starts one
more listener.  `Notifier` is the client as far as its threads take part in this; a thread that is
inside `mq_send` is one of those that wait in the queue.

* `ipcSend`               `ipc_send_message` as far as it gets;
* `queueStep`             one event at a listener, at the main thread or at the dashboard;
* `Answered`              a call returns, with `false` and the queue as it was if that was full;
* `Serving`               the listeners take their next datagrams, and the main thread ends;
* `never_blocks_iff`      **all of a run is so exactly if no valid message meets a full queue**;
* `eleventh_alert_blocks` eleven alerts without a dashboard.
-/

namespace Logistics

namespace Client
open JsonText Runs

/-! ## the threads -/

def MAX_MSG_COUNT : Nat := 10

inductive OpenFlag where
  | O_CREAT
  | O_RDWR
  | O_NONBLOCK
  deriving DecidableEq

/-- the mode of a queue is that of the descriptor; `mq_open` ignores `mq_flags` -/
def mqMode (oflag : List OpenFlag) : Bounded.Mode :=
  if .O_NONBLOCK ∈ oflag then .nonblocking else .blocking

inductive Thread where
  | listener (k : Nat)
  | main
  deriving DecidableEq

/-- the message queue, with the mode of the client's descriptor -/
structure Mq where
  mode : Bounded.Mode
  queue : Bounded Thread (Bytes × Int) MAX_MSG_COUNT

/-- what an earlier client left in the queue -/
abbrev Stored := { messages : Queue // messages.length ≤ MAX_MSG_COUNT }

/-- `ipc_init` -/
def ipcInit (stored : Stored) : Mq where
  mode := mqMode [.O_CREAT, .O_RDWR]
  queue := ⟨stored.val, [], stored.property, nofun⟩

/-- `mq_close` and `mq_unlink` at the end of the process: its calls end, and a dashboard that has the
queue open still receives what is in it -/
def Mq.unlink (mq : Mq) : Mq := ⟨mq.mode, ⟨mq.queue.items, [], mq.queue.bounded, nofun⟩⟩

inductive Sending where
  | returned (result : Bool)
  | waits

/-- `ipc_send_message`; there is no queue where `ipc_queue` is `(mqd_t)-1` -/
def ipcSend (N : CLib) (t : Thread) (message : Bytes) : Option Mq → Sending × Option Mq
  | none => (.returned false, none)
  | some mq =>
    if MAX_MSG_SIZE ≤ message.length then (.returned false, some mq)
    else if priorityCheck N message < 0 then (.returned false, some mq)
    else
      match mq.queue.send mq.mode t (message, priorityCheck N message) with
      | (.done, queue) => (.returned true, some ⟨mq.mode, queue⟩)
      | (.refused, queue) => (.returned false, some ⟨mq.mode, queue⟩)
      | (.waits, queue) => (.waits, some ⟨mq.mode, queue⟩)

/-- what `ipc_exit` sends -/
def exitMessage : Bytes := bytesOf
  "\x7b\n\t\"category\":\t\"exit\",\n\t\"message\":\t\"Closing client, goodbye!\"\n\x7d"

inductive ListenerState where
  | looping
  | ended
  deriving DecidableEq

inductive MainState where
  | talking
  | closing
  | gone
  deriving DecidableEq

structure Notifier where
  ipcQueue : Option Mq
  listeners : List ListenerState
  main : MainState
  exitRequested : Bool
  /-- the calls of `ipc_send_message` that have returned, with what they returned -/
  returned : List (Thread × Bool)

namespace Notifier

def start (stored : Stored) : Notifier := ⟨some (ipcInit stored), [], .talking, false, []⟩

def items (s : Notifier) : Queue := s.ipcQueue.elim [] fun mq => mq.queue.items

/-- the calls that have not returned -/
def waiting (s : Notifier) : List (Thread × (Bytes × Int)) :=
  s.ipcQueue.elim [] fun mq => mq.queue.waiting

def Waits (s : Notifier) (t : Thread) : Prop := t ∈ s.waiting.map Prod.fst

instance (s : Notifier) (t : Thread) : Decidable (s.Waits t) := inferInstanceAs (Decidable (_ ∈ _))

def Full (s : Notifier) : Prop := MAX_MSG_COUNT ≤ s.items.length

def endListener (k : Nat) (s : Notifier) : Notifier :=
  { s with listeners := s.listeners.set k .ended }

/-- a call returns; a listener then looks at `exit_requested` -/
def proceed (t : Thread) (result : Bool) (s : Notifier) : Notifier :=
  let s' := { s with returned := s.returned ++ [(t, result)] }
  match t with
  | .listener k => if s.exitRequested then s'.endListener k else s'
  | .main => s'

def call (N : CLib) (t : Thread) (message : Bytes) (s : Notifier) : Notifier :=
  match ipcSend N t message s.ipcQueue with
  | (.returned result, ipcQueue) => { s with ipcQueue := ipcQueue }.proceed t result
  | (.waits, ipcQueue) => { s with ipcQueue := ipcQueue }

end Notifier

inductive QueueAct where
  /-- `session_start_aux_threads` after a login -/
  | login
  /-- `udp_recv` of a listener returns a datagram -/
  | datagram (k : Nat) (bytes : Bytes)
  /-- `udp_recv` of a listener fails -/
  | recvError (k : Nat)
  /-- `client_context_request_exit` -/
  | requestExit
  /-- `client_cleanup` up to `ipc_exit`; `created` is whether `cJSON_CreateObject` finds memory -/
  | cleanup (created : Bool)
  /-- the rest of `client_cleanup`, and the end of the process -/
  | close
  /-- the dashboard receives a message -/
  | receive

/-- the listener is in its `udp_recv` -/
def Notifier.Receiving (s : Notifier) (k : Nat) : Prop :=
  s.listeners[k]? = some .looping ∧ ¬ s.Waits (.listener k)

instance (s : Notifier) (k : Nat) : Decidable (s.Receiving k) :=
  inferInstanceAs (Decidable (_ ∧ _))

/-- a datagram in the buffer of `udp_listener_thread_func` -/
def received (bytes : Bytes) : Bytes := bytes.take (BUFFER_SIZE_UDP - 1)

def queueStep (N : CLib) (s : Notifier) : QueueAct → Option Notifier
  | .login =>
    if s.main = .talking then some { s with listeners := s.listeners ++ [.looping] } else none
  | .datagram k bytes =>
    if s.Receiving k then
      if received bytes = [] then some (s.endListener k)
      else some (s.call N (.listener k) (cString (received bytes)))
    else none
  | .recvError k => if s.Receiving k then some (s.endListener k) else none
  | .requestExit => if s.main = .talking then some { s with exitRequested := true } else none
  | .cleanup created =>
    if s.main = .talking then
      if s.ipcQueue.isSome ∧ created then
        some ({ s with main := .closing }.call N .main exitMessage)
      else some { s with main := .closing }
    else none
  | .close =>
    if s.main = .closing ∧ ¬ s.Waits .main then
      some { s with ipcQueue := s.ipcQueue.map Mq.unlink, listeners := [], main := .gone }
    else none
  | .receive =>
    match s.ipcQueue with
    | none => none
    | some mq =>
      match mq.queue.receive Prod.snd with
      | none => none
      | some (_, none, queue) => some { s with ipcQueue := some ⟨mq.mode, queue⟩ }
      | some (_, some t, queue) =>
        some ({ s with ipcQueue := some ⟨mq.mode, queue⟩ }.proceed t true)

/-- the call of `ipc_send_message` in a step -/
def callOf (s : Notifier) : QueueAct → Option (Thread × Bytes)
  | .datagram k bytes =>
    if received bytes = [] then none else some (.listener k, cString (received bytes))
  | .cleanup true => if s.ipcQueue.isSome then some (.main, exitMessage) else none
  | _ => none

/-! ## what a call does -/

/-- the message passes the checks of `ipc_send_message` -/
def Valid (N : CLib) (message : Bytes) : Prop :=
  message.length < MAX_MSG_SIZE ∧ 0 ≤ priorityCheck N message

section
variable {N : CLib} {t : Thread} {message : Bytes}

/-- a call that returns does what `ipcSendMessage` does with some answer of `mq_send` -/
theorem ipcSend_returned {mq mq' : Mq} {result : Bool}
    (h : ipcSend N t message (some mq) = (.returned result, some mq')) :
    ∃ room, ipcSendMessage N mq.queue.items message room = (result, mq'.queue.items) := by
  unfold ipcSend at h
  unfold ipcSendMessage
  by_cases hlong : MAX_MSG_SIZE ≤ message.length
  · simp only [if_pos hlong] at h ⊢
    cases h
    exact ⟨true, rfl⟩
  · by_cases hpriority : priorityCheck N message < 0
    · simp only [if_neg hlong, if_pos hpriority] at h ⊢
      cases h
      exact ⟨true, rfl⟩
    · simp only [if_neg hlong, if_neg hpriority] at h ⊢
      generalize hsend : mq.queue.send mq.mode t (message, priorityCheck N message) = r at h
      obtain ⟨o, queue⟩ := r
      rcases Bounded.send_cases hsend with ⟨rfl, -, hitems, -⟩ | ⟨rfl, -, -, rfl⟩ | ⟨rfl, -⟩
      · cases h
        exact ⟨true, by rw [hitems]; rfl⟩
      · cases h
        exact ⟨false, rfl⟩
      · cases h

/-- on a blocking descriptor a call returns, unless the message is valid and the queue full -/
theorem ipcSend_cases (N : CLib) (t : Thread) (message : Bytes)
    (q : Bounded Thread (Bytes × Int) MAX_MSG_COUNT) :
    (∃ result q', ipcSend N t message (some ⟨.blocking, q⟩) =
        (.returned result, some ⟨.blocking, q'⟩) ∧ q'.waiting = q.waiting ∧
      (q.Full → result = false ∧ q' = q) ∧ ¬ (q.Full ∧ Valid N message)) ∨
    (∃ q', ipcSend N t message (some ⟨.blocking, q⟩) = (.waits, some ⟨.blocking, q'⟩) ∧
      q'.waiting = q.waiting ++ [(t, (message, priorityCheck N message))] ∧
      q.Full ∧ Valid N message) := by
  unfold ipcSend Valid
  by_cases hlong : MAX_MSG_SIZE ≤ message.length
  · simp only [if_pos hlong]
    exact .inl ⟨false, q, rfl, rfl, fun _ => ⟨rfl, rfl⟩, fun h => by omega⟩
  · by_cases hpriority : priorityCheck N message < 0
    · simp only [if_neg hlong, if_pos hpriority]
      exact .inl ⟨false, q, rfl, rfl, fun _ => ⟨rfl, rfl⟩, fun h => by omega⟩
    · simp only [if_neg hlong, if_neg hpriority]
      generalize hsend : q.send .blocking t (message, priorityCheck N message) = r
      obtain ⟨o, q'⟩ := r
      rcases Bounded.send_cases hsend with ⟨rfl, hroom, -, hwaiting⟩ | ⟨-, -, hmode, -⟩ |
        ⟨rfl, hfull, -, -, hwaiting⟩
      · exact .inl ⟨true, q', rfl, hwaiting, fun h => absurd h hroom, fun h => hroom h.1⟩
      · cases hmode
      · exact .inr ⟨q', rfl, hwaiting, hfull, by omega, by omega⟩

end

namespace Notifier
variable {s s' : Notifier}

/-- the queue was opened by `ipc_init` -/
def Blocking (s : Notifier) : Prop := ∀ mq, s.ipcQueue = some mq → mq.mode = .blocking

@[simp] theorem proceed_ipcQueue (t : Thread) (result : Bool) (s : Notifier) :
    (s.proceed t result).ipcQueue = s.ipcQueue := by
  unfold proceed
  cases t with
  | listener k => cases s.exitRequested <;> rfl
  | main => rfl

@[simp] theorem proceed_returned (t : Thread) (result : Bool) (s : Notifier) :
    (s.proceed t result).returned = s.returned ++ [(t, result)] := by
  unfold proceed
  cases t with
  | listener k => cases s.exitRequested <;> rfl
  | main => rfl

/-- the thread is where it calls `ipc_send_message` -/
def At (s : Notifier) : Thread → Prop
  | .listener k => s.listeners[k]? = some .looping
  | .main => s.main = .closing

/-- the call returned, with `false` and the queue as it was if that was full -/
def Returns (s s' : Notifier) (t : Thread) : Prop :=
  ∃ result, s'.returned = s.returned ++ [(t, result)] ∧
    (s.Full → result = false ∧ s'.items = s.items)

theorem waiting_eq {s s' : Notifier} (h : s'.ipcQueue = s.ipcQueue) : s'.waiting = s.waiting := by
  unfold waiting
  rw [h]

theorem items_eq {s s' : Notifier} (h : s'.ipcQueue = s.ipcQueue) : s'.items = s.items := by
  unfold items
  rw [h]

theorem waiting_unlink (s : Notifier) :
    ((s.ipcQueue.map Mq.unlink).elim [] fun mq => mq.queue.waiting) = [] := by
  cases s.ipcQueue <;> rfl

/-- **A call returns, unless the message is valid and the queue full; then the thread waits.** -/
theorem call_cases (N : CLib) (t : Thread) (message : Bytes) (hmode : s.Blocking) :
    ((s.call N t message).Blocking ∧ (s.call N t message).waiting = s.waiting ∧
      s.Returns (s.call N t message) t ∧ ¬ (s.Full ∧ Valid N message)) ∨
    ((s.call N t message).Waits t ∧ (s.At t → (s.call N t message).At t) ∧ s.Full ∧
      Valid N message) := by
  unfold call
  cases hqueue : s.ipcQueue with
  | none =>
    have hempty : ¬ s.Full := by
      unfold Full items
      rw [hqueue]
      decide
    refine .inl ⟨?_, ?_, ⟨false, proceed_returned t false _, fun h => absurd h hempty⟩,
      fun h => hempty h.1⟩
    · intro mq hmq
      rw [ipcSend, proceed_ipcQueue] at hmq
      cases hmq
    · exact waiting_eq ((proceed_ipcQueue t false _).trans hqueue.symm)
  | some mq =>
    obtain ⟨mode, q⟩ := mq
    obtain rfl : mode = .blocking := hmode _ hqueue
    have hitems : s.items = q.items := by rw [items, hqueue]; rfl
    have hwait : s.waiting = q.waiting := by rw [waiting, hqueue]; rfl
    have hfull : s.Full ↔ q.Full := by rw [Full, hitems]; rfl
    rcases ipcSend_cases N t message q with ⟨result, q', hsend, hwaiting, hrefuse, hno⟩ |
      ⟨q', hsend, hwaiting, hq, hvalid⟩
    · simp only [hsend]
      refine .inl ⟨?_, ?_, ⟨result, proceed_returned t result _, fun h => ?_⟩,
        fun h => hno ⟨hfull.mp h.1, h.2⟩⟩
      · intro mq hmq
        rw [proceed_ipcQueue] at hmq
        cases hmq
        rfl
      · rw [waiting, proceed_ipcQueue, hwait]
        exact hwaiting
      · obtain ⟨hresult, rfl⟩ := hrefuse (hfull.mp h)
        exact ⟨hresult, items_eq ((proceed_ipcQueue t result _).trans hqueue.symm)⟩
    · simp only [hsend]
      refine .inr ⟨?_, ?_, hfull.mpr hq, hvalid⟩
      · show t ∈ q'.waiting.map Prod.fst
        rw [hwaiting, List.map_append]
        exact List.mem_append_right _ (List.mem_singleton_self t)
      · cases t with
        | listener k => exact id
        | main => exact id

end Notifier

/-! ## steps -/

/-- a call in the step returns -/
def Answered (N : CLib) (s : Notifier) (i : QueueAct) : Prop :=
  ∀ t message s', callOf s i = some (t, message) → queueStep N s i = some s' → s.Returns s' t

/-- nothing stands in the way of the listeners and of the end of the client -/
structure Serving (N : CLib) (s : Notifier) : Prop where
  listeners : ∀ k bytes, s.listeners[k]? = some .looping →
    ∃ s', queueStep N s (.datagram k bytes) = some s'
  main : s.main = .closing → ∃ s', queueStep N s .close = some s'

/-- a valid message is sent to a full queue -/
def Overfills (N : CLib) (s : Notifier) (i : QueueAct) : Prop :=
  s.Full ∧ (∃ s', queueStep N s i = some s') ∧
    ∃ t message, callOf s i = some (t, message) ∧ Valid N message

/-- the dashboard's `mq_receive` leaves the mode alone, and lets in a send that waits -/
theorem queueStep_receive {N : CLib} {s s' : Notifier} (h : queueStep N s .receive = some s') :
    (s.Blocking → s'.Blocking) ∧ (s.waiting = [] → s'.waiting = []) := by
  unfold queueStep at h
  cases hqueue : s.ipcQueue with
  | none =>
    rw [hqueue] at h
    cases h
  | some mq =>
    simp only [hqueue] at h
    have hwait : s.waiting = mq.queue.waiting := by rw [Notifier.waiting, hqueue]; rfl
    cases hreceive : mq.queue.receive Prod.snd with
    | none =>
      rw [hreceive] at h
      cases h
    | some r =>
      obtain ⟨a, w, q'⟩ := r
      have hnext : s'.ipcQueue = some ⟨mq.mode, q'⟩ := by
        rw [hreceive] at h
        cases w with
        | none =>
          cases h
          rfl
        | some t =>
          cases h
          exact Notifier.proceed_ipcQueue t true _
      constructor
      · intro hmode mq' hmq'
        rw [hnext] at hmq'
        cases hmq'
        exact hmode mq hqueue
      · intro hnone
        have hnext : s'.waiting = q'.waiting := by rw [Notifier.waiting, hnext]; rfl
        rw [hwait] at hnone
        rcases Bounded.receive_cases hreceive with ⟨-, -, -, hq'⟩ | ⟨t, a', rest, hsome, -⟩
        · rw [hnext, hq']
        · rw [hsome] at hnone
          cases hnone

/-- `s'` is `s` with the thread `t` at its call -/
structure Calling (s s' : Notifier) (t : Thread) : Prop where
  ipcQueue : s'.ipcQueue = s.ipcQueue
  returned : s'.returned = s.returned
  at_call : s'.At t

/-- a step without a call keeps the mode and lets nobody wait, and one with a call is that call -/
theorem queueStep_cases {N : CLib} {s s' : Notifier} {i : QueueAct}
    (h : queueStep N s i = some s') :
    (callOf s i = none ∧ (s.Blocking → s'.Blocking) ∧ (s.waiting = [] → s'.waiting = [])) ∨
    ∃ t message s₁, callOf s i = some (t, message) ∧ Calling s s₁ t ∧ s' = s₁.call N t message := by
  cases i with
  | login =>
    simp only [queueStep] at h
    split_ifs at h
    cases h
    exact .inl ⟨rfl, id, id⟩
  | datagram k bytes =>
    simp only [queueStep] at h
    split_ifs at h with hk hempty
    · cases h
      exact .inl ⟨if_pos hempty, id, id⟩
    · cases h
      exact .inr ⟨.listener k, _, s, if_neg hempty, ⟨rfl, rfl, hk.1⟩, rfl⟩
  | recvError k =>
    simp only [queueStep] at h
    split_ifs at h
    cases h
    exact .inl ⟨rfl, id, id⟩
  | requestExit =>
    simp only [queueStep] at h
    split_ifs at h
    cases h
    exact .inl ⟨rfl, id, id⟩
  | cleanup created =>
    simp only [queueStep] at h
    split_ifs at h with hmain hcall
    · cases h
      obtain ⟨hsome, rfl⟩ := hcall
      exact .inr ⟨.main, exitMessage, { s with main := .closing }, if_pos hsome, ⟨rfl, rfl, rfl⟩,
        rfl⟩
    · cases h
      refine .inl ⟨?_, id, id⟩
      cases created with
      | false => rfl
      | true => exact if_neg fun hsome => hcall ⟨hsome, rfl⟩
  | close =>
    simp only [queueStep] at h
    split_ifs at h
    cases h
    refine .inl ⟨rfl, fun hmode mq hmq => ?_, fun _ => s.waiting_unlink⟩
    obtain ⟨mq', hmq', rfl⟩ := Option.map_eq_some_iff.mp hmq
    exact hmode mq' hmq'
  | receive => exact .inl ⟨rfl, queueStep_receive h⟩

/-- every call has returned -/
def Free (s : Notifier) : Prop := s.Blocking ∧ s.waiting = []

theorem Free.serving {s : Notifier} (N : CLib) (h : Free s) : Serving N s := by
  have hnone : ∀ t, ¬ s.Waits t := by
    intro t
    unfold Notifier.Waits
    rw [h.2]
    exact List.not_mem_nil
  constructor
  · intro k bytes hk
    unfold queueStep
    simp only [if_pos (show s.Receiving k from ⟨hk, hnone _⟩)]
    split_ifs
    · exact ⟨_, rfl⟩
    · exact ⟨_, rfl⟩
  · intro hmain
    exact ⟨_, if_pos ⟨hmain, hnone _⟩⟩

/-- what a step with a call does -/
theorem Calling.call_cases {N : CLib} {s s₁ : Notifier} {t : Thread} {message : Bytes}
    (hcalling : Calling s s₁ t) (hmode : s.Blocking) :
    ((s₁.call N t message).Blocking ∧ (s₁.call N t message).waiting = s.waiting ∧
      s.Returns (s₁.call N t message) t ∧ ¬ (s.Full ∧ Valid N message)) ∨
    ((s₁.call N t message).Waits t ∧ (s₁.call N t message).At t ∧ s.Full ∧ Valid N message) := by
  have hitems := Notifier.items_eq hcalling.ipcQueue
  have hmode₁ : s₁.Blocking := by
    intro mq hmq
    rw [hcalling.ipcQueue] at hmq
    exact hmode mq hmq
  have h := Notifier.call_cases N t message hmode₁
  unfold Notifier.Returns Notifier.Full at h ⊢
  rw [Notifier.waiting_eq hcalling.ipcQueue, hcalling.returned, hitems] at h
  rcases h with h | ⟨hwaits, hat, hfull, hvalid⟩
  · exact .inl h
  · exact .inr ⟨hwaits, hat hcalling.at_call, hfull, hvalid⟩

section
variable {N : CLib} {s s' : Notifier} {i : QueueAct} (h : queueStep N s i = some s')
include h

/-- a call that finds room, or has an invalid message, returns, and nobody waits -/
theorem step_free (hs : Free s) (hno : ¬ Overfills N s i) : Free s' := by
  rcases queueStep_cases h with ⟨-, hmode, hwait⟩ | ⟨t, message, s₁, hcall, hcalling, rfl⟩
  · exact ⟨hmode hs.1, hwait hs.2⟩
  · rcases hcalling.call_cases hs.1 with ⟨hmode, hwait, -⟩ | ⟨-, -, hfull, hvalid⟩
    · exact ⟨hmode, hwait.trans hs.2⟩
    · exact absurd ⟨hfull, ⟨_, h⟩, t, message, hcall, hvalid⟩ hno

theorem step_answered (hs : Free s) (hno : ¬ Overfills N s i) : Answered N s i := by
  intro t message s'' hcall hs''
  rw [h] at hs''
  cases hs''
  rcases queueStep_cases h with ⟨hnone, -⟩ | ⟨t', message', s₁, hcall', hcalling, rfl⟩
  · rw [hnone] at hcall
    cases hcall
  · rw [hcall'] at hcall
    cases hcall
    rcases hcalling.call_cases hs.1 with ⟨-, -, hreturns, -⟩ | ⟨-, -, hfull, hvalid⟩
    · exact hreturns
    · exact absurd ⟨hfull, ⟨_, h⟩, t, message, hcall', hvalid⟩ hno

/-- a thread that sends a valid message to a full queue is stuck in `mq_send` -/
theorem step_stuck (hs : Free s) (hover : Overfills N s i) : ∃ t, s'.Waits t ∧ s'.At t := by
  obtain ⟨hfull, -, t, message, hcall, hvalid⟩ := hover
  rcases queueStep_cases h with ⟨hnone, -⟩ | ⟨t', message', s₁, hcall', hcalling, rfl⟩
  · rw [hnone] at hcall
    cases hcall
  · rw [hcall'] at hcall
    cases hcall
    rcases hcalling.call_cases hs.1 with ⟨-, -, -, hno⟩ | ⟨hwaits, hat, -⟩
    · exact absurd ⟨hfull, hvalid⟩ hno
    · exact ⟨t, hwaits, hat⟩

end

theorem not_serving_of_stuck {N : CLib} {s : Notifier} {t : Thread} (hwaits : s.Waits t)
    (hat : s.At t) : ¬ Serving N s := by
  intro hserving
  cases t with
  | listener k =>
    obtain ⟨s', hs'⟩ := hserving.listeners k [] hat
    simp only [queueStep, if_neg fun hk : s.Receiving k => hk.2 hwaits] at hs'
    cases hs'
  | main =>
    obtain ⟨s', hs'⟩ := hserving.main hat
    simp only [queueStep, if_neg fun hm : s.main = .closing ∧ ¬ s.Waits .main => hm.2 hwaits] at hs'
    cases hs'

theorem start_free (stored : Stored) : Free (.start stored) := by
  refine ⟨?_, rfl⟩
  intro mq hmq
  cases hmq
  rfl

/-- in a run that never overfills the queue every call has returned, at every time -/
theorem always_free {N : CLib} {stored : Stored} {is : List QueueAct}
    (hnever : ¬ Occurred (queueStep N) (.start stored) is (Overfills N)) :
    Always (queueStep N) (.start stored) is Free := by
  have hguard : Throughout (queueStep N) (.start stored) is fun s i => ¬ Overfills N s i := by
    rintro ⟨before, i, after, s, his, hs, hover⟩
    exact hnever ⟨before, i, after, s, his, hs, of_not_not hover⟩
  exact always_guarded (start_free stored) (fun _ _ _ hs hno h => step_free h hs hno) hguard

/-- **Listeners and main thread go on, and every call returns as it should, exactly if no valid
message is sent to a full queue.** -/
theorem never_blocks_iff (N : CLib) (stored : Stored) (is : List QueueAct) :
    (Always (queueStep N) (.start stored) is (Serving N) ∧
      Throughout (queueStep N) (.start stored) is (Answered N)) ↔
      ¬ Occurred (queueStep N) (.start stored) is (Overfills N) := by
  constructor
  · rintro ⟨hall, -⟩
    refine (always_iff_never (G := fun _ => True) (fun _ _ => trivial) (start_free stored)
      (fun _ hs => hs.serving N) (fun s i hover => hover.2.1) ?_ ?_).mp hall
    · intro s i s' hs _ hno h
      exact step_free h hs hno
    · intro s i s' hs _ hover h
      obtain ⟨t, hwaits, hat⟩ := step_stuck h hs hover
      exact not_serving_of_stuck hwaits hat
  · intro hnever
    have hfree := always_free hnever
    refine ⟨hfree.mono fun _ hs => hs.serving N, ?_⟩
    rintro ⟨before, i, after, s, his, hs, hbad⟩
    refine hbad fun t message s' hcall hstep => ?_
    refine step_answered hstep (hfree before (i :: after) s his hs) ?_ t message s' hcall hstep
    exact fun hover => hnever ⟨before, i, after, s, his, hs, hover⟩

/-! ## a run without a dashboard -/

def alertDatagram : Bytes := bytesOf "\x7b\"category\":\"alert\"\x7d"

/-- a login, eleven alerts and the end of the client, from an empty queue -/
def elevenAlerts : List QueueAct :=
  [.login] ++ List.replicate 11 (.datagram 0 alertDatagram) ++ [.cleanup true]

theorem elevenAlerts_run :
    (runFrom (queueStep .sample) (.start ⟨[], by decide⟩) elevenAlerts).map
      (fun s => (s.items.length, s.waiting.map Prod.fst, s.returned)) =
    some (MAX_MSG_COUNT, [.listener 0, .main], List.replicate 10 (.listener 0, true)) := by
  decide +kernel

/-- the listener is stuck with the eleventh alert, and the main thread in `ipc_exit` -/
theorem eleventh_alert_blocks :
    ∃ s, runFrom (queueStep .sample) (.start ⟨[], by decide⟩) elevenAlerts = some s ∧
      s.items.length = MAX_MSG_COUNT ∧ s.waiting.map Prod.fst = [.listener 0, .main] ∧
      s.returned = List.replicate 10 (.listener 0, true) ∧
      queueStep .sample s .close = none ∧
      ∀ bytes, queueStep .sample s (.datagram 0 bytes) = none := by
  obtain ⟨s, hrun, hs⟩ := Option.map_eq_some_iff.mp elevenAlerts_run
  obtain ⟨hitems, hwaiting, hreturned⟩ : _ ∧ _ ∧ _ := by simpa only [Prod.mk.injEq] using hs
  have hwaits : ∀ t ∈ [Thread.listener 0, .main], s.Waits t := by
    intro t ht
    unfold Notifier.Waits
    rw [hwaiting]
    exact ht
  refine ⟨s, hrun, hitems, hwaiting, hreturned, if_neg fun h => h.2 (hwaits _ (by decide)), ?_⟩
  exact fun bytes => if_neg fun h => h.2 (hwaits _ (by decide))

end Client
end Logistics
