import Logistics.Lib.Runs

/-!
# The event loop: descriptors, epoll and session objects

The main thread (`Server::run`: `epoll_wait`, accept, dispatch) and the workers (`tcpHandling`'s
task) share the table `m_clientSessions` and the kernel's descriptor numbers.  A `Server` is the
state of all of it, between two of the steps that the threads interleave:

* `owner`            the accepted client sockets that are open, with the session each was made for;
* `registration`     what epoll has for a number; a registration goes away with its descriptor;
* `clientSessions`   `m_clientSessions`; `operator[]` on an absent number leaves a null pointer;
* `objects`          the `clientSession` objects, alive until their last `shared_ptr` is released;
* `tasks`            the tasks of `tcpHandling`, each holding a `shared_ptr` until it is destroyed;
* `activeSessions`   the `shared_ptr`s of `SessionManager`;
* `borrowed`         those that `UdpHandler::handleMessage` holds while it answers;
* `batch`            what is left of the last `epoll_wait`;
* `closes`           every `close` so far, with its session and the owner of the number.

What a session does with its bytes is not in this model: `run` either ends the session or not, and
leaves a blocked message in `m_pendingMessages` or not.  Inputs of a step are what the kernel or
the session decides: the number `accept` returns, the events, whether a write was blocked.

`Moves` says what each step can do, `moves_of_step` that there is nothing else.
-/

namespace Logistics

structure Registration where
  -- EPOLLIN is in every mask
  out : Bool
  oneshot : Bool
  enabled : Bool
  deriving DecidableEq, Repr

structure EpollEvent where
  fd : Nat
  out : Bool
  deriving DecidableEq, Repr

structure Object where
  clientSocket : Nat
  hasPending : Bool
  alive : Bool
  deriving DecidableEq, Repr

/-- where a task of `tcpHandling` is: waiting for a worker, in `clientSession::run`, before the
`EPOLL_CTL_DEL`, the `close` or the `erase` of the clean-up, before the `EPOLL_CTL_MOD` that re-arms
the socket, or done with its body and not yet destroyed -/
inductive Pc where
  | queued
  | running
  | del
  | close
  | erase
  | rearm
  | finished
  deriving DecidableEq, Repr

structure Task where
  session : Nat
  fd : Nat
  pc : Pc
  deriving DecidableEq, Repr

structure Close where
  session : Nat
  owner : Option Nat
  deriving DecidableEq, Repr

structure Server where
  owner : Nat → Option Nat
  registration : Nat → Option Registration
  clientSessions : Nat → Option (Option Nat)
  objects : Nat → Option Object
  tasks : List Task
  activeSessions : List (String × Nat)
  borrowed : List Nat
  batch : List EpollEvent
  closes : List Close

/-- an event has been delivered: a one-shot registration is disabled -/
def Registration.delivered (r : Registration) : Registration :=
  if r.oneshot then { r with enabled := false } else r

namespace Server

def start : Server where
  owner _ := none
  registration _ := none
  clientSessions _ := none
  objects _ := none
  tasks := []
  activeSessions := []
  borrowed := []
  batch := []
  closes := []

/-! ## the kernel -/

/-- `close(fd)`, called for the session `sid` -/
def closeFd (s : Server) (fd sid : Nat) : Server :=
  { s with
    owner := Function.update s.owner fd none
    registration := Function.update s.registration fd none
    closes := s.closes ++ [⟨sid, s.owner fd⟩] }

/-- `EPOLL_CTL_MOD`, which fails on a number that is not registered -/
def epollMod (s : Server) (fd : Nat) (out oneshot : Bool) : Server :=
  match s.registration fd with
  | none => s
  | some _ =>
    { s with registration := Function.update s.registration fd (some ⟨out, oneshot, true⟩) }

/-- epoll may report the event -/
def deliverable (s : Server) (e : EpollEvent) : Bool :=
  (s.registration e.fd).any fun r => r.enabled && (!e.out || r.out)

/-- `epoll_wait` has returned these events -/
def deliver (s : Server) (events : List EpollEvent) : Server :=
  { s with
    registration := fun fd =>
      if fd ∈ events.map EpollEvent.fd then (s.registration fd).map Registration.delivered
      else s.registration fd
    batch := events }

/-! ## shared pointers -/

/-- some `shared_ptr` to the session is left; the table holds a session under its own socket only -/
def Held (s : Server) (sid fd : Nat) : Prop :=
  s.clientSessions fd = some (some sid) ∨ (∃ t ∈ s.tasks, t.session = sid) ∨
    (∃ e ∈ s.activeSessions, e.2 = sid) ∨ sid ∈ s.borrowed

instance (s : Server) (sid fd : Nat) : Decidable (s.Held sid fd) := by
  unfold Held
  infer_instance

/-- `~clientSession` -/
def destroy (s : Server) (sid : Nat) (o : Object) : Server :=
  { s.closeFd o.clientSocket sid with
    objects := Function.update s.objects sid (some { o with alive := false }) }

/-- a `shared_ptr` to `sid` is gone -/
def release (s : Server) (sid : Nat) : Server :=
  match s.objects sid with
  | none => s
  | some o => if s.Held sid o.clientSocket then s else s.destroy sid o

/-- the value of an overwritten or erased entry of `m_clientSessions` -/
def releaseEntry (s : Server) : Option (Option Nat) → Server
  | some (some sid) => s.release sid
  | _ => s

/-! ## the sessions' queues -/

def hasPendingMessages (s : Server) (sid : Nat) : Bool := (s.objects sid).any Object.hasPending

def setPending (s : Server) (sid : Nat) (f : Bool → Bool) : Server :=
  { s with
    objects := Function.update s.objects sid
      ((s.objects sid).map fun o => ⟨o.clientSocket, f o.hasPending, o.alive⟩) }

/-! ## the main thread -/

/-- a new descriptor, its registration and its session; the table's entry is overwritten -/
def accepted (s : Server) (fd sid : Nat) (blocked : Bool) : Server :=
  { s with
    owner := Function.update s.owner fd (some sid)
    registration := Function.update s.registration fd (some ⟨false, true, true⟩)
    clientSessions := Function.update s.clientSessions fd (some (some sid))
    objects := Function.update s.objects sid (some ⟨fd, blocked, true⟩) }

/-- `handleTcpConnection`, where `accept` returned `fd` and `EPOLL_CTL_ADD` succeeded; `blocked` is
whether the welcome message had to wait -/
def handleTcpConnection (s : Server) (fd sid : Nat) (blocked : Bool) : Server :=
  (s.accepted fd sid blocked).releaseEntry (s.clientSessions fd)

/-- `pendingMessages`; `stillPending` is whether `trySendPendingMessage` left a message behind -/
def pendingMessages (s : Server) (fd : Nat) (stillPending : Bool) : Server :=
  match s.clientSessions fd with
  | none => { s with clientSessions := Function.update s.clientSessions fd (some none) }
  | some none => s
  | some (some sid) =>
    let s' := s.setPending sid fun pending => pending && stillPending
    if s'.hasPendingMessages sid = true then s'
    -- event.events = EPOLLIN, without EPOLLONESHOT
    else s'.epollMod fd false false

def tcpHandling (s : Server) (fd : Nat) : Server :=
  match s.clientSessions fd with
  | none => { s with clientSessions := Function.update s.clientSessions fd (some none) }
  | some none => s
  | some (some sid) => { s with tasks := ⟨sid, fd, .queued⟩ :: s.tasks }

/-- `if (isWriteEvent) pendingMessages(fd)` -/
def flush (s : Server) (e : EpollEvent) (stillPending : Bool) : Server :=
  if e.out = true then s.pendingMessages e.fd stillPending else s

/-- the body of the loop of `run` for the event of a client socket -/
def dispatch (s : Server) (e : EpollEvent) (stillPending : Bool) : Server :=
  let s' := s.flush e stillPending
  if (s'.clientSessions e.fd).isSome = true then s'.tcpHandling e.fd else s'

/-! ## the workers -/

def setPc (s : Server) (t : Task) (pc : Pc) : Server :=
  { s with tasks := ⟨t.session, t.fd, pc⟩ :: s.tasks.erase t }

/-- `session->run()` has returned; `blocked` is whether it queued a reply -/
def ran (s : Server) (t : Task) (continueSession blocked : Bool) : Server :=
  (s.setPc t (if continueSession = true then .rearm else .del)).setPending t.session
    fun pending => pending || blocked

/-- the step after `run`, by the task's position -/
def advance (s : Server) (t : Task) : Option Server :=
  match t.pc with
  | .queued => none
  | .running => none
  | .del =>
    some { s.setPc t .close with registration := Function.update s.registration t.fd none }
  | .close => some ((s.setPc t .erase).closeFd t.fd t.session)
  | .erase =>
    let s' : Server :=
      { s.setPc t .finished with
        clientSessions := Function.update s.clientSessions t.fd none }
    some (s'.releaseEntry (s.clientSessions t.fd))
  | .rearm =>
    some ((s.setPc t .finished).epollMod t.fd (s.hasPendingMessages t.session) true)
  | .finished =>
    let s' : Server := { s with tasks := s.tasks.erase t }
    some (s'.release t.session)

/-! ## the session manager -/

/-- `m_activeSessions[clientId]` is assigned (`registerSession`) or erased (`unregisterSession`) -/
def setActive (s : Server) (clientId : String) (entry : List (String × Nat)) : Server :=
  let s' : Server :=
    { s with
      activeSessions := entry ++ s.activeSessions.filter fun e => e.1 ≠ clientId }
  match s.activeSessions.lookup clientId with
  | none => s'
  | some old => s'.release old

end Server

/-! ## steps -/

inductive Act where
  | accept (fd sid : Nat) (added blocked : Bool)
  | wait (events : List EpollEvent)
  | dispatch (stillPending : Bool)
  | start (t : Task)
  | login (t : Task) (clientId : String)
  | ran (t : Task) (continueSession blocked : Bool)
  | advance (t : Task)
  | unregister (clientId : String)
  | borrow (clientId : String)
  | giveBack (sid : Nat)

def MAX_EPOLL_EVENTS : Nat := 1024

def serverStep (s : Server) : Act → Option Server
  | .accept fd sid added blocked =>
    if s.owner fd = none ∧ s.objects sid = none then
      -- after a failed EPOLL_CTL_ADD the new descriptor is closed and no session is made
      some (if added = true then s.handleTcpConnection fd sid blocked else s)
    else none
  | .wait events =>
    if s.batch = [] ∧ events.length ≤ MAX_EPOLL_EVENTS ∧ (events.map EpollEvent.fd).Nodup ∧
        (∀ e ∈ events, s.deliverable e = true) then
      some (s.deliver events)
    else none
  | .dispatch stillPending =>
    match s.batch with
    | [] => none
    | e :: rest => some (Server.dispatch { s with batch := rest } e stillPending)
  | .start t =>
    if t ∈ s.tasks ∧ t.pc = .queued then some (s.setPc t .running) else none
  | .login t clientId =>
    if t ∈ s.tasks ∧ t.pc = .running then some (s.setActive clientId [(clientId, t.session)])
    else none
  | .ran t continueSession blocked =>
    if t ∈ s.tasks ∧ t.pc = .running then some (s.ran t continueSession blocked) else none
  | .advance t => if t ∈ s.tasks then s.advance t else none
  | .unregister clientId => some (s.setActive clientId [])
  | .borrow clientId =>
    (s.activeSessions.lookup clientId).map fun sid => { s with borrowed := sid :: s.borrowed }
  | .giveBack sid =>
    if sid ∈ s.borrowed then some (Server.release { s with borrowed := s.borrowed.erase sid } sid)
    else none

/-- how a task goes on after its `run` -/
inductive Advances (s : Server) (t : Task) : Server → Prop
  | del : t.pc = .del → Advances s t
      { s.setPc t .close with registration := Function.update s.registration t.fd none }
  | close : t.pc = .close → Advances s t ((s.setPc t .erase).closeFd t.fd t.session)
  | erase : t.pc = .erase → Advances s t (Server.releaseEntry
      { s.setPc t .finished with clientSessions := Function.update s.clientSessions t.fd none }
      (s.clientSessions t.fd))
  | rearm : t.pc = .rearm → Advances s t
      ((s.setPc t .finished).epollMod t.fd (s.hasPendingMessages t.session) true)
  | finished : t.pc = .finished →
      Advances s t (Server.release { s with tasks := s.tasks.erase t } t.session)

theorem advances_of_advance {s s' : Server} {t : Task} (h : s.advance t = some s') :
    Advances s t s' := by
  unfold Server.advance at h
  cases hpc : t.pc with
  | queued => simp [hpc] at h
  | running => simp [hpc] at h
  | del =>
    simp only [hpc, Option.some.injEq] at h
    exact h ▸ .del hpc
  | close =>
    simp only [hpc, Option.some.injEq] at h
    exact h ▸ .close hpc
  | erase =>
    simp only [hpc, Option.some.injEq] at h
    exact h ▸ .erase hpc
  | rearm =>
    simp only [hpc, Option.some.injEq] at h
    exact h ▸ .rearm hpc
  | finished =>
    simp only [hpc, Option.some.injEq] at h
    exact h ▸ .finished hpc

/-- what each step does, and when it can be taken -/
inductive Moves (s : Server) : Act → Server → Prop
  | refused (fd sid : Nat) (blocked : Bool) : Moves s (.accept fd sid false blocked) s
  | accept (fd sid : Nat) (blocked : Bool) : s.owner fd = none → s.objects sid = none →
      Moves s (.accept fd sid true blocked) (s.handleTcpConnection fd sid blocked)
  | wait (events : List EpollEvent) : s.batch = [] → (events.map EpollEvent.fd).Nodup →
      (∀ e ∈ events, s.deliverable e = true) → Moves s (.wait events) (s.deliver events)
  | dispatch (e : EpollEvent) (rest : List EpollEvent) (stillPending : Bool) :
      s.batch = e :: rest →
      Moves s (.dispatch stillPending) (Server.dispatch { s with batch := rest } e stillPending)
  | start (t : Task) : t ∈ s.tasks → t.pc = .queued → Moves s (.start t) (s.setPc t .running)
  | login (t : Task) (clientId : String) : t ∈ s.tasks →
      Moves s (.login t clientId) (s.setActive clientId [(clientId, t.session)])
  | ran (t : Task) (continueSession blocked : Bool) : t ∈ s.tasks → t.pc = .running →
      Moves s (.ran t continueSession blocked) (s.ran t continueSession blocked)
  | advance (t : Task) (s' : Server) : t ∈ s.tasks → s.advance t = some s' →
      Moves s (.advance t) s'
  | unregister (clientId : String) : Moves s (.unregister clientId) (s.setActive clientId [])
  | borrow (clientId : String) (sid : Nat) : s.activeSessions.lookup clientId = some sid →
      Moves s (.borrow clientId) { s with borrowed := sid :: s.borrowed }
  | giveBack (sid : Nat) : sid ∈ s.borrowed →
      Moves s (.giveBack sid) (Server.release { s with borrowed := s.borrowed.erase sid } sid)

theorem moves_of_step {s s' : Server} {a : Act} (h : serverStep s a = some s') : Moves s a s' := by
  cases a with
  | accept fd sid added blocked =>
    obtain ⟨hg, h⟩ := Option.ite_none_right_eq_some.mp h
    cases added with
    | false =>
      cases h
      exact .refused fd sid blocked
    | true =>
      cases h
      exact .accept fd sid blocked hg.1 hg.2
  | wait events =>
    obtain ⟨hg, h⟩ := Option.ite_none_right_eq_some.mp h
    cases h
    exact .wait events hg.1 hg.2.2.1 hg.2.2.2
  | dispatch stillPending =>
    simp only [serverStep] at h
    cases hb : s.batch with
    | nil => simp [hb] at h
    | cons e rest =>
      simp only [hb, Option.some.injEq] at h
      rw [← h]
      exact .dispatch e rest stillPending hb
  | start t =>
    obtain ⟨hg, h⟩ := Option.ite_none_right_eq_some.mp h
    cases h
    exact .start t hg.1 hg.2
  | login t clientId =>
    obtain ⟨hg, h⟩ := Option.ite_none_right_eq_some.mp h
    cases h
    exact .login t clientId hg.1
  | ran t continueSession blocked =>
    obtain ⟨hg, h⟩ := Option.ite_none_right_eq_some.mp h
    cases h
    exact .ran t continueSession blocked hg.1 hg.2
  | advance t =>
    obtain ⟨hg, h⟩ := Option.ite_none_right_eq_some.mp h
    exact .advance t s' hg h
  | unregister clientId =>
    cases h
    exact .unregister clientId
  | borrow clientId =>
    obtain ⟨sid, hsid, h⟩ := Option.map_eq_some_iff.mp h
    rw [← h]
    exact .borrow clientId sid hsid
  | giveBack sid =>
    obtain ⟨hg, h⟩ := Option.ite_none_right_eq_some.mp h
    cases h
    exact .giveBack sid hg

end Logistics
