import Logistics.Session.Handlers

/-!
# IpcHandler: alerts over the UNIX socket

A sensor connects, sends one alert and closes.  The main thread accepts the connection, makes the
descriptor non-blocking and queues `handleConnection` for it; the descriptor is never registered
with epoll, and `handleConnection` reads once.  Connections are numbered; for each of them
`Ipc.conns` has both ends, `passed` the texts that were given to `processAlert` and `closes` how
often the descriptor was closed.

The worker's `read` is a step, and what it does with the result is another: the sensor, the main
thread and the other workers come in between.  A read that finds the connection empty returns
`EAGAIN` while the sensor has it open, and the end of file afterwards.  A throw of `processAlert`
ends the run.

* `handleConnection`       the handler after its `read`;
* `Advance`                what a step does to the connection it is about;
* `Conn.Once`              the alert was processed, and the descriptor closed, once;
* `alerts_once_iff`        **every connection is so exactly if no handler reads before the alert**;
* `early_read_drops_alert` the run in which one does.
-/

namespace Logistics
open Runs

/-- what a handler has done: the text it gave to `processAlert`, whether it closed the descriptor,
and its result -/
structure Handled where
  passed : Option Bytes
  closed : Bool
  result : Bool

/-- `IpcHandler::handleConnection` after its `read` -/
def handleConnection (L : Libs) (cfg : Config) : ReadResult → M Handled
  | .again => do
    log .debug "IpcHandler" "No data available on IPC socket" none
    pure ⟨none, false, true⟩
  | .error => do
    log .error "IpcHandler" "IPC read error" none
    incrementError .ipc .rx
    pure ⟨none, true, false⟩
  | .closed => pure ⟨none, true, false⟩
  | .data alertMessage => do
    processAlert L cfg alertMessage
    log .info "IpcHandler" "UNIX message processed successfully" none
    incrementMessage .ipc .rx
    pure ⟨some alertMessage, true, true⟩

/-- `Server::handleUNIXConnection` after its `accept`; the descriptor goes to a task -/
def handleUNIXConnection : Bool → M Unit
  | false => log .error "Server" "Error while trying to accept." none
  | true => log .info "Server" "IPC connection established." none

/-! ## connections -/

/-- what a sensor sends in one piece: it fits into the buffer of `handleConnection` -/
structure Alert where
  bytes : Bytes
  nonempty : bytes ≠ []
  fits : bytes.length ≤ BUFFER_SIZE - 1

inductive Sensor where
  | idle
  | connected
  | closed
  deriving DecidableEq

/-- the task of a connection: not accepted yet, queued, past its `read`, or returned -/
inductive IpcTask where
  | absent
  | queued
  | read (result : ReadResult)
  | returned

structure Conn where
  sensor : Sensor
  alert : Option Alert
  /-- sent and not yet read -/
  inbox : Bytes
  task : IpcTask
  passed : List Bytes
  closes : Nat

def Conn.fresh : Conn := ⟨.idle, none, [], .absent, [], 0⟩

/-- what the kernel answers to the `read` of the handler -/
def Conn.readResult (c : Conn) : ReadResult :=
  if c.inbox ≠ [] then .data (c.inbox.take (BUFFER_SIZE - 1))
  else if c.sensor = .closed then .closed
  else .again

def Conn.handled (c : Conn) (h : Handled) : Conn :=
  { c with
    task := .returned
    passed := c.passed ++ h.passed.toList
    closes := c.closes + h.closed.toNat }

structure Ipc where
  world : World
  conns : Nat → Conn

def Ipc.start (w : World) : Ipc := ⟨w, fun _ => .fresh⟩

inductive IpcAct where
  | connect (id : Nat)
  | send (id : Nat) (alert : Alert)
  | hangUp (id : Nat)
  | accept (id : Nat) (env : Nat → Answer)
  | read (id : Nat)
  | finish (id : Nat) (env : Nat → Answer)

def Ipc.setConn (s : Ipc) (id : Nat) (c : Conn) : Ipc :=
  { s with conns := Function.update s.conns id c }

def ipcStep (L : Libs) (cfg : Config) (s : Ipc) : IpcAct → Option Ipc
  | .connect id =>
    if (s.conns id).sensor = .idle then
      some (s.setConn id { s.conns id with sensor := .connected })
    else none
  | .send id alert =>
    match (s.conns id).sensor, (s.conns id).alert with
    | .connected, none =>
      some (s.setConn id { s.conns id with alert := some alert, inbox := alert.bytes })
    | _, _ => none
  | .hangUp id =>
    if (s.conns id).sensor = .connected then
      some (s.setConn id { s.conns id with sensor := .closed })
    else none
  | .accept id env =>
    match (s.conns id).sensor, (s.conns id).task with
    | .idle, _ => none
    | _, .absent =>
      some (Ipc.setConn ⟨((handleUNIXConnection true).run (s.world.facing env)).2.world, s.conns⟩ id
        { s.conns id with task := .queued })
    | _, _ => none
  | .read id =>
    match (s.conns id).task with
    | .queued => some (s.setConn id { s.conns id with
        task := .read (s.conns id).readResult
        inbox := (s.conns id).inbox.drop (BUFFER_SIZE - 1) })
    | _ => none
  | .finish id env =>
    match (s.conns id).task with
    | .read result =>
      match (handleConnection L cfg result).run (s.world.facing env) with
      | (.ok h, st) => some (Ipc.setConn ⟨st.world, s.conns⟩ id ((s.conns id).handled h))
      | (.error _, _) => none
    | _ => none

/-! ## what a step does to its connection -/

/-- what a handler that returns has done, by the result of its `read` -/
def ReadResult.handled : ReadResult → Handled
  | .again => ⟨none, false, true⟩
  | .error => ⟨none, true, false⟩
  | .closed => ⟨none, true, false⟩
  | .data text => ⟨some text, true, true⟩

theorem handleConnection_ok {L : Libs} {cfg : Config} {r : ReadResult} {s s' : St} {h : Handled}
    (hrun : (handleConnection L cfg r).run s = (.ok h, s')) : h = r.handled := by
  unfold handleConnection at hrun
  cases r with
  | again =>
    obtain ⟨_, s₁, -, hpure⟩ := Prog.run_bind_eq_ok.mp hrun
    cases hpure
    rfl
  | error =>
    obtain ⟨_, s₁, -, hrest⟩ := Prog.run_bind_eq_ok.mp hrun
    obtain ⟨_, s₂, -, hpure⟩ := Prog.run_bind_eq_ok.mp hrest
    cases hpure
    rfl
  | closed =>
    cases hrun
    rfl
  | data text =>
    obtain ⟨_, s₁, -, hrest⟩ := Prog.run_bind_eq_ok.mp hrun
    obtain ⟨_, s₂, -, hrest⟩ := Prog.run_bind_eq_ok.mp hrest
    obtain ⟨_, s₃, -, hpure⟩ := Prog.run_bind_eq_ok.mp hrest
    cases hpure
    rfl

/-- the steps of one connection -/
inductive Advance (c : Conn) : IpcAct → Conn → Prop
  | connect {id : Nat} (hidle : c.sensor = .idle) :
      Advance c (.connect id) { c with sensor := .connected }
  | send {id : Nat} {alert : Alert} (hopen : c.sensor = .connected) (hfirst : c.alert = none) :
      Advance c (.send id alert) { c with alert := some alert, inbox := alert.bytes }
  | hangUp {id : Nat} (hopen : c.sensor = .connected) :
      Advance c (.hangUp id) { c with sensor := .closed }
  | accept {id : Nat} {env : Nat → Answer} (hnew : c.task = .absent) :
      Advance c (.accept id env) { c with task := .queued }
  | read {id : Nat} (hqueued : c.task = .queued) :
      Advance c (.read id) { c with
        task := .read c.readResult
        inbox := c.inbox.drop (BUFFER_SIZE - 1) }
  | finish {id : Nat} {env : Nat → Answer} {result : ReadResult} (hread : c.task = .read result) :
      Advance c (.finish id env) (c.handled result.handled)

def IpcAct.id : IpcAct → Nat
  | .connect id | .send id _ | .hangUp id | .accept id _ | .read id | .finish id _ => id

/-- **A step is a step of the connection it is about.** -/
theorem advance_of_step {L : Libs} {cfg : Config} {s s' : Ipc} {a : IpcAct}
    (h : ipcStep L cfg s a = some s') :
    ∃ c', Advance (s.conns a.id) a c' ∧ s'.conns = Function.update s.conns a.id c' := by
  cases a with
  | connect id =>
    simp only [ipcStep] at h
    split at h
    · cases h
      exact ⟨_, .connect ‹_›, rfl⟩
    · cases h
  | send id alert =>
    simp only [ipcStep] at h
    split at h
    · cases h
      exact ⟨_, .send ‹_› ‹_›, rfl⟩
    · cases h
  | hangUp id =>
    simp only [ipcStep] at h
    split at h
    · cases h
      exact ⟨_, .hangUp ‹_›, rfl⟩
    · cases h
  | accept id env =>
    simp only [ipcStep] at h
    split at h
    · cases h
    · cases h
      exact ⟨_, .accept ‹_›, rfl⟩
    · cases h
  | read id =>
    simp only [ipcStep] at h
    split at h
    · cases h
      exact ⟨_, .read ‹_›, rfl⟩
    · cases h
  | finish id env =>
    simp only [ipcStep] at h
    split at h
    · rename_i result hread
      split at h
      · rename_i handled st hrun
        cases h
        rw [handleConnection_ok hrun]
        exact ⟨_, .finish hread, rfl⟩
      · cases h
    · cases h

/-! ## every alert once -/

/-- the texts the sensor has sent -/
def Conn.sent (c : Conn) : List Bytes := c.alert.toList.map Alert.bytes

/-- before the handler returns nothing is processed or closed; once it has, the alert has been
processed exactly once and the descriptor closed exactly once -/
def Conn.Once (c : Conn) : Prop :=
  match c.task with
  | .returned => c.passed = c.sent ∧ c.closes = 1
  | _ => c.passed = [] ∧ c.closes = 0

/-- both ends of a connection fit together -/
def Conn.Sound (c : Conn) : Prop :=
  match c.task with
  | .absent | .queued => c.closes = 0 ∧ c.inbox = c.sent.flatten
  | .read (.data text) => c.sent = [text]
  | .read .closed => c.sensor = .closed ∧ c.sent = []
  | .read .again => c.closes = 0
  | .read .error => False
  | .returned => c.closes = 1 → c.alert = none → c.sensor = .closed

/-- the handler is about to return from a read that found nothing while the sensor was there -/
def GivesUp (s : Ipc) : IpcAct → Prop
  | .finish id _ => (s.conns id).task = .read .again
  | _ => False

theorem Conn.sent_of_none {c : Conn} (h : c.alert = none) : c.sent = [] := by
  unfold Conn.sent
  rw [h]
  rfl

theorem Conn.sent_of_some {c : Conn} {alert : Alert} (h : c.alert = some alert) :
    c.sent = [alert.bytes] := by
  unfold Conn.sent
  rw [h]
  rfl

/-- the read gets the whole alert, or the end of a connection on which none was sent, or nothing -/
theorem Conn.readResult_cases {c : Conn} (hinbox : c.inbox = c.sent.flatten) :
    (∃ text, c.readResult = .data text ∧ c.sent = [text]) ∨
      (c.readResult = .closed ∧ c.sensor = .closed ∧ c.sent = []) ∨ c.readResult = .again := by
  unfold Conn.readResult
  rw [hinbox]
  cases ha : c.alert with
  | some alert =>
    refine .inl ⟨alert.bytes, ?_, Conn.sent_of_some ha⟩
    rw [Conn.sent_of_some ha, List.flatten_singleton, if_pos alert.nonempty,
      List.take_of_length_le alert.fits]
  | none =>
    rw [Conn.sent_of_none ha, List.flatten_nil, if_neg (not_not.mpr rfl)]
    by_cases hclosed : c.sensor = .closed
    · rw [if_pos hclosed]
      exact .inr (.inl ⟨rfl, hclosed, rfl⟩)
    · rw [if_neg hclosed]
      exact .inr (.inr rfl)

theorem Conn.Sound.read {c : Conn} (h : c.Sound) (hqueued : c.task = .queued) (inbox : Bytes) :
    Conn.Sound { c with task := .read c.readResult, inbox := inbox } := by
  unfold Conn.Sound at h
  rw [hqueued] at h
  obtain ⟨hcloses, hinbox⟩ := h
  rcases Conn.readResult_cases hinbox with ⟨text, hread, hsent⟩ | ⟨hread, hclosed, hsent⟩ | hread
  · rw [hread]
    exact hsent
  · rw [hread]
    exact ⟨hclosed, hsent⟩
  · rw [hread]
    exact hcloses

theorem Conn.Sound.advance {c c' : Conn} {a : IpcAct} (h : c.Sound) (hstep : Advance c a c') :
    c'.Sound := by
  cases hstep with
  | connect hidle =>
    unfold Conn.Sound at h ⊢
    dsimp only
    split <;> simp_all [Conn.sent]
  | send hopen hfirst =>
    unfold Conn.Sound at h ⊢
    dsimp only
    split <;> simp_all [Conn.sent]
  | hangUp hopen =>
    unfold Conn.Sound at h ⊢
    dsimp only
    split <;> simp_all [Conn.sent]
  | accept hnew =>
    unfold Conn.Sound at h ⊢
    rw [hnew] at h
    exact h
  | read hqueued => exact h.read hqueued _
  | @finish _ _ result hread =>
    unfold Conn.Sound at h
    rw [hread] at h
    show _ → _
    cases result with
    | data text =>
      intro _ hnone
      have hsent : c.sent = [text] := h
      have hempty : c.sent = [] := Conn.sent_of_none hnone
      rw [hempty] at hsent
      cases hsent
    | closed => exact fun _ _ => h.1
    | again =>
      intro hone
      have hzero : c.closes + 0 = 1 := hone
      rw [h] at hzero
      cases hzero
    | error => cases h

theorem once_advance_iff {s : Ipc} {c' : Conn} {a : IpcAct} (h : (s.conns a.id).Sound)
    (honce : (s.conns a.id).Once) (hstep : Advance (s.conns a.id) a c') :
    c'.Once ↔ ¬ GivesUp s a := by
  generalize hc : s.conns a.id = c at h honce hstep
  cases hstep with
  | connect hidle =>
    refine iff_of_true ?_ not_false
    unfold Conn.Once at honce ⊢
    exact honce
  | send hopen hfirst =>
    refine iff_of_true ?_ not_false
    unfold Conn.Once at honce ⊢
    dsimp only
    split
    · rename_i hreturned
      -- a sensor that has not sent has closed by then
      unfold Conn.Sound at h
      simp only [hreturned] at h honce
      rw [h honce.2 hfirst] at hopen
      cases hopen
    · rename_i hpending
      split at honce
      · rename_i hreturned
        exact absurd hreturned hpending
      · exact honce
  | hangUp hopen =>
    refine iff_of_true ?_ not_false
    unfold Conn.Once at honce ⊢
    exact honce
  | accept hnew =>
    refine iff_of_true ?_ not_false
    unfold Conn.Once at honce ⊢
    rw [hnew] at honce
    exact honce
  | read hqueued =>
    refine iff_of_true ?_ not_false
    unfold Conn.Once at honce ⊢
    rw [hqueued] at honce
    exact honce
  | @finish id env result hread =>
    have hgives : GivesUp s (.finish id env) ↔ IpcTask.read result = .read .again := by
      show (s.conns id).task = _ ↔ _
      have hid : s.conns id = c := hc
      rw [hid, hread]
    rw [hgives]
    unfold Conn.Once at honce ⊢
    unfold Conn.Sound at h
    simp only [hread] at h honce
    obtain ⟨hpassed, hcloses⟩ := honce
    show (c.passed ++ result.handled.passed.toList = c.sent ∧
      c.closes + result.handled.closed.toNat = 1) ↔ _
    rw [hpassed, hcloses]
    cases result with
    | data text => exact iff_of_true ⟨h.symm, rfl⟩ nofun
    | closed => exact iff_of_true ⟨h.2.symm, rfl⟩ nofun
    | again => exact iff_of_false (fun hone => nomatch hone.2) fun hne => hne rfl
    | error => cases h

/-! ## whole runs -/

def Ipc.Sound (s : Ipc) : Prop := ∀ id, (s.conns id).Sound

def Ipc.Once (s : Ipc) : Prop := ∀ id, (s.conns id).Once

theorem ipc_sound_step {L : Libs} {cfg : Config} {s s' : Ipc} {a : IpcAct} (h : s.Sound)
    (hstep : ipcStep L cfg s a = some s') : s'.Sound := by
  obtain ⟨c', hadvance, hconns⟩ := advance_of_step hstep
  intro id
  rw [hconns]
  by_cases hid : id = a.id
  · rw [hid, Function.update_self]
    exact (h a.id).advance hadvance
  · rw [Function.update_of_ne hid]
    exact h id

theorem ipc_once_step_iff {L : Libs} {cfg : Config} {s s' : Ipc} {a : IpcAct} (h : s.Sound)
    (honce : s.Once) (hstep : ipcStep L cfg s a = some s') : s'.Once ↔ ¬ GivesUp s a := by
  obtain ⟨c', hadvance, hconns⟩ := advance_of_step hstep
  rw [← once_advance_iff (h a.id) (honce a.id) hadvance]
  unfold Ipc.Once
  rw [hconns]
  constructor
  · intro hall
    have hnow := hall a.id
    rwa [Function.update_self] at hnow
  · intro hnow id
    by_cases hid : id = a.id
    · rw [hid, Function.update_self]
      exact hnow
    · rw [Function.update_of_ne hid]
      exact honce id

theorem givesUp_enabled (L : Libs) (cfg : Config) {s : Ipc} {a : IpcAct} (h : GivesUp s a) :
    ∃ s', ipcStep L cfg s a = some s' := by
  cases a with
  | finish id env =>
    have hread : (s.conns id).task = .read .again := h
    unfold ipcStep
    simp only [hread, handleConnection, Prog.run_bind, run_log]
    exact ⟨_, rfl⟩
  | _ => cases h

/-- **Every handler that has returned has processed the alert of its connection exactly once and
closed the descriptor exactly once, all along the run, exactly if no handler returns from a read
that came before the alert.** -/
theorem alerts_once_iff (L : Libs) (cfg : Config) (w : World) (acts : List IpcAct) :
    Always (ipcStep L cfg) (.start w) acts Ipc.Once ↔
      ¬ Occurred (ipcStep L cfg) (.start w) acts GivesUp :=
  always_iff_not_occurred (I := Ipc.Sound) (G := fun _ => True) (fun _ _ => trivial)
    (fun _ => ⟨rfl, rfl⟩) (fun _ _ _ h hstep => ipc_sound_step h hstep) (fun _ => ⟨rfl, rfl⟩)
    (fun _ _ h => givesUp_enabled L cfg h) fun _ _ _ h honce _ hstep => ipc_once_step_iff h honce hstep

/-- an accepted connection can be served, where its lock does not fail in the database -/
theorem queued_can_return (L : Libs) (cfg : Config) {s : Ipc} {id : Nat} {env : Nat → Answer}
    (hqueued : (s.conns id).task = .queued)
    (hlock : ∀ text, (s.conns id).readResult = .data text →
      ¬ LockFails L text (s.world.facing env)) :
    ∃ s', runFrom (ipcStep L cfg) s [.read id, .finish id env] = some s' ∧
      (s'.conns id).task = .returned := by
  have hread : ipcStep L cfg s (.read id) = some (s.setConn id { s.conns id with
      task := .read (s.conns id).readResult
      inbox := (s.conns id).inbox.drop (BUFFER_SIZE - 1) }) := by
    unfold ipcStep
    simp only [hqueued]
  have hreturns : ∃ h st, (handleConnection L cfg (s.conns id).readResult).run
      (s.world.facing env) = (.ok h, st) := by
    cases hresult : (s.conns id).readResult with
    | again => exact Prog.returns_bind (log_returns _ _ _ _ _) fun _ s₁ => Prog.returns_pure _ s₁
    | error =>
      refine Prog.returns_bind (log_returns _ _ _ _ _) fun _ s₁ => ?_
      exact Prog.returns_bind (incrementError_returns _ _ s₁) fun _ s₂ => Prog.returns_pure _ s₂
    | closed => exact Prog.returns_pure _ _
    | data text =>
      have halert := (processAlert_returns_iff L cfg text _).mpr (hlock text hresult)
      refine Prog.returns_bind halert fun _ s₁ => ?_
      refine Prog.returns_bind (log_returns _ _ _ _ s₁) fun _ s₂ => ?_
      exact Prog.returns_bind (incrementMessage_returns _ _ s₂) fun _ s₃ => Prog.returns_pure _ s₃
  obtain ⟨h, st, hrun⟩ := hreturns
  rw [runFrom_cons, hread]
  simp only [Option.bind_some, runFrom_cons, ipcStep, Ipc.setConn, Function.update_self, hrun,
    runFrom_nil]
  refine ⟨_, rfl, ?_⟩
  simp only [Function.update_self, Conn.handled]

/-! A worker is faster than the sensor: it reads between the `connect` and the `send`. -/

def infectionAlert : Alert := ⟨bytesOf aliceInfection.render, by decide, by decide⟩

def quietWorld : World := ⟨.boot aliceUsers .empty fun _ => "10.0.0.1", .empty⟩

def earlyRead : List IpcAct :=
  [.connect 0, .accept 0 healthy, .read 0, .finish 0 healthy, .send 0 infectionAlert, .hangUp 0]

theorem earlyRead_isSome :
    (runFrom (ipcStep (.known [aliceInfection]) .sample) (.start quietWorld) earlyRead).isSome := rfl

def deafIpc : Ipc :=
  (runFrom (ipcStep (.known [aliceInfection]) .sample) (.start quietWorld) earlyRead).get
    earlyRead_isSome

theorem early_read_drops_alert :
    runFrom (ipcStep (.known [aliceInfection]) .sample) (.start quietWorld) earlyRead =
        some deafIpc ∧
      (deafIpc.conns 0).sent = [bytesOf aliceInfection.render] ∧
      (deafIpc.conns 0).passed = [] ∧ (deafIpc.conns 0).closes = 0 ∧ ¬ deafIpc.Once := by
  have hcloses : (deafIpc.conns 0).closes = 0 := rfl
  refine ⟨(Option.some_get earlyRead_isSome).symm, rfl, rfl, hcloses, ?_⟩
  intro h
  have honce : (deafIpc.conns 0).passed = (deafIpc.conns 0).sent ∧ (deafIpc.conns 0).closes = 1 :=
    h 0
  rw [hcloses] at honce
  cases honce.2

end Logistics
