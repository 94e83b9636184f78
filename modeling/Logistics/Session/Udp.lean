import Logistics.Session.ClientSession

/-!
# UdpHandler: what comes in over UDP

A datagram is logged and parsed.  A keepalive names a client; where the registry has a session of
that client, the sender's address becomes the UDP address of the session, and the sender is
answered.  The test for the command stands outside every `try`, as in `processMessage`: on a value
that is not an object, and on a `command` that is not a string, `value` throws.

* `keepaliveTarget`     the session whose address a datagram sets;
* `handleMessage_core`  **a datagram does nothing else to the core**.
-/

namespace Logistics

/-- what `recvfrom` returns: a datagram with the address of its sender, `EAGAIN`, or an error -/
inductive RecvResult where
  | data (address : String) (buffer : Bytes)
  | again
  | error

/-- received bytes as the log shows them, one character a byte -/
def logText (bytes : Bytes) : String := String.ofList (bytes.map fun b => Char.ofNat b.toNat)

def Session.addressed (session : Session) (address : String) : Session :=
  { session with udpAddress := some address }

def setUdpAddress (sid : Nat) (address : String) : M Unit :=
  setSession sid fun me => me.addressed address

def pongMessage : Json :=
  ((Json.null.set "category" (.str "keepalive")).set "status" (.str "success")).set "message"
    (.str "PONG: Server received keepalive from client and connection is active.")

def sendPong (L : Libs) (clientId address : String) : M Unit := do
  let sent ← sendto address (L.dump pongMessage)
  if sent then do
    incrementMessage .udp .tx
    log .info "UdpHandler" ("Sent PONG message to client " ++ clientId) none
  else do
    log .error "UdpHandler" ("Error sending PONG message to client " ++ clientId) none
    incrementError .udp .tx

def handleKeepalive (L : Libs) (request : Json) (address : String) : M Unit :=
  catchJson (do
      let clientId ← json (request.atString "clientId")
      let session ← getSession clientId
      match session with
      | some sid => do
        setUdpAddress sid address
        log .debug "UdpHandler" ("Updated UDP address for client " ++ clientId) none
        sendPong L clientId address
      | none => do
        log .error "UdpHandler"
          ("Couldn't find session for keepalive message from client " ++ clientId) none)
    fun _ => log .warning "UdpHandler" "Malformed keepalive message received." none

def handleDatagram (L : Libs) (address : String) (text : Bytes) : M Unit :=
  match L.parse text with
  | none => log .warning "UdpHandler" "Receiveed invalid JSON via UDP." none
  | some request => do
    let cmd ← json (request.value "command" "unknown")
    if cmd = "keepalive" then handleKeepalive L request address
    else log .warning "UdpHandler" ("Received unknown UDP command: " ++ cmd) none

def handleMessage (L : Libs) : RecvResult → M Unit
  | .again => pure ()
  | .error => do
    log .error "UdpHandler" "UDP recvfrom error" none
    incrementError .udp .rx
  | .data address buffer => do
    log .info "UdpHandler" ("Received UDP message: " ++ logText (cString buffer)) none
    incrementMessage .udp .rx
    handleDatagram L address (cString buffer)

/-! ## the address a datagram sets -/

/-- the client a text names in a keepalive -/
def keepaliveClient (L : Libs) (text : Bytes) : Option String :=
  match L.parse text with
  | none => none
  | some request =>
    match request.value "command" "unknown" with
    | .error _ => none
    | .ok cmd => if cmd = "keepalive" then (request.atString "clientId").toOption else none

theorem keepaliveClient_eq_some_iff {L : Libs} {text : Bytes} {user : String} :
    keepaliveClient L text = some user ↔ ∃ fields, L.parse text = some (.obj fields) ∧
      fields.lookup "command" = some (.str "keepalive") ∧
      fields.lookup "clientId" = some (.str user) := by
  unfold keepaliveClient
  have hnone : ¬ (none : Option String) = some user := (Option.some_ne_none user).symm
  cases L.parse text with
  | none =>
    refine iff_of_false hnone ?_
    rintro ⟨fields, h, -⟩
    cases h
  | some request =>
    cases request with
    | obj fields =>
      simp only [Option.some.injEq, Json.obj.injEq, exists_eq_left', Json.value]
      cases fields.lookup "command" with
      | none =>
        refine iff_of_false hnone ?_
        rintro ⟨h, -⟩
        cases h
      | some command =>
        cases command with
        | str command =>
          simp only [Json.getString, Option.some.injEq, Json.str.injEq]
          by_cases hcommand : command = "keepalive"
          · simp only [hcommand, true_and, Json.atString, Json.atKey]
            cases fields.lookup "clientId" with
            | none => exact iff_of_false hnone (Option.some_ne_none _).symm
            | some id => cases id <;> simp [Json.getString, Except.toOption]
          · simp only [hcommand, false_and]
            exact iff_of_false hnone id
        | _ =>
          refine iff_of_false hnone ?_
          rintro ⟨h, -⟩
          cases h
    | _ =>
      refine iff_of_false hnone ?_
      rintro ⟨fields, h, -⟩
      cases h

def keepaliveTarget (L : Libs) (c : Core) (text : Bytes) : Option Nat :=
  (keepaliveClient L text).bind fun clientId => c.manager.activeSessions[clientId]?

/-- the core after a keepalive of the session, if there is one -/
def Core.addressed (c : Core) (target : Option Nat) (address : String) : Core :=
  match target with
  | none => c
  | some sid => c.withSession sid ((c.sessions sid).addressed address)

theorem sendPong_core (L : Libs) (clientId address : String) (s : St) :
    ((sendPong L clientId address).run s).2.core = s.core := by
  have hkeeps : (sendPong L clientId address).Keeps (onCore Eq) := by
    refine Prog.keeps_bind (sendto_keeps _ _) fun sent => Prog.keeps_ite ?_ ?_
    · exact Prog.keeps_bind (incrementMessage_keeps _ _) fun _ => log_keeps _ _ _ _
    · exact Prog.keeps_bind (log_keeps _ _ _ _) fun _ => incrementError_keeps _ _
  exact (hkeeps s).symm

theorem handleKeepalive_core (L : Libs) (request : Json) (address : String) (s : St) :
    ((handleKeepalive L request address).run s).2.core = s.core.addressed
      ((request.atString "clientId").toOption.bind fun clientId =>
        s.core.manager.activeSessions[clientId]?) address := by
  unfold handleKeepalive
  refine catchJson_core (Q := fun c => c = _) ?_ fun e s' => log_core _ _ _ _ s'
  cases hid : request.atString "clientId" with
  | error e => rfl
  | ok clientId =>
    rw [json_ok_bind, Prog.run_bind]
    show (Prog.run (match s.core.manager.activeSessions[clientId]? with
      | some sid => _
      | none => _) s).2.core = _
    have htarget : ((Except.ok clientId : Except JsonError String).toOption.bind fun clientId =>
        s.core.manager.activeSessions[clientId]?) = s.core.manager.activeSessions[clientId]? := rfl
    rw [htarget]
    cases s.core.manager.activeSessions[clientId]? with
    | none => exact log_core _ _ _ _ s
    | some sid =>
      rw [Prog.run_bind]
      show (Prog.run (log _ _ _ _ >>= fun _ => sendPong L clientId address) _).2.core = _
      refine bind_core (Q := fun c => c = _) ?_ fun _ s' => sendPong_core L clientId address s'
      exact log_core _ _ _ _ _

theorem handleDatagram_core (L : Libs) (address : String) (text : Bytes) (s : St) :
    ((handleDatagram L address text).run s).2.core =
      s.core.addressed (keepaliveTarget L s.core text) address := by
  unfold handleDatagram keepaliveTarget keepaliveClient
  cases L.parse text with
  | none => exact log_core _ _ _ _ s
  | some request =>
    dsimp only
    cases request.value "command" "unknown" with
    | error e => rfl
    | ok cmd =>
      rw [json_ok_bind]
      by_cases hcmd : cmd = "keepalive"
      · simp only [if_pos hcmd]
        exact handleKeepalive_core L request address s
      · simp only [if_neg hcmd]
        exact log_core _ _ _ _ s

/-- **A datagram sets the address of the session it names and changes nothing else.** -/
theorem handleMessage_core (L : Libs) (input : RecvResult) (s : St) :
    ((handleMessage L input).run s).2.core =
      match input with
      | .data address buffer =>
        s.core.addressed (keepaliveTarget L s.core (cString buffer)) address
      | _ => s.core := by
  cases input with
  | again => rfl
  | error =>
    refine bind_core (Q := fun c => c = s.core) (log_core _ _ _ _ s) ?_
    intro _ s'
    exact incrementError_core _ _ s'
  | data address buffer =>
    show (Prog.run (log _ _ _ _ >>= _) s).2.core = _
    rw [Prog.run_bind, run_log]
    show (Prog.run (incrementMessage .udp .rx >>= _) _).2.core = _
    rw [Prog.run_bind]
    show ((handleDatagram L address (cString buffer)).run _).2.core = _
    rw [handleDatagram_core]
    show (St.core (s.logged _ _ _ _)).addressed (keepaliveTarget L (s.logged _ _ _ _).core _) _ = _
    rw [St.logged_core]

end Logistics
