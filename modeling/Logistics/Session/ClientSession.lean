import Logistics.Session.System

/-!
# clientSession: reading, answering, and the queue of blocked messages

`run` handles what one `read` returns: the text up to the first NUL goes to `processMessage`, the
reply is written at once or, where the socket would block, queued; then an event queued for the
client is sent over UDP.  `sendWelcomeMessage` is the first write of a connection, and
`trySendPendingMessage` the flush of the head of the queue.

* `Session.sent`, `Session.queued`     what a write and a blocked write do to a session;
* `SameOutput`                         nothing is written or queued for any session;
* `run_data_cases`, `sendWelcomeMessage_output`, `trySendPendingMessage_output`
                                       **the three calls, as far as the output is concerned**.
-/

namespace Logistics

def BUFFER_SIZE : Nat := 256

/-- what `read` returns: bytes, the end of the stream, `EAGAIN`, or another error -/
inductive ReadResult where
  | data (chunk : Bytes)
  | closed
  | again
  | error

/-- `string(buffer.data())` -/
def cString (buffer : Bytes) : Bytes := buffer.takeWhile (· ≠ 0)

def Session.sent (session : Session) (bytes : Bytes) : Session :=
  { session with wire := session.wire ++ bytes }

def Session.queued (session : Session) (message : Bytes) : Session :=
  { session with pendingMessages := session.pendingMessages ++ [message] }

/-- `write(m_clientSocket, ..)` on the non-blocking socket -/
def writeSocket (sid : Nat) (message : Bytes) : M Written := do
  let answer ← ask
  match answer.written with
  | .all => do
    setSession sid fun me => me.sent message
    pure .all
  | .part n => do
    setSession sid fun me => me.sent (message.take (n + 1))
    pure (.part n)
  | .again => pure .again
  | .error => pure .error

/-- `if (!m_clientID.empty()) m_sessionManager.unregisterSession(m_clientID)` -/
def unregister (sid : Nat) : M Unit := do
  let s ← Prog.get
  if (s.core.sessions sid).clientID ≠ "" then unregisterSession (s.core.sessions sid).clientID
  else pure ()

/-- the UDP address of the session, after the pause where it has none yet: meanwhile another thread
may handle a keepalive, which reaches the session through the registry -/
def awaitAddress (sid : Nat) : M (Option String) := do
  let s ← Prog.get
  let me := s.core.sessions sid
  match me.udpAddress with
  | some address => pure (some address)
  | none => do
    let pause ← ask
    if s.core.manager.activeSessions[me.clientID]? = some sid then do
      setSession sid fun me => { me with udpAddress := pause.keepalive }
      pure pause.keepalive
    else pure none

/-- the loop returns after the first event -/
def handleEventQueue (sid : Nat) : M Bool := do
  let s ← Prog.get
  let me := s.core.sessions sid
  let event ← popEvent me.clientID
  match event with
  | none => pure true
  | some event => do
    let udpAddress ← awaitAddress sid
    match udpAddress with
    | some address => do
      sendMessageToClient me.clientID event.message address
      pure true
    | none => do
      log .error "ClientSession" ("UDP address not set for client " ++ me.clientID ++
        ". Cannot send event \"NOTIFICATION\".") none
      pure false

def sendEvents (sid : Nat) : M Unit := do
  let s ← Prog.get
  let me := s.core.sessions sid
  if me.isAuthenticated then do
    let sent ← handleEventQueue sid
    if sent then pure ()
    else log .error "ClientSession" ("Failed to send event to client " ++ me.clientID ++
      " from IP: " ++ me.clientIP ++ ".") none
  else pure ()

/-- the rest of `run` after the reply was written or queued -/
def afterReply (sid : Nat) (keep : Bool) : M Bool := do
  sendEvents sid
  if keep then pure true
  else do
    let s ← Prog.get
    let me := s.core.sessions sid
    log .info "ClientSession" ("Closing connection with client: " ++ me.clientID ++ " from IP: " ++
      me.clientIP) none
    unregister sid
    pure false

def answer (sid : Nat) (result : ProcessResult) : M Bool := do
  let written ← writeSocket sid (bytesOf result.1.text)
  match written with
  | .error => do
    let s ← Prog.get
    incrementError .tcp .tx
    log .error "ClientSession" ("Error writing to client socket from IP: " ++
      (s.core.sessions sid).clientIP) none
    unregister sid
    pure false
  | .again => do
    setSession sid fun me => me.queued (bytesOf result.1.text)
    afterReply sid result.2
  | _ => afterReply sid result.2

def run (L : Libs) (cfg : Config) (sid : Nat) (input : ReadResult) : M Bool := do
  let s ← Prog.get
  let me := s.core.sessions sid
  match input with
  | .again => pure true
  | .error => do
    log .error "ClientSession" ("Error reading from client socket from IP: " ++ me.clientIP ++
      ". Closing session.") none
    pure false
  | .closed => do
    log .warning "ClientSession" ("Client connection from IP: " ++ me.clientIP ++
      "has been disconnected.") none
    unregister sid
    pure false
  | .data chunk => do
    let result ← processMessage L cfg sid (cString chunk)
    answer sid result

def welcomeMessage : Bytes := bytesOf
  "Welcome to the C++ Server! Please login to start operating or type 'end' to disconnect.\n"

def sendWelcomeMessage (sid : Nat) : M Bool := do
  let written ← writeSocket sid welcomeMessage
  match written with
  | .error => do
    let s ← Prog.get
    incrementError .tcp .tx
    log .error "ClientSession" ("Error writing to client socket from IP: " ++
      (s.core.sessions sid).clientIP) none
    pure false
  | .again => do
    setSession sid fun me => me.queued welcomeMessage
    pure true
  | _ => pure true

/-- the queue after `n` bytes of its head went out.  The source reads the rest of a partly sent
message through a reference into the queue that `pop_front` has left dangling, and puts it in place
of the message after it: what stands there then (`freed`) may be any bytes.  If there is no other
message nothing is put anywhere that counts. -/
def popSent (freed : Bytes) (n : Nat) : List Bytes → List Bytes
  | [] => []
  | message :: rest =>
    if n < message.length then
      match rest with
      | [] => []
      | _ :: later => freed :: later
    else rest

def trySendPendingMessage (freed : Bytes) (sid : Nat) : M Bool := do
  let s ← Prog.get
  match (s.core.sessions sid).pendingMessages with
  | [] => pure false
  | message :: _ => do
    let written ← writeSocket sid message
    match written with
    | .again => pure true
    | .error => do
      incrementError .tcp .tx
      log .error "ClientSession" ("Error writing pending message to client socket from IP: " ++
        (s.core.sessions sid).clientIP) none
      pure false
    | .all => do
      setSession sid fun me =>
        { me with pendingMessages := popSent freed message.length me.pendingMessages }
      pure true
    | .part n => do
      setSession sid fun me => { me with pendingMessages := popSent freed (n + 1) me.pendingMessages }
      pure true

/-! ## what is not output -/

/-- for each session what its socket took and what is queued -/
def Core.output (c : Core) (sid : Nat) : Bytes × List Bytes :=
  ((c.sessions sid).wire, (c.sessions sid).pendingMessages)

def SameOutput (c c' : Core) : Prop := c'.output = c.output

instance : IsPreorder Core SameOutput where
  refl _ := rfl
  trans _ _ _ h h' := h'.trans h

theorem sameOutput_of_sessions {c c' : Core} (h : c'.sessions = c.sessions) : SameOutput c c' := by
  funext sid
  unfold Core.output
  rw [h]

theorem output_withSession (c : Core) (sid : Nat) (session : Session) :
    (c.withSession sid session).output =
      Function.update c.output sid (session.wire, session.pendingMessages) := by
  funext sid'
  unfold Core.output Core.withSession
  dsimp only
  by_cases h : sid' = sid
  · rw [h, Function.update_self, Function.update_self]
  · rw [Function.update_of_ne h, Function.update_of_ne h]

/-- a session's members other than its output are written -/
theorem sameOutput_loggedIn (c : Core) (sid : Nat) (user : String) :
    SameOutput c (c.withSession sid ((c.sessions sid).loggedIn user)) := by
  unfold SameOutput
  rw [output_withSession]
  exact Function.update_eq_self ..

theorem processMessage_output (L : Libs) (cfg : Config) (sid : Nat) (text : Bytes) :
    (processMessage L cfg sid text).Keeps (onCore SameOutput) := by
  intro s
  have hafter := stepped_after L cfg s.world ⟨.message sid text, s.env⟩
  rw [after_message rfl] at hafter
  show SameOutput s.core ((processMessage L cfg sid text).run s).2.core
  rcases hafter.sessions with ⟨hsame, -⟩ | ⟨sid', user, row, -, -, -, hsessions⟩
  · exact sameOutput_of_sessions hsame
  · have hlogged := sameOutput_loggedIn s.core sid' user
    refine trans_of SameOutput hlogged (sameOutput_of_sessions ?_)
    exact hsessions

theorem unregister_output (sid : Nat) : (unregister sid).Keeps (onCore SameOutput) := by
  intro s
  unfold unregister
  rw [Prog.run_bind, Prog.run_get]
  dsimp only
  rw [Prog.run_ite]
  split
  · exact sameOutput_of_sessions rfl
  · exact refl_of SameOutput s.core

theorem sendMessageToClient_keeps {R : Core → Core → Prop} [IsPreorder Core R]
    (clientID message address : String) :
    (sendMessageToClient clientID message address).Keeps (onCore R) := by
  refine Prog.keeps_bind (sendto_keeps _ _) fun sent => Prog.keeps_ite ?_ ?_
  · exact Prog.keeps_bind (incrementMessage_keeps _ _) fun _ => log_keeps _ _ _ _
  · exact Prog.keeps_bind (log_keeps _ _ _ _) fun _ => incrementError_keeps _ _

/-- a keepalive writes no output -/
theorem sameOutput_addressed (c : Core) (sid : Nat) (address : Option String) :
    SameOutput c (c.withSession sid { c.sessions sid with udpAddress := address }) := by
  unfold SameOutput
  rw [output_withSession]
  exact Function.update_eq_self ..

/-- the pause does at most what a keepalive does -/
theorem awaitAddress_keeps {R : Core → Core → Prop} [IsPreorder Core R] (sid : Nat)
    (hset : ∀ address : Option String,
      (setSession sid fun me => { me with udpAddress := address }).Keeps (onCore R)) :
    (awaitAddress sid).Keeps (onCore R) := by
  refine Prog.keeps_bind Prog.keeps_get fun s => ?_
  dsimp only
  cases (s.core.sessions sid).udpAddress with
  | some address => exact Prog.keeps_pure _
  | none =>
    refine Prog.keeps_bind ask_keeps fun pause => Prog.keeps_ite ?_ (Prog.keeps_pure _)
    exact Prog.keeps_bind (hset _) fun _ => Prog.keeps_pure _

/-- what bears an event taken out and an address set bears what `sendEvents` does -/
theorem sendEvents_keeps {R : Core → Core → Prop} [IsPreorder Core R] (sid : Nat)
    (hpop : ∀ c c', QueuesOnly c c' → R c c')
    (hset : ∀ address : Option String,
      (setSession sid fun me => { me with udpAddress := address }).Keeps (onCore R)) :
    (sendEvents sid).Keeps (onCore R) := by
  refine Prog.keeps_bind Prog.keeps_get fun s => Prog.keeps_ite ?_ (Prog.keeps_pure _)
  refine Prog.keeps_bind ?_ fun sent => Prog.keeps_ite (Prog.keeps_pure _) (log_keeps _ _ _ _)
  refine Prog.keeps_bind Prog.keeps_get fun s => ?_
  refine Prog.keeps_bind (fun s' => hpop _ _ (popEvent_queues _ s')) fun event => ?_
  cases event with
  | none => exact Prog.keeps_pure _
  | some event =>
    refine Prog.keeps_bind (awaitAddress_keeps sid hset) fun udpAddress => ?_
    cases udpAddress with
    | some address =>
      exact Prog.keeps_bind (sendMessageToClient_keeps _ _ _) fun _ => Prog.keeps_pure _
    | none => exact Prog.keeps_bind (log_keeps _ _ _ _) fun _ => Prog.keeps_pure _

theorem afterReply_keeps {R : Core → Core → Prop} [IsPreorder Core R] {sid : Nat}
    (hevents : (sendEvents sid).Keeps (onCore R)) (hunregister : (unregister sid).Keeps (onCore R))
    (keep : Bool) : (afterReply sid keep).Keeps (onCore R) := by
  refine Prog.keeps_bind hevents fun _ => Prog.keeps_ite (Prog.keeps_pure _) ?_
  exact Prog.keeps_bind Prog.keeps_get fun s => Prog.keeps_bind (log_keeps _ _ _ _) fun _ =>
    Prog.keeps_bind hunregister fun _ => Prog.keeps_pure _

theorem writeSocket_keeps {R : Core → Core → Prop} [IsPreorder Core R] {sid : Nat}
    (hset : ∀ bytes, (setSession sid fun me => me.sent bytes).Keeps (onCore R)) (message : Bytes) :
    (writeSocket sid message).Keeps (onCore R) := by
  refine Prog.keeps_bind ask_keeps fun answer => ?_
  cases answer.written with
  | all => exact Prog.keeps_bind (hset _) fun _ => Prog.keeps_pure _
  | part n => exact Prog.keeps_bind (hset _) fun _ => Prog.keeps_pure _
  | again => exact Prog.keeps_pure _
  | error => exact Prog.keeps_pure _

theorem afterReply_output (sid : Nat) (keep : Bool) :
    (afterReply sid keep).Keeps (onCore SameOutput) := by
  refine afterReply_keeps (sendEvents_keeps sid (fun _ _ h => ?_) fun _ s => ?_)
    (unregister_output sid) keep
  · exact sameOutput_of_sessions h.sessions
  · exact sameOutput_addressed s.core sid _

/-! ## output -/

/-- a message on its way out: written, queued, cut short, or gone -/
def delivered (written : Written) (message : Bytes) (output : Bytes × List Bytes) :
    Bytes × List Bytes :=
  match written with
  | .all => (output.1 ++ message, output.2)
  | .part n => (output.1 ++ message.take (n + 1), output.2)
  | .again => (output.1, output.2 ++ [message])
  | .error => output

theorem output_setSession (sid : Nat) (f : Session → Session) (s : St) :
    ((setSession sid f).run s).2.core.output = Function.update s.core.output sid
      ((f (s.core.sessions sid)).wire, (f (s.core.sessions sid)).pendingMessages) :=
  output_withSession s.core sid (f (s.core.sessions sid))

theorem output_setSession_twice (sid : Nat) (f g : Session → Session) (s : St) :
    ((setSession sid g).run ((setSession sid f).run s).2).2.core.output =
      Function.update s.core.output sid
        ((g (f (s.core.sessions sid))).wire, (g (f (s.core.sessions sid))).pendingMessages) := by
  have hsession : ((setSession sid f).run s).2.core.sessions sid = f (s.core.sessions sid) :=
    Function.update_self ..
  rw [output_setSession, output_setSession, hsession, Function.update_idem]

/-- what `run` does where its reply cannot be written -/
theorem writeFailed_keeps {R : Core → Core → Prop} [IsPreorder Core R] (sid : Nat)
    (hunregister : (unregister sid).Keeps (onCore R)) :
    Prog.Keeps (onCore R) (do
      let s ← Prog.get
      incrementError .tcp .tx
      log .error "ClientSession" ("Error writing to client socket from IP: " ++
        (s.core.sessions sid).clientIP) none
      unregister sid
      pure false : M Bool) :=
  Prog.keeps_bind Prog.keeps_get fun _ => Prog.keeps_bind (incrementError_keeps _ _) fun _ =>
    Prog.keeps_bind (log_keeps _ _ _ _) fun _ => Prog.keeps_bind hunregister fun _ =>
      Prog.keeps_pure _

/-- what follows a blocked or a finished write changes no output but the queue -/
theorem answer_output (sid : Nat) (result : ProcessResult) (s : St) :
    ((answer sid result).run s).2.core.output = Function.update s.core.output sid
      (delivered (s.env 0).written (bytesOf result.1.text) (s.core.output sid)) := by
  unfold answer writeSocket
  simp only [Prog.run_bind, run_ask]
  cases (s.env 0).written with
  | all =>
    have hset := output_setSession sid (fun me => me.sent (bytesOf result.1.text)) s.next
    have hrest := afterReply_output sid result.2
      ((setSession sid fun me => me.sent (bytesOf result.1.text)).run s.next).2
    exact Eq.trans hrest hset
  | part n =>
    have hset := output_setSession sid
      (fun me => me.sent ((bytesOf result.1.text).take (n + 1))) s.next
    have hrest := afterReply_output sid result.2
      ((setSession sid fun me => me.sent ((bytesOf result.1.text).take (n + 1))).run s.next).2
    exact Eq.trans hrest hset
  | again =>
    have hset := output_setSession sid (fun me => me.queued (bytesOf result.1.text)) s.next
    have hrest := afterReply_output sid result.2
      ((setSession sid fun me => me.queued (bytesOf result.1.text)).run s.next).2
    exact Eq.trans hrest hset
  | error =>
    have hsame : delivered .error (bytesOf result.1.text) (s.core.output sid) =
        s.core.output sid := rfl
    rw [hsame, Function.update_eq_self]
    exact writeFailed_keeps sid (unregister_output sid) s.next

theorem run_data (L : Libs) (cfg : Config) (sid : Nat) (chunk : Bytes) (s : St) :
    (run L cfg sid (.data chunk)).run s =
      (processMessage L cfg sid (cString chunk) >>= answer sid).run s := rfl

theorem run_quiet (L : Libs) (cfg : Config) (sid : Nat) {input : ReadResult}
    (h : ∀ chunk, input ≠ .data chunk) : (run L cfg sid input).Keeps (onCore SameOutput) := by
  refine Prog.keeps_bind Prog.keeps_get fun s => ?_
  cases input with
  | data chunk => exact absurd rfl (h chunk)
  | closed =>
    exact Prog.keeps_bind (log_keeps _ _ _ _) fun _ => Prog.keeps_bind (unregister_output sid) fun _ =>
      Prog.keeps_pure _
  | again => exact Prog.keeps_pure _
  | error => exact Prog.keeps_bind (log_keeps _ _ _ _) fun _ => Prog.keeps_pure _

/-- the reply to a request goes out, or an exception leaves the output as it was -/
theorem run_data_cases (L : Libs) (cfg : Config) (sid : Nat) (chunk : Bytes) (s : St) :
    (∃ e s', (processMessage L cfg sid (cString chunk)).run s = (.error e, s') ∧
      ((run L cfg sid (.data chunk)).run s).2.core.output = s.core.output) ∨
    ∃ result s', (processMessage L cfg sid (cString chunk)).run s = (.ok result, s') ∧
      ((run L cfg sid (.data chunk)).run s).2.core.output = Function.update s.core.output sid
        (delivered (s'.env 0).written (bytesOf result.1.text) (s.core.output sid)) := by
  have hsame := processMessage_output L cfg sid (cString chunk) s
  rw [run_data, Prog.run_bind]
  generalize (processMessage L cfg sid (cString chunk)).run s = r at hsame ⊢
  obtain ⟨r, s'⟩ := r
  have hout : s'.core.output = s.core.output := hsame
  cases r with
  | error e => exact .inl ⟨e, s', rfl, hout⟩
  | ok result =>
    refine .inr ⟨result, s', rfl, ?_⟩
    rw [← hout]
    exact answer_output sid result s'

theorem sendWelcomeMessage_output (sid : Nat) (s : St) :
    ((sendWelcomeMessage sid).run s).2.core.output = Function.update s.core.output sid
      (delivered (s.env 0).written welcomeMessage (s.core.output sid)) := by
  unfold sendWelcomeMessage writeSocket
  simp only [Prog.run_bind, run_ask]
  cases (s.env 0).written with
  | all => exact output_setSession sid (fun me => me.sent welcomeMessage) s.next
  | part n => exact output_setSession sid (fun me => me.sent (welcomeMessage.take (n + 1))) s.next
  | again => exact output_setSession sid (fun me => me.queued welcomeMessage) s.next
  | error =>
    have hsame : delivered .error welcomeMessage (s.core.output sid) = s.core.output sid := rfl
    rw [hsame, Function.update_eq_self]
    have hkeeps : Prog.Keeps (onCore SameOutput) (do
        let s ← Prog.get
        incrementError .tcp .tx
        log .error "ClientSession" ("Error writing to client socket from IP: " ++
          (s.core.sessions sid).clientIP) none
        pure false : M Bool) :=
      Prog.keeps_bind Prog.keeps_get fun _ => Prog.keeps_bind (incrementError_keeps _ _) fun _ =>
        Prog.keeps_bind (log_keeps _ _ _ _) fun _ => Prog.keeps_pure _
    exact hkeeps s.next

/-- the head of the queue goes out: whole, in part, or not -/
def flushed (freed : Bytes) (written : Written) (output : Bytes × List Bytes) : Bytes × List Bytes :=
  match output.2 with
  | [] => output
  | message :: _ =>
    match written with
    | .all => (output.1 ++ message, popSent freed message.length output.2)
    | .part n => (output.1 ++ message.take (n + 1), popSent freed (n + 1) output.2)
    | .again => output
    | .error => output

theorem trySendPendingMessage_output (freed : Bytes) (sid : Nat) (s : St) :
    ((trySendPendingMessage freed sid).run s).2.core.output = Function.update s.core.output sid
      (flushed freed (s.env 0).written (s.core.output sid)) := by
  unfold trySendPendingMessage writeSocket
  rw [Prog.run_bind, Prog.run_get]
  dsimp only
  cases hpending : (s.core.sessions sid).pendingMessages with
  | nil =>
    have hsame : flushed freed (s.env 0).written (s.core.output sid) = s.core.output sid := by
      unfold flushed Core.output
      rw [hpending]
    rw [hsame, Function.update_eq_self]
    rfl
  | cons message rest =>
    simp only [Prog.run_bind, run_ask]
    have hflushed : flushed freed (s.env 0).written (s.core.output sid) =
        match (s.env 0).written with
        | .all => ((s.core.sessions sid).wire ++ message, popSent freed message.length (message :: rest))
        | .part n =>
          ((s.core.sessions sid).wire ++ message.take (n + 1), popSent freed (n + 1) (message :: rest))
        | .again => s.core.output sid
        | .error => s.core.output sid := by
      unfold flushed Core.output
      rw [hpending]
    rw [hflushed]
    cases (s.env 0).written with
    | all =>
      have hset := output_setSession_twice sid (fun me => me.sent message)
        (fun me => { me with pendingMessages := popSent freed message.length me.pendingMessages }) s.next
      dsimp only [Session.sent, St.next_core] at hset
      rw [hpending] at hset
      exact hset
    | part n =>
      have hset := output_setSession_twice sid (fun me => me.sent (message.take (n + 1)))
        (fun me => { me with pendingMessages := popSent freed (n + 1) me.pendingMessages }) s.next
      dsimp only [Session.sent, St.next_core] at hset
      rw [hpending] at hset
      exact hset
    | again =>
      rw [Function.update_eq_self]
      rfl
    | error =>
      rw [Function.update_eq_self]
      have hkeeps : Prog.Keeps (onCore SameOutput) (do
          incrementError .tcp .tx
          log .error "ClientSession" ("Error writing pending message to client socket from IP: " ++
            (s.core.sessions sid).clientIP) none
          pure false : M Bool) :=
        Prog.keeps_bind (incrementError_keeps _ _) fun _ =>
          Prog.keeps_bind (log_keeps _ _ _ _) fun _ => Prog.keeps_pure _
      exact hkeeps s.next

end Logistics
