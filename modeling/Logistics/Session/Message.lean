import Logistics.Auth.Authenticator
import Logistics.Session.Command

/-!
# clientSession::processMessage

One message of one session, from the bytes received to the reply.  A message that parses is logged
with the password masked (`received`); then an unauthenticated session accepts a login only
(`loginMessage`), and an authenticated one runs the command in a `catch (const std::exception &)`
(`commandMessage`).

The test for the login command, `request.value("command", "")`, stands outside every `try`: on a
value that is not an object, and on a `command` that is not a string, `value` throws and nothing
catches it.

* `processMessage_returns_iff`   **when a message is answered at all**;
* `authCall`, `unlockCall`       the calls of `authenticate` and `unlockClient` a message makes;
* `processMessage_guest`, `processMessage_member`   what a message can do to the core.
-/

namespace Logistics

/-- the core with one session replaced -/
def Core.withSession (c : Core) (sid : Nat) (session : Session) : Core :=
  { c with sessions := Function.update c.sessions sid session }

def Session.loggedIn (session : Session) (user : String) : Session :=
  { session with isAuthenticated := true, clientID := user }

def setSession (sid : Nat) (f : Session → Session) : M Unit :=
  setCore fun c => c.withSession sid (f (c.sessions sid))

def createLoggableRequest (request : Json) : Json :=
  match request.field? "payload" with
  | none => request
  | some payload =>
    if payload.contains "password" then
      request.set "payload" (payload.set "password" (.str "[REDACTED]"))
    else request

def invalidJson : ProcessResult :=
  (⟨statusReply "error" "Invalid JSON format.",
    "\x7b\"status\":\"error\",\"message\":\"Invalid JSON format.\"\x7d"⟩, true)

/-! ## login -/

def loginFields (request : Json) : Except JsonError (String × String) := do
  let user ← (← request.atKey "payload").atString "hostname"
  let pass ← (← request.atKey "payload").atString "password"
  pure (user, pass)

def loginRefused (L : Libs) (message : String) : M ProcessResult := do
  incrementError .tcp .rx
  pure (reply L "error" message)

def loginReply (L : Libs) (sid : Nat) (clientIP user : String) : AuthResult → M ProcessResult
  | .success => do
    setSession sid fun me => me.loggedIn user
    registerSession user sid
    log .info "ClientSession"
      ("Client " ++ user ++ " authenticated successfully from IP: " ++ clientIP) none
    pure (.dumped L ((statusReply "success" ("Login successful! Welcome " ++ user ++ ".")).set
      "client_id" (.str user)), true)
  | .failedAccountLocked =>
    loginRefused L "Account is temporarily locked due to too many failed attempts."
  | .failedAlertLocked =>
    loginRefused L "Account is locked untill manually freed by an admin, due to alert trigger."
  | .failedUserNotFound => loginRefused L "Login failed. Invalid hostname or password."
  | .failedBadCredentials => loginRefused L "Login failed. Invalid hostname or password."

def login (L : Libs) (cfg : Config) (sid : Nat) (clientIP : String) (request : Json) :
    M ProcessResult := do
  let (user, pass) ← json (loginFields request)
  let result ← authenticate L user pass cfg.blockTimeSeconds
  loginReply L sid clientIP user result

def internalError (L : Libs) : ProcessResult :=
  ((reply L "error" "An internal server error occurred. Please reconnect").1, false)

def loginFailed (L : Libs) (clientIP : String) : Exn → M ProcessResult
  | .json _ => do
    log .warning "ClientSession" ("Malformed login request from ClientIP: " ++ clientIP) none
    incrementError .tcp .rx
    pure (reply L "error" ("Malformed login request. Please provide a valid JSON with " ++
      "'payload', 'hostname' and 'password'."))
  | .sqlite e => do
    log .error "ClientSession" ("CRITICAL: Unhandled exception during login attempt from " ++
      "clientIP: " ++ clientIP ++ ". Error: " ++ L.what (.sqlite e)) none
    incrementError .tcp .rx
    pure (internalError L)

def loginMessage (L : Libs) (cfg : Config) (sid : Nat) (clientIP : String) (request : Json) :
    M ProcessResult := do
  let command ← json (request.value "command" "")
  if command = "login" then
    tryCatch (login L cfg sid clientIP request) (loginFailed L clientIP)
  else loginRefused L "Authentication required. Please log in first."

/-! ## commands -/

def commandFailed (L : Libs) (clientID : String) (e : Exn) : M ProcessResult := do
  log .error "ClientSession" ("CRITICAL: Unhandled exception for client " ++ clientID ++
    ". Error: " ++ L.what e) none
  incrementError .tcp .rx
  pure (internalError L)

def commandMessage (L : Libs) (cfg : Config) (clientID : String) (request : Json) :
    M ProcessResult :=
  tryCatch (processCommand L cfg request clientID false) (commandFailed L clientID)

def receive (L : Libs) (request : Json) : M Unit := do
  incrementMessage .tcp .rx
  log .debug "ClientSession" ("Received message: " ++ L.dump (createLoggableRequest request)) none

def processMessage (L : Libs) (cfg : Config) (sid : Nat) (text : Bytes) : M ProcessResult := do
  let s ← Prog.get
  let me := s.core.sessions sid
  match L.parse text with
  | none => do
    log .warning "ClientSession" ("Invalid JSON format from clientIP: " ++ me.clientIP) none
    incrementError .tcp .rx
    pure invalidJson
  | some request => do
    receive L request
    if me.isAuthenticated then commandMessage L cfg me.clientID request
    else loginMessage L cfg sid me.clientIP request

variable {sid : Nat} {text : Bytes} {s : St}

/-! ## the state a message is handled in -/

/-- the state after the request was counted and logged -/
def received (L : Libs) (request : Json) (s : St) : St := ((receive L request).run s).2

theorem run_receive (L : Libs) (request : Json) (s : St) :
    (receive L request).run s = (.ok (), received L request s) := by
  unfold received receive
  simp only [incrementMessage, Prog.run_bind, Prog.run_modify, run_log]

@[simp] theorem received_core (L : Libs) (request : Json) (s : St) :
    (received L request s).core = s.core := by
  unfold received receive
  simp only [incrementMessage, Prog.run_bind, Prog.run_modify, run_log, St.logged_core]

theorem received_env (L : Libs) (request : Json) (s : St) :
    (received L request s).env = fun n => s.env (n + 2) := by
  unfold received receive
  simp only [incrementMessage, Prog.run_bind, Prog.run_modify, run_log, St.logged_env]

theorem run_processMessage_member (L : Libs) (cfg : Config) {request : Json}
    (hp : L.parse text = some request) (ha : (s.core.sessions sid).isAuthenticated = true) :
    (processMessage L cfg sid text).run s =
      (commandMessage L cfg (s.core.sessions sid).clientID request).run
        (received L request s) := by
  unfold processMessage
  rw [Prog.run_bind, Prog.run_get]
  simp only [hp, ha, if_true, Prog.run_bind, run_receive]

theorem run_processMessage_guest (L : Libs) (cfg : Config) {request : Json}
    (hp : L.parse text = some request) (ha : (s.core.sessions sid).isAuthenticated = false) :
    (processMessage L cfg sid text).run s =
      (loginMessage L cfg sid (s.core.sessions sid).clientIP request).run
        (received L request s) := by
  unfold processMessage
  rw [Prog.run_bind, Prog.run_get]
  simp only [hp, ha, Bool.false_eq_true, if_false, Prog.run_bind, run_receive]

/-- a text that is not JSON: one log entry, one error counted, no effect -/
theorem run_processMessage_invalid (L : Libs) (cfg : Config) (sid : Nat) (s : St)
    (hp : L.parse text = none) :
    ∃ s', (processMessage L cfg sid text).run s = (.ok invalidJson, s') ∧ s'.core = s.core := by
  unfold processMessage
  rw [Prog.run_bind, Prog.run_get]
  simp only [hp, Prog.run_bind, run_log]
  rw [run_incrementError]
  exact ⟨_, rfl, St.logged_core s _ _ _ _⟩

/-! ## every answer -/

theorem loginFailed_returns (L : Libs) (clientIP : String) (e : Exn) (s : St) :
    (loginFailed L clientIP e).Returns s := by
  cases e <;> simp [loginFailed, Prog.Returns, Prog.run_bind, run_log, incrementError]

theorem commandFailed_returns (L : Libs) (clientID : String) (e : Exn) (s : St) :
    (commandFailed L clientID e).Returns s := by
  simp [commandFailed, Prog.Returns, Prog.run_bind, run_log, incrementError]

theorem commandMessage_returns (L : Libs) (cfg : Config) (clientID : String) (request : Json)
    (s : St) : (commandMessage L cfg clientID request).Returns s :=
  Prog.returns_tryCatch fun e s' => commandFailed_returns L clientID e s'

/-- the login branch returns unless `value` throws -/
theorem loginMessage_returns_iff (L : Libs) (cfg : Config) (sid : Nat) (clientIP : String)
    (request : Json) (s : St) : (loginMessage L cfg sid clientIP request).Returns s ↔
      ∃ command, request.value "command" "" = .ok command := by
  unfold loginMessage
  cases request.value "command" "" with
  | error e => simp [Prog.Returns, Prog.run_bind]
  | ok command =>
    rw [json_ok_bind]
    refine iff_of_true ?_ ⟨command, rfl⟩
    by_cases hc : command = "login"
    · rw [if_pos hc]
      exact Prog.returns_tryCatch fun e s' => loginFailed_returns L clientIP e s'
    · rw [if_neg hc]
      exact ⟨_, _, rfl⟩

theorem processMessage_returns_value_iff (L : Libs) (cfg : Config) (sid : Nat) (text : Bytes)
    (s : St) : (processMessage L cfg sid text).Returns s ↔
      ((s.core.sessions sid).isAuthenticated = false → ∀ request, L.parse text = some request →
        ∃ command, request.value "command" "" = .ok command) := by
  cases hp : L.parse text with
  | none =>
    obtain ⟨s', hs', -⟩ := run_processMessage_invalid L cfg sid s hp
    exact iff_of_true ⟨_, _, hs'⟩ fun _ => nofun
  | some request =>
    unfold Prog.Returns
    cases ha : (s.core.sessions sid).isAuthenticated with
    | true =>
      rw [run_processMessage_member L cfg hp ha]
      exact iff_of_true (commandMessage_returns L cfg _ request _) nofun
    | false =>
      rw [run_processMessage_guest L cfg hp ha]
      refine (loginMessage_returns_iff L cfg sid _ request _).trans ?_
      simp

/-- **A message is answered exactly when its session is logged in, or its text is not JSON, or it
is an object whose `command`, if present, is a string.**  On any other message the exception of
`value` leaves `processMessage`. -/
theorem processMessage_returns_iff (L : Libs) (cfg : Config) (sid : Nat) (text : Bytes) (s : St) :
    (processMessage L cfg sid text).Returns s ↔
      (s.core.sessions sid).isAuthenticated = true ∨ L.parse text = none ∨
        ∃ fields, L.parse text = some (.obj fields) ∧
          ∀ v, fields.lookup "command" = some v → ∃ command, v = .str command := by
  rw [processMessage_returns_value_iff]
  cases (s.core.sessions sid).isAuthenticated with
  | true => simp
  | false =>
    cases L.parse text with
    | none => simp
    | some request => simp [Json.value_returns_iff]

/-- the text `[]` on a fresh connection -/
theorem processMessage_array_throws :
    ((processMessage (.known [.arr []]) .sample 0 (bytesOf "[]")).run
      (.sample .empty .empty)).1 = .error (.json (.typeError 306)) := rfl

/-! ## before the login -/

/-- the `authenticate` call a message makes: the user it names and its outcome -/
def authCall (L : Libs) (cfg : Config) (sid : Nat) (text : Bytes) (s : St) :
    Option (String × Except Exn AuthResult) :=
  if (s.core.sessions sid).isAuthenticated then none
  else
    match L.parse text with
    | none => none
    | some request =>
      if request.value "command" "" = .ok "login" then
        match loginFields request with
        | .error _ => none
        | .ok (user, pass) => some (user,
            ((authenticate L user pass cfg.blockTimeSeconds).run (received L request s)).1)
      else none

/-- an error reply that leaves the core at `c` -/
def RefusedAt (c : Core) (r : Except Exn ProcessResult × St) : Prop :=
  (∀ reply keep, r.1 = .ok (reply, keep) → reply.status = some "error") ∧ CountersOnly c r.2.core

theorem refusedAt_reply {answer : Reply} (ha : answer.status = some "error") (keep : Bool)
    {c : Core} (h : CountersOnly c s.core) : RefusedAt c (.ok (answer, keep), s) := by
  refine ⟨?_, h⟩
  intro reply' keep' h'
  cases h'
  exact ha

theorem loginFailed_refused (L : Libs) (clientIP : String) (e : Exn) {c : Core}
    (h : CountersOnly c s.core) : RefusedAt c ((loginFailed L clientIP e).run s) := by
  cases e with
  | json e =>
    simp only [loginFailed, Prog.run_bind, run_log]
    rw [run_incrementError]
    refine refusedAt_reply (status_reply L _ _) true ?_
    rwa [incrementError_core, St.logged_core]
  | sqlite e =>
    simp only [loginFailed, Prog.run_bind, run_log]
    rw [run_incrementError]
    refine refusedAt_reply (status_reply L _ _) false ?_
    rwa [incrementError_core, St.logged_core]

theorem loginReply_refused (L : Libs) (sid : Nat) (clientIP user : String) {result : AuthResult}
    (hr : result ≠ .success) {c : Core} (h : CountersOnly c s.core) :
    RefusedAt c ((loginReply L sid clientIP user result).run s) := by
  cases result with
  | success => exact absurd rfl hr
  | failedUserNotFound => exact refusedAt_reply (status_reply L _ _) true h
  | failedAccountLocked => exact refusedAt_reply (status_reply L _ _) true h
  | failedBadCredentials => exact refusedAt_reply (status_reply L _ _) true h
  | failedAlertLocked => exact refusedAt_reply (status_reply L _ _) true h

/-- **Without a successful login a message of a guest gets an error, if it gets a reply, and
changes login counters at most.** -/
theorem processMessage_guest (L : Libs) (cfg : Config)
    (ha : (s.core.sessions sid).isAuthenticated = false)
    (hn : ∀ user, authCall L cfg sid text s ≠ some (user, .ok .success)) :
    RefusedAt s.core ((processMessage L cfg sid text).run s) := by
  have base : ∀ request, CountersOnly s.core (received L request s).core := by
    intro request
    rw [received_core]
    exact refl_of CountersOnly s.core
  cases hp : L.parse text with
  | none =>
    obtain ⟨s', hs', hc⟩ := run_processMessage_invalid L cfg sid s hp
    rw [hs']
    refine refusedAt_reply ?_ true ?_
    · exact status_statusReply "error" "Invalid JSON format."
    · rw [hc]
      exact refl_of CountersOnly s.core
  | some request =>
    rw [run_processMessage_guest L cfg hp ha]
    unfold authCall at hn
    simp only [ha, Bool.false_eq_true, if_false, hp] at hn
    unfold loginMessage
    cases hv : request.value "command" "" with
    | error e => exact ⟨fun _ _ h => (by cases h), base request⟩
    | ok command =>
      rw [json_ok_bind]
      by_cases hl : command = "login"
      · subst hl
        rw [if_pos rfl, Prog.run_tryCatch]
        simp only [hv, if_true] at hn
        unfold login
        cases hf : loginFields request with
        | error e => exact loginFailed_refused L _ _ (base request)
        | ok fields =>
          obtain ⟨user, pass⟩ := fields
          rw [json_ok_bind]
          simp only [hf] at hn
          have hk := authenticate_counters L user pass cfg.blockTimeSeconds (received L request s)
          have hc := trans_of CountersOnly (base request) hk
          dsimp only
          rw [Prog.run_bind]
          generalize (authenticate L user pass cfg.blockTimeSeconds).run (received L request s) = r
            at hn hc
          obtain ⟨r, s₂⟩ := r
          cases r with
          | error e => exact loginFailed_refused L _ e hc
          | ok result =>
            have hr : result ≠ .success := by
              rintro rfl
              exact hn user rfl
            have hrefused := loginReply_refused L sid (s.core.sessions sid).clientIP user hr hc
            dsimp only
            generalize (loginReply L sid _ user result).run s₂ = q at hrefused ⊢
            obtain ⟨q, s₃⟩ := q
            cases q with
            | ok a => exact hrefused
            | error e => exact loginFailed_refused L _ e hrefused.2
      · rw [if_neg hl]
        exact refusedAt_reply (status_reply L _ _) true (base request)

/-! ## the login -/

theorem authCall_cases {L : Libs} {cfg : Config} {user : String} {r : Except Exn AuthResult}
    (h : authCall L cfg sid text s = some (user, r)) :
    (s.core.sessions sid).isAuthenticated = false ∧
      ∃ request pass, L.parse text = some request ∧ request.value "command" "" = .ok "login" ∧
        loginFields request = .ok (user, pass) ∧
        ((authenticate L user pass cfg.blockTimeSeconds).run (received L request s)).1 = r := by
  unfold authCall at h
  cases ha : (s.core.sessions sid).isAuthenticated with
  | true => simp [ha] at h
  | false =>
    refine ⟨rfl, ?_⟩
    cases hp : L.parse text with
    | none => simp [ha, hp] at h
    | some request =>
      by_cases hv : request.value "command" "" = .ok "login"
      · simp only [ha, Bool.false_eq_true, if_false, hp, if_pos hv] at h
        cases hf : loginFields request with
        | error e => simp [hf] at h
        | ok fields =>
          obtain ⟨user', pass⟩ := fields
          simp only [hf, Option.some.injEq, Prod.mk.injEq] at h
          obtain ⟨rfl, rfl⟩ := h
          exact ⟨request, pass, rfl, hv, hf, rfl⟩
      · simp [ha, hp, hv] at h

theorem run_loginReply_success (L : Libs) (sid : Nat) (clientIP user : String) (s : St) :
    ∃ answer s', (loginReply L sid clientIP user .success).run s = (.ok (answer, true), s') ∧
      answer.status = some "success" ∧
      s'.core = { s.core.withSession sid ((s.core.sessions sid).loggedIn user) with
        manager := s.core.manager.registered user sid } := by
  unfold loginReply setSession
  rw [Prog.run_bind, run_setCore]
  obtain ⟨s₁, hrun, hcore⟩ := run_registerSession user sid
    { s with core := s.core.withSession sid ((s.core.sessions sid).loggedIn user) }
  simp only [Prog.run_bind, hrun, run_log]
  refine ⟨_, _, rfl, ?_, ?_⟩
  · rw [statusReply_eq]
    exact status_set_of_ne (by decide) _ _
  · rw [St.logged_core]
    exact hcore

/-- a successful login is the answer to it, given once the counters are written -/
theorem run_processMessage_login {L : Libs} {cfg : Config} {user : String}
    (h : authCall L cfg sid text s = some (user, .ok .success)) :
    ∃ s₁ row, s.core.users.find? user = some row ∧ row.authData.isLocked = false ∧
      CountersOnly s.core s₁.core ∧ (processMessage L cfg sid text).run s =
        (loginReply L sid (s.core.sessions sid).clientIP user .success).run s₁ := by
  obtain ⟨ha, request, pass, hp, hv, hf, hr⟩ := authCall_cases h
  have hk := authenticate_counters L user pass cfg.blockTimeSeconds (received L request s)
  rw [run_processMessage_guest L cfg hp ha]
  unfold loginMessage login
  rw [hv, json_ok_bind, if_pos rfl, hf, json_ok_bind, Prog.run_tryCatch]
  dsimp only
  rw [Prog.run_bind]
  generalize hrun : (authenticate L user pass cfg.blockTimeSeconds).run (received L request s) = q
    at hr hk
  obtain ⟨q, s₁⟩ := q
  subst hr
  obtain ⟨row, hrow, hl, -⟩ := authenticate_success hrun
  rw [received_core] at hrow
  have hk' : CountersOnly s.core s₁.core := by
    rw [← received_core L request s]
    exact hk
  obtain ⟨answer, s', hreply, -, -⟩ :=
    run_loginReply_success L sid (s.core.sessions sid).clientIP user s₁
  refine ⟨s₁, row, hrow, hl, hk', ?_⟩
  dsimp only
  rw [hreply]

/-- what a successful login of `user` on the session `sid` does to the core -/
structure LoginEffect (sid : Nat) (user : String) (c c' : Core) : Prop where
  users : SameButCounters c.users c'.users
  stock : c'.stock = c.stock
  cache : c'.cache = c.cache
  lockedClients : c'.manager.lockedClients = c.manager.lockedClients
  sessions : c'.sessions = Function.update c.sessions sid ((c.sessions sid).loggedIn user)

/-- **A successful login answers with success, and besides the counters and the registry writes
the two members of its own session.** -/
theorem processMessage_login {L : Libs} {cfg : Config} {user : String}
    (h : authCall L cfg sid text s = some (user, .ok .success)) :
    ∃ answer s' row, (processMessage L cfg sid text).run s = (.ok (answer, true), s') ∧
      answer.status = some "success" ∧
      s.core.users.find? user = some row ∧ row.authData.isLocked = false ∧
      LoginEffect sid user s.core s'.core := by
  obtain ⟨s₁, row, hrow, hl, hk, hrun⟩ := run_processMessage_login h
  obtain ⟨answer, s', hreply, hstatus, hcore⟩ :=
    run_loginReply_success L sid (s.core.sessions sid).clientIP user s₁
  rw [hrun, hreply]
  refine ⟨answer, s', row, rfl, hstatus, hrow, hl, ?_, ?_, ?_, ?_, ?_⟩
  · rw [hcore]
    exact hk.users
  · rw [hcore]
    exact hk.stock
  · rw [hcore]
    exact hk.cache
  · rw [hcore, ← hk.manager]
    rfl
  · rw [hcore, ← hk.sessions]
    rfl

/-! ## after the login -/

/-- the `unlockClient` call a message makes: the client it names and its outcome -/
def unlockCall (L : Libs) (cfg : Config) (sid : Nat) (text : Bytes) (s : St) :
    Option (String × Except Exn Bool) :=
  if (s.core.sessions sid).isAuthenticated then
    match L.parse text with
    | none => none
    | some request =>
      (unlockTarget cfg (s.core.sessions sid).clientID request).map fun client =>
        (client, ((unlockClient client).run (received L request s)).1)
  else none

/-- **A message of a session that is logged in does what its command does.** -/
theorem processMessage_member (L : Libs) (cfg : Config)
    (ha : (s.core.sessions sid).isAuthenticated = true) :
    (L.parse text = none ∧ ((processMessage L cfg sid text).run s).2.core = s.core) ∨
      ∃ request, L.parse text = some request ∧
        CommandEffect cfg (s.core.sessions sid).clientID request (received L request s)
          ((processMessage L cfg sid text).run s).2.core := by
  cases hp : L.parse text with
  | none =>
    obtain ⟨s', hs', hc⟩ := run_processMessage_invalid L cfg sid s hp
    rw [hs']
    exact .inl ⟨rfl, hc⟩
  | some request =>
    refine .inr ⟨request, rfl, ?_⟩
    rw [run_processMessage_member L cfg hp ha]
    have heffect := @processCommand_effect cfg (s.core.sessions sid).clientID request
      (received L request s) L
    unfold commandMessage
    rw [Prog.run_tryCatch]
    generalize (processCommand L cfg request (s.core.sessions sid).clientID false).run
      (received L request s) = r at heffect ⊢
    obtain ⟨r, s'⟩ := r
    cases r with
    | ok a => exact heffect
    | error e =>
      have hc : ((commandFailed L (s.core.sessions sid).clientID e).run s').2.core = s'.core := by
        simp only [commandFailed, Prog.run_bind, run_log]
        rw [run_incrementError]
        exact St.logged_core s' _ _ _ _
      dsimp only
      rw [hc]
      exact heffect

end Logistics
