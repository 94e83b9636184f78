import Logistics.Store.Slice
import Logistics.Session.Rows

/-!
# Clients are isolated from each other

The messages of any sessions are handled one after the other.  Two runs are compared: one with the
messages of all sessions, and one in which only the requests of the client `c` are left.

* `processMessage_others`   a message of another session neither reads nor writes the slice of `c`;
* `processMessage_own`      a request of `c` for its data depends on the slice of `c` only;
* `repliesTo`, `alone`      the replies that `c` receives, and the run without the others;
* `Isolated`, `client_isolated_iff`   **`c` receives what it would receive alone**.
-/

namespace Logistics
open Runs

/-! ## programs that write what is shared -/

section Couples
variable {V : String → Prop} {strict : Prop} {σ τ : String → Slice} {me : String}

theorem json_couples {α : Type} (r : Except JsonError α) :
    (json r).Couples (Agree V strict σ τ) := by
  cases r with
  | ok a => exact Prog.couples_pure a
  | error e => exact Prog.couples_throw _

theorem catchJson_couples {α : Type} {p : M α} {handler : JsonError → M α}
    (hp : p.Couples (Agree V strict σ τ)) (hh : ∀ e, (handler e).Couples (Agree V strict σ τ)) :
    (catchJson p handler).Couples (Agree V strict σ τ) := by
  refine Prog.couples_tryCatch hp fun e => ?_
  cases e with
  | json e => exact hh e
  | sqlite e => exact Prog.couples_throw _

/-- a write `f` to the core that is a function `k` of what is shared, and no slice of it -/
theorem setShared_couples (hstrict : strict) {f : Core → Core}
    (k : Users × Manager × EventQueues × (Nat → Session) →
      Users × Manager × EventQueues × (Nat → Session))
    (hshared : ∀ c, (f c).shared = k c.shared)
    (hslice : ∀ c j, World.slice ⟨f c, j⟩ = World.slice ⟨c, j⟩) :
    (setCore f).Couples (Agree V strict σ τ) := by
  refine Prog.couples_modify fun s t h => h.reshare h.env (hslice _ _) (hslice _ _) ?_
  show (f s.core).shared = (f t.core).shared
  rw [hshared, hshared, h.shared hstrict]

theorem setManager_couples (hstrict : strict) (f : Manager → Manager) :
    (setManager f).Couples (Agree V strict σ τ) :=
  setShared_couples hstrict (fun x => (x.1, f x.2.1, x.2.2)) (fun _ => rfl) fun _ _ => rfl

theorem setSession_couples (hstrict : strict) (sid : Nat) (f : Session → Session) :
    (setSession sid f).Couples (Agree V strict σ τ) :=
  setShared_couples hstrict
    (fun x => (x.1, x.2.1, x.2.2.1, Function.update x.2.2.2 sid (f (x.2.2.2 sid))))
    (fun _ => rfl) fun _ _ => rfl

theorem getUserLoginData_couples (hstrict : strict) (hostname : String) :
    (getUserLoginData hostname).Couples (Agree V strict σ τ) := by
  intro s t h
  rw [run_getUserLoginData, run_getUserLoginData, h.env, h.users hstrict]
  exact ⟨rfl, h.next⟩

/-- the same new table of users in both states -/
theorem Agree.putUsers {s t : St} (h : Agree V strict σ τ s t) (hstrict : strict) (users : Users) :
    Agree V strict σ τ { s with core := { s.core with users := users } }
      { t with core := { t.core with users := users } } :=
  h.reshare h.env rfl rfl (congrArg (fun x => (users, x.2)) (h.shared hstrict))

theorem updateUser_couples (hstrict : strict) (hostname : String) (f : UserRow → UserRow) :
    (updateUser hostname f).Couples (Agree V strict σ τ) := by
  intro s t h
  rw [run_updateUser, run_updateUser, h.env, h.users hstrict]
  cases (t.env 0).fails with
  | true => exact ⟨rfl, h.next⟩
  | false =>
    simp only [Bool.false_eq_true, if_false]
    cases t.core.users.update? hostname f with
    | none => exact ⟨rfl, h.next⟩
    | some users => exact ⟨rfl, h.next.putUsers hstrict users⟩

theorem createUser_couples (hstrict : strict) (L : Libs) (hostname password : String) :
    (createUser L hostname password).Couples (Agree V strict σ τ) := by
  intro s t h
  rw [run_createUser, run_createUser, h.env, h.users hstrict]
  cases (t.env 0).fails with
  | true => exact ⟨rfl, h.next⟩
  | false =>
    simp only [Bool.false_eq_true, if_false]
    cases t.core.users.insert? hostname ⟨L.generateHash (t.env 0).salt password, 0, 0, 0⟩ with
    | none => exact ⟨rfl, h.next⟩
    | some users => exact ⟨rfl, h.next.putUsers hstrict users⟩

theorem unlockClient_couples (hstrict : strict) (client : String) :
    (unlockClient client).Couples (Agree V strict σ τ) := by
  refine Prog.couples_bind ?_ fun success => Prog.couples_ite (fun _ => ?_) fun _ => ?_
  · exact Prog.couples_bind (updateUser_couples hstrict _ _) fun _ => Prog.couples_pure _
  · exact log_then_couples (by decide)
      (Prog.couples_bind (setManager_couples hstrict _) fun _ => Prog.couples_pure _)
  · exact log_then_couples (by decide) (Prog.couples_pure _)

theorem registerSession_couples (hstrict : strict) (clientId : String) (sid : Nat) :
    (registerSession clientId sid).Couples (Agree V strict σ τ) := by
  refine Prog.couples_bind (setManager_couples hstrict _) fun _ => ?_
  refine Prog.couples_read (R := Agree V strict σ τ) (fun s : St => s.core.manager.connectedUsers)
    (fun s t h => by rw [h.manager hstrict])
    (f := fun connected => if clientId ∉ connected then _ else _) fun connected => ?_
  refine Prog.couples_ite (fun _ => setManager_couples hstrict _) fun _ => ?_
  exact Prog.couples_bind (incrementReconnection_couples _ _) fun _ =>
    log_aside_couples _ _ _ (by decide)

/-! ## logging in -/

theorem updateLoginAttempts_couples (hstrict : strict) (hostname : String) (loginSuccess : Bool)
    (timeStamp : Int) :
    (updateLoginAttempts hostname loginSuccess timeStamp).Couples (Agree V strict σ τ) := by
  refine Prog.couples_ite (fun _ => ?_) fun _ => ?_
  · exact Prog.couples_bind (updateUser_couples hstrict _ _) fun _ => Prog.couples_pure _
  · exact Prog.couples_bind (updateUser_couples hstrict _ _) fun _ => Prog.couples_pure _

theorem admitAttempt_couples (hstrict : strict) (hostname : String) (blockDuration : Int) :
    (admitAttempt hostname blockDuration).Couples (Agree V strict σ τ) := by
  refine Prog.couples_bind (getUserLoginData_couples hstrict hostname) fun authData => ?_
  cases authData with
  | none =>
    exact log_then_couples (by decide) (Prog.couples_pure _)
  | some data =>
    refine Prog.couples_ite (fun _ => Prog.couples_pure _) fun _ => ?_
    refine Prog.couples_bind ask_couples fun now => ?_
    refine Prog.couples_ite (fun _ => ?_) fun _ =>
      Prog.couples_ite (fun _ => ?_) fun _ => Prog.couples_pure _
    · exact log_then_couples (by decide) (Prog.couples_pure _)
    · exact Prog.couples_bind (updateLoginAttempts_couples hstrict _ _ _) fun _ =>
        Prog.couples_pure _

theorem checkPassword_couples (hstrict : strict) (L : Libs) (hostname password : String)
    (data : UserAuthData) (currentTime : Int) :
    (checkPassword L hostname password data currentTime).Couples (Agree V strict σ τ) := by
  refine Prog.couples_ite (fun _ => ?_) fun _ => ?_
  · exact log_then_couples (by decide)
      (Prog.couples_bind (updateLoginAttempts_couples hstrict _ _ _) fun _ => Prog.couples_pure _)
  · refine Prog.couples_bind (updateLoginAttempts_couples hstrict _ _ _) fun _ =>
      Prog.couples_ite (fun _ => ?_) fun _ => ?_
    · exact log_then_couples (by decide) (Prog.couples_pure _)
    · exact log_then_couples (by decide) (Prog.couples_pure _)

theorem authenticate_couples (hstrict : strict) (L : Libs) (hostname password : String)
    (blockDuration : Int) :
    (authenticate L hostname password blockDuration).Couples (Agree V strict σ τ) := by
  refine Prog.couples_bind (admitAttempt_couples hstrict hostname blockDuration) fun admission => ?_
  cases admission with
  | refused result failed => exact Prog.couples_pure result
  | admitted data currentTime =>
    exact checkPassword_couples hstrict L hostname password data currentTime

theorem loginRefused_couples (L : Libs) (message : String) :
    (loginRefused L message).Couples (Agree V strict σ τ) :=
  count_then_couples (Prog.couples_pure _)

theorem loginReply_couples (hstrict : strict) (L : Libs) (sid : Nat) (clientIP user : String)
    (result : AuthResult) :
    (loginReply L sid clientIP user result).Couples (Agree V strict σ τ) := by
  cases result with
  | success =>
    refine Prog.couples_bind (setSession_couples hstrict sid _) fun _ => ?_
    refine Prog.couples_bind (registerSession_couples hstrict user sid) fun _ => ?_
    exact log_then_couples (by decide) (Prog.couples_pure _)
  | failedUserNotFound => exact loginRefused_couples L _
  | failedAccountLocked => exact loginRefused_couples L _
  | failedBadCredentials => exact loginRefused_couples L _
  | failedAlertLocked => exact loginRefused_couples L _

theorem loginFailed_couples (L : Libs) (clientIP : String) (e : Exn) :
    (loginFailed L clientIP e).Couples (Agree V strict σ τ) := by
  cases e with
  | json e =>
    exact log_then_couples (by decide) (count_then_couples (Prog.couples_pure _))
  | sqlite e =>
    exact log_then_couples (by decide) (count_then_couples (Prog.couples_pure _))

theorem loginMessage_couples (hstrict : strict) (L : Libs) (cfg : Config) (sid : Nat)
    (clientIP : String) (request : Json) :
    (loginMessage L cfg sid clientIP request).Couples (Agree V strict σ τ) := by
  refine Prog.couples_bind (json_couples _) fun command =>
    Prog.couples_ite (fun _ => ?_) fun _ => loginRefused_couples L _
  refine Prog.couples_tryCatch ?_ (loginFailed_couples L clientIP)
  refine Prog.couples_bind (json_couples _) fun fields => ?_
  obtain ⟨user, pass⟩ := fields
  exact Prog.couples_bind (authenticate_couples hstrict L user pass _) fun result =>
    loginReply_couples hstrict L sid clientIP user result

/-! ## commands -/

theorem refuse_couples (L : Libs) (message note clientId : String) :
    (refuse L message note clientId).Couples (Agree V strict σ τ) :=
  count_then_couples (log_then_couples (by decide) (Prog.couples_pure _))

theorem refuseUncounted_couples (L : Libs) (message note clientId : String) :
    (refuseUncounted L message note clientId).Couples (Agree V strict σ τ) :=
  log_then_couples (by decide) (Prog.couples_pure _)

theorem handleGetInventoryCommand_couples (hme : V me) (L : Libs) :
    (handleGetInventoryCommand L me).Couples (Agree V strict σ τ) := by
  refine Prog.couples_bind (getInventorySummary_couples hme) fun inventoryMap => ?_
  cases inventoryMap with
  | some map =>
    exact log_then_couples (by decide) (Prog.couples_pure _)
  | none =>
    exact count_then_couples (log_then_couples (by decide) (Prog.couples_pure _))

theorem handleUpdateStockCommand_couples (hme : V me) (L : Libs) (request : Json) :
    (handleUpdateStockCommand L request me).Couples (Agree V strict σ τ) := by
  refine Prog.couples_ite (fun _ => refuse_couples L _ _ _) fun _ => ?_
  refine catchJson_couples ?_ fun _ => refuse_couples L _ _ _
  refine Prog.couples_bind (json_couples _) fun fields => ?_
  obtain ⟨category, item, quantity⟩ := fields
  refine Prog.couples_bind (updateStock_couples hme category item quantity) fun result => ?_
  refine Prog.couples_ite (fun _ => Prog.couples_pure _) fun _ => ?_
  exact count_then_couples (Prog.couples_pure _)

theorem handleGetStockCommand_couples (hme : V me) (L : Libs) (request : Json) :
    (handleGetStockCommand L request me).Couples (Agree V strict σ τ) := by
  refine catchJson_couples ?_ fun _ => refuse_couples L _ _ _
  refine Prog.couples_bind (json_couples _) fun fields => ?_
  obtain ⟨category, item⟩ := fields
  refine Prog.couples_bind (getStock_couples hme category item) fun result => ?_
  cases result with
  | some quantity => exact Prog.couples_pure _
  | none => exact count_then_couples (Prog.couples_pure _)

theorem handleGetHistoryCommand_couples (hme : V me) (L : Libs) :
    (handleGetHistoryCommand L me).Couples (Agree V strict σ τ) :=
  Prog.couples_bind (getInventoryHistoryTransaction_couples hme) fun _ =>
    log_then_couples (by decide) (Prog.couples_pure _)

theorem handleUnlockClientCommand_couples (hstrict : strict) (L : Libs) (cfg : Config)
    (request : Json) :
    (handleUnlockClientCommand L cfg request me).Couples (Agree V strict σ τ) := by
  refine Prog.couples_ite (fun _ => ?_) fun _ => refuse_couples L _ _ _
  refine catchJson_couples ?_ fun _ => refuse_couples L _ _ _
  refine Prog.couples_bind (json_couples _) fun fields => ?_
  obtain ⟨secretPhrase, clientToUnlock⟩ := fields
  refine Prog.couples_ite (fun _ => ?_) fun _ => refuse_couples L _ _ _
  refine Prog.couples_bind (unlockClient_couples hstrict clientToUnlock) fun success => ?_
  exact Prog.couples_ite (fun _ => Prog.couples_pure _) fun _ => refuse_couples L _ _ _

theorem handleRegisterUser_couples (hstrict : strict) (L : Libs) (request : Json) :
    (handleRegisterUser L request me).Couples (Agree V strict σ τ) := by
  refine Prog.couples_ite (fun _ => ?_) fun _ => refuseUncounted_couples L _ _ _
  refine catchJson_couples ?_ fun _ => refuseUncounted_couples L _ _ _
  refine Prog.couples_bind (json_couples _) fun fields => ?_
  obtain ⟨newClientId, newClientPassword⟩ := fields
  refine Prog.couples_bind (createUser_couples hstrict L _ _) fun success => ?_
  refine Prog.couples_ite (fun _ => ?_) fun _ => refuseUncounted_couples L _ _ _
  exact log_then_couples (by decide) (Prog.couples_pure _)

/-- the commands by which a client reads and writes its own data -/
def dataCommands : List String := ["get_stock", "get_inventory", "get_history", "update_stock"]

theorem dispatch_couples (hme : V me) (L : Libs) (cfg : Config) (request : Json)
    (isInMaintenance : Bool) {cmd : String} (h : strict ∨ cmd ∈ dataCommands) :
    (dispatch L cfg request me isInMaintenance cmd).Couples (Agree V strict σ τ) := by
  have hshared : cmd = "unlock_client" ∨ cmd = "register_user" → strict := by
    rintro (rfl | rfl)
    · exact h.resolve_right (by decide)
    · exact h.resolve_right (by decide)
  refine Prog.couples_ite (fun _ => Prog.couples_pure _) fun _ => ?_
  refine Prog.couples_ite (fun _ => Prog.couples_pure _) fun _ => ?_
  refine Prog.couples_ite (fun _ => ?_) fun _ => ?_
  · exact log_then_couples (by decide) (Prog.couples_pure _)
  refine Prog.couples_ite (fun _ => handleGetInventoryCommand_couples hme L) fun _ => ?_
  refine Prog.couples_ite (fun _ => handleUpdateStockCommand_couples hme L request) fun _ => ?_
  refine Prog.couples_ite (fun _ => handleGetStockCommand_couples hme L request) fun _ => ?_
  refine Prog.couples_ite (fun _ => handleGetHistoryCommand_couples hme L) fun _ => ?_
  refine Prog.couples_ite (fun hcmd => ?_) fun _ => ?_
  · exact handleUnlockClientCommand_couples (hshared (.inl hcmd)) L cfg request
  refine Prog.couples_ite (fun hcmd => ?_) fun _ => ?_
  · exact handleRegisterUser_couples (hshared (.inr hcmd)) L request
  · exact log_then_couples (by decide) (Prog.couples_pure _)

/-- the request asks for one of the data commands -/
def AsksData (request : Json) : Prop :=
  ∃ cmd ∈ dataCommands, request.atString "command" = .ok cmd

theorem processCommand_couples (hme : V me) (L : Libs) (cfg : Config) {request : Json}
    (isInMaintenance : Bool) (h : strict ∨ AsksData request) :
    (processCommand L cfg request me isInMaintenance).Couples (Agree V strict σ τ) := by
  rcases h with hstrict | ⟨cmd, hdata, hcmd⟩
  · unfold processCommand
    cases request.field? "command" with
    | none =>
      exact log_then_couples (by decide) (count_then_couples (Prog.couples_pure _))
    | some command =>
      exact Prog.couples_bind (json_couples _) fun _ =>
        dispatch_couples hme L cfg request isInMaintenance (.inl hstrict)
  · rw [processCommand_eq_dispatch L cfg hcmd]
    exact dispatch_couples hme L cfg request isInMaintenance (.inr hdata)

theorem commandMessage_couples (hme : V me) (L : Libs) (cfg : Config) {request : Json}
    (h : strict ∨ AsksData request) :
    (commandMessage L cfg me request).Couples (Agree V strict σ τ) := by
  refine Prog.couples_tryCatch (processCommand_couples hme L cfg false h) fun e => ?_
  exact log_then_couples (by decide) (count_then_couples (Prog.couples_pure _))

theorem Agree.received {s t : St} (h : Agree V strict σ τ s t) (L : Libs) (request : Json) :
    Agree V strict σ τ (received L request s) (received L request t) := by
  have hreceive : (receive L request).Couples (Agree V strict σ τ) :=
    Prog.couples_bind (incrementMessage_couples _ _) fun _ => log_aside_couples _ _ _ (by decide)
  exact (hreceive s t h).2

end Couples

/-! ## one message -/

section Message
variable {L : Libs} {cfg : Config} {σ τ : String → Slice} {c : String} {s t : St}

/-- **A message of a session that is not logged in as `c` is handled the same whatever the slice of
`c` is, and leaves it as it is.** -/
theorem processMessage_others (h : Agree (· ≠ c) True σ τ s t) {sid : Nat}
    (hother : ¬ AuthenticatedAs s.world sid c) (text : Bytes) :
    ((processMessage L cfg sid text).run s).1 = ((processMessage L cfg sid text).run t).1 ∧
      Agree (· ≠ c) True σ τ ((processMessage L cfg sid text).run s).2
        ((processMessage L cfg sid text).run t).2 := by
  have hsessions := congrFun (h.sessions trivial) sid
  cases hp : L.parse text with
  | none =>
    unfold processMessage
    simp only [Prog.run_bind, Prog.run_get, hp]
    rw [hsessions]
    have hinvalid : (do
        log .warning "ClientSession"
          ("Invalid JSON format from clientIP: " ++ (t.core.sessions sid).clientIP) none
        incrementError .tcp .rx
        pure invalidJson : M ProcessResult).Couples (Agree (· ≠ c) True σ τ) :=
      log_then_couples (by decide) (count_then_couples (Prog.couples_pure _))
    exact hinvalid s t h
  | some request =>
    cases ha : (s.core.sessions sid).isAuthenticated with
    | true =>
      have hne : (s.core.sessions sid).clientID ≠ c := fun he => hother ⟨ha, he⟩
      have ha' : (t.core.sessions sid).isAuthenticated = true := by rw [← hsessions, ha]
      rw [run_processMessage_member L cfg hp ha, run_processMessage_member L cfg hp ha',
        ← hsessions]
      exact commandMessage_couples (V := (· ≠ c)) hne L cfg (.inl trivial) _ _
        (h.received L request)
    | false =>
      have ha' : (t.core.sessions sid).isAuthenticated = false := by rw [← hsessions, ha]
      rw [run_processMessage_guest L cfg hp ha, run_processMessage_guest L cfg hp ha',
        ← hsessions]
      exact loginMessage_couples trivial L cfg sid _ request _ _ (h.received L request)

/-- the text is a request for one of the data commands -/
def DataRequest (L : Libs) (text : Bytes) : Prop :=
  ∃ request, L.parse text = some request ∧ AsksData request

/-- **What a request of `c` for its data does and answers depends on the slice of `c` only**, and
not on the session of `c` that it comes over. -/
theorem processMessage_own (h : Agree (· = c) False σ τ s t) {sid sid' : Nat}
    (hs : AuthenticatedAs s.world sid c) (ht : AuthenticatedAs t.world sid' c) {text : Bytes}
    (hdata : DataRequest L text) :
    ((processMessage L cfg sid text).run s).1 = ((processMessage L cfg sid' text).run t).1 ∧
      Agree (· = c) False σ τ ((processMessage L cfg sid text).run s).2
        ((processMessage L cfg sid' text).run t).2 := by
  obtain ⟨request, hp, hasks⟩ := hdata
  have hsid : (s.core.sessions sid).clientID = c := hs.2
  have htid : (t.core.sessions sid').clientID = c := ht.2
  rw [run_processMessage_member L cfg hp hs.1, run_processMessage_member L cfg hp ht.1, hsid, htid]
  exact commandMessage_couples (V := (· = c)) rfl L cfg (.inr hasks) _ _ (h.received L request)

end Message

/-! ## sequences of messages -/

structure Message where
  sid : Nat
  text : Bytes
  env : Nat → Answer

instance (w : World) (sid : Nat) (user : String) : Decidable (AuthenticatedAs w sid user) :=
  inferInstanceAs (Decidable (_ ∧ _))

section Sequences
variable (L : Libs) (cfg : Config) (c : String)

def answerTo (w : World) (m : Message) : Except Exn ProcessResult :=
  ((processMessage L cfg m.sid m.text).run (w.facing m.env)).1

/-- the state after the message, whether it was answered or not -/
def handled (w : World) (m : Message) : World :=
  ((processMessage L cfg m.sid m.text).run (w.facing m.env)).2.world

/-- the replies that `c` receives; an exception that leaves `processMessage` ends the server -/
def repliesTo (w : World) : List Message → List ProcessResult
  | [] => []
  | m :: ms =>
    match answerTo L cfg w m with
    | .error _ => []
    | .ok answer =>
      if AuthenticatedAs w m.sid c then answer :: repliesTo (handled L cfg w m) ms
      else repliesTo (handled L cfg w m) ms

/-- the messages that come from sessions logged in as `c` -/
def ownMessages (w : World) : List Message → List Message
  | [] => []
  | m :: ms =>
    if AuthenticatedAs w m.sid c then m :: ownMessages (handled L cfg w m) ms
    else ownMessages (handled L cfg w m) ms

/-- the session of `c` that stands in for `sid` where the logins of others are left out: `sid`
itself, if it is logged in as `c` from the start, and otherwise `home` -/
def standIn (w : World) (home sid : Nat) : Nat := if AuthenticatedAs w sid c then sid else home

/-- the sequence without the messages of the other sessions -/
def alone (w : World) (home : Nat) (ms : List Message) : List Message :=
  (ownMessages L cfg c w ms).map fun m => { m with sid := standIn c w home m.sid }

/-- the message is of a session that is not logged in, a JSON text, and no object with a string as
its command or without one -/
def Unreadable (w : World) (m : Message) : Prop :=
  (w.core.sessions m.sid).isAuthenticated = false ∧
    ∃ request, L.parse m.text = some request ∧ ∀ command, request.value "command" "" ≠ .ok command

/-- a message is unreadable, and a request of `c` stands behind it -/
def CutShort (w : World) : List Message → Prop
  | [] => False
  | m :: ms => Unreadable L w m ∧ ownMessages L cfg c (handled L cfg w m) ms ≠ [] ∨
      ¬ Unreadable L w m ∧ CutShort (handled L cfg w m) ms

/-- the two states differ in the slice of `c` at most -/
structure DifferIn (w w' : World) : Prop where
  shared : w.core.shared = w'.core.shared
  others : ∀ client, client ≠ c → w.slice client = w'.slice client

structure Isolated (w : World) (home : Nat) (ms : List Message) : Prop where
  -- what is received is what would be received alone, up to where it ends
  received : repliesTo L cfg c w ms <+: repliesTo L cfg c w (alone L cfg c w home ms)
  complete : repliesTo L cfg c w ms = repliesTo L cfg c w (alone L cfg c w home ms) ↔
    ¬ CutShort L cfg c w ms
  -- only a session that is not logged in can send what throws
  thrower : ∀ v m, (∃ e, answerTo L cfg v m = .error e) ↔ Unreadable L v m
  unchanged : ∀ v m, ¬ AuthenticatedAs v m.sid c → (handled L cfg v m).slice c = v.slice c
  independent : ∀ v v' m, ¬ AuthenticatedAs v m.sid c → DifferIn c v v' →
    answerTo L cfg v m = answerTo L cfg v' m ∧ DifferIn c (handled L cfg v m) (handled L cfg v' m)

end Sequences

section Isolation
variable {L : Libs} {cfg : Config} {c : String} {w v : World} {m : Message}

/-! ## messages of the others -/

theorem DifferIn.refl (w : World) : DifferIn c w w := ⟨rfl, fun _ _ => rfl⟩

theorem DifferIn.agree (h : DifferIn c w v) (env : Nat → Answer) :
    Agree (· ≠ c) True w.slice v.slice (w.facing env) (v.facing env) where
  env := rfl
  inside := h.others
  outside _ _ := ⟨rfl, rfl⟩
  known client _ := by
    have husers : w.core.users = v.core.users := congrArg (·.1) h.shared
    show (w.core.users.find? client).isSome = (v.core.users.find? client).isSome
    rw [husers]
  shared _ := h.shared

theorem handled_others (h : DifferIn c w v) (hother : ¬ AuthenticatedAs w m.sid c) :
    answerTo L cfg w m = answerTo L cfg v m ∧
      DifferIn c (handled L cfg w m) (handled L cfg v m) := by
  obtain ⟨hanswer, hagree⟩ := processMessage_others (h.agree m.env) hother m.text
  exact ⟨hanswer, hagree.shared trivial, hagree.inside⟩

theorem slice_handled (hother : ¬ AuthenticatedAs w m.sid c) :
    (handled L cfg w m).slice c = w.slice c := by
  obtain ⟨-, hagree⟩ := @processMessage_others L cfg _ _ c _ _ ((DifferIn.refl w).agree m.env) m.sid
    hother m.text
  exact (hagree.outside c fun hne => hne rfl).1

/-! ## requests of the client -/

/-- the full run is in `w` where the run of `c` alone is in `v` -/
structure Alike (c : String) (via : Nat → Nat) (w v : World) : Prop where
  slice : w.slice c = v.slice c
  known : (w.core.users.find? c).isSome ∧ (v.core.users.find? c).isSome
  sessions : ∀ sid, AuthenticatedAs v (via sid) c

theorem handled_stepped (L : Libs) (cfg : Config) (w : World) (m : Message) :
    Stepped L cfg w ⟨.message m.sid m.text, m.env⟩ (handled L cfg w m).core := by
  have hstepped := stepped_after L cfg w ⟨.message m.sid m.text, m.env⟩
  rwa [after_message rfl] at hstepped

theorem Alike.others {via : Nat → Nat} (h : Alike c via w v)
    (hother : ¬ AuthenticatedAs w m.sid c) : Alike c via (handled L cfg w m) v where
  slice := (slice_handled hother).trans h.slice
  known := ⟨(handled_stepped L cfg w m).usersKept c h.known.1, h.known.2⟩
  sessions := h.sessions

theorem Alike.own {via : Nat → Nat} (h : Alike c via w v) (hown : AuthenticatedAs w m.sid c)
    (hdata : DataRequest L m.text) :
    answerTo L cfg w m = answerTo L cfg v { m with sid := via m.sid } ∧
      Alike c via (handled L cfg w m) (handled L cfg v { m with sid := via m.sid }) := by
  have hagree : Agree (· = c) False w.slice v.slice (w.facing m.env) (v.facing m.env) := by
    refine ⟨rfl, ?_, fun _ _ => ⟨rfl, rfl⟩, ?_, False.elim⟩
    · rintro client rfl
      exact h.slice
    · rintro client rfl
      exact h.known.1.trans h.known.2.symm
  obtain ⟨hanswer, hagree'⟩ := @processMessage_own L cfg _ _ c _ _ hagree m.sid (via m.sid) hown
    (h.sessions m.sid) m.text hdata
  refine ⟨hanswer, hagree'.inside c rfl, ?_, ?_⟩
  · exact ⟨(handled_stepped L cfg w m).usersKept c h.known.1,
      (handled_stepped L cfg v { m with sid := via m.sid }).usersKept c h.known.2⟩
  · intro sid
    exact (authenticatedAs_step (handled_stepped L cfg v { m with sid := via m.sid }) (via sid)
      c).mpr (.inl (h.sessions sid))

/-- a request of a session that is logged in is answered -/
theorem answerTo_own (hown : AuthenticatedAs w m.sid c) (hdata : DataRequest L m.text) :
    ∃ answer, answerTo L cfg w m = .ok answer := by
  obtain ⟨request, hp, -⟩ := hdata
  obtain ⟨answer, s', hrun⟩ := commandMessage_returns L cfg (w.core.sessions m.sid).clientID request
    (received L request (w.facing m.env))
  refine ⟨answer, ?_⟩
  unfold answerTo
  rw [run_processMessage_member L cfg hp hown.1]
  exact congrArg Prod.fst hrun

theorem thrower_iff : (∃ e, answerTo L cfg w m = .error e) ↔ Unreadable L w m := by
  have hreturns := processMessage_returns_value_iff L cfg m.sid m.text (w.facing m.env)
  unfold answerTo Unreadable
  unfold Prog.Returns at hreturns
  generalize (processMessage L cfg m.sid m.text).run (w.facing m.env) = r at hreturns ⊢
  obtain ⟨r, s'⟩ := r
  cases r with
  | ok answer =>
    refine iff_of_false nofun ?_
    rintro ⟨hguest, request, hp, hno⟩
    obtain ⟨command, hvalue⟩ := hreturns.mp ⟨answer, s', rfl⟩ hguest request hp
    exact hno command hvalue
  | error e =>
    refine iff_of_true ⟨e, rfl⟩ ?_
    by_contra hreadable
    obtain ⟨answer, s'', hrun⟩ := hreturns.mpr fun hguest request hp => by
      by_contra hno
      exact hreadable ⟨hguest, request, hp, fun command hvalue => hno ⟨command, hvalue⟩⟩
    cases hrun

/-- an answered message leaves what stands behind it -/
theorem cutShort_answered {answer : ProcessResult} (h : answerTo L cfg w m = .ok answer)
    (ms : List Message) : CutShort L cfg c w (m :: ms) ↔ CutShort L cfg c (handled L cfg w m) ms := by
  have hreadable : ¬ Unreadable L w m := by
    rw [← @thrower_iff L cfg, h]
    exact nofun
  rw [CutShort, and_iff_right hreadable]
  exact or_iff_right fun hcut => hreadable hcut.1

/-! ## the two runs -/

theorem repliesTo_own (hown : AuthenticatedAs w m.sid c) {answer : ProcessResult}
    (hanswer : answerTo L cfg w m = .ok answer) (ms : List Message) :
    repliesTo L cfg c w (m :: ms) = answer :: repliesTo L cfg c (handled L cfg w m) ms := by
  rw [repliesTo, hanswer]
  exact if_pos hown

/-- where only `c` sends, nothing is left unanswered -/
theorem repliesTo_alone_eq_nil_iff {via : Nat → Nat} (hvia : ∀ sid, AuthenticatedAs v (via sid) c)
    {ms : List Message} (hdata : ∀ m ∈ ms, DataRequest L m.text) :
    repliesTo L cfg c v (ms.map fun m => { m with sid := via m.sid }) = [] ↔ ms = [] := by
  cases ms with
  | nil => exact iff_of_true rfl rfl
  | cons m ms =>
    refine iff_of_false ?_ (List.cons_ne_nil m ms)
    obtain ⟨answer, hanswer⟩ := @answerTo_own L cfg c v { m with sid := via m.sid } (hvia m.sid)
      (hdata m List.mem_cons_self)
    rw [List.map_cons, repliesTo_own (hvia m.sid) hanswer]
    exact List.cons_ne_nil _ _

/-- the replies in two runs that start alike -/
theorem Alike.replies {via : Nat → Nat} (ms : List Message) (h : Alike c via w v)
    (hdata : ∀ m ∈ ownMessages L cfg c w ms, DataRequest L m.text) :
    let own := (ownMessages L cfg c w ms).map fun m => { m with sid := via m.sid }
    repliesTo L cfg c w ms <+: repliesTo L cfg c v own ∧
      (repliesTo L cfg c w ms = repliesTo L cfg c v own ↔ ¬ CutShort L cfg c w ms) := by
  induction ms generalizing w v with
  | nil => exact ⟨List.prefix_rfl, iff_of_true rfl id⟩
  | cons m ms ih =>
    by_cases hown : AuthenticatedAs w m.sid c
    · have hcons : ownMessages L cfg c w (m :: ms) =
          m :: ownMessages L cfg c (handled L cfg w m) ms := if_pos hown
      rw [hcons] at hdata ⊢
      have hm := hdata m List.mem_cons_self
      obtain ⟨answer, hanswer⟩ := @answerTo_own L cfg c w m hown hm
      obtain ⟨hsame, hnext⟩ := @Alike.own L cfg c w v m via h hown hm
      obtain ⟨hle, hiff⟩ := ih hnext fun m' hm' => hdata m' (List.mem_cons_of_mem m hm')
      dsimp only
      rw [List.map_cons, repliesTo_own hown hanswer,
        repliesTo_own (h.sessions m.sid) (hsame.symm.trans hanswer), cutShort_answered hanswer,
        List.cons_inj_right]
      exact ⟨(List.prefix_cons_inj answer).mpr hle, hiff⟩
    · have hcons : ownMessages L cfg c w (m :: ms) =
          ownMessages L cfg c (handled L cfg w m) ms := if_neg hown
      rw [hcons] at hdata ⊢
      cases hanswer : answerTo L cfg w m with
      | error e =>
        have hnil : repliesTo L cfg c w (m :: ms) = [] := by rw [repliesTo, hanswer]
        have hcut : CutShort L cfg c w (m :: ms) ↔
            ownMessages L cfg c (handled L cfg w m) ms ≠ [] := by
          have hunreadable := thrower_iff.mp ⟨e, hanswer⟩
          rw [CutShort, and_iff_right hunreadable]
          exact or_iff_left fun hcut => hcut.1 hunreadable
        dsimp only
        rw [hnil, hcut, not_not, eq_comm, repliesTo_alone_eq_nil_iff h.sessions hdata]
        exact ⟨List.nil_prefix, Iff.rfl⟩
      | ok answer =>
        have hskip : repliesTo L cfg c w (m :: ms) = repliesTo L cfg c (handled L cfg w m) ms := by
          rw [repliesTo, hanswer]
          exact if_neg hown
        rw [hskip, cutShort_answered hanswer]
        exact ih (h.others hown) hdata

end Isolation

/-- **Isolation of a client that is logged in, from every state of the server.** -/
theorem client_isolated_iff (L : Libs) (cfg : Config) (core : Core) (journal : Journal)
    (ips : Nat → String) (inputs : List LifeInput) (w : World)
    (hrun : runFrom (lifeStep L cfg) (.start core journal ips) inputs = some w) (c : String)
    (home : Nat) (hhome : AuthenticatedAs w home c) (ms : List Message)
    (hdata : ∀ m ∈ ownMessages L cfg c w ms, DataRequest L m.text) :
    Isolated L cfg c w home ms := by
  have hknown := members_run hrun home c hhome
  have hvia : ∀ sid, AuthenticatedAs w (standIn c w home sid) c := by
    intro sid
    unfold standIn
    by_cases hsid : AuthenticatedAs w sid c
    · rwa [if_pos hsid]
    · rwa [if_neg hsid]
  obtain ⟨hreceived, hcomplete⟩ := Alike.replies ms ⟨rfl, ⟨hknown, hknown⟩, hvia⟩ hdata
  exact ⟨hreceived, hcomplete, fun _ _ => thrower_iff, fun _ _ => slice_handled,
    fun _ _ _ hother h => handled_others h hother⟩

/-! Alice is logged in on the session 0, and someone who is not sends on the session 1. -/

def crowdLibs : Libs := .known [aliceLogin, waterUpdate, .arr []]

def aliceJoins : List LifeInput := [.input ⟨.message 0 (bytesOf aliceLogin.render), healthy⟩]

theorem aliceJoins_isSome :
    (runFrom (lifeStep crowdLibs .sample) aliceStart aliceJoins).isSome := rfl

def aliceJoined : World :=
  (runFrom (lifeStep crowdLibs .sample) aliceStart aliceJoins).get aliceJoins_isSome

/-- the session 1 sends `text`, and then alice reports five units of water -/
def afterStranger (text : String) : List Message :=
  [⟨1, bytesOf text, healthy⟩, ⟨0, bytesOf waterUpdate.render, healthy⟩]

theorem client_isolated_nonsense :
    (repliesTo crowdLibs .sample "alice" aliceJoined (afterStranger "nonsense")).length = 1 ∧
      Isolated crowdLibs .sample "alice" aliceJoined 0 (afterStranger "nonsense") := by
  refine ⟨rfl, client_isolated_iff crowdLibs .sample (.boot aliceUsers .empty fun _ => "") .empty
    (fun _ => "10.0.0.1") aliceJoins aliceJoined (Option.some_get aliceJoins_isSome).symm "alice" 0
    ⟨rfl, rfl⟩ (afterStranger "nonsense") ?_⟩
  have hown : ownMessages crowdLibs .sample "alice" aliceJoined (afterStranger "nonsense") =
      [⟨0, bytesOf waterUpdate.render, healthy⟩] := rfl
  intro m hm
  rw [hown] at hm
  obtain rfl := List.mem_singleton.mp hm
  exact ⟨waterUpdate, rfl, "update_stock", by decide, rfl⟩

/-- after the text `[]` of a stranger alice gets no reply, and without it one -/
theorem stranger_array_silences_alice :
    AuthenticatedAs aliceJoined 0 "alice" ∧
      repliesTo crowdLibs .sample "alice" aliceJoined (afterStranger "[]") = [] ∧
      (repliesTo crowdLibs .sample "alice" aliceJoined
        (alone crowdLibs .sample "alice" aliceJoined 0 (afterStranger "[]"))).length = 1 :=
  ⟨⟨rfl, rfl⟩, rfl, rfl⟩

end Logistics
