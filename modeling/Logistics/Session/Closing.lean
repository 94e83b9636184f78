import Logistics.Session.Audit
import Logistics.Session.ErrorCount
import Logistics.Session.Handlers

/-!
# Which requests end the connection

A handler answers `keepAlive = true` unless it is that of `end`.  An exception that it does not
catch is answered by the `catch` of `processMessage`, which closes the connection.  Over a database
that only refuses what violates a constraint, two requests get there: one whose command is no
string, since the field is read outside of every handler, and a registration that the table refuses,
since `createUser` throws where its caller expects `false`.

* `Stays`              the program answers and keeps the connection; one lemma per handler;
* `KeptOpen`           bad input is answered with an error and does not end the connection;
* `kept_open_iff`      **so it is, except for those two requests**.
-/

namespace Logistics
open Runs

/-- the program answers and keeps the connection -/
def Stays (p : M ProcessResult) (s : St) : Prop := ∃ answer s', p.run s = (.ok (answer, true), s')

/-! ## programs -/

section Programs
variable {s : St}

theorem stays_bind {α : Type} {q : M α} {f : α → M ProcessResult} {a : α} {s' : St}
    (hq : q.run s = (.ok a, s')) (hf : Stays (f a) s') : Stays (q >>= f) s := by
  unfold Stays
  rw [Prog.run_bind, hq]
  exact hf

theorem stays_log {level : LogLevel} {component message : String} {clientId : Option String}
    {f : Unit → M ProcessResult} (hf : ∀ s', Stays (f ()) s') :
    Stays (log level component message clientId >>= f) s :=
  stays_bind (run_log level component message clientId s) (hf _)

theorem stays_reply (L : Libs) (status message : String) :
    Stays (pure (reply L status message)) s := ⟨_, s, rfl⟩

theorem stays_count {f : Unit → M ProcessResult} (hf : ∀ s', Stays (f ()) s') :
    Stays (incrementError .tcp .rx >>= f) s :=
  stays_bind (run_incrementError .tcp .rx s) (hf _)

theorem refuse_stays (L : Libs) (message note clientId : String) (s : St) :
    Stays (refuse L message note clientId) s :=
  stays_count fun _ => stays_log fun _ => stays_reply L "error" message

theorem refuseUncounted_stays (L : Libs) (message note clientId : String) (s : St) :
    Stays (refuseUncounted L message note clientId) s :=
  stays_log fun _ => stays_reply L "error" message

/-- a handler that reads its fields and goes on: what `json` throws is caught -/
theorem stays_catchJson {α : Type} {fields : Except JsonError α} {f : α → M ProcessResult}
    {handler : JsonError → M ProcessResult} (hf : ∀ a, fields = .ok a → Stays (f a) s)
    (hh : ∀ e s', Stays (handler e) s') : Stays (catchJson (json fields >>= f) handler) s := by
  cases hfields : fields with
  | error e => exact hh e s
  | ok a =>
    obtain ⟨answer, s', hrun⟩ := hf a hfields
    refine ⟨answer, s', ?_⟩
    unfold catchJson
    rw [json_ok_bind, Prog.run_tryCatch, hrun]

end Programs

/-! ## handlers -/

section Handlers
variable {L : Libs} {cfg : Config} {me : String} {request : Json} {s : St}

theorem summaryLocked_returns (me : String) (hhealthy : s.Healthy) :
    (summaryLocked me).Returns s := by
  by_cases hcached : me ∈ s.core.cache.fullyCachedClients
  · exact ⟨_, _, run_summaryLocked_hit hcached⟩
  · unfold Prog.Returns
    rw [run_summaryLocked_miss hcached, hhealthy 0]
    simp only [Bool.false_eq_true, if_false]
    cases fullInventoryOf s.core.stock me with
    | none => exact ⟨_, _, rfl⟩
    | some map => exact ⟨_, _, rfl⟩

theorem handleGetInventoryCommand_stays (hhealthy : s.Healthy) :
    Stays (handleGetInventoryCommand L me) s := by
  obtain ⟨inventoryMap, s', hrun⟩ := summaryLocked_returns me (hhealthy.logged .info
    "Inventory" ("Full inventory summary requested for client " ++ me ++ ".") (some me))
  refine stays_bind ((run_getInventorySummary me s).trans hrun) ?_
  cases inventoryMap with
  | none => exact stays_count fun _ => stays_log fun _ => stays_reply L "error" _
  | some map => exact stays_log fun s'' => ⟨_, s'', rfl⟩

theorem handleGetStockCommand_stays (hhealthy : s.Healthy) :
    Stays (handleGetStockCommand L request me) s := by
  refine stays_catchJson ?_ fun e s' => refuse_stays L _ _ me s'
  rintro ⟨category, item⟩ -
  have hreturns : (getStock me category item).Returns s := by
    cases hcached : s.core.cache.stock? me category item with
    | some quantity => exact ⟨_, _, run_getStock_hit hcached⟩
    | none =>
      unfold Prog.Returns
      rw [run_getStock_miss hcached, hhealthy 0]
      simp only [Bool.false_eq_true, if_false]
      cases s.core.stock.find? ⟨me, category, item⟩ with
      | none => exact ⟨_, _, rfl⟩
      | some quantity => exact ⟨_, _, rfl⟩
  obtain ⟨result, s', hrun⟩ := hreturns
  refine stays_bind hrun ?_
  cases result with
  | some quantity => exact ⟨_, s', rfl⟩
  | none => exact stays_count fun _ => stays_reply L "error" _

theorem handleGetHistoryCommand_stays (hhealthy : s.Healthy) :
    Stays (handleGetHistoryCommand L me) s := by
  have hrun := run_getInventoryHistoryTransaction me s
  rw [hhealthy 0, if_neg Bool.false_ne_true] at hrun
  exact stays_bind hrun (stays_log fun s' => ⟨_, s', rfl⟩)

/-- no constraint refuses an update of a user of the table -/
theorem handleUpdateStockCommand_stays (hhealthy : s.Healthy)
    (huser : (s.core.users.find? me).isSome) : Stays (handleUpdateStockCommand L request me) s := by
  unfold handleUpdateStockCommand
  by_cases hub : isHub me = true
  · rw [if_pos hub]
    exact refuse_stays L _ _ me s
  · rw [if_neg hub]
    refine stays_catchJson ?_ fun e s' => refuse_stays L _ _ me s'
    rintro ⟨category, item, quantity⟩ -
    have hreturns : (updateStock me category item quantity).Returns s := by
      by_cases hneg : quantity < 0
      · exact ⟨_, _, run_updateStock_negative me category item hneg s⟩
      · cases hvalid : (validateInventory category item).success with
        | false => exact ⟨_, _, run_updateStock_invalid me hneg hvalid s⟩
        | true =>
          obtain ⟨stock, hstock⟩ := stockAfter_isSome huser hvalid quantity
          unfold Prog.Returns
          rw [run_updateStock_valid me hneg hvalid, hhealthy 0, hstock]
          exact ⟨_, _, rfl⟩
    obtain ⟨result, s', hrun⟩ := hreturns
    refine stays_bind hrun ?_
    show Stays (updateStockReply L result) s'
    unfold updateStockReply
    cases result.success with
    | true => exact stays_reply L "success" _
    | false => exact stays_count fun _ => stays_reply L "error" _

theorem unlockClient_returns (user : String) (hhealthy : s.Healthy) :
    (unlockClient user).Returns s := by
  obtain ⟨users, hupdate⟩ := update?_setLocked s.core.users user false
  unfold unlockClient changeLock
  have hset := run_setClientLockStatus user false s
  rw [hhealthy 0, hupdate] at hset
  refine Prog.returns_bind ⟨_, _, hset⟩ fun success s' => Prog.returns_ite ?_ ?_
  · exact Prog.returns_bind (log_returns _ _ _ _ s') fun _ _ => ⟨_, _, rfl⟩
  · exact Prog.returns_bind (log_returns _ _ _ _ s') fun _ _ => ⟨_, _, rfl⟩

theorem handleUnlockClientCommand_stays (hhealthy : s.Healthy) :
    Stays (handleUnlockClientCommand L cfg request me) s := by
  unfold handleUnlockClientCommand
  by_cases hadmin : me = "admin"
  · rw [if_pos hadmin]
    refine stays_catchJson ?_ fun e s' => refuse_stays L _ _ me s'
    rintro ⟨secretPhrase, user⟩ -
    show Stays (if secretPhrase = cfg.secretPhrase then _ else _) s
    by_cases hphrase : secretPhrase = cfg.secretPhrase
    · rw [if_pos hphrase]
      obtain ⟨success, s', hrun⟩ := unlockClient_returns user hhealthy
      refine stays_bind hrun ?_
      unfold unlockReply
      cases success with
      | true => exact stays_reply L "success" _
      | false => exact refuse_stays L _ _ me s'
    · rw [if_neg hphrase]
      exact refuse_stays L _ _ me s
  · rw [if_neg hadmin]
    exact refuse_stays L _ _ me s

/-- the registration of a name that is taken or empty -/
def RefusedRegistration (me : String) (request : Json) (c : Core) : Prop :=
  me = "admin" ∧ request.atString "command" = .ok "register_user" ∧
    ∃ user password, registerFields request = .ok (user, password) ∧
      ((c.users.find? user).isSome ∨ sqlLength user = 0)

theorem insert?_eq_none_iff {users : Users} {user hash : String} :
    users.insert? user ⟨hash, 0, 0, 0⟩ = none ↔ (users.find? user).isSome ∨ sqlLength user = 0 := by
  unfold Table.insert?
  by_cases hcheck : userCheck user ⟨hash, 0, 0, 0⟩
  · have hname : sqlLength user ≠ 0 := Nat.pos_iff_ne_zero.mp hcheck.1
    rw [dif_pos hcheck]
    cases users.find? user with
    | none => simp [hname]
    | some row => simp
  · rw [dif_neg hcheck]
    have hname : sqlLength user = 0 := by
      by_contra hne
      exact hcheck ⟨Nat.pos_of_ne_zero hne, show (0 : Int) ≤ 3 by decide⟩
    exact iff_of_true rfl (.inr hname)

theorem handleRegisterUser_stays (hhealthy : s.Healthy)
    (hcommand : request.atString "command" = .ok "register_user")
    (hno : ¬ RefusedRegistration me request s.core) :
    Stays (handleRegisterUser L request me) s := by
  unfold handleRegisterUser
  by_cases hadmin : me = "admin"
  · rw [if_pos hadmin]
    refine stays_catchJson ?_ fun e s' => refuseUncounted_stays L _ _ me s'
    rintro ⟨user, password⟩ hfields
    have hrun := run_createUser L user password s
    rw [hhealthy 0, if_neg Bool.false_ne_true] at hrun
    cases hinsert : s.core.users.insert? user
        ⟨L.generateHash (s.env 0).salt password, 0, 0, 0⟩ with
    | none =>
      exact absurd ⟨hadmin, hcommand, user, password, hfields, insert?_eq_none_iff.mp hinsert⟩ hno
    | some users =>
      rw [hinsert] at hrun
      exact stays_bind hrun (stays_log fun _ => stays_reply L "success" _)
  · rw [if_neg hadmin]
    exact refuseUncounted_stays L _ _ me s

/-- a registration that the table refuses throws, and the handler does not catch it -/
theorem handleRegisterUser_throws (hhealthy : s.Healthy)
    (h : RefusedRegistration me request s.core) :
    ∃ s', (handleRegisterUser L request me).run s = (.error (.sqlite .constraint), s') := by
  obtain ⟨hadmin, -, user, password, hfields, hrefused⟩ := h
  unfold handleRegisterUser catchJson
  rw [if_pos hadmin, hfields, json_ok_bind, Prog.run_tryCatch]
  dsimp only
  rw [Prog.run_bind, run_createUser, hhealthy 0, insert?_eq_none_iff.mpr hrefused]
  exact ⟨_, rfl⟩

/-- **Every command but `end` keeps the connection, unless it is a registration that is
refused.** -/
theorem dispatch_stays {cmd : String} (hhealthy : s.Healthy)
    (huser : (s.core.users.find? me).isSome) (hcommand : request.atString "command" = .ok cmd)
    (hend : cmd ≠ "end") (hno : ¬ RefusedRegistration me request s.core) :
    Stays (dispatch L cfg request me false cmd) s := by
  unfold dispatch
  by_cases hstatus : cmd = "status"
  · rw [if_pos hstatus]
    exact stays_reply L "success" _
  rw [if_neg hstatus, if_neg Bool.false_ne_true, if_neg hend]
  by_cases hinventory : cmd = "get_inventory"
  · rw [if_pos hinventory]
    exact handleGetInventoryCommand_stays hhealthy
  rw [if_neg hinventory]
  by_cases hupdate : cmd = "update_stock"
  · rw [if_pos hupdate]
    exact handleUpdateStockCommand_stays hhealthy huser
  rw [if_neg hupdate]
  by_cases hstock : cmd = "get_stock"
  · rw [if_pos hstock]
    exact handleGetStockCommand_stays hhealthy
  rw [if_neg hstock]
  by_cases hhistory : cmd = "get_history"
  · rw [if_pos hhistory]
    exact handleGetHistoryCommand_stays hhealthy
  rw [if_neg hhistory]
  by_cases hunlock : cmd = "unlock_client"
  · rw [if_pos hunlock]
    exact handleUnlockClientCommand_stays hhealthy
  rw [if_neg hunlock]
  by_cases hregister : cmd = "register_user"
  · rw [if_pos hregister]
    rw [hregister] at hcommand
    exact handleRegisterUser_stays hhealthy hcommand hno
  · rw [if_neg hregister]
    exact stays_log fun _ => stays_reply L "success" _

end Handlers

/-! ## messages -/

/-- the request has a command, and it is no string -/
def Unnamed (request : Json) : Prop :=
  ∃ command e, request.field? "command" = some command ∧ command.getString = .error e

theorem atString_of_field {request command : Json} (h : request.field? "command" = some command) :
    request.atString "command" = command.getString := by
  unfold Json.atString
  rw [Json.atKey_eq_ok_iff.mpr h]

section Messages
variable (L : Libs) (cfg : Config) {me : String} {request : Json} {s : St}

theorem commandMessage_end (me : String) (s : St)
    (hend : request.atString "command" = .ok "end") :
    ∃ s', (commandMessage L cfg me request).run s =
      (.ok ((reply L "success" "Goodbye!").1, false), s') := by
  unfold commandMessage
  rw [processCommand_eq_dispatch L cfg hend]
  unfold dispatch handleEndCommand
  rw [if_neg (by decide), if_neg Bool.false_ne_true, if_pos rfl, Prog.run_tryCatch, Prog.run_bind,
    run_log]
  exact ⟨_, rfl⟩

theorem commandMessage_stays (hhealthy : s.Healthy) (huser : (s.core.users.find? me).isSome)
    (hend : request.atString "command" ≠ .ok "end") (hnamed : ¬ Unnamed request)
    (hno : ¬ RefusedRegistration me request s.core) :
    Stays (commandMessage L cfg me request) s := by
  have hstays : Stays (processCommand L cfg request me false) s := by
    cases hfield : request.field? "command" with
    | none =>
      unfold processCommand
      rw [hfield]
      exact stays_log fun _ => stays_count fun _ => stays_reply L "error" _
    | some command =>
      cases hstring : command.getString with
      | error e => exact absurd ⟨command, e, hfield, hstring⟩ hnamed
      | ok cmd =>
        have hcommand : request.atString "command" = .ok cmd := by
          rw [atString_of_field hfield, hstring]
        rw [processCommand_eq_dispatch L cfg hcommand]
        refine dispatch_stays hhealthy huser hcommand ?_ hno
        rintro rfl
        exact hend hcommand
  obtain ⟨answer, s', hrun⟩ := hstays
  refine ⟨answer, s', ?_⟩
  unfold commandMessage
  rw [Prog.run_tryCatch, hrun]

/-- what is thrown out of `processCommand` is answered with an error that closes the connection -/
theorem commandMessage_closes {e : Exn} {s' : St}
    (h : (processCommand L cfg request me false).run s = (.error e, s')) :
    ∃ s'', (commandMessage L cfg me request).run s = (.ok (internalError L), s'') := by
  unfold commandMessage commandFailed
  rw [Prog.run_tryCatch, h]
  dsimp only
  rw [Prog.run_bind, run_log]
  exact ⟨_, rfl⟩

theorem commandMessage_dropped (hhealthy : s.Healthy)
    (h : Unnamed request ∨ RefusedRegistration me request s.core) :
    ∃ s', (commandMessage L cfg me request).run s = (.ok (internalError L), s') := by
  rcases h with ⟨command, e, hfield, hstring⟩ | hrefused
  · have hrun : (processCommand L cfg request me false).run s = (.error (.json e), s) := by
      unfold processCommand
      rw [hfield]
      dsimp only
      rw [hstring]
      rfl
    exact commandMessage_closes L cfg hrun
  · obtain ⟨s', hrun⟩ := handleRegisterUser_throws (L := L) hhealthy hrefused
    rw [← dispatch_register_user L cfg, ← processCommand_eq_dispatch L cfg hrefused.2.1] at hrun
    exact commandMessage_closes L cfg hrun

end Messages

/-- what becomes of the request of a member: only `end` closes the connection, and an error changes
nothing and closes nothing -/
structure KeptOpen (L : Libs) (cfg : Config) (sid : Nat) (text : Bytes) (request : Json) (s : St) :
    Prop where
  answered : ∃ answer keep s', (processMessage L cfg sid text).run s = (.ok (answer, keep), s') ∧
    (answer.status = some "success" ∨
      answer.status = some "error" ∧ keep = true ∧ s'.core = s.core)
  closes : ∀ answer s', (processMessage L cfg sid text).run s = (.ok (answer, false), s') →
    request.atString "command" = .ok "end"

/-- **Bad input is answered and does not end the connection, unless its command is no string or it
registers a name that is taken or empty.** -/
theorem kept_open_iff (L : Libs) (cfg : Config) (w : World) (env : Nat → Answer) (sid : Nat)
    (me : String) (text : Bytes) (request : Json) (hmember : AuthenticatedAs w sid me)
    (huser : (w.core.users.find? me).isSome) (hparse : L.parse text = some request)
    (hhealthy : ∀ n, (env n).fails = false) :
    KeptOpen L cfg sid text request (w.facing env) ↔
      ¬ Unnamed request ∧ ¬ RefusedRegistration me request w.core := by
  have hauth : ((w.facing env).core.sessions sid).isAuthenticated = true := hmember.1
  have hid : ((w.facing env).core.sessions sid).clientID = me := hmember.2
  have hrun := run_processMessage_member L cfg hparse hauth
  rw [hid] at hrun
  have hreceived : (received L request (w.facing env)).core = w.core := received_core L request _
  have hhealthy' : (received L request (w.facing env)).Healthy := by
    intro n
    rw [received_env]
    exact hhealthy (n + 2)
  constructor
  · intro h
    rw [← not_or]
    intro hdropped
    rw [← hreceived] at hdropped
    obtain ⟨s', hclosed⟩ := commandMessage_dropped L cfg hhealthy' hdropped
    have hend := h.closes _ s' (hrun.trans hclosed)
    rcases hdropped with ⟨command, e, hfield, hstring⟩ | hrefused
    · rw [atString_of_field hfield, hstring] at hend
      cases hend
    · exact command_ne hrefused.2.1 (by decide) hend
  · rintro ⟨hnamed, hno⟩
    obtain ⟨answer, keep, s', houtcome_run, houtcome⟩ :=
      commandMessage_outcome L cfg me request (received L request (w.facing env))
    rw [hreceived] at houtcome
    have hframe := houtcome.frame
    by_cases hend : request.atString "command" = .ok "end"
    · obtain ⟨s'', hgoodbye⟩ := commandMessage_end L cfg me (received L request (w.facing env)) hend
      exact ⟨⟨_, _, s'', hrun.trans hgoodbye, .inl (status_reply L _ _)⟩, fun _ _ _ => hend⟩
    · rw [← hreceived] at hno huser
      obtain ⟨answer', s'', hstays⟩ := commandMessage_stays L cfg hhealthy' huser hend
        hnamed hno
      rw [houtcome_run] at hstays
      cases hstays
      refine ⟨⟨answer, true, s', hrun.trans houtcome_run, ?_⟩, ?_⟩
      · rcases hframe.status with herror | hsuccess
        · exact .inr ⟨herror, rfl, hframe.error herror⟩
        · exact .inl hsuccess
      · intro answer₁ s₁ hclosed
        rw [hrun, houtcome_run] at hclosed
        cases hclosed

/-! Alice, logged in, asks for the stock of an item without naming it. -/

def itemlessRequest : Json := .obj [("command", .str "get_stock"),
  ("payload", .obj [("category", .str "food")])]

theorem kept_open_itemless : AuthenticatedAs aliceWorld 0 "alice" ∧
    KeptOpen (.known [itemlessRequest]) .sample 0 (bytesOf itemlessRequest.render) itemlessRequest
      (aliceWorld.facing healthy) := by
  refine ⟨⟨rfl, rfl⟩, (kept_open_iff _ _ _ _ _ "alice" _ _ ⟨rfl, rfl⟩ rfl rfl fun _ => rfl).mpr ?_⟩
  constructor
  · rintro ⟨command, e, hfield, hstring⟩
    cases hfield
    cases hstring
  · rintro ⟨hadmin, -⟩
    exact absurd hadmin (by decide)

/-! The admin registers the name `admin` again, and sends a command that is a number. -/

def adminStart : World :=
  .start (.boot (Table.empty.put "admin" ⟨"#admin", 0, 0, 0⟩ (by decide)) .empty fun _ => "") .empty
    fun _ => "10.0.0.1"

def adminLogin : Json := .obj [("command", .str "login"),
  ("payload", .obj [("hostname", .str "admin"), ("password", .str "admin")])]

def registerAdmin : Json := .obj [("command", .str "register_user"),
  ("payload", .obj [("new_client_id", .str "admin"), ("new_client_password", .str "x")])]

def closingLibs : Libs := .known [adminLogin, registerAdmin, numberedCommand]

theorem adminRun_isSome : (runFrom (step closingLibs .sample) adminStart
    [⟨.message 0 (bytesOf adminLogin.render), healthy⟩]).isSome := by
  decide

def adminWorld : World := (runFrom (step closingLibs .sample) adminStart
  [⟨.message 0 (bytesOf adminLogin.render), healthy⟩]).get adminRun_isSome

theorem bad_input_closes : AuthenticatedAs adminWorld 0 "admin" ∧
    ((processMessage closingLibs .sample 0 (bytesOf registerAdmin.render)).run
      (adminWorld.facing healthy)).1 = .ok (internalError closingLibs) ∧
    ((processMessage closingLibs .sample 0 (bytesOf numberedCommand.render)).run
      (adminWorld.facing healthy)).1 = .ok (internalError closingLibs) ∧
    (internalError closingLibs).2 = false := ⟨⟨rfl, rfl⟩, rfl, rfl, rfl⟩

end Logistics
