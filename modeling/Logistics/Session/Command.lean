import Logistics.Store.Coherence
import Logistics.Session.Manager

/-!
# CommandProcessor: the commands of an authenticated client

One program per handler of `commandProcessor`, and `processCommand`, which dispatches on the field
`command`.  A handler that reads a payload reads it as a whole first (`updateFields`, ...): the
accessors throw in the order of the source, and a `json::exception` ends in the handler's own
error reply (`catchJson`).  Any other exception leaves `processCommand`.

A reply is the JSON value together with the text sent for it.

* `CommandOutcome`          a reply together with the core it comes with;
* `processCommand_answered` **a command that returns has one of these outcomes**;
* `CommandEffect`, `processCommand_effect`   the change of the core alone.
-/

namespace Logistics

structure Reply where
  body : Json
  text : String

def Reply.status (r : Reply) : Option String := r.body.status

/-- the reply and whether the connection is kept -/
abbrev ProcessResult := Reply × Bool

def Reply.dumped (L : Libs) (body : Json) : Reply := ⟨body, L.dump body⟩

def reply (L : Libs) (status message : String) : ProcessResult :=
  (.dumped L (statusReply status message), true)

@[simp] theorem status_reply (L : Libs) (status message : String) :
    (reply L status message).1.status = some status := status_statusReply status message

/-! ## payloads -/

def updateFields (cast : FloatCast) (request : Json) :
    Except JsonError (String × String × Int32) := do
  let payload ← request.atKey "payload"
  let category ← payload.atString "category"
  let item ← payload.atString "item"
  let quantity ← (← payload.atKey "quantity").getInt cast
  pure (category, item, quantity)

def stockFields (request : Json) : Except JsonError (String × String) := do
  let payload ← request.atKey "payload"
  let category ← payload.atString "category"
  let item ← payload.atString "item"
  pure (category, item)

def unlockFields (request : Json) : Except JsonError (String × String) := do
  let payload ← request.atKey "payload"
  let secretPhrase ← payload.atString "secret_phrase"
  let clientToUnlock ← payload.atString "client_to_unlock"
  pure (secretPhrase, clientToUnlock)

def registerFields (request : Json) : Except JsonError (String × String) := do
  let payload ← request.atKey "payload"
  let newClientId ← payload.atString "new_client_id"
  let newClientPassword ← payload.atString "new_client_password"
  pure (newClientId, newClientPassword)

/-! ## handlers -/

/-- an error reply that is counted and logged -/
def refuse (L : Libs) (message note clientId : String) : M ProcessResult := do
  incrementError .tcp .rx
  log .warning "CommandProcessor" note (some clientId)
  pure (reply L "error" message)

def handleStatusCommand (L : Libs) (isInMaintenance : Bool) : ProcessResult :=
  reply L "success" (if isInMaintenance then "STATUS: MAINTENANCE" else "STATUS: OK")

def handleEndCommand (L : Libs) (clientId : String) : M ProcessResult := do
  log .info "CommandProcessor" ("Requested disconnection via end command for client " ++ clientId)
    (some clientId)
  pure ((reply L "success" "Goodbye!").1, false)

/-- the conversion of a `ClientInventoryMap` to `json` -/
def inventoryJson (m : ClientInventoryMap) : Json :=
  .obj (m.toList.map fun (category, items) =>
    (category, .obj (items.toList.map fun (item, quantity) => (item, .int quantity.toInt))))

def handleGetInventoryCommand (L : Libs) (clientId : String) : M ProcessResult := do
  let inventoryMap ← getInventorySummary clientId
  match inventoryMap with
  | some map => do
    log .info "CommandProcessor" ("Inventory data retrieved for client " ++ clientId)
      (some clientId)
    pure (.dumped L ((statusReply "success"
      ("Inventory data for client " ++ clientId ++ " retrieved.")).set "data" (inventoryJson map)),
      true)
  | none => do
    incrementError .tcp .rx
    log .info "CommandProcessor" ("No inventory data found for client " ++ clientId)
      (some clientId)
    pure (reply L "error" ("Inventory data for client " ++ clientId ++ " is empty."))

def isHub (clientId : String) : Bool := "Hub".toList.isPrefixOf clientId.toList

def updateStockReply (L : Libs) (result : UpdateStockResult) : M ProcessResult :=
  if result.success then pure (reply L "success" result.message)
  else do
    incrementError .tcp .rx
    pure (reply L "error" result.message)

def handleUpdateStockCommand (L : Libs) (request : Json) (clientId : String) : M ProcessResult :=
  if isHub clientId then
    refuse L "update_stock command is not allowed for Hub clients."
      "update_stock command is not allowed for Hub clients." clientId
  else
    catchJson (do
        let (category, item, quantity) ← json (updateFields L.floatCast request)
        let result ← updateStock clientId category item quantity
        updateStockReply L result)
      fun _ => refuse L "Invalid or missing field in update_stock payload."
        "Invalid or missing field in update_stock payload." clientId

def stockReply (L : Libs) (category item : String) : Option Int32 → M ProcessResult
  | some quantity =>
    let data := ((Json.null.set "category" (.str category)).set "item" (.str item)).set
      "quantity" (.int quantity.toInt)
    pure (.dumped L ((statusReply "success" "Stock data retrieved successfully.").set "data" data),
      true)
  | none => do
    incrementError .tcp .rx
    pure (reply L "error" "Item not found for the specified client/category.")

def handleGetStockCommand (L : Libs) (request : Json) (clientId : String) : M ProcessResult :=
  catchJson (do
      let (category, item) ← json (stockFields request)
      let result ← getStock clientId category item
      stockReply L category item result)
    fun _ => refuse L "Invalid or missing field in get_stock payload."
      "Invalid or missing field in get_stock payload." clientId

def historyEntry (row : LogRow) : Json :=
  (((Json.null.set "timestamp" (.str row.timestamp)).set "message" (.str row.message)).set
    "component" (.str row.component)).set "level" (.str row.level)

def handleGetHistoryCommand (L : Libs) (clientId : String) : M ProcessResult := do
  let history ← getInventoryHistoryTransaction clientId
  log .info "CommandProcessor" ("Inventory history retrieved for client " ++ clientId)
    (some clientId)
  pure (.dumped L ((statusReply "success" "Inventory history retrieved.").set "data"
    (.arr (history.map historyEntry))), true)

def unlockReply (L : Libs) (clientId clientToUnlock : String) (success : Bool) :
    M ProcessResult :=
  if success then
    pure (reply L "success" ("Client `" ++ clientToUnlock ++ "` successfully unlocked."))
  else
    refuse L
      ("Couldn't unlock Client `" ++ clientToUnlock ++ "`. Client didn't found or misspelled.")
      ("Couldn't unlock Client `" ++ clientToUnlock ++ "`. Client didn't found or misspelled.")
      clientId

def handleUnlockClientCommand (L : Libs) (cfg : Config) (request : Json) (clientId : String) :
    M ProcessResult :=
  if clientId = "admin" then
    catchJson (do
        let (secretPhrase, clientToUnlock) ← json (unlockFields request)
        if secretPhrase = cfg.secretPhrase then do
          let success ← unlockClient clientToUnlock
          unlockReply L clientId clientToUnlock success
        else
          refuse L "Wrong secret phrase. Try again."
            "Wrong secret phrase provided for unlock_client command." clientId)
      fun _ => refuse L "Invalid or missing field in unlock_client payload."
        "Invalid or missing field in unlock_client payload." clientId
  else
    refuse L "Command only available for admin user."
      "Trying to execute admin commands with a invalid user." clientId

/-- an error reply that is logged but not counted -/
def refuseUncounted (L : Libs) (message note clientId : String) : M ProcessResult := do
  log .warning "CommandProcessor" note (some clientId)
  pure (reply L "error" message)

def registerReply (L : Libs) (clientId newClientId : String) (success : Bool) :
    M ProcessResult :=
  if success then do
    log .info "CommandProcessor" ("Client `" ++ newClientId ++ "` registered successfully.")
      (some clientId)
    pure (reply L "success" ("Client `" ++ newClientId ++ "` successfully registered."))
  else
    refuseUncounted L ("Couldn't register Client `" ++ newClientId ++ "`.")
      ("Couldn't register Client `" ++ newClientId ++ "`.") clientId

def handleRegisterUser (L : Libs) (request : Json) (clientId : String) : M ProcessResult :=
  if clientId = "admin" then
    catchJson (do
        let (newClientId, newClientPassword) ← json (registerFields request)
        let success ← createUser L newClientId newClientPassword
        registerReply L clientId newClientId success)
      fun _ => refuseUncounted L "Invalid or missing field in register_user payload."
        "Invalid or missing field in register_user payload." clientId
  else
    refuseUncounted L "Command only available for admin user."
      "Trying to execute admin commands with a invalid user." clientId

def unknownCommand (L : Libs) (cmd clientId : String) : M ProcessResult := do
  log .warning "CommandProcessor"
    ("Received unknown command '" ++ cmd ++ "' from client " ++ clientId) (some clientId)
  pure (reply L "success" "ACK: Unknown command received.")

/-- the handler of the command `cmd` -/
def dispatch (L : Libs) (cfg : Config) (request : Json) (clientId : String)
    (isInMaintenance : Bool) (cmd : String) : M ProcessResult :=
  if cmd = "status" then pure (handleStatusCommand L isInMaintenance)
  else if isInMaintenance then pure (reply L "error" "Server is in maintenance mode.")
  else if cmd = "end" then handleEndCommand L clientId
  else if cmd = "get_inventory" then handleGetInventoryCommand L clientId
  else if cmd = "update_stock" then handleUpdateStockCommand L request clientId
  else if cmd = "get_stock" then handleGetStockCommand L request clientId
  else if cmd = "get_history" then handleGetHistoryCommand L clientId
  else if cmd = "unlock_client" then handleUnlockClientCommand L cfg request clientId
  else if cmd = "register_user" then handleRegisterUser L request clientId
  else unknownCommand L cmd clientId

def processCommand (L : Libs) (cfg : Config) (request : Json) (clientId : String)
    (isInMaintenance : Bool) : M ProcessResult :=
  match request.field? "command" with
  | none => do
    log .warning "CommandProcessor"
      ("Request from client " ++ clientId ++ " is missing 'command' field.") (some clientId)
    incrementError .tcp .rx
    pure (reply L "error" "Missing 'command' field in request.")
  | some command => do
    let cmd ← json command.getString
    dispatch L cfg request clientId isInMaintenance cmd

/-! ## outcomes -/

theorem refuse_core (L : Libs) (message note clientId : String) (s : St) :
    ((refuse L message note clientId).run s).2.core = s.core := by
  unfold refuse
  rw [Prog.run_bind, run_incrementError]
  simp only [Prog.run_bind, run_log, Prog.run_pure, St.logged_core, incrementError_core]

theorem refuseUncounted_core (L : Libs) (message note clientId : String) (s : St) :
    ((refuseUncounted L message note clientId).run s).2.core = s.core := by
  unfold refuseUncounted
  rw [Prog.run_bind, run_log]
  exact St.logged_core s _ _ _ _

/-- the client whose `unlockClient` the request makes the server call -/
def unlockTarget (cfg : Config) (me : String) (request : Json) : Option String :=
  if me = "admin" ∧ request.atString "command" = .ok "unlock_client" then
    match unlockFields request with
    | .ok (secretPhrase, user) => if secretPhrase = cfg.secretPhrase then some user else none
    | .error _ => none
  else none

theorem unlockClient_change (client : String) (s : St) :
    LockChange false (Finset.erase · client) client s.core ((unlockClient client).run s).1
      ((unlockClient client).run s).2.core :=
  changeLock_spec false _ _ _ client s

/-- the commands whose success changes a table -/
def changesTable (cmd : String) : Prop :=
  cmd = "update_stock" ∨ cmd = "register_user" ∨ cmd = "unlock_client"

instance (cmd : String) : Decidable (changesTable cmd) := inferInstanceAs (Decidable (_ ∨ _))

/-- the outcomes of the request of the client `me` in the core `c` -/
inductive CommandOutcome (L : Libs) (cfg : Config) (me : String) (request : Json) (c : Core) :
    Reply → Core → Prop
  | refused {answer : Reply} (error : answer.status = some "error") :
      CommandOutcome L cfg me request c answer c
  | read {answer : Reply} {cmd : String} {cache : Cache} (success : answer.status = some "success")
      (command : request.atString "command" = .ok cmd) (reads : ¬ changesTable cmd)
      (coherent : Coherent c.stock c.cache → Coherent c.stock cache) :
      CommandOutcome L cfg me request c answer { c with cache := cache }
  | updated {answer : Reply} {category item : String} {quantity : Int32} {stock : Stock}
      (success : answer.status = some "success")
      (command : request.atString "command" = .ok "update_stock") (hub : isHub me = false)
      (fields : updateFields L.floatCast request = .ok (category, item, quantity))
      (natural : ¬ quantity < 0) (valid : (validateInventory category item).success = true)
      (saved : stockAfter c me category item quantity = some stock) :
      CommandOutcome L cfg me request c answer { c with
        stock := stock
        cache := c.cache.store me category item quantity }
  | unlocked {answer : Reply} {user : String} {row : UserRow} {users : Users}
      (success : answer.status = some "success")
      (command : request.atString "command" = .ok "unlock_client") (admin : me = "admin")
      (fields : unlockFields request = .ok (cfg.secretPhrase, user))
      (found : c.users.find? user = some row)
      (saved : c.users.update? user (UserRow.setLocked false) = some users) :
      CommandOutcome L cfg me request c answer { c with
        users := users
        manager := { c.manager with lockedClients := c.manager.lockedClients.erase user } }
  | registered {answer : Reply} {user password salt : String} {users : Users}
      (success : answer.status = some "success")
      (command : request.atString "command" = .ok "register_user") (admin : me = "admin")
      (fields : registerFields request = .ok (user, password))
      (saved : c.users.insert? user ⟨L.generateHash salt password, 0, 0, 0⟩ = some users) :
      CommandOutcome L cfg me request c answer { c with users := users }

/-- a handler that started in the core `c` answered with an outcome, or threw and changed nothing -/
def Answered (L : Libs) (cfg : Config) (me : String) (request : Json) (c : Core)
    (r : Except Exn ProcessResult × St) : Prop :=
  (∃ answer keep, r.1 = .ok (answer, keep) ∧ CommandOutcome L cfg me request c answer r.2.core) ∨
    ∃ e, r.1 = .error e ∧ r.2.core = c

section Handlers
variable {L : Libs} {cfg : Config} {me : String} {request : Json} {c : Core} {s : St}

theorem answered_error (hs : s.core = c) {answer : Reply} (herror : answer.status = some "error")
    (keep : Bool) : Answered L cfg me request c (.ok (answer, keep), s) := by
  refine .inl ⟨answer, keep, rfl, ?_⟩
  show CommandOutcome L cfg me request c answer s.core
  rw [hs]
  exact .refused herror

theorem answered_throw (hs : s.core = c) (e : Exn) : Answered L cfg me request c (.error e, s) :=
  .inr ⟨e, rfl, hs⟩

/-- a success that fills the cache at most -/
theorem answered_read {cache : Cache} (hs : s.core = { c with cache := cache })
    (hcoherent : Coherent c.stock c.cache → Coherent c.stock cache) {answer : Reply}
    (hsuccess : answer.status = some "success") {cmd : String}
    (hcmd : request.atString "command" = .ok cmd) (hreads : ¬ changesTable cmd) (keep : Bool) :
    Answered L cfg me request c (.ok (answer, keep), s) := by
  refine .inl ⟨answer, keep, rfl, ?_⟩
  show CommandOutcome L cfg me request c answer s.core
  rw [hs]
  exact .read hsuccess hcmd hreads hcoherent

theorem answered_refuse (hs : s.core = c) (message note : String) :
    Answered L cfg me request c ((refuse L message note me).run s) := by
  have hcore := refuse_core L message note me s
  unfold refuse at hcore ⊢
  rw [Prog.run_bind, run_incrementError] at hcore ⊢
  simp only [Prog.run_bind, run_log, Prog.run_pure] at hcore ⊢
  exact answered_error (hcore.trans hs) (status_reply L _ _) true

theorem answered_refuseUncounted (hs : s.core = c) (message note : String) :
    Answered L cfg me request c ((refuseUncounted L message note me).run s) := by
  have hcore := refuseUncounted_core L message note me s
  unfold refuseUncounted at hcore ⊢
  rw [Prog.run_bind, run_log] at hcore ⊢
  exact answered_error (hcore.trans hs) (status_reply L _ _) true

/-- a handler of `json::exception` finds the core as it was -/
theorem answered_catchJson {p : M ProcessResult} {handler : JsonError → M ProcessResult}
    (hp : Answered L cfg me request c (p.run s))
    (hh : ∀ e s', s'.core = c → Answered L cfg me request c ((handler e).run s')) :
    Answered L cfg me request c ((catchJson p handler).run s) := by
  unfold catchJson
  rw [Prog.run_tryCatch]
  generalize p.run s = r at hp ⊢
  obtain ⟨r, s'⟩ := r
  rcases hp with ⟨answer, keep, hr, houtcome⟩ | ⟨e, hr, hcore⟩
  · cases hr
    exact .inl ⟨answer, keep, rfl, houtcome⟩
  · cases hr
    cases e with
    | json e => exact hh e s' hcore
    | sqlite e => exact answered_throw hcore _

theorem handleUpdateStockCommand_answered
    (hcmd : request.atString "command" = .ok "update_stock") (s : St) :
    Answered L cfg me request s.core ((handleUpdateStockCommand L request me).run s) := by
  unfold handleUpdateStockCommand
  cases hub : isHub me with
  | true =>
    simp only [if_true]
    exact answered_refuse rfl _ _
  | false =>
    simp only [Bool.false_eq_true, if_false]
    refine answered_catchJson ?_ fun _ s' hs' => answered_refuse hs' _ _
    cases hf : updateFields L.floatCast request with
    | error e => exact answered_throw rfl _
    | ok fields =>
      obtain ⟨category, item, quantity⟩ := fields
      rw [json_ok_bind]
      dsimp only
      rw [Prog.run_bind]
      by_cases hq : quantity < 0
      · rw [run_updateStock_negative me category item hq]
        exact answered_error (St.logged_core s _ _ _ _) (status_reply L _ _) true
      · cases hv : (validateInventory category item).success with
        | false =>
          rw [run_updateStock_invalid me hq hv]
          unfold updateStockReply
          dsimp only
          rw [if_neg (by simp [hv])]
          exact answered_error rfl (status_reply L _ _) true
        | true =>
          rw [run_updateStock_valid me hq hv]
          cases (s.env 0).fails with
          | true => exact answered_throw rfl _
          | false =>
            simp only [Bool.false_eq_true, if_false]
            cases hst : stockAfter s.core me category item quantity with
            | none => exact answered_throw rfl _
            | some stock =>
              exact .inl ⟨_, true, rfl, .updated (status_reply L _ _) hcmd hub hf hq hv hst⟩

/-- a read of the inventory that started in the core `c`: it fills the cache at most, and leaves the
core alone where it finds nothing -/
structure Reads {α : Type} (c : Core) (r : Except Exn (Option α) × St) : Prop where
  fills : ∃ cache, r.2.core = { c with cache := cache } ∧
    (Coherent c.stock c.cache → Coherent c.stock cache)
  misses : (∀ a, r.1 ≠ .ok (some a)) → r.2.core = c

theorem reads_of_eq {α : Type} {r : Except Exn (Option α)} (hs : s.core = c) : Reads c (r, s) :=
  ⟨⟨c.cache, hs, id⟩, fun _ => hs⟩

theorem getStock_reads (clientId category item : String) (s : St) :
    Reads s.core ((getStock clientId category item).run s) := by
  cases hc : s.core.cache.stock? clientId category item with
  | some quantity =>
    rw [run_getStock_hit hc]
    exact reads_of_eq rfl
  | none =>
    rw [run_getStock_miss hc]
    cases (s.env 0).fails with
    | true => exact reads_of_eq rfl
    | false =>
      simp only [Bool.false_eq_true, if_false]
      cases hrow : s.core.stock.find? ⟨clientId, category, item⟩ with
      | none => exact reads_of_eq rfl
      | some quantity =>
        exact ⟨⟨_, rfl, fun h => h.cached hrow⟩, fun hmiss => absurd rfl (hmiss quantity)⟩

theorem getInventorySummary_reads (clientId : String) (s : St) :
    Reads s.core ((getInventorySummary clientId).run s) := by
  rw [run_getInventorySummary]
  have hlog := St.logged_core s .info "Inventory"
    ("Full inventory summary requested for client " ++ clientId ++ ".") (some clientId)
  generalize s.logged .info "Inventory" _ _ = s' at hlog ⊢
  rw [← hlog]
  by_cases hfull : clientId ∈ s'.core.cache.fullyCachedClients
  · rw [run_summaryLocked_hit hfull]
    exact reads_of_eq rfl
  · rw [run_summaryLocked_miss hfull]
    cases (s'.env 0).fails with
    | true => exact reads_of_eq rfl
    | false =>
      simp only [Bool.false_eq_true, if_false]
      cases hinv : fullInventoryOf s'.core.stock clientId with
      | none => exact reads_of_eq rfl
      | some map => exact ⟨⟨_, rfl, fun h => h.load hinv⟩, fun hmiss => absurd rfl (hmiss map)⟩

/-- a handler that reads the inventory: success where something is found, an error where not -/
theorem answered_reads {α : Type} {p : M (Option α)} {f : Option α → M ProcessResult}
    (hp : Reads c (p.run s)) {cmd : String} (hcmd : request.atString "command" = .ok cmd)
    (hreads : ¬ changesTable cmd)
    (hsome : ∀ a s', ∃ answer keep s'', (f (some a)).run s' = (.ok (answer, keep), s'') ∧
      answer.status = some "success" ∧ s''.core = s'.core)
    (hnone : ∀ s', ∃ answer keep s'', (f none).run s' = (.ok (answer, keep), s'') ∧
      answer.status = some "error" ∧ s''.core = s'.core) :
    Answered L cfg me request c ((p >>= f).run s) := by
  rw [Prog.run_bind]
  generalize p.run s = r at hp ⊢
  obtain ⟨r, s'⟩ := r
  cases r with
  | error e => exact answered_throw (hp.misses fun a h => by cases h) e
  | ok found =>
    cases found with
    | none =>
      obtain ⟨answer, keep, s'', hrun, hstatus, hcore⟩ := hnone s'
      have hc : s'.core = c := hp.misses fun a h => by cases h
      show Answered L cfg me request c ((f none).run s')
      rw [hrun]
      exact answered_error (hcore.trans hc) hstatus keep
    | some a =>
      obtain ⟨answer, keep, s'', hrun, hstatus, hcore⟩ := hsome a s'
      obtain ⟨cache, hcache, hcoherent⟩ := hp.fills
      show Answered L cfg me request c ((f (some a)).run s')
      rw [hrun]
      exact answered_read (hcore.trans hcache) hcoherent hstatus hcmd hreads keep

theorem status_with_data (L : Libs) (message : String) (data : Json) :
    (Reply.dumped L ((statusReply "success" message).set "data" data)).status =
      some "success" := by
  unfold Reply.dumped Reply.status
  rw [statusReply_eq]
  exact status_set_of_ne (by decide) _ _

theorem handleGetStockCommand_answered (hcmd : request.atString "command" = .ok "get_stock")
    (s : St) : Answered L cfg me request s.core ((handleGetStockCommand L request me).run s) := by
  refine answered_catchJson ?_ fun _ s' hs' => answered_refuse hs' _ _
  cases stockFields request with
  | error e => exact answered_throw rfl _
  | ok fields =>
    obtain ⟨category, item⟩ := fields
    rw [json_ok_bind]
    refine answered_reads (getStock_reads me category item s) hcmd (by decide) ?_ ?_
    · intro quantity s'
      exact ⟨_, true, s', rfl, status_with_data L _ _, rfl⟩
    · intro s'
      exact ⟨_, true, _, rfl, status_reply L _ _, rfl⟩

theorem handleGetInventoryCommand_answered
    (hcmd : request.atString "command" = .ok "get_inventory") (s : St) :
    Answered L cfg me request s.core ((handleGetInventoryCommand L me).run s) := by
  refine answered_reads (getInventorySummary_reads me s) hcmd (by decide) ?_ ?_
  · intro map s'
    simp only [Prog.run_bind, run_log, Prog.run_pure]
    exact ⟨_, true, _, rfl, status_with_data L _ _, St.logged_core s' _ _ _ _⟩
  · intro s'
    dsimp only
    rw [Prog.run_bind, run_incrementError]
    simp only [Prog.run_bind, run_log, Prog.run_pure]
    exact ⟨_, true, _, rfl, status_reply L _ _, St.logged_core _ _ _ _ _⟩

theorem handleGetHistoryCommand_answered
    (hcmd : request.atString "command" = .ok "get_history") (s : St) :
    Answered L cfg me request s.core ((handleGetHistoryCommand L me).run s) := by
  unfold handleGetHistoryCommand
  rw [Prog.run_bind, run_getInventoryHistoryTransaction]
  cases (s.env 0).fails with
  | true => exact answered_throw rfl _
  | false =>
    simp only [Bool.false_eq_true, if_false, Prog.run_bind, run_log, Prog.run_pure]
    exact answered_read (St.logged_core s.next _ _ _ _) id (status_with_data L _ _) hcmd
      (by decide) true

theorem handleUnlockClientCommand_answered
    (hcmd : request.atString "command" = .ok "unlock_client") (s : St) :
    Answered L cfg me request s.core ((handleUnlockClientCommand L cfg request me).run s) := by
  unfold handleUnlockClientCommand
  by_cases admin : me = "admin"
  · rw [if_pos admin]
    refine answered_catchJson ?_ fun _ s' hs' => answered_refuse hs' _ _
    cases hf : unlockFields request with
    | error e => exact answered_throw rfl _
    | ok fields =>
      obtain ⟨secretPhrase, user⟩ := fields
      show Answered L cfg me request s.core (Prog.run (if secretPhrase = cfg.secretPhrase then _
        else _) s)
      by_cases hp : secretPhrase = cfg.secretPhrase
      · subst hp
        rw [if_pos rfl, Prog.run_bind]
        have hchange := unlockClient_change user s
        generalize (unlockClient user).run s = r at hchange ⊢
        obtain ⟨r, s'⟩ := r
        dsimp only at hchange
        generalize hs' : s'.core = c' at hchange
        cases hchange with
        | failed e => exact answered_throw hs' _
        | missed hrow => exact answered_refuse hs' _ _
        | done users row hrow hupd =>
          refine .inl ⟨_, true, rfl, ?_⟩
          show CommandOutcome L cfg me request s.core _ s'.core
          rw [hs']
          exact .unlocked (status_reply L _ _) hcmd admin hf hrow hupd
      · rw [if_neg hp]
        exact answered_refuse rfl _ _
  · rw [if_neg admin]
    exact answered_refuse rfl _ _

theorem handleRegisterUser_answered (hcmd : request.atString "command" = .ok "register_user")
    (s : St) : Answered L cfg me request s.core ((handleRegisterUser L request me).run s) := by
  unfold handleRegisterUser
  by_cases admin : me = "admin"
  · rw [if_pos admin]
    refine answered_catchJson ?_ fun _ s' hs' => answered_refuseUncounted hs' _ _
    cases hf : registerFields request with
    | error e => exact answered_throw rfl _
    | ok fields =>
      obtain ⟨user, password⟩ := fields
      rw [json_ok_bind]
      dsimp only
      rw [Prog.run_bind, run_createUser]
      cases (s.env 0).fails with
      | true => exact answered_throw rfl _
      | false =>
        simp only [Bool.false_eq_true, if_false]
        cases hins : s.core.users.insert? user
            ⟨L.generateHash (s.env 0).salt password, 0, 0, 0⟩ with
        | none => exact answered_throw rfl _
        | some users =>
          simp only [registerReply, if_true, Prog.run_bind, run_log, Prog.run_pure]
          refine .inl ⟨_, true, rfl, ?_⟩
          rw [St.logged_core]
          exact .registered (status_reply L _ _) hcmd admin hf hins
  · rw [if_neg admin]
    exact answered_refuseUncounted rfl _ _

theorem dispatch_answered {cmd : String} (hcmd : request.atString "command" = .ok cmd) (s : St) :
    Answered L cfg me request s.core ((dispatch L cfg request me false cmd).run s) := by
  unfold dispatch
  simp only [Bool.false_eq_true, if_false]
  split
  · rename_i h
    subst h
    exact answered_read rfl id (status_reply L _ _) hcmd (by decide) true
  split
  · rename_i h
    subst h
    simp only [handleEndCommand, Prog.run_bind, run_log, Prog.run_pure]
    exact answered_read (St.logged_core s _ _ _ _) id (status_reply L _ _) hcmd (by decide) false
  split
  · rename_i h
    exact handleGetInventoryCommand_answered (h ▸ hcmd) s
  split
  · rename_i h
    exact handleUpdateStockCommand_answered (h ▸ hcmd) s
  split
  · rename_i h
    exact handleGetStockCommand_answered (h ▸ hcmd) s
  split
  · rename_i h
    exact handleGetHistoryCommand_answered (h ▸ hcmd) s
  split
  · rename_i h
    exact handleUnlockClientCommand_answered (h ▸ hcmd) s
  split
  · rename_i h
    exact handleRegisterUser_answered (h ▸ hcmd) s
  · rename_i hupdate _ _ hunlock hregister
    simp only [unknownCommand, Prog.run_bind, run_log, Prog.run_pure]
    refine answered_read (St.logged_core s _ _ _ _) id (status_reply L _ _) hcmd ?_ true
    rintro (h | h | h)
    · exact hupdate h
    · exact hregister h
    · exact hunlock h

theorem processCommand_answered (s : St) :
    Answered L cfg me request s.core ((processCommand L cfg request me false).run s) := by
  unfold processCommand
  cases hfield : request.field? "command" with
  | none =>
    simp only [Prog.run_bind, run_log]
    rw [run_incrementError]
    exact answered_error (St.logged_core s _ _ _ _) (status_reply L _ _) true
  | some command =>
    have hat : request.atKey "command" = .ok command := Json.atKey_eq_ok_iff.mpr hfield
    dsimp only
    cases hs : command.getString with
    | error e => exact answered_throw rfl _
    | ok cmd =>
      rw [json_ok_bind]
      refine dispatch_answered ?_ s
      unfold Json.atString
      rw [hat]
      exact hs

end Handlers

/-! ## effects -/

inductive CommandEffect (cfg : Config) (me : String) (request : Json) (s : St) : Core → Prop
  | none : CommandEffect cfg me request s s.core
  | fill (cache : Cache) : CommandEffect cfg me request s { s.core with cache := cache }
  | update (category item : String) (quantity : Int32) (stock : Stock) (hub : isHub me = false)
      (h : stockAfter s.core me category item quantity = some stock) :
      CommandEffect cfg me request s { s.core with
        stock := stock
        cache := s.core.cache.store me category item quantity }
  | unlock (user : String) (h : unlockTarget cfg me request = some user) :
      CommandEffect cfg me request s ((unlockClient user).run s).2.core
  | register (user hash : String) (users : Users) (admin : me = "admin")
      (h : s.core.users.insert? user ⟨hash, 0, 0, 0⟩ = some users) :
      CommandEffect cfg me request s { s.core with users := users }

theorem processCommand_eq_dispatch (L : Libs) (cfg : Config) {request : Json} {cmd : String}
    (hcmd : request.atString "command" = .ok cmd) (me : String) (isInMaintenance : Bool) :
    processCommand L cfg request me isInMaintenance =
      dispatch L cfg request me isInMaintenance cmd := by
  unfold Json.atString at hcmd
  cases hat : request.atKey "command" with
  | error e => simp [hat] at hcmd
  | ok command =>
    rw [hat] at hcmd
    have hstring : command.getString = .ok cmd := hcmd
    unfold processCommand
    rw [Json.atKey_eq_ok_iff.mp hat]
    dsimp only
    rw [hstring, json_ok_bind]

theorem dispatch_unlock_client (L : Libs) (cfg : Config) (request : Json) (me : String) :
    dispatch L cfg request me false "unlock_client" =
      handleUnlockClientCommand L cfg request me := by
  unfold dispatch
  simp

section Effects
variable {cfg : Config} {me : String} {request : Json} {s : St}

theorem CommandEffect.of_eq {c : Core} (h : c = s.core) : CommandEffect cfg me request s c := by
  rw [h]
  exact .none

theorem handleUnlockClientCommand_effect (L : Libs)
    (hcmd : request.atString "command" = .ok "unlock_client") :
    CommandEffect cfg me request s ((handleUnlockClientCommand L cfg request me).run s).2.core := by
  unfold handleUnlockClientCommand
  by_cases admin : me = "admin"
  · rw [if_pos admin]
    refine catchJson_core ?_ fun _ s' => refuse_core L _ _ _ s'
    cases hf : unlockFields request with
    | error e => exact .none
    | ok fields =>
      obtain ⟨secretPhrase, user⟩ := fields
      show CommandEffect cfg me request s (Prog.run (if secretPhrase = cfg.secretPhrase then _
        else _) s).2.core
      by_cases hp : secretPhrase = cfg.secretPhrase
      · rw [if_pos hp]
        have target : unlockTarget cfg me request = some user := by
          unfold unlockTarget
          rw [if_pos ⟨admin, hcmd⟩, hf]
          exact if_pos hp
        refine bind_core (.unlock user target) fun success s' => ?_
        unfold unlockReply
        cases success with
        | true => rfl
        | false => exact refuse_core L _ _ _ s'
      · rw [if_neg hp]
        exact .of_eq (refuse_core L _ _ _ s)
  · rw [if_neg admin]
    exact .of_eq (refuse_core L _ _ _ s)

/-- **A command changes the core only as `CommandEffect` says, whether it returns or throws.** -/
theorem processCommand_effect (L : Libs) :
    CommandEffect cfg me request s ((processCommand L cfg request me false).run s).2.core := by
  by_cases hcmd : request.atString "command" = .ok "unlock_client"
  · rw [processCommand_eq_dispatch L cfg hcmd, dispatch_unlock_client]
    exact handleUnlockClientCommand_effect L hcmd
  · rcases @processCommand_answered L cfg me request s with ⟨answer, keep, -, houtcome⟩ | ⟨e, -, hcore⟩
    · generalize ((processCommand L cfg request me false).run s).2.core = c at houtcome ⊢
      cases houtcome with
      | refused error => exact .none
      | read success command reads coherent => exact .fill _
      | updated success command hub fields natural valid saved => exact .update _ _ _ _ hub saved
      | unlocked success command admin fields found saved => exact absurd command hcmd
      | registered success command admin fields saved => exact .register _ _ _ admin saved
    · exact .of_eq hcore

end Effects

end Logistics
