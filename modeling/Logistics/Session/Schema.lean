import Logistics.Base.JsonCodec
import Logistics.Session.Message

/-!
# The shape of the replies

The client takes the fields of a reply apart without checking that they are there.  Here is what it
can rely on: the text of every reply is an object with a `status`, `success` or `error`, and a
`message`; the three commands that report something have their `data` in a fixed shape, and the
reply to a login names the user.

`Told` is what a reply tells, apart from its format; the server writes it as JSON (`Told.body`).

* `Schema`                  the shape of a reply to a command;
* `processMessage_tells`    **every reply tells something that answers its request**;
* `login_reply`             the reply that turns a session authenticated;
* `reply_schema`            **every reply has the shape, read back from its text**.
-/

namespace Logistics
open Std

/-! ## shapes -/

/-- an object of objects of integers -/
def InventoryData (data : Json) : Prop :=
  ∃ categories, data = .obj categories ∧ ∀ c ∈ categories,
    ∃ items, c.2 = .obj items ∧ ∀ i ∈ items, ∃ n, i.2 = .int n

def StockData (data : Json) : Prop :=
  ∃ category item n, data.field? "category" = some (.str category) ∧
    data.field? "item" = some (.str item) ∧ data.field? "quantity" = some (.int n)

def HistoryData (data : Json) : Prop :=
  ∃ entries, data = .arr entries ∧ ∀ e ∈ entries, ∃ timestamp message,
    e.field? "timestamp" = some (.str timestamp) ∧ e.field? "message" = some (.str message)

/-- the shape of `data` in a success reply to the command -/
def dataShape (cmd : String) : Option (Json → Prop) :=
  if cmd = "get_inventory" then some InventoryData
  else if cmd = "get_stock" then some StockData
  else if cmd = "get_history" then some HistoryData
  else none

/-- the shape of a reply to a request with the given command, if it has one -/
structure Schema (cmd : Option String) (body : Json) : Prop where
  object : ∃ fields, body = .obj fields
  status : body.field? "status" = some (.str "success") ∨ body.field? "status" = some (.str "error")
  message : ∃ message, body.field? "message" = some (.str message)
  data : ∀ shape, cmd.bind dataShape = some shape →
    body.field? "status" = some (.str "success") → ∃ data, body.field? "data" = some data ∧ shape data

/-! ## bodies -/

theorem statusReply_canonical (status message : String) : (statusReply status message).Canonical := by
  rw [statusReply_eq]
  refine .obj (show ["message", "status"].Pairwise (· < ·) by decide) ?_
  exact List.forall_mem_cons.mpr ⟨.str _, List.forall_mem_singleton.mpr (.str _)⟩

theorem statusReply_data (status message : String) (data : Json) :
    (statusReply status message).set "data" data =
      .obj [("data", data), ("message", .str message), ("status", .str status)] := by
  have hne : ¬ "data" = "message" := by decide
  have hlt : "data" < "message" := by decide
  rw [statusReply_eq]
  simp [Json.set, setKey, hne, hlt]

theorem int32_inRange (n : Int32) : InRange n.toInt := by
  have hlow := Int32.le_toInt n
  have hhigh := Int32.toInt_lt n
  exact ⟨by omega, by omega⟩

/-- the keys of a map are the sorted keys of an object -/
theorem sorted_toList {α : Type} (m : ExtTreeMap String α) (f : String × α → Json) :
    ((m.toList.map fun e => (e.1, f e)).map Prod.fst).Pairwise (· < ·) := by
  rw [List.map_map, List.pairwise_map]
  refine ExtTreeMap.ordered_keys_toList.imp ?_
  intro a b h
  exact compare_lt_iff_lt.mp h

theorem inventoryJson_canonical (m : ClientInventoryMap) : (inventoryJson m).Canonical := by
  refine .obj (sorted_toList m _) ?_
  intro c hc
  obtain ⟨⟨category, items⟩, -, rfl⟩ := List.mem_map.mp hc
  refine .obj (sorted_toList items _) ?_
  intro i hi
  obtain ⟨⟨item, quantity⟩, -, rfl⟩ := List.mem_map.mp hi
  exact .int (int32_inRange quantity)

theorem inventoryJson_data (m : ClientInventoryMap) : InventoryData (inventoryJson m) := by
  refine ⟨_, rfl, ?_⟩
  intro c hc
  obtain ⟨⟨category, items⟩, -, rfl⟩ := List.mem_map.mp hc
  refine ⟨_, rfl, ?_⟩
  intro i hi
  obtain ⟨⟨item, quantity⟩, -, rfl⟩ := List.mem_map.mp hi
  exact ⟨quantity.toInt, rfl⟩

theorem historyEntry_eq (row : LogRow) : historyEntry row =
    .obj [("component", .str row.component), ("level", .str row.level),
      ("message", .str row.message), ("timestamp", .str row.timestamp)] := by
  rfl

theorem history_canonical (history : List LogRow) :
    (Json.arr (history.map historyEntry)).Canonical := by
  refine .arr ?_
  intro e he
  obtain ⟨row, -, rfl⟩ := List.mem_map.mp he
  rw [historyEntry_eq]
  refine .obj (show ["component", "level", "message", "timestamp"].Pairwise (· < ·) by decide) ?_
  refine List.forall_mem_cons.mpr ⟨.str _, List.forall_mem_cons.mpr ⟨.str _, ?_⟩⟩
  exact List.forall_mem_cons.mpr ⟨.str _, List.forall_mem_singleton.mpr (.str _)⟩

theorem history_data (history : List LogRow) :
    HistoryData (.arr (history.map historyEntry)) := by
  refine ⟨_, rfl, ?_⟩
  intro e he
  obtain ⟨row, -, rfl⟩ := List.mem_map.mp he
  rw [historyEntry_eq]
  exact ⟨row.timestamp, row.message, rfl, rfl⟩

/-- the body of the reply to a login -/
def loginBody (user : String) : Json :=
  (statusReply "success" ("Login successful! Welcome " ++ user ++ ".")).set "client_id" (.str user)

theorem loginBody_eq (user : String) : loginBody user =
    .obj [("client_id", .str user), ("message", .str ("Login successful! Welcome " ++ user ++ ".")),
      ("status", .str "success")] := by
  have hne : ¬ "client_id" = "message" := by decide
  have hlt : "client_id" < "message" := by decide
  unfold loginBody
  rw [statusReply_eq]
  simp [Json.set, setKey, hne, hlt]

theorem loginBody_canonical (user : String) : (loginBody user).Canonical := by
  rw [loginBody_eq]
  refine .obj (show ["client_id", "message", "status"].Pairwise (· < ·) by decide) ?_
  refine List.forall_mem_cons.mpr ⟨.str _, List.forall_mem_cons.mpr ⟨.str _, ?_⟩⟩
  exact List.forall_mem_singleton.mpr (.str _)

/-! ## what a reply tells -/

inductive Told where
  | refused (message : String)
  | done (message : String)
  | welcome (user : String)
  | inventory (message : String) (map : ClientInventoryMap)
  | stock (message category item : String) (quantity : Int32)
  | history (message : String) (rows : List LogRow)

namespace Told

def body : Told → Json
  | refused message => statusReply "error" message
  | done message => statusReply "success" message
  | welcome user => loginBody user
  | inventory message map => (statusReply "success" message).set "data" (inventoryJson map)
  | stock message category item quantity => (statusReply "success" message).set "data"
      (.obj [("category", .str category), ("item", .str item), ("quantity", .int quantity.toInt)])
  | history message rows =>
    (statusReply "success" message).set "data" (.arr (rows.map historyEntry))

/-- whether a request with this command can be answered so; a request without one is refused -/
def Answers (cmd : Option String) : Told → Prop
  | refused _ => True
  | done _ => ∃ name, cmd = some name ∧ dataShape name = none
  | welcome _ => cmd = some "login"
  | inventory _ _ => cmd = some "get_inventory"
  | stock _ _ _ _ => cmd = some "get_stock"
  | history _ _ => cmd = some "get_history"

/-- the user that the reply names as logged in -/
def user : Told → Option String
  | welcome user => some user
  | _ => none

theorem canonical_data (message : String) {data : Json} (h : data.Canonical) :
    ((statusReply "success" message).set "data" data).Canonical := by
  rw [statusReply_data]
  refine .obj (show ["data", "message", "status"].Pairwise (· < ·) by decide) ?_
  refine List.forall_mem_cons.mpr ⟨h, ?_⟩
  exact List.forall_mem_cons.mpr ⟨.str _, List.forall_mem_singleton.mpr (.str _)⟩

theorem body_canonical (t : Told) : t.body.Canonical := by
  cases t with
  | refused message => exact statusReply_canonical "error" message
  | done message => exact statusReply_canonical "success" message
  | welcome user => exact loginBody_canonical user
  | inventory message map => exact canonical_data message (inventoryJson_canonical map)
  | history message rows => exact canonical_data message (history_canonical rows)
  | stock message category item quantity =>
    refine canonical_data message ?_
    refine .obj (show ["category", "item", "quantity"].Pairwise (· < ·) by decide) ?_
    refine List.forall_mem_cons.mpr ⟨.str _, List.forall_mem_cons.mpr ⟨.str _, ?_⟩⟩
    exact List.forall_mem_singleton.mpr (.int (int32_inRange quantity))

theorem schema_data {cmd : String} {shape : Json → Prop} (hcmd : dataShape cmd = some shape)
    (message : String) {data : Json} (hdata : shape data) :
    Schema (some cmd) ((statusReply "success" message).set "data" data) := by
  rw [statusReply_data]
  refine ⟨⟨_, rfl⟩, .inl rfl, ⟨message, rfl⟩, ?_⟩
  intro shape' hshape _
  rw [Option.bind_some, hcmd] at hshape
  cases hshape
  exact ⟨data, rfl, hdata⟩

/-- what answers a request has the shape of a reply to it -/
theorem schema {t : Told} {cmd : Option String} (h : t.Answers cmd) : Schema cmd t.body := by
  cases t with
  | refused message =>
    show Schema cmd (statusReply "error" message)
    rw [statusReply_eq]
    refine ⟨⟨_, rfl⟩, .inr rfl, ⟨message, rfl⟩, fun _ _ hsuccess => ?_⟩
    exact absurd (Json.str.inj (Option.some.inj hsuccess)) (by decide)
  | done message =>
    obtain ⟨name, rfl, hshape⟩ := h
    show Schema (some name) (statusReply "success" message)
    rw [statusReply_eq]
    refine ⟨⟨_, rfl⟩, .inl rfl, ⟨message, rfl⟩, fun shape hsome => ?_⟩
    rw [Option.bind_some, hshape] at hsome
    cases hsome
  | welcome user =>
    obtain rfl : cmd = some "login" := h
    show Schema (some "login") (loginBody user)
    rw [loginBody_eq]
    exact ⟨⟨_, rfl⟩, .inl rfl, ⟨_, rfl⟩, nofun⟩
  | inventory message map =>
    obtain rfl : cmd = some "get_inventory" := h
    exact schema_data rfl message (inventoryJson_data map)
  | stock message category item quantity =>
    obtain rfl : cmd = some "get_stock" := h
    exact schema_data rfl message ⟨category, item, quantity.toInt, rfl, rfl, rfl⟩
  | history message rows =>
    obtain rfl : cmd = some "get_history" := h
    exact schema_data rfl message (history_data rows)

end Told

/-- the reply tells something that answers the request -/
def ReplyTells (L : Libs) (cmd : Option String) (result : ProcessResult) : Prop :=
  ∃ t : Told, result.1 = .dumped L t.body ∧ t.Answers cmd

/-- so does the reply to a command, and it names no user -/
def CommandTells (L : Libs) (cmd : Option String) (result : ProcessResult) : Prop :=
  ∃ t : Told, result.1 = .dumped L t.body ∧ t.Answers cmd ∧ t.user = none

/-! ## the handlers -/

section Handlers
variable {L : Libs} {cfg : Config} {cmd : Option String}

theorem tells_error (cmd : Option String) (message : String) (keep : Bool) :
    CommandTells L cmd ((reply L "error" message).1, keep) := ⟨.refused message, rfl, trivial, rfl⟩

theorem CommandTells.reply {cmd : Option String} {result : ProcessResult}
    (h : CommandTells L cmd result) : ReplyTells L cmd result := by
  obtain ⟨t, hresult, hanswers, -⟩ := h
  exact ⟨t, hresult, hanswers⟩

theorem dataShape_none {cmd : String} (h : cmd ≠ "get_inventory" ∧ cmd ≠ "get_stock" ∧
    cmd ≠ "get_history") : dataShape cmd = none := by
  unfold dataShape
  rw [if_neg h.1, if_neg h.2.1, if_neg h.2.2]

theorem tells_success {cmd : String} (message : String) (keep : Bool)
    (h : cmd ≠ "get_inventory" ∧ cmd ≠ "get_stock" ∧ cmd ≠ "get_history") :
    CommandTells L (some cmd) ((reply L "success" message).1, keep) :=
  ⟨.done message, rfl, ⟨cmd, rfl, dataShape_none h⟩, rfl⟩

theorem refuse_tells (message note clientId : String) :
    (refuse L message note clientId).Yields (CommandTells L cmd) :=
  Prog.yields_bind fun _ => Prog.yields_bind fun _ =>
    Prog.yields_pure (tells_error cmd message true)

theorem refuseUncounted_tells (message note clientId : String) :
    (refuseUncounted L message note clientId).Yields (CommandTells L cmd) :=
  Prog.yields_bind fun _ => Prog.yields_pure (tells_error cmd message true)

theorem handleGetInventoryCommand_tells (clientId : String) :
    (handleGetInventoryCommand L clientId).Yields (CommandTells L (some "get_inventory")) := by
  refine Prog.yields_bind fun inventoryMap => ?_
  cases inventoryMap with
  | some map =>
    exact Prog.yields_bind fun _ => Prog.yields_pure ⟨.inventory _ map, rfl, rfl, rfl⟩
  | none =>
    exact Prog.yields_bind fun _ => Prog.yields_bind fun _ =>
      Prog.yields_pure (tells_error _ _ true)

theorem handleUpdateStockCommand_tells (request : Json) (clientId : String) :
    (handleUpdateStockCommand L request clientId).Yields (CommandTells L (some "update_stock")) := by
  refine Prog.yields_ite (fun _ => refuse_tells _ _ _) fun _ => ?_
  refine yields_catchJson (Prog.yields_bind fun fields => ?_) fun _ => refuse_tells _ _ _
  refine Prog.yields_bind fun result => Prog.yields_ite (fun _ => ?_) fun _ => ?_
  · exact Prog.yields_pure (tells_success _ true (by decide))
  · exact Prog.yields_bind fun _ => Prog.yields_pure (tells_error _ _ true)

theorem handleGetStockCommand_tells (request : Json) (clientId : String) :
    (handleGetStockCommand L request clientId).Yields (CommandTells L (some "get_stock")) := by
  refine yields_catchJson (Prog.yields_bind fun fields => ?_) fun _ => refuse_tells _ _ _
  refine Prog.yields_bind fun result => ?_
  cases result with
  | some quantity => exact Prog.yields_pure ⟨.stock _ fields.1 fields.2 quantity, rfl, rfl, rfl⟩
  | none => exact Prog.yields_bind fun _ => Prog.yields_pure (tells_error _ _ true)

theorem handleGetHistoryCommand_tells (clientId : String) :
    (handleGetHistoryCommand L clientId).Yields (CommandTells L (some "get_history")) :=
  Prog.yields_bind fun history => Prog.yields_bind fun _ =>
    Prog.yields_pure ⟨.history _ history, rfl, rfl, rfl⟩

theorem handleUnlockClientCommand_tells (request : Json) (clientId : String) :
    (handleUnlockClientCommand L cfg request clientId).Yields
      (CommandTells L (some "unlock_client")) := by
  refine Prog.yields_ite (fun _ => ?_) fun _ => refuse_tells _ _ _
  refine yields_catchJson (Prog.yields_bind fun fields => ?_) fun _ => refuse_tells _ _ _
  refine Prog.yields_ite (fun _ => ?_) fun _ => refuse_tells _ _ _
  refine Prog.yields_bind fun success => Prog.yields_ite (fun _ => ?_) fun _ => ?_
  · exact Prog.yields_pure (tells_success _ true (by decide))
  · exact refuse_tells _ _ _

theorem handleRegisterUser_tells (request : Json) (clientId : String) :
    (handleRegisterUser L request clientId).Yields (CommandTells L (some "register_user")) := by
  refine Prog.yields_ite (fun _ => ?_) fun _ => refuseUncounted_tells _ _ _
  refine yields_catchJson (Prog.yields_bind fun fields => ?_) fun _ => refuseUncounted_tells _ _ _
  refine Prog.yields_bind fun success => Prog.yields_ite (fun _ => ?_) fun _ => ?_
  · refine Prog.yields_bind fun _ => Prog.yields_pure ?_
    exact tells_success _ true (by decide)
  · exact refuseUncounted_tells _ _ _

theorem dispatch_tells (request : Json) (clientId cmd : String) :
    (dispatch L cfg request clientId false cmd).Yields (CommandTells L (some cmd)) := by
  refine Prog.yields_ite ?_ fun _ => Prog.yields_ite nofun fun _ => ?_
  · rintro rfl
    exact Prog.yields_pure (tells_success _ true (by decide))
  refine Prog.yields_ite ?_ fun _ => Prog.yields_ite ?_ fun hinventory => ?_
  · rintro rfl
    refine Prog.yields_bind fun _ => Prog.yields_pure ?_
    exact tells_success _ false (by decide)
  · rintro rfl
    exact handleGetInventoryCommand_tells clientId
  refine Prog.yields_ite ?_ fun _ => Prog.yields_ite ?_ fun hstock => ?_
  · rintro rfl
    exact handleUpdateStockCommand_tells request clientId
  · rintro rfl
    exact handleGetStockCommand_tells request clientId
  refine Prog.yields_ite ?_ fun hhistory => Prog.yields_ite ?_ fun _ => Prog.yields_ite ?_ fun _ => ?_
  · rintro rfl
    exact handleGetHistoryCommand_tells clientId
  · rintro rfl
    exact handleUnlockClientCommand_tells request clientId
  · rintro rfl
    exact handleRegisterUser_tells request clientId
  · refine Prog.yields_bind fun _ => Prog.yields_pure ?_
    exact tells_success _ true ⟨hinventory, hstock, hhistory⟩

/-- the command a request names -/
def requestCommand (request : Json) : Option String := (request.atString "command").toOption

theorem commandMessage_tells (clientID : String) (request : Json) :
    (commandMessage L cfg clientID request).Yields (CommandTells L (requestCommand request)) := by
  refine Prog.yields_tryCatch ?_ fun e => ?_
  · unfold processCommand requestCommand Json.atString
    cases hfield : request.field? "command" with
    | none =>
      exact Prog.yields_bind fun _ => Prog.yields_bind fun _ =>
        Prog.yields_pure (tells_error _ _ true)
    | some command =>
      rw [Json.atKey_eq_ok_iff.mpr hfield]
      dsimp only
      cases command.getString with
      | error e =>
        intro s result s' hrun
        cases hrun
      | ok cmd => exact dispatch_tells request clientID cmd
  · exact Prog.yields_bind fun _ => Prog.yields_bind fun _ =>
      Prog.yields_pure (tells_error _ _ false)

/-! ## logins -/

/-- what `value` finds is there, if it is not the default -/
theorem atString_of_value {j : Json} {key defaultValue s : String}
    (h : j.value key defaultValue = .ok s) (hne : s ≠ defaultValue) : j.atString key = .ok s := by
  cases j with
  | obj fields =>
    unfold Json.value at h
    unfold Json.atString Json.atKey
    dsimp only at h ⊢
    cases hfield : fields.lookup key with
    | none =>
      rw [hfield] at h
      exact absurd (Except.ok.inj h).symm hne
    | some v =>
      rw [hfield] at h
      exact h
  | _ => cases h

theorem loginReply_tells (sid : Nat) (clientIP user : String) (result : AuthResult) :
    (loginReply L sid clientIP user result).Yields (ReplyTells L (some "login")) := by
  have hrefused : ∀ message, (loginRefused L message).Yields (ReplyTells L (some "login")) :=
    fun message => Prog.yields_bind fun _ => Prog.yields_pure (tells_error _ message true).reply
  cases result with
  | success =>
    refine Prog.yields_bind fun _ => Prog.yields_bind fun _ => Prog.yields_bind fun _ => ?_
    exact Prog.yields_pure ⟨.welcome user, rfl, rfl⟩
  | failedAccountLocked => exact hrefused _
  | failedAlertLocked => exact hrefused _
  | failedUserNotFound => exact hrefused _
  | failedBadCredentials => exact hrefused _

theorem loginMessage_tells (sid : Nat) (clientIP : String) (request : Json) :
    (loginMessage L cfg sid clientIP request).Yields (ReplyTells L (requestCommand request)) := by
  unfold loginMessage
  cases hvalue : request.value "command" "" with
  | error e =>
    intro s result s' hrun
    cases hrun
  | ok command =>
    refine Prog.yields_ite ?_ fun _ => ?_
    · rintro rfl
      rw [requestCommand, atString_of_value hvalue (by decide)]
      refine Prog.yields_tryCatch ?_ fun e => ?_
      · refine Prog.yields_bind fun fields => Prog.yields_bind fun result => ?_
        exact loginReply_tells sid clientIP fields.1 result
      · cases e with
        | json e =>
          exact Prog.yields_bind fun _ => Prog.yields_bind fun _ =>
            Prog.yields_pure (tells_error _ _ true).reply
        | sqlite e =>
          exact Prog.yields_bind fun _ => Prog.yields_bind fun _ =>
            Prog.yields_pure (tells_error _ _ false).reply
    · exact Prog.yields_bind fun _ => Prog.yields_pure (tells_error _ _ true).reply

/-- **Every reply tells something that answers its request.** -/
theorem processMessage_tells {sid : Nat} {text : Bytes} {s s' : St} {request : Json}
    {result : ProcessResult} (parsed : L.parse text = some request)
    (hrun : (processMessage L cfg sid text).run s = (.ok result, s')) :
    ReplyTells L (requestCommand request) result := by
  cases ha : (s.core.sessions sid).isAuthenticated with
  | true =>
    rw [run_processMessage_member L cfg parsed ha] at hrun
    exact (commandMessage_tells _ request _ _ _ hrun).reply
  | false =>
    rw [run_processMessage_guest L cfg parsed ha] at hrun
    exact loginMessage_tells sid _ request _ _ _ hrun

/-- the reply that turns a session authenticated -/
theorem login_reply {sid : Nat} {text : Bytes} {s : St} {user : String}
    (h : authCall L cfg sid text s = some (user, .ok .success)) :
    ∃ s', (processMessage L cfg sid text).run s = (.ok (.dumped L (loginBody user), true), s') ∧
      (s'.core.sessions sid).clientID = user ∧
      s'.core.manager.activeSessions[user]? = some sid := by
  obtain ⟨s₁, row, -, -, -, hrun⟩ := run_processMessage_login h
  rw [hrun]
  unfold loginReply setSession
  rw [Prog.run_bind, run_setCore]
  obtain ⟨s₂, hregister, hcore⟩ := run_registerSession user sid
    { s₁ with core := s₁.core.withSession sid ((s₁.core.sessions sid).loggedIn user) }
  simp only [Prog.run_bind, hregister, run_log]
  refine ⟨_, rfl, ?_, ?_⟩
  · rw [St.logged_core, hcore]
    show (Function.update s₁.core.sessions sid _ sid).clientID = user
    rw [Function.update_self]
    rfl
  · rw [St.logged_core, hcore]
    exact ExtTreeMap.getElem?_insert_self

end Handlers

/-! ## every reply -/

theorem parse_invalidJson (F : Doubles) :
    Json.parse F (bytesOf invalidJson.1.text) = some (statusReply "error" "Invalid JSON format.") := by
  have htext : invalidJson.1.text = (Json.obj [("status", .str "error"),
    ("message", .str "Invalid JSON format.")]).render := by decide
  rw [htext, statusReply_eq]
  refine parse_render F (.obj ?_) rfl ?_
  · exact List.forall_mem_cons.mpr ⟨.str _, List.forall_mem_singleton.mpr (.str _)⟩
  · simp only [Json.tree, treeFields, Json.ofTree, ofFields, decode_bytesOf, Option.bind_some,
      Option.map_some]
    rfl

/-- **The text of every reply is an object with a status and a message, and with data of a fixed
shape where the command reports some; the reply that turns its session authenticated names the
user.** -/
theorem reply_schema (F : Doubles) (L : Libs) (hjson : L.Nlohmann F) (cfg : Config) (sid : Nat)
    (text : Bytes) (s s' : St) (r : Reply) (keep : Bool)
    (hrun : (processMessage L cfg sid text).run s = (.ok (r, keep), s')) :
    ∃ body, L.parse (bytesOf r.text) = some body ∧
      Schema ((L.parse text).bind requestCommand) body ∧
      ((s.core.sessions sid).isAuthenticated = false →
        (s'.core.sessions sid).isAuthenticated = true →
        body.field? "client_id" = some (.str (s'.core.sessions sid).clientID)) := by
  obtain ⟨L, rfl⟩ := hjson.standard
  rw [Libs.standard_parse]
  have hbody : ∃ body, Json.parse F (bytesOf r.text) = some body ∧
      Schema ((Json.parse F text).bind requestCommand) body := by
    cases hparse : Json.parse F text with
    | none =>
      obtain ⟨s₁, hinvalid, -⟩ := run_processMessage_invalid (L.standard F) cfg sid s hparse
      rw [hinvalid] at hrun
      cases hrun
      exact ⟨_, parse_invalidJson F, @Told.schema (.refused _) none trivial⟩
    | some request =>
      have htells : ReplyTells (L.standard F) (requestCommand request) (r, keep) :=
        processMessage_tells hparse hrun
      obtain ⟨t, hr, hanswers⟩ := htells
      obtain rfl : r = .dumped (L.standard F) t.body := hr
      exact ⟨t.body, parse_dump F t.body_canonical, Told.schema hanswers⟩
  obtain ⟨body, hparse, hschema⟩ := hbody
  refine ⟨body, hparse, hschema, fun hguest hmember => ?_⟩
  by_cases hlogin : ∃ user, authCall (L.standard F) cfg sid text s = some (user, .ok .success)
  · obtain ⟨user, hlogin⟩ := hlogin
    obtain ⟨s₁, hreply, huser, -⟩ := login_reply hlogin
    rw [hreply] at hrun
    cases hrun
    have hlogged : Json.parse F (bytesOf ((loginBody user).dump F)) = some (loginBody user) :=
      parse_dump F (loginBody_canonical user)
    cases hlogged.symm.trans hparse
    rw [huser, loginBody_eq]
    rfl
  · have hcounters := (processMessage_guest (L.standard F) cfg hguest
      fun user h => hlogin ⟨user, h⟩).2
    rw [hrun] at hcounters
    rw [hcounters.sessions, hguest] at hmember
    cases hmember

/-- a request with two strings in its payload -/
def pairRequest (command first a second b : String) : Json :=
  .obj [("command", .str command), ("payload", .obj [(first, .str a), (second, .str b)])]

theorem pairRequest_canonical {first second : String} (h : first < second) (command a b : String) :
    (pairRequest command first a second b).Canonical := by
  refine .obj (show ["command", "payload"].Pairwise (· < ·) by decide) ?_
  refine List.forall_mem_cons.mpr ⟨.str _, List.forall_mem_singleton.mpr ?_⟩
  refine .obj (List.pairwise_pair.mpr h) ?_
  exact List.forall_mem_cons.mpr ⟨.str _, List.forall_mem_singleton.mpr (.str _)⟩

/-- the request of an update -/
def updateRequest (category item : String) (quantity : Int) : Json :=
  .obj [("command", .str "update_stock"), ("payload", .obj [("category", .str category),
    ("item", .str item), ("quantity", .int quantity)])]

theorem updateRequest_canonical (category item : String) {n : Int} (hn : InRange n) :
    (updateRequest category item n).Canonical := by
  refine .obj (show ["command", "payload"].Pairwise (· < ·) by decide) ?_
  refine List.forall_mem_cons.mpr ⟨.str _, List.forall_mem_singleton.mpr ?_⟩
  refine .obj (show ["category", "item", "quantity"].Pairwise (· < ·) by decide) ?_
  refine List.forall_mem_cons.mpr ⟨.str _, List.forall_mem_cons.mpr ⟨.str _, ?_⟩⟩
  exact List.forall_mem_singleton.mpr (.int hn)

/-- a login as a client sends it -/
def credentials (user password : String) : Json :=
  pairRequest "login" "hostname" user "password" password

theorem credentials_canonical (user password : String) : (credentials user password).Canonical :=
  pairRequest_canonical (by decide) "login" user password

theorem alice_authCall :
    authCall sampleLibs .sample 0 (bytesOf ((credentials "alice" "secret").dump .sample))
      (.sample aliceUsers .empty) = some ("alice", .ok .success) := by
  unfold authCall
  rw [sampleLibs_parse (credentials_canonical ..)]
  rfl

theorem alice_login_schema :
    ∃ text r keep s', (processMessage sampleLibs .sample 0 text).run (.sample aliceUsers .empty) =
        (.ok (r, keep), s') ∧
      ∃ body, sampleLibs.parse (bytesOf r.text) = some body ∧
        Schema ((sampleLibs.parse text).bind requestCommand) body ∧
        (((St.sample aliceUsers .empty).core.sessions 0).isAuthenticated = false →
          (s'.core.sessions 0).isAuthenticated = true →
          body.field? "client_id" = some (.str (s'.core.sessions 0).clientID)) := by
  obtain ⟨s', hrun, -⟩ := login_reply alice_authCall
  exact ⟨_, _, _, s', hrun, reply_schema .sample sampleLibs ⟨rfl, rfl⟩ .sample 0 _ _ s' _ _ hrun⟩

end Logistics
