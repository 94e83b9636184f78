import Logistics.Client.Login
import Logistics.Client.Printers
import Logistics.Session.Ledger

/-!
# What the user reads

The way of a line through the whole system: the client makes a request of it, a session of the server
answers, and the printer of the command writes the answer on the terminal.

`Told.lines` is what should stand on the terminal for what a reply tells.  `Told.shown` is `none` for a
login whose id the client cannot write into its log.

* `printReadableResponse_body`   the printers write what a reply tells;
* `reply_on_terminal`            **the terminal shows what the reply tells**;
* `ledger_on_terminal`           **over every run the terminal shows the ledger**.
-/

namespace Logistics
open JsonText Runs

/-! ## on the terminal -/

namespace Told

/-- what `%s` prints of a text -/
def text (s : String) : Bytes := cString (bytesOf s)

def number (n : Int32) : Bytes := bytesOf (toString n.toInt)

def statusPair (status message : String) : List Bytes :=
  [bytesOf "-Status: " ++ text status, bytesOf "-Message: " ++ text message]

def categoryLines (category : String) (items : List (String × Int32)) : List Bytes :=
  (bytesOf "  Category: " ++ text category) ::
    items.map fun i => bytesOf "    - " ++ text i.1 ++ bytesOf ": " ++ number i.2

def historyLine (row : LogRow) : Bytes :=
  bytesOf "  - [" ++ text row.timestamp ++ bytesOf "] " ++ text row.message

/-- what stands on the terminal of a client that has sent `command` -/
def lines (command : Bytes) : Told → List Bytes
  | refused message =>
    if command ∈ ["get_inventory", "get_stock", "get_history", "login"].map bytesOf then
      [bytesOf "Error from server: " ++ text message]
    else statusPair "error" message
  | done message =>
    if command = bytesOf "login" then [bytesOf "Error: Login response missing client_id."]
    else statusPair "success" message
  | welcome user => statusPair "success" ("Login successful! Welcome " ++ user ++ ".")
  | inventory _ map =>
    bytesOf "--- Inventory Report ---" ::
      ((map.toList.flatMap fun c => categoryLines c.1 c.2.toList) ++ [Client.reportEnd])
  | stock _ category item quantity =>
    [bytesOf "--- Stock Report ---", bytesOf "  - Item: " ++ text item,
      bytesOf "  - Category: " ++ text category, bytesOf "  - Quantity: " ++ number quantity,
      Client.reportEnd]
  | history _ [] => [Client.noHistory]
  | history _ (row :: rows) =>
    bytesOf "--- Inventory History ---" :: (row :: rows).map historyLine

/-- whether the client has logged in, and its id -/
def account (clientId : Bytes) : Told → Bool × Bytes
  | welcome user => (true, Client.setId (bytesOf user))
  | _ => (false, clientId)

/-- whether the client can write its log: the id of a login is part of the format there -/
def logged (N : Client.CLib) : Told → Bool
  | welcome user => N.formats (Client.loginFormat (bytesOf user))
  | _ => true

/-- what the printer of `command` shows and returns, where it comes back -/
def shown (N : Client.CLib) (command clientId : Bytes) (t : Told) :
    Option (List Bytes × Bool × Bytes) :=
  if t.logged N then some (t.lines command, t.account clientId) else none

/-- only a login logs in -/
theorem shown_of_answers {t : Told} {command : String} (h : t.Answers (some command))
    (hne : command ≠ "login") (N : Client.CLib) (token clientId : Bytes) :
    t.shown N token clientId = some (t.lines token, false, clientId) := by
  cases t with
  | welcome user => exact absurd (Option.some.inj h) hne
  | _ => rfl

end Told

namespace Client

/-! ## the fields, as the printers find them -/

/-- the names of the fields that the printers ask for, and of those that stand beside them -/
def fieldNames : List String :=
  ["status", "message", "client_id", "data", "category", "item", "quantity", "timestamp",
    "component", "level"]

theorem sameKey_names : ∀ a ∈ fieldNames, ∀ b ∈ fieldNames,
    sameKey (bytesOf a) (bytesOf b) = decide (a = b) := by decide

theorem getObjectItem_tree {name : String} (hname : name ∈ fieldNames)
    {fields : List (String × Json)} (hfields : ∀ f ∈ fields, f.1 ∈ fieldNames) :
    getObjectItem (Json.obj fields).tree (bytesOf name) = (fields.lookup name).map Json.tree := by
  show ((treeFields fields).find? fun f => sameKey (bytesOf name) f.1).map Prod.snd = _
  induction fields with
  | nil => rfl
  | cons f fields ih =>
    obtain ⟨k, v⟩ := f
    obtain ⟨hk, hfields⟩ := List.forall_mem_cons.mp hfields
    rw [treeFields, List.find?_cons, List.lookup_cons]
    dsimp only
    rw [sameKey_names name hname k hk]
    by_cases he : name = k
    · rw [decide_eq_true he, beq_iff_eq.mpr he]
      rfl
    · rw [decide_eq_false he, beq_eq_false_iff_ne.mpr he]
      exact ih hfields

theorem stringItem_tree {name s : String} (hname : name ∈ fieldNames)
    {fields : List (String × Json)} (hfields : ∀ f ∈ fields, f.1 ∈ fieldNames)
    (h : fields.lookup name = some (.str s)) :
    stringItem (Json.obj fields).tree name = some (bytesOf s) := by
  unfold stringItem
  rw [getObjectItem_tree hname hfields, h]
  rfl

theorem treeFields_eq_map (fields : List (String × Json)) :
    treeFields fields = fields.map fun f => (bytesOf f.1, f.2.tree) := by
  induction fields with
  | nil => rfl
  | cons f fields ih => rw [treeFields, List.map_cons, ih]

theorem children_tree (fields : List (String × Json)) :
    children (Json.obj fields).tree = fields.map fun f => (some (bytesOf f.1), f.2.tree) := by
  show (treeFields fields).map _ = _
  rw [treeFields_eq_map, List.map_map]
  rfl

theorem treeElems_eq_map (elems : List Json) : treeElems elems = elems.map Json.tree := by
  induction elems with
  | nil => rfl
  | cons v elems ih => rw [treeElems, List.map_cons, ih]

theorem depth_fields_le {fields : List (String × Json)} {n : Nat}
    (h : ∀ f ∈ fields, f.2.tree.depth ≤ n) : (Json.obj fields).tree.depth ≤ n + 1 := by
  refine depth_obj_le fun f hf => ?_
  rw [treeFields_eq_map] at hf
  obtain ⟨g, hg, rfl⟩ := List.mem_map.mp hf
  exact h g hg

theorem depth_data_le (message : String) {data : Json} (h : data.tree.depth ≤ 2) :
    ((statusReply "success" message).set "data" data).tree.depth ≤ 3 := by
  rw [statusReply_data]
  refine depth_fields_le (List.forall_mem_cons.mpr ⟨h, List.forall_mem_cons.mpr ⟨?_, ?_⟩⟩)
  · exact Nat.zero_le 2
  · exact List.forall_mem_singleton.mpr (Nat.zero_le 2)

/-- no reply of the server has more than three levels -/
theorem body_depth_le (t : Told) : t.body.tree.depth ≤ 3 := by
  have hstatus : ∀ status message, (statusReply status message).tree.depth ≤ 3 := by
    intro status message
    rw [statusReply_eq]
    exact Nat.le_add_left 1 2
  cases t with
  | refused message => exact hstatus "error" message
  | done message => exact hstatus "success" message
  | welcome user =>
    show (loginBody user).tree.depth ≤ 3
    rw [loginBody_eq]
    exact Nat.le_add_left 1 2
  | stock message category item quantity => exact depth_data_le message (Nat.le_succ 1)
  | inventory message map =>
    refine depth_data_le message (depth_fields_le fun f hf => ?_)
    obtain ⟨category, -, rfl⟩ := List.mem_map.mp hf
    refine depth_fields_le fun f hf => ?_
    obtain ⟨item, -, rfl⟩ := List.mem_map.mp hf
    exact le_rfl
  | history message rows =>
    refine depth_data_le message (depth_arr_le fun v hv => ?_)
    rw [treeElems_eq_map, List.map_map] at hv
    obtain ⟨row, -, rfl⟩ := List.mem_map.mp hv
    show (historyEntry row).tree.depth ≤ 1
    rw [historyEntry_eq]
    exact le_rfl

theorem collect_map {α β γ : Type} {f : β → Option γ} {g : α → β} {h : α → γ} {l : List α}
    (hf : ∀ a, f (g a) = some (h a)) : collect f (l.map g) = some (l.map h) := by
  induction l with
  | nil => rfl
  | cons a l ih =>
    rw [List.map_cons, collect, hf a, ih]
    rfl

/-! ## which printer -/

section Dispatch
variable (N : CLib) (clientId response : Bytes)

theorem print_inventory :
    printReadableResponse N clientId response (bytesOf "get_inventory") =
      (printInventoryResponse N response).map fun lines => (lines, false, clientId) :=
  if_pos rfl

theorem print_stock :
    printReadableResponse N clientId response (bytesOf "get_stock") =
      (printGetStockResponse N response).map fun lines => (lines, false, clientId) := by
  unfold printReadableResponse
  rw [if_neg (by decide), if_pos rfl]

theorem print_history :
    printReadableResponse N clientId response (bytesOf "get_history") =
      (printGetHistoryResponse N response).map fun lines => (lines, false, clientId) := by
  unfold printReadableResponse
  rw [if_neg (by decide), if_neg (by decide), if_pos rfl]

theorem print_other {command : Bytes} (h : command ∉
      ["get_inventory", "get_stock", "get_history", "login"].map bytesOf) :
    printReadableResponse N clientId response command =
      some (statusLines N response, false, clientId) := by
  simp only [List.map_cons, List.map_nil, List.mem_cons, List.not_mem_nil, or_false, not_or] at h
  obtain ⟨hinventory, hstock, hhistory, hlogin⟩ := h
  unfold printReadableResponse
  rw [if_neg hinventory, if_neg hstock, if_neg hhistory, if_neg hlogin]

end Dispatch

/-! ## the printers on the bodies -/

section Bodies
variable {N : CLib} {response : Bytes} {root : Tree} {body : Tree → Option (List Bytes)}

theorem printReport_success (hparse : cJSONParse N response = some root)
    (hstatus : stringItem root "status" = some (bytesOf "success")) :
    printReport N body response = body root := by
  unfold printReport
  rw [hparse]
  dsimp only
  rw [valuestring_getObjectItem, hstatus, Option.map_some]
  exact if_pos (by decide)

theorem printReport_error {message : String}
    (hparse : cJSONParse N response = some root)
    (hstatus : stringItem root "status" = some (bytesOf "error"))
    (hmessage : stringItem root "message" = some (bytesOf message)) :
    printReport N body response = some [bytesOf "Error from server: " ++ Told.text message] := by
  unfold printReport errorFromServer
  rw [hparse]
  dsimp only
  rw [valuestring_getObjectItem, hstatus, Option.map_some, hmessage]
  exact if_neg (by decide)

theorem statusLines_eq {status message : String}
    (hparse : cJSONParse N response = some root)
    (hstatus : stringItem root "status" = some (bytesOf status))
    (hmessage : stringItem root "message" = some (bytesOf message)) :
    statusLines N response = Told.statusPair status message := by
  unfold statusLines
  rw [hparse]
  dsimp only
  rw [hstatus, hmessage]
  rfl

/-- the `int` of a numeral is printed as the numeral -/
theorem intText_int (n : Int32) : intText N (Json.int n.toInt).tree = Told.number n := by
  show bytesOf (toString (N.valueint (.number (bytesOf (toString n.toInt))))) = _
  rw [N.ints]
  rfl

theorem inventoryLines_eq (map : ClientInventoryMap)
    (hdata : getObjectItem root (bytesOf "data") = some (inventoryJson map).tree)
    (message : String) (command : Bytes) :
    inventoryLines N root = some ((Told.inventory message map).lines command) := by
  have hitem : ∀ i : String × Int32,
      itemLine N (some (bytesOf i.1), (Json.int i.2.toInt).tree) =
        some (bytesOf "    - " ++ Told.text i.1 ++ bytesOf ": " ++ Told.number i.2) := by
    intro i
    unfold itemLine
    rw [intText_int]
    rfl
  have hcategory : ∀ c : String × Std.ExtTreeMap String Int32,
      categoryLines N (some (bytesOf c.1),
        (Json.obj (c.2.toList.map fun i => (i.1, .int i.2.toInt))).tree) =
        some (Told.categoryLines c.1 c.2.toList) := by
    intro c
    unfold categoryLines
    rw [children_tree, List.map_map, Option.bind_some]
    exact congrArg (Option.map _) (collect_map hitem)
  unfold inventoryLines
  rw [hdata]
  dsimp only
  unfold inventoryJson
  rw [children_tree, List.map_map]
  refine (congrArg (Option.map _) (collect_map hcategory)).trans ?_
  rw [Option.map_some, ← List.flatMap_def]
  rfl

theorem stockLines_eq {category item : String} {quantity : Int32}
    (hdata : getObjectItem root (bytesOf "data") = some (Json.obj [("category", .str category),
      ("item", .str item), ("quantity", .int quantity.toInt)]).tree)
    (message : String) (command : Bytes) :
    stockLines N root =
      some ((Told.stock message category item quantity).lines command) := by
  have hfields : ∀ f ∈ [("category", Json.str category), ("item", .str item),
      ("quantity", .int quantity.toInt)], f.1 ∈ fieldNames := by
    simp [fieldNames]
  unfold stockLines stockItemLines
  rw [hdata]
  dsimp only
  rw [getObjectItem_tree (by decide) hfields, getObjectItem_tree (by decide) hfields,
    getObjectItem_tree (by decide) hfields]
  show some _ = some _
  rw [intText_int]
  rfl

theorem historyLines_eq {rows : List LogRow}
    (hdata : getObjectItem root (bytesOf "data") = some (Json.arr (rows.map historyEntry)).tree)
    (message : String) (command : Bytes) :
    historyLines root = some ((Told.history message rows).lines command) := by
  have hentry : ∀ row, entryLines (historyEntry row).tree = some [Told.historyLine row] := by
    intro row
    have hfields : ∀ f ∈ [("component", Json.str row.component), ("level", .str row.level),
        ("message", .str row.message), ("timestamp", .str row.timestamp)], f.1 ∈ fieldNames := by
      simp [fieldNames]
    unfold entryLines
    rw [historyEntry_eq, getObjectItem_tree (by decide) hfields,
      getObjectItem_tree (by decide) hfields]
    rfl
  have htree : (Json.arr (rows.map historyEntry)).tree =
      .arr (rows.map fun row => (historyEntry row).tree) := by
    show Tree.arr (treeElems _) = _
    rw [treeElems_eq_map, List.map_map]
    rfl
  unfold historyLines
  rw [hdata, htree]
  cases rows with
  | nil => rfl
  | cons row rows =>
    rw [List.map_cons]
    dsimp only
    rw [← List.map_cons (f := fun row => (historyEntry row).tree), collect_map hentry,
      Option.map_some, ← List.flatMap_def, ← List.map_eq_flatMap]
    rfl

theorem print_refused {message : String}
    (hparse : cJSONParse N response = some root)
    (hstatus : stringItem root "status" = some (bytesOf "error"))
    (hmessage : stringItem root "message" = some (bytesOf message)) (clientId command : Bytes) :
    printReadableResponse N clientId response command =
      some ((Told.refused message).lines command, false, clientId) := by
  have hlogin : handleLoginResponse N clientId response =
      some ([bytesOf "Error from server: " ++ Told.text message], false, clientId) := by
    unfold handleLoginResponse
    rw [hparse]
    dsimp only
    rw [hstatus, hmessage]
    exact if_neg (by decide)
  rw [Told.lines]
  by_cases hmem : command ∈ ["get_inventory", "get_stock", "get_history", "login"].map bytesOf
  · rw [if_pos hmem]
    simp only [List.map_cons, List.map_nil, List.mem_cons, List.not_mem_nil, or_false] at hmem
    rcases hmem with rfl | rfl | rfl | rfl
    · rw [print_inventory, printInventoryResponse, printReport_error hparse hstatus hmessage]
      rfl
    · rw [print_stock, printGetStockResponse, printReport_error hparse hstatus hmessage]
      rfl
    · rw [print_history, printGetHistoryResponse, printReport_error hparse hstatus hmessage]
      rfl
    · rw [print_login, hlogin]
  · rw [if_neg hmem, print_other N clientId response hmem,
      statusLines_eq hparse hstatus hmessage]

theorem print_done {message : String}
    (hparse : cJSONParse N response = some root)
    (hstatus : stringItem root "status" = some (bytesOf "success"))
    (hmessage : stringItem root "message" = some (bytesOf message))
    (hid : stringItem root "client_id" = none) (clientId : Bytes) {name : String}
    (hname : dataShape name = none) :
    printReadableResponse N clientId response (bytesOf name) =
      some ((Told.done message).lines (bytesOf name), false, clientId) := by
  rw [Told.lines]
  by_cases hlogin : name = "login"
  · rw [hlogin, if_pos rfl, print_login]
    unfold handleLoginResponse
    rw [hparse]
    dsimp only
    rw [hstatus, hmessage, hid]
    exact if_pos (by decide)
  · have hother : bytesOf name ∉
        ["get_inventory", "get_stock", "get_history", "login"].map bytesOf := by
      rw [List.mem_map_of_injective (fun _ _ => bytesOf_injective)]
      intro hmem
      simp only [List.mem_cons, List.not_mem_nil, or_false] at hmem
      rcases hmem with rfl | rfl | rfl | rfl
      · cases hname
      · cases hname
      · cases hname
      · exact hlogin rfl
    rw [if_neg fun h => hlogin (bytesOf_injective h), print_other N clientId response hother,
      statusLines_eq hparse hstatus hmessage]

theorem print_welcome (user : String)
    (hparse : cJSONParse N response = some (loginBody user).tree) (clientId : Bytes) :
    printReadableResponse N clientId response (bytesOf "login") =
      if N.formats (loginFormat (bytesOf user)) then
        some ((Told.welcome user).lines (bytesOf "login"), true, setId (bytesOf user))
      else none := by
  have hfields : ∀ f ∈ [("client_id", Json.str user),
      ("message", .str ("Login successful! Welcome " ++ user ++ ".")),
      ("status", .str "success")], f.1 ∈ fieldNames := by
    simp [fieldNames]
  rw [print_login]
  unfold handleLoginResponse
  rw [hparse, loginBody_eq]
  dsimp only
  rw [stringItem_tree (by decide) hfields rfl, stringItem_tree (by decide) hfields rfl,
    stringItem_tree (by decide) hfields rfl]
  exact if_pos (by decide)

/-- the fields of a reply with data -/
theorem items_of_data (message : String) (data : Json) :
    stringItem ((statusReply "success" message).set "data" data).tree "status" =
        some (bytesOf "success") ∧
      getObjectItem ((statusReply "success" message).set "data" data).tree (bytesOf "data") =
        some data.tree := by
  have hfields : ∀ f ∈ [("data", data), ("message", Json.str message),
      ("status", .str "success")], f.1 ∈ fieldNames := by
    simp [fieldNames]
  rw [statusReply_data]
  refine ⟨stringItem_tree (by decide) hfields rfl, ?_⟩
  rw [getObjectItem_tree (by decide) hfields]
  rfl

theorem items_of_status (status message : String) :
    stringItem (statusReply status message).tree "status" = some (bytesOf status) ∧
      stringItem (statusReply status message).tree "message" = some (bytesOf message) ∧
      stringItem (statusReply status message).tree "client_id" = none := by
  have hfields : ∀ f ∈ [("message", Json.str message), ("status", .str status)],
      f.1 ∈ fieldNames := by
    simp [fieldNames]
  rw [statusReply_eq]
  refine ⟨stringItem_tree (by decide) hfields rfl, stringItem_tree (by decide) hfields rfl, ?_⟩
  unfold stringItem
  rw [getObjectItem_tree (by decide) hfields]
  rfl

/-- **The printers write what a reply tells**, where they come back. -/
theorem printReadableResponse_body (t : Told) {cmd : Option String}
    (hanswers : t.Answers cmd) (hparse : cJSONParse N response = some t.body.tree)
    {command : Bytes} (hcommand : ∀ name, cmd = some name → command = bytesOf name)
    (clientId : Bytes) :
    printReadableResponse N clientId response command = t.shown N command clientId := by
  cases t with
  | refused message =>
    obtain ⟨hstatus, hmessage, -⟩ := items_of_status "error" message
    exact print_refused hparse hstatus hmessage clientId command
  | done message =>
    obtain ⟨name, hname, hshape⟩ := hanswers
    obtain rfl := hcommand name hname
    obtain ⟨hstatus, hmessage, hid⟩ := items_of_status "success" message
    exact print_done hparse hstatus hmessage hid clientId hshape
  | welcome user =>
    obtain rfl := hcommand _ hanswers
    exact print_welcome user hparse clientId
  | inventory message map =>
    obtain rfl := hcommand _ hanswers
    obtain ⟨hstatus, hdata⟩ := items_of_data message (inventoryJson map)
    rw [print_inventory, printInventoryResponse, printReport_success hparse hstatus]
    exact congrArg (Option.map _) (inventoryLines_eq map hdata message _)
  | stock message category item quantity =>
    obtain rfl := hcommand _ hanswers
    obtain ⟨hstatus, hdata⟩ := items_of_data message (.obj
      [("category", .str category), ("item", .str item), ("quantity", .int quantity.toInt)])
    rw [print_stock, printGetStockResponse, printReport_success hparse hstatus]
    exact congrArg (Option.map _) (stockLines_eq hdata message _)
  | history message rows =>
    obtain rfl := hcommand _ hanswers
    obtain ⟨hstatus, hdata⟩ := items_of_data message (.arr (rows.map historyEntry))
    rw [print_history, printGetHistoryResponse, printReport_success hparse hstatus]
    exact congrArg (Option.map _) (historyLines_eq hdata message _)

end Bodies
end Client

/-! ## the lines of the user -/

namespace Client

theorem print_told (N : CLib) (F : Doubles) (L : Libs) {t : Told} {command : String}
    (hanswers : t.Answers (some command)) {token : Bytes} (htoken : token = bytesOf command)
    (clientId : Bytes) :
    printReadableResponse N clientId
        (cString (bytesOf (Reply.dumped (L.standard F) t.body).text)) token =
      t.shown N token clientId := by
  have hranged := t.body_canonical.ranged
  have hnul : 0 ∉ bytesOf (t.body.dump F) := fun hmem =>
    absurd (dump_printable F hranged 0 hmem) (by decide)
  have hparse : cJSONParse N (bytesOf (t.body.dump F)) = some t.body.tree := by
    rw [cJSONParse_dump F N hranged, t.body_canonical.written_eq F]
    exact if_pos ((body_depth_le t).trans (by decide))
  show printReadableResponse N clientId (cString (bytesOf (t.body.dump F))) token = _
  rw [(cString_eq_self_iff _).mpr hnul]
  refine printReadableResponse_body t hanswers hparse ?_ clientId
  intro name hname
  cases hname
  exact htoken

/-- what is sent for a line, as the server reads it -/
structure Asked (F : Doubles) (cast : FloatCast) (line : Line) (q : Request) (request : Json)
    (command : String) (args : List String) : Prop where
  words : lineWords line.text = command :: args
  token : q.command = bytesOf command
  parsed : Json.parse F q.message = some request
  carries : Carries cast request (command :: args)

theorem Asked.command {F : Doubles} {cast : FloatCast} {line : Line} {q : Request} {request : Json}
    {command : String} {args : List String} (h : Asked F cast line q request command args) :
    requestCommand request = some command := by
  rw [requestCommand, h.carries.1]
  rfl

theorem processUserInput_quit {buffer line : Bytes}
    (h : processUserInput buffer = (.quit, line)) : line = bytesOf "end" := by
  unfold processUserInput at h
  dsimp only at h
  split_ifs at h with hend hempty
  · cases h
    exact hend
  · cases h
  · cases h

theorem asked_end (F : Doubles) (cast : FloatCast) {line : Line} (h : line.text = "end") :
    Asked F cast line ⟨endMessage, bytesOf "end", true⟩ (.obj [("command", .str "end")]) "end" [] := by
  have hcanonical : (Json.obj [("command", .str "end")]).Canonical := by
    refine .obj (show ["command"].Pairwise (· < ·) by decide) ?_
    exact List.forall_mem_singleton.mpr (.str _)
  have hmessage : endMessage = (Json.obj [("command", .str "end")]).tree.print := by decide
  refine ⟨?_, rfl, ?_, rfl, ?_⟩
  · rw [h]
    decide +kernel
  · show Json.parse F endMessage = _
    rw [hmessage]
    exact parse_print hcanonical
  · rw [if_neg (by decide), if_neg (by decide), if_neg (by decide), if_neg (by decide),
      if_neg (by decide)]
    trivial

theorem strtok_line {text command : String} {args : List String}
    (h : lineWords text = command :: args) : (strtok (bytesOf text)).1 = some (bytesOf command) := by
  have htokens := tokens_bytesOf text
  rw [h] at htokens
  obtain ⟨rest, hrest, -⟩ := strtok_cons htokens
  rw [hrest]

theorem asked_of_begin {R : Runtime} {F : Doubles} {cast : FloatCast} {line : Line}
    {buffer : Bytes} {q : Request} (hbegin : beginAction R buffer = .request q)
    (hline : (processUserInput buffer).2 = bytesOf line.text)
    (hagrees : LineAgrees R F cast line) :
    ∃ request command args, Asked F cast line q request command args := by
  unfold beginAction at hbegin
  generalize hinput : processUserInput buffer = input at hbegin hline
  obtain ⟨action, l⟩ := input
  obtain rfl : l = bytesOf line.text := hline
  cases action with
  | goOn => cases hbegin
  | quit =>
    cases hbegin
    exact ⟨_, _, _, asked_end F cast (bytesOf_injective (processUserInput_quit hinput))⟩
  | send =>
    dsimp only at hbegin
    cases hbuild : buildJsonFromInput R (bytesOf line.text) with
    | errorMemory message =>
      rw [hbuild] at hbegin
      cases hbegin
    | errorSyntax message =>
      rw [hbuild] at hbegin
      cases hbegin
    | crash =>
      rw [hbuild] at hbegin
      cases hbegin
    | success text =>
      rw [hbuild] at hbegin
      cases hbegin
      obtain ⟨request, hparsed, hcarries⟩ := hagrees.decoded text hbuild
      cases hwords : lineWords line.text with
      | nil =>
        rw [hwords] at hcarries
        exact hcarries.elim
      | cons command args =>
        rw [hwords] at hcarries
        refine ⟨request, command, args, hwords, ?_, hparsed, hcarries⟩
        show (strtok (bytesOf line.text)).1.getD [] = _
        rw [strtok_line hwords]
        rfl

end Client

/-- **The terminal shows what the reply tells**, unless it is a login with an id that the log cannot be
given.  `buffer` is what `fgets` has read, `line` the text of it; a quantity that the line has is one
of an `int`, and the session reads the request whole. -/
theorem reply_on_terminal (F : Doubles) (L : Libs) (hjson : L.Nlohmann F) (cfg : Config)
    (N : Client.CLib) (R : Client.Runtime)
    (line : Client.Line) (hfits : Client.QuantityFits R (Client.lineWords line.text))
    (hwords : Client.lineWords line.text ≠ []) (buffer : Bytes) (q : Client.Request)
    (hbegin : Client.beginAction R buffer = .request q)
    (hline : (Client.processUserInput buffer).2 = bytesOf line.text) (sid : Nat) (s s' : St)
    (answer : Reply) (keep : Bool)
    (hrun : (processMessage L cfg sid q.message).run s = (.ok (answer, keep), s'))
    (clientId : Bytes) :
    ∃ t : Told, L.parse (bytesOf answer.text) = some t.body ∧
      t.Answers (Client.lineWords line.text).head? ∧
      Client.printReadableResponse N clientId (cString (bytesOf answer.text))
        q.command = t.shown N q.command clientId := by
  obtain ⟨L, rfl⟩ := hjson.standard
  have hagrees : Client.LineAgrees R F L.floatCast line := Client.agrees_of_fits hwords hfits
  obtain ⟨request, command, args, hasked⟩ := Client.asked_of_begin hbegin hline hagrees
  have htells : ReplyTells (L.standard F) (requestCommand request) (answer, keep) :=
    processMessage_tells hasked.parsed hrun
  rw [hasked.command] at htells
  obtain ⟨t, htold, hanswers⟩ := htells
  obtain rfl : answer = .dumped (L.standard F) t.body := htold
  refine ⟨t, parse_dump F t.body_canonical, ?_, ?_⟩
  · rw [hasked.words]
    exact hanswers
  · exact Client.print_told N F L hanswers hasked.token clientId

theorem fits_of_other {R : Client.Runtime} {command : String} (args : List String)
    (h : command ≠ "update_stock") : Client.QuantityFits R (command :: args) := by
  intro _ category item quantity rest hwords
  exact absurd (List.cons.inj hwords).1 h

def loginLine : Client.Line := ⟨"login alice secret", by decide⟩

theorem loginLine_words : Client.lineWords loginLine.text = ["login", "alice", "secret"] := by
  decide +kernel

theorem loginLine_input :
    (Client.processUserInput (bytesOf "login alice secret\n")).2 = bytesOf loginLine.text := by
  decide +kernel

/-- alice logs in and reads the answer -/
theorem alice_reads_welcome :
    ∃ answer keep s', (processMessage sampleLibs .sample 0 aliceRequest.message).run
        (aliceStart.facing healthy) = (.ok (answer, keep), s') ∧
      ∃ t : Told, sampleLibs.parse (bytesOf answer.text) = some t.body ∧
        t.Answers (Client.lineWords loginLine.text).head? ∧
        Client.printReadableResponse .sample [] (cString (bytesOf answer.text))
          aliceRequest.command = t.shown .sample aliceRequest.command [] := by
  obtain ⟨s', hrun, -⟩ := login_reply aliceRequest_login
  have hfits : Client.QuantityFits plainRuntime (Client.lineWords loginLine.text) := by
    rw [loginLine_words]
    exact fits_of_other _ (by decide)
  have hwords : Client.lineWords loginLine.text ≠ [] := by
    rw [loginLine_words]
    exact List.cons_ne_nil _ _
  exact ⟨_, _, s', hrun, reply_on_terminal .sample sampleLibs ⟨rfl, rfl⟩ .sample .sample
    plainRuntime loginLine hfits hwords _ aliceRequest aliceRequest_begin.1
    loginLine_input 0 (aliceStart.facing healthy) s' _ true hrun []⟩

/-! ## the ledger on the terminal -/

namespace Ledger

def updateTold (me category item : String) (quantity : Int32) : Told :=
  if isHub me then .refused "update_stock command is not allowed for Hub clients."
  else if quantity < 0 then .refused "Update rejected: Quantity cannot be negative."
  else if (validateInventory category item).success = false then
    .refused (validateInventory category item).message
  else .done ("Stock for '" ++ category ++ ":" ++ item ++ "' successfully updated to " ++
    toString quantity.toInt ++ ".")

def stockTold (category item : String) : Option Int32 → Told
  | some quantity => .stock "Stock data retrieved successfully." category item quantity
  | none => .refused "Item not found for the specified client/category."

def summaryTold (me : String) : Option ClientInventoryMap → Told
  | some map => .inventory ("Inventory data for client " ++ me ++ " retrieved.") map
  | none => .refused ("Inventory data for client " ++ me ++ " is empty.")

/-- what the ledger gives for a line of `me`, where the line is about the ledger -/
noncomputable def told (ledger : PlainStore) (me : String) : List String → Option Told
  | [] => none
  | command :: args =>
    if command = "get_stock" then
      match args with
      | category :: item :: _ => some (stockTold category item (ledger ⟨me, category, item⟩))
      | _ => none
    else if command = "get_inventory" then some (summaryTold me (plainSummary ledger me))
    else if command = "update_stock" then
      match args with
      | category :: item :: quantity :: _ =>
        (Client.decimal quantity).map fun n => updateTold me category item (Int32.ofInt n)
      | _ => none
    else none

/-- the reply to a session whose database call failed -/
def failed : Told := .refused "An internal server error occurred. Please reconnect"

end Ledger

section Screen
variable {L : Libs} {ledger : PlainStore} {e : Exchange} {cast : FloatCast} {request : Json}
  {command : String} {args : List String} {t : Told}

theorem updateAnswer_told (me category item : String) (quantity : Int32) :
    updateAnswer L me category item quantity =
      .dumped L (Ledger.updateTold me category item quantity).body := by
  unfold updateAnswer Ledger.updateTold
  split_ifs <;> rfl

theorem stockAnswer_told (category item : String) (quantity : Option Int32) :
    stockAnswer L category item quantity =
      .dumped L (Ledger.stockTold category item quantity).body := by
  cases quantity <;> rfl

theorem summaryAnswer_told (me : String) (map : Option ClientInventoryMap) :
    summaryAnswer L me map = .dumped L (Ledger.summaryTold me map).body := by
  cases map <;> rfl

theorem answers_stockTold (category item : String) (quantity : Option Int32) :
    (Ledger.stockTold category item quantity).Answers (some "get_stock") := by
  cases quantity with
  | none => trivial
  | some quantity => rfl

theorem answers_summaryTold (me : String) (map : Option ClientInventoryMap) :
    (Ledger.summaryTold me map).Answers (some "get_inventory") := by
  cases map with
  | none => trivial
  | some map => rfl

theorem answers_updateTold (me category item : String) (quantity : Int32) :
    (Ledger.updateTold me category item quantity).Answers (some "update_stock") := by
  unfold Ledger.updateTold
  split_ifs with hhub hnegative hinvalid
  · trivial
  · trivial
  · trivial
  · exact ⟨"update_stock", rfl, dataShape_none (by decide)⟩

/-- a reply that is the ledger's tells what the ledger gives -/
theorem Ledger.Tells.told (h : Ledger.Tells L ledger e)
    (hcarries : Client.Carries L.floatCast e.request (command :: args))
    (ht : Ledger.told ledger e.client (command :: args) = some t) :
    Ledger.Gives L e (.dumped L t.body) ∧ t.Answers (some command) := by
  obtain ⟨hcommand, hcarries⟩ := hcarries
  unfold Ledger.told at ht
  dsimp only at ht
  split_ifs at ht with hstock hinventory hupdate
  · subst hstock
    rw [if_neg (by decide), if_pos rfl] at hcarries
    obtain ⟨category, item, rest, rfl, hfields⟩ := hcarries
    cases ht
    rw [← stockAnswer_told]
    exact ⟨h.stock category item hcommand hfields, answers_stockTold _ _ _⟩
  · subst hinventory
    cases ht
    rw [← summaryAnswer_told]
    exact ⟨h.summary hcommand, answers_summaryTold _ _⟩
  · subst hupdate
    rw [if_pos rfl] at hcarries
    obtain ⟨category, item, quantity, rest, n, k, rfl, hdecimal, hfields, hk⟩ := hcarries
    dsimp only at ht
    rw [hdecimal, Option.map_some, ← hk, Int32.ofInt_toInt] at ht
    cases ht
    rw [← updateAnswer_told]
    exact ⟨h.update category item k hcommand hfields, answers_updateTold _ _ _ _⟩

end Screen

def stockLine : Client.Line := ⟨"get_stock food water", by decide⟩

theorem stockLine_words : Client.lineWords stockLine.text = ["get_stock", "food", "water"] := by
  decide +kernel

def stockRequest : Client.Request :=
  ⟨bytesOf (pairRequest "get_stock" "category" "food" "item" "water").render, bytesOf "get_stock",
    false⟩

theorem stockRequest_begin :
    Client.beginAction plainRuntime (bytesOf "get_stock food water\n") = .request stockRequest ∧
      (Client.processUserInput (bytesOf "get_stock food water\n")).2 = bytesOf stockLine.text := by
  decide +kernel

theorem entered_of_login {L : Libs} {cfg : Config} {w : World} {sid : Nat} {user : String}
    {text : Bytes} {env : Nat → Answer}
    (h : authCall L cfg sid text (w.facing env) = some (user, .ok .success)) :
    ∃ w', runFrom (lifeStep L cfg) w [.input ⟨.message sid text, env⟩] = some w' ∧
      (w'.core.sessions sid).isAuthenticated = true := by
  obtain ⟨answer, s', row, hrun, -, -, -, heffect⟩ := processMessage_login h
  refine ⟨_, rfl, ?_⟩
  show ((after L cfg w ⟨.message sid text, env⟩).sessions sid).isAuthenticated = true
  rw [after_message rfl]
  show (((processMessage L cfg sid text).run (w.facing env)).2.core.sessions sid).isAuthenticated =
    true
  rw [hrun, heffect.sessions, Function.update_self]
  rfl

theorem told_stock (ledger : PlainStore) (me category item : String) :
    Ledger.told ledger me ["get_stock", category, item] =
      some (Ledger.stockTold category item (ledger ⟨me, category, item⟩)) := by
  unfold Ledger.told
  exact if_pos rfl

end Logistics
