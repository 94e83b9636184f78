import Logistics.Client.CJson

/-!
# The printers of the client

`print_readable_response` chooses a printer by the command and gives it the bytes of the reply.  The
three reports read `status->valuestring` before anything else; what a printer reads next depends on
it.  A printer is modelled by the lines it prints, or `none` where it does not come back: it reads
through a null pointer (an item that is not there, the `valuestring` of an item that is no string,
the name of an item of an array), or it hands `logger_log` a format that `vfprintf` does not survive.
The latter is the line of the log about a login, which has the id in its format.

* `printInventoryResponse`, `printGetStockResponse`, `printGetHistoryResponse`,
  `handleLoginResponse`, `statusLines`   the printers;
* `Complete`               every field that the printer of a command reads is there, with its type;
* `Right`                  an incomplete reply is reported as an error, and the id stays;
* `response_safe_iff`      **which replies are printed right**;
* `bare_number_crashes`    the reply `5` to `get_stock`, and a silent one.
-/

namespace Logistics

namespace Client
open JsonText

def CLIENT_ID_MAX_LEN : Nat := 64

def MAX_LOG_MESSAGE_SIZE : Nat := 512

/-! ## items -/

/-- the field is there and `cJSON_IsString` -/
def stringItem (root : Tree) (name : String) : Option Text :=
  match getObjectItem root (bytesOf name) with
  | some (.str s) => some s
  | _ => none

/-- `item->valuestring` where it can be read -/
def valuestring : Option Tree → Option Text
  | some (.str s) => some (cString s)
  | _ => none

/-- what `cJSON_ArrayForEach` goes through, with the names; the items of an array have none -/
def children : Tree → List (Option Text × Tree)
  | .obj fields => fields.map fun f => (some f.1, f.2)
  | .arr elems => elems.map fun v => (none, v)
  | _ => []

/-- one result for each element, unless one of them has none -/
def collect {α β : Type} (f : α → Option β) : List α → Option (List β)
  | [] => some []
  | a :: l => (f a).bind fun b => (collect f l).map fun bs => b :: bs

/-! ## the reports -/

section Reports
variable (N : CLib)

def parseError : Bytes := bytesOf "Error: Could not parse server response."

def errorFromServer (root : Tree) : List Bytes :=
  match stringItem root "message" with
  | some message => [bytesOf "Error from server: " ++ cString message]
  | none => []

/-- the frame of the three reports -/
def printReport (body : Tree → Option (List Bytes)) (response : Bytes) : Option (List Bytes) :=
  match cJSONParse N response with
  | none => some [parseError]
  | some root =>
    match valuestring (getObjectItem root (bytesOf "status")) with
    | none => none
    | some status =>
      if status = bytesOf "success" then body root else some (errorFromServer root)

def intText (t : Tree) : Bytes := bytesOf (toString (N.valueint t))

def itemLine (item : Option Text × Tree) : Option Bytes :=
  item.1.map fun name =>
    bytesOf "    - " ++ cString name ++ bytesOf ": " ++ intText N item.2

def categoryLines (category : Option Text × Tree) : Option (List Bytes) :=
  category.1.bind fun name =>
    (collect (itemLine N) (children category.2)).map fun items =>
      (bytesOf "  Category: " ++ cString name) :: items

def reportEnd : Bytes := bytesOf "------------------------"

def inventoryLines (root : Tree) : Option (List Bytes) :=
  match getObjectItem root (bytesOf "data") with
  | none => some [bytesOf "--- Inventory Report ---", reportEnd]
  | some data =>
    (collect (categoryLines N) (children data)).map fun categories =>
      bytesOf "--- Inventory Report ---" :: (categories.flatten ++ [reportEnd])

def printInventoryResponse : Bytes → Option (List Bytes) :=
  printReport N (inventoryLines N)

def stockItemLines (data : Tree) : Option (List Bytes) :=
  match getObjectItem data (bytesOf "category"), getObjectItem data (bytesOf "item"),
      getObjectItem data (bytesOf "quantity") with
  | some category, some item, some quantity =>
    (valuestring (some item)).bind fun itemName =>
      (valuestring (some category)).map fun categoryName =>
        [bytesOf "  - Item: " ++ itemName, bytesOf "  - Category: " ++ categoryName,
          bytesOf "  - Quantity: " ++ intText N quantity]
  | _, _, _ => some []

def stockLines (root : Tree) : Option (List Bytes) :=
  match getObjectItem root (bytesOf "data") with
  | none => some [bytesOf "--- Stock Report ---", reportEnd]
  | some data =>
    (stockItemLines N data).map fun lines =>
      bytesOf "--- Stock Report ---" :: (lines ++ [reportEnd])

def printGetStockResponse : Bytes → Option (List Bytes) := printReport N (stockLines N)

def entryLines (entry : Tree) : Option (List Bytes) :=
  match getObjectItem entry (bytesOf "timestamp"), getObjectItem entry (bytesOf "message") with
  | some timestamp, some message =>
    (valuestring (some timestamp)).bind fun timestamp =>
      (valuestring (some message)).map fun message =>
        [bytesOf "  - [" ++ timestamp ++ bytesOf "] " ++ message]
  | _, _ => some []

def noHistory : Bytes := bytesOf "No inventory history found for this client."

def historyLines (root : Tree) : Option (List Bytes) :=
  match getObjectItem root (bytesOf "data") with
  | some (.arr (entry :: entries)) =>
    (collect entryLines (entry :: entries)).map fun lines =>
      bytesOf "--- Inventory History ---" :: lines.flatten
  | _ => some [noHistory]

def printGetHistoryResponse : Bytes → Option (List Bytes) := printReport N historyLines

/-! ## the other replies -/

/-- `client_context_set_id` -/
def setId (valuestring : Text) : Bytes := (cString valuestring).take (CLIENT_ID_MAX_LEN - 1)

/-- the `log_msg` of `post_login_procedures`, which `logger_log` takes as its format -/
def loginFormat (valuestring : Text) : Bytes :=
  (bytesOf "Login successful. Client ID: " ++ cString valuestring).take (MAX_LOG_MESSAGE_SIZE - 1)

/-- `handle_login_response` with `post_login_procedures`: what it prints, its result, and the id in
the context -/
def handleLoginResponse (clientId response : Bytes) : Option (List Bytes × Bool × Bytes) :=
  match cJSONParse N response with
  | none => some ([parseError], false, clientId)
  | some root =>
    match stringItem root "status", stringItem root "message" with
    | none, _ => some ([bytesOf "Error: Invalid server response (missing status)."], false, clientId)
    | some _, none =>
      some ([bytesOf "Error: Invalid server response (missing message)."], false, clientId)
    | some status, some message =>
      if strEq status "success" then
        match stringItem root "client_id" with
        | some id =>
          if N.formats (loginFormat id) then
            some ([bytesOf "-Status: " ++ cString status, bytesOf "-Message: " ++ cString message],
              true, setId id)
          else none
        | none => some ([bytesOf "Error: Login response missing client_id."], false, clientId)
      else some ([bytesOf "Error from server: " ++ cString message], false, clientId)

/-- the end of `print_readable_response` -/
def statusLines (response : Bytes) : List Bytes :=
  match cJSONParse N response with
  | none => [parseError]
  | some root =>
    ((stringItem root "status").map fun s => bytesOf "-Status: " ++ cString s).toList ++
      ((stringItem root "message").map fun s => bytesOf "-Message: " ++ cString s).toList

/-- `print_readable_response`: what it prints, its result, and the id in the context -/
def printReadableResponse (clientId response command : Bytes) :
    Option (List Bytes × Bool × Bytes) :=
  if command = bytesOf "get_inventory" then
    (printInventoryResponse N response).map fun lines => (lines, false, clientId)
  else if command = bytesOf "get_stock" then
    (printGetStockResponse N response).map fun lines => (lines, false, clientId)
  else if command = bytesOf "get_history" then
    (printGetHistoryResponse N response).map fun lines => (lines, false, clientId)
  else if command = bytesOf "login" then handleLoginResponse N clientId response
  else some (statusLines N response, false, clientId)

theorem print_login (clientId response : Bytes) :
    printReadableResponse N clientId response (bytesOf "login") =
      handleLoginResponse N clientId response := by
  unfold printReadableResponse
  rw [if_neg (by decide), if_neg (by decide), if_neg (by decide), if_pos rfl]

end Reports

/-- no other printer logs in -/
theorem printReadableResponse_plain {N : CLib} {clientId response command : Bytes}
    {lines : List Bytes × Bool × Bytes} (hlogin : command ≠ bytesOf "login")
    (h : printReadableResponse N clientId response command = some lines) :
    lines.2 = (false, clientId) := by
  unfold printReadableResponse at h
  split_ifs at h
  · obtain ⟨report, -, rfl⟩ := Option.map_eq_some_iff.mp h
    rfl
  · obtain ⟨report, -, rfl⟩ := Option.map_eq_some_iff.mp h
    rfl
  · obtain ⟨report, -, rfl⟩ := Option.map_eq_some_iff.mp h
    rfl
  · cases h
    rfl

/-! ## complete replies -/

def IsString (root : Tree) (name : String) : Prop := ∃ s, stringItem root name = some s

/-- the status is `success` -/
def Succeeded (root : Tree) : Prop :=
  ∃ s, stringItem root "status" = some s ∧ strEq s "success" = true

/-- categories with their items, all by name -/
def InventoryData (root : Tree) : Prop :=
  ∃ fields, getObjectItem root (bytesOf "data") = some (.obj fields) ∧
    ∀ f ∈ fields, ∃ items, f.2 = .obj items

def StockData (root : Tree) : Prop :=
  ∃ data, getObjectItem root (bytesOf "data") = some data ∧ IsString data "category" ∧
    IsString data "item" ∧ getObjectItem data (bytesOf "quantity") ≠ none

def HistoryData (root : Tree) : Prop :=
  ∃ entries, getObjectItem root (bytesOf "data") = some (.arr entries) ∧
    ∀ e ∈ entries, IsString e "timestamp" ∧ IsString e "message"

/-- what a report reads after the status -/
structure ReportFields (data : Tree → Prop) (root : Tree) : Prop where
  status : IsString root "status"
  data : Succeeded root → data root
  message : ¬ Succeeded root → IsString root "message"

/-- every field that the printer of a command reads is there, with its type -/
def Complete (command : Bytes) (root : Tree) : Prop :=
  if command = bytesOf "get_inventory" then ReportFields InventoryData root
  else if command = bytesOf "get_stock" then ReportFields StockData root
  else if command = bytesOf "get_history" then ReportFields HistoryData root
  else IsString root "status" ∧ IsString root "message" ∧
    (command = bytesOf "login" → Succeeded root → IsString root "client_id")

/-- an error, or the line that a history has instead of its entries -/
def IsError (line : Bytes) : Prop := bytesOf "Error" <+: line ∨ line = noHistory

/-- the printer comes back, with an error where the reply is not complete -/
def Reported (complete : Prop) (lines : Option (List Bytes)) : Prop :=
  lines ≠ none ∧ (¬ complete → ∃ printed, lines = some printed ∧ ∃ line ∈ printed, IsError line)

/-- the printer comes back, and a reply that is not complete is reported, with the result `false` and
the id as it was -/
structure Right (N : CLib) (clientId response command : Bytes) : Prop where
  safe : printReadableResponse N clientId response command ≠ none
  reported : (¬ ∃ root, cJSONParse N response = some root ∧
      Complete command root) →
    ∃ lines, printReadableResponse N clientId response command =
        some (lines, false, clientId) ∧ ∃ line ∈ lines, IsError line

/-- an id without a percent sign makes a harmless format -/
theorem formats_loginFormat (N : CLib) {valuestring : Text} (h : 37 ∉ valuestring) :
    N.formats (loginFormat valuestring) = true := by
  refine N.formats_plain _ fun hmem => ?_
  have htext : 37 ∉ bytesOf "Login successful. Client ID: " := by decide
  rcases List.mem_append.mp (List.mem_of_mem_take hmem) with hmem | hmem
  · exact htext hmem
  · exact h ((List.takeWhile_sublist _).mem hmem)

/-! ## lines -/

theorem not_isError {line : Bytes} (h : line.head? = some 32 ∨ line.head? = some 45) :
    ¬ IsError line := by
  rintro (⟨rest, rfl⟩ | rfl)
  · rcases h with h | h
    · cases h
    · cases h
  · rcases h with h | h
    · cases h
    · cases h

theorem isError_append (text : String) (line : Bytes) (h : bytesOf "Error" <+: bytesOf text) :
    IsError (bytesOf text ++ line) := .inl (h.trans (List.prefix_append _ _))

theorem isError_parseError : IsError parseError := .inl (by decide)

section Collect
variable {α β : Type} {f : α → Option β}

theorem collect_of_some {l : List α} (h : ∀ a ∈ l, f a ≠ none) : collect f l ≠ none := by
  induction l with
  | nil => exact Option.some_ne_none []
  | cons a l ih =>
    rw [List.forall_mem_cons] at h
    obtain ⟨b, hb⟩ := Option.ne_none_iff_exists'.mp h.1
    obtain ⟨bs, hbs⟩ := Option.ne_none_iff_exists'.mp (ih h.2)
    rw [collect, hb, hbs]
    exact Option.some_ne_none _

theorem exists_of_mem_collect {l : List α} {bs : List β} {b : β} (h : collect f l = some bs)
    (hb : b ∈ bs) : ∃ a ∈ l, f a = some b := by
  induction l generalizing bs with
  | nil =>
    cases h
    cases hb
  | cons a l ih =>
    obtain ⟨c, hc, h⟩ := Option.bind_eq_some_iff.mp h
    obtain ⟨cs, hcs, rfl⟩ := Option.map_eq_some_iff.mp h
    rcases List.mem_cons.mp hb with rfl | hb
    · exact ⟨a, List.mem_cons_self, hc⟩
    · obtain ⟨a', ha', hb⟩ := ih hcs hb
      exact ⟨a', List.mem_cons_of_mem _ ha', hb⟩

end Collect

/-! ## the bodies of the reports -/

theorem valuestring_getObjectItem (root : Tree) (name : String) :
    valuestring (getObjectItem root (bytesOf name)) = (stringItem root name).map cString := by
  unfold valuestring stringItem
  cases getObjectItem root (bytesOf name) with
  | none => rfl
  | some item => cases item <;> rfl

theorem getObjectItem_of_stringItem {root : Tree} {name : String} {s : Text}
    (h : stringItem root name = some s) : getObjectItem root (bytesOf name) = some (.str s) := by
  unfold stringItem at h
  split at h
  · rename_i s' hitem
    cases h
    exact hitem
  · cases h

section Bodies
variable (N : CLib)

theorem itemLine_quiet {item : Option Text × Tree} {line : Bytes}
    (h : itemLine N item = some line) : ¬ IsError line := by
  obtain ⟨name, -, rfl⟩ := Option.map_eq_some_iff.mp h
  exact not_isError (.inl rfl)

theorem categoryLines_quiet {category : Option Text × Tree} {lines : List Bytes}
    (h : categoryLines N category = some lines) : ∀ line ∈ lines, ¬ IsError line := by
  obtain ⟨name, -, h⟩ := Option.bind_eq_some_iff.mp h
  obtain ⟨items, hitems, rfl⟩ := Option.map_eq_some_iff.mp h
  rw [List.forall_mem_cons]
  refine ⟨not_isError (.inl rfl), fun line hline => ?_⟩
  obtain ⟨item, -, hitem⟩ := exists_of_mem_collect hitems hline
  exact itemLine_quiet N hitem

theorem inventoryLines_quiet {root : Tree} {lines : List Bytes}
    (h : inventoryLines N root = some lines) : ∀ line ∈ lines, ¬ IsError line := by
  unfold inventoryLines at h
  cases hdata : getObjectItem root (bytesOf "data") with
  | none =>
    rw [hdata] at h
    cases h
    rw [List.forall_mem_cons, List.forall_mem_singleton]
    exact ⟨not_isError (.inr rfl), not_isError (.inr rfl)⟩
  | some data =>
    rw [hdata] at h
    obtain ⟨categories, hcategories, rfl⟩ := Option.map_eq_some_iff.mp h
    rw [List.forall_mem_cons, List.forall_mem_append, List.forall_mem_singleton]
    refine ⟨not_isError (.inr rfl), fun line hline => ?_, not_isError (.inr rfl)⟩
    obtain ⟨lines, hlines, hline⟩ := List.mem_flatten.mp hline
    obtain ⟨category, -, hcategory⟩ := exists_of_mem_collect hcategories hlines
    exact categoryLines_quiet N hcategory line hline

theorem inventoryLines_safe {root : Tree} (h : InventoryData root) :
    inventoryLines N root ≠ none := by
  obtain ⟨fields, hdata, hfields⟩ := h
  -- the items of an object have names
  have hitems : ∀ items : List (Text × Tree),
      collect (itemLine N) (children (.obj items)) ≠ none := by
    refine fun items => collect_of_some fun item hitem => ?_
    obtain ⟨f, -, rfl⟩ := List.mem_map.mp hitem
    exact Option.some_ne_none _
  unfold inventoryLines
  rw [hdata]
  simp only
  rw [Ne, Option.map_eq_none_iff]
  refine collect_of_some fun category hcategory => ?_
  obtain ⟨f, hf, rfl⟩ := List.mem_map.mp hcategory
  obtain ⟨items, he⟩ := hfields f hf
  unfold categoryLines
  rw [Option.bind_some, Ne, Option.map_eq_none_iff, he]
  exact hitems items

theorem stockLines_quiet {root : Tree} {lines : List Bytes}
    (h : stockLines N root = some lines) : ∀ line ∈ lines, ¬ IsError line := by
  unfold stockLines at h
  cases hdata : getObjectItem root (bytesOf "data") with
  | none =>
    rw [hdata] at h
    cases h
    rw [List.forall_mem_cons, List.forall_mem_singleton]
    exact ⟨not_isError (.inr rfl), not_isError (.inr rfl)⟩
  | some data =>
    rw [hdata] at h
    obtain ⟨items, hitems, rfl⟩ := Option.map_eq_some_iff.mp h
    rw [List.forall_mem_cons, List.forall_mem_append, List.forall_mem_singleton]
    refine ⟨not_isError (.inr rfl), ?_, not_isError (.inr rfl)⟩
    unfold stockItemLines at hitems
    split at hitems
    · obtain ⟨item, -, hitems⟩ := Option.bind_eq_some_iff.mp hitems
      obtain ⟨category, -, rfl⟩ := Option.map_eq_some_iff.mp hitems
      rw [List.forall_mem_cons, List.forall_mem_cons, List.forall_mem_singleton]
      exact ⟨not_isError (.inl rfl), not_isError (.inl rfl), not_isError (.inl rfl)⟩
    · cases hitems
      exact nofun

theorem stockLines_safe {root : Tree} (h : StockData root) : stockLines N root ≠ none := by
  obtain ⟨data, hdata, ⟨category, hcategory⟩, ⟨item, hitem⟩, hquantity⟩ := h
  obtain ⟨quantity, hquantity⟩ := Option.ne_none_iff_exists'.mp hquantity
  unfold stockLines stockItemLines
  rw [hdata]
  simp only
  rw [getObjectItem_of_stringItem hcategory, getObjectItem_of_stringItem hitem, hquantity]
  exact Option.some_ne_none _

end Bodies

theorem historyLines_safe {root : Tree} (h : HistoryData root) : historyLines root ≠ none := by
  obtain ⟨entries, hdata, hentries⟩ := h
  unfold historyLines
  rw [hdata]
  cases entries with
  | nil => exact Option.some_ne_none _
  | cons entry entries =>
    simp only
    rw [Ne, Option.map_eq_none_iff]
    refine collect_of_some fun e he => ?_
    obtain ⟨⟨timestamp, htimestamp⟩, ⟨message, hmessage⟩⟩ := hentries e he
    unfold entryLines
    rw [getObjectItem_of_stringItem htimestamp, getObjectItem_of_stringItem hmessage]
    exact Option.some_ne_none _

theorem historyLines_quiet {root : Tree} (hincomplete : ¬ HistoryData root)
    (harray : ∃ entries, getObjectItem root (bytesOf "data") = some (.arr entries))
    {lines : List Bytes} (h : historyLines root = some lines) : ∀ line ∈ lines, ¬ IsError line := by
  obtain ⟨entries, hdata⟩ := harray
  unfold historyLines at h
  rw [hdata] at h
  cases entries with
  | nil => exact absurd ⟨[], hdata, nofun⟩ hincomplete
  | cons entry entries =>
    obtain ⟨printed, hprinted, rfl⟩ := Option.map_eq_some_iff.mp h
    rw [List.forall_mem_cons]
    refine ⟨not_isError (.inr rfl), fun line hline => ?_⟩
    obtain ⟨lines, hlines, hline⟩ := List.mem_flatten.mp hline
    obtain ⟨e, -, he⟩ := exists_of_mem_collect hprinted hlines
    unfold entryLines at he
    split at he
    · obtain ⟨timestamp, -, he⟩ := Option.bind_eq_some_iff.mp he
      obtain ⟨message, -, rfl⟩ := Option.map_eq_some_iff.mp he
      rw [List.mem_singleton.mp hline]
      exact not_isError (.inl rfl)
    · cases he
      cases hline

theorem historyLines_noHistory {root : Tree}
    (h : ∀ entries, getObjectItem root (bytesOf "data") ≠ some (.arr entries)) :
    historyLines root = some [noHistory] := by
  unfold historyLines
  split
  · rename_i entry entries hdata
    exact absurd hdata (h _)
  · rfl

/-! ## the replies -/

section Replies
variable {N : CLib} {response : Bytes} {root : Tree}

/-- a report whose body is right where its data is there, and reports what it calls absent -/
theorem reported_printReport {body : Tree → Option (List Bytes)} {data : Tree → Prop}
    {absent : Prop} (hparse : cJSONParse N response = some root)
    (hsafe : data root → body root ≠ none)
    (habsent : absent → ∃ lines, body root = some lines ∧ ∃ line ∈ lines, IsError line)
    (hquiet : ¬ data root → ¬ absent → ∀ lines, body root = some lines →
      ∀ line ∈ lines, ¬ IsError line) :
    Reported (ReportFields data root) (printReport N body response) ↔
      ReportFields data root ∨ (Succeeded root ∧ absent) := by
  unfold printReport
  rw [hparse]
  simp only
  rw [valuestring_getObjectItem]
  cases hstatus : stringItem root "status" with
  | none =>
    refine iff_of_false (fun h => h.1 rfl) ?_
    rintro (⟨⟨s, hs⟩, -, -⟩ | ⟨⟨s, hs, -⟩, -⟩)
    · rw [hstatus] at hs
      cases hs
    · rw [hstatus] at hs
      cases hs
  | some s =>
    simp only [Option.map_some]
    by_cases hsuccess : cString s = bytesOf "success"
    · have hsucceeded : Succeeded root := ⟨s, hstatus, decide_eq_true hsuccess⟩
      have hfields : ReportFields data root ↔ data root := by
        refine ⟨fun h => h.data hsucceeded, fun h => ⟨⟨s, hstatus⟩, fun _ => h, fun hno => ?_⟩⟩
        exact absurd hsucceeded hno
      rw [if_pos hsuccess, hfields]
      constructor
      · rintro ⟨hne, hreported⟩
        by_contra hnot
        obtain ⟨hdata, habs⟩ := not_or.mp hnot
        obtain ⟨lines, hlines, line, hline, herror⟩ := hreported hdata
        exact hquiet hdata (fun h => habs ⟨hsucceeded, h⟩) lines hlines line hline herror
      · rintro (hdata | ⟨-, habs⟩)
        · exact ⟨hsafe hdata, fun hno => absurd hdata hno⟩
        · obtain ⟨lines, hlines, herror⟩ := habsent habs
          exact ⟨by rw [hlines]; exact Option.some_ne_none lines, fun _ => ⟨lines, hlines, herror⟩⟩
    · have hfailed : ¬ Succeeded root := by
        rintro ⟨s', hs', hsuccess'⟩
        rw [hstatus] at hs'
        cases hs'
        exact hsuccess (of_decide_eq_true hsuccess')
      rw [if_neg hsuccess]
      unfold errorFromServer
      cases hmessage : stringItem root "message" with
      | none =>
        refine iff_of_false (fun h => ?_) ?_
        · obtain ⟨lines, hlines, line, hline, -⟩ := h.2 fun hfields => by
            obtain ⟨m, hm⟩ := hfields.message hfailed
            rw [hmessage] at hm
            cases hm
          cases hlines
          cases hline
        · rintro (hfields | h)
          · obtain ⟨m, hm⟩ := hfields.message hfailed
            rw [hmessage] at hm
            cases hm
          · exact hfailed h.1
      | some m =>
        refine iff_of_true ⟨Option.some_ne_none _, fun _ => ⟨_, rfl, _, List.mem_cons_self, ?_⟩⟩
          (.inl ⟨⟨s, hstatus⟩, fun h => absurd h hfailed, fun _ => ⟨m, hmessage⟩⟩)
        exact isError_append "Error from server: " _ (by decide)

theorem reported_parseError {body : Tree → Option (List Bytes)} (complete : Prop)
    (hparse : cJSONParse N response = none) :
    Reported complete (printReport N body response) := by
  unfold printReport
  rw [hparse]
  exact ⟨Option.some_ne_none _, fun _ => ⟨_, rfl, _, List.mem_singleton_self _, isError_parseError⟩⟩

end Replies

/-- a history without an array -/
def NoArray (command : Bytes) (root : Tree) : Prop :=
  command = bytesOf "get_history" ∧
    ∀ entries, getObjectItem root (bytesOf "data") ≠ some (.arr entries)

/-- not a complete reply to a login with an id that the log cannot be given -/
def Loggable (N : CLib) (root : Tree) : Prop :=
  Complete (bytesOf "login") root → Succeeded root →
    ∀ id, stringItem root "client_id" = some id → N.formats (loginFormat id) = true

/-- the reply cannot be parsed, is complete, is a history without an array, or answers a login with
no id that the log cannot be given -/
def Guarded (N : CLib) (response command : Bytes) : Prop :=
  ∀ root, cJSONParse N response = some root →
    if command = bytesOf "login" then Loggable N root
    else Complete command root ∨ (Succeeded root ∧ NoArray command root)

section Commands
variable {N : CLib} {clientId response command : Bytes} {root : Tree}

theorem guarded_of_parseError (h : cJSONParse N response = none) : Guarded N response command := by
  intro root hroot
  rw [h] at hroot
  cases hroot

theorem guarded_iff (hparse : cJSONParse N response = some root) : Guarded N response command ↔
    if command = bytesOf "login" then Loggable N root
    else Complete command root ∨ (Succeeded root ∧ NoArray command root) := by
  unfold Guarded
  rw [hparse]
  exact ⟨fun h => h root rfl, fun h _ hroot => Option.some.inj hroot ▸ h⟩

theorem right_iff_reported {lines : Option (List Bytes)}
    (h : printReadableResponse N clientId response command =
      lines.map fun printed => (printed, false, clientId)) :
    Right N clientId response command ↔
      Reported (∃ root, cJSONParse N response = some root ∧
        Complete command root) lines := by
  constructor
  · rintro ⟨hsafe, hreported⟩
    rw [h] at hsafe hreported
    refine ⟨fun hnone => hsafe (by rw [hnone]; rfl), fun hincomplete => ?_⟩
    obtain ⟨printed, hprinted, herror⟩ := hreported hincomplete
    obtain ⟨printed', hlines, he⟩ := Option.map_eq_some_iff.mp hprinted
    cases he
    exact ⟨printed, hlines, herror⟩
  · rintro ⟨hsafe, hreported⟩
    refine ⟨by rw [h, Ne, Option.map_eq_none_iff]; exact hsafe, fun hincomplete => ?_⟩
    obtain ⟨printed, hlines, herror⟩ := hreported hincomplete
    exact ⟨printed, by rw [h, hlines]; rfl, herror⟩

theorem parsed_iff (hparse : cJSONParse N response = some root) (P : Tree → Prop) :
    (∃ root, cJSONParse N response = some root ∧ P root) ↔ P root := by
  constructor
  · rintro ⟨root', h, hP⟩
    rw [hparse] at h
    cases h
    exact hP
  · exact fun hP => ⟨root, hparse, hP⟩

variable (N clientId response) in
/-- the ways of the printer of a login -/
theorem handleLoginResponse_cases :
    (∃ lines, handleLoginResponse N clientId response = some (lines, false, clientId) ∧
        (∃ line ∈ lines, IsError line) ∧
        ∀ root, cJSONParse N response = some root → Complete (bytesOf "login") root →
          ¬ Succeeded root) ∨
      ∃ root id, cJSONParse N response = some root ∧ Complete (bytesOf "login") root ∧
        Succeeded root ∧ stringItem root "client_id" = some id ∧
        ((handleLoginResponse N clientId response).isSome ↔ N.formats (loginFormat id) = true) := by
  unfold handleLoginResponse
  cases hparse : cJSONParse N response with
  | none =>
    exact .inl ⟨_, rfl, ⟨_, List.mem_singleton_self _, isError_parseError⟩, nofun⟩
  | some root =>
    simp only [Option.some.injEq, forall_eq', exists_and_left, exists_eq_left']
    cases hstatus : stringItem root "status" with
    | none =>
      refine .inl ⟨_, rfl, ⟨_, List.mem_singleton_self _, .inl (by decide)⟩, ?_⟩
      rintro - ⟨s, hs, -⟩
      rw [hstatus] at hs
      cases hs
    | some status =>
      cases hmessage : stringItem root "message" with
      | none =>
        refine .inl ⟨_, rfl, ⟨_, List.mem_singleton_self _, .inl (by decide)⟩, ?_⟩
        rintro ⟨-, ⟨m, hm⟩, -⟩
        rw [hmessage] at hm
        cases hm
      | some message =>
        simp only
        cases hsuccess : strEq status "success" with
        | false =>
          refine .inl ⟨_, rfl, ⟨_, List.mem_singleton_self _, ?_⟩, ?_⟩
          · exact isError_append "Error from server: " _ (by decide)
          · rintro - ⟨s, hs, hsuccess'⟩
            rw [hstatus] at hs
            cases hs
            rw [hsuccess] at hsuccess'
            cases hsuccess'
        | true =>
          have hsucceeded : Succeeded root := ⟨status, hstatus, hsuccess⟩
          cases hid : stringItem root "client_id" with
          | none =>
            refine .inl ⟨_, rfl, ⟨_, List.mem_singleton_self _, .inl (by decide)⟩, ?_⟩
            rintro ⟨-, -, hc⟩ -
            obtain ⟨id, hid'⟩ := hc rfl hsucceeded
            rw [hid] at hid'
            cases hid'
          | some id =>
            refine .inr ⟨⟨⟨status, hstatus⟩, ⟨message, hmessage⟩, fun _ _ => ⟨id, hid⟩⟩,
              hsucceeded, id, rfl, ?_⟩
            simp only [if_true]
            split_ifs with hformats
            · exact iff_of_true rfl hformats
            · exact iff_of_false Bool.false_ne_true hformats

theorem login_right_iff :
    Right N clientId response (bytesOf "login") ↔ Guarded N response (bytesOf "login") := by
  have hprint := print_login N clientId response
  rcases handleLoginResponse_cases N clientId response with
    ⟨lines, hlines, herror, hno⟩ | ⟨root, id, hparse, hcomplete, hsucceeded, hid, hsome⟩
  · refine iff_of_true ⟨?_, fun _ => ⟨lines, hprint.trans hlines, herror⟩⟩ fun root hparse => ?_
    · rw [hprint, hlines]
      exact Option.some_ne_none _
    · rw [if_pos rfl]
      exact fun hcomplete hsucceeded => absurd hsucceeded (hno root hparse hcomplete)
  · rw [guarded_iff hparse, if_pos rfl]
    constructor
    · rintro ⟨hsafe, -⟩ - - id' hid'
      rw [hid] at hid'
      cases hid'
      rw [hprint] at hsafe
      exact hsome.mp (Option.isSome_iff_ne_none.mpr hsafe)
    · intro hloggable
      refine ⟨?_, fun hno => absurd ⟨root, hparse, hcomplete⟩ hno⟩
      rw [hprint]
      exact Option.isSome_iff_ne_none.mp (hsome.mpr (hloggable hcomplete hsucceeded id hid))

theorem statusLines_quiet (hparse : cJSONParse N response = some root) :
    ∀ line ∈ statusLines N response, ¬ IsError line := by
  unfold statusLines
  rw [hparse]
  intro line hline
  rcases List.mem_append.mp hline with hline | hline
  · obtain ⟨s, -, rfl⟩ := Option.map_eq_some_iff.mp (Option.mem_toList.mp hline)
    exact not_isError (.inr rfl)
  · obtain ⟨s, -, rfl⟩ := Option.map_eq_some_iff.mp (Option.mem_toList.mp hline)
    exact not_isError (.inr rfl)

/-- a report is printed right exactly if it cannot be parsed, is complete, or has no array where one
is reported as absent -/
theorem report_right_iff (body : Tree → Option (List Bytes)) (data : Tree → Prop)
    (h : printReadableResponse N clientId response command =
      (printReport N body response).map fun printed => (printed, false, clientId))
    (hcomplete : ∀ root, Complete command root ↔ ReportFields data root)
    (hsafe : ∀ root, data root → body root ≠ none)
    (habsent : ∀ root, NoArray command root →
      ∃ lines, body root = some lines ∧ ∃ line ∈ lines, IsError line)
    (hquiet : ∀ root, ¬ data root → ¬ NoArray command root → ∀ lines, body root = some lines →
      ∀ line ∈ lines, ¬ IsError line) (hlogin : command ≠ bytesOf "login") :
    Right N clientId response command ↔ Guarded N response command := by
  rw [right_iff_reported h]
  cases hparse : cJSONParse N response with
  | none => exact iff_of_true (reported_parseError _ hparse) (guarded_of_parseError hparse)
  | some root =>
    rw [← hparse, parsed_iff hparse, guarded_iff hparse, if_neg hlogin, hcomplete root,
      reported_printReport hparse (hsafe root) (habsent root) (hquiet root)]

theorem inventory_right_iff :
    Right N clientId response (bytesOf "get_inventory") ↔
      Guarded N response (bytesOf "get_inventory") := by
  refine report_right_iff (inventoryLines N) InventoryData rfl (fun _ => Iff.rfl)
    (fun _ => inventoryLines_safe N) (fun _ habsent => ?_)
    (fun _ _ _ _ => inventoryLines_quiet N) (by decide)
  exact absurd habsent.1 (by decide)

theorem stock_right_iff :
    Right N clientId response (bytesOf "get_stock") ↔
      Guarded N response (bytesOf "get_stock") := by
  refine report_right_iff (stockLines N) StockData rfl (fun _ => Iff.rfl)
    (fun _ => stockLines_safe N) (fun _ habsent => ?_)
    (fun _ _ _ _ => stockLines_quiet N) (by decide)
  exact absurd habsent.1 (by decide)

theorem history_right_iff :
    Right N clientId response (bytesOf "get_history") ↔
      Guarded N response (bytesOf "get_history") := by
  refine report_right_iff historyLines HistoryData rfl (fun _ => Iff.rfl)
    (fun _ => historyLines_safe) (fun root habsent => ?_) (fun root hdata habsent lines => ?_)
    (by decide)
  · exact ⟨_, historyLines_noHistory habsent.2, _, List.mem_singleton_self _, .inr rfl⟩
  · refine historyLines_quiet hdata ?_
    by_contra hno
    exact habsent ⟨rfl, fun entries he => hno ⟨entries, he⟩⟩

theorem status_right_iff
    (h : printReadableResponse N clientId response command =
      (some (statusLines N response)).map fun printed => (printed, false, clientId))
    (hhistory : command ≠ bytesOf "get_history") (hlogin : command ≠ bytesOf "login") :
    Right N clientId response command ↔ Guarded N response command := by
  rw [right_iff_reported h]
  cases hparse : cJSONParse N response with
  | none =>
    have hlines : statusLines N response = [parseError] := by
      unfold statusLines
      rw [hparse]
    refine iff_of_true ⟨Option.some_ne_none _, fun _ => ⟨_, rfl, parseError, ?_, ?_⟩⟩
      (guarded_of_parseError hparse)
    · rw [hlines]
      exact List.mem_singleton_self _
    · exact isError_parseError
  | some root =>
    rw [← hparse, parsed_iff hparse, guarded_iff hparse, if_neg hlogin]
    constructor
    · rintro ⟨-, hreported⟩
      left
      by_contra hincomplete
      obtain ⟨lines, hlines, line, hline, herror⟩ := hreported hincomplete
      cases hlines
      exact statusLines_quiet hparse line hline herror
    · rintro (hcomplete | ⟨-, habsent⟩)
      · exact ⟨Option.some_ne_none _, fun hno => absurd hcomplete hno⟩
      · exact absurd habsent.1 hhistory

theorem right_iff_guarded :
    Right N clientId response command ↔ Guarded N response command := by
  by_cases hinventory : command = bytesOf "get_inventory"
  · rw [hinventory]
    exact inventory_right_iff
  by_cases hstock : command = bytesOf "get_stock"
  · rw [hstock]
    exact stock_right_iff
  by_cases hhistory : command = bytesOf "get_history"
  · rw [hhistory]
    exact history_right_iff
  by_cases hlogin : command = bytesOf "login"
  · rw [hlogin]
    exact login_right_iff
  refine status_right_iff ?_ hhistory hlogin
  unfold printReadableResponse
  rw [if_neg hinventory, if_neg hstock, if_neg hhistory, if_neg hlogin]
  rfl

/-- a complete reply is printed, unless it answers a login with an id that the log cannot be given -/
theorem printed_iff (hparse : cJSONParse N response = some root) (hcomplete : Complete command root) :
    printReadableResponse N clientId response command ≠ none ↔
      (command = bytesOf "login" → Loggable N root) := by
  have hright : printReadableResponse N clientId response command ≠ none ↔
      Right N clientId response command :=
    ⟨fun h => ⟨h, fun hno => absurd ⟨root, hparse, hcomplete⟩ hno⟩, Right.safe⟩
  rw [hright, right_iff_guarded, guarded_iff hparse]
  split_ifs with hlogin
  · exact ⟨fun h _ => h, fun h => h hlogin⟩
  · exact iff_of_true (.inl hcomplete) fun h => absurd h hlogin

variable (N clientId response command) in
/-- **The printer comes back, and reports a reply that is not complete, exactly if the reply cannot
be parsed, is complete, is a history without an array, or answers a login with no id that the log
cannot be given.** -/
theorem response_safe_iff :
    Right N clientId response command ↔ ∀ root, cJSONParse N response = some root →
      if command = bytesOf "login" then Loggable N root
      else Complete command root ∨ (Succeeded root ∧ NoArray command root) :=
  right_iff_guarded

end Commands

/-- the reply `5` to `get_stock` is read through a null pointer, and `{}` to `status` is printed as
nothing -/
theorem bare_number_crashes :
    printReadableResponse .sample [] (bytesOf "5") (bytesOf "get_stock") =
      none ∧
    printReadableResponse .sample [] (bytesOf "\x7b\x7d") (bytesOf "status") =
      some ([], false, []) := by
  refine ⟨by decide, by decide⟩

end Client
end Logistics
