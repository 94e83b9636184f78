import Logistics.Base.JsonFields
import Logistics.Session.Datagrams
import Logistics.Client.Queue

/-!
# What the dashboard prints

The dashboard is a script of its own.  It prints a header with the id of the client, takes a message
from the queue, which `mq_send` put there with the NUL at its end, reads it with `json.loads` and
prints a panel.  A text that is no JSON is reported; an id that rich cannot read as markup, bytes that
are no UTF-8, and JSON that has no place for a category and a message, end the script with a
traceback.

`json.loads` reads the grammar of nlohmann::json, but no byte order mark; the `NaN`, `Infinity` and
lone surrogates that it also takes are left out.

* `Dashboard.Display`                     what the script uses of `str.lower` and of rich;
* `Dashboard.receive`, `Dashboard.main`   one message, and the script;
* `AcceptedAlert.panel`                   an alert that the server accepts, on the dashboard;
* `datagrams_on_dashboard`                **every datagram is shown as what it is**.
-/

namespace Logistics
open JsonText Runs

/-! ## the script -/

namespace Dashboard

/-- the control codes that rich takes out of a text: bell, backspace, vertical tab, form feed and
carriage return -/
def STRIP_CONTROL_CODES : List UInt8 := [7, 8, 11, 12, 13]

/-- what the script uses of Python and of rich: `str.lower`, what `Text.append` keeps of a text, and
whether the header with an id is markup that rich accepts -/
structure Display where
  lower : Bytes → Bytes
  small : ∀ text, (∀ b ∈ text, 97 ≤ b ∧ b ≤ 122) → lower text = text
  append : Bytes → Bytes
  plain : ∀ text, (∀ b ∈ text, b ∉ STRIP_CONTROL_CODES) → append text = text
  renders : String → Bool
  unmarked : ∀ clientId : String, '[' ∉ clientId.toList → renders clientId = true

inductive Shown where
  | header (clientId : String)
  | waiting
  | noQueue
  | panel (label color : String) (message : Bytes)
  | invalid
  | crash
  deriving DecidableEq

/-- `msg_json.get(name, "")`: of several fields with one name the last one counts -/
def get (name : String) : Tree → Option Tree
  | .obj fields =>
    some (((fields.reverse.find? fun f => f.1 = bytesOf name).map Prod.snd).getD (.str []))
  | _ => none

/-- `msg_json.get("category", "").lower()` -/
def lowerCategory (W : Display) (msgJson : Tree) : Option Bytes :=
  match get "category" msgJson with
  | some (.str category) => some (W.lower category)
  | _ => none

def formatAndPrint (W : Display) (msgJson : Tree) : Shown :=
  match lowerCategory W msgJson, get "message" msgJson with
  | some category, some (.str message) =>
    if category = bytesOf "keepalive" then .panel "KEEPALIVE ✅" "green" (W.append message)
    else if category = bytesOf "alert" then .panel "ALERT ⚠️" "yellow" (W.append message)
    else if category = bytesOf "exit" then .panel "EXIT 🚪" "magenta" (W.append message)
    else .panel "UNKNOWN ❓" "white" (W.append message)
  | _, _ => .crash

/-- `json.loads(message.decode().rstrip('\x00'))` where the bytes are UTF-8 -/
def loads (message : Bytes) : Option Tree :=
  let text := message.rdropWhile (· = 0)
  if dropBom text ≠ text then none
  else (document nlohmann text).bind fun p => if nlohmann.skip p.2 = [] then some p.1 else none

/-- one turn of the loop -/
def receive (W : Display) (message : Bytes) : Shown :=
  if (decode message).isNone then .crash
  else
    match loads message with
    | none => .invalid
    | some msgJson => formatAndPrint W msgJson

/-- the loop ends with this message -/
def Ends (W : Display) (message : Bytes) : Prop :=
  receive W message = .crash ∨ (loads message).bind (lowerCategory W) = some (bytesOf "exit")

instance (W : Display) (message : Bytes) : Decidable (Ends W message) :=
  inferInstanceAs (Decidable (_ ∨ _))

/-- the loop of `main`, over the messages that it receives -/
def loop (W : Display) : List Bytes → List Shown
  | [] => []
  | message :: rest => receive W message :: if Ends W message then [] else loop W rest

/-- what `main` prints: the messages are those of the queue, if that can be opened -/
def main (W : Display) (clientId : String) (queue : Option (List Bytes)) : List Shown :=
  if W.renders clientId then
    .header clientId :: match queue with
    | some messages => .waiting :: loop W messages
    | none => [.noQueue]
  else [.crash]

theorem not_ends {W : Display} {message text category : Bytes} {label color : String}
    (hpanel : receive W message = .panel label color text)
    (hcategory : (loads message).bind (lowerCategory W) = some category)
    (h : category ≠ bytesOf "exit") : ¬ Ends W message := by
  rintro (hcrash | hexit)
  · rw [hpanel] at hcrash
    cases hcrash
  · rw [hcategory] at hexit
    exact h (Option.some.inj hexit)

/-- the loop goes on as long as no message ends it -/
theorem loop_eq_map {W : Display} {messages : List Bytes} (h : ∀ m ∈ messages, ¬ Ends W m) :
    loop W messages = messages.map (receive W) := by
  induction messages with
  | nil => rfl
  | cons m messages ih =>
    obtain ⟨hm, hrest⟩ := List.forall_mem_cons.mp h
    rw [loop, if_neg hm, ih hrest, List.map_cons]

theorem main_of_unmarked (W : Display) {clientId : String} (h : '[' ∉ clientId.toList)
    (messages : List Bytes) :
    main W clientId (some messages) = .header clientId :: .waiting :: loop W messages :=
  if_pos (W.unmarked clientId h)

end Dashboard

/-! ## a text of the server -/

/-- what the listener puts into the queue for a text without control characters that fits -/
theorem Client.queued_of_fits (N : CLib) {datagram : Bytes} (hprintable : ∀ b ∈ datagram, 32 ≤ b)
    (hfits : datagram.length ≤ 255) : queued N datagram =
      if priorityCheck N datagram < 0 then none else some (datagram, priorityCheck N datagram) := by
  have hcut : cString (datagram.take (BUFFER_SIZE_UDP - 1)) = datagram := by
    have htake : datagram.take (BUFFER_SIZE_UDP - 1) = datagram := List.take_of_length_le hfits
    rw [htake]
    refine (cString_eq_self_iff _).mpr fun hzero => ?_
    exact absurd (hprintable 0 hzero) (by decide)
  have hshort : ¬ MAX_MSG_SIZE ≤ datagram.length := by
    show ¬ 256 ≤ datagram.length
    omega
  unfold queued
  rw [hcut]
  simp only [hshort, false_or]


section Texts
variable (F : Doubles)

theorem loads_dump {fields : List (String × Json)} (hv : (Json.obj fields).Ranged) :
    Dashboard.loads (bytesOf ((Json.obj fields).dump F) ++ [0]) = some ((Json.obj fields).shown F) := by
  have hprint : bytesOf ((Json.obj fields).dump F) = ((Json.obj fields).shown F).print := by
    unfold Json.dump
    exact bytesOf_render _
  have hnumbers : ∀ l ∈ ((Json.obj fields).shown F).numbers, nlohmann.Reads l :=
    fun l hl => nlohmann_reads (hv.short F l hl)
  -- the text ends in a printable byte
  have hstrip : (bytesOf ((Json.obj fields).dump F) ++ [0]).rdropWhile (· = 0) =
      bytesOf ((Json.obj fields).dump F) := by
    rw [List.rdropWhile_concat, if_pos (decide_eq_true rfl), List.rdropWhile_eq_self_iff]
    intro hne hzero
    have hlast := Client.dump_printable F hv _ (List.getLast_mem hne)
    rw [of_decide_eq_true hzero] at hlast
    exact absurd hlast (by decide)
  unfold Dashboard.loads
  rw [hstrip, hprint]
  dsimp only
  rw [dropBom_print hnumbers, if_neg (fun h => h rfl), document_print nlohmann_plain hnumbers]
  rfl

theorem decode_dump (v : Json) : decode (bytesOf (v.dump F) ++ [0]) ≠ none := by
  have hzero : bytesOf (v.dump F) ++ [0] = bytesOf (v.dump F ++ "\x00") := by
    rw [bytesOf_append]
    rfl
  rw [hzero, decode_bytesOf]
  exact Option.some_ne_none _

theorem get_shown {fields : List (String × Json)} (sorted : (fields.map Prod.fst).Pairwise (· < ·))
    {name : String} {v : Json} (h : fields.lookup name = some v) :
    Dashboard.get name ((Json.obj fields).shown F) = some (v.shown F) := by
  rw [shown_obj]
  unfold Dashboard.get
  dsimp only
  set shown := fields.map fun f => (bytesOf f.1, f.2.shown F) with hshown
  have hunique : ∀ f ∈ shown, f.1 = bytesOf name → f = (bytesOf name, v.shown F) := by
    intro f hf hname
    obtain ⟨⟨k, w⟩, hmem, rfl⟩ := List.mem_map.mp hf
    obtain rfl : k = name := bytesOf_injective hname
    have hw := lookup_eq_of_mem sorted hmem
    rw [h] at hw
    cases hw
    rfl
  have hmem : (bytesOf name, v.shown F) ∈ shown := by
    obtain ⟨before, after, rfl, -⟩ := List.lookup_eq_some_iff.mp h
    exact List.mem_map.mpr ⟨(name, v), List.mem_append_right _ (List.mem_cons_self ..), rfl⟩
  cases hfind : shown.reverse.find? fun f => f.1 = bytesOf name with
  | none =>
    exact absurd (decide_eq_true rfl) (List.find?_eq_none.mp hfind _ (List.mem_reverse.mpr hmem))
  | some f =>
    have hname := List.find?_some hfind
    rw [hunique f (List.mem_reverse.mp (List.mem_of_find?_eq_some hfind)) (of_decide_eq_true hname)]
    rfl

/-- a text with a string for each of the two fields, and no name twice -/
theorem receive_dump (W : Dashboard.Display) {fields : List (String × Json)}
    (hv : (Json.obj fields).Ranged) (sorted : (fields.map Prod.fst).Pairwise (· < ·))
    {category message : String} (hcategory : fields.lookup "category" = some (.str category))
    (hmessage : fields.lookup "message" = some (.str message)) :
    Dashboard.receive W (bytesOf ((Json.obj fields).dump F) ++ [0]) =
        (if W.lower (bytesOf category) = bytesOf "keepalive" then
          .panel "KEEPALIVE ✅" "green" (W.append (bytesOf message))
        else if W.lower (bytesOf category) = bytesOf "alert" then
          .panel "ALERT ⚠️" "yellow" (W.append (bytesOf message))
        else if W.lower (bytesOf category) = bytesOf "exit" then
          .panel "EXIT 🚪" "magenta" (W.append (bytesOf message))
        else .panel "UNKNOWN ❓" "white" (W.append (bytesOf message))) ∧
      (Dashboard.loads (bytesOf ((Json.obj fields).dump F) ++ [0])).bind (Dashboard.lowerCategory W) =
        some (W.lower (bytesOf category)) := by
  have hlower : Dashboard.lowerCategory W ((Json.obj fields).shown F) =
      some (W.lower (bytesOf category)) := by
    unfold Dashboard.lowerCategory
    rw [get_shown F sorted hcategory]
    rfl
  have hget : Dashboard.get "message" ((Json.obj fields).shown F) = some (.str (bytesOf message)) :=
    get_shown F sorted hmessage
  have hdecoded : ¬ (decode (bytesOf ((Json.obj fields).dump F) ++ [0])).isNone = true := by
    rw [Option.isNone_iff_eq_none]
    exact decode_dump F _
  unfold Dashboard.receive Dashboard.formatAndPrint
  rw [if_neg hdecoded, loads_dump F hv, Option.bind_some]
  dsimp only
  rw [hlower, hget]
  exact ⟨rfl, rfl⟩

end Texts

/-- the categories are written in small letters -/
theorem lower_category (W : Dashboard.Display) :
    W.lower (bytesOf "keepalive") = bytesOf "keepalive" ∧
      W.lower (bytesOf "alert") = bytesOf "alert" :=
  ⟨W.small _ (by decide +kernel), W.small _ (by decide +kernel)⟩

/-! ## alerts -/

namespace AcceptedAlert
variable {F : Doubles} {L : Libs} (a : AcceptedAlert (L.standard F))

theorem sorted : (a.fields.map Prod.fst).Pairwise (· < ·) := by
  obtain ⟨value, hparse, hdata⟩ := alertFields_ok a.fields_eq
  obtain ⟨fields, heq, hset⟩ := withCategory_ok hdata
  cases heq
  rcases hset with ⟨-, hfields⟩ | ⟨old, rfl, hfields⟩
  · rw [hfields]
    exact List.pairwise_singleton ..
  · rw [hfields]
    exact setKey_sorted (parse_parsed F hparse).sorted

theorem lookup_category : a.fields.lookup "category" = some (.str "alert") := by
  obtain ⟨value, -, hdata⟩ := alertFields_ok a.fields_eq
  obtain ⟨fields, heq, hset⟩ := withCategory_ok hdata
  cases heq
  rcases hset with ⟨-, hfields⟩ | ⟨old, -, hfields⟩
  · rw [hfields]
    rfl
  · rw [hfields]
    exact lookup_setKey_self _ _ _

theorem lookup_message : a.fields.lookup "message" = some (.str a.message) := by
  have h := a.fields_eq
  unfold alertFields at h
  cases hparse : (L.standard F).parse a.text with
  | none =>
    rw [hparse] at h
    cases h
  | some value =>
    rw [hparse] at h
    obtain ⟨data, -, h⟩ := except_bind_eq_ok h
    obtain ⟨t, -, h⟩ := except_bind_eq_ok h
    obtain ⟨m, hm, h⟩ := except_bind_eq_ok h
    cases h
    unfold Json.atString at hm
    cases hat : (Json.obj a.fields).atKey "message" with
    | error e =>
      rw [hat] at hm
      cases hm
    | ok v =>
      rw [hat] at hm
      have hfield : a.fields.lookup "message" = some v := Json.atKey_eq_ok_iff.mp hat
      cases v with
      | str s =>
        cases hm
        exact hfield
      | _ => cases hm

/-- **An alert that the server accepts is shown as an alert, with its message, and does not end the
dashboard.** -/
theorem panel (W : Dashboard.Display) :
    Dashboard.receive W (a.datagram ++ [0]) =
        .panel "ALERT ⚠️" "yellow" (W.append (bytesOf a.message)) ∧
      ¬ Dashboard.Ends W (a.datagram ++ [0]) := by
  obtain ⟨hpanel, hcategory⟩ := receive_dump F W a.ranged a.sorted a.lookup_category a.lookup_message
  rw [(lower_category W).2] at hpanel hcategory
  rw [if_neg (by decide), if_pos rfl] at hpanel
  exact ⟨hpanel, Dashboard.not_ends hpanel hcategory (by decide)⟩

end AcceptedAlert

/-- the text of an alert is the datagram of one that is accepted -/
theorem AlertText.accepted {L : Libs} {alert : Bytes} {text : String} (h : AlertText L alert text) :
    ∃ a : AcceptedAlert L, a.text = alert ∧ bytesOf text = a.datagram := by
  obtain ⟨alertData, type, message, client, hfields, hclient, rfl⟩ := h
  obtain ⟨value, -, hdata⟩ := alertFields_ok hfields
  obtain ⟨fields, rfl, -⟩ := withCategory_ok hdata
  exact ⟨⟨alert, fields, type, message, client, hfields, hclient⟩, rfl, rfl⟩

/-! ## the answer to a keepalive -/

def pongFields : List (String × Json) :=
  [("category", .str "keepalive"),
    ("message", .str "PONG: Server received keepalive from client and connection is active."),
    ("status", .str "success")]

theorem pongMessage_eq : pongMessage = .obj pongFields := rfl

theorem pongFields_ranged : (Json.obj pongFields).Ranged :=
  .obj (List.forall_mem_cons.mpr ⟨.str _, List.forall_mem_cons.mpr ⟨.str _,
    List.forall_mem_singleton.mpr (.str _)⟩⟩)

/-- a client queues it with the priority of keepalives -/
theorem queued_pong (F : Doubles) (N : Client.CLib) :
    Client.queued N (bytesOf (pongMessage.dump F)) = some (bytesOf (pongMessage.dump F), 1) := by
  rw [pongMessage_eq]
  have hlength : (bytesOf ((Json.obj pongFields).dump F)).length ≤ 255 := by
    unfold Json.dump pongFields
    simp only [bytesOf_render, Json.written, writtenFields, Json.tree, treeFields]
    decide +kernel
  have hpriority : Client.priorityCheck N (bytesOf ((Json.obj pongFields).dump F)) = 1 := by
    unfold Client.priorityCheck
    rw [Client.cJSONParse_dump_short F N pongFields_ranged (hlength.trans (by decide))]
    dsimp only
    have hfirst : Client.firstField "category" pongFields = some (.str "keepalive") := by rfl
    rw [Client.getObjectItem_written, hfirst]
    show (if Client.strEq (bytesOf "keepalive") "exit" = true then (3 : Int) else _) = 1
    decide
  rw [Client.queued_of_fits N (Client.dump_printable F pongFields_ranged) hlength, hpriority]
  exact if_neg (by decide)

theorem receive_pong (F : Doubles) (W : Dashboard.Display) :
    Dashboard.receive W (bytesOf (pongMessage.dump F) ++ [0]) = .panel "KEEPALIVE ✅" "green"
        (bytesOf "PONG: Server received keepalive from client and connection is active.") ∧
      ¬ Dashboard.Ends W (bytesOf (pongMessage.dump F) ++ [0]) := by
  rw [pongMessage_eq]
  obtain ⟨hpanel, hcategory⟩ := receive_dump F W pongFields_ranged (by decide) rfl rfl
  rw [(lower_category W).1] at hpanel hcategory
  rw [if_pos rfl, W.plain _ (by decide +kernel)] at hpanel
  exact ⟨hpanel, Dashboard.not_ends hpanel hcategory (by decide)⟩

/-! ## whatever the server sends -/

/-- what a client and its dashboard make of a datagram of the server -/
inductive ShownAs (N : Client.CLib) (L : Libs) (W : Dashboard.Display)
    (inputs : List LiveInput) : Bytes → Dashboard.Shown → Prop
  /-- the answer to a keepalive -/
  | keepalive (queued : Client.queued N (bytesOf (L.dump pongMessage)) =
        some (bytesOf (L.dump pongMessage), 1)) :
      ShownAs N L W inputs (bytesOf (L.dump pongMessage)) (.panel "KEEPALIVE ✅" "green"
        (bytesOf "PONG: Server received keepalive from client and connection is active."))
  /-- an alert that came in and was accepted, with its message as rich keeps it -/
  | alert {i : LiveInput} (mem : i ∈ inputs) (a : AcceptedAlert L)
      (what : i.what = .alert a.text)
      (queued : Client.queued N a.datagram = some (a.datagram, 2) ↔ a.FitsAndLeads) :
      ShownAs N L W inputs a.datagram
        (.panel "ALERT ⚠️" "yellow" (W.append (bytesOf a.message)))

theorem shownAs_of_announced {F : Doubles} (N : Client.CLib) {L : Libs} (W : Dashboard.Display)
    {inputs : List LiveInput} {text : String} (h : Announced (L.standard F) inputs text) :
    ShownAs N (L.standard F) W inputs (bytesOf text) (Dashboard.receive W (bytesOf text ++ [0])) ∧
      ¬ Dashboard.Ends W (bytesOf text ++ [0]) := by
  rcases h with rfl | ⟨i, hi, alert, hwhat, htext⟩
  · obtain ⟨hpanel, hends⟩ := receive_pong F W
    refine ⟨?_, hends⟩
    show ShownAs N (L.standard F) W inputs _ (Dashboard.receive W (bytesOf (pongMessage.dump F) ++ [0]))
    rw [hpanel]
    exact .keepalive (queued_pong F N)
  · obtain ⟨a, rfl, hdatagram⟩ := htext.accepted
    obtain ⟨hpanel, hends⟩ := a.panel W
    rw [hdatagram, hpanel]
    exact ⟨.alert hi a hwhat (a.queued_iff N), hends⟩

/-- a rich that keeps every text that it need not change -/
def Dashboard.Display.sample : Dashboard.Display where
  lower := id
  small _ _ := rfl
  append := List.filter (· ∉ STRIP_CONTROL_CODES)
  plain _ h := List.filter_eq_self.mpr fun b hb => decide_eq_true (h b hb)
  renders clientId := '[' ∉ clientId.toList
  unmarked _ h := decide_eq_true h

def stormAlert : Json := .obj [("message", .str "storm"), ("type", .str "weather")]

def aliceWatch : List LiveInput :=
  [⟨.run 0 (.data (bytesOf aliceLogin.render)), healthy⟩,
    ⟨.datagram (.data "10.0.0.1:9000" (bytesOf aliceKeepalive.render)), healthy⟩,
    ⟨.alert (bytesOf stormAlert.render), healthy⟩]

theorem aliceWatch_sends : ∃ ℓ, runFrom (liveStep sampleLibs .sample)
      (.start aliceUsers .empty .empty fun _ => "10.0.0.1") aliceWatch = some ℓ ∧
    ℓ.world.journal.datagrams.length = 2 :=
  Option.map_eq_some_iff.mp (by decide +kernel)

end Logistics
