import Logistics.Client.CJson
import Logistics.Session.Broadcast
import Logistics.Session.Handlers
import Logistics.Session.Routine

/-!
# Alerts on their way to the dashboard

The client's UDP listener receives each datagram into a buffer, cuts it at a NUL, and puts it into
the message queue of the dashboard with a priority that it reads from the `category` of the text.

`AcceptedAlert` is an alert that `processAlert` does not reject, `AcceptedAlert.datagram` what the
server then sends (`processAlert_sends`).

* `priorityCheck_print`   the priority of a printed object;
* `alerts_queued_iff`     **alerts are queued exactly if they fit and lead with their category**;
* `grown_alert_is_lost`   an alert of which the datagram is longer than the alert itself.
-/

namespace Logistics

namespace Client
open JsonText

/-! ## the client -/

def MAX_MSG_SIZE : Nat := 256

def BUFFER_SIZE_UDP : Nat := 256

def priorityCheck (N : CLib) (message : Bytes) : Int :=
  match cJSONParse N message with
  | none => -1
  | some root =>
    match getObjectItem root (bytesOf "category") with
    | some (.str category) =>
      if strEq category "exit" then 3
      else if strEq category "alert" then 2
      else if strEq category "keepalive" then 1
      else 0
    | _ => -1

/-- the messages in the queue with their priorities, in the order in which they were sent -/
abbrev Queue := List (Bytes × Int)

/-- `ipc_send_message`; `room` is whether `mq_send` succeeds -/
def ipcSendMessage (N : CLib) (queue : Queue) (message : Bytes) (room : Bool) : Bool × Queue :=
  if MAX_MSG_SIZE ≤ message.length then (false, queue)
  else if priorityCheck N message < 0 then (false, queue)
  else if room then (true, queue ++ [(message, priorityCheck N message)])
  else (false, queue)

/-- what `udp_recv` meets: an error, or a datagram and whether the queue has room for it -/
inductive UdpRecv where
  | error
  | datagram (bytes : Bytes) (room : Bool)

/-- `udp_listener_thread_func`, with what it receives until the client exits -/
def udpListener (N : CLib) : List UdpRecv → Queue → Queue
  | [], queue => queue
  | .error :: _, queue => queue
  | .datagram bytes room :: rest, queue =>
    let buffer := bytes.take (BUFFER_SIZE_UDP - 1)
    if buffer = [] then queue
    else udpListener N rest (ipcSendMessage N queue (cString buffer) room).2

/-! ## priorities of printed objects -/

variable (F : Doubles) (N : CLib)

/-- the first category, with its letters in any case, is the text `alert` -/
def CategoryAlert (fields : List (String × Json)) : Prop :=
  ∃ category, firstField "category" fields = some (.str category) ∧
    strEq (bytesOf category) "alert" = true

theorem priorityCheck_print {fields : List (String × Json)} (hv : (Json.obj fields).Ranged)
    (hlength : (bytesOf ((Json.obj fields).dump F)).length ≤ 255) :
    priorityCheck N (bytesOf ((Json.obj fields).dump F)) = 2 ↔ CategoryAlert fields := by
  unfold priorityCheck CategoryAlert
  rw [cJSONParse_dump_short F N hv (hlength.trans (by decide))]
  dsimp only
  rw [getObjectItem_written]
  cases firstField "category" fields with
  | none =>
    refine iff_of_false ?_ ?_
    · show ¬ (-1 : Int) = 2
      decide
    · rintro ⟨category, h, -⟩
      cases h
  | some v =>
    cases v with
    | str category =>
      simp only [Option.map_some, Json.written, Json.tree, Option.some.injEq, Json.str.injEq,
        exists_eq_left']
      cases halert : strEq (bytesOf category) "alert" with
      | true =>
        have hexit : strEq (bytesOf category) "exit" = false := by
          unfold strEq at halert ⊢
          rw [of_decide_eq_true halert]
          decide
        rw [hexit]
        exact iff_of_true rfl rfl
      | false =>
        refine iff_of_false ?_ Bool.false_ne_true
        rw [if_neg Bool.false_ne_true]
        split_ifs <;> decide
    | _ =>
      refine iff_of_false ?_ ?_
      · show ¬ (-1 : Int) = 2
        decide
      · rintro ⟨category, h, -⟩
        cases h

/-! ## the listener -/

/-- what the listener puts into the queue for a datagram -/
def queued (datagram : Bytes) : Option (Bytes × Int) :=
  let message := cString (datagram.take (BUFFER_SIZE_UDP - 1))
  if MAX_MSG_SIZE ≤ message.length ∨ priorityCheck N message < 0 then none
  else some (message, priorityCheck N message)

theorem ipcSendMessage_queue (queue : Queue) (datagram : Bytes) :
    (ipcSendMessage N queue (cString (datagram.take (BUFFER_SIZE_UDP - 1))) true).2 =
      queue ++ (queued N datagram).toList := by
  unfold ipcSendMessage queued
  by_cases hlong : MAX_MSG_SIZE ≤ (cString (datagram.take (BUFFER_SIZE_UDP - 1))).length
  · rw [if_pos hlong, if_pos (.inl hlong)]
    exact (List.append_nil queue).symm
  · by_cases hpriority : priorityCheck N (cString (datagram.take (BUFFER_SIZE_UDP - 1))) < 0
    · rw [if_neg hlong, if_pos hpriority, if_pos (.inr hpriority)]
      exact (List.append_nil queue).symm
    · rw [if_neg hlong, if_neg hpriority, if_neg (not_or.mpr ⟨hlong, hpriority⟩)]
      rfl

theorem udpListener_queue {datagrams : List Bytes} (hne : ∀ d ∈ datagrams, d ≠ [])
    (queue : Queue) : udpListener N (datagrams.map fun d => .datagram d true) queue =
      queue ++ datagrams.filterMap (queued N) := by
  induction datagrams generalizing queue with
  | nil => exact (List.append_nil queue).symm
  | cons d datagrams ih =>
    have htake : d.take (BUFFER_SIZE_UDP - 1) ≠ [] := by
      intro h
      rcases List.take_eq_nil_iff.mp h with h | h
      · cases h
      · exact hne d (List.mem_cons_self ..) h
    rw [List.map_cons, udpListener, if_neg htake, ipcSendMessage_queue,
      ih fun d' hd' => hne d' (List.mem_cons_of_mem _ hd'), List.append_assoc, List.filterMap_cons]
    cases queued N d with
    | none => rfl
    | some e => rfl

/-- a text without control characters is queued whole exactly if it fits into the buffer -/
theorem queued_eq_iff {datagram : Bytes} (hprintable : ∀ b ∈ datagram, 32 ≤ b) :
    queued N datagram = some (datagram, 2) ↔
      datagram.length ≤ 255 ∧ priorityCheck N datagram = 2 := by
  have hcut : cString (datagram.take 255) = datagram.take 255 := by
    refine (cString_eq_self_iff _).mpr fun hzero => ?_
    exact absurd (hprintable 0 (List.mem_of_mem_take hzero)) (by decide)
  have hlength : (datagram.take 255).length ≤ 255 := List.length_take_le 255 datagram
  unfold queued
  show (if MAX_MSG_SIZE ≤ (cString (datagram.take 255)).length ∨
    priorityCheck N (cString (datagram.take 255)) < 0 then none
    else some (cString (datagram.take 255), priorityCheck N (cString (datagram.take 255)))) = _ ↔ _
  rw [hcut]
  constructor
  · intro h
    split_ifs at h
    obtain ⟨hwhole, hpriority⟩ := Prod.mk.inj (Option.some.inj h)
    rw [hwhole] at hlength hpriority
    exact ⟨hlength, hpriority⟩
  · rintro ⟨hfits, hpriority⟩
    rw [List.take_of_length_le hfits, hpriority]
    refine if_neg ?_
    rintro (hlong | hnegative)
    · have hlong : 256 ≤ datagram.length := hlong
      omega
    · exact absurd hnegative (by decide)

theorem filterMap_eq_map_iff {α β : Type} (f : α → Option β) (g : α → β) (l : List α) :
    l.filterMap f = l.map g ↔ ∀ a ∈ l, f a = some (g a) := by
  induction l with
  | nil => exact iff_of_true rfl nofun
  | cons a l ih =>
    rw [List.forall_mem_cons, List.filterMap_cons, List.map_cons, ← ih]
    cases f a with
    | none =>
      refine iff_of_false ?_ fun h => nomatch h.1
      intro h
      -- nothing was added for the first element, so there are too few
      have h : l.filterMap f = g a :: l.map g := h
      have hle := List.length_filterMap_le f l
      have hlength := congrArg List.length h
      rw [List.length_cons, List.length_map] at hlength
      omega
    | some b =>
      show b :: l.filterMap f = g a :: l.map g ↔ some b = some (g a) ∧ _
      rw [Option.some.injEq, List.cons.injEq]

/-! ## alerts -/

end Client

/-- an alert that `processAlert` broadcasts, unless the `Storage` call of its lock throws -/
structure AcceptedAlert (L : Libs) where
  text : Bytes
  fields : List (String × Json)
  type : String
  message : String
  client : Option String
  fields_eq : alertFields L text = .ok (.obj fields, type, message)
  client_eq : alertClient (.obj fields) = .ok client

theorem withCategory_ok {value alertData : Json} (h : withCategory value = .ok alertData) :
    ∃ fields, alertData = .obj fields ∧
      (value = .null ∧ fields = [("category", .str "alert")] ∨
        ∃ old, value = .obj old ∧ fields = setKey "category" (.str "alert") old) := by
  cases value with
  | null =>
    cases h
    exact ⟨_, rfl, .inl ⟨rfl, rfl⟩⟩
  | obj old =>
    cases h
    exact ⟨_, rfl, .inr ⟨old, rfl, rfl⟩⟩
  | _ => cases h

theorem except_bind_eq_ok {ε α β : Type} {x : Except ε α} {f : α → Except ε β} {b : β}
    (h : (x >>= f) = .ok b) : ∃ a, x = .ok a ∧ f a = .ok b := by
  cases x with
  | error e => cases h
  | ok a => exact ⟨a, rfl, h⟩

theorem alertFields_ok {L : Libs} {text : Bytes} {alertData : Json} {type message : String}
    (h : alertFields L text = .ok (alertData, type, message)) :
    ∃ value, L.parse text = some value ∧ withCategory value = .ok alertData := by
  unfold alertFields at h
  cases hparse : L.parse text with
  | none =>
    rw [hparse] at h
    cases h
  | some value =>
    rw [hparse] at h
    obtain ⟨data, hdata, h⟩ := except_bind_eq_ok h
    obtain ⟨t, -, h⟩ := except_bind_eq_ok h
    obtain ⟨m, -, h⟩ := except_bind_eq_ok h
    cases h
    exact ⟨value, rfl, hdata⟩

namespace AcceptedAlert
open Client

def datagram {L : Libs} (a : AcceptedAlert L) : Bytes := bytesOf (L.dump (.obj a.fields))

theorem ranged {F : Doubles} {L : Libs} (a : AcceptedAlert (L.standard F)) :
    (Json.obj a.fields).Ranged := by
  obtain ⟨value, hparse, hdata⟩ := alertFields_ok a.fields_eq
  have hvalue : value.Ranged := parse_ranged F hparse
  obtain ⟨fields, heq, hset⟩ := withCategory_ok hdata
  cases heq
  rcases hset with ⟨-, hfields⟩ | ⟨old, rfl, hfields⟩
  · rw [hfields]
    exact .obj (List.forall_mem_singleton.mpr (.str "alert"))
  · rw [hfields]
    cases hvalue with
    | obj hold =>
      refine .obj fun f hf => ?_
      rcases setKey_mem hf with rfl | hf
      · exact .str "alert"
      · exact hold f hf

theorem datagram_eq {F : Doubles} {L : Libs} (a : AcceptedAlert (L.standard F)) :
    a.datagram = bytesOf ((Json.obj a.fields).dump F) := rfl

theorem datagram_ne {F : Doubles} {L : Libs} (a : AcceptedAlert (L.standard F)) :
    a.datagram ≠ [] := by
  rw [datagram_eq, Json.dump, bytesOf_render, Json.written, Json.tree, JsonText.Tree.print]
  exact List.cons_ne_nil _ _

/-- the datagram fits into the buffer of the listener, and of the fields that are named category, in
whatever letters, the first is the `alert` of the server -/
def FitsAndLeads {L : Libs} (a : AcceptedAlert L) : Prop :=
  a.datagram.length ≤ 255 ∧ CategoryAlert a.fields

theorem queued_iff {F : Doubles} (N : CLib) {L : Libs} (a : AcceptedAlert (L.standard F)) :
    queued N a.datagram = some (a.datagram, 2) ↔ a.FitsAndLeads := by
  unfold FitsAndLeads
  rw [datagram_eq, queued_eq_iff N (dump_printable F a.ranged)]
  exact and_congr_right fun hlength => priorityCheck_print F N a.ranged hlength

/-- an alert that does not fit is not queued whole -/
theorem not_queued_of_long {F : Doubles} (N : CLib) {L : Libs} (a : AcceptedAlert (L.standard F))
    (h : 255 < a.datagram.length) :
    udpListener N [.datagram a.datagram true] [] ≠ [(a.datagram, 2)] := by
  have hqueue := udpListener_queue N (List.forall_mem_singleton.mpr a.datagram_ne) []
  rw [List.map_singleton, List.nil_append] at hqueue
  rw [hqueue]
  intro hwhole
  have hqueued := (filterMap_eq_map_iff (queued N) (·, 2) [a.datagram]).mp hwhole a.datagram
    (List.mem_cons_self ..)
  have hfits := ((a.queued_iff N).mp hqueued).1
  omega

end AcceptedAlert

/-! ## what the server sends -/

/-- the datagrams that were added all have one text -/
def Sends (message : String) (s s' : St) : Prop :=
  ∃ sent, s'.journal.datagrams = s.journal.datagrams ++ sent ∧ ∀ d ∈ sent, d.2 = message

instance (message : String) : IsPreorder St (Sends message) where
  refl s := ⟨[], (List.append_nil _).symm, nofun⟩
  trans := by
    rintro s s' s'' ⟨sent, heq, hsent⟩ ⟨sent', heq', hsent'⟩
    refine ⟨sent ++ sent', ?_, List.forall_mem_append.mpr ⟨hsent, hsent'⟩⟩
    rw [heq', heq, List.append_assoc]

theorem sends_of_eq {message : String} {s s' : St}
    (h : s'.journal.datagrams = s.journal.datagrams) : Sends message s s' :=
  ⟨[], h.trans (List.append_nil _).symm, nofun⟩

theorem sends_routine (message : String) : Routine (Sends message) where
  next _ := sends_of_eq rfl
  core _ _ _ := sends_of_eq rfl
  messages _ _ := sends_of_eq rfl
  reconnections _ _ := sends_of_eq rfl
  plain s level component text := sends_of_eq (St.logged_datagrams s level component text none)

theorem sends_sends (message : String) : Sending (Sends message) message where
  datagram _ address := ⟨[(address, message)], rfl, List.forall_mem_singleton.mpr rfl⟩
  udpError _ := sends_of_eq rfl
  push cfg user := pushEvent_routine (sends_routine message) (fun _ _ => sends_of_eq rfl) cfg user _

/-- the datagrams of an alert are its datagram, whatever becomes of the calls to the outside -/
theorem processAlert_sends {L : Libs} (cfg : Config) (a : AcceptedAlert L) :
    (processAlert L cfg a.text).Keeps (Sends (L.dump (.obj a.fields))) := by
  refine processAlert_routine (sends_routine _) L cfg ?_ fun _ _ s level text =>
    sends_of_eq (St.logged_datagrams s level _ text _)
  rintro text ⟨alertData, type, message, client, hfields, -, rfl⟩
  rw [a.fields_eq] at hfields
  cases hfields
  exact sends_sends _

/-! ## the queue -/

/-- **Alerts that are delivered are queued whole and with the priority of alerts exactly if each of
them fits.** -/
theorem alerts_queued_iff (F : Doubles) (N : Client.CLib) (L : Libs) (hjson : L.Nlohmann F)
    (alerts : List (AcceptedAlert L)) (queue : Client.Queue) :
    Client.udpListener N (alerts.map fun a => .datagram a.datagram true) queue =
        queue ++ alerts.map (fun a => (a.datagram, 2)) ↔
      ∀ a ∈ alerts, a.FitsAndLeads := by
  obtain ⟨L, rfl⟩ := hjson.standard
  have hne : ∀ d ∈ alerts.map AcceptedAlert.datagram, d ≠ [] := by
    intro d hd
    obtain ⟨a, -, rfl⟩ := List.mem_map.mp hd
    exact a.datagram_ne
  have hrun := Client.udpListener_queue N hne queue
  rw [List.map_map] at hrun
  refine (Eq.congr_left hrun).trans ?_
  rw [List.append_cancel_left_eq, List.filterMap_map]
  rw [Client.filterMap_eq_map_iff]
  simp only [Function.comp_apply, AcceptedAlert.queued_iff]

/-! Two alerts that fit, an alert of 251 bytes, which its category makes longer than the buffer, and an
alert with a category in capitals, which the listener takes for the category. -/

def weatherFields (message : String) : List (String × Json) :=
  [("message", .str message), ("type", .str "weather")]

theorem weatherFields_canonical (message : String) : (Json.obj (weatherFields message)).Canonical :=
  .obj (show ["message", "type"].Pairwise (· < ·) by decide)
    (List.forall_mem_cons.mpr ⟨.str _, List.forall_mem_singleton.mpr (.str _)⟩)

theorem alertFields_weather {L : Libs} {text : Bytes} {message : String}
    (h : L.parse text = some (.obj (weatherFields message))) :
    alertFields L text =
      .ok (.obj (("category", .str "alert") :: weatherFields message), "weather", message) := by
  unfold alertFields
  rw [h]
  rfl

def weatherAlert (message : String) : AcceptedAlert sampleLibs where
  text := bytesOf ((Json.obj (weatherFields message)).dump .sample)
  fields := ("category", .str "alert") :: weatherFields message
  type := "weather"
  message := message
  client := none
  fields_eq := alertFields_weather (sampleLibs_parse (weatherFields_canonical message))
  client_eq := rfl

theorem alerts_queued_storms : Client.udpListener .sample
      [.datagram (weatherAlert "storm").datagram true, .datagram (weatherAlert "hail").datagram true]
      [] =
    [((weatherAlert "storm").datagram, 2), ((weatherAlert "hail").datagram, 2)] := by
  refine (alerts_queued_iff .sample .sample sampleLibs ⟨rfl, rfl⟩
    [weatherAlert "storm", weatherAlert "hail"] []).mpr ?_
  exact List.forall_mem_cons.mpr ⟨⟨by decide +kernel, "alert", rfl, rfl⟩,
    List.forall_mem_singleton.mpr ⟨by decide +kernel, "alert", rfl, rfl⟩⟩

def grownText : String := String.ofList (List.replicate 220 'x')

def grownAlert : AcceptedAlert sampleLibs := weatherAlert grownText

theorem bytesOf_grownText :
    bytesOf grownText = (List.replicate 220 'x').flatMap String.utf8EncodeChar := by
  unfold bytesOf grownText
  rw [String.toList_ofList]

theorem grownAlert_length : grownAlert.text.length = 251 ∧ grownAlert.datagram.length = 270 := by
  rw [AcceptedAlert.datagram_eq]
  unfold grownAlert weatherAlert weatherFields Json.dump
  simp only [bytesOf_render, Json.written, writtenFields, Json.tree, treeFields, bytesOf_grownText]
  exact ⟨by decide +kernel, by decide +kernel⟩

def shoutedFields : List (String × Json) :=
  [("CATEGORY", .str "storm"), ("message", .str "m"), ("type", .str "weather")]

theorem shoutedFields_canonical : (Json.obj shoutedFields).Canonical := by
  refine .obj (by decide) ?_
  exact List.forall_mem_cons.mpr ⟨.str _, List.forall_mem_cons.mpr ⟨.str _,
    List.forall_mem_singleton.mpr (.str _)⟩⟩

def shoutedAlert : AcceptedAlert sampleLibs where
  text := bytesOf ((Json.obj shoutedFields).dump .sample)
  fields := setKey "category" (.str "alert") shoutedFields
  type := "weather"
  message := "m"
  client := none
  fields_eq := by
    unfold alertFields
    rw [sampleLibs_parse shoutedFields_canonical]
    rfl
  client_eq := rfl

theorem grown_alert_is_lost :
    (grownAlert.text.length ≤ 255 ∧
      Client.udpListener .sample [.datagram grownAlert.datagram true] [] ≠
        [(grownAlert.datagram, 2)]) ∧
    (shoutedAlert.text.length ≤ 255 ∧
      Client.udpListener .sample [.datagram shoutedAlert.datagram true] [] =
        [(shoutedAlert.datagram, 0)]) := by
  obtain ⟨htext, hdatagram⟩ := grownAlert_length
  refine ⟨⟨by omega, ?_⟩, by decide +kernel⟩
  exact grownAlert.not_queued_of_long .sample (by omega)

end Logistics
