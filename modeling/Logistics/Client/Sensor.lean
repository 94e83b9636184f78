import Logistics.Lib.JsonAscii
import Logistics.Lib.JsonCut
import Logistics.Server.Ipc
import Logistics.Client.Panels

/-!
# From the sensor to the dashboard

The alert of `sensor_simulator.py` passes four programs: the script writes it with `json.dumps`, in
ASCII; the server reads it into a buffer, parses it, adds the category and sends the text of `dump`
to the clients; a client reads that into a buffer of its own and puts it into the queue; the
dashboard prints a panel.  Both buffers cut what is too long, and what was cut is no JSON any more.
The server reads once, and what has not arrived by then is not read at all.

* `SensorSimulator.sendAlert`, `SensorSimulator.main`   the script;
* `parse_sendAlert`                the server reads what the script was given;
* `alert_whole_or_not`             **the alert arrives whole or not at all**;
* `sensor_lock_target`             **whom `send_alert` and the script have locked**.
-/

namespace Logistics
open JsonText

/-! ## the script -/

namespace SensorSimulator

/-- `json.dumps` of a dictionary of strings -/
def jsonDumps (items : List (String × String)) : Bytes :=
  dictText (items.map fun item => (item.1.toList, item.2.toList))

/-- what `send_alert` sends -/
def sendAlert (alertType message : String) (clientId : Option String) : Bytes :=
  jsonDumps ([("type", alertType), ("message", message)] ++
    match clientId with
    -- an empty string counts as no id
    | some id => if id = "" then [] else [("clientId", id)]
    | none => [])

/-- what the script sends, if it gets as far; the first argument is its own name -/
def main : List String → Option Bytes
  -- the third argument is read but not passed on
  | _ :: alertType :: message :: _ => some (sendAlert alertType message none)
  | _ => none

theorem main_eq_some {argv : List String} {text : Bytes} (h : main argv = some text) :
    ∃ program alertType message rest, argv = program :: alertType :: message :: rest ∧
      text = sendAlert alertType message none := by
  unfold main at h
  split at h
  · rename_i program alertType message rest
    exact ⟨program, alertType, message, rest, rfl, (Option.some.inj h).symm⟩
  · cases h

end SensorSimulator

/-! ## on the server -/

section Server
variable (F : Doubles)

theorem ofFields_strings (items : List (String × String)) (map : List (String × Json)) :
    ofFields F (items.map fun item => (bytesOf item.1, .str (bytesOf item.2))) map =
      some (items.foldl (fun map item => setKey item.1 (.str item.2) map) map) := by
  induction items generalizing map with
  | nil => rfl
  | cons item items ih =>
    rw [List.map_cons, ofFields, decode_bytesOf, Option.bind_some, Json.ofTree, decode_bytesOf,
      Option.map_some, Option.bind_some, ih]
    rfl

/-- the server reads the dictionary that the script wrote, with its keys in order -/
theorem parse_jsonDumps (items : List (String × String)) :
    Json.parse F (SensorSimulator.jsonDumps items) =
      some (.obj (items.foldl (fun map item => setKey item.1 (.str item.2) map) [])) := by
  have hspace : nlohmann.space 32 = true := by decide
  have hfields : (items.map fun item => (item.1.toList, item.2.toList)).map dictField =
      items.map fun item => (bytesOf item.1, .str (bytesOf item.2)) := List.map_map ..
  unfold Json.parse SensorSimulator.jsonDumps
  rw [document_dict nlohmann_plain hspace, hfields, Option.bind_some]
  show Json.ofTree F (.obj _) = _
  rw [Json.ofTree, ofFields_strings, Option.map_some]

/-- but not where the text was cut -/
theorem parse_jsonDumps_cut (items : List (String × String)) {k : Nat}
    (hk : k < (SensorSimulator.jsonDumps items).length) :
    Json.parse F ((SensorSimulator.jsonDumps items).take k) = none := by
  have hspace : nlohmann.numberless.space 32 = true := by decide
  have hwhole := document_dict (numberless_plain nlohmann_plain) hspace
    (items.map fun item => (item.1.toList, item.2.toList))
  have hcut : document nlohmann ((SensorSimulator.jsonDumps items).take k) = none :=
    document_take nlohmann_plain rfl hwhole hk
  unfold Json.parse
  rw [hcut, Option.bind_none]

/-- the fields of an alert of the script, on the server -/
def sensorFields (alertType message : String) (clientId : Option String) : List (String × Json) :=
  ((clientId.filter (· ≠ "")).map fun id => ("clientId", Json.str id)).toList ++
    [("message", .str message), ("type", .str alertType)]

/-- a key before all others -/
theorem setKey_first {key k : String} (h : key < k) (value v : Json) (fields : List (String × Json)) :
    setKey key value ((k, v) :: fields) = (key, value) :: (k, v) :: fields := by
  unfold setKey
  rw [if_neg (ne_of_lt h), if_pos h]

theorem parse_sendAlert (alertType message : String) (clientId : Option String) :
    Json.parse F (SensorSimulator.sendAlert alertType message clientId) =
      some (.obj (sensorFields alertType message clientId)) := by
  have hmessage : "message" < "type" := by decide
  have hid : "clientId" < "message" := by decide
  unfold SensorSimulator.sendAlert sensorFields
  rw [parse_jsonDumps, List.foldl_append, List.foldl_cons, List.foldl_cons, List.foldl_nil]
  dsimp only
  rw [setKey, setKey_first hmessage]
  cases clientId with
  | none => rfl
  | some id =>
    by_cases hempty : id = ""
    · rw [hempty]
      rfl
    · have hfilter : (some id).filter (· ≠ "") = some id :=
        Option.filter_some_pos (decide_eq_true hempty)
      dsimp only
      rw [if_neg hempty, List.foldl_cons, List.foldl_nil, setKey_first hid, hfilter]
      rfl

theorem alertFields_sendAlert (L : Libs) (alertType message : String) (clientId : Option String) :
    alertFields (L.standard F) (SensorSimulator.sendAlert alertType message clientId) =
      .ok (.obj (("category", .str "alert") :: sensorFields alertType message clientId), alertType,
        message) := by
  have hset : withCategory (.obj (sensorFields alertType message clientId)) =
      .ok (.obj (("category", .str "alert") :: sensorFields alertType message clientId)) := by
    unfold sensorFields
    refine congrArg (fun fields => Except.ok (Json.obj fields)) ?_
    cases clientId.filter (· ≠ "") with
    | none => exact setKey_first (by decide) _ _ _
    | some id => exact setKey_first (by decide) _ _ _
  unfold alertFields
  rw [Libs.standard_parse, parse_sendAlert]
  dsimp only
  rw [hset]
  unfold sensorFields
  cases clientId.filter (· ≠ "") with
  | none => rfl
  | some id => rfl

theorem alertClient_sensor (alertType message : String) (clientId : Option String) :
    alertClient (.obj (("category", .str "alert") :: sensorFields alertType message clientId)) =
      .ok (clientId.filter (· ≠ "")) := by
  unfold sensorFields
  cases clientId.filter (· ≠ "") with
  | none => rfl
  | some id => rfl

end Server

/-! ## the broadcast -/

/-- what the broadcast of a text does -/
structure Broadcast (cfg : Config) (text : String) (s s' : St) : Prop where
  core : QueuesOnly s.core s'.core
  sends : Sends text s s'
  delivered : (∀ n, (s.env n).fails = false) → s'.journal.datagrams =
    s.journal.datagrams ++ (addressees s.core).map fun a => (a.2, text)
  queues : ∀ user, s'.core.queue user =
    (pushed cfg ⟨text⟩)^[queuedFor s.core user] (s.core.queue user)

theorem broadcastOffline_unsent (L : Libs) (cfg : Config) (alertMessage : Json) :
    (broadcastOffline L cfg alertMessage).Keeps Unsent :=
  Prog.keeps_bind (fun s => refl_of Unsent s) fun _ => queueFor_routine unsent_routine
    (pushEvent_routine unsent_routine (fun _ _ => unsent_of rfl rfl rfl) cfg · _) _

theorem broadcastMessage_spec (L : Libs) (cfg : Config) (alertMessage : Json) (s : St) :
    ∃ s', (broadcastMessage L cfg alertMessage).run s = (.ok (), s') ∧
      ((∀ n, (s.env n).fails = false) → s'.journal.datagrams =
        s.journal.datagrams ++ (addressees s.core).map fun a => (a.2, L.dump alertMessage)) ∧
      ∀ user, s'.core.queue user =
        (pushed cfg ⟨L.dump alertMessage⟩)^[queuedFor s.core user] (s.core.queue user) := by
  obtain ⟨u, s', hrun⟩ := broadcastMessage_returns L cfg alertMessage s
  refine ⟨s', hrun, ?_⟩
  have hdatagrams := broadcastActive_datagrams L alertMessage s
  have hcore := broadcastActive_core L alertMessage s
  rw [broadcastMessage_eq, Prog.run_bind] at hrun
  generalize (broadcastActive L alertMessage).run s = r at hrun hdatagrams hcore
  obtain ⟨r, s₁⟩ := r
  cases r with
  | error e => cases hrun
  | ok u₁ =>
    have hrun : (broadcastOffline L cfg alertMessage).run s₁ = (.ok u, s') := hrun
    have hunsent := broadcastOffline_unsent L cfg alertMessage s₁
    have hqueue := broadcastOffline_queue L cfg alertMessage s₁
    rw [hrun] at hunsent
    refine ⟨fun hfails => hunsent.datagrams.trans (hdatagrams hfails), fun user => ?_⟩
    have hqueue := hqueue user
    rw [hrun, hcore] at hqueue
    exact hqueue

/-- an alert that locks nobody is broadcast from the state after its log entry -/
theorem AcceptedAlert.run_eq {L : Libs} (a : AcceptedAlert L) (hlock : lockTarget L a.text = none)
    (cfg : Config) (s : St) : (processAlert L cfg a.text).run s =
      (broadcastMessage L cfg (.obj a.fields)).run ((logAlert a.type a.message).run s).2 := by
  have htarget : (if isThreat a.type then a.client else none) = none := by
    unfold lockTarget at hlock
    simpa only [a.fields_eq, a.client_eq] using hlock
  unfold processAlert catchJson
  rw [a.fields_eq, json_ok_bind, Prog.run_tryCatch]
  dsimp only
  rw [Prog.run_bind, logAlert, run_log]
  dsimp only
  rw [a.client_eq, json_ok_bind, lockThreatened_eq, htarget]
  obtain ⟨u, s', hrun⟩ := broadcastMessage_returns L cfg (.obj a.fields)
    (s.logged .warning "AlertManager"
      ("Received alert from sensor. Type: " ++ a.type ++ ", Message: " ++ a.message) none)
  rw [Prog.run_bind]
  dsimp only [Prog.run_pure]
  rw [hrun]

theorem AcceptedAlert.run_broadcast {L : Libs} (a : AcceptedAlert L)
    (hlock : lockTarget L a.text = none) (cfg : Config) (s : St) :
    ∃ s', (processAlert L cfg a.text).run s = (.ok (), s') ∧
      Broadcast cfg (L.dump (.obj a.fields)) s s' := by
  have hsends := processAlert_sends cfg a s
  have hcore := (processAlert_effect L cfg a.text s).resolve_right (by
    rintro ⟨clientId, hclient, -⟩
    rw [hlock] at hclient
    cases hclient)
  have hrun := a.run_eq hlock cfg s
  rw [logAlert, run_log] at hrun
  obtain ⟨s', hbroadcast, hdelivered, hqueues⟩ := broadcastMessage_spec L cfg (.obj a.fields)
    (s.logged .warning "AlertManager"
      ("Received alert from sensor. Type: " ++ a.type ++ ", Message: " ++ a.message) none)
  rw [hbroadcast] at hrun
  rw [hrun] at hsends hcore
  rw [St.logged_datagrams, St.logged_core, St.logged_env] at hdelivered
  rw [St.logged_core] at hqueues
  exact ⟨s', hrun, hcore.2, hsends, fun hfails => hdelivered fun n => hfails (n + 2), hqueues⟩

/-! ## the alert of the script -/

/-- a text without control characters that the buffer cuts so that it is no JSON any more -/
theorem Client.queued_cut (N : CLib) {datagram : Bytes} (hprintable : ∀ b ∈ datagram, 32 ≤ b)
    (hcut : document (cJSON N) (datagram.take (BUFFER_SIZE_UDP - 1)) = none) :
    queued N datagram = none := by
  have hcString : cString (datagram.take (BUFFER_SIZE_UDP - 1)) =
      datagram.take (BUFFER_SIZE_UDP - 1) := by
    refine (cString_eq_self_iff _).mpr fun hzero => ?_
    exact absurd (hprintable 0 (List.mem_of_mem_take hzero)) (by decide)
  have hpriority : priorityCheck N (datagram.take (BUFFER_SIZE_UDP - 1)) = -1 := by
    unfold priorityCheck cJSONParse
    rw [hcut]
    rfl
  unfold queued
  rw [hcString]
  exact if_pos (.inr (by rw [hpriority]; decide))


section Script
variable (F : Doubles) (L : Libs) (alertType message : String)

/-- the alert that the server accepts -/
def sensorAlert : AcceptedAlert (L.standard F) where
  text := SensorSimulator.sendAlert alertType message none
  fields := ("category", .str "alert") :: sensorFields alertType message none
  type := alertType
  message := message
  client := none
  fields_eq := alertFields_sendAlert F L alertType message none
  client_eq := alertClient_sensor alertType message none

theorem lockTarget_sendAlert (clientId : Option String) :
    lockTarget (L.standard F) (SensorSimulator.sendAlert alertType message clientId) =
      if isThreat alertType then clientId.filter (· ≠ "") else none := by
  unfold lockTarget
  rw [alertFields_sendAlert]
  dsimp only
  rw [alertClient_sensor]

/-- the alert with its category, as the server writes it -/
def sensorTree : Tree :=
  .obj [(bytesOf "category", .str (bytesOf "alert")), (bytesOf "message", .str (bytesOf message)),
    (bytesOf "type", .str (bytesOf alertType))]

theorem sensorAlert_datagram :
    (sensorAlert F L alertType message).datagram = (sensorTree alertType message).print :=
  bytesOf_render _

/-- a client queues the alert whole or not at all -/
theorem sensorAlert_queued (N : Client.CLib) :
    Client.queued N (sensorAlert F L alertType message).datagram =
      if (sensorAlert F L alertType message).datagram.length < Client.BUFFER_SIZE_UDP then
        some ((sensorAlert F L alertType message).datagram, 2)
      else none := by
  by_cases hfits : (sensorAlert F L alertType message).datagram.length < Client.BUFFER_SIZE_UDP
  · rw [if_pos hfits, AcceptedAlert.queued_iff]
    exact ⟨Nat.le_of_lt_succ hfits, "alert", by rfl, by decide⟩
  · rw [if_neg hfits]
    have hprintable := Client.dump_printable F (sensorAlert F L alertType message).ranged
    rw [← AcceptedAlert.datagram_eq] at hprintable
    have hwhole : document (Client.cJSON N).numberless (sensorTree alertType message).print =
        some (sensorTree alertType message, []) :=
      document_print (numberless_plain (Client.cJSON_plain N)) fun l hl => nomatch hl
    refine Client.queued_cut N hprintable ?_
    rw [sensorAlert_datagram] at hfits ⊢
    refine document_take (Client.cJSON_plain N) rfl hwhole ?_
    exact Nat.lt_of_lt_of_le (by decide) (Nat.le_of_not_lt hfits)

end Script

/-- the handler after an alert that was processed -/
theorem run_handleConnection {L : Libs} {cfg : Config} {alertMessage : Bytes} {s s₁ : St}
    (h : (processAlert L cfg alertMessage).run s = (.ok (), s₁)) :
    ∃ s', (handleConnection L cfg (.data alertMessage)).run s =
        (.ok ⟨some alertMessage, true, true⟩, s') ∧
      s'.core = s₁.core ∧ s'.journal.datagrams = s₁.journal.datagrams := by
  unfold handleConnection
  rw [Prog.run_bind, h]
  dsimp only
  rw [Prog.run_bind, run_log]
  exact ⟨_, rfl, St.logged_core s₁ _ _ _ _, St.logged_datagrams s₁ _ _ _ _⟩

/-- the handler after a `read` that returned nothing -/
theorem run_handleConnection_unread (L : Libs) (cfg : Config) {r : ReadResult}
    (h : r = .again ∨ r = .error) (s : St) :
    ∃ done s', (handleConnection L cfg r).run s = (.ok done, s') ∧ s'.core = s.core ∧
      s'.journal.datagrams = s.journal.datagrams := by
  rcases h with rfl | rfl
  · unfold handleConnection
    rw [Prog.run_bind, run_log]
    exact ⟨_, _, rfl, St.logged_core s _ _ _ _, St.logged_datagrams s _ _ _ _⟩
  · unfold handleConnection
    rw [Prog.run_bind, run_log]
    exact ⟨_, _, rfl, St.logged_core s _ _ _ _, St.logged_datagrams s _ _ _ _⟩

theorem Broadcast.of_eq {cfg : Config} {text : String} {s s₁ s' : St} (h : Broadcast cfg text s s₁)
    (hcore : s'.core = s₁.core) (hdatagrams : s'.journal.datagrams = s₁.journal.datagrams) :
    Broadcast cfg text s s' := by
  obtain ⟨sent, heq, htexts⟩ := h.sends
  refine ⟨hcore ▸ h.core, ⟨sent, hdatagrams.trans heq, htexts⟩, fun hfails => ?_, fun user => ?_⟩
  · exact hdatagrams.trans (h.delivered hfails)
  · rw [hcore]
    exact h.queues user

/-- a text that is no JSON does nothing but write the log -/
theorem run_processAlert_invalid {L : Libs} (cfg : Config) {alertMessage : Bytes}
    (h : L.parse alertMessage = none) (s : St) :
    ∃ s', (processAlert L cfg alertMessage).run s = (.ok (), s') ∧ s'.core = s.core ∧
      s'.journal.datagrams = s.journal.datagrams := by
  have hfields : alertFields L alertMessage = .error (.parseError 101) := by
    unfold alertFields
    rw [h]
  unfold processAlert
  rw [hfields]
  exact ⟨_, run_log _ _ _ _ s, St.logged_core s _ _ _ _, St.logged_datagrams s _ _ _ _⟩

/-! ## all the way -/

/-- the handler, whose `read` returned `r`, finds `s` and leaves `s'`; the alert is broadcast if it was
read and its text fits into the buffer of the server, and else nothing happens; a client queues the
datagram if it fits into the buffer there; and the dashboard shows the message as rich keeps it -/
structure WholeOrNot (N : Client.CLib) {L : Libs} (W : Dashboard.Display) (cfg : Config)
    (a : AcceptedAlert L) (r : ReadResult) (s s' : St) : Prop where
  handled : ∃ done, (handleConnection L cfg r).run s = (.ok done, s')
  broadcast : r = .data (a.text.take (BUFFER_SIZE - 1)) → a.text.length < BUFFER_SIZE →
    Broadcast cfg (L.dump (.obj a.fields)) s s'
  dropped : r ≠ .data (a.text.take (BUFFER_SIZE - 1)) ∨ BUFFER_SIZE ≤ a.text.length →
    s'.core = s.core ∧ s'.journal.datagrams = s.journal.datagrams
  queued : Client.queued N a.datagram =
    if a.datagram.length < Client.BUFFER_SIZE_UDP then some (a.datagram, 2) else none
  shown : Dashboard.receive W (a.datagram ++ [0]) =
    .panel "ALERT ⚠️" "yellow" (W.append (bytesOf a.message))

/-- **Whatever its arguments are, the alert of the script goes all the way to the dashboards whole,
or is dropped where it does not fit into a buffer or is read too early.** -/
theorem alert_whole_or_not (F : Doubles) (N : Client.CLib) (L : Libs) (hjson : L.Nlohmann F)
    (W : Dashboard.Display) (cfg : Config) (argv : List String) (text : Bytes)
    (hmain : SensorSimulator.main argv = some text)
    (r : ReadResult) (hr : r = .data (text.take (BUFFER_SIZE - 1)) ∨ r = .again ∨ r = .error)
    (s : St) : ∃ (a : AcceptedAlert L) (s' : St),
      a.text = text ∧ argv[1]? = some a.type ∧ argv[2]? = some a.message ∧
      WholeOrNot N W cfg a r s s' := by
  obtain ⟨L, rfl⟩ := hjson.standard
  obtain ⟨program, alertType, message, rest, rfl, rfl⟩ := SensorSimulator.main_eq_some hmain
  have hqueued := sensorAlert_queued F L alertType message N
  have hpanel := ((sensorAlert F L alertType message).panel W).1
  rcases hr with rfl | hunread
  · by_cases hfits : (SensorSimulator.sendAlert alertType message none).length < BUFFER_SIZE
    · have htake : (SensorSimulator.sendAlert alertType message none).take (BUFFER_SIZE - 1) =
          (sensorAlert F L alertType message).text :=
        List.take_of_length_le (Nat.le_sub_one_of_lt hfits)
      have hlock : lockTarget (L.standard F) (SensorSimulator.sendAlert alertType message none) =
          none := by
        rw [lockTarget_sendAlert]
        exact ite_self none
      obtain ⟨s₁, hrun, hbroadcast⟩ := (sensorAlert F L alertType message).run_broadcast hlock cfg s
      obtain ⟨s', hhandled, hcore, hdatagrams⟩ := run_handleConnection hrun
      exact ⟨sensorAlert F L alertType message, s', rfl, rfl, rfl,
        { handled := ⟨_, by rw [htake, hhandled]⟩
          broadcast := fun _ _ => hbroadcast.of_eq hcore hdatagrams
          dropped := fun h => absurd hfits (Nat.not_lt.mpr (h.resolve_left fun hne => hne rfl))
          queued := hqueued
          shown := hpanel }⟩
    · have hcut : (L.standard F).parse
          ((SensorSimulator.sendAlert alertType message none).take (BUFFER_SIZE - 1)) = none :=
        parse_jsonDumps_cut F _ (Nat.lt_of_lt_of_le (by decide) (Nat.le_of_not_lt hfits))
      obtain ⟨s₁, hrun, hcore₁, hdatagrams₁⟩ := run_processAlert_invalid cfg hcut s
      obtain ⟨s', hhandled, hcore, hdatagrams⟩ := run_handleConnection hrun
      exact ⟨sensorAlert F L alertType message, s', rfl, rfl, rfl,
        { handled := ⟨_, hhandled⟩
          broadcast := fun _ hshort => absurd hshort hfits
          dropped := fun _ => ⟨hcore.trans hcore₁, hdatagrams.trans hdatagrams₁⟩
          queued := hqueued
          shown := hpanel }⟩
  · obtain ⟨done, s', hrun, hsame⟩ := run_handleConnection_unread (L.standard F) cfg hunread s
    refine ⟨sensorAlert F L alertType message, s', rfl, rfl, rfl,
      { handled := ⟨done, hrun⟩
        broadcast := ?_
        dropped := fun _ => hsame
        queued := hqueued
        shown := hpanel }⟩
    rintro rfl
    rcases hunread with h | h
    · cases h
    · cases h

/-! A storm warning in which one character needs a surrogate pair. -/

theorem storm_whole_or_not : ∃ (a : AcceptedAlert sampleLibs) (s' : St),
    a.text = SensorSimulator.sendAlert "weather" "storm 🌩" none ∧ some "weather" = some a.type ∧
    some "storm 🌩" = some a.message ∧
    WholeOrNot .sample .sample .sample a
      (.data ((SensorSimulator.sendAlert "weather" "storm 🌩" none).take (BUFFER_SIZE - 1)))
      (.sample aliceUsers .empty) s' :=
  alert_whole_or_not .sample .sample sampleLibs ⟨rfl, rfl⟩ .sample .sample
    ["sensor", "weather", "storm 🌩"] _ rfl _ (.inl rfl) _

/-- **`send_alert` makes the server lock the client that it is given exactly if the type is a threat
and the server reads the text whole; no arguments of the script make it lock anyone.** -/
theorem sensor_lock_target (F : Doubles) (L : Libs) (hjson : L.Nlohmann F) :
    (∀ alertType message clientId k,
      lockTarget L ((SensorSimulator.sendAlert alertType message clientId).take k) =
        if (SensorSimulator.sendAlert alertType message clientId).length ≤ k ∧ isThreat alertType then
          clientId.filter (· ≠ "")
        else none) ∧
    ∀ argv text, SensorSimulator.main argv = some text →
      ∀ k, lockTarget L (text.take k) = none := by
  obtain ⟨L, rfl⟩ := hjson.standard
  have htake : ∀ alertType message clientId k,
      lockTarget (L.standard F) ((SensorSimulator.sendAlert alertType message clientId).take k) =
        if (SensorSimulator.sendAlert alertType message clientId).length ≤ k ∧ isThreat alertType then
          clientId.filter (· ≠ "")
        else none := by
    intro alertType message clientId k
    by_cases hk : (SensorSimulator.sendAlert alertType message clientId).length ≤ k
    · rw [List.take_of_length_le hk, lockTarget_sendAlert]
      simp only [hk, true_and]
    · have hcut : (L.standard F).parse
          ((SensorSimulator.sendAlert alertType message clientId).take k) = none :=
        parse_jsonDumps_cut F _ (Nat.lt_of_not_le hk)
      rw [if_neg fun h => hk h.1]
      unfold lockTarget alertFields
      rw [hcut]
  refine ⟨htake, fun argv text hmain k => ?_⟩
  obtain ⟨program, alertType, message, rest, rfl, rfl⟩ := SensorSimulator.main_eq_some hmain
  rw [htake]
  exact ite_self none

/-! An infection that is reported with the name of a client. -/

theorem infection_locks_alice :
    lockTarget sampleLibs ((SensorSimulator.sendAlert "infection" "m" (some "alice")).take 255) =
      some "alice" ∧
    lockTarget sampleLibs ((SensorSimulator.sendAlert "infection" "m" none).take 255) = none := by
  obtain ⟨hfunction, hscript⟩ := sensor_lock_target .sample sampleLibs ⟨rfl, rfl⟩
  refine ⟨(hfunction "infection" "m" (some "alice") 255).trans (by decide +kernel), ?_⟩
  exact hscript ["sensor", "infection", "m", "alice"] _ rfl 255

end Logistics
