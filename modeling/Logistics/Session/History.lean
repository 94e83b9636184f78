import Logistics.Lib.NewestFirst
import Logistics.Session.Audit
import Logistics.Session.Quantity

/-!
# The history of a client

`get_history` shows the log entries that `Inventory` made for the client, by their timestamps, the
greatest first.  `Inventory` logs a successful update, and a request for the whole inventory as well;
a timestamp counts seconds, and the entries of one second keep the order in which they were made.

A run of messages, alerts and restarts carries the updates of one client that were answered with
success (`Ledger`).

* `rows_message_update`, `rows_message_summary`   what an input adds to the entries of the client;
* `HistoryRight`        a `get_history` would show one entry for each update, the newest first;
* `Disturbs`            a `get_inventory`, or an update that the clock does not set apart;
* `history_exact_iff`   **the history is right throughout a run exactly if nothing disturbs it**.
-/

namespace Logistics
open Runs NewestFirst

/-! ## the entries of a client -/

def inventoryRows (me : String) (j : Journal) : List LogRow :=
  j.logs.filter fun row => row.clientId = some me ∧ row.component = "Inventory"

def SameRows (me : String) (s s' : St) : Prop :=
  inventoryRows me s'.journal = inventoryRows me s.journal

instance (me : String) : IsPreorder St (SameRows me) where
  refl _ := rfl
  trans _ _ _ h h' := h'.trans h

/-- an entry under another name or for somebody else -/
theorem sameRows_logged {me : String} (s : St) (level : LogLevel) {component : String}
    (message : String) {clientId : Option String}
    (h : ¬ (clientId = some me ∧ component = "Inventory")) :
    SameRows me s (s.logged level component message clientId) := by
  unfold SameRows inventoryRows
  rw [St.logged_eq]
  show List.filter _ (s.journal.logs ++ _) = _
  rw [List.filter_append]
  unfold St.loggedRow
  split_ifs with hrefused
  · exact List.append_nil _
  · rw [Option.toList_some, List.filter_singleton, decide_eq_false h]
    exact List.append_nil _

theorem sameRows_routine (me : String) : Routine (SameRows me) where
  next _ := rfl
  core _ _ _ := rfl
  messages _ _ := rfl
  reconnections _ _ := rfl
  plain s level _ message := sameRows_logged s level message fun h => by cases h.1

theorem sameRows_sends (me message : String) : Sending (SameRows me) message :=
  ⟨fun _ _ => rfl, fun _ => rfl, fun cfg user =>
    pushEvent_routine (sameRows_routine me) (fun _ _ => rfl) cfg user _⟩

theorem sameRows_notes {me component id : String} (h : id ≠ me ∨ component ≠ "Inventory") :
    Notes (SameRows me) component id := by
  intro s level message
  refine sameRows_logged s level message ?_
  rintro ⟨hid, hcomponent⟩
  rcases h with h | h
  · exact h (Option.some.inj hid)
  · exact h hcomponent

theorem sameRows_count (me : String) : (incrementError .tcp .rx).Keeps (SameRows me) := fun _ => rfl

/-- an entry of `Inventory` for a user -/
theorem inventoryRows_logged {me : String} {s : St} (hhealthy : s.Healthy)
    (huser : (s.core.users.find? me).isSome) (level : LogLevel) (message : String) :
    inventoryRows me (s.logged level "Inventory" message (some me)).journal =
      inventoryRows me s.journal ++
        [⟨formatDate (s.env 0).time, levelToString level, "Inventory", message, some me⟩] := by
  unfold inventoryRows
  rw [St.logged_eq]
  show List.filter _ (s.journal.logs ++ _) = _
  have hstored : ¬ ((s.env 1).fails = true ∨
      ((some me).any fun c => (s.core.users.find? c).isNone) = true) := by
    rw [hhealthy 1]
    simp [Option.isSome_iff_ne_none.mp huser]
  unfold St.loggedRow
  rw [if_neg hstored, List.filter_append, Option.toList_some, List.filter_singleton]
  simp

/-! ## updates -/

structure Update where
  category : String
  item : String
  quantity : Int32
  time : Int
  deriving DecidableEq, Repr

/-- the entry of an update -/
def Update.row (me : String) (u : Update) : LogRow :=
  ⟨formatDate u.time, levelToString .info, "Inventory",
    "Stock succesfully updated for " ++ u.category ++ ":" ++ u.item ++ " to " ++
      toString u.quantity.toInt ++ " for client " ++ me, some me⟩

def succeeded : Except Exn ProcessResult → Bool
  | .ok (answer, _) => answer.status = some "success"
  | .error _ => false

/-- the update is logged, exactly if the call ends with success -/
def Logs (me : String) (u : Update) (s : St) (r : Except Exn ProcessResult × St) : Prop :=
  inventoryRows me r.2.journal =
    inventoryRows me s.journal ++ if succeeded r.1 = true then [u.row me] else []

/-- the call ends without success and without an entry -/
def Fails (me : String) (s : St) (r : Except Exn ProcessResult × St) : Prop :=
  succeeded r.1 = false ∧ SameRows me s r.2

section Updates
variable {L : Libs} {me : String} {u : Update} {s : St}

theorem succeeded_error (message : String) (keep : Bool) :
    succeeded (.ok ((reply L "error" message).1, keep)) = false := by
  show decide ((reply L "error" message).1.status = some "success") = false
  rw [status_reply]
  decide

theorem succeeded_success (message : String) (keep : Bool) :
    succeeded (.ok ((reply L "success" message).1, keep)) = true := by
  show decide ((reply L "success" message).1.status = some "success") = true
  rw [status_reply]
  decide

theorem logs_of_success {r : Except Exn ProcessResult} {s' : St} (h : succeeded r = true)
    (hrows : inventoryRows me s'.journal = inventoryRows me s.journal ++ [u.row me]) :
    Logs me u s (r, s') := by
  unfold Logs
  dsimp only
  rw [h, if_pos rfl]
  exact hrows

theorem Fails.logs {r : Except Exn ProcessResult × St} (h : Fails me s r) : Logs me u s r := by
  unfold Logs
  rw [h.1, if_neg Bool.false_ne_true, List.append_nil]
  exact h.2

theorem Fails.after {s' : St} {r : Except Exn ProcessResult × St} (h : Fails me s' r)
    (hs : SameRows me s s') : Fails me s r := ⟨h.1, h.2.trans hs⟩

theorem refuse_fails (message note : String) (s : St) :
    Fails me s ((refuse L message note me).run s) := by
  have hnotes : Notes (SameRows me) "CommandProcessor" me := sameRows_notes (.inr (by decide))
  have hkeeps := (refuse_ends (L := L) hnotes message note s).keeps (sameRows_count me)
  obtain ⟨s', hrun, -⟩ := run_refuse L message note me s
  rw [hrun] at hkeeps ⊢
  exact ⟨succeeded_error message true, hkeeps⟩

theorem commandFailed_fails (e : Exn) (s : St) : Fails me s ((commandFailed L me e).run s) := by
  have hkeeps := (commandFailed_ends (sameRows_routine me) (L := L) me e s).keeps (sameRows_count me)
  obtain ⟨s', hrun, -⟩ := run_commandFailed L me e s
  rw [hrun] at hkeeps ⊢
  exact ⟨succeeded_error _ true, hkeeps⟩

/-- a handler of exceptions that fails -/
theorem logs_tryCatch {p : M ProcessResult} {handler : Exn → M ProcessResult}
    (hp : Logs me u s (p.run s)) (hh : ∀ e s', Fails me s' ((handler e).run s')) :
    Logs me u s ((tryCatch p handler).run s) := by
  rw [Prog.run_tryCatch]
  generalize p.run s = r at hp ⊢
  obtain ⟨r, s'⟩ := r
  cases r with
  | ok r => exact hp
  | error e =>
    refine (Fails.after (hh e s') ?_).logs
    show inventoryRows me s'.journal = inventoryRows me s.journal
    exact hp.trans (List.append_nil _)

theorem fails_tryCatch {p : M ProcessResult} {handler : Exn → M ProcessResult}
    (hp : Fails me s (p.run s)) (hh : ∀ e s', Fails me s' ((handler e).run s')) :
    Fails me s ((tryCatch p handler).run s) := by
  rw [Prog.run_tryCatch]
  generalize p.run s = r at hp ⊢
  obtain ⟨r, s'⟩ := r
  cases r with
  | ok r => exact hp
  | error e => exact (hh e s').after hp.2

theorem updateStock_logs (category item : String) (quantity : Int32) (hhealthy : s.Healthy)
    (huser : (s.core.users.find? me).isSome) :
    Logs me ⟨category, item, quantity, (s.env 1).time⟩ s
      ((updateStock me category item quantity >>= updateStockReply L).run s) := by
  rw [Prog.run_bind]
  by_cases hneg : quantity < 0
  · rw [run_updateStock_negative me category item hneg]
    exact (Fails.after ⟨succeeded_error _ _, rfl⟩ ((sameRows_routine me).plain s _ _ _)).logs
  · cases hvalid : (validateInventory category item).success with
    | false =>
      rw [run_updateStock_invalid me hneg hvalid]
      dsimp only
      unfold updateStockReply
      rw [hvalid, if_neg Bool.false_ne_true]
      exact Fails.logs ⟨succeeded_error _ _, rfl⟩
    | true =>
      rw [run_updateStock_valid me hneg hvalid, hhealthy 0, if_neg Bool.false_ne_true]
      cases stockAfter s.core me category item quantity with
      | none => exact Fails.logs ⟨rfl, rfl⟩
      | some stock =>
        refine logs_of_success (succeeded_success _ true) ?_
        exact inventoryRows_logged (s := { s.next with core := { s.core with stock := stock } })
          hhealthy.next huser .info _

theorem handleUpdateStockCommand_logs {request : Json} {category item : String} {quantity : Int32}
    (hfields : updateFields L.floatCast request = .ok (category, item, quantity))
    (hhealthy : s.Healthy) (huser : (s.core.users.find? me).isSome) :
    Logs me ⟨category, item, quantity, (s.env 1).time⟩ s
      ((handleUpdateStockCommand L request me).run s) := by
  unfold handleUpdateStockCommand
  cases isHub me with
  | true =>
    rw [if_pos rfl]
    exact (refuse_fails _ _ s).logs
  | false =>
    rw [if_neg Bool.false_ne_true, hfields, json_ok_bind]
    refine logs_tryCatch (updateStock_logs category item quantity hhealthy huser) fun e s' => ?_
    cases e with
    | json e => exact refuse_fails _ _ s'
    | sqlite e => exact ⟨rfl, rfl⟩

theorem handleUpdateStockCommand_fails {request : Json} {e : JsonError}
    (hfields : updateFields L.floatCast request = .error e) (s : St) :
    Fails me s ((handleUpdateStockCommand L request me).run s) := by
  unfold handleUpdateStockCommand
  cases isHub me with
  | true =>
    rw [if_pos rfl]
    exact refuse_fails _ _ s
  | false =>
    rw [if_neg Bool.false_ne_true, hfields]
    exact refuse_fails _ _ s

end Updates

variable {command : String} {sid : Nat} {text : Bytes} {request : Json}

/-! ## one input -/

/-- the request for the whole inventory is logged first -/
theorem inventoryRows_getInventory {L : Libs} {me : String} {s : St} (hhealthy : s.Healthy)
    (huser : (s.core.users.find? me).isSome) :
    ∃ row, inventoryRows me ((handleGetInventoryCommand L me).run s).2.journal =
      inventoryRows me s.journal ++ [row] := by
  have hR := sameRows_routine me
  have hme : Notes (SameRows me) "CommandProcessor" me := sameRows_notes (.inr (by decide))
  refine ⟨_, Eq.trans ?_ (inventoryRows_logged hhealthy huser .info
    ("Full inventory summary requested for client " ++ me ++ "."))⟩
  unfold handleGetInventoryCommand
  rw [Prog.run_bind, run_getInventorySummary]
  generalize s.logged _ _ _ _ = s₁
  have hsummary := summaryLocked_routine hR me s₁
  generalize (summaryLocked me).run s₁ = r at hsummary ⊢
  obtain ⟨r, s₂⟩ := r
  cases r with
  | error e => exact hsummary
  | ok inventoryMap =>
    refine Eq.trans ?_ hsummary
    cases inventoryMap with
    | none =>
      refine Prog.keeps_bind (sameRows_count me) (fun _ => ?_) s₂
      exact Prog.keeps_bind (log_notes hme _ _) fun _ => Prog.keeps_pure _
    | some map => exact Prog.keeps_bind (log_notes hme _ _) (fun _ => Prog.keeps_pure _) s₂

theorem dispatch_get_inventory (L : Libs) (cfg : Config) (request : Json) (me : String) :
    dispatch L cfg request me false "get_inventory" = handleGetInventoryCommand L me := by
  unfold dispatch
  simp

theorem dispatch_get_history (L : Libs) (cfg : Config) (request : Json) (me : String) :
    dispatch L cfg request me false "get_history" = handleGetHistoryCommand L me := by
  unfold dispatch
  simp

/-- a member sends a command -/
structure Sent (L : Libs) (me command : String) (w : World) (i : Input) (sid : Nat) (text : Bytes)
    (request : Json) : Prop where
  what : i.what = .message sid text
  member : AuthenticatedAs w sid me
  parsed : L.parse text = some request
  command : request.atString "command" = .ok command

/-- the update that an input makes for `me`: an `update_stock` that is answered with success; the
clock is read when it is logged -/
def madeUpdate (L : Libs) (cfg : Config) (me : String) (w : World) (i : Input) : Option Update :=
  match i.what with
  | .alert _ => none
  | .message sid text =>
    match L.parse text with
    | none => none
    | some request =>
      if (w.core.sessions sid).isAuthenticated = true ∧ (w.core.sessions sid).clientID = me ∧
          request.atString "command" = .ok "update_stock" ∧
          succeeded ((processMessage L cfg sid text).run (w.before i)).1 = true then
        match updateFields L.floatCast request with
        | .error _ => none
        | .ok (category, item, quantity) => some ⟨category, item, quantity, (i.env 3).time⟩
      else none

section Step
variable {L : Libs} {cfg : Config} {me : String} {w : World} {i : Input}

def AsksInventory (L : Libs) (me : String) (w : World) (i : Input) : Prop :=
  ∃ sid text request, Sent L me "get_inventory" w i sid text request

theorem Sent.run (h : Sent L me command w i sid text request) :
    (processMessage L cfg sid text).run (w.before i) =
      (tryCatch (dispatch L cfg request me false command) (commandFailed L me)).run
        (received L request (w.before i)) := by
  have hrun := run_processMessage_member L cfg h.parsed (s := w.before i) h.member.1
  rw [hrun]
  have hid : ((w.before i).core.sessions sid).clientID = me := h.member.2
  rw [hid]
  unfold commandMessage
  rw [processCommand_eq_dispatch L cfg h.command]

theorem madeUpdate_update {category item : String} {quantity : Int32}
    (h : Sent L me "update_stock" w i sid text request)
    (hfields : updateFields L.floatCast request = .ok (category, item, quantity)) :
    madeUpdate L cfg me w i =
      if succeeded ((processMessage L cfg sid text).run (w.before i)).1 = true then
        some ⟨category, item, quantity, (i.env 3).time⟩ else none := by
  unfold madeUpdate
  simp only [h.what, h.parsed, h.member.1, h.member.2, h.command, hfields, true_and]

theorem madeUpdate_eq_some {u : Update} (h : madeUpdate L cfg me w i = some u) :
    ∃ sid text request, Sent L me "update_stock" w i sid text request := by
  unfold madeUpdate at h
  cases hwhat : i.what with
  | alert text =>
    rw [hwhat] at h
    cases h
  | message sid text =>
    simp only [hwhat] at h
    cases hparse : L.parse text with
    | none =>
      rw [hparse] at h
      cases h
    | some request =>
      simp only [hparse] at h
      split_ifs at h with hmade
      exact ⟨sid, text, request, hwhat, ⟨hmade.1, hmade.2.1⟩, hparse, hmade.2.2.1⟩

theorem madeUpdate_time {u : Update} (h : madeUpdate L cfg me w i = some u) :
    u.time = (i.env 3).time := by
  unfold madeUpdate at h
  split at h
  · cases h
  · split at h
    · cases h
    · split_ifs at h
      split at h
      · cases h
      · cases h
        rfl

theorem madeUpdate_none_of_command (h : Sent L me command w i sid text request)
    (hne : command ≠ "update_stock") : madeUpdate L cfg me w i = none := by
  cases hmade : madeUpdate L cfg me w i with
  | none => rfl
  | some u =>
    obtain ⟨sid', text', request', h'⟩ := madeUpdate_eq_some hmade
    have hwhat := h.what.symm.trans h'.what
    cases hwhat
    have hparse := h.parsed.symm.trans h'.parsed
    cases hparse
    have hcmd := h.command.symm.trans h'.command
    cases hcmd
    exact absurd rfl hne

theorem Sent.sameRows (_ : Sent L me command w i sid text request) :
    SameRows me (w.before i) (received L request (w.before i)) :=
  receive_routine (sameRows_routine me) L request _

theorem Sent.healthy (_ : Sent L me command w i sid text request)
    (hhealthy : ∀ n, (i.env n).fails = false) : (received L request (w.before i)).Healthy := by
  intro n
  rw [received_env]
  exact hhealthy (n + 2)

theorem Sent.user (h : Sent L me command w i sid text request) (hw : Members w) :
    ((received L request (w.before i)).core.users.find? me).isSome := by
  rw [received_core]
  exact hw sid me h.member

theorem rows_update (hw : Members w) (hhealthy : ∀ n, (i.env n).fails = false)
    (h : Sent L me "update_stock" w i sid text request) :
    inventoryRows me ((processMessage L cfg sid text).run (w.before i)).2.journal =
      inventoryRows me w.journal ++ ((madeUpdate L cfg me w i).map (Update.row me)).toList := by
  have hcatch : ∀ e s', Fails me s' ((commandFailed L me e).run s') := commandFailed_fails
  have htime : ((received L request (w.before i)).env 1).time = (i.env 3).time := by
    rw [received_env]
    rfl
  cases hfields : updateFields L.floatCast request with
  | error e =>
    have hnone : madeUpdate L cfg me w i = none := by
      unfold madeUpdate
      simp only [h.what, h.parsed, hfields]
      split_ifs <;> rfl
    rw [hnone, h.run, dispatch_update_stock]
    have hfails := fails_tryCatch
      (handleUpdateStockCommand_fails hfields (received L request (w.before i))) hcatch
    exact (hfails.2.trans h.sameRows).trans (List.append_nil _).symm
  | ok fields =>
    obtain ⟨category, item, quantity⟩ := fields
    rw [madeUpdate_update h hfields, h.run, dispatch_update_stock]
    have hlogs := logs_tryCatch
      (handleUpdateStockCommand_logs hfields (h.healthy hhealthy) (h.user hw)) hcatch
    rw [htime] at hlogs
    refine hlogs.trans ?_
    rw [h.sameRows]
    split_ifs with hsuccess
    · rfl
    · rfl

variable (cfg) in
theorem rows_message_update (hw : Members w) (hhealthy : ∀ n, (i.env n).fails = false)
    (hno : ¬ AsksInventory L me w i) :
    inventoryRows me ((perform L cfg i.what).run (w.before i)).2.journal =
      inventoryRows me w.journal ++ ((madeUpdate L cfg me w i).map (Update.row me)).toList := by
  by_cases hupdate : ∃ sid text request, Sent L me "update_stock" w i sid text request
  · obtain ⟨sid, text, request, h⟩ := hupdate
    rw [h.what, run_perform_message]
    exact rows_update hw hhealthy h
  · have hnone : madeUpdate L cfg me w i = none := by
      cases hmade : madeUpdate L cfg me w i with
      | none => rfl
      | some u => exact absurd (madeUpdate_eq_some hmade) hupdate
    have hnotes : ∀ id, Notes (SameRows me) "SessionManager" id := fun _ =>
      sameRows_notes (.inr (by decide))
    have hR := sameRows_routine me
    rw [hnone]
    refine Eq.trans ?_ (List.append_nil _).symm
    cases hwhat : i.what with
    | alert text =>
      exact processAlert_routine hR L cfg (fun text _ => sameRows_sends me text)
        (fun client _ => hnotes client) (w.before i)
    | message sid text =>
      rw [run_perform_message]
      refine processMessage_routine hR (sameRows_count me)
        (fun _ => sameRows_notes (.inr (by decide))) (fun request ha hp huses => ?_)
        fun _ client _ _ _ => hnotes client
      refine sameRows_notes (.inl fun hme => ?_)
      rcases huses with hcmd | hcmd
      · exact hno ⟨sid, text, request, hwhat, ⟨ha, hme⟩, hp, hcmd⟩
      · exact hupdate ⟨sid, text, request, hwhat, ⟨ha, hme⟩, hp, hcmd⟩

variable (cfg) in
theorem rows_message_summary (hw : Members w) (hhealthy : ∀ n, (i.env n).fails = false)
    (hasks : AsksInventory L me w i) :
    madeUpdate L cfg me w i = none ∧
      ∃ row, inventoryRows me ((perform L cfg i.what).run (w.before i)).2.journal =
        inventoryRows me w.journal ++ [row] := by
  obtain ⟨sid, text, request, h⟩ := hasks
  refine ⟨madeUpdate_none_of_command h (by decide), ?_⟩
  obtain ⟨row, hrow⟩ := inventoryRows_getInventory (L := L) (h.healthy hhealthy) (h.user hw)
  rw [h.what, run_perform_message, h.run, dispatch_get_inventory, Prog.run_tryCatch]
  refine ⟨row, Eq.trans ?_ (hrow.trans ?_)⟩
  · generalize (handleGetInventoryCommand L me).run _ = r
    obtain ⟨r, s'⟩ := r
    cases r with
    | ok r => rfl
    | error e => exact (commandFailed_fails e s').2
  · rw [h.sameRows]
    rfl

end Step

/-! ## runs -/

/-- the server, and the updates of one client that were answered with success -/
structure Ledger where
  world : World
  updates : List Update

def LifeInput.update (L : Libs) (cfg : Config) (me : String) (w : World) : LifeInput → Option Update
  | .input i => madeUpdate L cfg me w i
  | .restart _ _ => none

def ledgerStep (L : Libs) (cfg : Config) (me : String) (l : Ledger) (i : LifeInput) :
    Option Ledger :=
  (lifeStep L cfg l.world i).map fun w => ⟨w, l.updates ++ (i.update L cfg me l.world).toList⟩

/-- Whoever asks as `me` for the history is shown the entries of the updates, the newest first. -/
def HistoryRight (L : Libs) (cfg : Config) (me : String) (l : Ledger) : Prop :=
  ∀ i sid text request, Sent L me "get_history" l.world i sid text request →
    (∀ n, (i.env n).fails = false) →
    ∃ answer s', (processMessage L cfg sid text).run (l.world.before i) = (.ok (answer, true), s') ∧
      answer.body = (statusReply "success" "Inventory history retrieved.").set "data"
        (.arr (l.updates.reverse.map fun u => historyEntry (u.row me)))

/-- a request of `me` for the whole inventory, or an update of `me` whose timestamp is not greater
than that of an earlier update with another entry -/
def Disturbs (L : Libs) (cfg : Config) (me : String) (l : Ledger) : LifeInput → Prop
  | .restart _ _ => False
  | .input i => AsksInventory L me l.world i ∨ ∃ u, madeUpdate L cfg me l.world i = some u ∧
      ∃ v ∈ l.updates, ¬ (formatDate v.time < formatDate u.time ∨ v.row me = u.row me)

/-! ## what is shown -/

section Shown
variable {L : Libs} {cfg : Config} {me : String}

variable (cfg) in
theorem Sent.history {w : World} {i : Input} (h : Sent L me "get_history" w i sid text request)
    (hhealthy : ∀ n, (i.env n).fails = false) :
    ∃ s', (processMessage L cfg sid text).run (w.before i) =
      (.ok (.dumped L ((statusReply "success" "Inventory history retrieved.").set "data"
        (.arr ((newestFirst LogRow.timestamp (inventoryRows me w.journal)).map historyEntry))),
        true), s') := by
  have hshown : historyOf (received L request (w.before i)).journal.logs me =
      newestFirst LogRow.timestamp (inventoryRows me w.journal) :=
    congrArg (newestFirst LogRow.timestamp) h.sameRows
  rw [h.run, dispatch_get_history, Prog.run_tryCatch]
  unfold handleGetHistoryCommand
  rw [Prog.run_bind, run_getInventoryHistoryTransaction, h.healthy hhealthy 0,
    if_neg Bool.false_ne_true, hshown]
  dsimp only
  rw [Prog.run_bind, run_log]
  exact ⟨_, rfl⟩

theorem historyEntry_inj {a b : LogRow} (h : historyEntry a = historyEntry b)
    (hid : a.clientId = b.clientId) : a = b := by
  have hentry : ∀ row : LogRow, historyEntry row = .obj [("component", .str row.component),
      ("level", .str row.level), ("message", .str row.message),
      ("timestamp", .str row.timestamp)] := fun _ => rfl
  rw [hentry, hentry] at h
  obtain ⟨timestamp, level, component, message, clientId⟩ := a
  obtain ⟨timestamp', level', component', message', clientId'⟩ := b
  simp_all

variable (me) in
/-- the entries of one client can be told from what is shown -/
theorem eq_of_historyEntries {l l' : List LogRow} (hl : ∀ row ∈ l, row.clientId = some me)
    (hl' : ∀ row ∈ l', row.clientId = some me)
    (h : l.map historyEntry = l'.map historyEntry) : l = l' := by
  induction l generalizing l' with
  | nil => exact (List.map_eq_nil_iff.mp h.symm).symm
  | cons a l ih =>
    cases l' with
    | nil => cases h
    | cons b l' =>
      obtain ⟨ha, hl⟩ := List.forall_mem_cons.mp hl
      obtain ⟨hb, hl'⟩ := List.forall_mem_cons.mp hl'
      obtain ⟨hhead, htail⟩ := List.cons.inj h
      rw [historyEntry_inj hhead (ha.trans hb.symm), ih hl hl' htail]

theorem inventoryRows_clientId {j : Journal} : ∀ row ∈ inventoryRows me j, row.clientId = some me := by
  intro row hrow
  have hfilter := (List.mem_filter.mp hrow).2
  exact (of_decide_eq_true hfilter).1

theorem historyRight_of_shown {l : Ledger}
    (hshown : newestFirst LogRow.timestamp (inventoryRows me l.world.journal) =
      (l.updates.map (Update.row me)).reverse) : HistoryRight L cfg me l := by
  intro i sid text request h hhealthy
  obtain ⟨s', hrun⟩ := h.history cfg hhealthy
  refine ⟨_, s', hrun, ?_⟩
  rw [hshown, ← List.map_reverse, List.map_map]
  rfl

theorem shown_of_historyRight {l : Ledger} {i : Input}
    (h : Sent L me "get_history" l.world i sid text request)
    (hhealthy : ∀ n, (i.env n).fails = false) (hright : HistoryRight L cfg me l) :
    newestFirst LogRow.timestamp (inventoryRows me l.world.journal) =
      (l.updates.map (Update.row me)).reverse := by
  have hdata : ∀ v, ((statusReply "success" "Inventory history retrieved.").set "data" v).field?
      "data" = some v := by
    intro v
    rw [statusReply_eq]
    exact lookup_setKey_self "data" v _
  obtain ⟨s', hrun⟩ := h.history cfg hhealthy
  obtain ⟨answer, s'', hrun', hbody⟩ := hright i sid text request h hhealthy
  rw [hrun] at hrun'
  cases hrun'
  have hfield := congrArg (Json.field? · "data") hbody
  dsimp only [Reply.dumped] at hfield
  rw [hdata, hdata] at hfield
  have hentries := Json.arr.inj (Option.some.inj hfield)
  have hcompose : (l.updates.reverse.map fun u => historyEntry (u.row me)) =
      (l.updates.map (Update.row me)).reverse.map historyEntry := by
    rw [← List.map_reverse, List.map_map]
    rfl
  rw [hcompose] at hentries
  refine eq_of_historyEntries me (fun row hrow => ?_) (fun row hrow => ?_) hentries
  · exact inventoryRows_clientId row ((List.perm_insertionSort _ _).mem_iff.mp hrow)
  · obtain ⟨u, -, rfl⟩ := List.mem_map.mp (List.mem_reverse.mp hrow)
    rfl

end Shown

/-! ## the runs with a right history -/

/-- the invariant of a run in which nothing disturbed the history -/
structure Ledger.Kept (me : String) (l : Ledger) : Prop where
  members : Members l.world
  rows : inventoryRows me l.world.journal = l.updates.map (Update.row me)
  climbs : Climbs LogRow.timestamp (l.updates.map (Update.row me))

section Kept
variable {L : Libs} {cfg : Config} {me : String} {l l' : Ledger}

theorem Ledger.Kept.right (h : l.Kept me) : HistoryRight L cfg me l := by
  apply historyRight_of_shown
  rw [h.rows]
  exact newestFirst_of_climbs h.climbs

theorem Ledger.Kept.restart (h : l.Kept me) {ips : Nat → String} {env : Nat → Answer}
    (hstep : ledgerStep L cfg me l (.restart ips env) = some l') : l'.Kept me := by
  cases hstep
  have hsame := setupServer_routine (sameRows_routine me) L ((l.world.reopened ips).facing env)
  have hupdates : l.updates ++ (LifeInput.update L cfg me l.world (.restart ips env)).toList =
      l.updates := List.append_nil _
  constructor
  · exact members_restart L ips env l.world
  · rw [hupdates]
    exact Eq.trans hsame h.rows
  · rw [hupdates]
    exact h.climbs

/-- the entries of the updates, one more perhaps -/
theorem map_row_concat (updates : List Update) (u : Update) :
    (updates ++ [u]).map (Update.row me) = updates.map (Update.row me) ++ [u.row me] := by
  rw [List.map_append]
  rfl

theorem Ledger.Kept.input (h : l.Kept me) {i : Input} (hhealthy : ∀ n, (i.env n).fails = false)
    (hno : ¬ Disturbs L cfg me l (.input i))
    (hstep : ledgerStep L cfg me l (.input i) = some l') : l'.Kept me := by
  obtain ⟨hasks, hlater⟩ := not_or.mp hno
  have hmembers : lifeStep L cfg l.world (.input i) = some l'.world := by
    cases hstep
    rfl
  have hrows := rows_message_update cfg h.members hhealthy hasks
  cases hstep
  refine ⟨members_lifeStep h.members hmembers, ?_, ?_⟩
  · refine hrows.trans ?_
    rw [h.rows, List.map_append]
    show _ = _ ++ List.map _ (madeUpdate L cfg me l.world i).toList
    cases madeUpdate L cfg me l.world i with
    | none => rfl
    | some u => rfl
  · show Climbs _ (List.map _ (l.updates ++ (madeUpdate L cfg me l.world i).toList))
    cases hmade : madeUpdate L cfg me l.world i with
    | none =>
      rw [Option.toList_none, List.append_nil]
      exact h.climbs
    | some u =>
      rw [Option.toList_some, map_row_concat]
      refine climbs_concat.mpr ⟨h.climbs, fun row hrow => ?_⟩
      obtain ⟨v, hv, rfl⟩ := List.mem_map.mp hrow
      by_contra hbad
      exact hlater ⟨u, hmade, v, hv, hbad⟩

end Kept

/-! Someone who is logged in can ask. -/

def historyRequest : Json := .obj [("command", .str "get_history")]

def historyInput (F : Doubles) (sid : Nat) : Input :=
  ⟨.message sid (bytesOf (historyRequest.dump F)), healthy⟩

theorem historyRequest_canonical : historyRequest.Canonical :=
  .obj (show ["command"].Pairwise (· < ·) by decide) (List.forall_mem_singleton.mpr (.str _))

theorem sent_history (L : Libs) (F : Doubles) {me : String} {w : World}
    (h : AuthenticatedAs w sid me) : Sent (L.standard F) me "get_history" w (historyInput F sid) sid
      (bytesOf (historyRequest.dump F)) historyRequest where
  what := rfl
  member := h
  parsed := by
    rw [Libs.standard_parse]
    exact parse_dump F historyRequest_canonical
  command := rfl

theorem Sent.stays {L : Libs} (cfg : Config) {me : String} {w : World} {i : Input}
    (h : Sent L me command w i sid text request) :
    AuthenticatedAs ((perform L cfg i.what).run (w.before i)).2.world sid me :=
  (authenticatedAs_step (stepped_after L cfg w i) sid me).mpr (.inl h.member)

theorem Ledger.Kept.lost {L : Libs} {F : Doubles} {cfg : Config} {me : String} {l l' : Ledger}
    (h : l.Kept me) {i : Input} (hhealthy : ∀ n, (i.env n).fails = false)
    (hbad : Disturbs (L.standard F) cfg me l (.input i))
    (hstep : ledgerStep (L.standard F) cfg me l (.input i) = some l') :
    ¬ HistoryRight (L.standard F) cfg me l' := by
  intro hright
  cases hstep
  rcases hbad with hasks | ⟨u, hmade, v, hv, hlater⟩
  · obtain ⟨hnone, row, hrow⟩ := rows_message_summary cfg h.members hhealthy hasks
    obtain ⟨sid, text, request, hsent⟩ := hasks
    have hshown := shown_of_historyRight (sent_history L F (hsent.stays cfg)) (fun _ => rfl) hright
    -- there is one entry more than there are updates
    have hlength : (inventoryRows me ((perform (L.standard F) cfg i.what).run
        (l.world.before i)).2.journal).length =
        (l.updates ++ (madeUpdate (L.standard F) cfg me l.world i).toList).length := by
      have hboth := congrArg List.length hshown
      rwa [newestFirst, List.length_insertionSort, List.length_reverse, List.length_map] at hboth
    rw [hrow, hnone, h.rows, List.length_append, List.length_map, Option.toList_none,
      List.append_nil, List.length_singleton] at hlength
    omega
  · have hno : ¬ AsksInventory (L.standard F) me l.world i := by
      intro hasks
      rw [(rows_message_summary cfg h.members hhealthy hasks).1] at hmade
      cases hmade
    obtain ⟨sid, text, request, hsent⟩ := madeUpdate_eq_some hmade
    have hshown := shown_of_historyRight (sent_history L F (hsent.stays cfg)) (fun _ => rfl) hright
    have hrows := rows_message_update cfg h.members hhealthy hno
    rw [hmade, h.rows] at hrows
    have hreversed : newestFirst LogRow.timestamp (l.updates.map (Update.row me) ++ [u.row me]) =
        (l.updates.map (Update.row me) ++ [u.row me]).reverse := by
      rw [← map_row_concat]
      refine Eq.trans ?_ (hshown.trans ?_)
      · rw [map_row_concat]
        exact congrArg (newestFirst LogRow.timestamp) hrows.symm
      · have hupdates : l.updates ++ (madeUpdate (L.standard F) cfg me l.world i).toList =
            l.updates ++ [u] := by rw [hmade, Option.toList_some]
        exact congrArg (fun updates => (updates.map (Update.row me)).reverse) hupdates
    have hlast := (newestFirst_concat_iff h.climbs).mp hreversed (v.row me) (List.mem_map_of_mem hv)
    exact hlater hlast

/-- **Over a database that answers, the history of a client is its successful updates, the newest
first, throughout a run exactly if the client does not ask for the whole inventory and each of its
updates has a greater timestamp than its earlier ones with another entry.** -/
theorem history_exact_iff (L : Libs) (F : Doubles) (hjson : L.Nlohmann F) (cfg : Config)
    (me : String) (core : Core) (journal : Journal) (ips : Nat → String)
    (hstart : ∀ row ∈ journal.logs, row.component ≠ "Inventory") (inputs : List LifeInput)
    (hhealthy : ∀ i ∈ inputs, i.Healthy) :
    Always (ledgerStep L cfg me) ⟨.start core journal ips, []⟩ inputs
        (HistoryRight L cfg me) ↔
      ¬ Occurred (ledgerStep L cfg me) ⟨.start core journal ips, []⟩ inputs
        (Disturbs L cfg me) := by
  obtain ⟨L, rfl⟩ := hjson.standard
  have hkept : Ledger.Kept me ⟨.start core journal ips, []⟩ := by
    refine ⟨?_, ?_, List.Pairwise.nil⟩
    · rintro sid user ⟨hauth, -⟩
      cases hauth
    · refine List.filter_eq_nil_iff.mpr fun row hrow hown => ?_
      exact hstart row hrow (of_decide_eq_true hown).2
  refine always_iff_never (K := Ledger.Kept me) hhealthy hkept (fun _ h => h.right) ?_ ?_ ?_
  · intro l i _
    cases i with
    | input i => exact ⟨_, rfl⟩
    | restart ips env => exact ⟨_, rfl⟩
  · intro l i l' h hi hno hstep
    cases i with
    | input i => exact h.input hi hno hstep
    | restart ips env => exact h.restart hstep
  · intro l i l' h hi hbad hstep
    cases i with
    | input i => exact h.lost hi hbad hstep
    | restart ips env => exact hbad.elim

/-! ## a clock that goes on -/

/-- what the clock shows when an update of the input is logged -/
def LifeInput.date : LifeInput → String
  | .input i => formatDate (i.env 3).time
  | .restart _ env => formatDate (env 3).time

/-- nobody asks for the whole inventory -/
def LifeInput.Modest (L : Libs) : LifeInput → Prop
  | .restart _ _ => True
  | .input i => ∀ sid text request, i.what = .message sid text → L.parse text = some request →
      request.atString "command" ≠ .ok "get_inventory"

section Clock
variable {L : Libs} {cfg : Config} {me : String}

theorem updates_dates {l₀ l : Ledger} {inputs : List LifeInput} (h₀ : l₀.updates = [])
    (hrun : runFrom (ledgerStep L cfg me) l₀ inputs = some l) :
    ∀ v ∈ l.updates, ∃ i ∈ inputs, formatDate v.time = i.date := by
  refine runFrom_induction (P := fun is l => ∀ v ∈ l.updates, ∃ i ∈ is, formatDate v.time = i.date)
    ?_ ?_ inputs l hrun
  · intro v hv
    rw [h₀] at hv
    cases hv
  · intro is l i l' _ ih hstep v hv
    obtain ⟨w, -, rfl⟩ := Option.map_eq_some_iff.mp hstep
    rcases List.mem_append.mp hv with hv | hv
    · obtain ⟨j, hj, hdate⟩ := ih v hv
      exact ⟨j, List.mem_append_left _ hj, hdate⟩
    · refine ⟨i, List.mem_append_right _ (List.mem_singleton_self i), ?_⟩
      cases i with
      | input i => exact congrArg formatDate (madeUpdate_time (Option.mem_toList.mp hv))
      | restart ips env => cases hv

/-- **Inputs at ever later seconds, none of which asks for the whole inventory, disturb no
history.** -/
theorem not_disturbed_of_clock {l₀ : Ledger} {inputs : List LifeInput} (h₀ : l₀.updates = [])
    (hclock : inputs.Pairwise fun i j => i.date < j.date) (hmodest : ∀ i ∈ inputs, i.Modest L) :
    ¬ Occurred (ledgerStep L cfg me) l₀ inputs (Disturbs L cfg me) := by
  rintro ⟨before, i, after, l, rfl, hrun, hbad⟩
  cases i with
  | restart ips env => exact hbad
  | input i =>
    rcases hbad with ⟨sid, text, request, hsent⟩ | ⟨u, hmade, v, hv, hlater⟩
    · exact hmodest (.input i) (by simp) sid text request hsent.what hsent.parsed hsent.command
    · obtain ⟨j, hj, hdate⟩ := updates_dates h₀ hrun v hv
      have hlt := (List.pairwise_append.mp hclock).2.2 j hj (.input i) List.mem_cons_self
      refine hlater (.inl ?_)
      rw [hdate, madeUpdate_time hmade]
      exact hlt

end Clock

/-! Alice and bob log in and report water, alice twice. -/

def textAt (time : Int) (sid : Nat) (text : Bytes) : LifeInput :=
  .input ⟨.message sid text, answersAt time⟩

def waterReports : List LifeInput :=
  [textAt 0 0 (bytesOf ((credentials "alice" "secret").dump .sample)),
    textAt 1 1 (bytesOf ((credentials "bob" "hunter2").dump .sample)),
    textAt 2 0 (waterText .sample 5), textAt 3 1 (waterText .sample 6),
    textAt 4 0 (waterText .sample 7)]

def twoClients : World := .start (.boot twoUsers .empty fun _ => "") .empty fun _ => "10.0.0.1"

theorem textAt_modest {time : Int} (hparse : sampleLibs.parse text = some request)
    (hcommand : request.atString "command" ≠ .ok "get_inventory") :
    (textAt time sid text).Modest sampleLibs := by
  intro sid' text' request' hwhat hparse'
  cases hwhat
  cases hparse.symm.trans hparse'
  exact hcommand

theorem history_exact_twice :
    (runFrom (ledgerStep sampleLibs .sample "alice") ⟨twoClients, []⟩ waterReports).map
        Ledger.updates = some [⟨"food", "water", 5, 2⟩, ⟨"food", "water", 7, 4⟩] ∧
      Always (ledgerStep sampleLibs .sample "alice") ⟨twoClients, []⟩ waterReports
        (HistoryRight sampleLibs .sample "alice") := by
  refine ⟨by decide +kernel,
    (history_exact_iff sampleLibs .sample ⟨rfl, rfl⟩ .sample "alice" _ .empty _ ?_ _ ?_).mpr ?_⟩
  · exact fun row hrow => absurd hrow List.not_mem_nil
  · simp only [waterReports, List.forall_mem_cons]
    exact ⟨fun _ => rfl, fun _ => rfl, fun _ => rfl, fun _ => rfl, fun _ => rfl, nofun⟩
  · refine not_disturbed_of_clock rfl (by decide +kernel) ?_
    simp only [waterReports, List.forall_mem_cons]
    refine ⟨textAt_modest (sampleLibs_parse (credentials_canonical ..)) (by decide),
      textAt_modest (sampleLibs_parse (credentials_canonical ..)) (by decide),
      textAt_modest (parse_waterText (.known []) .sample (by decide)) (by decide),
      textAt_modest (parse_waterText (.known []) .sample (by decide)) (by decide),
      textAt_modest (parse_waterText (.known []) .sample (by decide)) (by decide), nofun⟩

/-! Six units reported in the same second, or the whole inventory asked for. -/

def inventoryRequest : Json := .obj [("command", .str "get_inventory")]

def ledgerLibs : Libs := .known [aliceLogin, updateRequest "food" "water" 5,
  updateRequest "food" "water" 6, inventoryRequest, historyRequest]

def spoken (request : Json) : Input := ⟨.message 0 (bytesOf request.render), healthy⟩

def sameSecond : List LifeInput := [.input (spoken aliceLogin),
  .input (spoken (updateRequest "food" "water" 5)), .input (spoken (updateRequest "food" "water" 6))]

def onlyAsked : List LifeInput := [.input (spoken aliceLogin), .input (spoken inventoryRequest)]

/-- what `get_history` shows after a run, and the updates of the run -/
def historyAfter (inputs : List LifeInput) : Option (List Update × Option Json) :=
  (runFrom (ledgerStep ledgerLibs .sample "alice") ⟨aliceStart, []⟩ inputs).map fun l =>
    (l.updates, match (processMessage ledgerLibs .sample 0 (bytesOf historyRequest.render)).run
        (l.world.before (spoken historyRequest)) with
      | (.ok (answer, _), _) => answer.body.field? "data"
      | (.error _, _) => none)

theorem same_second_is_not_reversed :
    historyAfter sameSecond = some ([⟨"food", "water", 5, 0⟩, ⟨"food", "water", 6, 0⟩],
      some (.arr [historyEntry (Update.row "alice" ⟨"food", "water", 5, 0⟩),
        historyEntry (Update.row "alice" ⟨"food", "water", 6, 0⟩)])) ∧
    historyAfter onlyAsked = some ([], some (.arr [historyEntry ⟨formatDate 0, "INFO", "Inventory",
      "Full inventory summary requested for client alice.", some "alice"⟩])) :=
  ⟨rfl, rfl⟩

end Logistics
