import Logistics.Session.System

/-!
# Alert locks and sessions that are already logged in

An alert locks the client it names.  The lock keeps the client from logging in: while the flag is
set every `authenticate` for it is refused (`lockedOut_run`).  It does nothing to a session that is
logged in already: the command path reads neither the flag nor `m_lockedClients`, so `update_stock`
goes through there as before (`updateSucceeds_of_member`).

* `LockBinds`              until its unlock, no message of the client changes the inventory;
* `alert_lock_binds_iff`   **the lock binds exactly a hub and a client that is nowhere logged in**.
-/

namespace Logistics
open Runs

/-- the message asks for `update_stock` and is answered with success -/
def UpdateSucceeds (L : Libs) (cfg : Config) (sid : Nat) (text : Bytes) (s : St) : Prop :=
  ∃ request answer keep, L.parse text = some request ∧
    request.atString "command" = .ok "update_stock" ∧
    ((processMessage L cfg sid text).run s).1 = .ok (answer, keep) ∧
    answer.status = some "success"

/-- from `w` on, and until `client` is unlocked, its sessions cannot touch the inventory -/
def LockBinds (L : Libs) (cfg : Config) (client : String) (w : World) : Prop :=
  ∀ more w', runFrom (step L cfg) w more = some w' →
    ¬ Occurred (step L cfg) w more (Unlocks L cfg client) →
    ∀ i sid text, i.what = .message sid text → AuthenticatedAs w' sid client →
      (∀ key, (after L cfg w' i).stock.find? key = w'.core.stock.find? key) ∧
      ¬ UpdateSucceeds L cfg sid text (w'.before i)

section
variable {L : Libs} {cfg : Config} {client : String}

/-! ## the login gate -/

/-- the client is flagged and nowhere logged in -/
def LockedOut (client : String) (w : World) : Prop :=
  Flagged w.core client ∧ ∀ sid, ¬ AuthenticatedAs w sid client

theorem flagged_step {w w' : World} {i : Input} (hf : Flagged w.core client)
    (hno : ¬ Unlocks L cfg client w i) (h : step L cfg w i = some w') : Flagged w'.core client := by
  rcases (step_cases h).locks with hkeeps | ⟨user, hunlocks, hothers, -⟩
  · exact hkeeps.flagged client hf
  · refine hothers client ?_ hf
    rintro rfl
    exact hno hunlocks

theorem not_logsIn_of_flagged {w w' : World} {i : Input} (hf : Flagged w.core client)
    (h : step L cfg w i = some w') (sid : Nat) : ¬ LogsIn L cfg sid client w i := by
  intro hlogin
  rcases (step_cases h).sessions with ⟨-, hno⟩ | ⟨sid₀, user₀, row, hlogin₀, hrow, hl, -⟩
  · exact hno sid client hlogin
  · obtain ⟨-, rfl⟩ := hlogin₀.unique hlogin
    obtain ⟨row', hrow', hl'⟩ := hf
    rw [hrow] at hrow'
    cases hrow'
    rw [hl] at hl'
    cases hl'

theorem lockedOut_step {w w' : World} {i : Input} (hw : LockedOut client w)
    (hno : ¬ Unlocks L cfg client w i) (h : step L cfg w i = some w') : LockedOut client w' := by
  refine ⟨flagged_step hw.1 hno h, ?_⟩
  intro sid hauth
  rcases (authenticatedAs_step (step_cases h) sid client).mp hauth with hauth' | hlogin
  · exact hw.2 sid hauth'
  · exact not_logsIn_of_flagged hw.1 h sid hlogin

/-- **A locked client that is nowhere logged in stays so until it is unlocked.** -/
theorem lockedOut_run {w : World} (hw : LockedOut client w) :
    ∀ more w', runFrom (step L cfg) w more = some w' →
      ¬ Occurred (step L cfg) w more (Unlocks L cfg client) → LockedOut client w' := by
  refine runFrom_induction (P := fun more w' =>
    ¬ Occurred (step L cfg) w more (Unlocks L cfg client) → LockedOut client w') ?_ ?_
  · exact fun _ => hw
  · intro more w₁ i w₂ hrun ih hstep hno
    rw [occurred_concat hrun, not_or] at hno
    exact lockedOut_step (ih hno.1) hno.2 hstep

/-! ## the command path -/

theorem commandMessage_updateStock {me : String} {request : Json}
    (hcmd : request.atString "command" = .ok "update_stock") :
    commandMessage L cfg me request =
      tryCatch (handleUpdateStockCommand L request me) (commandFailed L me) := by
  have hfield : ∃ command, request.field? "command" = some command ∧
      command.getString = .ok "update_stock" := by
    unfold Json.atString at hcmd
    cases hat : request.atKey "command" with
    | error e => simp [hat] at hcmd
    | ok command =>
      rw [hat] at hcmd
      exact ⟨command, Json.atKey_eq_ok_iff.mp hat, hcmd⟩
  obtain ⟨command, hfield, hs⟩ := hfield
  unfold commandMessage processCommand
  rw [hfield]
  dsimp only
  rw [hs, json_ok_bind]
  rfl

/-- a hub gets an error -/
theorem not_updateSucceeds_of_hub {sid : Nat} {text : Bytes} {s : St}
    (ha : (s.core.sessions sid).isAuthenticated = true)
    (hhub : isHub (s.core.sessions sid).clientID = true) : ¬ UpdateSucceeds L cfg sid text s := by
  rintro ⟨request, answer, keep, hp, hcmd, hrun, hstatus⟩
  rw [run_processMessage_member L cfg hp ha, commandMessage_updateStock hcmd, Prog.run_tryCatch]
    at hrun
  unfold handleUpdateStockCommand refuse at hrun
  rw [if_pos hhub, Prog.run_bind, run_incrementError] at hrun
  simp only [Prog.run_bind, run_log, Prog.run_pure] at hrun
  obtain ⟨rfl, -⟩ := Prod.mk.inj (Except.ok.inj hrun)
  have herror : some "error" = some "success" := hstatus
  exact absurd herror (by decide)

/-- five units of water -/
def updateWater : Json := .obj [("command", .str "update_stock"),
  ("payload", .obj [("category", .str "food"), ("item", .str "water"), ("quantity", .int 5)])]

theorem stockAfter_water {c : Core} {row : UserRow} (hrow : c.users.find? client = some row) :
    ∃ stock, stockAfter c client "food" "water" 5 = some stock := by
  unfold stockAfter
  rw [hrow]
  have hname : 0 < sqlLength "food" ∧ 0 < sqlLength "water" := by decide
  have hcheck : stockCheck ⟨client, "food", "water"⟩ 5 :=
    ⟨(c.users.checked client row hrow).1, hname⟩
  exact ⟨_, Table.upsert?_eq_some c.stock hcheck⟩

theorem run_update_water {row : UserRow} {s : St} (hub : isHub client = false)
    (hrow : s.core.users.find? client = some row) (henv : (s.env 0).fails = false) :
    ∃ s', (handleUpdateStockCommand L updateWater client).run s =
      (.ok (reply L "success" (stockUpdated "food" "water" 5).message), s') := by
  obtain ⟨stock, hstock⟩ := stockAfter_water hrow
  have hfields : updateFields L.floatCast updateWater = .ok ("food", "water", 5) := rfl
  unfold handleUpdateStockCommand catchJson
  rw [hub, if_neg Bool.false_ne_true, hfields, json_ok_bind, Prog.run_tryCatch, Prog.run_bind,
    run_updateStock_valid client (by decide) (by decide), henv, hstock]
  exact ⟨_, rfl⟩

/-- **A session that is logged in updates its stock, locked or not.** -/
theorem updateSucceeds_of_member {w : World} {sid : Nat} {text : Bytes} {row : UserRow}
    (hparse : L.parse text = some updateWater) (hub : isHub client = false)
    (hauth : AuthenticatedAs w sid client) (hrow : w.core.users.find? client = some row)
    (i : Input) (henv : i.env = healthy) : UpdateSucceeds L cfg sid text (w.before i) := by
  obtain ⟨ha, hid⟩ := hauth
  have hid' : ((w.before i).core.sessions sid).clientID = client := hid
  have hrow' : (received L updateWater (w.before i)).core.users.find? client = some row := by
    rw [received_core]
    exact hrow
  have henv' : ((received L updateWater (w.before i)).env 0).fails = false := by
    rw [received_env]
    show (i.env 2).fails = false
    rw [henv]
    rfl
  obtain ⟨s', hrun⟩ := @run_update_water L client row _ hub hrow' henv'
  refine ⟨updateWater, (reply L "success" (stockUpdated "food" "water" 5).message).1, true, hparse,
    rfl, ?_, status_reply L "success" _⟩
  rw [run_processMessage_member L cfg hparse ha, commandMessage_updateStock rfl,
    Prog.run_tryCatch]
  rw [hid', hrun]
  rfl

/-! ## when the lock binds -/

theorem lockBinds_of_hub (hhub : isHub client = true) (w : World) : LockBinds L cfg client w := by
  intro more w' _ _ i sid text what hauth
  have hid : ((w'.before i).core.sessions sid).clientID = client := hauth.2
  refine ⟨?_, not_updateSucceeds_of_hub hauth.1 (hid ▸ hhub)⟩
  intro key
  by_contra hne
  -- the only session that can have changed the row is this one, and its client is a hub
  obtain ⟨sid', text', what', hauth', hub⟩ := (stepped_after L cfg w' i).stock hne
  rw [what] at what'
  cases what'
  rw [← hauth'.2, hauth.2, hhub] at hub
  cases hub

theorem lockBinds_of_lockedOut {w : World} (hw : LockedOut client w) : LockBinds L cfg client w := by
  intro more w' hrun hno i sid text what hauth
  exact absurd hauth ((lockedOut_run hw more w' hrun hno).2 sid)

theorem flagged_of_lockCall {w w' : World} {i : Input} {alertText : Bytes}
    (what : i.what = .alert alertText)
    (hlock : lockCall L alertText (w.before i) = some (client, .ok true))
    (hstep : step L cfg w i = some w') : Flagged w'.core client := by
  have hstepped := step_cases hstep
  generalize w'.core = c at hstepped ⊢
  cases hstepped with
  | alertLock what' call change effect =>
    rw [what] at what'
    cases what'
    rw [hlock] at call
    cases call
    exact effect.keepsLocks.flagged client change.flagged
  | alert what' noLock effect =>
    rw [what] at what'
    cases what'
    simp [lockCall, noLock] at hlock
  | login what' => rw [what] at what'; cases what'
  | guest what' => rw [what] at what'; cases what'
  | invalid what' => rw [what] at what'; cases what'
  | command what' => rw [what] at what'; cases what'

/-- **The lock binds a hub, and a client that is not logged in when it is locked, and no other.**
`text` is some text the server parses as the request `updateWater`. -/
theorem alert_lock_binds_iff {w w' : World} {i : Input} {alertText text : Bytes}
    (what : i.what = .alert alertText)
    (hlock : lockCall L alertText (w.before i) = some (client, .ok true))
    (hstep : step L cfg w i = some w') (hparse : L.parse text = some updateWater) :
    LockBinds L cfg client w' ↔
      isHub client = true ∨ ∀ sid, ¬ AuthenticatedAs w' sid client := by
  have hflag := flagged_of_lockCall what hlock hstep
  constructor
  · intro hbinds
    by_contra hnot
    rw [not_or, not_forall] at hnot
    obtain ⟨hub, sid, hauth⟩ := hnot
    rw [not_not] at hauth
    obtain ⟨row, hrow, -⟩ := hflag
    have hno := (hbinds [] w' rfl (not_occurred_nil w' _) ⟨.message sid text, healthy⟩ sid text rfl
      hauth).2
    exact hno (updateSucceeds_of_member hparse (Bool.not_eq_true _ ▸ hub) hauth hrow _ rfl)
  · rintro (hhub | hout)
    · exact lockBinds_of_hub hhub w'
    · exact lockBinds_of_lockedOut ⟨hflag, hout⟩

end

/-! The client alice is logged in when an alert locks it, and goes on to update its stock. -/

def aliceAlert : Json := .obj [("clientId", .str "alice"), ("message", .str "contact"),
  ("type", .str "infection")]

def aliceLibs : Libs := .known [aliceLogin, aliceAlert, updateWater]

def messageInput (request : Json) : Input := ⟨.message 0 (bytesOf request.render), healthy⟩

def alertInput (alert : Json) : Input := ⟨.alert (bytesOf alert.render), healthy⟩

theorem alice_loggedIn_isSome :
    (runFrom (step aliceLibs .sample) aliceStart [messageInput aliceLogin]).isSome := by
  decide

def aliceLoggedIn : World :=
  (runFrom (step aliceLibs .sample) aliceStart [messageInput aliceLogin]).get alice_loggedIn_isSome

theorem alice_locked_isSome :
    (step aliceLibs .sample aliceLoggedIn (alertInput aliceAlert)).isSome := by
  decide

def aliceLocked : World :=
  (step aliceLibs .sample aliceLoggedIn (alertInput aliceAlert)).get alice_locked_isSome

theorem alert_lock_binds_iff_alice :
    LockBinds aliceLibs .sample "alice" aliceLocked ↔
      isHub "alice" = true ∨ ∀ sid, ¬ AuthenticatedAs aliceLocked sid "alice" :=
  alert_lock_binds_iff (i := alertInput aliceAlert) rfl
    (by decide) (Option.some_get alice_locked_isSome).symm
    (show aliceLibs.parse (bytesOf updateWater.render) = some updateWater from rfl)

theorem locked_alice_updates_stock :
    lockCall aliceLibs (bytesOf aliceAlert.render) (aliceLoggedIn.before (alertInput aliceAlert)) =
        some ("alice", .ok true) ∧
      AuthenticatedAs aliceLocked 0 "alice" ∧
      UpdateSucceeds aliceLibs .sample 0 (bytesOf updateWater.render)
        (aliceLocked.before (messageInput updateWater)) ∧
      aliceLocked.core.stock.find? ⟨"alice", "food", "water"⟩ = none ∧
      (after aliceLibs .sample aliceLocked (messageInput updateWater)).stock.find?
        ⟨"alice", "food", "water"⟩ = some 5 := by
  refine ⟨by decide, ⟨by decide, by decide⟩, ⟨updateWater, _, _, rfl, rfl, rfl, rfl⟩, by decide, ?_⟩
  decide

end Logistics
