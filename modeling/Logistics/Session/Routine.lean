import Logistics.Session.Rows

/-!
# What the calls below a handler do to the journal

A handler answers with an error or not; in between it calls the storage, the inventory, the
authenticator and the registry.  None of those counts an error on `(tcp, rx)`, and each of them
logs under a component and for a client that can be read off its text.

A relation `R` between states is `Routine` if it bears everything such a call may do besides
logging for a client and sending: database calls, changes of the core that remove no user and leave
the queues of events and the addresses alone, the other counters, and log entries for no one.
`Notes R component id` means that it bears a log entry of `component` for `id`, and
`Sending R message` that it bears a datagram with the message, or an event.

* `updateStock_routine`, `authenticate_routine`, `processAlert_routine`, ...   one lemma per call;
* `Ends R p`                `p` does what `R` bears and counts its error;
* `processCommand_ends`     **every command but `register_user` does**;
* `processMessage_guest_ends`, `processMessage_member_ends`   **so does every message**;
* `processMessage_routine`  a message as a whole.
-/

set_option linter.unusedSectionVars false

namespace Logistics

structure CallChange (c c' : Core) : Prop where
  users : UsersKept c c'
  queues : c'.eventQueueMap = c.eventQueueMap
  addresses : ∀ sid, (c'.sessions sid).udpAddress = (c.sessions sid).udpAddress

theorem CallChange.refl (c : Core) : CallChange c c := ⟨fun _ => id, rfl, fun _ => rfl⟩

structure Routine (R : St → St → Prop) : Prop where
  next : ∀ s, R s s.next
  core : ∀ s c, CallChange s.core c → R s { s with core := c }
  messages : ∀ s messages, R s { s with journal := { s.journal with messages := messages } }
  reconnections : ∀ s reconnections,
    R s { s with journal := { s.journal with reconnections := reconnections } }
  plain : ∀ s level component message, R s (s.logged level component message none)

structure Sending (R : St → St → Prop) (message : String) : Prop where
  datagram : ∀ s address, R s { s with
    journal := { s.journal with datagrams := s.journal.datagrams ++ [(address, message)] } }
  udpError : ∀ s, R s ((incrementError .udp .tx).run s).2
  push : ∀ cfg user, (pushEvent cfg user ⟨message⟩).Keeps R

/-- log entries of `component` for `id` -/
def Notes (R : St → St → Prop) (component id : String) : Prop :=
  ∀ s level message, R s (s.logged level component message (some id))

section Calls
variable {R : St → St → Prop} [IsPreorder St R]

theorem log_notes {component id : String} (h : Notes R component id) (level : LogLevel)
    (message : String) : (log level component message (some id)).Keeps R := by
  intro s
  rw [run_log]
  exact h s level message

variable (hR : Routine R)
include hR

theorem log_plain (level : LogLevel) (component message : String) :
    (log level component message none).Keeps R := by
  intro s
  rw [run_log]
  exact hR.plain s level component message

theorem ask_routine : ask.Keeps R := hR.next

theorem setCore_routine {f : Core → Core} (h : ∀ c, CallChange c (f c)) : (setCore f).Keeps R :=
  fun s => hR.core s (f s.core) (h s.core)

theorem setSession_routine (sid : Nat) {f : Session → Session}
    (h : ∀ me, (f me).udpAddress = me.udpAddress) : (setSession sid f).Keeps R := by
  refine setCore_routine hR fun c => ⟨fun _ => id, rfl, fun sid' => ?_⟩
  show (Function.update c.sessions sid (f (c.sessions sid)) sid').udpAddress = _
  by_cases hs : sid' = sid
  · rw [hs, Function.update_self, h]
  · rw [Function.update_of_ne hs]

/-- one database call, which may change the core -/
theorem routine_of_core {α : Type} {p : M α} (h : ∀ s, ∃ r c, CallChange s.core c ∧
    p.run s = (r, { s.next with core := c })) : p.Keeps R := by
  intro s
  obtain ⟨r, c, hkept, hrun⟩ := h s
  rw [hrun]
  exact trans_of R (hR.next s) (hR.core s.next c hkept)

/-- a database call that only reads -/
theorem routine_of_next {α : Type} {p : M α} (h : ∀ s, ∃ r, p.run s = (r, s.next)) :
    p.Keeps R := by
  intro s
  obtain ⟨r, hrun⟩ := h s
  rw [hrun]
  exact hR.next s

omit hR in
theorem json_routine {α : Type} (e : Except JsonError α) : (json e).Keeps R := by
  intro s
  cases e with
  | ok a => exact refl_of R s
  | error e => exact refl_of R s

/-! ## storage -/

theorem saveStockUpdate_routine (clientId category item : String) (quantity : Int32) :
    (saveStockUpdate clientId category item quantity).Keeps R := by
  refine routine_of_core hR fun s => ?_
  rw [run_saveStockUpdate]
  split
  · exact ⟨_, s.core, .refl _, rfl⟩
  · split
    · exact ⟨_, s.core, .refl _, rfl⟩
    · rename_i stock hstock
      exact ⟨_, { s.core with stock := stock }, ⟨fun _ => id, rfl, fun _ => rfl⟩, rfl⟩

theorem storage_getStock_routine (clientId category item : String) :
    (Storage.getStock clientId category item).Keeps R :=
  routine_of_next hR fun s => ⟨_, run_storage_getStock clientId category item s⟩

theorem getFullInventory_routine (clientId : String) : (getFullInventory clientId).Keeps R :=
  routine_of_next hR fun s => ⟨_, run_getFullInventory clientId s⟩

theorem getInventoryHistoryTransaction_routine (clientId : String) :
    (getInventoryHistoryTransaction clientId).Keeps R :=
  routine_of_next hR fun s => ⟨_, run_getInventoryHistoryTransaction clientId s⟩

theorem getUserLoginData_routine (hostname : String) : (getUserLoginData hostname).Keeps R :=
  routine_of_next hR fun s => ⟨_, run_getUserLoginData hostname s⟩

theorem createUser_routine (L : Libs) (hostname password : String) :
    (createUser L hostname password).Keeps R := by
  refine routine_of_core hR fun s => ?_
  rw [run_createUser]
  split
  · exact ⟨_, s.core, .refl _, rfl⟩
  · split
    · exact ⟨_, s.core, .refl _, rfl⟩
    · rename_i users hinsert
      exact ⟨_, { s.core with users := users },
        ⟨usersKept_of_insert? hinsert, rfl, fun _ => rfl⟩, rfl⟩

omit hR [IsPreorder St R] in
theorem usersKept_of_update? {c : Core} {users : Users} {hostname : String}
    {f : UserRow → UserRow} (h : c.users.update? hostname f = some users) :
    UsersKept c { c with users := users } := by
  intro user hsome
  have hmap := congrArg Option.isSome
    (Table.map_find?_update? (g := fun _ => ()) h (fun _ => rfl) user)
  rw [Option.isSome_map, Option.isSome_map] at hmap
  exact hmap.trans hsome

theorem updateUser_routine (hostname : String) (f : UserRow → UserRow) :
    (updateUser hostname f).Keeps R := by
  refine routine_of_core hR fun s => ?_
  rw [run_updateUser]
  split
  · exact ⟨_, s.core, .refl _, rfl⟩
  · split
    · exact ⟨_, s.core, .refl _, rfl⟩
    · rename_i users hupdate
      exact ⟨_, { s.core with users := users },
        ⟨usersKept_of_update? hupdate, rfl, fun _ => rfl⟩, rfl⟩

theorem updateLoginAttempts_routine (hostname : String) (loginSuccess : Bool) (timeStamp : Int) :
    (updateLoginAttempts hostname loginSuccess timeStamp).Keeps R := by
  refine Prog.keeps_ite ?_ ?_
  · exact Prog.keeps_bind (updateUser_routine hR hostname _) fun _ => Prog.keeps_pure _
  · exact Prog.keeps_bind (updateUser_routine hR hostname _) fun _ => Prog.keeps_pure _

theorem setClientLockStatus_routine (hostname : String) (isLocked : Bool) :
    (setClientLockStatus hostname isLocked).Keeps R :=
  Prog.keeps_bind (updateUser_routine hR hostname _) fun _ => Prog.keeps_pure _

/-! ## the inventory -/

theorem updateStock_routine {me : String} (hme : Notes R "Inventory" me) (category item : String)
    (quantity : Int32) : (updateStock me category item quantity).Keeps R := by
  refine Prog.keeps_ite ?_ (Prog.keeps_ite (Prog.keeps_pure _) ?_)
  · exact Prog.keeps_bind (log_plain hR _ _ _) fun _ => Prog.keeps_pure _
  · refine Prog.keeps_bind (saveStockUpdate_routine hR _ _ _ _) fun _ => ?_
    refine Prog.keeps_bind (log_notes hme _ _) fun _ => ?_
    exact Prog.keeps_bind (setCore_routine hR fun _ => ⟨fun _ => id, rfl, fun _ => rfl⟩)
      fun _ => Prog.keeps_pure _

theorem getStock_routine (clientId category item : String) :
    (getStock clientId category item).Keeps R := by
  refine Prog.keeps_bind Prog.keeps_get fun s => ?_
  split
  · exact Prog.keeps_pure _
  · refine Prog.keeps_bind (storage_getStock_routine hR _ _ _) fun result => ?_
    cases result with
    | none => exact Prog.keeps_pure _
    | some quantity =>
      exact Prog.keeps_bind (setCore_routine hR fun _ => ⟨fun _ => id, rfl, fun _ => rfl⟩)
        fun _ => Prog.keeps_pure _

theorem summaryLocked_routine (clientId : String) : (summaryLocked clientId).Keeps R := by
  refine Prog.keeps_bind Prog.keeps_get fun s => Prog.keeps_ite (Prog.keeps_pure _) ?_
  refine Prog.keeps_bind (getFullInventory_routine hR _) fun result => ?_
  cases result with
  | none => exact Prog.keeps_pure _
  | some map =>
    exact Prog.keeps_bind (setCore_routine hR fun _ => ⟨fun _ => id, rfl, fun _ => rfl⟩)
      fun _ => Prog.keeps_pure _

theorem getInventorySummary_routine {me : String} (hme : Notes R "Inventory" me) :
    (getInventorySummary me).Keeps R :=
  Prog.keeps_bind (log_notes hme _ _) fun _ => summaryLocked_routine hR me

/-! ## users and sessions -/

theorem changeLock_routine {clientId : String} (hid : Notes R "SessionManager" clientId)
    (isLocked : Bool) (done missed : String) (change : Finset String → Finset String) :
    (changeLock isLocked done missed change clientId).Keeps R := by
  refine Prog.keeps_bind (setClientLockStatus_routine hR _ _) fun success => Prog.keeps_ite ?_ ?_
  · refine Prog.keeps_bind (log_notes hid _ _) fun _ => ?_
    exact Prog.keeps_bind (setCore_routine hR fun _ => ⟨fun _ => id, rfl, fun _ => rfl⟩)
      fun _ => Prog.keeps_pure _
  · exact Prog.keeps_bind (log_notes hid _ _) fun _ => Prog.keeps_pure _

theorem registerSession_routine (clientId : String) (session : Nat) :
    (registerSession clientId session).Keeps R := by
  refine Prog.keeps_bind (setCore_routine hR fun _ => ⟨fun _ => id, rfl, fun _ => rfl⟩) fun _ => ?_
  refine Prog.keeps_bind Prog.keeps_get fun s => Prog.keeps_ite ?_ ?_
  · exact setCore_routine hR fun _ => ⟨fun _ => id, rfl, fun _ => rfl⟩
  · exact Prog.keeps_bind (fun s => hR.reconnections s _) fun _ => log_plain hR _ _ _

theorem authenticate_routine (L : Libs) (hostname password : String) (blockDuration : Int) :
    (authenticate L hostname password blockDuration).Keeps R :=
  authenticate_keeps (log_plain hR) (ask_routine hR) (getUserLoginData_routine hR)
    (updateLoginAttempts_routine hR) L hostname password blockDuration

theorem receive_routine (L : Libs) (request : Json) : (receive L request).Keeps R :=
  Prog.keeps_bind (fun s => hR.messages s _) fun _ => log_plain hR _ _ _

theorem userExists_routine (hostname : String) : (userExists hostname).Keeps R := by
  refine routine_of_next hR fun s => ?_
  unfold userExists
  rw [Prog.run_bind, run_dbCall]
  cases (s.env 0).fails with
  | true => exact ⟨_, rfl⟩
  | false => exact ⟨_, rfl⟩

theorem setupServer_routine (L : Libs) : (setupServer L).Keeps R := by
  refine Prog.keeps_bind (userExists_routine hR _) fun found => Prog.keeps_ite (Prog.keeps_pure _) ?_
  exact Prog.keeps_bind (createUser_routine hR _ _ _) fun _ => log_plain hR _ _ _

/-! ## alerts -/

/-- what does not look at the queues -/
theorem pushEvent_routine (hqueues : ∀ s queues, R s { s with
      core := { s.core with eventQueueMap := queues } })
    (cfg : Config) (clientID : String) (event : Event) : (pushEvent cfg clientID event).Keeps R := by
  have hset : ∀ queue, (setQueue clientID queue).Keeps R := fun _ s => hqueues s _
  refine Prog.keeps_bind (Prog.keeps_bind Prog.keeps_get fun s => Prog.keeps_ite ?_ ?_) fun _ => ?_
  · exact Prog.keeps_bind (hset _) fun _ => log_plain hR _ _ _
  · exact Prog.keeps_pure _
  · exact Prog.keeps_bind Prog.keeps_get fun s =>
      Prog.keeps_bind (hset _) fun _ => log_plain hR _ _ _

theorem queueFor_routine {cfg : Config} {event : Event}
    (hpush : ∀ user, (pushEvent cfg user event).Keeps R) (users : List String) :
    (queueFor cfg event users).Keeps R := by
  induction users with
  | nil => exact Prog.keeps_pure _
  | cons user users ih =>
    exact Prog.keeps_bind (hpush user) fun _ =>
      Prog.keeps_bind (log_plain hR _ _ _) fun _ => ih

variable {message : String} (hsends : Sending R message)
include hsends

theorem sendto_routine (address : String) : (sendto address message).Keeps R := by
  refine Prog.keeps_bind (ask_routine hR) fun answer => Prog.keeps_ite (Prog.keeps_pure _) ?_
  exact Prog.keeps_bind (fun s => hsends.datagram s address) fun _ => Prog.keeps_pure _

theorem broadcastTo_routine (addresses : List String) :
    (broadcastTo message addresses).Keeps R := by
  induction addresses with
  | nil => exact Prog.keeps_pure _
  | cons address addresses ih =>
    refine Prog.keeps_bind (sendto_routine hR hsends address) fun sent => Prog.keeps_ite ?_ ?_
    · exact Prog.keeps_bind (fun s => hR.messages s _) fun _ => ih
    · refine Prog.keeps_bind (log_plain hR _ _ _) fun _ => ?_
      exact Prog.keeps_bind hsends.udpError fun _ => ih

omit hsends in
theorem broadcastMessage_routine (L : Libs) (cfg : Config) {alertMessage : Json}
    (hsends : Sending R (L.dump alertMessage)) :
    (broadcastMessage L cfg alertMessage).Keeps R := by
  refine Prog.keeps_bind (fun s => refl_of R s) fun addresses => ?_
  refine Prog.keeps_bind (broadcastTo_routine hR hsends addresses) fun _ => ?_
  refine Prog.keeps_bind (log_plain hR _ _ _) fun _ => ?_
  exact Prog.keeps_bind (fun s => refl_of R s) fun offlineUsers =>
    queueFor_routine hR (hsends.push cfg) _

/-- the text of an alert with its category, where it is accepted -/
def AlertText (L : Libs) (alert : Bytes) (text : String) : Prop :=
  ∃ alertData type message client, alertFields L alert = .ok (alertData, type, message) ∧
    alertClient alertData = .ok client ∧ text = L.dump alertData

omit hsends in
theorem processAlert_routine (L : Libs) (cfg : Config) {alertMessage : Bytes}
    (hsends : ∀ text, AlertText L alertMessage text → Sending R text)
    (htarget : ∀ client, lockTarget L alertMessage = some client →
      Notes R "SessionManager" client) : (processAlert L cfg alertMessage).Keeps R := by
  refine catchJson_keeps ?_ fun _ => log_plain hR _ _ _
  unfold lockTarget at htarget
  cases hfields : alertFields L alertMessage with
  | error e => exact fun s => refl_of R s
  | ok fields =>
    obtain ⟨alertData, type, message⟩ := fields
    rw [json_ok_bind]
    refine Prog.keeps_bind (log_plain hR _ _ _) fun _ => ?_
    cases hclient : alertClient alertData with
    | error e => exact fun s => refl_of R s
    | ok client =>
      rw [json_ok_bind, lockThreatened_eq]
      simp only [hfields, hclient] at htarget
      refine Prog.keeps_bind ?_ fun _ => broadcastMessage_routine hR L cfg
        (hsends _ ⟨alertData, type, message, client, hfields, hclient, rfl⟩)
      cases hlock : (if isThreat type = true then client else none) with
      | none => exact Prog.keeps_pure _
      | some target =>
        refine Prog.keeps_bind ?_ fun _ => Prog.keeps_pure _
        exact changeLock_routine hR (htarget target hlock) _ _ _ _

end Calls

/-! ## the error counter -/

/-- one error is counted on the way -/
def Counted (R : St → St → Prop) (s s' : St) : Prop :=
  ∃ s₁, R s s₁ ∧ R ((incrementError .tcp .rx).run s₁).2 s'

def EndsAs (R : St → St → Prop) (s : St) : Except Exn ProcessResult × St → Prop
  | (.ok r, s') => if r.1.status = some "error" then Counted R s s' else R s s'
  | (.error _, s') => R s s'

/-- `p` counts one error, exactly if it answers with one; else it does what `R` bears -/
def Ends (R : St → St → Prop) (p : M ProcessResult) : Prop := ∀ s, EndsAs R s (p.run s)

section Ends
variable {R : St → St → Prop} [IsPreorder St R]

theorem endsAs_error {s s' : St} {r : ProcessResult} (h : r.1.status = some "error") :
    EndsAs R s (.ok r, s') ↔ Counted R s s' := by
  show (if r.1.status = some "error" then Counted R s s' else R s s') ↔ _
  rw [if_pos h]

theorem endsAs_other {s s' : St} {r : ProcessResult} (h : r.1.status ≠ some "error") :
    EndsAs R s (.ok r, s') ↔ R s s' := by
  show (if r.1.status = some "error" then Counted R s s' else R s s') ↔ _
  rw [if_neg h]

theorem EndsAs.after {s s' : St} (h : R s s') {r : Except Exn ProcessResult × St}
    (hr : EndsAs R s' r) : EndsAs R s r := by
  obtain ⟨r, s''⟩ := r
  cases r with
  | error e => exact trans_of R h hr
  | ok r =>
    by_cases herror : r.1.status = some "error"
    · rw [endsAs_error herror] at hr ⊢
      obtain ⟨s₁, hfirst, hlast⟩ := hr
      exact ⟨s₁, trans_of R h hfirst, hlast⟩
    · rw [endsAs_other herror] at hr ⊢
      exact trans_of R h hr

theorem ends_bind {α : Type} {q : M α} {f : α → M ProcessResult} (hq : q.Keeps R)
    (hf : ∀ a, Ends R (f a)) : Ends R (q >>= f) := by
  intro s
  have h := hq s
  rw [Prog.run_bind]
  generalize q.run s = r at h ⊢
  obtain ⟨r, s'⟩ := r
  cases r with
  | ok a => exact EndsAs.after h (hf a s')
  | error e => exact h

theorem ends_pure {r : ProcessResult} (h : r.1.status ≠ some "error") : Ends R (pure r) := by
  intro s
  rw [Prog.run_pure, endsAs_other h]
  exact refl_of R s

theorem ends_ite {c : Prop} [Decidable c] {p q : M ProcessResult} (hp : c → Ends R p)
    (hq : ¬ c → Ends R q) : Ends R (if c then p else q) := by
  by_cases h : c
  · rw [if_pos h]
    exact hp h
  · rw [if_neg h]
    exact hq h

theorem ends_tryCatch {p : M ProcessResult} {handler : Exn → M ProcessResult} (hp : Ends R p)
    (hh : ∀ e, Ends R (handler e)) : Ends R (tryCatch p handler) := by
  intro s
  have h := hp s
  rw [Prog.run_tryCatch]
  generalize p.run s = r at h ⊢
  obtain ⟨r, s'⟩ := r
  cases r with
  | ok a => exact h
  | error e => exact EndsAs.after h (hh e s')

theorem ends_catchJson {p : M ProcessResult} {handler : JsonError → M ProcessResult}
    (hp : Ends R p) (hh : ∀ e, Ends R (handler e)) : Ends R (catchJson p handler) := by
  refine ends_tryCatch hp fun e => ?_
  cases e with
  | json e => exact hh e
  | sqlite e => exact fun s => refl_of R s

/-- an error is counted, and then answered with -/
theorem ends_count {r : ProcessResult} (herror : r.1.status = some "error") {rest : M Unit}
    (hrest : ∀ s, ∃ s', rest.run s = (.ok (), s') ∧ R s s') :
    Ends R (do incrementError .tcp .rx; rest; pure r) := by
  intro s
  rw [Prog.run_bind, run_incrementError]
  dsimp only
  obtain ⟨s', hrun, hkept⟩ := hrest ((incrementError .tcp .rx).run s).2
  rw [Prog.run_bind, hrun]
  dsimp only
  rw [Prog.run_pure, endsAs_error herror]
  exact ⟨s, refl_of R s, hkept⟩

/-- what bears a counted error bears the whole call -/
theorem EndsAs.keeps {s : St} {r : Except Exn ProcessResult × St} (h : EndsAs R s r)
    (hcount : (incrementError .tcp .rx).Keeps R) : R s r.2 := by
  obtain ⟨r, s'⟩ := r
  cases r with
  | error e => exact h
  | ok r =>
    by_cases herror : r.1.status = some "error"
    · rw [endsAs_error herror] at h
      obtain ⟨s₁, hfirst, hlast⟩ := h
      exact trans_of R (trans_of R hfirst (hcount s₁)) hlast
    · rw [endsAs_other herror] at h
      exact h

end Ends

/-! ## the handlers -/

/-- the two commands that log as `"Inventory"` -/
def UsesInventory (request : Json) : Prop :=
  request.atString "command" = .ok "get_inventory" ∨ request.atString "command" = .ok "update_stock"

section Handlers
variable {R : St → St → Prop} [IsPreorder St R] {L : Libs} {cfg : Config} {me : String}

theorem refuse_ends (hme : Notes R "CommandProcessor" me) (message note : String) :
    Ends R (refuse L message note me) :=
  ends_count (status_reply L _ _) fun s => ⟨_, run_log .warning "CommandProcessor" note (some me) s,
    hme s .warning note⟩

theorem success_ne_error {r : ProcessResult} (h : r.1.status = some "success") :
    r.1.status ≠ some "error" := by
  rw [h]
  decide

theorem reply_success_ne (message : String) :
    (reply L "success" message).1.status ≠ some "error" :=
  success_ne_error (status_reply L _ _)

variable (hR : Routine R) (hme : Notes R "CommandProcessor" me) (hown : Notes R "Inventory" me)
include hR

omit hR in
theorem countedError_ends {r : ProcessResult} (h : r.1.status = some "error") :
    Ends R (do incrementError .tcp .rx; pure r) := by
  intro s
  rw [Prog.run_bind, run_incrementError]
  dsimp only
  rw [Prog.run_pure, endsAs_error h]
  exact ⟨s, refl_of R s, refl_of R _⟩

include hme

theorem handleEndCommand_ends : Ends R (handleEndCommand L me) :=
  ends_bind (log_notes hme _ _) fun _ => ends_pure (reply_success_ne _)

theorem handleGetStockCommand_ends (request : Json) : Ends R (handleGetStockCommand L request me) := by
  refine ends_catchJson (ends_bind (json_routine _) fun fields => ?_) fun _ => refuse_ends hme _ _
  refine ends_bind (getStock_routine hR _ _ _) fun result => ?_
  cases result with
  | none => exact countedError_ends (status_reply L _ _)
  | some quantity => exact ends_pure (success_ne_error (status_with_data L _ _))

theorem handleGetHistoryCommand_ends : Ends R (handleGetHistoryCommand L me) := by
  refine ends_bind (getInventoryHistoryTransaction_routine hR _) fun history => ?_
  refine ends_bind (log_notes hme _ _) fun _ => ?_
  exact ends_pure (success_ne_error (status_with_data L _ _))

theorem handleUnlockClientCommand_ends {request : Json}
    (htarget : ∀ user, unlockFields request = .ok (cfg.secretPhrase, user) → me = "admin" →
      Notes R "SessionManager" user) :
    Ends R (handleUnlockClientCommand L cfg request me) := by
  refine ends_ite (fun hadmin => ?_) fun _ => refuse_ends hme _ _
  refine ends_catchJson ?_ fun _ => refuse_ends hme _ _
  cases hfields : unlockFields request with
  | error e => exact fun s => refl_of R s
  | ok fields =>
    obtain ⟨secretPhrase, clientToUnlock⟩ := fields
    rw [json_ok_bind]
    refine ends_ite (fun hphrase => ?_) fun _ => refuse_ends hme _ _
    rw [hphrase] at hfields
    refine ends_bind (changeLock_routine hR (htarget _ hfields hadmin) _ _ _ _) fun success => ?_
    exact ends_ite (fun _ => ends_pure (reply_success_ne _)) fun _ => refuse_ends hme _ _

include hown

theorem handleGetInventoryCommand_ends : Ends R (handleGetInventoryCommand L me) := by
  refine ends_bind (getInventorySummary_routine hR hown) fun inventoryMap => ?_
  cases inventoryMap with
  | none =>
    exact ends_count (status_reply L _ _) fun s => ⟨_, run_log .info "CommandProcessor" _ (some me) s,
      hme s .info _⟩
  | some map =>
    refine ends_bind (log_notes hme _ _) fun _ => ?_
    exact ends_pure (success_ne_error (status_with_data L _ _))

theorem handleUpdateStockCommand_ends (request : Json) :
    Ends R (handleUpdateStockCommand L request me) := by
  refine ends_ite (fun _ => refuse_ends hme _ _) fun _ => ?_
  refine ends_catchJson (ends_bind (json_routine _) fun fields => ?_) fun _ => refuse_ends hme _ _
  refine ends_bind (updateStock_routine hR hown _ _ _) fun result => ?_
  exact ends_ite (fun _ => ends_pure (reply_success_ne _)) fun _ =>
    countedError_ends (status_reply L _ _)

omit hown in
theorem unknownCommand_ends (cmd : String) : Ends R (unknownCommand L cmd me) :=
  ends_bind (log_notes hme _ _) fun _ => ends_pure (reply_success_ne _)

omit hown in
/-- no error of `register_user` is counted -/
theorem handleRegisterUser_routine (request : Json) : (handleRegisterUser L request me).Keeps R := by
  have hrefuse : ∀ message note, (refuseUncounted L message note me).Keeps R := fun _ _ =>
    Prog.keeps_bind (log_notes hme _ _) fun _ => Prog.keeps_pure _
  refine Prog.keeps_ite (catchJson_keeps ?_ fun _ => hrefuse _ _) (hrefuse _ _)
  refine Prog.keeps_bind (json_routine _) fun fields => ?_
  refine Prog.keeps_bind (createUser_routine hR _ _ _) fun success => Prog.keeps_ite ?_ (hrefuse _ _)
  exact Prog.keeps_bind (log_notes hme _ _) fun _ => Prog.keeps_pure _

omit hown in
theorem dispatch_ends {request : Json} {cmd : String}
    (htarget : ∀ user, cmd = "unlock_client" → unlockFields request = .ok (cfg.secretPhrase, user) →
      me = "admin" → Notes R "SessionManager" user)
    (hown : cmd = "get_inventory" ∨ cmd = "update_stock" → Notes R "Inventory" me)
    (hcmd : cmd ≠ "register_user") : Ends R (dispatch L cfg request me false cmd) := by
  refine ends_ite (fun _ => ends_pure (reply_success_ne _)) fun _ => ?_
  refine ends_ite (fun h => absurd h Bool.false_ne_true) fun _ => ?_
  refine ends_ite (fun _ => handleEndCommand_ends hR hme) fun _ => ?_
  refine ends_ite (fun h => handleGetInventoryCommand_ends hR hme (hown (.inl h))) fun _ => ?_
  refine ends_ite (fun h => handleUpdateStockCommand_ends hR hme (hown (.inr h)) request) fun _ => ?_
  refine ends_ite (fun _ => handleGetStockCommand_ends hR hme request) fun _ => ?_
  refine ends_ite (fun _ => handleGetHistoryCommand_ends hR hme) fun _ => ?_
  refine ends_ite (fun hunlock => ?_) fun _ => ?_
  · exact handleUnlockClientCommand_ends hR hme fun user => htarget user hunlock
  · exact ends_ite (fun h => absurd h hcmd) fun _ => unknownCommand_ends hR hme cmd

omit hown in
/-- **A command other than `register_user` counts an error exactly if it answers with one.** -/
theorem processCommand_ends {request : Json}
    (hown : UsesInventory request → Notes R "Inventory" me)
    (htarget : ∀ user, unlockTarget cfg me request = some user → Notes R "SessionManager" user)
    (hcmd : request.atString "command" ≠ .ok "register_user") :
    Ends R (processCommand L cfg request me false) := by
  unfold processCommand
  cases hfield : request.field? "command" with
  | none =>
    exact ends_bind (log_notes hme _ _) fun _ => countedError_ends (status_reply L _ _)
  | some command =>
    dsimp only
    have hat : request.atString "command" = command.getString := by
      unfold Json.atString
      rw [Json.atKey_eq_ok_iff.mpr hfield]
    cases hstring : command.getString with
    | error e => exact fun s => refl_of R s
    | ok cmd =>
      rw [json_ok_bind]
      rw [hstring] at hat
      refine dispatch_ends hR hme (fun user hunlock hfields hadmin => ?_) (fun h => ?_) fun h => ?_
      · apply htarget user
        unfold unlockTarget
        rw [if_pos ⟨hadmin, by rw [hat, hunlock]⟩, hfields]
        dsimp only
        rw [if_pos rfl]
      · apply hown
        unfold UsesInventory
        rw [hat]
        exact h.imp (congrArg _) (congrArg _)
      · rw [h] at hat
        exact hcmd hat

end Handlers

theorem dispatch_register_user (L : Libs) (cfg : Config) (request : Json) (me : String) :
    dispatch L cfg request me false "register_user" = handleRegisterUser L request me := by
  unfold dispatch
  simp

/-! ## messages -/

section Messages
variable {R : St → St → Prop} [IsPreorder St R] {L : Libs} {cfg : Config} (hR : Routine R)
include hR

theorem commandFailed_ends (me : String) (e : Exn) : Ends R (commandFailed L me e) :=
  ends_bind (log_plain hR _ _ _) fun _ => countedError_ends (status_reply L _ _)

theorem loginFailed_ends (clientIP : String) (e : Exn) : Ends R (loginFailed L clientIP e) := by
  cases e with
  | json e => exact ends_bind (log_plain hR _ _ _) fun _ => countedError_ends (status_reply L _ _)
  | sqlite e => exact ends_bind (log_plain hR _ _ _) fun _ => countedError_ends (status_reply L _ _)

omit hR in
theorem loginRefused_ends (message : String) : Ends R (loginRefused L message) :=
  countedError_ends (status_reply L _ _)

theorem loginReply_ends (sid : Nat) (clientIP user : String) (result : AuthResult) :
    Ends R (loginReply L sid clientIP user result) := by
  cases result with
  | success =>
    refine ends_bind (setSession_routine hR sid fun _ => rfl) fun _ => ?_
    refine ends_bind (registerSession_routine hR user sid) fun _ => ?_
    refine ends_bind (log_plain hR _ _ _) fun _ => ends_pure (success_ne_error ?_)
    rw [statusReply_eq]
    exact status_set_of_ne (by decide) _ _
  | failedUserNotFound => exact loginRefused_ends _
  | failedAccountLocked => exact loginRefused_ends _
  | failedBadCredentials => exact loginRefused_ends _
  | failedAlertLocked => exact loginRefused_ends _

theorem loginMessage_ends (sid : Nat) (clientIP : String) (request : Json) :
    Ends R (loginMessage L cfg sid clientIP request) := by
  refine ends_bind (json_routine _) fun command => ends_ite (fun _ => ?_) fun _ =>
    loginRefused_ends _
  refine ends_tryCatch (ends_bind (json_routine _) fun fields => ?_) fun e =>
    loginFailed_ends hR clientIP e
  exact ends_bind (authenticate_routine hR _ _ _ _) fun result => loginReply_ends hR _ _ _ _

theorem processMessage_invalid_ends {sid : Nat} {text : Bytes} (hp : L.parse text = none) (s : St) :
    EndsAs R s ((processMessage L cfg sid text).run s) := by
  have hends : ∀ ip : String, Ends R (do
      log .warning "ClientSession" ("Invalid JSON format from clientIP: " ++ ip) none
      incrementError .tcp .rx
      pure invalidJson) := fun ip =>
    ends_bind (log_plain hR _ _ _) fun _ => countedError_ends (status_statusReply _ _)
  unfold processMessage
  rw [Prog.run_bind, Prog.run_get]
  simp only [hp]
  exact hends _ s

/-- **A message of a guest counts an error exactly if it is answered with one.** -/
theorem processMessage_guest_ends {sid : Nat} {text : Bytes} {s : St}
    (ha : (s.core.sessions sid).isAuthenticated = false) :
    EndsAs R s ((processMessage L cfg sid text).run s) := by
  cases hp : L.parse text with
  | none => exact processMessage_invalid_ends hR hp s
  | some request =>
    rw [run_processMessage_guest L cfg hp ha]
    exact EndsAs.after (receive_routine hR L request s) (loginMessage_ends hR _ _ _ _)

/-- **So does a message of a member, unless it is a `register_user`.** -/
theorem processMessage_member_ends {sid : Nat} {text : Bytes} {request : Json} {s : St}
    (hp : L.parse text = some request) (ha : (s.core.sessions sid).isAuthenticated = true)
    (hme : Notes R "CommandProcessor" (s.core.sessions sid).clientID)
    (hown : UsesInventory request → Notes R "Inventory" (s.core.sessions sid).clientID)
    (htarget : ∀ user, unlockTarget cfg (s.core.sessions sid).clientID request = some user →
      Notes R "SessionManager" user)
    (hcmd : request.atString "command" ≠ .ok "register_user") :
    EndsAs R s ((processMessage L cfg sid text).run s) := by
  rw [run_processMessage_member L cfg hp ha]
  refine EndsAs.after (receive_routine hR L request s) ?_
  exact ends_tryCatch (processCommand_ends hR hme hown htarget hcmd)
    (fun e => commandFailed_ends hR _ e) _

/-- what bears log entries for the member, and counted errors, bears a message -/
theorem processMessage_routine (hcount : (incrementError .tcp .rx).Keeps R) {sid : Nat}
    {text : Bytes} {s : St}
    (hme : (s.core.sessions sid).isAuthenticated = true →
      Notes R "CommandProcessor" (s.core.sessions sid).clientID)
    (hown : ∀ request, (s.core.sessions sid).isAuthenticated = true → L.parse text = some request →
      UsesInventory request → Notes R "Inventory" (s.core.sessions sid).clientID)
    (htarget : ∀ request user, (s.core.sessions sid).isAuthenticated = true →
      L.parse text = some request →
      unlockTarget cfg (s.core.sessions sid).clientID request = some user →
      Notes R "SessionManager" user) : R s ((processMessage L cfg sid text).run s).2 := by
  cases ha : (s.core.sessions sid).isAuthenticated with
  | false => exact (processMessage_guest_ends hR ha).keeps hcount
  | true =>
    cases hp : L.parse text with
    | none => exact (processMessage_invalid_ends hR hp s).keeps hcount
    | some request =>
      by_cases hcmd : request.atString "command" = .ok "register_user"
      · rw [run_processMessage_member L cfg hp ha]
        have hreceived : R s (received L request s) := receive_routine hR L request s
        refine trans_of R hreceived ?_
        generalize received L request s = s₁
        unfold commandMessage
        rw [processCommand_eq_dispatch L cfg hcmd, dispatch_register_user, Prog.run_tryCatch]
        have hkept := handleRegisterUser_routine hR (hme ha) (L := L) request s₁
        generalize (handleRegisterUser L request _).run s₁ = r at hkept ⊢
        obtain ⟨r, s₂⟩ := r
        cases r with
        | ok r => exact hkept
        | error e => exact trans_of R hkept ((commandFailed_ends hR _ e s₂).keeps hcount)
      · exact (processMessage_member_ends hR hp ha (hme ha) (hown request ha hp)
          (fun user => htarget request user ha hp) hcmd).keeps hcount

end Messages

end Logistics
