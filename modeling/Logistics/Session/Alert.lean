import Logistics.Session.Manager

/-!
# Alerts: EventQueue, UdpHandler, AlertManager

An alert from a sensor is logged, locks the client it names where its type is a threat, and is
broadcast: sent to the UDP address of every active session, and queued for the users that are
offline.  The order of `std::unordered_set` is unspecified; the model queues in key order.

* `pushEvent`, `popEvent`      one bounded queue per user, the oldest event is dropped;
* `processAlert`               the alert; a failing `Storage` call in `lockClient` escapes it;
* `lockTarget`                 the client whose `lockClient` an alert makes the server call;
* `processAlert_effect`        **besides that call an alert writes the event queues only**.
-/

namespace Logistics
open Std

/-! ## the event queue -/

def setQueue (clientID : String) (queue : List Event) : M Unit :=
  setCore fun c => { c with eventQueueMap := c.eventQueueMap.insert clientID queue }

def dropOldest (cfg : Config) (clientID : String) : M Unit := do
  let s ← Prog.get
  let queue := s.core.eventQueueMap.getD clientID []
  if cfg.queueSize ≤ queue.length then do
    setQueue clientID queue.tail
    log .warning "EventQueue"
      ("Event queue for client " ++ clientID ++ " is full. Oldest event dropped.") none
  else pure ()

def pushEvent (cfg : Config) (clientID : String) (event : Event) : M Unit := do
  dropOldest cfg clientID
  let s ← Prog.get
  setQueue clientID (s.core.eventQueueMap.getD clientID [] ++ [event])
  log .info "EventQueue" ("Event pushed to queue for client " ++ clientID) none

def popEvent (clientID : String) : M (Option Event) := do
  let s ← Prog.get
  match s.core.eventQueueMap[clientID]? with
  | some (event :: rest) => do
    match rest with
    | [] => setCore fun c => { c with eventQueueMap := c.eventQueueMap.erase clientID }
    | _ :: _ => setQueue clientID rest
    log .info "EventQueue" ("Event popped from queue for client " ++ clientID) none
    pure (some event)
  | _ => do
    log .info "EventQueue" ("No events to pop for client " ++ clientID) none
    pure none

/-! ## UDP -/

/-- `sendto`; the result says whether the datagram was taken -/
def sendto (address message : String) : M Bool := do
  let answer ← ask
  if answer.fails then pure false
  else do
    Prog.modify fun s => { s with journal := { s.journal with
      datagrams := s.journal.datagrams ++ [(address, message)] } }
    pure true

def sendMessageToClient (clientID message address : String) : M Unit := do
  let sent ← sendto address message
  if sent then do
    incrementMessage .udp .tx
    log .info "UdpHandler" ("Sent delayed alert message to client " ++ clientID) none
  else do
    log .error "UdpHandler" ("Error sending delayed alert message to client " ++ clientID) none
    incrementError .udp .tx

def broadcastTo (message : String) : List String → M Unit
  | [] => pure ()
  | address :: addresses => do
    let sent ← sendto address message
    if sent then incrementMessage .udp .tx
    else do
      log .error "UdpHandler" "Error broadcasting alert message" none
      incrementError .udp .tx
    broadcastTo message addresses

def queueFor (cfg : Config) (event : Event) : List String → M Unit
  | [] => pure ()
  | user :: users => do
    pushEvent cfg user event
    log .info "UdpHandler"
      ("User " ++ user ++ " is offline, alert has been queued for later delivery.") none
    queueFor cfg event users

def broadcastMessage (L : Libs) (cfg : Config) (alertMessage : Json) : M Unit := do
  let addresses ← getActiveUdpAddresses
  broadcastTo (L.dump alertMessage) addresses
  log .info "UdpHandler"
    ("Broadcasted alert message to all connected clients: " ++ L.dump alertMessage) none
  let offlineUsers ← getOfflineUsers
  queueFor cfg ⟨L.dump alertMessage⟩ offlineUsers.toList

/-! ## the alert manager -/

/-- `alertData["category"] = "alert"` -/
def withCategory : Json → Except JsonError Json
  | .null => .ok (Json.null.set "category" (.str "alert"))
  | .obj fields => .ok ((Json.obj fields).set "category" (.str "alert"))
  | _ => .error (.typeError 305)

/-- the alert with its category, its type and its message -/
def alertFields (L : Libs) (alertMessage : Bytes) : Except JsonError (Json × String × String) :=
  match L.parse alertMessage with
  | none => .error (.parseError 101)
  | some value => do
    let alertData ← withCategory value
    let type ← alertData.atString "type"
    let message ← alertData.atString "message"
    pure (alertData, type, message)

def alertClient (alertData : Json) : Except JsonError (Option String) :=
  match alertData.field? "clientId" with
  | none => .ok none
  | some v => v.getString.map some

def isThreat (type : String) : Bool := type = "infection" ∨ type = "enemy_threat"

def lockThreatened (type : String) : Option String → M Unit
  | some clientId =>
    if isThreat type then do
      let _ ← lockClient clientId
      pure ()
    else pure ()
  | none => pure ()

/-- the log entry an alert starts with -/
def logAlert (type message : String) : M Unit :=
  log .warning "AlertManager"
    ("Received alert from sensor. Type: " ++ type ++ ", Message: " ++ message) none

def processAlert (L : Libs) (cfg : Config) (alertMessage : Bytes) : M Unit :=
  catchJson (do
      let (alertData, type, message) ← json (alertFields L alertMessage)
      logAlert type message
      let client ← json (alertClient alertData)
      lockThreatened type client
      broadcastMessage L cfg alertData)
    fun e => log .error "AlertManager"
      ("Failed to process incoming alert. Reason: " ++ L.what (.json e)) none

/-! ## effects -/

/-- only the event queues differ -/
structure QueuesOnly (c c' : Core) : Prop where
  users : c'.users = c.users
  stock : c'.stock = c.stock
  cache : c'.cache = c.cache
  manager : c'.manager = c.manager
  sessions : c'.sessions = c.sessions

instance : IsPreorder Core QueuesOnly where
  refl _ := ⟨rfl, rfl, rfl, rfl, rfl⟩
  trans _ _ _ h h' := ⟨h'.users.trans h.users, h'.stock.trans h.stock, h'.cache.trans h.cache,
    h'.manager.trans h.manager, h'.sessions.trans h.sessions⟩

theorem setQueue_queues (clientID : String) (queue : List Event) :
    (setQueue clientID queue).Keeps (onCore QueuesOnly) := fun _ => ⟨rfl, rfl, rfl, rfl, rfl⟩

theorem popEvent_queues (clientID : String) : (popEvent clientID).Keeps (onCore QueuesOnly) := by
  refine Prog.keeps_bind Prog.keeps_get fun s => ?_
  split
  · have hpopped : ∀ event, (do
        log .info "EventQueue" ("Event popped from queue for client " ++ clientID) none
        pure (some event) : M (Option Event)).Keeps (onCore QueuesOnly) :=
      fun _ => Prog.keeps_bind (log_keeps _ _ _ _) fun _ => Prog.keeps_pure _
    split
    · exact Prog.keeps_bind (fun _ => ⟨rfl, rfl, rfl, rfl, rfl⟩) fun _ => hpopped _
    · exact Prog.keeps_bind (setQueue_queues _ _) fun _ => hpopped _
  · exact Prog.keeps_bind (log_keeps _ _ _ _) fun _ => Prog.keeps_pure _

theorem incrementError_keeps {R : Core → Core → Prop} [IsPreorder Core R] (p : Protocol)
    (d : Direction) : (incrementError p d).Keeps (onCore R) := keeps_of_core_eq fun _ => rfl

theorem incrementMessage_keeps {R : Core → Core → Prop} [IsPreorder Core R] (p : Protocol)
    (d : Direction) : (incrementMessage p d).Keeps (onCore R) := keeps_of_core_eq fun _ => rfl

theorem pushEvent_queues (cfg : Config) (clientID : String) (event : Event) :
    (pushEvent cfg clientID event).Keeps (onCore QueuesOnly) := by
  refine Prog.keeps_bind (Prog.keeps_bind Prog.keeps_get fun s => Prog.keeps_ite ?_ ?_) fun _ => ?_
  · exact Prog.keeps_bind (setQueue_queues _ _) fun _ => log_keeps _ _ _ _
  · exact Prog.keeps_pure _
  · exact Prog.keeps_bind Prog.keeps_get fun s =>
      Prog.keeps_bind (setQueue_queues _ _) fun _ => log_keeps _ _ _ _

theorem sendto_keeps {R : Core → Core → Prop} [IsPreorder Core R] (address message : String) :
    (sendto address message).Keeps (onCore R) := by
  refine keeps_of_core_eq fun s => ?_
  show (Prog.run (if (s.env 0).fails = true then _ else _) s.next).2.core = s.core
  split <;> rfl

theorem broadcastTo_keeps {R : Core → Core → Prop} [IsPreorder Core R] (message : String)
    (addresses : List String) : (broadcastTo message addresses).Keeps (onCore R) := by
  induction addresses with
  | nil => exact Prog.keeps_pure _
  | cons address addresses ih =>
    refine Prog.keeps_bind (sendto_keeps address message) fun sent => Prog.keeps_ite ?_ ?_
    · exact Prog.keeps_bind (incrementMessage_keeps _ _) fun _ => ih
    · refine Prog.keeps_bind (log_keeps _ _ _ _) fun _ => ?_
      exact Prog.keeps_bind (incrementError_keeps _ _) fun _ => ih

theorem queueFor_queues (cfg : Config) (event : Event) (users : List String) :
    (queueFor cfg event users).Keeps (onCore QueuesOnly) := by
  induction users with
  | nil => exact Prog.keeps_pure _
  | cons user users ih =>
    exact Prog.keeps_bind (pushEvent_queues _ _ _) fun _ =>
      Prog.keeps_bind (log_keeps _ _ _ _) fun _ => ih

theorem broadcastMessage_queues (L : Libs) (cfg : Config) (alertMessage : Json) :
    (broadcastMessage L cfg alertMessage).Keeps (onCore QueuesOnly) := by
  refine Prog.keeps_bind (keeps_of_core_eq fun _ => rfl) fun addresses => ?_
  refine Prog.keeps_bind (broadcastTo_keeps _ addresses) fun _ => ?_
  refine Prog.keeps_bind (log_keeps _ _ _ _) fun _ => ?_
  refine Prog.keeps_bind (keeps_of_core_eq fun _ => rfl) fun offlineUsers => ?_
  exact queueFor_queues cfg _ _

def lockTarget (L : Libs) (alertMessage : Bytes) : Option String :=
  match alertFields L alertMessage with
  | .error _ => none
  | .ok (alertData, type, _) =>
    match alertClient alertData with
    | .error _ => none
    | .ok client => if isThreat type then client else none

/-- the state in which an alert calls `lockClient` -/
def alertState (L : Libs) (alertMessage : Bytes) (s : St) : St :=
  match alertFields L alertMessage with
  | .error _ => s
  | .ok (_, type, message) => ((logAlert type message).run s).2

theorem alertState_core (L : Libs) (alertMessage : Bytes) (s : St) :
    (alertState L alertMessage s).core = s.core := by
  unfold alertState logAlert
  cases alertFields L alertMessage with
  | error e => rfl
  | ok fields => exact St.logged_core s _ _ _ _

/-- the `lockClient` call an alert makes, and its outcome -/
def lockCall (L : Libs) (alertMessage : Bytes) (s : St) : Option (String × Except Exn Bool) :=
  (lockTarget L alertMessage).map fun clientId =>
    (clientId, ((lockClient clientId).run (alertState L alertMessage s)).1)

/-- `lockThreatened` calls `lockClient` for the target, if there is one, and does nothing else -/
theorem lockThreatened_eq (type : String) (client : Option String) :
    lockThreatened type client =
      match (if isThreat type then client else none) with
      | none => pure ()
      | some clientId => lockClient clientId >>= fun _ => pure () := by
  cases client with
  | none => cases isThreat type <;> rfl
  | some clientId =>
    unfold lockThreatened
    cases isThreat type <;> rfl

theorem processAlert_effect (L : Libs) (cfg : Config) (alertMessage : Bytes) (s : St) :
    (lockTarget L alertMessage = none ∧
      QueuesOnly s.core ((processAlert L cfg alertMessage).run s).2.core) ∨
    ∃ clientId, lockTarget L alertMessage = some clientId ∧
      QueuesOnly ((lockClient clientId).run (alertState L alertMessage s)).2.core
        ((processAlert L cfg alertMessage).run s).2.core := by
  refine catchJson_core (Q := fun c => (lockTarget L alertMessage = none ∧ QueuesOnly s.core c) ∨
    ∃ clientId, lockTarget L alertMessage = some clientId ∧
      QueuesOnly ((lockClient clientId).run (alertState L alertMessage s)).2.core c) ?_
    fun e s' => by rw [run_log]; exact St.logged_core s' _ _ _ _
  have hcore := alertState_core L alertMessage s
  unfold lockTarget alertState at *
  cases hf : alertFields L alertMessage with
  | error e => exact .inl ⟨rfl, refl_of QueuesOnly _⟩
  | ok fields =>
    obtain ⟨alertData, type, message⟩ := fields
    rw [hf] at hcore
    rw [json_ok_bind]
    dsimp only at hcore ⊢
    rw [logAlert, run_log] at hcore ⊢
    rw [Prog.run_bind, run_log]
    dsimp only at hcore ⊢
    generalize s.logged _ _ _ _ = s₁ at hcore ⊢
    rw [← hcore]
    cases hc : alertClient alertData with
    | error e => exact .inl ⟨rfl, refl_of QueuesOnly _⟩
    | ok client =>
      rw [json_ok_bind, lockThreatened_eq]
      dsimp only
      cases (if isThreat type then client else none) with
      | none => exact .inl ⟨rfl, broadcastMessage_queues L cfg alertData s₁⟩
      | some clientId =>
        refine .inr ⟨clientId, rfl, ?_⟩
        have hq := broadcastMessage_queues L cfg alertData
        rw [Prog.run_bind, Prog.run_bind]
        generalize (lockClient clientId).run s₁ = r
        obtain ⟨r, s₂⟩ := r
        cases r with
        | ok b => exact hq s₂
        | error e => exact refl_of QueuesOnly s₂.core

end Logistics
