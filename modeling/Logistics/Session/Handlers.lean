import Logistics.Session.Queues
import Logistics.Session.Udp

/-!
# Datagrams and alerts as tasks of the pool

A worker runs `handleMessage` and `processAlert` as bare tasks: what they throw ends the process.
`handleMessage` reads `command` outside every `try`; `processAlert` catches the exceptions of the
JSON library only, and the `Storage` call of `lockClient` throws those of SQLite.

* `handleMessage_returns_iff`  a datagram handler returns unless its JSON has no `command`;
* `processAlert_returns_iff`   an alert handler returns unless the `Storage` call of its lock fails;
* `rejected_core`              an alert that is not accepted changes nothing;
* `handlers_total_iff`         **both return exactly outside these two cases**.
-/

namespace Logistics

/-! ## programs that return -/

theorem log_returns (level : LogLevel) (component message : String) (clientId : Option String)
    (s : St) : (log level component message clientId).Returns s :=
  ⟨_, _, run_log level component message clientId s⟩

theorem incrementMessage_returns (p : Protocol) (d : Direction) (s : St) :
    (incrementMessage p d).Returns s := ⟨_, _, rfl⟩

theorem incrementError_returns (p : Protocol) (d : Direction) (s : St) :
    (incrementError p d).Returns s := ⟨_, _, rfl⟩

/-- only an exception of the database leaves a `catch (const json::exception &)` -/
theorem returns_catchJson_iff {α : Type} {p : M α} {handler : JsonError → M α} {s : St}
    (hh : ∀ e s', (handler e).Returns s') :
    (catchJson p handler).Returns s ↔ ∀ e, (p.run s).1 ≠ .error (.sqlite e) := by
  unfold catchJson Prog.Returns
  rw [Prog.run_tryCatch]
  generalize p.run s = r
  obtain ⟨r, s'⟩ := r
  cases r with
  | ok a => exact iff_of_true ⟨a, s', rfl⟩ fun e h => nomatch h
  | error e =>
    cases e with
    | json e => exact iff_of_true (hh e s') fun e' h => nomatch h
    | sqlite e =>
      refine iff_of_false ?_ fun h => h e rfl
      rintro ⟨a, s'', h⟩
      cases h

theorem returns_not_error {α : Type} {p : M α} {s : St} (h : p.Returns s) (e : Exn) :
    (p.run s).1 ≠ .error e := by
  obtain ⟨a, s', hrun⟩ := h
  rw [hrun]
  exact nofun

theorem sendto_returns (address message : String) (s : St) : (sendto address message).Returns s := by
  refine Prog.returns_bind ⟨_, _, run_ask s⟩ fun answer s' => Prog.returns_ite ?_ ?_
  · exact Prog.returns_pure _ _
  · exact ⟨_, _, rfl⟩

theorem queueFor_returns (cfg : Config) (event : Event) (users : List String) (s : St) :
    (queueFor cfg event users).Returns s := by
  induction users generalizing s with
  | nil => exact Prog.returns_pure _ _
  | cons user users ih =>
    obtain ⟨s₁, hpush, -⟩ := pushEvent_queue cfg user event s
    refine Prog.returns_bind ⟨_, s₁, hpush⟩ fun _ s₂ => ?_
    exact Prog.returns_bind (log_returns _ _ _ _ s₂) fun _ s₃ => ih s₃

theorem broadcastMessage_returns (L : Libs) (cfg : Config) (alertMessage : Json) (s : St) :
    (broadcastMessage L cfg alertMessage).Returns s := by
  refine Prog.returns_bind ⟨_, _, rfl⟩ fun addresses s₁ => ?_
  refine Prog.returns_bind ⟨_, broadcastTo_returns _ _ s₁⟩ fun _ s₂ => ?_
  refine Prog.returns_bind (log_returns _ _ _ _ s₂) fun _ s₃ => ?_
  exact Prog.returns_bind ⟨_, _, rfl⟩ fun users s₄ => queueFor_returns cfg _ _ s₄

/-! ## datagrams -/

theorem sendPong_returns (L : Libs) (clientId address : String) (s : St) :
    (sendPong L clientId address).Returns s := by
  refine Prog.returns_bind (sendto_returns _ _ s) fun sent s₁ => Prog.returns_ite ?_ ?_
  · exact Prog.returns_bind (incrementMessage_returns _ _ s₁) fun _ s₂ => log_returns _ _ _ _ s₂
  · exact Prog.returns_bind (log_returns _ _ _ _ s₁) fun _ s₂ => incrementError_returns _ _ s₂

/-! ## the end of a run -/

theorem sendMessageToClient_returns (clientID message address : String) (s : St) :
    (sendMessageToClient clientID message address).Returns s := by
  refine Prog.returns_bind (sendto_returns _ _ s) fun sent s₁ => Prog.returns_ite ?_ ?_
  · exact Prog.returns_bind (incrementMessage_returns _ _ s₁) fun _ s₂ => log_returns _ _ _ _ s₂
  · exact Prog.returns_bind (log_returns _ _ _ _ s₁) fun _ s₂ => incrementError_returns _ _ s₂

theorem awaitAddress_returns (sid : Nat) (s : St) : (awaitAddress sid).Returns s := by
  refine Prog.returns_bind ⟨s, s, rfl⟩ fun s₀ s₁ => ?_
  dsimp only
  cases (s₀.core.sessions sid).udpAddress with
  | some address => exact Prog.returns_pure _ _
  | none =>
    refine Prog.returns_bind ⟨_, _, run_ask s₁⟩ fun pause s₂ => Prog.returns_ite ?_
      (Prog.returns_pure _ _)
    exact Prog.returns_bind ⟨_, _, rfl⟩ fun _ _ => Prog.returns_pure _ _

theorem sendEvents_returns (sid : Nat) (s : St) : (sendEvents sid).Returns s := by
  have hevents : ∀ s', (handleEventQueue sid).Returns s' := by
    intro s'
    refine Prog.returns_bind ⟨s', s', rfl⟩ fun me s₁ => ?_
    obtain ⟨s₂, hpop, -⟩ := popEvent_spec (me.core.sessions sid).clientID s₁
    refine Prog.returns_bind ⟨_, _, hpop⟩ fun event s₃ => ?_
    cases event with
    | none => exact Prog.returns_pure _ _
    | some event =>
      refine Prog.returns_bind (awaitAddress_returns sid s₃) fun address s₄ => ?_
      cases address with
      | some address =>
        refine Prog.returns_bind ?_ fun _ _ => Prog.returns_pure _ _
        exact sendMessageToClient_returns _ event.message address s₄
      | none => exact Prog.returns_bind (log_returns _ _ _ _ s₄) fun _ _ => Prog.returns_pure _ _
  refine Prog.returns_bind ⟨s, s, rfl⟩ fun me s₁ => Prog.returns_ite ?_ (Prog.returns_pure _ _)
  exact Prog.returns_bind (hevents s₁) fun sent s₂ => Prog.returns_ite (Prog.returns_pure _ _)
    (log_returns _ _ _ _ s₂)

theorem unregister_returns (sid : Nat) (s : St) : (unregister sid).Returns s :=
  Prog.returns_bind ⟨s, s, rfl⟩ fun _ _ => Prog.returns_ite ⟨_, _, rfl⟩ (Prog.returns_pure _ _)

theorem afterReply_result (sid : Nat) (keep : Bool) (s : St) :
    ∃ s', (afterReply sid keep).run s = (.ok keep, s') := by
  obtain ⟨_, s₁, hsend⟩ := sendEvents_returns sid s
  unfold afterReply
  rw [Prog.run_bind, hsend]
  cases keep with
  | true => exact ⟨s₁, rfl⟩
  | false =>
    simp only [Bool.false_eq_true, if_false, Prog.run_bind, Prog.run_get, run_log]
    generalize s₁.logged _ _ _ _ = s₂
    obtain ⟨_, s₃, hunregister⟩ := unregister_returns sid s₂
    rw [hunregister]
    exact ⟨s₃, rfl⟩

/-- a `run` ends its session exactly if its reply is the last or cannot be written -/
theorem answer_result (sid : Nat) (result : ProcessResult) (s : St) :
    ∃ keep s', (answer sid result).run s = (.ok keep, s') ∧
      (keep = false ↔ result.2 = false ∨ (s.env 0).written = .error) := by
  unfold answer writeSocket
  simp only [Prog.run_bind, run_ask]
  cases (s.env 0).written with
  | error =>
    simp only [Prog.run_bind, Prog.run_pure, Prog.run_get]
    rw [run_incrementError]
    simp only [run_log]
    generalize St.logged _ _ _ _ _ = s₁
    obtain ⟨_, s₂, hunregister⟩ := unregister_returns sid s₁
    rw [hunregister]
    exact ⟨false, s₂, rfl, iff_of_true rfl (.inr trivial)⟩
  | all =>
    obtain ⟨s', hrun⟩ := afterReply_result sid result.2 _
    exact ⟨result.2, s', hrun, (or_iff_left nofun).symm⟩
  | part n =>
    obtain ⟨s', hrun⟩ := afterReply_result sid result.2 _
    exact ⟨result.2, s', hrun, (or_iff_left nofun).symm⟩
  | again =>
    obtain ⟨s', hrun⟩ := afterReply_result sid result.2 _
    exact ⟨result.2, s', hrun, (or_iff_left nofun).symm⟩

/-! ## datagrams -/

theorem handleKeepalive_returns (L : Libs) (request : Json) (address : String) (s : St) :
    (handleKeepalive L request address).Returns s := by
  refine (returns_catchJson_iff fun e s' => log_returns _ _ _ _ s').mpr fun e => ?_
  cases request.atString "clientId" with
  | error e' => exact nofun
  | ok clientId =>
    refine returns_not_error ?_ _
    refine Prog.returns_bind ⟨_, _, rfl⟩ fun id s₁ => ?_
    refine Prog.returns_bind ⟨_, _, rfl⟩ fun session s₂ => ?_
    cases session with
    | none => exact log_returns _ _ _ _ s₂
    | some sid =>
      refine Prog.returns_bind ⟨_, _, rfl⟩ fun _ s₃ => ?_
      exact Prog.returns_bind (log_returns _ _ _ _ s₃) fun _ s₄ => sendPong_returns L _ address s₄

/-- the text is JSON, but `value("command", "unknown")` throws on it -/
def Mistyped (L : Libs) (text : Bytes) : Prop :=
  ∃ request, L.parse text = some request ∧
    ¬ ∃ fields, request = .obj fields ∧
      ∀ v, fields.lookup "command" = some v → ∃ command, v = .str command

theorem handleDatagram_returns_iff (L : Libs) (address : String) (text : Bytes) (s : St) :
    (handleDatagram L address text).Returns s ↔ ¬ Mistyped L text := by
  unfold handleDatagram Mistyped
  cases L.parse text with
  | none => exact iff_of_true (log_returns _ _ _ _ s) nofun
  | some request =>
    have hcondition : (¬ ∃ request', some request = some request' ∧
        ¬ ∃ fields, request' = .obj fields ∧
          ∀ v, fields.lookup "command" = some v → ∃ command, v = .str command) ↔
        ∃ command, request.value "command" "unknown" = .ok command := by
      rw [Json.value_returns_iff]
      simp
    rw [hcondition]
    dsimp only
    cases request.value "command" "unknown" with
    | error e =>
      refine iff_of_false ?_ nofun
      rintro ⟨a, s', h⟩
      cases h
    | ok command =>
      refine iff_of_true ?_ ⟨command, rfl⟩
      rw [json_ok_bind]
      refine Prog.returns_ite ?_ ?_
      · exact handleKeepalive_returns L request address s
      · exact log_returns _ _ _ _ s

def RecvResult.text : RecvResult → Option Bytes
  | .data _ buffer => some (cString buffer)
  | _ => none

theorem handleMessage_returns_iff (L : Libs) (input : RecvResult) (s : St) :
    (handleMessage L input).Returns s ↔ ∀ text, input.text = some text → ¬ Mistyped L text := by
  cases input with
  | again => exact iff_of_true (Prog.returns_pure _ _) nofun
  | error =>
    refine iff_of_true ?_ nofun
    exact Prog.returns_bind (log_returns _ _ _ _ s) fun _ s₁ => incrementError_returns _ _ s₁
  | data address buffer =>
    have hafter : (handleMessage L (.data address buffer)).run s =
        (handleDatagram L address (cString buffer)).run
          ((incrementMessage .udp .rx).run ((log .info "UdpHandler"
            ("Received UDP message: " ++ logText (cString buffer)) none).run s).2).2 := by
      show Prog.run (log _ _ _ _ >>= _) s = _
      rw [Prog.run_bind, run_log]
      rfl
    unfold Prog.Returns
    rw [hafter]
    refine (handleDatagram_returns_iff L address (cString buffer) _).trans ?_
    simp [RecvResult.text]

/-! ## alerts -/

/-- the alert has its two texts, and a client that is a text if it names one -/
def Accepted (L : Libs) (alertMessage : Bytes) : Prop :=
  ∃ alertData type message client, alertFields L alertMessage = .ok (alertData, type, message) ∧
    alertClient alertData = .ok client

/-- the alert makes the server lock a client, and the `Storage` call of that lock throws -/
def LockFails (L : Libs) (alertMessage : Bytes) (s : St) : Prop :=
  ∃ clientId, lockTarget L alertMessage = some clientId ∧
    ((alertState L alertMessage s).env 0).fails = true

theorem update?_setLocked (users : Users) (clientId : String) (isLocked : Bool) :
    ∃ users', users.update? clientId (UserRow.setLocked isLocked) = some users' := by
  unfold Table.update?
  cases hrow : users.find? clientId with
  | none => exact ⟨users, rfl⟩
  | some row =>
    have hcheck : userCheck clientId (row.setLocked isLocked) := users.checked clientId row hrow
    exact ⟨_, users.upsert?_eq_some hcheck⟩

theorem lockClient_returns_iff (clientId : String) (s : St) :
    (lockClient clientId).Returns s ↔ (s.env 0).fails = false := by
  unfold lockClient changeLock Prog.Returns
  rw [Prog.run_bind, run_setClientLockStatus]
  cases (s.env 0).fails with
  | true =>
    refine iff_of_false ?_ nofun
    rintro ⟨a, s', h⟩
    cases h
  | false =>
    obtain ⟨users, hupd⟩ := update?_setLocked s.core.users clientId true
    simp only [Bool.false_eq_true, if_false, hupd]
    refine iff_of_true ?_ trivial
    refine Prog.returns_ite ?_ ?_
    · refine Prog.returns_bind (log_returns _ _ _ _ _) fun _ s₁ => ?_
      exact Prog.returns_bind ⟨_, _, rfl⟩ fun _ s₂ => Prog.returns_pure _ _
    · exact Prog.returns_bind (log_returns _ _ _ _ _) fun _ s₁ => Prog.returns_pure _ _

theorem lockClient_error (clientId : String) {s : St} {e : Exn}
    (h : ((lockClient clientId).run s).1 = .error e) : ∃ e', e = .sqlite e' := by
  have hspec : LockChange true (insert clientId) clientId s.core ((lockClient clientId).run s).1
      ((lockClient clientId).run s).2.core := changeLock_spec true _ _ _ clientId s
  generalize ((lockClient clientId).run s).2.core = core at hspec
  rw [h] at hspec
  cases hspec with
  | failed e' => exact ⟨e', rfl⟩

theorem processAlert_returns_iff (L : Libs) (cfg : Config) (alertMessage : Bytes) (s : St) :
    (processAlert L cfg alertMessage).Returns s ↔ ¬ LockFails L alertMessage s := by
  refine (returns_catchJson_iff fun e s' => log_returns _ _ _ _ s').trans ?_
  have hnobody : ∀ p : Prop, ¬ ∃ clientId : String, none = some clientId ∧ p := by
    rintro p ⟨clientId, h, -⟩
    cases h
  unfold LockFails lockTarget alertState
  cases alertFields L alertMessage with
  | error e =>
    refine iff_of_true ?_ (hnobody _)
    intro e' h
    cases h
  | ok fields =>
    obtain ⟨alertData, type, message⟩ := fields
    rw [json_ok_bind]
    dsimp only
    rw [Prog.run_bind, logAlert, run_log]
    dsimp only
    generalize s.logged _ _ _ _ = s₁
    cases alertClient alertData with
    | error e =>
      refine iff_of_true ?_ (hnobody _)
      intro e' h
      cases h
    | ok client =>
      rw [json_ok_bind, lockThreatened_eq]
      dsimp only
      cases (if isThreat type then client else none) with
      | none =>
        refine iff_of_true ?_ (hnobody _)
        intro e
        exact returns_not_error (broadcastMessage_returns L cfg alertData s₁) _
      | some clientId =>
        have hiff := lockClient_returns_iff clientId s₁
        simp only [Option.some.injEq, exists_eq_left']
        cases hfails : (s₁.env 0).fails with
        | false =>
          refine iff_of_true ?_ Bool.false_ne_true
          intro e
          have hlock := hiff.mpr hfails
          have hunit := Prog.returns_bind hlock fun _ s₂ => Prog.returns_pure () s₂
          exact returns_not_error
            (Prog.returns_bind hunit fun _ s₂ => broadcastMessage_returns L cfg alertData s₂) _
        | true =>
          refine iff_of_false ?_ fun h => h rfl
          intro hnone
          have hthrows : ¬ (lockClient clientId).Returns s₁ := by
            rw [hiff, hfails]
            exact Bool.noConfusion
          have herror := fun e => lockClient_error clientId (s := s₁) (e := e)
          rw [Prog.run_bind, Prog.run_bind] at hnone
          unfold Prog.Returns at hthrows
          generalize (lockClient clientId).run s₁ = r at hnone hthrows herror
          obtain ⟨r, s₂⟩ := r
          cases r with
          | ok b => exact hthrows ⟨b, s₂, rfl⟩
          | error e =>
            obtain ⟨e', rfl⟩ := herror e rfl
            exact hnone e' rfl

theorem rejected_core {L : Libs} {alertMessage : Bytes} (h : ¬ Accepted L alertMessage)
    (cfg : Config) (s : St) : ((processAlert L cfg alertMessage).run s).2.core = s.core := by
  refine catchJson_core (Q := fun c => c = s.core) ?_ fun e s' => log_core _ _ _ _ s'
  cases hf : alertFields L alertMessage with
  | error e => rfl
  | ok fields =>
    obtain ⟨alertData, type, message⟩ := fields
    rw [json_ok_bind]
    dsimp only
    cases hc : alertClient alertData with
    | ok client => exact absurd ⟨alertData, type, message, client, hf, hc⟩ h
    | error e =>
      rw [Prog.run_bind, logAlert, run_log]
      exact St.logged_core s _ _ _ _

/-! ## both handlers -/

/-- both handlers return; a datagram that is no keepalive of an active session leaves the UDP
addresses alone, an alert that is not accepted the lock flags and the event queues -/
structure HandlersTotal (L : Libs) (cfg : Config) (input : RecvResult) (alert : Bytes) (s : St) :
    Prop where
  datagram_returns : (handleMessage L input).Returns s
  alert_returns : (processAlert L cfg alert).Returns s
  addresses : (∀ text, input.text = some text → keepaliveTarget L s.core text = none) →
    ∀ sid, (((handleMessage L input).run s).2.core.sessions sid).udpAddress =
      (s.core.sessions sid).udpAddress
  locks : ¬ Accepted L alert →
    (∀ user, (((processAlert L cfg alert).run s).2.core.users.find? user).map UserRow.isLocked =
      (s.core.users.find? user).map UserRow.isLocked) ∧
    ((processAlert L cfg alert).run s).2.core.manager.lockedClients =
      s.core.manager.lockedClients ∧
    ((processAlert L cfg alert).run s).2.core.eventQueueMap = s.core.eventQueueMap

/-- **The handlers are total exactly where the datagram is not JSON without a place for a command
string, and the alert's lock does not fail in the database.** -/
theorem handlers_total_iff (L : Libs) (cfg : Config) (input : RecvResult) (alert : Bytes) (s : St) :
    HandlersTotal L cfg input alert s ↔
      (∀ text, input.text = some text → ¬ Mistyped L text) ∧ ¬ LockFails L alert s := by
  constructor
  · intro h
    exact ⟨(handleMessage_returns_iff L input s).mp h.datagram_returns,
      (processAlert_returns_iff L cfg alert s).mp h.alert_returns⟩
  · rintro ⟨hdatagram, halert⟩
    refine ⟨(handleMessage_returns_iff L input s).mpr hdatagram,
      (processAlert_returns_iff L cfg alert s).mpr halert, ?_, ?_⟩
    · intro hnone sid
      rw [handleMessage_core]
      cases input with
      | again => rfl
      | error => rfl
      | data address buffer =>
        dsimp only
        rw [hnone (cString buffer) rfl]
        rfl
    · intro hrejected
      rw [rejected_core hrejected cfg s]
      exact ⟨fun _ => rfl, rfl, rfl⟩

/-! A keepalive whose command is a number, and an alert that names alice while the database cannot
be written. -/

def numberedCommand : Json := .obj [("command", .int 7)]

def aliceInfection : Json :=
  .obj [("clientId", .str "alice"), ("message", .str "m"), ("type", .str "infection")]

def brokenDisk : St := { St.sample aliceUsers .empty with env := fun _ => ⟨0, true, "", .all, none⟩ }

theorem handlers_throw :
    ((handleMessage (.known [numberedCommand])
        (.data "10.0.0.9:4" (bytesOf numberedCommand.render))).run (.sample aliceUsers .empty)).1 =
      .error (.json (.typeError 302)) ∧
    ((processAlert (.known [aliceInfection]) .sample (bytesOf aliceInfection.render)).run
      brokenDisk).1 = .error (.sqlite .failure) := ⟨rfl, rfl⟩

end Logistics
