import Logistics.Auth.BruteForce
import Logistics.Session.Routine

/-!
# Log rows that the database refuses

A row of the table `logs` may name a client, who must be a user.  `Logger::log` reports a row that
could not be stored on its error stream and goes on.

Runs of messages, alerts and restarts over a database that answers every statement:

* `Audited ids`     a call that logs for users in `ids` only stores every row;
* `Grows`           nothing is taken from the error stream;
* `NamesUnknown`    the input makes the server lock or unlock a client that is no user;
* `audit_rows_iff`  **every row of a run is stored exactly if no input of it is such a one**.
-/

namespace Logistics
open Runs

/-! ## every row is stored -/

/-- while the database answers and the `ids` are users, nothing is reported and no user is lost -/
def Audited (ids : Set String) (s s' : St) : Prop :=
  s.Healthy → (∀ id ∈ ids, (s.core.users.find? id).isSome) →
    s'.Healthy ∧ UsersKept s.core s'.core ∧ s'.journal.errorStream = s.journal.errorStream

instance (ids : Set String) : IsPreorder St (Audited ids) where
  refl _ h _ := ⟨h, fun _ => id, rfl⟩
  trans _ _ _ h h' hhealthy hids := by
    obtain ⟨hhealthy₁, hkept₁, hsame₁⟩ := h hhealthy hids
    obtain ⟨hhealthy₂, hkept₂, hsame₂⟩ := h' hhealthy₁ fun id hid => hkept₁ id (hids id hid)
    exact ⟨hhealthy₂, fun user hu => hkept₂ user (hkept₁ user hu), hsame₂.trans hsame₁⟩

theorem audited_logged {ids : Set String} (s : St) (level : LogLevel) (component message : String)
    {clientId : Option String} (hid : ∀ id, clientId = some id → id ∈ ids) :
    Audited ids s (s.logged level component message clientId) := by
  intro hhealthy hids
  refine ⟨hhealthy.logged level component message clientId, ?_, ?_⟩
  · rw [St.logged_core]
    exact fun _ => id
  · have hstored : s.loggedError clientId = none := by
      unfold St.loggedError
      rw [hhealthy 1, if_neg Bool.false_ne_true]
      cases clientId with
      | none => rfl
      | some id =>
        have hsome := hids id (hid id rfl)
        simp [Option.isSome_iff_ne_none.mp hsome]
    rw [St.logged_eq, hstored]
    exact List.append_nil _

theorem audited_routine (ids : Set String) : Routine (Audited ids) where
  next _ hhealthy _ := ⟨hhealthy.next, fun _ => id, rfl⟩
  core _ _ hchange hhealthy _ := ⟨hhealthy, hchange.users, rfl⟩
  messages _ _ hhealthy _ := ⟨hhealthy, fun _ => id, rfl⟩
  reconnections _ _ hhealthy _ := ⟨hhealthy, fun _ => id, rfl⟩
  plain s level component message := audited_logged s level component message fun _ h => by cases h

theorem audited_sends (ids : Set String) (message : String) : Sending (Audited ids) message where
  datagram _ _ hhealthy _ := ⟨hhealthy, fun _ => id, rfl⟩
  udpError _ hhealthy _ := ⟨hhealthy, fun _ => id, rfl⟩
  push cfg user := pushEvent_routine (audited_routine ids)
    (fun _ _ hhealthy _ => ⟨hhealthy, fun _ => id, rfl⟩) cfg user _

theorem audited_notes {ids : Set String} {id : String} (hid : id ∈ ids) (component : String) :
    Notes (Audited ids) component id := by
  intro s level message
  refine audited_logged s level component message fun id' h => ?_
  cases h
  exact hid

theorem audited_count (ids : Set String) : (incrementError .tcp .rx).Keeps (Audited ids) :=
  fun _ hhealthy _ => ⟨hhealthy, fun _ => id, rfl⟩

/-! ## a row is refused -/

/-- the error stream is only added to -/
def Grows (s s' : St) : Prop := s.journal.errorStream <+: s'.journal.errorStream

instance : IsPreorder St Grows where
  refl _ := List.prefix_rfl
  trans _ _ _ h h' := h.trans h'

theorem grows_logged (s : St) (level : LogLevel) (component message : String)
    (clientId : Option String) : Grows s (s.logged level component message clientId) := by
  unfold Grows
  rw [St.logged_eq]
  exact List.prefix_append _ _

theorem grows_routine : Routine Grows where
  next _ := List.prefix_rfl
  core _ _ _ := List.prefix_rfl
  messages _ _ := List.prefix_rfl
  reconnections _ _ := List.prefix_rfl
  plain s level component message := grows_logged s level component message none

theorem grows_sends (message : String) : Sending Grows message where
  datagram _ _ := List.prefix_rfl
  udpError _ := List.prefix_rfl
  push cfg user := pushEvent_routine grows_routine (fun _ _ => List.prefix_rfl) cfg user _

theorem grows_notes (component id : String) : Notes Grows component id :=
  fun s level message => grows_logged s level component message (some id)

/-- something was reported -/
def Reported (s : St) : Prop := s.journal.errorStream ≠ []

theorem Reported.mono {s s' : St} (h : Reported s) (hgrows : Grows s s') : Reported s' := by
  intro hempty
  unfold Grows at hgrows
  rw [hempty, List.prefix_nil] at hgrows
  exact h hgrows

theorem reported_bind {α β : Type} {q : M α} {f : α → M β} {s : St} (hq : Reported (q.run s).2)
    (hf : ∀ a, (f a).Keeps Grows) : Reported ((q >>= f).run s).2 := by
  rw [Prog.run_bind]
  generalize q.run s = r at hq ⊢
  obtain ⟨r, s'⟩ := r
  cases r with
  | ok a => exact hq.mono (hf a s')
  | error e => exact hq

theorem reported_tryCatch {α : Type} {p : M α} {handler : Exn → M α} {s : St}
    (hp : Reported (p.run s).2) (hh : ∀ e, (handler e).Keeps Grows) :
    Reported ((tryCatch p handler).run s).2 := by
  rw [Prog.run_tryCatch]
  generalize p.run s = r at hp ⊢
  obtain ⟨r, s'⟩ := r
  cases r with
  | ok a => exact hp
  | error e => exact hp.mono (hh e s')

theorem reported_catchJson {α : Type} {p : M α} {handler : JsonError → M α} {s : St}
    (hp : Reported (p.run s).2) (hh : ∀ e, (handler e).Keeps Grows) :
    Reported ((catchJson p handler).run s).2 := by
  refine reported_tryCatch hp fun e => ?_
  cases e with
  | json e => exact hh e
  | sqlite e => exact fun s => refl_of Grows s

/-- **A lock change for a client that is no user logs a row that is refused.** -/
theorem changeLock_reported {isLocked : Bool} {done missed : String}
    {change : Finset String → Finset String} {clientId : String} {s : St} (hhealthy : s.Healthy)
    (hunknown : s.core.users.find? clientId = none) :
    Reported ((changeLock isLocked done missed change clientId).run s).2 := by
  have hupdate : s.core.users.update? clientId (UserRow.setLocked isLocked) = some s.core.users := by
    unfold Table.update?
    rw [hunknown]
  unfold changeLock
  rw [Prog.run_bind, run_setClientLockStatus, hhealthy 0, if_neg Bool.false_ne_true, hupdate, hunknown]
  simp only [Option.isSome_none, Bool.false_eq_true, if_false, Prog.run_bind, run_log, Prog.run_pure]
  unfold Reported
  have hrefused : s.next.loggedError (some clientId) = some (.sqlite .constraint) := by
    unfold St.loggedError
    have hfails : (s.next.env 1).fails = false := hhealthy 2
    have hnone : ((some clientId).any fun c => (s.next.core.users.find? c).isNone) = true := by
      show (s.core.users.find? clientId).isNone = true
      rw [hunknown]
      rfl
    rw [hfails, if_neg Bool.false_ne_true, if_pos hnone]
  show (St.logged s.next _ _ _ _).journal.errorStream ≠ []
  rw [St.logged_eq, hrefused]
  simp

theorem run_unlock_reported {L : Libs} {cfg : Config} {me : String} {request : Json}
    {client : String} {s : St} (htarget : unlockTarget cfg me request = some client)
    (hhealthy : s.Healthy) (hunknown : s.core.users.find? client = none) :
    Reported ((commandMessage L cfg me request).run s).2 := by
  obtain ⟨hadmin, hcmd, hfields⟩ := unlockTarget_cases htarget
  subst hadmin
  have hrefuse : ∀ message note, (refuse L message note "admin").Keeps Grows := fun message note s =>
    (refuse_ends (grows_notes _ _) message note s).keeps fun _ => List.prefix_rfl
  unfold commandMessage
  refine reported_tryCatch ?_ fun e s' =>
    (commandFailed_ends grows_routine "admin" e s').keeps fun _ => List.prefix_rfl
  rw [processCommand_eq_dispatch L cfg hcmd]
  show Reported ((handleUnlockClientCommand L cfg request "admin").run s).2
  unfold handleUnlockClientCommand
  rw [if_pos rfl, hfields]
  refine reported_catchJson ?_ fun _ => hrefuse _ _
  rw [json_ok_bind]
  dsimp only
  rw [if_pos rfl]
  refine reported_bind (changeLock_reported hhealthy hunknown) fun success => ?_
  exact Prog.keeps_ite (Prog.keeps_pure _) (hrefuse _ _)

theorem processAlert_reported {L : Libs} {cfg : Config} {text : Bytes} {client : String} {s : St}
    (htarget : lockTarget L text = some client) (hhealthy : s.Healthy)
    (hunknown : s.core.users.find? client = none) :
    Reported ((processAlert L cfg text).run s).2 := by
  refine reported_catchJson ?_ fun _ => log_plain grows_routine _ _ _
  unfold lockTarget at htarget
  cases hfields : alertFields L text with
  | error e => simp [hfields] at htarget
  | ok fields =>
    obtain ⟨alertData, type, message⟩ := fields
    rw [json_ok_bind]
    dsimp only
    unfold logAlert
    rw [Prog.run_bind, run_log]
    dsimp only
    have hhealthy₁ := hhealthy.logged .warning "AlertManager"
      ("Received alert from sensor. Type: " ++ type ++ ", Message: " ++ message) none
    have hcore := St.logged_core s .warning "AlertManager"
      ("Received alert from sensor. Type: " ++ type ++ ", Message: " ++ message) none
    generalize s.logged _ _ _ _ = s₁ at hhealthy₁ hcore ⊢
    rw [← hcore] at hunknown
    cases hclient : alertClient alertData with
    | error e => simp [hfields, hclient] at htarget
    | ok target =>
      simp only [hfields, hclient] at htarget
      rw [json_ok_bind, lockThreatened_eq, htarget]
      refine reported_bind ?_ fun _ => broadcastMessage_routine grows_routine L cfg
        (grows_sends _)
      exact reported_bind (changeLock_reported hhealthy₁ hunknown) fun _ => Prog.keeps_pure _

/-! ## runs -/

/-- the database answers -/
def LifeInput.Healthy : LifeInput → Prop
  | .input i => ∀ n, (i.env n).fails = false
  | .restart _ env => ∀ n, (env n).fails = false

/-- the input makes the server lock or unlock a client that is no user -/
def NamesUnknown (L : Libs) (cfg : Config) (w : World) : LifeInput → Prop
  | .input i => ∃ client, w.core.users.find? client = none ∧
      ((∃ sid text request, i.what = .message sid text ∧
          (w.core.sessions sid).isAuthenticated = true ∧ L.parse text = some request ∧
          unlockTarget cfg (w.core.sessions sid).clientID request = some client) ∨
        ∃ text, i.what = .alert text ∧ lockTarget L text = some client)
  | .restart _ _ => False

section Runs
variable {L : Libs} {cfg : Config} {w : World}

theorem run_perform_message (sid : Nat) (text : Bytes) (s : St) :
    ((perform L cfg (.message sid text)).run s).2 = ((processMessage L cfg sid text).run s).2 := by
  unfold perform
  rw [Prog.run_bind]
  generalize (processMessage L cfg sid text).run s = r
  obtain ⟨r, s'⟩ := r
  cases r with
  | ok r => rfl
  | error e => rfl

/-- an input that names no stranger -/
theorem perform_audited {i : Input} (hw : Members w) (hknown : ¬ NamesUnknown L cfg w (.input i)) :
    Audited {id | (w.core.users.find? id).isSome} (w.before i)
      ((perform L cfg i.what).run (w.before i)).2 := by
  have hregistered : ∀ client, ¬ w.core.users.find? client = none →
      client ∈ {id | (w.core.users.find? id).isSome} := fun client h =>
    Option.isSome_iff_ne_none.mpr h
  have hR := audited_routine {id | (w.core.users.find? id).isSome}
  cases hwhat : i.what with
  | alert text =>
    refine processAlert_routine hR L cfg (fun text _ => audited_sends _ text)
      (fun client htarget => ?_) (w.before i)
    refine audited_notes (hregistered client fun hnone => ?_) _
    exact hknown ⟨client, hnone, .inr ⟨text, hwhat, htarget⟩⟩
  | message sid text =>
    rw [run_perform_message]
    have hme : (w.core.sessions sid).isAuthenticated = true →
        (w.core.sessions sid).clientID ∈ {id | (w.core.users.find? id).isSome} := fun ha =>
      hw sid _ ⟨ha, rfl⟩
    refine processMessage_routine hR (audited_count _) (fun ha => audited_notes (hme ha) _)
      (fun _ ha _ _ => audited_notes (hme ha) _) fun request client ha hp htarget => ?_
    refine audited_notes (hregistered client fun hnone => ?_) _
    exact hknown ⟨client, hnone, .inl ⟨sid, text, request, hwhat, ha, hp, htarget⟩⟩

/-- an input that names one -/
theorem perform_reported {i : Input} (hhealthy : ∀ n, (i.env n).fails = false)
    (hunknown : NamesUnknown L cfg w (.input i)) :
    Reported ((perform L cfg i.what).run (w.before i)).2 := by
  obtain ⟨client, hnone, ⟨sid, text, request, hwhat, ha, hp, htarget⟩ | ⟨text, hwhat, htarget⟩⟩ :=
    hunknown
  · rw [hwhat, run_perform_message, run_processMessage_member L cfg hp ha]
    refine run_unlock_reported htarget ?_ ?_
    · intro n
      rw [received_env]
      exact hhealthy (n + 2)
    · rw [received_core]
      exact hnone
  · rw [hwhat]
    exact processAlert_reported htarget hhealthy hnone

theorem members_lifeStep {w' : World} {i : LifeInput} (hw : Members w)
    (hstep : lifeStep L cfg w i = some w') : Members w' := by
  cases i with
  | input i =>
    cases hstep
    exact (stepped_after L cfg w i).members hw _
  | restart ips env =>
    cases hstep
    exact members_restart L ips env w

theorem stored_iff {w' : World} {i : LifeInput} (hw : Members w)
    (hstored : w.journal.errorStream = []) (hhealthy : i.Healthy)
    (hstep : lifeStep L cfg w i = some w') :
    w'.journal.errorStream = [] ↔ ¬ NamesUnknown L cfg w i := by
  cases i with
  | restart ips env =>
    cases hstep
    refine iff_of_true ?_ id
    have haudited := setupServer_routine (audited_routine ∅) L ((w.reopened ips).facing env)
    exact (haudited hhealthy fun id hid => absurd hid (Set.notMem_empty id)).2.2
  | input i =>
    cases hstep
    constructor
    · intro hempty hunknown
      exact perform_reported hhealthy hunknown hempty
    · intro hknown
      have haudited := perform_audited hw hknown hhealthy fun id hid => hid
      exact haudited.2.2.trans hstored

end Runs

/-- **Over a database that answers, every row that a run logs is stored exactly if no input of
the run makes the server lock or unlock a client that is no user.** -/
theorem audit_rows_iff (L : Libs) (cfg : Config) (core : Core) (journal : Journal)
    (ips : Nat → String) (hstart : journal.errorStream = []) (inputs : List LifeInput)
    (hhealthy : ∀ i ∈ inputs, i.Healthy) :
    Always (lifeStep L cfg) (.start core journal ips) inputs (fun w => w.journal.errorStream = []) ↔
      ¬ Occurred (lifeStep L cfg) (.start core journal ips) inputs (NamesUnknown L cfg) := by
  refine always_iff_not_occurred hhealthy ?_ (fun _ _ _ hw hstep => members_lifeStep hw hstep)
    hstart ?_ fun _ _ _ hw hstored hi hstep => stored_iff hw hstored hi hstep
  · rintro sid user ⟨hauth, -⟩
    cases hauth
  · intro w i _
    cases i with
    | input i => exact ⟨_, rfl⟩
    | restart ips env => exact ⟨_, rfl⟩

/-! An alert that names alice, and one that names someone unknown. -/

def contactAlert (clientId : String) : Json := .obj [("clientId", .str clientId),
  ("message", .str "contact"), ("type", .str "infection")]

def alertRun (clientId : String) : List LifeInput :=
  [.input ⟨.alert (bytesOf (contactAlert clientId).render), healthy⟩]

theorem audit_rows_alice :
    Always (lifeStep (.known [contactAlert "alice"]) .sample)
      (.start (.boot aliceUsers .empty fun _ => "") .empty fun _ => "") (alertRun "alice")
      (fun w => w.journal.errorStream = []) := by
  refine (audit_rows_iff (.known [contactAlert "alice"]) .sample _ .empty _ rfl
    (alertRun "alice") ?_).mpr ?_
  · intro i hi
    cases List.mem_singleton.mp hi
    exact fun _ => rfl
  · unfold alertRun
    rw [occurred_cons]
    rintro (⟨client, hnone, ⟨sid, text, request, hwhat, -⟩ | ⟨text, hwhat, htarget⟩⟩ | ⟨w, -, hrest⟩)
    · cases hwhat
    · cases hwhat
      have halice : lockTarget (.known [contactAlert "alice"])
          (bytesOf (contactAlert "alice").render) = some "alice" := by decide
      cases halice.symm.trans htarget
      exact absurd hnone (by decide)
    · exact not_occurred_nil w _ hrest

theorem unknown_client_row_is_refused :
    ∃ w, runFrom (lifeStep (.known [contactAlert "nobody"]) .sample)
        (.start (.boot aliceUsers .empty fun _ => "") .empty fun _ => "") (alertRun "nobody") =
          some w ∧
      w.journal.errorStream = [.sqlite .constraint] ∧
      ∀ row ∈ w.journal.logs, row.component ≠ "SessionManager" := by
  refine ⟨_, rfl, ?_⟩
  decide

end Logistics
