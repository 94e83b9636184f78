import Logistics.Lib.Presence
import Logistics.Session.Access
import Logistics.Session.Udp

/-!
# The registry and the sessions

The registry of the `SessionManager` is keyed by user, the sessions by number.  `Core.presence`
puts the two together as a `Presence`.

* `SamePresence`      neither the registry nor a login has changed;
* `heard_presence`    the message that a `run` reads logs in at most one user;
* `run_ends`          **a `run` that returns false lets its session leave**;
* `run_error`         except after a read error: the registry is not told.
-/

namespace Logistics
open Std

/-! ## the presence of a core -/

/-- the user a session is registered for when it ends -/
def Session.user (session : Session) : Option String :=
  if session.clientID = "" then none else some session.clientID

def Core.presence (c : Core) (ended : Finset Nat) : Presence String Nat where
  active user := c.manager.activeSessions[user]?
  offline := {user | user ∈ c.manager.offlineUsers}
  connected := {user | user ∈ c.manager.connectedUsers}
  user sid := (c.sessions sid).user
  ended := {sid | sid ∈ ended}

/-- the same users are logged in on the same sessions -/
structure SameLogins (c c' : Core) : Prop where
  clientID : ∀ sid, (c'.sessions sid).clientID = (c.sessions sid).clientID
  isAuthenticated : ∀ sid, (c'.sessions sid).isAuthenticated = (c.sessions sid).isAuthenticated

theorem SameLogins.trans {c₁ c₂ c₃ : Core} (h : SameLogins c₁ c₂) (h' : SameLogins c₂ c₃) :
    SameLogins c₁ c₃ :=
  ⟨fun sid => (h'.clientID sid).trans (h.clientID sid),
    fun sid => (h'.isAuthenticated sid).trans (h.isAuthenticated sid)⟩

theorem sameLogins_of_sessions {c c' : Core} (h : c'.sessions = c.sessions) : SameLogins c c' :=
  ⟨fun _ => by rw [h], fun _ => by rw [h]⟩

/-- neither the registry nor a login has changed -/
structure SamePresence (c c' : Core) : Prop where
  active : c'.manager.activeSessions = c.manager.activeSessions
  offline : c'.manager.offlineUsers = c.manager.offlineUsers
  connected : c'.manager.connectedUsers = c.manager.connectedUsers
  logins : SameLogins c c'

instance : IsPreorder Core SamePresence where
  refl _ := ⟨rfl, rfl, rfl, sameLogins_of_sessions rfl⟩
  trans _ _ _ h h' := ⟨h'.active.trans h.active, h'.offline.trans h.offline,
    h'.connected.trans h.connected, h.logins.trans h'.logins⟩

theorem SamePresence.presence {c c' : Core} (h : SamePresence c c') (ended : Finset Nat) :
    c'.presence ended = c.presence ended := by
  have huser : ∀ sid, (c'.sessions sid).user = (c.sessions sid).user := by
    intro sid
    unfold Session.user
    rw [h.logins.clientID sid]
  unfold Core.presence
  rw [h.active, h.offline, h.connected, funext huser]

theorem samePresence_of_eq {c c' : Core} (hmanager : c'.manager = c.manager)
    (hsessions : c'.sessions = c.sessions) : SamePresence c c' :=
  ⟨by rw [hmanager], by rw [hmanager], by rw [hmanager], sameLogins_of_sessions hsessions⟩

/-- members of a session other than its login are written -/
theorem samePresence_withSession (c : Core) (sid : Nat) {session : Session}
    (hid : session.clientID = (c.sessions sid).clientID)
    (hauth : session.isAuthenticated = (c.sessions sid).isAuthenticated) :
    SamePresence c (c.withSession sid session) := by
  refine ⟨rfl, rfl, rfl, ?_, ?_⟩
  · intro sid'
    show (Function.update c.sessions sid session sid').clientID = _
    by_cases h : sid' = sid
    · rw [h, Function.update_self, hid]
    · rw [Function.update_of_ne h]
  · intro sid'
    show (Function.update c.sessions sid session sid').isAuthenticated = _
    by_cases h : sid' = sid
    · rw [h, Function.update_self, hauth]
    · rw [Function.update_of_ne h]

theorem LockChange.samePresence {isLocked : Bool} {change : Finset String → Finset String}
    {client : String} {c c' : Core} {r : Except Exn Bool}
    (h : LockChange isLocked change client c r c') : SamePresence c c' := by
  cases h with
  | failed e => exact refl_of SamePresence c
  | missed hrow => exact refl_of SamePresence c
  | done users row hrow hupd => exact ⟨rfl, rfl, rfl, sameLogins_of_sessions rfl⟩

theorem QueuesOnly.samePresence {c c' : Core} (h : QueuesOnly c c') : SamePresence c c' :=
  samePresence_of_eq h.manager h.sessions

theorem CommandEffect.samePresence {cfg : Config} {me : String} {request : Json} {s : St} {c : Core}
    (h : CommandEffect cfg me request s c) : SamePresence s.core c := by
  cases h with
  | none => exact refl_of SamePresence s.core
  | fill cache => exact samePresence_of_eq rfl rfl
  | update category item quantity stock hub hst => exact samePresence_of_eq rfl rfl
  | register user hash users admin hreg => exact samePresence_of_eq rfl rfl
  | unlock user hu => exact (unlockClient_change user s).samePresence

theorem getElem?_insert_eq_update (m : ExtTreeMap String Nat) (user : String) (sid : Nat) :
    (fun user' => (m.insert user sid)[user']?) =
      Function.update (fun user' => m[user']?) user (some sid) := by
  funext user'
  rw [ExtTreeMap.getElem?_insert]
  by_cases h : user' = user
  · rw [h, Function.update_self, if_pos (Std.compare_eq_iff_eq.mpr rfl)]
  · rw [Function.update_of_ne h, if_neg fun heq => h (Std.compare_eq_iff_eq.mp heq).symm]

theorem getElem?_erase_eq_update (m : ExtTreeMap String Nat) (user : String) :
    (fun user' => (m.erase user)[user']?) =
      Function.update (fun user' => m[user']?) user none := by
  funext user'
  rw [ExtTreeMap.getElem?_erase]
  by_cases h : user' = user
  · rw [h, Function.update_self, if_pos (Std.compare_eq_iff_eq.mpr rfl)]
  · rw [Function.update_of_ne h, if_neg fun heq => h (Std.compare_eq_iff_eq.mp heq).symm]

variable {L : Libs} {cfg : Config} {sid : Nat} {user : String} {text : Bytes} {s : St} {c c' : Core}

/-! ## messages and alerts -/

/-- without a successful login nothing happens to the presence -/
theorem Stepped.samePresence {w : World} {i : Input} (h : Stepped L cfg w i c)
    (hno : ∀ sid user, ¬ LogsIn L cfg sid user w i) : SamePresence w.core c := by
  cases h with
  | @login sid text user row _ what success hrow hl effect =>
    exact absurd ⟨text, what, success⟩ (hno sid user)
  | guest what guest noLogin effect => exact samePresence_of_eq effect.manager effect.sessions
  | invalid what member text_eq => exact refl_of SamePresence w.core
  | command what member text_eq effect =>
    have hsame := effect.samePresence
    rwa [received_core] at hsame
  | alert what noLock effect => exact effect.samePresence
  | alertLock what call change effect =>
    exact trans_of SamePresence change.samePresence effect.samePresence

theorem processAlert_presence (L : Libs) (cfg : Config) (text : Bytes) (s : St) :
    SamePresence s.core ((processAlert L cfg text).run s).2.core :=
  (stepped_after L cfg s.world ⟨.alert text, s.env⟩).samePresence (not_logsIn_of_alert rfl)

/-- the user that a message logs in -/
def loginOf (L : Libs) (cfg : Config) (sid : Nat) (text : Bytes) (s : St) : Option String :=
  match authCall L cfg sid text s with
  | some (user, .ok .success) => some user
  | _ => none

theorem loginOf_eq_some_iff : loginOf L cfg sid text s = some user ↔
      authCall L cfg sid text s = some (user, .ok .success) := by
  unfold loginOf
  constructor
  · intro h
    split at h
    · rename_i user' heq
      cases h
      exact heq
    · cases h
  · intro h
    rw [h]

theorem processMessage_samePresence (hno : loginOf L cfg sid text s = none) :
    SamePresence s.core ((processMessage L cfg sid text).run s).2.core := by
  have hafter := stepped_after L cfg s.world ⟨.message sid text, s.env⟩
  rw [after_message rfl] at hafter
  refine hafter.samePresence ?_
  rintro sid' user ⟨text', what, hcall⟩
  cases what
  have hsome : loginOf L cfg sid text s = some user := loginOf_eq_some_iff.mpr hcall
  rw [hno] at hsome
  cases hsome

theorem presence_loggedIn (c : Core) (ended : Finset Nat) (sid : Nat) (hu : user ≠ "") :
    Core.presence { c.withSession sid ((c.sessions sid).loggedIn user) with
      manager := c.manager.registered user sid } ended = (c.presence ended).login sid user := by
  unfold Core.presence Presence.login
  congr 1
  · exact getElem?_insert_eq_update c.manager.activeSessions user sid
  · ext user'
    show user' ∈ c.manager.offlineUsers.erase user ↔ user' ∈ c.manager.offlineUsers ∧ ¬ user' = user
    rw [ExtTreeSet.mem_erase, and_comm, Ne, Std.compare_eq_iff_eq, eq_comm]
  · ext user'
    show user' ∈ insert user c.manager.connectedUsers ↔ _
    exact Finset.mem_insert
  · funext sid'
    show (Function.update c.sessions sid ((c.sessions sid).loggedIn user) sid').user = _
    by_cases h : sid' = sid
    · rw [h, Function.update_self, Function.update_self]
      exact if_neg hu
    · rw [Function.update_of_ne h, Function.update_of_ne h]

theorem processMessage_loggedIn (h : loginOf L cfg sid text s = some user) (ended : Finset Nat) :
    ((processMessage L cfg sid text).run s).2.core.presence ended =
      (s.core.presence ended).login sid user := by
  obtain ⟨s₁, row, hrow, -, hcounters, hrun⟩ :=
    run_processMessage_login (loginOf_eq_some_iff.mp h)
  obtain ⟨answer, s', hreply, -, hcore⟩ :=
    run_loginReply_success L sid (s.core.sessions sid).clientIP user s₁
  have hsame : s₁.core.presence ended = s.core.presence ended :=
    (samePresence_of_eq hcounters.manager hcounters.sessions).presence ended
  rw [hrun, hreply]
  show s'.core.presence ended = _
  rw [hcore, presence_loggedIn s₁.core ended sid (name_ne_empty hrow), hsame]

/-! ## a run -/

/-- the user that a `run` logs in -/
def runLogin (L : Libs) (cfg : Config) (sid : Nat) (input : ReadResult) (s : St) : Option String :=
  match input with
  | .data chunk => loginOf L cfg sid (cString chunk) s
  | _ => none

/-- the user of the session once the input is heard: whom the message logs in, or the one it has -/
def speaker (L : Libs) (cfg : Config) (sid : Nat) (input : ReadResult) (s : St) : Option String :=
  (runLogin L cfg sid input s).or (s.core.sessions sid).user

/-- the core once the message that was read is processed -/
def heard (L : Libs) (cfg : Config) (sid : Nat) (input : ReadResult) (s : St) : Core :=
  match input with
  | .data chunk => ((processMessage L cfg sid (cString chunk)).run s).2.core
  | _ => s.core

theorem heard_presence (L : Libs) (cfg : Config) (sid : Nat) (input : ReadResult) (s : St)
    (ended : Finset Nat) : (heard L cfg sid input s).presence ended =
      match runLogin L cfg sid input s with
      | some user => (s.core.presence ended).login sid user
      | none => s.core.presence ended := by
  cases input with
  | data chunk =>
    have hlogin : runLogin L cfg sid (.data chunk) s = loginOf L cfg sid (cString chunk) s := rfl
    rw [hlogin]
    cases h : loginOf L cfg sid (cString chunk) s with
    | some user => exact processMessage_loggedIn h ended
    | none => exact (processMessage_samePresence h).presence ended
  | closed => rfl
  | again => rfl
  | error => rfl

theorem unregister_presence (sid : Nat) (s : St) (ended : Finset Nat) :
    ((unregister sid).run s).2.core.presence (insert sid ended) =
      (s.core.presence ended).leave sid := by
  have hended : {sid' | sid' ∈ insert sid ended} = insert sid {sid' | sid' ∈ ended} := by
    ext sid'
    exact Finset.mem_insert
  unfold unregister
  rw [Prog.run_bind, Prog.run_get]
  dsimp only
  rw [Prog.run_ite]
  by_cases hid : (s.core.sessions sid).clientID = ""
  · have huser : (s.core.presence ended).user sid = none := if_pos hid
    rw [if_neg (not_not.mpr hid)]
    unfold Presence.leave
    rw [huser]
    unfold Core.presence Presence.drop
    rw [hended]
    rfl
  · have huser : (s.core.presence ended).user sid = some (s.core.sessions sid).clientID := if_neg hid
    rw [if_pos hid]
    unfold Presence.leave
    rw [huser]
    generalize (s.core.sessions sid).clientID = client
    unfold Core.presence Presence.drop Presence.unregister
    congr 1
    · exact getElem?_erase_eq_update s.core.manager.activeSessions client
    · ext user
      show user ∈ s.core.manager.offlineUsers.insert client ↔
        user = client ∨ user ∈ s.core.manager.offlineUsers
      rw [ExtTreeSet.mem_insert, Std.compare_eq_iff_eq, eq_comm]

/-- from the core `c`, a result false lets the session leave and no other changes the presence -/
structure EndsAt (sid : Nat) (c : Core) (r : Except Exn Bool × St) : Prop where
  logins : SameLogins c r.2.core
  left : r.1 = .ok false → ∀ ended,
    r.2.core.presence (insert sid ended) = (c.presence ended).leave sid
  stayed : r.1 ≠ .ok false → ∀ ended, r.2.core.presence ended = c.presence ended

section EndsAt
variable {sid : Nat} {c : Core} {s : St}

theorem endsAt_bind {α : Type} {q : M α} {f : α → M Bool} (hq : q.Keeps (onCore SamePresence))
    (hs : SamePresence c s.core)
    (hf : ∀ a s', SamePresence c s'.core → EndsAt sid c ((f a).run s')) :
    EndsAt sid c ((q >>= f).run s) := by
  have hsame := hq s
  rw [Prog.run_bind]
  generalize q.run s = r at hsame ⊢
  obtain ⟨r, s'⟩ := r
  have hs' : SamePresence c s'.core := trans_of SamePresence hs hsame
  cases r with
  | ok a => exact hf a s' hs'
  | error e => exact ⟨hs'.logins, fun h => (by cases h), fun _ => hs'.presence⟩

theorem endsAt_true (hs : SamePresence c s.core) : EndsAt sid c ((pure true : M Bool).run s) :=
  ⟨hs.logins, fun h => (by cases h), fun _ => hs.presence⟩

theorem endsAt_unregister (hs : SamePresence c s.core) :
    EndsAt sid c ((do unregister sid; pure false : M Bool).run s) := by
  have hleave := unregister_presence sid s
  have hrun : (unregister sid).run s = (.ok (), ((unregister sid).run s).2) ∧
      ((unregister sid).run s).2.core.sessions = s.core.sessions := by
    unfold unregister
    rw [Prog.run_bind, Prog.run_get]
    dsimp only
    rw [Prog.run_ite]
    split <;> exact ⟨rfl, rfl⟩
  rw [Prog.run_bind, hrun.1]
  refine ⟨hs.logins.trans (sameLogins_of_sessions hrun.2), fun _ ended => ?_, fun h => absurd rfl h⟩
  rw [← hs.presence ended]
  exact hleave ended

end EndsAt

theorem sendEvents_presence (sid : Nat) : (sendEvents sid).Keeps (onCore SamePresence) :=
  sendEvents_keeps sid (fun _ _ h => h.samePresence) fun _ s =>
    samePresence_withSession s.core sid rfl rfl

theorem writeSocket_presence (sid : Nat) (message : Bytes) :
    (writeSocket sid message).Keeps (onCore SamePresence) :=
  writeSocket_keeps (fun _ s => samePresence_withSession s.core sid rfl rfl) message

theorem afterReply_ends (sid : Nat) (keep : Bool) (hs : SamePresence c s.core) :
    EndsAt sid c ((afterReply sid keep).run s) := by
  refine endsAt_bind (sendEvents_presence sid) hs fun _ s₁ h₁ => ?_
  cases keep with
  | true => exact endsAt_true h₁
  | false =>
    refine endsAt_bind Prog.keeps_get h₁ fun _ s₂ h₂ => ?_
    exact endsAt_bind (log_keeps _ _ _ _) h₂ fun _ s₃ h₃ => endsAt_unregister h₃

theorem answer_ends (sid : Nat) (result : ProcessResult) (s : St) :
    EndsAt sid s.core ((answer sid result).run s) := by
  refine endsAt_bind (writeSocket_presence sid _) (refl_of SamePresence _) fun written s₁ h₁ => ?_
  cases written with
  | all => exact afterReply_ends sid result.2 h₁
  | part n => exact afterReply_ends sid result.2 h₁
  | again =>
    have hqueued : (setSession sid fun me => me.queued (bytesOf result.1.text)).Keeps
        (onCore SamePresence) := fun s => samePresence_withSession s.core sid rfl rfl
    exact endsAt_bind hqueued h₁ fun _ s₂ h₂ => afterReply_ends sid result.2 h₂
  | error =>
    refine endsAt_bind Prog.keeps_get h₁ fun _ s₂ h₂ => ?_
    refine endsAt_bind (incrementError_keeps _ _) h₂ fun _ s₃ h₃ => ?_
    exact endsAt_bind (log_keeps _ _ _ _) h₃ fun _ s₄ h₄ => endsAt_unregister h₄

/-- **A `run` that does not meet a read error lets its session leave exactly if it returns
false.** -/
theorem run_ends (L : Libs) (cfg : Config) (sid : Nat) {input : ReadResult} (h : input ≠ .error)
    (s : St) : EndsAt sid (heard L cfg sid input s) ((run L cfg sid input).run s) := by
  have hrefl := refl_of SamePresence s.core
  cases input with
  | error => exact absurd rfl h
  | again => exact endsAt_true hrefl
  | closed =>
    refine endsAt_bind Prog.keeps_get hrefl fun _ s₁ h₁ => ?_
    exact endsAt_bind (log_keeps _ _ _ _) h₁ fun _ s₂ h₂ => endsAt_unregister h₂
  | data chunk =>
    show EndsAt sid ((processMessage L cfg sid (cString chunk)).run s).2.core _
    rw [run_data, Prog.run_bind]
    generalize (processMessage L cfg sid (cString chunk)).run s = r
    obtain ⟨r, s'⟩ := r
    cases r with
    | ok result => exact answer_ends sid result s'
    | error e => exact ⟨sameLogins_of_sessions rfl, fun h => (by cases h), fun _ _ => rfl⟩

/-- after a read error the session is dropped, and the registry is not told -/
theorem run_error (L : Libs) (cfg : Config) (sid : Nat) (s : St) :
    ((run L cfg sid .error).run s).1 = .ok false ∧
      ((run L cfg sid .error).run s).2.core = s.core := by
  unfold run
  rw [Prog.run_bind, Prog.run_get]
  dsimp only
  rw [Prog.run_bind, run_log]
  dsimp only
  rw [Prog.run_pure]
  exact ⟨rfl, St.logged_core s _ _ _ _⟩

end Logistics
