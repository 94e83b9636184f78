import Logistics.Lib.Runs
import Logistics.Session.Alert
import Logistics.Session.Message

/-!
# The server as a system: messages of any sessions, and alerts

An `Input` is a message delivered to a session or an alert from a sensor, together with what the
environment answers while it is handled.  `step` handles one input; a handler that throws ends the
run, since nothing above it catches.

* `Stepped`      everything one input can do to the core, one constructor per way;
* `step_cases`   **a step does nothing else**: every statement about runs is proved from it.

Below it, what each way means for the parts of the core: the sessions, a row of the inventory,
a row of the users table, the lock flag of a user (`Flagged`) and its copy in `m_lockedClients`.
-/

namespace Logistics

inductive Happening where
  | message (sid : Nat) (text : Bytes)
  | alert (text : Bytes)

structure Input where
  what : Happening
  env : Nat → Answer

def World.before (w : World) (i : Input) : St := w.facing i.env

def perform (L : Libs) (cfg : Config) : Happening → M Unit
  | .message sid text => do
    let _ ← processMessage L cfg sid text
    pure ()
  | .alert text => processAlert L cfg text

def step (L : Libs) (cfg : Config) (w : World) (i : Input) : Option World :=
  match (perform L cfg i.what).run (w.before i) with
  | (.ok _, s) => some s.world
  | (.error _, _) => none

/-- the server at its start, over any tables, caches and registry: every session is fresh -/
def World.start (core : Core) (journal : Journal) (ips : Nat → String) : World :=
  ⟨{ core with sessions := fun sid => .fresh (ips sid) }, journal⟩

/-! ## the ways of a step -/

/-- the cores an input can lead to -/
inductive Stepped (L : Libs) (cfg : Config) (w : World) (i : Input) : Core → Prop
  | login {sid : Nat} {text : Bytes} {user : String} {row : UserRow} {c : Core}
      (what : i.what = .message sid text)
      (success : authCall L cfg sid text (w.before i) = some (user, .ok .success))
      (row_eq : w.core.users.find? user = some row) (unlocked : row.authData.isLocked = false)
      (effect : LoginEffect sid user w.core c) : Stepped L cfg w i c
  | guest {sid : Nat} {text : Bytes} {c : Core} (what : i.what = .message sid text)
      (guest : (w.core.sessions sid).isAuthenticated = false)
      (noLogin : ∀ user, authCall L cfg sid text (w.before i) ≠ some (user, .ok .success))
      (effect : CountersOnly w.core c) : Stepped L cfg w i c
  | invalid {sid : Nat} {text : Bytes} (what : i.what = .message sid text)
      (member : (w.core.sessions sid).isAuthenticated = true) (text_eq : L.parse text = none) :
      Stepped L cfg w i w.core
  | command {sid : Nat} {text : Bytes} {request : Json} {c : Core}
      (what : i.what = .message sid text)
      (member : (w.core.sessions sid).isAuthenticated = true)
      (text_eq : L.parse text = some request)
      (effect : CommandEffect cfg (w.core.sessions sid).clientID request
        (received L request (w.before i)) c) : Stepped L cfg w i c
  | alert {text : Bytes} {c : Core} (what : i.what = .alert text) (noLock : lockTarget L text = none)
      (effect : QueuesOnly w.core c) : Stepped L cfg w i c
  | alertLock {text : Bytes} {client : String} {r : Except Exn Bool} {c c' : Core}
      (what : i.what = .alert text) (call : lockCall L text (w.before i) = some (client, r))
      (change : LockChange true (insert client) client w.core r c) (effect : QueuesOnly c c') :
      Stepped L cfg w i c'

/-- the core after the handler, whether it returned or threw -/
def after (L : Libs) (cfg : Config) (w : World) (i : Input) : Core :=
  ((perform L cfg i.what).run (w.before i)).2.core

theorem after_message {L : Libs} {cfg : Config} {w : World} {i : Input} {sid : Nat} {text : Bytes}
    (what : i.what = .message sid text) :
    after L cfg w i = ((processMessage L cfg sid text).run (w.before i)).2.core := by
  unfold after
  rw [what]
  show (Prog.run (processMessage L cfg sid text >>= _) (w.before i)).2.core = _
  rw [Prog.run_bind]
  generalize (processMessage L cfg sid text).run (w.before i) = r
  obtain ⟨r, s⟩ := r
  cases r <;> rfl

theorem stepped_after (L : Libs) (cfg : Config) (w : World) (i : Input) :
    Stepped L cfg w i (after L cfg w i) := by
  cases what : i.what with
  | message sid text =>
    rw [after_message what]
    cases ha : (w.core.sessions sid).isAuthenticated with
    | true =>
      rcases @processMessage_member sid text (w.before i) L cfg ha with
        ⟨hp, hc⟩ | ⟨request, hp, heffect⟩
      · rw [hc]
        exact .invalid what ha hp
      · exact .command what ha hp heffect
    | false =>
      by_cases hlogin : ∃ user, authCall L cfg sid text (w.before i) = some (user, .ok .success)
      · obtain ⟨user, hlogin⟩ := hlogin
        obtain ⟨answer, s', row, hrun, -, hrow, hl, heffect⟩ := processMessage_login hlogin
        rw [hrun]
        exact .login what hlogin hrow hl heffect
      · have hno : ∀ user, authCall L cfg sid text (w.before i) ≠ some (user, .ok .success) :=
          fun user h => hlogin ⟨user, h⟩
        exact .guest what ha hno (processMessage_guest L cfg ha hno).2
  | alert text =>
    unfold after
    rw [what]
    rcases processAlert_effect L cfg text (w.before i) with ⟨ht, hq⟩ | ⟨client, ht, hq⟩
    · exact .alert what ht hq
    · have hspec := changeLock_spec true
        ("Client '" ++ client ++ "' has been locked due to alert trigger.")
        ("Couldn't lock client '" ++ client ++ "'. Client was not found. May not be registered.")
        (insert client) client (alertState L text (w.before i))
      rw [alertState_core] at hspec
      refine .alertLock what ?_ hspec hq
      unfold lockCall
      rw [ht]
      rfl

/-- **A step changes the core in one of the ways of `Stepped`.** -/
theorem step_cases {L : Libs} {cfg : Config} {w w' : World} {i : Input}
    (h : step L cfg w i = some w') : Stepped L cfg w i w'.core := by
  have hafter := stepped_after L cfg w i
  unfold step at h
  unfold after at hafter
  generalize (perform L cfg i.what).run (w.before i) = r at h hafter
  obtain ⟨r, s⟩ := r
  cases r with
  | error e => cases h
  | ok u =>
    cases h
    exact hafter

section
variable {L : Libs} {cfg : Config} {w : World} {i : Input} {c c' : Core} {isLocked : Bool}
  {change : Finset String → Finset String} {client user : String} {r : Except Exn Bool}

/-! ## the sessions -/

theorem LockChange.sessions (h : LockChange isLocked change client c r c') :
    c'.sessions = c.sessions := by
  cases h <;> rfl

theorem LockChange.stock (h : LockChange isLocked change client c r c') : c'.stock = c.stock := by
  cases h <;> rfl

theorem LockChange.find?_of_ne (h : LockChange isLocked change client c r c')
    (hne : user ≠ client) : c'.users.find? user = c.users.find? user := by
  cases h with
  | failed e => rfl
  | missed hrow => rfl
  | done users row hrow hupd => exact (Table.find?_update? hupd user).trans (if_neg hne)

theorem CommandEffect.sessions {cfg : Config} {me : String} {request : Json} {s : St} {c : Core}
    (h : CommandEffect cfg me request s c) : c.sessions = s.core.sessions := by
  cases h with
  | unlock user hu => exact (unlockClient_change user s).sessions
  | _ => rfl

/-- the input is a message of the session `sid` that makes `authenticate` succeed for `user` -/
def LogsIn (L : Libs) (cfg : Config) (sid : Nat) (user : String) (w : World) (i : Input) : Prop :=
  ∃ text, i.what = .message sid text ∧
    authCall L cfg sid text (w.before i) = some (user, .ok .success)

theorem LogsIn.guest {sid : Nat} {user : String} (h : LogsIn L cfg sid user w i) :
    (w.core.sessions sid).isAuthenticated = false := by
  obtain ⟨text, -, hcall⟩ := h
  exact (authCall_cases hcall).1

theorem LogsIn.unique {sid sid' : Nat} {user' : String} (h : LogsIn L cfg sid user w i)
    (h' : LogsIn L cfg sid' user' w i) : sid' = sid ∧ user' = user := by
  obtain ⟨text, what, hcall⟩ := h
  obtain ⟨text', what', hcall'⟩ := h'
  rw [what] at what'
  cases what'
  rw [hcall] at hcall'
  cases hcall'
  exact ⟨rfl, rfl⟩

theorem not_logsIn_of_member {sid : Nat} {text : Bytes} (what : i.what = .message sid text)
    (member : (w.core.sessions sid).isAuthenticated = true) (sid' : Nat) (user : String) :
    ¬ LogsIn L cfg sid' user w i := by
  intro h
  have hguest := h.guest
  obtain ⟨text', what', -⟩ := h
  rw [what] at what'
  cases what'
  rw [member] at hguest
  cases hguest

theorem not_logsIn_of_alert {text : Bytes} (what : i.what = .alert text) (sid : Nat)
    (user : String) : ¬ LogsIn L cfg sid user w i := by
  rintro ⟨text', what', -⟩
  rw [what] at what'
  cases what'

/-- **Only a login changes a session, and only its own.** -/
theorem Stepped.sessions {L : Libs} {cfg : Config} {w : World} {i : Input} {c : Core}
    (h : Stepped L cfg w i c) :
    (c.sessions = w.core.sessions ∧ ∀ sid user, ¬ LogsIn L cfg sid user w i) ∨
      ∃ sid user row, LogsIn L cfg sid user w i ∧
        w.core.users.find? user = some row ∧ row.authData.isLocked = false ∧
        c.sessions = Function.update w.core.sessions sid ((w.core.sessions sid).loggedIn user) := by
  cases h with
  | @login sid text user row _ what success hrow hl effect =>
    exact .inr ⟨sid, user, row, ⟨text, what, success⟩, hrow, hl, effect.sessions⟩
  | @guest sid text _ what guest noLogin effect =>
    refine .inl ⟨effect.sessions, ?_⟩
    rintro sid' user ⟨text', what', hcall⟩
    rw [what] at what'
    cases what'
    exact noLogin user hcall
  | invalid what member text_eq => exact .inl ⟨rfl, not_logsIn_of_member what member⟩
  | command what member text_eq effect =>
    have hs := effect.sessions
    rw [received_core] at hs
    exact .inl ⟨hs, not_logsIn_of_member what member⟩
  | alert what noLock effect => exact .inl ⟨effect.sessions, not_logsIn_of_alert what⟩
  | alertLock what call change effect =>
    exact .inl ⟨effect.sessions.trans change.sessions, not_logsIn_of_alert what⟩

/-- the session `sid` is logged in as `user` -/
def AuthenticatedAs (w : World) (sid : Nat) (user : String) : Prop :=
  (w.core.sessions sid).isAuthenticated = true ∧ (w.core.sessions sid).clientID = user

/-- what one input does to who is logged in where -/
theorem authenticatedAs_step (h : Stepped L cfg w i c) {j : Journal} (sid : Nat) (user : String) :
    AuthenticatedAs ⟨c, j⟩ sid user ↔ AuthenticatedAs w sid user ∨ LogsIn L cfg sid user w i := by
  rcases h.sessions with ⟨hsame, hno⟩ | ⟨sid₀, user₀, row, hlogin, -, -, hupd⟩
  · unfold AuthenticatedAs
    rw [hsame]
    exact ⟨.inl, fun h => h.resolve_right (hno sid user)⟩
  · unfold AuthenticatedAs
    rw [hupd]
    by_cases hsid : sid = sid₀
    · subst hsid
      rw [Function.update_self]
      constructor
      · rintro ⟨-, hid⟩
        obtain rfl : user₀ = user := hid
        exact .inr hlogin
      · rintro (⟨hauth, -⟩ | hlogin')
        · rw [hlogin.guest] at hauth
          cases hauth
        · exact ⟨rfl, (hlogin.unique hlogin').2.symm⟩
    · rw [Function.update_of_ne hsid]
      refine ⟨.inl, fun h => h.resolve_right fun hlogin' => ?_⟩
      exact hsid (hlogin.unique hlogin').1

/-! ## the inventory -/

theorem CommandEffect.stock {cfg : Config} {me : String} {request : Json} {s : St} {c : Core}
    (h : CommandEffect cfg me request s c) {key : StockKey}
    (hne : c.stock.find? key ≠ s.core.stock.find? key) : me = key.client ∧ isHub me = false := by
  cases h with
  | none => exact absurd rfl hne
  | fill cache => exact absurd rfl hne
  | register user hash users admin hreg => exact absurd rfl hne
  | unlock user hu => exact absurd (by rw [(unlockClient_change user s).stock]) hne
  | update category item quantity stock hub hst =>
    by_cases hk : key = ⟨me, category, item⟩
    · subst hk
      exact ⟨rfl, hub⟩
    · refine absurd ?_ hne
      show stock.find? key = s.core.stock.find? key
      rw [find?_stockAfter hst, if_neg hk]

/-- **A row of the inventory is changed by its owner only, who is no hub.** -/
theorem Stepped.stock {L : Libs} {cfg : Config} {w : World} {i : Input} {c : Core}
    (h : Stepped L cfg w i c) {key : StockKey}
    (hne : c.stock.find? key ≠ w.core.stock.find? key) :
    ∃ sid text, i.what = .message sid text ∧ AuthenticatedAs w sid key.client ∧
      isHub key.client = false := by
  cases h with
  | login what success hrow hl effect => exact absurd (by rw [effect.stock]) hne
  | guest what guest noLogin effect => exact absurd (by rw [effect.stock]) hne
  | invalid what member text_eq => exact absurd rfl hne
  | alert what noLock effect => exact absurd (by rw [effect.stock]) hne
  | alertLock what call change effect =>
    exact absurd (by rw [effect.stock, change.stock]) hne
  | @command sid text request _ what member text_eq effect =>
    obtain ⟨hme, hub⟩ := effect.stock (by rw [received_core]; exact hne)
    rw [hme] at hub
    exact ⟨sid, text, what, ⟨member, hme⟩, hub⟩

/-! ## the users -/

/-- the lock flag of the user is set in the table -/
def Flagged (c : Core) (user : String) : Prop :=
  ∃ row, c.users.find? user = some row ∧ row.authData.isLocked = true

theorem isLocked_of_identity {row row' : UserRow} (h : row'.identity = row.identity) :
    row'.authData.isLocked = row.authData.isLocked := by
  unfold UserRow.identity at h
  unfold UserRow.authData
  rw [(Prod.mk.inj h).2]

theorem SameButCounters.flagged {c c' : Core} (h : SameButCounters c.users c'.users)
    {user : String} (hf : Flagged c user) : Flagged c' user := by
  obtain ⟨row, hrow, hl⟩ := hf
  have hmap := h user
  rw [hrow, Option.map_some] at hmap
  obtain ⟨row', hrow', hid⟩ := Option.map_eq_some_iff.mp hmap
  exact ⟨row', hrow', (isLocked_of_identity hid).trans hl⟩

theorem SameButCounters.find?_isSome {u u' : Users} (h : SameButCounters u u') (user : String) :
    (u'.find? user).isSome = (u.find? user).isSome := by
  have hmap := congrArg Option.isSome (h user)
  rwa [Option.isSome_map, Option.isSome_map] at hmap

theorem LockChange.find?_isSome (h : LockChange isLocked change client c r c') (user : String) :
    (c'.users.find? user).isSome = (c.users.find? user).isSome := by
  have hmap := congrArg Option.isSome (h.map_find? (g := fun _ => ()) (fun _ => rfl) user)
  rwa [Option.isSome_map, Option.isSome_map] at hmap

/-! ### the hashes of the passwords -/

def hashOf (users : Users) (user : String) : Option String :=
  (users.find? user).map UserRow.passwordHash

theorem hashOf_of_row {users : Users} {row : UserRow} (hrow : users.find? user = some row) :
    hashOf users user = some row.passwordHash := by
  unfold hashOf
  rw [hrow]
  rfl

theorem hashOf_eq_none {users : Users} : hashOf users user = none ↔ users.find? user = none :=
  Option.map_eq_none_iff

theorem SameButCounters.hashOf {users users' : Users} (h : SameButCounters users users') :
    hashOf users' = hashOf users := by
  funext user
  have hidentity := congrArg (Option.map Prod.fst) (h user)
  rw [Option.map_map, Option.map_map] at hidentity
  exact hidentity

theorem hashOf_setLocked {users users' : Users}
    (h : users.update? user (UserRow.setLocked isLocked) = some users') :
    hashOf users' = hashOf users := funext (Table.map_find?_update? h fun _ => rfl)

theorem LockChange.hashOf (h : LockChange isLocked change client c r c') :
    hashOf c'.users = hashOf c.users :=
  funext (h.map_find? fun _ => rfl)

/-- **A user is created in a session of the admin only.** -/
theorem Stepped.created (h : Stepped L cfg w i c)
    (hne : (c.users.find? user).isSome ≠ (w.core.users.find? user).isSome) :
    ∃ sid text, i.what = .message sid text ∧ AuthenticatedAs w sid "admin" := by
  cases h with
  | login what success hrow hl effect => exact absurd (effect.users.find?_isSome user) hne
  | guest what guest noLogin effect => exact absurd (effect.users.find?_isSome user) hne
  | invalid what member text_eq => exact absurd rfl hne
  | alert what noLock effect => exact absurd (by rw [effect.users]) hne
  | alertLock what call change effect =>
    exact absurd (by rw [effect.users, change.find?_isSome]) hne
  | @command sid text request _ what member text_eq effect =>
    have hcore : (received L request (w.before i)).core = w.core := received_core L request _
    cases effect with
    | none => exact absurd (by rw [hcore]) hne
    | fill cache => exact absurd (by rw [← hcore]) hne
    | update category item quantity stock hub hst => exact absurd (by rw [← hcore]) hne
    | unlock client hu =>
      have hsome := (unlockClient_change client (received L request (w.before i))).find?_isSome user
      rw [hcore] at hsome
      exact absurd hsome hne
    | register client hash users admin hreg => exact ⟨sid, text, what, member, admin⟩

/-! ## the lock flags -/

/-- the core keeps every lock: the flags in the table and the copies in `m_lockedClients` -/
structure KeepsLocks (c c' : Core) : Prop where
  flagged : ∀ user, Flagged c user → Flagged c' user
  copy : c.manager.lockedClients ⊆ c'.manager.lockedClients

theorem CountersOnly.keepsLocks (h : CountersOnly c c') : KeepsLocks c c' where
  flagged _ hf := h.users.flagged hf
  copy := by rw [h.manager]

theorem LoginEffect.keepsLocks {sid : Nat} (h : LoginEffect sid user c c') : KeepsLocks c c' where
  flagged _ hf := h.users.flagged hf
  copy := by rw [h.lockedClients]

theorem QueuesOnly.keepsLocks (h : QueuesOnly c c') : KeepsLocks c c' where
  flagged _ := by
    unfold Flagged
    rw [h.users]
    exact id
  copy := by rw [h.manager]

theorem KeepsLocks.refl (c : Core) : KeepsLocks c c := ⟨fun _ => id, Finset.Subset.refl _⟩

theorem KeepsLocks.trans {c₁ c₂ c₃ : Core} (h : KeepsLocks c₁ c₂) (h' : KeepsLocks c₂ c₃) :
    KeepsLocks c₁ c₃ :=
  ⟨fun user hf => h'.flagged user (h.flagged user hf), h.copy.trans h'.copy⟩

/-- after a `lockClient` that returned true the client is flagged -/
theorem LockChange.flagged {change : Finset String → Finset String} {client : String} {c c' : Core}
    (h : LockChange true change client c (.ok true) c') : Flagged c' client := by
  cases h with
  | done users row hrow hupd =>
    rcases Table.update?_cases hupd with ⟨hnone, -⟩ | ⟨row', hc, -, rfl⟩
    · rw [hnone] at hrow
      cases hrow
    · refine ⟨row'.setLocked true, Table.find?_put_self c.users client _ hc, ?_⟩
      show decide (columnInt 1 = 1) = true
      decide

theorem LockChange.keepsLocks_of_lock (h : LockChange true (insert client) client c r c') :
    KeepsLocks c c' := by
  cases h with
  | failed e => exact .refl _
  | missed hrow => exact .refl _
  | done users row hrow hupd =>
    have hdone : LockChange true (insert client) client c (.ok true) _ :=
      .done users row hrow hupd
    refine ⟨?_, Finset.subset_insert client _⟩
    intro user hf
    by_cases hne : user = client
    · rw [hne]
      exact hdone.flagged
    · obtain ⟨row', hrow', hl⟩ := hf
      refine ⟨row', ?_, hl⟩
      rw [← hrow']
      exact hdone.find?_of_ne hne

/-- an `unlockClient` that did not return true changes nothing -/
theorem LockChange.eq_of_ne_true (h : LockChange isLocked change client c r c')
    (hr : r ≠ .ok true) : c' = c := by
  cases h with
  | failed e => rfl
  | missed hrow => rfl
  | done users row hrow hupd => exact absurd rfl hr

theorem LockChange.copy (h : LockChange isLocked change client c (.ok true) c') :
    c'.manager.lockedClients = change c.manager.lockedClients := by
  cases h with
  | done users row hrow hupd => rfl

theorem unlockTarget_cases {me : String} {request : Json}
    (h : unlockTarget cfg me request = some user) :
    me = "admin" ∧ request.atString "command" = .ok "unlock_client" ∧
      unlockFields request = .ok (cfg.secretPhrase, user) := by
  unfold unlockTarget at h
  split at h
  · rename_i hadmin
    split at h
    · rename_i phrase user' hf
      split at h
      · rename_i hp
        cases h
        rw [← hp]
        exact ⟨hadmin.1, hadmin.2, hf⟩
      · cases h
    · cases h
  · cases h

/-- the input is a message that makes `unlockClient user` return true -/
def Unlocks (L : Libs) (cfg : Config) (user : String) (w : World) (i : Input) : Prop :=
  ∃ sid text, i.what = .message sid text ∧
    unlockCall L cfg sid text (w.before i) = some (user, .ok true)

/-- such a message is an `unlock_client` of the admin and carries the configured phrase -/
theorem Unlocks.request {L : Libs} {cfg : Config} {user : String} {w : World} {i : Input}
    (h : Unlocks L cfg user w i) :
    ∃ sid text request, i.what = .message sid text ∧ AuthenticatedAs w sid "admin" ∧
      L.parse text = some request ∧ request.atString "command" = .ok "unlock_client" ∧
      unlockFields request = .ok (cfg.secretPhrase, user) := by
  obtain ⟨sid, text, what, hcall⟩ := h
  unfold unlockCall at hcall
  cases ha : ((w.before i).core.sessions sid).isAuthenticated with
  | false => simp [ha] at hcall
  | true =>
    cases hp : L.parse text with
    | none => simp [ha, hp] at hcall
    | some request =>
      simp only [ha, if_true, hp] at hcall
      obtain ⟨client, htarget, heq⟩ := Option.map_eq_some_iff.mp hcall
      obtain rfl : client = user := (Prod.mk.inj heq).1
      obtain ⟨hadmin, hcommand, hfields⟩ := unlockTarget_cases htarget
      exact ⟨sid, text, request, what, ⟨ha, hadmin⟩, hp, hcommand, hfields⟩

/-- **Every lock outlives every step, except that of a user whose `unlockClient` returned true.** -/
theorem Stepped.locks {L : Libs} {cfg : Config} {w : World} {i : Input} {c : Core}
    (h : Stepped L cfg w i c) :
    KeepsLocks w.core c ∨ ∃ user, Unlocks L cfg user w i ∧
      (∀ other, other ≠ user → Flagged w.core other → Flagged c other) ∧
      c.manager.lockedClients = w.core.manager.lockedClients.erase user := by
  cases h with
  | login what success hrow hl effect => exact .inl effect.keepsLocks
  | guest what guest noLogin effect => exact .inl effect.keepsLocks
  | invalid what member text_eq => exact .inl (.refl _)
  | alert what noLock effect => exact .inl effect.keepsLocks
  | alertLock what call change effect => exact .inl (change.keepsLocks_of_lock.trans effect.keepsLocks)
  | @command sid text request _ what member text_eq effect =>
    have hcore : (received L request (w.before i)).core = w.core := received_core L request _
    cases effect with
    | none =>
      rw [hcore]
      exact .inl (.refl _)
    | fill cache =>
      rw [hcore]
      exact .inl ⟨fun _ => id, Finset.Subset.refl _⟩
    | update category item quantity stock hub hst =>
      rw [hcore]
      exact .inl ⟨fun _ => id, Finset.Subset.refl _⟩
    | register client hash users admin hreg =>
      rw [hcore] at hreg ⊢
      refine .inl ⟨?_, Finset.Subset.refl _⟩
      rintro user ⟨row, hrow, hl⟩
      obtain ⟨hnone, hc, rfl⟩ := Table.insert?_cases hreg
      refine ⟨row, ?_, hl⟩
      show Table.find? (Table.put w.core.users client _ hc) user = some row
      rw [Table.find?_put_of_ne, hrow]
      rintro rfl
      rw [hnone] at hrow
      cases hrow
    | unlock client hu =>
      have hchange := unlockClient_change client (received L request (w.before i))
      rw [hcore] at hchange
      by_cases hr : ((unlockClient client).run (received L request (w.before i))).1 = .ok true
      · refine .inr ⟨client, ⟨sid, text, what, ?_⟩, ?_, ?_⟩
        · have member' : ((w.before i).core.sessions sid).isAuthenticated = true := member
          unfold unlockCall
          rw [if_pos member', text_eq]
          show Option.map _ (unlockTarget cfg (w.core.sessions sid).clientID request) = _
          rw [hu, Option.map_some, hr]
        · rintro other hne ⟨row, hrow, hl⟩
          exact ⟨row, (hchange.find?_of_ne hne).trans hrow, hl⟩
        · rw [hr] at hchange
          exact hchange.copy
      · rw [hchange.eq_of_ne_true hr]
        exact .inl (.refl _)

end

/-! ## fixed inputs

The logins of the users alice and bob, to a server that has alice, or both. -/

def aliceLogin : Json := .obj [("command", .str "login"),
  ("payload", .obj [("hostname", .str "alice"), ("password", .str "secret")])]

def bobEnters : Json := .obj [("command", .str "login"),
  ("payload", .obj [("hostname", .str "bob"), ("password", .str "hunter2")])]

def aliceStart : World := .start (.boot aliceUsers .empty fun _ => "") .empty fun _ => "10.0.0.1"

def twoUsers : Users := aliceUsers.put "bob" ⟨"#hunter2", 0, 0, 0⟩ (by decide)

end Logistics
