import Logistics.Session.System

/-!
# Alert locks over restarts

A restart keeps the tables and nothing else: the caches, the registry and with it `m_lockedClients`
start empty, and the default admin is created where it is missing.  `lifeStep` handles an input or
restarts the server; it goes on with the state a handler left behind even if the handler threw, so
what holds along its runs holds also where an exception ends the server and it is started again.

* `AlertLocked`           the row of the client has `is_locked = 1`;
* `Stepped.alertLocked`, `setupServer_alertLocked`   what keeps it so;
* `alert_lock_persists`   **a lock stays, and binds, until an `unlock_client` with the phrase**.
-/

namespace Logistics
open Runs

/-- the part of `Server::setupServer` that is not about sockets -/
def setupServer (L : Libs) : M Unit := do
  let found ← userExists "admin"
  if found then pure ()
  else do
    let _ ← createUser L "admin" "admin"
    log .info "Server" "Default admin user created with username 'admin' and password 'admin'" none

/-- what a new process finds: the three tables -/
def World.reopened (w : World) (ips : Nat → String) : World :=
  ⟨.boot w.core.users w.core.stock ips, { Journal.empty with logs := w.journal.logs }⟩

inductive LifeInput where
  | input (i : Input)
  | restart (ips : Nat → String) (env : Nat → Answer)

def lifeStep (L : Libs) (cfg : Config) (w : World) : LifeInput → Option World
  | .input i => some ((perform L cfg i.what).run (w.before i)).2.world
  | .restart ips env => some ((setupServer L).run ((w.reopened ips).facing env)).2.world

/-- what every input and every restart keeps holds after every run -/
theorem lifeStep_invariant {L : Libs} {cfg : Config} {I : World → Prop}
    (hinput : ∀ w i j, I w → I ⟨after L cfg w i, j⟩)
    (hrestart : ∀ w ips env, I w → I ((setupServer L).run ((w.reopened ips).facing env)).2.world)
    {w₀ : World} (h₀ : I w₀) :
    ∀ inputs w, runFrom (lifeStep L cfg) w₀ inputs = some w → I w := by
  refine runFrom_invariant h₀ ?_
  intro w i w' hw hstep
  cases i with
  | input i =>
    obtain rfl := Option.some.inj hstep
    exact hinput w i _ hw
  | restart ips env =>
    obtain rfl := Option.some.inj hstep
    exact hrestart w ips env hw

/-! ## the flag -/

def AlertLocked (c : Core) (client : String) : Prop :=
  ∃ row, c.users.find? client = some row ∧ row.isLocked = 1

/-- the message is an `unlock_client` of the admin for the client, with the configured phrase -/
def UnlockMessage (L : Libs) (cfg : Config) (client : String) (w : World) (i : Input) : Prop :=
  ∃ sid text request, i.what = .message sid text ∧ AuthenticatedAs w sid "admin" ∧
    L.parse text = some request ∧ request.atString "command" = .ok "unlock_client" ∧
    unlockFields request = .ok (cfg.secretPhrase, client)

section Flag
variable {client : String} {c c' : Core}

theorem alertLocked_of_users (h : c'.users = c.users) (hc : AlertLocked c client) :
    AlertLocked c' client := by
  unfold AlertLocked
  rw [h]
  exact hc

theorem SameButCounters.alertLocked (h : SameButCounters c.users c'.users)
    (hc : AlertLocked c client) : AlertLocked c' client := by
  obtain ⟨row, hrow, hlocked⟩ := hc
  have hmap := h client
  rw [hrow, Option.map_some] at hmap
  obtain ⟨row', hrow', hid⟩ := Option.map_eq_some_iff.mp hmap
  exact ⟨row', hrow', (Prod.mk.inj hid).2.trans hlocked⟩

/-- a lock change of another client, or one that sets the flag -/
theorem LockChange.alertLocked {isLocked : Bool} {change : Finset String → Finset String}
    {target : String} {r : Except Exn Bool} (h : LockChange isLocked change target c r c')
    (hc : AlertLocked c client) (hne : client ≠ target ∨ isLocked = true) :
    AlertLocked c' client := by
  by_cases heq : client = target
  · have hset : isLocked = true := hne.resolve_left fun hne => hne heq
    subst heq hset
    cases h with
    | failed e => exact hc
    | missed hrow => exact hc
    | done users row hrow hupd =>
      rcases Table.update?_cases hupd with ⟨-, rfl⟩ | ⟨row', hcheck, -, rfl⟩
      · exact hc
      · exact ⟨row'.setLocked true, Table.find?_put_self c.users client _ hcheck, rfl⟩
  · obtain ⟨row, hrow, hlocked⟩ := hc
    exact ⟨row, (h.find?_of_ne heq).trans hrow, hlocked⟩

/-- a new row is not the row of a client that has one -/
theorem alertLocked_of_insert? {users : Users} {user : String} {row : UserRow}
    (h : c.users.insert? user row = some users) (hc : AlertLocked c client) :
    AlertLocked { c with users := users } client := by
  obtain ⟨row', hrow', hlocked⟩ := hc
  obtain ⟨hnone, hcheck, rfl⟩ := Table.insert?_cases h
  have hne : client ≠ user := by
    rintro rfl
    rw [hnone] at hrow'
    cases hrow'
  refine ⟨row', ?_, hlocked⟩
  show Table.find? (Table.put c.users user row hcheck) client = some row'
  rw [Table.find?_put_of_ne _ _ _ hne, hrow']

end Flag

section Steps
variable {L : Libs} {cfg : Config} {client : String} {w : World} {i : Input} {c : Core}

theorem CommandEffect.alertLocked {me : String} {request : Json} {s : St}
    (h : CommandEffect cfg me request s c) (hs : AlertLocked s.core client)
    (hno : unlockTarget cfg me request ≠ some client) : AlertLocked c client := by
  cases h with
  | none => exact hs
  | fill cache => exact alertLocked_of_users rfl hs
  | update category item quantity stock hub hst => exact alertLocked_of_users rfl hs
  | register user hash users admin hreg => exact alertLocked_of_insert? hreg hs
  | unlock user hu =>
    refine (unlockClient_change user s).alertLocked hs (.inl ?_)
    rintro rfl
    exact hno hu

/-- **No input but an unlock message of the admin clears the flag.** -/
theorem Stepped.alertLocked (h : Stepped L cfg w i c) (hw : AlertLocked w.core client)
    (hno : ¬ UnlockMessage L cfg client w i) : AlertLocked c client := by
  cases h with
  | login what success hrow hl effect => exact effect.users.alertLocked hw
  | guest what guest noLogin effect => exact effect.users.alertLocked hw
  | invalid what member text_eq => exact hw
  | alert what noLock effect => exact alertLocked_of_users effect.users hw
  | alertLock what call change effect =>
    exact alertLocked_of_users effect.users (change.alertLocked hw (.inr rfl))
  | @command sid text request _ what member text_eq effect =>
    refine effect.alertLocked (by rw [received_core]; exact hw) ?_
    intro htarget
    obtain ⟨hadmin, hcommand, hfields⟩ := unlockTarget_cases htarget
    exact hno ⟨sid, text, request, what, ⟨member, hadmin⟩, text_eq, hcommand, hfields⟩

/-- `setupServer` adds the row of the admin at most, with its own name as the password -/
theorem setupServer_core (L : Libs) (s : St) :
    ∃ users, ((setupServer L).run s).2.core = { s.core with users := users } ∧
      (users = s.core.users ∨ ∃ salt row, row.passwordHash = L.generateHash salt "admin" ∧
        s.core.users.insert? "admin" row = some users) := by
  unfold setupServer userExists
  rw [Prog.run_bind, Prog.run_bind, run_dbCall]
  cases (s.env 0).fails with
  | true => exact ⟨_, rfl, .inl rfl⟩
  | false =>
    simp only [Bool.false_eq_true, if_false, Prog.run_bind, Prog.run_get, Prog.run_pure, Prog.run_ite]
    split
    · exact ⟨_, rfl, .inl rfl⟩
    · rw [run_createUser]
      cases (s.next.env 0).fails with
      | true => exact ⟨_, rfl, .inl rfl⟩
      | false =>
        simp only [Bool.false_eq_true, if_false]
        cases hins : s.next.core.users.insert? "admin"
            ⟨L.generateHash (s.next.env 0).salt "admin", 0, 0, 0⟩ with
        | none => exact ⟨_, rfl, .inl rfl⟩
        | some users =>
          simp only [run_log, St.logged_core]
          exact ⟨users, rfl, .inr ⟨_, _, rfl, hins⟩⟩

theorem setupServer_alertLocked (L : Libs) {s : St} (hs : AlertLocked s.core client) :
    AlertLocked ((setupServer L).run s).2.core client := by
  obtain ⟨users, hcore, hsame | ⟨-, row, -, hins⟩⟩ := setupServer_core L s
  · rw [hcore, hsame]
    exact hs
  · rw [hcore]
    exact alertLocked_of_insert? hins hs

end Steps

/-! ## the gate -/

/-- the flag is set, and every attempt for the client is refused and leaves its row as it is; the
attempt throws only if the row cannot be read -/
structure LockHolds (L : Libs) (client : String) (w : World) : Prop where
  locked : AlertLocked w.core client
  refused : ∀ password blockDuration env,
    ((authenticate L client password blockDuration).run (w.facing env)).1 =
      if (env 0).fails then .error (.sqlite .failure) else .ok .failedAlertLocked
  unchanged : ∀ password blockDuration env,
    ((authenticate L client password blockDuration).run (w.facing env)).2.core.users.find? client =
      w.core.users.find? client

theorem run_authenticate_locked (L : Libs) {client : String} {s : St}
    (hs : AlertLocked s.core client) (password : String) (blockDuration : Int) :
    (authenticate L client password blockDuration).run s =
      (if (s.env 0).fails then .error (.sqlite .failure) else .ok .failedAlertLocked, s.next) := by
  obtain ⟨row, hrow, hlocked⟩ := hs
  have hflag : row.authData.isLocked = true := by
    show decide (columnInt row.isLocked = 1) = true
    rw [hlocked]
    decide
  unfold authenticate admitAttempt
  rw [Prog.run_bind, Prog.run_bind, run_getUserLoginData]
  cases (s.env 0).fails with
  | true => rfl
  | false =>
    simp only [Bool.false_eq_true, if_false, hrow, Option.map_some, hflag, if_true, Prog.run_pure]

theorem lockHolds_of_alertLocked (L : Libs) {client : String} {w : World}
    (h : AlertLocked w.core client) : LockHolds L client w where
  locked := h
  refused password blockDuration env := by
    rw [run_authenticate_locked L (s := w.facing env) h]
    rfl
  unchanged password blockDuration env := by
    rw [run_authenticate_locked L (s := w.facing env) h]
    rfl

/-- **Once the flag of a client is set, it holds over every run of logins, commands, alerts and
restarts in which the admin does not unlock the client.** -/
theorem alert_lock_persists (L : Libs) (cfg : Config) (client : String) (w : World)
    (hw : AlertLocked w.core client) (inputs : List LifeInput) (w' : World)
    (hrun : runFrom (lifeStep L cfg) w inputs = some w')
    (hno : ¬ Occurred (lifeStep L cfg) w inputs fun w i =>
      ∃ message, i = .input message ∧ UnlockMessage L cfg client w message) :
    LockHolds L client w' := by
  refine lockHolds_of_alertLocked L ?_
  have hguard : Throughout (lifeStep L cfg) w inputs fun w i =>
      ¬ ∃ message, i = .input message ∧ UnlockMessage L cfg client w message := by
    rintro ⟨before, i, after, w₁, hsplit, hw₁, hbad⟩
    exact hbad fun hunlock => hno ⟨before, i, after, w₁, hsplit, hw₁, hunlock⟩
  refine runFrom_guarded (I := fun w => AlertLocked w.core client) hw ?_ inputs w' hrun hguard
  intro w₁ i w₂ hlocked hnow hstep
  cases i with
  | input i =>
    cases hstep
    refine (stepped_after L cfg w₁ i).alertLocked hlocked ?_
    intro hunlock
    exact hnow ⟨i, rfl, hunlock⟩
  | restart ips env =>
    cases hstep
    exact setupServer_alertLocked L hlocked

/-! Alice is locked; the server restarts, and alice gives the right password. -/

def lockedStart : World :=
  .start (.boot (Table.empty.put "alice" { aliceRow with isLocked := 1 } (by decide)) .empty
    fun _ => "") .empty fun _ => "10.0.0.1"

def restartAndLogin : List LifeInput :=
  [.restart (fun _ => "10.0.0.2") healthy,
    .input ⟨.message 0 (bytesOf aliceLogin.render), healthy⟩]

theorem restartAndLogin_isSome :
    (runFrom (lifeStep (.known [aliceLogin]) .sample) lockedStart restartAndLogin).isSome := by
  decide

theorem alert_lock_persists_alice : LockHolds (.known [aliceLogin]) "alice"
    ((runFrom (lifeStep (.known [aliceLogin]) .sample) lockedStart restartAndLogin).get
      restartAndLogin_isSome) := by
  refine alert_lock_persists (.known [aliceLogin]) .sample "alice" lockedStart ⟨_, rfl, rfl⟩
    restartAndLogin _ (Option.some_get restartAndLogin_isSome).symm ?_
  have hparse : (Libs.known [aliceLogin]).parse (bytesOf aliceLogin.render) = some aliceLogin := rfl
  have hcommand : aliceLogin.atString "command" = .ok "login" := rfl
  intro hoccurred
  rcases (occurred_cons _ _ _ _).mp hoccurred with ⟨message, hinput, -⟩ | ⟨w, -, hoccurred⟩
  · cases hinput
  rcases (occurred_cons _ _ _ _).mp hoccurred with ⟨message, hinput, hunlock⟩ | ⟨w', -, hoccurred⟩
  · cases hinput
    obtain ⟨sid, text, request, what, -, hp, hcmd, -⟩ := hunlock
    cases what
    rw [hparse] at hp
    cases hp
    rw [hcommand] at hcmd
    exact absurd (Except.ok.inj hcmd) (by decide)
  · exact not_occurred_nil _ _ hoccurred

end Logistics
