import Logistics.Session.Ledger

/-!
# Accounts and their passwords

A row of the users table comes in once, with the hash of one password: from a `register_user` of the
admin or, for the admin itself, from `Server::setupServer`.  Nothing replaces the hash afterwards, so
a session can only log in with the password that its user was registered with.

* `registrations`   the passwords that an input or a restart registers, and for whom;
* `Enrolled`        the users table, read off the table at the start and the registrations since;
* `enrolled_run`    **the table is so after every run**;
* `login_needs_registered_password`   **a login needs a password that was registered**.
-/

namespace Logistics
open Runs

/-! ## registrations -/

/-- the user and the password of a `register_user` that succeeded -/
def Exchange.registration? (e : Exchange) : Option (String × String) :=
  if e.answer.status = some "success" ∧ e.request.atString "command" = .ok "register_user" then
    (registerFields e.request).toOption
  else none

def registrations (L : Libs) (cfg : Config) (w : World) : LifeInput → List (String × String)
  | .input i => (exchanges L cfg w (.input i)).filterMap Exchange.registration?
  | .restart ips env =>
    if w.core.users.find? "admin" = none ∧
        (((setupServer L).run ((w.reopened ips).facing env)).2.core.users.find? "admin").isSome then
      [("admin", "admin")]
    else []

/-- the passwords that were registered for a user -/
def passwordsOf (user : String) (registered : List (String × String)) : List String :=
  registered.filterMap fun r => if r.1 = user then some r.2 else none

theorem passwordsOf_append (user : String) (registered registered' : List (String × String)) :
    passwordsOf user (registered ++ registered') =
      passwordsOf user registered ++ passwordsOf user registered' := List.filterMap_append

theorem passwordsOf_self (user password : String) :
    passwordsOf user [(user, password)] = [password] := by
  simp [passwordsOf]

theorem passwordsOf_of_ne {user user' : String} (hne : user' ≠ user) (password : String) :
    passwordsOf user' [(user, password)] = [] := by
  simp [passwordsOf, hne.symm]

/-! ## the hashes of the table -/

/-- a new row is the only change -/
theorem hashOf_insert? {users users' : Users} {user : String} {row : UserRow}
    (h : users.insert? user row = some users') :
    hashOf users user = none ∧ hashOf users' user = some row.passwordHash ∧
      ∀ user', user' ≠ user → hashOf users' user' = hashOf users user' := by
  obtain ⟨hnone, hc, rfl⟩ := Table.insert?_cases h
  refine ⟨hashOf_eq_none.mpr hnone, hashOf_of_row (Table.find?_put_self _ _ _ hc), ?_⟩
  intro user' hne
  unfold hashOf
  rw [Table.find?_put_of_ne _ _ hc hne]

/-! ## the table, read off the registrations -/

/-- one user: its row was there at the start and has the hash it had, or it has come in with the one
password registered for it, or it is not in the table -/
inductive Account (L : Libs) (user : String) (users₀ : Users)
    (registered : List (String × String)) : Option String → Prop
  | kept (row : UserRow) (found : users₀.find? user = some row)
      (never : passwordsOf user registered = []) :
      Account L user users₀ registered (some row.passwordHash)
  | registered (password salt : String) (fresh : users₀.find? user = none)
      (once : passwordsOf user registered = [password]) :
      Account L user users₀ registered (some (L.generateHash salt password))
  | absent (fresh : users₀.find? user = none) (never : passwordsOf user registered = []) :
      Account L user users₀ registered none

theorem Account.of_none {L : Libs} {user : String} {users₀ : Users}
    {registered : List (String × String)} (h : Account L user users₀ registered none) :
    users₀.find? user = none ∧ passwordsOf user registered = [] := by
  cases h with
  | absent fresh never => exact ⟨fresh, never⟩

def Enrolled (L : Libs) (users₀ : Users) (registered : List (String × String)) (w : World) : Prop :=
  ∀ user, Account L user users₀ registered (hashOf w.core.users user)

section Steps
variable {L : Libs} {cfg : Config} {users₀ : Users} {registered : List (String × String)}
  {w w' : World}

theorem enrolled_start (L : Libs) (w : World) : Enrolled L w.core.users [] w := by
  intro user
  cases hrow : w.core.users.find? user with
  | none =>
    rw [hashOf_eq_none.mpr hrow]
    exact .absent hrow rfl
  | some row =>
    rw [hashOf_of_row hrow]
    exact .kept row hrow rfl

/-- a step without a registration keeps the hashes -/
theorem Enrolled.aside (h : Enrolled L users₀ registered w)
    (hhash : hashOf w'.core.users = hashOf w.core.users) :
    Enrolled L users₀ (registered ++ []) w' := by
  intro user
  rw [hhash, List.append_nil]
  exact h user

/-- a registration finds the user absent, so it is the first one for it -/
theorem Enrolled.register (h : Enrolled L users₀ registered w) {user password salt : String}
    {row : UserRow} (hrow : row.passwordHash = L.generateHash salt password)
    (hins : w.core.users.insert? user row = some w'.core.users) :
    Enrolled L users₀ (registered ++ [(user, password)]) w' := by
  obtain ⟨hfresh, hnew, hothers⟩ := hashOf_insert? hins
  intro user'
  by_cases heq : user' = user
  · subst heq
    obtain ⟨fresh, never⟩ := (hfresh ▸ h user').of_none
    rw [hnew, hrow]
    refine .registered password salt fresh ?_
    rw [passwordsOf_append, never, passwordsOf_self]
    rfl
  · have hsame : passwordsOf user' (registered ++ [(user, password)]) =
        passwordsOf user' registered := by
      rw [passwordsOf_append, passwordsOf_of_ne heq, List.append_nil]
    rw [hothers user' heq]
    have hbefore := h user'
    generalize hashOf w.core.users user' = hash at hbefore ⊢
    cases hbefore with
    | kept row found never => exact .kept row found (hsame.trans never)
    | registered password salt fresh once => exact .registered password salt fresh (hsame.trans once)
    | absent fresh never => exact .absent fresh (hsame.trans never)

/-- a command registers a user exactly if its exchange says so -/
theorem CommandOutcome.enrolled {me : String} {request : Json} {answer : Reply}
    {env : Nat → Answer} (houtcome : CommandOutcome L cfg me request w.core answer w'.core)
    (h : Enrolled L users₀ registered w) :
    Enrolled L users₀ (registered ++
      [(⟨me, request, answer, env⟩ : Exchange)].filterMap Exchange.registration?) w' := by
  have hother : Exchange.registration? ⟨me, request, answer, env⟩ = none →
      hashOf w'.core.users = hashOf w.core.users → Enrolled L users₀ (registered ++
        [(⟨me, request, answer, env⟩ : Exchange)].filterMap Exchange.registration?) w' := by
    intro hnone hhash
    rw [List.filterMap_cons_none hnone]
    exact h.aside hhash
  generalize hc : w'.core = c' at houtcome
  cases houtcome with
  | refused error =>
    refine hother ?_ (by rw [hc])
    exact if_neg fun hsuccess => not_success_of_error error hsuccess.1
  | read success command reads coherent =>
    refine hother (if_neg ?_) (by rw [hc])
    rintro ⟨-, hregister⟩
    exact reads (.inr (.inl (Except.ok.inj (command.symm.trans hregister))))
  | updated success command hub fields natural valid saved =>
    refine hother ?_ (by rw [hc])
    exact if_neg fun hregister => command_ne command (by decide) hregister.2
  | unlocked success command admin fields found saved =>
    refine hother ?_ ?_
    · exact if_neg fun hregister => command_ne command (by decide) hregister.2
    · rw [hc]
      exact hashOf_setLocked saved
  | @registered user password salt users success command admin fields saved =>
    have hsome : Exchange.registration? ⟨me, request, answer, env⟩ = some (user, password) := by
      unfold Exchange.registration?
      rw [if_pos ⟨success, command⟩]
      dsimp only
      rw [fields]
      rfl
    rw [List.filterMap_cons_some hsome]
    have hins : w.core.users.insert? user ⟨L.generateHash salt password, 0, 0, 0⟩ =
        some w'.core.users := by
      rw [hc]
      exact saved
    exact h.register rfl hins

theorem enrolled_input (i : Input) (h : Enrolled L users₀ registered w) (j : Journal) :
    Enrolled L users₀ (registered ++ registrations L cfg w (.input i)) ⟨after L cfg w i, j⟩ := by
  refine exchanges_cases (P := fun new c => Enrolled L users₀
    (registered ++ new.filterMap Exchange.registration?) ⟨c, j⟩) i ?_ ?_
  · exact fun c _ hhash => h.aside hhash
  · intro sid text request answer keep s' what member parsed hrun houtcome
    exact @CommandOutcome.enrolled L cfg users₀ registered w ⟨s'.core, j⟩ _ _ _ i.env houtcome h

theorem enrolled_restart (ips : Nat → String) (env : Nat → Answer)
    (h : Enrolled L users₀ registered w) :
    Enrolled L users₀ (registered ++ registrations L cfg w (.restart ips env))
      ((setupServer L).run ((w.reopened ips).facing env)).2.world := by
  obtain ⟨users, hcore, hsame | ⟨salt, row, hrow, hins⟩⟩ :=
    setupServer_core L ((w.reopened ips).facing env)
  all_goals obtain rfl : _ = users := congrArg Core.users hcore
  · have hkept := congrArg hashOf hsame
    have hnone : registrations L cfg w (.restart ips env) = [] := by
      refine if_neg ?_
      rintro ⟨hfresh, hfound⟩
      have habsent := (congrFun hkept "admin").trans (hashOf_eq_none.mpr hfresh)
      rw [hashOf_eq_none.mp habsent] at hfound
      cases hfound
    rw [hnone]
    exact h.aside hkept
  · have hone : registrations L cfg w (.restart ips env) = [("admin", "admin")] := by
      obtain ⟨hfresh, hc, hput⟩ := Table.insert?_cases hins
      refine if_pos ⟨hfresh, ?_⟩
      rw [hput, Table.find?_put_self]
      rfl
    rw [hone]
    exact h.register hrow hins

/-- **After every run the table has what it had at the start and what was registered since.** -/
theorem enrolled_run (L : Libs) (cfg : Config) (w₀ : World) :
    ∀ inputs w, runFrom (lifeStep L cfg) w₀ inputs = some w →
      Enrolled L w₀.core.users
        (trace (lifeStep L cfg) (registrations L cfg) w₀ inputs) w := by
  refine run_trace_induction (lifeStep L cfg) (registrations L cfg) (enrolled_start L w₀) ?_
  intro registered w i w' h hstep
  cases i with
  | input i =>
    obtain rfl := Option.some.inj hstep
    exact enrolled_input i h _
  | restart ips env =>
    obtain rfl := Option.some.inj hstep
    exact enrolled_restart ips env h

end Steps

/-! ## logins -/

/-- the message is a login of the user with this password -/
def Presents (L : Libs) (sid : Nat) (user password : String) (i : Input) : Prop :=
  ∃ text request, i.what = .message sid text ∧ L.parse text = some request ∧
    loginFields request = .ok (user, password)

/-- a login that succeeds presents a password that fits the hash of the table -/
theorem LogsIn.hash {L : Libs} {cfg : Config} {sid : Nat} {user : String} {w : World} {i : Input}
    (h : LogsIn L cfg sid user w i) :
    ∃ password hash, Presents L sid user password i ∧ hashOf w.core.users user = some hash ∧
      L.validatePassword password hash = true := by
  obtain ⟨text, what, hcall⟩ := h
  obtain ⟨-, request, password, parsed, -, fields, hrun⟩ := authCall_cases hcall
  generalize hr : (authenticate L user password cfg.blockTimeSeconds).run
    (received L request (w.before i)) = r at hrun
  obtain ⟨r, s'⟩ := r
  obtain rfl : r = _ := hrun
  obtain ⟨row, hrow, -, hvalid⟩ := authenticate_success hr
  rw [received_core] at hrow
  exact ⟨password, row.passwordHash, ⟨text, request, what, parsed, fields⟩, hashOf_of_row hrow,
    hvalid⟩

/-- the password fits the hash that the user had at the start, and none was registered since, or the
user had none and it fits a hash of the one that was registered -/
def Fits (L : Libs) (users₀ : Users) (registered : List (String × String))
    (user password : String) : Prop :=
  (∃ row, users₀.find? user = some row ∧ passwordsOf user registered = [] ∧
      L.validatePassword password row.passwordHash = true) ∨
    ∃ password' salt, users₀.find? user = none ∧ passwordsOf user registered = [password'] ∧
      L.validatePassword password (L.generateHash salt password') = true

/-- **Whoever logs in knows the password of the account.** -/
theorem login_needs_registered_password (L : Libs) (cfg : Config) (w₀ w : World)
    (inputs : List LifeInput) (hrun : runFrom (lifeStep L cfg) w₀ inputs = some w)
    (sid : Nat) (user : String) (i : Input) (hlogin : LogsIn L cfg sid user w i) :
    ∃ password, Presents L sid user password i ∧
      Fits L w₀.core.users (trace (lifeStep L cfg) (registrations L cfg) w₀ inputs) user
        password := by
  obtain ⟨password, hash, hpresents, hhash, hvalid⟩ := hlogin.hash
  have haccount := enrolled_run L cfg w₀ inputs w hrun user
  rw [hhash] at haccount
  refine ⟨password, hpresents, ?_⟩
  cases haccount with
  | kept row found never => exact .inl ⟨row, found, never, hvalid⟩
  | registered registered salt fresh once => exact .inr ⟨registered, salt, fresh, once, hvalid⟩

def adminEnters : Json := .obj [("command", .str "login"),
  ("payload", .obj [("hostname", .str "admin"), ("password", .str "admin")])]

def registerBob : Json := .obj [("command", .str "register_user"),
  ("payload", .obj [("new_client_id", .str "bob"), ("new_client_password", .str "hunter2")])]

def accountLibs : Libs := .known [adminEnters, registerBob, bobEnters]

/-- the tables are empty: the server creates the admin, who registers bob -/
def bobRegistered : List LifeInput :=
  [.restart (fun _ => "10.0.0.1") healthy,
    .input ⟨.message 0 (bytesOf adminEnters.render), healthy⟩,
    .input ⟨.message 0 (bytesOf registerBob.render), healthy⟩]

def noTables : World := .start (.boot .empty .empty fun _ => "") .empty fun _ => "10.0.0.1"

theorem bobRegistered_isSome :
    (runFrom (lifeStep accountLibs .sample) noTables bobRegistered).isSome := rfl

def bobLogin : Input := ⟨.message 1 (bytesOf bobEnters.render), healthy⟩

set_option maxRecDepth 4000 in
theorem bob_presents_password :
    ∃ password, Presents accountLibs 1 "bob" password bobLogin ∧
      Fits accountLibs noTables.core.users (trace (lifeStep accountLibs .sample)
        (registrations accountLibs .sample) noTables bobRegistered) "bob" password :=
  login_needs_registered_password accountLibs .sample noTables
    ((runFrom (lifeStep accountLibs .sample) noTables bobRegistered).get bobRegistered_isSome)
    bobRegistered (Option.some_get bobRegistered_isSome).symm 1 "bob" bobLogin ⟨_, rfl, rfl⟩

end Logistics
