import Logistics.Auth.Authenticator
import Logistics.Lib.Runs
import Logistics.Lib.Throttle
import Logistics.Session.Manager

/-!
# How often a password can be tried

A run of `authenticate` calls, with `createUser`, `lockClient` and `unlockClient` calls in between,
from an empty table of users, under a clock that does not go back and whose readings lie in
`[0, 2^31)`, over a database that answers every statement.  The clock and the block duration are
parameters; each attempt is recorded with the time it was made at and whether the password was
compared with the hash.

* `Watch`, `watchStep`       the server's state, the latest clock reading and the attempts so far;
* `authenticate_throttles`   one call is one `Throttle.attempt` of the row, or is refused before;
* `Tracked`                  every row is a counter that `Throttle.Kept` ties to its user's attempts;
* `brute_force_bound`        **three checked passwords at most in a block's length**.
-/

namespace Logistics
open Runs

/-! ## the calls -/

inductive AuthCall where
  | createUser (hostname password : String)
  | authenticate (hostname password : String)
  | lockClient (clientId : String)
  | unlockClient (clientId : String)

/-- a call and what the outside answers to it; the database does not fail -/
structure AuthInput where
  call : AuthCall
  env : Nat → Answer
  healthy : ∀ n, (env n).fails = false

/-- what `m_clock.now()` returns in the call: the row is read first -/
def AuthInput.time (i : AuthInput) : Int := (i.env 1).time

structure Attempt where
  hostname : String
  time : Int
  checked : Option Bool
  result : Except Exn AuthResult

/-- the outcome of `bcrypt::validatePassword`, if the call gets that far -/
def passwordCheck (L : Libs) (hostname password : String) (blockDuration : Int) (s : St) :
    Option Bool :=
  match ((admitAttempt hostname blockDuration).run s).1 with
  | .ok (.admitted data _) => some (L.validatePassword password data.passwordHash)
  | _ => none

structure Watch where
  world : World
  now : Int
  attempts : List Attempt

def Watch.start : Watch := ⟨⟨.boot .empty .empty fun _ => "", .empty⟩, 0, []⟩

def watchStep (L : Libs) (blockDuration : Int) (w : Watch) (i : AuthInput) : Option Watch :=
  let s := w.world.facing i.env
  match i.call with
  | .createUser hostname password =>
    some { w with world := ((createUser L hostname password).run s).2.world }
  | .authenticate hostname password =>
    -- the clock
    if w.now ≤ i.time ∧ i.time < 2 ^ 31 then
      let done := (authenticate L hostname password blockDuration).run s
      let check := passwordCheck L hostname password blockDuration s
      some ⟨done.2.world, i.time, w.attempts ++ [⟨hostname, i.time, check, done.1⟩]⟩
    else none
  | .lockClient clientId => some { w with world := ((lockClient clientId).run s).2.world }
  | .unlockClient clientId => some { w with world := ((unlockClient clientId).run s).2.world }

variable {L : Libs} {hostname password : String} {blockDuration : Int} {s : St} {row : UserRow}

/-! ## one call -/

/-- the login columns of a row -/
def UserRow.counter (row : UserRow) : Throttle.Counter :=
  ⟨row.failedAttempts, row.lastFailedTimestamp⟩

/-- the columns survive `sqlite3_column_int`; the upper bound of the first is the table's check -/
structure SoundCounter (c : Throttle.Counter) : Prop where
  count : 0 ≤ c.count
  last : 0 ≤ c.last
  last_lt : c.last < 2 ^ 31

def outcomeOf : Option Bool → Throttle.Outcome
  | none => .refused
  | some true => .passed
  | some false => .failed

theorem attempts_le {users : Users} (h : users.find? hostname = some row) : row.failedAttempts ≤ 3 :=
  (users.checked hostname row h).2

theorem authData_of_sound (h : SoundCounter row.counter) (hle : row.failedAttempts ≤ 3) :
    row.authData.failedAttempts = row.failedAttempts ∧
      row.authData.lastFailedTimestamp = row.lastFailedTimestamp := by
  have hcount : 0 ≤ row.failedAttempts := h.count
  have hlast : 0 ≤ row.lastFailedTimestamp := h.last
  have hlast_lt : row.lastFailedTimestamp < 2 ^ 31 := h.last_lt
  exact ⟨columnInt_of_range (by omega) (by omega), columnInt_of_range (by omega) (by omega)⟩

def St.Healthy (s : St) : Prop := ∀ n, (s.env n).fails = false

theorem St.Healthy.next (h : s.Healthy) : s.next.Healthy := fun n => h (n + 1)

theorem St.Healthy.logged (h : s.Healthy) (level : LogLevel) (component message : String)
    (clientId : Option String) : (s.logged level component message clientId).Healthy := by
  intro n
  rw [St.logged_env]
  exact h (n + 2)

/-- an `UPDATE` of a row that exists, over a healthy database -/
theorem run_updateUser_row {f : UserRow → UserRow} (hhealthy : (s.env 0).fails = false)
    (hrow : s.core.users.find? hostname = some row) (hle : (f row).failedAttempts ≤ 3) :
    ∃ users : Users, (updateUser hostname f).run s =
        (.ok 1, { s.next with core := { s.core with users := users } }) ∧
      ∀ other, users.find? other =
        if other = hostname then some (f row) else s.core.users.find? other := by
  have hcheck : userCheck hostname (f row) := ⟨(s.core.users.checked hostname row hrow).1, hle⟩
  refine ⟨s.core.users.put hostname (f row) hcheck, ?_, ?_⟩
  · have hupdate : s.core.users.update? hostname f =
        some (s.core.users.put hostname (f row) hcheck) := by
      unfold Table.update?
      rw [hrow]
      exact Table.upsert?_eq_some _ hcheck
    rw [run_updateUser, hhealthy, hupdate, hrow]
    rfl
  · intro other
    exact Table.find?_put ..

theorem run_updateLoginAttempts (hhealthy : (s.env 0).fails = false)
    (hrow : s.core.users.find? hostname = some row) (loginSuccess : Bool) (timeStamp : Int)
    (hle : loginSuccess = false → row.failedAttempts + 1 ≤ 3) :
    ∃ users : Users, (updateLoginAttempts hostname loginSuccess timeStamp).run s =
        (.ok (), { s.next with core := { s.core with users := users } }) ∧
      ∀ other, users.find? other =
        if other = hostname then
          some (if loginSuccess = true then row.resetAttempts else row.countFailure timeStamp)
        else s.core.users.find? other := by
  cases loginSuccess with
  | true =>
    have hreset : row.resetAttempts.failedAttempts ≤ 3 := by
      show (0 : Int) ≤ 3
      decide
    obtain ⟨users, hrun, hfind⟩ := run_updateUser_row hhealthy hrow hreset
    refine ⟨users, ?_, hfind⟩
    unfold updateLoginAttempts
    rw [Prog.run_ite, if_pos rfl, Prog.run_bind, hrun]
    rfl
  | false =>
    obtain ⟨users, hrun, hfind⟩ := run_updateUser_row hhealthy hrow
      (f := UserRow.countFailure timeStamp) (hle rfl)
    refine ⟨users, ?_, hfind⟩
    unfold updateLoginAttempts
    rw [Prog.run_ite, if_neg (by decide), Prog.run_bind, hrun]
    rfl

/-- what `authenticate` makes of the comparison; `failedAttempts` is the count it has read -/
def verdict (ok : Bool) (failedAttempts : Int) : AuthResult :=
  if ok = true then .success
  else if failedAttempts = 2 then .failedAccountLocked
  else .failedBadCredentials

theorem checkPassword_row {data : UserAuthData} {currentTime : Int} (hhealthy : s.Healthy)
    (hrow : s.core.users.find? hostname = some row) {ok : Bool}
    (hle : ok = false → row.failedAttempts + 1 ≤ 3)
    (hok : L.validatePassword password data.passwordHash = ok) :
    ∃ s', (checkPassword L hostname password data currentTime).run s =
        (.ok (verdict ok data.failedAttempts), s') ∧
      ∀ other, s'.core.users.find? other =
        if other = hostname then
          some (if ok = true then row.resetAttempts else row.countFailure currentTime)
        else s.core.users.find? other := by
  unfold checkPassword verdict
  rw [hok]
  cases ok with
  | true =>
    have hlogged := St.logged_core s .info "Authenticator"
      ("Login successful for user '" ++ hostname ++ "'.") none
    have hhealthy' := hhealthy.logged .info "Authenticator"
      ("Login successful for user '" ++ hostname ++ "'.") none
    rw [if_pos rfl, Prog.run_bind, run_log]
    generalize s.logged _ _ _ _ = s₁ at hlogged hhealthy' ⊢
    rw [← hlogged] at hrow
    obtain ⟨users, hrun, hfind⟩ := run_updateLoginAttempts (hhealthy' 0) hrow true currentTime
      fun h => by cases h
    refine ⟨{ s₁.next with core := { s₁.core with users := users } }, ?_, ?_⟩
    · dsimp only
      rw [Prog.run_bind, hrun]
      rfl
    · intro other
      rw [← hlogged]
      exact hfind other
  | false =>
    obtain ⟨users, hrun, hfind⟩ := run_updateLoginAttempts (hhealthy 0) hrow false currentTime hle
    rw [if_neg (by decide), Prog.run_bind, hrun]
    dsimp only
    by_cases htwo : data.failedAttempts = 2
    · rw [if_pos htwo, if_neg (by decide), if_pos htwo, Prog.run_bind, run_log]
      refine ⟨_, rfl, ?_⟩
      rw [St.logged_core]
      exact hfind
    · rw [if_neg htwo, if_neg (by decide), if_neg htwo, Prog.run_bind, run_log]
      refine ⟨_, rfl, ?_⟩
      rw [St.logged_core]
      exact hfind

/-- the row that the password check finds -/
def UserRow.admitted (row : UserRow) : UserRow :=
  if 3 ≤ row.failedAttempts then row.resetAttempts else row

/-- the row that the password check leaves -/
def UserRow.checked (row : UserRow) (ok : Bool) (time : Int) : UserRow :=
  if ok = true then row.admitted.resetAttempts else row.admitted.countFailure time

theorem counter_checked (row : UserRow) (ok : Bool) (time blockDuration : Int)
    (hopen : ¬ (3 ≤ row.failedAttempts ∧ time - row.lastFailedTimestamp < blockDuration)) :
    (outcomeOf (some ok), (row.checked ok time).counter) =
      Throttle.attempt 3 blockDuration row.counter time ok := by
  unfold Throttle.attempt
  rw [if_neg (show ¬ (3 ≤ row.counter.count ∧ time - row.counter.last < blockDuration) from hopen)]
  unfold UserRow.checked UserRow.admitted
  by_cases hfull : 3 ≤ row.failedAttempts
  · have hfull' : 3 ≤ row.counter.count := hfull
    rw [if_pos hfull, if_pos hfull']
    cases ok <;> rfl
  · have hfull' : ¬ 3 ≤ row.counter.count := hfull
    rw [if_neg hfull, if_neg hfull']
    cases ok <;> rfl

theorem stamp_checked (row : UserRow) (ok : Bool) (time : Int) :
    (row.checked ok time).lastFailedTimestamp = row.lastFailedTimestamp ∨
      (row.checked ok time).lastFailedTimestamp = time := by
  unfold UserRow.checked UserRow.admitted
  cases ok with
  | true =>
    refine .inl ?_
    show (if 3 ≤ row.failedAttempts then row.resetAttempts else row).lastFailedTimestamp = _
    split <;> rfl
  | false => exact .inr rfl

/-- the temporary block, as `authenticate` computes it from what it reads of the row -/
def UserRow.blockedAt (row : UserRow) (blockDuration time : Int) : Prop :=
  3 ≤ row.failedAttempts ∧ time - row.authData.lastFailedTimestamp < blockDuration

theorem authData_attempts (hcount : 0 ≤ row.failedAttempts) (hle : row.failedAttempts ≤ 3) :
    row.authData.failedAttempts = row.failedAttempts :=
  columnInt_of_range (by omega) (by omega)

/-- an admitted attempt finds a counter below the limit, reset if it was not -/
theorem admitUnlocked_row (hhealthy : s.Healthy) (hrow : s.core.users.find? hostname = some row)
    (hcount : 0 ≤ row.failedAttempts) : (row.blockedAt blockDuration (s.env 0).time ∧
      ∃ s', (admitUnlocked hostname blockDuration row.authData).run s =
        (.ok (.refused .failedAccountLocked (by decide)), s') ∧ s'.core = s.core) ∨
    (¬ row.blockedAt blockDuration (s.env 0).time ∧
      ∃ s', (admitUnlocked hostname blockDuration row.authData).run s =
        (.ok (.admitted row.authData (s.env 0).time), s') ∧ s'.Healthy ∧
      ∀ other, s'.core.users.find? other =
        if other = hostname then some row.admitted else s.core.users.find? other) := by
  unfold admitUnlocked
  rw [Prog.run_bind, run_ask]
  dsimp only
  rw [authData_attempts hcount (attempts_le hrow)]
  by_cases hblocked : row.blockedAt blockDuration (s.env 0).time
  · refine .inl ⟨hblocked, ?_⟩
    unfold UserRow.blockedAt at hblocked
    rw [if_pos hblocked, Prog.run_bind, run_log]
    refine ⟨_, rfl, ?_⟩
    rw [St.logged_core]
    rfl
  · refine .inr ⟨hblocked, ?_⟩
    unfold UserRow.blockedAt at hblocked
    rw [if_neg hblocked]
    by_cases hfull : 3 ≤ row.failedAttempts
    · obtain ⟨users, hrun, hfind⟩ := run_updateLoginAttempts (s := s.next) (hhealthy.next 0) hrow true
        (s.env 0).time fun h => by cases h
      rw [if_pos hfull, Prog.run_bind, hrun]
      refine ⟨_, rfl, hhealthy.next.next, ?_⟩
      unfold UserRow.admitted
      rw [if_pos hfull]
      exact hfind
    · rw [if_neg hfull]
      refine ⟨_, rfl, hhealthy.next, ?_⟩
      intro other
      unfold UserRow.admitted
      rw [if_neg hfull]
      by_cases ho : other = hostname
      · rw [if_pos ho, ho]
        exact hrow
      · rw [if_neg ho]
        rfl

theorem run_admitAttempt_row (hhealthy : s.Healthy) (hrow : s.core.users.find? hostname = some row)
    (hunlocked : row.authData.isLocked = false) : (admitAttempt hostname blockDuration).run s =
      (admitUnlocked hostname blockDuration row.authData).run s.next := by
  unfold admitAttempt
  rw [Prog.run_bind, run_getUserLoginData, hhealthy 0, hrow]
  simp only [Bool.false_eq_true, if_false, Option.map_some, hunlocked]

/-- without an unlocked row the attempt is refused and nothing is written -/
theorem run_admitAttempt_refused (blockDuration : Int) (hhealthy : s.Healthy)
    (hno : ∀ row, s.core.users.find? hostname = some row → row.authData.isLocked = true) :
    ∃ result failed s', (admitAttempt hostname blockDuration).run s =
      (.ok (.refused result failed), s') ∧ s'.core = s.core := by
  unfold admitAttempt
  rw [Prog.run_bind, run_getUserLoginData, hhealthy 0]
  cases hrow : s.core.users.find? hostname with
  | none =>
    simp only [Bool.false_eq_true, if_false, Option.map_none, Prog.run_bind, run_log]
    refine ⟨.failedUserNotFound, by decide, _, rfl, ?_⟩
    rw [St.logged_core]
    rfl
  | some row =>
    simp only [Bool.false_eq_true, if_false, Option.map_some, hno row hrow]
    exact ⟨.failedAlertLocked, by decide, _, rfl, rfl⟩

theorem admitted_room : row.admitted.failedAttempts + 1 ≤ 3 := by
  unfold UserRow.admitted
  split
  · show (0 : Int) + 1 ≤ 3
    decide
  · omega

/-- **A call for an unlocked row is refused by the block, or it checks the password and writes the
row's counter.** -/
theorem authenticate_row (hhealthy : s.Healthy) (hrow : s.core.users.find? hostname = some row)
    (hunlocked : row.authData.isLocked = false) (hcount : 0 ≤ row.failedAttempts) :
    (row.blockedAt blockDuration (s.env 1).time ∧
      passwordCheck L hostname password blockDuration s = none ∧
      ∃ s', (authenticate L hostname password blockDuration).run s =
        (.ok .failedAccountLocked, s') ∧ s'.core = s.core) ∨
    (¬ row.blockedAt blockDuration (s.env 1).time ∧
      ∃ ok s', L.validatePassword password row.passwordHash = ok ∧
        passwordCheck L hostname password blockDuration s = some ok ∧
        (authenticate L hostname password blockDuration).run s =
          (.ok (verdict ok row.failedAttempts), s') ∧
        ∀ other, s'.core.users.find? other =
          if other = hostname then some (row.checked ok (s.env 1).time)
          else s.core.users.find? other) := by
  unfold authenticate passwordCheck
  rw [Prog.run_bind, run_admitAttempt_row hhealthy hrow hunlocked]
  rcases @admitUnlocked_row hostname blockDuration s.next row hhealthy.next hrow hcount
    with ⟨hblocked, s', hrun, hcore⟩ | ⟨hopen, s', hrun, hhealthy', hfind⟩
  · refine .inl ⟨hblocked, ?_, s', ?_, hcore⟩
    · rw [hrun]
    · rw [hrun]
      rfl
  · refine .inr ⟨hopen, L.validatePassword password row.passwordHash, ?_⟩
    have hadmitted := hfind hostname
    rw [if_pos rfl] at hadmitted
    obtain ⟨s'', hcheck, hfind'⟩ := @checkPassword_row L hostname password s' row.admitted
      row.authData (s.next.env 0).time hhealthy' hadmitted _ (fun _ => admitted_room) rfl
    refine ⟨s'', rfl, ?_, ?_, ?_⟩
    · rw [hrun]
      rfl
    · rw [hrun]
      dsimp only
      rw [hcheck, authData_attempts hcount (attempts_le hrow)]
      rfl
    · intro other
      rw [hfind']
      by_cases ho : other = hostname
      · rw [if_pos ho, if_pos ho]
        rfl
      · rw [if_neg ho, if_neg ho, hfind, if_neg ho]
        rfl

/-- without an unlocked row a call writes nothing -/
theorem authenticate_refused (hhealthy : s.Healthy)
    (hno : ∀ row, s.core.users.find? hostname = some row → row.authData.isLocked = true) :
    passwordCheck L hostname password blockDuration s = none ∧
      ∃ result s', (authenticate L hostname password blockDuration).run s = (.ok result, s') ∧
        s'.core = s.core := by
  obtain ⟨result, failed, s', hrun, hcore⟩ := run_admitAttempt_refused blockDuration hhealthy hno
  unfold authenticate passwordCheck
  rw [Prog.run_bind, hrun]
  exact ⟨rfl, result, s', rfl, hcore⟩

theorem unlocked_row_or (users : Users) (hostname : String) :
    (∀ row, users.find? hostname = some row → row.authData.isLocked = true) ∨
      ∃ row, users.find? hostname = some row ∧ row.authData.isLocked = false := by
  by_cases hno : ∀ row, users.find? hostname = some row → row.authData.isLocked = true
  · exact .inl hno
  · rw [not_forall] at hno
    obtain ⟨row, hno⟩ := hno
    rw [Classical.not_imp, Bool.not_eq_true] at hno
    exact .inr ⟨row, hno⟩

/-- **A call that does not check the password returns what it returns for every other.** -/
theorem authenticate_unchecked (hhealthy : s.Healthy)
    (hcount : ∀ row, s.core.users.find? hostname = some row → 0 ≤ row.failedAttempts)
    (h : passwordCheck L hostname password blockDuration s = none) : ∃ result s', ∀ other,
      (authenticate L hostname other blockDuration).run s = (.ok result, s') := by
  have hrefused : ∃ result failed s', (admitAttempt hostname blockDuration).run s =
      (.ok (.refused result failed), s') := by
    rcases unlocked_row_or s.core.users hostname with hno | ⟨row, hrow, hunlocked⟩
    · obtain ⟨result, failed, s', hrun, -⟩ := run_admitAttempt_refused blockDuration hhealthy hno
      exact ⟨result, failed, s', hrun⟩
    · unfold passwordCheck at h
      rw [run_admitAttempt_row hhealthy hrow hunlocked] at h ⊢
      rcases @admitUnlocked_row hostname blockDuration s.next row hhealthy.next hrow (hcount row hrow)
        with ⟨-, s', hrun, -⟩ | ⟨-, s', hrun, -⟩
      · exact ⟨_, _, s', hrun⟩
      · rw [hrun] at h
        cases h
  obtain ⟨result, failed, s', hrun⟩ := hrefused
  refine ⟨result, s', fun other => ?_⟩
  unfold authenticate
  rw [Prog.run_bind, hrun]
  rfl

/-- what a call does to the row of its user -/
inductive Throttled (blockDuration time : Int) (row? : Option UserRow) (check : Option Bool) :
    Option UserRow → Prop
  | refused (h : check = none) : Throttled blockDuration time row? check row?
  | attempt (row : UserRow) (ok : Bool) (hrow : row? = some row) (h : check = some ok)
      (hopen : ¬ (3 ≤ row.failedAttempts ∧ time - row.lastFailedTimestamp < blockDuration)) :
      Throttled blockDuration time row? check (some (row.checked ok time))

/-- **A call is one attempt on the counter of its user's row, or is refused before the password is
looked at; the other rows stay.** -/
theorem authenticate_throttles (L : Libs) (hostname password : String) (blockDuration : Int) (s : St)
    (hhealthy : s.Healthy)
    (hsound : ∀ row, s.core.users.find? hostname = some row → SoundCounter row.counter) :
    (∀ other, other ≠ hostname →
      ((authenticate L hostname password blockDuration).run s).2.core.users.find? other =
        s.core.users.find? other) ∧
    Throttled blockDuration (s.env 1).time (s.core.users.find? hostname)
      (passwordCheck L hostname password blockDuration s)
      (((authenticate L hostname password blockDuration).run s).2.core.users.find? hostname) ∧
    (passwordCheck L hostname password blockDuration s = some true →
      ((authenticate L hostname password blockDuration).run s).1 = .ok .success) := by
  rcases unlocked_row_or s.core.users hostname with hno | ⟨row, hrow, hunlocked⟩
  · obtain ⟨hcheck, result, s', hrun, hcore⟩ := @authenticate_refused L hostname password
      blockDuration s hhealthy hno
    rw [hrun, hcheck]
    dsimp only
    rw [hcore]
    exact ⟨fun _ _ => rfl, .refused rfl, fun h => by cases h⟩
  · have hsound' := hsound row hrow
    rcases @authenticate_row L hostname password blockDuration s row hhealthy hrow hunlocked
      hsound'.count with ⟨-, hcheck, s', hrun, hcore⟩ | ⟨hopen, ok, s', -, hcheck, hrun, hfind⟩
    · rw [hrun, hcheck]
      dsimp only
      rw [hcore]
      exact ⟨fun _ _ => rfl, .refused rfl, fun h => by cases h⟩
    · rw [hrun, hcheck]
      dsimp only
      unfold UserRow.blockedAt at hopen
      rw [(authData_of_sound hsound' (attempts_le hrow)).2] at hopen
      refine ⟨?_, ?_, ?_⟩
      · intro other hne
        rw [hfind, if_neg hne]
      · rw [hfind, if_pos rfl]
        exact .attempt row ok hrow rfl hopen
      · intro h
        cases h
        rfl

/-! ## runs -/

/-- a user without a row has never failed -/
def counterOf : Option UserRow → Throttle.Counter
  | none => ⟨0, 0⟩
  | some row => row.counter

def Watch.counter (w : Watch) (hostname : String) : Throttle.Counter :=
  counterOf (w.world.core.users.find? hostname)

def attemptsOf (attempts : List Attempt) (hostname : String) : List Throttle.Record :=
  (attempts.filter fun a => a.hostname = hostname).map fun a => ⟨a.time, outcomeOf a.checked⟩

structure Tracked (blockDuration : Int) (w : Watch) : Prop where
  now : 0 ≤ w.now
  sound : ∀ hostname, SoundCounter (w.counter hostname)
  kept : ∀ hostname,
    Throttle.Kept 3 blockDuration w.now (w.counter hostname) (attemptsOf w.attempts hostname)
  success : ∀ a ∈ w.attempts, a.checked = some true → a.result = .ok .success

theorem tracked_start (blockDuration : Int) : Tracked blockDuration .start where
  now := le_rfl
  sound _ := ⟨le_rfl, le_rfl, show (0 : Int) < 2 ^ 31 by decide⟩
  kept _ := .start (show (0 : Int) ≤ 3 by decide) 0 0
  success _ h := by cases h

/-- a call that leaves the counters alone -/
theorem Tracked.of_counter {w : Watch} (h : Tracked blockDuration w) {world : World}
    (hcounter : ∀ hostname, counterOf (world.core.users.find? hostname) = w.counter hostname) :
    Tracked blockDuration { w with world := world } := by
  refine ⟨h.now, ?_, ?_, h.success⟩
  · intro hostname
    show SoundCounter (counterOf _)
    rw [hcounter]
    exact h.sound hostname
  · intro hostname
    show Throttle.Kept _ _ _ (counterOf _) _
    rw [hcounter]
    exact h.kept hostname

theorem counter_createUser (L : Libs) (hostname password : String) (s : St) (other : String) :
    counterOf (((createUser L hostname password).run s).2.core.users.find? other) =
      counterOf (s.core.users.find? other) := by
  rw [run_createUser]
  split
  · rfl
  · split
    · rfl
    · rename_i users hinsert
      obtain ⟨hnone, hc, rfl⟩ := Table.insert?_cases hinsert
      show counterOf (Table.find? (Table.put _ _ _ hc) other) = _
      rw [Table.find?_put]
      by_cases ho : other = hostname
      · rw [if_pos ho, ho, hnone]
        rfl
      · rw [if_neg ho]

theorem LockChange.counter {isLocked : Bool} {change : Finset String → Finset String}
    {client : String} {c c' : Core} {r : Except Exn Bool}
    (h : LockChange isLocked change client c r c') (other : String) :
    counterOf (c'.users.find? other) = counterOf (c.users.find? other) := by
  have hcounter : ∀ row?, counterOf row? = (row?.map UserRow.counter).getD ⟨0, 0⟩ := by
    rintro (_ | row) <;> rfl
  rw [hcounter, hcounter, h.map_find? fun _ => rfl]

theorem attemptsOf_concat (attempts : List Attempt) (a : Attempt) (hostname : String) :
    attemptsOf (attempts ++ [a]) hostname =
      attemptsOf attempts hostname ++
        if a.hostname = hostname then [⟨a.time, outcomeOf a.checked⟩] else [] := by
  unfold attemptsOf
  rw [List.filter_append, List.map_append, List.filter_singleton]
  congr 1
  by_cases h : a.hostname = hostname
  · simp [h]
  · simp [h]

/-- the attempt's record and the new counter, by the rules of `Throttle` -/
theorem Throttled.kept {now time : Int} {row? row'? : Option UserRow} {check : Option Bool}
    {history : List Throttle.Record} (h : Throttled blockDuration time row? check row'?)
    (hsound : SoundCounter (counterOf row?)) (htime : now ≤ time) (hnonneg : 0 ≤ time)
    (hlt : time < 2 ^ 31) (hkept : Throttle.Kept 3 blockDuration now (counterOf row?) history) :
    SoundCounter (counterOf row'?) ∧
      Throttle.Kept 3 blockDuration time (counterOf row'?)
        (history ++ [⟨time, outcomeOf check⟩]) := by
  cases h with
  | refused hcheck =>
    rw [hcheck]
    exact ⟨hsound, hkept.refused htime⟩
  | attempt row ok hrow hcheck hopen =>
    rw [hrow] at hsound hkept
    rw [hcheck]
    have hnext := hkept.attempt htime (by decide) ok
    change Throttle.Kept _ _ _ (Throttle.attempt 3 blockDuration row.counter time ok).2
      (_ ++ [⟨_, (Throttle.attempt 3 blockDuration row.counter time ok).1⟩]) at hnext
    rw [← counter_checked row ok time blockDuration hopen] at hnext
    refine ⟨⟨hnext.nonneg, ?_, ?_⟩, hnext⟩
    · show 0 ≤ (row.checked ok time).lastFailedTimestamp
      rcases stamp_checked row ok time with he | he
      · rw [he]
        exact hsound.last
      · rw [he]
        exact hnonneg
    · show (row.checked ok time).lastFailedTimestamp < 2 ^ 31
      rcases stamp_checked row ok time with he | he
      · rw [he]
        exact hsound.last_lt
      · rw [he]
        exact hlt

theorem Tracked.authenticate {w : Watch} {i : AuthInput} (h : Tracked blockDuration w)
    (hclock : w.now ≤ i.time ∧ i.time < 2 ^ 31) (hostname password : String) :
    let done := (authenticate L hostname password blockDuration).run (w.world.facing i.env)
    let check := passwordCheck L hostname password blockDuration (w.world.facing i.env)
    Tracked blockDuration
      ⟨done.2.world, i.time, w.attempts ++ [⟨hostname, i.time, check, done.1⟩]⟩ := by
  intro done check
  have hnow := h.now
  have hsound : ∀ row, (w.world.facing i.env).core.users.find? hostname = some row →
      SoundCounter row.counter := by
    intro row hrow
    have hsound := h.sound hostname
    unfold Watch.counter at hsound
    change w.world.core.users.find? hostname = some row at hrow
    rwa [hrow] at hsound
  obtain ⟨hothers, hrow, hsuccess⟩ := authenticate_throttles L hostname password blockDuration
    (w.world.facing i.env) i.healthy hsound
  have hstep := hrow.kept (h.sound hostname) hclock.1 (hnow.trans hclock.1) hclock.2 (h.kept hostname)
  refine ⟨hnow.trans hclock.1, ?_, ?_, ?_⟩
  · intro other
    show SoundCounter (counterOf (done.2.core.users.find? other))
    by_cases ho : other = hostname
    · rw [ho]
      exact hstep.1
    · rw [hothers other ho]
      exact h.sound other
  · intro other
    show Throttle.Kept _ _ _ (counterOf (done.2.core.users.find? other)) _
    rw [attemptsOf_concat]
    by_cases ho : other = hostname
    · rw [ho, if_pos rfl]
      exact hstep.2
    · rw [hothers other ho, if_neg (Ne.symm ho), List.append_nil]
      exact (h.kept other).later hclock.1
  · intro a ha hchecked
    rcases List.mem_append.mp ha with ha | ha
    · exact h.success a ha hchecked
    · obtain rfl := List.mem_singleton.mp ha
      exact hsuccess hchecked

theorem tracked_step {w w' : Watch} {i : AuthInput} (h : Tracked blockDuration w)
    (hstep : watchStep L blockDuration w i = some w') : Tracked blockDuration w' := by
  unfold watchStep at hstep
  cases hcall : i.call with
  | createUser hostname password =>
    simp only [hcall, Option.some.injEq] at hstep
    subst hstep
    exact h.of_counter fun other => counter_createUser L hostname password _ other
  | authenticate hostname password =>
    simp only [hcall] at hstep
    obtain ⟨hclock, hstep⟩ := Option.ite_none_right_eq_some.mp hstep
    cases hstep
    exact h.authenticate hclock hostname password
  | lockClient clientId =>
    simp only [hcall, Option.some.injEq] at hstep
    subst hstep
    exact h.of_counter fun other => (changeLock_spec true _ _ _ clientId _).counter other
  | unlockClient clientId =>
    simp only [hcall, Option.some.injEq] at hstep
    subst hstep
    exact h.of_counter fun other => (changeLock_spec false _ _ _ clientId _).counter other

theorem checksIn_attemptsOf (attempts : List Attempt) (hostname : String) (t t' : Int) :
    Throttle.checksIn (attemptsOf attempts hostname) t t' =
      attempts.countP fun a => a.hostname = hostname ∧ a.checked.isSome = true ∧
        t ≤ a.time ∧ a.time < t' := by
  unfold Throttle.checksIn attemptsOf
  rw [List.countP_map, List.countP_filter]
  refine List.countP_congr ?_
  intro a _
  rcases hc : a.checked with _ | ok
  · simp [outcomeOf, hc]
  · cases ok <;> simp [outcomeOf, hc, and_comm]

/-- **In a window `[t, t + blockDuration)` in which no attempt of a user succeeds, at most three
attempts of that user get as far as having the password checked; and an attempt that does not, at any
time, ends as it would with every other password.** -/
theorem brute_force_bound (L : Libs) (blockDuration : Int) (inputs : List AuthInput) (w : Watch)
    (hrun : runFrom (watchStep L blockDuration) .start inputs = some w) (user : String) (t : Int)
    (hno : ∀ a ∈ w.attempts, a.hostname = user → t ≤ a.time → a.time < t + blockDuration →
      a.result ≠ .ok .success) :
    (w.attempts.countP fun a => a.hostname = user ∧ a.checked.isSome = true ∧
      t ≤ a.time ∧ a.time < t + blockDuration) ≤ 3 ∧
    ∀ env, (∀ n, (env n : Answer).fails = false) → ∀ hostname password,
      passwordCheck L hostname password blockDuration (w.world.facing env) = none →
      ∃ result s', ∀ other, (authenticate L hostname other blockDuration).run (w.world.facing env) =
        (.ok result, s') := by
  have htracked : Tracked blockDuration w := runFrom_invariant (tracked_start blockDuration)
    (fun _ _ _ h hstep => tracked_step h hstep) inputs w hrun
  refine ⟨?_, fun env hhealthy hostname password hcheck => ?_⟩
  swap
  · refine authenticate_unchecked hhealthy (fun row hrow => ?_) hcheck
    have hsound := htracked.sound hostname
    unfold Watch.counter at hsound
    change w.world.core.users.find? hostname = some row at hrow
    rw [hrow] at hsound
    exact hsound.count
  have hwindow := (htracked.kept user).window t ?_
  · rw [checksIn_attemptsOf] at hwindow
    exact_mod_cast hwindow
  · intro r hr hpassed
    obtain ⟨a, ha, rfl⟩ := List.mem_map.mp hr
    obtain ⟨ha, huser⟩ := List.mem_filter.mp ha
    have hchecked : a.checked = some true := by
      rcases hc : a.checked with _ | ok
      · simp [outcomeOf, hc] at hpassed
      · cases ok <;> simp [outcomeOf, hc] at hpassed ⊢
    by_contra hin
    refine hno a ha (of_decide_eq_true huser) ?_ ?_ (htracked.success a ha hchecked)
    · dsimp only at hin
      omega
    · dsimp only at hin
      omega

/-! Four wrong guesses within the block's time. -/

def guess (call : AuthCall) : AuthInput := ⟨call, healthy, fun _ => rfl⟩

def fourGuesses : List AuthInput :=
  [guess (.createUser "alice" "secret"), guess (.authenticate "alice" "a"),
    guess (.authenticate "alice" "b"), guess (.authenticate "alice" "c"),
    guess (.authenticate "alice" "d")]

theorem fourGuesses_isSome :
    (runFrom (watchStep (.known []) 900) .start fourGuesses).isSome := by decide

def guessed : Watch :=
  (runFrom (watchStep (.known []) 900) .start fourGuesses).get fourGuesses_isSome

theorem guessed_results : guessed.attempts.map Attempt.result =
    [.ok .failedBadCredentials, .ok .failedBadCredentials, .ok .failedAccountLocked,
      .ok .failedAccountLocked] := rfl

theorem brute_force_bound_alice :
    (guessed.attempts.countP fun a => a.hostname = "alice" ∧ a.checked.isSome = true ∧
      (0 : Int) ≤ a.time ∧ a.time < 0 + 900) ≤ 3 ∧
    ∃ result s', ∀ other, (authenticate (.known []) "alice" other 900).run
      (guessed.world.facing healthy) = (.ok result, s') := by
  have hbound := brute_force_bound (.known []) 900 fourGuesses guessed
    (Option.some_get fourGuesses_isSome).symm "alice" 0 ?_
  · exact ⟨hbound.1, hbound.2 healthy (fun _ => rfl) "alice" "d" (by decide)⟩
  intro a ha _ _ _ hsuccess
  have hmem : (Except.ok AuthResult.success : Except Exn AuthResult) ∈
      guessed.attempts.map Attempt.result := List.mem_map.mpr ⟨a, ha, hsuccess⟩
  rw [guessed_results] at hmem
  simp at hmem

end Logistics
