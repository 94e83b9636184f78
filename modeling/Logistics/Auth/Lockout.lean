import Logistics.Auth.BruteForce

/-!
# The attempt counter and the lockout

Sequences of `authenticate` calls under a clock that may show anything, also an earlier time than
before, over a database that answers every statement.  The table's check bounds `failed_attempts`
from above by throwing; that no call ever runs into it is a property of the code.

* `LoginCall`, `loginStep`   one call, with its own clock and block duration;
* `counter_discipline`       **counters stay in `0 .. 3` and agree with the results**;
* `LockoutHolds`             after a third failure at `t` no password is checked before `t + B`;
* `lockout_iff`              **it holds exactly for the times below `2^31`**.
-/

namespace Logistics
open Runs

/-! ## calls -/

/-- a call of `authenticate` and what the outside answers to it; the database does not fail -/
structure LoginCall where
  hostname : String
  password : String
  blockDuration : Int
  env : Nat → Answer
  healthy : ∀ n, (env n).fails = false

def LoginCall.time (c : LoginCall) : Int := (c.env 1).time

def LoginCall.run (L : Libs) (w : World) (c : LoginCall) : Except Exn AuthResult × St :=
  (authenticate L c.hostname c.password c.blockDuration).run (w.facing c.env)

def LoginCall.check (L : Libs) (w : World) (c : LoginCall) : Option Bool :=
  passwordCheck L c.hostname c.password c.blockDuration (w.facing c.env)

def loginStep (L : Libs) (w : World) (c : LoginCall) : Option World := some (c.run L w).2.world

variable {L : Libs} {w w' : World} {row : UserRow} {t : Int}

/-! ## the counters -/

def CountersBounded (users : Users) : Prop :=
  ∀ hostname row, users.find? hostname = some row →
    0 ≤ row.failedAttempts ∧ row.failedAttempts ≤ 3

theorem attempts_checked (row : UserRow) (ok : Bool) (time : Int) :
    (row.checked ok time).failedAttempts =
      if ok = true then 0 else if 3 ≤ row.failedAttempts then 1 else row.failedAttempts + 1 := by
  unfold UserRow.checked UserRow.admitted
  cases ok with
  | true => rfl
  | false =>
    show (if 3 ≤ row.failedAttempts then row.resetAttempts else row).failedAttempts + 1 = _
    split <;> rfl

/-- the result of a call agrees with the counter it leaves -/
structure Agrees (L : Libs) (password : String) (row : UserRow) (result : AuthResult)
    (row' : UserRow) : Prop where
  locked : result = .failedAccountLocked ↔ row'.failedAttempts = 3
  success : result = .success →
    L.validatePassword password row.passwordHash = true ∧ row'.failedAttempts = 0
  bad : result = .failedBadCredentials → row'.failedAttempts = 1 ∨ row'.failedAttempts = 2

/-- a call that the block refuses -/
theorem agrees_blocked {password : String} (hfull : row.failedAttempts = 3) :
    Agrees L password row .failedAccountLocked row where
  locked := ⟨fun _ => hfull, fun _ => rfl⟩
  success h := by cases h
  bad h := by cases h

/-- a call that checks the password -/
theorem agrees_checked {password : String} {ok : Bool} (time : Int)
    (hok : L.validatePassword password row.passwordHash = ok)
    (hrow : 0 ≤ row.failedAttempts ∧ row.failedAttempts ≤ 3) :
    Agrees L password row (verdict ok row.failedAttempts) (row.checked ok time) := by
  obtain ⟨hcount, hle⟩ := hrow
  have hafter := attempts_checked row ok time
  unfold verdict
  cases ok with
  | true =>
    rw [if_pos rfl] at hafter
    refine ⟨?_, fun _ => ⟨hok, hafter⟩, fun h => by cases h⟩
    rw [hafter]
    exact ⟨fun h => (by cases h), fun h => by omega⟩
  | false =>
    rw [if_neg (by decide)] at hafter ⊢
    by_cases htwo : row.failedAttempts = 2
    · rw [if_pos htwo]
      rw [if_neg (by omega)] at hafter
      refine ⟨⟨fun _ => by omega, fun _ => rfl⟩, (fun h => by cases h), fun h => by cases h⟩
    · rw [if_neg htwo]
      have hlow : (row.checked false time).failedAttempts = 1 ∨
          (row.checked false time).failedAttempts = 2 := by
        split at hafter
        · exact .inl hafter
        · omega
      exact ⟨⟨fun h => (by cases h), fun h => by omega⟩, (fun h => by cases h), fun _ => hlow⟩

/-- **What one call does.** -/
theorem LoginCall.run_spec (L : Libs) (hw : CountersBounded w.core.users) (c : LoginCall) :
    ∃ result s', c.run L w = (.ok result, s') ∧ CountersBounded s'.core.users ∧
      (∀ other, other ≠ c.hostname →
        s'.core.users.find? other = w.core.users.find? other) ∧
      ∀ row, w.core.users.find? c.hostname = some row → row.authData.isLocked = false →
        ∃ row', s'.core.users.find? c.hostname = some row' ∧
          Agrees L c.password row result row' := by
  unfold LoginCall.run
  have hhealthy : (w.facing c.env).Healthy := c.healthy
  rcases unlocked_row_or w.core.users c.hostname with hno | ⟨row, hrow, hunlocked⟩
  · obtain ⟨-, result, s', hrun, hcore⟩ := @authenticate_refused L c.hostname c.password
      c.blockDuration _ hhealthy hno
    refine ⟨result, s', hrun, ?_, ?_, ?_⟩
    · rw [hcore]
      exact hw
    · intro other _
      rw [hcore]
      rfl
    · intro row hrow hunlocked
      rw [hno row hrow] at hunlocked
      cases hunlocked
  · have hbounds := hw c.hostname row hrow
    rcases @authenticate_row L c.hostname c.password c.blockDuration _ row hhealthy hrow hunlocked
      hbounds.1 with ⟨hblocked, -, s', hrun, hcore⟩ | ⟨-, ok, s', hok, -, hrun, hfind⟩
    · refine ⟨_, s', hrun, ?_, ?_, ?_⟩
      · rw [hcore]
        exact hw
      · intro other _
        rw [hcore]
        rfl
      · intro row₁ hrow₁ _
        rw [hrow] at hrow₁
        cases hrow₁
        refine ⟨row, ?_, agrees_blocked (le_antisymm hbounds.2 hblocked.1)⟩
        rw [hcore]
        exact hrow
    · refine ⟨_, s', hrun, ?_, ?_, ?_⟩
      · intro other row' hrow'
        rw [hfind] at hrow'
        by_cases ho : other = c.hostname
        · rw [if_pos ho] at hrow'
          cases hrow'
          rw [attempts_checked]
          split
          · decide
          · split <;> omega
        · rw [if_neg ho] at hrow'
          exact hw other row' hrow'
      · intro other hne
        rw [hfind, if_neg hne]
        rfl
      · intro row₁ hrow₁ _
        rw [hrow] at hrow₁
        cases hrow₁
        refine ⟨_, ?_, agrees_checked c.time hok hbounds⟩
        rw [hfind, if_pos rfl]
        rfl

theorem countersBounded_step {c : LoginCall} (hw : CountersBounded w.core.users)
    (hstep : loginStep L w c = some w') : CountersBounded w'.core.users := by
  obtain ⟨result, s', hrun, hbounded, -⟩ := c.run_spec L hw
  unfold loginStep at hstep
  rw [hrun] at hstep
  cases hstep
  exact hbounded

theorem countersBounded_run {w₀ : World} (h₀ : CountersBounded w₀.core.users)
    {calls : List LoginCall} (hrun : runFrom (loginStep L) w₀ calls = some w) :
    CountersBounded w.core.users :=
  runFrom_invariant (I := fun w => CountersBounded w.core.users) h₀
    (fun _ _ _ hw hstep => countersBounded_step hw hstep) calls w hrun

/-- **After any calls the counters lie in `0 .. 3`, the next call returns, leaves the rows of others
alone, and its result agrees with the counter it leaves.** -/
theorem counter_discipline (L : Libs) (w₀ : World) (h₀ : CountersBounded w₀.core.users)
    (calls : List LoginCall) (w : World) (hrun : runFrom (loginStep L) w₀ calls = some w) :
    CountersBounded w.core.users ∧
      ∀ c : LoginCall, ∃ result s', c.run L w = (.ok result, s') ∧
        (∀ other, other ≠ c.hostname →
          s'.core.users.find? other = w.core.users.find? other) ∧
        ∀ row, w.core.users.find? c.hostname = some row → row.authData.isLocked = false →
          ∃ row', s'.core.users.find? c.hostname = some row' ∧
            (result = .failedAccountLocked ↔ row'.failedAttempts = 3) ∧
            (result = .success →
              L.validatePassword c.password row.passwordHash = true ∧ row'.failedAttempts = 0) ∧
            (result = .failedBadCredentials →
              row'.failedAttempts = 1 ∨ row'.failedAttempts = 2) := by
  have hw := countersBounded_run h₀ hrun
  refine ⟨hw, fun c => ?_⟩
  obtain ⟨result, s', hcall, -, hothers, hagrees⟩ := c.run_spec L hw
  refine ⟨result, s', hcall, hothers, fun row hrow hunlocked => ?_⟩
  obtain ⟨row', hrow', h⟩ := hagrees row hrow hunlocked
  exact ⟨row', hrow', h.locked, h.success, h.bad⟩

/-! A clock that goes back: three failures at 500, 400 and 300. -/

def loginAt (password : String) (blockDuration time : Int) : LoginCall :=
  ⟨"alice", password, blockDuration, answersAt time, fun _ => rfl⟩

def aliceFailed (attempts : Int) (h : attempts ≤ 3) : World :=
  ⟨.boot (Table.empty.put "alice" ⟨"#secret", attempts, 0, 0⟩ ⟨by decide, h⟩) .empty fun _ => "",
    .empty⟩

theorem aliceFailed_find (attempts : Int) (h : attempts ≤ 3) (hostname : String) :
    (aliceFailed attempts h).core.users.find? hostname =
      if hostname = "alice" then some ⟨"#secret", attempts, 0, 0⟩ else none := by
  unfold aliceFailed
  exact Table.find?_put (h := ⟨by decide, h⟩) ..

theorem aliceFailed_bounded (attempts : Int) (h : attempts ≤ 3) (h0 : 0 ≤ attempts) :
    CountersBounded (aliceFailed attempts h).core.users := by
  intro hostname row hrow
  rw [aliceFailed_find] at hrow
  split at hrow
  · cases hrow
    exact ⟨h0, h⟩
  · cases hrow

theorem counter_discipline_back :
    ∃ w, runFrom (loginStep (.known [])) (aliceFailed 0 (by decide))
        [loginAt "a" 900 500, loginAt "b" 900 400, loginAt "c" 900 300] = some w ∧
      CountersBounded w.core.users := by
  refine ⟨_, rfl, ?_⟩
  exact (counter_discipline (.known []) (aliceFailed 0 (by decide))
    (aliceFailed_bounded 0 (by decide) (by decide))
    [loginAt "a" 900 500, loginAt "b" 900 400, loginAt "c" 900 300] _ rfl).1

/-! ## the lockout -/

/-- a row as a third failure at `t` leaves it -/
structure ThirdFailure (t : Int) (row : UserRow) : Prop where
  unlocked : row.authData.isLocked = false
  attempts : row.failedAttempts = 3
  stamp : row.lastFailedTimestamp = t

/-- Whatever the accounts, the passwords and the other calls: once a call at `t` has failed for the
third time, the calls for that user before `t + B` are refused without looking at the password, and
the first one from then on looks at it. -/
def LockoutHolds (t B : Int) : Prop :=
  ∀ (L : Libs) (w : World), CountersBounded w.core.users →
  ∀ third : LoginCall, third.time = t →
  ∀ row, w.core.users.find? third.hostname = some row → row.authData.isLocked = false →
    row.failedAttempts = 2 → L.validatePassword third.password row.passwordHash = false →
  ∀ (calls : List LoginCall) (w' : World),
    runFrom (loginStep L) w (third :: calls) = some w' →
    (∀ c ∈ calls, c.hostname = third.hostname →
      c.blockDuration = B ∧ t ≤ c.time ∧ c.time < t + B) →
  ∀ c : LoginCall, c.hostname = third.hostname → c.blockDuration = B →
    (t ≤ c.time → c.time < t + B →
      (c.run L w').1 = .ok .failedAccountLocked ∧ c.check L w' = none) ∧
    (t + B ≤ c.time → (c.check L w').isSome = true)

/-- the third failure -/
theorem thirdFailure_recorded {third : LoginCall}
    (hrow : w.core.users.find? third.hostname = some row)
    (hunlocked : row.authData.isLocked = false) (htwo : row.failedAttempts = 2)
    (hwrong : L.validatePassword third.password row.passwordHash = false)
    (hstep : loginStep L w third = some w') :
    ∃ row', w'.core.users.find? third.hostname = some row' ∧
      row'.passwordHash = row.passwordHash ∧ ThirdFailure third.time row' := by
  have hhealthy : (w.facing third.env).Healthy := third.healthy
  unfold loginStep LoginCall.run at hstep
  rcases @authenticate_row L third.hostname third.password third.blockDuration _ row hhealthy hrow
    hunlocked (by omega) with ⟨hblocked, -⟩ | ⟨-, ok, s', hok, -, hrun, hfind⟩
  · have hfull := hblocked.1
    omega
  · rw [hwrong] at hok
    subst hok
    rw [hrun] at hstep
    cases hstep
    refine ⟨row.checked false third.time, ?_, ?_⟩
    · show s'.core.users.find? third.hostname = _
      rw [hfind, if_pos rfl]
      rfl
    · unfold UserRow.checked UserRow.admitted
      rw [if_neg (show ¬ 3 ≤ row.failedAttempts by omega)]
      refine ⟨rfl, hunlocked, ?_, rfl⟩
      show row.failedAttempts + 1 = 3
      omega

/-- a call for a locked out row: what it reads of the stamp decides -/
theorem LoginCall.run_thirdFailure (L : Libs) {c : LoginCall}
    (hrow : w.core.users.find? c.hostname = some row) (hlocked : ThirdFailure t row) :
    (c.time - columnInt t < c.blockDuration ∧ c.check L w = none ∧
      ∃ s', c.run L w = (.ok .failedAccountLocked, s') ∧ s'.core = w.core) ∨
    (¬ c.time - columnInt t < c.blockDuration ∧
      c.check L w = some (L.validatePassword c.password row.passwordHash)) := by
  have hhealthy : (w.facing c.env).Healthy := c.healthy
  have hstamp : row.authData.lastFailedTimestamp = columnInt t := by
    rw [← hlocked.stamp]
    rfl
  have hfull := hlocked.attempts
  unfold LoginCall.run LoginCall.check
  rcases @authenticate_row L c.hostname c.password c.blockDuration _ row hhealthy hrow
    hlocked.unlocked (by omega)
    with ⟨hblocked, hcheck, s', hrun, hcore⟩ | ⟨hopen, ok, s', rfl, hcheck, -, -⟩
  · have hwindow := hblocked.2
    rw [hstamp] at hwindow
    exact .inl ⟨hwindow, hcheck, s', hrun, hcore⟩
  · refine .inr ⟨fun hwindow => hopen ⟨?_, ?_⟩, hcheck⟩
    · omega
    · rw [hstamp]
      exact hwindow

/-- the lockout lasts through calls of others and through refused calls -/
theorem thirdFailure_calls {user : String} {B : Int} (hread : columnInt t = t)
    (hw : CountersBounded w.core.users) (hrow : w.core.users.find? user = some row)
    (hlocked : ThirdFailure t row) {calls : List LoginCall}
    (hcalls : ∀ c ∈ calls, c.hostname = user → c.blockDuration = B ∧ t ≤ c.time ∧ c.time < t + B)
    (hrun : runFrom (loginStep L) w calls = some w') : w'.core.users.find? user = some row := by
  induction calls generalizing w with
  | nil =>
    cases hrun
    exact hrow
  | cons c calls ih =>
    rw [runFrom_cons] at hrun
    obtain ⟨w₁, hstep, hrun⟩ := Option.bind_eq_some_iff.mp hrun
    have hw₁ := countersBounded_step hw hstep
    have hrest : ∀ c ∈ calls, c.hostname = user →
        c.blockDuration = B ∧ t ≤ c.time ∧ c.time < t + B :=
      fun c hc => hcalls c (List.mem_cons_of_mem _ hc)
    refine ih hw₁ ?_ hrest hrun
    unfold loginStep at hstep
    by_cases huser : c.hostname = user
    · obtain ⟨hB, -, hlt⟩ := hcalls c List.mem_cons_self huser
      rw [← huser] at hrow ⊢
      rcases c.run_thirdFailure L hrow hlocked with ⟨-, -, s', hcall, hcore⟩ | ⟨hopen, -⟩
      · rw [hcall] at hstep
        cases hstep
        show s'.core.users.find? c.hostname = some row
        rw [hcore]
        exact hrow
      · rw [hread, hB] at hopen
        omega
    · obtain ⟨result, s', hcall, -, hothers, -⟩ := c.run_spec L hw
      rw [hcall] at hstep
      cases hstep
      show s'.core.users.find? user = some row
      rw [hothers user (Ne.symm huser)]
      exact hrow

theorem lockoutHolds_of_read (hread : columnInt t = t) (B : Int) : LockoutHolds t B := by
  intro L w hw third htime row hrow hunlocked htwo hwrong calls w' hrun hcalls c huser hB
  rw [runFrom_cons] at hrun
  obtain ⟨w₁, hstep, hrun⟩ := Option.bind_eq_some_iff.mp hrun
  obtain ⟨row', hrow', -, hlocked⟩ := thirdFailure_recorded hrow hunlocked htwo hwrong hstep
  rw [htime] at hlocked
  have hkept := thirdFailure_calls hread (countersBounded_step hw hstep) hrow' hlocked hcalls hrun
  rw [← huser] at hkept
  rcases c.run_thirdFailure L hkept hlocked with ⟨hin, hcheck, s', hcall, -⟩ | ⟨hout, hcheck⟩
  · rw [hread, hB] at hin
    refine ⟨fun _ _ => ⟨?_, hcheck⟩, fun hlate => ?_⟩
    · rw [hcall]
    · omega
  · rw [hread, hB] at hout
    refine ⟨fun _ hlt => ?_, fun _ => ?_⟩
    · omega
    · rw [hcheck]
      rfl

/-- beyond `2^31` at least `2^32` are lost -/
theorem columnInt_late (h : 2 ^ 31 ≤ t) : columnInt t + 2 ^ 32 ≤ t := by
  unfold columnInt Int.bmod
  dsimp only
  split <;> omega

theorem not_lockoutHolds_late {B : Int} (hlate : 2 ^ 31 ≤ t) (hB : 0 < B) (hint : B < 2 ^ 31) :
    ¬ LockoutHolds t B := by
  intro hholds
  have hread := columnInt_late hlate
  have hwrong : (Libs.known []).validatePassword "wrong" "#secret" = false := by decide
  -- alice fails for the third time and tries again in the same second
  have hrow := aliceFailed_find 2 (by decide) "alice"
  rw [if_pos rfl] at hrow
  have hlocked := (hholds (.known []) (aliceFailed 2 (by decide))
    (aliceFailed_bounded 2 (by decide) (by decide)) (loginAt "wrong" B t) rfl _ hrow (by decide) rfl
    hwrong [] _ rfl (fun c hc => by cases hc) (loginAt "secret" B t) rfl rfl).1 (le_refl t)
    (show t < t + B by omega)
  obtain ⟨row', hrow', -, hthird⟩ := @thirdFailure_recorded (.known []) _ _ _ (loginAt "wrong" B t)
    hrow (by decide) rfl hwrong rfl
  rcases (loginAt "secret" B t).run_thirdFailure (.known []) hrow' hthird with ⟨hin, -⟩ | ⟨-, hcheck⟩
  · change t - columnInt t < B at hin
    omega
  · have hnone := hlocked.2
    rw [hnone] at hcheck
    cases hcheck

/-- **The lockout holds exactly where `sqlite3_column_int` gives the time back.** -/
theorem lockout_iff (t B : Int) (h0 : 0 ≤ t) (h64 : t < 2 ^ 63) (hB : 0 < B) (hint : B < 2 ^ 31) :
    LockoutHolds t B ↔ t < 2 ^ 31 := by
  constructor
  · intro hholds
    by_contra hlate
    exact not_lockoutHolds_late (by omega) hB hint hholds
  · intro hlt
    exact lockoutHolds_of_read (columnInt_of_range (by omega) hlt) B

theorem lockout_holds_2001 : (0 : Int) ≤ 10 ^ 9 ∧ LockoutHolds (10 ^ 9) 900 :=
  ⟨by decide, (lockout_iff (10 ^ 9) 900 (by decide) (by decide) (by decide) (by decide)).mpr
    (by decide)⟩

/-- The third wrong password at `2^31` locks the account; the right one, a minute later, is checked
and let in. -/
theorem late_lockout_is_skipped :
    ∃ w', runFrom (loginStep (.known [])) (aliceFailed 2 (by decide)) [loginAt "wrong" 900 (2 ^ 31)] =
        some w' ∧
      ((loginAt "wrong" 900 (2 ^ 31)).run (.known []) (aliceFailed 2 (by decide))).1 =
        .ok .failedAccountLocked ∧
      (loginAt "secret" 900 (2 ^ 31 + 60)).check (.known []) w' = some true ∧
      ((loginAt "secret" 900 (2 ^ 31 + 60)).run (.known []) w').1 = .ok .success := by
  refine ⟨_, rfl, ?_, ?_, ?_⟩
  · rfl
  · rfl
  · rfl

end Logistics
