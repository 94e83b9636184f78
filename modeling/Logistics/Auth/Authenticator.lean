import Logistics.Store.Storage

/-!
# Authenticator: one login attempt

`authenticate` is cut at the point where the password is compared with the stored hash:

* `admitAttempt`    what comes before: the attempt is refused or admitted, with the data read;
* `checkPassword`   the comparison and what follows from it.

The data read BEFORE the reset is what `checkPassword` still sees: after an expired block the first
wrong password finds `failedAttempts ≥ 3` there, not `0`.

`SameButCounters` says that two versions of the table differ in the login counters only.
`authenticate_counters` (nothing else changes) and `authenticate_success` (who it lets in) are all
the rest of the server needs to know of a call.
-/

namespace Logistics

inductive AuthResult where
  | success
  | failedUserNotFound
  | failedAccountLocked
  | failedBadCredentials
  | failedAlertLocked
  deriving DecidableEq, Repr

inductive Admission where
  | refused (result : AuthResult) (failed : result ≠ .success)
  | admitted (data : UserAuthData) (currentTime : Int)

/-- from `m_clock.now()` on: the temporary block, or the reset after it -/
def admitUnlocked (hostname : String) (blockDuration : Int) (data : UserAuthData) :
    M Admission := do
  let now ← ask
  if 3 ≤ data.failedAttempts ∧ now.time - data.lastFailedTimestamp < blockDuration then do
    log .warning "Authenticator"
      ("User by hostname: '" ++ hostname ++ "' is trying to login but is blocked.") none
    pure (.refused .failedAccountLocked (by decide))
  else if 3 ≤ data.failedAttempts then do
    updateLoginAttempts hostname true now.time
    pure (.admitted data now.time)
  else pure (.admitted data now.time)

def admitAttempt (hostname : String) (blockDuration : Int) : M Admission := do
  let authData ← getUserLoginData hostname
  match authData with
  | none => do
    log .warning "Authenticator" ("No user found for the given hostname: '" ++ hostname ++ "'.")
      none
    pure (.refused .failedUserNotFound (by decide))
  | some data =>
    if data.isLocked then pure (.refused .failedAlertLocked (by decide))
    else admitUnlocked hostname blockDuration data

def checkPassword (L : Libs) (hostname password : String) (data : UserAuthData)
    (currentTime : Int) : M AuthResult :=
  if L.validatePassword password data.passwordHash then do
    log .info "Authenticator" ("Login successful for user '" ++ hostname ++ "'.") none
    updateLoginAttempts hostname true currentTime
    pure .success
  else do
    updateLoginAttempts hostname false currentTime
    if data.failedAttempts = 2 then do
      log .warning "Authenticator" ("Failed login attempts limit reached for user '" ++ hostname ++
        "'. Login is disabled for 15 min.") none
      pure .failedAccountLocked
    else do
      log .warning "Authenticator" ("Failed login attempt for user '" ++ hostname ++ "'.") none
      pure .failedBadCredentials

def authenticate (L : Libs) (hostname password : String) (blockDuration : Int) : M AuthResult := do
  let admission ← admitAttempt hostname blockDuration
  match admission with
  | .refused result _ => pure result
  | .admitted data currentTime => checkPassword L hostname password data currentTime

/-! ## login counters -/

/-- the columns of a row that a login attempt does not write -/
def UserRow.identity (row : UserRow) : String × Int := (row.passwordHash, row.isLocked)

def SameButCounters (users users' : Users) : Prop :=
  ∀ hostname, (users'.find? hostname).map UserRow.identity =
    (users.find? hostname).map UserRow.identity

theorem SameButCounters.refl (users : Users) : SameButCounters users users := fun _ => rfl

theorem SameButCounters.trans {u₁ u₂ u₃ : Users} (h : SameButCounters u₁ u₂)
    (h' : SameButCounters u₂ u₃) : SameButCounters u₁ u₃ :=
  fun hostname => (h' hostname).trans (h hostname)

theorem sameButCounters_of_update? {users users' : Users} {hostname : String}
    {f : UserRow → UserRow} (hf : ∀ row, (f row).identity = row.identity)
    (h : users.update? hostname f = some users') : SameButCounters users users' :=
  Table.map_find?_update? h hf

/-- what a login attempt may do to the core: nothing, or new login counters -/
structure CountersOnly (c c' : Core) : Prop where
  users : SameButCounters c.users c'.users
  stock : c'.stock = c.stock
  cache : c'.cache = c.cache
  manager : c'.manager = c.manager
  eventQueueMap : c'.eventQueueMap = c.eventQueueMap
  sessions : c'.sessions = c.sessions

instance : IsPreorder Core CountersOnly where
  refl _ := ⟨.refl _, rfl, rfl, rfl, rfl, rfl⟩
  trans _ _ _ h h' := ⟨h.users.trans h'.users, h'.stock.trans h.stock, h'.cache.trans h.cache,
    h'.manager.trans h.manager, h'.eventQueueMap.trans h.eventQueueMap,
    h'.sessions.trans h.sessions⟩

theorem updateUser_counters (hostname : String) {f : UserRow → UserRow}
    (hf : ∀ row, (f row).identity = row.identity) :
    (updateUser hostname f).Keeps (onCore CountersOnly) := by
  intro s
  rw [run_updateUser]
  cases (s.env 0).fails with
  | true => exact refl_of CountersOnly s.core
  | false =>
    simp only [Bool.false_eq_true, if_false]
    cases h : s.core.users.update? hostname f with
    | none => exact refl_of CountersOnly s.core
    | some users => exact ⟨sameButCounters_of_update? hf h, rfl, rfl, rfl, rfl, rfl⟩

theorem updateLoginAttempts_counters (hostname : String) (loginSuccess : Bool) (timeStamp : Int) :
    (updateLoginAttempts hostname loginSuccess timeStamp).Keeps (onCore CountersOnly) := by
  refine Prog.keeps_ite ?_ ?_
  · exact Prog.keeps_bind (updateUser_counters hostname fun _ => rfl) fun _ => Prog.keeps_pure _
  · exact Prog.keeps_bind (updateUser_counters hostname fun _ => rfl) fun _ => Prog.keeps_pure _

/-- what bears the calls of an attempt bears the attempt -/
theorem authenticate_keeps {R : St → St → Prop} [IsPreorder St R]
    (hlog : ∀ level component message, (log level component message none).Keeps R)
    (hask : ask.Keeps R) (hdata : ∀ hostname, (getUserLoginData hostname).Keeps R)
    (hattempts : ∀ hostname loginSuccess timeStamp,
      (updateLoginAttempts hostname loginSuccess timeStamp).Keeps R)
    (L : Libs) (hostname password : String) (blockDuration : Int) :
    (authenticate L hostname password blockDuration).Keeps R := by
  refine Prog.keeps_bind (Prog.keeps_bind (hdata hostname) fun authData => ?_) fun admission => ?_
  · cases authData with
    | none => exact Prog.keeps_bind (hlog _ _ _) fun _ => Prog.keeps_pure _
    | some data =>
      refine Prog.keeps_ite (Prog.keeps_pure _) (Prog.keeps_bind hask fun now => ?_)
      refine Prog.keeps_ite ?_ (Prog.keeps_ite ?_ (Prog.keeps_pure _))
      · exact Prog.keeps_bind (hlog _ _ _) fun _ => Prog.keeps_pure _
      · exact Prog.keeps_bind (hattempts _ _ _) fun _ => Prog.keeps_pure _
  · cases admission with
    | refused result failed => exact Prog.keeps_pure result
    | admitted data currentTime =>
      refine Prog.keeps_ite ?_ ?_
      · exact Prog.keeps_bind (hlog _ _ _) fun _ =>
          Prog.keeps_bind (hattempts _ _ _) fun _ => Prog.keeps_pure _
      · refine Prog.keeps_bind (hattempts _ _ _) fun _ => Prog.keeps_ite ?_ ?_
        · exact Prog.keeps_bind (hlog _ _ _) fun _ => Prog.keeps_pure _
        · exact Prog.keeps_bind (hlog _ _ _) fun _ => Prog.keeps_pure _

/-- **An attempt writes login counters and nothing else.** -/
theorem authenticate_counters (L : Libs) (hostname password : String) (blockDuration : Int) :
    (authenticate L hostname password blockDuration).Keeps (onCore CountersOnly) :=
  authenticate_keeps (fun _ _ _ => log_keeps _ _ _ _) ask_keeps getUserLoginData_keeps
    updateLoginAttempts_counters L hostname password blockDuration

/-! ## admitted attempts -/

theorem admitUnlocked_data {hostname : String} {blockDuration : Int} {s s' : St}
    {data data' : UserAuthData} {currentTime : Int}
    (h : (admitUnlocked hostname blockDuration data).run s =
      (.ok (.admitted data' currentTime), s')) : data' = data := by
  unfold admitUnlocked at h
  rw [Prog.run_bind, run_ask] at h
  simp only [Prog.run_ite] at h
  split at h
  · simp [Prog.run_bind, run_log] at h
  · split at h
    · obtain ⟨_, _, -, h⟩ := Prog.run_bind_eq_ok.mp h
      cases h
      rfl
    · cases h
      rfl

/-- an admitted attempt has read a row that is not locked -/
theorem admitAttempt_admitted {hostname : String} {blockDuration : Int} {s s' : St}
    {data : UserAuthData} {currentTime : Int}
    (h : (admitAttempt hostname blockDuration).run s = (.ok (.admitted data currentTime), s')) :
    ∃ row, s.core.users.find? hostname = some row ∧ data = row.authData ∧
      row.authData.isLocked = false := by
  obtain ⟨authData, s₁, h₁, h⟩ := Prog.run_bind_eq_ok.mp h
  rw [run_getUserLoginData] at h₁
  cases hf : (s.env 0).fails with
  | true => simp [hf] at h₁
  | false =>
    simp only [hf, Bool.false_eq_true, if_false, Prod.mk.injEq, Except.ok.injEq] at h₁
    obtain ⟨rfl, rfl⟩ := h₁
    cases hrow : s.core.users.find? hostname with
    | none =>
      rw [hrow] at h
      simp [Prog.run_bind, run_log] at h
    | some row =>
      rw [hrow] at h
      simp only [Option.map_some, Prog.run_ite] at h
      cases hl : row.authData.isLocked with
      | true => simp [hl] at h
      | false =>
        simp only [hl, Bool.false_eq_true, if_false] at h
        exact ⟨row, rfl, admitUnlocked_data h, hl⟩

theorem checkPassword_success {L : Libs} {hostname password : String} {data : UserAuthData}
    {currentTime : Int} {s s' : St}
    (h : (checkPassword L hostname password data currentTime).run s = (.ok .success, s')) :
    L.validatePassword password data.passwordHash = true := by
  by_contra hv
  unfold checkPassword at h
  rw [if_neg hv] at h
  obtain ⟨_, s₁, -, h⟩ := Prog.run_bind_eq_ok.mp h
  rw [Prog.run_ite] at h
  split at h <;> simp [Prog.run_bind, run_log] at h

/-- **A successful attempt found an unlocked row and the right password.** -/
theorem authenticate_success {L : Libs} {hostname password : String} {blockDuration : Int}
    {s s' : St} (h : (authenticate L hostname password blockDuration).run s = (.ok .success, s')) :
    ∃ row, s.core.users.find? hostname = some row ∧ row.authData.isLocked = false ∧
      L.validatePassword password row.passwordHash = true := by
  obtain ⟨admission, s₁, h₁, h⟩ := Prog.run_bind_eq_ok.mp h
  cases admission with
  | refused result failed =>
    cases h
    exact absurd rfl failed
  | admitted data currentTime =>
    obtain ⟨row, hrow, rfl, hl⟩ := admitAttempt_admitted h₁
    exact ⟨row, hrow, hl, checkPassword_success h⟩

end Logistics
