import Logistics.Store.Storage

/-!
# SessionManager: the registry of sessions and the alert locks

The member functions of `SessionManager` over `Core.manager`.  An alert lock is kept twice: the
column `is_locked` of the table and the set `m_lockedClients`; `lockClient` and `unlockClient`
write the first and, where a row was found, the second (`changeLock`).

`LockChange` lists what such a call can do, and `changeLock_spec` says that it does nothing else.
-/

namespace Logistics
open Std

def setManager (f : Manager → Manager) : M Unit :=
  setCore fun c => { c with manager := f c.manager }

def registerSession (clientId : String) (session : Nat) : M Unit := do
  setManager fun m => { m with
    activeSessions := m.activeSessions.insert clientId session
    offlineUsers := m.offlineUsers.erase clientId }
  let s ← Prog.get
  if clientId ∉ s.core.manager.connectedUsers then
    setManager fun m => { m with connectedUsers := insert clientId m.connectedUsers }
  else do
    incrementReconnection .tcp .rx
    log .info "SessionManager" ("User '" ++ clientId ++ "' has reconnected.") none

def unregisterSession (clientId : String) : M Unit :=
  setManager fun m => { m with
    activeSessions := m.activeSessions.erase clientId
    offlineUsers := m.offlineUsers.insert clientId }

/-- the common body of `lockClient` and `unlockClient` -/
def changeLock (isLocked : Bool) (done missed : String)
    (change : Finset String → Finset String) (clientId : String) : M Bool := do
  let success ← setClientLockStatus clientId isLocked
  if success then do
    log .info "SessionManager" done (some clientId)
    setManager fun m => { m with lockedClients := change m.lockedClients }
    pure success
  else do
    log .info "SessionManager" missed (some clientId)
    pure success

def lockClient (clientId : String) : M Bool :=
  changeLock true ("Client '" ++ clientId ++ "' has been locked due to alert trigger.")
    ("Couldn't lock client '" ++ clientId ++ "'. Client was not found. May not be registered.")
    (insert clientId) clientId

def unlockClient (clientId : String) : M Bool :=
  changeLock false ("Client '" ++ clientId ++ "' has been unlocked.")
    ("Couldn't unlock client '" ++ clientId ++ "'. Client was not found. May not be registered.")
    (Finset.erase · clientId) clientId

def isClientLocked (clientId : String) : M Bool := do
  let s ← Prog.get
  if clientId ∈ s.core.manager.lockedClients then pure true
  else do
    let locked ← Storage.isClientLocked clientId
    if locked then do
      setManager fun m => { m with lockedClients := insert clientId m.lockedClients }
      pure true
    else pure false

def getSession (clientId : String) : M (Option Nat) := do
  let s ← Prog.get
  pure s.core.manager.activeSessions[clientId]?

/-- the addresses in the key order of `m_activeSessions` -/
def getActiveUdpAddresses : M (List String) := do
  let s ← Prog.get
  pure (s.core.manager.activeSessions.toList.filterMap fun e => (s.core.sessions e.2).udpAddress)

def getOfflineUsers : M (ExtTreeSet String) := do
  let s ← Prog.get
  pure s.core.manager.offlineUsers

/-! ## what the calls do -/

@[simp] theorem run_setManager (f : Manager → Manager) (s : St) :
    (setManager f).run s = (.ok (), { s with core := { s.core with manager := f s.core.manager } }) :=
  rfl

/-- the registry once `session` is registered as the session of `clientId` -/
def Manager.registered (m : Manager) (clientId : String) (session : Nat) : Manager where
  activeSessions := m.activeSessions.insert clientId session
  lockedClients := m.lockedClients
  connectedUsers := insert clientId m.connectedUsers
  offlineUsers := m.offlineUsers.erase clientId

/-- `registerSession` returns, and changes the registry only -/
theorem run_registerSession (clientId : String) (session : Nat) (s : St) :
    ∃ s', (registerSession clientId session).run s = (.ok (), s') ∧
      s'.core = { s.core with manager := s.core.manager.registered clientId session } := by
  unfold registerSession
  simp only [Prog.run_bind, run_setManager, Prog.run_get, Prog.run_ite]
  split
  · exact ⟨_, rfl, rfl⟩
  · rename_i hseen
    simp only [incrementReconnection, Prog.run_modify, run_log]
    refine ⟨_, rfl, ?_⟩
    rw [St.logged_core]
    unfold Manager.registered
    rw [Finset.insert_eq_of_mem (not_not.mp hseen)]

theorem run_setClientLockStatus (hostname : String) (isLocked : Bool) (s : St) :
    (setClientLockStatus hostname isLocked).run s =
      if (s.env 0).fails then (.error (.sqlite .failure), s.next)
      else match s.core.users.update? hostname (UserRow.setLocked isLocked) with
        | none => (.error (.sqlite .constraint), s.next)
        | some users => (.ok (s.core.users.find? hostname).isSome,
            { s.next with core := { s.core with users := users } }) := by
  unfold setClientLockStatus
  rw [Prog.run_bind, run_updateUser]
  cases (s.env 0).fails with
  | true => rfl
  | false =>
    simp only [Bool.false_eq_true, if_false]
    cases s.core.users.update? hostname (UserRow.setLocked isLocked) with
    | none => rfl
    | some users => cases (s.core.users.find? hostname).isSome <;> rfl

/-- the core after a lock change: untouched, or the flag of a row and the set are written -/
inductive LockChange (isLocked : Bool) (change : Finset String → Finset String)
    (clientId : String) (c : Core) : Except Exn Bool → Core → Prop
  | failed (e : SqlError) : LockChange isLocked change clientId c (.error (.sqlite e)) c
  | missed (h : c.users.find? clientId = none) : LockChange isLocked change clientId c (.ok false) c
  | done (users : Users) (row : UserRow) (hrow : c.users.find? clientId = some row)
      (h : c.users.update? clientId (UserRow.setLocked isLocked) = some users) :
      LockChange isLocked change clientId c (.ok true) { c with
        users := users
        manager := { c.manager with lockedClients := change c.manager.lockedClients } }

/-- a lock keeps all columns of a row but its own -/
theorem LockChange.map_find? {β : Type} {g : UserRow → β} {isLocked : Bool}
    {change : Finset String → Finset String} {client : String} {c c' : Core} {r : Except Exn Bool}
    (h : LockChange isLocked change client c r c') (hg : ∀ row, g (row.setLocked isLocked) = g row)
    (user : String) : (c'.users.find? user).map g = (c.users.find? user).map g := by
  cases h with
  | failed e => rfl
  | missed hrow => rfl
  | done users row hrow hupd => exact Table.map_find?_update? hupd hg user

theorem changeLock_spec (isLocked : Bool) (done missed : String)
    (change : Finset String → Finset String) (clientId : String) (s : St) :
    LockChange isLocked change clientId s.core
      ((changeLock isLocked done missed change clientId).run s).1
      ((changeLock isLocked done missed change clientId).run s).2.core := by
  unfold changeLock
  rw [Prog.run_bind, run_setClientLockStatus]
  cases (s.env 0).fails with
  | true => exact .failed .failure
  | false =>
    simp only [Bool.false_eq_true, if_false]
    cases h : s.core.users.update? clientId (UserRow.setLocked isLocked) with
    | none => exact .failed .constraint
    | some users =>
      cases hrow : s.core.users.find? clientId with
      | none =>
        rw [Table.update?, hrow] at h
        cases h
        simp only [Option.isSome_none, Bool.false_eq_true, if_false, Prog.run_bind, run_log,
          Prog.run_pure, St.logged_core]
        exact .missed hrow
      | some row =>
        simp only [Option.isSome_some, if_true, Prog.run_bind, run_log, run_setManager,
          Prog.run_pure, St.logged_core]
        exact .done users row hrow h

end Logistics
