import Logistics.Base.State

/-!
# Storage: the database calls

One program per member function of `Storage`.  Each is one database statement under `m_dbMutex`:
it may fail as a whole (`dbCall`), a violated constraint throws, and otherwise it takes effect at
once.  `run_saveStockUpdate`, `run_storage_getStock`, ... say what each call does in every state; the
handlers above are executed with these equations and never unfold a call again.

The foreign keys of `inventory` and `logs` (`client_id` names a row of `users`) are checked by the
statements that write those tables.  A column read with `getInt()` is truncated to 32 bits
(`columnInt`).
-/

namespace Logistics
open Std

/-- `sqlite3_column_int`: the low 32 bits, signed -/
def columnInt (n : Int) : Int := Int.bmod n (2 ^ 32)

theorem columnInt_of_range {n : Int} (h0 : -2 ^ 31 ≤ n) (h1 : n < 2 ^ 31) : columnInt n = n := by
  unfold columnInt
  apply Int.bmod_eq_of_le_mul_two <;> omega

/-! ## inventory -/

/-- the table after the upsert of `saveStockUpdate`, `none` where a constraint refuses it -/
def stockAfter (c : Core) (clientId category item : String) (quantity : Int32) : Option Stock :=
  -- FOREIGN KEY (client_id) REFERENCES users(hostname)
  if (c.users.find? clientId).isNone then none
  else c.stock.upsert? ⟨clientId, category, item⟩ quantity

theorem find?_stockAfter {c : Core} {clientId category item : String} {quantity : Int32} {stock : Stock}
    (h : stockAfter c clientId category item quantity = some stock) (key : StockKey) :
    stock.find? key =
      if key = ⟨clientId, category, item⟩ then some quantity else c.stock.find? key := by
  unfold stockAfter at h
  split at h
  · cases h
  · obtain ⟨hc, rfl⟩ := Table.upsert?_cases h
    exact Table.find?_put c.stock _ key quantity hc

def saveStockUpdate (clientId category item : String) (quantity : Int32) : M Unit := do
  dbCall
  let s ← Prog.get
  match stockAfter s.core clientId category item quantity with
  | none => throw (.sqlite .constraint)
  | some stock => setCore fun c => { c with stock := stock }

theorem run_saveStockUpdate (clientId category item : String) (quantity : Int32) (s : St) :
    (saveStockUpdate clientId category item quantity).run s =
      if (s.env 0).fails then (.error (.sqlite .failure), s.next)
      else match stockAfter s.core clientId category item quantity with
        | none => (.error (.sqlite .constraint), s.next)
        | some stock => (.ok (), { s.next with core := { s.core with stock := stock } }) := by
  unfold saveStockUpdate
  rw [Prog.run_bind, run_dbCall]
  cases hf : (s.env 0).fails with
  | true => rfl
  | false =>
    simp only [Bool.false_eq_true, if_false, Prog.run_bind, Prog.run_get, St.next_core]
    cases stockAfter s.core clientId category item quantity <;> rfl

def Storage.getStock (clientId category item : String) : M (Option Int32) := do
  dbCall
  let s ← Prog.get
  pure (s.core.stock.find? ⟨clientId, category, item⟩)

theorem run_storage_getStock (clientId category item : String) (s : St) :
    (Storage.getStock clientId category item).run s =
      (if (s.env 0).fails then .error (.sqlite .failure)
        else .ok (s.core.stock.find? ⟨clientId, category, item⟩), s.next) := by
  unfold Storage.getStock
  rw [Prog.run_bind, run_dbCall]
  cases hf : (s.env 0).fails <;> rfl

/-- the assignment `map[category][item] = quantity` -/
def ClientInventoryMap.put (m : ClientInventoryMap) (category item : String) (quantity : Int32) :
    ClientInventoryMap :=
  m.insert category ((m.getD category ∅).insert item quantity)

/-- the rows `SELECT category, item, quantity FROM inventory WHERE client_id = ?` steps through -/
def Stock.rowsOf (stock : Stock) (clientId : String) : List (StockKey × Int32) :=
  stock.entries.filter fun e => e.1.client = clientId

/-- the loop `while (query.executeStep())` of `getFullInventory` -/
def fillMap (m : ClientInventoryMap) : List (StockKey × Int32) → ClientInventoryMap
  | [] => m
  | (key, quantity) :: rest => fillMap (m.put key.category key.item quantity) rest

def fullInventoryOf (stock : Stock) (clientId : String) : Option ClientInventoryMap :=
  match Stock.rowsOf stock clientId with
  | [] => none
  | rows => some (fillMap ∅ rows)

def getFullInventory (clientId : String) : M (Option ClientInventoryMap) := do
  dbCall
  let s ← Prog.get
  pure (fullInventoryOf s.core.stock clientId)

theorem run_getFullInventory (clientId : String) (s : St) :
    (getFullInventory clientId).run s =
      (if (s.env 0).fails then .error (.sqlite .failure)
        else .ok (fullInventoryOf s.core.stock clientId), s.next) := by
  unfold getFullInventory
  rw [Prog.run_bind, run_dbCall]
  cases hf : (s.env 0).fails <;> rfl

/-! ## users -/

structure UserAuthData where
  passwordHash : String
  failedAttempts : Int
  lastFailedTimestamp : Int
  isLocked : Bool
  deriving DecidableEq, Repr

def UserRow.authData (row : UserRow) : UserAuthData :=
  ⟨row.passwordHash, columnInt row.failedAttempts, columnInt row.lastFailedTimestamp,
    columnInt row.isLocked = 1⟩

def createUser (L : Libs) (hostname password : String) : M Bool := do
  let answer ← ask
  if answer.fails then throw (.sqlite .failure)
  else
    let s ← Prog.get
    -- the other columns take their DEFAULTs
    match s.core.users.insert? hostname ⟨L.generateHash answer.salt password, 0, 0, 0⟩ with
    | none => throw (.sqlite .constraint)
    | some users => do
      setCore fun c => { c with users := users }
      pure true

theorem run_createUser (L : Libs) (hostname password : String) (s : St) :
    (createUser L hostname password).run s =
      if (s.env 0).fails then (.error (.sqlite .failure), s.next)
      else match s.core.users.insert? hostname
          ⟨L.generateHash (s.env 0).salt password, 0, 0, 0⟩ with
        | none => (.error (.sqlite .constraint), s.next)
        | some users => (.ok true, { s.next with core := { s.core with users := users } }) := by
  unfold createUser
  simp only [Prog.run_bind, run_ask, Prog.run_ite]
  cases hf : (s.env 0).fails with
  | true => rfl
  | false =>
    simp only [Bool.false_eq_true, if_false, Prog.run_get, St.next_core]
    cases s.core.users.insert? hostname ⟨L.generateHash (s.env 0).salt password, 0, 0, 0⟩ <;> rfl

def userExists (hostname : String) : M Bool := do
  dbCall
  let s ← Prog.get
  pure (s.core.users.find? hostname).isSome

def getUserLoginData (hostname : String) : M (Option UserAuthData) := do
  dbCall
  let s ← Prog.get
  pure ((s.core.users.find? hostname).map UserRow.authData)

theorem run_getUserLoginData (hostname : String) (s : St) :
    (getUserLoginData hostname).run s =
      (if (s.env 0).fails then .error (.sqlite .failure)
        else .ok ((s.core.users.find? hostname).map UserRow.authData), s.next) := by
  unfold getUserLoginData
  rw [Prog.run_bind, run_dbCall]
  cases hf : (s.env 0).fails <;> rfl

theorem getUserLoginData_keeps {R : Core → Core → Prop} [IsPreorder Core R] (hostname : String) :
    (getUserLoginData hostname).Keeps (onCore R) :=
  keeps_of_core_eq fun s => by rw [run_getUserLoginData]; rfl

/-- a statement `UPDATE users SET ... WHERE hostname = ?`; the result is the number of rows -/
def updateUser (hostname : String) (f : UserRow → UserRow) : M Nat := do
  dbCall
  let s ← Prog.get
  match s.core.users.update? hostname f with
  | none => throw (.sqlite .constraint)
  | some users => do
    setCore fun c => { c with users := users }
    pure (if (s.core.users.find? hostname).isSome then 1 else 0)

theorem run_updateUser (hostname : String) (f : UserRow → UserRow) (s : St) :
    (updateUser hostname f).run s =
      if (s.env 0).fails then (.error (.sqlite .failure), s.next)
      else match s.core.users.update? hostname f with
        | none => (.error (.sqlite .constraint), s.next)
        | some users => (.ok (if (s.core.users.find? hostname).isSome then 1 else 0),
            { s.next with core := { s.core with users := users } }) := by
  unfold updateUser
  rw [Prog.run_bind, run_dbCall]
  cases hf : (s.env 0).fails with
  | true => rfl
  | false =>
    simp only [Bool.false_eq_true, if_false, Prog.run_bind, Prog.run_get, St.next_core]
    cases s.core.users.update? hostname f <;> rfl

def UserRow.resetAttempts (row : UserRow) : UserRow := { row with failedAttempts := 0 }

def UserRow.countFailure (timeStamp : Int) (row : UserRow) : UserRow :=
  { row with failedAttempts := row.failedAttempts + 1, lastFailedTimestamp := timeStamp }

def UserRow.setLocked (isLocked : Bool) (row : UserRow) : UserRow :=
  { row with isLocked := if isLocked then 1 else 0 }

def updateLoginAttempts (hostname : String) (loginSuccess : Bool) (timeStamp : Int) : M Unit := do
  if loginSuccess then
    let _ ← updateUser hostname UserRow.resetAttempts
    pure ()
  else
    let _ ← updateUser hostname (UserRow.countFailure timeStamp)
    pure ()

def setClientLockStatus (hostname : String) (isLocked : Bool) : M Bool := do
  let rowsModified ← updateUser hostname (UserRow.setLocked isLocked)
  pure (rowsModified = 1)

def Storage.isClientLocked (hostname : String) : M Bool := do
  dbCall
  let s ← Prog.get
  pure (match s.core.users.find? hostname with
    | some row => columnInt row.isLocked = 1
    | none => false)

/-! ## logs -/

def saveLogEntry (date level component message : String) (clientId : Option String) : M Unit := do
  dbCall
  let s ← Prog.get
  if clientId.any fun c => (s.core.users.find? c).isNone then throw (.sqlite .constraint)
  else Prog.modify fun s => { s with journal := { s.journal with
    logs := s.journal.logs ++ [⟨date, level, component, message, clientId⟩] } }

/-- `ORDER BY timestamp DESC`; rows with equal timestamps keep their order of insertion -/
def historyOf (logs : List LogRow) (clientId : String) : List LogRow :=
  (logs.filter fun row => row.clientId = some clientId ∧ row.component = "Inventory").insertionSort
    fun a b => b.timestamp ≤ a.timestamp

def getInventoryHistoryTransaction (clientId : String) : M (List LogRow) := do
  dbCall
  let s ← Prog.get
  pure (historyOf s.journal.logs clientId)

theorem run_getInventoryHistoryTransaction (clientId : String) (s : St) :
    (getInventoryHistoryTransaction clientId).run s =
      (if (s.env 0).fails then .error (.sqlite .failure)
        else .ok (historyOf s.journal.logs clientId), s.next) := by
  unfold getInventoryHistoryTransaction
  rw [Prog.run_bind, run_dbCall]
  cases hf : (s.env 0).fails <;> rfl

/-! ## the logger -/

inductive LogLevel where
  | debug
  | info
  | warning
  | error
  deriving DecidableEq, Repr

def levelToString : LogLevel → String
  | .debug => "DEBUG"
  | .info => "INFO"
  | .warning => "WARNING"
  | .error => "ERROR"

def twoDigits (n : Int) : String := if n < 10 then "0" ++ toString n else toString n

/-- `gmtime` and `strftime` with `"%Y-%m-%d %H:%M:%S"`, followed by `" UTC"` -/
def formatDate (now : Int) : String :=
  -- days counted from the 1st of March of the year 0, in eras of 400 years
  let z := now / 86400 + 719468
  let doe := z % 146097
  let yoe := (doe - doe / 1460 + doe / 36524 - doe / 146096) / 365
  let doy := doe - (365 * yoe + yoe / 4 - yoe / 100)
  let mp := (5 * doy + 2) / 153
  let month := if mp < 10 then mp + 3 else mp - 9
  let year := yoe + z / 146097 * 400 + if month ≤ 2 then 1 else 0
  let day := doy - (153 * mp + 2) / 5 + 1
  let secs := now % 86400
  toString year ++ "-" ++ twoDigits month ++ "-" ++ twoDigits day ++ " " ++
    twoDigits (secs / 3600) ++ ":" ++ twoDigits (secs % 3600 / 60) ++ ":" ++
    twoDigits (secs % 60) ++ " UTC"

example : formatDate 1633036800 = "2021-09-30 21:20:00 UTC" := by decide

/-- `Logger::log`: whatever becomes of the row, nothing is thrown -/
def log (level : LogLevel) (component message : String) (clientId : Option String) : M Unit := do
  let now ← ask
  tryCatch (saveLogEntry (formatDate now.time) (levelToString level) component message clientId)
    fun e => Prog.modify fun s =>
      { s with journal := { s.journal with errorStream := s.journal.errorStream ++ [e] } }

/-- the state after `log` -/
def St.logged (s : St) (level : LogLevel) (component message : String)
    (clientId : Option String) : St :=
  ((log level component message clientId).run s).2

theorem run_log (level : LogLevel) (component message : String) (clientId : Option String)
    (s : St) : (log level component message clientId).run s =
      (.ok (), s.logged level component message clientId) := by
  unfold St.logged log
  rw [Prog.run_bind, run_ask]
  show Prog.run (tryCatch _ _) s.next = (_, (Prog.run (tryCatch _ _) s.next).2)
  rw [Prog.run_tryCatch]
  generalize Prog.run (saveLogEntry _ _ _ _ _) s.next = r
  obtain ⟨r, s'⟩ := r
  cases r <;> rfl

/-- the row that a log entry leaves, if its insert goes through -/
def St.loggedRow (s : St) (level : LogLevel) (component message : String)
    (clientId : Option String) : Option LogRow :=
  if (s.env 1).fails = true ∨ (clientId.any fun c => (s.core.users.find? c).isNone) = true then none
  else some ⟨formatDate (s.env 0).time, levelToString level, component, message, clientId⟩

/-- what refuses the row of a log entry: the database, or the foreign key of its client -/
def St.loggedError (s : St) (clientId : Option String) : Option Exn :=
  if (s.env 1).fails = true then some (.sqlite .failure)
  else if (clientId.any fun c => (s.core.users.find? c).isNone) = true then
    some (.sqlite .constraint)
  else none

/-- **A log entry takes two answers, the clock reading and the outcome of its insert, and adds its
row or reports why it could not.** -/
theorem St.logged_eq (s : St) (level : LogLevel) (component message : String)
    (clientId : Option String) : s.logged level component message clientId =
      { s.next.next with journal := { s.journal with
        logs := s.journal.logs ++ (s.loggedRow level component message clientId).toList
        errorStream := s.journal.errorStream ++ (s.loggedError clientId).toList } } := by
  unfold St.logged log saveLogEntry St.loggedRow St.loggedError
  rw [Prog.run_bind, run_ask]
  show (Prog.run (tryCatch _ _) s.next).2 = _
  rw [Prog.run_tryCatch, Prog.run_bind, run_dbCall]
  have hfails : s.next.env 0 = s.env 1 := rfl
  rw [hfails]
  cases (s.env 1).fails with
  | true => simp [St.next]
  | false =>
    simp only [Bool.false_eq_true, if_false, Prog.run_bind, Prog.run_get, false_or, St.next_core]
    by_cases hunknown : (clientId.any fun c => (s.core.users.find? c).isNone) = true
    · simp only [hunknown, if_true, Option.toList_none, Option.toList_some, List.append_nil]
      rfl
    · simp [hunknown, St.next]

/-- **Logging leaves the core alone.** -/
@[simp] theorem St.logged_core (s : St) (level : LogLevel) (component message : String)
    (clientId : Option String) : (s.logged level component message clientId).core = s.core := by
  rw [St.logged_eq]
  rfl

theorem St.logged_env (s : St) (level : LogLevel) (component message : String)
    (clientId : Option String) :
    (s.logged level component message clientId).env = fun n => s.env (n + 2) := by
  rw [St.logged_eq]
  rfl

theorem St.logged_datagrams (s : St) (level : LogLevel) (component message : String)
    (clientId : Option String) :
    (s.logged level component message clientId).journal.datagrams = s.journal.datagrams := by
  rw [St.logged_eq]

theorem log_core (level : LogLevel) (component message : String) (clientId : Option String)
    (s : St) : ((log level component message clientId).run s).2.core = s.core := by
  rw [run_log]
  exact St.logged_core s level component message clientId

theorem log_keeps {R : Core → Core → Prop} [IsPreorder Core R] (level : LogLevel)
    (component message : String) (clientId : Option String) :
    (log level component message clientId).Keeps (onCore R) :=
  keeps_of_core_eq fun s => log_core _ _ _ _ s

end Logistics
