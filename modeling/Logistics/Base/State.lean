import Logistics.Lib.Prog
import Logistics.Lib.Table
import Logistics.Base.Json

/-!
# The state of the server and the programs over it

`St` is everything the handlers of the server read and change:

* `St.core`      the tables `users` and `inventory`, the cache, the registry, queues and sessions;
* `St.journal`   the table `logs`, the UDP datagrams sent and the counters of the `TrafficReporter`;
* `St.env`       what the outside world will answer to the calls still to be made.

A call to the outside consumes one answer (`ask`).  A `Storage` call whose answer says `fails`
throws without effect (`dbCall`), so a statement about every `env` is a statement about every
clock and every subset of failing database calls.

`Libs` collects the third-party functions the server calls (nlohmann::json, bcrypt); `Config`
what `Config::securityConfig` and `Config::serverConfig` let through.

The file half of `Logger::log` (the log file and its rotation) is not part of this state.
-/

namespace Logistics
open Std

abbrev Bytes := List UInt8

/-- the UTF-8 text of a string -/
def bytesOf (s : String) : Bytes := s.toList.flatMap String.utf8EncodeChar

/-! ## exceptions, libraries, configuration -/

/-- what SQLiteCpp throws for: the call itself failed, or a table constraint was violated -/
inductive SqlError where
  | failure
  | constraint
  deriving DecidableEq, Repr

inductive Exn where
  | json (e : JsonError)
  | sqlite (e : SqlError)
  deriving DecidableEq, Repr

structure Libs where
  /-- `json::parse(text, nullptr, false)`, `none` for a discarded value -/
  parse : Bytes → Option Json
  dump : Json → String
  floatCast : FloatCast
  /-- `bcrypt::generateHash`, with the salt it draws -/
  generateHash : String → String → String
  validatePassword : String → String → Bool
  what : Exn → String

structure Config where
  blockTimeSeconds : Int
  secretPhrase : String
  queueSize : Nat
  block_pos : 0 < blockTimeSeconds
  phrase_ne : secretPhrase ≠ ""
  queue_pos : 0 < queueSize

/-! ## tables -/

/-- SQL `length(s)`: the characters before the first NUL -/
def sqlLength (s : String) : Nat := (s.toList.takeWhile (· ≠ '\x00')).length

structure UserRow where
  passwordHash : String
  failedAttempts : Int
  lastFailedTimestamp : Int
  isLocked : Int
  deriving DecidableEq, Repr

def userCheck (hostname : String) (row : UserRow) : Prop :=
  0 < sqlLength hostname ∧ row.failedAttempts ≤ 3

instance (hostname : String) (row : UserRow) : Decidable (userCheck hostname row) :=
  inferInstanceAs (Decidable (_ ∧ _))

abbrev Users := Table String UserRow userCheck

structure StockKey where
  client : String
  category : String
  item : String
  deriving DecidableEq, Repr

def stockCheck (key : StockKey) (_ : Int32) : Prop :=
  0 < sqlLength key.client ∧ 0 < sqlLength key.category ∧ 0 < sqlLength key.item

instance (key : StockKey) (quantity : Int32) : Decidable (stockCheck key quantity) :=
  inferInstanceAs (Decidable (_ ∧ _))

abbrev Stock := Table StockKey Int32 stockCheck

structure LogRow where
  timestamp : String
  level : String
  component : String
  message : String
  clientId : Option String
  deriving DecidableEq, Repr

/-! ## the objects of the server -/

abbrev ClientInventoryMap := ExtTreeMap String (ExtTreeMap String Int32)

structure Cache where
  inventories : ExtTreeMap String ClientInventoryMap
  fullyCachedClients : Finset String

/-- the data members of `SessionManager`; a session is named by its number in `Core.sessions` -/
structure Manager where
  activeSessions : ExtTreeMap String Nat
  lockedClients : Finset String
  connectedUsers : Finset String
  offlineUsers : ExtTreeSet String

structure Event where
  message : String
  deriving DecidableEq, Repr

abbrev EventQueues := ExtTreeMap String (List Event)

/-- the data members of a `clientSession`; `wire` is what its socket has taken over so far -/
structure Session where
  clientID : String
  isAuthenticated : Bool
  clientIP : String
  udpAddress : Option String
  pendingMessages : List Bytes
  wire : Bytes

def Session.fresh (clientIP : String) : Session := ⟨"", false, clientIP, none, [], []⟩

structure Core where
  users : Users
  stock : Stock
  cache : Cache
  manager : Manager
  eventQueueMap : EventQueues
  sessions : Nat → Session

inductive Protocol where
  | tcp
  | udp
  | ipc
  deriving DecidableEq, Repr

inductive Direction where
  | rx
  | tx
  deriving DecidableEq, Repr

/-- what the server has written for others to see; `datagrams` are those its UDP socket took,
`errorStream` holds the failures that `Logger::log` reports there -/
structure Journal where
  logs : List LogRow
  datagrams : List (String × String)
  messages : Protocol × Direction → Nat
  errors : Protocol × Direction → Nat
  reconnections : Protocol × Direction → Nat
  errorStream : List Exn

/-- what becomes of a `write` on a non-blocking socket; `part n` takes `n + 1` bytes -/
inductive Written where
  | all
  | part (n : Nat)
  | again
  | error
  deriving DecidableEq, Repr

/-- `keepalive` is the UDP address that a keepalive sets while the caller sleeps -/
structure Answer where
  time : Int
  fails : Bool
  salt : String
  written : Written
  keepalive : Option String

structure St where
  core : Core
  journal : Journal
  env : Nat → Answer

/-- what lasts between two calls; each call brings its own environment -/
structure World where
  core : Core
  journal : Journal

def World.facing (w : World) (env : Nat → Answer) : St := ⟨w.core, w.journal, env⟩

def St.world (s : St) : World := ⟨s.core, s.journal⟩

def Journal.empty : Journal := ⟨[], [], fun _ => 0, fun _ => 0, fun _ => 0, []⟩

/-- the server over given tables before its first connection; `ips` are the peers to come -/
def Core.boot (users : Users) (stock : Stock) (ips : Nat → String) : Core where
  users := users
  stock := stock
  cache := ⟨∅, ∅⟩
  manager := ⟨∅, ∅, ∅, ∅⟩
  eventQueueMap := ∅
  sessions := fun sid => .fresh (ips sid)

abbrev M := Prog St Exn

/-! ## fixed inputs

A configuration, a healthy environment and libraries that know the texts of a few requests, for
the runs that witness or refute a statement. -/

def Libs.known (requests : List Json) : Libs where
  parse text := requests.find? fun r => bytesOf r.render = text
  dump := Json.render
  floatCast _ := 0
  generateHash _ password := "#" ++ password
  validatePassword password hash := hash = "#" ++ password
  what _ := ""

def Config.sample : Config := ⟨900, "open sesame", 10, by decide, by decide, by decide⟩

/-- an environment in which every call succeeds, at the given time -/
def answersAt (time : Int) : Nat → Answer := fun _ => ⟨time, false, "", .all, none⟩

def healthy : Nat → Answer := answersAt 0

def aliceRow : UserRow := ⟨"#secret", 0, 0, 0⟩

def aliceUsers : Users := Table.empty.put "alice" aliceRow (by decide)

def St.sample (users : Users) (stock : Stock) : St :=
  ⟨.boot users stock fun _ => "10.0.0.1", .empty, healthy⟩

/-! ## calls to the outside -/

def St.next (s : St) : St := { s with env := fun n => s.env (n + 1) }

@[simp] theorem St.next_core (s : St) : s.next.core = s.core := rfl

def ask : M Answer := fun s => (.ok (s.env 0), s.next)

@[simp] theorem run_ask (s : St) : ask.run s = (.ok (s.env 0), s.next) := rfl

/-- one `Storage` call: it fails without effect where the environment says so -/
def dbCall : M Unit := do
  let answer ← ask
  if answer.fails then throw (.sqlite .failure) else pure ()

theorem run_dbCall (s : St) :
    dbCall.run s = (if (s.env 0).fails then .error (.sqlite .failure) else .ok (), s.next) := by
  unfold dbCall
  rw [Prog.run_bind, run_ask]
  show (if (s.env 0).fails = true then throw (Exn.sqlite .failure) else pure () : M Unit).run s.next
    = _
  cases (s.env 0).fails <;> rfl

def setCore (f : Core → Core) : M Unit := Prog.modify fun s => { s with core := f s.core }

@[simp] theorem run_setCore (f : Core → Core) (s : St) :
    (setCore f).run s = (.ok (), { s with core := f s.core }) := rfl

def json {α : Type} (r : Except JsonError α) : M α :=
  match r with
  | .ok a => pure a
  | .error e => throw (.json e)

@[simp] theorem run_json_ok {α : Type} (a : α) (s : St) :
    (json (.ok a)).run s = (.ok a, s) := rfl

@[simp] theorem run_json_error {α : Type} (e : JsonError) (s : St) :
    (json (.error e) : M α).run s = (.error (.json e), s) := rfl

theorem json_ok_bind {α β : Type} (a : α) (f : α → M β) : (json (.ok a) >>= f) = f a := rfl

/-- `catch (const json::exception &)` -/
def catchJson {α : Type} (p : M α) (handler : JsonError → M α) : M α :=
  tryCatch p fun e =>
    match e with
    | .json e => handler e
    | .sqlite e => throw (.sqlite e)

/-- a relation between states that only looks at the core -/
def onCore (R : Core → Core → Prop) (s s' : St) : Prop := R s.core s'.core

instance (R : Core → Core → Prop) [IsPreorder Core R] : IsPreorder St (onCore R) where
  refl s := refl_of R s.core
  trans _ _ _ h h' := trans_of R h h'

/-- a program that leaves the core alone keeps every reflexive relation on cores -/
theorem keeps_of_core_eq {α : Type} {R : Core → Core → Prop} [IsPreorder Core R] {p : M α}
    (h : ∀ s, (p.run s).2.core = s.core) : p.Keeps (onCore R) := by
  intro s
  show R s.core (p.run s).2.core
  rw [h s]
  exact refl_of R s.core

theorem ask_keeps {R : Core → Core → Prop} [IsPreorder Core R] : ask.Keeps (onCore R) :=
  keeps_of_core_eq fun _ => rfl

/-- a continuation that leaves the core alone adds nothing to what was done -/
theorem bind_core {α β : Type} {Q : Core → Prop} {p : M α} {f : α → M β} {s : St}
    (hp : Q (p.run s).2.core) (hf : ∀ a s, ((f a).run s).2.core = s.core) :
    Q ((p >>= f).run s).2.core := by
  rw [Prog.run_bind]
  generalize p.run s = r at hp ⊢
  obtain ⟨r, s'⟩ := r
  cases r with
  | ok a =>
    show Q ((f a).run s').2.core
    rw [hf]
    exact hp
  | error e => exact hp

/-- a frame of a program and of its handler is a frame of both together -/
theorem catchJson_keeps {α : Type} {R : St → St → Prop} [IsPreorder St R] {p : M α}
    {handler : JsonError → M α} (hp : p.Keeps R) (hh : ∀ e, (handler e).Keeps R) :
    (catchJson p handler).Keeps R := by
  intro s
  have h := hp s
  unfold catchJson
  rw [Prog.run_tryCatch]
  generalize p.run s = r at h ⊢
  obtain ⟨r, s'⟩ := r
  cases r with
  | ok a => exact h
  | error e =>
    cases e with
    | json e => exact trans_of R h (hh e s')
    | sqlite e => exact h

theorem yields_catchJson {α : Type} {Q : α → Prop} {p : M α} {handler : JsonError → M α}
    (hp : p.Yields Q) (hh : ∀ e, (handler e).Yields Q) : (catchJson p handler).Yields Q := by
  refine Prog.yields_tryCatch hp fun e => ?_
  cases e with
  | json e => exact hh e
  | sqlite e =>
    intro s a s' hrun
    cases hrun

/-- a handler for `json::exception` that leaves the core alone adds nothing to what was done -/
theorem catchJson_core {α : Type} {Q : Core → Prop} {p : M α} {handler : JsonError → M α} {s : St}
    (hp : Q (p.run s).2.core) (hh : ∀ e s, ((handler e).run s).2.core = s.core) :
    Q ((catchJson p handler).run s).2.core := by
  unfold catchJson
  rw [Prog.run_tryCatch]
  generalize p.run s = r at hp ⊢
  obtain ⟨r, s'⟩ := r
  cases r with
  | ok a => exact hp
  | error e =>
    cases e with
    | json e =>
      show Q ((handler e).run s').2.core
      rw [hh]
      exact hp
    | sqlite e => exact hp

/-! ## the traffic reporter -/

def incrementMessage (p : Protocol) (d : Direction) : M Unit :=
  Prog.modify fun s => { s with journal := { s.journal with
    messages := Function.update s.journal.messages (p, d) (s.journal.messages (p, d) + 1) } }

def incrementError (p : Protocol) (d : Direction) : M Unit :=
  Prog.modify fun s => { s with journal := { s.journal with
    errors := Function.update s.journal.errors (p, d) (s.journal.errors (p, d) + 1) } }

def incrementReconnection (p : Protocol) (d : Direction) : M Unit :=
  Prog.modify fun s => { s with journal := { s.journal with
    reconnections :=
      Function.update s.journal.reconnections (p, d) (s.journal.reconnections (p, d) + 1) } }

theorem run_incrementError (p : Protocol) (d : Direction) (s : St) :
    (incrementError p d).run s = (.ok (), ((incrementError p d).run s).2) := rfl

theorem incrementError_core (p : Protocol) (d : Direction) (s : St) :
    ((incrementError p d).run s).2.core = s.core := rfl

end Logistics
