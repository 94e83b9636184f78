import Logistics.Base.State
import Logistics.Startup.Arguments

/-!
# The configuration file

`Config` reads a YAML document into its members, one check after the other; the first that fails
throws.  yaml-cpp is not part of the sources: `Yaml` is what is used of it, with the one thing that is
assumed.

A member is read by a `Field`: the place of its scalar, the conversion, the test, and the two texts
of its errors.

* `Field.read`           one member, and `readConfig` the constructor;
* `PortsOf`              where the two ports come from: the arguments, `SERVER_PORT`, the file;
* `Describes`            the settings that a document stands for;
* `readConfig_ok_iff`    the constructor returns exactly these;
* `startup_settings`     **the constructor returns what the document describes, or says why not**.
-/

namespace Logistics

namespace Startup
open JsonText Client

/-! ## documents -/

inductive ConfigError where
  | badFile
  | badSubscript
  | badConversion
  | stoi
  | message (text : String)
  deriving DecidableEq

/-- yaml-cpp.  Subscripts are functions: one does not change what a later one finds. -/
structure Yaml where
  Node : Type
  /-- `YAML::LoadFile`, which may throw -/
  loadFile : Bytes → Option Node
  /-- `node[key]`, on a node that may be undefined; `none` where it throws `BadSubscript` -/
  get : Option Node → String → Option (Option Node)
  /-- the text of a node that `IsScalar` -/
  scalar : Node → Option String
  /-- `as<int>` of the text of a scalar, which may throw `BadConversion` -/
  asInt : String → Option Int
  get_undefined : ∀ key, get none key = some none

/-- a call that throws where it has no result -/
def orThrow {α : Type} (e : ConfigError) : Option α → Except ConfigError α
  | none => .error e
  | some a => .ok a

namespace Yaml
variable (Y : Yaml)

def subscript (node : Option Y.Node) (key : String) : Except ConfigError (Option Y.Node) :=
  orThrow .badSubscript (Y.get node key)

/-- the node at `root[heading][key]` is a scalar with this text -/
def Holds (root : Y.Node) (heading key text : String) : Prop :=
  ∃ parent child, Y.get (some root) heading = some parent ∧ Y.get parent key = some (some child) ∧
    Y.scalar child = some text

end Yaml

/-! ## members -/

def MAX_PORT : Int := 65535

/-- a member of `Config`: its scalar, the conversion, the test, and the texts of the errors -/
structure Field (α : Type) where
  heading : String
  /-- whether the condition looks at `root[heading]` alone first -/
  headingTested : Bool
  key : String
  missing : String
  invalid : String
  as : String → Option α
  test : α → Bool

namespace Field
variable {α : Type} (Y : Yaml)

/-- `!node || !node.IsScalar()` throws -/
def scalar (f : Field α) (root : Y.Node) : Except ConfigError String := do
  let heading ← Y.subscript (some root) f.heading
  if f.headingTested && heading.isNone then .error (.message f.missing)
  else
    let node ← Y.subscript heading f.key
    match node.bind Y.scalar with
    | some text => .ok text
    | none => .error (.message f.missing)

def read (f : Field α) (root : Y.Node) : Except ConfigError α := do
  let text ← f.scalar Y root
  match f.as text with
  | none => .error .badConversion
  | some a => if f.test a then .ok a else .error (.message f.invalid)

/-- the document has this value for the member -/
def Has (f : Field α) (root : Y.Node) (a : α) : Prop :=
  ∃ text, Y.Holds root f.heading f.key text ∧ f.as text = some a ∧ f.test a = true

end Field

section Members
variable (asInt : String → Option Int)

def port : Field Int where
  heading := "server"
  headingTested := true
  key := "port"
  missing := "Port in config file is not set or is not a valid number"
  invalid := "Port in config file out of valid range"
  as := asInt
  test n := 0 < n ∧ n ≤ MAX_PORT

def positive (heading : String) (headingTested : Bool) (key missing invalid : String) : Field Int where
  heading := heading
  headingTested := headingTested
  key := key
  missing := missing
  invalid := invalid
  as := asInt
  test n := 0 < n

def maxClients : Field Int := positive asInt "server" false "max_clients"
  "Max clients in config file is not set or is not a valid number"
  "Max clients in config file must be a positive greater than zero integer"

def maxUnixConnections : Field Int := positive asInt "server" false "max_unix_connections"
  "Max unix connections in config file is not set or is not a valid number"
  "Max unix connections in config file must be a positive greater than zero integer"

def queueSize : Field Int := positive asInt "server" false "queue_size"
  "Queue size in config file is not set or is not a valid number"
  "Queue size in config file must be a positive greater than zero integer"

def blockTimeSeconds : Field Int := positive asInt "security" false "block_time_seconds"
  "Block time seconds is not set in config file"
  "Block time seconds must be a positive greater than zero integer"

def maxLogSize : Field Int := positive asInt "logger" true "max_log_size_mb"
  "Max log size in config file is not set or is not a valid number"
  "Max log size in config file must be a positive greater than zero integer"

end Members

def text (heading : String) (headingTested : Bool) (key missing invalid : String) : Field String where
  heading := heading
  headingTested := headingTested
  key := key
  missing := missing
  invalid := invalid
  as := some
  test s := s ≠ ""

def metricHostPort : Field String := text "server" false "metric_host_port"
  "Metric host-port in config file is not set or is not a valid string"
  "Metric host-port in config file is empty"

def unixSocketPath : Field String := text "server" false "unix_socket_path"
  "Unix socket path in config file is not set or is not a valid string"
  "Unix socket path in config file is empty"

def dbPath : Field String := text "database" true "path"
  "Database path is not set in config file" "Database path is not set in config file"

def secretPhrase : Field String := text "security" true "unlock_secret_phrase"
  "Secret phrase is not set in config file" "Secret phrase is not set in config file"

def logPath : Field String := text "logger" false "log_path"
  "Log path in config file is not set or is not a valid string"
  "Log path in config file is not set or is empty"

/-! ## the constructor -/

structure Settings where
  tcpPort : Int
  udpPort : Int
  maxClients : Int
  maxUnixConnections : Int
  metricHostPort : String
  queueSize : Int
  unixSocketPath : String
  dbPath : String
  secretPhrase : String
  blockTimeSeconds : Int
  maxLogSize : Int
  logPath : String

/-- `std::stoi` where its exception is not caught -/
def stoiOrThrow (s : Bytes) : Except ConfigError Int := orThrow .stoi (stoi s)

/-- the port of the environment; the handler also catches the exception thrown in the `try` -/
def environmentPort (serverPort : Bytes) : Except ConfigError Int :=
  tryCatch
    (do
      let n ← stoiOrThrow serverPort
      if 0 < n ∧ n ≤ MAX_PORT then pure n
      else throw (.message "Invalid port number in environment variable. Out of range."))
    fun _ => throw (.message "Environment variable SERVER_PORT is not a valid number")

/-- `args` are the arguments behind the program -/
def validatePort (Y : Yaml) (serverPort : Option Bytes) (args : List Bytes) (root : Y.Node) :
    Except ConfigError (Int × Int) := do
  let filePort ← (port Y.asInt).read Y root
  match args with
  | _ :: tcp :: rest => do
    let tcpPort ← stoiOrThrow tcp
    match rest with
    | [udp] => do
      let udpPort ← stoiOrThrow udp
      pure (tcpPort, udpPort)
    | _ => pure (tcpPort, tcpPort)
  | _ =>
    match serverPort with
    | none => pure (filePort, filePort)
    | some serverPort => do
      let n ← environmentPort serverPort
      pure (n, n)

/-- `serverConfig`, `databaseConfig`, `securityConfig` and `logConfig`, in this order -/
def readSettings (Y : Yaml) (serverPort : Option Bytes) (args : List Bytes) (root : Y.Node) :
    Except ConfigError Settings := do
  let (tcpPort, udpPort) ← validatePort Y serverPort args root
  let maxClients ← (maxClients Y.asInt).read Y root
  let maxUnixConnections ← (maxUnixConnections Y.asInt).read Y root
  let metricHostPort ← metricHostPort.read Y root
  let queueSize ← (queueSize Y.asInt).read Y root
  let unixSocketPath ← unixSocketPath.read Y root
  let dbPath ← dbPath.read Y root
  let secretPhrase ← secretPhrase.read Y root
  let blockTimeSeconds ← (blockTimeSeconds Y.asInt).read Y root
  let maxLogSize ← (maxLogSize Y.asInt).read Y root
  let logPath ← logPath.read Y root
  pure ⟨tcpPort, udpPort, maxClients, maxUnixConnections, metricHostPort, queueSize,
    unixSocketPath, dbPath, secretPhrase, blockTimeSeconds, maxLogSize, logPath⟩

def configPath (args : List Bytes) : Bytes := args.head?.getD CONFIG_FILE_PATH

/-- `Config::Config` -/
def readConfig (Y : Yaml) (serverPort : Option Bytes) (args : List Bytes) :
    Except ConfigError Settings :=
  match Y.loadFile (configPath args) with
  | none => .error .badFile
  | some root => readSettings Y serverPort args root

/-! ## how a sequence of checks ends -/

section Except
variable {ε α β : Type} {x : Except ε α} {f : α → Except ε β}

theorem bind_eq_ok {b : β} : (x >>= f) = .ok b ↔ ∃ a, x = .ok a ∧ f a = .ok b := by
  cases x with
  | error e =>
    constructor
    · intro h
      cases h
    · rintro ⟨a, h, -⟩
      cases h
  | ok a =>
    constructor
    · exact fun h => ⟨a, rfl, h⟩
    · rintro ⟨a', ha, h⟩
      cases ha
      exact h

/-- every error of a sequence comes from one of its parts -/
theorem forall_error_bind {P : ε → Prop} (hx : ∀ e, x = .error e → P e)
    (hf : ∀ a, x = .ok a → ∀ e, f a = .error e → P e) : ∀ e, (x >>= f) = .error e → P e := by
  intro e h
  cases hxe : x with
  | error e' =>
    rw [hxe] at h
    cases h
    exact hx e hxe
  | ok a =>
    rw [hxe] at h
    exact hf a hxe e h

end Except

section Throw
variable {α : Type} {e e' : ConfigError} {x : Option α}

theorem orThrow_eq_ok {a : α} : orThrow e x = .ok a ↔ x = some a := by
  cases x with
  | none => exact ⟨nofun, nofun⟩
  | some a' => exact ⟨fun h => congrArg some (Except.ok.inj h), fun h => congrArg _ (Option.some.inj h)⟩

theorem orThrow_error (h : orThrow e x = .error e') : e' = e := by
  cases x with
  | none =>
    cases h
    rfl
  | some a => cases h

end Throw

/-! ## what a member reads -/

namespace Field
variable {α : Type} {Y : Yaml} (f : Field α) (root : Y.Node)

theorem subscript_eq_ok_iff {node child : Option Y.Node} {key : String} :
    Y.subscript node key = .ok child ↔ Y.get node key = some child :=
  orThrow_eq_ok

theorem scalar_eq_ok_iff (text : String) :
    f.scalar Y root = .ok text ↔ Y.Holds root f.heading f.key text := by
  unfold scalar Yaml.Holds
  simp only [bind_eq_ok, subscript_eq_ok_iff]
  constructor
  · rintro ⟨parent, hparent, h⟩
    split_ifs at h
    obtain ⟨node, hnode, hmatch⟩ := bind_eq_ok.mp h
    cases hscalar : node.bind Y.scalar with
    | none =>
      rw [hscalar] at hmatch
      cases hmatch
    | some text' =>
      rw [hscalar] at hmatch
      cases hmatch
      obtain ⟨child, rfl, htext⟩ := Option.bind_eq_some_iff.mp hscalar
      exact ⟨parent, child, hparent, subscript_eq_ok_iff.mp hnode, htext⟩
  · rintro ⟨parent, child, hparent, hchild, htext⟩
    refine ⟨parent, hparent, ?_⟩
    cases parent with
    | none =>
      rw [Y.get_undefined] at hchild
      cases hchild
    | some parent =>
      rw [if_neg (by simp)]
      refine bind_eq_ok.mpr ⟨some child, subscript_eq_ok_iff.mpr hchild, ?_⟩
      rw [Option.bind_some, htext]

/-- **A member is read exactly if the document has a value for it.** -/
theorem read_eq_ok_iff (a : α) : f.read Y root = .ok a ↔ f.Has Y root a := by
  unfold read Has
  simp only [bind_eq_ok, scalar_eq_ok_iff]
  refine exists_congr fun text => and_congr_right fun _ => ?_
  cases f.as text with
  | none =>
    constructor
    · intro h
      cases h
    · rintro ⟨h, -⟩
      cases h
  | some a' =>
    dsimp only
    constructor
    · intro h
      split_ifs at h with htest
      cases h
      exact ⟨rfl, htest⟩
    · rintro ⟨h, htest⟩
      cases h
      rw [if_pos htest]

/-- the errors of yaml-cpp, and the two of the member -/
def Refusal (e : ConfigError) : Prop :=
  e = .badSubscript ∨ e = .badConversion ∨ e = .message f.missing ∨ e = .message f.invalid

theorem scalar_error : ∀ e, f.scalar Y root = .error e → f.Refusal e := by
  refine forall_error_bind (fun e h => .inl (orThrow_error h)) fun heading _ e h => ?_
  split_ifs at h
  · cases h
    exact .inr (.inr (.inl rfl))
  · refine forall_error_bind (fun e h => .inl (orThrow_error h)) (fun node _ e h => ?_) e h
    cases hscalar : node.bind Y.scalar with
    | some text =>
      rw [hscalar] at h
      cases h
    | none =>
      rw [hscalar] at h
      cases h
      exact .inr (.inr (.inl rfl))

/-- an error of a member is one of yaml-cpp's or names the member -/
theorem read_error : ∀ e, f.read Y root = .error e → f.Refusal e := by
  refine forall_error_bind (f.scalar_error root) fun text _ e h => ?_
  cases has : f.as text with
  | none =>
    rw [has] at h
    cases h
    exact .inr (.inl rfl)
  | some a =>
    rw [has] at h
    dsimp only at h
    split_ifs at h
    cases h
    exact .inr (.inr (.inr rfl))

end Field

/-! ## where the ports come from -/

/-- the ports, from the one of the file, `SERVER_PORT` and the arguments -/
inductive PortsOf (filePort : Int) : Option Bytes → List Bytes → Int → Int → Prop
  | file (args : List Bytes) (short : args.length < 2) :
      PortsOf filePort none args filePort filePort
  | environment (serverPort : Bytes) (args : List Bytes) (short : args.length < 2) (n : Int)
      (number : stoi serverPort = some n) (range : IsPort n) :
      PortsOf filePort (some serverPort) args n n
  | one (serverPort : Option Bytes) (path tcp : Bytes) (n : Int) (number : stoi tcp = some n) :
      PortsOf filePort serverPort [path, tcp] n n
  | two (serverPort : Option Bytes) (path tcp udp : Bytes) (n m : Int)
      (number : stoi tcp = some n) (number' : stoi udp = some m) :
      PortsOf filePort serverPort [path, tcp, udp] n m

theorem stoiOrThrow_eq_ok {s : Bytes} {n : Int} : stoiOrThrow s = .ok n ↔ stoi s = some n :=
  orThrow_eq_ok

theorem environmentPort_cases (serverPort : Bytes) :
    (∃ n, stoi serverPort = some n ∧ IsPort n ∧ environmentPort serverPort = .ok n) ∨
      (¬ ∃ n, stoi serverPort = some n ∧ IsPort n) ∧ environmentPort serverPort =
        .error (.message "Environment variable SERVER_PORT is not a valid number") := by
  unfold environmentPort stoiOrThrow orThrow
  cases stoi serverPort with
  | none =>
    refine .inr ⟨?_, rfl⟩
    rintro ⟨n, h, -⟩
    cases h
  | some n =>
    by_cases hport : IsPort n
    · refine .inl ⟨n, rfl, hport, ?_⟩
      have hrange : 0 < n ∧ n ≤ MAX_PORT := hport
      show tryCatch (if 0 < n ∧ n ≤ MAX_PORT then _ else _) _ = _
      rw [if_pos hrange]
      rfl
    · refine .inr ⟨?_, ?_⟩
      · rintro ⟨n', h, hport'⟩
        cases h
        exact hport hport'
      · have hrange : ¬ (0 < n ∧ n ≤ MAX_PORT) := hport
        show tryCatch (if 0 < n ∧ n ≤ MAX_PORT then _ else _) _ = _
        rw [if_neg hrange]
        rfl

theorem environmentPort_eq_ok {serverPort : Bytes} {n : Int} :
    environmentPort serverPort = .ok n ↔ stoi serverPort = some n ∧ IsPort n := by
  rcases environmentPort_cases serverPort with ⟨m, hnumber, hport, hok⟩ | ⟨hnone, herror⟩
  · rw [hok, hnumber]
    constructor
    · intro h
      cases h
      exact ⟨rfl, hport⟩
    · rintro ⟨h, -⟩
      cases h
      rfl
  · rw [herror]
    constructor
    · intro h
      cases h
    · exact fun h => absurd ⟨n, h⟩ hnone

/-- at most two ports are given -/
theorem validatePort_eq_ok_iff (Y : Yaml) (serverPort : Option Bytes)
    {args : List Bytes} (hargs : args.length ≤ 3) (root : Y.Node) (tcpPort udpPort : Int) :
    validatePort Y serverPort args root = .ok (tcpPort, udpPort) ↔
      ∃ filePort, (port Y.asInt).Has Y root filePort ∧
        PortsOf filePort serverPort args tcpPort udpPort := by
  unfold validatePort
  rw [bind_eq_ok]
  simp only [Field.read_eq_ok_iff]
  refine exists_congr fun filePort => and_congr_right fun _ => ?_
  have hshort : ∀ args : List Bytes, args.length < 2 →
      ((match serverPort with
        | none => pure (filePort, filePort)
        | some serverPort => do
          let n ← environmentPort serverPort
          pure (n, n) : Except ConfigError (Int × Int)) = .ok (tcpPort, udpPort) ↔
        PortsOf filePort serverPort args tcpPort udpPort) := by
    intro args hlength
    cases serverPort with
    | none =>
      constructor
      · intro h
        cases h
        exact .file args hlength
      · intro h
        cases h with
        | file => rfl
        | one path tcp n number => simp at hlength
        | two path tcp udp n m number number' => simp at hlength
    | some serverPort =>
      simp only [bind_eq_ok, environmentPort_eq_ok]
      constructor
      · rintro ⟨n, ⟨number, range⟩, h⟩
        cases h
        exact .environment serverPort args hlength _ number range
      · intro h
        cases h with
        | environment _ _ _ _ number range => exact ⟨_, ⟨number, range⟩, rfl⟩
        | one path tcp n number => simp at hlength
        | two path tcp udp n m number number' => simp at hlength
  match args with
  | [] => exact hshort [] (by decide)
  | [path] => exact hshort [path] (Nat.lt_succ_self 1)
  | [path, tcp] =>
    simp only [bind_eq_ok, stoiOrThrow_eq_ok]
    constructor
    · rintro ⟨n, number, h⟩
      cases h
      exact .one serverPort path tcp _ number
    · intro h
      cases h with
      | one _ _ _ _ number => exact ⟨_, number, rfl⟩
      | file _ short => exact absurd short (by simp)
      | environment _ _ short => exact absurd short (by simp)
  | [path, tcp, udp] =>
    simp only [bind_eq_ok, stoiOrThrow_eq_ok]
    constructor
    · rintro ⟨n, number, m, number', h⟩
      cases h
      exact .two serverPort path tcp udp _ _ number number'
    · intro h
      cases h with
      | two _ _ _ _ _ _ number number' => exact ⟨_, number, _, number', rfl⟩
      | file _ short => exact absurd short (by simp)
      | environment _ _ short => exact absurd short (by simp)
  | path :: tcp :: udp :: extra :: rest =>
    simp only [List.length_cons] at hargs
    omega

/-! ## the settings of a document -/

/-- **The settings that a document stands for**, with the ports of the command line and the
environment. -/
structure Describes (Y : Yaml) (serverPort : Option Bytes) (args : List Bytes)
    (root : Y.Node) (s : Settings) : Prop where
  ports : ∃ filePort, (port Y.asInt).Has Y root filePort ∧
    PortsOf filePort serverPort args s.tcpPort s.udpPort
  maxClients : (maxClients Y.asInt).Has Y root s.maxClients
  maxUnixConnections : (maxUnixConnections Y.asInt).Has Y root s.maxUnixConnections
  metricHostPort : metricHostPort.Has Y root s.metricHostPort
  queueSize : (queueSize Y.asInt).Has Y root s.queueSize
  unixSocketPath : unixSocketPath.Has Y root s.unixSocketPath
  dbPath : dbPath.Has Y root s.dbPath
  secretPhrase : secretPhrase.Has Y root s.secretPhrase
  blockTimeSeconds : (blockTimeSeconds Y.asInt).Has Y root s.blockTimeSeconds
  maxLogSize : (maxLogSize Y.asInt).Has Y root s.maxLogSize
  logPath : logPath.Has Y root s.logPath

section Constructor
variable (Y : Yaml) (serverPort : Option Bytes) {args : List Bytes}

theorem readSettings_eq_ok_iff (hargs : args.length ≤ 3) (root : Y.Node) (s : Settings) :
    readSettings Y serverPort args root = .ok s ↔ Describes Y serverPort args root s := by
  unfold readSettings
  simp only [bind_eq_ok, Field.read_eq_ok_iff, Prod.exists, validatePort_eq_ok_iff Y serverPort
    hargs root]
  constructor
  · rintro ⟨tcpPort, udpPort, hports, maxClients, h₁, maxUnix, h₂, metric, h₃, queue, h₄, unix, h₅,
      db, h₆, phrase, h₇, block, h₈, size, h₉, path, h₁₀, hs⟩
    cases hs
    exact ⟨hports, h₁, h₂, h₃, h₄, h₅, h₆, h₇, h₈, h₉, h₁₀⟩
  · intro h
    exact ⟨s.tcpPort, s.udpPort, h.ports, s.maxClients, h.maxClients, s.maxUnixConnections,
      h.maxUnixConnections, s.metricHostPort, h.metricHostPort, s.queueSize, h.queueSize,
      s.unixSocketPath, h.unixSocketPath, s.dbPath, h.dbPath, s.secretPhrase, h.secretPhrase,
      s.blockTimeSeconds, h.blockTimeSeconds, s.maxLogSize, h.maxLogSize, s.logPath, h.logPath, rfl⟩

theorem readConfig_ok_iff (hargs : args.length ≤ 3) (s : Settings) :
    readConfig Y serverPort args = .ok s ↔
      ∃ root, Y.loadFile (configPath args) = some root ∧ Describes Y serverPort args root s := by
  unfold readConfig
  cases Y.loadFile (configPath args) with
  | none =>
    constructor
    · intro h
      cases h
    · rintro ⟨root, h, -⟩
      cases h
  | some root =>
    rw [readSettings_eq_ok_iff Y serverPort hargs root s]
    constructor
    · exact fun h => ⟨root, rfl, h⟩
    · rintro ⟨root', hroot, h⟩
      cases hroot
      exact h

end Constructor

/-! ## the texts of the errors -/

def numbers (asInt : String → Option Int) : List (Field Int) :=
  [port asInt, maxClients asInt, maxUnixConnections asInt, queueSize asInt, blockTimeSeconds asInt,
    maxLogSize asInt]

def texts : List (Field String) := [metricHostPort, unixSocketPath, dbPath, secretPhrase, logPath]

/-- the errors that leave the constructor: those of yaml-cpp, those that name a member, and one about
`SERVER_PORT`; neither `std::stoi`'s own nor the text about the range of `SERVER_PORT` is among them -/
inductive Known (asInt : String → Option Int) : ConfigError → Prop
  | badFile : Known asInt .badFile
  | number {f : Field Int} (member : f ∈ numbers asInt) {e : ConfigError} (h : f.Refusal e) :
      Known asInt e
  | text {f : Field String} (member : f ∈ texts) {e : ConfigError} (h : f.Refusal e) : Known asInt e
  | environment :
      Known asInt (.message "Environment variable SERVER_PORT is not a valid number")

/-- every port among the arguments can be read -/
def Readable (args : List Bytes) : Prop := ∀ s ∈ args.tail, ∃ n, stoi s = some n ∧ IsPort n

section Errors
variable (Y : Yaml) (serverPort : Option Bytes) {args : List Bytes}

theorem not_stoiOrThrow_error {s : Bytes} (h : ∃ n, stoi s = some n ∧ IsPort n) (e : ConfigError) :
    stoiOrThrow s ≠ .error e := by
  obtain ⟨n, hn, -⟩ := h
  rw [stoiOrThrow_eq_ok.mpr hn]
  intro he
  cases he

theorem validatePort_error (hargs : Readable args) (root : Y.Node) :
    ∀ e, validatePort Y serverPort args root = .error e → Known Y.asInt e := by
  refine forall_error_bind (fun e h => .number List.mem_cons_self (Field.read_error _ root e h)) ?_
  intro filePort _
  have hshort : ∀ e, (match serverPort with
      | none => pure (filePort, filePort)
      | some serverPort => do
        let n ← environmentPort serverPort
        pure (n, n) : Except ConfigError (Int × Int)) = .error e → Known Y.asInt e := by
    cases serverPort with
    | none =>
      intro e h
      cases h
    | some serverPort =>
      refine forall_error_bind (fun e h => ?_) fun n _ e h => by cases h
      rcases environmentPort_cases serverPort with ⟨n, -, -, hok⟩ | ⟨-, herror⟩
      · rw [hok] at h
        cases h
      · rw [herror] at h
        cases h
        exact .environment
  match args with
  | [] => exact hshort
  | [_] => exact hshort
  | path :: tcp :: rest =>
    refine forall_error_bind
      (fun e h => absurd h (not_stoiOrThrow_error (hargs tcp List.mem_cons_self) e)) ?_
    intro tcpPort _
    match rest with
    | [] =>
      intro e h
      cases h
    | [udp] =>
      have hudp := hargs udp (List.mem_cons_of_mem _ List.mem_cons_self)
      refine forall_error_bind (fun e h => absurd h (not_stoiOrThrow_error hudp e)) ?_
      intro udpPort _ e h
      cases h
    | _ :: _ :: _ =>
      intro e h
      cases h

/-- **Every error names what is wrong.** -/
theorem readConfig_error (hargs : Readable args) :
    ∀ e, readConfig Y serverPort args = .error e → Known Y.asInt e := by
  unfold readConfig
  cases Y.loadFile (configPath args) with
  | none =>
    intro e h
    cases h
    exact .badFile
  | some root =>
    have hnumber : ∀ f ∈ numbers Y.asInt, ∀ e, f.read Y root = .error e → Known Y.asInt e :=
      fun f hf e h => .number hf (f.read_error root e h)
    have htext : ∀ f ∈ texts, ∀ e, f.read Y root = .error e → Known Y.asInt e :=
      fun f hf e h => .text hf (f.read_error root e h)
    refine forall_error_bind (validatePort_error Y serverPort hargs root) fun _ _ => ?_
    refine forall_error_bind (hnumber _ (by simp [numbers])) fun _ _ => ?_
    refine forall_error_bind (hnumber _ (by simp [numbers])) fun _ _ => ?_
    refine forall_error_bind (htext _ (by simp [texts])) fun _ _ => ?_
    refine forall_error_bind (hnumber _ (by simp [numbers])) fun _ _ => ?_
    refine forall_error_bind (htext _ (by simp [texts])) fun _ _ => ?_
    refine forall_error_bind (htext _ (by simp [texts])) fun _ _ => ?_
    refine forall_error_bind (htext _ (by simp [texts])) fun _ _ => ?_
    refine forall_error_bind (hnumber _ (by simp [numbers])) fun _ _ => ?_
    refine forall_error_bind (hnumber _ (by simp [numbers])) fun _ _ => ?_
    refine forall_error_bind (htext _ (by simp [texts])) fun _ _ => ?_
    intro e h
    cases h

end Errors

/-! ## a started server -/

theorem readable_of_checkPort {range invalid : String} {s : Bytes}
    (h : checkPort range invalid s = .ok ()) : ∃ n, stoi s = some n ∧ IsPort n :=
  (stoi_port_iff s).mpr ((checkPort_ok_iff range invalid s).mp h)

/-- what `validateArguments` accepts needs no further test -/
theorem validateArguments_readable {exist : Bytes → Bool} {program : Bytes} {args : List Bytes}
    (h : validateArguments exist program args = .ok ()) : args.length ≤ 3 ∧ Readable args := by
  cases args with
  | nil => exact ⟨Nat.zero_le 3, fun s hs => by cases hs⟩
  | cons path ports =>
    simp only [validateArguments] at h
    split_ifs at h with hlength
    refine ⟨by simp only [List.length_cons]; omega, ?_⟩
    cases ports with
    | nil => exact fun s hs => by cases hs
    | cons tcp rest =>
      cases rest with
      | nil =>
        intro s hs
        obtain rfl := List.mem_singleton.mp hs
        exact readable_of_checkPort h
      | cons udp rest =>
        obtain ⟨_, htcp, hudp⟩ := bind_eq_ok.mp h
        obtain rfl : rest = [] := by
          cases rest with
          | nil => rfl
          | cons s rest => simp at hlength
        intro s hs
        rcases List.mem_cons.mp hs with rfl | hs
        · exact readable_of_checkPort htcp
        · obtain rfl := List.mem_singleton.mp hs
          exact readable_of_checkPort hudp

structure Settings.Sound (s : Settings) : Prop where
  tcpPort : IsPort s.tcpPort
  udpPort : IsPort s.udpPort
  numbers : 0 < s.maxClients ∧ 0 < s.maxUnixConnections ∧ 0 < s.queueSize ∧
    0 < s.blockTimeSeconds ∧ 0 < s.maxLogSize
  texts : s.metricHostPort ≠ "" ∧ s.unixSocketPath ≠ "" ∧ s.dbPath ≠ "" ∧ s.secretPhrase ≠ "" ∧
    s.logPath ≠ ""
  /-- the part of the settings that the sessions use -/
  config : ∃ cfg : Config, cfg.blockTimeSeconds = s.blockTimeSeconds ∧
    cfg.secretPhrase = s.secretPhrase ∧ (cfg.queueSize : Int) = s.queueSize

theorem Field.Has.tested {α : Type} {f : Field α} {root : Y.Node} {a : α} (h : f.Has Y root a) :
    f.test a = true := by
  obtain ⟨-, -, -, htest⟩ := h
  exact htest

theorem PortsOf.isPort {filePort : Int} {serverPort : Option Bytes} {args : List Bytes}
    {tcpPort udpPort : Int} (h : PortsOf filePort serverPort args tcpPort udpPort)
    (hfile : IsPort filePort) (hargs : Readable args) : IsPort tcpPort ∧ IsPort udpPort := by
  have hgiven : ∀ s ∈ args.tail, ∀ n, stoi s = some n → IsPort n := by
    intro s hs n hn
    obtain ⟨m, hm, hport⟩ := hargs s hs
    rw [hn] at hm
    cases hm
    exact hport
  cases h with
  | file args short => exact ⟨hfile, hfile⟩
  | environment serverPort args short n number range => exact ⟨range, range⟩
  | one serverPort path tcp n number =>
    have hport := hgiven tcp List.mem_cons_self _ number
    exact ⟨hport, hport⟩
  | two serverPort path tcp udp n m number number' =>
    exact ⟨hgiven tcp List.mem_cons_self _ number,
      hgiven udp (List.mem_cons_of_mem _ List.mem_cons_self) _ number'⟩

theorem Describes.sound {Y : Yaml} {serverPort : Option Bytes}
    {args : List Bytes} {root : Y.Node} {s : Settings}
    (h : Describes Y serverPort args root s) (hargs : Readable args) : s.Sound := by
  obtain ⟨filePort, hfile, hports⟩ := h.ports
  have hrange : IsPort filePort := of_decide_eq_true hfile.tested
  obtain ⟨htcp, hudp⟩ := hports.isPort hrange hargs
  have hqueue : 0 < s.queueSize := of_decide_eq_true h.queueSize.tested
  have hblock : 0 < s.blockTimeSeconds := of_decide_eq_true h.blockTimeSeconds.tested
  have hphrase : s.secretPhrase ≠ "" := of_decide_eq_true h.secretPhrase.tested
  refine ⟨htcp, hudp, ⟨of_decide_eq_true h.maxClients.tested,
    of_decide_eq_true h.maxUnixConnections.tested, hqueue, hblock,
    of_decide_eq_true h.maxLogSize.tested⟩, ⟨of_decide_eq_true h.metricHostPort.tested,
    of_decide_eq_true h.unixSocketPath.tested, of_decide_eq_true h.dbPath.tested, hphrase,
    of_decide_eq_true h.logPath.tested⟩, ?_⟩
  refine ⟨⟨s.blockTimeSeconds, s.secretPhrase, s.queueSize.toNat, hblock, hphrase, by omega⟩, rfl,
    rfl, ?_⟩
  show ((s.queueSize.toNat : Nat) : Int) = s.queueSize
  omega

/-- **A server that starts has sound settings, and one that does not says why.** -/
theorem startup_settings (exist : Bytes → Bool) (program : Bytes) (Y : Yaml)
    (serverPort : Option Bytes) (args : List Bytes)
    (hvalid : validateArguments exist program args = .ok ()) :
    (∀ s, readConfig Y serverPort args = .ok s ↔
      ∃ root, Y.loadFile (configPath args) = some root ∧ Describes Y serverPort args root s) ∧
    (∀ s, readConfig Y serverPort args = .ok s → s.Sound) ∧
    ∀ e, readConfig Y serverPort args = .error e → Known Y.asInt e := by
  obtain ⟨hlength, hargs⟩ := validateArguments_readable hvalid
  refine ⟨readConfig_ok_iff Y serverPort hlength, ?_, readConfig_error Y serverPort hargs⟩
  intro s hs
  obtain ⟨root, -, hdescribes⟩ := (readConfig_ok_iff Y serverPort hlength s).mp hs
  exact hdescribes.sound hargs

/-- the scalars of a document by their paths -/
def sampleDocument : List (String × String) :=
  [("/database/path", "my_db.sqlite3"), ("/security/unlock_secret_phrase", "we do not assembly"),
    ("/security/block_time_seconds", "900"), ("/server/port", "8888"), ("/server/max_clients", "1000"),
    ("/server/max_unix_connections", "1000"), ("/server/metric_host_port", "0.0.0.0:8086"),
    ("/server/queue_size", "50"), ("/server/unix_socket_path", "server_ipc.sock"),
    ("/logger/max_log_size_mb", "10"), ("/logger/log_path", "server.log")]

def Yaml.sample : Yaml where
  Node := String
  loadFile _ := some ""
  get node key := some (node.map (· ++ "/" ++ key))
  scalar path := sampleDocument.lookup path
  asInt text := [("8888", 8888), ("1000", 1000), ("900", 900), ("50", 50), ("10", 10)].lookup text
  get_undefined _ := rfl

def sampleSettings : Settings :=
  ⟨9000, 9001, 1000, 1000, "0.0.0.0:8086", 50, "server_ipc.sock", "my_db.sqlite3",
    "we do not assembly", 900, 10, "server.log"⟩

def samplePorts : List Bytes := [CONFIG_FILE_PATH, bytesOf "9000", bytesOf "9001"]

/-- two ports on the command line, over a file with another -/
theorem startup_settings_sample :
    readConfig .sample none samplePorts = .ok sampleSettings ∧ sampleSettings.Sound := by
  have hread : readConfig .sample none samplePorts = .ok sampleSettings := rfl
  exact ⟨hread, (startup_settings (fun _ => true) (bytesOf "server") .sample none samplePorts
    rfl).2.1 sampleSettings hread⟩

end Startup
end Logistics
