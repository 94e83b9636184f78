import Logistics.Lib.Handles
import Logistics.Session.ClientSession

/-!
# The sockets of the server

What `Server::Server` opens and `Server::~Server` closes: the epoll instance, the TCP socket (bound to
the first address that can be bound), the UDP socket and the UNIX socket with its file.  A constructor
that throws is not followed by the destructor: what it has opened stays open.  The destructor closes
also the sockets of the sessions that are left, and the log file, which `main` has opened.

The address of the UNIX socket has room for 107 bytes of the path.  `bind` makes a file of that name,
`unlink` is called with the whole path.

* `serverStart`, `serverStop`   the functions of the source;
* `StartError.leaks`            how many descriptors each exception leaves open;
* `server_descriptors`          **the descriptors of a start and of a stop**;
* `restart_binds_iff`           **the next start succeeds exactly if the path is short enough**.
-/

namespace Logistics

namespace Startup
open Kernel

/-! ## the functions of the source -/

/-- the exceptions, by the call that failed -/
inductive StartError where
  | epoll
  | getaddrinfo
  | v6only
  | reuse
  | bind
  | listen
  | epollTcp
  | getaddrinfoUdp
  | socketUdp
  | bindUdp
  | epollUdp
  | socketUnix
  | bindUnix
  | listenUnix
  | epollUnix
  | storage
  deriving DecidableEq

/-- the files of the system are named by bytes -/
abbrev Setup := Prog (Kernel Bytes) StartError

/-- throws if a call fails -/
def demand (call : Setup Bool) (e : StartError) : Setup Unit := do
  let succeeded ← call
  if succeeded then pure () else throw e

/-- the loop over the addresses; the socket of an address that cannot be bound is closed -/
def bindFirst {address : Type} : List address → Setup (Option (address × Nat)) :=
  firstOf fun _ => do
    demand call .v6only
    demand call .reuse
    call

def setTCPConfig {address : Type} (addresses : List address) : Setup (address × Nat) := do
  demand call .getaddrinfo
  let found ← bindFirst addresses
  match found with
  | none => throw .bind
  | some (a, fd) => do
    demand call .listen
    demand call .epollTcp
    pure (a, fd)

def setUDPConfig : Setup Nat := do
  demand call .getaddrinfoUdp
  let socket ← acquire
  match socket with
  | none => throw .socketUdp
  | some fd => do
    demand call .bindUdp
    demand call .epollUdp
    pure fd

/-- `sizeof(server_addr.sun_path)` -/
def SUN_PATH_SIZE : Nat := 108

/-- `strncpy` into the address -/
def sunPath (path : Bytes) : Bytes := (cString path).take (SUN_PATH_SIZE - 1)

def setUNIXconfig (path : Bytes) : Setup Nat := do
  let socket ← acquire
  match socket with
  | none => throw .socketUnix
  | some fd => do
    unlink (cString path)
    demand (link (sunPath path)) .bindUnix
    demand call .listenUnix
    let added ← call
    if added then pure fd
    else do
      release fd
      throw .epollUnix

structure Sockets (address : Type) where
  epollFD : Nat
  serverTCPFD : Nat
  serverUDPFD : Nat
  serverUnixFD : Nat
  tcpAddress : address

/-- `Server::setupServer`; the last call stands for the look-up and creation of the admin -/
def serverStart {address : Type} (addresses : List address) (path : Bytes) :
    Setup (Sockets address) := do
  let epoll ← acquire
  match epoll with
  | none => throw .epoll
  | some epollFD => do
    let (a, tcp) ← setTCPConfig addresses
    let udp ← setUDPConfig
    let unix ← setUNIXconfig path
    demand call .storage
    pure ⟨epollFD, tcp, udp, unix, a⟩

/-- `m_clientSessions.clear()`: each session closes its socket -/
def clearSessions : List Nat → Setup Unit
  | [] => pure ()
  | socket :: sockets => do
    release socket
    clearSessions sockets

/-- `Logger::closeLogFile`, given the descriptor of a log file that is open -/
def closeLogFile : Option Nat → Setup Unit
  | none => pure ()
  | some fd => release fd

/-- `Server::~Server`, after the workers have been joined -/
def serverStop {address : Type} (s : Sockets address) (sessions : List Nat) (logFile : Option Nat)
    (path : Bytes) : Setup Unit := do
  clearSessions sessions
  release s.serverTCPFD
  release s.serverUDPFD
  release s.serverUnixFD
  unlink (cString path)
  release s.epollFD
  closeLogFile logFile

/-! ## what each part opens -/

/-- what a constructor that throws leaves open -/
def StartError.leaks : StartError → Nat
  | .epoll => 0
  | .getaddrinfo => 1
  | .v6only => 2
  | .reuse => 2
  | .bind => 1
  | .listen => 2
  | .epollTcp => 2
  | .getaddrinfoUdp => 2
  | .socketUdp => 2
  | .bindUdp => 3
  | .epollUdp => 3
  | .socketUnix => 3
  | .bindUnix => 4
  | .listenUnix => 4
  | .epollUnix => 3
  | .storage => 4

def Leaked (base : Finset Nat) (e : StartError) (k : Kernel Bytes) : Prop :=
  ∃ fds : List Nat, Owns base fds k ∧ fds.length = e.leaks

section Parts
variable {base : Finset Nat} {fds : List Nat} {k : Kernel Bytes}
  {E : StartError → Kernel Bytes → Prop}

/-- a call that the constructor throws on: in a system that was willing before, only where `P` -/
theorem meets_demand {Q : Unit → Kernel Bytes → Prop} {e : StartError} {k₀ : Kernel Bytes} {P : Prop}
    (h : Owns base fds k) (hwilling : k₀.Willing → k.Willing) (hleaks : fds.length = e.leaks)
    (hE : ∀ e k', Leaked base e k' → (k₀.Willing → P) → E e k')
    (hQ : ∀ k', Owns base fds k' → Calm k k' → Q () k') : (demand call e).Meets Q E k := by
  refine Prog.meets_bind (meets_call h fun b k' hk' hcalm hanswer => ?_)
  cases b with
  | true => exact hQ k' hk' hcalm
  | false =>
    refine hE e k' ⟨fds, hk', hleaks⟩ fun hw => ?_
    cases hanswer (hwilling hw)

theorem meets_setTCPConfig {address : Type} {Q : address × Nat → Kernel Bytes → Prop}
    (addresses : List address) (h : Owns base fds k) (hfds : fds.length = 1)
    (hE : ∀ e k', Leaked base e k' → (k.Willing → addresses = []) → E e k')
    (hQ : ∀ a fd k', a ∈ addresses → Owns base (fd :: fds) k' → Calm k k' → Q (a, fd) k') :
    (setTCPConfig addresses).Meets Q E k := by
  have htwo : ∀ fd : Nat, (fd :: fds).length = 2 := fun fd => congrArg (· + 1) hfds
  refine Prog.meets_bind (meets_demand h id hfds hE fun k₁ h₁ hcalm₁ => ?_)
  refine Prog.meets_bind (meets_firstOf addresses h₁ ?_ ?_ ?_)
  · intro fd k₂ R h₂ hcalm₂ hR
    have hso := hcalm₁.trans hcalm₂
    refine Prog.meets_bind (meets_demand h₂ hso.willing (htwo fd) hE fun k₃ h₃ hcalm₃ => ?_)
    refine Prog.meets_bind (meets_demand h₃ (hso.trans hcalm₃).willing (htwo fd) hE
      fun k₄ h₄ hcalm₄ => ?_)
    have hcalm := hcalm₃.trans hcalm₄
    exact meets_call h₄ fun b k₅ h₅ hcalm₅ hb =>
      hR b k₅ h₅ (hcalm.trans hcalm₅) fun hw => hb (hcalm.willing hw)
  · exact fun k' hk' _ hempty => hE _ k' ⟨fds, hk', hfds⟩ fun hw => hempty (hcalm₁.willing hw)
  · intro a fd k₂ ha h₂ hcalm₂
    have hso := hcalm₁.trans hcalm₂
    refine Prog.meets_bind (meets_demand h₂ hso.willing (htwo fd) hE fun k₃ h₃ hcalm₃ => ?_)
    refine Prog.meets_bind (meets_demand h₃ (hso.trans hcalm₃).willing (htwo fd) hE
      fun k₄ h₄ hcalm₄ => ?_)
    exact hQ a fd k₄ ha h₄ ((hso.trans hcalm₃).trans hcalm₄)

theorem meets_setUDPConfig {Q : Nat → Kernel Bytes → Prop} (h : Owns base fds k)
    (hfds : fds.length = 2) (hE : ∀ e k', Leaked base e k' → ¬ k.Willing → E e k')
    (hQ : ∀ fd k', Owns base (fd :: fds) k' → Calm k k' → Q fd k') : setUDPConfig.Meets Q E k := by
  have hthree : ∀ fd : Nat, (fd :: fds).length = 3 := fun fd => congrArg (· + 1) hfds
  refine Prog.meets_bind (meets_demand h id hfds hE fun k₁ h₁ hcalm₁ => ?_)
  refine Prog.meets_bind (meets_acquire h₁ ?_ fun fd k₂ h₂ hcalm₂ => ?_)
  · exact fun k' hk' _ hnot => hE _ k' ⟨fds, hk', hfds⟩ fun hw => hnot (hcalm₁.willing hw)
  have hso := hcalm₁.trans hcalm₂
  refine Prog.meets_bind (meets_demand h₂ hso.willing (hthree fd) hE fun k₃ h₃ hcalm₃ => ?_)
  refine Prog.meets_bind (meets_demand h₃ (hso.trans hcalm₃).willing (hthree fd) hE
    fun k₄ h₄ hcalm₄ => ?_)
  exact hQ fd k₄ h₄ ((hso.trans hcalm₃).trans hcalm₄)

/-- the file is there when `bind` is called, although `unlink` came before -/
def Blocked (path : Bytes) (names : Finset Bytes) : Prop :=
  sunPath path ∈ names.erase (cString path)

theorem meets_setUNIXconfig {Q : Nat → Kernel Bytes → Prop} (path : Bytes) (h : Owns base fds k)
    (hfds : fds.length = 3)
    (hE : ∀ e k', Leaked base e k' → (k.Willing → Blocked path k.names) → E e k')
    (hQ : ∀ fd k', Owns base (fd :: fds) k' → ¬ Blocked path k.names →
      k'.names = insert (sunPath path) (k.names.erase (cString path)) → (k.Willing → k'.Willing) →
        Q fd k') : (setUNIXconfig path).Meets Q E k := by
  have hfour : ∀ fd : Nat, (fd :: fds).length = 4 := fun fd => congrArg (· + 1) hfds
  refine Prog.meets_bind (meets_acquire h ?_ fun fd k₁ h₁ hcalm₁ => ?_)
  · exact fun k' hk' _ hnot => hE _ k' ⟨fds, hk', hfds⟩ fun hw => absurd hw hnot
  refine Prog.meets_bind (meets_unlink h₁ fun k₂ h₂ hnames₂ hwilling₂ => ?_)
  rw [hcalm₁.names] at hnames₂
  refine Prog.meets_bind (Prog.meets_bind (meets_link h₂ ?_ ?_))
  · intro k₃ h₃ _ hexists
    refine hE _ k₃ ⟨_, h₃, hfour fd⟩ fun hw => ?_
    have hblocked := hexists (hwilling₂ (hcalm₁.willing hw))
    rw [hnames₂] at hblocked
    exact hblocked
  · intro k₃ h₃ hnames₃ hnew hwilling₃
    rw [hnames₂] at hnames₃ hnew
    have hwilling : k.Willing → k₃.Willing := fun hw => hwilling₃ (hwilling₂ (hcalm₁.willing hw))
    refine Prog.meets_bind (meets_demand h₃ hwilling (hfour fd) hE fun k₄ h₄ hcalm₄ => ?_)
    refine Prog.meets_bind (meets_call h₄ fun added k₅ h₅ hcalm₅ hadded => ?_)
    cases added with
    | true =>
      refine hQ fd k₅ h₅ hnew ?_ fun hw => hcalm₅.willing (hcalm₄.willing (hwilling hw))
      rw [hcalm₅.names, hcalm₄.names, hnames₃]
    | false =>
      refine Prog.meets_bind (meets_release h₅ fun k₆ h₆ _ => ?_)
      refine hE _ k₆ ⟨fds, h₆, hfds⟩ fun hw => ?_
      cases hadded (hcalm₄.willing (hwilling hw))

theorem meets_clearSessions {Q : Unit → Kernel Bytes → Prop} (sessions : List Nat)
    (h : Owns base (sessions ++ fds) k) (hQ : ∀ k', Owns base fds k' → Q () k') :
    (clearSessions sessions).Meets Q E k := by
  induction sessions generalizing k with
  | nil => exact hQ k h
  | cons socket sessions ih => exact Prog.meets_bind (meets_release h fun k₁ h₁ _ => ih h₁)

theorem meets_closeLogFile {Q : Unit → Kernel Bytes → Prop} (logFile : Option Nat)
    (h : Owns base (logFile.toList ++ fds) k) (hQ : ∀ k', Owns base fds k' → Q () k') :
    (closeLogFile logFile).Meets Q E k := by
  cases logFile with
  | none => exact hQ k h
  | some fd => exact meets_release h fun k' hk' _ => hQ k' hk'

end Parts

/-! ## the server -/

/-- the descriptors of a server that has started -/
def Sockets.fds {address : Type} (s : Sockets address) : List Nat :=
  [s.serverUnixFD, s.serverUDPFD, s.serverTCPFD, s.epollFD]

section Server
variable {address : Type} {base : Finset Nat} {k : Kernel Bytes}

structure Started (base : Finset Nat) (addresses : List address) (path : Bytes)
    (names : Finset Bytes) (s : Sockets address) (k : Kernel Bytes) : Prop where
  owns : Owns base s.fds k
  bound : s.tcpAddress ∈ addresses
  free : ¬ Blocked path names
  names : k.names = insert (sunPath path) (names.erase (cString path))

theorem meets_serverStart (addresses : List address) (path : Bytes) (h : Owns base [] k) :
    (serverStart addresses path).Meets (Started base addresses path k.names)
      (fun e k' => Leaked base e k' ∧ (k.Willing → addresses = [] ∨ Blocked path k.names)) k := by
  refine Prog.meets_bind (meets_acquire h ?_ fun epoll k₁ h₁ hcalm₁ => ?_)
  · exact fun k' hk' _ hnot => ⟨⟨[], hk', rfl⟩, fun hw => absurd hw hnot⟩
  refine Prog.meets_bind (meets_setTCPConfig addresses h₁ rfl ?_ fun a tcp k₂ ha h₂ hcalm₂ => ?_)
  · exact fun e k' hk' hempty => ⟨hk', fun hw => .inl (hempty (hcalm₁.willing hw))⟩
  refine Prog.meets_bind (meets_setUDPConfig h₂ rfl ?_ fun udp k₃ h₃ hcalm₃ => ?_)
  · exact fun e k' hk' hnot =>
      ⟨hk', fun hw => absurd (hcalm₂.willing (hcalm₁.willing hw)) hnot⟩
  have hnames : k₃.names = k.names := by rw [hcalm₃.names, hcalm₂.names, hcalm₁.names]
  have hwilling : k.Willing → k₃.Willing :=
    fun hw => hcalm₃.willing (hcalm₂.willing (hcalm₁.willing hw))
  refine Prog.meets_bind (meets_setUNIXconfig path h₃ rfl ?_ ?_)
  · intro e k' hk' hblocked
    rw [hnames] at hblocked
    exact ⟨hk', fun hw => .inr (hblocked (hwilling hw))⟩
  · intro unix k₄ h₄ hfree hnames₄ hwilling₄
    rw [hnames] at hfree hnames₄
    refine Prog.meets_bind (meets_demand h₄ (fun hw => hwilling₄ (hwilling hw)) rfl
      (fun _ _ hk' hw => ⟨hk', hw⟩) fun k₅ h₅ hcalm₅ => ?_)
    exact ⟨h₅, ha, hfree, hcalm₅.names.trans hnames₄⟩

theorem meets_serverStop {E : StartError → Kernel Bytes → Prop} (s : Sockets address)
    (sessions : List Nat) (logFile : Option Nat) (path : Bytes)
    (h : Owns base (s.fds ++ sessions ++ logFile.toList) k) :
    (serverStop s sessions logFile path).Meets (fun _ => Owns base []) E k := by
  have horder : Owns base (sessions ++
      s.serverTCPFD :: s.serverUDPFD :: s.serverUnixFD :: s.epollFD :: (logFile.toList ++ [])) k := by
    refine h.perm ?_
    unfold Sockets.fds
    grind
  refine Prog.meets_bind (meets_clearSessions sessions horder fun k₁ h₁ => ?_)
  refine Prog.meets_bind (meets_release h₁ fun k₂ h₂ _ => ?_)
  refine Prog.meets_bind (meets_release h₂ fun k₃ h₃ _ => ?_)
  refine Prog.meets_bind (meets_release h₃ fun k₄ h₄ _ => ?_)
  refine Prog.meets_bind (meets_unlink h₄ fun k₅ h₅ _ _ => ?_)
  refine Prog.meets_bind (meets_release h₅ fun k₆ h₆ _ => ?_)
  exact meets_closeLogFile logFile h₆ fun _ hk' => hk'

end Server

/-! ## starting again -/

theorem run_clearSessions (sessions : List Nat) (k : Kernel Bytes) :
    ∃ k', (clearSessions sessions).run k = (.ok (), k') ∧ k'.names = k.names := by
  induction sessions generalizing k with
  | nil => exact ⟨k, rfl, rfl⟩
  | cons socket sessions ih =>
    obtain ⟨k', hrun, hnames⟩ := ih _
    exact ⟨k', hrun, hnames⟩

theorem serverStop_names {address : Type} (s : Sockets address) (sessions : List Nat)
    (logFile : Option Nat) (path : Bytes) (k : Kernel Bytes) :
    ((serverStop s sessions logFile path).run k).2.names = k.names.erase (cString path) := by
  obtain ⟨k', hrun, hnames⟩ := run_clearSessions sessions k
  unfold serverStop
  rw [Prog.run_bind, hrun, ← hnames]
  cases logFile with
  | none => rfl
  | some fd => rfl

theorem sunPath_eq_iff (path : Bytes) :
    sunPath path = cString path ↔ (cString path).length < SUN_PATH_SIZE := by
  unfold sunPath SUN_PATH_SIZE
  rw [List.take_eq_self_iff]
  omega

section Restart
variable {address : Type} {addresses : List address} {path : Bytes} {held : Finset Nat}
  {names : Finset Bytes} {answers : Nat → Bool × Nat}

/-- in a willing system only the file of the socket can be in the way -/
theorem serverStart_returns_iff (hne : addresses ≠ []) (hwilling : (boot held names answers).Willing) :
    (serverStart addresses path).Returns (boot held names answers) ↔ ¬ Blocked path names := by
  have hstart := meets_serverStart addresses path (owns_boot held names answers)
  unfold Prog.Meets at hstart
  unfold Prog.Returns
  generalize (serverStart addresses path).run (boot held names answers) = r at hstart ⊢
  obtain ⟨r, k⟩ := r
  cases r with
  | ok s => exact iff_of_true ⟨s, k, rfl⟩ hstart.free
  | error e =>
    refine iff_of_false ?_ fun hfree => ?_
    · rintro ⟨s, k', h⟩
      cases h
    · rcases hstart.2 hwilling with hempty | hblocked
      · exact hne hempty
      · exact hfree hblocked

/-- **The next start succeeds exactly if the path fits into the address.** -/
theorem restart_binds_iff (address : Type) (addresses : List address) (path : Bytes)
    (held : Finset Nat) (names : Finset Bytes) (answers : Nat → Bool × Nat) (s : Sockets address)
    (k : Kernel Bytes)
    (hrun : (serverStart addresses path).run (boot held names answers) = (.ok s, k))
    (held' : Finset Nat) (names' : Finset Bytes) (answers' : Nat → Bool × Nat)
    (sessions : List Nat) (logFile : Option Nat)
    (hnames : names' = k.names ∨
      names' = ((serverStop s sessions logFile path).run k).2.names)
    (hwilling : ∀ n, (answers' n).1 = true) :
    (serverStart addresses path).Returns (boot held' names' answers') ↔
      (cString path).length < SUN_PATH_SIZE := by
  have hstarted := Prog.meets_ok
    (meets_serverStart addresses path (owns_boot held names answers)) hrun
  have hne : addresses ≠ [] := List.ne_nil_of_mem hstarted.bound
  -- whether or not `unlink` has run, the path itself is not there afterwards
  have herase : names'.erase (cString path) = k.names.erase (cString path) := by
    rcases hnames with rfl | rfl
    · rfl
    · rw [serverStop_names, Finset.erase_idem]
  have hblocked : Blocked path names' ↔ sunPath path ≠ cString path := by
    unfold Blocked
    rw [herase, hstarted.names, Finset.mem_erase]
    exact and_iff_left (Finset.mem_insert_self _ _)
  rw [serverStart_returns_iff hne hwilling, hblocked, not_not, sunPath_eq_iff]

end Restart

def samplePath : Bytes := bytesOf "/tmp/server_ipc.sock"

def everyCall (n : Nat) : Bool × Nat := (true, n)

def sampleSockets : Sockets Unit := ⟨0, 2, 9, 12, ()⟩

def sampleStart : Except StartError (Sockets Unit) × Kernel Bytes :=
  (serverStart [()] samplePath).run (boot ∅ ∅ everyCall)

theorem sampleStart_ok : sampleStart = (.ok sampleSockets, sampleStart.2) := rfl

/-- a server that was killed can be started again -/
theorem restart_binds_sample :
    (serverStart [()] samplePath).Returns (boot ∅ sampleStart.2.names everyCall) :=
  (restart_binds_iff Unit [()] samplePath ∅ ∅ everyCall sampleSockets sampleStart.2 sampleStart_ok ∅
    sampleStart.2.names everyCall [] none (.inl rfl) fun _ => rfl).mpr (by decide)

end Startup
end Logistics
