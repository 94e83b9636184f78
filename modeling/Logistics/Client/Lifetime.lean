import Logistics.Lib.Handles
import Logistics.Session.ClientSession

/-!
# The life of a client

`main` of the client from its arguments to its return code: the log file, the TCP connection (to the
first address that accepts it), the UDP socket, the message queue of the dashboard, and
`client_cleanup` on every way out.  A signal that arrives while the client talks to the server closes
its standard input, which ends the talk.

* `setupAndConnect`, `signalHandler`, `clientCleanup`, `clientMain`   the functions of the source;
* `Ended`                 how a client can have ended;
* `client_gives_back`     **on every way out the client has given back what it took**.
-/

namespace Logistics

namespace Client
open Kernel

/-! ## the functions of the source -/

/-- nothing of the client throws -/
abbrev Life := Prog (Kernel Bytes) Empty

inductive Protocol where
  | tcp
  | udp
  deriving DecidableEq

/-- the loop of `setup_and_connect`: the address it stops at and the socket -/
def connectFirst {address : Type} (protocol : Protocol) :
    List address → Life (Option (address × Nat)) :=
  firstOf fun _ => if protocol = .tcp then call else pure true

/-- where no address is left `socket_validation` closes -1, which closes nothing -/
def setupAndConnect {address : Type} (protocol : Protocol) (addresses : List address) :
    Life (Option (address × Nat)) := do
  let resolved ← call
  if resolved then connectFirst protocol addresses else pure none

def IPC_QUEUE_NAME : Bytes := bytesOf "/client_ipc_queue"

/-- `mq_open` makes the queue if there is none -/
def ipcInitQueue : Life (Option Nat) := do
  let queue ← acquire
  match queue with
  | none => pure none
  | some mqd => do
    touch IPC_QUEUE_NAME
    pure (some mqd)

/-- the members of the context that `client_cleanup` looks at -/
structure Links where
  tcpSocket : Option Nat
  udpSocket : Option Nat
  ipcQueue : Option Nat

def closeSocket : Option Nat → Life Unit
  | none => pure ()
  | some fd => release fd

/-- `client_cleanup`, with the log file; whether `ipc_exit` can send its message makes no difference -/
def clientCleanup (context : Links) (logFile : Nat) : Life Unit := do
  closeSocket context.tcpSocket
  closeSocket context.udpSocket
  match context.ipcQueue with
  | none => pure ()
  | some mqd => do
    let _ ← call
    release mqd
    unlink IPC_QUEUE_NAME
  release logFile

def STDIN_FILENO : Nat := 0

/-- `fclose(stdin)` -/
def signalHandler : Life Unit := release STDIN_FILENO

/-- the call stands for the talk with the server, which opens and closes nothing itself -/
def startCommunication (signalled : Bool) : Life Bool := do
  if signalled then signalHandler
  call

/-- how `main` has ended: its return code, and the addresses of the server if it came to talk -/
structure Exit (address : Type) where
  code : Nat
  peers : Option (address × address)

/-- `main` behind `parse_arguments`; `signalled` if a signal arrives during `start_communication` -/
def clientMain {address : Type} (signalled : Bool) (tcp udp : List address) :
    Life (Exit address) := do
  let logger ← acquire
  match logger with
  | none => pure ⟨1, none⟩
  | some logFile => do
    let connection ← setupAndConnect .tcp tcp
    match connection with
    | none => do
      clientCleanup ⟨none, none, none⟩ logFile
      pure ⟨1, none⟩
    | some (server, tcpSocket) => do
      let socket ← setupAndConnect .udp udp
      match socket with
      | none => do
        clientCleanup ⟨some tcpSocket, none, none⟩ logFile
        pure ⟨1, none⟩
      | some (peer, udpSocket) => do
        let queue ← ipcInitQueue
        match queue with
        | none => do
          clientCleanup ⟨some tcpSocket, some udpSocket, none⟩ logFile
          pure ⟨1, none⟩
        | some mqd => do
          let communicated ← startCommunication signalled
          clientCleanup ⟨some tcpSocket, some udpSocket, some mqd⟩ logFile
          pure ⟨if communicated then 0 else 1, some (server, peer)⟩

/-! ## the parts -/

/-- what a context and the log file own, in the order in which it is closed -/
def Links.owned (context : Links) (logFile : Nat) : List Nat :=
  context.tcpSocket.toList ++ (context.udpSocket.toList ++ (context.ipcQueue.toList ++ [logFile]))

section Parts
variable {address : Type} {base : Finset Nat} {fds : List Nat} {k : Kernel Bytes}
  {E : Empty → Kernel Bytes → Prop}

theorem meets_setupAndConnect {Q : Option (address × Nat) → Kernel Bytes → Prop}
    (protocol : Protocol) (addresses : List address) (h : Owns base fds k)
    (hnone : ∀ k', Owns base fds k' → Calm k k' → (k.Willing → addresses = []) → Q none k')
    (hsome : ∀ a fd k', a ∈ addresses → Owns base (fd :: fds) k' → Calm k k' →
      Q (some (a, fd)) k') : (setupAndConnect protocol addresses).Meets Q E k := by
  refine Prog.meets_bind (meets_call h fun resolved k₁ h₁ hcalm₁ hresolved => ?_)
  cases resolved with
  | true =>
    refine meets_firstOf addresses h₁ ?_ ?_ ?_
    · intro fd k' R hk' _ hR
      cases protocol with
      | tcp => exact meets_call hk' hR
      | udp => exact hR true k' hk' ⟨rfl, id⟩ fun _ => rfl
    · exact fun k' hk' hcalm' hempty =>
        hnone k' hk' (hcalm₁.trans hcalm') fun hw => hempty (hcalm₁.willing hw)
    · exact fun a fd k' ha hk' hcalm' => hsome a fd k' ha hk' (hcalm₁.trans hcalm')
  | false =>
    refine hnone k₁ h₁ hcalm₁ fun hw => ?_
    cases hresolved hw

theorem meets_ipcInitQueue {Q : Option Nat → Kernel Bytes → Prop} (h : Owns base fds k)
    (hnone : ∀ k', Owns base fds k' → Calm k k' → ¬ k.Willing → Q none k')
    (hsome : ∀ mqd k', Owns base (mqd :: fds) k' → k'.names = insert IPC_QUEUE_NAME k.names →
      (k.Willing → k'.Willing) → Q (some mqd) k') : ipcInitQueue.Meets Q E k := by
  refine Prog.meets_bind (meets_acquire h hnone fun mqd k₁ h₁ hcalm₁ => ?_)
  refine Prog.meets_bind (meets_touch h₁ fun k₂ h₂ hnames₂ hwilling₂ => hsome mqd k₂ h₂ ?_ ?_)
  · rw [hnames₂, hcalm₁.names]
  · exact fun hw => hwilling₂ (hcalm₁.willing hw)

/-- what is left of the descriptors that the client was started with -/
def leftOpen (signalled : Bool) (held : Finset Nat) : Finset Nat :=
  if signalled then held.erase STDIN_FILENO else held

theorem meets_startCommunication {Q : Bool → Kernel Bytes → Prop} {signalled : Bool}
    (h : Owns base fds k) (hstdin : signalled = true → STDIN_FILENO ∈ base)
    (hQ : ∀ b k', Owns (leftOpen signalled base) fds k' → Calm k k' → (k.Willing → b = true) →
      Q b k') : (startCommunication signalled).Meets Q E k := by
  cases signalled with
  | false => exact meets_call h hQ
  | true =>
    refine Prog.meets_bind (meets_release_base h (hstdin rfl) fun k₁ h₁ hcalm₁ => ?_)
    exact meets_call h₁ fun b k' hk' hcalm' hb =>
      hQ b k' hk' (hcalm₁.trans hcalm') fun hw => hb (hcalm₁.willing hw)

theorem meets_closeSocket {Q : Unit → Kernel Bytes → Prop} (socket : Option Nat)
    (h : Owns base (socket.toList ++ fds) k) (hQ : ∀ k', Owns base fds k' → Calm k k' → Q () k') :
    (closeSocket socket).Meets Q E k := by
  cases socket with
  | none => exact hQ k h ⟨rfl, id⟩
  | some fd => exact meets_release h hQ

/-- **Cleaning up closes all that the context owns.** -/
theorem meets_clientCleanup {Q : Unit → Kernel Bytes → Prop} (context : Links) (logFile : Nat)
    (h : Owns base (context.owned logFile) k)
    (hQ : ∀ k', Owns base [] k' → k'.names =
      (if context.ipcQueue.isSome then k.names.erase IPC_QUEUE_NAME else k.names) → Q () k') :
    (clientCleanup context logFile).Meets Q E k := by
  refine Prog.meets_bind (meets_closeSocket context.tcpSocket h fun k₁ h₁ hcalm₁ => ?_)
  refine Prog.meets_bind (meets_closeSocket context.udpSocket h₁ fun k₂ h₂ hcalm₂ => ?_)
  have hnames : k₂.names = k.names := hcalm₂.names.trans hcalm₁.names
  cases hqueue : context.ipcQueue with
  | none =>
    rw [hqueue] at h₂ hQ
    refine meets_release h₂ fun k₃ h₃ hcalm₃ => hQ k₃ h₃ ?_
    exact hcalm₃.names.trans hnames
  | some mqd =>
    rw [hqueue] at h₂ hQ
    refine Prog.meets_bind (meets_call h₂ fun _ k₃ h₃ hcalm₃ _ => ?_)
    refine Prog.meets_bind (meets_release h₃ fun k₄ h₄ hcalm₄ => ?_)
    refine Prog.meets_bind (meets_unlink h₄ fun k₅ h₅ hnames₅ _ => ?_)
    refine meets_release h₅ fun k₆ h₆ hcalm₆ => hQ k₆ h₆ ?_
    rw [hcalm₆.names, hnames₅, hcalm₄.names, hcalm₃.names, hnames]
    rfl

end Parts

/-! ## every way out -/

section Main
variable {address : Type} {signalled : Bool} {tcp udp : List address} {held : Finset Nat}
  {names : Finset Bytes} {answers : Nat → Bool × Nat}

structure Ended (signalled : Bool) (tcp udp : List address) (held : Finset Nat) (names : Finset Bytes)
    (answers : Nat → Bool × Nat) (e : Exit address) (k : Kernel Bytes) : Prop where
  closed : Owns (if e.peers.isSome then leftOpen signalled held else held) [] k
  names : k.names = if e.peers.isSome then names.erase IPC_QUEUE_NAME else names
  peers : ∀ server peer, e.peers = some (server, peer) → server ∈ tcp ∧ peer ∈ udp
  code : e.code = 0 → e.peers.isSome
  willing : (∀ n, (answers n).1 = true) → tcp ≠ [] → udp ≠ [] → e.code = 0

/-- the client could not be set up -/
theorem ended_early {k : Kernel Bytes} (hk : Owns held [] k) (hnames : k.names = names)
    (hwilling : (∀ n, (answers n).1 = true) → tcp = [] ∨ udp = []) :
    Ended signalled tcp udp held names answers ⟨1, none⟩ k := by
  refine ⟨hk, hnames, ?_, ?_, ?_⟩
  · intro server peer h
    cases h
  · intro h
    cases h
  · intro hw htcp hudp
    rcases hwilling hw with h | h
    · exact absurd h htcp
    · exact absurd h hudp

theorem meets_clientMain (tcp udp : List address) (names : Finset Bytes)
    (answers : Nat → Bool × Nat) (hstdin : signalled = true → STDIN_FILENO ∈ held) :
    (clientMain signalled tcp udp).Meets (Ended signalled tcp udp held names answers)
      (fun _ _ => False) (boot held names answers) := by
  refine Prog.meets_bind (meets_acquire (owns_boot held names answers) ?_ ?_)
  · exact fun k₁ h₁ hcalm₁ hnot => ended_early h₁ hcalm₁.names fun hw => absurd hw hnot
  intro logFile k₁ h₁ hcalm₁
  refine Prog.meets_bind (meets_setupAndConnect .tcp tcp h₁ ?_ ?_)
  · intro k₂ h₂ hcalm₂ hempty
    refine Prog.meets_bind (meets_clientCleanup ⟨none, none, none⟩ logFile h₂ fun k₃ h₃ hnames₃ => ?_)
    exact ended_early h₃ (hnames₃.trans (hcalm₁.trans hcalm₂).names) fun hw =>
      .inl (hempty (hcalm₁.willing hw))
  intro server tcpSocket k₂ hserver h₂ hcalm₂
  have hcalm := hcalm₁.trans hcalm₂
  refine Prog.meets_bind (meets_setupAndConnect .udp udp h₂ ?_ ?_)
  · intro k₃ h₃ hcalm₃ hempty
    refine Prog.meets_bind (meets_clientCleanup ⟨some tcpSocket, none, none⟩ logFile h₃
      fun k₄ h₄ hnames₄ => ?_)
    exact ended_early h₄ (hnames₄.trans (hcalm.trans hcalm₃).names) fun hw =>
      .inr (hempty (hcalm.willing hw))
  intro peer udpSocket k₃ hpeer h₃ hcalm₃
  have hcalm' := hcalm.trans hcalm₃
  have htwo : ∀ k' : Kernel Bytes, Owns held [udpSocket, tcpSocket, logFile] k' →
      Owns held [tcpSocket, udpSocket, logFile] k' := fun k' hk' => hk'.perm (List.Perm.swap _ _ _)
  refine Prog.meets_bind (meets_ipcInitQueue h₃ ?_ ?_)
  · intro k₄ h₄ hcalm₄ hnot
    refine Prog.meets_bind (meets_clientCleanup ⟨some tcpSocket, some udpSocket, none⟩ logFile
      (htwo k₄ h₄) fun k₅ h₅ hnames₅ => ?_)
    exact ended_early h₅ (hnames₅.trans (hcalm'.trans hcalm₄).names) fun hw =>
      absurd (hcalm'.willing hw) hnot
  intro mqd k₅ h₅ hnames₅ hwilling₅
  refine Prog.meets_bind (meets_startCommunication h₅ hstdin
    fun communicated k₆ h₆ hcalm₆ hcommunicated => ?_)
  have hthree : Owns (leftOpen signalled held) [tcpSocket, udpSocket, mqd, logFile] k₆ :=
    h₆.perm (by grind)
  refine Prog.meets_bind (meets_clientCleanup ⟨some tcpSocket, some udpSocket, some mqd⟩ logFile
    hthree fun k₇ h₇ hnames₇ => ?_)
  refine ⟨h₇, ?_, ?_, fun _ => rfl, ?_⟩
  · show k₇.names = names.erase IPC_QUEUE_NAME
    have hbefore : k₃.names = names := hcalm'.names
    rw [hnames₇, hcalm₆.names, hnames₅, hbefore]
    exact Finset.erase_insert_eq_erase names IPC_QUEUE_NAME
  · intro server' peer' h
    cases h
    exact ⟨hserver, hpeer⟩
  · intro hw _ _
    have htrue := hcommunicated (hwilling₅ (hcalm'.willing hw))
    show (if communicated then 0 else 1) = 0
    rw [htrue]
    rfl

end Main

/-- **A client closes what it has opened, on every way out.** -/
theorem client_gives_back (address : Type) (signalled : Bool) (tcp udp : List address)
    (held : Finset Nat) (names : Finset Bytes) (answers : Nat → Bool × Nat)
    (hstdin : signalled = true → STDIN_FILENO ∈ held) :
    ∃ e k, (clientMain signalled tcp udp).run (boot held names answers) = (.ok e, k) ∧
      Ended signalled tcp udp held names answers e k := by
  have hmain := meets_clientMain tcp udp names answers hstdin
  unfold Prog.Meets at hmain
  generalize (clientMain signalled tcp udp).run (boot held names answers) = r at hmain ⊢
  obtain ⟨r, k⟩ := r
  cases r with
  | ok e => exact ⟨e, k, rfl, hmain⟩
  | error e => exact hmain.elim

/-- a client with the three standard descriptors, which is signalled -/
theorem signalled_client_gives_back : ∃ e k,
    (clientMain true [()] [()]).run (boot {0, 1, 2} ∅ fun n => (true, n)) = (.ok e, k) ∧
      Ended true [()] [()] {0, 1, 2} ∅ (fun n => (true, n)) e k ∧
      e.peers.isSome ∧ k.held = {1, 2} := by
  obtain ⟨e, k, hrun, hended⟩ := client_gives_back Unit true [()] [()] {0, 1, 2} ∅
    (fun n => (true, n)) fun _ => by decide
  have hpeers : e.peers.isSome := hended.code (hended.willing (fun _ => rfl) nofun nofun)
  have hclosed := hended.closed
  rw [if_pos hpeers] at hclosed
  refine ⟨e, k, hrun, hended, hpeers, ?_⟩
  ext d
  rw [hclosed.held, or_iff_left List.not_mem_nil]
  exact Finset.ext_iff.mp (by decide) d

end Client
end Logistics
