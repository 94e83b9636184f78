import Logistics.Server.OneShot

/-!
# The event loop in finer steps

`Server` takes the body of the loop for one event as one step, and the end of a worker's task as
another.  Here they are taken apart: the main thread calls `trySendPendingMessage`, asks
`hasPendingMessages`, calls `epoll_ctl` and queues the task in four steps, and a worker asks
`hasPendingMessages` in one step and calls `epoll_ctl` in another.

* `Loop`          `Server`, the place of the main thread, and the masks on their way;
* `LoopMoves`     what each step can do;
* `coarse_step`   **a step of `serverStep` is a run of these steps**;
* `Loop.Pinned`   the table is tidy, and the pointers that are still needed are there.
-/

namespace Logistics
open Runs

/-- where the main thread is: in `epoll_wait` or between two events, or at an event, whose message it
has tried to send, whose queue it has found empty, whose task it is about to queue -/
inductive MainPc where
  | idle
  | event (e : EpollEvent)
  | tried (e : EpollEvent) (sid : Nat)
  | drained (e : EpollEvent) (sid : Nat)
  | route (e : EpollEvent)
  deriving DecidableEq, Repr

/-- the mask of a worker -/
structure Mask where
  session : Nat
  fd : Nat
  out : Bool
  deriving DecidableEq, Repr

structure Loop where
  server : Server
  main : MainPc
  masks : List Mask

/-- the descriptor that the main thread is at -/
def MainPc.fd : MainPc → Option Nat
  | .idle => none
  | .event e => some e.fd
  | .tried e _ => some e.fd
  | .drained e _ => some e.fd
  | .route e => some e.fd

/-- the pointer of the main thread counts as one of a task that has done its work -/
def MainPc.pins : MainPc → List Task
  | .tried e sid => [⟨sid, e.fd, .finished⟩]
  | .drained e sid => [⟨sid, e.fd, .finished⟩]
  | _ => []

def Mask.task (m : Mask) : Task := ⟨m.session, m.fd, .finished⟩

/-- one more pointer -/
def Server.pinning (s : Server) (t : Task) : Server := { s with tasks := t :: s.tasks }

namespace Loop

def start : Loop := ⟨.start, .idle, []⟩

/-- the tasks whose pointers are still needed -/
def pins (ℓ : Loop) : List Task := ℓ.main.pins ++ ℓ.masks.map Mask.task

/-! ## the main thread -/

/-- the first half of `pendingMessages`; the pointer is kept until the second -/
def tryPending (ℓ : Loop) (e : EpollEvent) (stillPending : Bool) : Loop :=
  match ℓ.server.clientSessions e.fd with
  | none => { ℓ with
      server := { ℓ.server with
        clientSessions := Function.update ℓ.server.clientSessions e.fd (some none) }
      main := .route e }
  | some none => { ℓ with main := .route e }
  | some (some sid) => { ℓ with
      server := (ℓ.server.setPending sid fun pending => pending && stillPending).pinning
        ⟨sid, e.fd, .finished⟩
      main := .tried e sid }

/-- `pendingMessages` returns -/
def leave (ℓ : Loop) (e : EpollEvent) (sid : Nat) : Loop :=
  { ℓ with
    server := Server.release
      { ℓ.server with tasks := ℓ.server.tasks.erase ⟨sid, e.fd, .finished⟩ } sid
    main := .route e }

/-- the end of the loop's body for the event -/
def routed (ℓ : Loop) (e : EpollEvent) : Loop :=
  { ℓ with
    server := if (ℓ.server.clientSessions e.fd).isSome = true then ℓ.server.tcpHandling e.fd
      else ℓ.server
    main := .idle }

/-! ## steps -/

/-- the steps of `serverStep` that are steps here as well, and when -/
def Allows (ℓ : Loop) : Act → Prop
  | .accept _ _ _ _ => ℓ.main = .idle
  | .wait _ => ℓ.main = .idle
  | .dispatch _ => False
  | .advance t => t.pc ≠ .rearm ∧ ℓ.pins.count t < ℓ.server.tasks.count t
  | _ => True

instance (ℓ : Loop) (a : Act) : Decidable (ℓ.Allows a) := by
  cases a <;> unfold Allows <;> infer_instance

end Loop

inductive LoopAct where
  | act (a : Act)
  | take
  | flush (stillPending : Bool)
  | check
  | modify
  | route
  | look (t : Task)
  | rearm (m : Mask)

def loopStep (ℓ : Loop) : LoopAct → Option Loop
  | .act a =>
    if ℓ.Allows a then (serverStep ℓ.server a).map fun s => { ℓ with server := s } else none
  | .take =>
    match ℓ.main, ℓ.server.batch with
    | .idle, e :: rest => some { ℓ with server := { ℓ.server with batch := rest }, main := .event e }
    | _, _ => none
  | .flush stillPending =>
    match ℓ.main with
    | .event e =>
      some (if e.out = true then ℓ.tryPending e stillPending else { ℓ with main := .route e })
    | _ => none
  | .check =>
    match ℓ.main with
    | .tried e sid =>
      some (if ℓ.server.hasPendingMessages sid = true then ℓ.leave e sid
        else { ℓ with main := .drained e sid })
    | _ => none
  | .modify =>
    match ℓ.main with
    | .drained e sid => some
        ({ ℓ with server := ℓ.server.epollMod e.fd false false }.leave e sid)
    | _ => none
  | .route =>
    match ℓ.main with
    | .route e => some (ℓ.routed e)
    | _ => none
  | .look t =>
    if t ∈ ℓ.server.tasks ∧ t.pc = .rearm then some { ℓ with
        server := ℓ.server.setPc t .finished
        masks := ⟨t.session, t.fd, ℓ.server.hasPendingMessages t.session⟩ :: ℓ.masks }
    else none
  | .rearm m =>
    if m ∈ ℓ.masks then some { ℓ with
        server := ℓ.server.epollMod m.fd m.out true
        masks := ℓ.masks.erase m }
    else none

/-- what each step does, and when it can be taken -/
inductive LoopMoves (ℓ : Loop) : LoopAct → Loop → Prop
  | act (a : Act) (s : Server) : ℓ.Allows a → serverStep ℓ.server a = some s →
      LoopMoves ℓ (.act a) { ℓ with server := s }
  | take (e : EpollEvent) (rest : List EpollEvent) : ℓ.main = .idle → ℓ.server.batch = e :: rest →
      LoopMoves ℓ .take { ℓ with server := { ℓ.server with batch := rest }, main := .event e }
  | flush (e : EpollEvent) (stillPending : Bool) : ℓ.main = .event e → e.out = true →
      LoopMoves ℓ (.flush stillPending) (ℓ.tryPending e stillPending)
  | skip (e : EpollEvent) (stillPending : Bool) : ℓ.main = .event e → e.out = false →
      LoopMoves ℓ (.flush stillPending) { ℓ with main := .route e }
  | keep (e : EpollEvent) (sid : Nat) : ℓ.main = .tried e sid →
      ℓ.server.hasPendingMessages sid = true → LoopMoves ℓ .check (ℓ.leave e sid)
  | drain (e : EpollEvent) (sid : Nat) : ℓ.main = .tried e sid →
      ℓ.server.hasPendingMessages sid = false →
      LoopMoves ℓ .check { ℓ with main := .drained e sid }
  | modify (e : EpollEvent) (sid : Nat) : ℓ.main = .drained e sid →
      LoopMoves ℓ .modify ({ ℓ with server := ℓ.server.epollMod e.fd false false }.leave e sid)
  | route (e : EpollEvent) : ℓ.main = .route e → LoopMoves ℓ .route (ℓ.routed e)
  | look (t : Task) : t ∈ ℓ.server.tasks → t.pc = .rearm → LoopMoves ℓ (.look t) { ℓ with
      server := ℓ.server.setPc t .finished
      masks := ⟨t.session, t.fd, ℓ.server.hasPendingMessages t.session⟩ :: ℓ.masks }
  | rearm (m : Mask) : m ∈ ℓ.masks → LoopMoves ℓ (.rearm m) { ℓ with
      server := ℓ.server.epollMod m.fd m.out true
      masks := ℓ.masks.erase m }

theorem moves_of_loopStep {ℓ ℓ' : Loop} {a : LoopAct} (h : loopStep ℓ a = some ℓ') :
    LoopMoves ℓ a ℓ' := by
  cases a with
  | act a =>
    obtain ⟨hallows, h⟩ := Option.ite_none_right_eq_some.mp h
    obtain ⟨s, hstep, h⟩ := Option.map_eq_some_iff.mp h
    rw [← h]
    exact .act a s hallows hstep
  | take =>
    simp only [loopStep] at h
    split at h
    · rename_i e rest hmain hbatch
      cases h
      exact .take e rest hmain hbatch
    · cases h
  | flush stillPending =>
    simp only [loopStep] at h
    split at h
    · rename_i e hmain
      cases hout : e.out with
      | true =>
        rw [hout, if_pos rfl] at h
        cases h
        exact .flush e stillPending hmain hout
      | false =>
        rw [hout, if_neg Bool.false_ne_true] at h
        cases h
        exact .skip e stillPending hmain hout
    · cases h
  | check =>
    simp only [loopStep] at h
    split at h
    · rename_i e sid hmain
      cases hpending : ℓ.server.hasPendingMessages sid with
      | true =>
        rw [hpending, if_pos rfl] at h
        cases h
        exact .keep e sid hmain hpending
      | false =>
        rw [hpending, if_neg Bool.false_ne_true] at h
        cases h
        exact .drain e sid hmain hpending
    · cases h
  | modify =>
    simp only [loopStep] at h
    split at h
    · rename_i e sid hmain
      cases h
      exact .modify e sid hmain
    · cases h
  | route =>
    simp only [loopStep] at h
    split at h
    · rename_i e hmain
      cases h
      exact .route e hmain
    · cases h
  | look t =>
    obtain ⟨ht, h⟩ := Option.ite_none_right_eq_some.mp h
    cases h
    exact .look t ht.1 ht.2
  | rearm m =>
    obtain ⟨hm, h⟩ := Option.ite_none_right_eq_some.mp h
    cases h
    exact .rearm m hm

theorem loopStep_act {ℓ : Loop} {a : Act} {s : Server} (hallows : ℓ.Allows a)
    (hstep : serverStep ℓ.server a = some s) : loopStep ℓ (.act a) = some { ℓ with server := s } := by
  simp only [loopStep]
  rw [if_pos hallows, hstep]
  rfl

/-! ## the coarse steps -/

section Coarse
variable {s s' : Server}

theorem epollMod_pinning (s : Server) (t : Task) (fd : Nat) (out oneshot : Bool) :
    (s.pinning t).epollMod fd out oneshot = (s.epollMod fd out oneshot).pinning t := by
  unfold Server.epollMod Server.pinning
  cases s.registration fd with
  | none => rfl
  | some r => rfl

/-- the pointer of the main thread is not the last one while the table has the session -/
theorem leave_pinning {e : EpollEvent} {sid : Nat} (hentry : s.clientSessions e.fd = some (some sid))
    (hliving : s.identity sid = some (e.fd, true)) (main : MainPc) :
    Loop.leave ⟨s.pinning ⟨sid, e.fd, .finished⟩, main, []⟩ e sid = ⟨s, .route e, []⟩ := by
  have hkept : s.release sid = s := by
    refine release_eq_self ?_
    intro fd alive hid
    rw [hliving] at hid
    cases hid
    exact hentry
  unfold Loop.leave Server.pinning
  simp only [List.erase_cons_head]
  rw [hkept]

/-- `pendingMessages` in steps -/
theorem coarse_pendingMessages (htidy : Tidy s) (e : EpollEvent) (stillPending : Bool) :
    ∃ acts, runFrom loopStep (Loop.tryPending ⟨s, .event e, []⟩ e stillPending) acts =
      some ⟨s.pendingMessages e.fd stillPending, .route e, []⟩ := by
  unfold Loop.tryPending Server.pendingMessages
  cases hentry : s.clientSessions e.fd with
  | none => exact ⟨[], rfl⟩
  | some entry =>
    cases entry with
    | none => exact ⟨[], rfl⟩
    | some sid =>
      have hq := quiet_setPending s sid fun pending => pending && stillPending
      dsimp only
      generalize s.setPending sid (fun pending => pending && stillPending) = s₁ at hq
      have hliving : s₁.identity sid = some (e.fd, true) := by
        rw [hq.identity]
        exact htidy.table e.fd sid hentry
      rw [← hq.clientSessions] at hentry
      have hpending : (s₁.pinning ⟨sid, e.fd, .finished⟩).hasPendingMessages sid =
        s₁.hasPendingMessages sid := rfl
      cases hqueued : s₁.hasPendingMessages sid with
      | true =>
        refine ⟨[.check], ?_⟩
        rw [runFrom_cons]
        simp only [loopStep, hpending, hqueued, if_true]
        rw [leave_pinning hentry hliving]
        rfl
      | false =>
        have hmod := quiet_epollMod s₁ e.fd false false
        refine ⟨[.check, .modify], ?_⟩
        have hcheck : loopStep ⟨s₁.pinning ⟨sid, e.fd, .finished⟩, .tried e sid, []⟩ .check =
            some ⟨s₁.pinning ⟨sid, e.fd, .finished⟩, .drained e sid, []⟩ := by
          simp only [loopStep, hpending, hqueued]
          rfl
        rw [runFrom_cons, hcheck, Option.bind_some, runFrom_cons]
        simp only [loopStep]
        rw [epollMod_pinning, leave_pinning]
        · rfl
        · rw [hmod.clientSessions]
          exact hentry
        · rw [hmod.identity]
          exact hliving

/-- the body of the loop in steps -/
theorem coarse_dispatch (htidy : Tidy s) (e : EpollEvent) (stillPending : Bool) :
    ∃ acts, runFrom loopStep ⟨s, .event e, []⟩ acts =
      some ⟨s.dispatch e stillPending, .idle, []⟩ := by
  have hflushed : ∃ acts, runFrom loopStep ⟨s, .event e, []⟩ acts =
      some ⟨s.flush e stillPending, .route e, []⟩ := by
    unfold Server.flush
    cases hout : e.out with
    | false =>
      refine ⟨[.flush stillPending], ?_⟩
      rw [runFrom_cons]
      simp only [loopStep, hout]
      rfl
    | true =>
      obtain ⟨acts, hacts⟩ := coarse_pendingMessages htidy e stillPending
      refine ⟨.flush stillPending :: acts, ?_⟩
      rw [runFrom_cons]
      simp only [loopStep, hout, if_true]
      exact hacts
  obtain ⟨acts, hacts⟩ := hflushed
  refine ⟨acts ++ [.route], ?_⟩
  rw [runFrom_append, hacts]
  rfl

/-- **A step of the server is a run of the steps here.** -/
theorem coarse_step (htidy : Tidy s) {a : Act} (hstep : serverStep s a = some s') :
    ∃ acts, runFrom loopStep ⟨s, .idle, []⟩ acts = some ⟨s', .idle, []⟩ := by
  have hact : Loop.Allows ⟨s, .idle, []⟩ a →
      ∃ acts, runFrom loopStep ⟨s, .idle, []⟩ acts = some ⟨s', .idle, []⟩ := by
    intro hallows
    refine ⟨[.act a], ?_⟩
    rw [runFrom_cons, loopStep_act hallows hstep]
    rfl
  cases a with
  | accept fd sid added blocked => exact hact rfl
  | wait events => exact hact rfl
  | start t => exact hact trivial
  | login t clientId => exact hact trivial
  | ran t continueSession blocked => exact hact trivial
  | unregister clientId => exact hact trivial
  | borrow clientId => exact hact trivial
  | giveBack sid => exact hact trivial
  | dispatch stillPending =>
    cases moves_of_step hstep with
    | dispatch e rest _ hbatch =>
      have hrest : Tidy { s with batch := rest } := ⟨htidy.table, htidy.tasks, htidy.active,
        htidy.borrowed, htidy.opened, htidy.numbers, htidy.erasing, htidy.closes⟩
      obtain ⟨acts, hacts⟩ := coarse_dispatch hrest e stillPending
      refine ⟨.take :: acts, ?_⟩
      have htake : loopStep ⟨s, .idle, []⟩ .take =
          some ⟨{ s with batch := rest }, .event e, []⟩ := by
        simp only [loopStep, hbatch]
      rw [runFrom_cons, htake]
      exact hacts
  | advance t =>
    obtain ⟨ht, hadv⟩ := Option.ite_none_right_eq_some.mp hstep
    by_cases hpc : t.pc = .rearm
    · refine ⟨[.look t, .rearm ⟨t.session, t.fd, s.hasPendingMessages t.session⟩], ?_⟩
      have hlook : loopStep ⟨s, .idle, []⟩ (.look t) = some ⟨s.setPc t .finished, .idle,
          [⟨t.session, t.fd, s.hasPendingMessages t.session⟩]⟩ := if_pos ⟨ht, hpc⟩
      rw [runFrom_cons, hlook]
      cases advances_of_advance hadv with
      | rearm _ =>
        show ((loopStep _ (.rearm _)).bind fun ℓ => runFrom loopStep ℓ []) = _
        simp only [loopStep, List.mem_singleton, if_true, List.erase_cons_head]
        rfl
      | del h => rw [hpc] at h; cases h
      | close h => rw [hpc] at h; cases h
      | erase h => rw [hpc] at h; cases h
      | finished h => rw [hpc] at h; cases h
    · exact hact ⟨hpc, List.count_pos_iff.mpr ht⟩

end Coarse

/-! ## the pointers -/

namespace Loop

structure Pinned (ℓ : Loop) : Prop where
  tidy : Tidy ℓ.server
  pinned : ∀ t, ℓ.pins.count t ≤ ℓ.server.tasks.count t

theorem pinned_start : Loop.start.Pinned := ⟨tidy_start, fun _ => le_rfl⟩

/-- `accept` returns no number of a session that is not destroyed -/
def Fresh (ℓ : Loop) (a : LoopAct) : Prop := ∀ act, a = .act act → FreshNumber ℓ.server act

section Pinned
variable {ℓ : Loop} {s s' : Server} {t : Task}

theorem pins_finished (h : t ∈ ℓ.pins) : t.pc = .finished := by
  rcases List.mem_append.mp h with h | h
  · cases hmain : ℓ.main with
    | idle =>
      rw [hmain] at h
      cases h
    | event e =>
      rw [hmain] at h
      cases h
    | route e =>
      rw [hmain] at h
      cases h
    | tried e sid =>
      rw [hmain] at h
      rw [List.mem_singleton.mp h]
    | drained e sid =>
      rw [hmain] at h
      rw [List.mem_singleton.mp h]
  · obtain ⟨m, -, rfl⟩ := List.mem_map.mp h
    rfl

theorem tasks_release (s : Server) (sid : Nat) : (s.release sid).tasks = s.tasks := by
  unfold Server.release
  split
  · rfl
  · split
    · rfl
    · rfl

theorem tasks_setActive (s : Server) (clientId : String) (entry : List (String × Nat)) :
    (s.setActive clientId entry).tasks = s.tasks := by
  unfold Server.setActive
  dsimp only
  split
  · rfl
  · exact tasks_release _ _

theorem tasks_releaseEntry (s : Server) (entry : Option (Option Nat)) :
    (s.releaseEntry entry).tasks = s.tasks := by
  unfold Server.releaseEntry
  split
  · exact tasks_release s _
  · rfl

/-- a task that goes on is no task that has done its work -/
theorem count_erase_finished {t₀ : Task} (hold : t₀.pc ≠ .finished) (hpc : t.pc = .finished) :
    (s.tasks.erase t₀).count t = s.tasks.count t := by
  refine List.count_erase_of_ne ?_
  rintro rfl
  exact hold hpc

theorem count_setPc {t₀ : Task} {pc : Pc} (hold : t₀.pc ≠ .finished) (hpc : t.pc = .finished) :
    s.tasks.count t ≤ (s.setPc t₀ pc).tasks.count t := by
  show _ ≤ (_ :: s.tasks.erase t₀).count t
  rw [← count_erase_finished hold hpc]
  exact List.count_le_count_cons

/-- a step destroys the task it is said to, and no other -/
theorem count_serverStep {a : Act} (hstep : serverStep s a = some s') (hpc : t.pc = .finished)
    (hne : a ≠ .advance t) : s.tasks.count t ≤ s'.tasks.count t := by
  cases moves_of_step hstep with
  | refused fd sid blocked => exact le_rfl
  | accept fd sid blocked hfree hnew =>
    unfold Server.handleTcpConnection
    rw [tasks_releaseEntry]
    exact le_rfl
  | wait events hbatch hnodup hdel => exact le_rfl
  | dispatch e rest stillPending hbatch =>
    cases hentry : Server.clientSessions { s with batch := rest } e.fd with
    | none =>
      rcases dispatch_absent hentry stillPending with heq | heq
      · rw [heq]
      · rw [heq]
    | some entry =>
      cases entry with
      | none => rw [dispatch_null hentry]
      | some sid =>
        rw [dispatch_session hentry]
        exact List.count_le_count_cons
  | start t₀ ht hpc₀ => exact count_setPc (by rw [hpc₀]; simp) hpc
  | login t₀ clientId ht => rw [tasks_setActive]
  | ran t₀ continueSession blocked ht hpc₀ => exact count_setPc (by rw [hpc₀]; simp) hpc
  | advance t₀ s' ht hadv =>
    cases advances_of_advance hadv with
    | del hpc₀ => exact count_setPc (by rw [hpc₀]; simp) hpc
    | close hpc₀ => exact count_setPc (by rw [hpc₀]; simp) hpc
    | erase hpc₀ =>
      rw [tasks_releaseEntry]
      exact count_setPc (by rw [hpc₀]; simp) hpc
    | rearm hpc₀ =>
      rw [(sameThreads_epollMod ..).tasks]
      exact count_setPc (by rw [hpc₀]; simp) hpc
    | finished hpc₀ =>
      rw [tasks_release]
      refine le_of_eq (List.count_erase_of_ne ?_).symm
      rintro rfl
      exact hne rfl
  | unregister clientId => rw [tasks_setActive]
  | borrow clientId sid hsid => exact le_rfl
  | giveBack sid hsid => rw [tasks_release]

theorem count_advance (hstep : serverStep s (.advance t) = some s') (hpc : t.pc = .finished) :
    s'.tasks.count t = s.tasks.count t - 1 := by
  obtain ⟨-, hadv⟩ := Option.ite_none_right_eq_some.mp hstep
  cases advances_of_advance hadv with
  | finished _ =>
    rw [tasks_release]
    exact List.count_erase_self
  | del h => rw [hpc] at h; cases h
  | close h => rw [hpc] at h; cases h
  | erase h => rw [hpc] at h; cases h
  | rearm h => rw [hpc] at h; cases h

theorem pinned_act (h : ∀ t, ℓ.pins.count t ≤ ℓ.server.tasks.count t) {a : Act}
    (hallows : ℓ.Allows a) (hstep : serverStep ℓ.server a = some s) (t : Task) :
    ℓ.pins.count t ≤ s.tasks.count t := by
  by_cases hmem : t ∈ ℓ.pins
  · have hpc := pins_finished hmem
    by_cases ha : a = .advance t
    · subst ha
      have hroom := hallows.2
      rw [count_advance hstep hpc]
      omega
    · exact (h t).trans (count_serverStep hstep hpc ha)
  · rw [List.count_eq_zero_of_not_mem hmem]
    exact Nat.zero_le _

theorem pinned_leave (h : ∀ t, ℓ.pins.count t ≤ ℓ.server.tasks.count t) {e : EpollEvent} {sid : Nat}
    (hmain : ℓ.main.pins = [⟨sid, e.fd, .finished⟩]) (t : Task) :
    (ℓ.leave e sid).pins.count t ≤ (ℓ.leave e sid).server.tasks.count t := by
  have hcount := h t
  unfold pins at hcount
  rw [hmain, List.singleton_append, List.count_cons] at hcount
  show (ℓ.masks.map Mask.task).count t ≤ (Server.release _ sid).tasks.count t
  rw [tasks_release]
  show _ ≤ (ℓ.server.tasks.erase ⟨sid, e.fd, .finished⟩).count t
  rw [List.count_erase]
  exact Nat.le_sub_of_add_le hcount

theorem count_pins_step (h : ∀ t, ℓ.pins.count t ≤ ℓ.server.tasks.count t) {a : LoopAct} {ℓ' : Loop}
    (hmoves : LoopMoves ℓ a ℓ') (t : Task) : ℓ'.pins.count t ≤ ℓ'.server.tasks.count t := by
  cases hmoves with
  | act a s hallows hstep => exact pinned_act h hallows hstep t
  | take e rest hmain hbatch =>
    have hcount := h t
    unfold pins at hcount ⊢
    rw [hmain] at hcount
    exact hcount
  | flush e stillPending hmain hout =>
    have hcount := h t
    unfold pins at hcount
    rw [hmain] at hcount
    unfold tryPending
    split
    · exact hcount
    · exact hcount
    · rename_i sid hentry
      show (⟨sid, e.fd, .finished⟩ :: ℓ.masks.map Mask.task).count t ≤
        (⟨sid, e.fd, .finished⟩ :: ℓ.server.tasks).count t
      rw [List.count_cons, List.count_cons]
      exact Nat.add_le_add_right hcount _
  | skip e stillPending hmain hout =>
    have hcount := h t
    unfold pins at hcount ⊢
    rw [hmain] at hcount
    exact hcount
  | keep e sid hmain hpending => exact pinned_leave h (by rw [hmain]; rfl) t
  | drain e sid hmain hpending =>
    have hcount := h t
    unfold pins at hcount ⊢
    rw [hmain] at hcount
    exact hcount
  | modify e sid hmain =>
    refine pinned_leave (fun t' => ?_) (by rw [hmain]; rfl) t
    show _ ≤ (ℓ.server.epollMod e.fd false false).tasks.count t'
    rw [(sameThreads_epollMod ..).tasks]
    exact h t'
  | route e hmain =>
    have hcount := h t
    unfold pins at hcount
    rw [hmain] at hcount
    refine hcount.trans ?_
    unfold routed Server.tcpHandling
    dsimp only
    split
    · split
      · exact le_rfl
      · exact le_rfl
      · exact List.count_le_count_cons
    · exact le_rfl
  | look t₀ ht hpc =>
    have hcount := h t
    unfold pins at hcount ⊢
    show (ℓ.main.pins ++ ⟨t₀.session, t₀.fd, .finished⟩ :: ℓ.masks.map Mask.task).count t ≤
      (⟨t₀.session, t₀.fd, .finished⟩ :: ℓ.server.tasks.erase t₀).count t
    by_cases hdone : t.pc = .finished
    · rw [List.count_append, List.count_cons, List.count_cons,
        count_erase_finished (by rw [hpc]; simp) hdone]
      rw [List.count_append] at hcount
      omega
    · refine (List.count_eq_zero_of_not_mem fun hmem => ?_).le.trans (Nat.zero_le _)
      rcases List.mem_append.mp hmem with hmem | hmem
      · exact hdone (pins_finished (ℓ := ℓ) (List.mem_append_left _ hmem))
      · rcases List.mem_cons.mp hmem with rfl | hmem
        · exact hdone rfl
        · exact hdone (pins_finished (ℓ := ℓ) (List.mem_append_right _ hmem))
  | rearm m hm =>
    have hcount := h t
    unfold pins at hcount ⊢
    show (ℓ.main.pins ++ (ℓ.masks.erase m).map Mask.task).count t ≤
      (ℓ.server.epollMod m.fd m.out true).tasks.count t
    rw [(sameThreads_epollMod ..).tasks]
    refine le_trans ?_ hcount
    exact (List.Sublist.append_left (List.erase_sublist.map _) _).count_le t

end Pinned

/-! ## the table -/

section Tidy
variable {ℓ ℓ' : Loop}

theorem Pinned.tried (h : ℓ.Pinned) {e : EpollEvent} {sid : Nat}
    (hmain : ℓ.main.pins = [⟨sid, e.fd, .finished⟩]) : ℓ.server.identity sid = some (e.fd, true) := by
  have hpos : 0 < ℓ.pins.count ⟨sid, e.fd, .finished⟩ := by
    refine List.count_pos_iff.mpr (List.mem_append_left _ ?_)
    rw [hmain]
    exact List.mem_singleton_self _
  exact h.tidy.tasks _ (List.count_pos_iff.mp (hpos.trans_le (h.pinned _)))

theorem tidy_leave (h : Tidy ℓ.server) {e : EpollEvent} {sid : Nat}
    (hliving : ℓ.server.identity sid = some (e.fd, true)) : Tidy (ℓ.leave e sid).server :=
  (h.dropTask _).release hliving

theorem tidy_epollMod {s : Server} (h : Tidy s) (fd : Nat) (out oneshot : Bool) :
    Tidy (s.epollMod fd out oneshot) := by
  have hsame := sameThreads_epollMod s fd out oneshot
  refine h.quiet (quiet_epollMod s fd out oneshot) ?_ hsame.activeSessions hsame.borrowed
  rw [hsame.tasks]
  exact fun t ht => ⟨h.tasks t ht, h.erasing t ht⟩

/-- a null entry for a number that has none -/
theorem tidy_null {s : Server} (h : Tidy s) {fd : Nat} (hentry : s.clientSessions fd = none) :
    Tidy { s with clientSessions := Function.update s.clientSessions fd (some none) } := by
  have hdispatch := h.dispatch ⟨fd, true⟩ false
  have heq : s.dispatch ⟨fd, true⟩ false =
      { s with clientSessions := Function.update s.clientSessions fd (some none) } := by
    unfold Server.dispatch Server.flush Server.pendingMessages
    simp only [hentry, if_true, Function.update_self, Option.isSome_some]
    unfold Server.tcpHandling
    simp only [Function.update_self]
  rw [heq] at hdispatch
  exact hdispatch

theorem Pinned.tidy_step (h : ℓ.Pinned) {a : LoopAct} (hmoves : LoopMoves ℓ a ℓ')
    (hfresh : ∀ act, a = .act act → FreshNumber ℓ.server act) : Tidy ℓ'.server := by
  have htidy := h.tidy
  cases hmoves with
  | act a s hallows hstep => exact Logistics.tidy_step htidy (hfresh a rfl) hstep
  | take e rest hmain hbatch =>
    exact ⟨htidy.table, htidy.tasks, htidy.active, htidy.borrowed, htidy.opened, htidy.numbers,
      htidy.erasing, htidy.closes⟩
  | flush e stillPending hmain hout =>
    unfold tryPending
    split
    · rename_i hentry
      exact tidy_null htidy hentry
    · exact htidy
    · rename_i sid hentry
      have hq := quiet_setPending ℓ.server sid fun pending => pending && stillPending
      refine htidy.quiet ⟨hq.owner, hq.clientSessions, hq.closes, hq.identity, hq.registered⟩ ?_
        rfl rfl
      intro t ht
      rcases List.mem_cons.mp ht with rfl | ht
      · exact ⟨htidy.table e.fd sid hentry, fun hpc => by cases hpc⟩
      · exact ⟨htidy.tasks t ht, htidy.erasing t ht⟩
  | skip e stillPending hmain hout => exact htidy
  | keep e sid hmain hpending => exact tidy_leave htidy (h.tried (by rw [hmain]; rfl))
  | drain e sid hmain hpending => exact htidy
  | modify e sid hmain =>
    refine tidy_leave (tidy_epollMod htidy e.fd false false) ?_
    rw [(quiet_epollMod ..).identity]
    exact h.tried (by rw [hmain]; rfl)
  | route e hmain =>
    unfold routed Server.tcpHandling
    dsimp only
    split
    · split
      · rename_i hentry
        exact tidy_null htidy hentry
      · exact htidy
      · rename_i sid hentry
        refine htidy.quiet ⟨rfl, rfl, rfl, rfl, fun _ h => h⟩ ?_ rfl rfl
        intro t ht
        rcases List.mem_cons.mp ht with rfl | ht
        · exact ⟨htidy.table e.fd sid hentry, fun hpc => by cases hpc⟩
        · exact ⟨htidy.tasks t ht, htidy.erasing t ht⟩
    · exact htidy
  | look t ht hpc => exact htidy.quiet (quiet_setPc _ t _) (htidy.setPc ht (by simp)) rfl rfl
  | rearm m hm => exact tidy_epollMod htidy m.fd m.out true

end Tidy

/-- **The pointers in use stay in use.** -/
theorem Pinned.step {ℓ ℓ' : Loop} {a : LoopAct} (h : ℓ.Pinned) (hfresh : ℓ.Fresh a)
    (hmoves : LoopMoves ℓ a ℓ') : ℓ'.Pinned :=
  ⟨h.tidy_step hmoves hfresh, count_pins_step h.pinned hmoves⟩

end Loop

end Logistics
