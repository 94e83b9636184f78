import Logistics.Server.Loop

/-!
# Whether a queued message is armed

A message that could not be written waits in `m_pendingMessages` until epoll reports the socket as
writable, which it does only for a registration with `EPOLLOUT`.  The mask is set in three places:
by `handleTcpConnection`, before the welcome message is written; by `pendingMessages`, on the main
thread; and by a worker at the end of its task.

* `Server.Spares`       a step leaves a descriptor alone;
* `Loop.Armed`          an open descriptor with nothing on its way is registered and enabled;
* `Loop.Strands`        a message is queued behind the last mask that was built;
* `pending_armed_iff`   **every open descriptor is armed exactly if no step strands one**.
-/

namespace Logistics
open Runs

/-! ## what a step spares -/

/-- nothing about the descriptor changes, but for more events and tasks -/
structure Server.Spares (s s' : Server) (fd : Nat) : Prop where
  owner : s'.owner fd = s.owner fd
  registration : s.owner fd ≠ none → s'.registration fd = s.registration fd
  pending : ∀ sid, s.owner fd = some sid → s'.hasPendingMessages sid = s.hasPendingMessages sid
  event : (∃ e ∈ s.batch, e.fd = fd) → ∃ e ∈ s'.batch, e.fd = fd
  task : (∃ t ∈ s.tasks, handles fd t = true) → ∃ t ∈ s'.tasks, handles fd t = true
  closing : (∃ t ∈ s.tasks, t.fd = fd ∧ t.pc = .close) → ∃ t ∈ s'.tasks, t.fd = fd ∧ t.pc = .close

namespace Server.Spares
variable {s s' s'' : Server} {fd : Nat}

theorem refl (s : Server) (fd : Nat) : s.Spares s fd :=
  ⟨rfl, fun _ => rfl, fun _ _ => rfl, id, id, id⟩

theorem trans (h : s.Spares s' fd) (h' : s'.Spares s'' fd) : s.Spares s'' fd where
  owner := h'.owner.trans h.owner
  registration hopen := (h'.registration (by rw [h.owner]; exact hopen)).trans (h.registration hopen)
  pending sid howner := (h'.pending sid (h.owner.trans howner)).trans (h.pending sid howner)
  event := h'.event ∘ h.event
  task := h'.task ∘ h.task
  closing := h'.closing ∘ h.closing

end Server.Spares

section Spared
variable {s : Server} {fd : Nat}

theorem handles_iff {t : Task} : handles fd t = true ↔ t.fd = fd ∧ t.pc ≠ .finished := by
  unfold handles
  exact decide_eq_true_iff

theorem spares_setPc {t : Task} {pc : Pc} (hold : fd = t.fd → t.pc ≠ .close)
    (hnew : fd = t.fd → pc ≠ .finished) : s.Spares (s.setPc t pc) fd := by
  refine ⟨rfl, fun _ => rfl, fun _ _ => rfl, id, ?_, ?_⟩
  · rintro ⟨t', ht', hhandles⟩
    by_cases heq : t' = t
    · subst heq
      have hfd := (handles_iff.mp hhandles).1
      exact ⟨_, List.mem_cons_self, handles_iff.mpr ⟨hfd, hnew hfd.symm⟩⟩
    · exact ⟨t', List.mem_cons_of_mem _ ((List.mem_erase_of_ne heq).mpr ht'), hhandles⟩
  · rintro ⟨t', ht', hfd, hpc⟩
    have heq : t' ≠ t := by
      rintro rfl
      exact hold hfd.symm hpc
    exact ⟨t', List.mem_cons_of_mem _ ((List.mem_erase_of_ne heq).mpr ht'), hfd, hpc⟩

/-- the queue of another session -/
theorem spares_setPending (htidy : Tidy s) {sid fd' : Nat} (hliving : s.identity sid = some (fd', true))
    (hne : fd ≠ fd') (f : Bool → Bool) : s.Spares (s.setPending sid f) fd := by
  refine ⟨rfl, fun _ => rfl, ?_, id, id, id⟩
  intro sid' howner
  have hsid : sid' ≠ sid := by
    rintro rfl
    have hid := htidy.table fd sid' (htidy.opened fd sid' howner)
    rw [hliving] at hid
    cases hid
    exact hne rfl
  unfold Server.hasPendingMessages
  show (Function.update s.objects sid _ sid').any _ = _
  rw [Function.update_of_ne hsid]

theorem spares_epollMod {fd' : Nat} (hne : fd ≠ fd') (out oneshot : Bool) :
    s.Spares (s.epollMod fd' out oneshot) fd := by
  unfold Server.epollMod
  split
  · exact .refl s fd
  · exact ⟨rfl, fun _ => Function.update_of_ne hne .., fun _ _ => rfl, id, id, id⟩

/-- the destructor of a session finds its number closed already -/
theorem spares_release (htidy : Tidy s) {sid fd' : Nat} (hliving : s.identity sid = some (fd', true)) :
    s.Spares (s.release sid) fd := by
  obtain ⟨pending, ho⟩ := Server.identity_eq.mp hliving
  unfold Server.release
  rw [ho]
  dsimp only
  split
  · exact .refl s fd
  · rename_i hnot
    have hfree := htidy.owner_of_not_held hliving hnot
    refine ⟨?_, ?_, ?_, id, id, id⟩
    · show Function.update s.owner fd' none fd = s.owner fd
      by_cases hfd : fd = fd'
      · rw [hfd, Function.update_self, hfree]
      · rw [Function.update_of_ne hfd]
    · intro hopen
      have hfd : fd ≠ fd' := by
        rintro rfl
        exact hopen hfree
      exact Function.update_of_ne hfd ..
    · intro sid' _
      unfold Server.hasPendingMessages
      show (Function.update s.objects sid _ sid').any _ = _
      by_cases hsid : sid' = sid
      · rw [hsid, Function.update_self, ho]
        rfl
      · rw [Function.update_of_ne hsid]

theorem spares_setActive (htidy : Tidy s) (clientId : String) {entry : List (String × Nat)}
    (hentry : ∀ e ∈ entry, ∃ fd, s.identity e.2 = some (fd, true)) :
    s.Spares (s.setActive clientId entry) fd := by
  have hset : s.Spares { s with
      activeSessions := entry ++ s.activeSessions.filter fun e => e.1 ≠ clientId } fd :=
    ⟨rfl, fun _ => rfl, fun _ _ => rfl, id, id, id⟩
  have htidy' := htidy.withActive clientId hentry
  unfold Server.setActive
  dsimp only
  cases hold : s.activeSessions.lookup clientId with
  | none => exact hset
  | some old =>
    obtain ⟨fd', hliving⟩ := htidy.active (clientId, old) (mem_of_lookup hold)
    exact hset.trans (spares_release htidy' hliving)

/-- a task that has done its work is destroyed -/
theorem spares_dropTask {t : Task} (hpc : t.pc = .finished) :
    s.Spares { s with tasks := s.tasks.erase t } fd := by
  refine ⟨rfl, fun _ => rfl, fun _ _ => rfl, id, ?_, ?_⟩
  · rintro ⟨t', ht', hhandles⟩
    have heq : t' ≠ t := by
      rintro rfl
      exact (handles_iff.mp hhandles).2 hpc
    exact ⟨t', (List.mem_erase_of_ne heq).mpr ht', hhandles⟩
  · rintro ⟨t', ht', hfd, hclose⟩
    have heq : t' ≠ t := by
      rintro rfl
      rw [hpc] at hclose
      cases hclose
    exact ⟨t', (List.mem_erase_of_ne heq).mpr ht', hfd, hclose⟩

end Spared

/-! ## the invariant -/

namespace Loop

/-- an event, a task or a mask for the descriptor is on its way -/
def UnderWay (ℓ : Loop) (fd : Nat) : Prop :=
  (∃ e ∈ ℓ.server.batch, e.fd = fd) ∨ ℓ.main.fd = some fd ∨
    (∃ t ∈ ℓ.server.tasks, handles fd t = true) ∨ ∃ m ∈ ℓ.masks, m.fd = fd

/-- every open descriptor with nothing on its way is registered and enabled, and for `EPOLLOUT` if a
message of its session is queued -/
def Armed (ℓ : Loop) : Prop :=
  ∀ fd sid, ℓ.server.owner fd = some sid → ¬ ℓ.UnderWay fd →
    ∃ r, ℓ.server.registration fd = some r ∧ r.enabled = true ∧
      (ℓ.server.hasPendingMessages sid = true → r.out = true)

/-- in `epoll_wait`, what is on its way is a task -/
theorem Armed.waiting {ℓ : Loop} (h : ℓ.Armed) (hmain : ℓ.main = .idle) (hbatch : ℓ.server.batch = [])
    {fd sid : Nat} (howner : ℓ.server.owner fd = some sid)
    (htasks : ∀ t ∈ ℓ.server.tasks, handles fd t = false) (hmasks : ∀ m ∈ ℓ.masks, m.fd ≠ fd) :
    ∃ r, ℓ.server.registration fd = some r ∧ r.enabled = true ∧
      (ℓ.server.hasPendingMessages sid = true → r.out = true) := by
  refine h fd sid howner ?_
  rintro (⟨e, he, -⟩ | hfd | ⟨t, ht, hhandles⟩ | ⟨m, hm, hfd⟩)
  · rw [hbatch] at he
    cases he
  · rw [hmain] at hfd
    cases hfd
  · rw [htasks t ht] at hhandles
    cases hhandles
  · exact hmasks m hm hfd

/-- the invariant for one descriptor: one that is open is registered until its clean-up -/
structure Ready (ℓ : Loop) (fd : Nat) : Prop where
  registered : ∀ sid, ℓ.server.owner fd = some sid → ℓ.server.registration fd = none →
    ∃ t ∈ ℓ.server.tasks, t.fd = fd ∧ t.pc = .close
  armed : ∀ sid, ℓ.server.owner fd = some sid → ¬ ℓ.UnderWay fd →
    ∃ r, ℓ.server.registration fd = some r ∧ r.enabled = true ∧
      (ℓ.server.hasPendingMessages sid = true → r.out = true)

structure Sound (ℓ : Loop) : Prop extends ℓ.Pinned where
  ready : ∀ fd, ℓ.Ready fd

namespace Ready
variable {ℓ ℓ' : Loop} {fd : Nat}

theorem of_closed (h : ℓ.server.owner fd = none) : ℓ.Ready fd := by
  constructor
  · intro sid howner
    rw [h] at howner
    cases howner
  · intro sid howner
    rw [h] at howner
    cases howner

/-- a step after which something is on its way for the descriptor -/
theorem underWay (h : ℓ.Ready fd) (hway : ℓ'.UnderWay fd)
    (howner : ℓ'.server.owner fd = ℓ.server.owner fd)
    (hreg : ℓ'.server.registration fd = none → ℓ.server.registration fd = none)
    (hclosing : (∃ t ∈ ℓ.server.tasks, t.fd = fd ∧ t.pc = .close) →
      ∃ t ∈ ℓ'.server.tasks, t.fd = fd ∧ t.pc = .close) : ℓ'.Ready fd where
  registered sid hopen hnone := hclosing (h.registered sid (howner.symm.trans hopen) (hreg hnone))
  armed _ _ hno := absurd hway hno

theorem spared (h : ℓ.Ready fd) (hs : ℓ.server.Spares ℓ'.server fd)
    (hmain : ℓ.main.fd = some fd → ℓ'.UnderWay fd)
    (hmasks : (∃ m ∈ ℓ.masks, m.fd = fd) → ℓ'.UnderWay fd) : ℓ'.Ready fd := by
  have hopen : ∀ sid, ℓ'.server.owner fd = some sid → ℓ.server.owner fd = some sid := by
    intro sid howner
    rw [← hs.owner]
    exact howner
  have hsame : ∀ sid, ℓ'.server.owner fd = some sid →
      ℓ'.server.registration fd = ℓ.server.registration fd := by
    intro sid howner
    refine hs.registration ?_
    rw [hopen sid howner]
    exact Option.some_ne_none sid
  constructor
  · intro sid howner hnone
    rw [hsame sid howner] at hnone
    exact hs.closing (h.registered sid (hopen sid howner) hnone)
  · intro sid howner hno
    have hbefore : ¬ ℓ.UnderWay fd := by
      rintro (hevent | hfd | htask | hmask)
      · exact hno (.inl (hs.event hevent))
      · exact hno (hmain hfd)
      · exact hno (.inr (.inr (.inl (hs.task htask))))
      · exact hno (hmasks hmask)
    rw [hsame sid howner, hs.pending sid (hopen sid howner)]
    exact h.armed sid (hopen sid howner) hbefore

/-- a step of the server beside the main thread and the masks -/
theorem spared_act (h : ℓ.Ready fd) {s : Server} (hs : ℓ.server.Spares s fd) :
    { ℓ with server := s }.Ready fd :=
  h.spared hs (fun hfd => .inr (.inl hfd)) (fun hmask => .inr (.inr (.inr hmask)))

end Ready

theorem sound_start : Loop.start.Sound := ⟨pinned_start, fun _ => .of_closed rfl⟩

/-! ## steps of the server -/

/-- the step leaves a queued message with a registration that does not report the socket as writable:
the welcome message of a new connection is blocked, or a worker sets a mask that it built before a
message was queued, and nothing else for the descriptor is on its way -/
inductive Strands (ℓ : Loop) : LoopAct → Prop
  | welcome (fd sid : Nat) : ℓ.main = .idle → ℓ.server.owner fd = none →
      ℓ.server.objects sid = none → ¬ ℓ.UnderWay fd → Strands ℓ (.act (.accept fd sid true true))
  | stale (m : Mask) (sid : Nat) : m ∈ ℓ.masks → m.out = false → ℓ.server.owner m.fd = some sid →
      ℓ.server.hasPendingMessages sid = true →
      ¬ { ℓ with masks := ℓ.masks.erase m }.UnderWay m.fd → Strands ℓ (.rearm m)

section Server
variable {ℓ : Loop} {s : Server} {fd : Nat}

theorem ready_accept (h : ℓ.Sound) {fd₀ sid : Nat} {blocked : Bool} (hmain : ℓ.main = .idle)
    (hfree : ℓ.server.owner fd₀ = none) (hnew : ℓ.server.objects sid = none)
    (hno : ¬ ℓ.Strands (.act (.accept fd₀ sid true blocked))) :
    { ℓ with server := ℓ.server.accepted fd₀ sid blocked }.Ready fd := by
  by_cases hfd : fd = fd₀
  · subst hfd
    have hreg : (ℓ.server.accepted fd sid blocked).registration fd = some ⟨false, true, true⟩ :=
      Function.update_self ..
    have howner : (ℓ.server.accepted fd sid blocked).owner fd = some sid := Function.update_self ..
    have hpending : (ℓ.server.accepted fd sid blocked).hasPendingMessages sid = blocked := by
      unfold Server.hasPendingMessages
      show (Function.update ℓ.server.objects sid _ sid).any _ = _
      rw [Function.update_self]
      rfl
    constructor
    · intro sid' _ hnone
      cases hreg.symm.trans hnone
    · intro sid' hopen hway
      obtain rfl : sid' = sid := Option.some.inj (hopen.symm.trans howner)
      refine ⟨_, hreg, rfl, ?_⟩
      intro hqueued
      rw [show blocked = true from hpending.symm.trans hqueued] at hno
      exact absurd (.welcome fd sid' hmain hfree hnew hway) hno
  · refine (h.ready fd).spared_act ⟨Function.update_of_ne hfd .., fun _ =>
      Function.update_of_ne hfd .., ?_, id, id, id⟩
    intro sid' howner
    -- the new session has a number of its own
    have hsid : sid' ≠ sid := by
      rintro rfl
      have hid := h.tidy.table fd sid' (h.tidy.opened fd sid' howner)
      unfold Server.identity at hid
      rw [hnew] at hid
      cases hid
    unfold Server.hasPendingMessages
    show (Function.update ℓ.server.objects sid _ sid').any _ = _
    rw [Function.update_of_ne hsid]

theorem ready_wait (h : ℓ.Ready fd) {events : List EpollEvent} (hbatch : ℓ.server.batch = []) :
    { ℓ with server := ℓ.server.deliver events }.Ready fd := by
  by_cases hfd : fd ∈ events.map EpollEvent.fd
  · refine h.underWay (.inl (List.mem_map.mp hfd)) rfl ?_ id
    intro hnone
    have hnone : (if fd ∈ events.map EpollEvent.fd then
      (ℓ.server.registration fd).map Registration.delivered
      else ℓ.server.registration fd) = none := hnone
    rw [if_pos hfd] at hnone
    exact Option.map_eq_none_iff.mp hnone
  · refine h.spared_act ⟨rfl, fun _ => if_neg hfd, fun _ _ => rfl, ?_, id, id⟩
    rintro ⟨e, he, -⟩
    rw [hbatch] at he
    cases he

theorem ready_ran (h : ℓ.Sound) {t : Task} {continueSession blocked : Bool} (ht : t ∈ ℓ.server.tasks)
    (hpc : t.pc = .running) :
    { ℓ with server := ℓ.server.ran t continueSession blocked }.Ready fd := by
  have hset : ℓ.server.Spares
      (ℓ.server.setPc t (if continueSession = true then .rearm else .del)) fd := by
    refine spares_setPc (fun _ => ?_) (fun _ => ?_)
    · rw [hpc]
      simp
    · cases continueSession <;> simp
  by_cases hfd : fd = t.fd
  · refine (h.ready fd).underWay (.inr (.inr (.inl ⟨_, List.mem_cons_self, ?_⟩))) rfl id hset.closing
    refine handles_iff.mpr ⟨hfd.symm, ?_⟩
    cases continueSession <;> simp
  · have htidy := h.tidy.quiet
      (quiet_setPc ℓ.server t (if continueSession = true then .rearm else .del))
      (h.tidy.setPc ht (by cases continueSession <;> simp)) rfl rfl
    exact (h.ready fd).spared_act (hset.trans (spares_setPending htidy (h.tidy.tasks t ht) hfd _))

theorem ready_del (h : ℓ.Ready fd) {t : Task} (hpc : t.pc = .del) :
    { ℓ with server := { ℓ.server.setPc t .close with
      registration := Function.update ℓ.server.registration t.fd none } }.Ready fd := by
  have hset : ℓ.server.Spares (ℓ.server.setPc t .close) fd :=
    spares_setPc (fun _ => by rw [hpc]; simp) (fun _ => by simp)
  by_cases hfd : fd = t.fd
  · constructor
    · intro sid _ _
      exact ⟨_, List.mem_cons_self, hfd.symm, rfl⟩
    · intro sid _ hway
      refine absurd (.inr (.inr (.inl ⟨_, List.mem_cons_self, ?_⟩))) hway
      exact handles_iff.mpr ⟨hfd.symm, by simp⟩
  · exact h.spared_act ⟨rfl, fun _ => Function.update_of_ne hfd .., fun _ _ => rfl, id, hset.task,
      hset.closing⟩

theorem ready_close (h : ℓ.Ready fd) {t : Task} :
    { ℓ with server := (ℓ.server.setPc t .erase).closeFd t.fd t.session }.Ready fd := by
  by_cases hfd : fd = t.fd
  · refine .of_closed ?_
    rw [hfd]
    exact Function.update_self ..
  · have hset : ℓ.server.Spares (ℓ.server.setPc t .erase) fd :=
      spares_setPc (fun heq => absurd heq hfd) (fun heq => absurd heq hfd)
    exact h.spared_act ⟨Function.update_of_ne hfd .., fun _ => Function.update_of_ne hfd ..,
      fun _ _ => rfl, id, hset.task, hset.closing⟩

theorem ready_erase (h : ℓ.Sound) {t : Task} (ht : t ∈ ℓ.server.tasks) (hpc : t.pc = .erase) :
    Loop.Ready { ℓ with
      server := Server.releaseEntry
        { ℓ.server.setPc t .finished with
          clientSessions := Function.update ℓ.server.clientSessions t.fd none }
        (ℓ.server.clientSessions t.fd) } fd := by
  have htidy := h.tidy.erased ht hpc
  have hrelease : Server.Spares { ℓ.server.setPc t .finished with
      clientSessions := Function.update ℓ.server.clientSessions t.fd none }
      (Server.releaseEntry { ℓ.server.setPc t .finished with
        clientSessions := Function.update ℓ.server.clientSessions t.fd none }
        (ℓ.server.clientSessions t.fd)) fd := by
    cases hentry : ℓ.server.clientSessions t.fd with
    | none => exact .refl _ fd
    | some entry =>
      cases entry with
      | none => exact .refl _ fd
      | some sid => exact spares_release htidy (h.tidy.table t.fd sid hentry)
  by_cases hfd : fd = t.fd
  · refine .of_closed (hrelease.owner.trans ?_)
    rw [hfd]
    exact h.tidy.erasing t ht hpc
  · have hset : ℓ.server.Spares (ℓ.server.setPc t .finished) fd :=
      spares_setPc (fun heq => absurd heq hfd) (fun heq => absurd heq hfd)
    have herased : ℓ.server.Spares { ℓ.server.setPc t .finished with
        clientSessions := Function.update ℓ.server.clientSessions t.fd none } fd :=
      ⟨rfl, fun _ => rfl, fun _ _ => rfl, id, hset.task, hset.closing⟩
    exact (h.ready fd).spared_act (herased.trans hrelease)

theorem ready_act (h : ℓ.Sound) {a : Act} (hallows : ℓ.Allows a)
    (hfresh : FreshNumber ℓ.server a) (hno : ¬ ℓ.Strands (.act a))
    (hstep : serverStep ℓ.server a = some s) : { ℓ with server := s }.Ready fd := by
  have htidy := h.tidy
  have hready := h.ready fd
  cases moves_of_step hstep with
  | refused fd₀ sid blocked => exact hready
  | accept fd₀ sid blocked hfree hnew =>
    rw [htidy.handleTcpConnection_eq hfresh]
    exact ready_accept h hallows hfree hnew hno
  | wait events hbatch hnodup hdel => exact ready_wait hready hbatch
  | dispatch e rest stillPending hbatch => exact hallows.elim
  | start t ht hpc =>
    exact hready.spared_act (spares_setPc (fun _ => by rw [hpc]; simp) (fun _ => by simp))
  | login t clientId ht =>
    refine hready.spared_act (spares_setActive htidy clientId ?_)
    exact List.forall_mem_singleton.mpr ⟨t.fd, htidy.tasks t ht⟩
  | ran t continueSession blocked ht hpc => exact ready_ran h ht hpc
  | advance t s' ht hadv =>
    cases advances_of_advance hadv with
    | del hpc => exact ready_del hready hpc
    | close hpc => exact ready_close hready
    | erase hpc => exact ready_erase h ht hpc
    | rearm hpc => exact absurd hpc hallows.1
    | finished hpc =>
      exact hready.spared_act
        ((spares_dropTask hpc).trans (spares_release (htidy.dropTask t) (htidy.tasks t ht)))
  | unregister clientId =>
    exact hready.spared_act (spares_setActive htidy clientId fun e he => absurd he List.not_mem_nil)
  | borrow clientId sid hsid =>
    exact hready.spared_act ⟨rfl, fun _ => rfl, fun _ _ => rfl, id, id, id⟩
  | giveBack sid hsid =>
    obtain ⟨fd', hliving⟩ := htidy.borrowed sid hsid
    have hdrop : ℓ.server.Spares { ℓ.server with borrowed := ℓ.server.borrowed.erase sid } fd :=
      ⟨rfl, fun _ => rfl, fun _ _ => rfl, id, id, id⟩
    exact hready.spared_act (hdrop.trans (spares_release (htidy.dropBorrowed sid) hliving))

end Server

/-! ## steps of the main thread and of the masks -/

section Main
variable {ℓ ℓ' : Loop} {fd : Nat} {e : EpollEvent} {sid : Nat}

/-- the main thread goes on at the same event -/
theorem Ready.stays (h : ℓ.Ready fd) (hs : ℓ.server.Spares ℓ'.server fd)
    (hmain : ℓ'.main.fd = ℓ.main.fd) (hmasks : ℓ'.masks = ℓ.masks) : ℓ'.Ready fd := by
  refine h.spared hs (fun hfd => .inr (.inl (hmain.trans hfd))) ?_
  rw [← hmasks]
  exact fun hmask => .inr (.inr (.inr hmask))

theorem ready_leave (h : ℓ.Ready fd) (htidy : Tidy ℓ.server)
    (hliving : ℓ.server.identity sid = some (e.fd, true)) (hmain : ℓ.main.fd = some e.fd) :
    (ℓ.leave e sid).Ready fd := by
  refine h.stays ?_ hmain.symm rfl
  exact (spares_dropTask rfl).trans (spares_release (htidy.dropTask _) hliving)

theorem ready_flush (h : ℓ.Sound) {stillPending : Bool} (hmain : ℓ.main = .event e) :
    (ℓ.tryPending e stillPending).Ready fd := by
  have hready := h.ready fd
  unfold tryPending
  split
  · exact hready.stays ⟨rfl, fun _ => rfl, fun _ _ => rfl, id, id, id⟩ (by rw [hmain]; rfl) rfl
  · exact hready.stays (.refl _ fd) (by rw [hmain]; rfl) rfl
  · rename_i sid hentry
    have hmore : ∀ P : Task → Prop, (∃ t ∈ ℓ.server.tasks, P t) →
        ∃ t ∈ (⟨sid, e.fd, .finished⟩ :: ℓ.server.tasks : List Task), P t := by
      rintro P ⟨t, ht, hP⟩
      exact ⟨t, List.mem_cons_of_mem _ ht, hP⟩
    by_cases hfd : fd = e.fd
    · exact hready.underWay (.inr (.inl (congrArg some hfd.symm))) rfl id (hmore _)
    · have hset := spares_setPending h.tidy (h.tidy.table e.fd sid hentry) hfd
        fun pending => pending && stillPending
      exact hready.stays ⟨hset.owner, hset.registration, hset.pending, hset.event, hmore _, hmore _⟩
        (by rw [hmain]; rfl) rfl

theorem ready_modify (h : ℓ.Sound) (hmain : ℓ.main = .drained e sid) :
    ({ ℓ with server := ℓ.server.epollMod e.fd false false }.leave e sid).Ready fd := by
  have hat : ℓ.main.fd = some e.fd := by
    rw [hmain]
    rfl
  refine ready_leave ?_ (tidy_epollMod h.tidy e.fd false false) ?_ hat
  · by_cases hfd : fd = e.fd
    · refine (h.ready fd).underWay (.inr (.inl (hat.trans (congrArg some hfd.symm)))) ?_ ?_ ?_
      · rw [(quiet_epollMod ..).owner]
      · intro hnone
        by_contra hsome
        exact (registered_epollMod ℓ.server e.fd false false fd).mpr hsome hnone
      · rw [(sameThreads_epollMod ..).tasks]
        exact id
    · exact (h.ready fd).stays (spares_epollMod hfd false false) rfl rfl
  · rw [(quiet_epollMod ..).identity]
    exact h.tried (by rw [hmain]; rfl)

theorem ready_route (h : ℓ.Sound) (hmain : ℓ.main = .route e) : (ℓ.routed e).Ready fd := by
  have hready := h.ready fd
  have hleft : fd ≠ e.fd → ℓ.main.fd = some fd → (ℓ.routed e).UnderWay fd := by
    intro hfd hat
    rw [hmain] at hat
    exact absurd (Option.some.inj hat).symm hfd
  have hmask : (∃ m ∈ ℓ.masks, m.fd = fd) → (ℓ.routed e).UnderWay fd :=
    fun hmask => .inr (.inr (.inr hmask))
  by_cases hfd : fd = e.fd
  · subst hfd
    cases howner : ℓ.server.owner e.fd with
    | none =>
      refine .of_closed (Eq.trans ?_ howner)
      unfold routed Server.tcpHandling
      dsimp only
      split
      · split
        · rfl
        · rfl
        · rfl
      · rfl
    | some sid =>
      have hentry := h.tidy.opened e.fd sid howner
      have heq : (ℓ.routed e).server =
          { ℓ.server with tasks := ⟨sid, e.fd, .queued⟩ :: ℓ.server.tasks } := by
        unfold routed Server.tcpHandling
        rw [hentry]
        rfl
      refine hready.underWay (.inr (.inr (.inl ⟨⟨sid, e.fd, .queued⟩, ?_, ?_⟩))) ?_ ?_ ?_
      · rw [heq]
        exact List.mem_cons_self
      · exact handles_iff.mpr ⟨rfl, by simp⟩
      · rw [heq]
      · rw [heq]
        exact id
      · rw [heq]
        rintro ⟨t, ht, hclose⟩
        exact ⟨t, List.mem_cons_of_mem _ ht, hclose⟩
  · refine hready.spared ?_ (hleft hfd) hmask
    unfold routed Server.tcpHandling
    dsimp only
    split
    · split
      · exact ⟨rfl, fun _ => rfl, fun _ _ => rfl, id, id, id⟩
      · exact .refl _ fd
      · refine ⟨rfl, fun _ => rfl, fun _ _ => rfl, id, ?_, ?_⟩
        · rintro ⟨t, ht, hP⟩
          exact ⟨t, List.mem_cons_of_mem _ ht, hP⟩
        · rintro ⟨t, ht, hP⟩
          exact ⟨t, List.mem_cons_of_mem _ ht, hP⟩
    · exact .refl _ fd

theorem ready_look (h : ℓ.Ready fd) {t : Task} (hpc : t.pc = .rearm) :
    Loop.Ready { ℓ with
      server := ℓ.server.setPc t .finished
      masks := ⟨t.session, t.fd, ℓ.server.hasPendingMessages t.session⟩ :: ℓ.masks } fd := by
  by_cases hfd : fd = t.fd
  · refine h.underWay (.inr (.inr (.inr ⟨_, List.mem_cons_self, hfd.symm⟩))) rfl id ?_
    rintro ⟨t', ht', hfd', hclose⟩
    have heq : t' ≠ t := by
      rintro rfl
      rw [hpc] at hclose
      cases hclose
    exact ⟨t', List.mem_cons_of_mem _ ((List.mem_erase_of_ne heq).mpr ht'), hfd', hclose⟩
  · refine h.spared (spares_setPc (fun heq => absurd heq hfd) (fun heq => absurd heq hfd))
      (fun hat => .inr (.inl hat)) ?_
    rintro ⟨m, hm, hmfd⟩
    exact .inr (.inr (.inr ⟨m, List.mem_cons_of_mem _ hm, hmfd⟩))

theorem registration_epollMod {s : Server} {out oneshot : Bool} (h : s.registration fd ≠ none) :
    (s.epollMod fd out oneshot).registration fd = some ⟨out, oneshot, true⟩ := by
  unfold Server.epollMod
  split
  · rename_i hnone
    exact absurd hnone h
  · exact Function.update_self ..

theorem hasPendingMessages_epollMod (s : Server) (fd : Nat) (out oneshot : Bool) (sid : Nat) :
    (s.epollMod fd out oneshot).hasPendingMessages sid = s.hasPendingMessages sid := by
  unfold Server.epollMod
  split
  · rfl
  · rfl

theorem ready_rearm (h : ℓ.Ready fd) {m : Mask} (hm : m ∈ ℓ.masks) (hno : ¬ ℓ.Strands (.rearm m)) :
    Loop.Ready { ℓ with
      server := ℓ.server.epollMod m.fd m.out true
      masks := ℓ.masks.erase m } fd := by
  have hsame := sameThreads_epollMod ℓ.server m.fd m.out true
  have hquiet := quiet_epollMod ℓ.server m.fd m.out true
  by_cases hfd : fd = m.fd
  · subst hfd
    constructor
    · intro sid howner hnone
      rw [hquiet.owner] at howner
      rw [hsame.tasks]
      refine h.registered sid howner ?_
      by_contra hsome
      exact (registered_epollMod ℓ.server m.fd m.out true m.fd).mpr hsome hnone
    · intro sid howner hway
      rw [hquiet.owner] at howner
      have hbare : ¬ Loop.UnderWay { ℓ with masks := ℓ.masks.erase m } m.fd := by
        intro hbare
        refine hway ?_
        unfold UnderWay at hbare ⊢
        rw [hsame.batch, hsame.tasks]
        exact hbare
      have hregistered : ℓ.server.registration m.fd ≠ none := by
        intro hnone
        obtain ⟨t, ht, htfd, hclose⟩ := h.registered sid howner hnone
        refine hbare (.inr (.inr (.inl ⟨t, ht, handles_iff.mpr ⟨htfd, ?_⟩⟩)))
        rw [hclose]
        simp
      refine ⟨_, registration_epollMod hregistered, rfl, ?_⟩
      rw [hasPendingMessages_epollMod]
      intro hpending
      by_contra hout
      exact hno (.stale m sid hm (Bool.eq_false_of_not_eq_true hout) howner hpending hbare)
  · refine h.spared (spares_epollMod hfd m.out true) (fun hat => .inr (.inl hat)) ?_
    rintro ⟨m', hm', hm'fd⟩
    have heq : m' ≠ m := by
      rintro rfl
      exact hfd hm'fd.symm
    exact .inr (.inr (.inr ⟨m', (List.mem_erase_of_ne heq).mpr hm', hm'fd⟩))

/-- **A step that strands no descriptor keeps every one ready.** -/
theorem ready_step (h : ℓ.Sound) {a : LoopAct} (hmoves : LoopMoves ℓ a ℓ')
    (hfresh : ∀ act, a = .act act → FreshNumber ℓ.server act) (hno : ¬ ℓ.Strands a) :
    ℓ'.Ready fd := by
  have hready := h.ready fd
  cases hmoves with
  | act a s hallows hstep => exact ready_act h hallows (hfresh a rfl) hno hstep
  | take e rest hmain hbatch =>
    by_cases hfd : fd = e.fd
    · exact hready.underWay (.inr (.inl (congrArg some hfd.symm))) rfl id id
    · refine hready.spared ⟨rfl, fun _ => rfl, fun _ _ => rfl, ?_, id, id⟩ ?_
        (fun hmask => .inr (.inr (.inr hmask)))
      · rintro ⟨e', he', he'fd⟩
        rw [hbatch] at he'
        rcases List.mem_cons.mp he' with rfl | he'
        · exact absurd he'fd.symm hfd
        · exact ⟨e', he', he'fd⟩
      · rw [hmain]
        intro hat
        cases hat
  | flush e stillPending hmain hout => exact ready_flush h hmain
  | skip e stillPending hmain hout => exact hready.stays (.refl _ fd) (by rw [hmain]; rfl) rfl
  | keep e sid hmain hpending =>
    exact ready_leave hready h.tidy (h.tried (by rw [hmain]; rfl)) (by rw [hmain]; rfl)
  | drain e sid hmain hpending => exact hready.stays (.refl _ fd) (by rw [hmain]; rfl) rfl
  | modify e sid hmain => exact ready_modify h hmain
  | route e hmain => exact ready_route h hmain
  | look t ht hpc => exact ready_look hready hpc
  | rearm m hm => exact ready_rearm hready hm hno

end Main

/-! ## runs -/

theorem sound_step {ℓ ℓ' : Loop} {a : LoopAct} (h : ℓ.Sound) (hfresh : ℓ.Fresh a)
    (hno : ¬ ℓ.Strands a) (hstep : loopStep ℓ a = some ℓ') : ℓ'.Sound := by
  have hmoves := moves_of_loopStep hstep
  exact ⟨h.toPinned.step hfresh hmoves, fun fd => ready_step h hmoves hfresh hno⟩

theorem Strands.step {ℓ : Loop} {a : LoopAct} (h : ℓ.Strands a) : ∃ ℓ', loopStep ℓ a = some ℓ' := by
  cases h with
  | welcome fd sid hmain hfree hnew hway =>
    refine ⟨{ ℓ with server := ℓ.server.handleTcpConnection fd sid true }, ?_⟩
    have hstep : serverStep ℓ.server (.accept fd sid true true) =
        some (ℓ.server.handleTcpConnection fd sid true) := if_pos ⟨hfree, hnew⟩
    have hallows : ℓ.Allows (.accept fd sid true true) := hmain
    exact loopStep_act hallows hstep
  | stale m sid hm hout howner hpending hway => exact ⟨_, if_pos hm⟩

theorem Strands.not_armed {ℓ ℓ' : Loop} {a : LoopAct} (h : ℓ.Strands a) (hsound : ℓ.Sound)
    (hfresh : ℓ.Fresh a) (hstep : loopStep ℓ a = some ℓ') : ¬ ℓ'.Armed := by
  intro harmed
  have hmoves := moves_of_loopStep hstep
  cases h with
  | welcome fd sid hmain hfree hnew hway =>
    cases hmoves with
    | act _ s hallows hact =>
      have heq : s = ℓ.server.accepted fd sid true := by
        rw [← hsound.tidy.handleTcpConnection_eq (hfresh _ rfl)]
        exact Option.some.inj (hact.symm.trans (if_pos ⟨hfree, hnew⟩))
      subst heq
      obtain ⟨r, hr, -, hout⟩ := harmed fd sid (Function.update_self ..) hway
      cases (Function.update_self ..).symm.trans hr
      have hpending : (ℓ.server.accepted fd sid true).hasPendingMessages sid = true := by
        unfold Server.hasPendingMessages
        show (Function.update ℓ.server.objects sid _ sid).any _ = _
        rw [Function.update_self]
        rfl
      cases hout hpending
  | stale m sid hm hmout howner hpending hway =>
    cases hmoves with
    | rearm _ _ =>
      have hsame := sameThreads_epollMod ℓ.server m.fd m.out true
      have hopen : (ℓ.server.epollMod m.fd m.out true).owner m.fd = some sid := by
        rw [(quiet_epollMod ..).owner]
        exact howner
      obtain ⟨r, hr, -, hout⟩ := harmed m.fd sid hopen (by
        unfold UnderWay at hway ⊢
        rw [hsame.batch, hsame.tasks]
        exact hway)
      have hregistered : ℓ.server.registration m.fd ≠ none := by
        refine (registered_epollMod ℓ.server m.fd m.out true m.fd).mp ?_
        rw [hr]
        exact Option.some_ne_none r
      cases (registration_epollMod hregistered).symm.trans hr
      rw [hasPendingMessages_epollMod] at hout
      rw [hmout] at hout
      cases hout hpending

end Loop

/-- **While `accept` returns only numbers of destroyed sessions, every open descriptor that has
nothing on its way is armed throughout a run exactly if no step of the run strands one.** -/
theorem pending_armed_iff (acts : List LoopAct)
    (hfresh : Throughout loopStep .start acts Loop.Fresh) :
    Always loopStep .start acts Loop.Armed ↔ ¬ Occurred loopStep .start acts Loop.Strands := by
  refine always_iff_never_guarded (K := Loop.Sound) hfresh Loop.sound_start ?_ ?_ ?_ ?_
  · exact fun ℓ h fd sid howner hway => (h.ready fd).armed sid howner hway
  · exact fun ℓ a h => h.step
  · exact fun ℓ a ℓ' h hg hno hstep => Loop.sound_step h hg hno hstep
  · exact fun ℓ a ℓ' h hg hq hstep => hq.not_armed h hg hstep

/-! A reply is blocked, and the worker arms the socket for it. -/

def armedReply : List LoopAct :=
  [.act (.accept 7 0 true false), .act (.wait [⟨7, false⟩]), .take, .flush false, .route,
    .act (.start ⟨0, 7, .queued⟩), .act (.ran ⟨0, 7, .running⟩ true true), .look ⟨0, 7, .rearm⟩,
    .rearm ⟨0, 7, true⟩]

/-- no new connection, and no mask without `EPOLLOUT` -/
def LoopAct.harmless : LoopAct → Bool
  | .act (.accept _ _ _ _) => false
  | .rearm m => m.out
  | _ => true

theorem Loop.fresh_of_harmless {ℓ : Loop} {a : LoopAct} (h : a.harmless = true) : ℓ.Fresh a := by
  rintro act rfl
  cases act with
  | accept fd sid added blocked => cases h
  | _ => trivial

theorem Loop.not_strands_of_harmless {ℓ : Loop} {a : LoopAct} (h : a.harmless = true) :
    ¬ ℓ.Strands a := by
  intro hstrands
  cases hstrands with
  | welcome fd sid hmain hfree hnew hway => cases h
  | stale m sid hm hout howner hpending hway =>
    rw [show m.out = true from h] at hout
    cases hout

theorem harmless_run {acts : List LoopAct} (fd sid : Nat) (h : ∀ a ∈ acts, a.harmless = true) :
    Throughout loopStep .start (.act (.accept fd sid true false) :: acts) Loop.Fresh ∧
      ¬ Occurred loopStep .start (.act (.accept fd sid true false) :: acts) Loop.Strands := by
  constructor
  · refine throughout_cons ?_ fun ℓ _ => ?_
    · rintro act ⟨⟩ sid' hid
      cases hid
    · rintro ⟨before, a, after, ℓ', rfl, -, hno⟩
      exact hno (Loop.fresh_of_harmless (h a (by simp)))
  · rw [occurred_cons, not_or]
    constructor
    · intro hstrands
      cases hstrands
    · rintro ⟨ℓ, -, before, a, after, ℓ', rfl, -, hstrands⟩
      exact Loop.not_strands_of_harmless (h a (by simp)) hstrands

theorem blocked_reply_is_armed : Always loopStep .start armedReply Loop.Armed := by
  obtain ⟨hfresh, hno⟩ := @harmless_run armedReply.tail 7 0 (by decide)
  exact (pending_armed_iff armedReply hfresh).mpr hno

/-! The welcome message of a client is blocked.  Or a reply is flushed, after which the registration
has no `EPOLLONESHOT` and two workers handle the client: one builds its mask, the reply of the other
is blocked and armed, and then the first one sets its mask. -/

def blockedWelcome : List LoopAct := [.act (.accept 7 0 true true)]

def staleMask : List LoopAct :=
  armedReply ++ [.act (.advance ⟨0, 7, .finished⟩), .act (.wait [⟨7, true⟩]), .take, .flush false,
    .check, .modify, .route, .act (.wait [⟨7, false⟩]), .take, .flush false, .route,
    .act (.start ⟨0, 7, .queued⟩), .act (.start ⟨0, 7, .queued⟩),
    .act (.ran ⟨0, 7, .running⟩ true false), .look ⟨0, 7, .rearm⟩,
    .act (.ran ⟨0, 7, .running⟩ true true), .look ⟨0, 7, .rearm⟩,
    .rearm ⟨0, 7, true⟩, .rearm ⟨0, 7, false⟩, .act (.advance ⟨0, 7, .finished⟩),
    .act (.advance ⟨0, 7, .finished⟩)]

/-- the main thread is in `epoll_wait`, nothing is on its way, and a message is queued -/
def Loop.stranded (ℓ : Loop) (fd sid : Nat) : Bool :=
  ℓ.main = .idle && ℓ.server.batch = [] && ℓ.server.tasks = [] && ℓ.masks = [] &&
    ℓ.server.owner fd = some sid && ℓ.server.hasPendingMessages sid &&
    ℓ.server.registration fd = some ⟨false, true, true⟩

theorem Loop.stranded.not_armed {ℓ : Loop} {fd sid : Nat} (h : ℓ.stranded fd sid = true) :
    ¬ ℓ.Armed := by
  simp only [Loop.stranded, Bool.and_eq_true, decide_eq_true_eq] at h
  obtain ⟨⟨⟨⟨⟨⟨hmain, hbatch⟩, htasks⟩, hmasks⟩, howner⟩, hpending⟩, hreg⟩ := h
  intro harmed
  obtain ⟨r, hr, -, hout⟩ := harmed.waiting hmain hbatch howner
    (by rw [htasks]; simp) (by rw [hmasks]; simp)
  cases hreg.symm.trans hr
  cases hout hpending

theorem not_always_of_stranded {acts : List LoopAct} {fd sid : Nat}
    (h : (runFrom loopStep .start acts).any (fun ℓ => ℓ.stranded fd sid) = true) :
    ¬ Always loopStep .start acts Loop.Armed := by
  intro halways
  cases hrun : runFrom loopStep .start acts with
  | none =>
    rw [hrun] at h
    cases h
  | some ℓ =>
    rw [hrun] at h
    exact Loop.stranded.not_armed h (halways acts [] ℓ (by simp) hrun)

theorem queued_message_is_stranded :
    (runFrom loopStep .start blockedWelcome).any (fun ℓ => ℓ.stranded 7 0) = true ∧
      ¬ Always loopStep .start blockedWelcome Loop.Armed ∧
    (runFrom loopStep .start staleMask).any (fun ℓ => ℓ.stranded 7 0) = true ∧
      ¬ Always loopStep .start staleMask Loop.Armed := by
  have hwelcome : (runFrom loopStep .start blockedWelcome).any (fun ℓ => ℓ.stranded 7 0) = true := by
    decide
  have hstale : (runFrom loopStep .start staleMask).any (fun ℓ => ℓ.stranded 7 0) = true := by
    decide
  exact ⟨hwelcome, not_always_of_stranded hwelcome, hstale, not_always_of_stranded hstale⟩

end Logistics
