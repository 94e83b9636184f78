import Logistics.Server.Descriptors

/-!
# Who owns a descriptor

The clean-up of a session closes its descriptor, then erases the table's entry by number, then
releases a `shared_ptr`; the destructor closes the same number again.

* `Owned`                     every `close` so far acted on its own session, once;
* `descriptors_owned_iff`     **it holds exactly if no clean-up reaches its `close`**;
* `stale_close_cuts_off_client`   the number is reused before the destructor runs;
* `Tidy`, `tidy_step`         the invariant where `accept` returns a `FreshNumber`;
* `closes_never_foreign`      **the second `close` then finds a free number**.
-/

namespace Logistics
open Runs

structure Owned (s : Server) : Prop where
  closes : ∀ c ∈ s.closes, c.owner = some c.session
  once : (s.closes.map Close.session).Nodup
  table : ∀ fd, s.clientSessions fd = (s.owner fd).map some

/-- a worker is about to close the descriptor of a session that has ended -/
def CleanUpCloses (s : Server) (a : Act) : Prop :=
  ∃ t ∈ s.tasks, t.pc = .close ∧ a = .advance t

/-! ## what steps leave alone -/

namespace Server

/-- the socket of a session object, and whether it is alive -/
def identity (s : Server) (sid : Nat) : Option (Nat × Bool) :=
  (s.objects sid).map fun o => (o.clientSocket, o.alive)

theorem identity_eq {s : Server} {sid fd : Nat} {alive : Bool} :
    s.identity sid = some (fd, alive) ↔ ∃ pending, s.objects sid = some ⟨fd, pending, alive⟩ := by
  unfold identity
  constructor
  · intro h
    obtain ⟨⟨fd', pending, alive'⟩, ho, he⟩ := Option.map_eq_some_iff.mp h
    cases he
    exact ⟨pending, ho⟩
  · rintro ⟨pending, ho⟩
    rw [ho]
    rfl

theorem identity_update (s : Server) {s' : Server} {sid : Nat} {o : Option Object}
    (h : s'.objects = Function.update s.objects sid o) :
    s'.identity = Function.update s.identity sid (o.map fun o => (o.clientSocket, o.alive)) := by
  funext sid'
  unfold identity
  rw [h]
  by_cases hs : sid' = sid
  · rw [hs, Function.update_self, Function.update_self]
  · rw [Function.update_of_ne hs, Function.update_of_ne hs]

end Server

/-- nothing is opened, closed, created, destroyed or entered in the table -/
structure Quiet (s s' : Server) : Prop where
  owner : s'.owner = s.owner
  clientSessions : s'.clientSessions = s.clientSessions
  closes : s'.closes = s.closes
  identity : s'.identity = s.identity
  registered : ∀ fd, s'.registration fd ≠ none → s.registration fd ≠ none

theorem Quiet.refl (s : Server) : Quiet s s := ⟨rfl, rfl, rfl, rfl, fun _ h => h⟩

theorem Quiet.trans {a b c : Server} (h : Quiet a b) (h' : Quiet b c) : Quiet a c where
  owner := h'.owner.trans h.owner
  clientSessions := h'.clientSessions.trans h.clientSessions
  closes := h'.closes.trans h.closes
  identity := h'.identity.trans h.identity
  registered fd hr := h.registered fd (h'.registered fd hr)

theorem quiet_setPending (s : Server) (sid : Nat) (f : Bool → Bool) :
    Quiet s (s.setPending sid f) := by
  refine ⟨rfl, rfl, rfl, ?_, fun _ h => h⟩
  rw [Server.identity_update s rfl, Option.map_map]
  exact Function.update_eq_self ..

theorem quiet_setPc (s : Server) (t : Task) (pc : Pc) : Quiet s (s.setPc t pc) :=
  ⟨rfl, rfl, rfl, rfl, fun _ h => h⟩

theorem quiet_del (s : Server) (t : Task) :
    Quiet s { s.setPc t .close with
      registration := Function.update s.registration t.fd none } := by
  refine ⟨rfl, rfl, rfl, rfl, ?_⟩
  intro fd hr
  dsimp only at hr
  by_cases hf : fd = t.fd
  · rw [hf, Function.update_self] at hr
    exact absurd rfl hr
  · rwa [Function.update_of_ne hf] at hr

theorem quiet_ran (s : Server) (t : Task) (continueSession blocked : Bool) :
    Quiet s (s.ran t continueSession blocked) :=
  (quiet_setPc s t _).trans (quiet_setPending _ t.session _)

theorem registered_epollMod (s : Server) (fd : Nat) (out oneshot : Bool) (fd' : Nat) :
    (s.epollMod fd out oneshot).registration fd' ≠ none ↔ s.registration fd' ≠ none := by
  unfold Server.epollMod
  cases hr : s.registration fd with
  | none => rfl
  | some r =>
    by_cases hf : fd' = fd
    · simp [hf, hr]
    · simp [hf]

theorem quiet_epollMod (s : Server) (fd : Nat) (out oneshot : Bool) :
    Quiet s (s.epollMod fd out oneshot) := by
  refine ⟨?_, ?_, ?_, ?_, fun fd' => (registered_epollMod s fd out oneshot fd').mp⟩ <;>
    (unfold Server.epollMod; split <;> rfl)

/-- with an entry for the number in the table, null or not -/
theorem quiet_flush {s : Server} {e : EpollEvent} (h : s.clientSessions e.fd ≠ none)
    (stillPending : Bool) : Quiet s (s.flush e stillPending) := by
  unfold Server.flush
  split
  · unfold Server.pendingMessages
    cases hc : s.clientSessions e.fd with
    | none => exact absurd hc h
    | some entry =>
      cases entry with
      | none => exact .refl s
      | some sid =>
        have hq := quiet_setPending s sid fun pending => pending && stillPending
        dsimp only
        split
        · exact hq
        · exact hq.trans (quiet_epollMod _ e.fd false false)
  · exact .refl s

/-- what the threads hold is the same -/
structure SameThreads (s s' : Server) : Prop where
  tasks : s'.tasks = s.tasks
  activeSessions : s'.activeSessions = s.activeSessions
  borrowed : s'.borrowed = s.borrowed
  batch : s'.batch = s.batch

theorem sameThreads_epollMod (s : Server) (fd : Nat) (out oneshot : Bool) :
    SameThreads s (s.epollMod fd out oneshot) := by
  unfold Server.epollMod
  split
  · exact ⟨rfl, rfl, rfl, rfl⟩
  · exact ⟨rfl, rfl, rfl, rfl⟩

theorem sameThreads_flush (s : Server) (e : EpollEvent) (stillPending : Bool) :
    SameThreads s (s.flush e stillPending) := by
  unfold Server.flush Server.pendingMessages
  split
  · split
    · exact ⟨rfl, rfl, rfl, rfl⟩
    · exact ⟨rfl, rfl, rfl, rfl⟩
    · rename_i sid _
      dsimp only
      split
      · exact ⟨rfl, rfl, rfl, rfl⟩
      · have hmod := sameThreads_epollMod
          (s.setPending sid fun pending => pending && stillPending) e.fd false false
        exact ⟨hmod.tasks, hmod.activeSessions, hmod.borrowed, hmod.batch⟩
  · exact ⟨rfl, rfl, rfl, rfl⟩

theorem dispatch_session {s : Server} {e : EpollEvent} {sid : Nat}
    (h : s.clientSessions e.fd = some (some sid)) (stillPending : Bool) :
    s.dispatch e stillPending =
      { s.flush e stillPending with tasks := ⟨sid, e.fd, .queued⟩ :: s.tasks } := by
  have hentry : (s.flush e stillPending).clientSessions e.fd = some (some sid) := by
    rw [(quiet_flush (by simp [h]) stillPending).clientSessions]
    exact h
  unfold Server.dispatch
  dsimp only
  rw [hentry]
  unfold Server.tcpHandling
  rw [hentry, (sameThreads_flush s e stillPending).tasks]
  rfl

theorem dispatch_null {s : Server} {e : EpollEvent} (h : s.clientSessions e.fd = some none)
    (stillPending : Bool) : s.dispatch e stillPending = s := by
  have hflush : s.flush e stillPending = s := by
    unfold Server.flush Server.pendingMessages
    rw [h]
    exact ite_id _
  unfold Server.dispatch Server.tcpHandling
  dsimp only
  rw [hflush, h]
  rfl

/-- a stale event: `operator[]` may leave a null entry -/
theorem dispatch_absent {s : Server} {e : EpollEvent} (h : s.clientSessions e.fd = none)
    (stillPending : Bool) : s.dispatch e stillPending = s ∨ s.dispatch e stillPending =
      { s with clientSessions := Function.update s.clientSessions e.fd (some none) } := by
  unfold Server.dispatch Server.flush Server.pendingMessages
  cases e.out with
  | false =>
    refine .inl ?_
    simp [h]
  | true =>
    refine .inr ?_
    simp only [h, if_true, Function.update_self, Option.isSome_some]
    unfold Server.tcpHandling
    simp only [Function.update_self]

variable {s s' : Server} {a : Act} {e : EpollEvent} {t : Task} {pc : Pc} {sid fd : Nat}

/-! ## runs without clean-up -/

/-- every session object is in the table under its open socket, and nothing was closed -/
structure Untouched (s : Server) : Prop where
  closes : s.closes = []
  table : ∀ fd, s.clientSessions fd = (s.owner fd).map some
  sockets : ∀ sid fd alive, s.identity sid = some (fd, alive) → s.owner fd = some sid
  registered : ∀ fd, s.registration fd ≠ none → s.owner fd ≠ none
  events : ∀ e ∈ s.batch, s.owner e.fd ≠ none
  tasks : ∀ t ∈ s.tasks, t.pc ≠ .erase

theorem Untouched.owned (h : Untouched s) : Owned s := by
  refine ⟨?_, ?_, h.table⟩
  · rw [h.closes]
    simp
  · rw [h.closes]
    exact List.nodup_nil

theorem Untouched.quiet (h : Untouched s) (hq : Quiet s s')
    (events : ∀ e ∈ s'.batch, s'.owner e.fd ≠ none) (tasks : ∀ t ∈ s'.tasks, t.pc ≠ .erase) :
    Untouched s' where
  closes := hq.closes.trans h.closes
  table fd := by rw [hq.clientSessions, hq.owner]; exact h.table fd
  sockets sid fd alive := by rw [hq.identity, hq.owner]; exact h.sockets sid fd alive
  registered fd hr := by rw [hq.owner]; exact h.registered fd (hq.registered fd hr)
  events := events
  tasks := tasks

/-- a session that the table holds is not destroyed -/
theorem release_eq_self
    (h : ∀ fd alive, s.identity sid = some (fd, alive) → s.clientSessions fd = some (some sid)) :
    s.release sid = s := by
  unfold Server.release
  cases ho : s.objects sid with
  | none => rfl
  | some o =>
    have hid : s.identity sid = some (o.clientSocket, o.alive) := by
      unfold Server.identity
      rw [ho]
      rfl
    exact if_pos (.inl (h _ _ hid))

theorem Untouched.release (h : Untouched s) (sid : Nat) : s.release sid = s := by
  refine release_eq_self ?_
  intro fd alive hid
  rw [h.table, h.sockets sid fd alive hid]
  rfl

theorem mem_tasks_setPc {t' : Task} (h : t' ∈ (s.setPc t pc).tasks) :
    t' = ⟨t.session, t.fd, pc⟩ ∨ t' ∈ s.tasks := by
  rcases List.mem_cons.mp h with rfl | h
  · exact .inl rfl
  · exact .inr (List.mem_of_mem_erase h)

theorem Untouched.setPc (h : Untouched s) (t : Task) (hpc : pc ≠ .erase) :
    ∀ t' ∈ (s.setPc t pc).tasks, t'.pc ≠ .erase := by
  intro t' ht'
  rcases mem_tasks_setPc ht' with rfl | ht'
  · exact hpc
  · exact h.tasks t' ht'

theorem Untouched.setActive (h : Untouched s) (clientId : String) (entry : List (String × Nat)) :
    Untouched (s.setActive clientId entry) := by
  have hq : Untouched { s with
      activeSessions := entry ++ s.activeSessions.filter fun e => e.1 ≠ clientId } :=
    ⟨h.closes, h.table, h.sockets, h.registered, h.events, h.tasks⟩
  unfold Server.setActive
  dsimp only
  cases s.activeSessions.lookup clientId with
  | none => exact hq
  | some old =>
    dsimp only
    rw [hq.release old]
    exact hq

theorem Untouched.accept (h : Untouched s) (hfree : s.owner fd = none) (sid : Nat)
    (blocked : Bool) : Untouched (s.handleTcpConnection fd sid blocked) := by
  have hentry : s.clientSessions fd = none := by rw [h.table, hfree]; rfl
  unfold Server.handleTcpConnection
  rw [hentry]
  refine ⟨h.closes, ?_, ?_, ?_, ?_, h.tasks⟩
  · intro fd'
    show Function.update s.clientSessions fd _ fd' = (Function.update s.owner fd _ fd').map some
    by_cases hf : fd' = fd
    · rw [hf, Function.update_self, Function.update_self]
      rfl
    · rw [Function.update_of_ne hf, Function.update_of_ne hf]
      exact h.table fd'
  · intro sid' fd' alive hid
    rw [Server.identity_update s rfl] at hid
    show Function.update s.owner fd _ fd' = some sid'
    by_cases hs : sid' = sid
    · rw [hs, Function.update_self] at hid
      cases hid
      rw [hs, Function.update_self]
    · rw [Function.update_of_ne hs] at hid
      have howner := h.sockets sid' fd' alive hid
      have hf : fd' ≠ fd := by
        rintro rfl
        rw [hfree] at howner
        cases howner
      rw [Function.update_of_ne hf]
      exact howner
  · intro fd' hr
    show Function.update s.owner fd _ fd' ≠ none
    by_cases hf : fd' = fd
    · rw [hf, Function.update_self]
      simp
    · rw [Function.update_of_ne hf]
      refine h.registered fd' ?_
      rwa [show Server.registration _ fd' = Function.update s.registration fd _ fd' from rfl,
        Function.update_of_ne hf] at hr
  · intro e he
    show Function.update s.owner fd _ e.fd ≠ none
    by_cases hf : e.fd = fd
    · rw [hf, Function.update_self]
      simp
    · rw [Function.update_of_ne hf]
      exact h.events e he

theorem registered_of_deliverable (h : s.deliverable e = true) : s.registration e.fd ≠ none := by
  intro hr
  unfold Server.deliverable at h
  rw [hr] at h
  cases h

theorem quiet_deliver (s : Server) (events : List EpollEvent) : Quiet s (s.deliver events) := by
  refine ⟨rfl, rfl, rfl, rfl, ?_⟩
  intro fd hr
  unfold Server.deliver at hr
  dsimp only at hr
  split at hr
  · intro hnone
    rw [hnone] at hr
    exact hr rfl
  · exact hr

theorem Untouched.dispatch (h : Untouched s) {rest : List EpollEvent} (hbatch : s.batch = e :: rest)
    (stillPending : Bool) : Untouched (Server.dispatch { s with batch := rest } e stillPending) := by
  have hrest : ∀ e' ∈ rest, s.owner e'.fd ≠ none := by
    intro e' he'
    refine h.events e' ?_
    rw [hbatch]
    exact List.mem_cons_of_mem e he'
  obtain ⟨sid, howner⟩ : ∃ sid, s.owner e.fd = some sid := by
    refine Option.ne_none_iff_exists'.mp (h.events e ?_)
    rw [hbatch]
    exact List.mem_cons_self
  have hentry : s.clientSessions e.fd = some (some sid) := by rw [h.table, howner]; rfl
  have hstart : Untouched { s with batch := rest } :=
    ⟨h.closes, h.table, h.sockets, h.registered, hrest, h.tasks⟩
  generalize hs : { s with batch := rest } = s₀ at hstart ⊢
  replace hentry : s₀.clientSessions e.fd = some (some sid) := by rw [← hs]; exact hentry
  rw [dispatch_session hentry]
  have hq : Quiet s₀ (s₀.flush e stillPending) := quiet_flush (by simp [hentry]) stillPending
  have hflushed : Untouched (s₀.flush e stillPending) := by
    refine hstart.quiet hq ?_ ?_
    · rw [(sameThreads_flush s₀ e stillPending).batch, hq.owner]
      exact hstart.events
    · rw [(sameThreads_flush s₀ e stillPending).tasks]
      exact hstart.tasks
  refine ⟨hflushed.closes, hflushed.table, hflushed.sockets, hflushed.registered,
    hflushed.events, ?_⟩
  intro t ht
  rcases List.mem_cons.mp ht with rfl | ht
  · simp
  · exact hstart.tasks t ht

/-- **A step that closes no descriptor in a clean-up leaves every session in the table.** -/
theorem untouched_step (h : Untouched s) (hno : ¬ CleanUpCloses s a)
    (hstep : serverStep s a = some s') : Untouched s' := by
  cases moves_of_step hstep with
  | refused fd sid blocked => exact h
  | accept fd sid blocked hfree hnew => exact h.accept hfree sid blocked
  | wait events hbatch hnodup hdel =>
    refine h.quiet (quiet_deliver s events) ?_ h.tasks
    intro e he
    exact h.registered e.fd (registered_of_deliverable (hdel e he))
  | dispatch e rest stillPending hbatch => exact h.dispatch hbatch stillPending
  | start t ht hpc => exact h.quiet (quiet_setPc s t _) h.events (h.setPc t (by simp))
  | login t clientId ht => exact h.setActive clientId _
  | ran t continueSession blocked ht hpc =>
    refine h.quiet (quiet_ran s t continueSession blocked) h.events (h.setPc t ?_)
    cases continueSession <;> simp
  | advance t s' ht hadv =>
    cases advances_of_advance hadv with
    | del hpc =>
      exact h.quiet (quiet_del s t) h.events (h.setPc t (by simp))
    | close hpc => exact absurd ⟨t, ht, hpc, rfl⟩ hno
    | erase hpc => exact absurd hpc (h.tasks t ht)
    | rearm hpc =>
      have hq := (quiet_setPc s t .finished).trans
        (quiet_epollMod _ t.fd (s.hasPendingMessages t.session) true)
      have hsame := sameThreads_epollMod (s.setPc t .finished) t.fd
        (s.hasPendingMessages t.session) true
      refine h.quiet hq ?_ ?_
      · rw [hsame.batch, hq.owner]
        exact h.events
      · rw [hsame.tasks]
        exact h.setPc t (by simp)
    | finished hpc =>
      have hrest : Untouched { s with tasks := s.tasks.erase t } :=
        ⟨h.closes, h.table, h.sockets, h.registered, h.events,
          fun t' ht' => h.tasks t' (List.mem_of_mem_erase ht')⟩
      rw [hrest.release]
      exact hrest
  | unregister clientId => exact h.setActive clientId _
  | borrow clientId sid hsid =>
    exact ⟨h.closes, h.table, h.sockets, h.registered, h.events, h.tasks⟩
  | giveBack sid hsid =>
    have hrest : Untouched { s with borrowed := s.borrowed.erase sid } :=
      ⟨h.closes, h.table, h.sockets, h.registered, h.events, h.tasks⟩
    rw [hrest.release]
    exact hrest

theorem untouched_start : Untouched .start where
  closes := rfl
  table _ := rfl
  sockets _ _ _ h := by cases h
  registered _ h := absurd rfl h
  events _ h := by cases h
  tasks _ h := by cases h

/-! ## the close of a clean-up -/

/-- after the `close` of a clean-up the entry of the table is left, or there was no descriptor -/
theorem not_owned_after_close (h : Owned s) (hpc : t.pc = .close) (hadv : s.advance t = some s') :
    ¬ Owned s' := by
  intro h'
  unfold Server.advance at hadv
  simp only [hpc, Option.some.injEq] at hadv
  subst hadv
  have hentry : s.clientSessions t.fd = (Function.update s.owner t.fd none t.fd).map some :=
    h'.table t.fd
  rw [Function.update_self, h.table] at hentry
  have hfree : s.owner t.fd = none := Option.map_eq_none_iff.mp hentry
  have hclose := h'.closes ⟨t.session, s.owner t.fd⟩ (List.mem_append_right _ List.mem_cons_self)
  rw [hfree] at hclose
  cases hclose

/-- **Every `close` acts on a descriptor of its own session, and the table holds exactly the open
descriptors, in every state of a run, if and only if no clean-up of the run closes a descriptor.** -/
theorem descriptors_owned_iff (acts : List Act) :
    Always serverStep .start acts Owned ↔ ¬ Occurred serverStep .start acts CleanUpCloses := by
  constructor
  · intro halways hocc
    obtain ⟨s, a, ⟨t, ht, hpc, rfl⟩, hbefore, hafter⟩ := halways.around hocc
    obtain ⟨s', hadv⟩ : ∃ s', s.advance t = some s' := by
      unfold Server.advance
      rw [hpc]
      exact ⟨_, rfl⟩
    have hstep : serverStep s (.advance t) = some s' := (if_pos ht).trans hadv
    exact not_owned_after_close hbefore hpc hadv (hafter s' hstep)
  · intro hno
    have hall : Throughout serverStep .start acts fun s a => ¬ CleanUpCloses s a := by
      unfold Throughout
      simp only [not_not]
      exact hno
    have halways : Always serverStep .start acts Untouched :=
      always_guarded untouched_start (fun _ _ _ h hg hstep => untouched_step h hg hstep) hall
    exact halways.mono fun _ h => h.owned

/-! The first client's session has ended and its worker has erased the entry; the kernel gives its
number to the second client before the worker drops the last pointer. -/

def staleClose : List Act :=
  [.accept 7 0 true false, .wait [⟨7, false⟩], .dispatch false, .start ⟨0, 7, .queued⟩,
    .ran ⟨0, 7, .running⟩ false false, .advance ⟨0, 7, .del⟩, .advance ⟨0, 7, .close⟩,
    .advance ⟨0, 7, .erase⟩, .accept 7 1 true false, .advance ⟨0, 7, .finished⟩]

theorem staleClose_isSome : (runFrom serverStep .start staleClose).isSome := by decide

def staleServer : Server := (runFrom serverStep .start staleClose).get staleClose_isSome

theorem stale_close_cuts_off_client :
    runFrom serverStep .start staleClose = some staleServer ∧
      staleServer.closes = [⟨0, some 0⟩, ⟨0, some 1⟩] ∧
      staleServer.owner 7 = none ∧
      staleServer.clientSessions 7 = some (some 1) ∧
      staleServer.identity 1 = some (7, true) ∧
      ¬ Always serverStep .start staleClose Owned := by
  have hrun := (Option.some_get staleClose_isSome).symm
  have hcloses : staleServer.closes = [⟨0, some 0⟩, ⟨0, some 1⟩] := by decide
  refine ⟨hrun, hcloses, by decide, by decide, by decide, ?_⟩
  intro halways
  have howned := halways staleClose [] staleServer (by simp) hrun
  have hclose := howned.closes ⟨0, some 1⟩ (by rw [hcloses]; simp)
  exact absurd hclose (by decide)

/-! ## numbers that are not reused too soon -/

/-- `accept` does not return the number of a session that is not destroyed -/
def FreshNumber (s : Server) : Act → Prop
  | .accept fd _ _ _ => ∀ sid, s.identity sid ≠ some (fd, true)
  | _ => True

structure Tidy (s : Server) : Prop where
  table : ∀ fd sid, s.clientSessions fd = some (some sid) → s.identity sid = some (fd, true)
  tasks : ∀ t ∈ s.tasks, s.identity t.session = some (t.fd, true)
  active : ∀ e ∈ s.activeSessions, ∃ fd, s.identity e.2 = some (fd, true)
  borrowed : ∀ sid ∈ s.borrowed, ∃ fd, s.identity sid = some (fd, true)
  opened : ∀ fd sid, s.owner fd = some sid → s.clientSessions fd = some (some sid)
  numbers : ∀ sid sid' fd, s.identity sid = some (fd, true) → s.identity sid' = some (fd, true) →
    sid = sid'
  erasing : ∀ t ∈ s.tasks, t.pc = .erase → s.owner t.fd = none
  closes : ∀ c ∈ s.closes, c.owner = none ∨ c.owner = some c.session

theorem tidy_start : Tidy .start where
  table _ _ h := by cases h
  tasks _ h := by cases h
  active _ h := by cases h
  borrowed _ h := by cases h
  opened _ _ h := by cases h
  numbers _ _ _ h := by cases h
  erasing _ h := by cases h
  closes _ h := by cases h

theorem Tidy.quiet (h : Tidy s) (hq : Quiet s s')
    (tasks : ∀ t ∈ s'.tasks, s.identity t.session = some (t.fd, true) ∧
      (t.pc = .erase → s.owner t.fd = none)) (active : s'.activeSessions = s.activeSessions)
    (borrowed : s'.borrowed = s.borrowed) : Tidy s' where
  table := by rw [hq.clientSessions, hq.identity]; exact h.table
  tasks t ht := by rw [hq.identity]; exact (tasks t ht).1
  active := by rw [active, hq.identity]; exact h.active
  borrowed := by rw [borrowed, hq.identity]; exact h.borrowed
  opened := by rw [hq.owner, hq.clientSessions]; exact h.opened
  numbers := by rw [hq.identity]; exact h.numbers
  erasing t ht := by rw [hq.owner]; exact (tasks t ht).2
  closes := by rw [hq.closes]; exact h.closes

/-- the owner of an open number is the living session with that socket -/
theorem Tidy.owner_eq (h : Tidy s) (hliving : s.identity sid = some (fd, true)) :
    s.owner fd = none ∨ s.owner fd = some sid := by
  cases howner : s.owner fd with
  | none => exact .inl rfl
  | some sid' =>
    have hid := h.table fd sid' (h.opened fd sid' howner)
    exact .inr (congrArg some (h.numbers sid' sid fd hid hliving))

/-- the destructor of a session finds its number closed already -/
theorem Tidy.owner_of_not_held (h : Tidy s) (hliving : s.identity sid = some (fd, true))
    (hnot : ¬ s.Held sid fd) : s.owner fd = none := by
  rcases h.owner_eq hliving with howner | howner
  · exact howner
  · exact absurd (.inl (h.opened fd sid howner)) hnot

theorem Tidy.destroy (h : Tidy s) {o : Object} (ho : s.objects sid = some o)
    (halive : o.alive = true) (hnot : ¬ s.Held sid o.clientSocket) : Tidy (s.destroy sid o) := by
  have hliving : s.identity sid = some (o.clientSocket, true) := by
    unfold Server.identity
    rw [ho, ← halive]
    rfl
  have hfree := h.owner_of_not_held hliving hnot
  have hid : (s.destroy sid o).identity =
      Function.update s.identity sid (some (o.clientSocket, false)) :=
    Server.identity_update s (o := some { o with alive := false }) rfl
  have howner : (s.destroy sid o).owner = s.owner := Function.update_eq_iff.mpr
    ⟨hfree.symm, fun _ _ => rfl⟩
  -- who else is referred to stays as it was
  have hother : ∀ sid' fd, sid' ≠ sid → s.identity sid' = some (fd, true) →
      (s.destroy sid o).identity sid' = some (fd, true) := by
    intro sid' fd hne hold
    rw [hid, Function.update_of_ne hne]
    exact hold
  have hback : ∀ sid' fd, (s.destroy sid o).identity sid' = some (fd, true) →
      s.identity sid' = some (fd, true) := by
    intro sid' fd hnew
    rw [hid] at hnew
    by_cases hs : sid' = sid
    · rw [hs, Function.update_self] at hnew
      cases hnew
    · rwa [Function.update_of_ne hs] at hnew
  refine ⟨?_, ?_, ?_, ?_, ?_, ?_, ?_, ?_⟩
  · intro fd sid' hentry
    have hold := h.table fd sid' hentry
    refine hother sid' fd ?_ hold
    rintro rfl
    rw [hliving] at hold
    cases hold
    exact hnot (.inl hentry)
  · intro t ht
    refine hother t.session t.fd ?_ (h.tasks t ht)
    intro hs
    exact hnot (.inr (.inl ⟨t, ht, hs⟩))
  · intro e he
    obtain ⟨fd, hold⟩ := h.active e he
    refine ⟨fd, hother e.2 fd ?_ hold⟩
    intro hs
    exact hnot (.inr (.inr (.inl ⟨e, he, hs⟩)))
  · intro sid' hb
    obtain ⟨fd, hold⟩ := h.borrowed sid' hb
    refine ⟨fd, hother sid' fd ?_ hold⟩
    rintro rfl
    exact hnot (.inr (.inr (.inr hb)))
  · rw [howner]
    exact h.opened
  · intro sid' sid'' fd hid' hid''
    exact h.numbers sid' sid'' fd (hback sid' fd hid') (hback sid'' fd hid'')
  · rw [howner]
    exact h.erasing
  · intro c hc
    rcases List.mem_append.mp hc with hc | hc
    · exact h.closes c hc
    · obtain rfl := List.mem_singleton.mp hc
      exact .inl hfree

theorem Tidy.release (h : Tidy s) (hliving : s.identity sid = some (fd, true)) :
    Tidy (s.release sid) := by
  obtain ⟨pending, ho⟩ := Server.identity_eq.mp hliving
  unfold Server.release
  rw [ho]
  dsimp only
  split
  · exact h
  · rename_i hnot
    exact h.destroy ho rfl hnot

theorem Tidy.setPc (h : Tidy s) (ht : t ∈ s.tasks) (hpc : pc ≠ .erase) :
    ∀ t' ∈ (s.setPc t pc).tasks,
      s.identity t'.session = some (t'.fd, true) ∧ (t'.pc = .erase → s.owner t'.fd = none) := by
  intro t' ht'
  rcases mem_tasks_setPc ht' with rfl | ht'
  · exact ⟨h.tasks t ht, fun he => absurd he hpc⟩
  · exact ⟨h.tasks t' ht', h.erasing t' ht'⟩

theorem mem_of_lookup {clientId : String} {entries : List (String × Nat)}
    (h : entries.lookup clientId = some sid) : (clientId, sid) ∈ entries := by
  obtain ⟨before, after, rfl, -⟩ := List.lookup_eq_some_iff.mp h
  simp

theorem Tidy.withActive (h : Tidy s) (clientId : String) {entry : List (String × Nat)}
    (hentry : ∀ e ∈ entry, ∃ fd, s.identity e.2 = some (fd, true)) : Tidy { s with
      activeSessions := entry ++ s.activeSessions.filter fun e => e.1 ≠ clientId } := by
  refine ⟨h.table, h.tasks, ?_, h.borrowed, h.opened, h.numbers, h.erasing, h.closes⟩
  intro e he
  rcases List.mem_append.mp he with he | he
  · exact hentry e he
  · exact h.active e (List.mem_of_mem_filter he)

theorem Tidy.setActive (h : Tidy s) (clientId : String) {entry : List (String × Nat)}
    (hentry : ∀ e ∈ entry, ∃ fd, s.identity e.2 = some (fd, true)) :
    Tidy (s.setActive clientId entry) := by
  have hset := h.withActive clientId hentry
  unfold Server.setActive
  dsimp only
  cases hold : s.activeSessions.lookup clientId with
  | none => exact hset
  | some old =>
    obtain ⟨fd, hliving⟩ := h.active (clientId, old) (mem_of_lookup hold)
    exact hset.release hliving

/-- no session is in the table under a fresh number -/
theorem Tidy.handleTcpConnection_eq (h : Tidy s) (hfresh : ∀ sid, s.identity sid ≠ some (fd, true))
    (sid : Nat) (blocked : Bool) :
    s.handleTcpConnection fd sid blocked = s.accepted fd sid blocked := by
  unfold Server.handleTcpConnection
  cases hentry : s.clientSessions fd with
  | none => rfl
  | some entry =>
    cases entry with
    | none => rfl
    | some old => exact absurd (h.table fd old hentry) (hfresh old)

theorem Tidy.accept (h : Tidy s) (hfresh : ∀ sid', s.identity sid' ≠ some (fd, true))
    (hnew : s.objects sid = none) (blocked : Bool) : Tidy (s.accepted fd sid blocked) := by
  have hid : (s.accepted fd sid blocked).identity =
      Function.update s.identity sid (some (fd, true)) :=
    Server.identity_update s (o := some ⟨fd, blocked, true⟩) rfl
  have hold : ∀ sid' fd', s.identity sid' = some (fd', true) →
      (s.accepted fd sid blocked).identity sid' = some (fd', true) := by
    intro sid' fd' hliving
    have hne : sid' ≠ sid := by
      rintro rfl
      unfold Server.identity at hliving
      rw [hnew] at hliving
      cases hliving
    rw [hid, Function.update_of_ne hne]
    exact hliving
  refine ⟨?_, fun t ht => hold _ _ (h.tasks t ht), ?_, ?_, ?_, ?_, ?_, h.closes⟩
  · intro fd' sid' he
    change Function.update s.clientSessions fd (some (some sid)) fd' = _ at he
    by_cases hf : fd' = fd
    · rw [hf, Function.update_self] at he
      cases he
      rw [hid, Function.update_self, hf]
    · rw [Function.update_of_ne hf] at he
      exact hold sid' fd' (h.table fd' sid' he)
  · intro e he
    obtain ⟨fd', hliving⟩ := h.active e he
    exact ⟨fd', hold _ _ hliving⟩
  · intro sid' hb
    obtain ⟨fd', hliving⟩ := h.borrowed sid' hb
    exact ⟨fd', hold _ _ hliving⟩
  · intro fd' sid' ho
    change Function.update s.owner fd (some sid) fd' = _ at ho
    show Function.update s.clientSessions fd _ fd' = _
    by_cases hf : fd' = fd
    · rw [hf, Function.update_self] at ho ⊢
      cases ho
      rfl
    · rw [Function.update_of_ne hf] at ho ⊢
      exact h.opened fd' sid' ho
  · intro sid' sid'' fd' h' h''
    rw [hid] at h' h''
    by_cases hs' : sid' = sid
    · by_cases hs'' : sid'' = sid
      · rw [hs', hs'']
      · rw [hs', Function.update_self] at h'
        rw [Function.update_of_ne hs''] at h''
        cases h'
        exact absurd h'' (hfresh sid'')
    · by_cases hs'' : sid'' = sid
      · rw [hs'', Function.update_self] at h''
        rw [Function.update_of_ne hs'] at h'
        cases h''
        exact absurd h' (hfresh sid')
      · rw [Function.update_of_ne hs'] at h'
        rw [Function.update_of_ne hs''] at h''
        exact h.numbers sid' sid'' fd' h' h''
  · intro t ht hpc
    have hf : t.fd ≠ fd := by
      intro hf
      exact hfresh t.session (hf ▸ h.tasks t ht)
    show Function.update s.owner fd _ t.fd = none
    rw [Function.update_of_ne hf]
    exact h.erasing t ht hpc

theorem Tidy.dispatch (h : Tidy s) (e : EpollEvent) (stillPending : Bool) :
    Tidy (s.dispatch e stillPending) := by
  cases hentry : s.clientSessions e.fd with
  | none =>
    rcases dispatch_absent hentry stillPending with heq | heq
    · rw [heq]
      exact h
    · rw [heq]
      refine ⟨?_, h.tasks, h.active, h.borrowed, ?_, h.numbers, h.erasing, h.closes⟩
      · intro fd sid he
        by_cases hf : fd = e.fd
        · dsimp only at he
          rw [hf, Function.update_self] at he
          cases he
        · exact h.table fd sid ((Function.update_of_ne hf ..).symm.trans he)
      · intro fd sid ho
        have hold := h.opened fd sid ho
        have hf : fd ≠ e.fd := by
          rintro rfl
          rw [hentry] at hold
          cases hold
        exact (Function.update_of_ne hf ..).trans hold
  | some entry =>
    cases entry with
    | none =>
      rw [dispatch_null hentry]
      exact h
    | some sid =>
      have hq : Quiet s (s.flush e stillPending) := quiet_flush (by simp [hentry]) stillPending
      have hsame := sameThreads_flush s e stillPending
      rw [dispatch_session hentry]
      refine h.quiet ⟨hq.owner, hq.clientSessions, hq.closes, hq.identity, hq.registered⟩ ?_
        hsame.activeSessions hsame.borrowed
      intro t ht
      rcases List.mem_cons.mp ht with rfl | ht
      · exact ⟨h.table e.fd sid hentry, fun hpc => by cases hpc⟩
      · exact ⟨h.tasks t ht, h.erasing t ht⟩

theorem Tidy.close (h : Tidy s) (ht : t ∈ s.tasks) :
    Tidy ((s.setPc t .erase).closeFd t.fd t.session) := by
  have howner : ∀ fd sid, Function.update s.owner t.fd none fd = some sid → s.owner fd = some sid := by
    intro fd sid ho
    by_cases hf : fd = t.fd
    · rw [hf, Function.update_self] at ho
      cases ho
    · rwa [Function.update_of_ne hf] at ho
  refine ⟨h.table, ?_, h.active, h.borrowed, fun fd sid ho => h.opened fd sid (howner fd sid ho),
    h.numbers, ?_, ?_⟩
  · intro t' ht'
    rcases mem_tasks_setPc ht' with rfl | ht'
    · exact h.tasks t ht
    · exact h.tasks t' ht'
  · intro t' ht' hpc
    show Function.update s.owner t.fd none t'.fd = none
    by_cases hf : t'.fd = t.fd
    · rw [hf, Function.update_self]
    · rw [Function.update_of_ne hf]
      rcases mem_tasks_setPc ht' with rfl | ht'
      · exact absurd rfl hf
      · exact h.erasing t' ht' hpc
  · intro c hc
    rcases List.mem_append.mp hc with hc | hc
    · exact h.closes c hc
    · obtain rfl := List.mem_singleton.mp hc
      exact h.owner_eq (h.tasks t ht)

theorem Tidy.erased (h : Tidy s) (ht : t ∈ s.tasks) (hpc : t.pc = .erase) :
    Tidy { s.setPc t .finished with
      clientSessions := Function.update s.clientSessions t.fd none } := by
  have htasks := @Tidy.setPc s t .finished h ht (by simp)
  refine ⟨?_, fun t' ht' => (htasks t' ht').1, h.active, h.borrowed, ?_, h.numbers,
    fun t' ht' => (htasks t' ht').2, h.closes⟩
  · intro fd sid he
    by_cases hf : fd = t.fd
    · dsimp only at he
      rw [hf, Function.update_self] at he
      cases he
    · exact h.table fd sid ((Function.update_of_ne hf ..).symm.trans he)
  · intro fd sid ho
    have hold : s.owner fd = some sid := ho
    have hf : fd ≠ t.fd := by
      rintro rfl
      rw [h.erasing t ht hpc] at hold
      cases hold
    exact (Function.update_of_ne hf ..).trans (h.opened fd sid hold)

theorem Tidy.erase (h : Tidy s) (ht : t ∈ s.tasks) (hpc : t.pc = .erase) :
    Tidy (Server.releaseEntry { s.setPc t .finished with
      clientSessions := Function.update s.clientSessions t.fd none } (s.clientSessions t.fd)) := by
  have herased := h.erased ht hpc
  cases hentry : s.clientSessions t.fd with
  | none => exact herased
  | some entry =>
    cases entry with
    | none => exact herased
    | some sid => exact herased.release (h.table t.fd sid hentry)

theorem Tidy.dropTask (h : Tidy s) (t : Task) : Tidy { s with tasks := s.tasks.erase t } :=
  ⟨h.table, fun t' ht' => h.tasks t' (List.mem_of_mem_erase ht'), h.active, h.borrowed,
    h.opened, h.numbers, fun t' ht' => h.erasing t' (List.mem_of_mem_erase ht'), h.closes⟩

theorem Tidy.dropBorrowed (h : Tidy s) (sid : Nat) : Tidy { s with borrowed := s.borrowed.erase sid } :=
  ⟨h.table, h.tasks, h.active, fun sid' hb => h.borrowed sid' (List.mem_of_mem_erase hb),
    h.opened, h.numbers, h.erasing, h.closes⟩

/-- **Where `accept` does not return the number of a session that is not destroyed, the table and
the descriptors stay tidy.** -/
theorem tidy_step (h : Tidy s) (hg : FreshNumber s a) (hstep : serverStep s a = some s') : Tidy s' := by
  cases moves_of_step hstep with
  | refused fd sid blocked => exact h
  | accept fd sid blocked hfree hnew =>
    rw [h.handleTcpConnection_eq hg]
    exact h.accept hg hnew blocked
  | wait events hbatch hnodup hdel =>
    exact h.quiet (quiet_deliver s events) (fun t ht => ⟨h.tasks t ht, h.erasing t ht⟩) rfl rfl
  | dispatch e rest stillPending hbatch =>
    have hrest : Tidy { s with batch := rest } :=
      ⟨h.table, h.tasks, h.active, h.borrowed, h.opened, h.numbers, h.erasing, h.closes⟩
    exact hrest.dispatch e stillPending
  | start t ht hpc => exact h.quiet (quiet_setPc s t _) (h.setPc ht (by simp)) rfl rfl
  | login t clientId ht =>
    refine h.setActive clientId ?_
    intro e he
    obtain rfl := List.mem_singleton.mp he
    exact ⟨t.fd, h.tasks t ht⟩
  | ran t continueSession blocked ht hpc =>
    refine h.quiet (quiet_ran s t continueSession blocked) (h.setPc ht ?_) rfl rfl
    cases continueSession <;> simp
  | advance t s' ht hadv =>
    cases advances_of_advance hadv with
    | del hpc =>
      exact h.quiet (quiet_del s t) (h.setPc ht (by simp)) rfl rfl
    | close hpc =>
      exact h.close ht
    | erase hpc =>
      exact h.erase ht hpc
    | rearm hpc =>
      have hq := (quiet_setPc s t .finished).trans
        (quiet_epollMod _ t.fd (s.hasPendingMessages t.session) true)
      have hsame := sameThreads_epollMod (s.setPc t .finished) t.fd
        (s.hasPendingMessages t.session) true
      refine h.quiet hq ?_ hsame.activeSessions hsame.borrowed
      rw [hsame.tasks]
      exact h.setPc ht (by simp)
    | finished hpc =>
      exact (h.dropTask t).release (h.tasks t ht)
  | unregister clientId => exact h.setActive clientId fun e he => by cases he
  | borrow clientId sid hsid =>
    refine ⟨h.table, h.tasks, h.active, ?_, h.opened, h.numbers, h.erasing, h.closes⟩
    intro sid' hb
    rcases List.mem_cons.mp hb with rfl | hb
    · exact h.active (clientId, sid') (mem_of_lookup hsid)
    · exact h.borrowed sid' hb
  | giveBack sid hsid =>
    obtain ⟨fd, hliving⟩ := h.borrowed sid hsid
    exact (h.dropBorrowed sid).release hliving

/-- **While `accept` returns only numbers of destroyed sessions, no `close` ever hits the descriptor of
another session, and every open descriptor is in the table with its own living session.** -/
theorem closes_never_foreign (acts : List Act)
    (hall : Throughout serverStep .start acts FreshNumber) :
    Always serverStep .start acts fun s =>
      (∀ c ∈ s.closes, c.owner = none ∨ c.owner = some c.session) ∧
        ∀ fd sid, s.owner fd = some sid →
          s.clientSessions fd = some (some sid) ∧ s.identity sid = some (fd, true) := by
  have halways : Always serverStep .start acts Tidy :=
    always_guarded tidy_start (fun _ _ _ h hfresh hstep => tidy_step h hfresh hstep) hall
  refine halways.mono fun s h => ⟨h.closes, ?_⟩
  intro fd sid howner
  have hentry := h.opened fd sid howner
  exact ⟨hentry, h.table fd sid hentry⟩

end Logistics
