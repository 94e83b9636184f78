import Logistics.Server.Ownership

/-!
# One handler per descriptor

`EPOLLONESHOT` is to keep two workers from handling one client: a registration that has delivered
an event stays quiet until the worker re-arms it.  For a descriptor there is then one of: an enabled
registration, an event still to be dispatched, a task that has not reached the end of its body.

* `Serial`, `Server.shares`   the invariant: at most one of them at a time;
* `KeepsOneShot`              a write event that is dispatched leaves a message queued;
* `one_handler`               **a descriptor then has one task at most, and a session one worker**;
* `two_handlers_after_flush`  the run that flushes a queued reply.
-/

namespace Logistics
open Runs

/-- the task is waiting or running for the descriptor -/
def handles (fd : Nat) (t : Task) : Bool := t.fd = fd ∧ t.pc ≠ .finished

/-- the task is in `clientSession::run` of the session -/
def runs (sid : Nat) (t : Task) : Bool := t.session = sid ∧ t.pc = .running

structure OneHandler (s : Server) : Prop where
  descriptor : ∀ fd, s.tasks.countP (handles fd) ≤ 1
  session : ∀ sid, s.tasks.countP (runs sid) ≤ 1

namespace Server

def enabled (s : Server) (fd : Nat) : Bool := (s.registration fd).any Registration.enabled

/-- what may lead to a run of the descriptor's session -/
def shares (s : Server) (fd : Nat) : Nat :=
  s.tasks.countP (handles fd) + s.batch.countP (fun e => e.fd = fd) + (s.enabled fd).toNat

end Server

structure Serial (s : Server) : Prop where
  oneshot : ∀ fd r, s.registration fd = some r → r.oneshot = true
  registered : ∀ fd, s.registration fd ≠ none → s.owner fd ≠ none
  events : ∀ e ∈ s.batch, s.owner e.fd ≠ none
  single : ∀ fd, s.shares fd ≤ 1

/-- a dispatched write event does not empty the queue -/
def KeepsOneShot (s : Server) : Act → Prop
  | .dispatch stillPending => ∀ e rest sid, s.batch = e :: rest → e.out = true →
      s.clientSessions e.fd = some (some sid) → (s.hasPendingMessages sid && stillPending) = true
  | _ => True

theorem serial_start : Serial .start where
  oneshot _ _ h := by cases h
  registered _ h := absurd rfl h
  events _ h := by cases h
  single _ := Nat.zero_le 1

variable {s s' : Server} {a : Act} {e : EpollEvent} {t : Task} {pc : Pc} {sid fd : Nat}

/-! ## counting -/

theorem countP_setPc (ht : t ∈ s.tasks) (pc : Pc) (p : Task → Bool) :
    (s.setPc t pc).tasks.countP p + (p t).toNat =
      s.tasks.countP p + (p ⟨t.session, t.fd, pc⟩).toNat := by
  have hperm := (List.perm_cons_erase ht).countP_eq p
  rw [List.countP_cons] at hperm
  unfold Server.setPc
  rw [List.countP_cons, hperm]
  cases p t <;> cases p ⟨t.session, t.fd, pc⟩ <;> simp

/-- a task that goes on handles what it handled -/
theorem shares_setPc (ht : t ∈ s.tasks) (hold : t.pc ≠ .finished) (hnew : pc ≠ .finished)
    (fd : Nat) : (s.setPc t pc).shares fd = s.shares fd := by
  have hcount := countP_setPc ht pc (handles fd)
  have hsame : handles fd ⟨t.session, t.fd, pc⟩ = handles fd t := by
    unfold handles
    simp [hold, hnew]
  rw [hsame] at hcount
  unfold Server.shares
  show (s.setPc t pc).tasks.countP (handles fd) + s.batch.countP _ + (s.enabled fd).toNat = _
  omega

/-- the end of a task's body gives its share back -/
theorem countP_finished (ht : t ∈ s.tasks) (hold : t.pc ≠ .finished) (fd : Nat) :
    (s.setPc t .finished).tasks.countP (handles fd) + (if fd = t.fd then 1 else 0) =
      s.tasks.countP (handles fd) := by
  have hcount := countP_setPc ht .finished (handles fd)
  have hdone : handles fd ⟨t.session, t.fd, .finished⟩ = false := by
    unfold handles
    simp
  have hwas : (handles fd t).toNat = if fd = t.fd then 1 else 0 := by
    unfold handles
    by_cases hf : fd = t.fd
    · simp [hf, hold]
    · simp [hf, Ne.symm hf]
  rw [hdone, hwas] at hcount
  simpa using hcount

theorem one_le_countP_handles (ht : t ∈ s.tasks) (hpc : t.pc ≠ .finished) :
    1 ≤ s.tasks.countP (handles t.fd) := by
  refine List.countP_pos_iff.mpr ⟨t, ht, ?_⟩
  unfold handles
  simp [hpc]

theorem one_le_countP_batch (he : e ∈ s.batch) : 1 ≤ s.batch.countP (fun e' => e'.fd = e.fd) :=
  List.countP_pos_iff.mpr ⟨e, he, by simp⟩

/-! ## steps that give no share -/

theorem enabled_le (h : s'.registration fd = s.registration fd ∨ s'.registration fd = none) :
    (s'.enabled fd).toNat ≤ (s.enabled fd).toNat := by
  unfold Server.enabled
  rcases h with h | h
  · rw [h]
  · rw [h]
    exact Nat.zero_le _

theorem Serial.shrink (h : Serial s) (howner : s'.owner = s.owner)
    (hreg : ∀ fd, s'.registration fd = s.registration fd ∨ s'.registration fd = none)
    (hbatch : s'.batch = s.batch)
    (htasks : ∀ fd, s'.tasks.countP (handles fd) ≤ s.tasks.countP (handles fd)) : Serial s' := by
  refine ⟨?_, ?_, ?_, ?_⟩
  · intro fd r hr
    rcases hreg fd with he | he
    · exact h.oneshot fd r (he.symm.trans hr)
    · rw [he] at hr
      cases hr
  · intro fd hr
    rw [howner]
    rcases hreg fd with he | he
    · exact h.registered fd (he ▸ hr)
    · exact absurd he hr
  · rw [hbatch, howner]
    exact h.events
  · intro fd
    have hsingle := h.single fd
    have henabled := enabled_le (hreg fd)
    have hcount := htasks fd
    unfold Server.shares at hsingle ⊢
    rw [hbatch]
    omega

/-- the destructor takes no live registration away and gives none -/
theorem Serial.release (h : Serial s) (htidy : Tidy s)
    (hliving : s.identity sid = some (fd, true)) : Serial (s.release sid) := by
  obtain ⟨pending, ho⟩ := Server.identity_eq.mp hliving
  unfold Server.release
  rw [ho]
  dsimp only
  split
  · exact h
  · rename_i hnot
    have hfree := htidy.owner_of_not_held hliving hnot
    refine h.shrink ?_ ?_ rfl (fun _ => le_rfl)
    · exact Function.update_eq_iff.mpr ⟨hfree.symm, fun _ _ => rfl⟩
    · intro fd'
      show Function.update s.registration fd none fd' = _ ∨
        Function.update s.registration fd none fd' = none
      by_cases hf : fd' = fd
      · exact .inr (by rw [hf, Function.update_self])
      · exact .inl (by rw [Function.update_of_ne hf])

theorem Serial.setActive (h : Serial s) (htidy : Tidy s) (clientId : String)
    {entry : List (String × Nat)} (hentry : ∀ e ∈ entry, ∃ fd, s.identity e.2 = some (fd, true)) :
    Serial (s.setActive clientId entry) := by
  have hset : Serial { s with
      activeSessions := entry ++ s.activeSessions.filter fun e => e.1 ≠ clientId } :=
    ⟨h.oneshot, h.registered, h.events, h.single⟩
  have htidy' := htidy.withActive clientId hentry
  unfold Server.setActive
  dsimp only
  cases hold : s.activeSessions.lookup clientId with
  | none => exact hset
  | some old =>
    obtain ⟨fd, hliving⟩ := htidy.active (clientId, old) (mem_of_lookup hold)
    exact hset.release htidy' hliving

/-! ## steps that move a share -/

theorem Serial.accept (h : Serial s) (htidy : Tidy s) (hfree : s.owner fd = none)
    (hfresh : ∀ sid, s.identity sid ≠ some (fd, true)) (sid : Nat) (blocked : Bool) :
    Serial (s.accepted fd sid blocked) := by
  have hreg : (s.accepted fd sid blocked).registration =
      Function.update s.registration fd (some ⟨false, true, true⟩) := rfl
  have howner : (s.accepted fd sid blocked).owner = Function.update s.owner fd (some sid) := rfl
  refine ⟨?_, ?_, ?_, ?_⟩
  · intro fd' r hr
    rw [hreg] at hr
    by_cases hf : fd' = fd
    · rw [hf, Function.update_self] at hr
      cases hr
      rfl
    · rw [Function.update_of_ne hf] at hr
      exact h.oneshot fd' r hr
  · intro fd' hr
    rw [hreg] at hr
    rw [howner]
    by_cases hf : fd' = fd
    · rw [hf, Function.update_self]
      simp
    · rw [Function.update_of_ne hf] at hr ⊢
      exact h.registered fd' hr
  · intro e he
    rw [howner]
    have hf : e.fd ≠ fd := by
      intro hf
      exact h.events e he (hf ▸ hfree)
    rw [Function.update_of_ne hf]
    exact h.events e he
  · intro fd'
    by_cases hf : fd' = fd
    · -- no task and no event is left over from an earlier use of the number
      have htasks : s.tasks.countP (handles fd) = 0 := by
        refine List.countP_eq_zero.mpr ?_
        intro t ht hhandles
        have heq : t.fd = fd := (of_decide_eq_true hhandles).1
        exact hfresh t.session (heq ▸ htidy.tasks t ht)
      have hbatch : s.batch.countP (fun e => e.fd = fd) = 0 := by
        refine List.countP_eq_zero.mpr ?_
        intro e he heq
        exact h.events e he (of_decide_eq_true heq ▸ hfree)
      unfold Server.shares
      show s.tasks.countP _ + s.batch.countP _ + _ ≤ 1
      rw [hf, htasks, hbatch]
      have := Bool.toNat_le ((s.accepted fd sid blocked).enabled fd)
      omega
    · have hsame : (s.accepted fd sid blocked).enabled fd' = s.enabled fd' := by
        unfold Server.enabled
        rw [hreg, Function.update_of_ne hf]
      have hsingle := h.single fd'
      unfold Server.shares at hsingle ⊢
      rw [hsame]
      exact hsingle

theorem countP_events {events : List EpollEvent} (h : (events.map EpollEvent.fd).Nodup) (fd : Nat) :
    events.countP (fun e => e.fd = fd) ≤ 1 := by
  have hcount : events.countP (fun e => e.fd = fd) = (events.map EpollEvent.fd).count fd := by
    rw [List.count, List.countP_map]
    rfl
  rw [hcount]
  exact List.nodup_iff_count_le_one.mp h fd

theorem enabled_of_deliverable (h : s.deliverable e = true) : s.enabled e.fd = true := by
  unfold Server.deliverable at h
  unfold Server.enabled
  cases hr : s.registration e.fd with
  | none =>
    rw [hr] at h
    cases h
  | some r =>
    rw [hr] at h
    exact (Bool.and_eq_true_iff.mp h).1

theorem Serial.wait (h : Serial s) {events : List EpollEvent} (hempty : s.batch = [])
    (hnodup : (events.map EpollEvent.fd).Nodup) (hdel : ∀ e ∈ events, s.deliverable e = true) :
    Serial (s.deliver events) := by
  have hreg : ∀ fd, (s.deliver events).registration fd =
      if fd ∈ events.map EpollEvent.fd then (s.registration fd).map Registration.delivered
      else s.registration fd := fun _ => rfl
  refine ⟨?_, ?_, ?_, ?_⟩
  · intro fd r hr
    rw [hreg] at hr
    split at hr
    · obtain ⟨r₀, hr₀, rfl⟩ := Option.map_eq_some_iff.mp hr
      have hone := h.oneshot fd r₀ hr₀
      unfold Registration.delivered
      rw [if_pos hone]
      exact hone
    · exact h.oneshot fd r hr
  · intro fd hr
    exact h.registered fd ((quiet_deliver s events).registered fd hr)
  · intro e he
    exact h.registered e.fd (registered_of_deliverable (hdel e he))
  · intro fd
    have hsingle := h.single fd
    unfold Server.shares at hsingle ⊢
    rw [hempty, List.countP_nil] at hsingle
    show s.tasks.countP _ + events.countP _ + _ ≤ 1
    by_cases hf : fd ∈ events.map EpollEvent.fd
    · -- the registration's share goes to the event
      obtain ⟨e, he, rfl⟩ := List.mem_map.mp hf
      have hwas := enabled_of_deliverable (hdel e he)
      have hquiet : (s.deliver events).enabled e.fd = false := by
        unfold Server.enabled
        rw [hreg, if_pos hf]
        cases hr : s.registration e.fd with
        | none => rfl
        | some r =>
          show (Registration.delivered r).enabled = false
          unfold Registration.delivered
          rw [if_pos (h.oneshot e.fd r hr)]
      have hone := countP_events hnodup e.fd
      rw [hwas, Bool.toNat_true] at hsingle
      rw [hquiet, Bool.toNat_false]
      omega
    · have hnone : events.countP (fun e => e.fd = fd) = 0 := by
        refine List.countP_eq_zero.mpr ?_
        intro e he heq
        exact hf (List.mem_map.mpr ⟨e, he, of_decide_eq_true heq⟩)
      have hsame : (s.deliver events).enabled fd = s.enabled fd := by
        unfold Server.enabled
        rw [hreg, if_neg hf]
      rw [hnone, hsame]
      exact hsingle

theorem hasPendingMessages_setPending (s : Server) (sid : Nat) (stillPending : Bool) :
    (s.setPending sid fun pending => pending && stillPending).hasPendingMessages sid =
      (s.hasPendingMessages sid && stillPending) := by
  unfold Server.setPending Server.hasPendingMessages
  dsimp only
  rw [Function.update_self]
  cases s.objects sid with
  | none => rfl
  | some o => rfl

/-- `pendingMessages` leaves the registration alone while a message is queued -/
theorem registration_flush {stillPending : Bool}
    (h : ∀ sid, e.out = true → s.clientSessions e.fd = some (some sid) →
      (s.hasPendingMessages sid && stillPending) = true) :
    (s.flush e stillPending).registration = s.registration := by
  unfold Server.flush
  split
  · rename_i hout
    unfold Server.pendingMessages
    split
    · rfl
    · rfl
    · rename_i sid hentry
      dsimp only
      rw [hasPendingMessages_setPending, h sid hout hentry]
      rfl
  · rfl

theorem Serial.popped (h : Serial s) {rest : List EpollEvent} (hbatch : s.batch = e :: rest) :
    Serial { s with batch := rest } := by
  refine ⟨h.oneshot, h.registered, ?_, ?_⟩
  · intro e' he'
    refine h.events e' ?_
    rw [hbatch]
    exact List.mem_cons_of_mem e he'
  · intro fd
    have hsingle := h.single fd
    unfold Server.shares at hsingle ⊢
    rw [hbatch, List.countP_cons] at hsingle
    show s.tasks.countP _ + rest.countP _ + (s.enabled fd).toNat ≤ 1
    omega

theorem Serial.dispatch (h : Serial s) {rest : List EpollEvent} {stillPending : Bool}
    (hbatch : s.batch = e :: rest)
    (hg : ∀ sid, e.out = true → s.clientSessions e.fd = some (some sid) →
      (s.hasPendingMessages sid && stillPending) = true) :
    Serial (Server.dispatch { s with batch := rest } e stillPending) := by
  have hpop := h.popped hbatch
  -- the event's share goes to the task, if there is one
  have hroom : ∀ fd, s.tasks.countP (handles fd) + (if fd = e.fd then 1 else 0) +
      rest.countP (fun e' => e'.fd = fd) + (s.enabled fd).toNat ≤ 1 := by
    intro fd
    have hsingle := h.single fd
    unfold Server.shares at hsingle
    rw [hbatch, List.countP_cons] at hsingle
    by_cases hf : fd = e.fd
    · rw [if_pos hf]
      rw [if_pos (by simp [hf])] at hsingle
      omega
    · rw [if_neg hf]
      omega
  generalize hs : ({ s with batch := rest } : Server) = s₀ at hpop ⊢
  cases hentry : s₀.clientSessions e.fd with
  | none =>
    rcases dispatch_absent hentry stillPending with heq | heq
    · rw [heq]
      exact hpop
    · rw [heq]
      exact ⟨hpop.oneshot, hpop.registered, hpop.events, hpop.single⟩
  | some entry =>
    cases entry with
    | none =>
      rw [dispatch_null hentry]
      exact hpop
    | some sid =>
      have hq : Quiet s₀ (s₀.flush e stillPending) := quiet_flush (by simp [hentry]) stillPending
      have hsame := sameThreads_flush s₀ e stillPending
      have hreg : (s₀.flush e stillPending).registration = s₀.registration := by
        refine registration_flush ?_
        rw [← hs]
        exact hg
      rw [dispatch_session hentry]
      refine ⟨?_, ?_, ?_, ?_⟩
      · show ∀ fd r, (s₀.flush e stillPending).registration fd = some r → _
        rw [hreg]
        exact hpop.oneshot
      · show ∀ fd, (s₀.flush e stillPending).registration fd ≠ none →
          (s₀.flush e stillPending).owner fd ≠ none
        rw [hreg, hq.owner]
        exact hpop.registered
      · show ∀ e' ∈ (s₀.flush e stillPending).batch, (s₀.flush e stillPending).owner e'.fd ≠ none
        rw [hsame.batch, hq.owner]
        exact hpop.events
      · intro fd
        have hbound := hroom fd
        have hhandles : (if handles fd ⟨sid, e.fd, .queued⟩ = true then 1 else 0) =
            if fd = e.fd then 1 else 0 := by
          unfold handles
          simp [eq_comm]
        unfold Server.shares Server.enabled
        show List.countP (handles fd) (⟨sid, e.fd, .queued⟩ :: s₀.tasks) +
          (s₀.flush e stillPending).batch.countP _ +
            (((s₀.flush e stillPending).registration fd).any Registration.enabled).toNat ≤ 1
        rw [hsame.batch, hreg, List.countP_cons, hhandles, ← hs]
        unfold Server.enabled at hbound
        show s.tasks.countP _ + _ + rest.countP _ +
          ((s.registration fd).any Registration.enabled).toNat ≤ 1
        omega

theorem Serial.close (h : Serial s) (ht : t ∈ s.tasks) (hpc : t.pc = .close) :
    Serial ((s.setPc t .erase).closeFd t.fd t.session) := by
  have hnot : t.pc ≠ .finished := by rw [hpc]; simp
  have hshares : ∀ fd, (s.setPc t .erase).shares fd = s.shares fd :=
    shares_setPc ht hnot (by simp)
  refine ⟨?_, ?_, ?_, ?_⟩
  · intro fd r hr
    change Function.update s.registration t.fd none fd = some r at hr
    by_cases hf : fd = t.fd
    · rw [hf, Function.update_self] at hr
      cases hr
    · rw [Function.update_of_ne hf] at hr
      exact h.oneshot fd r hr
  · intro fd hr
    change Function.update s.registration t.fd none fd ≠ none at hr
    show Function.update s.owner t.fd none fd ≠ none
    by_cases hf : fd = t.fd
    · rw [hf, Function.update_self] at hr
      exact absurd rfl hr
    · rw [Function.update_of_ne hf] at hr ⊢
      exact h.registered fd hr
  · intro e he
    -- the task has the share, so no event of the descriptor is waiting
    have hf : e.fd ≠ t.fd := by
      intro hf
      have hsingle := h.single t.fd
      have htask := one_le_countP_handles ht hnot
      have hevent := one_le_countP_batch (s := s) he
      rw [hf] at hevent
      unfold Server.shares at hsingle
      omega
    show Function.update s.owner t.fd none e.fd ≠ none
    rw [Function.update_of_ne hf]
    exact h.events e he
  · intro fd
    have hsingle := h.single fd
    rw [← hshares] at hsingle
    have henabled : ((s.setPc t .erase).closeFd t.fd t.session).enabled fd ≤ s.enabled fd := by
      unfold Server.enabled
      show (Function.update s.registration t.fd none fd).any _ ≤ _
      by_cases hf : fd = t.fd
      · rw [hf, Function.update_self]
        exact Bool.false_le _
      · rw [Function.update_of_ne hf]
    unfold Server.shares at hsingle ⊢
    have hle := Bool.toNat_le_toNat henabled
    show (s.setPc t .erase).tasks.countP _ + s.batch.countP _ + _ ≤ 1
    change (s.setPc t .erase).tasks.countP _ + s.batch.countP _ + (s.enabled fd).toNat ≤ 1 at hsingle
    omega

theorem Serial.rearm (h : Serial s) (ht : t ∈ s.tasks) (hpc : t.pc = .rearm) (out : Bool) :
    Serial ((s.setPc t .finished).epollMod t.fd out true) := by
  have hnot : t.pc ≠ .finished := by rw [hpc]; simp
  have hcount := countP_finished ht hnot
  unfold Server.epollMod
  cases hr : (s.setPc t .finished).registration t.fd with
  | none =>
    refine h.shrink rfl (fun _ => .inl rfl) rfl ?_
    intro fd
    have htask := hcount fd
    show (s.setPc t .finished).tasks.countP _ ≤ _
    omega
  | some r =>
    have hreg : s.registration t.fd = some r := hr
    refine ⟨?_, ?_, h.events, ?_⟩
    · intro fd r' hr'
      change Function.update s.registration t.fd _ fd = some r' at hr'
      by_cases hf : fd = t.fd
      · rw [hf, Function.update_self] at hr'
        cases hr'
        rfl
      · rw [Function.update_of_ne hf] at hr'
        exact h.oneshot fd r' hr'
    · intro fd hr'
      refine h.registered fd ?_
      by_cases hf : fd = t.fd
      · rw [hf, hreg]
        simp
      · change Function.update s.registration t.fd _ fd ≠ none at hr'
        rwa [Function.update_of_ne hf] at hr'
    · intro fd
      have hsingle := h.single fd
      have htask := hcount fd
      unfold Server.shares Server.enabled at hsingle ⊢
      show (s.setPc t .finished).tasks.countP _ + s.batch.countP _ +
        ((Function.update s.registration t.fd (some ⟨out, true, true⟩) fd).any
          Registration.enabled).toNat ≤ 1
      by_cases hf : fd = t.fd
      · -- the task's share goes to the registration
        subst hf
        rw [if_pos rfl] at htask
        rw [Function.update_self]
        show _ + 1 ≤ 1
        omega
      · rw [if_neg hf] at htask
        rw [Function.update_of_ne hf]
        omega

theorem Serial.erase (h : Serial s) (htidy : Tidy s) (ht : t ∈ s.tasks) (hpc : t.pc = .erase) :
    Serial (Server.releaseEntry { s.setPc t .finished with
      clientSessions := Function.update s.clientSessions t.fd none } (s.clientSessions t.fd)) := by
  have hcount := countP_finished ht (by rw [hpc]; simp)
  have herased : Serial { s.setPc t .finished with
      clientSessions := Function.update s.clientSessions t.fd none } := by
    refine h.shrink rfl (fun _ => .inl rfl) rfl ?_
    intro fd
    have htask := hcount fd
    show (s.setPc t .finished).tasks.countP _ ≤ _
    omega
  cases hentry : s.clientSessions t.fd with
  | none => exact herased
  | some entry =>
    cases entry with
    | none => exact herased
    | some sid => exact herased.release (htidy.erased ht hpc) (htidy.table t.fd sid hentry)

/-! ## steps and runs -/

theorem Serial.setPc (h : Serial s) (ht : t ∈ s.tasks) (hold : t.pc ≠ .finished)
    (hnew : pc ≠ .finished) : Serial (s.setPc t pc) :=
  ⟨h.oneshot, h.registered, h.events, fun fd => (shares_setPc ht hold hnew fd).le.trans (h.single fd)⟩

theorem serial_step (h : Serial s) (htidy : Tidy s) (hg : FreshNumber s a) (hone : KeepsOneShot s a)
    (hstep : serverStep s a = some s') : Serial s' := by
  cases moves_of_step hstep with
  | refused fd sid blocked => exact h
  | accept fd sid blocked hfree hnew =>
    rw [htidy.handleTcpConnection_eq hg]
    exact h.accept htidy hfree hg sid blocked
  | wait events hbatch hnodup hdel => exact h.wait hbatch hnodup hdel
  | dispatch e rest stillPending hbatch =>
    exact h.dispatch hbatch fun sid => hone e rest sid hbatch
  | start t ht hpc => exact h.setPc ht (by rw [hpc]; simp) (by simp)
  | login t clientId ht =>
    refine h.setActive htidy clientId ?_
    intro e he
    obtain rfl := List.mem_singleton.mp he
    exact ⟨t.fd, htidy.tasks t ht⟩
  | ran t continueSession blocked ht hpc =>
    have hnext : Serial (s.setPc t (if continueSession = true then .rearm else .del)) :=
      h.setPc ht (by rw [hpc]; simp) (by cases continueSession <;> simp)
    exact ⟨hnext.oneshot, hnext.registered, hnext.events, hnext.single⟩
  | advance t s' ht hadv =>
    cases advances_of_advance hadv with
    | del hpc =>
      have hnext : Serial (s.setPc t .close) := h.setPc ht (by rw [hpc]; simp) (by simp)
      refine hnext.shrink rfl ?_ rfl (fun _ => le_rfl)
      intro fd
      show Function.update s.registration t.fd none fd = s.registration fd ∨
        Function.update s.registration t.fd none fd = none
      by_cases hf : fd = t.fd
      · exact .inr (by rw [hf, Function.update_self])
      · exact .inl (by rw [Function.update_of_ne hf])
    | close hpc =>
      exact h.close ht hpc
    | erase hpc =>
      exact h.erase htidy ht hpc
    | rearm hpc =>
      exact h.rearm ht hpc _
    | finished hpc =>
      have hrest : Serial { s with tasks := s.tasks.erase t } :=
        h.shrink rfl (fun _ => .inl rfl) rfl fun _ => List.erase_sublist.countP_le
      exact hrest.release (htidy.dropTask t) (htidy.tasks t ht)
  | unregister clientId => exact h.setActive htidy clientId fun e he => by cases he
  | borrow clientId sid hsid => exact ⟨h.oneshot, h.registered, h.events, h.single⟩
  | giveBack sid hsid =>
    obtain ⟨fd, hliving⟩ := htidy.borrowed sid hsid
    have hrest : Serial { s with borrowed := s.borrowed.erase sid } :=
      ⟨h.oneshot, h.registered, h.events, h.single⟩
    exact hrest.release (htidy.dropBorrowed sid) hliving

theorem Serial.oneHandler (h : Serial s) (htidy : Tidy s) : OneHandler s := by
  have hfd : ∀ fd, s.tasks.countP (handles fd) ≤ 1 := by
    intro fd
    have hsingle := h.single fd
    unfold Server.shares at hsingle
    omega
  refine ⟨hfd, ?_⟩
  intro sid
  by_cases hnone : ∃ t ∈ s.tasks, t.session = sid
  · -- all tasks of a session are for its one descriptor
    obtain ⟨t, ht, rfl⟩ := hnone
    refine le_trans (List.countP_mono_left ?_) (hfd t.fd)
    intro t' ht' hruns
    obtain ⟨hsession, hpc⟩ := of_decide_eq_true hruns
    have hid := htidy.tasks t' ht'
    rw [hsession, htidy.tasks t ht] at hid
    refine decide_eq_true ⟨?_, ?_⟩
    · exact (Prod.mk.inj (Option.some.inj hid)).1.symm
    · rw [hpc]
      simp
  · have hzero : s.tasks.countP (runs sid) = 0 := by
      refine List.countP_eq_zero.mpr ?_
      intro t ht hruns
      exact hnone ⟨t, ht, (of_decide_eq_true hruns).1⟩
    omega

/-- **Where no write event empties a queue and `accept` returns no number of a session that is not
destroyed, a descriptor never has two tasks queued or running, and no session is run twice at
once.** -/
theorem one_handler (acts : List Act)
    (hall : Throughout serverStep .start acts fun s a => KeepsOneShot s a ∧ FreshNumber s a) :
    Always serverStep .start acts OneHandler := by
  have halways : Always serverStep .start acts fun s => Serial s ∧ Tidy s := by
    refine always_guarded ⟨serial_start, tidy_start⟩ ?_ hall
    rintro s a s' ⟨hserial, htidy⟩ ⟨hone, hfresh⟩ hstep
    exact ⟨serial_step hserial htidy hfresh hone hstep, tidy_step htidy hfresh hstep⟩
  exact halways.mono fun s h => h.1.oneHandler h.2

/-! A reply is blocked and queued; when the socket is writable again the queue is flushed, and the
registration that `pendingMessages` leaves reports the client's next request while the task of the
write event is still waiting. -/

def blockedReply : List Act :=
  [.accept 7 0 true false, .wait [⟨7, false⟩], .dispatch false, .start ⟨0, 7, .queued⟩,
    .ran ⟨0, 7, .running⟩ true true, .advance ⟨0, 7, .rearm⟩, .advance ⟨0, 7, .finished⟩]

def flushedReply : List Act :=
  blockedReply ++ [.wait [⟨7, true⟩], .dispatch false, .wait [⟨7, false⟩], .dispatch false,
    .start ⟨0, 7, .queued⟩, .start ⟨0, 7, .queued⟩]

theorem flushedReply_isSome : (runFrom serverStep .start flushedReply).isSome := by decide

def flushedServer : Server := (runFrom serverStep .start flushedReply).get flushedReply_isSome

theorem two_handlers_after_flush :
    runFrom serverStep .start flushedReply = some flushedServer ∧
      flushedServer.owner 7 = some 0 ∧
      flushedServer.tasks = [⟨0, 7, .running⟩, ⟨0, 7, .running⟩] ∧
      ¬ Always serverStep .start flushedReply OneHandler := by
  have hrun := (Option.some_get flushedReply_isSome).symm
  have htasks : flushedServer.tasks = [⟨0, 7, .running⟩, ⟨0, 7, .running⟩] := by decide
  refine ⟨hrun, by decide, htasks, ?_⟩
  intro halways
  have hone := (halways flushedReply [] flushedServer (by simp) hrun).session 0
  rw [htasks] at hone
  exact absurd hone (by decide)

/-- a client is answered, the registration is renewed and the second request is run -/
def secondRequest : List Act :=
  [.accept 7 0 true false, .wait [⟨7, false⟩], .dispatch false, .start ⟨0, 7, .queued⟩,
    .ran ⟨0, 7, .running⟩ true false, .advance ⟨0, 7, .rearm⟩, .wait [⟨7, false⟩],
    .advance ⟨0, 7, .finished⟩, .dispatch false, .start ⟨0, 7, .queued⟩]

theorem one_handler_second_request : (runFrom serverStep .start secondRequest).isSome ∧
    Always serverStep .start secondRequest OneHandler := by
  refine ⟨by decide, one_handler _ ?_⟩
  have hread : ∀ s : Server, s.batch = [⟨7, false⟩] → KeepsOneShot s (.dispatch false) := by
    intro s hbatch e rest sid hcons hout
    rw [hbatch] at hcons
    cases hcons
    cases hout
  refine throughout_cons ⟨trivial, fun sid h => by cases h⟩ fun s hs => ?_
  cases hs
  refine throughout_cons ⟨trivial, trivial⟩ fun s hs => ?_
  cases hs
  refine throughout_cons ⟨hread _ rfl, trivial⟩ fun s hs => ?_
  cases hs
  refine throughout_cons ⟨trivial, trivial⟩ fun s hs => ?_
  cases hs
  refine throughout_cons ⟨trivial, trivial⟩ fun s hs => ?_
  cases hs
  refine throughout_cons ⟨trivial, trivial⟩ fun s hs => ?_
  cases hs
  refine throughout_cons ⟨trivial, trivial⟩ fun s hs => ?_
  cases hs
  refine throughout_cons ⟨trivial, trivial⟩ fun s hs => ?_
  cases hs
  refine throughout_cons ⟨hread _ rfl, trivial⟩ fun s hs => ?_
  exact throughout_cons ⟨trivial, trivial⟩ fun s hs => throughout_nil _ _

end Logistics
