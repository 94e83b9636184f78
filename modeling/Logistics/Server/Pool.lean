import Logistics.Lib.Runs

/-!
# ThreadPool: workers, tasks and shutdown

The thread pool as the interleaving of its worker threads, of any number of callers of
`enqueueTask` and of `stop()`.  A step is what a thread does between two points where another
thread can come in:

* a worker tests `m_running`, takes the mutex, tests the predicate of `wait`, blocks (which releases
  the mutex), pops a task, finishes it;
* `enqueueTask` pushes under the mutex, and calls `notify_one` once it has released it;
* `stop()` writes `m_running` without the mutex, calls `notify_all`, and joins the workers in order.

A blocked worker may wake up without a notification.

* `Stranded`               `stop()` is past its `notify_all`, and a worker is blocked;
* `step_asleep`            once `m_running` is false, no worker falls asleep any more;
* `stop_strands_none_iff`  **none is stranded if none was about to block at `notify_all`**;
* `stop_strands_worker`    the run in which one is.
-/

namespace Logistics
open Runs

inductive WorkerPc where
  | loop            -- at `while (m_running)`
  | acquire         -- at the `unique_lock`
  | test            -- in `wait`, holds the mutex, about to test the predicate
  | falling         -- in `wait`, has found the predicate false and still holds the mutex
  | blocked         -- in `wait`, asleep
  | woken           -- in `wait`, notified, about to take the mutex again
  | granted         -- after `wait`, holds the mutex
  | working         -- runs its task
  | exited
  deriving DecidableEq, Repr

inductive StopPc where
  | idle
  | flagged                 -- `m_running` is written
  | joining (next : Nat)    -- `notify_all` is done, waits for the worker `next`
  | returned
  deriving DecidableEq, Repr

/-- a `std::function` may be empty -/
structure Pool (τ : Type) (n : Nat) where
  taskQueue : List (Option τ)
  running : Bool
  queueMutex : Option (Fin n)
  workers : Fin n → WorkerPc
  /-- the calls of `enqueueTask` that still have to call `notify_one` -/
  notifiers : Nat
  stop : StopPc

inductive PoolAct (τ : Type) (n : Nat) where
  | enqueueTask (task : Option τ)
  | notifyOne (k : Fin n)
  | notifyNobody
  | loop (k : Fin n)
  | lock (k : Fin n)
  | test (k : Fin n)
  | block (k : Fin n)
  | wake (k : Fin n)
  | next (k : Fin n)
  | finish (k : Fin n)
  | stop
  | notifyAll
  | join

namespace Pool
variable {τ : Type} {n : Nat}

/-- the pool once its constructor has started `n` threads -/
def start (τ : Type) (n : Nat) : Pool τ n := ⟨[], true, none, fun _ => .loop, 0, .idle⟩

def setPc (s : Pool τ n) (k : Fin n) (pc : WorkerPc) : Pool τ n :=
  { s with workers := Function.update s.workers k pc }

/-- `!m_taskQueue.empty() || !m_running` -/
def predicate (s : Pool τ n) : Bool := !s.taskQueue.isEmpty || !s.running

/-- the body of `workerThread` after `wait`: return, or take the next task -/
def nextTask (s : Pool τ n) (k : Fin n) : Option (Pool τ n) :=
  match s.taskQueue with
  | [] => if s.running then none else some { s.setPc k .exited with queueMutex := none }
  | task :: rest => some
      { s.setPc k (if task.isSome then .working else .loop) with
        taskQueue := rest
        queueMutex := none }

def wakeAll (s : Pool τ n) : Pool τ n :=
  { s with workers := fun k => if s.workers k = .blocked then .woken else s.workers k }

def step (s : Pool τ n) : PoolAct τ n → Option (Pool τ n)
  | .enqueueTask task =>
    if s.queueMutex = none then
      some { s with taskQueue := s.taskQueue ++ [task], notifiers := s.notifiers + 1 }
    else none
  | .notifyOne k =>
    if 0 < s.notifiers ∧ s.workers k = .blocked then
      some { s.setPc k .woken with notifiers := s.notifiers - 1 }
    else none
  | .notifyNobody =>
    if 0 < s.notifiers ∧ ∀ k, s.workers k ≠ .blocked then
      some { s with notifiers := s.notifiers - 1 }
    else none
  | .loop k =>
    if s.workers k = .loop then some (s.setPc k (if s.running then .acquire else .exited))
    else none
  | .lock k =>
    if (s.workers k = .acquire ∨ s.workers k = .woken) ∧ s.queueMutex = none then
      some { s.setPc k .test with queueMutex := some k }
    else none
  | .test k =>
    if s.workers k = .test then some (s.setPc k (if s.predicate then .granted else .falling))
    else none
  | .block k =>
    if s.workers k = .falling then some { s.setPc k .blocked with queueMutex := none } else none
  | .wake k => if s.workers k = .blocked then some (s.setPc k .woken) else none
  | .next k => if s.workers k = .granted then s.nextTask k else none
  | .finish k => if s.workers k = .working then some (s.setPc k .loop) else none
  | .stop =>
    if s.stop = .idle ∨ s.stop = .returned then
      some { s with running := false, stop := .flagged }
    else none
  | .notifyAll => if s.stop = .flagged then some { s.wakeAll with stop := .joining 0 } else none
  | .join =>
    match s.stop with
    | .joining next =>
      if h : next < n then
        if s.workers ⟨next, h⟩ = .exited then some { s with stop := .joining (next + 1) } else none
      else some { s with stop := .returned }
    | _ => none

/-- `stop()` has called `notify_all` -/
def Notified (s : Pool τ n) : Prop := s.stop = .returned ∨ ∃ next, s.stop = .joining next

def Stranded (s : Pool τ n) : Prop := s.Notified ∧ ∃ k, s.workers k = .blocked

/-- the worker sleeps in `wait`, or is about to -/
def Asleep (s : Pool τ n) (k : Fin n) : Prop := s.workers k = .falling ∨ s.workers k = .blocked

/-! ## what a step can do -/

/-- the steps of the pool, one constructor for each outcome -/
inductive Moves (s : Pool τ n) : PoolAct τ n → Pool τ n → Prop
  | enqueueTask (task : Option τ) (free : s.queueMutex = none) :
      Moves s (.enqueueTask task)
        { s with taskQueue := s.taskQueue ++ [task], notifiers := s.notifiers + 1 }
  | notifyOne (k : Fin n) (blocked : s.workers k = .blocked) :
      Moves s (.notifyOne k) { s.setPc k .woken with notifiers := s.notifiers - 1 }
  | notifyNobody : Moves s .notifyNobody { s with notifiers := s.notifiers - 1 }
  | enter (k : Fin n) (at_loop : s.workers k = .loop) (running : s.running = true) :
      Moves s (.loop k) (s.setPc k .acquire)
  | leave (k : Fin n) (at_loop : s.workers k = .loop) (stopped : s.running = false) :
      Moves s (.loop k) (s.setPc k .exited)
  | lock (k : Fin n) (waits : s.workers k = .acquire ∨ s.workers k = .woken)
      (free : s.queueMutex = none) :
      Moves s (.lock k) { s.setPc k .test with queueMutex := some k }
  | pass (k : Fin n) (at_test : s.workers k = .test) (holds : s.predicate = true) :
      Moves s (.test k) (s.setPc k .granted)
  | fall (k : Fin n) (at_test : s.workers k = .test) (fails : s.predicate = false) :
      Moves s (.test k) (s.setPc k .falling)
  | block (k : Fin n) (falling : s.workers k = .falling) :
      Moves s (.block k) { s.setPc k .blocked with queueMutex := none }
  | wake (k : Fin n) (blocked : s.workers k = .blocked) : Moves s (.wake k) (s.setPc k .woken)
  | quit (k : Fin n) (granted : s.workers k = .granted) (empty : s.taskQueue = [])
      (stopped : s.running = false) :
      Moves s (.next k) { s.setPc k .exited with queueMutex := none }
  | take (k : Fin n) (granted : s.workers k = .granted) (task : τ) (rest : List (Option τ))
      (queue : s.taskQueue = some task :: rest) :
      Moves s (.next k) { s.setPc k .working with taskQueue := rest, queueMutex := none }
  | skip (k : Fin n) (granted : s.workers k = .granted) (rest : List (Option τ))
      (queue : s.taskQueue = none :: rest) :
      Moves s (.next k) { s.setPc k .loop with taskQueue := rest, queueMutex := none }
  | finish (k : Fin n) (working : s.workers k = .working) : Moves s (.finish k) (s.setPc k .loop)
  | stop : Moves s .stop { s with running := false, stop := .flagged }
  | notifyAll (flagged : s.stop = .flagged) :
      Moves s .notifyAll { s.wakeAll with stop := .joining 0 }
  | join (next : Nat) (joining : s.stop = .joining next) :
      Moves s .join { s with stop := .joining (next + 1) }
  | joined (next : Nat) (joining : s.stop = .joining next) :
      Moves s .join { s with stop := .returned }

/-- **A step is one of these.** -/
theorem moves_of_step {s s' : Pool τ n} {a : PoolAct τ n} (h : s.step a = some s') :
    Moves s a s' := by
  cases a with
  | enqueueTask task =>
    obtain ⟨hfree, h⟩ := Option.ite_none_right_eq_some.mp h
    obtain rfl := Option.some.inj h
    exact .enqueueTask task hfree
  | notifyOne k =>
    obtain ⟨hk, h⟩ := Option.ite_none_right_eq_some.mp h
    obtain rfl := Option.some.inj h
    exact .notifyOne k hk.2
  | notifyNobody =>
    obtain ⟨-, h⟩ := Option.ite_none_right_eq_some.mp h
    obtain rfl := Option.some.inj h
    exact .notifyNobody
  | loop k =>
    obtain ⟨hloop, h⟩ := Option.ite_none_right_eq_some.mp h
    obtain rfl := Option.some.inj h
    cases hrunning : s.running with
    | true => exact .enter k hloop hrunning
    | false => exact .leave k hloop hrunning
  | lock k =>
    obtain ⟨hk, h⟩ := Option.ite_none_right_eq_some.mp h
    obtain rfl := Option.some.inj h
    exact .lock k hk.1 hk.2
  | test k =>
    obtain ⟨htest, h⟩ := Option.ite_none_right_eq_some.mp h
    obtain rfl := Option.some.inj h
    cases hp : s.predicate with
    | true => exact .pass k htest hp
    | false => exact .fall k htest hp
  | block k =>
    obtain ⟨hfalling, h⟩ := Option.ite_none_right_eq_some.mp h
    obtain rfl := Option.some.inj h
    exact .block k hfalling
  | wake k =>
    obtain ⟨hblocked, h⟩ := Option.ite_none_right_eq_some.mp h
    obtain rfl := Option.some.inj h
    exact .wake k hblocked
  | next k =>
    obtain ⟨hgranted, h⟩ := Option.ite_none_right_eq_some.mp h
    unfold nextTask at h
    cases hqueue : s.taskQueue with
    | nil =>
      simp only [hqueue] at h
      obtain ⟨hstopped, h⟩ := Option.ite_none_left_eq_some.mp h
      obtain rfl := Option.some.inj h
      exact .quit k hgranted hqueue (Bool.eq_false_iff.mpr hstopped)
    | cons task rest =>
      simp only [hqueue] at h
      obtain rfl := Option.some.inj h
      cases task with
      | some task => exact .take k hgranted task rest hqueue
      | none => exact .skip k hgranted rest hqueue
  | finish k =>
    obtain ⟨hworking, h⟩ := Option.ite_none_right_eq_some.mp h
    obtain rfl := Option.some.inj h
    exact .finish k hworking
  | stop =>
    obtain ⟨-, h⟩ := Option.ite_none_right_eq_some.mp h
    obtain rfl := Option.some.inj h
    exact .stop
  | notifyAll =>
    obtain ⟨hflagged, h⟩ := Option.ite_none_right_eq_some.mp h
    obtain rfl := Option.some.inj h
    exact .notifyAll hflagged
  | join =>
    simp only [step] at h
    cases hstop : s.stop with
    | joining next =>
      simp only [hstop] at h
      split at h
      · obtain ⟨-, h⟩ := Option.ite_none_right_eq_some.mp h
        obtain rfl := Option.some.inj h
        exact .join next hstop
      · obtain rfl := Option.some.inj h
        exact .joined next hstop
    | idle => simp [hstop] at h
    | flagged => simp [hstop] at h
    | returned => simp [hstop] at h

/-! ## the mutex -/

/-- the places at which a worker holds the mutex -/
def holds : WorkerPc → Bool
  | .test => true
  | .falling => true
  | .granted => true
  | _ => false

structure Exclusive (s : Pool τ n) : Prop where
  holder : ∀ k, holds (s.workers k) = true ↔ s.queueMutex = some k
  ready : ∀ k, s.workers k = .granted → s.predicate = true

section Exclusive
variable {s : Pool τ n}

theorem exclusive_start (τ : Type) (n : Nat) : Exclusive (start τ n) where
  holder k := by
    constructor
    · intro h
      cases h
    · intro h
      cases h
  ready k h := by cases h

/-- a worker goes on without giving up or taking the mutex -/
theorem Exclusive.move (h : Exclusive s) (k : Fin n) (pc : WorkerPc)
    (hsame : holds pc = holds (s.workers k)) (hready : pc = .granted → s.predicate = true) :
    Exclusive (s.setPc k pc) where
  holder k' := by
    show holds (Function.update s.workers k pc k') = true ↔ s.queueMutex = some k'
    by_cases hk : k' = k
    · rw [hk, Function.update_self, hsame]
      exact h.holder k
    · rw [Function.update_of_ne hk]
      exact h.holder k'
  ready k' hgranted := by
    show s.predicate = true
    by_cases hk : k' = k
    · have hpc : Function.update s.workers k pc k' = .granted := hgranted
      rw [hk, Function.update_self] at hpc
      exact hready hpc
    · have hpc : Function.update s.workers k pc k' = .granted := hgranted
      rw [Function.update_of_ne hk] at hpc
      exact h.ready k' hpc

theorem Exclusive.lock (h : Exclusive s) (k : Fin n) (hfree : s.queueMutex = none) :
    Exclusive { s.setPc k .test with queueMutex := some k } where
  holder k' := by
    show holds (Function.update s.workers k .test k') = true ↔ some k = some k'
    by_cases hk : k' = k
    · rw [hk, Function.update_self]
      exact iff_of_true rfl rfl
    · rw [Function.update_of_ne hk, h.holder k', hfree]
      exact iff_of_false (fun hn => by cases hn) fun hs => hk (Option.some.inj hs).symm
  ready k' hgranted := by
    have hpc : Function.update s.workers k .test k' = .granted := hgranted
    by_cases hk : k' = k
    · rw [hk, Function.update_self] at hpc
      cases hpc
    · rw [Function.update_of_ne hk] at hpc
      exact h.ready k' hpc

/-- the holder gives up the mutex; whatever it has done to the queue, no other worker is past its
`wait` -/
theorem Exclusive.unlock (h : Exclusive s) {k : Fin n} (hold : holds (s.workers k) = true)
    {pc : WorkerPc} (hpc : holds pc = false) (queue : List (Option τ)) :
    Exclusive { s.setPc k pc with taskQueue := queue, queueMutex := none } := by
  have hmutex := (h.holder k).mp hold
  have hnobody : ∀ k', holds (Function.update s.workers k pc k') = false := by
    intro k'
    by_cases hk : k' = k
    · rw [hk, Function.update_self]
      exact hpc
    · rw [Function.update_of_ne hk]
      refine Bool.eq_false_iff.mpr fun hk' => ?_
      have hmutex' := (h.holder k').mp hk'
      rw [hmutex] at hmutex'
      exact hk (Option.some.inj hmutex').symm
  constructor
  · intro k'
    have hno : holds (Function.update s.workers k pc k') = false := hnobody k'
    exact iff_of_false (fun hyes => Bool.false_ne_true (hno.symm.trans hyes)) (fun hn => by cases hn)
  · intro k' hgranted
    have hat : Function.update s.workers k pc k' = .granted := hgranted
    have hno := hnobody k'
    rw [hat] at hno
    cases hno

/-- the queue only grows, or the flag goes down: the predicate of a worker past its `wait` holds -/
theorem Exclusive.signal (h : Exclusive s) {s' : Pool τ n} (hmutex : s'.queueMutex = s.queueMutex)
    (hworkers : s'.workers = s.workers) (hpredicate : s'.predicate = true) : Exclusive s' where
  holder k := by
    rw [hmutex, hworkers]
    exact h.holder k
  ready _ _ := hpredicate

theorem holds_wakeAll (s : Pool τ n) (k : Fin n) :
    holds (s.wakeAll.workers k) = holds (s.workers k) := by
  show holds (if s.workers k = .blocked then .woken else s.workers k) = _
  by_cases hk : s.workers k = .blocked
  · rw [if_pos hk, hk]
    rfl
  · rw [if_neg hk]

theorem Exclusive.wakeAll (h : Exclusive s) (stop : StopPc) :
    Exclusive { s.wakeAll with stop := stop } where
  holder k := by
    show holds (s.wakeAll.workers k) = true ↔ s.queueMutex = some k
    rw [holds_wakeAll]
    exact h.holder k
  ready k hgranted := by
    have hat : (if s.workers k = .blocked then .woken else s.workers k) = WorkerPc.granted :=
      hgranted
    by_cases hk : s.workers k = .blocked
    · rw [if_pos hk] at hat
      cases hat
    · rw [if_neg hk] at hat
      exact h.ready k hat

theorem exclusive_step {s' : Pool τ n} {a : PoolAct τ n} (hs : s.step a = some s')
    (h : Exclusive s) : Exclusive s' := by
  cases moves_of_step hs with
  | enqueueTask task free =>
    refine h.signal rfl rfl ?_
    show (!(s.taskQueue ++ [task]).isEmpty || !s.running) = true
    simp
  | notifyOne k blocked =>
    have hmoved := h.move k .woken (by rw [blocked]; rfl) (fun hg => by cases hg)
    exact ⟨hmoved.holder, hmoved.ready⟩
  | notifyNobody => exact ⟨h.holder, h.ready⟩
  | enter k at_loop running => exact h.move k .acquire (by rw [at_loop]; rfl) (fun hg => by cases hg)
  | leave k at_loop stopped => exact h.move k .exited (by rw [at_loop]; rfl) (fun hg => by cases hg)
  | lock k waits free => exact h.lock k free
  | pass k at_test holds => exact h.move k .granted (by rw [at_test]; rfl) (fun _ => holds)
  | fall k at_test fails => exact h.move k .falling (by rw [at_test]; rfl) (fun hg => by cases hg)
  | block k falling => exact h.unlock (by rw [falling]; rfl) rfl s.taskQueue
  | wake k blocked => exact h.move k .woken (by rw [blocked]; rfl) (fun hg => by cases hg)
  | quit k granted empty stopped => exact h.unlock (by rw [granted]; rfl) rfl s.taskQueue
  | take k granted task rest queue => exact h.unlock (by rw [granted]; rfl) rfl rest
  | skip k granted rest queue => exact h.unlock (by rw [granted]; rfl) rfl rest
  | finish k working => exact h.move k .loop (by rw [working]; rfl) (fun hg => by cases hg)
  | stop =>
    refine h.signal rfl rfl ?_
    show (!s.taskQueue.isEmpty || !false) = true
    simp
  | notifyAll flagged => exact h.wakeAll (.joining 0)
  | join next joining => exact ⟨h.holder, h.ready⟩
  | joined next joining => exact ⟨h.holder, h.ready⟩

end Exclusive

/-! ## sleep and shutdown -/

section Sleep
variable {s s' : Pool τ n} {a : PoolAct τ n}

/-- once `stop()` has begun, `m_running` is false -/
def Lowered (s : Pool τ n) : Prop := s.stop ≠ .idle → s.running = false

theorem lowered_step (hs : s.step a = some s') (h : Lowered s) : Lowered s' := by
  cases moves_of_step hs with
  | stop => exact fun _ => rfl
  | notifyAll flagged =>
    intro _
    refine h ?_
    rw [flagged]
    exact fun hidle => by cases hidle
  | join next joining =>
    intro _
    refine h ?_
    rw [joining]
    exact fun hidle => by cases hidle
  | joined next joining =>
    intro _
    refine h ?_
    rw [joining]
    exact fun hidle => by cases hidle
  | _ => exact h

theorem running_step (hs : s.step a = some s') (h : s.running = false) : s'.running = false := by
  cases moves_of_step hs with
  | stop => rfl
  | _ => exact h

/-- a worker that is asleep after the move of a worker to a waking place was asleep before -/
theorem asleep_of_setPc (k : Fin n) {k' : Fin n} (pc : WorkerPc) (hf : pc ≠ .falling)
    (hb : pc ≠ .blocked) (h : (s.setPc k pc).Asleep k') : s.Asleep k' := by
  unfold Asleep setPc at h
  dsimp only at h
  by_cases hk : k' = k
  · rw [hk, Function.update_self] at h
    rcases h with h | h
    · exact absurd h hf
    · exact absurd h hb
  · rwa [Function.update_of_ne hk] at h

/-- **Once `m_running` is false no worker falls asleep**: the predicate of `wait` holds. -/
theorem step_asleep (hs : s.step a = some s') (hstopped : s.running = false) {k : Fin n}
    (hk : s'.Asleep k) : s.Asleep k := by
  cases moves_of_step hs with
  | notifyOne k' blocked => exact asleep_of_setPc k' .woken (by decide) (by decide) hk
  | enter k' at_loop running => exact asleep_of_setPc k' .acquire (by decide) (by decide) hk
  | leave k' at_loop stopped => exact asleep_of_setPc k' .exited (by decide) (by decide) hk
  | lock k' waits free => exact asleep_of_setPc k' .test (by decide) (by decide) hk
  | pass k' at_test holds => exact asleep_of_setPc k' .granted (by decide) (by decide) hk
  | fall k' at_test fails =>
    unfold predicate at fails
    simp [hstopped] at fails
  | block k' falling =>
    by_cases hkk : k = k'
    · rw [hkk]
      exact .inl falling
    · have hat : Function.update s.workers k' .blocked k = .falling ∨
          Function.update s.workers k' .blocked k = .blocked := hk
      rwa [Function.update_of_ne hkk] at hat
  | wake k' blocked => exact asleep_of_setPc k' .woken (by decide) (by decide) hk
  | quit k' granted empty stopped =>
    exact asleep_of_setPc k' .exited (by decide) (by decide) hk
  | take k' granted task rest queue =>
    exact asleep_of_setPc k' .working (by decide) (by decide) hk
  | skip k' granted rest queue =>
    exact asleep_of_setPc k' .loop (by decide) (by decide) hk
  | finish k' working => exact asleep_of_setPc k' .loop (by decide) (by decide) hk
  | notifyAll flagged =>
    have hat : (if s.workers k = .blocked then .woken else s.workers k) = WorkerPc.falling ∨
        (if s.workers k = .blocked then .woken else s.workers k) = WorkerPc.blocked := hk
    by_cases hb : s.workers k = .blocked
    · exact .inr hb
    · rwa [if_neg hb] at hat
  | enqueueTask task free => exact hk
  | notifyNobody => exact hk
  | stop => exact hk
  | join next joining => exact hk
  | joined next joining => exact hk

/-- the flag is down and every worker is awake -/
structure Awake (s : Pool τ n) : Prop where
  stopped : s.running = false
  workers : ∀ k, ¬ s.Asleep k

theorem awake_run (h : Awake s) {acts : List (PoolAct τ n)}
    (hrun : runFrom step s acts = some s') : Awake s' := by
  refine runFrom_invariant (I := Awake) h ?_ acts s' hrun
  intro s₁ a s₂ h₁ hs
  exact ⟨running_step hs h₁.stopped, fun k hk => h₁.workers k (step_asleep hs h₁.stopped hk)⟩

/-- `notify_all` wakes every worker but those about to block -/
theorem asleep_wakeAll {k : Fin n} {stop : StopPc}
    (h : Asleep { s.wakeAll with stop := stop } k) : s.workers k = .falling := by
  have hat : (if s.workers k = .blocked then .woken else s.workers k) = WorkerPc.falling ∨
      (if s.workers k = .blocked then .woken else s.workers k) = WorkerPc.blocked := h
  by_cases hb : s.workers k = .blocked
  · rw [if_pos hb] at hat
    rcases hat with hat | hat
    · cases hat
    · cases hat
  · rw [if_neg hb] at hat
    exact hat.resolve_right hb

/-- a worker about to block at the `notify_all` blocks after it -/
theorem falling_stranded (hnotify : s.step .notifyAll = some s') {k : Fin n}
    (hk : s.workers k = .falling) : ∃ s'', s'.step (.block k) = some s'' ∧ s''.Stranded := by
  obtain ⟨-, hnotify⟩ := Option.ite_none_right_eq_some.mp hnotify
  obtain rfl := Option.some.inj hnotify
  have hstill : s.wakeAll.workers k = .falling := by
    show (if s.workers k = .blocked then .woken else s.workers k) = WorkerPc.falling
    rw [hk]
    rfl
  refine ⟨_, if_pos hstill, .inr ⟨0, rfl⟩, k, ?_⟩
  exact Function.update_self k _ _

end Sleep

/-- **No state after the `notify_all` of `stop()` has a blocked worker, exactly if at the
`notify_all` no worker was between its test of the predicate and its block.** -/
theorem stop_strands_none_iff (τ : Type) (n : Nat) (acts : List (PoolAct τ n)) (s s' : Pool τ n)
    (hrun : runFrom step (start τ n) acts = some s) (hnotify : s.step .notifyAll = some s') :
    (∀ acts' s'', runFrom step s' acts' = some s'' → ¬ s''.Stranded) ↔
      ∀ k, s.workers k ≠ .falling := by
  constructor
  · intro hnever k hk
    obtain ⟨s'', hblock, hstranded⟩ := falling_stranded hnotify hk
    refine hnever [.block k] s'' ?_ hstranded
    rw [runFrom_cons, hblock]
    rfl
  · intro hnone acts' s'' hrun' hstranded
    have hlowered : Lowered s := by
      refine runFrom_invariant (I := Lowered) ?_ (fun _ _ _ h hs => lowered_step hs h) acts s hrun
      exact fun hidle => absurd rfl hidle
    obtain ⟨hflagged, hnotify⟩ := Option.ite_none_right_eq_some.mp hnotify
    obtain rfl := Option.some.inj hnotify
    have hawake : Awake { s.wakeAll with stop := .joining 0 } := by
      refine ⟨hlowered ?_, fun k hk => hnone k (asleep_wakeAll hk)⟩
      rw [hflagged]
      exact fun hidle => by cases hidle
    obtain ⟨-, k, hblocked⟩ := hstranded
    exact (awake_run hawake hrun').workers k (.inr hblocked)

/-! One worker finds the queue empty and the pool running, and blocks before `stop()`: whatever happens
after the `notify_all`, it does not sleep. -/

def earlySleeper : List (PoolAct Unit 1) := [.loop 0, .lock 0, .test 0, .block 0, .stop]

theorem earlySleeper_isSome : (runFrom step (start Unit 1) earlySleeper).isSome := by
  decide

def flagDown : Pool Unit 1 := (runFrom step (start Unit 1) earlySleeper).get earlySleeper_isSome

theorem notified_isSome : (flagDown.step .notifyAll).isSome := by
  decide

theorem stop_strands_none_early : flagDown.workers 0 = .blocked ∧
    ∀ acts s, runFrom step ((flagDown.step .notifyAll).get notified_isSome) acts = some s →
      ¬ s.Stranded := by
  refine ⟨rfl, (stop_strands_none_iff Unit 1 earlySleeper flagDown _
    (Option.some_get earlySleeper_isSome).symm (Option.some_get notified_isSome).symm).mpr ?_⟩
  decide

/-! The same worker finds the queue empty and the pool running; `stop()` writes the flag and notifies;
only then does the worker block.  From there nothing but a wakeup out of the blue or a new task moves
the pool. -/

def lateSleeper : List (PoolAct Unit 1) :=
  [.loop 0, .lock 0, .test 0, .stop, .notifyAll, .block 0]

theorem lateSleeper_isSome : (runFrom step (start Unit 1) lateSleeper).isSome := by
  decide

def leftAsleep : Pool Unit 1 := (runFrom step (start Unit 1) lateSleeper).get lateSleeper_isSome

theorem stop_strands_worker :
    runFrom step (start Unit 1) lateSleeper = some leftAsleep ∧ leftAsleep.Stranded ∧
      leftAsleep.notifiers = 0 ∧
      ∀ a, (∀ task, a ≠ .enqueueTask task) → a ≠ .wake 0 → leftAsleep.step a = none := by
  refine ⟨(Option.some_get lateSleeper_isSome).symm, ⟨.inr ⟨0, rfl⟩, 0, rfl⟩, rfl, ?_⟩
  intro a htask hwake
  have hone : ∀ k : Fin 1, k = 0 := fun k => Subsingleton.elim k 0
  cases a with
  | enqueueTask task => exact absurd rfl (htask task)
  | wake k =>
    rw [hone k] at hwake
    exact absurd rfl hwake
  | notifyOne k =>
    rw [hone k]
    rfl
  | loop k =>
    rw [hone k]
    rfl
  | lock k =>
    rw [hone k]
    rfl
  | test k =>
    rw [hone k]
    rfl
  | block k =>
    rw [hone k]
    rfl
  | next k =>
    rw [hone k]
    rfl
  | finish k =>
    rw [hone k]
    rfl
  | notifyNobody => rfl
  | stop => rfl
  | notifyAll => rfl
  | join => rfl

end Pool

end Logistics
