import Logistics.Lib.Trace
import Logistics.Server.Pool

/-!
# ThreadPool: what becomes of a task

`TaskEvent` records what the pool does with the tasks: one is enqueued, a worker starts one, a worker
has finished the one it ran.  `log` lists these for a whole run, whatever the threads do in between.

* `tasks_in_order`      **tasks are started once, in the order in which they were enqueued**;
* `Attended`            a task in the queue has a worker that is awake or a notification on its way;
* `queued_tasks_start`  **the workers alone can start every task enqueued**: no wake-up is lost;
* `stop_winds_down`     **after `stop()` each worker starts one more task at most**.
-/

namespace Logistics

namespace Pool
open Runs
variable {τ : Type} {n : Nat}

inductive TaskEvent (τ : Type) (n : Nat) where
  | enqueued (task : τ)
  | started (k : Fin n) (task : τ)
  | finished (k : Fin n)
  deriving DecidableEq

/-- an empty `std::function` is no task: a worker that takes one goes on without a call -/
def events (s : Pool τ n) : PoolAct τ n → List (TaskEvent τ n)
  | .enqueueTask (some task) => [.enqueued task]
  | .next k =>
    match s.taskQueue with
    | some task :: _ => [.started k task]
    | _ => []
  | .finish k => [.finished k]
  | _ => []

def log (s : Pool τ n) (acts : List (PoolAct τ n)) : List (TaskEvent τ n) := trace step events s acts

namespace TaskEvent

def enqueued? : TaskEvent τ n → Option τ
  | .enqueued task => some task
  | _ => none

def started? : TaskEvent τ n → Option τ
  | .started _ task => some task
  | _ => none

def startedBy? (k : Fin n) : TaskEvent τ n → Option τ
  | .started k' task => if k' = k then some task else none
  | _ => none

def finishedBy (k : Fin n) : TaskEvent τ n → Bool
  | .finished k' => k' = k
  | _ => false

end TaskEvent

def enqueued (l : List (TaskEvent τ n)) : List τ := l.filterMap TaskEvent.enqueued?

def started (l : List (TaskEvent τ n)) : List τ := l.filterMap TaskEvent.started?

def startedBy (k : Fin n) (l : List (TaskEvent τ n)) : List τ :=
  l.filterMap (TaskEvent.startedBy? k)

def finishedBy (k : Fin n) (l : List (TaskEvent τ n)) : Nat := l.countP (TaskEvent.finishedBy k)

/-- the tasks in the queue -/
def waiting (s : Pool τ n) : List τ := s.taskQueue.reduceOption

/-! ## the order of the tasks -/

section Order
variable {s s' : Pool τ n} {a : PoolAct τ n}

theorem waiting_step (hs : s.step a = some s') :
    s.waiting ++ (events s a).filterMap TaskEvent.enqueued? =
      (events s a).filterMap TaskEvent.started? ++ s'.waiting := by
  unfold waiting
  cases moves_of_step hs with
  | enqueueTask task free =>
    show _ = _ ++ List.reduceOption (s.taskQueue ++ [task])
    rw [List.reduceOption_append]
    cases task with
    | none => rfl
    | some task => rfl
  | take k granted task rest queue =>
    simp only [events, queue]
    rw [List.reduceOption_cons_of_some]
    exact List.append_nil _
  | skip k granted rest queue =>
    simp only [events, queue]
    rw [List.reduceOption_cons_of_none]
    exact List.append_nil _
  | quit k granted empty stopped =>
    simp only [events, empty]
    show _ = List.reduceOption s.taskQueue
    rw [empty]
    rfl
  | _ => exact List.append_nil _

end Order

/-! ## the turns of one worker -/

/-- one worker goes from a place to a place, and has started and finished so many tasks by it -/
inductive Turn (running : Bool) : WorkerPc → WorkerPc → Nat → Nat → Prop
  | stays (pc : WorkerPc) : Turn running pc pc 0 0
  | enter (h : running = true) : Turn running .loop .acquire 0 0
  | leave (h : running = false) : Turn running .loop .exited 0 0
  | lock {pc : WorkerPc} (h : pc = .acquire ∨ pc = .woken) : Turn running pc .test 0 0
  | pass : Turn running .test .granted 0 0
  | fall : Turn running .test .falling 0 0
  | block : Turn running .falling .blocked 0 0
  | wake : Turn running .blocked .woken 0 0
  | quit (h : running = false) : Turn running .granted .exited 0 0
  | take : Turn running .granted .working 1 0
  | skip : Turn running .granted .loop 0 0
  | finish : Turn running .working .loop 0 1

section Turns
variable {s s' : Pool τ n} {a : PoolAct τ n}

/-- the worker `k'` moves, and only its own tasks are in the events -/
theorem turn_setPc {k' : Fin n} {pc : WorkerPc} {l : List (TaskEvent τ n)}
    (hself : Turn s.running (s.workers k') pc (startedBy k' l).length (finishedBy k' l))
    (hother : ∀ k, k' ≠ k → startedBy k l = [] ∧ finishedBy k l = 0) (k : Fin n) :
    Turn s.running (s.workers k) ((s.setPc k' pc).workers k) (startedBy k l).length
      (finishedBy k l) := by
  show Turn s.running (s.workers k) (Function.update s.workers k' pc k) _ _
  by_cases hk : k' = k
  · subst hk
    rw [Function.update_self]
    exact hself
  · obtain ⟨hstarted, hfinished⟩ := hother k hk
    rw [Function.update_of_ne (Ne.symm hk), hstarted, hfinished]
    exact .stays _

theorem turn_of_silent {k' : Fin n} {pc : WorkerPc}
    (h : Turn s.running (s.workers k') pc 0 0) (k : Fin n) :
    Turn s.running (s.workers k) ((s.setPc k' pc).workers k)
      (startedBy k ([] : List (TaskEvent τ n))).length (finishedBy k ([] : List (TaskEvent τ n))) :=
  turn_setPc (l := []) h (fun _ _ => ⟨rfl, rfl⟩) k

/-- **A step is at most one turn of each worker.** -/
theorem turn_of_step (hs : s.step a = some s') (k : Fin n) :
    Turn s.running (s.workers k) (s'.workers k) (startedBy k (events s a)).length
      (finishedBy k (events s a)) := by
  cases moves_of_step hs with
  | enqueueTask task free =>
    cases task with
    | none => exact .stays _
    | some task => exact .stays _
  | notifyOne k' blocked => exact turn_of_silent (by rw [blocked]; exact .wake) k
  | notifyNobody => exact .stays _
  | enter k' at_loop running => exact turn_of_silent (by rw [at_loop]; exact .enter running) k
  | leave k' at_loop stopped => exact turn_of_silent (by rw [at_loop]; exact .leave stopped) k
  | lock k' waits free => exact turn_of_silent (.lock waits) k
  | pass k' at_test holds => exact turn_of_silent (by rw [at_test]; exact .pass) k
  | fall k' at_test fails => exact turn_of_silent (by rw [at_test]; exact .fall) k
  | block k' falling => exact turn_of_silent (by rw [falling]; exact .block) k
  | wake k' blocked => exact turn_of_silent (by rw [blocked]; exact .wake) k
  | quit k' granted empty stopped =>
    simp only [events, empty]
    exact turn_of_silent (by rw [granted]; exact .quit stopped) k
  | take k' granted task rest queue =>
    simp only [events, queue]
    refine turn_setPc ?_ ?_ k
    · rw [granted]
      simp only [startedBy, finishedBy, TaskEvent.startedBy?, List.filterMap_cons, if_true]
      exact .take
    · intro k hk
      simp only [startedBy, finishedBy, TaskEvent.startedBy?, List.filterMap_cons, if_neg hk]
      exact ⟨rfl, rfl⟩
  | skip k' granted rest queue =>
    simp only [events, queue]
    exact turn_of_silent (by rw [granted]; exact .skip) k
  | finish k' working =>
    refine turn_setPc (l := [.finished k']) ?_ ?_ k
    · rw [working]
      simp only [finishedBy, List.countP_singleton, TaskEvent.finishedBy, decide_true, if_true]
      exact .finish
    · intro k hk
      simp only [finishedBy, List.countP_singleton, TaskEvent.finishedBy, hk, decide_false]
      exact ⟨rfl, rfl⟩
  | stop => exact .stays _
  | notifyAll flagged =>
    show Turn s.running (s.workers k) (if s.workers k = .blocked then .woken else s.workers k) 0 0
    by_cases hk : s.workers k = .blocked
    · rw [if_pos hk, hk]
      exact .wake
    · rw [if_neg hk]
      exact .stays _
  | join next joining => exact .stays _
  | joined next joining => exact .stays _

end Turns

theorem startedBy_append (k : Fin n) (l l' : List (TaskEvent τ n)) :
    startedBy k (l ++ l') = startedBy k l ++ startedBy k l' := List.filterMap_append

theorem finishedBy_append (k : Fin n) (l l' : List (TaskEvent τ n)) :
    finishedBy k (l ++ l') = finishedBy k l + finishedBy k l' := List.countP_append

/-- the tasks that a worker at this place has started and not finished -/
def inHand : WorkerPc → Nat
  | .working => 1
  | _ => 0

theorem Turn.inHand {running : Bool} {pc pc' : WorkerPc} {started finished : Nat}
    (h : Turn running pc pc' started finished) :
    Pool.inHand pc + started = finished + Pool.inHand pc' := by
  cases h with
  | stays pc => exact Nat.add_comm _ 0
  | lock h =>
    rcases h with rfl | rfl
    · rfl
    · rfl
  | _ => rfl

/-- **Tasks are started in the order in which they were enqueued, each once, and a worker finishes
one before it starts the next.** -/
theorem tasks_in_order (τ : Type) (n : Nat) (acts : List (PoolAct τ n)) (s : Pool τ n)
    (hrun : runFrom step (start τ n) acts = some s) :
    enqueued (log (start τ n) acts) = started (log (start τ n) acts) ++ s.waiting ∧
      ∀ k, (startedBy k (log (start τ n) acts)).length =
        finishedBy k (log (start τ n) acts) + inHand (s.workers k) := by
  refine ⟨trace_conserves waiting (fun _ _ _ hs => waiting_step hs) hrun, fun k => ?_⟩
  refine run_trace_induction step events (P := fun l s => (startedBy k l).length =
    finishedBy k l + inHand (s.workers k)) rfl ?_ acts s hrun
  intro l s a s' ih hs
  have hturn := (turn_of_step hs k).inHand
  rw [startedBy_append, finishedBy_append, List.length_append, ih]
  omega

def onlyWorker : Fin 1 := ⟨0, Nat.one_pos⟩

/-- two tasks, of which the first is started and the second waits -/
def twoTasks : List (PoolAct Nat 1) :=
  [.enqueueTask (some 7), .enqueueTask (some 8), .loop onlyWorker, .lock onlyWorker,
    .test onlyWorker, .next onlyWorker]

theorem twoTasks_runs : (runFrom step (start Nat 1) twoTasks).isSome := by decide

theorem second_task_waits :
    enqueued (log (start Nat 1) twoTasks) = started (log (start Nat 1) twoTasks) ++
      waiting ((runFrom step (start Nat 1) twoTasks).get twoTasks_runs) :=
  (tasks_in_order Nat 1 twoTasks _ (Option.some_get twoTasks_runs).symm).1

/-! ## no wake-up is lost -/

/-- the steps of the workers, and the notifications for them; no task comes in, `stop()` is not
called, and nobody wakes up without a notification -/
def internal : PoolAct τ n → Bool
  | .notifyOne _ => true
  | .loop _ => true
  | .lock _ => true
  | .test _ => true
  | .next _ => true
  | .finish _ => true
  | _ => false

structure Attended (s : Pool τ n) : Prop where
  exclusive : Exclusive s
  present : s.running = true → ∀ k, s.workers k ≠ .exited
  empty : s.running = true → ∀ k, s.workers k = .falling → s.taskQueue = []
  awake : s.running = true → s.taskQueue ≠ [] → 0 < s.notifiers ∨ ∃ k, s.workers k ≠ .blocked

section Attended
variable {s s' : Pool τ n} {a : PoolAct τ n}

theorem attended_start (hn : 0 < n) : Attended (start τ n) where
  exclusive := exclusive_start τ n
  present _ k h := by cases h
  empty _ k h := by cases h
  awake _ _ := .inr ⟨⟨0, hn⟩, fun h => by cases h⟩

theorem running_of_step (hs : s.step a = some s') (h : s'.running = true) : s.running = true := by
  cases hr : s.running with
  | true => rfl
  | false => rw [running_step hs hr] at h; cases h

/-- while the pool runs, no turn ends a worker -/
theorem Turn.present {pc pc' : WorkerPc} {i j : Nat} (h : Turn true pc pc' i j)
    (hpc : pc ≠ .exited) : pc' ≠ .exited := by
  cases h with
  | stays pc => exact hpc
  | leave h => cases h
  | quit h => cases h
  | _ => exact fun h => by cases h

theorem falling_of_setPc {k k' : Fin n} {pc : WorkerPc} (hpc : pc ≠ .falling)
    (h : (s.setPc k' pc).workers k = .falling) : s.workers k = .falling := by
  have hat : Function.update s.workers k' pc k = .falling := h
  by_cases hk : k = k'
  · rw [hk, Function.update_self] at hat
    exact absurd hat hpc
  · rwa [Function.update_of_ne hk] at hat

/-- a worker that is about to block holds the mutex, so no task has come in since its test -/
theorem empty_step (hs : s.step a = some s') (h : Attended s) (hr : s'.running = true) (k : Fin n)
    (hk : s'.workers k = .falling) : s'.taskQueue = [] := by
  have hrunning := running_of_step hs hr
  cases moves_of_step hs with
  | enqueueTask task free =>
    have hmutex := (h.exclusive.holder k).mp (by rw [show s.workers k = .falling from hk]; rfl)
    rw [free] at hmutex
    cases hmutex
  | fall k' at_test fails =>
    unfold predicate at fails
    show s.taskQueue = []
    simpa [hrunning] using fails
  | notifyOne k' blocked => exact h.empty hrunning k (falling_of_setPc (by decide) hk)
  | enter k' at_loop running => exact h.empty hrunning k (falling_of_setPc (by decide) hk)
  | leave k' at_loop stopped => exact h.empty hrunning k (falling_of_setPc (by decide) hk)
  | lock k' waits free => exact h.empty hrunning k (falling_of_setPc (by decide) hk)
  | pass k' at_test holds => exact h.empty hrunning k (falling_of_setPc (by decide) hk)
  | block k' falling => exact h.empty hrunning k (falling_of_setPc (by decide) hk)
  | wake k' blocked => exact h.empty hrunning k (falling_of_setPc (by decide) hk)
  | finish k' working => exact h.empty hrunning k (falling_of_setPc (by decide) hk)
  | quit k' granted empty stopped => exact empty
  | take k' granted task rest queue =>
    have hempty := h.empty hrunning k (falling_of_setPc (by decide) hk)
    rw [queue] at hempty
    cases hempty
  | skip k' granted rest queue =>
    have hempty := h.empty hrunning k (falling_of_setPc (by decide) hk)
    rw [queue] at hempty
    cases hempty
  | notifyAll flagged =>
    have hat : (if s.workers k = .blocked then .woken else s.workers k) = WorkerPc.falling := hk
    by_cases hb : s.workers k = .blocked
    · rw [if_pos hb] at hat
      cases hat
    · rw [if_neg hb] at hat
      exact h.empty hrunning k hat
  | notifyNobody => exact h.empty hrunning k hk
  | stop => cases hr
  | join next joining => exact h.empty hrunning k hk
  | joined next joining => exact h.empty hrunning k hk

/-- a worker that has moved is awake, unless it has blocked -/
theorem awake_of_setPc (k : Fin n) {pc : WorkerPc} (hpc : pc ≠ .blocked) :
    ∃ k', (s.setPc k pc).workers k' ≠ .blocked := by
  refine ⟨k, ?_⟩
  show Function.update s.workers k pc k ≠ .blocked
  rw [Function.update_self]
  exact hpc

theorem awake_step (hn : 0 < n) (hs : s.step a = some s') (h : Attended s)
    (hr : s'.running = true) (hqueue : s'.taskQueue ≠ []) :
    0 < s'.notifiers ∨ ∃ k, s'.workers k ≠ .blocked := by
  have hrunning := running_of_step hs hr
  cases hmoves : moves_of_step hs with
  | enqueueTask task free => exact .inl (Nat.succ_pos _)
  | notifyNobody =>
    -- nobody was blocked, and there is a worker
    obtain ⟨⟨-, hnobody⟩, -⟩ := Option.ite_none_right_eq_some.mp hs
    exact .inr ⟨⟨0, hn⟩, hnobody _⟩
  | block k falling => exact absurd (h.empty hrunning k falling) hqueue
  | notifyAll flagged =>
    refine .inr ⟨⟨0, hn⟩, ?_⟩
    show (if s.workers ⟨0, hn⟩ = .blocked then .woken else s.workers ⟨0, hn⟩) ≠ WorkerPc.blocked
    by_cases hb : s.workers ⟨0, hn⟩ = .blocked
    · rw [if_pos hb]
      decide
    · rwa [if_neg hb]
  | stop => cases hr
  | join next joining => exact h.awake hrunning hqueue
  | joined next joining => exact h.awake hrunning hqueue
  | notifyOne k blocked => exact .inr (awake_of_setPc k (by decide))
  | enter k at_loop running => exact .inr (awake_of_setPc k (by decide))
  | leave k at_loop stopped => exact .inr (awake_of_setPc k (by decide))
  | lock k waits free => exact .inr (awake_of_setPc k (by decide))
  | pass k at_test holds => exact .inr (awake_of_setPc k (by decide))
  | fall k at_test fails => exact .inr (awake_of_setPc k (by decide))
  | wake k blocked => exact .inr (awake_of_setPc k (by decide))
  | quit k granted empty stopped => exact .inr (awake_of_setPc k (by decide))
  | take k granted task rest queue => exact .inr (awake_of_setPc k (by decide))
  | skip k granted rest queue => exact .inr (awake_of_setPc k (by decide))
  | finish k working => exact .inr (awake_of_setPc k (by decide))

theorem attended_step (hn : 0 < n) (hs : s.step a = some s') (h : Attended s) : Attended s' where
  exclusive := exclusive_step hs h.exclusive
  present hr k := by
    have hrunning := running_of_step hs hr
    have hturn := turn_of_step hs k
    rw [hrunning] at hturn
    exact hturn.present (h.present hrunning k)
  empty hr k hk := empty_step hs h hr k hk
  awake hr hqueue := awake_step hn hs h hr hqueue

theorem attended_run (hn : 0 < n) {acts : List (PoolAct τ n)} (h : Attended s)
    (hrun : runFrom step s acts = some s') : Attended s' :=
  runFrom_invariant (I := Attended) h (fun _ _ _ h hs => attended_step hn hs h) acts s' hrun

end Attended

/-! ## the next task is started -/

/-- steps of the workers lead to a state in which the first task is out of the queue -/
def Served (s : Pool τ n) : Prop :=
  ∃ more s', (∀ a ∈ more, internal a = true) ∧ runFrom step s more = some s' ∧
    s'.taskQueue = s.taskQueue.tail ∧ s'.running = s.running

section Served
variable {s s' : Pool τ n} {a : PoolAct τ n} {k : Fin n}

theorem served_of_step (ha : internal a = true) (hs : s.step a = some s')
    (hqueue : s'.taskQueue = s.taskQueue) (hrunning : s'.running = s.running) (h : Served s') :
    Served s := by
  obtain ⟨more, s'', hmore, hrun, hqueue', hrunning'⟩ := h
  refine ⟨a :: more, s'', ?_, ?_, ?_, hrunning'.trans hrunning⟩
  · intro b hb
    rcases List.mem_cons.mp hb with rfl | hb
    · exact ha
    · exact hmore b hb
  · rw [runFrom_cons, hs]
    exact hrun
  · rw [hqueue', hqueue]

theorem served_of_granted (hk : s.workers k = .granted) (hqueue : s.taskQueue ≠ []) : Served s := by
  obtain ⟨task, rest, hqueue⟩ := List.exists_cons_of_ne_nil hqueue
  refine ⟨[.next k], { s.setPc k (if task.isSome then .working else .loop) with
    taskQueue := rest
    queueMutex := none }, ?_, ?_, ?_, rfl⟩
  · intro b hb
    rw [List.mem_singleton.mp hb]
    rfl
  · rw [runFrom_cons]
    simp only [step, hk, if_true, nextTask, hqueue]
    rfl
  · rw [hqueue]
    rfl

theorem served_of_test (hk : s.workers k = .test) (hqueue : s.taskQueue ≠ []) : Served s := by
  have hpredicate : s.predicate = true := by
    unfold predicate
    simp [hqueue]
  refine served_of_step (a := .test k) rfl (if_pos hk) rfl rfl ?_
  rw [hpredicate]
  exact served_of_granted (Function.update_self k _ _) hqueue

theorem served_of_waiting (hk : s.workers k = .acquire ∨ s.workers k = .woken)
    (hfree : s.queueMutex = none) (hqueue : s.taskQueue ≠ []) : Served s := by
  refine served_of_step (a := .lock k) rfl (if_pos ⟨hk, hfree⟩) rfl rfl ?_
  exact served_of_test (k := k) (Function.update_self k _ _) hqueue

theorem served_of_loop (hk : s.workers k = .loop) (hrunning : s.running = true)
    (hfree : s.queueMutex = none) (hqueue : s.taskQueue ≠ []) : Served s := by
  refine served_of_step (a := .loop k) rfl (if_pos hk) rfl rfl ?_
  rw [hrunning]
  exact served_of_waiting (k := k) (.inl (Function.update_self k _ _)) hfree hqueue

theorem served_of_working (hk : s.workers k = .working) (hrunning : s.running = true)
    (hfree : s.queueMutex = none) (hqueue : s.taskQueue ≠ []) : Served s := by
  refine served_of_step (a := .finish k) rfl (if_pos hk) rfl rfl ?_
  exact served_of_loop (k := k) (Function.update_self k _ _) hrunning hfree hqueue

theorem served_of_blocked (hk : s.workers k = .blocked) (hnotifiers : 0 < s.notifiers)
    (hfree : s.queueMutex = none) (hqueue : s.taskQueue ≠ []) : Served s := by
  refine served_of_step (a := .notifyOne k) rfl (if_pos ⟨hnotifiers, hk⟩) rfl rfl ?_
  exact served_of_waiting (k := k) (.inr (Function.update_self k _ _)) hfree hqueue

/-- **A task in the queue of a running pool can be started by the workers.** -/
theorem Attended.served (hn : 0 < n) (h : Attended s) (hrunning : s.running = true)
    (hqueue : s.taskQueue ≠ []) : Served s := by
  cases hmutex : s.queueMutex with
  | some k =>
    -- the holder of the mutex is the one to take the task
    have hholds := (h.exclusive.holder k).mpr hmutex
    cases hk : s.workers k with
    | test => exact served_of_test hk hqueue
    | granted => exact served_of_granted hk hqueue
    | falling => exact absurd (h.empty hrunning k hk) hqueue
    | _ => rw [hk] at hholds; cases hholds
  | none =>
    have hawake : ∃ k, s.workers k ≠ .blocked ∨ 0 < s.notifiers := by
      rcases h.awake hrunning hqueue with hnotifiers | ⟨k, hk⟩
      · exact ⟨⟨0, hn⟩, .inr hnotifiers⟩
      · exact ⟨k, .inl hk⟩
    obtain ⟨k, hawake⟩ := hawake
    have hnotHolds : holds (s.workers k) ≠ true := by
      rw [Ne, h.exclusive.holder k, hmutex]
      exact fun h => by cases h
    cases hk : s.workers k with
    | loop => exact served_of_loop hk hrunning hmutex hqueue
    | acquire => exact served_of_waiting (.inl hk) hmutex hqueue
    | woken => exact served_of_waiting (.inr hk) hmutex hqueue
    | working => exact served_of_working hk hrunning hmutex hqueue
    | blocked =>
      exact served_of_blocked hk (hawake.resolve_left fun h => h hk) hmutex hqueue
    | exited => exact absurd hk (h.present hrunning k)
    | _ => exact absurd (by rw [hk]; rfl) hnotHolds

/-- the queue can be emptied; induction on its length -/
theorem Attended.drained (hn : 0 < n) (h : Attended s) (hrunning : s.running = true) :
    ∃ more s', (∀ a ∈ more, internal a = true) ∧ runFrom step s more = some s' ∧
      s'.taskQueue = [] := by
  induction hlength : s.taskQueue.length generalizing s with
  | zero => exact ⟨[], s, (fun a ha => by cases ha), rfl, List.length_eq_zero_iff.mp hlength⟩
  | succ m ih =>
    have hqueue : s.taskQueue ≠ [] := by
      intro hempty
      rw [hempty] at hlength
      cases hlength
    obtain ⟨more, s₁, hmore, hrun, hqueue₁, hrunning₁⟩ := h.served hn hrunning hqueue
    have hlength₁ : s₁.taskQueue.length = m := by
      rw [hqueue₁, List.length_tail, hlength]
      rfl
    obtain ⟨more', s', hmore', hrun', hempty⟩ :=
      ih (attended_run hn h hrun) (hrunning₁.trans hrunning) hlength₁
    refine ⟨more ++ more', s', ?_, ?_, hempty⟩
    · intro a ha
      rcases List.mem_append.mp ha with ha | ha
      · exact hmore a ha
      · exact hmore' a ha
    · rw [runFrom_append, hrun]
      exact hrun'

end Served

theorem enqueued_events_internal {s : Pool τ n} {a : PoolAct τ n} (ha : internal a = true) :
    enqueued (events s a) = [] := by
  cases a with
  | next k =>
    simp only [events]
    split
    · rfl
    · rfl
  | notifyOne k => rfl
  | loop k => rfl
  | lock k => rfl
  | test k => rfl
  | finish k => rfl
  | _ => cases ha

/-- nothing is enqueued by the steps of the workers -/
theorem enqueued_log_internal {s : Pool τ n} {more : List (PoolAct τ n)}
    (hmore : ∀ a ∈ more, internal a = true) : enqueued (log s more) = [] := by
  induction more generalizing s with
  | nil => rfl
  | cons a more ih =>
    unfold log trace
    cases hs : s.step a with
    | none => rfl
    | some s' =>
      show enqueued (events s a ++ log s' more) = []
      unfold enqueued
      rw [List.filterMap_append]
      show enqueued (events s a) ++ enqueued (log s' more) = []
      rw [enqueued_events_internal (hmore a List.mem_cons_self),
        ih fun b hb => hmore b (List.mem_cons_of_mem a hb)]
      rfl

/-- **Whatever has happened so far, while the pool runs its workers can start every task that has
been enqueued.** -/
theorem queued_tasks_start (τ : Type) (n : Nat) (hn : 0 < n) (acts : List (PoolAct τ n))
    (s : Pool τ n) (hrun : runFrom step (start τ n) acts = some s) (hrunning : s.running = true) :
    ∃ more s', (∀ a ∈ more, internal a = true) ∧
      runFrom step (start τ n) (acts ++ more) = some s' ∧
      started (log (start τ n) (acts ++ more)) = enqueued (log (start τ n) acts) := by
  obtain ⟨more, s', hmore, hmoreRun, hempty⟩ :=
    (attended_run hn (attended_start hn) hrun).drained hn hrunning
  have hwhole : runFrom step (start τ n) (acts ++ more) = some s' := by
    rw [runFrom_append, hrun]
    exact hmoreRun
  refine ⟨more, s', hmore, hwhole, ?_⟩
  have hconserved := trace_conserves waiting (fun _ _ _ hs => waiting_step hs) hwhole
  have hsplit : log (start τ n) (acts ++ more) = log (start τ n) acts ++ log s more :=
    trace_append hrun more
  have hin : enqueued (log (start τ n) (acts ++ more)) = enqueued (log (start τ n) acts) := by
    rw [hsplit]
    unfold enqueued
    rw [List.filterMap_append]
    show _ ++ enqueued (log s more) = _
    rw [enqueued_log_internal hmore, List.append_nil]
  have hout : s'.waiting = [] := by
    unfold waiting
    rw [hempty]
    rfl
  rw [hout, List.append_nil] at hconserved
  exact hconserved.symm.trans hin

theorem both_tasks_start : 0 < 1 ∧ ∃ more s', (∀ a ∈ more, internal a = true) ∧
    runFrom step (start Nat 1) (twoTasks ++ more) = some s' ∧
    started (log (start Nat 1) (twoTasks ++ more)) = enqueued (log (start Nat 1) twoTasks) :=
  ⟨Nat.one_pos, queued_tasks_start Nat 1 Nat.one_pos twoTasks _
    (Option.some_get twoTasks_runs).symm (by decide)⟩

/-! ## shutdown -/

/-- how many tasks a worker at this place can still start once the flag is down -/
def credit : WorkerPc → Nat
  | .loop => 0
  | .working => 0
  | .exited => 0
  | _ => 1

theorem credit_le_one (pc : WorkerPc) : credit pc ≤ 1 := by
  cases pc <;> decide

theorem Turn.credit {pc pc' : WorkerPc} {i j : Nat} (h : Turn false pc pc' i j) :
    Pool.credit pc' + i ≤ Pool.credit pc := by
  cases h with
  | stays pc => exact Nat.le_refl _
  | enter h => cases h
  | lock h =>
    rcases h with rfl | rfl
    · exact Nat.le_refl _
    · exact Nat.le_refl _
  | _ => decide

section Shutdown
variable {s s' : Pool τ n} {a : PoolAct τ n} {acts : List (PoolAct τ n)}

/-- a worker starts no more tasks than it has credit for -/
theorem startedBy_le_credit (hstopped : s.running = false) (hrun : runFrom step s acts = some s')
    (k : Fin n) :
    credit (s'.workers k) + (startedBy k (log s acts)).length ≤ credit (s.workers k) := by
  have hall := run_trace_induction step events
    (P := fun l s' => s'.running = false ∧
      credit (s'.workers k) + (startedBy k l).length ≤ credit (s.workers k))
    ⟨hstopped, Nat.le_refl _⟩ ?_ acts s' hrun
  · exact hall.2
  · rintro l s₁ a s₂ ⟨hstopped₁, ih⟩ hs
    have hturn := turn_of_step hs k
    rw [hstopped₁] at hturn
    have hcredit := hturn.credit
    refine ⟨running_step hs hstopped₁, ?_⟩
    rw [startedBy_append, List.length_append]
    omega

/-- the workers that `stop()` has joined are gone -/
structure Joined (s : Pool τ n) : Prop where
  joining : ∀ next, s.stop = .joining next → ∀ k, k.val < next → s.workers k = .exited
  returned : s.stop = .returned → ∀ k, s.workers k = .exited

theorem Turn.exited {running : Bool} {pc : WorkerPc} {i j : Nat}
    (h : Turn running .exited pc i j) : pc = .exited := by
  cases h with
  | stays => rfl
  | lock h =>
    rcases h with h | h
    · cases h
    · cases h

theorem exited_step (hs : s.step a = some s') {k : Fin n} (hk : s.workers k = .exited) :
    s'.workers k = .exited := by
  have hturn := turn_of_step hs k
  rw [hk] at hturn
  exact hturn.exited

/-- a step that is not one of `stop()` -/
theorem Joined.keep (h : Joined s) (hs : s.step a = some s') (hstop : s'.stop = s.stop) :
    Joined s' where
  joining next hnext k hk := exited_step hs (h.joining next (hstop.symm.trans hnext) k hk)
  returned hreturned k := exited_step hs (h.returned (hstop.symm.trans hreturned) k)

theorem joined_step (hs : s.step a = some s') (h : Joined s) : Joined s' := by
  cases moves_of_step hs with
  | stop => exact ⟨(fun next hnext => by cases hnext), (fun hreturned => by cases hreturned)⟩
  | notifyAll flagged =>
    refine ⟨?_, fun hreturned => by cases hreturned⟩
    intro next hnext k hk
    cases hnext
    exact absurd hk (Nat.not_lt_zero _)
  | join next joining =>
    simp only [step, joining] at hs
    split at hs
    · rename_i hlt
      obtain ⟨hexited, -⟩ := Option.ite_none_right_eq_some.mp hs
      refine ⟨?_, fun hreturned => by cases hreturned⟩
      intro next' hnext k hk
      cases hnext
      by_cases hk' : k.val < next
      · exact h.joining next joining k hk'
      · obtain rfl : k = ⟨next, hlt⟩ := Fin.ext (by show k.val = next; omega)
        exact hexited
    · cases hs
  | joined next joining =>
    simp only [step, joining] at hs
    split at hs
    · obtain ⟨-, hs⟩ := Option.ite_none_right_eq_some.mp hs
      cases hs
    · rename_i hge
      refine ⟨(fun next hnext => by cases hnext), fun _ k => ?_⟩
      exact h.joining next joining k (by have := k.isLt; omega)
  | _ => exact h.keep hs rfl

theorem joined_start : Joined (start τ n) :=
  ⟨(fun next hnext => by cases hnext), (fun hreturned => by cases hreturned)⟩

end Shutdown

/-- **Once `m_running` is down, each worker starts one more task at most; once `stop()` has returned,
no task is started any more.** -/
theorem stop_winds_down (τ : Type) (n : Nat) (acts more : List (PoolAct τ n)) (s s' : Pool τ n)
    (hrun : runFrom step (start τ n) acts = some s) (hstopped : s.running = false)
    (hmore : runFrom step s more = some s') :
    (∀ k, (startedBy k (log s more)).length ≤ 1) ∧
      (s.stop = .returned → ∀ k, s.workers k = .exited ∧ startedBy k (log s more) = []) := by
  have hcredit := fun k => startedBy_le_credit hstopped hmore k
  refine ⟨fun k => ?_, fun hreturned k => ?_⟩
  · have hk := hcredit k
    have hone := credit_le_one (s.workers k)
    omega
  · have hjoined : Joined s := runFrom_invariant (I := Joined) joined_start
      (fun _ _ _ h hs => joined_step hs h) acts s hrun
    have hexited := hjoined.returned hreturned k
    have hk := hcredit k
    rw [hexited] at hk
    refine ⟨hexited, List.length_eq_zero_iff.mp ?_⟩
    have hzero : credit .exited = 0 := rfl
    omega

/-- the second task waits when `stop()` is called, and is not run by the worker that has the first -/
def stopAfterFirst : List (PoolAct Nat 1) := twoTasks ++ [.stop]

theorem stopAfterFirst_runs : (runFrom step (start Nat 1) stopAfterFirst).isSome := by decide

theorem second_task_dropped :
    (startedBy 0 (log ((runFrom step (start Nat 1) stopAfterFirst).get stopAfterFirst_runs)
      [.finish 0, .loop 0])).length ≤ 1 :=
  (stop_winds_down Nat 1 stopAfterFirst [.finish 0, .loop 0] _ _
    (Option.some_get stopAfterFirst_runs).symm (by decide) rfl).1 0

end Pool

end Logistics
