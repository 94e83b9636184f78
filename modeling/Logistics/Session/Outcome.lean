import Logistics.Session.System
import Logistics.Store.Refine

/-!
# The outcome of an input: its reply and its effect together

* `commandMessage_outcome`  **every command is answered with one of these outcomes**;
* `Happened`, `happened_after`   what an input does to the inventory and its cache.
-/

namespace Logistics

/-- **A command is answered, and with one of the outcomes**: a handler that throws has changed
nothing, and the `catch` around it answers with an error. -/
theorem commandMessage_outcome (L : Libs) (cfg : Config) (me : String) (request : Json) (s : St) :
    ∃ answer keep s', (commandMessage L cfg me request).run s = (.ok (answer, keep), s') ∧
      CommandOutcome L cfg me request s.core answer s'.core := by
  have hanswered := @processCommand_answered L cfg me request s
  unfold commandMessage
  rw [Prog.run_tryCatch]
  generalize (processCommand L cfg request me false).run s = r at hanswered ⊢
  obtain ⟨r, s'⟩ := r
  rcases hanswered with ⟨answer, keep, hr, houtcome⟩ | ⟨e, hr, hcore⟩
  · cases hr
    exact ⟨answer, keep, s', rfl, houtcome⟩
  · cases hr
    simp only [commandFailed, Prog.run_bind, run_log]
    rw [run_incrementError]
    refine ⟨_, _, _, rfl, ?_⟩
    have hafter : (s'.logged .error "ClientSession" ("CRITICAL: Unhandled exception for client " ++
        me ++ ". Error: " ++ L.what e) none).core = s.core :=
      (St.logged_core s' _ _ _ _).trans hcore
    rw [incrementError_core, hafter]
    exact .refused (status_reply L _ _)

/-- the same for a message of a session that is logged in -/
theorem processMessage_outcome (L : Libs) (cfg : Config) {sid : Nat} {text : Bytes}
    {request : Json} {s : St} (hp : L.parse text = some request)
    (ha : (s.core.sessions sid).isAuthenticated = true) :
    ∃ answer keep s', (processMessage L cfg sid text).run s = (.ok (answer, keep), s') ∧
      CommandOutcome L cfg (s.core.sessions sid).clientID request s.core answer s'.core := by
  rw [run_processMessage_member L cfg hp ha]
  have houtcome := commandMessage_outcome L cfg (s.core.sessions sid).clientID request
    (received L request s)
  rwa [received_core] at houtcome

/-! ## every input -/

theorem LockChange.cache {isLocked : Bool} {change : Finset String → Finset String}
    {client : String} {c c' : Core} {r : Except Exn Bool}
    (h : LockChange isLocked change client c r c') : c'.cache = c.cache := by
  cases h <;> rfl

/-- an input leaves the inventory and its cache alone, or is a command with an outcome -/
inductive Happened (L : Libs) (cfg : Config) (w : World) (i : Input) (c : Core) : Prop
  | aside (stock : c.stock = w.core.stock) (cache : c.cache = w.core.cache)
  | command {sid : Nat} {text : Bytes} {request : Json} {answer : Reply}
      (what : i.what = .message sid text)
      (member : (w.core.sessions sid).isAuthenticated = true)
      (text_eq : L.parse text = some request)
      (outcome : CommandOutcome L cfg (w.core.sessions sid).clientID request w.core answer c)

theorem happened_after (L : Libs) (cfg : Config) (w : World) (i : Input) :
    Happened L cfg w i (after L cfg w i) := by
  have hstepped := stepped_after L cfg w i
  generalize hc : after L cfg w i = c at hstepped ⊢
  cases hstepped with
  | login what success hrow hl effect => exact .aside effect.stock effect.cache
  | guest what guest noLogin effect => exact .aside effect.stock effect.cache
  | invalid what member text_eq => exact .aside rfl rfl
  | alert what noLock effect => exact .aside effect.stock effect.cache
  | alertLock what call change effect =>
    exact .aside (effect.stock.trans change.stock) (effect.cache.trans change.cache)
  | command what member text_eq effect =>
    obtain ⟨answer, keep, s', hrun, houtcome⟩ :=
      @processMessage_outcome L cfg _ _ _ (w.before i) text_eq member
    rw [after_message what, hrun] at hc
    rw [← hc]
    exact .command what member text_eq houtcome

end Logistics
