import Logistics.Session.ClientSession

/-!
# The order of a session's output

Runs of `sendWelcomeMessage`, `run` and `trySendPendingMessage` calls on any sessions, where every
`write` takes its whole buffer or would block.  `produced` collects, for each session, the messages
its calls have produced: the welcome, then the reply to each processed request.

* `InOrder`               the bytes written, followed by the queue, are the messages produced;
* `WritesInTurn`          a reply or welcome that is written at once finds the queue empty;
* `output_in_order`       **along a run of such calls the output is in order**;
* `reply_overtakes_queue` a reply is written past a queued one.
-/

namespace Logistics
open Runs

inductive OutputCall where
  | sendWelcomeMessage (sid : Nat)
  | run (sid : Nat) (input : ReadResult)
  | trySendPendingMessage (freed : Bytes) (sid : Nat)

def OutputCall.perform (L : Libs) (cfg : Config) : OutputCall → M Bool
  | .sendWelcomeMessage sid => Logistics.sendWelcomeMessage sid
  | .run sid input => Logistics.run L cfg sid input
  | .trySendPendingMessage freed sid => Logistics.trySendPendingMessage freed sid

structure OutputInput where
  call : OutputCall
  env : Nat → Answer

structure Output where
  world : World
  produced : Nat → Bytes

section
variable (L : Libs) (cfg : Config)

/-- the session and the message that a call produces -/
def OutputCall.message (s : St) : OutputCall → Option (Nat × Bytes)
  | .sendWelcomeMessage sid => some (sid, welcomeMessage)
  | .run sid (.data chunk) =>
    match (processMessage L cfg sid (cString chunk)).run s with
    | (.ok result, _) => some (sid, bytesOf result.1.text)
    | (.error _, _) => none
  | .run _ _ => none
  | .trySendPendingMessage _ _ => none

/-- the outcome of the `write` that a call makes -/
def OutputCall.written (s : St) : OutputCall → Option Written
  | .sendWelcomeMessage _ => some (s.env 0).written
  | .run sid (.data chunk) =>
    match (processMessage L cfg sid (cString chunk)).run s with
    | (.ok _, s') => some (s'.env 0).written
    | (.error _, _) => none
  | .run _ _ => none
  | .trySendPendingMessage _ _ => some (s.env 0).written

def Output.add (produced : Nat → Bytes) : Option (Nat × Bytes) → Nat → Bytes
  | none => produced
  | some (sid, message) => Function.update produced sid (produced sid ++ message)

def outputStep (o : Output) (i : OutputInput) : Option Output :=
  let s := o.world.facing i.env
  match i.call.written L cfg s with
  -- writes that are cut short or fail are not considered
  | some (.part _) => none
  | some .error => none
  | _ =>
    match (i.call.perform L cfg).run s with
    | (.ok _, s') => some ⟨s'.world, Output.add o.produced (i.call.message L cfg s)⟩
    | (.error _, _) => none

end

/-- every session is fresh -/
def Output.start (core : Core) (journal : Journal) (ips : Nat → String) : Output :=
  ⟨.start core journal ips, fun _ => []⟩

/-- the bytes written and then the contents of `m_pendingMessages` are the messages produced -/
def InOrder (o : Output) : Prop :=
  ∀ sid, (o.world.core.output sid).1 ++ (o.world.core.output sid).2.flatten = o.produced sid

/-- a message that is written as soon as it is produced finds `m_pendingMessages` empty -/
def WritesInTurn (L : Libs) (cfg : Config) (o : Output) (i : OutputInput) : Prop :=
  ∀ sid message, i.call.message L cfg (o.world.facing i.env) = some (sid, message) →
    i.call.written L cfg (o.world.facing i.env) = some .all →
      (o.world.core.output sid).2 = []

variable {L : Libs} {cfg : Config} {o o' : Output} {i : OutputInput}

/-! ## one call -/

theorem InOrder.same (h : InOrder o) (houtput : o'.world.core.output = o.world.core.output)
    (hproduced : o'.produced = o.produced) : InOrder o' := by
  intro sid
  rw [houtput, hproduced]
  exact h sid

/-- a new message goes behind everything that was produced before -/
theorem InOrder.message (h : InOrder o) {sid : Nat} {message : Bytes} {written : Written}
    (hwhole : written = .all ∨ written = .again)
    (hturn : written = .all → (o.world.core.output sid).2 = [])
    (houtput : o'.world.core.output = Function.update o.world.core.output sid
      (delivered written message (o.world.core.output sid)))
    (hproduced : o'.produced = Function.update o.produced sid (o.produced sid ++ message)) :
    InOrder o' := by
  intro sid'
  rw [houtput, hproduced]
  by_cases hs : sid' = sid
  · subst hs
    rw [Function.update_self, Function.update_self, ← h sid']
    rcases hwhole with rfl | rfl
    · show (_ ++ message) ++ List.flatten (o.world.core.output sid').2 = _
      rw [hturn rfl]
      simp
    · show _ ++ List.flatten ((o.world.core.output sid').2 ++ [message]) = _
      rw [List.flatten_append, List.append_assoc]
      simp [delivered]
  · rw [Function.update_of_ne hs, Function.update_of_ne hs]
    exact h sid'

/-- what is flushed was at the front of the queue -/
theorem InOrder.flush (h : InOrder o) {freed : Bytes} {sid : Nat} {written : Written}
    (hwhole : written = .all ∨ written = .again)
    (houtput : o'.world.core.output = Function.update o.world.core.output sid
      (flushed freed written (o.world.core.output sid))) (hproduced : o'.produced = o.produced) :
    InOrder o' := by
  intro sid'
  rw [houtput, hproduced]
  by_cases hs : sid' = sid
  · subst hs
    rw [Function.update_self, ← h sid']
    unfold flushed
    cases hpending : (o.world.core.output sid').2 with
    | nil =>
      dsimp only
      rw [hpending]
    | cons message rest =>
      rcases hwhole with rfl | rfl
      · have hpop : popSent freed message.length (message :: rest) = rest := if_neg (lt_irrefl _)
        dsimp only
        rw [hpop, List.flatten_cons, List.append_assoc]
      · dsimp only
        rw [hpending]
  · rw [Function.update_of_ne hs]
    exact h sid'

/-- the write of a step, if it makes one, was whole or blocked -/
theorem outputStep_eq_some (h : outputStep L cfg o i = some o') :
    (∀ written, i.call.written L cfg (o.world.facing i.env) = some written →
      written = .all ∨ written = .again) ∧
    o'.world.core = ((i.call.perform L cfg).run (o.world.facing i.env)).2.core ∧
    o'.produced = Output.add o.produced (i.call.message L cfg (o.world.facing i.env)) := by
  unfold outputStep at h
  dsimp only at h
  split at h
  · cases h
  · cases h
  · rename_i hpart herror
    generalize (i.call.perform L cfg).run (o.world.facing i.env) = r at h ⊢
    obtain ⟨r, s'⟩ := r
    cases r with
    | error e => cases h
    | ok b =>
      cases h
      refine ⟨?_, rfl, rfl⟩
      intro written hwritten
      cases written with
      | all => exact .inl rfl
      | part n => exact absurd hwritten (hpart n)
      | again => exact .inr rfl
      | error => exact absurd hwritten herror

/-- what one call does to the output: it lets a new message out, flushes, or does nothing -/
theorem outputStep_cases (h : outputStep L cfg o i = some o') :
    (∃ sid message written, i.call.message L cfg (o.world.facing i.env) = some (sid, message) ∧
      i.call.written L cfg (o.world.facing i.env) = some written ∧
      (written = .all ∨ written = .again) ∧
      o'.world.core.output = Function.update o.world.core.output sid
        (delivered written message (o.world.core.output sid)) ∧
      o'.produced = Function.update o.produced sid (o.produced sid ++ message)) ∨
    (i.call.message L cfg (o.world.facing i.env) = none ∧ o'.produced = o.produced ∧
      ((∃ freed sid written, (written = .all ∨ written = .again) ∧
          o'.world.core.output = Function.update o.world.core.output sid
            (flushed freed written (o.world.core.output sid))) ∨
        o'.world.core.output = o.world.core.output)) := by
  obtain ⟨hwhole, hcore, hproduced⟩ := outputStep_eq_some h
  rw [hcore, hproduced]
  cases hcall : i.call with
  | sendWelcomeMessage sid =>
    rw [hcall] at hwhole
    exact .inl ⟨sid, welcomeMessage, (i.env 0).written, rfl, rfl, hwhole _ rfl,
      sendWelcomeMessage_output sid (o.world.facing i.env), rfl⟩
  | trySendPendingMessage freed sid =>
    rw [hcall] at hwhole
    exact .inr ⟨rfl, rfl, .inl ⟨freed, sid, (i.env 0).written, hwhole _ rfl,
      trySendPendingMessage_output freed sid (o.world.facing i.env)⟩⟩
  | run sid input =>
    rw [hcall] at hwhole
    cases input with
    | data chunk =>
      unfold OutputCall.written at hwhole
      unfold OutputCall.message OutputCall.written
      rcases run_data_cases L cfg sid chunk (o.world.facing i.env) with
        ⟨e, s', hrun, houtput⟩ | ⟨result, s', hrun, houtput⟩
      · refine .inr ⟨?_, ?_, .inr houtput⟩
        · simp only [hrun]
        · simp only [hrun]
          rfl
      · simp only [hrun] at hwhole ⊢
        exact .inl ⟨sid, bytesOf result.1.text, (s'.env 0).written, rfl, rfl, hwhole _ rfl, houtput,
          rfl⟩
    | closed => exact .inr ⟨rfl, rfl, .inr (run_quiet L cfg sid (by simp) (o.world.facing i.env))⟩
    | again => exact .inr ⟨rfl, rfl, .inr (run_quiet L cfg sid (by simp) (o.world.facing i.env))⟩
    | error => exact .inr ⟨rfl, rfl, .inr (run_quiet L cfg sid (by simp) (o.world.facing i.env))⟩

theorem inOrder_step (h : InOrder o) (hturn : WritesInTurn L cfg o i)
    (hstep : outputStep L cfg o i = some o') : InOrder o' := by
  rcases outputStep_cases hstep with
    ⟨sid, message, written, hmessage, hwritten, hwhole, houtput, hproduced⟩ |
    ⟨-, hproduced, ⟨freed, sid, written, hwhole, houtput⟩ | houtput⟩
  · refine h.message hwhole ?_ houtput hproduced
    intro hall
    rw [hall] at hwritten
    exact hturn sid message hmessage hwritten
  · exact h.flush hwhole houtput hproduced
  · exact h.same houtput hproduced

/-- a message that a call produces is what the call itself puts on the socket or behind the queue -/
def HandsOn (L : Libs) (cfg : Config) (o : Output) (i : OutputInput) (o' : Output) : Prop :=
  ∀ sid message, i.call.message L cfg (o.world.facing i.env) = some (sid, message) →
    o'.world.core.output sid =
        ((o.world.core.output sid).1 ++ message, (o.world.core.output sid).2) ∨
      o'.world.core.output sid =
        ((o.world.core.output sid).1, (o.world.core.output sid).2 ++ [message])

theorem outputStep_handsOn (h : outputStep L cfg o i = some o') : HandsOn L cfg o i o' := by
  intro sid message hmessage
  rcases outputStep_cases h with ⟨sid', message', written, hmessage', -, hwhole, houtput, -⟩ |
    ⟨hnone, -⟩
  · cases hmessage.symm.trans hmessage'
    rw [houtput, Function.update_self]
    rcases hwhole with rfl | rfl
    · exact .inl rfl
    · exact .inr rfl
  · rw [hmessage] at hnone
    cases hnone

/-! ## runs -/

theorem inOrder_start (core : Core) (journal : Journal) (ips : Nat → String) :
    InOrder (.start core journal ips) := fun _ => rfl

/-- **Where every message that is written at once finds the queue of its session empty, the bytes
written and the queue are at all times the messages produced, in order.**  What a call is said to
produce is what it hands on. -/
theorem output_in_order (L : Libs) (cfg : Config) (core : Core) (journal : Journal)
    (ips : Nat → String) (inputs : List OutputInput)
    (hall : Throughout (outputStep L cfg) (.start core journal ips) inputs (WritesInTurn L cfg)) :
    Always (outputStep L cfg) (.start core journal ips) inputs InOrder ∧
      ∀ o i o', outputStep L cfg o i = some o' → HandsOn L cfg o i o' :=
  ⟨always_guarded (inOrder_start core journal ips)
    (fun _ _ _ h hturn hstep => inOrder_step h hturn hstep) hall, fun _ _ _ => outputStep_handsOn⟩

/-! A guest sends a request and then a text that is not JSON.  The socket blocks on the reply to the
first and takes the reply to the second. -/

def emptyRequest : Json := .obj []

def guestStart : Output := .start (.boot .empty .empty fun _ => "") .empty fun _ => "10.0.0.1"

def blocked : Nat → Answer := fun _ => ⟨0, false, "", .again, none⟩

def firstReply : Bytes :=
  bytesOf (Json.render (statusReply "error" "Authentication required. Please log in first."))

def secondReply : Bytes := bytesOf invalidJson.1.text

def overtaking : List OutputInput :=
  [⟨.run 0 (.data (bytesOf emptyRequest.render)), blocked⟩, ⟨.run 0 (.data (bytesOf "oops")), healthy⟩]

theorem overtaking_isSome :
    (runFrom (outputStep (.known [emptyRequest]) .sample) guestStart overtaking).isSome := by decide

def overtaken : Output :=
  (runFrom (outputStep (.known [emptyRequest]) .sample) guestStart overtaking).get overtaking_isSome

theorem reply_overtakes_queue :
    runFrom (outputStep (.known [emptyRequest]) .sample) guestStart overtaking = some overtaken ∧
      overtaken.world.core.output 0 = (secondReply, [firstReply]) ∧
      overtaken.produced 0 = firstReply ++ secondReply ∧
      ¬ Always (outputStep (.known [emptyRequest]) .sample) guestStart overtaking InOrder := by
  have hrun := (Option.some_get overtaking_isSome).symm
  have houtput : overtaken.world.core.output 0 = (secondReply, [firstReply]) := by decide
  have hproduced : overtaken.produced 0 = firstReply ++ secondReply := by decide
  refine ⟨hrun, houtput, hproduced, ?_⟩
  intro halways
  have horder := halways overtaking [] overtaken (by simp) hrun 0
  rw [houtput, hproduced] at horder
  exact absurd horder (by decide)

/-- the welcome, a reply that is blocked and flushed, and another reply -/
theorem output_in_order_guest :
    Always (outputStep (.known [emptyRequest]) .sample) guestStart
      [⟨.sendWelcomeMessage 0, healthy⟩, ⟨.run 0 (.data (bytesOf emptyRequest.render)), blocked⟩,
        ⟨.trySendPendingMessage [] 0, healthy⟩, ⟨.run 0 (.data (bytesOf "oops")), healthy⟩]
      InOrder := by
  refine (output_in_order _ _ _ _ _ _ ?_).1
  refine throughout_cons ?_ fun o ho => ?_
  · intro sid message hmessage _
    rfl
  · cases ho
    refine throughout_cons ?_ fun o ho => ?_
    · intro sid message hmessage hall
      cases hall
    · cases ho
      refine throughout_cons (fun sid message hmessage => nomatch hmessage) fun o ho => ?_
      cases ho
      refine throughout_cons ?_ fun o ho => throughout_nil _ _
      intro sid message hmessage _
      cases hmessage
      rfl

end Logistics
