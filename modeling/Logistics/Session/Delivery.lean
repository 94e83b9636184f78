import Logistics.Session.Output

/-!
# Writes that are cut short

A `write` on a non-blocking socket may take a part of its buffer.  `trySendPendingMessage` pops the
head of the queue first and then writes over what is the head by then, with bytes that it reads
through a dangling reference; `run` and `sendWelcomeMessage` take any positive count for the whole
message.

* `Written.Complete`          the write took all of the message, or blocked;
* `FlushKeeps`                a flush moves bytes of the head and touches no other message;
* `DeliveryKeeps`             a new message is on the socket or in the queue, byte for byte;
* `writes_lose_nothing_iff`   **each of the two holds exactly for complete writes**.
-/

namespace Logistics
open Runs

/-- the write took the whole message, or nothing because the socket would block -/
def Written.Complete (message : Bytes) : Written → Prop
  | .all => True
  | .part n => message.length ≤ n + 1
  | .again => True
  | .error => False

/-- the bytes that went out and then the queue are what the queue was, and the messages behind its
head are as they were -/
def FlushKeeps (message : Bytes) (rest : List Bytes) (before after : Bytes × List Bytes) : Prop :=
  ∃ sent, after.1 = before.1 ++ sent ∧ sent ++ after.2.flatten = (message :: rest).flatten ∧
    (after.2 = rest ∨ ∃ head, after.2 = head :: rest)

/-- the bytes that went out and then the queue are the message -/
def DeliveryKeeps (message : Bytes) (before after : Bytes × List Bytes) : Prop :=
  ∃ sent, after.1 = before.1 ++ sent ∧ sent ++ after.2.flatten = message

/-! ## the flush -/

theorem flushKeeps_all (wire message : Bytes) (rest : List Bytes) :
    FlushKeeps message rest (wire, message :: rest) (wire ++ message, rest) :=
  ⟨message, rfl, rfl, .inl rfl⟩

theorem popSent_of_length_le {freed : Bytes} {n : Nat} {message : Bytes} (h : message.length ≤ n)
    (rest : List Bytes) : popSent freed n (message :: rest) = rest := by
  show (if n < message.length then _ else rest) = rest
  rw [if_neg (by omega)]

theorem popSent_last {freed : Bytes} {n : Nat} {message : Bytes} (h : n < message.length) :
    popSent freed n [message] = [] := by
  show (if n < message.length then [] else []) = []
  rw [if_pos h]

theorem popSent_next {freed : Bytes} {n : Nat} {message : Bytes} (h : n < message.length)
    (next : Bytes) (later : List Bytes) :
    popSent freed n (message :: next :: later) = freed :: later := by
  show (if n < message.length then freed :: later else next :: later) = _
  rw [if_pos h]

/-- whatever takes the place of the message after the head -/
theorem not_flushKeeps_part {n : Nat} {message : Bytes} (h : n < message.length)
    (freed wire : Bytes) (rest : List Bytes) : ¬ FlushKeeps message rest (wire, message :: rest)
      (wire ++ message.take n, popSent freed n (message :: rest)) := by
  intro hkeeps
  obtain ⟨sent, hwire, hbytes, hrest⟩ := hkeeps
  have hsent : message.take n = sent := List.append_cancel_left hwire
  have hlength := congrArg List.length hbytes
  rw [← hsent] at hlength
  cases rest with
  | nil =>
    rw [popSent_last h] at hlength
    simp only [List.flatten_nil, List.flatten_cons, List.append_nil, List.length_take] at hlength
    omega
  | cons next later =>
    rw [popSent_next h] at hlength hrest
    rcases hrest with heq | ⟨head, heq⟩
    · -- if the next message is still there, then the rest of the head is nowhere
      have hnext : freed = next := (List.cons.inj heq).1
      simp only [List.flatten_cons, List.length_append, List.length_take, ← hnext] at hlength
      omega
    · have hlengths := congrArg List.length heq
      simp only [List.length_cons] at hlengths
      omega

theorem flushed_keeps_iff {written : Written} (hnoError : written ≠ .error)
    (freed wire message : Bytes) (rest : List Bytes) :
    FlushKeeps message rest (wire, message :: rest) (flushed freed written (wire, message :: rest)) ↔
      written.Complete message := by
  cases written with
  | all =>
    have hflushed : flushed freed .all (wire, message :: rest) = (wire ++ message, rest) := by
      show (wire ++ message, popSent freed message.length (message :: rest)) = _
      rw [popSent_of_length_le le_rfl]
    rw [hflushed]
    exact iff_of_true (flushKeeps_all wire message rest) trivial
  | part n =>
    show FlushKeeps message rest _
      (wire ++ message.take (n + 1), popSent freed (n + 1) (message :: rest)) ↔ message.length ≤ n + 1
    by_cases hlong : message.length ≤ n + 1
    · rw [popSent_of_length_le hlong, List.take_of_length_le hlong]
      exact iff_of_true (flushKeeps_all wire message rest) hlong
    · exact iff_of_false (not_flushKeeps_part (by omega) freed wire rest) hlong
  | again =>
    refine iff_of_true ⟨[], (List.append_nil wire).symm, rfl, .inr ⟨message, rfl⟩⟩ ?_
    exact trivial
  | error => exact absurd rfl hnoError

/-! ## a new message -/

theorem delivered_keeps_iff {written : Written} (hnoError : written ≠ .error)
    (wire message : Bytes) :
    DeliveryKeeps message (wire, []) (delivered written message (wire, [])) ↔
      written.Complete message := by
  cases written with
  | all => exact iff_of_true ⟨message, rfl, List.append_nil message⟩ trivial
  | part n =>
    show DeliveryKeeps message (wire, []) (wire ++ message.take (n + 1), []) ↔ message.length ≤ n + 1
    constructor
    · intro hkeeps
      obtain ⟨sent, hwire, hbytes⟩ := hkeeps
      have hsent : message.take (n + 1) = sent := List.append_cancel_left hwire
      have hlength := congrArg List.length hbytes
      rw [← hsent, List.flatten_nil, List.append_nil, List.length_take] at hlength
      omega
    · intro hlong
      refine ⟨message, ?_, List.append_nil message⟩
      rw [List.take_of_length_le hlong]
  | again =>
    refine iff_of_true ⟨[], (List.append_nil wire).symm, ?_⟩ trivial
    show [] ++ [message].flatten = message
    simp
  | error => exact absurd rfl hnoError

/-- where a call writes its own message -/
theorem perform_output {L : Libs} {cfg : Config} {s : St} {call : OutputCall} {sid : Nat}
    {message : Bytes} {written : Written} (hmessage : call.message L cfg s = some (sid, message))
    (hwritten : call.written L cfg s = some written) :
    ((call.perform L cfg).run s).2.core.output = Function.update s.core.output sid
      (delivered written message (s.core.output sid)) := by
  cases call with
  | sendWelcomeMessage sid' =>
    cases hmessage
    cases hwritten
    exact sendWelcomeMessage_output sid s
  | trySendPendingMessage freed sid' => cases hmessage
  | run sid' input =>
    cases input with
    | closed => cases hmessage
    | again => cases hmessage
    | error => cases hmessage
    | data chunk =>
      unfold OutputCall.message at hmessage
      unfold OutputCall.written at hwritten
      rcases run_data_cases L cfg sid' chunk s with
        ⟨e, s', hrun, -⟩ | ⟨result, s', hrun, houtput⟩
      · simp only [hrun] at hmessage
        cases hmessage
      · simp only [hrun, Option.some.injEq, Prod.mk.injEq] at hmessage hwritten
        obtain ⟨rfl, rfl⟩ := hmessage
        subst hwritten
        exact houtput

/-- **A flush of a queue keeps its bytes and the messages behind the head, and a new message on an
empty queue is kept whole, exactly if the write was complete**, whatever the dangling reference
reads. -/
theorem writes_lose_nothing_iff (L : Libs) (cfg : Config) (s : St) (sid : Nat) :
    (∀ freed message rest, (s.core.output sid).2 = message :: rest → (s.env 0).written ≠ .error →
      (FlushKeeps message rest (s.core.output sid)
          (((trySendPendingMessage freed sid).run s).2.core.output sid) ↔
        (s.env 0).written.Complete message)) ∧
    ∀ (call : OutputCall) message written, call.message L cfg s = some (sid, message) →
      call.written L cfg s = some written → written ≠ .error → (s.core.output sid).2 = [] →
      (DeliveryKeeps message (s.core.output sid)
          (((call.perform L cfg).run s).2.core.output sid) ↔ written.Complete message) := by
  constructor
  · intro freed message rest hqueue hnoError
    rw [trySendPendingMessage_output, Function.update_self]
    generalize s.core.output sid = output at hqueue ⊢
    obtain ⟨wire, queue⟩ := output
    change queue = _ at hqueue
    subst hqueue
    exact flushed_keeps_iff hnoError freed wire message rest
  · intro call message written hmessage hwritten hnoError hqueue
    rw [perform_output hmessage hwritten, Function.update_self]
    generalize s.core.output sid = output at hqueue ⊢
    obtain ⟨wire, queue⟩ := output
    change queue = _ at hqueue
    subst hqueue
    exact delivered_keeps_iff hnoError wire message

/-! Two replies are blocked; then the socket takes one byte. -/

def oneByte : Nat → Answer := fun _ => ⟨0, false, "", .part 0, none⟩

def twoBlocked : List OutputInput :=
  [⟨.run 0 (.data (bytesOf emptyRequest.render)), blocked⟩, ⟨.run 0 (.data (bytesOf "oops")), blocked⟩]

theorem twoBlocked_isSome :
    (runFrom (outputStep (.known [emptyRequest]) .sample) guestStart twoBlocked).isSome := by decide

def twoQueued : Output :=
  (runFrom (outputStep (.known [emptyRequest]) .sample) guestStart twoBlocked).get twoBlocked_isSome

/-- the second reply is gone from the socket and the queue, whatever bytes stand in its place -/
theorem partial_write_drops_reply :
    twoQueued.world.core.output 0 = ([], [firstReply, secondReply]) ∧
      (∀ freed, ((trySendPendingMessage freed 0).run (twoQueued.world.facing oneByte)).2.core.output
        0 = (firstReply.take 1, [freed])) ∧
      ((run (.known [emptyRequest]) .sample 0 (.data (bytesOf emptyRequest.render))).run
          (guestStart.world.facing oneByte)).2.core.output 0 = (firstReply.take 1, []) := by
  have hqueued : twoQueued.world.core.output 0 = ([], [firstReply, secondReply]) := by decide
  have hlength : 1 < firstReply.length := by decide
  refine ⟨hqueued, fun freed => ?_, by decide⟩
  rw [trySendPendingMessage_output, Function.update_self]
  show flushed freed (.part 0) (twoQueued.world.core.output 0) = _
  rw [hqueued]
  show (firstReply.take 1, popSent freed 1 [firstReply, secondReply]) = _
  rw [popSent_next hlength]

end Logistics
