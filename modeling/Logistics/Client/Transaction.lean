import Logistics.Client.Input
import Logistics.Client.Keepalive
import Logistics.Session.History

/-!
# Requests and replies of the client

The client sends one request for each line of the user and calls `recv` once for the reply, with room
for 5047 bytes.  TCP carries bytes: `recv` returns at least one and at most as many as there is room
for, of what has arrived so far, and the rest is there for the next call.

* `processUserInput`, `beginAction`, `Request.finish`   the source, cut at the wait for a reply;
* `Conversation`           the client, the bytes on their way to it, and the replies sent and printed;
* `replies_paired_iff`     **replies are printed for their requests if every `recv` is whole**;
* `long_reply_is_cut`      a reply with more than 5047 bytes never is.
-/

namespace Logistics

namespace Client
open Runs

/-! ## one line -/

inductive UserInputAction where
  | send
  | quit
  | goOn
  deriving DecidableEq

/-- the action, and the line without its end -/
def processUserInput (buffer : Bytes) : UserInputAction × Bytes :=
  let line := (cString buffer).takeWhile (· ≠ 10)
  if line = bytesOf "end" then (.quit, line)
  else if line = [] then (.goOn, line)
  else (.send, line)

inductive TransactionResult where
  | success
  | serverClosed
  | error
  | close
  | loginSuccess
  deriving DecidableEq

/-- what `recv` returns -/
inductive Recv where
  | data (chunk : Bytes)
  | closed
  | error

/-- `handle_server_transaction`, given what `send` and `recv` return, with the id in the context;
`none` where the printer does not come back -/
def handleServerTransaction (N : CLib) (clientId command : Bytes) (sent : Bool) (received : Recv) :
    Option (TransactionResult × Bytes) :=
  if sent = false then some (.error, clientId)
  else
    match received with
    | .error => some (.error, clientId)
    | .closed => some (.serverClosed, clientId)
    | .data chunk =>
      (printReadableResponse N clientId (cString chunk) command).map fun printed =>
        (if printed.2.1 then .loginSuccess else .success, printed.2.2)

/-- a message that is about to be sent, and the first token of the line it comes from -/
structure Request where
  message : Bytes
  command : Bytes
  quit : Bool
  deriving DecidableEq

/-- how far `execute_client_action` gets before it sends anything -/
inductive Begun where
  | returned (result : TransactionResult)
  | crash
  | request (q : Request)
  deriving DecidableEq

def endMessage : Bytes := bytesOf "\x7b\"command\":\"end\"\x7d"

def beginAction (R : Runtime) (buffer : Bytes) : Begun :=
  match processUserInput buffer with
  | (.goOn, _) => .returned .success
  | (.quit, _) => .request ⟨endMessage, bytesOf "end", true⟩
  | (.send, line) =>
    match buildJsonFromInput R line with
    | .errorMemory _ => .returned .error
    | .errorSyntax _ => .returned .success
    | .crash => .crash
    -- `strtok` has put a NUL behind the first token of the buffer by now
    | .success jsonString => .request ⟨jsonString, (strtok line).1.getD [], false⟩

/-- the rest of `execute_client_action` -/
def Request.finish (N : CLib) (clientId : Bytes) (q : Request) (sent : Bool) (received : Recv) :
    Option (TransactionResult × Bytes) :=
  (handleServerTransaction N clientId q.command sent received).map fun r =>
    if q.quit then (if r.1 = .error then .error else .close, r.2) else r

theorem finish_ne_none_iff {N : CLib} {clientId : Bytes} {q : Request} {chunk : Bytes} :
    q.finish N clientId true (.data chunk) ≠ none ↔
      printReadableResponse N clientId (cString chunk) q.command ≠ none := by
  unfold Request.finish
  rw [Ne, Option.map_eq_none_iff]
  exact (Option.map_eq_none_iff (f := _)).not

/-- whether `communication_loop` goes on; `started` is what `session_start_aux_threads` returns -/
def TransactionResult.goesOn (started : Bool) : TransactionResult → Bool
  | .success => true
  | .loginSuccess => started
  | .serverClosed => false
  | .error => false
  | .close => false

/-! ## a conversation -/

/-- a reply of the server: a text, with no NUL in it -/
structure ReplyText where
  bytes : Bytes
  nonempty : bytes ≠ []
  nul : 0 ∉ bytes

/-- a line of the user, the reply to the request it leads to, and how many bytes `recv` returns -/
structure Turn where
  buffer : Bytes
  runtime : Runtime
  reply : ReplyText
  taken : Nat
  started : Bool

structure Conversation where
  running : Bool
  clientId : Bytes
  /-- sent by the server and not yet read -/
  wire : Bytes
  sent : List Bytes
  printed : List Bytes
  deriving DecidableEq

/-- the client after the welcome message -/
def Conversation.start : Conversation := ⟨true, [], [], [], []⟩

/-- the client takes a chunk off the wire, and is gone if its printer does not come back -/
def Conversation.take (N : CLib) (c : Conversation) (q : Request) (t : Turn) : Conversation :=
  let wire := c.wire ++ t.reply.bytes
  let chunk := wire.take t.taken
  match q.finish N c.clientId true (.data chunk) with
  | some r => ⟨r.1.goesOn t.started, r.2, wire.drop t.taken, c.sent ++ [t.reply.bytes],
      c.printed ++ [cString chunk]⟩
  | none => ⟨false, c.clientId, wire.drop t.taken, c.sent ++ [t.reply.bytes], c.printed⟩

def converse (N : CLib) (c : Conversation) (t : Turn) : Option Conversation :=
  if c.running = false then none
  else
    match beginAction t.runtime t.buffer with
    | .crash => some { c with running := false }
    | .returned r => some { c with running := r.goesOn t.started }
    | .request q =>
      if 0 < t.taken ∧ t.taken ≤ BUFFER_SIZE - 1 ∧ t.taken ≤ (c.wire ++ t.reply.bytes).length then
        some (c.take N q t)
      else none

/-- the ways of a turn -/
theorem converse_cases {N : CLib} {c c' : Conversation} {t : Turn} (h : converse N c t = some c') :
    c.running = true ∧
      (((∀ q, beginAction t.runtime t.buffer ≠ .request q) ∧
          c'.wire = c.wire ∧ c'.sent = c.sent ∧ c'.printed = c.printed) ∨
        ∃ q, beginAction t.runtime t.buffer = .request q ∧
          t.taken ≤ BUFFER_SIZE - 1 ∧ t.taken ≤ (c.wire ++ t.reply.bytes).length ∧
          c' = c.take N q t) := by
  unfold converse at h
  by_cases hrunning : c.running = false
  · rw [if_pos hrunning] at h
    cases h
  rw [if_neg hrunning] at h
  refine ⟨Bool.eq_true_of_not_eq_false hrunning, ?_⟩
  cases hbegin : beginAction t.runtime t.buffer with
  | crash =>
    rw [hbegin] at h
    cases h
    exact .inl ⟨nofun, rfl, rfl, rfl⟩
  | returned r =>
    rw [hbegin] at h
    cases h
    exact .inl ⟨nofun, rfl, rfl, rfl⟩
  | request q =>
    rw [hbegin] at h
    dsimp only at h
    split_ifs at h with htaken
    cases h
    exact .inr ⟨q, rfl, htaken.2.1, htaken.2.2, rfl⟩

theorem take_sent (N : CLib) (c : Conversation) (q : Request) (t : Turn) :
    (c.take N q t).sent = c.sent ++ [t.reply.bytes] ∧
      (c.take N q t).wire = (c.wire ++ t.reply.bytes).drop t.taken := by
  unfold Conversation.take
  dsimp only
  split
  · exact ⟨rfl, rfl⟩
  · exact ⟨rfl, rfl⟩

/-- a chunk is printed, or the client is gone -/
theorem take_printed (N : CLib) (c : Conversation) (q : Request) (t : Turn) :
    (q.finish N c.clientId true (.data ((c.wire ++ t.reply.bytes).take t.taken)) ≠ none ∧
        (c.take N q t).printed =
          c.printed ++ [cString ((c.wire ++ t.reply.bytes).take t.taken)]) ∨
      (q.finish N c.clientId true (.data ((c.wire ++ t.reply.bytes).take t.taken)) = none ∧
        (c.take N q t).printed = c.printed ∧ (c.take N q t).running = false) := by
  unfold Conversation.take
  dsimp only
  cases q.finish N c.clientId true (.data ((c.wire ++ t.reply.bytes).take t.taken)) with
  | none => exact .inr ⟨rfl, rfl, rfl⟩
  | some r => exact .inl ⟨Option.some_ne_none r, rfl⟩

/-! ## what is printed -/

/-- while the client runs, every byte sent was printed or is on its way -/
structure Conversation.Complete (c : Conversation) : Prop where
  bytes : c.running = true → c.printed.flatten ++ c.wire = c.sent.flatten
  nul : 0 ∉ c.wire

theorem Conversation.Complete.wire_eq {c : Conversation} (h : c.Complete)
    (hrunning : c.running = true) (hpaired : c.printed = c.sent) : c.wire = [] := by
  have hbytes := h.bytes hrunning
  rw [hpaired] at hbytes
  exact List.append_right_eq_self.mp hbytes

theorem complete_step {N : CLib} {c c' : Conversation} {t : Turn} (h : c.Complete)
    (hstep : converse N c t = some c') : c'.Complete := by
  obtain ⟨hrunning, ⟨-, hwire, hsent, hprinted⟩ | ⟨q, -, -, -, rfl⟩⟩ := converse_cases hstep
  · constructor
    · intro _
      rw [hwire, hsent, hprinted]
      exact h.bytes hrunning
    · rw [hwire]
      exact h.nul
  · have hnul : 0 ∉ c.wire ++ t.reply.bytes := by
      rw [List.mem_append, not_or]
      exact ⟨h.nul, t.reply.nul⟩
    obtain ⟨hsent, hwire⟩ := take_sent N c q t
    constructor
    · intro hgoes
      rcases take_printed N c q t with ⟨-, hprinted⟩ | ⟨-, -, hgone⟩
      · have hchunk : cString ((c.wire ++ t.reply.bytes).take t.taken) =
            (c.wire ++ t.reply.bytes).take t.taken :=
          (cString_eq_self_iff _).mpr fun hmem => hnul (List.mem_of_mem_take hmem)
        rw [hwire, hsent, hprinted, hchunk, List.flatten_concat, List.flatten_concat,
          List.append_assoc, List.take_append_drop, ← List.append_assoc, h.bytes hrunning]
      · rw [hgone] at hgoes
        cases hgoes
    · rw [hwire]
      exact fun hmem => hnul (List.mem_of_mem_drop hmem)

/-- the reply has every field that the printer of its request reads, as those of the server have -/
def Turn.Answered (N : CLib) (t : Turn) : Prop :=
  ∀ q, beginAction t.runtime t.buffer = .request q →
    ∃ root, cJSONParse N t.reply.bytes = some root ∧ Client.Complete q.command root

/-- a request goes out, and `recv` returns less or more than the reply to it, or the reply names an
id that the log cannot be given -/
def Spoiled (N : CLib) (c : Conversation) (t : Turn) : Prop :=
  (converse N c t).isSome ∧ ∃ q, beginAction t.runtime t.buffer = .request q ∧
    (t.taken ≠ t.reply.bytes.length ∨ q.command = bytesOf "login" ∧
      ∃ root, cJSONParse N t.reply.bytes = some root ∧ ¬ Loggable N root)

/-- a reply with more bytes than there is room for -/
theorem long_reply_is_cut {N : CLib} {c : Conversation} {t : Turn}
    (h : (converse N c t).isSome) {q : Request} (hq : beginAction t.runtime t.buffer = .request q)
    (hlong : BUFFER_SIZE - 1 < t.reply.bytes.length) : Spoiled N c t := by
  refine ⟨h, q, hq, .inl ?_⟩
  obtain ⟨c', hstep⟩ := Option.isSome_iff_exists.mp h
  obtain ⟨-, ⟨hno, -⟩ | ⟨q', -, hroom, -⟩⟩ := converse_cases hstep
  · exact absurd hq (hno q)
  · omega

/-- a whole reply is printed exactly if the log can be given its id -/
theorem whole_printed_iff {N : CLib} {clientId : Bytes} {q : Request} {reply : ReplyText}
    {root : JsonText.Tree} (hparse : cJSONParse N reply.bytes = some root)
    (hcomplete : Client.Complete q.command root) :
    q.finish N clientId true (.data reply.bytes) ≠ none ↔
      (q.command = bytesOf "login" → Loggable N root) := by
  rw [finish_ne_none_iff, (cString_eq_self_iff _).mpr reply.nul]
  exact printed_iff hparse hcomplete

theorem paired_step_iff {N : CLib} {c c' : Conversation} {t : Turn} (h : c.Complete)
    (hpaired : c.printed = c.sent) (hanswered : t.Answered N) (hstep : converse N c t = some c') :
    c'.printed = c'.sent ↔ ¬ Spoiled N c t := by
  have hsome : (converse N c t).isSome := by
    rw [hstep]
    rfl
  obtain ⟨hrunning, ⟨hno, -, hsent, hprinted⟩ | ⟨q, hq, -, hlength, rfl⟩⟩ := converse_cases hstep
  · refine iff_of_true ?_ ?_
    · rw [hsent, hprinted, hpaired]
    · rintro ⟨-, q, hq, -⟩
      exact hno q hq
  · obtain ⟨root, hparse, hcomplete⟩ := hanswered q hq
    have hwire := h.wire_eq hrunning hpaired
    obtain ⟨hsent, -⟩ := take_sent N c q t
    have hwhole := @whole_printed_iff N c.clientId q t.reply root hparse hcomplete
    rcases take_printed N c q t with ⟨hfinish, hprinted⟩ | ⟨hfinish, hprinted, -⟩
    · rw [hwire, List.nil_append] at hlength hprinted hfinish
      have hchunk : cString (t.reply.bytes.take t.taken) = t.reply.bytes.take t.taken :=
        (cString_eq_self_iff _).mpr fun hmem => t.reply.nul (List.mem_of_mem_take hmem)
      rw [hsent, hprinted, hpaired, hchunk, List.append_cancel_left_eq, List.singleton_inj,
        List.take_eq_self_iff]
      constructor
      · rintro hall ⟨-, q', hq', hne | ⟨hlogin, root', hroot', hbad⟩⟩
        · exact hne (le_antisymm hlength hall)
        · rw [List.take_of_length_le hall] at hfinish
          cases hq.symm.trans hq'
          cases hparse.symm.trans hroot'
          exact hbad (hwhole.mp hfinish hlogin)
      · intro hno
        by_contra hless
        exact hno ⟨hsome, q, hq, .inl (by omega)⟩
    · rw [hwire, List.nil_append] at hlength hfinish
      refine iff_of_false ?_ (not_not.mpr ⟨hsome, q, hq, ?_⟩)
      · rw [hsent, hprinted, hpaired]
        exact fun he => absurd (List.self_eq_append_right.mp he) (List.cons_ne_nil _ _)
      · -- what the printer does not come back from is cut, or a whole reply to a login
        by_cases hall : t.taken = t.reply.bytes.length
        · right
          rw [hall, List.take_length] at hfinish
          by_contra hno
          refine hwhole.mpr (fun hlogin => ?_) hfinish
          by_contra hbad
          exact hno ⟨hlogin, root, hparse, hbad⟩
        · exact .inl hall

end Client

open Client Runs in
/-- **Where the replies have what their printers read, each reply is printed as it was sent, for the
request that it answers, exactly if every `recv` returns the whole reply and nothing else, and no
reply to a login names an id that the log cannot be given.** -/
theorem replies_paired_iff (N : CLib) (turns : List Turn) (hturns : ∀ t ∈ turns, t.Answered N) :
    Always (converse N) .start turns (fun c => c.printed = c.sent) ↔
      ¬ Occurred (converse N) .start turns (Spoiled N) := by
  refine always_iff_not_occurred (I := Conversation.Complete) hturns
    ⟨fun _ => rfl, List.not_mem_nil⟩ (fun _ _ _ h hstep => complete_step h hstep) rfl ?_
    fun _ _ _ h hpaired hanswered hstep => paired_step_iff h hpaired hanswered hstep
  intro c t hspoiled
  exact Option.isSome_iff_exists.mp hspoiled.1

/-! A reply of 5048 bytes: its last byte is printed before the reply to the next request. -/

namespace Client
open Runs JsonText

def statusRequest : Request := ⟨bytesOf "\x7b\"command\":\"status\"\x7d", bytesOf "status", false⟩

/-- a success with `n` times the letter x as its message -/
def success (n : Nat) : Tree :=
  .obj [(bytesOf "message", .str (List.replicate n 120)), (bytesOf "status", .str (bytesOf "success"))]

/-- its text without the last brace -/
def successFront (n : Nat) : Bytes :=
  bytesOf "\x7b\"message\":\"" ++ (List.replicate n 120 ++ bytesOf "\",\"status\":\"success\"")

theorem print_success (n : Nat) : (success n).print = successFront n ++ [Byte.closeBrace] := by
  have hescape : (List.replicate n (120 : UInt8)).flatMap escape = List.replicate n 120 := by
    induction n with
    | zero => rfl
    | succ n ih =>
      rw [List.replicate_succ, List.flatMap_cons, ih]
      rfl
  have hquoted : quoted (List.replicate n 120) =
      Byte.quote :: (List.replicate n 120 ++ [Byte.quote]) := by
    rw [quoted, hescape]
  have hhead : bytesOf "\x7b\"message\":\"" =
      Byte.openBrace :: (quoted (bytesOf "message") ++ [Byte.colon, Byte.quote]) := by decide
  have htail : bytesOf "\",\"status\":\"success\"" =
      Byte.quote :: Byte.comma :: (quoted (bytesOf "status") ++ Byte.colon ::
        quoted (bytesOf "success")) := by decide
  unfold successFront
  rw [hhead, htail]
  simp only [success, Tree.print, printFields, hquoted, List.cons_append, List.append_assoc,
    List.nil_append]

theorem successFront_length (n : Nat) : (successFront n).length = n + 32 := by
  have hhead : (bytesOf "\x7b\"message\":\"").length = 12 := by decide
  have htail : (bytesOf "\",\"status\":\"success\"").length = 20 := by decide
  unfold successFront
  rw [List.length_append, List.length_append, List.length_replicate, hhead, htail]
  omega

theorem nul_successFront (n : Nat) : 0 ∉ successFront n := by
  have hends : 0 ∉ bytesOf "\x7b\"message\":\"" ∧ 0 ∉ bytesOf "\",\"status\":\"success\"" := by
    decide
  unfold successFront
  rw [List.mem_append, List.mem_append, List.mem_replicate]
  rintro (h | ⟨-, h⟩ | h)
  · exact hends.1 h
  · cases h
  · exact hends.2 h

def successReply (n : Nat) : ReplyText where
  bytes := successFront n ++ [Byte.closeBrace]
  nonempty := List.append_ne_nil_of_right_ne_nil _ (List.cons_ne_nil _ _)
  nul := by
    rw [List.mem_append, List.mem_singleton]
    rintro (h | h)
    · exact nul_successFront n h
    · cases h

def statusTurn (n taken : Nat) : Turn :=
  ⟨bytesOf "status\n", plainRuntime, successReply n, taken, true⟩

theorem statusTurn_begin (n taken : Nat) :
    beginAction (statusTurn n taken).runtime (statusTurn n taken).buffer = .request statusRequest := by
  show beginAction plainRuntime (bytesOf "status\n") = .request statusRequest
  decide +kernel

theorem statusTurn_answered (N : CLib) (n taken : Nat) : (statusTurn n taken).Answered N := by
  intro q hq
  rw [statusTurn_begin] at hq
  cases hq
  refine ⟨success n, ?_, ⟨_, rfl⟩, ⟨_, rfl⟩, fun hlogin => absurd hlogin (by decide)⟩
  show cJSONParse N (successFront n ++ [Byte.closeBrace]) = _
  rw [← print_success, cJSONParse_print N (v := success n) (fun _ h => absurd h List.not_mem_nil)]
  exact if_pos (show 1 ≤ 1000 by decide)

theorem converse_status (N : CLib) {c : Conversation} {n taken : Nat} (hrunning : c.running = true)
    (htaken : 0 < taken ∧ taken ≤ BUFFER_SIZE - 1 ∧
      taken ≤ (c.wire ++ (successReply n).bytes).length) :
    converse N c (statusTurn n taken) =
      some ⟨true, c.clientId, (c.wire ++ (successReply n).bytes).drop taken,
        c.sent ++ [(successReply n).bytes],
        c.printed ++ [cString ((c.wire ++ (successReply n).bytes).take taken)]⟩ := by
  unfold converse
  rw [hrunning, if_neg Bool.true_eq_false_eq_False, statusTurn_begin]
  exact if_pos htaken

end Client

open Client Runs in
/-- a short reply that is read whole -/
theorem short_reply_is_paired :
    Always (converse .sample) .start [statusTurn 0 33] (fun c => c.printed = c.sent) := by
  refine (replies_paired_iff .sample [statusTurn 0 33]
    (List.forall_mem_singleton.mpr (statusTurn_answered _ 0 33))).mpr ?_
  rw [occurred_cons]
  rintro (⟨-, q, hq, hcut | ⟨hlogin, -⟩⟩ | ⟨c, -, hlater⟩)
  · exact hcut rfl
  · rw [statusTurn_begin] at hq
    cases hq
    exact absurd hlogin (by decide)
  · exact not_occurred_nil _ _ hlater

open Client Runs in
theorem long_reply_is_not_paired :
    (∀ t ∈ [statusTurn 5015 5047, statusTurn 0 34], t.Answered .sample) ∧
      ∃ c, runFrom (converse .sample) .start [statusTurn 5015 5047, statusTurn 0 34] = some c ∧
        c.sent = [(successReply 5015).bytes, (successReply 0).bytes] ∧
        c.printed = [successFront 5015, JsonText.Byte.closeBrace :: (successReply 0).bytes] := by
  have hlength := successFront_length 5015
  have hnul : cString (successFront 5015) = successFront 5015 :=
    (cString_eq_self_iff _).mpr (nul_successFront 5015)
  have hwire : ([] : Bytes) ++ (successReply 5015).bytes =
      successFront 5015 ++ [JsonText.Byte.closeBrace] := rfl
  refine ⟨?_, ⟨true, [], [], [(successReply 5015).bytes, (successReply 0).bytes],
    [successFront 5015, JsonText.Byte.closeBrace :: (successReply 0).bytes]⟩, ?_, rfl, rfl⟩
  · rw [List.forall_mem_cons, List.forall_mem_singleton]
    exact ⟨statusTurn_answered _ _ _, statusTurn_answered _ _ _⟩
  · rw [runFrom_cons, converse_status .sample rfl ⟨by decide, by decide, ?_⟩, Option.bind_some,
      runFrom_cons]
    · show (converse .sample ⟨true, [], (([] : Bytes) ++ (successReply 5015).bytes).drop 5047, _,
        [cString ((([] : Bytes) ++ (successReply 5015).bytes).take 5047)]⟩ _).bind _ = _
      rw [hwire, List.take_left' hlength, List.drop_left' hlength, hnul,
        converse_status .sample rfl ⟨by decide, by decide, by decide⟩]
      rfl
    · show 5047 ≤ (([] : Bytes) ++ (successReply 5015).bytes).length
      rw [hwire, List.length_append, hlength]
      decide

end Logistics
