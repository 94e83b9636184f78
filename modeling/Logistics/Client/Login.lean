import Logistics.Client.Transaction

/-!
# One login, one pair of threads

The client keeps no record of being logged in: whenever a line that begins with `login` is answered
with a success that has a `client_id`, it takes over the id and starts the keepalive and the listener
thread.  The server, for its part, answers so only to the message that turns the session
authenticated; afterwards `login` is a command that it does not know.

* `Bare`                   a reply without a `client_id`, which every other reply is;
* `Joint`                  a client, the server with its session, and the bytes on their way;
* `Joint.Single`           at most one reply under way or login so far, and none for a guest;
* `login_once`             **in every run the client logs in once at most**.
-/

namespace Logistics
open Runs

/-! ## replies that name no user -/

/-- a reply that has no fields but these -/
def Bare (L : Libs) (result : ProcessResult) : Prop :=
  ∃ fields, result.1 = .dumped L (.obj fields) ∧ (Json.obj fields).Canonical ∧
    ∀ f ∈ fields, f.1 ∈ ["data", "message", "status"]

/-- only the reply to a login names a user -/
theorem bare_of_user {L : Libs} {t : Told} (huser : t.user = none) {result : ProcessResult}
    (hresult : result.1 = .dumped L t.body) : Bare L result := by
  have hfields : ∃ fields, t.body = .obj fields ∧
      ∀ f ∈ fields, f.1 ∈ ["data", "message", "status"] := by
    cases t with
    | welcome user => cases huser
    | refused message => exact ⟨_, statusReply_eq _ _, by simp⟩
    | done message => exact ⟨_, statusReply_eq _ _, by simp⟩
    | inventory message map => exact ⟨_, statusReply_data _ _ _, by simp⟩
    | stock message category item quantity => exact ⟨_, statusReply_data _ _ _, by simp⟩
    | history message rows => exact ⟨_, statusReply_data _ _ _, by simp⟩
  obtain ⟨fields, hbody, hfields⟩ := hfields
  have hcanonical := t.body_canonical
  rw [hbody] at hresult hcanonical
  exact ⟨fields, hresult, hcanonical, hfields⟩

theorem status_of_user {L : Libs} {t : Told} {user : String} (h : t.user = some user) :
    (Reply.dumped L t.body).status = some "success" := by
  cases t with
  | welcome user' =>
    show (loginBody user').status = some "success"
    rw [loginBody_eq]
    rfl
  | _ => cases h

/-- **A reply that does not turn its session authenticated names no user.** -/
theorem processMessage_bare {L : Libs} {cfg : Config} {sid : Nat} {text : Bytes} {s s' : St}
    {result : ProcessResult} (hrun : (processMessage L cfg sid text).run s = (.ok result, s'))
    (hstays : (s'.core.sessions sid).isAuthenticated = (s.core.sessions sid).isAuthenticated) :
    Bare L result ∨ result = invalidJson := by
  cases hparse : L.parse text with
  | none =>
    obtain ⟨s₁, hinvalid, -⟩ := run_processMessage_invalid L cfg sid s hparse
    rw [hinvalid] at hrun
    cases hrun
    exact .inr rfl
  | some request =>
    left
    cases ha : (s.core.sessions sid).isAuthenticated with
    | true =>
      rw [run_processMessage_member L cfg hparse ha] at hrun
      obtain ⟨t, hresult, -, huser⟩ := commandMessage_tells _ request _ _ _ hrun
      exact bare_of_user huser hresult
    | false =>
      have hno : ∀ user, authCall L cfg sid text s ≠ some (user, .ok .success) := by
        intro user hlogin
        obtain ⟨answer, s₁, row, hreply, -, -, -, heffect⟩ := processMessage_login hlogin
        rw [hrun] at hreply
        cases hreply
        rw [heffect.sessions, Function.update_self, ha] at hstays
        cases hstays
      have hrefused := (processMessage_guest L cfg ha hno).1
      rw [hrun] at hrefused
      have herror := hrefused result.1 result.2 rfl
      rw [run_processMessage_guest L cfg hparse ha] at hrun
      obtain ⟨t, hresult, -⟩ := loginMessage_tells sid _ request _ _ _ hrun
      cases huser : t.user with
      | none => exact bare_of_user huser hresult
      | some user =>
        rw [hresult, status_of_user huser] at herror
        exact absurd herror (by decide)

/-! ## what the client makes of them -/

namespace Client
variable {F : Doubles} {N : CLib}

theorem firstField_client_id {fields : List (String × Json)}
    (h : ∀ f ∈ fields, f.1 ∈ ["data", "message", "status"]) : firstField "client_id" fields = none := by
  have hkeys : ∀ key ∈ ["data", "message", "status"],
      sameKey (bytesOf "client_id") (bytesOf key) = false := by decide
  unfold firstField
  rw [List.find?_eq_none.mpr fun f hf => ?_]
  · rfl
  · rw [hkeys f.1 (h f hf)]
    exact Bool.false_ne_true

/-- the client prints the text without taking it for a login -/
def NoLogin (N : CLib) (text : Bytes) : Prop :=
  ∀ clientId, ∃ lines, handleLoginResponse N clientId (cString text) = some (lines, false, clientId)

/-- no client takes a reply without a `client_id` for a login -/
theorem noLogin_bare {fields : List (String × Json)}
    (h : ∀ f ∈ fields, f.1 ∈ ["data", "message", "status"]) (hranged : (Json.obj fields).Ranged) :
    NoLogin N (bytesOf ((Json.obj fields).dump F)) := by
  intro clientId
  have hnul : 0 ∉ bytesOf ((Json.obj fields).dump F) := fun hmem =>
    absurd (dump_printable F hranged 0 hmem) (by decide)
  have hid : stringItem ((Json.obj fields).written F).tree "client_id" = none := by
    unfold stringItem
    rw [getObjectItem_written, firstField_client_id h]
    rfl
  rw [(cString_eq_self_iff _).mpr hnul]
  unfold handleLoginResponse
  rw [cJSONParse_dump F N hranged]
  by_cases hdepth : ((Json.obj fields).written F).tree.depth ≤ CJSON_NESTING_LIMIT
  · rw [if_pos hdepth]
    dsimp only
    rw [hid]
    split
    · exact ⟨_, rfl⟩
    · exact ⟨_, rfl⟩
    · split_ifs
      · exact ⟨_, rfl⟩
      · exact ⟨_, rfl⟩
  · rw [if_neg hdepth]
    exact ⟨_, rfl⟩

end Client

/-- the mark of a reply: it turned the session authenticated -/
def turned (sid : Nat) (s s' : St) : Bool :=
  !(s.core.sessions sid).isAuthenticated && (s'.core.sessions sid).isAuthenticated

/-- **Only the reply that turned the session authenticated makes a client log in.** -/
theorem not_login_of_not_turned {F : Doubles} {L : Libs} {cfg : Config} {N : Client.CLib} {sid : Nat}
    {text : Bytes} {s s' : St} {result : ProcessResult}
    (hrun : (processMessage (L.standard F) cfg sid text).run s = (.ok result, s'))
    (hstays : (s'.core.sessions sid).isAuthenticated = (s.core.sessions sid).isAuthenticated) :
    Client.NoLogin N (bytesOf result.1.text) := by
  rcases processMessage_bare hrun hstays with ⟨fields, hdumped, hcanonical, hkeys⟩ | rfl
  · rw [hdumped]
    exact Client.noLogin_bare hkeys hcanonical.ranged
  · have htext : invalidJson.1.text = (Json.obj [("status", .str "error"),
      ("message", .str "Invalid JSON format.")]).dump F := by
      have hrender : invalidJson.1.text = (Json.obj [("status", .str "error"),
        ("message", .str "Invalid JSON format.")]).render := by decide
      exact hrender
    rw [htext]
    refine Client.noLogin_bare ?_ (.obj ?_)
    · exact List.forall_mem_cons.mpr ⟨by simp, List.forall_mem_singleton.mpr (by simp)⟩
    · exact List.forall_mem_cons.mpr ⟨.str _, List.forall_mem_singleton.mpr (.str _)⟩

/-! ## a client and its session -/

open Client

/-- the client and the server; each reply under way carries the mark of its message -/
structure Joint where
  world : World
  /-- whether the server still reads from the session -/
  serving : Bool
  upstream : Bytes
  downstream : List (Bytes × Bool)
  /-- whether the loop of the client goes on -/
  running : Bool
  waiting : Option Request
  clientId : Bytes
  /-- the marks of the replies for which `TRANSACTION_LOGIN_SUCCESS` was returned -/
  logins : List Bool
  keepalives : Nat
  listeners : Nat

def Joint.start (core : Core) (journal : Journal) (ips : Nat → String) : Joint :=
  ⟨.start core journal ips, true, [], [], true, none, [], [], 0, 0⟩

inductive JointInput where
  /-- the user types a line; the memory there is, and what `send` returns -/
  | line (buffer : Bytes) (runtime : Runtime) (sent : Bool)
  /-- the session reads so many bytes -/
  | serve (n : Nat) (env : Nat → Answer)
  /-- `recv` returns the next reply; whether `pthread_create` succeeds for the two threads -/
  | reply (keepalive listener : Bool)
  /-- `recv` returns an error, or the end of the stream -/
  | hangUp
  /-- another session, or a sensor -/
  | other (i : Input)

/-- one line, up to the point where the client waits for a reply -/
def Joint.enter (j : Joint) (buffer : Bytes) (R : Runtime) (sent : Bool) : Joint :=
  match beginAction R buffer with
  | .crash => { j with running := false }
  | .returned r => { j with running := r.goesOn true }
  | .request q =>
    if sent then { j with upstream := j.upstream ++ q.message, waiting := some q }
    else { j with running := false }

/-- one read of the session -/
def Joint.served (L : Libs) (cfg : Config) (sid : Nat) (j : Joint) (n : Nat) (env : Nat → Answer) :
    Joint :=
  let s := j.world.facing env
  match (processMessage L cfg sid (cString (j.upstream.take n))).run s with
  | (.ok (answer, keep), s') => { j with
      world := s'.world
      serving := keep
      upstream := j.upstream.drop n
      downstream := j.downstream ++ [(bytesOf answer.text, turned sid s s')] }
  | (.error _, s') => { j with world := s'.world, upstream := j.upstream.drop n }

/-- the client takes up a reply: a login starts the keepalive thread, and then the listener; the
client is gone if the printer does not come back -/
def Joint.answered (N : CLib) (j : Joint) (q : Request) (text : Bytes) (mark : Bool)
    (rest : List (Bytes × Bool)) (keepalive listener : Bool) : Joint :=
  match q.finish N j.clientId true (.data text) with
  | none => { j with downstream := rest, running := false, waiting := none }
  | some r =>
    let login := decide (r.1 = .loginSuccess)
    { j with
      downstream := rest
      running := r.1.goesOn (keepalive && listener)
      waiting := none
      clientId := r.2
      logins := j.logins ++ if login then [mark] else []
      keepalives := j.keepalives + if login && keepalive then 1 else 0
      listeners := j.listeners + if login && keepalive && listener then 1 else 0 }

def jointStep (L : Libs) (cfg : Config) (N : CLib) (sid : Nat) (j : Joint) :
    JointInput → Option Joint
  | .line buffer R sent =>
    if j.running = true ∧ j.waiting = none then some (j.enter buffer R sent) else none
  | .serve n env =>
    if j.serving = true ∧ 0 < n ∧ n ≤ Logistics.BUFFER_SIZE - 1 ∧ n ≤ j.upstream.length then
      some (j.served L cfg sid n env)
    else none
  | .reply keepalive listener =>
    match j.waiting, j.downstream with
    | some q, (text, mark) :: rest => some (j.answered N q text mark rest keepalive listener)
    | _, _ => none
  | .hangUp =>
    match j.waiting with
    | some _ => some { j with running := false, waiting := none }
    | none => none
  | .other i =>
    match i.what with
    | .message sid' _ =>
      if sid' = sid then none
      else some { j with world := ((perform L cfg i.what).run (j.world.before i)).2.world }
    | .alert _ => some { j with world := ((perform L cfg i.what).run (j.world.before i)).2.world }

/-- what the client has come to: its logins, its id and its threads -/
def Joint.account (j : Joint) : List Bool × Bytes × Nat × Nat :=
  (j.logins, j.clientId, j.keepalives, j.listeners)

/-- the states one input can lead to -/
inductive Joint.Moves (L : Libs) (cfg : Config) (N : CLib) (sid : Nat) (j : Joint) : Joint → Prop
  | line (buffer : Bytes) (R : Runtime) (sent : Bool) : Moves L cfg N sid j (j.enter buffer R sent)
  | serve (n : Nat) (env : Nat → Answer) : Moves L cfg N sid j (j.served L cfg sid n env)
  | reply {q : Request} {text : Bytes} {mark : Bool} {rest : List (Bytes × Bool)}
      (keepalive listener : Bool) (down : j.downstream = (text, mark) :: rest) :
      Moves L cfg N sid j (j.answered N q text mark rest keepalive listener)
  | hangUp : Moves L cfg N sid j { j with running := false, waiting := none }
  | other {i : Input} (foreign : ∀ text, i.what ≠ .message sid text) : Moves L cfg N sid j
      { j with world := ((perform L cfg i.what).run (j.world.before i)).2.world }

theorem jointStep_moves {L : Libs} {cfg : Config} {N : CLib} {sid : Nat} {j j' : Joint}
    {i : JointInput} (h : jointStep L cfg N sid j i = some j') : j.Moves L cfg N sid j' := by
  cases i with
  | line buffer R sent =>
    simp only [jointStep] at h
    split_ifs at h
    cases h
    exact .line buffer R sent
  | serve n env =>
    simp only [jointStep] at h
    split_ifs at h
    cases h
    exact .serve n env
  | reply keepalive listener =>
    simp only [jointStep] at h
    split at h
    · rename_i q text mark rest hwaiting hdown
      cases h
      exact .reply keepalive listener hdown
    · cases h
  | hangUp =>
    simp only [jointStep] at h
    split at h
    · cases h
      exact .hangUp
    · cases h
  | other i =>
    simp only [jointStep] at h
    split at h
    · rename_i sid' text hwhat
      split_ifs at h with hsid
      cases h
      refine .other fun text' hmine => ?_
      rw [hwhat] at hmine
      exact hsid (Happening.message.inj hmine).1
    · rename_i text hwhat
      cases h
      refine .other fun text' hmine => ?_
      rw [hwhat] at hmine
      cases hmine

/-! ## the invariant -/

def Joint.authenticated (sid : Nat) (j : Joint) : Bool := (j.world.core.sessions sid).isAuthenticated

/-- the marked replies under way and the logins so far are one at most, and none before the session
is authenticated; a reply without a mark is no login -/
structure Joint.Single (N : CLib) (sid : Nat) (j : Joint) : Prop where
  count : (j.downstream.countP Prod.snd) + j.logins.length ≤ (j.authenticated sid).toNat
  marked : ∀ reply ∈ j.downstream, reply.2 = false → NoLogin N reply.1
  logins : ∀ mark ∈ j.logins, mark = true
  keepalives : j.keepalives ≤ j.logins.length
  listeners : j.listeners ≤ j.logins.length

section Invariant
variable {L : Libs} {F : Doubles} {cfg : Config} {N : CLib} {sid : Nat} {j j' : Joint}

theorem single_start (core : Core) (journal : Journal) (ips : Nat → String) :
    (Joint.start core journal ips).Single N sid where
  count := Nat.zero_le _
  marked _ h := absurd h List.not_mem_nil
  logins _ h := absurd h List.not_mem_nil
  keepalives := le_rfl
  listeners := le_rfl

theorem Joint.Single.enter (h : j.Single N sid) (buffer : Bytes) (R : Runtime) (sent : Bool) :
    (j.enter buffer R sent).Single N sid := by
  unfold Joint.enter
  cases beginAction R buffer with
  | crash => exact ⟨h.count, h.marked, h.logins, h.keepalives, h.listeners⟩
  | returned r => exact ⟨h.count, h.marked, h.logins, h.keepalives, h.listeners⟩
  | request q =>
    cases sent with
    | true => exact ⟨h.count, h.marked, h.logins, h.keepalives, h.listeners⟩
    | false => exact ⟨h.count, h.marked, h.logins, h.keepalives, h.listeners⟩

/-- a session that is authenticated stays so -/
theorem authenticated_mono (L : Libs) (cfg : Config) (text : Bytes) {s : St}
    (h : (s.core.sessions sid).isAuthenticated = true) :
    (((processMessage L cfg sid text).run s).2.core.sessions sid).isAuthenticated = true := by
  rcases @processMessage_member sid text s L cfg h with ⟨-, hcore⟩ | ⟨request, -, heffect⟩
  · rw [hcore]
    exact h
  · rw [heffect.sessions, received_core]
    exact h

theorem turned_toNat {s s' : St} (hmono : (s.core.sessions sid).isAuthenticated = true →
      (s'.core.sessions sid).isAuthenticated = true) :
    (turned sid s s').toNat + (s.core.sessions sid).isAuthenticated.toNat =
      (s'.core.sessions sid).isAuthenticated.toNat := by
  unfold turned
  cases h : (s.core.sessions sid).isAuthenticated with
  | false => simp
  | true => simp [hmono h]

theorem stays_of_not_turned {s s' : St} (hmono : (s.core.sessions sid).isAuthenticated = true →
      (s'.core.sessions sid).isAuthenticated = true) (h : turned sid s s' = false) :
    (s'.core.sessions sid).isAuthenticated = (s.core.sessions sid).isAuthenticated := by
  unfold turned at h
  cases hs : (s.core.sessions sid).isAuthenticated with
  | true => exact hmono hs
  | false =>
    rw [hs] at h
    exact h

theorem Joint.served_ok {n : Nat} {env : Nat → Answer} {result : ProcessResult} {s' : St}
    (hrun : (processMessage L cfg sid (cString (j.upstream.take n))).run (j.world.facing env) =
      (.ok result, s')) :
    j.served L cfg sid n env = { j with
      world := s'.world
      serving := result.2
      upstream := j.upstream.drop n
      downstream := j.downstream ++
        [(bytesOf result.1.text, turned sid (j.world.facing env) s')] } := by
  unfold Joint.served
  dsimp only
  rw [hrun]

theorem Joint.served_error {n : Nat} {env : Nat → Answer} {e : Exn} {s' : St}
    (hrun : (processMessage L cfg sid (cString (j.upstream.take n))).run (j.world.facing env) =
      (.error e, s')) :
    j.served L cfg sid n env =
      { j with world := s'.world, upstream := j.upstream.drop n } := by
  unfold Joint.served
  dsimp only
  rw [hrun]

theorem Joint.Single.served (h : j.Single N sid) (n : Nat) (env : Nat → Answer) :
    (j.served (L.standard F) cfg sid n env).Single N sid := by
  have hcount := h.count
  cases hrun : (processMessage (L.standard F) cfg sid (cString (j.upstream.take n))).run
    (j.world.facing env) with
  | mk r s' =>
    have hmono : (j.world.core.sessions sid).isAuthenticated = true →
        (s'.core.sessions sid).isAuthenticated = true := by
      intro ha
      have hafter := authenticated_mono (L.standard F) cfg (cString (j.upstream.take n))
        (s := j.world.facing env) ha
      rw [hrun] at hafter
      exact hafter
    have hturned := turned_toNat (s := j.world.facing env) hmono
    cases r with
    | error e =>
      rw [Joint.served_error hrun]
      refine ⟨?_, h.marked, h.logins, h.keepalives, h.listeners⟩
      show _ ≤ (s'.core.sessions sid).isAuthenticated.toNat
      rw [← hturned]
      exact hcount.trans (Nat.le_add_left _ _)
    | ok result =>
      rw [Joint.served_ok hrun]
      refine ⟨?_, ?_, h.logins, h.keepalives, h.listeners⟩
      · show (j.downstream ++ [_]).countP Prod.snd + j.logins.length ≤
          (s'.core.sessions sid).isAuthenticated.toNat
        rw [← hturned, List.countP_append, List.countP_singleton, Nat.add_right_comm, Nat.add_comm]
        refine Nat.add_le_add (le_of_eq ?_) hcount
        cases turned sid (j.world.facing env) s' <;> rfl
      · intro reply hmem hmark
        rcases List.mem_append.mp hmem with hold | hnew
        · exact h.marked reply hold hmark
        · rw [List.mem_singleton] at hnew
          subst hnew
          exact not_login_of_not_turned hrun (stays_of_not_turned hmono hmark)

theorem finish_of_noLogin {q : Request} {clientId text : Bytes} {r : TransactionResult × Bytes}
    (h : NoLogin N text) (hr : q.finish N clientId true (.data text) = some r) :
    r.1 ≠ .loginSuccess ∧ r.2 = clientId := by
  obtain ⟨transaction, htransaction, rfl⟩ := Option.map_eq_some_iff.mp hr
  obtain ⟨printed, hprinted, rfl⟩ := Option.map_eq_some_iff.mp htransaction
  have hplain : printed.2 = (false, clientId) := by
    by_cases hlogin : q.command = bytesOf "login"
    · obtain ⟨lines, hlines⟩ := h clientId
      rw [hlogin, print_login, hlines] at hprinted
      cases hprinted
      rfl
    · exact printReadableResponse_plain hlogin hprinted
  rw [hplain]
  cases q.quit with
  | true => exact ⟨nofun, rfl⟩
  | false => exact ⟨nofun, rfl⟩

section Answered
variable {q : Request} {text : Bytes} (mark : Bool) (rest : List (Bytes × Bool))
  (keepalive listener : Bool)

theorem Joint.answered_plain
    (h : ∀ r, q.finish N j.clientId true (.data text) = some r → r.1 ≠ .loginSuccess) :
    (j.answered N q text mark rest keepalive listener).logins = j.logins ∧
      (j.answered N q text mark rest keepalive listener).keepalives = j.keepalives ∧
      (j.answered N q text mark rest keepalive listener).listeners = j.listeners := by
  unfold Joint.answered
  cases hfinish : q.finish N j.clientId true (.data text) with
  | none => exact ⟨rfl, rfl, rfl⟩
  | some r =>
    have hlogin : decide (r.1 = .loginSuccess) = false := decide_eq_false (h r hfinish)
    dsimp only
    rw [hlogin]
    exact ⟨List.append_nil _, rfl, rfl⟩

theorem Joint.answered_login {r : TransactionResult × Bytes}
    (hfinish : q.finish N j.clientId true (.data text) = some r) (h : r.1 = .loginSuccess) :
    (j.answered N q text mark rest keepalive listener).logins = j.logins ++ [mark] ∧
      (j.answered N q text mark rest keepalive listener).keepalives ≤ j.keepalives + 1 ∧
      (j.answered N q text mark rest keepalive listener).listeners ≤ j.listeners + 1 := by
  have hlogin : decide (r.1 = .loginSuccess) = true := decide_eq_true h
  unfold Joint.answered
  rw [hfinish]
  dsimp only
  rw [hlogin]
  refine ⟨rfl, ?_, ?_⟩
  · split_ifs <;> omega
  · split_ifs <;> omega

variable (N q text) in
theorem Joint.answered_same :
    (j.answered N q text mark rest keepalive listener).downstream = rest ∧
      (j.answered N q text mark rest keepalive listener).world = j.world := by
  unfold Joint.answered
  split
  · exact ⟨rfl, rfl⟩
  · exact ⟨rfl, rfl⟩

variable {mark rest} in
theorem Joint.Single.answered (h : j.Single N sid) (hdown : j.downstream = (text, mark) :: rest) :
    (j.answered N q text mark rest keepalive listener).Single N sid := by
  have hcount := h.count
  have hmarked := h.marked
  have hkeepalives := h.keepalives
  have hlisteners := h.listeners
  rw [hdown, List.countP_cons] at hcount
  rw [hdown] at hmarked
  obtain ⟨hrest, hworld⟩ := j.answered_same N q text mark rest keepalive listener
  have hsame : (j.answered N q text mark rest keepalive listener).authenticated sid =
      j.authenticated sid := by
    unfold Joint.authenticated
    rw [hworld]
  have hlater : ∀ reply ∈ (j.answered N q text mark rest keepalive listener).downstream,
      reply.2 = false → NoLogin N reply.1 := by
    rw [hrest]
    exact fun reply hmem => hmarked reply (List.mem_cons_of_mem _ hmem)
  by_cases hlogin : ∃ r, q.finish N j.clientId true (.data text) = some r ∧ r.1 = .loginSuccess
  · obtain ⟨r, hfinish, hlogin⟩ := hlogin
    obtain ⟨hlogins, hmoreKeepalives, hmoreListeners⟩ := Joint.answered_login mark rest
      keepalive listener hfinish hlogin
    -- the invariant has no login for a reply without a mark
    obtain rfl : mark = true := by
      by_contra hmark
      exact (finish_of_noLogin (hmarked _ List.mem_cons_self (Bool.eq_false_of_not_eq_true hmark))
        hfinish).1 hlogin
    rw [if_pos rfl] at hcount
    refine ⟨?_, hlater, ?_, ?_, ?_⟩
    · rw [hrest, hsame, hlogins, List.length_append, List.length_singleton]
      omega
    · rw [hlogins]
      intro mark hmem
      rw [List.mem_append, List.mem_singleton] at hmem
      exact hmem.elim (h.logins mark) id
    · rw [hlogins, List.length_append, List.length_singleton]
      omega
    · rw [hlogins, List.length_append, List.length_singleton]
      omega
  · obtain ⟨hlogins, hsameKeepalives, hsameListeners⟩ := Joint.answered_plain mark rest
      keepalive listener fun r hr hno => hlogin ⟨r, hr, hno⟩
    refine ⟨?_, hlater, ?_, ?_, ?_⟩
    · rw [hrest, hsame, hlogins]
      omega
    · rw [hlogins]
      exact h.logins
    · rw [hlogins, hsameKeepalives]
      exact hkeepalives
    · rw [hlogins, hsameListeners]
      exact hlisteners

end Answered

/-- another input leaves the session as authenticated as it was -/
theorem Joint.Single.other (h : j.Single N sid) {i : Input}
    (hother : ∀ text, i.what ≠ .message sid text) :
    { j with world := ((perform L cfg i.what).run (j.world.before i)).2.world }.Single N sid := by
  refine ⟨?_, h.marked, h.logins, h.keepalives, h.listeners⟩
  have hsession : (after L cfg j.world i).sessions sid = j.world.core.sessions sid := by
    rcases (stepped_after L cfg j.world i).sessions with ⟨hsame, -⟩ |
      ⟨sid', user, row, ⟨text, hwhat, -⟩, -, -, hupdate⟩
    · rw [hsame]
    · rw [hupdate, Function.update_of_ne]
      rintro rfl
      exact hother text hwhat
  show _ ≤ ((after L cfg j.world i).sessions sid).isAuthenticated.toNat
  rw [hsession]
  exact h.count

theorem single_step (h : j.Single N sid) {i : JointInput}
    (hstep : jointStep (L.standard F) cfg N sid j i = some j') : j'.Single N sid := by
  cases jointStep_moves hstep with
  | line buffer R sent => exact h.enter buffer R sent
  | serve n env => exact h.served n env
  | reply keepalive listener down => exact h.answered keepalive listener down
  | hangUp => exact ⟨h.count, h.marked, h.logins, h.keepalives, h.listeners⟩
  | other foreign => exact h.other foreign

/-! ## after the login -/

theorem Joint.enter_account (j : Joint) (buffer : Bytes) (R : Runtime) (sent : Bool) :
    (j.enter buffer R sent).account = j.account := by
  unfold Joint.enter
  cases beginAction R buffer with
  | crash => rfl
  | returned r => rfl
  | request q => cases sent <;> rfl

theorem Joint.served_account (j : Joint) (n : Nat) (env : Nat → Answer) :
    (j.served L cfg sid n env).account = j.account := by
  cases hrun : (processMessage L cfg sid (cString (j.upstream.take n))).run (j.world.facing env) with
  | mk r s' =>
    cases r with
    | error e =>
      rw [Joint.served_error hrun]
      rfl
    | ok result =>
      rw [Joint.served_ok hrun]
      rfl

/-- the one login is behind the client, so that no marked reply is under way -/
theorem Joint.Single.unmarked (h : j.Single N sid) (hlogins : j.logins ≠ []) :
    ∀ reply ∈ j.downstream, reply.2 = false := by
  have hcount := h.count
  have hpos := List.length_pos_iff.mpr hlogins
  have hone := Bool.toNat_le (j.authenticated sid)
  have hzero : j.downstream.countP Prod.snd = 0 := by omega
  intro reply hmem
  exact Bool.eq_false_of_not_eq_true (List.countP_eq_zero.mp hzero reply hmem)

theorem account_step (h : j.Single N sid) (hlogins : j.logins ≠ []) {i : JointInput}
    (hstep : jointStep (L.standard F) cfg N sid j i = some j') : j'.account = j.account := by
  cases jointStep_moves hstep with
  | line buffer R sent => exact j.enter_account buffer R sent
  | serve n env => exact j.served_account n env
  | hangUp => rfl
  | other foreign => rfl
  | @reply q text mark rest keepalive listener down =>
    have hmem : (text, mark) ∈ j.downstream := by
      rw [down]
      exact List.mem_cons_self
    have hno := h.marked _ hmem (h.unmarked hlogins _ hmem)
    obtain ⟨hsame, hkeepalives, hlisteners⟩ := Joint.answered_plain mark rest keepalive listener
      fun r hr => (finish_of_noLogin (q := q) hno hr).1
    have hid : (j.answered N q text mark rest keepalive listener).clientId = j.clientId := by
      unfold Joint.answered
      cases hfinish : q.finish N j.clientId true (.data text) with
      | none => rfl
      | some r => exact (finish_of_noLogin hno hfinish).2
    show (_, _, _, _) = (_, _, _, _)
    rw [hsame, hkeepalives, hlisteners, hid]

theorem account_run (h : j.Single N sid) (hlogins : j.logins ≠ []) :
    ∀ inputs j', runFrom (jointStep (L.standard F) cfg N sid) j inputs = some j' →
      j'.account = j.account := by
  intro inputs j' hrun
  refine (runFrom_invariant (I := fun j' => j'.Single N sid ∧ j'.account = j.account) ⟨h, rfl⟩ ?_
    inputs j' hrun).2
  rintro j₁ i j₂ ⟨hsingle, hsame⟩ hstep
  have hlogins₁ : j₁.logins ≠ [] := by
    rw [show j₁.logins = j.logins from congrArg Prod.fst hsame]
    exact hlogins
  exact ⟨single_step hsingle hstep, (account_step hsingle hlogins₁ hstep).trans hsame⟩

end Invariant

/-- **In every run of a client with a session of the server the client logs in once at most, and for
the reply that turned the session authenticated: at most one keepalive thread and one listener are
started.  From then on no line and no reply changes the logins, the id or the threads.** -/
theorem login_once {L : Libs} {F : Doubles} (hjson : L.Nlohmann F) {cfg : Config} {N : CLib} {sid : Nat}
    {core : Core} {journal : Journal} {ips : Nat → String} {inputs : List JointInput} {j : Joint}
    (hrun : runFrom (jointStep L cfg N sid) (.start core journal ips) inputs = some j) :
    (j.logins = [] ∨ j.logins = [true]) ∧ j.keepalives ≤ 1 ∧ j.listeners ≤ 1 ∧
      (j.logins = [true] → ∀ more j',
        runFrom (jointStep L cfg N sid) j more = some j' → j'.account = j.account) := by
  obtain ⟨L, rfl⟩ := hjson.standard
  have hsingle : j.Single N sid := runFrom_invariant (single_start core journal ips)
    (fun _ _ _ hI hstep => single_step hI hstep) inputs j hrun
  have hcount := hsingle.count
  have hkeepalives := hsingle.keepalives
  have hlisteners := hsingle.listeners
  have hone := Bool.toNat_le (j.authenticated sid)
  refine ⟨?_, by omega, by omega, ?_⟩
  · have hmarks := hsingle.logins
    cases hlogins : j.logins with
    | nil => exact .inl rfl
    | cons mark rest =>
      rw [hlogins] at hcount hmarks
      rw [List.length_cons] at hcount
      obtain rfl : rest = [] := List.length_eq_zero_iff.mp (by omega)
      rw [hmarks mark List.mem_cons_self]
      exact .inr rfl
  · intro hlogins more j' hmore
    refine account_run hsingle ?_ more j' hmore
    rw [hlogins]
    exact List.cons_ne_nil _ _

/-! A line that is answered as a login. -/

section Entered
variable {L : Libs} {F : Doubles} {cfg : Config} {N : CLib} {sid : Nat} {core : Core}
  {journal : Journal} {ips : Nat → String} {buffer : Bytes} {R : Runtime} {q : Request}
  {env : Nat → Answer} {user : String}

theorem jointStep_line {j : Joint} {sent : Bool} (hrunning : j.running = true)
    (hwaiting : j.waiting = none) :
    jointStep L cfg N sid j (.line buffer R sent) = some (j.enter buffer R sent) := by
  simp only [jointStep]
  rw [if_pos ⟨hrunning, hwaiting⟩]

theorem jointStep_serve {j : Joint} {n : Nat} (hserving : j.serving = true) (hpos : 0 < n)
    (hfits : n ≤ Logistics.BUFFER_SIZE - 1) (hlength : n ≤ j.upstream.length) :
    jointStep L cfg N sid j (.serve n env) = some (j.served L cfg sid n env) := by
  simp only [jointStep]
  rw [if_pos ⟨hserving, hpos, hfits, hlength⟩]

theorem finish_loginBody (hcommand : q.command = bytesOf "login") (hquit : q.quit = false)
    (hformats : N.formats (loginFormat (bytesOf user)) = true) :
    ∃ r, q.finish N [] true (.data (bytesOf ((loginBody user).dump F))) = some r ∧
      r.1 = .loginSuccess := by
  have hnul : 0 ∉ bytesOf ((loginBody user).dump F) := fun hmem =>
    absurd (dump_printable F (loginBody_canonical user).ranged 0 hmem) (by decide)
  obtain ⟨lines, hlogin⟩ := handleLoginResponse_loginBody (F := F) (N := N) user
  rw [if_pos hformats] at hlogin
  have hprinted : printReadableResponse N [] (cString (bytesOf ((loginBody user).dump F)))
      q.command = some (lines, true, setId (bytesOf user)) := by
    rw [hcommand, print_login, (cString_eq_self_iff _).mpr hnul, hlogin]
  refine ⟨(.loginSuccess, setId (bytesOf user)), ?_, rfl⟩
  unfold Request.finish handleServerTransaction
  dsimp only
  rw [if_neg Bool.true_eq_false_eq_False, hprinted, hquit]
  rfl

theorem login_taken (hbegin : beginAction R buffer = .request q)
    (hcommand : q.command = bytesOf "login") (hquit : q.quit = false) (hne : q.message ≠ [])
    (hfits : q.message.length ≤ Logistics.BUFFER_SIZE - 1) (hnul : 0 ∉ q.message)
    (hlogin : authCall (L.standard F) cfg sid q.message ((World.start core journal ips).facing env) =
      some (user, .ok .success))
    (hformats : N.formats (loginFormat (bytesOf user)) = true) :
    ∃ j, runFrom (jointStep (L.standard F) cfg N sid) (.start core journal ips)
        [.line buffer R true, .serve q.message.length env, .reply true true] = some j ∧
      j.logins = [true] := by
  obtain ⟨s', hreply, -⟩ := login_reply hlogin
  have hturned : turned sid ((World.start core journal ips).facing env) s' = true := by
    obtain ⟨answer, s₁, row, hrun, -, -, -, heffect⟩ := processMessage_login hlogin
    cases hreply.symm.trans hrun
    unfold turned
    rw [heffect.sessions, Function.update_self]
    rfl
  let j₁ : Joint := { Joint.start core journal ips with upstream := q.message, waiting := some q }
  have hfirst : jointStep (L.standard F) cfg N sid (.start core journal ips)
      (.line buffer R true) = some j₁ := by
    have hentered : (Joint.start core journal ips).enter buffer R true = j₁ := by
      unfold Joint.enter
      rw [hbegin]
      rfl
    rw [← hentered]
    exact jointStep_line rfl rfl
  have hread : cString (j₁.upstream.take q.message.length) = q.message := by
    show cString (q.message.take q.message.length) = q.message
    rw [List.take_length]
    exact (cString_eq_self_iff _).mpr hnul
  let j₂ : Joint := { j₁ with
    world := s'.world
    upstream := q.message.drop q.message.length
    downstream := [(bytesOf ((loginBody user).dump F), true)] }
  have hsecond : jointStep (L.standard F) cfg N sid j₁ (.serve q.message.length env) = some j₂ := by
    have hrun : (processMessage (L.standard F) cfg sid
        (cString (j₁.upstream.take q.message.length))).run (j₁.world.facing env) =
          (.ok (.dumped (L.standard F) (loginBody user), true), s') := by
      rw [hread]
      exact hreply
    have hserved : j₁.served (L.standard F) cfg sid q.message.length env = j₂ := by
      rw [Joint.served_ok hrun]
      show { j₁ with
        world := s'.world
        upstream := q.message.drop q.message.length
        downstream := [(bytesOf ((loginBody user).dump F),
          turned sid ((World.start core journal ips).facing env) s')] } = j₂
      rw [hturned]
    rw [← hserved]
    exact jointStep_serve rfl (List.length_pos_iff.mpr hne) hfits le_rfl
  refine ⟨j₂.answered N q (bytesOf ((loginBody user).dump F)) true [] true true, ?_, ?_⟩
  · rw [runFrom_cons, hfirst, Option.bind_some, runFrom_cons, hsecond]
    rfl
  · obtain ⟨r, hfinish, hsuccess⟩ := finish_loginBody (F := F) (N := N) hcommand hquit hformats
    exact (Joint.answered_login (j := j₂) true [] true true hfinish hsuccess).1

end Entered

def aliceRequest : Request :=
  ⟨bytesOf ((credentials "alice" "secret").dump .sample), bytesOf "login", false⟩

theorem aliceStart_facing : aliceStart.facing healthy = .sample aliceUsers .empty := rfl

theorem aliceRequest_login :
    authCall sampleLibs .sample 0 aliceRequest.message (aliceStart.facing healthy) =
      some ("alice", .ok .success) := by
  rw [aliceStart_facing]
  exact alice_authCall

theorem aliceRequest_begin :
    beginAction plainRuntime (bytesOf "login alice secret\n") = .request aliceRequest ∧
      aliceRequest.message ≠ [] ∧ aliceRequest.message.length ≤ Logistics.BUFFER_SIZE - 1 ∧
      0 ∉ aliceRequest.message := by
  decide +kernel

/-- the line, the read of the session and the reply -/
def aliceLine : List JointInput :=
  [.line (bytesOf "login alice secret\n") plainRuntime true,
    .serve aliceRequest.message.length healthy, .reply true true]

theorem alice_logs_in_once :
    ∃ j, runFrom (jointStep sampleLibs .sample .sample 0)
        (.start (.boot aliceUsers .empty fun _ => "") .empty fun _ => "10.0.0.1") aliceLine = some j ∧
      j.logins = [true] ∧ j.keepalives ≤ 1 ∧ j.listeners ≤ 1 ∧
      ∀ more j', runFrom (jointStep sampleLibs .sample .sample 0) j more = some j' →
        j'.account = j.account := by
  obtain ⟨hbegin, hne, hfits, hnul⟩ := aliceRequest_begin
  obtain ⟨j, hrun, hlogins⟩ := login_taken (L := .known []) (F := .sample) (N := .sample) hbegin rfl rfl
    hne hfits hnul aliceRequest_login (formats_loginFormat .sample (by decide))
  obtain ⟨-, hkeepalives, hlisteners, hrest⟩ := login_once (F := .sample) ⟨rfl, rfl⟩ hrun
  exact ⟨j, hrun, hlogins, hkeepalives, hlisteners, hrest hlogins⟩

end Logistics
