import Logistics.Lib.Mailbox
import Logistics.Session.Handlers
import Logistics.Session.Lifecycle
import Logistics.Session.Outcome
import Logistics.Session.Schema
import Logistics.Session.Unsent

/-!
# What becomes of a queued notification

Each `run` of a session that is logged in takes one event from the queue of its user and sends it
over UDP, if the session has an address after the pause.  `Post` is the server together with the
history of every queue, kept as a `Mailbox`.  What a `run` did with an event is read off what the
`run` has left behind: the event is gone from the queue, and `sendto` was called with its text and
the address of the session, or was not.

* `HandedOver`                the datagram with the event, or its failure among the counters;
* `recipient`, `Unreachable`  whose event a `run` takes out, and when it has no address;
* `run_delivers`              **what a `run` takes out and what it hands over**;
* `notifications_kept_iff`    **no event is lost exactly if none is taken out for the unreachable**.
-/

namespace Logistics
open Std Runs

/-! ## what a run does, by the state before it -/

/-- the user whose event a `run` takes from the queue: the one its session is logged in as, or the
one that the message logs in; none where the reply cannot be written -/
def recipient (L : Libs) (cfg : Config) (sid : Nat) (written : Written) (s : St) :
    ReadResult → Option String
  | .data chunk =>
    if written = .error then none
    else if (s.core.sessions sid).isAuthenticated then some (s.core.sessions sid).clientID
    else loginOf L cfg sid (cString chunk) s
  | _ => none

/-- the session has no address, and no keepalive of its user that comes during the pause reaches it
through the registry, where a login puts it -/
def Unreachable (keepalive : Option String) (sid : Nat) (user : String) (c : Core) : Prop :=
  (c.sessions sid).udpAddress = none ∧ (keepalive = none ∨
    (c.sessions sid).isAuthenticated = true ∧ c.manager.activeSessions[user]? ≠ some sid)

/-- `sendMessageToClient` was called for the event: the datagram went to the address of the session,
or its failure was counted -/
def HandedOver (sid : Nat) (event : Event) (w w' : World) : Prop :=
  ∃ address ∈ (w'.core.sessions sid).udpAddress,
    w'.journal.datagrams = w.journal.datagrams ++ [(address, event.message)] ∨
      w'.journal.datagrams = w.journal.datagrams ∧
        w'.journal.errors (.udp, .tx) = w.journal.errors (.udp, .tx) + 1

instance (sid : Nat) (event : Event) (w w' : World) : Decidable (HandedOver sid event w w') :=
  inferInstanceAs (Decidable (∃ address ∈ (w'.core.sessions sid).udpAddress, _))

/-- the event at the head of the queue is taken out, and handed over exactly if `reached` -/
def Delivers (sid : Nat) (user : String) (reached : Prop) (s s' : St) : Prop :=
  (s.core.queue user = [] ∧ s'.core.queue = s.core.queue) ∨
    ∃ event rest, s.core.queue user = event :: rest ∧
      s'.core.queue = Function.update s.core.queue user rest ∧
      (HandedOver sid event s.world s'.world ↔ reached)

variable {L : Libs} {cfg : Config} {sid : Nat} {user : String} {keepalive : Option String}
  {input : ReadResult} {s : St}

/-! ## what leaves the queues and the addresses alone -/

structure Still (s s' : St) : Prop extends Unsent s s' where
  queue : s'.core.queue = s.core.queue
  address : ∀ sid, (s'.core.sessions sid).udpAddress = (s.core.sessions sid).udpAddress

instance : IsPreorder St Still where
  refl s := ⟨refl_of Unsent s, rfl, fun _ => rfl⟩
  trans _ _ _ h h' := ⟨trans_of Unsent h.toUnsent h'.toUnsent, h'.queue.trans h.queue,
    fun sid => (h'.address sid).trans (h.address sid)⟩

theorem still_logged (s : St) (level : LogLevel) (component message : String)
    (clientId : Option String) : Still s (s.logged level component message clientId) := by
  have hsent := log_unsent level component message clientId s
  rw [run_log] at hsent
  refine ⟨hsent, ?_, fun sid => ?_⟩
  · rw [St.logged_core]
  · rw [St.logged_core]

theorem log_still (level : LogLevel) (component message : String) (clientId : Option String) :
    (log level component message clientId).Keeps Still := by
  intro s
  rw [run_log]
  exact still_logged s level component message clientId

theorem still_routine : Routine Still where
  next s := ⟨ask_unsent s, rfl, fun _ => rfl⟩
  core s c h := ⟨setCore_unsent (fun _ => c) s, Core.queue_congr h.queues, h.addresses⟩
  messages _ _ := ⟨unsent_of rfl rfl rfl, rfl, fun _ => rfl⟩
  reconnections _ _ := ⟨unsent_of rfl rfl rfl, rfl, fun _ => rfl⟩
  plain s level component message := still_logged s level component message none

theorem incrementError_still (direction : Direction) :
    (incrementError .tcp direction).Keeps Still :=
  fun s => ⟨incrementError_unsent direction s, rfl, fun _ => rfl⟩

/-- **A message takes no event out and sends none.** -/
theorem processMessage_keeps_still (L : Libs) (cfg : Config) (sid : Nat) (text : Bytes) :
    (processMessage L cfg sid text).Keeps Still := fun _ =>
  have hnotes : ∀ component id, Notes Still component id := fun component id s level message =>
    still_logged s level component message (some id)
  processMessage_routine still_routine (incrementError_still .rx) (fun _ => hnotes _ _)
    (fun _ _ _ _ => hnotes _ _) fun _ _ _ _ _ => hnotes _ _

theorem CommandEffect.activeSessions {me : String} {request : Json} {c : Core}
    (h : CommandEffect cfg me request s c) :
    c.manager.activeSessions = s.core.manager.activeSessions := by
  cases h with
  | unlock user hu =>
    have hchange := unlockClient_change user s
    generalize ((unlockClient user).run s).1 = r at hchange
    generalize ((unlockClient user).run s).2.core = c at hchange ⊢
    cases hchange <;> rfl
  | _ => rfl

theorem unregister_still (sid : Nat) : (unregister sid).Keeps Still := by
  refine Prog.keeps_bind Prog.keeps_get fun s => Prog.keeps_ite ?_ (Prog.keeps_pure _)
  exact fun s' => ⟨setCore_unsent _ s', rfl, fun _ => rfl⟩

/-- afterwards the session is logged in for the user of `recipient`, and in the registry if the
message was a login -/
theorem processMessage_session {text : Bytes} {s₁ : St} {result : ProcessResult}
    (hrun : (processMessage L cfg sid text).run s = (.ok result, s₁)) :
    ((s₁.core.sessions sid).isAuthenticated = false ∧
        (s.core.sessions sid).isAuthenticated = false ∧ loginOf L cfg sid text s = none) ∨
      (s₁.core.sessions sid).isAuthenticated = true ∧
        (((s.core.sessions sid).isAuthenticated = true ∧
            s₁.core.sessions sid = s.core.sessions sid ∧
            s₁.core.manager.activeSessions = s.core.manager.activeSessions) ∨
          (s.core.sessions sid).isAuthenticated = false ∧
            loginOf L cfg sid text s = some (s₁.core.sessions sid).clientID ∧
            s₁.core.manager.activeSessions[(s₁.core.sessions sid).clientID]? = some sid) := by
  cases ha : (s.core.sessions sid).isAuthenticated with
  | true =>
    have hsame := @processMessage_member sid text s L cfg ha
    rw [hrun] at hsame
    have hcore : s₁.core.sessions = s.core.sessions ∧
        s₁.core.manager.activeSessions = s.core.manager.activeSessions := by
      rcases hsame with ⟨-, hcore⟩ | ⟨request, -, heffect⟩
      · have hcore : s₁.core = s.core := hcore
        rw [hcore]
        exact ⟨rfl, rfl⟩
      · have hsessions := heffect.sessions
        have hactive := heffect.activeSessions
        rw [received_core] at hsessions hactive
        exact ⟨hsessions, hactive⟩
    rw [hcore.1]
    exact .inr ⟨ha, .inl ⟨rfl, rfl, hcore.2⟩⟩
  | false =>
    cases hlogin : loginOf L cfg sid text s with
    | some user =>
      have hcall := loginOf_eq_some_iff.mp hlogin
      obtain ⟨answer, s', row, hreply, -, -, -, heffect⟩ := processMessage_login hcall
      obtain ⟨s'', hreply', hid, hactive⟩ := login_reply hcall
      rw [hrun] at hreply hreply'
      cases hreply
      cases hreply'
      refine .inr ⟨?_, .inr ⟨rfl, ?_, ?_⟩⟩
      · rw [heffect.sessions, Function.update_self]
        rfl
      · rw [hid]
      · rw [hid]
        exact hactive
    | none =>
      have hno : ∀ user, authCall L cfg sid text s ≠ some (user, .ok .success) := by
        intro user hcall
        rw [loginOf_eq_some_iff.mpr hcall] at hlogin
        cases hlogin
      have hsessions := (processMessage_guest L cfg ha hno).2.sessions
      rw [hrun] at hsessions
      have hsessions : s₁.core.sessions = s.core.sessions := hsessions
      rw [hsessions]
      exact .inl ⟨ha, rfl, rfl⟩

/-! ## what is taken out -/

section Delivery
variable {sid : Nat} {user : String} {reached : Prop} {s s₁ s₂ s' : St}

theorem handedOver_congr {event : Event} (hbefore : Still s s₁) (hafter : Still s₂ s') :
    HandedOver sid event s₁.world s₂.world ↔ HandedOver sid event s.world s'.world := by
  unfold HandedOver
  show (∃ address ∈ (s₂.core.sessions sid).udpAddress, s₂.journal.datagrams = _ ∨
      s₂.journal.datagrams = s₁.journal.datagrams ∧ s₂.journal.errors (.udp, .tx) = _) ↔
    ∃ address ∈ (s'.core.sessions sid).udpAddress, s'.journal.datagrams = _ ∨
      s'.journal.datagrams = s.journal.datagrams ∧ s'.journal.errors (.udp, .tx) = _
  rw [hafter.address, hafter.datagrams, hafter.errors]
  show (∃ address ∈ _, _ = s₁.journal.datagrams ++ _ ∨ _ ∧ _ = s₁.journal.errors _ + 1) ↔ _
  rw [hbefore.datagrams, hbefore.errors]
  exact Iff.rfl

/-- before and after the event is taken out something else may happen -/
theorem Delivers.still (h : Delivers sid user reached s₁ s₂) (hbefore : Still s s₁)
    (hafter : Still s₂ s') : Delivers sid user reached s s' := by
  unfold Delivers
  rw [← hbefore.queue, hafter.queue]
  rcases h with ⟨hempty, hsame⟩ | ⟨event, rest, hhead, hqueue, hhanded⟩
  · exact .inl ⟨hempty, hsame⟩
  · exact .inr ⟨event, rest, hhead, hqueue, (handedOver_congr hbefore hafter).symm.trans hhanded⟩

/-- nothing was sent, so nothing was handed over -/
theorem not_handedOver {event : Event} (h : Unsent s s') :
    ¬ HandedOver sid event s.world s'.world := by
  rintro ⟨address, -, hsent | ⟨-, hcounted⟩⟩
  · have hsame : s.journal.datagrams = s.journal.datagrams ++ [(address, event.message)] :=
      h.datagrams.symm.trans hsent
    exact absurd (List.self_eq_append_right.mp hsame) (List.cons_ne_nil _ _)
  · have hsame : s.journal.errors (.udp, .tx) = s.journal.errors (.udp, .tx) + 1 :=
      h.errors.symm.trans hcounted
    omega

end Delivery

/-- `sendto` takes the datagram, or its failure is counted -/
theorem sendMessageToClient_spec (clientID message address : String) (s : St) :
    ∃ s', (sendMessageToClient clientID message address).run s = (.ok (), s') ∧ s'.core = s.core ∧
      (s'.journal.datagrams = s.journal.datagrams ++ [(address, message)] ∨
        s'.journal.datagrams = s.journal.datagrams ∧
          s'.journal.errors (.udp, .tx) = s.journal.errors (.udp, .tx) + 1) := by
  unfold sendMessageToClient sendto
  simp only [Prog.run_bind, run_ask]
  cases (s.env 0).fails with
  | true =>
    simp only [if_true, Prog.run_pure, Bool.false_eq_true, if_false, Prog.run_bind, run_log]
    refine ⟨_, rfl, ?_, .inr ⟨?_, ?_⟩⟩
    · exact St.logged_core s.next _ _ _ _
    · exact St.logged_datagrams s.next _ _ _ _
    · dsimp only
      rw [Function.update_self, St.logged_eq]
      rfl
  | false =>
    simp only [Bool.false_eq_true, if_false, Prog.run_bind, Prog.run_pure]
    refine ⟨_, run_log _ _ _ _ _, ?_, .inl ?_⟩
    · exact St.logged_core _ _ _ _ _
    · exact St.logged_datagrams _ _ _ _ _

/-- the address that the session has after the pause -/
def addressOf (keepalive : Option String) (sid : Nat) (c : Core) : Option String :=
  match (c.sessions sid).udpAddress with
  | some address => some address
  | none =>
    if c.manager.activeSessions[(c.sessions sid).clientID]? = some sid then keepalive else none

theorem awaitAddress_spec (sid : Nat) (hkeepalive : ∀ n, (s.env n).keepalive = keepalive) :
    ∃ s', (awaitAddress sid).run s = (.ok (addressOf keepalive sid s.core), s') ∧ Unsent s s' ∧
      s'.core.queue = s.core.queue ∧
      (s'.core.sessions sid).udpAddress = addressOf keepalive sid s.core := by
  unfold awaitAddress addressOf
  rw [Prog.run_bind, Prog.run_get]
  dsimp only
  cases haddress : (s.core.sessions sid).udpAddress with
  | some address => exact ⟨s, rfl, refl_of Unsent s, rfl, haddress⟩
  | none =>
    dsimp only
    rw [Prog.run_bind, run_ask]
    dsimp only
    rw [Prog.run_ite]
    split_ifs with hregistered
    · rw [hkeepalive]
      refine ⟨_, rfl, ⟨rfl, rfl, 1, fun _ => rfl⟩, rfl, ?_⟩
      show (Function.update s.core.sessions sid _ sid).udpAddress = keepalive
      rw [Function.update_self]
    · exact ⟨s.next, rfl, ask_unsent s, rfl, haddress⟩

theorem popEvent_unsent (user : String) : (popEvent user).Keeps Unsent := by
  refine Prog.keeps_bind Prog.keeps_get fun s => ?_
  have hlogged : ∀ message (event : Option Event), (do
      log .info "EventQueue" message none
      pure event : M (Option Event)).Keeps Unsent :=
    fun _ _ => Prog.keeps_bind (log_unsent _ _ _ _) fun _ => Prog.keeps_pure _
  split
  · split
    · exact Prog.keeps_bind (setCore_unsent _) fun _ => hlogged _ _
    · exact Prog.keeps_bind (setCore_unsent _) fun _ => hlogged _ _
  · exact hlogged _ _

theorem handleEventQueue_delivers (sid : Nat) (hkeepalive : ∀ n, (s.env n).keepalive = keepalive) :
    ∃ sent s', (handleEventQueue sid).run s = (.ok sent, s') ∧
      Delivers sid (s.core.sessions sid).clientID (addressOf keepalive sid s.core ≠ none) s s' := by
  have hpopped := popEvent_queues (s.core.sessions sid).clientID s
  have hunsent := popEvent_unsent (s.core.sessions sid).clientID s
  obtain ⟨s₁, hpop, hqueue⟩ := popEvent_spec (s.core.sessions sid).clientID s
  rw [hpop] at hpopped hunsent
  have hsame : addressOf keepalive sid s₁.core = addressOf keepalive sid s.core := by
    unfold addressOf
    rw [hpopped.sessions, hpopped.manager]
  unfold handleEventQueue
  rw [Prog.run_bind, Prog.run_get]
  dsimp only
  rw [Prog.run_bind, hpop]
  cases hhead : s.core.queue (s.core.sessions sid).clientID with
  | nil =>
    rw [hhead, List.tail_nil, ← hhead, Function.update_eq_self] at hqueue
    exact ⟨true, s₁, rfl, .inl ⟨hhead, hqueue⟩⟩
  | cons event rest =>
    rw [hhead, List.tail_cons] at hqueue
    obtain ⟨s₂, hawait, hunsent₂, hqueue₂, haddress₂⟩ :=
      awaitAddress_spec sid (s := s₁) (hunsent.answers (P := (·.keepalive = keepalive)) hkeepalive)
    rw [hsame] at hawait haddress₂
    simp only [List.head?_cons, Prog.run_bind, hawait]
    cases haddress : addressOf keepalive sid s.core with
    | some address =>
      obtain ⟨s₃, hsend, hcore, hsent⟩ :=
        sendMessageToClient_spec (s.core.sessions sid).clientID event.message address s₂
      rw [haddress] at haddress₂
      dsimp only
      rw [Prog.run_bind, hsend]
      refine ⟨true, s₃, rfl, .inr ⟨event, rest, hhead, ?_, iff_of_true ⟨address, ?_, ?_⟩ nofun⟩⟩
      · rw [hcore, hqueue₂, hqueue]
      · show address ∈ (s₃.core.sessions sid).udpAddress
        rw [hcore, haddress₂]
        rfl
      · have hbefore := trans_of Unsent hunsent hunsent₂
        rw [hbefore.datagrams, hbefore.errors] at hsent
        exact hsent
    | none =>
      dsimp only
      rw [Prog.run_bind, run_log]
      refine ⟨false, _, rfl, .inr ⟨event, rest, hhead, ?_, iff_of_false ?_ fun h => h rfl⟩⟩
      · rw [St.logged_core, hqueue₂, hqueue]
      · refine not_handedOver (trans_of Unsent (trans_of Unsent hunsent hunsent₂) ?_)
        have hlog := log_unsent .error "ClientSession" ("UDP address not set for client " ++
          (s.core.sessions sid).clientID ++ ". Cannot send event \"NOTIFICATION\".") none s₂
        rwa [run_log] at hlog

/-- a continuation that leaves the queues and the addresses alone -/
theorem delivers_bind {α β : Type} {p : M α} {f : α → M β} {reached : Prop}
    (hp : ∃ a s', p.run s = (.ok a, s') ∧ Delivers sid user reached s s')
    (hf : ∀ a, (f a).Keeps Still) : Delivers sid user reached s ((p >>= f).run s).2 := by
  obtain ⟨a, s', hrun, hdelivers⟩ := hp
  rw [Prog.run_bind, hrun]
  exact hdelivers.still (refl_of Still s) (hf a s')

theorem afterReply_delivers (sid : Nat) (keep : Bool)
    (hkeepalive : ∀ n, (s.env n).keepalive = keepalive) :
    ((s.core.sessions sid).isAuthenticated = false → Still s ((afterReply sid keep).run s).2) ∧
      ((s.core.sessions sid).isAuthenticated = true →
        Delivers sid (s.core.sessions sid).clientID (addressOf keepalive sid s.core ≠ none) s
          ((afterReply sid keep).run s).2) := by
  have hclose : ∀ _ : Unit, (do
      if keep then pure true
      else do
        let s ← Prog.get
        let me := s.core.sessions sid
        log .info "ClientSession" ("Closing connection with client: " ++ me.clientID ++
          " from IP: " ++ me.clientIP) none
        unregister sid
        pure false : M Bool).Keeps Still := fun _ =>
    Prog.keeps_ite (Prog.keeps_pure _) (Prog.keeps_bind Prog.keeps_get fun _ =>
      Prog.keeps_bind (log_still _ _ _ _) fun _ => Prog.keeps_bind (unregister_still sid) fun _ =>
        Prog.keeps_pure _)
  obtain ⟨sent, s₁, hevents, hdelivers⟩ := handleEventQueue_delivers sid hkeepalive
  constructor
  · intro hguest
    have hnothing : (sendEvents sid).run s = (.ok (), s) := by
      unfold sendEvents
      rw [Prog.run_bind, Prog.run_get]
      simp only [hguest, Bool.false_eq_true, if_false]
      rfl
    unfold afterReply
    rw [Prog.run_bind, hnothing]
    exact hclose () s
  · intro hmember
    obtain ⟨_, s₂, hreturns⟩ := sendEvents_returns sid s
    refine delivers_bind (p := sendEvents sid) ⟨(), s₂, hreturns, ?_⟩ hclose
    have hsend : Delivers sid (s.core.sessions sid).clientID (addressOf keepalive sid s.core ≠ none) s
        ((sendEvents sid).run s).2 := by
      unfold sendEvents
      rw [Prog.run_bind, Prog.run_get]
      simp only [hmember, if_true]
      exact delivers_bind ⟨sent, s₁, hevents, hdelivers⟩ fun sent =>
        Prog.keeps_ite (Prog.keeps_pure _) (log_still _ _ _ _)
    rw [hreturns] at hsend
    exact hsend

/-- what a reply on its way keeps of the session and the registry -/
structure SameSession (sid : Nat) (s s' : St) : Prop extends Still s s' where
  isAuthenticated :
    (s'.core.sessions sid).isAuthenticated = (s.core.sessions sid).isAuthenticated
  clientID : (s'.core.sessions sid).clientID = (s.core.sessions sid).clientID
  manager : s'.core.manager = s.core.manager

instance (sid : Nat) : IsPreorder St (SameSession sid) where
  refl s := ⟨refl_of Still s, rfl, rfl, rfl⟩
  trans _ _ _ h h' := ⟨trans_of Still h.toStill h'.toStill,
    h'.isAuthenticated.trans h.isAuthenticated, h'.clientID.trans h.clientID,
    h'.manager.trans h.manager⟩

theorem setSession_same (sid : Nat) {f : Session → Session}
    (h : ∀ me, (f me).udpAddress = me.udpAddress ∧
      (f me).isAuthenticated = me.isAuthenticated ∧ (f me).clientID = me.clientID) :
    (setSession sid f).Keeps (SameSession sid) := by
  intro s
  have hself : ((setSession sid f).run s).2.core.sessions sid = f (s.core.sessions sid) :=
    Function.update_self ..
  refine ⟨setSession_routine still_routine sid (fun me => (h me).1) s, ?_, ?_, rfl⟩
  · rw [hself, (h _).2.1]
  · rw [hself, (h _).2.2]

theorem writeSocket_same (sid : Nat) (message : Bytes) :
    (writeSocket sid message).Keeps (SameSession sid) := by
  have hask : ask.Keeps (SameSession sid) := fun s => ⟨still_routine.next s, rfl, rfl, rfl⟩
  have hset : ∀ bytes, (setSession sid fun me => me.sent bytes).Keeps (SameSession sid) :=
    fun _ => setSession_same sid fun _ => ⟨rfl, rfl, rfl⟩
  refine Prog.keeps_bind hask fun answer => ?_
  cases answer.written with
  | all => exact Prog.keeps_bind (hset _) fun _ => Prog.keeps_pure _
  | part n => exact Prog.keeps_bind (hset _) fun _ => Prog.keeps_pure _
  | again => exact Prog.keeps_pure _
  | error => exact Prog.keeps_pure _

/-- a reply fails, or is written or queued before the events are looked at -/
theorem answer_cases (sid : Nat) (result : ProcessResult) {written : Written}
    (hwritten : (s.env 0).written = written) :
    (written = .error ∧ Still s ((answer sid result).run s).2) ∨
      written ≠ .error ∧ ∃ s₁, SameSession sid s s₁ ∧
        (answer sid result).run s = (afterReply sid result.2).run s₁ := by
  have hwrite := writeSocket_same sid (bytesOf result.1.text) s
  have hresult : ((writeSocket sid (bytesOf result.1.text)).run s).1 = .ok written := by
    unfold writeSocket
    rw [Prog.run_bind, run_ask]
    dsimp only
    rw [hwritten]
    cases written <;> rfl
  unfold answer
  rw [Prog.run_bind]
  generalize (writeSocket sid (bytesOf result.1.text)).run s = r at hwrite hresult ⊢
  obtain ⟨r, s₁⟩ := r
  cases hresult
  cases written with
  | all => exact .inr ⟨nofun, s₁, hwrite, rfl⟩
  | part n => exact .inr ⟨nofun, s₁, hwrite, rfl⟩
  | again =>
    have hqueued := setSession_same sid (f := fun me => me.queued (bytesOf result.1.text))
      (fun _ => ⟨rfl, rfl, rfl⟩) s₁
    exact .inr ⟨nofun, _, trans_of (SameSession sid) hwrite hqueued, rfl⟩
  | error =>
    refine .inl ⟨rfl, trans_of Still hwrite.toStill ?_⟩
    exact Prog.keeps_bind Prog.keeps_get (fun _ => Prog.keeps_bind (incrementError_still .tx) fun _ =>
      Prog.keeps_bind (log_still _ _ _ _) fun _ => Prog.keeps_bind (unregister_still sid) fun _ =>
        Prog.keeps_pure _) s₁

theorem addressOf_ne_none_iff {c c' : Core}
    (haddress : (c'.sessions sid).udpAddress = (c.sessions sid).udpAddress)
    (hclient : (c'.sessions sid).clientID = user)
    (hactive : c'.manager.activeSessions[user]? = some sid ↔
      ((c.sessions sid).isAuthenticated = true → c.manager.activeSessions[user]? = some sid)) :
    addressOf keepalive sid c' ≠ none ↔ ¬ Unreachable keepalive sid user c := by
  unfold addressOf Unreachable
  rw [haddress, hclient]
  cases (c.sessions sid).udpAddress with
  | some address => exact iff_of_true nofun fun h => nomatch h.1
  | none =>
    dsimp only
    by_cases hregistered : c'.manager.activeSessions[user]? = some sid
    · rw [if_pos hregistered]
      have hreached := hactive.mp hregistered
      constructor
      · rintro hne ⟨-, hnone | ⟨hmember, hno⟩⟩
        · exact hne hnone
        · exact hno (hreached hmember)
      · exact fun h hnone => h ⟨rfl, .inl hnone⟩
    · rw [if_neg hregistered]
      refine iff_of_false (fun h => h rfl) (not_not.mpr ⟨rfl, .inr ?_⟩)
      rw [hactive] at hregistered
      exact Classical.not_imp.mp hregistered

/-- who is logged in after a message, and whether the registry knows the session -/
theorem processMessage_member_after {text : Bytes} {s₁ : St} {result : ProcessResult}
    (hrun : (processMessage L cfg sid text).run s = (.ok result, s₁))
    (hin : (s₁.core.sessions sid).isAuthenticated = true) :
    (if (s.core.sessions sid).isAuthenticated then some (s.core.sessions sid).clientID
        else loginOf L cfg sid text s) = some (s₁.core.sessions sid).clientID ∧
      (s₁.core.manager.activeSessions[(s₁.core.sessions sid).clientID]? = some sid ↔
        ((s.core.sessions sid).isAuthenticated = true →
          s.core.manager.activeSessions[(s₁.core.sessions sid).clientID]? = some sid)) := by
  rcases processMessage_session hrun with ⟨hout, -, -⟩ | ⟨-, hcase⟩
  · rw [hin] at hout
    cases hout
  rcases hcase with ⟨ha, hsame, hactive⟩ | ⟨ha, hlogin, hactive⟩
  · rw [if_pos ha, hsame, hactive]
    exact ⟨rfl, fun h _ => h, fun h => h ha⟩
  · rw [ha, if_neg Bool.false_ne_true]
    exact ⟨hlogin, iff_of_true hactive fun h => absurd h Bool.false_ne_true⟩

/-- what follows a message that is answered -/
theorem answer_delivers {chunk : Bytes} {s₁ s' : St} {written : Written} {result : ProcessResult}
    {keep : Bool} (hwritten : ∀ n, (s.env n).written = written)
    (hkeepalive : ∀ n, (s.env n).keepalive = keepalive)
    (hprocess : (processMessage L cfg sid (cString chunk)).run s = (.ok result, s₁))
    (hrun : (answer sid result).run s₁ = (.ok keep, s')) :
    (recipient L cfg sid written s (.data chunk) = none ∧ s'.core.queue = s.core.queue) ∨
      ∃ user, recipient L cfg sid written s (.data chunk) = some user ∧
        Delivers sid user (¬ Unreachable keepalive sid user s.core) s s' := by
  have hbefore := processMessage_keeps_still L cfg sid (cString chunk) s
  rw [hprocess] at hbefore
  have hanswer := answer_cases sid result
    (hbefore.answers (P := (·.written = written)) hwritten 0)
  unfold recipient
  dsimp only
  rcases hanswer with ⟨rfl, hfailed⟩ | ⟨hok, s₂, hreply, heq⟩
  · rw [hrun] at hfailed
    exact .inl ⟨if_pos rfl, (trans_of Still hbefore hfailed).queue⟩
  rw [if_neg hok]
  rw [heq] at hrun
  have hstill := trans_of Still hbefore hreply.toStill
  obtain ⟨hguest, hmember⟩ := afterReply_delivers sid result.2
    (hstill.answers (P := (·.keepalive = keepalive)) hkeepalive)
  rw [hrun, hreply.isAuthenticated] at hguest hmember
  rw [hreply.clientID] at hmember
  rcases processMessage_session hprocess with ⟨hout, hnot, hlogin⟩ | ⟨hin, -⟩
  · refine .inl ⟨?_, (trans_of Still hstill (hguest hout)).queue⟩
    rw [hnot, if_neg Bool.false_ne_true, hlogin]
  · obtain ⟨huser, hactive⟩ := processMessage_member_after hprocess hin
    rw [← hreply.manager] at hactive
    refine .inr ⟨_, huser, ?_⟩
    rw [← @addressOf_ne_none_iff _ _ keepalive _ _ (hstill.address sid) hreply.clientID hactive]
    exact (hmember hin).still hstill (refl_of Still s')

/-- **A `run` takes the first event from the queue of its recipient and leaves every other where it
is; it hands the event over exactly if the session can be reached.** -/
theorem run_delivers {s' : St} {written : Written} {keep : Bool}
    (hwritten : ∀ n, (s.env n).written = written)
    (hkeepalive : ∀ n, (s.env n).keepalive = keepalive)
    (hrun : (run L cfg sid input).run s = (.ok keep, s')) :
    (recipient L cfg sid written s input = none ∧ s'.core.queue = s.core.queue) ∨
      ∃ user, recipient L cfg sid written s input = some user ∧
        Delivers sid user (¬ Unreachable keepalive sid user s.core) s s' := by
  cases input with
  | again =>
    cases hrun
    exact .inl ⟨rfl, rfl⟩
  | error =>
    have hcore := (run_error L cfg sid s).2
    rw [hrun] at hcore
    have hcore : s'.core = s.core := hcore
    exact .inl ⟨rfl, by rw [hcore]⟩
  | closed =>
    have hkeeps : (run L cfg sid .closed).Keeps Still :=
      Prog.keeps_bind Prog.keeps_get fun _ => Prog.keeps_bind (log_still _ _ _ _) fun _ =>
        Prog.keeps_bind (unregister_still sid) fun _ => Prog.keeps_pure _
    have hstill := hkeeps s
    rw [hrun] at hstill
    exact .inl ⟨rfl, hstill.queue⟩
  | data chunk =>
    rw [run_data, Prog.run_bind] at hrun
    cases hprocess : (processMessage L cfg sid (cString chunk)).run s with
    | mk r s₁ =>
      rw [hprocess] at hrun
      cases r with
      | error e => cases hrun
      | ok result => exact answer_delivers hwritten hkeepalive hprocess hrun

/-- a `run` for a session that is logged in, or gets so, returns -/
theorem run_returns {written : Written} (h : recipient L cfg sid written s input = some user) :
    (run L cfg sid input).Returns s := by
  cases input with
  | again => cases h
  | error => cases h
  | closed => cases h
  | data chunk =>
    show (processMessage L cfg sid (cString chunk) >>= answer sid).Returns s
    refine Prog.returns_bind ?_ fun result s₁ => ?_
    · unfold recipient at h
      dsimp only at h
      split_ifs at h with herror ha
      · refine (processMessage_returns_value_iff L cfg sid (cString chunk) s).mpr fun hguest => ?_
        rw [ha] at hguest
        cases hguest
      · obtain ⟨s₁, hrun, -⟩ := login_reply (loginOf_eq_some_iff.mp h)
        exact ⟨_, _, hrun⟩
    · obtain ⟨keep, s₂, hanswer, -⟩ := answer_result sid result s₁
      exact ⟨keep, s₂, hanswer⟩

/-! ## the history of the queues -/

inductive Posting where
  | pushEvent (user : String) (event : Event)
  | run (sid : Nat) (input : ReadResult)
  | datagram (input : RecvResult)

/-- a call and what it meets: what becomes of the one `write` of a `run`, the address that a keepalive
brings during its one pause, and the other answers of the environment -/
structure PostInput where
  call : Posting
  written : Written
  keepalive : Option String
  env : Nat → Answer

def PostInput.answers (i : PostInput) : Nat → Answer :=
  fun n => { i.env n with written := i.written, keepalive := i.keepalive }

/-- the server, and for each user the history of the queue -/
structure Post where
  live : Live
  boxes : String → Mailbox Event

def Post.start (users : Users) (stock : Stock) (journal : Journal) (ips : Nat → String) : Post :=
  ⟨.start users stock journal ips, fun _ => .empty⟩

/-- the histories after a `run`: an event that is gone from the head of a queue was handed over if
the `run` left a trace of that, and is lost otherwise -/
def notified (boxes : String → Mailbox Event) (sid : Nat) (w w' : World) (user : String) :
    Mailbox Event :=
  match w.core.queue user with
  | [] => boxes user
  | event :: _ =>
    if w'.core.queue user = w.core.queue user then boxes user
    else (boxes user).take (decide (HandedOver sid event w w'))

def postStep (L : Libs) (cfg : Config) (p : Post) (i : PostInput) : Option Post :=
  match i.call with
  | .pushEvent user event =>
    (Live.resume p.live.ended ((pushEvent cfg user event).run (p.live.world.facing i.answers))).map
      fun ℓ => ⟨ℓ, Function.update p.boxes user ((p.boxes user).push cfg.queueSize event)⟩
  | .run sid input => (liveStep L cfg p.live ⟨.run sid input, i.answers⟩).map fun ℓ =>
      ⟨ℓ, notified p.boxes sid p.live.world ℓ.world⟩
  | .datagram input =>
    (liveStep L cfg p.live ⟨.datagram input, i.answers⟩).map fun ℓ => ⟨ℓ, p.boxes⟩

/-- every event ever pushed is in its queue, was driven out by a push that found the queue full, or
was handed to `sendMessageToClient`, exactly once -/
def NotificationsKept (p : Post) : Prop :=
  ∀ user, (p.boxes user).letters = p.live.world.core.queue user ∧ (p.boxes user).Accounted

/-- the input is a `run` of an open session, with an event for its recipient, who cannot be reached -/
def LosesEvent (L : Libs) (cfg : Config) (p : Post) (i : PostInput) : Prop :=
  ∃ sid input user, i.call = .run sid input ∧ sid ∉ p.live.ended ∧
    recipient L cfg sid i.written (p.live.world.facing i.answers) input = some user ∧
    p.live.world.core.queue user ≠ [] ∧ Unreachable i.keepalive sid user p.live.world.core

/-- the histories are about the queues of the server -/
structure Post.Sound (p : Post) : Prop where
  letters : ∀ user, (p.boxes user).letters = p.live.world.core.queue user
  complete : ∀ user, (p.boxes user).Complete

section Steps
variable {L : Libs} {cfg : Config} {p p' : Post} {i : PostInput}

theorem Post.Sound.kept_iff (h : p.Sound) :
    NotificationsKept p ↔ ∀ user, (p.boxes user).lost = [] := by
  refine forall_congr' fun user => ?_
  rw [(h.complete user).accounted_iff]
  exact and_iff_right (h.letters user)

/-- what a `run` does to the queues and the histories -/
theorem liveStep_run_cases {ℓ : Live}
    (h : liveStep L cfg p.live ⟨.run sid input, i.answers⟩ = some ℓ) :
    (ℓ.world.core.queue = p.live.world.core.queue ∧
        notified p.boxes sid p.live.world ℓ.world = p.boxes ∧
        ∀ user, recipient L cfg sid i.written (p.live.world.facing i.answers) input = some user →
          p.live.world.core.queue user = []) ∨
      ∃ user event rest,
        recipient L cfg sid i.written (p.live.world.facing i.answers) input = some user ∧
        p.live.world.core.queue user = event :: rest ∧
        ℓ.world.core.queue = Function.update p.live.world.core.queue user rest ∧
        ∃ hand : Bool, (hand = true ↔ ¬ Unreachable i.keepalive sid user p.live.world.core) ∧
          notified p.boxes sid p.live.world ℓ.world =
            Function.update p.boxes user ((p.boxes user).take hand) := by
  have hquiet : ℓ.world.core.queue = p.live.world.core.queue →
      notified p.boxes sid p.live.world ℓ.world = p.boxes := by
    intro hsame
    funext user
    unfold notified
    split
    · rfl
    · rw [if_pos (congrFun hsame user)]
  rcases liveStep_cases h with ⟨sid', input', what, -, keep, s, hrun, rfl⟩ |
    ⟨input', s, what, -⟩ | ⟨text, s, what, -⟩
  · cases what
    rcases run_delivers (s := p.live.world.facing i.answers) (fun _ => rfl) (fun _ => rfl) hrun with
      ⟨hnone, hsame⟩ | ⟨user, huser, ⟨hempty, hsame⟩ | ⟨event, rest, hhead, hqueue, hhanded⟩⟩
    · refine .inl ⟨hsame, hquiet hsame, fun user huser => ?_⟩
      rw [hnone] at huser
      cases huser
    · refine .inl ⟨hsame, hquiet hsame, fun user' huser' => ?_⟩
      cases huser.symm.trans huser'
      exact hempty
    · have hhead : p.live.world.core.queue user = event :: rest := hhead
      have hqueue : s.core.queue = Function.update p.live.world.core.queue user rest := hqueue
      refine .inr ⟨user, event, rest, huser, hhead, hqueue,
        decide (HandedOver sid event p.live.world s.world), ?_, ?_⟩
      · rw [decide_eq_true_iff]
        exact hhanded
      · funext user'
        unfold notified
        by_cases hu : user' = user
        · have hgone : ¬ rest = event :: rest := fun he => List.cons_ne_self event rest he.symm
          rw [hu, Function.update_self, hhead]
          show (if s.core.queue user = event :: rest then _ else _) = _
          rw [hqueue, Function.update_self, if_neg hgone]
        · rw [Function.update_of_ne hu]
          split
          · rfl
          · refine if_pos ?_
            show s.core.queue user' = _
            rw [hqueue, Function.update_of_ne hu]
  · cases what
  · cases what

/-- what a step does to the histories, in the three cases -/
theorem postStep_cases (h : postStep L cfg p i = some p') :
    (∃ user event s, i.call = .pushEvent user event ∧
      (pushEvent cfg user event).run (p.live.world.facing i.answers) = (.ok (), s) ∧
      p' = ⟨⟨s.world, p.live.ended⟩,
        Function.update p.boxes user ((p.boxes user).push cfg.queueSize event)⟩) ∨
    (∃ sid input ℓ, i.call = .run sid input ∧
      liveStep L cfg p.live ⟨.run sid input, i.answers⟩ = some ℓ ∧
      p' = ⟨ℓ, notified p.boxes sid p.live.world ℓ.world⟩) ∨
    ∃ input ℓ, i.call = .datagram input ∧
      liveStep L cfg p.live ⟨.datagram input, i.answers⟩ = some ℓ ∧ p' = ⟨ℓ, p.boxes⟩ := by
  unfold postStep at h
  cases call : i.call with
  | pushEvent user event =>
    simp only [call] at h
    obtain ⟨s, hrun, -⟩ := pushEvent_queue cfg user event (p.live.world.facing i.answers)
    rw [hrun] at h
    cases h
    exact .inl ⟨user, event, s, rfl, hrun, rfl⟩
  | run sid input =>
    simp only [call] at h
    obtain ⟨ℓ, hℓ, rfl⟩ := Option.map_eq_some_iff.mp h
    exact .inr (.inl ⟨sid, input, ℓ, rfl, hℓ, rfl⟩)
  | datagram input =>
    simp only [call] at h
    obtain ⟨ℓ, hℓ, rfl⟩ := Option.map_eq_some_iff.mp h
    exact .inr (.inr ⟨input, ℓ, rfl, hℓ, rfl⟩)

/-- a datagram leaves every queue alone -/
theorem handleMessage_queue (L : Libs) (input : RecvResult) (s : St) :
    ((handleMessage L input).run s).2.core.queue = s.core.queue := by
  rw [handleMessage_core]
  cases input with
  | again => rfl
  | error => rfl
  | data address buffer =>
    dsimp only
    unfold Core.addressed
    cases keepaliveTarget L s.core (cString buffer) with
    | none => rfl
    | some sid => rfl

theorem liveStep_datagram_queue {ℓ ℓ' : Live} {input : RecvResult} {env : Nat → Answer}
    (h : liveStep L cfg ℓ ⟨.datagram input, env⟩ = some ℓ') :
    ℓ'.world.core.queue = ℓ.world.core.queue := by
  have hsame := handleMessage_queue L input (ℓ.world.facing env)
  rcases liveStep_cases h with ⟨sid', input', what, -⟩ | ⟨input', s, what, hrun, rfl⟩ |
    ⟨text, s, what, -⟩
  · cases what
  · cases what
    have hrun' : (handleMessage L input).run (ℓ.world.facing env) = (.ok (), s) := hrun
    rw [hrun'] at hsame
    exact hsame
  · cases what

/-- the history of one queue changes as the queue does -/
theorem Post.Sound.update (h : p.Sound) {ℓ : Live} {box : Mailbox Event} {queue : List Event}
    (hqueue : ℓ.world.core.queue = Function.update p.live.world.core.queue user queue)
    (hletters : box.letters = queue) (hcomplete : box.Complete) :
    (Post.mk ℓ (Function.update p.boxes user box)).Sound := by
  refine ⟨fun user' => ?_, fun user' => ?_⟩
  · show (Function.update p.boxes user box user').letters = ℓ.world.core.queue user'
    rw [hqueue]
    by_cases hu : user' = user
    · rw [hu, Function.update_self, Function.update_self, hletters]
    · rw [Function.update_of_ne hu, Function.update_of_ne hu]
      exact h.letters user'
  · show (Function.update p.boxes user box user').Complete
    by_cases hu : user' = user
    · rw [hu, Function.update_self]
      exact hcomplete
    · rw [Function.update_of_ne hu]
      exact h.complete user'

theorem postStep_sound (h : p.Sound) (hstep : postStep L cfg p i = some p') : p'.Sound := by
  rcases postStep_cases hstep with ⟨user, event, s, call, hrun, rfl⟩ |
    ⟨sid, input, ℓ, call, hℓ, rfl⟩ | ⟨input, ℓ, call, hℓ, rfl⟩
  · obtain ⟨s', hrun', hqueue⟩ := pushEvent_queue cfg user event (p.live.world.facing i.answers)
    rw [hrun] at hrun'
    cases hrun'
    refine h.update hqueue ?_ ((h.complete user).push cfg.queueSize event)
    rw [Mailbox.letters_push, h.letters user]
    rfl
  · rcases liveStep_run_cases hℓ with ⟨hsame, hboxes, -⟩ |
      ⟨user, event, rest, -, hhead, hqueue, hand, -, hboxes⟩
    · rw [hboxes]
      exact ⟨fun user => (h.letters user).trans (congrFun hsame user).symm, h.complete⟩
    · rw [hboxes]
      refine h.update hqueue ?_ ((h.complete user).take hand)
      rw [Mailbox.letters_take, h.letters user, hhead, List.tail_cons]
  · exact ⟨fun user => (h.letters user).trans (congrFun (liveStep_datagram_queue hℓ) user).symm,
      h.complete⟩

/-- **A step keeps every notification exactly if it is not a `run` for a session that cannot be
reached.** -/
theorem postStep_kept_iff (h : p.Sound) (hkept : NotificationsKept p)
    (hstep : postStep L cfg p i = some p') : NotificationsKept p' ↔ ¬ LosesEvent L cfg p i := by
  rw [(postStep_sound h hstep).kept_iff]
  have hlost := h.kept_iff.mp hkept
  rcases postStep_cases hstep with ⟨user, event, s, call, hrun, rfl⟩ |
    ⟨sid, input, ℓ, call, hℓ, rfl⟩ | ⟨input, ℓ, call, hℓ, rfl⟩
  · refine iff_of_true ?_ ?_
    · refine (Function.forall_update_iff p.boxes fun _ box => box.lost = []).mpr ⟨?_, ?_⟩
      · rw [Mailbox.lost_push]
        exact hlost user
      · intro user' _
        exact hlost user'
    · rintro ⟨sid, input, user', call', -⟩
      rw [call] at call'
      cases call'
  · rcases liveStep_run_cases hℓ with ⟨hsame, hboxes, hempty⟩ |
      ⟨user, event, rest, huser, hhead, hqueue, hand, hreached, hboxes⟩
    · rw [hboxes]
      refine iff_of_true hlost ?_
      rintro ⟨sid', input', user, call', -, huser, hne, -⟩
      rw [call] at call'
      cases call'
      exact hne (hempty user huser)
    · have hloses : LosesEvent L cfg p i ↔ hand = false := by
        rw [← Bool.not_eq_true, hreached, not_not]
        constructor
        · rintro ⟨sid', input', user', call', -, huser', -, hunreachable⟩
          rw [call] at call'
          cases call'
          cases huser.symm.trans huser'
          exact hunreachable
        · intro hunreachable
          refine ⟨sid, input, user, call, ?_, huser, ?_, hunreachable⟩
          · intro hended
            unfold liveStep at hℓ
            dsimp only at hℓ
            rw [if_pos hended] at hℓ
            cases hℓ
          · rw [hhead]
            exact List.cons_ne_nil _ _
      rw [hboxes, hloses]
      cases hand with
      | true =>
        refine iff_of_true ?_ nofun
        exact (Function.forall_update_iff p.boxes fun _ box => box.lost = []).mpr
          ⟨hlost user, fun user' _ => hlost user'⟩
      | false =>
        refine iff_of_false (fun hall => ?_) fun hno => hno rfl
        have hbox := hall user
        dsimp only at hbox
        rw [Function.update_self] at hbox
        exact Mailbox.lost_take_ne_nil ((h.letters user).trans hhead) hbox
  · refine iff_of_true hlost ?_
    rintro ⟨sid, input', user', call', -⟩
    rw [call] at call'
    cases call'

end Steps

theorem post_sound_start (users : Users) (stock : Stock) (journal : Journal) (ips : Nat → String) :
    (Post.start users stock journal ips).Sound where
  letters _ := ExtTreeMap.getD_empty.symm
  complete _ := Mailbox.complete_empty

/-- **No notification is lost in a run exactly if none of its session runs takes an event from the
queue of a user whom its session cannot reach: it has no UDP address, and no keepalive brings it one
during the pause.** -/
theorem notifications_kept_iff (L : Libs) (cfg : Config) (users : Users) (stock : Stock)
    (journal : Journal) (ips : Nat → String) (inputs : List PostInput) :
    Always (postStep L cfg) (.start users stock journal ips) inputs NotificationsKept ↔
      ¬ Occurred (postStep L cfg) (.start users stock journal ips) inputs (LosesEvent L cfg) := by
  have hsound := post_sound_start users stock journal ips
  refine always_iff_not_occurred (I := Post.Sound) (G := fun _ => True) (fun _ _ => trivial) hsound
    (fun _ _ _ => postStep_sound) (hsound.kept_iff.mpr fun _ => rfl) ?_
    fun _ _ _ hp hkept _ => postStep_kept_iff hp hkept
  rintro p i ⟨sid, input, user, call, hopen, huser, -⟩
  obtain ⟨keep, s, hrun⟩ := run_returns huser
  unfold postStep liveStep
  simp only [call, if_neg hopen, Live.before, hrun]
  cases keep with
  | true => exact ⟨_, rfl⟩
  | false => exact ⟨_, rfl⟩

/-! An event is pushed for alice, who then logs in and sends no keepalive within the pause. -/

def lostNotification : List PostInput :=
  [⟨.pushEvent "alice" ⟨"storm"⟩, .all, none, healthy⟩,
    ⟨.run 0 (.data (bytesOf aliceLogin.render)), .all, none, healthy⟩]

theorem lostNotification_isSome : (runFrom (postStep (.known [aliceLogin]) .sample)
    (.start aliceUsers .empty .empty fun _ => "10.0.0.1") lostNotification).isSome := by
  decide

def afterLostNotification : Post := (runFrom (postStep (.known [aliceLogin]) .sample)
  (.start aliceUsers .empty .empty fun _ => "10.0.0.1") lostNotification).get
    lostNotification_isSome

theorem notification_lost_at_login :
    runFrom (postStep (.known [aliceLogin]) .sample)
      (.start aliceUsers .empty .empty fun _ => "10.0.0.1") lostNotification =
        some afterLostNotification ∧
    (afterLostNotification.boxes "alice").arrivals = 1 ∧
    (afterLostNotification.boxes "alice").queue = [] ∧
    (afterLostNotification.boxes "alice").evicted = [] ∧
    (afterLostNotification.boxes "alice").handed = [] ∧
    afterLostNotification.live.world.core.queue "alice" = [] ∧
    afterLostNotification.live.world.journal.datagrams = [] := by
  refine ⟨(Option.some_get lostNotification_isSome).symm, ?_, ?_, ?_, ?_, ?_, ?_⟩ <;> decide

end Logistics
