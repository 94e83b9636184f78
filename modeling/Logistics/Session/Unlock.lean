import Logistics.Session.Closing
import Logistics.Session.History
import Logistics.Session.Notify

/-!
# Which locks can be undone

Only a session logged in as admin can clear a lock flag, and a locked user cannot log in.  So a flag
can be cleared, by some finite sequence of messages, exactly if the request that does it fits one
`read` and the admin is on an open session or can still get onto one.

* `Reached`             the states of the server, from `setupServer` on;
* `Clearable`           some messages lead to a state in which the flag is clear;
* `Sent.unlock`         what the request does, sent by the admin;
* `Live.Closed`, `closed_run`   **with the admin locked out no message changes a lock flag**;
* `clearable_iff`       **which flags can be cleared**.

An alert that names the admin while the admin is logged out closes the server for good.
-/

namespace Logistics
open Runs

/-! ## the request -/

/-- the request is an `unlock_client` for the user, with the configured phrase -/
structure UnlockRequest (cfg : Config) (user : String) (request : Json) : Prop where
  command : request.atString "command" = .ok "unlock_client"
  fields : unlockFields request = .ok (cfg.secretPhrase, user)

/-- over a database that can be written, the flag of a user with a row can be cleared -/
theorem run_unlockClient {user : String} {row : UserRow} {s : St}
    (hhealthy : (s.env 0).fails = false) (hrow : s.core.users.find? user = some row) :
    ∃ s', (unlockClient user).run s = (.ok true, s') := by
  obtain ⟨users, hupdate⟩ := update?_setLocked s.core.users user false
  unfold unlockClient changeLock
  rw [Prog.run_bind, run_setClientLockStatus, hhealthy]
  simp only [Bool.false_eq_true, if_false, hupdate, hrow, Option.isSome_some, if_true,
    Prog.run_bind, run_log, run_setManager, Prog.run_pure]
  exact ⟨_, rfl⟩

theorem not_flagged_of_cleared {user : String} {c c' : Core} (h : FlagCleared user c c') :
    ¬ Flagged c' user := by
  rintro ⟨row, hrow, hlocked⟩
  obtain ⟨row', -, hrow'⟩ := h.row
  rw [hrow'] at hrow
  cases hrow
  have hclear : columnInt 0 ≠ 1 := by decide
  exact hclear (of_decide_eq_true hlocked)

section Request
variable {L : Libs} {cfg : Config} {w : World} {i : Input} {sid : Nat} {text : Bytes}
  {request : Json} {user : String}

/-- **The request of the admin clears the flag and is answered with success.** -/
theorem Sent.unlock (h : Sent L "admin" "unlock_client" w i sid text request)
    (hfields : unlockFields request = .ok (cfg.secretPhrase, user)) {row : UserRow}
    (hrow : w.core.users.find? user = some row) (hhealthy : ∀ n, (i.env n).fails = false) :
    ∃ answer s', (processMessage L cfg sid text).run (w.before i) = (.ok (answer, true), s') ∧
      answer.status = some "success" ∧ FlagCleared user w.core s'.core := by
  have hrow' : (received L request (w.before i)).core.users.find? user = some row := by
    rw [received_core]
    exact hrow
  obtain ⟨s', hunlock⟩ := run_unlockClient (h.healthy hhealthy 0) hrow'
  have hchange := unlockClient_change user (received L request (w.before i))
  rw [hunlock, received_core] at hchange
  have hcleared : FlagCleared user w.core s'.core := by
    generalize s'.core = c' at hchange
    cases hchange with
    | done users row hrow hupdate => exact flagCleared_of_update? hrow hupdate
  have hsent : (processMessage L cfg sid text).run (w.before i) = _ := h.run
  rw [hsent, Prog.run_tryCatch, dispatch_unlock_client]
  unfold handleUnlockClientCommand
  rw [if_pos rfl, hfields]
  unfold catchJson
  rw [json_ok_bind, Prog.run_tryCatch]
  dsimp only
  rw [if_pos rfl, Prog.run_bind, hunlock]
  exact ⟨_, _, rfl, status_reply L _ _, hcleared⟩

end Request

/-! ## a run that goes well

The environment gives the same answer to every call. -/

/-- a reply that is written whole and does not end the session -/
theorem answer_stays (sid : Nat) (reply : Reply) {s : St} (hwritten : (s.env 0).written = .all) :
    ∃ s', (answer sid (reply, true)).run s = (.ok true, s') := by
  obtain ⟨keep, s', hrun, hkeep⟩ := answer_result sid (reply, true) s
  rw [hwritten] at hkeep
  cases keep with
  | true => exact ⟨s', hrun⟩
  | false => exact absurd (hkeep.mp rfl) (by simp)

/-! ## the users table -/

def SameUsers (c c' : Core) : Prop := c'.users = c.users

instance : IsPreorder Core SameUsers where
  refl _ := rfl
  trans _ _ _ h h' := Eq.trans h' h

theorem answer_users (sid : Nat) (result : ProcessResult) :
    (answer sid result).Keeps (onCore SameUsers) := by
  have hunregister : (unregister sid).Keeps (onCore SameUsers) :=
    Prog.keeps_bind Prog.keeps_get fun s => Prog.keeps_ite (fun _ => rfl) (Prog.keeps_pure _)
  have hafter := afterReply_keeps (sendEvents_keeps sid (fun _ _ h => h.users) fun _ _ => rfl)
    hunregister result.2
  have hsent : ∀ bytes, (setSession sid fun me => me.sent bytes).Keeps (onCore SameUsers) :=
    fun _ _ => rfl
  refine Prog.keeps_bind (writeSocket_keeps hsent _) fun written => ?_
  cases written with
  | all => exact hafter
  | part n => exact hafter
  | again => exact Prog.keeps_bind (fun _ => rfl) fun _ => hafter
  | error => exact writeFailed_keeps sid hunregister

/-! ## messages

A message is what one `read` delivers. -/

/-- the input is a message of an open session -/
def IsMessage (i : LiveInput) : Prop :=
  ∃ sid chunk, i.what = .run sid (.data chunk) ∧ chunk.length ≤ BUFFER_SIZE - 1

section Messages
variable {L : Libs} {cfg : Config} {ℓ ℓ' : Live} {i : LiveInput} {sid : Nat} {chunk : Bytes}

/-- the state `c` once the message is processed, and what the rest of `run` leaves of it -/
structure Delivered (L : Libs) (cfg : Config) (ℓ : Live) (sid : Nat) (chunk : Bytes)
    (env : Nat → Answer) (c : Core) (ℓ' : Live) : Prop where
  active : sid ∉ ℓ.ended
  stepped : Stepped L cfg ℓ.world ⟨.message sid (cString chunk), env⟩ c
  users : ℓ'.world.core.users = c.users
  logins : SameLogins c ℓ'.world.core
  ended : ℓ.ended ⊆ ℓ'.ended

theorem liveStep_delivered (h : liveStep L cfg ℓ i = some ℓ')
    (what : i.what = .run sid (.data chunk)) : ∃ c, Delivered L cfg ℓ sid chunk i.env c ℓ' := by
  rcases liveStep_cases h with ⟨sid', input, what', hopen, keep, s, hrun, rfl⟩ |
    ⟨input, s, what', -, -⟩ | ⟨text, s, what', -, -⟩
  · rw [what] at what'
    cases what'
    have hstepped := stepped_after L cfg ℓ.world ⟨.message sid (cString chunk), i.env⟩
    rw [after_message rfl] at hstepped
    have hread : ReadResult.data chunk ≠ .error := nofun
    have hends := run_ends L cfg sid hread (ℓ.before i)
    have husers : s.core.users = ((processMessage L cfg sid (cString chunk)).run
        (ℓ.before i)).2.core.users := by
      rw [run_data, Prog.run_bind] at hrun
      generalize (processMessage L cfg sid (cString chunk)).run (ℓ.before i) = r at hrun ⊢
      obtain ⟨r, s₁⟩ := r
      cases r with
      | error e => cases hrun
      | ok result =>
        have hsame := answer_users sid result s₁
        have hanswer : (answer sid result).run s₁ = (.ok keep, s) := hrun
        rw [hanswer] at hsame
        exact hsame
    rw [hrun] at hends
    refine ⟨_, hopen, hstepped, husers, hends.logins, ?_⟩
    cases keep with
    | true => exact Finset.Subset.refl _
    | false => exact Finset.subset_insert _ _
  · rw [what] at what'
    cases what'
  · rw [what] at what'
    cases what'

/-- a message that is answered and leaves its session open -/
theorem liveStep_of_processMessage {time : Int} (hopen : sid ∉ ℓ.ended) {reply : Reply} {s : St}
    (hrun : (processMessage L cfg sid (cString chunk)).run (ℓ.world.facing (answersAt time)) =
      (.ok (reply, true), s)) :
    ∃ ℓ', liveStep L cfg ℓ ⟨.run sid (.data chunk), answersAt time⟩ = some ℓ' ∧ ℓ'.ended = ℓ.ended ∧
      ℓ'.world.core.users = s.core.users ∧ SameLogins s.core ℓ'.world.core := by
  have hunsent := processMessage_unsent L cfg sid (cString chunk) (ℓ.world.facing (answersAt time))
  rw [hrun] at hunsent
  have hwritten := hunsent.answers (P := (·.written = .all)) (fun _ => rfl) 0
  obtain ⟨s', hanswer⟩ := answer_stays sid reply hwritten
  have hlive : (run L cfg sid (.data chunk)).run (ℓ.world.facing (answersAt time)) = (.ok true, s') := by
    rw [run_data, Prog.run_bind, hrun]
    exact hanswer
  have husers := answer_users sid (reply, true) s
  have hends := answer_ends sid (reply, true) s
  rw [hanswer] at husers hends
  refine ⟨⟨s'.world, ℓ.ended⟩, ?_, rfl, husers, hends.logins⟩
  unfold liveStep
  simp only [if_neg hopen, Live.before, hlive]

end Messages

/-! ## what can be said

A request reaches the server if some bytes that one `read` can deliver parse to it. -/

def Sayable (L : Libs) (P : Json → Prop) : Prop :=
  ∃ chunk request, chunk.length ≤ BUFFER_SIZE - 1 ∧ L.parse (cString chunk) = some request ∧
    P request

structure LoginRequest (user password : String) (request : Json) : Prop where
  command : request.value "command" "" = .ok "login"
  fields : loginFields request = .ok (user, password)

/-- the user is not locked, and its password can be said -/
def CanEnter (L : Libs) (c : Core) (user : String) : Prop :=
  ∃ row password, c.users.find? user = some row ∧ row.authData.isLocked = false ∧
    L.validatePassword password row.passwordHash = true ∧
    Sayable L (LoginRequest user password)

/-- the user is logged in on an open session -/
def Live.Hosts (ℓ : Live) (user : String) : Prop :=
  ∃ sid, sid ∉ ℓ.ended ∧ AuthenticatedAs ℓ.world sid user

/-- some messages lead to a state in which the flag of the user is clear -/
def Clearable (L : Libs) (cfg : Config) (user : String) (ℓ : Live) : Prop :=
  ∃ messages ℓ', (∀ i ∈ messages, IsMessage i) ∧
    runFrom (liveStep L cfg) ℓ messages = some ℓ' ∧ ¬ Flagged ℓ'.world.core user

/-! ## the server is closed -/

section Closed
variable {L : Libs} {cfg : Config} {ℓ ℓ' : Live} {i : LiveInput} {user : String}

theorem LogsIn.canEnter {sid sid' : Nat} {chunk : Bytes} {env : Nat → Answer} {w : World}
    (h : LogsIn L cfg sid user w ⟨.message sid' (cString chunk), env⟩)
    (hfits : chunk.length ≤ BUFFER_SIZE - 1) : CanEnter L w.core user := by
  obtain ⟨text, what, hcall⟩ := h
  cases what
  obtain ⟨-, request, password, hparse, hcommand, hfields, hresult⟩ := authCall_cases hcall
  generalize hrun : (authenticate L user password cfg.blockTimeSeconds).run _ = r at hresult
  obtain ⟨r, s'⟩ := r
  obtain rfl : r = .ok .success := hresult
  obtain ⟨row, hrow, hunlocked, hvalid⟩ := authenticate_success hrun
  rw [received_core] at hrow
  exact ⟨row, password, hrow, hunlocked, hvalid, chunk, request, hfits, hparse, hcommand, hfields⟩

theorem SameButCounters.canEnter {c c' : Core} (h : SameButCounters c.users c'.users)
    (henter : CanEnter L c' user) : CanEnter L c user := by
  obtain ⟨row', password, hrow', hunlocked, hvalid, hsay⟩ := henter
  have hmap := h user
  rw [hrow', Option.map_some] at hmap
  obtain ⟨row, hrow, hid⟩ := Option.map_eq_some_iff.mp hmap.symm
  refine ⟨row, password, hrow, (isLocked_of_identity hid).trans hunlocked, ?_, hsay⟩
  have hhash : row.passwordHash = row'.passwordHash := (Prod.mk.inj hid).1
  rw [hhash]
  exact hvalid

/-- a command of another user than the admin leaves the users table alone -/
theorem CommandEffect.sameUsers {me : String} {request : Json} {s : St} {c : Core}
    (h : CommandEffect cfg me request s c) (hme : me ≠ "admin") : SameUsers s.core c := by
  cases h with
  | none => rfl
  | fill cache => rfl
  | update category item quantity stock hub hst => rfl
  | register user hash users admin hreg => exact absurd admin hme
  | unlock user hu => exact absurd (unlockTarget_cases hu).1 hme

/-- the admin is on no open session and cannot get onto one -/
structure Live.Closed (L : Libs) (ℓ : Live) : Prop where
  away : ¬ ℓ.Hosts "admin"
  out : ¬ CanEnter L ℓ.world.core "admin"

theorem closed_step (h : ℓ.Closed L) (hmessage : IsMessage i)
    (hstep : liveStep L cfg ℓ i = some ℓ') :
    ℓ'.Closed L ∧ SameButCounters ℓ.world.core.users ℓ'.world.core.users := by
  obtain ⟨sid, chunk, what, hfits⟩ := hmessage
  obtain ⟨c, hactive, hstepped, husers, hlogins, hended⟩ := liveStep_delivered hstep what
  have hnot : ∀ sid', ¬ LogsIn L cfg sid' "admin" ℓ.world ⟨.message sid (cString chunk), i.env⟩ :=
    fun sid' hlogin => h.out (hlogin.canEnter hfits)
  have hsame : SameButCounters ℓ.world.core.users c.users := by
    cases hstepped with
    | login what success hrow hl effect => exact effect.users
    | guest what guest noLogin effect => exact effect.users
    | invalid what member text_eq => exact .refl _
    | @command sid' text request _ what member text_eq effect =>
      cases what
      have hme : (ℓ.world.core.sessions sid).clientID ≠ "admin" :=
        fun hadmin => h.away ⟨sid, hactive, member, hadmin⟩
      have heq : c.users = ℓ.world.core.users := by
        have hcore := effect.sameUsers hme
        rw [SameUsers, received_core] at hcore
        exact hcore
      rw [heq]
      exact .refl _
    | alert what noLock effect => cases what
    | alertLock what call change effect => cases what
  have hsame' : SameButCounters ℓ.world.core.users ℓ'.world.core.users := by
    rw [husers]
    exact hsame
  refine ⟨⟨?_, fun henter => h.out (hsame'.canEnter henter)⟩, hsame'⟩
  rintro ⟨sid', hopen, hauth, hid⟩
  have hopen' : sid' ∉ ℓ.ended := fun hmem => hopen (hended hmem)
  rw [hlogins.isAuthenticated] at hauth
  rw [hlogins.clientID] at hid
  have hafter : AuthenticatedAs ⟨c, ℓ.world.journal⟩ sid' "admin" := ⟨hauth, hid⟩
  rcases (authenticatedAs_step hstepped sid' "admin").mp hafter with hbefore | hlogin
  · exact h.away ⟨sid', hopen', hbefore⟩
  · exact hnot sid' hlogin

/-- **While the server is closed no message changes a lock flag, or opens it.** -/
theorem closed_run (h : ℓ.Closed L) {messages : List LiveInput}
    (hmessages : ∀ i ∈ messages, IsMessage i)
    (hrun : runFrom (liveStep L cfg) ℓ messages = some ℓ') :
    ℓ'.Closed L ∧ SameButCounters ℓ.world.core.users ℓ'.world.core.users := by
  refine runFrom_guarded (I := fun ℓ' => ℓ'.Closed L ∧
    SameButCounters ℓ.world.core.users ℓ'.world.core.users) ⟨h, .refl _⟩ ?_ messages ℓ' hrun
    (throughout_of_forall hmessages ℓ)
  rintro ℓ₁ i ℓ₂ ⟨hclosed, hsame⟩ hmessage hstep
  obtain ⟨hclosed', hsame'⟩ := closed_step hclosed hmessage hstep
  exact ⟨hclosed', hsame.trans hsame'⟩

theorem Flagged.not_canEnter {c : Core} (h : Flagged c user) : ¬ CanEnter L c user := by
  rintro ⟨row, password, hrow, hunlocked, -⟩
  obtain ⟨row', hrow', hlocked⟩ := h
  rw [hrow] at hrow'
  cases hrow'
  rw [hunlocked] at hlocked
  cases hlocked

/-- a flag outlasts every message if the request to clear it cannot be said -/
theorem flagged_run (hno : ¬ Sayable L (UnlockRequest cfg user)) (hf : Flagged ℓ.world.core user)
    {messages : List LiveInput} (hmessages : ∀ i ∈ messages, IsMessage i)
    (hrun : runFrom (liveStep L cfg) ℓ messages = some ℓ') : Flagged ℓ'.world.core user := by
  refine runFrom_guarded (I := fun ℓ => Flagged ℓ.world.core user) hf ?_ messages ℓ' hrun
    (throughout_of_forall hmessages ℓ)
  intro ℓ₁ i ℓ₂ hflagged hmessage hstep
  obtain ⟨sid, chunk, what, hfits⟩ := hmessage
  obtain ⟨c, -, hstepped, husers, -, -⟩ := liveStep_delivered hstep what
  have hc : Flagged c user := by
    rcases hstepped.locks with hkeeps | ⟨user', hunlocks, hothers, -⟩
    · exact hkeeps.flagged user hflagged
    · refine hothers user ?_ hflagged
      rintro rfl
      obtain ⟨sid', text, request, what', -, hparse, hcommand, hfields⟩ := hunlocks.request
      cases what'
      exact hno ⟨chunk, request, hfits, hparse, hcommand, hfields⟩
  unfold Flagged
  rw [husers]
  exact hc

end Closed

/-! ## the admin gets in -/

/-- once a temporary block is over, the right password lets a user in that is not locked -/
theorem authenticate_valid {L : Libs} {hostname password : String} {blockDuration : Int} {s : St}
    {row : UserRow} (hhealthy : s.Healthy) (hrow : s.core.users.find? hostname = some row)
    (hunlocked : row.authData.isLocked = false)
    (hvalid : L.validatePassword password row.passwordHash = true)
    (hlate : blockDuration ≤ (s.env 1).time - row.authData.lastFailedTimestamp) :
    ((authenticate L hostname password blockDuration).run s).1 = .ok .success := by
  have hopen : ¬ (3 ≤ row.authData.failedAttempts ∧
      (s.env 1).time - row.authData.lastFailedTimestamp < blockDuration) := by
    rintro ⟨-, hblocked⟩
    omega
  have hadmit : ∃ row' s', (admitAttempt hostname blockDuration).run s =
      (.ok (.admitted row.authData (s.env 1).time), s') ∧ s'.Healthy ∧
      s'.core.users.find? hostname = some row' := by
    rw [run_admitAttempt_row hhealthy hrow hunlocked]
    unfold admitUnlocked
    rw [Prog.run_bind, run_ask]
    dsimp only
    rw [if_neg (show ¬ (3 ≤ row.authData.failedAttempts ∧
      (s.next.env 0).time - row.authData.lastFailedTimestamp < blockDuration) from hopen)]
    by_cases hfull : 3 ≤ row.authData.failedAttempts
    · obtain ⟨users, hrun, hfind⟩ := run_updateLoginAttempts (s := s.next.next)
        (hhealthy.next.next 0) hrow true (s.next.env 0).time nofun
      rw [if_pos hfull, Prog.run_bind, hrun]
      have hreset := hfind hostname
      rw [if_pos rfl] at hreset
      exact ⟨_, _, rfl, hhealthy.next.next.next, hreset⟩
    · rw [if_neg hfull]
      exact ⟨row, _, rfl, hhealthy.next.next, hrow⟩
  obtain ⟨row', s', hadmit, hhealthy', hrow'⟩ := hadmit
  unfold authenticate
  rw [Prog.run_bind, hadmit]
  obtain ⟨s'', hcheck, -⟩ := @checkPassword_row L hostname password s' row' row.authData (s.env 1).time
    hhealthy' hrow' true nofun hvalid
  dsimp only
  rw [hcheck]
  rfl

section Open
variable {L : Libs} {cfg : Config} {ℓ : Live} {user : String}

theorem hosts_of_sameLogins {c : Core} {ℓ' : Live} {sid : Nat} (hopen : sid ∉ ℓ'.ended)
    (hlogins : SameLogins c ℓ'.world.core) (hauth : (c.sessions sid).isAuthenticated = true)
    (hid : (c.sessions sid).clientID = user) : ℓ'.Hosts user := by
  refine ⟨sid, hopen, ?_, ?_⟩
  · rw [hlogins.isAuthenticated]
    exact hauth
  · rw [hlogins.clientID]
    exact hid

variable (cfg) in
/-- a user that can enter does so on a session that was not used before -/
theorem enter_step (henter : CanEnter L ℓ.world.core user) {sid : Nat} (hopen : sid ∉ ℓ.ended)
    (hguest : (ℓ.world.core.sessions sid).isAuthenticated = false) :
    ∃ i ℓ', IsMessage i ∧ liveStep L cfg ℓ i = some ℓ' ∧ ℓ'.Hosts user ∧
      SameButCounters ℓ.world.core.users ℓ'.world.core.users := by
  obtain ⟨row, password, hrow, hunlocked, hvalid, chunk, request, hfits, hparse, hrequest⟩ := henter
  -- the clock stands at the end of a block that the last failure may have started
  let time : Int := row.authData.lastFailedTimestamp + cfg.blockTimeSeconds
  let s : St := ℓ.world.facing (answersAt time)
  have henv : (received L request s).env = answersAt time := received_env L request s
  have hcall : authCall L cfg sid (cString chunk) s = some (user, .ok .success) := by
    have hhealthy : (received L request s).Healthy := fun n => by
      rw [henv]
      rfl
    have hlate : cfg.blockTimeSeconds ≤
        ((received L request s).env 1).time - row.authData.lastFailedTimestamp := by
      rw [henv]
      show cfg.blockTimeSeconds ≤ time - row.authData.lastFailedTimestamp
      omega
    have hrow' : (received L request s).core.users.find? user = some row := by
      rw [received_core]
      exact hrow
    have hsuccess := authenticate_valid hhealthy hrow' hunlocked hvalid hlate
    have hguest' : ¬ (s.core.sessions sid).isAuthenticated = true := by
      show ¬ (ℓ.world.core.sessions sid).isAuthenticated = true
      rw [hguest]
      exact Bool.false_ne_true
    unfold authCall
    rw [if_neg hguest', hparse]
    dsimp only
    rw [if_pos hrequest.command, hrequest.fields]
    dsimp only
    rw [hsuccess]
  obtain ⟨answer, s', row', hrun, -, -, -, heffect⟩ := processMessage_login hcall
  obtain ⟨ℓ', hstep, hended, husers, hlogins⟩ := liveStep_of_processMessage hopen hrun
  refine ⟨⟨.run sid (.data chunk), answersAt time⟩, ℓ', ⟨sid, chunk, rfl, hfits⟩, hstep, ?_, ?_⟩
  · have hopen' : sid ∉ ℓ'.ended := by
      rw [hended]
      exact hopen
    refine hosts_of_sameLogins hopen' hlogins ?_ ?_
    · rw [heffect.sessions, Function.update_self]
      rfl
    · rw [heffect.sessions, Function.update_self]
      rfl
  · rw [husers]
    exact heffect.users

/-- the admin on an open session clears the flag of a user -/
theorem unlock_step (hhosts : ℓ.Hosts "admin") (hsay : Sayable L (UnlockRequest cfg user))
    {row : UserRow} (hrow : ℓ.world.core.users.find? user = some row) :
    ∃ i ℓ', IsMessage i ∧ liveStep L cfg ℓ i = some ℓ' ∧ ¬ Flagged ℓ'.world.core user := by
  obtain ⟨sid, hopen, hauth⟩ := hhosts
  obtain ⟨chunk, request, hfits, hparse, hrequest⟩ := hsay
  have hsent : Sent L "admin" "unlock_client" ℓ.world
      ⟨.message sid (cString chunk), answersAt 0⟩ sid (cString chunk) request :=
    ⟨rfl, hauth, hparse, hrequest.command⟩
  obtain ⟨answer, s', hrun, -, hcleared⟩ := hsent.unlock hrequest.fields hrow fun _ => rfl
  obtain ⟨ℓ', hstep, -, husers, -⟩ := liveStep_of_processMessage hopen hrun
  refine ⟨⟨.run sid (.data chunk), answersAt 0⟩, ℓ', ⟨sid, chunk, rfl, hfits⟩, hstep, ?_⟩
  unfold Flagged
  rw [husers]
  exact not_flagged_of_cleared hcleared

end Open

/-! ## the states of the server -/

/-- the states that the server reaches from any tables, once `setupServer` has returned -/
def Reached (L : Libs) (cfg : Config) (ℓ : Live) : Prop :=
  ∃ (users : Users) (stock : Stock) (journal : Journal) (ips : Nat → String) (env : Nat → Answer)
    (s : St) (inputs : List LiveInput),
    (setupServer L).run (World.facing ⟨.boot users stock ips, journal⟩ env) = (.ok (), s) ∧
      runFrom (liveStep L cfg) ⟨s.world, ∅⟩ inputs = some ℓ

section Reached
variable {L : Libs} {cfg : Config} {ℓ : Live}

theorem touched_start (users : Users) (stock : Stock) (journal : Journal) (ips : Nat → String) :
    (Live.start users stock journal ips).presence.touched = ∅ := by
  ext sid
  refine iff_of_false ?_ (Set.notMem_empty sid)
  rintro (huser | hended)
  · exact huser rfl
  · exact Finset.notMem_empty sid hended

theorem touched_heard {i : LiveInput} {sid : Nat} {input : ReadResult} :
    ((heard L cfg sid input (ℓ.before i)).presence ℓ.ended).touched ⊆
      insert sid ℓ.presence.touched := by
  rw [heard_presence]
  cases runLogin L cfg sid input (ℓ.before i) with
  | none => exact Set.subset_insert sid _
  | some user => exact Presence.touched_login sid user

/-- one input touches one session at most -/
theorem Moved.touched {i : LiveInput} {p : Presence String Nat} (h : Moved L cfg ℓ i p) :
    ∃ sid, p.touched ⊆ insert sid ℓ.presence.touched := by
  cases h with
  | quiet what => exact ⟨0, Set.subset_insert 0 _⟩
  | @stayed sid input what hopen hreturned => exact ⟨sid, touched_heard⟩
  | @left sid input what hopen hread hreturned =>
    refine ⟨sid, (Presence.touched_leave sid).trans ?_⟩
    exact Set.insert_subset (Set.mem_insert sid _) touched_heard
  | @dropped sid what hopen => exact ⟨sid, Presence.touched_drop sid⟩

/-- in every state the sessions used so far are finitely many, and the registry is sound -/
theorem Reached.finite (h : Reached L cfg ℓ) : ℓ.Sound ∧ ℓ.presence.touched.Finite := by
  obtain ⟨users, stock, journal, ips, env, s, inputs, hsetup, hrun⟩ := h
  obtain ⟨users', hcore, -⟩ :=
    setupServer_core L (World.facing ⟨.boot users stock ips, journal⟩ env)
  rw [hsetup] at hcore
  have hstart : (⟨s.world, ∅⟩ : Live) = .start users' stock s.journal ips := by
    unfold Live.start St.world
    rw [show s.core = _ from hcore]
    rfl
  rw [hstart] at hrun
  refine runFrom_invariant (I := fun ℓ => ℓ.Sound ∧ ℓ.presence.touched.Finite) ⟨sound_start .., ?_⟩
    ?_ inputs ℓ hrun
  · rw [touched_start]
    exact Set.finite_empty
  · rintro ℓ₁ i ℓ₂ ⟨hsound, hfinite⟩ hstep
    obtain ⟨sid, hsub⟩ := (liveStep_moved hstep).touched
    exact ⟨liveStep_sound hsound hstep, (hfinite.insert sid).subset hsub⟩

/-- a client can always connect -/
theorem Reached.exists_guest (h : Reached L cfg ℓ) :
    ∃ sid, sid ∉ ℓ.ended ∧ (ℓ.world.core.sessions sid).isAuthenticated = false := by
  obtain ⟨hsound, hfinite⟩ := h.finite
  obtain ⟨sid, hfresh⟩ := hfinite.exists_notMem
  refine ⟨sid, fun hended => hfresh (.inr hended), ?_⟩
  cases hauth : (ℓ.world.core.sessions sid).isAuthenticated with
  | false => rfl
  | true =>
    refine absurd (.inl ?_) hfresh
    rw [(hsound.authenticatedAs_iff sid _).mp ⟨hauth, rfl⟩]
    exact Option.some_ne_none _

end Reached

/-! ## which flags can be cleared -/

/-- **In every state of the server, a lock flag can be cleared by messages exactly if the request to
clear it can be said and the admin is on an open session or can still enter.** -/
theorem clearable_iff (L : Libs) (cfg : Config) (ℓ : Live) (h : Reached L cfg ℓ) (user : String)
    (hflagged : Flagged ℓ.world.core user) :
    Clearable L cfg user ℓ ↔ Sayable L (UnlockRequest cfg user) ∧
      (ℓ.Hosts "admin" ∨ CanEnter L ℓ.world.core "admin") := by
  constructor
  · rintro ⟨messages, ℓ', hmessages, hrun, hclear⟩
    constructor
    · by_contra hno
      exact hclear (flagged_run hno hflagged hmessages hrun)
    · by_contra hno
      rw [not_or] at hno
      obtain ⟨-, hsame⟩ := closed_run ⟨hno.1, hno.2⟩ hmessages hrun
      exact hclear (hsame.flagged hflagged)
  · rintro ⟨hsay, hadmin⟩
    obtain ⟨row, hrow, -⟩ := hflagged
    rcases hadmin with hhosts | henter
    · obtain ⟨i, ℓ', hmessage, hstep, hclear⟩ := unlock_step hhosts hsay hrow
      refine ⟨[i], ℓ', by simpa using hmessage, ?_, hclear⟩
      rw [runFrom_cons, hstep]
      rfl
    · obtain ⟨sid, hopen, hguest⟩ := h.exists_guest
      obtain ⟨i, ℓ₁, hmessage, hstep, hhosts, hsame⟩ := enter_step cfg henter hopen hguest
      have hmap := hsame user
      rw [hrow, Option.map_some] at hmap
      obtain ⟨row', hrow', -⟩ := Option.map_eq_some_iff.mp hmap
      obtain ⟨i', ℓ', hmessage', hstep', hclear⟩ := unlock_step hhosts hsay hrow'
      refine ⟨[i, i'], ℓ', by simpa using ⟨hmessage, hmessage'⟩, ?_, hclear⟩
      rw [runFrom_cons, hstep]
      show runFrom _ ℓ₁ [i'] = _
      rw [runFrom_cons, hstep']
      rfl

/-! Alice is locked, and the server has just made its admin. -/

def unlockAlice : Json := .obj [("command", .str "unlock_client"),
  ("payload", .obj [("client_to_unlock", .str "alice"), ("secret_phrase", .str "open sesame")])]

def aliceAway : Live :=
  ⟨((setupServer (.known [adminLogin, unlockAlice])).run (lockedStart.facing healthy)).2.world, ∅⟩

theorem aliceAway_reached : Reached (.known [adminLogin, unlockAlice]) .sample aliceAway :=
  ⟨Table.empty.put "alice" { aliceRow with isLocked := 1 } (by decide), .empty, .empty,
    fun _ => "10.0.0.1", healthy, _, [], rfl, rfl⟩

theorem alice_clearable : Reached (.known [adminLogin, unlockAlice]) .sample aliceAway ∧
    Flagged aliceAway.world.core "alice" ∧
    Clearable (.known [adminLogin, unlockAlice]) .sample "alice" aliceAway := by
  have hflagged : Flagged aliceAway.world.core "alice" := ⟨_, rfl, rfl⟩
  refine ⟨aliceAway_reached, hflagged, ?_⟩
  refine (clearable_iff _ _ _ aliceAway_reached "alice" hflagged).mpr ⟨?_, .inr ?_⟩
  · exact ⟨bytesOf unlockAlice.render, unlockAlice, by decide, rfl, rfl, rfl⟩
  · exact ⟨_, "admin", rfl, rfl, by decide, bytesOf adminLogin.render, adminLogin, by decide, rfl,
      rfl, rfl⟩

/-! An alert names the admin before anyone has logged in. -/

def adminInfection : Json :=
  .obj [("clientId", .str "admin"), ("message", .str "m"), ("type", .str "infection")]

def unlockAdmin : Json := .obj [("command", .str "unlock_client"),
  ("payload", .obj [("client_to_unlock", .str "admin"), ("secret_phrase", .str "open sesame")])]

def closedLibs : Libs := .known [adminLogin, unlockAdmin, adminInfection]

def closedStart : Live :=
  ⟨((setupServer closedLibs).run (.sample .empty .empty)).2.world, ∅⟩

def adminAlert : LiveInput := ⟨.alert (bytesOf adminInfection.render), healthy⟩

theorem adminAlert_isSome : (liveStep closedLibs .sample closedStart adminAlert).isSome := by decide

def adminLocked : Live := (liveStep closedLibs .sample closedStart adminAlert).get adminAlert_isSome

set_option maxRecDepth 2000 in
/-- the password of the admin and the request with the phrase can be said, and no messages clear the
flag -/
theorem admin_locked_for_good : Reached closedLibs .sample adminLocked ∧
    Flagged adminLocked.world.core "admin" ∧
    Sayable closedLibs (LoginRequest "admin" "admin") ∧
    Sayable closedLibs (UnlockRequest .sample "admin") ∧
    ¬ Clearable closedLibs .sample "admin" adminLocked := by
  have hrun : runFrom (liveStep closedLibs .sample) closedStart [adminAlert] =
      some adminLocked := by
    rw [runFrom_cons, ← Option.some_get adminAlert_isSome]
    rfl
  have hreached : Reached closedLibs .sample adminLocked :=
    ⟨.empty, .empty, .empty, fun _ => "10.0.0.1", healthy, _, [adminAlert], rfl, hrun⟩
  have hflagged : Flagged adminLocked.world.core "admin" := ⟨_, rfl, rfl⟩
  refine ⟨hreached, hflagged, ?_, ?_, ?_⟩
  · exact ⟨bytesOf adminLogin.render, adminLogin, by decide, rfl, rfl, rfl⟩
  · exact ⟨bytesOf unlockAdmin.render, unlockAdmin, by decide, rfl, rfl, rfl⟩
  · rintro ⟨messages, ℓ', hmessages, hrun, hclear⟩
    have haway : ¬ adminLocked.Hosts "admin" := by
      rintro ⟨sid, -, hauth, -⟩
      have hguest : (adminLocked.world.core.sessions sid).isAuthenticated = false := rfl
      rw [hguest] at hauth
      cases hauth
    obtain ⟨-, hsame⟩ := closed_run ⟨haway, hflagged.not_canEnter⟩ hmessages hrun
    exact hclear (hsame.flagged hflagged)

end Logistics
