import Logistics.Session.Handlers
import Logistics.Session.Registry

/-!
# The registry over the life of the sessions

`Live` is the server with the set of its ended sessions.  An input is one `run` of an open session,
a datagram, or an alert; a `run` that returns false ends its session.  What the server does then
(`epoll_ctl`, `close`, the erasure from its own table) does not touch the `SessionManager`.

* `Moved`, `liveStep_moved`   **what one input does to the presence**;
* `sound_run`                 in every state of every run the registry is sound;
* `session_end_unregistered_iff`   when the end of a session takes its user out of the registry;
* `registry_exact_iff`        when the registry is exact about the open sessions throughout a run.

Both fail in runs that clients can bring about: a read error ends a session without a word to the
registry, and the end of one of two sessions of a user erases the entry of the other.
-/

namespace Logistics
open Std Runs

inductive Activity where
  | run (sid : Nat) (input : ReadResult)
  | datagram (input : RecvResult)
  | alert (text : Bytes)

structure LiveInput where
  what : Activity
  env : Nat → Answer

structure Live where
  world : World
  ended : Finset Nat

def Live.before (ℓ : Live) (i : LiveInput) : St := ℓ.world.facing i.env

def Live.presence (ℓ : Live) : Presence String Nat := ℓ.world.core.presence ℓ.ended

/-- the server over given tables, before its first connection -/
def Live.start (users : Users) (stock : Stock) (journal : Journal) (ips : Nat → String) : Live :=
  ⟨⟨.boot users stock ips, journal⟩, ∅⟩

/-- the outcome of a handler; an exception that leaves it ends the server -/
def Live.resume (ended : Finset Nat) {α : Type} : Except Exn α × St → Option Live
  | (.ok _, s) => some ⟨s.world, ended⟩
  | (.error _, _) => none

def liveStep (L : Libs) (cfg : Config) (ℓ : Live) (i : LiveInput) : Option Live :=
  match i.what with
  | .run sid input =>
    if sid ∈ ℓ.ended then none
    else
      match (run L cfg sid input).run (ℓ.before i) with
      | (.ok true, s) => some ⟨s.world, ℓ.ended⟩
      | (.ok false, s) => some ⟨s.world, insert sid ℓ.ended⟩
      | (.error _, _) => none
  | .datagram input => Live.resume ℓ.ended ((handleMessage L input).run (ℓ.before i))
  | .alert text => Live.resume ℓ.ended ((processAlert L cfg text).run (ℓ.before i))

/-! ## what an input does -/

/-- the presences that an input can lead to -/
inductive Moved (L : Libs) (cfg : Config) (ℓ : Live) (i : LiveInput) : Presence String Nat → Prop
  | quiet (what : ∀ sid input, i.what ≠ .run sid input) : Moved L cfg ℓ i ℓ.presence
  | stayed {sid : Nat} {input : ReadResult} (what : i.what = .run sid input)
      (active : sid ∉ ℓ.ended) (returned : ((run L cfg sid input).run (ℓ.before i)).1 = .ok true) :
      Moved L cfg ℓ i ((heard L cfg sid input (ℓ.before i)).presence ℓ.ended)
  | left {sid : Nat} {input : ReadResult} (what : i.what = .run sid input) (active : sid ∉ ℓ.ended)
      (read : input ≠ .error) (returned : ((run L cfg sid input).run (ℓ.before i)).1 = .ok false) :
      Moved L cfg ℓ i (((heard L cfg sid input (ℓ.before i)).presence ℓ.ended).leave sid)
  | dropped {sid : Nat} (what : i.what = .run sid .error) (active : sid ∉ ℓ.ended) :
      Moved L cfg ℓ i (ℓ.presence.drop sid)

section Steps
variable {L : Libs} {cfg : Config} {ℓ ℓ' : Live} {i : LiveInput}

theorem resume_eq_some {α : Type} {ended : Finset Nat} {r : Except Exn α × St}
    (h : Live.resume ended r = some ℓ') : ∃ a s, r = (.ok a, s) ∧ ℓ' = ⟨s.world, ended⟩ := by
  obtain ⟨r, s⟩ := r
  cases r with
  | error e => cases h
  | ok a => exact ⟨a, s, rfl, (Option.some.inj h).symm⟩

/-- a step is one handler that returned -/
theorem liveStep_cases (h : liveStep L cfg ℓ i = some ℓ') :
    (∃ sid input, i.what = .run sid input ∧ sid ∉ ℓ.ended ∧
      ∃ keep s, (run L cfg sid input).run (ℓ.before i) = (.ok keep, s) ∧
        ℓ' = ⟨s.world, if keep then ℓ.ended else insert sid ℓ.ended⟩) ∨
    (∃ input s, i.what = .datagram input ∧ (handleMessage L input).run (ℓ.before i) = (.ok (), s) ∧
      ℓ' = ⟨s.world, ℓ.ended⟩) ∨
    ∃ text s, i.what = .alert text ∧ (processAlert L cfg text).run (ℓ.before i) = (.ok (), s) ∧
      ℓ' = ⟨s.world, ℓ.ended⟩ := by
  unfold liveStep at h
  cases what : i.what with
  | run sid input =>
    simp only [what] at h
    by_cases hended : sid ∈ ℓ.ended
    · rw [if_pos hended] at h
      cases h
    · rw [if_neg hended] at h
      refine .inl ⟨sid, input, rfl, hended, ?_⟩
      generalize (run L cfg sid input).run (ℓ.before i) = r at h ⊢
      obtain ⟨r, s⟩ := r
      cases r with
      | error e => cases h
      | ok keep =>
        cases keep with
        | true =>
          cases h
          exact ⟨true, s, rfl, rfl⟩
        | false =>
          cases h
          exact ⟨false, s, rfl, rfl⟩
  | datagram input =>
    simp only [what] at h
    obtain ⟨u, s, hrun, rfl⟩ := resume_eq_some h
    exact .inr (.inl ⟨input, s, rfl, hrun, rfl⟩)
  | alert text =>
    simp only [what] at h
    obtain ⟨u, s, hrun, rfl⟩ := resume_eq_some h
    exact .inr (.inr ⟨text, s, rfl, hrun, rfl⟩)

/-- a datagram writes no login -/
theorem handleMessage_samePresence (L : Libs) (input : RecvResult) (s : St) :
    SamePresence s.core ((handleMessage L input).run s).2.core := by
  rw [handleMessage_core]
  cases input with
  | again => exact refl_of SamePresence s.core
  | error => exact refl_of SamePresence s.core
  | data address buffer =>
    dsimp only
    unfold Core.addressed
    cases keepaliveTarget L s.core (cString buffer) with
    | none => exact refl_of SamePresence s.core
    | some sid => exact samePresence_withSession s.core sid rfl rfl

theorem presence_insert (c : Core) (ended : Finset Nat) (sid : Nat) :
    c.presence (insert sid ended) = (c.presence ended).drop sid := by
  unfold Core.presence Presence.drop
  congr 1
  ext sid'
  exact Finset.mem_insert

/-- an input that is no `run` and touches neither the registry nor a login -/
theorem moved_quiet {s : St} (hsame : SamePresence ℓ.world.core s.core)
    (hwhat : ∀ sid input, i.what ≠ .run sid input) :
    Moved L cfg ℓ i (Live.presence ⟨s.world, ℓ.ended⟩) := by
  have hpresence : Live.presence ⟨s.world, ℓ.ended⟩ = ℓ.presence := hsame.presence ℓ.ended
  rw [hpresence]
  exact .quiet hwhat

/-- **A step changes the presence in one of the ways of `Moved`.** -/
theorem liveStep_moved (h : liveStep L cfg ℓ i = some ℓ') : Moved L cfg ℓ i ℓ'.presence := by
  rcases liveStep_cases h with ⟨sid, input, what, hopen, keep, s, hrun, rfl⟩ |
    ⟨input, s, what, hrun, rfl⟩ | ⟨text, s, what, hrun, rfl⟩
  · have hresult : ((run L cfg sid input).run (ℓ.before i)).1 = .ok keep := by rw [hrun]
    by_cases hread : input = .error
    · subst hread
      obtain ⟨hfalse, hcore⟩ := run_error L cfg sid (ℓ.before i)
      rw [hrun] at hfalse hcore
      cases hfalse
      have hpresence : Live.presence ⟨s.world, insert sid ℓ.ended⟩ = ℓ.presence.drop sid := by
        show s.core.presence (insert sid ℓ.ended) = _
        rw [presence_insert]
        exact congrArg (fun c : Core => (c.presence ℓ.ended).drop sid) hcore
      rw [if_neg Bool.false_ne_true, hpresence]
      exact .dropped what hopen
    · have hends := run_ends L cfg sid hread (ℓ.before i)
      rw [hrun] at hends
      cases keep with
      | true =>
        have hstayed := hends.stayed (by simp) ℓ.ended
        have hmoved : Moved L cfg ℓ i _ := .stayed what hopen hresult
        rw [← hstayed] at hmoved
        exact hmoved
      | false =>
        have hleft := hends.left rfl ℓ.ended
        have hmoved : Moved L cfg ℓ i _ := .left what hopen hread hresult
        rw [← hleft] at hmoved
        exact hmoved
  · have hsame := handleMessage_samePresence L input (ℓ.before i)
    rw [hrun] at hsame
    exact moved_quiet hsame fun sid input' what' => by cases what.symm.trans what'
  · have hsame := processAlert_presence L cfg text (ℓ.before i)
    rw [hrun] at hsame
    exact moved_quiet hsame fun sid input' what' => by cases what.symm.trans what'

end Steps

/-! ## the registry is sound -/

theorem SameLogins.named {c c' : Core} (h : SameLogins c c') {j : Journal} (hc : Named ⟨c, j⟩)
    (j' : Journal) : Named ⟨c', j'⟩ := by
  intro sid
  show (c'.sessions sid).clientID ≠ "" ↔ (c'.sessions sid).isAuthenticated = true
  rw [h.clientID sid, h.isAuthenticated sid]
  exact hc sid

theorem heard_named (L : Libs) (cfg : Config) (sid : Nat) (input : ReadResult) {w : World}
    (hw : Named w) (env : Nat → Answer) (j : Journal) :
    Named ⟨heard L cfg sid input (w.facing env), j⟩ := by
  cases input with
  | data chunk =>
    have hafter := stepped_after L cfg w ⟨.message sid (cString chunk), env⟩
    rw [after_message rfl] at hafter
    exact hafter.named hw j
  | closed => exact hw
  | again => exact hw
  | error => exact hw

/-- the client id and the login of a session go together, and the registry is sound -/
structure Live.Sound (ℓ : Live) : Prop where
  named : Named ℓ.world
  presence : ℓ.presence.Sound

section Sound
variable {L : Libs} {cfg : Config} {ℓ ℓ' : Live} {i : LiveInput}

theorem Live.Sound.authenticatedAs_iff (h : ℓ.Sound) (sid : Nat) (user : String) :
    AuthenticatedAs ℓ.world sid user ↔ ℓ.presence.user sid = some user := by
  show _ ↔ (if (ℓ.world.core.sessions sid).clientID = "" then none
    else some (ℓ.world.core.sessions sid).clientID) = some user
  unfold AuthenticatedAs
  rw [← h.named sid]
  by_cases hid : (ℓ.world.core.sessions sid).clientID = ""
  · rw [if_pos hid]
    exact iff_of_false (fun hand => hand.1 hid) (by simp)
  · rw [if_neg hid, Option.some.injEq]
    exact ⟨fun hand => hand.2, fun heq => ⟨hid, heq⟩⟩

/-- a session that logs a user in has none yet -/
theorem Live.Sound.guest (h : ℓ.Sound) {sid : Nat} {input : ReadResult} {user : String}
    (hlogin : runLogin L cfg sid input (ℓ.before i) = some user) :
    ℓ.presence.user sid = none := by
  cases input with
  | data chunk =>
    have hcall := loginOf_eq_some_iff.mp hlogin
    have hguest : (ℓ.world.core.sessions sid).isAuthenticated = false := (authCall_cases hcall).1
    refine if_pos ?_
    by_contra hid
    have hauth := (h.named sid).mp hid
    rw [hguest] at hauth
    cases hauth
  | closed => cases hlogin
  | again => cases hlogin
  | error => cases hlogin

theorem sound_heard (h : ℓ.Sound) (sid : Nat) (input : ReadResult) :
    ((heard L cfg sid input (ℓ.before i)).presence ℓ.ended).Sound := by
  rw [heard_presence]
  cases hlogin : runLogin L cfg sid input (ℓ.before i) with
  | none => exact h.presence
  | some user => exact h.presence.login (h.guest hlogin) user

theorem liveStep_named (h : ℓ.Sound) (hstep : liveStep L cfg ℓ i = some ℓ') : Named ℓ'.world := by
  rcases liveStep_cases hstep with ⟨sid, input, what, hopen, keep, s, hrun, rfl⟩ |
    ⟨input, s, what, hrun, rfl⟩ | ⟨text, s, what, hrun, rfl⟩
  · by_cases hread : input = .error
    · subst hread
      have hcore := (run_error L cfg sid (ℓ.before i)).2
      rw [hrun] at hcore
      exact (sameLogins_of_sessions (congrArg Core.sessions hcore)).named h.named s.journal
    · have hends := run_ends L cfg sid hread (ℓ.before i)
      rw [hrun] at hends
      exact hends.logins.named (heard_named L cfg sid input h.named i.env s.journal) s.journal
  · have hsame := handleMessage_samePresence L input (ℓ.before i)
    rw [hrun] at hsame
    exact hsame.logins.named h.named s.journal
  · have hsame := processAlert_presence L cfg text (ℓ.before i)
    rw [hrun] at hsame
    exact hsame.logins.named h.named s.journal

theorem liveStep_sound (h : ℓ.Sound) (hstep : liveStep L cfg ℓ i = some ℓ') : ℓ'.Sound := by
  refine ⟨liveStep_named h hstep, ?_⟩
  have hmoved := liveStep_moved hstep
  generalize ℓ'.presence = p at hmoved
  cases hmoved with
  | quiet what => exact h.presence
  | stayed what hopen hreturned => exact sound_heard h _ _
  | @left sid input what hopen hread hreturned => exact (sound_heard h _ _).leave sid
  | @dropped sid what hopen => exact h.presence.drop sid

theorem sound_start (users : Users) (stock : Stock) (journal : Journal) (ips : Nat → String) :
    (Live.start users stock journal ips).Sound where
  named sid := iff_of_false (fun hne => hne rfl) Bool.false_ne_true
  presence :=
    { registered := fun user sid h => by
        have hnone : (Live.start users stock journal ips).presence.active user = none :=
          ExtTreeMap.getElem?_empty
        rw [hnone] at h
        cases h
      connected_iff := fun user => by
        have hnone : (Live.start users stock journal ips).presence.active user = none :=
          ExtTreeMap.getElem?_empty
        refine iff_of_false (Finset.notMem_empty user) ?_
        rintro (h | h)
        · exact h hnone
        · exact ExtTreeSet.not_mem_empty h
      apart := fun user h => absurd h ExtTreeSet.not_mem_empty
      seen := fun sid user h => (by cases h) }

theorem faithful_start (users : Users) (stock : Stock) (journal : Journal) (ips : Nat → String) :
    (Live.start users stock journal ips).presence.Faithful where
  live _ _ _ := Finset.notMem_empty _
  present _ _ _ h := by cases h
  away _ _ h := absurd h ExtTreeSet.not_mem_empty

/-- **In every state of every run the registry is sound.** -/
theorem sound_run (users : Users) (stock : Stock) (journal : Journal) (ips : Nat → String)
    (inputs : List LiveInput)
    (h : runFrom (liveStep L cfg) (.start users stock journal ips) inputs = some ℓ) : ℓ.Sound :=
  runFrom_invariant (sound_start users stock journal ips) (fun _ _ _ => liveStep_sound) inputs ℓ h

end Sound

/-! ## the end of a session -/

/-- the user is out of the registry and counts as offline: the next alert is queued for it, and no
entry keeps the session -/
structure Unregistered (c : Core) (sid : Nat) (user : String) : Prop where
  inactive : user ∉ c.manager.activeSessions
  offline : user ∈ c.manager.offlineUsers
  queued : ∀ L cfg alertMessage journal env, ∃ earlier,
    ((broadcastMessage L cfg alertMessage).run (World.facing ⟨c, journal⟩ env)).2.core.queue user =
      earlier ++ [⟨L.dump alertMessage⟩]
  released : ∀ user' : String, c.manager.activeSessions[user']? ≠ some sid

theorem unregistered_of_presence {c : Core} {ended : Finset Nat} {sid : Nat} {user : String}
    (hactive : (c.presence ended).active user = none)
    (hoffline : user ∈ (c.presence ended).offline)
    (hreleased : ∀ user', (c.presence ended).active user' ≠ some sid) :
    Unregistered c sid user where
  inactive hmem := by
    have hsome := ExtTreeMap.isSome_getElem?_iff_mem.mpr hmem
    have hnone : c.manager.activeSessions[user]? = none := hactive
    rw [hnone] at hsome
    cases hsome
  offline := hoffline
  queued L cfg alertMessage journal env := by
    have hoffline' : user ∈ (World.facing ⟨c, journal⟩ env).core.manager.offlineUsers := hoffline
    rw [broadcastMessage_queue, if_pos hoffline']
    exact ⟨_, rfl⟩
  released := hreleased

/-- a session that is logged in hears nothing that changes the presence -/
theorem heard_of_member {ℓ : Live} (h : ℓ.Sound) {sid : Nat} {user : String}
    (hauth : AuthenticatedAs ℓ.world sid user) (L : Libs) (cfg : Config) (input : ReadResult)
    (env : Nat → Answer) :
    (heard L cfg sid input (ℓ.world.facing env)).presence ℓ.ended = ℓ.presence := by
  rw [heard_presence]
  cases hlogin : runLogin L cfg sid input (ℓ.world.facing env) with
  | none => rfl
  | some user' =>
    have hguest := h.guest (i := ⟨.run sid input, env⟩) hlogin
    rw [(h.authenticatedAs_iff sid user).mp hauth] at hguest
    cases hguest

/-- **Whatever made `run` return false, its user is unregistered exactly if it was not a read
error, or if the user was not registered any more.** -/
theorem session_end_unregistered_iff (L : Libs) (cfg : Config) (users : Users) (stock : Stock)
    (journal : Journal) (ips : Nat → String) (inputs : List LiveInput) (ℓ : Live)
    (hrun : runFrom (liveStep L cfg) (.start users stock journal ips) inputs = some ℓ)
    (sid : Nat) (user : String) (hauth : AuthenticatedAs ℓ.world sid user) (input : ReadResult)
    (env : Nat → Answer) (hfalse : ((run L cfg sid input).run (ℓ.world.facing env)).1 = .ok false) :
    Unregistered ((run L cfg sid input).run (ℓ.world.facing env)).2.core sid user ↔
      input ≠ .error ∨ user ∉ ℓ.world.core.manager.activeSessions := by
  have hsound := sound_run users stock journal ips inputs hrun
  have huser := (hsound.authenticatedAs_iff sid user).mp hauth
  by_cases hread : input = .error
  · subst hread
    rw [(run_error L cfg sid (ℓ.world.facing env)).2]
    constructor
    · intro h
      exact .inr h.inactive
    · rintro (h | hinactive)
      · exact absurd rfl h
      · have hactive : ℓ.presence.active user = none := ExtTreeMap.getElem?_eq_none hinactive
        have hseen := (hsound.presence.connected_iff user).mp (hsound.presence.seen sid user huser)
        refine unregistered_of_presence hactive (hseen.resolve_left fun h => h hactive) ?_
        intro user' hentry
        have hself := hsound.presence.registered user' sid hentry
        rw [huser] at hself
        cases hself
        have hentry' : ℓ.presence.active user = some sid := hentry
        rw [hactive] at hentry'
        cases hentry'
  · refine iff_of_true ?_ (.inl hread)
    have hleft := (run_ends L cfg sid hread (ℓ.world.facing env)).left hfalse ℓ.ended
    rw [heard_of_member hsound hauth] at hleft
    obtain ⟨hactive, hoffline, hreleased⟩ := hsound.presence.gone huser
    rw [← hleft] at hactive hoffline hreleased
    exact unregistered_of_presence hactive hoffline hreleased

/-! Alice logs in; then a read on the connection fails, or the connection is closed. -/

def aliceReads : LiveInput := ⟨.run 0 (.data (bytesOf aliceLogin.render)), healthy⟩

def aliceLobby : Live := .start aliceUsers .empty .empty fun _ => "10.0.0.1"

theorem aliceReads_isSome :
    (runFrom (liveStep (.known [aliceLogin]) .sample) aliceLobby [aliceReads]).isSome := by
  decide

def aliceOnline : Live :=
  (runFrom (liveStep (.known [aliceLogin]) .sample) aliceLobby [aliceReads]).get aliceReads_isSome

theorem session_end_unregistered_closed : AuthenticatedAs aliceOnline.world 0 "alice" ∧
    Unregistered ((run (.known [aliceLogin]) .sample 0 .closed).run
      (aliceOnline.world.facing healthy)).2.core 0 "alice" := by
  have hauth : AuthenticatedAs aliceOnline.world 0 "alice" := ⟨by decide, by decide⟩
  refine ⟨hauth, ?_⟩
  refine (session_end_unregistered_iff (.known [aliceLogin]) .sample aliceUsers .empty .empty
    (fun _ => "10.0.0.1") [aliceReads] aliceOnline (Option.some_get aliceReads_isSome).symm 0 "alice"
    hauth .closed healthy ?_).mpr (.inl ?_)
  · rfl
  · intro h
    cases h

/-- alice is logged in on the session 0 only -/
theorem aliceOnline_alone (sid : Nat) (h : AuthenticatedAs aliceOnline.world sid "alice") :
    sid = 0 := by
  by_contra hne
  have hfresh : (aliceOnline.world.core.sessions sid).isAuthenticated = false := by
    show (Function.update (Function.update (fun _ => Session.fresh "10.0.0.1") 0 _) 0 _
      sid).isAuthenticated = false
    rw [Function.update_of_ne hne, Function.update_of_ne hne]
    rfl
  rw [h.1] at hfresh
  cases hfresh

theorem read_error_keeps_session_registered :
    AuthenticatedAs aliceOnline.world 0 "alice" ∧
    (∀ sid, AuthenticatedAs aliceOnline.world sid "alice" → sid = 0) ∧
    ((run (.known [aliceLogin]) .sample 0 .error).run (aliceOnline.world.facing healthy)).1 =
      .ok false ∧
    ((run (.known [aliceLogin]) .sample 0 .error).run
      (aliceOnline.world.facing healthy)).2.core.manager.activeSessions["alice"]? = some 0 := by
  refine ⟨⟨by decide, by decide⟩, aliceOnline_alone, (run_error _ _ _ _).1, ?_⟩
  rw [(run_error _ _ _ _).2]
  decide

/-! ## several sessions of one user -/

/-- a user is registered, with an open session, exactly while it is logged in on an open session,
and offline only while it is on none -/
structure RegistryExact (ℓ : Live) : Prop where
  registered_iff : ∀ user, user ∈ ℓ.world.core.manager.activeSessions ↔
    ∃ sid, sid ∉ ℓ.ended ∧ AuthenticatedAs ℓ.world sid user
  mapped : ∀ (user : String) sid, ℓ.world.core.manager.activeSessions[user]? = some sid →
    sid ∉ ℓ.ended ∧ AuthenticatedAs ℓ.world sid user
  offline : ∀ user, user ∈ ℓ.world.core.manager.offlineUsers →
    ∀ sid, sid ∉ ℓ.ended → ¬ AuthenticatedAs ℓ.world sid user

theorem registryExact_iff_faithful {ℓ : Live} (h : ℓ.Sound) :
    RegistryExact ℓ ↔ ℓ.presence.Faithful := by
  constructor
  · intro hexact
    refine ⟨fun user sid hentry => (hexact.mapped user sid hentry).1, ?_, ?_⟩
    · intro user sid hopen huser hnone
      have hmem := (hexact.registered_iff user).mpr
        ⟨sid, hopen, (h.authenticatedAs_iff sid user).mpr huser⟩
      have hsome := ExtTreeMap.isSome_getElem?_iff_mem.mpr hmem
      have hnone' : ℓ.world.core.manager.activeSessions[user]? = none := hnone
      rw [hnone'] at hsome
      cases hsome
    · intro user sid hoffline hopen huser
      exact hexact.offline user hoffline sid hopen ((h.authenticatedAs_iff sid user).mpr huser)
  · intro hfaithful
    have hmapped : ∀ (user : String) sid, ℓ.presence.active user = some sid →
        sid ∉ ℓ.ended ∧ AuthenticatedAs ℓ.world sid user := fun user sid hentry =>
      ⟨hfaithful.live user sid hentry,
        (h.authenticatedAs_iff sid user).mpr (h.presence.registered user sid hentry)⟩
    refine ⟨?_, hmapped, ?_⟩
    · intro user
      constructor
      · intro hmem
        obtain ⟨sid, hsid⟩ := Option.isSome_iff_exists.mp
          (ExtTreeMap.isSome_getElem?_iff_mem.mpr hmem)
        exact ⟨sid, hmapped user sid hsid⟩
      · rintro ⟨sid, hopen, hauth⟩
        have hentry := hfaithful.present user sid hopen ((h.authenticatedAs_iff sid user).mp hauth)
        exact ExtTreeMap.isSome_getElem?_iff_mem.mp (Option.isSome_iff_ne_none.mpr hentry)
    · intro user hoffline sid hopen hauth
      exact hfaithful.away user sid hoffline hopen ((h.authenticatedAs_iff sid user).mp hauth)

/-- what the session hears is its last: the peer has closed the connection, or the reply to the
message ends it or cannot be written -/
def HangsUp (L : Libs) (cfg : Config) (sid : Nat) (s : St) : ReadResult → Prop
  | .closed => True
  | .data chunk => ∃ result s', (processMessage L cfg sid (cString chunk)).run s = (.ok result, s') ∧
      (result.2 = false ∨ (s'.env 0).written = .error)
  | _ => False

theorem run_eq_false_iff {L : Libs} {cfg : Config} {sid : Nat} {s : St} {input : ReadResult}
    (hread : input ≠ .error) :
    ((run L cfg sid input).run s).1 = .ok false ↔ HangsUp L cfg sid s input := by
  cases input with
  | error => exact absurd rfl hread
  | again => exact iff_of_false nofun id
  | closed =>
    refine iff_of_true ?_ trivial
    unfold run
    simp only [Prog.run_bind, Prog.run_get, run_log]
    generalize St.logged _ _ _ _ _ = s₁
    obtain ⟨_, s₂, hunregister⟩ := unregister_returns sid s₁
    rw [hunregister]
    rfl
  | data chunk =>
    rw [run_data, Prog.run_bind]
    simp only [HangsUp]
    generalize (processMessage L cfg sid (cString chunk)).run s = r
    obtain ⟨r, s₁⟩ := r
    cases r with
    | error e =>
      refine iff_of_false nofun ?_
      rintro ⟨result, s', hrun, -⟩
      cases hrun
    | ok result =>
      obtain ⟨keep, s₂, hanswer, hkeep⟩ := answer_result sid result s₁
      dsimp only
      rw [hanswer]
      constructor
      · intro h
        exact ⟨result, s₁, rfl, hkeep.mp (Except.ok.inj h)⟩
      · rintro ⟨result', s', hrun, hends⟩
        cases hrun
        exact congrArg Except.ok (hkeep.mpr hends)

/-- the input ends a session of a user that is logged in on another open session -/
def EndsOneOfSeveral (L : Libs) (cfg : Config) (ℓ : Live) (i : LiveInput) : Prop :=
  ∃ sid input other user, i.what = .run sid input ∧ sid ∉ ℓ.ended ∧
    HangsUp L cfg sid (ℓ.before i) input ∧ other ∉ ℓ.ended ∧ other ≠ sid ∧
    speaker L cfg sid input (ℓ.before i) = some user ∧ AuthenticatedAs ℓ.world other user

section Several
variable {L : Libs} {cfg : Config} {ℓ ℓ' : Live} {i : LiveInput}

theorem heard_user (sid : Nat) (input : ReadResult) (s : St) (ended : Finset Nat) :
    ((heard L cfg sid input s).presence ended).user =
      Function.update (s.core.presence ended).user sid (speaker L cfg sid input s) := by
  rw [heard_presence]
  unfold speaker
  cases runLogin L cfg sid input s with
  | some user => rfl
  | none => exact (Function.update_eq_self sid (s.core.presence ended).user).symm

theorem endsOneOfSeveral_iff (h : ℓ.Sound) {sid : Nat} {input : ReadResult}
    (what : i.what = .run sid input) (hopen : sid ∉ ℓ.ended)
    (hends : HangsUp L cfg sid (ℓ.before i) input) :
    EndsOneOfSeveral L cfg ℓ i ↔
      ¬ ((heard L cfg sid input (ℓ.before i)).presence ℓ.ended).Alone sid := by
  have hself := congrFun (@heard_user L cfg sid input (ℓ.before i) ℓ.ended) sid
  rw [Function.update_self] at hself
  have hothers : ∀ other user, other ≠ sid →
      (((heard L cfg sid input (ℓ.before i)).presence ℓ.ended).user other = some user ↔
        AuthenticatedAs ℓ.world other user) := by
    intro other user hne
    rw [heard_user, Function.update_of_ne hne]
    exact (h.authenticatedAs_iff other user).symm
  constructor
  · rintro ⟨sid', input', other, user, what', -, -, hother, hne, hspeaker, hauth⟩ halone
    rw [what] at what'
    cases what'
    exact halone other user hother hne (hself.trans hspeaker) ((hothers other user hne).mpr hauth)
  · intro hnot
    by_contra hnone
    apply hnot
    intro other user hother hne huser hauth
    exact hnone ⟨sid, input, other, user, what, hopen, hends, hother, hne, hself.symm.trans huser,
      (hothers other user hne).mp hauth⟩

theorem faithful_heard (h : ℓ.Sound) (hexact : RegistryExact ℓ) {sid : Nat}
    (hopen : sid ∉ ℓ.ended) (input : ReadResult) :
    ((heard L cfg sid input (ℓ.before i)).presence ℓ.ended).Faithful := by
  have hfaithful := (registryExact_iff_faithful h).mp hexact
  rw [heard_presence]
  cases runLogin L cfg sid input (ℓ.before i) with
  | none => exact hfaithful
  | some user => exact hfaithful.login hopen user

/-- **A step without a read error keeps the registry exact exactly if it does not end one of
several sessions of a user.** -/
theorem liveStep_exact_iff (h : ℓ.Sound) (hexact : RegistryExact ℓ)
    (hread : ∀ sid, i.what ≠ .run sid .error) (hstep : liveStep L cfg ℓ i = some ℓ') :
    RegistryExact ℓ' ↔ ¬ EndsOneOfSeveral L cfg ℓ i := by
  rw [registryExact_iff_faithful (liveStep_sound h hstep)]
  have hmoved := liveStep_moved hstep
  generalize ℓ'.presence = p at hmoved
  cases hmoved with
  | quiet what =>
    refine iff_of_true ((registryExact_iff_faithful h).mp hexact) ?_
    rintro ⟨sid, input, other, user, what', -⟩
    exact what sid input what'
  | @stayed sid input what hopen hreturned =>
    refine iff_of_true (faithful_heard h hexact hopen input) ?_
    rintro ⟨sid', input', other, user, what', -, hends, -⟩
    rw [what] at what'
    cases what'
    have hnot : input ≠ .error := fun hinput => hread sid (hinput ▸ what)
    rw [← run_eq_false_iff hnot, hreturned] at hends
    cases hends
  | @left sid input what hopen hread' hreturned =>
    rw [endsOneOfSeveral_iff h what hopen ((run_eq_false_iff hread').mp hreturned), not_not]
    exact Presence.faithful_leave_iff (faithful_heard h hexact hopen input) (sound_heard h sid input)
  | @dropped sid what hopen => exact absurd what (hread sid)

end Several

/-- **Where sessions do not end by read errors: the registry is exact in every state of a run
exactly if in the run no session hears its last while its user is logged in on another.** -/
theorem registry_exact_iff (L : Libs) (cfg : Config) (users : Users) (stock : Stock)
    (journal : Journal) (ips : Nat → String) (inputs : List LiveInput)
    (hread : ∀ i ∈ inputs, ∀ sid, i.what ≠ .run sid .error) :
    Always (liveStep L cfg) (.start users stock journal ips) inputs RegistryExact ↔
      ¬ Occurred (liveStep L cfg) (.start users stock journal ips) inputs
        (EndsOneOfSeveral L cfg) := by
  have hsound := sound_start users stock journal ips
  refine always_iff_not_occurred (I := Live.Sound) hread hsound (fun _ _ _ => liveStep_sound)
    ((registryExact_iff_faithful hsound).mpr (faithful_start users stock journal ips)) ?_
    fun _ _ _ hℓ hexact => liveStep_exact_iff hℓ hexact
  rintro ℓ i ⟨sid, input, other, user, what, hopen, hends, -⟩
  have hfalse := (run_eq_false_iff fun hinput => by rw [hinput] at hends; exact hends).mpr hends
  refine ⟨⟨((run L cfg sid input).run (ℓ.before i)).2.world, insert sid ℓ.ended⟩, ?_⟩
  unfold liveStep
  simp only [what, if_neg hopen]
  generalize (run L cfg sid input).run (ℓ.before i) = r at hfalse
  obtain ⟨r, s⟩ := r
  cases hfalse
  rfl

/-! Alice and bob log in, alice closes the connection and comes back on another. -/

def crowdedLobby : Live := .start twoUsers .empty .empty fun _ => "10.0.0.1"

def twoLogins : Libs := .known [aliceLogin, bobEnters]

def bobReads : LiveInput := ⟨.run 1 (.data (bytesOf bobEnters.render)), healthy⟩

def aliceCloses : LiveInput := ⟨.run 0 .closed, healthy⟩

def aliceReturns : LiveInput := ⟨.run 2 (.data (bytesOf aliceLogin.render)), healthy⟩

theorem bobReads_isSome :
    (runFrom (liveStep twoLogins .sample) crowdedLobby [aliceReads, bobReads]).isSome := by
  decide

def crowdJoined : Live :=
  (runFrom (liveStep twoLogins .sample) crowdedLobby [aliceReads, bobReads]).get bobReads_isSome

/-- bob has the session 1 -/
theorem crowdJoined_alone (sid : Nat) (hne : sid ≠ 0) :
    ¬ AuthenticatedAs crowdJoined.world sid "alice" := by
  rintro ⟨hauth, hid⟩
  by_cases hone : sid = 1
  · subst hone
    revert hid
    decide
  · have hfresh : (crowdJoined.world.core.sessions sid).isAuthenticated = false := by
      show (Function.update (Function.update (Function.update (Function.update
        (fun _ => Session.fresh "10.0.0.1") 0 _) 0 _) 1 _) 1 _ sid).isAuthenticated = false
      rw [Function.update_of_ne hone, Function.update_of_ne hone, Function.update_of_ne hne,
        Function.update_of_ne hne]
      rfl
    rw [hauth] at hfresh
    cases hfresh

theorem registry_exact_alice :
    Always (liveStep twoLogins .sample) crowdedLobby [aliceReads, bobReads, aliceCloses, aliceReturns]
      RegistryExact := by
  refine (registry_exact_iff twoLogins .sample twoUsers .empty .empty (fun _ => "10.0.0.1")
    [aliceReads, bobReads, aliceCloses, aliceReturns] ?_).mpr ?_
  · simp [aliceReads, bobReads, aliceCloses, aliceReturns]
  -- a login does not end its session
  have hstays : ∀ ℓ sid chunk, ((run twoLogins .sample sid (.data chunk)).run
      (Live.before ℓ ⟨.run sid (.data chunk), healthy⟩)).1 = .ok true →
      ¬ EndsOneOfSeveral twoLogins .sample ℓ ⟨.run sid (.data chunk), healthy⟩ := by
    rintro ℓ sid chunk htrue ⟨sid', input, other, user, what, -, hends, -⟩
    cases what
    have hfalse := (@run_eq_false_iff _ _ _ _ (.data chunk) nofun).mpr hends
    rw [htrue] at hfalse
    cases hfalse
  refine not_occurred_cons (hstays _ 0 _ (by decide)) fun ℓ hlogin => ?_
  refine not_occurred_cons ?_ fun ℓ' hlogin' => ?_
  · cases hlogin
    exact hstays _ 1 _ (by decide)
  have hjoined : runFrom (liveStep twoLogins .sample) crowdedLobby [aliceReads, bobReads] =
      some ℓ' := by
    rw [runFrom_cons, show liveStep _ _ crowdedLobby _ = _ from hlogin, Option.bind_some,
      runFrom_cons, hlogin']
    rfl
  obtain rfl : crowdJoined = ℓ' := Option.get_of_eq_some _ hjoined
  refine not_occurred_cons ?_ fun ℓ hclose => ?_
  · rintro ⟨sid, input, other, user, what, -, -, -, hne, hspeaker, hauth⟩
    cases what
    have halice : speaker twoLogins .sample 0 .closed (crowdJoined.before aliceCloses) =
      some "alice" := by decide
    cases halice.symm.trans hspeaker
    exact crowdJoined_alone other hne hauth
  · refine not_occurred_cons ?_ fun ℓ _ => not_occurred_nil _ _
    cases hclose
    exact hstays _ 2 _ (by decide)

/-! Alice logs in on two connections, and closes the first. -/

def aliceTwice : List LiveInput :=
  [aliceReads, ⟨.run 1 (.data (bytesOf aliceLogin.render)), healthy⟩]

theorem aliceTwice_isSome :
    (runFrom (liveStep (.known [aliceLogin]) .sample) aliceLobby (aliceTwice ++ [aliceCloses])).isSome
      := by
  decide

def aliceHidden : Live :=
  (runFrom (liveStep (.known [aliceLogin]) .sample) aliceLobby (aliceTwice ++ [aliceCloses])).get
    aliceTwice_isSome

theorem second_session_hidden :
    runFrom (liveStep (.known [aliceLogin]) .sample) aliceLobby (aliceTwice ++ [aliceCloses]) =
      some aliceHidden ∧
    1 ∉ aliceHidden.ended ∧ AuthenticatedAs aliceHidden.world 1 "alice" ∧
    "alice" ∉ aliceHidden.world.core.manager.activeSessions ∧
    "alice" ∈ aliceHidden.world.core.manager.offlineUsers := by
  refine ⟨(Option.some_get aliceTwice_isSome).symm, ?_, ⟨?_, ?_⟩, ?_, ?_⟩ <;> decide

end Logistics
