import Logistics.Session.System

/-!
# Access control over whole runs

For every sequence of messages delivered to any sessions, with alerts in between:

* a session is logged in as `u` exactly when one of its own earlier messages made `authenticate`
  succeed for `u` (`authenticatedAs_iff_occurred`), and it stays so;
* a session that is not logged in changes login counters at most and reads errors only;
* rows of the inventory are changed by their owners, users are created and locks cleared by the
  admin, the latter with the configured phrase.

`AccessControl` puts these together for one state of one run, and `access_control` proves it for
every state of every run.
-/

namespace Logistics
open Runs

/-! ## sessions and logins -/

section Sessions
variable {L : Libs} {cfg : Config}

theorem not_authenticatedAs_start (core : Core) (journal : Journal) (ips : Nat → String)
    (sid : Nat) (user : String) : ¬ AuthenticatedAs (.start core journal ips) sid user := by
  rintro ⟨h, -⟩
  cases h

/-- **Logged in as `user` means: one of the session's own messages logged `user` in.** -/
theorem authenticatedAs_iff_occurred (core : Core) (journal : Journal) (ips : Nat → String)
    (inputs : List Input) (w : World)
    (h : runFrom (step L cfg) (.start core journal ips) inputs = some w) (sid : Nat)
    (user : String) :
    AuthenticatedAs w sid user ↔
      Occurred (step L cfg) (.start core journal ips) inputs (LogsIn L cfg sid user) := by
  revert sid user
  refine runFrom_induction (P := fun inputs w => ∀ sid user, AuthenticatedAs w sid user ↔
    Occurred (step L cfg) (.start core journal ips) inputs (LogsIn L cfg sid user)) ?_ ?_ inputs w h
  · intro sid user
    exact iff_of_false (not_authenticatedAs_start core journal ips sid user) (not_occurred_nil _ _)
  · intro inputs w i w' hrun ih hstep sid user
    rw [occurred_concat hrun, ← ih sid user]
    exact authenticatedAs_step (step_cases hstep) sid user

theorem authenticatedAs_run {w w' : World} {inputs : List Input}
    (h : runFrom (step L cfg) w inputs = some w') {sid : Nat} {user : String}
    (ha : AuthenticatedAs w sid user) : AuthenticatedAs w' sid user :=
  runFrom_invariant (I := fun w => AuthenticatedAs w sid user) ha
    (fun _ _ _ hw hstep => (authenticatedAs_step (step_cases hstep) sid user).mpr (.inl hw))
    inputs w' h

/-- the client id of a session is empty until it is logged in -/
def Named (w : World) : Prop :=
  ∀ sid, (w.core.sessions sid).clientID ≠ "" ↔ (w.core.sessions sid).isAuthenticated = true

/-- a user of the table has a name: the CHECK of the schema -/
theorem name_ne_empty {users : Users} {user : String} {row : UserRow}
    (h : users.find? user = some row) : user ≠ "" := by
  rintro rfl
  have hcheck := (users.checked "" row h).1
  revert hcheck
  decide

theorem Stepped.named {w : World} {i : Input} {c : Core} (h : Stepped L cfg w i c) (hw : Named w)
    (j : Journal) : Named ⟨c, j⟩ := by
  intro sid
  rcases h.sessions with ⟨hsame, -⟩ | ⟨sid₀, user₀, row, -, hrow, -, hupd⟩
  · rw [hsame]
    exact hw sid
  · rw [hupd]
    by_cases hsid : sid = sid₀
    · subst hsid
      rw [Function.update_self]
      exact iff_of_true (name_ne_empty hrow) rfl
    · rw [Function.update_of_ne hsid]
      exact hw sid

theorem named_run (core : Core) (journal : Journal) (ips : Nat → String) (inputs : List Input)
    (w : World) (h : runFrom (step L cfg) (.start core journal ips) inputs = some w) : Named w := by
  refine runFrom_invariant (I := Named) ?_ ?_ inputs w h
  · intro sid
    exact iff_of_false (fun hne => hne rfl) Bool.false_ne_true
  · intro w i w' hw hstep
    exact (step_cases hstep).named hw w'.journal

end Sessions

/-! ## the access rules -/

/-- the access rules in the state `w` that the inputs have led to -/
structure AccessControl (L : Libs) (cfg : Config) (w₀ : World) (inputs : List Input) (w : World) :
    Prop where
  login : ∀ sid user, AuthenticatedAs w sid user ↔
    Occurred (step L cfg) w₀ inputs (LogsIn L cfg sid user)
  named : ∀ sid, (w.core.sessions sid).clientID ≠ "" ↔
    (w.core.sessions sid).isAuthenticated = true
  stable : ∀ sid user more w', AuthenticatedAs w sid user →
    runFrom (step L cfg) w more = some w' → AuthenticatedAs w' sid user
  -- a message of a session that is not logged in and is not logged in by it
  guest : ∀ i sid text, i.what = .message sid text →
    (w.core.sessions sid).isAuthenticated = false → (∀ user, ¬ LogsIn L cfg sid user w i) →
      (after L cfg w i).stock = w.core.stock ∧ (after L cfg w i).cache = w.core.cache ∧
      SameButCounters w.core.users (after L cfg w i).users ∧
      (after L cfg w i).manager.lockedClients = w.core.manager.lockedClients ∧
      ∀ reply keep, ((processMessage L cfg sid text).run (w.before i)).1 = .ok (reply, keep) →
        reply.status = some "error"
  owner : ∀ i key, (after L cfg w i).stock.find? key ≠ w.core.stock.find? key →
    ∃ sid text, i.what = .message sid text ∧ AuthenticatedAs w sid key.client ∧
      isHub key.client = false
  created : ∀ i user, w.core.users.find? user = none → (after L cfg w i).users.find? user ≠ none →
    ∃ sid text, i.what = .message sid text ∧ AuthenticatedAs w sid "admin"
  -- a lock flag of the table or its copy in `m_lockedClients` is gone
  unlocked : ∀ i user,
    (Flagged w.core user ∧ ¬ Flagged (after L cfg w i) user) ∨
      (user ∈ w.core.manager.lockedClients ∧
        user ∉ (after L cfg w i).manager.lockedClients) →
    ∃ sid text request, i.what = .message sid text ∧ AuthenticatedAs w sid "admin" ∧
      L.parse text = some request ∧ unlockFields request = .ok (cfg.secretPhrase, user)

/-- **The access rules hold in every state of every run.** -/
theorem access_control (L : Libs) (cfg : Config) (core : Core) (journal : Journal)
    (ips : Nat → String) (inputs : List Input) (w : World)
    (h : runFrom (step L cfg) (.start core journal ips) inputs = some w) :
    AccessControl L cfg (.start core journal ips) inputs w where
  login := authenticatedAs_iff_occurred core journal ips inputs w h
  named := named_run core journal ips inputs w h
  stable _ _ _ _ ha hmore := authenticatedAs_run hmore ha
  guest i sid text what hguest hno := by
    have hno' : ∀ user, authCall L cfg sid text (w.before i) ≠ some (user, .ok .success) :=
      fun user hcall => hno user ⟨text, what, hcall⟩
    have hrefused := processMessage_guest L cfg hguest hno'
    rw [after_message what]
    exact ⟨hrefused.2.stock, hrefused.2.cache, hrefused.2.users, by rw [hrefused.2.manager]; rfl,
      hrefused.1⟩
  owner i key hne := (stepped_after L cfg w i).stock hne
  created i user hnone hsome := by
    have hne : ((after L cfg w i).users.find? user).isSome ≠ (w.core.users.find? user).isSome := by
      rw [hnone, Option.isSome_none, Option.isSome_iff_ne_none.mpr hsome]
      decide
    exact (stepped_after L cfg w i).created hne
  unlocked i user hgone := by
    rcases (stepped_after L cfg w i).locks with hkeeps | ⟨user', hunlocks, hothers, hcopy⟩
    · rcases hgone with ⟨hf, hnf⟩ | ⟨hm, hnm⟩
      · exact absurd (hkeeps.flagged user hf) hnf
      · exact absurd (hkeeps.copy hm) hnm
    · have huser : user = user' := by
        by_contra hne
        rcases hgone with ⟨hf, hnf⟩ | ⟨hm, hnm⟩
        · exact hnf (hothers user hne hf)
        · rw [hcopy] at hnm
          exact hnm (Finset.mem_erase.mpr ⟨hne, hm⟩)
      subst huser
      obtain ⟨sid, text, request, what, hadmin, hparse, -, hfields⟩ := hunlocks.request
      exact ⟨sid, text, request, what, hadmin, hparse, hfields⟩

/-! Alice logs in on the session 0. -/

def aliceRun : List Input := [⟨.message 0 (bytesOf aliceLogin.render), healthy⟩]

theorem aliceRun_isSome :
    (runFrom (step (.known [aliceLogin]) .sample) aliceStart aliceRun).isSome := by
  decide

def aliceWorld : World :=
  (runFrom (step (.known [aliceLogin]) .sample) aliceStart aliceRun).get aliceRun_isSome

theorem access_control_alice : AuthenticatedAs aliceWorld 0 "alice" ∧
    AccessControl (.known [aliceLogin]) .sample aliceStart aliceRun aliceWorld :=
  ⟨⟨rfl, rfl⟩, access_control _ _ _ _ _ _ _ (Option.some_get aliceRun_isSome).symm⟩

end Logistics
