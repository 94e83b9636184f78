import Logistics.Session.Routine

/-!
# The error counter and the error replies

Sequences of messages of any sessions, each of them answered.  `Tally` keeps the replies; the
counter in question is the one for `(tcp, rx)`.

* `message_counts`       one message adds what its reply says, unless it is `Miscounted`;
* `errors_counted_iff`   **the counter is right exactly if no message is miscounted**.
-/

namespace Logistics
open Runs

def Journal.rxErrors (j : Journal) : Nat := j.errors (.tcp, .rx)

def SameErrors (s s' : St) : Prop := s'.journal.rxErrors = s.journal.rxErrors

instance : IsPreorder St SameErrors where
  refl _ := rfl
  trans _ _ _ h h' := h'.trans h

theorem sameErrors_logged (s : St) (level : LogLevel) (component message : String)
    (clientId : Option String) : SameErrors s (s.logged level component message clientId) := by
  unfold SameErrors
  rw [St.logged_eq]
  rfl

theorem sameErrors_routine : Routine SameErrors where
  next _ := rfl
  core _ _ _ := rfl
  messages _ _ := rfl
  reconnections _ _ := rfl
  plain s level component message := sameErrors_logged s level component message none

theorem sameErrors_notes (component id : String) : Notes SameErrors component id :=
  fun s level message => sameErrors_logged s level component message (some id)

/-! ## one message -/

def Reply.isError (r : Reply) : Bool := r.status = some "error"

/-- the message is a `register_user` of someone else than the admin, or without its fields -/
def Miscounted (L : Libs) (sid : Nat) (text : Bytes) (s : St) : Prop :=
  (s.core.sessions sid).isAuthenticated = true ∧ ∃ request, L.parse text = some request ∧
    request.atString "command" = .ok "register_user" ∧
    ((s.core.sessions sid).clientID ≠ "admin" ∨ ∃ e, registerFields request = .error e)

theorem counts_of_ends {s s' : St} {r : ProcessResult} (h : EndsAs SameErrors s (.ok r, s')) :
    s'.journal.rxErrors = s.journal.rxErrors + if r.1.isError = true then 1 else 0 := by
  unfold Reply.isError
  by_cases herror : r.1.status = some "error"
  · obtain ⟨s₁, hfirst, hlast⟩ := (endsAs_error herror).mp h
    have hstep : ((incrementError .tcp .rx).run s₁).2.journal.rxErrors = s₁.journal.rxErrors + 1 := by
      show Function.update s₁.journal.errors (.tcp, .rx) _ (.tcp, .rx) = _
      rw [Function.update_self]
      rfl
    rw [if_pos (decide_eq_true herror), hlast, hstep, hfirst]
  · rw [if_neg (by simpa using herror)]
    exact (endsAs_other herror).mp h

/-- a `register_user` that is refused is answered with an error that is not counted -/
theorem refuseUncounted_counts (L : Libs) (message note me : String) (s : St) :
    ∃ s', (refuseUncounted L message note me).run s = (.ok (reply L "error" message), s') ∧
      SameErrors s s' := by
  unfold refuseUncounted
  rw [Prog.run_bind, run_log]
  exact ⟨_, rfl, sameErrors_logged s _ _ _ _⟩

theorem register_refused {L : Libs} {me : String} {request : Json}
    (h : me ≠ "admin" ∨ ∃ e, registerFields request = .error e) (s : St) :
    ∃ message s', (handleRegisterUser L request me).run s = (.ok (reply L "error" message), s') ∧
      SameErrors s s' := by
  unfold handleRegisterUser
  by_cases hadmin : me = "admin"
  · obtain ⟨e, hfields⟩ := h.resolve_left (not_not.mpr hadmin)
    rw [if_pos hadmin, hfields]
    exact ⟨_, refuseUncounted_counts L _ _ me s⟩
  · rw [if_neg hadmin]
    exact ⟨_, refuseUncounted_counts L _ _ me s⟩

/-- a `register_user` with its fields registers the user or throws -/
theorem register_carried_out {L : Libs} {request : Json} {user password : String}
    (hfields : registerFields request = .ok (user, password)) (s : St) :
    (∃ message s', (handleRegisterUser L request "admin").run s =
        (.ok (reply L "success" message), s')) ∨
      ∃ e s', (handleRegisterUser L request "admin").run s = (.error e, s') := by
  unfold handleRegisterUser catchJson
  rw [if_pos rfl, hfields, json_ok_bind, Prog.run_tryCatch]
  dsimp only
  rw [Prog.run_bind, run_createUser]
  cases (s.env 0).fails with
  | true => exact .inr ⟨_, _, rfl⟩
  | false =>
    simp only [Bool.false_eq_true, if_false]
    cases s.core.users.insert? user _ with
    | none => exact .inr ⟨_, _, rfl⟩
    | some users =>
      simp only [registerReply, if_true, Prog.run_bind, run_log, Prog.run_pure]
      exact .inl ⟨_, _, rfl⟩

/-- **One message adds to the counter what its reply says, unless it is miscounted.** -/
theorem message_counts {L : Libs} {cfg : Config} {sid : Nat} {text : Bytes} {s s' : St}
    {r : ProcessResult} (hrun : (processMessage L cfg sid text).run s = (.ok r, s'))
    (hcounted : ¬ Miscounted L sid text s) :
    s'.journal.rxErrors = s.journal.rxErrors + if r.1.isError = true then 1 else 0 := by
  apply counts_of_ends
  rw [← hrun]
  cases ha : (s.core.sessions sid).isAuthenticated with
  | false => exact processMessage_guest_ends sameErrors_routine ha
  | true =>
    cases hp : L.parse text with
    | none => exact processMessage_invalid_ends sameErrors_routine hp s
    | some request =>
      by_cases hcmd : request.atString "command" = .ok "register_user"
      · -- the admin, with the fields: carried out, or caught as an exception
        have hadmin : (s.core.sessions sid).clientID = "admin" := by
          by_contra hother
          exact hcounted ⟨ha, request, hp, hcmd, .inl hother⟩
        cases hfields : registerFields request with
        | error e => exact absurd ⟨ha, request, hp, hcmd, .inr ⟨e, hfields⟩⟩ hcounted
        | ok fields =>
          obtain ⟨user, password⟩ := fields
          rw [run_processMessage_member L cfg hp ha, hadmin]
          have hreceived : SameErrors s (received L request s) :=
            receive_routine sameErrors_routine L request s
          refine EndsAs.after hreceived ?_
          generalize received L request s = s₁
          unfold commandMessage
          rw [processCommand_eq_dispatch L cfg hcmd, dispatch_register_user, Prog.run_tryCatch]
          have hkeeps := handleRegisterUser_routine sameErrors_routine
            (sameErrors_notes "CommandProcessor" "admin") (L := L) request s₁
          rcases register_carried_out (L := L) hfields s₁ with
            ⟨message, s₂, hregister⟩ | ⟨e, s₂, hregister⟩
          · rw [hregister] at hkeeps ⊢
            exact (endsAs_other (reply_success_ne message)).mpr hkeeps
          · rw [hregister] at hkeeps ⊢
            exact EndsAs.after hkeeps (commandFailed_ends sameErrors_routine "admin" e s₂)
      · exact processMessage_member_ends sameErrors_routine hp ha (sameErrors_notes _ _)
          (fun _ => sameErrors_notes _ _) (fun _ _ => sameErrors_notes _ _) hcmd

/-- a miscounted message is answered with an error and leaves the counter alone -/
theorem message_miscounts {L : Libs} {cfg : Config} {sid : Nat} {text : Bytes} {s s' : St}
    {r : ProcessResult} (hrun : (processMessage L cfg sid text).run s = (.ok r, s'))
    (hmiscounted : Miscounted L sid text s) :
    r.1.isError = true ∧ s'.journal.rxErrors = s.journal.rxErrors := by
  obtain ⟨ha, request, hp, hcmd, hrefused⟩ := hmiscounted
  rw [run_processMessage_member L cfg hp ha] at hrun
  unfold commandMessage at hrun
  rw [processCommand_eq_dispatch L cfg hcmd, dispatch_register_user, Prog.run_tryCatch] at hrun
  obtain ⟨message, s₁, hregister, hsame⟩ := register_refused (L := L) hrefused (received L request s)
  rw [hregister] at hrun
  cases hrun
  have hreceived : SameErrors s (received L request s) := receive_routine sameErrors_routine L request s
  exact ⟨decide_eq_true (status_reply L "error" message), trans_of SameErrors hreceived hsame⟩

/-! ## sequences of messages -/

structure MessageInput where
  sid : Nat
  text : Bytes
  env : Nat → Answer

/-- the server and the replies it has given -/
structure Tally where
  world : World
  replies : List Reply

def tallyStep (L : Libs) (cfg : Config) (t : Tally) (i : MessageInput) : Option Tally :=
  match (processMessage L cfg i.sid i.text).run (t.world.facing i.env) with
  | (.ok (answer, _), s) => some ⟨s.world, t.replies ++ [answer]⟩
  | (.error _, _) => none

def miscounts (L : Libs) (t : Tally) (i : MessageInput) : Prop :=
  Miscounted L i.sid i.text (t.world.facing i.env)

def errorReplies (replies : List Reply) : Nat := replies.countP Reply.isError

theorem errorReplies_concat (replies : List Reply) (answer : Reply) :
    errorReplies (replies ++ [answer]) =
      errorReplies replies + if answer.isError = true then 1 else 0 := by
  unfold errorReplies
  rw [List.countP_append, List.countP_singleton]

theorem tallyStep_cases {L : Libs} {cfg : Config} {t t' : Tally} {i : MessageInput}
    (h : tallyStep L cfg t i = some t') :
    ∃ r s', (processMessage L cfg i.sid i.text).run (t.world.facing i.env) = (.ok r, s') ∧
      t' = ⟨s'.world, t.replies ++ [r.1]⟩ := by
  unfold tallyStep at h
  split at h
  · rename_i answer keep s' hrun
    cases h
    exact ⟨(answer, keep), s', hrun, rfl⟩
  · cases h

/-- the counter never runs ahead of the replies, and keeps up with them while nothing is miscounted -/
theorem counter_follows (L : Libs) (cfg : Config) (w : World) :
    ∀ inputs t, runFrom (tallyStep L cfg) ⟨w, []⟩ inputs = some t →
      t.world.journal.rxErrors ≤ w.journal.rxErrors + errorReplies t.replies ∧
        (t.world.journal.rxErrors = w.journal.rxErrors + errorReplies t.replies ↔
          ¬ Occurred (tallyStep L cfg) ⟨w, []⟩ inputs (miscounts L)) := by
  refine runFrom_induction ⟨le_rfl, iff_of_true rfl (not_occurred_nil _ _)⟩ ?_
  rintro inputs t i t' hrun ⟨hle, hiff⟩ hstep
  obtain ⟨r, s', hmessage, rfl⟩ := tallyStep_cases hstep
  show s'.journal.rxErrors ≤ _ ∧ (s'.journal.rxErrors = _ ↔ _)
  rw [occurred_concat hrun, not_or, ← hiff, errorReplies_concat]
  by_cases hbad : miscounts L t i
  · obtain ⟨herror, hsame⟩ := message_miscounts hmessage hbad
    have hcount : s'.journal.rxErrors = t.world.journal.rxErrors := hsame
    rw [if_pos herror, hcount]
    refine ⟨by omega, iff_of_false (by omega) fun h => h.2 hbad⟩
  · have hcount : s'.journal.rxErrors = t.world.journal.rxErrors + _ := message_counts hmessage hbad
    rw [hcount]
    refine ⟨by omega, ?_⟩
    constructor
    · intro h
      exact ⟨by omega, hbad⟩
    · rintro ⟨h, -⟩
      omega

/-- **Over a sequence of messages the counter grows by the number of error replies exactly if no
message of it is a `register_user` that is refused.** -/
theorem errors_counted_iff (L : Libs) (cfg : Config) (w : World) (inputs : List MessageInput)
    (t : Tally) (hrun : runFrom (tallyStep L cfg) ⟨w, []⟩ inputs = some t) :
    t.world.journal.errors (.tcp, .rx) =
        w.journal.errors (.tcp, .rx) + t.replies.countP (fun r => r.status = some "error") ↔
      ¬ Occurred (tallyStep L cfg) ⟨w, []⟩ inputs (miscounts L) :=
  (counter_follows L cfg w inputs t hrun).2

/-! A `register_user` of alice, and a text that is not JSON. -/

def bareRegister : Json := .obj [("command", .str "register_user")]

def aliceSays (text : Bytes) : List MessageInput := [⟨0, text, healthy⟩]

theorem notJson_isSome :
    (runFrom (tallyStep (.known []) .sample) ⟨aliceWorld, []⟩ (aliceSays (bytesOf "oops"))).isSome := by
  decide

theorem errors_counted_alice :
    ∃ t, runFrom (tallyStep (.known []) .sample) ⟨aliceWorld, []⟩ (aliceSays (bytesOf "oops")) = some t ∧
      t.world.journal.errors (.tcp, .rx) = aliceWorld.journal.errors (.tcp, .rx) +
        t.replies.countP (fun r => r.status = some "error") := by
  refine ⟨_, (Option.some_get notJson_isSome).symm, ?_⟩
  refine (errors_counted_iff (.known []) .sample aliceWorld (aliceSays (bytesOf "oops")) _
    (Option.some_get notJson_isSome).symm).mpr ?_
  unfold aliceSays
  rw [occurred_cons]
  rintro (⟨-, request, hparse, -⟩ | ⟨t, -, hrest⟩)
  · cases hparse
  · exact not_occurred_nil t _ hrest

theorem bareRegister_isSome :
    (runFrom (tallyStep (.known [bareRegister]) .sample) ⟨aliceWorld, []⟩
      (aliceSays (bytesOf bareRegister.render))).isSome := by
  decide

/-- The reply is an error, the counter stays. -/
theorem refused_register_is_not_counted :
    ∃ t, runFrom (tallyStep (.known [bareRegister]) .sample) ⟨aliceWorld, []⟩
        (aliceSays (bytesOf bareRegister.render)) = some t ∧
      t.replies.map Reply.status = [some "error"] ∧
      t.world.journal.errors (.tcp, .rx) = aliceWorld.journal.errors (.tcp, .rx) := by
  refine ⟨_, (Option.some_get bareRegister_isSome).symm, ?_, ?_⟩
  · decide
  · decide

end Logistics
