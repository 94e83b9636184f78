import Logistics.Session.Notify

/-!
# What goes out over UDP

Three handlers call `sendto`: a keepalive is answered, an alert is broadcast, and a `run` delivers
an event from the queue of its user, which an earlier alert put there.  A message from a client
sends nothing, whatever the command is.

* `Texts P s`         the texts that were sent and those that wait in a queue have `P`;
* `liveStep_texts`    **a step keeps this for the answer to a keepalive and for an alert**;
* `texts_run`         **so each datagram of a run is that answer or an alert that came in**.
-/

namespace Logistics
open Std Runs

/-! ## the texts -/

/-- the texts that were sent, and those that wait to be sent, have `P` -/
structure Texts (P : String → Prop) (w : World) : Prop where
  sent : ∀ d ∈ w.journal.datagrams, P d.2
  queued : ∀ user, ∀ event ∈ w.core.queue user, P event.message

theorem Texts.mono {P Q : String → Prop} {w : World} (h : Texts P w) (hPQ : ∀ text, P text → Q text) :
    Texts Q w :=
  ⟨fun d hd => hPQ _ (h.sent d hd), fun user event he => hPQ _ (h.queued user event he)⟩

def KeepsTexts (P : String → Prop) (s s' : St) : Prop := Texts P s.world → Texts P s'.world

section Texts
variable {P : String → Prop}

instance : IsPreorder St (KeepsTexts P) where
  refl _ := id
  trans _ _ _ h h' := h' ∘ h

theorem keepsTexts_of_still {s s' : St} (h : Still s s') : KeepsTexts P s s' := by
  intro hs
  refine ⟨?_, ?_⟩
  · show ∀ d ∈ s'.journal.datagrams, P d.2
    rw [h.datagrams]
    exact hs.sent
  · show ∀ user, ∀ event ∈ s'.core.queue user, P event.message
    rw [h.queue]
    exact hs.queued

theorem texts_routine : Routine (KeepsTexts P) where
  next s := keepsTexts_of_still (still_routine.next s)
  core s c h := keepsTexts_of_still (still_routine.core s c h)
  messages _ _ h := ⟨h.sent, h.queued⟩
  reconnections _ _ h := ⟨h.sent, h.queued⟩
  plain s level component message := keepsTexts_of_still (still_logged s level component message none)

theorem log_texts (level : LogLevel) (component message : String) (clientId : Option String) :
    (log level component message clientId).Keeps (KeepsTexts P) :=
  fun s => keepsTexts_of_still (log_still level component message clientId s)

theorem incrementMessage_texts (protocol : Protocol) (direction : Direction) :
    (incrementMessage protocol direction).Keeps (KeepsTexts P) := fun _ h => ⟨h.sent, h.queued⟩

theorem incrementError_texts (protocol : Protocol) (direction : Direction) :
    (incrementError protocol direction).Keeps (KeepsTexts P) := fun _ h => ⟨h.sent, h.queued⟩

theorem mem_pushed {cfg : Config} {event e : Event} {queue : List Event}
    (h : e ∈ pushed cfg event queue) : e ∈ queue ∨ e = event := by
  unfold pushed at h
  rcases List.mem_append.mp h with h | h
  · left
    split_ifs at h
    · exact List.mem_of_mem_tail h
    · exact h
  · exact .inr (List.mem_singleton.mp h)

theorem texts_sends {message : String} (h : P message) : Sending (KeepsTexts P) message where
  datagram _ _ hs :=
    ⟨List.forall_mem_append.mpr ⟨hs.sent, List.forall_mem_singleton.mpr h⟩, hs.queued⟩
  udpError _ hs := ⟨hs.sent, hs.queued⟩
  push cfg clientID s hs := by
    have hsent := pushEvent_routine unsent_routine (fun _ _ => unsent_of rfl rfl rfl) cfg clientID
      ⟨message⟩ s
    obtain ⟨s', hrun, hqueue⟩ := pushEvent_queue cfg clientID ⟨message⟩ s
    rw [hrun] at hsent ⊢
    refine ⟨fun d hd => hs.sent d (hsent.datagrams ▸ hd), fun user e he => ?_⟩
    have he : e ∈ s'.core.queue user := he
    rw [hqueue, Function.update_apply] at he
    split_ifs at he
    · rcases mem_pushed he with he | rfl
      · exact hs.queued clientID e he
      · exact h
    · exact hs.queued user e he

theorem sendto_texts (address : String) {message : String} (h : P message) :
    (sendto address message).Keeps (KeepsTexts P) :=
  sendto_routine texts_routine (texts_sends h) address

/-! ### the handlers -/

theorem processAlert_texts (L : Libs) (cfg : Config) {alert : Bytes}
    (h : ∀ text, AlertText L alert text → P text) :
    (processAlert L cfg alert).Keeps (KeepsTexts P) :=
  processAlert_routine texts_routine L cfg (fun text htext => texts_sends (h text htext))
    fun _ _ s level message => keepsTexts_of_still (still_logged s level _ message _)

theorem handleMessage_texts (L : Libs) (h : P (L.dump pongMessage)) (input : RecvResult) :
    (handleMessage L input).Keeps (KeepsTexts P) := by
  have hpong : ∀ clientId address, (sendPong L clientId address).Keeps (KeepsTexts P) := by
    intro clientId address
    refine Prog.keeps_bind (sendto_texts address h) fun sent => Prog.keeps_ite ?_ ?_
    · exact Prog.keeps_bind (incrementMessage_texts _ _) fun _ => log_texts _ _ _ _
    · exact Prog.keeps_bind (log_texts _ _ _ _) fun _ => incrementError_texts _ _
  cases input with
  | again => exact Prog.keeps_pure _
  | error => exact Prog.keeps_bind (log_texts _ _ _ _) fun _ => incrementError_texts _ _
  | data address buffer =>
    refine Prog.keeps_bind (log_texts _ _ _ _) fun _ => ?_
    refine Prog.keeps_bind (incrementMessage_texts _ _) fun _ => ?_
    unfold handleDatagram
    cases L.parse (cString buffer) with
    | none => exact log_texts _ _ _ _
    | some request =>
      refine Prog.keeps_bind (json_routine _) fun cmd => Prog.keeps_ite ?_ (log_texts _ _ _ _)
      refine catchJson_keeps ?_ fun _ => log_texts _ _ _ _
      refine Prog.keeps_bind (json_routine _) fun clientId => ?_
      refine Prog.keeps_bind (fun _ => id) fun session => ?_
      cases session with
      | none => exact log_texts _ _ _ _
      | some sid =>
        refine Prog.keeps_bind (fun _ h => ⟨h.sent, h.queued⟩) fun _ => ?_
        exact Prog.keeps_bind (log_texts _ _ _ _) fun _ => hpong clientId address

/-- the event that is sent was in the queue -/
theorem handleEventQueue_texts (sid : Nat) : (handleEventQueue sid).Keeps (KeepsTexts P) := by
  intro s hs
  unfold handleEventQueue
  rw [Prog.run_bind, Prog.run_get]
  dsimp only
  generalize (s.core.sessions sid).clientID = client
  have hsent := popEvent_unsent client s
  obtain ⟨s', hpop, hqueue⟩ := popEvent_spec client s
  rw [hpop] at hsent
  have hpopped : Texts P s'.world := by
    refine ⟨fun d hd => hs.sent d (hsent.datagrams ▸ hd), fun user e he => ?_⟩
    have he : e ∈ s'.core.queue user := he
    rw [hqueue, Function.update_apply] at he
    split_ifs at he
    · exact hs.queued client e (List.mem_of_mem_tail he)
    · exact hs.queued user e he
  rw [Prog.run_bind, hpop]
  cases hhead : (s.core.queue client).head? with
  | none => exact hpopped
  | some event =>
    have hevent : P event.message := hs.queued client event (List.mem_of_mem_head? hhead)
    refine (Prog.keeps_bind ?_ fun udpAddress => ?_ : Prog.Keeps (KeepsTexts P) _) s' hpopped
    · refine Prog.keeps_bind Prog.keeps_get fun s => ?_
      dsimp only
      cases (s.core.sessions sid).udpAddress with
      | some address => exact Prog.keeps_pure _
      | none =>
        refine Prog.keeps_bind texts_routine.next fun pause =>
          Prog.keeps_ite ?_ (Prog.keeps_pure _)
        exact Prog.keeps_bind (fun _ h => ⟨h.sent, h.queued⟩) fun _ => Prog.keeps_pure _
    · cases udpAddress with
      | some address =>
        refine Prog.keeps_bind ?_ fun _ => Prog.keeps_pure _
        refine Prog.keeps_bind (sendto_texts address hevent) fun sent => Prog.keeps_ite ?_ ?_
        · exact Prog.keeps_bind (incrementMessage_texts _ _) fun _ => log_texts _ _ _ _
        · exact Prog.keeps_bind (log_texts _ _ _ _) fun _ => incrementError_texts _ _
      | none => exact Prog.keeps_bind (log_texts _ _ _ _) fun _ => Prog.keeps_pure _

theorem unregister_texts (sid : Nat) : (unregister sid).Keeps (KeepsTexts P) :=
  fun s => keepsTexts_of_still (unregister_still sid s)

theorem afterReply_texts (sid : Nat) (keep : Bool) : (afterReply sid keep).Keeps (KeepsTexts P) := by
  refine Prog.keeps_bind (Prog.keeps_bind Prog.keeps_get fun s => Prog.keeps_ite ?_ ?_) fun _ =>
    Prog.keeps_ite (Prog.keeps_pure _) ?_
  · exact Prog.keeps_bind (handleEventQueue_texts sid) fun sent =>
      Prog.keeps_ite (Prog.keeps_pure _) (log_texts _ _ _ _)
  · exact Prog.keeps_pure _
  · exact Prog.keeps_bind Prog.keeps_get fun s => Prog.keeps_bind (log_texts _ _ _ _) fun _ =>
      Prog.keeps_bind (unregister_texts sid) fun _ => Prog.keeps_pure _

theorem answer_texts (sid : Nat) (result : ProcessResult) :
    (answer sid result).Keeps (KeepsTexts P) := by
  refine Prog.keeps_bind (fun s => keepsTexts_of_still (writeSocket_same sid _ s).toStill)
    fun written => ?_
  cases written with
  | all => exact afterReply_texts sid _
  | part n => exact afterReply_texts sid _
  | again =>
    exact Prog.keeps_bind (setSession_routine texts_routine sid fun _ => rfl) fun _ =>
      afterReply_texts sid _
  | error =>
    refine Prog.keeps_bind Prog.keeps_get fun s => ?_
    refine Prog.keeps_bind (incrementError_texts _ _) fun _ => ?_
    exact Prog.keeps_bind (log_texts _ _ _ _) fun _ =>
      Prog.keeps_bind (unregister_texts sid) fun _ => Prog.keeps_pure _

theorem run_texts (L : Libs) (cfg : Config) (sid : Nat) (input : ReadResult) :
    (run L cfg sid input).Keeps (KeepsTexts P) := by
  refine Prog.keeps_bind Prog.keeps_get fun s => ?_
  cases input with
  | again => exact Prog.keeps_pure _
  | error => exact Prog.keeps_bind (log_texts _ _ _ _) fun _ => Prog.keeps_pure _
  | closed =>
    exact Prog.keeps_bind (log_texts _ _ _ _) fun _ =>
      Prog.keeps_bind (unregister_texts sid) fun _ => Prog.keeps_pure _
  | data chunk =>
    exact Prog.keeps_bind (fun s => keepsTexts_of_still (processMessage_keeps_still L cfg sid _ s))
      fun result => answer_texts sid result

/-! ## runs -/

/-- **A step keeps a property of the texts that the answer to a keepalive and the alert of the step
have.** -/
theorem liveStep_texts {L : Libs} {cfg : Config} {ℓ ℓ' : Live} {i : LiveInput}
    (h : liveStep L cfg ℓ i = some ℓ') (hpong : P (L.dump pongMessage))
    (halert : ∀ alert text, i.what = .alert alert → AlertText L alert text → P text)
    (htexts : Texts P ℓ.world) : Texts P ℓ'.world := by
  rcases liveStep_cases h with ⟨sid, input, -, -, keep, s, hrun, rfl⟩ |
    ⟨input, s, -, hrun, rfl⟩ | ⟨alert, s, hwhat, hrun, rfl⟩
  · have hkept := run_texts (P := P) L cfg sid input (ℓ.before i) htexts
    rwa [hrun] at hkept
  · have hkept := handleMessage_texts L hpong input (ℓ.before i) htexts
    rwa [hrun] at hkept
  · have hkept := processAlert_texts L cfg (fun text => halert alert text hwhat) (ℓ.before i) htexts
    rwa [hrun] at hkept

end Texts

/-- the answer to a keepalive, or an alert that came in, with its category -/
def Announced (L : Libs) (inputs : List LiveInput) (text : String) : Prop :=
  text = L.dump pongMessage ∨ ∃ i ∈ inputs, ∃ alert, i.what = .alert alert ∧ AlertText L alert text

theorem texts_run {L : Libs} {cfg : Config} {users : Users} {stock : Stock} {journal : Journal}
    {ips : Nat → String} (hjournal : journal.datagrams = []) {inputs : List LiveInput} {ℓ : Live}
    (h : runFrom (liveStep L cfg) (.start users stock journal ips) inputs = some ℓ) :
    Texts (Announced L inputs) ℓ.world := by
  refine runFrom_induction (P := fun inputs ℓ => Texts (Announced L inputs) ℓ.world) ?_ ?_ inputs ℓ h
  · refine ⟨fun d hd => ?_, fun user event he => ?_⟩
    · have hd : d ∈ journal.datagrams := hd
      rw [hjournal] at hd
      cases hd
    · have he : event ∈ (∅ : ExtTreeMap String (List Event)).getD user [] := he
      rw [ExtTreeMap.getD_empty] at he
      cases he
  · intro inputs ℓ i ℓ' _ htexts hstep
    refine liveStep_texts hstep (.inl rfl) ?_ (htexts.mono ?_)
    · intro alert text hwhat htext
      exact .inr ⟨i, List.mem_append_right _ (List.mem_singleton_self i), alert, hwhat, htext⟩
    · rintro text (hpong | ⟨j, hj, hfrom⟩)
      · exact .inl hpong
      · exact .inr ⟨j, List.mem_append_left _ hj, hfrom⟩

end Logistics
