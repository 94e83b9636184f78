import Logistics.Session.Routine

/-!
# What a message does not send

A message from a client is answered over its own connection, whatever the command is: before the
answer the server calls `sendto` for nobody.

* `Unsent`                  no datagram was sent, and the answers that are left are the later ones;
* `processMessage_unsent`   **so it is for every message**.
-/

namespace Logistics
open Std

structure Unsent (s s' : St) : Prop where
  datagrams : s'.journal.datagrams = s.journal.datagrams
  errors : s'.journal.errors (.udp, .tx) = s.journal.errors (.udp, .tx)
  /-- the answers that are left -/
  later : ∃ k, ∀ n, s'.env n = s.env (n + k)

instance : IsPreorder St Unsent where
  refl _ := ⟨rfl, rfl, 0, fun _ => rfl⟩
  trans _ _ _ h h' := by
    obtain ⟨k, hk⟩ := h.later
    obtain ⟨k', hk'⟩ := h'.later
    refine ⟨h'.datagrams.trans h.datagrams, h'.errors.trans h.errors, k' + k, fun n => ?_⟩
    rw [hk', hk, Nat.add_assoc]

/-- a change of the core and of the other counters -/
theorem unsent_of {s s' : St} (hdatagrams : s'.journal.datagrams = s.journal.datagrams)
    (herrors : s'.journal.errors (.udp, .tx) = s.journal.errors (.udp, .tx))
    (henv : s'.env = s.env) : Unsent s s' :=
  ⟨hdatagrams, herrors, 0, fun n => congrFun henv n⟩

/-- an answer holds of the later answers too -/
theorem Unsent.answers {s s' : St} (h : Unsent s s') {P : Answer → Prop} (hP : ∀ n, P (s.env n)) :
    ∀ n, P (s'.env n) := by
  obtain ⟨k, hk⟩ := h.later
  intro n
  rw [hk]
  exact hP (n + k)

theorem log_unsent (level : LogLevel) (component message : String) (clientId : Option String) :
    (log level component message clientId).Keeps Unsent := by
  intro s
  rw [run_log]
  refine ⟨St.logged_datagrams s level component message clientId, ?_, 2, fun n => ?_⟩
  · rw [St.logged_eq]
  · rw [St.logged_env]

theorem ask_unsent : ask.Keeps Unsent := fun _ => ⟨rfl, rfl, 1, fun _ => rfl⟩

theorem setCore_unsent (f : Core → Core) : (setCore f).Keeps Unsent :=
  fun _ => unsent_of rfl rfl rfl

theorem incrementError_unsent (direction : Direction) :
    (incrementError .tcp direction).Keeps Unsent := by
  intro s
  refine unsent_of rfl ?_ rfl
  have hother : ((.udp, .tx) : Protocol × Direction) ≠ (.tcp, direction) := by simp
  exact Function.update_of_ne hother (s.journal.errors (.tcp, direction) + 1) s.journal.errors

theorem notes_unsent (component id : String) : Notes Unsent component id := fun s level message => by
  have h := log_unsent level component message (some id) s
  rwa [run_log] at h

theorem unsent_routine : Routine Unsent where
  next _ := ⟨rfl, rfl, 1, fun _ => rfl⟩
  core _ _ _ := unsent_of rfl rfl rfl
  messages _ _ := unsent_of rfl rfl rfl
  reconnections _ _ := unsent_of rfl rfl rfl
  plain s level component message := by
    have h := log_unsent level component message none s
    rwa [run_log] at h

/-- **No message makes the server send a datagram before it is answered.** -/
theorem processMessage_unsent (L : Libs) (cfg : Config) (sid : Nat) (text : Bytes) :
    (processMessage L cfg sid text).Keeps Unsent := fun _ =>
  processMessage_routine unsent_routine (incrementError_unsent .rx) (fun _ => notes_unsent _ _)
    (fun _ _ _ _ => notes_unsent _ _) fun _ _ _ _ _ => notes_unsent _ _

end Logistics
