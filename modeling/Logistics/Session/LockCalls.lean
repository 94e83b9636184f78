import Logistics.Lib.Sections
import Logistics.Session.System

/-!
# The two copies of a lock in parallel

`lockClient` and `unlockClient` write `is_locked` in one critical section (the `Storage` call) and
`m_lockedClients` in another (under `m_mutex`); `isClientLocked` holds `m_mutex` for its whole body.
Any number of such calls are in flight (`Sections.Flight`), each section is one step.  A log entry
is a `Storage` call that touches neither copy, and is left out.

* `LockCall`, `lockAct`         the calls and their sections;
* `serial_lockCall`             a call whose sections are not interrupted is the sequential call;
* `Covered`                     a marked client is flagged, or an unlock is about to unmark it;
* `StaleMark`                   a lock marks a client that has been unflagged since;
* `lock_copies_agree_iff`       **the copies agree at rest exactly where no stale mark occurs**;
* `crossed_unlock_leaves_mark`  a lock and an unlock of one client that cross.
-/

namespace Logistics
open Runs Sections

/-! ## the calls and their sections -/

inductive LockCall where
  | lockClient (clientId : String)
  | unlockClient (clientId : String)
  | isClientLocked (clientId : String)

def LockCall.perform : LockCall → M Bool
  | .lockClient clientId => Logistics.lockClient clientId
  | .unlockClient clientId => Logistics.unlockClient clientId
  | .isClientLocked clientId => Logistics.isClientLocked clientId

inductive LockSection where
  | write (isLocked : Bool) (clientId : String)
  | mark (clientId : String)
  | unmark (clientId : String)
  | check (clientId : String)

def LockCall.first : LockCall → Option LockSection
  | .lockClient clientId => some (.write true clientId)
  | .unlockClient clientId => some (.write false clientId)
  | .isClientLocked clientId => some (.check clientId)

/-- the section after the `Storage` call, once that has found a row -/
def LockSection.copy (isLocked : Bool) (clientId : String) : LockSection :=
  if isLocked then .mark clientId else .unmark clientId

def Core.withLocked (c : Core) (f : Finset String → Finset String) : Core :=
  { c with manager := { c.manager with lockedClients := f c.manager.lockedClients } }

/-- the flag as `Storage::isClientLocked` reads it -/
def Core.lockFlag (c : Core) (clientId : String) : Bool :=
  match c.users.find? clientId with
  | some row => columnInt row.isLocked = 1
  | none => false

/-- one section; `fails` where its `Storage` call throws -/
def lockAct (core : Core) (fails : Bool) : LockSection → Core × Option LockSection
  | .write isLocked clientId =>
    if fails then (core, none)
    else
      match core.users.update? clientId (UserRow.setLocked isLocked) with
      | none => (core, none)
      | some users => ({ core with users := users },
          if (core.users.find? clientId).isSome then some (.copy isLocked clientId) else none)
  | .mark clientId => (core.withLocked (insert clientId), none)
  | .unmark clientId => (core.withLocked (Finset.erase · clientId), none)
  | .check clientId =>
    if clientId ∈ core.manager.lockedClients then (core, none)
    else if fails then (core, none)
    else if core.lockFlag clientId then (core.withLocked (insert clientId), none)
    else (core, none)

abbrev lockStep : Flight Core LockSection → Sections.Act LockCall Bool →
    Option (Flight Core LockSection) :=
  flightStep LockCall.first lockAct

theorem lockFlag_iff (c : Core) (clientId : String) :
    c.lockFlag clientId = true ↔ Flagged c clientId := by
  unfold Core.lockFlag Flagged UserRow.authData
  cases c.users.find? clientId with
  | none => simp
  | some row => simp

theorem run_storage_isClientLocked (clientId : String) (s : St) :
    (Storage.isClientLocked clientId).run s =
      (if (s.env 0).fails then .error (.sqlite .failure) else .ok (s.core.lockFlag clientId),
        s.next) := by
  unfold Storage.isClientLocked
  rw [Prog.run_bind, run_dbCall]
  cases (s.env 0).fails with
  | true => rfl
  | false => rfl

/-! ## one call alone -/

theorem changeLock_sections (s : St) (isLocked : Bool) (done missed clientId : String)
    (change : Finset String → Finset String)
    (hcopy : ∀ c fails, lockAct c fails (.copy isLocked clientId) = (c.withLocked change, none)) :
    ∃ outcomes, callRun lockAct s.core (some (.write isLocked clientId)) outcomes =
      some ((changeLock isLocked done missed change clientId).run s).2.core := by
  have hspec := changeLock_spec isLocked done missed change clientId s
  generalize ((changeLock isLocked done missed change clientId).run s).2.core = core at hspec ⊢
  generalize ((changeLock isLocked done missed change clientId).run s).1 = r at hspec
  cases hspec with
  | failed e => exact ⟨[true], rfl⟩
  | missed hrow =>
    refine ⟨[false], ?_⟩
    simp only [callRun, lockAct, Table.update?, hrow]
    rfl
  | done users row hrow hupd =>
    refine ⟨[false, false], ?_⟩
    simp only [callRun, lockAct, hupd, hrow]
    show callRun lockAct _ (some (LockSection.copy isLocked clientId)) _ = _
    simp only [callRun, hcopy]
    rfl

theorem isClientLocked_sections (s : St) (clientId : String) :
    ∃ outcomes, callRun lockAct s.core (some (.check clientId)) outcomes =
      some ((isClientLocked clientId).run s).2.core := by
  unfold isClientLocked
  rw [Prog.run_bind, Prog.run_get]
  dsimp only
  by_cases hin : clientId ∈ s.core.manager.lockedClients
  · refine ⟨[false], ?_⟩
    simp only [callRun, lockAct, if_pos hin]
    rfl
  · refine ⟨[(s.env 0).fails], ?_⟩
    simp only [callRun, lockAct, if_neg hin, Prog.run_bind, run_storage_isClientLocked]
    cases (s.env 0).fails with
    | true => rfl
    | false => cases s.core.lockFlag clientId <;> rfl

/-- **A call whose sections are not interrupted does what the sequential call does.** -/
theorem serial_lockCall (s : St) (id : Nat) (call : LockCall) :
    ∃ outcomes : List Bool,
      runFrom lockStep (.atRest s.core) (.begin id call :: outcomes.map (.advance id)) =
        some (.atRest (call.perform.run s).2.core) := by
  have hsections : ∃ outcomes, callRun lockAct s.core call.first outcomes =
      some (call.perform.run s).2.core := by
    cases call with
    | lockClient clientId => exact changeLock_sections s true _ _ clientId _ fun _ _ => rfl
    | unlockClient clientId => exact changeLock_sections s false _ _ clientId _ fun _ _ => rfl
    | isClientLocked clientId => exact isClientLocked_sections s clientId
  obtain ⟨outcomes, h⟩ := hsections
  exact ⟨outcomes, runFrom_callRun id h⟩

variable {f : Flight Core LockSection} {id : Nat} {clientId : String}

/-! ## the marked clients -/

/-- `m_lockedClients` contains flagged users only -/
def MarksFlagged (c : Core) : Prop := ∀ user ∈ c.manager.lockedClients, Flagged c user

/-- a marked client is flagged, or an unlock of it has cleared the flag and is about to unmark it -/
def Covered (f : Flight Core LockSection) : Prop :=
  ∀ user ∈ f.shared.manager.lockedClients,
    Flagged f.shared user ∨ ∃ id, f.calls id = some (.unmark user)

/-- a lock is about to mark a client that is not flagged, and no unlock is left to unmark it -/
def StaleMark (f : Flight Core LockSection) : Sections.Act LockCall Bool → Prop
  | .begin _ _ => False
  | .advance id _ => ∃ user, f.calls id = some (.mark user) ∧ ¬ Flagged f.shared user ∧
      ∀ other, f.calls other ≠ some (.unmark user)

theorem Covered.agrees (h : Covered f) (hidle : f.Idle) : MarksFlagged f.shared := by
  intro user hmarked
  rcases h user hmarked with hflag | ⟨id, hcall⟩
  · exact hflag
  · rw [hidle id] at hcall
    cases hcall

/-- a call that is not about to unmark anything goes on, and the marked clients stay covered -/
theorem Covered.move (h : Covered f) {core : Core} {next : Option LockSection}
    (hold : ∀ user, f.calls id ≠ some (.unmark user))
    (hmarked : ∀ user ∈ core.manager.lockedClients, user ∈ f.shared.manager.lockedClients ∨
      Flagged core user ∨ next = some (.unmark user))
    (hflag : ∀ user, Flagged f.shared user → Flagged core user ∨ next = some (.unmark user)) :
    Covered ⟨core, Function.update f.calls id next⟩ := by
  have hnow : ∀ user, Flagged core user ∨ next = some (.unmark user) →
      Flagged core user ∨ ∃ id', Function.update f.calls id next id' = some (.unmark user) := by
    rintro user (hf | hn)
    · exact .inl hf
    · refine .inr ⟨id, ?_⟩
      rw [Function.update_self]
      exact hn
  intro user hu
  rcases hmarked user hu with hin | hor
  · rcases h user hin with hf | ⟨id', hcall⟩
    · exact hnow user (hflag user hf)
    · refine .inr ⟨id', ?_⟩
      have hid : id' ≠ id := by
        rintro rfl
        exact hold user hcall
      show Function.update f.calls id next id' = _
      rw [Function.update_of_ne hid]
      exact hcall
  · exact hnow user hor

theorem Covered.stay (h : Covered f) (next : Option LockSection)
    (hold : ∀ user, f.calls id ≠ some (.unmark user)) :
    Covered ⟨f.shared, Function.update f.calls id next⟩ :=
  h.move hold (fun _ hu => .inl hu) fun _ hf => .inl hf

theorem flagged_setLocked {c : Core} {users : Users} {isLocked : Bool} {client user : String}
    (h : c.users.update? client (UserRow.setLocked isLocked) = some users)
    (hkeep : user ≠ client ∨ isLocked = true) (hf : Flagged c user) :
    Flagged { c with users := users } user := by
  obtain ⟨row, hrow, hl⟩ := hf
  rcases Table.update?_cases h with ⟨-, rfl⟩ | ⟨row', hcheck, hrow', rfl⟩
  · exact ⟨row, hrow, hl⟩
  · by_cases hne : user = client
    · have htrue : isLocked = true := hkeep.resolve_left fun hn => hn hne
      subst hne htrue
      exact ⟨_, Table.find?_put_self c.users user _ hcheck, rfl⟩
    · exact ⟨row, (Table.find?_put_of_ne c.users _ hcheck hne).trans hrow, hl⟩

theorem Covered.write (h : Covered f) {isLocked : Bool}
    (hcall : f.calls id = some (.write isLocked clientId)) (fails : Bool) :
    Covered ⟨(lockAct f.shared fails (.write isLocked clientId)).1,
      Function.update f.calls id (lockAct f.shared fails (.write isLocked clientId)).2⟩ := by
  have hold : ∀ user, f.calls id ≠ some (.unmark user) := by
    intro user hun
    rw [hcall] at hun
    cases hun
  unfold lockAct
  cases fails with
  | true => exact h.stay none hold
  | false =>
    simp only [Bool.false_eq_true, if_false]
    cases hupd : f.shared.users.update? clientId (UserRow.setLocked isLocked) with
    | none => exact h.stay none hold
    | some users =>
      refine h.move hold (fun user hu => .inl hu) ?_
      intro user hf
      by_cases hkeep : user ≠ clientId ∨ isLocked = true
      · exact .inl (flagged_setLocked hupd hkeep hf)
      · -- the flag of `clientId` itself is cleared, and this call will unmark it
        obtain ⟨heq, hfalse⟩ := not_or.mp hkeep
        rw [not_not] at heq
        rw [Bool.not_eq_true] at hfalse
        subst heq hfalse
        obtain ⟨row, hrow, -⟩ := hf
        refine .inr ?_
        rw [hrow]
        rfl

theorem Covered.check (h : Covered f) (hcall : f.calls id = some (.check clientId)) (fails : Bool) :
    Covered ⟨(lockAct f.shared fails (.check clientId)).1,
      Function.update f.calls id (lockAct f.shared fails (.check clientId)).2⟩ := by
  have hold : ∀ user, f.calls id ≠ some (.unmark user) := by
    intro user hun
    rw [hcall] at hun
    cases hun
  simp only [lockAct]
  by_cases hin : clientId ∈ f.shared.manager.lockedClients
  · simp only [if_pos hin]
    exact h.stay none hold
  · simp only [if_neg hin]
    cases fails with
    | true => exact h.stay none hold
    | false =>
      simp only [Bool.false_eq_true, if_false]
      cases hflag : f.shared.lockFlag clientId with
      | false => exact h.stay none hold
      | true =>
        refine h.move hold ?_ fun user hf => .inl hf
        intro user hu
        rcases Finset.mem_insert.mp hu with rfl | hu
        · exact .inr (.inl ((lockFlag_iff f.shared user).mp hflag))
        · exact .inl hu

theorem Covered.unmark (h : Covered f) (hcall : f.calls id = some (.unmark clientId)) :
    Covered ⟨f.shared.withLocked (Finset.erase · clientId), Function.update f.calls id none⟩ := by
  intro user hu
  obtain ⟨hne, hin⟩ := Finset.mem_erase.mp hu
  rcases h user hin with hf | ⟨id', hcall'⟩
  · exact .inl hf
  · refine .inr ⟨id', ?_⟩
    have hid : id' ≠ id := by
      rintro rfl
      rw [hcall] at hcall'
      cases hcall'
      exact hne rfl
    show Function.update f.calls id none id' = _
    rw [Function.update_of_ne hid]
    exact hcall'

/-- a mark is the only section that can break the cover, and does so exactly where it is stale -/
theorem covered_mark_iff (h : Covered f) (hcall : f.calls id = some (.mark clientId)) :
    Covered ⟨f.shared.withLocked (insert clientId), Function.update f.calls id none⟩ ↔
      Flagged f.shared clientId ∨ ∃ other, f.calls other = some (.unmark clientId) := by
  have hold : ∀ user, f.calls id ≠ some (.unmark user) := by
    intro user hun
    rw [hcall] at hun
    cases hun
  have hother : ∀ id' user, Function.update f.calls id none id' = some (.unmark user) ↔
      f.calls id' = some (.unmark user) := by
    intro id' user
    by_cases hid : id' = id
    · subst hid
      rw [Function.update_self]
      exact ⟨nofun, fun hun => absurd hun (hold user)⟩
    · rw [Function.update_of_ne hid]
  constructor
  · intro hcov
    rcases hcov clientId (Finset.mem_insert_self ..) with hf | ⟨id', hun⟩
    · exact .inl hf
    · exact .inr ⟨id', (hother id' clientId).mp hun⟩
  · intro hfine user hu
    have hbefore : Flagged f.shared user ∨ ∃ id', f.calls id' = some (.unmark user) := by
      rcases Finset.mem_insert.mp hu with rfl | hin
      · exact hfine
      · exact h user hin
    rcases hbefore with hf | ⟨id', hun⟩
    · exact .inl hf
    · exact .inr ⟨id', (hother id' user).mpr hun⟩

theorem covered_step_iff {f' : Flight Core LockSection} {a : Sections.Act LockCall Bool}
    (h : Covered f) (hstep : lockStep f a = some f') : Covered f' ↔ ¬ StaleMark f a := by
  rcases flightStep_cases hstep with ⟨id, call, rfl, hfree, rfl⟩ | ⟨id, fails, p, rfl, hcall, rfl⟩
  · refine iff_of_true (h.stay _ ?_) not_false
    intro user hun
    rw [hfree] at hun
    cases hun
  · have hnot : (∀ user, p ≠ .mark user) → ¬ StaleMark f (.advance id fails) := by
      rintro hne ⟨user, hmark, -⟩
      rw [hcall] at hmark
      exact hne user (Option.some.inj hmark)
    cases p with
    | write isLocked clientId => exact iff_of_true (h.write hcall fails) (hnot nofun)
    | check clientId => exact iff_of_true (h.check hcall fails) (hnot nofun)
    | unmark clientId => exact iff_of_true (h.unmark hcall) (hnot nofun)
    | mark clientId =>
      refine (covered_mark_iff h hcall).trans ?_
      constructor
      · rintro hfine ⟨user, hmark, hflag, hnone⟩
        rw [hcall] at hmark
        cases hmark
        rcases hfine with hf | ⟨other, hun⟩
        · exact hflag hf
        · exact hnone other hun
      · intro hfresh
        by_contra hbad
        obtain ⟨hflag, hnone⟩ := not_or.mp hbad
        exact hfresh ⟨clientId, hcall, hflag, fun other hun => hnone ⟨other, hun⟩⟩

theorem staleMark_enabled {a : Sections.Act LockCall Bool} (h : StaleMark f a) :
    ∃ f', lockStep f a = some f' := by
  cases a with
  | begin id call => cases h
  | advance id fails =>
    obtain ⟨user, hcall, -⟩ := h
    exact ⟨_, flightStep_advance hcall fails⟩

/-! ## whole runs -/

/-- the set holds flagged users only, and `isClientLocked` answers with the flag of the table
wherever its `Storage` call does not throw -/
def CopiesAgree (c : Core) : Prop :=
  MarksFlagged c ∧ ∀ (s : St) (clientId : String), s.core = c → (s.env 0).fails = false →
    ((isClientLocked clientId).run s).1 = .ok (c.lockFlag clientId)

theorem copiesAgree_of_marksFlagged {c : Core} (h : MarksFlagged c) : CopiesAgree c := by
  refine ⟨h, ?_⟩
  rintro s clientId rfl hok
  unfold isClientLocked
  rw [Prog.run_bind, Prog.run_get]
  dsimp only
  by_cases hin : clientId ∈ s.core.manager.lockedClients
  · rw [if_pos hin, (lockFlag_iff s.core clientId).mpr (h clientId hin)]
    rfl
  · rw [if_neg hin, Prog.run_bind, run_storage_isClientLocked, hok]
    cases s.core.lockFlag clientId <;> rfl

/-- **Every marked client is flagged or about to be unmarked all along the run, and the two copies
agree whenever no call is in flight, exactly where no lock marks a client that an unlock has
cleared and left behind.** -/
theorem lock_copies_agree_iff {core : Core} (hstart : MarksFlagged core)
    (actions : List (Sections.Act LockCall Bool)) :
    Always lockStep (.atRest core) actions
        (fun f => Covered f ∧ (f.Idle → CopiesAgree f.shared)) ↔
      ¬ Occurred lockStep (.atRest core) actions StaleMark := by
  have hstart' : Covered (.atRest core) := fun user hu => .inl (hstart user hu)
  have hiff : Always lockStep (.atRest core) actions Covered ↔
      ¬ Occurred lockStep (.atRest core) actions StaleMark :=
    always_iff_not_occurred (I := fun _ => True) (G := fun _ => True) (fun _ _ => trivial) trivial
      (fun _ _ _ _ _ => trivial) hstart' (fun _ _ h => staleMark_enabled h)
      fun _ _ _ _ h _ hstep => covered_step_iff h hstep
  rw [← hiff]
  constructor
  · intro h
    exact h.mono fun _ hf => hf.1
  · intro h
    exact h.mono fun _ hf => ⟨hf, fun hidle => copiesAgree_of_marksFlagged (hf.agrees hidle)⟩

def quietDesk : Core := .boot aliceUsers .empty fun _ => "10.0.0.1"

theorem quietDesk_marksFlagged : MarksFlagged quietDesk := by
  intro user hu
  exact absurd hu (Finset.notMem_empty user)

/-- an alert locks alice while an admin's unlock of alice and a look at the lock are in flight; the
unlock runs after the lock -/
def lateUnlock : List (Sections.Act LockCall Bool) :=
  [.begin 0 (.lockClient "alice"), .begin 1 (.unlockClient "alice"), .advance 0 false,
    .begin 2 (.isClientLocked "alice"), .advance 0 false, .advance 1 false, .advance 2 false,
    .advance 1 false]

theorem lateUnlock_not_stale : ¬ Occurred lockStep (.atRest quietDesk) lateUnlock StaleMark := by
  have hother : ∀ f id fails, (∀ user, f.calls id ≠ some (.mark user)) →
      ¬ StaleMark f (.advance id fails) := by
    rintro f id fails hne ⟨user, hcall, -⟩
    exact hne user hcall
  refine not_occurred_cons id fun f hf => ?_
  cases hf
  refine not_occurred_cons id fun f hf => ?_
  cases hf
  refine not_occurred_cons (hother _ 0 false nofun) fun f hf => ?_
  cases hf
  refine not_occurred_cons id fun f hf => ?_
  cases hf
  refine not_occurred_cons ?_ fun f hf => ?_
  -- alice is marked while flagged
  · rintro ⟨user, hcall, hflag, -⟩
    cases hcall
    exact hflag ((lockFlag_iff _ _).mp (by decide))
  cases hf
  refine not_occurred_cons (hother _ 1 false nofun) fun f hf => ?_
  cases hf
  refine not_occurred_cons (hother _ 2 false nofun) fun f hf => ?_
  cases hf
  exact not_occurred_cons (hother _ 1 false nofun) fun f hf => not_occurred_nil _ _

theorem late_unlock_agrees :
    (runFrom lockStep (.atRest quietDesk) lateUnlock).isSome ∧
      Always lockStep (.atRest quietDesk) lateUnlock
        (fun f => Covered f ∧ (f.Idle → CopiesAgree f.shared)) :=
  ⟨by decide, (lock_copies_agree_iff quietDesk_marksFlagged lateUnlock).mpr lateUnlock_not_stale⟩

/-! An alert locks alice and an admin unlocks alice at the same time. -/

/-- the unlock runs between the two sections of the lock -/
def crossedUnlock : List (Sections.Act LockCall Bool) :=
  [.begin 0 (.lockClient "alice"), .begin 1 (.unlockClient "alice"), .advance 0 false,
    .advance 1 false, .advance 1 false, .advance 0 false]

theorem crossedUnlock_isSome : (runFrom lockStep (.atRest quietDesk) crossedUnlock).isSome := by
  decide

def crossedDesk : Flight Core LockSection :=
  (runFrom lockStep (.atRest quietDesk) crossedUnlock).get crossedUnlock_isSome

theorem crossed_unlock_leaves_mark :
    MarksFlagged quietDesk ∧
      runFrom lockStep (.atRest quietDesk) crossedUnlock = some crossedDesk ∧
      crossedDesk.Idle ∧
      "alice" ∈ crossedDesk.shared.manager.lockedClients ∧
      crossedDesk.shared.lockFlag "alice" = false ∧
      ¬ MarksFlagged crossedDesk.shared := by
  have hmarked : "alice" ∈ crossedDesk.shared.manager.lockedClients := by decide
  have hflag : crossedDesk.shared.lockFlag "alice" = false := by decide
  refine ⟨quietDesk_marksFlagged, (Option.some_get crossedUnlock_isSome).symm, ?_, hmarked, hflag,
    ?_⟩
  · intro id
    match id with
    | 0 => rfl
    | 1 => rfl
    | _ + 2 => rfl
  · intro h
    have htrue := (lockFlag_iff _ _).mpr (h "alice" hmarked)
    rw [hflag] at htrue
    cases htrue

end Logistics
