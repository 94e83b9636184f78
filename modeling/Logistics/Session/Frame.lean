import Logistics.Session.Access
import Logistics.Session.Outcome
import Logistics.Session.Restart

/-!
# What a command leaves alone

`Reachable` are the states of the server: any tables and any registry, and a cache that was empty
once and has been used ever since.  In such a state the cache shows the table (`CacheShows`):
`getStock` and `getInventorySummary` answer as if there were no cache.

* `reachable_coherent`  the cache of a reachable state is coherent with the table;
* `CommandFrame`        what a command may change, by the status of its reply and its name;
* `command_frame`       **an error changes nothing, and a success only what it names**.
-/

namespace Logistics
open Runs

/-! ## reachable states -/

def Reachable (L : Libs) (cfg : Config) (w : World) : Prop :=
  ∃ (w₀ : World) (inputs : List LifeInput),
    runFrom (lifeStep L cfg) w₀.uncached inputs = some w

section Coherence
variable {L : Libs} {cfg : Config}

theorem CommandOutcome.coherent {me : String} {request : Json} {c c' : Core} {answer : Reply}
    (h : CommandOutcome L cfg me request c answer c') (hc : Coherent c.stock c.cache) :
    Coherent c'.stock c'.cache := by
  cases h with
  | refused error => exact hc
  | read success command reads coherent => exact coherent hc
  | @updated category item quantity stock success command hub fields natural valid saved =>
    exact @Coherent.store c.stock c.cache hc stock ⟨me, category, item⟩ quantity
      (find?_stockAfter saved)
  | unlocked success command admin fields found saved => exact hc
  | registered success command admin fields saved => exact hc

theorem after_coherent {w : World} (i : Input) (hw : Coherent w.core.stock w.core.cache) :
    Coherent (after L cfg w i).stock (after L cfg w i).cache := by
  cases happened_after L cfg w i with
  | aside stock cache =>
    rw [stock, cache]
    exact hw
  | command what member text_eq outcome => exact outcome.coherent hw

theorem restart_coherent (L : Libs) (w : World) (ips : Nat → String) (env : Nat → Answer) :
    Coherent ((setupServer L).run ((w.reopened ips).facing env)).2.core.stock
      ((setupServer L).run ((w.reopened ips).facing env)).2.core.cache := by
  obtain ⟨users, hcore, -⟩ := setupServer_core L ((w.reopened ips).facing env)
  rw [hcore]
  exact coherent_empty w.core.stock

theorem reachable_coherent {w : World} (h : Reachable L cfg w) :
    Coherent w.core.stock w.core.cache := by
  obtain ⟨w₀, inputs, hrun⟩ := h
  exact lifeStep_invariant (I := fun w => Coherent w.core.stock w.core.cache)
    (fun _ i _ hw => after_coherent i hw) (fun w ips env _ => restart_coherent L w ips env)
    (coherent_empty w₀.core.stock) inputs w hrun

end Coherence

/-! ## the cache as its callers see it -/

/-- what a call of `Inventory` answers in the core, on a database without faults -/
def inventoryReply (c : Core) (call : InventoryCall) : Except Exn InventoryReply :=
  (call.perform.run ((⟨c, .empty⟩ : World).facing healthy)).1

/-- the two read functions answer as the table would -/
structure CacheShows (c : Core) : Prop where
  stock : ∀ client category item, inventoryReply c (.getStock client category item) =
    .ok (.stock (c.stock.find? ⟨client, category, item⟩))
  summary : ∀ client, inventoryReply c (.getInventorySummary client) =
    .ok (.summary (plainSummary c.stock.find? client))

/-- a read of a coherent cache, where no `Storage` call fails -/
theorem inventoryReply_of_coherent {c : Core} (h : Coherent c.stock c.cache) {call : InventoryCall}
    (hread : ∀ client category item quantity, call ≠ .updateStock client category item quantity) :
    inventoryReply c call = (plainStep c.stock.find? (call, none)).1 := by
  have href := perform_refined (s := (⟨c, .empty⟩ : World).facing healthy) h call
  rcases href with ⟨e, -, -, hfault⟩ | ⟨answer, hanswer, hplain, -⟩
  · rcases hfault with ⟨-, n, hfails⟩ | ⟨-, client, category, item, quantity, hcall, -⟩
    · exact absurd hfails Bool.false_ne_true
    · exact absurd hcall (hread client category item quantity)
  · have hfirst := congrArg Prod.fst hplain
    exact hanswer.trans hfirst.symm

theorem cacheShows_of_coherent {c : Core} (h : Coherent c.stock c.cache) : CacheShows c where
  stock client category item :=
    inventoryReply_of_coherent h fun _ _ _ _ hcall => by cases hcall
  summary client := inventoryReply_of_coherent h fun _ _ _ _ hcall => by cases hcall

/-- what the two read functions answer is the same in both cores -/
structure SameReads (c c' : Core) : Prop where
  stock : ∀ client category item, inventoryReply c' (.getStock client category item) =
    inventoryReply c (.getStock client category item)
  summary : ∀ client, inventoryReply c' (.getInventorySummary client) =
    inventoryReply c (.getInventorySummary client)

theorem sameReads_of_stock {c c' : Core} (h : CacheShows c) (h' : CacheShows c')
    (hstock : c'.stock = c.stock) : SameReads c c' where
  stock client category item := by rw [h.stock, h'.stock, hstock]
  summary client := by rw [h.summary, h'.summary, hstock]

/-! ## the frame -/

/-- the row `key` is set to `quantity`; no other row of the inventory changes, and no user -/
structure RowSet (key : StockKey) (quantity : Int32) (c c' : Core) : Prop where
  row : c'.stock.find? key = some quantity
  others : ∀ key', key' ≠ key → c'.stock.find? key' = c.stock.find? key'
  users : c'.users = c.users
  lockedClients : c'.manager.lockedClients = c.manager.lockedClients

/-- the row `row` of the new user `user` is added, and no other row of the table changes -/
structure UserAdded (user : String) (row : UserRow) (c c' : Core) : Prop where
  fresh : c.users.find? user = none
  row : c'.users.find? user = some row
  others : ∀ user', user' ≠ user → c'.users.find? user' = c.users.find? user'
  stock : c'.stock = c.stock
  lockedClients : c'.manager.lockedClients = c.manager.lockedClients

/-- the lock flag of `user` is cleared, in the table and in `m_lockedClients`, and nothing else -/
structure FlagCleared (user : String) (c c' : Core) : Prop where
  row : ∃ row, c.users.find? user = some row ∧
    c'.users.find? user = some { row with isLocked := 0 }
  others : ∀ user', user' ≠ user → c'.users.find? user' = c.users.find? user'
  stock : c'.stock = c.stock
  lockedClients : c'.manager.lockedClients = c.manager.lockedClients.erase user

structure CommandFrame (L : Libs) (cfg : Config) (me : String) (request : Json) (c : Core)
    (answer : Reply) (c' : Core) : Prop where
  status : answer.status = some "error" ∨ answer.status = some "success"
  error : answer.status = some "error" → c' = c
  updateStock : answer.status = some "success" →
    request.atString "command" = .ok "update_stock" →
      ∃ category item quantity,
        updateFields L.floatCast request = .ok (category, item, quantity) ∧
          RowSet ⟨me, category, item⟩ quantity c c'
  registerUser : answer.status = some "success" →
    request.atString "command" = .ok "register_user" →
      ∃ user password salt, registerFields request = .ok (user, password) ∧
        UserAdded user ⟨L.generateHash salt password, 0, 0, 0⟩ c c'
  unlockClient : answer.status = some "success" →
    request.atString "command" = .ok "unlock_client" →
      ∃ user, unlockFields request = .ok (cfg.secretPhrase, user) ∧ FlagCleared user c c'
  other : answer.status = some "success" →
    (∀ cmd, request.atString "command" = .ok cmd → ¬ changesTable cmd) →
      c'.users = c.users ∧ c'.stock = c.stock ∧ c'.manager = c.manager

/-- the same for what is read through the cache: only a successful `update_stock` changes it, and
then it shows the table with the new row -/
structure ReadFrame (request : Json) (c : Core) (answer : Reply) (c' : Core) : Prop where
  before : CacheShows c
  after : CacheShows c'
  same : ¬ (answer.status = some "success" ∧ request.atString "command" = .ok "update_stock") →
    SameReads c c'

section Frame
variable {L : Libs} {cfg : Config} {me : String} {request : Json} {c c' : Core} {answer : Reply}

theorem not_success_of_error (h : answer.status = some "error") :
    answer.status ≠ some "success" := by
  rw [h]
  decide

theorem rowSet_of_stockAfter {category item : String} {quantity : Int32} {stock : Stock}
    (h : stockAfter c me category item quantity = some stock) (cache : Cache) :
    RowSet ⟨me, category, item⟩ quantity c { c with stock := stock, cache := cache } where
  row := by
    show stock.find? _ = _
    rw [find?_stockAfter h, if_pos rfl]
  others key' hne := by
    show stock.find? _ = _
    rw [find?_stockAfter h, if_neg hne]
  users := rfl
  lockedClients := rfl

theorem userAdded_of_insert? {user : String} {row : UserRow} {users : Users}
    (h : c.users.insert? user row = some users) : UserAdded user row c { c with users := users } := by
  obtain ⟨hfresh, hcheck, rfl⟩ := Table.insert?_cases h
  refine ⟨hfresh, Table.find?_put_self c.users user row hcheck, ?_, rfl, rfl⟩
  intro user' hne
  exact Table.find?_put_of_ne c.users row hcheck hne

theorem flagCleared_of_update? {user : String} {row : UserRow} {users : Users}
    (hrow : c.users.find? user = some row)
    (h : c.users.update? user (UserRow.setLocked false) = some users) :
    FlagCleared user c { c with
      users := users
      manager := { c.manager with lockedClients := c.manager.lockedClients.erase user } } := by
  rcases Table.update?_cases h with ⟨hnone, -⟩ | ⟨row', hcheck, hrow', rfl⟩
  · rw [hrow] at hnone
    cases hnone
  · rw [hrow] at hrow'
    obtain rfl := Option.some.inj hrow'
    refine ⟨⟨row, hrow, Table.find?_put_self c.users user _ hcheck⟩, ?_, rfl, rfl⟩
    intro user' hne
    exact Table.find?_put_of_ne c.users _ hcheck hne

/-- a success of one command is none of another -/
theorem command_ne {cmd cmd' : String} (h : request.atString "command" = .ok cmd)
    (hne : cmd ≠ cmd') : request.atString "command" ≠ .ok cmd' := by
  intro h'
  exact hne (Except.ok.inj (h.symm.trans h'))

theorem CommandOutcome.frame (h : CommandOutcome L cfg me request c answer c') :
    CommandFrame L cfg me request c answer c' := by
  cases h with
  | refused error =>
    have hno := not_success_of_error error
    exact ⟨.inl error, fun _ => rfl, fun hs => absurd hs hno, fun hs => absurd hs hno,
      fun hs => absurd hs hno, fun hs => absurd hs hno⟩
  | @read cmd cache success command reads coherent =>
    refine ⟨.inr success, fun he => absurd success (not_success_of_error he), ?_, ?_, ?_,
      fun _ _ => ⟨rfl, rfl, rfl⟩⟩
    · intro _ hcmd
      exact absurd hcmd (command_ne command fun he => reads (.inl he))
    · intro _ hcmd
      exact absurd hcmd (command_ne command fun he => reads (.inr (.inl he)))
    · intro _ hcmd
      exact absurd hcmd (command_ne command fun he => reads (.inr (.inr he)))
  | @updated category item quantity stock success command hub fields natural valid saved =>
    refine ⟨.inr success, fun he => absurd success (not_success_of_error he), ?_, ?_, ?_, ?_⟩
    · intro _ _
      exact ⟨category, item, quantity, fields, rowSet_of_stockAfter saved _⟩
    · intro _ hcmd
      exact absurd hcmd (command_ne command (by decide))
    · intro _ hcmd
      exact absurd hcmd (command_ne command (by decide))
    · intro _ hother
      exact absurd (.inl rfl) (hother _ command)
  | @unlocked user row users success command admin fields found saved =>
    refine ⟨.inr success, fun he => absurd success (not_success_of_error he), ?_, ?_, ?_, ?_⟩
    · intro _ hcmd
      exact absurd hcmd (command_ne command (by decide))
    · intro _ hcmd
      exact absurd hcmd (command_ne command (by decide))
    · intro _ _
      exact ⟨user, fields, flagCleared_of_update? found saved⟩
    · intro _ hother
      exact absurd (.inr (.inr rfl)) (hother _ command)
  | @registered user password salt users success command admin fields saved =>
    refine ⟨.inr success, fun he => absurd success (not_success_of_error he), ?_, ?_, ?_, ?_⟩
    · intro _ hcmd
      exact absurd hcmd (command_ne command (by decide))
    · intro _ _
      exact ⟨user, password, salt, fields, userAdded_of_insert? saved⟩
    · intro _ hcmd
      exact absurd hcmd (command_ne command (by decide))
    · intro _ hother
      exact absurd (.inr (.inl rfl)) (hother _ command)

theorem CommandOutcome.stock_eq (h : CommandOutcome L cfg me request c answer c')
    (hno : ¬ (answer.status = some "success" ∧
      request.atString "command" = .ok "update_stock")) : c'.stock = c.stock := by
  cases h with
  | updated success command hub fields natural valid saved => exact absurd ⟨success, command⟩ hno
  | _ => rfl

theorem CommandOutcome.readFrame (h : CommandOutcome L cfg me request c answer c')
    (hc : Coherent c.stock c.cache) : ReadFrame request c answer c' := by
  have hbefore := cacheShows_of_coherent hc
  have hafter := cacheShows_of_coherent (h.coherent hc)
  exact ⟨hbefore, hafter, fun hno => sameReads_of_stock hbefore hafter (h.stock_eq hno)⟩

end Frame

/-- **Every request of a logged-in session is answered; an error reply leaves the core as it was,
and a success changes what its command names.**  The tables and `m_lockedClients` in any state
whatever; what is read through the cache in any state the server can be in. -/
theorem command_frame (L : Libs) (cfg : Config) (w : World) (env : Nat → Answer) (sid : Nat)
    (text : Bytes) (request : Json) (hp : L.parse text = some request)
    (ha : (w.core.sessions sid).isAuthenticated = true) :
    ∃ answer keep s', (processMessage L cfg sid text).run (w.facing env) = (.ok (answer, keep), s') ∧
      CommandFrame L cfg (w.core.sessions sid).clientID request w.core answer s'.core ∧
      (Reachable L cfg w → ReadFrame request w.core answer s'.core) := by
  obtain ⟨answer, keep, s', hrun, houtcome⟩ :=
    @processMessage_outcome L cfg sid text request (w.facing env) hp ha
  refine ⟨answer, keep, s', hrun, houtcome.frame, ?_⟩
  intro hw
  exact houtcome.readFrame (reachable_coherent hw)

/-! Alice, logged in, reports five units of water. -/

def waterUpdate : Json := .obj [("command", .str "update_stock"),
  ("payload", .obj [("category", .str "food"), ("item", .str "water"), ("quantity", .int 5)])]

theorem command_frame_alice : Reachable (.known [waterUpdate]) .sample aliceWorld.uncached ∧
    ∃ answer keep s', (processMessage (.known [waterUpdate]) .sample 0
        (bytesOf waterUpdate.render)).run (aliceWorld.uncached.facing healthy) =
          (.ok (answer, keep), s') ∧
      CommandFrame (.known [waterUpdate]) .sample "alice" waterUpdate aliceWorld.uncached.core answer
        s'.core ∧
      (Reachable (.known [waterUpdate]) .sample aliceWorld.uncached →
        ReadFrame waterUpdate aliceWorld.uncached.core answer s'.core) :=
  ⟨⟨aliceWorld, [], rfl⟩, command_frame (.known [waterUpdate]) .sample aliceWorld.uncached healthy 0
    (bytesOf waterUpdate.render) waterUpdate rfl rfl⟩

end Logistics
