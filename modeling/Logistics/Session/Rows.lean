import Logistics.Session.Frame

/-!
# The rows of the inventory

The schema checks of a row of `inventory` only that its owner exists and that its texts are not
empty.  That the owner is no hub, that the item is in the catalogue and that the quantity is not
negative is left to the handlers; here it is shown of every row that any run can write.

* `RowValid`              what holds of a row;
* `Members`               a session that is logged in belongs to a user of the table;
* `stockAfter_isSome`     with both, no constraint refuses the row of a validated update;
* `inventory_rows_valid`  **every row is valid, in every run from an empty inventory**.
-/

namespace Logistics
open Runs

structure RowValid (c : Core) (key : StockKey) (quantity : Int32) : Prop where
  owner : (c.users.find? key.client).isSome
  notHub : isHub key.client = false
  listed : ∃ items, (key.category, items) ∈ validItems ∧ key.item ∈ items
  natural : 0 ≤ quantity.toInt
  bounded : quantity.toInt ≤ 2 ^ 31 - 1

def RowsValid (c : Core) : Prop :=
  ∀ key quantity, c.stock.find? key = some quantity → RowValid c key quantity

def Members (w : World) : Prop :=
  ∀ sid user, AuthenticatedAs w sid user → (w.core.users.find? user).isSome

variable {L : Libs} {cfg : Config} {me : String} {request : Json} {s : St} {c c' : Core} {e : Exn}

/-! ## the users stay -/

/-- every user of the one core is a user of the other -/
def UsersKept (c c' : Core) : Prop :=
  ∀ user, (c.users.find? user).isSome → (c'.users.find? user).isSome

theorem usersKept_of_insert? {users : Users} {user : String} {row : UserRow}
    (h : c.users.insert? user row = some users) : UsersKept c { c with users := users } := by
  have hadded := userAdded_of_insert? h
  intro user' hsome
  by_cases hu : user' = user
  · rw [hu, hadded.row]
    rfl
  · rw [hadded.others user' hu]
    exact hsome

theorem CommandEffect.usersKept (h : CommandEffect cfg me request s c) : UsersKept s.core c := by
  cases h with
  | none => exact fun _ => id
  | fill cache => exact fun _ => id
  | update category item quantity stock hub hst => exact fun _ => id
  | register user hash users admin hreg => exact usersKept_of_insert? hreg
  | unlock user hu =>
    intro user' hsome
    rw [(unlockClient_change user s).find?_isSome]
    exact hsome

theorem Stepped.usersKept {w : World} {i : Input} (h : Stepped L cfg w i c) : UsersKept w.core c := by
  cases h with
  | login what success hrow hl effect =>
    intro user hsome
    rw [effect.users.find?_isSome]
    exact hsome
  | guest what guest noLogin effect =>
    intro user hsome
    rw [effect.users.find?_isSome]
    exact hsome
  | invalid what member text_eq => exact fun _ => id
  | alert what noLock effect =>
    intro user hsome
    rw [effect.users]
    exact hsome
  | alertLock what call change effect =>
    intro user hsome
    rw [effect.users, change.find?_isSome]
    exact hsome
  | command what member text_eq effect =>
    have hkept := effect.usersKept
    rwa [received_core] at hkept

theorem setupServer_usersKept (L : Libs) (s : St) :
    UsersKept s.core ((setupServer L).run s).2.core := by
  obtain ⟨users, hcore, hsame | ⟨-, row, -, hins⟩⟩ := setupServer_core L s
  · rw [hcore, hsame]
    exact fun _ => id
  · rw [hcore]
    exact usersKept_of_insert? hins

theorem RowValid.mono {key : StockKey} {quantity : Int32} (h : RowValid c key quantity)
    (hkept : UsersKept c c') : RowValid c' key quantity :=
  ⟨hkept key.client h.owner, h.notHub, h.listed, h.natural, h.bounded⟩

theorem RowsValid.mono (h : RowsValid c) (hstock : c'.stock = c.stock) (hkept : UsersKept c c') :
    RowsValid c' := by
  intro key quantity hrow
  rw [hstock] at hrow
  exact (h key quantity hrow).mono hkept

/-! ## what an update writes -/

theorem listed_of_valid {category item : String}
    (h : (validateInventory category item).success = true) :
    ∃ items, (category, items) ∈ validItems ∧ item ∈ items := by
  unfold validateInventory at h
  cases hlookup : validItems.lookup category with
  | none => simp [hlookup] at h
  | some items =>
    obtain ⟨before, after, hsplit, -⟩ := List.lookup_eq_some_iff.mp hlookup
    refine ⟨items, ?_, ?_⟩
    · rw [hsplit]
      exact List.mem_append_right before List.mem_cons_self
    · by_contra hitem
      simp [hlookup, hitem] at h

theorem natural_of_not_neg {quantity : Int32} (h : ¬ quantity < 0) : 0 ≤ quantity.toInt := by
  have hle := Int32.le_iff_toInt_le.mp (Int32.not_lt.mp h)
  rwa [Int32.toInt_zero] at hle

/-- **A command of a user of the table keeps the rows valid.** -/
theorem CommandOutcome.rowsValid {answer : Reply} (h : CommandOutcome L cfg me request c answer c')
    (hme : (c.users.find? me).isSome) (hrows : RowsValid c) (hkept : UsersKept c c') :
    RowsValid c' := by
  cases h with
  | @updated category item quantity stock success command hub fields natural valid saved =>
    intro key quantity' hrow
    have hset := rowSet_of_stockAfter saved (c.cache.store me category item quantity)
    by_cases hkey : key = ⟨me, category, item⟩
    · subst hkey
      rw [hset.row] at hrow
      obtain rfl := Option.some.inj hrow
      have hupper := Int32.toInt_lt quantity
      exact ⟨hme, hub, listed_of_valid valid, natural_of_not_neg natural, by omega⟩
    · rw [hset.others key hkey] at hrow
      exact (hrows key quantity' hrow).mono hkept
  | refused error => exact hrows
  | read success command reads coherent => exact hrows.mono rfl hkept
  | unlocked success command admin fields found saved => exact hrows.mono rfl hkept
  | registered success command admin fields saved => exact hrows.mono rfl hkept

/-! ## every run -/

/-- the invariant -/
structure Stocked (w : World) : Prop where
  rows : RowsValid w.core
  members : Members w

section Runs
variable {L : Libs} {cfg : Config} {w : World}

theorem LogsIn.registered {sid : Nat} {user : String} {i : Input}
    (h : LogsIn L cfg sid user w i) : (w.core.users.find? user).isSome := by
  obtain ⟨text, -, hcall⟩ := h
  obtain ⟨answer, s', row, -, -, hrow, -, -⟩ := processMessage_login hcall
  have hrow' : w.core.users.find? user = some row := hrow
  rw [hrow']
  rfl

theorem Stepped.members {i : Input} (h : Stepped L cfg w i c) (hw : Members w) (j : Journal) :
    Members ⟨c, j⟩ := by
  intro sid user ha
  apply h.usersKept
  rcases (authenticatedAs_step h sid user).mp ha with hbefore | hlogin
  · exact hw sid user hbefore
  · exact hlogin.registered

theorem stocked_input (i : Input) (hw : Stocked w) (j : Journal) :
    Stocked ⟨after L cfg w i, j⟩ := by
  have hstepped := stepped_after L cfg w i
  refine ⟨?_, hstepped.members hw.members j⟩
  show RowsValid (after L cfg w i)
  cases happened_after L cfg w i with
  | aside stock cache => exact hw.rows.mono stock hstepped.usersKept
  | @command sid text request answer what member text_eq outcome =>
    have hme := hw.members sid (w.core.sessions sid).clientID ⟨member, rfl⟩
    exact outcome.rowsValid hme hw.rows hstepped.usersKept

/-- no session is logged in after a restart -/
theorem members_restart (L : Libs) (ips : Nat → String) (env : Nat → Answer) (w : World) :
    Members ((setupServer L).run ((w.reopened ips).facing env)).2.world := by
  obtain ⟨users, hcore, -⟩ := setupServer_core L ((w.reopened ips).facing env)
  rintro sid user ⟨hauth, -⟩
  have hfresh : ((setupServer L).run ((w.reopened ips).facing env)).2.core.sessions sid =
      .fresh (ips sid) := by
    rw [hcore]
    rfl
  have hauth' : (((setupServer L).run ((w.reopened ips).facing env)).2.core.sessions
      sid).isAuthenticated = true := hauth
  rw [hfresh] at hauth'
  cases hauth'

theorem members_run {core : Core} {journal : Journal} {ips : Nat → String}
    {inputs : List LifeInput}
    (h : runFrom (lifeStep L cfg) (.start core journal ips) inputs = some w) : Members w := by
  refine lifeStep_invariant (I := Members) ?_ (fun w ips env _ => members_restart L ips env w) ?_
    inputs w h
  · intro w i j hw
    exact (stepped_after L cfg w i).members hw j
  · rintro sid user ⟨hauth, -⟩
    cases hauth

theorem stocked_restart (L : Libs) (ips : Nat → String) (env : Nat → Answer) (hw : Stocked w) :
    Stocked ((setupServer L).run ((w.reopened ips).facing env)).2.world := by
  have hkept := setupServer_usersKept L ((w.reopened ips).facing env)
  obtain ⟨users, hcore, -⟩ := setupServer_core L ((w.reopened ips).facing env)
  refine ⟨?_, members_restart L ips env w⟩
  have hstock : ((setupServer L).run ((w.reopened ips).facing env)).2.core.stock =
      w.core.stock := by
    rw [hcore]
    rfl
  exact hw.rows.mono hstock hkept

theorem stocked_run {core : Core} {journal : Journal} {ips : Nat → String}
    {inputs : List LifeInput}
    (h : runFrom (lifeStep L cfg) (.start { core with stock := .empty } journal ips) inputs =
      some w) : Stocked w := by
  refine lifeStep_invariant (I := Stocked) (fun _ i j hw => stocked_input i hw j)
    (fun _ ips env hw => stocked_restart L ips env hw) ⟨?_, ?_⟩ inputs w h
  · intro key quantity hrow
    cases hrow
  · rintro sid user ⟨hauth, -⟩
    cases hauth

end Runs

/-! ## no constraint refuses an update -/

theorem catalogue_named :
    ∀ e ∈ validItems, 0 < sqlLength e.1 ∧ ∀ item ∈ e.2, 0 < sqlLength item := by
  decide

theorem stockAfter_isSome {user category item : String} (huser : (c.users.find? user).isSome)
    (hvalid : (validateInventory category item).success = true) (quantity : Int32) :
    ∃ stock, stockAfter c user category item quantity = some stock := by
  obtain ⟨row, hrow⟩ := Option.isSome_iff_exists.mp huser
  obtain ⟨items, hcategory, hitem⟩ := listed_of_valid hvalid
  have hnamed := catalogue_named (category, items) hcategory
  have hcheck : stockCheck ⟨user, category, item⟩ quantity :=
    ⟨(c.users.checked user row hrow).1, hnamed.1, hnamed.2 item hitem⟩
  unfold stockAfter
  rw [hrow, Table.upsert?_eq_some c.stock hcheck]
  exact ⟨_, rfl⟩

theorem dispatch_update_stock (L : Libs) (cfg : Config) (request : Json) (me : String) :
    dispatch L cfg request me false "update_stock" = handleUpdateStockCommand L request me := by
  unfold dispatch
  simp

theorem refuse_returns (L : Libs) (message note clientId : String) (s : St) :
    (refuse L message note clientId).Returns s := by
  simp [refuse, Prog.Returns, Prog.run_bind, run_log, incrementError]

/-- what leaves a `catch (const json::exception &)` that returns is of the database -/
theorem catchJson_error {α : Type} {p : M α} {handler : JsonError → M α}
    (hh : ∀ e s, (handler e).Returns s) (h : ((catchJson p handler).run s).1 = .error e) :
    ∃ e', e = .sqlite e' ∧ (p.run s).1 = .error (.sqlite e') := by
  unfold catchJson at h
  rw [Prog.run_tryCatch] at h
  generalize p.run s = r at h ⊢
  obtain ⟨r, s'⟩ := r
  cases r with
  | ok a => cases h
  | error thrown =>
    cases thrown with
    | json thrown =>
      obtain ⟨a, s'', hret⟩ := hh thrown s'
      have h' : ((handler thrown).run s').1 = .error e := h
      rw [hret] at h'
      cases h'
    | sqlite thrown =>
      cases h
      exact ⟨thrown, rfl, rfl⟩

/-- an `updateStock` for a user of the table throws only where its save fails -/
theorem updateStock_error {category item : String} {quantity : Int32} {e : Exn}
    (hs : (s.core.users.find? me).isSome)
    (h : ((updateStock me category item quantity).run s).1 = .error e) :
    e = .sqlite .failure ∧ (s.env 0).fails = true := by
  by_cases hq : quantity < 0
  · rw [run_updateStock_negative me category item hq] at h
    cases h
  · cases hv : (validateInventory category item).success with
    | false =>
      rw [run_updateStock_invalid me hq hv] at h
      cases h
    | true =>
      obtain ⟨stock, hstock⟩ := stockAfter_isSome hs hv quantity
      rw [run_updateStock_valid me hq hv, hstock] at h
      cases hf : (s.env 0).fails with
      | true =>
        simp only [hf, if_true] at h
        exact ⟨(Except.error.inj h).symm, rfl⟩
      | false => simp [hf] at h

theorem handleUpdateStockCommand_error (hs : (s.core.users.find? me).isSome)
    (h : ((handleUpdateStockCommand L request me).run s).1 = .error e) :
    e = .sqlite .failure ∧ (s.env 0).fails = true := by
  unfold handleUpdateStockCommand at h
  cases hub : isHub me with
  | true =>
    simp only [hub, if_true] at h
    obtain ⟨a, s', hret⟩ := refuse_returns L "update_stock command is not allowed for Hub clients."
      "update_stock command is not allowed for Hub clients." me s
    rw [hret] at h
    cases h
  | false =>
    simp only [hub, Bool.false_eq_true, if_false] at h
    obtain ⟨e', rfl, hbody⟩ := catchJson_error (fun _ s => refuse_returns L _ _ me s) h
    cases hf : updateFields L.floatCast request with
    | error thrown =>
      rw [hf] at hbody
      cases hbody
    | ok fields =>
      obtain ⟨category, item, quantity⟩ := fields
      rw [hf, json_ok_bind] at hbody
      dsimp only at hbody
      rw [Prog.run_bind] at hbody
      have herror := @updateStock_error me s category item quantity
      generalize (updateStock me category item quantity).run s = r at hbody herror
      obtain ⟨r, s'⟩ := r
      cases r with
      | error thrown =>
        cases hbody
        exact herror hs rfl
      | ok result =>
        unfold updateStockReply at hbody
        cases hsuccess : result.success <;> simp [hsuccess, Prog.run_bind, incrementError] at hbody

/-! ## the table over whole runs -/

/-- the rows of the table are valid, and an `update_stock` of a session that is logged in violates
no constraint: its save goes through where the database takes it, and the command throws only where
a call fails -/
structure InventorySound (L : Libs) (cfg : Config) (w : World) : Prop where
  rows : RowsValid w.core
  saves : ∀ sid user, AuthenticatedAs w sid user → ∀ category item quantity env,
    (validateInventory category item).success = true → (env 0).fails = false →
      ((saveStockUpdate user category item quantity).run (w.facing env)).1 = .ok ()
  throws : ∀ sid user, AuthenticatedAs w sid user → ∀ request env e,
    request.atString "command" = .ok "update_stock" →
      ((processCommand L cfg request user false).run (received L request (w.facing env))).1 =
        .error e → e = .sqlite .failure ∧ ∃ n, (env n).fails = true

theorem Stocked.sound {w : World} (h : Stocked w) : InventorySound L cfg w where
  rows := h.rows
  saves sid user ha category item quantity env hvalid hfails := by
    obtain ⟨stock, hstock⟩ := stockAfter_isSome (h.members sid user ha) hvalid quantity
    have hstock' : stockAfter (w.facing env).core user category item quantity = some stock := hstock
    have hfails' : ((w.facing env).env 0).fails = false := hfails
    rw [run_saveStockUpdate, hfails', hstock']
    rfl
  throws sid user ha request env e hcmd herror := by
    rw [processCommand_eq_dispatch L cfg hcmd, dispatch_update_stock] at herror
    have huser : ((received L request (w.facing env)).core.users.find? user).isSome := by
      rw [received_core]
      exact h.members sid user ha
    obtain ⟨he, hfails⟩ := handleUpdateStockCommand_error huser herror
    rw [received_env] at hfails
    exact ⟨he, 2, hfails⟩

/-- **The inventory table is sound in every state that messages of any sessions, alerts and restarts
lead to from an empty inventory.** -/
theorem inventory_rows_valid (L : Libs) (cfg : Config) (core : Core) (journal : Journal)
    (ips : Nat → String) (inputs : List LifeInput) (w : World)
    (hrun : runFrom (lifeStep L cfg) (.start { core with stock := .empty } journal ips) inputs =
      some w) : InventorySound L cfg w :=
  (stocked_run hrun).sound

/-! Alice logs in and reports five units of water. -/

def aliceStocks : List LifeInput :=
  [.input ⟨.message 0 (bytesOf aliceLogin.render), healthy⟩,
    .input ⟨.message 0 (bytesOf waterUpdate.render), healthy⟩]

theorem aliceStocks_isSome :
    (runFrom (lifeStep (.known [aliceLogin, waterUpdate]) .sample) aliceStart aliceStocks).isSome :=
  rfl

def aliceStocked : World :=
  (runFrom (lifeStep (.known [aliceLogin, waterUpdate]) .sample) aliceStart aliceStocks).get
    aliceStocks_isSome

theorem inventory_rows_valid_alice :
    aliceStocked.core.stock.find? ⟨"alice", "food", "water"⟩ = some 5 ∧
      InventorySound (.known [aliceLogin, waterUpdate]) .sample aliceStocked :=
  ⟨by decide, inventory_rows_valid (.known [aliceLogin, waterUpdate]) .sample
    (.boot aliceUsers .empty fun _ => "") .empty (fun _ => "10.0.0.1") aliceStocks aliceStocked
    (Option.some_get aliceStocks_isSome).symm⟩

end Logistics
