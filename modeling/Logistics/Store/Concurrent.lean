import Logistics.Lib.Sections
import Logistics.Store.Refine

/-!
# Inventory calls in parallel

Any number of calls are in flight; each mutex-protected section is one atomic step: one `Storage`
call under `m_dbMutex`, one access to the cache under `m_mutex`, the whole body of
`getInventorySummary` under `m_mutex`.  A log entry is a `Storage` call of its own that touches
neither the table nor the cache, and is left out.

`updateStock` and `getStock` both end in the assignment `m_inventories[..][..][..] = quantity`, in
a section of its own: between their `Storage` section and that one (`Pending.store`) the quantity
they carry can go out of date.

* `Shop`, `shopStep`          the calls in flight and their next sections;
* `serial_call`               a call whose sections run without interruption is the sequential call;
* `Settling`                  a quantity still to be cached is the one in the table;
* `cache_agrees_at_rest`      **the cache agrees at rest where no save meets such a quantity**;
* `overtaken_update_hides_table`   the second save between the two sections of the first.
-/

namespace Logistics
open Runs Sections

/-! ## calls in flight -/

/-- what a call in flight does next -/
inductive Pending where
  | save (key : StockKey) (quantity : Int32)
  | lookup (key : StockKey)
  | read (key : StockKey)
  | store (key : StockKey) (quantity : Int32)
  | summary (clientId : String)

/-- a call up to its first section; `none` for a rejected update, which has returned -/
def firstSection : InventoryCall → Option Pending
  | .updateStock clientId category item quantity =>
    if quantity < 0 then none
    else if (validateInventory category item).success = false then none
    else some (.save ⟨clientId, category, item⟩ quantity)
  | .getStock clientId category item => some (.lookup ⟨clientId, category, item⟩)
  | .getInventorySummary clientId => some (.summary clientId)

/-- one section: the core after it and what the call does next -/
def runSection (core : Core) (fails : Bool) : Pending → Core × Option Pending
  | .save key quantity =>
    if fails then (core, none)
    else
      match stockAfter core key.client key.category key.item quantity with
      | none => (core, none)
      | some stock => ({ core with stock := stock }, some (.store key quantity))
  | .lookup key =>
    match core.cache.stock? key.client key.category key.item with
    | some _ => (core, none)
    | none => (core, some (.read key))
  | .read key =>
    if fails then (core, none)
    else
      match core.stock.find? key with
      | none => (core, none)
      | some quantity => (core, some (.store key quantity))
  | .store key quantity =>
    ({ core with cache := core.cache.store key.client key.category key.item quantity }, none)
  | .summary clientId =>
    if clientId ∈ core.cache.fullyCachedClients then (core, none)
    else if fails then (core, none)
    else
      match fullInventoryOf core.stock clientId with
      | none => (core, none)
      | some map => ({ core with cache := core.cache.load clientId map }, none)

abbrev Shop := Flight Core Pending

abbrev ShopAction := Sections.Act InventoryCall Bool

abbrev shopStep : Shop → ShopAction → Option Shop := flightStep firstSection runSection

/-- every cached quantity is the one in the table -/
def CacheAgrees (core : Core) : Prop :=
  ∀ (key : StockKey) quantity,
    core.cache.stock? key.client key.category key.item = some quantity →
      core.stock.find? key = some quantity

/-! ## one call alone -/

theorem sections_updateStock (s : St) (clientId category item : String) (quantity : Int32) :
    ∃ outcomes, callRun runSection s.core
      (firstSection (.updateStock clientId category item quantity)) outcomes =
        some ((updateStock clientId category item quantity).run s).2.core := by
  simp only [firstSection]
  by_cases hq : quantity < 0
  · refine ⟨[], ?_⟩
    rw [if_pos hq, run_updateStock_negative clientId category item hq, St.logged_core]
    rfl
  · rw [if_neg hq]
    cases hv : (validateInventory category item).success with
    | false =>
      refine ⟨[], ?_⟩
      rw [if_pos rfl, run_updateStock_invalid clientId hq hv]
      rfl
    | true =>
      rw [if_neg (by decide), run_updateStock_valid clientId hq hv]
      cases (s.env 0).fails with
      | true => exact ⟨[true], rfl⟩
      | false =>
        simp only [Bool.false_eq_true, if_false]
        cases hst : stockAfter s.core clientId category item quantity with
        | none =>
          refine ⟨[false], ?_⟩
          simp only [callRun, runSection, hst]
          rfl
        | some stock =>
          refine ⟨[false, false], ?_⟩
          simp only [callRun, runSection, hst]
          rfl

theorem sections_getStock (s : St) (clientId category item : String) :
    ∃ outcomes, callRun runSection s.core (firstSection (.getStock clientId category item)) outcomes =
      some ((getStock clientId category item).run s).2.core := by
  unfold firstSection
  cases hc : s.core.cache.stock? clientId category item with
  | some quantity =>
    refine ⟨[false], ?_⟩
    rw [run_getStock_hit hc]
    simp only [callRun, runSection, hc]
  | none =>
    rw [run_getStock_miss hc]
    cases (s.env 0).fails with
    | true =>
      refine ⟨[false, true], ?_⟩
      simp only [callRun, runSection, hc]
      rfl
    | false =>
      simp only [Bool.false_eq_true, if_false]
      cases hrow : s.core.stock.find? ⟨clientId, category, item⟩ with
      | none =>
        refine ⟨[false, false], ?_⟩
        simp only [callRun, runSection, hc, hrow]
        rfl
      | some quantity =>
        refine ⟨[false, false, false], ?_⟩
        simp only [callRun, runSection, hc, hrow]
        rfl

theorem sections_getInventorySummary (s : St) (clientId : String) :
    ∃ outcomes, callRun runSection s.core (firstSection (.getInventorySummary clientId)) outcomes =
      some ((getInventorySummary clientId).run s).2.core := by
  rw [run_getInventorySummary]
  have hcore := St.logged_core s .info "Inventory"
    ("Full inventory summary requested for client " ++ clientId ++ ".") (some clientId)
  generalize s.logged .info "Inventory" _ _ = s' at hcore
  rw [← hcore]
  unfold firstSection
  by_cases hfull : clientId ∈ s'.core.cache.fullyCachedClients
  · refine ⟨[false], ?_⟩
    rw [run_summaryLocked_hit hfull]
    simp only [callRun, runSection, if_pos hfull]
  · rw [run_summaryLocked_miss hfull]
    cases (s'.env 0).fails with
    | true =>
      refine ⟨[true], ?_⟩
      simp only [callRun, runSection, if_neg hfull]
      rfl
    | false =>
      simp only [Bool.false_eq_true, if_false]
      refine ⟨[false], ?_⟩
      cases hinv : fullInventoryOf s'.core.stock clientId with
      | none =>
        simp only [callRun, runSection, if_neg hfull, hinv]
        rfl
      | some map =>
        simp only [callRun, runSection, if_neg hfull, hinv]
        rfl

/-- **A call whose sections are not interrupted does what the sequential call does.** -/
theorem serial_call (s : St) (id : Nat) (call : InventoryCall) :
    ∃ outcomes : List Bool,
      runFrom shopStep (.atRest s.core) (.begin id call :: outcomes.map (.advance id)) =
        some (.atRest (call.perform.run s).2.core) := by
  have hsections : ∃ outcomes, callRun runSection s.core (firstSection call) outcomes =
      some (call.perform.run s).2.core := by
    cases call with
    | updateStock clientId category item quantity =>
      obtain ⟨outcomes, h⟩ := sections_updateStock s clientId category item quantity
      exact ⟨outcomes, bind_core (Q := fun c => _ = some c) h fun _ _ => rfl⟩
    | getStock clientId category item =>
      obtain ⟨outcomes, h⟩ := sections_getStock s clientId category item
      exact ⟨outcomes, bind_core (Q := fun c => _ = some c) h fun _ _ => rfl⟩
    | getInventorySummary clientId =>
      obtain ⟨outcomes, h⟩ := sections_getInventorySummary s clientId
      exact ⟨outcomes, bind_core (Q := fun c => _ = some c) h fun _ _ => rfl⟩
  obtain ⟨outcomes, h⟩ := hsections
  exact ⟨outcomes, runFrom_callRun id h⟩

/-! ## the invariant -/

structure Settling (s : Shop) : Prop where
  current : ∀ id key quantity, s.calls id = some (.store key quantity) →
    s.shared.stock.find? key = some quantity
  entries : ∀ (key : StockKey) quantity,
    s.shared.cache.stock? key.client key.category key.item = some quantity →
      s.shared.stock.find? key = some quantity ∨
        ∃ id quantity', s.calls id = some (.store key quantity')

theorem Settling.agrees {s : Shop} (h : Settling s) (hidle : s.Idle) : CacheAgrees s.shared := by
  intro key quantity hq
  rcases h.entries key quantity hq with hrow | ⟨id, quantity', hpending⟩
  · exact hrow
  · rw [hidle id] at hpending
    cases hpending

/-- the step does not save a row that another call is about to cache -/
def SavesAlone (s : Shop) : ShopAction → Prop
  | .begin _ _ => True
  | .advance id _ => ∀ key quantity, s.calls id = some (.save key quantity) →
      ∀ other quantity', s.calls other ≠ some (.store key quantity')

/-- the call `id` goes on to `next` while the core stays -/
theorem Settling.move {s : Shop} (h : Settling s) {id : Nat} {next : Option Pending}
    (hold : ∀ key quantity, s.calls id ≠ some (.store key quantity))
    (hnew : ∀ key quantity, next = some (.store key quantity) →
      s.shared.stock.find? key = some quantity) :
    Settling ⟨s.shared, Function.update s.calls id next⟩ := by
  refine ⟨?_, ?_⟩
  · intro id' key quantity hcall
    dsimp only at hcall ⊢
    by_cases hid : id' = id
    · rw [hid, Function.update_self] at hcall
      exact hnew key quantity hcall
    · rw [Function.update_of_ne hid] at hcall
      exact h.current id' key quantity hcall
  · intro key quantity hq
    rcases h.entries key quantity hq with hrow | ⟨id', quantity', hpending⟩
    · exact .inl hrow
    · refine .inr ⟨id', quantity', ?_⟩
      have hid : id' ≠ id := by
        rintro rfl
        exact hold key quantity' hpending
      exact (Function.update_of_ne hid ..).trans hpending

theorem Settling.save {s : Shop} (h : Settling s) {id : Nat} {key : StockKey} {quantity : Int32}
    {stock : Stock} (hcall : s.calls id = some (.save key quantity))
    (halone : ∀ other quantity', s.calls other ≠ some (.store key quantity'))
    (hstock : stockAfter s.shared key.client key.category key.item quantity = some stock) :
    Settling ⟨{ s.shared with stock := stock },
      Function.update s.calls id (some (.store key quantity))⟩ := by
  have hfind := find?_stockAfter hstock
  refine ⟨?_, ?_⟩
  · intro id' key' quantity' hcall'
    dsimp only at hcall' ⊢
    rw [hfind]
    by_cases hid : id' = id
    · rw [hid, Function.update_self] at hcall'
      cases hcall'
      exact if_pos rfl
    · rw [Function.update_of_ne hid] at hcall'
      have hne : key' ≠ key := by
        rintro rfl
        exact halone id' quantity' hcall'
      rw [if_neg hne]
      exact h.current id' key' quantity' hcall'
  · intro key' quantity' hq
    dsimp only
    by_cases hk : key' = key
    · subst hk
      exact .inr ⟨id, quantity, Function.update_self ..⟩
    · rcases h.entries key' quantity' hq with hrow | ⟨id', quantity'', hpending⟩
      · refine .inl ?_
        rw [hfind, if_neg hk]
        exact hrow
      · refine .inr ⟨id', quantity'', ?_⟩
        have hid : id' ≠ id := by
          rintro rfl
          rw [hcall] at hpending
          cases hpending
        rw [Function.update_of_ne hid]
        exact hpending

theorem Settling.store {s : Shop} (h : Settling s) {id : Nat} {key : StockKey} {quantity : Int32}
    (hcall : s.calls id = some (.store key quantity)) :
    Settling ⟨{ s.shared with
        cache := s.shared.cache.store key.client key.category key.item quantity },
      Function.update s.calls id none⟩ := by
  refine ⟨?_, ?_⟩
  · intro id' key' quantity' hcall'
    dsimp only at hcall' ⊢
    by_cases hid : id' = id
    · rw [hid, Function.update_self] at hcall'
      cases hcall'
    · rw [Function.update_of_ne hid] at hcall'
      exact h.current id' key' quantity' hcall'
  · intro key' quantity' hq
    dsimp only at hq ⊢
    rw [Cache.stock?_store] at hq
    by_cases hk : key' = key
    · rw [if_pos hk] at hq
      cases hq
      rw [hk]
      exact .inl (h.current id key quantity hcall)
    · rw [if_neg hk] at hq
      rcases h.entries key' quantity' hq with hrow | ⟨id', quantity'', hpending⟩
      · exact .inl hrow
      · refine .inr ⟨id', quantity'', ?_⟩
        have hid : id' ≠ id := by
          rintro rfl
          rw [hcall] at hpending
          cases hpending
          exact hk rfl
        rw [Function.update_of_ne hid]
        exact hpending

theorem Settling.load {s : Shop} (h : Settling s) {id : Nat} {clientId : String}
    {map : ClientInventoryMap} (hcall : s.calls id = some (.summary clientId))
    (hmap : fullInventoryOf s.shared.stock clientId = some map) :
    Settling ⟨{ s.shared with cache := s.shared.cache.load clientId map },
      Function.update s.calls id none⟩ := by
  have hmove : Settling ⟨s.shared, Function.update s.calls id none⟩ :=
    h.move (by rw [hcall]; simp) (by simp)
  refine ⟨hmove.current, ?_⟩
  intro key quantity hq
  dsimp only at hq
  rw [Cache.stock?_eq, Cache.inventories_load] at hq
  by_cases hc : key.client = clientId
  · subst hc
    rw [if_pos rfl, Option.bind_some, (describes_fullInventoryOf hmap).rows] at hq
    exact .inl hq
  · rw [if_neg hc, ← Cache.stock?_eq] at hq
    exact hmove.entries key quantity hq

theorem settling_step {s s' : Shop} {a : ShopAction} (h : Settling s) (hg : SavesAlone s a)
    (hstep : shopStep s a = some s') : Settling s' := by
  rcases flightStep_cases hstep with ⟨id, call, rfl, hfree, rfl⟩ | ⟨id, fails, p, rfl, hcall, rfl⟩
  · refine h.move (by rw [hfree]; simp) ?_
    intro key quantity hnext
    unfold firstSection at hnext
    split at hnext
    · split at hnext
      · cases hnext
      · split at hnext <;> cases hnext
    · cases hnext
    · cases hnext
  · cases p with
    | save key quantity =>
      have hstay : Settling ⟨s.shared, Function.update s.calls id none⟩ :=
        h.move (by rw [hcall]; simp) (by simp)
      unfold runSection
      cases fails with
      | true => exact hstay
      | false =>
        simp only [Bool.false_eq_true, if_false]
        cases hstock : stockAfter s.shared key.client key.category key.item quantity with
        | none => exact hstay
        | some stock => exact h.save hcall (hg key quantity hcall) hstock
    | lookup key =>
      have hstay : ∀ next, (∀ key quantity, next ≠ some (.store key quantity)) →
          Settling ⟨s.shared, Function.update s.calls id next⟩ := fun next hnext =>
        h.move (by rw [hcall]; simp) fun key quantity he => absurd he (hnext key quantity)
      simp only [runSection]
      cases s.shared.cache.stock? key.client key.category key.item with
      | some quantity => exact hstay none (by simp)
      | none => exact hstay (some (.read key)) (by simp)
    | read key =>
      have hstay : Settling ⟨s.shared, Function.update s.calls id none⟩ :=
        h.move (by rw [hcall]; simp) (by simp)
      unfold runSection
      cases fails with
      | true => exact hstay
      | false =>
        simp only [Bool.false_eq_true, if_false]
        cases hrow : s.shared.stock.find? key with
        | none => exact hstay
        | some quantity =>
          refine h.move (by rw [hcall]; simp) ?_
          intro key' quantity' hnext
          cases hnext
          exact hrow
    | store key quantity => exact h.store hcall
    | summary clientId =>
      have hstay : Settling ⟨s.shared, Function.update s.calls id none⟩ :=
        h.move (by rw [hcall]; simp) (by simp)
      unfold runSection
      by_cases hfull : clientId ∈ s.shared.cache.fullyCachedClients
      · simp only [if_pos hfull]
        exact hstay
      · simp only [if_neg hfull]
        cases fails with
        | true => exact hstay
        | false =>
          simp only [Bool.false_eq_true, if_false]
          cases hmap : fullInventoryOf s.shared.stock clientId with
          | none => exact hstay
          | some map => exact h.load hcall hmap

/-! ## whole runs -/

theorem settling_atRest {core : Core} (h : CacheAgrees core) : Settling (.atRest core) := by
  refine ⟨?_, fun key quantity hq => .inl (h key quantity hq)⟩
  intro id key quantity hcall
  cases hcall

/-- **Where every save finds no other call about to cache its row, the cache agrees with the table
whenever no call is in flight.** -/
theorem cache_agrees_at_rest {core : Core} (hstart : CacheAgrees core) (actions : List ShopAction)
    (s : Shop) (hrun : runFrom shopStep (.atRest core) actions = some s)
    (hsaves : Throughout shopStep (.atRest core) actions SavesAlone) (hidle : s.Idle) :
    CacheAgrees s.shared :=
  (runFrom_guarded (settling_atRest hstart) (fun _ _ _ h hg hstep => settling_step h hg hstep)
    actions s hrun hsaves).agrees hidle

/-! The server has just started and alice's stock is empty; two updates set the water to 1 and
to 2. -/

def emptyShop : Shop := .atRest (.boot aliceUsers .empty fun _ => "10.0.0.1")

def setWater (quantity : Int32) : InventoryCall := .updateStock "alice" "food" "water" quantity

/-- the first update caches its quantity after the second one is done -/
def overtakenUpdate : List ShopAction :=
  [.begin 0 (setWater 1), .begin 1 (setWater 2), .advance 0 false, .advance 1 false,
    .advance 1 false, .advance 0 false]

theorem overtakenUpdate_isSome : (runFrom shopStep emptyShop overtakenUpdate).isSome := by decide

def overtakenShop : Shop :=
  (runFrom shopStep emptyShop overtakenUpdate).get overtakenUpdate_isSome

theorem overtaken_update_hides_table :
    CacheAgrees emptyShop.shared ∧
      runFrom shopStep emptyShop overtakenUpdate = some overtakenShop ∧
      overtakenShop.Idle ∧
      overtakenShop.shared.stock.find? ⟨"alice", "food", "water"⟩ = some 2 ∧
      overtakenShop.shared.cache.stock? "alice" "food" "water" = some 1 ∧
      ¬ CacheAgrees overtakenShop.shared := by
  have hrow : overtakenShop.shared.stock.find? ⟨"alice", "food", "water"⟩ = some 2 := by decide
  have hcached : overtakenShop.shared.cache.stock? "alice" "food" "water" = some 1 := by decide
  refine ⟨(coherent_empty _).entries, (Option.some_get overtakenUpdate_isSome).symm, ?_, hrow,
    hcached, ?_⟩
  · intro id
    match id with
    | 0 => rfl
    | 1 => rfl
    | _ + 2 => rfl
  · intro h
    have hagree := h ⟨"alice", "food", "water"⟩ 1 hcached
    rw [hrow] at hagree
    exact absurd hagree (by decide)

/-- an update of the bread between the two sections of an update of the water, and a look at the water
while both are in flight -/
def crossedUpdates : List ShopAction :=
  [.begin 0 (setWater 1), .begin 1 (.updateStock "alice" "food" "bread" 2),
    .begin 2 (.getStock "alice" "food" "water"), .advance 0 false, .advance 2 false,
    .advance 1 false, .advance 2 false, .advance 0 false, .advance 1 false, .advance 2 false]

theorem crossedUpdates_isSome : (runFrom shopStep emptyShop crossedUpdates).isSome := by decide

def crossedShop : Shop := (runFrom shopStep emptyShop crossedUpdates).get crossedUpdates_isSome

theorem crossedUpdates_saveAlone : Throughout shopStep emptyShop crossedUpdates SavesAlone := by
  refine throughout_cons trivial fun s hs => ?_
  cases hs
  refine throughout_cons trivial fun s hs => ?_
  cases hs
  refine throughout_cons trivial fun s hs => ?_
  cases hs
  refine throughout_cons ?_ fun s hs => ?_
  -- the water is saved while nothing is on its way to the cache
  · intro key quantity hsave other quantity' hstore
    match other with
    | 0 => cases hstore
    | 1 => cases hstore
    | 2 => cases hstore
    | _ + 3 => cases hstore
  cases hs
  refine throughout_cons (fun key quantity hsave => by cases hsave) fun s hs => ?_
  cases hs
  refine throughout_cons ?_ fun s hs => ?_
  -- the bread, while the water is
  · intro key quantity hsave other quantity' hstore
    cases hsave
    match other with
    | 0 =>
      change some (Pending.store ⟨"alice", "food", "water"⟩ 1) = _ at hstore
      simp at hstore
    | 1 => cases hstore
    | 2 => cases hstore
    | _ + 3 => cases hstore
  cases hs
  -- no call has a section that saves any more
  refine throughout_cons (fun key quantity hsave => by cases hsave) fun s hs => ?_
  cases hs
  refine throughout_cons (fun key quantity hsave => by cases hsave) fun s hs => ?_
  cases hs
  refine throughout_cons (fun key quantity hsave => by cases hsave) fun s hs => ?_
  cases hs
  exact throughout_cons (fun key quantity hsave => by cases hsave) fun s hs => throughout_nil _ _

theorem cache_agrees_after_updates :
    crossedShop.shared.cache.stock? "alice" "food" "water" = some 1 ∧
      crossedShop.shared.cache.stock? "alice" "food" "bread" = some 2 ∧
      CacheAgrees crossedShop.shared := by
  have hidle : crossedShop.Idle := by
    intro id
    match id with
    | 0 => rfl
    | 1 => rfl
    | 2 => rfl
    | _ + 3 => rfl
  have hstart : CacheAgrees emptyShop.shared := (coherent_empty _).entries
  exact ⟨by decide, by decide, cache_agrees_at_rest hstart crossedUpdates crossedShop
    (Option.some_get crossedUpdates_isSome).symm crossedUpdates_saveAlone hidle⟩

end Logistics
