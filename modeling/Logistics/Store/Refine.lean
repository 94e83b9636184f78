import Logistics.Lib.Machine
import Logistics.Store.Coherence

/-!
# Inventory refines a plain store

The plain store is one map from (client, category, item) to a quantity, without any cache
(`PlainStore`, `plainStep`).  `Inventory` over a table, a partial cache and a set of fully cached
clients gives the same replies, whatever `Storage` calls fail on the way: a call that meets a
failing one throws, and the plain store is told so and throws as well (`observe`).

* `plainSummary`                  the whole inventory of a client, as the plain store sees it;
* `Refined`                       one call throws without effect, or answers as the plain store;
* `inventory_refines_plain_store` **every sequence of calls**.
-/

namespace Logistics
open Machine

/-! ## the calls -/

inductive InventoryCall where
  | updateStock (clientId category item : String) (quantity : Int32)
  | getStock (clientId category item : String)
  | getInventorySummary (clientId : String)

inductive InventoryReply where
  | updated (result : UpdateStockResult)
  | stock (quantity : Option Int32)
  | summary (map : Option ClientInventoryMap)

def InventoryCall.perform : InventoryCall → M InventoryReply
  | .updateStock clientId category item quantity => do
    let result ← Logistics.updateStock clientId category item quantity
    pure (.updated result)
  | .getStock clientId category item => do
    let quantity ← Logistics.getStock clientId category item
    pure (.stock quantity)
  | .getInventorySummary clientId => do
    let map ← Logistics.getInventorySummary clientId
    pure (.summary map)

structure InventoryInput where
  call : InventoryCall
  env : Nat → Answer

def inventoryStep (w : World) (i : InventoryInput) : Except Exn InventoryReply × World :=
  ((i.call.perform.run (w.facing i.env)).1, (i.call.perform.run (w.facing i.env)).2.world)

/-! ## the plain store -/

abbrev PlainStore := StockKey → Option Int32

open Classical in
/-- the map of the client's rows, `none` where it has no row -/
noncomputable def plainSummary (store : PlainStore) (client : String) : Option ClientInventoryMap :=
  if h : ∃ map, Describes store client map then some h.choose else none

theorem plainSummary_eq_some {store : PlainStore} {client : String} {map : ClientInventoryMap}
    (h : Describes store client map) : plainSummary store client = some map := by
  have hex : ∃ map, Describes store client map := ⟨map, h⟩
  unfold plainSummary
  rw [dif_pos hex, hex.choose_spec.unique h]

theorem plainSummary_eq_none {store : PlainStore} {client : String}
    (h : ∀ category item, store ⟨client, category, item⟩ = none) :
    plainSummary store client = none := by
  unfold plainSummary
  rw [dif_neg]
  rintro ⟨map, hmap⟩
  obtain ⟨category, item, hne⟩ := hmap.exists_row
  exact hne (h category item)

/-- a call together with the exception that a failing `Storage` call threw at it, if any -/
noncomputable def plainStep (store : PlainStore) :
    InventoryCall × Option Exn → Except Exn InventoryReply × PlainStore
  | (_, some e) => (.error e, store)
  | (.updateStock clientId category item quantity, none) =>
    if quantity < 0 then (.ok (.updated negativeQuantity), store)
    else if (validateInventory category item).success = false then
      (.ok (.updated (validateInventory category item)), store)
    else (.ok (.updated (stockUpdated category item quantity)),
      Function.update store ⟨clientId, category, item⟩ (some quantity))
  | (.getStock clientId category item, none) =>
    (.ok (.stock (store ⟨clientId, category, item⟩)), store)
  | (.getInventorySummary clientId, none) =>
    (.ok (.summary (plainSummary store clientId)), store)

def observe (i : InventoryInput) (r : Except Exn InventoryReply) : InventoryCall × Option Exn :=
  (i.call, match r with
    | .ok _ => none
    | .error e => some e)

/-! ## one call -/

/-- a `Storage` call of this call threw `e`: it failed, or the table refused the row -/
def StorageFault (call : InventoryCall) (s : St) (e : Exn) : Prop :=
  (e = .sqlite .failure ∧ ∃ n, (s.env n).fails = true) ∨
    (e = .sqlite .constraint ∧ ∃ clientId category item quantity,
      call = .updateStock clientId category item quantity ∧
        stockAfter s.core clientId category item quantity = none)

/-- the call threw without effect, or answered as the plain store does and left the cache coherent -/
def Refined (call : InventoryCall) (s : St) (r : Except Exn InventoryReply × St) : Prop :=
  (∃ e, r.1 = .error e ∧ r.2.core = s.core ∧ StorageFault call s e) ∨
    ∃ answer, r.1 = .ok answer ∧
      plainStep s.core.stock.find? (call, none) = (.ok answer, r.2.core.stock.find?) ∧
      Coherent r.2.core.stock r.2.core.cache

theorem updateStock_refined {s : St} (h : Coherent s.core.stock s.core.cache)
    (clientId category item : String) (quantity : Int32) :
    Refined (.updateStock clientId category item quantity) s
      ((InventoryCall.updateStock clientId category item quantity).perform.run s) := by
  unfold InventoryCall.perform
  rw [Prog.run_bind]
  by_cases hq : quantity < 0
  · rw [run_updateStock_negative clientId category item hq]
    refine .inr ⟨_, rfl, ?_, ?_⟩
    · show (if quantity < 0 then _ else _) = _
      rw [if_pos hq]
      show _ = (_, Table.find? (St.logged s _ _ _ _).core.stock)
      rw [St.logged_core]
    · show Coherent (St.logged s _ _ _ _).core.stock (St.logged s _ _ _ _).core.cache
      rw [St.logged_core]
      exact h
  · cases hv : (validateInventory category item).success with
    | false =>
      rw [run_updateStock_invalid clientId hq hv]
      refine .inr ⟨_, rfl, ?_, h⟩
      show (if quantity < 0 then _ else if _ then _ else _) = _
      rw [if_neg hq, if_pos hv]
      rfl
    | true =>
      rw [run_updateStock_valid clientId hq hv]
      cases hf : (s.env 0).fails with
      | true => exact .inl ⟨_, rfl, rfl, .inl ⟨rfl, 0, hf⟩⟩
      | false =>
        simp only [Bool.false_eq_true, if_false]
        cases hst : stockAfter s.core clientId category item quantity with
        | none =>
          exact .inl ⟨_, rfl, rfl, .inr ⟨rfl, clientId, category, item, quantity, rfl, hst⟩⟩
        | some stock =>
          have hfind := find?_stockAfter hst
          have hnv : ¬ (validateInventory category item).success = false := by simp [hv]
          refine .inr ⟨_, rfl, ?_, h.store hfind⟩
          show (if quantity < 0 then _ else if _ then _ else _) = _
          rw [if_neg hq, if_neg hnv]
          show (_, _) = (_, stock.find?)
          congr 1
          funext key
          rw [hfind, Function.update_apply]

theorem getStock_refined {s : St} (h : Coherent s.core.stock s.core.cache)
    (clientId category item : String) :
    Refined (.getStock clientId category item) s
      ((InventoryCall.getStock clientId category item).perform.run s) := by
  unfold InventoryCall.perform
  rw [Prog.run_bind]
  cases hc : s.core.cache.stock? clientId category item with
  | some quantity =>
    rw [run_getStock_hit hc]
    refine .inr ⟨_, rfl, ?_, h⟩
    have hrow := h.entries ⟨clientId, category, item⟩ quantity hc
    show (_, _) = _
    rw [hrow]
    rfl
  | none =>
    rw [run_getStock_miss hc]
    cases hf : (s.env 0).fails with
    | true => exact .inl ⟨_, rfl, rfl, .inl ⟨rfl, 0, hf⟩⟩
    | false =>
      simp only [Bool.false_eq_true, if_false]
      cases hrow : s.core.stock.find? ⟨clientId, category, item⟩ with
      | none =>
        refine .inr ⟨_, rfl, ?_, h⟩
        show (_, _) = _
        rw [hrow]
        rfl
      | some quantity =>
        refine .inr ⟨_, rfl, ?_, ?_⟩
        · show (_, _) = _
          rw [hrow]
          rfl
        · exact @Coherent.cached s.core.stock s.core.cache h ⟨clientId, category, item⟩ quantity hrow

theorem getInventorySummary_refined {s : St} (h : Coherent s.core.stock s.core.cache)
    (clientId : String) :
    Refined (.getInventorySummary clientId) s
      ((InventoryCall.getInventorySummary clientId).perform.run s) := by
  unfold InventoryCall.perform
  rw [Prog.run_bind, run_getInventorySummary]
  have hcore := St.logged_core s .info "Inventory"
    ("Full inventory summary requested for client " ++ clientId ++ ".") (some clientId)
  have henv := St.logged_env s .info "Inventory"
    ("Full inventory summary requested for client " ++ clientId ++ ".") (some clientId)
  generalize s.logged .info "Inventory" _ _ = s' at hcore henv
  rw [← hcore] at h
  unfold Refined StorageFault
  rw [← hcore]
  by_cases hfull : clientId ∈ s'.core.cache.fullyCachedClients
  · obtain ⟨map, hmap, hdesc⟩ := h.full clientId hfull
    rw [run_summaryLocked_hit hfull, hmap]
    refine .inr ⟨_, rfl, ?_, h⟩
    show (_, _) = _
    rw [plainSummary_eq_some hdesc]
    rfl
  · rw [run_summaryLocked_miss hfull]
    cases hf : (s'.env 0).fails with
    | true =>
      rw [henv] at hf
      exact .inl ⟨_, rfl, rfl, .inl ⟨rfl, 2, hf⟩⟩
    | false =>
      simp only [Bool.false_eq_true, if_false]
      cases hinv : fullInventoryOf s'.core.stock clientId with
      | none =>
        refine .inr ⟨_, rfl, ?_, h⟩
        show (_, _) = _
        rw [plainSummary_eq_none fun category item => find?_of_fullInventoryOf_none hinv category item]
        rfl
      | some map =>
        refine .inr ⟨_, rfl, ?_, h.load hinv⟩
        show (_, _) = _
        rw [plainSummary_eq_some (describes_fullInventoryOf hinv)]
        rfl

theorem perform_refined {s : St} (h : Coherent s.core.stock s.core.cache) (call : InventoryCall) :
    Refined call s (call.perform.run s) := by
  cases call with
  | updateStock clientId category item quantity =>
    exact updateStock_refined h clientId category item quantity
  | getStock clientId category item => exact getStock_refined h clientId category item
  | getInventorySummary clientId => exact getInventorySummary_refined h clientId

/-! ## every sequence of calls -/

/-- the cache is coherent and the table is the plain store -/
def Implements (w : World) (store : PlainStore) : Prop :=
  Coherent w.core.stock w.core.cache ∧ w.core.stock.find? = store

theorem inventory_simulates : Simulates inventoryStep plainStep observe Implements := by
  rintro w store i ⟨hcoherent, rfl⟩
  have href : Refined i.call (w.facing i.env) (i.call.perform.run (w.facing i.env)) :=
    perform_refined hcoherent i.call
  unfold inventoryStep
  generalize i.call.perform.run (w.facing i.env) = r at href
  obtain ⟨r, s'⟩ := r
  rcases href with ⟨e, rfl, hcore, -⟩ | ⟨answer, rfl, hplain, hcoherent'⟩
  · have hcore' : s'.core = w.core := hcore
    refine ⟨rfl, ?_, ?_⟩
    · show Coherent s'.core.stock s'.core.cache
      rw [hcore']
      exact hcoherent
    · show s'.core.stock.find? = w.core.stock.find?
      rw [hcore']
  · have hplain' : plainStep w.core.stock.find? (observe i (.ok answer)) =
        (.ok answer, s'.core.stock.find?) := hplain
    dsimp only
    rw [hplain']
    exact ⟨rfl, hcoherent', rfl⟩

/-- what holds of a sequence of calls from the world `w` with empty caches -/
structure InventoryRefinement (w : World) (calls : List InventoryInput) : Prop where
  replies : (outputs inventoryStep w calls).1 =
    (outputs plainStep w.core.stock.find?
      (List.zipWith observe calls (outputs inventoryStep w calls).1)).1
  table : (outputs inventoryStep w calls).2.core.stock.find? =
    (outputs plainStep w.core.stock.find?
      (List.zipWith observe calls (outputs inventoryStep w calls).1)).2
  coherent : Coherent (outputs inventoryStep w calls).2.core.stock
    (outputs inventoryStep w calls).2.core.cache
  -- whatever is called next: it throws only for a `Storage` call that threw, and then changes nothing
  faults : ∀ i e, (inventoryStep (outputs inventoryStep w calls).2 i).1 = .error e →
    (inventoryStep (outputs inventoryStep w calls).2 i).2.core =
        (outputs inventoryStep w calls).2.core ∧
      StorageFault i.call ((outputs inventoryStep w calls).2.facing i.env) e

def World.uncached (w : World) : World := { w with core := { w.core with cache := .empty } }

/-- **`Inventory` refines the plain store**, for every table, every sequence of calls and every
subset of failing `Storage` calls. -/
theorem inventory_refines_plain_store (w : World) (calls : List InventoryInput) :
    InventoryRefinement w.uncached calls := by
  have hstart : Implements w.uncached w.uncached.core.stock.find? :=
    ⟨coherent_empty w.core.stock, rfl⟩
  obtain ⟨hreplies, hcoherent, htable⟩ :=
    outputs_refine inventory_simulates calls w.uncached w.uncached.core.stock.find? hstart
  refine ⟨hreplies.symm, htable, hcoherent, ?_⟩
  intro i e he
  have href : Refined i.call ((outputs inventoryStep w.uncached calls).2.facing i.env)
    (i.call.perform.run ((outputs inventoryStep w.uncached calls).2.facing i.env)) :=
    perform_refined hcoherent i.call
  rcases href with ⟨e', he', hcore, hfault⟩ | ⟨answer, hanswer, -, -⟩
  · obtain rfl : e' = e := Except.error.inj (he'.symm.trans he)
    exact ⟨hcore, hfault⟩
  · exact absurd (hanswer.symm.trans he) (by simp)

end Logistics
