import Logistics.Store.Storage

/-!
# Inventory: the write-through cache in front of the table

`Inventory` keeps two members beside the table `inventory`: `m_inventories`, the quantities read or
written so far, and `m_fullyCachedClients`, the clients whose whole inventory was loaded.

* `validateInventory`, `updateStock`, `getStock`, `getInventorySummary`   the member functions;
* `Cache.store`, `Cache.stock?`   the two accesses to `m_inventories` under `m_mutex`;
* `run_updateStock_valid`, `run_getStock_hit`, `run_getStock_miss`, ...   what each call does.

`updateStock` writes the table first and the cache second; a save that throws leaves both alone.
-/

namespace Logistics
open Std

/-! ## the cache -/

namespace Cache

def empty : Cache := ⟨∅, ∅⟩

def store (c : Cache) (clientId category item : String) (quantity : Int32) : Cache :=
  let categories := ClientInventoryMap.put (c.inventories.getD clientId ∅) category item quantity
  { c with inventories := c.inventories.insert clientId categories }

def stock? (c : Cache) (clientId category item : String) : Option Int32 :=
  match c.inventories[clientId]? with
  | none => none
  | some categories =>
    match categories[category]? with
    | none => none
    | some items => items[item]?

/-- `m_inventories[clientId] = map; m_fullyCachedClients.insert(clientId)` -/
def load (c : Cache) (clientId : String) (map : ClientInventoryMap) : Cache :=
  ⟨c.inventories.insert clientId map, insert clientId c.fullyCachedClients⟩

end Cache

/-! ## member functions -/

def validItems : List (String × List String) :=
  [("food", ["meat", "vegetables", "fruits", "water", "bread"]),
    ("medicine", ["antibiotics", "analgesics", "bandages"]),
    ("ammo", ["pistol_rounds", "shotgun_shells", "grenades"])]

structure UpdateStockResult where
  success : Bool
  message : String
  deriving DecidableEq, Repr

def validateInventory (category item : String) : UpdateStockResult :=
  match validItems.lookup category with
  | none => ⟨false, "Update rejected: Invalid category '" ++ category ++ "'."⟩
  | some items =>
    if item ∈ items then ⟨true, "valid ok"⟩
    else ⟨false, "Update rejected: Invalid item '" ++ item ++ "'."⟩

def negativeQuantity : UpdateStockResult :=
  ⟨false, "Update rejected: Quantity cannot be negative."⟩

def stockUpdated (category item : String) (quantity : Int32) : UpdateStockResult :=
  ⟨true, "Stock for '" ++ category ++ ":" ++ item ++ "' successfully updated to " ++
    toString quantity.toInt ++ "."⟩

def updateStock (clientId category item : String) (quantity : Int32) : M UpdateStockResult := do
  if quantity < 0 then
    log .warning "Inventory"
      ("Client " ++ clientId ++ " trying to update negative quantity for item '" ++ item ++ "'.")
      none
    pure negativeQuantity
  else if (validateInventory category item).success = false then
    pure (validateInventory category item)
  else
    saveStockUpdate clientId category item quantity
    log .info "Inventory"
      ("Stock succesfully updated for " ++ category ++ ":" ++ item ++ " to " ++
        toString quantity.toInt ++ " for client " ++ clientId) (some clientId)
    setCore fun c => { c with cache := c.cache.store clientId category item quantity }
    pure (stockUpdated category item quantity)

def getStock (clientId category item : String) : M (Option Int32) := do
  let s ← Prog.get
  match s.core.cache.stock? clientId category item with
  | some quantity => pure (some quantity)
  | none =>
    let result ← Storage.getStock clientId category item
    match result with
    | some quantity => do
      setCore fun c => { c with cache := c.cache.store clientId category item quantity }
      pure (some quantity)
    | none => pure none

/-- the body of `getInventorySummary` under `m_mutex` -/
def summaryLocked (clientId : String) : M (Option ClientInventoryMap) := do
  let s ← Prog.get
  if clientId ∈ s.core.cache.fullyCachedClients then
    pure s.core.cache.inventories[clientId]?
  else
    let result ← getFullInventory clientId
    match result with
    | none => pure none
    | some map => do
      setCore fun c => { c with cache := c.cache.load clientId map }
      pure (some map)

def getInventorySummary (clientId : String) : M (Option ClientInventoryMap) := do
  log .info "Inventory" ("Full inventory summary requested for client " ++ clientId ++ ".")
    (some clientId)
  summaryLocked clientId

/-! ## what the calls do -/

theorem run_updateStock_negative (clientId category item : String) {quantity : Int32}
    (h : quantity < 0) (s : St) :
    (updateStock clientId category item quantity).run s = (.ok negativeQuantity,
      s.logged .warning "Inventory"
        ("Client " ++ clientId ++ " trying to update negative quantity for item '" ++ item ++ "'.")
        none) := by
  unfold updateStock
  rw [Prog.run_ite, if_pos h, Prog.run_bind, run_log]
  rfl

theorem run_updateStock_invalid (clientId : String) {category item : String} {quantity : Int32}
    (h : ¬ quantity < 0) (hv : (validateInventory category item).success = false) (s : St) :
    (updateStock clientId category item quantity).run s =
      (.ok (validateInventory category item), s) := by
  unfold updateStock
  rw [Prog.run_ite, if_neg h, Prog.run_ite, if_pos hv]
  rfl

/-- the state in which a successful `updateStock` ends -/
def St.updated (s : St) (clientId category item : String) (quantity : Int32) (stock : Stock) : St :=
  let s' := St.logged { s.next with core := { s.core with stock := stock } } .info "Inventory"
    ("Stock succesfully updated for " ++ category ++ ":" ++ item ++ " to " ++
      toString quantity.toInt ++ " for client " ++ clientId) (some clientId)
  { s' with core := { s.core with
      stock := stock, cache := s.core.cache.store clientId category item quantity } }

theorem run_updateStock_valid (clientId : String) {category item : String} {quantity : Int32}
    (h : ¬ quantity < 0) (hv : (validateInventory category item).success = true) (s : St) :
    (updateStock clientId category item quantity).run s =
      if (s.env 0).fails then (.error (.sqlite .failure), s.next)
      else match stockAfter s.core clientId category item quantity with
        | none => (.error (.sqlite .constraint), s.next)
        | some stock => (.ok (stockUpdated category item quantity),
            s.updated clientId category item quantity stock) := by
  have hv' : ¬ (validateInventory category item).success = false := by simp [hv]
  unfold updateStock
  rw [Prog.run_ite, if_neg h, Prog.run_ite, if_neg hv', Prog.run_bind, run_saveStockUpdate]
  cases hf : (s.env 0).fails with
  | true => rfl
  | false =>
    simp only [Bool.false_eq_true, if_false]
    cases stockAfter s.core clientId category item quantity with
    | none => rfl
    | some stock =>
      simp only [Prog.run_bind, run_log, run_setCore, Prog.run_pure, St.updated, St.logged_core]

theorem run_getStock_hit {clientId category item : String} {quantity : Int32} {s : St}
    (h : s.core.cache.stock? clientId category item = some quantity) :
    (getStock clientId category item).run s = (.ok (some quantity), s) := by
  unfold getStock
  rw [Prog.run_bind, Prog.run_get]
  simp only [h]
  rfl

theorem run_getStock_miss {clientId category item : String} {s : St}
    (h : s.core.cache.stock? clientId category item = none) :
    (getStock clientId category item).run s =
      if (s.env 0).fails then (.error (.sqlite .failure), s.next)
      else match s.core.stock.find? ⟨clientId, category, item⟩ with
        | none => (.ok none, s.next)
        | some quantity => (.ok (some quantity), { s.next with core := { s.core with
            cache := s.core.cache.store clientId category item quantity } }) := by
  unfold getStock
  rw [Prog.run_bind, Prog.run_get]
  simp only [h]
  rw [Prog.run_bind, run_storage_getStock]
  cases hf : (s.env 0).fails with
  | true => rfl
  | false =>
    simp only [Bool.false_eq_true, if_false]
    cases s.core.stock.find? ⟨clientId, category, item⟩ <;> rfl

theorem run_summaryLocked_hit {clientId : String} {s : St}
    (h : clientId ∈ s.core.cache.fullyCachedClients) :
    (summaryLocked clientId).run s = (.ok s.core.cache.inventories[clientId]?, s) := by
  unfold summaryLocked
  rw [Prog.run_bind, Prog.run_get]
  simp only [if_pos h]
  rfl

theorem run_summaryLocked_miss {clientId : String} {s : St}
    (h : clientId ∉ s.core.cache.fullyCachedClients) :
    (summaryLocked clientId).run s =
      if (s.env 0).fails then (.error (.sqlite .failure), s.next)
      else match fullInventoryOf s.core.stock clientId with
        | none => (.ok none, s.next)
        | some map => (.ok (some map), { s.next with core := { s.core with
            cache := s.core.cache.load clientId map } }) := by
  unfold summaryLocked
  rw [Prog.run_bind, Prog.run_get]
  simp only [if_neg h]
  rw [Prog.run_bind, run_getFullInventory]
  cases hf : (s.env 0).fails with
  | true => rfl
  | false =>
    simp only [Bool.false_eq_true, if_false]
    cases fullInventoryOf s.core.stock clientId <;> rfl

theorem run_getInventorySummary (clientId : String) (s : St) :
    (getInventorySummary clientId).run s =
      (summaryLocked clientId).run (s.logged .info "Inventory"
        ("Full inventory summary requested for client " ++ clientId ++ ".") (some clientId)) := by
  unfold getInventorySummary
  rw [Prog.run_bind, run_log]

end Logistics
