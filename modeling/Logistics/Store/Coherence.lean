import Logistics.Store.Inventory

/-!
# The cache agrees with the table

The quantities of one client are kept in a map of maps.  `ClientInventoryMap.lookup` reads one
entry of it, and `Describes store client map` says that the map holds exactly the client's rows of
`store`: every row, nothing else, and no category without items.  Such a map is unique
(`Describes.unique`), and `getFullInventory` builds it (`describes_fullInventoryOf`).

`Coherent` is the invariant of `Inventory`: every cached quantity is the one in the table, and a
client in `m_fullyCachedClients` has its whole inventory cached.  The two writes of the cache keep
it: `Coherent.store` (an entry read from the table or just written to it) and `Coherent.load`.
-/

namespace Logistics
open Std (ExtTreeMap)

/-! ## maps of maps -/

namespace ClientInventoryMap

def lookup (m : ClientInventoryMap) (category item : String) : Option Int32 :=
  (m[category]?).bind fun items => items[item]?

theorem lookup_empty (category item : String) :
    lookup (∅ : ClientInventoryMap) category item = none := by
  unfold lookup
  rw [ExtTreeMap.getElem?_empty]
  rfl

theorem lookup_put (m : ClientInventoryMap) (category item : String) (quantity : Int32)
    (category' item' : String) :
    (m.put category item quantity).lookup category' item' =
      if category' = category ∧ item' = item then some quantity
      else m.lookup category' item' := by
  unfold put lookup
  rw [ExtTreeMap.getElem?_insert]
  by_cases hc : category = category'
  · subst hc
    rw [if_pos (compare_eq_iff_eq.mpr rfl), Option.bind_some, ExtTreeMap.getElem?_insert]
    by_cases hi : item = item'
    · subst hi
      rw [if_pos (compare_eq_iff_eq.mpr rfl), if_pos ⟨rfl, rfl⟩]
    · rw [if_neg fun h => hi (compare_eq_iff_eq.mp h), if_neg fun h => hi h.2.symm,
        ExtTreeMap.getD_eq_getD_getElem?]
      cases m[category]? with
      | none =>
        show (∅ : ExtTreeMap String Int32)[item']? = none
        exact ExtTreeMap.getElem?_empty
      | some items => rfl
  · rw [if_neg fun h => hc (compare_eq_iff_eq.mp h), if_neg fun h => hc h.1.symm]

end ClientInventoryMap

/-- no category of the map is empty -/
def Tight (m : ClientInventoryMap) : Prop :=
  ∀ (category : String) (items : ExtTreeMap String Int32), m[category]? = some items → items ≠ ∅

theorem tight_empty : Tight ∅ := by
  intro category items h
  rw [ExtTreeMap.getElem?_empty] at h
  cases h

theorem Tight.put {m : ClientInventoryMap} (h : Tight m) (category item : String)
    (quantity : Int32) : Tight (m.put category item quantity) := by
  intro category' items hi
  unfold ClientInventoryMap.put at hi
  rw [ExtTreeMap.getElem?_insert] at hi
  by_cases hc : category = category'
  · rw [if_pos (compare_eq_iff_eq.mpr hc)] at hi
    cases hi
    exact ExtTreeMap.insert_ne_empty
  · rw [if_neg fun e => hc (compare_eq_iff_eq.mp e)] at hi
    exact h category' items hi

theorem exists_item {items : ExtTreeMap String Int32} (h : items ≠ ∅) :
    ∃ (item : String) (quantity : Int32), items[item]? = some quantity := by
  by_contra hnone
  refine h (ExtTreeMap.ext_getElem? fun item => ?_)
  rw [ExtTreeMap.getElem?_empty]
  cases hi : items[item]? with
  | none => rfl
  | some quantity => exact absurd ⟨item, quantity, hi⟩ hnone

section
variable {store : StockKey → Option Int32} {stock : Stock} {client : String}
  {map : ClientInventoryMap}

/-! ## the rows of one client -/

/-- the map holds exactly the rows of `client` in `store` -/
structure Describes (store : StockKey → Option Int32) (client : String)
    (map : ClientInventoryMap) : Prop where
  rows : ∀ category item, map.lookup category item = store ⟨client, category, item⟩
  tight : Tight map
  inhabited : map ≠ ∅

theorem Describes.category_eq {map' : ClientInventoryMap} (h : Describes store client map)
    (h' : Describes store client map') {category : String} {items : ExtTreeMap String Int32}
    (hi : map[category]? = some items) : map'[category]? = some items := by
  have hrow : ∀ item, map'.lookup category item = items[item]? := by
    intro item
    rw [h'.rows, ← h.rows]
    unfold ClientInventoryMap.lookup
    rw [hi, Option.bind_some]
  -- the category has an item, so the other map has the category too
  obtain ⟨item, quantity, hq⟩ := exists_item (h.tight category items hi)
  unfold ClientInventoryMap.lookup at hrow
  cases hi' : map'[category]? with
  | none =>
    have hnone := hrow item
    rw [hi', hq] at hnone
    cases hnone
  | some items' =>
    congr 1
    refine ExtTreeMap.ext_getElem? fun item => ?_
    have hsome := hrow item
    rwa [hi', Option.bind_some] at hsome

/-- **The rows of a client determine the map.** -/
theorem Describes.unique {map' : ClientInventoryMap} (h : Describes store client map)
    (h' : Describes store client map') : map = map' := by
  refine ExtTreeMap.ext_getElem? fun category => ?_
  cases hi : map[category]? with
  | some items => exact (h.category_eq h' hi).symm
  | none =>
    cases hi' : map'[category]? with
    | none => rfl
    | some items' =>
      rw [h'.category_eq h hi'] at hi
      cases hi

theorem Describes.exists_row (h : Describes store client map) :
    ∃ category item, store ⟨client, category, item⟩ ≠ none := by
  by_contra hnone
  push Not at hnone
  refine h.inhabited (ExtTreeMap.ext_getElem? fun category => ?_)
  rw [ExtTreeMap.getElem?_empty]
  cases hi : map[category]? with
  | none => rfl
  | some items =>
    obtain ⟨item, quantity, hq⟩ := exists_item (h.tight category items hi)
    have hrow := h.rows category item
    unfold ClientInventoryMap.lookup at hrow
    rw [hnone, hi, Option.bind_some, hq] at hrow
    cases hrow

theorem Describes.congr {store' : StockKey → Option Int32} (h : Describes store client map)
    (hs : ∀ category item, store' ⟨client, category, item⟩ = store ⟨client, category, item⟩) :
    Describes store' client map :=
  ⟨fun category item => (h.rows category item).trans (hs category item).symm, h.tight,
    h.inhabited⟩

/-! ## getFullInventory -/

theorem mem_rowsOf {key : StockKey} {quantity : Int32} :
    (key, quantity) ∈ Stock.rowsOf stock client ↔
      key.client = client ∧ stock.find? key = some quantity := by
  unfold Stock.rowsOf
  rw [List.mem_filter, Table.mem_entries, decide_eq_true_iff]
  exact and_comm

/-- the loop over rows that agree with `store` -/
theorem lookup_fillMap {rows : List (StockKey × Int32)} (m : ClientInventoryMap)
    (hrows : ∀ e ∈ rows, e.1.client = client ∧ store e.1 = some e.2) (category item : String) :
    (fillMap m rows).lookup category item =
      if ∃ e ∈ rows, e.1 = ⟨client, category, item⟩ then store ⟨client, category, item⟩
      else m.lookup category item := by
  induction rows generalizing m with
  | nil => simp [fillMap]
  | cons e rest ih =>
    obtain ⟨key, quantity⟩ := e
    obtain ⟨hclient, hstore⟩ := hrows (key, quantity) List.mem_cons_self
    have hrest : ∀ e ∈ rest, e.1.client = client ∧ store e.1 = some e.2 :=
      fun e he => hrows e (List.mem_cons_of_mem _ he)
    unfold fillMap
    rw [ih (m.put key.category key.item quantity) hrest, ClientInventoryMap.lookup_put]
    by_cases hin : ∃ e ∈ rest, e.1 = ⟨client, category, item⟩
    · obtain ⟨e, he, hkey⟩ := hin
      rw [if_pos ⟨e, he, hkey⟩, if_pos ⟨e, List.mem_cons_of_mem _ he, hkey⟩]
    · rw [if_neg hin]
      by_cases hkey : key = ⟨client, category, item⟩
      · subst hkey
        rw [if_pos ⟨rfl, rfl⟩, if_pos ⟨_, List.mem_cons_self, rfl⟩]
        exact hstore.symm
      · have hne : ¬ (category = key.category ∧ item = key.item) := by
          rintro ⟨rfl, rfl⟩
          exact hkey (by rw [← hclient])
        have hnot : ¬ ∃ e ∈ (key, quantity) :: rest, e.1 = ⟨client, category, item⟩ := by
          rintro ⟨e, he, hk⟩
          rcases List.mem_cons.mp he with rfl | he
          · exact hkey hk
          · exact hin ⟨e, he, hk⟩
        rw [if_neg hne, if_neg hnot]

theorem tight_fillMap {m : ClientInventoryMap} (h : Tight m) (rows : List (StockKey × Int32)) :
    Tight (fillMap m rows) := by
  induction rows generalizing m with
  | nil => exact h
  | cons e rest ih => exact ih (h.put e.1.category e.1.item e.2)

theorem rows_agree (stock : Stock) (client : String) :
    ∀ e ∈ Stock.rowsOf stock client, e.1.client = client ∧ stock.find? e.1 = some e.2 := by
  rintro ⟨key, quantity⟩ he
  exact mem_rowsOf.mp he

/-- **`getFullInventory` builds the map of the client's rows.** -/
theorem describes_fullInventoryOf (h : fullInventoryOf stock client = some map) :
    Describes stock.find? client map := by
  unfold fullInventoryOf at h
  have hagree := rows_agree stock client
  cases hrows : Stock.rowsOf stock client with
  | nil => simp [hrows] at h
  | cons e rest =>
    rw [hrows] at h
    obtain rfl : fillMap ∅ (e :: rest) = map := Option.some.inj h
    have hlookup : ∀ category item, (fillMap ∅ (e :: rest)).lookup category item =
        stock.find? ⟨client, category, item⟩ := by
      intro category item
      rw [← hrows, lookup_fillMap ∅ hagree]
      by_cases hin : ∃ e ∈ Stock.rowsOf stock client, e.1 = ⟨client, category, item⟩
      · rw [if_pos hin]
      · rw [if_neg hin, ClientInventoryMap.lookup_empty]
        cases hq : stock.find? ⟨client, category, item⟩ with
        | none => rfl
        | some quantity => exact absurd ⟨_, mem_rowsOf.mpr ⟨rfl, hq⟩, rfl⟩ hin
    refine ⟨hlookup, tight_fillMap tight_empty _, ?_⟩
    intro hempty
    obtain ⟨hclient, hfirst⟩ := hagree e (by rw [hrows]; exact List.mem_cons_self)
    have hnone := hlookup e.1.category e.1.item
    rw [hempty, ClientInventoryMap.lookup_empty, ← hclient] at hnone
    exact absurd (hnone.trans hfirst) (by simp)

theorem find?_of_fullInventoryOf_none (h : fullInventoryOf stock client = none)
    (category item : String) : stock.find? ⟨client, category, item⟩ = none := by
  unfold fullInventoryOf at h
  cases hq : stock.find? ⟨client, category, item⟩ with
  | none => rfl
  | some quantity =>
    have hmem : (⟨client, category, item⟩, quantity) ∈ Stock.rowsOf stock client :=
      mem_rowsOf.mpr ⟨rfl, hq⟩
    cases hrows : Stock.rowsOf stock client with
    | nil =>
      rw [hrows] at hmem
      cases hmem
    | cons e rest => simp [hrows] at h

end

/-! ## the cache -/

namespace Cache

theorem stock?_eq (c : Cache) (client category item : String) :
    c.stock? client category item =
      (c.inventories[client]?).bind fun m => m.lookup category item := by
  unfold stock? ClientInventoryMap.lookup
  cases c.inventories[client]? with
  | none => rfl
  | some m =>
    rw [Option.bind_some]
    dsimp only
    cases m[category]? <;> rfl

theorem inventories_store (c : Cache) (client category item : String) (quantity : Int32)
    (client' : String) :
    (c.store client category item quantity).inventories[client']? =
      if client' = client then
        some (ClientInventoryMap.put (c.inventories.getD client ∅) category item quantity)
      else c.inventories[client']? := by
  unfold store
  rw [ExtTreeMap.getElem?_insert]
  by_cases h : client = client'
  · rw [if_pos (compare_eq_iff_eq.mpr h), if_pos h.symm]
  · rw [if_neg fun e => h (compare_eq_iff_eq.mp e), if_neg fun e => h e.symm]

theorem inventories_load (c : Cache) (client : String) (map : ClientInventoryMap)
    (client' : String) :
    (c.load client map).inventories[client']? =
      if client' = client then some map else c.inventories[client']? := by
  unfold load
  rw [ExtTreeMap.getElem?_insert]
  by_cases h : client = client'
  · rw [if_pos (compare_eq_iff_eq.mpr h), if_pos h.symm]
  · rw [if_neg fun e => h (compare_eq_iff_eq.mp e), if_neg fun e => h e.symm]

theorem stock?_store (c : Cache) (key : StockKey) (quantity : Int32) (key' : StockKey) :
    (c.store key.client key.category key.item quantity).stock? key'.client key'.category
        key'.item =
      if key' = key then some quantity
      else c.stock? key'.client key'.category key'.item := by
  rw [stock?_eq, inventories_store]
  obtain ⟨client, category, item⟩ := key
  obtain ⟨client', category', item'⟩ := key'
  by_cases hc : client' = client
  · subst hc
    rw [if_pos rfl, Option.bind_some, ClientInventoryMap.lookup_put]
    by_cases hk : category' = category ∧ item' = item
    · obtain ⟨rfl, rfl⟩ := hk
      rw [if_pos ⟨rfl, rfl⟩, if_pos rfl]
    · have hne : ¬ (⟨client', category', item'⟩ : StockKey) = ⟨client', category, item⟩ := by
        intro h
        cases h
        exact hk ⟨rfl, rfl⟩
      rw [if_neg hk, if_neg hne, stock?_eq, ExtTreeMap.getD_eq_getD_getElem?]
      cases c.inventories[client']? with
      | none => exact ClientInventoryMap.lookup_empty category' item'
      | some m => rfl
  · have hne : ¬ (⟨client', category', item'⟩ : StockKey) = ⟨client, category, item⟩ := by
      intro h
      cases h
      exact hc rfl
    rw [if_neg hc, if_neg hne, stock?_eq]

end Cache

/-! ## coherence -/

/-- the cache says what the table says -/
structure Coherent (stock : Stock) (cache : Cache) : Prop where
  entries : ∀ (key : StockKey) quantity,
    cache.stock? key.client key.category key.item = some quantity →
      stock.find? key = some quantity
  full : ∀ client ∈ cache.fullyCachedClients,
    ∃ map, cache.inventories[client]? = some map ∧ Describes stock.find? client map

theorem coherent_empty (stock : Stock) : Coherent stock .empty := by
  refine ⟨?_, fun client h => absurd h (Finset.notMem_empty client)⟩
  intro key quantity h
  rw [Cache.stock?_eq] at h
  have hempty : Cache.empty.inventories[key.client]? = none := ExtTreeMap.getElem?_empty
  rw [hempty] at h
  cases h

section
variable {stock : Stock} {cache : Cache}

/-- a quantity that the table has, or has got at the same time, is cached -/
theorem Coherent.store (h : Coherent stock cache) {stock' : Stock} {key : StockKey}
    {quantity : Int32}
    (hs : ∀ key', stock'.find? key' = if key' = key then some quantity else stock.find? key') :
    Coherent stock' (cache.store key.client key.category key.item quantity) := by
  refine ⟨?_, ?_⟩
  · intro key' quantity' hq
    rw [Cache.stock?_store] at hq
    rw [hs]
    by_cases hk : key' = key
    · rwa [if_pos hk] at hq ⊢
    · rw [if_neg hk] at hq ⊢
      exact h.entries key' quantity' hq
  · intro client hclient
    obtain ⟨map, hmap, hdesc⟩ := h.full client hclient
    rw [Cache.inventories_store]
    by_cases hc : client = key.client
    · subst hc
      rw [if_pos rfl, ExtTreeMap.getD_eq_getD_getElem?, hmap]
      refine ⟨_, rfl, ?_, hdesc.tight.put _ _ _, ExtTreeMap.insert_ne_empty⟩
      intro category item
      show ClientInventoryMap.lookup (ClientInventoryMap.put map _ _ _) category item = _
      rw [ClientInventoryMap.lookup_put, hs, hdesc.rows]
      by_cases hk : category = key.category ∧ item = key.item
      · obtain ⟨rfl, rfl⟩ := hk
        rw [if_pos ⟨rfl, rfl⟩, if_pos rfl]
      · have hne : ¬ (⟨key.client, category, item⟩ : StockKey) = key := by
          intro e
          rw [← e] at hk
          exact hk ⟨rfl, rfl⟩
        rw [if_neg hk, if_neg hne]
    · rw [if_neg hc]
      refine ⟨map, hmap, hdesc.congr fun category item => ?_⟩
      rw [hs, if_neg]
      intro e
      rw [← e] at hc
      exact hc rfl

/-- a quantity read from the table is cached -/
theorem Coherent.cached (h : Coherent stock cache) {key : StockKey} {quantity : Int32}
    (hrow : stock.find? key = some quantity) :
    Coherent stock (cache.store key.client key.category key.item quantity) := by
  refine h.store fun key' => ?_
  by_cases hk : key' = key
  · rw [if_pos hk, hk, hrow]
  · rw [if_neg hk]

theorem Coherent.load (h : Coherent stock cache) {client : String} {map : ClientInventoryMap}
    (hmap : fullInventoryOf stock client = some map) : Coherent stock (cache.load client map) := by
  have hdesc := describes_fullInventoryOf hmap
  refine ⟨?_, ?_⟩
  · intro key quantity hq
    rw [Cache.stock?_eq, Cache.inventories_load] at hq
    by_cases hc : key.client = client
    · subst hc
      rw [if_pos rfl, Option.bind_some, hdesc.rows] at hq
      exact hq
    · rw [if_neg hc, ← Cache.stock?_eq] at hq
      exact h.entries key quantity hq
  · intro client' hclient'
    rw [Cache.inventories_load]
    by_cases hc : client' = client
    · subst hc
      exact ⟨map, by rw [if_pos rfl], hdesc⟩
    · rw [if_neg hc]
      refine h.full client' ?_
      exact (Finset.mem_insert.mp hclient').resolve_left hc

end

end Logistics
