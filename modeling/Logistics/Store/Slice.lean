import Logistics.Lib.Couple
import Logistics.Store.Coherence

/-!
# The part of the stores that belongs to one client

The rows of all clients are in one table `inventory`, their quantities in one cache and their
history in one table `logs`.  `World.slice` cuts out of these what belongs to one client.

`Agree V strict σ τ` couples two states that have the same slices for the clients in `V`; the
slices of the other clients are `σ` in the one and `τ` in the other.  Where `strict` holds, the two
also agree in everything that is not in a slice and that a handler can read.

* `fullInventoryOf_congr`   the inventory of a client is read off its own rows;
* `log_couples`, `updateStock_couples`, `getStock_couples`, ...   **calls keep to slices**.
-/

namespace Logistics
open Std

/-! ## slices -/

structure Slice where
  rows : String → String → Option Int32
  entries : Option ClientInventoryMap
  full : Prop
  history : List LogRow

def World.slice (w : World) (client : String) : Slice where
  rows category item := w.core.stock.find? ⟨client, category, item⟩
  entries := w.core.cache.inventories[client]?
  full := client ∈ w.core.cache.fullyCachedClients
  history := w.journal.logs.filter fun row =>
    row.clientId = some client ∧ row.component = "Inventory"

namespace Slice

/-- `m_inventories[client][category][item] = quantity` -/
def stored (x : Slice) (category item : String) (quantity : Int32) : Slice :=
  { x with entries := some (ClientInventoryMap.put (x.entries.getD ∅) category item quantity) }

def loaded (x : Slice) (map : ClientInventoryMap) : Slice :=
  { x with entries := some map, full := True }

def saved (x : Slice) (category item : String) (quantity : Int32) : Slice :=
  { x with rows := fun category' item' =>
      if category' = category ∧ item' = item then some quantity else x.rows category' item' }

def noted (x : Slice) (rows : List LogRow) : Slice := { x with history := x.history ++ rows }

end Slice

/-- from `w` to `w'` the slice of `me` changes by `g` and no other slice changes -/
def Writes (me : String) (g : Slice → Slice) (w w' : World) : Prop :=
  ∀ client, w'.slice client = if client = me then g (w.slice client) else w.slice client

theorem writes_store (w : World) (me category item : String) (quantity : Int32) :
    Writes me (·.stored category item quantity) w
      ⟨{ w.core with cache := w.core.cache.store me category item quantity }, w.journal⟩ := by
  intro client
  unfold World.slice
  simp only [Cache.inventories_store]
  by_cases hc : client = me
  · subst hc
    rw [if_pos rfl, if_pos rfl]
    unfold Slice.stored
    rw [ExtTreeMap.getD_eq_getD_getElem?]
    rfl
  · rw [if_neg hc, if_neg hc]
    rfl

theorem writes_load (w : World) (me : String) (map : ClientInventoryMap) :
    Writes me (·.loaded map) w
      ⟨{ w.core with cache := w.core.cache.load me map }, w.journal⟩ := by
  intro client
  unfold World.slice
  simp only [Cache.inventories_load]
  by_cases hc : client = me
  · subst hc
    rw [if_pos rfl, if_pos rfl]
    unfold Slice.loaded Cache.load
    simp
  · rw [if_neg hc, if_neg hc]
    unfold Cache.load
    simp [hc]

theorem writes_save {w : World} {me category item : String} {quantity : Int32} {stock : Stock}
    (h : stockAfter w.core me category item quantity = some stock) :
    Writes me (·.saved category item quantity) w
      ⟨{ w.core with stock := stock }, w.journal⟩ := by
  intro client
  unfold World.slice
  simp only [find?_stockAfter h, StockKey.mk.injEq]
  by_cases hc : client = me
  · subst hc
    rw [if_pos rfl]
    simp only [true_and]
    rfl
  · rw [if_neg hc]
    simp only [hc, false_and, if_false]

/-! ## what is read off a slice -/

/-- **The inventory of a client depends on the client's rows only.** -/
theorem fullInventoryOf_congr {stock stock' : Stock} {client : String}
    (h : ∀ category item,
      stock.find? ⟨client, category, item⟩ = stock'.find? ⟨client, category, item⟩) :
    fullInventoryOf stock client = fullInventoryOf stock' client := by
  cases hs : fullInventoryOf stock client with
  | none =>
    cases hs' : fullInventoryOf stock' client with
    | none => rfl
    | some map' =>
      obtain ⟨category, item, hrow⟩ := (describes_fullInventoryOf hs').exists_row
      exact absurd ((h category item).symm.trans (find?_of_fullInventoryOf_none hs _ _)) hrow
  | some map =>
    have hmap := describes_fullInventoryOf hs
    cases hs' : fullInventoryOf stock' client with
    | none =>
      obtain ⟨category, item, hrow⟩ := hmap.exists_row
      exact absurd ((h category item).trans (find?_of_fullInventoryOf_none hs' _ _)) hrow
    | some map' =>
      have hmap' : Describes stock.find? client map' := (describes_fullInventoryOf hs').congr h
      rw [hmap.unique hmap']

theorem stockAfter_isSome_eq (c : Core) (me category item : String) (quantity : Int32) :
    (stockAfter c me category item quantity).isSome =
      ((c.users.find? me).isSome && decide (stockCheck ⟨me, category, item⟩ quantity)) := by
  unfold stockAfter Table.upsert?
  cases c.users.find? me with
  | none => rfl
  | some row =>
    by_cases hcheck : stockCheck ⟨me, category, item⟩ quantity
    · simp [hcheck]
    · simp [hcheck]

/-! ## two states that agree on the slices of some clients -/

/-- what of the core is in no slice -/
def Core.shared (c : Core) : Users × Manager × EventQueues × (Nat → Session) :=
  (c.users, c.manager, c.eventQueueMap, c.sessions)

structure Agree (V : String → Prop) (strict : Prop) (σ τ : String → Slice) (s t : St) : Prop where
  env : s.env = t.env
  inside : ∀ client, V client → s.world.slice client = t.world.slice client
  outside : ∀ client, ¬ V client → s.world.slice client = σ client ∧ t.world.slice client = τ client
  known : ∀ client, V client →
    (s.core.users.find? client).isSome = (t.core.users.find? client).isSome
  shared : strict → s.core.shared = t.core.shared

section Agree
variable {V : String → Prop} {strict : Prop} {σ τ : String → Slice} {s t s' t' : St} {me : String}

theorem Agree.users (h : Agree V strict σ τ s t) (hstrict : strict) :
    s.core.users = t.core.users := congrArg (·.1) (h.shared hstrict)

theorem Agree.manager (h : Agree V strict σ τ s t) (hstrict : strict) :
    s.core.manager = t.core.manager := congrArg (·.2.1) (h.shared hstrict)

theorem Agree.sessions (h : Agree V strict σ τ s t) (hstrict : strict) :
    s.core.sessions = t.core.sessions := congrArg (·.2.2.2) (h.shared hstrict)

theorem Agree.next (h : Agree V strict σ τ s t) : Agree V strict σ τ s.next t.next :=
  ⟨funext fun n => congrFun h.env (n + 1), h.inside, h.outside, h.known, h.shared⟩

/-- the same write to the slice of a client in `V` -/
theorem Agree.write (h : Agree V strict σ τ s t) (hme : V me) {g : Slice → Slice}
    (hs : Writes me g s.world s'.world) (ht : Writes me g t.world t'.world)
    (henv : s'.env = s.env ∧ t'.env = t.env)
    (hshared : s'.core.shared = s.core.shared ∧ t'.core.shared = t.core.shared) :
    Agree V strict σ τ s' t' := by
  have hsusers : s'.core.users = s.core.users := congrArg (·.1) hshared.1
  have htusers : t'.core.users = t.core.users := congrArg (·.1) hshared.2
  refine ⟨?_, ?_, ?_, ?_, ?_⟩
  · rw [henv.1, henv.2, h.env]
  · intro client hclient
    rw [hs client, ht client, h.inside client hclient]
  · intro client hclient
    have hne : client ≠ me := fun e => hclient (e ▸ hme)
    rw [hs client, ht client, if_neg hne, if_neg hne]
    exact h.outside client hclient
  · intro client hclient
    rw [hsusers, htusers]
    exact h.known client hclient
  · intro hstrict
    rw [hshared.1, hshared.2, h.shared hstrict]

/-- the same change to what is in no slice -/
theorem Agree.reshare (h : Agree V strict σ τ s t) (henv : s'.env = t'.env)
    (hs : s'.world.slice = s.world.slice) (ht : t'.world.slice = t.world.slice)
    (hshared : s'.core.shared = t'.core.shared) : Agree V strict σ τ s' t' := by
  have husers : s'.core.users = t'.core.users := congrArg (·.1) hshared
  refine ⟨henv, ?_, ?_, ?_, fun _ => hshared⟩
  · intro client hclient
    rw [hs, ht, h.inside client hclient]
  · intro client hclient
    rw [hs, ht]
    exact h.outside client hclient
  · intro client _
    rw [husers]

/-! ## calls to the outside, counters -/

theorem ask_couples : ask.Couples (Agree V strict σ τ) := by
  intro s t h
  rw [run_ask, run_ask, h.env]
  exact ⟨rfl, h.next⟩

/-- a change of the journal that adds no log row -/
theorem journal_couples {f : St → St} (hcore : ∀ s, (f s).core = s.core)
    (henv : ∀ s, (f s).env = s.env) (hlogs : ∀ s, (f s).journal.logs = s.journal.logs) :
    (Prog.modify f : M Unit).Couples (Agree V strict σ τ) := by
  refine Prog.couples_modify fun s t h => ?_
  have hslice : ∀ s client, (f s).world.slice client = s.world.slice client := by
    intro s client
    unfold World.slice St.world
    simp only [hcore, hlogs]
  refine ⟨?_, ?_, ?_, ?_, ?_⟩
  · rw [henv, henv, h.env]
  · intro client hclient
    rw [hslice, hslice, h.inside client hclient]
  · intro client hclient
    rw [hslice, hslice]
    exact h.outside client hclient
  · intro client hclient
    rw [hcore, hcore]
    exact h.known client hclient
  · intro hstrict
    rw [hcore, hcore]
    exact h.shared hstrict

theorem incrementMessage_couples (p : Protocol) (d : Direction) :
    (incrementMessage p d).Couples (Agree V strict σ τ) := by
  unfold incrementMessage
  exact journal_couples (fun _ => rfl) (fun _ => rfl) fun _ => rfl

theorem incrementError_couples (p : Protocol) (d : Direction) :
    (incrementError p d).Couples (Agree V strict σ τ) := by
  unfold incrementError
  exact journal_couples (fun _ => rfl) (fun _ => rfl) fun _ => rfl

theorem incrementReconnection_couples (p : Protocol) (d : Direction) :
    (incrementReconnection p d).Couples (Agree V strict σ τ) := by
  unfold incrementReconnection
  exact journal_couples (fun _ => rfl) (fun _ => rfl) fun _ => rfl

/-! ## log entries -/

theorem slice_logged (s : St) (level : LogLevel) (component message : String)
    (clientId : Option String) (client : String) :
    (s.logged level component message clientId).world.slice client =
      if clientId = some client ∧ component = "Inventory" then
        (s.world.slice client).noted (s.loggedRow level component message clientId).toList
      else s.world.slice client := by
  rw [St.logged_eq]
  unfold World.slice St.world
  simp only [List.filter_append]
  unfold St.loggedRow
  split
  · split <;> simp [Slice.noted]
  · split
    · rename_i hrow
      simp [Slice.noted, hrow]
    · rename_i hrow
      simp [hrow]

theorem loggedRow_congr (h : Agree V strict σ τ s t) (level : LogLevel) (component message : String)
    (hme : V me) : s.loggedRow level component message (some me) =
      t.loggedRow level component message (some me) := by
  have hknown : (s.core.users.find? me).isNone = (t.core.users.find? me).isNone := by
    rw [← Option.not_isSome, ← Option.not_isSome, h.known me hme]
  unfold St.loggedRow
  simp only [Option.any_some, h.env, hknown]

/-- **A log entry is seen in the history of its client only.** -/
theorem log_couples (level : LogLevel) (component message : String) (clientId : Option String)
    (hV : ∀ client, clientId = some client → component = "Inventory" → V client) :
    (log level component message clientId).Couples (Agree V strict σ τ) := by
  intro s t h
  rw [run_log, run_log]
  refine ⟨rfl, ?_, ?_, ?_, ?_, ?_⟩
  · rw [St.logged_env, St.logged_env, h.env]
  · intro client hclient
    rw [slice_logged, slice_logged]
    by_cases hrow : clientId = some client ∧ component = "Inventory"
    · rw [if_pos hrow, if_pos hrow, hrow.1, loggedRow_congr h _ _ _ hclient,
        h.inside client hclient]
    · rw [if_neg hrow, if_neg hrow, h.inside client hclient]
  · intro client hclient
    have hrow : ¬ (clientId = some client ∧ component = "Inventory") :=
      fun hrow => hclient (hV client hrow.1 hrow.2)
    rw [slice_logged, slice_logged, if_neg hrow, if_neg hrow]
    exact h.outside client hclient
  · intro client hclient
    rw [St.logged_core, St.logged_core]
    exact h.known client hclient
  · intro hstrict
    rw [St.logged_core, St.logged_core]
    exact h.shared hstrict

/-- an entry of another component is in no history -/
theorem log_aside_couples (level : LogLevel) {component : String} (message : String)
    (clientId : Option String) (hc : component ≠ "Inventory") :
    (log level component message clientId).Couples (Agree V strict σ τ) :=
  log_couples level component message clientId fun _ _ h => absurd h hc

theorem log_then_couples {α : Type} {level : LogLevel} {component message : String}
    {clientId : Option String} {p : M α} (hc : component ≠ "Inventory")
    (hp : p.Couples (Agree V strict σ τ)) :
    (log level component message clientId >>= fun _ => p).Couples (Agree V strict σ τ) :=
  Prog.couples_bind (log_aside_couples level message clientId hc) fun _ => hp

theorem count_then_couples {α : Type} {protocol : Protocol} {direction : Direction} {p : M α}
    (hp : p.Couples (Agree V strict σ τ)) :
    (incrementError protocol direction >>= fun _ => p).Couples (Agree V strict σ τ) :=
  Prog.couples_bind (incrementError_couples protocol direction) fun _ => hp

/-! ## the calls of `Inventory` and `Storage` for one client -/

theorem saveStockUpdate_couples (hme : V me) (category item : String) (quantity : Int32) :
    (saveStockUpdate me category item quantity).Couples (Agree V strict σ τ) := by
  intro s t h
  rw [run_saveStockUpdate, run_saveStockUpdate, h.env]
  cases (t.env 0).fails with
  | true => exact ⟨rfl, h.next⟩
  | false =>
    simp only [Bool.false_eq_true, if_false]
    have hsome : (stockAfter s.core me category item quantity).isSome =
        (stockAfter t.core me category item quantity).isSome := by
      rw [stockAfter_isSome_eq, stockAfter_isSome_eq, h.known me hme]
    cases hs : stockAfter s.core me category item quantity with
    | none =>
      cases ht : stockAfter t.core me category item quantity with
      | none => exact ⟨rfl, h.next⟩
      | some stock' => simp [hs, ht] at hsome
    | some stock =>
      cases ht : stockAfter t.core me category item quantity with
      | none => simp [hs, ht] at hsome
      | some stock' =>
        exact ⟨rfl, h.next.write hme (writes_save (w := s.world) hs)
          (writes_save (w := t.world) ht) ⟨rfl, rfl⟩ ⟨rfl, rfl⟩⟩

theorem store_couples (hme : V me) (category item : String) (quantity : Int32) :
    (setCore fun c => { c with cache := c.cache.store me category item quantity }).Couples
      (Agree V strict σ τ) :=
  Prog.couples_modify fun s t h => h.write hme (writes_store s.world me category item quantity)
    (writes_store t.world me category item quantity) ⟨rfl, rfl⟩ ⟨rfl, rfl⟩

theorem updateStock_couples (hme : V me) (category item : String) (quantity : Int32) :
    (updateStock me category item quantity).Couples (Agree V strict σ τ) := by
  refine Prog.couples_ite (fun _ => ?_) fun _ =>
    Prog.couples_ite (fun _ => Prog.couples_pure _) fun _ => ?_
  · -- the entry about a negative quantity names no client
    refine Prog.couples_bind (log_couples _ _ _ _ ?_) fun _ => Prog.couples_pure _
    intro client hnone
    cases hnone
  · refine Prog.couples_bind (saveStockUpdate_couples hme category item quantity) fun _ => ?_
    refine Prog.couples_bind (log_couples _ _ _ _ ?_) fun _ => ?_
    · intro client hclient _
      cases hclient
      exact hme
    · exact Prog.couples_bind (store_couples hme category item quantity) fun _ =>
        Prog.couples_pure _

theorem stock?_congr (h : Agree V strict σ τ s t) (hme : V me) (category item : String) :
    s.core.cache.stock? me category item = t.core.cache.stock? me category item := by
  have hentries : s.core.cache.inventories[me]? = t.core.cache.inventories[me]? :=
    congrArg Slice.entries (h.inside me hme)
  rw [Cache.stock?_eq, Cache.stock?_eq, hentries]

theorem rows_congr (h : Agree V strict σ τ s t) (hme : V me) (category item : String) :
    s.core.stock.find? ⟨me, category, item⟩ = t.core.stock.find? ⟨me, category, item⟩ :=
  congrArg (fun x => x.rows category item) (h.inside me hme)

theorem getStock_couples (hme : V me) (category item : String) :
    (getStock me category item).Couples (Agree V strict σ τ) := by
  intro s t h
  have hcache := stock?_congr h hme category item
  cases ht : t.core.cache.stock? me category item with
  | some quantity =>
    rw [run_getStock_hit (hcache.trans ht), run_getStock_hit ht]
    exact ⟨rfl, h⟩
  | none =>
    rw [run_getStock_miss (hcache.trans ht), run_getStock_miss ht, h.env,
      rows_congr h hme category item]
    cases (t.env 0).fails with
    | true => exact ⟨rfl, h.next⟩
    | false =>
      simp only [Bool.false_eq_true, if_false]
      cases t.core.stock.find? ⟨me, category, item⟩ with
      | none => exact ⟨rfl, h.next⟩
      | some quantity =>
        exact ⟨rfl, h.next.write hme (writes_store s.world me category item quantity)
          (writes_store t.world me category item quantity) ⟨rfl, rfl⟩ ⟨rfl, rfl⟩⟩

theorem summaryLocked_couples (hme : V me) :
    (summaryLocked me).Couples (Agree V strict σ τ) := by
  intro s t h
  have hfull : me ∈ s.core.cache.fullyCachedClients ↔ me ∈ t.core.cache.fullyCachedClients :=
    iff_of_eq (congrArg Slice.full (h.inside me hme))
  by_cases ht : me ∈ t.core.cache.fullyCachedClients
  · have hentries : s.core.cache.inventories[me]? = t.core.cache.inventories[me]? :=
      congrArg Slice.entries (h.inside me hme)
    rw [run_summaryLocked_hit (hfull.mpr ht), run_summaryLocked_hit ht, hentries]
    exact ⟨rfl, h⟩
  · rw [run_summaryLocked_miss fun hs => ht (hfull.mp hs), run_summaryLocked_miss ht, h.env,
      fullInventoryOf_congr (rows_congr h hme)]
    cases (t.env 0).fails with
    | true => exact ⟨rfl, h.next⟩
    | false =>
      simp only [Bool.false_eq_true, if_false]
      cases fullInventoryOf t.core.stock me with
      | none => exact ⟨rfl, h.next⟩
      | some map =>
        exact ⟨rfl, h.next.write hme (writes_load s.world me map) (writes_load t.world me map)
          ⟨rfl, rfl⟩ ⟨rfl, rfl⟩⟩

theorem getInventorySummary_couples (hme : V me) :
    (getInventorySummary me).Couples (Agree V strict σ τ) := by
  refine Prog.couples_bind (log_couples _ _ _ _ ?_) fun _ => summaryLocked_couples hme
  intro client hclient _
  cases hclient
  exact hme

theorem getInventoryHistoryTransaction_couples (hme : V me) :
    (getInventoryHistoryTransaction me).Couples (Agree V strict σ τ) := by
  intro s t h
  have hhistory := congrArg Slice.history (h.inside me hme)
  have hrows : historyOf s.journal.logs me = historyOf t.journal.logs me := by
    unfold historyOf
    congr 1
  rw [run_getInventoryHistoryTransaction, run_getInventoryHistoryTransaction, h.env, hrows]
  exact ⟨rfl, h.next⟩

end Agree

end Logistics
