import Logistics.Lib.Trace
import Logistics.Session.History

/-!
# The server as a ledger

What the server is for: every client keeps a book of quantities, writes entries of it with
`update_stock` and reads them with `get_stock` and `get_inventory`.  The ledger is one map for all
clients (`PlainStore`); it knows no cache, no database and no session.

An `Exchange` is what is seen of a command from outside: who sent it, the request and the reply.
`Ledger.after` is the ledger after an exchange, read off the request and the reply alone, and
`Ledger.Tells` says that the reply is the one the ledger gives, or says that a database call failed.

* `getStock_result`, `getInventorySummary_result`   the reads of `Inventory`;
* `Legal`                 every reply of a list of exchanges is the ledger's at that moment;
* `clients_see_ledger`    **the exchanges of every run are legal, and the table is the ledger**.
-/

namespace Logistics
open Runs

/-! ## the ledger -/

/-- one command of a session that is logged in, and the reply; `env` is what the environment answers
while it is handled -/
structure Exchange where
  client : String
  request : Json
  answer : Reply
  env : Nat → Answer

/-- which answer the `Storage` call of a command gets: before it comes one log entry, which takes two
answers, and in `get_inventory` a second one -/
def storageAnswer (request : Json) : Nat :=
  if request.atString "command" = .ok "get_inventory" then 4 else 2

/-- the `Storage` call of the command fails -/
def Exchange.Faulty (e : Exchange) : Prop := (e.env (storageAnswer e.request)).fails = true

def stockAnswer (L : Libs) (category item : String) : Option Int32 → Reply
  | some quantity => .dumped L
      ((statusReply "success" "Stock data retrieved successfully.").set "data"
        (.obj [("category", .str category), ("item", .str item),
          ("quantity", .int quantity.toInt)]))
  | none => .dumped L
      (statusReply "error" "Item not found for the specified client/category.")

def summaryAnswer (L : Libs) (client : String) : Option ClientInventoryMap → Reply
  | some map => .dumped L
      ((statusReply "success" ("Inventory data for client " ++ client ++ " retrieved.")).set "data"
        (inventoryJson map))
  | none => .dumped L
      (statusReply "error" ("Inventory data for client " ++ client ++ " is empty."))

def updateAnswer (L : Libs) (client category item : String) (quantity : Int32) : Reply :=
  if isHub client then
    .dumped L (statusReply "error" "update_stock command is not allowed for Hub clients.")
  else if quantity < 0 then
    .dumped L (statusReply "error" "Update rejected: Quantity cannot be negative.")
  else if (validateInventory category item).success = false then
    .dumped L (statusReply "error" (validateInventory category item).message)
  else
    .dumped L (statusReply "success" ("Stock for '" ++ category ++ ":" ++ item ++
      "' successfully updated to " ++ toString quantity.toInt ++ "."))

namespace Ledger

/-- a successful `update_stock` writes its entry -/
def after (L : Libs) (ledger : PlainStore) (e : Exchange) : PlainStore :=
  if e.answer.status = some "success" ∧ e.request.atString "command" = .ok "update_stock" then
    match updateFields L.floatCast e.request with
    | .ok (category, item, quantity) =>
      Function.update ledger ⟨e.client, category, item⟩ (some quantity)
    | .error _ => ledger
  else ledger

/-- the reply is `answer`, or a database call failed and the reply says so -/
def Gives (L : Libs) (e : Exchange) (answer : Reply) : Prop :=
  e.answer = answer ∨ e.Faulty ∧ e.answer = (internalError L).1

structure Tells (L : Libs) (ledger : PlainStore) (e : Exchange) : Prop where
  stock : ∀ category item, e.request.atString "command" = .ok "get_stock" →
    stockFields e.request = .ok (category, item) →
      Gives L e (stockAnswer L category item (ledger ⟨e.client, category, item⟩))
  summary : e.request.atString "command" = .ok "get_inventory" →
    Gives L e (summaryAnswer L e.client (plainSummary ledger e.client))
  update : ∀ category item quantity, e.request.atString "command" = .ok "update_stock" →
    updateFields L.floatCast e.request = .ok (category, item, quantity) →
      Gives L e (updateAnswer L e.client category item quantity)

/-- the ledger after a list of exchanges -/
def book (L : Libs) (ledger : PlainStore) (es : List Exchange) : PlainStore :=
  es.foldl (after L) ledger

def Legal (L : Libs) (ledger : PlainStore) : List Exchange → Prop
  | [] => True
  | e :: es => Tells L ledger e ∧ Legal L (after L ledger e) es

theorem book_append (L : Libs) (ledger : PlainStore) (es es' : List Exchange) :
    book L ledger (es ++ es') = book L (book L ledger es) es' := List.foldl_append

theorem legal_append (L : Libs) (ledger : PlainStore) (es es' : List Exchange) :
    Legal L ledger (es ++ es') ↔ Legal L ledger es ∧ Legal L (book L ledger es) es' := by
  induction es generalizing ledger with
  | nil => exact (iff_of_eq (true_and _)).symm
  | cons e es ih =>
    show Tells L ledger e ∧ Legal L _ (es ++ es') ↔ (Tells L ledger e ∧ Legal L _ es) ∧ _
    rw [ih, and_assoc]
    rfl

end Ledger

/-! ## the exchanges of a run -/

def exchanges (L : Libs) (cfg : Config) (w : World) : LifeInput → List Exchange
  | .restart _ _ => []
  | .input i =>
    match i.what with
    | .alert _ => []
    | .message sid text =>
      if (w.core.sessions sid).isAuthenticated then
        match L.parse text, ((processMessage L cfg sid text).run (w.before i)).1 with
        | some request, .ok (answer, _) =>
          [⟨(w.core.sessions sid).clientID, request, answer, i.env⟩]
        | _, _ => []
      else []

/-! ## what the reads of Inventory give -/

theorem fst_bind_pure {α β : Type} (p : M α) (f : α → β) (s : St) :
    ((p >>= fun a => pure (f a)).run s).1 = (p.run s).1.map f := by
  rw [Prog.run_bind]
  generalize p.run s = r
  obtain ⟨r, s'⟩ := r
  cases r with
  | ok a => rfl
  | error e => rfl

/-- a read either gives what the plain store gives, or its `Storage` call, which gets answer `n`,
failed -/
def StoreRead {α : Type} (n : Nat) (s : St) (a : α) (r : Except Exn α) : Prop :=
  r = .ok a ∨ r = .error (.sqlite .failure) ∧ (s.env n).fails = true

theorem storeRead_of_refined {α : Type} (call : InventoryCall) {p : M α}
    {f : α → InventoryReply} {s : St} {n : Nat}
    (hperform : call.perform = p >>= fun a => pure (f a)) (hinj : Function.Injective f)
    (hfails : ∀ e, (p.run s).1 = .error e → (s.env n).fails = true)
    (hread : ∀ client category item quantity, call ≠ .updateStock client category item quantity)
    {a : α} (hplain : ∀ store : PlainStore, store = s.core.stock.find? →
      (plainStep store (call, none)).1 = .ok (f a))
    (h : Refined call s (call.perform.run s)) : StoreRead n s a (p.run s).1 := by
  have hmap := fst_bind_pure p f s
  rw [← hperform] at hmap
  rcases h with ⟨e, herror, -, hfault⟩ | ⟨answer, hanswer, hstep, -⟩
  · rcases hfault with ⟨rfl, -⟩ | ⟨-, client, category, item, quantity, hcall, -⟩
    · rw [herror] at hmap
      cases hp : (p.run s).1 with
      | ok a => rw [hp] at hmap; cases hmap
      | error e =>
        rw [hp] at hmap
        cases hmap
        exact .inr ⟨rfl, hfails _ hp⟩
    · exact absurd hcall (hread client category item quantity)
  · have hfirst := hplain _ rfl
    rw [hstep] at hfirst
    obtain rfl : answer = f a := Except.ok.inj hfirst
    rw [hanswer] at hmap
    cases hp : (p.run s).1 with
    | error e => rw [hp] at hmap; cases hmap
    | ok b =>
      rw [hp] at hmap
      obtain rfl := hinj (Except.ok.inj hmap)
      exact .inl rfl

theorem getStock_fails {client category item : String} {s : St} {e : Exn}
    (h : ((getStock client category item).run s).1 = .error e) : (s.env 0).fails = true := by
  unfold getStock at h
  rw [Prog.run_bind, Prog.run_get] at h
  dsimp only at h
  split at h
  · cases h
  · unfold Storage.getStock at h
    by_contra hok
    rw [Prog.run_bind, Prog.run_bind, run_dbCall, if_neg hok] at h
    dsimp only [Prog.run_bind, Prog.run_get, Prog.run_pure] at h
    split at h
    · cases h
    · cases h

theorem summaryLocked_fails {client : String} {s : St} {e : Exn}
    (h : ((summaryLocked client).run s).1 = .error e) : (s.env 0).fails = true := by
  unfold summaryLocked at h
  rw [Prog.run_bind, Prog.run_get] at h
  dsimp only at h
  split at h
  · cases h
  · unfold getFullInventory at h
    by_contra hok
    rw [Prog.run_bind, Prog.run_bind, run_dbCall, if_neg hok] at h
    dsimp only [Prog.run_bind, Prog.run_get, Prog.run_pure] at h
    split at h
    · cases h
    · cases h

section Reads
variable {s : St} (h : Coherent s.core.stock s.core.cache)
include h

theorem getStock_result (client category item : String) :
    StoreRead 0 s (s.core.stock.find? ⟨client, category, item⟩)
      ((getStock client category item).run s).1 := by
  refine storeRead_of_refined (.getStock client category item) rfl ?_ ?_ ?_ ?_
    (getStock_refined h client category item)
  · exact fun a b hab => InventoryReply.stock.inj hab
  · exact fun e he => getStock_fails he
  · exact fun _ _ _ _ hcall => by cases hcall
  · rintro store rfl
    rfl

theorem getInventorySummary_result (client : String) :
    StoreRead 2 s (plainSummary s.core.stock.find? client)
      ((getInventorySummary client).run s).1 := by
  refine storeRead_of_refined (.getInventorySummary client) rfl ?_ ?_ ?_ ?_
    (getInventorySummary_refined h client)
  · exact fun a b hab => InventoryReply.summary.inj hab
  · intro e he
    unfold getInventorySummary at he
    rw [Prog.run_bind, run_log] at he
    have hfails := summaryLocked_fails he
    rwa [St.logged_env] at hfails
  · exact fun _ _ _ _ hcall => by cases hcall
  · rintro store rfl
    rfl

end Reads

/-! ## what the handlers answer -/

/-- the handler answers, or its `Storage` call, which gets answer `n`, failed -/
def HandlerResult (n : Nat) (s : St) (answer : Reply) (r : Except Exn ProcessResult) : Prop :=
  (∃ keep, r = .ok (answer, keep)) ∨ (∃ e, r = .error (.sqlite e)) ∧ (s.env n).fails = true

section Handlers
variable {L : Libs} {cfg : Config} {me : String} {request : Json} {s : St}

variable (L me) in
theorem handleGetStockCommand_result (h : Coherent s.core.stock s.core.cache)
    {category item : String} (hfields : stockFields request = .ok (category, item)) :
    HandlerResult 0 s (stockAnswer L category item (s.core.stock.find? ⟨me, category, item⟩))
      ((handleGetStockCommand L request me).run s).1 := by
  unfold handleGetStockCommand
  rw [hfields, json_ok_bind]
  unfold catchJson
  rw [Prog.run_tryCatch]
  dsimp only
  rw [Prog.run_bind]
  have hread := getStock_result h me category item
  generalize (getStock me category item).run s = r at hread ⊢
  obtain ⟨r, s'⟩ := r
  rcases hread with hok | ⟨herror, hfails⟩
  · obtain rfl : r = _ := hok
    cases s.core.stock.find? ⟨me, category, item⟩ with
    | none => exact .inl ⟨true, rfl⟩
    | some quantity => exact .inl ⟨true, rfl⟩
  · obtain rfl : r = _ := herror
    exact .inr ⟨⟨_, rfl⟩, hfails⟩

variable (L me) in
theorem handleGetInventoryCommand_result (h : Coherent s.core.stock s.core.cache) :
    HandlerResult 2 s (summaryAnswer L me (plainSummary s.core.stock.find? me))
      ((handleGetInventoryCommand L me).run s).1 := by
  unfold handleGetInventoryCommand
  rw [Prog.run_bind]
  have hread := getInventorySummary_result h me
  generalize (getInventorySummary me).run s = r at hread ⊢
  obtain ⟨r, s'⟩ := r
  rcases hread with hok | ⟨herror, hfails⟩
  · obtain rfl : r = _ := hok
    cases plainSummary s.core.stock.find? me with
    | none =>
      refine .inl ⟨true, ?_⟩
      dsimp only
      rw [Prog.run_bind, run_incrementError]
      simp only [Prog.run_bind, run_log, Prog.run_pure]
      rfl
    | some map =>
      refine .inl ⟨true, ?_⟩
      simp only [Prog.run_bind, run_log, Prog.run_pure]
      rfl
  · obtain rfl : r = _ := herror
    exact .inr ⟨⟨_, rfl⟩, hfails⟩

/-- an update of a user of the table: no constraint refuses it -/
theorem updateStock_result (huser : (s.core.users.find? me).isSome) (hub : isHub me = false)
    (category item : String) (quantity : Int32) :
    HandlerResult 0 s (updateAnswer L me category item quantity)
      ((updateStock me category item quantity >>= updateStockReply L).run s).1 := by
  unfold updateAnswer
  rw [Prog.run_bind, hub, if_neg Bool.false_ne_true]
  by_cases hneg : quantity < 0
  · rw [run_updateStock_negative me category item hneg, if_pos hneg]
    exact .inl ⟨true, rfl⟩
  · rw [if_neg hneg]
    cases hvalid : (validateInventory category item).success with
    | false =>
      rw [run_updateStock_invalid me hneg hvalid, if_pos rfl]
      refine .inl ⟨true, ?_⟩
      dsimp only
      unfold updateStockReply
      rw [hvalid, if_neg Bool.false_ne_true]
      rfl
    | true =>
      obtain ⟨stock, hstock⟩ := stockAfter_isSome huser hvalid quantity
      rw [run_updateStock_valid me hneg hvalid, hstock, if_neg (by decide)]
      cases hfails : (s.env 0).fails with
      | true => exact .inr ⟨⟨_, rfl⟩, hfails⟩
      | false => exact .inl ⟨true, rfl⟩

theorem handleUpdateStockCommand_result (huser : (s.core.users.find? me).isSome)
    {category item : String} {quantity : Int32}
    (hfields : updateFields L.floatCast request = .ok (category, item, quantity)) :
    HandlerResult 0 s (updateAnswer L me category item quantity)
      ((handleUpdateStockCommand L request me).run s).1 := by
  unfold handleUpdateStockCommand
  cases hub : isHub me with
  | true =>
    obtain ⟨s', hrun, -⟩ := run_refuse L "update_stock command is not allowed for Hub clients."
      "update_stock command is not allowed for Hub clients." me s
    rw [if_pos rfl, hrun]
    refine .inl ⟨true, ?_⟩
    unfold updateAnswer
    rw [hub, if_pos rfl]
    rfl
  | false =>
    have hresult := updateStock_result (L := L) huser hub category item quantity
    rw [if_neg Bool.false_ne_true, hfields, json_ok_bind]
    unfold catchJson
    rw [Prog.run_tryCatch]
    dsimp only
    generalize (updateStock me category item quantity >>= updateStockReply L).run s = r
      at hresult ⊢
    obtain ⟨r, s'⟩ := r
    rcases hresult with ⟨keep, hok⟩ | ⟨⟨e, herror⟩, hfails⟩
    · obtain rfl : r = _ := hok
      exact .inl ⟨keep, rfl⟩
    · obtain rfl : r = _ := herror
      exact .inr ⟨⟨e, rfl⟩, hfails⟩

theorem dispatch_get_stock (L : Libs) (cfg : Config) (request : Json) (me : String) :
    dispatch L cfg request me false "get_stock" = handleGetStockCommand L request me := by
  unfold dispatch
  simp

/-- what the `catch` around the commands makes of it -/
theorem answer_of_result {n : Nat} {p : M ProcessResult} {answer answer' : Reply} {keep : Bool}
    (h : HandlerResult n s answer' (p.run s).1)
    (hrun : ((tryCatch p (commandFailed L me)).run s).1 = .ok (answer, keep)) :
    answer = answer' ∨ (s.env n).fails = true ∧ answer = (internalError L).1 := by
  rw [Prog.run_tryCatch] at hrun
  generalize p.run s = r at h hrun
  obtain ⟨r, s'⟩ := r
  rcases h with ⟨keep', hok⟩ | ⟨⟨e, herror⟩, hfails⟩
  · obtain rfl : r = _ := hok
    cases hrun
    exact .inl rfl
  · obtain rfl : r = _ := herror
    refine .inr ⟨hfails, ?_⟩
    simp only [commandFailed, Prog.run_bind, run_log] at hrun
    rw [run_incrementError] at hrun
    cases hrun
    rfl

end Handlers

/-! ## one exchange -/

section Exchange
variable {L : Libs} {cfg : Config} {w : World} {i : Input} {sid : Nat} {text : Bytes}
  {request : Json} {answer : Reply} {keep : Bool} {s' : St}

/-- **A reply tells what the ledger has.** -/
theorem tells_of_run (hcoherent : Coherent w.core.stock w.core.cache)
    (huser : (w.core.users.find? (w.core.sessions sid).clientID).isSome)
    (what : i.what = .message sid text)
    (member : (w.core.sessions sid).isAuthenticated = true)
    (parsed : L.parse text = some request)
    (hrun : (processMessage L cfg sid text).run (w.before i) = (.ok (answer, keep), s')) :
    Ledger.Tells L w.core.stock.find?
      ⟨(w.core.sessions sid).clientID, request, answer, i.env⟩ := by
  have hcore : (received L request (w.before i)).core = w.core := received_core L request _
  have hsent : ∀ command, request.atString "command" = .ok command →
      Sent L (w.core.sessions sid).clientID command w i sid text request :=
    fun command hcommand => ⟨what, ⟨member, rfl⟩, parsed, hcommand⟩
  have hgives : ∀ {command : String} {p : M ProcessResult} {answer' : Reply} {n : Nat},
      request.atString "command" = .ok command → n + 2 = storageAnswer request →
      dispatch L cfg request (w.core.sessions sid).clientID false command = p →
      HandlerResult n (received L request (w.before i)) answer'
        (p.run (received L request (w.before i))).1 →
      Ledger.Gives L ⟨(w.core.sessions sid).clientID, request, answer, i.env⟩ answer' := by
    intro command p answer' n hcommand hn hdispatch hresult
    have hrun' : (processMessage L cfg sid text).run (w.before i) = _ :=
      (hsent command hcommand).run
    rw [hrun, hdispatch] at hrun'
    rcases answer_of_result hresult (congrArg Prod.fst hrun').symm with heq | ⟨hfails, heq⟩
    · exact .inl heq
    · rw [received_env] at hfails
      refine .inr ⟨?_, heq⟩
      show (i.env (storageAnswer request)).fails = true
      rw [← hn]
      exact hfails
  have hcoherent' : Coherent (received L request (w.before i)).core.stock
      (received L request (w.before i)).core.cache := by
    rw [hcore]
    exact hcoherent
  have hother : ∀ {command : String}, request.atString "command" = .ok command →
      command ≠ "get_inventory" → 0 + 2 = storageAnswer request := by
    intro command hcommand hne
    refine (if_neg fun h => hne ?_).symm
    exact Except.ok.inj (hcommand.symm.trans h)
  refine ⟨?_, ?_, ?_⟩
  · intro category item hcommand hfields
    refine hgives hcommand (hother hcommand (by decide)) (dispatch_get_stock L cfg request _) ?_
    have hresult := handleGetStockCommand_result L (w.core.sessions sid).clientID hcoherent' hfields
    rwa [hcore] at hresult
  · intro hcommand
    refine hgives hcommand (if_pos hcommand).symm (dispatch_get_inventory L cfg request _) ?_
    have hresult := handleGetInventoryCommand_result L (w.core.sessions sid).clientID hcoherent'
    rwa [hcore] at hresult
  · intro category item quantity hcommand hfields
    refine hgives hcommand (hother hcommand (by decide)) (dispatch_update_stock L cfg request _) ?_
    exact handleUpdateStockCommand_result (by rw [hcore]; exact huser) hfields

/-- **The table after a command is the ledger after the exchange.** -/
theorem CommandOutcome.ledger {me : String} {c c' : Core} {env : Nat → Answer}
    (h : CommandOutcome L cfg me request c answer c') :
    c'.stock.find? = Ledger.after L c.stock.find? ⟨me, request, answer, env⟩ := by
  unfold Ledger.after
  cases h with
  | refused error => rw [if_neg fun hsuccess => not_success_of_error error hsuccess.1]
  | read success command reads coherent =>
    rw [if_neg]
    rintro ⟨-, hupdate⟩
    refine reads (.inl ?_)
    exact Except.ok.inj (command.symm.trans hupdate)
  | updated success command hub fields natural valid saved =>
    rw [if_pos ⟨success, command⟩]
    dsimp only
    rw [fields]
    funext key
    dsimp only
    rw [find?_stockAfter saved, Function.update_apply]
  | unlocked success command admin fields found saved =>
    rw [if_neg fun hupdate => command_ne command (by decide) hupdate.2]
  | registered success command admin fields saved =>
    rw [if_neg fun hupdate => command_ne command (by decide) hupdate.2]

end Exchange

/-! ## every run -/

/-- what holds after a run with these exchanges -/
structure Booked (L : Libs) (ledger : PlainStore) (es : List Exchange) (w : World) : Prop where
  legal : Ledger.Legal L ledger es
  table : w.core.stock.find? = Ledger.book L ledger es
  coherent : Coherent w.core.stock w.core.cache
  members : Members w

section Runs
variable {L : Libs} {cfg : Config} {ledger : PlainStore} {es : List Exchange} {w : World}

/-- an input without an exchange leaves the table alone -/
theorem Booked.aside (h : Booked L ledger es w) {w' : World}
    (hstock : w'.core.stock = w.core.stock) (hcoherent : Coherent w'.core.stock w'.core.cache)
    (hmembers : Members w') : Booked L ledger (es ++ []) w' := by
  rw [List.append_nil]
  exact ⟨h.legal, by rw [hstock]; exact h.table, hcoherent, hmembers⟩

theorem Booked.exchange (h : Booked L ledger es w) {e : Exchange}
    (htells : Ledger.Tells L w.core.stock.find? e) {w' : World}
    (htable : w'.core.stock.find? = Ledger.after L w.core.stock.find? e)
    (hcoherent : Coherent w'.core.stock w'.core.cache) (hmembers : Members w') :
    Booked L ledger (es ++ [e]) w' := by
  refine ⟨?_, ?_, hcoherent, hmembers⟩
  · rw [Ledger.legal_append, ← h.table]
    exact ⟨h.legal, htells, trivial⟩
  · rw [Ledger.book_append, ← h.table]
    exact htable

/-- an input is a command of a session that is logged in, or it leaves the rows and the hashes -/
theorem exchanges_cases {P : List Exchange → Core → Prop} (i : Input)
    (haside : ∀ c, c.stock = w.core.stock → hashOf c.users = hashOf w.core.users → P [] c)
    (hcommand : ∀ sid text request answer keep s', i.what = .message sid text →
      (w.core.sessions sid).isAuthenticated = true → L.parse text = some request →
      (processMessage L cfg sid text).run (w.before i) = (.ok (answer, keep), s') →
      CommandOutcome L cfg (w.core.sessions sid).clientID request w.core answer s'.core →
        P [⟨(w.core.sessions sid).clientID, request, answer, i.env⟩] s'.core) :
    P (exchanges L cfg w (.input i)) (after L cfg w i) := by
  have hguest : ∀ {sid text}, i.what = .message sid text →
      (w.core.sessions sid).isAuthenticated = false → exchanges L cfg w (.input i) = [] := by
    intro sid text what guest
    simp only [exchanges, what, guest, Bool.false_eq_true, if_false]
  have hstepped := stepped_after L cfg w i
  generalize hc : after L cfg w i = c at hstepped ⊢
  cases hstepped with
  | login what success hrow hl effect =>
    rw [hguest what (LogsIn.guest ⟨_, what, success⟩)]
    exact haside c effect.stock effect.users.hashOf
  | guest what guest noLogin effect =>
    rw [hguest what guest]
    exact haside c effect.stock effect.users.hashOf
  | invalid what member text_eq =>
    simp only [exchanges, what, member, if_true, text_eq]
    exact haside _ rfl rfl
  | alert what noLock effect =>
    simp only [exchanges, what]
    exact haside c effect.stock (congrArg hashOf effect.users)
  | alertLock what call change effect =>
    simp only [exchanges, what]
    exact haside c (effect.stock.trans change.stock)
      ((congrArg hashOf effect.users).trans change.hashOf)
  | @command sid text request _ what member parsed effect =>
    obtain ⟨answer, keep, s', hrun, houtcome⟩ :=
      @processMessage_outcome L cfg sid text request (w.before i) parsed member
    have hcore : c = s'.core := by
      rw [← hc, after_message what, hrun]
    simp only [exchanges, what, member, if_true, parsed, hrun]
    rw [hcore]
    exact hcommand sid text request answer keep s' what member parsed hrun houtcome

theorem booked_input (i : Input) (h : Booked L ledger es w) (j : Journal) :
    Booked L ledger (es ++ exchanges L cfg w (.input i)) ⟨after L cfg w i, j⟩ := by
  refine exchanges_cases (P := fun new c => Coherent c.stock c.cache → Members ⟨c, j⟩ →
    Booked L ledger (es ++ new) ⟨c, j⟩) i ?_ ?_ (after_coherent i h.coherent)
    ((stepped_after L cfg w i).members h.members j)
  · exact fun c hstock _ hcoherent hmembers => h.aside hstock hcoherent hmembers
  · intro sid text request answer keep s' what member parsed hrun houtcome hcoherent hmembers
    refine h.exchange ?_ houtcome.ledger hcoherent hmembers
    exact tells_of_run h.coherent (h.members sid _ ⟨member, rfl⟩) what member parsed hrun

theorem booked_restart (ips : Nat → String) (env : Nat → Answer) (h : Booked L ledger es w) :
    Booked L ledger (es ++ exchanges L cfg w (.restart ips env))
      ((setupServer L).run ((w.reopened ips).facing env)).2.world := by
  obtain ⟨users, hcore, -⟩ := setupServer_core L ((w.reopened ips).facing env)
  refine h.aside ?_ (restart_coherent L w ips env) (members_restart L ips env w)
  show ((setupServer L).run ((w.reopened ips).facing env)).2.core.stock = _
  rw [hcore]
  rfl

end Runs

theorem booked_run (L : Libs) (cfg : Config) (core : Core) (journal : Journal)
    (ips : Nat → String) (inputs : List LifeInput) (w : World)
    (hrun : runFrom (lifeStep L cfg) (.start { core with cache := .empty } journal ips) inputs =
      some w) :
    Booked L core.stock.find? (trace (lifeStep L cfg) (exchanges L cfg)
      (.start { core with cache := .empty } journal ips) inputs) w := by
  have hstart : Booked L core.stock.find? [] (.start { core with cache := .empty } journal ips) := by
    refine ⟨trivial, rfl, coherent_empty core.stock, ?_⟩
    rintro sid user ⟨hauth, -⟩
    cases hauth
  refine run_trace_induction (lifeStep L cfg) (exchanges L cfg)
    (P := Booked L core.stock.find?) hstart ?_ inputs w hrun
  intro es w i w' h hstep
  cases i with
  | input i =>
    obtain rfl := Option.some.inj hstep
    exact booked_input i h _
  | restart ips env =>
    obtain rfl := Option.some.inj hstep
    exact booked_restart ips env h

/-- **What the clients see is a ledger.** -/
theorem clients_see_ledger (L : Libs) (cfg : Config) (core : Core) (journal : Journal)
    (ips : Nat → String) (inputs : List LifeInput) (w : World)
    (hrun : runFrom (lifeStep L cfg) (.start { core with cache := .empty } journal ips) inputs =
      some w) :
    Ledger.Legal L core.stock.find? (trace (lifeStep L cfg) (exchanges L cfg)
        (.start { core with cache := .empty } journal ips) inputs) ∧
      w.core.stock.find? = Ledger.book L core.stock.find? (trace (lifeStep L cfg)
        (exchanges L cfg) (.start { core with cache := .empty } journal ips) inputs) := by
  have hbooked := booked_run L cfg core journal ips inputs w hrun
  exact ⟨hbooked.legal, hbooked.table⟩

/-- alice logs in and reports five units of water: the reply is the ledger's, and the table at the end
is the ledger -/
theorem alice_sees_ledger :
    Ledger.Legal (.known [aliceLogin, waterUpdate]) aliceStart.core.stock.find?
        (trace (lifeStep (.known [aliceLogin, waterUpdate]) .sample)
          (exchanges (.known [aliceLogin, waterUpdate]) .sample) aliceStart aliceStocks) ∧
      aliceStocked.core.stock.find? =
        Ledger.book (.known [aliceLogin, waterUpdate]) aliceStart.core.stock.find?
          (trace (lifeStep (.known [aliceLogin, waterUpdate]) .sample)
            (exchanges (.known [aliceLogin, waterUpdate]) .sample) aliceStart aliceStocks) ∧
      aliceStocked.core.stock.find? ⟨"alice", "food", "water"⟩ = some 5 := by
  obtain ⟨hlegal, htable⟩ := clients_see_ledger (.known [aliceLogin, waterUpdate]) .sample
    (.boot aliceUsers .empty fun _ => "") .empty (fun _ => "10.0.0.1") aliceStocks aliceStocked
    (Option.some_get aliceStocks_isSome).symm
  exact ⟨hlegal, htable, by decide⟩

end Logistics
