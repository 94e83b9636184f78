import Logistics.Session.Rows
import Logistics.Session.Schema

/-!
# The quantity of an update

A JSON integer may be as large as `2^64 - 1`; `handleUpdateStockCommand` converts it to an `int`
with a `static_cast` and looks at its sign afterwards.

* `UpdateEnd`           how an update ends, in the table, the cache and the reply;
* `QuantityKept`        a success stores and reports the integer that was sent;
* `quantity_kept_iff`   **true of an `int`, and where the low 32 bits are negative**.
-/

namespace Logistics

variable {L : Libs} {me category item : String} {quantity : Int32} {request : Json} {s : St}
  {n : Int}

/-! ## one update -/

/-- the ways in which an update of `quantity` units ends, from the core `c` -/
inductive UpdateEnd (L : Libs) (me category item : String) (quantity : Int32) (c : Core) :
    Except Exn ProcessResult × St → Prop
  | refused {answer : Reply} {keep : Bool} {s : St} (error : answer.status = some "error")
      (core : s.core = c) : UpdateEnd L me category item quantity c (.ok (answer, keep), s)
  | threw {e : Exn} {s : St} (core : s.core = c) :
      UpdateEnd L me category item quantity c (.error e, s)
  | stored {stock : Stock} {s : St} (natural : ¬ quantity < 0)
      (saved : stockAfter c me category item quantity = some stock)
      (core : s.core = { c with
        stock := stock, cache := c.cache.store me category item quantity }) :
      UpdateEnd L me category item quantity c
        (.ok (reply L "success" (stockUpdated category item quantity).message), s)

theorem run_refuse (L : Libs) (message note clientId : String) (s : St) :
    ∃ s', (refuse L message note clientId).run s = (.ok (reply L "error" message), s') ∧
      s'.core = s.core := by
  have hcore := refuse_core L message note clientId s
  unfold refuse at hcore ⊢
  rw [Prog.run_bind, run_incrementError] at hcore ⊢
  simp only [Prog.run_bind, run_log, Prog.run_pure] at hcore ⊢
  exact ⟨_, rfl, hcore⟩

theorem refuse_end {c : Core} (hs : s.core = c) (message note : String) :
    UpdateEnd L me category item quantity c ((refuse L message note me).run s) := by
  obtain ⟨s', hrun, hcore⟩ := run_refuse L message note me s
  rw [hrun]
  exact .refused (status_reply L _ _) (hcore.trans hs)

theorem updateStock_end (me category item : String) (quantity : Int32) (s : St) :
    UpdateEnd L me category item quantity s.core
      ((updateStock me category item quantity >>= updateStockReply L).run s) := by
  rw [Prog.run_bind]
  by_cases hneg : quantity < 0
  · rw [run_updateStock_negative me category item hneg]
    exact .refused (status_reply L _ _) (St.logged_core s _ _ _ _)
  · cases hvalid : (validateInventory category item).success with
    | false =>
      rw [run_updateStock_invalid me hneg hvalid]
      dsimp only
      unfold updateStockReply
      rw [hvalid, if_neg Bool.false_ne_true]
      exact .refused (status_reply L _ _) rfl
    | true =>
      rw [run_updateStock_valid me hneg hvalid]
      cases (s.env 0).fails with
      | true => exact .threw rfl
      | false =>
        simp only [Bool.false_eq_true, if_false]
        cases hsaved : stockAfter s.core me category item quantity with
        | none => exact .threw rfl
        | some stock => exact .stored hneg hsaved rfl

/-- **An update whose fields are read ends in one of these ways.** -/
theorem handleUpdateStockCommand_end
    (hfields : updateFields L.floatCast request = .ok (category, item, quantity)) (s : St) :
    UpdateEnd L me category item quantity s.core
      ((handleUpdateStockCommand L request me).run s) := by
  unfold handleUpdateStockCommand
  cases isHub me with
  | true =>
    rw [if_pos rfl]
    exact refuse_end rfl _ _
  | false =>
    rw [if_neg Bool.false_ne_true, hfields, json_ok_bind]
    unfold catchJson
    rw [Prog.run_tryCatch]
    have hend := @updateStock_end L me category item quantity s
    dsimp only
    generalize (updateStock me category item quantity >>= updateStockReply L).run s = r at hend ⊢
    obtain ⟨r, s'⟩ := r
    cases hend with
    | refused error core => exact .refused error core
    | stored natural saved core => exact .stored natural saved core
    | @threw e _ core =>
      cases e with
      | json e => exact refuse_end core _ _
      | sqlite e => exact .threw core

/-! ## the integer that was sent -/

structure UpdateSent (L : Libs) (sid : Nat) (text : Bytes) (s : St) (payload : Json) (n : Int) :
    Prop where
  member : (s.core.sessions sid).isAuthenticated = true
  request : ∃ request, L.parse text = some request ∧
    request.atString "command" = .ok "update_stock" ∧ request.atKey "payload" = .ok payload
  quantity : payload.atKey "quantity" = .ok (.int n)

/-- the `int`s -/
def FitsInt (n : Int) : Prop := -2 ^ 31 ≤ n ∧ n < 2 ^ 31

/-- the integer `n` is what the table, the cache and the reply show -/
def Shows (me : String) (payload : Json) (n : Int) (answer : Reply) (c : Core) : Prop :=
  ∃ category item q, payload.atString "category" = .ok category ∧
    payload.atString "item" = .ok item ∧ q.toInt = n ∧
    c.stock.find? ⟨me, category, item⟩ = some q ∧ c.cache.stock? me category item = some q ∧
    answer.body = statusReply "success" ("Stock for '" ++ category ++ ":" ++ item ++
      "' successfully updated to " ++ toString n ++ ".")

/-- Whoever sends the integer `n`, and whenever: a success shows `n`, and if `n` is no `int` the
reply is an error and nothing changes. -/
def QuantityKept (L : Libs) (cfg : Config) (n : Int) : Prop :=
  ∀ sid text s payload, UpdateSent L sid text s payload n →
  ∀ answer keep s', (processMessage L cfg sid text).run s = (.ok (answer, keep), s') →
    (answer.status = some "success" →
      Shows (s.core.sessions sid).clientID payload n answer s'.core) ∧
    (¬ FitsInt n → answer.status = some "error" ∧ s'.core = s.core)

/-- the fields of the request, if there is a category and an item -/
theorem updateFields_of_payload {cast : FloatCast} {payload : Json}
    (hpayload : request.atKey "payload" = .ok payload)
    (hquantity : payload.atKey "quantity" = .ok (.int n)) :
    (∃ e, updateFields cast request = .error e) ∨
      ∃ category item, payload.atString "category" = .ok category ∧
        payload.atString "item" = .ok item ∧
        updateFields cast request = .ok (category, item, Int32.ofInt n) := by
  unfold updateFields
  simp only [bind, Except.bind, hpayload]
  cases payload.atString "category" with
  | error e => exact .inl ⟨e, rfl⟩
  | ok category =>
    cases payload.atString "item" with
    | error e => exact .inl ⟨e, rfl⟩
    | ok item =>
      refine .inr ⟨category, item, rfl, rfl, ?_⟩
      simp only [hquantity]
      rfl

/-- a request whose fields cannot be read -/
theorem handleUpdateStockCommand_unread {e : JsonError}
    (hfields : updateFields L.floatCast request = .error e) (s : St) :
    ∃ message s', (handleUpdateStockCommand L request me).run s =
      (.ok (reply L "error" message), s') ∧ s'.core = s.core := by
  unfold handleUpdateStockCommand
  cases isHub me with
  | true =>
    rw [if_pos rfl]
    exact ⟨_, run_refuse L _ _ me s⟩
  | false =>
    rw [if_neg Bool.false_ne_true, hfields]
    exact ⟨_, run_refuse L _ _ me s⟩

theorem run_commandFailed (L : Libs) (clientID : String) (e : Exn) (s : St) :
    ∃ s', (commandFailed L clientID e).run s = (.ok (internalError L), s') ∧ s'.core = s.core := by
  unfold commandFailed
  rw [Prog.run_bind, run_log]
  dsimp only
  rw [Prog.run_bind, run_incrementError]
  refine ⟨_, rfl, ?_⟩
  rw [incrementError_core, St.logged_core]

/-- **The answer to an update is an error without effect, or shows the converted quantity.** -/
theorem UpdateSent.answered {cfg : Config} {sid : Nat} {text : Bytes} {s' : St} {payload : Json}
    (h : UpdateSent L sid text s payload n) {answer : Reply} {keep : Bool}
    (hrun : (processMessage L cfg sid text).run s = (.ok (answer, keep), s')) :
    (answer.status = some "error" ∧ s'.core = s.core) ∨
      (¬ Int32.ofInt n < 0 ∧
        Shows (s.core.sessions sid).clientID payload (Int32.ofInt n).toInt answer s'.core) := by
  obtain ⟨request, hparse, hcmd, hpayload⟩ := h.request
  rw [run_processMessage_member L cfg hparse h.member] at hrun
  unfold commandMessage at hrun
  rw [processCommand_eq_dispatch L cfg hcmd, dispatch_update_stock, Prog.run_tryCatch] at hrun
  have hcore := received_core L request s
  generalize received L request s = s₁ at hrun hcore
  generalize (s.core.sessions sid).clientID = me at hrun ⊢
  rcases @updateFields_of_payload request n L.floatCast payload hpayload h.quantity
    with ⟨e, hfields⟩ | ⟨category, item, hcategory, hitem, hfields⟩
  · obtain ⟨message, s₂, hhandler, hcore₂⟩ := @handleUpdateStockCommand_unread L me request e hfields s₁
    rw [hhandler] at hrun
    cases hrun
    exact .inl ⟨status_reply L _ _, hcore₂.trans hcore⟩
  · have hend := @handleUpdateStockCommand_end L me category item _ request hfields s₁
    generalize (handleUpdateStockCommand L request me).run s₁ = r at hend hrun
    obtain ⟨r, s₂⟩ := r
    cases hend with
    | refused error core =>
      cases hrun
      exact .inl ⟨error, core.trans hcore⟩
    | @threw e _ core =>
      obtain ⟨s₃, hfailed, hcore₃⟩ := run_commandFailed L me e s₂
      change (commandFailed L me e).run s₂ = _ at hrun
      rw [hfailed] at hrun
      cases hrun
      exact .inl ⟨status_reply L _ _, hcore₃.trans (core.trans hcore)⟩
    | stored natural saved core =>
      cases hrun
      refine .inr ⟨natural, category, item, Int32.ofInt n, hcategory, hitem, rfl, ?_, ?_, rfl⟩
      · rw [core]
        show Table.find? _ _ = _
        rw [find?_stockAfter saved, if_pos rfl]
      · rw [core]
        show Cache.stock? (Cache.store ..) _ _ _ = _
        rw [Cache.stock?_store _ ⟨me, category, item⟩ _ ⟨me, category, item⟩, if_pos rfl]

/-! ## which integers are kept -/

theorem ofInt_neg_iff (n : Int) : Int32.ofInt n < 0 ↔ n.bmod (2 ^ 32) < 0 := by
  rw [Int32.lt_iff_toInt_lt, Int32.toInt_ofInt]
  rfl

theorem quantityKept_of_fits (L : Libs) (cfg : Config) (hn : FitsInt n) : QuantityKept L cfg n := by
  intro sid text s payload hsends answer keep s' hrun
  have hexact : (Int32.ofInt n).toInt = n := Int32.toInt_ofInt_of_le hn.1 hn.2
  rcases hsends.answered hrun with ⟨herror, -⟩ | ⟨-, hshows⟩
  · refine ⟨fun hsuccess => ?_, fun hbig => absurd hn hbig⟩
    rw [herror] at hsuccess
    exact absurd hsuccess (by decide)
  · rw [hexact] at hshows
    exact ⟨fun _ => hshows, fun hbig => absurd hn hbig⟩

theorem quantityKept_of_neg (L : Libs) (cfg : Config) (hn : n.bmod (2 ^ 32) < 0) :
    QuantityKept L cfg n := by
  intro sid text s payload hsends answer keep s' hrun
  rcases hsends.answered hrun with ⟨herror, hcore⟩ | ⟨hnatural, -⟩
  · refine ⟨fun hsuccess => ?_, fun _ => ⟨herror, hcore⟩⟩
    rw [herror] at hsuccess
    exact absurd hsuccess (by decide)
  · exact absurd ((ofInt_neg_iff n).mpr hn) hnatural

/-- an update of a known item goes through where the database answers -/
theorem run_update_stored (hub : isHub me = false)
    (hfields : updateFields L.floatCast request = .ok (category, item, quantity))
    (hnatural : ¬ quantity < 0) (hvalid : (validateInventory category item).success = true)
    (huser : (s.core.users.find? me).isSome = true) (hhealthy : (s.env 0).fails = false) :
    ∃ s', (handleUpdateStockCommand L request me).run s =
      (.ok (reply L "success" (stockUpdated category item quantity).message), s') := by
  obtain ⟨stock, hstock⟩ := stockAfter_isSome huser hvalid quantity
  unfold handleUpdateStockCommand catchJson
  rw [hub, if_neg Bool.false_ne_true, hfields, json_ok_bind, Prog.run_tryCatch, Prog.run_bind,
    run_updateStock_valid me hnatural hvalid, hhealthy, hstock]
  exact ⟨_, rfl⟩

/-- alice, logged in on session 0 -/
def aliceMember : St :=
  { St.sample aliceUsers .empty with
    core := (St.sample aliceUsers .empty).core.withSession 0 ((Session.fresh "").loggedIn "alice") }

def waterPayload (n : Int) : Json :=
  .obj [("category", .str "food"), ("item", .str "water"), ("quantity", .int n)]

def waterText (F : Doubles) (n : Int) : Bytes := bytesOf ((updateRequest "food" "water" n).dump F)

theorem parse_waterText (L : Libs) (F : Doubles) (hn : InRange n) :
    (L.standard F).parse (waterText F n) = some (updateRequest "food" "water" n) := by
  rw [Libs.standard_parse]
  exact parse_dump F (updateRequest_canonical "food" "water" hn)

theorem aliceMember_sent (L : Libs) (F : Doubles) (hn : InRange n) :
    UpdateSent (L.standard F) 0 (waterText F n) aliceMember (waterPayload n) n where
  member := rfl
  request := ⟨updateRequest "food" "water" n, parse_waterText L F hn, rfl, rfl⟩
  quantity := rfl

/-- alice's update is a success, unless its low 32 bits are negative -/
theorem aliceMember_success (L : Libs) (F : Doubles) (cfg : Config) (hn : InRange n)
    (hnatural : ¬ n.bmod (2 ^ 32) < 0) :
    ∃ answer keep s', (processMessage (L.standard F) cfg 0 (waterText F n)).run aliceMember =
      (.ok (answer, keep), s') ∧ answer.status = some "success" := by
  have hparse := parse_waterText L F hn
  generalize L.standard F = L' at hparse ⊢
  have hid : (aliceMember.core.sessions 0).clientID = "alice" := rfl
  have hupdate : ∃ s', (handleUpdateStockCommand L' (updateRequest "food" "water" n) "alice").run
      (received L' (updateRequest "food" "water" n) aliceMember) =
        (.ok (reply L' "success" (stockUpdated "food" "water" (Int32.ofInt n)).message), s') := by
    refine run_update_stored (by decide) rfl (mt (ofInt_neg_iff n).mp hnatural) (by decide) ?_ ?_
    · rw [received_core]
      rfl
    · rw [received_env]
      rfl
  obtain ⟨s', hupdate⟩ := hupdate
  refine ⟨(reply L' "success" (stockUpdated "food" "water" (Int32.ofInt n)).message).1, true, s', ?_,
    status_reply L' "success" _⟩
  rw [run_processMessage_member L' cfg hparse rfl, hid]
  unfold commandMessage
  rw [processCommand_eq_dispatch L' cfg rfl, dispatch_update_stock, Prog.run_tryCatch, hupdate]
  rfl

theorem not_quantityKept (L : Libs) (F : Doubles) (cfg : Config) (hn : InRange n)
    (hbig : ¬ FitsInt n) (hnatural : ¬ n.bmod (2 ^ 32) < 0) : ¬ QuantityKept (L.standard F) cfg n := by
  intro hkept
  obtain ⟨answer, keep, s', hrun, hsuccess⟩ := aliceMember_success L F cfg hn hnatural
  have herror := ((hkept 0 _ aliceMember _ (aliceMember_sent L F hn) answer keep s' hrun).2 hbig).1
  rw [hsuccess] at herror
  exact absurd herror (by decide)

/-- **An integer is kept exactly if it is an `int`, or its low 32 bits read as a negative one.** -/
theorem quantity_kept_iff (L : Libs) (F : Doubles) (hjson : L.Nlohmann F) (cfg : Config) (n : Int)
    (hn : InRange n) : QuantityKept L cfg n ↔ FitsInt n ∨ n.bmod (2 ^ 32) < 0 := by
  obtain ⟨L, rfl⟩ := hjson.standard
  constructor
  · intro hkept
    by_contra hno
    rw [not_or] at hno
    exact not_quantityKept L F cfg hn hno.1 hno.2 hkept
  · rintro (hfits | hneg)
    · exact quantityKept_of_fits _ cfg hfits
    · exact quantityKept_of_neg _ cfg hneg

theorem five_is_kept : InRange 5 ∧ QuantityKept sampleLibs .sample 5 :=
  ⟨by decide, (quantity_kept_iff sampleLibs .sample ⟨rfl, rfl⟩ .sample 5 (by decide)).mpr
    (.inl ⟨by decide, by decide⟩)⟩

/-- `2^32 + 5` units of water are stored and reported as 5. -/
theorem low_bits_are_stored :
    ∃ answer keep s', (processMessage sampleLibs .sample 0 (waterText .sample 4294967301)).run
        aliceMember = (.ok (answer, keep), s') ∧ answer.status = some "success" ∧
      Shows "alice" (waterPayload 4294967301) 5 answer s'.core := by
  obtain ⟨answer, keep, s', hrun, hsuccess⟩ := aliceMember_success (.known []) .sample .sample
    (show InRange 4294967301 by decide) (by decide)
  refine ⟨answer, keep, s', hrun, hsuccess, ?_⟩
  rcases (aliceMember_sent (.known []) .sample (show InRange 4294967301 by decide)).answered hrun
    with ⟨herror, -⟩ | ⟨-, hshows⟩
  · rw [hsuccess] at herror
    exact absurd herror (by decide)
  · exact hshows

end Logistics
