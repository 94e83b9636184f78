import Logistics.Base.JsonFields
import Logistics.Session.Message
import Logistics.Session.Schema

/-!
# clientSession::createLoggableRequest

Every request is logged before it is handled, with `payload.password` masked.  Two more fields of a
payload are secrets: the password of a client to register and the phrase that clears a flag.

`Json.hideSecrets` is a request without the values of the three; two requests are equal but for
their secrets if it makes them equal.  The tree of the logged request is that of the hidden one with
the mask and the other two secrets filled in again (`shown_createLoggableRequest`).

* `createLoggableRequest_eq`   the logged request is the request with its password masked;
* `logged_alike_iff`           **logged alike exactly if the two secrets that stay are**;
* `phrase_logged`              two requests to clear a flag, logged with their phrases.
-/

namespace Logistics
open JsonText

/-! ## the payload of a request -/

/-- a field of the payload -/
def Json.payload? (request : Json) (key : String) : Option Json :=
  (request.field? "payload").bind fun payload => payload.field? key

/-- the fields of the payload rewritten -/
def Json.mapPayload (f : String → Json → Json) (request : Json) : Json :=
  request.mapFields fun key v => if key = "payload" then v.mapFields f else v

theorem mapPayload_payload? (f : String → Json → Json) (request : Json) (key : String) :
    (request.mapPayload f).payload? key = (request.payload? key).map (f key) := by
  unfold Json.payload? Json.mapPayload
  rw [Json.mapFields_field?]
  cases request.field? "payload" with
  | none => rfl
  | some payload => exact Json.mapFields_field? f payload key

theorem mapPayload_mapPayload (f g : String → Json → Json) (request : Json) :
    (request.mapPayload f).mapPayload g = request.mapPayload fun key v => g key (f key v) := by
  unfold Json.mapPayload
  rw [Json.mapFields_mapFields]
  congr 1
  funext key v
  by_cases hkey : key = "payload"
  · simp only [if_pos hkey, Json.mapFields_mapFields]
  · simp only [if_neg hkey]

theorem Json.Ranged.mapPayload {request : Json} (hr : request.Ranged) {f : String → Json → Json}
    (h : ∀ key v, v.Ranged → (f key v).Ranged) : (request.mapPayload f).Ranged := by
  refine hr.mapFields fun key v hv => ?_
  split_ifs
  · exact hv.mapFields h
  · exact hv

theorem payload?_ranged {request v : Json} (hr : request.Ranged) {key : String}
    (h : request.payload? key = some v) : v.Ranged := by
  obtain ⟨payload, hpayload, hv⟩ := Option.bind_eq_some_iff.mp h
  exact (hr.field hpayload).field hv

def mask (key : String) (v : Json) : Json := if key = "password" then .str "[REDACTED]" else v

/-- **The logged request is the request with its password masked.** -/
theorem createLoggableRequest_eq {request : Json} (hr : request.Parsed) :
    createLoggableRequest request = request.mapPayload mask := by
  unfold createLoggableRequest Json.mapPayload
  cases hpayload : request.field? "payload" with
  | none =>
    refine (Json.mapFields_eq_self hr.sorted fun key v hv => if_neg ?_).symm
    rintro rfl
    rw [hpayload] at hv
    cases hv
  | some payload =>
    have hsorted := hr.fields _ _ hpayload
    have hfield : ∀ key v, request.field? key = some v → key = "payload" → v = payload := by
      rintro key v hv rfl
      rw [hpayload] at hv
      exact (Option.some.inj hv).symm
    cases hpassword : payload.field? "password" with
    | none =>
      have hcontains : payload.contains "password" = false := by
        unfold Json.contains
        rw [hpassword]
        rfl
      have hmask : payload.mapFields mask = payload := by
        refine Json.mapFields_eq_self hsorted fun key v hv => if_neg ?_
        rintro rfl
        rw [hpassword] at hv
        cases hv
      simp only [hcontains, Bool.false_eq_true, if_false]
      refine (Json.mapFields_eq_self hr.sorted fun key v hv => ?_).symm
      split_ifs with hkey
      · rw [hfield key v hv hkey, hmask]
      · rfl
    | some password =>
      have hcontains : payload.contains "password" = true := by
        unfold Json.contains
        rw [hpassword]
        rfl
      simp only [hcontains, if_true]
      rw [Json.set_eq_mapFields hsorted hpassword, Json.set_eq_mapFields hr.sorted hpayload]
      refine Json.mapFields_congr hr.sorted fun key v hv => ?_
      by_cases hkey : key = "payload"
      · rw [if_pos hkey, if_pos hkey, hfield key v hv hkey]
        rfl
      · rw [if_neg hkey, if_neg hkey]

/-! ## requests equal but for their secrets -/

def secretKeys : List String := ["password", "new_client_password", "secret_phrase"]

/-- the secrets that `createLoggableRequest` does not know -/
def unmaskedKeys : List String := ["new_client_password", "secret_phrase"]

def hide (key : String) (v : Json) : Json := if key ∈ secretKeys then .null else v

def Json.hideSecrets (request : Json) : Json := request.mapPayload hide

/-- what the logged tree has for a secret -/
def refill (given : String → Option Tree) (key : Text) (t : Tree) : Tree :=
  if key = bytesOf "password" then .str (bytesOf "[REDACTED]")
  else if key = bytesOf "new_client_password" then (given "new_client_password").getD t
  else if key = bytesOf "secret_phrase" then (given "secret_phrase").getD t
  else t

theorem refill_congr {given given' : String → Option Tree}
    (h : ∀ key ∈ unmaskedKeys, given key = given' key) : refill given = refill given' := by
  funext key t
  unfold refill
  rw [h "new_client_password" (by decide), h "secret_phrase" (by decide)]

section Logged
variable (F : Doubles)

theorem refill_hide {given : String → Option Tree} {key : String} {v : Json}
    (h : key ∈ unmaskedKeys → given key = some (v.shown F)) :
    refill given (bytesOf key) ((hide key v).shown F) = (mask key v).shown F := by
  have hkey : ∀ other, bytesOf key = bytesOf other ↔ key = other :=
    fun other => ⟨bytesOf_injective, congrArg bytesOf⟩
  unfold refill mask
  simp only [hkey]
  by_cases hpassword : key = "password"
  · rw [if_pos hpassword, if_pos hpassword]
    rfl
  rw [if_neg hpassword, if_neg hpassword]
  by_cases hnew : key = "new_client_password"
  · rw [if_pos hnew, ← hnew, h (hnew ▸ by decide), Option.getD_some]
  rw [if_neg hnew]
  by_cases hphrase : key = "secret_phrase"
  · rw [if_pos hphrase, ← hphrase, h (hphrase ▸ by decide), Option.getD_some]
  rw [if_neg hphrase]
  have hopen : hide key v = v := by
    refine if_neg fun hmem => ?_
    simp only [secretKeys, List.mem_cons, List.not_mem_nil, or_false] at hmem
    rcases hmem with rfl | rfl | rfl
    · exact hpassword rfl
    · exact hnew rfl
    · exact hphrase rfl
  rw [hopen]

/-- **The logged tree is that of the request without its secrets, with the mask and the unmasked
secrets filled in.** -/
theorem shown_createLoggableRequest {request : Json} (hr : request.Parsed) :
    (createLoggableRequest request).shown F =
      mapTree (fun key t => if key = bytesOf "payload" then
        mapTree (refill fun key => (request.payload? key).map (Json.shown F)) t else t)
        (request.hideSecrets.shown F) := by
  rw [createLoggableRequest_eq hr]
  unfold Json.hideSecrets Json.mapPayload
  refine (mapTree_shown F hr.sorted fun key v hv => ?_).symm
  by_cases hkey : key = "payload"
  · rw [if_pos hkey, if_pos hkey, if_pos (congrArg bytesOf hkey)]
    rw [hkey] at hv
    refine mapTree_shown F (hr.fields _ _ hv) fun key' w hw => refill_hide F fun _ => ?_
    unfold Json.payload?
    rw [hv, Option.bind_some, hw, Option.map_some]
  · rw [if_neg hkey, if_neg hkey, if_neg fun h => hkey (bytesOf_injective h)]

theorem payload?_shown (request : Json) (key : String) :
    (request.payload? key).map (Json.shown F) =
      (treeField? (request.shown F) (bytesOf "payload")).bind
        fun payload => treeField? payload (bytesOf key) := by
  unfold Json.payload?
  rw [shown_field?]
  cases request.field? "payload" with
  | none => rfl
  | some payload => exact (shown_field? F payload key).symm

theorem createLoggableRequest_payload? {request : Json} (hr : request.Parsed) {key : String}
    (hkey : key ∈ unmaskedKeys) :
    (createLoggableRequest request).payload? key = request.payload? key := by
  have hne : key ≠ "password" := by
    rintro rfl
    exact absurd hkey (by decide)
  rw [createLoggableRequest_eq hr, mapPayload_payload?]
  have hmask : mask key = id := by
    funext v
    exact if_neg hne
  rw [hmask, Option.map_id, id]

theorem createLoggableRequest_ranged {request : Json} (hr : request.Parsed) :
    (createLoggableRequest request).Ranged := by
  rw [createLoggableRequest_eq hr]
  refine hr.ranged.mapPayload fun key v hv => ?_
  unfold mask
  split_ifs
  · exact .str _
  · exact hv

/-- apart from the secrets the logged request is the request -/
theorem createLoggableRequest_hideSecrets {request : Json} (hr : request.Parsed) :
    (createLoggableRequest request).hideSecrets = request.hideSecrets := by
  rw [createLoggableRequest_eq hr]
  unfold Json.hideSecrets
  rw [mapPayload_mapPayload]
  congr 1
  funext key v
  unfold hide mask
  by_cases hkey : key = "password"
  · have hsecret : key ∈ secretKeys := hkey ▸ by decide
    rw [if_pos hsecret, if_pos hsecret]
  · rw [if_neg hkey]

/-- the text of the log entry for a request -/
def requestText (L : Libs) (request : Json) : String :=
  "Received message: " ++ L.dump (createLoggableRequest request)

theorem map_dump_eq_iff {request request' : Json} (hr : request.Ranged) (hr' : request'.Ranged)
    (key : String) :
    (request.payload? key).map (Json.dump F) = (request'.payload? key).map (Json.dump F) ↔
      (request.payload? key).map (Json.shown F) = (request'.payload? key).map (Json.shown F) := by
  cases hv : request.payload? key with
  | none =>
    cases request'.payload? key with
    | none => exact ⟨fun _ => rfl, fun _ => rfl⟩
    | some w => exact ⟨nofun, nofun⟩
  | some v =>
    cases hw : request'.payload? key with
    | none => exact ⟨nofun, nofun⟩
    | some w =>
      rw [Option.map_some, Option.map_some, Option.map_some, Option.map_some, Option.some_inj,
        Option.some_inj]
      exact dump_eq_iff F (payload?_ranged hr hv) (payload?_ranged hr' hw)

/-- **Two requests that are equal but for their secrets are logged alike exactly if the secrets
that `createLoggableRequest` does not know are written alike; and but for its secrets the logged
request is the request.** -/
theorem logged_alike_iff (L : Libs) (hjson : L.Nlohmann F) {text text' : Bytes}
    {request request' : Json} (h : L.parse text = some request)
    (h' : L.parse text' = some request') (hsame : request.hideSecrets = request'.hideSecrets) :
    (requestText L request = requestText L request' ↔
      ∀ key ∈ unmaskedKeys, (request.payload? key).map L.dump =
        (request'.payload? key).map L.dump) ∧
    (createLoggableRequest request).hideSecrets = request.hideSecrets := by
  obtain ⟨L, rfl⟩ := hjson.standard
  have hr := parse_parsed F h
  have hr' := parse_parsed F h'
  refine ⟨?_, createLoggableRequest_hideSecrets hr⟩
  have htext : requestText (L.standard F) request = requestText (L.standard F) request' ↔
      (createLoggableRequest request).shown F = (createLoggableRequest request').shown F := by
    unfold requestText
    rw [String.append_right_inj]
    exact dump_eq_iff F (createLoggableRequest_ranged hr) (createLoggableRequest_ranged hr')
  rw [htext]
  constructor
  · intro hshown key hkey
    refine (map_dump_eq_iff F hr.ranged hr'.ranged key).mpr ?_
    rw [← createLoggableRequest_payload? hr hkey, ← createLoggableRequest_payload? hr' hkey,
      payload?_shown, payload?_shown, hshown]
  · intro hkeys
    rw [shown_createLoggableRequest F hr, shown_createLoggableRequest F hr', hsame,
      refill_congr fun key hkey => (map_dump_eq_iff F hr.ranged hr'.ranged key).mp (hkeys key hkey)]

end Logged

theorem logins_logged_alike :
    requestText sampleLibs (credentials "bob" "secret") =
      requestText sampleLibs (credentials "bob" "hidden") :=
  (logged_alike_iff .sample sampleLibs ⟨rfl, rfl⟩
    (sampleLibs_parse (credentials_canonical "bob" "secret"))
    (sampleLibs_parse (credentials_canonical "bob" "hidden")) rfl).1.mpr (by decide)

/-- a request to clear the flag of `bob` -/
def unlockBob (phrase : String) : Json :=
  pairRequest "unlock_client" "client_to_unlock" "bob" "secret_phrase" phrase

/-- the phrase of a request to clear a flag is written to the log -/
theorem phrase_logged :
    (unlockBob "we do not assembly").hideSecrets = (unlockBob "guess").hideSecrets ∧
    requestText sampleLibs (unlockBob "we do not assembly") = "Received message: " ++
      "\x7b\"command\":\"unlock_client\",\"payload\":\x7b\"client_to_unlock\":\"bob\"," ++
      "\"secret_phrase\":\"we do not assembly\"\x7d\x7d" ∧
    requestText sampleLibs (unlockBob "we do not assembly") ≠
      requestText sampleLibs (unlockBob "guess") := by
  refine ⟨rfl, by decide, by decide⟩

end Logistics
