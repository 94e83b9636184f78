import Logistics.Client.Printers
import Logistics.Session.Schema
import Logistics.Session.Udp

/-!
# Keepalives

After a login the client takes the user's id from the reply, writes it into its log as part of a
format, copies at most 63 bytes of it into its context, and pastes it into the text of a keepalive
without escaping it.  The server parses the text and looks the id up in its registry.

* `keepaliveMessage`, `keepaliveAfter`   the client's half;
* `keepaliveText_client`    what the server can read in a keepalive;
* `keepalive_names_user_iff`  **keepalives name the user exactly if the id is short and plain**;
* `quoted_id_is_lost`       a user whose id has a quote.
-/

namespace Logistics

namespace Client
open JsonText Byte

def BUFFER_SIZE : Nat := 5048

def KEEPALIVE_MSG_SIZE : Nat := 128

/-! ## the client -/

def keepaliveHead : Bytes := bytesOf "\x7b\"command\":\"keepalive\", \"clientId\":\""

def keepaliveTail : Bytes := bytesOf "\"\x7d"

/-- what `keepalive_thread_func` sends, over and over -/
def keepaliveMessage (clientId : Bytes) : Option Bytes :=
  if clientId = [] then none
  else some ((keepaliveHead ++ clientId ++ keepaliveTail).take (KEEPALIVE_MSG_SIZE - 1))

/-- the keepalives of a client that has received the reply to its first login -/
def keepaliveAfter (N : CLib) (reply : Bytes) : Option Bytes :=
  match handleLoginResponse N [] (cString (reply.take (BUFFER_SIZE - 1))) with
  | some (_, true, clientId) => keepaliveMessage clientId
  | _ => none

/-! ## the text of a keepalive -/

/-- stands for itself in a JSON string -/
def Plain (b : UInt8) : Prop := 32 ≤ b ∧ b ≠ Byte.quote ∧ b ≠ backslash

instance (b : UInt8) : Decidable (Plain b) := inferInstanceAs (Decidable (_ ∧ _))

theorem plain_of_all {t : Text} (h : (t.all fun b => decide (Plain b)) = true) :
    ∀ b ∈ t, Plain b := fun b hb => of_decide_eq_true (List.all_eq_true.mp h b hb)

theorem string_of_plain {s : Text} (hs : ∀ b ∈ s, Plain b) (r : Text) :
    string nlohmann (s ++ Byte.quote :: r) = some (s, r) := by
  refine string_plain (fun b hb => ?_) r
  obtain ⟨hlow, hquote, hbackslash⟩ := hs b hb
  exact ⟨hquote, hbackslash, decide_eq_true hlow⟩

theorem key_of_plain {k : Text} (hk : ∀ b ∈ k, Plain b) {t r : Text}
    (ht : nlohmann.skip t = Byte.quote :: (k ++ Byte.quote :: colon :: r)) :
    key nlohmann t = some (k, r) :=
  key_eq_some_iff.mpr ⟨_, colon :: r, ht, string_of_plain hk (colon :: r), skip_of_not_space rfl r⟩

/-- the second field of a keepalive and the end of the object -/
def idField (clientId : Bytes) : Bytes :=
  Byte.quote :: (bytesOf "clientId" ++ Byte.quote :: colon :: Byte.quote ::
    (clientId ++ [Byte.quote, closeBrace]))

def keepaliveFields (clientId : Bytes) : Bytes :=
  Byte.quote :: (bytesOf "command" ++ Byte.quote :: colon :: Byte.quote ::
    (bytesOf "keepalive" ++ Byte.quote :: comma :: 32 :: idField clientId))

theorem keepaliveText_eq (clientId : Bytes) :
    keepaliveHead ++ clientId ++ keepaliveTail = openBrace :: keepaliveFields clientId := by
  have hhead : keepaliveHead = openBrace :: Byte.quote :: (bytesOf "command" ++ Byte.quote ::
      colon :: Byte.quote :: (bytesOf "keepalive" ++ Byte.quote :: comma :: 32 :: Byte.quote ::
        (bytesOf "clientId" ++ Byte.quote :: colon :: [Byte.quote]))) := by decide
  have htail : keepaliveTail = [Byte.quote, closeBrace] := by decide
  rw [hhead, htail]
  unfold keepaliveFields idField
  simp only [List.cons_append, List.append_assoc, List.nil_append]

theorem key_command (clientId : Bytes) : key nlohmann (keepaliveFields clientId) =
    some (bytesOf "command",
      Byte.quote :: (bytesOf "keepalive" ++ Byte.quote :: comma :: 32 :: idField clientId)) :=
  key_of_plain (plain_of_all (by decide)) (skip_of_not_space rfl _)

theorem key_clientId (clientId : Bytes) : key nlohmann (32 :: idField clientId) =
    some (bytesOf "clientId", Byte.quote :: (clientId ++ [Byte.quote, closeBrace])) :=
  key_of_plain (plain_of_all (by decide)) rfl

theorem string_keepalive (r : Text) :
    string nlohmann (bytesOf "keepalive" ++ Byte.quote :: r) = some (bytesOf "keepalive", r) :=
  string_of_plain (plain_of_all (by decide)) r

/-- the fields are those of the text only if the pasted id does not close its string itself -/
theorem keepaliveFields_iff {n : Nat} {clientId : Bytes} {fs : List (Text × Tree)} {r : Text} :
    fields nlohmann (n + 3) (keepaliveFields clientId) = some (fs, r) ↔
      ∃ s u fs', string nlohmann (clientId ++ [Byte.quote, closeBrace]) = some (s, u) ∧
        fs = (bytesOf "command", .str (bytesOf "keepalive")) :: (bytesOf "clientId", .str s) :: fs' ∧
        ((∃ u', nlohmann.skip u = comma :: u' ∧ fields nlohmann (n + 1) u' = some (fs', r)) ∨
          (nlohmann.skip u = closeBrace :: r ∧ fs' = [])) := by
  have hquote : ∀ t, nlohmann.skip (Byte.quote :: t) = Byte.quote :: t := skip_of_not_space rfl
  have hcomma : ∀ t, nlohmann.skip (comma :: t) = comma :: t := skip_of_not_space rfl
  rw [fields_str_iff (key_command clientId) (hquote _)]
  simp only [string_keepalive, Option.some.injEq, Prod.mk.injEq]
  constructor
  · rintro ⟨_, _, ⟨rfl, rfl⟩, ⟨u', fs', hu', hfields, rfl⟩ | ⟨hclose, -⟩⟩
    · cases (hcomma _).symm.trans hu'
      obtain ⟨s, u, hs, hrest⟩ := (fields_str_iff (key_clientId clientId) (hquote _)).mp hfields
      rcases hrest with ⟨u', fs', hu', hfields', rfl⟩ | ⟨hclose, rfl⟩
      · exact ⟨s, u, fs', hs, rfl, .inl ⟨u', hu', hfields'⟩⟩
      · exact ⟨s, u, [], hs, rfl, .inr ⟨hclose, rfl⟩⟩
    · cases (hcomma _).symm.trans hclose
  · rintro ⟨s, u, fs', hs, rfl, hrest⟩
    refine ⟨_, _, ⟨rfl, rfl⟩, .inl ⟨_, _, hcomma _, ?_, rfl⟩⟩
    refine (fields_str_iff (key_clientId clientId) (hquote _)).mpr ⟨s, u, hs, ?_⟩
    rcases hrest with ⟨u', hu', hfields⟩ | ⟨hclose, rfl⟩
    · exact .inl ⟨u', fs', hu', hfields, rfl⟩
    · exact .inr ⟨hclose, rfl⟩

/-- a string that ends at the quote after the id is the id, and any other is shorter -/
theorem string_id {clientId s u : Bytes}
    (h : string nlohmann (clientId ++ [Byte.quote, closeBrace]) = some (s, u)) :
    s.length < clientId.length ∨ (s = clientId ∧ ∀ b ∈ clientId, Plain b) := by
  obtain ⟨raw, hbody, hs⟩ := string_eq_some_iff.mp h
  obtain ⟨hle, hlt⟩ := unescape_length hs
  have hsplit := body_eq hbody
  have hlength := congrArg List.length hsplit
  simp only [List.length_append, List.length_cons, List.length_nil] at hlength
  by_cases hshort : raw.length < clientId.length
  · exact .inl (by omega)
  · have hsame : raw.length = clientId.length := by
      by_contra hne
      have hu : u = [] := List.eq_nil_of_length_eq_zero (by omega)
      have hlast := congrArg List.getLast? hsplit
      rw [hu] at hlast
      have hne : closeBrace ≠ Byte.quote := by decide
      exact absurd hlast (by simp [hne])
    obtain ⟨rfl, -⟩ := List.append_inj hsplit hsame.symm
    by_cases hescape : backslash ∈ clientId
    · exact .inl (hlt hescape)
    · obtain ⟨rfl, hraw⟩ := (unescape_plain_iff hescape le_rfl s).mp hs
      refine .inr ⟨rfl, fun b hb => ⟨of_decide_eq_true (hraw b hb), ?_, ?_⟩⟩
      · rintro rfl
        exact quote_not_mem_body hbody hescape hb
      · rintro rfl
        exact hescape hb

/-- the scanner reads an object, from the fields on -/
theorem document_keepalive (clientId : Bytes) : ∃ n, ∀ t r,
    document nlohmann (keepaliveHead ++ clientId ++ keepaliveTail) = some (t, r) ↔
      ∃ fs, t = .obj fs ∧ fields nlohmann (n + 3) (keepaliveFields clientId) = some (fs, r) := by
  rw [keepaliveText_eq]
  have hbom : dropBom (openBrace :: keepaliveFields clientId) =
      openBrace :: keepaliveFields clientId := by
    have hne : openBrace ≠ 0xEF := by decide
    simp [dropBom, hne]
  have hfuel : ∃ n, 2 * (openBrace :: keepaliveFields clientId).length = n + 3 + 1 := by
    refine ⟨2 * (openBrace :: keepaliveFields clientId).length - 4, ?_⟩
    unfold keepaliveFields
    simp only [List.length_cons]
    omega
  obtain ⟨n, hn⟩ := hfuel
  refine ⟨n, fun t r => ?_⟩
  have hopen : ∀ t, nlohmann.skip (openBrace :: t) = openBrace :: t := skip_of_not_space rfl
  have hquote : ∀ t, nlohmann.skip (Byte.quote :: t) = Byte.quote :: t := skip_of_not_space rfl
  have hfields : ∀ r', nlohmann.skip (keepaliveFields clientId) ≠ closeBrace :: r' := by
    intro r' h
    cases (hquote _).symm.trans h
  unfold document
  rw [hbom, hopen, hn, value_succ_iff]
  constructor
  · intro h
    generalize hq : openBrace :: keepaliveFields clientId = q at h
    cases h with
    | objNil h =>
      cases hq
      exact absurd h (hfields _)
    | obj hne h =>
      cases hq
      exact ⟨_, rfl, h⟩
    | constant hb h =>
      cases hq
      exact absurd rfl hb.2.2.1
    | number hb h =>
      cases hq
      exact absurd hb (by decide)
    | _ => cases hq
  · rintro ⟨fs, rfl, h⟩
    exact .obj hfields h

section
variable {F : Doubles} {L : Libs} {N : CLib}

/-- what the server can read in a keepalive -/
theorem keepaliveText_client {clientId : Bytes} {user : String}
    (h : keepaliveClient (L.standard F) (keepaliveHead ++ clientId ++ keepaliveTail) = some user) :
    (bytesOf user).length < clientId.length ∨
      (bytesOf user = clientId ∧ ∀ b ∈ clientId, Plain b) := by
  obtain ⟨n, hdocument⟩ := document_keepalive clientId
  obtain ⟨map, hparse, -, hid⟩ := keepaliveClient_eq_some_iff.mp h
  rw [Libs.standard_parse, Json.parse] at hparse
  obtain ⟨⟨t, r⟩, hdoc, hparse⟩ := Option.bind_eq_some_iff.mp hparse
  obtain ⟨fs, rfl, hfields⟩ := (hdocument t r).mp hdoc
  have htree : Json.ofTree F (.obj fs) = some (.obj map) := by
    by_cases hend : endOfInput (nlohmann.skip r) = true
    · rwa [if_pos hend] at hparse
    · rw [if_neg hend] at hparse
      cases hparse
  obtain ⟨map', hmap, he⟩ := Option.map_eq_some_iff.mp htree
  cases he
  -- the id comes from a string of the text: the one that starts with the pasted id, or a later one
  have hmem : (bytesOf "clientId", Tree.str (bytesOf user)) ∈ fs := by
    rcases ofFields_lookup F hmap hid with ⟨t, hmem, ht⟩ | hnil
    · rwa [ofTree_str F ht] at hmem
    · cases hnil
  obtain ⟨s, u, fs', hs, rfl, hrest⟩ := keepaliveFields_iff.mp hfields
  have hlength := string_length hs
  have hne : bytesOf "clientId" ≠ bytesOf "command" := by decide
  rcases List.mem_cons.mp hmem with heq | hmem
  · exact absurd (Prod.mk.inj heq).1 hne
  · rcases List.mem_cons.mp hmem with heq | hmem
    · rw [Tree.str.inj (Prod.mk.inj heq).2]
      exact string_id hs
    · rcases hrest with ⟨u', hu', hfields'⟩ | ⟨-, rfl⟩
      · have hlater := fields_str_length nlohmann_splits hfields' _ _ hmem
        have hcomma := length_lt_of_skip hu'
        simp only [List.length_append, List.length_cons, List.length_nil] at hlength
        exact .inl (by omega)
      · cases hmem

/-- an id that needs no escape is read back -/
theorem keepaliveText_plain {user : String} (huser : ∀ b ∈ bytesOf user, Plain b) :
    keepaliveClient (L.standard F) (keepaliveHead ++ bytesOf user ++ keepaliveTail) =
      some user := by
  obtain ⟨n, hdocument⟩ := document_keepalive (bytesOf user)
  have hfields : fields nlohmann (n + 3) (keepaliveFields (bytesOf user)) =
      some ([(bytesOf "command", .str (bytesOf "keepalive")),
        (bytesOf "clientId", .str (bytesOf user))], []) :=
    keepaliveFields_iff.mpr ⟨_, [closeBrace], [], string_of_plain huser _, rfl, .inr ⟨rfl, rfl⟩⟩
  have hdoc := (hdocument _ _).mpr ⟨_, rfl, hfields⟩
  have hparse : Json.parse F (keepaliveHead ++ bytesOf user ++ keepaliveTail) =
      some (.obj [("clientId", .str user), ("command", .str "keepalive")]) := by
    unfold Json.parse
    rw [hdoc]
    simp only [Option.bind_some, Json.ofTree, ofFields, decode_bytesOf, Option.map_some]
    rfl
  rw [← Libs.standard_parse F L] at hparse
  exact keepaliveClient_eq_some_iff.mpr ⟨_, hparse, rfl, rfl⟩

/-! ## the reply to a login -/

theorem loginBody_dump_length {user : String} (huser : (bytesOf user).length ≤ 63) :
    (bytesOf ((loginBody user).dump F)).length ≤ BUFFER_SIZE - 1 := by
  unfold Json.dump
  rw [(loginBody_canonical user).written_eq, loginBody_eq, bytesOf_render]
  have hmessage : (bytesOf ("Login successful! Welcome " ++ user ++ ".")).length =
      (bytesOf user).length + 27 := by
    rw [bytesOf_append, bytesOf_append, List.length_append, List.length_append]
    have hwelcome : (bytesOf "Login successful! Welcome ").length = 26 := by decide
    have hdot : (bytesOf ".").length = 1 := by decide
    omega
  have hid := quoted_length_le (bytesOf user)
  have htext := quoted_length_le (bytesOf ("Login successful! Welcome " ++ user ++ "."))
  have h₁ : (quoted (bytesOf "client_id")).length = 11 := by decide
  have h₂ : (quoted (bytesOf "message")).length = 9 := by decide
  have h₃ : (quoted (bytesOf "status")).length = 8 := by decide
  have h₄ : (quoted (bytesOf "success")).length = 9 := by decide
  simp only [Json.tree, treeFields, Tree.print, printFields, List.length_append, List.length_cons,
    List.length_nil, BUFFER_SIZE]
  omega

theorem stringItem_loginBody (user : String) :
    stringItem ((loginBody user).written F).tree "status" = some (bytesOf "success") ∧
      (stringItem ((loginBody user).written F).tree "message").isSome ∧
      stringItem ((loginBody user).written F).tree "client_id" = some (bytesOf user) := by
  have hkeys : sameKey (bytesOf "status") (bytesOf "client_id") = false ∧
      sameKey (bytesOf "status") (bytesOf "message") = false ∧
      sameKey (bytesOf "status") (bytesOf "status") = true ∧
      sameKey (bytesOf "message") (bytesOf "client_id") = false ∧
      sameKey (bytesOf "message") (bytesOf "message") = true ∧
      sameKey (bytesOf "client_id") (bytesOf "client_id") = true := by decide
  obtain ⟨h₁, h₂, h₃, h₄, h₅, h₆⟩ := hkeys
  rw [loginBody_eq]
  unfold stringItem
  simp only [getObjectItem_written, firstField, List.find?_cons, h₁, h₂, h₃, h₄, h₅, h₆,
    Option.map_some]
  exact ⟨rfl, rfl, rfl⟩

theorem loginBody_depth (user : String) :
    ((loginBody user).written F).tree.depth ≤ CJSON_NESTING_LIMIT := by
  rw [loginBody_eq]
  show 1 ≤ 1000
  decide

theorem cJSONParse_loginBody (user : String) :
    cJSONParse N (bytesOf ((loginBody user).dump F)) = some ((loginBody user).written F).tree := by
  rw [cJSONParse_dump F N (loginBody_canonical user).ranged, if_pos (loginBody_depth user)]

theorem handleLoginResponse_loginBody (user : String) :
    ∃ lines, handleLoginResponse N [] (bytesOf ((loginBody user).dump F)) =
      if N.formats (loginFormat (bytesOf user)) then some (lines, true, setId (bytesOf user))
      else none := by
  obtain ⟨hstatus, hmessage, hid⟩ := stringItem_loginBody (F := F) user
  obtain ⟨message, hmessage⟩ := Option.isSome_iff_exists.mp hmessage
  have hsuccess : strEq (bytesOf "success") "success" = true := by decide
  unfold handleLoginResponse
  rw [cJSONParse_loginBody]
  simp only [hstatus, hmessage, hid, hsuccess, if_true]
  exact ⟨_, rfl⟩

/-- the client of a user with a short id -/
theorem keepaliveAfter_loginBody {user : String} (huser : (bytesOf user).length ≤ 63) :
    keepaliveAfter N (bytesOf ((loginBody user).dump F)) =
      if N.formats (loginFormat (bytesOf user)) then keepaliveMessage (setId (bytesOf user))
      else none := by
  have hnul : 0 ∉ bytesOf ((loginBody user).dump F) := fun hmem =>
    absurd (dump_printable F (loginBody_canonical user).ranged 0 hmem) (by decide)
  obtain ⟨lines, hlogin⟩ := handleLoginResponse_loginBody (F := F) (N := N) user
  unfold keepaliveAfter
  rw [List.take_of_length_le (loginBody_dump_length huser), (cString_eq_self_iff _).mpr hnul, hlogin]
  split_ifs <;> rfl

theorem keepaliveMessage_eq_some_iff {clientId datagram : Bytes} (hlength : clientId.length ≤ 63) :
    keepaliveMessage clientId = some datagram ↔
      clientId ≠ [] ∧ datagram = keepaliveHead ++ clientId ++ keepaliveTail := by
  have hhead : keepaliveHead.length = 36 := by decide
  have htail : keepaliveTail.length = 2 := by decide
  have hfits : (keepaliveHead ++ clientId ++ keepaliveTail).length ≤ KEEPALIVE_MSG_SIZE - 1 := by
    rw [List.length_append, List.length_append, hhead, htail]
    show 36 + clientId.length + 2 ≤ 127
    omega
  unfold keepaliveMessage
  by_cases hne : clientId = []
  · rw [if_pos hne]
    exact iff_of_false nofun fun h => h.1 hne
  · rw [if_neg hne, List.take_of_length_le hfits, Option.some.injEq]
    exact ⟨fun h => ⟨hne, h.symm⟩, fun h => h.2.symm⟩

/-- what the context can hold: a C string of at most 63 bytes -/
def Held (clientId : Bytes) : Prop := clientId.length ≤ 63 ∧ 0 ∉ clientId

theorem held_nil : Held [] := ⟨Nat.zero_le _, nofun⟩

theorem held_setId (valuestring : Text) : Held (setId valuestring) := by
  refine ⟨List.length_take_le .., fun hmem => ?_⟩
  have hbyte := List.mem_takeWhile_imp (List.mem_of_mem_take hmem)
  exact absurd hbyte (by decide)

theorem held_handleLoginResponse {response clientId : Bytes} {lines : List Bytes} {ok : Bool}
    (h : handleLoginResponse N [] response = some (lines, ok, clientId)) : Held clientId := by
  unfold handleLoginResponse at h
  split at h
  · cases h
    exact held_nil
  · split at h
    · cases h
      exact held_nil
    · cases h
      exact held_nil
    · split_ifs at h
      · split at h
        · split_ifs at h
          cases h
          exact held_setId _
        · cases h
          exact held_nil
      · cases h
        exact held_nil

theorem cString_keepalive {clientId : Bytes} (hid : 0 ∉ clientId) :
    cString (keepaliveHead ++ clientId ++ keepaliveTail) =
      keepaliveHead ++ clientId ++ keepaliveTail := by
  have hends : 0 ∉ keepaliveHead ∧ 0 ∉ keepaliveTail := by decide
  rw [cString_eq_self_iff, List.mem_append, List.mem_append, not_or, not_or]
  exact ⟨⟨hends.1, hid⟩, hends.2⟩

/-- whatever the reply, a keepalive is the text of an id the context can hold -/
theorem keepaliveAfter_eq_some {reply datagram : Bytes}
    (h : keepaliveAfter N reply = some datagram) :
    ∃ clientId, Held clientId ∧ datagram = keepaliveHead ++ clientId ++ keepaliveTail := by
  unfold keepaliveAfter at h
  split at h
  · rename_i lines clientId hlogin
    have hheld := held_handleLoginResponse hlogin
    exact ⟨_, hheld, ((keepaliveMessage_eq_some_iff hheld.1).mp h).2⟩
  · cases h

end

end Client

/-! ## the keepalives after a login -/

section
variable {F : Doubles} {L : Libs} {N : Client.CLib} {user : String}
open Client

theorem plain_of_keepalive {datagram : Bytes}
    (hdatagram : keepaliveAfter N (bytesOf ((loginBody user).dump F)) = some datagram)
    (hclient : keepaliveClient (L.standard F) (cString datagram) = some user) :
    N.formats (loginFormat (bytesOf user)) = true ∧ (bytesOf user).length ≤ 63 ∧
      ∀ b ∈ bytesOf user, Plain b := by
  obtain ⟨clientId, hheld, rfl⟩ := keepaliveAfter_eq_some hdatagram
  have hlength := hheld.1
  rw [cString_keepalive hheld.2] at hclient
  have huser : (bytesOf user).length ≤ 63 := by
    rcases keepaliveText_client hclient with hshort | ⟨heq, -⟩
    · omega
    · exact heq ▸ hlength
  rw [keepaliveAfter_loginBody huser] at hdatagram
  split_ifs at hdatagram with hformats
  refine ⟨hformats, huser, ?_⟩
  rcases keepaliveText_client hclient with hshort | ⟨heq, hplain⟩
  · -- but the id in the context of the client is no longer than the user's
    exfalso
    have hcopy : (setId (bytesOf user)).length ≤ (bytesOf user).length := by
      unfold setId
      exact (List.length_take_le' ..).trans (length_cString_le _)
    have htext := congrArg List.length
      ((keepaliveMessage_eq_some_iff (held_setId _).1).mp hdatagram).2
    simp only [List.length_append] at htext
    omega
  · exact heq ▸ hplain

theorem keepalive_of_plain (hne : user ≠ "")
    (hformats : N.formats (loginFormat (bytesOf user)) = true) (hlength : (bytesOf user).length ≤ 63)
    (hplain : ∀ b ∈ bytesOf user, Plain b) :
    ∃ datagram, keepaliveAfter N (bytesOf ((loginBody user).dump F)) = some datagram ∧
      keepaliveClient (L.standard F) (cString datagram) = some user := by
  have hnul : 0 ∉ bytesOf user := fun hmem => absurd (hplain 0 hmem).1 (by decide)
  have hset : setId (bytesOf user) = bytesOf user := by
    unfold setId
    rw [(cString_eq_self_iff _).mpr hnul]
    exact List.take_of_length_le hlength
  have hbytes : bytesOf user ≠ [] := fun hnil => hne (bytesOf_injective hnil)
  refine ⟨keepaliveHead ++ bytesOf user ++ keepaliveTail, ?_, ?_⟩
  · rw [keepaliveAfter_loginBody hlength, if_pos hformats, hset]
    exact (keepaliveMessage_eq_some_iff hlength).mpr ⟨hbytes, rfl⟩
  · rw [cString_keepalive hnul]
    exact keepaliveText_plain hplain

end

/-- **After a login the keepalives of the client name the user, and set the address of the session,
exactly if `vfprintf` comes back from the line of the log that has the id in its format, the id has
at most 63 bytes, and none of them has to be escaped in a JSON string.** -/
theorem keepalive_names_user_iff (F : Doubles) (L : Libs) (hjson : L.Nlohmann F)
    (N : Client.CLib) (cfg : Config) (sid : Nat) (text : Bytes) (s : St) (user : String)
    (hlogin : authCall L cfg sid text s = some (user, .ok .success)) :
    (∃ reply keep s' datagram,
      (processMessage L cfg sid text).run s = (.ok (reply, keep), s') ∧
      Client.keepaliveAfter N (bytesOf reply.text) = some datagram ∧
      keepaliveClient L (cString datagram) = some user ∧
      ∀ address, (((handleMessage L (.data address datagram)).run s').2.core.sessions
        sid).udpAddress = some address) ↔
      N.formats (Client.loginFormat (bytesOf user)) = true ∧ (bytesOf user).length ≤ 63 ∧
        ∀ b ∈ bytesOf user, Client.Plain b := by
  obtain ⟨L, rfl⟩ := hjson.standard
  obtain ⟨s', hrun, -, hregistered⟩ := login_reply hlogin
  constructor
  · rintro ⟨reply, keep, s'', datagram, hreply, hdatagram, hclient, -⟩
    cases hrun.symm.trans hreply
    exact plain_of_keepalive hdatagram hclient
  · rintro ⟨hformats, hlength, hplain⟩
    have hne : user ≠ "" := by
      rintro rfl
      obtain ⟨-, row, hrow, -⟩ := run_processMessage_login hlogin
      exact absurd (s.core.users.checked _ _ hrow).1 (by decide)
    obtain ⟨datagram, hdatagram, hclient⟩ :=
      keepalive_of_plain (F := F) (L := L) (N := N) hne hformats hlength hplain
    refine ⟨_, _, s', datagram, hrun, hdatagram, hclient, fun address => ?_⟩
    rw [handleMessage_core]
    dsimp only
    rw [keepaliveTarget, hclient, Option.bind_some, hregistered]
    show (Function.update s'.core.sessions sid _ sid).udpAddress = some address
    rw [Function.update_self]
    rfl

theorem alice_keepalive :
    ∃ text, authCall sampleLibs .sample 0 text (.sample aliceUsers .empty) =
        some ("alice", .ok .success) ∧
      ∃ reply keep s' datagram,
        (processMessage sampleLibs .sample 0 text).run (.sample aliceUsers .empty) =
          (.ok (reply, keep), s') ∧
        Client.keepaliveAfter .sample (bytesOf reply.text) = some datagram ∧
        keepaliveClient sampleLibs (cString datagram) = some "alice" ∧
        ∀ address, (((handleMessage sampleLibs (.data address datagram)).run s').2.core.sessions
          0).udpAddress = some address := by
  have hplain : (bytesOf "alice").length ≤ 63 ∧ ∀ b ∈ bytesOf "alice", Client.Plain b := by
    decide +kernel
  exact ⟨_, alice_authCall, (keepalive_names_user_iff .sample sampleLibs ⟨rfl, rfl⟩ .sample .sample
    0 _ _ "alice" alice_authCall).mpr ⟨Client.formats_loginFormat .sample (by decide), hplain⟩⟩

/-! A user whose id has a quote. -/

def quotedId : String := "a\"b"

def quotedUsers : Users := Table.empty.put quotedId aliceRow (by decide)

theorem quotedId_authCall :
    authCall sampleLibs .sample 0 (bytesOf ((credentials quotedId "secret").dump .sample))
      (.sample quotedUsers .empty) = some (quotedId, .ok .success) := by
  unfold authCall
  rw [sampleLibs_parse (credentials_canonical ..)]
  rfl

/-- the user is logged in, and no keepalive ever names the user -/
theorem quoted_id_is_lost :
    ∃ text, authCall sampleLibs .sample 0 text (.sample quotedUsers .empty) =
        some (quotedId, .ok .success) ∧
      ∃ reply s' datagram,
        (processMessage sampleLibs .sample 0 text).run (.sample quotedUsers .empty) =
          (.ok (reply, true), s') ∧
        Client.keepaliveAfter .sample (bytesOf reply.text) = some datagram ∧
        keepaliveClient sampleLibs (cString datagram) = none := by
  obtain ⟨s', hrun, -⟩ := login_reply quotedId_authCall
  have hlength : (bytesOf quotedId).length ≤ 63 := by decide
  have hset : Client.setId (bytesOf quotedId) = bytesOf quotedId := by decide
  have hne : bytesOf quotedId ≠ [] := by decide
  refine ⟨_, quotedId_authCall, _, s',
    Client.keepaliveHead ++ bytesOf quotedId ++ Client.keepaliveTail, hrun, ?_, ?_⟩
  · have hafter := Client.keepaliveAfter_loginBody (F := .sample) (N := .sample) hlength
    rw [hset, if_pos (Client.formats_loginFormat .sample (by decide))] at hafter
    exact hafter.trans ((Client.keepaliveMessage_eq_some_iff hlength).mpr ⟨hne, rfl⟩)
  · decide +kernel

end Logistics
