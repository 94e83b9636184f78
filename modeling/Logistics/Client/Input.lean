import Logistics.Lib.Words
import Logistics.Session.Schema

/-!
# The client's command line

A line is cut at its spaces by `strtok`; the first token is the command, and each of five commands
takes the next tokens as the fields of its payload.  The text that is sent is what cJSON prints of
the object.

* `buildJsonFromInput`      the builders, over the bytes of the line;
* `lineWords`, `decimal`    what the line says: its tokens, and the integer a token denotes;
* `buildJsonFromInput_cons` the builders, in terms of the tokens;
* `line_agrees_iff`         **a line is read right exactly if its quantity is an `int`**;
* `large_quantity_wraps`    a quantity beyond `int`, and two more lines.
-/

namespace Logistics

namespace Client
open JsonText

/-! ## the C library -/

/-- `strtok(s, " ")`: the token, and where the next call goes on -/
def strtok (s : Bytes) : Option Bytes × Bytes := Words.next (fun b => b = 32) s

def isspace (b : UInt8) : Bool := b = 32 || (9 ≤ b && b ≤ 13)

def LONG_MIN : Int := -2 ^ 63

def LONG_MAX : Int := 2 ^ 63 - 1

def digitsValue (digits : Bytes) : Nat := digits.foldl (fun n b => 10 * n + (b.toNat - 48)) 0

/-- `strtol(s, &endptr, 10)`: the number, and what `endptr` points to -/
def strtol (s : Bytes) : Int × Bytes :=
  let t := s.dropWhile isspace
  let u := if t.head? = some 45 ∨ t.head? = some 43 then t.tail else t
  let digits := u.takeWhile isDigit
  if digits = [] then (0, s)
  else
    let n : Int := if t.head? = some 45 then -digitsValue digits else digitsValue digits
    (max LONG_MIN (min LONG_MAX n), u.dropWhile isDigit)

/-! ## the builders -/

inductive BuildResult where
  | success (jsonString : Bytes)
  | errorSyntax (message : String)
  | errorMemory (message : String)
  /-- `strcmp` on a null pointer -/
  | crash
  deriving DecidableEq

/-- what the builders depend on: how cJSON prints a double that is no `int`, and whether
`cJSON_CreateObject` finds memory -/
structure Runtime where
  doubleText : Int → Bytes
  created : Bool

variable (R : Runtime)

/-- `print_number` of `(double)quantity` -/
def numberText (n : Int) : Bytes :=
  if -2 ^ 31 ≤ n ∧ n < 2 ^ 31 then bytesOf (toString n) else R.doubleText n

def printed (note : String) (root : Tree) : BuildResult :=
  if R.created then .success root.print else .errorMemory note

/-- a command with two arguments -/
def buildJsonForPair (first second usage note : String) (command rest : Bytes) : BuildResult :=
  let a := strtok rest
  let b := strtok a.2
  match a.1, b.1 with
  | some a, some b =>
    printed R note (.obj [(bytesOf "command", .str command),
      (bytesOf "payload", .obj [(bytesOf first, .str a), (bytesOf second, .str b)])])
  | _, _ => .errorSyntax usage

def buildJsonForGetStock : Bytes → Bytes → BuildResult :=
  buildJsonForPair R "category" "item" "Error: get_stock requires <category> and <item>."
    "Error creating the cJSON object for get_stock."

def buildJsonForLogin : Bytes → Bytes → BuildResult :=
  buildJsonForPair R "hostname" "password" "Error: login requires <username> and <password>."
    "Error creating the cJSON object for login."

def buildJsonForUnlockClient : Bytes → Bytes → BuildResult :=
  buildJsonForPair R "client_to_unlock" "secret_phrase"
    "Error: unlock_client requires <client_to_unlock> and <secret_phrase>."
    "Error creating the cJSON object for unlock_client."

def buildJsonForRegisterUser : Bytes → Bytes → BuildResult :=
  buildJsonForPair R "new_client_id" "new_client_password"
    "Error: register_user requires <new_username> and <new_password>."
    "Error creating the cJSON object for register_user."

/-- the quantity, if `strtol` took the whole token -/
def quantityOf (quantityStr : Bytes) : Option Int :=
  let (quantity, endptr) := strtol quantityStr
  if endptr ≠ [] ∨ endptr = quantityStr then none else some quantity

/-- `build_json_for_update_stock` once it has its three tokens -/
def updateStockObject (command category item quantityStr : Bytes) : BuildResult :=
  if R.created then
    match quantityOf quantityStr with
    | none => .errorSyntax "Error: quantity must be a valid number."
    | some quantity =>
      .success (Tree.obj [(bytesOf "command", .str command),
        (bytesOf "payload", .obj [(bytesOf "category", .str category),
          (bytesOf "item", .str item), (bytesOf "quantity", .number (numberText R quantity))])]).print
  else .errorMemory "Error creating the cJSON object for update_stock."

def buildJsonForUpdateStock (command rest : Bytes) : BuildResult :=
  let category := strtok rest
  let item := strtok category.2
  let quantityStr := strtok item.2
  match category.1, item.1, quantityStr.1 with
  | some category, some item, some quantityStr =>
    updateStockObject R command category item quantityStr
  | _, _, _ => .errorSyntax "Error: update_stock requires <category>, <item> and <quantity>."

def buildJsonForSingleCommand (command : Bytes) : BuildResult :=
  printed R "Error creating the cJSON object for single command."
    (.obj [(bytesOf "command", .str command)])

def buildJsonFromInput (rawInput : Bytes) : BuildResult :=
  let command := strtok rawInput
  match command.1 with
  | none => .crash
  | some token =>
    if token = bytesOf "update_stock" then buildJsonForUpdateStock R token command.2
    else if token = bytesOf "get_stock" then buildJsonForGetStock R token command.2
    else if token = bytesOf "login" then buildJsonForLogin R token command.2
    else if token = bytesOf "unlock_client" then buildJsonForUnlockClient R token command.2
    else if token = bytesOf "register_user" then buildJsonForRegisterUser R token command.2
    else buildJsonForSingleCommand R token

/-- what `execute_client_action` sends of it -/
def BuildResult.sent : BuildResult → Option Bytes
  | .success jsonString => some jsonString
  | _ => none

/-! ## what a line says -/

/-- a line as the C functions see it: valid UTF-8 without a NUL -/
structure Line where
  text : String
  nul : '\x00' ∉ text.toList

def lineWords (line : String) : List String :=
  (Words.words (fun c => c = ' ') line.toList).map String.ofList

/-- the integer a token denotes as a decimal numeral with or without a sign -/
def decimal (token : String) : Option Int :=
  match token.toList with
  | '-' :: ds => (numeral ds).map fun n => -n
  | '+' :: ds => numeral ds
  | ds => numeral ds
where
  numeral (ds : List Char) : Option Int :=
    if ds ≠ [] ∧ ds.all Char.isDigit then some (Nat.ofDigitChars 10 ds 0) else none

/-- enough tokens, and a quantity that is an integer -/
def WellFormed : List String → Prop
  | [] => False
  | command :: args =>
    if command = "update_stock" then
      ∃ category item quantity rest n, args = category :: item :: quantity :: rest ∧
        decimal quantity = some n
    else if command ∈ ["get_stock", "login", "unlock_client", "register_user"] then 2 ≤ args.length
    else True

/-- the request carries the tokens, each in its role -/
def Carries (cast : FloatCast) (request : Json) : List String → Prop
  | [] => False
  | command :: args => request.atString "command" = .ok command ∧
    if command = "update_stock" then
      ∃ category item quantity rest n k, args = category :: item :: quantity :: rest ∧
        decimal quantity = some n ∧ updateFields cast request = .ok (category, item, k) ∧ k.toInt = n
    else if command = "get_stock" then
      ∃ category item rest, args = category :: item :: rest ∧
        stockFields request = .ok (category, item)
    else if command = "login" then
      ∃ user pass rest, args = user :: pass :: rest ∧ loginFields request = .ok (user, pass)
    else if command = "unlock_client" then
      ∃ client phrase rest, args = client :: phrase :: rest ∧
        unlockFields request = .ok (phrase, client)
    else if command = "register_user" then
      ∃ id password rest, args = id :: password :: rest ∧ registerFields request = .ok (id, password)
    else True

/-- client and server agree on a line -/
structure LineAgrees (F : Doubles) (cast : FloatCast) (line : Line) : Prop where
  decoded : ∀ text, buildJsonFromInput R (bytesOf line.text) = .success text →
    ∃ request, Json.parse F text = some request ∧ Carries cast request (lineWords line.text)
  refused : ¬ WellFormed (lineWords line.text) →
    ((∃ message, buildJsonFromInput R (bytesOf line.text) = .errorSyntax message) ∨
      (R.created = false ∧
        ∃ message, buildJsonFromInput R (bytesOf line.text) = .errorMemory message)) ∧
    (buildJsonFromInput R (bytesOf line.text)).sent = none

/-! ## tokens -/

/-- a space is one byte, and no byte of any other character -/
theorem space_code :
    Words.Code (fun c => decide (c = ' ')) (fun b => decide (b = 32)) String.utf8EncodeChar := by
  refine ⟨fun c hc => ⟨32, ?_, rfl⟩, fun c hc => ⟨String.utf8EncodeChar_ne_nil, fun b hb => ?_⟩⟩
  · rw [of_decide_eq_true hc]
    rfl
  · have hc := of_decide_eq_false hc
    refine decide_eq_false ?_
    rintro rfl
    by_cases hascii : c.toNat < 128
    · have hall : ∀ n : Fin 128, 32 ∈ String.utf8EncodeChar (Char.ofNat n) →
          Char.ofNat n = ' ' := by decide
      rw [← Char.ofNat_toNat c] at hb hc
      exact hc (hall ⟨c.toNat, hascii⟩ hb)
    · exact absurd (utf8EncodeChar_high (by omega) 32 hb) (by decide)

abbrev tokens (s : Bytes) : List Bytes := Words.words (fun b => b = 32) s

theorem tokens_bytesOf (line : String) : tokens (bytesOf line) = (lineWords line).map bytesOf := by
  unfold lineWords
  rw [List.map_map]
  refine (space_code.words_flatMap line.toList).trans ?_
  refine List.map_congr_left fun w _ => ?_
  show _ = (String.ofList w).toList.flatMap String.utf8EncodeChar
  rw [String.toList_ofList]

theorem strtok_nil {s : Bytes} (h : tokens s = []) : strtok s = (none, []) := Words.next_nil h

theorem strtok_cons {s w : Bytes} {ws : List Bytes} (h : tokens s = w :: ws) :
    ∃ r, strtok s = (some w, r) ∧ tokens r = ws := Words.next_cons h

/-! ## the builders, in terms of the tokens -/

section
variable {R}

theorem buildJsonForPair_eq {first second usage note : String} {command rest : Bytes} :
    buildJsonForPair R first second usage note command rest =
      match tokens rest with
      | a :: b :: _ => printed R note (.obj [(bytesOf "command", .str command),
          (bytesOf "payload", .obj [(bytesOf first, .str a), (bytesOf second, .str b)])])
      | _ => .errorSyntax usage := by
  unfold buildJsonForPair
  cases h : tokens rest with
  | nil => rw [strtok_nil h]
  | cons a args =>
    obtain ⟨r, hr, h⟩ := strtok_cons h
    rw [hr]
    cases args with
    | nil =>
      dsimp only
      rw [strtok_nil h]
    | cons b args =>
      obtain ⟨r', hr', h⟩ := strtok_cons h
      dsimp only
      rw [hr']

theorem buildJsonForUpdateStock_eq {command rest : Bytes} {args : List String}
    (h : tokens rest = args.map bytesOf) :
    buildJsonForUpdateStock R command rest =
      match args with
      | category :: item :: quantity :: _ =>
        updateStockObject R command (bytesOf category) (bytesOf item) (bytesOf quantity)
      | _ => .errorSyntax "Error: update_stock requires <category>, <item> and <quantity>." := by
  unfold buildJsonForUpdateStock
  cases args with
  | nil => rw [strtok_nil h]
  | cons category args =>
    obtain ⟨r, hr, h⟩ := strtok_cons h
    rw [hr]
    dsimp only
    cases args with
    | nil => rw [strtok_nil h]
    | cons item args =>
      obtain ⟨r', hr', h⟩ := strtok_cons h
      rw [hr']
      dsimp only
      cases args with
      | nil => rw [strtok_nil h]
      | cons quantity args =>
        obtain ⟨r'', hr'', h⟩ := strtok_cons h
        rw [hr'']

theorem buildJsonFromInput_nil {line : String} (h : lineWords line = []) :
    buildJsonFromInput R (bytesOf line) = .crash := by
  have htokens := tokens_bytesOf line
  rw [h] at htokens
  unfold buildJsonFromInput
  rw [strtok_nil htokens]

theorem buildJsonFromInput_cons {line command : String} {args : List String}
    (h : lineWords line = command :: args) :
    ∃ rest, tokens rest = args.map bytesOf ∧ buildJsonFromInput R (bytesOf line) =
      if command = "update_stock" then buildJsonForUpdateStock R (bytesOf command) rest
      else if command = "get_stock" then buildJsonForGetStock R (bytesOf command) rest
      else if command = "login" then buildJsonForLogin R (bytesOf command) rest
      else if command = "unlock_client" then buildJsonForUnlockClient R (bytesOf command) rest
      else if command = "register_user" then buildJsonForRegisterUser R (bytesOf command) rest
      else buildJsonForSingleCommand R (bytesOf command) := by
  have htokens := tokens_bytesOf line
  rw [h] at htokens
  obtain ⟨rest, hrest, htokens⟩ := strtok_cons htokens
  have hname : ∀ name, bytesOf command = bytesOf name ↔ command = name :=
    fun name => ⟨fun h => bytesOf_injective h, fun h => by rw [h]⟩
  refine ⟨rest, htokens, ?_⟩
  unfold buildJsonFromInput
  rw [hrest]
  simp only [hname]

end

/-! ## quantities -/

theorem digits_bytes {ds : List Char} (h : ∀ c ∈ ds, c.isDigit = true) (init : Nat) :
    (∀ b ∈ ds.flatMap String.utf8EncodeChar, isDigit b = true) ∧
      (ds.flatMap String.utf8EncodeChar).foldl (fun n b => 10 * n + (b.toNat - 48)) init =
        Nat.ofDigitChars 10 ds init := by
  induction ds generalizing init with
  | nil => exact ⟨nofun, rfl⟩
  | cons c ds ih =>
    obtain ⟨hc, hds⟩ := List.forall_mem_cons.mp h
    obtain ⟨d, hd, rfl⟩ := digit_cases hc
    obtain ⟨hbytes, hdigit, -⟩ := utf8EncodeChar_digitChar d hd
    have hvalue : ∀ d < 10, (48 + d.toUInt8).toNat - 48 = (Nat.digitChar d).toNat - '0'.toNat := by
      decide
    obtain ⟨hrest, hfold⟩ := ih hds (10 * init + ((48 + d.toUInt8).toNat - 48))
    rw [List.flatMap_cons, hbytes, List.singleton_append]
    refine ⟨List.forall_mem_cons.mpr ⟨hdigit, hrest⟩, ?_⟩
    rw [List.foldl_cons, hfold, hvalue d hd]
    rfl

theorem isDigit_facts {b : UInt8} (hb : isDigit b = true) :
    isspace b = false ∧ b ≠ 45 ∧ b ≠ 43 := by
  simp only [isDigit, isspace, Bool.and_eq_true, decide_eq_true_eq, Bool.or_eq_false_iff,
    Bool.and_eq_false_iff, decide_eq_false_iff_not] at hb ⊢
  grind

/-- `strtol` after the white space and the sign -/
theorem strtol_digits {digits : Bytes} (hall : ∀ b ∈ digits, isDigit b = true)
    (hne : digits ≠ []) :
    strtol (45 :: digits) = (max LONG_MIN (min LONG_MAX (-digitsValue digits)), []) ∧
      strtol (43 :: digits) = (max LONG_MIN (min LONG_MAX (digitsValue digits)), []) ∧
      strtol digits = (max LONG_MIN (min LONG_MAX (digitsValue digits)), []) := by
  have htake : digits.takeWhile isDigit = digits := List.takeWhile_eq_self_iff.mpr hall
  have hdrop : digits.dropWhile isDigit = [] := List.dropWhile_eq_nil_iff.mpr hall
  refine ⟨?_, ?_, ?_⟩
  · have hspace : (45 :: digits).dropWhile isspace = 45 :: digits := rfl
    simp [strtol, hspace, htake, hdrop, hne]
  · have hspace : (43 :: digits).dropWhile isspace = 43 :: digits := rfl
    simp [strtol, hspace, htake, hdrop, hne]
  · have hspace : digits.dropWhile isspace = digits := by
      cases digits with
      | nil => rfl
      | cons b digits =>
        rw [List.dropWhile_cons, (isDigit_facts (List.forall_mem_cons.mp hall).1).1]
        rfl
    have hhead : digits.head? ≠ some 45 ∧ digits.head? ≠ some 43 := by
      cases digits with
      | nil => exact ⟨nofun, nofun⟩
      | cons b digits =>
        obtain ⟨-, hminus, hplus⟩ := isDigit_facts (List.forall_mem_cons.mp hall).1
        exact ⟨fun h => hminus (Option.some.inj h), fun h => hplus (Option.some.inj h)⟩
    simp [strtol, hspace, htake, hdrop, hne, hhead.1, hhead.2]

theorem numeral_bytes {ds : List Char} {m : Int} (h : decimal.numeral ds = some m) :
    (∀ b ∈ ds.flatMap String.utf8EncodeChar, isDigit b = true) ∧
      ds.flatMap String.utf8EncodeChar ≠ [] ∧
      (digitsValue (ds.flatMap String.utf8EncodeChar) : Int) = m := by
  unfold decimal.numeral at h
  split_ifs at h with hds
  obtain ⟨hbytes, hvalue⟩ := digits_bytes (List.all_eq_true.mp hds.2) 0
  refine ⟨hbytes, ?_, ?_⟩
  · intro hnil
    rw [List.flatMap_eq_nil_iff] at hnil
    obtain ⟨c, hc⟩ := List.exists_mem_of_ne_nil ds hds.1
    exact String.utf8EncodeChar_ne_nil (hnil c hc)
  · unfold digitsValue
    rw [hvalue]
    exact Option.some.inj h

/-- a numeral of an `int` is taken whole, and for what it denotes -/
theorem quantityOf_decimal {token : String} {n : Int} (h : decimal token = some n)
    (hn : -2 ^ 31 ≤ n ∧ n < 2 ^ 31) : quantityOf (bytesOf token) = some n := by
  have hwhole : ∀ s, strtol s = (max LONG_MIN (min LONG_MAX n), []) → s ≠ [] →
      quantityOf s = some n := by
    intro s hs hne
    have hlong : max LONG_MIN (min LONG_MAX n) = n := by
      unfold LONG_MIN LONG_MAX
      omega
    unfold quantityOf
    rw [hs, hlong]
    dsimp only
    rw [if_neg]
    rintro (h | h)
    · exact h rfl
    · exact hne h.symm
  unfold decimal at h
  unfold bytesOf
  split at h
  · rename_i ds hds
    obtain ⟨m, hm, rfl⟩ := Option.map_eq_some_iff.mp h
    obtain ⟨hbytes, hne, hvalue⟩ := numeral_bytes hm
    rw [hds]
    refine hwhole (45 :: ds.flatMap String.utf8EncodeChar) ?_ (List.cons_ne_nil _ _)
    rw [(strtol_digits hbytes hne).1, hvalue]
  · rename_i ds hds
    obtain ⟨hbytes, hne, hvalue⟩ := numeral_bytes h
    rw [hds]
    refine hwhole (43 :: ds.flatMap String.utf8EncodeChar) ?_ (List.cons_ne_nil _ _)
    rw [(strtol_digits hbytes hne).2.1, hvalue]
  · obtain ⟨hbytes, hne, hvalue⟩ := numeral_bytes h
    refine hwhole _ ?_ hne
    rw [(strtol_digits hbytes hne).2.2, hvalue]

/-! ## agreement -/

/-- a quantity that is accepted is a decimal numeral of an `int` -/
def QuantityFits (words : List String) : Prop :=
  R.created = true → ∀ category item quantity rest,
    words = "update_stock" :: category :: item :: quantity :: rest →
    (quantityOf (bytesOf quantity)).isSome →
    ∃ n, decimal quantity = some n ∧ -2 ^ 31 ≤ n ∧ n < 2 ^ 31

section
variable {R} {F : Doubles} {cast : FloatCast} {line : Line} {command : String} {args : List String}

/-- what a builder returns that prints an object where the memory suffices -/
theorem printed_cases (note : String) (root : Tree) :
    (R.created = true ∧ printed R note root = .success root.print) ∨
      (R.created = false ∧ printed R note root = .errorMemory note) := by
  unfold printed
  cases R.created with
  | true => exact .inl ⟨rfl, rfl⟩
  | false => exact .inr ⟨rfl, rfl⟩

theorem parse_print {v : Json} (hv : v.Canonical) : Json.parse F v.tree.print = some v := by
  rw [← bytesOf_render]
  exact parse_render F hv.ranged (hv.written_eq F) (hv.ofTree_tree F)

theorem agrees_of_printed (note : String) {v : Json} (hv : v.Canonical)
    (hbuild : buildJsonFromInput R (bytesOf line.text) = printed R note v.tree)
    (hwell : WellFormed (lineWords line.text)) (hcarries : Carries cast v (lineWords line.text)) :
    LineAgrees R F cast line := by
  refine ⟨fun text htext => ⟨v, ?_, hcarries⟩, fun hbad => absurd hwell hbad⟩
  rw [hbuild] at htext
  rcases printed_cases (R := R) note v.tree with ⟨-, hp⟩ | ⟨-, hp⟩
  · rw [hp] at htext
    cases htext
    exact parse_print hv
  · rw [hp] at htext
    cases htext

theorem agrees_of_refused {message : String}
    (hbuild : buildJsonFromInput R (bytesOf line.text) = .errorSyntax message) :
    LineAgrees R F cast line := by
  refine ⟨fun text htext => ?_, fun _ => ⟨.inl ⟨message, hbuild⟩, ?_⟩⟩
  · cases hbuild.symm.trans htext
  · rw [hbuild]
    rfl

/-- the four commands with two arguments -/
theorem agrees_of_pair {first second usage note : String} {rest : Bytes}
    (hwords : lineWords line.text = command :: args) (hrest : tokens rest = args.map bytesOf)
    (hbuild : buildJsonFromInput R (bytesOf line.text) =
      buildJsonForPair R first second usage note (bytesOf command) rest)
    (hsorted : first < second) (hwell : 2 ≤ args.length → WellFormed (command :: args))
    (hcarries : ∀ a b rest, args = a :: b :: rest →
      Carries cast (pairRequest command first a second b) (command :: args)) :
    LineAgrees R F cast line := by
  rw [buildJsonForPair_eq, hrest] at hbuild
  match args with
  | [] => exact agrees_of_refused hbuild
  | [_] => exact agrees_of_refused hbuild
  | a :: b :: rest' =>
    refine agrees_of_printed _ (pairRequest_canonical hsorted command a b) hbuild ?_ ?_
    · rw [hwords]
      exact hwell (Nat.le_add_left 2 rest'.length)
    · rw [hwords]
      exact hcarries a b rest' rfl

theorem agrees_of_update {rest : Bytes} (hwords : lineWords line.text = "update_stock" :: args)
    (hrest : tokens rest = args.map bytesOf)
    (hbuild : buildJsonFromInput R (bytesOf line.text) =
      buildJsonForUpdateStock R (bytesOf "update_stock") rest)
    (hfits : QuantityFits R ("update_stock" :: args)) : LineAgrees R F cast line := by
  rw [buildJsonForUpdateStock_eq hrest] at hbuild
  match args with
  | [] => exact agrees_of_refused hbuild
  | [_] => exact agrees_of_refused hbuild
  | [_, _] => exact agrees_of_refused hbuild
  | category :: item :: quantity :: rest' =>
    dsimp only [updateStockObject] at hbuild
    cases hcreated : R.created with
    | false =>
      rw [hcreated, if_neg (by decide)] at hbuild
      refine ⟨fun text htext => ?_, fun _ => ⟨.inr ⟨hcreated, _, hbuild⟩, ?_⟩⟩
      · cases hbuild.symm.trans htext
      · rw [hbuild]
        rfl
    | true =>
      rw [hcreated, if_pos rfl] at hbuild
      cases hquantity : quantityOf (bytesOf quantity) with
      | none =>
        rw [hquantity] at hbuild
        exact agrees_of_refused hbuild
      | some q =>
        obtain ⟨n, hdecimal, hn⟩ := hfits hcreated category item quantity rest' rfl
          (by rw [hquantity]; rfl)
        have hq : n = q := Option.some.inj ((quantityOf_decimal hdecimal hn).symm.trans hquantity)
        subst hq
        rw [hquantity] at hbuild
        have hrange : InRange n := by
          unfold InRange
          omega
        refine agrees_of_printed "" (updateRequest_canonical category item hrange)
          (hbuild.trans ?_) ?_ ?_
        · have hnumber : numberText R n = bytesOf (toString n) := if_pos hn
          unfold printed
          rw [hcreated, if_pos rfl]
          dsimp only
          rw [hnumber]
          rfl
        · rw [hwords, WellFormed, if_pos rfl]
          exact ⟨category, item, quantity, rest', n, rfl, hdecimal⟩
        · rw [hwords, Carries, if_pos rfl]
          exact ⟨rfl, category, item, quantity, rest', n, Int32.ofInt n, rfl, hdecimal, rfl,
            Int32.toInt_ofInt_of_le hn.1 hn.2⟩

/-- any other command is sent alone -/
theorem agrees_of_single (hwords : lineWords line.text = command :: args)
    (hbuild : buildJsonFromInput R (bytesOf line.text) =
      buildJsonForSingleCommand R (bytesOf command))
    (hcarries : ∀ v : Json, v.atString "command" = .ok command → Carries cast v (command :: args))
    (hwell : WellFormed (command :: args)) : LineAgrees R F cast line := by
  have hv : (Json.obj [("command", .str command)]).Canonical := by
    refine .obj (show ["command"].Pairwise (· < ·) by decide) ?_
    exact List.forall_mem_singleton.mpr (.str _)
  refine agrees_of_printed _ hv hbuild ?_ ?_
  · rw [hwords]
    exact hwell
  · rw [hwords]
    exact hcarries _ rfl

theorem wellFormed_pair (hmem : command ∈ ["get_stock", "login", "unlock_client", "register_user"])
    (hargs : 2 ≤ args.length) : WellFormed (command :: args) := by
  have hne : command ≠ "update_stock" := by
    rintro rfl
    exact absurd hmem (by decide)
  rw [WellFormed, if_neg hne, if_pos hmem]
  exact hargs

theorem agrees_of_fits (hne : lineWords line.text ≠ [])
    (hfits : QuantityFits R (lineWords line.text)) : LineAgrees R F cast line := by
  cases hwords : lineWords line.text with
  | nil => exact absurd hwords hne
  | cons command args =>
    obtain ⟨rest, hrest, hbuild⟩ := buildJsonFromInput_cons (R := R) hwords
    rw [hwords] at hfits
    by_cases hupdate : command = "update_stock"
    · subst hupdate
      exact agrees_of_update hwords hrest hbuild hfits
    by_cases hget : command = "get_stock"
    · subst hget
      refine agrees_of_pair hwords hrest hbuild (by decide) (wellFormed_pair (by decide)) ?_
      intro a b rest hargs
      exact ⟨rfl, a, b, rest, hargs, rfl⟩
    by_cases hlogin : command = "login"
    · subst hlogin
      refine agrees_of_pair hwords hrest hbuild (by decide) (wellFormed_pair (by decide)) ?_
      intro a b rest hargs
      exact ⟨rfl, a, b, rest, hargs, rfl⟩
    by_cases hunlock : command = "unlock_client"
    · subst hunlock
      refine agrees_of_pair hwords hrest hbuild (by decide) (wellFormed_pair (by decide)) ?_
      intro a b rest hargs
      exact ⟨rfl, a, b, rest, hargs, rfl⟩
    by_cases hregister : command = "register_user"
    · subst hregister
      refine agrees_of_pair hwords hrest hbuild (by decide) (wellFormed_pair (by decide)) ?_
      intro a b rest hargs
      exact ⟨rfl, a, b, rest, hargs, rfl⟩
    · simp only [if_neg hupdate, if_neg hget, if_neg hlogin, if_neg hunlock, if_neg hregister]
        at hbuild
      refine agrees_of_single hwords hbuild ?_ ?_
      · intro v hv
        rw [Carries, if_neg hupdate, if_neg hget, if_neg hlogin, if_neg hunlock, if_neg hregister]
        exact ⟨hv, trivial⟩
      · rw [WellFormed, if_neg hupdate, if_neg]
        · trivial
        · simp only [List.mem_cons, List.not_mem_nil, or_false, not_or]
          exact ⟨hget, hlogin, hunlock, hregister⟩

theorem fits_of_agrees (h : LineAgrees R F cast line) :
    lineWords line.text ≠ [] ∧ QuantityFits R (lineWords line.text) := by
  refine ⟨fun hnil => ?_, ?_⟩
  · have hcrash := buildJsonFromInput_nil (R := R) hnil
    have hrefused := (h.refused (by rw [hnil]; exact id)).1
    rw [hcrash] at hrefused
    rcases hrefused with ⟨message, hm⟩ | ⟨-, message, hm⟩ <;> cases hm
  · intro hcreated category item quantity rest hwords haccepted
    obtain ⟨r, hr, hbuild⟩ := buildJsonFromInput_cons (R := R) hwords
    obtain ⟨q, hq⟩ := Option.isSome_iff_exists.mp haccepted
    rw [if_pos rfl, buildJsonForUpdateStock_eq hr] at hbuild
    simp only [updateStockObject, hcreated, if_true, hq] at hbuild
    obtain ⟨request, -, hcarries⟩ := h.decoded _ hbuild
    rw [hwords, Carries, if_pos rfl] at hcarries
    obtain ⟨-, _, _, _, _, n, k, hargs, hdecimal, -, hk⟩ := hcarries
    cases hargs
    refine ⟨n, hdecimal, ?_, ?_⟩
    · rw [← hk]
      exact Int32.le_toInt k
    · rw [← hk]
      exact Int32.toInt_lt k

end

end Client

/-- **The server reads what the line says, and nothing is sent for a line that says too little,
exactly if the line has a token and a quantity that `strtol` takes is a decimal numeral of an
`int`.** -/
theorem line_agrees_iff (R : Client.Runtime) (F : Doubles) (cast : FloatCast) (line : Client.Line) :
    Client.LineAgrees R F cast line ↔
      Client.lineWords line.text ≠ [] ∧ Client.QuantityFits R (Client.lineWords line.text) :=
  ⟨Client.fits_of_agrees, fun h => Client.agrees_of_fits h.1 h.2⟩

/-! A quantity beyond `int`, a quantity after a tab, and a line of spaces. -/

def plainRuntime : Client.Runtime := ⟨fun n => bytesOf (toString n), true⟩

def largeLine : Client.Line := ⟨"update_stock food water 5000000000", by decide⟩

def tabLine : Client.Line := ⟨"update_stock food water \t5", by decide⟩

def blankLine : Client.Line := ⟨"   ", by decide⟩

theorem large_quantity_wraps :
    (∃ text request, Client.buildJsonFromInput plainRuntime (bytesOf largeLine.text) = .success text ∧
      Json.parse .sample text = some request ∧ Client.decimal "5000000000" = some 5000000000 ∧
      updateFields (fun _ => 0) request = .ok ("food", "water", 705032704)) ∧
    (∃ text request, Client.buildJsonFromInput plainRuntime (bytesOf tabLine.text) = .success text ∧
      Json.parse .sample text = some request ∧ Client.decimal "\t5" = none ∧
      updateFields (fun _ => 0) request = .ok ("food", "water", 5)) ∧
    Client.buildJsonFromInput plainRuntime (bytesOf blankLine.text) = .crash := by
  have hparse : ∀ n, InRange n → Json.parse .sample
      (bytesOf (updateRequest "food" "water" n).render) =
        some (updateRequest "food" "water" n) := by
    intro n hn
    rw [bytesOf_render]
    exact Client.parse_print (updateRequest_canonical "food" "water" hn)
  have hlarge : Client.buildJsonFromInput plainRuntime (bytesOf largeLine.text) =
      .success (bytesOf (updateRequest "food" "water" 5000000000).render) := by
    decide +kernel
  have htab : Client.buildJsonFromInput plainRuntime (bytesOf tabLine.text) =
      .success (bytesOf (updateRequest "food" "water" 5).render) := by
    decide +kernel
  refine ⟨⟨_, _, hlarge, hparse _ (by decide), ?_, rfl⟩,
    ⟨_, _, htab, hparse _ (by decide), ?_, rfl⟩, ?_⟩
  · decide +kernel
  · decide +kernel
  · decide +kernel

end Logistics
