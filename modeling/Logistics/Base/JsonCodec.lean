import Logistics.Lib.JsonNumber
import Logistics.Base.State

/-!
# JSON values and their texts

`Libs.parse` and `Libs.dump` are what the server asks of nlohmann::json; here they are the library's
own: `Json.parse` scans a text of bytes by the rules of the library and builds the value,
`Json.dump` writes the compact text of `Json.render`.

* strings are validated as UTF-8, a later field replaces an earlier one of the same key, and a NUL
  between tokens ends the text;
* a number without fraction and exponent is an integer where it fits one of the library's two
  integer types, and a double elsewhere;
* what the library makes of doubles is a parameter (`Doubles`).

`bytesOf_render` says that a rendered value is a printed tree of `JsonText`, and `parse_dump` that
**a canonical value is parsed back from its text**.

The server has both from nlohmann::json, which is not part of the sources.  `Libs.Nlohmann` says what
is used of it: that it parses and dumps like this.  The results about texts have it as a hypothesis.
-/

namespace Logistics
open JsonText

/-! ## strings and their bytes -/

theorem bytesOf_append (s s' : String) : bytesOf (s ++ s') = bytesOf s ++ bytesOf s' := by
  unfold bytesOf
  rw [String.toList_append, List.flatMap_append]

theorem toByteArray_bytesOf (s : String) : (bytesOf s).toByteArray = s.toByteArray :=
  String.utf8Encode_toList

theorem bytesOf_injective {s s' : String} (h : bytesOf s = bytesOf s') : s = s' := by
  rw [← String.toByteArray_inj, ← toByteArray_bytesOf, ← toByteArray_bytesOf, h]

/-- the string a text of bytes encodes, where it is valid UTF-8 -/
def decode (text : Bytes) : Option String := String.fromUTF8? text.toByteArray

theorem decode_eq_some_iff {text : Bytes} {s : String} : decode text = some s ↔ bytesOf s = text := by
  unfold decode String.fromUTF8?
  constructor
  · intro h
    split_ifs at h with hvalid
    have hbytes : text.toByteArray = s.toByteArray := congrArg String.toByteArray (Option.some.inj h)
    rw [← toByteArray_bytesOf] at hbytes
    have hdata := congrArg ByteArray.data hbytes
    rw [List.data_toByteArray, List.data_toByteArray] at hdata
    exact (List.toArray_inj hdata).symm
  · rintro rfl
    rw [toByteArray_bytesOf, dif_pos s.isValidUTF8]
    rfl

theorem decode_bytesOf (s : String) : decode (bytesOf s) = some s := decode_eq_some_iff.mpr rfl

/-- the bytes of a character outside of ASCII are outside of ASCII -/
theorem utf8EncodeChar_high {c : Char} (hc : 128 ≤ c.toNat) :
    ∀ b ∈ String.utf8EncodeChar c, 128 ≤ b := by
  have hval : c.val.toNat = c.toNat := rfl
  have hbyte : ∀ n m k : Nat, 0 < k → m + k ≤ 256 → 128 ≤ m → 128 ≤ UInt8.ofNat (n % k + m) := by
    intro n m k hk hm h128
    have hlt := Nat.mod_lt n hk
    rw [UInt8.le_iff_toNat_le, UInt8.toNat_ofNat']
    show 128 ≤ (n % k + m) % 256
    rw [Nat.mod_eq_of_lt (by omega)]
    omega
  unfold String.utf8EncodeChar
  rw [hval, if_neg (by omega)]
  intro b hb
  split_ifs at hb with h2 h3
  · rcases List.mem_pair.mp hb with rfl | rfl
    · exact hbyte _ 192 32 (by omega) (by omega) (by omega)
    · exact hbyte _ 128 64 (by omega) (by omega) (by omega)
  · simp only [List.mem_cons, List.not_mem_nil, or_false] at hb
    rcases hb with rfl | rfl | rfl
    · exact hbyte _ 224 16 (by omega) (by omega) (by omega)
    · exact hbyte _ 128 64 (by omega) (by omega) (by omega)
    · exact hbyte _ 128 64 (by omega) (by omega) (by omega)
  · simp only [List.mem_cons, List.not_mem_nil, or_false] at hb
    rcases hb with rfl | rfl | rfl | rfl
    · exact hbyte _ 240 8 (by omega) (by omega) (by omega)
    · exact hbyte _ 128 64 (by omega) (by omega) (by omega)
    · exact hbyte _ 128 64 (by omega) (by omega) (by omega)
    · exact hbyte _ 128 64 (by omega) (by omega) (by omega)

theorem escape_high {b : UInt8} (hb : 128 ≤ b) : escape b = [b] := by
  have hb : 128 ≤ b.toNat := hb
  have hne : ∀ c : UInt8, c.toNat < 128 → b ≠ c := by
    rintro c hc rfl
    omega
  have hlow : ¬ b < 32 := by
    intro h
    have h : b.toNat < 32 := h
    omega
  unfold escape
  rw [if_neg (hne _ (by decide)), if_neg (hne _ (by decide)), if_neg (hne _ (by decide)),
    if_neg (hne _ (by decide)), if_neg (hne _ (by decide)), if_neg (hne _ (by decide)),
    if_neg (hne _ (by decide)), if_neg hlow]

theorem bytesOf_escapeChar_ascii : ∀ n : Fin 128,
    bytesOf (escapeChar (Char.ofNat n)) = (String.utf8EncodeChar (Char.ofNat n)).flatMap escape := by
  decide

theorem bytesOf_singleton (c : Char) : bytesOf (String.singleton c) = String.utf8EncodeChar c := by
  unfold bytesOf
  rw [String.toList_singleton, List.flatMap_cons, List.flatMap_nil, List.append_nil]

theorem escapeChar_high {c : Char} (hc : 128 ≤ c.toNat) : escapeChar c = String.singleton c := by
  have hne : ∀ d : Char, d.toNat < 128 → c ≠ d := by
    rintro d hd rfl
    omega
  unfold escapeChar
  rw [if_neg (hne _ (by decide)), if_neg (hne _ (by decide)), if_neg (hne _ (by decide)),
    if_neg (hne _ (by decide)), if_neg (hne _ (by decide)), if_neg (by omega), if_neg (by omega),
    if_neg (by omega), if_neg (by omega)]

theorem bytesOf_escapeChar (c : Char) :
    bytesOf (escapeChar c) = (String.utf8EncodeChar c).flatMap escape := by
  by_cases hc : c.toNat < 128
  · have h := bytesOf_escapeChar_ascii ⟨c.toNat, hc⟩
    rwa [Char.ofNat_toNat] at h
  · have hhigh : 128 ≤ c.toNat := by omega
    rw [escapeChar_high hhigh, bytesOf_singleton]
    have hbytes := utf8EncodeChar_high hhigh
    generalize String.utf8EncodeChar c = bs at hbytes
    induction bs with
    | nil => rfl
    | cons b bs ih =>
      rw [List.flatMap_cons, escape_high (hbytes b (List.mem_cons_self ..)),
        ← ih fun b' hb' => hbytes b' (List.mem_cons_of_mem _ hb')]
      rfl

/-- a string is quoted byte by byte -/
theorem bytesOf_quote (s : String) : bytesOf (quote s) = quoted (bytesOf s) := by
  unfold Logistics.quote quoted
  rw [bytesOf_append, bytesOf_append]
  have hbody : bytesOf (String.join (s.toList.map escapeChar)) = (bytesOf s).flatMap escape := by
    unfold bytesOf
    rw [String.toList_join, List.flatMap_assoc, List.flatMap_map, List.flatMap_assoc]
    refine congrArg (List.flatMap · s.toList) (funext fun c => ?_)
    exact bytesOf_escapeChar c
  rw [hbody]
  rfl

/-! ## numerals -/

theorem digit_cases {c : Char} (hc : c.isDigit = true) : ∃ d < 10, c = Nat.digitChar d := by
  unfold Char.isDigit at hc
  rw [Bool.and_eq_true, decide_eq_true_eq, decide_eq_true_eq] at hc
  obtain ⟨hlow, hhigh⟩ := hc
  have hlow : 48 ≤ c.toNat := hlow
  have hhigh : c.toNat ≤ 57 := hhigh
  have hall : ∀ d < 10, Char.ofNat (d + 48) = Nat.digitChar d := by decide
  refine ⟨c.toNat - 48, by omega, ?_⟩
  rw [← hall _ (by omega), Nat.sub_add_cancel hlow, Char.ofNat_toNat]

theorem utf8EncodeChar_digitChar : ∀ d < 10,
    String.utf8EncodeChar (Nat.digitChar d) = [48 + d.toUInt8] ∧ isDigit (48 + d.toUInt8) = true ∧
      (48 + d.toUInt8 = 48 → Nat.digitChar d = '0') := by
  decide

theorem toDigits_head {n : Nat} (hn : 0 < n) : (Nat.toDigits 10 n).head? ≠ some '0' := by
  induction n using Nat.strong_induction_on with
  | _ n ih =>
    by_cases h10 : n < 10
    · have hall : ∀ n < 10, 0 < n → some (Nat.digitChar n) ≠ some '0' := by decide
      rw [Nat.toDigits_of_lt_base h10]
      exact hall n h10 hn
    · rw [Nat.toDigits_of_base_le (by omega) (by omega),
        List.head?_append_of_ne_nil _ Nat.toDigits_ne_nil]
      exact ih (n / 10) (by omega) (by omega)

/-- the bytes of a numeral -/
theorem bytesOf_digits {s : String} (hs : ∀ c ∈ s.toList, c.isDigit = true) :
    ∀ b ∈ bytesOf s, isDigit b = true := by
  intro b hb
  obtain ⟨c, hc, hb⟩ := List.mem_flatMap.mp hb
  obtain ⟨d, hd, rfl⟩ := digit_cases (hs c hc)
  obtain ⟨hbytes, hdigit, -⟩ := utf8EncodeChar_digitChar d hd
  rw [hbytes] at hb
  rw [List.mem_singleton.mp hb]
  exact hdigit

theorem isDigit_repr {n : Nat} : ∀ c ∈ n.repr.toList, c.isDigit = true := by
  intro c hc
  rw [Nat.toList_repr] at hc
  exact Nat.isDigit_of_mem_toDigits (by omega) (by omega) hc

theorem bytesOf_repr_ne (n : Nat) : bytesOf n.repr ≠ [] := by
  intro h
  have hnil : n.repr = "" := bytesOf_injective h
  have hlist := congrArg String.toList hnil
  rw [Nat.toList_repr] at hlist
  exact Nat.toDigits_ne_nil hlist

theorem bytesOf_repr_lead (n : Nat) (h : (bytesOf n.repr).head? = some 48) :
    bytesOf n.repr = [48] := by
  by_cases hn : n = 0
  · rw [hn]
    rfl
  · exfalso
    refine toDigits_head (Nat.pos_of_ne_zero hn) ?_
    have hdigits := isDigit_repr (n := n)
    unfold bytesOf at h
    rw [Nat.toList_repr] at h hdigits
    cases htext : Nat.toDigits 10 n with
    | nil => exact absurd htext Nat.toDigits_ne_nil
    | cons c cs =>
      rw [htext] at h hdigits
      obtain ⟨d, hd, rfl⟩ := digit_cases (hdigits c (List.mem_cons_self ..))
      obtain ⟨hbytes, -, hzero⟩ := utf8EncodeChar_digitChar d hd
      rw [List.flatMap_cons, hbytes] at h
      rw [hzero (Option.some.inj h)]
      rfl

theorem bytesOf_repr_length {n k : Nat} (hk : 0 < k) (hn : n < 10 ^ k) :
    (bytesOf n.repr).length ≤ k := by
  have hlength : ∀ cs : List Char, (∀ c ∈ cs, c.isDigit = true) →
      (cs.flatMap String.utf8EncodeChar).length = cs.length := by
    intro cs hcs
    induction cs with
    | nil => rfl
    | cons c cs ih =>
      obtain ⟨d, hd, rfl⟩ := digit_cases (hcs c (List.mem_cons_self ..))
      rw [List.flatMap_cons, (utf8EncodeChar_digitChar d hd).1, List.length_append,
        ih fun c' hc' => hcs c' (List.mem_cons_of_mem _ hc'), List.length_singleton,
        List.length_cons, Nat.add_comm]
  unfold bytesOf
  rw [hlength _ isDigit_repr, Nat.toList_repr]
  exact (Nat.length_toDigits_le_iff (by omega) hk).mpr hn

theorem number_toString (n : Int) :
    number (bytesOf (toString n)) = some (bytesOf (toString n), []) := by
  cases n with
  | ofNat n =>
    exact number_digits (bytesOf_repr_ne n) (bytesOf_digits isDigit_repr) (bytesOf_repr_lead n)
  | negSucc n =>
    show number (bytesOf ("-" ++ (n + 1).repr)) = some (bytesOf ("-" ++ (n + 1).repr), [])
    rw [bytesOf_append]
    exact number_minus (bytesOf_repr_ne _) (bytesOf_digits isDigit_repr) (bytesOf_repr_lead _)

/-- the integer a literal without fraction and exponent denotes -/
def integral (literal : String) : Option Int :=
  match literal.toList with
  | '-' :: ds => if ds.all Char.isDigit then some (-(Nat.ofDigitChars 10 ds 0 : Int)) else none
  | ds => if ds.all Char.isDigit then some (Nat.ofDigitChars 10 ds 0 : Int) else none

theorem integral_toString (n : Int) : integral (toString n) = some n := by
  cases n with
  | ofNat n =>
    have hall := List.all_eq_true.mpr (isDigit_repr (n := n))
    show integral n.repr = some (n : Int)
    unfold integral
    rw [Nat.toList_repr] at hall ⊢
    split
    · rename_i ds hds
      rw [hds] at hall
      exact absurd (List.all_eq_true.mp hall '-' (List.mem_cons_self ..)) (by decide)
    · rw [if_pos hall, Nat.ofDigitChars_ten_toDigits]
  | negSucc n =>
    have hall := List.all_eq_true.mpr (isDigit_repr (n := n + 1))
    show integral ("-" ++ (n + 1).repr) = some (Int.negSucc n)
    unfold integral
    rw [Nat.toList_repr] at hall
    rw [String.toList_append, Nat.toList_repr]
    show (if (Nat.toDigits 10 (n + 1)).all Char.isDigit then
      some (-(Nat.ofDigitChars 10 (Nat.toDigits 10 (n + 1)) 0 : Int)) else none) = _
    rw [if_pos hall, Nat.ofDigitChars_ten_toDigits]
    rfl

/-! ## parsing -/

/-- what the library does with the doubles of literals that are not integers -/
structure Doubles where
  finite : String → Bool
  /-- the text `dump` writes for the double of a literal -/
  text : String → String
  text_number : ∀ literal, number (bytesOf (text literal)) = some (bytesOf (text literal), [])
  text_length : ∀ literal, (bytesOf (text literal)).length ≤ 24

def nlohmann : Dialect where
  space b := b = 32 || b = 9 || b = 10 || b = 13
  raw b := 32 ≤ b
  lenientHex := false
  number := JsonText.number

/-- fits `int64_t` or `uint64_t` -/
def InRange (n : Int) : Prop := -2 ^ 63 ≤ n ∧ n < 2 ^ 64

instance (n : Int) : Decidable (InRange n) := inferInstanceAs (Decidable (_ ∧ _))

variable (F : Doubles)

def Json.ofNumber (literal : Text) : Option Json :=
  (decode literal).bind fun s =>
    let double := if F.finite s then some (Json.float s) else none
    match integral s with
    | some n => if InRange n then some (.int n) else double
    | none => double

mutual
def Json.ofTree : Tree → Option Json
  | .null => some .null
  | .bool b => some (.bool b)
  | .number literal => Json.ofNumber F literal
  | .str s => (decode s).map .str
  | .arr elems => (ofElems elems).map .arr
  | .obj fields => (ofFields fields []).map .obj

def ofElems : List Tree → Option (List Json)
  | [] => some []
  | v :: rest => (Json.ofTree v).bind fun v => (ofElems rest).map fun vs => v :: vs

/-- `map[key] = value` for one field after the other -/
def ofFields : List (Text × Tree) → List (String × Json) → Option (List (String × Json))
  | [], map => some map
  | (k, v) :: rest, map =>
    (decode k).bind fun k => (Json.ofTree v).bind fun v => ofFields rest (setKey k v map)
end

/-- nothing but a NUL may stand after the value -/
def endOfInput (t : Text) : Bool := t.head?.all (· = 0)

/-- `json::parse(text, nullptr, false)` -/
def Json.parse (text : Bytes) : Option Json :=
  (document nlohmann text).bind fun p =>
    if endOfInput (nlohmann.skip p.2) then Json.ofTree F p.1 else none

/-! ## printing -/

mutual
def Json.tree : Json → Tree
  | .null => .null
  | .bool b => .bool b
  | .int n => .number (bytesOf (toString n))
  | .float literal => .number (bytesOf literal)
  | .str s => .str (bytesOf s)
  | .arr elems => .arr (treeElems elems)
  | .obj fields => .obj (treeFields fields)

def treeElems : List Json → List Tree
  | [] => []
  | v :: rest => v.tree :: treeElems rest

def treeFields : List (String × Json) → List (Text × Tree)
  | [] => []
  | (k, v) :: rest => (bytesOf k, v.tree) :: treeFields rest
end

-- Every double as `dump` writes it.
mutual
def Json.written : Json → Json
  | .float literal => .float (F.text literal)
  | .arr elems => .arr (writtenElems elems)
  | .obj fields => .obj (writtenFields fields)
  | v => v

def writtenElems : List Json → List Json
  | [] => []
  | v :: rest => v.written :: writtenElems rest

def writtenFields : List (String × Json) → List (String × Json)
  | [] => []
  | (k, v) :: rest => (k, v.written) :: writtenFields rest
end

def Json.dump (v : Json) : String := (v.written F).render

-- The text of a value is the printed tree of the value.
mutual
theorem bytesOf_render : ∀ v : Json, bytesOf v.render = v.tree.print
  | .null => rfl
  | .bool true => rfl
  | .bool false => rfl
  | .int n => rfl
  | .float literal => rfl
  | .str s => bytesOf_quote s
  | .arr elems => by
    rw [Json.render, Json.tree, Tree.print, bytesOf_append, bytesOf_append,
      bytesOf_renderElems elems]
    rfl
  | .obj fields => by
    rw [Json.render, Json.tree, Tree.print, bytesOf_append, bytesOf_append,
      bytesOf_renderFields fields]
    rfl

theorem bytesOf_renderElems : ∀ vs : List Json,
    bytesOf (renderElems vs) = printElems (treeElems vs)
  | [] => rfl
  | [v] => bytesOf_render v
  | v :: w :: vs => by
    have hcomma : ∀ t : Text, bytesOf "," ++ t = Byte.comma :: t := fun t => rfl
    rw [renderElems, treeElems, treeElems, printElems_cons, bytesOf_append, bytesOf_append,
      bytesOf_render v, bytesOf_renderElems (w :: vs), List.append_assoc, hcomma, treeElems]
    exact nofun

theorem bytesOf_renderFields : ∀ fs : List (String × Json),
    bytesOf (renderFields fs) = printFields (treeFields fs)
  | [] => rfl
  | [(k, v)] => by
    have hcolon : ∀ t : Text, bytesOf ":" ++ t = Byte.colon :: t := fun t => rfl
    rw [renderFields, treeFields, treeFields, printFields, bytesOf_append, bytesOf_append,
      bytesOf_quote, bytesOf_render v, List.append_assoc, hcolon]
  | (k, v) :: (k', v') :: fs => by
    have hcolon : ∀ t : Text, bytesOf ":" ++ t = Byte.colon :: t := fun t => rfl
    have hcomma : ∀ t : Text, bytesOf "," ++ t = Byte.comma :: t := fun t => rfl
    rw [renderFields, treeFields, treeFields, printFields_cons, bytesOf_append, bytesOf_append,
      bytesOf_append, bytesOf_append, bytesOf_quote, bytesOf_render v,
      bytesOf_renderFields ((k', v') :: fs), List.append_assoc, List.append_assoc,
      List.append_assoc, hcolon, hcomma, treeFields]
    exact nofun
end

/-! ## the round trip -/

/-- the integers are those of the library, so that they have few digits -/
inductive Json.Ranged : Json → Prop
  | null : Json.null.Ranged
  | bool (b : Bool) : (Json.bool b).Ranged
  | int {n : Int} (h : InRange n) : (Json.int n).Ranged
  | float (literal : String) : (Json.float literal).Ranged
  | str (s : String) : (Json.str s).Ranged
  | arr {elems : List Json} (h : ∀ v ∈ elems, v.Ranged) : (Json.arr elems).Ranged
  | obj {fields : List (String × Json)} (h : ∀ f ∈ fields, f.2.Ranged) : (Json.obj fields).Ranged

/-- a value as the library holds it after reading the text it wrote for it -/
inductive Json.Canonical : Json → Prop
  | null : Json.null.Canonical
  | bool (b : Bool) : (Json.bool b).Canonical
  | int {n : Int} (h : InRange n) : (Json.int n).Canonical
  | str (s : String) : (Json.str s).Canonical
  | arr {elems : List Json} (h : ∀ v ∈ elems, v.Canonical) : (Json.arr elems).Canonical
  | obj {fields : List (String × Json)} (sorted : (fields.map Prod.fst).Pairwise (· < ·))
      (h : ∀ f ∈ fields, f.2.Canonical) : (Json.obj fields).Canonical

theorem Json.Canonical.ranged {v : Json} (hv : v.Canonical) : v.Ranged := by
  induction hv with
  | null => exact .null
  | bool b => exact .bool b
  | int h => exact .int h
  | str s => exact .str s
  | arr _ ih => exact .arr ih
  | obj _ _ ih => exact .obj ih

theorem writtenElems_eq {elems : List Json} (h : ∀ v ∈ elems, v.written F = v) :
    writtenElems F elems = elems := by
  induction elems with
  | nil => rfl
  | cons v elems ih =>
    rw [writtenElems, h v (List.mem_cons_self ..), ih fun w hw => h w (List.mem_cons_of_mem _ hw)]

theorem writtenFields_eq {fields : List (String × Json)} (h : ∀ f ∈ fields, f.2.written F = f.2) :
    writtenFields F fields = fields := by
  induction fields with
  | nil => rfl
  | cons f fields ih =>
    obtain ⟨k, v⟩ := f
    have hv : v.written F = v := h (k, v) (List.mem_cons_self ..)
    rw [writtenFields, hv, ih fun w hw => h w (List.mem_cons_of_mem _ hw)]

theorem Json.Canonical.written_eq {v : Json} (hv : v.Canonical) : v.written F = v := by
  induction hv with
  | arr _ ih => rw [Json.written, writtenElems_eq F ih]
  | obj _ _ ih => rw [Json.written, writtenFields_eq F ih]
  | _ => rfl

/-- a number literal that both libraries read -/
def Short (literal : Text) : Prop :=
  number literal = some (literal, []) ∧ literal.length ≤ 24

theorem short_toString {n : Int} (hn : InRange n) : Short (bytesOf (toString n)) := by
  refine ⟨number_toString n, ?_⟩
  obtain ⟨hlow, hhigh⟩ := hn
  cases n with
  | ofNat n =>
    have hlt : (n : Int) < 2 ^ 64 := hhigh
    have hlength : (bytesOf n.repr).length ≤ 20 := bytesOf_repr_length (by omega) (by omega)
    show (bytesOf n.repr).length ≤ 24
    omega
  | negSucc n =>
    have hlength : (bytesOf (n + 1).repr).length ≤ 20 := bytesOf_repr_length (by omega) (by omega)
    show (bytesOf ("-" ++ (n + 1).repr)).length ≤ 24
    have hsign : (bytesOf "-").length = 1 := rfl
    rw [bytesOf_append, List.length_append, hsign]
    omega

theorem numbers_treeElems {P : Text → Prop} {elems : List Json}
    (h : ∀ v ∈ elems, ∀ l ∈ (v.written F).tree.numbers, P l) :
    ∀ l ∈ numbersElems (treeElems (writtenElems F elems)), P l := by
  induction elems with
  | nil =>
    intro l hl
    cases hl
  | cons v elems ih =>
    intro l hl
    rw [writtenElems, treeElems, numbersElems] at hl
    rcases List.mem_append.mp hl with hl | hl
    · exact h v (List.mem_cons_self ..) l hl
    · exact ih (fun w hw => h w (List.mem_cons_of_mem _ hw)) l hl

theorem numbers_treeFields {P : Text → Prop} {fields : List (String × Json)}
    (h : ∀ f ∈ fields, ∀ l ∈ (f.2.written F).tree.numbers, P l) :
    ∀ l ∈ numbersFields (treeFields (writtenFields F fields)), P l := by
  induction fields with
  | nil =>
    intro l hl
    cases hl
  | cons f fields ih =>
    obtain ⟨k, v⟩ := f
    intro l hl
    rw [writtenFields, treeFields, numbersFields] at hl
    rcases List.mem_append.mp hl with hl | hl
    · exact h (k, v) (List.mem_cons_self ..) l hl
    · exact ih (fun w hw => h w (List.mem_cons_of_mem _ hw)) l hl

theorem Json.Ranged.short {v : Json} (hv : v.Ranged) :
    ∀ l ∈ (v.written F).tree.numbers, Short l := by
  induction hv with
  | int h =>
    intro l hl
    rw [List.mem_singleton.mp hl]
    exact short_toString h
  | float literal =>
    intro l hl
    rw [List.mem_singleton.mp hl]
    exact ⟨F.text_number literal, F.text_length literal⟩
  | arr _ ih => exact numbers_treeElems F ih
  | obj _ ih => exact numbers_treeFields F ih
  | _ =>
    intro l hl
    cases hl

theorem nlohmann_plain : nlohmann.Plain where
  raw _ hb := decide_eq_true hb
  space b hb := by
    have hb : 32 < b.toNat := hb
    have hne : ∀ c : UInt8, c.toNat ≤ 32 → decide (b = c) = false := by
      intro c hc
      refine decide_eq_false ?_
      rintro rfl
      omega
    show (decide (b = 32) || decide (b = 9) || decide (b = 10) || decide (b = 13)) = false
    rw [hne 32 (by decide), hne 9 (by decide), hne 10 (by decide), hne 13 (by decide)]
    rfl

theorem nlohmann_splits : nlohmann.Splits := fun _ _ _ h => number_splits h

theorem nlohmann_stable : nlohmann.Stable := fun _ _ _ q h hr => number_stable h hr q

theorem nlohmann_reads {l : Text} (hl : Short l) : nlohmann.Reads l :=
  ⟨number_head hl.1, fun _ hr => number_reads hl.1 hr⟩

theorem ofElems_tree {elems : List Json} (h : ∀ v ∈ elems, Json.ofTree F v.tree = some v) :
    ofElems F (treeElems elems) = some elems := by
  induction elems with
  | nil => rfl
  | cons v elems ih =>
    rw [treeElems, ofElems, h v (List.mem_cons_self ..), Option.bind_some,
      ih fun w hw => h w (List.mem_cons_of_mem _ hw)]
    rfl

theorem setKey_append {k : String} {v : Json} {map : List (String × Json)}
    (h : ∀ f ∈ map, f.1 < k) : setKey k v map = map ++ [(k, v)] := by
  induction map with
  | nil => rfl
  | cons f map ih =>
    obtain ⟨k', v'⟩ := f
    have hlt : k' < k := h (k', v') (List.mem_cons_self ..)
    unfold setKey
    rw [if_neg (ne_of_gt hlt), if_neg (lt_asymm hlt), ih fun f hf => h f (List.mem_cons_of_mem _ hf)]
    rfl

theorem ofFields_tree {fields : List (String × Json)}
    (sorted : (fields.map Prod.fst).Pairwise (· < ·))
    (h : ∀ f ∈ fields, Json.ofTree F f.2.tree = some f.2) (map : List (String × Json))
    (hmap : ∀ f ∈ map, ∀ g ∈ fields, f.1 < g.1) :
    ofFields F (treeFields fields) map = some (map ++ fields) := by
  induction fields generalizing map with
  | nil => rw [treeFields, ofFields, List.append_nil]
  | cons f fields ih =>
    obtain ⟨k, v⟩ := f
    have hv : Json.ofTree F v.tree = some v := h (k, v) (List.mem_cons_self ..)
    rw [List.map_cons, List.pairwise_cons] at sorted
    obtain ⟨hfirst, hsorted⟩ := sorted
    have hlast : ∀ f ∈ map, f.1 < k := fun f hf => hmap f hf (k, v) (List.mem_cons_self ..)
    rw [treeFields, ofFields, decode_bytesOf, Option.bind_some, hv, Option.bind_some,
      setKey_append hlast, ih hsorted (fun w hw => h w (List.mem_cons_of_mem _ hw)),
      List.append_assoc]
    · rfl
    · intro f hf g hg
      rcases List.mem_append.mp hf with hf | hf
      · exact hmap f hf g (List.mem_cons_of_mem _ hg)
      · rw [List.mem_singleton.mp hf]
        exact hfirst g.1 (List.mem_map_of_mem hg)

theorem Json.Canonical.ofTree_tree {v : Json} (hv : v.Canonical) : Json.ofTree F v.tree = some v := by
  induction hv with
  | null => rfl
  | bool b => rfl
  | @int n h =>
    rw [Json.tree, Json.ofTree, Json.ofNumber, decode_bytesOf, Option.bind_some]
    simp only [integral_toString, if_pos h]
  | str s => rw [Json.tree, Json.ofTree, decode_bytesOf, Option.map_some]
  | arr _ ih => rw [Json.tree, Json.ofTree, ofElems_tree F ih, Option.map_some]
  | obj sorted _ ih =>
    rw [Json.tree, Json.ofTree, ofFields_tree F sorted ih [] nofun, Option.map_some,
      List.nil_append]

/-- the text of a value without doubles is parsed to what its tree stands for -/
theorem parse_render {v w : Json} (hv : v.Ranged) (hwritten : v.written F = v)
    (h : Json.ofTree F v.tree = some w) : Json.parse F (bytesOf v.render) = some w := by
  have hnumbers : ∀ l ∈ v.tree.numbers, nlohmann.Reads l := by
    have hshort := hv.short F
    rw [hwritten] at hshort
    exact fun l hl => nlohmann_reads (hshort l hl)
  unfold Json.parse
  rw [bytesOf_render, document_print nlohmann_plain hnumbers, Option.bind_some]
  exact h

/-- **A canonical value is parsed back from its text.** -/
theorem parse_dump {v : Json} (hv : v.Canonical) : Json.parse F (bytesOf (v.dump F)) = some v := by
  unfold Json.dump
  rw [hv.written_eq F]
  exact parse_render F hv.ranged (hv.written_eq F) (hv.ofTree_tree F)

/-! ## what the parser returns -/

theorem setKey_mem {α : Type} {k : String} {v : α} {map : List (String × α)} {f : String × α}
    (hf : f ∈ setKey k v map) : f = (k, v) ∨ f ∈ map := by
  induction map with
  | nil => exact .inl (List.mem_singleton.mp hf)
  | cons g map ih =>
    obtain ⟨k', v'⟩ := g
    unfold setKey at hf
    split_ifs at hf with heq hlt
    · rcases List.mem_cons.mp hf with hf | hf
      · exact .inl hf
      · exact .inr (List.mem_cons_of_mem _ hf)
    · exact List.mem_cons.mp hf
    · rcases List.mem_cons.mp hf with hf | hf
      · exact .inr (hf ▸ List.mem_cons_self ..)
      · exact (ih hf).imp_right (List.mem_cons_of_mem _)

theorem lookup_setKey_self {α : Type} (k : String) (v : α) (map : List (String × α)) :
    (setKey k v map).lookup k = some v := by
  induction map with
  | nil => exact List.lookup_cons_self
  | cons g map ih =>
    obtain ⟨k', v'⟩ := g
    unfold setKey
    split_ifs with heq hlt
    · exact List.lookup_cons_self
    · exact List.lookup_cons_self
    · rw [List.lookup_cons, show (k == k') = false from beq_eq_false_iff_ne.mpr heq]
      exact ih

/-- a field of a parsed object comes from a field of the text with its key -/
theorem ofFields_lookup {ts : List (Text × Tree)} {map fs : List (String × Json)} {k : String}
    {v : Json} (h : ofFields F ts map = some fs) (hv : fs.lookup k = some v) :
    (∃ t, (bytesOf k, t) ∈ ts ∧ Json.ofTree F t = some v) ∨ map.lookup k = some v := by
  induction ts generalizing map with
  | nil =>
    cases h
    exact .inr hv
  | cons t ts ih =>
    obtain ⟨k', t⟩ := t
    obtain ⟨key, hkey, h⟩ := Option.bind_eq_some_iff.mp h
    obtain ⟨w, hw, h⟩ := Option.bind_eq_some_iff.mp h
    rcases ih h with ⟨t', ht', hvalue⟩ | hlookup
    · exact .inl ⟨t', List.mem_cons_of_mem _ ht', hvalue⟩
    · by_cases hk : k = key
      · rw [← hk, lookup_setKey_self] at hlookup
        cases hlookup
        refine .inl ⟨t, ?_, hw⟩
        rw [hk, decode_eq_some_iff.mp hkey]
        exact List.mem_cons_self ..
      · rw [lookup_setKey_of_ne hk] at hlookup
        exact .inr hlookup

theorem ofTree_str {t : Tree} {s : String} (h : Json.ofTree F t = some (.str s)) :
    t = .str (bytesOf s) := by
  cases t with
  | str text =>
    obtain ⟨s', hs', he⟩ := Option.map_eq_some_iff.mp h
    cases he
    rw [decode_eq_some_iff.mp hs']
  | number literal =>
    exfalso
    obtain ⟨l, -, h⟩ := Option.bind_eq_some_iff.mp h
    simp only at h
    split at h
    · split_ifs at h <;> cases h
    · split_ifs at h
      cases h
  | null => cases h
  | bool b => cases h
  | arr elems =>
    obtain ⟨vs, -, he⟩ := Option.map_eq_some_iff.mp h
    cases he
  | obj fields =>
    obtain ⟨fs, -, he⟩ := Option.map_eq_some_iff.mp h
    cases he

theorem ofNumber_ranged {literal : Text} {v : Json} (h : Json.ofNumber F literal = some v) :
    v.Ranged := by
  obtain ⟨s, -, h⟩ := Option.bind_eq_some_iff.mp h
  have hdouble : ∀ w, (if F.finite s then some (Json.float s) else none) = some w → w.Ranged := by
    intro w hw
    split_ifs at hw
    cases hw
    exact .float s
  simp only at h
  split at h
  · split_ifs at h with hrange
    · cases h
      exact .int hrange
    · exact hdouble v (by rw [if_pos (by assumption), h])
  · exact hdouble v h

-- The integers of a parsed value are those of the library.
mutual
theorem ofTree_ranged : ∀ {t : Tree} {v : Json}, Json.ofTree F t = some v → v.Ranged
  | .null, _, h => by
    cases h
    exact .null
  | .bool b, _, h => by
    cases h
    exact .bool b
  | .number literal, _, h => ofNumber_ranged F h
  | .str s, _, h => by
    obtain ⟨s', -, rfl⟩ := Option.map_eq_some_iff.mp h
    exact .str s'
  | .arr elems, _, h => by
    obtain ⟨vs, hvs, rfl⟩ := Option.map_eq_some_iff.mp h
    exact .arr (ofElems_ranged hvs)
  | .obj fields, _, h => by
    obtain ⟨fs, hfs, rfl⟩ := Option.map_eq_some_iff.mp h
    exact .obj (ofFields_ranged hfs nofun)

theorem ofElems_ranged : ∀ {ts : List Tree} {vs : List Json}, ofElems F ts = some vs →
    ∀ v ∈ vs, v.Ranged
  | [], _, h => by
    cases h
    exact nofun
  | t :: ts, _, h => by
    obtain ⟨v, hv, h⟩ := Option.bind_eq_some_iff.mp h
    obtain ⟨vs, hvs, rfl⟩ := Option.map_eq_some_iff.mp h
    exact List.forall_mem_cons.mpr ⟨ofTree_ranged hv, ofElems_ranged hvs⟩

theorem ofFields_ranged : ∀ {ts : List (Text × Tree)} {map fs : List (String × Json)},
    ofFields F ts map = some fs → (∀ f ∈ map, f.2.Ranged) → ∀ f ∈ fs, f.2.Ranged
  | [], _, _, h, hmap => by
    cases h
    exact hmap
  | (k, t) :: ts, map, fs, h, hmap => by
    obtain ⟨k', -, h⟩ := Option.bind_eq_some_iff.mp h
    obtain ⟨v, hv, h⟩ := Option.bind_eq_some_iff.mp h
    refine ofFields_ranged h fun f hf => ?_
    rcases setKey_mem hf with rfl | hf
    · exact ofTree_ranged hv
    · exact hmap f hf
end

theorem parse_ranged {text : Bytes} {v : Json} (h : Json.parse F text = some v) : v.Ranged := by
  obtain ⟨⟨t, r⟩, -, h⟩ := Option.bind_eq_some_iff.mp h
  split_ifs at h
  exact ofTree_ranged F h

/-! ## libraries that use this parser and printer -/

/-- a library that takes every double for a half -/
def Doubles.sample : Doubles := ⟨fun _ => true, fun _ => "0.5", fun _ => rfl, fun _ => by decide⟩

def Libs.standard (L : Libs) : Libs := { L with parse := Json.parse F, dump := Json.dump F }

@[simp] theorem Libs.standard_parse (L : Libs) : (L.standard F).parse = Json.parse F := rfl

/-- nlohmann::json reads the texts of `JsonText` and no others, and writes a value as the text with
sorted keys and without blanks -/
structure Libs.Nlohmann (L : Libs) : Prop where
  parse : L.parse = Json.parse F
  dump : L.dump = Json.dump F

variable {F} in
theorem Libs.Nlohmann.standard {L : Libs} (h : L.Nlohmann F) : ∃ L' : Libs, L = L'.standard F := by
  refine ⟨L, ?_⟩
  unfold Libs.standard
  rw [← h.parse, ← h.dump]

abbrev sampleLibs : Libs := (Libs.known []).standard .sample

theorem sampleLibs_parse {v : Json} (hv : v.Canonical) :
    sampleLibs.parse (bytesOf (v.dump .sample)) = some v := parse_dump .sample hv

end Logistics
