import Mathlib

/-!
# JSON values as the server uses them

The server handles requests and replies as `nlohmann::json` values.  Modelled here is what it uses
of that library: the kinds of values, the accessors with the exceptions they throw, and the
assignment `response["key"] = value`.

* an object is a `std::map`: a list of fields, looked up by key, kept in key order by `setKey`;
* `int` stands for both integer kinds (`number_integer`, `number_unsigned`), `float` keeps the
  literal of a number with a fraction or an exponent;
* a conversion to C++ `int` is a `static_cast`: integers are taken modulo `2^32`, booleans are
  `0` or `1`, and a float goes through `FloatCast` (the library's conversion to double and the
  cast, which are not modelled).

`Json.contains`, `Json.atKey`, `Json.value`, `Json.getString`, `Json.getInt` throw as documented:
`type_error` 302 (wrong type), 304 (`at` on a non-object), 305 (`[]` on a non-object), 306 (`value`
on a non-object), `out_of_range` 403 (no such key), `parse_error` 101 (not a JSON text).
-/

namespace Logistics

inductive Json where
  | null
  | bool (b : Bool)
  | int (n : Int)
  | float (literal : String)
  | str (s : String)
  | arr (elems : List Json)
  | obj (fields : List (String × Json))
  deriving Inhabited

inductive JsonError where
  | parseError (id : Nat)
  | typeError (id : Nat)
  | outOfRange (id : Nat)
  deriving DecidableEq, Repr

/-- `static_cast<int>` of the double a float literal denotes -/
abbrev FloatCast := String → Int32

/-! ## fields in key order -/

section Fields
variable {α : Type}

def setKey (key : String) (value : α) : List (String × α) → List (String × α)
  | [] => [(key, value)]
  | (k, v) :: rest =>
    if key = k then (key, value) :: rest
    else if key < k then (key, value) :: (k, v) :: rest
    else (k, v) :: setKey key value rest

theorem lookup_setKey_of_ne {key other : String} (h : other ≠ key) (value : α)
    (fields : List (String × α)) :
    (setKey key value fields).lookup other = fields.lookup other := by
  have hb : (other == key) = false := by simpa using h
  induction fields with
  | nil => simpa [setKey] using h
  | cons f rest ih =>
    obtain ⟨k, v⟩ := f
    unfold setKey
    by_cases hk : key = k
    · subst hk
      simp [List.lookup_cons, hb]
    · by_cases hlt : key < k
      · simp [hk, hlt, List.lookup_cons, hb]
      · simp only [if_neg hk, if_neg hlt, List.lookup_cons, ih]

end Fields

namespace Json

def field? : Json → String → Option Json
  | .obj fields, key => fields.lookup key
  | _, _ => none

def contains (j : Json) (key : String) : Bool := (j.field? key).isSome

def atKey (j : Json) (key : String) : Except JsonError Json :=
  match j with
  | .obj fields =>
    match fields.lookup key with
    | some v => .ok v
    | none => .error (.outOfRange 403)
  | _ => .error (.typeError 304)

def getString : Json → Except JsonError String
  | .str s => .ok s
  | _ => .error (.typeError 302)

def getInt (cast : FloatCast) : Json → Except JsonError Int32
  | .int n => .ok (Int32.ofInt n)
  | .float literal => .ok (cast literal)
  | .bool b => .ok (if b then 1 else 0)
  | _ => .error (.typeError 302)

def value (j : Json) (key defaultValue : String) : Except JsonError String :=
  match j with
  | .obj fields =>
    match fields.lookup key with
    | some v => v.getString
    | none => .ok defaultValue
  | _ => .error (.typeError 306)

def set (j : Json) (key : String) (v : Json) : Json :=
  match j with
  | .obj fields => .obj (setKey key v fields)
  | .null => .obj [(key, v)]
  | other => other

def atString (j : Json) (key : String) : Except JsonError String :=
  match j.atKey key with
  | .ok v => v.getString
  | .error e => .error e

theorem atKey_eq_ok_iff {j v : Json} {key : String} : j.atKey key = .ok v ↔ j.field? key = some v := by
  cases j with
  | obj fields =>
    show (match fields.lookup key with
      | some v => Except.ok v
      | none => Except.error (JsonError.outOfRange 403)) = .ok v ↔ fields.lookup key = some v
    cases fields.lookup key <;> simp
  | _ => simp [atKey, field?]

/-- `value` returns exactly on objects whose field, if there, is a string -/
theorem value_returns_iff (j : Json) (key defaultValue : String) :
    (∃ s, j.value key defaultValue = .ok s) ↔
      ∃ fields, j = .obj fields ∧ ∀ v, fields.lookup key = some v → ∃ s, v = .str s := by
  cases j with
  | obj fields =>
    simp only [value, Json.obj.injEq, exists_eq_left']
    cases h : fields.lookup key with
    | none => simp
    | some v => cases v <;> simp [getString]
  | _ => simp [value]

end Json

/-! ## texts -/

/-- how `dump` writes a character of a string -/
def escapeChar (c : Char) : String :=
  if c = '"' then "\\\""
  else if c = '\\' then "\\\\"
  else if c = '\n' then "\\n"
  else if c = '\t' then "\\t"
  else if c = '\r' then "\\r"
  else if c.toNat = 8 then "\\b"
  else if c.toNat = 12 then "\\f"
  else if c.toNat < 16 then "\\u000" ++ String.ofList (Nat.toDigits 16 c.toNat)
  else if c.toNat < 32 then "\\u00" ++ String.ofList (Nat.toDigits 16 c.toNat)
  else String.singleton c

def quote (s : String) : String := "\"" ++ String.join (s.toList.map escapeChar) ++ "\""

-- The compact text of a value, as `dump()` writes it; a float is left as it was read.
mutual
def Json.render : Json → String
  | .null => "null"
  | .bool b => if b then "true" else "false"
  | .int n => toString n
  | .float literal => literal
  | .str s => quote s
  | .arr elems => "[" ++ renderElems elems ++ "]"
  | .obj fields => "\x7b" ++ renderFields fields ++ "\x7d"

def renderElems : List Json → String
  | [] => ""
  | [v] => v.render
  | v :: rest => v.render ++ "," ++ renderElems rest

def renderFields : List (String × Json) → String
  | [] => ""
  | [(k, v)] => quote k ++ ":" ++ v.render
  | (k, v) :: rest => quote k ++ ":" ++ v.render ++ "," ++ renderFields rest
end

/-! ## replies -/

/-- `response["status"] = status; response["message"] = message;` on a fresh `json response` -/
def statusReply (status message : String) : Json :=
  (Json.null.set "status" (.str status)).set "message" (.str message)

theorem statusReply_eq (status message : String) :
    statusReply status message = .obj [("message", .str message), ("status", .str status)] := by
  have hne : ¬ "message" = "status" := by decide
  have hlt : "message" < "status" := by decide
  simp [statusReply, Json.set, setKey, hne, hlt]

def Json.status (j : Json) : Option String :=
  match j.field? "status" with
  | some (.str s) => some s
  | _ => none

@[simp] theorem status_statusReply (status message : String) :
    (statusReply status message).status = some status := by
  rw [statusReply_eq]
  rfl

theorem status_set_of_ne {key : String} (h : "status" ≠ key) (fields : List (String × Json))
    (v : Json) : ((Json.obj fields).set key v).status = (Json.obj fields).status := by
  unfold Json.status
  rw [show ((Json.obj fields).set key v).field? "status" = (Json.obj fields).field? "status" from
    lookup_setKey_of_ne h v fields]

end Logistics
