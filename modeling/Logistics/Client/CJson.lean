import Logistics.Base.JsonCodec
import Logistics.Lib.JsonDepth
import Logistics.Session.Framing

/-!
# The client's JSON library

cJSON is modelled as a dialect of `JsonText`: everything up to the space is skipped between tokens,
every byte may stand in a string, what is not hexadecimal counts as zero, and numbers are those of
`strtod`.  More than 1000 levels of arrays and objects are refused.  Strings are C strings, so that a
NUL ends them, and the keys of objects are compared without regard to case.

* `CLib`                   what the C library decides for the client;
* `cJSONParse`             `cJSON_Parse`;
* `getObjectItem`          `cJSON_GetObjectItem`;
* `cJSONParse_dump`        **cJSON reads what nlohmann::json writes**;
* `getObjectItem_written`  and finds in it the first field with the name, in whatever case.
-/

namespace Logistics.Client
open JsonText

/-- what the C library decides: the numbers of `strtod` and the `int` that cJSON keeps of one, and
whether `vfprintf` comes back from a format that it gets no arguments for -/
structure CLib where
  number : Scanner
  /-- the literals that the server writes are read -/
  reads : ∀ literal, Short literal → ∀ r, Delimited r → number (literal ++ r) = some (literal, r)
  valueint : Tree → Int
  ints : ∀ n : Int32, valueint (.number (bytesOf (toString n.toInt))) = n.toInt
  formats : Bytes → Bool
  /-- without a percent sign there is nothing to convert -/
  formats_plain : ∀ format, 37 ∉ format → formats format = true

def cJSON (N : CLib) : Dialect where
  space b := b ≤ 32
  raw _ := true
  lenientHex := true
  number := N.number

def CJSON_NESTING_LIMIT : Nat := 1000

/-- `cJSON_Parse`; what follows the value is not looked at -/
def cJSONParse (N : CLib) (t : Text) : Option Tree :=
  ((document (cJSON N) t).map Prod.fst).filter fun root => root.depth ≤ CJSON_NESTING_LIMIT

def tolower (b : UInt8) : UInt8 := if 65 ≤ b && b ≤ 90 then b + 32 else b

/-- `case_insensitive_strcmp(name, key) == 0` -/
def sameKey (name key : Text) : Bool := (cString key).map tolower = (cString name).map tolower

/-- `cJSON_GetObjectItem` -/
def getObjectItem (root : Tree) (name : Text) : Option Tree :=
  match root with
  | .obj fields => (fields.find? fun f => sameKey name f.1).map Prod.snd
  | _ => none

/-- `strcmp(valuestring, text) == 0` -/
def strEq (valuestring : Text) (text : String) : Bool := cString valuestring = bytesOf text

/-! ## what the server writes -/

theorem cJSON_plain (N : CLib) : (cJSON N).Plain where
  raw _ _ := rfl
  space b hb := by
    have hb : 32 < b.toNat := hb
    refine decide_eq_false fun h => ?_
    have h : b.toNat ≤ 32 := h
    omega

theorem cJSON_reads (N : CLib) {l : Text} (hl : Short l) : (cJSON N).Reads l :=
  ⟨number_head hl.1, N.reads l hl⟩

variable (F : Doubles) (N : CLib)

/-- cJSON reads a printed tree, unless it is nested too deep -/
theorem cJSONParse_print {v : Tree} (hv : ∀ l ∈ v.numbers, Short l) :
    cJSONParse N v.print = if v.depth ≤ CJSON_NESTING_LIMIT then some v else none := by
  unfold cJSONParse
  rw [document_print (cJSON_plain N) fun l hl => cJSON_reads N (hv l hl)]
  by_cases hdepth : v.depth ≤ CJSON_NESTING_LIMIT
  · rw [if_pos hdepth]
    exact Option.filter_some_pos (decide_eq_true hdepth)
  · rw [if_neg hdepth]
    exact Option.filter_some_neg (by simpa using hdepth)

theorem cJSONParse_dump {v : Json} (hv : v.Ranged) :
    cJSONParse N (bytesOf (v.dump F)) =
      if (v.written F).tree.depth ≤ CJSON_NESTING_LIMIT then some (v.written F).tree else none := by
  unfold Json.dump
  rw [bytesOf_render]
  exact cJSONParse_print N (hv.short F)

/-- a short text has no room for so many levels -/
theorem cJSONParse_dump_short {v : Json} (hv : v.Ranged)
    (hlength : (bytesOf (v.dump F)).length ≤ CJSON_NESTING_LIMIT) :
    cJSONParse N (bytesOf (v.dump F)) = some (v.written F).tree := by
  have hdocument : document (cJSON N) (bytesOf (v.dump F)) = some ((v.written F).tree, []) := by
    unfold Json.dump
    rw [bytesOf_render]
    exact document_print (cJSON_plain N) fun l hl => cJSON_reads N (hv.short F l hl)
  rw [cJSONParse_dump F N hv, if_pos ((document_depth hdocument).trans hlength)]

theorem dump_printable {v : Json} (hv : v.Ranged) : ∀ b ∈ bytesOf (v.dump F), 32 ≤ b := by
  unfold Json.dump
  rw [bytesOf_render]
  exact print_printable fun l hl => printable_number l l [] (hv.short F l hl).1

/-- the value of the first field that has a name, up to the case of its letters -/
def firstField (name : String) (fields : List (String × Json)) : Option Json :=
  (fields.find? fun f => sameKey (bytesOf name) (bytesOf f.1)).map Prod.snd

theorem getObjectItem_written (name : String) (fields : List (String × Json)) :
    getObjectItem ((Json.obj fields).written F).tree (bytesOf name) =
      (firstField name fields).map fun v => (v.written F).tree := by
  show ((treeFields (writtenFields F fields)).find? fun f => sameKey (bytesOf name) f.1).map
    Prod.snd = _
  unfold firstField
  induction fields with
  | nil => rfl
  | cons f fields ih =>
    obtain ⟨k, v⟩ := f
    rw [writtenFields, treeFields, List.find?_cons, List.find?_cons]
    dsimp only
    cases sameKey (bytesOf name) (bytesOf k) with
    | true => rfl
    | false => exact ih

/-- the numbers of JSON, and a `vfprintf` that comes back from plain texts only -/
def CLib.sample : CLib where
  number := JsonText.number
  reads _ h _ hr := number_reads h.1 hr
  valueint
    | .number literal => ((decode literal).bind integral).getD 0
    | _ => 0
  ints n := by
    show ((decode (bytesOf (toString n.toInt))).bind integral).getD 0 = n.toInt
    rw [decode_bytesOf, Option.bind_some, integral_toString]
    rfl
  formats format := decide (37 ∉ format)
  formats_plain _ h := decide_eq_true h

end Logistics.Client
