import Logistics.Base.JsonCodec

/-!
# Objects as maps of fields

An object of the library is a `std::map`: its keys are sorted, and the parser returns no others
(`parse_parsed`).  On such an object `set` at a key that is there rewrites one value in place
(`Json.set_eq_mapFields`), so that code which edits fields is `Json.mapFields`.

* `Json.mapFields`   every field rewritten by its key;
* `Json.shown`       the tree of the text that `dump` writes;
* `dump_eq_iff`      **two values have one text exactly if they have one tree**;
* `mapTree_shown`    a tree rewritten by its keys, as that of a value.
-/

namespace Logistics
open JsonText

/-! ## fields by their keys -/

section Fields
variable {α β : Type}

theorem lookup_mapFields (f : String → α → β) (fields : List (String × α)) (key : String) :
    (fields.map fun field => (field.1, f field.1 field.2)).lookup key =
      (fields.lookup key).map (f key) := by
  induction fields with
  | nil => rfl
  | cons field fields ih =>
    obtain ⟨k, v⟩ := field
    rw [List.map_cons, List.lookup_cons, List.lookup_cons, ih]
    by_cases hk : key = k
    · rw [beq_iff_eq.mpr hk, hk]
      rfl
    · rw [beq_eq_false_iff_ne.mpr hk]

theorem lookup_eq_of_mem {fields : List (String × α)}
    (sorted : (fields.map Prod.fst).Pairwise (· < ·)) {k : String} {v : α} (h : (k, v) ∈ fields) :
    fields.lookup k = some v := by
  induction fields with
  | nil => cases h
  | cons field fields ih =>
    obtain ⟨k', v'⟩ := field
    rw [List.map_cons, List.pairwise_cons] at sorted
    obtain ⟨hfirst, hrest⟩ := sorted
    rcases List.mem_cons.mp h with h | h
    · cases h
      exact List.lookup_cons_self
    · have hlt : k' < k := hfirst k (List.mem_map_of_mem h)
      rw [List.lookup_cons, beq_eq_false_iff_ne.mpr (ne_of_gt hlt)]
      exact ih hrest h

theorem setKey_sorted {key : String} {value : α} {fields : List (String × α)}
    (sorted : (fields.map Prod.fst).Pairwise (· < ·)) :
    ((setKey key value fields).map Prod.fst).Pairwise (· < ·) := by
  induction fields with
  | nil => exact List.pairwise_singleton ..
  | cons field fields ih =>
    obtain ⟨k, v⟩ := field
    have hsorted := sorted
    rw [List.map_cons, List.pairwise_cons] at sorted
    obtain ⟨hfirst, hrest⟩ := sorted
    unfold setKey
    split_ifs with heq hlt
    · rw [heq]
      exact hsorted
    · refine List.pairwise_cons.mpr ⟨fun k' hk' => ?_, hsorted⟩
      rcases List.mem_cons.mp hk' with rfl | hk'
      · exact hlt
      · exact lt_trans hlt (hfirst k' hk')
    · refine List.pairwise_cons.mpr ⟨fun k' hk' => ?_, ih hrest⟩
      obtain ⟨f, hf, rfl⟩ := List.mem_map.mp hk'
      rcases setKey_mem hf with rfl | hf
      · exact lt_of_le_of_ne (not_lt.mp hlt) (Ne.symm heq)
      · exact hfirst f.1 (List.mem_map_of_mem hf)

/-- a key that is there has its value replaced -/
theorem setKey_eq_map {key : String} {w : α} {fields : List (String × α)}
    (sorted : (fields.map Prod.fst).Pairwise (· < ·)) (h : fields.lookup key = some w) (value : α) :
    setKey key value fields =
      fields.map fun field => (field.1, if field.1 = key then value else field.2) := by
  induction fields with
  | nil => cases h
  | cons field fields ih =>
    obtain ⟨k, v⟩ := field
    rw [List.map_cons, List.pairwise_cons] at sorted
    obtain ⟨hfirst, hrest⟩ := sorted
    unfold setKey
    by_cases hk : key = k
    · have hothers : fields.map (fun field => (field.1, if field.1 = key then value else field.2)) =
          fields := by
        refine (List.map_congr_left fun f hf => ?_).trans (List.map_id fields)
        have hlt : k < f.1 := hfirst f.1 (List.mem_map_of_mem hf)
        rw [if_neg (hk ▸ ne_of_gt hlt)]
        rfl
      rw [if_pos hk, List.map_cons, if_pos hk.symm, hothers, hk]
    · rw [List.lookup_cons, beq_eq_false_iff_ne.mpr hk] at h
      obtain ⟨before, after, hsplit, -⟩ := List.lookup_eq_some_iff.mp h
      have hmem : (key, w) ∈ fields := by
        rw [hsplit]
        exact List.mem_append_right _ (List.mem_cons_self ..)
      have hlt : k < key := hfirst key (List.mem_map_of_mem hmem)
      rw [if_neg hk, if_neg (lt_asymm hlt), ih hrest h, List.map_cons, if_neg (Ne.symm hk)]

end Fields

/-! ## values whose fields are rewritten -/

namespace Json

/-- every field rewritten by its key; what is no object stays as it is -/
def mapFields (f : String → Json → Json) : Json → Json
  | .obj fields => .obj (fields.map fun field => (field.1, f field.1 field.2))
  | v => v

/-- the keys of an object, as a `std::map` holds them -/
def Sorted : Json → Prop
  | .obj fields => (fields.map Prod.fst).Pairwise (· < ·)
  | _ => True

theorem mapFields_field? (f : String → Json → Json) (v : Json) (key : String) :
    (v.mapFields f).field? key = (v.field? key).map (f key) := by
  cases v with
  | obj fields => exact lookup_mapFields f fields key
  | _ => rfl

theorem mapFields_mapFields (f g : String → Json → Json) (v : Json) :
    (v.mapFields f).mapFields g = v.mapFields fun key w => g key (f key w) := by
  cases v with
  | obj fields =>
    show Json.obj ((fields.map _).map _) = _
    rw [List.map_map]
    rfl
  | _ => rfl

theorem mapFields_congr {f g : String → Json → Json} {v : Json} (sorted : v.Sorted)
    (h : ∀ key w, v.field? key = some w → f key w = g key w) : v.mapFields f = v.mapFields g := by
  cases v with
  | obj fields =>
    refine congrArg Json.obj (List.map_congr_left fun field hfield => ?_)
    rw [h field.1 field.2 (lookup_eq_of_mem sorted hfield)]
  | _ => rfl

theorem mapFields_eq_self {f : String → Json → Json} {v : Json} (sorted : v.Sorted)
    (h : ∀ key w, v.field? key = some w → f key w = w) : v.mapFields f = v := by
  rw [mapFields_congr sorted h]
  cases v with
  | obj fields => exact congrArg Json.obj (List.map_id fields)
  | _ => rfl

theorem set_eq_mapFields {v w : Json} {key : String} (sorted : v.Sorted)
    (h : v.field? key = some w) (value : Json) :
    v.set key value = v.mapFields fun k x => if k = key then value else x := by
  cases v with
  | obj fields => exact congrArg Json.obj (setKey_eq_map sorted h value)
  | _ => cases h

theorem Ranged.field {v w : Json} {key : String} (hv : v.Ranged) (h : v.field? key = some w) :
    w.Ranged := by
  cases hv with
  | obj hfields =>
    obtain ⟨before, after, rfl, -⟩ := List.lookup_eq_some_iff.mp h
    exact hfields (key, w) (List.mem_append_right _ (List.mem_cons_self ..))
  | _ => cases h

theorem Ranged.mapFields {v : Json} (hv : v.Ranged) {f : String → Json → Json}
    (h : ∀ key w, w.Ranged → (f key w).Ranged) : (v.mapFields f).Ranged := by
  cases hv with
  | obj hfields =>
    refine .obj fun field hfield => ?_
    obtain ⟨g, hg, rfl⟩ := List.mem_map.mp hfield
    exact h g.1 g.2 (hfields g hg)
  | null => exact .null
  | bool b => exact .bool b
  | int hn => exact .int hn
  | float literal => exact .float literal
  | str s => exact .str s
  | arr helems => exact .arr helems

end Json

/-! ## what a text shows of a value -/

section Shown
variable (F : Doubles)

theorem ofFields_sorted {ts : List (Text × Tree)} {map fields : List (String × Json)}
    (h : ofFields F ts map = some fields) (sorted : (map.map Prod.fst).Pairwise (· < ·)) :
    (fields.map Prod.fst).Pairwise (· < ·) := by
  induction ts generalizing map with
  | nil =>
    cases h
    exact sorted
  | cons t ts ih =>
    obtain ⟨k, t⟩ := t
    obtain ⟨key, -, h⟩ := Option.bind_eq_some_iff.mp h
    obtain ⟨v, -, h⟩ := Option.bind_eq_some_iff.mp h
    exact ih h (setKey_sorted sorted)

theorem ofNumber_cases {literal : Text} {v : Json} (h : Json.ofNumber F literal = some v) :
    (∃ n, v = .int n) ∨ ∃ s, v = .float s := by
  obtain ⟨s, -, h⟩ := Option.bind_eq_some_iff.mp h
  simp only at h
  split at h
  · split_ifs at h
    · exact .inl ⟨_, (Option.some.inj h).symm⟩
    · exact .inr ⟨_, (Option.some.inj h).symm⟩
  · split_ifs at h
    exact .inr ⟨_, (Option.some.inj h).symm⟩

/-- an object comes from the fields of a text -/
theorem ofTree_obj {t : Tree} {fields : List (String × Json)}
    (h : Json.ofTree F t = some (.obj fields)) : ∃ ts, ofFields F ts [] = some fields := by
  cases t with
  | obj ts =>
    obtain ⟨fs, hfs, he⟩ := Option.map_eq_some_iff.mp h
    cases he
    exact ⟨ts, hfs⟩
  | number literal =>
    rcases ofNumber_cases F h with ⟨n, he⟩ | ⟨s, he⟩
    · cases he
    · cases he
  | str text =>
    obtain ⟨s, -, he⟩ := Option.map_eq_some_iff.mp h
    cases he
  | arr elems =>
    obtain ⟨vs, -, he⟩ := Option.map_eq_some_iff.mp h
    cases he
  | null => cases h
  | bool b => cases h

theorem ofTree_sorted {t : Tree} {v : Json} (h : Json.ofTree F t = some v) : v.Sorted := by
  cases v with
  | obj fields =>
    obtain ⟨ts, hts⟩ := ofTree_obj F h
    exact ofFields_sorted F hts List.Pairwise.nil
  | _ => trivial

/-- what the parser returns, as far down as a request is looked at -/
structure Json.Parsed (v : Json) : Prop where
  ranged : v.Ranged
  sorted : v.Sorted
  fields : ∀ key w, v.field? key = some w → w.Sorted

theorem parse_parsed {text : Bytes} {v : Json} (h : Json.parse F text = some v) : v.Parsed := by
  have hranged := parse_ranged F h
  obtain ⟨⟨t, r⟩, -, h⟩ := Option.bind_eq_some_iff.mp h
  split_ifs at h
  refine ⟨hranged, ofTree_sorted F h, fun key w hw => ?_⟩
  cases v with
  | obj fields =>
    obtain ⟨ts, hts⟩ := ofTree_obj F h
    rcases ofFields_lookup F hts hw with ⟨t, -, ht⟩ | hnil
    · exact ofTree_sorted F ht
    · cases hnil
  | _ => cases hw

/-- the tree of the text that `dump` writes -/
def Json.shown (v : Json) : Tree := (v.written F).tree

/-- **What `dump` writes determines the tree.** -/
theorem dump_eq_iff {v w : Json} (hv : v.Ranged) (hw : w.Ranged) :
    v.dump F = w.dump F ↔ v.shown F = w.shown F := by
  have hprint : ∀ {u : Json}, u.Ranged → document nlohmann (bytesOf (u.dump F)) =
      some (u.shown F, []) := by
    intro u hu
    unfold Json.dump
    rw [bytesOf_render]
    exact document_print nlohmann_plain fun l hl => nlohmann_reads (hu.short F l hl)
  refine ⟨fun h => ?_, fun h => bytesOf_injective ?_⟩
  · have hboth := hprint hv
    rw [h, hprint hw] at hboth
    exact (Prod.mk.inj (Option.some.inj hboth)).1.symm
  · unfold Json.dump
    rw [bytesOf_render, bytesOf_render]
    exact congrArg Tree.print h

def treeField? : Tree → Text → Option Tree
  | .obj fields, key => fields.lookup key
  | _, _ => none

def mapTree (g : Text → Tree → Tree) : Tree → Tree
  | .obj fields => .obj (fields.map fun field => (field.1, g field.1 field.2))
  | t => t

theorem shown_obj (fields : List (String × Json)) : (Json.obj fields).shown F =
    .obj (fields.map fun field => (bytesOf field.1, field.2.shown F)) := by
  show Tree.obj (treeFields (writtenFields F fields)) = _
  congr 1
  induction fields with
  | nil => rfl
  | cons field fields ih =>
    obtain ⟨k, v⟩ := field
    rw [writtenFields, treeFields, ih, List.map_cons]
    rfl

theorem shown_field? (v : Json) (key : String) :
    treeField? (v.shown F) (bytesOf key) = (v.field? key).map (Json.shown F) := by
  cases v with
  | obj fields =>
    rw [shown_obj]
    show (fields.map _).lookup (bytesOf key) = (fields.lookup key).map (Json.shown F)
    induction fields with
    | nil => rfl
    | cons field fields ih =>
      obtain ⟨k, v⟩ := field
      rw [List.map_cons, List.lookup_cons, List.lookup_cons, ih]
      by_cases hk : key = k
      · rw [beq_iff_eq.mpr hk, beq_iff_eq.mpr (congrArg bytesOf hk)]
        rfl
      · rw [beq_eq_false_iff_ne.mpr hk,
          beq_eq_false_iff_ne.mpr fun h => hk (bytesOf_injective h)]
  | _ => rfl

/-- a tree rewritten by its keys is that of a value whose fields are rewritten accordingly -/
theorem mapTree_shown {g : Text → Tree → Tree} {f h : String → Json → Json} {v : Json}
    (sorted : v.Sorted) (heq : ∀ key w, v.field? key = some w →
      g (bytesOf key) ((f key w).shown F) = (h key w).shown F) :
    mapTree g ((v.mapFields f).shown F) = (v.mapFields h).shown F := by
  cases v with
  | obj fields =>
    show mapTree g ((Json.obj (fields.map _)).shown F) = (Json.obj (fields.map _)).shown F
    rw [shown_obj, shown_obj, mapTree, List.map_map, List.map_map, List.map_map]
    refine congrArg Tree.obj (List.map_congr_left fun field hfield => ?_)
    exact congrArg _ (heq field.1 field.2 (lookup_eq_of_mem sorted hfield))
  | _ => rfl

end Shown

end Logistics
