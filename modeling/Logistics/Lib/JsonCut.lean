import Logistics.Lib.JsonScan

/-!
# Cut texts

Where a text is cut inside a number, or right after one, the scanner may take another number than in
the whole text, or fail to find one: `document_cut` asks for a `Stable` dialect.  A text without
numbers needs no such thing, since up to the cut no number is looked for.

* `Dialect.numberless`        the dialect without numbers;
* `scan_numberless`           the front part of a text without numbers is scanned without numbers;
* `document_cut_numberless`   **no proper front part of an object without numbers is scanned**.
-/

namespace JsonText
open Byte

variable {D : Dialect}

def Dialect.numberless (D : Dialect) : Dialect := { D with number := fun _ => none }

theorem numberless_splits : D.numberless.Splits := fun _ _ _ h => nomatch h

theorem numberless_stable : D.numberless.Stable := fun _ _ _ _ h => nomatch h

theorem numberless_plain (h : D.Plain) : D.numberless.Plain := ⟨h.raw, h.space⟩

theorem unescape_numberless (n : Nat) (t : Text) : unescape D.numberless n t = unescape D n t := by
  induction n generalizing t with
  | zero => cases t <;> rfl
  | succ n ih =>
    cases t with
    | nil => rfl
    | cons b t =>
      rw [unescape, unescape]
      simp only [ih]
      rfl

theorem string_numberless (t : Text) : string D.numberless t = string D t := by
  unfold string
  simp only [unescape_numberless]

theorem key_numberless (t : Text) : key D.numberless t = key D t := by
  unfold key
  simp only [string_numberless]
  rfl

theorem length_of_value {n : Nat} {t r : Text} {v : Tree} (h : value D n t = some (v, r)) :
    0 < t.length := by
  cases t with
  | nil => cases n <;> cases h
  | cons b t => exact Nat.succ_pos _

/-- two scans of one text, of which the second goes on, find the same value -/
theorem value_meets (hS : D.Splits) (hT : D.Stable) {n m : Nat} {t q r r' : Text} {v v' : Tree}
    (h : value D n t = some (v, r)) (hends : r = [] → ∀ literal, v = .number literal → q = [])
    (h' : value D m (t ++ q) = some (v', r')) : v' = v ∧ r' = r ++ q := by
  have hlong := ((scan_extends hS (q := q) (.inr hT) n).1 t v r h).2 hends
    (2 * (t ++ q).length) (by rw [List.length_append]; omega)
  have hagain := ((scan_extends hS (q := []) (.inl rfl) m).1 (t ++ q) v' r' h').2
    (fun _ _ _ => rfl) (2 * (t ++ q).length) (by omega)
  rw [List.append_nil, List.append_nil, hlong] at hagain
  obtain ⟨hv, hr⟩ := Prod.mk.inj (Option.some.inj hagain)
  exact ⟨hv.symm, hr.symm⟩

/-- and the same byte after it -/
theorem skip_meets (hS : D.Splits) (hT : D.Stable) {n m : Nat} {t q u u' r' : Text} {v v' : Tree}
    {b : UInt8} (h : value D n t = some (v, u)) (hskip : D.skip u = b :: u')
    (h' : value D m (t ++ q) = some (v', r')) : D.skip r' = b :: (u' ++ q) := by
  obtain ⟨-, rfl⟩ := value_meets hS hT h (fun hu => by rw [hu] at hskip; cases hskip) h'
  exact skip_append hskip q

/-! ## the front part of a text without numbers -/

/-- an array that is scanned is empty or has elements that are scanned -/
theorem value_bracket {n : Nat} {t : Text} {p : Tree × Text}
    (h : value D (n + 1) (openBracket :: t) = some p) :
    (∃ r, D.skip t = closeBracket :: r) ∨ ∃ vs, elems D n t = some (vs, p.2) := by
  obtain ⟨v, r⟩ := p
  cases starts_of_value h with
  | arrNil h => exact .inl ⟨r, h⟩
  | arr _ h => exact .inr ⟨_, h⟩
  | number hb _ => exact absurd hb (by decide)
  | constant hb _ => exact absurd rfl hb.2.1

theorem value_brace {n : Nat} {t : Text} {p : Tree × Text}
    (h : value D (n + 1) (openBrace :: t) = some p) :
    (∃ r, D.skip t = closeBrace :: r) ∨ ∃ fs, fields D n t = some (fs, p.2) := by
  obtain ⟨v, r⟩ := p
  cases starts_of_value h with
  | objNil h => exact .inl ⟨r, h⟩
  | obj _ h => exact .inr ⟨_, h⟩
  | number hb _ => exact absurd hb (by decide)
  | constant hb _ => exact absurd rfl hb.2.2.1

theorem skip_of_elems {n : Nat} {t r : Text} {vs : List Tree} (h : elems D n t = some (vs, r)) :
    0 < (D.skip t).length := by
  obtain _ | n := n
  · rw [elems] at h
    cases h
  · obtain ⟨v, u, hv, -⟩ := elems_succ_iff.mp h
    exact length_of_value hv

theorem skip_of_fields {n : Nat} {t r : Text} {fs : List (Text × Tree)}
    (h : fields D n t = some (fs, r)) : 0 < (D.skip t).length := by
  obtain _ | n := n
  · rw [fields] at h
    cases h
  · obtain ⟨k, t', v, u, hk, -⟩ := fields_succ_iff.mp h
    obtain ⟨t₁, t₂, hskip, -⟩ := key_eq_some_iff.mp hk
    rw [hskip]
    exact Nat.succ_pos _

theorem scan_numberless (n : Nat) :
    (∀ t q v r m v' r', value D n t = some (v, r) →
      value D.numberless m (t ++ q) = some (v', r') → value D.numberless n t = some (v, r)) ∧
    (∀ t q vs r m vs' r', elems D n t = some (vs, r) →
      elems D.numberless m (t ++ q) = some (vs', r') → elems D.numberless n t = some (vs, r)) ∧
    (∀ t q fs r m fs' r', fields D n t = some (fs, r) →
      fields D.numberless m (t ++ q) = some (fs', r') → fields D.numberless n t = some (fs, r)) := by
  induction n with
  | zero =>
    refine ⟨fun t q v r m v' r' h => ?_, fun t q vs r m vs' r' h => ?_, fun t q fs r m fs' r' h => ?_⟩
    · rw [value] at h
      cases h
    · rw [elems] at h
      cases h
    · rw [fields] at h
      cases h
  | succ n ih =>
    obtain ⟨ihvalue, ihelems, ihfields⟩ := ih
    refine ⟨fun t q v r m v' r' h hwhole => ?_, fun t q vs r m vs' r' h hwhole => ?_,
      fun t q fs r m fs' r' h hwhole => ?_⟩
    · obtain _ | m := m
      · rw [value] at hwhole
        cases hwhole
      cases starts_of_value h with
      | str h => exact value_succ_iff.mpr (.str ((string_numberless _).trans h))
      | arrNil h => exact value_succ_iff.mpr (.arrNil h)
      | objNil h => exact value_succ_iff.mpr (.objNil h)
      | constant hb h => exact value_succ_iff.mpr (.constant hb h)
      | number hb h =>
        -- the whole text has a number here
        cases starts_of_value hwhole with
        | number _ h => cases h
        | constant hb' _ => exact absurd hb (not_or.mpr ⟨hb'.2.2.2.1, by rw [hb'.2.2.2.2]; decide⟩)
        | _ => exact absurd hb (by decide)
      | arr hne h =>
        rcases value_bracket hwhole with ⟨r', hskip⟩ | ⟨vs', hvs⟩
        · exact absurd hskip (skip_append_ne hne (skip_of_elems h) q r')
        · exact value_succ_iff.mpr (.arr hne (ihelems _ _ _ _ _ _ _ h hvs))
      | obj hne h =>
        rcases value_brace hwhole with ⟨r', hskip⟩ | ⟨fs', hfs⟩
        · exact absurd hskip (skip_append_ne hne (skip_of_fields h) q r')
        · exact value_succ_iff.mpr (.obj hne (ihfields _ _ _ _ _ _ _ h hfs))
    · obtain _ | m := m
      · rw [elems] at hwhole
        cases hwhole
      obtain ⟨v, u, hv, hrest⟩ := elems_succ_iff.mp h
      obtain ⟨v', u₁, hv', hrest'⟩ := elems_succ_iff.mp hwhole
      have hskip : D.numberless.skip (t ++ q) = D.skip t ++ q :=
        skip_append_of_length (length_of_value hv) q
      rw [hskip] at hv'
      have hnow := ihvalue _ _ _ _ _ _ _ hv hv'
      refine elems_succ_iff.mpr ⟨v, u, hnow, hrest.imp_left ?_⟩
      rintro ⟨u', vs', hcomma, hvs, rfl⟩
      have hcomma' := skip_meets numberless_splits numberless_stable hnow hcomma hv'
      rcases hrest' with ⟨u₂, vs₂, hskip', hvs', -⟩ | ⟨hskip', -⟩
      · rw [hcomma'] at hskip'
        cases hskip'
        exact ⟨u', vs', hcomma, ihelems _ _ _ _ _ _ _ hvs hvs', rfl⟩
      · rw [hcomma'] at hskip'
        exact absurd (List.cons.inj hskip').1 (by decide)
    · obtain _ | m := m
      · rw [fields] at hwhole
        cases hwhole
      obtain ⟨k, t', v, u, hk, hv, hrest⟩ := fields_succ_iff.mp h
      obtain ⟨k', t₁, v', u₁, hk', hv', hrest'⟩ := fields_succ_iff.mp hwhole
      rw [key_numberless, key_append hk q] at hk'
      cases hk'
      have hskip : D.numberless.skip (t' ++ q) = D.skip t' ++ q :=
        skip_append_of_length (length_of_value hv) q
      rw [hskip] at hv'
      have hnow := ihvalue _ _ _ _ _ _ _ hv hv'
      refine fields_succ_iff.mpr ⟨k, t', v, u, (key_numberless t).trans hk, hnow,
        hrest.imp_left ?_⟩
      rintro ⟨u', fs', hcomma, hfs, rfl⟩
      have hcomma' := skip_meets numberless_splits numberless_stable hnow hcomma hv'
      rcases hrest' with ⟨u₂, fs₂, hskip', hfs', -⟩ | ⟨hskip', -⟩
      · rw [hcomma'] at hskip'
        cases hskip'
        exact ⟨u', fs', hcomma, ihfields _ _ _ _ _ _ _ hfs hfs', rfl⟩
      · rw [hcomma'] at hskip'
        exact absurd (List.cons.inj hskip').1 (by decide)

/-! ## objects -/

/-- **No proper front part of the text of an object without numbers is scanned.** -/
theorem document_cut_numberless (hP : D.Plain) {p q : Text} (hp : p.head? = some openBrace)
    {root : Tree} (hwhole : document D.numberless (p ++ q) = some (root, [])) {v : Tree} {r : Text}
    (h : document D p = some (v, r)) : q = [] := by
  obtain ⟨t, rfl⟩ := head?_eq_some_iff.mp hp
  rw [document_brace (numberless_plain hP) rfl] at hwhole
  rw [document_brace hP rfl] at h
  have hnow := (scan_numberless _).1 _ q _ _ _ _ _ h hwhole
  -- what begins with a brace is no number
  have hends : r = [] → ∀ literal, v = .number literal → q = [] := by
    rintro - literal rfl
    cases starts_of_value (n := 2 * t.length + 1) hnow with
    | number _ h => cases h
    | constant hb _ => exact absurd rfl hb.2.2.1
  have hrest := (value_meets numberless_splits numberless_stable hnow hends hwhole).2
  exact (List.append_eq_nil_iff.mp hrest.symm).2

/-- a text without its end, where the whole is an object without numbers -/
theorem document_take (hP : D.Plain) {t : Text} (ht : t.head? = some openBrace) {root : Tree}
    (hwhole : document D.numberless t = some (root, [])) {k : Nat} (hk : k < t.length) :
    document D (t.take k) = none := by
  obtain _ | k := k
  · rfl
  cases h : document D (t.take (k + 1)) with
  | none => rfl
  | some p =>
    obtain ⟨t, rfl⟩ := head?_eq_some_iff.mp ht
    rw [← List.take_append_drop (k + 1) (openBrace :: t)] at hwhole
    have hrest := document_cut_numberless hP rfl hwhole h
    exact absurd (List.drop_eq_nil_iff.mp hrest) (by omega)

end JsonText
