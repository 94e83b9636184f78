import Logistics.Lib.JsonText

/-!
# Scanning JSON texts

`value_succ_iff`, `elems_succ_iff` and `fields_succ_iff` say what one step of the scanner of
`JsonText` does, and `scan_induction` is the induction over what was scanned; everything else is
proved from them.

* `scan_extends`      what was scanned is scanned with more fuel, and where the text goes on;
* `fields_str_length` a string among the fields of an object is shorter than the text of the fields;
* `document_print`    **the compact text of a tree is scanned to that tree**;
* `document_cut`      **no proper front part of the text of an object is scanned**.
-/

namespace JsonText
open Byte
variable {D : Dialect} {n : Nat} {t r k : Text} {b : UInt8} {v : Tree} {vs : List Tree}
  {fs : List (Text × Tree)}

/-! ## one step of the scanner -/

theorem key_eq_some_iff :
    key D t = some (k, r) ↔ ∃ t₁ t₂, D.skip t = quote :: t₁ ∧ string D t₁ = some (k, t₂) ∧
      D.skip t₂ = colon :: r := by
  unfold key
  constructor
  · intro h
    split at h
    · cases h
    · rename_i b t₁ hskip
      split_ifs at h with hb
      obtain ⟨⟨k', t₂⟩, hs, h⟩ := Option.bind_eq_some_iff.mp h
      split at h
      · cases h
      · rename_i c r' hcolon
        split_ifs at h with hc
        cases h
        exact ⟨t₁, t₂, hb ▸ hskip, hs, hc ▸ hcolon⟩
  · rintro ⟨t₁, t₂, hskip, hs, hcolon⟩
    simp only [hskip, if_true, hs, Option.bind_some, hcolon]

theorem elems_succ_iff :
    elems D (n + 1) t = some (vs, r) ↔ ∃ v u, value D n (D.skip t) = some (v, u) ∧
      ((∃ u' vs', D.skip u = comma :: u' ∧ elems D n u' = some (vs', r) ∧ vs = v :: vs') ∨
        (D.skip u = closeBracket :: r ∧ vs = [v])) := by
  rw [elems]
  constructor
  · intro h
    obtain ⟨⟨v, u⟩, hv, h⟩ := Option.bind_eq_some_iff.mp h
    refine ⟨v, u, hv, ?_⟩
    split at h
    · cases h
    · rename_i b u' hskip
      split_ifs at h with hcomma hclose
      · obtain ⟨⟨vs', r'⟩, hvs, he⟩ := Option.map_eq_some_iff.mp h
        cases he
        exact .inl ⟨u', vs', hcomma ▸ hskip, hvs, rfl⟩
      · cases h
        exact .inr ⟨hclose ▸ hskip, rfl⟩
  · rintro ⟨v, u, hv, ⟨u', vs', hskip, hvs, rfl⟩ | ⟨hskip, rfl⟩⟩
    · simp only [hv, Option.bind_some, hskip, if_true, hvs, Option.map_some]
    · have hne : closeBracket ≠ comma := by decide
      simp only [hv, Option.bind_some, hskip, if_neg hne, if_true]

theorem fields_succ_iff : fields D (n + 1) t = some (fs, r) ↔ ∃ k t' v u, key D t = some (k, t') ∧
      value D n (D.skip t') = some (v, u) ∧
      ((∃ u' fs', D.skip u = comma :: u' ∧ fields D n u' = some (fs', r) ∧ fs = (k, v) :: fs') ∨
        (D.skip u = closeBrace :: r ∧ fs = [(k, v)])) := by
  rw [fields]
  constructor
  · intro h
    obtain ⟨⟨k, t'⟩, hk, h⟩ := Option.bind_eq_some_iff.mp h
    obtain ⟨⟨v, u⟩, hv, h⟩ := Option.bind_eq_some_iff.mp h
    refine ⟨k, t', v, u, hk, hv, ?_⟩
    split at h
    · cases h
    · rename_i b u' hskip
      split_ifs at h with hcomma hclose
      · obtain ⟨⟨fs', r'⟩, hfs, he⟩ := Option.map_eq_some_iff.mp h
        cases he
        exact .inl ⟨u', fs', hcomma ▸ hskip, hfs, rfl⟩
      · cases h
        exact .inr ⟨hclose ▸ hskip, rfl⟩
  · rintro ⟨k, t', v, u, hk, hv, ⟨u', fs', hskip, hfs, rfl⟩ | ⟨hskip, rfl⟩⟩
    · simp only [hk, hv, Option.bind_some, hskip, if_true, hfs, Option.map_some]
    · have hne : closeBrace ≠ comma := by decide
      simp only [hk, hv, Option.bind_some, hskip, if_neg hne, if_true]

/-- the ways in which a text can start with a value -/
inductive Starts (D : Dialect) (n : Nat) : Text → Tree → Text → Prop
  | str {t s r : Text} (h : string D t = some (s, r)) : Starts D n (quote :: t) (.str s) r
  | arrNil {t r : Text} (h : D.skip t = closeBracket :: r) :
      Starts D n (openBracket :: t) (.arr []) r
  | arr {t r : Text} {vs : List Tree} (hne : ∀ r', D.skip t ≠ closeBracket :: r')
      (h : elems D n t = some (vs, r)) : Starts D n (openBracket :: t) (.arr vs) r
  | objNil {t r : Text} (h : D.skip t = closeBrace :: r) : Starts D n (openBrace :: t) (.obj []) r
  | obj {t r : Text} {fs : List (Text × Tree)} (hne : ∀ r', D.skip t ≠ closeBrace :: r')
      (h : fields D n t = some (fs, r)) : Starts D n (openBrace :: t) (.obj fs) r
  | number {b : UInt8} {t literal r : Text} (hb : b = minus ∨ isDigit b = true)
      (h : D.number (b :: t) = some (literal, r)) : Starts D n (b :: t) (.number literal) r
  | constant {b : UInt8} {t r : Text} {v : Tree}
      (hb : b ≠ quote ∧ b ≠ openBracket ∧ b ≠ openBrace ∧ b ≠ minus ∧ isDigit b = false)
      (h : constant (b :: t) = some (v, r)) : Starts D n (b :: t) v r

theorem head?_eq_some_iff : t.head? = some b ↔ ∃ r, t = b :: r := by
  cases t with
  | nil => simp
  | cons c t => simp [eq_comm]

theorem starts_of_value (h : value D (n + 1) t = some (v, r)) : Starts D n t v r := by
  cases t with
  | nil =>
    rw [value] at h
    cases h
  | cons b t =>
    rw [value] at h
    split_ifs at h with hq hbracket hnil hbrace hnil hnum
    · obtain ⟨⟨s, r'⟩, hs, he⟩ := Option.map_eq_some_iff.mp h
      cases he
      exact hq ▸ .str hs
    · obtain ⟨r', hr'⟩ := head?_eq_some_iff.mp hnil
      rw [hr'] at h
      cases h
      exact hbracket ▸ .arrNil hr'
    · obtain ⟨⟨vs, r'⟩, hvs, he⟩ := Option.map_eq_some_iff.mp h
      cases he
      exact hbracket ▸ .arr (fun r' hr' => hnil (head?_eq_some_iff.mpr ⟨r', hr'⟩)) hvs
    · obtain ⟨r', hr'⟩ := head?_eq_some_iff.mp hnil
      rw [hr'] at h
      cases h
      exact hbrace ▸ .objNil hr'
    · obtain ⟨⟨fs, r'⟩, hfs, he⟩ := Option.map_eq_some_iff.mp h
      cases he
      exact hbrace ▸ .obj (fun r' hr' => hnil (head?_eq_some_iff.mpr ⟨r', hr'⟩)) hfs
    · obtain ⟨⟨literal, r'⟩, hl, he⟩ := Option.map_eq_some_iff.mp h
      cases he
      exact .number hnum hl
    · obtain ⟨hminus, hdigit⟩ := not_or.mp hnum
      exact .constant ⟨hq, hbracket, hbrace, hminus, by simpa using hdigit⟩ h

theorem not_token_of_number (hb : b = minus ∨ isDigit b = true) :
    b ≠ quote ∧ b ≠ openBracket ∧ b ≠ openBrace := by
  refine ⟨?_, ?_, ?_⟩
  · rintro rfl
    revert hb
    decide
  · rintro rfl
    revert hb
    decide
  · rintro rfl
    revert hb
    decide

theorem value_of_starts (h : Starts D n t v r) : value D (n + 1) t = some (v, r) := by
  have h1 : openBracket ≠ quote := by decide
  have h2 : openBrace ≠ quote := by decide
  have h3 : openBrace ≠ openBracket := by decide
  cases h with
  | str h => rw [value, if_pos rfl, h, Option.map_some]
  | arrNil h =>
    rw [value, if_neg h1, if_pos rfl, if_pos (head?_eq_some_iff.mpr ⟨r, h⟩), h]
    rfl
  | arr hne h =>
    have hhead : ¬ (D.skip _).head? = some closeBracket := fun hh =>
      let ⟨r', hr'⟩ := head?_eq_some_iff.mp hh
      hne r' hr'
    rw [value, if_neg h1, if_pos rfl, if_neg hhead, h, Option.map_some]
  | objNil h =>
    rw [value, if_neg h2, if_neg h3, if_pos rfl, if_pos (head?_eq_some_iff.mpr ⟨r, h⟩), h]
    rfl
  | obj hne h =>
    have hhead : ¬ (D.skip _).head? = some closeBrace := fun hh =>
      let ⟨r', hr'⟩ := head?_eq_some_iff.mp hh
      hne r' hr'
    rw [value, if_neg h2, if_neg h3, if_pos rfl, if_neg hhead, h, Option.map_some]
  | number hb h =>
    obtain ⟨hq, hbracket, hbrace⟩ := not_token_of_number hb
    rw [value, if_neg hq, if_neg hbracket, if_neg hbrace, if_pos hb, h, Option.map_some]
  | constant hb h =>
    obtain ⟨hq, hbracket, hbrace, hminus, hdigit⟩ := hb
    have hnum : ¬ (_ = minus ∨ isDigit _ = true) := not_or.mpr ⟨hminus, by rw [hdigit]; decide⟩
    rw [value, if_neg hq, if_neg hbracket, if_neg hbrace, if_neg hnum, h]

theorem value_succ_iff : value D (n + 1) t = some (v, r) ↔ Starts D n t v r :=
  ⟨starts_of_value, value_of_starts⟩

/-! ## induction over what was scanned -/

/-- **What every way of scanning a value, the elements of an array and the fields of an object
keeps holds of everything that was scanned.** -/
theorem scan_induction {P : Text → Tree → Text → Prop} {E : Text → List Tree → Text → Prop}
    {F : Text → List (Text × Tree) → Text → Prop}
    (str : ∀ t s r, string D t = some (s, r) → P (quote :: t) (.str s) r)
    (arrNil : ∀ t r, D.skip t = closeBracket :: r → P (openBracket :: t) (.arr []) r)
    (arr : ∀ t vs r, (∀ r', D.skip t ≠ closeBracket :: r') → E t vs r →
      P (openBracket :: t) (.arr vs) r)
    (objNil : ∀ t r, D.skip t = closeBrace :: r → P (openBrace :: t) (.obj []) r)
    (obj : ∀ t fs r, (∀ r', D.skip t ≠ closeBrace :: r') → F t fs r →
      P (openBrace :: t) (.obj fs) r)
    (number : ∀ b t literal r, (b = minus ∨ isDigit b = true) →
      D.number (b :: t) = some (literal, r) → P (b :: t) (.number literal) r)
    (const : ∀ b t v r,
      (b ≠ quote ∧ b ≠ openBracket ∧ b ≠ openBrace ∧ b ≠ minus ∧ isDigit b = false) →
      constant (b :: t) = some (v, r) → P (b :: t) v r)
    (elem : ∀ t v u u' vs r, P (D.skip t) v u → D.skip u = comma :: u' → E u' vs r →
      E t (v :: vs) r)
    (lastElem : ∀ t v u r, P (D.skip t) v u → D.skip u = closeBracket :: r → E t [v] r)
    (field : ∀ t k t' v u u' fs r, key D t = some (k, t') → P (D.skip t') v u →
      D.skip u = comma :: u' → F u' fs r → F t ((k, v) :: fs) r)
    (lastField : ∀ t k t' v u r, key D t = some (k, t') → P (D.skip t') v u →
      D.skip u = closeBrace :: r → F t [(k, v)] r) (n : Nat) :
    (∀ t v r, value D n t = some (v, r) → P t v r) ∧
    (∀ t vs r, elems D n t = some (vs, r) → E t vs r) ∧
    (∀ t fs r, fields D n t = some (fs, r) → F t fs r) := by
  induction n with
  | zero =>
    refine ⟨fun t v r h => ?_, fun t vs r h => ?_, fun t fs r h => ?_⟩
    · rw [value] at h
      cases h
    · rw [elems] at h
      cases h
    · rw [fields] at h
      cases h
  | succ n ih =>
    obtain ⟨ihvalue, ihelems, ihfields⟩ := ih
    refine ⟨fun t v r h => ?_, fun t vs r h => ?_, fun t fs r h => ?_⟩
    · cases value_succ_iff.mp h with
      | str h => exact str _ _ _ h
      | arrNil h => exact arrNil _ _ h
      | arr hne h => exact arr _ _ _ hne (ihelems _ _ _ h)
      | objNil h => exact objNil _ _ h
      | obj hne h => exact obj _ _ _ hne (ihfields _ _ _ h)
      | number hb h => exact number _ _ _ _ hb h
      | constant hb h => exact const _ _ _ _ hb h
    · obtain ⟨v, u, hv, ⟨u', vs', hskip, hvs, rfl⟩ | ⟨hskip, rfl⟩⟩ := elems_succ_iff.mp h
      · exact elem _ _ _ _ _ _ (ihvalue _ _ _ hv) hskip (ihelems _ _ _ hvs)
      · exact lastElem _ _ _ _ (ihvalue _ _ _ hv) hskip
    · obtain ⟨k, t', v, u, hk, hv, ⟨u', fs', hskip, hfs, rfl⟩ | ⟨hskip, rfl⟩⟩ :=
        fields_succ_iff.mp h
      · exact field _ _ _ _ _ _ _ _ hk (ihvalue _ _ _ hv) hskip (ihfields _ _ _ hfs)
      · exact lastField _ _ _ _ _ _ hk (ihvalue _ _ _ hv) hskip

/-! ## lengths -/

theorem constant_eq (h : constant t = some (v, r)) :
    ∃ word ∈ [nullText, trueText, falseText], t = word ++ r ∧ (∀ s, v ≠ .str s) ∧
      (∀ literal, v ≠ .number literal) ∧ ∀ q, constant (t ++ q) = some (v, r ++ q) := by
  have hsplit : ∀ k (word : Text), t.take k = word → word.length = k → t = word ++ t.drop k := by
    intro k word htake _
    rw [← htake, List.take_append_drop]
  have htake : ∀ k (word : Text), t.take k = word → word.length = k → ∀ q,
      (t ++ q).take k = word ∧ (t ++ q).drop k = t.drop k ++ q := by
    intro k word hw hlen q
    have hk : k ≤ t.length := by
      rw [← hlen, ← hw, List.length_take]
      exact Nat.min_le_right k t.length
    rw [List.take_append_of_le_length hk, List.drop_append_of_le_length hk]
    exact ⟨hw, rfl⟩
  unfold constant at h
  split_ifs at h with h1 h2 h3
  · cases h
    refine ⟨nullText, by simp, hsplit 4 _ h1 rfl, nofun, nofun, fun q => ?_⟩
    obtain ⟨ht, hd⟩ := htake 4 _ h1 rfl q
    rw [constant, if_pos ht, hd]
  · cases h
    refine ⟨trueText, by simp, hsplit 4 _ h2 rfl, nofun, nofun, fun q => ?_⟩
    obtain ⟨ht, hd⟩ := htake 4 _ h2 rfl q
    rw [constant, ht, if_neg (by decide), if_pos rfl, hd]
  · cases h
    refine ⟨falseText, by simp, hsplit 5 _ h3 rfl, nofun, nofun, fun q => ?_⟩
    obtain ⟨ht, hd⟩ := htake 5 _ h3 rfl q
    have h4 : (t ++ q).take 4 = falseText.take 4 := by
      rw [← ht, List.take_take]
      rfl
    rw [constant, h4, if_neg (by decide), if_neg (by decide), if_pos ht, hd]

theorem constant_length (h : constant t = some (v, r)) : r.length < t.length := by
  obtain ⟨word, hword, ht, -⟩ := constant_eq h
  have hpos : 0 < word.length := by
    simp only [List.mem_cons, List.not_mem_nil, or_false] at hword
    rcases hword with rfl | rfl | rfl <;> decide
  rw [ht, List.length_append]
  omega

theorem key_length (h : key D t = some (k, r)) : k.length + r.length + 3 ≤ t.length := by
  obtain ⟨t₁, t₂, hskip, hs, hcolon⟩ := key_eq_some_iff.mp h
  have h1 := skip_length (D := D) t
  have h2 := string_length hs
  have h3 := skip_length (D := D) t₂
  rw [hskip] at h1
  rw [hcolon] at h3
  simp only [List.length_cons] at h1 h3
  omega

theorem key_skip_length (h : key D t = some (k, r)) : r.length < (D.skip t).length := by
  obtain ⟨t₁, t₂, hskip, hs, hcolon⟩ := key_eq_some_iff.mp h
  have h2 := string_length hs
  have h3 := skip_length (D := D) t₂
  rw [hcolon, List.length_cons] at h3
  rw [hskip, List.length_cons]
  omega

/-- the numbers of a dialect take some bytes off the text -/
def Dialect.Splits (D : Dialect) : Prop :=
  ∀ t literal r, D.number t = some (literal, r) → t = literal ++ r ∧ literal ≠ []

theorem length_lt_of_skip {u : Text} (h : D.skip t = b :: u) : u.length < t.length := by
  have hle := skip_length (D := D) t
  rw [h, List.length_cons] at hle
  exact hle

/-! ## fuel, and longer texts -/

/-- a number that is followed by something is not changed by what follows that -/
def Dialect.Stable (D : Dialect) : Prop :=
  ∀ t literal r q, D.number t = some (literal, r) → r ≠ [] →
    D.number (t ++ q) = some (literal, r ++ q)

theorem key_append (h : key D t = some (k, r)) (q : Text) : key D (t ++ q) = some (k, r ++ q) := by
  obtain ⟨t₁, t₂, hskip, hs, hcolon⟩ := key_eq_some_iff.mp h
  exact key_eq_some_iff.mpr ⟨t₁ ++ q, t₂ ++ q, skip_append hskip q, string_append hs q,
    skip_append hcolon q⟩

theorem skip_append_of_length (h : n < (D.skip t).length) (q : Text) :
    D.skip (t ++ q) = D.skip t ++ q := by
  cases hskip : D.skip t with
  | nil =>
    rw [hskip] at h
    cases h
  | cons b u => exact skip_append hskip q

/-- a text that does not begin with the given byte after its spaces does not do so when it is
longer, if there was something else -/
theorem skip_append_ne (hne : ∀ r, D.skip t ≠ b :: r) (h : n < (D.skip t).length) (q r : Text) :
    D.skip (t ++ q) ≠ b :: r := by
  intro heq
  cases hskip : D.skip t with
  | nil =>
    rw [hskip] at h
    cases h
  | cons c u =>
    rw [skip_append hskip q] at heq
    cases heq
    exact hne u hskip

/-- **What was scanned is scanned with every fuel that is enough for its bytes, also where the text
goes on**; but a number at the end of the text may go on itself. -/
theorem scan_extends (hD : D.Splits) {q : Text} (hq : q = [] ∨ D.Stable) (n : Nat) :
    (∀ t v r, value D n t = some (v, r) → r.length < t.length ∧
      ((r = [] → ∀ literal, v = .number literal → q = []) → ∀ m, 2 * (t.length - r.length) ≤ m →
        value D m (t ++ q) = some (v, r ++ q))) ∧
    (∀ t vs r, elems D n t = some (vs, r) → r.length < (D.skip t).length ∧
      ∀ m, 2 * (t.length - r.length) + 1 ≤ m → elems D m (t ++ q) = some (vs, r ++ q)) ∧
    (∀ t fs r, fields D n t = some (fs, r) → r.length < (D.skip t).length ∧
      ∀ m, 2 * (t.length - r.length) + 1 ≤ m → fields D m (t ++ q) = some (fs, r ++ q)) := by
  have hsucc : ∀ {k m : Nat}, k + 1 ≤ m → ∃ m', m = m' + 1 := by
    intro k m h
    exact ⟨m - 1, by omega⟩
  refine scan_induction ?_ ?_ ?_ ?_ ?_ ?_ ?_ ?_ ?_ ?_ ?_ n
  · intro t s r h
    have hlen := string_length h
    simp only [List.length_cons]
    refine ⟨by omega, fun _ m hm => ?_⟩
    obtain ⟨m, rfl⟩ := hsucc (k := 0) (m := m) (by omega)
    exact value_succ_iff.mpr (.str (string_append h q))
  · intro t r h
    have hlen := length_lt_of_skip h
    simp only [List.length_cons]
    refine ⟨by omega, fun _ m hm => ?_⟩
    obtain ⟨m, rfl⟩ := hsucc (k := 0) (m := m) (by omega)
    exact value_succ_iff.mpr (.arrNil (skip_append h q))
  · intro t vs r hne h
    obtain ⟨hlen, h⟩ := h
    have hskip := skip_length (D := D) t
    simp only [List.length_cons]
    refine ⟨by omega, fun _ m hm => ?_⟩
    obtain ⟨m, rfl⟩ := hsucc (k := 0) (m := m) (by omega)
    exact value_succ_iff.mpr (.arr (skip_append_ne hne hlen q) (h m (by omega)))
  · intro t r h
    have hlen := length_lt_of_skip h
    simp only [List.length_cons]
    refine ⟨by omega, fun _ m hm => ?_⟩
    obtain ⟨m, rfl⟩ := hsucc (k := 0) (m := m) (by omega)
    exact value_succ_iff.mpr (.objNil (skip_append h q))
  · intro t fs r hne h
    obtain ⟨hlen, h⟩ := h
    have hskip := skip_length (D := D) t
    simp only [List.length_cons]
    refine ⟨by omega, fun _ m hm => ?_⟩
    obtain ⟨m, rfl⟩ := hsucc (k := 0) (m := m) (by omega)
    exact value_succ_iff.mpr (.obj (skip_append_ne hne hlen q) (h m (by omega)))
  · intro b t literal r hb h
    obtain ⟨heq, hne⟩ := hD _ _ _ h
    have hpos := List.length_pos_iff.mpr hne
    have hlen : r.length < (b :: t).length := by
      rw [heq, List.length_append]
      omega
    refine ⟨hlen, fun hends m hm => ?_⟩
    obtain ⟨m, rfl⟩ := hsucc (k := 0) (m := m) (by omega)
    refine value_succ_iff.mpr (.number hb ?_)
    show D.number ((b :: t) ++ q) = some (literal, r ++ q)
    by_cases hr : r = []
    · rw [hends hr literal rfl, List.append_nil, List.append_nil]
      exact h
    · rcases hq with rfl | hstable
      · rw [List.append_nil, List.append_nil]
        exact h
      · exact hstable _ _ _ q h hr
  · intro b t v r hb h
    obtain ⟨-, -, -, -, -, happend⟩ := constant_eq h
    have hlen := constant_length h
    refine ⟨hlen, fun _ m hm => ?_⟩
    obtain ⟨m, rfl⟩ := hsucc (k := 0) (m := m) (by omega)
    exact value_succ_iff.mpr (.constant hb (happend q))
  · intro t v u u' vs r hv hskip hvs
    obtain ⟨hlen, hv⟩ := hv
    obtain ⟨hlen', hvs⟩ := hvs
    have h1 := skip_length (D := D) t
    have h2 := length_lt_of_skip hskip
    have h3 := skip_length (D := D) u'
    refine ⟨by omega, fun m hm => ?_⟩
    obtain ⟨m, rfl⟩ := hsucc hm
    have hnow := hv (fun hu => by rw [hu] at hskip; cases hskip) m (by omega)
    rw [← skip_append_of_length hlen] at hnow
    exact elems_succ_iff.mpr ⟨v, u ++ q, hnow,
      .inl ⟨u' ++ q, vs, skip_append hskip q, hvs m (by omega), rfl⟩⟩
  · intro t v u r hv hskip
    obtain ⟨hlen, hv⟩ := hv
    have h1 := skip_length (D := D) t
    have h2 := length_lt_of_skip hskip
    refine ⟨by omega, fun m hm => ?_⟩
    obtain ⟨m, rfl⟩ := hsucc hm
    have hnow := hv (fun hu => by rw [hu] at hskip; cases hskip) m (by omega)
    rw [← skip_append_of_length hlen] at hnow
    exact elems_succ_iff.mpr ⟨v, u ++ q, hnow, .inr ⟨skip_append hskip q, rfl⟩⟩
  · intro t k t' v u u' fs r hk hv hskip hfs
    obtain ⟨hlen, hv⟩ := hv
    obtain ⟨hlen', hfs⟩ := hfs
    have h0 := key_length hk
    have h0' := key_skip_length hk
    have h1 := skip_length (D := D) t'
    have h2 := length_lt_of_skip hskip
    have h3 := skip_length (D := D) u'
    refine ⟨by omega, fun m hm => ?_⟩
    obtain ⟨m, rfl⟩ := hsucc hm
    have hnow := hv (fun hu => by rw [hu] at hskip; cases hskip) m (by omega)
    rw [← skip_append_of_length hlen] at hnow
    exact fields_succ_iff.mpr ⟨k, t' ++ q, v, u ++ q, key_append hk q, hnow,
      .inl ⟨u' ++ q, fs, skip_append hskip q, hfs m (by omega), rfl⟩⟩
  · intro t k t' v u r hk hv hskip
    obtain ⟨hlen, hv⟩ := hv
    have h0 := key_length hk
    have h0' := key_skip_length hk
    have h1 := skip_length (D := D) t'
    have h2 := length_lt_of_skip hskip
    refine ⟨by omega, fun m hm => ?_⟩
    obtain ⟨m, rfl⟩ := hsucc hm
    have hnow := hv (fun hu => by rw [hu] at hskip; cases hskip) m (by omega)
    rw [← skip_append_of_length hlen] at hnow
    exact fields_succ_iff.mpr ⟨k, t' ++ q, v, u ++ q, key_append hk q, hnow,
      .inr ⟨skip_append hskip q, rfl⟩⟩

/-! ## strings -/

theorem value_length (hD : D.Splits) (h : value D n t = some (v, r)) : r.length < t.length :=
  ((scan_extends hD (.inl rfl) n).1 t v r h).1

/-- a string value is at least two bytes shorter than what was scanned for it -/
theorem value_str_length {s : Text} (h : value D n t = some (.str s, r)) :
    s.length + r.length + 2 ≤ t.length := by
  cases n with
  | zero =>
    rw [value] at h
    cases h
  | succ n =>
    generalize hv : Tree.str s = v at h
    cases value_succ_iff.mp h with
    | str h =>
      cases hv
      have hs := string_length h
      simp only [List.length_cons]
      omega
    | constant hb h =>
      obtain ⟨word, -, -, hstr, -⟩ := constant_eq h
      exact absurd hv.symm (hstr s)
    | _ => cases hv

theorem fields_str_length (hD : D.Splits) (h : fields D n t = some (fs, r)) :
    ∀ k s, (k, Tree.str s) ∈ fs → s.length + 6 ≤ t.length := by
  induction n generalizing t fs with
  | zero =>
    rw [fields] at h
    cases h
  | succ n ih =>
    obtain ⟨k, t', v, u, hk, hv, hrest⟩ := fields_succ_iff.mp h
    have h0 := key_length hk
    have h1 := skip_length (D := D) t'
    have h2 := skip_length (D := D) u
    have hlen := value_length hD hv
    have hfirst : ∀ s, v = .str s → s.length + 6 ≤ t.length := by
      rintro s rfl
      have h3 := value_str_length hv
      rcases hrest with ⟨u', fs', hskip, -, -⟩ | ⟨hskip, -⟩
      · rw [hskip, List.length_cons] at h2
        omega
      · rw [hskip, List.length_cons] at h2
        omega
    rcases hrest with ⟨u', fs', hskip, hfs, rfl⟩ | ⟨hskip, rfl⟩
    · intro k' s hmem
      rcases List.mem_cons.mp hmem with heq | hmem
      · exact hfirst s (Prod.mk.inj heq).2.symm
      · have h3 := ih hfs k' s hmem
        rw [hskip, List.length_cons] at h2
        omega
    · intro k' s hmem
      exact hfirst s (Prod.mk.inj (List.mem_singleton.mp hmem)).2.symm

/-- the fields of an object from a field with a string on -/
theorem fields_str_iff {t' t'' : Text} (hk : key D t = some (k, t'))
    (hv : D.skip t' = quote :: t'') :
    fields D (n + 2) t = some (fs, r) ↔ ∃ s u, string D t'' = some (s, u) ∧
      ((∃ u' fs', D.skip u = comma :: u' ∧ fields D (n + 1) u' = some (fs', r) ∧
          fs = (k, .str s) :: fs') ∨
        (D.skip u = closeBrace :: r ∧ fs = [(k, .str s)])) := by
  rw [fields_succ_iff]
  constructor
  · rintro ⟨k', u₀, v, u, hk', hvalue, hrest⟩
    cases hk.symm.trans hk'
    rw [hv] at hvalue
    have hstarts := value_succ_iff.mp hvalue
    generalize hq : quote :: t'' = q at hstarts
    cases hstarts with
    | str h =>
      cases hq
      exact ⟨_, u, h, hrest⟩
    | constant hb h =>
      cases hq
      exact absurd rfl hb.1
    | number hb h =>
      cases hq
      exact absurd hb (by decide)
    | _ => cases hq
  · rintro ⟨s, u, hs, hrest⟩
    refine ⟨k, t', .str s, u, hk, ?_, hrest⟩
    rw [hv]
    exact value_succ_iff.mpr (.str hs)

/-! ## the round trip -/

/-- a value ends here -/
def Delimited (r : Text) : Prop :=
  ∀ b r', r = b :: r' → b = comma ∨ b = closeBracket ∨ b = closeBrace

/-- the literal is read as a number wherever a value may end after it -/
def Dialect.Reads (D : Dialect) (literal : Text) : Prop :=
  (∃ b l, literal = b :: l ∧ (b = minus ∨ isDigit b = true)) ∧
    ∀ r, Delimited r → D.number (literal ++ r) = some (literal, r)

/-- printable bytes may stand in strings, and nothing above the space is skipped -/
structure Dialect.Plain (D : Dialect) : Prop where
  raw : ∀ b, 32 ≤ b → D.raw b = true
  space : ∀ b, 32 < b → D.space b = false

-- the literals of the numbers of a tree
mutual
def Tree.numbers : Tree → List Text
  | .number literal => [literal]
  | .arr elems => numbersElems elems
  | .obj fields => numbersFields fields
  | _ => []

def numbersElems : List Tree → List Text
  | [] => []
  | v :: rest => v.numbers ++ numbersElems rest

def numbersFields : List (Text × Tree) → List Text
  | [] => []
  | (_, v) :: rest => v.numbers ++ numbersFields rest
end

theorem delimited_nil : Delimited [] := nofun

theorem delimited_cons (h : b = comma ∨ b = closeBracket ∨ b = closeBrace) (r : Text) :
    Delimited (b :: r) := by
  intro b' r' heq
  cases heq
  exact h

/-- the text of a value starts with a byte that is not skipped, does not end a list and is not the
first of a byte order mark -/
theorem print_head (hv : ∀ l ∈ v.numbers, D.Reads l) :
    ∃ b t, v.print = b :: t ∧ 32 < b ∧ b ≠ closeBracket ∧ b ≠ 0xEF := by
  cases v with
  | null => exact ⟨_, _, rfl, by decide, by decide, by decide⟩
  | bool b =>
    cases b with
    | true => exact ⟨_, _, rfl, by decide, by decide, by decide⟩
    | false => exact ⟨_, _, rfl, by decide, by decide, by decide⟩
  | number literal =>
    obtain ⟨⟨b, l, rfl, hb⟩, -⟩ := hv literal (List.mem_singleton.mpr rfl)
    refine ⟨b, l, rfl, ?_⟩
    rcases hb with rfl | hdigit
    · decide
    · unfold isDigit at hdigit
      rw [Bool.and_eq_true, decide_eq_true_eq, decide_eq_true_eq] at hdigit
      obtain ⟨hlow, hhigh⟩ := hdigit
      rw [UInt8.le_iff_toNat_le] at hlow hhigh
      have h48 : (48 : UInt8).toNat = 48 := rfl
      have h57 : (57 : UInt8).toNat = 57 := rfl
      refine ⟨?_, ?_, ?_⟩
      · rw [UInt8.lt_iff_toNat_lt]
        show 32 < b.toNat
        omega
      · rintro rfl
        revert hhigh
        decide
      · rintro rfl
        revert hhigh
        decide
  | str s => exact ⟨_, _, rfl, by decide, by decide, by decide⟩
  | arr elems => exact ⟨_, _, rfl, by decide, by decide, by decide⟩
  | obj fields => exact ⟨_, _, rfl, by decide, by decide, by decide⟩

theorem skip_print (hD : D.Plain) (hv : ∀ l ∈ v.numbers, D.Reads l) (r : Text) :
    D.skip (v.print ++ r) = v.print ++ r := by
  obtain ⟨b, t, hprint, hb, -⟩ := print_head hv
  rw [hprint, List.cons_append]
  exact skip_of_not_space (hD.space b hb) _

theorem printElems_cons (v w : Tree) (vs : List Tree) :
    printElems (v :: w :: vs) = v.print ++ comma :: printElems (w :: vs) := by
  rw [printElems]
  exact nofun

theorem printFields_cons (k k' : Text) (v v' : Tree) (fs : List (Text × Tree)) :
    printFields ((k, v) :: (k', v') :: fs) =
      quoted k ++ colon :: (v.print ++ comma :: printFields ((k', v') :: fs)) := by
  rw [printFields]
  exact nofun

theorem key_quoted (hD : D.Plain) (k r : Text) : key D (quoted k ++ colon :: r) = some (k, r) := by
  refine key_eq_some_iff.mpr ⟨k.flatMap escape ++ quote :: colon :: r, colon :: r, ?_, ?_, ?_⟩
  · unfold quoted
    rw [List.cons_append, List.append_assoc]
    exact skip_of_not_space (hD.space quote (by decide)) _
  · exact string_escaped hD.raw k (colon :: r)
  · exact skip_of_not_space (hD.space colon (by decide)) r

theorem printable_of_all (h : (t.all fun b => 32 ≤ b) = true) : ∀ b ∈ t, 32 ≤ b :=
  fun b hb => of_decide_eq_true (List.all_eq_true.mp h b hb)

theorem escape_printable (b : UInt8) : ∀ c ∈ escape b, 32 ≤ c := by
  have hhex : ∀ n < 16, 32 ≤ hexByte n := by decide
  unfold escape
  split_ifs with h1 h2 h3 h4 h5 h6 h7 h8
  · exact printable_of_all rfl
  · exact printable_of_all rfl
  · exact printable_of_all rfl
  · exact printable_of_all rfl
  · exact printable_of_all rfl
  · exact printable_of_all rfl
  · exact printable_of_all rfl
  · have hb : b.toNat < 32 := h8
    have hhigh := hhex (b.toNat / 16) (by omega)
    have hlow := hhex (b.toNat % 16) (by omega)
    show ∀ c ∈ [backslash, letterU, 48, 48] ++ [_, _], 32 ≤ c
    refine List.forall_mem_append.mpr ⟨?_, ?_⟩
    · exact printable_of_all rfl
    · exact List.forall_mem_cons.mpr ⟨hhigh, List.forall_mem_singleton.mpr hlow⟩
  · exact List.forall_mem_singleton.mpr (UInt8.not_lt.mp h8)

theorem quoted_printable (s : Text) : ∀ b ∈ quoted s, 32 ≤ b := by
  intro b hb
  rcases List.mem_cons.mp hb with rfl | hb
  · decide
  · rcases List.mem_append.mp hb with hb | hb
    · obtain ⟨c, -, hb⟩ := List.mem_flatMap.mp hb
      exact escape_printable c b hb
    · rw [List.mem_singleton.mp hb]
      decide

-- The text of a tree has no control character, if its numbers have none.
mutual
theorem print_printable : ∀ {v : Tree}, (∀ l ∈ v.numbers, ∀ b ∈ l, 32 ≤ b) → ∀ b ∈ v.print, 32 ≤ b
  | .null, _ => printable_of_all rfl
  | .bool true, _ => printable_of_all rfl
  | .bool false, _ => printable_of_all rfl
  | .number literal, hv => hv literal (List.mem_singleton.mpr rfl)
  | .str s, _ => quoted_printable s
  | .arr elems, hv => by
    rw [Tree.numbers] at hv
    rw [Tree.print]
    have hinner := List.forall_mem_append.mpr ⟨printElems_printable hv,
      printable_of_all (t := [closeBracket]) rfl⟩
    exact List.forall_mem_cons.mpr ⟨by decide, hinner⟩
  | .obj fields, hv => by
    rw [Tree.numbers] at hv
    rw [Tree.print]
    have hinner := List.forall_mem_append.mpr ⟨printFields_printable hv,
      printable_of_all (t := [closeBrace]) rfl⟩
    exact List.forall_mem_cons.mpr ⟨by decide, hinner⟩

theorem printElems_printable : ∀ {vs : List Tree}, (∀ l ∈ numbersElems vs, ∀ b ∈ l, 32 ≤ b) →
    ∀ b ∈ printElems vs, 32 ≤ b
  | [], _ => nofun
  | [v], hv => print_printable fun l hl => hv l (List.mem_append_left _ hl)
  | v :: w :: vs, hv => by
    rw [numbersElems] at hv
    obtain ⟨hfirst, hrest⟩ := List.forall_mem_append.mp hv
    rw [printElems_cons]
    refine List.forall_mem_append.mpr ⟨print_printable hfirst, ?_⟩
    exact List.forall_mem_cons.mpr ⟨by decide, printElems_printable hrest⟩

theorem printFields_printable : ∀ {fs : List (Text × Tree)},
    (∀ l ∈ numbersFields fs, ∀ b ∈ l, 32 ≤ b) → ∀ b ∈ printFields fs, 32 ≤ b
  | [], _ => nofun
  | [(k, v)], hv => by
    rw [printFields]
    refine List.forall_mem_append.mpr ⟨quoted_printable k, List.forall_mem_cons.mpr ⟨by decide, ?_⟩⟩
    exact print_printable fun l hl => hv l (List.mem_append_left _ hl)
  | (k, v) :: (k', v') :: fs, hv => by
    rw [numbersFields] at hv
    obtain ⟨hfirst, hrest⟩ := List.forall_mem_append.mp hv
    rw [printFields_cons]
    refine List.forall_mem_append.mpr ⟨quoted_printable k, List.forall_mem_cons.mpr ⟨by decide, ?_⟩⟩
    refine List.forall_mem_append.mpr ⟨print_printable hfirst, ?_⟩
    exact List.forall_mem_cons.mpr ⟨by decide, printFields_printable hrest⟩
end

/-! The three cases of the round trip, each from the round trip of its parts with one unit of fuel
less. -/

def PrintsValue (D : Dialect) (n : Nat) : Prop :=
  ∀ v r, (∀ l ∈ v.numbers, D.Reads l) → Delimited r → 2 * v.print.length ≤ n →
    value D n (v.print ++ r) = some (v, r)

def PrintsElems (D : Dialect) (n : Nat) : Prop :=
  ∀ v vs r, (∀ l ∈ numbersElems (v :: vs), D.Reads l) →
    2 * (printElems (v :: vs)).length + 1 ≤ n →
    elems D n (printElems (v :: vs) ++ closeBracket :: r) = some (v :: vs, r)

def PrintsFields (D : Dialect) (n : Nat) : Prop :=
  ∀ f fs r, (∀ l ∈ numbersFields (f :: fs), D.Reads l) →
    2 * (printFields (f :: fs)).length + 1 ≤ n →
    fields D n (printFields (f :: fs) ++ closeBrace :: r) = some (f :: fs, r)

theorem skip_printElems (hD : D.Plain) (hv : ∀ l ∈ v.numbers, D.Reads l) (r r' : Text) :
    D.skip (printElems (v :: vs) ++ r) ≠ closeBracket :: r' := by
  obtain ⟨b, t, hprint, hb, hne, -⟩ := print_head hv
  have hhead : ∃ u, printElems (v :: vs) ++ r = b :: u := by
    cases vs with
    | nil =>
      rw [printElems, hprint]
      exact ⟨_, rfl⟩
    | cons w vs =>
      rw [printElems_cons, hprint]
      exact ⟨_, rfl⟩
  obtain ⟨u, hu⟩ := hhead
  rw [hu, skip_of_not_space (hD.space b hb)]
  intro heq
  cases heq
  exact hne rfl

theorem skip_printFields (hD : D.Plain) (f : Text × Tree) (fs : List (Text × Tree)) (r r' : Text) :
    D.skip (printFields (f :: fs) ++ r) ≠ closeBrace :: r' := by
  obtain ⟨k, v⟩ := f
  have hhead : ∃ u, printFields ((k, v) :: fs) ++ r = quote :: u := by
    cases fs with
    | nil =>
      rw [printFields, quoted]
      exact ⟨_, rfl⟩
    | cons f fs =>
      rw [printFields_cons, quoted]
      exact ⟨_, rfl⟩
  obtain ⟨u, hu⟩ := hhead
  rw [hu, skip_of_not_space (hD.space quote (by decide))]
  intro heq
  cases heq

theorem printsValue_succ (hD : D.Plain) (hE : PrintsElems D n) (hF : PrintsFields D n) :
    PrintsValue D (n + 1) := by
  intro v r hv hr hn
  refine value_succ_iff.mpr ?_
  cases v with
  | null => exact .constant (by decide) rfl
  | bool b =>
    cases b with
    | true => exact .constant (by decide) rfl
    | false => exact .constant (by decide) rfl
  | number literal =>
    obtain ⟨⟨b, l, rfl, hb⟩, hread⟩ := hv literal (List.mem_singleton.mpr rfl)
    exact .number hb (hread r hr)
  | str s =>
    rw [Tree.print, quoted, List.cons_append, List.append_assoc]
    exact .str (string_escaped hD.raw s r)
  | arr vs =>
    rw [Tree.numbers] at hv
    rw [Tree.print, List.length_cons, List.length_append, List.length_singleton] at hn
    rw [Tree.print, List.cons_append, List.append_assoc]
    cases vs with
    | nil => exact .arrNil (skip_of_not_space (hD.space closeBracket (by decide)) r)
    | cons v vs =>
      have hfirst : ∀ l ∈ v.numbers, D.Reads l := fun l hl =>
        hv l (by rw [numbersElems]; exact List.mem_append_left _ hl)
      exact .arr (skip_printElems hD hfirst _) (hE v vs r hv (by omega))
  | obj fs =>
    rw [Tree.numbers] at hv
    rw [Tree.print, List.length_cons, List.length_append, List.length_singleton] at hn
    rw [Tree.print, List.cons_append, List.append_assoc]
    cases fs with
    | nil => exact .objNil (skip_of_not_space (hD.space closeBrace (by decide)) r)
    | cons f fs => exact .obj (skip_printFields hD f fs _) (hF f fs r hv (by omega))

theorem printsElems_succ (hD : D.Plain) (hV : PrintsValue D n) (hE : PrintsElems D n) :
    PrintsElems D (n + 1) := by
  intro v vs r hv hn
  rw [numbersElems] at hv
  have hfirst : ∀ l ∈ v.numbers, D.Reads l := fun l hl => hv l (List.mem_append_left _ hl)
  refine elems_succ_iff.mpr ?_
  cases vs with
  | nil =>
    rw [printElems] at hn ⊢
    rw [skip_print hD hfirst]
    have hvalue := hV v (closeBracket :: r) hfirst (delimited_cons (by decide) r) (by omega)
    exact ⟨v, _, hvalue, .inr ⟨skip_of_not_space (hD.space closeBracket (by decide)) r, rfl⟩⟩
  | cons w vs =>
    rw [printElems_cons, List.length_append, List.length_cons] at hn
    rw [printElems_cons, List.append_assoc, List.cons_append, skip_print hD hfirst]
    have hvalue := hV v (comma :: (printElems (w :: vs) ++ closeBracket :: r)) hfirst
      (delimited_cons (by decide) _) (by omega)
    have hrest := hE w vs r (fun l hl => hv l (List.mem_append_right _ hl)) (by omega)
    exact ⟨v, _, hvalue, .inl ⟨_, w :: vs, skip_of_not_space (hD.space comma (by decide)) _, hrest,
      rfl⟩⟩

theorem printsFields_succ (hD : D.Plain) (hV : PrintsValue D n) (hF : PrintsFields D n) :
    PrintsFields D (n + 1) := by
  rintro ⟨k, v⟩ fs r hv hn
  rw [numbersFields] at hv
  have hfirst : ∀ l ∈ v.numbers, D.Reads l := fun l hl => hv l (List.mem_append_left _ hl)
  refine fields_succ_iff.mpr ?_
  cases fs with
  | nil =>
    rw [printFields, List.length_append, List.length_cons] at hn
    rw [printFields, List.append_assoc, List.cons_append]
    have hvalue := hV v (closeBrace :: r) hfirst (delimited_cons (by decide) r) (by omega)
    rw [← skip_print hD hfirst] at hvalue
    exact ⟨k, _, v, _, key_quoted hD k _, hvalue,
      .inr ⟨skip_of_not_space (hD.space closeBrace (by decide)) r, rfl⟩⟩
  | cons f fs =>
    obtain ⟨k', v'⟩ := f
    rw [printFields_cons, List.length_append, List.length_cons, List.length_append,
      List.length_cons] at hn
    rw [printFields_cons, List.append_assoc, List.cons_append, List.append_assoc, List.cons_append]
    have hvalue := hV v (comma :: (printFields ((k', v') :: fs) ++ closeBrace :: r)) hfirst
      (delimited_cons (by decide) _) (by omega)
    rw [← skip_print hD hfirst] at hvalue
    have hrest := hF (k', v') fs r (fun l hl => hv l (List.mem_append_right _ hl)) (by omega)
    exact ⟨k, _, v, _, key_quoted hD k _, hvalue,
      .inl ⟨_, (k', v') :: fs, skip_of_not_space (hD.space comma (by decide)) _, hrest, rfl⟩⟩

theorem scan_print (hD : D.Plain) (n : Nat) :
    PrintsValue D n ∧ PrintsElems D n ∧ PrintsFields D n := by
  induction n with
  | zero =>
    refine ⟨?_, ?_, ?_⟩
    · intro v r hv _ hn
      obtain ⟨b, t, hprint, -⟩ := print_head hv
      rw [hprint, List.length_cons] at hn
      omega
    · intro v vs r _ hn
      omega
    · intro f fs r _ hn
      omega
  | succ n ih =>
    obtain ⟨hV, hE, hF⟩ := ih
    exact ⟨printsValue_succ hD hE hF, printsElems_succ hD hV hE, printsFields_succ hD hV hF⟩

/-- no text of a value starts with a byte order mark -/
theorem dropBom_print (hv : ∀ l ∈ v.numbers, D.Reads l) : dropBom v.print = v.print := by
  obtain ⟨b, t, hprint, -, -, hbom⟩ := print_head hv
  unfold dropBom
  refine if_neg fun heq => ?_
  rw [hprint, List.take_succ_cons] at heq
  exact hbom (List.cons.inj heq).1

/-- **The compact text of a tree is scanned to that tree.** -/
theorem document_print (hD : D.Plain) (hv : ∀ l ∈ v.numbers, D.Reads l) :
    document D v.print = some (v, []) := by
  have hskip := skip_print hD hv []
  have hscan := (scan_print hD (2 * v.print.length)).1 v [] hv delimited_nil le_rfl
  rw [List.append_nil] at hskip hscan
  unfold document
  rw [dropBom_print hv, hskip]
  exact hscan

theorem document_brace (hD : D.Plain) (h : t.head? = some openBrace) :
    document D t = value D (2 * t.length) t := by
  obtain ⟨t, rfl⟩ := head?_eq_some_iff.mp h
  have hbom : dropBom (openBrace :: t) = openBrace :: t := by
    unfold dropBom
    refine if_neg fun heq => ?_
    rw [List.take_succ_cons] at heq
    exact absurd (List.cons.inj heq).1 (by decide)
  unfold document
  rw [hbom, skip_of_not_space (hD.space openBrace (by decide))]

/-- **No proper front part of the text of an object is scanned.** -/
theorem document_cut (hS : D.Splits) (hT : D.Stable) (hP : D.Plain) {p q : Text}
    (hv : ∀ l ∈ (Tree.obj fs).numbers, D.Reads l) (hprint : (Tree.obj fs).print = p ++ q)
    (hp : p ≠ []) (h : document D p = some (v, r)) : q = [] := by
  have hwhole := document_print hP hv
  rw [hprint] at hwhole
  obtain ⟨b, p, rfl⟩ := List.exists_cons_of_ne_nil hp
  obtain rfl : openBrace = b := by
    rw [Tree.print] at hprint
    exact (List.cons.inj hprint).1
  rw [document_brace hP rfl] at h hwhole
  have hvalue := ((scan_extends hS (q := q) (.inr hT) _).1 _ _ _ h).2 ?_
    (2 * ((openBrace :: p) ++ q).length) ?_
  · rw [hvalue] at hwhole
    obtain ⟨-, hrest⟩ := Prod.mk.inj (Option.some.inj hwhole)
    exact (List.append_eq_nil_iff.mp hrest).2
  · -- what begins with a brace is no number
    rintro - literal rfl
    cases starts_of_value (n := 2 * p.length + 1) h with
    | number hb _ => exact absurd hb (by decide)
    | constant hb _ => exact absurd rfl hb.2.2.1
  · rw [List.length_append]
    omega

end JsonText
