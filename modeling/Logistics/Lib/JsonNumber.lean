import Logistics.Lib.JsonScan

/-!
# The numbers of JSON

A number is scanned part by part, each as far as it goes: a sign, the digits before the point, a
fraction, an exponent.  A `Token` splits the text it is given and does not depend on what comes
after its end; tokens compose (`Token.andThen`), so `number` is one.

* `number`            the grammar of JSON numbers;
* `number_splits`, `number_stable`   it is a scanner of numbers as `JsonScan` asks for;
* `number_reads`      a text that is one number is read wherever a value may end after it;
* `number_digits`, `number_minus`    decimal numerals are numbers.
-/

namespace JsonText
open Byte

abbrev Scanner := Text → Option (Text × Text)

/-- takes its bytes off the front of the text, and takes the same bytes when the text goes on, if
that is not where it stopped or a value may end there -/
def Token (p : Scanner) : Prop :=
  ∀ t l r, p t = some (l, r) →
    t = l ++ r ∧ ∀ q, r ≠ [] ∨ Delimited q → p (t ++ q) = some (l, r ++ q)

/-! ## scanners -/

def nothing : Scanner := fun t => some ([], t)

def Scanner.andThen (p p' : Scanner) : Scanner := fun t =>
  (p t).bind fun a => (p' a.2).map fun b => (a.1 ++ b.1, b.2)

/-- what `p` scans after a byte of a given kind, or nothing where there is no such byte -/
def optional (starts : UInt8 → Bool) (p : Scanner) : Scanner
  | [] => some ([], [])
  | b :: t => if starts b then (p t).map fun a => (b :: a.1, a.2) else some ([], b :: t)

def digits : Scanner := fun t =>
  if t.takeWhile isDigit = [] then none else some (t.takeWhile isDigit, t.dropWhile isDigit)

/-- digits without a leading zero -/
def integer : Scanner
  | [] => none
  | b :: t => if b = 48 then some ([b], t) else digits (b :: t)

def isSign (b : UInt8) : Bool := b = 43 || b = minus

def isExponent (b : UInt8) : Bool := b = 101 || b = 69

def fraction : Scanner := optional (· = 46) digits

def exponent : Scanner := optional isExponent ((optional isSign nothing).andThen digits)

def number : Scanner :=
  (optional (· = minus) nothing).andThen (integer.andThen (fraction.andThen exponent))

theorem optional_cons (starts : UInt8 → Bool) (p : Scanner) (b : UInt8) (t : Text) :
    optional starts p (b :: t) =
      if starts b then (p t).map fun a => (b :: a.1, a.2) else some ([], b :: t) := rfl

theorem integer_cons (b : UInt8) (t : Text) :
    integer (b :: t) = if b = 48 then some ([b], t) else digits (b :: t) := rfl

/-! ## tokens -/

theorem token_nothing : Token nothing := by
  intro t l r h
  cases h
  exact ⟨rfl, fun q _ => rfl⟩

theorem andThen_eq_some_iff {p p' : Scanner} {t l r : Text} :
    (p.andThen p') t = some (l, r) ↔
      ∃ l₁ u l₂, p t = some (l₁, u) ∧ p' u = some (l₂, r) ∧ l = l₁ ++ l₂ := by
  unfold Scanner.andThen
  constructor
  · intro h
    obtain ⟨⟨l₁, u⟩, h1, h⟩ := Option.bind_eq_some_iff.mp h
    obtain ⟨⟨l₂, r'⟩, h2, h⟩ := Option.map_eq_some_iff.mp h
    cases h
    exact ⟨l₁, u, l₂, h1, h2, rfl⟩
  · rintro ⟨l₁, u, l₂, h1, h2, rfl⟩
    rw [h1, Option.bind_some, h2]
    rfl

theorem Token.andThen {p p' : Scanner} (hp : Token p) (hp' : Token p') : Token (p.andThen p') := by
  intro t l r h
  obtain ⟨l₁, u, l₂, h1, h2, rfl⟩ := andThen_eq_some_iff.mp h
  obtain ⟨rfl, hext⟩ := hp t l₁ u h1
  obtain ⟨rfl, hext'⟩ := hp' u l₂ r h2
  refine ⟨(List.append_assoc l₁ l₂ r).symm, fun q hq => ?_⟩
  -- where the first part stops at the end of the text the second is empty and stops there too
  have hq' : l₂ ++ r ≠ [] ∨ Delimited q := by
    rcases hq with hr | hq
    · exact .inl fun h => hr (List.append_eq_nil_iff.mp h).2
    · exact .inr hq
  exact andThen_eq_some_iff.mpr ⟨l₁, l₂ ++ r ++ q, l₂, hext q hq', hext' q hq, rfl⟩

theorem Delimited.head_ne {q : Text} (hq : Delimited q) {starts : UInt8 → Bool}
    (hs : starts comma = false ∧ starts closeBracket = false ∧ starts closeBrace = false)
    {b : UInt8} {q' : Text} (h : q = b :: q') : starts b = false := by
  obtain ⟨h1, h2, h3⟩ := hs
  rcases hq b q' h with rfl | rfl | rfl
  · exact h1
  · exact h2
  · exact h3

theorem token_optional {starts : UInt8 → Bool} {p : Scanner}
    (hs : starts comma = false ∧ starts closeBracket = false ∧ starts closeBrace = false)
    (hp : Token p) : Token (optional starts p) := by
  intro t l r h
  cases t with
  | nil =>
    cases h
    refine ⟨rfl, fun q hq => ?_⟩
    have hq : Delimited q := hq.resolve_left fun h => h rfl
    cases q with
    | nil => rfl
    | cons b q =>
      have hb := hq.head_ne hs rfl
      rw [List.nil_append, optional_cons, hb]
      rfl
  | cons b t =>
    rw [optional_cons] at h
    cases hb : starts b with
    | false =>
      rw [hb] at h
      cases h
      refine ⟨rfl, fun q _ => ?_⟩
      rw [List.cons_append, optional_cons, hb]
      rfl
    | true =>
      rw [hb, if_pos rfl] at h
      obtain ⟨⟨l', r'⟩, h1, h⟩ := Option.map_eq_some_iff.mp h
      cases h
      obtain ⟨rfl, hext⟩ := hp t l' r' h1
      refine ⟨rfl, fun q hq => ?_⟩
      rw [List.cons_append, optional_cons, hb, if_pos rfl, hext q hq]
      rfl

theorem digits_eq_some {t l r : Text} (h : digits t = some (l, r)) :
    l ≠ [] ∧ l = t.takeWhile isDigit ∧ r = t.dropWhile isDigit := by
  unfold digits at h
  split_ifs at h with hne
  cases h
  exact ⟨hne, rfl, rfl⟩

theorem isDigit_delimiter :
    isDigit comma = false ∧ isDigit closeBracket = false ∧ isDigit closeBrace = false := by decide

theorem token_digits : Token digits := by
  intro t l r h
  obtain ⟨hne, hl, hr⟩ := digits_eq_some h
  refine ⟨by rw [hl, hr, List.takeWhile_append_dropWhile], fun q hq => ?_⟩
  have hspan : (t ++ q).takeWhile isDigit = l ∧ (t ++ q).dropWhile isDigit = r ++ q := by
    by_cases hend : r = []
    · -- the digits reach the end of the text, and what follows is no digit
      have hq : Delimited q := hq.resolve_left fun h => h hend
      have hall : ∀ b ∈ t, isDigit b = true := List.dropWhile_eq_nil_iff.mp (hr.symm.trans hend)
      have hlt : l = t := by rw [hl, List.takeWhile_eq_self_iff.mpr hall]
      rw [List.takeWhile_append_of_pos hall, List.dropWhile_append_of_pos hall, hend, hlt]
      cases q with
      | nil => exact ⟨List.append_nil t, rfl⟩
      | cons b q =>
        have hb := hq.head_ne isDigit_delimiter rfl
        have hb' : ¬ isDigit b = true := by
          rw [hb]
          exact Bool.false_ne_true
        rw [List.takeWhile_cons_of_neg hb', List.dropWhile_cons_of_neg hb']
        exact ⟨List.append_nil t, rfl⟩
    · have hdrop : ¬ (t.dropWhile isDigit).isEmpty = true := by
        rw [← hr, List.isEmpty_iff]
        exact hend
      rw [List.dropWhile_append, if_neg hdrop, List.takeWhile_append, ← hl, ← hr]
      refine ⟨if_neg fun hlen => hend ?_, rfl⟩
      have hsum := congrArg List.length (List.takeWhile_append_dropWhile (p := isDigit) (l := t))
      rw [List.length_append, ← hl, ← hr] at hsum
      exact List.length_eq_zero_iff.mp (by omega)
  unfold digits
  rw [hspan.1, hspan.2, if_neg hne]

theorem token_integer : Token integer := by
  intro t l r h
  cases t with
  | nil => cases h
  | cons b t =>
    rw [integer_cons] at h
    split_ifs at h with hb
    · cases h
      exact ⟨rfl, fun q _ => if_pos hb⟩
    · obtain ⟨heq, hext⟩ := token_digits (b :: t) l r h
      exact ⟨heq, fun q hq => (if_neg hb).trans (hext q hq)⟩

theorem token_number : Token number := by
  have hsign : Token (optional (· = minus) nothing) := token_optional (by decide) token_nothing
  have hfraction : Token fraction := token_optional (by decide) token_digits
  have hexponent : Token exponent :=
    token_optional (by decide) ((token_optional (by decide) token_nothing).andThen token_digits)
  exact hsign.andThen (token_integer.andThen (hfraction.andThen hexponent))

/-! ## the bytes of numbers -/

/-- takes printable bytes only -/
def Scanner.Printable (p : Scanner) : Prop := ∀ t l r, p t = some (l, r) → ∀ b ∈ l, 32 ≤ b

theorem Scanner.Printable.andThen {p p' : Scanner} (hp : p.Printable) (hp' : p'.Printable) :
    (p.andThen p').Printable := by
  intro t l r h
  obtain ⟨l₁, u, l₂, h1, h2, rfl⟩ := andThen_eq_some_iff.mp h
  exact List.forall_mem_append.mpr ⟨hp t l₁ u h1, hp' u l₂ r h2⟩

theorem printable_nothing : nothing.Printable := by
  intro t l r h
  cases h
  exact nofun

theorem printable_optional {starts : UInt8 → Bool} {p : Scanner}
    (hs : ∀ b, starts b = true → 32 ≤ b) (hp : p.Printable) : (optional starts p).Printable := by
  intro t l r h
  cases t with
  | nil =>
    cases h
    exact nofun
  | cons b t =>
    rw [optional_cons] at h
    split_ifs at h with hb
    · obtain ⟨⟨l', r'⟩, h1, h⟩ := Option.map_eq_some_iff.mp h
      cases h
      exact List.forall_mem_cons.mpr ⟨hs b hb, hp t l' r' h1⟩
    · cases h
      exact nofun

theorem printable_digits : digits.Printable := by
  intro t l r h
  obtain ⟨-, rfl, -⟩ := digits_eq_some h
  intro b hb
  have hall : ∀ b, isDigit b = true → 32 ≤ b := by decide +kernel
  exact hall b (List.mem_takeWhile_imp hb)

theorem printable_integer : integer.Printable := by
  intro t l r h
  cases t with
  | nil => cases h
  | cons b t =>
    rw [integer_cons] at h
    split_ifs at h with hb
    · cases h
      rw [hb]
      exact printable_of_all rfl
    · exact printable_digits _ _ _ h

theorem printable_number : number.Printable := by
  have hsign : (optional (· = minus) nothing).Printable :=
    printable_optional (by decide +kernel) printable_nothing
  have hfraction : fraction.Printable := printable_optional (by decide +kernel) printable_digits
  have hexponent : exponent.Printable := by
    refine printable_optional (by decide +kernel) ?_
    exact (printable_optional (by decide +kernel) printable_nothing).andThen printable_digits
  exact hsign.andThen (printable_integer.andThen (hfraction.andThen hexponent))

/-! ## what `JsonScan` asks of numbers -/

theorem integer_head {t l r : Text} (h : integer t = some (l, r)) :
    ∃ b l', l = b :: l' ∧ isDigit b = true := by
  cases t with
  | nil => cases h
  | cons b t =>
    rw [integer_cons] at h
    split_ifs at h with hb
    · cases h
      exact ⟨b, [], rfl, by rw [hb]; rfl⟩
    · obtain ⟨hne, hl, -⟩ := digits_eq_some h
      rw [List.takeWhile_cons] at hl
      split_ifs at hl with hdigit
      · exact ⟨b, _, hl, hdigit⟩
      · exact absurd hl hne

/-- a number starts with its sign or with a digit -/
theorem number_head {t l r : Text} (h : number t = some (l, r)) :
    ∃ b l', l = b :: l' ∧ (b = minus ∨ isDigit b = true) := by
  obtain ⟨l₁, u, l₂, h1, h2, rfl⟩ := andThen_eq_some_iff.mp h
  obtain ⟨l₃, u', l₄, h3, -, rfl⟩ := andThen_eq_some_iff.mp h2
  obtain ⟨b, l', rfl, hb⟩ := integer_head h3
  cases l₁ with
  | nil => exact ⟨b, l' ++ l₄, rfl, .inr hb⟩
  | cons c l₁ =>
    cases t with
    | nil => cases h1
    | cons d t =>
      rw [optional_cons] at h1
      split_ifs at h1 with hd
      · cases h1
        exact ⟨c, _, rfl, .inl (of_decide_eq_true hd)⟩
      · cases h1

theorem number_splits {t l r : Text} (h : number t = some (l, r)) : t = l ++ r ∧ l ≠ [] := by
  obtain ⟨b, l', rfl, -⟩ := number_head h
  exact ⟨(token_number t _ r h).1, List.cons_ne_nil b l'⟩

theorem number_stable {t l r : Text} (h : number t = some (l, r)) (hr : r ≠ []) (q : Text) :
    number (t ++ q) = some (l, r ++ q) :=
  (token_number t l r h).2 q (.inl hr)

/-- **A text that is one number is read wherever a value may end after it.** -/
theorem number_reads {l : Text} (h : number l = some (l, [])) {r : Text} (hr : Delimited r) :
    number (l ++ r) = some (l, r) :=
  (token_number l l [] h).2 r (.inr hr)

/-! ## numerals -/

theorem integer_digits {ds : Text} (hne : ds ≠ []) (hds : ∀ b ∈ ds, isDigit b = true)
    (hlead : ds.head? = some 48 → ds = [48]) : integer ds = some (ds, []) := by
  cases ds with
  | nil => exact absurd rfl hne
  | cons b ds =>
    rw [integer_cons]
    split_ifs with hb
    · rw [hlead (congrArg some hb)]
      rw [hb] at hlead
      cases hlead rfl
      rw [hb]
    · unfold digits
      rw [List.takeWhile_eq_self_iff.mpr hds, if_neg hne, List.dropWhile_eq_nil_iff.mpr hds]

/-- the parts after the digits are empty at the end of a text -/
theorem integer_number {ds : Text} (h : integer ds = some (ds, [])) :
    (integer.andThen (fraction.andThen exponent)) ds = some (ds, []) := by
  refine andThen_eq_some_iff.mpr ⟨ds, [], [], h, ?_, (List.append_nil ds).symm⟩
  exact andThen_eq_some_iff.mpr ⟨[], [], [], rfl, rfl, rfl⟩

theorem number_digits {ds : Text} (hne : ds ≠ []) (hds : ∀ b ∈ ds, isDigit b = true)
    (hlead : ds.head? = some 48 → ds = [48]) : number ds = some (ds, []) := by
  have hdigits := integer_number (integer_digits hne hds hlead)
  refine andThen_eq_some_iff.mpr ⟨[], ds, ds, ?_, hdigits, rfl⟩
  cases ds with
  | nil => rfl
  | cons b ds =>
    refine if_neg fun hb => ?_
    have hdigit := hds b (List.mem_cons_self ..)
    rw [of_decide_eq_true hb] at hdigit
    exact absurd hdigit (by decide)

theorem number_minus {ds : Text} (hne : ds ≠ []) (hds : ∀ b ∈ ds, isDigit b = true)
    (hlead : ds.head? = some 48 → ds = [48]) : number (minus :: ds) = some (minus :: ds, []) := by
  have hdigits := integer_number (integer_digits hne hds hlead)
  exact andThen_eq_some_iff.mpr ⟨[minus], ds, ds, rfl, hdigits, rfl⟩

end JsonText
