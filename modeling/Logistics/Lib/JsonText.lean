import Mathlib

/-!
# JSON texts

A JSON text is a list of bytes, a value read from it a `Tree`: strings are the bytes they denote,
numbers keep their literal, objects their fields in the order of the text.

Libraries differ in what they skip between tokens, in the bytes they let stand in a string, in what
they make of four characters that are not hexadecimal digits and in their numbers; a `Dialect` says
which.  A string is read in two passes: its body up to the closing quote, in which a backslash
protects the byte after it, and then the escapes of the body.

* `Tree.print`               the compact text of a tree;
* `value`, `elems`, `fields`, `document`   the scanner, on fuel;
* `body_escaped`, `unescape_escaped`       the two passes over a printed string;
* `unescape_length`          a string is no longer than its body, and shorter where an escape is;
* `string_escaped`           **a printed string is read as that string**.

What the scanner does with whole values is in `JsonScan`.
-/

namespace JsonText

abbrev Text := List UInt8

inductive Tree where
  | null
  | bool (b : Bool)
  | number (literal : Text)
  | str (s : Text)
  | arr (elems : List Tree)
  | obj (fields : List (Text × Tree))

namespace Byte

abbrev quote : UInt8 := 34
abbrev comma : UInt8 := 44
abbrev minus : UInt8 := 45
abbrev colon : UInt8 := 58
abbrev openBracket : UInt8 := 91
abbrev backslash : UInt8 := 92
abbrev closeBracket : UInt8 := 93
abbrev letterU : UInt8 := 117
abbrev openBrace : UInt8 := 123
abbrev closeBrace : UInt8 := 125

end Byte

open Byte

abbrev nullText : Text := [110, 117, 108, 108]
abbrev trueText : Text := [116, 114, 117, 101]
abbrev falseText : Text := [102, 97, 108, 115, 101]

def isDigit (b : UInt8) : Bool := 48 ≤ b && b ≤ 57

/-! ## printing -/

def hexByte (n : Nat) : UInt8 := if n < 10 then 48 + n.toUInt8 else 87 + n.toUInt8

/-- a byte of a string as it is written -/
def escape (b : UInt8) : Text :=
  if b = quote then [backslash, quote]
  else if b = backslash then [backslash, backslash]
  else if b = 8 then [backslash, 98]
  else if b = 9 then [backslash, 116]
  else if b = 10 then [backslash, 110]
  else if b = 12 then [backslash, 102]
  else if b = 13 then [backslash, 114]
  else if b < 32 then [backslash, letterU, 48, 48, hexByte (b.toNat / 16), hexByte (b.toNat % 16)]
  else [b]

def quoted (s : Text) : Text := quote :: (s.flatMap escape ++ [quote])

mutual
def Tree.print : Tree → Text
  | .null => nullText
  | .bool b => if b then trueText else falseText
  | .number literal => literal
  | .str s => quoted s
  | .arr elems => openBracket :: (printElems elems ++ [closeBracket])
  | .obj fields => openBrace :: (printFields fields ++ [closeBrace])

def printElems : List Tree → Text
  | [] => []
  | [v] => v.print
  | v :: rest => v.print ++ comma :: printElems rest

def printFields : List (Text × Tree) → Text
  | [] => []
  | [(k, v)] => quoted k ++ colon :: v.print
  | (k, v) :: rest => quoted k ++ colon :: (v.print ++ comma :: printFields rest)
end

/-! ## strings -/

structure Dialect where
  /-- skipped between tokens -/
  space : UInt8 → Bool
  /-- may stand for itself in a string -/
  raw : UInt8 → Bool
  /-- four characters that are not all hexadecimal digits are read as zero -/
  lenientHex : Bool
  /-- a number at the start of a text: its literal and what follows -/
  number : Text → Option (Text × Text)

/-- the bytes up to the closing quote, and what follows it -/
def body : Text → Option (Text × Text)
  | [] => none
  | [b] => if b = quote then some ([], []) else none
  | b :: c :: rest =>
    if b = quote then some ([], c :: rest)
    else if b = backslash then (body rest).map fun p => (b :: c :: p.1, p.2)
    else (body (c :: rest)).map fun p => (b :: p.1, p.2)

def hexDigit (b : UInt8) : Option Nat :=
  if 48 ≤ b && b ≤ 57 then some (b.toNat - 48)
  else if 65 ≤ b && b ≤ 70 then some (b.toNat - 55)
  else if 97 ≤ b && b ≤ 102 then some (b.toNat - 87)
  else none

def hexCode (a b c d : UInt8) : Option Nat := do
  let a ← hexDigit a
  let b ← hexDigit b
  let c ← hexDigit c
  let d ← hexDigit d
  pure (((a * 16 + b) * 16 + c) * 16 + d)

def utf8 (code : Nat) : Text := String.utf8EncodeChar (Char.ofNat code)

def simpleEscape (b : UInt8) : Option UInt8 :=
  if b = quote ∨ b = backslash ∨ b = 47 then some b
  else if b = 98 then some 8
  else if b = 102 then some 12
  else if b = 110 then some 10
  else if b = 114 then some 13
  else if b = 116 then some 9
  else none

variable (D : Dialect)

def Dialect.skip (t : Text) : Text := t.dropWhile D.space

def Dialect.hexCode (a b c d : UInt8) : Option Nat :=
  if D.lenientHex then some ((JsonText.hexCode a b c d).getD 0) else JsonText.hexCode a b c d

/-- the low half of a surrogate pair -/
def lowSurrogate (high : Nat) : Text → Option (Text × Text)
  | s :: u :: a :: b :: c :: d :: rest =>
    if s = backslash ∧ u = letterU then
      (D.hexCode a b c d).bind fun low =>
        if 0xDC00 ≤ low ∧ low ≤ 0xDFFF then
          some (utf8 (0x10000 + (high - 0xD800) * 0x400 + (low - 0xDC00)), rest)
        else none
    else none
  | _ => none

/-- what follows a backslash and a `u` -/
def unicodeEscape : Text → Option (Text × Text)
  | a :: b :: c :: d :: rest =>
    (D.hexCode a b c d).bind fun code =>
      if code < 0xD800 ∨ 0xDFFF < code then some (utf8 code, rest)
      else if 0xDC00 ≤ code then none
      else lowSurrogate D code rest
  | _ => none

/-- what follows a backslash: the bytes it stands for, and the rest -/
def escapeSequence : Text → Option (Text × Text)
  | [] => none
  | b :: rest =>
    if b = letterU then unicodeEscape D rest
    else (simpleEscape b).map fun e => ([e], rest)

def unescape : Nat → Text → Option Text
  | _, [] => some []
  | 0, _ :: _ => none
  | n + 1, b :: rest =>
    if b = backslash then
      (escapeSequence D rest).bind fun p => (unescape n p.2).map fun s => p.1 ++ s
    else if D.raw b then (unescape n rest).map fun s => b :: s
    else none

/-- a string after its opening quote -/
def string (t : Text) : Option (Text × Text) :=
  (body t).bind fun p => (unescape D p.1.length p.1).map fun s => (s, p.2)

/-! ## values -/

def constant (t : Text) : Option (Tree × Text) :=
  if t.take 4 = nullText then some (.null, t.drop 4)
  else if t.take 4 = trueText then some (.bool true, t.drop 4)
  else if t.take 5 = falseText then some (.bool false, t.drop 5)
  else none

/-- a key and its colon -/
def key (t : Text) : Option (Text × Text) :=
  match D.skip t with
  | [] => none
  | b :: rest =>
    if b = quote then
      (string D rest).bind fun s =>
        match D.skip s.2 with
        | [] => none
        | c :: rest => if c = colon then some (s.1, rest) else none
    else none

mutual
def value : Nat → Text → Option (Tree × Text)
  | 0, _ => none
  | _ + 1, [] => none
  | n + 1, b :: rest =>
    if b = quote then (string D rest).map fun p => (.str p.1, p.2)
    else if b = openBracket then
      if (D.skip rest).head? = some closeBracket then some (.arr [], (D.skip rest).tail)
      else (elems n rest).map fun p => (.arr p.1, p.2)
    else if b = openBrace then
      if (D.skip rest).head? = some closeBrace then some (.obj [], (D.skip rest).tail)
      else (fields n rest).map fun p => (.obj p.1, p.2)
    else if b = minus ∨ isDigit b then (D.number (b :: rest)).map fun p => (.number p.1, p.2)
    else constant (b :: rest)

/-- the elements of an array, from after its bracket or a comma on -/
def elems : Nat → Text → Option (List Tree × Text)
  | 0, _ => none
  | n + 1, t =>
    (value n (D.skip t)).bind fun p =>
      match D.skip p.2 with
      | [] => none
      | b :: rest =>
        if b = comma then (elems n rest).map fun q => (p.1 :: q.1, q.2)
        else if b = closeBracket then some ([p.1], rest)
        else none

def fields : Nat → Text → Option (List (Text × Tree) × Text)
  | 0, _ => none
  | n + 1, t =>
    (key D t).bind fun k => (value n (D.skip k.2)).bind fun p =>
      match D.skip p.2 with
      | [] => none
      | b :: rest =>
        if b = comma then (fields n rest).map fun q => ((k.1, p.1) :: q.1, q.2)
        else if b = closeBrace then some ([(k.1, p.1)], rest)
        else none
end

def dropBom (t : Text) : Text := if t.take 3 = [0xEF, 0xBB, 0xBF] then t.drop 3 else t

/-- the first value of a text and what follows it -/
def document (t : Text) : Option (Tree × Text) :=
  value D (2 * t.length) (D.skip (dropBom t))

/-! ## the body of a string -/

theorem backslash_ne_quote : backslash ≠ quote := by decide

theorem body_eq {t s r : Text} (h : body t = some (s, r)) : t = s ++ quote :: r := by
  fun_induction body t generalizing s r with
  | case1 => cases h
  | case2 =>
    cases h
    rfl
  | case3 => cases h
  | case4 =>
    cases h
    rfl
  | case5 c rest hne ih =>
    obtain ⟨p, hp, he⟩ := Option.map_eq_some_iff.mp h
    cases he
    rw [ih hp]
    rfl
  | case6 b c rest hq hb ih =>
    obtain ⟨p, hp, he⟩ := Option.map_eq_some_iff.mp h
    cases he
    rw [ih hp]
    rfl

/-- a body without a backslash has no quote -/
theorem quote_not_mem_body {t s r : Text} (h : body t = some (s, r)) (hs : backslash ∉ s) :
    quote ∉ s := by
  fun_induction body t generalizing s r with
  | case1 => cases h
  | case2 =>
    cases h
    exact nofun
  | case3 => cases h
  | case4 =>
    cases h
    exact nofun
  | case5 =>
    obtain ⟨p, -, h⟩ := Option.map_eq_some_iff.mp h
    cases h
    exact absurd (List.mem_cons_self ..) hs
  | case6 b c rest hq hb ih =>
    obtain ⟨⟨s', r'⟩, hbody, h⟩ := Option.map_eq_some_iff.mp h
    cases h
    have hrest := ih hbody fun hmem => hs (List.mem_cons_of_mem _ hmem)
    intro hmem
    rcases List.mem_cons.mp hmem with heq | hmem
    · exact hq heq.symm
    · exact hrest hmem

theorem body_append {t s r : Text} (h : body t = some (s, r)) (q : Text) :
    body (t ++ q) = some (s, r ++ q) := by
  fun_induction body t generalizing s r with
  | case1 => cases h
  | case2 =>
    cases h
    cases q <;> simp [body]
  | case3 => cases h
  | case4 =>
    cases h
    simp [body]
  | case5 c rest hne ih =>
    obtain ⟨p, hp, he⟩ := Option.map_eq_some_iff.mp h
    cases he
    simp [body, ih hp, backslash_ne_quote]
  | case6 b c rest hq hb ih =>
    obtain ⟨p, hp, he⟩ := Option.map_eq_some_iff.mp h
    cases he
    have hrec := ih hp
    rw [List.cons_append] at hrec
    simp [body, hq, hb, hrec]

/-- one byte that neither closes the string nor protects the next one -/
theorem body_cons {b : UInt8} (hq : b ≠ quote) (hb : b ≠ backslash) {t s r : Text}
    (h : body t = some (s, r)) : body (b :: t) = some (b :: s, r) := by
  cases t with
  | nil => cases h
  | cons c t => simp [body, hq, hb, h]

theorem body_protect (c : UInt8) {t s r : Text} (h : body t = some (s, r)) :
    body (backslash :: c :: t) = some (backslash :: c :: s, r) := by
  simp [body, h, backslash_ne_quote]

theorem body_quote (r : Text) : body (quote :: r) = some ([], r) := by
  cases r <;> simp [body]

theorem body_plain {t : Text} (h : ∀ b ∈ t, b ≠ quote ∧ b ≠ backslash) (r : Text) :
    body (t ++ quote :: r) = some (t, r) := by
  induction t with
  | nil => exact body_quote r
  | cons b t ih =>
    obtain ⟨⟨hq, hb⟩, ht⟩ := List.forall_mem_cons.mp h
    exact body_cons hq hb (ih ht)

theorem hexByte_ne : ∀ n < 16, hexByte n ≠ quote ∧ hexByte n ≠ backslash := by decide

theorem body_escape (b : UInt8) {t s r : Text} (h : body t = some (s, r)) :
    body (escape b ++ t) = some (escape b ++ s, r) := by
  unfold escape
  split_ifs with h1 h2 h3 h4 h5 h6 h7 h8
  · exact body_protect _ h
  · exact body_protect _ h
  · exact body_protect _ h
  · exact body_protect _ h
  · exact body_protect _ h
  · exact body_protect _ h
  · exact body_protect _ h
  · have hlt : b.toNat < 32 := h8
    have hlow := hexByte_ne (b.toNat % 16) (by omega)
    have hhigh := hexByte_ne (b.toNat / 16) (by omega)
    have hdigits := body_cons hhigh.1 hhigh.2 (body_cons hlow.1 hlow.2 h)
    have hzeros := body_cons (b := 48) (by decide) (by decide)
      (body_cons (b := 48) (by decide) (by decide) hdigits)
    exact body_protect letterU hzeros
  · exact body_cons h1 h2 h

theorem body_escaped (s r : Text) :
    body (s.flatMap escape ++ quote :: r) = some (s.flatMap escape, r) := by
  induction s with
  | nil => exact body_quote r
  | cons b s ih =>
    rw [List.flatMap_cons, List.append_assoc]
    exact body_escape b ih

/-! ## escapes -/

section
variable {D}

theorem utf8_length (code : Nat) : (utf8 code).length ≤ 4 := by
  unfold utf8
  rw [String.length_utf8EncodeChar]
  exact Char.utf8Size_le_four _

theorem lowSurrogate_length {high : Nat} {t e r : Text} (h : lowSurrogate D high t = some (e, r)) :
    e.length + r.length ≤ t.length := by
  unfold lowSurrogate at h
  split at h
  · split_ifs at h
    obtain ⟨low, -, h⟩ := Option.bind_eq_some_iff.mp h
    split_ifs at h
    obtain ⟨rfl, rfl⟩ := Prod.mk.inj (Option.some.inj h)
    have := utf8_length (0x10000 + (high - 0xD800) * 0x400 + (low - 0xDC00))
    simp only [List.length_cons]
    omega
  · cases h

theorem escapeSequence_length {t e r : Text} (h : escapeSequence D t = some (e, r)) :
    e.length + r.length ≤ t.length := by
  unfold escapeSequence at h
  split at h
  · cases h
  · split_ifs at h
    · unfold unicodeEscape at h
      split at h
      · obtain ⟨code, -, h⟩ := Option.bind_eq_some_iff.mp h
        split_ifs at h
        · cases h
          have := utf8_length code
          simp only [List.length_cons]
          omega
        · have := lowSurrogate_length h
          simp only [List.length_cons]
          omega
      · cases h
    · obtain ⟨c, -, h⟩ := Option.map_eq_some_iff.mp h
      cases h
      simp only [List.length_cons, List.length_nil]
      omega

theorem unescape_backslash (n : Nat) (t : Text) :
    unescape D (n + 1) (backslash :: t) =
      (escapeSequence D t).bind fun p => (unescape D n p.2).map fun s => p.1 ++ s := rfl

theorem unescape_cons {b : UInt8} (hb : b ≠ backslash) (n : Nat) (t : Text) :
    unescape D (n + 1) (b :: t) =
      if D.raw b then (unescape D n t).map fun s => b :: s else none := by
  rw [unescape, if_neg hb]

/-- a string is no longer than its body, and shorter where the body has an escape -/
theorem unescape_length {n : Nat} {t s : Text} (h : unescape D n t = some s) :
    s.length ≤ t.length ∧ (backslash ∈ t → s.length < t.length) := by
  induction n generalizing t s with
  | zero =>
    cases t with
    | nil =>
      cases h
      exact ⟨le_rfl, nofun⟩
    | cons b t => cases h
  | succ n ih =>
    cases t with
    | nil =>
      cases h
      exact ⟨le_rfl, nofun⟩
    | cons b t =>
      by_cases hb : b = backslash
      · rw [hb, unescape_backslash] at h
        obtain ⟨⟨e, r⟩, hseq, h⟩ := Option.bind_eq_some_iff.mp h
        obtain ⟨s', hs', rfl⟩ := Option.map_eq_some_iff.mp h
        have hlen := escapeSequence_length hseq
        have hrest : s'.length ≤ r.length := (ih hs').1
        simp only [List.length_append, List.length_cons]
        omega
      · rw [unescape_cons hb] at h
        split_ifs at h with hraw
        obtain ⟨s', hs', rfl⟩ := Option.map_eq_some_iff.mp h
        obtain ⟨hle, hlt⟩ := ih hs'
        refine ⟨Nat.succ_le_succ hle, ?_⟩
        intro hmem
        rcases List.mem_cons.mp hmem with heq | hmem
        · exact absurd heq.symm hb
        · exact Nat.succ_lt_succ (hlt hmem)

/-- without a backslash the string is its body -/
theorem unescape_plain_iff {n : Nat} {t : Text} (hb : backslash ∉ t) (hn : t.length ≤ n) (s : Text) :
    unescape D n t = some s ↔ s = t ∧ ∀ b ∈ t, D.raw b = true := by
  induction t generalizing n s with
  | nil =>
    have hnil : unescape D n [] = some [] := by cases n <;> rfl
    rw [hnil]
    exact ⟨fun h => ⟨(Option.some.inj h).symm, nofun⟩, fun h => by rw [h.1]⟩
  | cons b t ih =>
    obtain ⟨n, rfl⟩ : ∃ m, n = m + 1 := ⟨n - 1, by simp only [List.length_cons] at hn; omega⟩
    rw [List.mem_cons, not_or] at hb
    have hrest := ih hb.2 (Nat.le_of_succ_le_succ hn)
    rw [unescape_cons fun heq => hb.1 heq.symm, List.forall_mem_cons]
    cases hraw : D.raw b with
    | false => exact iff_of_false (by rw [if_neg (by decide)]; nofun) fun h => nomatch h.2.1
    | true =>
      rw [if_pos rfl, Option.map_eq_some_iff]
      simp only [hrest, true_and]
      constructor
      · rintro ⟨s', ⟨rfl, hall⟩, rfl⟩
        exact ⟨rfl, hall⟩
      · rintro ⟨rfl, hall⟩
        exact ⟨t, ⟨rfl, hall⟩, rfl⟩

theorem hexCode_hexByte :
    ∀ n < 32, hexCode 48 48 (hexByte (n / 16)) (hexByte (n % 16)) = some n := by decide

theorem utf8_control : ∀ n < 32, utf8 n = [n.toUInt8] := by decide

theorem unicodeEscape_hexByte {n : Nat} (hn : n < 32) (t : Text) :
    unicodeEscape D (48 :: 48 :: hexByte (n / 16) :: hexByte (n % 16) :: t) =
      some ([n.toUInt8], t) := by
  have hcode : D.hexCode 48 48 (hexByte (n / 16)) (hexByte (n % 16)) = some n := by
    unfold Dialect.hexCode
    rw [hexCode_hexByte n hn]
    cases D.lenientHex <;> rfl
  have hlow : n < 0xD800 ∨ 0xDFFF < n := .inl (by omega)
  simp only [unicodeEscape, hcode, Option.bind_some, if_pos hlow, utf8_control n hn]

/-- the escape of a byte is read as that byte -/
theorem unescape_escape (hD : ∀ b, 32 ≤ b → D.raw b = true) (b : UInt8) (n : Nat) (t : Text) :
    unescape D (n + 1) (escape b ++ t) = (unescape D n t).map fun s => b :: s := by
  have hsimple : ∀ c, c ≠ letterU → simpleEscape c = some b →
      unescape D (n + 1) (backslash :: c :: t) = (unescape D n t).map fun s => b :: s := by
    intro c hc he
    have hseq : escapeSequence D (c :: t) = some ([b], t) := by
      simp only [escapeSequence, if_neg hc, he, Option.map_some]
    rw [unescape_backslash, hseq]
    rfl
  unfold escape
  split_ifs with h1 h2 h3 h4 h5 h6 h7 h8
  · exact hsimple _ (by decide) (by rw [h1]; rfl)
  · exact hsimple _ (by decide) (by rw [h2]; rfl)
  · exact hsimple _ (by decide) (by rw [h3]; rfl)
  · exact hsimple _ (by decide) (by rw [h4]; rfl)
  · exact hsimple _ (by decide) (by rw [h5]; rfl)
  · exact hsimple _ (by decide) (by rw [h6]; rfl)
  · exact hsimple _ (by decide) (by rw [h7]; rfl)
  · have hlt : b.toNat < 32 := h8
    show unescape D (n + 1) (backslash :: letterU :: 48 :: 48 :: hexByte (b.toNat / 16) ::
      hexByte (b.toNat % 16) :: t) = _
    have hb : b.toNat.toUInt8 = b := UInt8.ofNat_toNat
    have hseq : escapeSequence D (letterU :: 48 :: 48 :: hexByte (b.toNat / 16) ::
        hexByte (b.toNat % 16) :: t) = some ([b], t) := by
      rw [escapeSequence, if_pos rfl, unicodeEscape_hexByte hlt, hb]
    rw [unescape_backslash, hseq]
    rfl
  · show unescape D (n + 1) (b :: t) = _
    have hraw : D.raw b = true := hD b (UInt8.not_lt.mp h8)
    rw [unescape_cons h2, if_pos hraw]

theorem unescape_escaped (hD : ∀ b, 32 ≤ b → D.raw b = true) (s : Text) {n : Nat}
    (hn : s.length ≤ n) : unescape D n (s.flatMap escape) = some s := by
  induction s generalizing n with
  | nil => cases n <;> rfl
  | cons b s ih =>
    obtain ⟨n, rfl⟩ : ∃ m, n = m + 1 := ⟨n - 1, by simp only [List.length_cons] at hn; omega⟩
    rw [List.flatMap_cons, unescape_escape hD, ih (Nat.le_of_succ_le_succ hn)]
    rfl

/-! ## strings -/

theorem string_eq_some_iff {t s r : Text} :
    string D t = some (s, r) ↔ ∃ raw, body t = some (raw, r) ∧ unescape D raw.length raw = some s := by
  unfold string
  constructor
  · intro h
    obtain ⟨⟨raw, r'⟩, hbody, h⟩ := Option.bind_eq_some_iff.mp h
    obtain ⟨s', hs', he⟩ := Option.map_eq_some_iff.mp h
    cases he
    exact ⟨raw, hbody, hs'⟩
  · rintro ⟨raw, hbody, hs⟩
    rw [hbody, Option.bind_some, hs, Option.map_some]

theorem string_length {t s r : Text} (h : string D t = some (s, r)) :
    s.length + r.length < t.length := by
  obtain ⟨raw, hbody, hs⟩ := string_eq_some_iff.mp h
  have hlen := (unescape_length hs).1
  rw [body_eq hbody]
  simp only [List.length_append, List.length_cons]
  omega

theorem string_append {t s r : Text} (h : string D t = some (s, r)) (q : Text) :
    string D (t ++ q) = some (s, r ++ q) := by
  obtain ⟨raw, hbody, hs⟩ := string_eq_some_iff.mp h
  exact string_eq_some_iff.mpr ⟨raw, body_append hbody q, hs⟩

theorem length_le_flatMap_escape (s : Text) : s.length ≤ (s.flatMap escape).length := by
  induction s with
  | nil => exact le_rfl
  | cons b s ih =>
    have hb : 0 < (escape b).length := by
      unfold escape
      split_ifs <;> exact Nat.succ_pos _
    rw [List.flatMap_cons, List.length_append, List.length_cons]
    omega

theorem length_flatMap_escape_le (s : Text) : (s.flatMap escape).length ≤ 6 * s.length := by
  induction s with
  | nil => exact le_rfl
  | cons b s ih =>
    have hb : (escape b).length ≤ 6 := by
      unfold escape
      split_ifs <;> simp only [List.length_cons, List.length_nil] <;> omega
    rw [List.flatMap_cons, List.length_append, List.length_cons]
    omega

theorem quoted_length_le (s : Text) : (quoted s).length ≤ 6 * s.length + 2 := by
  have hlength := length_flatMap_escape_le s
  rw [quoted, List.length_cons, List.length_append, List.length_singleton]
  omega

theorem string_escaped (hD : ∀ b, 32 ≤ b → D.raw b = true) (s r : Text) :
    string D (s.flatMap escape ++ quote :: r) = some (s, r) :=
  string_eq_some_iff.mpr ⟨_, body_escaped s r,
    unescape_escaped hD s (length_le_flatMap_escape s)⟩

theorem string_plain {s : Text} (h : ∀ b ∈ s, b ≠ quote ∧ b ≠ backslash ∧ D.raw b = true)
    (r : Text) : string D (s ++ quote :: r) = some (s, r) := by
  refine string_eq_some_iff.mpr ⟨s, body_plain (fun b hb => ⟨(h b hb).1, (h b hb).2.1⟩) r, ?_⟩
  refine (unescape_plain_iff ?_ le_rfl s).mpr ⟨rfl, fun b hb => (h b hb).2.2⟩
  intro hmem
  exact (h backslash hmem).2.1 rfl

/-! ## spaces -/

theorem skip_length (t : Text) : (D.skip t).length ≤ t.length := List.length_dropWhile_le _ t

theorem skip_append {t u : Text} {b : UInt8} (h : D.skip t = b :: u) (q : Text) :
    D.skip (t ++ q) = b :: (u ++ q) := by
  unfold Dialect.skip at h ⊢
  rw [List.dropWhile_append, h]
  rfl

theorem skip_of_not_space {b : UInt8} (h : D.space b = false) (t : Text) :
    D.skip (b :: t) = b :: t := by
  unfold Dialect.skip
  rw [List.dropWhile_cons, h]
  rfl

end

end JsonText
