import Logistics.Lib.JsonScan

/-!
# JSON texts in ASCII

A writer can keep its texts in ASCII: a character beyond the tilde is written as an escape with the
four hexadecimal digits of its code, and one that has no such code as two of them, a surrogate pair.

* `asciiEscape`            a character as such a writer writes it;
* `unescape_asciiEscape`   it is read as the UTF-8 bytes of the character;
* `string_ascii`           **a string in ASCII is read as the string**;
* `dictText`               an object of strings, with a space after every colon and comma;
* `document_dict`          **it is scanned to that object**.
-/

namespace JsonText
open Byte

/-! ## writing -/

def hexText (n : Nat) : Text :=
  [hexByte (n / 4096 % 16), hexByte (n / 256 % 16), hexByte (n / 16 % 16), hexByte (n % 16)]

def unicodeText (n : Nat) : Text := backslash :: letterU :: hexText n

def asciiEscape (c : Char) : Text :=
  if c.toNat = 34 then [backslash, quote]
  else if c.toNat = 92 then [backslash, backslash]
  else if c.toNat = 10 then [backslash, 110]
  else if c.toNat = 13 then [backslash, 114]
  else if c.toNat = 9 then [backslash, 116]
  else if c.toNat = 12 then [backslash, 102]
  else if c.toNat = 8 then [backslash, 98]
  else if 32 ≤ c.toNat ∧ c.toNat ≤ 126 then [c.toNat.toUInt8]
  else if c.toNat < 0x10000 then unicodeText c.toNat
  else unicodeText (0xD800 + (c.toNat - 0x10000) / 0x400) ++
    unicodeText (0xDC00 + (c.toNat - 0x10000) % 0x400)

def asciiQuoted (s : List Char) : Text := quote :: (s.flatMap asciiEscape ++ [quote])

def dictItems : List (List Char × List Char) → Text
  | [] => []
  | [(k, v)] => asciiQuoted k ++ colon :: 32 :: asciiQuoted v
  | (k, v) :: rest =>
    asciiQuoted k ++ colon :: 32 :: (asciiQuoted v ++ comma :: 32 :: dictItems rest)

def dictText (items : List (List Char × List Char)) : Text :=
  openBrace :: (dictItems items ++ [closeBrace])

/-! ## the body of a string -/

theorem hexText_ne (n : Nat) : ∀ b ∈ hexText n, b ≠ quote ∧ b ≠ backslash := by
  have hdigit : ∀ m, hexByte (m % 16) ≠ quote ∧ hexByte (m % 16) ≠ backslash :=
    fun m => hexByte_ne (m % 16) (Nat.mod_lt m (by decide))
  unfold hexText
  simp only [List.forall_mem_cons]
  exact ⟨hdigit _, hdigit _, hdigit _, hdigit _, nofun⟩

theorem body_chars {l : Text} (hl : ∀ b ∈ l, b ≠ quote ∧ b ≠ backslash) {t s r : Text}
    (h : body t = some (s, r)) : body (l ++ t) = some (l ++ s, r) := by
  induction l with
  | nil => exact h
  | cons b l ih =>
    obtain ⟨hb, hl⟩ := List.forall_mem_cons.mp hl
    exact body_cons hb.1 hb.2 (ih hl)

theorem body_unicodeText (n : Nat) {t s r : Text} (h : body t = some (s, r)) :
    body (unicodeText n ++ t) = some (unicodeText n ++ s, r) :=
  body_protect letterU (body_chars (hexText_ne n) h)

/-- a printable character that is no quote and no backslash -/
theorem plain_toUInt8 {n : Nat} (hn : 32 ≤ n ∧ n ≤ 126) (hquote : n ≠ 34) (hback : n ≠ 92) :
    n.toUInt8 ≠ quote ∧ n.toUInt8 ≠ backslash ∧ 32 ≤ n.toUInt8 := by
  have htoNat : n.toUInt8.toNat = n := by
    rw [Nat.toUInt8, UInt8.toNat_ofNat']
    exact Nat.mod_eq_of_lt (by omega)
  refine ⟨fun h => hquote ?_, fun h => hback ?_, ?_⟩
  · rw [← htoNat, h]
    rfl
  · rw [← htoNat, h]
    rfl
  · rw [UInt8.le_iff_toNat_le, htoNat]
    exact hn.1

theorem body_asciiEscape (c : Char) {t s r : Text} (h : body t = some (s, r)) :
    body (asciiEscape c ++ t) = some (asciiEscape c ++ s, r) := by
  unfold asciiEscape
  split_ifs with h₁ h₂ h₃ h₄ h₅ h₆ h₇ hplain hcode
  · exact body_protect _ h
  · exact body_protect _ h
  · exact body_protect _ h
  · exact body_protect _ h
  · exact body_protect _ h
  · exact body_protect _ h
  · exact body_protect _ h
  · obtain ⟨hquote, hback, -⟩ := plain_toUInt8 hplain h₁ h₂
    exact body_cons hquote hback h
  · exact body_unicodeText _ h
  · rw [List.append_assoc, List.append_assoc]
    exact body_unicodeText _ (body_unicodeText _ h)

theorem body_ascii (s : List Char) (r : Text) :
    body (s.flatMap asciiEscape ++ quote :: r) = some (s.flatMap asciiEscape, r) := by
  induction s with
  | nil => exact body_quote r
  | cons c s ih =>
    rw [List.flatMap_cons, List.append_assoc]
    exact body_asciiEscape c ih

/-! ## escapes -/

section
variable {D : Dialect}

theorem hexDigit_hexByte : ∀ n < 16, hexDigit (hexByte n) = some n := by decide

theorem hexCode_hexText {n : Nat} (hn : n < 0x10000) :
    D.hexCode (hexByte (n / 4096 % 16)) (hexByte (n / 256 % 16)) (hexByte (n / 16 % 16))
      (hexByte (n % 16)) = some n := by
  have hdigit : ∀ m, hexDigit (hexByte (m % 16)) = some (m % 16) :=
    fun m => hexDigit_hexByte (m % 16) (Nat.mod_lt m (by decide))
  have hcode : hexCode (hexByte (n / 4096 % 16)) (hexByte (n / 256 % 16)) (hexByte (n / 16 % 16))
      (hexByte (n % 16)) = some n := by
    unfold hexCode
    rw [hdigit, hdigit, hdigit, hdigit]
    show some _ = some n
    rw [Option.some.injEq]
    omega
  unfold Dialect.hexCode
  rw [hcode]
  cases D.lenientHex with
  | false => rfl
  | true => rfl

/-- the codes of characters are those of no surrogate -/
theorem char_code (c : Char) :
    c.toNat < 0xD800 ∨ 0xDFFF < c.toNat ∧ c.toNat < 0x110000 := c.valid

theorem utf8_toNat (c : Char) : utf8 c.toNat = String.utf8EncodeChar c := by
  unfold utf8
  rw [Char.ofNat_toNat]

theorem unicodeEscape_hexText {n : Nat} (hn : n < 0x10000) (hcode : n < 0xD800 ∨ 0xDFFF < n)
    (t : Text) : unicodeEscape D (hexText n ++ t) = some (utf8 n, t) := by
  show unicodeEscape D (hexByte _ :: hexByte _ :: hexByte _ :: hexByte _ :: t) = _
  rw [unicodeEscape, hexCode_hexText hn, Option.bind_some, if_pos hcode]

/-- a surrogate pair -/
theorem unicodeEscape_pair {n : Nat} (hn : n < 0x100000) (t : Text) :
    unicodeEscape D (hexText (0xD800 + n / 0x400) ++ (unicodeText (0xDC00 + n % 0x400) ++ t)) =
      some (utf8 (0x10000 + n), t) := by
  have hlow : lowSurrogate D (0xD800 + n / 0x400) (unicodeText (0xDC00 + n % 0x400) ++ t) =
      some (utf8 (0x10000 + n), t) := by
    show lowSurrogate D _ (backslash :: letterU :: hexByte _ :: hexByte _ :: hexByte _ ::
      hexByte _ :: t) = _
    rw [lowSurrogate, if_pos ⟨rfl, rfl⟩, hexCode_hexText (by omega), Option.bind_some,
      if_pos (by omega)]
    have hcode : 0x10000 + (0xD800 + n / 0x400 - 0xD800) * 0x400 + (0xDC00 + n % 0x400 - 0xDC00) =
        0x10000 + n := by omega
    rw [hcode]
  show unicodeEscape D (hexByte _ :: hexByte _ :: hexByte _ :: hexByte _ :: (_ ++ t)) = _
  rw [unicodeEscape, hexCode_hexText (by omega), Option.bind_some, if_neg (by omega),
    if_neg (by omega)]
  exact hlow

theorem utf8EncodeChar_ascii {c : Char} (h : c.toNat < 128) :
    String.utf8EncodeChar c = [c.toNat.toUInt8] := by
  have hall : ∀ n < 128, String.utf8EncodeChar (Char.ofNat n) = [n.toUInt8] := by decide
  have hc := hall c.toNat h
  rwa [Char.ofNat_toNat] at hc

/-- the escape of a character is read as its bytes -/
theorem unescape_asciiEscape (hD : ∀ b, 32 ≤ b → D.raw b = true) (c : Char) (n : Nat) (t : Text) :
    unescape D (n + 1) (asciiEscape c ++ t) =
      (unescape D n t).map fun s => String.utf8EncodeChar c ++ s := by
  have hsimple : ∀ {b e : UInt8} {m : Nat}, c.toNat = m → m < 128 → e = m.toUInt8 → b ≠ letterU →
      simpleEscape b = some e → unescape D (n + 1) (backslash :: b :: t) =
        (unescape D n t).map fun s => String.utf8EncodeChar c ++ s := by
    intro b e m hm hlt he hb hsimple
    have hseq : escapeSequence D (b :: t) = some ([e], t) := by
      rw [escapeSequence, if_neg hb, hsimple]
      rfl
    rw [unescape_backslash, hseq, Option.bind_some, utf8EncodeChar_ascii (by omega), hm, he]
  have hunicode : ∀ u : Text, escapeSequence D (letterU :: u) = some (String.utf8EncodeChar c, t) →
      unescape D (n + 1) (backslash :: letterU :: u) =
        (unescape D n t).map fun s => String.utf8EncodeChar c ++ s := by
    intro u hseq
    rw [unescape_backslash, hseq, Option.bind_some]
  have hcode := char_code c
  unfold asciiEscape
  split_ifs with h₁ h₂ h₃ h₄ h₅ h₆ h₇ hplain hlow
  · exact hsimple h₁ (by decide) rfl (by decide) rfl
  · exact hsimple h₂ (by decide) rfl (by decide) rfl
  · exact hsimple h₃ (by decide) rfl (by decide) rfl
  · exact hsimple h₄ (by decide) rfl (by decide) rfl
  · exact hsimple h₅ (by decide) rfl (by decide) rfl
  · exact hsimple h₆ (by decide) rfl (by decide) rfl
  · exact hsimple h₇ (by decide) rfl (by decide) rfl
  · obtain ⟨-, hback, hraw⟩ := plain_toUInt8 hplain h₁ h₂
    show unescape D (n + 1) (c.toNat.toUInt8 :: t) = _
    rw [unescape_cons hback, if_pos (hD _ hraw), utf8EncodeChar_ascii (by omega)]
    rfl
  · refine hunicode (hexText c.toNat ++ t) ?_
    rw [escapeSequence, if_pos rfl, unicodeEscape_hexText hlow (by omega), utf8_toNat]
  · rw [List.append_assoc]
    refine hunicode (hexText _ ++ (unicodeText _ ++ t)) ?_
    have hsum : 0x10000 + (c.toNat - 0x10000) = c.toNat := by omega
    rw [escapeSequence, if_pos rfl, unicodeEscape_pair (by omega), hsum, utf8_toNat]

theorem unescape_ascii (hD : ∀ b, 32 ≤ b → D.raw b = true) (s : List Char) {n : Nat}
    (hn : s.length ≤ n) :
    unescape D n (s.flatMap asciiEscape) = some (s.flatMap String.utf8EncodeChar) := by
  induction s generalizing n with
  | nil => cases n <;> rfl
  | cons c s ih =>
    obtain ⟨n, rfl⟩ : ∃ m, n = m + 1 := ⟨n - 1, by simp only [List.length_cons] at hn; omega⟩
    rw [List.flatMap_cons, unescape_asciiEscape hD, ih (Nat.le_of_succ_le_succ hn)]
    rfl

theorem asciiEscape_length_pos (c : Char) : 0 < (asciiEscape c).length := by
  unfold asciiEscape
  split_ifs <;> exact Nat.succ_pos _

theorem length_le_flatMap_ascii (s : List Char) : s.length ≤ (s.flatMap asciiEscape).length := by
  induction s with
  | nil => exact le_rfl
  | cons c s ih =>
    have hc := asciiEscape_length_pos c
    rw [List.flatMap_cons, List.length_append, List.length_cons]
    omega

/-- **A string in ASCII is read as the string.** -/
theorem string_ascii (hD : ∀ b, 32 ≤ b → D.raw b = true) (s : List Char) (r : Text) :
    string D (s.flatMap asciiEscape ++ quote :: r) = some (s.flatMap String.utf8EncodeChar, r) :=
  string_eq_some_iff.mpr ⟨_, body_ascii s r, unescape_ascii hD s (length_le_flatMap_ascii s)⟩

/-! ## objects of strings -/

/-- the field that an item of a dictionary stands for -/
def dictField (item : List Char × List Char) : Text × Tree :=
  (item.1.flatMap String.utf8EncodeChar, .str (item.2.flatMap String.utf8EncodeChar))

theorem dictItems_cons (item : List Char × List Char) (items : List (List Char × List Char)) :
    dictItems (item :: items) = asciiQuoted item.1 ++ colon :: 32 :: (asciiQuoted item.2 ++
      if items = [] then [] else comma :: 32 :: dictItems items) := by
  obtain ⟨k, v⟩ := item
  cases items with
  | nil => rw [if_pos rfl, List.append_nil, dictItems]
  | cons item items => rw [if_neg (List.cons_ne_nil _ _), dictItems]; exact List.cons_ne_nil _ _

theorem skip_space (hspace : D.space 32 = true) (t : Text) : D.skip (32 :: t) = D.skip t := by
  unfold Dialect.skip
  rw [List.dropWhile_cons, hspace]
  rfl

theorem length_le_dictItems (items : List (List Char × List Char)) :
    items.length ≤ (dictItems items).length := by
  induction items with
  | nil => exact Nat.zero_le _
  | cons item items ih =>
    rw [dictItems_cons, List.length_append, List.length_cons, asciiQuoted, List.length_cons]
    by_cases hnil : items = []
    · rw [hnil, List.length_nil]
      omega
    · simp only [if_neg hnil, List.length_cons, List.length_append]
      omega

variable (hD : D.Plain)
include hD

theorem skip_asciiQuoted (s : List Char) (r : Text) :
    D.skip (asciiQuoted s ++ r) = quote :: (s.flatMap asciiEscape ++ quote :: r) := by
  rw [asciiQuoted, List.cons_append, skip_of_not_space (hD.space quote (by decide)),
    List.append_assoc]
  rfl

theorem key_asciiQuoted {t : Text} (s : List Char) (r : Text)
    (ht : D.skip t = D.skip (asciiQuoted s ++ colon :: r)) :
    key D t = some (s.flatMap String.utf8EncodeChar, r) := by
  refine key_eq_some_iff.mpr ⟨_, colon :: r, ?_, string_ascii hD.raw s (colon :: r), ?_⟩
  · rw [ht, skip_asciiQuoted hD]
  · exact skip_of_not_space (hD.space colon (by decide)) r

variable (hspace : D.space 32 = true)
include hspace

theorem fields_dictItems (items : List (List Char × List Char)) (item : List Char × List Char)
    {n : Nat} (hn : items.length + 2 ≤ n) {t r : Text}
    (ht : D.skip t = D.skip (dictItems (item :: items) ++ closeBrace :: r)) :
    fields D n t = some ((item :: items).map dictField, r) := by
  induction items generalizing item n t with
  | nil =>
    obtain ⟨n, rfl⟩ : ∃ m, n = m + 2 := ⟨n - 2, by simp only [List.length_nil] at hn; omega⟩
    rw [dictItems_cons, if_pos rfl, List.append_nil, List.append_assoc] at ht
    refine (fields_str_iff (key_asciiQuoted hD item.1 _ ht) ?_).mpr
      ⟨_, closeBrace :: r, string_ascii hD.raw item.2 (closeBrace :: r), .inr ⟨?_, rfl⟩⟩
    · exact (skip_space hspace _).trans (skip_asciiQuoted hD item.2 _)
    · exact skip_of_not_space (hD.space closeBrace (by decide)) r
  | cons next items ih =>
    obtain ⟨n, rfl⟩ : ∃ m, n = m + 2 := ⟨n - 2, by simp only [List.length_cons] at hn; omega⟩
    simp only [List.length_cons] at hn
    rw [dictItems_cons, if_neg (List.cons_ne_nil _ _), List.append_assoc, List.cons_append,
      List.cons_append, List.append_assoc] at ht
    refine (fields_str_iff (key_asciiQuoted hD item.1 _ ht) ?_).mpr
      ⟨_, comma :: 32 :: (dictItems (next :: items) ++ closeBrace :: r),
        string_ascii hD.raw item.2 _, .inl ⟨32 :: (dictItems (next :: items) ++ closeBrace :: r),
          (next :: items).map dictField, ?_, ?_, rfl⟩⟩
    · exact (skip_space hspace _).trans (skip_asciiQuoted hD item.2 _)
    · exact skip_of_not_space (hD.space comma (by decide)) _
    · exact ih next (by omega) (skip_space hspace _)

/-- **The text of a dictionary is scanned to the object of its strings.** -/
theorem document_dict (items : List (List Char × List Char)) :
    document D (dictText items) = some (.obj (items.map dictField), []) := by
  have hlength := length_le_dictItems items
  obtain ⟨n, hfuel, hn⟩ : ∃ n, 2 * (dictText items).length = n + 1 ∧ items.length + 1 ≤ n := by
    refine ⟨2 * (dictText items).length - 1, ?_, ?_⟩
    · simp only [dictText, List.length_cons]
      omega
    · simp only [dictText, List.length_cons, List.length_append, List.length_nil]
      omega
  rw [document_brace hD rfl, hfuel]
  refine value_succ_iff.mpr ?_
  cases items with
  | nil => exact .objNil (skip_of_not_space (hD.space closeBrace (by decide)) [])
  | cons item items =>
    refine .obj ?_ (fields_dictItems hD hspace items item hn rfl)
    intro r' h
    rw [dictItems_cons, List.append_assoc, skip_asciiQuoted hD] at h
    exact absurd (List.cons.inj h).1 (by decide)

end

end JsonText
