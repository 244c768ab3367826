/-
What a string says.

A text can be written between quote marks in many ways.  `Writes` lists the ways to write one
character: as itself, behind a backslash, by a letter, or by its code in hexadecimal.  `Spells` puts
characters one behind the other, with lines broken anywhere between them.  Reading undoes all of it:
whatever spelling of a text stands between two quote marks, the string says that text, and it ends
right behind the second mark (`Scanner.scan_of_spells`).

Nothing has to be known of what follows, with one exception.  A carriage return that breaks a line
takes a line feed behind it along, so it matters that no spelling starts with one
(`Spells.head?_ne`).
-/
import Mathlib.Data.Nat.Digits.Defs
import Shapewire.Proofs.Token.Spacing

namespace Shapewire

namespace Token

/-! ### Spellings -/

/-- A hexadecimal digit, in either case, with its value. -/
def HexDigit (digit : Char) (value : Nat) : Prop :=
  "0123456789abcdef".toList[value]? = some digit ∨
    "0123456789ABCDEF".toList[value]? = some digit

/-- The digits write the number in hexadecimal, with zeros in front or without. -/
def IsNumeral (digits : List Char) (n : Nat) : Prop :=
  ∃ values, List.Forall₂ HexDigit digits values ∧ Nat.ofDigits 16 values.reverse = n

/-- The letters that stand for a character behind a backslash. -/
def letterEscapes : List (Char × Char) :=
  [('n', '\n'), ('t', '\t'), ('r', '\r'), ('b', '\x08'), ('f', '\x0c'), ('v', '\x0b')]

/-- The marks that a string may stand between. -/
def IsQuote (quote : Char) : Prop := quote = '"' ∨ quote = '\''

/-- The ways to write a character in a string. -/
inductive Writes (quote ch : Char) : List Char → Prop where
  | raw (noQuote : ch ≠ quote) (noBackslash : ch ≠ '\\') (noBreak : Text.isLineBreak ch = false) :
    Writes quote ch [ch]
  | escaped (mark : ch = quote ∨ ch = '\\') : Writes quote ch ['\\', ch]
  | letter {letter : Char} (stands : (letter, ch) ∈ letterEscapes) : Writes quote ch ['\\', letter]
  | byte {digits : List Char} (two : digits.length = 2) (numeral : IsNumeral digits ch.toNat) :
    Writes quote ch ('\\' :: 'x' :: digits)
  | unit {digits : List Char} (four : digits.length = 4) (numeral : IsNumeral digits ch.toNat) :
    Writes quote ch ('\\' :: 'u' :: digits)
  | braced {digits : List Char} (some : digits ≠ []) (numeral : IsNumeral digits ch.toNat) :
    Writes quote ch ('\\' :: 'u' :: '\x7b' :: (digits ++ ['\x7d']))

/-- The ways to break a line within a string. -/
def lineJoins : List (List Char) :=
  [['\\', '\n'], ['\\', '\r'], ['\\', '\r', '\n'], ['\\', '\u2028'], ['\\', '\u2029']]

/-- The text of a string, its quote marks left out, spells the characters. -/
inductive Spells (quote : Char) : List Char → List Char → Prop where
  | nil : Spells quote [] []
  | char (writes : Writes quote ch form) (rest : Spells quote text chars) :
    Spells quote (form ++ text) (ch :: chars)
  | join (isJoin : mark ∈ lineJoins) (rest : Spells quote text chars) :
    Spells quote (mark ++ text) chars

/-! ### Numerals -/

section numerals

variable {digit : Char} {value n : Nat} {digits tail : List Char} {values : List Nat} {ch : Char}
  {c : Cursor}

theorem HexDigit.hexValue? (is : HexDigit digit value) : Text.hexValue? digit = some value := by
  have lower : ∀ i : Fin 16, Text.hexValue? ("0123456789abcdef".toList[i]) = some i.val := by decide
  have upper : ∀ i : Fin 16, Text.hexValue? ("0123456789ABCDEF".toList[i]) = some i.val := by decide
  rcases is with is | is
  · obtain ⟨inside, rfl⟩ := List.getElem?_eq_some_iff.mp is
    exact lower ⟨value, inside⟩
  · obtain ⟨inside, rfl⟩ := List.getElem?_eq_some_iff.mp is
    exact upper ⟨value, inside⟩

theorem hexDigits?_of_forall₂ (each : List.Forall₂ HexDigit digits values) :
    Text.hexDigits? n digits = some (values.foldl (fun n value => value + 16 * n) n) := by
  induction each generalizing n with
  | nil => rfl
  | cons is _ ih =>
    rw [Text.hexDigits?, is.hexValue?, Option.bind_some, ih, List.foldl_cons, Nat.add_comm]

/-- A numeral is read as the code that it writes. -/
theorem hexNumeral?_of_isNumeral (nonempty : digits ≠ []) (numeral : IsNumeral digits ch.toNat) :
    Text.hexNumeral? digits = some ch.toNat := by
  obtain ⟨values, each, code⟩ := numeral
  have read : Text.hexDigits? 0 digits = some ch.toNat := by
    rw [hexDigits?_of_forall₂ each, ← code, Nat.ofDigits_eq_foldr, List.foldr_reverse]
    rfl
  have unsigned : Text.hexUnsigned? digits = some ch.toNat := by
    cases digits with
    | nil => exact absurd rfl nonempty
    | cons digit digits =>
      rw [Text.hexUnsigned?, read, Option.filter_some, if_pos]
      exact decide_eq_true ch.val.toNat_lt
  rw [Text.hexNumeral?]
  · exact unsigned
  · -- A sign is no digit.
    rintro digits rfl
    cases each with
    | cons is _ => cases is.hexValue?

/-- A character is found by its code. -/
theorem charOfCode?_toNat : Text.charOfCode? ch.toNat = some ch := by
  have valid : ch.toNat.isValidChar := ch.valid
  rw [Text.charOfCode?, dif_pos valid]
  rfl

/-- An escape by a numeral is the character whose code the numeral writes. -/
theorem numericEscape_of_isNumeral {around : Nat} (nonempty : digits ≠ [])
    (numeral : IsNumeral digits ch.toNat) :
    numericEscape c digits around = .char ch (c.skip (digits.length + around)) := by
  rw [numericEscape, hexNumeral?_of_isNumeral nonempty numeral]
  dsimp only
  rw [charOfCode?_toNat]

theorem fixedEscape_of_isNumeral {n : Nat} (length : digits.length = n + 1)
    (numeral : IsNumeral digits ch.toNat) (here : c.rest = digits ++ tail) :
    ∃ stop, stop.rest = tail ∧ fixedEscape (n + 1) c = .char ch stop := by
  have taken : c.rest.take (n + 1) = digits := by rw [here, ← length, List.take_left]
  have nonempty : digits ≠ [] := by
    rintro rfl
    cases length
  refine ⟨c.skip (digits.length + 0), ?_, ?_⟩
  · rw [Cursor.rest_skip, here]
    exact List.drop_left
  · rw [fixedEscape, taken, if_pos length, numericEscape_of_isNumeral nonempty numeral]

/-- Nothing but digits stands in a numeral. -/
theorem IsNumeral.exists_value (numeral : IsNumeral digits n) (mem : digit ∈ digits) :
    ∃ value, HexDigit digit value := by
  obtain ⟨values, each, -⟩ := numeral
  induction each with
  | nil => cases mem
  | cons is _ ih =>
    rcases List.mem_cons.mp mem with rfl | mem
    · exact ⟨_, is⟩
    · exact ih mem

theorem IsNumeral.ne_of_mem (numeral : IsNumeral digits n) {mark : Char}
    (noDigit : Text.hexValue? mark = none) (mem : digit ∈ digits) : digit ≠ mark := by
  obtain ⟨value, is⟩ := numeral.exists_value mem
  rintro rfl
  cases noDigit.symm.trans is.hexValue?

theorem unicodeEscape_of_unit (four : digits.length = 4) (numeral : IsNumeral digits ch.toNat)
    (here : c.rest = digits ++ tail) :
    ∃ stop, stop.rest = tail ∧ unicodeEscape c = .char ch stop := by
  rw [unicodeEscape_fixed]
  · exact fixedEscape_of_isNumeral four numeral here
  · cases digits with
    | nil => cases four
    | cons digit digits =>
      rw [here]
      intro brace
      exact numeral.ne_of_mem (by decide) List.mem_cons_self (Option.some.inj brace)

theorem unicodeEscape_of_braced (nonempty : digits ≠ []) (numeral : IsNumeral digits ch.toNat)
    (here : c.rest = '\x7b' :: (digits ++ '\x7d' :: tail)) :
    ∃ stop, stop.rest = tail ∧ unicodeEscape c = .char ch stop := by
  have within : ∀ digit ∈ digits, (digit != '\x7d') = true := fun digit mem =>
    bne_iff_ne.mpr (numeral.ne_of_mem (by decide) mem)
  refine ⟨c.skip (digits.length + 2), ?_, ?_⟩
  · rw [Cursor.rest_skip, here]
    simp [List.drop_append]
  · rw [unicodeEscape_braced here, takeWhile_closed within, if_pos (by simp),
      numericEscape_of_isNumeral nonempty numeral]

end numerals

/-! ### Forms -/

section forms

variable {quote ch : Char} {form mark text chars tail after : List Char} {opening : Nat} {c : Cursor}

theorem IsQuote.ne_backslash (isQuote : IsQuote quote) : quote ≠ '\\' := by
  rcases isQuote with rfl | rfl <;> decide

/-- A character that is escaped is read. -/
theorem escapeSequence_of_writes (isQuote : IsQuote quote) {cs : List Char}
    (writes : Writes quote ch ('\\' :: cs)) (escaped : cs ≠ [])
    (here : c.rest = '\\' :: (cs ++ tail)) :
    ∃ stop, stop.rest = tail ∧ escapeSequence c = .char ch stop := by
  cases writes with
  | raw => exact absurd rfl escaped
  | escaped mark =>
    refine ⟨c.next.next, (Escape.nexts here).2, ?_⟩
    rcases mark with rfl | rfl
    · rcases isQuote with rfl | rfl <;>
        simp [escapeSequence, Escape.nexts here, letterEscape?, Text.isLineBreak]
    · simp [escapeSequence, Escape.nexts here, letterEscape?, Text.isLineBreak]
  | @letter letter stands =>
    refine ⟨c.next.next, (Escape.nexts here).2, ?_⟩
    have cooked : ∀ e ∈ letterEscapes, letterEscape? e.1 = some e.2 := by decide
    simp only [escapeSequence, Escape.nexts here, cooked _ stands]
  | @byte digits two numeral =>
    have behind := (Escape.nexts here).2
    obtain ⟨stop, rest, is⟩ := fixedEscape_of_isNumeral two numeral behind
    exact ⟨stop, rest, by simp [escapeSequence, Escape.nexts here, letterEscape?, is]⟩
  | @unit digits four numeral =>
    have behind := (Escape.nexts here).2
    obtain ⟨stop, rest, is⟩ := unicodeEscape_of_unit four numeral behind
    exact ⟨stop, rest, by simp [escapeSequence, Escape.nexts here, letterEscape?, is]⟩
  | @braced digits nonempty numeral =>
    have behind : c.next.next.rest = '\x7b' :: (digits ++ '\x7d' :: tail) := by
      simpa using (Escape.nexts here).2
    obtain ⟨stop, rest, is⟩ := unicodeEscape_of_braced nonempty numeral behind
    exact ⟨stop, rest, by simp [escapeSequence, Escape.nexts here, letterEscape?, is]⟩

/-- Every form but the plain one starts with a backslash. -/
theorem Writes.cases (writes : Writes quote ch form) :
    (form = [ch] ∧ ch ≠ quote ∧ ch ≠ '\\' ∧ Text.isLineBreak ch = false) ∨
      ∃ cs, form = '\\' :: cs ∧ cs ≠ [] := by
  cases writes with
  | raw noQuote noBackslash noBreak => exact .inl ⟨rfl, noQuote, noBackslash, noBreak⟩
  | escaped | letter | unit | braced => exact .inr ⟨_, rfl, by simp⟩
  | byte => exact .inr ⟨_, rfl, by simp⟩

/-- A character is read in whatever form it is written. -/
theorem stringRest_of_writes (isQuote : IsQuote quote) (writes : Writes quote ch form)
    (here : c.rest = form ++ tail) : ∃ stop, stop.rest = tail ∧
      stringRest quote opening c = (stringRest quote opening stop).cons ch := by
  rcases writes.cases with ⟨rfl, noQuote, noBackslash, noBreak⟩ | ⟨cs, rfl, escaped⟩
  · refine ⟨c.next, Cursor.rest_next here, ?_⟩
    rw [stringRest_eq here, if_neg noQuote, if_neg (by simp [noBreak]), if_neg noBackslash]
  · obtain ⟨stop, behind, is⟩ := escapeSequence_of_writes isQuote writes escaped here
    refine ⟨stop, behind, ?_⟩
    rw [takesEscapes_stringRest isQuote.ne_backslash opening c _ here, is]

/-- A line break behind a backslash is passed, with both its characters if it has two. -/
theorem escapeSequence_of_lineJoin (isJoin : mark ∈ lineJoins) (here : c.rest = mark ++ tail)
    (plain : tail.head? ≠ some '\n') :
    ∃ stop, stop.rest = tail ∧ escapeSequence c = .join stop := by
  simp only [lineJoins, List.mem_cons, List.not_mem_nil, or_false] at isJoin
  rcases isJoin with rfl | rfl | rfl | rfl | rfl
  case inr.inr.inl =>
    refine ⟨c.next.next.next, Cursor.rest_next (Escape.nexts here).2, ?_⟩
    simp [escapeSequence, Escape.nexts here, letterEscape?]
  all_goals
    refine ⟨c.next.next, (Escape.nexts here).2, ?_⟩
    simp [escapeSequence, Escape.nexts here, letterEscape?, Text.isLineBreak, plain]

/-- What stands behind a place in a string is no line feed. -/
theorem Spells.head?_ne (isQuote : IsQuote quote) (spells : Spells quote text chars) :
    (text ++ quote :: after).head? ≠ some '\n' := by
  cases spells with
  | nil => rcases isQuote with rfl | rfl <;> simp
  | char writes rest =>
    rcases writes.cases with ⟨rfl, -, -, noBreak⟩ | ⟨cs, rfl, -⟩
    · rintro ⟨rfl⟩
      cases noBreak
    · simp
  | join isJoin rest =>
    simp only [lineJoins, List.mem_cons, List.not_mem_nil, or_false] at isJoin
    rcases isJoin with rfl | rfl | rfl | rfl | rfl <;> simp

/-- **The rest of a string is read as what it spells.** -/
theorem stringRest_of_spells (isQuote : IsQuote quote)
    (spells : Spells quote text chars) (here : c.rest = text ++ quote :: after) :
    ∃ stop, stop.rest = after ∧
      stringRest quote opening c = ⟨.ok .stringLiteral, chars, stop, false⟩ := by
  induction spells generalizing c with
  | nil =>
    refine ⟨c.next, Cursor.rest_next here, ?_⟩
    rw [stringRest_eq here, if_pos rfl]
    rfl
  | char writes rest ih =>
    rw [List.append_assoc] at here
    obtain ⟨stop, behind, takes⟩ := stringRest_of_writes isQuote writes here
    obtain ⟨stop', behind', read⟩ := ih behind
    refine ⟨stop', behind', ?_⟩
    rw [takes, read]
    rfl
  | join isJoin rest ih =>
    rw [List.append_assoc] at here
    obtain ⟨stop, behind, is⟩ := escapeSequence_of_lineJoin isJoin here (rest.head?_ne isQuote)
    obtain ⟨stop', behind', read⟩ := ih behind
    refine ⟨stop', behind', ?_⟩
    obtain ⟨cs, here'⟩ : ∃ cs, c.rest = '\\' :: cs := by
      simp only [lineJoins, List.mem_cons, List.not_mem_nil, or_false] at isJoin
      rcases isJoin with rfl | rfl | rfl | rfl | rfl <;> exact ⟨_, here⟩
    rw [takesEscapes_stringRest isQuote.ne_backslash opening c cs here', is]
    exact read

end forms

end Token

namespace Scanner

open Token

/-- **Scanning a string undoes escaping**: whatever spelling of a text stands between two marks, the
string says that text and ends right behind the second mark. -/
theorem scan_of_spells {s : Scanner} {quote : Char} {text chars after : List Char}
    (isQuote : IsQuote quote) (spells : Spells quote text chars)
    (here : s.here.rest = quote :: (text ++ quote :: after)) :
    s.scan =
      { s with
        fullStart := s.here.offset
        start := s.here
        here := ⟨s.here.offset + Text.byteLength (quote :: (text ++ [quote])), after⟩
        token := .stringLiteral
        value := String.ofList chars
        lineBreak := false } := by
  have noTrivia : startsTrivia s.here.rest = false := by
    rw [here]
    rcases isQuote with rfl | rfl <;> rfl
  have dispatch : lexeme s.here = stringRest quote s.here.offset s.here.next := by
    simp only [lexeme, here]
    exact if_pos isQuote
  obtain ⟨stop, behind, read⟩ := stringRest_of_spells isQuote spells (Cursor.rest_next here)
  have reaches := reaches_lexeme s.here
  rw [scan_of_skipped (skipTrivia_of_not_startsTrivia noTrivia)]
  rw [dispatch, read] at reaches ⊢
  have split : s.here.rest = quote :: (text ++ [quote]) ++ stop.rest := by simp [here, behind]
  have place := reaches.eq_of_rest split
  dsimp only at place
  rw [accept_of_ok rfl, place, behind]
  simp

/-- Each way to write a character, the other quote mark, and a line that ends with two characters. -/
theorem scan_of_spells_mixed :
    Spells '"' "'\\\"\\t\\x4a\\\r\n\\u20aC\\u\x7b001F600\x7d".toList "'\"\tJ€😀".toList ∧
      (ofText "\"'\\\"\\t\\x4a\\\r\n\\u20aC\\u\x7b001F600\x7d\".length".toList).scan =
        { fullStart := 0, start := .ofText
            "\"'\\\"\\t\\x4a\\\r\n\\u20aC\\u\x7b001F600\x7d\".length".toList
          here := ⟨31, ".length".toList⟩, token := .stringLiteral, value := "'\"\tJ€😀"
          lineBreak := false, error? := none } := by
  have spells : Spells '"' "'\\\"\\t\\x4a\\\r\n\\u20aC\\u\x7b001F600\x7d".toList
      "'\"\tJ€😀".toList :=
    .char (.raw (by decide) (by decide) (by decide)) <|
    .char (.escaped (.inl rfl)) <|
    .char (.letter (by decide)) <|
    .char (.byte rfl ⟨[4, 10], .cons (.inl rfl) (.cons (.inl rfl) .nil), rfl⟩) <|
    .join (by decide : ['\\', '\r', '\n'] ∈ lineJoins) <|
    .char (.unit rfl ⟨[2, 0, 10, 12], .cons (.inl rfl) (.cons (.inl rfl) (.cons (.inl rfl)
      (.cons (.inr rfl) .nil))), rfl⟩) <|
    .char (.braced (List.cons_ne_nil '0' ['0', '1', 'F', '6', '0', '0'])
      ⟨[0, 0, 1, 15, 6, 0, 0], .cons (.inl rfl) (.cons (.inl rfl) (.cons (.inl rfl)
        (.cons (.inr rfl) (.cons (.inl rfl) (.cons (.inl rfl) (.cons (.inl rfl) .nil)))))), rfl⟩) <|
    .nil
  exact ⟨spells, scan_of_spells (.inl rfl) spells rfl⟩

end Scanner

end Shapewire
