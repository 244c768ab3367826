/-
Escape sequences of names, strings and templates.

A numeric escape gives a character by its code in hexadecimal: `\xHH`, `\uHHHH`, or any
number of digits in braces after `\u`.  Strings and templates know a few letter escapes
besides, let a backslash join two lines, and take any other character after a backslash
for itself.

An escape that cannot be read still tells how far reading got, since the scanner stays
there.  A numeral that cannot be read is not passed; one that can, but is the code of no
character, is.
-/
import Shapewire.Text.Hex
import Shapewire.Text.Cursor

namespace Shapewire

namespace Token

/-- The outcome of reading an escape sequence. -/
inductive Escape where
  /-- The escape stands for a character. -/
  | char (ch : Char) (stop : Cursor)
  /-- The escape joins two lines and stands for nothing. -/
  | join (stop : Cursor)
  /-- The escape is malformed. -/
  | invalid (stop : Cursor)
deriving DecidableEq, Repr

namespace Escape

/-- Where reading stopped. -/
def stop : Escape → Cursor
  | char _ stop | join stop | invalid stop => stop

end Escape

/-- The escape whose numeral takes `digits` characters from `c` on, together with `around`
characters that enclose it. -/
def numericEscape (c : Cursor) (numeral : List Char) (around : Nat) : Escape :=
  match Text.hexNumeral? numeral with
  | none => .invalid c
  | some n =>
    match Text.charOfCode? n with
    | none => .invalid (c.skip (numeral.length + around))
    | some ch => .char ch (c.skip (numeral.length + around))

/-- An escape of exactly `n` hexadecimal digits from `c` on. -/
def fixedEscape (n : Nat) (c : Cursor) : Escape :=
  if (c.rest.take n).length = n then numericEscape c (c.rest.take n) 0 else .invalid c

/-- The rest of a Unicode escape, after its `u`. -/
def unicodeEscape (c : Cursor) : Escape :=
  match c.rest with
  | '\x7b' :: cs =>
    let numeral := cs.takeWhile (· != '\x7d')
    if numeral.length < cs.length then numericEscape c numeral 2 else .invalid c
  | _ => fixedEscape 4 c

/-- The character that a single letter after a backslash stands for. -/
def letterEscape? : Char → Option Char
  | 'n' => some '\n'
  | 't' => some '\t'
  | 'r' => some '\r'
  | 'b' => some '\x08'
  | 'f' => some '\x0c'
  | 'v' => some '\x0b'
  | _ => none

/-- The escape sequence of a string or template whose backslash is at `c`. -/
def escapeSequence (c : Cursor) : Escape :=
  let letter := c.next
  match letter.rest with
  | [] => .invalid letter
  | ch :: cs =>
    let after := letter.next
    match letterEscape? ch with
    | some cooked => .char cooked after
    | none =>
      if ch = '0' ∧ (cs.head?.any Char.isDigit) = false then .char '\x00' after
      else if ch = 'x' then fixedEscape 2 after
      else if ch = 'u' then unicodeEscape after
      else if ch = '\r' ∧ cs.head? = some '\n' then .join after.next
      else if Text.isLineBreak ch then .join after
      else .char ch after

/-! ### Escapes move forward -/

theorem reaches_numericEscape (c : Cursor) (numeral : List Char) (around : Nat) :
    c.Reaches (numericEscape c numeral around).stop := by
  unfold numericEscape
  split
  · exact .refl c
  · split <;> exact Cursor.reaches_skip _ c

theorem reaches_fixedEscape (n : Nat) (c : Cursor) : c.Reaches (fixedEscape n c).stop := by
  unfold fixedEscape
  split
  · exact reaches_numericEscape ..
  · exact .refl c

theorem reaches_unicodeEscape (c : Cursor) : c.Reaches (unicodeEscape c).stop := by
  unfold unicodeEscape
  split
  · dsimp only
    split
    · exact reaches_numericEscape ..
    · exact .refl c
  · exact reaches_fixedEscape ..

/-- An escape sequence takes its backslash and at least tries the character after it. -/
theorem reaches_escapeSequence (c : Cursor) : c.next.Reaches (escapeSequence c).stop := by
  have h := Cursor.reaches_next c.next
  unfold escapeSequence
  dsimp only
  split
  · exact .refl _
  · split
    · exact h
    · split
      · exact h
      · split
        · exact h.trans (reaches_fixedEscape ..)
        · split
          · exact h.trans (reaches_unicodeEscape ..)
          · split
            · exact h.trans (Cursor.reaches_next _)
            · split <;> exact h

end Token

end Shapewire
