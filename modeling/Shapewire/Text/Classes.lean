/-
The character classes of the constructor language.

Four classes decide how a source splits into tokens: line breaks, blanks within a
line, the characters that may start a name and those that may continue one.  Within
ASCII the two name classes are letters, digits, `$` and `_`; beyond it they are
the Unicode properties tabulated in `Text.Alphabetic` and `Text.Numeric`.  Digits of
numbers are ASCII digits only.
-/
import Shapewire.Text.Alphabetic
import Shapewire.Text.Numeric

namespace Shapewire.Text

/-- The four line terminators: line feed, carriage return and the Unicode line and
paragraph separators. -/
def isLineBreak (c : Char) : Bool :=
  c == '\n' || c == '\r' || c == '\u2028' || c == '\u2029'

/-- White space that does not end a line: the byte order mark, tab, vertical tab, form
feed and the space separators. -/
def isBlank (c : Char) : Bool :=
  c == ' ' || c == '\t' || c == '\u000B' || c == '\u000C' || c == '\u00A0' || c == '\uFEFF'
    || c == '\u1680' || c == '\u202F' || c == '\u205F' || c == '\u3000'
    || (0x2000 ≤ c.toNat && c.toNat ≤ 0x200A)

/-- Whether the character belongs to ASCII. -/
def isAscii (c : Char) : Bool := c.toNat < 0x80

/-- A character that may start a name. -/
def isNameStart (c : Char) : Bool :=
  c.isAlpha || c == '$' || c == '_' || (!isAscii c && isAlphabetic c)

/-- A character that may continue a name: beside those that may start one, digits,
numeric characters and the two zero-width joiners. -/
def isNamePart (c : Char) : Bool :=
  c.isAlphanum || c == '$' || c == '_' || (!isAscii c && (isAlphabetic c || isNumeric c))
    || c == '\u200C' || c == '\u200D'

/-- A digit of a binary number. -/
def isBinaryDigit (c : Char) : Bool := c == '0' || c == '1'

/-- A digit of an octal number. -/
def isOctalDigit (c : Char) : Bool := '0' ≤ c && c ≤ '7'

/-- A digit of a hexadecimal number, in either case. -/
def isHexDigit (c : Char) : Bool :=
  c.isDigit || ('a' ≤ c && c ≤ 'f') || ('A' ≤ c && c ≤ 'F')

/-- What may start a name may continue one. -/
theorem isNamePart_of_isNameStart {c : Char} (h : isNameStart c = true) :
    isNamePart c = true := by
  simp only [isNameStart, isNamePart, Char.isAlphanum, Bool.or_eq_true, Bool.and_eq_true] at *
  rcases h with ((h | h) | h) | ⟨h, h'⟩ <;> simp [*]

end Shapewire.Text
