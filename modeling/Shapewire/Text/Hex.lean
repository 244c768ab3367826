/-
Hexadecimal numerals as escapes write them.

A numeral is a non-empty run of hexadecimal digits of either case, optionally after one
plus sign, whose value fits in 32 bits.  Leading zeros are free, so the number of digits
has no bound.
-/
import Shapewire.Text.Classes

namespace Shapewire.Text

/-- The value of a hexadecimal digit. -/
def hexValue? (c : Char) : Option Nat :=
  if c.isDigit then some (c.toNat - '0'.toNat)
  else if 'a' ≤ c && c ≤ 'f' then some (c.toNat - 'a'.toNat + 10)
  else if 'A' ≤ c && c ≤ 'F' then some (c.toNat - 'A'.toNat + 10)
  else none

/-- The value that digits add to the value `n` of those before them, unless one of them
is no digit. -/
def hexDigits? (n : Nat) : List Char → Option Nat
  | [] => some n
  | c :: cs => (hexValue? c).bind fun d => hexDigits? (16 * n + d) cs

/-- The value of a numeral without a sign. -/
def hexUnsigned? : List Char → Option Nat
  | [] => none
  | c :: cs => (hexDigits? 0 (c :: cs)).filter (· < UInt32.size)

/-- The value of a hexadecimal numeral. -/
def hexNumeral? : List Char → Option Nat
  | '+' :: cs => hexUnsigned? cs
  | cs => hexUnsigned? cs

/-- The character with code `n`, if `n` is the code of one. -/
def charOfCode? (n : Nat) : Option Char :=
  if h : n.isValidChar then some (Char.ofNatAux n h) else none

end Shapewire.Text
