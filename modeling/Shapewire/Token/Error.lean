/-
What can be wrong with a token.

Each cause carries the byte offset it is reported at: the start of the token that does not
end, the backslash of a malformed escape, or the character that starts no token.
-/
import Shapewire.Text.Quoted

namespace Shapewire

/-- A lexical error and where it lies. -/
inductive ScanError where
  | unterminatedString (pos : Nat)
  | unterminatedTemplate (pos : Nat)
  | unterminatedRegex (pos : Nat)
  | unterminatedComment (pos : Nat)
  | invalidEscape (pos : Nat)
  | invalidCharacter (ch : Char) (pos : Nat)
deriving DecidableEq, Repr, Inhabited

namespace ScanError

/-- The byte offset of the error. -/
def pos : ScanError → Nat
  | unterminatedString pos | unterminatedTemplate pos | unterminatedRegex pos
  | unterminatedComment pos | invalidEscape pos | invalidCharacter _ pos => pos

/-- The error as a message. -/
def message : ScanError → String
  | unterminatedString pos => s!"unterminated string literal starting at {pos}"
  | unterminatedTemplate pos => s!"unterminated template literal starting at {pos}"
  | unterminatedRegex pos => s!"unterminated regular expression starting at {pos}"
  | unterminatedComment pos => s!"unterminated comment starting at {pos}"
  | invalidEscape pos => s!"invalid escape sequence at {pos}"
  | invalidCharacter ch pos => "invalid character " ++ Text.quoteChar ch ++ s!" at {pos}"

end ScanError

end Shapewire
