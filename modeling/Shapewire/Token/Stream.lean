/-
Runs of tokens.

`Scanner.tokens` reads a source to its end or to its first fault and lists every state on
the way, so the last one is always the end or the fault.  `Scanner.afterBrackets?` reads on
until the brackets open around the current place are closed; brackets of all three forms
count alike, since a grammar that looks ahead need not know yet how they pair up.
-/
import Shapewire.Token.Progress

namespace Shapewire

namespace Scanner

/-- The states after each further token, up to the end of the source or the first fault. -/
def tokens (s : Scanner) : List Scanner :=
  if _h : s.scan.isDone then [s.scan]
  else s.scan :: tokens s.scan
termination_by s.here.rest.length
decreasing_by exact length_scan_lt (by simpa using _h)

/-- The tokens of a source, up to its end or its first fault. -/
def tokenize (text : List Char) : List Scanner := tokens (ofText text)

/-- A mark that opens a bracket. -/
def opensBracket : TokenKind → Bool
  | .openParen | .openBracket | .openBrace => true
  | _ => false

/-- A mark that closes a bracket. -/
def closesBracket : TokenKind → Bool
  | .closeParen | .closeBracket | .closeBrace => true
  | _ => false

/-- The state at the mark that closes the outermost of `depth` open brackets, if it comes
before the end of the source and any fault. -/
def afterBrackets? (depth : Nat) (s : Scanner) : Option Scanner :=
  if depth = 0 then some s
  else if h : s.scan.isDone then none
  else if opensBracket s.scan.token then afterBrackets? (depth + 1) s.scan
  else if closesBracket s.scan.token then afterBrackets? (depth - 1) s.scan
  else afterBrackets? depth s.scan
termination_by s.here.rest.length
decreasing_by all_goals exact length_scan_lt (by simpa using h)

end Scanner

end Shapewire
