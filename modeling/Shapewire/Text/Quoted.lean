/-
Quoted texts, as messages and printed forms show them.

Inside quote marks a backslash, the enclosing quote mark and the usual controls have
two-character escapes.  Every other character that could not be read off the page,
because it prints nothing or attaches itself to its neighbour, is written as its code
point in hexadecimal.  A text stands in double quotes and a character in single quotes,
and only the enclosing kind of quote mark is escaped.
-/
import Shapewire.Text.Printable
import Shapewire.Text.Extending

namespace Shapewire.Text

/-- The written form of one character between two `quote` marks. -/
def escapeQuoted (quote c : Char) : String :=
  if c == '\x00' then "\\0"
  else if c == '\t' then "\\t"
  else if c == '\r' then "\\r"
  else if c == '\n' then "\\n"
  else if c == '\\' || c == quote then String.ofList ['\\', c]
  else if isExtending c || !isPrintable c then
    "\\u\x7b" ++ String.ofList (Nat.toDigits 16 c.toNat) ++ "\x7d"
  else c.toString

/-- A text in double quotes. -/
def quoteText (s : String) : String :=
  "\"" ++ String.join (s.toList.map (escapeQuoted '"')) ++ "\""

/-- A character in single quotes. -/
def quoteChar (c : Char) : String :=
  "'" ++ escapeQuoted '\'' c ++ "'"

end Shapewire.Text
