/-
Compact JSON texts of names, lists of names and keyed entries.

No white space is written.  Within a string the quote mark, the backslash and the control
characters are escaped, the latter by a letter where JSON has one and by four hexadecimal
digits otherwise; every other character stands for itself.
-/

namespace Shapewire.Text.Compact

/-- The four-digit escape of a control character. -/
def controlEscape (c : Char) : String :=
  let digits := Nat.toDigits 16 c.toNat
  "\\u" ++ String.ofList (List.replicate (4 - digits.length) '0' ++ digits)

/-- The written form of one character of a string. -/
def escape (c : Char) : String :=
  if c == '"' then "\\\""
  else if c == '\\' then "\\\\"
  else if c == '\n' then "\\n"
  else if c == '\r' then "\\r"
  else if c == '\t' then "\\t"
  else if c == '\x08' then "\\b"
  else if c == '\x0c' then "\\f"
  else if c.toNat < 0x20 then controlEscape c
  else c.toString

/-- A JSON string. -/
def string (s : String) : String :=
  "\"" ++ String.join (s.toList.map escape) ++ "\""

/-- A JSON array of strings. -/
def strings (names : List String) : String :=
  "[" ++ String.intercalate "," (names.map string) ++ "]"

/-- A JSON object whose values are already written. -/
def object (entries : List (String × String)) : String :=
  let fields := entries.map fun (key, value) => string key ++ ":" ++ value
  "\x7b" ++ String.intercalate "," fields ++ "\x7d"

end Shapewire.Text.Compact
