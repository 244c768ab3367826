/-
The format in which a resolution is logged, chosen by name.

A name counts without its surrounding white space and in any mixture of cases.  No
character outside ASCII has a lower case among the letters of the three names, so folding
the ASCII letters decides them all.
-/

namespace Shapewire

/-- How log lines are laid out. -/
inductive LogFormat where
  /-- One flat line per event. -/
  | text
  /-- Lines indented by the depth of the resolution. -/
  | tree
  /-- One JSON object per event. -/
  | json
deriving DecidableEq, Repr, Inhabited

namespace LogFormat

/-- The characters with the Unicode property White_Space. -/
def isSpace (c : Char) : Bool :=
  (0x09 ≤ c.toNat && c.toNat ≤ 0x0D) || c.toNat == 0x20 || c.toNat == 0x85 || c.toNat == 0xA0
    || c.toNat == 0x1680 || (0x2000 ≤ c.toNat && c.toNat ≤ 0x200A) || c.toNat == 0x2028
    || c.toNat == 0x2029 || c.toNat == 0x202F || c.toNat == 0x205F || c.toNat == 0x3000

/-- A text without the white space at its two ends. -/
def trim (cs : List Char) : List Char :=
  ((cs.dropWhile isSpace).reverse.dropWhile isSpace).reverse

/-- The format of a name; an unknown name means flat text. -/
def ofName (name : String) : LogFormat :=
  let folded := (trim name.toList).map Char.toLower
  if folded = "tree".toList then .tree
  else if folded = "json".toList then .json
  else .text

/-- The written name of a format. -/
def name : LogFormat → String
  | text => "Text"
  | tree => "Tree"
  | json => "Json"

end LogFormat

end Shapewire
