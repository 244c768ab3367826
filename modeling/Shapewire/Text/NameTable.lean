/-
Tables that number names.

A source repeats few names often, so the syntax tree refers to each by a number, its
atom.  The table lists the distinct names in the order they were first seen and a name's
atom is its place in that list.  Place zero holds the empty name from the start, so a
zero atom can stand for the lack of a name.
-/

namespace Shapewire

/-- The place of a name in a table. -/
abbrev Atom := Nat

/-- Distinct names in the order they were first seen, the empty one first. -/
structure NameTable where
  names : Array String
deriving DecidableEq, Repr, Inhabited

namespace NameTable

/-- The table that holds only the empty name. -/
def empty : NameTable := ⟨#[""]⟩

/-- The names that occur in nearly every constructor. -/
def commonNames : List String :=
  ["this", "prototype", "constructor", "function", "return", "var", "let", "const", "new",
    "undefined", "null", "true", "false", "console", "log"]

/-- The atom of a name, if the table has it. -/
def lookup (t : NameTable) (name : String) : Option Atom := t.names.idxOf? name

/-- The atom of a name, and the table with the name added if it is new. -/
def intern (t : NameTable) (name : String) : Atom × NameTable :=
  match t.lookup name with
  | some atom => (atom, t)
  | none => (t.names.size, ⟨t.names.push name⟩)

/-- The table with the common names added. -/
def internCommon (t : NameTable) : NameTable :=
  commonNames.foldl (fun t name => (t.intern name).2) t

/-- The name of an atom, if the table has so many. -/
def resolve? (t : NameTable) (atom : Atom) : Option String := t.names[atom]?

/-- The name of an atom, or the empty name. -/
def resolve (t : NameTable) (atom : Atom) : String := (t.resolve? atom).getD ""

/-- The number of names, the empty one included. -/
def size (t : NameTable) : Nat := t.names.size

/-- Whether the table holds no name beside the empty one. -/
def isEmpty (t : NameTable) : Bool := t.size == 1

end NameTable

end Shapewire
