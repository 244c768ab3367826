/-
Filling a node table while reading.

Here the grammar is used with a table beside the place in the source.  Every node that a parser
has read is added to the table at once, after its parts, and from then on it is known by its place
only.  A parser that reads a construct is handed the places of the parts and hands on the place of
the whole.  In between the parts are nodes without a parent: they get one when the construct that
refers to them is added, and a part that none refers to would stay without.

Names are entered into the table when they are read, before the token behind them.
-/
import Shapewire.Grammar.Descent
import Shapewire.Tree.Arena

namespace Shapewire

/-- Nodes are kept in the table and known by their places, and names by their atoms. -/
instance : Builder Arena NodeId Atom where
  name := do
    let text ← Parser.value
    modifyGet fun s =>
      let (atom, names) := s.built.names.intern text
      (atom, { s with built := { s.built with names } })
  add kind flags span record? :=
    modifyGet fun s =>
      let (place, built) := s.built.add kind flags span (record?.map (Record.map some id id))
      (place, { s with built })

namespace Arena

/-- The node table of a named source, with the place of its root. -/
def parse (file : String) (text : List Char) : Except ParseError (NodeId × Arena) :=
  match (Parser.source file text).run ((Parser.initial text).over forSource) with
  | .ok root s => .ok (root, s.built)
  | .error stop s => .error (stop.report file s.scanner)

end Arena

end Shapewire
