/-
Parsed sources.

A parsed source keeps its name and text and the node table that was filled while the text was read,
whose last node is the root.  Nothing else is kept of the reading.  What the table says about the
source is said by its syntax tree too: `tree` reads it once more, as a tree.
-/
import Shapewire.Grammar.Filling
import Shapewire.Text.Quoted
import Shapewire.Tree.Walk

namespace Shapewire

/-- A source with its node table. -/
structure SourceTree where
  file : String
  text : String
  /-- The node table. -/
  arena : Arena
  /-- The root, which is the last node. -/
  root : NodeId
  read : Arena.parse file text.toList = .ok (root, arena)

namespace SourceTree

/-- Reads a source; the name only serves its error messages. -/
def parse (file text : String) : Except ParseError SourceTree :=
  match read : Arena.parse file text.toList with
  | .error e => .error e
  | .ok (root, arena) => .ok { file, text, arena, root, read }

/-- The syntax tree of the source. -/
def tree (s : SourceTree) : Tree := (Tree.parse s.file s.text.toList).toOption.getD default

/-- The bytes a node covers. -/
def spanOf (s : SourceTree) (id : NodeId) : Option Span := (s.arena.get? id).map Node.span

/-- The text a node covers. -/
def textOf (s : SourceTree) (id : NodeId) : Option String :=
  ((s.spanOf id).bind (·.slice s.text.toList)).map String.ofList

/-- A parsed source in one line: its name, the number of nodes and the root. -/
def summary (s : SourceTree) : String :=
  "SourceTree \x7b file_name: " ++ Text.quoteText s.file ++ s!", nodes: {s.arena.size}"
    ++ s!", root: NodeIndex({s.root}) \x7d"

end SourceTree

end Shapewire
