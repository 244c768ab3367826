/-
Shapes: what a type puts on its own instances.

Every assignment to the instance's state, at any depth of the source, contributes the
assigned name: as a method if the value is a function, any parentheses around it removed, and
as a member otherwise.  Compound assignments count like plain ones.  A name assigned in both
ways is both.
-/
import Shapewire.Analysis.Error
import Shapewire.Analysis.SelfState
import Shapewire.Text.Compact
import Shapewire.Tree.Source

namespace Shapewire

/-- The names a type puts on its instances, each once, in the order they first occur. -/
structure Shape where
  members : List String
  methods : List String
deriving DecidableEq, Repr, Inhabited

namespace Shape

/-- Whether the type puts nothing on its instances. -/
def isEmpty (s : Shape) : Bool := s.members.isEmpty && s.methods.isEmpty

/-- The shape as a JSON text. -/
def json (s : Shape) : String :=
  Text.Compact.object
    [("members", Text.Compact.strings s.members), ("methods", Text.Compact.strings s.methods)]

end Shape

namespace Arena

/-- The name that the assignment at a place gives to the instance's state, and whether its
value is a function. -/
def selfAssignment? (a : Arena) (id : NodeId) : Option (String × Bool) := do
  let (left, right) ← a.assignment? NodeKind.isAssignment id
  return (← a.selfStateName? (← left), a.isFunctionValue right)

/-- The shape of everything below a node. -/
def shape (a : Arena) (root : NodeId) : Shape :=
  let assigned := (a.preorder root).filterMap a.selfAssignment?
  let named (isMethod : Bool) := ((assigned.filter (·.2 == isMethod)).map Prod.fst).eraseDups
  { members := named false, methods := named true }

end Arena

/-- The shape of a parsed source. -/
def SourceTree.shape (s : SourceTree) : Shape := s.arena.shape s.root

end Shapewire
