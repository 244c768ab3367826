/-
Aliases: names under which an instance keeps what it depends on.

A plain assignment of a parameter itself to the instance's state makes the assigned name an
alias of that parameter, and the last such assignment decides.  Nothing else makes an alias: no
compound assignment, no alias of an alias and no value in parentheses.
-/
import Shapewire.Analysis.Callable
import Shapewire.Analysis.SelfState

namespace Shapewire

/-- The assignments that make aliases, as alias and parameter, in source order. -/
structure AliasTable where
  assigned : List (String × String)
deriving DecidableEq, Repr, Inhabited

namespace AliasTable

/-- The parameter that the alias `name` stands for: the one assigned last. -/
def get? (t : AliasTable) (name : String) : Option String := t.assigned.reverse.lookup name

/-- The number of aliases. -/
def size (t : AliasTable) : Nat := (t.assigned.map Prod.fst).eraseDups.length

/-- Whether there is no alias. -/
def isEmpty (t : AliasTable) : Bool := t.assigned.isEmpty

end AliasTable

namespace Callable

/-- The alias that the assignment at a place makes, with its parameter. -/
def aliasAt? (c : Callable) (a : Arena) (id : NodeId) : Option (String × String) := do
  let (left, right) ← a.assignment? (· == .token .assign) id
  return (← a.selfStateName? (← left), ← c.resolve? a (← right))

/-- The aliases made below a node. -/
def aliases (c : Callable) (a : Arena) (root : NodeId) : AliasTable :=
  ⟨(a.preorder root).filterMap (c.aliasAt? a)⟩

end Callable

/-- The aliases of a parsed source. -/
def SourceTree.aliases (s : SourceTree) : Except AnalyzeError AliasTable :=
  (·.aliases s.arena s.root) <$> s.callable

end Shapewire
