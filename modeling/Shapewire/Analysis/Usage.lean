/-
Usage: what a constructor does with each of its parameters.

Every access to a member of a parameter, or of an alias of one, counts for that parameter,
anywhere in the source.  It counts as a method if the access is called or constructed and as a
member otherwise.  Repeated accesses count repeatedly, in source order.
-/
import Shapewire.Analysis.Alias
import Shapewire.Text.Compact

namespace Shapewire

/-- The names accessed on one dependency, in source order and with repeats. -/
structure Usage where
  members : List String
  methods : List String
deriving DecidableEq, Repr, Inhabited

namespace Usage

/-- Whether nothing is accessed. -/
def isEmpty (u : Usage) : Bool := u.members.isEmpty && u.methods.isEmpty

/-- The usage as a JSON text. -/
def json (u : Usage) : String :=
  Text.Compact.object
    [("members", Text.Compact.strings u.members), ("methods", Text.Compact.strings u.methods)]

end Usage

/-- The usage of every parameter, in declaration order. -/
structure UsageRecord where
  entries : List (String × Usage)
deriving DecidableEq, Repr, Inhabited

namespace UsageRecord

/-- The names of the parameters, in declaration order. -/
def parameters (r : UsageRecord) : List String := r.entries.map Prod.fst

/-- The usage of a parameter. -/
def get? (r : UsageRecord) (parameter : String) : Option Usage := r.entries.lookup parameter

/-- The record as a JSON text. -/
def json (r : UsageRecord) : String :=
  Text.Compact.object (r.entries.map fun (parameter, usage) => (parameter, usage.json))

end UsageRecord

/-- An access that counts for a parameter. -/
structure Access where
  parameter : String
  name : String
  /-- Whether the access is called or constructed. -/
  called : Bool
deriving DecidableEq, Repr, Inhabited

namespace Callable

/-- The parameter that the node at a place stands for, itself or by an alias. -/
def dependency? (c : Callable) (a : Arena) (aliases : AliasTable) (id : NodeId) :
    Option String :=
  match c.resolve? a id with
  | some parameter => some parameter
  | none => (a.selfStateName? id).bind aliases.get?

/-- The access at a place, if it counts for a parameter. -/
def accessAt? (c : Callable) (a : Arena) (aliases : AliasTable) (id : NodeId) :
    Option Access := do
  let (object, name) ← a.memberAccess? id
  let parameter ← c.dependency? a aliases (← object)
  return { parameter, name, called := a.isCallee id }

/-- What a list of accesses does with one parameter. -/
def usageOf (accesses : List Access) (parameter : String) : Usage :=
  let named (called : Bool) :=
    (accesses.filter fun x => x.parameter == parameter && x.called == called).map Access.name
  { members := named false, methods := named true }

/-- The usage of every parameter below a node. -/
def usage (c : Callable) (a : Arena) (root : NodeId) : UsageRecord :=
  let accesses := (a.preorder root).filterMap (c.accessAt? a (c.aliases a root))
  ⟨c.parameters.map fun parameter => (parameter, usageOf accesses parameter)⟩

end Callable

/-- The usage record of a parsed source. -/
def SourceTree.usage (s : SourceTree) : Except AnalyzeError UsageRecord :=
  (·.usage s.arena s.root) <$> s.callable

/-! ### Sources without a name -/

/-- The name of a source that has none. -/
def anonymousFile : String := "<source>"

/-- Parses a source and analyses it. -/
def analyzeText {α : Type} (analysis : SourceTree → Except AnalyzeError α) (file text : String) :
    Except AnalyzeError α :=
  match SourceTree.parse file text with
  | .error e => .error (.parse e)
  | .ok s => analysis s

end Shapewire
