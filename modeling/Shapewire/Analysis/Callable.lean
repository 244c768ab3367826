/-
The constructor of a source and references to its parameters.

The constructor is the first function of any form.  Its parameters are what it depends on,
so no two may share a name.  An identifier refers to a parameter of the constructor if it has
the parameter's name and no other function around it has a parameter of that name.
-/
import Shapewire.Analysis.Error
import Shapewire.Tree.Source

namespace Shapewire

/-- The constructor of a source. -/
structure Callable where
  /-- Where its node is. -/
  id : NodeId
  /-- The names of its parameters, in declaration order. -/
  parameters : List String
deriving DecidableEq, Repr, Inhabited

/-- The first name that occurs a second time. -/
def firstRepeat? (seen : List String) : List String → Option String
  | [] => none
  | name :: names => if name ∈ seen then some name else firstRepeat? (name :: seen) names

namespace Callable

/-- The constructor below a node of the named source. -/
def find (file : String) (a : Arena) (root : NodeId) : Except AnalyzeError Callable :=
  match a.firstFunction? root with
  | none => .error (.noFunction file)
  | some id =>
    let parameters := a.parameterNames id
    match firstRepeat? [] parameters with
    | some name => .error (.duplicateParameter file name)
    | none => .ok { id, parameters }

/-- Whether a function around a place other than the constructor has a parameter `name`. -/
def shadows (c : Callable) (a : Arena) (id : NodeId) (name : String) : Bool :=
  (a.ancestors id).any fun ancestor =>
    ancestor != c.id && a.isFunction ancestor && (a.parameterNames ancestor).contains name

/-- The parameter that the node at a place refers to, if it is an identifier that refers to
one. -/
def resolve? (c : Callable) (a : Arena) (id : NodeId) : Option String := do
  let name ← a.identifierText? id
  guard (c.parameters.contains name && !c.shadows a id name)
  return name

end Callable

/-- The constructor of a parsed source. -/
def SourceTree.callable (s : SourceTree) : Except AnalyzeError Callable :=
  Callable.find s.file s.arena s.root

/-- The names of the constructor's parameters, in declaration order. -/
def SourceTree.parameters (s : SourceTree) : Except AnalyzeError (List String) :=
  Callable.parameters <$> s.callable

end Shapewire
