/-
Which registered types satisfy a dependency.

A type is a candidate if it has one of the methods called on the dependency, where any is
called, and one of the members read, where any is read.  A dependency that nothing is done
with has no candidates.  Candidates come in the order in which the names were used and, for
one name, in the order of registration; the first is the one chosen.
-/
import Shapewire.Analysis.Usage
import Shapewire.Container.Error
import Shapewire.Container.Registry

namespace Shapewire

/-- The candidates of every dependency of a type, in declaration order. -/
structure SatisfierMap (κ : Type) where
  entries : List (String × List κ)
deriving DecidableEq, Repr, Inhabited

namespace SatisfierMap

variable {κ : Type}

/-- The candidates of a dependency, the best first. -/
def get? (m : SatisfierMap κ) (dependency : String) : Option (List κ) :=
  m.entries.lookup dependency

/-- The candidate chosen for a dependency. -/
def chosen? (m : SatisfierMap κ) (dependency : String) : Option κ :=
  (m.get? dependency).bind List.head?

/-- The number of dependencies. -/
def size (m : SatisfierMap κ) : Nat := m.entries.length

/-- Whether there is no dependency. -/
def isEmpty (m : SatisfierMap κ) : Bool := m.entries.isEmpty

end SatisfierMap

namespace Registry

variable {κ : Type} [DecidableEq κ]

/-- The registered types that satisfy a dependency used in this way. -/
def candidates (r : Registry κ) (usage : Usage) : List κ :=
  let byMethod := usage.methods.flatMap r.methodsFor
  let byMember := usage.members.flatMap r.membersFor
  match usage.methods.isEmpty, usage.members.isEmpty with
  | false, false => byMethod.filter (· ∈ byMember)
  | false, true => byMethod
  | true, false => byMember
  | true, true => []

/-- The candidates of each of some dependencies of the named type.  The first dependency
without any is an error. -/
def satisfyEntries (r : Registry κ) (typeName : String) :
    List (String × Usage) → Except ContainerError (List (String × List κ))
  | [] => .ok []
  | (dependency, usage) :: entries =>
    match r.candidates usage with
    | [] => .error (.unsatisfied typeName dependency usage.methods usage.members)
    | found => do return (dependency, found) :: (← r.satisfyEntries typeName entries)

/-- The candidates of every dependency of the named type. -/
def satisfy (r : Registry κ) (typeName : String) (record : UsageRecord) :
    Except ContainerError (SatisfierMap κ) :=
  SatisfierMap.mk <$> r.satisfyEntries typeName record.entries

end Registry

end Shapewire
