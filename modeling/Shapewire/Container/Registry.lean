/-
Registries: the types a container may choose from.

A registry lists the registered types in order, a type that is registered twice appearing
twice.  Two indices tell for every name which types have it as a member and which as a method;
an index entry keeps the order of registration too.
-/
import Shapewire.Analysis.Shape

namespace Shapewire

/-- For some names, the types registered under each. -/
structure NameIndex (κ : Type) where
  entries : List (String × List κ)
deriving DecidableEq, Repr, Inhabited

namespace NameIndex

variable {κ : Type}

/-- The types under a name, in registration order. -/
def get (i : NameIndex κ) (name : String) : List κ := (i.entries.lookup name).getD []

/-- The entries with a type put at the end of a name's list. -/
def pushEntry (name : String) (key : κ) : List (String × List κ) → List (String × List κ)
  | [] => [(name, [key])]
  | (name', keys) :: entries =>
    if name' = name then (name', keys ++ [key]) :: entries
    else (name', keys) :: pushEntry name key entries

/-- The index with a type put at the end of a name's list. -/
def push (key : κ) (i : NameIndex κ) (name : String) : NameIndex κ :=
  ⟨pushEntry name key i.entries⟩

/-- The index with a type put under each of some names. -/
def pushAll (i : NameIndex κ) (names : List String) (key : κ) : NameIndex κ :=
  names.foldl (push key) i

end NameIndex

/-- The registered types. -/
structure Registry (κ : Type) where
  /-- The types in registration order. -/
  types : List κ
  members : NameIndex κ
  methods : NameIndex κ
deriving DecidableEq, Repr, Inhabited

namespace Registry

variable {κ : Type}

/-- The registry without types. -/
def empty : Registry κ := ⟨[], ⟨[]⟩, ⟨[]⟩⟩

/-- The registry with a type of the given shape put at the end. -/
def insert (r : Registry κ) (key : κ) (shape : Shape) : Registry κ where
  types := r.types ++ [key]
  members := r.members.pushAll shape.members key
  methods := r.methods.pushAll shape.methods key

/-- The types with a member of a name, in registration order. -/
def membersFor (r : Registry κ) (name : String) : List κ := r.members.get name

/-- The types with a method of a name, in registration order. -/
def methodsFor (r : Registry κ) (name : String) : List κ := r.methods.get name

/-- The number of registrations. -/
def size (r : Registry κ) : Nat := r.types.length

/-- Whether no type is registered. -/
def isEmpty (r : Registry κ) : Bool := r.types.isEmpty

end Registry

end Shapewire
