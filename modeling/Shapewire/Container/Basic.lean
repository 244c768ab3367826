/-
Containers: registered types and how instances are built from them.

To build an instance of a type, a container finds out what the type's constructor does with
its parameters, chooses a registered type for each, builds an instance of every one of these
in turn, in the order of the parameters, and hands them to the factory.  Nothing is kept from
one time to the next, and a type chosen twice is built twice.

The types under construction form a path.  A type that is on it already would be built from
itself, which is an error before anything else is; and the path may hold `maxResolution` types.
The room left on the path is what the recursion runs on.
-/
import Shapewire.Container.Definition
import Shapewire.Container.Satisfier

namespace Shapewire

/-- The most types that may be under construction at once. -/
def maxResolution : Nat := 128

/-- Types with their definitions, and those of them that are registered. -/
structure Container (κ ι σ : Type) where
  /-- The definition of every type. -/
  definition : κ → Definition ι σ
  registry : Registry κ

/-- What building leaves behind. -/
structure Session (κ σ : Type) where
  world : σ
  /-- The types whose factories have been called, in order. -/
  invoked : List κ
deriving DecidableEq, Repr

/-- A computation that may call factories and may fail. -/
abbrev Resolver (κ σ : Type) := EStateM ContainerError (Session κ σ)

namespace Container

variable {κ ι σ α : Type}

/-- The container without registered types. -/
def empty (definition : κ → Definition ι σ) : Container κ ι σ := ⟨definition, .empty⟩

/-- The registered types, in registration order. -/
def types (c : Container κ ι σ) : List κ := c.registry.types

/-- The name of a type. -/
def nameOf (c : Container κ ι σ) (key : κ) : String := (c.definition key).name

/-- The error of a container for an error of an analysis. -/
def analyzing (c : Container κ ι σ) (key : κ) : Except AnalyzeError α → Except ContainerError α
  | .ok a => .ok a
  | .error e => .error (.analyze (c.nameOf key) e)

/-- The container with a type registered at the end.  Only the source is looked at; no factory
runs. -/
def register (c : Container κ ι σ) (key : κ) : Except ContainerError (Container κ ι σ) := do
  let shape ← c.analyzing key (c.definition key).shape
  return { c with registry := c.registry.insert key shape }

/-- What the constructor of a type does with each parameter. -/
def usageOf (c : Container κ ι σ) (key : κ) : Except ContainerError UsageRecord :=
  c.analyzing key (c.definition key).usage

variable [DecidableEq κ]

/-- The registered types that would satisfy each dependency of a type. -/
def satisfiers (c : Container κ ι σ) (key : κ) : Except ContainerError (SatisfierMap κ) := do
  c.registry.satisfy (c.nameOf key) (← c.usageOf key)

/-! ### Building -/

/-- Calls the factory of a type. -/
def construct (c : Container κ ι σ) (key : κ) (args : Arguments ι) : Resolver κ σ ι := fun s =>
  match (c.definition key).factory args s.world with
  | (.ok value, world) => .ok value ⟨world, s.invoked ++ [key]⟩
  | (.error e, world) =>
    .error (.constructionFailed (c.nameOf key) e) ⟨world, s.invoked ++ [key]⟩

/-- The error of a type that is under construction already: the names from there back to
it. -/
def cycleError (c : Container κ ι σ) (path : List κ) (key : κ) : ContainerError :=
  .cyclic ((path.dropWhile (· ≠ key) ++ [key]).map c.nameOf)

/-- The instances for the dependencies in `entries` of a type, each built by `build`. -/
def resolveArguments (c : Container κ ι σ) (build : κ → Resolver κ σ ι) (key : κ)
    (satisfiers : SatisfierMap κ) : List (String × Usage) → Resolver κ σ (List ι)
  | [] => return []
  | (dependency, usage) :: entries => do
    match satisfiers.chosen? dependency with
    | none =>
      throw (.unsatisfied (c.nameOf key) dependency usage.methods usage.members)
    | some chosen =>
      let value ← build chosen
      return value :: (← resolveArguments c build key satisfiers entries)

/-- Builds an instance of a type while those on `path` are under construction, outermost
first, and `room` more may be. -/
def resolveIn (c : Container κ ι σ) (room : Nat) (path : List κ) (key : κ) : Resolver κ σ ι :=
  if key ∈ path then throw (c.cycleError path key)
  else
    match room with
    | 0 => throw (.tooDeep maxResolution)
    | room + 1 => do
      let record ← liftExcept (c.usageOf key)
      let satisfiers ← liftExcept (c.registry.satisfy (c.nameOf key) record)
      let values ←
        c.resolveArguments (c.resolveIn room (path ++ [key])) key satisfiers record.entries
      c.construct key ⟨values⟩
where
  /-- An outcome that involves no factory. -/
  liftExcept {β : Type} : Except ContainerError β → Resolver κ σ β
    | .ok b => pure b
    | .error e => throw e

/-- Builds an instance of a type with all its dependencies. -/
def resolve (c : Container κ ι σ) (key : κ) : Resolver κ σ ι :=
  c.resolveIn maxResolution [] key

/-- Builds an instance of a type that must be of the given form.  The form is asked for only
once everything is built. -/
def resolveAs (c : Container κ ι σ) (form : InstanceForm ι α) (key : κ) : Resolver κ σ α := do
  match form.cast? (← c.resolve key) with
  | some value => return value
  | none => throw (.instanceType (c.nameOf key) form.name)

end Container

end Shapewire
