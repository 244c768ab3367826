/-
Definitions of types that a container can build.

A type is known by a key; its definition gives its name, the source of its constructor, which
is what the analyses read, and the factory that builds its instances.  Two types are the same
only if their keys are, however much their definitions agree.

A factory is handed one argument for each parameter of the constructor.  What instances are
(`ι`) and what factories may change in the world around them (`σ`) is left open, so a factory
is a function from arguments and a world to an outcome and a world.
-/
import Shapewire.Analysis.Shape
import Shapewire.Analysis.Usage
import Shapewire.Container.Error

namespace Shapewire

/-- How instances of one form are told from others. -/
structure InstanceForm (ι α : Type) where
  /-- What error messages call the form. -/
  name : String
  /-- The instance as one of this form, if it is. -/
  cast? : ι → Option α

/-- The arguments of a factory, in the order of the constructor's parameters. -/
structure Arguments (ι : Type) where
  values : List ι
deriving DecidableEq, Repr

namespace Arguments

variable {ι α : Type}

/-- The number of arguments. -/
def size (args : Arguments ι) : Nat := args.values.length

/-- The argument at a place, of whatever form. -/
def get (args : Arguments ι) (index : Nat) : Except FactoryError ι :=
  match args.values[index]? with
  | some value => .ok value
  | none => .error (.missingArgument index)

/-- The argument at a place, which must be of the given form. -/
def getAs (args : Arguments ι) (form : InstanceForm ι α) (index : Nat) :
    Except FactoryError α := do
  match form.cast? (← args.get index) with
  | some value => return value
  | none => throw (.argumentType index form.name)

end Arguments

/-- What builds an instance from arguments, in a world that it may change. -/
abbrev Factory (ι σ : Type) := Arguments ι → σ → Except FactoryError ι × σ

/-- A type that a container can build. -/
structure Definition (ι σ : Type) where
  name : String
  /-- The source of the constructor. -/
  source : String
  factory : Factory ι σ
  /-- The parsed source; error messages call it by the type's name. -/
  parsed : Except ParseError SourceTree
  parsed_eq : parsed = SourceTree.parse name source := by rfl

namespace Definition

variable {ι σ : Type}

/-- A type with a factory. -/
def new (name source : String) (factory : Factory ι σ) : Definition ι σ :=
  { name, source, factory, parsed := SourceTree.parse name source }

/-- A type whose factory takes no notice of its arguments and always gives one shared
instance. -/
def ofValue (name source : String) (value : ι) : Definition ι σ :=
  new name source fun _ world => (.ok value, world)

/-- What an analysis finds in the source, if it parses. -/
def analyzed {α : Type} (d : Definition ι σ) (analysis : SourceTree → Except AnalyzeError α) :
    Except AnalyzeError α :=
  match d.parsed with
  | .error e => .error (.parse e)
  | .ok s => analysis s

/-- The names of the constructor's parameters. -/
def parameters (d : Definition ι σ) : Except AnalyzeError (List String) :=
  d.analyzed SourceTree.parameters

/-- What the constructor does with each parameter. -/
def usage (d : Definition ι σ) : Except AnalyzeError UsageRecord :=
  d.analyzed SourceTree.usage

/-- What the type puts on its instances. -/
def shape (d : Definition ι σ) : Except AnalyzeError Shape :=
  d.analyzed fun s => .ok s.shape

/-- The type in one line. -/
def summary (d : Definition ι σ) : String := "Type(" ++ Text.quoteText d.name ++ ")"

end Definition

end Shapewire
