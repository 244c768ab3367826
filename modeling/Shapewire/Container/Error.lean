/-
Why something cannot be built.

A factory refuses its arguments or gives a reason of its own.  A container names the type
concerned: its source cannot be analysed, nothing registered satisfies one of its
dependencies, it depends on itself, the chain of dependencies is too long, its factory fails,
or its instance is not of the form asked for.
-/
import Shapewire.Analysis.Error

namespace Shapewire

/-- Why a factory fails. -/
inductive FactoryError where
  | missingArgument (index : Nat)
  /-- The argument is not of the form that goes by the name `expected`. -/
  | argumentType (index : Nat) (expected : String)
  | custom (message : String)
deriving DecidableEq, Repr, Inhabited

/-- The error as a message. -/
def FactoryError.message : FactoryError → String
  | missingArgument index => s!"missing argument {index}"
  | argumentType index expected => s!"argument {index} is not a {expected}"
  | custom message => message

/-- Why a container fails. -/
inductive ContainerError where
  | analyze (typeName : String) (cause : AnalyzeError)
  /-- No registered type has what the source does with the dependency. -/
  | unsatisfied (typeName dependency : String) (methods members : List String)
  /-- The names on the way from a type back to itself. -/
  | cyclic (path : List String)
  | tooDeep (limit : Nat)
  | constructionFailed (typeName : String) (cause : FactoryError)
  /-- The instance is not of the form that goes by the name `expected`. -/
  | instanceType (typeName expected : String)
deriving DecidableEq, Repr, Inhabited

/-- Names with commas between them, in brackets. -/
def bracketed (names : List String) : String := "[" ++ String.intercalate ", " names ++ "]"

/-- The error as a message. -/
def ContainerError.message : ContainerError → String
  | analyze typeName cause => "cannot analyze type '" ++ typeName ++ "': " ++ cause.message
  | unsatisfied typeName dependency methods members =>
    "no registered type satisfies dependency '" ++ dependency ++ "' of '" ++ typeName
      ++ "'\n  Methods called: " ++ bracketed methods ++ "\n  Members accessed: "
      ++ bracketed members
  | cyclic path => "cyclic dependency: " ++ String.intercalate " -> " path
  | tooDeep limit => s!"dependency chain exceeds {limit} levels"
  | constructionFailed typeName cause =>
    "factory for '" ++ typeName ++ "' failed: " ++ cause.message
  | instanceType typeName expected =>
    "instance of '" ++ typeName ++ "' is not a " ++ expected

end Shapewire
