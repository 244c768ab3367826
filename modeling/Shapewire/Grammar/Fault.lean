/-
What can be wrong with a source.

Reading a source stops at the first fault: a token other than the one expected, a fault
within a token, or constructs nested more deeply than allowed.  An error names the source
beside the fault.
-/
import Shapewire.Token.Error

namespace Shapewire

/-- The most constructs that may be open around any part of a source. -/
def maxNesting : Nat := 128

/-- What is wrong with a source. -/
inductive Fault where
  /-- At `pos` something else was found than what was expected there. -/
  | unexpected (pos : Nat) (expected found : String)
  | lexical (error : ScanError)
  /-- At `pos` more than `limit` constructs are open. -/
  | nestingTooDeep (pos limit : Nat)
deriving DecidableEq, Repr, Inhabited

/-- The byte offset of a fault. -/
def Fault.pos : Fault → Nat
  | unexpected pos _ _ | nestingTooDeep pos _ => pos
  | lexical error => error.pos

/-- A fault in a named source. -/
structure ParseError where
  file : String
  fault : Fault
deriving DecidableEq, Repr, Inhabited

namespace ParseError

/-- The byte offset of the error. -/
def pos (e : ParseError) : Nat := e.fault.pos

/-- The error as a message. -/
def message (e : ParseError) : String :=
  match e.fault with
  | .unexpected pos expected found => s!"{e.file}:{pos}: expected {expected}, found {found}"
  | .lexical error => e.file ++ ": " ++ error.message
  | .nestingTooDeep pos limit => s!"{e.file}:{pos}: nesting exceeds {limit} levels"

end ParseError

end Shapewire
