/-
Why a constructor cannot be analysed.

Its source may not parse, may hold no function at all, or its function may have two
parameters of one name, between which no record of uses could tell.
-/
import Shapewire.Grammar.Fault

namespace Shapewire

/-- Why a constructor cannot be analysed. -/
inductive AnalyzeError where
  | parse (error : ParseError)
  | noFunction (file : String)
  | duplicateParameter (file name : String)
deriving DecidableEq, Repr, Inhabited

/-- The error as a message. -/
def AnalyzeError.message : AnalyzeError → String
  | parse error => error.message
  | noFunction file => file ++ ": no function found in source"
  | duplicateParameter file name => file ++ ": duplicate parameter '" ++ name ++ "'"

end Shapewire
