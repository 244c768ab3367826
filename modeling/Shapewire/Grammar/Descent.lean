/-
The grammar as a whole.

`parseAt` ties the knot: with a budget of `n + 1` it reads a part of the grammar and hands
every part within it a budget of `n`.  A budget that grows with the length of the source is
always enough.  Between two consumed characters the descent goes through five parts at most,
from a statement to an assignment, an operand, a unary expression and a construction, and
no loop makes more turns than there are characters left.
-/
import Shapewire.Grammar.Statement

namespace Shapewire

namespace Parser

variable {σ ρ ν : Type} [Builder σ ρ ν]

/-- What a part of the grammar reads. -/
def production (d : Descent σ ρ) : Nonterminal → ParserM σ ρ
  | .statement => nested d.statementBody
  | .assignment => nested d.assignmentBody
  | .operand min => d.operand min
  | .unary => d.unary
  | .construction => d.construction

/-- Reads a part of the grammar with a budget. -/
def parseAt : Nat → Nonterminal → ParserM σ ρ
  | 0 => fun _ => throw .exhausted
  | n + 1 => production ⟨n + 1, parseAt n⟩

/-- The budget for a source of so many characters. -/
def budget (length : Nat) : Nat := 5 * length + 5

/-- Whether a statement of the source follows. -/
def sourceGoesOn : ParserM σ Bool := return !(← isToken .endOfFile)

/-- A whole source, whose tree covers it from its first byte to its last. -/
def source (file : String) (text : List Char) : ParserM σ ρ := do
  advance
  let n := budget text.length
  let statements ← repeatWhile (n + 1) sourceGoesOn (parseAt n .statement)
  Builder.add .sourceFile .none ⟨0, Text.byteLength text⟩ (some (.sourceFile file statements))

/-- The state before the first token of a source. -/
def initial (text : List Char) : ParserState := { scanner := .ofText text, built := () }

end Parser

/-- The error that names a source which is given up at the current token. -/
def Stop.report (file : String) (s : Scanner) : Stop → ParseError
  | .fault f => ⟨file, f⟩
  | .exhausted => ⟨file, .nestingTooDeep s.tokenPos maxNesting⟩

/-- The tree of a named source. -/
def Tree.parse (file : String) (text : List Char) : Except ParseError Tree :=
  match (Parser.source file text).run (Parser.initial text) with
  | .ok tree _ => .ok tree
  | .error stop s => .error (stop.report file s.scanner)

end Shapewire
