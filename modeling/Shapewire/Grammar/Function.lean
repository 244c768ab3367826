/-
Functions and the blocks they run.

A function of any form has a list of parameters and a body.  Its own flags decide the
context of both: within a generator `yield` is an operator and within an asynchronous
function `await` is.  An arrow function is read a little differently.  Its parameters belong
to the context around it, its body may be a single expression, and it never makes `yield` an
operator.
-/
import Shapewire.Grammar.Lookahead

namespace Shapewire

namespace Descent

open Shapewire.Parser

variable {σ ρ ν : Type} [Builder σ ρ ν]

/-- Whether a statement of a block follows.  At the end of the source the block is not
closed. -/
def blockGoesOn : ParserM σ Bool := do
  match ← token with
  | .closeBrace => return false
  | .endOfFile => unexpected "\x7d"
  | _ => return true

/-- Statements in braces. -/
def block (d : Descent σ ρ) : ParserM σ ρ := do
  let start ← pos
  expect .openBrace
  let statements ← allowIn (repeatWhile d.turns blockGoesOn d.statement)
  expect .closeBrace
  finish .block start (.block statements)

/-- One parameter: a name, perhaps with a default, or a name for all that remain. -/
def parameter (d : Descent σ ρ) : ParserM σ ρ := do
  let start ← pos
  let rest ← accept .ellipsis
  let name ← identifier
  let hasDefault ← if rest then pure false else accept .assign
  let initializer ← if hasDefault then some <$> allowIn d.assignment else pure none
  finish .parameter start (.parameter rest name initializer)

/-- Parameters in parentheses. -/
def parameterList (d : Descent σ ρ) : ParserM σ (List ρ) := do
  expect .openParen
  let parameters ← commaList d.turns .closeParen d.parameter
  expect .closeParen
  return parameters

/-- The context within a function that carries `flags`. -/
def bodyContext (flags : NodeFlags) (c : Context) : Context :=
  { c with yieldIsOperator := flags.has .generator, awaitIsOperator := flags.has .async }

/-- The context within an arrow function that carries `flags`. -/
def arrowContext (flags : NodeFlags) (c : Context) : Context :=
  { bodyContext flags c with yieldIsOperator := false }

/-- The parameters and the body of a function that is not an arrow. -/
def functionRest (d : Descent σ ρ) (kind : NodeKind) (start : Nat) (name : Option ρ)
    (flags : NodeFlags) : ParserM σ ρ := do
  let (parameters, body) ← withContext (bodyContext flags) do
    let parameters ← d.parameterList
    let body ← d.block
    return (parameters, body)
  flagged kind flags start (.function name parameters body false)

/-- `function` with what may stand before and behind it, and the flags that says. -/
def functionHead : ParserM σ NodeFlags := do
  let isAsync ← isWord "async"
  if isAsync then advance
  expect .functionKeyword
  let isGenerator ← accept .star
  return (NodeFlags.async.onlyIf isAsync).union (NodeFlags.generator.onlyIf isGenerator)

/-- A declaration of a function, which has a name. -/
def functionDeclaration (d : Descent σ ρ) : ParserM σ ρ := do
  let start ← pos
  let flags ← functionHead
  let name ← identifier
  d.functionRest .functionDeclaration start (some name) flags

/-- A function as a value, which may have a name. -/
def functionExpression (d : Descent σ ρ) : ParserM σ ρ := do
  let start ← pos
  let flags ← functionHead
  let name ← if ← isToken .identifier then some <$> identifier else pure none
  d.functionRest .functionExpression start name flags

/-- The parameters of an arrow function: a list, or one name alone. -/
def arrowParameters (d : Descent σ ρ) : ParserM σ (List ρ) := do
  if ← isToken .identifier then
    let start ← pos
    let name ← identifier
    return [← finish .parameter start (.parameter false name none)]
  else d.parameterList

/-- An arrow function. -/
def arrowFunction (d : Descent σ ρ) : ParserM σ ρ := do
  let start ← pos
  let isAsync ← startsAsyncArrow
  if isAsync then advance
  let flags := NodeFlags.async.onlyIf isAsync
  let parameters ← d.arrowParameters
  expect .arrow
  let body ← withContext (arrowContext flags) do
    if ← isToken .openBrace then d.block else d.assignment
  flagged .arrowFunction flags start (.function none parameters body true)

end Descent

end Shapewire
