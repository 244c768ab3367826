/-
Statements.

The first token of a statement decides its form; only a name needs a look ahead, since it may
start a label, an asynchronous function or an expression.  Statements end with a semicolon,
which may be left out before a closing brace, at a line end and at the end of the source.
-/
import Shapewire.Grammar.Expression

namespace Shapewire

namespace Descent

open Shapewire.Parser

variable {σ ρ ν : Type} [Builder σ ρ ν]

/-- An expression as a statement. -/
def expressionStatement (d : Descent σ ρ) : ParserM σ ρ := do
  let start ← pos
  let e ← d.expression
  endStatement
  finish .expressionStatement start (.wrapped (some e))

/-- A semicolon alone. -/
def emptyStatement : ParserM σ ρ := do
  let start ← pos
  advance
  finishLeaf .emptyStatement start

/-! ### Declarations of variables -/

/-- One variable with its initial value, which may be missing. -/
def declaration (d : Descent σ ρ) : ParserM σ ρ := do
  let start ← pos
  let name ← identifier
  let initializer ← if ← accept .assign then some <$> d.assignment else pure none
  finish .variableDeclaration start (.declaration name initializer)

/-- The flags of a list of declarations that starts with the given word. -/
def listFlags : TokenKind → NodeFlags
  | .letKeyword => .letList
  | .constKeyword => .constList
  | _ => .none

/-- A list of declarations with the word that introduces it. -/
def variableList (d : Descent σ ρ) : ParserM σ ρ := do
  let start ← pos
  let flags := listFlags (← token)
  advance
  let declarations ← commaSequence d.turns d.declaration
  flagged .variableList flags start (.declarationList declarations)

/-- A list of declarations as a statement. -/
def variableStatement (d : Descent σ ρ) : ParserM σ ρ := do
  let start ← pos
  let list ← d.variableList
  endStatement
  finish .variableStatement start (.wrapped (some list))

/-! ### Branches and loops -/

/-- A branch; `else` belongs to the nearest `if` before it. -/
def ifStatement (d : Descent σ ρ) : ParserM σ ρ := do
  let start ← pos
  expect .ifKeyword
  let condition ← d.condition
  let whenTrue ← d.statement
  let whenFalse ← if ← accept .elseKeyword then some <$> d.statement else pure none
  finish .ifStatement start (.branch condition whenTrue whenFalse)

/-- A loop that tests after its body. -/
def doStatement (d : Descent σ ρ) : ParserM σ ρ := do
  let start ← pos
  expect .doKeyword
  let body ← d.statement
  expect .whileKeyword
  let condition ← d.condition
  let _ ← accept .semicolon
  finish .doStatement start (.loop none (some condition) none body)

/-- A loop that tests before its body. -/
def whileStatement (d : Descent σ ρ) : ParserM σ ρ := do
  let start ← pos
  expect .whileKeyword
  let condition ← d.condition
  let body ← d.statement
  finish .whileStatement start (.loop none (some condition) none body)

/-- Whether the token is one of the words that introduce a list of declarations. -/
def introducesVariables : TokenKind → Bool
  | .varKeyword | .letKeyword | .constKeyword => true
  | _ => false

/-- What stands before the first semicolon, or before `in` or `of`, in the head of a loop. -/
def forInitializer (d : Descent σ ρ) : ParserM σ (Option ρ) := do
  if ← isToken .semicolon then return none
  else
    some <$> withContext ({ · with noIn := true }) do
      if introducesVariables (← token) then d.variableList else d.expression

/-- The rest of a loop over what `subject` reads, from `in` or `of` on. -/
def iterationRest (d : Descent σ ρ) (kind : NodeKind) (start : Nat) (initializer : Option ρ)
    (subject : ParserM σ ρ) : ParserM σ ρ := do
  match initializer with
  | none => unexpected "for loop variable"
  | some binding =>
    advance
    let subject ← allowIn subject
    expect .closeParen
    let body ← d.statement
    finish kind start (.iteration binding subject body)

/-- The rest of a loop with three parts in its head, from the first semicolon on. -/
def forRest (d : Descent σ ρ) (start : Nat) (initializer : Option ρ) : ParserM σ ρ := do
  expect .semicolon
  let condition ← if ← isToken .semicolon then pure none else some <$> allowIn d.expression
  expect .semicolon
  let incrementor ← if ← isToken .closeParen then pure none else some <$> allowIn d.expression
  expect .closeParen
  let body ← d.statement
  finish .forStatement start (.loop initializer condition incrementor body)

/-- The three loops that start with `for`. -/
def forStatement (d : Descent σ ρ) : ParserM σ ρ := do
  let start ← pos
  expect .forKeyword
  expect .openParen
  let initializer ← d.forInitializer
  if ← isToken .inKeyword then d.iterationRest .forInStatement start initializer d.expression
  else if ← isWord "of" then d.iterationRest .forOfStatement start initializer d.assignment
  else d.forRest start initializer

/-! ### Leaving -/

/-- A `return`, whose value may be missing. -/
def returnStatement (d : Descent σ ρ) : ParserM σ ρ := do
  let start ← pos
  advance
  let e ← if ← mayEndStatement then pure none else some <$> d.expression
  endStatement
  finish .returnStatement start (.wrapped e)

/-- A `throw`, which has a value. -/
def throwStatement (d : Descent σ ρ) : ParserM σ ρ := do
  let start ← pos
  advance
  let e ← d.expression
  endStatement
  finish .throwStatement start (.wrapped (some e))

/-- A `break` or `continue`; a label must stand on the same line. -/
def jumpStatement (kind : NodeKind) : ParserM σ ρ := do
  let start ← pos
  advance
  let hasLabel := (← isToken .identifier) && !(← lineBreak)
  let label ← if hasLabel then some <$> identifier else pure none
  endStatement
  finish kind start (.jump label)

/-! ### Faults, switches and labels -/

/-- The handler of a `try`, if there is one. -/
def catchClause (d : Descent σ ρ) : ParserM σ (Option ρ) := do
  if ← isToken .catchKeyword then
    let start ← pos
    advance
    let name ← if ← accept .openParen then do
        let name ← identifier
        expect .closeParen
        pure (some name)
      else pure none
    let body ← d.block
    some <$> finish .catchClause start (.handler name body)
  else return none

/-- A `try` with a handler, a final block or both. -/
def tryStatement (d : Descent σ ρ) : ParserM σ ρ := do
  let start ← pos
  expect .tryKeyword
  let body ← d.block
  let onFault ← d.catchClause
  let finalizer ← if ← accept .finallyKeyword then some <$> d.block else pure none
  if onFault.isNone && finalizer.isNone then unexpected "catch or finally"
  finish .tryStatement start (.attempt body onFault finalizer)

/-- Whether a statement of a clause follows. -/
def clauseGoesOn : ParserM σ Bool := do
  match ← token with
  | .caseKeyword | .defaultKeyword | .closeBrace => return false
  | .endOfFile => unexpected "\x7d"
  | _ => return true

/-- A clause of a `switch`. -/
def caseClause (d : Descent σ ρ) : ParserM σ ρ := do
  let start ← pos
  let (kind, test) ← match ← token with
    | .caseKeyword => do
      advance
      let test ← allowIn d.expression
      pure (NodeKind.caseClause, some test)
    | .defaultKeyword => do
      advance
      pure (NodeKind.defaultClause, none)
    | _ => unexpected "case or default"
  expect .colon
  let statements ← allowIn (repeatWhile d.turns clauseGoesOn d.statement)
  finish kind start (.clause test statements)

/-- The clauses of a `switch` up to its closing brace; only one may be the default. -/
def caseClauses (d : Descent σ ρ) (seenDefault : Bool) : Nat → ParserM σ (List ρ)
  | 0 => throw .exhausted
  | turns + 1 => do
    if ← isToken .closeBrace then return []
    let isDefault ← isToken .defaultKeyword
    if isDefault && seenDefault then unexpected "case"
    let clause ← d.caseClause
    return clause :: (← caseClauses d (seenDefault || isDefault) turns)

/-- A `switch`. -/
def switchStatement (d : Descent σ ρ) : ParserM σ ρ := do
  let start ← pos
  expect .switchKeyword
  let subject ← d.condition
  expect .openBrace
  let clauses ← d.caseClauses false d.turns
  expect .closeBrace
  finish .switchStatement start (.switch subject clauses)

/-- A statement with a label. -/
def labeledStatement (d : Descent σ ρ) : ParserM σ ρ := do
  let start ← pos
  let label ← identifier
  expect .colon
  let body ← d.statement
  finish .labeledStatement start (.labeled label body)

/-! ### Any statement -/

/-- A statement of any form. -/
def statementBody (d : Descent σ ρ) : ParserM σ ρ := do
  match ← token with
  | .openBrace => d.block
  | .semicolon => emptyStatement
  | .varKeyword | .letKeyword | .constKeyword => d.variableStatement
  | .functionKeyword => d.functionDeclaration
  | .identifier =>
    if ← startsAsyncFunction then d.functionDeclaration
    else if ← startsLabel then d.labeledStatement
    else d.expressionStatement
  | .ifKeyword => d.ifStatement
  | .doKeyword => d.doStatement
  | .whileKeyword => d.whileStatement
  | .forKeyword => d.forStatement
  | .returnKeyword => d.returnStatement
  | .throwKeyword => d.throwStatement
  | .tryKeyword => d.tryStatement
  | .breakKeyword => jumpStatement .breakStatement
  | .continueKeyword => jumpStatement .continueStatement
  | .switchKeyword => d.switchStatement
  | .classKeyword | .caseKeyword | .defaultKeyword => unexpected "statement"
  | _ => d.expressionStatement

end Descent

end Shapewire
