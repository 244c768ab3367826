/-
The desk of a parser: all that it holds, and the questions it asks about what lies ahead.

Beside the place in the source a desk holds the table that is being filled.  To look ahead the
scanner is sent on as it is, wherever it gets, to the end of the source or into a fault, and
afterwards three things are put back: the scanner, by a snapshot of its offsets, the current token
and the end of the last one.  Nothing else is.

A question is worth a look only where the current token gives rise to it.
-/
import Shapewire.Grammar.Lookahead
import Shapewire.Token.Session
import Shapewire.Tree.Arena

namespace Shapewire

/-- All that a parser holds. -/
structure Desk where
  /-- The name that errors speak of the source by. -/
  file : String
  text : List Char
  scanner : Scanner
  /-- The kind of the token that the parser goes by.  The scanner may be ahead of it. -/
  current : TokenKind
  prevEnd : Nat
  depth : Nat
  context : Context
  arena : Arena
deriving DecidableEq, Repr

namespace Desk

/-- The desk when the first token of a source has been read. -/
def opened (file : String) (text : List Char) : Desk :=
  let scanner := (Scanner.ofText text).scan
  { file, text, scanner, current := scanner.token, prevEnd := 0, depth := 0, context := {}
    arena := .forSource }

/-- The state of a parser of the grammar that fills the table. -/
def state (d : Desk) : ParserState Arena :=
  { scanner := d.scanner, prevEnd := d.prevEnd, depth := d.depth, context := d.context
    built := d.arena }

/-- The desk with its scanner one token further. -/
def further (d : Desk) : Desk := { d with scanner := d.scanner.scan }

/-- Sends the scanner to the next token, and says of which kind it is. -/
def scan : StateM Desk TokenKind := do
  modify further
  return (← get).scanner.token

/-- Whether a line ended before the token at which the scanner stands. -/
def lineBreak : StateM Desk Bool := return (← get).scanner.lineBreak

/-- Sends the scanner to the mark that closes the outermost of `depth` open brackets, and says
whether there is one.  Otherwise the scanner stays at the end of the source or at the fault. -/
def closeBrackets (depth : Nat) (d : Desk) : Bool × Desk :=
  if depth = 0 then (true, d)
  else if _h : d.scanner.scan.isDone then (false, d.further)
  else if Scanner.opensBracket d.scanner.scan.token then closeBrackets (depth + 1) d.further
  else if Scanner.closesBracket d.scanner.scan.token then closeBrackets (depth - 1) d.further
  else closeBrackets depth d.further
termination_by d.scanner.here.rest.length
decreasing_by all_goals exact Scanner.length_scan_lt (by simpa using _h)

/-- Whether an arrow follows on the same line, seen from the name or opening parenthesis `first` at
which the scanner stands. -/
def arrowFollows (first : TokenKind) : StateM Desk Bool := do
  let closed ← if first == .openParen then closeBrackets 1 else pure true
  if closed then
    let next ← scan
    return next == .arrow && !(← lineBreak)
  else return false

/-- Runs a look for its answer, and puts back what it may have moved. -/
def lookAhead (look : StateM Desk Bool) : StateM Desk Bool := do
  let d ← get
  let shot := d.scanner.snapshot
  let answer ← look
  modify fun e => { e with
    scanner := (shot.restore? e.text).getD e.scanner
    current := d.current
    prevEnd := d.prevEnd }
  return answer

end Desk

/-- What a parser asks about the tokens ahead. -/
inductive Question where
  /-- Whether `function` follows the word `async` on the same line. -/
  | asyncFunction
  /-- Whether the current token is a label. -/
  | label
  /-- Whether the head of an arrow function follows the word `async` on the same line. -/
  | asyncArrow
  /-- Whether an arrow function starts. -/
  | arrow
  /-- Whether the word `async` makes the object member behind it asynchronous. -/
  | asyncMember
  /-- Whether the word `get` or `set` makes the object member behind it an accessor. -/
  | accessor
deriving DecidableEq, Repr

namespace Question

/-- Whether a current token of that kind and with that value gives rise to the question. -/
def arises : Question → TokenKind → String → Bool
  | .asyncFunction, k, value | .asyncArrow, k, value | .asyncMember, k, value =>
    k == .identifier && value == "async"
  | .label, k, _ => k == .identifier
  | .arrow, k, _ => k == .identifier || k == .openParen
  | .accessor, k, value => k == .identifier && (value == "get" || value == "set")

/-- The look that answers the question. -/
def look : Question → StateM Desk Bool
  | .asyncFunction => do
    let next ← Desk.scan
    return next == .functionKeyword && !(← Desk.lineBreak)
  | .label => do
    return (← Desk.scan) == .colon
  | .asyncArrow => do
    let next ← Desk.scan
    if ← Desk.lineBreak then return false
    else if next == .identifier || next == .openParen then Desk.arrowFollows next
    else return false
  | .arrow => do
    Desk.arrowFollows (← get).current
  | .asyncMember => do
    let next ← Desk.scan
    return !(← Desk.lineBreak) && (Parser.startsMemberName next || next == .star)
  | .accessor => do
    return Parser.startsMemberName (← Desk.scan)

/-- Looks ahead if the current token gives rise to it. -/
def pose (q : Question) : StateM Desk Bool := do
  let d ← get
  if q.arises d.current d.scanner.value then Desk.lookAhead q.look else return false

/-- Asks the question.  An arrow function may start with the word `async`. -/
def ask : Question → StateM Desk Bool
  | .arrow => do if ← pose .asyncArrow then return true else pose .arrow
  | q => pose q

/-- The question as it is asked by the parsers of the grammar. -/
def parser {σ : Type} : Question → ParserM σ Bool
  | .asyncFunction => Parser.startsAsyncFunction
  | .label => Parser.startsLabel
  | .asyncArrow => Parser.startsAsyncArrow
  | .arrow => Parser.startsArrow
  | .asyncMember => Parser.startsAsyncMember
  | .accessor => Parser.startsAccessor

end Question

end Shapewire
