/-
Decisions that need more than the current token.

A few words and one bracket are read in a way that depends on what follows.  Each predicate
here looks at the tokens ahead, raw and without complaint about faults in them, and comes
back to the current token, so asking changes nothing.
-/
import Shapewire.Grammar.Parser

namespace Shapewire

namespace Parser

variable {σ : Type}

/-- Whether `async` is the current word and, on the same line, `function` follows it. -/
def startsAsyncFunction : ParserM σ Bool := do
  if ← isWord "async" then
    lookAhead do
      let next ← peekNext
      return next == .functionKeyword && !(← lineBreak)
  else return false

/-- Whether the current token starts a label: a name with a colon behind it. -/
def startsLabel : ParserM σ Bool := do
  if ← isToken .identifier then
    lookAhead do
      return (← peekNext) == .colon
  else return false

/-- Whether an arrow follows on the same line, seen from the name or opening parenthesis
`first` at which the scanner stands.  A parenthesis is first followed to where it closes. -/
def arrowFollows (first : TokenKind) : ParserM σ Bool := do
  let closed ← if first == .openParen then do
      match (← get).scanner.afterBrackets? 1 with
      | none => pure false
      | some close =>
        modify fun s => { s with scanner := close }
        pure true
    else pure true
  if closed then
    let next ← peekNext
    return next == .arrow && !(← lineBreak)
  else return false

/-- Whether `async` is the current word and, on the same line, the head of an arrow function
follows it. -/
def startsAsyncArrow : ParserM σ Bool := do
  if ← isWord "async" then
    lookAhead do
      let next ← peekNext
      if ← lineBreak then return false
      else if next == .identifier || next == .openParen then arrowFollows next
      else return false
  else return false

/-- Whether the current token starts an arrow function. -/
def startsArrow : ParserM σ Bool := do
  if ← startsAsyncArrow then return true
  let first ← token
  if first == .identifier || first == .openParen then lookAhead (arrowFollows first)
  else return false

/-- A token that may start the name of an object member other than by being punctuation of
the member itself. -/
def startsMemberName (k : TokenKind) : Bool :=
  k.isName || k == .stringLiteral || k == .numericLiteral || k == .openBracket

/-- Whether `async` is the current word and makes the object member behind it asynchronous. -/
def startsAsyncMember : ParserM σ Bool := do
  if ← isWord "async" then
    lookAhead do
      let next ← peekNext
      return !(← lineBreak) && (startsMemberName next || next == .star)
  else return false

/-- Whether the current word is `get` or `set` and makes the object member behind it an
accessor. -/
def startsAccessor : ParserM σ Bool := do
  let isGet ← isWord "get"
  let isSet ← isWord "set"
  if isGet || isSet then
    lookAhead do
      return startsMemberName (← peekNext)
  else return false

end Parser

end Shapewire
