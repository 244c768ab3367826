/-
Expressions, from the loosest binding to the tightest.

Commas bind loosest, then assignments, conditionals and the binary operators by their
precedence; then come prefix and postfix operators, members and calls, and what needs no
operator at all.  Each level reads the next tighter one and goes on while it finds its own
operator, so an operand never contains a looser operator outside brackets.
-/
import Shapewire.Grammar.Function

namespace Shapewire

namespace Descent

open Shapewire.Parser

variable {σ ρ ν : Type} [Builder σ ρ ν]

/-! ### Commas -/

/-- Goes on with the next expression of a comma sequence, if there is one. -/
def commaTurn (d : Descent σ ρ) (start : Nat) (left : ρ) : ParserM σ (ρ ⊕ ρ) := do
  if ← accept .comma then
    let right ← d.assignment
    return .inl (← finish .binary start (.binary left (.token .comma) right))
  else return .inr left

/-- Any expression. -/
def expression (d : Descent σ ρ) : ParserM σ ρ := do
  let start ← pos
  let first ← d.assignment
  loop d.turns (d.commaTurn start) first

/-- An expression in parentheses, as the condition of a statement. -/
def condition (d : Descent σ ρ) : ParserM σ ρ := do
  expect .openParen
  let e ← allowIn d.expression
  expect .closeParen
  return e

/-! ### Lists in brackets -/

/-- An expression, or one that is spread out into the elements around it. -/
def spreadOrAssignment (d : Descent σ ρ) (spreadKind : NodeKind) : ParserM σ ρ := do
  if ← isToken .ellipsis then
    let start ← pos
    advance
    let e ← d.assignment
    finish spreadKind start (.wrapped (some e))
  else d.assignment

/-- The arguments of a call. -/
def arguments (d : Descent σ ρ) : ParserM σ (List ρ) := do
  expect .openParen
  let args ← allowIn (commaList d.turns .closeParen (d.spreadOrAssignment .spread))
  expect .closeParen
  return args

/-- A computed key in brackets. -/
def elementKey (d : Descent σ ρ) : ParserM σ ρ := do
  expect .openBracket
  let key ← allowIn d.expression
  expect .closeBracket
  return key

/-- The elements of an array up to its closing bracket.  A comma without an element before it
leaves a hole. -/
def arrayElements (d : Descent σ ρ) : Nat → ParserM σ (List ρ)
  | 0 => throw .exhausted
  | turns + 1 => do
    match ← token with
    | .closeBracket => return []
    | .comma =>
      let at_ ← pos
      advance
      let hole ← Builder.add .hole .none (.point at_) none
      return hole :: (← arrayElements d turns)
    | _ =>
      let e ← d.spreadOrAssignment .spread
      if ← accept .comma then return e :: (← arrayElements d turns) else return [e]

/-- An array. -/
def arrayLiteral (d : Descent σ ρ) : ParserM σ ρ := do
  let start ← pos
  expect .openBracket
  let elements ← allowIn (d.arrayElements d.turns)
  expect .closeBracket
  finish .arrayLiteral start (.elements elements)

/-! ### Objects -/

/-- The name of an object member: a text, a number, a computed key or a name. -/
def propertyName (d : Descent σ ρ) : ParserM σ ρ := do
  match ← token with
  | .stringLiteral | .numericLiteral => literal
  | .openBracket =>
    let start ← pos
    advance
    let key ← allowIn d.assignment
    expect .closeBracket
    finish .computedName start (.wrapped (some key))
  | _ => memberName

/-- What stands before the name of an object member: the flags of a method, and whether the
member is an accessor. -/
def memberModifiers : ParserM σ (NodeFlags × Bool) := do
  let isAsync ← startsAsyncMember
  if isAsync then advance
  let isGenerator ← accept .star
  let isAccessor ← if isAsync || isGenerator then pure false else startsAccessor
  if isAccessor then advance
  return ((NodeFlags.async.onlyIf isAsync).union (NodeFlags.generator.onlyIf isGenerator),
    isAccessor)

/-- A member of an object: a spread, a method or accessor, a named value, or a name alone that
stands for the value of that name. -/
def objectMember (d : Descent σ ρ) : ParserM σ ρ := do
  if ← isToken .ellipsis then d.spreadOrAssignment .spreadProperty
  else
    let start ← pos
    let (flags, isAccessor) ← memberModifiers
    let isName ← isToken .identifier
    let name ← d.propertyName
    let mustBeMethod := isAccessor || flags != .none
    if mustBeMethod || (← isToken .openParen) then
      let method ← d.functionRest .functionExpression (← pos) none flags
      finish .propertyAssignment start (.property name method)
    else if ← accept .colon then
      let value ← d.assignment
      finish .propertyAssignment start (.property name value)
    else if isName && ((← isToken .comma) || (← isToken .closeBrace)) then
      finish .shorthandProperty start (.shorthand name)
    else unexpected ":"

/-- An object. -/
def objectLiteral (d : Descent σ ρ) : ParserM σ ρ := do
  let start ← pos
  expect .openBrace
  let members ← allowIn (commaList d.turns .closeBrace d.objectMember)
  expect .closeBrace
  finish .objectLiteral start (.elements members)

/-! ### Templates -/

/-- The substitutions of a template from the one at the current token on, each with the text
behind it. -/
def substitutions (d : Descent σ ρ) : Nat → ParserM σ (List (ρ × String))
  | 0 => throw .exhausted
  | turns + 1 => do
    let e ← allowIn d.expression
    if !(← isToken .closeBrace) then unexpected "\x7d"
    reread Scanner.rescanTemplate
    let quasi ← value
    let isLast ← isToken .templateTail
    advance
    if isLast then return [(e, quasi)] else return (e, quasi) :: (← substitutions d turns)

/-- A template with substitutions. -/
def template (d : Descent σ ρ) : ParserM σ ρ := do
  let start ← pos
  let head ← value
  advance
  let pieces ← d.substitutions d.turns
  finish .template start (.template (head :: pieces.map Prod.snd) (pieces.map Prod.fst))

/-! ### Operands -/

/-- An expression that needs no operator. -/
def primary (d : Descent σ ρ) : ParserM σ ρ := do
  let start ← pos
  let k ← token
  match k with
  | .identifier => if ← startsAsyncFunction then d.functionExpression else identifier
  | .thisKeyword | .trueKeyword | .falseKeyword | .nullKeyword =>
    advance
    finishLeaf (.token k) start
  | .numericLiteral | .stringLiteral | .plainTemplate => literal
  | .slash | .slashAssign =>
    reread Scanner.rescanSlash
    literal
  | .templateHead => d.template
  | .openParen =>
    advance
    let e ← allowIn d.expression
    expect .closeParen
    finish .parenthesized start (.wrapped (some e))
  | .openBracket => d.arrayLiteral
  | .openBrace => d.objectLiteral
  | .functionKeyword => d.functionExpression
  | _ => unexpected "expression"

/-- The call of `callee` with the arguments at the current token. -/
def callOf (d : Descent σ ρ) (start : Nat) (callee : ρ) (optional : Bool) : ParserM σ ρ := do
  let args ← d.arguments
  flagged .call (NodeFlags.optionalChain.onlyIf optional) start (.call callee (some args))

/-- The member of `object` that the name at the current token selects. -/
def memberOf (start : Nat) (object : ρ) (optional : Bool) : ParserM σ ρ := do
  let name ← memberName
  finish .propertyAccess start (.access object name optional)

/-- The member of `object` that the key at the current token selects. -/
def elementOf (d : Descent σ ρ) (start : Nat) (object : ρ) (optional : Bool) : ParserM σ ρ := do
  let key ← d.elementKey
  finish .elementAccess start (.access object key optional)

/-- Goes on with the next member, call or template behind `e`, if there is one.  Behind the
callee of a construction, parentheses are left to the construction. -/
def suffixTurn (d : Descent σ ρ) (start : Nat) (calls : Bool) (e : ρ) : ParserM σ (ρ ⊕ ρ) := do
  match ← token with
  | .dot =>
    advance
    return .inl (← memberOf start e false)
  | .questionDot =>
    advance
    if ← isToken .openBracket then return .inl (← d.elementOf start e true)
    else if (← isToken .openParen) && calls then return .inl (← d.callOf start e true)
    else return .inl (← memberOf start e true)
  | .openBracket => return .inl (← d.elementOf start e false)
  | .openParen => if calls then return .inl (← d.callOf start e false) else return .inr e
  | .plainTemplate =>
    let quoted ← literal
    return .inl (← finish .taggedTemplate start (.taggedTemplate e quoted))
  | .templateHead =>
    let quoted ← d.template
    return .inl (← finish .taggedTemplate start (.taggedTemplate e quoted))
  | _ => return .inr e

/-- Members, calls and templates behind an operand. -/
def suffixes (d : Descent σ ρ) (start : Nat) (calls : Bool) (e : ρ) : ParserM σ ρ :=
  loop d.turns (d.suffixTurn start calls) e

/-- A construction: its argument list may be missing. -/
def construction (d : Descent σ ρ) : ParserM σ ρ := do
  let start ← pos
  expect .newKeyword
  let calleeStart ← pos
  let callee ← nested do
    if ← isToken .newKeyword then d.parse .construction else d.primary
  let callee ← d.suffixes calleeStart false callee
  let args ← if ← isToken .openParen then some <$> d.arguments else pure none
  finish .construction start (.call callee args)

/-- An operand with everything that may stand behind it. -/
def leftHandSide (d : Descent σ ρ) : ParserM σ ρ := do
  let start ← pos
  let e ← if ← isToken .newKeyword then d.parse .construction else d.primary
  d.suffixes start true e

/-! ### Operators -/

/-- The operators that stand before their operand. -/
def isPrefixOperator : TokenKind → Bool
  | .bang | .tilde | .plus | .minus | .increment | .decrement | .typeOfKeyword | .voidKeyword
  | .deleteKeyword => true
  | _ => false

/-- An operand with the operators before or behind it that take one operand. -/
def unary (d : Descent σ ρ) : ParserM σ ρ := do
  let start ← pos
  let k ← token
  if (← get).context.awaitIsOperator && (← isWord "await") then
    advance
    let e ← nested (d.parse .unary)
    finish .awaiting start (.wrapped (some e))
  else if isPrefixOperator k then
    advance
    let e ← nested (d.parse .unary)
    finish .prefixUnary start (.unary (.token k) e)
  else
    let e ← d.leftHandSide
    let k ← token
    if (k == .increment || k == .decrement) && !(← lineBreak) then
      advance
      finish .postfixUnary start (.unary (.token k) e)
    else return e

/-- How tightly a binary operator binds; zero for what is none. -/
def precedence (c : Context) : TokenKind → Nat
  | .logicalOr | .coalesce => 1
  | .logicalAnd => 2
  | .bar => 3
  | .caret => 4
  | .ampersand => 5
  | .equal | .notEqual | .same | .notSame => 6
  | .inKeyword => if c.noIn then 0 else 7
  | .less | .greater | .lessEqual | .greaterEqual | .instanceOfKeyword => 7
  | .shiftLeft | .shiftRight | .shiftRightZero => 8
  | .plus | .minus => 9
  | .star | .slash | .percent => 10
  | .power => 11
  | _ => 0

/-- How tightly the right operand of an operator must bind: more tightly than the operator,
except that a power is taken from the right. -/
def rightMinimum (operator : TokenKind) (precedence : Nat) : Nat :=
  if operator = .power then precedence - 1 else precedence

/-- Goes on with the next operator that binds more tightly than `min`, if there is one. -/
def operandTurn (d : Descent σ ρ) (start min : Nat) (left : ρ) : ParserM σ (ρ ⊕ ρ) := do
  let operator ← token
  let p := precedence (← get).context operator
  if p ≤ min then return .inr left
  else
    advance
    let right ← d.parse (.operand (rightMinimum operator p))
    return .inl (← finish .binary start (.binary left (.token operator) right))

/-- An operand of operators that bind no more tightly than `min`. -/
def operand (d : Descent σ ρ) (min : Nat) : ParserM σ ρ := do
  let start ← pos
  let first ← d.parse .unary
  loop d.turns (d.operandTurn start min) first

/-- A condition with two alternatives, or what binds more tightly. -/
def conditional (d : Descent σ ρ) : ParserM σ ρ := do
  let start ← pos
  let condition ← d.parse (.operand 0)
  if ← accept .question then
    let whenTrue ← allowIn d.assignment
    expect .colon
    let whenFalse ← d.assignment
    finish .conditional start (.conditional condition whenTrue whenFalse)
  else return condition

/-! ### Assignments -/

/-- The tokens at which a `yield` has no operand. -/
def endsYield : TokenKind → Bool
  | .closeParen | .closeBracket | .closeBrace | .comma | .semicolon | .colon | .endOfFile => true
  | _ => false

/-- A `yield` with its operand, which may be missing. -/
def yielding (d : Descent σ ρ) : ParserM σ ρ := do
  let start ← pos
  advance
  if ← lineBreak then finish .yielding start (.wrapped none)
  else if ← accept .star then
    let e ← d.assignment
    flagged .yielding .delegate start (.wrapped (some e))
  else if endsYield (← token) then finish .yielding start (.wrapped none)
  else
    let e ← d.assignment
    finish .yielding start (.wrapped (some e))

/-- An expression without commas. -/
def assignmentBody (d : Descent σ ρ) : ParserM σ ρ := do
  if (← get).context.yieldIsOperator && (← isWord "yield") then d.yielding
  else if ← startsArrow then d.arrowFunction
  else
    let start ← pos
    let left ← d.conditional
    let operator ← token
    if operator.isAssignment then
      advance
      let right ← d.assignment
      finish .binary start (.binary left (.token operator) right)
    else return left

end Descent

end Shapewire
