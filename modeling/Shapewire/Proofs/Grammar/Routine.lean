/-
The parsers of the grammar as data.

A statement about every parser of the grammar needs a name for each.  A `Construct` reads one piece
of syntax and gives its tree; a `Routine` is a construct or anything else that the grammar is made
of: lists, optional parts, single turns of loops, looks ahead, and what handles single tokens.
`parser` says which parser is meant, given the descent through which it reaches the rest.

A few constructs pass the current token without a look at it, since they are only called where it
is known; what is true of them only there has to say at which tokens.
-/
import Shapewire.Grammar.Descent

namespace Shapewire

open Shapewire.Parser

/-- The parsers that read one piece of syntax. -/
inductive Construct where
  | part (part : Nonterminal)
  -- Names and literals
  | nameFromToken | identifier | memberName | literal
  -- Functions
  | block | parameter | functionDeclaration | functionExpression | arrowFunction
  | functionRest (kind : NodeKind) (start : Nat) (name : Option Tree) (flags : NodeFlags)
  -- Expressions
  | expression | condition | elementKey | arrayLiteral | propertyName | objectMember | objectLiteral
  | template | primary | construction | leftHandSide | unary | conditional | yielding
  | assignmentBody
  | spreadOrAssignment (spreadKind : NodeKind)
  | callOf (start : Nat) (callee : Tree) (optional : Bool)
  | memberOf (start : Nat) (object : Tree) (optional : Bool)
  | elementOf (start : Nat) (object : Tree) (optional : Bool)
  | operand (min : Nat)
  -- Statements
  | expressionStatement | emptyStatement | declaration | variableList | variableStatement
  | ifStatement | doStatement | whileStatement | forStatement | returnStatement | throwStatement
  | caseClause | tryStatement | switchStatement | labeledStatement | statementBody
  | forInRest (start : Nat) (initializer : Option Tree)
  | forOfRest (start : Nat) (initializer : Option Tree)
  | forRest (start : Nat) (initializer : Option Tree)
  | jumpStatement (kind : NodeKind)

/-- The parser of a construct. -/
def Construct.parser (d : Descent) : Construct → Parser Tree
  | .part p => d.parse p
  | .nameFromToken => Parser.nameFromToken
  | .identifier => Parser.identifier
  | .memberName => Parser.memberName
  | .literal => Parser.literal
  | .block => d.block
  | .parameter => d.parameter
  | .functionDeclaration => d.functionDeclaration
  | .functionExpression => d.functionExpression
  | .arrowFunction => d.arrowFunction
  | .functionRest kind start name flags => d.functionRest kind start name flags
  | .expression => d.expression
  | .condition => d.condition
  | .elementKey => d.elementKey
  | .arrayLiteral => d.arrayLiteral
  | .propertyName => d.propertyName
  | .objectMember => d.objectMember
  | .objectLiteral => d.objectLiteral
  | .template => d.template
  | .primary => d.primary
  | .construction => d.construction
  | .leftHandSide => d.leftHandSide
  | .unary => d.unary
  | .conditional => d.conditional
  | .yielding => d.yielding
  | .assignmentBody => d.assignmentBody
  | .spreadOrAssignment spreadKind => d.spreadOrAssignment spreadKind
  | .callOf start callee optional => d.callOf start callee optional
  | .memberOf start object optional => Descent.memberOf start object optional
  | .elementOf start object optional => d.elementOf start object optional
  | .operand min => d.operand min
  | .expressionStatement => d.expressionStatement
  | .emptyStatement => Descent.emptyStatement
  | .declaration => d.declaration
  | .variableList => d.variableList
  | .variableStatement => d.variableStatement
  | .ifStatement => d.ifStatement
  | .doStatement => d.doStatement
  | .whileStatement => d.whileStatement
  | .forStatement => d.forStatement
  | .returnStatement => d.returnStatement
  | .throwStatement => d.throwStatement
  | .caseClause => d.caseClause
  | .tryStatement => d.tryStatement
  | .switchStatement => d.switchStatement
  | .labeledStatement => d.labeledStatement
  | .statementBody => d.statementBody
  | .forInRest start initializer => d.iterationRest .forInStatement start initializer d.expression
  | .forOfRest start initializer => d.iterationRest .forOfStatement start initializer d.assignment
  | .forRest start initializer => d.forRest start initializer
  | .jumpStatement kind => Descent.jumpStatement kind

/-- The parsers that the grammar is made of, by what they give. -/
inductive Routine : Type → Type where
  | construct (construct : Construct) : Routine Tree
  -- Operands with everything behind them
  | suffixes (start : Nat) (calls : Bool) (e : Tree) : Routine Tree
  -- Lists
  | statements : Routine (List Tree)
  | clauseStatements : Routine (List Tree)
  | parameterList : Routine (List Tree)
  | arrowParameters : Routine (List Tree)
  | arguments : Routine (List Tree)
  | arrayElements : Routine (List Tree)
  | members : Routine (List Tree)
  | declarations : Routine (List Tree)
  | caseClauses (seenDefault : Bool) : Routine (List Tree)
  | substitutions : Routine (List (Tree × String))
  -- Parts that may be missing
  | forInitializer : Routine (Option Tree)
  | catchClause : Routine (Option Tree)
  -- Heads
  | functionHead : Routine NodeFlags
  | memberModifiers : Routine (NodeFlags × Bool)
  -- Turns of loops
  | commaTurn (start : Nat) (left : Tree) : Routine (Tree ⊕ Tree)
  | suffixTurn (start : Nat) (calls : Bool) (e : Tree) : Routine (Tree ⊕ Tree)
  | operandTurn (start min : Nat) (left : Tree) : Routine (Tree ⊕ Tree)
  -- Questions
  | blockGoesOn : Routine Bool
  | clauseGoesOn : Routine Bool
  | startsAsyncFunction : Routine Bool
  | startsLabel : Routine Bool
  | startsAsyncArrow : Routine Bool
  | startsArrow : Routine Bool
  | startsAsyncMember : Routine Bool
  | startsAccessor : Routine Bool
  | mayEndStatement : Routine Bool
  -- Tokens
  | advance : Routine Unit
  | expect (k : TokenKind) : Routine Unit
  | accept (k : TokenKind) : Routine Bool
  | endStatement : Routine Unit
  | reread (again : Scanner → Scanner) : Routine Unit

/-- The parser of a routine. -/
def Routine.parser (d : Descent) {α : Type} : Routine α → Parser α
  | .construct c => c.parser d
  | .suffixes start calls e => d.suffixes start calls e
  | .statements => repeatWhile d.turns Descent.blockGoesOn d.statement
  | .clauseStatements => repeatWhile d.turns Descent.clauseGoesOn d.statement
  | .parameterList => d.parameterList
  | .arrowParameters => d.arrowParameters
  | .arguments => d.arguments
  | .arrayElements => d.arrayElements d.turns
  | .members => commaList d.turns .closeBrace d.objectMember
  | .declarations => commaSequence d.turns d.declaration
  | .caseClauses seenDefault => d.caseClauses seenDefault d.turns
  | .substitutions => d.substitutions d.turns
  | .forInitializer => d.forInitializer
  | .catchClause => d.catchClause
  | .functionHead => Descent.functionHead
  | .memberModifiers => Descent.memberModifiers
  | .commaTurn start left => d.commaTurn start left
  | .suffixTurn start calls e => d.suffixTurn start calls e
  | .operandTurn start min left => d.operandTurn start min left
  | .blockGoesOn => Descent.blockGoesOn
  | .clauseGoesOn => Descent.clauseGoesOn
  | .startsAsyncFunction => Parser.startsAsyncFunction
  | .startsLabel => Parser.startsLabel
  | .startsAsyncArrow => Parser.startsAsyncArrow
  | .startsArrow => Parser.startsArrow
  | .startsAsyncMember => Parser.startsAsyncMember
  | .startsAccessor => Parser.startsAccessor
  | .mayEndStatement => Parser.mayEndStatement
  | .advance => Parser.advance
  | .expect k => Parser.expect k
  | .accept k => Parser.accept k
  | .endStatement => Parser.endStatement
  | .reread again => Parser.reread again

end Shapewire
