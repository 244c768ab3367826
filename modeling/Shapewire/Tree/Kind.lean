/-
The kinds of syntax nodes and the flags a node may carry.

Leaves are of the kind of their token; every other node has a kind of its own.  Each kind
has a numeric code: tokens keep their numbers and the node kinds lie above them.  A node
table accepts any code, so a code that belongs to no kind is a kind too, one that nothing
else is said about.
-/
import Shapewire.Token.Kind

namespace Shapewire

/-- The kind of a syntax node. -/
inductive NodeKind where
  /-- A leaf that consists of one token. -/
  | token (t : TokenKind)
  | sourceFile
  -- Expressions.
  | arrayLiteral | objectLiteral | propertyAccess | elementAccess | call | construction
  | parenthesized | functionExpression | arrowFunction | prefixUnary | postfixUnary | binary
  | conditional | template | spread | hole | taggedTemplate | yielding | awaiting
  -- Members of object literals.
  | propertyAssignment | shorthandProperty | spreadProperty | computedName
  -- Declarations.
  | parameter | functionDeclaration | variableDeclaration | variableList
  -- Statements.
  | block | emptyStatement | variableStatement | expressionStatement | ifStatement
  | doStatement | whileStatement | forStatement | forInStatement | forOfStatement
  | returnStatement | throwStatement | tryStatement | catchClause | breakStatement
  | continueStatement | switchStatement | caseClause | defaultClause | labeledStatement
  /-- A code that belongs to no kind. -/
  | unassigned (code : Nat)
deriving DecidableEq, Repr, Inhabited

namespace NodeKind

/-- The kinds above the tokens with their codes. -/
def codes : List (Nat × NodeKind) :=
  [(200, sourceFile),
   (210, arrayLiteral), (211, objectLiteral), (212, propertyAccess), (213, elementAccess),
   (214, call), (215, construction), (216, parenthesized), (217, functionExpression),
   (218, arrowFunction), (219, prefixUnary), (220, postfixUnary), (221, binary),
   (222, conditional), (223, template), (224, spread), (225, hole), (226, taggedTemplate),
   (227, yielding), (228, awaiting),
   (230, propertyAssignment), (231, shorthandProperty), (232, spreadProperty),
   (233, computedName),
   (240, parameter), (241, functionDeclaration), (242, variableDeclaration),
   (243, variableList),
   (250, block), (251, emptyStatement), (252, variableStatement), (253, expressionStatement),
   (254, ifStatement), (255, doStatement), (256, whileStatement), (257, forStatement),
   (258, forInStatement), (259, forOfStatement), (260, returnStatement),
   (261, throwStatement), (262, tryStatement), (263, catchClause), (264, breakStatement),
   (265, continueStatement), (266, switchStatement), (267, caseClause), (268, defaultClause),
   (269, labeledStatement)]

/-- The code of a kind. -/
def code : NodeKind → Nat
  | token t => t.code
  | unassigned n => n
  | k => ((codes.find? fun entry => entry.2 == k).map Prod.fst).getD 0

/-- The kind with a code. -/
def ofCode (n : Nat) : NodeKind :=
  match TokenKind.ofCode? n with
  | some t => token t
  | none => (codes.lookup n).getD (unassigned n)

/-- Functions of all three forms: declarations, expressions and arrows. -/
def isFunction : NodeKind → Bool
  | functionDeclaration | functionExpression | arrowFunction => true
  | _ => false

/-- Functions that are values: expressions and arrows. -/
def isFunctionValue : NodeKind → Bool
  | functionExpression | arrowFunction => true
  | _ => false

/-- Calls and constructions, which have a callee. -/
def hasCallee : NodeKind → Bool
  | call | construction => true
  | _ => false

/-- Whether an operator, given as a kind, assigns. -/
def isAssignment : NodeKind → Bool
  | token t => t.isAssignment
  | _ => false

end NodeKind

/-- The flags of a node, as bits. -/
structure NodeFlags where
  bits : Nat
deriving DecidableEq, Repr, Inhabited

namespace NodeFlags

/-- No flag. -/
def none : NodeFlags := ⟨0⟩

/-- A list of declarations that starts with `let`. -/
def letList : NodeFlags := ⟨1⟩

/-- A list of declarations that starts with `const`. -/
def constList : NodeFlags := ⟨2⟩

/-- An access or call written with a question mark and a point. -/
def optionalChain : NodeFlags := ⟨4⟩

/-- A generator function. -/
def generator : NodeFlags := ⟨8⟩

/-- An asynchronous function. -/
def async : NodeFlags := ⟨16⟩

/-- A `yield` that hands over to another generator. -/
def delegate : NodeFlags := ⟨32⟩

/-- All flags of both. -/
def union (f g : NodeFlags) : NodeFlags := ⟨f.bits ||| g.bits⟩

/-- Whether `f` and `g` share a flag. -/
def has (f g : NodeFlags) : Bool := f.bits &&& g.bits != 0

/-- The flag if the condition holds. -/
def onlyIf (f : NodeFlags) (condition : Bool) : NodeFlags := if condition then f else none

end NodeFlags

end Shapewire
