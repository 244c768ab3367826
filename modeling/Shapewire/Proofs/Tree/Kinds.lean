/-
What the slots of a node may hold, by its kind.

A record does not say which kinds of nodes its slots take, and many kinds share one form.
`Record.WellKinded` does: there is one rule for each kind of node, over a record whose slots hold
just the kinds of what they refer to.  A slot that is empty where a rule has `some` is as wrong as
one that holds the wrong kind.

The judgement looks at one node.  `Tree.WellKinded` reads the kinds off the subtrees of a root;
that the trees of sources satisfy it everywhere is shown along the grammar.
-/
import Shapewire.Grammar.Expression
import Shapewire.Tree.Node

namespace Shapewire

/-! ### Classes of kinds -/

namespace NodeKind

/-- What stands for a value. -/
def isExpression : NodeKind → Bool
  | token t => t.isLiteral ||
    [.identifier, .thisKeyword, .trueKeyword, .falseKeyword, .nullKeyword].contains t
  | arrayLiteral | objectLiteral | propertyAccess | elementAccess | call | construction
  | parenthesized | functionExpression | arrowFunction | prefixUnary | postfixUnary | binary
  | conditional | template | taggedTemplate | yielding | awaiting => true
  | _ => false

/-- What stands in a list of statements. -/
def isStatement : NodeKind → Bool
  | functionDeclaration | block | emptyStatement | variableStatement | expressionStatement
  | ifStatement | doStatement | whileStatement | forStatement | forInStatement | forOfStatement
  | returnStatement | throwStatement | tryStatement | breakStatement | continueStatement
  | switchStatement | labeledStatement => true
  | _ => false

/-- What a call or a construction is given. -/
def isArgument (k : NodeKind) : Bool := k.isExpression || k == spread

/-- What stands in an array. -/
def isElement (k : NodeKind) : Bool := k.isArgument || k == hole

/-- What stands in an object. -/
def isMember : NodeKind → Bool
  | propertyAssignment | shorthandProperty | spreadProperty => true
  | _ => false

/-- What names a member of an object. -/
def isPropertyName : NodeKind → Bool
  | token t => [.identifier, .stringLiteral, .numericLiteral].contains t
  | computedName => true
  | _ => false

/-- A template with or without substitutions. -/
def isTemplate (k : NodeKind) : Bool := k == token .plainTemplate || k == template

/-- What the head of a loop binds or starts with. -/
def isBinding (k : NodeKind) : Bool := k.isExpression || k == variableList

/-- The body of an arrow. -/
def isArrowBody (k : NodeKind) : Bool := k.isExpression || k == block

/-- A clause of a switch. -/
def isClause : NodeKind → Bool
  | caseClause | defaultClause => true
  | _ => false

/-- An operator between two operands. -/
def isInfix : NodeKind → Bool
  | token t => t == .comma || t.isAssignment || decide (0 < Descent.precedence {} t)
  | _ => false

/-- An operator before its operand. -/
def isPrefix : NodeKind → Bool
  | token t => Descent.isPrefixOperator t
  | _ => false

/-- An operator behind its operand. -/
def isPostfix : NodeKind → Bool
  | token t => t == .increment || t == .decrement
  | _ => false

/-- What has no record. -/
def isLeaf : NodeKind → Bool
  | token t => [.thisKeyword, .trueKeyword, .falseKeyword, .nullKeyword].contains t
  | hole | emptyStatement => true
  | _ => false

end NodeKind

/-! ### The rules -/

/-- A record that holds the kinds of what its slots refer to. -/
abbrev KindRecord := Record NodeKind (Option NodeKind) Unit

namespace Record

/-- A node of a kind, with flags, may hold this. -/
inductive WellKinded : NodeKind → NodeFlags → KindRecord → Prop where
  -- Operands
  | identifier : WellKinded (.token .identifier) f (.identifier ())
  | literal (isLiteral : t.isLiteral) : WellKinded (.token t) f (.literal text)
  | parenthesized (inside : e.isExpression) : WellKinded .parenthesized f (.wrapped (some e))
  | array (elements : ∀ k ∈ ks, k.isElement) : WellKinded .arrayLiteral f (.elements ks)
  | object (members : ∀ k ∈ ks, k.isMember) : WellKinded .objectLiteral f (.elements ks)
  /-- A template has a text before, between and behind its substitutions. -/
  | template (between : texts.length = ks.length + 1) (substitutions : ∀ k ∈ ks, k.isExpression) :
    WellKinded .template f (.template texts ks)
  | taggedTemplate (tag : e.isExpression) (body : b.isTemplate) :
    WellKinded .taggedTemplate f (.taggedTemplate e b)
  -- Parts of operands
  | spread (operand : e.isExpression) : WellKinded .spread f (.wrapped (some e))
  | spreadProperty (operand : e.isExpression) : WellKinded .spreadProperty f (.wrapped (some e))
  | computedName (key : e.isExpression) : WellKinded .computedName f (.wrapped (some e))
  | property (name : k.isPropertyName) (value : e.isExpression) :
    WellKinded .propertyAssignment f (.property k e)
  | shorthand : WellKinded .shorthandProperty f (.shorthand (.token .identifier))
  -- Members and calls
  | propertyAccess (object : e.isExpression) :
    WellKinded .propertyAccess f (.access e (.token .identifier) chained)
  | elementAccess (object : e.isExpression) (key : k.isExpression) :
    WellKinded .elementAccess f (.access e k chained)
  | call (callee : e.isExpression) (arguments : ∀ k ∈ ks, k.isArgument) :
    WellKinded .call f (.call e (some ks))
  | construction (callee : e.isExpression) (arguments : ∀ ks ∈ list, ∀ k ∈ ks, k.isArgument) :
    WellKinded .construction f (.call e list)
  -- Operators
  | binary (left : l.isExpression) (operator : o.isInfix) (right : r.isExpression) :
    WellKinded .binary f (.binary l o r)
  | prefixed (operator : o.isPrefix) (operand : e.isExpression) :
    WellKinded .prefixUnary f (.unary o e)
  | postfixed (operator : o.isPostfix) (operand : e.isExpression) :
    WellKinded .postfixUnary f (.unary o e)
  | conditional (condition : a.isExpression) (whenTrue : b.isExpression)
    (whenFalse : d.isExpression) : WellKinded .conditional f (.conditional a b d)
  | awaiting (operand : e.isExpression) : WellKinded .awaiting f (.wrapped (some e))
  /-- A `yield` without an operand does not delegate. -/
  | yieldAlone (bare : f.has .delegate = false) : WellKinded .yielding f (.wrapped none)
  | yielding (operand : e.isExpression) : WellKinded .yielding f (.wrapped (some e))
  -- Functions
  | functionDeclaration (parameters : ∀ k ∈ ps, k = .parameter) (body : b = .block) :
    WellKinded .functionDeclaration f (.function (some (.token .identifier)) ps b false)
  | functionExpression (name : ∀ k ∈ name?, k = .token .identifier)
    (parameters : ∀ k ∈ ps, k = .parameter) (body : b = .block) :
    WellKinded .functionExpression f (.function name? ps b false)
  | arrowFunction (parameters : ∀ k ∈ ps, k = .parameter) (body : b.isArrowBody) :
    WellKinded .arrowFunction f (.function none ps b true)
  | restParameter : WellKinded .parameter f (.parameter true (.token .identifier) none)
  | parameter (initializer : ∀ e ∈ value?, e.isExpression) :
    WellKinded .parameter f (.parameter false (.token .identifier) value?)
  -- Lists of statements
  | sourceFile (statements : ∀ k ∈ ks, k.isStatement) :
    WellKinded .sourceFile f (.sourceFile file ks)
  | block (statements : ∀ k ∈ ks, k.isStatement) : WellKinded .block f (.block ks)
  -- Variables
  | variableStatement (inside : k = .variableList) :
    WellKinded .variableStatement f (.wrapped (some k))
  | variableList (declarations : ∀ k ∈ ks, k = .variableDeclaration) :
    WellKinded .variableList f (.declarationList ks)
  | variableDeclaration (initializer : ∀ e ∈ value?, e.isExpression) :
    WellKinded .variableDeclaration f (.declaration (.token .identifier) value?)
  -- Other statements
  | expressionStatement (inside : e.isExpression) :
    WellKinded .expressionStatement f (.wrapped (some e))
  | ifStatement (condition : e.isExpression) (whenTrue : b.isStatement)
    (whenFalse : ∀ d ∈ other?, d.isStatement) : WellKinded .ifStatement f (.branch e b other?)
  | whileStatement (condition : e.isExpression) (body : b.isStatement) :
    WellKinded .whileStatement f (.loop none (some e) none b)
  | doStatement (condition : e.isExpression) (body : b.isStatement) :
    WellKinded .doStatement f (.loop none (some e) none b)
  | forStatement (initializer : ∀ k ∈ i, k.isBinding) (condition : ∀ k ∈ e, k.isExpression)
    (incrementor : ∀ k ∈ s, k.isExpression) (body : b.isStatement) :
    WellKinded .forStatement f (.loop i e s b)
  | forInStatement (binding : i.isBinding) (subject : e.isExpression) (body : b.isStatement) :
    WellKinded .forInStatement f (.iteration i e b)
  | forOfStatement (binding : i.isBinding) (subject : e.isExpression) (body : b.isStatement) :
    WellKinded .forOfStatement f (.iteration i e b)
  | returnStatement (value : ∀ e ∈ value?, e.isExpression) :
    WellKinded .returnStatement f (.wrapped value?)
  | throwStatement (value : e.isExpression) : WellKinded .throwStatement f (.wrapped (some e))
  | breakStatement (label : ∀ k ∈ label?, k = .token .identifier) :
    WellKinded .breakStatement f (.jump label?)
  | continueStatement (label : ∀ k ∈ label?, k = .token .identifier) :
    WellKinded .continueStatement f (.jump label?)
  | labeledStatement (statement : b.isStatement) :
    WellKinded .labeledStatement f (.labeled (.token .identifier) b)
  -- Faults and switches
  /-- A `try` is followed by a handler, by what is done in any case, or by both. -/
  | tryStatement (body : b = .block) (onFault : ∀ k ∈ handler?, k = .catchClause)
    (finalizer : ∀ k ∈ last?, k = .block) (some : handler?.isSome ∨ last?.isSome) :
    WellKinded .tryStatement f (.attempt b handler? last?)
  | catchClause (name : ∀ k ∈ name?, k = .token .identifier) (body : b = .block) :
    WellKinded .catchClause f (.handler name? b)
  | switchStatement (subject : e.isExpression) (clauses : ∀ k ∈ ks, k.isClause)
    (once : ks.count .defaultClause ≤ 1) : WellKinded .switchStatement f (.switch e ks)
  | caseClause (test : e.isExpression) (statements : ∀ k ∈ ks, k.isStatement) :
    WellKinded .caseClause f (.clause (some e) ks)
  | defaultClause (statements : ∀ k ∈ ks, k.isStatement) :
    WellKinded .defaultClause f (.clause none ks)

/-! ### Records of kinds -/

/-- The kinds of the subtrees of a record. -/
def kinds (r : Record Tree (Option Tree) String) : KindRecord :=
  r.map Tree.kind (Option.map Tree.kind) fun _ => ()

end Record

/-- The root holds what its kind and flags allow. -/
def Tree.WellKinded (t : Tree) : Prop :=
  match t.record? with
  | none => t.kind.isLeaf
  | some r => r.kinds.WellKinded t.kind (t.flags.union r.flags)

end Shapewire
