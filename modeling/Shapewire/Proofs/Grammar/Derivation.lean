/-
The grammar as a relation between places.

`Derives n c part x ts y` says that the part `part` of the grammar, read from the place `x` to the
place `y` at depth `n` and in the context `c`, is the trees `ts`.  There is a rule for each way to
read a part.  A rule names every token that it consumes, every part within it with the depth and
the context that this is read in, and the node it builds; questions about tokens further ahead,
budgets and faults have no place in it.  Trees are listed in the order of the source: a part that
is one construct has one tree, a list has any number and a part that may be missing has one or
none.

Whatever is true of all trees that the parser builds is shown by induction on a derivation.
-/
import Shapewire.Proofs.Grammar.Place

namespace Shapewire

/-- The context where `in` is an operator. -/
abbrev Context.withIn (c : Context) : Context := { c with noIn := false }

/-- The context where `in` is no operator. -/
abbrev Context.withoutIn (c : Context) : Context := { c with noIn := true }

namespace Place

/-! ### Nodes -/

/-- The node of kind `kind` that covers what lies between two places and carries flags. -/
def flagged (x y : Place) (kind : NodeKind) (flags : NodeFlags)
    (record : Record Tree (Option Tree) String) : Tree :=
  .node kind flags ⟨x.pos, y.prevEnd⟩ (some record)

/-- The node of kind `kind` that covers what lies between two places. -/
def finish (x y : Place) (kind : NodeKind) (record : Record Tree (Option Tree) String) : Tree :=
  x.flagged y kind record.flags record

/-- The leaf of kind `kind` that covers what lies between two places. -/
def leaf (x y : Place) (kind : NodeKind) : Tree := .node kind .none ⟨x.pos, y.prevEnd⟩ none

/-- The token between two places as a name. -/
def name (x y : Place) : Tree := x.finish y (.token .identifier) (.identifier x.value)

/-- The token between two places as a literal. -/
def literal (x y : Place) : Tree := x.finish y (.token x.token) (.literal x.value)

/-- A hole before the comma that comes next. -/
def hole (x : Place) : Tree := .node .hole .none (.point x.pos) none

/-! ### Heads -/

/-- A name that may be missing. -/
inductive MayName (x : Place) : Option Tree → Place → Prop where
  | named {y : Place} (mark : x.Takes .identifier y) : MayName x (some (x.name y)) y
  | unnamed : MayName x none x

/-- `function` with what stands before and behind it, which says the flags of the function. -/
inductive FunctionHead (x : Place) : NodeFlags → Place → Prop where
  | intro {u v y : Place} {isAsync isGenerator : Bool} (async : x.AcceptsWord "async" isAsync u)
    (word : u.Takes .functionKeyword v) (star : v.Accepts .star isGenerator y) :
    FunctionHead x ((NodeFlags.async.onlyIf isAsync).union (NodeFlags.generator.onlyIf isGenerator))
      y

/-- What stands before the name of a member of an object: the flags of a method, and whether a
word says that the member is an accessor. -/
inductive MemberHead (x : Place) : NodeFlags → Bool → Place → Prop where
  | plain {u y : Place} {isAsync isGenerator : Bool} (async : x.AcceptsWord "async" isAsync u)
    (star : u.Accepts .star isGenerator y) :
    MemberHead x
      ((NodeFlags.async.onlyIf isAsync).union (NodeFlags.generator.onlyIf isGenerator)) false y
  | accessor {y : Place} (word : x.Takes .identifier y)
    (spelled : x.value = "get" ∨ x.value = "set") :
    MemberHead x (NodeFlags.none.union .none) true y

end Place

/-- The parts of the grammar. -/
inductive Part where
  -- Functions.
  | block | parameter | parameterList | arrowParameters | arrowBody
  -- Expressions, from the loosest to the tightest.
  | expression | assignment | assignmentBody | conditional
  /-- An operand of operators that bind no more tightly than `least`. -/
  | operand (least : Nat)
  /-- The same, perhaps with more operators behind it. -/
  | operands (least : Nat)
  | unary
  /-- Members, calls and templates behind an operand; calls only if `calls`. -/
  | suffixed (calls : Bool)
  | construction | primary
  -- Parts of expressions.
  | condition | element | arguments | elementKey | elements | propertyName | member
  /-- The substitutions of a template, with the texts behind them. -/
  | pieces (texts : List String)
  | template
  -- Statements.
  | statement | statementBody | statements
  | declaration | declarations | variableList | optionalExpression | forInitializer
  | catchClause | finalizer
  | clause (isDefault : Bool)
  /-- Clauses of which none is a default if `seenDefault`. -/
  | clauses (seenDefault : Bool)
  /-- Parts of one form with commas between them, and perhaps one behind the last. -/
  | list (item : Part)
deriving DecidableEq, Repr

open Descent in
/-- A part of the grammar is read from one place to another, and these are its trees. -/
inductive Derives : Nat → Context → Part → Place → List Tree → Place → Prop where
  -- Lists
  | listEnd : Derives n c (.list p) x [] x
  | listLast (item : Derives n c p x [t] y) : Derives n c (.list p) x [t] y
  | listMore (item : Derives n c p x [t] y) (comma : y.Takes .comma z)
    (rest : Derives n c (.list p) z ts u) : Derives n c (.list p) x (t :: ts) u
  | noStatement : Derives n c .statements x [] x
  | moreStatements (first : Derives n c .statement x [t] y)
    (rest : Derives n c .statements y ts z) : Derives n c .statements x (t :: ts) z
  -- Functions
  | block (opened : x.Takes .openBrace y) (inside : Derives n c.withIn .statements y ts z)
    (closed : z.Takes .closeBrace u) : Derives n c .block x [x.finish u .block (.block ts)] u
  | parameter (named : x.Takes .identifier y) :
    Derives n c .parameter x [x.finish y .parameter (.parameter false (x.name y) none)] y
  | restParameter (dots : x.Takes .ellipsis y) (named : y.Takes .identifier z) :
    Derives n c .parameter x [x.finish z .parameter (.parameter true (y.name z) none)] z
  | defaultParameter (named : x.Takes .identifier y) (sign : y.Takes .assign z)
    (value : Derives n c.withIn .assignment z [e] u) :
    Derives n c .parameter x [x.finish u .parameter (.parameter false (x.name y) (some e))] u
  | parameterList (opened : x.Takes .openParen y) (inside : Derives n c (.list .parameter) y ts z)
    (closed : z.Takes .closeParen u) : Derives n c .parameterList x ts u
  | arrowParameter (named : x.Takes .identifier y) :
    Derives n c .arrowParameters x [x.finish y .parameter (.parameter false (x.name y) none)] y
  | arrowParameterList (inside : Derives n c .parameterList x ts y) :
    Derives n c .arrowParameters x ts y
  | arrowBlock (body : Derives n c .block x [t] y) : Derives n c .arrowBody x [t] y
  | arrowValue (body : Derives n c .assignment x [t] y) : Derives n c .arrowBody x [t] y
  -- Commas and assignments
  | oneExpression (first : Derives n c .assignment x [e] y) : Derives n c .expression x [e] y
  | comma (left : Derives n c .expression x [l] y) (mark : y.Takes .comma z)
    (right : Derives n c .assignment z [r] u) :
    Derives n c .expression x [x.finish u .binary (.binary l (.token .comma) r)] u
  | condition (opened : x.Takes .openParen y) (inside : Derives n c.withIn .expression y [e] z)
    (closed : z.Takes .closeParen u) : Derives n c .condition x [e] u
  | assignment (room : n < maxNesting) (body : Derives (n + 1) c .assignmentBody x [e] y) :
    Derives n c .assignment x [e] y
  | yieldAlone (operator : c.yieldIsOperator = true) (word : x.Takes .identifier y)
    (spelled : x.value = "yield") :
    Derives n c .assignmentBody x [x.finish y .yielding (.wrapped none)] y
  | yieldDelegate (operator : c.yieldIsOperator = true) (word : x.Takes .identifier y)
    (spelled : x.value = "yield") (star : y.Takes .star z)
    (operand : Derives n c .assignment z [e] u) :
    Derives n c .assignmentBody x [x.flagged u .yielding .delegate (.wrapped (some e))] u
  | yieldValue (operator : c.yieldIsOperator = true) (word : x.Takes .identifier y)
    (spelled : x.value = "yield") (operand : Derives n c .assignment y [e] z) :
    Derives n c .assignmentBody x [x.finish z .yielding (.wrapped (some e))] z
  | arrow (async : x.AcceptsWord "async" isAsync y)
    (parameters : Derives n c .arrowParameters y ps z) (mark : z.Takes .arrow u)
    (body : Derives n (arrowContext (NodeFlags.async.onlyIf isAsync) c) .arrowBody u [b] v) :
    Derives n c .assignmentBody x [x.flagged v .arrowFunction (NodeFlags.async.onlyIf isAsync)
      (.function none ps b true)] v
  | assign (left : Derives n c .conditional x [l] y) (mark : y.Takes k z)
    (assigns : k.isAssignment = true) (right : Derives n c .assignment z [r] u) :
    Derives n c .assignmentBody x [x.finish u .binary (.binary l (.token k) r)] u
  | plainAssignment (only : Derives n c .conditional x [e] y) :
    Derives n c .assignmentBody x [e] y
  -- Operators
  | conditional (condition : Derives n c (.operand 0) x [a] y) (question : y.Takes .question z)
    (whenTrue : Derives n c.withIn .assignment z [b] u) (colon : u.Takes .colon v)
    (whenFalse : Derives n c .assignment v [d] w) :
    Derives n c .conditional x [x.finish w .conditional (.conditional a b d)] w
  | plainConditional (only : Derives n c (.operand 0) x [e] y) : Derives n c .conditional x [e] y
  | operand (all : Derives n c (.operands least) x [e] y) (ends : precedence c y.token ≤ least) :
    Derives n c (.operand least) x [e] y
  | firstOperand (first : Derives n c .unary x [e] y) : Derives n c (.operands least) x [e] y
  | moreOperands (left : Derives n c (.operands least) x [l] y) (mark : y.Takes k z)
    (binds : least < precedence c k)
    (right : Derives n c (.operand (rightMinimum k (precedence c k))) z [r] u) :
    Derives n c (.operands least) x [x.finish u .binary (.binary l (.token k) r)] u
  | await (operator : c.awaitIsOperator = true) (word : x.Takes .identifier y)
    (spelled : x.value = "await") (room : n < maxNesting)
    (operand : Derives (n + 1) c .unary y [e] z) :
    Derives n c .unary x [x.finish z .awaiting (.wrapped (some e))] z
  | prefixed (mark : x.Takes k y) (operator : isPrefixOperator k = true) (room : n < maxNesting)
    (operand : Derives (n + 1) c .unary y [e] z) :
    Derives n c .unary x [x.finish z .prefixUnary (.unary (.token k) e)] z
  | postfixed (operand : Derives n c (.suffixed true) x [e] y) (mark : y.Takes k z)
    (operator : k = .increment ∨ k = .decrement) :
    Derives n c .unary x [x.finish z .postfixUnary (.unary (.token k) e)] z
  | plainUnary (only : Derives n c (.suffixed true) x [e] y) : Derives n c .unary x [e] y
  -- Members and calls
  | base (operand : Derives n c .primary x [e] y) : Derives n c (.suffixed true) x [e] y
  | constructionBase (operand : Derives n c .construction x [e] y) :
    Derives n c (.suffixed true) x [e] y
  | calleeBase (room : n < maxNesting) (operand : Derives (n + 1) c .primary x [e] y) :
    Derives n c (.suffixed false) x [e] y
  | calleeConstruction (room : n < maxNesting) (operand : Derives (n + 1) c .construction x [e] y) :
    Derives n c (.suffixed false) x [e] y
  | access (object : Derives n c (.suffixed calls) x [e] y)
    (mark : y.Takes (if chained then .questionDot else .dot) z) (named : z.Takes k u)
    (isName : k.isName = true) : Derives n c (.suffixed calls) x
      [x.finish u .propertyAccess (.access e (z.name u) chained)] u
  | keyAccess (object : Derives n c (.suffixed calls) x [e] y)
    (mark : y.Accepts .questionDot chained z) (key : Derives n c .elementKey z [k] u) :
    Derives n c (.suffixed calls) x [x.finish u .elementAccess (.access e k chained)] u
  | call (callee : Derives n c (.suffixed true) x [e] y)
    (mark : y.Accepts .questionDot chained z) (args : Derives n c .arguments z ts u) :
    Derives n c (.suffixed true) x [x.flagged u .call (NodeFlags.optionalChain.onlyIf chained)
      (.call e (some ts))] u
  | taggedText (tag : Derives n c (.suffixed calls) x [e] y) (text : y.Takes .plainTemplate z) :
    Derives n c (.suffixed calls) x
      [x.finish z .taggedTemplate (.taggedTemplate e (y.literal z))] z
  | taggedTemplate (tag : Derives n c (.suffixed calls) x [e] y)
    (body : Derives n c .template y [t] z) :
    Derives n c (.suffixed calls) x [x.finish z .taggedTemplate (.taggedTemplate e t)] z
  | construction (word : x.Takes .newKeyword y) (callee : Derives n c (.suffixed false) y [e] z)
    (args : Derives n c .arguments z ts u) :
    Derives n c .construction x [x.finish u .construction (.call e (some ts))] u
  | bareConstruction (word : x.Takes .newKeyword y)
    (callee : Derives n c (.suffixed false) y [e] z) :
    Derives n c .construction x [x.finish z .construction (.call e none)] z
  -- Operands
  | name (named : x.Takes .identifier y) : Derives n c .primary x [x.name y] y
  | word (mark : x.Takes k y)
    (isWord : k = .thisKeyword ∨ k = .trueKeyword ∨ k = .falseKeyword ∨ k = .nullKeyword) :
    Derives n c .primary x [x.leaf y (.token k)] y
  | literal (mark : x.Takes k y) (isLiteral : k.isLiteral = true) :
    Derives n c .primary x [x.literal y] y
  | regex (slash : x.scanner.atSlash = true) (mark : x.asRegex.Takes .regexLiteral y) :
    Derives n c .primary x [x.asRegex.literal y] y
  | templateOperand (only : Derives n c .template x [t] y) : Derives n c .primary x [t] y
  | parenthesized (opened : x.Takes .openParen y) (inside : Derives n c.withIn .expression y [e] z)
    (closed : z.Takes .closeParen u) :
    Derives n c .primary x [x.finish u .parenthesized (.wrapped (some e))] u
  | array (opened : x.Takes .openBracket y) (inside : Derives n c.withIn .elements y ts z)
    (closed : z.Takes .closeBracket u) :
    Derives n c .primary x [x.finish u .arrayLiteral (.elements ts)] u
  | object (opened : x.Takes .openBrace y) (inside : Derives n c.withIn (.list .member) y ts z)
    (closed : z.Takes .closeBrace u) :
    Derives n c .primary x [x.finish u .objectLiteral (.elements ts)] u
  | functionValue (head : x.FunctionHead flags y) (named : y.MayName name? z)
    (parameters : Derives n (bodyContext flags c) .parameterList z ps u)
    (body : Derives n (bodyContext flags c) .block u [b] v) :
    Derives n c .primary x [x.flagged v .functionExpression flags (.function name? ps b false)] v
  -- Parts of expressions
  | plainElement (only : Derives n c .assignment x [e] y) : Derives n c .element x [e] y
  | spread (dots : x.Takes .ellipsis y) (operand : Derives n c .assignment y [e] z) :
    Derives n c .element x [x.finish z .spread (.wrapped (some e))] z
  | arguments (opened : x.Takes .openParen y)
    (inside : Derives n c.withIn (.list .element) y ts z) (closed : z.Takes .closeParen u) :
    Derives n c .arguments x ts u
  | elementKey (opened : x.Takes .openBracket y) (inside : Derives n c.withIn .expression y [e] z)
    (closed : z.Takes .closeBracket u) : Derives n c .elementKey x [e] u
  | noElement : Derives n c .elements x [] x
  | hole (comma : x.Takes .comma y) (rest : Derives n c .elements y ts z) :
    Derives n c .elements x (x.hole :: ts) z
  | lastElement (item : Derives n c .element x [t] y) : Derives n c .elements x [t] y
  | moreElements (item : Derives n c .element x [t] y) (comma : y.Takes .comma z)
    (rest : Derives n c .elements z ts u) : Derives n c .elements x (t :: ts) u
  | literalName (mark : x.Takes k y) (isText : k = .stringLiteral ∨ k = .numericLiteral) :
    Derives n c .propertyName x [x.literal y] y
  | computedName (opened : x.Takes .openBracket y)
    (key : Derives n c.withIn .assignment y [e] z) (closed : z.Takes .closeBracket u) :
    Derives n c .propertyName x [x.finish u .computedName (.wrapped (some e))] u
  | plainName (named : x.Takes k y) (isName : k.isName = true) :
    Derives n c .propertyName x [x.name y] y
  | spreadMember (dots : x.Takes .ellipsis y) (operand : Derives n c .assignment y [e] z) :
    Derives n c .member x [x.finish z .spreadProperty (.wrapped (some e))] z
  | method (head : x.MemberHead flags isAccessor y)
    (named : Derives n c .propertyName y [k] z)
    (parameters : Derives n (bodyContext flags c) .parameterList z ps u)
    (body : Derives n (bodyContext flags c) .block u [b] v) :
    Derives n c .member x [x.finish v .propertyAssignment (.property k
      (z.flagged v .functionExpression flags (.function none ps b false)))] v
  | property (named : Derives n c .propertyName x [k] y) (colon : y.Takes .colon z)
    (value : Derives n c .assignment z [e] u) :
    Derives n c .member x [x.finish u .propertyAssignment (.property k e)] u
  | shorthand (named : x.Takes .identifier y) :
    Derives n c .member x [x.finish y .shorthandProperty (.shorthand (x.name y))] y
  | lastPiece (inside : Derives n c.withIn .expression x [e] y) (brace : y.token = .closeBrace)
    (text : y.asTemplate.Takes .templateTail z) :
    Derives n c (.pieces [y.asTemplate.value]) x [e] z
  | morePieces (inside : Derives n c.withIn .expression x [e] y) (brace : y.token = .closeBrace)
    (text : y.asTemplate.Takes .templateMiddle z) (rest : Derives n c (.pieces texts) z es u) :
    Derives n c (.pieces (y.asTemplate.value :: texts)) x (e :: es) u
  | template (head : x.Takes .templateHead y) (inside : Derives n c (.pieces texts) y es z) :
    Derives n c .template x [x.finish z .template (.template (x.value :: texts) es)] z
  -- Simple statements
  | statement (room : n < maxNesting) (body : Derives (n + 1) c .statementBody x [t] y) :
    Derives n c .statement x [t] y
  | blockStatement (only : Derives n c .block x [t] y) : Derives n c .statementBody x [t] y
  | emptyStatement (mark : x.Takes .semicolon y) :
    Derives n c .statementBody x [x.leaf y .emptyStatement] y
  | expressionStatement (inside : Derives n c .expression x [e] y)
    (ended : y.Accepts .semicolon b z) :
    Derives n c .statementBody x [x.finish z .expressionStatement (.wrapped (some e))] z
  | declaration (named : x.Takes .identifier y) :
    Derives n c .declaration x [x.finish y .variableDeclaration (.declaration (x.name y) none)] y
  | initialized (named : x.Takes .identifier y) (sign : y.Takes .assign z)
    (value : Derives n c .assignment z [e] u) : Derives n c .declaration x
      [x.finish u .variableDeclaration (.declaration (x.name y) (some e))] u
  | lastDeclaration (item : Derives n c .declaration x [t] y) : Derives n c .declarations x [t] y
  | moreDeclarations (item : Derives n c .declaration x [t] y) (comma : y.Takes .comma z)
    (rest : Derives n c .declarations z ts u) : Derives n c .declarations x (t :: ts) u
  | variableList (word : x.Takes k y) (introduces : introducesVariables k = true)
    (inside : Derives n c .declarations y ts z) :
    Derives n c .variableList x [x.flagged z .variableList (listFlags k) (.declarationList ts)] z
  | variableStatement (inside : Derives n c .variableList x [t] y)
    (ended : y.Accepts .semicolon b z) :
    Derives n c .statementBody x [x.finish z .variableStatement (.wrapped (some t))] z
  | functionDeclaration (head : x.FunctionHead flags y) (named : y.Takes .identifier z)
    (parameters : Derives n (bodyContext flags c) .parameterList z ps u)
    (body : Derives n (bodyContext flags c) .block u [b] v) :
    Derives n c .statementBody x [x.flagged v .functionDeclaration flags
      (.function (some (y.name z)) ps b false)] v
  -- Branches and loops
  | ifOnly (word : x.Takes .ifKeyword y) (condition : Derives n c .condition y [e] z)
    (whenTrue : Derives n c .statement z [t] u) (last : u.token ≠ .elseKeyword) :
    Derives n c .statementBody x [x.finish u .ifStatement (.branch e t none)] u
  | ifElse (word : x.Takes .ifKeyword y) (condition : Derives n c .condition y [e] z)
    (whenTrue : Derives n c .statement z [t] u) (other : u.Takes .elseKeyword v)
    (whenFalse : Derives n c .statement v [f] w) :
    Derives n c .statementBody x [x.finish w .ifStatement (.branch e t (some f))] w
  | doStatement (word : x.Takes .doKeyword y) (body : Derives n c .statement y [t] z)
    (while_ : z.Takes .whileKeyword u) (condition : Derives n c .condition u [e] v)
    (ended : v.Accepts .semicolon b w) :
    Derives n c .statementBody x [x.finish w .doStatement (.loop none (some e) none t)] w
  | whileStatement (word : x.Takes .whileKeyword y) (condition : Derives n c .condition y [e] z)
    (body : Derives n c .statement z [t] u) :
    Derives n c .statementBody x [x.finish u .whileStatement (.loop none (some e) none t)] u
  | noExpression : Derives n c .optionalExpression x [] x
  | someExpression (inside : Derives n c .expression x [e] y) :
    Derives n c .optionalExpression x [e] y
  | noInitializer : Derives n c .forInitializer x [] x
  | listInitializer (inside : Derives n c.withoutIn .variableList x [t] y) :
    Derives n c .forInitializer x [t] y
  | plainInitializer (inside : Derives n c.withoutIn .expression x [e] y) :
    Derives n c .forInitializer x [e] y
  | forStatement (word : x.Takes .forKeyword x₁) (opened : x₁.Takes .openParen x₂)
    (initializer : Derives n c .forInitializer x₂ i.toList x₃) (mark : x₃.Takes .semicolon x₄)
    (condition : Derives n c.withIn .optionalExpression x₄ e.toList x₅)
    (mark' : x₅.Takes .semicolon x₆)
    (incrementor : Derives n c.withIn .optionalExpression x₆ s.toList x₇)
    (closed : x₇.Takes .closeParen x₈) (body : Derives n c .statement x₈ [t] y) :
    Derives n c .statementBody x [x.finish y .forStatement (.loop i e s t)] y
  | forIn (word : x.Takes .forKeyword x₁) (opened : x₁.Takes .openParen x₂)
    (binding : Derives n c .forInitializer x₂ [i] x₃) (mark : x₃.Takes .inKeyword x₄)
    (subject : Derives n c.withIn .expression x₄ [e] x₅) (closed : x₅.Takes .closeParen x₆)
    (body : Derives n c .statement x₆ [t] y) :
    Derives n c .statementBody x [x.finish y .forInStatement (.iteration i e t)] y
  | forOf (word : x.Takes .forKeyword x₁) (opened : x₁.Takes .openParen x₂)
    (binding : Derives n c .forInitializer x₂ [i] x₃) (mark : x₃.Takes .identifier x₄)
    (spelled : x₃.value = "of") (subject : Derives n c.withIn .assignment x₄ [e] x₅)
    (closed : x₅.Takes .closeParen x₆) (body : Derives n c .statement x₆ [t] y) :
    Derives n c .statementBody x [x.finish y .forOfStatement (.iteration i e t)] y
  -- Leaving
  | returnStatement (word : x.Takes .returnKeyword y)
    (value : Derives n c .optionalExpression y e.toList z) (ended : z.Accepts .semicolon b u) :
    Derives n c .statementBody x [x.finish u .returnStatement (.wrapped e)] u
  | throwStatement (word : x.Takes .throwKeyword y) (value : Derives n c .expression y [e] z)
    (ended : z.Accepts .semicolon b u) :
    Derives n c .statementBody x [x.finish u .throwStatement (.wrapped (some e))] u
  | breakStatement (word : x.Takes .breakKeyword y) (label : y.MayName l z)
    (ended : z.Accepts .semicolon b u) :
    Derives n c .statementBody x [x.finish u .breakStatement (.jump l)] u
  | continueStatement (word : x.Takes .continueKeyword y) (label : y.MayName l z)
    (ended : z.Accepts .semicolon b u) :
    Derives n c .statementBody x [x.finish u .continueStatement (.jump l)] u
  -- Faults, switches and labels
  | noCatch : Derives n c .catchClause x [] x
  | catchAll (word : x.Takes .catchKeyword y) (body : Derives n c .block y [b] z) :
    Derives n c .catchClause x [x.finish z .catchClause (.handler none b)] z
  | catchNamed (word : x.Takes .catchKeyword y) (opened : y.Takes .openParen z)
    (named : z.Takes .identifier u) (closed : u.Takes .closeParen v)
    (body : Derives n c .block v [b] w) :
    Derives n c .catchClause x [x.finish w .catchClause (.handler (some (z.name u)) b)] w
  | noFinalizer : Derives n c .finalizer x [] x
  | finalizer (word : x.Takes .finallyKeyword y) (body : Derives n c .block y [b] z) :
    Derives n c .finalizer x [b] z
  | tryStatement (word : x.Takes .tryKeyword y) (body : Derives n c .block y [b] z)
    (onFault : Derives n c .catchClause z h.toList u)
    (finally_ : Derives n c .finalizer u f.toList v) (some : h.isSome ∨ f.isSome) :
    Derives n c .statementBody x [x.finish v .tryStatement (.attempt b h f)] v
  | caseClause (word : x.Takes .caseKeyword y) (test : Derives n c.withIn .expression y [e] z)
    (colon : z.Takes .colon u) (inside : Derives n c.withIn .statements u ts v) :
    Derives n c (.clause false) x [x.finish v .caseClause (.clause (some e) ts)] v
  | defaultClause (word : x.Takes .defaultKeyword y) (colon : y.Takes .colon z)
    (inside : Derives n c.withIn .statements z ts u) :
    Derives n c (.clause true) x [x.finish u .defaultClause (.clause none ts)] u
  | noClause : Derives n c (.clauses seenDefault) x [] x
  | moreClauses (first : Derives n c (.clause isDefault) x [t] y)
    (once : ¬(isDefault = true ∧ seenDefault = true))
    (rest : Derives n c (.clauses (seenDefault || isDefault)) y ts z) :
    Derives n c (.clauses seenDefault) x (t :: ts) z
  | switchStatement (word : x.Takes .switchKeyword y) (subject : Derives n c .condition y [e] z)
    (opened : z.Takes .openBrace u) (inside : Derives n c (.clauses false) u ts v)
    (closed : v.Takes .closeBrace w) :
    Derives n c .statementBody x [x.finish w .switchStatement (.switch e ts)] w
  | labeledStatement (label : x.Takes .identifier y) (colon : y.Takes .colon z)
    (body : Derives n c .statement z [t] u) :
    Derives n c .statementBody x [x.finish u .labeledStatement (.labeled (x.name y) t)] u

end Shapewire
