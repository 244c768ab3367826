/-
Brackets that close where the grammar closes them.

To find the end of a bracket without reading what is in it, the parser counts brackets on raw
tokens.  Whatever part of the grammar lies on the way, its brackets come in pairs, so the count
behind it is the count before it (`Place.Skips`), as long as its tokens are the raw ones.  Two kinds
of nodes are read from tokens that are not: a regular expression starts with a slash that is read
again, and a template goes on at a brace that is read again.  `Place.Clears` leaves these out: if
there are none of them among some trees, the part of the source that they were read from is skipped.

`clears_of_derives` is one induction over the grammar.  The substitutions of a template are the only
part that does not clear, since it is read from within a template.
-/
import Shapewire.Proofs.Grammar.Derivation
import Shapewire.Proofs.Grammar.Progress
import Shapewire.Proofs.Tree.Everywhere

namespace Shapewire

/-! ### Counting on raw tokens -/

namespace Scanner

/-- A mark that opens or closes a bracket. -/
def isBracket (k : TokenKind) : Bool := opensBracket k || closesBracket k

theorem depthBehind_of_isBracket {k : TokenKind} (neutral : isBracket k = false) (depth : Nat) :
    depthBehind k depth = depth := by
  obtain ⟨opens, closes⟩ := Bool.or_eq_false_iff.mp neutral
  simp [depthBehind, opens, closes]

/-- The state at the mark that closes the outermost of `depth` open brackets, which may be the
current token. -/
def closing? (s : Scanner) (depth : Nat) : Option Scanner :=
  if s.isDone then none else s.afterBrackets? (depthBehind s.token depth)

theorem afterBrackets?_zero (s : Scanner) : s.afterBrackets? 0 = some s := by
  rw [afterBrackets?, if_pos rfl]

theorem afterBrackets?_eq_closing? (s : Scanner) (depth : Nat) :
    s.afterBrackets? (depth + 1) = s.scan.closing? (depth + 1) := s.afterBrackets?_succ depth

end Scanner

namespace Place

open Shapewire.Scanner (depthBehind isBracket)

variable {x y z u : Place} {k o c : TokenKind}

/-- What closes the brackets that are open at the one place closes those open at the other. -/
def Skips (x y : Place) : Prop :=
  ∀ depth, x.scanner.closing? (depth + 1) = y.scanner.closing? (depth + 1)

theorem Skips.refl (x : Place) : x.Skips x := fun _ => rfl

theorem Skips.trans (h : x.Skips y) (h' : y.Skips z) : x.Skips z :=
  fun depth => (h depth).trans (h' depth)

/-- Behind a token there are as many open brackets as the token leaves. -/
theorem Takes.closing? (mark : x.Takes k y) (depth : Nat) :
    x.scanner.closing? depth = x.scanner.afterBrackets? (depthBehind k depth) := by
  have proper := mark.proper
  rw [← mark.token] at proper ⊢
  have more : x.scanner.isDone = false := by
    unfold Place.token at proper
    unfold Scanner.isDone
    cases token : x.scanner.token <;> rw [token] at proper <;> first | rfl | cases proper
  rw [Scanner.closing?, more]
  rfl

theorem Takes.afterBrackets? (mark : x.Takes k y) (depth : Nat) :
    x.scanner.afterBrackets? (depth + 1) = y.scanner.closing? (depth + 1) := by
  rw [Scanner.afterBrackets?_eq_closing?, mark.next]
  rfl

/-- A token that is no bracket is skipped. -/
theorem Takes.skips (mark : x.Takes k y) (neutral : isBracket k = false := by rfl) :
    x.Skips y := by
  intro depth
  rw [mark.closing?, Scanner.depthBehind_of_isBracket neutral, mark.afterBrackets?]

/-- What is skipped within a pair of brackets is skipped with them. -/
theorem Skips.between (opened : x.Takes o y) (inside : y.Skips z) (closed : z.Takes c u)
    (opens : ∀ depth, depthBehind o depth = depth + 1 := by intro; rfl)
    (closes : ∀ depth, depthBehind c (depth + 1) = depth := by intro; rfl) : x.Skips u := by
  intro depth
  rw [opened.closing?, opens, opened.afterBrackets?, inside, closed.closing?, closes,
    closed.afterBrackets?]

/-- The bracket that closes what is skipped is the one that the count finds. -/
theorem Skips.afterBrackets? (opened : x.Takes o y) (inside : y.Skips z) (closed : z.Takes c u)
    (closes : ∀ depth, depthBehind c (depth + 1) = depth := by intro; rfl) :
    x.scanner.afterBrackets? 1 = some z.scanner := by
  rw [opened.afterBrackets?, inside, closed.closing?, closes, Scanner.afterBrackets?_zero]

theorem Accepts.skips {b : Bool} (mark : x.Accepts k b y)
    (neutral : isBracket k = false := by rfl) : x.Skips y := by
  cases mark with
  | taken mark => exact mark.skips neutral
  | absent => exact .refl x

theorem AcceptsWord.skips {b : Bool} {word : String} (mark : x.AcceptsWord word b y) :
    x.Skips y := by
  cases mark with
  | taken mark => exact mark.skips
  | absent => exact .refl x

theorem FunctionHead.skips {flags : NodeFlags} (head : x.FunctionHead flags y) : x.Skips y := by
  cases head with
  | intro async word star => exact (async.skips.trans word.skips).trans star.skips

theorem MemberHead.skips {flags : NodeFlags} {isAccessor : Bool}
    (head : x.MemberHead flags isAccessor y) : x.Skips y := by
  cases head with
  | plain async star => exact async.skips.trans star.skips
  | accessor word => exact word.skips

end Place

/-! ### Trees that are read from raw tokens -/

/-- What is read from a token that is not a raw one. -/
def Tree.isReread (t : Tree) : Bool :=
  t.kind == .template || t.kind == .token .regexLiteral

/-- No node of the trees is read from a token that is not a raw one. -/
abbrev AllRaw (ts : List Tree) : Prop := AllEverywhere (fun t => t.isReread = false) ts

theorem AllRaw.children {t : Tree} (raw : AllRaw [t]) : AllRaw t.children :=
  fun _ mem => (raw t List.mem_cons_self).of_mem_children mem

namespace Place

open Shapewire.Scanner (depthBehind isBracket)

/-- If the trees are read from raw tokens, what lies between the places is skipped. -/
def Clears (x : Place) (ts : List Tree) (y : Place) : Prop := AllRaw ts → x.Skips y

variable {x y z u : Place} {k o c : TokenKind} {t : Tree} {ts us : List Tree} {kind : NodeKind}
  {flags : NodeFlags} {r : Record Tree (Option Tree) String}

theorem Clears.nil : x.Clears [] x := fun _ => .refl x

theorem Clears.append (h : x.Clears ts y) (h' : y.Clears us z) : x.Clears (ts ++ us) z := by
  intro raw
  obtain ⟨left, right⟩ := List.forall_mem_append.mp raw
  exact (h left).trans (h' right)

/-- What is skipped in front of trees. -/
theorem Skips.then (h : x.Skips y) (h' : y.Clears ts z) : x.Clears ts z :=
  fun raw => h.trans (h' raw)

/-- What is skipped behind trees. -/
theorem Clears.skip (h : x.Clears ts y) (h' : y.Skips z) : x.Clears ts z :=
  fun raw => (h raw).trans h'

/-- A token in front of trees. -/
theorem Takes.before (mark : x.Takes k y) (h : y.Clears ts z)
    (neutral : isBracket k = false := by rfl) : x.Clears ts z := (mark.skips neutral).then h

/-- A token behind trees. -/
theorem Clears.take (h : x.Clears ts y) (mark : y.Takes k z)
    (neutral : isBracket k = false := by rfl) : x.Clears ts z := h.skip (mark.skips neutral)

/-- Trees in brackets. -/
theorem Clears.between (opened : x.Takes o y) (h : y.Clears ts z) (closed : z.Takes c u)
    (opens : ∀ depth, depthBehind o depth = depth + 1 := by intro; rfl)
    (closes : ∀ depth, depthBehind c (depth + 1) = depth := by intro; rfl) : x.Clears ts u :=
  fun raw => .between opened (h raw) closed opens closes

/-- A node over trees. -/
theorem Clears.node (h : x.Clears us y)
    (children : r.children kind (fun c => [c]) Option.toList = us := by
      first | rfl | simp [Record.children, Record.slots]) :
    x.Clears [z.flagged u kind flags r] y := by
  subst children
  exact fun raw => h raw.children

/-- A node that is one token. -/
theorem Takes.clears (mark : x.Takes k y) (neutral : isBracket k = false := by rfl) :
    x.Clears [t] y := fun _ => mark.skips neutral

/-- What is not read from raw tokens need not be skipped. -/
theorem Clears.reread (is : t.isReread = true) : x.Clears [t] y := by
  intro raw
  have root := (raw t List.mem_cons_self).root
  rw [is] at root
  cases root

theorem Takes.isReread_literal (mark : x.Takes .regexLiteral y) :
    (x.literal y).isReread = true := by
  have kind : (x.literal y).kind = .token .regexLiteral := congrArg NodeKind.token mark.token
  rw [Tree.isReread, kind]
  rfl

theorem MayName.clears {t? : Option Tree} (h : x.MayName t? y) : x.Clears t?.toList y := by
  cases h with
  | named mark => exact mark.clears
  | unnamed => exact .nil

/-- A method is its parameters and its body. -/
theorem Clears.method {b : Tree} (parameters : x.Clears ts y) (body : y.Clears [b] z) :
    x.Clears [u.flagged z .functionExpression flags (.function none ts b false)] z :=
  .node (parameters.append body)

end Place

/-! ### Tokens that are no brackets -/

namespace TokenKind

open Shapewire.Scanner (isBracket)

variable {k : TokenKind}

theorem isBracket_of_isAssignment (h : k.isAssignment = true) : isBracket k = false := by
  cases k <;> first | rfl | cases h

theorem isBracket_of_isPrefixOperator (h : Descent.isPrefixOperator k = true) :
    isBracket k = false := by
  cases k <;> first | rfl | cases h

theorem isBracket_of_precedence {c : Context} {least : Nat}
    (h : least < Descent.precedence c k) : isBracket k = false := by
  cases k <;> first | rfl | exact absurd h (Nat.not_lt_zero least)

theorem isBracket_of_isName (h : k.isName = true) : isBracket k = false := by
  cases k <;> first | rfl | cases h

theorem isBracket_of_isLiteral (h : k.isLiteral = true) : isBracket k = false := by
  cases k <;> first | rfl | cases h

theorem isBracket_of_introducesVariables (h : Descent.introducesVariables k = true) :
    isBracket k = false := by
  cases k <;> first | rfl | cases h

end TokenKind

/-- Everything but the substitutions of a template. -/
def Part.isWhole : Part → Bool
  | .pieces _ => false
  | .list item => item.isWhole
  | _ => true

open TokenKind in
open Place.Clears in
/-- **Whatever part of the grammar is read from raw tokens, its brackets come in pairs.** -/
theorem clears_of_derives {n : Nat} {c : Context} {p : Part} {x y : Place} {ts : List Tree}
    (h : Derives n c p x ts y) (whole : p.isWhole = true) : x.Clears ts y := by
  induction h with
  -- Lists
  | listEnd | noStatement | noElement | noExpression | noInitializer | noCatch | noFinalizer
  | noClause => exact .nil
  | listLast _ ih => exact ih whole
  | listMore _ comma _ item rest => exact (item whole).append (comma.before (rest whole))
  | moreStatements _ _ item rest | moreClauses _ _ _ item rest =>
    exact (item rfl).append (rest rfl)
  | moreDeclarations _ comma _ item rest | moreElements _ comma _ item rest =>
    exact (item rfl).append (comma.before (rest rfl))
  | hole comma _ rest => exact comma.clears.append (rest rfl)
  -- Parts that are other parts
  | arrowParameterList _ ih | oneExpression _ ih | assignment _ _ ih
  | plainAssignment _ ih | plainConditional _ ih | operand _ _ ih | firstOperand _ ih
  | plainUnary _ ih | base _ ih | constructionBase _ ih | calleeBase _ _ ih
  | calleeConstruction _ _ ih | statement _ _ ih | lastDeclaration _ ih | someExpression _ ih
  | lastElement _ ih | plainElement _ ih | arrowValue _ ih | plainInitializer _ ih
  | arrowBlock _ ih | templateOperand _ ih | blockStatement _ ih | listInitializer _ ih =>
    exact ih rfl
  -- Brackets
  | parameterList opened _ closed inside | condition opened _ closed inside
  | arguments opened _ closed inside | elementKey opened _ closed inside =>
    exact .between opened (inside rfl) closed
  | block opened _ closed inside | parenthesized opened _ closed inside
  | array opened _ closed inside | object opened _ closed inside
  | computedName opened _ closed inside => exact .node (.between opened (inside rfl) closed)
  -- Functions
  | parameter named | arrowParameter named | declaration named | shorthand named =>
    exact .node named.clears
  | restParameter dots named => exact .node (dots.before named.clears)
  | defaultParameter named sign _ value | initialized named sign _ value =>
    exact .node (named.clears.append (sign.before (value rfl)))
  | arrow async _ mark _ parameters body =>
    exact .node (async.skips.then ((parameters rfl).append (mark.before (body rfl))))
  | functionValue head named _ _ parameters body =>
    exact .node (head.skips.then (named.clears.append ((parameters rfl).append (body rfl))))
  | functionDeclaration head named _ _ parameters body =>
    exact .node (head.skips.then ((Place.MayName.named named).clears.append
      ((parameters rfl).append (body rfl))))
  | method head _ _ _ named parameters body =>
    exact .node (head.skips.then ((named rfl).append (.method (parameters rfl) (body rfl))))
  -- Operators
  | comma _ mark _ left right => exact .node ((left rfl).append (mark.before (right rfl)))
  | assign _ mark assigns _ left right =>
    exact .node ((left rfl).append (mark.before (right rfl) (isBracket_of_isAssignment assigns)))
  | moreOperands _ mark binds _ left right =>
    exact .node ((left rfl).append (mark.before (right rfl) (isBracket_of_precedence binds)))
  | yieldAlone _ word => exact .node (word.skips.then .nil)
  | yieldDelegate _ word _ star _ operand => exact .node (word.before (star.before (operand rfl)))
  | yieldValue _ word _ _ operand | await _ word _ _ _ operand =>
    exact .node (word.before (operand rfl))
  | conditional _ question _ colon _ condition whenTrue whenFalse =>
    exact .node ((condition rfl).append
      (question.before ((whenTrue rfl).append (colon.before (whenFalse rfl)))))
  | prefixed mark operator _ _ operand =>
    exact .node (mark.before (operand rfl) (isBracket_of_isPrefixOperator operator))
  | postfixed _ mark operator operand =>
    exact .node ((operand rfl).take mark (by rcases operator with rfl | rfl <;> rfl))
  -- Members and calls
  | access _ mark named isName object =>
    exact .node ((object rfl).append
      (mark.before (named.clears (isBracket_of_isName isName)) (by split <;> rfl)))
  | keyAccess _ mark _ object inside | call _ mark _ object inside =>
    exact .node ((object rfl).append (mark.skips.then (inside rfl)))
  | taggedText _ text tag => exact .node ((tag rfl).append text.clears)
  | taggedTemplate _ _ tag body => exact .node ((tag rfl).append (body rfl))
  | construction word _ _ callee args =>
    exact .node (word.before ((callee rfl).append (args rfl)))
  | bareConstruction word _ callee => exact .node (word.before (callee rfl))
  -- Operands
  | name named => exact named.clears
  | word mark isWord => exact mark.clears (by rcases isWord with rfl | rfl | rfl | rfl <;> rfl)
  | literal mark isLiteral => exact mark.clears (isBracket_of_isLiteral isLiteral)
  | regex _ mark => exact .reread mark.isReread_literal
  | lastPiece | morePieces => cases whole
  | template => exact .reread rfl
  -- Parts of expressions
  | spread dots _ operand | spreadMember dots _ operand => exact .node (dots.before (operand rfl))
  | literalName mark isText => exact mark.clears (by rcases isText with rfl | rfl <;> rfl)
  | plainName mark isName => exact mark.clears (isBracket_of_isName isName)
  | property _ colon _ named value => exact .node ((named rfl).append (colon.before (value rfl)))
  -- Statements
  | emptyStatement mark => exact mark.clears
  | expressionStatement _ ended inside | variableStatement _ ended inside =>
    exact .node ((inside rfl).skip ended.skips)
  | variableList word introduces _ inside =>
    exact .node (word.before (inside rfl) (isBracket_of_introducesVariables introduces))
  | ifOnly word _ _ _ condition body | whileStatement word _ _ condition body =>
    exact .node (word.before ((condition rfl).append (body rfl)))
  | ifElse word _ _ other _ condition whenTrue whenFalse =>
    exact .node (word.before ((condition rfl).append
      ((whenTrue rfl).append (other.before (whenFalse rfl)))))
  | doStatement word _ while_ _ ended body condition =>
    exact .node (word.before ((body rfl).append
      (while_.before ((condition rfl).skip ended.skips))))
  | forStatement word opened _ mark _ mark' _ closed _ initializer condition incrementor body =>
    exact .node (word.before ((between opened ((initializer rfl).append
      (mark.before ((condition rfl).append (mark'.before (incrementor rfl))))) closed).append
      (body rfl)))
  | forIn word opened _ mark _ closed _ binding subject body
  | forOf word opened _ mark _ _ closed _ binding subject body =>
    exact .node (word.before ((between opened ((binding rfl).append
      (mark.before (subject rfl))) closed).append (body rfl)))
  | returnStatement word _ ended value | throwStatement word _ ended value =>
    exact .node (word.before ((value rfl).skip ended.skips))
  | breakStatement word label ended | continueStatement word label ended =>
    exact .node (word.before (label.clears.skip ended.skips))
  | catchAll word _ body => exact .node (word.before (body rfl))
  | catchNamed word opened named closed _ body =>
    exact .node (word.before ((between opened named.clears closed).append (body rfl)))
  | finalizer word _ body => exact word.before (body rfl)
  | tryStatement word _ _ _ _ body onFault finally_ =>
    exact .node (word.before ((body rfl).append ((onFault rfl).append (finally_ rfl))))
  | caseClause word _ colon _ test inside =>
    exact .node (word.before ((test rfl).append (colon.before (inside rfl))))
  | defaultClause word colon _ inside => exact .node (word.before (colon.before (inside rfl)))
  | switchStatement word _ opened _ closed subject inside =>
    exact .node (word.before ((subject rfl).append (.between opened (inside rfl) closed)))
  | labeledStatement label colon _ body =>
    exact .node (label.clears.append (colon.before (body rfl)))

end Shapewire
