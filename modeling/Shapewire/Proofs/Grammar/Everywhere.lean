/-
Properties that every node of a derived tree has.

Whatever part of the grammar is read, each node of its trees is built by one rule, and the context
of that rule is the mode of the node.  Most rules build nodes of which nothing but their parts is of
interest.  Some build operations: a binary node, a `yield`, a member and so on.  Then the node alone
is an expression.  Two build branches, and then the node alone is a statement.  So a property that
all trees of expressions have, all branches that are statements, and all trees that are neither
operations nor branches, holds everywhere (`within_of_derives`).
-/
import Shapewire.Proofs.Grammar.Derivation
import Shapewire.Proofs.Grammar.Soundness
import Shapewire.Proofs.Tree.Modes
import Shapewire.Proofs.Tree.RightChain
import Shapewire.Proofs.Tree.Source

namespace Shapewire

/-! ### Operations -/

/-- The records of what operates on operands. -/
def Record.isOperation {ρ ο ν : Type} : Record ρ ο ν → Bool
  | binary .. | unary .. | access .. | call .. | taggedTemplate .. => true
  | _ => false

/-- The records of what has two parts of which one is executed. -/
def Record.isBranch {ρ ο ν : Type} : Record ρ ο ν → Bool
  | branch .. => true
  | _ => false

/-- The kinds of operations that are words in front of an operand. -/
def NodeKind.isWordOperation : NodeKind → Bool
  | yielding | awaiting => true
  | _ => false

/-- What operates on operands. -/
def Tree.isOperation (t : Tree) : Bool :=
  t.kind.isWordOperation || t.record?.any Record.isOperation

/-- What has two parts of which one is executed. -/
def Tree.isBranch (t : Tree) : Bool := t.record?.any Record.isBranch

theorem Tree.binary?_of_isOperation {t : Tree} (h : t.isOperation = false) : t.binary? = none := by
  rw [isOperation, Bool.or_eq_false_iff] at h
  unfold binary?
  cases form : t.record? with
  | none => rfl
  | some r =>
    rw [form] at h
    cases r <;> first | rfl | cases h.2

/-- The parts that are one expression. -/
def Part.isExpression : Part → Bool
  | .expression | .assignment | .assignmentBody | .conditional | .operand _ | .operands _ | .unary
  | .suffixed _ | .construction | .primary | .template => true
  | _ => false

/-- The mode that what is read in a context has. -/
def Context.mode (c : Context) : Mode := ⟨c.yieldIsOperator, c.awaitIsOperator⟩

variable {P : Mode → Tree → Prop} {m : Mode} {t b : Tree} {ts us : List Tree} {x y : Place}
  {kind : NodeKind} {flags : NodeFlags} {r : Record Tree (Option Tree) String}

/-- A node that is no function has the property within if it has it and its children have it
within. -/
theorem AllWithin.node (inside : AllWithin P m us) (root : P m (x.flagged y kind flags r))
    (children : r.children kind (fun c => [c]) Option.toList = us := by
      first | rfl | simp [Record.children, Record.slots])
    (noFunction : r.signature? = none := by rfl) : AllWithin P m [x.flagged y kind flags r] := by
  subst children
  exact .one root inside noFunction

section derives

variable (plain : ∀ m t, t.isOperation = false → t.isBranch = false → P m t)

include plain

theorem allWithin_name : AllWithin P m [x.name y] := .leaf (plain _ _ rfl rfl)

theorem allWithin_literal : AllWithin P m [x.literal y] := .leaf (plain _ _ rfl rfl)

theorem Place.MayName.allWithin {t? : Option Tree} (h : x.MayName t? y) :
    AllWithin P m t?.toList := by
  cases h with
  | named => exact allWithin_name plain
  | unnamed => exact .nil

/-- A method is a function without a name. -/
theorem allWithin_method (parameters : AllWithin P ⟨flags.has .generator, flags.has .async⟩ ts)
    (body : AllWithin P ⟨flags.has .generator, flags.has .async⟩ [b]) :
    AllWithin P m [x.flagged y .functionExpression flags (.function none ts b false)] :=
  .function rfl (plain _ _ rfl rfl) .nil parameters body

/-- **Every node of a derived tree has a property** that all trees have that are neither operations
nor branches, all that can be read as an expression, and all branches that can be read as a
statement. -/
theorem within_of_derives
    (built : ∀ {n c p x y t}, p.isExpression = true → Derives n c p x [t] y → P c.mode t)
    (branched : ∀ {n c x y t}, t.isOperation = false → Derives n c .statementBody x [t] y →
      P c.mode t)
    {n : Nat} {c : Context} {p : Part} (h : Derives n c p x ts y) : AllWithin P c.mode ts := by
  have name {m : Mode} {x y : Place} : AllWithin P m [x.name y] := allWithin_name plain
  induction h with
  -- Operations
  | comma left mark right left_ih right_ih =>
    exact .node (left_ih.append right_ih) (built rfl (.comma left mark right))
  | assign left mark assigns right left_ih right_ih =>
    exact .node (left_ih.append right_ih) (built rfl (.assign left mark assigns right))
  | moreOperands left mark binds right left_ih right_ih =>
    exact .node (left_ih.append right_ih) (built rfl (.moreOperands left mark binds right))
  | @yieldAlone n c x y operator word spelled =>
    exact .leaf (built rfl (Derives.yieldAlone (n := n) operator word spelled))
  | yieldDelegate operator word spelled star operand ih =>
    exact .node ih (built rfl (.yieldDelegate operator word spelled star operand))
  | yieldValue operator word spelled operand ih =>
    exact .node ih (built rfl (.yieldValue operator word spelled operand))
  | await operator word spelled room operand ih =>
    exact .node ih (built rfl (.await operator word spelled room operand))
  | prefixed mark operator room operand ih =>
    exact .node ih (built rfl (.prefixed mark operator room operand))
  | postfixed operand mark operator ih =>
    exact .node ih (built rfl (.postfixed operand mark operator))
  | access object mark named isName ih =>
    exact .node (ih.append name) (built rfl (.access object mark named isName))
  | keyAccess object mark key object_ih key_ih =>
    exact .node (object_ih.append key_ih) (built rfl (.keyAccess object mark key))
  | call callee mark args callee_ih args_ih =>
    exact .node (callee_ih.append args_ih) (built rfl (.call callee mark args))
  | taggedText tag text ih =>
    exact .node (ih.append (allWithin_literal plain)) (built rfl (.taggedText tag text))
  | taggedTemplate tag body tag_ih body_ih =>
    exact .node (tag_ih.append body_ih) (built rfl (.taggedTemplate tag body))
  | construction word callee args callee_ih args_ih =>
    exact .node (callee_ih.append args_ih) (built rfl (.construction word callee args))
  | bareConstruction word callee ih =>
    exact .node ih (built rfl (.bareConstruction word callee))
  -- Branches
  | ifOnly word condition whenTrue last condition_ih whenTrue_ih =>
    exact .node (condition_ih.append whenTrue_ih)
      (branched rfl (.ifOnly word condition whenTrue last))
  | ifElse word condition whenTrue other whenFalse condition_ih whenTrue_ih whenFalse_ih =>
    exact .node ((condition_ih.append whenTrue_ih).append whenFalse_ih)
      (branched rfl (.ifElse word condition whenTrue other whenFalse))
  -- Functions
  | arrow _ _ _ _ parameters body =>
    exact .function rfl (plain _ _ rfl rfl) .nil parameters body
  | functionValue _ named _ _ parameters body =>
    exact .function rfl (plain _ _ rfl rfl) (named.allWithin plain) parameters body
  | functionDeclaration _ _ _ _ parameters body =>
    exact .function rfl (plain _ _ rfl rfl) name parameters body
  | method _ _ _ _ named parameters body =>
    exact .node (named.append (allWithin_method plain parameters body)) (plain _ _ rfl rfl)
  -- Parts that are other parts
  | listEnd | noStatement | noElement | noExpression | noInitializer | noCatch | noFinalizer
  | noClause => exact .nil
  | listLast _ ih | arrowParameterList _ ih | oneExpression _ ih | assignment _ _ ih
  | plainAssignment _ ih | plainConditional _ ih | operand _ _ ih | firstOperand _ ih
  | plainUnary _ ih | base _ ih | constructionBase _ ih | calleeBase _ _ ih
  | calleeConstruction _ _ ih | statement _ _ ih | lastDeclaration _ ih | someExpression _ ih
  | parameterList _ _ _ ih | condition _ _ _ ih | arguments _ _ _ ih | elementKey _ _ _ ih
  | finalizer _ _ ih | lastPiece _ _ _ ih | lastElement _ ih | plainElement _ ih
  | arrowValue _ ih | plainInitializer _ ih | arrowBlock _ ih | templateOperand _ ih
  | blockStatement _ ih | listInitializer _ ih => exact ih
  | listMore _ _ _ item rest | moreStatements _ _ item rest | moreDeclarations _ _ _ item rest
  | morePieces _ _ _ _ item rest | moreElements _ _ _ item rest | moreClauses _ _ _ item rest =>
    exact item.append rest
  -- Nodes without children
  | name | plainName => exact name
  | word | literal | regex | literalName | emptyStatement => exact .leaf (plain _ _ rfl rfl)
  | hole _ _ rest => exact (AllWithin.leaf (plain _ _ rfl rfl)).append rest
  -- Nodes around one part
  | block _ _ _ ih | parenthesized _ _ _ ih | array _ _ _ ih | object _ _ _ ih | spread _ _ ih
  | computedName _ _ _ ih | spreadMember _ _ ih | template _ _ ih | expressionStatement _ _ ih
  | variableList _ _ _ ih | variableStatement _ _ ih | returnStatement _ _ _ ih
  | throwStatement _ _ _ ih | catchAll _ _ ih | defaultClause _ _ _ ih =>
    exact .node ih (plain _ _ rfl rfl)
  -- Nodes around several parts
  | property _ _ _ a b | doStatement _ _ _ _ _ a b | whileStatement _ _ _ a b
  | caseClause _ _ _ _ a b | switchStatement _ _ _ _ _ a b =>
    exact .node (a.append b) (plain _ _ rfl rfl)
  | conditional _ _ _ _ _ a b d | forIn _ _ _ _ _ _ _ a b d | forOf _ _ _ _ _ _ _ _ a b d
  | tryStatement _ _ _ _ _ a b d =>
    exact .node ((a.append b).append d) (plain _ _ rfl rfl)
  | forStatement _ _ _ _ _ _ _ _ _ a b d e =>
    exact .node (((a.append b).append d).append e) (plain _ _ rfl rfl)
  -- Nodes with names
  | parameter | restParameter | arrowParameter | declaration | shorthand =>
    exact .node name (plain _ _ rfl rfl)
  | defaultParameter _ _ _ ih | initialized _ _ _ ih | catchNamed _ _ _ _ _ ih
  | labeledStatement _ _ _ ih => exact .node (name.append ih) (plain _ _ rfl rfl)
  | breakStatement _ label | continueStatement _ label =>
    exact .node (label.allWithin plain) (plain _ _ rfl rfl)

/-- So it is in every source that parses: outside of functions neither word is an operator. -/
theorem SourceTree.within_of_parts
    (built : ∀ {n c p x y t}, p.isExpression = true → Derives n c p x [t] y → P c.mode t)
    (branched : ∀ {n c x y t}, t.isOperation = false → Derives n c .statementBody x [t] y →
      P c.mode t)
    {file text : String} {s : SourceTree} (parsed : parse file text = .ok s) :
    s.tree.Within P .outside := by
  obtain ⟨ts, last, derived, -, root⟩ := Tree.derives_parse (text_of_parse parsed).2
  have inside := within_of_derives plain built branched derived
  rw [root]
  refine AllWithin.one (plain _ _ rfl rfl) (fun c mem => inside c ?_) rfl _ List.mem_cons_self
  simpa [Tree.children, Tree.record?, Record.children, Record.slots] using mem

end derives

namespace SourceTree

/-- A property that all trees have that are no operations, and all that can be read as an
expression. -/
theorem within_of_parse (plain : ∀ m t, t.isOperation = false → P m t)
    (built : ∀ {n c p x y t}, p.isExpression = true → Derives n c p x [t] y → P c.mode t)
    {file text : String} {s : SourceTree} (parsed : parse file text = .ok s) :
    s.tree.Within P .outside :=
  within_of_parts (fun m t other _ => plain m t other) built (fun other _ => plain _ _ other) parsed

/-- A property that does not ask for the mode is had everywhere. -/
theorem everywhere_of_parse {Q : Tree → Prop} (plain : ∀ t : Tree, t.isOperation = false → Q t)
    (built : ∀ {n c p x y t}, p.isExpression = true → Derives n c p x [t] y → Q t)
    {file text : String} {s : SourceTree} (parsed : parse file text = .ok s) :
    s.tree.Everywhere Q :=
  (within_of_parse (P := fun _ => Q) (fun _ => plain) built parsed).everywhere

end SourceTree

end Shapewire
