/-
Every tree that the grammar builds is well-kinded.

`Part.Admits` says of which kinds the trees of a part are.  With it the rules of the grammar can
be checked one by one: the parts in a rule have trees of the kinds that the slots of its node ask
for, and the node is of a kind that the part of the rule admits.  Three facts are not about single
trees and have inductions of their own: a template has one text for each of its substitutions
behind it, a clause is the default if its part says so, and among the clauses of a switch there is
one default at most.
-/
import Shapewire.Proofs.Grammar.Derivation
import Shapewire.Proofs.Tree.Everywhere
import Shapewire.Proofs.Tree.Kinds

namespace Shapewire

namespace NodeKind

theorem isArgument_of_isExpression {k : NodeKind} (h : k.isExpression) : k.isArgument := by
  simp [isArgument, h]

theorem isElement_of_isArgument {k : NodeKind} (h : k.isArgument) : k.isElement := by
  simp [isElement, h]

theorem isBinding_of_isExpression {k : NodeKind} (h : k.isExpression) : k.isBinding := by
  simp [isBinding, h]

theorem isArrowBody_of_isExpression {k : NodeKind} (h : k.isExpression) : k.isArrowBody := by
  simp [isArrowBody, h]

end NodeKind

/-- What binds anywhere binds where `in` is an operator. -/
theorem Descent.precedence_le (c : Context) (k : TokenKind) :
    Descent.precedence c k ≤ Descent.precedence {} k := by
  cases k
  case inKeyword =>
    simp only [precedence]
    split <;> simp
  all_goals exact Nat.le_refl _

/-- The power is tighter than all other operators. -/
theorem Descent.precedence_le_ten {c : Context} {k : TokenKind} (other : k ≠ .power) :
    Descent.precedence c k ≤ 10 := by
  refine Nat.le_trans (Descent.precedence_le c k) ?_
  cases k
  case power => exact absurd rfl other
  all_goals simp [precedence]

/-- The kinds of the trees of a part. -/
def Part.Admits : Part → NodeKind → Prop
  | .block | .finalizer => (· = .block)
  | .parameter | .parameterList | .arrowParameters => (· = .parameter)
  | .arrowBody => (·.isArrowBody)
  | .expression | .assignment | .assignmentBody | .conditional | .operand _ | .operands _ | .unary
  | .suffixed _ | .construction | .primary | .condition | .elementKey | .pieces _
  | .optionalExpression => (·.isExpression)
  | .element | .arguments => (·.isArgument)
  | .elements => (·.isElement)
  | .propertyName => (·.isPropertyName)
  | .member => (·.isMember)
  | .template => (· = .template)
  | .statement | .statementBody | .statements => (·.isStatement)
  | .declaration | .declarations => (· = .variableDeclaration)
  | .variableList => (· = .variableList)
  | .forInitializer => (·.isBinding)
  | .catchClause => (· = .catchClause)
  | .clause isDefault => (· = if isDefault then .defaultClause else .caseClause)
  | .clauses _ => (·.isClause)
  | .list item => item.Admits

/-! ### Trees of some kinds -/

variable {α : Type} {P : α → Prop} {a : α}

/-- What is left out has every property. -/
theorem forall_mem_absent : ∀ b ∈ (none : Option α), P b := nofun

theorem forall_mem_present (h : P a) : ∀ b ∈ some a, P b := by
  rintro _ ⟨⟩
  exact h

/-- Everything in the trees is well-kinded. -/
def AllWellKinded (ts : List Tree) : Prop := ∀ t ∈ ts, t.Everywhere Tree.WellKinded

/-- The same, and the trees themselves are of kinds that `p` admits. -/
structure Kinded (p : NodeKind → Prop) (ts : List Tree) : Prop where
  kinds : ∀ t ∈ ts, p t.kind
  within : AllWellKinded ts

variable {p q : NodeKind → Prop} {t u : Tree} {ts us : List Tree} {t? : Option Tree}
  {x y z : Place} {k : TokenKind} {kind : NodeKind} {flags : NodeFlags}
  {r : Record Tree (Option Tree) String}

namespace AllWellKinded

theorem nil : AllWellKinded [] := AllEverywhere.nil

theorem append (h : AllWellKinded ts) (h' : AllWellKinded us) : AllWellKinded (ts ++ us) :=
  AllEverywhere.append h h'

theorem leaf (isLeaf : kind.isLeaf) : AllWellKinded [x.leaf y kind] := AllEverywhere.leaf isLeaf

/-- A node is well-kinded if it holds what its kind allows and its children are. -/
theorem node (inside : AllWellKinded us) (holds : r.kinds.WellKinded kind (flags.union r.flags))
    (children : r.children kind (fun c => [c]) Option.toList = us := by
      first | rfl | simp [Record.children, Record.slots]) :
    AllWellKinded [x.flagged y kind flags r] := by
  subst children
  exact AllEverywhere.one holds inside

theorem name : AllWellKinded [x.name y] := nil.node .identifier rfl

end AllWellKinded

namespace Kinded

theorem nil : Kinded p [] := ⟨nofun, nofun⟩

theorem append (h : Kinded p ts) (h' : Kinded p us) : Kinded p (ts ++ us) :=
  ⟨List.forall_mem_append.mpr ⟨h.kinds, h'.kinds⟩, h.within.append h'.within⟩

theorem weaken (h : Kinded p ts) (implies : ∀ {k}, p k → q k) : Kinded q ts :=
  ⟨fun t mem => implies (h.kinds t mem), h.within⟩

theorem one (h : Kinded p [t]) : p t.kind := h.kinds t List.mem_cons_self

theorem each (h : Kinded p ts) : ∀ k ∈ ts.map Tree.kind, p k := List.forall_mem_map.mpr h.kinds

theorem optional (h : Kinded p t?.toList) : ∀ k ∈ t?.map Tree.kind, p k := by
  cases t? with
  | none => exact forall_mem_absent
  | some t => exact forall_mem_present h.one

theorem leaf (isLeaf : kind.isLeaf) (admitted : p kind := by rfl) : Kinded p [x.leaf y kind] :=
  ⟨List.forall_mem_singleton.mpr admitted, .leaf isLeaf⟩

theorem node (inside : AllWellKinded us) (holds : r.kinds.WellKinded kind (flags.union r.flags))
    (admitted : p kind := by rfl)
    (children : r.children kind (fun c => [c]) Option.toList = us := by
      first | rfl | simp [Record.children, Record.slots]) :
    Kinded p [x.flagged y kind flags r] :=
  ⟨List.forall_mem_singleton.mpr admitted, inside.node holds children⟩

theorem name (admitted : p (.token .identifier) := by rfl) : Kinded p [x.name y] :=
  node .nil .identifier admitted rfl

theorem literal (mark : x.Takes k y) (isLiteral : k.isLiteral) (admitted : p (.token k)) :
    Kinded p [x.literal y] := by
  rw [← mark.token] at isLiteral admitted
  exact node .nil (.literal isLiteral) admitted rfl

theorem hole : Kinded (·.isElement) [x.hole] :=
  ⟨List.forall_mem_singleton.mpr rfl, List.forall_mem_singleton.mpr (.intro rfl nofun)⟩

/-- A method is a function expression. -/
theorem method {b : Tree} (parameters : Kinded (· = .parameter) ts)
    (body : Kinded (· = .block) [b]) : Kinded (·.isExpression)
      [x.flagged y .functionExpression flags (.function none ts b false)] :=
  node (parameters.within.append body.within)
    (.functionExpression forall_mem_absent parameters.each body.one)

end Kinded

theorem Place.MayName.kinded (h : x.MayName t? y) : Kinded (· = .token .identifier) t?.toList := by
  cases h with
  | named => exact .name rfl
  | unnamed => exact .nil

/-! ### Clauses and templates -/

theorem kind_of_clause {isDefault : Bool} {n : Nat} {c : Context}
    (h : Derives n c (.clause isDefault) x [t] y) :
    t.kind = if isDefault then .defaultClause else .caseClause := by
  cases h with
  | caseClause => rfl
  | defaultClause => rfl

/-- Of the clauses of a switch one is the default at most, and none if it has been seen. -/
theorem count_default {seen : Bool} {n : Nat} {c : Context}
    (h : Derives n c (.clauses seen) x ts y) :
    (ts.map Tree.kind).count .defaultClause ≤ if seen then 0 else 1 := by
  generalize is : Part.clauses seen = part at h
  induction h generalizing seen with
  | noClause => simp
  | @moreClauses n c isDefault x t y seen' ts z first once rest _ ih =>
    obtain rfl : seen = seen' := by injection is
    have behind := ih rfl
    rw [List.map_cons, List.count_cons, kind_of_clause first]
    cases isDefault <;> cases seen <;> simp_all
  | _ => cases is

/-- A template goes on with one text behind each of its substitutions. -/
theorem length_pieces {texts : List String} {n : Nat} {c : Context}
    (h : Derives n c (.pieces texts) x ts y) : texts.length = ts.length := by
  generalize is : Part.pieces texts = part at h
  induction h generalizing texts with
  | lastPiece =>
    cases is
    rfl
  | morePieces _ _ _ _ _ ih =>
    cases is
    exact congrArg (· + 1) (ih rfl)
  | _ => cases is

open Kinded in
/-- **Whatever part of the grammar is read, its trees are well-kinded**, and of the kinds of that
part. -/
theorem kinded_of_derives {n : Nat} {c : Context} {p : Part} (h : Derives n c p x ts y) :
    Kinded p.Admits ts := by
  induction h with
  | listEnd | noStatement | noElement | noExpression | noInitializer | noCatch | noFinalizer
  | noClause => exact .nil
  | listLast _ ih | arrowParameterList _ ih | oneExpression _ ih | assignment _ _ ih
  | plainAssignment _ ih | plainConditional _ ih | operand _ _ ih | firstOperand _ ih
  | plainUnary _ ih | base _ ih | constructionBase _ ih | calleeBase _ _ ih
  | calleeConstruction _ _ ih | statement _ _ ih | lastDeclaration _ ih | someExpression _ ih
  | parameterList _ _ _ ih | condition _ _ _ ih | arguments _ _ _ ih | elementKey _ _ _ ih
  | finalizer _ _ ih | lastPiece _ _ _ ih => exact ih
  | listMore _ _ _ item rest | moreStatements _ _ item rest | moreDeclarations _ _ _ item rest
  | morePieces _ _ _ _ item rest => exact item.append rest
  | moreElements _ _ _ item rest =>
    exact (item.weaken NodeKind.isElement_of_isArgument).append rest
  | lastElement _ ih => exact ih.weaken NodeKind.isElement_of_isArgument
  | plainElement _ ih => exact ih.weaken NodeKind.isArgument_of_isExpression
  | arrowValue _ ih => exact ih.weaken NodeKind.isArrowBody_of_isExpression
  | plainInitializer _ ih => exact ih.weaken NodeKind.isBinding_of_isExpression
  | arrowBlock _ ih | templateOperand _ ih | blockStatement _ ih | listInitializer _ ih =>
    exact ih.weaken fun is => by rw [is]; rfl
  -- Functions
  | block _ _ _ inside => exact .node inside.within (.block inside.each)
  | parameter | arrowParameter => exact .node .name (.parameter forall_mem_absent)
  | restParameter => exact .node .name .restParameter
  | defaultParameter _ _ _ value =>
    exact .node (.append .name value.within) (.parameter value.optional)
  | arrow _ _ _ _ parameters body =>
    exact .node (parameters.within.append body.within) (.arrowFunction parameters.each body.one)
  | functionValue _ named _ _ parameters body =>
    exact .node ((named.kinded.within.append parameters.within).append body.within)
      (.functionExpression named.kinded.optional parameters.each body.one)
  | functionDeclaration _ named _ _ parameters body =>
    have name := (Place.MayName.named named).kinded.within
    exact .node ((name.append parameters.within).append body.within)
      (.functionDeclaration parameters.each body.one)
  -- Operators
  | comma _ _ _ left right =>
    exact .node (left.within.append right.within) (.binary left.one rfl right.one)
  | @assign n c x l y k z r u _ _ assigns _ left right =>
    have operator : NodeKind.isInfix (.token k) := by simp [NodeKind.isInfix, assigns]
    exact .node (left.within.append right.within) (.binary left.one operator right.one)
  | @moreOperands n c least x l y k z r u _ _ binds _ left right =>
    have above := Nat.lt_of_lt_of_le (Nat.zero_lt_of_lt binds) (Descent.precedence_le c k)
    have operator : NodeKind.isInfix (.token k) := by simp [NodeKind.isInfix, above]
    exact .node (left.within.append right.within) (.binary left.one operator right.one)
  | yieldAlone => exact .node .nil (.yieldAlone rfl)
  | yieldDelegate _ _ _ _ _ operand | yieldValue _ _ _ _ operand =>
    exact .node operand.within (.yielding operand.one)
  | conditional _ _ _ _ _ condition whenTrue whenFalse =>
    exact .node ((condition.within.append whenTrue.within).append whenFalse.within)
      (.conditional condition.one whenTrue.one whenFalse.one)
  | await _ _ _ _ _ operand => exact .node operand.within (.awaiting operand.one)
  | prefixed _ operator _ _ operand =>
    exact .node operand.within (.prefixed operator operand.one)
  | @postfixed n c x e y k z _ _ operator operand =>
    have operator : NodeKind.isPostfix (.token k) := by simpa [NodeKind.isPostfix] using operator
    exact .node operand.within (.postfixed operator operand.one)
  -- Members and calls
  | access _ _ _ _ object =>
    exact .node (object.within.append .name) (.propertyAccess object.one)
  | keyAccess _ _ _ object key =>
    exact .node (object.within.append key.within) (.elementAccess object.one key.one)
  | call _ _ _ callee args =>
    exact .node (callee.within.append args.within) (.call callee.one args.each)
  | taggedText _ text tag =>
    have whole : Kinded (·.isTemplate) [_] := .literal text rfl rfl
    exact .node (tag.within.append whole.within) (.taggedTemplate tag.one whole.one)
  | taggedTemplate _ _ tag body =>
    have whole : Kinded (·.isTemplate) [_] := body.weaken fun is => by rw [is]; rfl
    exact .node (tag.within.append whole.within) (.taggedTemplate tag.one whole.one)
  | construction _ _ _ callee args =>
    exact .node (callee.within.append args.within)
      (.construction callee.one (forall_mem_present args.each))
  | bareConstruction _ _ callee =>
    exact .node callee.within (.construction callee.one forall_mem_absent)
  -- Operands
  | name => exact .name
  | word _ isWord => rcases isWord with rfl | rfl | rfl | rfl <;> exact .leaf rfl
  | literal mark isLiteral =>
    exact .literal mark isLiteral (by simp [Part.Admits, NodeKind.isExpression, isLiteral])
  | regex _ mark => exact .literal mark rfl rfl
  | parenthesized _ _ _ inside => exact .node inside.within (.parenthesized inside.one)
  | array _ _ _ inside => exact .node inside.within (.array inside.each)
  | object _ _ _ inside => exact .node inside.within (.object inside.each)
  | template _ pieces inside =>
    exact .node inside.within (.template (by simp [length_pieces pieces]) inside.each)
  -- Parts of operands
  | spread _ _ operand => exact .node operand.within (.spread operand.one)
  | hole _ _ rest => exact Kinded.hole.append rest
  | literalName mark isText => rcases isText with rfl | rfl <;> exact .literal mark rfl rfl
  | computedName _ _ _ key => exact .node key.within (.computedName key.one)
  | plainName => exact .name
  | spreadMember _ _ operand => exact .node operand.within (.spreadProperty operand.one)
  | method _ _ _ _ named parameters body =>
    exact .node (named.within.append (method parameters body).within) (.property named.one rfl)
  | property _ _ _ named value =>
    exact .node (named.within.append value.within) (.property named.one value.one)
  | shorthand => exact .node .name .shorthand
  -- Variables
  | declaration => exact .node .name (.variableDeclaration forall_mem_absent)
  | initialized _ _ _ value =>
    exact .node (AllWellKinded.name.append value.within) (.variableDeclaration value.optional)
  | variableList _ _ _ inside => exact .node inside.within (.variableList inside.each)
  | variableStatement _ _ inside =>
    exact .node inside.within (.variableStatement inside.one)
  -- Other statements
  | emptyStatement => exact .leaf rfl
  | expressionStatement _ _ inside => exact .node inside.within (.expressionStatement inside.one)
  | ifOnly _ _ _ _ condition whenTrue =>
    exact .node (condition.within.append whenTrue.within)
      (.ifStatement condition.one whenTrue.one forall_mem_absent)
  | ifElse _ _ _ _ _ condition whenTrue whenFalse =>
    exact .node ((condition.within.append whenTrue.within).append whenFalse.within)
      (.ifStatement condition.one whenTrue.one whenFalse.optional)
  | doStatement _ _ _ _ _ body condition =>
    exact .node (body.within.append condition.within) (.doStatement condition.one body.one)
  | whileStatement _ _ _ condition body =>
    exact .node (condition.within.append body.within) (.whileStatement condition.one body.one)
  | forStatement _ _ _ _ _ _ _ _ _ initializer condition incrementor body =>
    exact .node
      (((initializer.within.append condition.within).append incrementor.within).append body.within)
      (.forStatement initializer.optional condition.optional incrementor.optional body.one)
  | forIn _ _ _ _ _ _ _ binding subject body =>
    exact .node ((binding.within.append subject.within).append body.within)
      (.forInStatement binding.one subject.one body.one)
  | forOf _ _ _ _ _ _ _ _ binding subject body =>
    exact .node ((binding.within.append subject.within).append body.within)
      (.forOfStatement binding.one subject.one body.one)
  | returnStatement _ _ _ value => exact .node value.within (.returnStatement value.optional)
  | throwStatement _ _ _ value => exact .node value.within (.throwStatement value.one)
  | breakStatement _ label =>
    exact .node label.kinded.within (.breakStatement label.kinded.optional)
  | continueStatement _ label =>
    exact .node label.kinded.within (.continueStatement label.kinded.optional)
  | labeledStatement _ _ _ body =>
    exact .node (AllWellKinded.name.append body.within) (.labeledStatement body.one)
  -- Faults and switches
  | catchAll _ _ body =>
    exact .node body.within (.catchClause forall_mem_absent body.one)
  | catchNamed _ _ named _ _ body =>
    have name := (Place.MayName.named named).kinded
    exact .node (name.within.append body.within) (.catchClause name.optional body.one)
  | tryStatement _ _ _ _ some body onFault finally_ =>
    exact .node ((body.within.append onFault.within).append finally_.within)
      (.tryStatement body.one onFault.optional finally_.optional (by simpa using some))
  | caseClause _ _ _ _ test inside =>
    exact .node (test.within.append inside.within) (.caseClause test.one inside.each)
  | defaultClause _ _ _ inside => exact .node inside.within (.defaultClause inside.each)
  | moreClauses _ _ _ first rest =>
    refine (first.weaken fun is => ?_).append rest
    rw [is]
    split <;> rfl
  | switchStatement _ _ _ clauses _ subject inside =>
    exact .node (subject.within.append inside.within)
      (.switchStatement subject.one inside.each (count_default clauses))

end Shapewire
