/-
How every production is put together, given that the parts reached through the descent are.

The parts may be reached through other parsers that are made in the same way on this level
(`Descent.via`), and then the production is as well.  All but two run their parts on one level.  The
callee of a construction is one level deeper than the arguments behind it, and so is the operand
behind an operator in front of it, so these two are given a second descent for what lies deeper
(`Descent.constructionVia`, `Descent.unaryVia`).
-/
import Shapewire.Proofs.Grammar.Built.Rules

namespace Shapewire

open Shapewire.Parser

namespace Descent

/-- The descent that reaches its parts through `q` instead. -/
def via (d : Descent) (q : Nonterminal → Parser Tree) : Descent := { d with parse := q }

/-- A construction whose callee reaches its parts through a descent of its own. -/
def constructionVia (inner d : Descent) : Parser Tree := do
  let start ← pos
  expect .newKeyword
  let calleeStart ← pos
  let callee ← nested do
    if ← isToken .newKeyword then inner.parse .construction else inner.primary
  let callee ← d.suffixes calleeStart false callee
  let args ← if ← isToken .openParen then some <$> d.arguments else pure none
  finish .construction start (.call callee args)

/-- An operand with its operators, where the operand behind an operator is reached through a
descent of its own. -/
def unaryVia (inner d : Descent) : Parser Tree := do
  let start ← pos
  let k ← token
  if (← get).context.awaitIsOperator && (← isWord "await") then
    advance
    let e ← nested (inner.parse .unary)
    finish .awaiting start (.wrapped (some e))
  else if isPrefixOperator k then
    advance
    let e ← nested (inner.parse .unary)
    finish .prefixUnary start (.unary (.token k) e)
  else
    let e ← d.leftHandSide
    let k ← token
    if (k == .increment || k == .decrement) && !(← lineBreak) then
      advance
      finish .postfixUnary start (.unary (.token k) e)
    else return e

/-- With one descent for both it is the production. -/
theorem construction_eq (d : Descent) : d.construction = d.constructionVia d := rfl

theorem unary_eq (d : Descent) : d.unary = d.unaryVia d := rfl

section productions

variable {n : Nat} {d : Descent} {q : Nonterminal → Parser Tree}
  (built : ∀ part, Built n (d.parse part) (q part))

/-! ### Functions -/

theorem built_blockGoesOn : Built n blockGoesOn blockGoesOn := by
  refine .bind .token fun k => ?_
  split
  · exact .pure
  · exact .unexpected
  · exact .pure

theorem built_functionHead : Built n functionHead functionHead :=
  .bind .isWord fun _ => .optionalWord (.bind .expect fun _ => .bind .accept fun _ => .pure)

include built

theorem built_block : Built n d.block (d.via q).block :=
  .bind .pos fun _ => .bind .expect fun _ =>
    .bind (.allowIn (.repeatWhile built_blockGoesOn (built .statement))) fun _ =>
      .bind .expect fun _ => .finish

theorem built_parameter : Built n d.parameter (d.via q).parameter :=
  .bind .pos fun _ => .bind .accept fun _ => .bind .identifier fun _ => .join .pure .accept fun _ =>
    .optional (.allowIn (built .assignment)) fun _ => .finish

theorem built_parameterList : Built n d.parameterList (d.via q).parameterList :=
  .bind .expect fun _ => .bind (.commaList (built_parameter built)) fun _ =>
    .bind .expect fun _ => .pure

theorem built_functionRest {kind : NodeKind} {start : Nat} {name : Option Tree}
    {flags : NodeFlags} : Built n (d.functionRest kind start name flags)
      ((d.via q).functionRest kind start name flags) := by
  refine .bind (.withContext ?_) fun _ => .flagged
  exact (built_parameterList built).bind fun _ => (built_block built).bind fun _ => .pure

theorem built_functionDeclaration : Built n d.functionDeclaration (d.via q).functionDeclaration :=
  .bind .pos fun _ => built_functionHead.bind fun _ => .bind .identifier fun _ =>
    built_functionRest built

theorem built_functionExpression : Built n d.functionExpression (d.via q).functionExpression :=
  .bind .pos fun _ => built_functionHead.bind fun _ => .bind .isToken fun _ =>
    .optional .identifier fun _ => built_functionRest built

theorem built_arrowParameters : Built n d.arrowParameters (d.via q).arrowParameters :=
  .ifToken (.bind .pos fun _ => .bind .identifier fun _ => .bind .finish fun _ => .pure)
    (built_parameterList built)

theorem built_arrowFunction : Built n d.arrowFunction (d.via q).arrowFunction := by
  refine .bind .pos fun _ => .bind .startsAsyncArrow fun _ => .optionalWord ?_
  refine (built_arrowParameters built).bind fun _ => .bind .expect fun _ => ?_
  exact .bind (.withContext (.ifToken (built_block built) (built .assignment))) fun _ => .flagged

/-! ### Commas and lists in brackets -/

theorem built_commaTurn {start : Nat} {left : Tree} :
    Built n (d.commaTurn start left) ((d.via q).commaTurn start left) :=
  .bind .accept fun _ => .ite ((built .assignment).bind fun _ => .bind .finish fun _ => .pure) .pure

theorem built_expression : Built n d.expression (d.via q).expression :=
  .bind .pos fun _ => (built .assignment).bind fun _ => .loop fun _ => built_commaTurn built

theorem built_condition : Built n d.condition (d.via q).condition :=
  .bind .expect fun _ => .bind (.allowIn (built_expression built)) fun _ =>
    .bind .expect fun _ => .pure

theorem built_spreadOrAssignment {kind : NodeKind} :
    Built n (d.spreadOrAssignment kind) ((d.via q).spreadOrAssignment kind) :=
  .ifToken (.bind .pos fun _ => .bind .advance fun _ => (built .assignment).bind fun _ => .finish)
    (built .assignment)

theorem built_arguments : Built n d.arguments (d.via q).arguments :=
  .bind .expect fun _ => .bind (.allowIn (.commaList (built_spreadOrAssignment built))) fun _ =>
    .bind .expect fun _ => .pure

theorem built_elementKey : Built n d.elementKey (d.via q).elementKey :=
  .bind .expect fun _ => .bind (.allowIn (built_expression built)) fun _ =>
    .bind .expect fun _ => .pure

theorem built_arrayElements (turns : Nat) :
    Built n (d.arrayElements turns) ((d.via q).arrayElements turns) := by
  induction turns with
  | zero => exact .exhausted
  | succ turns ih =>
    refine .bind .token fun k => ?_
    split
    · exact .pure
    · exact .bind .pos fun _ => .bind .advance fun _ => ih.bind fun _ => .pure
    · refine (built_spreadOrAssignment built).bind fun _ => .bind .accept fun _ => ?_
      exact .ite (ih.bind fun _ => .pure) .pure

theorem built_arrayLiteral : Built n d.arrayLiteral (d.via q).arrayLiteral :=
  .bind .pos fun _ => .bind .expect fun _ =>
    .bind (.allowIn (built_arrayElements built d.turns)) fun _ => .bind .expect fun _ => .finish

/-! ### Objects -/

theorem built_propertyName : Built n d.propertyName (d.via q).propertyName := by
  refine .bind .token fun k => ?_
  split
  · exact .literal
  · exact .literal
  · exact .bind .pos fun _ => .bind .advance fun _ => .bind (.allowIn (built .assignment)) fun _ =>
      .bind .expect fun _ => .finish
  · exact .memberName

omit built in
theorem built_memberModifiers : Built n memberModifiers memberModifiers :=
  .bind .startsAsyncMember fun _ => .optionalWord <| .bind .accept fun _ =>
    .join .pure .startsAccessor fun _ => .optionalWord .pure

theorem built_objectMember : Built n d.objectMember (d.via q).objectMember := by
  refine .ifToken (built_spreadOrAssignment built) (.bind .pos fun _ => ?_)
  refine built_memberModifiers.bind fun (flags, isAccessor) => .bind .isToken fun isName => ?_
  refine (built_propertyName built).bind fun _ => .bind .isToken fun _ => .ite ?_ ?_
  · exact .bind .pos fun _ => (built_functionRest built).bind fun _ => .finish
  refine .bind .accept fun _ => .ite ((built .assignment).bind fun _ => .finish) ?_
  exact .bind .isToken fun _ => .bind .isToken fun _ => .ite .finish .unexpected

theorem built_objectLiteral : Built n d.objectLiteral (d.via q).objectLiteral :=
  .bind .pos fun _ => .bind .expect fun _ =>
    .bind (.allowIn (.commaList (built_objectMember built))) fun _ => .bind .expect fun _ => .finish

/-! ### Templates -/

theorem built_substitutions (turns : Nat) :
    Built n (d.substitutions turns) ((d.via q).substitutions turns) := by
  induction turns with
  | zero => exact .exhausted
  | succ turns ih =>
    refine .bind (.allowIn (built_expression built)) fun _ => .rescanTemplate fun _ => ?_
    refine .bind .value fun _ => .bind .isToken fun _ => .bind .advance fun _ => ?_
    exact .ite .pure (ih.bind fun _ => .pure)

theorem built_template : Built n d.template (d.via q).template :=
  .bind .pos fun _ => .bind .value fun _ => .bind .advance fun _ =>
    (built_substitutions built d.turns).bind fun _ => .finish

/-! ### Operands -/

theorem built_primary : Built n d.primary (d.via q).primary := by
  have leaf {k : TokenKind} {i : Nat} : Built n
      (Parser.advance >>= fun _ => Parser.finishLeaf (.token k) i)
      (Parser.advance >>= fun _ => Parser.finishLeaf (.token k) i) :=
    .bind .advance fun _ => .finishLeaf
  have pattern : Built n (Parser.reread Scanner.rescanSlash >>= fun _ => Parser.literal)
      (Parser.reread Scanner.rescanSlash >>= fun _ => Parser.literal) :=
    .bind .rescanSlash fun _ => .literal
  refine .bind .pos fun _ => .bind .token fun k => ?_
  split
  · exact .bind .startsAsyncFunction fun _ => .ite (built_functionExpression built) .identifier
  · exact leaf
  · exact leaf
  · exact leaf
  · exact leaf
  · exact .literal
  · exact .literal
  · exact .literal
  · exact pattern
  · exact pattern
  · exact built_template built
  · exact .bind .advance fun _ => .bind (.allowIn (built_expression built)) fun _ =>
      .bind .expect fun _ => .finish
  · exact built_arrayLiteral built
  · exact built_objectLiteral built
  · exact built_functionExpression built
  · exact .unexpected

theorem built_callOf {start : Nat} {callee : Tree} {optional : Bool} :
    Built n (d.callOf start callee optional) ((d.via q).callOf start callee optional) :=
  (built_arguments built).bind fun _ => .flagged

omit built in
theorem built_memberOf {start : Nat} {object : Tree} {optional : Bool} :
    Built n (memberOf start object optional) (memberOf start object optional) :=
  .bind .memberName fun _ => .finish

theorem built_elementOf {start : Nat} {object : Tree} {optional : Bool} :
    Built n (d.elementOf start object optional) ((d.via q).elementOf start object optional) :=
  (built_elementKey built).bind fun _ => .finish

theorem built_suffixTurn {start : Nat} {calls : Bool} {e : Tree} :
    Built n (d.suffixTurn start calls e) ((d.via q).suffixTurn start calls e) := by
  refine .bind .token fun k => ?_
  split
  · exact .bind .advance fun _ => built_memberOf.bind fun _ => .pure
  · refine .bind .advance fun _ => .ifToken ((built_elementOf built).bind fun _ => .pure) ?_
    refine .bind .isToken fun _ => .ite ?_ (built_memberOf.bind fun _ => .pure)
    exact (built_callOf built).bind fun _ => .pure
  · exact (built_elementOf built).bind fun _ => .pure
  · exact .ite ((built_callOf built).bind fun _ => .pure) .pure
  · exact .bind .literal fun _ => .bind .finish fun _ => .pure
  · exact (built_template built).bind fun _ => .bind .finish fun _ => .pure
  · exact .pure

theorem built_suffixes {start : Nat} {calls : Bool} {e : Tree} :
    Built n (d.suffixes start calls e) ((d.via q).suffixes start calls e) :=
  .loop fun _ => built_suffixTurn built

/-- The callee is read one level deeper. -/
theorem built_construction {q' : Nonterminal → Parser Tree}
    (deeper : ∀ part, Built (n + 1) (d.parse part) (q' part)) :
    Built n d.construction ((d.via q').constructionVia (d.via q)) := by
  refine .bind .pos fun _ => .bind .expect fun _ => .bind .pos fun _ => ?_
  refine .bind (.nested (.ifToken (deeper .construction) (built_primary deeper))) fun _ => ?_
  refine (built_suffixes built).bind fun _ => .bind .isToken fun _ => ?_
  exact .optional (built_arguments built) fun _ => .finish

theorem built_leftHandSide : Built n d.leftHandSide (d.via q).leftHandSide :=
  .bind .pos fun _ => .bind .isToken fun _ => .join (built .construction) (built_primary built)
    fun _ => built_suffixes built

/-! ### Operators -/

/-- The operand behind an operator is read one level deeper. -/
theorem built_unary {q' : Nonterminal → Parser Tree}
    (deeper : ∀ part, Built (n + 1) (d.parse part) (q' part)) :
    Built n d.unary ((d.via q').unaryVia (d.via q)) := by
  refine .bind .pos fun _ => .bind .token fun _ => .bind .state fun _ => .bind .isWord fun _ => ?_
  refine .ite (.bind .advance fun _ => .bind (.nested (deeper .unary)) fun _ => .finish) <|
    .ite (.bind .advance fun _ => .bind (.nested (deeper .unary)) fun _ => .finish) ?_
  refine (built_leftHandSide built).bind fun _ => .bind .token fun _ => .bind .lineBreak fun _ => ?_
  exact .ite (.bind .advance fun _ => .finish) .pure

theorem built_operandTurn {start min : Nat} {left : Tree} :
    Built n (d.operandTurn start min left) ((d.via q).operandTurn start min left) :=
  .bind .token fun _ => .bind .state fun _ => .ite .pure <| .bind .advance fun _ =>
    (built (.operand _)).bind fun _ => .bind .finish fun _ => .pure

theorem built_operand (min : Nat) : Built n (d.operand min) ((d.via q).operand min) :=
  .bind .pos fun _ => (built .unary).bind fun _ => .loop fun _ => built_operandTurn built

theorem built_conditional : Built n d.conditional (d.via q).conditional :=
  .bind .pos fun _ => (built (.operand 0)).bind fun _ => .bind .accept fun _ =>
    .ite (.bind (.allowIn (built .assignment)) fun _ => .bind .expect fun _ =>
      (built .assignment).bind fun _ => .finish) .pure

/-! ### Assignments -/

theorem built_yielding : Built n d.yielding (d.via q).yielding := by
  refine .bind .pos fun _ => .bind .advance fun _ => .bind .lineBreak fun _ => .ite .finish ?_
  refine .bind .accept fun _ => .ite ((built .assignment).bind fun _ => .flagged) ?_
  exact .bind .token fun _ => .ite .finish ((built .assignment).bind fun _ => .finish)

theorem built_assignmentBody : Built n d.assignmentBody (d.via q).assignmentBody := by
  refine .bind .state fun _ => .bind .isWord fun _ => .ite (built_yielding built) ?_
  refine .bind .startsArrow fun _ => .ite (built_arrowFunction built) (.bind .pos fun _ => ?_)
  refine (built_conditional built).bind fun _ => .bind .token fun _ => ?_
  exact .ite (.bind .advance fun _ => (built .assignment).bind fun _ => .finish) .pure

/-! ### Simple statements -/

theorem built_expressionStatement :
    Built n d.expressionStatement (d.via q).expressionStatement :=
  .bind .pos fun _ => (built_expression built).bind fun _ => .bind .endStatement fun _ => .finish

omit built in
theorem built_emptyStatement : Built n emptyStatement emptyStatement :=
  .bind .pos fun _ => .bind .advance fun _ => .finishLeaf

theorem built_declaration : Built n d.declaration (d.via q).declaration :=
  .bind .pos fun _ => .bind .identifier fun _ => .bind .accept fun _ =>
    .optional (built .assignment) fun _ => .finish

theorem built_variableList : Built n d.variableList (d.via q).variableList :=
  .bind .pos fun _ => .bind .token fun _ => .bind .advance fun _ =>
    .bind (.commaSequence (built_declaration built)) fun _ => .flagged

theorem built_variableStatement : Built n d.variableStatement (d.via q).variableStatement :=
  .bind .pos fun _ => (built_variableList built).bind fun _ => .bind .endStatement fun _ => .finish

/-! ### Branches and loops -/

theorem built_ifStatement : Built n d.ifStatement (d.via q).ifStatement :=
  .bind .pos fun _ => .bind .expect fun _ => (built_condition built).bind fun _ =>
    (built .statement).bind fun _ => .bind .accept fun _ =>
      .optional (built .statement) fun _ => .finish

theorem built_doStatement : Built n d.doStatement (d.via q).doStatement :=
  .bind .pos fun _ => .bind .expect fun _ => (built .statement).bind fun _ => .bind .expect fun _ =>
    (built_condition built).bind fun _ => .bind .accept fun _ => .finish

theorem built_whileStatement : Built n d.whileStatement (d.via q).whileStatement :=
  .bind .pos fun _ => .bind .expect fun _ => (built_condition built).bind fun _ =>
    (built .statement).bind fun _ => .finish

theorem built_forInitializer : Built n d.forInitializer (d.via q).forInitializer :=
  .ifToken .pure <| .map <| .withContext <| .bind .token fun _ =>
    .ite (built_variableList built) (built_expression built)

theorem built_iterationRest {kind : NodeKind} {start : Nat} {initializer : Option Tree}
    {subject subject' : Parser Tree} (subjects : Built n subject subject') :
    Built n (d.iterationRest kind start initializer subject)
      ((d.via q).iterationRest kind start initializer subject') := by
  unfold iterationRest
  cases initializer with
  | none => exact .unexpected
  | some binding =>
    exact .bind .advance fun _ => .bind (.allowIn subjects) fun _ => .bind .expect fun _ =>
      (built .statement).bind fun _ => .finish

theorem built_forRest {start : Nat} {initializer : Option Tree} :
    Built n (d.forRest start initializer) ((d.via q).forRest start initializer) := by
  refine .bind .expect fun _ => .bind .isToken fun _ => ?_
  refine .optional' (.allowIn (built_expression built)) fun _ => .bind .expect fun _ => ?_
  refine .bind .isToken fun _ => .optional' (.allowIn (built_expression built)) fun _ => ?_
  exact .bind .expect fun _ => (built .statement).bind fun _ => .finish

theorem built_forStatement : Built n d.forStatement (d.via q).forStatement := by
  refine .bind .pos fun _ => .bind .expect fun _ => .bind .expect fun _ => ?_
  refine (built_forInitializer built).bind fun _ => .ifToken ?_ ?_
  · exact built_iterationRest built (built_expression built)
  · exact .bind .isWord fun _ => .ite (built_iterationRest built (built .assignment))
      (built_forRest built)

/-! ### Leaving -/

theorem built_returnStatement : Built n d.returnStatement (d.via q).returnStatement :=
  .bind .pos fun _ => .bind .advance fun _ => .bind .mayEndStatement fun _ =>
    .optional' (built_expression built) fun _ => .bind .endStatement fun _ => .finish

theorem built_throwStatement : Built n d.throwStatement (d.via q).throwStatement :=
  .bind .pos fun _ => .bind .advance fun _ => (built_expression built).bind fun _ =>
    .bind .endStatement fun _ => .finish

omit built in
theorem built_jumpStatement {kind : NodeKind} :
    Built n (jumpStatement kind) (jumpStatement kind) :=
  .bind .pos fun _ => .bind .advance fun _ => .bind .isToken fun _ => .bind .lineBreak fun _ =>
    .optional .identifier fun _ => .bind .endStatement fun _ => .finish

/-! ### Faults, switches and labels -/

theorem built_catchClause : Built n d.catchClause (d.via q).catchClause := by
  refine .ifToken (.bind .pos fun _ => .bind .advance fun _ => .bind .accept fun _ => ?_) .pure
  refine .ite (.bind .identifier fun _ => .bind .expect fun _ => ?_) ?_ <;>
    exact (built_block built).bind fun _ => .map .finish

theorem built_tryStatement : Built n d.tryStatement (d.via q).tryStatement := by
  refine .bind .pos fun _ => .bind .expect fun _ => (built_block built).bind fun _ => ?_
  refine (built_catchClause built).bind fun _ => .bind .accept fun _ => ?_
  exact .optional (built_block built) fun _ => .ite (.bind .unexpected fun _ => .finish) .finish

omit built in
theorem built_clauseGoesOn : Built n clauseGoesOn clauseGoesOn := by
  refine .bind .token fun k => ?_
  split
  · exact .pure
  · exact .pure
  · exact .pure
  · exact .unexpected
  · exact .pure

theorem built_caseClause : Built n d.caseClause (d.via q).caseClause := by
  have clause {i : Nat} {kind : NodeKind} {test : Option Tree} : Built n
      (expect .colon >>= fun _ => allowIn (repeatWhile d.turns clauseGoesOn d.statement) >>=
        fun statements => Parser.finish kind i (.clause test statements))
      (expect .colon >>= fun _ => allowIn (repeatWhile d.turns clauseGoesOn (q .statement)) >>=
        fun statements => Parser.finish kind i (.clause test statements)) :=
    .bind .expect fun _ => .bind (.allowIn (.repeatWhile built_clauseGoesOn (built .statement)))
      fun _ => .finish
  refine .bind .pos fun _ => .bind .token fun k => ?_
  dsimp only
  split
  · exact .bind .advance fun _ => .bind (.allowIn (built_expression built)) fun _ => clause
  · exact .bind .advance fun _ => clause
  · exact .bind .unexpected fun _ => clause

theorem built_caseClauses (seenDefault : Bool) (turns : Nat) :
    Built n (d.caseClauses seenDefault turns) ((d.via q).caseClauses seenDefault turns) := by
  induction turns generalizing seenDefault with
  | zero => exact .exhausted
  | succ turns ih =>
    have clauses {isDefault : Bool} : Built n
        (d.caseClause >>= fun clause =>
          d.caseClauses (seenDefault || isDefault) turns >>= fun rest => pure (clause :: rest))
        ((d.via q).caseClause >>= fun clause =>
          (d.via q).caseClauses (seenDefault || isDefault) turns >>= fun rest =>
            pure (clause :: rest)) :=
      (built_caseClause built).bind fun _ => (ih _).bind fun _ => .pure
    refine .ifToken .pure (.bind .isToken fun isDefault => .ite ?_ clauses)
    exact .bind .unexpected fun _ => clauses

theorem built_switchStatement : Built n d.switchStatement (d.via q).switchStatement :=
  .bind .pos fun _ => .bind .expect fun _ => (built_condition built).bind fun _ =>
    .bind .expect fun _ => (built_caseClauses built false d.turns).bind fun _ =>
      .bind .expect fun _ => .finish

theorem built_labeledStatement : Built n d.labeledStatement (d.via q).labeledStatement :=
  .bind .pos fun _ => .bind .identifier fun _ => .bind .expect fun _ =>
    (built .statement).bind fun _ => .finish

theorem built_statementBody : Built n d.statementBody (d.via q).statementBody := by
  refine .bind .token fun k => ?_
  split
  · exact built_block built
  · exact built_emptyStatement
  · exact built_variableStatement built
  · exact built_variableStatement built
  · exact built_variableStatement built
  · exact built_functionDeclaration built
  · exact .bind .startsAsyncFunction fun _ => .ite (built_functionDeclaration built) <|
      .bind .startsLabel fun _ => .ite (built_labeledStatement built)
        (built_expressionStatement built)
  · exact built_ifStatement built
  · exact built_doStatement built
  · exact built_whileStatement built
  · exact built_forStatement built
  · exact built_returnStatement built
  · exact built_throwStatement built
  · exact built_tryStatement built
  · exact built_jumpStatement
  · exact built_jumpStatement
  · exact built_switchStatement built
  · exact .unexpected
  · exact .unexpected
  · exact .unexpected
  · exact built_expressionStatement built

end productions

end Descent

end Shapewire
