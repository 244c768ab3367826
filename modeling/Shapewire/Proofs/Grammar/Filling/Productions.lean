/-
Every production fills the table with the tree it reads, given that the parts reached through the
descent do.

A production is followed once for both runs.  Each part that it reads is added to the table and is
pending from then on, and where the production adds its own node the record has to refer to all that
has become pending since the production began.  A production that read a part and did not refer to
it would fail there, and so would one that referred to a part twice or out of order.
-/
import Shapewire.Proofs.Grammar.Filling.Rules

namespace Shapewire

open Shapewire.Parser

/-- The parts that a production reaches fill the table with what they read, with the same turns on
both sides. -/
structure Descent.Fills (d : Descent) (d' : Descent Arena NodeId) : Prop where
  turns : d.turns = d'.turns
  parse : ∀ (part : Nonterminal) (a : Arena),
    Parser.Fills a (d.parse part) (d'.parse part) (Pending a)

namespace Descent

section productions

variable {d : Descent} {d' : Descent Arena NodeId} (fills : d.Fills d') {a b : Arena}
  {kind : NodeKind} {start : Nat}

/-! ### Functions -/

theorem fills_blockGoesOn (a : Arena) : Parser.Fills a blockGoesOn blockGoesOn (Same a) := by
  refine .same .token fun k => ?_
  split
  · exact .pure ⟨rfl, rfl⟩
  · exact .unexpected
  · exact .pure ⟨rfl, rfl⟩

theorem fills_functionHead : Parser.Fills a functionHead functionHead (Same a) :=
  .same .isWord fun _ => .optionalWord (.same .expect fun _ => .same .accept fun _ =>
    .pure ⟨rfl, rfl⟩)

include fills

theorem fills_block : Parser.Fills a d.block d'.block (Pending a) := by
  refine .same .pos fun _ => .same .expect fun _ => ?_
  refine .bind (.allowIn (.repeatWhile fills.turns (fills.parse .statement) fills_blockGoesOn)) ?_
  exact fun _ _ _ inside => .same .expect fun _ => .finish (.block inside)

theorem fills_parameter (a : Arena) : Parser.Fills a d.parameter d'.parameter (Pending a) := by
  refine .same .pos fun _ => .same .accept fun rest => .bind .identifier fun _ _ b name => ?_
  refine .join (P := Same b) (.pure ⟨rfl, rfl⟩) .accept ?_
  rintro hasDefault _ _ ⟨rfl, rfl⟩
  exact .optional (.allowIn (fills.parse .assignment _)) fun _ _ _ value =>
    .finish (.parameter name value)

theorem fills_parameterList : Parser.Fills a d.parameterList d'.parameterList (PendingList a) := by
  refine .same .expect fun _ => .bind (.commaList fills.turns (fills_parameter fills)) ?_
  exact fun _ _ _ inside => .same .expect fun _ => .pure inside

theorem fills_functionRest {flags : NodeFlags} {name? : Option Tree} {root? : Option NodeId}
    (name : PendingOption a name? root? b) : Parser.Fills b (d.functionRest kind start name? flags)
      (d'.functionRest kind start root? flags) (Pending a) := by
  refine .bind (P := fun rest rest' e => ∃ c, PendingList b rest.1 rest'.1 c ∧
    Pending c rest.2 rest'.2 e) (.withContext ?_) fun _ _ _ ⟨_, parameters, body⟩ => ?_
  · refine (fills_parameterList fills).bind fun _ _ _ parameters => ?_
    exact (fills_block fills).bind fun _ _ _ body => .pure ⟨_, parameters, body⟩
  · exact .flagged (.function name parameters body)

theorem fills_functionDeclaration :
    Parser.Fills a d.functionDeclaration d'.functionDeclaration (Pending a) :=
  .same .pos fun _ => .same fills_functionHead fun _ => .bind .identifier fun _ _ _ name =>
    fills_functionRest fills (.some name)

theorem fills_functionExpression :
    Parser.Fills a d.functionExpression d'.functionExpression (Pending a) :=
  .same .pos fun _ => .same fills_functionHead fun _ => .same .isToken fun _ =>
    .optional .identifier fun _ _ _ name => fills_functionRest fills name

theorem fills_arrowParameters :
    Parser.Fills a d.arrowParameters d'.arrowParameters (PendingList a) := by
  refine .ifToken (.same .pos fun _ => .bind .identifier fun _ _ _ name => ?_)
    (fills_parameterList fills)
  exact .bind (.finish (.parameter name .none)) fun _ _ _ alone => .pure (.cons alone .nil)

theorem fills_arrowFunction : Parser.Fills a d.arrowFunction d'.arrowFunction (Pending a) := by
  refine .same .pos fun _ => .same (.question .asyncArrow) fun _ => .optionalWord ?_
  refine (fills_arrowParameters fills).bind fun _ _ _ parameters => .same .expect fun _ => ?_
  refine .bind (.withContext (.ifToken (fills_block fills) (fills.parse .assignment _))) ?_
  exact fun _ _ _ body => .flagged (.function .none parameters body)

/-! ### Commas and lists in brackets -/

theorem fills_expression : Parser.Fills a d.expression d'.expression (Pending a) := by
  refine .same .pos fun _ => (fills.parse .assignment a).bind fun _ _ _ first => ?_
  refine .loop (P := Pending a) fills.turns first fun _ _ _ left => ?_
  refine .same .accept fun _ => .ite ?_ (.pure (.inr left))
  refine (fills.parse .assignment _).bind fun _ _ _ right => ?_
  exact .bind (.finish (.binary left right)) fun _ _ _ both => .pure (.inl both)

theorem fills_condition : Parser.Fills a d.condition d'.condition (Pending a) :=
  .same .expect fun _ => .bind (.allowIn (fills_expression fills)) fun _ _ _ inside =>
    .same .expect fun _ => .pure inside

theorem fills_spreadOrAssignment (a : Arena) :
    Parser.Fills a (d.spreadOrAssignment kind) (d'.spreadOrAssignment kind) (Pending a) := by
  refine .ifToken (.same .pos fun _ => .same .advance fun _ => ?_) (fills.parse .assignment a)
  exact (fills.parse .assignment a).bind fun _ _ _ inside => .finish (.wrapped (.some inside))

theorem fills_arguments : Parser.Fills a d.arguments d'.arguments (PendingList a) := by
  refine .same .expect fun _ => ?_
  refine .bind (.allowIn (.commaList fills.turns (fills_spreadOrAssignment fills))) ?_
  exact fun _ _ _ inside => .same .expect fun _ => .pure inside

theorem fills_elementKey : Parser.Fills a d.elementKey d'.elementKey (Pending a) :=
  .same .expect fun _ => .bind (.allowIn (fills_expression fills)) fun _ _ _ inside =>
    .same .expect fun _ => .pure inside

theorem fills_arrayElements (turns : Nat) :
    Parser.Fills a (d.arrayElements turns) (d'.arrayElements turns) (PendingList a) := by
  induction turns generalizing a with
  | zero => exact .exhausted
  | succ turns ih =>
    refine .same .token fun k => ?_
    split
    · exact .pure .nil
    · refine .same .pos fun _ => .same .advance fun _ => ?_
      exact .bind .leaf fun _ _ _ hole => .cons hole ih
    · refine (fills_spreadOrAssignment fills a).bind fun _ _ _ first => .same .accept fun _ => ?_
      exact .ite (.cons first ih) (.pure (.cons first .nil))

theorem fills_arrayLiteral : Parser.Fills a d.arrayLiteral d'.arrayLiteral (Pending a) := by
  refine .same .pos fun _ => .same .expect fun _ => ?_
  rw [← fills.turns]
  exact .bind (.allowIn (fills_arrayElements fills _)) fun _ _ _ inside =>
    .same .expect fun _ => .finish (.elements inside)

/-! ### Objects -/

theorem fills_propertyName : Parser.Fills a d.propertyName d'.propertyName (Pending a) := by
  refine .same .token fun k => ?_
  split
  · exact .literal
  · exact .literal
  · refine .same .pos fun _ => .same .advance fun _ => ?_
    refine .bind (.allowIn (fills.parse .assignment a)) fun _ _ _ key => ?_
    exact .same .expect fun _ => .finish (.wrapped (.some key))
  · exact .memberName

omit fills in
theorem fills_memberModifiers : Parser.Fills a memberModifiers memberModifiers (Same a) := by
  refine .same (.question .asyncMember) fun _ => .optionalWord (.same .accept fun _ => ?_)
  refine .join (P := Same a) (.pure ⟨rfl, rfl⟩) (.question .accessor) ?_
  rintro isAccessor _ _ ⟨rfl, rfl⟩
  exact .optionalWord (.pure ⟨rfl, rfl⟩)

theorem fills_objectMember (a : Arena) :
    Parser.Fills a d.objectMember d'.objectMember (Pending a) := by
  refine .ifToken (fills_spreadOrAssignment fills a) (.same .pos fun _ => ?_)
  refine .same fills_memberModifiers fun (flags, isAccessor) => .same .isToken fun isName => ?_
  refine (fills_propertyName fills).bind fun _ _ _ name => .same .isToken fun _ => ?_
  refine .ite (.same .pos fun _ => ?_) (.same .accept fun _ => ?_)
  · refine (fills_functionRest fills .none).bind fun _ _ _ method => ?_
    exact .finish (.property name method)
  · refine .ite ?_ (.same .isToken fun _ => .same .isToken fun _ => ?_)
    · exact (fills.parse .assignment _).bind fun _ _ _ value => .finish (.property name value)
    · exact .ite (.finish (.shorthand name)) .unexpected

theorem fills_objectLiteral : Parser.Fills a d.objectLiteral d'.objectLiteral (Pending a) := by
  refine .same .pos fun _ => .same .expect fun _ => ?_
  refine .bind (.allowIn (.commaList fills.turns (fills_objectMember fills))) ?_
  exact fun _ _ _ inside => .same .expect fun _ => .finish (.elements inside)

/-! ### Templates -/

/-- The substitutions of a template are pending, and the texts behind them are the same. -/
def PendingPieces (a : Arena) (pieces : List (Tree × String)) (pieces' : List (NodeId × String))
    (b : Arena) : Prop :=
  PendingList a (pieces.map Prod.fst) (pieces'.map Prod.fst) b ∧
    pieces.map Prod.snd = pieces'.map Prod.snd

theorem fills_substitutions (turns : Nat) :
    Parser.Fills a (d.substitutions turns) (d'.substitutions turns) (PendingPieces a) := by
  induction turns generalizing a with
  | zero => exact .exhausted
  | succ turns ih =>
    refine .bind (.allowIn (fills_expression fills)) fun _ _ _ first => .same .isToken fun _ => ?_
    refine .ite .stopped (.same .reread fun _ => .same .value fun quasi => ?_)
    refine .same .isToken fun _ => .same .advance fun _ => .ite ?_ (ih.bind ?_)
    · exact .pure ⟨.cons first .nil, rfl⟩
    · exact fun _ _ _ ⟨others, texts⟩ => .pure ⟨.cons first others, congrArg (quasi :: ·) texts⟩

theorem fills_template : Parser.Fills a d.template d'.template (Pending a) := by
  refine .same .pos fun _ => .same .value fun _ => .same .advance fun _ => ?_
  rw [← fills.turns]
  refine (fills_substitutions fills _).bind fun _ _ _ ⟨pieces, texts⟩ => ?_
  rw [texts]
  exact .finish (.template pieces)

/-! ### Operands -/

theorem fills_primary : Parser.Fills a d.primary d'.primary (Pending a) := by
  have leaf {k : TokenKind} {start : Nat} : Parser.Fills a
      (advance >>= fun _ => finishLeaf (.token k) start)
      (advance >>= fun _ => finishLeaf (.token k) start) (Pending a) :=
    .same .advance fun _ => .finishLeaf
  refine .same .pos fun _ => .same .token fun k => ?_
  split
  · refine .same (.question .asyncFunction) fun _ => .ite ?_ .identifier
    exact fills_functionExpression fills
  · exact leaf
  · exact leaf
  · exact leaf
  · exact leaf
  · exact .literal
  · exact .literal
  · exact .literal
  · exact .same .reread fun _ => .literal
  · exact .same .reread fun _ => .literal
  · exact fills_template fills
  · refine .same .advance fun _ => .bind (.allowIn (fills_expression fills)) fun _ _ _ inside => ?_
    exact .same .expect fun _ => .finish (.wrapped (.some inside))
  · exact fills_arrayLiteral fills
  · exact fills_objectLiteral fills
  · exact fills_functionExpression fills
  · exact .unexpected

section suffixes

variable {e : Tree} {root : NodeId} {chained : Bool} (operand : Pending a e root b)

include operand

theorem fills_callOf :
    Parser.Fills b (d.callOf start e chained) (d'.callOf start root chained) (Pending a) :=
  (fills_arguments fills).bind fun _ _ _ args => .flagged (.call operand args)

omit fills in
theorem fills_memberOf :
    Parser.Fills b (memberOf start e chained) (memberOf start root chained) (Pending a) :=
  .bind .memberName fun _ _ _ name => .finish (.access operand name)

theorem fills_elementOf :
    Parser.Fills b (d.elementOf start e chained) (d'.elementOf start root chained) (Pending a) :=
  (fills_elementKey fills).bind fun _ _ _ key => .finish (.access operand key)

theorem fills_suffixTurn {calls : Bool} : Parser.Fills b (d.suffixTurn start calls e)
    (d'.suffixTurn start calls root)
      fun r r' c => Sum.LiftRel (Pending a · · c) (Pending a · · c) r r' := by
  have goesOn {b : Arena} {p : Parser Tree} {w : ParserM Arena NodeId}
      (built : Parser.Fills b p w (Pending a)) :
      Parser.Fills b (p >>= fun t => pure (Sum.inl t)) (w >>= fun root => pure (Sum.inl root))
        fun r r' c => Sum.LiftRel (Pending a · · c) (Pending a · · c) r r' :=
    built.bind fun _ _ _ more => .pure (.inl more)
  refine .same .token fun k => ?_
  split
  · exact .same .advance fun _ => goesOn (fills_memberOf operand)
  · refine .same .advance fun _ => .ifToken (goesOn (fills_elementOf fills operand)) ?_
    refine .same .isToken fun _ => .ite ?_ (goesOn (fills_memberOf operand))
    exact goesOn (fills_callOf fills operand)
  · exact goesOn (fills_elementOf fills operand)
  · exact .ite (goesOn (fills_callOf fills operand)) (.pure (.inr operand))
  · exact .bind .literal fun _ _ _ text => goesOn (.finish (.taggedTemplate operand text))
  · refine (fills_template fills).bind fun _ _ _ text => ?_
    exact goesOn (.finish (.taggedTemplate operand text))
  · exact .pure (.inr operand)

theorem fills_suffixes {calls : Bool} :
    Parser.Fills b (d.suffixes start calls e) (d'.suffixes start calls root) (Pending a) :=
  .loop (P := Pending a) fills.turns operand fun _ _ _ operand => fills_suffixTurn fills operand

end suffixes

theorem fills_construction : Parser.Fills a d.construction d'.construction (Pending a) := by
  refine .same .pos fun _ => .same .expect fun _ => .same .pos fun _ => ?_
  refine .bind (.nested (.ifToken (fills.parse .construction a) (fills_primary fills))) ?_
  refine fun _ _ _ base => (fills_suffixes fills base).bind fun _ _ _ callee => ?_
  refine .same .isToken fun _ => .ite ?_ (.finish (.bareCall callee))
  exact .mapped (fills_arguments fills) fun _ _ _ args => .finish (.call callee args)

theorem fills_leftHandSide : Parser.Fills a d.leftHandSide d'.leftHandSide (Pending a) := by
  refine .same .pos fun _ => .same .isToken fun _ => ?_
  exact .join (fills.parse .construction a) (fills_primary fills) fun _ _ _ base =>
    fills_suffixes fills base

/-! ### Operators -/

theorem fills_unary : Parser.Fills a d.unary d'.unary (Pending a) := by
  refine .same .pos fun _ => .same .token fun k => .state fun s => .same .isWord fun _ => ?_
  refine .ite (.same .advance fun _ => ?_) (.ite ?_ ?_)
  · refine .bind (.nested (fills.parse .unary a)) fun _ _ _ e => ?_
    exact .finish (.wrapped (.some e))
  · refine .same .advance fun _ => .bind (.nested (fills.parse .unary a)) fun _ _ _ e => ?_
    exact .finish (.unary e)
  refine (fills_leftHandSide fills).bind fun _ _ _ e => .same .token fun k => ?_
  refine .same .lineBreak fun _ => ?_
  exact .ite (.same .advance fun _ => .finish (.unary e)) (.pure e)

theorem fills_operand (min : Nat) :
    Parser.Fills a (d.operand min) (d'.operand min) (Pending a) := by
  refine .same .pos fun _ => (fills.parse .unary a).bind fun _ _ _ first => ?_
  refine .loop (P := Pending a) fills.turns first fun _ _ _ left => ?_
  refine .same .token fun k => .state fun s => .ite (.pure (.inr left)) ?_
  refine .same .advance fun _ => (fills.parse (.operand _) _).bind fun _ _ _ right => ?_
  exact .bind (.finish (.binary left right)) fun _ _ _ both => .pure (.inl both)

theorem fills_conditional : Parser.Fills a d.conditional d'.conditional (Pending a) := by
  refine .same .pos fun _ => (fills.parse (.operand 0) a).bind fun _ _ _ condition => ?_
  refine .same .accept fun _ => .ite ?_ (.pure condition)
  refine .bind (.allowIn (fills.parse .assignment _)) fun _ _ _ whenTrue => ?_
  refine .same .expect fun _ => (fills.parse .assignment _).bind fun _ _ _ whenFalse => ?_
  exact .finish (.conditional condition whenTrue whenFalse)

/-! ### Assignments -/

theorem fills_yielding : Parser.Fills a d.yielding d'.yielding (Pending a) := by
  refine .same .pos fun _ => .same .advance fun _ => .same .lineBreak fun _ => ?_
  refine .ite (.finish (.wrapped .none)) (.same .accept fun _ => .ite ?_ ?_)
  · exact (fills.parse .assignment a).bind fun _ _ _ e => .flagged (.wrapped (.some e))
  refine .same .token fun k => .ite (.finish (.wrapped .none)) ?_
  exact (fills.parse .assignment a).bind fun _ _ _ e => .finish (.wrapped (.some e))

theorem fills_assignmentBody : Parser.Fills a d.assignmentBody d'.assignmentBody (Pending a) := by
  refine .state fun s => .same .isWord fun _ => .ite (fills_yielding fills) ?_
  refine .same (.question .arrow) fun _ => .ite (fills_arrowFunction fills) ?_
  refine .same .pos fun _ => (fills_conditional fills).bind fun _ _ _ left => ?_
  refine .same .token fun k => .ite (.same .advance fun _ => ?_) (.pure left)
  exact (fills.parse .assignment _).bind fun _ _ _ right => .finish (.binary left right)

/-! ### Simple statements -/

theorem fills_expressionStatement :
    Parser.Fills a d.expressionStatement d'.expressionStatement (Pending a) :=
  .same .pos fun _ => (fills_expression fills).bind fun _ _ _ e =>
    .same .endStatement fun _ => .finish (.wrapped (.some e))

omit fills in
theorem fills_emptyStatement : Parser.Fills a emptyStatement emptyStatement (Pending a) :=
  .same .pos fun _ => .same .advance fun _ => .finishLeaf

theorem fills_declaration (a : Arena) : Parser.Fills a d.declaration d'.declaration (Pending a) :=
  .same .pos fun _ => .bind .identifier fun _ _ _ name => .same .accept fun _ =>
    .optional (fills.parse .assignment _) fun _ _ _ value => .finish (.declaration name value)

theorem fills_variableList : Parser.Fills a d.variableList d'.variableList (Pending a) :=
  .same .pos fun _ => .same .token fun _ => .same .advance fun _ =>
    .bind (.commaSequence fills.turns (fills_declaration fills)) fun _ _ _ inside =>
      .flagged (.declarationList inside)

theorem fills_variableStatement :
    Parser.Fills a d.variableStatement d'.variableStatement (Pending a) :=
  .same .pos fun _ => (fills_variableList fills).bind fun _ _ _ list =>
    .same .endStatement fun _ => .finish (.wrapped (.some list))

/-! ### Branches and loops -/

theorem fills_ifStatement : Parser.Fills a d.ifStatement d'.ifStatement (Pending a) := by
  refine .same .pos fun _ => .same .expect fun _ => ?_
  refine (fills_condition fills).bind fun _ _ _ condition => ?_
  refine (fills.parse .statement _).bind fun _ _ _ whenTrue => .same .accept fun _ => ?_
  exact .optional (fills.parse .statement _) fun _ _ _ whenFalse =>
    .finish (.branch condition whenTrue whenFalse)

theorem fills_doStatement : Parser.Fills a d.doStatement d'.doStatement (Pending a) := by
  refine .same .pos fun _ => .same .expect fun _ => ?_
  refine (fills.parse .statement a).bind fun _ _ _ body => .same .expect fun _ => ?_
  refine (fills_condition fills).bind fun _ _ _ condition => .same .accept fun _ => ?_
  exact .finish (.testsLast body (.some condition))

theorem fills_whileStatement : Parser.Fills a d.whileStatement d'.whileStatement (Pending a) := by
  refine .same .pos fun _ => .same .expect fun _ => ?_
  refine (fills_condition fills).bind fun _ _ _ condition => ?_
  exact (fills.parse .statement _).bind fun _ _ _ body =>
    .finish (.loop (by decide) .none (.some condition) .none body)

theorem fills_forInitializer :
    Parser.Fills a d.forInitializer d'.forInitializer (PendingOption a) := by
  refine .ifToken (.pure .none) (.present (.withContext (.same .token fun _ => ?_)))
  exact .ite (fills_variableList fills) (fills_expression fills)

section loops

variable {first? : Option Tree} {root? : Option NodeId} (first : PendingOption a first? root? b)

include first

theorem fills_iterationRest {subject : Parser Tree} {subject' : ParserM Arena NodeId}
    (subjects : ∀ a, Parser.Fills a subject subject' (Pending a)) :
    Parser.Fills b (d.iterationRest kind start first? subject)
      (d'.iterationRest kind start root? subject') (Pending a) := by
  unfold iterationRest
  cases first with
  | none => exact .unexpected
  | some binding =>
    refine .same .advance fun _ => .bind (.allowIn (subjects b)) fun _ _ _ subject => ?_
    refine .same .expect fun _ => (fills.parse .statement _).bind fun _ _ _ body => ?_
    exact .finish (.iteration binding subject body)

theorem fills_forRest :
    Parser.Fills b (d.forRest start first?) (d'.forRest start root?) (Pending a) := by
  refine .same .expect fun _ => .same .isToken fun _ => ?_
  refine .optional' (.allowIn (fills_expression fills)) fun _ _ _ condition => ?_
  refine .same .expect fun _ => .same .isToken fun _ => ?_
  refine .optional' (.allowIn (fills_expression fills)) fun _ _ _ incrementor => ?_
  refine .same .expect fun _ => (fills.parse .statement _).bind fun _ _ _ body => ?_
  exact .finish (.loop (by decide) first condition incrementor body)

end loops

theorem fills_forStatement : Parser.Fills a d.forStatement d'.forStatement (Pending a) := by
  refine .same .pos fun _ => .same .expect fun _ => .same .expect fun _ => ?_
  refine (fills_forInitializer fills).bind fun _ _ _ first => .ifToken ?_ ?_
  · exact fills_iterationRest fills first fun _ => fills_expression fills
  · refine .same .isWord fun _ => .ite ?_ (fills_forRest fills first)
    exact fills_iterationRest fills first (fills.parse .assignment)

/-! ### Leaving -/

theorem fills_returnStatement :
    Parser.Fills a d.returnStatement d'.returnStatement (Pending a) := by
  refine .same .pos fun _ => .same .advance fun _ => .same .mayEndStatement fun _ => ?_
  exact .optional' (fills_expression fills) fun _ _ _ value =>
    .same .endStatement fun _ => .finish (.wrapped value)

theorem fills_throwStatement : Parser.Fills a d.throwStatement d'.throwStatement (Pending a) :=
  .same .pos fun _ => .same .advance fun _ => (fills_expression fills).bind fun _ _ _ value =>
    .same .endStatement fun _ => .finish (.wrapped (.some value))

omit fills in
theorem fills_jumpStatement :
    Parser.Fills a (jumpStatement kind) (jumpStatement kind) (Pending a) :=
  .same .pos fun _ => .same .advance fun _ => .same .isToken fun _ => .same .lineBreak fun _ =>
    .optional .identifier fun _ _ _ label => .same .endStatement fun _ => .finish (.jump label)

/-! ### Faults, switches and labels -/

theorem fills_catchClause : Parser.Fills a d.catchClause d'.catchClause (PendingOption a) := by
  have handler {b : Arena} {start : Nat} {name? : Option Tree} {root? : Option NodeId}
      (name : PendingOption a name? root? b) : Parser.Fills b
        (d.block >>= fun body => some <$> finish .catchClause start (.handler name? body))
        (d'.block >>= fun body => some <$> finish .catchClause start (.handler root? body))
        (PendingOption a) :=
    (fills_block fills).bind fun _ _ _ body => .present (.finish (.handler name body))
  refine .ifToken (.same .pos fun _ => .same .advance fun _ => .same .accept fun _ => ?_)
    (.pure .none)
  refine .ite (.bind .identifier fun _ _ _ name => .same .expect fun _ => ?_) ?_
  · exact handler (.some name)
  · exact handler .none

theorem fills_tryStatement : Parser.Fills a d.tryStatement d'.tryStatement (Pending a) := by
  refine .same .pos fun _ => .same .expect fun _ => (fills_block fills).bind fun _ _ _ body => ?_
  refine (fills_catchClause fills).bind fun _ _ _ onFault => .same .accept fun _ => ?_
  refine .optional (fills_block fills) fun _ _ _ finalizer => ?_
  have missing {a b : Arena} {t? : Option Tree} {root? : Option NodeId}
      (part : PendingOption a t? root? b) : t?.isNone = root?.isNone := by cases part <;> rfl
  dsimp only
  rw [missing onFault, missing finalizer]
  exact .ite .stopped (.finish (.attempt body onFault finalizer))

omit fills in
theorem fills_clauseGoesOn (a : Arena) : Parser.Fills a clauseGoesOn clauseGoesOn (Same a) := by
  refine .same .token fun k => ?_
  split
  · exact .pure ⟨rfl, rfl⟩
  · exact .pure ⟨rfl, rfl⟩
  · exact .pure ⟨rfl, rfl⟩
  · exact .unexpected
  · exact .pure ⟨rfl, rfl⟩

theorem fills_caseClause : Parser.Fills a d.caseClause d'.caseClause (Pending a) := by
  have clause {b : Arena} {start : Nat} {kind : NodeKind} {test? : Option Tree}
      {root? : Option NodeId} (test : PendingOption a test? root? b) : Parser.Fills b
        (expect .colon >>= fun _ => allowIn (repeatWhile d.turns clauseGoesOn d.statement) >>=
          fun statements => finish kind start (.clause test? statements))
        (expect .colon >>= fun _ => allowIn (repeatWhile d'.turns clauseGoesOn d'.statement) >>=
          fun statements => finish kind start (.clause root? statements)) (Pending a) := by
    refine .same .expect fun _ => .bind (.allowIn ?_) fun _ _ _ inside =>
      .finish (.clause test inside)
    exact .repeatWhile fills.turns (fills.parse .statement) fills_clauseGoesOn
  refine .same .pos fun _ => .same .token fun k => ?_
  dsimp only
  split
  · refine .same .advance fun _ => .bind (.allowIn (fills_expression fills)) fun _ _ _ test => ?_
    exact clause (.some test)
  · exact .same .advance fun _ => clause .none
  · exact .stopped

theorem fills_caseClauses (seenDefault : Bool) (turns : Nat) : Parser.Fills a
    (d.caseClauses seenDefault turns) (d'.caseClauses seenDefault turns) (PendingList a) := by
  induction turns generalizing a seenDefault with
  | zero => exact .exhausted
  | succ turns ih =>
    refine .ifToken (.pure .nil) (.same .isToken fun isDefault => .ite .stopped ?_)
    refine (fills_caseClause fills).bind fun _ _ _ first => .cons first ?_
    exact ih (seenDefault || isDefault)

theorem fills_switchStatement :
    Parser.Fills a d.switchStatement d'.switchStatement (Pending a) := by
  refine .same .pos fun _ => .same .expect fun _ => ?_
  refine (fills_condition fills).bind fun _ _ _ subject => .same .expect fun _ => ?_
  rw [← fills.turns]
  refine (fills_caseClauses fills _ _).bind fun _ _ _ inside => ?_
  exact .same .expect fun _ => .finish (.switch subject inside)

theorem fills_labeledStatement :
    Parser.Fills a d.labeledStatement d'.labeledStatement (Pending a) :=
  .same .pos fun _ => .bind .identifier fun _ _ _ label => .same .expect fun _ =>
    (fills.parse .statement _).bind fun _ _ _ body => .finish (.labeled label body)

theorem fills_statementBody : Parser.Fills a d.statementBody d'.statementBody (Pending a) := by
  refine .same .token fun k => ?_
  split
  · exact fills_block fills
  · exact fills_emptyStatement
  · exact fills_variableStatement fills
  · exact fills_variableStatement fills
  · exact fills_variableStatement fills
  · exact fills_functionDeclaration fills
  · refine .same (.question .asyncFunction) fun _ => .ite (fills_functionDeclaration fills) ?_
    refine .same (.question .label) fun _ => .ite (fills_labeledStatement fills) ?_
    exact fills_expressionStatement fills
  · exact fills_ifStatement fills
  · exact fills_doStatement fills
  · exact fills_whileStatement fills
  · exact fills_forStatement fills
  · exact fills_returnStatement fills
  · exact fills_throwStatement fills
  · exact fills_tryStatement fills
  · exact fills_jumpStatement
  · exact fills_jumpStatement
  · exact fills_switchStatement fills
  · exact .unexpected
  · exact .unexpected
  · exact .unexpected
  · exact fills_expressionStatement fills

end productions

end Descent

end Shapewire
