/-
Every production agrees with itself, given that the parts reached through the descent do.

The two sides read the same part of the grammar with two descents, which may have budgets of
different sizes (`Descent.Agrees`).  Each production is followed once for both, and what it builds
on either side is the same node but for where it lies (`Tree.Alike`).
-/
import Shapewire.Proofs.Grammar.Agreement.Rules

namespace Shapewire

open Shapewire.Parser

namespace Parser.Agree

variable {kind : NodeKind} {start start' : Nat} {flags : NodeFlags}
  {r r' : Record Tree (Option Tree) String}

/-! ### Nodes, names and literals -/

theorem flagged (records : r.Alike r') : Agree Tree.Alike (Parser.flagged kind flags start r)
    (Parser.flagged kind flags start' r') := prevEnd fun _ _ => pure (.node records)

theorem finish (records : r.Alike r') :
    Agree Tree.Alike (Parser.finish kind start r) (Parser.finish kind start' r') := by
  rw [Parser.finish, Parser.finish, records.flags]
  exact flagged records

theorem finishLeaf :
    Agree Tree.Alike (Parser.finishLeaf kind start) (Parser.finishLeaf kind start') :=
  prevEnd fun _ _ => pure .leaf

theorem nameFromToken : Agree Tree.Alike Parser.nameFromToken Parser.nameFromToken :=
  pos fun _ _ => same value fun _ => same advance fun _ => finish .identifier

theorem identifier : Agree Tree.Alike Parser.identifier Parser.identifier :=
  ifToken nameFromToken unexpected

theorem memberName : Agree Tree.Alike Parser.memberName Parser.memberName :=
  token fun _ _ => ite (fun _ => nameFromToken) fun _ => unexpected

theorem literal : Agree Tree.Alike Parser.literal Parser.literal :=
  pos fun _ _ => token fun _ _ => same value fun _ => same advance fun _ => finish .literal

/-- A part that is there. -/
theorem present {α β : Type} {P : α → β → Prop} {p : Parser α} {p' : Parser β} (hp : Agree P p p') :
    Agree (Option.Rel P) (some <$> p) (some <$> p') := map (hp.mono fun _ _ => .some)

/-- A part that may be missing, and what follows it. -/
theorem optional {b : Prop} [Decidable b] {α α' β β' : Type} {P : α → α' → Prop}
    {Q : β → β' → Prop} {p : Parser α} {p' : Parser α'} {f : Option α → Parser β}
    {f' : Option α' → Parser β'} (hp : Agree P p p')
    (hf : ∀ a? a?', Option.Rel P a? a?' → Agree Q (f a?) (f' a?')) :
    Agree Q (if b then some <$> p >>= f else Pure.pure none >>= f)
      (if b then some <$> p' >>= f' else Pure.pure none >>= f') :=
  join (fun _ => present hp) (fun _ => pure .none) hf

/-- The same with the cases the other way around. -/
theorem optional' {b : Prop} [Decidable b] {α α' β β' : Type} {P : α → α' → Prop}
    {Q : β → β' → Prop} {p : Parser α} {p' : Parser α'} {f : Option α → Parser β}
    {f' : Option α' → Parser β'} (hp : Agree P p p')
    (hf : ∀ a? a?', Option.Rel P a? a?' → Agree Q (f a?) (f' a?')) :
    Agree Q (if b then Pure.pure none >>= f else some <$> p >>= f)
      (if b then Pure.pure none >>= f' else some <$> p' >>= f') :=
  join (fun _ => pure .none) (fun _ => present hp) hf

/-- What would follow where both stop. -/
theorem stopped {α β β' : Type} {Q : β → β' → Prop} {expected : String} {f : α → Parser β}
    {f' : α → Parser β'} :
    Agree Q (Parser.unexpected expected >>= f) (Parser.unexpected expected >>= f') :=
  bind (P := fun _ _ => False) unexpected nofun

/-- A word that may be there, and what follows it. -/
theorem optionalWord {b : Bool} {β β' : Type} {Q : β → β' → Prop} {f : Unit → Parser β}
    {f' : Unit → Parser β'} (hf : Agree Q (f ()) (f' ())) :
    Agree Q (if b = true then Parser.advance >>= f else f ())
      (if b = true then Parser.advance >>= f' else f' ()) :=
  ite (fun _ => same advance fun _ => hf) fun _ => hf

end Parser.Agree

/-- The parts that two productions reach through their descents agree. -/
def Descent.Agrees (d d' : Descent) : Prop :=
  ∀ part : Nonterminal, Agree Tree.Alike (d.parse part) (d'.parse part)

namespace Descent

section productions

variable {d d' : Descent} (agrees : d.Agrees d')

/-! ### Functions -/

theorem agree_blockGoesOn : Agree Eq blockGoesOn blockGoesOn := by
  refine .token fun k _ => ?_
  split
  · exact .pure rfl
  · exact .unexpected
  · exact .pure rfl

theorem agree_functionHead : Agree Eq functionHead functionHead :=
  .same .isWord fun _ => .optionalWord (.same .expect fun _ => .same .accept fun _ => .pure rfl)

include agrees

theorem agree_block : Agree Tree.Alike d.block d'.block := by
  refine .pos fun _ _ => .same .expect fun _ => ?_
  refine .bind (.allowIn (.repeatWhile agree_blockGoesOn (agrees .statement))) ?_
  exact fun _ _ inside => .same .expect fun _ => .finish (.block inside)

theorem agree_parameter : Agree Tree.Alike d.parameter d'.parameter := by
  refine .pos fun _ _ => .same .accept fun rest => .bind .identifier fun _ _ name => ?_
  refine .join (P := Eq) (fun _ => .pure rfl) (fun _ => .accept) ?_
  rintro hasDefault _ rfl
  exact .optional (.allowIn (agrees .assignment)) fun _ _ value => .finish (.parameter name value)

theorem agree_parameterList :
    Agree (List.Forall₂ Tree.Alike) d.parameterList d'.parameterList := by
  refine .same .expect fun _ => .bind (.commaList (agree_parameter agrees)) fun _ _ inside => ?_
  exact .same .expect fun _ => .pure inside

theorem agree_functionRest {kind : NodeKind} {start start' : Nat} {name name' : Option Tree}
    {flags : NodeFlags} (names : Option.Rel Tree.Alike name name') : Agree Tree.Alike
      (d.functionRest kind start name flags) (d'.functionRest kind start' name' flags) := by
  refine .bind (P := fun rest rest' => List.Forall₂ Tree.Alike rest.1 rest'.1 ∧
    rest.2.Alike rest'.2) (.withContext ?_) fun _ _ ⟨parameters, body⟩ => ?_
  · refine (agree_parameterList agrees).bind fun _ _ parameters => ?_
    exact (agree_block agrees).bind fun _ _ body => .pure ⟨parameters, body⟩
  · exact .flagged (.function names parameters body)

theorem agree_functionDeclaration :
    Agree Tree.Alike d.functionDeclaration d'.functionDeclaration :=
  .pos fun _ _ => .same agree_functionHead fun _ => .bind .identifier fun _ _ name =>
    agree_functionRest agrees (.some name)

theorem agree_functionExpression :
    Agree Tree.Alike d.functionExpression d'.functionExpression :=
  .pos fun _ _ => .same agree_functionHead fun _ => .same .isToken fun _ =>
    .optional .identifier fun _ _ names => agree_functionRest agrees names

theorem agree_arrowParameters :
    Agree (List.Forall₂ Tree.Alike) d.arrowParameters d'.arrowParameters := by
  refine .ifToken (.pos fun _ _ => .bind .identifier fun _ _ name => ?_)
    (agree_parameterList agrees)
  exact .bind (.finish (.parameter name .none)) fun _ _ alone => .pure (.cons alone .nil)

theorem agree_arrowFunction : Agree Tree.Alike d.arrowFunction d'.arrowFunction := by
  refine .pos fun _ _ => .same .startsAsyncArrow fun _ => .optionalWord ?_
  refine (agree_arrowParameters agrees).bind fun _ _ parameters => .same .expect fun _ => ?_
  refine .bind (.withContext (.ifToken (agree_block agrees) (agrees .assignment))) ?_
  exact fun _ _ body => .flagged (.function .none parameters body)

/-! ### Commas and lists in brackets -/

theorem agree_expression : Agree Tree.Alike d.expression d'.expression := by
  refine .pos fun _ _ => (agrees .assignment).bind fun _ _ first => .loop first fun _ _ left => ?_
  refine .same .accept fun _ => .ite (fun _ => ?_) fun _ => .pure (.inr left)
  refine (agrees .assignment).bind fun _ _ right => ?_
  exact .bind (.finish (.binary left right)) fun _ _ both => .pure (.inl both)

theorem agree_condition : Agree Tree.Alike d.condition d'.condition :=
  .same .expect fun _ => .bind (.allowIn (agree_expression agrees)) fun _ _ inside =>
    .same .expect fun _ => .pure inside

theorem agree_spreadOrAssignment {kind : NodeKind} :
    Agree Tree.Alike (d.spreadOrAssignment kind) (d'.spreadOrAssignment kind) := by
  refine .ifToken (.pos fun _ _ => .same .advance fun _ => ?_) (agrees .assignment)
  exact (agrees .assignment).bind fun _ _ inside => .finish (.wrapped (.some inside))

theorem agree_arguments : Agree (List.Forall₂ Tree.Alike) d.arguments d'.arguments := by
  refine .same .expect fun _ => .bind (.allowIn (.commaList (agree_spreadOrAssignment agrees))) ?_
  exact fun _ _ inside => .same .expect fun _ => .pure inside

theorem agree_elementKey : Agree Tree.Alike d.elementKey d'.elementKey :=
  .same .expect fun _ => .bind (.allowIn (agree_expression agrees)) fun _ _ inside =>
    .same .expect fun _ => .pure inside

theorem agree_arrayElements (turns turns' : Nat) :
    Agree (List.Forall₂ Tree.Alike) (d.arrayElements turns) (d'.arrayElements turns') := by
  induction turns, turns' using Agree.spend with
  | left => exact .exhausted
  | right => exact .exhausted'
  | both turns turns' ih =>
    refine .token fun k _ => ?_
    split
    · exact .pure .nil
    · exact .pos fun _ _ => .same .advance fun _ => .cons .leaf ih
    · refine (agree_spreadOrAssignment agrees).bind fun _ _ first => .same .accept fun _ => ?_
      exact .ite (fun _ => .cons first ih) fun _ => .pure (.cons first .nil)

theorem agree_arrayLiteral : Agree Tree.Alike d.arrayLiteral d'.arrayLiteral :=
  .pos fun _ _ => .same .expect fun _ => .bind (.allowIn (agree_arrayElements agrees _ _))
    fun _ _ inside => .same .expect fun _ => .finish (.elements inside)

/-! ### Objects -/

theorem agree_propertyName : Agree Tree.Alike d.propertyName d'.propertyName := by
  refine .token fun k _ => ?_
  split
  · exact .literal
  · exact .literal
  · refine .pos fun _ _ => .same .advance fun _ => .bind (.allowIn (agrees .assignment)) ?_
    exact fun _ _ key => .same .expect fun _ => .finish (.wrapped (.some key))
  · exact .memberName

omit agrees in
theorem agree_memberModifiers : Agree Eq memberModifiers memberModifiers := by
  refine .same .startsAsyncMember fun _ => .optionalWord (.same .accept fun _ => ?_)
  refine .join (P := Eq) (fun _ => .pure rfl) (fun _ => .startsAccessor) ?_
  rintro isAccessor _ rfl
  exact .optionalWord (.pure rfl)

theorem agree_objectMember : Agree Tree.Alike d.objectMember d'.objectMember := by
  refine .ifToken (agree_spreadOrAssignment agrees) (.pos fun _ _ => ?_)
  refine .same agree_memberModifiers fun (flags, isAccessor) => .same .isToken fun isName => ?_
  refine (agree_propertyName agrees).bind fun _ _ name => .same .isToken fun _ => ?_
  refine .ite (fun _ => .pos fun _ _ => ?_) fun _ => .same .accept fun _ => ?_
  · refine (agree_functionRest agrees .none).bind fun _ _ method => ?_
    exact .finish (.property name method)
  · refine .ite (fun _ => ?_) fun _ => .same .isToken fun _ => .same .isToken fun _ => ?_
    · exact (agrees .assignment).bind fun _ _ value => .finish (.property name value)
    · exact .ite (fun _ => .finish (.shorthand name)) fun _ => .unexpected

theorem agree_objectLiteral : Agree Tree.Alike d.objectLiteral d'.objectLiteral :=
  .pos fun _ _ => .same .expect fun _ => .bind (.allowIn (.commaList (agree_objectMember agrees)))
    fun _ _ inside => .same .expect fun _ => .finish (.elements inside)

/-! ### Operands -/

theorem agree_primary : Agree Tree.Alike d.primary d'.primary := by
  have leaf {k : TokenKind} {i i' : Nat} : Agree Tree.Alike
      (Parser.advance >>= fun _ => Parser.finishLeaf (.token k) i)
      (Parser.advance >>= fun _ => Parser.finishLeaf (.token k) i') :=
    .same .advance fun _ => .finishLeaf
  refine .pos fun _ _ => .token fun k plain => ?_
  split
  · refine .same .startsAsyncFunction fun _ => .ite (fun _ => ?_) fun _ => .identifier
    exact agree_functionExpression agrees
  · exact leaf
  · exact leaf
  · exact leaf
  · exact leaf
  · exact .literal
  · exact .literal
  · exact .literal
  -- The tokens that would be read again do not occur.
  · cases plain
  · cases plain
  · cases plain
  · refine .same .advance fun _ => .bind (.allowIn (agree_expression agrees)) fun _ _ inside => ?_
    exact .same .expect fun _ => .finish (.wrapped (.some inside))
  · exact agree_arrayLiteral agrees
  · exact agree_objectLiteral agrees
  · exact agree_functionExpression agrees
  · exact .unexpected

theorem agree_callOf {start start' : Nat} {callee callee' : Tree} {optional : Bool}
    (callees : callee.Alike callee') :
    Agree Tree.Alike (d.callOf start callee optional) (d'.callOf start' callee' optional) :=
  (agree_arguments agrees).bind fun _ _ args => .flagged (.call callees args)

omit agrees in
theorem agree_memberOf {start start' : Nat} {object object' : Tree} {optional : Bool}
    (objects : object.Alike object') :
    Agree Tree.Alike (memberOf start object optional) (memberOf start' object' optional) :=
  .bind .memberName fun _ _ name => .finish (.access objects name)

theorem agree_elementOf {start start' : Nat} {object object' : Tree} {optional : Bool}
    (objects : object.Alike object') :
    Agree Tree.Alike (d.elementOf start object optional) (d'.elementOf start' object' optional) :=
  (agree_elementKey agrees).bind fun _ _ key => .finish (.access objects key)

theorem agree_suffixTurn {start start' : Nat} {calls : Bool} {e e' : Tree} (same : e.Alike e') :
    Agree (Sum.LiftRel Tree.Alike Tree.Alike) (d.suffixTurn start calls e)
      (d'.suffixTurn start' calls e') := by
  have goesOn {p p' : Parser Tree} (built : Agree Tree.Alike p p') :
      Agree (Sum.LiftRel Tree.Alike Tree.Alike) (p >>= fun t => pure (.inl t))
        (p' >>= fun t => pure (.inl t)) := built.bind fun _ _ more => .pure (.inl more)
  have ends : Agree (Sum.LiftRel Tree.Alike Tree.Alike) (pure (.inr e)) (pure (.inr e')) :=
    .pure (.inr same)
  refine .token fun k plain => ?_
  split
  · exact .same .advance fun _ => goesOn (agree_memberOf same)
  · refine .same .advance fun _ => .ifToken (goesOn (agree_elementOf agrees same)) ?_
    refine .same .isToken fun _ => .ite (fun _ => ?_) fun _ => goesOn (agree_memberOf same)
    exact goesOn (agree_callOf agrees same)
  · exact goesOn (agree_elementOf agrees same)
  · exact .ite (fun _ => goesOn (agree_callOf agrees same)) fun _ => ends
  · exact .bind .literal fun _ _ text => goesOn (.finish (.taggedTemplate same text))
  · cases plain
  · exact ends

theorem agree_suffixes {start start' : Nat} {calls : Bool} {e e' : Tree} (same : e.Alike e') :
    Agree Tree.Alike (d.suffixes start calls e) (d'.suffixes start' calls e') :=
  .loop same fun _ _ same => agree_suffixTurn agrees same

theorem agree_construction : Agree Tree.Alike d.construction d'.construction := by
  refine .pos fun _ _ => .same .expect fun _ => .pos fun _ _ => ?_
  refine .bind (.nested (.ifToken (agrees .construction) (agree_primary agrees))) fun _ _ base => ?_
  refine (agree_suffixes agrees base).bind fun _ _ callee => .same .isToken fun _ => ?_
  refine .optional (agree_arguments agrees) fun _ _ args => .finish ?_
  cases args with
  | none => exact .bareCall callee
  | some args => exact .call callee args

theorem agree_leftHandSide : Agree Tree.Alike d.leftHandSide d'.leftHandSide := by
  refine .pos fun _ _ => .same .isToken fun _ => ?_
  exact .join (fun _ => agrees .construction) (fun _ => agree_primary agrees) fun _ _ base =>
    agree_suffixes agrees base

/-! ### Operators -/

theorem agree_unary : Agree Tree.Alike d.unary d'.unary := by
  refine .pos fun _ _ => .token fun k _ => .state fun s s' states => .same .isWord fun _ => ?_
  rw [← states.context]
  refine .ite (fun _ => .same .advance fun _ => ?_) fun _ => .ite (fun _ => ?_) fun _ => ?_
  · exact .bind (.nested (agrees .unary)) fun _ _ e => .finish (.wrapped (.some e))
  · exact .same .advance fun _ => .bind (.nested (agrees .unary)) fun _ _ e => .finish (.unary e)
  refine (agree_leftHandSide agrees).bind fun _ _ e => .token fun k _ => ?_
  refine .same .lineBreak fun _ => ?_
  exact .ite (fun _ => .same .advance fun _ => .finish (.unary e)) fun _ => .pure e

theorem agree_operand (min : Nat) : Agree Tree.Alike (d.operand min) (d'.operand min) := by
  refine .pos fun _ _ => (agrees .unary).bind fun _ _ first => .loop first fun _ _ left => ?_
  refine .token fun k _ => .state fun s s' states => ?_
  rw [← states.context]
  refine .ite (fun _ => .pure (.inr left)) fun _ => .same .advance fun _ => ?_
  refine (agrees (.operand _)).bind fun _ _ right => ?_
  exact .bind (.finish (.binary left right)) fun _ _ both => .pure (.inl both)

theorem agree_conditional : Agree Tree.Alike d.conditional d'.conditional := by
  refine .pos fun _ _ => (agrees (.operand 0)).bind fun _ _ condition => .same .accept fun _ => ?_
  refine .ite (fun _ => .bind (.allowIn (agrees .assignment)) fun _ _ whenTrue => ?_)
    fun _ => .pure condition
  refine .same .expect fun _ => (agrees .assignment).bind fun _ _ whenFalse => ?_
  exact .finish (.conditional condition whenTrue whenFalse)

/-! ### Assignments -/

theorem agree_yielding : Agree Tree.Alike d.yielding d'.yielding := by
  refine .pos fun _ _ => .same .advance fun _ => .same .lineBreak fun _ => ?_
  refine .ite (fun _ => .finish (.wrapped .none)) fun _ => .same .accept fun _ => ?_
  refine .ite (fun _ => ?_) fun _ => .token fun k _ => ?_
  · exact (agrees .assignment).bind fun _ _ e => .flagged (.wrapped (.some e))
  refine .ite (fun _ => .finish (.wrapped .none)) fun _ => ?_
  exact (agrees .assignment).bind fun _ _ e => .finish (.wrapped (.some e))

theorem agree_assignmentBody : Agree Tree.Alike d.assignmentBody d'.assignmentBody := by
  refine .state fun s s' states => .same .isWord fun _ => ?_
  rw [← states.context]
  refine .ite (fun _ => agree_yielding agrees) fun _ => .same .startsArrow fun _ => ?_
  refine .ite (fun _ => agree_arrowFunction agrees) fun _ => .pos fun _ _ => ?_
  refine (agree_conditional agrees).bind fun _ _ left => .token fun k _ => ?_
  refine .ite (fun _ => .same .advance fun _ => ?_) fun _ => .pure left
  exact (agrees .assignment).bind fun _ _ right => .finish (.binary left right)

/-! ### Simple statements -/

theorem agree_expressionStatement :
    Agree Tree.Alike d.expressionStatement d'.expressionStatement :=
  .pos fun _ _ => (agree_expression agrees).bind fun _ _ e =>
    .same .endStatement fun _ => .finish (.wrapped (.some e))

omit agrees in
theorem agree_emptyStatement : Agree Tree.Alike emptyStatement emptyStatement :=
  .pos fun _ _ => .same .advance fun _ => .finishLeaf

theorem agree_declaration : Agree Tree.Alike d.declaration d'.declaration :=
  .pos fun _ _ => .bind .identifier fun _ _ name => .same .accept fun _ =>
    .optional (agrees .assignment) fun _ _ value => .finish (.declaration name value)

theorem agree_variableList : Agree Tree.Alike d.variableList d'.variableList :=
  .pos fun _ _ => .token fun _ _ => .same .advance fun _ =>
    .bind (.commaSequence (agree_declaration agrees)) fun _ _ inside =>
      .flagged (.declarationList inside)

theorem agree_variableStatement : Agree Tree.Alike d.variableStatement d'.variableStatement :=
  .pos fun _ _ => (agree_variableList agrees).bind fun _ _ list =>
    .same .endStatement fun _ => .finish (.wrapped (.some list))

/-! ### Branches and loops -/

theorem agree_ifStatement : Agree Tree.Alike d.ifStatement d'.ifStatement := by
  refine .pos fun _ _ => .same .expect fun _ => ?_
  refine (agree_condition agrees).bind fun _ _ condition => ?_
  refine (agrees .statement).bind fun _ _ whenTrue => .same .accept fun _ => ?_
  exact .optional (agrees .statement) fun _ _ whenFalse =>
    .finish (.branch condition whenTrue whenFalse)

theorem agree_doStatement : Agree Tree.Alike d.doStatement d'.doStatement := by
  refine .pos fun _ _ => .same .expect fun _ => (agrees .statement).bind fun _ _ body => ?_
  refine .same .expect fun _ => (agree_condition agrees).bind fun _ _ condition => ?_
  exact .same .accept fun _ => .finish (.loop .none (.some condition) .none body)

theorem agree_whileStatement : Agree Tree.Alike d.whileStatement d'.whileStatement := by
  refine .pos fun _ _ => .same .expect fun _ => ?_
  refine (agree_condition agrees).bind fun _ _ condition => ?_
  exact (agrees .statement).bind fun _ _ body =>
    .finish (.loop .none (.some condition) .none body)

theorem agree_forInitializer :
    Agree (Option.Rel Tree.Alike) d.forInitializer d'.forInitializer := by
  refine .ifToken (.pure .none) (.present (.withContext (.token fun _ _ => ?_)))
  exact .ite (fun _ => agree_variableList agrees) fun _ => agree_expression agrees

theorem agree_iterationRest {kind : NodeKind} {start start' : Nat} {binding binding' : Option Tree}
    {subject subject' : Parser Tree} (bindings : Option.Rel Tree.Alike binding binding')
    (subjects : Agree Tree.Alike subject subject') : Agree Tree.Alike
      (d.iterationRest kind start binding subject)
      (d'.iterationRest kind start' binding' subject') := by
  unfold iterationRest
  cases bindings with
  | none => exact .unexpected
  | some binding =>
    refine .same .advance fun _ => .bind (.allowIn subjects) fun _ _ subject => ?_
    refine .same .expect fun _ => (agrees .statement).bind fun _ _ body => ?_
    exact .finish (.iteration binding subject body)

theorem agree_forRest {start start' : Nat} {initializer initializer' : Option Tree}
    (initializers : Option.Rel Tree.Alike initializer initializer') : Agree Tree.Alike
      (d.forRest start initializer) (d'.forRest start' initializer') := by
  refine .same .expect fun _ => .same .isToken fun _ => ?_
  refine .optional' (.allowIn (agree_expression agrees)) fun _ _ condition => ?_
  refine .same .expect fun _ => .same .isToken fun _ => ?_
  refine .optional' (.allowIn (agree_expression agrees)) fun _ _ incrementor => ?_
  refine .same .expect fun _ => (agrees .statement).bind fun _ _ body => ?_
  exact .finish (.loop initializers condition incrementor body)

theorem agree_forStatement : Agree Tree.Alike d.forStatement d'.forStatement := by
  refine .pos fun _ _ => .same .expect fun _ => .same .expect fun _ => ?_
  refine (agree_forInitializer agrees).bind fun _ _ initializers => .ifToken ?_ ?_
  · exact agree_iterationRest agrees initializers (agree_expression agrees)
  · refine .same .isWord fun _ => .ite (fun _ => ?_) fun _ => agree_forRest agrees initializers
    exact agree_iterationRest agrees initializers (agrees .assignment)

/-! ### Leaving -/

theorem agree_returnStatement : Agree Tree.Alike d.returnStatement d'.returnStatement := by
  refine .pos fun _ _ => .same .advance fun _ => .same .mayEndStatement fun _ => ?_
  exact .optional' (agree_expression agrees) fun _ _ value =>
    .same .endStatement fun _ => .finish (.wrapped value)

theorem agree_throwStatement : Agree Tree.Alike d.throwStatement d'.throwStatement :=
  .pos fun _ _ => .same .advance fun _ => (agree_expression agrees).bind fun _ _ value =>
    .same .endStatement fun _ => .finish (.wrapped (.some value))

omit agrees in
theorem agree_jumpStatement {kind : NodeKind} :
    Agree Tree.Alike (jumpStatement kind) (jumpStatement kind) :=
  .pos fun _ _ => .same .advance fun _ => .same .isToken fun _ => .same .lineBreak fun _ =>
    .optional .identifier fun _ _ label => .same .endStatement fun _ => .finish (.jump label)

/-! ### Faults, switches and labels -/

theorem agree_catchClause : Agree (Option.Rel Tree.Alike) d.catchClause d'.catchClause := by
  have handler {i i' : Nat} {name name' : Option Tree} (names : Option.Rel Tree.Alike name name') :
      Agree (Option.Rel Tree.Alike)
        (d.block >>= fun body => some <$> Parser.finish .catchClause i (.handler name body))
        (d'.block >>= fun body => some <$> Parser.finish .catchClause i' (.handler name' body)) :=
    (agree_block agrees).bind fun _ _ body => .present (.finish (.handler names body))
  refine .ifToken (.pos fun _ _ => .same .advance fun _ => .same .accept fun _ => ?_) (.pure .none)
  refine .ite (fun _ => .bind .identifier fun _ _ name => .same .expect fun _ => ?_) fun _ => ?_
  · exact handler (.some name)
  · exact handler .none

theorem agree_tryStatement : Agree Tree.Alike d.tryStatement d'.tryStatement := by
  refine .pos fun _ _ => .same .expect fun _ => (agree_block agrees).bind fun _ _ body => ?_
  refine (agree_catchClause agrees).bind fun _ _ onFault => .same .accept fun _ => ?_
  refine .optional (agree_block agrees) fun _ _ finalizer => ?_
  have missing : ∀ {h h' : Option Tree}, Option.Rel Tree.Alike h h' → h.isNone = h'.isNone := by
    rintro _ _ (_ | _) <;> rfl
  dsimp only
  rw [missing onFault, missing finalizer]
  exact .ite (fun _ => .stopped) fun _ => .finish (.attempt body onFault finalizer)

omit agrees in
theorem agree_clauseGoesOn : Agree Eq clauseGoesOn clauseGoesOn := by
  refine .token fun k _ => ?_
  split
  · exact .pure rfl
  · exact .pure rfl
  · exact .pure rfl
  · exact .unexpected
  · exact .pure rfl

theorem agree_caseClause : Agree Tree.Alike d.caseClause d'.caseClause := by
  have clause {i i' : Nat} {kind : NodeKind} {test test' : Option Tree}
      (tests : Option.Rel Tree.Alike test test') : Agree Tree.Alike
        (expect .colon >>= fun _ => allowIn (repeatWhile d.turns clauseGoesOn d.statement) >>=
          fun statements => Parser.finish kind i (.clause test statements))
        (expect .colon >>= fun _ => allowIn (repeatWhile d'.turns clauseGoesOn d'.statement) >>=
          fun statements => Parser.finish kind i' (.clause test' statements)) := by
    refine .same .expect fun _ => ?_
    refine .bind (.allowIn (.repeatWhile agree_clauseGoesOn (agrees .statement))) ?_
    exact fun _ _ inside => .finish (.clause tests inside)
  refine .pos fun _ _ => .token fun k _ => ?_
  dsimp only
  split
  · refine .same .advance fun _ => .bind (.allowIn (agree_expression agrees)) fun _ _ test => ?_
    exact clause (.some test)
  · exact .same .advance fun _ => clause .none
  · exact .stopped

theorem agree_caseClauses (seenDefault : Bool) (turns turns' : Nat) :
    Agree (List.Forall₂ Tree.Alike) (d.caseClauses seenDefault turns)
      (d'.caseClauses seenDefault turns') := by
  induction turns, turns' using Agree.spend generalizing seenDefault with
  | left => exact .exhausted
  | right => exact .exhausted'
  | both turns turns' ih =>
    refine .ifToken (.pure .nil) (.same .isToken fun isDefault => .ite (fun _ => .stopped) ?_)
    refine fun _ => (agree_caseClause agrees).bind fun _ _ first => .cons first ?_
    exact ih (seenDefault || isDefault)

theorem agree_switchStatement : Agree Tree.Alike d.switchStatement d'.switchStatement := by
  refine .pos fun _ _ => .same .expect fun _ => (agree_condition agrees).bind fun _ _ subject => ?_
  refine .same .expect fun _ => (agree_caseClauses agrees _ _ _).bind fun _ _ inside => ?_
  exact .same .expect fun _ => .finish (.switch subject inside)

theorem agree_labeledStatement : Agree Tree.Alike d.labeledStatement d'.labeledStatement :=
  .pos fun _ _ => .bind .identifier fun _ _ label => .same .expect fun _ =>
    (agrees .statement).bind fun _ _ body => .finish (.labeled label body)

theorem agree_statementBody : Agree Tree.Alike d.statementBody d'.statementBody := by
  refine .token fun k plain => ?_
  split
  · exact agree_block agrees
  · exact agree_emptyStatement
  · exact agree_variableStatement agrees
  · exact agree_variableStatement agrees
  · exact agree_variableStatement agrees
  · exact agree_functionDeclaration agrees
  · refine .same .startsAsyncFunction fun _ => .ite (fun _ => agree_functionDeclaration agrees) ?_
    refine fun _ => .same .startsLabel fun _ => .ite (fun _ => agree_labeledStatement agrees) ?_
    exact fun _ => agree_expressionStatement agrees
  · exact agree_ifStatement agrees
  · exact agree_doStatement agrees
  · exact agree_whileStatement agrees
  · exact agree_forStatement agrees
  · exact agree_returnStatement agrees
  · exact agree_throwStatement agrees
  · exact agree_tryStatement agrees
  · exact agree_jumpStatement
  · exact agree_jumpStatement
  · exact agree_switchStatement agrees
  · exact .unexpected
  · exact .unexpected
  · exact .unexpected
  · exact agree_expressionStatement agrees

end productions

end Descent

end Shapewire
