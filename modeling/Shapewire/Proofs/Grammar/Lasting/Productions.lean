/-
The budget lasts for every production, given that it does for the parts reached through the descent.

Each production is followed from place to place as in its derivation.  Up to its first token it may
open parts of a lower rank only (`Nonterminal.rank`), and behind a token there is room for any part
again, so what has to be said of a production is how much room it needs before its first token.
-/
import Shapewire.Proofs.Grammar.Passing

namespace Shapewire

open Shapewire.Parser

/-- How many parts of the grammar may open one within the other, before a token is consumed, once
this one is open. -/
def Nonterminal.rank : Nonterminal → Nat
  | .statement => 4
  | .assignment => 3
  | .operand _ => 2
  | .unary => 1
  | .construction => 0

theorem Nonterminal.rank_lt (part : Nonterminal) : part.rank < 5 := by
  cases part <;> simp [rank]

/-- A budget lasts for the parts that a production reaches through its descent. -/
structure Descent.Serves (d : Descent) (text : List Char) (budget : Nat) : Prop where
  faithful : d.Faithful
  turns : budget < d.turns
  parse : ∀ (part : Nonterminal) {n : Nat} {c : Context} {x : Place},
    x.Roomy text budget (part.rank + 1) → Lasts n c x (d.parse part)

namespace Descent

section productions

variable {d : Descent} {text : List Char} {budget : Nat} (serves : d.Serves text budget) {m n : Nat}
  {c : Context} {x : Place}

include serves

/-- Behind a token any part may open. -/
theorem Serves.lasts (part : Nonterminal) (room : x.Roomy text budget 5) :
    Lasts n c x (d.parse part) :=
  serves.parse part (room.mono part.rank_lt)

theorem Serves.enough (room : x.Roomy text budget m) : x.left < d.turns := by
  have := serves.turns
  have := room.room
  omega

/-! ### Functions -/

theorem lasts_statements {more : Parser Bool} (room : x.Roomy text budget 5) (asks : Frugal more)
    (stays : ∀ x, Leads n c x more fun _ y => y = x) :
    Lasts n c x (repeatWhile d.turns more d.statement) :=
  .repeatWhile (serves.enough room) room asks stays (fun _ => serves.faithful .statement)
    fun _ room => serves.lasts .statement room

omit serves in
theorem frugal_blockGoesOn : Frugal blockGoesOn := by
  refine .bind .token fun k => ?_
  split
  · exact .pure
  · exact .unexpected
  · exact .pure

theorem lasts_block (room : x.Roomy text budget m) : Lasts n c x d.block := by
  refine .pos (.expect rfl fun y opened => ?_)
  refine .before (.allowIn ?_) fun _ => .bind .expect fun _ => .finish
  exact lasts_statements serves (room.taken opened) frugal_blockGoesOn fun _ =>
    leads_blockGoesOn.mono fun _ _ => And.left

theorem lasts_parameter (room : x.Roomy text budget m) : Lasts n c x d.parameter := by
  refine .pos (.accept rfl fun rest y dots => .named fun z named => ?_)
  cases dots with
  | taken => exact Frugal.finish.lasts
  | absent =>
    refine .ifAccept rfl (fun u sign => ?_) Frugal.finish.lasts
    refine .before (.map (.allowIn ?_)) fun _ => .finish
    exact serves.lasts .assignment ((room.taken named).taken sign)

theorem lasts_parameterList (room : x.Roomy text budget m) : Lasts n c x d.parameterList := by
  refine .expect rfl fun y opened => .before ?_ fun _ => .bind .expect fun _ => .pure
  exact .commaList (serves.enough (room.taken opened)) (room.taken opened)
    (fun _ => derives_parameter serves.faithful) fun _ room => lasts_parameter serves room

theorem lasts_functionRest {kind : NodeKind} {start : Nat} {name : Option Tree} {flags : NodeFlags}
    (room : x.Roomy text budget m) : Lasts n c x (d.functionRest kind start name flags) := by
  refine .before (.withContext ?_) fun _ => .flagged
  refine (lasts_parameterList serves room).bind (derives_parameterList serves.faithful) ?_
  intro ps y parameters
  exact (lasts_block serves (parameters.roomy room)).before fun _ => .pure

theorem lasts_functionDeclaration (room : x.Roomy text budget m) :
    Lasts n c x d.functionDeclaration := by
  refine .pos (.bind Frugal.functionHead.lasts leads_functionHead fun flags y head => ?_)
  exact .named fun z named => lasts_functionRest serves ((room.functionHead head).taken named)

theorem lasts_functionExpression (room : x.Roomy text budget m) :
    Lasts n c x d.functionExpression := by
  refine .pos (.bind Frugal.functionHead.lasts leads_functionHead fun flags y head => ?_)
  refine .ifToken (fun _ => ?_) fun _ => lasts_functionRest serves (room.functionHead head)
  refine .present (P := fun t z => y.MayName (some t) z) Frugal.identifier.lasts
    (.identifier fun z => .named) fun name z named => ?_
  exact lasts_functionRest serves ((room.functionHead head).mayName named)

theorem lasts_arrowParameters (room : x.Roomy text budget m) : Lasts n c x d.arrowParameters := by
  refine .ifToken (fun _ => ?_) fun _ => lasts_parameterList serves room
  exact (Frugal.bind .pos fun _ => .bind .identifier fun _ => .bind .finish fun _ => .pure).lasts

theorem lasts_arrowFunction (room : x.Roomy text budget m) : Lasts n c x d.arrowFunction := by
  refine .pos (.asking Frugal.startsAsyncArrow.lasts .startsAsyncArrow fun isAsync is => ?_)
  refine .acceptWord is fun y async => ?_
  have room := room.acceptedWord async
  refine (lasts_arrowParameters serves room).bind (derives_arrowParameters serves.faithful) ?_
  refine fun ps z parameters => .expect rfl fun u mark => ?_
  have room := (parameters.roomy room).taken mark
  refine .before (.withContext (.ifToken (fun _ => ?_) fun _ => ?_)) fun _ => .flagged
  · exact lasts_block serves room
  · exact serves.lasts .assignment room

/-! ### Commas and lists in brackets -/

theorem lasts_expression (room : x.Roomy text budget 4) : Lasts n c x d.expression := by
  refine .pos ((serves.parse .assignment room).bind (serves.faithful .assignment) ?_)
  intro e y first
  have room := first.more room
  refine .loop (serves.enough room) room (fun l y room => ?_) fun l y room => ?_
  · refine .ifAccept rfl (fun z mark => ?_) Frugal.pure.lasts
    exact (serves.lasts .assignment (room.taken mark)).before fun _ => .bind .finish fun _ => .pure
  · exact (passes_commaTurn serves.faithful _ l).mono fun _ _ passes more =>
      (passes more).further room.sound

theorem lasts_condition (room : x.Roomy text budget m) : Lasts n c x d.condition := by
  refine .expect rfl fun y opened => .before (.allowIn ?_) fun _ => .bind .expect fun _ => .pure
  exact lasts_expression serves (room.taken opened).less

theorem lasts_spreadOrAssignment {kind : NodeKind} (room : x.Roomy text budget 5) :
    Lasts n c x (d.spreadOrAssignment kind) := by
  refine .ifToken (fun is => .pos (.take is rfl fun y dots => ?_)) fun _ => ?_
  · exact (serves.lasts .assignment (room.taken dots)).before fun _ => .finish
  · exact serves.lasts .assignment room

theorem lasts_arguments (room : x.Roomy text budget m) : Lasts n c x d.arguments := by
  refine .expect rfl fun y opened => .before (.allowIn ?_) fun _ => .bind .expect fun _ => .pure
  exact .commaList (serves.enough (room.taken opened)) (room.taken opened)
    (fun _ => derives_spreadOrAssignment serves.faithful)
    fun _ room => lasts_spreadOrAssignment serves room

theorem lasts_elementKey (room : x.Roomy text budget m) : Lasts n c x d.elementKey := by
  refine .expect rfl fun y opened => .before (.allowIn ?_) fun _ => .bind .expect fun _ => .pure
  exact lasts_expression serves (room.taken opened).less

theorem lasts_arrayElements {turns : Nat} (enough : x.left < turns) (room : x.Roomy text budget 5) :
    Lasts n c x (d.arrayElements turns) := by
  induction turns generalizing x with
  | zero => exact absurd enough (Nat.not_lt_zero _)
  | succ turns ih =>
    refine .token ?_
    split
    · exact Frugal.pure.lasts
    · rename_i is
      refine .pos (.take is rfl fun y comma => ?_)
      have shorter := comma.left_lt room.sound
      exact (ih (by omega) (room.taken comma)).before fun _ => .pure
    · refine (lasts_spreadOrAssignment serves room).bind
        (derives_spreadOrAssignment serves.faithful) fun t y item => ?_
      refine .ifAccept rfl (fun z comma => ?_) Frugal.pure.lasts
      have further := item.further room.sound
      have behind := (further.trans (comma.further further.sound)).shorter
      exact (ih (by omega) ((item.more room).taken comma)).before fun _ => .pure

theorem lasts_arrayLiteral (room : x.Roomy text budget m) : Lasts n c x d.arrayLiteral := by
  refine .pos (.expect rfl fun y opened => ?_)
  refine .before (.allowIn ?_) fun _ => .bind .expect fun _ => .finish
  exact lasts_arrayElements serves (serves.enough (room.taken opened)) (room.taken opened)

/-! ### Objects -/

theorem lasts_propertyName (room : x.Roomy text budget m) : Lasts n c x d.propertyName := by
  refine .token ?_
  split
  · exact Frugal.literal.lasts
  · exact Frugal.literal.lasts
  · rename_i is
    refine .pos (.take is rfl fun y opened => ?_)
    refine .before (.allowIn ?_) fun _ => .bind .expect fun _ => .finish
    exact serves.lasts .assignment (room.taken opened)
  · exact Frugal.memberName.lasts

theorem lasts_objectMember (room : x.Roomy text budget 5) : Lasts n c x d.objectMember := by
  refine .ifToken (fun _ => lasts_spreadOrAssignment serves room) fun _ => .pos ?_
  refine .bind Frugal.memberModifiers.lasts leads_memberModifiers ?_
  rintro ⟨flags, isAccessor⟩ y head
  have room := room.memberHead head
  refine .isToken fun isName _ => ?_
  refine (lasts_propertyName serves room).bind (derives_propertyName serves.faithful) ?_
  refine fun k z named => .isToken fun _ _ => .ite (fun _ => .pos ?_) fun _ => ?_
  · exact (lasts_functionRest serves (named.roomy room)).before fun _ => .finish
  · refine .ifAccept rfl (fun u colon => ?_) ?_
    · exact (serves.lasts .assignment ((named.roomy room).taken colon)).before fun _ => .finish
    · exact (Frugal.bind .isToken fun _ => .bind .isToken fun _ =>
        .ite .finish .unexpected).lasts

theorem lasts_objectLiteral (room : x.Roomy text budget m) : Lasts n c x d.objectLiteral := by
  refine .pos (.expect rfl fun y opened => ?_)
  refine .before (.allowIn ?_) fun _ => .bind .expect fun _ => .finish
  exact .commaList (serves.enough (room.taken opened)) (room.taken opened)
    (fun _ => derives_objectMember serves.faithful) fun _ room => lasts_objectMember serves room

/-! ### Templates -/

theorem lasts_substitutions {turns : Nat} (enough : x.left < turns) (room : x.Roomy text budget 5) :
    Lasts n c x (d.substitutions turns) := by
  induction turns generalizing x with
  | zero => exact absurd enough (Nat.not_lt_zero _)
  | succ turns ih =>
    refine (Lasts.allowIn (lasts_expression serves room.less)).bind
      (.allowIn (derives_expression serves.faithful)) fun e y inside => ?_
    refine .isToken fun closes is => .ite (fun _ => .unreached) fun closed => ?_
    have brace : y.token = .closeBrace := is.mp (by simpa using closed)
    refine .reread fun sound => .value (.isToken fun isLast _ => ?_)
    have proper : y.asTemplate.token.isProper = true := by
      rcases y.scanner.token_rescanTemplate sound with is | is <;>
        rw [Place.token, Place.asTemplate, is] <;> rfl
    refine .advance proper fun z text => .ite (fun _ => Frugal.pure.lasts) fun _ => ?_
    have again := (inside.more room).asTemplate brace
    have shorter := (inside.further room.sound).shorter
    have behind : z.left < y.asTemplate.left := text.left_lt again.sound
    rw [Place.left_asTemplate] at behind
    exact (ih (by omega) (again.taken text)).before fun _ => .pure

theorem lasts_template (is : x.token = .templateHead) (room : x.Roomy text budget m) :
    Lasts n c x d.template := by
  refine .pos (.value (.take is rfl fun y head => ?_))
  refine .before ?_ fun _ => .finish
  exact lasts_substitutions serves (serves.enough (room.taken head)) (room.taken head)

/-! ### Operands -/

theorem lasts_primary (room : x.Roomy text budget m) : Lasts n c x d.primary := by
  have word {k : TokenKind} {start : Nat} : Lasts n c x
      (Parser.advance >>= fun _ => Parser.finishLeaf (.token k) start) :=
    (Frugal.bind .advance fun _ => .finishLeaf).lasts
  refine .pos (.token ?_)
  split
  · refine .asking Frugal.startsAsyncFunction.lasts .startsAsyncFunction fun _ _ => ?_
    exact .ite (fun _ => lasts_functionExpression serves room) fun _ => Frugal.identifier.lasts
  · exact word
  · exact word
  · exact word
  · exact word
  · exact Frugal.literal.lasts
  · exact Frugal.literal.lasts
  · exact Frugal.literal.lasts
  · exact (Frugal.bind .reread fun _ => .literal).lasts
  · exact (Frugal.bind .reread fun _ => .literal).lasts
  · exact lasts_template serves ‹_› room
  · refine .take ‹_› rfl fun y opened => ?_
    refine .before (.allowIn ?_) fun _ => .bind .expect fun _ => .finish
    exact lasts_expression serves (room.taken opened).less
  · exact lasts_arrayLiteral serves room
  · exact lasts_objectLiteral serves room
  · exact lasts_functionExpression serves room
  · exact Frugal.unexpected.lasts

theorem lasts_callOf {start : Nat} {callee : Tree} {optional : Bool}
    (room : x.Roomy text budget m) : Lasts n c x (d.callOf start callee optional) :=
  (lasts_arguments serves room).before fun _ => .flagged

theorem lasts_elementOf {start : Nat} {object : Tree} {optional : Bool}
    (room : x.Roomy text budget m) : Lasts n c x (d.elementOf start object optional) :=
  (lasts_elementKey serves room).before fun _ => .finish

theorem lasts_suffixTurn {start : Nat} {calls : Bool} {e : Tree} (room : x.Roomy text budget m) :
    Lasts n c x (d.suffixTurn start calls e) := by
  have goesOn {p : Parser Tree} {y : Place} (built : Lasts n c y p) :
      Lasts n c y (p >>= fun t => pure (Sum.inl (β := Tree) t)) := built.before fun _ => .pure
  refine .token ?_
  split
  · exact (Frugal.bind .advance fun _ => .bind .memberOf fun _ => .pure).lasts
  · refine .take ‹_› rfl fun y mark => .ifToken (fun _ => ?_) fun _ => ?_
    · exact goesOn (lasts_elementOf serves (room.taken mark))
    · refine .isToken fun _ _ => .ite (fun _ => ?_) fun _ => goesOn Frugal.memberOf.lasts
      exact goesOn (lasts_callOf serves (room.taken mark))
  · exact goesOn (lasts_elementOf serves room)
  · exact .ite (fun _ => goesOn (lasts_callOf serves room)) fun _ => Frugal.pure.lasts
  · exact (Frugal.bind .literal fun _ => .bind .finish fun _ => .pure).lasts
  · refine (lasts_template serves ‹_› room).before fun _ => .bind .finish fun _ => .pure
  · exact Frugal.pure.lasts

/-- What stands behind an operand takes a token, if anything does. -/
theorem further_suffixTurn {start : Place} {calls : Bool} {e : Tree} (sound : x.Sound text) :
    Leads n c x (d.suffixTurn start.pos calls e) fun r y => r.isLeft = true → x.Further text y :=
  (passes_suffixTurn serves.faithful).mono fun _ _ passes more => (passes more).further sound

theorem lasts_suffixes {start : Place} {calls : Bool} {e : Tree} (room : x.Roomy text budget 5) :
    Lasts n c x (d.suffixes start.pos calls e) :=
  .loop (serves.enough room) room (fun _ _ room => lasts_suffixTurn serves room)
    fun _ _ room => further_suffixTurn serves room.sound

theorem lasts_construction (room : x.Roomy text budget m) : Lasts n c x d.construction := by
  refine .pos (.expect rfl fun y word => .pos ?_)
  have room := room.taken word
  refine Lasts.bind (P := fun e z => Derives n c (.suffixed false) y [e] z) (.nested ?_)
    (.nested fun room => .ifToken (fun _ => ?_) fun _ => ?_) fun e z base => ?_
  · refine .ifToken (fun _ => ?_) fun _ => lasts_primary serves room
    exact serves.lasts .construction room
  · exact (serves.faithful .construction).mono fun e z operand => .calleeConstruction room operand
  · exact (derives_primary serves.faithful).mono fun e z operand => .calleeBase room operand
  refine (lasts_suffixes serves (base.more room)).bind (derives_suffixes serves.faithful base) ?_
  refine fun e z callee => .ifToken (fun _ => ?_) fun _ => Frugal.finish.lasts
  exact (lasts_arguments serves (callee.more room)).map.before fun _ => .finish

theorem lasts_leftHandSide (room : x.Roomy text budget 1) : Lasts n c x d.leftHandSide := by
  refine .pos (.ifToken (fun _ => ?_) fun _ => ?_)
  · refine (serves.parse .construction room).bind (serves.faithful .construction) ?_
    exact fun e y operand => lasts_suffixes serves (operand.more room)
  · refine (lasts_primary serves room).bind (derives_primary serves.faithful) ?_
    exact fun e y operand => lasts_suffixes serves (operand.more room)

/-! ### Operators -/

theorem lasts_unary (room : x.Roomy text budget 1) : Lasts n c x d.unary := by
  have operand {y : Place} (room : y.Roomy text budget 5) {f : Tree → Parser Tree}
      (rest : ∀ e, Frugal (f e)) : Lasts n c y (Parser.nested (d.parse .unary) >>= f) :=
    (Lasts.nested (serves.lasts .unary room)).before rest
  refine .pos (.token (.state (.isWord fun isAwait is => .ite (fun both => ?_) fun _ => ?_)))
  · have identifier := (is.mp (Bool.and_eq_true_iff.mp both).2).1
    exact .take identifier rfl fun y word => operand (room.taken word) fun _ => .finish
  refine .ite (fun operator => ?_) fun _ => ?_
  · exact .advance (isProper_of_isPrefixOperator operator) fun y mark =>
      operand (room.taken mark) fun _ => .finish
  refine (lasts_leftHandSide serves room).before fun _ => .bind .token fun _ => ?_
  exact .bind .lineBreak fun _ => .ite (.bind .advance fun _ => .finish) .pure

theorem lasts_operand {min : Nat} (room : x.Roomy text budget 2) : Lasts n c x (d.operand min) := by
  refine .pos ((serves.parse .unary room).bind (serves.faithful .unary) fun e y first => ?_)
  have room := first.more room
  refine .loop (serves.enough room) room (fun l y room => ?_) fun l y room => ?_
  · refine .token (.state (.ite (fun _ => Frugal.pure.lasts) fun more => ?_))
    refine .advance (isProper_of_precedence (Nat.lt_of_not_le more)) fun z mark => ?_
    refine (serves.lasts (.operand _) (room.taken mark)).before ?_
    exact fun _ => .bind .finish fun _ => .pure
  · exact (passes_operandTurn serves.faithful _ min l).mono fun _ _ passes more =>
      (passes more).further room.sound

theorem lasts_conditional (room : x.Roomy text budget 3) : Lasts n c x d.conditional := by
  refine .pos ((serves.parse (.operand 0) room).bind (serves.faithful (.operand 0)) ?_)
  refine fun a y condition => .ifAccept rfl (fun z question => ?_) Frugal.pure.lasts
  have room := (condition.roomy room).taken question
  refine (Lasts.allowIn (serves.lasts .assignment room)).bind
    (.allowIn (serves.faithful .assignment)) fun b u whenTrue => ?_
  refine .expect rfl fun v colon => ?_
  exact (serves.lasts .assignment ((whenTrue.roomy room).taken colon)).before fun _ => .finish

/-! ### Assignments -/

theorem lasts_yielding (word : x.token = .identifier) (room : x.Roomy text budget m) :
    Lasts n c x d.yielding := by
  refine .pos (.take word rfl fun y word => .lineBreak fun _ => ?_)
  refine .ite (fun _ => Frugal.finish.lasts) fun _ => ?_
  have room := room.taken word
  refine .ifAccept rfl (fun z star => ?_) (.token (.ite (fun _ => Frugal.finish.lasts) fun _ => ?_))
  · exact (serves.lasts .assignment (room.taken star)).before fun _ => .flagged
  · exact (serves.lasts .assignment room).before fun _ => .finish

theorem lasts_assignmentBody (room : x.Roomy text budget 3) : Lasts n c x d.assignmentBody := by
  refine .state (.isWord fun isYield is => .ite (fun both => ?_) fun _ => ?_)
  · exact lasts_yielding serves (is.mp (Bool.and_eq_true_iff.mp both).2).1 room
  refine .asking Frugal.startsArrow.lasts .startsArrow fun _ _ => .ite (fun _ => ?_) fun _ => ?_
  · exact lasts_arrowFunction serves room
  refine .pos ((lasts_conditional serves room).bind (derives_conditional serves.faithful) ?_)
  refine fun l y left => .token (.ite (fun assigns => ?_) fun _ => Frugal.pure.lasts)
  refine .advance (isProper_of_assignment assigns) fun z mark => ?_
  exact (serves.lasts .assignment ((left.roomy room).taken mark)).before fun _ => .finish

/-! ### Simple statements -/

theorem lasts_expressionStatement (room : x.Roomy text budget 4) :
    Lasts n c x d.expressionStatement :=
  .pos ((lasts_expression serves room).before fun _ => .bind .endStatement fun _ => .finish)

theorem lasts_declaration (room : x.Roomy text budget m) : Lasts n c x d.declaration := by
  refine .pos (.named fun y named => .ifAccept rfl (fun z sign => ?_) Frugal.finish.lasts)
  exact (serves.lasts .assignment ((room.taken named).taken sign)).map.before fun _ => .finish

theorem lasts_variableList (introduces : introducesVariables x.token = true)
    (room : x.Roomy text budget m) : Lasts n c x d.variableList := by
  refine .pos (.token (.advance (isProper_of_introduces introduces) fun y word => ?_))
  refine .before ?_ fun _ => .flagged
  exact .commaSequence (serves.enough (room.taken word)) (room.taken word)
    (fun _ => derives_declaration serves.faithful) fun _ room => lasts_declaration serves room

theorem lasts_variableStatement (introduces : introducesVariables x.token = true)
    (room : x.Roomy text budget m) : Lasts n c x d.variableStatement :=
  .pos ((lasts_variableList serves introduces room).before fun _ =>
    .bind .endStatement fun _ => .finish)

/-! ### Branches and loops -/

theorem lasts_ifStatement (room : x.Roomy text budget m) : Lasts n c x d.ifStatement := by
  refine .pos (.expect rfl fun y word => ?_)
  refine (lasts_condition serves (room.taken word)).bind (derives_condition serves.faithful) ?_
  intro e z condition
  have room := condition.more (room.taken word)
  refine (serves.lasts .statement room).bind (serves.faithful .statement) fun t u whenTrue => ?_
  refine .ifAccept rfl (fun v other => ?_) Frugal.finish.lasts
  exact (serves.lasts .statement ((whenTrue.roomy room).taken other)).map.before fun _ => .finish

theorem lasts_doStatement (room : x.Roomy text budget m) : Lasts n c x d.doStatement := by
  refine .pos (.expect rfl fun y word => ?_)
  have room := room.taken word
  refine (serves.lasts .statement room).bind (serves.faithful .statement) fun t z body => ?_
  refine .expect rfl fun u while_ => ?_
  exact (lasts_condition serves ((body.roomy room).taken while_)).before fun _ =>
    .bind .accept fun _ => .finish

theorem lasts_whileStatement (room : x.Roomy text budget m) : Lasts n c x d.whileStatement := by
  refine .pos (.expect rfl fun y word => ?_)
  refine (lasts_condition serves (room.taken word)).bind (derives_condition serves.faithful) ?_
  intro e z condition
  exact (serves.lasts .statement (condition.more (room.taken word))).before fun _ => .finish

theorem lasts_forInitializer (room : x.Roomy text budget 5) : Lasts n c x d.forInitializer := by
  refine .ifToken (fun _ => Frugal.pure.lasts) fun _ => .map (.withContext (.token ?_))
  refine .ite (fun introduces => ?_) fun _ => lasts_expression serves room.less
  exact lasts_variableList serves introduces room

theorem lasts_iterationRest {kind : NodeKind} {start : Nat} {initializer : Option Tree}
    {subject : Parser Tree} {part : Part} (proper : x.token.isProper = true)
    (room : x.Roomy text budget m)
    (lasts : ∀ {x : Place}, x.Roomy text budget 5 → Lasts n c.withIn x subject)
    (read : ∀ {x}, Leads n c.withIn x subject fun e y => Derives n c.withIn part x [e] y) :
    Lasts n c x (d.iterationRest kind start initializer subject) := by
  unfold iterationRest
  cases initializer with
  | none => exact Frugal.unexpected.lasts
  | some i =>
    refine .advance proper fun y mark => ?_
    have room := room.taken mark
    refine (Lasts.allowIn (lasts room)).bind (.allowIn read) fun e z inside => ?_
    refine .expect rfl fun u closed => ?_
    exact (serves.lasts .statement ((inside.roomy room).taken closed)).before fun _ => .finish

/-- An expression that is missing where the mark `k` follows, and what comes behind it. -/
theorem lasts_optionalExpression {k : TokenKind} {f : Option Tree → Parser Tree}
    (room : x.Roomy text budget 5)
    (hf : ∀ e y, y.Roomy text budget 5 → Lasts n c y (f e)) : Lasts n c x
      (Parser.isToken k >>= fun b =>
        if b = true then pure none >>= f else some <$> allowIn d.expression >>= f) := by
  refine .ifToken (fun _ => hf none x room) fun _ => ?_
  refine .present (.allowIn (lasts_expression serves room.less))
    (.allowIn (derives_expression serves.faithful)) fun e y inside => ?_
  exact hf (some e) y (inside.more room)

theorem lasts_forStatement (room : x.Roomy text budget m) : Lasts n c x d.forStatement := by
  refine .pos (.expect rfl fun x₁ word => .expect rfl fun x₂ opened => ?_)
  have room := (room.taken word).taken opened
  refine (lasts_forInitializer serves room).bind (derives_forInitializer serves.faithful) ?_
  intro i x₃ initializer
  have room := initializer.roomy room
  refine .ifToken (fun is => ?_) fun _ => .isWord fun isOf is => .ite (fun yes => ?_) fun _ => ?_
  · exact lasts_iterationRest serves (by rw [is]; rfl) room
      (fun room => lasts_expression serves room.less) (derives_expression serves.faithful)
  · exact lasts_iterationRest serves (by rw [(is.mp yes).1]; rfl) room
      (fun room => serves.lasts .assignment room) (serves.faithful .assignment)
  · refine .expect rfl fun x₄ mark => lasts_optionalExpression serves (room.taken mark) ?_
    refine fun e x₅ room => .expect rfl fun x₆ mark => ?_
    refine lasts_optionalExpression serves (room.taken mark) fun s x₇ room => ?_
    refine .expect rfl fun x₈ closed => ?_
    exact (serves.lasts .statement (room.taken closed)).before fun _ => .finish

/-! ### Leaving -/

theorem lasts_returnStatement (is : x.token = .returnKeyword) (room : x.Roomy text budget m) :
    Lasts n c x d.returnStatement := by
  refine .pos (.take is rfl fun y word => ?_)
  refine .asking Frugal.mayEndStatement.lasts .mayEndStatement fun _ _ => ?_
  refine .ite (fun _ => (Frugal.bind .endStatement fun _ => .finish).lasts) fun _ => ?_
  exact (lasts_expression serves (room.taken word).less).map.before fun _ =>
    .bind .endStatement fun _ => .finish

theorem lasts_throwStatement (is : x.token = .throwKeyword) (room : x.Roomy text budget m) :
    Lasts n c x d.throwStatement := by
  refine .pos (.take is rfl fun y word => ?_)
  exact (lasts_expression serves (room.taken word).less).before fun _ =>
    .bind .endStatement fun _ => .finish

/-! ### Faults, switches and labels -/

theorem lasts_catchClause (room : x.Roomy text budget m) : Lasts n c x d.catchClause := by
  refine .ifToken (fun is => .pos (.take is rfl fun y word => ?_)) fun _ => Frugal.pure.lasts
  have room := room.taken word
  have body {y : Place} (room : y.Roomy text budget 5) {f : Tree → Parser (Option Tree)}
      (hf : ∀ b, Frugal (f b)) : Lasts n c y (d.block >>= f) := (lasts_block serves room).before hf
  refine .ifAccept rfl (fun z opened => .named fun u named => .expect rfl fun v closed => ?_) ?_
  · exact body (((room.taken opened).taken named).taken closed) fun _ => .map .finish
  · exact body room fun _ => .map .finish

theorem lasts_tryStatement (room : x.Roomy text budget m) : Lasts n c x d.tryStatement := by
  refine .pos (.expect rfl fun y word => ?_)
  have room := room.taken word
  refine (lasts_block serves room).bind (derives_block serves.faithful) fun b z body => ?_
  have room := body.more room
  refine (lasts_catchClause serves room).bind (derives_catchClause serves.faithful) ?_
  intro h u onFault
  have ends {f : Option Tree} : Frugal (if (h.isNone && f.isNone) = true then do
      Parser.unexpected "catch or finally"
      Parser.finish .tryStatement x.pos (.attempt b h f)
    else Parser.finish .tryStatement x.pos (.attempt b h f)) :=
    .ite (.bind .unexpected fun _ => .finish) .finish
  refine .ifAccept rfl (fun v word => ?_) ends.lasts
  exact (lasts_block serves ((onFault.roomy room).taken word)).map.before fun _ => ends

omit serves in
theorem frugal_clauseGoesOn : Frugal clauseGoesOn := by
  refine .bind .token fun k => ?_
  split
  · exact .pure
  · exact .pure
  · exact .pure
  · exact .unexpected
  · exact .pure

theorem lasts_caseClause (room : x.Roomy text budget 5) : Lasts n c x d.caseClause := by
  have inside {x : Place} (room : x.Roomy text budget 5) :
      Lasts n c x (allowIn (repeatWhile d.turns clauseGoesOn d.statement)) :=
    .allowIn (lasts_statements serves room frugal_clauseGoesOn fun _ =>
      leads_clauseGoesOn.mono fun _ _ => And.left)
  refine .pos (.token ?_)
  dsimp only
  split
  · refine .take ‹_› rfl fun y word => ?_
    have room := room.taken word
    refine (Lasts.allowIn (lasts_expression serves room.less)).bind
      (.allowIn (derives_expression serves.faithful)) fun e z test => ?_
    refine .expect rfl fun u colon => ?_
    exact (inside ((test.roomy room).taken colon)).before fun _ => .finish
  · refine .take ‹_› rfl fun y word => .expect rfl fun z colon => ?_
    exact (inside ((room.taken word).taken colon)).before fun _ => .finish
  · exact .unreached

theorem lasts_caseClauses {turns : Nat} {seenDefault : Bool} (enough : x.left < turns)
    (room : x.Roomy text budget 5) : Lasts n c x (d.caseClauses seenDefault turns) := by
  induction turns generalizing seenDefault x with
  | zero => exact absurd enough (Nat.not_lt_zero _)
  | succ turns ih =>
    refine .ifToken (fun _ => Frugal.pure.lasts) fun _ => .isToken fun isDefault is => ?_
    refine .ite (fun _ => .unreached) fun _ => ?_
    refine (lasts_caseClause serves room).bind (derives_caseClause serves.faithful is) ?_
    intro t y first
    have shorter := (first.further room.sound).shorter
    exact (ih (by omega) (first.more room)).before fun _ => .pure

theorem lasts_switchStatement (room : x.Roomy text budget m) : Lasts n c x d.switchStatement := by
  refine .pos (.expect rfl fun y word => ?_)
  have room := room.taken word
  refine (lasts_condition serves room).bind (derives_condition serves.faithful) ?_
  refine fun e z subject => .expect rfl fun u opened => ?_
  have room := (subject.roomy room).taken opened
  exact (lasts_caseClauses serves (serves.enough room) room).before fun _ =>
    .bind .expect fun _ => .finish

theorem lasts_labeledStatement (room : x.Roomy text budget m) :
    Lasts n c x d.labeledStatement := by
  refine .pos (.named fun y label => .expect rfl fun z colon => ?_)
  exact (serves.lasts .statement ((room.taken label).taken colon)).before fun _ => .finish

theorem lasts_statementBody (room : x.Roomy text budget 4) : Lasts n c x d.statementBody := by
  refine .token ?_
  split
  · exact lasts_block serves room
  · exact Frugal.emptyStatement.lasts
  · rename_i is
    exact lasts_variableStatement serves (by rw [is]; rfl) room
  · rename_i is
    exact lasts_variableStatement serves (by rw [is]; rfl) room
  · rename_i is
    exact lasts_variableStatement serves (by rw [is]; rfl) room
  · exact lasts_functionDeclaration serves room
  · refine .asking Frugal.startsAsyncFunction.lasts .startsAsyncFunction fun _ _ => ?_
    refine .ite (fun _ => lasts_functionDeclaration serves room) fun _ => ?_
    refine .asking Frugal.startsLabel.lasts .startsLabel fun _ _ => .ite (fun _ => ?_) fun _ => ?_
    · exact lasts_labeledStatement serves room
    · exact lasts_expressionStatement serves room
  · exact lasts_ifStatement serves room
  · exact lasts_doStatement serves room
  · exact lasts_whileStatement serves room
  · exact lasts_forStatement serves room
  · exact lasts_returnStatement serves ‹_› room
  · exact lasts_throwStatement serves ‹_› room
  · exact lasts_tryStatement serves room
  · exact Frugal.jumpStatement.lasts
  · exact Frugal.jumpStatement.lasts
  · exact lasts_switchStatement serves room
  · exact Frugal.unexpected.lasts
  · exact Frugal.unexpected.lasts
  · exact Frugal.unexpected.lasts
  · exact lasts_expressionStatement serves room

end productions

end Descent

end Shapewire
