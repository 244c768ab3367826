/-
Statements are derived, given that the parts they reach through their descent are.
-/
import Shapewire.Proofs.Grammar.Soundness.Expression

namespace Shapewire

open Shapewire.Parser

namespace Descent

section productions

variable {d : Descent} (faithful : d.Faithful) {n : Nat} {c : Context} {x : Place}

include faithful

/-! ### Simple statements -/

theorem derives_expressionStatement :
    Leads n c x d.expressionStatement fun t y => Derives n c .statementBody x [t] y := by
  refine .pos ((derives_expression faithful).bind fun e y inside => ?_)
  exact .endStatement fun _ z ended => .finish (.expressionStatement inside ended)

omit faithful in
theorem derives_emptyStatement (is : x.token = .semicolon) :
    Leads n c x emptyStatement fun t y => Derives n c .statementBody x [t] y :=
  .pos (.take is rfl fun _ mark => .finishLeaf (.emptyStatement mark))

theorem derives_declaration :
    Leads n c x d.declaration fun t y => Derives n c .declaration x [t] y := by
  refine .pos (.named fun y named => .ifAccept rfl (fun z sign => ?_) fun _ => ?_)
  · refine .present (faithful .assignment) fun e u value => ?_
    exact .finish (.initialized named sign value)
  · exact .finish (.declaration named)

theorem derives_declarations (turns : Nat) : Leads n c x (commaSequence turns d.declaration)
    fun ts y => Derives n c .declarations x ts y := by
  induction turns generalizing x with
  | zero => exact .throw
  | succ turns ih =>
    refine (derives_declaration faithful).bind fun t y item => ?_
    refine .ifAccept rfl (fun z comma => ?_) fun _ => .pure (.lastDeclaration item)
    exact ih.bind fun ts u rest => .pure (.moreDeclarations item comma rest)

omit faithful in
theorem isProper_of_introduces {k : TokenKind} (introduces : introducesVariables k = true) :
    k.isProper = true := by revert introduces; cases k <;> decide

theorem derives_variableList (introduces : introducesVariables x.token = true) :
    Leads n c x d.variableList fun t y => Derives n c .variableList x [t] y := by
  refine .pos (.token (.advance (isProper_of_introduces introduces) fun y word => ?_))
  refine (derives_declarations faithful _).bind fun ts z inside => ?_
  exact .flagged (.variableList word introduces inside)

theorem derives_variableStatement (introduces : introducesVariables x.token = true) :
    Leads n c x d.variableStatement fun t y => Derives n c .statementBody x [t] y := by
  refine .pos ((derives_variableList faithful introduces).bind fun t y inside => ?_)
  exact .endStatement fun _ z ended => .finish (.variableStatement inside ended)

/-! ### Branches and loops -/

theorem derives_ifStatement :
    Leads n c x d.ifStatement fun t y => Derives n c .statementBody x [t] y := by
  refine .pos (.expect rfl fun y word => (derives_condition faithful).bind fun e z condition => ?_)
  refine (faithful .statement).bind fun t u whenTrue => ?_
  refine .ifAccept rfl (fun v other => ?_) fun last => ?_
  · refine .present (faithful .statement) fun f w whenFalse => ?_
    exact .finish (.ifElse word condition whenTrue other whenFalse)
  · exact .finish (.ifOnly word condition whenTrue last)

theorem derives_doStatement :
    Leads n c x d.doStatement fun t y => Derives n c .statementBody x [t] y := by
  refine .pos (.expect rfl fun y word => (faithful .statement).bind fun t z body => ?_)
  refine .expect rfl fun u while_ => (derives_condition faithful).bind fun e v condition => ?_
  exact .accept rfl fun _ w ended => .finish (.doStatement word body while_ condition ended)

theorem derives_whileStatement :
    Leads n c x d.whileStatement fun t y => Derives n c .statementBody x [t] y := by
  refine .pos (.expect rfl fun y word => (derives_condition faithful).bind fun e z condition => ?_)
  exact (faithful .statement).bind fun t u body => .finish (.whileStatement word condition body)

theorem derives_forInitializer :
    Leads n c x d.forInitializer fun i y => Derives n c .forInitializer x i.toList y := by
  refine .ifToken (fun _ => .pure .noInitializer) fun _ => .map (.withContext (.token ?_))
  refine .ite (fun introduces => ?_) fun _ => ?_
  · exact (derives_variableList faithful introduces).mono fun t y inside => .listInitializer inside
  · exact (derives_expression faithful).mono fun e y inside => .plainInitializer inside

/-- The head of a loop over what `subject` reads ends behind it, and the body follows. -/
theorem leads_iterationRest {kind : NodeKind} {start : Place} {initializer : Option Tree}
    {subject : Parser Tree} {part : Part} {Q : Tree → Place → Prop}
    (proper : x.token.isProper = true)
    (read : ∀ {x}, Leads n c.withIn x subject fun e y => Derives n c.withIn part x [e] y)
    (h : ∀ i y e z u t v, initializer = some i → x.Takes x.token y →
      Derives n c.withIn part y [e] z → z.Takes .closeParen u → Derives n c .statement u [t] v →
      Q (start.finish v kind (.iteration i e t)) v) :
    Leads n c x (d.iterationRest kind start.pos initializer subject) Q := by
  unfold iterationRest
  cases initializer with
  | none => exact .unexpected
  | some i =>
    refine .advance proper fun y mark => (Leads.allowIn read).bind fun e z inside => ?_
    refine .expect rfl fun u closed => (faithful .statement).bind fun t v body => ?_
    exact .finish (h i y e z u t v rfl mark inside closed body)

/-- An expression that is missing where the mark `k` follows, and what comes behind it. -/
theorem leads_optionalExpression {k : TokenKind} {f : Option Tree → Parser Tree}
    {Q : Tree → Place → Prop} (hf : ∀ e y, Derives n c.withIn .optionalExpression x e.toList y →
      Leads n c y (f e) Q) : Leads n c x (Parser.isToken k >>= fun b =>
        if b = true then pure none >>= f else some <$> allowIn d.expression >>= f) Q := by
  refine .ifToken (fun _ => hf none x .noExpression) fun _ => ?_
  refine .present (.allowIn (derives_expression faithful)) fun e y inside => ?_
  exact hf (some e) y (.someExpression inside)

theorem derives_forStatement :
    Leads n c x d.forStatement fun t y => Derives n c .statementBody x [t] y := by
  refine .pos (.expect rfl fun x₁ word => .expect rfl fun x₂ opened => ?_)
  refine (derives_forInitializer faithful).bind fun i x₃ initializer => ?_
  refine .ifToken (fun is => ?_) fun _ => .isWord fun isOf is => .ite (fun yes => ?_) fun _ => ?_
  · refine leads_iterationRest faithful (by rw [is]; rfl) (derives_expression faithful) ?_
    rintro i x₄ e x₅ x₆ t y rfl mark subject closed body
    exact .forIn word opened initializer (is ▸ mark) subject closed body
  · obtain ⟨identifier, spelled⟩ := is.mp yes
    refine leads_iterationRest faithful (by rw [identifier]; rfl) (faithful .assignment) ?_
    rintro i x₄ e x₅ x₆ t y rfl mark subject closed body
    exact .forOf word opened initializer (identifier ▸ mark) spelled subject closed body
  · refine .expect rfl fun x₄ mark => leads_optionalExpression faithful fun e x₅ condition => ?_
    refine .expect rfl fun x₆ mark' => leads_optionalExpression faithful fun s x₇ incrementor => ?_
    refine .expect rfl fun x₈ closed => (faithful .statement).bind fun t y body => ?_
    exact .finish
      (.forStatement word opened initializer mark condition mark' incrementor closed body)

/-! ### Leaving -/

theorem derives_returnStatement (is : x.token = .returnKeyword) :
    Leads n c x d.returnStatement fun t y => Derives n c .statementBody x [t] y := by
  refine .pos (.take is rfl fun y word => .asking .mayEndStatement fun _ _ => ?_)
  have ends {e : Option Tree} {z : Place} (value : Derives n c .optionalExpression y e.toList z) :
      Leads n c z (endStatement >>= fun _ =>
        Parser.finish .returnStatement x.pos (.wrapped e))
          fun t y => Derives n c .statementBody x [t] y :=
    .endStatement fun _ u ended => .finish (.returnStatement word value ended)
  refine .ite (fun _ => ends .noExpression) fun _ => ?_
  exact .present (derives_expression faithful) fun e z inside => ends (.someExpression inside)

theorem derives_throwStatement (is : x.token = .throwKeyword) :
    Leads n c x d.throwStatement fun t y => Derives n c .statementBody x [t] y := by
  refine .pos (.take is rfl fun y word => (derives_expression faithful).bind fun e z value => ?_)
  exact .endStatement fun _ u ended => .finish (.throwStatement word value ended)

omit faithful in
/-- A jump is its word, and a label that may be missing. -/
theorem leads_jumpStatement {kind : NodeKind} {k : TokenKind} {Q : Tree → Place → Prop}
    (is : x.token = k) (proper : k.isProper = true)
    (h : ∀ y l z b u, x.Takes k y → y.MayName l z → z.Accepts .semicolon b u →
      Q (x.finish u kind (.jump l)) u) : Leads n c x (jumpStatement kind) Q := by
  refine .pos (.take is proper fun y word => ?_)
  have ends {l : Option Tree} {z : Place} (label : y.MayName l z) : Leads n c z
      (endStatement >>= fun _ => Parser.finish kind x.pos (.jump l)) Q :=
    .endStatement fun b u ended => .finish (h y l z b u word label ended)
  refine .isToken fun _ _ => .lineBreak fun _ => .ite (fun _ => ?_) fun _ => ends .unnamed
  refine .present (P := fun t z => y.MayName (some t) z) (.identifier fun z => .named) ?_
  exact fun l z label => ends label

/-! ### Faults, switches and labels -/

theorem derives_catchClause :
    Leads n c x d.catchClause fun h y => Derives n c .catchClause x h.toList y := by
  refine .ifToken (fun is => .pos (.take is rfl fun y word => ?_)) fun _ => .pure .noCatch
  refine .ifAccept rfl (fun z opened => .named fun u named => ?_) fun _ => ?_
  · refine .expect rfl fun v closed => ?_
    refine (derives_block faithful).bind fun b w body => .map (.finish ?_)
    exact Derives.catchNamed word opened named closed body
  · exact (derives_block faithful).bind fun b z body => .map (.finish (Derives.catchAll word body))

theorem derives_tryStatement :
    Leads n c x d.tryStatement fun t y => Derives n c .statementBody x [t] y := by
  refine .pos (.expect rfl fun y word => (derives_block faithful).bind fun b z body => ?_)
  refine (derives_catchClause faithful).bind fun h u onFault => ?_
  have ends {f : Option Tree} {v : Place} (finally_ : Derives n c .finalizer u f.toList v) :
      Leads n c v (if (h.isNone && f.isNone) = true then do
          Parser.unexpected "catch or finally"
          Parser.finish .tryStatement x.pos (.attempt b h f)
        else Parser.finish .tryStatement x.pos (.attempt b h f))
          fun t y => Derives n c .statementBody x [t] y := by
    refine .ite (fun _ => .unreached) fun some => .finish ?_
    refine .tryStatement word body onFault finally_ ?_
    cases h <;> cases f <;> simp_all
  refine .ifAccept rfl (fun v word => ?_) fun _ => ends .noFinalizer
  exact .present (derives_block faithful) fun f w body => ends (.finalizer word body)

omit faithful in
theorem leads_clauseGoesOn :
    Leads n c x clauseGoesOn fun goesOn y => y = x ∧ (goesOn = false → True) := by
  refine .token ?_
  split
  · exact .pure ⟨rfl, fun _ => trivial⟩
  · exact .pure ⟨rfl, fun _ => trivial⟩
  · exact .pure ⟨rfl, fun _ => trivial⟩
  · exact .unexpected
  · exact .pure ⟨rfl, nofun⟩

/-- A clause is a default if it starts with the word. -/
theorem derives_caseClause {isDefault : Bool} (is : isDefault = true ↔ x.token = .defaultKeyword) :
    Leads n c x d.caseClause fun t y => Derives n c (.clause isDefault) x [t] y := by
  have inside {x : Place} : Leads n c x (allowIn (repeatWhile d.turns clauseGoesOn d.statement))
      fun ts y => Derives n c.withIn .statements x ts y :=
    .allowIn <|
      (derives_statements faithful (fun _ => leads_clauseGoesOn) _).mono fun _ _ => And.left
  refine .pos (.token ?_)
  dsimp only
  split
  · rename_i word
    obtain rfl : isDefault = false := by simpa [word] using is
    refine .take word rfl fun y word => (Leads.allowIn (derives_expression faithful)).bind ?_
    intro e z test
    refine .expect rfl fun u colon => inside.bind fun ts v read => ?_
    exact .finish (.caseClause word test colon read)
  · rename_i word
    obtain rfl := is.mpr word
    refine .take word rfl fun y word => .expect rfl fun z colon => inside.bind fun ts u read => ?_
    exact .finish (.defaultClause word colon read)
  · exact .unreached

theorem derives_caseClauses (turns : Nat) (seenDefault : Bool) :
    Leads n c x (d.caseClauses seenDefault turns)
      fun ts y => Derives n c (.clauses seenDefault) x ts y := by
  induction turns generalizing seenDefault x with
  | zero => exact .throw
  | succ turns ih =>
    refine .ifToken (fun _ => .pure .noClause) fun _ => .isToken fun isDefault is => ?_
    refine .ite (fun _ => .unreached) fun once => (derives_caseClause faithful is).bind ?_
    intro t y first
    refine (ih _).bind fun ts z rest => .pure (.moreClauses first ?_ rest)
    simpa using once

theorem derives_switchStatement :
    Leads n c x d.switchStatement fun t y => Derives n c .statementBody x [t] y := by
  refine .pos (.expect rfl fun y word => (derives_condition faithful).bind fun e z subject => ?_)
  refine .expect rfl fun u opened => (derives_caseClauses faithful _ _).bind fun ts v inside => ?_
  exact .expect rfl fun w closed => .finish (.switchStatement word subject opened inside closed)

theorem derives_labeledStatement :
    Leads n c x d.labeledStatement fun t y => Derives n c .statementBody x [t] y := by
  refine .pos (.named fun y label => .expect rfl fun z colon => ?_)
  exact (faithful .statement).bind fun t u body => .finish (.labeledStatement label colon body)

theorem derives_statementBody :
    Leads n c x d.statementBody fun t y => Derives n c .statementBody x [t] y := by
  refine .token ?_
  split
  · exact (derives_block faithful).mono fun t y only => .blockStatement only
  · exact derives_emptyStatement ‹_›
  · rename_i is
    exact derives_variableStatement faithful (by rw [is]; rfl)
  · rename_i is
    exact derives_variableStatement faithful (by rw [is]; rfl)
  · rename_i is
    exact derives_variableStatement faithful (by rw [is]; rfl)
  · exact derives_functionDeclaration faithful
  · refine .asking .startsAsyncFunction fun _ _ => .ite (fun _ => ?_) fun _ => ?_
    · exact derives_functionDeclaration faithful
    refine .asking .startsLabel fun _ _ => .ite (fun _ => ?_) fun _ => ?_
    · exact derives_labeledStatement faithful
    · exact derives_expressionStatement faithful
  · exact derives_ifStatement faithful
  · exact derives_doStatement faithful
  · exact derives_whileStatement faithful
  · exact derives_forStatement faithful
  · exact derives_returnStatement faithful ‹_›
  · exact derives_throwStatement faithful ‹_›
  · exact derives_tryStatement faithful
  · exact leads_jumpStatement ‹_› rfl fun _ _ _ _ _ => .breakStatement
  · exact leads_jumpStatement ‹_› rfl fun _ _ _ _ _ => .continueStatement
  · exact derives_switchStatement faithful
  · exact .unexpected
  · exact .unexpected
  · exact .unexpected
  · exact derives_expressionStatement faithful

end productions

end Descent

end Shapewire
