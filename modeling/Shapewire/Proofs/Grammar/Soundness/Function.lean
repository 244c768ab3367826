/-
Lists and functions are derived.

Each production is followed from place to place, and what it consumes, reads and builds on the
way is one rule of `Derives`.  The parts it reaches through its descent are taken to be derived
already (`Descent.Faithful`); that they are is shown once all productions have been followed.
-/
import Shapewire.Proofs.Grammar.Derivation

namespace Shapewire

open Shapewire.Parser

namespace Parser.Leads

variable {n : Nat} {c : Context} {x y : Place} {Q : Tree → Place → Prop} {kind : NodeKind}
  {record : Record Tree (Option Tree) String}

/-! ### Nodes, names and literals -/

theorem flagged {flags : NodeFlags} (h : Q (x.flagged y kind flags record) y) :
    Leads n c y (Parser.flagged kind flags x.pos record) Q := prevEnd (pure h)

theorem finish (h : Q (x.finish y kind record) y) :
    Leads n c y (Parser.finish kind x.pos record) Q := flagged h

theorem finishLeaf (h : Q (x.leaf y kind) y) : Leads n c y (Parser.finishLeaf kind x.pos) Q :=
  prevEnd (pure h)

theorem nameFromToken (proper : x.token.isProper = true)
    (h : ∀ y, x.Takes x.token y → Q (x.name y) y) : Leads n c x Parser.nameFromToken Q :=
  pos (value (advance proper fun y taken => finish (h y taken)))

theorem identifier (h : ∀ y, x.Takes .identifier y → Q (x.name y) y) :
    Leads n c x Parser.identifier Q := by
  refine ifToken (fun is => ?_) fun _ => unexpected
  exact nameFromToken (by rw [is]; rfl) fun y taken => h y (is ▸ taken)

/-- A name and what follows it. -/
theorem named {β : Type} {f : Tree → Parser β} {Q : β → Place → Prop}
    (hf : ∀ y, x.Takes .identifier y → Leads n c y (f (x.name y)) Q) :
    Leads n c x (Parser.identifier >>= f) Q := by
  refine bind (P := fun t y => x.Takes .identifier y ∧ t = x.name y) ?_ ?_
  · exact identifier fun y taken => ⟨taken, rfl⟩
  · rintro _ y ⟨taken, rfl⟩
    exact hf y taken

theorem memberName (h : ∀ k y, x.Takes k y → k.isName = true → Q (x.name y) y) :
    Leads n c x Parser.memberName Q := by
  refine token (ite (fun is => ?_) fun _ => unexpected)
  exact nameFromToken (by revert is; cases x.token <;> decide) fun y taken => h _ y taken is

theorem literal (proper : x.token.isProper = true)
    (h : ∀ y, x.Takes x.token y → Q (x.literal y) y) : Leads n c x Parser.literal Q :=
  pos (token (value (advance proper fun y taken => finish (h y taken))))

/-! ### Lists -/

/-- Where each item of a list with commas is derived, so is the list. -/
theorem commaList {part : Part} {close : TokenKind} {item : Parser Tree}
    (each : ∀ x, Leads n c x item fun t y => Derives n c part x [t] y) (turns : Nat) :
    Leads n c x (Parser.commaList turns close item)
      fun ts y => Derives n c (.list part) x ts y := by
  induction turns generalizing x with
  | zero => exact throw
  | succ turns ih =>
    refine ifToken (fun _ => pure .listEnd) fun _ => ?_
    refine (each x).bind fun t y first => ifAccept rfl (fun z comma => ?_) fun _ => ?_
    · exact ih.bind fun ts u rest => pure (.listMore first comma rest)
    · exact pure (.listLast first)

end Parser.Leads

/-- The part of the grammar that a nonterminal stands for. -/
def Nonterminal.part : Nonterminal → Part
  | .statement => .statement
  | .assignment => .assignment
  | .operand min => .operand min
  | .unary => .unary
  | .construction => .construction

/-- The parts that a production reaches through its descent are derived. -/
def Descent.Faithful (d : Descent) : Prop :=
  ∀ (part : Nonterminal) {n : Nat} {c : Context} {x : Place},
    Leads n c x (d.parse part) fun t y => Derives n c part.part x [t] y

namespace Descent

section productions

variable {d : Descent} (faithful : d.Faithful) {n : Nat} {c : Context} {x : Place}

include faithful

/-! ### Functions -/

/-- Statements, as long as a question that changes nothing says that more follow. -/
theorem derives_statements {more : Parser Bool} {R : Place → Prop}
    (question : ∀ x, Leads n c x more fun goesOn y => y = x ∧ (goesOn = false → R x))
    (turns : Nat) : Leads n c x (repeatWhile turns more d.statement)
      fun ts y => Derives n c .statements x ts y ∧ R y := by
  induction turns generalizing x with
  | zero => exact .throw
  | succ turns ih =>
    refine .asking (question x) fun goesOn ends => .ite (fun _ => ?_) fun no => ?_
    · refine (faithful .statement).bind fun t y first => ih.bind fun ts z ⟨rest, ended⟩ => ?_
      exact .pure ⟨.moreStatements first rest, ended⟩
    · exact .pure ⟨.noStatement, ends (Bool.not_eq_true _ ▸ no)⟩

omit faithful in
theorem leads_blockGoesOn :
    Leads n c x blockGoesOn fun goesOn y => y = x ∧ (goesOn = false → x.token = .closeBrace) := by
  refine .token ?_
  split
  · exact .pure ⟨rfl, fun _ => ‹_›⟩
  · exact .unexpected
  · exact .pure ⟨rfl, nofun⟩

theorem derives_block : Leads n c x d.block fun t y => Derives n c .block x [t] y := by
  refine .pos (.expect rfl fun y opened => ?_)
  refine (Leads.allowIn (derives_statements faithful (fun _ => leads_blockGoesOn) _)).bind ?_
  rintro ts z ⟨inside, -⟩
  exact .expect rfl fun u closed => .finish (.block opened inside closed)

theorem derives_parameter : Leads n c x d.parameter fun t y => Derives n c .parameter x [t] y := by
  refine .pos (.accept rfl fun rest y dots => .named fun z named => ?_)
  cases dots with
  | taken dots => exact .finish (.restParameter dots named)
  | absent _ =>
    refine .ifAccept rfl (fun u sign => ?_) fun _ => .finish (.parameter named)
    refine .present (.allowIn (faithful .assignment)) fun e v value => ?_
    exact .finish (.defaultParameter named sign value)

theorem derives_parameterList :
    Leads n c x d.parameterList fun ts y => Derives n c .parameterList x ts y := by
  refine .expect rfl fun y opened => ?_
  refine (Leads.commaList (fun _ => derives_parameter faithful) _).bind fun ts z inside => ?_
  exact .expect rfl fun u closed => .pure (.parameterList opened inside closed)

/-- The rest of a function is its parameters and its body, read as its flags say. -/
theorem leads_functionRest {kind : NodeKind} {start : Place} {name : Option Tree}
    {flags : NodeFlags} {Q : Tree → Place → Prop}
    (h : ∀ ps y b z, Derives n (bodyContext flags c) .parameterList x ps y →
      Derives n (bodyContext flags c) .block y [b] z →
      Q (start.flagged z kind flags (.function name ps b false)) z) :
    Leads n c x (d.functionRest kind start.pos name flags) Q := by
  refine Leads.bind (P := fun rest z => ∃ y,
    Derives n (bodyContext flags c) .parameterList x rest.1 y ∧
      Derives n (bodyContext flags c) .block y [rest.2] z) (.withContext ?_) ?_
  · refine (derives_parameterList faithful).bind fun ps y parameters => ?_
    exact (derives_block faithful).bind fun b z body => .pure ⟨y, parameters, body⟩
  · rintro ⟨ps, b⟩ z ⟨y, parameters, body⟩
    exact .flagged (h ps y b z parameters body)

omit faithful in
theorem leads_functionHead : Leads n c x functionHead fun flags y => x.FunctionHead flags y := by
  refine .isWord fun isAsync is => .acceptWord is.mp fun y async => ?_
  refine .expect rfl fun z word => .accept rfl fun isGenerator u star => ?_
  exact .pure (.intro async word star)

theorem derives_functionDeclaration :
    Leads n c x d.functionDeclaration fun t y => Derives n c .statementBody x [t] y := by
  refine .pos (leads_functionHead.bind fun flags y head => .named fun z named => ?_)
  exact leads_functionRest faithful fun ps u b v parameters body =>
    .functionDeclaration head named parameters body

theorem derives_functionExpression :
    Leads n c x d.functionExpression fun t y => Derives n c .primary x [t] y := by
  refine .pos (leads_functionHead.bind fun flags y head => .ifToken (fun _ => ?_) fun _ => ?_)
  · refine .present (P := fun t z => y.MayName (some t) z) (.identifier fun z => .named) ?_
    intro name z named
    exact leads_functionRest faithful fun ps u b v parameters body =>
      .functionValue head named parameters body
  · exact leads_functionRest faithful fun ps u b v parameters body =>
      .functionValue head .unnamed parameters body

theorem derives_arrowParameters :
    Leads n c x d.arrowParameters fun ts y => Derives n c .arrowParameters x ts y := by
  refine .ifToken (fun _ => .pos (.named fun y named => ?_)) fun _ => ?_
  · exact Leads.bind (.finish (.arrowParameter named)) fun t z alone => .pure alone
  · exact (derives_parameterList faithful).mono fun ts y inside => .arrowParameterList inside

theorem derives_arrowFunction :
    Leads n c x d.arrowFunction fun t y => Derives n c .assignmentBody x [t] y := by
  refine .pos (.asking .startsAsyncArrow fun isAsync is => .acceptWord is fun y async => ?_)
  refine (derives_arrowParameters faithful).bind fun ps z parameters => .expect rfl fun u mark => ?_
  refine (Leads.withContext (P := fun b v => Derives n
    (arrowContext (NodeFlags.async.onlyIf isAsync) c) .arrowBody u [b] v) ?_).bind ?_
  · refine .ifToken (fun _ => ?_) fun _ => ?_
    · exact (derives_block faithful).mono fun b v body => .arrowBlock body
    · exact (faithful .assignment).mono fun b v body => .arrowValue body
  · exact fun b v body => .flagged (.arrow async parameters mark body)

end productions

end Descent

end Shapewire
