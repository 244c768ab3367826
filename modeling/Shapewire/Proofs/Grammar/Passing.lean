/-
Every construct passes a token.

A parser that reads a piece of syntax and succeeds has consumed at least one token on the way
(`Place.Passes`), so the end of the last consumed token has moved on.  For each construct this is
read off what it derives: a part of the grammar that has a tree takes a token, and the few
productions that begin with a mark take that.  Constructs that do not look at their first token are
followed from the places at which they are called (`Construct.StartsAt`).
-/
import Shapewire.Proofs.Grammar.Lasting.Rules
import Shapewire.Proofs.Grammar.Routine

namespace Shapewire

open Shapewire.Parser

namespace Place

variable {text : List Char} {x y z : Place} {k : TokenKind} {ts : List Terminal}

/-- On the way from one place to the other at least one token is consumed. -/
def Passes (x y : Place) : Prop := ∃ t ts, x.Consumes (t :: ts) y

theorem Takes.passes (mark : x.Takes k y) : x.Passes y := ⟨_, _, .token mark .none⟩

theorem Accepts.exists_consumes {b : Bool} (mark : x.Accepts k b y) : ∃ ts, x.Consumes ts y := by
  cases mark with
  | taken mark => exact ⟨_, .token mark .none⟩
  | absent => exact ⟨_, .none⟩

theorem MayName.exists_consumes {name? : Option Tree} (named : x.MayName name? y) :
    ∃ ts, x.Consumes ts y := by
  cases named with
  | named mark => exact ⟨_, .token mark .none⟩
  | unnamed => exact ⟨_, .none⟩

/-- Whatever follows a token, the token has been passed. -/
theorem Passes.consumes (h : x.Passes y) (rest : y.Consumes ts z) : x.Passes z := by
  obtain ⟨t, before, consumes⟩ := h
  exact ⟨t, before ++ ts, consumes.append rest⟩

theorem Passes.trans (h : x.Passes y) (h' : y.Passes z) : x.Passes z := by
  obtain ⟨_, _, rest⟩ := h'
  exact h.consumes rest

/-- What precedes a token does not keep it from being passed. -/
theorem Consumes.passes (before : x.Consumes ts y) (h : y.Passes z) : x.Passes z := by
  obtain ⟨t, after, consumes⟩ := h
  cases ts with
  | nil => exact ⟨t, after, before.append consumes⟩
  | cons t' ts => exact ⟨t', ts ++ t :: after, before.append consumes⟩

theorem Passes.further (h : x.Passes y) (sound : x.Sound text) : x.Further text y := by
  obtain ⟨t, ts, consumes⟩ := h
  have shorter := consumes.left_add_length_le sound
  rw [List.length_cons] at shorter
  exact ⟨consumes.sound sound, by omega⟩

/-- A token that is passed ends behind everything that was consumed before it. -/
theorem Passes.prevEnd_lt (h : x.Passes y) (sound : x.Sound text) : x.prevEnd < y.prevEnd := by
  obtain ⟨t, ts, consumes⟩ := h
  obtain ⟨spread, behind⟩ := consumes.spread sound
  have some := List.cons_ne_nil t ts
  have mem := List.getLast_mem some
  have ends : y.prevEnd = ((t :: ts).getLast some).span.stop := by
    rw [consumes.prevEnd_eq, List.getLast?_eq_some_getLast some]
    rfl
  have before := sound.before
  have starts := behind _ mem
  have forward := spread.forward _ mem
  omega

end Place

namespace Derives

variable {n : Nat} {c : Context} {p : Part} {x y : Place} {t : Tree} {ts : List Tree}

/-- A part of the grammar that has a tree passes a token. -/
theorem passes (h : Derives n c p x (t :: ts) y) : x.Passes y := by
  obtain ⟨us, consumes, some⟩ := h.exists_consumes
  obtain ⟨u, us, rfl⟩ := List.exists_cons_of_ne_nil (some (List.cons_ne_nil t ts))
  exact ⟨u, us, consumes⟩

/-- Arguments pass their parentheses even if there are none. -/
theorem passes_arguments (h : Derives n c .arguments x ts y) : x.Passes y := by
  cases h with
  | arguments opened inside closed =>
    obtain ⟨_, consumes, -⟩ := inside.exists_consumes
    exact opened.passes.trans (consumes.passes closed.passes)

/-- So do parameters. -/
theorem passes_parameterList (h : Derives n c .parameterList x ts y) : x.Passes y := by
  cases h with
  | parameterList opened inside closed =>
    obtain ⟨_, consumes, -⟩ := inside.exists_consumes
    exact opened.passes.trans (consumes.passes closed.passes)

end Derives

/-- The places at which a construct is called that takes its first token for granted. -/
def Construct.StartsAt (s : ParserState) : Construct → Prop
  | .nameFromToken | .literal | .jumpStatement _ | .forInRest .. | .forOfRest .. =>
    s.scanner.token.isProper = true
  | .template => s.scanner.token = .templateHead
  | .yielding =>
    s.context.yieldIsOperator = true ∧ s.scanner.token = .identifier ∧ s.scanner.value = "yield"
  | .emptyStatement => s.scanner.token = .semicolon
  | .variableList | .variableStatement => Descent.introducesVariables s.scanner.token = true
  | .returnStatement => s.scanner.token = .returnKeyword
  | .throwStatement => s.scanner.token = .throwKeyword
  | _ => True

namespace Descent

variable {d : Descent} (faithful : d.Faithful) {n : Nat} {c : Context} {x : Place}

include faithful

theorem passes_functionRest {kind : NodeKind} {start : Place} {name : Option Tree}
    {flags : NodeFlags} :
    Leads n c x (d.functionRest kind start.pos name flags) fun _ y => x.Passes y :=
  leads_functionRest faithful fun _ _ _ _ parameters body =>
    (parameters.passes_parameterList).trans body.passes

theorem passes_callOf {start : Place} {callee : Tree} {optional : Bool} :
    Leads n c x (d.callOf start.pos callee optional) fun _ y => x.Passes y :=
  leads_callOf faithful fun _ _ args => args.passes_arguments

omit faithful in
theorem passes_memberOf {start : Place} {object : Tree} {optional : Bool} :
    Leads n c x (memberOf start.pos object optional) fun _ y => x.Passes y :=
  leads_memberOf fun _ _ mark _ => mark.passes

theorem passes_elementOf {start : Place} {object : Tree} {optional : Bool} :
    Leads n c x (d.elementOf start.pos object optional) fun _ y => x.Passes y :=
  leads_elementOf faithful fun _ _ key => key.passes

theorem passes_iterationRest {kind : NodeKind} {start : Place} {initializer : Option Tree}
    {subject : Parser Tree} {part : Part} (proper : x.token.isProper = true)
    (read : ∀ {x}, Leads n c.withIn x subject fun e y => Derives n c.withIn part x [e] y) :
    Leads n c x (d.iterationRest kind start.pos initializer subject) fun _ y => x.Passes y :=
  leads_iterationRest faithful proper read fun _ _ _ _ _ _ _ _ mark inside closed body =>
    ((mark.passes.trans inside.passes).trans closed.passes).trans body.passes

theorem passes_forRest {start : Place} {initializer : Option Tree} :
    Leads n c x (d.forRest start.pos initializer) fun _ y => x.Passes y := by
  refine .expect rfl fun x₁ mark => leads_optionalExpression faithful fun _ x₂ condition => ?_
  obtain ⟨_, condition, -⟩ := condition.exists_consumes
  refine .expect rfl fun x₃ mark' => leads_optionalExpression faithful fun _ x₄ incrementor => ?_
  obtain ⟨_, incrementor, -⟩ := incrementor.exists_consumes
  refine .expect rfl fun x₅ closed => (faithful .statement).bind fun t y body => .finish ?_
  have head := (mark.passes.consumes condition).trans (mark'.passes.consumes incrementor)
  exact (head.trans closed.passes).trans body.passes

theorem passes_spreadOrAssignment {spreadKind : NodeKind} :
    Leads n c x (d.spreadOrAssignment spreadKind) fun _ y => x.Passes y := by
  refine .ifToken (fun is => .pos (.take is rfl fun y dots => ?_)) fun _ => ?_
  · exact (faithful .assignment).bind fun _ _ operand => .finish (dots.passes.trans operand.passes)
  · exact (faithful .assignment).mono fun _ _ only => only.passes

/-- A clause of a switch passes its word, whichever it is. -/
theorem passes_caseClause : Leads n c x d.caseClause fun _ y => x.Passes y := by
  have is : decide (x.token = .defaultKeyword) = true ↔ x.token = .defaultKeyword :=
    decide_eq_true_iff
  exact (derives_caseClause faithful is).mono fun _ _ clause => clause.passes

omit faithful in
/-- Behind a token a node is finished and the loop goes on. -/
theorem passes_finish {β : Type} {kind : NodeKind} {start : Nat}
    {record : Record Tree (Option Tree) String} {y : Place} (passes : x.Passes y) :
    Leads n c y (Parser.finish kind start record >>= fun t => pure (.inl t))
      fun (next : Tree ⊕ β) z => next.isLeft = true → x.Passes z :=
  Leads.bind (P := fun _ z => z = y) (.prevEnd (.pure rfl)) fun _ _ same =>
    .pure fun _ => same ▸ passes

theorem passes_commaTurn (start : Nat) (left : Tree) :
    Leads n c x (d.commaTurn start left) fun next y => next.isLeft = true → x.Passes y := by
  refine .ifAccept rfl (fun y comma => ?_) fun _ => .pure nofun
  exact (faithful .assignment).bind fun _ _ right => passes_finish (comma.passes.trans right.passes)

theorem passes_operandTurn (start min : Nat) (left : Tree) :
    Leads n c x (d.operandTurn start min left) fun next y => next.isLeft = true → x.Passes y := by
  refine .token (.state (.ite (fun _ => .pure nofun) fun more => ?_))
  refine .advance (isProper_of_precedence (Nat.lt_of_not_le more)) fun y operator => ?_
  refine (faithful (.operand _)).bind fun _ _ right => ?_
  exact passes_finish (operator.passes.trans right.passes)

/-- What stands behind an operand passes a token, if anything does. -/
theorem passes_suffixTurn {start : Place} {calls : Bool} {e : Tree} :
    Leads n c x (d.suffixTurn start.pos calls e)
      fun next y => next.isLeft = true → x.Passes y := by
  have goesOn {p : Parser Tree} {y : Place} (built : Leads n c y p fun _ z => x.Passes z) :
      Leads n c y (p >>= fun t => pure (.inl t))
        fun (next : Tree ⊕ Tree) z => next.isLeft = true → x.Passes z :=
    built.bind fun _ _ passes => .pure fun _ => passes
  have behind {p : Parser Tree} {y : Place} (mark : x.Passes y)
      (built : Leads n c y p fun _ z => y.Passes z) : Leads n c y p fun _ z => x.Passes z :=
    built.mono fun _ _ passes => mark.trans passes
  refine .token ?_
  split
  · exact .take ‹_› rfl fun y mark => goesOn (behind mark.passes passes_memberOf)
  · refine .take ‹_› rfl fun y mark => .ifToken (fun _ => ?_) fun _ => ?_
    · exact goesOn (behind mark.passes (passes_elementOf faithful))
    · refine .isToken fun _ _ => .ite (fun _ => ?_) fun _ => ?_
      · exact goesOn (behind mark.passes (passes_callOf faithful))
      · exact goesOn (behind mark.passes passes_memberOf)
  · exact goesOn (passes_elementOf faithful)
  · exact .ite (fun _ => goesOn (passes_callOf faithful)) fun _ => .pure nofun
  · rename_i is
    refine Leads.bind (P := fun _ y => x.Passes y) (.literal (by rw [is]; rfl) ?_) ?_
    · exact fun _ mark => mark.passes
    · exact fun _ _ passes => passes_finish passes
  · exact (derives_template faithful ‹_›).bind fun _ _ body => passes_finish body.passes
  · exact .pure nofun

end Descent

/-- A place that starts anywhere. -/
theorem Place.exists_pos (i : Nat) : ∃ x : Place, x.pos = i :=
  ⟨⟨{ (default : Scanner) with start := ⟨i, []⟩ }, 0⟩, rfl⟩

open Descent in
/-- Every construct passes a token. -/
theorem Construct.passes_parser {d : Descent} (faithful : d.Faithful) {n : Nat} {c : Context}
    {x : Place} (construct : Construct) (starts : construct.StartsAt (x.state n c)) :
    Leads n c x (construct.parser d) fun _ y => x.Passes y := by
  have derived {p : Parser Tree} {part : Part}
      (read : Leads n c x p fun t y => Derives n c part x [t] y) :
      Leads n c x p fun _ y => x.Passes y := read.mono fun _ _ h => h.passes
  cases construct with
  | part part => exact derived (faithful part)
  | nameFromToken => exact .nameFromToken starts fun _ mark => mark.passes
  | identifier => exact .identifier fun _ mark => mark.passes
  | memberName => exact .memberName fun _ _ mark _ => mark.passes
  | literal => exact .literal starts fun _ mark => mark.passes
  | block => exact derived (derives_block faithful)
  | parameter => exact derived (derives_parameter faithful)
  | functionDeclaration => exact derived (derives_functionDeclaration faithful)
  | functionExpression => exact derived (derives_functionExpression faithful)
  | arrowFunction => exact derived (derives_arrowFunction faithful)
  | functionRest kind start =>
    obtain ⟨start, rfl⟩ := Place.exists_pos start
    exact passes_functionRest faithful
  | expression => exact derived (derives_expression faithful)
  | condition => exact derived (derives_condition faithful)
  | elementKey => exact derived (derives_elementKey faithful)
  | arrayLiteral => exact derived (derives_arrayLiteral faithful)
  | propertyName => exact derived (derives_propertyName faithful)
  | objectMember => exact derived (derives_objectMember faithful)
  | objectLiteral => exact derived (derives_objectLiteral faithful)
  | template => exact derived (derives_template faithful starts)
  | primary => exact derived (derives_primary faithful)
  | construction => exact derived (derives_construction faithful)
  | leftHandSide => exact derived (derives_leftHandSide faithful)
  | unary => exact derived (derives_unary faithful)
  | conditional => exact derived (derives_conditional faithful)
  | yielding => exact derived (derives_yielding faithful starts.1 starts.2.1 starts.2.2)
  | assignmentBody => exact derived (derives_assignmentBody faithful)
  | spreadOrAssignment => exact passes_spreadOrAssignment faithful
  | callOf start =>
    obtain ⟨start, rfl⟩ := Place.exists_pos start
    exact passes_callOf faithful
  | memberOf start =>
    obtain ⟨start, rfl⟩ := Place.exists_pos start
    exact passes_memberOf
  | elementOf start =>
    obtain ⟨start, rfl⟩ := Place.exists_pos start
    exact passes_elementOf faithful
  | operand min => exact derived (derives_operand faithful min)
  | expressionStatement => exact derived (derives_expressionStatement faithful)
  | emptyStatement => exact derived (derives_emptyStatement starts)
  | declaration => exact derived (derives_declaration faithful)
  | variableList => exact derived (derives_variableList faithful starts)
  | variableStatement => exact derived (derives_variableStatement faithful starts)
  | ifStatement => exact derived (derives_ifStatement faithful)
  | doStatement => exact derived (derives_doStatement faithful)
  | whileStatement => exact derived (derives_whileStatement faithful)
  | forStatement => exact derived (derives_forStatement faithful)
  | returnStatement => exact derived (derives_returnStatement faithful starts)
  | throwStatement => exact derived (derives_throwStatement faithful starts)
  | caseClause => exact passes_caseClause faithful
  | tryStatement => exact derived (derives_tryStatement faithful)
  | switchStatement => exact derived (derives_switchStatement faithful)
  | labeledStatement => exact derived (derives_labeledStatement faithful)
  | statementBody => exact derived (derives_statementBody faithful)
  | forInRest start =>
    obtain ⟨start, rfl⟩ := Place.exists_pos start
    exact passes_iterationRest faithful starts (derives_expression faithful)
  | forOfRest start =>
    obtain ⟨start, rfl⟩ := Place.exists_pos start
    exact passes_iterationRest faithful starts (faithful .assignment)
  | forRest start =>
    obtain ⟨start, rfl⟩ := Place.exists_pos start
    exact passes_forRest faithful
  | jumpStatement kind =>
    refine leads_jumpStatement rfl starts fun y l z b u mark label ended => ?_
    obtain ⟨_, label⟩ := label.exists_consumes
    obtain ⟨_, ended⟩ := ended.exists_consumes
    exact (mark.passes.consumes label).consumes ended

end Shapewire
