/-
The trees that the grammar builds are well formed.

Each production is shown to build formed trees if the parts it reaches through its descent do.
A production settles the kind of its node and the form of its record together, so all there is to
check is that the one asks for the other and that whatever fills the slots came from a production
itself.  Only a literal takes its kind from the token it reads: `literal` is sound where that
token is one.

`formed_parseAt` ties the knot by induction on the budget, and `formed_parse` is what the rest of
the development builds on.
-/
import Shapewire.Grammar.Descent
import Shapewire.Proofs.Grammar.Gives
import Shapewire.Proofs.Tree.Layout

namespace Shapewire

/-- A record for a kind that is not that of a loop that tests last. -/
theorem Record.Fits.of_pool {ρ β ν : Type} {kind : NodeKind} {r : Record ρ (Option β) ν}
    (form : kind.pool? = some r.pool) (last : kind ≠ .doStatement) : r.Fits kind :=
  ⟨form, fun _ _ _ _ is _ => absurd is last⟩

namespace Tree

variable {kind : NodeKind} {flags : NodeFlags} {span : Span}

theorem formed_node {r : Record Tree (Option Tree) String} (fits : r.Fits kind)
    (slots : ∀ c ∈ r.slots (fun c => [c]) Option.toList, c.Formed) :
    (node kind flags span (some r)).Formed := by
  refine .intro ⟨fits.pool, fun r' found => ?_⟩ fun c child => ?_
  · cases found
    exact fits
  · exact slots c ((fits.slots_perm_children _ _ rfl).mem_iff.mpr child)

theorem formed_leaf (form : kind.pool? = none) : (node kind flags span none).Formed :=
  .intro ⟨form, by simp [record?]⟩ (by simp [children, record?])

end Tree

namespace Parser

open Shapewire.Tree

/-! ### Nodes, names and literals -/

theorem Gives.flagged {kind : NodeKind} {flags : NodeFlags} {start : Nat}
    {r : Record Tree (Option Tree) String} (fits : r.Fits kind)
    (slots : ∀ c ∈ r.slots (fun c => [c]) Option.toList, c.Formed) :
    Gives (Parser.flagged kind flags start r) Formed :=
  after fun _ => pure (formed_node fits slots)

theorem Gives.finish {kind : NodeKind} {start : Nat} {r : Record Tree (Option Tree) String}
    (fits : r.Fits kind) (slots : ∀ c ∈ r.slots (fun c => [c]) Option.toList, c.Formed) :
    Gives (Parser.finish kind start r) Formed :=
  flagged fits slots

theorem Gives.finishLeaf {kind : NodeKind} {start : Nat} (form : kind.pool? = none) :
    Gives (Parser.finishLeaf kind start) Formed :=
  after fun _ => pure (formed_leaf form)

theorem formed_nameFromToken : Gives nameFromToken Formed := by
  refine .after fun start => .after fun name => .after fun _ => ?_
  exact .finish (.of_pool rfl (by decide)) (by simp [Record.slots])

theorem formed_identifier : Gives identifier Formed :=
  .after fun _ => .ite formed_nameFromToken .unexpected

theorem formed_memberName : Gives memberName Formed :=
  .after fun _ => .ite formed_nameFromToken .unexpected

/-- A literal is read where the token is of a kind that has a literal's record. -/
theorem formed_literal {k : TokenKind} (form : (NodeKind.token k).pool? = some .literals) :
    GivesAt k literal Formed := by
  refine .pos fun start => .token (.of_gives ?_)
  refine .after fun text => .after fun _ => ?_
  exact .finish (.of_pool form (by simp)) (by simp [Record.slots])

/-- A slash that can be read again starts a regular expression. -/
theorem token_rescanSlash {s : Scanner} (slash : s.atSlash) :
    s.rescanSlash.token = .regexLiteral ∨
      s.rescanSlash.token = .unknown ∧ s.rescanSlash.error?.isSome := by
  rcases read : Token.regexBody s.start.next.offset false s.start.next.rest with ⟨_ | _, stop⟩
  · exact .inr (by simp [Scanner.rescanSlash, slash, read])
  · exact .inl (by simp [Scanner.rescanSlash, slash, read])

theorem formed_regex {k : TokenKind} (slash : k = .slash ∨ k = .slashAssign) :
    GivesAt k (reread Scanner.rescanSlash >>= fun _ => literal) Formed := by
  intro s t s' token run
  obtain ⟨_, s₁, again, run⟩ := bind_eq_ok.mp run
  obtain ⟨_, s₂, modified, checked⟩ := bind_eq_ok.mp again
  cases modified
  obtain ⟨_, s₃, state, checked⟩ := bind_eq_ok.mp checked
  cases state
  have atSlash : s.scanner.atSlash := by
    rcases slash with rfl | rfl <;> simp [Scanner.atSlash, token]
  rcases token_rescanSlash atSlash with regex | ⟨unknown, error⟩
  · simp only [regex] at checked
    cases checked
    exact formed_literal rfl _ _ _ regex run
  · -- The fault of a regular expression that is not closed stops the parser.
    obtain ⟨e, error⟩ := Option.isSome_iff_exists.mp error
    simp only [unknown, error] at checked
    cases checked

end Parser

/-- The parts of the grammar that a production reaches build formed trees. -/
def Descent.Sound (d : Descent) : Prop := ∀ part, Parser.Gives (d.parse part) Tree.Formed

namespace Descent

open Shapewire.Parser Shapewire.Tree

section productions

variable {d : Descent} (sound : d.Sound)

include sound

/-! ### Expressions -/

theorem formed_expression : Gives d.expression Formed := by
  refine .after fun start => (sound _).bind ?_
  intro first formed
  refine .loop formed fun left formed => ?_
  refine .after fun _ => .ite ((sound _).bind fun right formed' => ?_) (.pure formed)
  refine .bind (.finish (.of_pool rfl (by decide)) ?_) fun t built => .pure built
  simp [Record.slots, formed, formed']

theorem formed_condition : Gives d.condition Formed :=
  .after fun _ => .followed (.allowIn (formed_expression sound))

theorem formed_spreadOrAssignment (kind : NodeKind) (form : kind.pool? = some .wrappeds)
    (last : kind ≠ .doStatement) : Gives (d.spreadOrAssignment kind) Formed := by
  refine .after fun _ => .ite (.after fun start => .after fun _ => ?_) (sound _)
  exact (sound _).bind fun e formed => .finish (.of_pool form last) (by simp [Record.slots, formed])

theorem formed_arguments : Gives d.arguments (fun args => ∀ a ∈ args, a.Formed) :=
  have argument : Gives (d.spreadOrAssignment .spread) Formed :=
    formed_spreadOrAssignment sound .spread rfl (by decide)
  .after fun _ => .followed (.allowIn (.commaList argument))

theorem formed_elementKey : Gives d.elementKey Formed :=
  .after fun _ => .followed (.allowIn (formed_expression sound))

theorem formed_arrayElements (turns : Nat) :
    Gives (d.arrayElements turns) (fun es => ∀ e ∈ es, e.Formed) := by
  induction turns with
  | zero => exact .throw
  | succ turns ih =>
    refine .after fun k => ?_
    split
    · exact .pure (by simp)
    · refine .after fun at_ => .after fun _ => ih.bind ?_
      intro es formed
      exact .pure (List.forall_mem_cons.mpr ⟨formed_leaf rfl, formed⟩)
    · refine (formed_spreadOrAssignment sound .spread rfl (by decide)).bind ?_
      intro e first
      refine .after fun _ => ?_
      refine .ite (ih.bind fun es formed => .pure ?_) (.pure (by simpa using first))
      exact List.forall_mem_cons.mpr ⟨first, formed⟩

theorem formed_arrayLiteral : Gives d.arrayLiteral Formed := by
  refine .after fun start => .after fun _ => ?_
  refine (Gives.allowIn (formed_arrayElements sound _)).bind ?_
  intro es formed
  refine .after fun _ => ?_
  exact .finish (.of_pool rfl (by decide)) (by simpa [Record.slots] using formed)

theorem formed_propertyName : Gives d.propertyName Formed := by
  refine .token fun k => ?_
  split
  · exact formed_literal rfl
  · exact formed_literal rfl
  · refine .of_gives (.after fun start => .after fun _ => ?_)
    refine (Gives.allowIn (sound _)).bind ?_
    intro key formed
    refine .after fun _ => ?_
    exact .finish (.of_pool rfl (by decide)) (by simp [Record.slots, formed])
  · exact .of_gives formed_memberName

/-! ### Functions -/

theorem formed_block : Gives d.block Formed := by
  refine .after fun start => .after fun _ => ?_
  refine (Gives.allowIn (.repeatWhile (sound _))).bind ?_
  intro statements formed
  refine .after fun _ => ?_
  exact .finish (.of_pool rfl (by decide)) (by simpa [Record.slots] using formed)

theorem formed_parameter : Gives d.parameter Formed := by
  refine .after fun start => .after fun rest => formed_identifier.bind ?_
  intro name formed
  refine .join .anything .anything fun hasDefault _ => ?_
  refine .optional (Gives.allowIn (sound _)) fun initializer formed' => ?_
  exact .finish (.of_pool rfl (by decide)) (by simpa [Record.slots, formed] using formed')

theorem formed_parameterList : Gives d.parameterList (fun ps => ∀ p ∈ ps, p.Formed) :=
  .after fun _ => .followed (.commaList (formed_parameter sound))

theorem formed_functionRest (kind : NodeKind) {start : Nat} {name : Option Tree}
    {flags : NodeFlags} (form : kind.pool? = some .functions) (last : kind ≠ .doStatement)
    (named : ∀ t ∈ name, t.Formed) : Gives (d.functionRest kind start name flags) Formed := by
  have inner : Gives (do
      let parameters ← d.parameterList
      let body ← d.block
      return (parameters, body)) (fun r => (∀ p ∈ r.1, p.Formed) ∧ r.2.Formed) :=
    (formed_parameterList sound).bind fun _ formed => (formed_block sound).bind fun _ formed' =>
      .pure ⟨formed, formed'⟩
  refine (Gives.withContext inner).bind ?_
  rintro ⟨parameters, body⟩ ⟨formed, formed'⟩
  refine .flagged (.of_pool form last) ?_
  simp only [Record.slots, List.mem_append, List.flatMap_singleton', List.mem_singleton,
    Option.mem_toList]
  rintro c ((h | h) | rfl)
  · exact named c h
  · exact formed c h
  · exact formed'

theorem formed_functionDeclaration : Gives d.functionDeclaration Formed :=
  .after fun _ => .after fun _ => formed_identifier.bind fun _ formed =>
    formed_functionRest sound .functionDeclaration rfl (by decide) (by simpa using formed)

theorem formed_functionExpression : Gives d.functionExpression Formed :=
  .after fun _ => .after fun _ => .after fun _ => .optional formed_identifier
    fun _ formed => formed_functionRest sound .functionExpression rfl (by decide) formed

theorem formed_arrowParameters : Gives d.arrowParameters (fun ps => ∀ p ∈ ps, p.Formed) := by
  refine .after fun _ => .ite (.after fun start => ?_) (formed_parameterList sound)
  refine formed_identifier.bind ?_
  intro name formed
  refine .bind (P := Formed) ?_ fun p h => .pure ?_
  · exact .finish (.of_pool rfl (by decide)) (by simp [Record.slots, formed])
  · simpa using h

theorem formed_arrowFunction : Gives d.arrowFunction Formed := by
  refine .after fun start => .after fun isAsync => ?_
  have rest : Gives (do
      let parameters ← d.arrowParameters
      expect .arrow
      let body ← withContext (arrowContext (NodeFlags.async.onlyIf isAsync)) do
        if ← isToken .openBrace then d.block else d.assignment
      flagged .arrowFunction (NodeFlags.async.onlyIf isAsync) start
        (.function none parameters body true)) Formed := by
    refine (formed_arrowParameters sound).bind ?_
    intro parameters formed
    refine .after fun _ => ?_
    refine (Gives.withContext (.after fun _ => .ite (formed_block sound) (sound _))).bind ?_
    intro body formed'
    refine .flagged (.of_pool rfl (by decide)) ?_
    simp only [Record.slots, List.mem_append, List.flatMap_singleton', List.mem_singleton,
      Option.mem_toList]
    rintro c ((h | h) | rfl)
    · cases h
    · exact formed c h
    · exact formed'
  exact .ite (.after fun _ => rest) rest

/-! ### Objects and templates -/

theorem formed_objectMember : Gives d.objectMember Formed := by
  refine .after fun _ => .ite (formed_spreadOrAssignment sound .spreadProperty rfl (by decide)) ?_
  refine .after fun start => .after ?_
  rintro ⟨flags, isAccessor⟩
  refine .after fun isName => ?_
  refine (formed_propertyName sound).bind ?_
  intro name formed
  refine .after fun _ => ?_
  have property (value : Tree) (formed' : value.Formed) :
      Gives (finish .propertyAssignment start (.property name value)) Formed :=
    .finish (.of_pool rfl (by decide)) (by simp [Record.slots, formed, formed'])
  refine .ite (.after fun _ => ?_) (.after fun _ => .ite ((sound _).bind property) ?_)
  · exact (formed_functionRest sound .functionExpression rfl (by decide) (by simp)).bind property
  · refine .after fun _ => .after fun _ => .ite ?_ .unexpected
    exact .finish (.of_pool rfl (by decide)) (by simp [Record.slots, formed])

theorem formed_objectLiteral : Gives d.objectLiteral Formed := by
  refine .after fun start => .after fun _ => ?_
  refine (Gives.allowIn (.commaList (formed_objectMember sound))).bind ?_
  intro members formed
  exact .after fun _ => .finish (.of_pool rfl (by decide)) (by simpa [Record.slots] using formed)

theorem formed_substitutions (turns : Nat) :
    Gives (d.substitutions turns) (fun pieces => ∀ piece ∈ pieces, piece.1.Formed) := by
  induction turns with
  | zero => exact .throw
  | succ turns ih =>
    refine (Gives.allowIn (formed_expression sound)).bind ?_
    intro e formed
    refine .after fun _ => ?_
    refine .check (.after fun _ => .after fun quasi => .after fun isLast => .after fun _ => ?_)
    refine .ite (.pure (by simpa using formed)) (ih.bind fun pieces formed' => .pure ?_)
    exact List.forall_mem_cons.mpr ⟨formed, formed'⟩

theorem formed_template : Gives d.template Formed := by
  refine .after fun start => .after fun head => .after fun _ => ?_
  refine (formed_substitutions sound _).bind ?_
  intro pieces formed
  refine .finish (.of_pool rfl (by decide)) ?_
  simpa [Record.slots] using fun c quasi mem => formed (c, quasi) mem

/-! ### Operands -/

theorem formed_primary : Gives d.primary Formed := by
  refine .after fun start => .token fun k => ?_
  split
  · exact .of_gives (.after fun _ => .ite (formed_functionExpression sound) formed_identifier)
  · exact .of_gives (.after fun _ => .finishLeaf rfl)
  · exact .of_gives (.after fun _ => .finishLeaf rfl)
  · exact .of_gives (.after fun _ => .finishLeaf rfl)
  · exact .of_gives (.after fun _ => .finishLeaf rfl)
  · exact formed_literal rfl
  · exact formed_literal rfl
  · exact formed_literal rfl
  · exact formed_regex (.inl rfl)
  · exact formed_regex (.inr rfl)
  · exact .of_gives (formed_template sound)
  · refine .of_gives (.after fun _ => (Gives.allowIn (formed_expression sound)).bind ?_)
    refine fun e formed => .after fun _ => .finish (.of_pool rfl (by decide)) ?_
    simp [Record.slots, formed]
  · exact .of_gives (formed_arrayLiteral sound)
  · exact .of_gives (formed_objectLiteral sound)
  · exact .of_gives (formed_functionExpression sound)
  · exact .of_gives .unexpected

section suffixes

variable {start : Nat} {e : Tree} (formed : e.Formed) (optional : Bool)

include formed

theorem formed_callOf : Gives (d.callOf start e optional) Formed :=
  (formed_arguments sound).bind fun args formed' =>
    .flagged (.of_pool rfl (by decide)) (by simpa [Record.slots, formed] using formed')

omit sound in
theorem formed_memberOf : Gives (memberOf start e optional) Formed :=
  formed_memberName.bind fun name formed' =>
    .finish (.of_pool rfl (by decide)) (by simp [Record.slots, formed, formed'])

theorem formed_elementOf : Gives (d.elementOf start e optional) Formed :=
  (formed_elementKey sound).bind fun key formed' =>
    .finish (.of_pool rfl (by decide)) (by simp [Record.slots, formed, formed'])

theorem formed_suffixTurn (calls : Bool) :
    Gives (d.suffixTurn start calls e) (Sum.elim Formed Formed) := by
  have member (optional : Bool) :
      Gives (Sum.inl <$> memberOf start e optional) (Sum.elim Formed Formed) :=
    .map (formed_memberOf formed optional)
  have element (optional : Bool) :
      Gives (Sum.inl <$> d.elementOf start e optional) (Sum.elim Formed Formed) :=
    .map (formed_elementOf sound formed optional)
  have call (optional : Bool) :
      Gives (Sum.inl <$> d.callOf start e optional) (Sum.elim Formed Formed) :=
    .map (formed_callOf sound formed optional)
  have tagged (quoted : Tree) (formed' : quoted.Formed) :
      Gives (Sum.inl <$> finish .taggedTemplate start (.taggedTemplate e quoted))
        (Sum.elim Formed Formed) :=
    .map (.finish (.of_pool rfl (by decide)) (by simp [Record.slots, formed, formed']))
  refine .token fun k => ?_
  split
  · exact .of_gives (.after fun _ => member false)
  · refine .of_gives (.after fun _ => .after fun _ => .ite (element true) ?_)
    exact .after fun _ => .ite (call true) (member true)
  · exact .of_gives (element false)
  · exact .of_gives (.ite (call false) (.pure formed))
  · exact (formed_literal rfl).bind tagged
  · exact .of_gives ((formed_template sound).bind tagged)
  · exact .of_gives (.pure formed)

theorem formed_suffixes (calls : Bool) : Gives (d.suffixes start calls e) Formed :=
  .loop formed fun _ formed => formed_suffixTurn sound formed calls

end suffixes

theorem formed_construction : Gives d.construction Formed := by
  refine .after fun start => .after fun _ => .after fun calleeStart => ?_
  refine .bind (Gives.nested (.after fun _ => .ite (sound _) (formed_primary sound))) ?_
  refine fun head formed => (formed_suffixes sound formed false).bind ?_
  intro callee formed
  refine .after fun _ => .optional (formed_arguments sound) fun args formed' => ?_
  refine .finish (.of_pool rfl (by decide)) ?_
  cases args with
  | none => simpa [Record.slots] using formed
  | some args => simpa [Record.slots, formed] using formed' args rfl

theorem formed_leftHandSide : Gives d.leftHandSide Formed := by
  refine .after fun start => .after fun _ => ?_
  exact .join (sound _) (formed_primary sound) fun e formed => formed_suffixes sound formed true

/-! ### Operators -/

theorem formed_unary : Gives d.unary Formed := by
  have operand : Gives (nested (d.parse .unary)) Formed := .nested (sound _)
  refine .after fun start => .after fun k => .after fun _ => .after fun _ => .ite ?_ (.ite ?_ ?_)
  · refine .after fun _ => operand.bind ?_
    intro e formed
    exact .finish (.of_pool rfl (by decide)) (by simp [Record.slots, formed])
  · refine .after fun _ => operand.bind ?_
    intro e formed
    exact .finish (.of_pool rfl (by decide)) (by simp [Record.slots, formed])
  · refine (formed_leftHandSide sound).bind ?_
    intro e formed
    refine .after fun k => .after fun _ => ?_
    refine .ite (.after fun _ => ?_) (.pure formed)
    exact .finish (.of_pool rfl (by decide)) (by simp [Record.slots, formed])

theorem formed_operand (min : Nat) : Gives (d.operand min) Formed := by
  refine .after fun start => (sound _).bind ?_
  intro first formed
  refine .loop formed fun left formed => ?_
  refine .after fun operator => .after fun _ => .ite (.pure formed) (.after fun _ => ?_)
  refine (sound _).bind ?_
  intro right formed'
  refine .bind (.finish (.of_pool rfl (by decide)) ?_) ?_
  · simp [Record.slots, formed, formed']
  · exact fun t built => .pure built

theorem formed_conditional : Gives d.conditional Formed := by
  refine .after fun start => (sound _).bind ?_
  intro condition formed
  refine .after fun _ => ?_
  refine .ite ((Gives.allowIn (sound _)).bind fun whenTrue formed' => ?_) (.pure formed)
  refine .after fun _ => (sound _).bind ?_
  intro whenFalse formed''
  exact .finish (.of_pool rfl (by decide)) (by simp [Record.slots, formed, formed', formed''])

/-! ### Assignments -/

theorem formed_yielding : Gives d.yielding Formed := by
  have alone (start : Nat) : Gives (finish .yielding start (.wrapped none)) Formed :=
    .finish (.of_pool rfl (by decide)) (by simp [Record.slots])
  refine .after fun start => .after fun _ => .after fun _ => .ite (alone start) ?_
  refine .after fun _ => .ite ((sound _).bind fun e formed => ?_) ?_
  · exact .flagged (.of_pool rfl (by decide)) (by simp [Record.slots, formed])
  · refine .after fun _ => .ite (alone start) ((sound _).bind fun e formed => ?_)
    exact .finish (.of_pool rfl (by decide)) (by simp [Record.slots, formed])

theorem formed_assignmentBody : Gives d.assignmentBody Formed := by
  refine .after fun _ => .after fun _ => .ite (formed_yielding sound) ?_
  refine .after fun _ => .ite (formed_arrowFunction sound) (.after fun start => ?_)
  refine (formed_conditional sound).bind ?_
  intro left formed
  refine .after fun operator => ?_
  refine .ite (.after fun _ => (sound _).bind fun right formed' => ?_) (.pure formed)
  exact .finish (.of_pool rfl (by decide)) (by simp [Record.slots, formed, formed'])

/-! ### Statements -/

theorem formed_expressionStatement : Gives d.expressionStatement Formed := by
  refine .after fun start => (formed_expression sound).bind ?_
  intro e formed
  refine .after fun _ => ?_
  exact .finish (.of_pool rfl (by decide)) (by simp [Record.slots, formed])

theorem formed_declaration : Gives d.declaration Formed := by
  refine .after fun start => formed_identifier.bind ?_
  intro name formed
  refine .after fun _ => ?_
  refine .optional (sound _) fun initializer formed' => ?_
  exact .finish (.of_pool rfl (by decide)) (by simpa [Record.slots, formed] using formed')

theorem formed_variableList : Gives d.variableList Formed := by
  refine .after fun start => .after fun word => .after fun _ => ?_
  refine (Gives.commaSequence (formed_declaration sound)).bind ?_
  intro declarations formed
  exact .flagged (.of_pool rfl (by decide)) (by simpa [Record.slots] using formed)

theorem formed_variableStatement : Gives d.variableStatement Formed := by
  refine .after fun start => (formed_variableList sound).bind ?_
  intro list formed
  refine .after fun _ => ?_
  exact .finish (.of_pool rfl (by decide)) (by simp [Record.slots, formed])

theorem formed_ifStatement : Gives d.ifStatement Formed := by
  refine .after fun start => .after fun _ => (formed_condition sound).bind ?_
  intro condition formed
  refine (sound _).bind ?_
  intro whenTrue formed'
  refine .after fun _ => ?_
  refine .optional (sound _) fun whenFalse formed'' => ?_
  exact .finish (.of_pool rfl (by decide)) (by simpa [Record.slots, formed, formed'] using formed'')

theorem formed_doStatement : Gives d.doStatement Formed := by
  refine .after fun start => .after fun _ => (sound _).bind ?_
  intro body formed
  refine .after fun _ => ?_
  refine (formed_condition sound).bind ?_
  intro condition formed'
  refine .after fun _ => ?_
  refine .finish ⟨rfl, fun _ _ _ _ _ is => ?_⟩ (by simp [Record.slots, formed, formed'])
  cases is
  exact ⟨rfl, rfl⟩

theorem formed_whileStatement : Gives d.whileStatement Formed := by
  refine .after fun start => .after fun _ => (formed_condition sound).bind ?_
  intro condition formed
  refine (sound _).bind ?_
  intro body formed'
  exact .finish (.of_pool rfl (by decide)) (by simp [Record.slots, formed, formed'])

theorem formed_forInitializer : Gives d.forInitializer (fun i => ∀ t ∈ i, t.Formed) := by
  refine .after fun _ => .ite (.pure (by simp)) (.present ?_)
  exact .withContext (.after fun _ => .ite (formed_variableList sound) (formed_expression sound))

section forStatement

variable {start : Nat} {initializer : Option Tree} (formed : ∀ t ∈ initializer, t.Formed)

include formed

theorem formed_iterationRest (kind : NodeKind) (form : kind.pool? = some .iterations)
    (last : kind ≠ .doStatement) {subject : Parser Tree} (read : Gives subject Formed) :
    Gives (d.iterationRest kind start initializer subject) Formed := by
  unfold iterationRest
  cases initializer with
  | none => exact .unexpected
  | some binding =>
    refine .after fun _ => (Gives.allowIn read).bind ?_
    intro subject formed'
    refine .after fun _ => ?_
    refine (sound _).bind ?_
    intro body formed''
    refine .finish (.of_pool form last) ?_
    simp [Record.slots, formed binding rfl, formed', formed'']

theorem formed_forRest : Gives (d.forRest start initializer) Formed := by
  refine .after fun _ => .after fun _ => ?_
  refine .optional' (Gives.allowIn (formed_expression sound)) fun condition tested => ?_
  refine .after fun _ => .after fun _ => ?_
  refine .optional' (Gives.allowIn (formed_expression sound)) fun incrementor stepped => ?_
  refine .after fun _ => (sound _).bind ?_
  intro body repeated
  refine .finish (.of_pool rfl (by decide)) ?_
  simp only [Record.slots, List.mem_append, Option.mem_toList, List.mem_singleton]
  rintro c (((h | h) | h) | rfl)
  · exact formed c h
  · exact tested c h
  · exact stepped c h
  · exact repeated

end forStatement

theorem formed_forStatement : Gives d.forStatement Formed := by
  refine .after fun start => .after fun _ => .after fun _ => ?_
  refine (formed_forInitializer sound).bind ?_
  intro initializer formed
  refine .after fun _ => ?_
  refine .ite ?_ (.after fun _ => .ite ?_ (formed_forRest sound formed))
  · exact formed_iterationRest sound formed .forInStatement rfl (by decide)
      (formed_expression sound)
  · exact formed_iterationRest sound formed .forOfStatement rfl (by decide) (sound _)

theorem formed_returnStatement : Gives d.returnStatement Formed := by
  refine .after fun start => .after fun _ => .after fun _ => ?_
  refine .optional' (formed_expression sound) fun e formed => .after fun _ => ?_
  exact .finish (.of_pool rfl (by decide)) (by simpa [Record.slots] using formed)

theorem formed_throwStatement : Gives d.throwStatement Formed := by
  refine .after fun start => .after fun _ => (formed_expression sound).bind ?_
  intro e formed
  exact .after fun _ => .finish (.of_pool rfl (by decide)) (by simp [Record.slots, formed])

omit sound in
theorem formed_jumpStatement (kind : NodeKind) (form : kind.pool? = some .jumps)
    (last : kind ≠ .doStatement) : Gives (jumpStatement kind) Formed := by
  refine .after fun start => .after fun _ => .after fun _ => .after fun _ => ?_
  refine .optional formed_identifier fun label formed => .after fun _ => ?_
  exact .finish (.of_pool form last) (by simpa [Record.slots] using formed)

theorem formed_catchClause : Gives d.catchClause (fun c => ∀ t ∈ c, t.Formed) := by
  refine .after fun _ => .ite ?_ (.pure (by simp))
  refine .after fun start => .after fun _ => .after fun _ => ?_
  have rest (name : Option Tree) (formed : ∀ t ∈ name, t.Formed) : Gives (do
      let body ← d.block
      some <$> finish .catchClause start (.handler name body)) (fun c => ∀ t ∈ c, t.Formed) := by
    refine (formed_block sound).bind ?_
    intro body formed'
    refine .present (.finish (.of_pool rfl (by decide)) ?_)
    simp only [Record.slots, List.mem_append, Option.mem_toList, List.mem_singleton]
    rintro c (h | rfl)
    · exact formed c h
    · exact formed'
  refine .ite (formed_identifier.bind fun name formed => .after fun _ => ?_) (rest none (by simp))
  exact rest (some name) (by simpa using formed)

theorem formed_tryStatement : Gives d.tryStatement Formed := by
  refine .after fun start => .after fun _ => (formed_block sound).bind ?_
  intro body formed
  refine (formed_catchClause sound).bind ?_
  intro onFault formed'
  refine .after fun _ => ?_
  refine .optional (formed_block sound) fun finalizer formed'' => .check ?_
  refine .finish (.of_pool rfl (by decide)) ?_
  simp only [Record.slots, List.mem_append, Option.mem_toList, List.mem_singleton]
  rintro c ((rfl | h) | h)
  · exact formed
  · exact formed' c h
  · exact formed'' c h

theorem formed_caseClause : Gives d.caseClause Formed := by
  refine .after fun start => .after fun k => ?_
  have rest (kind : NodeKind) (form : kind.pool? = some .clauses) (last : kind ≠ .doStatement)
      (test : Option Tree) (formed : ∀ t ∈ test, t.Formed) : Gives (do
        expect .colon
        let statements ← allowIn (repeatWhile d.turns clauseGoesOn d.statement)
        finish kind start (.clause test statements)) Formed := by
    refine .after fun _ => (Gives.allowIn (.repeatWhile (sound _))).bind ?_
    intro statements formed'
    refine .finish (.of_pool form last) ?_
    simp only [Record.slots, List.mem_append, Option.mem_toList, List.flatMap_singleton']
    rintro c (h | h)
    · exact formed c h
    · exact formed' c h
  dsimp only
  split
  · refine .after fun _ => (Gives.allowIn (formed_expression sound)).bind ?_
    intro test formed
    exact rest .caseClause rfl (by decide) (some test) (by simpa using formed)
  · exact .after fun _ => rest .defaultClause rfl (by decide) none (by simp)
  · exact .bind (P := fun _ => False) .unexpected fun _ none => none.elim

theorem formed_caseClauses (turns : Nat) (seenDefault : Bool) :
    Gives (d.caseClauses seenDefault turns) (fun cs => ∀ c ∈ cs, c.Formed) := by
  induction turns generalizing seenDefault with
  | zero => exact .throw
  | succ turns ih =>
    refine .after fun _ => .ite (.pure (by simp)) (.after fun isDefault => .check ?_)
    refine (formed_caseClause sound).bind fun clause formed => (ih _).bind ?_
    intro clauses formed'
    exact .pure (List.forall_mem_cons.mpr ⟨formed, formed'⟩)

theorem formed_switchStatement : Gives d.switchStatement Formed := by
  refine .after fun start => .after fun _ => (formed_condition sound).bind ?_
  intro subject formed
  refine .after fun _ => (formed_caseClauses sound _ _).bind ?_
  intro clauses formed'
  refine .after fun _ => ?_
  exact .finish (.of_pool rfl (by decide)) (by simpa [Record.slots, formed] using formed')

theorem formed_labeledStatement : Gives d.labeledStatement Formed := by
  refine .after fun start => formed_identifier.bind ?_
  intro label formed
  refine .after fun _ => ?_
  refine (sound _).bind ?_
  intro body formed'
  exact .finish (.of_pool rfl (by decide)) (by simp [Record.slots, formed, formed'])

theorem formed_statementBody : Gives d.statementBody Formed := by
  refine .after fun k => ?_
  split
  · exact formed_block sound
  · exact .after fun start => .after fun _ => .finishLeaf rfl
  · exact formed_variableStatement sound
  · exact formed_variableStatement sound
  · exact formed_variableStatement sound
  · exact formed_functionDeclaration sound
  · refine .after fun _ => .ite (formed_functionDeclaration sound) (.after fun _ => ?_)
    exact .ite (formed_labeledStatement sound) (formed_expressionStatement sound)
  · exact formed_ifStatement sound
  · exact formed_doStatement sound
  · exact formed_whileStatement sound
  · exact formed_forStatement sound
  · exact formed_returnStatement sound
  · exact formed_throwStatement sound
  · exact formed_tryStatement sound
  · exact formed_jumpStatement .breakStatement rfl (by decide)
  · exact formed_jumpStatement .continueStatement rfl (by decide)
  · exact formed_switchStatement sound
  · exact .unexpected
  · exact .unexpected
  · exact .unexpected
  · exact formed_expressionStatement sound

end productions

end Descent

/-! ### The whole grammar -/

namespace Parser

theorem formed_production {d : Descent} (sound : d.Sound) (part : Nonterminal) :
    Gives (production d part) Tree.Formed := by
  cases part with
  | statement => exact .nested (d.formed_statementBody sound)
  | assignment => exact .nested (d.formed_assignmentBody sound)
  | operand min => exact d.formed_operand sound min
  | unary => exact d.formed_unary sound
  | construction => exact d.formed_construction sound

/-- Whatever the budget, the grammar builds formed trees. -/
theorem formed_parseAt (n : Nat) (part : Nonterminal) : Gives (parseAt n part) Tree.Formed := by
  induction n generalizing part with
  | zero => exact .throw
  | succ n ih =>
    have sound : (Descent.mk (n + 1) (parseAt n)).Sound := ih
    exact formed_production sound part

theorem formed_source (file : String) (text : List Char) :
    Gives (source file text) Tree.Formed := by
  refine .after fun _ => (Gives.repeatWhile (formed_parseAt _ _)).bind ?_
  intro statements formed
  exact .pure (Tree.formed_node (.of_pool rfl (by decide)) (by simpa [Record.slots] using formed))

end Parser

/-- **A source that parses has a formed tree.** -/
theorem Tree.formed_parse {file : String} {text : List Char} {t : Tree}
    (parsed : Tree.parse file text = .ok t) : t.Formed := by
  unfold Tree.parse at parsed
  split at parsed
  · rename_i built
    cases parsed
    exact Parser.formed_source _ _ _ _ _ built
  · cases parsed

end Shapewire
