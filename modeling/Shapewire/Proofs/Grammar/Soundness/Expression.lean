/-
Expressions are derived, given that the parts they reach through their descent are.
-/
import Shapewire.Proofs.Grammar.Formed
import Shapewire.Proofs.Grammar.Soundness.Function
import Shapewire.Proofs.Token.Lexeme

namespace Shapewire

open Shapewire.Parser

/-! ### Members and pieces -/

namespace Place

/-- A member that is neither an accessor nor has flags has nothing before its name. -/
theorem MemberHead.eq_of_plain {x y : Place} {flags : NodeFlags} {isAccessor : Bool}
    (head : x.MemberHead flags isAccessor y) (plain : ¬(isAccessor || flags != .none) = true) :
    y = x := by
  cases head with
  | accessor word => exact absurd rfl plain
  | plain async star =>
    cases async <;> cases star
    case absent.absent => rfl
    all_goals exact absurd (by decide) plain

end Place

/-- A brace that can be read again starts a piece of a template. -/
theorem Scanner.token_rescanTemplate {s : Scanner}
    (sound : s.rescanTemplate.token = .unknown → s.rescanTemplate.error? = none) :
    s.rescanTemplate.token = .templateTail ∨ s.rescanTemplate.token = .templateMiddle := by
  revert sound
  unfold rescanTemplate accept
  dsimp only
  split
  · rename_i is
    exact fun _ => Token.kind_templateRest is
  · simp

/-- The name of a member that starts with a name is that name. -/
theorem Derives.name_of_identifier {n : Nat} {c : Context} {x y : Place} {k : Tree}
    (h : Derives n c .propertyName x [k] y) (is : x.token = .identifier) :
    x.Takes .identifier y ∧ k = x.name y := by
  cases h with
  | literalName mark isText =>
    obtain rfl := mark.token.symm.trans is
    exact absurd isText (by decide)
  | computedName opened => cases opened.token.symm.trans is
  | plainName named =>
    obtain rfl := named.token.symm.trans is
    exact ⟨named, rfl⟩

namespace Descent

section productions

variable {d : Descent} (faithful : d.Faithful) {n : Nat} {c : Context} {x : Place}

include faithful

/-! ### Commas and lists in brackets -/

theorem derives_expression :
    Leads n c x d.expression fun t y => Derives n c .expression x [t] y := by
  refine .pos ((faithful .assignment).bind fun e y first => ?_)
  refine .loop (I := fun e y => Derives n c .expression x [e] y) (.oneExpression first) ?_
  intro l y left
  refine .ifAccept rfl (fun z mark => ?_) fun _ => .pure left
  refine (faithful .assignment).bind fun r u right => ?_
  exact Leads.bind (.finish (.comma left mark right)) fun t v built => .pure built

theorem derives_condition : Leads n c x d.condition fun t y => Derives n c .condition x [t] y := by
  refine .expect rfl fun y opened => ?_
  refine (Leads.allowIn (derives_expression faithful)).bind fun e z inside => ?_
  exact .expect rfl fun u closed => .pure (.condition opened inside closed)

theorem derives_spreadOrAssignment :
    Leads n c x (d.spreadOrAssignment .spread) fun t y => Derives n c .element x [t] y := by
  refine .ifToken (fun is => .pos (.take is rfl fun y dots => ?_)) fun _ => ?_
  · exact (faithful .assignment).bind fun e z operand => .finish (.spread dots operand)
  · exact (faithful .assignment).mono fun e y only => .plainElement only

theorem derives_arguments : Leads n c x d.arguments fun ts y => Derives n c .arguments x ts y := by
  refine .expect rfl fun y opened => (Leads.allowIn (.commaList (fun _ =>
    derives_spreadOrAssignment faithful) _)).bind fun ts z inside => ?_
  exact .expect rfl fun u closed => .pure (.arguments opened inside closed)

theorem derives_elementKey :
    Leads n c x d.elementKey fun t y => Derives n c .elementKey x [t] y := by
  refine .expect rfl fun y opened => ?_
  refine (Leads.allowIn (derives_expression faithful)).bind fun e z inside => ?_
  exact .expect rfl fun u closed => .pure (.elementKey opened inside closed)

theorem derives_arrayElements (turns : Nat) :
    Leads n c x (d.arrayElements turns) fun ts y => Derives n c .elements x ts y := by
  induction turns generalizing x with
  | zero => exact .throw
  | succ turns ih =>
    refine .token ?_
    split
    · exact .pure .noElement
    · rename_i is
      refine .pos (.take is rfl fun y comma => ih.bind fun ts z rest => ?_)
      exact .pure (.hole comma rest)
    · refine (derives_spreadOrAssignment faithful).bind fun t y item => ?_
      refine .ifAccept rfl (fun z comma => ih.bind fun ts u rest => ?_) fun _ => ?_
      · exact .pure (.moreElements item comma rest)
      · exact .pure (.lastElement item)

theorem derives_arrayLiteral :
    Leads n c x d.arrayLiteral fun t y => Derives n c .primary x [t] y := by
  refine .pos (.expect rfl fun y opened => ?_)
  refine (Leads.allowIn (derives_arrayElements faithful _)).bind fun ts z inside => ?_
  exact .expect rfl fun u closed => .finish (.array opened inside closed)

/-! ### Objects -/

theorem derives_propertyName :
    Leads n c x d.propertyName fun t y => Derives n c .propertyName x [t] y := by
  refine .token ?_
  split
  · rename_i is
    exact .literal (by rw [is]; rfl) fun y mark => .literalName mark (.inl is)
  · rename_i is
    exact .literal (by rw [is]; rfl) fun y mark => .literalName mark (.inr is)
  · rename_i is
    refine .pos (.take is rfl fun y opened => (Leads.allowIn (faithful .assignment)).bind ?_)
    exact fun e z key => .expect rfl fun u closed => .finish (.computedName opened key closed)
  · exact .memberName fun k y named isName => .plainName named isName

omit faithful in
theorem leads_memberModifiers :
    Leads n c x memberModifiers fun (flags, isAccessor) y => x.MemberHead flags isAccessor y := by
  refine .asking .startsAsyncMember fun isAsync is => .acceptWord is fun y async => ?_
  refine .accept rfl fun isGenerator z star => .ite (fun _ => ?_) fun neither => ?_
  · exact .pure (.plain async star)
  · refine .asking .startsAccessor fun isAccessor is => ?_
    cases async with
    | taken => exact absurd rfl neither
    | absent =>
      cases star with
      | taken => exact absurd rfl neither
      | absent none =>
        refine .ite (fun yes => .take (is yes).1 rfl fun u word => ?_) fun no => ?_
        · obtain ⟨-, spelled⟩ := is yes
          obtain rfl := yes
          exact .pure (.accessor word spelled)
        · obtain rfl := Bool.not_eq_true _ ▸ no
          exact .pure (.plain .absent (.absent none))

theorem derives_objectMember :
    Leads n c x d.objectMember fun t y => Derives n c .member x [t] y := by
  refine .ifToken (fun is => .ifToken (fun is => ?_) fun isNot => absurd is isNot) fun _ => ?_
  · refine .pos (.take is rfl fun y dots => (faithful .assignment).bind fun e z operand => ?_)
    exact .finish (.spreadMember dots operand)
  refine .pos (leads_memberModifiers.bind ?_)
  rintro ⟨flags, isAccessor⟩ y head
  refine .isToken fun isName is => (derives_propertyName faithful).bind fun k z named => ?_
  refine .isToken fun isMethod _ => .ite (fun _ => ?_) fun noMethod => ?_
  · refine .pos (Leads.bind (P := fun t v => Derives n c .member x
      [x.finish v .propertyAssignment (.property k t)] v) ?_ fun t v built => .finish built)
    exact leads_functionRest faithful fun ps u b v parameters body =>
      .method head named parameters body
  · obtain rfl := head.eq_of_plain fun plain => noMethod (by rw [plain]; rfl)
    refine .ifAccept rfl (fun u colon => ?_) fun _ => ?_
    · refine (faithful .assignment).bind fun e v value => ?_
      exact .finish (.property named colon value)
    · refine .isToken fun _ _ => .isToken fun _ _ => .ite (fun both => ?_) fun _ => .unexpected
      obtain ⟨mark, rfl⟩ := named.name_of_identifier (is.mp (Bool.and_eq_true_iff.mp both).1)
      exact .finish (.shorthand mark)

theorem derives_objectLiteral :
    Leads n c x d.objectLiteral fun t y => Derives n c .primary x [t] y := by
  refine .pos (.expect rfl fun y opened => ?_)
  refine (Leads.allowIn (.commaList (fun _ => derives_objectMember faithful) _)).bind ?_
  exact fun ts z inside => .expect rfl fun u closed => .finish (.object opened inside closed)

/-! ### Templates -/

theorem derives_substitutions (turns : Nat) : Leads n c x (d.substitutions turns) fun ps y =>
    Derives n c (.pieces (ps.map Prod.snd)) x (ps.map Prod.fst) y := by
  induction turns generalizing x with
  | zero => exact .throw
  | succ turns ih =>
    refine (Leads.allowIn (derives_expression faithful)).bind fun e y inside => ?_
    refine .isToken fun closes is => .ite (fun _ => .unreached) fun closed => ?_
    have brace : y.token = .closeBrace := is.mp (by simpa using closed)
    refine .reread fun sound => .value (.isToken fun isLast tail => ?_)
    have piece := y.scanner.token_rescanTemplate sound
    cases isLast with
    | true => exact .take (tail.mp rfl) rfl fun z text => .pure (.lastPiece inside brace text)
    | false =>
      have middle := piece.resolve_left fun is => Bool.noConfusion (tail.mpr is)
      refine .take middle rfl fun z text => ih.bind fun ps u rest => ?_
      exact .pure (.morePieces inside brace text rest)

theorem derives_template (is : x.token = .templateHead) :
    Leads n c x d.template fun t y => Derives n c .template x [t] y := by
  refine .pos (.value (.take is rfl fun y head => (derives_substitutions faithful _).bind ?_))
  exact fun ps z inside => .finish (.template head inside)

/-! ### Operands -/

omit faithful in
theorem derives_regex (slash : x.token = .slash ∨ x.token = .slashAssign) :
    Leads n c x (reread Scanner.rescanSlash >>= fun _ => Parser.literal)
      fun t y => Derives n c .primary x [t] y := by
  have atSlash : x.scanner.atSlash = true := by
    rcases slash with is | is <;> rw [Place.token] at is <;> simp [Scanner.atSlash, is]
  refine .reread fun sound => ?_
  rcases token_rescanSlash atSlash with is | ⟨unknown, error⟩
  · refine .literal (x := x.asRegex) ?_ fun y mark => .regex atSlash ?_
    · rw [Place.token, Place.asRegex, is]
      rfl
    · rw [Place.token, Place.asRegex, is] at mark
      exact mark
  · rw [sound unknown] at error
    cases error

theorem derives_primary : Leads n c x d.primary fun t y => Derives n c .primary x [t] y := by
  have word (isWord : x.token = .thisKeyword ∨ x.token = .trueKeyword ∨ x.token = .falseKeyword ∨
      x.token = .nullKeyword) : Leads n c x
        (Parser.advance >>= fun _ => Parser.finishLeaf (.token x.token) x.pos)
          fun t y => Derives n c .primary x [t] y := by
    refine .advance ?_ fun y mark => .finishLeaf (.word mark isWord)
    rcases isWord with is | is | is | is <;> rw [is] <;> rfl
  refine .pos (.token ?_)
  split
  · refine .asking .startsAsyncFunction fun _ _ => .ite (fun _ => ?_) fun _ => ?_
    · exact derives_functionExpression faithful
    · exact .identifier fun y named => .name named
  · rename_i is
    exact word (.inl is)
  · rename_i is
    exact word (.inr (.inl is))
  · rename_i is
    exact word (.inr (.inr (.inl is)))
  · rename_i is
    exact word (.inr (.inr (.inr is)))
  · rename_i is
    exact .literal (by rw [is]; rfl) fun y mark => .literal mark (by rw [is]; rfl)
  · rename_i is
    exact .literal (by rw [is]; rfl) fun y mark => .literal mark (by rw [is]; rfl)
  · rename_i is
    exact .literal (by rw [is]; rfl) fun y mark => .literal mark (by rw [is]; rfl)
  · rename_i is
    exact derives_regex (.inl is)
  · rename_i is
    exact derives_regex (.inr is)
  · rename_i is
    exact (derives_template faithful is).mono fun t y only => .templateOperand only
  · rename_i is
    refine .take is rfl fun y opened => (Leads.allowIn (derives_expression faithful)).bind ?_
    intro e z inside
    exact .expect rfl fun u closed => .finish (.parenthesized opened inside closed)
  · exact derives_arrayLiteral faithful
  · exact derives_objectLiteral faithful
  · exact derives_functionExpression faithful
  · exact .unexpected

theorem leads_callOf {start : Place} {callee : Tree} {optional : Bool} {Q : Tree → Place → Prop}
    (h : ∀ ts y, Derives n c .arguments x ts y → Q (start.flagged y .call
      (NodeFlags.optionalChain.onlyIf optional) (.call callee (some ts))) y) :
    Leads n c x (d.callOf start.pos callee optional) Q :=
  (derives_arguments faithful).bind fun ts y args => .flagged (h ts y args)

omit faithful in
theorem leads_memberOf {start : Place} {object : Tree} {optional : Bool} {Q : Tree → Place → Prop}
    (h : ∀ k y, x.Takes k y → k.isName = true →
      Q (start.finish y .propertyAccess (.access object (x.name y) optional)) y) :
    Leads n c x (memberOf start.pos object optional) Q := by
  refine Leads.bind (P := fun t y => ∃ k, x.Takes k y ∧ k.isName = true ∧ t = x.name y) ?_ ?_
  · exact .memberName fun k y mark isName => ⟨k, mark, isName, rfl⟩
  · rintro _ y ⟨k, mark, isName, rfl⟩
    exact .finish (h k y mark isName)

theorem leads_elementOf {start : Place} {object : Tree} {optional : Bool} {Q : Tree → Place → Prop}
    (h : ∀ k y, Derives n c .elementKey x [k] y →
      Q (start.finish y .elementAccess (.access object k optional)) y) :
    Leads n c x (d.elementOf start.pos object optional) Q :=
  (derives_elementKey faithful).bind fun k y key => .finish (h k y key)

/-- What stands behind an operand belongs to it. -/
theorem derives_suffixes {start : Place} {calls : Bool} {e : Tree}
    (base : Derives n c (.suffixed calls) start [e] x) :
    Leads n c x (d.suffixes start.pos calls e)
      fun t y => Derives n c (.suffixed calls) start [t] y := by
  refine .loop (I := fun e y => Derives n c (.suffixed calls) start [e] y) base ?_
  intro e y operand
  have goesOn {p : Parser Tree} {z : Place}
      (built : Leads n c z p fun t u => Derives n c (.suffixed calls) start [t] u) :
      Leads n c z (p >>= fun t => pure (.inl t)) fun (r : Tree ⊕ Tree) u => Sum.elim
        (fun t => Derives n c (.suffixed calls) start [t] u)
        (fun t => Derives n c (.suffixed calls) start [t] u) r :=
    built.bind fun t u more => .pure more
  have call {z : Place} {optional : Bool} (allowed : calls = true)
      (mark : y.Accepts .questionDot optional z) : Leads n c z (d.callOf start.pos e optional)
        fun t u => Derives n c (.suffixed calls) start [t] u := by
    subst allowed
    exact leads_callOf faithful fun ts u args => .call operand mark args
  refine .token ?_
  split
  · rename_i is
    refine .take is rfl fun z mark => goesOn (leads_memberOf fun k u named isName => ?_)
    exact .access operand mark named isName
  · rename_i is
    refine .take is rfl fun z mark => .ifToken (fun _ => ?_) fun _ => ?_
    · exact goesOn (leads_elementOf faithful fun k u key => .keyAccess operand (.taken mark) key)
    · refine .isToken fun _ _ => .ite (fun both => ?_) fun _ => ?_
      · exact goesOn (call (Bool.and_eq_true_iff.mp both).2 (.taken mark))
      · refine goesOn (leads_memberOf fun k u named isName => ?_)
        exact .access operand mark named isName
  · rename_i is
    refine goesOn (leads_elementOf faithful fun k u key => ?_)
    exact .keyAccess operand (.absent (by rw [is]; decide)) key
  · rename_i is
    refine .ite (fun allowed => goesOn (call allowed (.absent (by rw [is]; decide)))) fun _ => ?_
    exact .pure operand
  · rename_i is
    refine Leads.bind (.literal (by rw [is]; rfl) fun z text => ?_) fun t z built =>
      goesOn (.finish built)
    exact Derives.taggedText operand (is ▸ text)
  · rename_i is
    refine (derives_template faithful is).bind fun t z body => goesOn (.finish ?_)
    exact .taggedTemplate operand body
  · exact .pure operand

theorem derives_construction :
    Leads n c x d.construction fun t y => Derives n c .construction x [t] y := by
  refine .pos (.expect rfl fun y word => .pos ?_)
  refine Leads.bind (P := fun e z => Derives n c (.suffixed false) y [e] z)
    (.nested fun room => .ifToken (fun _ => ?_) fun _ => ?_) fun e z base => ?_
  · exact (faithful .construction).mono fun e z operand => .calleeConstruction room operand
  · exact (derives_primary faithful).mono fun e z operand => .calleeBase room operand
  refine (derives_suffixes faithful base).bind fun e z callee => .ifToken (fun _ => ?_) fun _ => ?_
  · refine .present (derives_arguments faithful) fun ts u args => ?_
    exact .finish (.construction word callee args)
  · exact .finish (.bareConstruction word callee)

theorem derives_leftHandSide :
    Leads n c x d.leftHandSide fun t y => Derives n c (.suffixed true) x [t] y := by
  refine .pos (.ifToken (fun _ => ?_) fun _ => ?_)
  · exact (faithful .construction).bind fun e y operand =>
      derives_suffixes faithful (.constructionBase operand)
  · exact (derives_primary faithful).bind fun e y operand =>
      derives_suffixes faithful (.base operand)

/-! ### Operators -/

omit faithful in
theorem isProper_of_isPrefixOperator {k : TokenKind} (operator : isPrefixOperator k = true) :
    k.isProper = true := by revert operator; cases k <;> decide

theorem derives_unary : Leads n c x d.unary fun t y => Derives n c .unary x [t] y := by
  have operand {y : Place} {f : Tree → Parser Tree} (rest : ∀ e z, n < maxNesting →
      Derives (n + 1) c .unary y [e] z → Leads n c z (f e) fun t z => Derives n c .unary x [t] z) :
      Leads n c y (Parser.nested (d.parse .unary) >>= f) fun t z => Derives n c .unary x [t] z := by
    refine Leads.bind (P := fun e z => n < maxNesting ∧ Derives (n + 1) c .unary y [e] z)
      (.nested fun room => ?_) fun e z ⟨room, built⟩ => rest e z room built
    exact (faithful .unary).mono fun e z built => ⟨room, built⟩
  refine .pos (.token (.state (.isWord fun isAwait is => .ite (fun both => ?_) fun _ => ?_)))
  · obtain ⟨operator, word⟩ := Bool.and_eq_true_iff.mp both
    obtain ⟨identifier, spelled⟩ := is.mp word
    refine .take identifier rfl fun y word => operand fun e z room built => ?_
    exact .finish (.await operator word spelled room built)
  refine .ite (fun operator => ?_) fun _ => ?_
  · refine .advance (isProper_of_isPrefixOperator operator) fun y mark => ?_
    refine operand fun e z room built => ?_
    exact .finish (.prefixed mark operator room built)
  refine (derives_leftHandSide faithful).bind fun e y operand => .token ?_
  refine .lineBreak fun _ => .ite (fun both => ?_) fun _ => .pure (.plainUnary operand)
  have operator : y.token = .increment ∨ y.token = .decrement := by simp_all
  refine .advance ?_ fun z mark => .finish (.postfixed operand mark operator)
  rcases operator with is | is <;> rw [is] <;> rfl

omit faithful in
theorem isProper_of_precedence {k : TokenKind} {min : Nat} (binds : min < precedence c k) :
    k.isProper = true := by
  revert binds
  cases k <;> simp [precedence, TokenKind.isProper]

theorem derives_operand (min : Nat) :
    Leads n c x (d.operand min) fun t y => Derives n c (.operand min) x [t] y := by
  refine .pos ((faithful .unary).bind fun e y first => ?_)
  refine .loop (I := fun e y => Derives n c (.operands min) x [e] y) (.firstOperand first) ?_
  intro l y left
  refine .token (.state (.ite (fun ends => .pure (.operand left ends)) fun more => ?_))
  have binds : min < precedence c y.token := Nat.lt_of_not_le more
  refine .advance (isProper_of_precedence binds) fun z mark => ?_
  refine (faithful (.operand _)).bind fun r u right => ?_
  exact Leads.bind (.finish (.moreOperands left mark binds right)) fun t v built => .pure built

theorem derives_conditional :
    Leads n c x d.conditional fun t y => Derives n c .conditional x [t] y := by
  refine .pos ((faithful (.operand 0)).bind fun a y condition => ?_)
  refine .ifAccept rfl (fun z question => ?_) fun _ => .pure (.plainConditional condition)
  refine (Leads.allowIn (faithful .assignment)).bind fun b u whenTrue => ?_
  refine .expect rfl fun v colon => ?_
  refine (faithful .assignment).bind fun e w whenFalse => ?_
  exact .finish (.conditional condition question whenTrue colon whenFalse)

/-! ### Assignments -/

theorem derives_yielding (operator : c.yieldIsOperator = true) (word : x.token = .identifier)
    (spelled : x.value = "yield") :
    Leads n c x d.yielding fun t y => Derives n c .assignmentBody x [t] y := by
  refine .pos (.take word rfl fun y word => .lineBreak fun _ => .ite (fun _ => ?_) fun _ => ?_)
  · exact .finish (.yieldAlone operator word spelled)
  refine .ifAccept rfl (fun z star => (faithful .assignment).bind fun e u operand => ?_) fun _ => ?_
  · exact .flagged (.yieldDelegate operator word spelled star operand)
  refine .token (.ite (fun _ => .finish (.yieldAlone operator word spelled)) fun _ => ?_)
  refine (faithful .assignment).bind fun e u operand => ?_
  exact .finish (.yieldValue operator word spelled operand)

omit faithful in
theorem isProper_of_assignment {k : TokenKind} (assigns : k.isAssignment = true) :
    k.isProper = true := by revert assigns; cases k <;> decide

theorem derives_assignmentBody :
    Leads n c x d.assignmentBody fun t y => Derives n c .assignmentBody x [t] y := by
  refine .state (.isWord fun isYield is => .ite (fun both => ?_) fun _ => ?_)
  · obtain ⟨operator, word⟩ := Bool.and_eq_true_iff.mp both
    exact derives_yielding faithful operator (is.mp word).1 (is.mp word).2
  refine .asking .startsArrow fun _ _ => .ite (fun _ => derives_arrowFunction faithful) fun _ => ?_
  refine .pos ((derives_conditional faithful).bind fun l y left => .token ?_)
  refine .ite (fun assigns => ?_) fun _ => .pure (.plainAssignment left)
  refine .advance (isProper_of_assignment assigns) fun z mark => ?_
  exact (faithful .assignment).bind fun r u right => .finish (.assign left mark assigns right)

end productions

end Descent

end Shapewire
