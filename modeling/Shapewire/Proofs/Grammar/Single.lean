/-
Sources that are a single operand.

Between a statement and an operand the grammar has a level for each kind of operator.  Where no
operator follows, each of them hands on what the innermost one built.  So a parser that arrives at
the end of an operand arrives there from every level, two constructs deep at most, and a source
with nothing in it but the operand is one statement (`arrives_source`).

What the operand is does not matter here: `Q` says of its tree and of the place behind it whatever
is to be said, and of that place at least that no operator goes on there.  Nor is there anything
around it, so `await` and `yield` are names.
-/
import Shapewire.Proofs.Grammar.Arrives
import Shapewire.Proofs.Tree.Source

namespace Shapewire

open Shapewire.Parser

namespace TokenKind

/-- A token at which an expression ends. -/
def EndsExpression (k : TokenKind) : Prop := k = .closeBrace ∨ k = .endOfFile

/-- A token at which an operand ends: a power of it is made, or the expression ends. -/
def EndsOperand (k : TokenKind) : Prop := k = .power ∨ k.EndsExpression

end TokenKind

namespace Tree

/-- The tree is a statement that is the expression `e`. -/
structure States (t e : Tree) : Prop where
  kind : t.kind = .expressionStatement
  record : t.record? = some (.wrapped (some e))

/-- The tree is a source with the one statement `s`. -/
structure Contains (t : Tree) (file : String) (s : Tree) : Prop where
  kind : t.kind = .sourceFile
  record : t.record? = some (.sourceFile file [s])

variable {t e s : Tree} {file : String}

theorem States.children (h : t.States e) : t.children = [e] := by
  rw [Tree.children, h.record]
  rfl

theorem Contains.children (h : t.Contains file s) : t.children = [s] := by
  rw [Tree.children, h.record]
  rfl

end Tree

variable {n : Nat} {x : Place}

namespace Descent

variable {d : Descent} {Q : Tree → Place → Prop}

/-! ### From an operand to an expression -/

theorem arrives_leftHandSide (turns : 0 < d.turns) (noNew : x.token ≠ .newKeyword)
    (ends : ∀ t y, Q t y → y.token.EndsOperand) (primary : Arrives n {} x d.primary Q) :
    Arrives n {} x d.leftHandSide Q := by
  obtain ⟨k, more⟩ := Nat.exists_eq_add_of_le' turns
  refine .pos (.notToken noNew (primary.bind fun t y arrived => ?_))
  show Arrives n {} y (loop d.turns _ t) Q
  rw [more]
  refine .loopLast (.token ?_)
  rcases ends t y arrived with is | is | is <;> rw [is] <;> exact .pure ⟨t, rfl, arrived⟩

/-- No operator stands before the operand or behind it. -/
theorem arrives_unary (turns : 0 < d.turns) (noNew : x.token ≠ .newKeyword)
    (noPrefix : isPrefixOperator x.token = false)
    (ends : ∀ t y, Q t y → y.token.EndsOperand) (primary : Arrives n {} x d.primary Q) :
    Arrives n {} x d.unary Q := by
  refine .pos (.token (.state (.isWord ?_)))
  show Arrives n {} x (if isPrefixOperator x.token = true then _ else _) Q
  rw [if_neg (by simp [noPrefix])]
  refine (arrives_leftHandSide turns noNew ends primary).bind fun t y arrived => ?_
  refine .token (.lineBreak fun _ => ?_)
  rcases ends t y arrived with is | is | is <;> rw [is] <;> exact .pure arrived

/-- Only a name or a parenthesis starts an arrow. -/
theorem startsArrow_of_ne {c : Context} (noName : x.token ≠ .identifier)
    (noParen : x.token ≠ .openParen) :
    Arrives n c x startsArrow fun b y => b = false ∧ y = x := by
  refine .answeredNo (q := .arrow) (Question.holds_of_not_arises _ ?_)
  simp [Question.arises, noName, noParen]

section

variable (ends : ∀ t y, Q t y → y.token.EndsExpression)

include ends

theorem arrives_operand (turns : 0 < d.turns) (unary : Arrives n {} x (d.parse .unary) Q) :
    Arrives n {} x (d.operand 0) Q := by
  obtain ⟨k, more⟩ := Nat.exists_eq_add_of_le' turns
  refine .pos (unary.bind fun t y arrived => ?_)
  rw [more]
  refine .loopLast (.token (.state ?_))
  rcases ends t y arrived with is | is <;> rw [is] <;> exact .pure ⟨t, rfl, arrived⟩

/-- Neither an arrow nor an assignment. -/
theorem arrives_assignmentBody (noArrow : Arrives n {} x startsArrow fun b y => b = false ∧ y = x)
    (operand : Arrives n {} x (d.parse (.operand 0)) Q) : Arrives n {} x d.assignmentBody Q := by
  have conditional : Arrives n {} x d.conditional Q := by
    refine .pos (operand.bind fun t y arrived => .notAccepted ?_ (.pure arrived))
    rcases ends t y arrived with is | is <;> rw [is] <;> decide
  refine .state (.isWord (noArrow.bind ?_))
  rintro _ _ ⟨rfl, rfl⟩
  refine .pos (conditional.bind fun t y arrived => .token ?_)
  rcases ends t y arrived with is | is <;> rw [is] <;> exact .pure arrived

theorem arrives_expression (turns : 0 < d.turns) (assignment : Arrives n {} x d.assignment Q) :
    Arrives n {} x d.expression Q := by
  obtain ⟨k, more⟩ := Nat.exists_eq_add_of_le' turns
  refine .pos (assignment.bind fun t y arrived => ?_)
  rw [more]
  refine .loopLast (.notAccepted ?_ (.pure ⟨t, rfl, arrived⟩))
  rcases ends t y arrived with is | is <;> rw [is] <;> decide

end

/-- An expression at the end of the source is a statement without a semicolon. -/
theorem arrives_expressionStatement {P : Tree → Prop} (turns : 0 < d.turns)
    (assignment : Arrives n {} x d.assignment fun e y => P e ∧ y.token = .endOfFile) :
    Arrives n {} x d.expressionStatement fun t y =>
      (∃ e, t.States e ∧ P e) ∧ y.token = .endOfFile := by
  have expression := arrives_expression (fun _ _ h => .inr h.2) turns assignment
  refine .pos (expression.bind fun e y ⟨holds, ends⟩ => ?_)
  have mayEnd : Arrives n {} y mayEndStatement fun b z => b = true ∧ z = y := by
    refine .token ?_
    rw [ends]
    exact .pure ⟨rfl, rfl⟩
  have ended : Arrives n {} y endStatement fun _ z => z = y := by
    refine .notToken (by simp [ends]) (mayEnd.bind ?_)
    rintro _ _ ⟨rfl, rfl⟩
    exact .pure rfl
  refine ended.bind ?_
  rintro _ _ rfl
  exact .finish (.pure ⟨⟨e, ⟨rfl, rfl⟩, holds⟩, ends⟩)

end Descent

open Descent

/-- What starts no arrow, no construction and has no operator in front is an assignment as soon as
it is an operand. -/
theorem arrives_assignment {b : Nat} {Q : Tree → Place → Prop} (room : n < maxNesting)
    (noNew : x.token ≠ .newKeyword) (noPrefix : isPrefixOperator x.token = false)
    (noArrow : Arrives (n + 1) {} x startsArrow fun b y => b = false ∧ y = x)
    (ends : ∀ t y, Q t y → y.token.EndsExpression)
    (primary : Arrives (n + 1) {} x (primary ⟨b + 1, parseAt b⟩) Q) :
    Arrives n {} x (parseAt (b + 3) .assignment) Q := by
  have unary : Arrives (n + 1) {} x (parseAt (b + 1) .unary) Q :=
    arrives_unary (Nat.succ_pos b) noNew noPrefix (fun t y h => .inr (ends t y h)) primary
  have operand : Arrives (n + 1) {} x (parseAt (b + 2) (.operand 0)) Q :=
    Descent.arrives_operand ends (Nat.succ_pos _) unary
  exact .nested room (arrives_assignmentBody ends noArrow operand)

/-- A source with one statement up to its end. -/
theorem arrives_source (file : String) {text : List Char} {P : Tree → Prop}
    (sound : (Place.start text).token ≠ .unknown) (some : (Place.start text).token ≠ .endOfFile)
    (statement : Arrives 0 {} (.start text) (parseAt (budget text.length) .statement) fun s y =>
      P s ∧ y.token = .endOfFile) :
    Arrives 0 {} ⟨.ofText text, 0⟩ (source file text) fun t _ => ∃ s, t.Contains file s ∧ P s := by
  have goesOn : Arrives 0 {} (.start text) sourceGoesOn fun b y => b = true ∧ y = .start text :=
    .notToken some (.pure ⟨rfl, rfl⟩)
  have stops {y : Place} (ends : y.token = .endOfFile) :
      Arrives 0 {} y sourceGoesOn fun b z => b = false ∧ z = y := by
    refine .isToken ?_
    rw [ends]
    exact .pure ⟨rfl, rfl⟩
  have statements : Arrives 0 {} (.start text) (repeatWhile (budget text.length + 1) sourceGoesOn
      (parseAt (budget text.length) .statement)) fun ts _ => ∃ s, ts = [s] ∧ P s :=
    .repeatOnce goesOn (statement.mono fun s y ⟨holds, ends⟩ => ⟨holds, stops ends⟩)
  refine Arrives.step (x := ⟨.ofText text, 0⟩) sound (statements.bind ?_)
  rintro _ y ⟨s, rfl, holds⟩
  exact .pure ⟨s, ⟨rfl, rfl⟩, holds⟩

/-- What the grammar arrives at is the tree of the source. -/
theorem SourceTree.exists_parse_of_arrives {file : String} {text : List Char} {P : Tree → Prop}
    (arrives : Arrives 0 {} ⟨.ofText text, 0⟩ (source file text) fun t _ => P t) :
    ∃ s, parse file (String.ofList text) = .ok s ∧ P s.tree := by
  obtain ⟨t, y, run, holds⟩ := arrives
  have tree : Tree.parse file (String.ofList text).toList = .ok t := by
    rw [String.toList_ofList, Tree.parse,
      show (source file text).run (initial text) = _ from run]
  obtain ⟨s, parsed, rfl⟩ := exists_parse tree
  exact ⟨s, parsed, holds⟩

end Shapewire
