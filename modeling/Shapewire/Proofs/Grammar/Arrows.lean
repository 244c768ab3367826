/-
Telling arrow functions from parentheses.

At an opening parenthesis the parser has to know whether parameters with an arrow behind them follow
or an expression in parentheses.  It counts brackets to where the parenthesis closes and asks for an
arrow there (`Parser.startsArrow_openParen`).

If what is in the parentheses is read from raw tokens, that is where the parameters end and where
the expression in parentheses does.  What comes behind the latter is consumed by something around
it, which no arrow is, or it is where the whole expression ends (`opens_of_derives`).  So the parser
foresees what it reads (`Descent.Foresees`).

For what is read again the count can go wrong: a parenthesis in a regular expression is no bracket
but is counted as one, and the brace that ends a substitution is counted although none was opened.
Nor is a regular expression without brackets harmless, since what follows the slash at its end can
make that the start of a comment.
-/
import Shapewire.Proofs.Grammar.Brackets
import Shapewire.Proofs.Grammar.Question
import Shapewire.Proofs.Grammar.Soundness
import Shapewire.Tree.Source

namespace Shapewire

/-! ### What an expression starts with -/

/-- The first of the trees is `p`, or what that is made of starts with `p`. -/
inductive Tree.Starts (p : Tree) : List Tree → Prop where
  | self {ts : List Tree} : Starts p (p :: ts)
  | within {t : Tree} {ts : List Tree} (inside : Starts p t.children) : Starts p (t :: ts)

/-- What holds everywhere in trees holds everywhere in what they start with. -/
theorem Tree.Starts.everywhere {P : Tree → Prop} {p : Tree} {ts : List Tree} (h : p.Starts ts)
    (all : AllEverywhere P ts) : p.Everywhere P := by
  induction h with
  | self => exact all p List.mem_cons_self
  | within _ ih => exact ih fun _ mem => (all _ List.mem_cons_self).of_mem_children mem

theorem Tree.Starts.append {p : Tree} {ts us : List Tree} (h : p.Starts ts) :
    p.Starts (ts ++ us) := by
  cases h with
  | self => exact .self
  | within inside => exact .within inside

namespace Place

variable {x y z u v : Place} {k : TokenKind} {ts us : List Tree} {kind : NodeKind}
  {flags : NodeFlags} {r : Record Tree (Option Tree) String}

/-- What is read starts with an expression in parentheses, and if that is read from raw tokens the
count of brackets finds where it ends.  An arrow comes behind it only where all ends. -/
def Opens (x : Place) (ts : List Tree) (y : Place) : Prop :=
  ∃ (p : Tree) (w u : Place), p.kind = .parenthesized ∧ p.Starts ts ∧ w.Takes .closeParen u ∧
    (AllRaw [p] → x.scanner.afterBrackets? 1 = some w.scanner) ∧ (u.token = .arrow → u = y)

/-- A node that goes on with a token that is no arrow. -/
theorem Opens.node (h : x.Opens ts y) (other : y.token ≠ .arrow)
    (children : ∃ us, r.children kind (fun c => [c]) Option.toList = ts ++ us := by
      exact ⟨_, rfl⟩) : x.Opens [v.flagged u kind flags r] z := by
  obtain ⟨p, w, u, parenthesized, starts, closed, counts, ends⟩ := h
  obtain ⟨us, children⟩ := children
  refine ⟨p, w, u, parenthesized, .within ?_, closed, counts, fun arrow => ?_⟩
  · show p.Starts (r.children kind _ _)
    rw [children]
    exact starts.append
  · exact absurd (ends arrow ▸ arrow) other

theorem Takes.ne_arrow (mark : x.Takes k y) (other : k ≠ .arrow := by decide) :
    x.token ≠ .arrow := mark.token ▸ other

/-- A mark that may be missing, with something behind it that starts with another. -/
theorem Accepts.ne_arrow {b : Bool} (mark : x.Accepts k b y) (behind : y.token ≠ .arrow)
    (other : k ≠ .arrow := by decide) : x.token ≠ .arrow := by
  cases mark with
  | taken mark => exact mark.ne_arrow other
  | absent => exact behind

end Place

section first

variable {n : Nat} {c : Context} {x y : Place} {ts : List Tree}

theorem Derives.token_template (h : Derives n c .template x ts y) : x.token = .templateHead := by
  cases h with
  | template head _ => exact head.token

theorem Derives.token_construction (h : Derives n c .construction x ts y) :
    x.token = .newKeyword := by
  cases h with
  | construction word _ _ | bareConstruction word _ => exact word.token

theorem Derives.token_elementKey (h : Derives n c .elementKey x ts y) :
    x.token = .openBracket := by
  cases h with
  | elementKey opened _ _ => exact opened.token

theorem Derives.token_arguments (h : Derives n c .arguments x ts y) : x.token = .openParen := by
  cases h with
  | arguments opened _ _ => exact opened.token

theorem Place.FunctionHead.token_ne_openParen {flags : NodeFlags} (h : x.FunctionHead flags y) :
    x.token ≠ .openParen := by
  cases h with
  | intro async word _ =>
    cases async with
    | taken mark _ => simp [mark.token]
    | absent => simp [word.token]

end first

/-- The parts of the grammar that are expressions without a comma, an assignment or an arrow. -/
def Part.isOperand : Part → Bool
  | .conditional | .operand _ | .operands _ | .unary | .suffixed _ | .primary => true
  | _ => false

/-- **An expression that starts with a parenthesis starts with an expression in parentheses**, and
an arrow comes behind that only if it is all. -/
theorem opens_of_derives {n : Nat} {c : Context} {p : Part} {x y : Place} {ts : List Tree}
    (h : Derives n c p x ts y) (isOperand : p.isOperand = true) (opens : x.token = .openParen) :
    x.Opens ts y := by
  induction h with
  | parenthesized opened inside closed =>
    refine ⟨_, _, _, rfl, .self, closed, fun raw => ?_, fun _ => rfl⟩
    exact (clears_of_derives inside rfl raw.children).afterBrackets? opened closed
  -- Operators
  | conditional _ question _ _ _ condition => exact (condition rfl opens).node question.ne_arrow
  | moreOperands _ mark binds _ left =>
    refine (left rfl opens).node (mark.ne_arrow ?_)
    rintro rfl
    exact absurd binds (Nat.not_lt_zero _)
  | postfixed _ mark operator operand =>
    refine (operand rfl opens).node (mark.ne_arrow ?_)
    rcases operator with rfl | rfl <;> decide
  | plainConditional _ ih | operand _ _ ih | firstOperand _ ih | plainUnary _ ih | base _ ih
  | calleeBase _ _ ih => exact ih rfl opens
  -- Members and calls
  | access _ mark _ _ object =>
    exact (object rfl opens).node (mark.ne_arrow (by split <;> decide))
  | keyAccess _ mark key object =>
    exact (object rfl opens).node (mark.ne_arrow (by simp [key.token_elementKey]))
  | call _ mark args callee =>
    exact (callee rfl opens).node (mark.ne_arrow (by simp [args.token_arguments]))
  | taggedText _ text tag => exact (tag rfl opens).node text.ne_arrow
  | taggedTemplate _ body tag => exact (tag rfl opens).node (by simp [body.token_template])
  -- What starts with something else
  | constructionBase operand | calleeConstruction _ operand =>
    exact absurd (operand.token_construction.symm.trans opens) (by decide)
  | templateOperand only => exact absurd (only.token_template.symm.trans opens) (by decide)
  | functionValue head => exact absurd opens head.token_ne_openParen
  | await _ word | name word | array word | object word =>
    exact absurd (word.token.symm.trans opens) (by decide)
  | prefixed mark operator =>
    rw [← mark.token, opens] at operator
    cases operator
  | word mark isWord =>
    rw [← mark.token, opens] at isWord
    simp at isWord
  | literal mark isLiteral =>
    rw [← mark.token, opens] at isLiteral
    cases isLiteral
  | regex slash =>
    replace slash : (Place.token _ == .slash || Place.token _ == .slashAssign) = true := slash
    rw [opens] at slash
    cases slash
  | _ => cases isOperand

/-! ### What the parser foresees -/

namespace Parser

variable {s : ParserState}

/-- A parenthesis is no word. -/
theorem isWord_openParen (opens : s.scanner.token = .openParen) (word : String) :
    isWord word s = .ok false s := by
  show EStateM.Result.ok (s.scanner.token == .identifier && s.scanner.value == word) s = _
  rw [opens]
  rfl

/-- At a parenthesis the answer is what comes behind the bracket that closes it. -/
theorem startsArrow_openParen (opens : s.scanner.token = .openParen) :
    startsArrow s = .ok (match s.scanner.afterBrackets? 1 with
      | none => false
      | some close => close.scan.token == .arrow && !close.scan.lineBreak) s := by
  refine (Question.parser_eq .arrow s).trans ?_
  rw [opens]
  show EStateM.Result.ok ((s.scanner.afterBrackets? 1).any Scanner.arrowIsNext) s = _
  cases s.scanner.afterBrackets? 1 <;> rfl

theorem startsArrow_of_afterBrackets? {w u : Place} (opens : s.scanner.token = .openParen)
    (counted : s.scanner.afterBrackets? 1 = some w.scanner) (closed : w.Takes .closeParen u) :
    startsArrow s = .ok (u.token == .arrow && !u.scanner.lineBreak) s := by
  rw [startsArrow_openParen opens, counted, closed.next]
  rfl

end Parser

namespace Descent

variable {d : Descent} {s t : ParserState} {e : Tree}

open Shapewire.Parser

theorem assignmentBody_of_startsArrow (opens : s.scanner.token = .openParen)
    (answer : startsArrow s = .ok true s) : d.assignmentBody s = d.arrowFunction s := by
  have current : (get : Parser ParserState) s = .ok s s := rfl
  simp only [assignmentBody, bind, EStateM.bind, current, isWord_openParen opens, Bool.and_false,
    Bool.false_eq_true, if_false, answer, if_true]

theorem assignmentBody_of_conditional (opens : s.scanner.token = .openParen)
    (answer : startsArrow s = .ok false s) (run : d.conditional s = .ok e t)
    (last : t.scanner.token.isAssignment = false) : d.assignmentBody s = .ok e t := by
  have current : (get : Parser ParserState) s = .ok s s := rfl
  have start : pos s = .ok s.scanner.tokenPos s := rfl
  have operator : token t = .ok t.scanner.token t := rfl
  simp only [assignmentBody, bind, EStateM.bind, current, isWord_openParen opens, Bool.and_false,
    Bool.false_eq_true, if_false, answer, start, run, operator, last]
  rfl

/-- What the parser foresees at a parenthesis. -/
structure Foresees (d : Descent) (s : ParserState) : Prop where
  /-- Where parameters are read from raw tokens, an arrow function is foreseen if an arrow follows
  them on the same line, and only then. -/
  parameters : ∀ ps t, d.parameterList s = .ok ps t → AllRaw ps →
    startsArrow s = .ok (t.scanner.token == .arrow && !t.scanner.lineBreak) s
  /-- Where an expression is read that starts with one in parentheses, which is read from raw
  tokens, and no arrow follows, none is foreseen. -/
  expression : ∀ e t, d.conditional s = .ok e t →
    (∀ p : Tree, p.Starts [e] → p.kind = .parenthesized → AllRaw [p]) →
    t.scanner.token ≠ .arrow → startsArrow s = .ok false s
  /-- An arrow function that is foreseen is read. -/
  arrow : startsArrow s = .ok true s → d.assignmentBody s = d.arrowFunction s
  /-- If none is foreseen, the expression is read. -/
  alone : startsArrow s = .ok false s → ∀ e t, d.conditional s = .ok e t →
    t.scanner.token.isAssignment = false → d.assignmentBody s = .ok e t

/-- **At a parenthesis the parser foresees what it reads**, if that is read from raw tokens. -/
theorem foresees (turns budget : Nat) (opens : s.scanner.token = .openParen) :
    Foresees ⟨turns, parseAt budget⟩ s where
  parameters ps t run raw := by
    obtain ⟨y, rfl, derived⟩ := derives_parameterList (faithful_parseAt turns budget)
      (x := s.place) ps t run
    cases derived with
    | parameterList opened inside closed =>
      have counted := (clears_of_derives inside rfl raw).afterBrackets? opened closed
      exact startsArrow_of_afterBrackets? opens counted closed
  expression e t run raw none := by
    obtain ⟨y, rfl, derived⟩ := derives_conditional (faithful_parseAt turns budget)
      (x := s.place) e t run
    obtain ⟨p, w, u, parenthesized, starts, closed, counts, ends⟩ :=
      opens_of_derives derived rfl opens
    have counted := counts (raw p starts parenthesized)
    have other : (u.token == .arrow) = false :=
      beq_eq_false_iff_ne.mpr fun arrow => none (ends arrow ▸ arrow)
    rw [startsArrow_of_afterBrackets? opens counted closed, other, Bool.false_and]
  arrow := assignmentBody_of_startsArrow opens
  alone answer e t run last := assignmentBody_of_conditional opens answer run last

/-- A result that passes a check. -/
theorem exists_of_check {α : Type} {r : EStateM.Result Stop ParserState α}
    {q : α → ParserState → Bool}
    (checked : (match r with | .ok a t => q a t | .error _ _ => false) = true) :
    ∃ a t, r = .ok a t ∧ q a t = true := by
  cases r with
  | ok a t => exact ⟨a, t, rfl, checked⟩
  | error e t => cases checked

/-- The state before an expression that is the first of a source. -/
abbrev atExpression (text : String) : ParserState := (Place.start text.toList).state 2 {}

theorem foresees_nested :
    (∃ ps t, parameterList ⟨30, parseAt 30⟩ (atExpression "(a, b = [(c)]) => a") = .ok ps t ∧
      startsArrow (atExpression "(a, b = [(c)]) => a") =
        .ok true (atExpression "(a, b = [(c)]) => a")) ∧
    ∃ e t, conditional ⟨30, parseAt 30⟩ (atExpression "(a, [(b)])(c) ? d : e") = .ok e t ∧
      startsArrow (atExpression "(a, [(b)])(c) ? d : e") =
        .ok false (atExpression "(a, [(b)])(c) ? d : e") := by
  constructor
  · obtain ⟨ps, t, run, checked⟩ := exists_of_check
      (r := parameterList ⟨30, parseAt 30⟩ (atExpression "(a, b = [(c)]) => a"))
      (q := fun ps t => decide (AllRaw ps) && (t.scanner.token == .arrow && !t.scanner.lineBreak))
      (by decide +kernel)
    obtain ⟨raw, arrow⟩ := Bool.and_eq_true_iff.mp checked
    have sound := foresees 30 30 (s := atExpression "(a, b = [(c)]) => a") (by decide +kernel)
    exact ⟨ps, t, run, arrow ▸ sound.parameters ps t run (of_decide_eq_true raw)⟩
  · obtain ⟨e, t, run, checked⟩ := exists_of_check
      (r := conditional ⟨30, parseAt 30⟩ (atExpression "(a, [(b)])(c) ? d : e"))
      (q := fun e t => decide (AllRaw [e]) && decide (t.scanner.token ≠ .arrow))
      (by decide +kernel)
    obtain ⟨raw, none⟩ := Bool.and_eq_true_iff.mp checked
    have sound := foresees 30 30 (s := atExpression "(a, [(b)])(c) ? d : e") (by decide +kernel)
    refine ⟨e, t, run, sound.expression e t run ?_ (of_decide_eq_true none)⟩
    intro p starts _
    exact List.forall_mem_singleton.mpr (starts.everywhere (of_decide_eq_true raw))

/-- A parenthesis in a regular expression is counted with the others.  So the arrow behind
parameters may be missed and one within an expression be taken for it, and either source is
rejected. -/
theorem not_foresees_regex :
    ((∃ ps t, parameterList ⟨30, parseAt 30⟩ (atExpression "(a = /(/) => a") = .ok ps t ∧
        t.scanner.token = .arrow ∧ t.scanner.lineBreak = false) ∧
      startsArrow (atExpression "(a = /(/) => a") = .ok false (atExpression "(a = /(/) => a") ∧
      (SourceTree.parse "a.js" "(a = /(/) => a").toOption = none) ∧
    (∃ e t, conditional ⟨30, parseAt 30⟩ (atExpression "(/)=>/)") = .ok e t ∧
        t.scanner.token = .endOfFile) ∧
      startsArrow (atExpression "(/)=>/)") = .ok true (atExpression "(/)=>/)") ∧
      (SourceTree.parse "a.js" "(/)=>/)").toOption = none := by
  refine ⟨⟨?_, ?_, ?_⟩, ?_, ?_, ?_⟩
  · obtain ⟨ps, t, run, checked⟩ := exists_of_check
      (r := parameterList ⟨30, parseAt 30⟩ (atExpression "(a = /(/) => a"))
      (q := fun _ t => decide (t.scanner.token = .arrow ∧ t.scanner.lineBreak = false))
      (by decide +kernel)
    exact ⟨ps, t, run, of_decide_eq_true checked⟩
  · rw [startsArrow_openParen (by decide +kernel)]
    exact congrArg (EStateM.Result.ok · _) (by decide +kernel)
  · exact Option.isNone_iff_eq_none.mp (by decide +kernel)
  · obtain ⟨e, t, run, checked⟩ := exists_of_check
      (r := conditional ⟨30, parseAt 30⟩ (atExpression "(/)=>/)"))
      (q := fun _ t => decide (t.scanner.token = .endOfFile)) (by decide +kernel)
    exact ⟨e, t, run, of_decide_eq_true checked⟩
  · rw [startsArrow_openParen (by decide +kernel)]
    exact congrArg (EStateM.Result.ok · _) (by decide +kernel)
  · exact Option.isNone_iff_eq_none.mp (by decide +kernel)

end Descent

end Shapewire
