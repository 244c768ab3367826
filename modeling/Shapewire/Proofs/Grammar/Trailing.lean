/-
An `else` belongs to the nearest branch that is open.

Behind the first part of a branch the parser looks for an `else`, and goes without an else part only
if there is none.  So a branch without an else part is not followed by an `else`, and neither is a
statement with such a branch at its end, since both end at the same place
(`token_ne_else_of_endsOpen`).  What an else part stands behind is therefore no such statement, and
so it is in every source that parses (`SourceTree.elseNearest_of_parse`).
-/
import Shapewire.Proofs.Grammar.Everywhere
import Shapewire.Proofs.Tree.Trailing

namespace Shapewire

variable {n : Nat} {c : Context} {p : Part} {x y : Place} {t : Tree} {ts : List Tree}

/-- The parts that are one statement. -/
def Part.isStatement : Part → Bool
  | .statement | .statementBody => true
  | _ => false

/-- **No `else` follows a statement that ends open.**  The induction goes from a statement to the
statement at its end, which ends at the same place. -/
theorem token_ne_else_of_endsOpen (h : Derives n c p x ts y) (statement : p.isStatement = true) :
    ∀ t ∈ ts, t.EndsOpen → y.token ≠ .elseKeyword := by
  induction h with
  | statement _ _ ih => exact ih rfl
  -- What ends as its last part does
  | ifOnly _ _ _ last =>
    rintro t - -
    exact last
  | ifElse _ _ _ _ _ _ _ ih | labeledStatement _ _ _ ih | whileStatement _ _ _ _ ih
  | forStatement _ _ _ _ _ _ _ _ _ _ _ _ ih | forIn _ _ _ _ _ _ _ _ _ ih
  | forOf _ _ _ _ _ _ _ _ _ _ ih =>
    refine List.forall_mem_singleton.mpr ?_
    rintro (⟨⟨⟩⟩ | ⟨⟨⟩, ends⟩)
    exact ih rfl _ List.mem_cons_self ends
  -- Other statements
  | blockStatement only =>
    cases only with
    | block =>
      exact List.forall_mem_singleton.mpr fun ends => absurd ends (Tree.not_endsOpen rfl rfl)
  | emptyStatement | expressionStatement | variableStatement | functionDeclaration | doStatement
  | returnStatement | throwStatement | breakStatement | continueStatement | tryStatement
  | switchStatement =>
    exact List.forall_mem_singleton.mpr fun ends => absurd ends (Tree.not_endsOpen rfl rfl)
  | _ => cases statement

/-- What the else part of a statement stands behind does not end open. -/
theorem elseNearest_of_derives (h : Derives n c .statementBody x [t] y) : t.ElseNearest := by
  intro condition whenTrue whenFalse branch
  cases h with
  | ifElse _ _ first other _ =>
    cases branch
    intro ends
    exact token_ne_else_of_endsOpen first rfl _ List.mem_cons_self ends other.token
  | blockStatement only => cases only; cases branch
  | _ => cases branch

theorem Tree.elseNearest_of_isBranch (h : t.isBranch = false) : t.ElseNearest := by
  intro condition whenTrue whenFalse branch
  obtain ⟨r, found, parts⟩ := Option.bind_eq_some_iff.mp branch
  rw [isBranch, found] at h
  cases r
  case branch => cases h
  all_goals cases parts

/-- No expression is a branch. -/
theorem isBranch_of_isExpression (h : Derives n c p x ts y) (expression : p.isExpression = true) :
    ∀ t ∈ ts, t.isBranch = false := by
  induction h with
  | oneExpression _ ih | plainAssignment _ ih | plainConditional _ ih | firstOperand _ ih
  | assignment _ _ ih | operand _ _ ih | plainUnary _ ih | base _ ih | constructionBase _ ih
  | templateOperand _ ih | calleeBase _ _ ih | calleeConstruction _ _ ih => exact ih rfl
  | comma | yieldAlone | yieldDelegate | yieldValue | arrow | assign | conditional | moreOperands
  | await | prefixed | postfixed | access | keyAccess | call | taggedText | taggedTemplate
  | construction | bareConstruction | name | word | literal | regex | parenthesized | array | object
  | functionValue | template => exact List.forall_mem_singleton.mpr rfl
  | _ => cases expression

namespace SourceTree

/-- **In every source that parses, an `else` belongs to the nearest branch that is open.** -/
theorem elseNearest_of_parse {file text : String} {s : SourceTree}
    (parsed : parse file text = .ok s) (id : NodeId) : s.arena.ElseNearest id := by
  have within : s.tree.Within (fun _ => Tree.ElseNearest) .outside := by
    refine within_of_parts (fun _ _ _ => Tree.elseNearest_of_isBranch) ?_ ?_ parsed
    · intro n c p x y t expression derived
      exact Tree.elseNearest_of_isBranch
        (isBranch_of_isExpression derived expression t List.mem_cons_self)
    · exact fun _ derived => elseNearest_of_derives derived
  rw [s.arena_eq]
  exact Tree.elseNearest_ofTree (formed_of_parse parsed) within.everywhere id

/-- Branches in loops and behind labels, with as many else parts as there can be. -/
theorem elseNearest_of_parse_nested : ∃ s,
    parse "Nested.js"
        "if (a) while (b) c: if (d) for (;;) if (e) f; else g; else h; else i" = .ok s ∧
      ∀ id, s.arena.ElseNearest id :=
  exists_of_any (q := fun _ => true) (by decide +kernel) fun _ parsed _ =>
    elseNearest_of_parse parsed

end SourceTree

end Shapewire
