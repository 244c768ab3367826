/-
Sources with the same tokens are read alike.

Every part of the grammar agrees with itself, whatever the budgets of the two sides
(`agrees_parseAt`, by induction on both).  Both budgets last, so of two sources that are read
alike either both have a tree, and the trees are the same but for where their nodes lie, or both
have a fault, and the faults say the same (`Tree.parse_alike`).
-/
import Shapewire.Proofs.Grammar.Agreement.Productions
import Shapewire.Proofs.Grammar.Lasting

namespace Shapewire

namespace Parser

theorem agree_production {d d' : Descent} (agrees : d.Agrees d') (part : Nonterminal) :
    Agree Tree.Alike (production d part) (production d' part) := by
  cases part with
  | statement => exact .nested (Descent.agree_statementBody agrees)
  | assignment => exact .nested (Descent.agree_assignmentBody agrees)
  | operand min => exact Descent.agree_operand agrees min
  | unary => exact Descent.agree_unary agrees
  | construction => exact Descent.agree_construction agrees

/-- The parts of the grammar agree whatever the budgets. -/
theorem agrees_parseAt (turns turns' budget budget' : Nat) :
    (Descent.mk turns (parseAt budget)).Agrees ⟨turns', parseAt budget'⟩ := by
  induction budget, budget' using Agree.spend generalizing turns turns' with
  | left => exact fun _ => .exhausted
  | right => exact fun _ => .exhausted'
  | both budget budget' ih => exact agree_production (ih (budget + 1) (budget' + 1))

/-- Sources whose first tokens are alike end alike. -/
theorem source_alike (file : String) {text text' : List Char}
    (first : (Scanner.ofText text).scan.Alike (Scanner.ofText text').scan) :
    EndAlike Tree.Alike ((source file text).run (initial text))
      ((source file text').run (initial text')) := by
  have agrees := agrees_parseAt 0 0 (budget text.length) (budget text'.length)
  have rest : Agree Tree.Alike
      (checkToken >>= fun _ =>
        repeatWhile (budget text.length + 1) sourceGoesOn (parseAt (budget text.length) .statement)
          >>= fun statements => pure (.node .sourceFile .none ⟨0, Text.byteLength text⟩
            (some (.sourceFile file statements))))
      (checkToken >>= fun _ =>
        repeatWhile (budget text'.length + 1) sourceGoesOn
          (parseAt (budget text'.length) .statement)
          >>= fun statements => pure (.node .sourceFile .none ⟨0, Text.byteLength text'⟩
            (some (.sourceFile file statements)))) := by
    refine .same .checkToken fun _ => .bind (.repeatWhile ?_ (agrees .statement)) ?_
    · exact .same .isToken fun _ => .pure rfl
    · exact fun _ _ statements => .pure (.node (.sourceFile statements))
  have moved : (ParserState.Alike
      ⟨(Scanner.ofText text).scan, (Scanner.ofText text).tokenEnd, 0, {}, ()⟩
      ⟨(Scanner.ofText text').scan, (Scanner.ofText text').tokenEnd, 0, {}, ()⟩) := ⟨first, rfl, rfl⟩
  exact rest _ _ moved

end Parser

/-- **Sources whose tokens are read alike parse alike.** -/
theorem Tree.parse_alike (file : String) {text text' : List Char}
    (first : (Scanner.ofText text).scan.Alike (Scanner.ofText text').scan) :
    (∃ t t', Tree.parse file text = .ok t ∧ Tree.parse file text' = .ok t' ∧ t.Alike t') ∨
      ∃ f f', Tree.parse file text = .error ⟨file, f⟩ ∧ Tree.parse file text' = .error ⟨file, f'⟩ ∧
        f.Alike f' := by
  have ends := Parser.source_alike file first
  have lasts := Parser.source_ne_exhausted file text
  have lasts' := Parser.source_ne_exhausted file text'
  unfold Tree.parse
  generalize (Parser.source file text).run (Parser.initial text) = r,
    (Parser.source file text').run (Parser.initial text') = r' at ends lasts lasts'
  cases ends with
  | ok same => exact .inl ⟨_, _, rfl, rfl, same⟩
  | fault same => exact .inr ⟨_, _, rfl, rfl, same⟩
  | left => exact absurd rfl (lasts _)
  | right => exact absurd rfl (lasts' _)

end Shapewire
