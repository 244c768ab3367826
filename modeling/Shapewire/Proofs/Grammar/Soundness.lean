/-
What the parser builds is derived.

The productions are derived where the parts they reach through their descent are, and the descent
has a budget: `faithful_parseAt` ties the knot by induction on it.  `Tree.derives_parse` says of a
whole source that it is a list of statements up to its end.
-/
import Shapewire.Proofs.Grammar.Soundness.Statement

namespace Shapewire

namespace Parser

theorem derives_production {d : Descent} (faithful : d.Faithful) (part : Nonterminal) {n : Nat}
    {c : Context} {x : Place} :
    Leads n c x (production d part) fun t y => Derives n c part.part x [t] y := by
  cases part with
  | statement =>
    exact .nested fun room => (d.derives_statementBody faithful).mono fun t y => .statement room
  | assignment =>
    exact .nested fun room => (d.derives_assignmentBody faithful).mono fun t y => .assignment room
  | operand min => exact d.derives_operand faithful min
  | unary => exact d.derives_unary faithful
  | construction => exact d.derives_construction faithful

/-- Whatever the budget, what the parser builds is derived. -/
theorem faithful_parseAt (turns budget : Nat) : (Descent.mk turns (parseAt budget)).Faithful := by
  induction budget generalizing turns with
  | zero => exact fun _ => .throw
  | succ budget ih => exact fun part => derives_production (ih (budget + 1)) part

theorem leads_source (file : String) (text : List Char) :
    Leads 0 {} ⟨.ofText text, 0⟩ (source file text) fun t y => ∃ ts,
      Derives 0 {} .statements (.start text) ts y ∧ y.token = .endOfFile ∧
        t = .node .sourceFile .none ⟨0, Text.byteLength text⟩ (some (.sourceFile file ts)) := by
  have question (x : Place) : Leads 0 {} x sourceGoesOn
      fun goesOn y => y = x ∧ (goesOn = false → x.token = .endOfFile) :=
    .isToken fun ends is => .pure ⟨rfl, fun no => is.mp (by simpa using no)⟩
  have statements := Descent.derives_statements (faithful_parseAt 0 (budget text.length)) question
    (x := .start text) (budget text.length + 1)
  exact .step (statements.bind fun ts y ⟨read, ended⟩ => .pure ⟨ts, read, ended, rfl⟩)

end Parser

/-- **A source that parses is a list of statements up to its end.** -/
theorem Tree.derives_parse {file : String} {text : List Char} {t : Tree}
    (parsed : Tree.parse file text = .ok t) : ∃ ts y,
      Derives 0 {} .statements (.start text) ts y ∧ y.token = .endOfFile ∧
        t = .node .sourceFile .none ⟨0, Text.byteLength text⟩ (some (.sourceFile file ts)) := by
  unfold Tree.parse at parsed
  split at parsed
  · rename_i built
    cases parsed
    obtain ⟨y, -, ts, derived⟩ := Parser.leads_source file text _ _ built
    exact ⟨ts, y, derived⟩
  · cases parsed

end Shapewire
