/-
The table that is filled while a source is read is the table of its tree.

Every part of the grammar fills the table with the tree it reads, whatever the table was before
(`fills_parseAt`, by induction on the budget).  For a whole source that means: it is given up with
the same error whether trees are put together or a table is filled, and otherwise the table holds
the nodes of the tree and nothing else, its root last (`Arena.parse_eq`).
-/
import Shapewire.Proofs.Grammar.Filling.Productions
import Shapewire.Proofs.Grammar.Formed

namespace Shapewire

namespace Parser

theorem fills_production {d : Descent} {d' : Descent Arena NodeId} (fills : d.Fills d')
    (part : Nonterminal) (a : Arena) :
    Fills a (production d part) (production d' part) (Pending a) := by
  cases part with
  | statement => exact .nested (Descent.fills_statementBody fills)
  | assignment => exact .nested (Descent.fills_assignmentBody fills)
  | operand min => exact Descent.fills_operand fills min
  | unary => exact Descent.fills_unary fills
  | construction => exact Descent.fills_construction fills

/-- **Every part of the grammar fills the table with the tree it reads**, and leaves no other node
there. -/
theorem fills_parseAt (budget : Nat) (part : Nonterminal) (a : Arena) :
    Fills a (parseAt budget part) (parseAt budget part) (Pending a) := by
  induction budget generalizing part a with
  | zero => exact .exhausted
  | succ budget ih => exact fills_production ⟨rfl, ih⟩ part a

/-- **Whatever part of the grammar has been read, of the nodes that it added to the table just the
one it hands on has no parent**, and all that were there before have the parents they had. -/
theorem attaches_parseAt {budget : Nat} {part : Nonterminal} {s t : ParserState Arena}
    {root : NodeId} (slotted : s.built.Slotted) (read : parseAt budget part s = .ok root t) :
    s.built.Attaches t.built [root] := by
  have ends : EndsFilled (Pending s.built) (parseAt budget part (s.over ()))
      (parseAt budget part s) := fills_parseAt budget part s.built (s.over ())
  rw [read] at ends
  generalize tree : parseAt budget part (s.over ()) = r at ends
  cases ends with
  | ok pending => exact pending.attaches slotted (formed_parseAt budget part _ _ _ tree)

theorem fills_source (file : String) (text : List Char) (a : Arena) :
    Fills a (source file text) (source file text) (Pending a) := by
  refine .same .advance fun _ => .bind (.repeatWhile rfl (fills_parseAt _ .statement) ?_) ?_
  · exact fun _ => .same .isToken fun _ => .pure ⟨rfl, rfl⟩
  · exact fun _ _ _ statements => .add (.sourceFile statements)

end Parser

namespace Arena

/-- A new table with a single tree is the table of the tree. -/
theorem grow_forSource (t : Tree) : forSource.grow [t] = ofTree t := by
  rw [grow, Tree.entriesOf, Tree.entriesOf, List.append_nil]
  rfl

/-- **Filling a table while reading a source gives the table of its tree**, with the root last, or
the error that reading the tree gives. -/
theorem parse_eq (file : String) (text : List Char) :
    parse file text = (Tree.parse file text).map fun t => (t.size - 1, ofTree t) := by
  have ends := Parser.fills_source file text forSource (Parser.initial text)
  unfold parse Tree.parse EStateM.run
  generalize Parser.source file text (Parser.initial text) = r,
    Parser.source file text ((Parser.initial text).over forSource) = r' at ends
  cases ends with
  | @ok t root _ b pending =>
    have none : forSource.size = 0 := rfl
    have last := pending.root_eq
    rw [none, Nat.zero_add] at last
    show Except.ok (root, b) = _
    rw [last, pending.grown, grow_forSource]
    rfl
  | error => rfl

end Arena

end Shapewire
