/-
The budget of a source lasts to its end.

Every turn through the descent takes one from the budget and opens one part of the grammar, so what
a production needs before its first token is what the parts that open within it need, and one more
(`serves_parseAt`).  A source starts with five for every character and five more, which pays for
every opening.  So a source that does not parse has a fault, and never merely takes too long
(`Parser.source_ne_exhausted`).
-/
import Shapewire.Proofs.Grammar.Lasting.Productions

namespace Shapewire

namespace Parser

variable {text : List Char}

theorem lasts_production {d : Descent} {budget n : Nat} (serves : d.Serves text budget)
    (part : Nonterminal) {c : Context} {x : Place} (room : x.Roomy text budget part.rank) :
    Lasts n c x (production d part) := by
  cases part with
  | statement => exact .nested (d.lasts_statementBody serves room)
  | assignment => exact .nested (d.lasts_assignmentBody serves room)
  | operand min => exact d.lasts_operand serves room
  | unary => exact d.lasts_unary serves room
  | construction => exact d.lasts_construction serves room

/-- A budget lasts for every part of the grammar for which there is room. -/
theorem serves_parseAt (text : List Char) (budget : Nat) :
    (Descent.mk (budget + 1) (parseAt budget)).Serves text budget where
  faithful := faithful_parseAt _ _
  turns := Nat.lt_succ_self budget
  parse := by
    induction budget with
    | zero =>
      intro part n c x room
      exact absurd room.room (by omega)
    | succ budget ih =>
      intro part n c x room
      have serves : (Descent.mk (budget + 1) (parseAt budget)).Serves text budget :=
        ⟨faithful_parseAt _ _, Nat.lt_succ_self budget, ih⟩
      exact lasts_production serves part ⟨room.sound, Nat.le_of_succ_le_succ room.room⟩

theorem roomy_start (text : List Char) : (Place.start text).Roomy text (budget text.length) 5 := by
  have within : (Place.start text).left ≤ text.length :=
    (Scanner.reaches_start_scan (.ofText text)).1.length_le
  exact ⟨Place.sound_start text, by unfold budget; omega⟩

/-- **Reading a source never runs out of its budget.** -/
theorem source_ne_exhausted (file : String) (text : List Char) (s : ParserState) :
    (source file text).run (initial text) ≠ .error .exhausted s := by
  have room := roomy_start text
  have serves := serves_parseAt text (budget text.length)
  have begins : Leads 0 {} ⟨.ofText text, 0⟩ advance fun _ y => y = .start text := by
    rw [← bind_pure advance]
    exact .step (.pure rfl)
  have lasts : Lasts 0 {} ⟨.ofText text, 0⟩ (source file text) := by
    refine Frugal.advance.lasts.bind begins ?_
    rintro _ _ rfl
    refine Lasts.before (Descent.lasts_statements serves room ?_ fun _ => ?_) fun _ => .pure
    · exact .bind .isToken fun _ => .pure
    · exact .isToken fun _ _ => .pure rfl
  exact lasts s

end Parser

/-- A source that does not parse has a fault where the parser stops. -/
theorem Tree.exists_fault_of_parse {file : String} {text : List Char} {e : ParseError}
    (failed : Tree.parse file text = .error e) : ∃ s,
      (Parser.source file text).run (Parser.initial text) = .error (.fault e.fault) s ∧
        e.file = file := by
  unfold Tree.parse at failed
  split at failed
  · cases failed
  · rename_i stop s stopped
    cases failed
    cases stop with
    | fault f => exact ⟨s, stopped, rfl⟩
    | exhausted => exact absurd stopped (Parser.source_ne_exhausted file text s)

end Shapewire
