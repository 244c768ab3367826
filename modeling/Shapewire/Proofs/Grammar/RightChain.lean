/-
How far binary nodes reach down their right operands.

Only some calls of the parser count towards the limit on nesting, and that of a right operand is
none of them.  What bounds a chain of right operands is the grammar itself: there is one comma at
most, every assignment is one construct deeper, and an operator's right operand holds tighter
operators only (`leans_of_derives`).  The exception is the power.  It is taken from the right, so
its right operand may hold powers again, and nothing bounds their number.

So in every source that parses a chain has no more than `2 * maxNesting` nodes before those that are
powers (`SourceTree.rightChain_split_of_parse`).
-/
import Shapewire.Proofs.Grammar.Everywhere
import Shapewire.Proofs.Grammar.Kinded

namespace Shapewire

open Shapewire.Tree (Leans)

/-- How many binary nodes there are at most down the right operands of a part that is one operand or
operation, before there are powers only. -/
def Part.reach? (n : Nat) : Part → Option Nat
  | .expression | .assignmentBody => some (10 + (maxNesting - n))
  | .assignment => some (9 + (maxNesting - n))
  | .conditional => some 10
  | .operand least | .operands least => some (10 - least)
  | .unary | .suffixed _ | .construction | .primary | .template => some 0
  | _ => none

/-- The trees of a part reach no further than the part says. -/
theorem leans_of_derives {n : Nat} {c : Context} {p : Part} {x y : Place} {ts : List Tree}
    (h : Derives n c p x ts y) : ∀ k ∈ p.reach? n, ∀ t ∈ ts, t.Leans k := by
  induction h with
  -- Binary nodes: the right operand reaches one node less.
  | comma _ _ _ _ ih | assign _ _ _ _ _ ih =>
    rintro _ ⟨⟩
    have right := ih _ rfl _ List.mem_cons_self
    refine List.forall_mem_singleton.mpr ?_
    exact (Leans.other rfl right).mono (by omega)
  | @moreOperands n c least x l y k z r u _ _ binds _ _ ih =>
    rintro _ ⟨⟩
    have right := ih _ rfl _ List.mem_cons_self
    refine List.forall_mem_singleton.mpr ?_
    by_cases power : k = .power
    · -- Of the operators only the power is tighter than the minimum of its right operand.
      subst power
      exact .power rfl right
    · have tight := Descent.precedence_le_ten (c := c) power
      rw [Descent.rightMinimum, if_neg power] at right
      exact (Leans.other rfl right).mono (by omega)
  -- Looser parts that are tighter ones; an assignment is one construct deeper.
  | oneExpression _ ih | assignment _ _ ih | plainAssignment _ ih | firstOperand _ ih =>
    rintro _ ⟨⟩
    exact fun t mem => (ih _ rfl t mem).mono (by omega)
  | plainConditional _ ih | operand _ _ ih | plainUnary _ ih | base _ ih | constructionBase _ ih
  | templateOperand _ ih | calleeBase _ _ ih | calleeConstruction _ _ ih => exact ih
  -- Other nodes
  | yieldAlone | yieldDelegate | yieldValue | arrow | conditional | await | prefixed | postfixed
  | access | keyAccess | call | taggedText | taggedTemplate | construction | bareConstruction
  | name | word | literal | regex | parenthesized | array | object | functionValue | template =>
    exact fun _ _ => List.forall_mem_singleton.mpr (.plain rfl)
  | _ => exact nofun

namespace SourceTree

/-- No node reaches further than a part at depth zero. -/
theorem everywhere_leans_of_parse {file text : String} {s : SourceTree}
    (parsed : parse file text = .ok s) : s.tree.Everywhere (Leans (10 + maxNesting)) := by
  refine everywhere_of_parse (fun _ other => .plain (Tree.binary?_of_isOperation other)) ?_ parsed
  intro n c p x y t expression derived
  obtain ⟨k, reach, le⟩ : ∃ k, p.reach? n = some k ∧ k ≤ 10 + maxNesting := by
    cases p <;> first | exact ⟨_, rfl, by omega⟩ | cases expression
  exact (leans_of_derives derived k reach t List.mem_cons_self).mono le

/-- **In every source that parses, a chain of right operands has `2 * maxNesting` nodes at most
before there are powers only.** -/
theorem rightChain_split_of_parse {file text : String} {s : SourceTree}
    (parsed : parse file text = .ok s) {ids : List NodeId} (chain : s.arena.RightChain ids) :
    ∃ front powers, ids = front ++ powers ∧ front.length ≤ 2 * maxNesting ∧
      ∀ id ∈ powers, s.arena.operator? id = some (.token .power) := by
  have everywhere := everywhere_leans_of_parse parsed
  have formed := formed_of_parse parsed
  rw [s.arena_eq] at chain ⊢
  cases ids with
  | nil => exact ⟨[], [], rfl, Nat.zero_le _, nofun⟩
  | cons id ids =>
    obtain ⟨x, mem, rfl⟩ :=
      Tree.exists_site_of_operator? formed (chain.binary id List.mem_cons_self)
    have widest : 10 + maxNesting ≤ 2 * maxNesting := by decide
    have leans := (everywhere.of_mem_postorder mem).mono widest
    refine leans.split formed mem ?_ chain
    rintro _ ⟨⟩
    rfl

/-- An assignment and a sum are before the powers. -/
theorem rightChain_split_of_parse_assignment : ∃ s,
    parse "Power.js" "a = b + 2 ** c ** d" = .ok s ∧ s.arena.RightChain [8, 7, 6, 5] ∧
      ∃ front powers, [8, 7, 6, 5] = front ++ powers ∧ front.length ≤ 2 * maxNesting ∧
        ∀ id ∈ powers, s.arena.operator? id = some (.token .power) :=
  exists_of_any (q := fun s => decide (s.arena.RightChain [8, 7, 6, 5])) (by decide +kernel)
    fun _ parsed chain =>
      ⟨of_decide_eq_true chain, rightChain_split_of_parse parsed (of_decide_eq_true chain)⟩

end SourceTree

end Shapewire
