/-
Operators nest by precedence and associativity.

The parser climbs: an operand is read with the precedence that its operators must exceed, and more
operators are taken from the left for as long as they do.  So what is read as a part is on the
layers of that part (`layer_of_derives`).  That alone leaves the left operand of an operator free to
be anything that was read up to there.  But the right operand of an operation is read until no
tighter operator follows, and the operator behind the operation is one of those that do not bind
more tightly (`precedence_behind`).  A power is read with a minimum one below its own precedence, so
that it takes powers on its right, and none is left to follow it.

With both, the operands of every operation are where they may be, and so it is in every source that
parses (`SourceTree.wellNested_of_parse`).
-/
import Shapewire.Proofs.Grammar.Everywhere
import Shapewire.Proofs.Grammar.Kinded
import Shapewire.Proofs.Tree.Layer

namespace Shapewire

open Shapewire.Descent (precedence rightMinimum)

variable {n : Nat} {c : Context} {p : Part} {x y : Place} {t : Tree} {ts : List Tree}

/-- What is an operator in a context has the precedence that it has where `in` is one. -/
theorem Descent.precedence_eq {k : TokenKind} (binds : 0 < precedence c k) :
    precedence c k = precedence {} k := by
  cases k
  case inKeyword =>
    simp only [precedence] at binds ⊢
    split at binds
    · exact absurd binds (Nat.lt_irrefl 0)
    · rename_i isOperator
      simp [isOperator]
  all_goals rfl

theorem Descent.rightMinimum_le (k : TokenKind) (p : Nat) : rightMinimum k p ≤ p := by
  unfold rightMinimum
  split
  · exact Nat.sub_le p 1
  · exact Nat.le_refl p

/-- No right operand is without powers. -/
theorem Descent.rightMinimum_lt_power (c : Context) (k : TokenKind) :
    rightMinimum k (precedence c k) < precedence c .power := by
  by_cases power : k = .power
  · subst power
    exact Nat.lt_succ_self 10
  · have other := Descent.precedence_le_ten (c := c) power
    exact Nat.lt_succ_of_le (Nat.le_trans (Descent.rightMinimum_le k _) other)

/-- The layers of the trees of a part, if the part is one expression. -/
def Part.layers? : Part → Option (Layer → Prop)
  | .expression => some fun _ => True
  | .assignment | .assignmentBody => some (· ≠ .comma)
  | .conditional => some fun l => l = .conditional ∨ l.BindsFrom 1
  | .operand least | .operands least => some (·.BindsFrom (least + 1))
  | .unary | .suffixed _ | .construction | .primary | .template => some (· = .tight)
  | _ => none

/-- What is tighter than an assignment is none of the loose layers. -/
theorem Layer.not_loose_of_bindsFrom {l : Layer} (h : l = .conditional ∨ l.BindsFrom 1) :
    l ≠ .assignment ∧ l ≠ .comma ∧ l ≠ .arrow ∧ l ≠ .yielding := by
  rcases h with rfl | h
  · decide
  · rcases h.cases with ⟨o, rfl, -⟩ | rfl
    · exact ⟨nofun, nofun, nofun, nofun⟩
    · exact ⟨nofun, nofun, nofun, nofun⟩

/-- **The trees of a part are on the layers of the part.** -/
theorem layer_of_derives (h : Derives n c p x ts y) :
    ∀ admits ∈ p.layers?, ∀ t ∈ ts, ∃ l, t.layer? = some l ∧ admits l := by
  induction h with
  -- Looser parts that are tighter ones
  | oneExpression _ ih =>
    rintro _ ⟨⟩ t mem
    obtain ⟨l, layer, -⟩ := ih _ rfl t mem
    exact ⟨l, layer, trivial⟩
  | plainAssignment _ ih =>
    rintro _ ⟨⟩ t mem
    obtain ⟨l, layer, is⟩ := ih _ rfl t mem
    exact ⟨l, layer, (Layer.not_loose_of_bindsFrom is).2.1⟩
  | plainConditional _ ih =>
    rintro _ ⟨⟩ t mem
    obtain ⟨l, layer, is⟩ := ih _ rfl t mem
    exact ⟨l, layer, .inr is⟩
  | firstOperand _ ih =>
    rintro _ ⟨⟩ t mem
    obtain ⟨_, layer, rfl⟩ := ih _ rfl t mem
    exact ⟨.tight, layer, trivial⟩
  | assignment _ _ ih | operand _ _ ih | plainUnary _ ih | base _ ih | constructionBase _ ih
  | templateOperand _ ih | calleeBase _ _ ih | calleeConstruction _ _ ih => exact ih
  -- Operations on a layer of their own
  | comma =>
    rintro _ ⟨⟩
    exact List.forall_mem_singleton.mpr ⟨_, rfl, trivial⟩
  | yieldAlone | yieldDelegate | yieldValue | arrow =>
    rintro _ ⟨⟩
    exact List.forall_mem_singleton.mpr ⟨_, rfl, nofun⟩
  | assign _ _ assigns =>
    rintro _ ⟨⟩
    refine List.forall_mem_singleton.mpr ⟨.assignment, ?_, nofun⟩
    exact congrArg some (Layer.ofOperator_of_isAssignment assigns)
  | conditional =>
    rintro _ ⟨⟩
    exact List.forall_mem_singleton.mpr ⟨_, rfl, .inl rfl⟩
  | @moreOperands n c least x l y k z r u _ _ binds =>
    rintro _ ⟨⟩
    have above := Nat.lt_of_lt_of_le binds (Descent.precedence_le c k)
    refine List.forall_mem_singleton.mpr ⟨.operator k, ?_, above⟩
    exact congrArg some (Layer.ofOperator_of_precedence (Nat.zero_lt_of_lt above))
  -- Other nodes
  | await | prefixed | postfixed | access | keyAccess | call | taggedText | taggedTemplate
  | construction | bareConstruction | name | word | literal | regex | parenthesized | array | object
  | functionValue | template =>
    rintro _ ⟨⟩
    exact List.forall_mem_singleton.mpr ⟨_, rfl, rfl⟩
  | _ => exact nofun

/-- An operator behind an operation is none of those that the operation has in its right operand. -/
theorem precedence_behind {least : Nat} {o : TokenKind} (h : Derives n c (.operands least) x [t] y)
    (layer : t.layer? = some (.operator o)) :
    precedence c y.token ≤ rightMinimum o (precedence c o) := by
  cases h with
  | firstOperand first =>
    obtain ⟨l, layer', rfl⟩ := layer_of_derives first _ rfl t List.mem_cons_self
    rw [layer] at layer'
    cases layer'
  | @moreOperands _ _ _ _ _ _ k _ _ _ _ _ binds right =>
    have above := Nat.lt_of_lt_of_le binds (Descent.precedence_le c k)
    have own := Layer.ofOperator_of_precedence (Nat.zero_lt_of_lt above)
    obtain rfl : k = o := by
      have same : some (Layer.ofOperator k) = some (.operator o) := layer
      rw [own] at same
      cases same
      rfl
    cases right with
    | operand _ ends => exact ends

/-- The operands of an operator, as the parser reads them, are on layers that it stands between. -/
theorem between_of_moreOperands {least : Nat} {y z u : Place} {l r : Tree} {k : TokenKind}
    (left : Derives n c (.operands least) x [l] y) (mark : y.Takes k z)
    (binds : least < precedence c k)
    (right : Derives n c (.operand (rightMinimum k (precedence c k))) z [r] u) :
    ∃ L R, l.layer? = some L ∧ r.layer? = some R ∧ Layer.Between k L R := by
  obtain ⟨L, leftLayer, leftBinds⟩ := layer_of_derives left _ rfl l List.mem_cons_self
  obtain ⟨R, rightLayer, rightBinds⟩ := layer_of_derives right _ rfl r List.mem_cons_self
  have behind {o : TokenKind} (is : L = .operator o) :
      precedence c k ≤ rightMinimum o (precedence c o) := by
    rw [← mark.token]
    exact precedence_behind left (is ▸ leftLayer)
  refine ⟨L, R, leftLayer, rightLayer, ?_⟩
  by_cases power : k = .power
  · subst power
    refine .power ?_ ?_
    · rcases leftBinds.cases with ⟨o, is, -⟩ | tight
      · exact absurd (behind is) (Nat.not_le_of_lt (Descent.rightMinimum_lt_power c o))
      · exact tight
    · rcases rightBinds.cases with ⟨o, is, above⟩ | tight
      · have isPower : o = .power := by
          by_contra other
          exact absurd (Descent.precedence_le_ten (c := {}) other) (Nat.not_le_of_lt above)
        exact .inl (isPower ▸ is)
      · exact .inr tight
  · have same := Descent.precedence_eq (Nat.zero_lt_of_lt binds)
    rw [rightMinimum, if_neg power, same] at rightBinds
    refine .operator (same ▸ Nat.zero_lt_of_lt binds) power ?_ rightBinds
    rcases leftBinds.cases with ⟨o, is, -⟩ | tight
    · rw [is]
      calc precedence {} k
        _ = precedence c k := same.symm
        _ ≤ rightMinimum o (precedence c o) := behind is
        _ ≤ precedence c o := Descent.rightMinimum_le o _
        _ ≤ precedence {} o := Descent.precedence_le c o
    · rw [tight]
      trivial

/-- **The operands of an expression are on layers where they may be.** -/
theorem wellNested_of_derives (h : Derives n c p x ts y) (expression : p.isExpression = true) :
    ∀ t ∈ ts, t.WellNested := by
  induction h with
  -- Binary nodes
  | comma left _ right =>
    obtain ⟨L, leftLayer, -⟩ := layer_of_derives left _ rfl _ List.mem_cons_self
    obtain ⟨R, rightLayer, notComma⟩ := layer_of_derives right _ rfl _ List.mem_cons_self
    exact List.forall_mem_singleton.mpr (.binary leftLayer rightLayer (.comma notComma))
  | assign left _ assigns right =>
    obtain ⟨L, leftLayer, tighter⟩ := layer_of_derives left _ rfl _ List.mem_cons_self
    obtain ⟨R, rightLayer, notComma⟩ := layer_of_derives right _ rfl _ List.mem_cons_self
    have target := Layer.not_loose_of_bindsFrom tighter
    exact List.forall_mem_singleton.mpr
      (.binary leftLayer rightLayer (.assignment assigns target notComma))
  | moreOperands left mark binds right =>
    obtain ⟨L, R, leftLayer, rightLayer, between⟩ := between_of_moreOperands left mark binds right
    exact List.forall_mem_singleton.mpr (.binary leftLayer rightLayer between)
  -- Operations with one operand
  | await _ _ _ _ operand | prefixed _ _ _ operand | postfixed operand | access operand
  | keyAccess operand | call operand | taggedText operand | taggedTemplate operand
  | construction _ operand | bareConstruction _ operand =>
    obtain ⟨_, layer, rfl⟩ := layer_of_derives operand _ rfl _ List.mem_cons_self
    exact List.forall_mem_singleton.mpr (.operation rfl rfl layer)
  -- Parts that are other parts
  | oneExpression _ ih | plainAssignment _ ih | plainConditional _ ih | firstOperand _ ih
  | assignment _ _ ih | operand _ _ ih | plainUnary _ ih | base _ ih | constructionBase _ ih
  | templateOperand _ ih | calleeBase _ _ ih | calleeConstruction _ _ ih => exact ih rfl
  -- Other nodes
  | yieldAlone | yieldDelegate | yieldValue | arrow | conditional | name | word | literal | regex
  | parenthesized | array | object | functionValue | template =>
    exact List.forall_mem_singleton.mpr (.other rfl rfl)
  | _ => cases expression

theorem Tree.wellNested_of_isOperation (h : t.isOperation = false) : t.WellNested := by
  refine .other (Tree.binary?_of_isOperation h) ?_
  rw [isOperation, Bool.or_eq_false_iff] at h
  unfold tightOperand?
  cases form : t.record? with
  | none => rfl
  | some r =>
    rw [form] at h
    cases r
    case wrapped =>
      refine if_neg fun awaits => ?_
      rw [awaits] at h
      cases h.1
    all_goals first | rfl | cases h.2

namespace SourceTree

/-- **In every source that parses, operators nest by precedence and associativity.** -/
theorem wellNested_of_parse {file text : String} {s : SourceTree} (parsed : parse file text = .ok s)
    (id : NodeId) : s.arena.WellNested id := by
  have everywhere : s.tree.Everywhere Tree.WellNested := by
    refine everywhere_of_parse (fun _ => Tree.wellNested_of_isOperation) ?_ parsed
    intro n c p x y t expression derived
    exact wellNested_of_derives derived expression t List.mem_cons_self
  rw [s.arena_eq]
  exact Tree.wellNested_ofTree (formed_of_parse parsed) everywhere id

/-- Sums, products and powers under a conditional, an assignment and a comma. -/
theorem wellNested_of_parse_powers : ∃ s,
    parse "Nested.js" "a = b - c - d * e ** 2 ** f ? -g : h, i = await_ in j" = .ok s ∧
      ∀ id, s.arena.WellNested id :=
  exists_of_any (q := fun _ => true) (by decide +kernel) fun _ parsed _ =>
    wellNested_of_parse parsed

end SourceTree

end Shapewire
