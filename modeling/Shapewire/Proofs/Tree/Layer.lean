/-
The layers of expressions, and which of them operands are on.

The grammar of expressions is built in layers: commas are the loosest, then come assignments, arrows
and `yield`, then conditionals, then the operators by their precedence, and what is tighter than
they all.  The layer of a node says what it is built by (`Layer`), and an operator says which layers
its operands are on (`Layer.Between`).

`Arena.WellNested` asks of a node of a table that its operands are on such layers, and
`Tree.WellNested` asks the same of a tree.
-/
import Shapewire.Proofs.Tree.RightChain
import Shapewire.Proofs.Tree.WellKinded

namespace Shapewire

/-- What an expression is built by. -/
inductive Layer where
  | comma | assignment | arrow | yielding | conditional
  /-- An operator with a precedence. -/
  | operator (o : TokenKind)
  /-- Something else, which is tighter than all of these. -/
  | tight
deriving DecidableEq, Repr

namespace Layer

/-- The layer of the operator of a binary node. -/
def ofOperator (o : TokenKind) : Layer :=
  if o = .comma then .comma else if o.isAssignment then .assignment else .operator o

/-- The layer of a node of a kind, with the operator that it has.  A binary node has one. -/
def of? (kind : NodeKind) (operator? : Option NodeKind) : Option Layer :=
  match kind, operator? with
  | .binary, some (.token o) => some (ofOperator o)
  | .binary, _ => none
  | .arrowFunction, _ => some .arrow
  | .yielding, _ => some .yielding
  | .conditional, _ => some .conditional
  | _, _ => some .tight

/-- An operation on this layer is one of an operator whose precedence is `least` at least. -/
def BindsFrom (least : Nat) : Layer → Prop
  | .operator o => least ≤ Descent.precedence {} o
  | .tight => True
  | _ => False

/-- An operator may stand between operands on these layers. -/
inductive Between : TokenKind → Layer → Layer → Prop where
  | comma (right : r ≠ .comma) : Between .comma l r
  | assignment (assigns : o.isAssignment = true)
    (left : l ≠ .assignment ∧ l ≠ .comma ∧ l ≠ .arrow ∧ l ≠ .yielding) (right : r ≠ .comma) :
    Between o l r
  /-- What has the same precedence stands on the left. -/
  | operator (binds : 0 < Descent.precedence {} o) (other : o ≠ .power)
    (left : l.BindsFrom (Descent.precedence {} o))
    (right : r.BindsFrom (Descent.precedence {} o + 1)) : Between o l r
  /-- Only another power stands on the right. -/
  | power (left : l = .tight) (right : r = .operator .power ∨ r = .tight) : Between .power l r

variable {o : TokenKind} {l : Layer} {least : Nat}

/-- An operator with a precedence neither lists nor assigns. -/
theorem ofOperator_of_precedence (binds : 0 < Descent.precedence {} o) :
    ofOperator o = .operator o := by
  cases o <;> first | rfl | exact absurd binds (Nat.lt_irrefl 0)

theorem ofOperator_of_isAssignment (assigns : o.isAssignment = true) :
    ofOperator o = .assignment := by
  cases o <;> first | rfl | cases assigns

theorem BindsFrom.cases (h : l.BindsFrom least) :
    (∃ o, l = .operator o ∧ least ≤ Descent.precedence {} o) ∨ l = .tight := by
  cases l with
  | operator o => exact .inl ⟨o, rfl, h⟩
  | tight => exact .inr rfl
  | _ => cases h

end Layer

/-- What the operands of a node are, where nodes are referred to by `ρ`: those on both sides of an
operator, and the operand of whatever takes one and no operation. -/
structure Nested {ρ : Type} (layer? : ρ → Option Layer) (binary? : Option (ρ × NodeKind × ρ))
    (tightOperand? : Option ρ) : Prop where
  /-- The operands of a binary node are on layers that its operator stands between. -/
  between : ∀ l o r, binary? = some (l, o, r) → ∃ k left right, o = .token k ∧
    layer? l = some left ∧ layer? r = some right ∧ Layer.Between k left right
  /-- Other operands are no operations. -/
  tight : ∀ e, tightOperand? = some e → layer? e = some .tight

namespace Record

variable {ρ ο ν ν' : Type}

/-- The operand before or behind which an operation stands that takes one: the operand of a prefix,
a postfix or an `await`, and what is accessed, called, constructed or tagged. -/
def tightOperand? (kind : NodeKind) (g : ο → Option ρ) : Record ρ ο ν → Option ρ
  | unary _ operand => some operand
  | access object _ _ => some object
  | call callee _ => some callee
  | taggedTemplate tag _ => some tag
  | wrapped operand => if kind = .awaiting then g operand else none
  | _ => none

theorem tightOperand?_rename (f : ν → ν') (kind : NodeKind) (g : ο → Option ρ)
    (r : Record ρ ο ν) : (r.rename f).tightOperand? kind g = r.tightOperand? kind g := by
  cases r
  case call callee arguments => cases arguments <;> rfl
  all_goals rfl

/-- The operand is the first child. -/
theorem tightOperand?_placed (kind : NodeKind) (start : Nat)
    (r : Record Tree (Option Tree) String) :
    (r.placed kind start).tightOperand? kind (Option.map some)
      = (r.tightOperand? kind id).map fun e => some (Site.id ⟨start, e⟩) := by
  cases r
  case call callee arguments => cases arguments <;> rfl
  case loop =>
    by_cases last : kind = .doStatement
    all_goals
      simp only [placed, mapM, last, if_true, if_false]
      rfl
  case wrapped operand =>
    simp only [placed, mapM, tightOperand?, bind_apply, pure_apply]
    split
    · cases operand <;> rfl
    · rfl
  all_goals rfl

end Record

/-! ### In a node table -/

namespace Arena

variable (a : Arena) (id : NodeId)

/-- The layer of the node at a place. -/
def layer? : Option Layer := (a.kindAt? id).bind fun kind => Layer.of? kind (a.operator? id)

/-- The operand of the node at a place, if the node takes one and no operation. -/
def tightOperand? : Option NodeRef :=
  (a.kindAt? id).bind fun kind => (a.record? id).bind (Record.tightOperand? kind (Option.map some))

/-- The operands of the node at a place are on layers where they may be. -/
def WellNested : Prop := Nested (Option.bind · a.layer?) (a.binary? id) (a.tightOperand? id)

variable {a id} in
/-- Where there is no node, there are no operands. -/
theorem wellNested_of_get? (none : a.get? id = none) : a.WellNested id where
  between l o r found := by simp [binary?, record?, none] at found
  tight e found := by simp [tightOperand?, kindAt?, none] at found

end Arena

/-! ### In a tree -/

namespace Tree

/-- The layer of the root. -/
def layer? (t : Tree) : Option Layer :=
  Layer.of? t.kind (t.binary?.map fun (_, operator, _) => operator)

/-- The operand of the root, if it takes one and no operation. -/
def tightOperand? (t : Tree) : Option Tree := t.record?.bind (Record.tightOperand? t.kind id)

/-- The operands of the root are on layers where they may be. -/
def WellNested (t : Tree) : Prop := Nested layer? t.binary? t.tightOperand?

namespace WellNested

variable {t l r e : Tree}

/-- A binary node. -/
theorem binary {k : TokenKind} {left right : Layer} {flags : NodeFlags} {span : Span}
    (leftLayer : l.layer? = some left) (rightLayer : r.layer? = some right)
    (between : Layer.Between k left right) :
    (node .binary flags span (some (.binary l (.token k) r))).WellNested where
  between := by
    rintro _ _ _ ⟨⟩
    exact ⟨k, left, right, rfl, leftLayer, rightLayer, between⟩
  tight := nofun

/-- A node that takes an operand and no operation. -/
theorem operation (binary : t.binary? = none) (form : t.tightOperand? = some e)
    (layer : e.layer? = some .tight) : t.WellNested where
  between l o r found := by
    rw [binary] at found
    cases found
  tight e' found := by
    rw [form] at found
    cases found
    exact layer

/-- A node without such operands. -/
theorem other (binary : t.binary? = none) (form : t.tightOperand? = none) : t.WellNested where
  between l o r found := by
    rw [binary] at found
    cases found
  tight e found := by
    rw [form] at found
    cases found

end WellNested

end Tree

namespace Site

variable {x : Site}

theorem left_mem_children_of_binary? {l r : Tree} {operator : NodeKind}
    (form : x.tree.binary? = some (l, operator, r)) : ⟨x.start, l⟩ ∈ x.children := by
  rw [children_of_binary? form]
  exact List.mem_cons_self

theorem mem_children_of_tightOperand? {e : Tree} (form : x.tree.tightOperand? = some e) :
    ⟨x.start, e⟩ ∈ x.children := by
  obtain ⟨record, found, operand⟩ := Option.bind_eq_some_iff.mp form
  rw [children_of_record? found]
  cases record
  case wrapped operand? =>
    obtain ⟨-, rfl⟩ : x.tree.kind = .awaiting ∧ operand? = some e := by
      simpa [Record.tightOperand?] using operand
    exact List.mem_cons_self
  all_goals cases operand
  all_goals exact List.mem_cons_self

end Site

namespace Tree

section ofTree

variable {t : Tree} (formed : t.Formed) {x : Site} (mem : x ∈ t.sites)

include formed mem

theorem layer?_ofTree : (Arena.ofTree t).layer? x.id = x.tree.layer? := by
  rw [Arena.layer?, kindAt?_ofTree formed mem, operator?_ofTree formed mem]
  rfl

theorem tightOperand?_ofTree : (Arena.ofTree t).tightOperand? x.id
    = x.tree.tightOperand?.map fun e => some (Site.id ⟨x.start, e⟩) := by
  rw [Arena.tightOperand?, kindAt?_ofTree formed mem]
  exact bind_record_ofTree formed mem (Record.tightOperand?_rename _ _ _)
    (Record.tightOperand?_placed _ _)

/-- A node of a table has its operands on the layers that they are on in the tree. -/
theorem wellNested_site (nested : x.tree.WellNested) : (Arena.ofTree t).WellNested x.id where
  between l o r found := by
    rw [binary?_ofTree formed mem, Option.map_eq_some_iff] at found
    obtain ⟨⟨left, operator, right⟩, form, is⟩ := found
    cases is
    have leftMem := Site.mem_postorder_of_child mem (Site.left_mem_children_of_binary? form)
    have rightMem := Site.mem_postorder_of_child mem (Site.mem_children_of_binary? form)
    obtain ⟨k, L, R, token, leftLayer, rightLayer, between⟩ := nested.between _ _ _ form
    refine ⟨k, L, R, token, ?_, ?_, between⟩
    · exact (layer?_ofTree formed leftMem).trans leftLayer
    · exact (layer?_ofTree formed rightMem).trans rightLayer
  tight e found := by
    rw [tightOperand?_ofTree formed mem, Option.map_eq_some_iff] at found
    obtain ⟨operand, form, rfl⟩ := found
    have operandMem := Site.mem_postorder_of_child mem (Site.mem_children_of_tightOperand? form)
    exact (layer?_ofTree formed operandMem).trans (nested.tight operand form)

omit mem in
/-- **If the operands are where they may be everywhere in a tree, they are so in its table.** -/
theorem wellNested_ofTree (each : t.Everywhere WellNested) (id : NodeId) :
    (Arena.ofTree t).WellNested id := by
  cases found : (Arena.ofTree t).get? id with
  | none => exact Arena.wellNested_of_get? found
  | some n =>
    obtain ⟨x, mem, rfl⟩ := exists_site_of_get? formed found
    exact wellNested_site formed mem (each.of_mem_postorder mem)

end ofTree

end Tree

end Shapewire
