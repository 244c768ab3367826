/-
Chains of right operands.

Every right operand of a binary node is read by a call of its own, so how far such nodes reach down
their right operands is how deep the parser went for them.  `Arena.RightChain` is a chain of them in
a node table.  On a tree, `Tree.Leans` bounds what such a chain may hold before only powers follow,
and `Tree.PowersDown` says that there are so many powers: the first is what every chain of the
table obeys, the second makes a chain of that length.
-/
import Mathlib.Data.List.Chain
import Shapewire.Proofs.Analysis.Reading

namespace Shapewire

namespace Record

variable {ρ ο ν ν' : Type}

/-- The operands of a binary operation, with the operator between them. -/
def binary? : Record ρ ο ν → Option (ρ × NodeKind × ρ)
  | binary left operator right => some (left, operator, right)
  | _ => none

theorem binary?_rename (f : ν → ν') (r : Record ρ ο ν) : (r.rename f).binary? = r.binary? := by
  cases r
  case call callee arguments => cases arguments <;> rfl
  all_goals rfl

theorem binary?_placed (kind : NodeKind) (start : Nat) (r : Record Tree (Option Tree) String) :
    (r.placed kind start).binary? = r.binary?.map fun (left, operator, right) =>
      (some (Site.id ⟨start, left⟩), operator, some (Site.id ⟨start + left.size, right⟩)) := by
  cases r
  case call callee arguments => cases arguments <;> rfl
  case loop =>
    -- Which of its parts a loop has first is up to its kind, but it is no binary operation.
    by_cases last : kind = .doStatement
    all_goals
      simp only [placed, mapM, last, if_true, if_false]
      rfl
  all_goals rfl

end Record

/-! ### In a node table -/

namespace Arena

variable (a : Arena)

/-- The operands of the binary node at a place, with the operator between them. -/
def binary? (id : NodeId) : Option (NodeRef × NodeKind × NodeRef) :=
  (a.record? id).bind Record.binary?

/-- The operator of the binary node at a place. -/
def operator? (id : NodeId) : Option NodeKind :=
  (a.binary? id).map fun (_, operator, _) => operator

/-- The right operand of the binary node at a place. -/
def rightOperand? (id : NodeId) : NodeRef := (a.binary? id).bind fun (_, _, right) => right

/-- Binary nodes of which each is the right operand of the one before. -/
structure RightChain (ids : List NodeId) : Prop where
  binary : ∀ id ∈ ids, (a.operator? id).isSome
  linked : ids.IsChain fun i j => a.rightOperand? i = some j

instance (ids : List NodeId) : Decidable (a.RightChain ids) :=
  decidable_of_iff ((∀ id ∈ ids, (a.operator? id).isSome) ∧
      ids.IsChain fun i j => a.rightOperand? i = some j)
    ⟨fun ⟨binary, linked⟩ => ⟨binary, linked⟩, fun h => ⟨h.binary, h.linked⟩⟩

variable {a}

theorem RightChain.nil : a.RightChain [] := ⟨nofun, .nil⟩

/-- A chain goes on with the right operand of its first node, if it goes on. -/
theorem rightChain_cons {id : NodeId} {ids : List NodeId} : a.RightChain (id :: ids) ↔
    (a.operator? id).isSome ∧ (∀ j ∈ ids.head?, a.rightOperand? id = some j) ∧
      a.RightChain ids := by
  constructor
  · intro h
    obtain ⟨next, linked⟩ := List.isChain_cons.mp h.linked
    exact ⟨h.binary id List.mem_cons_self, next, fun j mem => h.binary j (.tail id mem), linked⟩
  · rintro ⟨binary, next, rest⟩
    exact ⟨List.forall_mem_cons.mpr ⟨binary, rest.binary⟩,
      List.isChain_cons.mpr ⟨next, rest.linked⟩⟩

end Arena

/-! ### In a tree -/

namespace Tree

/-- The operands of the root, if it is a binary node, with the operator between them. -/
def binary? (t : Tree) : Option (Tree × NodeKind × Tree) := t.record?.bind Record.binary?

/-- Down the right operands there are `k` binary nodes at most before there are powers only. -/
inductive Leans : Nat → Tree → Prop where
  | plain {k : Nat} {t : Tree} (form : t.binary? = none) : Leans k t
  | power {k : Nat} {t l r : Tree} (form : t.binary? = some (l, .token .power, r))
    (right : Leans 0 r) : Leans k t
  | other {k : Nat} {t l r : Tree} {operator : NodeKind} (form : t.binary? = some (l, operator, r))
    (right : Leans k r) : Leans (k + 1) t

theorem Leans.mono {k k' : Nat} {t : Tree} (h : t.Leans k) (le : k ≤ k') : t.Leans k' := by
  induction h generalizing k' with
  | plain form => exact .plain form
  | power form right _ => exact .power form right
  | other form _ ih =>
    obtain ⟨k', rfl⟩ := Nat.exists_eq_add_of_le' (Nat.le_trans (Nat.le_add_left 1 _) le)
    exact .other form (ih (Nat.le_of_succ_le_succ le))

/-- Down the right operands there are `n` powers. -/
inductive PowersDown : Nat → Tree → Prop where
  | none {t : Tree} : PowersDown 0 t
  | more {n : Nat} {t l r : Tree} (form : t.binary? = some (l, .token .power, r))
    (right : PowersDown n r) : PowersDown (n + 1) t

end Tree

/-! ### From the one to the other -/

namespace Site

variable {x : Site}

/-- The children of a binary node are its operands. -/
theorem children_of_binary? {l r : Tree} {operator : NodeKind}
    (form : x.tree.binary? = some (l, operator, r)) :
    x.children = [⟨x.start, l⟩, ⟨x.start + l.size, r⟩] := by
  obtain ⟨record, found, binary⟩ := Option.bind_eq_some_iff.mp form
  cases record <;> cases binary
  exact children_of_record? found

/-- The right operand of a binary node lies behind the left one. -/
theorem mem_children_of_binary? {l r : Tree} {operator : NodeKind}
    (form : x.tree.binary? = some (l, operator, r)) : ⟨x.start + l.size, r⟩ ∈ x.children := by
  rw [children_of_binary? form]
  exact List.mem_cons_of_mem _ List.mem_cons_self

end Site

namespace Tree

section chain

variable {t : Tree} (formed : t.Formed) {x : Site} (mem : x ∈ t.sites)

include formed mem

theorem binary?_ofTree : (Arena.ofTree t).binary? x.id
    = x.tree.binary?.map fun (left, operator, right) => (some (Site.id ⟨x.start, left⟩), operator,
      some (Site.id ⟨x.start + left.size, right⟩)) :=
  bind_record_ofTree formed mem (Record.binary?_rename _) (Record.binary?_placed _ _)

theorem operator?_ofTree : (Arena.ofTree t).operator? x.id
    = x.tree.binary?.map fun (_, operator, _) => operator := by
  rw [Arena.operator?, binary?_ofTree formed mem, Option.map_map]
  rfl

theorem rightOperand?_ofTree {l r : Tree} {operator : NodeKind}
    (form : x.tree.binary? = some (l, operator, r)) :
    (Arena.ofTree t).rightOperand? x.id = some (Site.id ⟨x.start + l.size, r⟩) := by
  rw [Arena.rightOperand?, binary?_ofTree formed mem, form]
  rfl

omit mem in
theorem exists_site_of_operator? {id : NodeId}
    (binary : ((Arena.ofTree t).operator? id).isSome) : ∃ x ∈ t.sites, x.id = id := by
  cases found : (Arena.ofTree t).get? id with
  | none => simp [Arena.operator?, Arena.binary?, Arena.record?, found] at binary
  | some n => exact exists_site_of_get? formed found

/-- A chain that starts at a binary node goes on at its right operand. -/
theorem rightChain_ofTree {l r : Tree} {operator : NodeKind} {ids : List NodeId}
    (form : x.tree.binary? = some (l, operator, r)) :
    (Arena.ofTree t).RightChain (x.id :: ids) ↔
      (∀ j ∈ ids.head?, j = Site.id ⟨x.start + l.size, r⟩) ∧ (Arena.ofTree t).RightChain ids := by
  rw [Arena.rightChain_cons, operator?_ofTree formed mem, form,
    rightOperand?_ofTree formed mem form]
  simp [eq_comm]

omit mem in
/-- **A chain from a tree that leans so far has no more nodes before there are powers only.** -/
theorem Leans.split {k : Nat} {ids : List NodeId} (leans : x.tree.Leans k) (mem : x ∈ t.sites)
    (starts : ∀ id ∈ ids.head?, id = x.id) (chain : (Arena.ofTree t).RightChain ids) :
    ∃ front powers, ids = front ++ powers ∧ front.length ≤ k ∧
      ∀ id ∈ powers, (Arena.ofTree t).operator? id = some (.token .power) := by
  induction ids generalizing x k with
  | nil => exact ⟨[], [], rfl, Nat.zero_le k, nofun⟩
  | cons id ids ih =>
    obtain rfl := starts id rfl
    cases leans with
    | plain form =>
      have binary := (Arena.rightChain_cons.mp chain).1
      rw [operator?_ofTree formed mem, form] at binary
      cases binary
    | power form right =>
      obtain ⟨next, rest⟩ := (rightChain_ofTree formed mem form).mp chain
      have below := Site.mem_postorder_of_child mem (Site.mem_children_of_binary? form)
      obtain ⟨front, powers, rfl, short, all⟩ := ih right below next rest
      obtain rfl := List.eq_nil_of_length_eq_zero (Nat.le_zero.mp short)
      refine ⟨[], x.id :: powers, rfl, Nat.zero_le k, List.forall_mem_cons.mpr ⟨?_, all⟩⟩
      rw [operator?_ofTree formed mem, form]
      rfl
    | other form right =>
      obtain ⟨next, rest⟩ := (rightChain_ofTree formed mem form).mp chain
      have below := Site.mem_postorder_of_child mem (Site.mem_children_of_binary? form)
      obtain ⟨front, powers, rfl, short, all⟩ := ih right below next rest
      exact ⟨x.id :: front, powers, rfl, Nat.succ_le_succ short, all⟩

omit mem in
/-- A tree with so many powers down its right operands has a chain of them. -/
theorem PowersDown.exists_rightChain {n : Nat} (down : x.tree.PowersDown n) (mem : x ∈ t.sites) :
    ∃ ids : List NodeId, ids.length = n ∧ (∀ id ∈ ids.head?, id = x.id) ∧
      (Arena.ofTree t).RightChain ids := by
  induction n generalizing x with
  | zero => exact ⟨[], rfl, nofun, .nil⟩
  | succ n ih =>
    cases down with
    | more form right =>
      have below := Site.mem_postorder_of_child mem (Site.mem_children_of_binary? form)
      obtain ⟨ids, rfl, starts, chain⟩ := ih right below
      refine ⟨x.id :: ids, rfl, ?_, (rightChain_ofTree formed mem form).mpr ⟨starts, chain⟩⟩
      rintro _ ⟨⟩
      rfl

end chain

end Tree

end Shapewire
