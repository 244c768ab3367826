/-
Shapes, by recursion over the tree.

Every binary node that assigns to the instance's state puts one name on the instance: as a method
if the value is a function, in parentheses or not, and as a member otherwise
(`Tree.Contributes`).  `Tree.contributions` lists what a tree contributes, its root before what is
within, and a shape is that list parted in two, without repeats.

The analysis goes through the nodes of a table instead and asks of each operator whether its number
is in a range.  Both come to the same shape (`shape_of_parse`).
-/
import Shapewire.Analysis.Shape
import Shapewire.Proofs.Analysis.Assignment
import Shapewire.Proofs.Tree.Order

namespace Shapewire

/-- The assignment operators, the plain one and the compound ones. -/
def TokenKind.assignmentOperators : List TokenKind :=
  [.assign, .plusAssign, .minusAssign, .starAssign, .powerAssign, .slashAssign, .percentAssign,
   .shiftLeftAssign, .shiftRightAssign, .shiftRightZeroAssign, .ampersandAssign, .barAssign,
   .caretAssign, .logicalOrAssign, .logicalAndAssign, .coalesceAssign]

/-- The numbers in the range of assignment operators are theirs. -/
theorem TokenKind.isAssignment_iff {k : TokenKind} :
    k.isAssignment = true ↔ k ∈ assignmentOperators := by
  cases k <;> decide

/-- What is left without repeats is what was there. -/
theorem mem_eraseDups_map_filter {α β : Type} [BEq β] [LawfulBEq β] {f : α → β} {p : α → Bool}
    {l : List α} {b : β} :
    b ∈ ((l.filter p).map f).eraseDups ↔ ∃ a ∈ l, p a = true ∧ f a = b := by
  simp [and_assoc]

namespace Tree

/-- The tree assigns to state of a name, and the value is a function or is none. -/
def Contributes (t : Tree) (name : String) (isMethod : Bool) : Prop :=
  ∃ operator ∈ TokenKind.assignmentOperators, ∃ value, t.IsAssignment operator name value ∧
    value.unwrapped.kind.isFunctionValue = isMethod

/-- The name that the root contributes, and whether as a method. -/
def contribution? (t : Tree) : Option (String × Bool) :=
  t.assignment?.bind fun (operator, name, value) =>
    if operator.isAssignment then some (name, value.unwrapped.kind.isFunctionValue) else none

/-- What a tree contributes, the root first and then the children one after the other. -/
def contributions (t : Tree) : List (String × Bool) :=
  t.contribution?.toList ++ t.children.attach.flatMap fun ⟨c, _⟩ => c.contributions
termination_by sizeOf t
decreasing_by exact sizeOf_lt_of_mem_children ‹_›

/-- The names contributed as methods, or those contributed as members, where they first occur. -/
def contributed (t : Tree) (isMethod : Bool) : List String :=
  ((t.contributions.filter (·.2 == isMethod)).map Prod.fst).eraseDups

/-- The shape of what is built by a tree. -/
def shape (t : Tree) : Shape where
  members := t.contributed false
  methods := t.contributed true

theorem contribution?_eq_some_iff {t : Tree} {name : String} {isMethod : Bool} :
    t.contribution? = some (name, isMethod) ↔ t.Contributes name isMethod := by
  unfold contribution? Contributes
  constructor
  · intro found
    obtain ⟨⟨operator, name', value⟩, assigns, contributed⟩ := Option.bind_eq_some_iff.mp found
    dsimp only at contributed
    split at contributed
    · rename_i isAssignment
      obtain ⟨rfl, rfl⟩ := Prod.mk.inj (Option.some.inj contributed)
      cases operator with
      | token k =>
        exact ⟨k, TokenKind.isAssignment_iff.mp isAssignment, value,
          assignment?_eq_some_iff.mp assigns, rfl⟩
      | _ => cases isAssignment
    · cases contributed
  · rintro ⟨k, operator, value, assigns, rfl⟩
    have isAssignment : NodeKind.isAssignment (.token k) = true :=
      TokenKind.isAssignment_iff.mpr operator
    rw [assignment?_eq_some_iff.mpr assigns, Option.bind_some]
    exact if_pos isAssignment

theorem contributions_eq (t : Tree) :
    t.contributions = t.contribution?.toList ++ t.children.flatMap contributions := by
  rw [contributions]
  congr 1
  conv => rhs; rw [← t.children.attach_map_subtype_val, List.flatMap_map]

/-- The contributions are those of all trees within, in the order of a walk. -/
theorem contributions_eq_filterMap (t : Tree) :
    t.contributions = t.preorder.filterMap contribution? := by
  induction t using byChildren with
  | step t ih =>
    rw [contributions_eq, preorder_eq, List.filterMap_cons, List.filterMap_flatMap,
      List.flatMap_congr ih]
    cases t.contribution? <;> rfl

theorem mem_contributed_iff {t : Tree} {name : String} {isMethod : Bool} :
    name ∈ t.contributed isMethod ↔ ∃ u ∈ t.preorder, u.Contributes name isMethod := by
  rw [contributed, mem_eraseDups_map_filter, contributions_eq_filterMap]
  constructor
  · rintro ⟨⟨name', isMethod'⟩, listed, same, rfl⟩
    obtain ⟨u, mem, contributes⟩ := List.mem_filterMap.mp listed
    obtain rfl := eq_of_beq same
    exact ⟨u, mem, contribution?_eq_some_iff.mp contributes⟩
  · rintro ⟨u, mem, contributes⟩
    refine ⟨(name, isMethod), ?_, beq_self_eq_true _, rfl⟩
    exact List.mem_filterMap.mpr ⟨u, mem, contribution?_eq_some_iff.mpr contributes⟩

/-! ### The table -/

/-- The table and the tree agree on what a node contributes. -/
theorem selfAssignment?_ofTree {t : Tree} (formed : t.Formed) {x : Site} (mem : x ∈ t.sites) :
    (Arena.ofTree t).selfAssignment? x.id = x.tree.contribution? := by
  rw [Arena.selfAssignment?, assignment?_ofTree formed mem, contribution?, assignment?]
  cases form : x.tree.binary? with
  | none => rfl
  | some slots =>
    obtain ⟨left, operator, right⟩ := slots
    have left_mem := Site.mem_postorder_of_child mem (Site.left_mem_children_of_binary? form)
    have right_mem := Site.mem_postorder_of_child mem (Site.mem_children_of_binary? form)
    simp only [Option.bind_some, Option.bind_eq_bind]
    by_cases assigns : operator.isAssignment = true
    · simp only [if_pos assigns, Option.bind_some]
      rw [selfStateName?_ofTree formed left_mem, isFunctionValue_ofTree formed right_mem]
      cases left.selfStateName? with
      | none => rfl
      | some name => simp [assigns]
    · cases left.selfStateName? <;> simp [assigns]

/-- A table gives the shape of its tree. -/
theorem shape_ofTree {t : Tree} (formed : t.Formed) :
    (Arena.ofTree t).shape t.site.id = t.shape := by
  have contributions : ((Arena.ofTree t).preorder t.site.id).filterMap
      (Arena.ofTree t).selfAssignment? = t.contributions := by
    rw [preorder_ofTree formed (mem_sites_self t), List.filterMap_map, contributions_eq_filterMap,
      preorder_eq_map, List.filterMap_map]
    exact List.filterMap_congr fun x mem =>
      selfAssignment?_ofTree formed (mem_sites_of_mem_preorder (mem_sites_self t) mem)
  rw [Arena.shape, contributions]
  rfl

end Tree

namespace SourceTree

variable {file text : String} {s : SourceTree}

/-- The shape of a source is that of its tree. -/
theorem shape_eq (formed : s.tree.Formed) : s.shape = s.tree.shape := by
  rw [← Tree.shape_ofTree formed, Tree.id_site, SourceTree.shape, s.arena_eq, s.root_eq]

/-- **The shape of every source that parses is what recursion over its tree gives.**

What a tree contributes is listed in the order of the source.  A name is among the members or the
methods if and only if some node anywhere in the tree contributes it so, and a node that assigns to
state contributes in one way and not in the other. -/
theorem shape_of_parse (parsed : parse file text = .ok s) :
    s.shape = s.tree.shape ∧
    s.tree.contributions = s.tree.preorder.filterMap Tree.contribution? ∧
    (s.tree.preorder.Pairwise fun t u => t.span.stop ≤ u.span.start ∨
      t.span.start ≤ u.span.start ∧ u.span.stop ≤ t.span.stop) ∧
    (∀ (t : Tree) name isMethod, t.contribution? = some (name, isMethod) ↔
      t.Contributes name isMethod) ∧
    (∀ name, name ∈ s.shape.members ↔ ∃ t ∈ s.tree.preorder, t.Contributes name false) ∧
    (∀ name, name ∈ s.shape.methods ↔ ∃ t ∈ s.tree.preorder, t.Contributes name true) ∧
    ∀ (t : Tree) operator name value, operator ∈ TokenKind.assignmentOperators →
      t.IsAssignment operator name value →
        ∃! contributed : String × Bool, t.Contributes contributed.1 contributed.2 := by
  have shape := shape_eq (formed_of_parse parsed)
  refine ⟨shape, s.tree.contributions_eq_filterMap, pairwise_preorder_of_parse parsed,
    fun _ _ _ => Tree.contribution?_eq_some_iff, ?_, ?_, ?_⟩
  · intro name
    rw [shape]
    exact Tree.mem_contributed_iff
  · intro name
    rw [shape]
    exact Tree.mem_contributed_iff
  · intro t operator name value assigns assignment
    refine ⟨(name, value.unwrapped.kind.isFunctionValue),
      ⟨operator, assigns, value, assignment, rfl⟩, ?_⟩
    rintro ⟨name', isMethod⟩ contributes
    have found := Tree.contribution?_eq_some_iff.mpr contributes
    have found' := Tree.contribution?_eq_some_iff.mpr ⟨operator, assigns, value, assignment, rfl⟩
    exact Option.some.inj (found.symm.trans found')

/-- Assignments within one another, plain and compound, functions in parentheses, and two left sides
that are not state. -/
theorem shape_of_parse_nested : ∃ s, parse "Widget.js"
    "W?.prototype.a += this.b = (() => this.a ??= ((W) => 1)); this['c'] = W.d = 2" = .ok s ∧
    s.shape = ⟨["a"], ["b", "a"]⟩ ∧
    s.shape = s.tree.shape ∧
    s.tree.contributions = s.tree.preorder.filterMap Tree.contribution? ∧
    (s.tree.preorder.Pairwise fun t u => t.span.stop ≤ u.span.start ∨
      t.span.start ≤ u.span.start ∧ u.span.stop ≤ t.span.stop) ∧
    (∀ (t : Tree) name isMethod, t.contribution? = some (name, isMethod) ↔
      t.Contributes name isMethod) ∧
    (∀ name, name ∈ s.shape.members ↔ ∃ t ∈ s.tree.preorder, t.Contributes name false) ∧
    (∀ name, name ∈ s.shape.methods ↔ ∃ t ∈ s.tree.preorder, t.Contributes name true) ∧
    ∀ (t : Tree) operator name value, operator ∈ TokenKind.assignmentOperators →
      t.IsAssignment operator name value →
        ∃! contributed : String × Bool, t.Contributes contributed.1 contributed.2 :=
  exists_of_any (q := fun s => decide (s.shape = ⟨["a"], ["b", "a"]⟩)) (by decide +kernel)
    fun _ parsed shape => ⟨of_decide_eq_true shape, shape_of_parse parsed⟩

end SourceTree

end Shapewire
