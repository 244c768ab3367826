/-
Scopes and callees, from above.

A node table knows the scope of a node from below: it follows parents up to the root.  Going down
instead, the functions around a child are those around its parent and perhaps the parent itself
(`ancestors_of_parent`, `shadows_child`).  In the same way a node is a callee if its parent calls
and has it as its first child (`isCallee_operand`).

These are the steps by which a pass from the root downward keeps up with what the table says at
every node.  Without a pass, the functions around a node are those that it lies within
(`Callable.shadows_iff`).
-/
import Shapewire.Proofs.Analysis.Reading

namespace Shapewire

namespace Arena

variable {a : Arena} {root : NodeId}

theorem IsTree.lt_of_parent (tree : a.IsTree root) {c p : Nat} (parent : a.parent? c = some p) :
    c < p ∧ p < a.size := by
  have child := (tree.parent c p).mp parent
  refine ⟨tree.before p c child, ?_⟩
  cases found : a.get? p with
  | none => simp [children, found] at child
  | some n => exact (Array.getElem?_eq_some_iff.mp found).1

/-- With enough steps to reach the root, how many more are allowed does not matter. -/
theorem IsTree.ancestorsWithin_eq (tree : a.IsTree root) {n m id : Nat} (hn : a.size ≤ n + id)
    (hm : a.size ≤ m + id) : a.ancestorsWithin n id = a.ancestorsWithin m id := by
  have none_of_le (id : Nat) (out : a.size ≤ id) : a.parent? id = none := by
    cases parent : a.parent? id with
    | none => rfl
    | some p =>
      have := tree.lt_of_parent parent
      omega
  induction n generalizing m id with
  | zero =>
    cases m with
    | zero => rfl
    | succ m => simp [ancestorsWithin, none_of_le id (by omega)]
  | succ n ih =>
    cases m with
    | zero => simp [ancestorsWithin, none_of_le id (by omega)]
    | succ m =>
      unfold ancestorsWithin
      cases parent : a.parent? id with
      | none => rfl
      | some p =>
        have := (tree.lt_of_parent parent).1
        exact congrArg (p :: ·) (ih (by omega) (by omega))

theorem ancestors_of_orphan {id : NodeId} (orphan : a.parent? id = none) : a.ancestors id = [] := by
  unfold ancestors
  cases a.size with
  | zero => rfl
  | succ n => simp [ancestorsWithin, orphan]

/-- The ancestors of a child are its parent and the parent's ancestors. -/
theorem IsTree.ancestors_of_parent (tree : a.IsTree root) {c p : Nat}
    (parent : a.parent? c = some p) : a.ancestors c = p :: a.ancestors p := by
  obtain ⟨before, inside⟩ := tree.lt_of_parent parent
  obtain ⟨n, size⟩ : ∃ n, a.size = n + 1 := ⟨a.size - 1, by omega⟩
  have same : a.ancestorsWithin n p = a.ancestorsWithin (n + 1) p :=
    tree.ancestorsWithin_eq (by omega) (by omega)
  simp only [ancestors, size, ← same, ancestorsWithin, parent]

theorem isCallee_of_parent {c p : NodeId} (parent : a.parent? c = some p) : a.isCallee c =
    (a.kindIs NodeKind.hasCallee p &&
      ((a.record? p).bind Record.callee?).any fun callee => callee == some c) := by
  simp only [isCallee, parent]
  congr 1
  cases a.record? p with
  | none => rfl
  | some r => cases r <;> rfl

end Arena

/-! ### Enclosing nodes -/

namespace Tree

variable {t : Tree} (formed : t.Formed)

include formed

/-- Nothing is around the root. -/
theorem parent?_root : (Arena.ofTree t).parent? t.site.id = none := by
  have inside : t.site.id < (Arena.ofTree t).size := by
    rw [size_ofTree formed, id_site]
    exact Nat.sub_one_lt_of_lt t.size_pos
  exact ((isTree_ofTree formed).orphan _ inside).mpr (id_site t)

/-- The ancestors of a node within another are nodes between the two, the other itself and the
ancestors of the other. -/
theorem ancestors_within {s y : Site} (inside : s ∈ t.sites) (mem : y ∈ s.postorder) :
    ∃ between, (Arena.ofTree t).ancestors y.id = between ++ (Arena.ofTree t).ancestors s.id ∧
      (∀ i ∈ between, ∃ g ∈ s.postorder, g.id = i ∧ y ∈ g.postorder ∧ y ≠ g) ∧
      (y ≠ s → s.id ∈ between) := by
  induction s using Site.byChildren with
  | step s ih =>
    rw [Site.postorder_eq] at mem
    rcases List.mem_append.mp mem with mem | mem
    · obtain ⟨c, child, within⟩ := List.mem_flatMap.mp mem
      have below := Site.mem_postorder_of_child inside child
      obtain ⟨between, chain, around, -⟩ := ih c child below within
      have parent := (parent_ofTree formed inside below).mpr child
      rw [(isTree_ofTree formed).ancestors_of_parent parent] at chain
      refine ⟨between ++ [s.id], by rw [chain]; simp, ?_, by simp⟩
      intro i found
      rcases List.mem_append.mp found with found | found
      · obtain ⟨g, between, same, encloses⟩ := around i found
        exact ⟨g, Site.mem_postorder_of_mem_children child between, same, encloses⟩
      · refine ⟨s, Site.mem_postorder_self s, (List.mem_singleton.mp found).symm,
          Site.mem_postorder_of_mem_children child within, ?_⟩
        -- What lies within a child lies before the root.
        have before := Site.id_lt_of_mem_children child
        have last := (Site.lt_of_mem_postorder within).2
        rintro rfl
        unfold Site.id at before last
        omega
    · rw [List.mem_singleton.mp mem]
      exact ⟨[], rfl, nofun, fun other => absurd rfl other⟩

/-- The ancestors of a node are the nodes that it lies within. -/
theorem mem_ancestors_ofTree {g y : Site} (inside : g ∈ t.sites) (mem : y ∈ t.sites) :
    g.id ∈ (Arena.ofTree t).ancestors y.id ↔ y ∈ g.postorder ∧ y ≠ g := by
  constructor
  · intro ancestor
    obtain ⟨between, chain, around, -⟩ := ancestors_within formed (mem_sites_self t) mem
    rw [chain, Arena.ancestors_of_orphan (parent?_root formed), List.append_nil] at ancestor
    obtain ⟨g', inside', same, encloses⟩ := around g.id ancestor
    rwa [Site.eq_of_id_eq inside inside' same.symm]
  · rintro ⟨within, other⟩
    obtain ⟨between, chain, -, here⟩ := ancestors_within formed inside within
    rw [chain]
    exact List.mem_append_left _ (here other)

/-- Only nodes of the tree are around a node. -/
theorem exists_site_of_mem_ancestors {y : Site} (mem : y ∈ t.sites) {i : NodeId}
    (ancestor : i ∈ (Arena.ofTree t).ancestors y.id) : ∃ g ∈ t.sites, g.id = i := by
  obtain ⟨between, chain, around, -⟩ := ancestors_within formed (mem_sites_self t) mem
  rw [chain, Arena.ancestors_of_orphan (parent?_root formed), List.append_nil] at ancestor
  obtain ⟨g, inside, same, -⟩ := around i ancestor
  exact ⟨g, inside, same⟩

end Tree

namespace Callable

/-- An identifier refers to a parameter of its name that nothing shadows. -/
theorem resolve?_eq (c : Callable) (a : Arena) (id : NodeId) : c.resolve? a id =
    (a.identifierText? id).filter fun name =>
      c.parameters.contains name && !c.shadows a id name := by
  unfold resolve?
  cases a.identifierText? id with
  | none => rfl
  | some name =>
    show (guard ((c.parameters.contains name && !c.shadows a id name) = true) >>=
      fun _ => some name : Option String) = _
    rw [Option.filter_some]
    cases c.parameters.contains name && !c.shadows a id name with
    | true => rfl
    | false => rfl

/-- What shadows a name at a child is what does so at its parent, or the parent itself. -/
theorem shadows_child {t : Tree} (formed : t.Formed) {x y : Site} (mem : x ∈ t.sites)
    (child : y ∈ x.children) (c : Callable) (name : String) : c.shadows (.ofTree t) y.id name =
    (x.id != c.id && x.tree.kind.isFunction && x.tree.parameterNames.contains name ||
      c.shadows (.ofTree t) x.id name) := by
  have parent := (Tree.parent_ofTree formed mem (Site.mem_postorder_of_child mem child)).mpr child
  unfold shadows
  rw [(Tree.isTree_ofTree formed).ancestors_of_parent parent, List.any_cons, Arena.isFunction,
    Tree.kindIs_ofTree formed mem, Tree.parameterNames_ofTree formed mem]

/-- What shadows a name at a node is a function that the node lies within, not the constructor, with
a parameter of that name. -/
theorem shadows_iff {t : Tree} (formed : t.Formed) {y : Site} (mem : y ∈ t.sites) (c : Callable)
    (name : String) : c.shadows (.ofTree t) y.id name = true ↔
      ∃ g ∈ t.sites, y ∈ g.postorder ∧ y ≠ g ∧ g.id ≠ c.id ∧ g.tree.kind.isFunction = true ∧
        name ∈ g.tree.parameterNames := by
  simp only [shadows, List.any_eq_true, Bool.and_eq_true, bne_iff_ne, List.contains_iff_mem]
  constructor
  · rintro ⟨i, ancestor, ⟨other, function⟩, bound⟩
    obtain ⟨g, inside, rfl⟩ := Tree.exists_site_of_mem_ancestors formed mem ancestor
    rw [Arena.isFunction, Tree.kindIs_ofTree formed inside] at function
    rw [Tree.parameterNames_ofTree formed inside] at bound
    obtain ⟨within, apart⟩ := (Tree.mem_ancestors_ofTree formed inside mem).mp ancestor
    exact ⟨g, inside, within, apart, other, function, bound⟩
  · rintro ⟨g, inside, within, apart, other, function, bound⟩
    refine ⟨g.id, (Tree.mem_ancestors_ofTree formed inside mem).mpr ⟨within, apart⟩,
      ⟨other, ?_⟩, ?_⟩
    · rwa [Arena.isFunction, Tree.kindIs_ofTree formed inside]
    · rwa [Tree.parameterNames_ofTree formed inside]

end Callable

/-! ### Callees -/

/-- The children of a tree, each with whether it is what the root calls or constructs. -/
def Tree.operands (t : Tree) : List (Tree × Bool) :=
  match t.children with
  | [] => []
  | c :: cs => (c, t.kind.hasCallee) :: cs.map fun c => (c, false)

theorem Tree.mem_children_of_mem_operands {t : Tree} {o : Tree × Bool} (h : o ∈ t.operands) :
    o.1 ∈ t.children := by
  unfold operands at h
  cases children : t.children with
  | nil => rw [children] at h; cases h
  | cons c cs =>
    rw [children] at h
    rcases List.mem_cons.mp h with rfl | h
    · exact List.mem_cons_self
    · obtain ⟨c, mem, rfl⟩ := List.mem_map.mp h
      exact List.mem_cons_of_mem _ mem

namespace Site

/-- The children of a site, each with whether it is what the root calls or constructs. -/
def operands (s : Site) : List (Site × Bool) :=
  match s.children with
  | [] => []
  | c :: cs => (c, s.tree.kind.hasCallee) :: cs.map fun c => (c, false)

theorem map_fst_operands (s : Site) : s.operands.map Prod.fst = s.children := by
  unfold operands
  cases s.children with
  | nil => rfl
  | cons c cs => simp [Function.comp_def]

theorem operands_tree (s : Site) :
    s.tree.operands = s.operands.map fun o => (o.1.tree, o.2) := by
  unfold operands Tree.operands
  rw [← Tree.map_tree_row s.start s.tree.children, ← children]
  cases s.children with
  | nil => rfl
  | cons c cs => simp

theorem mem_children_of_mem_operands {s : Site} {o : Site × Bool} (h : o ∈ s.operands) :
    o.1 ∈ s.children := by
  rw [← map_fst_operands]
  exact List.mem_map_of_mem h

end Site

/-- What has a callee has the record of a call. -/
theorem Tree.exists_callee {t : Tree} (fits : t.Fits) (called : t.kind.hasCallee) :
    ∃ callee, t.record?.bind Record.callee? = some callee := by
  have form : t.kind.pool? = some .calls := by
    cases kind : t.kind <;> rw [kind] at called <;> first | rfl | cases called
  rw [fits.form, Option.map_eq_some_iff] at form
  obtain ⟨r, found, form⟩ := form
  cases r <;> cases form
  exact ⟨_, congrArg (Option.bind · Record.callee?) found⟩

/-- A node is a callee if its parent has it as one. -/
theorem Tree.isCallee_operand {t : Tree} (formed : t.Formed) {x : Site} (mem : x ∈ t.sites)
    {o : Site × Bool} (operand : o ∈ x.operands) : (Arena.ofTree t).isCallee o.1.id = o.2 := by
  have child := Site.mem_children_of_mem_operands operand
  have parent := (parent_ofTree formed mem (Site.mem_postorder_of_child mem child)).mpr child
  rw [Arena.isCallee_of_parent parent, kindIs_ofTree formed mem,
    bind_record_ofTree formed mem (Record.callee?_rename _) (Record.callee?_placed _ _)]
  unfold Site.operands at operand
  by_cases called : x.tree.kind.hasCallee
  · obtain ⟨callee, slot⟩ := exists_callee (Site.formed_of_mem_postorder formed mem).fits called
    obtain ⟨rest, children⟩ := Site.exists_children_of_callee? slot
    rw [children] at operand
    simp only [called, slot, Option.map_some, Option.any_some, Bool.true_and]
    rcases List.mem_cons.mp operand with rfl | later
    · simp [called]
    · obtain ⟨c, after, rfl⟩ := List.mem_map.mp later
      have low := (Site.start_le_of_mem_row after).1
      have size := c.tree.size_pos
      have size' := callee.size_pos
      have before : Site.id ⟨x.start, callee⟩ < c.id := by
        unfold Site.id
        simp only
        omega
      simpa using Nat.ne_of_lt before
  · simp only [Bool.not_eq_true] at called
    rw [called, Bool.false_and]
    cases children : x.children with
    | nil => rw [children] at operand; cases operand
    | cons c cs =>
      rw [children] at operand
      rcases List.mem_cons.mp operand with rfl | later
      · exact called.symm
      · obtain ⟨c, after, rfl⟩ := List.mem_map.mp later
        rfl

end Shapewire
