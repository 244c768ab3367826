/-
The function that a node is in.

Going up from a node, the first function is the one that the node is in, except that an arrow that
is entered through one of its parameters is passed over (`Arena.enclosing?`).  Going down instead,
the children of a node are in the function that the node is in, unless the node is a function and
has them in itself (`enclosing?_inner`).

The function that a node is in has the mode of the node (`Arena.mode`), and that goes down in the
same way.  So what every node of a tree has in its own mode is a matter of that function
(`Tree.Within.of_mem_sites`).
-/
import Shapewire.Proofs.Analysis.Scope
import Shapewire.Proofs.Tree.Modes
import Shapewire.Proofs.Tree.WellKinded

namespace Shapewire

namespace Arena

section enclosing

variable (a : Arena)

/-- The parameters of the function at a place. -/
def parameterRefs (id : NodeId) : List NodeRef :=
  (((a.record? id).bind Record.signature?).map Prod.snd).getD []

/-- Whether the node at a place is a function that a child of it is in: the parameters of an arrow
are not in the arrow. -/
def encloses (parent child : NodeId) : Bool :=
  a.isFunction parent &&
    !(a.kindIs (· == .arrowFunction) parent && (a.parameterRefs parent).contains (some child))

/-- The function that the node at a place is in, the first one on the way up. -/
def enclosing? (id : NodeId) : Option NodeId :=
  (((id :: a.ancestors id).zip (a.ancestors id)).find? fun (child, parent) =>
    a.encloses parent child).map Prod.snd

end enclosing

variable {a : Arena} {root : NodeId}

/-- A child is in its parent or in what its parent is in. -/
theorem IsTree.enclosing?_of_parent (tree : a.IsTree root) {c p : NodeId}
    (parent : a.parent? c = some p) :
    a.enclosing? c = if a.encloses p c then some p else a.enclosing? p := by
  unfold enclosing?
  rw [tree.ancestors_of_parent parent, List.zip_cons_cons, List.find?_cons]
  cases own : a.encloses p c with
  | true => simp [own]
  | false => simp [own]

end Arena

/-! ### Going down -/

/-- Functions are what keeps its record among those of functions. -/
theorem NodeKind.isFunction_eq (k : NodeKind) :
    k.isFunction = decide (k.pool? = some .functions) := by
  cases k with
  | token t => cases t <;> rfl
  | _ => rfl

/-- What is a function has the record of one. -/
theorem Tree.isFunction_of_fits {t : Tree} (fits : t.Fits) :
    t.kind.isFunction = (t.record?.bind Record.signature?).isSome := by
  rw [NodeKind.isFunction_eq, fits.form]
  cases t.record? with
  | none => rfl
  | some r => cases r <;> rfl

namespace Site

theorem map_row {α : Type} (f : Tree → α) (start : Nat) (ts : List Tree) :
    (row start ts).map (fun y => f y.tree) = ts.map f := by
  conv => rhs; rw [← Tree.map_tree_row start ts, List.map_map]
  rfl

/-- The places of neighbouring trees are from where the first starts to where the last ends. -/
theorem id_of_mem_row {start : Nat} {ts : List Tree} {y : Site} (mem : y ∈ row start ts) :
    start ≤ y.id ∧ y.id < start + Tree.totalSize ts := by
  have bounds := start_le_of_mem_row mem
  have size := y.tree.size_pos
  unfold id
  omega

/-- The children of a site, each with whether the root is a function that it is in. -/
def inner (x : Site) : List (Bool × Site) :=
  match x.tree.record? with
  | some (.function name parameters body _) =>
    let start := x.start + Tree.totalSize name.toList
    (row x.start name.toList).map (true, ·) ++
      (row start parameters).map (x.tree.kind != .arrowFunction, ·) ++
      [(true, ⟨start + Tree.totalSize parameters, body⟩)]
  | _ => x.children.map (false, ·)

theorem inner_tree (x : Site) : x.tree.inner = x.inner.map fun u => (u.1, u.2.tree) := by
  unfold inner Tree.inner
  cases x.tree.record? with
  | none => simp [children, Function.comp_def, map_row]
  | some r => cases r <;> simp [children, Function.comp_def, map_row]

theorem map_snd_inner (x : Site) : x.inner.map Prod.snd = x.children := by
  unfold inner
  split
  · rename_i form
    rw [children_of_record? form]
    simp [Record.children, Function.comp_def, row_append, row]
  · simp [Function.comp_def]

theorem mem_children_of_mem_inner {x : Site} {u : Bool × Site} (mem : u ∈ x.inner) :
    u.2 ∈ x.children := by
  rw [← map_snd_inner]
  exact List.mem_map_of_mem mem

end Site

namespace Tree

variable {t : Tree} (formed : t.Formed) {x : Site} (mem : x ∈ t.sites)

include formed mem

theorem parameterRefs_ofTree {name : Option Tree} {parameters : List Tree}
    (signature : x.tree.record?.bind Record.signature? = some (name, parameters)) :
    (Arena.ofTree t).parameterRefs x.id
      = (Site.row (x.start + totalSize name.toList) parameters).map fun y => some y.id := by
  rw [Arena.parameterRefs, bind_record_ofTree formed mem (Record.signature?_rename _)
    (Record.signature?_placed _ _), signature]
  simp [Record.places, Function.comp_def]

/-- A table and a tree agree on which children are in a function. -/
theorem encloses_ofTree {u : Bool × Site} (below : u ∈ x.inner) :
    (Arena.ofTree t).encloses x.id u.2.id = u.1 := by
  have isFunction := isFunction_of_fits (Site.formed_of_mem_postorder formed mem).fits
  unfold Site.inner at below
  rw [Arena.encloses, Arena.isFunction, kindIs_ofTree formed mem, kindIs_ofTree formed mem]
  split at below
  · rename_i name parameters body arrow form
    have signature : x.tree.record?.bind Record.signature? = some (name, parameters) := by
      rw [form]
      rfl
    rw [isFunction, parameterRefs_ofTree formed mem signature, signature, Option.isSome_some,
      Bool.true_and]
    -- What lies before the parameters or behind them is none of them.
    have other {c : Site} (apart : c.id < x.start + totalSize name.toList ∨
        x.start + totalSize name.toList + totalSize parameters ≤ c.id) :
        ((Site.row (x.start + totalSize name.toList) parameters).map fun y => some y.id).contains
          (some c.id) = false := by
      simp only [List.contains_eq_mem, List.mem_map, Option.some.injEq, decide_eq_false_iff_not]
      rintro ⟨y, parameter, same⟩
      have bounds := Site.id_of_mem_row parameter
      omega
    rcases List.mem_append.mp below with below | below
    · rcases List.mem_append.mp below with below | below
      · obtain ⟨c, named, rfl⟩ := List.mem_map.mp below
        rw [other (.inl (Site.id_of_mem_row named).2), Bool.and_false]
        rfl
      · obtain ⟨c, parameter, rfl⟩ := List.mem_map.mp below
        have own := List.mem_map_of_mem (f := fun y : Site => some y.id) parameter
        rw [List.contains_iff_mem.mpr own, Bool.and_true]
        rfl
    · rw [List.mem_singleton.mp below]
      have size := body.size_pos
      rw [other (.inr (by unfold Site.id; simp only; omega)), Bool.and_false]
      rfl
  · rename_i notFunction
    obtain ⟨c, -, rfl⟩ := List.mem_map.mp below
    have unsigned : x.tree.record?.bind Record.signature? = none := by
      cases form : x.tree.record? with
      | none => rfl
      | some r => cases r <;> first | rfl | exact absurd form (notFunction _ _ _ _)
    rw [isFunction, unsigned]
    rfl

/-- **A child is in its parent if that is a function and the child is no parameter of an arrow, and
otherwise in what the parent is in.** -/
theorem enclosing?_inner {u : Bool × Site} (below : u ∈ x.inner) :
    (Arena.ofTree t).enclosing? u.2.id
      = if u.1 then some x.id else (Arena.ofTree t).enclosing? x.id := by
  have child := Site.mem_children_of_mem_inner below
  have parent := (parent_ofTree formed mem (Site.mem_postorder_of_child mem child)).mpr child
  rw [(isTree_ofTree formed).enclosing?_of_parent parent, encloses_ofTree formed mem below]

end Tree

/-! ### Modes -/

/-- The mode of what is in a function that a node is. -/
def Node.ownMode (n : Node) : Mode :=
  ⟨n.kind != .arrowFunction && n.flags.has .generator, n.flags.has .async⟩

/-- The mode of the node at a place, which the function that it is in has. -/
def Arena.mode (a : Arena) (id : NodeId) : Mode :=
  (((a.enclosing? id).bind a.get?).map Node.ownMode).getD .outside

namespace Tree

variable {t : Tree} (formed : t.Formed)

include formed

/-- Nothing is around the root. -/
theorem mode_root : (Arena.ofTree t).mode t.site.id = .outside := by
  rw [Arena.mode, Arena.enclosing?, Arena.ancestors_of_orphan (parent?_root formed),
    List.zip_nil_right]
  rfl

variable {x : Site} (mem : x ∈ t.sites)

include mem

/-- The mode goes down in a table as it does in the tree. -/
theorem mode_inner {u : Bool × Site} (below : u ∈ x.inner) :
    (Arena.ofTree t).mode u.2.id = x.tree.modeBelow ((Arena.ofTree t).mode x.id) u.1 := by
  rw [Arena.mode, enclosing?_inner formed mem below]
  cases isIn : u.1 with
  | false => rfl
  | true =>
    obtain ⟨n, found, kind, -⟩ := exists_node formed mem
    have flags := flags_of_get? mem found
    -- A function has the flags of its tree only: its record adds none.
    have isFunction : x.tree.kind.isFunction := by
      have encloses := encloses_ofTree formed mem below
      rw [isIn, Arena.encloses, Bool.and_eq_true, Arena.isFunction,
        kindIs_ofTree formed mem] at encloses
      exact encloses.1
    rw [isFunction_of_fits (Site.formed_of_mem_postorder formed mem).fits] at isFunction
    obtain ⟨signature, found'⟩ := Option.isSome_iff_exists.mp isFunction
    obtain ⟨r, form, isSignature⟩ := Option.bind_eq_some_iff.mp found'
    have none : r.flags = .none := by
      cases r <;> first | rfl | cases isSignature
    rw [form, Option.map_some, Option.getD_some, none] at flags
    have own : n.ownMode = x.tree.ownMode := by
      simp [Node.ownMode, ownMode, kind, flags, NodeFlags.union, NodeFlags.none]
    simp [found, own, modeBelow]

omit mem in
/-- **What every node of a tree has in its own mode, it has in the mode of the function that it is
in.** -/
theorem Within.of_mem_sites {P : Mode → Tree → Prop} (within : t.Within P .outside)
    (mem : x ∈ t.sites) : P ((Arena.ofTree t).mode x.id) x.tree := by
  have down (s : Site) : s ∈ t.sites → s.tree.Within P ((Arena.ofTree t).mode s.id) →
      ∀ y ∈ s.postorder, P ((Arena.ofTree t).mode y.id) y.tree := by
    induction s using Site.byChildren with
    | step s ih =>
      intro inside within y mem
      rw [Site.postorder_eq] at mem
      rcases List.mem_append.mp mem with mem | mem
      · obtain ⟨c, child, mem⟩ := List.mem_flatMap.mp mem
        obtain ⟨u, below, rfl⟩ := List.mem_map.mp (s.map_snd_inner ▸ child)
        refine ih u.2 child (Site.mem_postorder_of_child inside child) ?_ y mem
        rw [mode_inner formed inside below]
        refine within.of_mem_inner (u := (u.1, u.2.tree)) ?_
        rw [Site.inner_tree]
        exact List.mem_map_of_mem below
      · rw [List.mem_singleton.mp mem]
        exact within.root
  refine down t.site (mem_sites_self t) ?_ x mem
  rw [mode_root formed]
  exact within

end Tree

end Shapewire
