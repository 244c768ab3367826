/-
Walks over the table of a tree.

A walk keeps the places still to be visited on a stack.  On the table of a tree the stack is at
all times a list of sites, each with levels enough for its depth, and what the walk has still to
visit is what lies within those sites, one after the other in pre-order (`walk_sites`).  From a
walk that never stops follows that the pre-order of the table is that of the tree
(`preorder_ofTree`), and from one that stops at functions that the first function of the table is
the first of the tree (`firstFunction_ofTree`).
-/
import Mathlib.Data.List.Find
import Shapewire.Proofs.Tree.Layout
import Shapewire.Tree.Walk

namespace Shapewire

/-- A list up to and including the first element that `p` accepts. -/
def upTo {α : Type} (p : α → Bool) : List α → List α
  | [] => []
  | a :: as => if p a then [a] else a :: upTo p as

section upTo

variable {α β : Type} {p : α → Bool} {as : List α}

theorem upTo_eq_self (h : ∀ a ∈ as, p a = false) : upTo p as = as := by
  induction as with
  | nil => rfl
  | cons a as ih =>
    rw [upTo, h a List.mem_cons_self, ih fun b mem => h b (List.mem_cons_of_mem _ mem)]
    rfl

theorem upTo_congr {q : α → Bool} (h : ∀ a ∈ as, p a = q a) : upTo p as = upTo q as := by
  induction as with
  | nil => rfl
  | cons a as ih =>
    rw [upTo, upTo, h a List.mem_cons_self, ih fun b mem => h b (List.mem_cons_of_mem _ mem)]

/-- The last element is the one looked for, if there is one. -/
theorem getLast?_upTo : ((upTo p as).getLast?.filter p) = as.find? p := by
  induction as with
  | nil => rfl
  | cons a as ih =>
    rw [upTo, List.find?_cons]
    cases accepted : p a with
    | true => simp [accepted]
    | false =>
      simp only [Bool.false_eq_true, if_false]
      rw [← ih]
      cases rest : upTo p as with
      | nil => simp [accepted]
      | cons b bs => rw [List.getLast?_cons_cons]

end upTo

namespace Tree

variable {t : Tree}

/-- What a walk has still to visit is what lies within the sites on its stack. -/
theorem walk_sites (formed : t.Formed) (stop : NodeId → Bool) (stack : List (Nat × Site))
    (inside : ∀ e ∈ stack, e.2 ∈ t.sites ∧ e.2.tree.size ≤ e.1) :
    (Arena.ofTree t).walk stop (stack.map fun e => (e.1, e.2.id))
      = upTo stop ((stack.flatMap fun e => e.2.preorder).map Site.id) := by
  generalize places : (stack.map fun e => (e.1, e.2.id)) = ids
  fun_induction Arena.walk (Arena.ofTree t) stop ids generalizing stack with
  | case1 =>
    rw [List.map_eq_nil_iff.mp places]
    rfl
  | case2 id ids ih =>
    obtain ⟨⟨levels, x⟩, rest, rfl, top, -⟩ := List.map_eq_cons_iff.mp places
    cases top
    have := (inside _ List.mem_cons_self).2
    exact absurd this (Nat.not_le_of_lt x.tree.size_pos)
  | case3 levels id ids stopped =>
    obtain ⟨⟨levels', x⟩, rest, rfl, top, -⟩ := List.map_eq_cons_iff.mp places
    cases top
    rw [List.flatMap_cons, Site.preorder_eq]
    simp only [List.cons_append, List.map_cons, upTo, stopped, if_true]
  | case4 levels id ids goesOn ih =>
    obtain ⟨⟨levels', x⟩, rest, rfl, top, rfl⟩ := List.map_eq_cons_iff.mp places
    cases top
    obtain ⟨mem, enough⟩ := inside _ List.mem_cons_self
    have children := children_ofTree formed mem
    rw [ih (x.children.map (levels, ·) ++ rest) ?_ ?_]
    · rw [List.flatMap_cons, Site.preorder_eq x]
      simp [upTo, goesOn, List.flatMap_map]
    · rintro ⟨levels', c⟩ on
      rcases List.mem_append.mp on with on | on
      · obtain ⟨c, child, eq⟩ := List.mem_map.mp on
        cases eq
        refine ⟨Site.mem_postorder_of_child mem child, ?_⟩
        have low := Site.start_le_of_mem_row child
        have size := x.tree.size_eq
        simp only at enough ⊢
        omega
      · exact inside _ (List.mem_cons_of_mem _ on)
    · rw [children]
      simp

/-- A walk from the place of a site visits what lies within it. -/
theorem walk_rootStack (formed : t.Formed) {x : Site} (mem : x ∈ t.sites) (stop : NodeId → Bool) :
    (Arena.ofTree t).walk stop ((Arena.ofTree t).rootStack x.id)
      = upTo stop (x.preorder.map Site.id) := by
  have enough : x.tree.size ≤ (Arena.ofTree t).size + 1 := by
    rw [size_ofTree formed]
    have := Site.size_le_of_mem_postorder mem
    simp only [site] at this
    omega
  have := walk_sites formed stop [((Arena.ofTree t).size + 1, x)] (by simp [mem, enough])
  rw [List.flatMap_singleton] at this
  exact this

theorem mem_sites_of_mem_preorder {x y : Site} (mem : x ∈ t.sites) (within : y ∈ x.preorder) :
    y ∈ t.sites :=
  Site.mem_postorder_trans mem ((Site.preorder_perm x).mem_iff.mp within)

/-- **The pre-order of a table is the pre-order of its tree**, from any node. -/
theorem preorder_ofTree (formed : t.Formed) {x : Site} (mem : x ∈ t.sites) :
    (Arena.ofTree t).preorder x.id = x.preorder.map Site.id := by
  rw [Arena.preorder, walk_rootStack formed mem, upTo_eq_self fun _ _ => rfl,
    List.filter_eq_self]
  rintro id visited
  obtain ⟨y, within, rfl⟩ := List.mem_map.mp visited
  obtain ⟨n, found, -⟩ := exists_node formed (mem_sites_of_mem_preorder mem within)
  rw [found]
  rfl

/-- **The first function of a table is the first of its tree** in pre-order. -/
theorem firstFunction_ofTree (formed : t.Formed) {x : Site} (mem : x ∈ t.sites) :
    (Arena.ofTree t).firstFunction? x.id
      = (x.preorder.find? fun y => y.tree.kind.isFunction).map Site.id := by
  have isFunction {y : Site} (within : y ∈ x.preorder) :
      (Arena.ofTree t).isFunction y.id = y.tree.kind.isFunction :=
    kindIs_ofTree formed (mem_sites_of_mem_preorder mem within) _
  have stop {id : NodeId} (visited : id ∈ x.preorder.map Site.id) :
      (((Arena.ofTree t).get? id).isNone || (Arena.ofTree t).isFunction id)
        = (Arena.ofTree t).isFunction id := by
    obtain ⟨y, within, rfl⟩ := List.mem_map.mp visited
    obtain ⟨n, found, -⟩ := exists_node formed (mem_sites_of_mem_preorder mem within)
    rw [found]
    rfl
  rw [Arena.firstFunction?, walk_rootStack formed mem, upTo_congr fun id => stop, getLast?_upTo,
    List.find?_map]
  exact congrArg (Option.map Site.id) (List.find?_congr fun y => isFunction)

end Tree

end Shapewire
