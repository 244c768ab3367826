/-
Where the parts of a tree lie in its node table.

A `Site` is a subtree together with the place at which its nodes start.  Its root is the last
of its nodes, and the sites of its children follow one another from the same start.  So the
sites of a tree in post-order are the nodes of its table in their order there:
`entries_eq_map_postorder` says what each node holds, and `map_id_postorder` that the places
are those from the start on, without gaps.  A walk goes through the same sites in pre-order.
-/
import Mathlib.Data.List.Perm.Basic
import Shapewire.Tree.Layout

namespace Shapewire

/-- A subtree whose nodes start at a place. -/
structure Site where
  start : Nat
  tree : Tree

namespace Site

/-- The place of the root. -/
def id (s : Site) : Nat := s.start + s.tree.size - 1

/-- The sites of neighbouring trees from a place on. -/
def row (start : Nat) : List Tree → List Site
  | [] => []
  | t :: ts => ⟨start, t⟩ :: row (start + t.size) ts

/-- The sites of the children. -/
def children (s : Site) : List Site := row s.start s.tree.children

theorem tree_mem_of_mem_row {start : Nat} {ts : List Tree} {s : Site} (h : s ∈ row start ts) :
    s.tree ∈ ts := by
  induction ts generalizing start with
  | nil => cases h
  | cons t ts ih =>
    rcases List.mem_cons.mp h with rfl | h
    · exact List.mem_cons_self
    · exact List.mem_cons_of_mem _ (ih h)

theorem sizeOf_lt_of_mem_children {s c : Site} (h : c ∈ s.children) :
    sizeOf c.tree < sizeOf s.tree :=
  Tree.sizeOf_lt_of_mem_children (tree_mem_of_mem_row h)

/-- A property holds of all sites if it holds of each whose children have it. -/
theorem byChildren {motive : Site → Prop}
    (step : ∀ s : Site, (∀ c ∈ s.children, motive c) → motive s) (s : Site) : motive s :=
  step s fun c _ => byChildren step c
termination_by sizeOf s.tree
decreasing_by exact sizeOf_lt_of_mem_children ‹_›

/-- A site and all within it, each after the ones within itself. -/
def postorder (s : Site) : List Site :=
  (s.children.attach.flatMap fun ⟨c, _⟩ => c.postorder) ++ [s]
termination_by sizeOf s.tree
decreasing_by exact sizeOf_lt_of_mem_children ‹_›

/-- A site and all within it, each before the ones within itself. -/
def preorder (s : Site) : List Site :=
  s :: s.children.attach.flatMap fun ⟨c, _⟩ => c.preorder
termination_by sizeOf s.tree
decreasing_by exact sizeOf_lt_of_mem_children ‹_›

theorem postorder_eq (s : Site) : s.postorder = s.children.flatMap postorder ++ [s] := by
  rw [postorder]
  congr 1
  conv => rhs; rw [← s.children.attach_map_subtype_val, List.flatMap_map]

theorem preorder_eq (s : Site) : s.preorder = s :: s.children.flatMap preorder := by
  rw [preorder]
  congr 1
  conv => rhs; rw [← s.children.attach_map_subtype_val, List.flatMap_map]

/-! ### Places -/

theorem id_lt (s : Site) : s.id < s.start + s.tree.size := by
  have := s.tree.size_pos
  unfold id
  omega

theorem id_eq_add (s : Site) : s.id = s.start + Tree.totalSize s.tree.children := by
  have := s.tree.size_eq
  unfold id
  omega

/-- Neighbouring trees fill the places from the start on. -/
theorem map_id_row {start : Nat} {ts : List Tree}
    (each : ∀ s ∈ row start ts, s.postorder.map id = List.range' s.start s.tree.size) :
    ((row start ts).flatMap postorder).map id = List.range' start (Tree.totalSize ts) := by
  induction ts generalizing start with
  | nil => rfl
  | cons t ts ih =>
    rw [row] at each
    rw [row, List.flatMap_cons, List.map_append, each _ List.mem_cons_self,
      ih fun s mem => each s (List.mem_cons_of_mem _ mem), List.range'_append_1,
      Tree.totalSize_cons]

/-- The sites in post-order fill the places from the start on. -/
theorem map_id_postorder (s : Site) : s.postorder.map id = List.range' s.start s.tree.size := by
  induction s using byChildren with
  | step s ih =>
    rw [postorder_eq, List.map_append, children, map_id_row ih, s.tree.size_eq, Nat.add_comm 1,
      List.range'_1_concat, ← id_eq_add]
    rfl

/-- The places of the sites of a tree are its own. -/
theorem lt_of_mem_postorder {s x : Site} (h : x ∈ s.postorder) :
    s.start ≤ x.id ∧ x.id < s.start + s.tree.size := by
  have mem := List.mem_map_of_mem (f := id) h
  rw [map_id_postorder] at mem
  exact List.mem_range'_1.mp mem

theorem length_postorder (s : Site) : s.postorder.length = s.tree.size := by
  rw [← List.length_map id, map_id_postorder, List.length_range']

/-- A walk goes through the same sites. -/
theorem preorder_perm (s : Site) : s.preorder.Perm s.postorder := by
  induction s using byChildren with
  | step s ih =>
    rw [preorder_eq, postorder_eq]
    exact ((List.Perm.flatMap_left _ ih).cons s).trans (List.perm_append_singleton s _).symm

theorem mem_postorder_self (s : Site) : s ∈ s.postorder := by
  rw [postorder_eq]
  exact List.mem_append_right _ (List.mem_singleton_self s)

/-- What lies within a child lies within the site. -/
theorem mem_postorder_of_mem_children {s c x : Site} (h : c ∈ s.children) (hx : x ∈ c.postorder) :
    x ∈ s.postorder := by
  rw [postorder_eq]
  exact List.mem_append_left _ (List.mem_flatMap.mpr ⟨c, h, hx⟩)

theorem mem_postorder_trans {s x y : Site} (hx : x ∈ s.postorder) (hy : y ∈ x.postorder) :
    y ∈ s.postorder := by
  induction s using byChildren with
  | step s ih =>
    rw [postorder_eq] at hx
    rcases List.mem_append.mp hx with hx | hx
    · obtain ⟨c, mem, hx⟩ := List.mem_flatMap.mp hx
      exact mem_postorder_of_mem_children mem (ih c mem hx)
    · rwa [List.mem_singleton.mp hx] at hy

/-- The sites within a site are found by their places. -/
theorem getElem?_postorder {s x : Site} (h : x ∈ s.postorder) :
    s.postorder[x.id - s.start]? = some x ∧ s.start ≤ x.id := by
  obtain ⟨i, inside, rfl⟩ := List.getElem_of_mem h
  have place : (s.postorder.map id)[i]? = (List.range' s.start s.tree.size)[i]? := by
    rw [map_id_postorder]
  rw [List.getElem?_map, List.getElem?_eq_getElem inside,
    List.getElem?_range' (by rwa [← length_postorder])] at place
  simp only [Option.map_some, Option.some.injEq, Nat.one_mul] at place
  rw [place]
  refine ⟨?_, by omega⟩
  rw [Nat.add_sub_cancel_left]
  exact List.getElem?_eq_getElem inside

theorem eq_of_id_eq {s x y : Site} (hx : x ∈ s.postorder) (hy : y ∈ s.postorder)
    (same : x.id = y.id) : x = y := by
  have fx := (getElem?_postorder hx).1
  have fy := (getElem?_postorder hy).1
  rw [same, fy] at fx
  exact (Option.some.inj fx).symm

/-- Every place within a site is the place of some site within it. -/
theorem exists_of_lt {s : Site} {i : Nat} (low : s.start ≤ i) (high : i < s.start + s.tree.size) :
    ∃ x ∈ s.postorder, x.id = i := by
  have mem : i ∈ s.postorder.map id := by
    rw [map_id_postorder]
    exact List.mem_range'_1.mpr ⟨low, high⟩
  exact List.mem_map.mp mem

/-! ### What the nodes hold -/

/-- The root of a site as an entry. -/
def entry (s : Site) : Entry := s.tree.entry s.start

theorem entriesOf_eq {start : Nat} {ts : List Tree}
    (each : ∀ s ∈ row start ts, s.tree.entries s.start = s.postorder.map entry) :
    Tree.entriesOf start ts = ((row start ts).flatMap postorder).map entry := by
  induction ts generalizing start with
  | nil => rw [Tree.entriesOf]; rfl
  | cons t ts ih =>
    rw [row] at each
    rw [Tree.entriesOf, row, List.flatMap_cons, List.map_append,
      ih fun s mem => each s (List.mem_cons_of_mem _ mem), ← each _ List.mem_cons_self]

/-- The nodes of a tree are the roots of its sites, in post-order. -/
theorem entries_eq_map_postorder (s : Site) :
    s.tree.entries s.start = s.postorder.map entry := by
  induction s using byChildren with
  | step s ih =>
    rw [Tree.entries, entriesOf_eq ih, postorder_eq, List.map_append]
    rfl

end Site

namespace Tree

/-- A tree has as many entries as nodes. -/
theorem length_entries (base : Nat) (t : Tree) : (t.entries base).length = t.size := by
  rw [Site.entries_eq_map_postorder ⟨base, t⟩, List.length_map, Site.length_postorder]

theorem length_entriesOf (base : Nat) (ts : List Tree) :
    (entriesOf base ts).length = totalSize ts := by
  induction ts generalizing base with
  | nil => rw [entriesOf]; rfl
  | cons t ts ih => rw [entriesOf, List.length_append, length_entries, ih, totalSize_cons]

/-- The entries of neighbouring trees are those of the first ones with those of the others behind
them. -/
theorem entriesOf_append (base : Nat) (ts us : List Tree) :
    entriesOf base (ts ++ us) = entriesOf base ts ++ entriesOf (base + totalSize ts) us := by
  induction ts generalizing base with
  | nil => rw [entriesOf]; rfl
  | cons t ts ih =>
    rw [List.cons_append, entriesOf, ih, entriesOf, totalSize_cons, List.append_assoc,
      Nat.add_assoc]

end Tree

end Shapewire
