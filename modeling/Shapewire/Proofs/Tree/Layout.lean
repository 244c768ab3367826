/-
The node table of a tree.

`Tree.Formed` is the property of the trees the grammar builds: everywhere the record is one for
the kind of its node.  The table of such a tree holds every subtree at its place
(`holds_ofTree`), so all that a table can be asked about a node has an answer in terms of the
subtree there: its kind (`exists_node`), its record (`record_ofTree`), its children
(`children_ofTree`) and its parent (`parent_ofTree`).

The children of all sites together are all sites but the outermost (`children_perm`).  This is
what makes the parent of a node unique.
-/
import Mathlib.Data.List.Nodup
import Mathlib.Data.List.Pairwise
import Shapewire.Proofs.Tree.Table

namespace Shapewire

namespace Tree

/-- The root has a record for its kind, or none if there is none for its kind. -/
structure Fits (t : Tree) : Prop where
  form : t.kind.pool? = t.record?.map Record.pool
  record : ∀ r, t.record? = some r → r.Fits t.kind

/-- Every node has a record for its kind, or none if there is none for its kind. -/
inductive Formed : Tree → Prop where
  | intro {t : Tree} (fits : t.Fits) (children : ∀ c ∈ t.children, Formed c) : Formed t

theorem Formed.fits {t : Tree} (h : t.Formed) : t.Fits := by
  cases h with
  | intro fits _ => exact fits

theorem Formed.of_mem_children {t c : Tree} (h : t.Formed) (mem : c ∈ t.children) : c.Formed := by
  cases h with
  | intro _ children => exact children c mem

/-- The whole tree, its nodes starting at the first place. -/
def site (t : Tree) : Site := ⟨0, t⟩

/-- The sites of all nodes, in the order of their places. -/
def sites (t : Tree) : List Site := t.site.postorder

end Tree

namespace Site

theorem formed_of_mem_postorder {s x : Site} (h : s.tree.Formed) (mem : x ∈ s.postorder) :
    x.tree.Formed := by
  induction s using byChildren with
  | step s ih =>
    rw [postorder_eq] at mem
    rcases List.mem_append.mp mem with mem | mem
    · obtain ⟨c, child, mem⟩ := List.mem_flatMap.mp mem
      exact ih c child (h.of_mem_children (tree_mem_of_mem_row child)) mem
    · rwa [List.mem_singleton.mp mem]

/-! ### Children and parents -/

/-- Every site but the outermost is a child of one other, once. -/
theorem children_perm (s : Site) : (s.postorder.flatMap children ++ [s]).Perm s.postorder := by
  induction s using byChildren with
  | step s ih =>
    have inner : ((s.children.flatMap postorder).flatMap children ++ s.children).Perm
        (s.children.flatMap postorder) := by
      calc (s.children.flatMap postorder).flatMap children ++ s.children
        _ = s.children.flatMap (fun c => c.postorder.flatMap children)
              ++ s.children.flatMap (fun c => [c]) := by
            rw [List.flatMap_assoc, List.flatMap_singleton']
        _ |>.Perm (s.children.flatMap fun c => c.postorder.flatMap children ++ [c]) :=
            List.flatMap_append_perm _ _ _
        _ |>.Perm (s.children.flatMap postorder) := List.Perm.flatMap_left _ ih
    rw [postorder_eq, List.flatMap_append, List.flatMap_singleton]
    exact inner.append_right [s]

theorem nodup_map_id_postorder (s : Site) : (s.postorder.map id).Nodup := by
  rw [map_id_postorder]
  exact List.nodup_range'

/-- No site is a child of two others. -/
theorem parent_unique {s x y c : Site} (hx : x ∈ s.postorder) (hy : y ∈ s.postorder)
    (cx : c ∈ x.children) (cy : c ∈ y.children) : x = y := by
  have distinct : (s.postorder.flatMap children).Nodup :=
    ((children_perm s).nodup_iff.mpr (.of_map _ (nodup_map_id_postorder s))).of_append_left
  by_contra differ
  have : Std.Symm (Function.onFun List.Disjoint children) := by
    refine ⟨?_⟩
    intro _ _ apart c left right
    exact apart right left
  exact (List.nodup_flatMap.mp distinct).2.forall hx hy differ cx cy

theorem mem_postorder_of_child {s x c : Site} (hx : x ∈ s.postorder) (child : c ∈ x.children) :
    c ∈ s.postorder :=
  mem_postorder_trans hx (mem_postorder_of_mem_children child (mem_postorder_self c))

/-- Only the outermost site is no child. -/
theorem exists_parent {s c : Site} (hc : c ∈ s.postorder) (inner : c ≠ s) :
    ∃ x ∈ s.postorder, c ∈ x.children := by
  have mem := (children_perm s).mem_iff.mpr hc
  rcases List.mem_append.mp mem with mem | mem
  · exact List.mem_flatMap.mp mem
  · exact absurd (List.mem_singleton.mp mem) inner

theorem start_le_of_mem_row {start : Nat} {ts : List Tree} {c : Site} (h : c ∈ row start ts) :
    start ≤ c.start ∧ c.start + c.tree.size ≤ start + Tree.totalSize ts := by
  induction ts generalizing start with
  | nil => cases h
  | cons t ts ih =>
    rw [Tree.totalSize_cons]
    rcases List.mem_cons.mp h with rfl | h
    · exact ⟨Nat.le_refl _, by simp only; omega⟩
    · have := ih h
      omega

/-- A child lies before its parent. -/
theorem id_lt_of_mem_children {x c : Site} (h : c ∈ x.children) : c.id < x.id := by
  have := start_le_of_mem_row h
  have := c.id_lt
  rw [x.id_eq_add]
  omega

theorem size_le_of_mem_postorder {s x : Site} (hx : x ∈ s.postorder) :
    s.start ≤ x.start ∧ x.start + x.tree.size ≤ s.start + s.tree.size := by
  induction s using byChildren with
  | step s ih =>
    rw [postorder_eq] at hx
    rcases List.mem_append.mp hx with hx | hx
    · obtain ⟨c, child, hx⟩ := List.mem_flatMap.mp hx
      have := start_le_of_mem_row child
      have := ih c child hx
      have := s.tree.size_eq
      omega
    · rw [List.mem_singleton.mp hx]
      exact ⟨Nat.le_refl _, Nat.le_refl _⟩

/-! ### Entries -/

theorem formed_entry {s : Site} (h : s.tree.Fits) : s.entry.Formed := by
  show s.tree.kind.pool? = (s.tree.record?.map (Record.placed s.tree.kind s.start)).map Record.pool
  rw [h.form, Option.map_map]
  exact congrArg (Option.map · _) (funext fun r => (Record.pool_placed _ _ r).symm)

/-- An entry refers to the places of the children and to no other. -/
theorem links_entry {s : Site} (h : s.tree.Fits) : s.entry.links.Perm (s.children.map id) := by
  show ((Option.map (fun r => r.slots Option.toList Option.toList)
    (s.tree.record?.map (Record.placed s.tree.kind s.start))).getD []).Perm
      (Record.places s.start s.tree.children)
  unfold Tree.children
  cases found : s.tree.record? with
  | none => exact .refl _
  | some r =>
    have fits := (h.record r found).placed s.start
    simp only [Option.map_some, Option.getD_some]
    rw [← Record.children_placed]
    exact fits.slots_perm_children _ _ rfl

end Site

namespace Tree

variable {t : Tree}

theorem mem_sites_self (t : Tree) : t.site ∈ t.sites := Site.mem_postorder_self _

/-- The node at a place is the root of the site there. -/
theorem getElem?_sites {x : Site} (h : x ∈ t.sites) : t.sites[x.id]? = some x :=
  (Site.getElem?_postorder h).1

theorem id_of_getElem?_sites {i : Nat} {x : Site} (h : t.sites[i]? = some x) : x.id = i := by
  have ids : (t.sites.map Site.id)[i]? = some x.id := by
    rw [List.getElem?_map, h]
    rfl
  rw [sites, Site.map_id_postorder] at ids
  obtain ⟨inside, same⟩ := List.getElem?_eq_some_iff.mp ids
  rw [List.getElem_range'] at same
  simp [site] at same
  exact same.symm

/-- The nodes of a tree can be added to a table one after the other. -/
theorem wellLinked_sites (formed : t.Formed) : WellLinked (t.sites.map Site.entry) := by
  have fits {x : Site} (mem : x ∈ t.sites) : x.tree.Fits :=
    (Site.formed_of_mem_postorder formed mem).fits
  have at_place {p : Nat} {e : Entry} (found : (t.sites.map Site.entry)[p]? = some e) :
      ∃ x ∈ t.sites, x.id = p ∧ x.entry = e := by
    rw [List.getElem?_map, Option.map_eq_some_iff] at found
    obtain ⟨x, found, rfl⟩ := found
    exact ⟨x, List.mem_of_getElem? found, id_of_getElem?_sites found, rfl⟩
  have child {x : Site} (mem : x ∈ t.sites) {c : Nat} (link : c ∈ x.entry.links) :
      ∃ y ∈ x.children, y.id = c :=
    List.mem_map.mp ((Site.links_entry (fits mem)).mem_iff.mp link)
  refine ⟨?_, ?_, ?_⟩
  · intro e mem
    obtain ⟨x, inside, rfl⟩ := List.mem_map.mp mem
    exact Site.formed_entry (fits inside)
  · intro p e found c link
    obtain ⟨x, mem, rfl, rfl⟩ := at_place found
    obtain ⟨y, below, rfl⟩ := child mem link
    exact Site.id_lt_of_mem_children below
  · intro p e q e' found found' c link link'
    obtain ⟨x, mem, rfl, rfl⟩ := at_place found
    obtain ⟨x', mem', rfl, rfl⟩ := at_place found'
    obtain ⟨y, below, id⟩ := child mem link
    obtain ⟨y', below', id'⟩ := child mem' link'
    obtain rfl : y = y' := Site.eq_of_id_eq (Site.mem_postorder_of_child mem below)
      (Site.mem_postorder_of_child mem' below') (id.trans id'.symm)
    rw [Site.parent_unique mem mem' below below']

/-- **The table of a tree holds the roots of its sites**, in the order of their places. -/
theorem holds_ofTree (formed : t.Formed) : (Arena.ofTree t).Holds (t.sites.map Site.entry) := by
  have entries : t.entries 0 = t.sites.map Site.entry := Site.entries_eq_map_postorder t.site
  rw [Arena.ofTree, entries]
  exact Arena.holds_foldl_addEntry (wellLinked_sites formed)

/-! ### Looking things up -/

/-- Every place of the table is the place of a site. -/
theorem exists_site {i : Nat} (inside : i < t.size) : ∃ x ∈ t.sites, x.id = i :=
  Site.exists_of_lt (Nat.zero_le i) (by rwa [site, Nat.zero_add])

section lookup

variable (formed : t.Formed) {x : Site} (mem : x ∈ t.sites)

include formed

theorem size_ofTree : (Arena.ofTree t).size = t.size := by
  rw [Arena.size, (holds_ofTree formed).size, List.length_map, sites, Site.length_postorder]
  rfl

include mem

/-- The node at the place of a site. -/
theorem exists_node : ∃ n, (Arena.ofTree t).get? x.id = some n ∧ n.kind = x.tree.kind ∧
    n.span = x.tree.span ∧ n.data?.isSome = x.tree.record?.isSome ∧
    ((Arena.ofTree t).recordOf n).map (Record.rename (Arena.ofTree t).names.resolve)
      = x.entry.record? := by
  have at_place : (t.sites.map Site.entry)[x.id]? = some x.entry := by
    rw [List.getElem?_map, getElem?_sites mem]
    rfl
  obtain ⟨n, found, kind, span, data, record⟩ := (holds_ofTree formed).node _ _ at_place
  refine ⟨n, found, kind, span, ?_, record _ (.refl _)⟩
  rw [data]
  exact Option.isSome_map

theorem kindIs_ofTree (p : NodeKind → Bool) :
    (Arena.ofTree t).kindIs p x.id = p x.tree.kind := by
  obtain ⟨n, found, kind, -⟩ := exists_node formed mem
  simp [Arena.kindIs, found, kind]

/-- The record at the place of a site, its atoms read as names. -/
theorem record_ofTree :
    ((Arena.ofTree t).record? x.id).map (Record.rename (Arena.ofTree t).names.resolve)
      = x.tree.record?.map (Record.placed x.tree.kind x.start) := by
  obtain ⟨n, found, -, -, -, record⟩ := exists_node formed mem
  rw [Arena.record?, found]
  exact record

/-- The children of a site are at the places of its children. -/
theorem children_ofTree : (Arena.ofTree t).children x.id = x.children.map Site.id := by
  obtain ⟨n, found, kind, -, -, record⟩ := exists_node formed mem
  have read : ((Arena.ofTree t).recordOf n).map (Record.childIds n.kind)
      = x.entry.record?.map fun r => r.children x.tree.kind Option.toList Option.toList := by
    rw [← record, Option.map_map, kind]
    exact congrArg (Option.map · _) (funext fun r => (Record.children_rename _ r _ _ _).symm)
  simp only [Arena.children, found]
  rw [read]
  show ((x.tree.record?.map (Record.placed x.tree.kind x.start)).map _).getD []
    = Record.places x.start x.tree.children
  unfold Tree.children
  cases x.tree.record? with
  | none => rfl
  | some r => exact Record.children_placed _ _ r

/-- A node is the parent of exactly the children. -/
theorem parent_ofTree {c : Site} (inside : c ∈ t.sites) :
    (Arena.ofTree t).parent? c.id = some x.id ↔ c ∈ x.children := by
  have fits := (Site.formed_of_mem_postorder formed mem).fits
  rw [(holds_ofTree formed).parent, List.getElem?_map, getElem?_sites mem]
  simp only [Option.map_some, Option.some.injEq, exists_eq_left']
  rw [(Site.links_entry fits).mem_iff, List.mem_map]
  constructor
  · rintro ⟨y, child, same⟩
    rwa [← Site.eq_of_id_eq (Site.mem_postorder_of_child mem child) inside same]
  · intro child
    exact ⟨c, child, rfl⟩

end lookup

end Tree

end Shapewire
