/-
The node table of a parsed source is one tree.

`IsTree` says so of the nodes: the root is the node added last, children come before their
parents, a walk from the root meets every node once, and the parent of a node is the one it is a
child of.  `Typed` says that the records fit: a node is answered by the accessor of one form at
most, and every record that the table keeps is some node's own.

Both hold of every formed tree's table (`isTree_ofTree`, `typed_ofTree`).  What the grammar adds is
that the table which was filled while a source was read is the table of a formed tree, without a
node that some parser read and left behind (`Arena.parse_eq`, `Tree.formed_parse`).
-/
import Shapewire.Proofs.Grammar.Filling
import Shapewire.Proofs.Grammar.Formed
import Shapewire.Proofs.Tree.Walk
import Shapewire.Tree.Source

namespace Shapewire

namespace Arena

/-- The record of a node if it is one of the form `p`, as the accessor of that form finds it. -/
def read (a : Arena) (p : Pool) (n : Node) : Option NodeRecord :=
  if n.kind.pool? = some p then n.data?.bind fun k => (a.pool p)[k]? else none

/-- The record of a node is what the accessor of its kind finds. -/
theorem recordOf_eq_read (a : Arena) (n : Node) :
    a.recordOf n = n.kind.pool?.bind fun p => a.read p n := by
  unfold recordOf read
  cases form : n.kind.pool? with
  | none => rfl
  | some p =>
    simp only [Option.bind_eq_bind, Option.bind_some, if_true]

/-- The nodes are those of one tree. -/
structure IsTree (a : Arena) (root : NodeId) : Prop where
  /-- The root was added last. -/
  last : root + 1 = a.size
  /-- Children come before their parents. -/
  before : ∀ id c, c ∈ a.children id → c < id
  /-- A walk from the root meets every node once. -/
  visited : (a.preorder root).Perm (List.range a.size)
  /-- A node is the parent of its children and of no other node. -/
  parent : ∀ c p, a.parent? c = some p ↔ c ∈ a.children p
  /-- Only the root has no parent. -/
  orphan : ∀ id, id < a.size → (a.parent? id = none ↔ id = root)

/-- The records are those of the nodes. -/
structure Typed (a : Arena) : Prop where
  /-- A node has a record if there is one for its kind. -/
  carries : ∀ id n, a.get? id = some n → (n.data?.isSome ↔ n.kind.pool?.isSome)
  /-- A node with a record is answered by the accessor of its kind, with a record of that form. -/
  answered : ∀ id n, a.get? id = some n → n.data?.isSome →
    ∃ p r, n.kind.pool? = some p ∧ a.read p n = some r ∧ r.pool = p
  /-- No other accessor answers. -/
  unanswered : ∀ id n p, a.get? id = some n → n.kind.pool? ≠ some p → a.read p n = none
  /-- Every record is the record of one node. -/
  owner : ∀ p k, k < (a.pool p).size →
    ∃! id, ∃ n, a.get? id = some n ∧ n.kind.pool? = some p ∧ n.data? = some k

end Arena

namespace Tree

variable {t : Tree}

/-- A place that holds a node is the place of a site. -/
theorem exists_site_of_get? (formed : t.Formed) {id : NodeId} {n : Node}
    (found : (Arena.ofTree t).get? id = some n) : ∃ x ∈ t.sites, x.id = id := by
  have inside := (holds_ofTree formed).get?_lt found
  rw [List.length_map, sites, Site.length_postorder] at inside
  exact exists_site inside

/-- A node of the table is the root of a site. -/
theorem exists_site_of_node (formed : t.Formed) {id : NodeId} {n : Node}
    (found : (Arena.ofTree t).get? id = some n) : ∃ x ∈ t.sites, n.kind = x.tree.kind ∧
      n.data?.isSome = x.tree.record?.isSome ∧
      ((Arena.ofTree t).recordOf n).map (Record.rename (Arena.ofTree t).names.resolve)
        = x.entry.record? := by
  obtain ⟨x, mem, rfl⟩ := exists_site_of_get? formed found
  obtain ⟨n', found', kind, -, data, record⟩ := exists_node formed mem
  obtain rfl := Option.some.inj (found.symm.trans found')
  exact ⟨x, mem, kind, data, record⟩

theorem id_site (t : Tree) : t.site.id = t.size - 1 := by
  simp [site, Site.id]

theorem mem_children_ofTree (formed : t.Formed) {x : Site} (mem : x ∈ t.sites) {c : NodeId} :
    c ∈ (Arena.ofTree t).children x.id ↔ ∃ y ∈ x.children, y.id = c := by
  rw [children_ofTree formed mem, List.mem_map]

/-- What is a child is the child of a site. -/
theorem exists_site_of_mem_children (formed : t.Formed) {id c : NodeId}
    (child : c ∈ (Arena.ofTree t).children id) :
    ∃ x ∈ t.sites, x.id = id ∧ ∃ y ∈ x.children, y.id = c := by
  cases found : (Arena.ofTree t).get? id with
  | none => simp [Arena.children, found] at child
  | some n =>
    obtain ⟨x, mem, rfl⟩ := exists_site_of_get? formed found
    exact ⟨x, mem, rfl, (mem_children_ofTree formed mem).mp child⟩

theorem parent_iff_mem_children (formed : t.Formed) (c p : NodeId) :
    (Arena.ofTree t).parent? c = some p ↔ c ∈ (Arena.ofTree t).children p := by
  constructor
  · intro parent
    obtain ⟨e, found, link⟩ := ((holds_ofTree formed).parent c p).mp parent
    rw [List.getElem?_map, Option.map_eq_some_iff] at found
    obtain ⟨x, found, rfl⟩ := found
    obtain rfl := id_of_getElem?_sites found
    have mem := List.mem_of_getElem? found
    have fits := (Site.formed_of_mem_postorder formed mem).fits
    rw [children_ofTree formed mem]
    exact (Site.links_entry fits).mem_iff.mp link
  · intro child
    obtain ⟨x, mem, rfl, y, below, rfl⟩ := exists_site_of_mem_children formed child
    exact (parent_ofTree formed mem (Site.mem_postorder_of_child mem below)).mpr below

/-- The whole tree is pending in its own table, with nothing left to attach it to. -/
theorem attaches_ofTree (formed : t.Formed) :
    Arena.forSource.Attaches (.ofTree t) [t.size - 1] := by
  have pending : Pending Arena.forSource t (t.size - 1) (.ofTree t) :=
    { grown := (Arena.grow_forSource t).symm
      last := by
        rw [size_ofTree formed]
        exact Nat.sub_add_cancel t.size_pos }
  exact pending.attaches rfl formed

/-- **The table of a formed tree is one tree.** -/
theorem isTree_ofTree (formed : t.Formed) : (Arena.ofTree t).IsTree (t.size - 1) where
  last := by
    rw [size_ofTree formed]
    exact Nat.sub_add_cancel t.size_pos
  before id c child := by
    obtain ⟨x, -, rfl, y, below, rfl⟩ := exists_site_of_mem_children formed child
    exact Site.id_lt_of_mem_children below
  visited := by
    rw [← id_site, preorder_ofTree formed (mem_sites_self t), size_ofTree formed,
      List.range_eq_range']
    exact ((Site.preorder_perm _).map _).trans (.of_eq (Site.map_id_postorder _))
  parent := parent_iff_mem_children formed
  orphan id inside := by
    rw [(attaches_ofTree formed).orphan id (Nat.zero_le id) inside, List.mem_singleton]

/-- **The records of a formed tree's table are those of its nodes.** -/
theorem typed_ofTree (formed : t.Formed) : (Arena.ofTree t).Typed where
  carries id n found := by
    obtain ⟨x, mem, kind, data, -⟩ := exists_site_of_node formed found
    have fits := (Site.formed_of_mem_postorder formed mem).fits
    rw [data, kind, fits.form, Option.isSome_map]
  answered id n found carried := by
    obtain ⟨x, mem, kind, data, record⟩ := exists_site_of_node formed found
    have fits := (Site.formed_of_mem_postorder formed mem).fits
    obtain ⟨r, present⟩ := Option.isSome_iff_exists.mp (data.symm.trans carried)
    have form : n.kind.pool? = some r.pool := by
      rw [kind, fits.form, present]
      rfl
    have entry : x.entry.record? = some (r.placed x.tree.kind x.start) := by
      exact congrArg (Option.map _) present
    rw [entry, Option.map_eq_some_iff] at record
    obtain ⟨stored, at_place, named⟩ := record
    refine ⟨r.pool, stored, form, ?_, ?_⟩
    · rw [Arena.recordOf_eq_read, form] at at_place
      exact at_place
    · rw [← Record.pool_rename (Arena.ofTree t).names.resolve stored, named, Record.pool_placed]
  unanswered id n p found other := if_neg other
  owner := (holds_ofTree formed).owner

end Tree

namespace SourceTree

/-- The table was filled from a tree that the source is read as. -/
theorem exists_tree (s : SourceTree) : Tree.parse s.file s.text.toList = .ok s.tree ∧
    s.root = s.tree.size - 1 ∧ s.arena = .ofTree s.tree := by
  have filled := s.read
  rw [Arena.parse_eq] at filled
  unfold tree
  generalize Tree.parse s.file s.text.toList = r at filled ⊢
  cases r with
  | error e => cases filled
  | ok t =>
    obtain ⟨root, arena⟩ := Prod.mk.inj (Except.ok.inj filled)
    exact ⟨rfl, root.symm, arena.symm⟩

theorem arena_eq (s : SourceTree) : s.arena = .ofTree s.tree := s.exists_tree.2.2

theorem root_eq (s : SourceTree) : s.root = s.tree.size - 1 := s.exists_tree.2.1

/-- A source keeps the name and the text that it was read from. -/
theorem file_text_of_parse {file text : String} {s : SourceTree}
    (parsed : parse file text = .ok s) : s.file = file ∧ s.text = text := by
  unfold parse at parsed
  split at parsed
  · cases parsed
  · cases parsed
    exact ⟨rfl, rfl⟩

/-- The text that a source keeps is the text that it was read from. -/
theorem text_of_parse {file text : String} {s : SourceTree} (parsed : parse file text = .ok s) :
    s.text = text ∧ Tree.parse file text.toList = .ok s.tree := by
  obtain ⟨rfl, rfl⟩ := file_text_of_parse parsed
  exact ⟨rfl, s.exists_tree.1⟩

/-- A source that does not parse has no tree either. -/
theorem tree_error_of_parse {file text : String} {e : ParseError}
    (failed : parse file text = .error e) : Tree.parse file text.toList = .error e := by
  have filled : Arena.parse file text.toList = .error e := by
    unfold parse at failed
    split at failed
    · rename_i found
      rw [found, Except.error.inj failed]
    · cases failed
  rw [Arena.parse_eq] at filled
  cases tree : Tree.parse file text.toList with
  | error e' =>
    rw [tree] at filled
    exact congrArg Except.error (Except.error.inj filled)
  | ok t =>
    rw [tree] at filled
    cases filled

/-- A source that has a tree parses. -/
theorem exists_parse {file text : String} {t : Tree} (tree : Tree.parse file text.toList = .ok t) :
    ∃ s, parse file text = .ok s ∧ s.tree = t := by
  cases parsed : parse file text with
  | error e => cases tree.symm.trans (tree_error_of_parse parsed)
  | ok s => exact ⟨s, rfl, Except.ok.inj ((text_of_parse parsed).2.symm.trans tree)⟩

/-- A source that has no tree does not parse. -/
theorem parse_error_of_tree {file text : String} {e : ParseError}
    (failed : Tree.parse file text.toList = .error e) : parse file text = .error e := by
  cases parsed : parse file text with
  | error e' => exact congrArg _ (Except.error.inj ((tree_error_of_parse parsed).symm.trans failed))
  | ok s => cases failed.symm.trans (text_of_parse parsed).2

/-- A source that parses keeps the table of a formed tree. -/
theorem formed_of_parse {file text : String} {s : SourceTree} (parsed : parse file text = .ok s) :
    s.tree.Formed := Tree.formed_parse (text_of_parse parsed).2

/-- A result that passes a check is some value, of which all holds that holds of every such. -/
theorem exists_of_any {ε α : Type} {e : Except ε α} {q : α → Bool} {p : α → Prop}
    (checked : e.toOption.any q) (each : ∀ a, e = .ok a → q a → p a) : ∃ a, e = .ok a ∧ p a := by
  cases e with
  | error e => cases checked
  | ok a => exact ⟨a, rfl, each a rfl checked⟩

/-- **The node table of every source that parses is exactly one tree**, and its records are those
of its nodes. -/
theorem isTree_of_parse {file text : String} {s : SourceTree} (parsed : parse file text = .ok s) :
    s.arena.IsTree s.root ∧ s.arena.Typed := by
  rw [s.arena_eq, s.root_eq]
  exact ⟨Tree.isTree_ofTree (formed_of_parse parsed), Tree.typed_ofTree (formed_of_parse parsed)⟩

/-- A function with a default that leaves a hole, and a loop that tests last. -/
theorem isTree_of_parse_loop : ∃ s,
    parse "Loop.js" "function Loop(a, b = [,1]) \x7b do this.a = a; while (b) \x7d" = .ok s ∧
      s.arena.IsTree s.root ∧ s.arena.Typed :=
  exists_of_any (q := fun _ => true) (by decide +kernel) fun _ parsed _ => isTree_of_parse parsed

end SourceTree

end Shapewire
