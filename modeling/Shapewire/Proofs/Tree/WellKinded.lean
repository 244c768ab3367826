/-
The nodes of a parsed source are well-kinded.

A node table has untyped references and one pool of records for several kinds.  `Arena.WellKinded`
asks of a node of a table what `Record.WellKinded` allows: the record that the pool of its kind has
for it refers to nodes of the right kinds, and refers to none only where it may.

A table reads back what was laid out: at the places that a record refers to there are the kinds of
the subtrees that were in its slots (`Record.kinds_placed`), and a node carries the flags of its
tree and of its record (`Arena.map_flags_foldl`).
-/
import Shapewire.Proofs.Grammar.Kinded
import Shapewire.Proofs.Grammar.Soundness
import Shapewire.Proofs.Tree.Everywhere
import Shapewire.Proofs.Tree.Source

namespace Shapewire

namespace Arena

/-- The kind of the node at a place. -/
def kindAt? (a : Arena) (id : NodeId) : Option NodeKind := (a.get? id).map Node.kind

/-- The kinds of the nodes that a record refers to, if there is a node wherever it does. -/
def kinds? (a : Arena) (kind : NodeKind) (r : NodeRecord) : Option KindRecord :=
  r.mapM kind (·.bind a.kindAt?) (Option.mapM a.kindAt?) fun _ => ()

/-- The node holds what its kind and flags allow. -/
def WellKinded (a : Arena) (n : Node) : Prop :=
  match a.recordOf n with
  | none => n.kind.isLeaf
  | some r => ∃ ks, a.kinds? n.kind r = some ks ∧ ks.WellKinded n.kind n.flags

end Arena

/-! ### The kinds that a record refers to -/

@[simp] theorem Tree.totalSize_append (ts us : List Tree) :
    totalSize (ts ++ us) = totalSize ts + totalSize us := by
  induction ts with
  | nil => simp
  | cons t ts ih => rw [List.cons_append, totalSize_cons, totalSize_cons, ih, Nat.add_assoc]

namespace Record

/-- Names do not matter to what forgets them. -/
theorem mapM_rename {ρ ο ν ν' ρ' ο' : Type} (f : ν → ν') (kind : NodeKind) (g : ρ → Option ρ')
    (g' : ο → Option ο') (r : Record ρ ο ν) :
    (r.rename f).mapM kind g g' (fun _ => ()) = r.mapM kind g g' fun _ => () := by
  cases r
  case call callee arguments => cases arguments <;> simp [rename, mapM, mapM_pure]
  all_goals simp [rename, mapM, mapM_pure]

section placed

/-- At the places of neighbouring trees there are their kinds. -/
def Agrees (kindAt? : NodeId → Option NodeKind) (start : Nat) (ts : List Tree) : Prop :=
  ∀ s ∈ Site.row start ts, kindAt? s.id = some s.tree.kind

variable {kindAt? : NodeId → Option NodeKind} {start : Nat} {t : Tree} {ts us : List Tree}

theorem agrees_nil : Agrees kindAt? start [] := nofun

theorem agrees_cons : Agrees kindAt? start (t :: ts) ↔
    kindAt? (start + t.size - 1) = some t.kind ∧ Agrees kindAt? (start + t.size) ts :=
  List.forall_mem_cons

theorem agrees_append : Agrees kindAt? start (ts ++ us) ↔
    Agrees kindAt? start ts ∧ Agrees kindAt? (start + Tree.totalSize ts) us := by
  induction ts generalizing start with
  | nil => simp [agrees_nil]
  | cons t ts ih =>
    rw [List.cons_append, agrees_cons, agrees_cons, ih, and_assoc, Tree.totalSize_cons,
      Nat.add_assoc]

theorem mapM_places (agrees : Agrees kindAt? start ts) :
    ((places start ts).map some).mapM (Option.bind · kindAt?) = some (ts.map Tree.kind) := by
  induction ts generalizing start with
  | nil => rfl
  | cons t ts ih =>
    obtain ⟨here, behind⟩ := agrees_cons.mp agrees
    simp [here, ih behind]

theorem mapM_head?_places {t? : Option Tree} (agrees : Agrees kindAt? start t?.toList) :
    (places start t?.toList).head?.mapM kindAt? = some (t?.map Tree.kind) := by
  cases t? with
  | none => rfl
  | some t =>
    have here := (agrees_cons.mp agrees).1
    simp [here]

/-- **A table has the kinds of the subtrees at the places that a laid out record refers to.** -/
theorem kinds_placed {kind : NodeKind} {r : Record Tree (Option Tree) String} (fits : r.Fits kind)
    (agrees : Agrees kindAt? start (r.children kind (fun c => [c]) Option.toList)) :
    (r.placed kind start).mapM kind (·.bind kindAt?) (Option.mapM kindAt?) (fun _ => ())
      = some r.kinds := by
  unfold placed
  cases r
  case loop initializer condition incrementor body =>
    by_cases last : kind = .doStatement
    · obtain ⟨rfl, rfl⟩ := fits.testsLast _ _ _ _ last rfl
      simp only [children, if_pos last, agrees_append, agrees_cons, Tree.totalSize_cons,
        Tree.totalSize_nil, Nat.add_zero] at agrees
      simp [kinds, map, mapM, last, bind_apply, map_apply, agrees, mapM_head?_places]
    · simp only [children, if_neg last, agrees_append, agrees_cons, Tree.totalSize_append,
        ← Nat.add_assoc] at agrees
      simp [kinds, map, mapM, last, bind_apply, map_apply, agrees, mapM_head?_places]
  case' call callee arguments => cases arguments
  all_goals
    simp only [children, agrees_append, agrees_cons, Tree.totalSize_append,
      Tree.totalSize_cons, Tree.totalSize_nil, Nat.add_zero, ← Nat.add_assoc, Option.getD_some,
      List.flatMap_singleton'] at agrees
    simp [kinds, map, mapM, bind_apply, map_apply, pure_apply, mapM_place, agrees, mapM_places,
      mapM_head?_places, -List.mapM_map]

end placed

/-! ### Flags -/

section flags

variable {ρ ο ν ν' : Type}

theorem flags_rename (f : ν → ν') (r : Record ρ ο ν) : (r.rename f).flags = r.flags := by
  cases r
  case call callee arguments => cases arguments <;> rfl
  all_goals rfl

theorem flags_placed (kind : NodeKind) (start : Nat) (r : Record Tree (Option Tree) String) :
    (r.placed kind start).flags = r.flags := by
  cases r
  case call callee arguments => cases arguments <;> rfl
  case loop =>
    by_cases last : kind = .doStatement
    all_goals
      simp only [placed, mapM, last, if_true, if_false]
      rfl
  all_goals rfl

end flags

end Record

/-- The flags of the node that an entry becomes. -/
def Entry.nodeFlags (e : Entry) : NodeFlags :=
  e.flags.union ((e.record?.map Record.flags).getD .none)

namespace Arena

theorem map_flags_addEntry (a : Arena) (e : Entry) :
    (a.addEntry e).nodes.map Node.flags = (a.nodes.map Node.flags).push e.nodeFlags := by
  obtain ⟨names, r?, -, named, eq⟩ := exists_addEntry_eq a e
  rw [eq, Entry.nodeFlags, ← named _ (.refl _)]
  cases r? with
  | none => simp [add, pushNode, NodeFlags.union, NodeFlags.none]
  | some r =>
    simp only [add]
    rw [foldl_adopt_eq]
    simp [pushNode, pushRecord, Record.flags_rename]

theorem map_flags_foldl (es : List Entry) (a : Arena) :
    (es.foldl addEntry a).nodes.map Node.flags
      = a.nodes.map Node.flags ++ (es.map Entry.nodeFlags).toArray := by
  induction es generalizing a with
  | nil => simp
  | cons e es ih =>
    rw [List.foldl_cons, ih, map_flags_addEntry]
    simp

end Arena

/-! ### The nodes of a table -/

/-- The record of a site's entry is that of its tree, laid out. -/
theorem Site.record?_entry (x : Site) :
    x.entry.record? = x.tree.record?.map (Record.placed x.tree.kind x.start) := rfl

namespace Tree

variable {t : Tree} (formed : t.Formed) {x : Site} (mem : x ∈ t.sites)

include mem in
/-- A node carries the flags of its tree and those on account of its record. -/
theorem flags_of_get? {n : Node} (found : (Arena.ofTree t).get? x.id = some n) :
    n.flags = x.tree.flags.union ((x.tree.record?.map Record.flags).getD .none) := by
  have entries : t.entries 0 = t.sites.map Site.entry := Site.entries_eq_map_postorder t.site
  have all := Arena.map_flags_foldl (t.entries 0) .forSource
  have here : ((Arena.ofTree t).nodes.map Node.flags)[x.id]? = some x.entry.nodeFlags := by
    rw [Arena.ofTree, all, entries]
    simp [Arena.forSource, Arena.withNames, getElem?_sites mem]
  have same : n.flags = x.entry.nodeFlags := by
    rw [Arena.get?] at found
    simpa [found] using here
  rw [same, Entry.nodeFlags, Site.record?_entry, Option.map_map]
  simp only [Function.comp_def, Record.flags_placed]
  rfl

include formed mem in
theorem kindAt?_ofTree : (Arena.ofTree t).kindAt? x.id = some x.tree.kind := by
  obtain ⟨n, found, kind, -⟩ := exists_node formed mem
  rw [Arena.kindAt?, found, Option.map_some, kind]

include formed mem in
/-- The kinds that the record of a node refers to are those of the subtrees. -/
theorem kinds?_ofTree {r : Record Tree (Option Tree) String} (form : x.tree.record? = some r)
    {stored : NodeRecord}
    (named : stored.rename (Arena.ofTree t).names.resolve = r.placed x.tree.kind x.start) :
    (Arena.ofTree t).kinds? x.tree.kind stored = some r.kinds := by
  have fits := (Site.formed_of_mem_postorder formed mem).fits.record r form
  have children : x.tree.children = r.children x.tree.kind (fun c => [c]) Option.toList := by
    rw [Tree.children, form]
  rw [Arena.kinds?, ← Record.mapM_rename (Arena.ofTree t).names.resolve, named]
  refine Record.kinds_placed fits fun s below => kindAt?_ofTree formed ?_
  rw [← children] at below
  exact Site.mem_postorder_of_child mem below

include formed mem in
/-- A node has a record if its tree has one, and it refers to the kinds of the subtrees. -/
theorem recordOf_cases {n : Node} (found : (Arena.ofTree t).get? x.id = some n) :
    (x.tree.record? = none ∧ (Arena.ofTree t).recordOf n = none) ∨
      ∃ r stored, x.tree.record? = some r ∧ (Arena.ofTree t).recordOf n = some stored ∧
        (Arena.ofTree t).kinds? n.kind stored = some r.kinds := by
  obtain ⟨n', found', kind, -, -, record⟩ := exists_node formed mem
  obtain rfl := Option.some.inj (found'.symm.trans found)
  rw [Site.record?_entry] at record
  cases form : x.tree.record? with
  | none =>
    rw [form] at record
    exact .inl ⟨rfl, Option.map_eq_none_iff.mp record⟩
  | some r =>
    rw [form] at record
    obtain ⟨stored, at_place, named⟩ := Option.map_eq_some_iff.mp record
    rw [kind]
    exact .inr ⟨r, stored, rfl, at_place, kinds?_ofTree formed mem form named⟩

include formed in
/-- **The nodes of a well-kinded tree's table are well-kinded.** -/
theorem wellKinded_ofTree (each : t.Everywhere Tree.WellKinded) {id : NodeId} {n : Node}
    (found : (Arena.ofTree t).get? id = some n) : (Arena.ofTree t).WellKinded n := by
  obtain ⟨x, mem, rfl⟩ := exists_site_of_get? formed found
  have kind : n.kind = x.tree.kind := by
    have at_place := kindAt?_ofTree formed mem
    rw [Arena.kindAt?, found] at at_place
    exact Option.some.inj at_place
  have flags := flags_of_get? mem found
  have holds := each.of_mem_postorder mem
  unfold Tree.WellKinded at holds
  unfold Arena.WellKinded
  rcases recordOf_cases formed mem found with ⟨form, none⟩ | ⟨r, stored, form, at_place, kinds⟩
  · rw [form] at holds
    rw [none, kind]
    exact holds
  · rw [form] at holds flags
    rw [at_place, flags]
    exact ⟨r.kinds, kinds, kind ▸ holds⟩

end Tree

namespace SourceTree

/-- The tree of a source that parses is well-kinded everywhere. -/
theorem everywhere_wellKinded_of_parse {file text : String} {s : SourceTree}
    (parsed : parse file text = .ok s) : s.tree.Everywhere Tree.WellKinded := by
  obtain ⟨ts, last, derived, -, root⟩ := Tree.derives_parse (text_of_parse parsed).2
  have statements := kinded_of_derives derived
  rw [root]
  refine .intro (.sourceFile statements.each) fun c mem => statements.within c ?_
  simpa [Tree.children, Tree.record?, Record.children, Record.slots] using mem

/-- **Every node of every source that parses is well-kinded.** -/
theorem wellKinded_of_parse {file text : String} {s : SourceTree}
    (parsed : parse file text = .ok s) :
    ∀ id n, s.arena.get? id = some n → s.arena.WellKinded n := by
  intro id n found
  have everywhere := everywhere_wellKinded_of_parse parsed
  rw [s.arena_eq] at found ⊢
  exact Tree.wellKinded_ofTree (formed_of_parse parsed) everywhere found

/-- A generator with a rest parameter, a loop over a list of variables, and a switch with a
default. -/
theorem wellKinded_of_parse_generator : ∃ s,
    parse "Generator.js" ("function* F(a, ...b) \x7b for (let i = [, ...b], n;;) " ++
      "switch (i) \x7b default: yield; case this: return \x7d \x7d") = .ok s ∧
      ∀ id n, s.arena.get? id = some n → s.arena.WellKinded n :=
  exists_of_any (q := fun _ => true) (by decide +kernel) fun _ parsed _ =>
    wellKinded_of_parse parsed

end SourceTree

end Shapewire
