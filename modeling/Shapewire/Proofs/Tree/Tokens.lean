/-
Which tokens of a source give which nodes.

The tokens that the parser consumes from the start of a source to its end are shared out among its
nodes: each belongs to the innermost node around it.  A name, a literal and each of `this`, `true`,
`false` and `null` belongs to a leaf of its own, which covers it and says what it says, and a walk
meets these leaves in the order of their tokens.  All other tokens belong to nodes that are told by
them (`Spelling`): marks, reserved words, and a few words that are names elsewhere (`Word.Tells`).

`SourceTree.Accounts` says so of the table of a source.  The tree is divided along the grammar
(`Woven.exists_shared`), and a table has the nodes of its tree.
-/
import Shapewire.Proofs.Analysis.Reading
import Shapewire.Proofs.Tree.Sharing
import Shapewire.Proofs.Tree.WellKinded

namespace Shapewire

namespace Arena

/-- Whether the node at a place is one token. -/
def isTokenLeaf (a : Arena) (id : NodeId) : Bool := a.kindIs NodeKind.isTokenLeaf id

/-- What the leaf at a place says. -/
def leafText? (a : Arena) (id : NodeId) : Option String :=
  (((a.record? id).map (Record.rename a.names.resolve)).bind Record.said?).or
    ((a.kindAt? id).bind NodeKind.spelling?)

end Arena

namespace SourceTree

/-- The nodes of a source account for tokens, each of which belongs to one of them. -/
structure Accounts (s : SourceTree) (shares : List (Share NodeId)) : Prop where
  /-- A token lies in the node it belongs to, and in no child of that node. -/
  innermost : ∀ e ∈ shares, ∃ outer, s.spanOf e.owner = some outer ∧
    outer.start ≤ e.token.span.start ∧ e.token.span.stop ≤ outer.stop ∧
    ∀ child ∈ s.arena.children e.owner, ∀ inner, s.spanOf child = some inner → e.token.Apart inner
  /-- A leaf has one token, with its span, and says what the token says. -/
  leaf : ∀ id n, s.arena.get? id = some n → n.kind.isTokenLeaf = true →
    ∃ token, tokensOf id shares = [token] ∧ n.span = token.span ∧
      ∃ p parent, s.arena.parent? id = some p ∧ s.arena.kindAt? p = some parent ∧
        Says parent n.kind (s.arena.leafText? id) token
  /-- A walk meets the leaves in the order of their tokens. -/
  inOrder : (shares.map Share.owner).filter s.arena.isTokenLeaf
    = (s.arena.preorder s.root).filter s.arena.isTokenLeaf
  /-- Any other node has the marks and words of its construct. -/
  spelling : ∀ id n, s.arena.get? id = some n → n.kind.isTokenLeaf = false →
    Spelling n.kind n.flags ((s.arena.recordOf n).bind (s.arena.kinds? n.kind)) (tokensOf id shares)
  /-- A token that belongs to no leaf is a mark, or a word that tells what its node is. -/
  tells : ∀ e ∈ shares, ∀ n, s.arena.get? e.owner = some n → n.kind.isTokenLeaf = false →
    ∀ word, Word.of? e.token.kind e.token.value = some word → word.Tells n.kind n.flags

end SourceTree

/-! ### The tree of a source -/

theorem Record.said?_placed (kind : NodeKind) (start : Nat)
    (r : Record Tree (Option Tree) String) : (r.placed kind start).said? = r.said? := by
  cases r
  case call callee arguments => cases arguments <;> rfl
  case loop =>
    by_cases last : kind = .doStatement
    all_goals
      simp only [placed, mapM, last, if_true, if_false]
      rfl
  all_goals rfl

namespace Tree

variable {t : Tree} (formed : t.Formed) {x : Site} (mem : x ∈ t.sites)

include formed mem

theorem isTokenLeaf_ofTree : (Arena.ofTree t).isTokenLeaf x.id = x.tree.kind.isTokenLeaf :=
  kindIs_ofTree formed mem _

/-- The kinds that the record of a node refers to, if it has one, are those of the subtrees. -/
theorem recordKinds_ofTree {n : Node} (found : (Arena.ofTree t).get? x.id = some n) :
    ((Arena.ofTree t).recordOf n).bind ((Arena.ofTree t).kinds? n.kind)
      = x.tree.record?.map Record.kinds := by
  rcases recordOf_cases formed mem found with ⟨form, none⟩ | ⟨r, stored, form, at_place, kinds⟩
  · rw [form, none]
    rfl
  · rw [form, at_place]
    exact kinds

theorem leafText?_ofTree : (Arena.ofTree t).leafText? x.id = x.tree.leafText? := by
  have said : (fun r : Record Tree (Option Tree) String => (r.placed x.tree.kind x.start).said?)
      = Record.said? := funext fun r => Record.said?_placed _ _ r
  rw [Arena.leafText?, record_ofTree formed mem, kindAt?_ofTree formed mem, Option.bind_map,
    Option.bind_some, Function.comp_def, said]
  rfl

end Tree

/-- A share whose owner is known, as one whose owner may be missing. -/
def Share.known {α : Type} (e : Share α) : Share (Option α) := ⟨e.token, some e.owner⟩

namespace SourceTree

variable {s : SourceTree} {file text : String}

theorem mem_sites_iff {x : Site} : x ∈ s.tree.sites ↔ x ∈ Site.within 0 [s.tree] := by
  rw [Site.mem_within_cons]
  exact (or_iff_left List.not_mem_nil).symm

/-- The tokens of a source that parses are shared out among all sites of its tree. -/
theorem shared_of_parse (parsed : parse file text = .ok s) :
    ∃ (last : Place) (shares : List (Share NodeId)),
      (Place.start s.text.toList).Consumes (shares.map Share.token) last ∧
        last.token = .endOfFile ∧ (∀ e ∈ shares, e.token.IsSpelled) ∧
        s.tree.kind = .sourceFile ∧
        Shared s.arena.isTokenLeaf .sourceFile 0 [s.tree] (shares.map Share.known) := by
  have formed := formed_of_parse parsed
  obtain ⟨rfl, parsed⟩ := text_of_parse parsed
  obtain ⟨ts, last, derived, ended, root⟩ := Tree.derives_parse parsed
  obtain ⟨own, spare, tokens, consumes, woven⟩ := weaves_of_derives derived .sourceFile trivial
  obtain rfl := spare.eq_nil rfl
  have spread := (consumes.spread (Place.sound_start _)).1
  have kind : s.tree.kind = .sourceFile := by rw [root]; rfl
  have span : s.tree.span = ⟨0, Text.byteLength s.text.toList⟩ := by rw [root]; rfl
  have children : s.tree.children = ts := by
    rw [root]
    simp [Tree.children, Tree.record?, Record.children]
  have agrees {x : Site} (mem : x ∈ s.tree.sites) :
      s.arena.isTokenLeaf x.id = x.tree.kind.isTokenLeaf := by
    rw [s.arena_eq]
    exact Tree.isTokenLeaf_ofTree formed mem
  rw [← kind, ← children] at woven
  obtain ⟨inner, rfl, free, shared⟩ := woven.exists_shared spread fun x mem =>
    agrees (Site.mem_postorder_iff.mpr (.inl mem))
  have spells : s.tree.Spells .sourceFile (tokensOf none inner) := by
    rw [free, root]
    exact Spelling.marked rfl rfl
  have whole := shared.cons .nil spells (fun e mem => ?_) (List.forall_mem_nil _)
    (agrees (Tree.mem_sites_self _))
  · refine ⟨last, inner.map fun e => ⟨e.token, e.owner.getD (Site.id ⟨0, s.tree⟩)⟩, ?_, ended, ?_,
      kind, ?_⟩
    · rw [List.map_map]
      exact consumes
    · have spelled := consumes.spelled (Scanner.spelled_scan _)
      simpa using spelled
    · rw [List.append_nil] at whole
      rw [List.map_map]
      exact whole
  · rw [span]
    exact ⟨Nat.zero_le _, spread.stop_le (List.mem_map_of_mem mem)⟩

/-- A node of the table is the root of a site. -/
theorem exists_site_of_get? (formed : s.tree.Formed) {id : NodeId} {n : Node}
    (found : s.arena.get? id = some n) :
    ∃ x ∈ s.tree.sites, x.id = id ∧ n.kind = x.tree.kind ∧ n.span = x.tree.span := by
  rw [s.arena_eq] at found
  obtain ⟨x, mem, rfl⟩ := Tree.exists_site_of_get? formed found
  obtain ⟨n', found', kind, span, -⟩ := Tree.exists_node formed mem
  obtain rfl := Option.some.inj (found'.symm.trans found)
  exact ⟨x, mem, rfl, kind, span⟩

section table

variable {shares : List (Share NodeId)} (formed : s.tree.Formed)
  (shared : Shared s.arena.isTokenLeaf .sourceFile 0 [s.tree] (shares.map Share.known))

theorem tokensOf_known (id : NodeId) :
    tokensOf (some id) (shares.map Share.known) = tokensOf id shares :=
  tokensOf_map (f := some) fun _ _ => Option.some_inj

theorem isSpelled_of_mem {token : Terminal} {id : NodeId} (mem : token ∈ tokensOf id shares)
    (spelled : ∀ e ∈ shares, e.token.IsSpelled) : token.IsSpelled := by
  obtain ⟨e, inside, rfl⟩ := List.mem_map.mp mem
  exact spelled e (List.mem_filter.mp inside).1

include shared

/-- What a token belongs to is a site that the token lies in. -/
theorem exists_owner {e : Share NodeId} (mem : e ∈ shares) :
    ∃ x ∈ s.tree.sites, x.id = e.owner ∧ x.tree.Around e.token := by
  obtain ⟨x, inside, found⟩ := shared.inside e.known (List.mem_map_of_mem mem) e.owner rfl
  exact ⟨x, mem_sites_iff.mpr inside, found⟩

/-- A site within another has a parent and is spelled by its tokens. -/
theorem spells_site {x : Site} (mem : x ∈ s.tree.sites) :
    ∃ parent, x.tree.Spells parent (tokensOf x.id shares) ∧
      (x = s.tree.site ∨ ∃ y ∈ s.tree.sites, y.tree.kind = parent ∧ x ∈ y.children) := by
  by_cases root : x = s.tree.site
  · subst root
    have spells := shared.spells s.tree.site List.mem_cons_self
    rw [tokensOf_known] at spells
    exact ⟨_, spells, .inl rfl⟩
  · obtain ⟨y, above, child⟩ := Site.exists_parent mem root
    have spells := shared.below y (mem_sites_iff.mp above) x child
    rw [tokensOf_known] at spells
    exact ⟨_, spells, .inr ⟨y, above, rfl, child⟩⟩

include formed

omit shared in
/-- A token that a site is the innermost around lies in the node of the site and in none of its
children. -/
theorem innermost_of_around {x : Site} (inside : x ∈ s.tree.sites) {token : Terminal}
    (around : x.tree.Around token) : ∃ outer, s.spanOf x.id = some outer ∧
      outer.start ≤ token.span.start ∧ token.span.stop ≤ outer.stop ∧
      ∀ child ∈ s.arena.children x.id, ∀ inner, s.spanOf child = some inner →
        token.Apart inner := by
  refine ⟨x.tree.span, spanOf_site formed inside, around.starts, around.stops, ?_⟩
  intro child below inner found
  rw [s.arena_eq, Tree.children_ofTree formed inside] at below
  obtain ⟨c, at_c, rfl⟩ := List.mem_map.mp below
  rw [spanOf_site formed (Site.mem_postorder_of_child inside at_c)] at found
  cases found
  exact around.apart c.tree (Site.tree_mem_of_mem_row at_c)

/-- A leaf is one token and says what the token says. -/
theorem leaf_of_shared (root : s.tree.kind = .sourceFile)
    (spelled : ∀ e ∈ shares, e.token.IsSpelled) {id : NodeId} {n : Node}
    (found : s.arena.get? id = some n) (isLeaf : n.kind.isTokenLeaf = true) :
    ∃ token, tokensOf id shares = [token] ∧ n.span = token.span ∧
      ∃ p parent, s.arena.parent? id = some p ∧ s.arena.kindAt? p = some parent ∧
        Says parent n.kind (s.arena.leafText? id) token := by
  obtain ⟨x, mem, rfl, kind, span⟩ := exists_site_of_get? formed found
  obtain ⟨parent, spells, above⟩ := spells_site shared mem
  rw [kind] at isLeaf
  rw [Tree.Spells, if_pos isLeaf] at spells
  obtain ⟨-, token, one, same, saying⟩ := spells
  have text := saying (isSpelled_of_mem (one ▸ List.mem_singleton_self token) spelled)
  rcases above with rfl | ⟨y, mem', rfl, child⟩
  · rw [show s.tree.site.tree.kind = .sourceFile from root] at isLeaf
    cases isLeaf
  · refine ⟨token, one, span.trans same, y.id, y.tree.kind, ?_, ?_, ?_⟩
    · rw [s.arena_eq]
      exact (Tree.parent_ofTree formed mem' mem).mpr child
    · rw [s.arena_eq]
      exact Tree.kindAt?_ofTree formed mem'
    · rw [s.arena_eq, Tree.leafText?_ofTree formed mem, kind]
      exact text

theorem spelling_of_shared {id : NodeId} {n : Node} (found : s.arena.get? id = some n)
    (noLeaf : n.kind.isTokenLeaf = false) :
    Spelling n.kind n.flags ((s.arena.recordOf n).bind (s.arena.kinds? n.kind))
      (tokensOf id shares) := by
  obtain ⟨x, mem, rfl, kind, -⟩ := exists_site_of_get? formed found
  obtain ⟨parent, spells, -⟩ := spells_site shared mem
  rw [kind] at noLeaf
  rw [Tree.Spells, if_neg (by simp [noLeaf])] at spells
  rw [s.arena_eq] at found ⊢
  rw [Tree.recordKinds_ofTree formed mem found, Tree.flags_of_get? mem found, kind]
  exact spells

/-- The nodes of a tree account for the tokens that its sites share. -/
theorem accounts_of_shared (root : s.tree.kind = .sourceFile)
    (spelled : ∀ e ∈ shares, e.token.IsSpelled) : s.Accounts shares where
  innermost := by
    intro e mem
    obtain ⟨x, inside, place, around⟩ := exists_owner shared mem
    exact place ▸ innermost_of_around formed inside around
  leaf := fun _ _ => leaf_of_shared formed shared root spelled
  inOrder := by
    have walk : s.arena.preorder s.root = s.tree.site.preorder.map Site.id := by
      rw [s.arena_eq, s.root_eq, ← Tree.id_site,
        Tree.preorder_ofTree formed (Tree.mem_sites_self _)]
    have leaves := shared.leaves
    rw [walk]
    simpa [Site.row, Tree.site, List.filterMap_map, Share.known, Function.comp_def] using leaves
  spelling := fun _ _ => spelling_of_shared formed shared
  tells := by
    intro e mem n found noLeaf word is
    refine (spelling_of_shared formed shared found noLeaf).tells word ?_
    refine List.mem_filterMap.mpr ⟨e.token, ?_, is⟩
    exact List.mem_map_of_mem (List.mem_filter.mpr ⟨mem, by simp⟩)

end table

/-- **No name or literal of a source that parses is lost or duplicated**: the tokens that the parser
consumes from the start of the source to its end belong to its nodes, those of names and literals to
leaves of their own. -/
theorem accounts_of_parse (parsed : parse file text = .ok s) :
    ∃ (last : Place) (shares : List (Share NodeId)),
      (Place.start s.text.toList).Consumes (shares.map Share.token) last ∧
        last.token = .endOfFile ∧ s.Accounts shares := by
  obtain ⟨last, shares, consumes, ended, spelled, root, shared⟩ := shared_of_parse parsed
  exact ⟨last, shares, consumes, ended,
    accounts_of_shared (formed_of_parse parsed) shared root spelled⟩

/-- Words that are names in one place and tell what a node is in another. -/
theorem accounts_of_parse_words : ∃ s,
    parse "Words.js" ("async (a) => await a.get; x = \x7b get b() \x7b return this \x7d, " ++
      "of: /c/g, if: `d$\x7be\x7d` \x7d; for (y of z) async.delete(null, 1)") = .ok s ∧
      ∃ (last : Place) (shares : List (Share NodeId)),
        (Place.start s.text.toList).Consumes (shares.map Share.token) last ∧
          last.token = .endOfFile ∧ s.Accounts shares :=
  exists_of_any (q := fun _ => true) (by decide +kernel) fun _ parsed _ => accounts_of_parse parsed

end SourceTree

end Shapewire
