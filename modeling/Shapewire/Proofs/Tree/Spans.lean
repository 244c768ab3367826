/-
Where the nodes of a parsed source lie.

The statements of a source are woven from its tokens, from the first to the end of the source.
Where the tokens lie one behind the other, the spans of trees woven from them are nested and ordered
(`Woven.laid`): a tree covers a run of tokens, its children cover runs within that one, and the run
of a child ends before that of the next one starts.  `spaced_of_parse` says the same of the nodes
of the table.  The root is the one node that covers more than its tokens: it is the whole text.
-/
import Shapewire.Proofs.Grammar.Soundness
import Shapewire.Proofs.Grammar.Woven
import Shapewire.Proofs.Tree.Everywhere
import Shapewire.Proofs.Tree.Source

namespace Shapewire

/-! ### Runs of tokens -/

namespace Spread

variable {text : List Char} {t : Terminal} {ts us : List Terminal}

theorem sublist (h : Spread text us) (part : ts.Sublist us) : Spread text ts where
  forward t mem := h.forward t (part.subset mem)
  within t mem := h.within t (part.subset mem)
  apart := h.apart.sublist part

/-- A token ends within the text. -/
theorem stop_le (h : Spread text ts) {a : Terminal} (mem : a ∈ ts) :
    a.span.stop ≤ Text.byteLength text := by
  obtain ⟨c, d, start, further, place⟩ := h.within a mem
  rw [place]
  exact (start.trans further).offset_le_byteLength

/-- The last of some tokens is one of them, and none ends behind it. -/
theorem last (h : Spread text (t :: ts)) : ts.getLast?.getD t ∈ t :: ts ∧
    ∀ a ∈ t :: ts, a.span.stop ≤ (ts.getLast?.getD t).span.stop := by
  induction ts generalizing t with
  | nil => simp
  | cons u ts ih =>
    obtain ⟨mem, behind⟩ := ih (h.sublist (List.sublist_cons_self t (u :: ts)))
    rw [List.getLast?_cons, Option.getD_some]
    refine ⟨List.mem_cons_of_mem t mem, List.forall_mem_cons.mpr ⟨?_, behind⟩⟩
    calc t.span.stop
      _ ≤ u.span.start := (List.pairwise_cons.mp h.apart).1 u List.mem_cons_self
      _ ≤ u.span.stop := Nat.le_of_lt (h.forward u (by simp))
      _ ≤ _ := behind u List.mem_cons_self

/-- A run of tokens covers every token in it. -/
theorem cover (h : Spread text (t :: ts)) : ∀ a ∈ t :: ts,
    (t.cover ts).start ≤ a.span.start ∧ a.span.stop ≤ (t.cover ts).stop := by
  intro a mem
  refine ⟨?_, h.last.2 a mem⟩
  rcases List.mem_cons.mp mem with rfl | mem
  · exact Nat.le_refl _
  · have := (List.pairwise_cons.mp h.apart).1 a mem
    have := h.forward t List.mem_cons_self
    simp only [Terminal.cover]
    omega

end Spread

/-! ### Rows of trees -/

namespace Tree

/-- The tree covers a stretch of the text, the children cover parts of it, and each of them ends
before any later one starts. -/
structure Spaced (text : List Char) (t : Tree) : Prop where
  covers : ∃ c d : Cursor, (Cursor.ofText text).Reaches c ∧ c.Reaches d ∧
    t.span = ⟨c.offset, d.offset⟩
  nested : ∀ c ∈ t.children, t.span.start ≤ c.span.start ∧ c.span.stop ≤ t.span.stop
  ordered : t.children.Pairwise fun a b => a.span.stop ≤ b.span.start

/-- The span is that of a run of tokens, or the empty one of a hole before a comma. -/
def OnRun (tokens : List Terminal) (kind : NodeKind) (span : Span) : Prop :=
  (kind = .hole ∧ ∃ comma ∈ tokens, span = .point comma.span.start) ∨
    ∃ first rest, first :: rest <:+: tokens ∧ span = first.cover rest

/-- A tree that lies where it should among the tokens of a text. -/
structure Laid (text : List Char) (tokens : List Terminal) (t : Tree) : Prop where
  spaced : t.Spaced text
  run : OnRun tokens t.kind t.span

/-- The span starts where one of the tokens starts, and ends no later than another. -/
def Among (ts : List Terminal) (span : Span) : Prop :=
  ∃ a ∈ ts, ∃ b ∈ ts, a.span.start = span.start ∧ span.start ≤ span.stop ∧ span.stop ≤ b.span.stop

theorem Among.mono {ts us : List Terminal} {span : Span} (h : Among ts span)
    (part : ∀ t ∈ ts, t ∈ us) : Among us span := by
  obtain ⟨a, inside, b, inside', h⟩ := h
  exact ⟨a, part a inside, b, part b inside', h⟩

end Tree

section rows

variable {text : List Char} {tokens ts own : List Terminal} {us : List Tree} {t : Terminal}
  {parent : NodeKind}

/-- A hole before a comma lies where it should. -/
theorem laid_hole (spread : Spread text tokens) (comma : t ∈ tokens) :
    (Tree.node .hole .none (.point t.span.start) none).Everywhere (Tree.Laid text tokens) := by
  have leaf : (Tree.node .hole .none (.point t.span.start) none).children = [] := rfl
  obtain ⟨c, d, inside, _, span⟩ := spread.within t comma
  refine .intro ⟨⟨⟨c, c, inside, .refl c, ?_⟩, ?_, ?_⟩, .inl ⟨rfl, t, comma, rfl⟩⟩ ?_
  · rw [span]
    rfl
  · simp [leaf]
  · simp [leaf]
  · simp [leaf]

/-- A tree over a run lies where it should if its children do and lie one behind the other. -/
theorem laid_tree {run : List Terminal} {u : Tree} (spread : Spread text tokens)
    (part : t :: run <:+: tokens) (span : u.span = t.cover run)
    (each : ∀ c ∈ u.children, c.Everywhere (Tree.Laid text tokens) ∧ Tree.Among (t :: run) c.span)
    (ordered : u.children.Pairwise fun a b => a.span.stop ≤ b.span.start) :
    u.Everywhere (Tree.Laid text tokens) ∧ Tree.Among (t :: run) u.span := by
  have own := spread.sublist part.sublist
  have forward := own.forward t List.mem_cons_self
  have longest := (own.cover t List.mem_cons_self).2
  have among : Tree.Among (t :: run) u.span := by
    refine ⟨t, List.mem_cons_self, _, own.last.1, ?_⟩
    rw [span]
    exact ⟨rfl, Nat.le_trans (Nat.le_of_lt forward) longest, Nat.le_refl _⟩
  refine ⟨.intro ⟨⟨?_, fun c mem => ?_, ordered⟩, .inr ⟨t, run, part, span⟩⟩ fun c mem => ?_, among⟩
  · obtain ⟨c, _, inside, _, start⟩ := own.within t List.mem_cons_self
    obtain ⟨c', d, inside', further, stop⟩ := own.within _ own.last.1
    have both : u.span = ⟨c.offset, d.offset⟩ := by rw [span, Terminal.cover, start, stop]
    refine ⟨c, d, inside, inside.of_offset_le (inside'.trans further) ?_, both⟩
    obtain ⟨_, _, _, _, _, le, _⟩ := among
    rwa [both] at le
  · obtain ⟨a, inside, b, inside', start, _, stop⟩ := (each c mem).2
    rw [span, ← start]
    exact ⟨(own.cover a inside).1, Nat.le_trans stop (own.cover b inside').2⟩
  · exact (each c mem).1

/-- **Trees woven from tokens lie where they should**, and one behind the other. -/
theorem Woven.laid (woven : Woven parent ts own us) (spread : Spread text tokens)
    (part : ts <:+: tokens) :
    (∀ u ∈ us, u.Everywhere (Tree.Laid text tokens) ∧ Tree.Among ts u.span) ∧
      us.Pairwise fun a b => a.span.stop ≤ b.span.start := by
  induction woven with
  | nil => exact ⟨nofun, .nil⟩
  | @token _ t ts own us _ ih =>
    obtain ⟨each, ordered⟩ := ih ((List.suffix_cons t ts).isInfix.trans part)
    refine ⟨fun u mem => ⟨(each u mem).1, (each u mem).2.mono ?_⟩, ordered⟩
    exact fun a inside => List.mem_cons_of_mem t inside
  | @hole _ t ts own us _ ih =>
    obtain ⟨each, ordered⟩ := ih ((List.suffix_cons t ts).isInfix.trans part)
    have own := spread.sublist part.sublist
    have forward := own.forward t List.mem_cons_self
    refine ⟨List.forall_mem_cons.mpr ⟨⟨?_, ?_⟩, fun u mem => ⟨(each u mem).1, ?_⟩⟩,
      List.pairwise_cons.mpr ⟨fun u mem => ?_, ordered⟩⟩
    · exact laid_hole spread (part.subset List.mem_cons_self)
    · exact ⟨t, List.mem_cons_self, t, List.mem_cons_self, rfl, Nat.le_refl _, Nat.le_of_lt forward⟩
    · exact (each u mem).2.mono fun a inside => List.mem_cons_of_mem t inside
    · obtain ⟨a, inside, _, _, start, _⟩ := (each u mem).2
      have gap := (List.pairwise_cons.mp own.apart).1 a inside
      show t.span.start ≤ u.span.start
      omega
  | @tree _ t run ts _ own u us span _ _ _ inside rest =>
    have front : t :: run <:+: tokens := (List.prefix_append _ _).isInfix.trans part
    obtain ⟨below, between⟩ := inside front
    obtain ⟨each, ordered⟩ := rest ((List.suffix_append _ _).isInfix.trans part)
    obtain ⟨here, among⟩ := laid_tree spread front span below between
    refine ⟨List.forall_mem_cons.mpr ⟨⟨here, ?_⟩, fun v mem => ⟨(each v mem).1, ?_⟩⟩,
      List.pairwise_cons.mpr ⟨fun v mem => ?_, ordered⟩⟩
    · exact among.mono fun a inside => List.mem_append_left ts inside
    · exact (each v mem).2.mono fun a inside => List.mem_append_right _ inside
    · obtain ⟨_, _, b, inside, _, _, stop⟩ := among
      obtain ⟨a, inside', _, _, start, _⟩ := (each v mem).2
      have apart := (spread.sublist part.sublist).apart
      have gap := (List.pairwise_append.mp apart).2.2 b inside a inside'
      omega

end rows

/-! ### The nodes of the table -/

namespace Site

/-- What holds of trees in their order holds of their sites. -/
theorem pairwise_row {R : Tree → Tree → Prop} {ts : List Tree} (h : ts.Pairwise R) (start : Nat) :
    (row start ts).Pairwise fun a b => R a.tree b.tree := by
  induction h generalizing start with
  | nil => exact .nil
  | cons first _ ih =>
    exact .cons (fun s mem => first s.tree (tree_mem_of_mem_row mem)) (ih _)

end Site

namespace SourceTree

/-- The nodes of a source lie where they should, given the tokens of the source. -/
structure Spaced (s : SourceTree) (tokens : List Terminal) : Prop where
  /-- Every node covers a stretch of the text, which can be cut out of it. -/
  covers : ∀ id < s.arena.size, ∃ span, s.spanOf id = some span ∧ span.start ≤ span.stop ∧
    span.stop ≤ Text.byteLength s.text.toList ∧ (s.textOf id).isSome
  /-- A child lies within its parent. -/
  nested : ∀ id child outer inner, child ∈ s.arena.children id → s.spanOf id = some outer →
    s.spanOf child = some inner → outer.start ≤ inner.start ∧ inner.stop ≤ outer.stop
  /-- A child ends before any later one of the same parent starts. -/
  ordered : ∀ id, (s.arena.children id).Pairwise fun a b => ∀ left right,
    s.spanOf a = some left → s.spanOf b = some right → left.stop ≤ right.start
  /-- Every node but the root covers a run of tokens, from the start of its first to the end of
  its last, or is a hole before a comma. -/
  run : ∀ id n, id ≠ s.root → s.arena.get? id = some n → Tree.OnRun tokens n.kind n.span

theorem laid_of_parse {file text : String} {s : SourceTree} (parsed : parse file text = .ok s) :
    ∃ tokens last, (Place.start s.text.toList).Consumes tokens last ∧ last.token = .endOfFile ∧
      s.tree.Spaced s.text.toList ∧
      ∀ c ∈ s.tree.children, c.Everywhere (Tree.Laid s.text.toList tokens) := by
  obtain ⟨rfl, parsed⟩ := text_of_parse parsed
  obtain ⟨ts, last, derived, ended, root⟩ := Tree.derives_parse parsed
  obtain ⟨_, _, tokens, consumes, woven⟩ := weaves_of_derives derived .sourceFile trivial
  have spread := (consumes.spread (Place.sound_start _)).1
  obtain ⟨each, ordered⟩ := woven.laid spread (List.infix_refl _)
  have children : s.tree.children = ts := by
    rw [root]
    simp [Tree.children, Tree.record?, Record.children]
  have span : s.tree.span = ⟨0, Text.byteLength s.text.toList⟩ := by rw [root]; rfl
  refine ⟨tokens, last, consumes, ended, ⟨?_, ?_, children ▸ ordered⟩, ?_⟩
  · have whole := (Cursor.ofText s.text.toList).reaches_finish
    exact ⟨_, _, .refl _, whole, span.trans (by simp [Cursor.ofText, Cursor.finish])⟩
  · intro c mem
    obtain ⟨_, _, b, inside, _, _, stop⟩ := (each c (children ▸ mem)).2
    rw [span]
    exact ⟨Nat.zero_le _, Nat.le_trans stop (spread.stop_le inside)⟩
  · intro c mem
    exact (each c (children ▸ mem)).1

section table

variable {s : SourceTree} {tokens : List Terminal} (formed : s.tree.Formed)

include formed

theorem spanOf_site {x : Site} (mem : x ∈ s.tree.sites) : s.spanOf x.id = some x.tree.span := by
  obtain ⟨n, found, _, span, _⟩ := Tree.exists_node formed mem
  rw [spanOf, s.arena_eq, found, Option.map_some, span]

variable (whole : s.tree.Spaced s.text.toList)
  (each : ∀ c ∈ s.tree.children, c.Everywhere (Tree.Laid s.text.toList tokens))

omit formed in
include each in
/-- Every site is the whole tree or lies within a child of it. -/
theorem laid_site {x : Site} (mem : x ∈ s.tree.sites) :
    x = s.tree.site ∨ x.tree.Laid s.text.toList tokens := by
  rw [Tree.sites, Site.postorder_eq] at mem
  rcases List.mem_append.mp mem with mem | mem
  · obtain ⟨c, child, mem⟩ := List.mem_flatMap.mp mem
    exact .inr ((each _ (Site.tree_mem_of_mem_row child)).of_mem_postorder mem)
  · exact .inl (List.mem_singleton.mp mem)

omit formed in
include whole each in
theorem spaced_site {x : Site} (mem : x ∈ s.tree.sites) : x.tree.Spaced s.text.toList := by
  rcases laid_site each mem with rfl | laid
  · exact whole
  · exact laid.spaced

include whole each

/-- The nodes of a tree that lies where it should do so in its table. -/
theorem spaced_of_laid : s.Spaced tokens where
  covers id inside := by
    rw [s.arena_eq, Tree.size_ofTree formed] at inside
    obtain ⟨x, mem, rfl⟩ := Tree.exists_site inside
    obtain ⟨c, d, start, further, span⟩ := (spaced_site whole each mem).covers
    refine ⟨x.tree.span, spanOf_site formed mem, ?_, ?_, ?_⟩
    · rw [span]
      exact further.offset_le
    · rw [span]
      exact (start.trans further).offset_le_byteLength
    · rw [textOf, spanOf_site formed mem, span, Option.bind_some, Option.isSome_map,
        start.slice_eq further]
      rfl
  nested id child outer inner mem found found' := by
    rw [s.arena_eq] at mem
    obtain ⟨x, within, rfl, y, below, rfl⟩ := Tree.exists_site_of_mem_children formed mem
    have inside := Site.mem_postorder_of_child within below
    obtain rfl := Option.some.inj ((spanOf_site formed within).symm.trans found)
    obtain rfl := Option.some.inj ((spanOf_site formed inside).symm.trans found')
    exact (spaced_site whole each within).nested _ (Site.tree_mem_of_mem_row below)
  ordered id := by
    cases found : s.arena.get? id with
    | none =>
      have childless : s.arena.children id = [] := by simp [Arena.children, found]
      rw [childless]
      exact .nil
    | some n =>
      rw [s.arena_eq] at found
      obtain ⟨x, mem, rfl⟩ := Tree.exists_site_of_get? formed found
      rw [s.arena_eq, Tree.children_ofTree formed mem, List.pairwise_map]
      refine (Site.pairwise_row (spaced_site whole each mem).ordered x.start).imp_of_mem ?_
      intro a b left right apart l r found found'
      have span {c : Site} (child : c ∈ x.children) :=
        spanOf_site formed (Site.mem_postorder_of_child mem child)
      obtain rfl := Option.some.inj ((span left).symm.trans found)
      obtain rfl := Option.some.inj ((span right).symm.trans found')
      exact apart
  run id n other found := by
    rw [s.arena_eq] at found
    obtain ⟨x, mem, rfl⟩ := Tree.exists_site_of_get? formed found
    obtain ⟨n', found', kind, span, _⟩ := Tree.exists_node formed mem
    obtain rfl := Option.some.inj (found'.symm.trans found)
    rw [kind, span]
    refine ((laid_site each mem).resolve_left ?_).run
    rintro rfl
    exact other (s.tree.id_site.trans s.root_eq.symm)

end table

/-- **The nodes of every source that parses are nested and ordered**, and they start and end with
tokens: those that the parser consumes from the start of the source to its end. -/
theorem spaced_of_parse {file text : String} {s : SourceTree} (parsed : parse file text = .ok s) :
    ∃ tokens last, (Place.start s.text.toList).Consumes tokens last ∧ last.token = .endOfFile ∧
      s.Spaced tokens := by
  obtain ⟨tokens, last, consumes, ended, whole, each⟩ := laid_of_parse parsed
  exact ⟨tokens, last, consumes, ended, spaced_of_laid (formed_of_parse parsed) whole each⟩

/-- A hole, a template with a substitution, and a regular expression between comments. -/
theorem spaced_of_parse_pieces : ∃ s,
    parse "Pieces.js" "/* a */ x = [, `b$\x7bc\x7d`, /d/g] // e" = .ok s ∧
      ∃ tokens last, (Place.start s.text.toList).Consumes tokens last ∧
        last.token = .endOfFile ∧ s.Spaced tokens :=
  exists_of_any (q := fun _ => true) (by decide +kernel) fun _ parsed _ => spaced_of_parse parsed

end SourceTree

end Shapewire
