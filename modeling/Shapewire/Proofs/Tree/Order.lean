/-
The order in which a walk goes through a source.

A walk meets a node before those within it, and these child by child.  Where children are nested in
their parent and lie one behind the other, that is the order of the source: of two nodes of which
one is met before the other, the later one lies within the earlier one or starts where that has
ended (`Site.pairwise_preorder`).  So no node that is met later starts before one that is met
earlier.

A node of a source is not empty, but for the whole and for holes (`SourceTree.start_lt_stop`), so a
node that lies behind another starts behind it as well.
-/
import Shapewire.Proofs.Analysis.Reading
import Shapewire.Proofs.Tree.Spans

namespace Shapewire

namespace Site

/-- The second site lies within the first or behind it in the source. -/
def Precedes (x y : Site) : Prop := y ∈ x.postorder ∨ x.tree.span.stop ≤ y.tree.span.start

/-- Whatever lies within a site, trees included, lies where it should. -/
def IsSpaced (text : List Char) (x : Site) : Prop := ∀ y ∈ x.postorder, y.tree.Spaced text

section spaced

variable {text : List Char} {x y : Site}

theorem IsSpaced.of_mem (h : x.IsSpaced text) (mem : y ∈ x.postorder) : y.IsSpaced text :=
  fun _ inside => h _ (mem_postorder_trans mem inside)

/-- What lies within a site lies within it in the source. -/
theorem IsSpaced.nested (h : x.IsSpaced text) (mem : y ∈ x.postorder) :
    x.tree.span.start ≤ y.tree.span.start ∧ y.tree.span.stop ≤ x.tree.span.stop := by
  induction x using byChildren with
  | step x ih =>
    rw [postorder_eq] at mem
    rcases List.mem_append.mp mem with mem | mem
    · obtain ⟨c, child, inside⟩ := List.mem_flatMap.mp mem
      have below : c ∈ x.postorder := mem_postorder_of_mem_children child (mem_postorder_self c)
      obtain ⟨start, stop⟩ :=
        (h x (mem_postorder_self x)).nested c.tree (tree_mem_of_mem_row child)
      obtain ⟨start', stop'⟩ := ih c child (h.of_mem below) inside
      exact ⟨Nat.le_trans start start', Nat.le_trans stop' stop⟩
    · rw [List.mem_singleton.mp mem]
      exact ⟨Nat.le_refl _, Nat.le_refl _⟩

/-- **A walk goes through the sites in the order of the source.** -/
theorem pairwise_preorder (h : x.IsSpaced text) : x.preorder.Pairwise Precedes := by
  induction x using byChildren with
  | step x ih =>
    have below {c y : Site} (mem : y ∈ c.preorder) : y ∈ c.postorder :=
      c.preorder_perm.mem_iff.mp mem
    have spaced {c : Site} (child : c ∈ x.children) : c.IsSpaced text :=
      h.of_mem (mem_postorder_of_mem_children child (mem_postorder_self c))
    rw [preorder_eq, List.pairwise_cons, List.pairwise_flatMap]
    refine ⟨?_, fun c child => ih c child (spaced child), ?_⟩
    · intro y mem
      obtain ⟨c, child, inside⟩ := List.mem_flatMap.mp mem
      exact .inl (mem_postorder_of_mem_children child (below inside))
    · refine (pairwise_row (h x (mem_postorder_self x)).ordered x.start).imp_of_mem ?_
      intro c d left right apart y inside z inside'
      have := (spaced left).nested (below inside)
      have := (spaced right).nested (below inside')
      exact .inr (by omega)

end spaced

end Site

namespace SourceTree

variable {file text : String} {s : SourceTree} {x y : Site}

/-- All sites of a source lie where they should. -/
theorem isSpaced_of_parse (parsed : parse file text = .ok s) :
    s.tree.site.IsSpaced s.text.toList := by
  obtain ⟨_, _, _, _, whole, each⟩ := laid_of_parse parsed
  exact fun x mem => spaced_site whole each mem

/-- A node that is neither the whole source nor a hole is not empty. -/
theorem start_lt_stop (parsed : parse file text = .ok s) (mem : x ∈ s.tree.sites)
    (part : x.tree.kind ≠ .sourceFile) (noHole : x.tree.kind ≠ .hole) :
    x.tree.span.start < x.tree.span.stop := by
  obtain ⟨tokens, _, consumes, _, _, each⟩ := laid_of_parse parsed
  have spread := (consumes.spread (Place.sound_start _)).1
  rcases laid_site each mem with rfl | laid
  · obtain ⟨-, root⟩ := text_of_parse parsed
    obtain ⟨_, _, -, -, root⟩ := Tree.derives_parse root
    exact absurd (show s.tree.kind = .sourceFile by rw [root]; rfl) part
  · rcases laid.run with ⟨hole, -⟩ | ⟨first, rest, run, span⟩
    · exact absurd hole noHole
    · have own := spread.sublist run.sublist
      have covered := own.cover first List.mem_cons_self
      have forward := own.forward first List.mem_cons_self
      rw [span]
      omega

/-- **A walk goes through the trees of a source in the order of the source**: what is met later lies
within what is met earlier or behind it. -/
theorem pairwise_preorder_of_parse (parsed : parse file text = .ok s) :
    s.tree.preorder.Pairwise fun t u => t.span.stop ≤ u.span.start ∨
      t.span.start ≤ u.span.start ∧ u.span.stop ≤ t.span.stop := by
  have spaced := isSpaced_of_parse parsed
  have inside {x : Site} (mem : x ∈ s.tree.site.preorder) : x.IsSpaced s.text.toList :=
    spaced.of_mem (s.tree.site.preorder_perm.mem_iff.mp mem)
  rw [Tree.preorder_eq_map, List.pairwise_map]
  refine (Site.pairwise_preorder spaced).imp_of_mem fun mem _ precedes => ?_
  exact precedes.symm.imp_right (inside mem).nested

/-- What lies behind a node that is not empty starts behind it. -/
theorem start_lt_start (parsed : parse file text = .ok s) (mem : x ∈ s.tree.sites)
    (part : x.tree.kind ≠ .sourceFile) (noHole : x.tree.kind ≠ .hole) (precedes : x.Precedes y)
    (outside : y ∉ x.postorder) : x.tree.span.start < y.tree.span.start :=
  Nat.lt_of_lt_of_le (start_lt_stop parsed mem part noHole) (precedes.resolve_left outside)

end SourceTree

end Shapewire
