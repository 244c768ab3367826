/-
Properties that every node of a tree has.

A property of single nodes holds everywhere in a tree if it holds of the root and everywhere in
the children.  Then it holds of what lies at every site, and so of every node of the table.
-/
import Shapewire.Proofs.Tree.Layout

namespace Shapewire

namespace Tree

/-- Every node of the tree has the property. -/
inductive Everywhere (P : Tree → Prop) : Tree → Prop where
  | intro {t : Tree} (root : P t) (children : ∀ c ∈ t.children, Everywhere P c) : Everywhere P t

variable {P : Tree → Prop} {t : Tree}

theorem Everywhere.root (h : t.Everywhere P) : P t := by
  cases h with
  | intro root _ => exact root

theorem Everywhere.of_mem_children (h : t.Everywhere P) {c : Tree} (mem : c ∈ t.children) :
    c.Everywhere P := by
  cases h with
  | intro _ children => exact children c mem

theorem everywhere_iff :
    t.Everywhere P ↔ P t ∧ ∀ c ∈ t.children.attach, c.val.Everywhere P := by
  constructor
  · exact fun h => ⟨h.root, fun c _ => h.of_mem_children c.property⟩
  · exact fun ⟨root, children⟩ => .intro root fun c mem => children ⟨c, mem⟩ (List.mem_attach _ _)

instance decidableEverywhere [DecidablePred P] (t : Tree) : Decidable (t.Everywhere P) :=
  have (c : { c // c ∈ t.children }) : Decidable (c.val.Everywhere P) := decidableEverywhere c.val
  decidable_of_iff _ everywhere_iff.symm
termination_by sizeOf t
decreasing_by exact sizeOf_lt_of_mem_children c.property

/-- What holds everywhere in a tree holds of what lies at every site within. -/
theorem Everywhere.of_mem_postorder {s x : Site} (h : s.tree.Everywhere P)
    (mem : x ∈ s.postorder) : P x.tree := by
  induction s using Site.byChildren with
  | step s ih =>
    rw [Site.postorder_eq] at mem
    rcases List.mem_append.mp mem with mem | mem
    · obtain ⟨c, child, mem⟩ := List.mem_flatMap.mp mem
      exact ih c child (h.of_mem_children (Site.tree_mem_of_mem_row child)) mem
    · rw [List.mem_singleton.mp mem]
      exact h.root

end Tree

/-! ### Several trees -/

/-- Every node of the trees has the property. -/
def AllEverywhere (P : Tree → Prop) (ts : List Tree) : Prop := ∀ t ∈ ts, t.Everywhere P

namespace AllEverywhere

variable {P : Tree → Prop} {t : Tree} {ts us : List Tree}

instance [DecidablePred P] : Decidable (AllEverywhere P ts) :=
  inferInstanceAs (Decidable (∀ t ∈ ts, t.Everywhere P))

theorem nil : AllEverywhere P [] := nofun

theorem append (h : AllEverywhere P ts) (h' : AllEverywhere P us) : AllEverywhere P (ts ++ us) :=
  List.forall_mem_append.mpr ⟨h, h'⟩

/-- A tree with the property whose children have it everywhere. -/
theorem one (root : P t) (inside : AllEverywhere P t.children) : AllEverywhere P [t] :=
  List.forall_mem_singleton.mpr (.intro root inside)

/-- A tree with the property and no children. -/
theorem leaf (root : P t) (children : t.children = [] := by rfl) : AllEverywhere P [t] :=
  one root (children ▸ nil)

end AllEverywhere

end Shapewire
