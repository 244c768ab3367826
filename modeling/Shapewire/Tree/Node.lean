/-
Syntax trees.

A tree is a kind, flags, the bytes it covers and, for most kinds, a record whose slots hold
the subtrees.  Nothing in the type ties the kind to the form of the record; that the two
fit is a property of the trees the grammar builds.

`children` lists the subtrees in source order and is the one way most definitions descend:
a function that needs only the children, such as `size`, does not have to know the forms of
records.  That a child is smaller is shown once, for all forms, and gives the induction
principle `Tree.byChildren`.
-/
import Shapewire.Text.Span
import Shapewire.Tree.Record

namespace Shapewire

/-- A syntax tree. -/
inductive Tree where
  | node (kind : NodeKind) (flags : NodeFlags) (span : Span)
      (record? : Option (Record Tree (Option Tree) String))
deriving Inhabited

namespace Tree

/-- The kind of the root. -/
def kind : Tree → NodeKind
  | node k _ _ _ => k

/-- The flags of the root. -/
def flags : Tree → NodeFlags
  | node _ f _ _ => f

/-- The bytes the tree covers. -/
def span : Tree → Span
  | node _ _ s _ => s

/-- The record of the root. -/
def record? : Tree → Option (Record Tree (Option Tree) String)
  | node _ _ _ r => r

/-- The subtrees of the root, in source order. -/
def children (t : Tree) : List Tree :=
  match t.record? with
  | none => []
  | some record => record.children t.kind (fun c => [c]) Option.toList

/-- A child is smaller than its parent. -/
theorem sizeOf_lt_of_mem_children {t c : Tree} (h : c ∈ t.children) : sizeOf c < sizeOf t := by
  obtain ⟨kind, flags, span, _ | record⟩ := t
  · simp [children, record?] at h
  · have := Record.lt_sizeOf_of_mem_children (c := c) (n := sizeOf c)
      (fun x hx => by simp at hx; simp [hx])
      (fun o ho => by cases o <;> simp at ho; simp [ho]) h
    simp
    omega

/-- A property holds of all trees if it holds of each whose children have it. -/
theorem byChildren {motive : Tree → Prop}
    (step : ∀ t : Tree, (∀ c ∈ t.children, motive c) → motive t) (t : Tree) : motive t :=
  step t fun c _ => byChildren step c
termination_by sizeOf t
decreasing_by exact sizeOf_lt_of_mem_children ‹_›

/-- The number of nodes. -/
def size (t : Tree) : Nat := 1 + (t.children.attach.map fun ⟨c, _⟩ => c.size).foldr (· + ·) 0
termination_by sizeOf t
decreasing_by exact sizeOf_lt_of_mem_children ‹_›

/-- The number of nodes of several trees together. -/
def totalSize (ts : List Tree) : Nat := (ts.map size).foldr (· + ·) 0

theorem size_eq (t : Tree) : t.size = 1 + totalSize t.children := by
  rw [size, totalSize, List.attach_map_val]

theorem size_pos (t : Tree) : 0 < t.size := by
  rw [size_eq]; omega

@[simp] theorem totalSize_nil : totalSize [] = 0 := rfl

@[simp] theorem totalSize_cons (t : Tree) (ts : List Tree) :
    totalSize (t :: ts) = t.size + totalSize ts := by
  simp [totalSize]

end Tree

end Shapewire
