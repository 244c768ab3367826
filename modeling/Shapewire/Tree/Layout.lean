/-
From a syntax tree to its node table.

The table of a tree lists every node after its children, so the nodes of a subtree are
neighbours and its root is the last of them.  Where a subtree lies is therefore known from
sizes alone: if its nodes start at `base`, its root is at `base + size - 1` and the next
subtree starts at `base + size`.  `entries` writes the list of nodes down by that rule and
`ofTree` adds them to an empty table in order, naming each identifier by its atom on the way.
-/
import Shapewire.Tree.Arena
import Shapewire.Tree.Node

namespace Shapewire

/-- A node as it is added to a table, with identifiers still named by their texts. -/
structure Entry where
  kind : NodeKind
  flags : NodeFlags
  span : Span
  record? : Option (Record NodeRef NodeRef String)
deriving DecidableEq, Repr

namespace Tree

/-- The place of a subtree whose nodes start at the running position, which moves on past
them. -/
def place (t : Tree) : StateM Nat NodeRef := fun base =>
  (some (base + t.size - 1), base + t.size)

/-- The place of a subtree that may be missing. -/
def place? : Option Tree → StateM Nat NodeRef
  | none => pure none
  | some t => t.place

/-- The root of a tree as an entry, when the nodes of its children start at `base`. -/
def entry (base : Nat) (t : Tree) : Entry where
  kind := t.kind
  flags := t.flags
  span := t.span
  record? := t.record?.map fun r => (r.mapM t.kind place place? id base).1

mutual

/-- The nodes of a tree, every node after its children, when they start at `base`. -/
def entries (base : Nat) (t : Tree) : List Entry :=
  entriesOf base t.children ++ [t.entry base]
termination_by 2 * t.size
decreasing_by
  rw [size_eq]
  omega

/-- The nodes of neighbouring subtrees, when they start at `base`. -/
def entriesOf (base : Nat) (ts : List Tree) : List Entry :=
  match ts with
  | [] => []
  | t :: ts => entries base t ++ entriesOf (base + t.size) ts
termination_by 2 * totalSize ts + 1
decreasing_by
  · rw [totalSize_cons]
    omega
  · have := t.size_pos
    rw [totalSize_cons]
    omega

end

end Tree

namespace Arena

/-- Adds an entry, naming an identifier by its atom. -/
def addEntry (a : Arena) (e : Entry) : Arena :=
  match e.record? with
  | none => (a.add e.kind e.flags e.span none).2
  | some (.identifier name) =>
    let (atom, names) := a.names.intern name
    ({ a with names }.add e.kind e.flags e.span (some (.identifier atom))).2
  | some record =>
    (a.add e.kind e.flags e.span (some (record.mapM e.kind pure pure fun _ => 0 : Id _))).2

/-- The node table of a tree. -/
def ofTree (t : Tree) : Arena := (t.entries 0).foldl addEntry forSource

end Arena

end Shapewire
