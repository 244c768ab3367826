/-
Node tables.

A table keeps the nodes of a tree in the order they were added, children before parents,
and refers to a node by its place.  A node itself is a few numbers; its record, if it has
one, lies in the pool of its form, and the node knows its place there.  Beside the nodes the
table keeps the parent of each, which `add` fills in for the children of the node it adds.

A table takes whatever it is given.  The kind of a node may disagree with the form of its
record, and then looking up the record finds what the pool of the *kind* has at that place,
if anything.  A record may refer to places that hold no node.  Every look-up says so by
answering `none` or by leaving the reference out.

Nothing bounds a place here, be it that of a node or that of a record in its pool, and a slot
without one is `none`.  Where 32 bits are kept of each slot, the largest number stands for `none`,
which leaves `Arena.capacity` places.
-/
import Shapewire.Text.NameTable
import Shapewire.Text.Span
import Shapewire.Tree.Record

namespace Shapewire

/-- The place of a node in a table. -/
abbrev NodeId := Nat

/-- A slot that may refer to a node. -/
abbrev NodeRef := Option NodeId

/-- A record whose slots refer to nodes of a table. -/
abbrev NodeRecord := Record NodeRef NodeRef Atom

namespace Record

/-- The places a record of a node of the given kind refers to, in the order of the source. -/
def childIds (kind : NodeKind) (r : NodeRecord) : List NodeId :=
  r.children kind Option.toList Option.toList

/-- All places a record refers to. -/
def links (r : NodeRecord) : List NodeId := r.slots Option.toList Option.toList

end Record

/-- A node of a table. -/
structure Node where
  kind : NodeKind
  flags : NodeFlags
  span : Span
  /-- The place of the node's record in its pool. -/
  data? : Option Nat
deriving DecidableEq, Repr, Inhabited

/-- A table of nodes. -/
structure Arena where
  nodes : Array Node
  /-- The parent of each node, as far as it has been added. -/
  parents : Array NodeRef
  /-- The records of each form. -/
  pools : Vector (Array NodeRecord) Pool.count
  /-- The names that identifiers refer to. -/
  names : NameTable
deriving DecidableEq, Repr

namespace Arena

/-- The number of places that 32 bits tell apart from each other and from the lack of a place. -/
def capacity : Nat := UInt32.size - 1

/-- The table without nodes whose names are those given. -/
def withNames (names : NameTable) : Arena :=
  { nodes := #[], parents := #[], pools := .replicate _ #[], names }

/-- The table without nodes or names. -/
def empty : Arena := withNames .empty

/-- The table without nodes that knows the common names, as every source starts with. -/
def forSource : Arena := withNames NameTable.empty.internCommon

/-- The number of nodes. -/
def size (a : Arena) : Nat := a.nodes.size

/-- Whether there is no node. -/
def isEmpty (a : Arena) : Bool := a.size == 0

/-! ### Adding nodes -/

/-- The records of one form. -/
def pool (a : Arena) (p : Pool) : Array NodeRecord := a.pools[p.index]

/-- The table with a record put at the end of its pool. -/
def pushRecord (a : Arena) (r : NodeRecord) : Arena :=
  { a with pools := a.pools.set r.pool.index ((a.pool r.pool).push r) }

/-- The table with a node at the end that has no parent yet. -/
def pushNode (a : Arena) (n : Node) : Arena :=
  { a with nodes := a.nodes.push n, parents := a.parents.push none }

/-- The table in which `parent` is the parent of `child`, if there is such a node. -/
def adopt (parent : NodeId) (a : Arena) (child : NodeId) : Arena :=
  { a with parents := a.parents.setIfInBounds child (some parent) }

/-- Adds a node, which becomes the parent of everything its record refers to. -/
def add (a : Arena) (kind : NodeKind) (flags : NodeFlags) (span : Span)
    (record? : Option NodeRecord) : NodeId × Arena :=
  let id := a.size
  match record? with
  | none => (id, a.pushNode ⟨kind, flags, span, none⟩)
  | some r =>
    let node : Node := ⟨kind, flags.union r.flags, span, some (a.pool r.pool).size⟩
    (id, r.links.foldl (adopt id) ((a.pushRecord r).pushNode node))

/-! ### Looking things up -/

/-- The node at a place. -/
def get? (a : Arena) (id : NodeId) : Option Node := a.nodes[id]?

/-- The node a slot refers to. -/
def deref (a : Arena) (ref : NodeRef) : Option Node := ref.bind a.get?

/-- The record of a node: what the pool of its kind has at its place. -/
def recordOf (a : Arena) (n : Node) : Option NodeRecord := do
  (a.pool (← n.kind.pool?))[← n.data?]?

/-- The record of the node at a place. -/
def record? (a : Arena) (id : NodeId) : Option NodeRecord := (a.get? id).bind a.recordOf

/-- The children of the node at a place, in the order of the source. -/
def children (a : Arena) (id : NodeId) : List NodeId :=
  match a.get? id with
  | none => []
  | some n => ((a.recordOf n).map (Record.childIds n.kind)).getD []

/-- The parent of the node at a place. -/
def parent? (a : Arena) (id : NodeId) : Option NodeId := (a.parents[id]?).join

/-- The first `n` ancestors of the node at a place, nearest first. -/
def ancestorsWithin (a : Arena) : Nat → NodeId → List NodeId
  | 0, _ => []
  | n + 1, id =>
    match a.parent? id with
    | none => []
    | some parent => parent :: ancestorsWithin a n parent

/-- The ancestors of the node at a place, nearest first.  Parents are added after their
children, so there are fewer of them than nodes. -/
def ancestors (a : Arena) (id : NodeId) : List NodeId := a.ancestorsWithin a.size id

/-- The name of the identifier at a place. -/
def identifierText? (a : Arena) (id : NodeId) : Option String :=
  match a.record? id with
  | some (.identifier atom) => some (a.names.resolve atom)
  | _ => none

/-- The name of a parameter, if it is one and is named by an identifier. -/
def parameterName? (a : Arena) (ref : NodeRef) : Option String :=
  match ref.bind a.record? with
  | some (.parameter _ name _) => name.bind a.identifierText?
  | _ => none

/-- The names of the parameters of the function at a place, in declaration order. -/
def parameterNames (a : Arena) (id : NodeId) : List String :=
  match a.record? id with
  | some (.function _ parameters _ _) => parameters.filterMap a.parameterName?
  | _ => []

/-- Whether the node at a place is of a kind that satisfies `p`. -/
def kindIs (a : Arena) (p : NodeKind → Bool) (id : NodeId) : Bool :=
  (a.get? id).any fun n => p n.kind

/-- Whether the node at a place is a function of any form. -/
def isFunction (a : Arena) (id : NodeId) : Bool := a.kindIs NodeKind.isFunction id

end Arena

end Shapewire
