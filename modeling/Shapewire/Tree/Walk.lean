/-
Walks over a node table.

A walk goes through everything reachable from a node, each node before its children and the
children in the order of the source.  It keeps the places still to be visited on a stack,
takes the first, and puts its children in front of the rest.

Nothing in a table prevents a node from being its own descendant, so a walk must bring its
own reason to end.  Each place on the stack carries how many more levels may open below it.
A path of distinct nodes is no longer than the table, so with one level for each node no
node of a table without cycles is cut off.  The measure that shrinks is the weight of the
stack.  With `w` the largest number of children a node has, a place with one level more weighs
one more than `w` places, and so outweighs all the children it opens.
-/
import Shapewire.Tree.Arena

namespace Shapewire

namespace Arena

/-- The largest number of children a node has. -/
def width (a : Arena) : Nat :=
  (List.range a.size).foldl (fun w id => max w (a.children id).length) 0

/-- A lower bound of a fold of maxima. -/
private theorem le_foldl_max (f : Nat → Nat) (ids : List Nat) (w : Nat) :
    w ≤ ids.foldl (fun w id => max w (f id)) w ∧
      ∀ id ∈ ids, f id ≤ ids.foldl (fun w id => max w (f id)) w := by
  induction ids generalizing w with
  | nil => simp
  | cons id ids ih =>
    obtain ⟨h, hs⟩ := ih (max w (f id))
    refine ⟨by simp only [List.foldl_cons]; omega, fun x hx => ?_⟩
    simp only [List.foldl_cons]
    rcases List.mem_cons.mp hx with rfl | hx
    · omega
    · exact hs x hx

/-- No node has more children than the width of its table. -/
theorem length_children_le (a : Arena) (id : NodeId) : (a.children id).length ≤ a.width := by
  by_cases h : id < a.size
  · exact (le_foldl_max (fun id => (a.children id).length) _ 0).2 id (List.mem_range.mpr h)
  · have : a.get? id = none := by
      simpa [get?, size] using h
    simp [children, this]

/-- What a place weighs below which that many levels may open: one more than the `w` places
it may put on the stack. -/
def placeWeight (w : Nat) : Nat → Nat
  | 0 => 1
  | levels + 1 => 1 + w * placeWeight w levels

/-- What a stack weighs: its places together. -/
def stackWeight (w : Nat) : List (Nat × NodeId) → Nat
  | [] => 0
  | (levels, _) :: stack => placeWeight w levels + stackWeight w stack

private theorem stackWeight_append (w levels : Nat) (ids : List NodeId)
    (stack : List (Nat × NodeId)) : stackWeight w (ids.map (levels, ·) ++ stack) =
      ids.length * placeWeight w levels + stackWeight w stack := by
  induction ids with
  | nil => simp
  | cons id ids ih =>
    rw [List.map_cons, List.cons_append, stackWeight, ih, List.length_cons, Nat.succ_mul]
    omega

/-- A place outweighs the places it puts on the stack. -/
private theorem stackWeight_open (w levels : Nat) (ids : List NodeId) (h : ids.length ≤ w)
    (stack : List (Nat × NodeId)) : stackWeight w (ids.map (levels, ·) ++ stack) <
      placeWeight w (levels + 1) + stackWeight w stack := by
  have : ids.length * placeWeight w levels ≤ w * placeWeight w levels :=
    Nat.mul_le_mul_right _ h
  rw [stackWeight_append, placeWeight]
  omega

/-- The places a walk takes from the stack, up to and including the first at which it is to
stop. -/
def walk (a : Arena) (stop : NodeId → Bool) (stack : List (Nat × NodeId)) : List NodeId :=
  match stack with
  | [] => []
  | (0, _) :: stack => walk a stop stack
  | (levels + 1, id) :: stack =>
    if stop id then [id]
    else id :: walk a stop ((a.children id).map (levels, ·) ++ stack)
termination_by stackWeight a.width stack
decreasing_by
  · simp [stackWeight, placeWeight]
  · have := stackWeight_open a.width levels (a.children id) (a.length_children_le id) stack
    simpa [stackWeight] using this

/-- The stack a walk starts with. -/
def rootStack (a : Arena) (root : NodeId) : List (Nat × NodeId) := [(a.size + 1, root)]

/-- Everything reachable from a node, each node before its children and the children in the
order of the source.  Places that hold no node are left out. -/
def preorder (a : Arena) (root : NodeId) : List NodeId :=
  (a.walk (fun _ => false) (a.rootStack root)).filter fun id => (a.get? id).isSome

/-- The first function of any form that a walk meets, unless it meets a place that holds no
node before. -/
def firstFunction? (a : Arena) (root : NodeId) : Option NodeId :=
  (a.walk (fun id => (a.get? id).isNone || a.isFunction id) (a.rootStack root)).getLast?.filter
    a.isFunction

end Arena

end Shapewire
