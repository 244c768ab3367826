/-
What a constructor does to its own instances.

An instance's state is reached as `this.name` or, from outside the constructor, as
`Type.prototype.name`.  The two count alike wherever the source speaks of the instance, and
so do a plain point and one with a question mark.  A computed key never counts.
-/
import Shapewire.Tree.Walk

namespace Shapewire

namespace Arena

/-- The object and the name of a member access that is not computed. -/
def memberAccess? (a : Arena) (id : NodeId) : Option (NodeRef × String) := do
  let n ← a.get? id
  guard (n.kind == .propertyAccess)
  match a.recordOf n with
  | some (.access object name _) => return (object, ← a.identifierText? (← name))
  | _ => none

/-- Whether the node at a place is `this`. -/
def isThis (a : Arena) (id : NodeId) : Bool := a.kindIs (· == .token .thisKeyword) id

/-- Whether the node at a place is an identifier. -/
def isIdentifier (a : Arena) (id : NodeId) : Bool := a.kindIs (· == .token .identifier) id

/-- Whether the node at a place is the prototype of a type named by an identifier. -/
def isPrototype (a : Arena) (id : NodeId) : Bool :=
  match a.memberAccess? id with
  | some (some owner, name) => name == "prototype" && a.isIdentifier owner
  | _ => false

/-- The name under which the node at a place reaches the instance's own state. -/
def selfStateName? (a : Arena) (id : NodeId) : Option String := do
  let (object, name) ← a.memberAccess? id
  let object ← object
  if a.isThis object || a.isPrototype object then some name else none

/-- Whether the node at a place is exactly what its parent calls or constructs. -/
def isCallee (a : Arena) (id : NodeId) : Bool :=
  match a.parent? id with
  | none => false
  | some parent =>
    a.kindIs NodeKind.hasCallee parent &&
      match a.record? parent with
      | some (.call callee _) => callee == some id
      | _ => false

/-- What is left of a reference when at most `n` pairs of parentheses around it are
removed. -/
def withoutParentheses (a : Arena) : Nat → NodeRef → NodeRef
  | 0, ref => ref
  | n + 1, ref =>
    match a.deref ref with
    | none => ref
    | some node =>
      if node.kind == .parenthesized then
        match a.recordOf node with
        | some (.wrapped inner) => withoutParentheses a n inner
        | _ => ref
      else ref

/-- Whether a reference is to a function value, any parentheses around it removed. -/
def isFunctionValue (a : Arena) (ref : NodeRef) : Bool :=
  (a.deref (a.withoutParentheses a.size ref)).any fun n => n.kind.isFunctionValue

/-- The two sides of the assignment at a place, if it is one by an operator that `p`
accepts. -/
def assignment? (a : Arena) (p : NodeKind → Bool) (id : NodeId) : Option (NodeRef × NodeRef) := do
  let n ← a.get? id
  guard (n.kind == .binary)
  match a.recordOf n with
  | some (.binary left operator right) => if p operator then some (left, right) else none
  | _ => none

end Arena

end Shapewire
