/-
Properties that nodes have by the mode that they are read in.

Whether `yield` and `await` are operators is up to the functions around.  A function says so for
what is in it, and the parameters of an arrow are not in the arrow: they are still read in the mode
around it.  Everything else hands down the mode that it has.

`Tree.Within` says that every node of a tree has a property in the mode that it gets so from the
root.  A property that does not ask for the mode is had everywhere.
-/
import Shapewire.Proofs.Tree.Everywhere
import Shapewire.Proofs.Analysis.Reading

namespace Shapewire

/-- Which words are operators. -/
structure Mode where
  /-- Whether `yield` is one. -/
  yields : Bool
  /-- Whether `await` is one. -/
  awaits : Bool
deriving DecidableEq, Repr

/-- The mode outside of functions. -/
def Mode.outside : Mode := ⟨false, false⟩

namespace Tree

/-- The subtrees of the root, each with whether the root is a function that it is in. -/
def inner (t : Tree) : List (Bool × Tree) :=
  match t.record? with
  | some (.function name parameters body _) =>
    name.toList.map (true, ·) ++ parameters.map (t.kind != .arrowFunction, ·) ++ [(true, body)]
  | _ => t.children.map (false, ·)

/-- Nothing is in what is no function. -/
theorem inner_of_signature? {t : Tree} (h : t.record?.bind Record.signature? = none) :
    t.inner = t.children.map (false, ·) := by
  unfold inner
  split
  · rename_i form
    rw [form] at h
    cases h
  · rfl

theorem map_snd_inner (t : Tree) : t.inner.map Prod.snd = t.children := by
  unfold inner
  split
  · rename_i form
    simp [children, form, Record.children, Function.comp_def]
  · simp [Function.comp_def]

/-- The mode of what is in a function: an arrow never yields. -/
def ownMode (t : Tree) : Mode :=
  ⟨t.kind != .arrowFunction && t.flags.has .generator, t.flags.has .async⟩

/-- The mode of a subtree that may be in a function, if the root is read in a mode. -/
def modeBelow (t : Tree) (m : Mode) (isIn : Bool) : Mode := if isIn then t.ownMode else m

/-- Every node of the tree has the property, in its own mode. -/
inductive Within (P : Mode → Tree → Prop) : Mode → Tree → Prop where
  | intro {m : Mode} {t : Tree} (root : P m t)
    (inside : ∀ u ∈ t.inner, Within P (t.modeBelow m u.1) u.2) : Within P m t

variable {P : Mode → Tree → Prop} {m : Mode} {t : Tree}

theorem Within.root (h : Within P m t) : P m t := by
  cases h with
  | intro root _ => exact root

theorem Within.of_mem_inner (h : Within P m t) {u : Bool × Tree} (mem : u ∈ t.inner) :
    Within P (t.modeBelow m u.1) u.2 := by
  cases h with
  | intro _ inside => exact inside u mem

/-- A property that every node has in whatever mode is had everywhere. -/
theorem Within.everywhere {Q : Tree → Prop} (h : Within (fun _ => Q) m t) : t.Everywhere Q := by
  induction h with
  | @intro m t root _ ih =>
    refine .intro root fun c mem => ?_
    rw [← map_snd_inner t] at mem
    obtain ⟨u, below, rfl⟩ := List.mem_map.mp mem
    exact ih u below

end Tree

/-! ### Several trees -/

/-- Every node of the trees has the property, if the trees are read in the mode. -/
def AllWithin (P : Mode → Tree → Prop) (m : Mode) (ts : List Tree) : Prop :=
  ∀ t ∈ ts, t.Within P m

namespace AllWithin

variable {P : Mode → Tree → Prop} {m : Mode} {t b : Tree} {ts us : List Tree}

theorem nil : AllWithin P m [] := nofun

theorem append (h : AllWithin P m ts) (h' : AllWithin P m us) : AllWithin P m (ts ++ us) :=
  List.forall_mem_append.mpr ⟨h, h'⟩

/-- A tree with the property that is no function and whose children have the property within. -/
theorem one (root : P m t) (inside : AllWithin P m t.children)
    (noFunction : t.record?.bind Record.signature? = none := by rfl) : AllWithin P m [t] := by
  refine List.forall_mem_singleton.mpr (.intro root ?_)
  rw [Tree.inner_of_signature? noFunction]
  exact List.forall_mem_map.mpr inside

/-- A tree with the property and no children. -/
theorem leaf (root : P m t) (children : t.children = [] := by rfl)
    (noFunction : t.record?.bind Record.signature? = none := by rfl) : AllWithin P m [t] :=
  one root (children ▸ nil) noFunction

/-- A function with the property whose parts have it within, in the function's own mode unless they
are the parameters of an arrow. -/
theorem function {name? : Option Tree} {arrow : Bool}
    (form : t.record? = some (.function name? ts b arrow)) (root : P m t)
    (name : AllWithin P t.ownMode name?.toList)
    (parameters : AllWithin P (t.modeBelow m (t.kind != .arrowFunction)) ts)
    (body : AllWithin P t.ownMode [b]) : AllWithin P m [t] := by
  refine List.forall_mem_singleton.mpr (.intro root ?_)
  simp only [Tree.inner, form]
  refine List.forall_mem_append.mpr ⟨List.forall_mem_append.mpr ⟨?_, ?_⟩, ?_⟩
  · exact List.forall_mem_map.mpr name
  · exact List.forall_mem_map.mpr parameters
  · exact List.forall_mem_singleton.mpr (body b List.mem_cons_self)

end AllWithin

end Shapewire
