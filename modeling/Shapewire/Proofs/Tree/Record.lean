/-
What laying out and naming do to a record.

Laying out a tree replaces every subtree of a record by the place of its root.  The places come
in the order of the source, one after the other (`children_placed`), and nothing else about the
record changes.  Numbering names changes nothing but the name of an identifier.
-/
import Shapewire.Proofs.Text.NameTable
import Shapewire.Proofs.Tree.Site

namespace Shapewire

namespace Record

/-- The record of a node of the given kind whose subtrees start at a place. -/
def placed (kind : NodeKind) (start : Nat) (r : Record Tree (Option Tree) String) :
    Record NodeRef NodeRef String :=
  (r.mapM kind Tree.place Tree.place? id start).1

/-- The places of the roots of neighbouring trees. -/
def places (start : Nat) (ts : List Tree) : List NodeId := (Site.row start ts).map Site.id

@[simp] theorem places_nil (start : Nat) : places start [] = [] := rfl

@[simp] theorem places_cons (start : Nat) (t : Tree) (ts : List Tree) :
    places start (t :: ts) = (start + t.size - 1) :: places (start + t.size) ts := rfl

theorem places_append (start : Nat) (ts us : List Tree) :
    places start (ts ++ us) = places start ts ++ places (start + Tree.totalSize ts) us := by
  induction ts generalizing start with
  | nil => rfl
  | cons t ts ih =>
    rw [List.cons_append, places_cons, places_cons, ih, Tree.totalSize_cons, List.cons_append,
      Nat.add_assoc]

/-! ### Laying out -/

section layout

variable {α β : Type} (x : StateM Nat α) (start : Nat)

/-- A part of a layout starts where the one before it ends. -/
theorem bind_apply (f : α → StateM Nat β) : (x >>= f) start = f (x start).1 (x start).2 := rfl

theorem map_apply (f : α → β) : (f <$> x) start = (f (x start).1, (x start).2) := rfl

theorem pure_apply (a : α) : (pure a : StateM Nat α) start = (a, start) := rfl

end layout

@[simp] theorem place_apply (t : Tree) (start : Nat) :
    t.place start = (some (start + t.size - 1), start + t.size) := rfl

@[simp] theorem place?_apply (t : Option Tree) (start : Nat) :
    Tree.place? t start = ((places start t.toList).head?, start + Tree.totalSize t.toList) := by
  cases t <;> rfl

theorem mapM_place (start : Nat) (ts : List Tree) :
    (ts.mapM Tree.place : StateM Nat (List NodeRef)) start
      = ((places start ts).map some, start + Tree.totalSize ts) := by
  induction ts generalizing start with
  | nil => rfl
  | cons t ts ih =>
    rw [List.mapM_cons, bind_apply, bind_apply, pure_apply, place_apply, ih]
    simp [Nat.add_assoc]

@[simp] theorem flatMap_toList_map_some {α : Type} (l : List α) :
    (l.map some).flatMap Option.toList = l := by
  simp [List.flatMap_map]

@[simp] theorem toList_head?_places (t : Option Tree) (start : Nat) :
    (places start t.toList).head?.toList = places start t.toList := by
  cases t <;> rfl

/-- The children of a laid out record are the places of the subtrees. -/
theorem children_placed (kind : NodeKind) (start : Nat) (r : Record Tree (Option Tree) String) :
    (r.placed kind start).children kind Option.toList Option.toList
      = places start (r.children kind (fun c => [c]) Option.toList) := by
  unfold placed
  cases r
  case call callee arguments =>
    cases arguments <;> simp [mapM, children, bind_apply, map_apply, pure_apply, mapM_place]
  case loop =>
    by_cases h : kind = .doStatement
    · simp [mapM, children, h, bind_apply, map_apply]
    · simp [mapM, children, h, bind_apply, map_apply, places_append, Nat.add_assoc]
  all_goals
    simp [mapM, children, bind_apply, map_apply, pure_apply, mapM_place, places_append,
      Nat.add_assoc]

/-! ### Kinds and forms -/

/-- The record is one for a node of the given kind: it is of the kind's form, and a loop that
tests last has no other part than its condition and its body. -/
structure Fits {ρ β ν : Type} (kind : NodeKind) (r : Record ρ (Option β) ν) : Prop where
  pool : kind.pool? = some r.pool
  testsLast : ∀ initializer condition incrementor body, kind = .doStatement →
    r = .loop initializer condition incrementor body → initializer = none ∧ incrementor = none

/-- A record that fits refers to its children and to nothing else. -/
theorem Fits.slots_perm_children {ρ β ν α : Type} {kind : NodeKind} {r : Record ρ (Option β) ν}
    (fits : r.Fits kind) (f : ρ → List α) (g : Option β → List α) (missing : g none = []) :
    (r.slots f g).Perm (r.children kind f g) := by
  cases r
  case loop initializer condition incrementor body =>
    by_cases last : kind = .doStatement
    · obtain ⟨rfl, rfl⟩ := fits.testsLast _ _ _ _ last rfl
      simp only [slots, children, if_pos last, missing, List.nil_append, List.append_nil]
      exact List.perm_append_comm
    · simp only [children, if_neg last]
      exact .refl _
  all_goals exact .refl _

theorem pool_placed (kind : NodeKind) (start : Nat) (r : Record Tree (Option Tree) String) :
    (r.placed kind start).pool = r.pool := by
  cases r
  case call callee arguments => cases arguments <;> rfl
  case loop =>
    by_cases last : kind = .doStatement
    all_goals
      simp only [placed, mapM, last, if_true, if_false]
      rfl
  all_goals rfl

theorem Fits.placed {kind : NodeKind} {r : Record Tree (Option Tree) String} (fits : r.Fits kind)
    (start : Nat) : (r.placed kind start).Fits kind where
  pool := by rw [pool_placed, fits.pool]
  testsLast := by
    intro initializer condition incrementor body last form
    cases r
    case loop initializer' condition' incrementor' body' =>
      obtain ⟨rfl, rfl⟩ := fits.testsLast _ _ _ _ last rfl
      subst last
      cases form
      exact ⟨rfl, rfl⟩
    case call callee arguments => cases arguments <;> cases form
    all_goals cases form

/-! ### Names -/

theorem mapM_pure {α : Type} (l : List α) : (l.mapM pure : Id (List α)) = pure l := by
  induction l with
  | nil => rfl
  | cons a l ih => rw [List.mapM_cons, pure_bind, ih, pure_bind]

/-- The record with its name changed. -/
def rename {ρ ο ν ν' : Type} (f : ν → ν') (r : Record ρ ο ν) : Record ρ ο ν' :=
  (r.mapM .sourceFile pure pure f : Id _).run

section rename

variable {ρ ο ν ν' ν'' α : Type} (f : ν → ν') (r : Record ρ ο ν)

theorem mapM_eq_rename (kind : NodeKind) :
    (r.mapM kind pure pure f : Id (Record ρ ο ν')) = r.rename f := by
  cases r
  case loop =>
    by_cases last : kind = .doStatement
    all_goals
      simp only [mapM, last, if_true, if_false]
      rfl
  case call callee arguments => cases arguments <;> rfl
  all_goals rfl

theorem pool_rename : (r.rename f).pool = r.pool := by
  cases r
  case call callee arguments => cases arguments <;> rfl
  all_goals rfl

theorem slots_rename (g : ρ → List α) (g' : ο → List α) :
    (r.rename f).slots g g' = r.slots g g' := by
  cases r
  case call callee arguments => cases arguments <;> simp [rename, mapM, slots, mapM_pure]
  all_goals simp [rename, mapM, slots, mapM_pure]

theorem children_rename (kind : NodeKind) (g : ρ → List α) (g' : ο → List α) :
    (r.rename f).children kind g g' = r.children kind g g' := by
  cases r
  case loop => rfl
  case call callee arguments =>
    cases arguments <;> simp [rename, mapM, children, mapM_pure]
  all_goals simp [rename, mapM, children, mapM_pure]

theorem rename_rename (f' : ν' → ν'') : (r.rename f).rename f' = r.rename (f' ∘ f) := by
  cases r
  case call callee arguments => cases arguments <;> simp [rename, mapM, mapM_pure]
  all_goals simp [rename, mapM, mapM_pure]

theorem rename_id : r.rename id = r := by
  cases r
  case call callee arguments => cases arguments <;> simp [rename, mapM, mapM_pure]
  all_goals simp [rename, mapM, mapM_pure]

/-- Only an identifier has a name to change. -/
theorem rename_eq_rename (f' : ν → ν') (same : ∀ name, r = .identifier name → f name = f' name) :
    r.rename f = r.rename f' := by
  cases r
  case identifier name => exact congrArg identifier (same name rfl)
  case call callee arguments => cases arguments <;> rfl
  all_goals rfl

/-- A record may be given other names while it is laid out. -/
theorem rename_placed (f : String → ν') (kind : NodeKind) (start : Nat)
    (r : Record Tree (Option Tree) String) : (r.placed kind start).rename f
      = (r.mapM kind Tree.place Tree.place? f start).1 := by
  unfold placed
  cases r
  case loop =>
    by_cases last : kind = .doStatement
    all_goals
      simp only [mapM, last, if_true, if_false]
      rfl
  case call callee arguments =>
    cases arguments <;> simp [rename, mapM, mapM_pure, bind_apply, map_apply, pure_apply]
  all_goals simp [rename, mapM, mapM_pure, bind_apply, map_apply, pure_apply]

end rename

/-- Laying out gives no name to a record that has none. -/
theorem placed_ne_identifier {r : Record Tree (Option Tree) String}
    (nameless : ∀ name, r ≠ .identifier name) (kind : NodeKind) (start : Nat) (name : String) :
    r.placed kind start ≠ .identifier name := by
  intro same
  have form : r.pool = .identifiers := by
    rw [← pool_placed kind start, same]
    rfl
  cases r
  case identifier name => exact nameless name rfl
  all_goals cases form

end Record

end Shapewire
