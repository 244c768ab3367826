/-
What building a type amounts to.

Every parameter of a type has one chosen dependency, so a type unfolds into a tree: its chosen
dependencies, in the order of the parameters, theirs below them and so on.  The unfolding may
be endless, because a type may lie below itself.  So it is spoken of in three ways here, none
of which mentions the path or the room that `resolveIn` keeps:

  * `Path` follows one branch from the root for some way down.
  * `Unfolding` is a finished unfolding, a tree without end points left open.  `evaluate` is
    what building comes to once that tree is known: the dependencies from left to right, then
    the factory on what they gave.
  * `listing` is as much of the post-order listing as the uppermost levels decide.  It goes on
    only behind dependencies that are listed completely.
-/
import Shapewire.Container.Basic
import Shapewire.Proofs.Container.Satisfier

namespace Shapewire

/-- A type with everything that is built for it, in the order of the parameters. -/
inductive Unfolding (κ : Type) where
  | node (key : κ) (parts : List (Unfolding κ))

namespace Unfolding

variable {κ : Type}

/-- The type that is built. -/
def root : Unfolding κ → κ
  | node key _ => key

mutual

/-- The types of an unfolding, each after everything that is built for it. -/
def postorder : Unfolding κ → List κ
  | node key parts => postorderAll parts ++ [key]

/-- The types of neighbouring unfoldings. -/
def postorderAll : List (Unfolding κ) → List κ
  | [] => []
  | part :: parts => postorder part ++ postorderAll parts

end

end Unfolding

namespace Container

variable {κ ι σ : Type} [DecidableEq κ]

/-- The types chosen for the parameters of a type, in declaration order, if the type can be
analysed and every parameter has a candidate. -/
def dependencies? (c : Container κ ι σ) (key : κ) : Option (List κ) :=
  match (c.definition key).parameters, c.satisfiers key with
  | .ok parameters, .ok satisfiers => parameters.mapM satisfiers.chosen?
  | _, _ => none

/-- A type can be analysed and every parameter has a candidate. -/
def Satisfied (c : Container κ ι σ) (key : κ) : Prop :=
  ∃ record, c.usageOf key = .ok record ∧ c.registry.Satisfies record.entries

/-- The types on a way down the unfolding of a type, the type itself first. -/
inductive Path (c : Container κ ι σ) : κ → List κ → Prop
  | here (key : κ) : Path c key [key]
  | down {key next : κ} {keys path : List κ} (chosen : c.dependencies? key = some keys)
      (mem : next ∈ keys) (rest : Path c next path) : Path c key (key :: path)

/-- Below every type of an unfolding stand the types chosen for its parameters. -/
inductive Unfolds (c : Container κ ι σ) : Unfolding κ → Prop
  | node {key : κ} {parts : List (Unfolding κ)}
      (chosen : c.dependencies? key = some (parts.map Unfolding.root))
      (finished : ∀ part ∈ parts, Unfolds c part) : Unfolds c (.node key parts)

mutual

/-- Builds what an unfolding says in a world: everything for the parameters, one after the
other, and then the instance by the factory of the type. -/
def evaluate (c : Container κ ι σ) : Unfolding κ → σ → Except FactoryError ι × σ
  | .node key parts, world =>
    match c.evaluateAll parts world with
    | (.ok values, world) => (c.definition key).factory ⟨values⟩ world
    | (.error e, world) => (.error e, world)

/-- Builds neighbouring unfoldings from left to right. -/
def evaluateAll (c : Container κ ι σ) : List (Unfolding κ) → σ → Except FactoryError (List ι) × σ
  | [], world => (.ok [], world)
  | part :: parts, world =>
    match c.evaluate part world with
    | (.error e, world) => (.error e, world)
    | (.ok value, world) =>
      match c.evaluateAll parts world with
      | (.ok values, world) => (.ok (value :: values), world)
      | (.error e, world) => (.error e, world)

end

end Container

/-- The start of a listing. -/
structure Listing (κ : Type) where
  listed : List κ
  /-- Whether the listing ends there. -/
  complete : Bool
deriving DecidableEq, Repr

namespace Listing

variable {κ : Type}

/-- One listing and then, if it ends, another. -/
def append (l r : Listing κ) : Listing κ :=
  if l.complete then ⟨l.listed ++ r.listed, r.complete⟩ else l

/-- Some listings, each as far as the ones before it end. -/
def join : List (Listing κ) → Listing κ
  | [] => ⟨[], true⟩
  | l :: ls => l.append (join ls)

end Listing

namespace Container

variable {κ ι σ : Type} [DecidableEq κ]

/-- The start of the post-order listing of the unfolding of a type, up to the first type that
is no longer among the uppermost levels.  A type without chosen dependencies ends there too,
since nothing is known of what would stand below it. -/
def listing (c : Container κ ι σ) : Nat → κ → Listing κ
  | 0, _ => ⟨[], false⟩
  | levels + 1, key =>
    match c.dependencies? key with
    | none => ⟨[], false⟩
    | some keys => (Listing.join (keys.map (c.listing levels))).append ⟨[key], true⟩

end Container

end Shapewire
