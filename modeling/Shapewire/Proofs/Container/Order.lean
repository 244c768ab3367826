/-
When the order of registration does not matter.

Whatever a container answers, it reads its registry through the two indices only.  So two
containers with the same definitions answer alike if their registries are `Alike`: if both list the
same types, in the same order, under every name.  Building follows by induction on the room, from the
four things it can do with a type.

The list under a name holds the registrations that have the name, in the order they were made.  Where
all of them are of one type, every order of them is the same list.  So another order of registering
can only be noticed where two types compete for a name.
-/
import Shapewire.Proofs.Container.History
import Shapewire.Proofs.Container.Resolution

namespace Shapewire

/-- A list of which all elements are the same has only one order. -/
theorem eq_of_perm_of_forall_eq {α : Type} {l l' : List α} (perm : l.Perm l')
    (one : ∀ a ∈ l, ∀ b ∈ l, a = b) : l = l' := by
  have unordered (l : List α) : l.Pairwise fun _ _ => True :=
    List.pairwise_of_forall fun _ _ => trivial
  refine List.Perm.eq_of_pairwise ?_ (unordered l) (unordered l') perm
  intro a b mem mem' _ _
  exact one a mem b (perm.mem_iff.mpr mem')

namespace Registry

variable {κ : Type}

/-- Both registries list the same types under every name. -/
structure Alike (r r' : Registry κ) : Prop where
  members : ∀ name, r.membersFor name = r'.membersFor name
  methods : ∀ name, r.methodsFor name = r'.methodsFor name

/-- No two types of these registrations have a method of the same name, and no two have a member of
the same name. -/
structure Uncontested (history : List (Registration κ)) : Prop where
  methods : ∀ x ∈ history, ∀ y ∈ history, ∀ name ∈ x.shape.methods, name ∈ y.shape.methods →
    x.key = y.key
  members : ∀ x ∈ history, ∀ y ∈ history, ∀ name ∈ x.shape.members, name ∈ y.shape.members →
    x.key = y.key

/-- Where one type at most has a name, every order of the registrations lists it alike. -/
theorem filter_eq_of_perm {history history' : List (Registration κ)}
    (perm : history.Perm history') {p : Registration κ → Bool}
    (one : ∀ x ∈ history, ∀ y ∈ history, p x = true → p y = true → x.key = y.key) :
    (history.filter p).map Registration.key = (history'.filter p).map Registration.key := by
  refine eq_of_perm_of_forall_eq ((perm.filter p).map Registration.key) ?_
  intro a mem b mem'
  obtain ⟨x, there, rfl⟩ := List.mem_map.mp mem
  obtain ⟨y, there', rfl⟩ := List.mem_map.mp mem'
  obtain ⟨inside, has⟩ := List.mem_filter.mp there
  obtain ⟨inside', has'⟩ := List.mem_filter.mp there'
  exact one x inside y inside' has has'

/-- Registries that hold the same registrations in some order are alike, if no name is contested. -/
theorem Records.alike_of_perm {r r' : Registry κ} {history history' : List (Registration κ)}
    (h : r.Records history) (h' : r'.Records history') (perm : history.Perm history')
    (alone : Uncontested history) : r.Alike r' where
  members name := by
    rw [h.members, h'.members]
    refine filter_eq_of_perm perm ?_
    intro x mem y mem' has has'
    exact alone.members x mem y mem' name (of_decide_eq_true has) (of_decide_eq_true has')
  methods name := by
    rw [h.methods, h'.methods]
    refine filter_eq_of_perm perm ?_
    intro x mem y mem' has has'
    exact alone.methods x mem y mem' name (of_decide_eq_true has) (of_decide_eq_true has')

namespace Alike

variable [DecidableEq κ] {r r' : Registry κ}

theorem candidates (h : r.Alike r') (usage : Usage) : r.candidates usage = r'.candidates usage := by
  have members : r.membersFor = r'.membersFor := funext h.members
  have methods : r.methodsFor = r'.methodsFor := funext h.methods
  rw [Registry.candidates, Registry.candidates, members, methods]

theorem satisfyEntries (h : r.Alike r') (typeName : String) (entries : List (String × Usage)) :
    r.satisfyEntries typeName entries = r'.satisfyEntries typeName entries := by
  induction entries with
  | nil => rfl
  | cons entry entries ih =>
    obtain ⟨dependency, usage⟩ := entry
    rw [Registry.satisfyEntries, Registry.satisfyEntries, h.candidates, ih]

theorem satisfy (h : r.Alike r') (typeName : String) (record : UsageRecord) :
    r.satisfy typeName record = r'.satisfy typeName record := by
  rw [Registry.satisfy, Registry.satisfy, h.satisfyEntries]

end Alike

end Registry

namespace Container

variable {κ ι σ : Type} [DecidableEq κ] {c c' : Container κ ι σ}

/-- The containers have the same definitions and list the same types under every name. -/
structure Alike (c c' : Container κ ι σ) : Prop where
  definition : c.definition = c'.definition
  registry : c.registry.Alike c'.registry

namespace Alike

theorem satisfiers (h : c.Alike c') (key : κ) : c.satisfiers key = c'.satisfiers key := by
  obtain ⟨definition, r⟩ := c
  obtain ⟨_, r'⟩ := c'
  obtain rfl : definition = _ := h.definition
  rw [Container.satisfiers, Container.satisfiers, funext fun record => h.registry.satisfy _ record]
  rfl

theorem dependencies? (h : c.Alike c') (key : κ) : c.dependencies? key = c'.dependencies? key := by
  rw [Container.dependencies?, Container.dependencies?, h.satisfiers, h.definition]

theorem resolveIn (h : c.Alike c') (room : Nat) :
    ∀ (path : List κ) (key : κ), c.resolveIn room path key = c'.resolveIn room path key := by
  have names : c.nameOf = c'.nameOf := by
    funext key
    rw [nameOf, nameOf, h.definition]
  induction room with
  | zero =>
    intro path key
    by_cases mem : key ∈ path
    · rw [resolveIn_of_mem mem, resolveIn_of_mem mem, cycleError, cycleError, names]
    · rw [resolveIn_zero mem, resolveIn_zero mem]
  | succ room ih =>
    intro path key
    by_cases mem : key ∈ path
    · rw [resolveIn_of_mem mem, resolveIn_of_mem mem, cycleError, cycleError, names]
    rcases c.dependencies?_or_error key with ⟨keys, chosen⟩ | ⟨-, e, failed⟩
    · have made : c.construct key = c'.construct key := by
        funext args s
        rw [construct, construct, names, h.definition]
      rw [resolveIn_of_dependencies mem chosen,
        resolveIn_of_dependencies mem ((h.dependencies? key).symm.trans chosen), made,
        funext (ih (path ++ [key]))]
    · rw [resolveIn_of_error mem failed,
        resolveIn_of_error mem ((h.satisfiers key).symm.trans failed)]

end Alike

omit [DecidableEq κ] in
/-- Two orders of registering the same types lead to containers that are alike, if no name is
contested. -/
theorem alike_of_perm (definition : κ → Definition ι σ) {keys keys' : List κ}
    (perm : keys.Perm keys') (alone : Registry.Uncontested (history definition keys)) :
    ((empty definition).registeringAll keys).Alike ((empty definition).registeringAll keys') := by
  obtain ⟨same, records⟩ :=
    records_registeringAll (c := empty definition) Registry.records_empty keys
  obtain ⟨same', records'⟩ :=
    records_registeringAll (c := empty definition) Registry.records_empty keys'
  exact ⟨same.trans same'.symm, records.alike_of_perm records' (perm.filterMap _) alone⟩

/--
**The order of registration matters only where types compete for a name.**

If of some types no two have a method of the same name and no two have a member of the same name,
then in whatever order they are registered, every type is matched with the same candidates and built
with the same outcome: the same instance or error, the same world and the same factories called in
the same order.
-/
theorem resolve_eq_of_perm (definition : κ → Definition ι σ) {keys keys' : List κ}
    (perm : keys.Perm keys') (alone : Registry.Uncontested (history definition keys)) (target : κ) :
    ((empty definition).registeringAll keys).satisfiers target
      = ((empty definition).registeringAll keys').satisfiers target ∧
    ∀ s, ((empty definition).registeringAll keys).resolve target s
      = ((empty definition).registeringAll keys').resolve target s := by
  have alike := alike_of_perm definition perm alone
  refine ⟨alike.satisfiers target, ?_⟩
  intro s
  exact congrFun (alike.resolveIn maxResolution [] target) s

/-- A store, a log and a service that is handed both. -/
def services : Fin 3 → Definition Nat Nat
  | 0 => .ofValue "Store" "function Store() \x7b this.all = function () \x7b\x7d; this.size = 0; \x7d" 3
  | 1 => .ofValue "Log" "function Log() \x7b this.info = function () \x7b\x7d; \x7d" 4
  | 2 => .new "Service" "function Service(store, log) \x7b log.info(store.size); store.all(); \x7d"
      fun args world => (.ok args.size, world + 1)

/-- The store and the log have no name in common, so the service is built alike with either of them
registered first. -/
theorem resolve_eq_of_perm_services :
    ([0, 1, 2] : List (Fin 3)).Perm [2, 1, 0] ∧
      Registry.Uncontested (history services [0, 1, 2]) ∧
      ((empty services).registeringAll [0, 1, 2]).satisfiers 2
        = ((empty services).registeringAll [2, 1, 0]).satisfiers 2 ∧
      ∀ s, ((empty services).registeringAll [0, 1, 2]).resolve 2 s
        = ((empty services).registeringAll [2, 1, 0]).resolve 2 s := by
  have perm : ([0, 1, 2] : List (Fin 3)).Perm [2, 1, 0] := by decide
  have recorded : history services [0, 1, 2]
      = [⟨0, ⟨["size"], ["all"]⟩⟩, ⟨1, ⟨[], ["info"]⟩⟩, ⟨2, ⟨[], []⟩⟩] := by
    decide +kernel
  have alone : Registry.Uncontested (history services [0, 1, 2]) := by
    rw [recorded]
    exact ⟨by decide, by decide⟩
  exact ⟨perm, alone, resolve_eq_of_perm services perm alone 2⟩

end Container

end Shapewire
