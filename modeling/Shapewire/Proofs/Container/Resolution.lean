/-
One step of building.

`resolveIn` does one of four things with a type: it refuses a type that is under construction,
it refuses any type when there is no room left, it fails if some parameter has no candidate,
and otherwise it builds the chosen dependencies in order and calls the factory.  The four
equations below say so, and `exists_of_resolveIn_eq_ok` and `cases_of_resolveIn_eq_error` read
them backwards.  Nothing after them looks at `resolveIn` itself.
-/
import Shapewire.Proofs.Container.Unfolding

namespace Shapewire

namespace Container

variable {κ ι σ : Type} [DecidableEq κ] {c : Container κ ι σ}

/-! ### Chosen dependencies -/

/-- What is read through a partial function is what the function gives on each element. -/
theorem map_eq_of_mapM {α β : Type} {f : α → Option β} {as : List α} {bs : List β}
    (h : as.mapM f = some bs) : as.map f = bs.map some := by
  induction as generalizing bs with
  | nil =>
    cases h
    rfl
  | cons a as ih =>
    rw [List.mapM_cons] at h
    obtain ⟨b, first, h⟩ := Option.bind_eq_some_iff.mp h
    obtain ⟨bs, others, same⟩ := Option.bind_eq_some_iff.mp h
    cases same
    rw [List.map_cons, List.map_cons, first, ih others]

omit [DecidableEq κ] in
theorem parameters_of_usageOf {key : κ} {record : UsageRecord} (h : c.usageOf key = .ok record) :
    (c.definition key).parameters = .ok record.parameters := by
  unfold usageOf analyzing Definition.usage Definition.analyzed at h
  unfold Definition.parameters Definition.analyzed
  cases parsed : (c.definition key).parsed with
  | error e => simp [parsed] at h
  | ok s =>
    simp only [parsed, SourceTree.usage, SourceTree.parameters] at h ⊢
    cases found : s.callable with
    | error e => simp [found, Functor.map, Except.map] at h
    | ok callable =>
      simp only [found, Functor.map, Except.map, Except.ok.injEq] at h
      subst h
      simp [Functor.map, Except.map, Callable.usage, UsageRecord.parameters, Function.comp_def]

theorem satisfiers_eq_ok_iff {key : κ} {m : SatisfierMap κ} :
    c.satisfiers key = .ok m ↔ ∃ record, c.usageOf key = .ok record ∧
      c.registry.Satisfies record.entries ∧ m = ⟨c.registry.matched record.entries⟩ := by
  rw [satisfiers]
  cases found : c.usageOf key with
  | error e => simp [bind, Except.bind]
  | ok record =>
    have := c.registry.satisfy_eq_ok_iff (c.nameOf key) record m
    simpa [bind, Except.bind] using this

/-- Matching a type fails because it cannot be analysed, or at the first of its parameters that
has no candidate. -/
theorem exists_of_satisfiers_eq_error {key : κ} {e : ContainerError}
    (h : c.satisfiers key = .error e) :
    (∃ cause, (c.definition key).usage = .error cause ∧ e = .analyze (c.nameOf key) cause) ∨
    ∃ record before dependency usage after, c.usageOf key = .ok record ∧
      record.entries = before ++ (dependency, usage) :: after ∧ c.registry.Satisfies before ∧
      c.registry.candidates usage = [] ∧
      e = .unsatisfied (c.nameOf key) dependency usage.methods usage.members := by
  rw [satisfiers] at h
  cases analysed : (c.definition key).usage with
  | error cause =>
    refine Or.inl ⟨cause, rfl, ?_⟩
    simpa [usageOf, analysed, analyzing, bind, Except.bind] using h.symm
  | ok record =>
    have usage : c.usageOf key = .ok record := by simp [usageOf, analysed, analyzing]
    have matching : c.registry.satisfy (c.nameOf key) record = .error e := by
      simpa [usage, bind, Except.bind] using h
    obtain ⟨before, dependency, used, after, found⟩ :=
      Registry.exists_of_satisfy_eq_error _ _ matching
    exact Or.inr ⟨record, before, dependency, used, after, usage, found⟩

/-- What has a candidate for each parameter has a chosen dependency for each. -/
theorem exists_mapM_chosen? {entries : List (String × Usage)}
    (h : c.registry.Satisfies entries) :
    ∀ names : List String, (∀ name ∈ names, name ∈ entries.map Prod.fst) →
      ∃ keys, names.mapM (⟨c.registry.matched entries⟩ : SatisfierMap κ).chosen? = some keys := by
  intro names
  induction names with
  | nil => intro _; exact ⟨[], rfl⟩
  | cons name names ih =>
    intro mem
    obtain ⟨key, first⟩ := c.registry.exists_chosen? h (mem name List.mem_cons_self)
    obtain ⟨keys, others⟩ := ih fun n hn => mem n (List.mem_cons_of_mem _ hn)
    exact ⟨key :: keys, by simp [first, others]⟩

/-- The chosen dependencies of a type, seen from its usage record. -/
theorem dependencies?_of_usageOf {key : κ} {record : UsageRecord}
    (usage : c.usageOf key = .ok record) (h : c.registry.Satisfies record.entries) :
    c.satisfiers key = .ok ⟨c.registry.matched record.entries⟩ ∧
      ∃ keys, c.dependencies? key = some keys ∧
        record.parameters.mapM (⟨c.registry.matched record.entries⟩ : SatisfierMap κ).chosen?
          = some keys := by
  have satisfiers := satisfiers_eq_ok_iff.mpr ⟨record, usage, h, rfl⟩
  obtain ⟨keys, chosen⟩ := exists_mapM_chosen? h record.parameters fun _ mem => mem
  refine ⟨satisfiers, keys, ?_, chosen⟩
  simp [dependencies?, parameters_of_usageOf usage, satisfiers, chosen]

theorem satisfied_iff {key : κ} : c.Satisfied key ↔ ∃ keys, c.dependencies? key = some keys := by
  constructor
  · rintro ⟨record, usage, h⟩
    obtain ⟨-, keys, chosen, -⟩ := dependencies?_of_usageOf usage h
    exact ⟨keys, chosen⟩
  · rintro ⟨keys, chosen⟩
    unfold dependencies? at chosen
    split at chosen
    · rename_i satisfiers
      obtain ⟨record, usage, h, -⟩ := satisfiers_eq_ok_iff.mp satisfiers
      exact ⟨record, usage, h⟩
    · cases chosen

/-! ### What building one type does -/

omit [DecidableEq κ] in
theorem resolveArguments_eq_mapM (build : κ → Resolver κ σ ι) (key : κ) (m : SatisfierMap κ)
    {entries : List (String × Usage)} {keys : List κ}
    (h : (entries.map Prod.fst).mapM m.chosen? = some keys) :
    c.resolveArguments build key m entries = keys.mapM build := by
  induction entries generalizing keys with
  | nil =>
    simp only [List.map_nil, List.mapM_nil, Option.pure_def, Option.some.injEq] at h
    subst h
    rfl
  | cons entry entries ih =>
    obtain ⟨dependency, usage⟩ := entry
    cases first : m.chosen? dependency with
    | none => simp [first] at h
    | some next =>
      cases others : (entries.map Prod.fst).mapM m.chosen? with
      | none => simp [first, others] at h
      | some rest =>
        simp only [List.map_cons, List.mapM_cons, first, others, Option.bind_eq_bind,
          Option.bind_some, Option.pure_def, Option.some.injEq] at h
        subst h
        rw [resolveArguments, first, List.mapM_cons]
        simp only [ih others]

variable {room : Nat} {path : List κ} {key : κ}

theorem resolveIn_of_mem (h : key ∈ path) :
    c.resolveIn room path key = throw (c.cycleError path key) := by
  unfold resolveIn
  rw [if_pos h]

theorem resolveIn_zero (h : key ∉ path) :
    c.resolveIn 0 path key = throw (.tooDeep maxResolution) := by
  unfold resolveIn
  rw [if_neg h]

/-- A type whose dependencies are chosen is built from them, in order. -/
theorem resolveIn_of_dependencies (h : key ∉ path) {keys : List κ}
    (chosen : c.dependencies? key = some keys) :
    c.resolveIn (room + 1) path key =
      keys.mapM (c.resolveIn room (path ++ [key])) >>= fun values => c.construct key ⟨values⟩ := by
  obtain ⟨record, usage, all⟩ := satisfied_iff.mpr ⟨keys, chosen⟩
  obtain ⟨-, keys', chosen', mapped⟩ := dependencies?_of_usageOf usage all
  obtain rfl : keys = keys' := by simpa [chosen] using chosen'
  have matched := (c.registry.satisfy_eq_ok_iff (c.nameOf key) record _).mpr ⟨all, rfl⟩
  rw [resolveIn, if_neg h, usage]
  simp only [resolveIn.liftExcept, pure_bind, matched]
  rw [resolveArguments_eq_mapM _ _ _ mapped]

/-- A type of which some dependency cannot be chosen fails as matching it fails. -/
theorem resolveIn_of_error (h : key ∉ path) {e : ContainerError}
    (failed : c.satisfiers key = .error e) : c.resolveIn (room + 1) path key = throw e := by
  rw [satisfiers] at failed
  rw [resolveIn, if_neg h]
  cases usage : c.usageOf key with
  | error e' =>
    obtain rfl : e' = e := by simpa [usage, bind, Except.bind] using failed
    rfl
  | ok record =>
    have matching : c.registry.satisfy (c.nameOf key) record = .error e := by
      simpa [usage, bind, Except.bind] using failed
    simp only [resolveIn.liftExcept, pure_bind, matching]
    rfl

/-- A type has chosen dependencies, or matching it fails. -/
theorem dependencies?_or_error (c : Container κ ι σ) (key : κ) :
    (∃ keys, c.dependencies? key = some keys) ∨
      c.dependencies? key = none ∧ ∃ e, c.satisfiers key = .error e := by
  cases matching : c.satisfiers key with
  | error e =>
    refine Or.inr ⟨?_, e, rfl⟩
    unfold dependencies?
    rw [matching]
    split
    · rename_i contra
      cases contra
    · rfl
  | ok m =>
    obtain ⟨record, usage, all, -⟩ := satisfiers_eq_ok_iff.mp matching
    exact Or.inl (satisfied_iff.mp ⟨record, usage, all⟩)

/-- A type cannot be built when the types on `path` are, and this is why: it is one of them,
there are as many of them as there may be, or some dependency of it cannot be chosen. -/
inductive Refused (c : Container κ ι σ) (path : List κ) (key : κ) : ContainerError → Prop
  | cyclic (mem : key ∈ path) : Refused c path key (c.cycleError path key)
  | tooDeep (new : key ∉ path) (full : path.length = maxResolution) :
    Refused c path key (.tooDeep maxResolution)
  | unsatisfied {e : ContainerError} (new : key ∉ path) (failed : c.satisfiers key = .error e) :
    Refused c path key e

variable {s s' : Session κ σ} {value : ι}

/-- What has been built was built from the chosen dependencies. -/
theorem exists_of_resolveIn_eq_ok (h : c.resolveIn room path key s = .ok value s') :
    ∃ room' keys values s₁, room = room' + 1 ∧ key ∉ path ∧ c.dependencies? key = some keys ∧
      keys.mapM (c.resolveIn room' (path ++ [key])) s = .ok values s₁ ∧
      c.construct key ⟨values⟩ s₁ = .ok value s' := by
  by_cases mem : key ∈ path
  · rw [resolveIn_of_mem mem] at h
    cases h
  cases room with
  | zero =>
    rw [resolveIn_zero mem] at h
    cases h
  | succ room =>
    rcases c.dependencies?_or_error key with ⟨keys, chosen⟩ | ⟨-, e, failed⟩
    · rw [resolveIn_of_dependencies mem chosen] at h
      simp only [bind, EStateM.bind] at h
      split at h
      · rename_i values s₁ built
        exact ⟨room, keys, values, s₁, rfl, mem, chosen, built, h⟩
      · cases h
    · rw [resolveIn_of_error mem failed] at h
      cases h

/-- What has failed was refused before anything was done, or a dependency or the factory
failed. -/
theorem cases_of_resolveIn_eq_error {e : ContainerError} (size : path.length + room = maxResolution)
    (h : c.resolveIn room path key s = .error e s') :
    s' = s ∧ c.Refused path key e ∨
    ∃ room' keys, room = room' + 1 ∧ key ∉ path ∧ c.dependencies? key = some keys ∧
      (keys.mapM (c.resolveIn room' (path ++ [key])) s = .error e s' ∨
        ∃ values s₁, keys.mapM (c.resolveIn room' (path ++ [key])) s = .ok values s₁ ∧
          c.construct key ⟨values⟩ s₁ = .error e s') := by
  by_cases mem : key ∈ path
  · rw [resolveIn_of_mem mem] at h
    cases h
    exact Or.inl ⟨rfl, .cyclic mem⟩
  cases room with
  | zero =>
    rw [resolveIn_zero mem] at h
    cases h
    exact Or.inl ⟨rfl, .tooDeep mem (by omega)⟩
  | succ room =>
    rcases c.dependencies?_or_error key with ⟨keys, chosen⟩ | ⟨-, e', failed⟩
    · refine Or.inr ⟨room, keys, rfl, mem, chosen, ?_⟩
      rw [resolveIn_of_dependencies mem chosen] at h
      simp only [bind, EStateM.bind] at h
      split at h
      · rename_i values s₁ built
        exact Or.inr ⟨values, s₁, built, h⟩
      · rename_i e' s₁ failed
        cases h
        exact Or.inl failed
    · rw [resolveIn_of_error mem failed] at h
      cases h
      exact Or.inl ⟨rfl, .unsatisfied mem failed⟩

/-! ### Building one type after another -/

omit [DecidableEq κ]

variable {build : κ → Resolver κ σ ι} {keys : List κ} {values : List ι}

theorem mapM_cons_eq_ok_iff : (key :: keys).mapM build s = .ok values s' ↔
    ∃ value s₁ values', build key s = .ok value s₁ ∧ keys.mapM build s₁ = .ok values' s' ∧
      values = value :: values' := by
  rw [List.mapM_cons]
  simp only [bind, EStateM.bind, pure, EStateM.pure]
  cases first : build key s with
  | error e s₁ => simp
  | ok value s₁ =>
    cases others : keys.mapM build s₁ with
    | error e s₂ => simp [others]
    | ok values' s₂ => grind

theorem mapM_cons_eq_error_iff {e : ContainerError} : (key :: keys).mapM build s = .error e s' ↔
    build key s = .error e s' ∨
      ∃ value s₁, build key s = .ok value s₁ ∧ keys.mapM build s₁ = .error e s' := by
  rw [List.mapM_cons]
  simp only [bind, EStateM.bind, pure, EStateM.pure]
  cases first : build key s with
  | error e s₁ => simp
  | ok value s₁ =>
    cases others : keys.mapM build s₁ with
    | error e s₂ => grind
    | ok values' s₂ => simp [others]

/-- Of some types that are all built, each is built at some time. -/
theorem exists_of_mapM_eq_ok (h : keys.mapM build s = .ok values s') (mem : key ∈ keys) :
    ∃ s₁ value s₂, build key s₁ = .ok value s₂ := by
  induction keys generalizing s values with
  | nil => cases mem
  | cons first keys ih =>
    obtain ⟨value, s₁, values', built, others, -⟩ := mapM_cons_eq_ok_iff.mp h
    rcases List.mem_cons.mp mem with rfl | mem
    · exact ⟨s, value, s₁, built⟩
    · exact ih others mem

/-- The first type that cannot be built stops the others behind it. -/
theorem exists_of_mapM_eq_error {e : ContainerError} (h : keys.mapM build s = .error e s') :
    ∃ before next after values s₁, keys = before ++ next :: after ∧
      before.mapM build s = .ok values s₁ ∧ build next s₁ = .error e s' := by
  induction keys generalizing s with
  | nil => cases h
  | cons key keys ih =>
    rcases mapM_cons_eq_error_iff.mp h with failed | ⟨value, s₁, built, failed⟩
    · exact ⟨[], key, keys, [], s, rfl, rfl, failed⟩
    · obtain ⟨before, next, after, values, s₂, rfl, all, stopped⟩ := ih failed
      exact ⟨key :: before, next, after, value :: values, s₂, rfl,
        mapM_cons_eq_ok_iff.mpr ⟨value, s₁, values, built, all, rfl⟩, stopped⟩

/-! ### Calling a factory -/

theorem construct_eq_ok_iff {args : Arguments ι} : c.construct key args s = .ok value s' ↔
    (c.definition key).factory args s.world = (.ok value, s'.world) ∧
      s'.invoked = s.invoked ++ [key] := by
  rw [construct]
  obtain ⟨world', invoked'⟩ := s'
  split
  · rename_i made
    grind
  · rename_i made
    simp [made]

theorem construct_eq_error_iff {args : Arguments ι} {e : ContainerError} :
    c.construct key args s = .error e s' ↔
      ∃ cause, e = .constructionFailed (c.nameOf key) cause ∧
        (c.definition key).factory args s.world = (.error cause, s'.world) ∧
        s'.invoked = s.invoked ++ [key] := by
  rw [construct]
  obtain ⟨world', invoked'⟩ := s'
  split
  · rename_i made
    simp [made]
  · rename_i made
    grind

end Container

end Shapewire
