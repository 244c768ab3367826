/-
What matching a type tells about building it.

Matching finds the candidates of every parameter and builds nothing.  Building matches each type it
comes to in the same way before it does anything else with it, so an error of matching is the error of
building (`resolve_of_satisfiers_eq_error`), and what has been built has been matched.

While it builds the arguments of a type, it looks every parameter up in the satisfier map again and
would fail for one that is not found there.  That never happens: the map has one entry for each
parameter, no two parameters share a name, and an entry without candidates would have been an error of
matching.  So `resolveArguments` is the building of the first candidates, one after the other, and has no
failures of its own (`exists_resolveArguments_eq`).
-/
import Shapewire.Proofs.Analysis.Usage
import Shapewire.Proofs.Container.Resolution

namespace Shapewire

/-- No two parameters of a constructor share a name. -/
theorem SourceTree.nodup_parameters {s : SourceTree} {callable : Callable}
    (found : s.callable = .ok callable) : callable.parameters.Nodup := by
  unfold SourceTree.callable Callable.find at found
  split at found
  · cases found
  · dsimp only at found
    split at found
    · cases found
    · rename_i noRepeat
      cases found
      exact (firstRepeat?_eq_none_iff.mp noRepeat).1

/-- What a table with distinct keys holds is found under its key. -/
theorem lookup_of_mem {α : Type} {entries : List (String × α)} (distinct : (entries.map Prod.fst).Nodup)
    {key : String} {value : α} (mem : (key, value) ∈ entries) : entries.lookup key = some value := by
  obtain ⟨before, after, rfl⟩ := List.append_of_mem mem
  rw [List.map_append, List.map_cons] at distinct
  refine List.lookup_eq_some_iff.mpr ⟨before, after, rfl, ?_⟩
  intro entry inside
  have apart := (List.nodup_append.mp distinct).2.2 entry.1 (List.mem_map_of_mem inside) key
    List.mem_cons_self
  simpa using apart.symm

/-- A dependency that nothing is done with has no candidates. -/
theorem Registry.candidates_of_isEmpty {κ : Type} [DecidableEq κ] (r : Registry κ) {usage : Usage}
    (unused : usage.isEmpty = true) : r.candidates usage = [] := by
  obtain ⟨noMember, noMethod⟩ := Bool.and_eq_true_iff.mp unused
  rw [candidates, noMember, noMethod]

namespace Container

variable {κ ι σ : Type} [DecidableEq κ]

/-- What matching a type says of its parameters and of building it. -/
structure Foretells (c : Container κ ι σ) (key : κ) : Prop where
  /-- The parameters are those declared, in their order, and no two share a name. -/
  declared : ∀ record, c.usageOf key = .ok record →
    (c.definition key).parameters = .ok record.parameters ∧ record.parameters.Nodup
  /-- Matching finds a parameter without candidates exactly if the type can be analysed and has
  one. -/
  unsatisfied : (∃ name parameter methods members,
      c.satisfiers key = .error (.unsatisfied name parameter methods members)) ↔
    ∃ record, c.usageOf key = .ok record ∧
      ∃ entry ∈ record.entries, c.registry.candidates entry.2 = []
  /-- The parameter found is the first one, and all that is done with it is reported, in order and
  with repeats. -/
  first : ∀ name parameter methods members,
    c.satisfiers key = .error (.unsatisfied name parameter methods members) ↔
      ∃ before usage after, c.usageOf key = .ok ⟨before ++ (parameter, usage) :: after⟩ ∧
        c.registry.Satisfies before ∧ c.registry.candidates usage = [] ∧
        name = c.nameOf key ∧ methods = usage.methods ∧ members = usage.members
  /-- A parameter that nothing is done with has no candidates. -/
  unused : ∀ usage : Usage, usage.isEmpty = true → c.registry.candidates usage = []
  /-- A type that cannot be analysed is not matched. -/
  unanalysed : ∀ e, c.usageOf key = .error e → c.satisfiers key = .error e
  /-- A type of which every parameter has a candidate is matched. -/
  matched : ∀ record, c.usageOf key = .ok record → c.registry.Satisfies record.entries →
    ∃ m, c.satisfiers key = .ok m
  /-- The map has one entry for each parameter, in declaration order, and none of them is empty. -/
  entries : ∀ m, c.satisfiers key = .ok m →
    (c.definition key).parameters = .ok (m.entries.map Prod.fst) ∧ ∀ entry ∈ m.entries, entry.2 ≠ []
  /-- An error of matching is the error of building, and no factory has been called. -/
  error : ∀ e, c.satisfiers key = .error e → ∀ s, c.resolve key s = .error e s
  /-- What can be built is matched. -/
  built : ∀ s value s', c.resolve key s = .ok value s' → ∃ m, c.satisfiers key = .ok m
  /-- Building the arguments is building the first candidate of every entry, one after the other,
  whatever `build` does.  So no parameter is ever missing from the map. -/
  arguments : ∀ record m, c.usageOf key = .ok record → c.satisfiers key = .ok m →
    ∃ chosen : List κ, m.entries.map (fun entry => entry.2.head?) = chosen.map some ∧
      ∀ build : κ → Resolver κ σ ι,
        c.resolveArguments build key m record.entries = chosen.mapM build

variable {c : Container κ ι σ} {key : κ} {record : UsageRecord}

omit [DecidableEq κ] in
theorem nodup_parameters (usage : c.usageOf key = .ok record) : record.parameters.Nodup := by
  have declared := parameters_of_usageOf usage
  unfold Definition.parameters Definition.analyzed at declared
  split at declared
  · cases declared
  · rename_i s _
    unfold SourceTree.parameters at declared
    cases found : s.callable with
    | error e => simp [found, Functor.map, Except.map] at declared
    | ok callable =>
      have same : callable.parameters = record.parameters := by
        simpa [found, Functor.map, Except.map] using declared
      rw [← same]
      exact SourceTree.nodup_parameters found

/-- Building the arguments of a matched type is building the first candidates of its parameters. -/
theorem exists_resolveArguments_eq (usage : c.usageOf key = .ok record)
    (all : c.registry.Satisfies record.entries) : ∃ chosen : List κ,
      record.entries.map (fun entry => (c.registry.candidates entry.2).head?) = chosen.map some ∧
      ∀ build : κ → Resolver κ σ ι,
        c.resolveArguments build key ⟨c.registry.matched record.entries⟩ record.entries
          = chosen.mapM build := by
  obtain ⟨chosen, mapped⟩ := exists_mapM_chosen? all record.parameters fun _ mem => mem
  refine ⟨chosen, ?_, fun build => resolveArguments_eq_mapM build key _ mapped⟩
  rw [← map_eq_of_mapM mapped, UsageRecord.parameters, List.map_map]
  refine List.map_congr_left ?_
  rintro ⟨parameter, used⟩ mem
  show _ = (⟨c.registry.matched record.entries⟩ : SatisfierMap κ).chosen? parameter
  rw [Registry.chosen?_matched, lookup_of_mem (nodup_parameters usage) mem]
  rfl

/-- Building a type that cannot be matched fails as matching does, before any factory is called. -/
theorem resolve_of_satisfiers_eq_error {e : ContainerError} (failed : c.satisfiers key = .error e)
    (s : Session κ σ) : c.resolve key s = .error e s := by
  show c.resolveIn (maxResolution - 1 + 1) [] key s = _
  rw [resolveIn_of_error List.not_mem_nil failed]
  rfl

/-- A type is found to have a parameter without candidates exactly if it has one. -/
theorem satisfiers_eq_unsatisfied_iff {name parameter : String} {methods members : List String} :
    c.satisfiers key = .error (.unsatisfied name parameter methods members) ↔
      ∃ before usage after, c.usageOf key = .ok ⟨before ++ (parameter, usage) :: after⟩ ∧
        c.registry.Satisfies before ∧ c.registry.candidates usage = [] ∧
        name = c.nameOf key ∧ methods = usage.methods ∧ members = usage.members := by
  constructor
  · intro failed
    rcases exists_of_satisfiers_eq_error failed with
      ⟨_, -, contra⟩ | ⟨⟨entries⟩, before, parameter, usage, after, found, same, all, none, named⟩
    · cases contra
    · obtain rfl : entries = before ++ (parameter, usage) :: after := same
      cases named
      exact ⟨before, usage, after, found, all, none, rfl, rfl, rfl⟩
  · rintro ⟨before, usage, after, found, all, none, rfl, rfl, rfl⟩
    simp only [satisfiers, found, bind, Except.bind, Registry.satisfy,
      c.registry.satisfyEntries_eq_error _ all none, Functor.map, Except.map]

/-- A parameter without candidates keeps a type from being matched. -/
theorem exists_satisfiers_eq_unsatisfied (usage : c.usageOf key = .ok record)
    {entry : String × Usage} (mem : entry ∈ record.entries)
    (none : c.registry.candidates entry.2 = []) : ∃ name parameter methods members,
      c.satisfiers key = .error (.unsatisfied name parameter methods members) := by
  cases matching : c.satisfiers key with
  | ok m =>
    obtain ⟨record', usage', all, -⟩ := satisfiers_eq_ok_iff.mp matching
    cases usage.symm.trans usage'
    exact absurd none (all entry mem)
  | error e =>
    rcases exists_of_satisfiers_eq_error matching with
      ⟨cause, failed, -⟩ | ⟨_, _, parameter, used, _, -, -, -, -, rfl⟩
    · simp [usageOf, failed, analyzing] at usage
    · exact ⟨c.nameOf key, parameter, used.methods, used.members, rfl⟩

/--
**Matching a type foretells building it.**

Matching fails at the first parameter that has no candidate and at nothing else, once the type can be
analysed.  Where it fails, building fails with the same error; where building succeeds, so does
matching, and the arguments are built from the first candidates that it lists.
-/
theorem foretells (c : Container κ ι σ) (key : κ) : c.Foretells key where
  declared _ usage := ⟨parameters_of_usageOf usage, nodup_parameters usage⟩
  unsatisfied := by
    constructor
    · rintro ⟨name, parameter, methods, members, failed⟩
      obtain ⟨before, usage, after, found, -, none, -⟩ := satisfiers_eq_unsatisfied_iff.mp failed
      exact ⟨_, found, (parameter, usage), by simp, none⟩
    · rintro ⟨record, usage, entry, mem, none⟩
      exact exists_satisfiers_eq_unsatisfied usage mem none
  first _ _ _ _ := satisfiers_eq_unsatisfied_iff
  unused _ := c.registry.candidates_of_isEmpty
  unanalysed e failed := by
    rw [satisfiers, failed]
    rfl
  matched record usage all := ⟨_, satisfiers_eq_ok_iff.mpr ⟨record, usage, all, rfl⟩⟩
  entries m matching := by
    obtain ⟨record, usage, all, rfl⟩ := satisfiers_eq_ok_iff.mp matching
    refine ⟨?_, ?_⟩
    · rw [parameters_of_usageOf usage, Registry.matched, List.map_map]
      rfl
    · intro entry mem
      obtain ⟨used, inside, rfl⟩ := List.mem_map.mp mem
      exact all used inside
  error e failed := resolve_of_satisfiers_eq_error failed
  built s value s' resolved := by
    cases matching : c.satisfiers key with
    | ok m => exact ⟨m, rfl⟩
    | error e =>
      rw [resolve_of_satisfiers_eq_error matching] at resolved
      cases resolved
  arguments record m usage matching := by
    obtain ⟨record', usage', all, rfl⟩ := satisfiers_eq_ok_iff.mp matching
    cases usage.symm.trans usage'
    obtain ⟨chosen, firsts, arguments⟩ := exists_resolveArguments_eq usage all
    refine ⟨chosen, ?_, arguments⟩
    rw [← firsts, Registry.matched, List.map_map]
    rfl

end Container

end Shapewire
