/-
What a satisfier map holds.

Matching succeeds exactly when every dependency has a candidate, and then the map has one
entry for each, in declaration order, that lists all its candidates (`satisfy_eq_ok_iff`).  So
a candidate is chosen for every dependency of the map (`exists_chosen?`), even if two of them
should share a name.
-/
import Shapewire.Container.Satisfier

namespace Shapewire

namespace Registry

variable {κ : Type} [DecidableEq κ] (r : Registry κ) (typeName : String)

/-- Every dependency has a candidate. -/
def Satisfies (entries : List (String × Usage)) : Prop :=
  ∀ entry ∈ entries, r.candidates entry.2 ≠ []

/-- The dependencies with all their candidates. -/
def matched (entries : List (String × Usage)) : List (String × List κ) :=
  entries.map fun entry => (entry.1, r.candidates entry.2)

theorem satisfyEntries_eq_ok_iff (entries : List (String × Usage))
    (found : List (String × List κ)) :
    r.satisfyEntries typeName entries = .ok found ↔
      r.Satisfies entries ∧ found = r.matched entries := by
  induction entries generalizing found with
  | nil => simp [satisfyEntries, Satisfies, matched]
  | cons entry entries ih =>
    obtain ⟨dependency, usage⟩ := entry
    rw [satisfyEntries]
    split
    · rename_i none
      simp [Satisfies, none]
    · rename_i some
      cases rest : r.satisfyEntries typeName entries with
      | error e =>
        have none : ¬ r.Satisfies entries := by
          intro h
          have := (ih _).mpr ⟨h, rfl⟩
          rw [rest] at this
          cases this
        have : ¬ r.Satisfies ((dependency, usage) :: entries) :=
          fun h => none fun entry mem => h entry (List.mem_cons_of_mem _ mem)
        simp [this, bind, Except.bind]
      | ok found' =>
        obtain ⟨h, rfl⟩ := (ih found').mp rest
        have all : r.Satisfies ((dependency, usage) :: entries) := by
          intro entry mem
          rcases List.mem_cons.mp mem with rfl | mem
          · exact some
          · exact h entry mem
        simp [all, matched, bind, Except.bind, pure, Except.pure, eq_comm]

/-- Matching fails at the first dependency that has no candidate. -/
theorem exists_of_satisfyEntries_eq_error {entries : List (String × Usage)} {e : ContainerError}
    (h : r.satisfyEntries typeName entries = .error e) :
    ∃ before dependency usage after, entries = before ++ (dependency, usage) :: after ∧
      r.Satisfies before ∧ r.candidates usage = [] ∧
      e = .unsatisfied typeName dependency usage.methods usage.members := by
  induction entries with
  | nil => cases h
  | cons entry entries ih =>
    obtain ⟨dependency, usage⟩ := entry
    rw [satisfyEntries] at h
    split at h
    · rename_i none
      refine ⟨[], dependency, usage, entries, rfl, ?_, none, ?_⟩
      · intro entry mem
        cases mem
      · simpa using h.symm
    · rename_i some
      cases rest : r.satisfyEntries typeName entries with
      | ok found => simp [rest, bind, Except.bind, pure, Except.pure] at h
      | error e' =>
        obtain rfl : e' = e := by simpa [rest, bind, Except.bind] using h
        obtain ⟨before, d, u, after, rfl, all, none, rfl⟩ := ih rest
        refine ⟨(dependency, usage) :: before, d, u, after, rfl, ?_, none, rfl⟩
        intro entry mem
        rcases List.mem_cons.mp mem with rfl | mem
        · exact some
        · exact all entry mem

/-- The first dependency that has no candidate makes matching fail. -/
theorem satisfyEntries_eq_error {before after : List (String × Usage)} {dependency : String}
    {usage : Usage} (all : r.Satisfies before) (none : r.candidates usage = []) :
    r.satisfyEntries typeName (before ++ (dependency, usage) :: after)
      = .error (.unsatisfied typeName dependency usage.methods usage.members) := by
  induction before with
  | nil =>
    show r.satisfyEntries typeName ((dependency, usage) :: after) = _
    rw [satisfyEntries, none]
  | cons entry before ih =>
    obtain ⟨first, used⟩ := entry
    rw [List.cons_append, satisfyEntries]
    split
    · rename_i none'
      exact absurd none' (all _ List.mem_cons_self)
    · rw [ih fun entry mem => all entry (List.mem_cons_of_mem _ mem)]
      rfl

theorem satisfy_eq_ok_iff (record : UsageRecord) (m : SatisfierMap κ) :
    r.satisfy typeName record = .ok m ↔
      r.Satisfies record.entries ∧ m = ⟨r.matched record.entries⟩ := by
  rw [satisfy]
  cases h : r.satisfyEntries typeName record.entries with
  | error e =>
    have : ¬ r.Satisfies record.entries := by
      intro all
      have := (r.satisfyEntries_eq_ok_iff typeName _ _).mpr ⟨all, rfl⟩
      rw [h] at this
      cases this
    simp [this, Functor.map, Except.map]
  | ok found =>
    obtain ⟨all, rfl⟩ := (r.satisfyEntries_eq_ok_iff typeName _ _).mp h
    simp [all, Functor.map, Except.map, eq_comm]

theorem exists_of_satisfy_eq_error {record : UsageRecord} {e : ContainerError}
    (h : r.satisfy typeName record = .error e) :
    ∃ before dependency usage after, record.entries = before ++ (dependency, usage) :: after ∧
      r.Satisfies before ∧ r.candidates usage = [] ∧
      e = .unsatisfied typeName dependency usage.methods usage.members := by
  rw [satisfy] at h
  cases found : r.satisfyEntries typeName record.entries with
  | ok found' => simp [found, Functor.map, Except.map] at h
  | error e' =>
    obtain rfl : e' = e := by simpa [found, Functor.map, Except.map] using h
    exact r.exists_of_satisfyEntries_eq_error typeName found

/-- The candidate chosen for a dependency is the first one for its usage. -/
theorem chosen?_matched (entries : List (String × Usage)) (dependency : String) :
    (⟨r.matched entries⟩ : SatisfierMap κ).chosen? dependency
      = (entries.lookup dependency).bind fun usage => (r.candidates usage).head? := by
  induction entries with
  | nil => rfl
  | cons entry entries ih =>
    obtain ⟨first, usage⟩ := entry
    rw [List.lookup_cons]
    cases same : dependency == first with
    | true => simp [SatisfierMap.chosen?, SatisfierMap.get?, matched, List.lookup_cons, same]
    | false =>
      rw [← ih]
      simp [SatisfierMap.chosen?, SatisfierMap.get?, matched, List.lookup_cons, same]

/-- A candidate is chosen for every dependency. -/
theorem exists_chosen? {entries : List (String × Usage)} (h : r.Satisfies entries)
    {dependency : String} (mem : dependency ∈ entries.map Prod.fst) :
    ∃ key, (⟨r.matched entries⟩ : SatisfierMap κ).chosen? dependency = some key := by
  induction entries with
  | nil => simp at mem
  | cons entry entries ih =>
    have first := h entry List.mem_cons_self
    by_cases same : dependency = entry.1
    · obtain ⟨key, keys, found⟩ := List.exists_cons_of_ne_nil first
      exact ⟨key, by
        simp [SatisfierMap.chosen?, SatisfierMap.get?, matched, same, found]⟩
    · have mem' : dependency ∈ entries.map Prod.fst := by
        simpa [same] using mem
      obtain ⟨key, found⟩ := ih (fun e he => h e (List.mem_cons_of_mem _ he)) mem'
      refine ⟨key, ?_⟩
      have ne : (dependency == entry.1) = false := by simpa using same
      simp only [SatisfierMap.chosen?, SatisfierMap.get?, matched, List.map_cons,
        List.lookup_cons, ne] at found ⊢
      exact found

end Registry

end Shapewire
