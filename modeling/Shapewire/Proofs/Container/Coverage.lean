/-
How much of a usage a candidate has.

The index lists of all names of one kind are joined, so one of the methods that are called on a
dependency is enough for a type to be a candidate, and so is one of the members that are read;
only between the two kinds must it have something of both.  `Meets` says this of a shape, and
`mem_candidates_iff_meets` that nothing else is asked of a candidate.  `Covers` says that a shape has
everything a usage asks for.  The two are the same where a usage asks for one name of each kind at
most, and no further: `chosen_not_covering` is a type that is chosen and built for a dependency of
which it lacks a method.
-/
import Shapewire.Proofs.Container.History
import Shapewire.Proofs.Container.Resolution

namespace Shapewire

/-- The shape has every name that the usage asks for. -/
structure Shape.Covers (shape : Shape) (usage : Usage) : Prop where
  methods : ∀ name ∈ usage.methods, name ∈ shape.methods
  members : ∀ name ∈ usage.members, name ∈ shape.members

/-- The usage asks for something, and of each kind of which it asks for names the shape has one of
them. -/
structure Shape.Meets (shape : Shape) (usage : Usage) : Prop where
  asked : usage.methods ≠ [] ∨ usage.members ≠ []
  method : usage.methods ≠ [] → ∃ name ∈ usage.methods, name ∈ shape.methods
  member : usage.members ≠ [] → ∃ name ∈ usage.members, name ∈ shape.members

/-- What meets a usage covers it, if no two different names of a kind are asked for. -/
theorem Shape.Meets.covers {shape : Shape} {usage : Usage} (meets : shape.Meets usage)
    (oneMethod : ∀ a ∈ usage.methods, ∀ b ∈ usage.methods, a = b)
    (oneMember : ∀ a ∈ usage.members, ∀ b ∈ usage.members, a = b) : shape.Covers usage where
  methods := by
    intro name mem
    obtain ⟨found, mem', has⟩ := meets.method (List.ne_nil_of_mem mem)
    rwa [oneMethod name mem found mem']
  members := by
    intro name mem
    obtain ⟨found, mem', has⟩ := meets.member (List.ne_nil_of_mem mem)
    rwa [oneMember name mem found mem']

/-- The candidates are the types that the indices list under one of the names of each kind. -/
theorem Registry.mem_candidates_iff {κ : Type} [DecidableEq κ] {r : Registry κ} {usage : Usage}
    {key : κ} : key ∈ r.candidates usage ↔ (usage.methods ≠ [] ∨ usage.members ≠ []) ∧
      (usage.methods ≠ [] → ∃ name ∈ usage.methods, key ∈ r.methodsFor name) ∧
      (usage.members ≠ [] → ∃ name ∈ usage.members, key ∈ r.membersFor name) := by
  unfold candidates
  cases noMethod : usage.methods.isEmpty <;> cases noMember : usage.members.isEmpty <;>
    simp only [List.isEmpty_iff, List.isEmpty_eq_false_iff] at noMethod noMember <;>
    simp [noMethod, noMember]

namespace Container

variable {κ ι σ : Type} {definition : κ → Definition ι σ} {keys : List κ}

/-- The registrations are those of the types among `keys` that have a shape. -/
theorem mem_history_iff {x : Registration κ} :
    x ∈ history definition keys ↔ x.key ∈ keys ∧ (definition x.key).shape = .ok x.shape := by
  obtain ⟨key, shape⟩ := x
  have registered (other : κ) : registration? definition other = some ⟨key, shape⟩ ↔
      other = key ∧ (definition other).shape = .ok shape := by
    unfold registration? Definition.shape Definition.analyzed
    cases (definition other).parsed <;> simp
  rw [history, List.mem_filterMap]
  constructor
  · rintro ⟨other, mem, found⟩
    obtain ⟨rfl, shaped⟩ := (registered other).mp found
    exact ⟨mem, shaped⟩
  · rintro ⟨mem, shaped⟩
    exact ⟨key, mem, (registered key).mpr ⟨rfl, shaped⟩⟩

/-- The types registered under a name of one kind. -/
theorem mem_having_iff (names : Shape → List String) {name : String} {key : κ} :
    key ∈ ((history definition keys).filter fun x => name ∈ names x.shape).map Registration.key ↔
      key ∈ keys ∧ ∃ shape, (definition key).shape = .ok shape ∧ name ∈ names shape := by
  simp only [List.mem_map, List.mem_filter, decide_eq_true_eq, mem_history_iff]
  constructor
  · rintro ⟨x, ⟨⟨mem, shaped⟩, has⟩, rfl⟩
    exact ⟨mem, x.shape, shaped, has⟩
  · rintro ⟨mem, shape, shaped, has⟩
    exact ⟨⟨key, shape⟩, ⟨⟨mem, shaped⟩, has⟩, rfl⟩

variable [DecidableEq κ]

/-- The candidates are the registered types whose shapes meet the usage. -/
theorem mem_candidates_of_records {r : Registry κ} (records : r.Records (history definition keys))
    {usage : Usage} {key : κ} : key ∈ r.candidates usage ↔
      key ∈ keys ∧ ∃ shape, (definition key).shape = .ok shape ∧ shape.Meets usage := by
  simp only [Registry.mem_candidates_iff, records.methods, records.members, Registry.havingMethod,
    Registry.havingMember, mem_having_iff Shape.methods, mem_having_iff Shape.members]
  constructor
  · rintro ⟨asked, method, member⟩
    -- Both kinds speak of the same shape, since a type has one shape only.
    have shaped : key ∈ keys ∧ ∃ shape, (definition key).shape = .ok shape := by
      rcases asked with some | some
      · obtain ⟨-, -, mem, shape, shaped, -⟩ := method some
        exact ⟨mem, shape, shaped⟩
      · obtain ⟨-, -, mem, shape, shaped, -⟩ := member some
        exact ⟨mem, shape, shaped⟩
    obtain ⟨mem, shape, shaped⟩ := shaped
    refine ⟨mem, shape, shaped, asked, ?_, ?_⟩
    · intro some
      obtain ⟨name, asks, -, _, same, has⟩ := method some
      cases shaped.symm.trans same
      exact ⟨name, asks, has⟩
    · intro some
      obtain ⟨name, asks, -, _, same, has⟩ := member some
      cases shaped.symm.trans same
      exact ⟨name, asks, has⟩
  · rintro ⟨mem, shape, shaped, asked, method, member⟩
    refine ⟨asked, ?_, ?_⟩
    · intro some
      obtain ⟨name, asks, has⟩ := method some
      exact ⟨name, asks, mem, shape, shaped, has⟩
    · intro some
      obtain ⟨name, asks, has⟩ := member some
      exact ⟨name, asks, mem, shape, shaped, has⟩

/-- What is chosen for a parameter is a candidate for what is done with that parameter. -/
theorem exists_usage_of_chosen? {c : Container κ ι σ} {key next : κ} {m : SatisfierMap κ}
    {parameter : String} (matched : c.satisfiers key = .ok m)
    (chosen : m.chosen? parameter = some next) : ∃ record usage, c.usageOf key = .ok record ∧
      record.get? parameter = some usage ∧ next ∈ c.registry.candidates usage := by
  obtain ⟨record, found, -, rfl⟩ := satisfiers_eq_ok_iff.mp matched
  rw [Registry.chosen?_matched] at chosen
  obtain ⟨usage, used, first⟩ := Option.bind_eq_some_iff.mp chosen
  exact ⟨record, usage, found, used, List.mem_of_mem_head? first⟩

/--
**A candidate has one of the methods and one of the members that are asked for.**

After any calls of `register` the candidates for a usage are exactly the registered types whose shape
has one of the methods if some are called, and one of the members if some are read; if nothing is done
with a dependency it has none.  What is chosen for a parameter is such a type for the use of that
parameter.  If no two different methods and no two different members are asked for, all candidates
cover the usage.
-/
theorem mem_candidates_iff_meets (definition : κ → Definition ι σ) (keys : List κ) :
    (∀ usage key, key ∈ ((empty definition).registeringAll keys).registry.candidates usage ↔
      key ∈ keys ∧ ∃ shape, (definition key).shape = .ok shape ∧ shape.Meets usage) ∧
    (∀ target m parameter next,
      ((empty definition).registeringAll keys).satisfiers target = .ok m →
      m.chosen? parameter = some next → ∃ record usage shape,
        ((empty definition).registeringAll keys).usageOf target = .ok record ∧
        record.get? parameter = some usage ∧
        (definition next).shape = .ok shape ∧ shape.Meets usage) ∧
    ∀ usage key, key ∈ ((empty definition).registeringAll keys).registry.candidates usage →
      (∀ a ∈ usage.methods, ∀ b ∈ usage.methods, a = b) →
      (∀ a ∈ usage.members, ∀ b ∈ usage.members, a = b) →
        ∃ shape, (definition key).shape = .ok shape ∧ shape.Covers usage := by
  obtain ⟨-, records⟩ :=
    records_registeringAll (c := empty definition) Registry.records_empty keys
  have candidates (usage : Usage) (key : κ) :
      key ∈ ((empty definition).registeringAll keys).registry.candidates usage ↔
        key ∈ keys ∧ ∃ shape, (definition key).shape = .ok shape ∧ shape.Meets usage :=
    mem_candidates_of_records records
  refine ⟨candidates, ?_, ?_⟩
  · intro target m parameter next matched chosen
    obtain ⟨record, usage, found, used, candidate⟩ := exists_usage_of_chosen? matched chosen
    obtain ⟨-, shape, shaped, meets⟩ := (candidates usage next).mp candidate
    exact ⟨record, usage, shape, found, used, shaped, meets⟩
  · intro usage key candidate oneMethod oneMember
    obtain ⟨-, shape, shaped, meets⟩ := (candidates usage key).mp candidate
    exact ⟨shape, shaped, meets.covers oneMethod oneMember⟩

/-- A clock that tells the time, and a timer that wants to stop its clock too. -/
def timers : Bool → Definition Nat Nat
  | false => .ofValue "Clock" "function Clock() \x7b this.now = function () \x7b\x7d; \x7d" 7
  | true => .new "Timer" "function Timer(clock) \x7b clock.now(); clock.stop(); \x7d"
      fun args world => (.ok args.size, world + 1)

/-- The clock is chosen for the timer and built for it, though it cannot be stopped. -/
theorem chosen_not_covering : ∃ record usage shape m s',
    ((empty timers).registeringAll [false]).usageOf true = .ok record ∧
    record.get? "clock" = some usage ∧
    false ∈ ((empty timers).registeringAll [false]).registry.candidates usage ∧
    (timers false).shape = .ok shape ∧ ¬ shape.Covers usage ∧
    ((empty timers).registeringAll [false]).satisfiers true = .ok m ∧
    m.chosen? "clock" = some false ∧
    ((empty timers).registeringAll [false]).resolve true ⟨0, []⟩ = .ok 1 s' ∧
    s'.invoked = [false, true] := by
  have shaped : (timers false).shape = .ok ⟨[], ["now"]⟩ := by decide +kernel
  have usage : ((empty timers).registeringAll [false]).usageOf true
      = .ok ⟨[("clock", ⟨[], ["now", "stop"]⟩)]⟩ := by
    decide +kernel
  have matched : ((empty timers).registeringAll [false]).satisfiers true
      = .ok ⟨[("clock", [false])]⟩ := by
    decide +kernel
  have built : (match ((empty timers).registeringAll [false]).resolve true ⟨0, []⟩ with
      | .ok value s' => decide (value = 1 ∧ s'.invoked = [false, true])
      | .error _ _ => false) = true := by
    decide +kernel
  have chosen : (⟨[("clock", [false])]⟩ : SatisfierMap Bool).chosen? "clock" = some false := rfl
  obtain ⟨record, used, same, found, candidate⟩ := exists_usage_of_chosen? matched chosen
  cases usage.symm.trans same
  cases found
  split at built
  · rename_i value s' resolved
    obtain ⟨rfl, invoked⟩ := of_decide_eq_true built
    refine ⟨_, _, _, _, s', usage, rfl, candidate, shaped, ?_, matched, chosen, resolved, invoked⟩
    intro covers
    exact absurd (covers.methods "stop" (by decide)) (by decide)
  · cases built

end Container

end Shapewire
