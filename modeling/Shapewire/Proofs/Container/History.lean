/-
What a registry knows after any calls of `register`.

A registration is a type with its shape.  A sequence of calls leaves behind the registrations of
the types whose sources parse, in the order of the calls, and nothing of the others.  `Records`
says that a registry holds a history: its types are those of the history, and under a name each
index lists the types of the registrations that have it.  One more registration keeps this
(`Records.insert`), because a shape lists a name once, so that a type is put under it once.

Candidates are looked up through the indices.  `scan` finds them without, by going through the
history for every name.
-/
import Mathlib.Data.List.Nodup
import Shapewire.Container.Basic

namespace Shapewire

/-! ### One index -/

namespace NameIndex

variable {κ : Type}

theorem lookup_pushEntry (name : String) (key : κ) (entries : List (String × List κ))
    (name' : String) : ((pushEntry name key entries).lookup name').getD []
      = (entries.lookup name').getD [] ++ if name' = name then [key] else [] := by
  induction entries with
  | nil =>
    by_cases same : name' = name
    · simp [pushEntry, same]
    · have apart : (name' == name) = false := by simpa using same
      simp [pushEntry, List.lookup_cons, apart, same]
  | cons entry entries ih =>
    obtain ⟨first, keys⟩ := entry
    rw [pushEntry]
    by_cases here : first = name
    · subst here
      rw [if_pos rfl]
      by_cases same : name' = first
      · simp [same]
      · have apart : (name' == first) = false := by simpa using same
        simp [List.lookup_cons, apart, same]
    · rw [if_neg here]
      by_cases same : name' = first
      · simp [same, here]
      · have apart : (name' == first) = false := by simpa using same
        simp only [List.lookup_cons, apart]
        exact ih

/-- A type put under a name is found there, behind the ones before it, and nowhere else. -/
theorem get_push (i : NameIndex κ) (key : κ) (name name' : String) :
    (i.push key name).get name' = i.get name' ++ if name' = name then [key] else [] :=
  lookup_pushEntry name key i.entries name'

/-- A type put under distinct names is found once under each of them. -/
theorem get_pushAll (i : NameIndex κ) (key : κ) {names : List String} (distinct : names.Nodup)
    (name : String) :
    (i.pushAll names key).get name = i.get name ++ if name ∈ names then [key] else [] := by
  induction names generalizing i with
  | nil => simp [pushAll]
  | cons first names ih =>
    obtain ⟨new, distinct⟩ := List.nodup_cons.mp distinct
    show ((i.push key first).pushAll names key).get name = _
    rw [ih (i.push key first) distinct, get_push]
    by_cases same : name = first
    · simp [same, new]
    · simp [same]

end NameIndex

/-! ### Shapes -/

/-- What is left of a list without its repetitions has none. -/
theorem nodup_eraseDups {α : Type} [BEq α] [LawfulBEq α] : ∀ l : List α, l.eraseDups.Nodup
  | [] => by simp
  | a :: l => by
    rw [List.eraseDups_cons]
    exact List.nodup_cons.mpr ⟨by simp, nodup_eraseDups _⟩
termination_by l => l.length
decreasing_by exact Nat.lt_succ_of_le (List.length_filter_le _ _)

/-- A shape lists a name once among its members and once among its methods. -/
theorem SourceTree.nodup_shape (s : SourceTree) : s.shape.members.Nodup ∧ s.shape.methods.Nodup :=
  ⟨nodup_eraseDups _, nodup_eraseDups _⟩

/-! ### Registries -/

/-- A type with the shape that it was registered with. -/
structure Registration (κ : Type) where
  key : κ
  shape : Shape
deriving DecidableEq, Repr

namespace Registry

variable {κ : Type}

/-- The types registered with a member of a name. -/
def havingMember (history : List (Registration κ)) (name : String) : List κ :=
  (history.filter fun x => name ∈ x.shape.members).map Registration.key

/-- The types registered with a method of a name. -/
def havingMethod (history : List (Registration κ)) (name : String) : List κ :=
  (history.filter fun x => name ∈ x.shape.methods).map Registration.key

/-- The registry holds these registrations, and both indices agree with them. -/
structure Records (r : Registry κ) (history : List (Registration κ)) : Prop where
  types : r.types = history.map Registration.key
  members : ∀ name, r.membersFor name = havingMember history name
  methods : ∀ name, r.methodsFor name = havingMethod history name

theorem records_empty : (empty : Registry κ).Records [] := ⟨rfl, fun _ => rfl, fun _ => rfl⟩

/-- One more registration is recorded behind the others. -/
theorem Records.insert {r : Registry κ} {history : List (Registration κ)} (h : r.Records history)
    (key : κ) {shape : Shape} (members : shape.members.Nodup) (methods : shape.methods.Nodup) :
    (r.insert key shape).Records (history ++ [⟨key, shape⟩]) where
  types := by
    rw [List.map_append, ← h.types]
    rfl
  members name := by
    show (r.members.pushAll shape.members key).get name = _
    have before : r.members.get name = havingMember history name := h.members name
    rw [NameIndex.get_pushAll _ _ members, before, havingMember, havingMember, List.filter_append,
      List.map_append]
    by_cases has : name ∈ shape.members <;> simp [has]
  methods name := by
    show (r.methods.pushAll shape.methods key).get name = _
    have before : r.methods.get name = havingMethod history name := h.methods name
    rw [NameIndex.get_pushAll _ _ methods, before, havingMethod, havingMethod, List.filter_append,
      List.map_append]
    by_cases has : name ∈ shape.methods <;> simp [has]

variable [DecidableEq κ]

/-- The candidates for a dependency, found by going through all registrations for every name. -/
def scan (history : List (Registration κ)) (usage : Usage) : List κ :=
  if usage.methods = [] then usage.members.flatMap (havingMember history)
  else if usage.members = [] then usage.methods.flatMap (havingMethod history)
  else (usage.methods.flatMap (havingMethod history)).filter
    (· ∈ usage.members.flatMap (havingMember history))

/-- Looking candidates up is going through the registrations. -/
theorem Records.candidates {r : Registry κ} {history : List (Registration κ)}
    (h : r.Records history) (usage : Usage) : r.candidates usage = scan history usage := by
  obtain ⟨members, methods⟩ := usage
  have byMember : r.membersFor = havingMember history := funext h.members
  have byMethod : r.methodsFor = havingMethod history := funext h.methods
  rw [Registry.candidates, scan, byMember, byMethod]
  cases members with
  | nil => cases methods <;> simp
  | cons member members => cases methods <;> simp

end Registry

/-! ### Calls of `register` -/

namespace Container

variable {κ ι σ : Type}

/-- The container after a call of `register`, which is the one before it if the call fails. -/
def registering (c : Container κ ι σ) (key : κ) : Container κ ι σ :=
  match c.register key with
  | .ok c' => c'
  | .error _ => c

/-- The container after some calls of `register`. -/
def registeringAll (c : Container κ ι σ) (keys : List κ) : Container κ ι σ :=
  keys.foldl registering c

/-- The registration that a call for a type makes, if the source of the type parses. -/
def registration? (definition : κ → Definition ι σ) (key : κ) : Option (Registration κ) :=
  match (definition key).parsed with
  | .ok s => some ⟨key, s.shape⟩
  | .error _ => none

/-- The registrations that calls for these types make, in the order of the calls. -/
def history (definition : κ → Definition ι σ) (keys : List κ) : List (Registration κ) :=
  keys.filterMap (registration? definition)

/-- A call for a type whose source parses registers the type with its shape. -/
theorem register_of_ok {c : Container κ ι σ} {key : κ} {s : SourceTree}
    (parsed : (c.definition key).parsed = .ok s) :
    c.register key = .ok { c with registry := c.registry.insert key s.shape } := by
  simp [register, Definition.shape, Definition.analyzed, parsed, analyzing, bind, Except.bind, pure,
    Except.pure]

/-- A call for a type whose source does not parse fails with what is wrong with the source. -/
theorem register_of_error {c : Container κ ι σ} {key : κ} {cause : ParseError}
    (parsed : (c.definition key).parsed = .error cause) :
    c.register key = .error (.analyze (c.nameOf key) (.parse cause)) := by
  simp [register, Definition.shape, Definition.analyzed, parsed, analyzing, bind, Except.bind]

theorem registering_of_error {c : Container κ ι σ} {key : κ} {e : ContainerError}
    (failed : c.register key = .error e) : c.registering key = c := by
  rw [registering, failed]

/-- A call of `register` leaves every definition as it is and records what it registers. -/
theorem records_registering {c : Container κ ι σ} {before : List (Registration κ)}
    (h : c.registry.Records before) (key : κ) : (c.registering key).definition = c.definition ∧
      (c.registering key).registry.Records
        (before ++ (registration? c.definition key).toList) := by
  cases parsed : (c.definition key).parsed with
  | ok s =>
    rw [registering, register_of_ok parsed, registration?, parsed]
    exact ⟨rfl, h.insert key s.nodup_shape.1 s.nodup_shape.2⟩
  | error cause =>
    rw [registering, register_of_error parsed, registration?, parsed]
    exact ⟨rfl, by simpa using h⟩

/-- Some calls record what each of them registers. -/
theorem records_registeringAll {c : Container κ ι σ} {before : List (Registration κ)}
    (h : c.registry.Records before) (keys : List κ) :
    (c.registeringAll keys).definition = c.definition ∧
      (c.registeringAll keys).registry.Records (before ++ history c.definition keys) := by
  induction keys generalizing c before with
  | nil => exact ⟨rfl, by simpa [history, registeringAll] using h⟩
  | cons key keys ih =>
    obtain ⟨same, first⟩ := records_registering h key
    obtain ⟨same', rest⟩ := ih first
    refine ⟨same'.trans same, ?_⟩
    rw [same, List.append_assoc] at rest
    have listed : history c.definition (key :: keys)
        = (registration? c.definition key).toList ++ history c.definition keys := by
      rw [history, history, List.filterMap_cons]
      cases registration? c.definition key <;> rfl
    rw [listed]
    exact rest

variable [DecidableEq κ]

/--
**A registry holds exactly what has been registered.**

After any calls of `register` on a new container the types are those whose sources parse, in the
order of the calls and as often as they were registered.  Under each name both indices list the
types that were registered with it, in that order, once for each registration.  So looking
candidates up is the same as going through all registrations for every name.  A call fails
exactly if the source does not parse, and then leaves the container as it was.
-/
theorem registry_registeringAll (definition : κ → Definition ι σ) (keys : List κ) :
    ((empty definition).registeringAll keys).registry.types
      = keys.filter (fun key => ((definition key).parsed).toOption.isSome) ∧
    ((empty definition).registeringAll keys).registry.Records (history definition keys) ∧
    (∀ usage, ((empty definition).registeringAll keys).registry.candidates usage
      = Registry.scan (history definition keys) usage) ∧
    ∀ key e, ((empty definition).registeringAll keys).register key = .error e ↔
      ∃ cause, (definition key).parsed = .error cause ∧
        e = .analyze (definition key).name (.parse cause) ∧
        (empty definition).registeringAll (keys ++ [key])
          = (empty definition).registeringAll keys := by
  obtain ⟨same, records⟩ :=
    records_registeringAll (c := empty definition) Registry.records_empty keys
  change _ = definition at same
  rw [List.nil_append] at records
  change Registry.Records _ (history definition keys) at records
  refine ⟨?_, records, records.candidates, fun key e => ⟨fun failed => ?_, ?_⟩⟩
  · rw [records.types, history, List.map_filterMap, ← List.filterMap_eq_filter]
    congr 1
    funext key
    cases parsed : (definition key).parsed <;>
      simp [registration?, parsed, Option.guard, Except.toOption]
  · cases parsed : (definition key).parsed with
    | ok s =>
      rw [register_of_ok (by rw [same, parsed])] at failed
      cases failed
    | error cause =>
      have unread : (((empty definition).registeringAll keys).definition key).parsed
          = .error cause := by rw [same, parsed]
      have outcome := register_of_error unread
      rw [failed, Except.error.injEq, nameOf, same] at outcome
      refine ⟨cause, rfl, outcome, ?_⟩
      rw [registeringAll, List.foldl_append]
      exact registering_of_error failed
  · rintro ⟨cause, parsed, rfl, -⟩
    rw [register_of_error (by rw [same, parsed]), nameOf, same]

end Container

end Shapewire
