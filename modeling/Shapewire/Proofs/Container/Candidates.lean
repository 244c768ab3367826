/-
The list of candidates, in full.

A registry is what insertions leave behind, so what it lists is told by them.  A usage asks for
names, the methods first if there are any, and an insertion puts a type under the names of its
shape.  Each candidate stands for a pair of the two: an occurrence of a name in the usage, and an
insertion that exposes the name.  The pairs come name by name, and under one name in the order of
the insertions (`Registry.listings`).  A type qualifies by insertions too, which need not be the
same for its methods and its members, and only the pairs of types that qualify count.

So the list of candidates is known with its order and all its repeats
(`Registry.candidates_insertAll`).
-/
import Mathlib.Data.List.ProdSigma
import Shapewire.Proofs.Container.Coverage
import Shapewire.Proofs.Container.Growth

namespace Shapewire

/-- A shape lists no name twice among its members, and none among its methods, as the shape of any
source does (`SourceTree.nodup_shape`). -/
structure Shape.Distinct (shape : Shape) : Prop where
  members : shape.members.Nodup
  methods : shape.methods.Nodup

namespace Usage

/-- Whether the usage asks for a method. -/
def callsMethods (usage : Usage) : Bool := !usage.methods.isEmpty

/-- The names that candidates are listed by: the methods if any is called, and else the members. -/
def leading (usage : Usage) : List String :=
  if usage.callsMethods then usage.methods else usage.members

/-- The names of a shape in the role that the leading names have. -/
def role (usage : Usage) (shape : Shape) : List String :=
  if usage.callsMethods then shape.methods else shape.members

end Usage

namespace Registry

variable {κ : Type}

/-- The types inserted with a name in some role, in the order of the insertions. -/
def exposing (role : Shape → List String) (history : List (Registration κ)) (name : String) :
    List κ :=
  (history.filter fun x => name ∈ role x.shape).map Registration.key

theorem mem_exposing_iff {role : Shape → List String} {history : List (Registration κ)}
    {name : String} {key : κ} : key ∈ exposing role history name ↔
      ∃ x ∈ history, x.key = key ∧ name ∈ role x.shape := by
  simp only [exposing, List.mem_map, List.mem_filter, decide_eq_true_eq]
  exact ⟨fun ⟨x, ⟨mem, has⟩, is⟩ => ⟨x, mem, is, has⟩, fun ⟨x, mem, is, has⟩ => ⟨x, ⟨mem, has⟩, is⟩⟩

/-- The pairs of a leading name of the usage and an insertion that exposes it, name by name. -/
def listings (history : List (Registration κ)) (usage : Usage) : List (String × Registration κ) :=
  (usage.leading ×ˢ history).filter fun pair => pair.1 ∈ usage.role pair.2.shape

/-- The type was inserted with one of the names, if there are any. -/
def InsertedWith (role : Shape → List String) (history : List (Registration κ))
    (names : List String) (key : κ) : Prop :=
  names ≠ [] → ∃ x ∈ history, x.key = key ∧ ∃ name ∈ names, name ∈ role x.shape

/-- The type was inserted with a method of those that the usage asks for, and with a member, if it
asks for any. -/
structure Qualifies (history : List (Registration κ)) (usage : Usage) (key : κ) : Prop where
  method : InsertedWith Shape.methods history usage.methods key
  member : InsertedWith Shape.members history usage.members key

variable {history : List (Registration κ)}

/-- Insertions are recorded behind those before them. -/
theorem Records.insertAll {r : Registry κ} {before : List (Registration κ)}
    (h : r.Records before) (distinct : ∀ x ∈ history, x.shape.Distinct) :
    (r.insertAll history).Records (before ++ history) := by
  induction history generalizing r before with
  | nil =>
    rw [List.append_nil]
    exact h
  | cons x history ih =>
    obtain ⟨members, methods⟩ := distinct x List.mem_cons_self
    have rest := ih (h.insert x.key members methods) fun y mem =>
      distinct y (List.mem_cons_of_mem _ mem)
    rwa [List.append_assoc] at rest

/-- What the leading names list are the types of the pairs. -/
theorem flatMap_exposing (usage : Usage) : usage.leading.flatMap (exposing usage.role history)
    = (listings history usage).map (·.2.key) := by
  rw [listings, SProd.sprod, List.instSProd]
  simp only [List.product, List.filter_flatMap, List.map_flatMap, List.filter_map, List.map_map]
  rfl

/-- A type is listed under one of some names if it was inserted with one of them. -/
theorem insertedWith_iff {role : Shape → List String} {names : List String} {key : κ} :
    InsertedWith role history names key ↔
      (names ≠ [] → ∃ name ∈ names, key ∈ exposing role history name) := by
  simp only [InsertedWith, mem_exposing_iff]
  exact forall_congr' fun _ => ⟨
    fun ⟨x, mem, is, name, asked, has⟩ => ⟨name, asked, x, mem, is, has⟩,
    fun ⟨name, asked, x, mem, is, has⟩ => ⟨x, mem, is, name, asked, has⟩⟩

variable [DecidableEq κ]

instance (role : Shape → List String) (names : List String) (key : κ) :
    Decidable (InsertedWith role history names key) :=
  inferInstanceAs (Decidable (names ≠ [] → _))

instance (usage : Usage) (key : κ) : Decidable (Qualifies history usage key) :=
  decidable_of_iff (InsertedWith Shape.methods history usage.methods key ∧
      InsertedWith Shape.members history usage.members key)
    ⟨fun ⟨method, member⟩ => ⟨method, member⟩, fun ⟨method, member⟩ => ⟨method, member⟩⟩

theorem Records.mem_candidates_iff_qualifies {r : Registry κ} (h : r.Records history)
    {usage : Usage} {key : κ} : key ∈ r.candidates usage ↔
      (usage.methods ≠ [] ∨ usage.members ≠ []) ∧ Qualifies history usage key := by
  rw [Registry.mem_candidates_iff, funext h.methods, funext h.members]
  exact and_congr_right fun _ => ⟨
    fun ⟨method, member⟩ => ⟨insertedWith_iff.mpr method, insertedWith_iff.mpr member⟩,
    fun ⟨method, member⟩ => ⟨insertedWith_iff.mp method, insertedWith_iff.mp member⟩⟩

/-- The candidates are some of the types that the leading names list. -/
theorem Records.exists_filter {r : Registry κ} (h : r.Records history) (usage : Usage) : ∃ p,
    r.candidates usage = (usage.leading.flatMap (exposing usage.role history)).filter p := by
  have byMethod : exposing Shape.methods history = r.methodsFor := (funext h.methods).symm
  have byMember : exposing Shape.members history = r.membersFor := (funext h.members).symm
  unfold Registry.candidates Usage.leading Usage.role Usage.callsMethods
  cases usage.methods.isEmpty with
  | false =>
    show ∃ p, _ = (usage.methods.flatMap (exposing Shape.methods history)).filter p
    rw [byMethod]
    cases usage.members.isEmpty with
    | false => exact ⟨_, rfl⟩
    | true => exact ⟨fun _ => true, (List.filter_true _).symm⟩
  | true =>
    show ∃ p, _ = (usage.members.flatMap (exposing Shape.members history)).filter p
    rw [byMember]
    cases usage.members.isEmpty with
    | false => exact ⟨fun _ => true, (List.filter_true _).symm⟩
    | true => exact ⟨fun _ => false, (List.filter_false _).symm⟩

/-- The candidates are those of the listed types that qualify. -/
theorem Records.candidates_eq {r : Registry κ} (h : r.Records history) (usage : Usage) :
    r.candidates usage = ((listings history usage).filter
      fun pair => Qualifies history usage pair.2.key).map (·.2.key) := by
  obtain ⟨p, is⟩ := h.exists_filter usage
  have selected {key : κ}
      (listed : key ∈ usage.leading.flatMap (exposing usage.role history)) :
      p key = true ↔ Qualifies history usage key := by
    have candidate : key ∈ r.candidates usage ↔ p key = true := by
      rw [is, List.mem_filter]
      exact and_iff_right listed
    rw [← candidate, h.mem_candidates_iff_qualifies]
    refine and_iff_right ?_
    by_contra none
    rw [not_or, not_not, not_not] at none
    simp [Usage.leading, Usage.callsMethods, none.1, none.2] at listed
  calc r.candidates usage
      = (usage.leading.flatMap (exposing usage.role history)).filter p := is
    _ = (usage.leading.flatMap (exposing usage.role history)).filter
          (Qualifies history usage ·) := by
        refine List.filter_congr fun key listed => ?_
        rw [Bool.eq_iff_iff, decide_eq_true_eq]
        exact selected listed
    _ = ((listings history usage).map (·.2.key)).filter (Qualifies history usage ·) := by
        rw [flatMap_exposing]
    _ = ((listings history usage).filter
          fun pair => Qualifies history usage pair.2.key).map (·.2.key) := List.filter_map

/--
**The candidates are those of the pairs that qualify.**

After any insertions a type is a candidate for a usage if the usage asks for something and the type
was inserted with one of the methods and with one of the members, so far as any are asked for.  The
list of candidates goes through the pairs of a leading name and an insertion that exposes it, name
by name and in the order of the insertions, and takes the types that qualify.  So a type that
qualifies is listed once for each of its pairs.
-/
theorem candidates_insertAll (history : List (Registration κ))
    (distinct : ∀ x ∈ history, x.shape.Distinct) (usage : Usage) :
    (∀ key, key ∈ (empty.insertAll history).candidates usage ↔
      (usage.methods ≠ [] ∨ usage.members ≠ []) ∧ Qualifies history usage key) ∧
    (empty.insertAll history).candidates usage = ((listings history usage).filter
      fun pair => Qualifies history usage pair.2.key).map (·.2.key) ∧
    ∀ key, Qualifies history usage key → ((empty.insertAll history).candidates usage).count key
      = ((listings history usage).filter fun pair => pair.2.key = key).length := by
  have records : (empty.insertAll history).Records history := records_empty.insertAll distinct
  refine ⟨fun key => records.mem_candidates_iff_qualifies, records.candidates_eq usage, ?_⟩
  intro key qualifies
  rw [records.candidates_eq, List.count, List.countP_map, List.countP_filter,
    List.countP_eq_length_filter]
  congr 1
  refine List.filter_congr fun pair _ => ?_
  rw [Bool.eq_iff_iff]
  simp only [Function.comp_apply, Bool.and_eq_true, beq_iff_eq, decide_eq_true_eq]
  exact and_iff_left_of_imp fun is => is ▸ qualifies

/-- A type that is inserted twice, and a usage that asks for a method twice. -/
theorem candidates_insertAll_twice :
    let history : List (Registration Nat) :=
      [⟨7, ["x"], ["f"]⟩, ⟨8, ["x", "y"], ["g", "f"]⟩, ⟨7, ["y"], ["g"]⟩, ⟨9, [], ["f", "g"]⟩]
    let usage : Usage := ⟨["y", "z"], ["f", "g", "f"]⟩
    (∀ x ∈ history, x.shape.Distinct) ∧ (empty.insertAll history).candidates usage
      = [7, 8, 8, 7, 7, 8] ∧
    (∀ key, key ∈ (empty.insertAll history).candidates usage ↔
      (usage.methods ≠ [] ∨ usage.members ≠ []) ∧ Qualifies history usage key) ∧
    (empty.insertAll history).candidates usage = ((listings history usage).filter
      fun pair => Qualifies history usage pair.2.key).map (·.2.key) ∧
    ∀ key, Qualifies history usage key → ((empty.insertAll history).candidates usage).count key
      = ((listings history usage).filter fun pair => pair.2.key = key).length := by
  intro history usage
  have distinct : ∀ x ∈ history, x.shape.Distinct := by
    simp only [history, List.forall_mem_cons]
    refine ⟨⟨by decide, by decide⟩, ⟨by decide, by decide⟩, ⟨by decide, by decide⟩,
      ⟨by decide, by decide⟩, nofun⟩
  exact ⟨distinct, by decide, candidates_insertAll history distinct usage⟩

end Registry

end Shapewire
