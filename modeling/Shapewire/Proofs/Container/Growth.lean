/-
What one more registration does to the candidates.

A new type goes to the end of every index list that it belongs to.  Candidates are such lists one
behind the other, so the new type may come to stand anywhere between the old ones, and more than once.
`Grows` says of two lists that the second is the first with copies of one type put in.  All that
candidates are computed by keeps this: reading an index, joining the lists of several names, and
taking those that are listed for the other kind too, although the list they are looked up in has
grown itself.

A list that grows keeps what it had in order, and what comes first in it changes to the new type or
not at all.  So a dependency that can be satisfied stays so, whatever is registered.
-/
import Shapewire.Proofs.Container.History
import Shapewire.Proofs.Container.Satisfier

namespace Shapewire

/-- The second list is the first one with copies of `key` put in. -/
inductive Grows {κ : Type} (key : κ) : List κ → List κ → Prop
  | nil : Grows key [] []
  | keep (a : κ) {l l' : List κ} (rest : Grows key l l') : Grows key (a :: l) (a :: l')
  | put {l l' : List κ} (rest : Grows key l l') : Grows key l (key :: l')

namespace Grows

variable {κ : Type} {key : κ} {l l' m m' : List κ}

theorem refl (key : κ) (l : List κ) : Grows key l l := by
  induction l with
  | nil => exact .nil
  | cons a l ih => exact .keep a ih

theorem trans (first : Grows key l m) (second : Grows key m l') : Grows key l l' := by
  induction second generalizing l with
  | nil => exact first
  | keep a _ ih =>
    cases first with
    | keep _ rest => exact .keep a (ih rest)
    | put rest => exact .put (ih rest)
  | put _ ih => exact .put (ih first)

theorem append (left : Grows key l l') (right : Grows key m m') : Grows key (l ++ m) (l' ++ m') := by
  induction left with
  | nil => exact right
  | keep a _ ih => exact .keep a ih
  | put _ ih => exact .put ih

theorem flatMap {f g : String → List κ} (each : ∀ name, Grows key (f name) (g name))
    (names : List String) : Grows key (names.flatMap f) (names.flatMap g) := by
  induction names with
  | nil => exact .nil
  | cons name names ih =>
    rw [List.flatMap_cons, List.flatMap_cons]
    exact (each name).append ih

/-- What is new in a list that grows is the type put in. -/
theorem mem (grows : Grows key l l') {a : κ} (inside : a ∈ l') : a ∈ l ∨ a = key := by
  induction grows with
  | nil => exact Or.inl inside
  | keep b _ ih =>
    rcases List.mem_cons.mp inside with rfl | inside
    · exact Or.inl List.mem_cons_self
    · exact (ih inside).imp_left (List.mem_cons_of_mem b)
  | put _ ih =>
    rcases List.mem_cons.mp inside with rfl | inside
    · exact Or.inr rfl
    · exact ih inside

theorem sublist (grows : Grows key l l') : l.Sublist l' := by
  induction grows with
  | nil => exact .slnil
  | keep a _ ih => exact ih.cons_cons a
  | put _ ih => exact ih.cons key

/-- Selecting from a list that grows gives one that grows, if only the type put in is selected
anew. -/
theorem filter (grows : Grows key l l') {p q : κ → Bool} (kept : ∀ a, p a = true → q a = true)
    (new : ∀ a, q a = true → p a = true ∨ a = key) : Grows key (l.filter p) (l'.filter q) := by
  induction grows with
  | nil => exact .nil
  | @keep a l l' _ ih =>
    by_cases before : p a = true
    · rw [List.filter_cons_of_pos before, List.filter_cons_of_pos (kept a before)]
      exact .keep a ih
    rw [List.filter_cons_of_neg before]
    by_cases after : q a = true
    · obtain rfl := (new a after).resolve_left before
      rw [List.filter_cons_of_pos after]
      exact .put ih
    · rwa [List.filter_cons_of_neg after]
  | @put l l' _ ih =>
    by_cases after : q key = true
    · rw [List.filter_cons_of_pos after]
      exact .put ih
    · rwa [List.filter_cons_of_neg after]

/-- The first element changes to the type put in or not at all. -/
theorem head? (grows : Grows key l l') : l'.head? = l.head? ∨ l'.head? = some key := by
  cases grows with
  | nil => exact Or.inl rfl
  | keep => exact Or.inl rfl
  | put => exact Or.inr rfl

theorem ne_nil (grows : Grows key l l') (some : l ≠ []) : l' ≠ [] := by
  intro none
  rw [none] at grows
  exact some (List.sublist_nil.mp grows.sublist)

end Grows

/-! ### One more registration -/

theorem NameIndex.grows_pushAll {κ : Type} (i : NameIndex κ) (names : List String) (key : κ)
    (name : String) : Grows key (i.get name) ((i.pushAll names key).get name) := by
  induction names generalizing i with
  | nil => exact .refl key _
  | cons first names ih =>
    have once : Grows key (i.get name) ((i.push key first).get name) := by
      rw [get_push]
      split
      · simpa using (Grows.refl key (i.get name)).append (.put .nil)
      · simpa using Grows.refl key (i.get name)
    exact once.trans (ih (i.push key first))

namespace Registry

variable {κ : Type} [DecidableEq κ] (r : Registry κ) (key : κ) (shape : Shape)

/-- The registry with some more types registered, one after the other. -/
def insertAll (more : List (Registration κ)) : Registry κ :=
  more.foldl (fun r x => r.insert x.key x.shape) r

/-- A registration adds candidates and takes none away. -/
theorem grows_candidates_insert (usage : Usage) :
    Grows key (r.candidates usage) ((r.insert key shape).candidates usage) := by
  have byMethod : Grows key (usage.methods.flatMap r.methodsFor)
      (usage.methods.flatMap (r.insert key shape).methodsFor) :=
    .flatMap (r.methods.grows_pushAll shape.methods key) _
  have byMember : Grows key (usage.members.flatMap r.membersFor)
      (usage.members.flatMap (r.insert key shape).membersFor) :=
    .flatMap (r.members.grows_pushAll shape.members key) _
  unfold candidates
  cases usage.methods.isEmpty with
  | true =>
    cases usage.members.isEmpty with
    | true => exact .nil
    | false => exact byMember
  | false =>
    cases usage.members.isEmpty with
    | true => exact byMethod
    | false =>
      refine byMethod.filter ?_ ?_
      · intro a listed
        exact decide_eq_true (byMember.sublist.subset (of_decide_eq_true listed))
      · intro a listed
        exact (byMember.mem (of_decide_eq_true listed)).imp_left decide_eq_true

/-- What a satisfier map changes to when a type is registered. -/
theorem satisfy_insert {typeName : String} {record : UsageRecord} {m : SatisfierMap κ}
    (matched : r.satisfy typeName record = .ok m) :
    ∃ m', (r.insert key shape).satisfy typeName record = .ok m' ∧
      ∀ dependency, m'.chosen? dependency = m.chosen? dependency ∨
        m'.chosen? dependency = some key := by
  obtain ⟨all, rfl⟩ := (r.satisfy_eq_ok_iff typeName record m).mp matched
  have all' : (r.insert key shape).Satisfies record.entries := by
    intro entry mem
    exact (r.grows_candidates_insert key shape entry.2).ne_nil (all entry mem)
  refine ⟨_, ((r.insert key shape).satisfy_eq_ok_iff typeName record _).mpr ⟨all', rfl⟩, ?_⟩
  intro dependency
  rw [chosen?_matched, chosen?_matched]
  cases record.entries.lookup dependency with
  | none => exact Or.inl rfl
  | some usage => exact (r.grows_candidates_insert key shape usage).head?

theorem sublist_candidates_insertAll (usage : Usage) (more : List (Registration κ)) :
    (r.candidates usage).Sublist ((r.insertAll more).candidates usage) := by
  induction more generalizing r with
  | nil => exact List.Sublist.refl _
  | cons x more ih =>
    exact (r.grows_candidates_insert x.key x.shape usage).sublist.trans (ih (r.insert x.key x.shape))

/--
**Registering types only adds candidates.**

After one more registration the candidates for any usage are the old ones, in order and with their
repeats, with the new type at some places among them.  So whatever is registered, a
dependency that can be satisfied stays so; and if another candidate is chosen for it, by itself or
in the satisfier map of a type, that is the type just registered.
-/
theorem candidates_insert (usage : Usage) :
    (r.candidates usage).Sublist ((r.insert key shape).candidates usage) ∧
    (∀ more, r.candidates usage ≠ [] → (r.insertAll more).candidates usage ≠ []) ∧
    (((r.insert key shape).candidates usage).head? = (r.candidates usage).head? ∨
      ((r.insert key shape).candidates usage).head? = some key) ∧
    ∀ typeName record m, r.satisfy typeName record = .ok m →
      ∃ m', (r.insert key shape).satisfy typeName record = .ok m' ∧
        ∀ dependency, m'.chosen? dependency = m.chosen? dependency ∨
          m'.chosen? dependency = some key := by
  have grows := r.grows_candidates_insert key shape usage
  refine ⟨grows.sublist, ?_, grows.head?, fun _ _ _ => r.satisfy_insert key shape⟩
  intro more some none
  have kept := r.sublist_candidates_insertAll usage more
  rw [none] at kept
  exact some (List.sublist_nil.mp kept)

end Registry

end Shapewire
