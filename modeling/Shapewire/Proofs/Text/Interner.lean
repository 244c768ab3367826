/-
Interning with an index.

A name table looks for a name among its names.  An interner does not search: beside the texts, which
it lists by atom, it keeps the atom of every text in a hash map, and its atoms are words of 32 bits.
Nothing but `intern` keeps the two together.

What an interner answers is what a name table answers after the same calls, whatever they are
(`Interner.mirrors_run`), so index and list never drift apart.  Both list the distinct texts in the
order in which they were first seen, and as long as there is a word for each of them texts and atoms
determine each other (`Interner.lookup_eq_some_iff`).
-/
import Mathlib.Data.List.Nodup
import Shapewire.Proofs.Text.NameTable

namespace Shapewire

theorem eraseDups_concat {α : Type} [BEq α] [LawfulBEq α] (l : List α) (a : α) [Decidable (a ∈ l)] :
    (l ++ [a]).eraseDups = if a ∈ l then l.eraseDups else l.eraseDups ++ [a] := by
  rw [List.eraseDups_append]
  split
  · rename_i known
    simp [List.removeAll, known]
  · rename_i new
    simp [List.removeAll, new, List.eraseDups_cons]

namespace NameTable

/-! ### One name more -/

section intern

variable {t : NameTable} {atom : Atom} {name : String}

theorem lookup_eq_none_iff : t.lookup name = none ↔ name ∉ t.names.toList := by
  rw [lookup, Array.idxOf?_eq_none_iff, Array.mem_def]

/-- A name that is known is interned without any change. -/
theorem intern_of_lookup (known : t.lookup name = some atom) : t.intern name = (atom, t) := by
  rw [intern, known]

/-- A new name is listed behind the others, and its atom is the next number. -/
theorem intern_of_new (new : t.lookup name = none) :
    t.intern name = (t.names.size, ⟨t.names.push name⟩) := by
  rw [intern, new]

theorem toList_names_intern (t : NameTable) (name : String) : (t.intern name).2.names.toList =
    if name ∈ t.names.toList then t.names.toList else t.names.toList ++ [name] := by
  cases found : t.lookup name with
  | some atom =>
    have known : name ∈ t.names.toList := by
      by_contra new
      cases (lookup_eq_none_iff.mpr new).symm.trans found
    rw [intern_of_lookup found, if_pos known]
  | none =>
    rw [intern_of_new found, if_neg (lookup_eq_none_iff.mp found)]
    exact Array.toList_push

/-- Interning a name changes the atom of no other. -/
theorem lookup_intern (t : NameTable) (name other : String) : (t.intern name).2.lookup other =
    if name = other then some (t.intern name).1 else t.lookup other := by
  cases found : t.lookup name with
  | some atom =>
    rw [intern_of_lookup found]
    split
    · rename_i same
      rw [← same, found]
    · rfl
  | none =>
    rw [intern_of_new found]
    obtain ⟨⟨names⟩⟩ := t
    rw [lookup, List.idxOf?_toArray] at found
    simp only [lookup, List.push_toArray, List.idxOf?_toArray, List.size_toArray]
    rw [List.idxOf?, List.findIdx?_append]
    split
    · rename_i same
      subst same
      rw [show names.findIdx? (· == name) = none from found]
      simp
    · rename_i other
      simp [other]

/-- A table never lists a name twice. -/
theorem nodup_intern (distinct : t.names.toList.Nodup) (name : String) :
    (t.intern name).2.names.toList.Nodup := by
  rw [toList_names_intern]
  split
  · exact distinct
  · rename_i new
    rw [← List.concat_eq_append]
    exact distinct.concat new

/-- In a table without repeats names and atoms determine each other. -/
theorem lookup_eq_some_iff (distinct : t.names.toList.Nodup) :
    t.lookup name = some atom ↔ t.resolve? atom = some name := by
  obtain ⟨⟨names⟩⟩ := t
  rw [lookup, resolve?, List.idxOf?_toArray, List.getElem?_toArray, List.idxOf?_eq_some_iff,
    List.getElem?_eq_some_iff]
  constructor
  · rintro ⟨inside, same, -⟩
    exact ⟨inside, same⟩
  · rintro ⟨inside, same⟩
    refine ⟨inside, same, fun i before equal => ?_⟩
    have first : i = atom := distinct.getElem_inj_iff.mp (equal.trans same.symm)
    omega

end intern

/-! ### Runs of calls -/

/-- What a table of names can be told to do. -/
inductive Intake where
  | intern (text : String)
  | internCommon
deriving DecidableEq, Repr

/-- The texts that a call interns, one after the other. -/
def Intake.texts : Intake → List String
  | .intern text => [text]
  | .internCommon => commonNames

/-- The table with the texts interned one after the other. -/
def internAll (t : NameTable) (texts : List String) : NameTable :=
  texts.foldl (fun t text => (t.intern text).2) t

/-- Obeys a call. -/
def perform (t : NameTable) : Intake → NameTable
  | .intern text => (t.intern text).2
  | .internCommon => t.internCommon

/-- The table after the calls. -/
def run (calls : List Intake) : NameTable := calls.foldl perform empty

/-- The distinct texts of the calls in the order in which they are first seen.  The empty one is
known before the first call. -/
def seen (calls : List Intake) : List String := ("" :: calls.flatMap Intake.texts).eraseDups

theorem internAll_append (t : NameTable) (texts texts' : List String) :
    t.internAll (texts ++ texts') = (t.internAll texts).internAll texts' := List.foldl_append

theorem perform_eq_internAll (t : NameTable) (call : Intake) :
    t.perform call = t.internAll call.texts := by
  cases call <;> rfl

/-- Only the texts of the calls matter, and not how they are divided among them. -/
theorem run_eq_internAll (calls : List Intake) :
    run calls = empty.internAll (calls.flatMap Intake.texts) := by
  have all (t : NameTable) :
      calls.foldl perform t = t.internAll (calls.flatMap Intake.texts) := by
    induction calls generalizing t with
    | nil => rfl
    | cons call calls ih =>
      rw [List.foldl_cons, ih, List.flatMap_cons, internAll_append, perform_eq_internAll]
  exact all empty

/-- What holds at the start and is kept when a text is interned holds after all calls. -/
theorem internAll_induction {P : NameTable → Prop} {t : NameTable} (start : P t)
    (step : ∀ t text, P t → P (t.intern text).2) (texts : List String) :
    P (t.internAll texts) := by
  induction texts generalizing t with
  | nil => exact start
  | cons text texts ih => exact ih (step t text start)

theorem nodup_run (calls : List Intake) : (run calls).names.toList.Nodup := by
  rw [run_eq_internAll]
  exact internAll_induction (P := fun t => t.names.toList.Nodup) (List.nodup_singleton "")
    (fun t text distinct => nodup_intern distinct text) _

/-- New texts are listed behind the others in the order in which they are first seen. -/
theorem toList_names_internAll {t : NameTable} {before : List String}
    (listed : t.names.toList = before.eraseDups) (texts : List String) :
    (t.internAll texts).names.toList = (before ++ texts).eraseDups := by
  induction texts generalizing t before with
  | nil => rwa [List.append_nil]
  | cons text texts ih =>
    have one : (t.intern text).2.names.toList = (before ++ [text]).eraseDups := by
      rw [toList_names_intern, eraseDups_concat, listed]
      simp only [List.mem_eraseDups]
    have rest := ih one
    rwa [List.append_assoc, List.singleton_append] at rest

/-- **Atoms are dense in the order in which their names were first seen.** -/
theorem toList_names_run (calls : List Intake) : (run calls).names.toList = seen calls := by
  have start : empty.names.toList = [""].eraseDups := by simp [empty, List.eraseDups_cons]
  rw [run_eq_internAll]
  exact toList_names_internAll start _

/-- Whatever is called later, every atom keeps its name. -/
theorem extends_run (calls later : List Intake) : (run calls).Extends (run (calls ++ later)) := by
  rw [run_eq_internAll calls, run_eq_internAll, List.flatMap_append, internAll_append]
  exact internAll_induction (P := Extends _) (.refl _)
    (fun t text before => before.trans (t.extends_intern text)) _

/-- And every name keeps its atom. -/
theorem lookup_run_append {calls : List Intake} {name : String} {atom : Atom}
    (known : (run calls).lookup name = some atom) (later : List Intake) :
    (run (calls ++ later)).lookup name = some atom := by
  rw [lookup_eq_some_iff (nodup_run _)] at known ⊢
  exact extends_run calls later atom name known

end NameTable

/-! ### Interners -/

/-- Texts numbered in the order in which they were first seen, with an index. -/
structure Interner where
  /-- The atom of every text. -/
  atoms : Std.HashMap String UInt32
  /-- The text of every atom. -/
  texts : Array String

namespace Interner

open NameTable (Intake)

/-- The interner that knows only the empty text. -/
def new : Interner where
  atoms := (∅ : Std.HashMap String UInt32).insert "" 0
  texts := #[""]

/-- The atom of a text, if it has been interned. -/
def lookup (t : Interner) (text : String) : Option UInt32 := t.atoms[text]?

/-- The atom of a text, and the interner with the text added if it is new. -/
def intern (t : Interner) (text : String) : UInt32 × Interner :=
  match t.lookup text with
  | some atom => (atom, t)
  | none =>
    let atom := UInt32.ofNat t.texts.size
    (atom, ⟨t.atoms.insert text atom, t.texts.push text⟩)

/-- The interner with the common names added. -/
def internCommon (t : Interner) : Interner :=
  NameTable.commonNames.foldl (fun t text => (t.intern text).2) t

/-- The text of an atom, if the interner has handed out so many. -/
def tryResolve (t : Interner) (atom : UInt32) : Option String := t.texts[atom.toNat]?

/-- The number of texts, the empty one included. -/
def size (t : Interner) : Nat := t.texts.size

/-- Obeys a call. -/
def perform (t : Interner) : Intake → Interner
  | .intern text => (t.intern text).2
  | .internCommon => t.internCommon

/-- The interner after the calls. -/
def run (calls : List Intake) : Interner := calls.foldl perform new

/-- The texts alone, as a name table. -/
def table (t : Interner) : NameTable := ⟨t.texts⟩

variable {t : Interner} {text : String} {atom : UInt32}

/-- A text that is known is interned without any change. -/
theorem intern_of_lookup (known : t.lookup text = some atom) : t.intern text = (atom, t) := by
  rw [intern, known]

theorem intern_of_new (unknown : t.lookup text = none) :
    t.intern text = (UInt32.ofNat t.texts.size,
      ⟨t.atoms.insert text (UInt32.ofNat t.texts.size), t.texts.push text⟩) := by
  rw [intern, unknown]

/-- Interning a text changes the atom of no other. -/
theorem lookup_intern (t : Interner) (text other : String) : (t.intern text).2.lookup other =
    if text = other then some (t.intern text).1 else t.lookup other := by
  cases found : t.lookup text with
  | some atom =>
    rw [intern_of_lookup found]
    split
    · rename_i same
      rw [← same, found]
    · rfl
  | none =>
    rw [intern_of_new found, lookup, Std.HashMap.getElem?_insert]
    simp only [beq_iff_eq]
    rfl

/-! ### Index and list -/

/-- The index says of every text where it stands in the list. -/
def Mirrors (t : Interner) : Prop :=
  ∀ text, t.lookup text = (t.table.lookup text).map UInt32.ofNat

theorem mirrors_new : Mirrors new := by
  intro text
  rw [lookup, new, Std.HashMap.getElem?_insert]
  by_cases empty : text = ""
  · subst empty
    simp [table, NameTable.lookup]
  · have other : ¬("" == text) = true := by simpa using Ne.symm empty
    simp [table, NameTable.lookup, other]

namespace Mirrors

/-- What is interned is interned in the table. -/
theorem intern_eq (h : t.Mirrors) (text : String) :
    (t.intern text).1 = UInt32.ofNat (t.table.intern text).1 ∧
      (t.intern text).2.table = (t.table.intern text).2 := by
  have same := h text
  cases found : t.table.lookup text with
  | some atom =>
    rw [found] at same
    rw [intern_of_lookup same, NameTable.intern_of_lookup found]
    exact ⟨rfl, rfl⟩
  | none =>
    rw [found] at same
    rw [intern_of_new same, NameTable.intern_of_new found]
    exact ⟨rfl, rfl⟩

theorem intern (h : t.Mirrors) (text : String) : (t.intern text).2.Mirrors := by
  obtain ⟨atom, table⟩ := h.intern_eq text
  intro other
  rw [table, lookup_intern, NameTable.lookup_intern, atom, h other]
  split <;> rfl

theorem internAll (h : t.Mirrors) (texts : List String) :
    (texts.foldl (fun t text => (t.intern text).2) t).Mirrors ∧
      (texts.foldl (fun t text => (t.intern text).2) t).table = t.table.internAll texts := by
  induction texts generalizing t with
  | nil => exact ⟨h, rfl⟩
  | cons text texts ih =>
    obtain ⟨mirrors, table⟩ := ih (h.intern text)
    refine ⟨mirrors, table.trans ?_⟩
    rw [(h.intern_eq text).2]
    rfl

theorem perform (h : t.Mirrors) (call : Intake) :
    (t.perform call).Mirrors ∧ (t.perform call).table = t.table.perform call := by
  rw [NameTable.perform_eq_internAll]
  cases call with
  | intern text => exact h.internAll [text]
  | internCommon => exact h.internAll NameTable.commonNames

end Mirrors

/-- **Index and list never drift apart**, and they are those of a name table. -/
theorem mirrors_run (calls : List Intake) :
    (run calls).Mirrors ∧ (run calls).table = NameTable.run calls := by
  have all (t : Interner) (h : t.Mirrors) : (calls.foldl Interner.perform t).Mirrors ∧
      (calls.foldl Interner.perform t).table = calls.foldl NameTable.perform t.table := by
    induction calls generalizing t with
    | nil => exact ⟨h, rfl⟩
    | cons call calls ih =>
      obtain ⟨mirrors, table⟩ := h.perform call
      have rest := ih (t.perform call) mirrors
      rwa [table] at rest
  exact all new mirrors_new

/-! ### Texts and atoms -/

theorem tryResolve_eq (t : Interner) (atom : UInt32) :
    t.tryResolve atom = t.table.resolve? atom.toNat := rfl

/-- Where no text is listed twice and there is a word for each, texts and atoms determine each
other. -/
theorem Mirrors.lookup_eq_some_iff (h : t.Mirrors) (distinct : t.table.names.toList.Nodup)
    (few : t.size ≤ UInt32.size) : t.lookup text = some atom ↔ t.tryResolve atom = some text := by
  rw [h text, tryResolve_eq, ← NameTable.lookup_eq_some_iff distinct, Option.map_eq_some_iff]
  constructor
  · rintro ⟨number, found, rfl⟩
    have inside : number < t.size :=
      (Array.getElem?_eq_some_iff.mp ((NameTable.lookup_eq_some_iff distinct).mp found)).1
    rwa [UInt32.toNat_ofNat_of_lt' (Nat.lt_of_lt_of_le inside few)]
  · intro found
    exact ⟨_, found, UInt32.ofNat_toNat⟩

/-- What can be relied on after some calls. -/
structure Numbers (calls : List Intake) (t : Interner) : Prop where
  /-- Index and list answer as the name table does that obeyed the same calls. -/
  mirrors : t.Mirrors ∧ t.table = NameTable.run calls
  /-- Atoms are dense in the order in which the texts were first seen. -/
  dense : t.texts.toList = NameTable.seen calls
  /-- Atom zero is the empty text. -/
  zero : t.lookup "" = some 0 ∧ t.tryResolve 0 = some ""
  /-- Index and list are inverse to each other. -/
  lookup_iff : ∀ text atom,
    t.lookup text = some atom ↔ atom.toNat < t.size ∧ t.tryResolve atom = some text
  /-- Atoms are equal exactly when their texts are. -/
  eq_iff : ∀ u v a b, t.lookup u = some a → t.lookup v = some b → (a = b ↔ u = v)
  /-- A text still has the atom that any of the calls returned for it. -/
  returned : ∀ before text after, calls = before ++ .intern text :: after →
    t.lookup text = some ((run before).intern text).1
  /-- A text that is known is interned without any change. -/
  known : ∀ text atom, t.lookup text = some atom → t.intern text = (atom, t)
  /-- No later call changes the text of an atom. -/
  kept : ∀ later atom text, t.tryResolve atom = some text →
    (run (calls ++ later)).tryResolve atom = some text

/-- Every text keeps its atom. -/
theorem lookup_run_append {calls : List Intake} (known : (run calls).lookup text = some atom)
    (later : List Intake) : (run (calls ++ later)).lookup text = some atom := by
  obtain ⟨before, table⟩ := mirrors_run calls
  obtain ⟨after, table'⟩ := mirrors_run (calls ++ later)
  rw [before text, table, Option.map_eq_some_iff] at known
  obtain ⟨number, found, rfl⟩ := known
  rw [after text, table', NameTable.lookup_run_append found later]
  rfl

theorem tryResolve_run_append {calls : List Intake}
    (known : (run calls).tryResolve atom = some text) (later : List Intake) :
    (run (calls ++ later)).tryResolve atom = some text := by
  rw [tryResolve_eq, (mirrors_run _).2] at known ⊢
  exact NameTable.extends_run calls later _ _ known

/-- **Whatever is called, texts and atoms determine each other**, as long as there is a word for
each distinct text. -/
theorem numbers_run (calls : List Intake) (few : (NameTable.seen calls).length ≤ UInt32.size) :
    (run calls).Numbers calls := by
  obtain ⟨mirrors, table⟩ := mirrors_run calls
  have dense : (run calls).table.names.toList = NameTable.seen calls := by
    rw [table, NameTable.toList_names_run]
  have distinct : (run calls).table.names.toList.Nodup := table ▸ NameTable.nodup_run calls
  have few : (run calls).size ≤ UInt32.size := by
    rw [← dense] at few
    exact few
  have iff {text : String} {atom : UInt32} :
      (run calls).lookup text = some atom ↔ (run calls).tryResolve atom = some text :=
    mirrors.lookup_eq_some_iff distinct few
  exact {
    mirrors := ⟨mirrors, table⟩
    dense
    zero := by
      have start : (run []).lookup "" = some 0 := by simp [lookup, run, new]
      have first : (run []).tryResolve 0 = some "" := rfl
      exact ⟨lookup_run_append start calls, tryResolve_run_append first calls⟩
    lookup_iff text atom := by
      rw [iff]
      constructor
      · intro found
        exact ⟨(Array.getElem?_eq_some_iff.mp found).1, found⟩
      · exact And.right
    eq_iff u v a b hu hv := by
      rw [iff] at hu hv
      constructor
      · rintro rfl
        exact Option.some.inj (hu.symm.trans hv)
      · rintro rfl
        exact Option.some.inj ((iff.mpr hu).symm.trans (iff.mpr hv))
    returned := by
      rintro before text after rfl
      have first : (run (before ++ [.intern text])).lookup text
          = some ((run before).intern text).1 := by
        rw [run, List.foldl_append]
        exact (lookup_intern _ text text).trans (if_pos rfl)
      have rest := lookup_run_append first after
      rwa [List.append_assoc] at rest
    known text atom := intern_of_lookup
    kept later atom text known := tryResolve_run_append known later }

end Interner

end Shapewire
