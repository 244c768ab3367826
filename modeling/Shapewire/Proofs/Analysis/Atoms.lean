/-
Comparing names by their atoms.

The analyses compare identifiers by what they are called, and a table says that by a number.  The
names of a source's table are what an interner has taken in: the common names, and then the name of
each identifier as it was added (`Arena.names_ofTree`).  So the atom that an identifier carries is
the interner's atom for its name, and two identifiers are called the same exactly when they carry
the same atom.
-/
import Shapewire.Proofs.Analysis.Renaming
import Shapewire.Proofs.Text.Interner

namespace Shapewire

open NameTable (Intake)

/-- What an identifier that is added is called. -/
def Entry.name? (e : Entry) : Option String := e.record?.bind Record.name?

/-- The calls by which the names of a tree are taken in: the common ones first, then those of its
identifiers in the order in which they are added to the table. -/
def Tree.calls (t : Tree) : List Intake :=
  .internCommon :: ((t.entries 0).filterMap Entry.name?).map .intern

namespace Arena

theorem names_addEntry (a : Arena) (e : Entry) :
    (a.addEntry e).names = a.names.internAll e.name?.toList := by
  obtain ⟨kind, flags, span, record?⟩ := e
  cases record? with
  | none => exact names_add a kind flags span none
  | some record =>
    cases record
    case identifier name =>
      exact names_add { a with names := (a.names.intern name).2 } kind flags span _
    all_goals exact names_add a kind flags span _

theorem names_foldl_addEntry (es : List Entry) (a : Arena) :
    (es.foldl addEntry a).names = a.names.internAll (es.filterMap Entry.name?) := by
  induction es generalizing a with
  | nil => rfl
  | cons e es ih =>
    rw [List.foldl_cons, ih, names_addEntry, ← NameTable.internAll_append]
    cases named : e.name? with
    | none => rw [List.filterMap_cons_none named]; rfl
    | some name => rw [List.filterMap_cons_some named]; rfl

/-- The table of a tree has taken in its names, and nothing else. -/
theorem names_ofTree (t : Tree) : (ofTree t).names = NameTable.run t.calls := by
  have texts : t.calls.flatMap Intake.texts
      = NameTable.commonNames ++ (t.entries 0).filterMap Entry.name? := by
    simp [Tree.calls, Intake.texts, List.flatMap_map]
  rw [NameTable.run_eq_internAll, texts, NameTable.internAll_append]
  exact names_foldl_addEntry (t.entries 0) forSource

end Arena

namespace SourceTree

/-- What the atoms of a source's identifiers say. -/
structure AtomsTell (s : SourceTree) : Prop where
  /-- The names are those that an interner has taken in. -/
  names : s.arena.names = (Interner.run s.tree.calls).table
  /-- An identifier carries the atom that the interner has for its name. -/
  interned : ∀ id u, s.arena.record? id = some (.identifier u) → ∃ name,
    s.arena.identifierText? id = some name ∧
      (Interner.run s.tree.calls).lookup name = some (UInt32.ofNat u)
  /-- Two identifiers carry the same atom exactly when they are called the same. -/
  eq_iff : ∀ i j u v, s.arena.record? i = some (.identifier u) →
    s.arena.record? j = some (.identifier v) →
      (u = v ↔ s.arena.identifierText? i = s.arena.identifierText? j)
  /-- So do the words that stand for the atoms, as long as there is one for each name. -/
  words_eq_iff : (NameTable.seen s.tree.calls).length ≤ UInt32.size → ∀ i j u v,
    s.arena.record? i = some (.identifier u) → s.arena.record? j = some (.identifier v) →
      (UInt32.ofNat u = UInt32.ofNat v ↔ s.arena.identifierText? i = s.arena.identifierText? j)

/-- The atom of an identifier is that of its name in the table. -/
theorem exists_lookup (s : SourceTree) {id : NodeId} {u : Atom}
    (found : s.arena.record? id = some (.identifier u)) : ∃ name,
      s.arena.identifierText? id = some name ∧ s.arena.names.lookup name = some u := by
  have known : s.arena.AtomsKnown := s.arena_eq ▸ Arena.atomsKnown_ofTree s.tree
  have names : s.arena.names = NameTable.run s.tree.calls :=
    s.arena_eq ▸ Arena.names_ofTree s.tree
  obtain ⟨n, -, stored⟩ := Option.bind_eq_some_iff.mp found
  obtain ⟨p, -, stored⟩ := Option.bind_eq_some_iff.mp stored
  obtain ⟨k, -, stored⟩ := Option.bind_eq_some_iff.mp stored
  obtain ⟨name, named⟩ :=
    Option.isSome_iff_exists.mp (known p _ (Array.mem_of_getElem? stored) u rfl)
  refine ⟨name, ?_, ?_⟩
  · rw [Arena.identifierText?, found, ← NameTable.resolve_of_resolve? named]
  · rw [names] at named ⊢
    exact (NameTable.lookup_eq_some_iff (NameTable.nodup_run _)).mpr named

theorem atomsTell (s : SourceTree) : s.AtomsTell := by
  obtain ⟨mirrors, table⟩ := Interner.mirrors_run s.tree.calls
  have names : s.arena.names = (Interner.run s.tree.calls).table := by
    rw [table, s.arena_eq]
    exact Arena.names_ofTree s.tree
  have interned {id : NodeId} {u : Atom} (found : s.arena.record? id = some (.identifier u)) :
      ∃ name, s.arena.identifierText? id = some name ∧
        (Interner.run s.tree.calls).lookup name = some (UInt32.ofNat u) := by
    obtain ⟨name, text, known⟩ := s.exists_lookup found
    rw [names] at known
    exact ⟨name, text, by rw [mirrors name, known]; rfl⟩
  refine ⟨names, fun _ _ => interned, fun i j u v at_i at_j => ?_, fun few i j u v at_i at_j => ?_⟩
  · obtain ⟨name, text, known⟩ := s.exists_lookup at_i
    obtain ⟨name', text', known'⟩ := s.exists_lookup at_j
    constructor
    · rintro rfl
      rw [Arena.identifierText?, at_i, Arena.identifierText?, at_j]
    · intro same
      obtain rfl := Option.some.inj (text.symm.trans (same.trans text'))
      exact Option.some.inj (known.symm.trans known')
  · obtain ⟨name, text, known⟩ := interned at_i
    obtain ⟨name', text', known'⟩ := interned at_j
    rw [text, text', Option.some.injEq]
    exact (Interner.numbers_run _ few).eq_iff name name' _ _ known known'

end SourceTree

namespace Interner

/-- **Texts are told apart by their atoms**, whatever an interner has taken in, and identifiers by
theirs in the table of every source that parses. -/
theorem tells_run (calls : List Intake) (few : (NameTable.seen calls).length ≤ UInt32.size) :
    (run calls).Numbers calls ∧
      ∀ file text s, SourceTree.parse file text = .ok s → s.AtomsTell :=
  ⟨numbers_run calls few, fun _ _ s _ => s.atomsTell⟩

/-- A name that is common and the empty one are interned among others, before the common names and
after them. -/
theorem tells_run_common :
    (NameTable.seen
      [.intern "repo", .intern "this", .internCommon, .intern "", .intern "repo"]).length
        ≤ UInt32.size ∧
      (run [.intern "repo", .intern "this", .internCommon, .intern "", .intern "repo"]).Numbers
        [.intern "repo", .intern "this", .internCommon, .intern "", .intern "repo"] ∧
      ∃ s, SourceTree.parse "Repo.js" "function Repo(log) { this.log = log }" = .ok s ∧
        s.AtomsTell := by
  have few : (NameTable.seen
      [.intern "repo", .intern "this", .internCommon, .intern "", .intern "repo"]).length
        ≤ UInt32.size := by decide +kernel
  obtain ⟨numbers, tell⟩ := tells_run _ few
  refine ⟨few, numbers, ?_⟩
  exact SourceTree.exists_of_any (q := fun _ => true) (by decide +kernel) fun s parsed _ =>
    tell _ _ s parsed

end Interner

end Shapewire
