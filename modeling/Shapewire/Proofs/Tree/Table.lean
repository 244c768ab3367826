/-
What a node table holds after entries have been added to it.

`Holds` ties a table to the list of the entries added so far: every node holds its entry, the
parents are what the entries refer to, and every record of every pool is some node's.  It
survives an addition (`Holds.addEntry`) as long as each entry has a record of its kind's form
and refers only to places before its own that nothing refers to yet, and so it holds of a whole
layout (`holds_foldl_addEntry`).

A table whose entries broke that rule would still be a table: the kind of a node would look up
another form's records, and a node referred to twice would keep the parent added last.
-/
import Mathlib.Data.List.Induction
import Shapewire.Proofs.Tree.Record

namespace Shapewire

namespace Entry

/-- All places an entry refers to. -/
def links (e : Entry) : List NodeId :=
  (e.record?.map fun r => r.slots Option.toList Option.toList).getD []

/-- Naming the atoms of a record changes nothing that it refers to. -/
theorem links_of_rename {e : Entry} {f : Atom → String} {r? : Option NodeRecord}
    (record : r?.map (Record.rename f) = e.record?) :
    (r?.map Record.links).getD [] = e.links := by
  rw [links, ← record, Option.map_map]
  exact congrArg (fun g => (Option.map g r?).getD [])
    (funext fun r => (Record.slots_rename _ r _ _).symm)

/-- The record has the form that the kind asks for. -/
def Formed (e : Entry) : Prop := e.kind.pool? = e.record?.map Record.pool

end Entry

/-- Entries that can be added to a table one after the other. -/
structure WellLinked (es : List Entry) : Prop where
  /-- Every record has the form its kind asks for. -/
  formed : ∀ e ∈ es, e.Formed
  /-- An entry refers to places before its own. -/
  below : ∀ (p : Nat) (e : Entry), es[p]? = some e → ∀ c : Nat, c ∈ e.links → c < p
  /-- No place is referred to by two entries. -/
  once : ∀ (p : Nat) (e : Entry) (q : Nat) (e' : Entry), es[p]? = some e → es[q]? = some e' →
    ∀ c ∈ e.links, c ∈ e'.links → p = q

theorem WellLinked.of_append {es es' : List Entry} (h : WellLinked (es ++ es')) :
    WellLinked es := by
  have sub {p : Nat} {e : Entry} (found : es[p]? = some e) : (es ++ es')[p]? = some e := by
    rw [List.getElem?_append_left (List.getElem?_eq_some_iff.mp found).1, found]
  exact ⟨fun e mem => h.formed e (List.mem_append_left _ mem),
    fun p e found => h.below p e (sub found),
    fun p e q e' found found' => h.once p e q e' (sub found) (sub found')⟩

/-- What a list has at a place is what it had there before, or what was put at its end. -/
theorem exists_getElem?_concat {α : Type} {as : List α} {a : α} {q : α → Prop} {p : Nat} :
    (∃ b, (as ++ [a])[p]? = some b ∧ q b) ↔
      (∃ b, as[p]? = some b ∧ q b) ∨ p = as.length ∧ q a := by
  rcases Nat.lt_trichotomy p as.length with before | rfl | behind
  · rw [List.getElem?_append_left before]
    simp [Nat.ne_of_lt before]
  · simp
  · have out : (as ++ [a])[p]? = none := by
      rw [List.getElem?_eq_none_iff, List.length_append, List.length_singleton]
      omega
    have out' : as[p]? = none := by
      rw [List.getElem?_eq_none_iff]
      omega
    simp [out, out', Nat.ne_of_gt behind]

theorem Pool.index_inj {p q : Pool} (h : p.index = q.index) : p = q := by
  have same : p.ctorIdx = q.ctorIdx := congrArg Fin.val h
  cases p <;> cases q <;> first | rfl | (exact absurd same (by decide))

namespace Arena

/-! ### One addition -/

theorem pool_pushRecord (a : Arena) (r : NodeRecord) (p : Pool) :
    (a.pushRecord r).pool p = if p = r.pool then (a.pool p).push r else a.pool p := by
  unfold pushRecord pool
  by_cases same : p = r.pool
  · subst same
    simp
  · rw [if_neg same]
    have apart : r.pool.index.val ≠ p.index.val := by
      intro h
      exact same (Pool.index_inj (Fin.ext h.symm))
    exact Vector.getElem_set_ne r.pool.index.isLt p.index.isLt apart

/-- Becoming a parent changes nothing but parents. -/
theorem foldl_adopt_eq (a : Arena) (id : NodeId) (cs : List NodeId) :
    cs.foldl (adopt id) a = { a with parents := (cs.foldl (adopt id) a).parents } := by
  induction cs generalizing a with
  | nil => rfl
  | cons c cs ih => exact ih (adopt id a c)

theorem parents_foldl_adopt (a : Arena) (id : NodeId) (cs : List NodeId) (c : NodeId)
    (inside : c ∈ cs → c < a.parents.size) :
    (cs.foldl (adopt id) a).parents[c]? = if c ∈ cs then some (some id) else a.parents[c]? := by
  induction cs generalizing a with
  | nil => simp
  | cons c' cs ih =>
    have below (later : c ∈ cs) : c < (adopt id a c').parents.size := by
      simpa [adopt] using inside (List.mem_cons_of_mem _ later)
    rw [List.foldl_cons, ih (adopt id a c') below]
    by_cases later : c ∈ cs
    · simp [later]
    · by_cases same : c = c'
      · subst same
        simp [later, adopt, inside List.mem_cons_self]
      · simp [later, same, adopt, Array.getElem?_setIfInBounds_ne (Ne.symm same)]

theorem size_parents_foldl_adopt (a : Arena) (id : NodeId) (cs : List NodeId) :
    (cs.foldl (adopt id) a).parents.size = a.parents.size := by
  induction cs generalizing a with
  | nil => rfl
  | cons c cs ih => rw [List.foldl_cons, ih, adopt, Array.size_setIfInBounds]

/-- Adding a node puts it at the end, with its record at the end of the pool of its form. -/
theorem nodes_add (a : Arena) (kind : NodeKind) (flags : NodeFlags) (span : Span)
    (r? : Option NodeRecord) :
    ∃ n : Node, (a.add kind flags span r?).2.nodes = a.nodes.push n ∧ n.kind = kind ∧
      n.span = span ∧ n.data? = r?.map fun r => (a.pool r.pool).size := by
  cases r? with
  | none => exact ⟨_, rfl, rfl, rfl, rfl⟩
  | some r =>
    refine ⟨⟨kind, flags.union r.flags, span, some (a.pool r.pool).size⟩, ?_, rfl, rfl, rfl⟩
    simp only [add]
    rw [foldl_adopt_eq]
    rfl

theorem names_add (a : Arena) (kind : NodeKind) (flags : NodeFlags) (span : Span)
    (r? : Option NodeRecord) : (a.add kind flags span r?).2.names = a.names := by
  cases r? with
  | none => rfl
  | some r =>
    simp only [add]
    rw [foldl_adopt_eq]
    rfl

theorem pool_add (a : Arena) (kind : NodeKind) (flags : NodeFlags) (span : Span)
    (r? : Option NodeRecord) (p : Pool) :
    (a.add kind flags span r?).2.pool p
      = ((r?.filter fun r => p = r.pool).map (a.pool p).push).getD (a.pool p) := by
  cases r? with
  | none => rfl
  | some r =>
    have pushed : (a.add kind flags span (some r)).2.pool p = (a.pushRecord r).pool p := by
      simp only [add]
      rw [foldl_adopt_eq]
      rfl
    rw [pushed, pool_pushRecord]
    by_cases same : p = r.pool <;> simp [same, Option.filter_some]

/-- The pools keep what they hold. -/
theorem getElem?_pool_add {a : Arena} (kind : NodeKind) (flags : NodeFlags) (span : Span)
    (r? : Option NodeRecord) {p : Pool} {k : Nat} {r : NodeRecord} (h : (a.pool p)[k]? = some r) :
    ((a.add kind flags span r?).2.pool p)[k]? = some r := by
  rw [pool_add]
  cases r?.filter fun r => p = r.pool with
  | none => exact h
  | some new =>
    obtain ⟨inside, -⟩ := Array.getElem?_eq_some_iff.mp h
    simp only [Option.map_some, Option.getD_some]
    rw [Array.getElem?_push_lt inside, ← Array.getElem?_eq_getElem inside, h]

theorem recordOf_add {a : Arena} (kind : NodeKind) (flags : NodeFlags) (span : Span)
    (r? : Option NodeRecord) {n : Node} {r : NodeRecord} (h : a.recordOf n = some r) :
    (a.add kind flags span r?).2.recordOf n = some r := by
  simp only [recordOf, Option.bind_eq_bind, Option.bind_eq_some_iff] at h ⊢
  obtain ⟨p, form, k, data, found⟩ := h
  exact ⟨p, form, k, data, getElem?_pool_add kind flags span r? found⟩

/-- The nodes that were there stay where they are. -/
theorem get?_add_of_lt (a : Arena) (kind : NodeKind) (flags : NodeFlags) (span : Span)
    (r? : Option NodeRecord) {i : NodeId} (inside : i < a.nodes.size) :
    (a.add kind flags span r?).2.get? i = a.get? i := by
  obtain ⟨n, nodes, -⟩ := nodes_add a kind flags span r?
  rw [get?, nodes, Array.getElem?_push_lt inside, ← Array.getElem?_eq_getElem inside]
  rfl

/-- A node that has its record, or has none to look for, keeps it that way. -/
theorem recordOf_add_eq (a : Arena) (kind : NodeKind) (flags : NodeFlags) (span : Span)
    (r? : Option NodeRecord) {n : Node} (data : n.data?.isSome = (a.recordOf n).isSome) :
    (a.add kind flags span r?).2.recordOf n = a.recordOf n := by
  cases stored : a.recordOf n with
  | some r => exact recordOf_add _ _ _ _ stored
  | none =>
    have none : n.data? = none := by
      rw [stored] at data
      exact Option.isNone_iff_eq_none.mp (Option.isSome_eq_false_iff.mp data)
    simp [recordOf, none]

/-- The node that is added has the record it was given, if that is of its kind's form. -/
theorem recordOf_add_self (a : Arena) {kind : NodeKind} (flags : NodeFlags) (span : Span)
    {r? : Option NodeRecord} (form : ∀ r, r? = some r → kind.pool? = some r.pool) {n : Node}
    (same : n.kind = kind) (data : n.data? = r?.map fun r => (a.pool r.pool).size) :
    (a.add kind flags span r?).2.recordOf n = r? := by
  cases r? with
  | none => simp [recordOf, data]
  | some r => simp [recordOf, data, same, form r rfl, pool_add, Option.filter_some]

/-- The node that is added has no parent, and is the parent of all its record refers to. -/
theorem parents_add (a : Arena) (kind : NodeKind) (flags : NodeFlags) (span : Span)
    (r? : Option NodeRecord) (c : NodeId)
    (inside : c ∈ (r?.map Record.links).getD [] → c < a.parents.size) :
    (a.add kind flags span r?).2.parents[c]?
      = if c ∈ (r?.map Record.links).getD [] then some (some a.size)
        else (a.parents.push none)[c]? := by
  cases r? with
  | none => simp [add, pushNode]
  | some r =>
    simp only [add]
    rw [parents_foldl_adopt]
    · rfl
    · intro link
      have below : c < a.parents.size := inside link
      show c < (a.parents.push none).size
      rw [Array.size_push]
      exact Nat.lt_succ_of_lt below

/-- The node that is added becomes the parent of all its record refers to, and all others keep
theirs. -/
theorem parent?_add (a : Arena) (kind : NodeKind) (flags : NodeFlags) (span : Span)
    (r? : Option NodeRecord) (c : NodeId)
    (inside : c ∈ (r?.map Record.links).getD [] → c < a.parents.size) :
    (a.add kind flags span r?).2.parent? c
      = if c ∈ (r?.map Record.links).getD [] then some a.size else a.parent? c := by
  rw [parent?, parents_add _ _ _ _ _ _ inside]
  split
  · rfl
  · rw [parent?, Array.getElem?_push]
    by_cases new : c = a.parents.size
    · simp [new]
    · rw [if_neg new]

theorem size_parents_add (a : Arena) (kind : NodeKind) (flags : NodeFlags) (span : Span)
    (r? : Option NodeRecord) : (a.add kind flags span r?).2.parents.size = a.parents.size + 1 := by
  cases r? with
  | none => simp [add, pushNode]
  | some r =>
    simp only [add]
    rw [size_parents_foldl_adopt]
    simp [pushNode, pushRecord]

/-- An entry that names nothing is added as it is. -/
theorem addEntry_nameless (a : Arena) {kind : NodeKind} {flags : NodeFlags} {span : Span}
    {record : Record NodeRef NodeRef String} (nameless : ∀ name, record ≠ .identifier name) :
    a.addEntry ⟨kind, flags, span, some record⟩
      = (a.add kind flags span (some (record.rename fun _ => 0))).2 := by
  rw [← Record.mapM_eq_rename _ _ kind]
  cases record <;> first | rfl | exact absurd rfl (nameless _)

/-- Adding an entry is adding a node whose record says the same once atoms are read as the names
they stand for. -/
theorem exists_addEntry_eq (a : Arena) (e : Entry) :
    ∃ names r?, a.names.Extends names ∧
      (∀ names' : NameTable, names.Extends names' →
        r?.map (Record.rename names'.resolve) = e.record?) ∧
      a.addEntry e = ({ a with names }.add e.kind e.flags e.span r?).2 := by
  obtain ⟨kind, flags, span, record?⟩ := e
  cases record? with
  | none => exact ⟨a.names, none, .refl _, fun _ _ => rfl, rfl⟩
  | some record =>
    by_cases named : ∃ name, record = .identifier name
    · obtain ⟨name, rfl⟩ := named
      refine ⟨(a.names.intern name).2, some (.identifier (a.names.intern name).1),
        NameTable.extends_intern _ _, fun names' extended => ?_, rfl⟩
      have found := extended _ _ (a.names.resolve?_intern name)
      exact congrArg (some ∘ Record.identifier) (NameTable.resolve_of_resolve? found)
    · have nameless (name : String) : record ≠ .identifier name := fun eq => named ⟨name, eq⟩
      refine ⟨a.names, some (record.rename fun _ => 0), .refl _, ?_, addEntry_nameless a nameless⟩
      intro names' _
      rw [Option.map_some, Record.rename_rename,
        Record.rename_eq_rename _ _ id fun name eq => absurd eq (nameless name), Record.rename_id]

/-! ### All additions -/

/-- The table holds the entries, in order. -/
structure Holds (a : Arena) (es : List Entry) : Prop where
  /-- There is a node for each entry. -/
  size : a.nodes.size = es.length
  /-- Each node has a slot for its parent. -/
  sizeParents : a.parents.size = es.length
  /-- Each node is its entry, its atoms read as names, now and when more names are known. -/
  node : ∀ i e, es[i]? = some e → ∃ n, a.get? i = some n ∧ n.kind = e.kind ∧ n.span = e.span ∧
    n.data?.isSome = e.record?.isSome ∧ ∀ names, a.names.Extends names →
      (a.recordOf n).map (Record.rename names.resolve) = e.record?
  /-- The parent of a node is what refers to it. -/
  parent : ∀ c p, a.parent? c = some p ↔ ∃ e, es[p]? = some e ∧ c ∈ e.links
  /-- Every record of every pool is the record of one node. -/
  owner : ∀ p k, k < (a.pool p).size →
    ∃! i, ∃ n, a.get? i = some n ∧ n.kind.pool? = some p ∧ n.data? = some k

theorem holds_forSource : forSource.Holds [] where
  size := rfl
  sizeParents := rfl
  node := by simp
  parent := by simp [parent?, forSource, withNames]
  owner := by
    intro p k inside
    have none : (forSource.pool p).size = 0 := by
      simp [pool, forSource, withNames]
    omega

namespace Holds

variable {a : Arena} {es : List Entry}

theorem get?_lt (h : a.Holds es) {i : NodeId} {n : Node} (found : a.get? i = some n) :
    i < es.length := by
  rw [← h.size]
  exact (Array.getElem?_eq_some_iff.mp found).1

/-- The place of a node's record lies in the pool of its kind. -/
theorem data_lt (h : a.Holds es) {i : NodeId} {n : Node} {p : Pool} {k : Nat}
    (found : a.get? i = some n) (form : n.kind.pool? = some p) (data : n.data? = some k) :
    k < (a.pool p).size := by
  have at_i : es[i]? = some _ := List.getElem?_eq_getElem (h.get?_lt found)
  obtain ⟨n', found', -, -, some?, record⟩ := h.node i _ at_i
  obtain rfl : n = n' := Option.some.inj (found.symm.trans found')
  rw [data, ← record _ (.refl _), Option.isSome_map] at some?
  have present : (a.recordOf n).isSome := some?.symm
  simp only [recordOf, form, data] at present
  exact (Array.getElem?_eq_some_iff.mp (Option.eq_some_iff_get_eq.mpr ⟨present, rfl⟩)).1

theorem extends_names (h : a.Holds es) {names : NameTable} (extended : a.names.Extends names) :
    ({ a with names } : Arena).Holds es where
  size := h.size
  sizeParents := h.sizeParents
  node i e at_i := by
    obtain ⟨n, found, kind, span, data, record⟩ := h.node i e at_i
    exact ⟨n, found, kind, span, data, fun names' more => record names' (extended.trans more)⟩
  parent := h.parent
  owner := h.owner

/-- Every node that was there still holds its entry, and the added one holds its own. -/
theorem node_add (h : a.Holds es) {e : Entry} (formed : e.Formed) {r? : Option NodeRecord}
    (named : ∀ names : NameTable, a.names.Extends names →
      r?.map (Record.rename names.resolve) = e.record?) (i : Nat) (e' : Entry)
    (at_i : (es ++ [e])[i]? = some e') :
    ∃ n, (a.add e.kind e.flags e.span r?).2.get? i = some n ∧ n.kind = e'.kind ∧
      n.span = e'.span ∧ n.data?.isSome = e'.record?.isSome ∧
      ∀ names, a.names.Extends names →
        ((a.add e.kind e.flags e.span r?).2.recordOf n).map (Record.rename names.resolve)
          = e'.record? := by
  obtain ⟨new, nodes, kind, span, data⟩ := nodes_add a e.kind e.flags e.span r?
  by_cases inside : i < es.length
  · rw [List.getElem?_append_left inside] at at_i
    obtain ⟨n, found, kind, span, data, record⟩ := h.node i e' at_i
    refine ⟨n, ?_, kind, span, data, ?_⟩
    · rw [get?_add_of_lt _ _ _ _ _ (h.size ▸ inside)]
      exact found
    · intro names extended
      rw [recordOf_add_eq, record names extended]
      rw [data, ← record names extended, Option.isSome_map]
  · have last : i = es.length := by
      have := (List.getElem?_eq_some_iff.mp at_i).1
      simp at this
      omega
    subst last
    obtain rfl : e = e' := by simpa using at_i
    refine ⟨new, ?_, kind, span, ?_, ?_⟩
    · rw [get?, nodes, ← h.size, Array.getElem?_push_size]
    · rw [data, ← named _ (.refl _), Option.isSome_map, Option.isSome_map]
    · intro names extended
      rw [recordOf_add_self a e.flags e.span ?_ kind data, named names extended]
      rintro r rfl
      rw [formed, ← named _ (.refl _)]
      exact congrArg some (Record.pool_rename _ _)

/-- The added node is the parent of all it refers to, and all others keep theirs. -/
theorem parent_add (h : a.Holds es) {e : Entry} (linked : WellLinked (es ++ [e]))
    {r? : Option NodeRecord} (links : (r?.map Record.links).getD [] = e.links) (c p : Nat) :
    (a.add e.kind e.flags e.span r?).2.parent? c = some p
      ↔ ∃ e', (es ++ [e])[p]? = some e' ∧ c ∈ e'.links := by
  have last : (es ++ [e])[es.length]? = some e := by simp
  have inside : c ∈ (r?.map Record.links).getD [] → c < a.parents.size := by
    rw [links, h.sizeParents]
    exact linked.below _ e last c
  rw [exists_getElem?_concat, ← h.parent, parent?_add _ _ _ _ _ _ inside, links]
  by_cases child : c ∈ e.links
  · have unlinked : a.parent? c ≠ some p := by
      intro old
      obtain ⟨e', found, child'⟩ := (h.parent c p).mp old
      have before := (List.getElem?_eq_some_iff.mp found).1
      have here : (es ++ [e])[p]? = some e' := by rw [List.getElem?_append_left before, found]
      have := linked.once _ _ _ _ last here c child child'
      omega
    rw [if_pos child, Arena.size, h.size]
    simp [child, unlinked, eq_comm]
  · rw [if_neg child]
    simp [child]

/-- The added record is the added node's, and all others keep their nodes. -/
theorem owner_add (h : a.Holds es) {e : Entry} {r? : Option NodeRecord}
    (form : e.kind.pool? = r?.map Record.pool) (p : Pool) (k : Nat)
    (inside : k < ((a.add e.kind e.flags e.span r?).2.pool p).size) :
    ∃! i, ∃ n, (a.add e.kind e.flags e.span r?).2.get? i = some n ∧ n.kind.pool? = some p ∧
      n.data? = some k := by
  obtain ⟨new, nodes, kind, -, newData⟩ := nodes_add a e.kind e.flags e.span r?
  have get (i : Nat) (n : Node) : (a.add e.kind e.flags e.span r?).2.get? i = some n
      ↔ a.get? i = some n ∨ i = es.length ∧ n = new := by
    simp only [get?, nodes, Array.getElem?_push, h.size]
    by_cases last : i = es.length
    · have none : a.nodes[i]? = none := by
        rw [Array.getElem?_eq_none_iff, h.size]
        omega
      rw [if_pos last, none]
      simp [last, eq_comm]
    · simp [last]
  -- The added node's record lies behind all that were there before.
  have fresh : new.kind.pool? = some p ∧ new.data? = some k ↔
      (∃ r, r? = some r ∧ r.pool = p) ∧ k = (a.pool p).size := by
    rw [kind, form, newData]
    cases r? with
    | none => simp
    | some r =>
      simp only [Option.map_some, Option.some.injEq, exists_eq_left']
      refine and_congr_right ?_
      intro same
      rw [same, eq_comm]
  by_cases old : k < (a.pool p).size
  · obtain ⟨i, ⟨n, found, form, data⟩, unique⟩ := h.owner p k old
    refine ⟨i, ⟨n, (get i n).mpr (.inl found), form, data⟩, ?_⟩
    rintro j ⟨m, at_j, form, data⟩
    rcases (get j m).mp at_j with found | ⟨rfl, rfl⟩
    · exact unique j ⟨m, found, form, data⟩
    · have := (fresh.mp ⟨form, data⟩).2
      omega
  · rw [pool_add] at inside
    cases r? with
    | none => exact absurd inside old
    | some r =>
      by_cases same : p = r.pool
      · have : k = (a.pool p).size := by
          simp [Option.filter_some, same] at inside old ⊢
          omega
        obtain ⟨form, data⟩ := fresh.mpr ⟨⟨r, rfl, same.symm⟩, this⟩
        refine ⟨es.length, ⟨new, (get _ _).mpr (.inr ⟨rfl, rfl⟩), form, data⟩, ?_⟩
        rintro j ⟨m, at_j, form, data⟩
        rcases (get j m).mp at_j with found | ⟨rfl, -⟩
        · exact absurd (h.data_lt found form data) old
        · rfl
      · simp [Option.filter_some, same] at inside
        exact absurd inside old

theorem addEntry (h : a.Holds es) {e : Entry} (linked : WellLinked (es ++ [e])) :
    (a.addEntry e).Holds (es ++ [e]) := by
  obtain ⟨names, r?, extended, named, eq⟩ := exists_addEntry_eq a e
  have h := h.extends_names extended
  have formed : e.Formed := linked.formed e (by simp)
  have record : r?.map (Record.rename names.resolve) = e.record? := named _ (.refl _)
  have form : e.kind.pool? = r?.map Record.pool := by
    rw [formed, ← record, Option.map_map]
    exact congrArg (Option.map · r?) (funext fun r => Record.pool_rename _ r)
  have links := Entry.links_of_rename record
  rw [eq]
  obtain ⟨n, nodes, -⟩ := nodes_add { a with names } e.kind e.flags e.span r?
  exact {
    size := by rw [nodes, Array.size_push, h.size, List.length_append]; rfl
    sizeParents := by rw [size_parents_add, h.sizeParents, List.length_append]; rfl
    node := fun i e' at_i => by
      rw [names_add]
      exact h.node_add formed named i e' at_i
    parent := h.parent_add linked links
    owner := h.owner_add form }

end Holds

/-- **A table holds the entries that were added to it**, if they can be added one after the
other. -/
theorem holds_foldl_addEntry {es : List Entry} (linked : WellLinked es) :
    (es.foldl addEntry forSource).Holds es := by
  induction es using List.reverseRecOn with
  | nil => exact holds_forSource
  | append_singleton es e ih =>
    rw [List.foldl_append]
    exact (ih linked.of_append).addEntry linked

end Arena

end Shapewire
