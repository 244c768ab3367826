/-
What a table remembers of the additions that made it.

Tables need not come from trees.  All that an addition has to obey is that its record is one for
its kind and that it refers to nodes which are there, that is, to what earlier additions returned
(`Allowed`).  Nodes may be referred to twice, and some by no other.

After any number of such additions the table still answers for each of them (`Remembers`): the
accessor of a node's form finds the record that was given, the children are what the record refers
to, and the parent of a node is the last that refers to it.  A parent was added after its children,
so that climbing from a node comes to an end.
-/
import Mathlib.Data.List.ReduceOption
import Mathlib.Data.Nat.Find
import Shapewire.Proofs.Tree.Source

namespace Shapewire

namespace Record

/-- The slots in which a record of a node of the given kind refers to nodes, in the order of the
source. -/
def fields (kind : NodeKind) : NodeRecord → List NodeRef
  | identifier _ | literal _ => []
  | binary left _ right => [left, right]
  | unary _ operand => [operand]
  | call callee arguments => callee :: arguments.getD []
  | access object name _ => [object, name]
  | conditional condition whenTrue whenFalse => [condition, whenTrue, whenFalse]
  | wrapped expression => [expression]
  | template _ expressions => expressions
  | taggedTemplate tag body => [tag, body]
  | elements items => items
  | property name initializer => [name, initializer]
  | shorthand name => [name]
  | function name parameters body _ => name :: (parameters ++ [body])
  | parameter _ name initializer => [name, initializer]
  | sourceFile _ statements => statements
  | block statements => statements
  | declarationList declarations => declarations
  | declaration name initializer => [name, initializer]
  | branch condition whenTrue whenFalse => [condition, whenTrue, whenFalse]
  | loop initializer condition incrementor body =>
    if kind = .doStatement then [body, condition]
    else [initializer, condition, incrementor, body]
  | iteration binding subject body => [binding, subject, body]
  | attempt body onFault finalizer => [body, onFault, finalizer]
  | handler name body => [name, body]
  | jump label => [label]
  | switch subject clauses => subject :: clauses
  | clause test statements => test :: statements
  | labeled label statement => [label, statement]

theorem flatMap_toList_eq_reduceOption (refs : List NodeRef) :
    refs.flatMap Option.toList = refs.reduceOption := by
  induction refs with
  | nil => rfl
  | cons ref refs ih =>
    rw [List.flatMap_cons, ih]
    cases ref <;> simp

/-- The children are the fields that are not empty. -/
theorem childIds_eq_reduceOption (kind : NodeKind) (r : NodeRecord) :
    r.childIds kind = (r.fields kind).reduceOption := by
  rw [← flatMap_toList_eq_reduceOption]
  cases r
  case loop =>
    by_cases last : kind = .doStatement
    · simp [childIds, children, fields, last]
    · simp [childIds, children, fields, last]
  all_goals simp [childIds, children, fields]

end Record

/-- What a table is given when a node is added. -/
structure Addition where
  kind : NodeKind
  flags : NodeFlags
  span : Span
  record? : Option NodeRecord
deriving DecidableEq, Repr

namespace Addition

/-- The fields of the record, if there is one. -/
def fields (e : Addition) : List NodeRef := (e.record?.map (Record.fields e.kind)).getD []

/-- The record refers to the node. -/
def RefersTo (e : Addition) (c : NodeId) : Prop := some c ∈ e.fields

/-- Adds the node and returns its place. -/
def perform (e : Addition) : StateM Arena NodeId := fun a => a.add e.kind e.flags e.span e.record?

/-- Performs all additions on a new table: what they return, and the table. -/
def run (names : NameTable) (es : List Addition) : List NodeId × Arena :=
  (es.mapM perform : StateM Arena (List NodeId)) (Arena.withNames names)

/-- Additions that can be performed on a new table one after the other. -/
structure Allowed (names : NameTable) (es : List Addition) : Prop where
  /-- Every record is one for the kind it is given with. -/
  fits : ∀ e ∈ es, ∀ r, e.record? = some r → r.Fits e.kind
  /-- A record refers to nodes that earlier additions returned. -/
  earlier : ∀ i e, es[i]? = some e → ∀ c, e.RefersTo c → c ∈ (run names (es.take i)).1

/-- The addition at a place refers to a node. -/
def RefersAt (es : List Addition) (i : Nat) (c : NodeId) : Prop :=
  ∃ e, es[i]? = some e ∧ e.RefersTo c

theorem mem_links_iff {e : Addition} (fits : ∀ r, e.record? = some r → r.Fits e.kind)
    {c : NodeId} : c ∈ (e.record?.map Record.links).getD [] ↔ e.RefersTo c := by
  cases present : e.record? with
  | none => simp [RefersTo, fields, present]
  | some r =>
    have perm := (fits r present).slots_perm_children Option.toList Option.toList rfl
    have same : r.children e.kind Option.toList Option.toList = (r.fields e.kind).reduceOption :=
      Record.childIds_eq_reduceOption e.kind r
    rw [Option.map_some, Option.getD_some, Record.links, perm.mem_iff, same,
      List.reduceOption_mem_iff]
    simp [RefersTo, fields, present]

/-- One more addition is performed on the table that the others left. -/
theorem run_concat (names : NameTable) (es : List Addition) (e : Addition) :
    run names (es ++ [e])
      = ((run names es).1 ++ [(run names es).2.size],
          ((run names es).2.add e.kind e.flags e.span e.record?).2) := by
  have returned (a : Arena) : (a.add e.kind e.flags e.span e.record?).1 = a.size := by
    cases present : e.record? <;> rfl
  rw [run, List.mapM_append]
  show ((run names es).1 ++ [((run names es).2.add e.kind e.flags e.span e.record?).1], _) = _
  rw [returned]
  rfl

theorem Allowed.of_append {names : NameTable} {es es' : List Addition}
    (h : Allowed names (es ++ es')) : Allowed names es where
  fits e mem := h.fits e (List.mem_append_left _ mem)
  earlier i e found c refers := by
    have inside := (List.getElem?_eq_some_iff.mp found).1
    have here : (es ++ es')[i]? = some e := by rw [List.getElem?_append_left inside, found]
    have mem := h.earlier i e here c refers
    rwa [List.take_append_of_le_length (Nat.le_of_lt inside)] at mem

end Addition

namespace Arena

open Addition

/-! ### Climbing -/

/-- Climbing from a node, one parent after the other, meets these and ends. -/
inductive Climbs (a : Arena) : NodeId → List NodeId → Prop
  | top {c : NodeId} : a.parent? c = none → Climbs a c []
  | step {c p : NodeId} {ps : List NodeId} : a.parent? c = some p → Climbs a p ps →
    Climbs a c (p :: ps)

section Climbs

variable {a : Arena} (above : ∀ c p, a.parent? c = some p → c < p)
  (inside : ∀ c p, a.parent? c = some p → p < a.size)

include above inside in
/-- As many levels as there are nodes behind one are enough to climb from it. -/
theorem climbs_ancestorsWithin {n c : Nat} (enough : a.size ≤ n + c) :
    a.Climbs c (a.ancestorsWithin n c) := by
  induction n generalizing c with
  | zero =>
    refine .top ?_
    rw [Option.eq_none_iff_forall_ne_some]
    intro p parent
    have low : c < a.size := Nat.lt_trans (above c p parent) (inside c p parent)
    omega
  | succ n ih =>
    rw [ancestorsWithin]
    cases parent : a.parent? c with
    | none => exact .top parent
    | some p =>
      have up : c + 1 ≤ p := above c p parent
      exact .step parent (ih (by omega))

include above in
/-- Climbing goes from lower places to higher ones. -/
theorem Climbs.increasing {c : NodeId} {ps : List NodeId} (climbs : a.Climbs c ps) :
    (c :: ps).Pairwise (· < ·) := by
  rw [← List.isChain_iff_pairwise]
  induction climbs with
  | top _ => exact .singleton _
  | step parent _ ih => exact .cons_cons (above _ _ parent) ih

end Climbs

/-! ### Remembering -/

/-- The table answers for the additions that returned the given places. -/
structure Remembers (a : Arena) (ids : List NodeId) (es : List Addition) : Prop where
  /-- Each addition returned its own place among all. -/
  returned : ids = List.range es.length
  /-- There is a node for each addition. -/
  nodes : a.nodes.size = es.length
  /-- There is a slot for the parent of each node. -/
  slots : a.parents.size = a.nodes.size
  /-- A node is of the kind it was added with, and the accessors find the record that was given:
  the accessor of its form, and no other. -/
  answers : ∀ i e, es[i]? = some e → ∃ n, a.get? i = some n ∧ n.kind = e.kind ∧ n.span = e.span ∧
    ∀ p, a.read p n = e.record?.filter fun r => r.pool = p
  /-- The children are the fields that refer to nodes, in the order of the source. -/
  children : ∀ i e, es[i]? = some e → a.children i = e.fields.reduceOption
  /-- The parent of a node is what was added last of all that refer to it. -/
  parent : ∀ c p, a.parent? c = some p ↔ RefersAt es p c ∧ ∀ q, p < q → ¬ RefersAt es q c
  /-- A node without a parent is one that nothing refers to. -/
  orphan : ∀ c, a.parent? c = none ↔ ∀ p, ¬ RefersAt es p c
  /-- Parents are added after their children. -/
  above : ∀ c p, a.parent? c = some p → c < p
  /-- The ancestors are all that climbing meets, and it ends. -/
  climbs : ∀ c, a.Climbs c (a.ancestors c)
  /-- The ancestors lie at higher and higher places. -/
  increasing : ∀ c, (c :: a.ancestors c).Pairwise (· < ·)

/-- What one addition after the other keeps true of the table. -/
structure Keeps (a : Arena) (es : List Addition) : Prop where
  size : a.nodes.size = es.length
  sizeParents : a.parents.size = es.length
  node : ∀ i e, es[i]? = some e → ∃ n, a.get? i = some n ∧ n.kind = e.kind ∧ n.span = e.span ∧
    n.data?.isSome = e.record?.isSome ∧ a.recordOf n = e.record?
  parent : ∀ c p, a.parent? c = some p ↔ RefersAt es p c ∧ ∀ q, p < q → ¬ RefersAt es q c

theorem keeps_withNames (names : NameTable) : (withNames names).Keeps [] where
  size := rfl
  sizeParents := rfl
  node := by simp
  parent := by simp [parent?, withNames, RefersAt]

namespace Keeps

variable {a : Arena} {es : List Addition}

/-- Every node that was there still has its record, and the added one has its own. -/
theorem node_add (h : a.Keeps es) {e : Addition}
    (fits : ∀ r, e.record? = some r → r.Fits e.kind) (i : Nat) (e' : Addition)
    (at_i : (es ++ [e])[i]? = some e') :
    ∃ n, (a.add e.kind e.flags e.span e.record?).2.get? i = some n ∧ n.kind = e'.kind ∧
      n.span = e'.span ∧ n.data?.isSome = e'.record?.isSome ∧
      (a.add e.kind e.flags e.span e.record?).2.recordOf n = e'.record? := by
  obtain ⟨new, nodes, kind, span, data⟩ := nodes_add a e.kind e.flags e.span e.record?
  by_cases inside : i < es.length
  · rw [List.getElem?_append_left inside] at at_i
    obtain ⟨n, found, kind, span, data, record⟩ := h.node i e' at_i
    refine ⟨n, ?_, kind, span, data, ?_⟩
    · rw [get?_add_of_lt _ _ _ _ _ (h.size ▸ inside)]
      exact found
    · rw [recordOf_add_eq, record]
      rw [data, record]
  · have last : i = es.length := by
      have := (List.getElem?_eq_some_iff.mp at_i).1
      simp at this
      omega
    subst last
    obtain rfl : e = e' := by simpa using at_i
    refine ⟨new, ?_, kind, span, ?_, ?_⟩
    · rw [get?, nodes, ← h.size, Array.getElem?_push_size]
    · rw [data, Option.isSome_map]
    · exact recordOf_add_self a e.flags e.span (fun r present => (fits r present).pool) kind data

/-- The added node takes over as the parent of all it refers to. -/
theorem parent_add (h : a.Keeps es) {e : Addition}
    (fits : ∀ r, e.record? = some r → r.Fits e.kind) (below : ∀ c, e.RefersTo c → c < es.length)
    (c p : Nat) : (a.add e.kind e.flags e.span e.record?).2.parent? c = some p ↔
      RefersAt (es ++ [e]) p c ∧ ∀ q, p < q → ¬ RefersAt (es ++ [e]) q c := by
  have link := mem_links_iff fits (c := c)
  have inside : c ∈ (e.record?.map Record.links).getD [] → c < a.parents.size := by
    intro mem
    rw [h.sizeParents]
    exact below c (link.mp mem)
  have listed (q : Nat) :
      RefersAt (es ++ [e]) q c ↔ RefersAt es q c ∨ q = es.length ∧ e.RefersTo c :=
    exists_getElem?_concat
  have before {q : Nat} (old : RefersAt es q c) : q < es.length := by
    obtain ⟨e', found, -⟩ := old
    exact (List.getElem?_eq_some_iff.mp found).1
  rw [parent?_add _ _ _ _ _ _ inside]
  simp only [listed]
  by_cases child : e.RefersTo c
  · rw [if_pos (link.mpr child), Arena.size, h.size]
    constructor
    · intro same
      obtain rfl : es.length = p := Option.some.inj same
      refine ⟨.inr ⟨rfl, child⟩, ?_⟩
      rintro q later (old | ⟨rfl, -⟩)
      · have := before old
        omega
      · omega
    · rintro ⟨old | ⟨rfl, -⟩, last⟩
      · exact absurd (.inr ⟨rfl, child⟩) (last es.length (before old))
      · rfl
  · rw [if_neg (mt link.mp child), h.parent]
    simp [child]

theorem add (h : a.Keeps es) {e : Addition} (fits : ∀ r, e.record? = some r → r.Fits e.kind)
    (below : ∀ c, e.RefersTo c → c < es.length) :
    (a.add e.kind e.flags e.span e.record?).2.Keeps (es ++ [e]) := by
  obtain ⟨n, nodes, -⟩ := nodes_add a e.kind e.flags e.span e.record?
  exact {
    size := by simp [nodes, h.size]
    sizeParents := by simp [size_parents_add, h.sizeParents]
    node := h.node_add fits
    parent := h.parent_add fits below }

theorem answers (h : a.Keeps es) (fits : ∀ e ∈ es, ∀ r, e.record? = some r → r.Fits e.kind)
    {i : Nat} {e : Addition} (at_i : es[i]? = some e) :
    ∃ n, a.get? i = some n ∧ n.kind = e.kind ∧ n.span = e.span ∧
      ∀ p, a.read p n = e.record?.filter fun r => r.pool = p := by
  obtain ⟨n, found, kind, span, data, record⟩ := h.node i e at_i
  refine ⟨n, found, kind, span, ?_⟩
  intro p
  cases present : e.record? with
  | none =>
    have none : n.data? = none := by
      rw [present] at data
      exact Option.isNone_iff_eq_none.mp (Option.isSome_eq_false_iff.mp data)
    simp [read, none]
  | some r =>
    have form : n.kind.pool? = some r.pool := by
      rw [kind]
      exact (fits e (List.mem_of_getElem? at_i) r present).pool
    rw [recordOf_eq_read, form, present] at record
    by_cases same : r.pool = p
    · subst same
      simpa [Option.filter_some] using record
    · simp [read, form, same, Option.filter_some]

theorem children (h : a.Keeps es) {i : Nat} {e : Addition} (at_i : es[i]? = some e) :
    a.children i = e.fields.reduceOption := by
  obtain ⟨n, found, kind, -, -, record⟩ := h.node i e at_i
  rw [Arena.children, found]
  simp only [record, kind]
  cases present : e.record? with
  | none => simp [Addition.fields, present]
  | some r => simp [Addition.fields, present, Record.childIds_eq_reduceOption]

/-- Of all that refer to a node there is a last one, which is its parent. -/
theorem orphan (h : a.Keeps es) (c : NodeId) :
    a.parent? c = none ↔ ∀ p, ¬ RefersAt es p c := by
  constructor
  · intro orphan p refers
    have bounded (q : Nat) (later : RefersAt es q c) : q ≤ es.length := by
      obtain ⟨e, found, -⟩ := later
      exact Nat.le_of_lt (List.getElem?_eq_some_iff.mp found).1
    classical
    have greatest := Nat.findGreatest_spec (P := fun q => RefersAt es q c) (bounded p refers) refers
    have parent := (h.parent c _).mpr ⟨greatest, ?_⟩
    · rw [orphan] at parent
      cases parent
    · intro q later refers'
      exact Nat.findGreatest_is_greatest later (bounded q refers') refers'
  · intro unlisted
    rw [Option.eq_none_iff_forall_ne_some]
    intro p parent
    exact unlisted p ((h.parent c p).mp parent).1

end Keeps

/-- Every addition returns its own place, and the table keeps them all. -/
theorem keeps_run {names : NameTable} {es : List Addition} (allowed : Allowed names es) :
    (run names es).1 = List.range es.length ∧ (run names es).2.Keeps es ∧
      ∀ p c, RefersAt es p c → c < p := by
  induction es using List.reverseRecOn with
  | nil => exact ⟨rfl, keeps_withNames names, by simp [RefersAt]⟩
  | append_singleton es e ih =>
    obtain ⟨returned, keeps, below⟩ := ih allowed.of_append
    have fits := allowed.fits e (by simp)
    have last : ∀ c, e.RefersTo c → c < es.length := by
      intro c refers
      have earlier := allowed.earlier es.length e (by simp) c refers
      rw [List.take_left, returned] at earlier
      exact List.mem_range.mp earlier
    rw [run_concat]
    refine ⟨?_, keeps.add fits last, ?_⟩
    · rw [returned, size, keeps.size, List.length_append, List.length_singleton, List.range_succ]
    · intro p c refers
      rcases exists_getElem?_concat.mp refers with old | ⟨rfl, new⟩
      · exact below p c old
      · exact last c new

/-- **A table remembers its additions**, whatever was added and however much came later. -/
theorem remembers_run {names : NameTable} {es : List Addition} (allowed : Allowed names es) :
    (run names es).2.Remembers (run names es).1 es := by
  obtain ⟨returned, keeps, below⟩ := keeps_run allowed
  have above (c p : NodeId) (parent : (run names es).2.parent? c = some p) : c < p :=
    below p c ((keeps.parent c p).mp parent).1
  have inside (c p : NodeId) (parent : (run names es).2.parent? c = some p) :
      p < (run names es).2.size := by
    obtain ⟨⟨e, found, -⟩, -⟩ := (keeps.parent c p).mp parent
    rw [size, keeps.size]
    exact (List.getElem?_eq_some_iff.mp found).1
  have climbs (c : NodeId) : (run names es).2.Climbs c ((run names es).2.ancestors c) :=
    climbs_ancestorsWithin above inside (Nat.le_add_right _ c)
  exact {
    returned
    nodes := keeps.size
    slots := keeps.sizeParents.trans keeps.size.symm
    answers := fun _ _ => keeps.answers allowed.fits
    children := fun _ _ => keeps.children
    parent := keeps.parent
    orphan := keeps.orphan
    above
    climbs
    increasing := fun c => (climbs c).increasing above }

/-- A name that a statement, a block and a loop that tests last refer to, one after the other. -/
def sharing : List Addition :=
  [⟨.token .identifier, .none, ⟨0, 1⟩, some (.identifier 0)⟩,
    ⟨.expressionStatement, .none, ⟨0, 1⟩, some (.wrapped (some 0))⟩,
    ⟨.block, .none, ⟨0, 1⟩, some (.block [some 1, none, some 0])⟩,
    ⟨.doStatement, .none, ⟨0, 1⟩, some (.loop none (some 0) none (some 2))⟩]

/-- The name belongs to the loop, whose body comes first. -/
theorem remembers_run_sharing : Allowed .empty sharing ∧
    (run .empty sharing).2.Remembers (run .empty sharing).1 sharing ∧
    (run .empty sharing).2.parent? 0 = some 3 ∧ (run .empty sharing).2.children 3 = [2, 0] := by
  have allowed : Allowed .empty sharing := by
    refine ⟨?_, ?_⟩
    · intro e mem r present
      simp only [sharing, List.mem_cons, List.not_mem_nil, or_false] at mem
      rcases mem with rfl | rfl | rfl | rfl
      all_goals
        obtain rfl := Option.some.inj present
        refine ⟨rfl, ?_⟩
        rintro initializer condition incrementor body - form
        cases form
      exact ⟨rfl, rfl⟩
    · intro i e found c refers
      match i, found with
      | 0, found =>
        obtain rfl := Option.some.inj found
        simp [RefersTo, Addition.fields, Record.fields] at refers
      | 1, found =>
        obtain rfl := Option.some.inj found
        obtain rfl : c = 0 := by simpa [RefersTo, Addition.fields, Record.fields] using refers
        decide
      | 2, found =>
        obtain rfl := Option.some.inj found
        obtain rfl | rfl : c = 1 ∨ c = 0 := by
          simpa [RefersTo, Addition.fields, Record.fields] using refers
        all_goals decide
      | 3, found =>
        obtain rfl := Option.some.inj found
        obtain rfl | rfl : c = 2 ∨ c = 0 := by
          simpa [RefersTo, Addition.fields, Record.fields] using refers
        all_goals decide
  exact ⟨allowed, remembers_run allowed, by decide, by decide⟩

end Arena

end Shapewire
