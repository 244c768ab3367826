/-
Trees at the end of a table that are not yet attached.

While a source is read its table holds the nodes of trees that are not yet part of a greater one.
They lie one behind the other at its end, and what the parsers keep of them are the places of their
roots (`Pending`, `PendingOption`, `PendingList`).

A record that refers to all of them, in the order in which they lie (`PendingRecord`), makes one
tree of them: adding its node puts the root behind the parts and at the place that is handed on
(`PendingRecord.pending_add`).  A part that the record left out would stay in the table, and what
lies there then would not be the nodes of the tree alone.

The roots of pending trees have no parent yet, and of all nodes that were added with them they are
the only ones (`Arena.attaches_grow`).
-/
import Shapewire.Proofs.Tree.Layout

namespace Shapewire

namespace Arena

/-! ### Growing -/

/-- The table with the nodes of neighbouring trees behind its own. -/
def grow (a : Arena) (ts : List Tree) : Arena := (Tree.entriesOf a.size ts).foldl addEntry a

theorem size_add (a : Arena) (kind : NodeKind) (flags : NodeFlags) (span : Span)
    (r? : Option NodeRecord) : (a.add kind flags span r?).2.size = a.size + 1 := by
  obtain ⟨n, nodes, -⟩ := nodes_add a kind flags span r?
  rw [size, nodes, Array.size_push]
  rfl

theorem size_foldl_addEntry (a : Arena) (es : List Entry) :
    (es.foldl addEntry a).size = a.size + es.length := by
  induction es generalizing a with
  | nil => rfl
  | cons e es ih =>
    obtain ⟨names, r?, -, -, added⟩ := exists_addEntry_eq a e
    rw [List.foldl_cons, ih, added, size_add, List.length_cons, Nat.add_right_comm, Nat.add_assoc]
    rfl

theorem size_grow (a : Arena) (ts : List Tree) :
    (a.grow ts).size = a.size + Tree.totalSize ts := by
  rw [grow, size_foldl_addEntry, Tree.length_entriesOf]

@[simp] theorem grow_nil (a : Arena) : a.grow [] = a := by
  rw [grow, Tree.entriesOf]
  rfl

theorem grow_append (a : Arena) (ts us : List Tree) : a.grow (ts ++ us) = (a.grow ts).grow us := by
  rw [grow, Tree.entriesOf_append, List.foldl_append, ← size_grow]
  rfl

/-- The nodes of a tree are those of its children with the root behind them. -/
theorem grow_singleton (a : Arena) (t : Tree) :
    a.grow [t] = (a.grow t.children).addEntry (t.entry a.size) := by
  rw [grow, Tree.entriesOf, Tree.entriesOf, List.append_nil, Tree.entries, List.foldl_append]
  rfl

end Arena

/-! ### Trees at the end of a table -/

/-- The nodes of a tree lie behind those of `a`, its root last, and the table is `b`. -/
structure Pending (a : Arena) (t : Tree) (root : NodeId) (b : Arena) : Prop where
  grown : b = a.grow [t]
  /-- The root is the last node. -/
  last : root + 1 = b.size

/-- The same of a tree that may be missing. -/
inductive PendingOption (a : Arena) : Option Tree → Option NodeId → Arena → Prop where
  | none : PendingOption a none none a
  | some {t : Tree} {root : NodeId} {b : Arena} (part : Pending a t root b) :
    PendingOption a (some t) (some root) b

/-- The same of trees that lie one behind the other. -/
inductive PendingList : Arena → List Tree → List NodeId → Arena → Prop where
  | nil {a : Arena} : PendingList a [] [] a
  | cons {a b c : Arena} {t : Tree} {root : NodeId} {ts : List Tree} {roots : List NodeId}
    (first : Pending a t root b) (rest : PendingList b ts roots c) :
    PendingList a (t :: ts) (root :: roots) c

/-- What the slots of a record hold lies one behind the other, in the order of the source, and the
same record refers to it by the places of the roots. -/
inductive PendingRecord : NodeKind → Arena → Record Tree (Option Tree) String →
    Record NodeId (Option NodeId) Atom → Arena → Prop where
  | literal : PendingRecord kind a (.literal text) (.literal text) a
  | binary (left : Pending a l i b) (right : Pending b r j c) :
    PendingRecord kind a (.binary l o r) (.binary i o j) c
  | unary (operand : Pending a t i b) : PendingRecord kind a (.unary o t) (.unary o i) b
  | call (callee : Pending a t i b) (arguments : PendingList b us is c) :
    PendingRecord kind a (.call t (some us)) (.call i (some is)) c
  | bareCall (callee : Pending a t i b) : PendingRecord kind a (.call t none) (.call i none) b
  | access (object : Pending a t i b) (name : Pending b u j c) :
    PendingRecord kind a (.access t u chained) (.access i j chained) c
  | conditional (condition : Pending a t i b) (whenTrue : Pending b u j c)
    (whenFalse : Pending c v k d) :
    PendingRecord kind a (.conditional t u v) (.conditional i j k) d
  | wrapped (expression : PendingOption a t? i? b) :
    PendingRecord kind a (.wrapped t?) (.wrapped i?) b
  | template (expressions : PendingList a us is b) :
    PendingRecord kind a (.template texts us) (.template texts is) b
  | taggedTemplate (tag : Pending a t i b) (body : Pending b u j c) :
    PendingRecord kind a (.taggedTemplate t u) (.taggedTemplate i j) c
  | elements (items : PendingList a us is b) : PendingRecord kind a (.elements us) (.elements is) b
  | property (name : Pending a t i b) (initializer : Pending b u j c) :
    PendingRecord kind a (.property t u) (.property i j) c
  | shorthand (name : Pending a t i b) : PendingRecord kind a (.shorthand t) (.shorthand i) b
  | function (name : PendingOption a t? i? b) (parameters : PendingList b us is c)
    (body : Pending c v k d) :
    PendingRecord kind a (.function t? us v arrow) (.function i? is k arrow) d
  | parameter (name : Pending a t i b) (initializer : PendingOption b u? j? c) :
    PendingRecord kind a (.parameter rest t u?) (.parameter rest i j?) c
  | sourceFile (statements : PendingList a us is b) :
    PendingRecord kind a (.sourceFile file us) (.sourceFile file is) b
  | block (statements : PendingList a us is b) : PendingRecord kind a (.block us) (.block is) b
  | declarationList (declarations : PendingList a us is b) :
    PendingRecord kind a (.declarationList us) (.declarationList is) b
  | declaration (name : Pending a t i b) (initializer : PendingOption b u? j? c) :
    PendingRecord kind a (.declaration t u?) (.declaration i j?) c
  | branch (condition : Pending a t i b) (whenTrue : Pending b u j c)
    (whenFalse : PendingOption c v? k? d) :
    PendingRecord kind a (.branch t u v?) (.branch i j k?) d
  /-- A loop that tests last has its condition behind its body, and no other part. -/
  | testsLast (body : Pending a t i b) (condition : PendingOption b u? j? c) :
    PendingRecord .doStatement a (.loop none u? none t) (.loop none j? none i) c
  | loop (testsFirst : kind ≠ .doStatement) (initializer : PendingOption a t? i? b)
    (condition : PendingOption b u? j? c) (incrementor : PendingOption c v? k? d)
    (body : Pending d w l e) :
    PendingRecord kind a (.loop t? u? v? w) (.loop i? j? k? l) e
  | iteration (binding : Pending a t i b) (subject : Pending b u j c) (body : Pending c v k d) :
    PendingRecord kind a (.iteration t u v) (.iteration i j k) d
  | attempt (body : Pending a t i b) (onFault : PendingOption b u? j? c)
    (finalizer : PendingOption c v? k? d) :
    PendingRecord kind a (.attempt t u? v?) (.attempt i j? k?) d
  | handler (name : PendingOption a t? i? b) (body : Pending b u j c) :
    PendingRecord kind a (.handler t? u) (.handler i? j) c
  | jump (label : PendingOption a t? i? b) : PendingRecord kind a (.jump t?) (.jump i?) b
  | switch (subject : Pending a t i b) (clauses : PendingList b us is c) :
    PendingRecord kind a (.switch t us) (.switch i is) c
  | clause (test : PendingOption a t? i? b) (statements : PendingList b us is c) :
    PendingRecord kind a (.clause t? us) (.clause i? is) c
  | labeled (label : Pending a t i b) (statement : Pending b u j c) :
    PendingRecord kind a (.labeled t u) (.labeled i j) c

variable {a b : Arena} {t : Tree} {root : NodeId}

namespace Pending

variable (pending : Pending a t root b)

include pending

theorem size_eq : b.size = a.size + t.size := by
  rw [pending.grown, Arena.size_grow, Tree.totalSize_cons, Tree.totalSize_nil, Nat.add_zero]

/-- The root is found where the sizes of the trees before it say. -/
theorem root_eq : root = a.size + t.size - 1 := by
  rw [← pending.size_eq, ← pending.last]
  rfl

theorem placed : t.place a.size = (some root, b.size) := by
  rw [pending.root_eq, pending.size_eq]
  rfl

end Pending

namespace PendingOption

variable {t? : Option Tree} {root? : Option NodeId} (pending : PendingOption a t? root? b)

include pending

theorem grown : b = a.grow t?.toList := by
  cases pending with
  | none => exact a.grow_nil.symm
  | some part => exact part.grown

theorem placed : Tree.place? t? a.size = (root?, b.size) := by
  cases pending with
  | none => rfl
  | some part => exact part.placed

end PendingOption

namespace PendingList

variable {ts : List Tree} {roots : List NodeId} (pending : PendingList a ts roots b)

include pending

theorem grown : b = a.grow ts := by
  induction pending with
  | nil => exact (Arena.grow_nil _).symm
  | cons first _ ih => rw [← List.singleton_append, Arena.grow_append, ← first.grown, ih]

theorem placed :
    (ts.mapM Tree.place : StateM Nat (List NodeRef)) a.size = (roots.map some, b.size) := by
  induction pending with
  | nil => rfl
  | cons first _ ih =>
    rw [List.mapM_cons, Record.bind_apply, first.placed, Record.bind_apply, ih]
    rfl

end PendingList

namespace PendingRecord

variable {kind : NodeKind} {flags : NodeFlags} {span : Span}
  {r : Record Tree (Option Tree) String} {r' : Record NodeId (Option NodeId) Atom}

/-- The pending trees are the children of the node that is to be added. -/
theorem grown (pending : PendingRecord kind a r r' b) :
    b = a.grow (r.children kind (fun c => [c]) Option.toList) := by
  cases pending <;>
    grind [Record.children, Arena.grow_nil, Arena.grow_append, List.flatMap_singleton',
      → Pending.grown, → PendingOption.grown, → PendingList.grown]

/-- The record refers to the children at their places. -/
theorem placed (pending : PendingRecord kind a r r' b) :
    (r.mapM kind Tree.place Tree.place? (fun _ => 0) : StateM Nat NodeRecord) a.size
      = (r'.map some id id, b.size) := by
  cases pending with
  | testsLast body condition =>
    simp only [Record.mapM, if_true, Record.bind_apply, body.placed, condition.placed]
    rfl
  | loop testsFirst initializer condition incrementor body =>
    simp only [Record.mapM, if_neg testsFirst, Record.bind_apply, initializer.placed,
      condition.placed, incrementor.placed, body.placed]
    rfl
  | literal => rfl
  | _ =>
    simp only [Record.mapM, Record.bind_apply, Record.pure_apply, Record.map]
    grind [→ Pending.placed, → PendingOption.placed, → PendingList.placed]

theorem flags_eq (pending : PendingRecord kind a r r' b) : r.flags = r'.flags := by
  cases pending <;> rfl

theorem ne_identifier (pending : PendingRecord kind a r r' b) (name : String) :
    r ≠ .identifier name := by
  cases pending <;> nofun

/-- **A node that refers to all pending trees makes one tree of them.** -/
theorem pending_add (pending : PendingRecord kind a r r' b) :
    Pending a (.node kind flags span (some r)) b.size
      (b.add kind flags span (some (r'.map some id id))).2 where
  grown := by
    have nameless := Record.placed_ne_identifier pending.ne_identifier kind a.size
    have entry : (Tree.node kind flags span (some r)).entry a.size
        = ⟨kind, flags, span, some (r.placed kind a.size)⟩ := rfl
    rw [Arena.grow_singleton, entry, Arena.addEntry_nameless _ nameless, Record.rename_placed,
      pending.placed]
    show _ = ((a.grow (r.children kind (fun c => [c]) Option.toList)).add kind flags span _).2
    rw [← pending.grown]
  last := (Arena.size_add ..).symm

end PendingRecord

/-- A node without a record is a tree of its own. -/
theorem pending_leaf (a : Arena) (kind : NodeKind) (flags : NodeFlags) (span : Span) :
    Pending a (.node kind flags span none) a.size (a.add kind flags span none).2 where
  grown := by
    rw [Arena.grow_singleton]
    show _ = ((a.grow []).add kind flags span none).2
    rw [Arena.grow_nil]
  last := (Arena.size_add ..).symm

/-- An identifier is a tree of its own, once its name has been entered. -/
theorem pending_identifier (a : Arena) (name : String) (kind : NodeKind) (flags : NodeFlags)
    (span : Span) : Pending a (.node kind flags span (some (.identifier name))) a.size
      (({ a with names := (a.names.intern name).2 } : Arena).add kind flags span
        (some (.identifier (a.names.intern name).1))).2 where
  grown := by
    rw [Arena.grow_singleton]
    show _ = (a.grow []).addEntry ⟨kind, flags, span, some (.identifier name)⟩
    rw [Arena.grow_nil]
    rfl
  last := (Arena.size_add { a with names := (a.names.intern name).2 } ..).symm

/-! ### Nodes without a parent -/

namespace Arena

/-- There is a slot for the parent of every node. -/
def Slotted (a : Arena) : Prop := a.parents.size = a.size

/-- The table `b` has more nodes than `a`.  Those that were there keep their parents, and of the
others just the roots have none. -/
structure Attaches (a b : Arena) (roots : List NodeId) : Prop where
  slotted : b.Slotted
  size_le : a.size ≤ b.size
  kept : ∀ i, i < a.size → b.parent? i = a.parent? i
  fresh : ∀ i ∈ roots, a.size ≤ i ∧ i < b.size
  orphan : ∀ i, a.size ≤ i → i < b.size → (b.parent? i = none ↔ i ∈ roots)

namespace Attaches

variable {a b c : Arena} {roots roots' : List NodeId}

theorem refl (slotted : a.Slotted) : a.Attaches a [] where
  slotted := slotted
  size_le := Nat.le_refl _
  kept _ _ := rfl
  fresh := by simp
  orphan i low high := absurd low (Nat.not_le_of_lt high)

theorem trans (h : a.Attaches b roots) (h' : b.Attaches c roots') :
    a.Attaches c (roots ++ roots') where
  slotted := h'.slotted
  size_le := Nat.le_trans h.size_le h'.size_le
  kept i before := by
    rw [h'.kept i (Nat.lt_of_lt_of_le before h.size_le), h.kept i before]
  fresh i mem := by
    rcases List.mem_append.mp mem with mem | mem
    · exact ⟨(h.fresh i mem).1, Nat.lt_of_lt_of_le (h.fresh i mem).2 h'.size_le⟩
    · exact ⟨Nat.le_trans h.size_le (h'.fresh i mem).1, (h'.fresh i mem).2⟩
  orphan i low high := by
    rw [List.mem_append]
    by_cases before : i < b.size
    · have later : i ∉ roots' := fun mem => Nat.not_le_of_lt before (h'.fresh i mem).1
      rw [h'.kept i before, h.orphan i low before]
      simp [later]
    · have earlier : i ∉ roots := fun mem => before (h.fresh i mem).2
      rw [h'.orphan i (Nat.not_lt.mp before) high]
      simp [earlier]

/-- A node that refers to all roots, and to no other node, is the only one left without a parent. -/
theorem addEntry (h : a.Attaches b roots) {e : Entry} (links : e.links.Perm roots) :
    a.Attaches (b.addEntry e) [b.size] := by
  obtain ⟨names, r?, -, named, added⟩ := exists_addEntry_eq b e
  have size : (b.addEntry e).size = b.size + 1 := by rw [added, size_add]; rfl
  have parent (i : NodeId) :
      (b.addEntry e).parent? i = if i ∈ roots then some b.size else b.parent? i := by
    have same := Entry.links_of_rename (named _ (.refl _))
    rw [added, parent?_add, same]
    · simp only [links.mem_iff]
      rfl
    · intro mem
      rw [same, links.mem_iff] at mem
      show i < b.parents.size
      rw [h.slotted]
      exact (h.fresh i mem).2
  have last : b.parent? b.size = none := by
    rw [parent?, ← h.slotted]
    simp
  exact {
    slotted := by
      rw [Slotted, size, added, size_parents_add]
      exact congrArg (· + 1) h.slotted
    size_le := by
      rw [size]
      exact Nat.le_succ_of_le h.size_le
    kept := by
      intro i before
      rw [parent, if_neg fun mem => Nat.not_le_of_lt before (h.fresh i mem).1, h.kept i before]
    fresh := by
      intro i mem
      rw [List.mem_singleton.mp mem, size]
      exact ⟨h.size_le, Nat.lt_succ_self _⟩
    orphan := by
      intro i low high
      rw [size] at high
      rw [parent, List.mem_singleton]
      rcases Nat.lt_succ_iff_lt_or_eq.mp high with before | rfl
      · by_cases mem : i ∈ roots
        · simp [mem, Nat.ne_of_lt before]
        · simp [mem, h.orphan i low before, Nat.ne_of_lt before]
      · have outside : b.size ∉ roots := fun mem => Nat.lt_irrefl _ (h.fresh _ mem).2
        simp [outside, last] }

end Attaches

/-- **Of the nodes of trees that were put into a table just the roots have no parent.** -/
theorem attaches_grow {a : Arena} (slotted : a.Slotted) {ts : List Tree}
    (formed : ∀ t ∈ ts, t.Formed) : a.Attaches (a.grow ts) (Record.places a.size ts) := by
  -- One tree after the other, if each alone is put in like this.
  have row (ts : List Tree) (each : ∀ t ∈ ts, ∀ a : Arena, a.Slotted →
      a.Attaches (a.grow [t]) [a.size + t.size - 1]) (a : Arena) (slotted : a.Slotted) :
      a.Attaches (a.grow ts) (Record.places a.size ts) := by
    induction ts generalizing a with
    | nil =>
      rw [grow_nil]
      exact .refl slotted
    | cons t ts ih =>
      have first := each t List.mem_cons_self a slotted
      have rest := ih (fun t mem => each t (List.mem_cons_of_mem _ mem)) _ first.slotted
      have size : (a.grow [t]).size = a.size + t.size := by
        rw [size_grow, Tree.totalSize_cons, Tree.totalSize_nil, Nat.add_zero]
      rw [size] at rest
      rw [← List.singleton_append, grow_append]
      exact first.trans rest
  refine row ts (fun t mem => ?_) a slotted
  have formed := formed t mem
  clear mem
  induction t using Tree.byChildren with
  | step t ih =>
    intro a slotted
    have each (c : Tree) (child : c ∈ t.children) := ih c child (formed.of_mem_children child)
    have below := row t.children each a slotted
    have root : a.size + t.size - 1 = (a.grow t.children).size := by
      have := t.size_eq
      rw [size_grow]
      omega
    rw [grow_singleton, root]
    exact below.addEntry (Site.links_entry (s := ⟨a.size, t⟩) formed.fits)

end Arena

/-- The root of a pending tree is the only one of its nodes without a parent. -/
theorem Pending.attaches (pending : Pending a t root b) (slotted : a.Slotted) (formed : t.Formed) :
    a.Attaches b [root] := by
  rw [pending.grown, pending.root_eq]
  exact Arena.attaches_grow slotted (List.forall_mem_singleton.mpr formed)

end Shapewire
