/-
What the analyses read off a node, in terms of the tree.

The analyses ask a node table small questions: what an identifier is called, which member of what
a node accesses, which names a function's parameters have.  Each has an answer on the tree alone,
and the two agree at every node of the table of a formed tree.

A record answers through one slot or two, so each question is split in two: what the record has
in those slots, which neither laying out nor naming changes but for the places, and what lies at
those places, which is a child of the site.
-/
import Shapewire.Analysis.Callable
import Shapewire.Analysis.SelfState
import Shapewire.Proofs.Tree.Source

namespace Shapewire

namespace Record

variable {ρ ο ν ν' : Type}

/-- The name of an identifier. -/
def name? : Record ρ ο ν → Option ν
  | identifier name => some name
  | _ => none

/-- The object and the name of an access. -/
def access? : Record ρ ο ν → Option (ρ × ρ)
  | access object name _ => some (object, name)
  | _ => none

/-- What a call calls. -/
def callee? : Record ρ ο ν → Option ρ
  | call callee _ => some callee
  | _ => none

/-- The name of a parameter. -/
def parameterName? : Record ρ ο ν → Option ρ
  | parameter _ name _ => some name
  | _ => none

/-- The name, if any, and the parameters of a function. -/
def signature? : Record ρ ο ν → Option (ο × List ρ)
  | function name parameters _ _ => some (name, parameters)
  | _ => none

section rename

variable (f : ν → ν') (r : Record ρ ο ν)

/-- Whatever is read, renaming changes it only in the name. -/
theorem read_rename : (r.rename f).name? = r.name?.map f ∧ (r.rename f).access? = r.access? ∧
    (r.rename f).callee? = r.callee? ∧ (r.rename f).parameterName? = r.parameterName? ∧
    (r.rename f).signature? = r.signature? := by
  cases r
  case call callee arguments => cases arguments <;> exact ⟨rfl, rfl, rfl, rfl, rfl⟩
  case function name parameters body arrow =>
    refine ⟨rfl, rfl, rfl, rfl, ?_⟩
    simp [rename, mapM, signature?, mapM_pure]
  all_goals exact ⟨rfl, rfl, rfl, rfl, rfl⟩

theorem name?_rename : (r.rename f).name? = r.name?.map f := (r.read_rename f).1

theorem access?_rename : (r.rename f).access? = r.access? := (r.read_rename f).2.1

theorem callee?_rename : (r.rename f).callee? = r.callee? := (r.read_rename f).2.2.1

theorem parameterName?_rename : (r.rename f).parameterName? = r.parameterName? :=
  (r.read_rename f).2.2.2.1

theorem signature?_rename : (r.rename f).signature? = r.signature? := (r.read_rename f).2.2.2.2

end rename

section placed

variable (kind : NodeKind) (start : Nat) (r : Record Tree (Option Tree) String)

/-- Whatever is read, laying out puts the places of the subtrees for the subtrees. -/
theorem read_placed : (r.placed kind start).name? = r.name? ∧
    (r.placed kind start).access? = r.access?.map (fun (object, name) =>
      (some (Site.id ⟨start, object⟩), some (Site.id ⟨start + object.size, name⟩))) ∧
    (r.placed kind start).callee? = r.callee?.map (fun callee => some (Site.id ⟨start, callee⟩)) ∧
    (r.placed kind start).parameterName?
      = r.parameterName?.map (fun name => some (Site.id ⟨start, name⟩)) ∧
    (r.placed kind start).signature? = r.signature?.map (fun (name, ps) =>
      ((places start name.toList).head?,
        (places (start + Tree.totalSize name.toList) ps).map some)) := by
  cases r
  case call callee arguments => cases arguments <;> exact ⟨rfl, rfl, rfl, rfl, rfl⟩
  case loop =>
    -- The children of a loop are in the order of its kind, but nothing is read off a loop.
    by_cases last : kind = .doStatement
    all_goals
      simp only [placed, mapM, last, if_true, if_false]
      exact ⟨rfl, rfl, rfl, rfl, rfl⟩
  case function name parameters body arrow =>
    refine ⟨rfl, rfl, rfl, rfl, ?_⟩
    simp [placed, mapM, signature?, bind_apply, map_apply, mapM_place]
  all_goals exact ⟨rfl, rfl, rfl, rfl, rfl⟩

theorem name?_placed : (r.placed kind start).name? = r.name? := (r.read_placed kind start).1

theorem access?_placed : (r.placed kind start).access? = r.access?.map fun (object, name) =>
    (some (Site.id ⟨start, object⟩), some (Site.id ⟨start + object.size, name⟩)) :=
  (r.read_placed kind start).2.1

theorem callee?_placed :
    (r.placed kind start).callee? = r.callee?.map fun callee => some (Site.id ⟨start, callee⟩) :=
  (r.read_placed kind start).2.2.1

theorem parameterName?_placed : (r.placed kind start).parameterName?
    = r.parameterName?.map fun name => some (Site.id ⟨start, name⟩) :=
  (r.read_placed kind start).2.2.2.1

theorem signature?_placed : (r.placed kind start).signature? = r.signature?.map fun (name, ps) =>
    ((places start name.toList).head?,
      (places (start + Tree.totalSize name.toList) ps).map some) :=
  (r.read_placed kind start).2.2.2.2

end placed

end Record

/-! ### Questions to a tree -/

namespace Tree

/-- The name of an identifier. -/
def identifierText? (t : Tree) : Option String := t.record?.bind Record.name?

/-- The object and the name of a member access that is not computed. -/
def memberAccess? (t : Tree) : Option (Tree × String) :=
  if t.kind == .propertyAccess then
    (t.record?.bind Record.access?).bind fun (object, name) =>
      name.identifierText?.map fun text => (object, text)
  else none

/-- Whether the tree is the prototype of a type named by an identifier. -/
def isPrototype (t : Tree) : Bool :=
  match t.memberAccess? with
  | some (owner, name) => name == "prototype" && owner.kind == .token .identifier
  | none => false

/-- The name under which the tree reaches the instance's own state. -/
def selfStateName? (t : Tree) : Option String :=
  match t.memberAccess? with
  | some (object, name) =>
    if object.kind == .token .thisKeyword || object.isPrototype then some name else none
  | none => none

/-- The name of a parameter, if it is one and is named by an identifier. -/
def parameterName? (t : Tree) : Option String :=
  (t.record?.bind Record.parameterName?).bind identifierText?

/-- The names of the parameters of a function, in declaration order. -/
def parameterNames (t : Tree) : List String :=
  ((t.record?.bind Record.signature?).map fun (_, parameters) =>
    parameters.filterMap parameterName?).getD []

/-- A tree and all within it, each before the ones within itself. -/
def preorder (t : Tree) : List Tree :=
  t :: t.children.attach.flatMap fun ⟨c, _⟩ => c.preorder
termination_by sizeOf t
decreasing_by exact sizeOf_lt_of_mem_children ‹_›

theorem preorder_eq (t : Tree) : t.preorder = t :: t.children.flatMap preorder := by
  rw [preorder]
  congr 1
  conv => rhs; rw [← t.children.attach_map_subtype_val, List.flatMap_map]

/-- The first function of any form. -/
def firstFunction? (t : Tree) : Option Tree := t.preorder.find? fun u => u.kind.isFunction

end Tree

namespace Arena

/-! ### The same questions to a table -/

variable (a : Arena) (id : NodeId)

theorem identifierText?_eq :
    a.identifierText? id = ((a.record? id).bind Record.name?).map a.names.resolve := by
  unfold identifierText?
  cases a.record? id with
  | none => rfl
  | some r => cases r <;> rfl

theorem memberAccess?_eq : a.memberAccess? id =
    if a.kindIs (· == .propertyAccess) id then
      ((a.record? id).bind Record.access?).bind fun (object, name) =>
        (name.bind a.identifierText?).map fun text => (object, text)
    else none := by
  unfold memberAccess? kindIs record?
  cases a.get? id with
  | none => rfl
  | some n =>
    by_cases access : n.kind == .propertyAccess
    · simp only [access, Option.bind_eq_bind, Option.bind_some, Option.any_some, if_true, guard]
      cases a.recordOf n with
      | none => rfl
      | some r =>
        cases r
        case access object name optional =>
          cases name with
          | none => rfl
          | some name =>
            simp only [Record.access?, Option.bind_some]
            cases a.identifierText? name <;> rfl
        all_goals rfl
    · have other : n.kind ≠ .propertyAccess := by simpa using access
      simp [other, guard]

theorem parameterName?_eq (ref : NodeRef) : a.parameterName? ref =
    ((ref.bind a.record?).bind Record.parameterName?).bind fun name =>
      name.bind a.identifierText? := by
  unfold parameterName?
  cases ref.bind a.record? with
  | none => rfl
  | some r => cases r <;> rfl

theorem parameterNames_eq : a.parameterNames id =
    (((a.record? id).bind Record.signature?).map fun (_, parameters) =>
      parameters.filterMap a.parameterName?).getD [] := by
  unfold parameterNames
  cases a.record? id with
  | none => rfl
  | some r => cases r <;> rfl

end Arena

namespace Site

/-! ### Where the slots lie -/

variable {x : Site}

/-- The children of a site whose tree has a record. -/
theorem children_of_record? {r : Record Tree (Option Tree) String} (h : x.tree.record? = some r) :
    x.children = row x.start (r.children x.tree.kind (fun c => [c]) Option.toList) := by
  rw [children, Tree.children, h]

theorem children_of_access? {object name : Tree}
    (h : x.tree.record?.bind Record.access? = some (object, name)) :
    x.children = [⟨x.start, object⟩, ⟨x.start + object.size, name⟩] := by
  obtain ⟨r, found, access⟩ := Option.bind_eq_some_iff.mp h
  cases r <;> cases access
  exact children_of_record? found

theorem exists_children_of_callee? {callee : Tree}
    (h : x.tree.record?.bind Record.callee? = some callee) :
    ∃ rest, x.children = ⟨x.start, callee⟩ :: row (x.start + callee.size) rest := by
  obtain ⟨r, found, called⟩ := Option.bind_eq_some_iff.mp h
  cases r <;> cases called
  exact ⟨_, children_of_record? found⟩

theorem mem_children_of_parameterName? {name : Tree}
    (h : x.tree.record?.bind Record.parameterName? = some name) : ⟨x.start, name⟩ ∈ x.children := by
  obtain ⟨r, found, parameter⟩ := Option.bind_eq_some_iff.mp h
  cases r <;> cases parameter
  rw [children_of_record? found]
  exact List.mem_cons_self

theorem row_append (start : Nat) (ts us : List Tree) :
    row start (ts ++ us) = row start ts ++ row (start + Tree.totalSize ts) us := by
  induction ts generalizing start with
  | nil => rfl
  | cons t ts ih => rw [List.cons_append, row, row, ih, Tree.totalSize_cons, Nat.add_assoc]; rfl

theorem mem_children_of_signature? {name : Option Tree} {parameters : List Tree}
    (h : x.tree.record?.bind Record.signature? = some (name, parameters)) {y : Site}
    (mem : y ∈ row (x.start + Tree.totalSize name.toList) parameters) : y ∈ x.children := by
  obtain ⟨r, found, signature⟩ := Option.bind_eq_some_iff.mp h
  cases r <;> cases signature
  rw [children_of_record? found]
  simp only [Record.children, List.flatMap_singleton', row_append]
  exact List.mem_append_left _ (List.mem_append_right _ mem)

end Site

namespace Tree

/-! ### The answers agree -/

section agree

variable {t : Tree} (formed : t.Formed) {x : Site} (mem : x ∈ t.sites)

include formed mem

/-- A reader of records that does not mind names reads at a place what it reads in the tree, with
the places of the subtrees for the subtrees. -/
theorem bind_record_ofTree {α β : Type} {read : NodeRecord → Option α}
    {named : Record NodeRef NodeRef String → Option α}
    {own : Record Tree (Option Tree) String → Option β} {f : β → α}
    (same : ∀ r, named (r.rename (Arena.ofTree t).names.resolve) = read r)
    (moved : ∀ r, named (r.placed x.tree.kind x.start) = (own r).map f) :
    ((Arena.ofTree t).record? x.id).bind read = (x.tree.record?.bind own).map f := by
  have record := congrArg (Option.bind · named) (record_ofTree formed mem)
  simp only [Option.bind_map] at record
  rw [← (funext same : named ∘ Record.rename (Arena.ofTree t).names.resolve = read), record,
    Option.map_bind]
  exact congrArg (Option.bind x.tree.record?) (funext moved)

theorem identifierText?_ofTree :
    (Arena.ofTree t).identifierText? x.id = x.tree.identifierText? := by
  have record : ((Arena.ofTree t).record? x.id).bind
      (fun r => r.name?.map (Arena.ofTree t).names.resolve) = x.tree.identifierText?.map id :=
    bind_record_ofTree formed mem (Record.name?_rename _) fun r => by
      rw [Record.name?_placed, Option.map_id, id]
  rw [Arena.identifierText?_eq, Option.map_bind]
  rwa [Option.map_id] at record

theorem memberAccess?_ofTree : (Arena.ofTree t).memberAccess? x.id
    = x.tree.memberAccess?.map fun (object, text) => (some (Site.id ⟨x.start, object⟩), text) := by
  rw [Arena.memberAccess?_eq, kindIs_ofTree formed mem, memberAccess?,
    bind_record_ofTree formed mem (Record.access?_rename _) (Record.access?_placed _ _)]
  by_cases access : x.tree.kind == .propertyAccess
  · rw [if_pos access, if_pos access]
    cases slots : x.tree.record?.bind Record.access? with
    | none => rfl
    | some both =>
      obtain ⟨object, name⟩ := both
      have inside : ⟨x.start + object.size, name⟩ ∈ t.sites := by
        refine Site.mem_postorder_of_child mem ?_
        rw [Site.children_of_access? slots]
        exact List.mem_cons_of_mem _ List.mem_cons_self
      simp only [Option.map_some, Option.bind_some, Option.map_map,
        identifierText?_ofTree formed inside]
      rfl
  · rw [if_neg access, if_neg access]
    rfl

omit formed mem in
theorem mem_children_of_memberAccess? {object : Tree} {name : String}
    (h : x.tree.memberAccess? = some (object, name)) : ⟨x.start, object⟩ ∈ x.children := by
  unfold memberAccess? at h
  split at h
  · obtain ⟨⟨object', name'⟩, slots, named⟩ := Option.bind_eq_some_iff.mp h
    obtain ⟨text, -, is⟩ := Option.map_eq_some_iff.mp named
    cases is
    rw [Site.children_of_access? slots]
    exact List.mem_cons_self
  · cases h

omit formed in
/-- The object of an access lies at a place of its own. -/
theorem object_mem_sites {object : Tree} {name : String}
    (h : x.tree.memberAccess? = some (object, name)) : ⟨x.start, object⟩ ∈ t.sites :=
  Site.mem_postorder_of_child mem (mem_children_of_memberAccess? h)

theorem isPrototype_ofTree : (Arena.ofTree t).isPrototype x.id = x.tree.isPrototype := by
  rw [Arena.isPrototype, memberAccess?_ofTree formed mem, isPrototype]
  cases access : x.tree.memberAccess? with
  | none => rfl
  | some both =>
    obtain ⟨owner, name⟩ := both
    have inside := object_mem_sites mem access
    simp only [Option.map_some]
    rw [Arena.isIdentifier, kindIs_ofTree formed inside]

theorem selfStateName?_ofTree :
    (Arena.ofTree t).selfStateName? x.id = x.tree.selfStateName? := by
  rw [Arena.selfStateName?, memberAccess?_ofTree formed mem, selfStateName?]
  cases access : x.tree.memberAccess? with
  | none => rfl
  | some both =>
    obtain ⟨object, name⟩ := both
    have inside := object_mem_sites mem access
    simp only [Option.map_some, Option.bind_eq_bind, Option.bind_some]
    rw [Arena.isThis, kindIs_ofTree formed inside, isPrototype_ofTree formed inside]

theorem parameterName?_ofTree :
    (Arena.ofTree t).parameterName? (some x.id) = x.tree.parameterName? := by
  rw [Arena.parameterName?_eq, Option.bind_some, parameterName?,
    bind_record_ofTree formed mem (Record.parameterName?_rename _)
      (Record.parameterName?_placed _ _)]
  cases named : x.tree.record?.bind Record.parameterName? with
  | none => rfl
  | some name =>
    have inside : ⟨x.start, name⟩ ∈ t.sites :=
      Site.mem_postorder_of_child mem (Site.mem_children_of_parameterName? named)
    exact identifierText?_ofTree formed inside

omit mem in
theorem filterMap_parameterName? {start : Nat} {ps : List Tree}
    (inside : ∀ y ∈ Site.row start ps, y ∈ t.sites) :
    ((Record.places start ps).map some).filterMap (Arena.ofTree t).parameterName?
      = ps.filterMap parameterName? := by
  induction ps generalizing start with
  | nil => rfl
  | cons p ps ih =>
    rw [Record.places_cons, List.map_cons, List.filterMap_cons, List.filterMap_cons,
      ih fun y mem => inside y (List.mem_cons_of_mem _ mem)]
    have first := parameterName?_ofTree formed (inside ⟨start, p⟩ List.mem_cons_self)
    rw [Site.id] at first
    rw [first]

theorem parameterNames_ofTree :
    (Arena.ofTree t).parameterNames x.id = x.tree.parameterNames := by
  rw [Arena.parameterNames_eq, parameterNames,
    bind_record_ofTree formed mem (Record.signature?_rename _) (Record.signature?_placed _ _)]
  cases signature : x.tree.record?.bind Record.signature? with
  | none => rfl
  | some both =>
    obtain ⟨name, ps⟩ := both
    simp only [Option.map_some, Option.getD_some]
    refine filterMap_parameterName? formed ?_
    intro y at_y
    exact Site.mem_postorder_of_child mem (Site.mem_children_of_signature? signature at_y)

end agree

/-! ### The first function -/

theorem map_tree_row (start : Nat) (ts : List Tree) : (Site.row start ts).map Site.tree = ts := by
  induction ts generalizing start with
  | nil => rfl
  | cons t ts ih => rw [Site.row, List.map_cons, ih]

theorem map_tree_preorder (s : Site) : s.preorder.map Site.tree = s.tree.preorder := by
  induction s using Site.byChildren with
  | step s ih =>
    rw [Site.preorder_eq, preorder_eq, List.map_cons, List.map_flatMap, List.flatMap_congr ih]
    conv => rhs; rw [← map_tree_row s.start s.tree.children, List.flatMap_map]
    rfl

theorem preorder_eq_map (t : Tree) : t.preorder = t.site.preorder.map Site.tree :=
  (map_tree_preorder t.site).symm

theorem firstFunction?_eq (t : Tree) : t.firstFunction?
    = (t.site.preorder.find? fun x => x.tree.kind.isFunction).map Site.tree := by
  rw [firstFunction?, preorder_eq_map, List.find?_map]
  rfl

end Tree

end Shapewire
