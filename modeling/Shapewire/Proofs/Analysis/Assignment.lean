/-
Assignments to an instance's own state.

What the analyses look for is a binary node whose operator assigns and whose left side is
`this.name` or `Type.prototype.name`.  `Tree.IsAssignment` says so of a tree, and `Tree.assignment?`
finds the parts of such a tree.  The analyses ask the same of a node table, and the two agree at
every node of the table of a formed tree (`assignment?_ofTree`).

A value may stand in parentheses.  A table follows them for as many steps as it has nodes, a tree
until there are no more (`Tree.unwrapped`), and what they come to is a function for both or for
neither (`isFunctionValue_ofTree`).
-/
import Shapewire.Proofs.Tree.Layer

namespace Shapewire

namespace Record

variable {ρ ο ν ν' : Type}

/-- What a construct is around. -/
def wrapped? : Record ρ ο ν → Option ο
  | wrapped expression => some expression
  | _ => none

theorem wrapped?_rename (f : ν → ν') (r : Record ρ ο ν) : (r.rename f).wrapped? = r.wrapped? := by
  cases r
  case call callee arguments => cases arguments <;> rfl
  all_goals rfl

theorem wrapped?_placed (kind : NodeKind) (start : Nat) (r : Record Tree (Option Tree) String) :
    (r.placed kind start).wrapped?
      = r.wrapped?.map fun inner => inner.map fun t => Site.id ⟨start, t⟩ := by
  cases r
  case wrapped expression => cases expression <;> rfl
  case call callee arguments => cases arguments <;> rfl
  case loop =>
    -- Which of its parts a loop has first is up to its kind, but it is around none of them.
    by_cases last : kind = .doStatement
    all_goals
      simp only [placed, mapM, last, if_true, if_false]
      rfl
  all_goals rfl

end Record

namespace Tree

/-! ### State -/

/-- The tree is `object.name`, or the same with a question mark. -/
structure IsMember (t object : Tree) (name : String) : Prop where
  kind : t.kind = .propertyAccess
  record : ∃ key optional, t.record? = some (.access object key optional) ∧
    key.record? = some (.identifier name)

/-- The tree is `this.name`, or `X.prototype.name` where `X` is an identifier. -/
inductive IsState (name : String) (t : Tree) : Prop where
  | own {object : Tree} (access : t.IsMember object name)
    (this : object.kind = .token .thisKeyword)
  | shared {object owner : Tree} (access : t.IsMember object name)
    (prototype : object.IsMember owner "prototype") (named : owner.kind = .token .identifier)

theorem identifierText?_eq_some_iff {t : Tree} {name : String} :
    t.identifierText? = some name ↔ t.record? = some (.identifier name) := by
  unfold identifierText?
  cases t.record? with
  | none => simp
  | some r => cases r <;> simp [Record.name?]

theorem memberAccess?_eq_some_iff {t object : Tree} {name : String} :
    t.memberAccess? = some (object, name) ↔ t.IsMember object name := by
  unfold memberAccess?
  constructor
  · intro found
    split at found
    · rename_i kind
      obtain ⟨⟨object', key⟩, slots, both⟩ := Option.bind_eq_some_iff.mp found
      obtain ⟨text, named, is⟩ := Option.map_eq_some_iff.mp both
      obtain ⟨rfl, rfl⟩ := Prod.mk.inj is
      obtain ⟨r, record, access⟩ := Option.bind_eq_some_iff.mp slots
      cases r <;> cases access
      exact ⟨eq_of_beq kind, _, _, record, identifierText?_eq_some_iff.mp named⟩
    · cases found
  · rintro ⟨kind, key, optional, record, named⟩
    rw [if_pos (beq_iff_eq.mpr kind), record]
    simp [Record.access?, identifierText?_eq_some_iff.mpr named]

theorem isPrototype_iff {t : Tree} : t.isPrototype = true ↔
    ∃ owner, t.IsMember owner "prototype" ∧ owner.kind = .token .identifier := by
  simp only [← memberAccess?_eq_some_iff]
  unfold isPrototype
  cases t.memberAccess? with
  | none => simp
  | some both =>
    obtain ⟨owner, name⟩ := both
    simp [and_assoc]

/-- State is found where it is. -/
theorem selfStateName?_eq_some_iff {t : Tree} {name : String} :
    t.selfStateName? = some name ↔ t.IsState name := by
  unfold selfStateName?
  constructor
  · intro found
    split at found
    · rename_i object name' access
      rw [memberAccess?_eq_some_iff] at access
      split at found
      · rename_i reaches
        obtain rfl := Option.some.inj found
        rcases Bool.or_eq_true_iff.mp reaches with this | prototype
        · exact .own access (eq_of_beq this)
        · obtain ⟨owner, member, named⟩ := isPrototype_iff.mp prototype
          exact .shared access member named
      · cases found
    · cases found
  · rintro (⟨access, this⟩ | ⟨access, prototype, named⟩)
    · rw [memberAccess?_eq_some_iff.mpr access]
      simp [this]
    · rw [memberAccess?_eq_some_iff.mpr access]
      simp [isPrototype_iff.mpr ⟨_, prototype, named⟩]

/-! ### Assignments -/

/-- The tree assigns a value to state of a name, by an operator. -/
def IsAssignment (t : Tree) (operator : TokenKind) (name : String) (value : Tree) : Prop :=
  ∃ left, t.binary? = some (left, .token operator, value) ∧ left.IsState name

/-- The operator, the name and the value, if the left side of a binary node is state. -/
def assignment? (t : Tree) : Option (NodeKind × String × Tree) :=
  t.binary?.bind fun (left, operator, right) =>
    left.selfStateName?.map fun name => (operator, name, right)

theorem assignment?_eq_some_iff {t value : Tree} {operator : TokenKind} {name : String} :
    t.assignment? = some (.token operator, name, value) ↔ t.IsAssignment operator name value := by
  unfold assignment? IsAssignment
  simp only [← selfStateName?_eq_some_iff]
  cases t.binary? with
  | none => simp
  | some slots =>
    obtain ⟨left, operator', right⟩ := slots
    cases left.selfStateName? <;> simp [and_comm]

/-! ### Parentheses -/

/-- What stands in parentheses, if the tree is a pair of them. -/
def inParentheses? (t : Tree) : Option Tree :=
  if t.kind == .parenthesized then (t.record?.bind Record.wrapped?).join else none

theorem mem_children_of_inParentheses? {t inner : Tree} (h : t.inParentheses? = some inner) :
    inner ∈ t.children := by
  unfold inParentheses? at h
  split at h
  · obtain ⟨r, found, wrapped⟩ := Option.bind_eq_some_iff.mp (Option.join_eq_some_iff.mp h)
    cases r <;> cases wrapped
    rw [children, found]
    exact List.mem_singleton_self inner
  · cases h

/-- The tree with all parentheses around it removed. -/
def unwrapped (t : Tree) : Tree :=
  match _h : t.inParentheses? with
  | some inner => inner.unwrapped
  | none => t
termination_by sizeOf t
decreasing_by exact sizeOf_lt_of_mem_children (mem_children_of_inParentheses? _h)

theorem unwrapped_of_some {t inner : Tree} (h : t.inParentheses? = some inner) :
    t.unwrapped = inner.unwrapped := by
  rw [unwrapped]
  split
  · simp_all
  · simp_all

theorem unwrapped_of_none {t : Tree} (h : t.inParentheses? = none) : t.unwrapped = t := by
  rw [unwrapped]
  split
  · simp_all
  · rfl

end Tree

/-! ### The same questions to a table -/

theorem Arena.assignment?_eq (a : Arena) (p : NodeKind → Bool) (id : NodeId) : a.assignment? p id =
    if a.kindIs (· == .binary) id then
      (a.binary? id).bind fun (left, operator, right) =>
        if p operator then some (left, right) else none
    else none := by
  unfold assignment? kindIs binary? record?
  cases a.get? id with
  | none => rfl
  | some n =>
    by_cases binary : n.kind == .binary
    · simp only [binary, Option.bind_eq_bind, Option.bind_some, Option.any_some, if_true, guard]
      cases a.recordOf n with
      | none => rfl
      | some r => cases r <;> rfl
    · have other : n.kind ≠ .binary := by simpa using binary
      simp [other, guard]

theorem Arena.withoutParentheses_succ (a : Arena) (n : Nat) (id : NodeId) :
    a.withoutParentheses (n + 1) (some id) =
      if a.kindIs (· == .parenthesized) id then
        (((a.record? id).bind Record.wrapped?).map (a.withoutParentheses n)).getD (some id)
      else some id := by
  rw [withoutParentheses, deref, kindIs, record?, Option.bind_some]
  cases a.get? id with
  | none => rfl
  | some n =>
    simp only [Option.any_some, Option.bind_some]
    congr 1
    cases a.recordOf n with
    | none => rfl
    | some r => cases r <;> rfl

/-- What a construct is around lies where the construct starts. -/
theorem Site.mem_children_of_wrapped? {x : Site} {u : Tree}
    (form : x.tree.record?.bind Record.wrapped? = some (some u)) : ⟨x.start, u⟩ ∈ x.children := by
  obtain ⟨r, found, wrapped⟩ := Option.bind_eq_some_iff.mp form
  cases r <;> cases wrapped
  rw [children_of_record? found]
  exact List.mem_cons_self

namespace Tree

/-- What has the record of a binary operation is one. -/
theorem kind_of_binary? {t : Tree} (fits : t.Fits) {slots : Tree × NodeKind × Tree}
    (form : t.binary? = some slots) : t.kind = .binary := by
  obtain ⟨r, found, binary⟩ := Option.bind_eq_some_iff.mp form
  have pool := fits.form
  rw [found] at pool
  cases r <;> cases binary
  cases kind : t.kind <;> rw [kind] at pool
  case token k => cases k <;> cases pool
  all_goals first | rfl | cases pool

section agree

variable {t : Tree} (formed : t.Formed) {x : Site} (mem : x ∈ t.sites)

include formed mem

/-- The sides of an assignment lie at their places. -/
theorem assignment?_ofTree (p : NodeKind → Bool) : (Arena.ofTree t).assignment? p x.id =
    x.tree.binary?.bind fun (left, operator, right) =>
      if p operator then
        some (some (Site.id ⟨x.start, left⟩), some (Site.id ⟨x.start + left.size, right⟩))
      else none := by
  rw [Arena.assignment?_eq, kindIs_ofTree formed mem, binary?_ofTree formed mem]
  cases form : x.tree.binary? with
  | none => simp
  | some slots =>
    have kind := kind_of_binary? (Site.formed_of_mem_postorder formed mem).fits form
    rw [if_pos (beq_iff_eq.mpr kind)]
    rfl

/-- With as many steps as there are nodes, a table comes to what the tree comes to. -/
theorem isFunctionValue_within {n : Nat} (enough : x.tree.size ≤ n) :
    ((Arena.ofTree t).deref ((Arena.ofTree t).withoutParentheses n (some x.id))).any
      (fun node => node.kind.isFunctionValue) = x.tree.unwrapped.kind.isFunctionValue := by
  induction n generalizing x with
  | zero => exact absurd enough (Nat.not_le_of_lt x.tree.size_pos)
  | succ n ih =>
    have here : ((Arena.ofTree t).deref (some x.id)).any (fun node => node.kind.isFunctionValue)
        = x.tree.kind.isFunctionValue := kindIs_ofTree formed mem NodeKind.isFunctionValue
    rw [Arena.withoutParentheses_succ, kindIs_ofTree formed mem,
      bind_record_ofTree formed mem (Record.wrapped?_rename _) (Record.wrapped?_placed _ _),
      Option.map_map]
    split
    · rename_i parenthesized
      cases form : x.tree.record?.bind Record.wrapped? with
      | none =>
        rw [unwrapped_of_none (by rw [inParentheses?, if_pos parenthesized, form]; rfl)]
        exact here
      | some inner =>
        have within : x.tree.inParentheses? = inner := by
          rw [inParentheses?, if_pos parenthesized, form]
          rfl
        cases inner with
        | none =>
          -- Parentheses around nothing are no function, and neither is nothing.
          rw [unwrapped_of_none within, eq_of_beq parenthesized]
          cases n <;> rfl
        | some u =>
          have child := Site.mem_children_of_wrapped? form
          have smaller := Site.start_le_of_mem_row child
          rw [x.tree.size_eq] at enough
          rw [unwrapped_of_some within]
          exact ih (Site.mem_postorder_of_child mem child) (by simp only at smaller ⊢; omega)
    · rename_i other
      rw [here, unwrapped_of_none]
      rw [inParentheses?, if_neg other]

/-- A value is a function for a table if it is one for the tree. -/
theorem isFunctionValue_ofTree :
    (Arena.ofTree t).isFunctionValue (some x.id) = x.tree.unwrapped.kind.isFunctionValue := by
  refine isFunctionValue_within formed mem ?_
  have within : x.start + x.tree.size ≤ 0 + t.size := (Site.size_le_of_mem_postorder mem).2
  rw [size_ofTree formed]
  omega

end agree

end Tree

end Shapewire
