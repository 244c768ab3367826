/-
Statements at the end of statements.

The body of a loop that tests first stands at the end of the loop, and an else part at the end of
its branch, so that whatever follows the one follows the other as well.  From a statement such a
trailing statement may be stepped to, and from there to the next, which always is the last child
(`trailing?`).  A statement ends open if that leads to a branch that has no else part
(`EndsOpen`): an `else` behind it could be taken for that branch's.

`Arena.ElseNearest` asks of a node of a table that the first part of a branch with two parts does
not end open, and `Tree.ElseNearest` asks the same of a tree.
-/
import Shapewire.Proofs.Analysis.Reading
import Shapewire.Proofs.Tree.WellKinded

namespace Shapewire

namespace Record

variable {ρ ο ν ν' α : Type}

/-- The parts of a branch: the condition, what is executed if it holds, and the else part. -/
def branch? : Record ρ ο ν → Option (ρ × ρ × ο)
  | branch condition whenTrue whenFalse => some (condition, whenTrue, whenFalse)
  | _ => none

/-- The trailing statement: the body of what is labeled and of a loop that does not test last, and
the else part of a branch. -/
def trailing? (kind : NodeKind) (f : ρ → Option α) (g : ο → Option α) : Record ρ ο ν → Option α
  | labeled _ statement => f statement
  | loop _ _ _ body => if kind = .doStatement then none else f body
  | iteration _ _ body => f body
  | branch _ _ whenFalse => g whenFalse
  | _ => none

theorem branch?_rename (f : ν → ν') (r : Record ρ ο ν) : (r.rename f).branch? = r.branch? := by
  cases r
  case call callee arguments => cases arguments <;> rfl
  all_goals rfl

theorem trailing?_rename (f : ν → ν') (kind : NodeKind) (g : ρ → Option α) (g' : ο → Option α)
    (r : Record ρ ο ν) : (r.rename f).trailing? kind g g' = r.trailing? kind g g' := by
  cases r
  case call callee arguments => cases arguments <;> rfl
  all_goals rfl

section placed

variable (kind : NodeKind) (start : Nat) (r : Record Tree (Option Tree) String)

theorem branch?_placed : (r.placed kind start).branch? = r.branch?.map fun (c, t, f) =>
    (some (Site.id ⟨start, c⟩), some (Site.id ⟨start + c.size, t⟩),
      (places (start + c.size + t.size) f.toList).head?) := by
  cases r
  case call callee arguments => cases arguments <;> rfl
  case loop =>
    by_cases last : kind = .doStatement
    all_goals
      simp only [placed, mapM, last, if_true, if_false]
      rfl
  case branch condition whenTrue whenFalse =>
    simp [placed, mapM, branch?, Site.id, bind_apply, map_apply]
  all_goals rfl

/-- The trailing statement lies at the last place before the node itself. -/
theorem trailing?_placed : (r.placed kind start).trailing? kind id id
    = (r.trailing? kind some id).map fun _ =>
        start + Tree.totalSize (r.children kind (fun c => [c]) Option.toList) - 1 := by
  cases r
  case call callee arguments => cases arguments <;> rfl
  case loop initializer condition incrementor body =>
    by_cases last : kind = .doStatement
    · simp [placed, mapM, trailing?, last, bind_apply, map_apply]
    · simp [placed, mapM, trailing?, children, last, bind_apply, map_apply,
        Tree.totalSize_append, Nat.add_assoc]
  case labeled label statement =>
    simp [placed, mapM, trailing?, children, bind_apply, map_apply, Nat.add_assoc]
  case iteration binding subject body =>
    simp [placed, mapM, trailing?, children, bind_apply, map_apply, Nat.add_assoc]
  case branch condition whenTrue whenFalse =>
    cases whenFalse
    all_goals
      simp [placed, mapM, trailing?, children, bind_apply, map_apply, Nat.add_assoc]
  all_goals rfl

end placed

end Record

/-! ### In a node table -/

namespace Arena

variable (a : Arena)

/-- The statement at the end of the statement at a place. -/
def trailing? (i : NodeId) : NodeRef :=
  (a.kindAt? i).bind fun kind => (a.record? i).bind (Record.trailing? kind id id)

/-- From the statement at a place, trailing statements lead to a branch without an else part. -/
inductive EndsOpen : NodeId → Prop where
  | here {id : NodeId} {condition whenTrue : NodeRef}
    (branch : a.record? id = some (.branch condition whenTrue none)) : EndsOpen id
  | step {id next : NodeId} (trailing : a.trailing? id = some next) (open_ : EndsOpen next) :
    EndsOpen id

/-- An else part of the node at a place stands behind a statement that does not end open. -/
def ElseNearest (id : NodeId) : Prop :=
  ∀ condition whenTrue whenFalse,
    a.record? id = some (.branch condition whenTrue (some whenFalse)) →
      ∃ statement, whenTrue = some statement ∧ ¬ a.EndsOpen statement

end Arena

/-! ### In a tree -/

namespace Tree

/-- The parts of the root, if it is a branch. -/
def branch? (t : Tree) : Option (Tree × Tree × Option Tree) := t.record?.bind Record.branch?

/-- The statement at the end of the root. -/
def trailing? (t : Tree) : Option Tree := t.record?.bind (Record.trailing? t.kind some id)

/-- Trailing statements lead to a branch without an else part. -/
inductive EndsOpen : Tree → Prop where
  | here {t condition whenTrue : Tree} (branch : t.branch? = some (condition, whenTrue, none)) :
    EndsOpen t
  | step {t next : Tree} (trailing : t.trailing? = some next) (open_ : EndsOpen next) : EndsOpen t

/-- An else part of the root stands behind a statement that does not end open. -/
def ElseNearest (t : Tree) : Prop :=
  ∀ condition whenTrue whenFalse, t.branch? = some (condition, whenTrue, some whenFalse) →
    ¬ whenTrue.EndsOpen

/-- What neither is a branch nor has a statement at its end does not end open. -/
theorem not_endsOpen {t : Tree} (branch : t.branch? = none) (trailing : t.trailing? = none) :
    ¬ t.EndsOpen := by
  intro ends
  cases ends with
  | here found => rw [branch] at found; cases found
  | step found _ => rw [trailing] at found; cases found

end Tree

/-! ### From the one to the other -/

namespace Site

variable {x : Site}

/-- The last of neighbouring trees ends where they all do. -/
theorem exists_last_of_row {start : Nat} {ts : List Tree} {t : Tree} (last : ts.getLast? = some t) :
    ∃ y ∈ row start ts, y.tree = t ∧ y.id = start + Tree.totalSize ts - 1 := by
  obtain ⟨front, rfl⟩ := List.getLast?_eq_some_iff.mp last
  refine ⟨⟨start + Tree.totalSize front, t⟩, ?_, rfl, ?_⟩
  · rw [row_append]
    exact List.mem_append_right _ List.mem_cons_self
  · rw [Tree.totalSize_append, Tree.totalSize_cons, Tree.totalSize_nil, Nat.add_zero,
      ← Nat.add_assoc]
    rfl

/-- The trailing statement is the last child. -/
theorem exists_child_of_trailing? {t : Tree} (trailing : x.tree.trailing? = some t) :
    ∃ y ∈ x.children, y.tree = t ∧ y.id = x.start + Tree.totalSize x.tree.children - 1 := by
  obtain ⟨r, found, trailing⟩ := Option.bind_eq_some_iff.mp trailing
  refine exists_last_of_row ?_
  rw [Tree.children, found]
  cases r
  case loop initializer condition incrementor body =>
    by_cases last : x.tree.kind = .doStatement
    · simp [Record.trailing?, last] at trailing
    · simp only [Record.trailing?, if_neg last, Option.some.injEq] at trailing
      simp [Record.children, last, trailing]
  case branch condition whenTrue whenFalse =>
    obtain rfl : whenFalse = some t := trailing
    simp [Record.children]
  all_goals cases trailing
  all_goals simp [Record.children]

/-- The first part of a branch is a child behind the condition. -/
theorem mem_children_of_branch? {c t : Tree} {f : Option Tree}
    (branch : x.tree.branch? = some (c, t, f)) : ⟨x.start + c.size, t⟩ ∈ x.children := by
  obtain ⟨r, found, branch⟩ := Option.bind_eq_some_iff.mp branch
  rw [children_of_record? found]
  cases r <;> cases branch
  exact List.mem_cons_of_mem _ List.mem_cons_self

end Site

namespace Tree

section ofTree

variable {t : Tree} (formed : t.Formed) {x : Site} (mem : x ∈ t.sites)

include formed mem

theorem branch?_ofTree : ((Arena.ofTree t).record? x.id).bind Record.branch?
    = x.tree.branch?.map fun (c, t, f) => (some (Site.id ⟨x.start, c⟩),
      some (Site.id ⟨x.start + c.size, t⟩),
      (Record.places (x.start + c.size + t.size) f.toList).head?) :=
  bind_record_ofTree formed mem (Record.branch?_rename _) (Record.branch?_placed _ _)

/-- What the statement at a place ends with is what it ends with in the tree. -/
theorem exists_child_of_trailing?_ofTree {i : NodeId}
    (trailing : (Arena.ofTree t).trailing? x.id = some i) :
    ∃ y ∈ x.children, x.tree.trailing? = some y.tree ∧ y.id = i := by
  rw [Arena.trailing?, kindAt?_ofTree formed mem, Option.bind_some] at trailing
  obtain ⟨stored, at_place, trailing⟩ := Option.bind_eq_some_iff.mp trailing
  have record := record_ofTree formed mem
  rw [at_place, Option.map_some, eq_comm, Option.map_eq_some_iff] at record
  obtain ⟨r, found, named⟩ := record
  rw [← Record.trailing?_rename (Arena.ofTree t).names.resolve, ← named, Record.trailing?_placed,
    Option.map_eq_some_iff] at trailing
  obtain ⟨u, own, rfl⟩ := trailing
  have trailing : x.tree.trailing? = some u := by rw [trailing?, found, Option.bind_some, own]
  obtain ⟨y, child, rfl, last⟩ := Site.exists_child_of_trailing? trailing
  refine ⟨y, child, trailing, ?_⟩
  rw [last, children, found]

/-- A node of a table ends open only if it does so in the tree. -/
theorem endsOpen_of_ofTree {i : NodeId} (ends : (Arena.ofTree t).EndsOpen i) (same : x.id = i) :
    x.tree.EndsOpen := by
  induction ends generalizing x with
  | @here i condition whenTrue branch =>
    subst same
    have parts := branch?_ofTree formed mem
    rw [branch, Option.bind_some, eq_comm, Record.branch?, Option.map_eq_some_iff] at parts
    obtain ⟨⟨c, u, f⟩, found, parts⟩ := parts
    cases f with
    | none => exact .here found
    | some f => simp at parts
  | step trailing _ ih =>
    subst same
    obtain ⟨y, child, found, rfl⟩ := exists_child_of_trailing?_ofTree formed mem trailing
    exact .step found (ih (Site.mem_postorder_of_child mem child) rfl)

omit mem in
/-- **If every else part of a tree stands behind a statement that does not end open**, so does every
else part of its table. -/
theorem elseNearest_ofTree (each : t.Everywhere ElseNearest) (i : NodeId) :
    (Arena.ofTree t).ElseNearest i := by
  intro condition whenTrue whenFalse branch
  obtain ⟨n, found, -⟩ := Option.bind_eq_some_iff.mp branch
  obtain ⟨x, mem, rfl⟩ := exists_site_of_get? formed found
  have parts := branch?_ofTree formed mem
  rw [branch, Option.bind_some, eq_comm, Record.branch?, Option.map_eq_some_iff] at parts
  obtain ⟨⟨c, u, f⟩, own, parts⟩ := parts
  obtain ⟨-, rfl, last⟩ : _ ∧ _ ∧ _ := by simpa using parts
  refine ⟨_, rfl, ?_⟩
  intro ends
  cases f with
  | none => cases last
  | some f =>
    have below := Site.mem_postorder_of_child mem (Site.mem_children_of_branch? own)
    exact each.of_mem_postorder mem _ _ _ own (endsOpen_of_ofTree formed below ends rfl)

end ofTree

end Tree

end Shapewire
