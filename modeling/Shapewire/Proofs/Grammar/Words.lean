/-
Where the words `yield` and `await` are operators.

Elsewhere they are names, so what a source means depends on the mode that a piece of it is read in.
The context of the parser says the mode: a function sets both words for its parameters and its body,
an arrow sets them for its body and forgets `yield`, and everything else leaves them alone.  An
operator is only read where the context says that it is one (`allowed_of_derives`).

In the node table the context is gone, but the functions carry flags.  Wherever a source has a word
as an operator, the function that it is in carries the flag for it (`SourceTree.governed_of_parse`).
-/
import Shapewire.Proofs.Grammar.Everywhere
import Shapewire.Proofs.Tree.Enclosing

namespace Shapewire

/-- A word is an operator only where the mode says that it is one. -/
structure Tree.Allowed (m : Mode) (t : Tree) : Prop where
  yields : t.kind = .yielding → m.yields = true
  awaits : t.kind = .awaiting → m.awaits = true

theorem Tree.allowed_of_isOperation {m : Mode} {t : Tree} (h : t.isOperation = false) :
    t.Allowed m where
  yields is := by simp [isOperation, is, NodeKind.isWordOperation] at h
  awaits is := by simp [isOperation, is, NodeKind.isWordOperation] at h

/-- **An expression has a word as its operator only if the context says that it is one.** -/
theorem allowed_of_derives {n : Nat} {c : Context} {p : Part} {x y : Place} {ts : List Tree}
    (h : Derives n c p x ts y) (expression : p.isExpression = true) :
    ∀ t ∈ ts, t.Allowed c.mode := by
  induction h with
  | yieldAlone operator | yieldDelegate operator | yieldValue operator =>
    exact List.forall_mem_singleton.mpr ⟨fun _ => operator, nofun⟩
  | await operator => exact List.forall_mem_singleton.mpr ⟨nofun, fun _ => operator⟩
  -- Parts that are other parts, in the same context
  | oneExpression _ ih | plainAssignment _ ih | plainConditional _ ih | firstOperand _ ih
  | assignment _ _ ih | operand _ _ ih | plainUnary _ ih | base _ ih | constructionBase _ ih
  | templateOperand _ ih | calleeBase _ _ ih | calleeConstruction _ _ ih => exact ih rfl
  -- Other nodes
  | comma | assign | moreOperands | conditional | arrow | prefixed | postfixed | access | keyAccess
  | call | taggedText | taggedTemplate | construction | bareConstruction | name | word | literal
  | regex | parenthesized | array | object | functionValue | template =>
    exact List.forall_mem_singleton.mpr ⟨nofun, nofun⟩
  | _ => cases expression

namespace Arena

/-- A word that is an operator is in a function that makes it one. -/
structure Governed (a : Arena) (id : NodeId) : Prop where
  /-- A `yield` is in a generator, and that is no arrow. -/
  yields : a.kindAt? id = some .yielding → ∃ f n, a.enclosing? id = some f ∧ a.get? f = some n ∧
    n.flags.has .generator = true ∧ n.kind ≠ .arrowFunction
  /-- An `await` is in an asynchronous function. -/
  awaits : a.kindAt? id = some .awaiting → ∃ f n, a.enclosing? id = some f ∧ a.get? f = some n ∧
    n.flags.has .async = true

/-- Where a word is an operator in the mode of a node, the node is in a function. -/
theorem exists_of_mode {a : Arena} {id : NodeId} (inside : a.mode id ≠ .outside) :
    ∃ f n, a.enclosing? id = some f ∧ a.get? f = some n ∧ a.mode id = n.ownMode := by
  unfold mode at inside ⊢
  cases enclosing : a.enclosing? id with
  | none => simp [enclosing] at inside
  | some f =>
    cases found : a.get? f with
    | none => simp [enclosing, found] at inside
    | some n => exact ⟨f, n, rfl, found, by simp [found]⟩

/-- A node whose words are operators only in its own mode is governed. -/
theorem governed_of_allowed {a : Arena} {id : NodeId}
    (yields : a.kindAt? id = some .yielding → (a.mode id).yields = true)
    (awaits : a.kindAt? id = some .awaiting → (a.mode id).awaits = true) : a.Governed id where
  yields is := by
    have operator := yields is
    have inside : a.mode id ≠ .outside := fun outside => by
      rw [outside] at operator
      cases operator
    obtain ⟨f, n, enclosing, found, own⟩ := exists_of_mode inside
    rw [own, Node.ownMode, Bool.and_eq_true, bne_iff_ne] at operator
    exact ⟨f, n, enclosing, found, operator.2, operator.1⟩
  awaits is := by
    have operator := awaits is
    have inside : a.mode id ≠ .outside := fun outside => by
      rw [outside] at operator
      cases operator
    obtain ⟨f, n, enclosing, found, own⟩ := exists_of_mode inside
    rw [own] at operator
    exact ⟨f, n, enclosing, found, operator⟩

end Arena

namespace SourceTree

/-- **In every source that parses, the function that a `yield` is in is a generator, and the one
that an `await` is in is asynchronous.** -/
theorem governed_of_parse {file text : String} {s : SourceTree} (parsed : parse file text = .ok s)
    (id : NodeId) : s.arena.Governed id := by
  have within : s.tree.Within Tree.Allowed .outside := by
    refine within_of_parse (fun _ _ => Tree.allowed_of_isOperation) ?_ parsed
    intro n c p x y t expression derived
    exact allowed_of_derives derived expression t List.mem_cons_self
  have formed := formed_of_parse parsed
  rw [s.arena_eq]
  have kindAt {k : NodeKind} (is : (Arena.ofTree s.tree).kindAt? id = some k) :
      ∃ x ∈ s.tree.sites, x.id = id ∧ x.tree.kind = k := by
    obtain ⟨n, found, -⟩ := Option.map_eq_some_iff.mp is
    obtain ⟨x, mem, rfl⟩ := Tree.exists_site_of_get? formed found
    rw [Tree.kindAt?_ofTree formed mem] at is
    exact ⟨x, mem, rfl, Option.some.inj is⟩
  refine Arena.governed_of_allowed ?_ ?_
  · intro is
    obtain ⟨x, mem, rfl, kind⟩ := kindAt is
    exact (within.of_mem_sites formed mem).yields kind
  · intro is
    obtain ⟨x, mem, rfl, kind⟩ := kindAt is
    exact (within.of_mem_sites formed mem).awaits kind

/-- A `yield` in the default of an arrow's parameter, and an `await` in the arrow's body. -/
theorem governed_of_parse_arrow : ∃ s,
    parse "Words.js" "function* F() \x7b return async (a = yield) => await a \x7d" = .ok s ∧
      s.arena.kindAt? 2 = some .yielding ∧ s.arena.Governed 2 :=
  exists_of_any (q := fun s => decide (s.arena.kindAt? 2 = some .yielding)) (by decide +kernel)
    fun _ parsed is => ⟨of_decide_eq_true is, governed_of_parse parsed 2⟩

end SourceTree

end Shapewire
