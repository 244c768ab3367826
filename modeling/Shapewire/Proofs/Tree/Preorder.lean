/-
Walks over any table, against a recursive listing.

The tables of trees are not the only ones that can be walked.  All a walk needs to end is that a
child which is a node lies before its parent (`Arena.Descending`); a child may also be a place that
holds no node.  For such a table the nodes below a node have a recursive listing, `listing`: the
node and then the listings of its children.

The loop of a walk has no levels: it takes the first place from its stack and puts the children of
that place in front of the others.  `Pops` is that loop, and what it gives has a derivation only if
the loop ends.  The levels of a walk last until then (`Descending.pops_walk`).  What is still to
come for a whole stack is what is met below each of its places, one after the other
(`Pops.eq_reached`), so the pre-order is the listing.

A walk that looks for a function gives up at a place without a node, and a listing leaves such a
place out.  The two agree where no such place is met before the function.
-/
import Mathlib.Data.List.TakeWhile
import Shapewire.Proofs.Tree.Source

namespace Shapewire

section upTo

variable {α : Type} {p q : α → Bool} {as : List α}

theorem mem_of_mem_upTo {a : α} (mem : a ∈ upTo p as) : a ∈ as := by
  induction as with
  | nil => exact mem
  | cons b bs ih =>
    rw [upTo] at mem
    by_cases accepted : p b = true
    · rw [if_pos accepted, List.mem_singleton] at mem
      exact mem ▸ List.mem_cons_self
    · rw [if_neg accepted] at mem
      rcases List.mem_cons.mp mem with rfl | later
      · exact List.mem_cons_self
      · exact List.mem_cons_of_mem _ (ih later)

/-- To stop earlier as well makes no difference where nothing before the end is a reason to. -/
theorem upTo_eq_upTo (stops : ∀ a, q a = true → p a = true)
    (passes : ∀ a ∈ as.takeWhile fun a => !q a, p a = false) : upTo p as = upTo q as := by
  induction as with
  | nil => rfl
  | cons b bs ih =>
    rw [upTo, upTo]
    by_cases accepted : q b = true
    · rw [if_pos accepted, if_pos (stops b accepted)]
    · have before : (b :: bs).takeWhile (fun a => !q a) = b :: bs.takeWhile fun a => !q a := by
        simp [accepted]
      rw [before] at passes
      rw [if_neg accepted, if_neg (by simp [passes b List.mem_cons_self])]
      exact congrArg (b :: ·) (ih fun a mem => passes a (List.mem_cons_of_mem _ mem))

end upTo

namespace Arena

/-- The children of a node come before it, or are no nodes. -/
def Descending (a : Arena) : Prop := ∀ id c, c ∈ a.children id → c < id ∨ a.get? c = none

/-- The loop of a walk that stops at the first place that `stop` accepts: the places it takes from a
stack. -/
inductive Pops (a : Arena) (stop : NodeId → Bool) : List NodeId → List NodeId → Prop where
  | done : Pops a stop [] []
  | stopped {id : NodeId} {stack : List NodeId} (accepted : stop id = true) :
    Pops a stop (id :: stack) [id]
  | more {id : NodeId} {stack out : List NodeId} (goesOn : stop id = false)
    (rest : Pops a stop (a.children id ++ stack) out) : Pops a stop (id :: stack) (id :: out)

/-- How far a walk may have to go down from a place: not at all if it holds no node. -/
def rank (a : Arena) (id : NodeId) : Nat := if a.get? id = none then 0 else id + 1

variable {a : Arena}

theorem children_of_missing {id : NodeId} (missing : a.get? id = none) : a.children id = [] := by
  simp [children, missing]

theorem rank_le_size (a : Arena) (id : NodeId) : a.rank id ≤ a.size := by
  unfold rank
  split
  · exact Nat.zero_le _
  · rename_i present
    obtain ⟨n, found⟩ := Option.ne_none_iff_exists'.mp present
    exact (Array.getElem?_eq_some_iff.mp found).1

/-- It goes further down from a node than from its children. -/
theorem Descending.rank_lt (h : a.Descending) {id c : NodeId} (child : c ∈ a.children id) :
    a.rank c < a.rank id := by
  have present : a.get? id ≠ none := by
    intro missing
    rw [children_of_missing missing] at child
    cases child
  rw [rank, rank, if_neg present]
  by_cases missing : a.get? c = none
  · rw [if_pos missing]
    exact Nat.succ_pos id
  · rw [if_neg missing]
    exact Nat.succ_lt_succ ((h id c child).resolve_right missing)

/-- **The nodes from a node downward**: the node itself, and then those from each of its children.
A place that holds no node is left out. -/
def listing (a : Arena) (h : a.Descending) (id : NodeId) : List NodeId :=
  if a.get? id = none then []
  else id :: (a.children id).attach.flatMap fun c => listing a h c.1
termination_by a.rank id
decreasing_by exact h.rank_lt c.2

/-- All places met from a place downward, whether they hold nodes or not. -/
def reached (a : Arena) (h : a.Descending) (id : NodeId) : List NodeId :=
  id :: (a.children id).attach.flatMap fun c => reached a h c.1
termination_by a.rank id
decreasing_by exact h.rank_lt c.2

section descending

variable (h : a.Descending)

theorem listing_of_missing {id : NodeId} (missing : a.get? id = none) : a.listing h id = [] := by
  rw [listing, if_pos missing]

theorem listing_of_present {id : NodeId} (present : a.get? id ≠ none) :
    a.listing h id = id :: (a.children id).flatMap (a.listing h) := by
  rw [listing, if_neg present]
  conv => rhs; rw [← (a.children id).attach_map_subtype_val, List.flatMap_map]

theorem reached_eq (id : NodeId) :
    a.reached h id = id :: (a.children id).flatMap (a.reached h) := by
  rw [reached]
  conv => rhs; rw [← (a.children id).attach_map_subtype_val, List.flatMap_map]

/-- The listing is what is met, less the places without a node. -/
theorem listing_eq_filter (id : NodeId) :
    a.listing h id = (a.reached h id).filter fun id => (a.get? id).isSome := by
  induction id using reached.induct a h with
  | case1 id ih =>
    rw [reached_eq]
    by_cases missing : a.get? id = none
    · simp [listing_of_missing h missing, missing, children_of_missing missing]
    · have present : (a.get? id).isSome = true := Option.isSome_iff_ne_none.mpr missing
      rw [listing_of_present h missing, List.filter_cons, if_pos present, List.filter_flatMap]
      exact congrArg (id :: ·) (List.flatMap_congr fun c child => ih ⟨c, child⟩)

/-! ### The loop -/

variable {stop : NodeId → Bool}

include h

/-- What the loop takes from a stack is what is met from its places downward. -/
theorem Pops.eq_reached {stack out : List NodeId} (pops : a.Pops stop stack out) :
    out = upTo stop (stack.flatMap (a.reached h)) := by
  induction pops with
  | done => rfl
  | stopped accepted =>
    rw [List.flatMap_cons, reached_eq, List.cons_append, upTo, if_pos accepted]
  | more goesOn rest ih =>
    rw [List.flatMap_cons, reached_eq, List.cons_append, upTo, if_neg (by simp [goesOn]), ih,
      List.flatMap_append]

/-- With levels enough for every place on its stack a walk takes what the loop takes. -/
theorem Descending.pops_walk (stack : List (Nat × NodeId))
    (enough : ∀ e ∈ stack, a.rank e.2 < e.1) :
    a.Pops stop (stack.map Prod.snd) (a.walk stop stack) := by
  fun_induction walk a stop stack with
  | case1 => exact .done
  | case2 id stack ih => exact absurd (enough _ List.mem_cons_self) (Nat.not_lt_zero _)
  | case3 levels id stack accepted => exact .stopped accepted
  | case4 levels id stack goesOn ih =>
    refine .more (by simpa using goesOn) ?_
    have opened : ((a.children id).map (levels, ·) ++ stack).map Prod.snd
        = a.children id ++ stack.map Prod.snd := by
      simp [Function.comp_def]
    rw [← opened]
    refine ih fun e mem => ?_
    rcases List.mem_append.mp mem with new | old
    · obtain ⟨c, child, rfl⟩ := List.mem_map.mp new
      have below := h.rank_lt child
      have room : a.rank id < levels + 1 := enough _ List.mem_cons_self
      show a.rank c < levels
      omega
    · exact enough e (List.mem_cons_of_mem _ old)

/-- A walk from any place has levels enough. -/
theorem Descending.pops_rootStack (root : NodeId) :
    a.Pops stop [root] (a.walk stop (a.rootStack root)) := by
  refine h.pops_walk (a.rootStack root) fun e mem => ?_
  rw [List.mem_singleton.mp mem]
  exact Nat.lt_succ_of_le (a.rank_le_size root)

theorem walk_eq_reached (root : NodeId) :
    a.walk stop (a.rootStack root) = upTo stop (a.reached h root) := by
  rw [(h.pops_rootStack root).eq_reached h, List.flatMap_singleton]

theorem preorder_eq_listing (root : NodeId) : a.preorder root = a.listing h root := by
  rw [preorder, walk_eq_reached h, upTo_eq_self fun _ _ => rfl, listing_eq_filter]

/-! ### The first function -/

omit h in
theorem isSome_of_isFunction {id : NodeId} (is : a.isFunction id = true) :
    (a.get? id).isSome = true := by
  unfold isFunction kindIs at is
  cases found : a.get? id with
  | none => simp [found] at is
  | some n => rfl

/-- Whatever function a walk ends at is one of the nodes. -/
theorem mem_listing_of_firstFunction {root id : NodeId} (first : a.firstFunction? root = some id) :
    id ∈ a.listing h root ∧ a.isFunction id = true := by
  rw [firstFunction?, walk_eq_reached h, Option.filter_eq_some_iff] at first
  obtain ⟨last, is⟩ := first
  rw [listing_eq_filter]
  have met := mem_of_mem_upTo (List.mem_of_getLast? last)
  exact ⟨List.mem_filter.mpr ⟨met, isSome_of_isFunction is⟩, is⟩

theorem find?_listing (root : NodeId) :
    (a.listing h root).find? a.isFunction = (a.reached h root).find? a.isFunction := by
  rw [listing_eq_filter, List.find?_filter]
  refine List.find?_congr fun id _ => ?_
  cases is : a.isFunction id with
  | false => simp
  | true => simp [isSome_of_isFunction is]

theorem firstFunction?_eq_find?_listing {root : NodeId}
    (nodes : ∀ id ∈ (a.reached h root).takeWhile fun id => !a.isFunction id,
      (a.get? id).isSome = true) :
    a.firstFunction? root = (a.listing h root).find? a.isFunction := by
  have stops (id : NodeId) (is : a.isFunction id = true) :
      ((a.get? id).isNone || a.isFunction id) = true := by rw [is, Bool.or_true]
  have passes (id : NodeId) (mem : id ∈ (a.reached h root).takeWhile fun id => !a.isFunction id) :
      ((a.get? id).isNone || a.isFunction id) = false := by
    have other : a.isFunction id = false := by simpa using List.mem_takeWhile_imp mem
    rw [other, Bool.or_false, Option.isNone_eq_false_iff]
    exact nodes id mem
  rw [firstFunction?, walk_eq_reached h, upTo_eq_upTo stops passes, getLast?_upTo, find?_listing]

/-- No function is found where the listing has none. -/
theorem firstFunction?_eq_none {root : NodeId}
    (other : ∀ id ∈ a.listing h root, a.isFunction id = false) : a.firstFunction? root = none := by
  rw [Option.eq_none_iff_forall_ne_some]
  intro id first
  obtain ⟨mem, is⟩ := mem_listing_of_firstFunction h first
  rw [other id mem] at is
  cases is

/-- Where all children are nodes, so is all that is met from a node downward. -/
theorem isSome_of_mem_reached (nodes : ∀ id c, c ∈ a.children id → (a.get? c).isSome = true)
    {root : NodeId} (present : (a.get? root).isSome = true) :
    ∀ id ∈ a.reached h root, (a.get? id).isSome = true := by
  fun_induction reached a h root with
  | case1 root ih =>
    intro id met
    rcases List.mem_cons.mp met with rfl | below
    · exact present
    · obtain ⟨c, -, mem⟩ := List.mem_flatMap.mp below
      exact ih c (nodes root c.1 c.2) id mem

/-- Then the first function of a walk is the first of the listing. -/
theorem firstFunction?_of_nodes (nodes : ∀ id c, c ∈ a.children id → (a.get? c).isSome = true)
    (root : NodeId) : a.firstFunction? root = (a.listing h root).find? a.isFunction := by
  by_cases missing : a.get? root = none
  · have empty := listing_of_missing h missing
    rw [empty, firstFunction?_eq_none h (by simp [empty])]
    rfl
  · refine firstFunction?_eq_find?_listing h fun id mem => ?_
    have present : (a.get? root).isSome = true := Option.isSome_iff_ne_none.mpr missing
    exact isSome_of_mem_reached h nodes present id ((List.takeWhile_subset _) mem)

end descending

/-! ### The tables of sources -/

theorem IsTree.descending {root : NodeId} (tree : a.IsTree root) : a.Descending :=
  fun id c child => .inl (tree.before id c child)

theorem IsTree.isSome_of_mem_children {root : NodeId} (tree : a.IsTree root) {id c : NodeId}
    (child : c ∈ a.children id) : (a.get? c).isSome = true := by
  have inside : id < a.size := by
    by_contra out
    have missing : a.get? id = none := Array.getElem?_eq_none (Nat.le_of_not_lt out)
    rw [children_of_missing missing] at child
    cases child
  have before : c < a.nodes.size := Nat.lt_trans (tree.before id c child) inside
  rw [get?, Array.getElem?_eq_getElem before]
  rfl

/-- What a walk gives on every table in which children that are nodes come before their parents. -/
structure Walks : Prop where
  /-- The loop ends, at whatever places it is to stop, and a walk takes what it takes. -/
  ends : ∀ (a : Arena), a.Descending → ∀ (stop : NodeId → Bool) (root : NodeId)
    (out : List NodeId), a.Pops stop [root] out ↔ out = a.walk stop (a.rootStack root)
  /-- What a loop that never stops visits is the listing. -/
  visits : ∀ (a : Arena) (h : a.Descending) (root : NodeId) (out : List NodeId),
    a.Pops (fun _ => false) [root] out →
      (out.filter fun id => (a.get? id).isSome) = a.listing h root
  /-- So is the pre-order. -/
  preorder : ∀ (a : Arena) (h : a.Descending) (root : NodeId), a.preorder root = a.listing h root
  /-- The first function of the pre-order is found if no place without a node is met before it. -/
  found : ∀ (a : Arena) (h : a.Descending) (root : NodeId),
    (∀ id ∈ (a.reached h root).takeWhile fun id => !a.isFunction id, a.get? id ≠ none) →
      a.firstFunction? root = (a.preorder root).find? a.isFunction
  /-- None is found if the pre-order has none. -/
  missing : ∀ (a : Arena), a.Descending → ∀ root : NodeId,
    (∀ id ∈ a.preorder root, a.isFunction id = false) → a.firstFunction? root = none
  /-- The table of a source is one of these, and no place without a node is met there. -/
  sources : ∀ (file text : String) (s : SourceTree), SourceTree.parse file text = .ok s →
    s.arena.Descending ∧ ∀ id : NodeId,
      s.arena.firstFunction? id = (s.arena.preorder id).find? s.arena.isFunction

/-- **A walk over a table is the recursive listing of its nodes.** -/
theorem walks : Walks where
  ends a h stop root out := by
    constructor
    · intro pops
      rw [pops.eq_reached h, walk_eq_reached h, List.flatMap_singleton]
    · rintro rfl
      exact h.pops_rootStack root
  visits a h root out pops := by
    rw [pops.eq_reached h, List.flatMap_singleton, upTo_eq_self fun _ _ => rfl, listing_eq_filter]
  preorder a h root := preorder_eq_listing h root
  found a h root nodes := by
    rw [preorder_eq_listing h]
    exact firstFunction?_eq_find?_listing h fun id mem =>
      Option.isSome_iff_ne_none.mpr (nodes id mem)
  missing a h root other := by
    rw [preorder_eq_listing h] at other
    exact firstFunction?_eq_none h other
  sources file text s parsed := by
    obtain ⟨tree, -⟩ := SourceTree.isTree_of_parse parsed
    refine ⟨tree.descending, fun id => ?_⟩
    rw [preorder_eq_listing tree.descending]
    exact firstFunction?_of_nodes tree.descending
      (fun _ _ child => tree.isSome_of_mem_children child) id

end Arena

end Shapewire
