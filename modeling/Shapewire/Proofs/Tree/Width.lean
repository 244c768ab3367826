/-
How wide the numbers of a node table are.

Positions in a text and places in a table are numbers without a bound, and what is kept of each may
be 32 bits.  Nothing is lost by that as long as the text has fewer than `UInt32.size` bytes and the
table no more than `Arena.capacity` nodes: every span is `Narrow` then, and every slot is what its 32
bits say, of which the largest number says that there is nothing (`narrow_of_parse`).  The pools need
no bound of their own, because every record in them is the record of some node
(`Typed.size_pool_le`).

What a larger source would do is not said.
-/
import Mathlib.Data.Fintype.Card
import Shapewire.Proofs.Tree.Spans

namespace Shapewire

namespace Arena

/-- A slot in 32 bits. -/
def packSlot (slot : Option Nat) : UInt32 := UInt32.ofNat (slot.getD capacity)

/-- What 32 bits say of a slot. -/
def unpackSlot (word : UInt32) : Option Nat :=
  if word.toNat = capacity then none else some word.toNat

/-- Slots that refer to a place below `capacity`, or to none, can be told from their 32 bits. -/
theorem unpackSlot_packSlot {slot : Option Nat} (below : ∀ k ∈ slot, k < capacity) :
    unpackSlot (packSlot slot) = slot := by
  have narrow : slot.getD capacity < UInt32.size := by
    cases slot with
    | none => decide
    | some k => exact Nat.lt_trans (below k rfl) (by decide)
  rw [unpackSlot, packSlot, UInt32.toNat_ofNat_of_lt' narrow]
  cases slot with
  | none => rfl
  | some k => exact if_neg (Nat.ne_of_lt (below k rfl))

/-- Nothing is lost of the table where 32 bits are kept of each of its numbers. -/
structure Narrow (a : Arena) : Prop where
  spans : ∀ id n, a.get? id = some n → n.span.Narrow
  /-- The place of a node is none that says that there is no node. -/
  places : ∀ id n, a.get? id = some n → unpackSlot (packSlot (some id)) = some id
  /-- So is the place of its record. -/
  data : ∀ id n, a.get? id = some n → unpackSlot (packSlot n.data?) = n.data?
  parents : ∀ id, unpackSlot (packSlot (a.parent? id)) = a.parent? id
  children : ∀ id, ∀ c ∈ a.children id, unpackSlot (packSlot (some c)) = some c

theorem get?_lt {a : Arena} {id : NodeId} {n : Node} (found : a.get? id = some n) : id < a.size :=
  (Array.getElem?_eq_some_iff.mp found).1

namespace Typed

variable {a : Arena}

/-- There are no more records of one form than nodes. -/
theorem size_pool_le (typed : a.Typed) (p : Pool) : (a.pool p).size ≤ a.size := by
  have owned : ∀ k : Fin (a.pool p).size, ∃ id : Fin a.size, ∃ n,
      a.get? id = some n ∧ n.data? = some k.val := by
    intro k
    obtain ⟨id, ⟨n, found, -, data⟩, -⟩ := typed.owner p k.val k.isLt
    exact ⟨⟨id, get?_lt found⟩, n, found, data⟩
  choose owner node found data using owned
  have injective : Function.Injective owner := by
    intro k l same
    have both : node k = node l := Option.some.inj ((found k).symm.trans (same ▸ found l))
    exact Fin.ext (Option.some.inj ((data k).symm.trans (both ▸ data l)))
  simpa using Fintype.card_le_of_injective owner injective

/-- The record of a node lies in a pool. -/
theorem data_lt (typed : a.Typed) {id : NodeId} {n : Node} (found : a.get? id = some n) {k : Nat}
    (data : n.data? = some k) : k < a.size := by
  obtain ⟨p, r, form, read, -⟩ := typed.answered id n found (by simp [data])
  rw [Arena.read, if_pos form, data, Option.bind_some] at read
  exact Nat.lt_of_lt_of_le (Array.getElem?_eq_some_iff.mp read).1 (typed.size_pool_le p)

end Typed

namespace IsTree

variable {a : Arena} {root : NodeId}

theorem child_lt (tree : a.IsTree root) {id c : NodeId} (child : c ∈ a.children id) :
    c < a.size := by
  cases found : a.get? id with
  | none => simp [Arena.children, found] at child
  | some n => exact Nat.lt_trans (tree.before id c child) (get?_lt found)

theorem parent_lt (tree : a.IsTree root) {id parent : NodeId} (above : a.parent? id = some parent) :
    parent < a.size := by
  have child := (tree.parent id parent).mp above
  cases found : a.get? parent with
  | none => simp [Arena.children, found] at child
  | some n => exact get?_lt found

/-- A tree that is not too large takes no wide numbers beside those of its spans. -/
theorem narrow (tree : a.IsTree root) (typed : a.Typed) (small : a.size ≤ capacity)
    (spans : ∀ id n, a.get? id = some n → n.span.Narrow) : a.Narrow := by
  have kept {slot : Option Nat} (inside : ∀ k ∈ slot, k < a.size) :
      unpackSlot (packSlot slot) = slot :=
    unpackSlot_packSlot fun k mem => Nat.lt_of_lt_of_le (inside k mem) small
  have place (k : Nat) (inside : k < a.size) : unpackSlot (packSlot (some k)) = some k :=
    kept fun _ same => Option.some.inj same ▸ inside
  exact {
    spans
    places := fun id n found => place id (get?_lt found)
    data := fun id n found => kept fun k data => typed.data_lt found data
    parents := fun id => kept fun k above => tree.parent_lt above
    children := fun id c child => place c (tree.child_lt child) }

end IsTree

end Arena

namespace SourceTree

/-- **Nothing is lost of the table of a source** by keeping 32 bits of each number, if neither the
text nor the table is too large. -/
theorem narrow_of_parse {file text : String} {s : SourceTree} (parsed : parse file text = .ok s)
    (short : Text.byteLength text.toList < UInt32.size) (small : s.arena.size ≤ Arena.capacity) :
    s.arena.Narrow := by
  obtain ⟨tree, typed⟩ := isTree_of_parse parsed
  obtain ⟨_, _, _, _, spaced⟩ := spaced_of_parse parsed
  refine tree.narrow typed small fun id n found => ?_
  obtain ⟨span, covered, forward, within, -⟩ := spaced.covers id (Arena.get?_lt found)
  rw [spanOf, found, Option.map_some] at covered
  obtain rfl := Option.some.inj covered
  rw [(text_of_parse parsed).1] at within
  have : n.span.stop < UInt32.size := Nat.lt_of_le_of_lt within short
  exact ⟨Nat.lt_of_le_of_lt forward this, this⟩

end SourceTree

end Shapewire
