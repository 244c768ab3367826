/-
Byte ranges of a text.

Positions count the bytes of the UTF-8 form, so a range may run past the text or cut a
character in two.  `Span.slice` answers only where it does neither: `dropBytes?` and
`takeBytes?` go on a whole character at a time and give up when the count falls inside
one.

Nothing bounds a position here.  Where only 32 bits are kept of each, the ranges are still the same
if they are `Narrow`, as all are that lie within a text of fewer than `UInt32.size` bytes.
-/

namespace Shapewire

namespace Text

/-- The number of bytes a run of characters takes. -/
def byteLength : List Char → Nat
  | [] => 0
  | c :: cs => c.utf8Size + byteLength cs

@[simp] theorem byteLength_nil : byteLength [] = 0 := rfl

@[simp] theorem byteLength_cons (c : Char) (cs : List Char) :
    byteLength (c :: cs) = c.utf8Size + byteLength cs := rfl

@[simp] theorem byteLength_append (s t : List Char) :
    byteLength (s ++ t) = byteLength s + byteLength t := by
  induction s with
  | nil => simp
  | cons c s ih => simp [ih, Nat.add_assoc]

/-- What is left after the first `n` bytes, if a character ends there. -/
def dropBytes? : Nat → List Char → Option (List Char)
  | 0, cs => some cs
  | _ + 1, [] => none
  | n + 1, c :: cs => if c.utf8Size ≤ n + 1 then dropBytes? (n + 1 - c.utf8Size) cs else none

/-- The first `n` bytes, if a character ends there. -/
def takeBytes? : Nat → List Char → Option (List Char)
  | 0, _ => some []
  | _ + 1, [] => none
  | n + 1, c :: cs =>
      if c.utf8Size ≤ n + 1 then (takeBytes? (n + 1 - c.utf8Size) cs).map (c :: ·) else none

theorem dropBytes?_byteLength (s t : List Char) : dropBytes? (byteLength s) (s ++ t) = some t := by
  induction s with
  | nil => simp [dropBytes?]
  | cons c s ih =>
    have hc := c.utf8Size_pos
    obtain ⟨n, hn⟩ : ∃ n, c.utf8Size + byteLength s = n + 1 :=
      ⟨_, (Nat.succ_pred_eq_of_pos (by omega)).symm⟩
    rw [byteLength_cons, hn, List.cons_append, dropBytes?, if_pos (by omega), ← hn]
    simpa using ih

theorem takeBytes?_byteLength (s t : List Char) : takeBytes? (byteLength s) (s ++ t) = some s := by
  induction s with
  | nil => simp [takeBytes?]
  | cons c s ih =>
    have hc := c.utf8Size_pos
    obtain ⟨n, hn⟩ : ∃ n, c.utf8Size + byteLength s = n + 1 :=
      ⟨_, (Nat.succ_pred_eq_of_pos (by omega)).symm⟩
    rw [byteLength_cons, hn, List.cons_append, takeBytes?, if_pos (by omega), ← hn]
    simp [ih]

end Text

/-- A half-open range of byte positions.  Nothing keeps `stop` from preceding `start`; such
a range is empty and slices nothing. -/
structure Span where
  start : Nat
  stop : Nat
deriving DecidableEq, Repr, Inhabited

namespace Span

/-- Both ends fit into 32 bits. -/
def Narrow (s : Span) : Prop := s.start < UInt32.size ∧ s.stop < UInt32.size

/-- The empty range at one position. -/
def point (pos : Nat) : Span := ⟨pos, pos⟩

/-- The number of bytes in the range. -/
def length (s : Span) : Nat := s.stop - s.start

/-- Whether the range holds no byte. -/
def isEmpty (s : Span) : Bool := s.stop ≤ s.start

/-- The smallest range that covers both. -/
def merge (s t : Span) : Span := ⟨min s.start t.start, max s.stop t.stop⟩

/-- The two ends with two dots between. -/
def render (s : Span) : String := s!"{s.start}..{s.stop}"

/-- The characters of `text` in the range, if it is forward, lies within the text and
cuts no character. -/
def slice (s : Span) (text : List Char) : Option (List Char) :=
  if s.stop < s.start then none
  else (Text.dropBytes? s.start text).bind (Text.takeBytes? s.length)

end Span

end Shapewire
