/-
A place in a text: how many bytes lie before it and which characters lie after it.

Everything that reads a text moves a cursor forward, and `Cursor.Reaches` is the one
relation that says so: the characters passed over are exactly the difference of the two
rests, and their bytes are exactly the difference of the two offsets.  From it follow both
facts that reading needs, that the rest never grows and that every offset is the start
of a character.
-/
import Shapewire.Text.Span

namespace Shapewire

/-- A place in a text. -/
structure Cursor where
  /-- The number of bytes before the place. -/
  offset : Nat
  /-- The characters after the place. -/
  rest : List Char
deriving DecidableEq, Repr, Inhabited

namespace Cursor

/-- The start of a text. -/
def ofText (text : List Char) : Cursor := ⟨0, text⟩

/-- The next character, if the text has not ended. -/
def peek? (c : Cursor) : Option Char := c.rest.head?

/-- Past the next character, if there is one. -/
def next (c : Cursor) : Cursor :=
  match c.rest with
  | [] => c
  | ch :: cs => ⟨c.offset + ch.utf8Size, cs⟩

/-- Past the next `n` characters, or as many as there are. -/
def skip : Nat → Cursor → Cursor
  | 0, c => c
  | n + 1, c => skip n c.next

/-- Past the characters that satisfy `p`, starting from `offset`. -/
def skipWhileFrom (p : Char → Bool) (offset : Nat) : List Char → Cursor
  | [] => ⟨offset, []⟩
  | ch :: cs => if p ch then skipWhileFrom p (offset + ch.utf8Size) cs else ⟨offset, ch :: cs⟩

/-- Past the longest run of characters that satisfy `p`. -/
def skipWhile (p : Char → Bool) (c : Cursor) : Cursor := skipWhileFrom p c.offset c.rest

/-- The end of the text. -/
def finish (c : Cursor) : Cursor := ⟨c.offset + Text.byteLength c.rest, []⟩

/-- The characters from `c` to the later place `d`. -/
def upTo (c d : Cursor) : List Char := c.rest.take (c.rest.length - d.rest.length)

/-! ### Moving forward -/

/-- The place `d` lies at or after `c` in the same text. -/
def Reaches (c d : Cursor) : Prop :=
  ∃ passed, c.rest = passed ++ d.rest ∧ d.offset = c.offset + Text.byteLength passed

namespace Reaches

theorem refl (c : Cursor) : c.Reaches c := ⟨[], by simp⟩

theorem trans {c d e : Cursor} (h : c.Reaches d) (h' : d.Reaches e) : c.Reaches e := by
  obtain ⟨s, hs, os⟩ := h
  obtain ⟨t, ht, ot⟩ := h'
  exact ⟨s ++ t, by simp [hs, ht], by simp [os, ot, Nat.add_assoc]⟩

theorem length_le {c d : Cursor} (h : c.Reaches d) : d.rest.length ≤ c.rest.length := by
  obtain ⟨s, hs, _⟩ := h
  simp [hs]

theorem upTo_append {c d : Cursor} (h : c.Reaches d) : c.upTo d ++ d.rest = c.rest := by
  obtain ⟨s, hs, _⟩ := h
  simp [upTo, hs]

theorem offset_eq {c d : Cursor} (h : c.Reaches d) :
    d.offset = c.offset + Text.byteLength (c.upTo d) := by
  obtain ⟨s, hs, ho⟩ := h
  simp [upTo, hs, ho]

end Reaches

theorem reaches_next (c : Cursor) : c.Reaches c.next := by
  obtain ⟨offset, _ | ⟨ch, cs⟩⟩ := c
  · exact ⟨[], by simp [next]⟩
  · exact ⟨[ch], by simp [next]⟩

theorem reaches_skip (n : Nat) (c : Cursor) : c.Reaches (c.skip n) := by
  induction n generalizing c with
  | zero => exact .refl c
  | succ n ih => exact (reaches_next c).trans (ih c.next)

theorem reaches_skipWhileFrom (p : Char → Bool) (offset : Nat) (cs : List Char) :
    Reaches ⟨offset, cs⟩ (skipWhileFrom p offset cs) := by
  induction cs generalizing offset with
  | nil => exact .refl _
  | cons ch cs ih =>
    unfold skipWhileFrom
    split
    · exact (reaches_next ⟨offset, ch :: cs⟩).trans (ih _)
    · exact .refl _

theorem reaches_skipWhile (p : Char → Bool) (c : Cursor) : c.Reaches (c.skipWhile p) :=
  reaches_skipWhileFrom p c.offset c.rest

theorem reaches_finish (c : Cursor) : c.Reaches c.finish := ⟨c.rest, by simp [finish]⟩

/-- One step shortens a rest that is not empty. -/
theorem length_next_lt {c : Cursor} {ch : Char} {cs : List Char} (h : c.rest = ch :: cs) :
    c.next.rest.length < c.rest.length := by
  simp [next, h]

/-- A run that starts at a fitting character passes it. -/
theorem length_skipWhile_lt {p : Char → Bool} {c : Cursor} {ch : Char} {cs : List Char}
    (h : c.rest = ch :: cs) (hp : p ch = true) :
    (c.skipWhile p).rest.length < c.rest.length := by
  have := (reaches_skipWhileFrom p (c.offset + ch.utf8Size) cs).length_le
  simp only [skipWhile, h, skipWhileFrom, hp, if_true, List.length_cons] at *
  omega

end Cursor

end Shapewire
