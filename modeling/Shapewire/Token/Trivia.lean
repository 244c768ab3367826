/-
What lies between two tokens: blanks, line breaks and comments.

A line comment runs up to a line feed or carriage return, a block comment up to the first
closing mark.  Beside the place where the next token starts, skipping reports whether a line
ended on the way; a block comment counts as a line end if it holds a line feed or carriage
return.  A block comment that is never closed is the only way to fail.
-/
import Shapewire.Text.Classes
import Shapewire.Text.Cursor

namespace Shapewire

namespace Token

/-- The outcome of skipping trivia. -/
inductive Trivia where
  /-- A token, or the end, follows. -/
  | skipped (stop : Cursor) (lineBreak : Bool)
  /-- The comment that starts at `start` is never closed. -/
  | unclosed (start stop : Cursor) (lineBreak : Bool)
deriving DecidableEq, Repr

/-- A character that ends a line comment. -/
def endsLineComment (c : Char) : Bool := c == '\n' || c == '\r'

/-- The place after the closing mark of a block comment whose text goes on with `cs`, and
whether a line ended before it. -/
def blockCommentEnd? (offset : Nat) (lineBreak : Bool) : List Char → Option (Cursor × Bool)
  | [] => none
  | '*' :: '/' :: cs => some (⟨offset + 2, cs⟩, lineBreak)
  | ch :: cs => blockCommentEnd? (offset + ch.utf8Size) (lineBreak || endsLineComment ch) cs

theorem reaches_blockCommentEnd? {offset : Nat} {lineBreak : Bool} {cs : List Char}
    {stop : Cursor} {b : Bool} (h : blockCommentEnd? offset lineBreak cs = some (stop, b)) :
    Cursor.Reaches ⟨offset, cs⟩ stop := by
  fun_induction blockCommentEnd? offset lineBreak cs with
  | case1 => simp at h
  | case2 offset lineBreak cs =>
    obtain ⟨rfl, _⟩ : (⟨offset + 2, cs⟩ : Cursor) = stop ∧ lineBreak = b := by simpa using h
    exact ⟨['*', '/'], by simp, by simp [Char.utf8Size]⟩
  | case3 offset lineBreak ch cs _ ih =>
    exact (Cursor.reaches_next ⟨offset, ch :: cs⟩).trans (ih h)

/-- Skips trivia from `c`, where `lineBreak` tells whether a line has ended already. -/
def skipTrivia (c : Cursor) (lineBreak : Bool) : Trivia :=
  match _hc : c.rest with
  | [] => .skipped c lineBreak
  | ch :: cs =>
    if Text.isLineBreak ch then skipTrivia c.next true
    else if Text.isBlank ch then skipTrivia c.next lineBreak
    else if ch = '/' ∧ cs.head? = some '/' then
      skipTrivia (c.next.skipWhile fun ch => !endsLineComment ch) lineBreak
    else if ch = '/' ∧ cs.head? = some '*' then
      match _hb : blockCommentEnd? (c.skip 2).offset false (c.skip 2).rest with
      | some (stop, b) => skipTrivia stop (lineBreak || b)
      | none => .unclosed c c.finish lineBreak
    else .skipped c lineBreak
termination_by c.rest.length
decreasing_by
  · exact Cursor.length_next_lt _hc
  · exact Cursor.length_next_lt _hc
  · have := (Cursor.reaches_skipWhile (fun ch => !endsLineComment ch) c.next).length_le
    have := Cursor.length_next_lt _hc
    omega
  · have := (reaches_blockCommentEnd? _hb).length_le
    have := (Cursor.reaches_skip 1 c.next).length_le
    have := Cursor.length_next_lt _hc
    simp only [Cursor.skip] at *
    omega

/-- Where skipping stops. -/
def Trivia.stop : Trivia → Cursor
  | skipped stop _ | unclosed _ stop _ => stop

theorem reaches_skipTrivia (c : Cursor) (lineBreak : Bool) :
    c.Reaches (skipTrivia c lineBreak).stop := by
  fun_induction skipTrivia c lineBreak with
  | case1 => exact .refl _
  | case2 c _ _ _ _ _ ih => exact (Cursor.reaches_next c).trans ih
  | case3 c _ _ _ _ _ _ ih => exact (Cursor.reaches_next c).trans ih
  | case4 c _ _ _ _ _ _ _ ih =>
    exact ((Cursor.reaches_next c).trans (Cursor.reaches_skipWhile _ _)).trans ih
  | case5 c _ _ _ _ _ _ _ _ _ _ hb ih =>
    exact ((Cursor.reaches_skip 2 c).trans (reaches_blockCommentEnd? hb)).trans ih
  | case6 c => exact Cursor.reaches_finish c
  | case7 => exact .refl _

end Token

end Shapewire
