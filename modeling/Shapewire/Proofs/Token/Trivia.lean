/-
What lies between two tokens.

`IsTrivia after cs` says that `cs`, where the text goes on with `after`, is nothing but blanks,
line breaks and comments.  What follows matters for one of them only: a line comment runs to the
end of its line, so behind it stands a line's end or nothing at all.  A block comment runs to the
first closing mark, so there is none within it.

Skipping passes such a stretch, and a token starts where no further trivia does
(`exists_trivia_skipTrivia`, `startsTrivia_skipTrivia`).
-/
import Shapewire.Proofs.Token.Position

namespace Shapewire

namespace Cursor

variable {p : Char → Bool}

theorem rest_skipWhileFrom (p : Char → Bool) (offset : Nat) (cs : List Char) :
    (skipWhileFrom p offset cs).rest = cs.dropWhile p := by
  induction cs generalizing offset with
  | nil => rfl
  | cons ch cs ih =>
    rw [skipWhileFrom, List.dropWhile_cons]
    split
    · exact ih _
    · rfl

/-- A run ends where the first character stands that does not fit. -/
theorem rest_skipWhile (p : Char → Bool) (c : Cursor) : (c.skipWhile p).rest = c.rest.dropWhile p :=
  rest_skipWhileFrom p c.offset c.rest

theorem rest_next {c : Cursor} (here : c.rest = ch :: cs) : c.next.rest = cs := by rw [next, here]

theorem rest_skip (n : Nat) (c : Cursor) : (c.skip n).rest = c.rest.drop n := by
  induction n generalizing c with
  | zero => rfl
  | succ n ih =>
    rw [skip, ih]
    cases here : c.rest with
    | nil => simp [next, here]
    | cons ch cs => rw [rest_next here, List.drop_succ_cons]

theorem upTo_eq {c d : Cursor} {passed : List Char} (split : c.rest = passed ++ d.rest) : c.upTo d = passed := by
  simp [upTo, split]

end Cursor

namespace Token

/-- The line ends here: a character that ends a line comment comes next, or nothing does. -/
def AtLineEnd (cs : List Char) : Prop := ∀ ch ∈ cs.head?, endsLineComment ch = true

/-- The text, with `after` behind it, is nothing but blanks, line breaks and comments. -/
inductive IsTrivia (after : List Char) : List Char → Prop where
  | nil : IsTrivia after []
  | lineBreak (ends : Text.isLineBreak ch = true) (rest : IsTrivia after cs) :
    IsTrivia after (ch :: cs)
  | blank (blank : Text.isBlank ch = true) (rest : IsTrivia after cs) : IsTrivia after (ch :: cs)
  /-- A line comment runs to the end of its line. -/
  | lineComment (within : ∀ ch ∈ body, endsLineComment ch = false)
    (ended : AtLineEnd (cs ++ after)) (rest : IsTrivia after cs) :
    IsTrivia after ('/' :: '/' :: (body ++ cs))
  /-- A block comment runs to the first closing mark. -/
  | blockComment (within : ¬['*', '/'] <:+: body) (rest : IsTrivia after cs) :
    IsTrivia after ('/' :: '*' :: (body ++ '*' :: '/' :: cs))

/-- Whether a blank, a line break or a comment comes next. -/
def startsTrivia : List Char → Bool
  | [] => false
  | ch :: cs => Text.isLineBreak ch || Text.isBlank ch ||
    (ch == '/' && (cs.head? == some '/' || cs.head? == some '*'))

/-! ### Comments -/

/-- What a block comment passes is its text, which holds no closing mark, and the mark. -/
theorem exists_body_of_blockCommentEnd? {offset : Nat} {lineBreak b : Bool} {cs : List Char}
    {stop : Cursor} (closed : blockCommentEnd? offset lineBreak cs = some (stop, b)) :
    ∃ body, cs = body ++ '*' :: '/' :: stop.rest ∧ ¬['*', '/'] <:+: body := by
  fun_induction blockCommentEnd? offset lineBreak cs with
  | case1 => cases closed
  | case2 offset lineBreak cs =>
    cases closed
    exact ⟨[], rfl, by simp⟩
  | case3 offset lineBreak ch cs noMark ih =>
    obtain ⟨body, rfl, within⟩ := ih closed
    refine ⟨ch :: body, rfl, ?_⟩
    intro mark
    rcases List.infix_cons_iff.mp mark with first | later
    · -- The mark would stand right here, where the comment goes on.
      obtain ⟨rfl, second⟩ := List.cons_prefix_cons.mp first
      obtain ⟨tail, rfl⟩ := second
      exact noMark _ rfl rfl
    · exact within later

/-- What a line comment passes is its text, up to the end of the line. -/
theorem exists_body_of_lineComment {c : Cursor} {cs : List Char} (opened : c.rest = '/' :: cs)
    (second : cs.head? = some '/') : ∃ body,
      c.rest = '/' :: '/' :: (body ++ (c.next.skipWhile fun ch => !endsLineComment ch).rest) ∧
      (∀ ch ∈ body, endsLineComment ch = false) ∧
      AtLineEnd (c.next.skipWhile fun ch => !endsLineComment ch).rest := by
  obtain ⟨tail, rfl⟩ : ∃ tail, cs = '/' :: tail := by
    cases cs with
    | nil => cases second
    | cons ch tail => exact ⟨tail, by rw [Option.some.inj second]⟩
  have next : c.next.rest = '/' :: tail := by rw [Cursor.next, opened]
  rw [Cursor.rest_skipWhile, next, List.dropWhile_cons_of_pos (by decide), opened]
  refine ⟨tail.takeWhile fun ch => !endsLineComment ch, ?_, ?_, ?_⟩
  · rw [List.takeWhile_append_dropWhile]
  · intro ch mem
    simpa using List.all_eq_true.mp (List.all_takeWhile (l := tail)) ch mem
  · intro ch mem
    have := List.head?_dropWhile_not (fun ch => !endsLineComment ch) tail
    rw [Option.mem_def.mp mem] at this
    simpa using this

/-! ### Skipping -/

/-- One turn of skipping. -/
theorem skipTrivia_eq {c : Cursor} {ch : Char} {cs : List Char} (here : c.rest = ch :: cs)
    (lineBreak : Bool) :
    skipTrivia c lineBreak =
      if Text.isLineBreak ch then skipTrivia c.next true
      else if Text.isBlank ch then skipTrivia c.next lineBreak
      else if ch = '/' ∧ cs.head? = some '/' then
        skipTrivia (c.next.skipWhile fun ch => !endsLineComment ch) lineBreak
      else if ch = '/' ∧ cs.head? = some '*' then
        match blockCommentEnd? (c.skip 2).offset false (c.skip 2).rest with
        | some (stop, b) => skipTrivia stop (lineBreak || b)
        | none => .unclosed c c.finish lineBreak
      else .skipped c lineBreak := by
  rw [skipTrivia]
  split
  · simp_all
  · rename_i here'
    obtain ⟨rfl, rfl⟩ := List.cons.inj (here.symm.trans here')
    cases blockCommentEnd? (c.skip 2).offset false (c.skip 2).rest <;> rfl

/-- Skipping passes trivia and nothing else. -/
theorem exists_trivia_skipTrivia (c : Cursor) (lineBreak : Bool) : ∃ passed,
    c.rest = passed ++ (skipTrivia c lineBreak).start.rest ∧
      IsTrivia (skipTrivia c lineBreak).start.rest passed := by
  fun_induction skipTrivia c lineBreak with
  | case1 c => exact ⟨[], rfl, .nil⟩
  | case2 c lineBreak ch cs here ends ih =>
    obtain ⟨passed, rest, trivia⟩ := ih
    have next : c.next.rest = cs := by rw [Cursor.next, here]
    refine ⟨ch :: passed, ?_, .lineBreak ends trivia⟩
    rw [here, ← next, rest, List.cons_append]
  | case3 c lineBreak ch cs here _ blank ih =>
    obtain ⟨passed, rest, trivia⟩ := ih
    have next : c.next.rest = cs := by rw [Cursor.next, here]
    refine ⟨ch :: passed, ?_, .blank blank trivia⟩
    rw [here, ← next, rest, List.cons_append]
  | case4 c lineBreak ch cs here _ _ opened ih =>
    obtain ⟨passed, rest, trivia⟩ := ih
    obtain ⟨rfl, second⟩ := opened
    obtain ⟨body, whole, within, ended⟩ := exists_body_of_lineComment here second
    rw [rest] at whole ended
    refine ⟨'/' :: '/' :: (body ++ passed), ?_, .lineComment within ended trivia⟩
    rw [whole]
    simp
  | case5 c lineBreak ch cs here _ _ _ opened stop b closed ih =>
    obtain ⟨passed, rest, trivia⟩ := ih
    obtain ⟨body, inside, within⟩ := exists_body_of_blockCommentEnd? closed
    obtain ⟨rfl, second⟩ := opened
    have whole : c.rest = '/' :: '*' :: (c.skip 2).rest := by
      cases cs with
      | nil => cases second
      | cons ch tail => simp_all [Cursor.skip, Cursor.next]
    refine ⟨'/' :: '*' :: (body ++ '*' :: '/' :: passed), ?_, .blockComment within trivia⟩
    rw [whole, inside, rest]
    simp
  | case6 c => exact ⟨[], rfl, .nil⟩
  | case7 c => exact ⟨[], rfl, .nil⟩

/-- What is not skipped starts no trivia. -/
theorem startsTrivia_skipTrivia {c stop : Cursor} {lineBreak b : Bool}
    (skipped : skipTrivia c lineBreak = .skipped stop b) : startsTrivia stop.rest = false := by
  fun_induction skipTrivia c lineBreak with
  | case1 c _ ended =>
    cases skipped
    rw [ended]
    rfl
  | case2 _ _ _ _ _ _ ih => exact ih skipped
  | case3 _ _ _ _ _ _ _ ih => exact ih skipped
  | case4 _ _ _ _ _ _ _ _ ih => exact ih skipped
  | case5 _ _ _ _ _ _ _ _ _ _ _ _ ih => exact ih skipped
  | case6 => cases skipped
  | case7 c _ ch cs here noBreak noBlank noLine noBlock =>
    cases skipped
    rw [here]
    simp_all [startsTrivia]

end Token

end Shapewire
