/-
When a line ends before a token.

A token notes whether a line ended in the trivia before it, and `EndsLine` says when that is so.  A
line feed or carriage return ends a line wherever it stands, and either line separator does so
outside of comments only: within a comment it is text like any other.  Reading a template notes the
line breaks that stand for themselves in its text too, as if they stood before it.  Nothing else is
noted (`lineBreak_scan`).

So the note tells whether a line break stands before the token, but for two cases: a comment with a
line separator in it, and a template of several lines (`lineBreak_of_mem_tokenize`).
-/
import Shapewire.Proofs.Token.Session
import Shapewire.Proofs.Token.Spacing

namespace Shapewire

/-- A blank does not end a line. -/
theorem Text.isLineBreak_of_isBlank {ch : Char} (blank : isBlank ch = true) :
    isLineBreak ch = false := by
  rw [Bool.eq_false_iff]
  intro ends
  simp only [isLineBreak, Bool.or_eq_true, beq_iff_eq] at ends
  rcases ends with ((rfl | rfl) | rfl) | rfl <;> cases blank

namespace Token

variable {c : Cursor} {b : Bool} {after : List Char}

/-! ### Skipping, forward -/

theorem skipTrivia_cons {ch : Char} {cs : List Char} (here : c.rest = ch :: cs)
    (skipped : Text.isLineBreak ch = true ∨ Text.isBlank ch = true) :
    skipTrivia c b = skipTrivia c.next (b || Text.isLineBreak ch) := by
  rw [skipTrivia_eq here]
  rcases skipped with ends | blank
  · rw [if_pos ends, ends, Bool.or_true]
  · rw [Text.isLineBreak_of_isBlank blank, if_neg nofun, if_pos blank, Bool.or_false]

/-- A line comment is skipped, and notes nothing. -/
theorem skipTrivia_lineComment {body cs : List Char} (here : c.rest = '/' :: '/' :: (body ++ cs))
    (within : ∀ ch ∈ body, endsLineComment ch = false) (ended : AtLineEnd cs) :
    ∃ stop : Cursor, stop.rest = cs ∧ skipTrivia c b = skipTrivia stop b := by
  refine ⟨c.next.skipWhile fun ch => !endsLineComment ch, ?_, ?_⟩
  · rw [Cursor.rest_skipWhile, Cursor.rest_next here, List.dropWhile_cons_of_pos (by decide),
      List.dropWhile_append_of_pos fun ch mem => by simp [within ch mem]]
    cases cs with
    | nil => rfl
    | cons ch cs => exact List.dropWhile_cons_of_neg (by simp [ended ch rfl])
  · rw [skipTrivia_eq here, if_neg (by decide), if_neg (by decide), if_pos ⟨rfl, rfl⟩]

/-- A block comment is read up to its first closing mark. -/
theorem blockCommentEnd?_append {offset : Nat} {body cs : List Char}
    (within : ¬['*', '/'] <:+: body) : ∃ offset',
      blockCommentEnd? offset b (body ++ '*' :: '/' :: cs)
        = some (⟨offset', cs⟩, b || body.any endsLineComment) := by
  induction body generalizing offset b with
  | nil => exact ⟨offset + 2, by simp [blockCommentEnd?]⟩
  | cons ch body ih =>
    have later : ¬['*', '/'] <:+: body := fun mark => within (List.infix_cons_iff.mpr (.inr mark))
    obtain ⟨offset', read⟩ := ih later
    refine ⟨offset', ?_⟩
    rw [List.cons_append, blockCommentEnd?, read]
    · simp [Bool.or_assoc]
    · -- A mark that starts here would stand within the comment, or end it one character early.
      rintro cs' rfl second
      cases body with
      | nil => simp at second
      | cons ch body =>
        obtain ⟨rfl, -⟩ := List.cons.inj second
        exact within (List.infix_cons_iff.mpr (.inl (by simp)))

/-- A block comment is skipped, and notes a line feed or carriage return in it. -/
theorem skipTrivia_blockComment {body cs : List Char}
    (here : c.rest = '/' :: '*' :: (body ++ '*' :: '/' :: cs)) (within : ¬['*', '/'] <:+: body) :
    ∃ stop : Cursor, stop.rest = cs ∧
      skipTrivia c b = skipTrivia stop (b || body.any endsLineComment) := by
  obtain ⟨offset, closed⟩ : ∃ offset,
      blockCommentEnd? (c.skip 2).offset false (body ++ '*' :: '/' :: cs)
        = some (⟨offset, cs⟩, false || body.any endsLineComment) := blockCommentEnd?_append within
  have behind : (c.skip 2).rest = body ++ '*' :: '/' :: cs := by
    rw [Cursor.rest_skip, here]
    rfl
  refine ⟨⟨offset, cs⟩, rfl, ?_⟩
  rw [skipTrivia_eq here, if_neg (by decide), if_neg (by decide), if_neg (by simp),
    if_pos ⟨rfl, rfl⟩, behind, closed, Bool.false_or]

/-! ### The end of a line -/

/-- Whether a line has ended on the way. -/
def Trivia.lineBreak : Trivia → Bool
  | skipped _ lineBreak | unclosed _ _ lineBreak => lineBreak

/-- What has been noted stays so. -/
theorem lineBreak_skipTrivia_of_noted (noted : b = true) : (skipTrivia c b).lineBreak = true := by
  fun_induction skipTrivia c b with
  | case1 | case6 | case7 => exact noted
  | case2 _ _ _ _ _ _ ih => exact ih rfl
  | case3 _ _ _ _ _ _ _ ih | case4 _ _ _ _ _ _ _ _ ih => exact ih noted
  | case5 _ _ _ _ _ _ _ _ _ _ _ _ ih => exact ih (by rw [noted, Bool.true_or])

/-- A line ends within trivia that `after` comes behind: at a line feed or carriage return, wherever
it stands, or at another line break with nothing but trivia before it, which is in no comment. -/
def EndsLine (after trivia : List Char) : Prop :=
  (∃ ch ∈ trivia, endsLineComment ch = true) ∨ ∃ front ch back, trivia = front ++ ch :: back ∧
    IsTrivia (ch :: (back ++ after)) front ∧ Text.isLineBreak ch = true

/-- What ends a line comment is a line break. -/
theorem isLineBreak_of_endsLineComment {ch : Char} (ends : endsLineComment ch = true) :
    Text.isLineBreak ch = true := by
  rcases Bool.or_eq_true_iff.mp ends with is | is <;> rw [beq_iff_eq.mp is] <;> rfl

/-- What ends a line is a line break. -/
theorem EndsLine.exists_isLineBreak {trivia : List Char} (ends : EndsLine after trivia) :
    ∃ ch ∈ trivia, Text.isLineBreak ch = true := by
  rcases ends with ⟨ch, mem, ends⟩ | ⟨front, ch, back, rfl, -, ends⟩
  · exact ⟨ch, mem, isLineBreak_of_endsLineComment ends⟩
  · exact ⟨ch, by simp, ends⟩

/-- A line that ends within trivia does so where a piece of trivia is put in front. -/
theorem EndsLine.append {piece trivia : List Char} (ends : EndsLine after trivia)
    (more : ∀ front behind, front ++ behind = trivia ++ after → IsTrivia behind front →
      IsTrivia behind (piece ++ front)) : EndsLine after (piece ++ trivia) := by
  rcases ends with ⟨ch, mem, ends⟩ | ⟨front, ch, back, rfl, before, ends⟩
  · exact .inl ⟨ch, List.mem_append_right _ mem, ends⟩
  · exact .inr ⟨piece ++ front, ch, back, by simp, more front _ (by simp) before, ends⟩

/-- What skipping some trivia adds to what is noted: at least whether a line feed or carriage return
is in them, and at most whether a line ends within them. -/
structure Notes (after trivia : List Char) (b b' : Bool) : Prop where
  kept : b = true → b' = true
  noted : (∃ ch ∈ trivia, endsLineComment ch = true) → b' = true
  only : b' = true → b = true ∨ EndsLine after trivia

/-- A piece of trivia in front, with what it adds by itself. -/
theorem Notes.append (piece : List Char) {trivia : List Char} {own b' : Bool}
    (rest : Notes after trivia (b || own) b')
    (noted : (∃ ch ∈ piece, endsLineComment ch = true) → own = true)
    (only : own = true → EndsLine after (piece ++ trivia))
    (more : ∀ front behind, front ++ behind = trivia ++ after → IsTrivia behind front →
      IsTrivia behind (piece ++ front)) : Notes after (piece ++ trivia) b b' where
  kept is := rest.kept (by rw [is, Bool.true_or])
  noted := by
    rintro ⟨ch, mem, ends⟩
    rcases List.mem_append.mp mem with mem | mem
    · exact rest.kept (by rw [noted ⟨ch, mem, ends⟩, Bool.or_true])
    · exact rest.noted ⟨ch, mem, ends⟩
  only := by
    intro is
    rcases rest.only is with before | ends
    · exact (Bool.or_eq_true_iff.mp before).imp_right only
    · exact .inr (ends.append more)

/-- A character in front that is not of a comment. -/
theorem Notes.char {ch : Char} {cs : List Char} {b' : Bool}
    (rest : Notes after cs (b || Text.isLineBreak ch) b')
    (more : ∀ {front behind}, IsTrivia behind front → IsTrivia behind (ch :: front)) :
    Notes after (ch :: cs) b b' := by
  refine rest.append [ch] ?_ ?_ fun _ _ _ => more
  · rintro ⟨_, mem, ends⟩
    rw [← List.mem_singleton.mp mem]
    exact isLineBreak_of_endsLineComment ends
  · exact fun ends => .inr ⟨[], ch, cs, rfl, .nil, ends⟩

/-- Skipping goes through trivia whatever comes behind them, and notes the ends of lines. -/
theorem skipTrivia_append {trivia : List Char} (isTrivia : IsTrivia after trivia)
    (here : c.rest = trivia ++ after) : ∃ (stop : Cursor) (b' : Bool), stop.rest = after ∧
      skipTrivia c b = skipTrivia stop b' ∧ Notes after trivia b b' := by
  induction isTrivia generalizing c b with
  | nil => exact ⟨c, b, here, rfl, id, by simp, .inl⟩
  | @lineBreak ch cs ends rest ih =>
    obtain ⟨stop, b', behind, same, notes⟩ :=
      ih (b := b || Text.isLineBreak ch) (Cursor.rest_next here)
    exact ⟨stop, b', behind, (skipTrivia_cons here (.inl ends)).trans same,
      notes.char (.lineBreak ends)⟩
  | @blank ch cs blank rest ih =>
    obtain ⟨stop, b', behind, same, notes⟩ :=
      ih (b := b || Text.isLineBreak ch) (Cursor.rest_next here)
    exact ⟨stop, b', behind, (skipTrivia_cons here (.inr blank)).trans same,
      notes.char (.blank blank)⟩
  | @lineComment body cs within ended rest ih =>
    obtain ⟨mid, start, same⟩ :=
      skipTrivia_lineComment (b := b) (here.trans (by simp)) within ended
    obtain ⟨stop, b', behind, same', notes⟩ := ih (b := b) start
    rw [← Bool.or_false b] at notes
    refine ⟨stop, b', behind, same.trans same',
      notes.append ('/' :: '/' :: body) ?_ nofun ?_⟩
    · rintro ⟨ch, mem, ends⟩
      simp only [List.mem_cons] at mem
      rcases mem with rfl | rfl | mem
      · cases ends
      · cases ends
      · rw [within ch mem] at ends
        cases ends
    · intro front behind whole before
      exact .lineComment within (whole ▸ ended) before
  | @blockComment body cs within rest ih =>
    have opened : c.rest = '/' :: '*' :: (body ++ '*' :: '/' :: (cs ++ after)) :=
      here.trans (by simp)
    obtain ⟨mid, start, same⟩ := skipTrivia_blockComment (b := b) opened within
    obtain ⟨stop, b', behind, same', notes⟩ := ih (b := b || body.any endsLineComment) start
    have piece (front : List Char) : '/' :: '*' :: (body ++ ['*', '/']) ++ front
        = '/' :: '*' :: (body ++ '*' :: '/' :: front) := by simp
    have all := notes.append ('/' :: '*' :: (body ++ ['*', '/'])) ?_ ?_ ?_
    · exact ⟨stop, b', behind, same.trans same', piece cs ▸ all⟩
    · rintro ⟨ch, mem, ends⟩
      simp only [List.mem_cons, List.mem_append, List.not_mem_nil, or_false] at mem
      rcases mem with rfl | rfl | mem | rfl | rfl
      · cases ends
      · cases ends
      · exact List.any_eq_true.mpr ⟨ch, mem, ends⟩
      · cases ends
      · cases ends
    · intro ends
      obtain ⟨ch, mem, ends⟩ := List.any_eq_true.mp ends
      exact .inl ⟨ch, by simp [mem], ends⟩
    · intro front behind _ before
      rw [piece]
      exact .blockComment within before

/-- **Skipping trivia notes that a line ended if one ends within them**, and not otherwise. -/
theorem skipTrivia_of_isTrivia {trivia : List Char} (isTrivia : IsTrivia after trivia)
    (apart : startsTrivia after = false) (here : c.rest = trivia ++ after) :
    ∃ stop b, stop.rest = after ∧ skipTrivia c false = .skipped stop b ∧
      (b = true ↔ EndsLine after trivia) := by
  obtain ⟨stop, b, rfl, same, notes⟩ := skipTrivia_append (b := false) isTrivia here
  rw [skipTrivia_of_not_startsTrivia (c := stop) apart] at same
  refine ⟨stop, b, rfl, same, fun is => (notes.only is).resolve_left nofun, ?_⟩
  rintro (ends | ⟨front, ch, back, rfl, before, ends⟩)
  · exact notes.noted ends
  · -- Skipping comes to the line break, and goes on with it noted.
    obtain ⟨mid, b', start, same', -⟩ :=
      skipTrivia_append (c := c) (b := false) before (here.trans (by simp))
    rw [same', skipTrivia_cons start (.inl ends), ends, Bool.or_true] at same
    have noted := lineBreak_skipTrivia_of_noted (c := mid.next) rfl
    rwa [same] at noted

/-! ### Line breaks in a template -/

/-- Whether a line break stands for itself in the text of a template.  The one behind a backslash
joins two lines, and so do the two characters that end a line together. -/
def holdsRawBreak : List Char → Bool
  | '\\' :: '\r' :: '\n' :: cs => holdsRawBreak cs
  | '\\' :: _ :: cs => holdsRawBreak cs
  | ch :: cs => Text.isLineBreak ch || holdsRawBreak cs
  | [] => false

/-- A character that is read for itself in a template. -/
def IsPlain (ch : Char) : Prop := ch ≠ '\\' ∧ Text.isLineBreak ch = false

theorem holdsRawBreak_cons {ch : Char} {cs : List Char} (noEscape : ch ≠ '\\') :
    holdsRawBreak (ch :: cs) = (Text.isLineBreak ch || holdsRawBreak cs) := by
  rw [holdsRawBreak] <;> simp [noEscape]

theorem holdsRawBreak_plain {run cs : List Char} (plain : ∀ ch ∈ run, IsPlain ch) :
    holdsRawBreak (run ++ cs) = holdsRawBreak cs := by
  induction run with
  | nil => rfl
  | cons ch run ih =>
    obtain ⟨noEscape, noBreak⟩ := plain ch List.mem_cons_self
    rw [List.cons_append, holdsRawBreak_cons noEscape, noBreak, Bool.false_or]
    exact ih fun ch mem => plain ch (List.mem_cons_of_mem _ mem)

/-- The characters behind the backslash of an escape: one, and digits behind it, or the two that end
a line. -/
inductive IsEscape (after : List Char) : List Char → Prop where
  | one (ch : Char) (digits : List Char) (plain : ∀ d ∈ digits, IsPlain d)
    (alone : ch = '\r' → (digits ++ after).head? ≠ some '\n') : IsEscape after (ch :: digits)
  | twoBreaks : IsEscape after ['\r', '\n']

/-- No line break of an escape stands for itself. -/
theorem IsEscape.holdsRawBreak_eq {escape : List Char} (is : IsEscape after escape)
    (cs : List Char) (head : cs.head? = after.head?) :
    holdsRawBreak ('\\' :: (escape ++ cs)) = holdsRawBreak cs := by
  cases is with
  | one ch digits plain alone =>
    have alone' : ch = '\r' → ∀ cs', digits ++ cs ≠ '\n' :: cs' := by
      rintro return_ cs' here
      apply alone return_
      rw [List.head?_append, ← head, ← List.head?_append, here]
      rfl
    rw [List.cons_append, holdsRawBreak]
    · exact holdsRawBreak_plain plain
    · rintro cs' rfl here
      exact alone' rfl cs' here
  | twoBreaks => rfl

theorem isPlain_of_hexDigits? {digits : List Char} {m n : Nat}
    (is : Text.hexDigits? m digits = some n) : ∀ d ∈ digits, IsPlain d := by
  induction digits generalizing m with
  | nil => nofun
  | cons d digits ih =>
    obtain ⟨value, digit, rest⟩ := Option.bind_eq_some_iff.mp is
    intro d' mem
    rcases List.mem_cons.mp mem with rfl | mem
    · constructor
      · rintro rfl
        cases digit
      · rw [Bool.eq_false_iff]
        intro ends
        simp only [Text.isLineBreak, Bool.or_eq_true, beq_iff_eq] at ends
        rcases ends with ((rfl | rfl) | rfl) | rfl <;> cases digit
    · exact ih rest d' mem

theorem isPlain_of_hexNumeral? {numeral : List Char} {n : Nat}
    (is : Text.hexNumeral? numeral = some n) : ∀ d ∈ numeral, IsPlain d := by
  have unsigned {digits : List Char} (is : Text.hexUnsigned? digits = some n) :
      ∀ d ∈ digits, IsPlain d := by
    cases digits with
    | nil => nofun
    | cons d digits => exact isPlain_of_hexDigits? (Option.filter_eq_some_iff.mp is).1
  unfold Text.hexNumeral? at is
  split at is
  · intro d mem
    rcases List.mem_cons.mp mem with rfl | mem
    · exact ⟨by decide, by decide⟩
    · exact unsigned is d mem
  · exact unsigned is

section escapes

variable {stop : Cursor} {e : Char}

theorem isPlain_of_numericEscape {numeral : List Char} {around : Nat}
    (is : numericEscape c numeral around = .char e stop) : ∀ d ∈ numeral, IsPlain d := by
  unfold numericEscape at is
  split at is
  · cases is
  · rename_i value
    exact isPlain_of_hexNumeral? value

theorem exists_digits_fixedEscape {n : Nat} (is : fixedEscape n c = .char e stop) :
    ∃ digits, c.rest = digits ++ stop.rest ∧ ∀ d ∈ digits, IsPlain d := by
  unfold fixedEscape at is
  split at is
  · rename_i enough
    obtain ⟨rfl, -⟩ := numericEscape_of_char is
    refine ⟨c.rest.take n, ?_, isPlain_of_numericEscape is⟩
    rw [Cursor.rest_skip, enough, Nat.add_zero, List.take_append_drop]
  · cases is

theorem exists_digits_unicodeEscape (is : unicodeEscape c = .char e stop) :
    ∃ digits, c.rest = digits ++ stop.rest ∧ ∀ d ∈ digits, IsPlain d := by
  by_cases braced : c.rest.head? = some '\x7b'
  · obtain ⟨cs, here⟩ := List.head?_eq_some_iff.mp braced
    rw [unicodeEscape_braced here] at is
    split at is
    · rename_i closed
      obtain ⟨numeral, tail, rfl, within⟩ := exists_closed closed
      rw [takeWhile_closed within] at is
      obtain ⟨rfl, -⟩ := numericEscape_of_char is
      refine ⟨'\x7b' :: (numeral ++ ['\x7d']), ?_, ?_⟩
      · rw [Cursor.rest_skip, here]
        simp [List.drop_append]
      · intro d mem
        simp only [List.mem_cons, List.mem_append, List.not_mem_nil, or_false] at mem
        rcases mem with rfl | mem | rfl
        · exact ⟨by decide, by decide⟩
        · exact isPlain_of_numericEscape is d mem
        · exact ⟨by decide, by decide⟩
    · cases is
  · rw [unicodeEscape_fixed braced] at is
    exact exists_digits_fixedEscape is

/-- What stands behind a backslash is what the escape takes, and then what is left. -/
def Escape.Takes (r : Escape) (cs : List Char) : Prop :=
  ∃ escape, cs = escape ++ r.stop.rest ∧ IsEscape r.stop.rest escape

variable {r : Escape} {ch : Char} {cs : List Char}

/-- An escape that takes one character, which is not the first of two that end a line. -/
theorem Escape.takes_of_one (behind : r.stop.rest = cs) (alone : ch = '\r' → cs.head? ≠ some '\n') :
    r.Takes (ch :: cs) := by
  subst behind
  exact ⟨[ch], rfl, .one ch [] nofun alone⟩

/-- An escape whose digits stand behind the letter `ch`. -/
theorem Escape.takes_of_digits (noReturn : ch ≠ '\r') (noJoin : ∀ stop, r ≠ .join stop)
    (sound : ∀ stop, r ≠ .invalid stop)
    (split : ∀ e stop, r = .char e stop →
      ∃ digits, cs = digits ++ stop.rest ∧ ∀ d ∈ digits, IsPlain d) : r.Takes (ch :: cs) := by
  cases r with
  | invalid stop => exact absurd rfl (sound stop)
  | join stop => exact absurd rfl (noJoin stop)
  | char e stop =>
    obtain ⟨digits, rfl, plain⟩ := split e stop rfl
    exact ⟨ch :: digits, rfl, .one ch digits plain fun is => absurd is noReturn⟩

/-- An escape that is sound takes one character behind its backslash, and digits behind it, or the
end of a line. -/
theorem Escape.takes_escapeSequence (here : c.rest = '\\' :: cs)
    (sound : ∀ stop, escapeSequence c ≠ .invalid stop) : (escapeSequence c).Takes cs := by
  have letter : c.next.rest = cs := Cursor.rest_next here
  revert sound
  unfold escapeSequence
  dsimp only
  rw [letter]
  cases cs with
  | nil => exact fun sound => absurd rfl (sound c.next)
  | cons ch cs =>
    have behind : c.next.next.rest = cs := Cursor.rest_next letter
    dsimp only
    cases cooked : letterEscape? ch with
    | some e =>
      intro _
      refine takes_of_one behind ?_
      rintro rfl
      cases cooked
    | none =>
      dsimp only
      split_ifs with zero hex unicode two
      · exact fun _ => takes_of_one behind fun is => absurd (zero.1.symm.trans is) (by decide)
      · intro sound
        refine takes_of_digits (by rw [hex]; decide) (fun _ => fixedEscape_ne_join 2) sound ?_
        exact behind ▸ fun _ _ => exists_digits_fixedEscape
      · intro sound
        refine takes_of_digits (by rw [unicode]; decide) (fun _ => unicodeEscape_ne_join) sound ?_
        exact behind ▸ fun _ _ => exists_digits_unicodeEscape
      · obtain ⟨rfl, second⟩ := two
        obtain ⟨cs, rfl⟩ := List.head?_eq_some_iff.mp second
        intro _
        refine ⟨['\r', '\n'], ?_, .twoBreaks⟩
        rw [Escape.stop, Cursor.rest_next behind]
        rfl
      · exact fun _ => takes_of_one behind fun is second => two ⟨is, second⟩
      · exact fun _ => takes_of_one behind fun is second => two ⟨is, second⟩

end escapes

/-- What the rest of a template passes, with the line breaks in it. -/
structure Passes (c : Cursor) (l : Lexeme) (passed : List Char) : Prop where
  split : c.rest = passed ++ l.stop.rest
  nonempty : passed ≠ []
  lineBreak : l.lineBreak = holdsRawBreak passed

/-- An escape in front of what is passed. -/
theorem Passes.escape {l : Lexeme} {cs passed : List Char} {r : Escape}
    (rest : Passes r.stop l passed) (here : c.rest = '\\' :: cs)
    (is : escapeSequence c = r) (sound : ∀ stop, r ≠ .invalid stop) :
    ∃ passed, Passes c l passed := by
  subst is
  obtain ⟨escape, rfl, isEscape⟩ := Escape.takes_escapeSequence here sound
  have head : passed.head? = (escapeSequence c).stop.rest.head? := by
    rw [rest.split, List.head?_append_of_ne_nil _ rest.nonempty]
  refine ⟨'\\' :: (escape ++ passed), ?_, by simp, ?_⟩
  · rw [here, rest.split]
    simp
  · rw [isEscape.holdsRawBreak_eq passed head, rest.lineBreak]

/-- Reading a template notes the line breaks that stand for themselves in it. -/
theorem exists_passes_templateRest {piece : TemplatePiece} {opening : Nat} {k : TokenKind}
    (is : (templateRest piece opening c).kind = .ok k) :
    ∃ passed, Passes c (templateRest piece opening c) passed := by
  fun_induction templateRest piece opening c with
  | case1 | case6 => cases is
  | case2 c cs here =>
    refine ⟨['\x60'], ?_, by simp, rfl⟩
    rw [Lexeme.stop_mark, Cursor.rest_next here, here]
    rfl
  | case3 c ch cs here noTick broken =>
    obtain ⟨rfl, second⟩ := broken
    obtain ⟨cs, rfl⟩ := List.head?_eq_some_iff.mp second
    refine ⟨['$', '\x7b'], ?_, by simp, rfl⟩
    rw [Lexeme.stop_mark, Cursor.rest_skip, here]
    rfl
  | case4 c cs e stop escape here _ _ ih =>
    obtain ⟨passed, rest⟩ := ih is
    have cooked : Passes stop ((templateRest piece opening stop).cons e) passed :=
      ⟨rest.split, rest.nonempty, rest.lineBreak⟩
    exact Passes.escape (r := .char e stop) cooked here escape (by simp)
  | case5 c cs stop escape here _ _ ih =>
    obtain ⟨passed, rest⟩ := ih is
    exact Passes.escape (r := .join stop) rest here escape (by simp)
  | case7 c ch cs here noTick notBroken noEscape ih =>
    obtain ⟨passed, rest⟩ := ih is
    have split := rest.split
    rw [Cursor.rest_next here] at split
    refine ⟨ch :: passed, ?_, by simp, ?_⟩
    · rw [here, split]
      rfl
    · rw [holdsRawBreak_cons noEscape, ← rest.lineBreak]
      rfl

theorem lineBreak_stringRest {quote : Char} {opening : Nat} :
    (stringRest quote opening c).lineBreak = false := by
  fun_induction stringRest quote opening c with
  | case1 | case2 | case3 | case6 => rfl
  | case4 _ _ _ _ _ _ _ _ ih | case5 _ _ _ _ _ _ _ ih | case7 _ _ _ _ _ _ _ ih => exact ih

theorem lineBreak_nameLexeme : (nameLexeme c).lineBreak = false := by
  unfold nameLexeme
  dsimp only
  split
  · rfl
  · split <;> rfl

theorem lineBreak_punctuationLexeme {ch : Char} {cs : List Char} :
    (punctuationLexeme c ch cs).lineBreak = false := by
  unfold punctuationLexeme
  split <;> rfl

/-- The text of a token is a template with a line break that stands for itself. -/
def IsBrokenTemplate (token : List Char) : Prop :=
  token.head? = some '\x60' ∧ holdsRawBreak token = true

/-- Reading a token notes line breaks if it is a template that holds some, and not otherwise. -/
theorem lineBreak_lexeme {token : List Char} {k : TokenKind} (is : (lexeme c).kind = .ok k)
    (split : c.rest = token ++ (lexeme c).stop.rest) :
    (lexeme c).lineBreak = true ↔ IsBrokenTemplate token := by
  by_cases tick : c.rest.head? = some '\x60'
  · obtain ⟨cs, here⟩ := List.head?_eq_some_iff.mp tick
    have read : lexeme c = templateRest .first c.offset c.next := by simp [lexeme, here]
    rw [read] at is split ⊢
    obtain ⟨passed, template⟩ := exists_passes_templateRest is
    obtain rfl : token = '\x60' :: passed := by
      apply List.append_cancel_right
      rw [← split, here, List.cons_append, ← template.split, Cursor.rest_next here]
    rw [template.lineBreak, IsBrokenTemplate, holdsRawBreak_cons (by decide)]
    simp [Text.isLineBreak]
  · have other : token.head? ≠ some '\x60' := by
      intro first
      rw [split, List.head?_append, first] at tick
      exact tick rfl
    refine iff_of_false ?_ fun broken => other broken.1
    rw [Bool.not_eq_true]
    unfold lexeme
    split
    · rfl
    · rename_i ch cs here
      rw [here] at tick
      split
      · exact lineBreak_stringRest
      · rw [if_neg (by rintro rfl; exact tick rfl)]
        split
        · rfl
        · split
          · exact lineBreak_nameLexeme
          · exact lineBreak_punctuationLexeme

end Token

/-- A place of a text is known by the bytes before it. -/
theorem Cursor.Reaches.rest_eq {text before rest : List Char} {c : Cursor}
    (h : (ofText text).Reaches c) (whole : text = before ++ rest)
    (offset : c.offset = Text.byteLength before) : c.rest = rest := by
  have here := h.at?_offset
  rw [at?, offset, whole, Text.dropBytes?_byteLength, Option.map_some] at here
  rw [← Option.some.inj here]

namespace Scanner

open Token

/-- A token of a text is what is read somewhere in it. -/
theorem exists_scan_of_mem_tokenize {text : List Char} {t : Scanner} (mem : t ∈ tokenize text) :
    ∃ s : Scanner, (Cursor.ofText text).Reaches s.here ∧ t = s.scan := by
  have each : ∀ t ∈ tokenize text,
      ∃ s : Scanner, (Cursor.ofText text).Reaches s.here ∧ t = s.scan :=
    forall_mem_tokens (.refl _) fun s h => ⟨s, h, rfl⟩
  exact each t mem

/-- What a token notes, wherever its text divides. -/
theorem lineBreak_scan {s : Scanner} {text before trivia token after : List Char}
    (h : (Cursor.ofText text).Reaches s.here) (known : s.scan.token ≠ .unknown)
    (divides : s.scan.Divides text before trivia token after) :
    s.scan.lineBreak = true ↔ EndsLine (token ++ after) trivia ∨ IsBrokenTemplate token := by
  have here : s.here.rest = trivia ++ (token ++ after) := by
    refine h.rest_eq (by simpa using divides.whole) ?_
    rw [← fullStart_scan]
    exact divides.fullStart
  obtain ⟨start, b, startRest, skipped, ends⟩ :=
    skipTrivia_of_isTrivia divides.between (divides.apart known) here
  have stop : s.scan.here.rest = after :=
    (h.trans s.reaches_scan).rest_eq divides.whole divides.stop
  have read := scan_of_skipped skipped
  cases is : (lexeme start).kind with
  | error e =>
    rw [read, accept, is] at known
    exact absurd rfl known
  | ok k =>
    rw [read, here_accept] at stop
    rw [read, accept_of_ok is]
    dsimp only
    rw [Bool.or_eq_true, ends, lineBreak_lexeme is (startRest.trans (by rw [stop]))]

/-- A line break in a comment that is none of those which end a line comment. -/
def SeparatorInComment (after trivia : List Char) : Prop :=
  ∃ front ch back, trivia = front ++ ch :: back ∧ Text.isLineBreak ch = true ∧
    endsLineComment ch = false ∧ ¬IsTrivia (ch :: (back ++ after)) front

/-- **A token notes that a line ended before it** at a line feed or carriage return in its trivia,
at another line break outside of comments, and also for a line break in its own text if it is a
template.  So it tells whether there is a line break before it, unless a line separator stands in a
comment there or the token is a template of several lines. -/
theorem lineBreak_of_mem_tokenize {text : List Char} {t : Scanner} (mem : t ∈ tokenize text)
    (known : t.token ≠ .unknown) : ∃ before trivia token after,
      t.Divides text before trivia token after ∧
      (t.lineBreak = true ↔ EndsLine (token ++ after) trivia ∨ IsBrokenTemplate token) ∧
      (¬SeparatorInComment (token ++ after) trivia → ¬IsBrokenTemplate token →
        (t.lineBreak = true ↔ ∃ ch ∈ trivia, Text.isLineBreak ch = true)) := by
  obtain ⟨s, h, rfl⟩ := exists_scan_of_mem_tokenize mem
  obtain ⟨before, trivia, token, after, divides⟩ := divides_scan h
  have noted := lineBreak_scan h known divides
  refine ⟨before, trivia, token, after, divides, noted, fun noSeparator whole => ?_⟩
  rw [noted, or_iff_left whole]
  refine ⟨EndsLine.exists_isLineBreak, ?_⟩
  rintro ⟨ch, mem, ends⟩
  by_cases feed : endsLineComment ch = true
  · exact .inl ⟨ch, mem, feed⟩
  · obtain ⟨front, back, rfl⟩ := List.append_of_mem mem
    by_contra none
    refine noSeparator ⟨front, ch, back, rfl, ends, by simpa using feed, fun outside => none ?_⟩
    exact .inr ⟨front, ch, back, rfl, outside, ends⟩

/-- A template of two lines, behind a comment with a line separator and an escaped line break. -/
theorem lineBreak_of_mem_tokenize_template :
    ∃ t ∈ tokenize "a /*\u2028*/ + \u2029 \x60\\\n\n\x60".toList, t.token ≠ .unknown ∧
      ∃ before trivia token after,
        t.Divides "a /*\u2028*/ + \u2029 \x60\\\n\n\x60".toList before trivia token after ∧
        (t.lineBreak = true ↔ EndsLine (token ++ after) trivia ∨ IsBrokenTemplate token) ∧
        (¬SeparatorInComment (token ++ after) trivia → ¬IsBrokenTemplate token →
          (t.lineBreak = true ↔ ∃ ch ∈ trivia, Text.isLineBreak ch = true)) := by
  obtain ⟨t, mem, is⟩ : ∃ t ∈ tokenize "a /*\u2028*/ + \u2029 \x60\\\n\n\x60".toList,
      t.token = .plainTemplate := by decide +kernel
  have known : t.token ≠ .unknown := by rw [is]; decide
  exact ⟨t, mem, known, lineBreak_of_mem_tokenize mem known⟩

/-- The name `b` has a line separator before it that it does not note, since that stands in a
comment; the template has no line break before it but notes the one in its text. -/
theorem lineBreak_not_of_separator_not_of_template :
    (∃ t ∈ tokenize "a /*\u2028*/ b \x60\n\x60".toList, ∃ before trivia token after,
      t.Divides "a /*\u2028*/ b \x60\n\x60".toList before trivia token after ∧
      t.token ≠ .unknown ∧ (∃ ch ∈ trivia, Text.isLineBreak ch = true) ∧ t.lineBreak = false) ∧
    (∃ t ∈ tokenize "a /*\u2028*/ b \x60\n\x60".toList, ∃ before trivia token after,
      t.Divides "a /*\u2028*/ b \x60\n\x60".toList before trivia token after ∧
      t.token ≠ .unknown ∧ (∀ ch ∈ trivia, Text.isLineBreak ch = false) ∧ t.lineBreak = true) := by
  have blank {after cs : List Char} (rest : IsTrivia after cs) : IsTrivia after (' ' :: cs) :=
    .blank (by decide) rest
  constructor
  · refine ⟨(ofText "a /*\u2028*/ b \x60\n\x60".toList).scan.scan, by decide +kernel, "a".toList,
      " /*\u2028*/ ".toList, "b".toList, " \x60\n\x60".toList, ⟨by decide +kernel,
        by decide +kernel, by decide +kernel, by decide +kernel, ?_, fun _ => by decide +kernel,
        fun _ => by decide⟩,
      by decide +kernel, ⟨'\u2028', by decide +kernel, by decide +kernel⟩, by decide +kernel⟩
    have closed : ¬['*', '/'] <:+: ['\u2028'] := by decide
    exact blank (.blockComment closed (blank .nil))
  · refine ⟨(ofText "a /*\u2028*/ b \x60\n\x60".toList).scan.scan.scan, by decide +kernel,
      "a /*\u2028*/ b".toList, [' '], "\x60\n\x60".toList, [], ⟨by decide +kernel,
        by decide +kernel, by decide +kernel, by decide +kernel, blank .nil,
        fun _ => by decide +kernel, fun _ => by decide⟩,
      by decide +kernel, ?_, by decide +kernel⟩
    intro ch mem
    rw [List.mem_singleton.mp mem]
    rfl

end Scanner

end Shapewire
