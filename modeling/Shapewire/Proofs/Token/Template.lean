/-
Templates and the names within them.

In a template's text three characters have a meaning and are written behind a backslash; any other
stands for itself, line breaks, braces, quote marks and what would open a comment included.  A
piece of a template ends at the backtick or where a substitution opens, and what is read up to there
is the text as it was before it was quoted (`templateRest_of_quoted`).

A substitution by a name holds nothing else, so it is a name and a brace to the scanner, and behind
the brace, which is read again, the next piece (`scan_name`, `scan_brace`, `rescanTemplate_brace`).
-/
import Shapewire.Proofs.Token.Spacing

namespace Shapewire

/-! ### How templates are written -/

/-- A substitution by a name, and the text behind it. -/
structure Substitution where
  name : List Char
  text : List Char

namespace Template

/-- A character that has a meaning in a template's text. -/
def isMark (ch : Char) : Bool := ch == '\\' || ch == '\x60' || ch == '$'

/-- A text as it is written in a template. -/
def quoted (text : List Char) : List Char :=
  text.flatMap fun ch => if isMark ch then ['\\', ch] else [ch]

/-- What is written behind a piece of a template: so many substitutions and the closing mark. -/
def behindPiece : List Substitution → List Char
  | [] => ['\x60']
  | p :: ps => '$' :: '\x7b' :: (p.name ++ '\x7d' :: (quoted p.text ++ behindPiece ps))

/-- The same from behind the mark on that ends the piece. -/
def behindMark : List Substitution → List Char
  | [] => []
  | p :: ps => p.name ++ '\x7d' :: (quoted p.text ++ behindPiece ps)

/-- The template that starts with the text `head`. -/
def written (head : List Char) (ps : List Substitution) : List Char :=
  '\x60' :: (quoted head ++ behindPiece ps)

theorem length_lt_behindPiece (ps : List Substitution) : ps.length < (behindPiece ps).length := by
  induction ps with
  | nil => exact Nat.zero_lt_one
  | cons p ps ih =>
    simp only [behindPiece, List.length_cons, List.length_append]
    omega

end Template

open Template

/-- A name that is no reserved word. -/
def isFreeName : List Char → Bool
  | [] => false
  | ch :: cs => Text.isNameStart ch && cs.all Text.isNamePart &&
    (TokenKind.ofKeyword? (String.ofList (ch :: cs))).isNone

theorem exists_of_isFreeName {name : List Char} (free : isFreeName name = true) :
    ∃ ch cs, name = ch :: cs ∧ Text.isNameStart ch = true ∧ name.all Text.isNamePart = true ∧
      TokenKind.ofKeyword? (String.ofList name) = none := by
  cases name with
  | nil => cases free
  | cons ch cs =>
    simp only [isFreeName, Bool.and_eq_true, Option.isNone_iff_eq_none] at free
    obtain ⟨⟨start, parts⟩, unreserved⟩ := free
    refine ⟨ch, cs, rfl, start, ?_, unreserved⟩
    exact Bool.and_eq_true_iff.mpr ⟨Text.isNamePart_of_isNameStart start, parts⟩

/-! ### Characters that start a name -/

section characters

variable {ch : Char} (start : Text.isNameStart ch = true)

include start

theorem ne_of_isNameStart {mark : Char} (noStart : Text.isNameStart mark = false) : ch ≠ mark := by
  rintro rfl
  cases start.symm.trans noStart

/-- No name starts with one of so many characters from a code on. -/
theorem not_range_of_isNameStart (low length : Nat)
    (noStart : ∀ i < length, Text.isNameStart (Char.ofNat (low + i)) = false) :
    ¬(low ≤ ch.toNat ∧ ch.toNat < low + length) := by
  rintro ⟨above, below⟩
  have here := noStart (ch.toNat - low) (by omega)
  rw [Nat.add_sub_cancel' above, Char.ofNat_toNat, start] at here
  cases here

theorem isDigit_of_isNameStart : ch.isDigit = false := by
  have outside := not_range_of_isNameStart start 48 10 (by decide)
  by_contra digit
  simp only [Char.isDigit, ge_iff_le, UInt32.le_iff_toNat_le, Bool.not_eq_false, Bool.and_eq_true,
    decide_eq_true_eq] at digit
  exact outside ⟨digit.1, Nat.lt_succ_of_le digit.2⟩

theorem isLineBreak_of_isNameStart : Text.isLineBreak ch = false := by
  simp only [Text.isLineBreak, Bool.or_eq_false_iff, beq_eq_false_iff_ne]
  and_intros
  all_goals exact ne_of_isNameStart start (by decide +kernel)

theorem isBlank_of_isNameStart : Text.isBlank ch = false := by
  have outside := not_range_of_isNameStart start 0x2000 11 (by decide +kernel)
  rw [Text.isBlank, Bool.or_eq_false_iff]
  refine ⟨?_, ?_⟩
  · simp only [Bool.or_eq_false_iff, beq_eq_false_iff_ne]
    and_intros
    all_goals exact ne_of_isNameStart start (by decide +kernel)
  · by_contra space
    simp only [Bool.not_eq_false, Bool.and_eq_true, decide_eq_true_eq] at space
    exact outside ⟨space.1, Nat.lt_succ_of_le space.2⟩

/-- A name is no trivia. -/
theorem startsTrivia_of_isNameStart (cs : List Char) : Token.startsTrivia (ch :: cs) = false := by
  have noSlash : ch ≠ '/' := ne_of_isNameStart start (by decide)
  rw [Token.startsTrivia, isLineBreak_of_isNameStart start, isBlank_of_isNameStart start,
    beq_false_of_ne noSlash]
  rfl

end characters

namespace Token

/-- The lexeme is a token of kind `k` with the value `value`, and behind it comes `after`. -/
structure IsLexeme (l : Lexeme) (k : TokenKind) (value after : List Char) : Prop where
  kind : l.kind = .ok k
  value : l.value = value
  rest : l.stop.rest = after

variable {c : Cursor} {text after : List Char} {piece : TemplatePiece} {opening : Nat}

/-! ### Pieces -/

/-- The kind of a piece that so many substitutions come behind. -/
def TemplatePiece.kind (piece : TemplatePiece) : List Substitution → TokenKind
  | [] => piece.closed
  | _ :: _ => piece.broken

/-- A character behind a backslash stands for itself if it would mean something without one. -/
theorem escapeSequence_of_isMark {ch : Char} {cs : List Char}
    (mark : isMark ch = true) (here : c.rest = '\\' :: ch :: cs) :
    escapeSequence c = .char ch c.next.next := by
  simp only [isMark, Bool.or_eq_true, beq_iff_eq] at mark
  rcases mark with (rfl | rfl) | rfl <;>
    simp [escapeSequence, Escape.nexts here, letterEscape?, Text.isLineBreak]

/-- A piece of a template says the text that was quoted, and ends behind its mark. -/
theorem templateRest_of_quoted {ps : List Substitution}
    (here : c.rest = quoted text ++ behindPiece ps) :
    IsLexeme (templateRest piece opening c) (piece.kind ps) text (behindMark ps) := by
  induction text generalizing c with
  | nil =>
    cases ps with
    | nil =>
      rw [templateRest_eq here, if_pos rfl]
      exact ⟨rfl, rfl, Cursor.rest_next here⟩
    | cons p ps =>
      rw [templateRest_eq here, if_neg (by decide), if_pos ⟨rfl, rfl⟩]
      exact ⟨rfl, rfl, by rw [Lexeme.stop_mark, Cursor.rest_skip, here]; rfl⟩
  | cons ch text ih =>
    by_cases mark : isMark ch = true
    · have here' : c.rest = '\\' :: ch :: (quoted text ++ behindPiece ps) := by
        rw [here]
        simp [quoted, mark]
      have rest := ih (Escape.nexts here').2
      rw [takesEscapes_templateRest piece opening c _ here',
        escapeSequence_of_isMark mark here']
      exact ⟨rest.kind, congrArg (ch :: ·) rest.value, rest.rest⟩
    · have here' : c.rest = ch :: (quoted text ++ behindPiece ps) := by
        rw [here]
        simp [quoted, mark]
      have rest := ih (Cursor.rest_next here')
      simp only [isMark, Bool.or_eq_true, beq_iff_eq, not_or] at mark
      rw [templateRest_eq here', if_neg mark.1.2, if_neg (fun broken => mark.2 broken.1),
        if_neg mark.1.1]
      exact ⟨rest.kind, congrArg (ch :: ·) rest.value, rest.rest⟩

/-! ### Names within a template -/

/-- A run of name characters up to a character that is none. -/
theorem nameRun_of_all {name : List Char} (parts : name.all Text.isNamePart = true)
    (stopped : ∀ ch ∈ after.head?, Text.isNamePart ch = false ∧ ch ≠ '\\')
    (here : c.rest = name ++ after) :
    ∃ stop, stop.rest = after ∧ nameRun c = ⟨name, false, stop, none⟩ := by
  induction name generalizing c with
  | nil => exact ⟨c, here, nameRun_stopped (by rwa [here])⟩
  | cons ch name ih =>
    obtain ⟨part, parts⟩ := Bool.and_eq_true_iff.mp parts
    obtain ⟨stop, behind, read⟩ := ih parts (Cursor.rest_next here)
    exact ⟨stop, behind, by rw [nameRun_part here part, read]⟩

/-- A name that is no reserved word is read as one, up to a character that is no part of it. -/
theorem lexeme_of_isFreeName {name : List Char} (free : isFreeName name = true)
    (stopped : ∀ ch ∈ after.head?, Text.isNamePart ch = false ∧ ch ≠ '\\')
    (here : c.rest = name ++ after) : IsLexeme (lexeme c) .identifier name after := by
  obtain ⟨ch, cs, rfl, start, parts, unreserved⟩ := exists_of_isFreeName free
  obtain ⟨stop, behind, read⟩ := nameRun_of_all parts stopped here
  have other {mark : Char} (noStart : Text.isNameStart mark = false) : ch ≠ mark :=
    ne_of_isNameStart start noStart
  have tick : Text.isNameStart '\x60' = false := by decide
  have noQuote : ¬(ch = '"' ∨ ch = '\'') := not_or.mpr ⟨other (by decide), other (by decide)⟩
  have noNumber : ¬StartsNumber ch (cs ++ after) := by
    rintro (digit | ⟨point, -⟩)
    · cases digit.symm.trans (isDigit_of_isNameStart start)
    · exact other (by decide) point
  have dispatch : lexeme c = nameLexeme c := by
    simp only [lexeme, here, List.cons_append, if_neg noQuote, if_neg (other tick), start, true_or,
      if_true]
    exact if_neg noNumber
  rw [dispatch, nameLexeme, read]
  dsimp only
  rw [unreserved]
  exact ⟨rfl, rfl, behind⟩

end Token

namespace Scanner

open Token

/-- The scanner's token is of kind `k` and has the value `value`, and behind it comes `after`. -/
structure Stands (s : Scanner) (k : TokenKind) (value after : List Char) : Prop where
  token : s.token = k
  value : s.value = String.ofList value
  rest : s.here.rest = after

variable {s : Scanner} {k : TokenKind} {value name text after : List Char} {ps : List Substitution}

theorem stands_accept {l : Lexeme} (is : IsLexeme l k value after) :
    (s.accept l).Stands k value after := by
  rw [accept_of_ok is.kind]
  exact ⟨rfl, congrArg String.ofList is.value, is.rest⟩

/-- A token that stands right where the scanner does. -/
theorem stands_scan (none : startsTrivia s.here.rest = false)
    (is : IsLexeme (lexeme s.here) k value after) : s.scan.Stands k value after := by
  rw [scan_of_skipped (skipTrivia_of_not_startsTrivia none)]
  exact stands_accept is

theorem scan_tick (here : s.here.rest = '\x60' :: (quoted text ++ behindPiece ps)) :
    s.scan.Stands (TemplatePiece.first.kind ps) text (behindMark ps) := by
  have dispatch : lexeme s.here = templateRest .first s.here.offset s.here.next := by
    simp [lexeme, here]
  refine stands_scan (by rw [here]; rfl) ?_
  rw [dispatch]
  exact templateRest_of_quoted (Cursor.rest_next here)

theorem scan_name (free : isFreeName name = true) (here : s.here.rest = name ++ '\x7d' :: after) :
    s.scan.Stands .identifier name ('\x7d' :: after) := by
  refine stands_scan ?_ (lexeme_of_isFreeName free (by simp; decide) here)
  obtain ⟨ch, cs, rfl, start, -⟩ := exists_of_isFreeName free
  rw [here]
  exact startsTrivia_of_isNameStart start _

theorem scan_brace (here : s.here.rest = '\x7d' :: after) :
    s.scan.token = .closeBrace ∧ s.scan.start.rest = '\x7d' :: after := by
  have noTrivia : startsTrivia s.here.rest = false := by
    rw [here]
    rfl
  have mark : lexeme s.here = .mark .closeBrace s.here.next := by
    simp only [lexeme, here]
    rfl
  rw [scan_of_skipped (skipTrivia_of_not_startsTrivia noTrivia)]
  refine ⟨?_, ?_⟩
  · rw [mark]
    rfl
  · rw [start_accept]
    exact here

/-- Behind the brace the template goes on. -/
theorem rescanTemplate_brace (here : s.start.rest = '\x7d' :: (quoted text ++ behindPiece ps)) :
    s.rescanTemplate.Stands (TemplatePiece.later.kind ps) text (behindMark ps) :=
  stands_accept (templateRest_of_quoted (Cursor.rest_next here))

end Scanner

end Shapewire
