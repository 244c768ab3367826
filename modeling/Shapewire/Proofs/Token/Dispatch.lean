/-
Which way of reading a token takes.

The first character decides it, and for a point the second.  `ReadBy` lists the ways with what
comes next in each of them, so a proof about any token has a case for each way of reading.  Whatever
is read stands behind trivia; only where a comment is not closed nothing is read at all
(`Scanner.scan_cases`).
-/
import Shapewire.Proofs.Token.Fault
import Shapewire.Proofs.Token.Template

namespace Shapewire

/-- A punctuation mark is no name. -/
theorem TokenKind.isName_of_punctuation? (k : TokenKind) :
    k.punctuation?.isSome = true → k.isName = false := by
  cases k <;> decide

/-- A name is no punctuation mark. -/
theorem TokenKind.isPunctuation_of_isName (k : TokenKind) :
    k.isName = true → k.isPunctuation = false := by
  cases k <;> decide

/-- A reserved word is a name. -/
theorem TokenKind.isName_of_keyword? (k : TokenKind) :
    k.keyword?.isSome = true → k.isName = true := by
  cases k <;> decide

namespace Token

/-- A name starts with this character, raw or escaped. -/
def BeginsName (ch : Char) : Prop := Text.isNameStart ch = true ∨ ch = '\\'

theorem BeginsName.ne {ch mark : Char} (begins : BeginsName ch)
    (noStart : Text.isNameStart mark = false) (noBackslash : mark ≠ '\\') : ch ≠ mark := by
  rcases begins with start | rfl
  · exact ne_of_isNameStart start noStart
  · exact noBackslash.symm

theorem BeginsName.isDigit {ch : Char} (begins : BeginsName ch) : ch.isDigit = false := by
  rcases begins with start | rfl
  · exact isDigit_of_isNameStart start
  · decide

/-- The ways of reading a token at `c`. -/
inductive ReadBy (c : Cursor) : Lexeme → Prop where
  | ended (here : c.rest = []) : ReadBy c (.mark .endOfFile c)
  | string (here : c.rest = quote :: cs) (isQuote : quote = '"' ∨ quote = '\'') :
    ReadBy c (stringRest quote c.offset c.next)
  | template (here : c.rest = '\x60' :: cs) : ReadBy c (templateRest .first c.offset c.next)
  | number (here : c.rest = ch :: cs) (starts : StartsNumber ch cs) : ReadBy c (numberLexeme c)
  | name (here : c.rest = ch :: cs) (begins : BeginsName ch) : ReadBy c (nameLexeme c)
  | punctuation (here : c.rest = ch :: cs) (noQuote : ¬(ch = '"' ∨ ch = '\''))
    (noTick : ch ≠ '\x60') (noNumber : ¬StartsNumber ch cs) (noName : ¬BeginsName ch) :
    ReadBy c (punctuationLexeme c ch cs)

/-- The ways of reading that a token of kind `k` comes from. -/
inductive ReadAs (c : Cursor) : TokenKind → Lexeme → Prop where
  | ended : ReadAs c .endOfFile l
  | number : ReadAs c .numericLiteral l
  | string (here : c.rest = quote :: cs) (isQuote : quote = '"' ∨ quote = '\'') :
    ReadAs c .stringLiteral (stringRest quote c.offset c.next)
  | template (here : c.rest = '\x60' :: cs) (piece : k = .plainTemplate ∨ k = .templateHead) :
    ReadAs c k (templateRest .first c.offset c.next)
  | name (here : c.rest = ch :: cs) (begins : BeginsName ch) (isName : k.isName = true) :
    ReadAs c k (nameLexeme c)
  | punctuation (here : c.rest = ch :: cs) (spelled : k.punctuation?.isSome = true) :
    ReadAs c k (punctuationLexeme c ch cs)

variable {c : Cursor} {ch : Char} {cs : List Char} {k : TokenKind}

/-- **Every token is read in one of these ways.** -/
theorem readBy_lexeme (c : Cursor) : ReadBy c (lexeme c) := by
  unfold lexeme
  split
  · exact .ended ‹_›
  · rename_i ch cs here
    split_ifs with quote tick number name
    · exact .string here quote
    · exact .template (tick ▸ here)
    · exact .number here number
    · exact .name here name
    · exact .punctuation here quote tick number name

theorem lexeme_of_quote (here : c.rest = ch :: cs) (quote : ch = '"' ∨ ch = '\'') :
    lexeme c = stringRest ch c.offset c.next := by
  simp only [lexeme, here, if_pos quote]

theorem lexeme_of_tick (here : c.rest = '\x60' :: cs) :
    lexeme c = templateRest .first c.offset c.next := by
  simp [lexeme, here]

/-- No other token starts with a character that starts a name. -/
theorem lexeme_of_beginsName (here : c.rest = ch :: cs) (begins : BeginsName ch) :
    lexeme c = nameLexeme c := by
  have noQuote : ¬(ch = '"' ∨ ch = '\'') :=
    not_or.mpr ⟨begins.ne (by decide) (by decide), begins.ne (by decide) (by decide)⟩
  have noTick : ch ≠ '\x60' := begins.ne (by decide) (by decide)
  have noNumber : ¬StartsNumber ch cs := by
    rintro (digit | ⟨point, -⟩)
    · cases digit.symm.trans begins.isDigit
    · exact begins.ne (by decide) (by decide) point
  simp only [lexeme, here, if_neg noQuote, if_neg noTick]
  exact (if_neg noNumber).trans (if_pos begins)

/-- **The kind of a token tells which way it was read.** -/
theorem readAs_lexeme (is : (lexeme c).kind = .ok k) : ReadAs c k (lexeme c) := by
  have reading := readBy_lexeme c
  generalize lexeme c = l at reading is ⊢
  cases reading with
  | ended =>
    cases is
    exact .ended
  | number =>
    cases is
    exact .number
  | string here isQuote =>
    obtain rfl := kind_stringRest is
    exact .string here isQuote
  | template here => exact .template here (kind_templateRest is)
  | name here begins =>
    refine .name here begins ?_
    rcases kind_nameLexeme is with rfl | word
    · rfl
    · exact k.isName_of_keyword? (by rw [word]; rfl)
  | punctuation here => exact .punctuation here (kind_punctuationLexeme is)

/-- A name, reserved or not, is read as one. -/
theorem lexeme_of_isName (is : (lexeme c).kind = .ok k) (isName : k.isName = true) :
    ∃ ch cs, c.rest = ch :: cs ∧ BeginsName ch ∧ lexeme c = nameLexeme c := by
  have reading := readAs_lexeme is
  generalize lexeme c = l at reading ⊢
  cases reading with
  | ended | number | string => cases isName
  | template _ piece => rcases piece with rfl | rfl <;> cases isName
  | name here begins => exact ⟨_, _, here, begins, rfl⟩
  | punctuation _ spelled => cases isName.symm.trans (k.isName_of_punctuation? spelled)

/-- A punctuation mark is read where no other token starts. -/
theorem lexeme_of_isPunctuation (is : (lexeme c).kind = .ok k) (mark : k.isPunctuation = true) :
    ∃ ch cs, c.rest = ch :: cs ∧ lexeme c = punctuationLexeme c ch cs := by
  have reading := readAs_lexeme is
  generalize lexeme c = l at reading ⊢
  cases reading with
  | ended | number | string => cases mark
  | template _ piece => rcases piece with rfl | rfl <;> cases mark
  | name _ _ isName => cases mark.symm.trans (k.isPunctuation_of_isName isName)
  | punctuation here => exact ⟨_, _, here, rfl⟩

/-- A comment that is never closed starts where skipping stops. -/
theorem exists_rest_of_unclosed {lineBreak b : Bool} {start stop : Cursor}
    (unclosed : skipTrivia c lineBreak = .unclosed start stop b) :
    ∃ cs, start.rest = '/' :: '*' :: cs := by
  fun_induction skipTrivia c lineBreak with
  | case1 | case7 => cases unclosed
  | case2 _ _ _ _ _ _ ih | case3 _ _ _ _ _ _ _ ih => exact ih unclosed
  | case4 _ _ _ _ _ _ _ _ ih => exact ih unclosed
  | case5 _ _ _ _ _ _ _ _ _ _ _ _ ih => exact ih unclosed
  | case6 c _ ch cs here _ _ _ opened =>
    cases unclosed
    obtain ⟨rfl, second⟩ := opened
    obtain ⟨cs, rfl⟩ := List.head?_eq_some_iff.mp second
    exact ⟨cs, here⟩

end Token

namespace Scanner

open Token

/-- Behind trivia a lexeme is read, or a comment is met that is not closed. -/
theorem scan_cases (s : Scanner) :
    (startsTrivia s.scan.start.rest = false ∧
      ∃ s' : Scanner, s.scan = s'.accept (lexeme s.scan.start)) ∨
    ((∃ cs, s.scan.start.rest = '/' :: '*' :: cs) ∧ s.scan.token = .unknown ∧
      s.scan.error? = some (.unterminatedComment s.scan.tokenPos)) := by
  cases is : skipTrivia s.here false with
  | skipped start lineBreak =>
    have read := scan_of_skipped is
    have same : s.scan.start = start := by rw [read, start_accept]
    rw [same]
    exact .inl ⟨startsTrivia_skipTrivia is, _, read⟩
  | unclosed start stop lineBreak =>
    have unclosed : s.scan.start = start ∧ s.scan.token = .unknown ∧
        s.scan.error? = some (.unterminatedComment start.offset) := by
      rw [scan, is]
      exact ⟨rfl, rfl, rfl⟩
    obtain ⟨same, unknown, fault⟩ := unclosed
    rw [tokenPos, same]
    exact .inr ⟨exists_rest_of_unclosed is, unknown, fault⟩

variable {s : Scanner} {l : Lexeme} {e : ScanError} {ch : Char} {cs : List Char}

/-- A token of a class that neither the end nor a fault is in. -/
theorem isDone_of_class {p : TokenKind → Bool} (is : p s.token = true)
    (noEnd : p .endOfFile = false) (noFault : p .unknown = false) : s.isDone = false := by
  by_contra done
  simp only [isDone, Bool.not_eq_false, Bool.or_eq_true, beq_iff_eq] at done
  rcases done with same | same
  · rw [same, noEnd] at is
    cases is
  · rw [same, noFault] at is
    cases is

/-- Where no comment starts a lexeme is read. -/
theorem exists_accept_of_ne_slash (here : s.scan.start.rest = ch :: cs) (noSlash : ch ≠ '/') :
    ∃ s' : Scanner, s.scan = s'.accept (lexeme s.scan.start) := by
  rcases s.scan_cases with ⟨-, read⟩ | ⟨⟨cs', opened⟩, -⟩
  · exact read
  · obtain ⟨rfl, -⟩ := List.cons.inj (here.symm.trans opened)
    exact absurd rfl noSlash

/-- The fault of a token is that of the lexeme where it starts. -/
theorem kind_of_error? (unknown : s.scan.token = .unknown) (fault : s.scan.error? = some e)
    (noComment : ∀ pos, e ≠ .unterminatedComment pos) :
    (lexeme s.scan.start).kind = .error e := by
  rcases s.scan_cases with ⟨-, s', read⟩ | ⟨-, -, unclosed⟩
  · cases is : (lexeme s.scan.start).kind with
    | ok k =>
      rw [read, accept_of_ok is] at unknown
      cases unknown
      exact absurd is (kind_lexeme_ne_unknown _)
    | error e =>
      rw [read, accept, is] at fault
      rw [Option.some.inj fault]
  · exact absurd (Option.some.inj (fault.symm.trans unclosed)) (noComment _)

end Scanner

end Shapewire
