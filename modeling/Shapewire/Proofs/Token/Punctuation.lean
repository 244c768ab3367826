/-
Punctuation marks are as long as the text lets them be.

Many marks start alike, so which one is read depends on the characters behind the first.  The
patterns of `punctuator?`, with the length it takes each mark to have, and the table of spellings
`TokenKind.punctuation?` are two accounts of the marks.  They agree on what a mark is spelled like
and how long that is (`spelling_of_punctuator?`), and what is read is never shorter than a mark of
the table that fits (`length_le_of_punctuator?`): more text behind the same beginning can only lead
to a longer mark.  One mark is left out of this.  A question mark
and a point in front of a digit are read apart, since the point belongs to the digit.

A character that starts no mark of the table, and no other token, is a fault of its own
(`lexeme_eq_fault_iff`).
-/
import Shapewire.Proofs.Token.Dispatch

namespace Shapewire

/-- Every spelling of a mark takes a character. -/
theorem TokenKind.punctuation?_ne_empty (k : TokenKind) : k.punctuation? ≠ some "" := by
  cases k <;> decide

namespace Token

variable {c : Cursor} {ch : Char} {cs : List Char} {k : TokenKind}

/-! ### The longest mark -/

/-- A question mark and a point come next, and the point starts a number. -/
def BeforeFraction (cs : List Char) : Prop :=
  ∃ tail, cs = '?' :: '.' :: tail ∧ tail.head?.any Char.isDigit = true

/-- The text is that of a mark which comes next, and no mark that comes next has a longer one. -/
structure IsLongestMark (text : String) (cs : List Char) : Prop where
  fits : text.toList <+: cs
  longest : ∀ k' text', TokenKind.punctuation? k' = some text' → text'.toList <+: cs →
    text'.length ≤ text.length

theorem isDigit_of_not_beforeFraction (noFraction : ¬BeforeFraction ('?' :: '.' :: cs)) :
    ¬cs.head?.any Char.isDigit = true :=
  fun digit => noFraction ⟨cs, rfl, digit⟩

/-- With a question mark before more text a mark gets no shorter, but before a fraction. -/
theorem length_question_le_append {mark mark' : TokenKind × Nat} {front behind : List Char}
    (noFraction : ¬BeforeFraction ('?' :: (front ++ behind)))
    (is : punctuator? '?' front = some mark)
    (is' : punctuator? '?' (front ++ behind) = some mark') : mark.2 ≤ mark'.2 := by
  obtain ⟨-, -, -, takes⟩ := punctuation?_of_punctuator? is'
  cases is
  split
  case h_1 =>
    cases is'
    exact Nat.le_refl _
  case h_2 =>
    cases is'
    rw [List.cons_append]
    split <;> first | decide | grind
  case h_3 cs =>
    cases is'
    have nothing : ¬(cs ++ behind).head?.any Char.isDigit = true :=
      isDigit_of_not_beforeFraction noFraction
    show _ ≤ (if (cs ++ behind).head?.any Char.isDigit then (TokenKind.question, 1)
      else (.questionDot, 2)).2
    rw [if_neg nothing]
    split <;> decide
  case h_4 => exact takes

/-- Before more text a mark gets no shorter. -/
theorem length_punctuator?_le_append {mark mark' : TokenKind × Nat} {front behind : List Char}
    (noFraction : ¬BeforeFraction (ch :: (front ++ behind)))
    (is : punctuator? ch front = some mark)
    (is' : punctuator? ch (front ++ behind) = some mark') : mark.2 ≤ mark'.2 := by
  by_cases question : ch = '?'
  · subst question
    exact length_question_le_append noFraction is is'
  · revert is is'
    unfold punctuator?
    split
    all_goals
      intro is is'
      cases is
    all_goals
      cases is'
      try exact Nat.le_refl _
    case h_12 => exact absurd rfl question
    -- Marks that others start with: the same pattern fits, or one that is longer.
    all_goals
      split
      all_goals
        try rw [List.cons_append]
        first | decide | split
      all_goals first | decide | grind

/-- Whether a mark is read is told by its first character. -/
theorem isSome_punctuator? (ch : Char) (cs cs' : List Char) :
    (punctuator? ch cs).isSome = (punctuator? ch cs').isSome := by
  unfold punctuator?
  split <;> rfl

/-- A mark that comes next is what its spelling alone is read as. -/
theorem exists_punctuator?_of_prefix {text : String} (spelled : k.punctuation? = some text)
    (fits : text.toList <+: ch :: cs) :
    ∃ front behind, cs = front ++ behind ∧ punctuator? ch front = some (k, text.length) := by
  obtain ⟨behind, whole⟩ := fits
  cases letters : text.toList with
  | nil =>
    rw [String.toList_eq_nil_iff.mp letters] at spelled
    exact absurd spelled k.punctuation?_ne_empty
  | cons first front =>
    rw [letters] at whole
    obtain ⟨rfl, rfl⟩ := List.cons.inj whole
    rw [← String.ofList_toList (s := text), letters] at spelled
    have own := punctuator?_of_spelling spelled .nil
    have length : text.length = front.length + 1 := congrArg List.length letters
    rw [List.append_nil, ← length] at own
    exact ⟨front, behind, rfl, own⟩

/-- **No mark that comes next is longer than the one that is read.** -/
theorem length_le_of_punctuator? {k' : TokenKind} {n : Nat} {text : String}
    (noFraction : ¬BeforeFraction (ch :: cs)) (is : punctuator? ch cs = some (k, n))
    (spelled : k'.punctuation? = some text) (fits : text.toList <+: ch :: cs) :
    text.length ≤ n := by
  obtain ⟨front, behind, rfl, own⟩ := exists_punctuator?_of_prefix spelled fits
  exact length_punctuator?_le_append noFraction own is

/-- The mark that is read is the longest, but before a fraction. -/
theorem isLongestMark_of_punctuator? {n : Nat} {text : String}
    (noFraction : ¬BeforeFraction (ch :: cs)) (is : punctuator? ch cs = some (k, n))
    (spelled : k.punctuation? = some text) : IsLongestMark text (ch :: cs) where
  fits := by
    obtain ⟨tail, behind, spelled', rfl, -⟩ := spelling_of_punctuator? is
    rw [Option.some.inj (spelled.symm.trans spelled'), String.toList_ofList]
    exact ⟨behind, rfl⟩
  longest := by
    intro k' text' spelled' fits
    obtain ⟨text'', spelled'', rfl, -⟩ := punctuation?_of_punctuator? is
    obtain rfl := Option.some.inj (spelled.symm.trans spelled'')
    exact length_le_of_punctuator? noFraction is spelled' fits

/-- No mark is read exactly where none of the table comes next. -/
theorem punctuator?_eq_none_iff : punctuator? ch cs = none ↔
    ∀ k text, TokenKind.punctuation? k = some text → ¬text.toList <+: ch :: cs := by
  constructor
  · intro none k text spelled fits
    obtain ⟨front, behind, rfl, own⟩ := exists_punctuator?_of_prefix spelled fits
    have same := isSome_punctuator? ch front (front ++ behind)
    rw [own, none] at same
    cases same
  · intro none
    cases is : punctuator? ch cs with
    | none => rfl
    | some mark =>
      obtain ⟨tail, behind, spelled, rfl, -⟩ := spelling_of_punctuator? is
      refine absurd ?_ (none mark.1 _ spelled)
      rw [String.toList_ofList]
      exact ⟨behind, rfl⟩

/-! ### Characters that start no token -/

/-- Neither a string, a template, a number, a name nor a punctuation mark starts with `ch`, where
`cs` comes next. -/
structure StartsNothing (ch : Char) (cs : List Char) : Prop where
  noQuote : ch ≠ '"' ∧ ch ≠ '\''
  noTick : ch ≠ '\x60'
  noDigit : ch.isDigit = false
  noName : ¬BeginsName ch
  noMark : ∀ k text, TokenKind.punctuation? k = some text → ¬text.toList <+: ch :: cs

theorem StartsNothing.not_startsNumber (none : StartsNothing ch cs) : ¬StartsNumber ch cs := by
  rintro (digit | ⟨rfl, -⟩)
  · rw [none.noDigit] at digit
    cases digit
  · exact none.noMark .dot "." rfl (by simp)

section others

variable {bad : Char} {pos opening : Nat}

theorem stringRest_ne_invalidCharacter {quote : Char} :
    (stringRest quote opening c).kind ≠ .error (.invalidCharacter bad pos) := by
  fun_induction stringRest quote opening c with
  | case1 | case2 | case3 | case6 =>
    intro is
    cases is
  | case4 _ _ _ _ _ _ _ _ ih | case5 _ _ _ _ _ _ _ ih | case7 _ _ _ _ _ _ _ ih => exact ih

theorem templateRest_ne_invalidCharacter {piece : TemplatePiece} :
    (templateRest piece opening c).kind ≠ .error (.invalidCharacter bad pos) := by
  fun_induction templateRest piece opening c with
  | case1 | case2 | case3 | case6 =>
    intro is
    cases is
  | case4 _ _ _ _ _ _ _ _ ih | case5 _ _ _ _ _ _ _ ih | case7 _ _ _ _ _ _ _ ih => exact ih

theorem nameLexeme_ne_invalidCharacter :
    (nameLexeme c).kind ≠ .error (.invalidCharacter bad pos) := by
  unfold nameLexeme
  dsimp only
  split
  · nofun
  · split <;> nofun

end others

/-- This fault is met where a character starts no token. -/
theorem startsNothing_of_lexeme {bad : Char} {pos : Nat}
    (is : (lexeme c).kind = .error (.invalidCharacter bad pos)) :
    ∃ cs, c.rest = bad :: cs ∧ StartsNothing bad cs := by
  have reading := readBy_lexeme c
  generalize lexeme c = l at reading is
  cases reading with
  | ended | number => cases is
  | string => exact absurd is stringRest_ne_invalidCharacter
  | template => exact absurd is templateRest_ne_invalidCharacter
  | name => exact absurd is nameLexeme_ne_invalidCharacter
  | punctuation here noQuote noTick noNumber noName =>
    unfold punctuationLexeme at is
    split at is
    · cases is
    · rename_i none
      cases is
      refine ⟨_, here, not_or.mp noQuote, noTick, ?_, noName, punctuator?_eq_none_iff.mp none⟩
      simpa using (not_or.mp noNumber).1

/-- **A character that starts no token is a fault of its own**, and reading stops behind it. -/
theorem lexeme_of_startsNothing (here : c.rest = ch :: cs) (nothing : StartsNothing ch cs) :
    lexeme c = .fault (.invalidCharacter ch c.offset) c.next := by
  have none := punctuator?_eq_none_iff.mpr nothing.noMark
  simp only [lexeme, here, if_neg (not_or.mpr nothing.noQuote), if_neg nothing.noTick]
  refine (if_neg nothing.not_startsNumber).trans ((if_neg nothing.noName).trans ?_)
  rw [punctuationLexeme, none]

/-- Before a fraction a question mark is read alone. -/
theorem lexeme_of_beforeFraction (here : c.rest = '?' :: '.' :: cs)
    (digit : cs.head?.any Char.isDigit = true) : lexeme c = .mark .question (c.skip 1) := by
  have isQuestion : punctuator? '?' ('.' :: cs) = some (.question, 1) :=
    congrArg some (if_pos digit)
  have noName : ¬(Text.isNameStart '?' = true ∨ '?' = '\\') := by decide
  simp only [lexeme, here]
  rw [if_neg (by decide), if_neg (by decide), if_neg (by simp), if_neg noName, punctuationLexeme,
    isQuestion]

/-- A mark is read as its spelling, and reading stops behind it. -/
theorem punctuationLexeme_of_some {n : Nat} (here : c.rest = ch :: cs)
    (is : punctuator? ch cs = some (k, n)) :
    ∃ text stop, k.punctuation? = some text ∧ punctuationLexeme c ch cs = .mark k stop ∧
      String.ofList (c.upTo stop) = text := by
  obtain ⟨tail, behind, spelled, rfl, rfl⟩ := spelling_of_punctuator? is
  refine ⟨_, c.skip (tail.length + 1), spelled, ?_, ?_⟩
  · rw [punctuationLexeme, is]
  · have past : (c.skip (tail.length + 1)).rest = behind := by
      rw [Cursor.rest_skip, here, List.drop_succ_cons]
      exact List.drop_left
    have split : c.rest = ch :: tail ++ (c.skip (tail.length + 1)).rest := by
      rw [past, here]
      rfl
    rw [Cursor.upTo_eq split]

end Token

namespace Scanner

open Token

/-- How marks are read behind the scanner's place. -/
structure ReadsMarks (s : Scanner) : Prop where
  /-- The token is behind all trivia. -/
  trivia : ∃ trivia, s.here.rest = trivia ++ s.scan.start.rest ∧
    IsTrivia s.scan.start.rest trivia ∧ (startsTrivia s.scan.start.rest = true →
      s.scan.error? = some (.unterminatedComment s.scan.tokenPos))
  /-- A mark is the longest that fits, and says nothing beyond its text. -/
  mark : s.scan.token.isPunctuation = true →
    s.scan.token.punctuation? = some s.scan.text ∧ s.scan.value = "" ∧
      (¬BeforeFraction s.scan.start.rest → IsLongestMark s.scan.text s.scan.start.rest)
  /-- A question mark before a fraction stands alone. -/
  fraction : BeforeFraction s.scan.start.rest → s.scan.token = .question
  /-- A character that starts no token is a fault, and the only reason for this one. -/
  invalid : (s.scan.token = .unknown ∧ ∃ ch pos,
      s.scan.error? = some (.invalidCharacter ch pos)) ↔
    ∃ ch cs, s.scan.start.rest = ch :: cs ∧ StartsNothing ch cs
  /-- Reading goes on behind that character. -/
  consumed : ∀ ch pos, s.scan.token = .unknown →
    s.scan.error? = some (.invalidCharacter ch pos) → pos = s.scan.tokenPos ∧
      s.scan.text = String.ofList [ch] ∧ s.scan.start.rest = ch :: s.scan.here.rest

variable {s : Scanner} {bad : Char}

/-- A character is reported where the token starts with it. -/
theorem kind_of_invalidCharacter {pos : Nat} (unknown : s.scan.token = .unknown)
    (fault : s.scan.error? = some (.invalidCharacter bad pos)) :
    (lexeme s.scan.start).kind = .error (.invalidCharacter bad pos) := by
  refine kind_of_error? unknown fault fun start same => ?_
  cases same

/-- A character that starts no token leaves the scanner behind it. -/
theorem scan_of_startsNothing {cs : List Char} (here : s.scan.start.rest = bad :: cs)
    (nothing : StartsNothing bad cs) : s.scan.token = .unknown ∧
      s.scan.error? = some (.invalidCharacter bad s.scan.tokenPos) ∧
      s.scan.here = s.scan.start.next := by
  rcases s.scan_cases with ⟨-, s', read⟩ | ⟨⟨cs', opened⟩, -⟩
  · rw [lexeme_of_startsNothing here nothing] at read
    exact ⟨congrArg token read, congrArg error? read, congrArg Scanner.here read⟩
  · obtain ⟨rfl, rfl⟩ := List.cons.inj (here.symm.trans opened)
    exact absurd ⟨_, rfl⟩ (nothing.noMark .slash "/" rfl)

/-- **A mark is spelled as the table says**, has no value, and is the longest that comes next. -/
theorem mark_scan (mark : s.scan.token.isPunctuation = true) :
    s.scan.token.punctuation? = some s.scan.text ∧ s.scan.value = "" ∧
      (¬BeforeFraction s.scan.start.rest → IsLongestMark s.scan.text s.scan.start.rest) := by
  obtain ⟨is, stop, value⟩ := lexeme_of_scan (isDone_of_class mark rfl rfl)
  obtain ⟨ch, cs, here, read⟩ := lexeme_of_isPunctuation is mark
  rw [read] at is stop value
  cases found : punctuator? ch cs with
  | none =>
    rw [punctuationLexeme, found] at is
    cases is
  | some mark =>
    obtain ⟨k, n⟩ := mark
    obtain ⟨text, stop', spelled, isMark, passed⟩ := punctuationLexeme_of_some here found
    rw [isMark] at is stop value
    have same : s.scan.token = k := (Except.ok.inj is).symm
    have text_eq : s.scan.text = text := by
      rw [Scanner.text, ← stop]
      exact passed
    rw [same, text_eq, ← value, here]
    exact ⟨spelled, rfl, fun noFraction => isLongestMark_of_punctuator? noFraction found spelled⟩

/-- **Marks are read by the table of their spellings**: what is read is spelled as the table says,
it is the longest that fits, and where none fits and no other token starts there is a fault. -/
theorem readsMarks (s : Scanner) : s.ReadsMarks where
  trivia := by
    obtain ⟨trivia, split, isTrivia⟩ := exists_trivia_skipTrivia s.here false
    rw [← start_scan] at split isTrivia
    refine ⟨trivia, split, isTrivia, fun more => ?_⟩
    rcases s.scan_cases with ⟨none, -⟩ | ⟨-, -, unclosed⟩
    · rw [none] at more
      cases more
    · exact unclosed
  mark := mark_scan
  fraction := by
    rintro ⟨tail, here, digit⟩
    obtain ⟨s', read⟩ := exists_accept_of_ne_slash here (by decide)
    rw [lexeme_of_beforeFraction here digit] at read
    exact congrArg token read
  invalid := by
    constructor
    · rintro ⟨unknown, ch, pos, fault⟩
      exact ⟨ch, startsNothing_of_lexeme (kind_of_invalidCharacter unknown fault)⟩
    · rintro ⟨ch, cs, here, nothing⟩
      obtain ⟨unknown, fault, -⟩ := scan_of_startsNothing here nothing
      exact ⟨unknown, ch, _, fault⟩
  consumed := by
    intro ch pos unknown fault
    obtain ⟨cs, here, nothing⟩ := startsNothing_of_lexeme (kind_of_invalidCharacter unknown fault)
    obtain ⟨-, fault', behind⟩ := scan_of_startsNothing here nothing
    rw [fault] at fault'
    cases fault'
    have split : s.scan.start.rest = [ch] ++ s.scan.here.rest := by
      rw [behind, Cursor.rest_next here, here]
      rfl
    exact ⟨rfl, by rw [Scanner.text, Cursor.upTo_eq split], split⟩

example : (tokenize "a>>>=b?.5:c?.d**=#".toList).map text =
    ["a", ">>>=", "b", "?", ".5", ":", "c", "?.", "d", "**=", "#"] := by decide +kernel

end Scanner

end Shapewire
