/-
The text of strings and templates, escape by escape.

Between the marks of a string or of a piece of a template characters stand for themselves or are
escaped.  `EscapeText` lists what may be behind a backslash, and `QuotedText` is a text made of such
pieces, with the characters it stands for.  Every token of this kind is one (`exists_quoted`), and
where its text comes to a backslash behind which no escape is written the token is a fault at that
backslash.

The escapes that give a code are made of hexadecimal digits, with one exception: a sign is read in
front of them (`Scanner.takesCodes`, `Scanner.not_takesCodes_unsigned`).
-/
import Shapewire.Proofs.Token.Name

namespace Shapewire

/-- Behind a character come the others of a text. -/
theorem Cursor.offset_next_add {c : Cursor} {ch : Char} {cs text : List Char}
    (here : c.rest = ch :: cs) :
    c.next.offset + Text.byteLength text = c.offset + Text.byteLength (ch :: text) := by
  rw [Cursor.next, here, Text.byteLength_cons, Nat.add_assoc]

namespace Token

/-! ### Escapes -/

/-- A character behind a backslash that stands for itself in front of `after`. -/
structure IsOrdinary (ch : Char) (after : List Char) : Prop where
  noLetter : ∀ cooked, (ch, cooked) ∉ letterEscapes
  noZero : ch = '0' → after.head?.any Char.isDigit = true
  noCode : ch ≠ 'x' ∧ ch ≠ 'u'
  noBreak : Text.isLineBreak ch = false

/-- What may be written behind a backslash in front of `after`, and what it stands for. -/
inductive EscapeText (signs : List (List Char)) (after : List Char) :
    List Char → List Char → Prop where
  | letter (stands : (letter, ch) ∈ letterEscapes) : EscapeText signs after [letter] [ch]
  | zero (alone : after.head?.any Char.isDigit = false) : EscapeText signs after ['0'] ['\x00']
  | code (is : IsCodeEscape signs ch form) : EscapeText signs after form [ch]
  /-- Two lines are joined, and both characters that end the first are taken. -/
  | join (isJoin : '\\' :: form ∈ lineJoins) (whole : form = ['\r'] → after.head? ≠ some '\n') :
    EscapeText signs after form []
  | itself (ordinary : IsOrdinary ch after) : EscapeText signs after [ch] [ch]

/-- No escape by a code is written here, though its letter is. -/
structure LacksCode (signs : List (List Char)) (cs : List Char) : Prop where
  letter : cs.head? = some 'x' ∨ cs.head? = some 'u'
  none : ∀ ch form, IsCodeEscape signs ch form → ¬form <+: cs

/-- The characters an escape stands for. -/
def Escape.chars : Escape → List Char
  | char ch _ => [ch]
  | join _ | invalid _ => []

section escapes

variable {c stop : Cursor} {ch cooked : Char} {cs form chars after : List Char}

theorem letterEscape?_eq_some_iff :
    letterEscape? ch = some cooked ↔ (ch, cooked) ∈ letterEscapes := by
  constructor
  · intro is
    unfold letterEscape? at is
    split at is <;> cases is <;> decide
  · have each : ∀ e ∈ letterEscapes, letterEscape? e.1 = some e.2 := by decide
    exact each (ch, cooked)

/-- A line break behind a backslash joins two lines. -/
theorem mem_lineJoins_of_isLineBreak (ends : Text.isLineBreak ch = true) :
    ['\\', ch] ∈ lineJoins := by
  simp only [Text.isLineBreak, Bool.or_eq_true, beq_iff_eq] at ends
  rcases ends with ((rfl | rfl) | rfl) | rfl <;> decide

/-- What is taken behind the letter of an escape by a code is a form of it. -/
theorem exists_form_of_code {r : Escape} (noJoin : ∀ stop, r ≠ .join stop)
    (sound : ∀ stop, r ≠ .invalid stop)
    (forms : ∀ ch stop, r = .char ch stop →
      ∃ form, IsCodeEscape readSigns ch form ∧ cs = form ++ stop.rest) :
    ∃ form, cs = form ++ r.stop.rest ∧ EscapeText readSigns r.stop.rest form r.chars := by
  cases r with
  | invalid stop => exact absurd rfl (sound stop)
  | join stop => exact absurd rfl (noJoin stop)
  | char ch stop =>
    obtain ⟨form, is, split⟩ := forms ch stop rfl
    exact ⟨form, split, .code is⟩

/-- **What is read as an escape is written as one.** -/
theorem exists_form_escapeSequence (here : c.rest = '\\' :: cs)
    (sound : ∀ stop, escapeSequence c ≠ .invalid stop) :
    ∃ form, cs = form ++ (escapeSequence c).stop.rest ∧
      EscapeText readSigns (escapeSequence c).stop.rest form (escapeSequence c).chars := by
  have letter : c.next.rest = cs := Cursor.rest_next here
  revert sound
  unfold escapeSequence
  dsimp only
  rw [letter]
  cases cs with
  | nil => exact fun sound => absurd rfl (sound c.next)
  | cons ch cs =>
    have behind : c.next.next.rest = cs := Cursor.rest_next letter
    dsimp only
    cases cooked : letterEscape? ch with
    | some e =>
      intro _
      exact ⟨[ch], congrArg (ch :: ·) behind.symm, .letter (letterEscape?_eq_some_iff.mp cooked)⟩
    | none =>
      dsimp only
      split_ifs with zero hex unicode two ends
      · intro _
        obtain ⟨rfl, alone⟩ := zero
        exact ⟨['0'], congrArg ('0' :: ·) behind.symm, .zero (behind.symm ▸ alone)⟩
      · intro sound
        subst hex
        refine exists_form_of_code (fun _ => fixedEscape_ne_join 2) sound fun e stop is => ?_
        obtain ⟨form, two, numeral, split⟩ := exists_form_fixedEscape is
        exact ⟨'x' :: form, .byte two numeral, congrArg ('x' :: ·) (behind.symm.trans split)⟩
      · intro sound
        subst unicode
        refine exists_form_of_code (fun _ => unicodeEscape_ne_join) sound fun e stop is => ?_
        obtain ⟨form, escape, split⟩ := exists_form_unicodeEscape is
        exact ⟨'u' :: form, .unicode escape, congrArg ('u' :: ·) (behind.symm.trans split)⟩
      · intro _
        obtain ⟨rfl, second⟩ := two
        obtain ⟨cs, rfl⟩ := List.head?_eq_some_iff.mp second
        refine ⟨['\r', '\n'], ?_, .join (by decide) nofun⟩
        rw [Escape.stop, Cursor.rest_next behind]
        rfl
      · intro _
        refine ⟨[ch], congrArg (ch :: ·) behind.symm, .join (mem_lineJoins_of_isLineBreak ends) ?_⟩
        rintro ⟨rfl⟩
        exact fun second => two ⟨rfl, behind ▸ second⟩
      · intro _
        refine ⟨[ch], congrArg (ch :: ·) behind.symm, .itself ⟨?_, ?_, ⟨hex, unicode⟩, ?_⟩⟩
        · intro e listed
          rw [letterEscape?_eq_some_iff.mpr listed] at cooked
          cases cooked
        · intro is
          have digit := not_and.mp zero is
          rw [Escape.stop, behind]
          simpa using digit
        · simpa using ends

/-- **Each escape is read as what it stands for.** -/
theorem escapeSequence_of_text (escape : EscapeText readSigns after form chars)
    (here : c.rest = '\\' :: (form ++ after)) : (escapeSequence c).stop.rest = after ∧
      (escapeSequence c).chars = chars ∧ ∀ stop, escapeSequence c ≠ .invalid stop := by
  have of_char {ch : Char} {stop : Cursor} (rest : stop.rest = after)
      (is : escapeSequence c = .char ch stop) : (escapeSequence c).stop.rest = after ∧
        (escapeSequence c).chars = [ch] ∧ ∀ stop, escapeSequence c ≠ .invalid stop := by
    rw [is]
    exact ⟨rest, rfl, nofun⟩
  cases escape with
  | letter stands =>
    have is := letterEscape?_eq_some_iff.mpr stands
    refine of_char (Escape.nexts here).2 ?_
    simp only [escapeSequence, Escape.nexts here, is]
  | zero alone =>
    refine of_char (Escape.nexts here).2 ?_
    simp [escapeSequence, Escape.nexts here, letterEscape?, alone]
  | code is =>
    cases is with
    | byte two numeral =>
      obtain ⟨stop, rest, is⟩ := fixedEscape_of_isSigned two numeral (Escape.nexts here).2
      exact of_char rest (by simp [escapeSequence, Escape.nexts here, letterEscape?, is])
    | unicode escape =>
      obtain ⟨stop, rest, is⟩ := unicodeEscape_of_form escape (Escape.nexts here).2
      exact of_char rest (by simp [escapeSequence, Escape.nexts here, letterEscape?, is])
  | join isJoin whole =>
    simp only [lineJoins, List.mem_cons, List.cons.injEq, true_and, List.not_mem_nil,
      or_false] at isJoin
    rcases isJoin with rfl | rfl | rfl | rfl | rfl
    case inr.inr.inl =>
      have behind : c.next.next.next.rest = after := Cursor.rest_next (Escape.nexts here).2
      simp [escapeSequence, Escape.nexts here, letterEscape?, Escape.stop, Escape.chars, behind]
    all_goals
      simp [escapeSequence, Escape.nexts here, letterEscape?, Text.isLineBreak, Escape.stop,
        Escape.chars, whole]
  | @itself ch ordinary =>
    replace here : c.rest = '\\' :: ch :: after := here
    obtain ⟨noLetter, noZero, noCode, noBreak⟩ := ordinary
    refine of_char (Escape.nexts here).2 ?_
    have plain : letterEscape? ch = none :=
      Option.eq_none_iff_forall_ne_some.mpr fun e is => noLetter e (letterEscape?_eq_some_iff.mp is)
    have noReturn : ch ≠ '\r' := by
      rintro rfl
      cases noBreak
    have noNul : ¬(ch = '0' ∧ after.head?.any Char.isDigit = false) := by
      rintro ⟨is, none⟩
      rw [noZero is] at none
      cases none
    simp only [escapeSequence, Escape.nexts here, plain]
    rw [if_neg noNul, if_neg noCode.1, if_neg noCode.2, if_neg (by simp [noReturn]),
      if_neg (by simp [noBreak])]

/-- What is written as an escape is one by a code, or is not announced as one. -/
theorem EscapeText.head?_ne {signs : List (List Char)}
    (escape : EscapeText signs after form chars) :
    (∃ ch, IsCodeEscape signs ch form) ∨
      ∃ first tail, form = first :: tail ∧ first ≠ 'x' ∧ first ≠ 'u' := by
  cases escape with
  | letter stands =>
    have each : ∀ e ∈ letterEscapes, e.1 ≠ 'x' ∧ e.1 ≠ 'u' := by decide
    exact .inr ⟨_, _, rfl, each _ stands⟩
  | zero => exact .inr ⟨_, _, rfl, by decide, by decide⟩
  | code is => exact .inl ⟨_, is⟩
  | join isJoin =>
    simp only [lineJoins, List.mem_cons, List.cons.injEq, true_and, List.not_mem_nil,
      or_false] at isJoin
    rcases isJoin with rfl | rfl | rfl | rfl | rfl <;> exact .inr ⟨_, _, rfl, by decide, by decide⟩
  | itself ordinary => exact .inr ⟨_, _, rfl, ordinary.noCode⟩

/-- Where no escape by a code is written none is read. -/
theorem exists_invalid_escapeSequence (lacks : LacksCode readSigns cs)
    (here : c.rest = '\\' :: cs) : ∃ stop, escapeSequence c = .invalid stop := by
  by_contra sound
  simp only [not_exists] at sound
  obtain ⟨form, rfl, escape⟩ := exists_form_escapeSequence here sound
  rcases escape.head?_ne with ⟨ch, code⟩ | ⟨first, tail, rfl, noHex, noUnicode⟩
  · exact lacks.none ch form code ⟨_, rfl⟩
  · exact lacks.letter.elim (fun is => noHex (Option.some.inj is))
      fun is => noUnicode (Option.some.inj is)

end escapes

/-! ### Texts -/

/-- The ways to quote a text. -/
inductive Quotation where
  | string (quote : Char)
  | template
deriving DecidableEq, Repr

namespace Quotation

/-- A character stands for itself where `cs` comes next. -/
def IsRaw : Quotation → Char → List Char → Prop
  | string quote, ch, _ => ch ≠ quote ∧ ch ≠ '\\' ∧ Text.isLineBreak ch = false
  | template, ch, cs => ch ≠ '\x60' ∧ ch ≠ '\\' ∧ ¬(ch = '$' ∧ cs.head? = some '\x7b')

/-- What ends the text, or a piece of it. -/
def closings : Quotation → List (List Char)
  | string quote => [[quote]]
  | template => [['\x60'], ['$', '\x7b']]

end Quotation

/-- A text between marks that `after` comes behind, and the characters it stands for. -/
inductive QuotedText (signs : List (List Char)) (q : Quotation) (after : List Char) :
    List Char → List Char → Prop where
  | nil : QuotedText signs q after [] []
  | raw (raw : q.IsRaw ch (text ++ after)) (rest : QuotedText signs q after text chars) :
    QuotedText signs q after (ch :: text) (ch :: chars)
  | escape (escape : EscapeText signs (text ++ after) form own)
    (rest : QuotedText signs q after text chars) :
    QuotedText signs q after ('\\' :: (form ++ text)) (own ++ chars)

/-- What is read from `c` on is a text, what ends it, and nothing else. -/
def IsQuoted (q : Quotation) (c : Cursor) (l : Lexeme) : Prop :=
  ∃ text, ∃ closing ∈ q.closings, c.rest = text ++ (closing ++ l.stop.rest) ∧
    QuotedText readSigns q (closing ++ l.stop.rest) text l.value

section texts

variable {c stop : Cursor} {ch : Char} {cs : List Char} {q : Quotation} {l : Lexeme}
  {k : TokenKind} {opening : Nat}

/-- A character that stands for itself in front. -/
theorem IsQuoted.raw {b : Bool} (rest : IsQuoted q c.next l) (here : c.rest = ch :: cs)
    (raw : q.IsRaw ch cs) : IsQuoted q c ((l.cons ch).noteBreak b) := by
  obtain ⟨text, closing, ends, split, quoted⟩ := rest
  rw [Cursor.rest_next here] at split
  subst split
  exact ⟨ch :: text, closing, ends, here, .raw raw quoted⟩

/-- An escape of a character in front. -/
theorem IsQuoted.char {e : Char} (rest : IsQuoted q stop l) (here : c.rest = '\\' :: cs)
    (is : escapeSequence c = .char e stop) : IsQuoted q c (l.cons e) := by
  obtain ⟨form, rfl, escape⟩ := exists_form_escapeSequence here (by rw [is]; nofun)
  obtain ⟨text, closing, ends, split, quoted⟩ := rest
  rw [is, Escape.stop, split] at here escape
  exact ⟨'\\' :: (form ++ text), closing, ends, by simp [here], .escape escape quoted⟩

/-- Two lines that are joined in front. -/
theorem IsQuoted.join (rest : IsQuoted q stop l) (here : c.rest = '\\' :: cs)
    (is : escapeSequence c = .join stop) : IsQuoted q c l := by
  obtain ⟨form, rfl, escape⟩ := exists_form_escapeSequence here (by rw [is]; nofun)
  obtain ⟨text, closing, ends, split, quoted⟩ := rest
  rw [is, Escape.stop, split] at here escape
  exact ⟨'\\' :: (form ++ text), closing, ends, by simp [here], .escape escape quoted⟩

/-- The mark that ends a text. -/
theorem IsQuoted.closing {k : TokenKind} (mark : List Char) (ends : mark ∈ q.closings)
    (here : c.rest = mark ++ stop.rest) : IsQuoted q c (.mark k stop) :=
  ⟨[], mark, ends, here, .nil⟩

/-- **The rest of a string is a text and the mark that ends it.** -/
theorem isQuoted_stringRest {quote : Char} (is : (stringRest quote opening c).kind = .ok k) :
    IsQuoted (.string quote) c (stringRest quote opening c) := by
  fun_induction stringRest quote opening c with
  | case1 | case3 | case6 => cases is
  | case2 c cs here =>
    refine .closing [quote] (List.mem_singleton_self _) ?_
    rw [here, Cursor.rest_next here]
    rfl
  | case4 c cs e stop read here _ _ ih => exact (ih is).char here read
  | case5 c cs stop read here _ _ ih => exact (ih is).join here read
  | case7 c ch cs here noQuote noBreak noEscape ih =>
    exact (ih is).raw (b := false) here ⟨noQuote, noEscape, by simpa using noBreak⟩

/-- **The rest of a piece of a template is a text and what ends it.** -/
theorem isQuoted_templateRest {piece : TemplatePiece}
    (is : (templateRest piece opening c).kind = .ok k) :
    IsQuoted .template c (templateRest piece opening c) := by
  fun_induction templateRest piece opening c with
  | case1 | case6 => cases is
  | case2 c cs here =>
    refine .closing ['\x60'] List.mem_cons_self ?_
    rw [here, Cursor.rest_next here]
    rfl
  | case3 c ch cs here noTick broken =>
    obtain ⟨rfl, second⟩ := broken
    obtain ⟨cs, rfl⟩ := List.head?_eq_some_iff.mp second
    refine .closing ['$', '\x7b'] (List.mem_cons_of_mem _ List.mem_cons_self) ?_
    rw [here, Cursor.rest_skip, here]
    rfl
  | case4 c cs e stop read here _ _ ih => exact (ih is).char here read
  | case5 c cs stop read here _ _ ih => exact (ih is).join here read
  | case7 c ch cs here noTick notBroken noEscape ih =>
    exact (ih is).raw here ⟨noTick, noEscape, notBroken⟩

end texts

/-! ### Faults within a text -/

/-- `read` reads texts that are quoted so. -/
structure Reads (q : Quotation) (read : Nat → Cursor → Lexeme) : Prop where
  escapes : TakesEscapes read
  raw : ∀ opening (c : Cursor) ch cs, c.rest = ch :: cs → q.IsRaw ch cs →
    (read opening c).kind = (read opening c.next).kind

section faults

variable {read : Nat → Cursor → Lexeme} {q : Quotation} {c : Cursor}
  {cs text chars after : List Char}

theorem reads_stringRest {quote : Char} (isQuote : IsQuote quote) :
    Reads (.string quote) (stringRest quote) where
  escapes := takesEscapes_stringRest isQuote.ne_backslash
  raw := by
    rintro opening c ch cs here ⟨noQuote, noEscape, noBreak⟩
    rw [stringRest_eq here, if_neg noQuote, if_neg (by simp [noBreak]), if_neg noEscape]
    rfl

theorem reads_templateRest (piece : TemplatePiece) : Reads .template (templateRest piece) where
  escapes := takesEscapes_templateRest piece
  raw := by
    rintro opening c ch cs here ⟨noTick, noEscape, notBroken⟩
    rw [templateRest_eq here, if_neg noTick, if_neg notBroken, if_neg noEscape]
    rfl

/-- A text is passed, and what is behind it decides what is read. -/
theorem Reads.kind_eq (reads : Reads q read) (opening : Nat)
    (quoted : QuotedText readSigns q after text chars) (here : c.rest = text ++ after) :
    ∃ stop, c.Reaches stop ∧ stop.rest = after ∧
      (read opening c).kind = (read opening stop).kind := by
  induction quoted generalizing c with
  | nil => exact ⟨c, .refl c, here, rfl⟩
  | raw raw _ ih =>
    obtain ⟨stop, reaches, behind, same⟩ := ih (Cursor.rest_next here)
    exact ⟨stop, (Cursor.reaches_next c).trans reaches, behind,
      (reads.raw _ c _ _ here raw).trans same⟩
  | @escape text form own chars escape _ ih =>
    replace here : c.rest = '\\' :: (form ++ (text ++ after)) := by simpa using here
    obtain ⟨rest, -, sound⟩ := escapeSequence_of_text escape here
    obtain ⟨stop, reaches, behind, same⟩ := ih rest
    have forward := (Cursor.reaches_next c).trans (reaches_escapeSequence c)
    refine ⟨stop, forward.trans reaches, behind, ?_⟩
    rw [reads.escapes opening c _ here]
    cases is : escapeSequence c with
    | invalid stop => exact absurd is (sound stop)
    | char e stop | join stop =>
      rw [is] at same
      exact same

/-- **A backslash behind which a code should be written and none is, is a fault.** -/
theorem Reads.kind_of_lacksCode (reads : Reads q read) (opening : Nat)
    (quoted : QuotedText readSigns q ('\\' :: cs) text chars) (lacks : LacksCode readSigns cs)
    (here : c.rest = text ++ '\\' :: cs) :
    (read opening c).kind = .error (.invalidEscape (c.offset + Text.byteLength text)) := by
  obtain ⟨stop, reaches, behind, same⟩ := reads.kind_eq opening quoted here
  obtain ⟨stop', invalid⟩ := exists_invalid_escapeSequence lacks behind
  rw [← behind] at here
  rw [same, reads.escapes opening stop _ behind, invalid, reaches.eq_of_rest here]
  rfl

end faults

/-- The ways to quote, by the mark that opens a token. -/
inductive Quotation.OpenedBy : Quotation → Char → Prop where
  | quote (isQuote : IsQuote quote) : OpenedBy (.string quote) quote
  | tick : OpenedBy .template '\x60'

variable {c : Cursor} {k : TokenKind} {mark : Char} {cs : List Char} {q : Quotation}

/-- Behind a mark that opens a token its text is read. -/
theorem Quotation.OpenedBy.exists_reads (opens : q.OpenedBy mark) (here : c.rest = mark :: cs) :
    ∃ read, Reads q read ∧ lexeme c = read c.offset c.next := by
  cases opens with
  | quote isQuote => exact ⟨_, reads_stringRest isQuote, lexeme_of_quote here isQuote⟩
  | tick => exact ⟨_, reads_templateRest .first, lexeme_of_tick here⟩

theorem Quotation.OpenedBy.ne_slash (opens : q.OpenedBy mark) : mark ≠ '/' := by
  cases opens with
  | quote isQuote => rcases isQuote with rfl | rfl <;> decide
  | tick => decide

end Token

/-- A string, or a piece of a template that a token starts with. -/
def TokenKind.isQuoted : TokenKind → Bool
  | stringLiteral | plainTemplate | templateHead => true
  | _ => false

theorem TokenKind.not_isName_of_isQuoted (k : TokenKind) :
    k.isQuoted = true → k.isName = false ∧ k.punctuation?.isSome = false := by
  cases k <;> decide

namespace Token

/-- A token with a text between marks is opened by a mark. -/
theorem exists_opens_of_isQuoted {c : Cursor} {k : TokenKind} (is : (lexeme c).kind = .ok k)
    (isQuoted : k.isQuoted = true) :
    ∃ mark cs q, c.rest = mark :: cs ∧ q.OpenedBy mark ∧ IsQuoted q c.next (lexeme c) := by
  have reading := readAs_lexeme is
  generalize lexeme c = l at reading is ⊢
  cases reading with
  | ended | number => cases isQuoted
  | string here isQuote => exact ⟨_, _, _, here, .quote isQuote, isQuoted_stringRest is⟩
  | template here => exact ⟨_, _, _, here, .tick, isQuoted_templateRest is⟩
  | name _ _ isName => cases isName.symm.trans (k.not_isName_of_isQuoted isQuoted).1
  | punctuation _ spelled => cases spelled.symm.trans (k.not_isName_of_isQuoted isQuoted).2

end Token

namespace Scanner

open Token

/-- The token failed on an escape at this place. -/
def FailsAt (s : Scanner) (pos : Nat) : Prop :=
  s.token = .unknown ∧ s.error? = some (.invalidEscape pos)

/-- The token is a text between marks, of which `mark` is the first. -/
def IsQuotedToken (signs : List (List Char)) (q : Quotation) (mark : Char) (t : Scanner) : Prop :=
  ∃ text, ∃ closing ∈ q.closings, t.start.rest = mark :: (text ++ (closing ++ t.here.rest)) ∧
    QuotedText signs q (closing ++ t.here.rest) text t.value.toList

/-- How escapes by a code are read, where such signs may be in front of the digits: they have one of
their forms, the character they stand for is that of the code, and anything else behind their letter
is a fault at the backslash. -/
structure TakesCodes (signs : List (List Char)) (s : Scanner) : Prop where
  name : s.scan.token.isName = true → NameText signs s.scan.text.toList s.scan.value.toList
  quoted : s.scan.token.isQuoted = true →
    ∃ mark q, q.OpenedBy mark ∧ s.scan.IsQuotedToken signs q mark
  continued : s.rescanTemplate.token ≠ .unknown →
    ∃ mark, s.rescanTemplate.IsQuotedToken signs .template mark
  nameFault : ∀ front chars cs, s.scan.start.rest = front ++ '\\' :: 'u' :: cs →
    (∀ ch ∈ s.scan.start.rest.head?, BeginsName ch) → NameText signs front chars →
    (∀ ch form, IsUnicodeEscape signs ch form → ¬form <+: cs) →
    s.scan.FailsAt (s.scan.tokenPos + Text.byteLength front)
  quotedFault : ∀ mark q front chars cs, q.OpenedBy mark →
    s.scan.start.rest = mark :: (front ++ '\\' :: cs) →
    QuotedText signs q ('\\' :: cs) front chars → LacksCode signs cs →
    s.scan.FailsAt (s.scan.tokenPos + Text.byteLength (mark :: front))
  continuedFault : ∀ mark front chars cs, s.start.rest = mark :: (front ++ '\\' :: cs) →
    QuotedText signs .template ('\\' :: cs) front chars → LacksCode signs cs →
    s.rescanTemplate.FailsAt (s.tokenPos + Text.byteLength (mark :: front))

variable {s : Scanner} {l : Lexeme} {pos : Nat} {cs : List Char}

theorem failsAt_accept (s : Scanner) (is : l.kind = .error (.invalidEscape pos)) :
    (s.accept l).FailsAt pos := by
  rw [accept, is]
  exact ⟨rfl, rfl⟩

/-- A string or the first piece of a template is a text between marks. -/
theorem isQuotedToken_scan (isQuoted : s.scan.token.isQuoted = true) :
    ∃ mark q, q.OpenedBy mark ∧ s.scan.IsQuotedToken readSigns q mark := by
  obtain ⟨is, stop, value⟩ := lexeme_of_scan (isDone_of_class isQuoted rfl rfl)
  obtain ⟨mark, cs, q, here, opens, text, closing, ends, split, quoted⟩ :=
    exists_opens_of_isQuoted is isQuoted
  rw [Cursor.rest_next here] at split
  rw [stop] at split quoted
  refine ⟨mark, q, opens, text, closing, ends, by rw [here, split], ?_⟩
  rw [← value, String.toList_ofList]
  exact quoted

/-- A later piece of a template is one too, whatever stands in front of it. -/
theorem isQuotedToken_rescanTemplate (known : s.rescanTemplate.token ≠ .unknown) :
    ∃ mark, s.rescanTemplate.IsQuotedToken readSigns .template mark := by
  cases is : (templateRest .later s.start.offset s.start.next).kind with
  | error e =>
    rw [rescanTemplate, accept, is] at known
    exact absurd rfl known
  | ok k =>
    obtain ⟨text, closing, ends, split, quoted⟩ := isQuoted_templateRest is
    rw [rescanTemplate, accept_of_ok is]
    cases here : s.start.rest with
    | nil =>
      -- At the end there is nothing that could close the piece.
      have behind : s.start.next.rest = [] := by simp [Cursor.next, here]
      rw [behind] at split
      have none := (List.append_eq_nil_iff.mp (List.append_eq_nil_iff.mp split.symm).2).1
      rw [none] at ends
      exact absurd ends (by decide)
    | cons mark cs =>
      rw [Cursor.rest_next here] at split
      refine ⟨mark, text, closing, ends, here.trans (by rw [split]), ?_⟩
      rw [String.toList_ofList]
      exact quoted

/-- A name comes to a backslash behind which a Unicode escape should be and is not. -/
theorem failsAt_scan_of_name {front chars : List Char}
    (here : s.scan.start.rest = front ++ '\\' :: 'u' :: cs)
    (begins : ∀ ch ∈ s.scan.start.rest.head?, BeginsName ch)
    (name : NameText readSigns front chars)
    (lacks : ∀ ch form, IsUnicodeEscape readSigns ch form → ¬form <+: cs) :
    s.scan.FailsAt (s.scan.tokenPos + Text.byteLength front) := by
  have nonempty : s.scan.start.rest ≠ [] := by simp [here]
  obtain ⟨ch, cs', first⟩ := List.exists_cons_of_ne_nil nonempty
  have start := begins ch (by rw [first]; rfl)
  obtain ⟨s', read⟩ := exists_accept_of_ne_slash first (start.ne (by decide) (by decide))
  have fault := kind_nameLexeme_of_lacks name here lacks
  rw [← lexeme_of_beginsName first start] at fault
  have failed := s'.failsAt_accept fault
  rwa [← read] at failed

/-- A text comes to a backslash behind which a code should be and is not. -/
theorem failsAt_scan_of_text {mark : Char} {q : Quotation} {front chars : List Char}
    (opens : q.OpenedBy mark) (here : s.scan.start.rest = mark :: (front ++ '\\' :: cs))
    (quoted : QuotedText readSigns q ('\\' :: cs) front chars) (lacks : LacksCode readSigns cs) :
    s.scan.FailsAt (s.scan.tokenPos + Text.byteLength (mark :: front)) := by
  obtain ⟨s', read⟩ := exists_accept_of_ne_slash here opens.ne_slash
  obtain ⟨reader, reads, is⟩ := opens.exists_reads here
  have fault := reads.kind_of_lacksCode s.scan.start.offset quoted lacks (Cursor.rest_next here)
  rw [← is, Cursor.offset_next_add here] at fault
  have failed := s'.failsAt_accept fault
  rwa [← read] at failed

/-- **Escapes by a code are digits, or a sign and digits**, in names, strings and templates. -/
theorem takesCodes (s : Scanner) : s.TakesCodes readSigns where
  name := by
    intro isName
    have proper := isDone_of_class isName rfl rfl
    obtain ⟨ch, cs, here, begins, read⟩ := lexeme_of_isName (lexeme_of_scan proper).1 isName
    exact (isNameToken_scan proper read).name
  quoted := isQuotedToken_scan
  continued := isQuotedToken_rescanTemplate
  nameFault := fun _ _ _ here begins name lacks => failsAt_scan_of_name here begins name lacks
  quotedFault := fun _ _ _ _ _ opens here quoted lacks =>
    failsAt_scan_of_text opens here quoted lacks
  continuedFault := by
    intro mark front chars cs here quoted lacks
    have fault := (reads_templateRest .later).kind_of_lacksCode s.start.offset quoted lacks
      (Cursor.rest_next here)
    rw [Cursor.offset_next_add here] at fault
    exact s.failsAt_accept fault

example : (tokenize "'\\x4a' 'a\\u\x7b1F600\x7db' \x60\\u0024\x7b\x60".toList).map value =
    ["J", "a😀b", "$\x7b", ""] := by decide +kernel

/-- A sign is read in front of a digit, so not every escape is of digits only. -/
theorem not_takesCodes_unsigned :
    (ofText "\"\\x+1\"".toList).scan.token = .stringLiteral ∧
      (ofText "\"\\x+1\"".toList).scan.value = "\x01" ∧
      ¬(ofText "\"\\x+1\"".toList).TakesCodes [[]] := by
  have token : (ofText "\"\\x+1\"".toList).scan.token = .stringLiteral := by decide +kernel
  refine ⟨token, by decide +kernel, fun takes => ?_⟩
  have lacks : LacksCode [[]] "x+1\"".toList := by
    refine ⟨.inl rfl, fun ch form code fits => ?_⟩
    cases code with
    | @byte form two numeral =>
      obtain ⟨first, second, rfl⟩ := List.length_eq_two.mp two
      obtain ⟨tail, whole⟩ := fits
      obtain ⟨rfl, -⟩ := List.cons.inj (List.cons.inj whole).2
      exact numeral.not_mem_sign List.mem_cons_self
    | unicode =>
      obtain ⟨tail, whole⟩ := fits
      cases whole
  have failed := takes.quotedFault '"' (.string '"') [] [] "x+1\"".toList (.quote (.inl rfl))
    (by decide +kernel) .nil lacks
  cases token.symm.trans failed.1

end Scanner

end Shapewire
