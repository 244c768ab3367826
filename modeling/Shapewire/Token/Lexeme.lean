/-
One token read from the place where it starts.

A lexeme says of which kind the token is or what is wrong with it, which value it has and
where reading stopped.  The value is the cooked text: a name with its escapes replaced, the
contents of a string, a number without its separators.  A malformed token keeps the value
read up to the fault.

Names, strings and templates are read a character at a time and each builds its value in
front of the value of what follows, so the value of a run is the run with every escape
replaced.  Numbers and punctuation marks are cut out of the text.
-/
import Shapewire.Token.Error
import Shapewire.Token.Escape
import Shapewire.Token.Kind

namespace Shapewire

/-- A token as it is read, or the fault that prevents it. -/
structure Lexeme where
  /-- The kind of the token, or what is wrong with it. -/
  kind : Except ScanError TokenKind
  /-- The cooked value as far as it was read. -/
  value : List Char
  /-- Where reading stopped. -/
  stop : Cursor
  /-- Whether a raw line break was read into the value. -/
  lineBreak : Bool := false

namespace Lexeme

/-- The fault `e`, found at `stop`. -/
def fault (e : ScanError) (stop : Cursor) : Lexeme := ⟨.error e, [], stop, false⟩

/-- The token of kind `k` that ends at `stop` and has no value of its own. -/
def mark (k : TokenKind) (stop : Cursor) : Lexeme := ⟨.ok k, [], stop, false⟩

/-- The lexeme with a character in front of its value. -/
def cons (ch : Char) (l : Lexeme) : Lexeme := { l with value := ch :: l.value }

/-- The lexeme with a raw line break noted. -/
def noteBreak (isBreak : Bool) (l : Lexeme) : Lexeme :=
  { l with lineBreak := isBreak || l.lineBreak }

@[simp] theorem stop_fault (e : ScanError) (stop : Cursor) : (fault e stop).stop = stop := rfl

@[simp] theorem stop_mark (k : TokenKind) (stop : Cursor) : (mark k stop).stop = stop := rfl

@[simp] theorem stop_cons (ch : Char) (l : Lexeme) : (l.cons ch).stop = l.stop := rfl

@[simp] theorem stop_noteBreak (b : Bool) (l : Lexeme) : (l.noteBreak b).stop = l.stop := rfl

end Lexeme

namespace Token

/-! ### Names -/

/-- A run of name characters, raw or escaped. -/
structure NameRun where
  /-- The characters, escapes replaced. -/
  chars : List Char
  /-- Whether one of them was escaped. -/
  escaped : Bool
  stop : Cursor
  /-- The offset of a malformed escape that ended the run. -/
  fault? : Option Nat
deriving DecidableEq

/-- The longest run of name characters and Unicode escapes of such from `c` on. -/
def nameRun (c : Cursor) : NameRun :=
  match _hc : c.rest with
  | [] => ⟨[], false, c, none⟩
  | ch :: cs =>
    if Text.isNamePart ch then
      let run := nameRun c.next
      { run with chars := ch :: run.chars }
    else if ch = '\\' ∧ cs.head? = some 'u' then
      match _he : unicodeEscape (c.skip 2) with
      | .char e stop =>
        if Text.isNamePart e then
          let run := nameRun stop
          { run with chars := e :: run.chars, escaped := true }
        else ⟨[], false, stop, some c.offset⟩
      | .join stop | .invalid stop => ⟨[], false, stop, some c.offset⟩
    else ⟨[], false, c, none⟩
termination_by c.rest.length
decreasing_by
  · exact Cursor.length_next_lt _hc
  · have h := (reaches_unicodeEscape (c.skip 2)).length_le
    have := (Cursor.reaches_skip 1 c.next).length_le
    have := Cursor.length_next_lt _hc
    rw [_he] at h
    simp only [Cursor.skip, Escape.stop] at *
    omega

/-- The token that starts with a name character or a backslash at `c`.  A name without an
escape may be a reserved word; a backslash that starts no Unicode escape is malformed. -/
def nameLexeme (c : Cursor) : Lexeme :=
  let run := nameRun c
  match run.fault? with
  | some pos => ⟨.error (.invalidEscape pos), run.chars, run.stop, false⟩
  | none =>
    if run.chars.isEmpty then .fault (.invalidEscape c.offset) run.stop
    else
      let reserved := if run.escaped then none else TokenKind.ofKeyword? (String.ofList run.chars)
      ⟨.ok (reserved.getD .identifier), run.chars, run.stop, false⟩

/-! ### Numbers -/

/-- A decimal digit or a separator between digits. -/
def isDecimalPart (c : Char) : Bool := c.isDigit || c == '_'

/-- The digits that the letter after a leading zero announces. -/
def radixDigit? (letter : Char) : Option (Char → Bool) :=
  if letter = 'x' ∨ letter = 'X' then some Text.isHexDigit
  else if letter = 'o' ∨ letter = 'O' then some Text.isOctalDigit
  else if letter = 'b' ∨ letter = 'B' then some Text.isBinaryDigit
  else none

/-- Past the exponent at `c`, if there is one.  Without a digit the letter is no exponent. -/
def exponentEnd (c : Cursor) : Cursor :=
  match c.rest with
  | e :: cs =>
    if e = 'e' ∨ e = 'E' then
      let digits := c.skip (if cs.head? = some '+' ∨ cs.head? = some '-' then 2 else 1)
      if digits.peek?.any Char.isDigit then digits.skipWhile isDecimalPart else c
    else c
  | [] => c

/-- Past a decimal number: digits, a fraction and an exponent. -/
def decimalEnd (c : Cursor) : Cursor :=
  let whole := c.skipWhile isDecimalPart
  exponentEnd (if whole.peek? = some '.' then whole.next.skipWhile isDecimalPart else whole)

/-- Past the digits of a number in any base. -/
def digitsEnd (c : Cursor) : Cursor :=
  match c.rest with
  | '0' :: letter :: _ =>
    match radixDigit? letter with
    | some isDigit => (c.skip 2).skipWhile fun ch => isDigit ch || ch == '_'
    | none => decimalEnd c
  | _ => decimalEnd c

/-- Past a number, the letter that marks a big integer included. -/
def numberEnd (c : Cursor) : Cursor :=
  let digits := digitsEnd c
  if digits.peek? = some 'n' then digits.next else digits

/-- The number that starts at `c`; its value leaves the separators out. -/
def numberLexeme (c : Cursor) : Lexeme :=
  ⟨.ok .numericLiteral, (c.upTo (numberEnd c)).filter (· != '_'), numberEnd c, false⟩

/-! ### Strings and templates -/

/-- The rest of a string from `c` on; `opening` is the offset of the quote mark that opened
it. -/
def stringRest (quote : Char) (opening : Nat) (c : Cursor) : Lexeme :=
  match _hc : c.rest with
  | [] => .fault (.unterminatedString opening) c
  | ch :: _ =>
    if ch = quote then .mark .stringLiteral c.next
    else if Text.isLineBreak ch then .fault (.unterminatedString opening) c
    else if ch = '\\' then
      match _he : escapeSequence c with
      | .char cooked stop => (stringRest quote opening stop).cons cooked
      | .join stop => stringRest quote opening stop
      | .invalid stop => .fault (.invalidEscape c.offset) stop
    else (stringRest quote opening c.next).cons ch
termination_by c.rest.length
decreasing_by
  all_goals
    have h := (reaches_escapeSequence c).length_le
    have := Cursor.length_next_lt _hc
    try rw [_he] at h
    simp only [Escape.stop] at h
    omega

/-- The pieces a template is cut into by its substitutions. -/
inductive TemplatePiece where
  /-- From the opening backtick on. -/
  | first
  /-- From the end of a substitution on. -/
  | later
deriving DecidableEq, Repr

/-- The kind of a piece that the closing backtick ends. -/
def TemplatePiece.closed : TemplatePiece → TokenKind
  | first => .plainTemplate
  | later => .templateTail

/-- The kind of a piece that a substitution ends. -/
def TemplatePiece.broken : TemplatePiece → TokenKind
  | first => .templateHead
  | later => .templateMiddle

/-- The rest of a piece of a template from `c` on; `opening` is the offset of the token. -/
def templateRest (piece : TemplatePiece) (opening : Nat) (c : Cursor) : Lexeme :=
  match _hc : c.rest with
  | [] => .fault (.unterminatedTemplate opening) c
  | ch :: cs =>
    if ch = '\x60' then .mark piece.closed c.next
    else if ch = '$' ∧ cs.head? = some '\x7b' then .mark piece.broken (c.skip 2)
    else if ch = '\\' then
      match _he : escapeSequence c with
      | .char cooked stop => (templateRest piece opening stop).cons cooked
      | .join stop => templateRest piece opening stop
      | .invalid stop => .fault (.invalidEscape c.offset) stop
    else ((templateRest piece opening c.next).cons ch).noteBreak (Text.isLineBreak ch)
termination_by c.rest.length
decreasing_by
  all_goals
    have h := (reaches_escapeSequence c).length_le
    have := Cursor.length_next_lt _hc
    try rw [_he] at h
    simp only [Escape.stop] at h
    omega

/-! ### Regular expressions -/

/-- Reads the body of a regular expression from `offset` on: whether a slash closes it, and
where reading stopped.  A slash within a class or after a backslash does not close. -/
def regexBody (offset : Nat) (inClass : Bool) : List Char → Bool × Cursor
  | [] => (false, ⟨offset, []⟩)
  | ch :: cs =>
    if Text.isLineBreak ch then (false, ⟨offset, ch :: cs⟩)
    else if ch = '\\' then
      match cs with
      | [] => (false, ⟨offset + 1, []⟩)
      | escaped :: cs =>
        if Text.isLineBreak escaped then (false, ⟨offset + 1, escaped :: cs⟩)
        else regexBody (offset + 1 + escaped.utf8Size) inClass cs
    else if ch = '[' then regexBody (offset + 1) true cs
    else if ch = ']' then regexBody (offset + 1) false cs
    else if ch = '/' ∧ inClass = false then (true, ⟨offset + 1, cs⟩)
    else regexBody (offset + ch.utf8Size) inClass cs

/-! ### Punctuation -/

/-- The kind and the length of the punctuation mark that starts with `ch` and goes on in `cs`: the
longest that fits, except that a question mark before a decimal fraction stands alone. -/
def punctuator? (ch : Char) (cs : List Char) : Option (TokenKind × Nat) :=
  match ch with
  | '\x7b' => some (.openBrace, 1)
  | '\x7d' => some (.closeBrace, 1)
  | '(' => some (.openParen, 1)
  | ')' => some (.closeParen, 1)
  | '[' => some (.openBracket, 1)
  | ']' => some (.closeBracket, 1)
  | ';' => some (.semicolon, 1)
  | ',' => some (.comma, 1)
  | ':' => some (.colon, 1)
  | '~' => some (.tilde, 1)
  | '.' => some <| match cs with
    | '.' :: '.' :: _ => (.ellipsis, 3)
    | _ => (.dot, 1)
  | '?' => some <| match cs with
    | '?' :: '=' :: _ => (.coalesceAssign, 3)
    | '?' :: _ => (.coalesce, 2)
    | '.' :: cs => if cs.head?.any Char.isDigit then (.question, 1) else (.questionDot, 2)
    | _ => (.question, 1)
  | '=' => some <| match cs with
    | '=' :: '=' :: _ => (.same, 3)
    | '=' :: _ => (.equal, 2)
    | '>' :: _ => (.arrow, 2)
    | _ => (.assign, 1)
  | '!' => some <| match cs with
    | '=' :: '=' :: _ => (.notSame, 3)
    | '=' :: _ => (.notEqual, 2)
    | _ => (.bang, 1)
  | '+' => some <| match cs with
    | '+' :: _ => (.increment, 2)
    | '=' :: _ => (.plusAssign, 2)
    | _ => (.plus, 1)
  | '-' => some <| match cs with
    | '-' :: _ => (.decrement, 2)
    | '=' :: _ => (.minusAssign, 2)
    | _ => (.minus, 1)
  | '*' => some <| match cs with
    | '*' :: '=' :: _ => (.powerAssign, 3)
    | '*' :: _ => (.power, 2)
    | '=' :: _ => (.starAssign, 2)
    | _ => (.star, 1)
  | '/' => some <| match cs with
    | '=' :: _ => (.slashAssign, 2)
    | _ => (.slash, 1)
  | '%' => some <| match cs with
    | '=' :: _ => (.percentAssign, 2)
    | _ => (.percent, 1)
  | '<' => some <| match cs with
    | '<' :: '=' :: _ => (.shiftLeftAssign, 3)
    | '<' :: _ => (.shiftLeft, 2)
    | '=' :: _ => (.lessEqual, 2)
    | _ => (.less, 1)
  | '>' => some <| match cs with
    | '>' :: '>' :: '=' :: _ => (.shiftRightZeroAssign, 4)
    | '>' :: '>' :: _ => (.shiftRightZero, 3)
    | '>' :: '=' :: _ => (.shiftRightAssign, 3)
    | '>' :: _ => (.shiftRight, 2)
    | '=' :: _ => (.greaterEqual, 2)
    | _ => (.greater, 1)
  | '&' => some <| match cs with
    | '&' :: '=' :: _ => (.logicalAndAssign, 3)
    | '&' :: _ => (.logicalAnd, 2)
    | '=' :: _ => (.ampersandAssign, 2)
    | _ => (.ampersand, 1)
  | '|' => some <| match cs with
    | '|' :: '=' :: _ => (.logicalOrAssign, 3)
    | '|' :: _ => (.logicalOr, 2)
    | '=' :: _ => (.barAssign, 2)
    | _ => (.bar, 1)
  | '^' => some <| match cs with
    | '=' :: _ => (.caretAssign, 2)
    | _ => (.caret, 1)
  | _ => none

/-- The punctuation mark at `c`, which starts with `ch` and goes on in `cs`. -/
def punctuationLexeme (c : Cursor) (ch : Char) (cs : List Char) : Lexeme :=
  match punctuator? ch cs with
  | some (k, length) => .mark k (c.skip length)
  | none => .fault (.invalidCharacter ch c.offset) c.next

/-! ### Any token -/

/-- The token that starts at `c`, where no trivia starts. -/
def lexeme (c : Cursor) : Lexeme :=
  match c.rest with
  | [] => .mark .endOfFile c
  | ch :: cs =>
    if ch = '"' ∨ ch = '\'' then stringRest ch c.offset c.next
    else if ch = '\x60' then templateRest .first c.offset c.next
    else if ch.isDigit ∨ (ch = '.' ∧ cs.head?.any Char.isDigit) then numberLexeme c
    else if Text.isNameStart ch ∨ ch = '\\' then nameLexeme c
    else punctuationLexeme c ch cs

end Token

end Shapewire
