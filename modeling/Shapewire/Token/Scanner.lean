/-
The scanner: a source is read one token at a time.

A scanner's state is the token it has just read together with the place after it, so it is
an ordinary value: keeping a copy is all it takes to look ahead and come back.  `scan`
reads the next token.  Two marks can be read again in another way once the grammar knows
what they are: a slash as the start of a regular expression, and the brace that closes a
substitution as the start of the template's next piece.

A fault leaves the token `unknown` and is remembered; later tokens do not clear it.
-/
import Shapewire.Token.Lexeme
import Shapewire.Token.Trivia

namespace Shapewire

/-- The token just read, and where reading goes on. -/
structure Scanner where
  /-- Where the trivia before the token start. -/
  fullStart : Nat
  /-- Where the token starts. -/
  start : Cursor
  /-- Where the token ends. -/
  here : Cursor
  token : TokenKind
  /-- The cooked value of the token. -/
  value : String
  /-- Whether a line ended in the trivia before the token, or within a template's text. -/
  lineBreak : Bool
  /-- The last fault met. -/
  error? : Option ScanError
deriving DecidableEq, Repr, Inhabited

namespace Scanner

open Token

/-- A scanner before the first token of a source. -/
def ofText (text : List Char) : Scanner :=
  { fullStart := 0, start := .ofText text, here := .ofText text, token := .unknown, value := ""
    lineBreak := false, error? := none }

/-- The byte offset at which the token starts. -/
def tokenPos (s : Scanner) : Nat := s.start.offset

/-- The byte offset at which the token ends. -/
def tokenEnd (s : Scanner) : Nat := s.here.offset

/-- The source text of the token. -/
def text (s : Scanner) : String := String.ofList (s.start.upTo s.here)

/-- The scanner whose current token is the lexeme `l`, read at `s.start`. -/
def accept (s : Scanner) (l : Lexeme) : Scanner :=
  let s := { s with here := l.stop, value := String.ofList l.value
                    lineBreak := s.lineBreak || l.lineBreak }
  match l.kind with
  | .ok k => { s with token := k }
  | .error e => { s with token := .unknown, error? := some e }

/-- Reads the next token. -/
def scan (s : Scanner) : Scanner :=
  match skipTrivia s.here false with
  | .skipped start lineBreak =>
    accept { s with fullStart := s.here.offset, start, lineBreak } (lexeme start)
  | .unclosed start stop lineBreak =>
    { fullStart := s.here.offset, start, here := stop, token := .unknown, value := "", lineBreak
      error? := some (.unterminatedComment start.offset) }

/-- Reads the brace that is the current token again, as the start of a template's next
piece. -/
def rescanTemplate (s : Scanner) : Scanner :=
  s.accept (templateRest .later s.start.offset s.start.next)

/-- Whether the token is one that a regular expression may start with. -/
def atSlash (s : Scanner) : Bool := s.token == .slash || s.token == .slashAssign

/-- Reads the slash that is the current token again, as the start of a regular expression.
Any other token stays as it is. -/
def rescanSlash (s : Scanner) : Scanner :=
  if s.atSlash then
    let body := s.start.next
    match regexBody body.offset false body.rest with
    | (true, close) =>
      let stop := close.skipWhile Text.isNamePart
      { s with here := stop, token := .regexLiteral, value := String.ofList (s.start.upTo stop) }
    | (false, stop) =>
      { s with here := stop, token := .unknown, error? := some (.unterminatedRegex s.start.offset) }
  else s

/-- Whether no token follows: the source has ended or a fault was met. -/
def isDone (s : Scanner) : Bool := s.token == .endOfFile || s.token == .unknown

end Scanner

end Shapewire
