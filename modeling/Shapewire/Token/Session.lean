/-
A scanner under commands.

Whoever reads a source tells the scanner what to do next: read a token, read the current mark
again in another way, or keep a snapshot of where it stands and come back to it.  A snapshot holds
byte offsets and none of the text behind them, so coming back looks the places up in the source
again; an offset that cuts a character or lies behind the end leads nowhere.

A session is a scanner together with the snapshots taken so far.  Each may be restored whenever
and as often as one likes, also after later ones.
-/
import Shapewire.Token.Scanner

namespace Shapewire

/-- The place of a text at a byte offset, if a character starts or the text ends there. -/
def Cursor.at? (text : List Char) (offset : Nat) : Option Cursor :=
  (Text.dropBytes? offset text).map (⟨offset, ·⟩)

namespace Scanner

/-- What is kept of a scanner to come back to it: all but the source. -/
structure Snapshot where
  fullStart : Nat
  /-- The offset at which the token starts. -/
  start : Nat
  /-- The offset at which the token ends. -/
  stop : Nat
  token : TokenKind
  value : String
  lineBreak : Bool
  error? : Option ScanError
deriving DecidableEq, Repr, Inhabited

/-- Takes a snapshot. -/
def snapshot (s : Scanner) : Snapshot :=
  { fullStart := s.fullStart, start := s.tokenPos, stop := s.tokenEnd, token := s.token
    value := s.value, lineBreak := s.lineBreak, error? := s.error? }

/-- The scanner that stands in the source `text` where the snapshot says. -/
def Snapshot.restore? (text : List Char) (shot : Snapshot) : Option Scanner := do
  let start ← Cursor.at? text shot.start
  let here ← Cursor.at? text shot.stop
  some { fullStart := shot.fullStart, start, here, token := shot.token, value := shot.value
         lineBreak := shot.lineBreak, error? := shot.error? }

/-- What a scanner can be told to do. -/
inductive Command where
  | scan
  | rescanSlash
  | rescanTemplate
  /-- Keep a snapshot. -/
  | save
  /-- Come back to the snapshot that was taken as the `index`-th, counted from zero. -/
  | restore (index : Nat)
deriving DecidableEq, Repr

/-- A scanner in a source, with the snapshots taken so far. -/
structure Session where
  text : List Char
  scanner : Scanner
  /-- The snapshots in the order in which they were taken. -/
  taken : List Snapshot
deriving DecidableEq, Repr

namespace Session

/-- The session in which nothing has been done yet. -/
def ofText (text : List Char) : Session := ⟨text, .ofText text, []⟩

/-- Obeys a command. -/
def perform? (t : Session) : Command → Option Session
  | .scan => some { t with scanner := t.scanner.scan }
  | .rescanSlash => some { t with scanner := t.scanner.rescanSlash }
  | .rescanTemplate => some { t with scanner := t.scanner.rescanTemplate }
  | .save => some { t with taken := t.taken ++ [t.scanner.snapshot] }
  | .restore index => do
    let shot ← t.taken[index]?
    let scanner ← shot.restore? t.text
    some { t with scanner }

/-- Which commands make sense: only the brace that ends a substitution is read again as template
text, and only a snapshot that was taken is restored. -/
def Allows (t : Session) : Command → Prop
  | .rescanTemplate => t.scanner.token = .closeBrace
  | .restore index => index < t.taken.length
  | .scan | .rescanSlash | .save => True

instance (t : Session) : (command : Command) → Decidable (t.Allows command)
  | .rescanTemplate => inferInstanceAs (Decidable (t.scanner.token = .closeBrace))
  | .restore index => inferInstanceAs (Decidable (index < t.taken.length))
  | .scan | .rescanSlash | .save => inferInstanceAs (Decidable True)

/-- Obeys the commands one after the other, as long as each makes sense where it comes. -/
def run? (t : Session) : List Command → Option Session
  | [] => some t
  | command :: commands =>
    if t.Allows command then (t.perform? command).bind (run? · commands) else none

end Session

end Scanner

end Shapewire
