/-
Parsers: computations over the place in a source.

A parser reads from the current token on and either builds something or stops.  Its state is
the scanner, the end of the last token consumed, how many constructs are open, the
context that decides how a few words are read, and what has been built so far.  Depth and
context are always given back as they were found: `nested` and `withContext` restore them
whatever the parser inside does.

What a parser does with the nodes it reads is left open.  A `Builder` says what is kept beside
the place in the source, what stands for a node, and how a node is added.  A grammar that is
written against it can be used in two ways.  It may put trees together, with nothing kept
beside the place and every node standing for itself; that is what bare `Parser` means.  Or it
may fill a node table while it reads.

Parsers for a grammar call each other in circles.  `Descent` is what a parser is handed to
call the others through, so that each can be defined on its own; the knot is tied once, in
`Grammar.Descent`, where every turn through it uses up some of a budget that the length of
the source provides.  Running out of it is a way to stop that is kept apart from faults.
-/
import Shapewire.Grammar.Fault
import Shapewire.Token.Stream
import Shapewire.Tree.Node

namespace Shapewire

/-- How the words `in`, `yield` and `await` are read. -/
structure Context where
  /-- `in` is no operator here: it may introduce what a loop goes over. -/
  noIn : Bool := false
  /-- `yield` is an operator: the innermost function is a generator. -/
  yieldIsOperator : Bool := false
  /-- `await` is an operator: the innermost function is asynchronous. -/
  awaitIsOperator : Bool := false
deriving DecidableEq, Repr, Inhabited

/-- The place in a source, with what has been built so far. -/
structure ParserState (σ : Type := Unit) where
  scanner : Scanner
  /-- Where the last consumed token ends. -/
  prevEnd : Nat := 0
  /-- How many guarded constructs are open. -/
  depth : Nat := 0
  context : Context := {}
  built : σ
deriving DecidableEq, Repr, Inhabited

/-- The same place with something else built so far. -/
def ParserState.over {σ τ : Type} (s : ParserState σ) (built : τ) : ParserState τ :=
  { scanner := s.scanner, prevEnd := s.prevEnd, depth := s.depth, context := s.context, built }

/-- Why a parser stops without a result. -/
inductive Stop where
  | fault (f : Fault)
  /-- The budget is used up. -/
  | exhausted
deriving DecidableEq, Repr, Inhabited

/-- A computation over the place in a source that builds something or stops. -/
abbrev ParserM (σ : Type) := EStateM Stop (ParserState σ)

/-- A parser that keeps nothing beside the place. -/
abbrev Parser := ParserM Unit

/-- The parts of the grammar that occur within themselves. -/
inductive Nonterminal where
  | statement
  | assignment
  /-- An operand of binary operators that bind more tightly than `min`. -/
  | operand (min : Nat)
  | unary
  | construction
deriving DecidableEq, Repr

/-- What a parser may call: every recursive part of the grammar, and loops of so many
turns. -/
structure Descent (σ : Type := Unit) (ρ : Type := Tree) where
  turns : Nat
  parse : Nonterminal → ParserM σ ρ

namespace Parser

variable {σ ρ ν : Type}

/-! ### The current token -/

/-- The kind of the current token. -/
def token : ParserM σ TokenKind := return (← get).scanner.token

/-- The cooked value of the current token. -/
def value : ParserM σ String := return (← get).scanner.value

/-- Where the current token starts. -/
def pos : ParserM σ Nat := return (← get).scanner.tokenPos

/-- Where the last consumed token ends. -/
def prevEnd : ParserM σ Nat := return (← get).prevEnd

/-- Whether a line ended before the current token. -/
def lineBreak : ParserM σ Bool := return (← get).scanner.lineBreak

/-- Whether the current token is of kind `k`. -/
def isToken (k : TokenKind) : ParserM σ Bool := return (← token) == k

/-- Whether the current token is the name `word`, which is no reserved word. -/
def isWord (word : String) : ParserM σ Bool := return (← token) == .identifier && (← value) == word

/-- How a message speaks of the current token. -/
def found (s : Scanner) : String :=
  match s.token with
  | .identifier => "identifier '" ++ s.value ++ "'"
  | .endOfFile => "end of input"
  | k => "'" ++ k.description ++ "'"

/-- Stops because something else was expected at the current token. -/
def unexpected {α : Type} (expected : String) : ParserM σ α := do
  let s := (← get).scanner
  throw (.fault (.unexpected s.tokenPos expected (found s)))

/-- Stops if there is a fault in the current token. -/
def checkToken : ParserM σ Unit := do
  let s := (← get).scanner
  match s.token, s.error? with
  | .unknown, some e => throw (.fault (.lexical e))
  | _, _ => return ()

/-- Consumes the current token. -/
def advance : ParserM σ Unit := do
  modify fun s => { s with prevEnd := s.scanner.tokenEnd, scanner := s.scanner.scan }
  checkToken

/-- Reads the current token again in another way. -/
def reread (again : Scanner → Scanner) : ParserM σ Unit := do
  modify fun s => { s with scanner := again s.scanner }
  checkToken

/-- Consumes a token of kind `k` or stops. -/
def expect (k : TokenKind) : ParserM σ Unit := do
  if ← isToken k then advance else unexpected k.description

/-- Consumes a token of kind `k` if it is the current one. -/
def accept (k : TokenKind) : ParserM σ Bool := do
  if ← isToken k then
    advance
    return true
  else return false

/-- Whether a statement may end before the current token. -/
def mayEndStatement : ParserM σ Bool := do
  match ← token with
  | .semicolon | .closeBrace | .endOfFile => return true
  | _ => lineBreak

/-- Ends a statement: by a semicolon, or without one where that is allowed. -/
def endStatement : ParserM σ Unit := do
  if ← isToken .semicolon then advance
  else if ← mayEndStatement then return ()
  else unexpected ";"

/-! ### Depth and context -/

/-- Runs a parser one construct deeper, if that is not too deep. -/
def nested {α : Type} (p : ParserM σ α) : ParserM σ α := fun s =>
  if maxNesting ≤ s.depth then
    .error (.fault (.nestingTooDeep s.scanner.tokenPos maxNesting)) { s with depth := s.depth + 1 }
  else
    match p { s with depth := s.depth + 1 } with
    | .ok a t => .ok a { t with depth := t.depth - 1 }
    | .error e t => .error e { t with depth := t.depth - 1 }

/-- Runs a parser in a context made from the current one. -/
def withContext {α : Type} (change : Context → Context) (p : ParserM σ α) : ParserM σ α := fun s =>
  match p { s with context := change s.context } with
  | .ok a t => .ok a { t with context := s.context }
  | .error e t => .error e { t with context := s.context }

/-- Runs a parser where `in` is an operator. -/
def allowIn {α : Type} (p : ParserM σ α) : ParserM σ α := withContext ({ · with noIn := false }) p

/-! ### Looking ahead -/

/-- Runs a parser for its answer only, and comes back to the current token. -/
def lookAhead {α : Type} (p : ParserM σ α) : ParserM σ α := do
  let s ← get
  let a ← p
  modify fun t => { t with scanner := s.scanner, prevEnd := s.prevEnd }
  return a

/-- Moves to the next token whatever it is, and says of which kind it is. -/
def peekNext : ParserM σ TokenKind := do
  modify fun s => { s with scanner := s.scanner.scan }
  token

/-! ### Loops -/

/-- Repeats `turn` from `a` on until it gives a result. -/
def loop {α β : Type} (turns : Nat) (turn : α → ParserM σ (α ⊕ β)) (a : α) : ParserM σ β :=
  match turns with
  | 0 => throw .exhausted
  | turns + 1 => do
    match ← turn a with
    | .inl a => loop turns turn a
    | .inr b => return b

/-- Everything that `item` reads while `more` holds. -/
def repeatWhile {α : Type} (turns : Nat) (more : ParserM σ Bool) (item : ParserM σ α) :
    ParserM σ (List α) :=
  match turns with
  | 0 => throw .exhausted
  | turns + 1 => do
    if ← more then
      let a ← item
      return a :: (← repeatWhile turns more item)
    else return []

/-- Items with commas between them and perhaps one after the last, up to the mark `close`,
which is not consumed. -/
def commaList {α : Type} (turns : Nat) (close : TokenKind) (item : ParserM σ α) :
    ParserM σ (List α) :=
  match turns with
  | 0 => throw .exhausted
  | turns + 1 => do
    if ← isToken close then return []
    let a ← item
    if ← accept .comma then return a :: (← commaList turns close item)
    else return [a]

/-- One item or more with commas between them. -/
def commaSequence {α : Type} (turns : Nat) (item : ParserM σ α) : ParserM σ (List α) :=
  match turns with
  | 0 => throw .exhausted
  | turns + 1 => do
    let a ← item
    if ← accept .comma then return a :: (← commaSequence turns item)
    else return [a]

end Parser

/-! ### Building nodes -/

/-- What parsers do with the nodes that they read.  Nodes are handed on as values of `ρ`, and what
names a thing as a value of `ν`. -/
class Builder (σ : Type) (ρ ν : outParam Type) where
  /-- The value of the current token, which names something. -/
  name : ParserM σ ν
  /-- Adds a node to what has been built. -/
  add (kind : NodeKind) (flags : NodeFlags) (span : Span)
    (record? : Option (Record ρ (Option ρ) ν)) : ParserM σ ρ

/-- Trees need no place to be kept. -/
instance : Builder Unit Tree String where
  name := Parser.value
  add kind flags span record? := return .node kind flags span record?

@[simp] theorem Builder.add_tree (kind : NodeKind) (flags : NodeFlags) (span : Span)
    (record? : Option (Record Tree (Option Tree) String)) :
    (add kind flags span record? : Parser Tree) = pure (.node kind flags span record?) := rfl

namespace Parser

variable {σ ρ ν : Type} [Builder σ ρ ν]

/-- The node of kind `kind` that starts at `start`, ends with the last consumed token and
carries flags. -/
def flagged (kind : NodeKind) (flags : NodeFlags) (start : Nat)
    (record : Record ρ (Option ρ) ν) : ParserM σ ρ := do
  Builder.add kind flags ⟨start, ← prevEnd⟩ (some record)

/-- The node of kind `kind` that starts at `start` and ends with the last consumed token. -/
def finish (kind : NodeKind) (start : Nat) (record : Record ρ (Option ρ) ν) : ParserM σ ρ :=
  flagged kind (record.flags) start record

/-- The leaf of kind `kind` that starts at `start` and ends with the last consumed token. -/
def finishLeaf (kind : NodeKind) (start : Nat) : ParserM σ ρ := do
  Builder.add kind .none ⟨start, ← prevEnd⟩ none

/-- The current token as a name. -/
def nameFromToken : ParserM σ ρ := do
  let start ← pos
  let name ← Builder.name
  advance
  finish (.token .identifier) start (.identifier name)

/-- A name that is no reserved word. -/
def identifier : ParserM σ ρ := do
  if ← isToken .identifier then nameFromToken else unexpected "identifier"

/-- A name of a member, which may be a reserved word. -/
def memberName : ParserM σ ρ := do
  if (← token).isName then nameFromToken else unexpected "property name"

/-- The current token as a literal. -/
def literal : ParserM σ ρ := do
  let start ← pos
  let kind ← token
  let text ← value
  advance
  finish (.token kind) start (.literal text)

end Parser

namespace Descent

variable {σ ρ : Type}

/-- A statement. -/
def statement (d : Descent σ ρ) : ParserM σ ρ := d.parse .statement

/-- An expression without commas. -/
def assignment (d : Descent σ ρ) : ParserM σ ρ := d.parse .assignment

end Descent

end Shapewire
