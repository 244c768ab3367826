/-
Reading a source moves forward.

A construct that is read leaves the parser behind a token it has consumed, and so does every turn of
a loop that is not the last (`Place.Advances`).  Skipping to the end of a bracket is a loop over
tokens and moves behind each.  With that much on every way around, no source keeps the parser busy
for ever: its budget, which is only there to make the grammar a function, lasts for every source.
-/
import Shapewire.Proofs.Grammar.Turns
import Shapewire.Proofs.Grammar.Lasting

namespace Shapewire

open Shapewire.Parser

/-- The place at which a parser stands. -/
def ParserState.place (s : ParserState) : Place := ⟨s.scanner, s.prevEnd⟩

/-- The parser has moved on in the text, from `x` to `y`. -/
structure Place.Advances (text : List Char) (x y : Place) : Prop where
  passes : x.Passes y
  /-- The last consumed token ends further behind. -/
  prevEnd : x.prevEnd < y.prevEnd
  /-- There are fewer characters left. -/
  left : y.left < x.left
  sound : y.Sound text

theorem Place.Passes.advances {text : List Char} {x y : Place} (h : x.Passes y)
    (sound : x.Sound text) : x.Advances text y where
  passes := h
  prevEnd := h.prevEnd_lt sound
  left := (h.further sound).shorter
  sound := (h.further sound).sound

/-- A parser whose results lie behind a token advances with each of them. -/
theorem Parser.advances_of_leads {α : Type} {p : Parser α} {P : α → Prop} {text : List Char}
    {s s' : ParserState} {a : α} (sound : s.place.Sound text)
    (leads : Leads s.depth s.context s.place p fun a y => P a → s.place.Passes y)
    (run : p s = .ok a s') (holds : P a) : s.place.Advances text s'.place := by
  obtain ⟨y, rfl, passes⟩ := leads a s' run
  exact (passes holds).advances sound

/-! ### Skipping to the end of a bracket -/

namespace Scanner

/-- How many brackets are open behind a token of kind `k` if `depth` are open before it. -/
def depthBehind (k : TokenKind) (depth : Nat) : Nat :=
  if opensBracket k then depth + 1 else if closesBracket k then depth - 1 else depth

/-- One turn: the next token is read, and whether it opens or closes a bracket decides what
remains to be closed. -/
theorem afterBrackets?_succ (depth : Nat) (s : Scanner) :
    s.afterBrackets? (depth + 1) = if s.scan.isDone then none
      else s.scan.afterBrackets? (depthBehind s.scan.token (depth + 1)) := by
  rw [afterBrackets?, if_neg (Nat.succ_ne_zero depth)]
  split
  · rfl
  · rw [depthBehind]
    by_cases opens : opensBracket s.scan.token = true
    · rw [if_pos opens, if_pos opens]
    · rw [if_neg opens, if_neg opens]
      split <;> rfl

theorem tokenEnd_lt_scan {s : Scanner} (more : s.scan.isDone = false) :
    s.tokenEnd < s.scan.tokenEnd := s.reaches_scan.offset_lt (length_scan_lt more)

end Scanner

/-! ### The grammar as a whole -/

/-- What moves the parser forward. -/
structure Parser.Progresses : Prop where
  /-- Reading a source ends with its tree or at a fault. -/
  ends : ∀ (file : String) (text : List Char),
    (∃ t s, (source file text).run (initial text) = .ok t s) ∨
      ∃ f s, (source file text).run (initial text) = .error (.fault f) s
  /-- The parser starts at a place of the source. -/
  start : ∀ text : List Char, (Place.start text).Sound text
  /-- Wherever it stands, what reads a construct moves it behind a token. -/
  constructs : ∀ (construct : Construct) (turns budget : Nat) (text : List Char)
    (s s' : ParserState) (t : Tree), s.place.Sound text → construct.StartsAt s →
      construct.parser ⟨turns, parseAt budget⟩ s = .ok t s' → s.place.Advances text s'.place
  /-- Loops repeat their turns. -/
  loops : ∀ {σ ρ : Type} (r : Repetition σ ρ) (d : Descent),
    r.parser d = loop d.turns (r.turn d) r.first
  /-- A turn after which the loop goes on moves the parser behind a token. -/
  turns : ∀ {σ ρ : Type} (r : Repetition σ ρ) (turns budget : Nat) (text : List Char)
    (s s' : ParserState) (a a' : σ), s.place.Sound text →
      r.turn ⟨turns, parseAt budget⟩ a s = .ok (.inl a') s' → s.place.Advances text s'.place
  /-- Skipping to the end of a bracket reads a token on each turn. -/
  brackets : ∀ (depth : Nat) (s : Scanner), s.afterBrackets? (depth + 1) =
    if s.scan.isDone then none
    else s.scan.afterBrackets? (Scanner.depthBehind s.scan.token (depth + 1))
  /-- A token after which it goes on ends further behind and leaves fewer characters. -/
  skips : ∀ s : Scanner, s.scan.isDone = false →
    s.tokenEnd < s.scan.tokenEnd ∧ s.scan.here.rest.length < s.here.rest.length

/-- **Every way around in the grammar passes a token, and reading ends for every source.** -/
theorem Parser.progresses : Parser.Progresses where
  ends file text := by
    have lasts := source_ne_exhausted file text
    generalize (source file text).run (initial text) = r at lasts
    match r, lasts with
    | .ok t s, _ => exact .inl ⟨t, s, rfl⟩
    | .error (.fault f) s, _ => exact .inr ⟨f, s, rfl⟩
    | .error .exhausted s, lasts => exact absurd rfl (lasts s)
  start := Place.sound_start
  constructs construct turns budget text s s' t sound starts run :=
    have leads : Leads s.depth s.context s.place _ fun _ y => s.place.Passes y :=
      construct.passes_parser (faithful_parseAt turns budget) starts
    advances_of_leads sound (leads.mono fun _ _ passes (_ : True) => passes) run trivial
  loops r d := r.parser_eq_loop
  turns r turns budget text s s' a a' sound run :=
    advances_of_leads sound (r.passes_turn (faithful_parseAt turns budget) a) run rfl
  brackets := Scanner.afterBrackets?_succ
  skips s more := ⟨Scanner.tokenEnd_lt_scan more, Scanner.length_scan_lt more⟩

end Shapewire
