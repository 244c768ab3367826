/-
What is blamed when a source does not parse.

A parser goes through a source with a cursor.  It reads the token behind the current one, or the
current one again (`Place.Reads`), and what it has read so far without a fault is its trail
(`Place.Trail`).  A look ahead leaves no trail, whatever it meets on its way.  Where the parser
stops it blames the token it stands at, or else the one that it has just tried to read there
(`Place.StopsAt`).

The scanner remembers a fault for good.  But a token that is read without one leaves nothing to
remember, so that none is remembered anywhere on a trail, and an unknown token at its end has the
fault that reading it there has just met.  Every parser that the grammar is made of keeps to this
(`Parser.Built.traced`).

Every token of a trail lies in the source and behind the one before it, and so does what is blamed
(`SourceTree.blames_of_parse`).
-/
import Shapewire.Proofs.Grammar.Level
import Shapewire.Proofs.Grammar.Progress
import Shapewire.Proofs.Token.Session
import Shapewire.Proofs.Tree.Source

namespace Shapewire

/-! ### Reading without a fault -/

namespace Scanner

variable {s : Scanner}

theorem error?_accept {l : Lexeme} (known : (s.accept l).token ≠ .unknown) :
    (s.accept l).error? = s.error? := by
  unfold accept at known ⊢
  cases kind : l.kind with
  | ok k => rfl
  | error e =>
    rw [kind] at known
    exact absurd rfl known

theorem error?_scan (known : s.scan.token ≠ .unknown) : s.scan.error? = s.error? := by
  unfold scan at known ⊢
  cases trivia : Token.skipTrivia s.here false with
  | skipped start lineBreak =>
    rw [trivia] at known
    exact error?_accept known
  | unclosed start stop lineBreak =>
    rw [trivia] at known
    exact absurd rfl known

theorem error?_rescanSlash (known : s.rescanSlash.token ≠ .unknown) :
    s.rescanSlash.error? = s.error? := by
  unfold rescanSlash at known ⊢
  dsimp only at known ⊢
  split
  · rename_i slash
    rw [if_pos slash] at known
    split
    · rfl
    · rename_i body
      rw [body] at known
      exact absurd rfl known
  · rfl

end Scanner

namespace Place

variable {text : List Char} {x y z : Place} {f : Fault}

/-! ### Trails -/

/-- A token is read where a parser stands: the one behind the current token, or that token again, a
slash as the start of a regular expression and a brace as the start of a template's next piece. -/
inductive Reads (x : Place) : Place → Prop where
  | next : Reads x x.next
  | regex (slash : x.scanner.atSlash = true) : Reads x x.asRegex
  | template (brace : x.token = .closeBrace) : Reads x x.asTemplate

/-- From one place to another tokens are read without a fault. -/
inductive Trail (x : Place) : Place → Prop where
  | here : Trail x x
  | read {y z : Place} (trail : Trail x y) (reads : y.Reads z) (known : z.token ≠ .unknown) :
    Trail x z

/-- A parser at the place `x` stops at `y` because of a fault.  If a token has a fault, this is what
reading it from `x` on has met, and no other fault was met before. -/
inductive StopsAt (x : Place) : Place → Fault → Prop where
  | unexpected {expected : String} :
    StopsAt x x (.unexpected x.pos expected (Parser.found x.scanner))
  | nestingTooDeep : StopsAt x x (.nestingTooDeep x.pos maxNesting)
  | lexical {y : Place} {e : ScanError} (reads : x.Reads y) (unknown : y.token = .unknown)
    (met : y.scanner.error? = some e) (first : x.scanner.error? = none) : StopsAt x y (.lexical e)

/-- An unknown token is one with a fault. -/
theorem Reads.explained (reads : x.Reads y) : y.scanner.Explained := by
  cases reads with
  | next => exact Scanner.explained_scan _
  | regex slash => exact Scanner.explained_rescanSlash slash
  | template => exact Scanner.explained_rescanTemplate _

/-- Reading a token without a fault leaves no fault behind. -/
theorem Reads.error? (reads : x.Reads y) (known : y.token ≠ .unknown) :
    y.scanner.error? = x.scanner.error? := by
  cases reads with
  | next => exact Scanner.error?_scan known
  | regex => exact Scanner.error?_rescanSlash known
  | template => exact Scanner.error?_accept known

theorem Reads.sound (reads : x.Reads y) (sound : x.Sound text) : y.Sound text := by
  cases reads with
  | next => exact sound.next
  | regex slash => exact sound.asRegex slash
  | template brace => exact sound.asTemplate brace

namespace Trail

theorem trans (h : x.Trail y) (h' : y.Trail z) : x.Trail z := by
  induction h' with
  | here => exact h
  | read _ reads known ih => exact .read ih reads known

theorem error? (h : x.Trail y) (fresh : x.scanner.error? = none) : y.scanner.error? = none := by
  induction h with
  | here => exact fresh
  | read _ reads known ih => exact (reads.error? known).trans ih

theorem sound (h : x.Trail y) (sound : x.Sound text) : y.Sound text := by
  induction h with
  | here => exact sound
  | read _ reads _ ih => exact reads.sound ih

end Trail

/-- What is blamed lies in the source, behind the last token consumed. -/
theorem StopsAt.located (stops : x.StopsAt y f) (sound : x.Sound text) :
    ∃ c, (Cursor.ofText text).Reaches c ∧ f.pos = c.offset ∧ y.prevEnd ≤ f.pos := by
  cases stops with
  | unexpected | nestingTooDeep =>
    exact ⟨x.scanner.start, sound.scanner.start, rfl, sound.before⟩
  | lexical reads unknown met =>
    have sound := reads.sound sound
    obtain ⟨e', is, c, behind, -, pos⟩ := reads.explained unknown
    obtain rfl := Option.some.inj (met.symm.trans is)
    refine ⟨c, sound.scanner.start.trans behind, pos, ?_⟩
    calc y.prevEnd
      _ ≤ y.pos := sound.before
      _ ≤ c.offset := behind.offset_le
      _ = _ := pos.symm

end Place

/-! ### What parsers leave behind -/

namespace Parser

variable {α β : Type} {n : Nat} {x : Place}

theorem checkToken_eq (s : ParserState) : checkToken s =
    match s.scanner.token, s.scanner.error? with
    | .unknown, some e => .error (.fault (.lexical e)) s
    | _, _ => .ok () s := by
  show (match s.scanner.token, s.scanner.error? with
    | .unknown, some e => throw (.fault (.lexical e))
    | _, _ => return () : Parser Unit) s = _
  generalize s.scanner.token = k
  generalize s.scanner.error? = e?
  split <;> rfl

/-- How a parser ends that started at `x`.  Behind a result there is the trail of what was read for
it, and behind a fault the trail to where the parser stopped. -/
inductive Traced (x : Place) : EStateM.Result Stop ParserState α → Prop where
  | ok {a : α} {t : ParserState} (trail : x.Trail t.place) : Traced x (.ok a t)
  | fault {y : Place} {f : Fault} {t : ParserState} (trail : x.Trail y)
    (stops : y.StopsAt t.place f) : Traced x (.error (.fault f) t)
  | exhausted {t : ParserState} : Traced x (.error .exhausted t)

namespace Traced

/-- What happens at the end of a trail is traced back to its start. -/
theorem after {y : Place} {r : EStateM.Result Stop ParserState α} (h : Traced y r)
    (trail : x.Trail y) : Traced x r := by
  cases h with
  | ok rest => exact .ok (trail.trans rest)
  | fault rest stops => exact .fault (trail.trans rest) stops
  | exhausted => exact .exhausted

/-- What is run afterwards starts without a fault in memory as well. -/
theorem bind {p : Parser α} {f : α → Parser β} {s : ParserState}
    (first : Traced x (p s)) (fresh : x.scanner.error? = none)
    (rest : ∀ a t, t.scanner.error? = none → Traced t.place (f a t)) :
    Traced x ((p >>= f) s) := by
  show Traced x (EStateM.bind p f s)
  unfold EStateM.bind
  generalize p s = r at first
  cases first with
  | ok trail => exact (rest _ _ (trail.error? fresh)).after trail
  | fault trail stops => exact .fault trail stops
  | exhausted => exact .exhausted

theorem of_asks {p : Parser α} (asks : Asks p) (s : ParserState) : Traced s.place (p s) := by
  obtain ⟨a, run⟩ := asks s
  rw [run]
  exact .ok .here

/-- A token that has just been read lengthens the trail, or else it is blamed. -/
theorem checkToken {s : ParserState} (fresh : x.scanner.error? = none)
    (reads : x.Reads s.place) : Traced x (Parser.checkToken s) := by
  rw [checkToken_eq]
  split
  · exact .fault .here (.lexical reads ‹_› ‹_› fresh)
  · rename_i sound
    refine .ok (.read .here reads fun unknown => ?_)
    obtain ⟨e, met, -⟩ := reads.explained unknown
    exact sound e unknown met

theorem advance {s : ParserState} (fresh : s.scanner.error? = none) :
    Traced s.place (Parser.advance s) := checkToken fresh .next

theorem rescanTemplate {s : ParserState} (fresh : s.scanner.error? = none)
    (brace : s.scanner.token = .closeBrace) :
    Traced s.place (Parser.reread Scanner.rescanTemplate s) := checkToken fresh (.template brace)

theorem rescanSlash {s : ParserState} (fresh : s.scanner.error? = none) :
    Traced s.place (Parser.reread Scanner.rescanSlash s) := by
  show Traced s.place (Parser.checkToken { s with scanner := s.scanner.rescanSlash })
  cases slash : s.scanner.atSlash with
  | true => exact checkToken fresh (.regex slash)
  | false =>
    -- Nothing is read again here, and with no fault in memory none is found.
    rw [Scanner.rescanSlash_of_not_atSlash slash, checkToken_eq]
    split
    · rename_i met
      exact absurd (fresh.symm.trans met) nofun
    · exact .ok .here

/-- What a parser one construct deeper leaves behind is behind the construct as well. -/
theorem nested {p : Parser α} {s : ParserState}
    (inner : Traced s.place (p { s with depth := s.depth + 1 })) :
    Traced s.place (Parser.nested p s) := by
  unfold Parser.nested
  split
  · exact .fault .here .nestingTooDeep
  · generalize p _ = r at inner
    cases inner with
    | ok trail => exact .ok trail
    | fault trail stops => exact .fault trail stops
    | exhausted => exact .exhausted

theorem withContext {change : Context → Context} {p : Parser α} {s : ParserState}
    (inner : Traced s.place (p { s with context := change s.context })) :
    Traced s.place (Parser.withContext change p s) := by
  unfold Parser.withContext
  generalize p _ = r at inner
  cases inner with
  | ok trail => exact .ok trail
  | fault trail stops => exact .fault trail stops
  | exhausted => exact .exhausted

end Traced

/-- What the parsers of the grammar are made of keeps to the trail, and so do they. -/
theorem Built.traced {p q : Parser α} (h : Built n p q) (s : ParserState)
    (fresh : s.scanner.error? = none) : Traced s.place (p s) := by
  induction h generalizing s with
  | ask asks => exact .of_asks asks s
  | exhausted => exact .exhausted
  | unexpected => exact .fault .here .unexpected
  | advance => exact .advance fresh
  | rescanSlash => exact .rescanSlash fresh
  | @rescanTemplate _ _ expected f f' _ _ _ rest =>
    show Traced s.place ((if (!(s.scanner.token == .closeBrace)) = true then
        Parser.unexpected expected >>= f'
      else Parser.reread Scanner.rescanTemplate >>= f) s)
    split
    · -- The parser stops before anything is read again.
      exact .fault .here .unexpected
    · rename_i brace
      have brace : s.scanner.token = .closeBrace := by simpa using brace
      exact (Traced.rescanTemplate fresh brace).bind fresh fun a t => rest a t
  | bind _ _ first rest => exact (first s fresh).bind fresh fun a t => rest a t
  | nested _ inner => exact .nested (inner { s with depth := s.depth + 1 } fresh)
  | @withContext _ _ change _ _ _ inner =>
    exact .withContext (inner { s with context := change s.context } fresh)
  | atDepth _ inner => exact inner s fresh

/-- A source that is given up was read without a fault up to where the parser stops. -/
theorem stopsAt_of_source {file : String} {text : List Char} {f : Fault} {s : ParserState}
    (stopped : (source file text).run (initial text) = .error (.fault f) s) :
    ∃ x, (initial text).place.Trail x ∧ x.StopsAt s.place f := by
  have traced : Traced (initial text).place ((source file text).run (initial text)) :=
    (built_source file text).traced (initial text) rfl
  rw [stopped] at traced
  cases traced with
  | fault trail stops => exact ⟨_, trail, stops⟩

end Parser

/-! ### The error of a source -/

/-- The error names the source and a place of it, where the parser stopped because of the fault. -/
structure ParseError.Blames (e : ParseError) (file : String) (text : List Char) : Prop where
  named : e.file = file
  /-- It is the start of a character or the end of the source. -/
  boundary : Text.Boundary text e.pos
  within : e.pos ≤ Text.byteLength text
  /-- The tokens up to there were read without a fault, and all that was consumed lies before. -/
  stops : ∃ x s, (Parser.source file text).run (Parser.initial text) = .error (.fault e.fault) s ∧
    (Parser.initial text).place.Trail x ∧ x.StopsAt s.place e.fault ∧ s.prevEnd ≤ e.pos

namespace SourceTree

/-- **The error of a source is a fault of the token at which the parser stops.** -/
theorem blames_of_parse {file text : String} {e : ParseError}
    (failed : parse file text = .error e) : e.Blames file text.toList := by
  obtain ⟨s, stopped, named⟩ := Tree.exists_fault_of_parse (tree_error_of_parse failed)
  obtain ⟨x, trail, stops⟩ := Parser.stopsAt_of_source stopped
  have sound : x.Sound text.toList :=
    trail.sound ⟨(Scanner.standing_ofText text.toList).toSound, Nat.zero_le _⟩
  obtain ⟨c, reached, pos, behind⟩ := stops.located sound
  have pos : e.pos = c.offset := pos
  exact
    { named
      boundary := by rw [pos]; exact reached.boundary
      within := by rw [pos]; exact reached.offset_le_byteLength
      stops := ⟨x, s, stopped, trail, stops, behind⟩ }

/-- Looking ahead for the end of the bracket meets the string, of which the error says nothing. -/
theorem blames_of_parse_lookahead : ∃ e, parse "Open.js" "(a b \"open" = .error e ∧
    e.message = "Open.js:3: expected ), found identifier 'b'" ∧
      e.Blames "Open.js" "(a b \"open".toList := by
  have stops : ((parse "Open.js" "(a b \"open").map fun _ => ()).mapError ParseError.message =
      .error "Open.js:3: expected ), found identifier 'b'" := by decide +kernel
  cases failed : parse "Open.js" "(a b \"open" with
  | ok s => rw [failed] at stops; cases stops
  | error e =>
    rw [failed] at stops
    exact ⟨e, rfl, Except.error.inj stops, blames_of_parse failed⟩

end SourceTree

end Shapewire
