/-
What the parsers of the grammar answer when they look ahead.

Each of the questions that a parser asks about what lies ahead is answered, whatever the state, and
leaves the state as it was (`Question.parser_eq`).  The answer can be read off the scanner
(`Question.holds`): the current token has to be one that gives rise to the question, and then the
next token tells, or for arrow functions the one behind the brackets.  So scanners that stand at the
same token and go on with the same tokens lead to the same answers (`Question.holds_congr`).
-/
import Mathlib.Tactic.SplitIfs
import Shapewire.Grammar.Desk
import Shapewire.Proofs.Grammar.Gives

namespace Shapewire

/-! ### Answers -/

namespace Scanner

/-- Whether an arrow comes next, on the same line. -/
def arrowIsNext (s : Scanner) : Bool := s.scan.token == .arrow && !s.scan.lineBreak

/-- Whether an arrow follows the name or the parenthesis `first` at which the scanner stands. -/
def headsArrow (first : TokenKind) (s : Scanner) : Bool :=
  if first == .openParen then (s.afterBrackets? 1).any arrowIsNext else s.arrowIsNext

end Scanner

namespace Question

/-- What a look from the scanner's token tells if the current token is of kind `k`. -/
def sees (q : Question) (k : TokenKind) (s : Scanner) : Bool :=
  match q with
  | .asyncFunction => s.scan.token == .functionKeyword && !s.scan.lineBreak
  | .label => s.scan.token == .colon
  | .asyncArrow => !s.scan.lineBreak &&
    ((s.scan.token == .identifier || s.scan.token == .openParen) && s.scan.headsArrow s.scan.token)
  | .arrow => s.headsArrow k
  | .asyncMember => !s.scan.lineBreak &&
    (Parser.startsMemberName s.scan.token || s.scan.token == .star)
  | .accessor => Parser.startsMemberName s.scan.token

/-- Whether the current token gives rise to the question and a look then tells that it is so. -/
def poses (q : Question) (k : TokenKind) (s : Scanner) : Bool := q.arises k s.value && q.sees k s

/-- The answer to the question, by the kind of the current token and the scanner. -/
def holds (q : Question) (k : TokenKind) (s : Scanner) : Bool :=
  match q with
  | .arrow => poses .asyncArrow k s || poses .arrow k s
  | q => q.poses k s

end Question

/-! ### In the grammar -/

namespace Parser

variable {σ : Type} {s : ParserState σ} {p : ParserM σ Bool} {a : Bool}

/-- The parser gives `a` and moves the scanner only. -/
def Sees (p : ParserM σ Bool) (s : ParserState σ) (a : Bool) : Prop :=
  ∃ t : Scanner, p s = .ok a { s with scanner := t }

theorem sees_next (f : TokenKind → Bool → Bool) (s : ParserState σ) :
    Sees (do return f (← peekNext) (← lineBreak)) s
      (f s.scanner.scan.token s.scanner.scan.lineBreak) := ⟨s.scanner.scan, rfl⟩

theorem sees_arrowFollows (first : TokenKind) (s : ParserState σ) :
    Sees (arrowFollows first) s (s.scanner.headsArrow first) := by
  unfold Scanner.headsArrow
  cases paren : first == .openParen with
  | false =>
    refine ⟨s.scanner.scan, ?_⟩
    simp only [arrowFollows, paren]
    rfl
  | true =>
    have current : (get : ParserM σ (ParserState σ)) s = .ok s s := rfl
    cases found : s.scanner.afterBrackets? 1 with
    | none =>
      refine ⟨s.scanner, ?_⟩
      simp only [arrowFollows, paren, if_true, bind, EStateM.bind, current, found]
      rfl
    | some close =>
      refine ⟨close.scan, ?_⟩
      simp only [arrowFollows, paren, if_true, bind, EStateM.bind, current, found]
      rfl

/-- A look ahead gives the state back. -/
theorem lookAhead_of_sees (b : Bool) (sees : Sees p s a) :
    (if b then lookAhead p else pure false : ParserM σ Bool) s = .ok (b && a) s := by
  obtain ⟨t, moved⟩ := sees
  cases b with
  | false => rfl
  | true => exact bind_eq_ok.mpr ⟨s, s, rfl, bind_eq_ok.mpr ⟨a, _, moved, rfl⟩⟩

theorem sees_asyncArrow (s : ParserState σ) : Sees (do
      let next ← peekNext
      if ← lineBreak then return false
      else if next == .identifier || next == .openParen then arrowFollows next
      else return false) s (Question.sees .asyncArrow s.scanner.token s.scanner) := by
  show Sees (fun s => (if s.scanner.scan.lineBreak then pure false
    else if s.scanner.scan.token == .identifier || s.scanner.scan.token == .openParen then
      arrowFollows s.scanner.scan.token
    else pure false : ParserM σ Bool) { s with scanner := s.scanner.scan }) s _
  unfold Sees Question.sees
  dsimp only
  split_ifs with broken heads
  · exact ⟨s.scanner.scan, by rw [broken]; rfl⟩
  · rw [Bool.not_eq_true] at broken
    rw [broken, heads]
    exact sees_arrowFollows s.scanner.scan.token { s with scanner := s.scanner.scan }
  · rw [Bool.not_eq_true] at heads
    rw [heads, Bool.false_and, Bool.and_false]
    exact ⟨s.scanner.scan, rfl⟩

end Parser

namespace Question

/-- **The parsers of the grammar answer as at the desk**, and leave their state as it was. -/
theorem parser_eq {σ : Type} (q : Question) (s : ParserState σ) :
    q.parser s = .ok (q.holds s.scanner.token s.scanner) s := by
  have asyncArrow : Parser.startsAsyncArrow s =
      .ok (poses .asyncArrow s.scanner.token s.scanner) s :=
    Parser.lookAhead_of_sees (arises .asyncArrow s.scanner.token s.scanner.value)
      (Parser.sees_asyncArrow s)
  cases q with
  | asyncFunction =>
    exact Parser.lookAhead_of_sees (arises .asyncFunction s.scanner.token s.scanner.value)
      (Parser.sees_next (fun next b => next == .functionKeyword && !b) s)
  | label =>
    exact Parser.lookAhead_of_sees (arises .label s.scanner.token s.scanner.value)
      ⟨s.scanner.scan, rfl⟩
  | asyncArrow => exact asyncArrow
  | arrow =>
    have alone := Parser.lookAhead_of_sees (arises .arrow s.scanner.token s.scanner.value)
      (Parser.sees_arrowFollows s.scanner.token s)
    unfold holds
    refine Parser.bind_eq_ok.mpr ⟨_, s, asyncArrow, ?_⟩
    split_ifs with prefixed
    · rw [prefixed]
      rfl
    · rw [Bool.not_eq_true] at prefixed
      rw [prefixed]
      exact alone
  | asyncMember =>
    exact Parser.lookAhead_of_sees (arises .asyncMember s.scanner.token s.scanner.value)
      (Parser.sees_next (fun next b => !b && (Parser.startsMemberName next || next == .star)) s)
  | accessor =>
    have word : (s.scanner.token == .identifier && s.scanner.value == "get"
        || s.scanner.token == .identifier && s.scanner.value == "set")
          = arises .accessor s.scanner.token s.scanner.value :=
      (Bool.and_or_distrib_left ..).symm
    refine (Parser.lookAhead_of_sees _ ⟨s.scanner.scan, rfl⟩ : Parser.startsAccessor s =
      .ok (_ && Parser.startsMemberName s.scanner.scan.token) s).trans ?_
    rw [word]
    rfl

end Question

/-! ### The same answers -/

section congr

variable {r : Scanner → Scanner → Prop} {s s' : Scanner}
  (token : ∀ {s s' : Scanner}, r s s' → s.token = s'.token)
  (lineBreak : ∀ {s s' : Scanner}, r s s' → s.scan.lineBreak = s'.scan.lineBreak)
  (scan : ∀ {s s' : Scanner}, r s s' → r s.scan s'.scan)

namespace Scanner

include token scan

/-- Brackets close at the same token for scanners that stay in a relation with the same tokens. -/
theorem rel_afterBrackets? {depth : Nat} (h : r s s') :
    Option.Rel r (afterBrackets? depth s) (afterBrackets? depth s') := by
  have done {s s' : Scanner} (h : r s s') : s.scan.isDone = s'.scan.isDone := by
    rw [isDone, isDone, token (scan h)]
  fun_induction afterBrackets? depth s generalizing s' with
  | case1 s =>
    rw [afterBrackets?.eq_def _ s', if_pos rfl]
    exact .some h
  | case2 depth s nested ended =>
    rw [afterBrackets?.eq_def _ s', if_neg nested, dif_pos (done h ▸ ended)]
    exact .none
  | case3 depth s nested more opens ih =>
    rw [afterBrackets?.eq_def _ s', if_neg nested, dif_neg (done h ▸ more), ← token (scan h),
      if_pos opens]
    exact ih (scan h)
  | case4 depth s nested more other closes ih =>
    rw [afterBrackets?.eq_def _ s', if_neg nested, dif_neg (done h ▸ more), ← token (scan h),
      if_neg other, if_pos closes]
    exact ih (scan h)
  | case5 depth s nested more other other' ih =>
    rw [afterBrackets?.eq_def _ s', if_neg nested, dif_neg (done h ▸ more), ← token (scan h),
      if_neg other, if_neg other']
    exact ih (scan h)

include lineBreak

theorem arrowIsNext_congr (h : r s s') : s.arrowIsNext = s'.arrowIsNext := by
  rw [arrowIsNext, arrowIsNext, token (scan h), lineBreak h]

theorem headsArrow_congr (first : TokenKind) (h : r s s') :
    s.headsArrow first = s'.headsArrow first := by
  have closes : Option.Rel r (s.afterBrackets? 1) (s'.afterBrackets? 1) :=
    rel_afterBrackets? token scan h
  unfold headsArrow
  split_ifs
  · generalize s.afterBrackets? 1 = x, s'.afterBrackets? 1 = x' at closes
    cases closes with
    | some there => exact arrowIsNext_congr token lineBreak scan there
    | none => rfl
  · exact arrowIsNext_congr token lineBreak scan h

end Scanner

namespace Question

include token lineBreak scan

theorem sees_congr (q : Question) (k : TokenKind) (h : r s s') : q.sees k s = q.sees k s' := by
  have next := token (scan h)
  have broken := lineBreak h
  cases q with
  | arrow => exact Scanner.headsArrow_congr token lineBreak scan k h
  | asyncArrow =>
    unfold sees
    rw [next, broken, Scanner.headsArrow_congr token lineBreak scan _ (scan h)]
  | asyncFunction | label | asyncMember | accessor => simp only [sees, next, broken]

/-- **Where the same tokens follow on a token of the same kind and value, the answers are the
same.** -/
theorem holds_congr (q : Question) (h : r s s') (value : s.value = s'.value) :
    q.holds s.token s = q.holds s'.token s' := by
  have posed (q : Question) : q.poses s.token s = q.poses s'.token s' := by
    unfold poses
    rw [value, sees_congr token lineBreak scan q _ h, token h]
  cases q with
  | arrow =>
    show (poses .asyncArrow s.token s || poses .arrow s.token s) = _
    rw [posed, posed]
    rfl
  | asyncFunction | label | asyncArrow | asyncMember | accessor => exact posed _

end Question

end congr

namespace Question

/-- A question has a positive answer only where the current token gives rise to it. -/
theorem arises_of_holds (q : Question) {k : TokenKind} {s : Scanner} (yes : q.holds k s = true) :
    q.arises k s.value = true := by
  cases q with
  | arrow =>
    rcases Bool.or_eq_true_iff.mp yes with prefixed | alone
    · have word : (k == .identifier && s.value == "async") = true :=
        (Bool.and_eq_true_iff.mp prefixed).1
      exact Bool.or_eq_true_iff.mpr (.inl (Bool.and_eq_true_iff.mp word).1)
    · exact (Bool.and_eq_true_iff.mp alone).1
  | asyncFunction | label | asyncArrow | asyncMember | accessor =>
    exact (Bool.and_eq_true_iff.mp yes).1

/-- Where the current token does not give rise to a question the answer is no. -/
theorem holds_of_not_arises (q : Question) {k : TokenKind} {s : Scanner}
    (no : q.arises k s.value = false) : q.holds k s = false := by
  refine Bool.eq_false_iff.mpr fun yes => ?_
  cases no.symm.trans (q.arises_of_holds yes)

end Question

end Shapewire
