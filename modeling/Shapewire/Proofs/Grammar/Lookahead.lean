/-
Asking about what lies ahead.

A question sends the scanner on, perhaps far: an arrow function may have a whole list of parameters
before its arrow, and a fault or the end of the source may come first.  On the desk that moves the
scanner and nothing else (`Desk.Sees`), and the snapshot leads back to the very scanner it was taken
of, so that the desk is left as it was found (`Question.ask_eq`).  The answer is that of the parsers
of the grammar.

It goes by the kind and the value of the current token and by the text behind it, and a token that
gives rise to a question is one that is never read again.  Hence it is the answer that would be
given at the start of a source that begins with the current token (`Question.answer`).
-/
import Shapewire.Proofs.Grammar.Question
import Shapewire.Proofs.Token.Afresh

namespace Shapewire

/-! ### At the desk -/

namespace Desk

variable {d : Desk} {a b : Bool}

/-- The look tells `a` and moves the scanner only. -/
def Sees (look : StateM Desk Bool) (d : Desk) (a : Bool) : Prop :=
  ∃ s : Scanner, look d = (a, { d with scanner := s })

/-- Following brackets moves the scanner to where they close, if they do. -/
theorem closeBrackets_eq (depth : Nat) (d : Desk) : ∃ s : Scanner,
    closeBrackets depth d = ((d.scanner.afterBrackets? depth).isSome, { d with scanner := s }) ∧
      ∀ close, d.scanner.afterBrackets? depth = some close → s = close := by
  fun_induction closeBrackets depth d with
  | case1 d =>
    rw [Scanner.afterBrackets?, if_pos rfl]
    exact ⟨d.scanner, rfl, fun close is => Option.some.inj is⟩
  | case2 depth d nested done =>
    rw [Scanner.afterBrackets?, if_neg nested, dif_pos done]
    refine ⟨d.scanner.scan, rfl, ?_⟩
    intro close is
    cases is
  | case3 depth d nested more opens ih =>
    rw [Scanner.afterBrackets?, if_neg nested, dif_neg more, if_pos opens]
    exact ih
  | case4 depth d nested more other closes ih =>
    rw [Scanner.afterBrackets?, if_neg nested, dif_neg more, if_neg other, if_pos closes]
    exact ih
  | case5 depth d nested more other other' ih =>
    rw [Scanner.afterBrackets?, if_neg nested, dif_neg more, if_neg other, if_neg other']
    exact ih

/-- Which token comes next, and whether it is on the same line, a scan tells. -/
theorem sees_next (f : TokenKind → Bool → Bool) (d : Desk) :
    Sees (do return f (← scan) (← lineBreak)) d
      (f d.scanner.scan.token d.scanner.scan.lineBreak) := ⟨d.scanner.scan, rfl⟩

theorem sees_arrowFollows (first : TokenKind) (d : Desk) :
    Sees (arrowFollows first) d (d.scanner.headsArrow first) := by
  unfold Scanner.headsArrow
  cases paren : first == .openParen with
  | false =>
    refine ⟨d.scanner.scan, ?_⟩
    simp only [arrowFollows, paren]
    rfl
  | true =>
    obtain ⟨s, closed, there⟩ := closeBrackets_eq 1 d
    cases found : d.scanner.afterBrackets? 1 with
    | none =>
      rw [found] at closed
      refine ⟨s, ?_⟩
      simp only [arrowFollows, paren, if_true, bind, StateT.bind, closed]
      rfl
    | some close =>
      obtain rfl := there close found
      rw [found] at closed
      refine ⟨s.scan, ?_⟩
      simp only [arrowFollows, paren, if_true, bind, StateT.bind, closed]
      rfl

theorem sees_look (q : Question) (d : Desk) : Sees q.look d (q.sees d.current d.scanner) := by
  cases q with
  | asyncFunction => exact sees_next (fun next b => next == .functionKeyword && !b) d
  | label => exact ⟨d.scanner.scan, rfl⟩
  | asyncArrow =>
    have run : Question.look .asyncArrow d = (if d.scanner.scan.lineBreak then pure false
        else if d.scanner.scan.token == .identifier || d.scanner.scan.token == .openParen then
          arrowFollows d.scanner.scan.token
        else pure false : StateM Desk Bool) d.further := rfl
    unfold Sees Question.sees
    rw [run]
    split_ifs with broken heads
    · exact ⟨d.scanner.scan, by rw [broken]; rfl⟩
    · rw [Bool.not_eq_true] at broken
      rw [broken, heads]
      exact sees_arrowFollows d.scanner.scan.token d.further
    · rw [Bool.not_eq_true] at heads
      rw [heads, Bool.false_and, Bool.and_false]
      exact ⟨d.scanner.scan, rfl⟩
  | arrow => exact sees_arrowFollows d.current d
  | asyncMember =>
    exact sees_next (fun next b => !b && (Parser.startsMemberName next || next == .star)) d
  | accessor => exact ⟨d.scanner.scan, rfl⟩

/-- **A look ahead leaves the desk as it was found**, wherever it got. -/
theorem lookAhead_eq {look : StateM Desk Bool} (standing : d.scanner.Standing d.text)
    (sees : Sees look d a) : lookAhead look d = (a, d) := by
  obtain ⟨s, moved⟩ := sees
  have back : d.scanner.snapshot.restore? d.text = some d.scanner := standing.restore?_snapshot
  have run : lookAhead look d = ((look d).1, { (look d).2 with
      scanner := (d.scanner.snapshot.restore? (look d).2.text).getD (look d).2.scanner
      current := d.current
      prevEnd := d.prevEnd }) := rfl
  rw [run, moved]
  show (a, { d with scanner := (d.scanner.snapshot.restore? d.text).getD s }) = (a, d)
  rw [back]
  rfl

end Desk

namespace Question

variable {d : Desk}

theorem pose_eq (q : Question) (standing : d.scanner.Standing d.text) :
    q.pose d = (q.poses d.current d.scanner, d) := by
  unfold pose poses
  show (if q.arises d.current d.scanner.value then Desk.lookAhead q.look else pure false :
    StateM Desk Bool) d = _
  split_ifs with arises
  · rw [arises, Bool.true_and]
    exact Desk.lookAhead_eq standing (Desk.sees_look q d)
  · rw [Bool.not_eq_true] at arises
    rw [arises]
    rfl

/-- **Asking a question leaves the desk as it was found**, and the answer is told by the kind of the
current token and by the scanner. -/
theorem ask_eq (q : Question) (standing : d.scanner.Standing d.text) :
    q.ask d = (q.holds d.current d.scanner, d) := by
  cases q with
  | arrow =>
    unfold ask holds
    show (let (b, d') := pose .asyncArrow d
      (if b then pure true else pose .arrow : StateM Desk Bool) d') = _
    rw [pose_eq .asyncArrow standing]
    dsimp only
    split_ifs with prefixed
    · rw [prefixed]
      rfl
    · rw [Bool.not_eq_true] at prefixed
      rw [prefixed]
      exact pose_eq .arrow standing
  | asyncFunction | label | asyncArrow | asyncMember | accessor => exact pose_eq _ standing

end Question

/-! ### What an answer goes by -/

namespace Question

/-- The answer at the start of a source. -/
def answer (q : Question) (text : List Char) : Bool :=
  let first := (Scanner.ofText text).scan
  q.holds first.token first

variable {s : Scanner}

/-- No token that may be read again gives rise to a question. -/
theorem arises_of_not_isFirm (q : Question) {k : TokenKind} (loose : k.isFirm = false)
    (value : String) : q.arises k value = false := by
  have noName : (k == .identifier) = false := by
    cases k <;> first | rfl | cases loose
  have noParen : (k == .openParen) = false := by
    cases k <;> first | rfl | cases loose
  cases q <;> simp only [arises, noName, noParen, Bool.false_and, Bool.or_false]

theorem holds_of_not_isFirm (q : Question) (loose : s.token.isFirm = false) :
    q.holds s.token s = false := q.holds_of_not_arises (q.arises_of_not_isFirm loose s.value)

/-- **The answer goes by the text from the current token on**, and by nothing else. -/
theorem holds_eq_answer (q : Question) (renews : s.Renews) :
    q.holds s.token s = q.answer s.start.rest := by
  show _ = q.holds s.afresh.token s.afresh
  cases renews with
  | same token value rest =>
    have scan {s s' : Scanner} (h : s.token = s'.token ∧ s.here.rest = s'.here.rest) :
        s.scan.InStep s'.scan := Scanner.inStep_scan h.2
    exact holds_congr And.left (fun h => (scan h).lineBreak)
      (fun h => ⟨(scan h).token, (scan h).rest⟩) q ⟨token, rest⟩ value
  | loose now first => rw [q.holds_of_not_isFirm now, q.holds_of_not_isFirm first]

end Question

/-- A parser can come to be in this state.  It has read the first token of its source, perhaps more,
and goes by the one that the scanner has come to. -/
structure Desk.Reached (d : Desk) : Prop where
  /-- The scanner was told to read tokens, to read marks again and to come back, in any order. -/
  scanned : ∃ commands t,
    (Scanner.Session.ofText d.text).run? (.scan :: commands) = some t ∧ t.scanner = d.scanner
  current : d.current = d.scanner.token

namespace Question

variable {d : Desk}

/-- **Every question leaves all that a parser holds as it was found, and the answer depends on the
text from the current token on alone.** -/
theorem ask_of_reached (q : Question) (reached : d.Reached) :
    q.ask d = (q.answer d.scanner.start.rest, d) ∧
      q.parser d.state = .ok (q.answer d.scanner.start.rest) d.state := by
  obtain ⟨⟨commands, t, run, there⟩, current⟩ := reached
  obtain ⟨intact, text, -⟩ := (Scanner.Session.intact_ofText d.text).run? run
  have standing : d.scanner.Standing d.text := by
    rw [← there, ← show t.text = d.text from text]
    exact intact.scanner
  have renews : d.scanner.Renews := there ▸ Scanner.Session.renews_of_run? run
  have told := holds_eq_answer q renews
  refine ⟨?_, ?_⟩
  · rw [ask_eq q standing, current, told]
  · rw [parser_eq, ← told]
    rfl

/-- Behind `async` the parameters are followed into a bracket, and there into a string that does not
end. -/
theorem ask_of_reached_unterminated : ∃ d : Desk, d.Reached ∧ d.depth = 2 ∧
    d.scanner.start.rest = "async (a, [b, 'c\n) => a".toList ∧ d.scanner.error? = none ∧
    ask .asyncArrow d = (false, d) ∧ Parser.startsAsyncArrow d.state = .ok false d.state := by
  have reached : Desk.Reached
      { Desk.opened "repo.js" "async (a, [b, 'c\n) => a".toList with depth := 2 } :=
    ⟨⟨[], _, rfl, rfl⟩, rfl⟩
  have rest : (Desk.opened "repo.js" "async (a, [b, 'c\n) => a".toList).scanner.start.rest
      = "async (a, [b, 'c\n) => a".toList := by decide +kernel
  have no : answer .asyncArrow "async (a, [b, 'c\n) => a".toList = false := by decide +kernel
  obtain ⟨asked, parsed⟩ := ask_of_reached .asyncArrow reached
  rw [rest, no] at asked parsed
  exact ⟨_, reached, rfl, rest, by decide +kernel, asked, parsed⟩

/-- The text decides, and a line break before the parameters is part of it. -/
example : answer .arrow "async (a, {b}) => b".toList = true ∧
    answer .asyncArrow "async\n(a, {b}) => b".toList = false := by
  decide +kernel

end Question

end Shapewire
