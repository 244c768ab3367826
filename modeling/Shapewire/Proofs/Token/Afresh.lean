/-
Reading a token afresh.

A slash, and the brace behind a substitution, may be read again in another way, and then the text at
which the token starts does not tell any more which it is.  Every other token is the one that its
text begins with: put at the start of a source of its own, that text gives the same token again
(`Scanner.Renews`), in whatever way the scanner came upon it.
-/
import Shapewire.Proofs.Token.Displaced
import Shapewire.Proofs.Token.Dispatch
import Shapewire.Proofs.Token.Regex

namespace Shapewire

/-- Whether a token of that kind is read once and for all.  It is no fault, no mark that may be read
again, and nothing that such a mark is read as. -/
def TokenKind.isFirm : TokenKind → Bool
  | .unknown | .slash | .slashAssign | .regexLiteral | .closeBrace | .templateMiddle
  | .templateTail => false
  | _ => true

namespace Token

/-- A comment that is never closed is met again where it starts. -/
theorem skipTrivia_start_of_unclosed {c start stop : Cursor} {lineBreak b : Bool}
    (unclosed : skipTrivia c lineBreak = .unclosed start stop b) (b' : Bool) :
    skipTrivia start b' = .unclosed start stop b' := by
  fun_induction skipTrivia c lineBreak with
  | case1 | case7 => cases unclosed
  | case2 _ _ _ _ _ _ ih | case3 _ _ _ _ _ _ _ ih => exact ih unclosed
  | case4 _ _ _ _ _ _ _ _ ih => exact ih unclosed
  | case5 _ _ _ _ _ _ _ _ _ _ _ _ ih => exact ih unclosed
  | case6 c lineBreak ch cs here noBreak noBlank noLine opened never =>
    cases unclosed
    rw [skipTrivia_eq here, if_neg noBreak, if_neg noBlank, if_neg noLine, if_pos opened, never]

end Token

namespace Scanner

open Token

variable {s : Scanner}

/-- The scanner that has read the first token of the text from where the current one starts. -/
def afresh (s : Scanner) : Scanner := (ofText s.start.rest).scan

/-- The text where the current token starts begins with that very token, or with none that is read
once and for all if the current one is not either. -/
inductive Renews (s : Scanner) : Prop where
  | same (token : s.token = s.afresh.token) (value : s.value = s.afresh.value)
    (rest : s.here.rest = s.afresh.here.rest)
  | loose (now : s.token.isFirm = false) (first : s.afresh.token.isFirm = false)

/-- What no comment can spoil: a comment that is not closed is met again. -/
theorem exists_unclosed_afresh {start stop : Cursor} {lineBreak b : Bool} {c : Cursor}
    (is : skipTrivia c lineBreak = .unclosed start stop b) :
    ∃ start' stop' b', skipTrivia (ofText start.rest).here false = .unclosed start' stop' b' := by
  have again : (skipTrivia start false).Alike (skipTrivia (ofText start.rest).here false) :=
    skipTrivia_alike false rfl
  rw [skipTrivia_start_of_unclosed is] at again
  generalize skipTrivia (ofText start.rest).here false = t at again ⊢
  cases again
  exact ⟨_, _, _, rfl⟩

theorem renews_scan (s : Scanner) : s.scan.Renews := by
  cases is : skipTrivia s.here false with
  | skipped start lineBreak =>
    have read := scan_of_skipped is
    have here : s.scan.start = start := by rw [read, start_accept]
    have plain : startsTrivia start.rest = false := startsTrivia_skipTrivia is
    have first : (ofText start.rest).scan = _ :=
      scan_of_skipped (skipTrivia_of_not_startsTrivia plain)
    have alike : (lexeme start).Alike (lexeme (.ofText start.rest)) := lexeme_alike rfl
    obtain ⟨token, value, rest⟩ := accept_alike alike
    refine .same ?_ ?_ ?_ <;> rw [afresh, here, first, read]
    · exact token
    · exact value
    · exact rest
  | unclosed start stop lineBreak =>
    obtain ⟨start', stop', b', again⟩ := exists_unclosed_afresh is
    have here : s.scan.start = start := by rw [scan, is]
    refine .loose ?_ ?_
    · rw [scan, is]
      rfl
    · rw [afresh, here, scan, again]
      rfl

/-- Reading a token again as one that is no more firm than it was. -/
theorem Renews.reread {s' : Scanner} (h : s.Renews) (start : s'.start = s.start)
    (loose : s.token.isFirm = false) (loose' : s'.token.isFirm = false) : s'.Renews := by
  have first : s'.afresh = s.afresh := by rw [afresh, afresh, start]
  refine .loose loose' ?_
  rw [first]
  cases h with
  | same token => rwa [← token]
  | loose _ first => exact first

theorem Renews.rescanSlash (h : s.Renews) : s.rescanSlash.Renews := by
  cases slash : s.atSlash with
  | false => rwa [rescanSlash_of_not_atSlash slash]
  | true =>
    refine h.reread s.start_rescanSlash ?_ ?_
    · rcases atSlash_iff.mp slash with is | is <;> rw [is] <;> rfl
    · unfold Scanner.rescanSlash
      rw [if_pos slash]
      dsimp only
      split <;> rfl

theorem Renews.rescanTemplate (h : s.Renews) (brace : s.token = .closeBrace) :
    s.rescanTemplate.Renews := by
  refine h.reread (start_accept _ _) (by rw [brace]; rfl) ?_
  cases is : (templateRest .later s.start.offset s.start.next).kind with
  | ok k =>
    rw [Scanner.rescanTemplate, accept_of_ok is]
    rcases kind_templateRest is with rfl | rfl <;> rfl
  | error e =>
    rw [Scanner.rescanTemplate, accept, is]
    rfl

namespace Session

variable {text : List Char} {commands : List Command} {t : Session}

/-- **Wherever a scanner has come to in a source, the current token can be read afresh** if it is
one that is never read again. -/
theorem renews_of_run? (run : (ofText text).run? (.scan :: commands) = some t) :
    t.scanner.Renews :=
  of_run?_scan (fun s _ => s.renews_scan) (fun _ => Renews.rescanSlash)
    (fun _ brace h => h.rescanTemplate brace) (renews_scan _) run

end Session

end Scanner

end Shapewire
