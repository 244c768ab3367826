/-
Scanners that read the same tokens.

What a grammar sees of a token is its kind, its value and whether a line ended before it
(`Scanner.reading`); where the token stands it does not see.  Two scanners are `Alike` if they stand
at the same reading and all further readings are the same, however far they go on.  A slash and the
head of a template are kept out: with them the grammar may have a token read again from the text.

Sources whose tokens have the same readings start alike (`alike_of_tokens`), since behind its end a
source goes on ending.
-/
import Shapewire.Proofs.Token.Run

namespace Shapewire

/-- Whether the kind is that of a token without a fault which the grammar never reads again. -/
def TokenKind.isPlain : TokenKind → Bool
  | .unknown | .slash | .slashAssign | .templateHead => false
  | _ => true

namespace Scanner

open Token

/-- What a grammar sees of a token. -/
structure Reading where
  token : TokenKind
  /-- The cooked value. -/
  value : String
  /-- Whether a line ended before the token. -/
  lineBreak : Bool
deriving DecidableEq, Repr

/-- What a grammar sees of the current token. -/
def reading (s : Scanner) : Reading := ⟨s.token, s.value, s.lineBreak⟩

/-- The readings from here on are the same, and none is one of a token that may be read again. -/
def Alike (s s' : Scanner) : Prop :=
  ∀ n, (scan^[n] s).reading = (scan^[n] s').reading ∧ (scan^[n] s).token.isPlain = true

variable {s s' : Scanner}

namespace Alike

theorem reading (h : s.Alike s') : s.reading = s'.reading := (h 0).1

theorem isPlain (h : s.Alike s') : s.token.isPlain = true := (h 0).2

theorem token (h : s.Alike s') : s.token = s'.token := congrArg Reading.token h.reading

theorem value (h : s.Alike s') : s.value = s'.value := congrArg Reading.value h.reading

theorem lineBreak (h : s.Alike s') : s.lineBreak = s'.lineBreak :=
  congrArg Reading.lineBreak h.reading

theorem scan (h : s.Alike s') : s.scan.Alike s'.scan := fun n => h (n + 1)

/-- Scanners at the same reading are alike if they are after it. -/
theorem of_scan (same : s.reading = s'.reading) (plain : s.token.isPlain = true)
    (after : s.scan.Alike s'.scan) : s.Alike s' := by
  intro n
  cases n with
  | zero => exact ⟨same, plain⟩
  | succ n => exact after n

end Alike

/-! ### Behind the end -/

/-- What is read at the end of a source. -/
def Reading.ended : Reading := ⟨.endOfFile, "", false⟩

/-- At the end of a source its end is read, and the scanner stays there. -/
theorem scan_of_rest_nil (ended : s.here.rest = []) :
    s.scan.reading = .ended ∧ s.scan.here.rest = [] := by
  have trivia : skipTrivia s.here false = .skipped s.here false := by
    rw [skipTrivia]
    split
    · rfl
    · simp_all
  have last : lexeme s.here = { kind := .ok .endOfFile, value := [], stop := s.here } := by
    unfold lexeme
    split
    · rfl
    · simp_all
  have read : s.scan = { s with fullStart := s.here.offset, start := s.here, token := .endOfFile
                                value := "", lineBreak := false } := by
    simp only [scan, trivia, accept, last]
    rfl
  rw [read]
  exact ⟨rfl, ended⟩

theorem reading_iterate_scan_of_rest_nil (ended : s.here.rest = []) (n : Nat) :
    (scan^[n + 1] s).reading = .ended := by
  induction n generalizing s with
  | zero => exact (scan_of_rest_nil ended).1
  | succ n ih => exact ih (scan_of_rest_nil ended).2

/-- Scanners that have read the end of their source are alike. -/
theorem alike_of_endOfFile (same : s.scan.reading = s'.scan.reading)
    (ended : s.scan.token = .endOfFile) : s.scan.Alike s'.scan := by
  have ended' : s'.scan.token = .endOfFile := (congrArg Reading.token same).symm.trans ended
  intro n
  cases n with
  | zero => exact ⟨same, by rw [Function.iterate_zero_apply, ended]; rfl⟩
  | succ n =>
    have read := reading_iterate_scan_of_rest_nil (rest_of_scan_endOfFile ended) n
    have read' := reading_iterate_scan_of_rest_nil (rest_of_scan_endOfFile ended') n
    exact ⟨read.trans read'.symm, congrArg (fun r => r.token.isPlain) read⟩

/-- **Sources whose tokens have the same readings are read alike.** -/
theorem alike_of_tokens (same : (tokens s).map reading = (tokens s').map reading)
    (plain : ∀ t ∈ tokens s, t.token.isPlain = true) : s.scan.Alike s'.scan := by
  fun_induction tokens s generalizing s' with
  | case1 s done =>
    have first : s.scan.token.isPlain = true := plain _ (List.mem_singleton_self _)
    rw [tokens_eq s', List.map_cons, List.map_cons] at same
    refine alike_of_endOfFile (List.cons.inj same).1 ?_
    rcases Bool.or_eq_true_iff.mp done with ended | fault
    · exact beq_iff_eq.mp ended
    · rw [beq_iff_eq.mp fault] at first
      cases first
  | case2 s more ih =>
    obtain ⟨first, behind⟩ := List.forall_mem_cons.mp plain
    rw [tokens_eq s', List.map_cons, List.map_cons] at same
    obtain ⟨now, later⟩ := List.cons.inj same
    have more' : ¬s'.scan.isDone = true := by
      rw [isDone, ← show s.scan.token = s'.scan.token from congrArg Reading.token now]
      exact more
    rw [if_neg more'] at later
    exact .of_scan now first (ih later behind)

end Scanner

end Shapewire
