/-
Tokens with single spaces between them.

A token that was read once is read again, with the same kind, text and value, wherever its text
stands with a space or nothing before it and behind it (`word_scan`).  So a source that is read
without a fault can be written with its tokens and single spaces only, and no token of it depends on
what was between it and the next one, nor on what the next one is.
-/
import Shapewire.Proofs.Token.Locality
import Shapewire.Proofs.Token.Run

namespace Shapewire

namespace Token

variable {c : Cursor} {lineBreak : Bool}

theorem skipTrivia_of_not_startsTrivia (none : startsTrivia c.rest = false) :
    skipTrivia c lineBreak = .skipped c lineBreak := by
  cases here : c.rest with
  | nil =>
    rw [skipTrivia]
    split
    · rfl
    · simp_all
  | cons ch cs =>
    rw [here] at none
    simp only [startsTrivia, Bool.or_eq_false_iff, Bool.and_eq_false_iff,
      beq_eq_false_iff_ne] at none
    obtain ⟨⟨noBreak, noBlank⟩, noComment⟩ := none
    rw [skipTrivia_eq here, if_neg (by simp [noBreak]), if_neg (by simp [noBlank]), if_neg, if_neg]
    · rintro ⟨rfl, second⟩
      simp [second] at noComment
    · rintro ⟨rfl, second⟩
      simp [second] at noComment

theorem skipTrivia_space {cs : List Char} (here : c.rest = ' ' :: cs) :
    skipTrivia c lineBreak = skipTrivia c.next lineBreak := by
  rw [skipTrivia_eq here, if_neg (by decide), if_pos (by decide)]

/-- Trivia that would start with a token would start with what the token starts with, whatever comes
behind it. -/
theorem startsTrivia_append {passed behind after : List Char} (nonempty : passed ≠ [])
    (none : startsTrivia (passed ++ behind) = false) (apart : StandsApart after) :
    startsTrivia (passed ++ after) = false := by
  match passed, nonempty with
  | [ch], _ =>
    rcases apart.cases with rfl | ⟨cs, rfl⟩ <;> simp_all [startsTrivia]
  | ch :: second :: passed, _ => exact none

end Token

namespace Scanner

open Token

/-- What a token is, wherever it stands: its kind, its text and its value. -/
def word (s : Scanner) : TokenKind × String × String := (s.token, s.text, s.value)

/-- The text is read to its end without a fault, as the tokens `ts` and the end behind them. -/
def Tokenizes (text : List Char) (ts : List Scanner) : Prop :=
  ∃ last, tokenize text = ts ++ [last] ∧ last.token = .endOfFile ∧ last.error? = none

/-- The texts of tokens with single spaces between them. -/
def spaced (ts : List Scanner) : List Char := [' '].intercalate (ts.map (·.text.toList))

/-! ### One token -/

section one

variable {s s' : Scanner} {l : Lexeme} {k : TokenKind}

theorem accept_of_ok (is : l.kind = .ok k) : s.accept l =
    { s with here := l.stop, token := k, value := String.ofList l.value
             lineBreak := s.lineBreak || l.lineBreak } := by
  rw [accept]
  simp only [is]

/-- A token is the lexeme where it starts. -/
theorem lexeme_of_scan (proper : s.scan.isDone = false) :
    (lexeme s.scan.start).kind = .ok s.scan.token ∧ (lexeme s.scan.start).stop = s.scan.here ∧
      String.ofList (lexeme s.scan.start).value = s.scan.value := by
  revert proper
  unfold scan
  split
  · rename_i start lineBreak skipped
    intro proper
    cases is : (lexeme start).kind with
    | error e => simp [accept, is, isDone] at proper
    | ok k => rw [accept_of_ok is]; exact ⟨is, rfl, rfl⟩
  · intro proper
    cases proper

/-- A space is skipped where it stands before what starts no trivia. -/
theorem skipTrivia_of_lead {c : Cursor} {lead cs : List Char} (space : lead = [] ∨ lead = [' '])
    (here : c.rest = lead ++ cs) (none : startsTrivia cs = false) :
    ∃ start, start.rest = cs ∧ skipTrivia c false = .skipped start false := by
  rcases space with rfl | rfl
  · refine ⟨c, here, skipTrivia_of_not_startsTrivia ?_⟩
    rwa [here]
  · have behind : c.next.rest = cs := Cursor.rest_next here
    refine ⟨c.next, behind, ?_⟩
    rw [skipTrivia_space here]
    exact skipTrivia_of_not_startsTrivia (behind ▸ none)

theorem scan_of_skipped {start : Cursor} {lineBreak : Bool}
    (skipped : skipTrivia s.here false = .skipped start lineBreak) :
    s.scan = accept { s with fullStart := s.here.offset, start, lineBreak } (lexeme start) := by
  rw [scan, skipped]

/-- A token is read again where its text stands behind a space or nothing and in front of a space or
nothing. -/
theorem word_scan {lead after : List Char} (proper : s.scan.isDone = false)
    (space : lead = [] ∨ lead = [' ']) (apart : StandsApart after)
    (here : s'.here.rest = lead ++ (s.scan.text.toList ++ after)) :
    s'.scan.word = s.scan.word ∧ s'.scan.here.rest = after ∧ s'.scan.error? = s'.error? := by
  obtain ⟨is, stop, value⟩ := lexeme_of_scan proper
  have token : s.scan.token ≠ .endOfFile ∧ s.scan.token ≠ .unknown := by
    simpa [isDone] using proper
  obtain ⟨passed, nonempty, split, again⟩ := local_lexeme is token.1
  rw [stop] at split
  have text : s.scan.text = String.ofList passed := by
    rw [Scanner.text, Cursor.upTo_eq split]
  rw [text, String.toList_ofList] at here
  have none : startsTrivia (passed ++ after) = false :=
    startsTrivia_append nonempty (split ▸ startsTrivia_scan token.2) apart
  obtain ⟨start, rest, skipped⟩ := skipTrivia_of_lead space here none
  obtain ⟨stop', behind, read⟩ := again start after rest apart
  have is' : (lexeme start).kind = .ok s.scan.token := by rw [read]; exact is
  rw [scan_of_skipped skipped, accept_of_ok is', read]
  refine ⟨?_, behind, rfl⟩
  have text' : start.upTo stop' = passed := Cursor.upTo_eq (behind ▸ rest)
  rw [word, word, text, ← value]
  show (s.scan.token, String.ofList (start.upTo stop'), _) = _
  rw [text']

/-- Behind the last token there is the end. -/
theorem scan_at_end {lead : List Char} (space : lead = [] ∨ lead = [' '])
    (here : s.here.rest = lead) : s.scan.token = .endOfFile ∧ s.scan.error? = s.error? := by
  rw [← List.append_nil lead] at here
  obtain ⟨start, rest, skipped⟩ := skipTrivia_of_lead space here rfl
  have ended : (lexeme start).kind = .ok .endOfFile := by simp only [lexeme, rest]; rfl
  rw [scan_of_skipped skipped, accept_of_ok ended]
  exact ⟨rfl, rfl⟩

end one

/-! ### Runs -/

/-- Behind the first token there is nothing, or a space and the others. -/
theorem spaced_cons (s : Scanner) (ts : List Scanner) : ∃ lead, (lead = [] ∨ lead = [' ']) ∧
    spaced (s :: ts) = s.text.toList ++ (lead ++ spaced ts) ∧ StandsApart (lead ++ spaced ts) := by
  cases ts with
  | nil => exact ⟨[], .inl rfl, by simp [spaced, List.intercalate], .nil⟩
  | cons t ts =>
    refine ⟨[' '], .inr rfl, by simp [spaced, List.intercalate], ?_⟩
    exact fun ch first => (Option.some.inj first).symm

/-- A run with tokens behind its first one. -/
theorem tokens_eq_cons {s t last : Scanner} {ts : List Scanner}
    (run : tokens s = t :: (ts ++ [last])) :
    s.scan = t ∧ s.scan.isDone = false ∧ tokens s.scan = ts ++ [last] := by
  rw [tokens_eq] at run
  obtain ⟨rfl, rest⟩ := List.cons.inj run
  have proper : s.scan.isDone = false := by
    by_contra done
    rw [if_pos (by simpa using done)] at rest
    simp at rest
  rw [if_neg (by simp [proper])] at rest
  exact ⟨rfl, proper, rest⟩

/-- A run is read again from its tokens with single spaces. -/
theorem tokens_spaced {s s' last : Scanner} {ts : List Scanner} {lead : List Char}
    (run : tokens s = ts ++ [last]) (space : lead = [] ∨ lead = [' '])
    (here : s'.here.rest = lead ++ spaced ts) (sound : s'.error? = none) :
    ∃ ts' last', tokens s' = ts' ++ [last'] ∧ last'.token = .endOfFile ∧ last'.error? = none ∧
      ts'.map word = ts.map word := by
  induction ts generalizing s s' lead with
  | nil =>
    obtain ⟨atEnd, same⟩ := scan_at_end space (by simpa [spaced] using here)
    refine ⟨[], s'.scan, ?_, atEnd, same.trans sound, rfl⟩
    rw [tokens_eq, if_pos (by rw [isDone, atEnd]; rfl)]
    rfl
  | cons t ts ih =>
    obtain ⟨rfl, proper, rest⟩ := tokens_eq_cons run
    obtain ⟨lead', space', text, apart⟩ := spaced_cons s.scan ts
    rw [text] at here
    obtain ⟨same, behind, sound'⟩ := word_scan proper space apart here
    obtain ⟨ts', last', run', ended, none, words⟩ := ih rest space' behind (sound'.trans sound)
    refine ⟨s'.scan :: ts', last', ?_, ended, none, ?_⟩
    · have proper' : s'.scan.isDone = false := by
        rw [isDone, show s'.scan.token = s.scan.token from congrArg Prod.fst same]
        exact proper
      rw [tokens_eq, if_neg (by simp [proper']), run']
      rfl
    · rw [List.map_cons, List.map_cons, same, words]

/-- The tokens before the last of a run are not the end of it. -/
theorem proper_of_mem_tokens {s last t : Scanner} {ts : List Scanner}
    (run : tokens s = ts ++ [last]) (mem : t ∈ ts) :
    ∃ s' : Scanner, t = s'.scan ∧ s'.scan.isDone = false := by
  induction ts generalizing s with
  | nil => cases mem
  | cons u ts ih =>
    obtain ⟨rfl, proper, rest⟩ := tokens_eq_cons run
    rcases List.mem_cons.mp mem with rfl | mem
    · exact ⟨s, rfl, proper⟩
    · exact ih rest mem

/-- **What a token is depends on its own text only**: a source that is read without a fault is read
as the same tokens when they stand with single spaces between them, and each of them when it stands
alone. -/
theorem tokenizes_spaced {text : List Char} {ts : List Scanner} (read : Tokenizes text ts) :
    (∃ ts', Tokenizes (spaced ts) ts' ∧ ts'.map word = ts.map word) ∧
      ∀ s ∈ ts, (ofText s.text.toList).scan.word = s.word := by
  obtain ⟨last, run, -⟩ := read
  constructor
  · have here : (ofText (spaced ts)).here.rest = [] ++ spaced ts := rfl
    obtain ⟨ts', last', run', ended', none, words⟩ := tokens_spaced run (.inl rfl) here rfl
    exact ⟨ts', ⟨last', run', ended', none⟩, words⟩
  · intro t mem
    obtain ⟨s, rfl, proper⟩ := proper_of_mem_tokens run mem
    have here : (ofText s.scan.text.toList).here.rest = [] ++ (s.scan.text.toList ++ []) := by
      rw [List.append_nil]
      rfl
    exact (word_scan proper (.inl rfl) .nil here).1

/-- Tokens that touch, where a mark is shorter or longer for what comes next. -/
theorem tokenizes_spaced_touching : ∃ ts, Tokenizes "a?.5:b=>1.e2n/*c*/+'\\0'".toList ts ∧
    (∃ ts', Tokenizes (spaced ts) ts' ∧ ts'.map word = ts.map word) ∧
      ∀ s ∈ ts, (ofText s.text.toList).scan.word = s.word := by
  have read : Tokenizes "a?.5:b=>1.e2n/*c*/+'\\0'".toList
      (tokenize "a?.5:b=>1.e2n/*c*/+'\\0'".toList).dropLast :=
    ⟨(tokenize "a?.5:b=>1.e2n/*c*/+'\\0'".toList).getLastD default, by decide +kernel,
      by decide +kernel, by decide +kernel⟩
  exact ⟨_, read, tokenizes_spaced read⟩

example : spaced (tokenize "a?.5:b=>1.e2n/*c*/+'\\0'".toList).dropLast
    = "a ? .5 : b => 1.e2n + '\\0'".toList := by decide +kernel

end Scanner

end Shapewire
