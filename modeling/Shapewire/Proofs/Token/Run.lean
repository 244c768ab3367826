/-
Reading a text token by token loses nothing.

`Divides` says how a text falls apart at one of its tokens: what comes before, what lies between
the tokens, the token itself and what is left.  Every token of a run divides the text in this way
(`divides_scan`), and where one token ends the next one's trivia start.  So the tokens of a run
follow one another without a gap, and those of a run that ends with the source are the source.

A run ends because a token takes at least one byte: there are no more tokens than bytes, and one
more for the end.
-/
import Mathlib.Data.List.Chain
import Mathlib.Logic.Function.Iterate
import Shapewire.Proofs.Token.Lexeme
import Shapewire.Proofs.Token.Trivia

namespace Shapewire

namespace Text

/-- A character takes up one byte at least. -/
theorem length_le_byteLength (cs : List Char) : cs.length ≤ byteLength cs := by
  induction cs with
  | nil => simp
  | cons ch cs ih =>
    have := ch.utf8Size_pos
    rw [List.length_cons, byteLength_cons]
    omega

end Text

namespace Scanner

open Token

/-- How a text divides at a token: into what comes before the trivia of the token, the trivia, the
token and what comes after. -/
structure Divides (s : Scanner) (text before trivia token after : List Char) : Prop where
  whole : text = before ++ trivia ++ token ++ after
  fullStart : s.fullStart = Text.byteLength before
  pos : s.tokenPos = Text.byteLength (before ++ trivia)
  stop : s.tokenEnd = Text.byteLength (before ++ trivia ++ token)
  /-- Between two tokens there are blanks, line breaks and comments only. -/
  between : IsTrivia (token ++ after) trivia
  /-- A token does not start with any of these. -/
  apart : s.token ≠ .unknown → startsTrivia (token ++ after) = false
  /-- A token is not empty. -/
  takes : s.token.isProper = true → token ≠ []

/-- The tokens read from a text, each a state of the scanner, lose nothing of it. -/
structure Lossless (text : List Char) (ts : List Scanner) : Prop where
  /-- They are what reading again and again gives. -/
  read : ∀ i s, ts[i]? = some s → s = scan^[i + 1] (ofText text)
  /-- Reading stops at the end of the source or a fault, and nowhere before. -/
  stops : ∀ i s, ts[i]? = some s → (s.isDone = true ↔ i + 1 = ts.length)
  /-- There is a token, and there are no more than bytes but for the last. -/
  turns : 0 < ts.length ∧ ts.length ≤ Text.byteLength text + 1
  /-- The trivia of the first token start with the text. -/
  first : ∀ s ∈ ts.head?, s.fullStart = 0
  /-- The trivia of a token start where the token before ends. -/
  joined : ts.IsChain fun s t => t.fullStart = s.tokenEnd
  ordered : ∀ s ∈ ts, s.fullStart ≤ s.tokenPos ∧ s.tokenPos ≤ s.tokenEnd ∧
    (s.token.isProper = true → s.tokenPos < s.tokenEnd)
  divides : ∀ s ∈ ts, ∃ before trivia token after, s.Divides text before trivia token after
  /-- Where the source ends without a fault, the tokens with their trivia are the source. -/
  whole : (∀ s ∈ ts.getLast?, s.token = .endOfFile) →
    (ts.mapM fun s => Span.slice ⟨s.fullStart, s.tokenEnd⟩ text).map List.flatten = some text

/-! ### One token -/

section one

variable {text : List Char} {s : Scanner}

@[simp] theorem fullStart_accept (s : Scanner) (l : Lexeme) :
    (s.accept l).fullStart = s.fullStart := by
  unfold accept
  dsimp only
  split <;> rfl

theorem fullStart_scan (s : Scanner) : s.scan.fullStart = s.here.offset := by
  unfold scan
  split
  · rw [fullStart_accept]
  · rfl

theorem start_scan (s : Scanner) : s.scan.start = (skipTrivia s.here false).start := by
  unfold scan
  split
  · rename_i skipped
    rw [start_accept, skipped]
    rfl
  · rename_i unclosed
    rw [unclosed]
    rfl

/-- A fault is the one thing that may start with what trivia start with. -/
theorem startsTrivia_scan (found : s.scan.token ≠ .unknown) :
    startsTrivia s.scan.start.rest = false := by
  revert found
  rw [start_scan]
  unfold scan
  split
  · rename_i start lineBreak skipped
    intro _
    rw [skipped]
    exact startsTrivia_skipTrivia skipped
  · intro found
    exact absurd rfl found

theorem divides_scan (h : (Cursor.ofText text).Reaches s.here) :
    ∃ before trivia token after, s.scan.Divides text before trivia token after := by
  obtain ⟨forward, forward'⟩ := s.reaches_start_scan
  obtain ⟨before, rest, offset⟩ := h
  obtain ⟨trivia, rest', offset'⟩ := forward
  obtain ⟨token, rest'', offset''⟩ := forward'
  have start : s.here.offset = Text.byteLength before := by rw [offset]; exact Nat.zero_add _
  have here : text = before ++ s.here.rest := rest
  have passed : IsTrivia s.scan.start.rest trivia := by
    obtain ⟨trivia', same, skipped⟩ := exists_trivia_skipTrivia s.here false
    rw [← start_scan] at same skipped
    obtain rfl := List.append_cancel_right (rest'.symm.trans same)
    exact skipped
  refine ⟨before, trivia, token, s.scan.here.rest, ?_, ?_, ?_, ?_, ?_, ?_, ?_⟩
  · rw [here, rest', rest'']
    simp
  · rw [fullStart_scan, start]
  · rw [tokenPos, offset', start, Text.byteLength_append]
  · rw [tokenEnd, offset'', offset', start]
    simp [Nat.add_assoc]
  · rwa [rest''] at passed
  · intro found
    rw [← rest'']
    exact startsTrivia_scan found
  · rintro proper rfl
    have shorter := length_scan_lt_start proper
    rw [rest''] at shorter
    simp at shorter

theorem ordered_scan (s : Scanner) : s.scan.fullStart ≤ s.scan.tokenPos ∧
    s.scan.tokenPos ≤ s.scan.tokenEnd ∧
    (s.scan.token.isProper = true → s.scan.tokenPos < s.scan.tokenEnd) := by
  obtain ⟨forward, forward'⟩ := s.reaches_start_scan
  refine ⟨?_, forward'.offset_le, ?_⟩
  · rw [fullStart_scan]
    exact forward.offset_le
  · intro proper
    exact forward'.offset_lt (length_scan_lt_start proper)

/-- The source has ended where its end is read. -/
theorem rest_of_scan_endOfFile (ended : s.scan.token = .endOfFile) : s.scan.here.rest = [] := by
  revert ended
  unfold scan
  split
  · rename_i start lineBreak skipped
    rw [here_accept]
    unfold accept
    dsimp only
    split
    · rename_i k is
      rintro rfl
      have none : start.rest = [] := rest_of_lexeme_endOfFile is
      have := (reaches_lexeme start).length_le
      rw [none, List.length_nil, Nat.le_zero] at this
      exact List.eq_nil_of_length_eq_zero this
    · nofun
  · nofun

end one

/-! ### Runs -/

section runs

variable {text : List Char}

theorem tokens_eq (s : Scanner) :
    tokens s = s.scan :: if s.scan.isDone then [] else tokens s.scan := by
  rw [tokens]
  split <;> rfl

/-- What holds of what is read holds of every token of a run. -/
theorem forall_mem_tokens {P : Scanner → Prop} {s : Scanner}
    (h : (Cursor.ofText text).Reaches s.here)
    (each : ∀ s : Scanner, (Cursor.ofText text).Reaches s.here → P s.scan) :
    ∀ t ∈ tokens s, P t := by
  fun_induction tokens s with
  | case1 s done =>
    intro t mem
    rw [List.mem_singleton.mp mem]
    exact each s h
  | case2 s more ih =>
    intro t mem
    rcases List.mem_cons.mp mem with rfl | mem
    · exact each s h
    · exact ih (h.trans s.reaches_scan) t mem

/-- The tokens of a run are what reading again and again gives. -/
theorem getElem?_tokens {s t : Scanner} {i : Nat} (here : (tokens s)[i]? = some t) :
    t = scan^[i + 1] s ∧ (t.isDone = true ↔ i + 1 = (tokens s).length) := by
  fun_induction tokens s generalizing i with
  | case1 s done =>
    cases i with
    | zero =>
      cases here
      exact ⟨rfl, by simp [done]⟩
    | succ i => cases here
  | case2 s more ih =>
    have nonempty : 0 < (tokens s.scan).length := by rw [tokens_eq]; simp
    cases i with
    | zero =>
      cases here
      refine ⟨rfl, ?_⟩
      rw [List.length_cons]
      exact iff_of_false more (by omega)
    | succ i =>
      obtain ⟨read, stops⟩ := ih here
      refine ⟨read, stops.trans ?_⟩
      rw [List.length_cons]
      omega

/-- A run is no longer than what is left of the text, and one more. -/
theorem length_tokens_le (s : Scanner) : (tokens s).length ≤ s.here.rest.length + 1 := by
  fun_induction tokens s with
  | case1 => simp
  | case2 s more ih =>
    have := length_scan_lt (by simpa using more)
    rw [List.length_cons]
    omega

theorem isChain_tokens (s : Scanner) :
    (tokens s).IsChain fun s t => t.fullStart = s.tokenEnd := by
  fun_induction tokens s with
  | case1 => exact .singleton _
  | case2 s more ih =>
    rw [tokens_eq] at ih ⊢
    exact .cons_cons (fullStart_scan _) ih

/-- A run that ends with the source passes all that is left of it. -/
theorem slices_tokens {s : Scanner} (h : (Cursor.ofText text).Reaches s.here)
    (ended : ∀ t ∈ (tokens s).getLast?, t.token = .endOfFile) :
    ((tokens s).mapM fun t => Span.slice ⟨t.fullStart, t.tokenEnd⟩ text).map List.flatten
      = some s.here.rest := by
  have slice (s : Scanner) (h : (Cursor.ofText text).Reaches s.here) :
      Span.slice ⟨s.scan.fullStart, s.scan.tokenEnd⟩ text = some (s.here.upTo s.scan.here) := by
    rw [fullStart_scan]
    exact h.slice_eq s.reaches_scan
  fun_induction tokens s with
  | case1 s done =>
    have last := ended s.scan rfl
    have atEnd : s.scan.here.rest = [] := rest_of_scan_endOfFile last
    have passed := s.reaches_scan.upTo_append
    rw [atEnd, List.append_nil] at passed
    simp [slice s h, passed]
  | case2 s more ih =>
    have rest := ih (h.trans s.reaches_scan) ?_
    · obtain ⟨slices, all, flat⟩ := Option.map_eq_some_iff.mp rest
      rw [List.mapM_cons, slice s h, all]
      simp [flat, s.reaches_scan.upTo_append]
    · intro t last
      apply ended
      rw [List.getLast?_cons, last]
      rfl

/-- **Reading a text token by token loses nothing**: it ends, and every character is in the trivia
or the text of one token. -/
theorem lossless_tokenize (text : List Char) : Lossless text (tokenize text) where
  read _ _ here := (getElem?_tokens here).1
  stops _ _ here := (getElem?_tokens here).2
  turns := by
    have := length_tokens_le (ofText text)
    have := Text.length_le_byteLength text
    refine ⟨?_, ?_⟩
    · rw [tokenize, tokens_eq]
      simp
    · show (tokens (ofText text)).length ≤ _
      have : (ofText text).here.rest = text := rfl
      simp_all
      omega
  first := by
    rw [tokenize, tokens_eq]
    rintro s ⟨⟩
    exact fullStart_scan _
  joined := isChain_tokens _
  ordered := forall_mem_tokens (.refl _) fun s _ => ordered_scan s
  divides := forall_mem_tokens (.refl _) fun s h => divides_scan h
  whole ended := slices_tokens (.refl _) ended

end runs

end Scanner

end Shapewire
