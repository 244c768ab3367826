/-
Where the scanner stands.

A scanner that has read a source stands in it: the token starts and ends at places of the source,
the end is not before the start, and a token that is one takes up at least one byte.  Reading the
next token keeps this, and so does reading a slash or a brace again; both leave the token where
it starts.
-/
import Shapewire.Proofs.Grammar.Place

namespace Shapewire

namespace Cursor

theorem Reaches.offset_le {c d : Cursor} (h : c.Reaches d) : c.offset ≤ d.offset := by
  obtain ⟨passed, -, offset⟩ := h
  omega

/-- Characters that have been passed count for their bytes. -/
theorem Reaches.offset_lt {c d : Cursor} (h : c.Reaches d)
    (shorter : d.rest.length < c.rest.length) : c.offset < d.offset := by
  obtain ⟨passed, rest, offset⟩ := h
  cases passed with
  | nil => simp [rest] at shorter
  | cons ch passed =>
    have := ch.utf8Size_pos
    rw [offset, Text.byteLength_cons]
    omega

/-- A place is known by the characters that are passed on the way there. -/
theorem Reaches.eq_of_rest {c d : Cursor} {passed : List Char} (h : c.Reaches d)
    (split : c.rest = passed ++ d.rest) :
    d = ⟨c.offset + Text.byteLength passed, d.rest⟩ := by
  obtain ⟨passed', rest, offset⟩ := h
  obtain rfl := List.append_cancel_right (rest.symm.trans split)
  rw [← offset]

/-- No place of a text lies behind its last byte. -/
theorem Reaches.offset_le_byteLength {text : List Char} {c : Cursor}
    (h : (ofText text).Reaches c) : c.offset ≤ Text.byteLength text := by
  obtain ⟨passed, rest, offset⟩ := h
  have whole : text = passed ++ c.rest := rest
  rw [offset, whole, Text.byteLength_append]
  show 0 + Text.byteLength passed ≤ _
  omega

/-- Of two places of a text the one with the smaller offset comes first. -/
theorem Reaches.of_offset_le {a c d : Cursor} (h : a.Reaches c) (h' : a.Reaches d)
    (le : c.offset ≤ d.offset) : c.Reaches d := by
  obtain ⟨before, rest, offset⟩ := h
  obtain ⟨before', rest', offset'⟩ := h'
  rcases List.append_eq_append_iff.mp (rest.symm.trans rest') with ⟨l, eq, eq'⟩ | ⟨l, eq, eq'⟩
  · refine ⟨l, eq', ?_⟩
    rw [offset', offset, eq, Text.byteLength_append]
    omega
  · -- The place that is not behind the other cannot be before it either.
    have longer : Text.byteLength l = 0 := by
      rw [eq, Text.byteLength_append] at offset
      omega
    cases l with
    | nil => exact ⟨[], eq'.symm, by rw [offset, offset', eq]; simp⟩
    | cons ch l =>
      have := ch.utf8Size_pos
      rw [Text.byteLength_cons] at longer
      omega

/-- What lies between two places of a text is cut out of it. -/
theorem Reaches.slice_eq {text : List Char} {c d : Cursor} (h : (ofText text).Reaches c)
    (h' : c.Reaches d) : Span.slice ⟨c.offset, d.offset⟩ text = some (c.upTo d) := by
  obtain ⟨before, rest, offset⟩ := h
  have whole : text = before ++ c.rest := rest
  have start : c.offset = Text.byteLength before := by rw [offset]; exact Nat.zero_add _
  have length : Span.length ⟨c.offset, d.offset⟩ = Text.byteLength (c.upTo d) := by
    rw [h'.offset_eq]
    exact Nat.add_sub_cancel_left _ _
  have forward : ¬d.offset < c.offset := by
    have := h'.offset_le
    omega
  rw [Span.slice, if_neg forward, length, start, whole, Text.dropBytes?_byteLength,
    Option.bind_some, ← h'.upTo_append, Text.takeBytes?_byteLength]

end Cursor

namespace Token

/-- Where skipping comes upon something that is no trivia, or upon a comment without end. -/
def Trivia.start : Trivia → Cursor
  | skipped start _ | unclosed start _ _ => start

theorem reaches_start_skipTrivia (c : Cursor) (lineBreak : Bool) :
    c.Reaches (skipTrivia c lineBreak).start ∧
      (skipTrivia c lineBreak).start.Reaches (skipTrivia c lineBreak).stop := by
  fun_induction skipTrivia c lineBreak with
  | case1 c => exact ⟨.refl c, .refl c⟩
  | case2 c _ _ _ _ _ ih => exact ⟨(Cursor.reaches_next c).trans ih.1, ih.2⟩
  | case3 c _ _ _ _ _ _ ih => exact ⟨(Cursor.reaches_next c).trans ih.1, ih.2⟩
  | case4 c _ _ _ _ _ _ _ ih =>
    exact ⟨((Cursor.reaches_next c).trans (Cursor.reaches_skipWhile _ _)).trans ih.1, ih.2⟩
  | case5 c _ _ _ _ _ _ _ _ _ _ hb ih =>
    exact ⟨((Cursor.reaches_skip 2 c).trans (reaches_blockCommentEnd? hb)).trans ih.1, ih.2⟩
  | case6 c => exact ⟨.refl c, Cursor.reaches_finish c⟩
  | case7 c => exact ⟨.refl c, .refl c⟩

end Token

namespace Scanner

open Token

variable {text : List Char} {s : Scanner}

@[simp] theorem start_accept (s : Scanner) (l : Lexeme) : (s.accept l).start = s.start := by
  unfold accept
  dsimp only
  split <;> rfl

/-- The next token starts behind this one and ends behind its own start. -/
theorem reaches_start_scan (s : Scanner) :
    s.here.Reaches s.scan.start ∧ s.scan.start.Reaches s.scan.here := by
  have trivia := reaches_start_skipTrivia s.here false
  unfold scan
  split
  · rename_i start lineBreak skipped
    rw [skipped] at trivia
    rw [start_accept, here_accept]
    exact ⟨trivia.1, reaches_lexeme start⟩
  · rename_i start stop lineBreak unclosed
    rw [unclosed] at trivia
    exact trivia

/-- The next token is not empty if it is one. -/
theorem length_scan_lt_start (proper : s.scan.token.isProper = true) :
    s.scan.here.rest.length < s.scan.start.rest.length := by
  revert proper
  unfold scan
  split
  · rename_i start lineBreak skipped
    rw [start_accept, here_accept]
    unfold accept
    dsimp only
    split
    · rename_i k is
      exact fun proper => length_lexeme_lt is (by rintro rfl; cases proper)
    · nofun
  · nofun

/-- A scanner stands in the text: its token lies there and is not empty if it is one. -/
structure Sound (text : List Char) (s : Scanner) : Prop where
  start : (Cursor.ofText text).Reaches s.start
  here : s.start.Reaches s.here
  takes : s.token.isProper = true → s.here.rest.length < s.start.rest.length

theorem Sound.scan (h : s.Sound text) : s.scan.Sound text where
  start := (h.start.trans h.here).trans s.reaches_start_scan.1
  here := s.reaches_start_scan.2
  takes := length_scan_lt_start

theorem sound_scan_ofText (text : List Char) : (ofText text).scan.Sound text :=
  Sound.scan ⟨.refl _, .refl _, nofun⟩

/-- A token that is read again from its start on, past its first character at least. -/
theorem Sound.reread {s' : Scanner} (h : s.Sound text) (proper : s.token.isProper = true)
    (same : s'.start = s.start) (further : s.start.next.Reaches s'.here) : s'.Sound text where
  start := same ▸ h.start
  here := same ▸ (Cursor.reaches_next _).trans further
  takes _ := by
    have shorter := h.takes proper
    rw [same]
    refine Nat.lt_of_le_of_lt further.length_le ?_
    cases rest : s.start.rest with
    | nil => simp [rest] at shorter
    | cons ch cs => exact rest ▸ Cursor.length_next_lt rest

theorem Sound.rescanTemplate (h : s.Sound text) (brace : s.token = .closeBrace) :
    s.rescanTemplate.Sound text := by
  refine h.reread (by rw [brace]; rfl) (start_accept _ _) ?_
  rw [Scanner.rescanTemplate, here_accept]
  exact reaches_templateRest _ _ _

theorem start_rescanSlash (s : Scanner) : s.rescanSlash.start = s.start := by
  unfold Scanner.rescanSlash
  dsimp only
  split
  · split <;> rfl
  · rfl

theorem Sound.rescanSlash (h : s.Sound text) (slash : s.atSlash = true) :
    s.rescanSlash.Sound text := by
  have proper : s.token.isProper = true := by
    rcases Bool.or_eq_true_iff.mp slash with is | is <;> rw [beq_iff_eq.mp is] <;> rfl
  refine h.reread proper s.start_rescanSlash ?_
  have body := reaches_regexBody s.start.next.offset false s.start.next.rest
  unfold Scanner.rescanSlash
  rw [if_pos slash]
  dsimp only
  split
  · rename_i close read
    rw [read] at body
    exact Cursor.Reaches.trans body (Cursor.reaches_skipWhile _ _)
  · rename_i stop read
    rw [read] at body
    exact body

end Scanner

end Shapewire
