/-
Reading does not depend on where the text stands.

A cursor is an offset and the text behind it.  Every reader goes by the text; it counts the offset
on and says it in faults, but never looks at it.  Two cursors with the same text ahead are therefore
read in step: the outcomes are alike, which is to say the same but for their offsets.

There is one lemma for each reader, from single escapes up to whole tokens and what lies between
them.  In the end two scanners that have the same ahead of them read the same token and have the
same ahead of them again (`Scanner.inStep_scan`).
-/
import Shapewire.Proofs.Token.Alike
import Shapewire.Proofs.Token.Spacing

namespace Shapewire

namespace Cursor

variable {c c' : Cursor}

theorem rest_next_of_rest (same : c.rest = c'.rest) : c.next.rest = c'.next.rest := by
  cases here : c.rest with
  | nil => simp only [next, here, ← same]
  | cons ch cs => rw [rest_next here, rest_next (same ▸ here)]

theorem peek?_of_rest (same : c.rest = c'.rest) : c.peek? = c'.peek? := congrArg List.head? same

theorem upTo_of_rest {d d' : Cursor} (same : c.rest = c'.rest) (last : d.rest = d'.rest) :
    c.upTo d = c'.upTo d' := by
  rw [upTo, upTo, same, last]

theorem rest_skip_of_rest (n : Nat) (same : c.rest = c'.rest) :
    (c.skip n).rest = (c'.skip n).rest := by
  rw [rest_skip, rest_skip, same]

theorem rest_skipWhile_of_rest (p : Char → Bool) (same : c.rest = c'.rest) :
    (c.skipWhile p).rest = (c'.skipWhile p).rest := by
  rw [rest_skipWhile, rest_skipWhile, same]

end Cursor

namespace Token

variable {c c' : Cursor}

/-! ### Escapes -/

namespace Escape

/-- The same escape, with the same behind it. -/
inductive Alike : Escape → Escape → Prop where
  | char (rest : d.rest = d'.rest) : Alike (.char ch d) (.char ch d')
  | join (rest : d.rest = d'.rest) : Alike (.join d) (.join d')
  | invalid (rest : d.rest = d'.rest) : Alike (.invalid d) (.invalid d')

namespace Alike

variable {r r' : Escape} {d : Cursor} {e : Char}

theorem exists_char (h : r.Alike r') (is : r = .char e d) :
    ∃ d', r' = .char e d' ∧ d.rest = d'.rest := by
  cases h <;> cases is
  exact ⟨_, rfl, ‹_›⟩

theorem exists_join (h : r.Alike r') (is : r = .join d) :
    ∃ d', r' = .join d' ∧ d.rest = d'.rest := by
  cases h <;> cases is
  exact ⟨_, rfl, ‹_›⟩

theorem exists_invalid (h : r.Alike r') (is : r = .invalid d) :
    ∃ d', r' = .invalid d' ∧ d.rest = d'.rest := by
  cases h <;> cases is
  exact ⟨_, rfl, ‹_›⟩

end Alike

end Escape

theorem numericEscape_alike (numeral : List Char) (around : Nat) (same : c.rest = c'.rest) :
    (numericEscape c numeral around).Alike (numericEscape c' numeral around) := by
  have past := Cursor.rest_skip_of_rest (numeral.length + around) same
  unfold numericEscape
  split
  · exact .invalid same
  · split
    · exact .invalid past
    · exact .char past

theorem fixedEscape_alike (n : Nat) (same : c.rest = c'.rest) :
    (fixedEscape n c).Alike (fixedEscape n c') := by
  unfold fixedEscape
  rw [← same]
  split
  · exact numericEscape_alike _ _ same
  · exact .invalid same

theorem unicodeEscape_alike (same : c.rest = c'.rest) :
    (unicodeEscape c).Alike (unicodeEscape c') := by
  unfold unicodeEscape
  rw [← same]
  split
  · dsimp only
    split
    · exact numericEscape_alike _ _ same
    · exact .invalid same
  · exact fixedEscape_alike 4 same

theorem escapeSequence_alike (same : c.rest = c'.rest) :
    (escapeSequence c).Alike (escapeSequence c') := by
  have letter := Cursor.rest_next_of_rest same
  have after := Cursor.rest_next_of_rest letter
  unfold escapeSequence
  dsimp only
  rw [← letter]
  split
  · exact .invalid letter
  · split
    · exact .char after
    · split_ifs
      · exact .char after
      · exact fixedEscape_alike 2 after
      · exact unicodeEscape_alike after
      · exact .join (Cursor.rest_next_of_rest after)
      · exact .join after
      · exact .char after

/-! ### Names -/

/-- The same characters, with the same behind them. -/
structure NameRun.Alike (r r' : NameRun) : Prop where
  chars : r.chars = r'.chars
  escaped : r.escaped = r'.escaped
  rest : r.stop.rest = r'.stop.rest
  fault : r.fault?.isSome = r'.fault?.isSome

theorem nameRun_alike (same : c.rest = c'.rest) : (nameRun c).Alike (nameRun c') := by
  fun_induction nameRun c generalizing c' with
  | case1 c ended =>
    rw [nameRun_stopped (c := c') (by simp [← same, ended])]
    exact ⟨rfl, rfl, same, rfl⟩
  | case2 c ch cs here part run =>
    rename_i ih
    have alike := ih (Cursor.rest_next_of_rest same)
    rw [nameRun_part (same ▸ here) part]
    exact ⟨congrArg (ch :: ·) alike.chars, alike.escaped, alike.rest, alike.fault⟩
  | case3 c ch cs here noPart escape e stop is part run =>
    rename_i ih
    obtain ⟨stop', is', rest⟩ :=
      (unicodeEscape_alike (Cursor.rest_skip_of_rest 2 same)).exists_char is
    have alike := ih rest
    rw [nameRun_eq (same ▸ here), if_neg noPart, if_pos escape, is']
    simp only [if_pos part]
    exact ⟨congrArg (e :: ·) alike.chars, rfl, alike.rest, alike.fault⟩
  | case4 c ch cs here noPart escape e stop is noName =>
    obtain ⟨stop', is', rest⟩ :=
      (unicodeEscape_alike (Cursor.rest_skip_of_rest 2 same)).exists_char is
    rw [nameRun_eq (same ▸ here), if_neg noPart, if_pos escape, is']
    simp only [if_neg noName]
    exact ⟨rfl, rfl, rest, rfl⟩
  | case5 c ch cs here noPart escape stop is => exact absurd is unicodeEscape_ne_join
  | case6 c ch cs here noPart escape stop is =>
    obtain ⟨stop', is', rest⟩ :=
      (unicodeEscape_alike (Cursor.rest_skip_of_rest 2 same)).exists_invalid is
    rw [nameRun_eq (same ▸ here), if_neg noPart, if_pos escape, is']
    exact ⟨rfl, rfl, rest, rfl⟩
  | case7 c ch cs here noPart noEscape =>
    rw [nameRun_eq (same ▸ here), if_neg noPart, if_neg noEscape]
    exact ⟨rfl, rfl, same, rfl⟩

/-! ### Lexemes -/

end Token

/-- The same token or a fault of both, with the same behind it. -/
structure Lexeme.Alike (l l' : Lexeme) : Prop where
  kind : l.kind.toOption = l'.kind.toOption
  value : l.value = l'.value
  rest : l.stop.rest = l'.stop.rest
  lineBreak : l.lineBreak = l'.lineBreak

namespace Lexeme.Alike

variable {l l' : Lexeme} {stop stop' : Cursor}

theorem fault (e e' : ScanError) (rest : stop.rest = stop'.rest) :
    (Lexeme.fault e stop).Alike (.fault e' stop') := ⟨rfl, rfl, rest, rfl⟩

theorem mark (k : TokenKind) (rest : stop.rest = stop'.rest) :
    (Lexeme.mark k stop).Alike (.mark k stop') := ⟨rfl, rfl, rest, rfl⟩

theorem cons (h : l.Alike l') (ch : Char) : (l.cons ch).Alike (l'.cons ch) :=
  ⟨h.kind, congrArg (ch :: ·) h.value, h.rest, h.lineBreak⟩

theorem noteBreak (h : l.Alike l') (b : Bool) : (l.noteBreak b).Alike (l'.noteBreak b) :=
  ⟨h.kind, h.value, h.rest, congrArg (b || ·) h.lineBreak⟩

end Lexeme.Alike

namespace Token

variable {c c' : Cursor}

theorem nameLexeme_alike (same : c.rest = c'.rest) : (nameLexeme c).Alike (nameLexeme c') := by
  have run := nameRun_alike same
  unfold nameLexeme
  generalize nameRun c = r, nameRun c' = r' at run ⊢
  obtain ⟨chars, escaped, stop, fault⟩ := r
  obtain ⟨chars', escaped', stop', fault'⟩ := r'
  obtain ⟨rfl, rfl, rest, faults⟩ := run
  cases fault <;> cases fault'
  case some.some => exact ⟨rfl, rfl, rest, rfl⟩
  case none.none =>
    dsimp only
    split
    · exact .fault _ _ rest
    · exact ⟨rfl, rfl, rest, rfl⟩
  all_goals cases faults

/-! ### Numbers -/

theorem rest_exponentEnd_of_rest (same : c.rest = c'.rest) :
    (exponentEnd c).rest = (exponentEnd c').rest := by
  unfold exponentEnd
  rw [← same]
  split
  · rename_i e cs here
    dsimp only
    generalize (if cs.head? = some '+' ∨ cs.head? = some '-' then 2 else 1) = n
    rw [Cursor.peek?_of_rest (Cursor.rest_skip_of_rest n same)]
    split_ifs
    · exact Cursor.rest_skipWhile_of_rest _ (Cursor.rest_skip_of_rest _ same)
    · exact same
    · exact same
  · exact same

theorem rest_decimalEnd_of_rest (same : c.rest = c'.rest) :
    (decimalEnd c).rest = (decimalEnd c').rest := by
  have whole := Cursor.rest_skipWhile_of_rest isDecimalPart same
  unfold decimalEnd
  dsimp only
  rw [Cursor.peek?_of_rest whole]
  split_ifs
  · exact rest_exponentEnd_of_rest
      (Cursor.rest_skipWhile_of_rest _ (Cursor.rest_next_of_rest whole))
  · exact rest_exponentEnd_of_rest whole

theorem rest_digitsEnd_of_rest (same : c.rest = c'.rest) :
    (digitsEnd c).rest = (digitsEnd c').rest := by
  unfold digitsEnd
  rw [← same]
  split
  · split
    · exact Cursor.rest_skipWhile_of_rest _ (Cursor.rest_skip_of_rest 2 same)
    · exact rest_decimalEnd_of_rest same
  · exact rest_decimalEnd_of_rest same

theorem rest_numberEnd_of_rest (same : c.rest = c'.rest) :
    (numberEnd c).rest = (numberEnd c').rest := by
  have digits := rest_digitsEnd_of_rest same
  unfold numberEnd
  dsimp only
  rw [Cursor.peek?_of_rest digits]
  split_ifs
  · exact Cursor.rest_next_of_rest digits
  · exact digits

theorem numberLexeme_alike (same : c.rest = c'.rest) :
    (numberLexeme c).Alike (numberLexeme c') where
  kind := rfl
  value := by
    rw [numberLexeme, numberLexeme, Cursor.upTo_of_rest same (rest_numberEnd_of_rest same)]
  rest := rest_numberEnd_of_rest same
  lineBreak := rfl

/-! ### Strings and templates -/

theorem stringRest_alike (quote : Char) (opening opening' : Nat) (same : c.rest = c'.rest) :
    (stringRest quote opening c).Alike (stringRest quote opening' c') := by
  fun_induction stringRest quote opening c generalizing c' with
  | case1 c ended =>
    rw [stringRest]
    split
    · exact .fault _ _ same
    · simp_all
  | case2 c cs here =>
    rw [same] at here
    rw [stringRest_eq here, if_pos rfl]
    exact .mark _ (Cursor.rest_next_of_rest same)
  | case3 c ch cs here noQuote ends =>
    rw [same] at here
    rw [stringRest_eq here, if_neg noQuote, if_pos ends]
    exact .fault _ _ same
  | case4 c cs e stop is here noQuote noBreak ih =>
    obtain ⟨stop', is', rest⟩ := (escapeSequence_alike same).exists_char is
    rw [same] at here
    rw [stringRest_eq here, if_neg noQuote, if_neg noBreak, if_pos rfl, is']
    exact (ih rest).cons e
  | case5 c cs stop is here noQuote noBreak ih =>
    obtain ⟨stop', is', rest⟩ := (escapeSequence_alike same).exists_join is
    rw [same] at here
    rw [stringRest_eq here, if_neg noQuote, if_neg noBreak, if_pos rfl, is']
    exact ih rest
  | case6 c cs stop is here noQuote noBreak =>
    obtain ⟨stop', is', rest⟩ := (escapeSequence_alike same).exists_invalid is
    rw [same] at here
    rw [stringRest_eq here, if_neg noQuote, if_neg noBreak, if_pos rfl, is']
    exact .fault _ _ rest
  | case7 c ch cs here noQuote noBreak noEscape ih =>
    rw [same] at here
    rw [stringRest_eq here, if_neg noQuote, if_neg noBreak, if_neg noEscape]
    exact (ih (Cursor.rest_next_of_rest same)).cons ch

theorem templateRest_alike (piece : TemplatePiece) (opening opening' : Nat)
    (same : c.rest = c'.rest) :
    (templateRest piece opening c).Alike (templateRest piece opening' c') := by
  fun_induction templateRest piece opening c generalizing c' with
  | case1 c ended =>
    rw [templateRest]
    split
    · exact .fault _ _ same
    · simp_all
  | case2 c cs here =>
    rw [same] at here
    rw [templateRest_eq here, if_pos rfl]
    exact .mark _ (Cursor.rest_next_of_rest same)
  | case3 c ch cs here noTick broken =>
    rw [same] at here
    rw [templateRest_eq here, if_neg noTick, if_pos broken]
    exact .mark _ (Cursor.rest_skip_of_rest 2 same)
  | case4 c cs e stop is here noTick noBrace ih =>
    obtain ⟨stop', is', rest⟩ := (escapeSequence_alike same).exists_char is
    rw [same] at here
    rw [templateRest_eq here, if_neg noTick, if_neg noBrace, if_pos rfl, is']
    exact (ih rest).cons e
  | case5 c cs stop is here noTick noBrace ih =>
    obtain ⟨stop', is', rest⟩ := (escapeSequence_alike same).exists_join is
    rw [same] at here
    rw [templateRest_eq here, if_neg noTick, if_neg noBrace, if_pos rfl, is']
    exact ih rest
  | case6 c cs stop is here noTick noBrace =>
    obtain ⟨stop', is', rest⟩ := (escapeSequence_alike same).exists_invalid is
    rw [same] at here
    rw [templateRest_eq here, if_neg noTick, if_neg noBrace, if_pos rfl, is']
    exact .fault _ _ rest
  | case7 c ch cs here noTick noBrace noEscape ih =>
    rw [same] at here
    rw [templateRest_eq here, if_neg noTick, if_neg noBrace, if_neg noEscape]
    exact ((ih (Cursor.rest_next_of_rest same)).cons ch).noteBreak _

/-! ### Any token -/

theorem punctuationLexeme_alike (ch : Char) (cs : List Char) (same : c.rest = c'.rest) :
    (punctuationLexeme c ch cs).Alike (punctuationLexeme c' ch cs) := by
  unfold punctuationLexeme
  split
  · exact .mark _ (Cursor.rest_skip_of_rest _ same)
  · exact .fault _ _ (Cursor.rest_next_of_rest same)

/-- **The same token is read wherever the same text stands.** -/
theorem lexeme_alike (same : c.rest = c'.rest) : (lexeme c).Alike (lexeme c') := by
  have next := Cursor.rest_next_of_rest same
  unfold lexeme
  rw [← same]
  split
  · exact .mark _ same
  · split_ifs
    · exact stringRest_alike _ _ _ next
    · exact templateRest_alike _ _ _ next
    · exact numberLexeme_alike same
    · exact nameLexeme_alike same
    · exact punctuationLexeme_alike _ _ same

/-! ### Trivia -/

/-- The same place or the same fault, with the same behind it. -/
inductive Trivia.Alike : Trivia → Trivia → Prop where
  | skipped (rest : d.rest = d'.rest) : Alike (.skipped d lineBreak) (.skipped d' lineBreak)
  | unclosed (opened : s.rest = s'.rest) (rest : d.rest = d'.rest) :
    Alike (.unclosed s d lineBreak) (.unclosed s' d' lineBreak)

theorem blockCommentEnd?_alike (offset offset' : Nat) (lineBreak : Bool) (cs : List Char) :
    Option.Rel (fun r r' => r.1.rest = r'.1.rest ∧ r.2 = r'.2)
      (blockCommentEnd? offset lineBreak cs) (blockCommentEnd? offset' lineBreak cs) := by
  fun_induction blockCommentEnd? offset lineBreak cs generalizing offset' with
  | case1 => exact .none
  | case2 => exact .some ⟨rfl, rfl⟩
  | case3 offset lineBreak ch cs noMark ih =>
    rw [blockCommentEnd?.eq_3 _ _ _ _ noMark]
    exact ih _

/-- **Trivia are skipped in the same way wherever the same text stands.** -/
theorem skipTrivia_alike (lineBreak : Bool) (same : c.rest = c'.rest) :
    (skipTrivia c lineBreak).Alike (skipTrivia c' lineBreak) := by
  have comment {c c' : Cursor} (same : c.rest = c'.rest) : Option.Rel
      (fun r r' => r.1.rest = r'.1.rest ∧ r.2 = r'.2)
      (blockCommentEnd? (c.skip 2).offset false (c.skip 2).rest)
      (blockCommentEnd? (c'.skip 2).offset false (c'.skip 2).rest) := by
    rw [Cursor.rest_skip_of_rest 2 same]
    exact blockCommentEnd?_alike _ _ _ _
  fun_induction skipTrivia c lineBreak generalizing c' with
  | case1 c lineBreak ended =>
    rw [skipTrivia_of_not_startsTrivia (c := c') (by rw [← same, ended]; rfl)]
    exact .skipped same
  | case2 c lineBreak ch cs here ends ih =>
    rw [skipTrivia_eq (same.symm.trans here), if_pos ends]
    exact ih (Cursor.rest_next_of_rest same)
  | case3 c lineBreak ch cs here noBreak blank ih =>
    rw [skipTrivia_eq (same.symm.trans here), if_neg noBreak, if_pos blank]
    exact ih (Cursor.rest_next_of_rest same)
  | case4 c lineBreak ch cs here noBreak noBlank opened ih =>
    rw [skipTrivia_eq (same.symm.trans here), if_neg noBreak, if_neg noBlank, if_pos opened]
    exact ih (Cursor.rest_skipWhile_of_rest _ (Cursor.rest_next_of_rest same))
  | case5 c lineBreak ch cs here noBreak noBlank noLine opened stop b closed ih =>
    have closes := comment same
    rw [skipTrivia_eq (same.symm.trans here), if_neg noBreak, if_neg noBlank, if_neg noLine,
      if_pos opened]
    rw [closed] at closes
    generalize blockCommentEnd? (c'.skip 2).offset false (c'.skip 2).rest = r at closes
    cases closes with
    | @some _ r alike =>
      obtain ⟨stop', b'⟩ := r
      obtain ⟨rest, rfl⟩ := alike
      exact ih rest
  | case6 c lineBreak ch cs here noBreak noBlank noLine opened open_ =>
    have closes := comment same
    rw [skipTrivia_eq (same.symm.trans here), if_neg noBreak, if_neg noBlank, if_neg noLine,
      if_pos opened]
    rw [open_] at closes
    generalize blockCommentEnd? (c'.skip 2).offset false (c'.skip 2).rest = r at closes
    cases closes with
    | none => exact .unclosed same rfl
  | case7 c lineBreak ch cs here noBreak noBlank noLine noBlock =>
    rw [skipTrivia_eq (same.symm.trans here), if_neg noBreak, if_neg noBlank, if_neg noLine,
      if_neg noBlock]
    exact .skipped same

end Token

namespace Scanner

open Token

variable {s s' : Scanner}

/-- The same has been read last, as far as a grammar sees it, and the same is ahead. -/
structure InStep (s s' : Scanner) : Prop where
  reading : s.reading = s'.reading
  rest : s.here.rest = s'.here.rest

namespace InStep

theorem token (h : s.InStep s') : s.token = s'.token := congrArg Reading.token h.reading

theorem lineBreak (h : s.InStep s') : s.lineBreak = s'.lineBreak :=
  congrArg Reading.lineBreak h.reading

end InStep

/-- Of alike lexemes the same tokens are taken. -/
theorem accept_alike {l l' : Lexeme} (alike : l.Alike l') :
    (s.accept l).token = (s'.accept l').token ∧ (s.accept l).value = (s'.accept l').value ∧
      (s.accept l).here.rest = (s'.accept l').here.rest := by
  obtain ⟨kind, value, stop, lineBreak⟩ := l
  obtain ⟨kind', value', stop', lineBreak'⟩ := l'
  obtain ⟨kinds, rfl, rest, rfl⟩ := alike
  refine ⟨?_, ?_, by rw [here_accept, here_accept, rest]⟩
  all_goals cases kind <;> cases kind' <;> cases kinds <;> rfl

theorem lineBreak_accept (s : Scanner) (l : Lexeme) :
    (s.accept l).lineBreak = (s.lineBreak || l.lineBreak) := by
  unfold accept
  dsimp only
  split <;> rfl

/-- **Scanners with the same ahead of them read the same.** -/
theorem inStep_scan (same : s.here.rest = s'.here.rest) : s.scan.InStep s'.scan := by
  have trivia := skipTrivia_alike false same
  unfold scan
  generalize skipTrivia s.here false = t, skipTrivia s'.here false = t' at trivia
  cases trivia with
  | skipped rest =>
    have alike := lexeme_alike rest
    obtain ⟨token, value, ahead⟩ := accept_alike alike
    refine ⟨?_, ahead⟩
    rw [reading, reading, token, value, lineBreak_accept, lineBreak_accept, alike.lineBreak]
  | unclosed opened rest => exact ⟨rfl, rest⟩

end Scanner

end Shapewire
