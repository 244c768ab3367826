/-
Reading a token moves forward.

Whatever `scan` finds, the place after the token lies at or after the place before it
(`reaches_scan`), and a token other than the end of the source or a fault takes at least
one character (`length_scan_lt`).  Every loop over tokens ends for that reason.

The lemmas follow the definitions of the lexemes: each shows first that its lexeme stops at
or after the place where it starts, and then that it stops strictly after it if it has a kind.
-/
import Shapewire.Token.Scanner

namespace Shapewire

namespace Token

/-! ### Where lexemes stop -/

theorem reaches_nameRun (c : Cursor) : c.Reaches (nameRun c).stop := by
  fun_induction nameRun c with
  | case1 c => exact .refl c
  | case2 c _ _ _ _ _ ih => exact (Cursor.reaches_next c).trans ih
  | case3 c _ _ _ _ _ e stop he _ _ ih =>
    have h := reaches_unicodeEscape (c.skip 2)
    rw [he] at h
    exact ((Cursor.reaches_skip 2 c).trans h).trans ih
  | case4 c _ _ _ _ _ e stop he _ =>
    have h := reaches_unicodeEscape (c.skip 2)
    rw [he] at h
    exact (Cursor.reaches_skip 2 c).trans h
  | case5 c _ _ _ _ _ stop he =>
    have h := reaches_unicodeEscape (c.skip 2)
    rw [he] at h
    exact (Cursor.reaches_skip 2 c).trans h
  | case6 c _ _ _ _ _ stop he =>
    have h := reaches_unicodeEscape (c.skip 2)
    rw [he] at h
    exact (Cursor.reaches_skip 2 c).trans h
  | case7 c => exact .refl c

theorem reaches_nameLexeme (c : Cursor) : c.Reaches (nameLexeme c).stop := by
  have h := reaches_nameRun c
  unfold nameLexeme
  dsimp only
  split
  · exact h
  · split <;> exact h

theorem reaches_exponentEnd (c : Cursor) : c.Reaches (exponentEnd c) := by
  have run (n : Nat) : c.Reaches ((c.skip n).skipWhile isDecimalPart) :=
    (Cursor.reaches_skip n c).trans (Cursor.reaches_skipWhile _ _)
  unfold exponentEnd
  dsimp only
  repeat' split
  all_goals first | exact run _ | exact .refl c

theorem reaches_decimalEnd (c : Cursor) : c.Reaches (decimalEnd c) := by
  have h := Cursor.reaches_skipWhile isDecimalPart c
  refine Cursor.Reaches.trans ?_ (reaches_exponentEnd _)
  split
  · exact (h.trans (Cursor.reaches_next _)).trans (Cursor.reaches_skipWhile _ _)
  · exact h

theorem reaches_digitsEnd (c : Cursor) : c.Reaches (digitsEnd c) := by
  unfold digitsEnd
  split
  · split
    · exact (Cursor.reaches_skip 2 c).trans (Cursor.reaches_skipWhile _ _)
    · exact reaches_decimalEnd c
  · exact reaches_decimalEnd c

theorem reaches_numberEnd (c : Cursor) : c.Reaches (numberEnd c) := by
  have h := reaches_digitsEnd c
  unfold numberEnd
  dsimp only
  split
  · exact h.trans (Cursor.reaches_next _)
  · exact h

theorem reaches_stringRest (quote : Char) (opening : Nat) (c : Cursor) :
    c.Reaches (stringRest quote opening c).stop := by
  fun_induction stringRest quote opening c with
  | case1 c => exact .refl c
  | case2 c => exact Cursor.reaches_next c
  | case3 c => exact .refl c
  | case4 c _ _ stop he _ _ _ ih =>
    have h := (Cursor.reaches_next c).trans (reaches_escapeSequence c)
    rw [he] at h
    exact h.trans ih
  | case5 c _ stop he _ _ _ ih =>
    have h := (Cursor.reaches_next c).trans (reaches_escapeSequence c)
    rw [he] at h
    exact h.trans ih
  | case6 c _ stop he _ _ _ =>
    have h := (Cursor.reaches_next c).trans (reaches_escapeSequence c)
    rw [he] at h
    exact h
  | case7 c _ _ _ _ _ _ ih => exact (Cursor.reaches_next c).trans ih

theorem reaches_templateRest (piece : TemplatePiece) (opening : Nat) (c : Cursor) :
    c.Reaches (templateRest piece opening c).stop := by
  fun_induction templateRest piece opening c with
  | case1 c => exact .refl c
  | case2 c => exact Cursor.reaches_next c
  | case3 c => exact Cursor.reaches_skip 2 c
  | case4 c _ _ stop he _ _ _ ih =>
    have h := (Cursor.reaches_next c).trans (reaches_escapeSequence c)
    rw [he] at h
    exact h.trans ih
  | case5 c _ stop he _ _ _ ih =>
    have h := (Cursor.reaches_next c).trans (reaches_escapeSequence c)
    rw [he] at h
    exact h.trans ih
  | case6 c _ stop he _ _ _ =>
    have h := (Cursor.reaches_next c).trans (reaches_escapeSequence c)
    rw [he] at h
    exact h
  | case7 c _ _ _ _ _ _ ih => exact (Cursor.reaches_next c).trans ih

theorem reaches_regexBody (offset : Nat) (inClass : Bool) (cs : List Char) :
    Cursor.Reaches ⟨offset, cs⟩ (regexBody offset inClass cs).2 := by
  have one (offset : Nat) {ch : Char} (cs : List Char) (h : ch.utf8Size = 1) :
      Cursor.Reaches ⟨offset, ch :: cs⟩ ⟨offset + 1, cs⟩ :=
    ⟨[ch], by simp, by simp [h]⟩
  fun_induction regexBody offset inClass cs with
  | case1 => exact .refl _
  | case2 => exact .refl _
  | case3 => exact one _ _ rfl
  | case4 => exact one _ _ rfl
  | case5 offset inClass escaped cs _ _ ih =>
    exact ((one offset (escaped :: cs) rfl).trans (Cursor.reaches_next _)).trans ih
  | case6 _ _ _ _ _ ih => exact (one _ _ rfl).trans ih
  | case7 _ _ _ _ _ _ ih => exact (one _ _ rfl).trans ih
  | case8 _ _ _ _ _ _ _ _ h => exact one _ _ (by rw [h.1]; rfl)
  | case9 offset inClass ch cs _ _ _ _ _ ih =>
    exact (Cursor.reaches_next ⟨offset, ch :: cs⟩).trans ih

theorem reaches_punctuationLexeme (c : Cursor) (ch : Char) (cs : List Char) :
    c.Reaches (punctuationLexeme c ch cs).stop := by
  unfold punctuationLexeme
  split
  · exact Cursor.reaches_skip _ c
  · exact Cursor.reaches_next c

theorem reaches_lexeme (c : Cursor) : c.Reaches (lexeme c).stop := by
  unfold lexeme
  split
  · exact .refl c
  · split
    · exact (Cursor.reaches_next c).trans (reaches_stringRest ..)
    · split
      · exact (Cursor.reaches_next c).trans (reaches_templateRest ..)
      · split
        · exact reaches_numberEnd c
        · split
          · exact reaches_nameLexeme c
          · exact reaches_punctuationLexeme ..

/-! ### Tokens take characters -/

/-- A place strictly after `c` whenever the lexeme has a kind. -/
def Advances (c : Cursor) (l : Lexeme) : Prop :=
  ∀ k, l.kind = .ok k → l.stop.rest.length < c.rest.length

theorem advances_of_next {c : Cursor} {ch : Char} {cs : List Char} (hc : c.rest = ch :: cs)
    {l : Lexeme} (h : c.next.Reaches l.stop) : Advances c l := fun _ _ =>
  Nat.lt_of_le_of_lt h.length_le (Cursor.length_next_lt hc)

theorem length_skip_lt {c : Cursor} {ch : Char} {cs : List Char} (hc : c.rest = ch :: cs)
    (n : Nat) : (c.skip (n + 1)).rest.length < c.rest.length :=
  Nat.lt_of_le_of_lt (Cursor.reaches_skip n c.next).length_le (Cursor.length_next_lt hc)

/-- A run with characters has passed some. -/
theorem length_nameRun_lt {c : Cursor} (h : (nameRun c).chars ≠ []) :
    (nameRun c).stop.rest.length < c.rest.length := by
  revert h
  fun_induction nameRun c with
  | case2 c ch cs hc _ _ _ =>
    exact fun _ => Nat.lt_of_le_of_lt (reaches_nameRun c.next).length_le
      (Cursor.length_next_lt hc)
  | case3 c ch cs hc _ _ e stop he _ _ _ =>
    intro _
    have h := reaches_unicodeEscape (c.skip 2)
    rw [he] at h
    exact Nat.lt_of_le_of_lt (h.trans (reaches_nameRun stop)).length_le (length_skip_lt hc 1)
  | case1 | case4 | case5 | case6 | case7 => simp

theorem advances_nameLexeme (c : Cursor) : Advances c (nameLexeme c) := by
  unfold nameLexeme
  dsimp only
  split
  · intro k hk; simp at hk
  · split
    · intro k hk; simp [Lexeme.fault] at hk
    · rename_i h
      exact fun _ _ => length_nameRun_lt (by simpa using h)

/-- A number takes the digit or the point it starts with. -/
theorem length_numberEnd_lt {c : Cursor} {ch : Char} {cs : List Char} (hc : c.rest = ch :: cs)
    (h : ch.isDigit = true ∨ ch = '.') : (numberEnd c).rest.length < c.rest.length := by
  have decimal : (decimalEnd c).rest.length < c.rest.length := by
    refine Nat.lt_of_le_of_lt (reaches_exponentEnd _).length_le ?_
    rcases h with h | rfl
    · have run := Cursor.length_skipWhile_lt (p := isDecimalPart) hc (by simp [isDecimalPart, h])
      split
      · refine Nat.lt_of_le_of_lt ?_ run
        exact ((Cursor.reaches_next _).trans (Cursor.reaches_skipWhile _ _)).length_le
      · exact run
    · have same : c.skipWhile isDecimalPart = c := by
        obtain ⟨offset, rest⟩ := c
        subst hc
        simp [Cursor.skipWhile, Cursor.skipWhileFrom, isDecimalPart, Char.isDigit]
      rw [same, if_pos (by simp [Cursor.peek?, hc])]
      exact Nat.lt_of_le_of_lt (Cursor.reaches_skipWhile _ _).length_le
        (Cursor.length_next_lt hc)
  have digits : (digitsEnd c).rest.length < c.rest.length := by
    unfold digitsEnd
    split
    · split
      · exact Nat.lt_of_le_of_lt (Cursor.reaches_skipWhile _ _).length_le (length_skip_lt hc 1)
      · exact decimal
    · exact decimal
  refine Nat.lt_of_le_of_lt ?_ digits
  unfold numberEnd
  dsimp only
  split
  · exact (Cursor.reaches_next _).length_le
  · exact Nat.le_refl _

/-- A punctuation mark has a spelling, and takes as many characters as that has. -/
theorem punctuation?_of_punctuator? {ch : Char} {cs : List Char} {k : TokenKind} {n : Nat}
    (h : punctuator? ch cs = some (k, n)) :
    ∃ text, k.punctuation? = some text ∧ n = text.length ∧ 0 < n := by
  revert h
  unfold punctuator?
  repeat' split
  all_goals
    intro h
    first
      | (obtain ⟨rfl, rfl⟩ := Prod.mk.inj (Option.some.inj h); exact ⟨_, rfl, rfl, by decide⟩)
      | simp at h

theorem advances_punctuationLexeme {c : Cursor} {ch : Char} {cs : List Char}
    (hc : c.rest = ch :: cs) : Advances c (punctuationLexeme c ch cs) := by
  unfold punctuationLexeme
  split
  · rename_i k n hk
    obtain ⟨text, -, -, hn⟩ := punctuation?_of_punctuator? hk
    obtain ⟨m, rfl⟩ := Nat.exists_eq_add_one.mpr hn
    intro _ _
    rw [Lexeme.stop_mark]
    exact length_skip_lt hc m
  · intro k hk; simp [Lexeme.fault] at hk

/-- Every token other than the end of the source takes a character. -/
theorem length_lexeme_lt {c : Cursor} {k : TokenKind} (h : (lexeme c).kind = .ok k)
    (hk : k ≠ .endOfFile) : (lexeme c).stop.rest.length < c.rest.length := by
  revert h
  unfold lexeme
  split
  · intro h
    exact absurd (Except.ok.inj h).symm hk
  · rename_i ch cs hc
    split
    · exact advances_of_next hc (reaches_stringRest ..) k
    · split
      · exact advances_of_next hc (reaches_templateRest ..) k
      · split
        · rename_i hn
          exact fun _ => length_numberEnd_lt hc (hn.imp_right And.left)
        · split
          · exact advances_nameLexeme c k
          · exact advances_punctuationLexeme hc k

end Token

namespace Scanner

open Token

@[simp] theorem here_accept (s : Scanner) (l : Lexeme) : (s.accept l).here = l.stop := by
  unfold accept
  dsimp only
  split <;> rfl

theorem reaches_scan (s : Scanner) : s.here.Reaches s.scan.here := by
  have h := reaches_skipTrivia s.here false
  unfold scan
  split
  · rename_i start lineBreak hs
    rw [hs] at h
    simpa using h.trans (reaches_lexeme start)
  · rename_i start stop lineBreak hs
    rw [hs] at h
    exact h

/-- A token other than the end of the source or a fault takes at least one character. -/
theorem length_scan_lt {s : Scanner} (h : s.scan.isDone = false) :
    s.scan.here.rest.length < s.here.rest.length := by
  have ht := reaches_skipTrivia s.here false
  revert h
  unfold scan
  split
  · rename_i start lineBreak hs
    rw [hs] at ht
    intro h
    refine Nat.lt_of_lt_of_le ?_ ht.length_le
    rw [here_accept]
    unfold accept at h
    dsimp only at h
    split at h
    · rename_i k hk
      exact length_lexeme_lt hk (by rintro rfl; simp [isDone] at h)
    · simp [isDone] at h
  · intro h; simp [isDone] at h

end Scanner

end Shapewire
