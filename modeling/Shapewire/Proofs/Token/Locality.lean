/-
What a token is does not depend on what stands behind it.

A token ends where the text stops to fit, so the text behind it takes part in where it ends: a
letter behind a name would be part of it.  Once it is known which characters a token takes, though,
nothing else matters.  Wherever the same characters stand again and what follows stands apart from
them, they are read as the same token (`local_lexeme`).

There is one lemma for each way of reading.  It names the characters that are passed and says that
they are read again in the same way; what they ask of the text behind is different from one to the
next, and weaker for the parts of a token than for a token as a whole.
-/
import Shapewire.Proofs.Token.Lexeme
import Shapewire.Proofs.Token.Locality.Number
import Shapewire.Proofs.Token.Locality.Quoted

namespace Shapewire

namespace Token

section lexemes

variable {c : Cursor} {after : List Char}

/-! ### Names -/

/-- One turn of reading a name. -/
theorem nameRun_eq {ch : Char} {cs : List Char} (here : c.rest = ch :: cs) : nameRun c =
    if Text.isNamePart ch then { nameRun c.next with chars := ch :: (nameRun c.next).chars }
    else if ch = '\\' ∧ cs.head? = some 'u' then
      match unicodeEscape (c.skip 2) with
      | .char e stop =>
        if Text.isNamePart e then
          { nameRun stop with chars := e :: (nameRun stop).chars, escaped := true }
        else ⟨[], false, stop, some c.offset⟩
      | .join stop | .invalid stop => ⟨[], false, stop, some c.offset⟩
    else ⟨[], false, c, none⟩ := by
  rw [nameRun]
  split
  · simp_all
  · rename_i here'
    obtain ⟨rfl, rfl⟩ := List.cons.inj (here.symm.trans here')
    cases unicodeEscape (c.skip 2) <;> rfl

theorem nameRun_stopped (stopped : ∀ ch ∈ c.rest.head?, Text.isNamePart ch = false ∧ ch ≠ '\\') :
    nameRun c = ⟨[], false, c, none⟩ := by
  cases here : c.rest with
  | nil =>
    rw [nameRun]
    split
    · rfl
    · simp_all
  | cons ch cs =>
    obtain ⟨noPart, noEscape⟩ := stopped ch (by rw [here]; rfl)
    rw [nameRun_eq here, if_neg (by simp [noPart]), if_neg (by simp [noEscape])]

theorem nameRun_part {ch : Char} {cs : List Char} (here : c.rest = ch :: cs)
    (part : Text.isNamePart ch = true) :
    nameRun c = { nameRun c.next with chars := ch :: (nameRun c.next).chars } := by
  rw [nameRun_eq here, if_pos part]

theorem nameRun_escape {e : Char} {stop : Cursor} {cs : List Char}
    (here : c.rest = '\\' :: 'u' :: cs) (is : unicodeEscape (c.skip 2) = .char e stop)
    (part : Text.isNamePart e = true) :
    nameRun c = { nameRun stop with chars := e :: (nameRun stop).chars, escaped := true } := by
  rw [nameRun_eq here, if_neg (by decide), if_pos ⟨rfl, rfl⟩, is]
  exact if_pos part

theorem StandsApart.not_isNamePart (apart : StandsApart after) :
    ∀ ch ∈ after.head?, Text.isNamePart ch = false ∧ ch ≠ '\\' := by
  intro ch first
  obtain rfl := apart ch first
  decide

/-- A run of name characters is read again in front of whatever stands apart. -/
theorem local_nameRun (sound : (nameRun c).fault? = none) :
    ∃ passed, c.rest = passed ++ (nameRun c).stop.rest ∧
      ∀ c' after, c'.rest = passed ++ after → StandsApart after →
        ∃ stop, stop.rest = after ∧ nameRun c' = { nameRun c with stop } := by
  fun_induction nameRun c with
  | case1 | case7 =>
    refine ⟨[], rfl, ?_⟩
    intro c' after here apart
    refine ⟨c', here, nameRun_stopped ?_⟩
    rw [here]
    exact apart.not_isNamePart
  | case2 c ch cs here part run ih =>
    obtain ⟨passed, split, again⟩ := ih sound
    refine ⟨ch :: passed, ?_, ?_⟩
    · rw [Cursor.rest_next here] at split
      rw [here, split]
      rfl
    · intro c' after here' apart
      obtain ⟨stop, behind, read⟩ := again c'.next after (Cursor.rest_next here') apart
      exact ⟨stop, behind, by rw [nameRun_part here' part, read]⟩
  | case3 c ch cs here _ escape e stop is part run ih =>
    obtain ⟨rfl, second⟩ := escape
    obtain ⟨cs, rfl⟩ := List.head?_eq_some_iff.mp second
    obtain ⟨digits, split, digitsAgain⟩ := local_unicodeEscape is
    obtain ⟨passed, split', again⟩ := ih sound
    have behind {c : Cursor} {cs : List Char} (here : c.rest = '\\' :: 'u' :: cs) :
        (c.skip 2).rest = cs := by rw [Cursor.rest_skip, here]; rfl
    refine ⟨'\\' :: 'u' :: (digits ++ passed), ?_, ?_⟩
    · rw [behind here] at split
      rw [here, split, split']
      simp [run]
    · intro c' after here' apart
      replace here' : c'.rest = '\\' :: 'u' :: (digits ++ (passed ++ after)) := by
        simpa using here'
      obtain ⟨mid, rest, is'⟩ := digitsAgain (c'.skip 2) _ (behind here')
      obtain ⟨stop', rest', read⟩ := again mid after rest apart
      exact ⟨stop', rest', by rw [nameRun_escape here' is' part, read]⟩
  | case4 | case5 | case6 => cases sound

/-- A name is read again in front of whatever stands apart. -/
theorem local_nameLexeme {k : TokenKind} (is : (nameLexeme c).kind = .ok k) :
    ∃ passed, c.rest = passed ++ (nameLexeme c).stop.rest ∧
      IsReadAs nameLexeme passed (nameLexeme c) := by
  have sound : (nameRun c).fault? = none := by
    revert is
    unfold nameLexeme
    dsimp only
    split
    · nofun
    · exact fun _ => ‹_›
  obtain ⟨passed, split, again⟩ := local_nameRun sound
  have stops : (nameLexeme c).stop = (nameRun c).stop := by
    unfold nameLexeme
    dsimp only
    split
    · rfl
    · split <;> rfl
  refine ⟨passed, stops ▸ split, ?_⟩
  intro c' after here' apart
  obtain ⟨stop, behind, read⟩ := again c' after here' apart
  refine ⟨stop, behind, ?_⟩
  revert is
  unfold nameLexeme
  rw [read]
  dsimp only
  rw [sound]
  dsimp only
  split
  · nofun
  · exact fun _ => rfl

/-! ### Punctuation -/

/-- A punctuation mark is the text it is spelled with, and as long as that. -/
theorem spelling_of_punctuator? {ch : Char} {cs : List Char} {k : TokenKind} {n : Nat}
    (is : punctuator? ch cs = some (k, n)) : ∃ tail behind,
      k.punctuation? = some (String.ofList (ch :: tail)) ∧ cs = tail ++ behind ∧
        n = tail.length + 1 := by
  revert is
  unfold punctuator?
  repeat' split
  all_goals
    intro is
    first
      | (cases is; exact ⟨[], _, rfl, rfl, rfl⟩)
      | (cases is; exact ⟨[_], _, rfl, rfl, rfl⟩)
      | (cases is; exact ⟨[_, _], _, rfl, rfl, rfl⟩)
      | (cases is; exact ⟨[_, _, _], _, rfl, rfl, rfl⟩)
      | simp at is

/-- The spelling of a punctuation mark is read as that mark in front of whatever stands apart. -/
theorem punctuator?_of_spelling {ch : Char} {tail : List Char} {k : TokenKind}
    (spelled : k.punctuation? = some (String.ofList (ch :: tail))) (apart : StandsApart after) :
    punctuator? ch (tail ++ after) = some (k, tail.length + 1) := by
  have text (text : String) (is : k.punctuation? = some text) : text.toList = ch :: tail := by
    rw [Option.some.inj (is.symm.trans spelled), String.toList_ofList]
  cases k
  all_goals
    first
      | cases spelled
      | (obtain ⟨rfl, rfl⟩ := List.cons.inj (text _ rfl)
         rcases apart.cases with rfl | ⟨cs, rfl⟩ <;> rfl)

/-- A punctuation mark is read again in front of whatever stands apart. -/
theorem local_punctuationLexeme {ch : Char} {cs : List Char} {k : TokenKind}
    (here : c.rest = ch :: cs) (is : (punctuationLexeme c ch cs).kind = .ok k) :
    ∃ tail, c.rest = ch :: (tail ++ (punctuationLexeme c ch cs).stop.rest) ∧
      ∀ c' after, c'.rest = ch :: (tail ++ after) → StandsApart after → ∃ stop,
        stop.rest = after ∧
          punctuationLexeme c' ch (tail ++ after) = { punctuationLexeme c ch cs with stop } := by
  cases mark : punctuator? ch cs with
  | none =>
    simp only [punctuationLexeme, mark] at is
    cases is
  | some found =>
    obtain ⟨k', n⟩ := found
    obtain ⟨tail, behind, spelled, rfl, rfl⟩ := spelling_of_punctuator? mark
    have past {c : Cursor} {cs : List Char} (here : c.rest = ch :: (tail ++ cs)) :
        (c.skip (tail.length + 1)).rest = cs := by
      rw [Cursor.rest_skip, here, List.drop_succ_cons]
      exact List.drop_left
    have read {c : Cursor} {cs : List Char}
        (mark : punctuator? ch (tail ++ cs) = some (k', tail.length + 1)) :
        punctuationLexeme c ch (tail ++ cs) = .mark k' (c.skip (tail.length + 1)) := by
      simp only [punctuationLexeme, mark]
    refine ⟨tail, ?_, ?_⟩
    · rw [read mark, Lexeme.stop_mark, past here, here]
    · intro c' after here' apart
      exact ⟨_, past here', by rw [read mark, read (punctuator?_of_spelling spelled apart)]; rfl⟩

/-! ### Any token -/

/-- Whether a number starts with `ch`, where `cs` comes next. -/
def StartsNumber (ch : Char) (cs : List Char) : Prop :=
  ch.isDigit = true ∨ (ch = '.' ∧ cs.head?.any Char.isDigit = true)

/-- Whether a number starts is told by characters of the same token. -/
theorem startsNumber_append {ch : Char} {tail behind : List Char} (apart : StandsApart after)
    (within : tail = [] → ch = '.' → behind.head?.any Char.isDigit = false) :
    StartsNumber ch (tail ++ after) ↔ StartsNumber ch (tail ++ behind) := by
  cases tail with
  | nil =>
    have noDigit : after.head?.any Char.isDigit = false :=
      apart.endsDigits.stops (by decide) (by decide)
    by_cases point : ch = '.'
    · simp [StartsNumber, noDigit, within rfl point]
    · simp [StartsNumber, point]
  | cons second tail => exact Iff.rfl

/-- What is passed starts with the character that comes next. -/
theorem exists_tail {ch : Char} {cs passed behind : List Char}
    (split : ch :: cs = passed ++ behind) (shorter : behind.length < (ch :: cs).length) :
    ∃ tail, passed = ch :: tail ∧ cs = tail ++ behind := by
  cases passed with
  | nil =>
    rw [split] at shorter
    exact absurd shorter (Nat.lt_irrefl _)
  | cons first tail =>
    obtain ⟨rfl, rfl⟩ := List.cons.inj split
    exact ⟨tail, rfl, rfl⟩

/-- What is read at `c` takes some characters, and wherever they stand apart from what follows the
same is read again. -/
def IsKept (c : Cursor) : Prop :=
  ∃ passed, passed ≠ [] ∧ c.rest = passed ++ (lexeme c).stop.rest ∧
    IsReadAs lexeme passed (lexeme c)

section kept

variable {ch : Char} {cs : List Char}

/-- A token that is told by the mark it opens with. -/
theorem isKept_of_opening {read : Nat → Cursor → Lexeme} (here : c.rest = ch :: cs)
    (dispatch : ∀ {c : Cursor} {cs}, c.rest = ch :: cs → lexeme c = read c.offset c.next)
    (reread : IsReread read c.next (read c.offset c.next)) : IsKept c := by
  obtain ⟨passed, -, split, again⟩ := reread
  rw [Cursor.rest_next here] at split
  refine ⟨ch :: passed, by simp, ?_, ?_⟩
  · rw [dispatch here, here, split]
    rfl
  · intro c' after here' _
    obtain ⟨stop, behind, same⟩ := again c'.offset c'.next after (Cursor.rest_next here')
    exact ⟨stop, behind, by rw [dispatch here', same, dispatch here]⟩

/-- A token that is told by its first characters, those behind the first among them. -/
theorem isKept_of_start {read : Cursor → Lexeme} (here : c.rest = ch :: cs) (is : lexeme c = read c)
    (shorter : (lexeme c).stop.rest.length < c.rest.length)
    (again : ∃ passed, c.rest = passed ++ (read c).stop.rest ∧ IsReadAs read passed (read c))
    (dispatch : ∀ {c' : Cursor} {tail after}, cs = tail ++ (read c).stop.rest →
      c'.rest = ch :: (tail ++ after) → StandsApart after → lexeme c' = read c') : IsKept c := by
  obtain ⟨passed, split, again⟩ := again
  rw [is, here] at shorter
  obtain ⟨tail, rfl, behind⟩ := exists_tail (here.symm.trans split) shorter
  rw [IsKept, is]
  refine ⟨ch :: tail, by simp, split, ?_⟩
  intro c' after here' apart
  obtain ⟨stop, rest, same⟩ := again c' after here' apart
  exact ⟨stop, rest, (dispatch behind here' apart).trans same⟩

theorem isKept_of_quote (here : c.rest = ch :: cs) (quote : ch = '"' ∨ ch = '\'')
    {k : TokenKind} (is : (lexeme c).kind = .ok k) : IsKept c := by
  have dispatch {c : Cursor} {cs : List Char} (here : c.rest = ch :: cs) :
      lexeme c = stringRest ch c.offset c.next := by
    simp only [lexeme, here, if_pos quote]
  have noEscape : ch ≠ '\\' := by rcases quote with rfl | rfl <;> decide
  rw [dispatch here] at is
  exact isKept_of_opening here dispatch (local_stringRest noEscape is)

theorem isKept_of_tick (here : c.rest = '\x60' :: cs) {k : TokenKind}
    (is : (lexeme c).kind = .ok k) : IsKept c := by
  have dispatch {c : Cursor} {cs : List Char} (here : c.rest = '\x60' :: cs) :
      lexeme c = templateRest .first c.offset c.next := by
    simp [lexeme, here]
  rw [dispatch here] at is
  exact isKept_of_opening here dispatch (local_templateRest is)

section unquoted

variable (noQuote : ¬(ch = '"' ∨ ch = '\'')) (noTick : ch ≠ '\x60')

include noQuote noTick

theorem isKept_of_number (here : c.rest = ch :: cs) (number : StartsNumber ch cs)
    (shorter : (lexeme c).stop.rest.length < c.rest.length) : IsKept c := by
  have dispatch {c : Cursor} {cs : List Char} (here : c.rest = ch :: cs)
      (number : StartsNumber ch cs) : lexeme c = numberLexeme c := by
    simp only [lexeme, here, if_neg noQuote, if_neg noTick]
    exact if_pos number
  refine isKept_of_start here (dispatch here number) shorter (local_numberLexeme c) ?_
  intro c' tail after split here' apart
  refine dispatch here' ((startsNumber_append apart ?_).mpr (split ▸ number))
  -- A point alone is no number.
  rintro rfl rfl
  cases digits : (numberLexeme c).stop.rest with
  | nil => rfl
  | cons d cs =>
    rw [split, digits] at here
    by_cases digit : d.isDigit = true
    · have two := two_le_of_numberEnd here digit
      have stop : (numberEnd c).rest = d :: cs := digits
      rw [stop, here] at two
      simp only [List.nil_append, List.length_cons] at two
      omega
    · simpa using digit

theorem isKept_of_name (here : c.rest = ch :: cs) (noNumber : ¬StartsNumber ch cs)
    (name : Text.isNameStart ch = true ∨ ch = '\\') {k : TokenKind} (is : (lexeme c).kind = .ok k)
    (shorter : (lexeme c).stop.rest.length < c.rest.length) : IsKept c := by
  -- No name starts with a point, so what comes second does not matter.
  have plain (cs : List Char) : ¬StartsNumber ch cs := by
    rintro (digit | ⟨rfl, -⟩)
    · exact noNumber (.inl digit)
    · revert name
      decide
  have dispatch {c : Cursor} {cs : List Char} (here : c.rest = ch :: cs) :
      lexeme c = nameLexeme c := by
    simp only [lexeme, here, if_neg noQuote, if_neg noTick, if_pos name]
    exact if_neg (plain cs)
  rw [dispatch here] at is
  exact isKept_of_start here (dispatch here) shorter (local_nameLexeme is) fun _ here' _ =>
    dispatch here'

theorem isKept_of_punctuation (here : c.rest = ch :: cs) (noNumber : ¬StartsNumber ch cs)
    (noName : ¬(Text.isNameStart ch = true ∨ ch = '\\')) {k : TokenKind}
    (is : (lexeme c).kind = .ok k) : IsKept c := by
  have dispatch {c : Cursor} {cs : List Char} (here : c.rest = ch :: cs)
      (plain : ¬StartsNumber ch cs) : lexeme c = punctuationLexeme c ch cs := by
    simp only [lexeme, here, if_neg noQuote, if_neg noTick, if_neg noName]
    exact if_neg plain
  rw [IsKept, dispatch here noNumber]
  rw [dispatch here noNumber] at is
  obtain ⟨tail, split, again⟩ := local_punctuationLexeme here is
  refine ⟨ch :: tail, by simp, split, ?_⟩
  intro c' after here' apart
  obtain ⟨stop, behind, same⟩ := again c' after here' apart
  have plain : ¬StartsNumber ch (tail ++ after) := by
    obtain ⟨-, whole⟩ := List.cons.inj (here.symm.trans split)
    rw [startsNumber_append apart, ← whole]
    · exact noNumber
    · rintro rfl rfl
      -- A point with a digit behind it would be a number.
      rw [whole] at noNumber
      simpa [StartsNumber] using noNumber
  exact ⟨stop, behind, (dispatch here' plain).trans same⟩

end unquoted

end kept

/-- What is read as a token is read as the same token wherever its characters stand apart from what
follows. -/
theorem local_lexeme {k : TokenKind} (is : (lexeme c).kind = .ok k) (token : k ≠ .endOfFile) :
    IsKept c := by
  have shorter := length_lexeme_lt is token
  cases here : c.rest with
  | nil =>
    rw [here] at shorter
    cases shorter
  | cons ch cs =>
    by_cases quote : ch = '"' ∨ ch = '\''
    · exact isKept_of_quote here quote is
    by_cases tick : ch = '\x60'
    · subst tick
      exact isKept_of_tick here is
    by_cases number : StartsNumber ch cs
    · exact isKept_of_number quote tick here number shorter
    by_cases name : Text.isNameStart ch = true ∨ ch = '\\'
    · exact isKept_of_name quote tick here number name is shorter
    · exact isKept_of_punctuation quote tick here number name is

end lexemes

end Token

end Shapewire
