/-
Which number is read does not depend on what stands apart from it.

A number goes on as long as characters fit, so what follows decides where it ends.  In front of the
end or a space, and of the letter of a big integer where that is still to come (`EndsDigits`), the
same characters are passed again: digits, fraction and exponent one after the other.
-/
import Shapewire.Proofs.Token.Trivia

namespace Shapewire

namespace Token

/-- What is behind a token stands apart from it: there is nothing, or a space comes first. -/
def StandsApart (after : List Char) : Prop := ∀ ch ∈ after.head?, ch = ' '

theorem StandsApart.nil : StandsApart [] := by
  intro ch first
  cases first

theorem StandsApart.cases {after : List Char} (apart : StandsApart after) :
    after = [] ∨ ∃ cs, after = ' ' :: cs := by
  cases after with
  | nil => exact .inl rfl
  | cons ch cs => exact .inr ⟨cs, by rw [apart ch rfl]⟩

/-- Wherever `passed` stands apart from what follows, reading gives `l` and stops behind it. -/
def IsReadAs (read : Cursor → Lexeme) (passed : List Char) (l : Lexeme) : Prop :=
  ∀ c after, c.rest = passed ++ after → StandsApart after →
    ∃ stop, stop.rest = after ∧ read c = { l with stop }

section numbers

variable {c : Cursor} {after : List Char}

/-! ### Digits -/

/-- What may follow the digits of a number: nothing, a space, or the letter of a big integer. -/
def EndsDigits (after : List Char) : Prop := ∀ ch ∈ after.head?, ch = ' ' ∨ ch = 'n'

theorem StandsApart.endsDigits (apart : StandsApart after) : EndsDigits after :=
  fun ch first => .inl (apart ch first)

/-- No character of those that go on with a number comes first. -/
theorem EndsDigits.stops (ends : EndsDigits after) {p : Char → Bool} (space : p ' ' = false)
    (letter : p 'n' = false) : after.head?.any p = false := by
  cases after with
  | nil => rfl
  | cons ch cs => rcases ends ch rfl with rfl | rfl <;> assumption

/-- A run is passed as a whole where the text behind it does not fit. -/
theorem rest_skipWhile_append {p : Char → Bool} {run : List Char} (here : c.rest = run ++ after)
    (fits : ∀ ch ∈ run, p ch = true) (stops : after.head?.any p = false) :
    (c.skipWhile p).rest = after := by
  rw [Cursor.rest_skipWhile, here, List.dropWhile_append_of_pos fits]
  cases after with
  | nil => rfl
  | cons ch cs => rw [List.dropWhile_cons_of_neg (by simpa using stops)]

/-- What a run passes fits. -/
theorem exists_run (p : Char → Bool) (c : Cursor) : ∃ run,
    c.rest = run ++ (c.skipWhile p).rest ∧ (∀ ch ∈ run, p ch = true) ∧
      (c.skipWhile p).rest.head?.any p = false := by
  refine ⟨c.rest.takeWhile p, ?_, ?_, ?_⟩
  · rw [Cursor.rest_skipWhile, List.takeWhile_append_dropWhile]
  · exact fun ch mem => List.all_eq_true.mp List.all_takeWhile ch mem
  · rw [Cursor.rest_skipWhile]
    have first := List.head?_dropWhile_not p c.rest
    cases here : (c.rest.dropWhile p).head? with
    | none => rfl
    | some ch =>
      rw [here] at first
      simpa using first

/-- The characters that announce the digits of an exponent. -/
inductive IsExponentSign : List Char → Prop where
  | plain (letter : e = 'e' ∨ e = 'E') : IsExponentSign [e]
  | signed (letter : e = 'e' ∨ e = 'E') (sign : s = '+' ∨ s = '-') : IsExponentSign [e, s]

/-- Where an exponent is announced and has a digit, it goes on as long as digits do. -/
theorem exponentEnd_of_sign {sign digits : List Char} (announced : IsExponentSign sign)
    (here : c.rest = sign ++ digits) (first : digits.head?.any Char.isDigit = true) :
    (exponentEnd c).rest = digits.dropWhile isDecimalPart := by
  have peek (n : Nat) (drop : c.rest.drop n = digits) :
      (c.skip n).peek?.any Char.isDigit = true ∧
        ((c.skip n).skipWhile isDecimalPart).rest = digits.dropWhile isDecimalPart := by
    rw [← Cursor.rest_skip] at drop
    rw [Cursor.peek?, Cursor.rest_skipWhile, drop]
    exact ⟨first, rfl⟩
  cases announced with
  | @plain e letter =>
    have plain : ¬(digits.head? = some '+' ∨ digits.head? = some '-') := by
      rintro (sign | sign) <;> rw [sign] at first <;> exact absurd first (by decide)
    replace here : c.rest = e :: digits := here
    obtain ⟨digit, run⟩ := peek 1 (by rw [here]; rfl)
    simp only [exponentEnd, here, if_pos letter, if_neg plain, if_pos digit, run]
  | @signed e s letter sign =>
    replace here : c.rest = e :: s :: digits := here
    have signed : (s :: digits).head? = some '+' ∨ (s :: digits).head? = some '-' :=
      sign.imp (congrArg some) (congrArg some)
    obtain ⟨digit, run⟩ := peek 2 (by rw [here]; rfl)
    simp only [exponentEnd, here, if_pos letter, if_pos signed, if_pos digit, run]

/-- Without a letter that announces it there is no exponent. -/
theorem exponentEnd_of_stopped (stopped : ∀ ch ∈ c.rest.head?, ¬(ch = 'e' ∨ ch = 'E')) :
    exponentEnd c = c := by
  unfold exponentEnd
  split
  · rename_i e cs here
    rw [if_neg (stopped e (by rw [here]; rfl))]
  · rfl

/-- There is no exponent at `c`, or there is one that is announced and has a digit. -/
theorem exponentEnd_cases (c : Cursor) : exponentEnd c = c ∨ ∃ sign digits,
    IsExponentSign sign ∧ c.rest = sign ++ digits ∧ digits.head?.any Char.isDigit = true := by
  unfold exponentEnd
  split
  · rename_i e cs here
    split
    · rename_i letter
      have digit? (n : Nat) (digit : (c.skip n).peek?.any Char.isDigit = true) :
          ((e :: cs).drop n).head?.any Char.isDigit = true := by
        rwa [← here, ← Cursor.rest_skip]
      dsimp only
      split
      · rename_i sign
        obtain ⟨s, cs, rfl⟩ : ∃ s cs', cs = s :: cs' := by
          cases cs with
          | nil => simp at sign
          | cons s cs => exact ⟨s, cs, rfl⟩
        split
        · rename_i digit
          exact .inr ⟨[e, s], cs, .signed letter (by simpa using sign), here, digit? 2 digit⟩
        · exact .inl rfl
      · split
        · rename_i digit
          exact .inr ⟨[e], cs, .plain letter, here, digit? 1 digit⟩
        · exact .inl rfl
    · exact .inl rfl
  · exact .inl rfl

/-- An exponent, or the lack of one, is read again. -/
theorem local_exponentEnd (c : Cursor) : ∃ passed,
    c.rest = passed ++ (exponentEnd c).rest ∧ (∀ ch ∈ passed.head?, ch = 'e' ∨ ch = 'E') ∧
      ∀ c' after, c'.rest = passed ++ after → EndsDigits after → (exponentEnd c').rest = after := by
  rcases exponentEnd_cases c with none | ⟨sign, digits, announced, here, first⟩
  · refine ⟨[], by rw [none]; rfl, nofun, ?_⟩
    intro c' after here' ends
    replace here' : c'.rest = after := here'
    rw [exponentEnd_of_stopped, here']
    intro ch head
    rw [here'] at head
    rcases ends ch head with rfl | rfl <;> decide
  · have run := List.takeWhile_append_dropWhile (p := isDecimalPart) (l := digits)
    refine ⟨sign ++ digits.takeWhile isDecimalPart, ?_, ?_, ?_⟩
    · rw [exponentEnd_of_sign announced here first, List.append_assoc, run, here]
    · cases announced <;> simpa
    · intro c' after here' ends
      rw [List.append_assoc] at here'
      have stops := ends.stops (p := isDecimalPart) (by decide) (by decide)
      rw [exponentEnd_of_sign announced here', List.dropWhile_append_of_pos]
      · cases after with
        | nil => rfl
        | cons ch cs => rw [List.dropWhile_cons_of_neg (by simpa using stops)]
      · exact fun ch mem => List.all_eq_true.mp List.all_takeWhile ch mem
      · cases digits with
        | nil => simp at first
        | cons d ds =>
          have digit : d.isDigit = true := by simpa using first
          simp [isDecimalPart, digit]

/-- Where a decimal number has a point, its fraction follows, and else its exponent. -/
theorem decimalEnd_eq {run : List Char} (here : c.rest = run ++ after)
    (fits : ∀ ch ∈ run, isDecimalPart ch = true) (stops : after.head?.any isDecimalPart = false) :
    ∃ whole : Cursor, whole.rest = after ∧ decimalEnd c = exponentEnd
      (if after.head? = some '.' then whole.next.skipWhile isDecimalPart else whole) := by
  have rest : (c.skipWhile isDecimalPart).rest = after := rest_skipWhile_append here fits stops
  refine ⟨_, rest, ?_⟩
  rw [← rest]
  rfl

/-- The text of a decimal number is read again. -/
theorem local_decimalEnd (c : Cursor) : ∃ passed, c.rest = passed ++ (decimalEnd c).rest ∧
    ∀ c' after, c'.rest = passed ++ after → EndsDigits after → (decimalEnd c').rest = after := by
  -- What comes behind a run of digits, an exponent or what ends the number, is no digit.
  have exponent {passed after : List Char} (first : ∀ ch ∈ passed.head?, ch = 'e' ∨ ch = 'E')
      (ends : EndsDigits after) :
      (passed ++ after).head?.any isDecimalPart = false ∧ (passed ++ after).head? ≠ some '.' := by
    cases passed with
    | nil =>
      refine ⟨ends.stops (by decide) (by decide), ?_⟩
      intro point
      rcases ends '.' point with h | h <;> cases h
    | cons ch passed => rcases first ch rfl with rfl | rfl <;> exact ⟨rfl, by simp⟩
  obtain ⟨run, split, fits, stops⟩ := exists_run isDecimalPart c
  obtain ⟨whole, rest, is⟩ := decimalEnd_eq split fits stops
  rw [← rest] at split stops is
  by_cases point : whole.rest.head? = some '.'
  · rw [if_pos point] at is
    obtain ⟨cs, behind⟩ := List.head?_eq_some_iff.mp point
    obtain ⟨run', split', fits', -⟩ := exists_run isDecimalPart whole.next
    obtain ⟨passed, split'', first, again⟩ :=
      local_exponentEnd (whole.next.skipWhile isDecimalPart)
    rw [Cursor.rest_next behind] at split'
    refine ⟨run ++ '.' :: (run' ++ passed), ?_, ?_⟩
    · rw [is, split, behind, split', split'']
      simp
    · intro c' after here' ends
      obtain ⟨noDigit, -⟩ := exponent first ends
      replace here' : c'.rest = run ++ ('.' :: (run' ++ (passed ++ after))) := by
        simpa using here'
      obtain ⟨whole', rest', is'⟩ := decimalEnd_eq here' fits rfl
      rw [is', if_pos List.head?_cons]
      refine again _ after ?_ ends
      exact rest_skipWhile_append (Cursor.rest_next rest') fits' noDigit
  · rw [if_neg point] at is
    obtain ⟨passed, split', first, again⟩ := local_exponentEnd whole
    refine ⟨run ++ passed, ?_, ?_⟩
    · rw [is, split, split', List.append_assoc]
    · intro c' after here' ends
      obtain ⟨noDigit, noPoint⟩ := exponent first ends
      rw [List.append_assoc] at here'
      obtain ⟨whole', rest', is'⟩ := decimalEnd_eq here' fits noDigit
      rw [is', if_neg noPoint]
      exact again whole' after rest' ends

theorem digitsEnd_of_radix {letter : Char} {cs : List Char} {isDigit : Char → Bool}
    (here : c.rest = '0' :: letter :: cs) (radix : radixDigit? letter = some isDigit) :
    digitsEnd c = (c.skip 2).skipWhile fun ch => isDigit ch || ch == '_' := by
  simp only [digitsEnd, here, radix]

theorem digitsEnd_of_decimal
    (decimal : ∀ letter cs, c.rest = '0' :: letter :: cs → radixDigit? letter = none) :
    digitsEnd c = decimalEnd c := by
  unfold digitsEnd
  split
  · rename_i letter cs here
    rw [decimal letter cs here]
  · rfl

/-- What ends a number is no digit in any base. -/
theorem EndsDigits.radix (ends : EndsDigits after) {letter : Char} {isDigit : Char → Bool}
    (radix : radixDigit? letter = some isDigit) :
    after.head?.any (fun ch => isDigit ch || ch == '_') = false := by
  unfold radixDigit? at radix
  split at radix
  · cases radix
    exact ends.stops (by decide) (by decide)
  · split at radix
    · cases radix
      exact ends.stops (by decide) (by decide)
    · split at radix
      · cases radix
        exact ends.stops (by decide) (by decide)
      · cases radix

/-- The digits of a number in any base are read again. -/
theorem local_digitsEnd (c : Cursor) : ∃ passed, c.rest = passed ++ (digitsEnd c).rest ∧
    ∀ c' after, c'.rest = passed ++ after → EndsDigits after → (digitsEnd c').rest = after := by
  by_cases based : ∃ letter cs isDigit,
      c.rest = '0' :: letter :: cs ∧ radixDigit? letter = some isDigit
  · obtain ⟨letter, cs, isDigit, here, radix⟩ := based
    have behind {c : Cursor} {cs : List Char} (here : c.rest = '0' :: letter :: cs) :
        (c.skip 2).rest = cs := by rw [Cursor.rest_skip, here]; rfl
    obtain ⟨run, split, fits, -⟩ := exists_run (fun ch => isDigit ch || ch == '_') (c.skip 2)
    rw [behind here] at split
    refine ⟨'0' :: letter :: run, ?_, ?_⟩
    · rw [digitsEnd_of_radix here radix, here, split]
      rfl
    · intro c' after here' ends
      rw [digitsEnd_of_radix here' radix]
      exact rest_skipWhile_append (behind here') fits (ends.radix radix)
  · have decimal : ∀ letter cs, c.rest = '0' :: letter :: cs → radixDigit? letter = none := by
      intro letter cs here
      cases radix : radixDigit? letter with
      | none => rfl
      | some isDigit => exact absurd ⟨letter, cs, isDigit, here, radix⟩ based
    obtain ⟨passed, split, again⟩ := local_decimalEnd c
    refine ⟨passed, ?_, ?_⟩
    · rw [digitsEnd_of_decimal decimal, split]
    · intro c' after here' ends
      rw [digitsEnd_of_decimal, again c' after here' ends]
      -- The letter behind a zero stands among the same characters or ends the number.
      intro letter cs here
      rw [here'] at here
      match passed, here with
      | [], here =>
        replace here : after = '0' :: letter :: cs := here
        rcases ends '0' (by rw [here]; rfl) with h | h <;> cases h
      | [_], here =>
        obtain ⟨-, rfl⟩ := List.cons.inj here
        rcases ends letter rfl with rfl | rfl <;> rfl
      | _ :: _ :: passed, here =>
        obtain ⟨rfl, tail⟩ := List.cons.inj here
        obtain ⟨rfl, -⟩ := List.cons.inj tail
        exact decimal _ _ split

/-- A number with its letter, if it has one, is read again in front of whatever stands apart. -/
theorem local_numberEnd (c : Cursor) : ∃ passed, c.rest = passed ++ (numberEnd c).rest ∧
    ∀ c' after, c'.rest = passed ++ after → StandsApart after → (numberEnd c').rest = after := by
  obtain ⟨passed, split, again⟩ := local_digitsEnd c
  unfold numberEnd
  dsimp only
  by_cases big : (digitsEnd c).peek? = some 'n'
  · rw [if_pos big]
    obtain ⟨cs, behind⟩ := List.head?_eq_some_iff.mp big
    refine ⟨passed ++ ['n'], ?_, ?_⟩
    · rw [split, behind, Cursor.rest_next behind, List.append_assoc]
      rfl
    · intro c' after here' _
      rw [List.append_assoc] at here'
      have digits := again c' ('n' :: after) here' fun ch first => .inr (Option.some.inj first).symm
      rw [if_pos (by rw [Cursor.peek?, digits]; rfl), Cursor.rest_next digits]
  · rw [if_neg big]
    refine ⟨passed, split, ?_⟩
    intro c' after here' apart
    have digits := again c' after here' apart.endsDigits
    have small : (digitsEnd c').peek? ≠ some 'n' := by
      intro letter
      rw [Cursor.peek?, digits] at letter
      exact absurd (apart 'n' letter) (by decide)
    rw [if_neg small, digits]

theorem local_numberLexeme (c : Cursor) : ∃ passed,
    c.rest = passed ++ (numberLexeme c).stop.rest ∧
      IsReadAs numberLexeme passed (numberLexeme c) := by
  obtain ⟨passed, split, again⟩ := local_numberEnd c
  refine ⟨passed, split, ?_⟩
  intro c' after here' apart
  have stops := again c' after here' apart
  refine ⟨numberEnd c', stops, ?_⟩
  rw [← stops] at here'
  rw [numberLexeme, numberLexeme, Cursor.upTo_eq split, Cursor.upTo_eq here']

/-- A number that starts with a point takes the digit behind it. -/
theorem two_le_of_numberEnd {d : Char} {cs : List Char} (here : c.rest = '.' :: d :: cs)
    (digit : d.isDigit = true) : (numberEnd c).rest.length + 2 ≤ c.rest.length := by
  have noDigit : c.rest = [] ++ '.' :: d :: cs := here
  obtain ⟨whole, rest, is⟩ := decimalEnd_eq noDigit nofun rfl
  rw [if_pos List.head?_cons] at is
  have behind := Cursor.rest_next rest
  have fraction := Cursor.length_skipWhile_lt (p := isDecimalPart) behind
    (by simp [isDecimalPart, digit])
  have exponent := (reaches_exponentEnd (whole.next.skipWhile isDecimalPart)).length_le
  have decimal : digitsEnd c = decimalEnd c :=
    digitsEnd_of_decimal fun letter cs zero => absurd (here.symm.trans zero) (by simp)
  have letter : (numberEnd c).rest.length ≤ (digitsEnd c).rest.length := by
    unfold numberEnd
    dsimp only
    split
    · exact (Cursor.reaches_next _).length_le
    · exact Nat.le_refl _
  rw [behind] at fraction
  rw [decimal, is] at letter
  rw [here, List.length_cons]
  omega

end numbers

end Token

end Shapewire
