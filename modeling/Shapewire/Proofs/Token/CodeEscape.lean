/-
Escapes that give a character by its code.

A code is written in hexadecimal behind the letter that announces it.  `IsCodeEscape` lists the
forms: two digits, four digits, or any number of them in braces.  In front of the digits a sign may
stand, which the numeral is read past; `signs` are those that are allowed, so that the forms without
any sign can be told from those that are read (`readSigns`).

What is read as an escape of this kind is one of the forms, with the character whose code it gives
(`exists_form_unicodeEscape`), and each form is read (`unicodeEscape_of_form`), whatever comes
behind it.
-/
import Shapewire.Proofs.Token.Cooked

namespace Shapewire

namespace Token

/-- The signs that may stand before the digits of a numeral as it is read. -/
def readSigns : List (List Char) := [[], ['+']]

/-- A number in hexadecimal, one of the signs in front of its digits. -/
def IsSigned (signs : List (List Char)) (form : List Char) (n : Nat) : Prop :=
  ∃ sign ∈ signs, ∃ digits, form = sign ++ digits ∧ digits ≠ [] ∧ IsNumeral digits n

/-- The forms behind the letter `u` that stand for a character. -/
inductive IsUnicodeEscape (signs : List (List Char)) (ch : Char) : List Char → Prop where
  | unit (four : form.length = 4) (numeral : IsSigned signs form ch.toNat) :
    IsUnicodeEscape signs ch form
  | braced (numeral : IsSigned signs form ch.toNat) :
    IsUnicodeEscape signs ch ('\x7b' :: (form ++ ['\x7d']))

/-- The forms behind a backslash that give a character by its code. -/
inductive IsCodeEscape (signs : List (List Char)) (ch : Char) : List Char → Prop where
  | byte (two : form.length = 2) (numeral : IsSigned signs form ch.toNat) :
    IsCodeEscape signs ch ('x' :: form)
  | unicode (is : IsUnicodeEscape signs ch form) : IsCodeEscape signs ch ('u' :: form)

/-! ### Numerals -/

section numerals

variable {signs : List (List Char)} {form digits tail : List Char} {digit ch : Char} {n value : Nat}
  {c stop : Cursor}

instance (digit : Char) (value : Nat) : Decidable (HexDigit digit value) :=
  inferInstanceAs (Decidable (_ ∨ _))

/-- No character behind the last letter digit has a value. -/
theorem toNat_lt_of_hexValue? (is : Text.hexValue? digit = some value) : digit.toNat < 103 := by
  have bound (last : Char) (below : digit ≤ last) (small : last.toNat < 103) :
      digit.toNat < 103 := Nat.lt_of_le_of_lt below small
  unfold Text.hexValue? at is
  split_ifs at is with decimal lower upper
  · simp only [Char.isDigit, Bool.and_eq_true, decide_eq_true_eq] at decimal
    exact bound '9' decimal.2 (by decide)
  · simp only [Bool.and_eq_true, decide_eq_true_eq] at lower
    exact bound 'f' lower.2 (by decide)
  · simp only [Bool.and_eq_true, decide_eq_true_eq] at upper
    exact bound 'F' upper.2 (by decide)

/-- A character that has a value as a digit is one. -/
theorem hexDigit_of_hexValue? (is : Text.hexValue? digit = some value) : HexDigit digit value := by
  have each : ∀ i : Fin 103,
      (Text.hexValue? (Char.ofNat i)).all fun v => HexDigit (Char.ofNat i) v := by decide +kernel
  have this := each ⟨digit.toNat, toNat_lt_of_hexValue? is⟩
  rw [Char.ofNat_toNat, is] at this
  simpa using this

/-- Digits are read as the numeral that they are. -/
theorem exists_values_of_hexDigits? {m : Nat} (is : Text.hexDigits? m digits = some n) :
    ∃ values, List.Forall₂ HexDigit digits values ∧
      values.foldl (fun n value => value + 16 * n) m = n := by
  induction digits generalizing m with
  | nil =>
    cases is
    exact ⟨[], .nil, rfl⟩
  | cons digit digits ih =>
    obtain ⟨value, isDigit, rest⟩ := Option.bind_eq_some_iff.mp is
    obtain ⟨values, each, total⟩ := ih rest
    refine ⟨value :: values, .cons (hexDigit_of_hexValue? isDigit) each, ?_⟩
    rw [List.foldl_cons, Nat.add_comm value]
    exact total

theorem isNumeral_of_hexUnsigned? (is : Text.hexUnsigned? digits = some n) :
    digits ≠ [] ∧ IsNumeral digits n := by
  cases digits with
  | nil => cases is
  | cons digit digits =>
    obtain ⟨read, -⟩ := Option.filter_eq_some_iff.mp is
    obtain ⟨values, each, total⟩ := exists_values_of_hexDigits? read
    refine ⟨List.cons_ne_nil _ _, values, each, ?_⟩
    rw [Nat.ofDigits_eq_foldr, List.foldr_reverse]
    exact total

/-- What is read as a numeral is one, perhaps behind a sign. -/
theorem isSigned_of_hexNumeral? (is : Text.hexNumeral? form = some n) :
    IsSigned readSigns form n := by
  unfold Text.hexNumeral? at is
  split at is
  · rename_i digits
    exact ⟨['+'], by simp [readSigns], digits, rfl, isNumeral_of_hexUnsigned? is⟩
  · exact ⟨[], by simp [readSigns], form, rfl, isNumeral_of_hexUnsigned? is⟩

/-- A numeral is read behind a sign too. -/
theorem hexNumeral?_of_isSigned (numeral : IsSigned readSigns form ch.toNat) :
    Text.hexNumeral? form = some ch.toNat := by
  obtain ⟨sign, mem, digits, rfl, nonempty, isNumeral⟩ := numeral
  have plain := hexNumeral?_of_isNumeral nonempty isNumeral
  simp only [readSigns, List.mem_cons, List.not_mem_nil, or_false] at mem
  rcases mem with rfl | rfl
  · exact plain
  · rw [Text.hexNumeral?] at plain
    · exact plain
    · -- There is no second sign.
      rintro digits rfl
      exact isNumeral.ne_of_mem (by decide) List.mem_cons_self rfl

/-- A character is found by its own code only. -/
theorem toNat_of_charOfCode? (is : Text.charOfCode? n = some ch) : ch.toNat = n := by
  by_cases valid : n.isValidChar
  · rw [Text.charOfCode?, dif_pos valid] at is
    obtain rfl := Option.some.inj is
    rfl
  · rw [Text.charOfCode?, dif_neg valid] at is
    cases is

/-- An escape by a numeral is read as the character whose code the numeral writes, and as no
other. -/
theorem numericEscape_eq_char_iff {around : Nat} : numericEscape c form around = .char ch stop ↔
    IsSigned readSigns form ch.toNat ∧ stop = c.skip (form.length + around) := by
  constructor
  · intro is
    obtain ⟨place, -⟩ := numericEscape_of_char is
    refine ⟨?_, place⟩
    unfold numericEscape at is
    split at is
    · cases is
    · rename_i n read
      split at is
      · cases is
      · rename_i ch' found
        obtain ⟨rfl, -⟩ := Escape.char.inj is
        rw [toNat_of_charOfCode? found]
        exact isSigned_of_hexNumeral? read
  · rintro ⟨numeral, rfl⟩
    rw [numericEscape, hexNumeral?_of_isSigned numeral]
    dsimp only
    rw [charOfCode?_toNat]

end numerals

/-! ### Forms -/

section forms

variable {form tail cs : List Char} {ch : Char} {n : Nat} {c stop : Cursor}

/-- A sign is no brace, nor is a digit. -/
theorem IsSigned.ne_of_mem (numeral : IsSigned readSigns form n) {mark : Char}
    (noDigit : Text.hexValue? mark = none) (noSign : mark ≠ '+') {d : Char} (mem : d ∈ form) :
    d ≠ mark := by
  obtain ⟨sign, isSign, digits, rfl, -, isNumeral⟩ := numeral
  rcases List.mem_append.mp mem with inSign | inDigits
  · simp only [readSigns, List.mem_cons, List.not_mem_nil, or_false] at isSign
    rcases isSign with rfl | rfl
    · cases inSign
    · rw [List.mem_singleton.mp inSign]
      exact noSign.symm
  · exact isNumeral.ne_of_mem noDigit inDigits

/-- Without a sign in it a numeral is digits only. -/
theorem IsSigned.unsigned (numeral : IsSigned readSigns form n) (noSign : '+' ∉ form) :
    IsSigned [[]] form n := by
  obtain ⟨sign, isSign, digits, rfl, nonempty, isNumeral⟩ := numeral
  simp only [readSigns, List.mem_cons, List.not_mem_nil, or_false] at isSign
  rcases isSign with rfl | rfl
  · exact ⟨[], List.mem_singleton_self _, digits, rfl, nonempty, isNumeral⟩
  · exact absurd List.mem_cons_self noSign

/-- No digit is a sign. -/
theorem IsSigned.not_mem_sign (numeral : IsSigned [[]] form n) : '+' ∉ form := by
  obtain ⟨sign, isSign, digits, rfl, -, isNumeral⟩ := numeral
  rw [List.mem_singleton.mp isSign]
  exact fun mem => isNumeral.ne_of_mem (by decide) mem rfl

theorem IsUnicodeEscape.unsigned (escape : IsUnicodeEscape readSigns ch form)
    (noSign : '+' ∉ form) : IsUnicodeEscape [[]] ch form := by
  cases escape with
  | unit four numeral => exact .unit four (numeral.unsigned noSign)
  | braced numeral => exact .braced (numeral.unsigned fun mem => noSign (by simp [mem]))

/-- So many characters are read as an escape if they are a numeral. -/
theorem fixedEscape_of_isSigned (length : form.length = n)
    (numeral : IsSigned readSigns form ch.toNat) (here : c.rest = form ++ tail) :
    ∃ stop, stop.rest = tail ∧ fixedEscape n c = .char ch stop := by
  have taken : c.rest.take n = form := by rw [here, ← length, List.take_left]
  refine ⟨c.skip (form.length + 0), ?_, ?_⟩
  · rw [Cursor.rest_skip, here]
    exact List.drop_left
  · rw [fixedEscape, taken, if_pos length]
    exact numericEscape_eq_char_iff.mpr ⟨numeral, rfl⟩

/-- Nothing but a numeral is read as an escape. -/
theorem exists_form_fixedEscape (is : fixedEscape n c = .char ch stop) :
    ∃ form, form.length = n ∧ IsSigned readSigns form ch.toNat ∧ c.rest = form ++ stop.rest := by
  unfold fixedEscape at is
  split at is
  · rename_i enough
    obtain ⟨numeral, rfl⟩ := numericEscape_eq_char_iff.mp is
    refine ⟨c.rest.take n, enough, numeral, ?_⟩
    rw [Cursor.rest_skip, enough, Nat.add_zero, List.take_append_drop]
  · cases is

/-- **Each form of a Unicode escape is read as its character**, whatever comes behind it. -/
theorem unicodeEscape_of_form (escape : IsUnicodeEscape readSigns ch form)
    (here : c.rest = form ++ tail) :
    ∃ stop, stop.rest = tail ∧ unicodeEscape c = .char ch stop := by
  cases escape with
  | unit four numeral =>
    rw [unicodeEscape_fixed]
    · exact fixedEscape_of_isSigned four numeral here
    · cases form with
      | nil => cases four
      | cons d form =>
        rw [here]
        intro brace
        exact numeral.ne_of_mem (by decide) (by decide) List.mem_cons_self (Option.some.inj brace)
  | @braced form numeral =>
    replace here : c.rest = '\x7b' :: (form ++ '\x7d' :: tail) := by simpa using here
    have within : ∀ d ∈ form, (d != '\x7d') = true := fun d mem =>
      bne_iff_ne.mpr (numeral.ne_of_mem (by decide) (by decide) mem)
    refine ⟨c.skip (form.length + 2), ?_, ?_⟩
    · rw [Cursor.rest_skip, here]
      simp [List.drop_append]
    · rw [unicodeEscape_braced here, takeWhile_closed within, if_pos (by simp)]
      exact numericEscape_eq_char_iff.mpr ⟨numeral, rfl⟩

/-- **What is read as a Unicode escape is one of its forms.** -/
theorem exists_form_unicodeEscape (is : unicodeEscape c = .char ch stop) :
    ∃ form, IsUnicodeEscape readSigns ch form ∧ c.rest = form ++ stop.rest := by
  by_cases braced : c.rest.head? = some '\x7b'
  · obtain ⟨cs, here⟩ := List.head?_eq_some_iff.mp braced
    rw [unicodeEscape_braced here] at is
    split at is
    · rename_i closed
      obtain ⟨numeral, tail, rfl, within⟩ := exists_closed closed
      rw [takeWhile_closed within] at is
      obtain ⟨isSigned, rfl⟩ := numericEscape_eq_char_iff.mp is
      refine ⟨_, .braced isSigned, ?_⟩
      rw [Cursor.rest_skip, here]
      simp [List.drop_append]
    · cases is
  · rw [unicodeEscape_fixed braced] at is
    obtain ⟨form, four, numeral, split⟩ := exists_form_fixedEscape is
    exact ⟨form, .unit four numeral, split⟩

/-- Where no form of a Unicode escape comes next none is read. -/
theorem exists_invalid_unicodeEscape
    (none : ∀ ch form, IsUnicodeEscape readSigns ch form → ¬form <+: c.rest) :
    ∃ stop, unicodeEscape c = .invalid stop := by
  cases is : unicodeEscape c with
  | char ch stop =>
    obtain ⟨form, escape, split⟩ := exists_form_unicodeEscape is
    exact absurd ⟨stop.rest, split.symm⟩ (none ch form escape)
  | join stop => exact absurd is unicodeEscape_ne_join
  | invalid stop => exact ⟨stop, rfl⟩

end forms

end Token

end Shapewire
