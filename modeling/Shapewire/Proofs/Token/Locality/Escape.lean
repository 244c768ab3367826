/-
What an escape stands for does not depend on what stands behind it.

An escape takes the characters it needs and no more, so wherever the same characters stand again
they stand for the same, with one exception: whether a zero is an escape of its own and whether a
line ends with one character or two is told by the character behind (`Escape.IsLocal`).
-/
import Shapewire.Proofs.Token.Trivia

namespace Shapewire

namespace Token

/-- The same escape, read elsewhere. -/
def Escape.movedTo (stop : Cursor) : Escape → Escape
  | char ch _ => char ch stop
  | join _ => join stop
  | invalid _ => invalid stop

section escapes

variable {c stop : Cursor} {e : Char}

theorem numericEscape_of_char {numeral : List Char} {around : Nat}
    (is : numericEscape c numeral around = .char e stop) :
    stop = c.skip (numeral.length + around) ∧
      ∀ c', numericEscape c' numeral around = .char e (c'.skip (numeral.length + around)) := by
  unfold numericEscape at is ⊢
  split at is
  · cases is
  · split at is
    · cases is
    · obtain ⟨rfl, rfl⟩ := Escape.char.inj is
      exact ⟨rfl, fun _ => rfl⟩

theorem local_fixedEscape {n : Nat} (is : fixedEscape n c = .char e stop) :
    ∃ passed, passed.length = n ∧ c.rest = passed ++ stop.rest ∧
      ∀ c' after, c'.rest = passed ++ after →
        ∃ stop', stop'.rest = after ∧ fixedEscape n c' = .char e stop' := by
  unfold fixedEscape at is
  split at is
  · rename_i enough
    obtain ⟨rfl, again⟩ := numericEscape_of_char is
    refine ⟨c.rest.take n, enough, ?_, ?_⟩
    · rw [Cursor.rest_skip, enough, Nat.add_zero, List.take_append_drop]
    · intro c' after here
      have same : c'.rest.take n = c.rest.take n := by
        rw [here, List.take_append_of_le_length (by omega), List.take_take, Nat.min_self]
      refine ⟨c'.skip ((c.rest.take n).length + 0), ?_, ?_⟩
      · rw [Cursor.rest_skip, here]
        exact List.drop_left
      · rw [fixedEscape, same, if_pos enough]
        exact again c'
  · cases is

/-- Whether a numeral in braces is closed, and by what. -/
theorem unicodeEscape_braced {cs : List Char} (here : c.rest = '\x7b' :: cs) :
    unicodeEscape c = if (cs.takeWhile (· != '\x7d')).length < cs.length then
      numericEscape c (cs.takeWhile (· != '\x7d')) 2 else .invalid c := by
  simp only [unicodeEscape, here]

theorem unicodeEscape_fixed (plain : c.rest.head? ≠ some '\x7b') :
    unicodeEscape c = fixedEscape 4 c := by
  unfold unicodeEscape
  split
  · rename_i here
    exact absurd (by rw [here]; rfl) plain
  · rfl

/-- What is read as a numeral in braces goes up to the brace that closes it. -/
theorem takeWhile_closed {numeral : List Char} (within : ∀ ch ∈ numeral, (ch != '\x7d') = true)
    (tail : List Char) : (numeral ++ '\x7d' :: tail).takeWhile (· != '\x7d') = numeral := by
  rw [List.takeWhile_append_of_pos within, List.takeWhile_cons_of_neg (by decide),
    List.append_nil]

theorem exists_closed {cs : List Char}
    (closed : (cs.takeWhile (· != '\x7d')).length < cs.length) : ∃ numeral tail,
      cs = numeral ++ '\x7d' :: tail ∧ ∀ ch ∈ numeral, (ch != '\x7d') = true := by
  have split := List.takeWhile_append_dropWhile (p := (· != '\x7d')) (l := cs)
  cases dropped : cs.dropWhile (· != '\x7d') with
  | nil =>
    rw [dropped, List.append_nil] at split
    rw [split] at closed
    omega
  | cons ch tail =>
    have brace := List.head?_dropWhile_not (· != '\x7d') cs
    rw [dropped] at brace split
    obtain rfl : ch = '\x7d' := by simpa using brace
    exact ⟨_, tail, split.symm, fun ch mem => List.all_eq_true.mp List.all_takeWhile ch mem⟩

theorem local_unicodeEscape (is : unicodeEscape c = .char e stop) :
    ∃ passed, c.rest = passed ++ stop.rest ∧
      ∀ c' after, c'.rest = passed ++ after →
        ∃ stop', stop'.rest = after ∧ unicodeEscape c' = .char e stop' := by
  by_cases braced : c.rest.head? = some '\x7b'
  · obtain ⟨cs, here⟩ : ∃ cs, c.rest = '\x7b' :: cs := List.head?_eq_some_iff.mp braced
    rw [unicodeEscape_braced here] at is
    split at is
    · rename_i closed
      obtain ⟨numeral, tail, rfl, within⟩ := exists_closed closed
      rw [takeWhile_closed within] at is
      obtain ⟨rfl, again⟩ := numericEscape_of_char is
      have past (cs : List Char) :
          ('\x7b' :: (numeral ++ '\x7d' :: cs)).drop (numeral.length + 2) = cs := by
        simp [List.drop_append]
      refine ⟨'\x7b' :: (numeral ++ ['\x7d']), ?_, ?_⟩
      · rw [Cursor.rest_skip, here, past]
        simp
      · intro c' after here'
        replace here' : c'.rest = '\x7b' :: (numeral ++ '\x7d' :: after) := by simpa using here'
        refine ⟨c'.skip (numeral.length + 2), ?_, ?_⟩
        · rw [Cursor.rest_skip, here', past]
        · rw [unicodeEscape_braced here', takeWhile_closed within, if_pos (by simp), again]
    · cases is
  · rw [unicodeEscape_fixed braced] at is
    obtain ⟨passed, length, split, again⟩ := local_fixedEscape is
    refine ⟨passed, split, ?_⟩
    intro c' after here
    obtain ⟨stop', behind, read⟩ := again c' after here
    refine ⟨stop', behind, ?_⟩
    rw [unicodeEscape_fixed, read]
    cases passed with
    | nil => cases length
    | cons ch passed =>
      rw [split] at braced
      rw [here]
      exact braced

/-- A numeric escape never joins lines. -/
theorem numericEscape_ne_join (numeral : List Char) (around : Nat) :
    numericEscape c numeral around ≠ .join stop := by
  unfold numericEscape
  split
  · nofun
  · split <;> nofun

theorem fixedEscape_ne_join (n : Nat) : fixedEscape n c ≠ .join stop := by
  unfold fixedEscape
  split
  · exact numericEscape_ne_join _ _
  · nofun

theorem unicodeEscape_ne_join : unicodeEscape c ≠ .join stop := by
  unfold unicodeEscape
  split
  · dsimp only
    split
    · exact numericEscape_ne_join _ _
    · nofun
  · exact fixedEscape_ne_join 4

namespace Escape

/-- What reading an escape at `c` gives is read again wherever the same characters stand and the
same character comes behind them: that one tells whether a zero is the first digit of a number and
whether a line ends with one character or two. -/
def IsLocal (c : Cursor) (bs : Char) (r : Escape) : Prop :=
  ∃ passed, c.rest = bs :: (passed ++ r.stop.rest) ∧
    ∀ c' after, c'.rest = bs :: (passed ++ after) → after.head? = r.stop.rest.head? →
      ∃ stop', stop'.rest = after ∧ escapeSequence c' = r.movedTo stop'

variable {bs ch : Char} {cs : List Char}

theorem isLocal_of (passed : List Char) (r : Escape) (here : c.rest = bs :: (passed ++ cs))
    (again : ∀ c' cs', c'.rest = bs :: (passed ++ cs') → cs'.head? = cs.head? →
      ∃ stop', stop'.rest = cs' ∧ escapeSequence c' = r.movedTo stop') :
    (escapeSequence c).IsLocal c bs := by
  obtain ⟨stop, behind, is⟩ := again c cs here rfl
  have stops : (r.movedTo stop).stop = stop := by cases r <;> rfl
  rw [is]
  refine ⟨passed, ?_, ?_⟩
  · rw [stops, behind, here]
  · intro c' after here' head
    rw [stops, behind] at head
    obtain ⟨stop', behind', is'⟩ := again c' after here' head
    refine ⟨stop', behind', is'.trans ?_⟩
    cases r <;> rfl

/-- An escape that takes one character behind its backslash. -/
theorem isLocal_of_one (r : Escape) (here : c.rest = bs :: ch :: cs)
    (again : ∀ c' cs', c'.rest = bs :: ch :: cs' → cs'.head? = cs.head? →
      escapeSequence c' = r.movedTo c'.next.next) : (escapeSequence c).IsLocal c bs :=
  isLocal_of [ch] r here fun c' cs' here' head =>
    ⟨c'.next.next, Cursor.rest_next (Cursor.rest_next here'), again c' cs' here' head⟩

/-- An escape whose digits stand behind the letter `ch`. -/
theorem isLocal_of_digits (digits : Cursor → Escape) (here : c.rest = bs :: ch :: cs)
    (again : ∀ c' cs', c'.rest = bs :: ch :: cs' → escapeSequence c' = digits c'.next.next)
    (digitsAgain : ∀ e stop, digits c.next.next = .char e stop →
      ∃ passed, c.next.next.rest = passed ++ stop.rest ∧ ∀ c' after, c'.rest = passed ++ after →
        ∃ stop', stop'.rest = after ∧ digits c' = .char e stop')
    (noJoin : ∀ stop, digits c.next.next ≠ .join stop)
    (sound : ∀ stop, escapeSequence c ≠ .invalid stop) : (escapeSequence c).IsLocal c bs := by
  rw [again c cs here] at sound
  cases is : digits c.next.next with
  | invalid stop => exact absurd is (sound stop)
  | join stop => exact absurd is (noJoin stop)
  | char e stop =>
    obtain ⟨passed, split, read⟩ := digitsAgain e stop is
    rw [Cursor.rest_next (Cursor.rest_next here)] at split
    refine isLocal_of (ch :: passed) (.char e stop) (split ▸ here) ?_
    intro c' cs' here' _
    obtain ⟨stop', behind, is'⟩ :=
      read c'.next.next cs' (Cursor.rest_next (Cursor.rest_next here'))
    exact ⟨stop', behind, (again c' _ here').trans is'⟩

theorem nexts (here : c.rest = bs :: ch :: cs) :
    c.next.rest = ch :: cs ∧ c.next.next.rest = cs :=
  ⟨Cursor.rest_next here, Cursor.rest_next (Cursor.rest_next here)⟩

theorem isLocal_hex (here : c.rest = bs :: 'x' :: cs)
    (sound : ∀ stop, escapeSequence c ≠ .invalid stop) : (escapeSequence c).IsLocal c bs := by
  refine isLocal_of_digits (fixedEscape 2) here ?_ ?_ (fun _ => fixedEscape_ne_join 2) sound
  · intro c' cs' here'
    simp [escapeSequence, nexts here', letterEscape?]
  · intro e stop is
    obtain ⟨passed, -, digits⟩ := local_fixedEscape is
    exact ⟨passed, digits⟩

theorem isLocal_unicode (here : c.rest = bs :: 'u' :: cs)
    (sound : ∀ stop, escapeSequence c ≠ .invalid stop) : (escapeSequence c).IsLocal c bs := by
  refine isLocal_of_digits unicodeEscape here ?_ ?_ (fun _ => unicodeEscape_ne_join) sound
  · intro c' cs' here'
    simp [escapeSequence, nexts here', letterEscape?]
  · exact fun e stop => local_unicodeEscape

/-- A line that ends with two characters is joined behind both. -/
theorem isLocal_twoBreaks (here : c.rest = bs :: '\r' :: '\n' :: cs) :
    (escapeSequence c).IsLocal c bs := by
  refine isLocal_of ['\r', '\n'] (.join c) here ?_
  intro c' cs' here' _
  replace here' : c'.rest = bs :: '\r' :: '\n' :: cs' := here'
  refine ⟨c'.next.next.next, Cursor.rest_next (nexts here').2, ?_⟩
  simp [escapeSequence, nexts here', letterEscape?, movedTo]

/-- Escapes of strings and templates are local if there is nothing wrong with them. -/
theorem isLocal_escapeSequence (here : c.rest = bs :: cs)
    (sound : ∀ stop, escapeSequence c ≠ .invalid stop) : (escapeSequence c).IsLocal c bs := by
  cases cs with
  | nil => exact absurd (by simp only [escapeSequence, Cursor.rest_next here]) (sound c.next)
  | cons ch cs =>
    cases cooked : letterEscape? ch with
    | some e =>
      refine isLocal_of_one (.char e c) here ?_
      intro c' cs' here' _
      simp only [escapeSequence, nexts here', cooked, movedTo]
    | none =>
      by_cases zero : ch = '0' ∧ (cs.head?.any Char.isDigit) = false
      · refine isLocal_of_one (.char '\x00' c) here ?_
        intro c' cs' here' head
        rw [← head] at zero
        simp only [escapeSequence, nexts here', cooked, if_pos zero, movedTo]
      by_cases hex : ch = 'x'
      · exact isLocal_hex (hex ▸ here) sound
      by_cases unicode : ch = 'u'
      · exact isLocal_unicode (unicode ▸ here) sound
      by_cases two : ch = '\r' ∧ cs.head? = some '\n'
      · obtain ⟨rfl, second⟩ := two
        obtain ⟨cs, rfl⟩ := List.head?_eq_some_iff.mp second
        exact isLocal_twoBreaks here
      by_cases ended : Text.isLineBreak ch = true
      · refine isLocal_of_one (.join c) here ?_
        intro c' cs' here' head
        rw [← head] at zero two
        simp only [escapeSequence, nexts here', cooked, if_neg zero, if_neg hex, if_neg unicode,
          if_neg two, if_pos ended, movedTo]
      · refine isLocal_of_one (.char ch c) here ?_
        intro c' cs' here' head
        rw [← head] at zero two
        simp only [escapeSequence, nexts here', cooked, if_neg zero, if_neg hex, if_neg unicode,
          if_neg two, if_neg ended, movedTo]

end Escape

end escapes

end Token

end Shapewire
