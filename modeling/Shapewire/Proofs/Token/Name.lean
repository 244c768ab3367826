/-
Names and the words that are reserved.

A name is a run of name characters, each raw or escaped, and says what it says with its escapes
replaced.  `NameText` is that run as a text.  Scanning reads the longest one: what is read is such a
run, and no longer one comes next (`Scanner.readsName_scan`).

Two things are told by how a name is written and not by what it says.  A word is reserved only if
no character of it is escaped.  And a name starts with a character that may start one, if that
character is raw; as an escape any name character may come first (`Scanner.isName_of_scan`).
-/
import Shapewire.Grammar.Parser
import Shapewire.Proofs.Token.CodeEscape
import Shapewire.Proofs.Token.Dispatch

namespace Shapewire

/-- The kind of a word that is spelled so, if it is reserved. -/
theorem TokenKind.ofKeyword?_of_keyword? {text : String} (k : TokenKind)
    (spelled : k.keyword? = some text) : ofKeyword? text = some k := by
  cases k <;> cases spelled <;> rfl

namespace Token

/-- The text is a run of name characters, raw or escaped, that says the characters. -/
inductive NameText (signs : List (List Char)) : List Char → List Char → Prop where
  | nil : NameText signs [] []
  | part (part : Text.isNamePart ch = true) (rest : NameText signs text chars) :
    NameText signs (ch :: text) (ch :: chars)
  | escape (is : IsUnicodeEscape signs ch form) (part : Text.isNamePart ch = true)
    (rest : NameText signs text chars) :
    NameText signs ('\\' :: 'u' :: (form ++ text)) (ch :: chars)

section texts

variable {signs : List (List Char)} {text chars tail : List Char} {c : Cursor} {k : TokenKind}

/-- A name says name characters only. -/
theorem NameText.all_isNamePart (name : NameText signs text chars) :
    ∀ ch ∈ chars, Text.isNamePart ch = true := by
  induction name with
  | nil => nofun
  | part part _ ih => exact List.forall_mem_cons.mpr ⟨part, ih⟩
  | escape _ part _ ih => exact List.forall_mem_cons.mpr ⟨part, ih⟩

/-- A name without an escape says itself. -/
theorem NameText.eq_of_not_mem (name : NameText signs text chars) (raw : '\\' ∉ text) :
    chars = text := by
  induction name with
  | nil => rfl
  | part _ _ ih => rw [ih fun mem => raw (List.mem_cons_of_mem _ mem)]
  | escape => exact absurd List.mem_cons_self raw

/-- Without a sign in it a name has escapes of digits only. -/
theorem NameText.unsigned (name : NameText readSigns text chars) (noSign : '+' ∉ text) :
    NameText [[]] text chars := by
  induction name with
  | nil => exact .nil
  | part part _ ih => exact .part part (ih fun mem => noSign (List.mem_cons_of_mem _ mem))
  | escape is part _ ih =>
    simp only [List.mem_cons, List.mem_append, not_or] at noSign
    exact .escape (is.unsigned noSign.2.2.1) part (ih noSign.2.2.2)

/-! ### Runs -/

/-- **A run that is read is a name**, and it is noted whether it has an escape. -/
theorem exists_text_nameRun (sound : (nameRun c).fault? = none) :
    ∃ text, c.rest = text ++ (nameRun c).stop.rest ∧ NameText readSigns text (nameRun c).chars ∧
      ((nameRun c).escaped = true ↔ '\\' ∈ text) := by
  fun_induction nameRun c with
  | case1 | case7 => exact ⟨[], rfl, .nil, by simp⟩
  | case2 c ch cs here part run ih =>
    obtain ⟨text, split, name, escaped⟩ := ih sound
    rw [Cursor.rest_next here] at split
    refine ⟨ch :: text, ?_, .part part name, ?_⟩
    · rw [here, split]
      rfl
    · have other : ch ≠ '\\' := by
        rintro rfl
        cases part
      simp [escaped, other.symm, run]
  | case3 c ch cs here _ escape e stop is part run ih =>
    obtain ⟨rfl, second⟩ := escape
    obtain ⟨cs, rfl⟩ := List.head?_eq_some_iff.mp second
    obtain ⟨form, isForm, split⟩ := exists_form_unicodeEscape is
    obtain ⟨text, split', name, -⟩ := ih sound
    refine ⟨'\\' :: 'u' :: (form ++ text), ?_, .escape isForm part name, by simp⟩
    rw [Cursor.rest_skip, here] at split
    replace split : cs = form ++ stop.rest := split
    rw [here, split, split']
    simp [run]
  | case4 | case5 | case6 => cases sound

/-- A name that comes next is passed, and reading goes on behind it. -/
theorem nameRun_of_nameText (name : NameText readSigns text chars) (here : c.rest = text ++ tail) :
    ∃ stop, c.Reaches stop ∧ stop.rest = tail ∧ (nameRun c).stop = (nameRun stop).stop ∧
      (nameRun c).fault? = (nameRun stop).fault? := by
  induction name generalizing c with
  | nil => exact ⟨c, .refl c, here, rfl, rfl⟩
  | part part _ ih =>
    obtain ⟨stop, reaches, behind, same⟩ := ih (Cursor.rest_next here)
    refine ⟨stop, (Cursor.reaches_next c).trans reaches, behind, ?_⟩
    rw [nameRun_part here part]
    exact same
  | @escape ch form text chars is part _ ih =>
    replace here : c.rest = '\\' :: 'u' :: (form ++ (text ++ tail)) := by simpa using here
    have digits : (c.skip 2).rest = form ++ (text ++ tail) := by
      rw [Cursor.rest_skip, here]
      rfl
    obtain ⟨mid, rest, read⟩ := unicodeEscape_of_form is digits
    have forward : c.Reaches mid := by
      have escape := reaches_unicodeEscape (c.skip 2)
      rw [read] at escape
      exact (Cursor.reaches_skip 2 c).trans escape
    obtain ⟨stop, reaches, behind, same⟩ := ih rest
    refine ⟨stop, forward.trans reaches, behind, ?_⟩
    rw [nameRun_escape here read part]
    exact same

/-- A Unicode escape should be written here, and none is. -/
theorem fault?_nameRun_of_lacks {cs : List Char} (here : c.rest = '\\' :: 'u' :: cs)
    (lacks : ∀ ch form, IsUnicodeEscape readSigns ch form → ¬form <+: cs) :
    (nameRun c).fault? = some c.offset := by
  have digits : (c.skip 2).rest = cs := by
    rw [Cursor.rest_skip, here]
    rfl
  obtain ⟨stop, invalid⟩ := exists_invalid_unicodeEscape (c := c.skip 2) (by rwa [digits])
  rw [nameRun_eq here, if_neg (by decide), if_pos ⟨rfl, rfl⟩, invalid]

/-- **An escape in a name that has none of its forms is a fault at its backslash.** -/
theorem kind_nameLexeme_of_lacks {cs : List Char} (name : NameText readSigns text chars)
    (here : c.rest = text ++ '\\' :: 'u' :: cs)
    (lacks : ∀ ch form, IsUnicodeEscape readSigns ch form → ¬form <+: cs) :
    (nameLexeme c).kind = .error (.invalidEscape (c.offset + Text.byteLength text)) := by
  obtain ⟨stop, reaches, behind, -, same⟩ := nameRun_of_nameText name here
  rw [← behind] at here
  rw [fault?_nameRun_of_lacks behind lacks, reaches.eq_of_rest here] at same
  rw [nameLexeme]
  dsimp only
  rw [same]

/-- **No longer name comes next than the one that is read.** -/
theorem length_le_of_nameText {text' chars' : List Char}
    (name : NameText readSigns text' chars') (fits : text' <+: c.rest)
    (split : c.rest = text ++ (nameRun c).stop.rest) : text'.length ≤ text.length := by
  obtain ⟨tail, whole⟩ := fits
  obtain ⟨stop, -, rfl, same, -⟩ := nameRun_of_nameText name whole.symm
  have further := (reaches_nameRun stop).length_le
  have lengths := congrArg List.length (whole.trans split)
  simp only [List.length_append, same] at lengths
  omega

/-- What is read of a name. -/
theorem nameLexeme_of_ok (is : (nameLexeme c).kind = .ok k) :
    (nameRun c).fault? = none ∧ (nameRun c).chars ≠ [] ∧
      (nameLexeme c).value = (nameRun c).chars ∧ (nameLexeme c).stop = (nameRun c).stop ∧
      k = (if (nameRun c).escaped then none
        else TokenKind.ofKeyword? (String.ofList (nameRun c).chars)).getD .identifier := by
  unfold nameLexeme at is ⊢
  dsimp only at is ⊢
  split at is
  · cases is
  · rename_i sound
    rw [sound]
    split at is
    · cases is
    · rename_i nonempty
      rw [if_neg nonempty]
      exact ⟨rfl, by simpa using nonempty, rfl, rfl, (Except.ok.inj is).symm⟩

end texts

end Token

namespace Scanner

open Token

/-- The token is a run of name characters that says its value, and its kind is told by the text. -/
structure IsNameToken (t : Scanner) : Prop where
  place : t.start.rest = t.text.toList ++ t.here.rest
  nonempty : t.value.toList ≠ []
  name : NameText readSigns t.text.toList t.value.toList
  kind : t.token = (if '\\' ∈ t.text.toList then none
    else TokenKind.ofKeyword? t.text).getD .identifier

section names

variable {s : Scanner} {ch : Char} {cs : List Char}

/-- **What is read as a name is one.** -/
theorem isNameToken_scan (proper : s.scan.isDone = false)
    (read : lexeme s.scan.start = nameLexeme s.scan.start) : s.scan.IsNameToken := by
  obtain ⟨is, stop, value⟩ := lexeme_of_scan proper
  rw [read] at is stop value
  obtain ⟨sound, nonempty, chars, stops, kind⟩ := nameLexeme_of_ok is
  obtain ⟨text, split, name, escaped⟩ := exists_text_nameRun sound
  rw [← stops, stop] at split
  have text_eq : s.scan.text = String.ofList text := by rw [Scanner.text, Cursor.upTo_eq split]
  rw [chars] at value
  refine ⟨?_, ?_, ?_, ?_⟩
  · rw [text_eq, String.toList_ofList]
    exact split
  · rw [← value, String.toList_ofList]
    exact nonempty
  · rw [text_eq, ← value, String.toList_ofList, String.toList_ofList]
    exact name
  · rw [text_eq, String.toList_ofList, kind]
    by_cases mem : '\\' ∈ text
    · rw [if_pos mem, if_pos (escaped.mpr mem)]
    · rw [if_neg mem, if_neg (mt escaped.mp mem), name.eq_of_not_mem mem]

end names

/-! ### Words -/

/-- The token says what is written, and it is the reserved word that is spelled so, if there is
one. -/
structure IsWord (t : Scanner) : Prop where
  value : t.value = t.text
  reserved : ∀ k, TokenKind.keyword? k = some t.text → t.token = k
  free : (∀ k, TokenKind.keyword? k ≠ some t.text) → t.token = .identifier

/-- The token is a name, read as far as it goes. -/
structure ReadsName (t : Scanner) : Prop where
  isName : t.IsNameToken
  longest : ∀ text chars, NameText readSigns text chars → text <+: t.start.rest →
    text.length ≤ t.text.toList.length
  /-- An escape may have a sign before its digits; without one it is of digits only. -/
  unsigned : '+' ∉ t.text.toList → NameText [[]] t.text.toList t.value.toList
  raw : '\\' ∉ t.text.toList → t.IsWord
  /-- A word is not reserved where a character of it is escaped. -/
  escaped : '\\' ∈ t.text.toList → t.token = .identifier
  /-- A reserved word names a property by its spelling. -/
  property : t.token.isKeyword = true → t.token.keyword? = some t.value ∧
    ∀ p : ParserState, p.scanner = t → Parser.memberName p =
      (do Parser.advance; Parser.finish (.token .identifier) t.tokenPos (.identifier t.value)) p

variable {s : Scanner} {ch : Char} {cs : List Char}

/-- Without an escape a name is the word that it is spelled like. -/
theorem IsNameToken.isWord {t : Scanner} (is : t.IsNameToken) (raw : '\\' ∉ t.text.toList) :
    t.IsWord := by
  have kind := is.kind
  rw [if_neg raw] at kind
  refine ⟨String.toList_inj.mp (is.name.eq_of_not_mem raw), fun k spelled => ?_, fun free => ?_⟩
  · rw [kind, TokenKind.ofKeyword?_of_keyword? k spelled]
    rfl
  · cases found : TokenKind.ofKeyword? t.text with
    | none => rw [kind, found]; rfl
    | some k => exact absurd (TokenKind.keyword?_of_ofKeyword? found) (free k)

/-- A reserved word stands for a name where a property is named. -/
theorem memberName_of_isKeyword {p : ParserState} (word : p.scanner.token.isKeyword = true) :
    Parser.memberName p = (do
      Parser.advance
      Parser.finish (.token .identifier) p.scanner.tokenPos (.identifier p.scanner.value)) p := by
  have isName : p.scanner.token.isName = true := by rw [TokenKind.isName, word, Bool.or_true]
  show (if p.scanner.token.isName then Parser.nameFromToken else Parser.unexpected _) p = _
  rw [if_pos isName]
  rfl

/-- Where a name begins there is a name or a fault. -/
theorem isDone_of_beginsName (here : s.scan.start.rest = ch :: cs) (begins : BeginsName ch)
    (sound : s.scan.token ≠ .unknown) : s.scan.isDone = false := by
  obtain ⟨s', read⟩ := exists_accept_of_ne_slash here (begins.ne (by decide) (by decide))
  rw [lexeme_of_beginsName here begins] at read
  rw [isDone, Bool.or_eq_false_iff]
  refine ⟨beq_false_of_ne fun ended => ?_, beq_false_of_ne sound⟩
  cases is : (nameLexeme s.scan.start).kind with
  | error e =>
    rw [accept, is] at read
    exact sound (congrArg token read)
  | ok k =>
    rw [accept_of_ok is] at read
    obtain rfl : k = .endOfFile := (congrArg token read).symm.trans ended
    rcases kind_nameLexeme is with same | word
    · cases same
    · cases word

/-- **A name is read as far as it goes**, and it is a reserved word only if it is spelled like one
with no character escaped. -/
theorem readsName_scan (here : s.scan.start.rest = ch :: cs) (begins : BeginsName ch)
    (sound : s.scan.token ≠ .unknown) : s.scan.ReadsName := by
  have proper := isDone_of_beginsName here begins sound
  have read := lexeme_of_beginsName here begins
  obtain ⟨is, stop, value⟩ := lexeme_of_scan proper
  have isName := isNameToken_scan proper read
  refine ⟨isName, ?_, isName.name.unsigned, isName.isWord, ?_, ?_⟩
  · intro text chars name fits
    refine length_le_of_nameText name fits ?_
    rw [read] at is stop
    rw [← (nameLexeme_of_ok is).2.2.2.1, stop]
    exact isName.place
  · intro escaped
    rw [isName.kind, if_pos escaped]
    rfl
  · intro word
    refine ⟨by rw [← value]; exact keyword?_of_lexeme is word, fun p same => ?_⟩
    rw [← same] at word ⊢
    exact memberName_of_isKeyword word

/-- A reserved word with one character escaped. -/
theorem readsName_scan_escaped :
    (ofText "typ\\u0065of x".toList).scan.start.rest = "typ\\u0065of x".toList ∧ BeginsName 't' ∧
      (ofText "typ\\u0065of x".toList).scan.token ≠ .unknown ∧
      (ofText "typ\\u0065of x".toList).scan.ReadsName := by
  have here : (ofText "typ\\u0065of x".toList).scan.start.rest = 't' :: "yp\\u0065of x".toList := by
    decide +kernel
  have begins : BeginsName 't' := .inl (by decide)
  have sound : (ofText "typ\\u0065of x".toList).scan.token ≠ .unknown := by decide +kernel
  exact ⟨here, begins, sound, readsName_scan here begins sound⟩

example : (tokenize "typ\\u0065of typeof typeofs".toList).map (fun s => (s.token, s.value)) =
    [(.identifier, "typeof"), (.typeOfKeyword, "typeof"), (.identifier, "typeofs"),
      (.endOfFile, "")] := by decide +kernel

/-! ### What a name may start with -/

/-- The characters are a name: one that may start it, and name characters. -/
def IsName (chars : List Char) : Prop :=
  ∃ ch cs, chars = ch :: cs ∧ Text.isNameStart ch = true ∧ ∀ d ∈ cs, Text.isNamePart d = true

/-- **An identifier says name characters**, one at least, and the first of them is one that may
start a name if it is raw. -/
theorem isName_of_scan (is : s.scan.token = .identifier) :
    s.scan.value ≠ "" ∧ (∀ ch ∈ s.scan.value.toList, Text.isNamePart ch = true) ∧
      (s.scan.text.toList.head? ≠ some '\\' → IsName s.scan.value.toList) := by
  have proper : s.scan.isDone = false := by rw [isDone, is]; rfl
  obtain ⟨ch, cs, here, begins, read⟩ :=
    lexeme_of_isName (lexeme_of_scan proper).1 (by rw [is]; rfl)
  obtain ⟨place, nonempty, name, -⟩ := isNameToken_scan proper read
  have parts := name.all_isNamePart
  refine ⟨mt String.toList_eq_nil_iff.mpr nonempty, parts, fun raw => ?_⟩
  rw [here] at place
  generalize s.scan.text.toList = text at *
  generalize s.scan.value.toList = chars at *
  cases name with
  | nil => exact absurd rfl nonempty
  | part _ _ =>
    obtain ⟨rfl, -⟩ := List.cons.inj place
    have start := begins.resolve_right fun backslash => raw (congrArg some backslash)
    exact ⟨_, _, rfl, start, (List.forall_mem_cons.mp parts).2⟩
  | escape => exact absurd rfl raw

/-- A name that starts with a raw character and goes on with an escape. -/
theorem isName_of_scan_raw : (ofText "a\\u\x7b62\x7d1".toList).scan.token = .identifier ∧
    (ofText "a\\u\x7b62\x7d1".toList).scan.value ≠ "" ∧
    (∀ ch ∈ (ofText "a\\u\x7b62\x7d1".toList).scan.value.toList, Text.isNamePart ch = true) ∧
    ((ofText "a\\u\x7b62\x7d1".toList).scan.text.toList.head? ≠ some '\\' →
      IsName (ofText "a\\u\x7b62\x7d1".toList).scan.value.toList) := by
  have is : (ofText "a\\u\x7b62\x7d1".toList).scan.token = .identifier := by decide +kernel
  exact ⟨is, isName_of_scan is⟩

/-- A digit is read as a name where it is escaped. -/
theorem not_isName_of_escaped_digit : (ofText "\\u0030".toList).scan.token = .identifier ∧
    (ofText "\\u0030".toList).scan.value = "0" ∧
    ¬IsName (ofText "\\u0030".toList).scan.value.toList := by
  have value : (ofText "\\u0030".toList).scan.value = "0" := by decide +kernel
  refine ⟨by decide +kernel, value, ?_⟩
  rw [value]
  rintro ⟨ch, cs, whole, start, -⟩
  obtain ⟨rfl, -⟩ := List.cons.inj whole
  cases start

end Scanner

end Shapewire
