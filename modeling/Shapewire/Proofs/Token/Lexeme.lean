/-
Which kinds of tokens a text can start with.

The character a token starts with decides how it is read, and each way of reading gives tokens of
few kinds: a quote mark starts a string, a backtick a piece of a template, and a name is an
identifier or the reserved word it spells.  Nothing but the end of a text is read as its end.
-/
import Shapewire.Token.Progress

namespace Shapewire

/-- A reserved word is spelled as it is read. -/
theorem TokenKind.keyword?_of_ofKeyword? {text : String} {k : TokenKind}
    (is : ofKeyword? text = some k) : k.keyword? = some text := by
  have listed : (text, k) ∈ keywords := by
    obtain ⟨before, after, split, -⟩ := List.lookup_eq_some_iff.mp is
    rw [split]
    simp
  obtain ⟨k', -, spelled⟩ := List.mem_filterMap.mp listed
  obtain ⟨spelling, is', same⟩ := Option.map_eq_some_iff.mp spelled
  obtain ⟨rfl, rfl⟩ := Prod.mk.inj same
  exact is'

namespace Token

variable {c : Cursor} {k : TokenKind}

theorem kind_stringRest {quote : Char} {opening : Nat}
    (is : (stringRest quote opening c).kind = .ok k) : k = .stringLiteral := by
  fun_induction stringRest quote opening c with
  | case1 | case3 | case6 => cases is
  | case2 => exact (Except.ok.inj is).symm
  | case4 _ _ _ _ _ _ _ _ ih | case5 _ _ _ _ _ _ _ ih | case7 _ _ _ _ _ _ _ ih => exact ih is

/-- What stands behind a substitution is a piece of the template. -/
theorem kind_templateRest {piece : TemplatePiece} {opening : Nat}
    (is : (templateRest piece opening c).kind = .ok k) : k = piece.closed ∨ k = piece.broken := by
  revert is
  fun_induction templateRest piece opening c <;>
    simp_all [Lexeme.fault, Lexeme.mark, Lexeme.cons, Lexeme.noteBreak, eq_comm]

/-- A name that is no identifier is the reserved word it spells. -/
theorem kind_nameLexeme (is : (nameLexeme c).kind = .ok k) :
    k = .identifier ∨ k.keyword? = some (String.ofList (nameLexeme c).value) := by
  revert is
  unfold nameLexeme
  dsimp only
  split
  · nofun
  · split
    · nofun
    · intro is
      obtain rfl := Except.ok.inj is
      dsimp only
      split
      · exact .inl rfl
      · cases found : TokenKind.ofKeyword? (String.ofList (nameRun c).chars) with
        | none => exact .inl rfl
        | some k => exact .inr (TokenKind.keyword?_of_ofKeyword? found)

/-- A punctuation mark has a spelling. -/
theorem kind_punctuationLexeme {ch : Char} {cs : List Char}
    (is : (punctuationLexeme c ch cs).kind = .ok k) : k.punctuation?.isSome = true := by
  revert is
  unfold punctuationLexeme
  split
  · rename_i mark
    intro is
    obtain rfl := Except.ok.inj is
    obtain ⟨text, spelled, -⟩ := punctuation?_of_punctuator? mark
    exact Option.isSome_iff_exists.mpr ⟨text, spelled⟩
  · nofun

/-- Only the end of a text is read as its end. -/
theorem rest_of_lexeme_endOfFile (is : (lexeme c).kind = .ok .endOfFile) : c.rest = [] := by
  revert is
  unfold lexeme
  split
  · rename_i ended
    exact fun _ => ended
  · split
    · exact fun is => nomatch kind_stringRest is
    · split
      · exact fun is => (kind_templateRest is).elim nofun nofun
      · split
        · nofun
        · split
          · exact fun is => (kind_nameLexeme is).elim nofun nofun
          · exact fun is => nomatch kind_punctuationLexeme is

/-- A punctuation mark is no reserved word. -/
theorem isKeyword_of_punctuation? (spelled : k.punctuation?.isSome = true) :
    k.isKeyword = false := by
  cases k <;> first | rfl | cases spelled

/-- A reserved word has the value that it is spelled with. -/
theorem keyword?_of_lexeme (is : (lexeme c).kind = .ok k) (word : k.isKeyword = true) :
    k.keyword? = some (String.ofList (lexeme c).value) := by
  have never {k' : TokenKind} (same : k = k') (noWord : k'.isKeyword = false) {P : Prop} : P := by
    rw [same, noWord] at word
    cases word
  revert is
  unfold lexeme
  split
  · exact fun is => never (Except.ok.inj is).symm rfl
  · split
    · exact fun is => never (kind_stringRest is) rfl
    · split
      · exact fun is => (kind_templateRest is).elim (never · rfl) (never · rfl)
      · split
        · exact fun is => never (Except.ok.inj is).symm rfl
        · split
          · exact fun is => (kind_nameLexeme is).elim (never · rfl) id
          · exact fun is => never rfl (isKeyword_of_punctuation? (kind_punctuationLexeme is))

end Token

end Shapewire
