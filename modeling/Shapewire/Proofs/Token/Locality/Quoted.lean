/-
Which string or piece of a template is read does not depend on what stands behind it.

Both end with a mark of their own, so it does not even matter whether what follows stands apart.
What is read is built from the end forward: the mark that ends it, and before that characters and
escapes, each with something of the same token behind it (`IsReread`).
-/
import Shapewire.Proofs.Token.Locality.Escape

namespace Shapewire

namespace Token

section quoted

variable {c : Cursor} {after : List Char}

/-! ### Escapes within a token -/

/-- An escape with text of the same token behind it is read again. -/
theorem exists_escape {cs passed behind : List Char} {r : Escape} (is : escapeSequence c = r)
    (sound : ∀ stop, r ≠ .invalid stop) (here : c.rest = '\\' :: cs) (nonempty : passed ≠ [])
    (split : r.stop.rest = passed ++ behind) : ∃ escape,
      c.rest = '\\' :: (escape ++ passed ++ behind) ∧
      ∀ c' after, c'.rest = '\\' :: (escape ++ passed ++ after) → ∃ stop,
        stop.rest = passed ++ after ∧ escapeSequence c' = r.movedTo stop := by
  have isLocal := Escape.isLocal_escapeSequence here (is ▸ sound)
  rw [is] at isLocal
  obtain ⟨escape, whole, again⟩ := isLocal
  rw [split] at whole again
  refine ⟨escape, by simpa using whole, ?_⟩
  intro c' after here'
  refine again c' (passed ++ after) (by simpa using here') ?_
  cases passed with
  | nil => exact absurd rfl nonempty
  | cons => rfl

/-- What `read` gives from `c` on takes some characters there, and wherever the same characters
stand again it gives the same.  The offset of the token's opening mark is told in faults only. -/
def IsReread (read : Nat → Cursor → Lexeme) (c : Cursor) (l : Lexeme) : Prop :=
  ∃ passed, passed ≠ [] ∧ c.rest = passed ++ l.stop.rest ∧
    ∀ opening c' after, c'.rest = passed ++ after →
      ∃ stop, stop.rest = after ∧ read opening c' = { l with stop }

/-- Reading goes on behind an escape with what the escape stands for in front of the value. -/
def TakesEscapes (read : Nat → Cursor → Lexeme) : Prop :=
  ∀ opening (c : Cursor) cs, c.rest = '\\' :: cs → read opening c =
    match escapeSequence c with
    | .char cooked stop => (read opening stop).cons cooked
    | .join stop => read opening stop
    | .invalid stop => .fault (.invalidEscape c.offset) stop

section escapes

variable {read : Nat → Cursor → Lexeme} {cs : List Char} {stop : Cursor} {l : Lexeme}

theorem IsReread.char {e : Char} (rest : IsReread read stop l) (takes : TakesEscapes read)
    (escape : escapeSequence c = .char e stop) (here : c.rest = '\\' :: cs) :
    IsReread read c (l.cons e) := by
  obtain ⟨passed, nonempty, split, again⟩ := rest
  obtain ⟨text, whole, escapeAgain⟩ := exists_escape escape nofun here nonempty split
  refine ⟨'\\' :: (text ++ passed), by simp, whole, ?_⟩
  intro opening c' after here'
  obtain ⟨mid, behind, escape'⟩ := escapeAgain c' after here'
  obtain ⟨stop', behind', read'⟩ := again opening mid after behind
  refine ⟨stop', behind', ?_⟩
  rw [takes opening c' _ here', escape', Escape.movedTo]
  dsimp only
  rw [read']
  rfl

theorem IsReread.join (rest : IsReread read stop l) (takes : TakesEscapes read)
    (escape : escapeSequence c = .join stop) (here : c.rest = '\\' :: cs) :
    IsReread read c l := by
  obtain ⟨passed, nonempty, split, again⟩ := rest
  obtain ⟨text, whole, escapeAgain⟩ := exists_escape escape nofun here nonempty split
  refine ⟨'\\' :: (text ++ passed), by simp, whole, ?_⟩
  intro opening c' after here'
  obtain ⟨mid, behind, escape'⟩ := escapeAgain c' after here'
  obtain ⟨stop', behind', read'⟩ := again opening mid after behind
  refine ⟨stop', behind', ?_⟩
  rw [takes opening c' _ here', escape', Escape.movedTo]
  exact read'

/-- A mark that ends the token. -/
theorem IsReread.mark {k : TokenKind} (mark : List Char) (nonempty : mark ≠ [])
    (here : c.rest = mark ++ cs)
    (ends : ∀ opening {c : Cursor} {cs}, c.rest = mark ++ cs →
      read opening c = .mark k (c.skip mark.length)) :
    IsReread read c (.mark k (c.skip mark.length)) := by
  have behind {c : Cursor} {cs : List Char} (here : c.rest = mark ++ cs) :
      (c.skip mark.length).rest = cs := by
    rw [Cursor.rest_skip, here, List.drop_left]
  refine ⟨mark, nonempty, ?_, ?_⟩
  · rw [Lexeme.stop_mark, behind here, here]
  · exact fun opening c' after here' => ⟨_, behind here', ends opening here'⟩

/-- A character in front of the rest of the token, where the one behind it is part of the token. -/
theorem IsReread.raw {ch : Char} (isBreak : Bool) (rest : IsReread read c.next l)
    (here : c.rest = ch :: cs)
    (takes : ∀ opening {c' : Cursor} {cs'}, c'.rest = ch :: cs' → cs'.head? = cs.head? →
      read opening c' = ((read opening c'.next).cons ch).noteBreak isBreak) :
    IsReread read c ((l.cons ch).noteBreak isBreak) := by
  obtain ⟨passed, nonempty, split, again⟩ := rest
  rw [Cursor.rest_next here] at split
  refine ⟨ch :: passed, by simp, ?_, ?_⟩
  · rw [here, split]
    rfl
  · intro opening c' after here'
    obtain ⟨stop, behind, same⟩ := again opening c'.next after (Cursor.rest_next here')
    refine ⟨stop, behind, ?_⟩
    rw [takes opening here', same]
    · rfl
    · cases passed with
      | nil => exact absurd rfl nonempty
      | cons => rw [split]; rfl

end escapes

/-! ### Strings -/

theorem stringRest_eq {quote ch : Char} {opening : Nat} {cs : List Char}
    (here : c.rest = ch :: cs) : stringRest quote opening c =
      if ch = quote then .mark .stringLiteral c.next
      else if Text.isLineBreak ch then .fault (.unterminatedString opening) c
      else if ch = '\\' then
        match escapeSequence c with
        | .char cooked stop => (stringRest quote opening stop).cons cooked
        | .join stop => stringRest quote opening stop
        | .invalid stop => .fault (.invalidEscape c.offset) stop
      else (stringRest quote opening c.next).cons ch := by
  rw [stringRest]
  split
  · simp_all
  · rename_i here'
    obtain ⟨rfl, rfl⟩ := List.cons.inj (here.symm.trans here')
    cases escapeSequence c <;> rfl

theorem takesEscapes_stringRest {quote : Char} (noEscape : quote ≠ '\\') :
    TakesEscapes (stringRest quote) := by
  intro opening c cs here
  rw [stringRest_eq here, if_neg noEscape.symm, if_neg (by decide), if_pos rfl]

/-- The rest of a string is read again, whatever comes behind its closing mark. -/
theorem local_stringRest {quote : Char} {opening : Nat} {k : TokenKind}
    (noEscape : quote ≠ '\\') (is : (stringRest quote opening c).kind = .ok k) :
    IsReread (stringRest quote) c (stringRest quote opening c) := by
  have takes := takesEscapes_stringRest noEscape
  fun_induction stringRest quote opening c with
  | case1 | case3 | case6 => cases is
  | case2 c cs here =>
    refine .mark [quote] (List.cons_ne_nil _ _) here fun opening c cs here => ?_
    rw [stringRest_eq here, if_pos rfl]
    rfl
  | case4 c cs e stop escape here _ _ ih => exact (ih is).char takes escape here
  | case5 c cs stop escape here _ _ ih => exact (ih is).join takes escape here
  | case7 c ch cs here noQuote noBreak plain ih =>
    refine (ih is).raw false here fun opening c' cs' here' _ => ?_
    rw [stringRest_eq here', if_neg noQuote, if_neg noBreak, if_neg plain]
    rfl

/-! ### Templates -/

theorem templateRest_eq {piece : TemplatePiece} {ch : Char} {opening : Nat} {cs : List Char}
    (here : c.rest = ch :: cs) :
    templateRest piece opening c =
      if ch = '\x60' then .mark piece.closed c.next
      else if ch = '$' ∧ cs.head? = some '\x7b' then .mark piece.broken (c.skip 2)
      else if ch = '\\' then
        match escapeSequence c with
        | .char cooked stop => (templateRest piece opening stop).cons cooked
        | .join stop => templateRest piece opening stop
        | .invalid stop => .fault (.invalidEscape c.offset) stop
      else ((templateRest piece opening c.next).cons ch).noteBreak (Text.isLineBreak ch) := by
  rw [templateRest]
  split
  · simp_all
  · rename_i here'
    obtain ⟨rfl, rfl⟩ := List.cons.inj (here.symm.trans here')
    cases escapeSequence c <;> rfl

theorem takesEscapes_templateRest (piece : TemplatePiece) : TakesEscapes (templateRest piece) := by
  intro opening c cs here
  rw [templateRest_eq here, if_neg (by decide), if_neg (by simp), if_pos rfl]

/-- The rest of a piece of a template is read again, whatever comes behind the mark that ends it. -/
theorem local_templateRest {piece : TemplatePiece} {opening : Nat} {k : TokenKind}
    (is : (templateRest piece opening c).kind = .ok k) :
    IsReread (templateRest piece) c (templateRest piece opening c) := by
  have takes := takesEscapes_templateRest piece
  fun_induction templateRest piece opening c with
  | case1 | case6 => cases is
  | case2 c cs here =>
    refine .mark ['\x60'] (List.cons_ne_nil _ _) here fun opening c cs here => ?_
    rw [templateRest_eq here, if_pos rfl]
    rfl
  | case3 c ch cs here noTick broken =>
    obtain ⟨rfl, second⟩ := broken
    obtain ⟨cs, rfl⟩ := List.head?_eq_some_iff.mp second
    refine .mark ['$', '\x7b'] (List.cons_ne_nil _ _) here fun opening c cs here => ?_
    rw [templateRest_eq here, if_neg noTick, if_pos ⟨rfl, rfl⟩]
    rfl
  | case4 c cs e stop escape here _ _ ih => exact (ih is).char takes escape here
  | case5 c cs stop escape here _ _ ih => exact (ih is).join takes escape here
  | case7 c ch cs here noTick notBroken noEscape ih =>
    refine (ih is).raw _ here fun opening c' cs' here' head => ?_
    rw [templateRest_eq here', if_neg noTick, head, if_neg notBroken, if_neg noEscape]

end quoted

end Token

end Shapewire
