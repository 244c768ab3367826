/-
Where the fault of a token lies.

A token that cannot be read is reported at a place of its own: where it starts, or at the backslash
of a malformed escape within it.  `Between` is what that means, and the lemmas follow the
definitions of the lexemes.  No lexeme is the unknown token by itself, so a token is unknown only
because of a fault.
-/
import Shapewire.Proofs.Token.Position
import Shapewire.Proofs.Token.Lexeme

namespace Shapewire

/-- The offset of a place from `c` on that is not behind `d`. -/
def Cursor.Between (c d : Cursor) (pos : Nat) : Prop :=
  ∃ e, c.Reaches e ∧ e.Reaches d ∧ pos = e.offset

namespace Cursor.Between

variable {b c d : Cursor} {pos : Nat}

/-- The first place is one of them. -/
theorem first (h : c.Reaches d) : c.Between d c.offset := ⟨c, .refl c, h, rfl⟩

/-- What lies behind a later place lies behind an earlier one. -/
theorem back (h : b.Reaches c) (between : c.Between d pos) : b.Between d pos := by
  obtain ⟨e, behind, before, same⟩ := between
  exact ⟨e, h.trans behind, before, same⟩

theorem offset_le (between : c.Between d pos) : c.offset ≤ pos ∧ pos ≤ d.offset := by
  obtain ⟨e, behind, before, rfl⟩ := between
  exact ⟨behind.offset_le, before.offset_le⟩

end Cursor.Between

namespace Token

/-- The fault of a lexeme read from `c` on lies where the lexeme does. -/
def FaultsWithin (c : Cursor) (l : Lexeme) : Prop :=
  ∀ e, l.kind = .error e → c.Between l.stop e.pos

variable {c start : Cursor}

theorem between_nameRun {pos : Nat} (fault : (nameRun c).fault? = some pos) :
    c.Between (nameRun c).stop pos := by
  have escape {c : Cursor} {e : Escape} (read : unicodeEscape (c.skip 2) = e) :
      c.Reaches e.stop :=
    read ▸ (Cursor.reaches_skip 2 c).trans (reaches_unicodeEscape _)
  fun_induction nameRun c with
  | case1 | case7 => cases fault
  | case2 c _ _ _ _ _ ih => exact (ih fault).back (Cursor.reaches_next c)
  | case3 c _ _ _ _ _ e stop read _ _ ih => exact (ih fault).back (escape read)
  | case4 c _ _ _ _ _ _ _ read | case5 c _ _ _ _ _ _ read | case6 c _ _ _ _ _ _ read =>
    obtain rfl := Option.some.inj fault
    exact .first (escape read)

theorem faultsWithin_nameLexeme (c : Cursor) : FaultsWithin c (nameLexeme c) := by
  unfold nameLexeme
  dsimp only
  split
  · rename_i pos fault
    intro e is
    obtain rfl := Except.error.inj is
    exact between_nameRun fault
  · split
    · intro e is
      obtain rfl := Except.error.inj is
      exact .first (reaches_nameRun c)
    · nofun

/-- A string without end is reported where it starts, a malformed escape where it is. -/
theorem faultsWithin_stringRest {quote : Char} (reaches : start.Reaches c) :
    FaultsWithin start (stringRest quote start.offset c) := by
  have escape {c : Cursor} {e : Escape} (read : escapeSequence c = e) : c.Reaches e.stop :=
    read ▸ (Cursor.reaches_next c).trans (reaches_escapeSequence c)
  fun_induction stringRest quote start.offset c with
  | case1 | case3 =>
    intro e is
    obtain rfl := Except.error.inj is
    exact .first reaches
  | case2 =>
    intro e is
    cases is
  | case4 _ _ _ _ read _ _ _ ih | case5 _ _ _ read _ _ _ ih =>
    exact ih (reaches.trans (escape read))
  | case6 _ _ _ read =>
    intro e is
    obtain rfl := Except.error.inj is
    exact (Cursor.Between.first (escape read)).back reaches
  | case7 _ _ _ _ _ _ _ ih => exact ih (reaches.trans (Cursor.reaches_next _))

/-- A piece of a template likewise. -/
theorem faultsWithin_templateRest {piece : TemplatePiece} (reaches : start.Reaches c) :
    FaultsWithin start (templateRest piece start.offset c) := by
  have escape {c : Cursor} {e : Escape} (read : escapeSequence c = e) : c.Reaches e.stop :=
    read ▸ (Cursor.reaches_next c).trans (reaches_escapeSequence c)
  fun_induction templateRest piece start.offset c with
  | case1 =>
    intro e is
    obtain rfl := Except.error.inj is
    exact .first reaches
  | case2 | case3 =>
    intro e is
    cases is
  | case4 _ _ _ _ read _ _ _ ih | case5 _ _ _ read _ _ _ ih =>
    exact ih (reaches.trans (escape read))
  | case6 _ _ _ read =>
    intro e is
    obtain rfl := Except.error.inj is
    exact (Cursor.Between.first (escape read)).back reaches
  | case7 _ _ _ _ _ _ _ ih => exact ih (reaches.trans (Cursor.reaches_next _))

/-- A character that starts no token is reported where it is. -/
theorem faultsWithin_punctuationLexeme (c : Cursor) (ch : Char) (cs : List Char) :
    FaultsWithin c (punctuationLexeme c ch cs) := by
  unfold punctuationLexeme
  split
  · nofun
  · intro e is
    obtain rfl := Except.error.inj is
    exact .first (Cursor.reaches_next c)

theorem faultsWithin_lexeme (c : Cursor) : FaultsWithin c (lexeme c) := by
  unfold lexeme
  split
  · nofun
  · split
    · exact faultsWithin_stringRest (Cursor.reaches_next c)
    · split
      · exact faultsWithin_templateRest (Cursor.reaches_next c)
      · split
        · nofun
        · split
          · exact faultsWithin_nameLexeme c
          · exact faultsWithin_punctuationLexeme c _ _

/-- No token is read as the unknown one. -/
theorem kind_lexeme_ne_unknown (c : Cursor) : (lexeme c).kind ≠ .ok .unknown := by
  unfold lexeme
  split
  · nofun
  · split
    · exact fun is => nomatch kind_stringRest is
    · split
      · exact fun is => (kind_templateRest is).elim nofun nofun
      · split
        · nofun
        · split
          · exact fun is => (kind_nameLexeme is).elim nofun nofun
          · exact fun is => nomatch kind_punctuationLexeme is

end Token

namespace Scanner

open Token

/-- An unknown token has a fault, which lies where the token does. -/
def Explained (s : Scanner) : Prop :=
  s.token = .unknown → ∃ e, s.error? = some e ∧ s.start.Between s.here e.pos

/-- A lexeme whose fault lies within it leaves an explained token. -/
theorem explained_accept {s : Scanner} {l : Lexeme} (known : l.kind ≠ .ok .unknown)
    (within : FaultsWithin s.start l) : (s.accept l).Explained := by
  unfold accept
  dsimp only
  split
  · rename_i k is
    rintro rfl
    exact absurd is known
  · rename_i e is
    exact fun _ => ⟨e, rfl, within e is⟩

theorem explained_scan (s : Scanner) : s.scan.Explained := by
  have trivia := reaches_start_skipTrivia s.here false
  unfold scan
  split
  · rename_i start _ _
    exact explained_accept (kind_lexeme_ne_unknown start) (faultsWithin_lexeme start)
  · rename_i start stop _ unclosed
    rw [unclosed] at trivia
    exact fun _ => ⟨_, rfl, .first trivia.2⟩

theorem explained_rescanTemplate (s : Scanner) : s.rescanTemplate.Explained :=
  explained_accept (fun is => (kind_templateRest is).elim nofun nofun)
    (faultsWithin_templateRest (Cursor.reaches_next s.start))

theorem explained_rescanSlash {s : Scanner} (slash : s.atSlash = true) :
    s.rescanSlash.Explained := by
  have body : s.start.Reaches (regexBody s.start.next.offset false s.start.next.rest).2 :=
    (Cursor.reaches_next _).trans (reaches_regexBody _ _ _)
  unfold rescanSlash
  rw [if_pos slash]
  dsimp only
  split
  · nofun
  · rename_i stop read
    rw [read] at body
    exact fun _ => ⟨_, rfl, .first body⟩

end Scanner

end Shapewire
