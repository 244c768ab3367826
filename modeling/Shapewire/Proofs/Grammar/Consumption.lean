/-
The tokens that are consumed between two places.

A way from place to place consumes tokens one after the other: the next one as it was scanned, or,
where that is a slash or a brace, as it is when read again.  `Consumes` lists them.  On the way
through a source every token covers at least one byte, lies between two characters of the source
and ends before the next one starts (`spread_of_consumes`).
-/
import Shapewire.Proofs.Token.Position

namespace Shapewire

/-- A token as the grammar sees it. -/
structure Terminal where
  kind : TokenKind
  /-- The cooked value. -/
  value : String
  span : Span
deriving DecidableEq, Repr

namespace Place

/-- The next token. -/
def terminal (x : Place) : Terminal := ⟨x.token, x.value, ⟨x.pos, x.scanner.tokenEnd⟩⟩

/-- The tokens consumed on a way from one place to another. -/
inductive Consumes : Place → List Terminal → Place → Prop where
  | none {x : Place} : Consumes x [] x
  | token {x y z : Place} {k : TokenKind} {ts : List Terminal} (mark : x.Takes k y)
    (rest : Consumes y ts z) : Consumes x (x.terminal :: ts) z
  /-- The next token is a slash that starts a regular expression. -/
  | regex {x y z : Place} {k : TokenKind} {ts : List Terminal}
    (slash : x.scanner.atSlash = true) (mark : x.asRegex.Takes k y) (rest : Consumes y ts z) :
    Consumes x (x.asRegex.terminal :: ts) z
  /-- The next token is a brace that ends the substitution of a template. -/
  | piece {x y z : Place} {k : TokenKind} {ts : List Terminal} (brace : x.token = .closeBrace)
    (mark : x.asTemplate.Takes k y) (rest : Consumes y ts z) :
    Consumes x (x.asTemplate.terminal :: ts) z

variable {x y z : Place} {k : TokenKind} {t : Terminal} {ts us : List Terminal}

theorem Consumes.append (h : x.Consumes ts y) (h' : y.Consumes us z) : x.Consumes (ts ++ us) z := by
  induction h with
  | none => exact h'
  | token mark _ ih => exact .token mark (ih h')
  | regex slash mark _ ih => exact .regex slash mark (ih h')
  | piece brace mark _ ih => exact .piece brace mark (ih h')

theorem pos_asRegex (x : Place) : x.asRegex.pos = x.pos := by
  rw [pos, asRegex, Scanner.tokenPos, Scanner.start_rescanSlash]
  rfl

theorem pos_asTemplate (x : Place) : x.asTemplate.pos = x.pos := by
  rw [pos, asTemplate, Scanner.tokenPos, Scanner.rescanTemplate, Scanner.start_accept]
  rfl

/-- The first token consumed starts where the way starts. -/
theorem Consumes.pos_eq (h : x.Consumes (t :: ts) y) : t.span.start = x.pos := by
  cases h with
  | token => rfl
  | regex => exact x.pos_asRegex
  | piece => exact x.pos_asTemplate

/-- The place where the way ends lies behind the last token consumed. -/
theorem Consumes.prevEnd_eq (h : x.Consumes ts y) :
    y.prevEnd = (ts.getLast?.map fun t => t.span.stop).getD x.prevEnd := by
  have step {u v w : Place} {k : TokenKind} {ts : List Terminal} {before : Nat}
      (mark : u.Takes k v)
      (rest : w.prevEnd = (ts.getLast?.map fun t => t.span.stop).getD v.prevEnd) :
      w.prevEnd = (((u.terminal :: ts).getLast?).map fun t => t.span.stop).getD before := by
    rw [rest, mark.next, List.getLast?_cons]
    cases ts.getLast? <;> rfl
  induction h with
  | none => rfl
  | token mark _ ih => exact step mark ih
  | regex _ mark _ ih => exact step mark ih
  | piece _ mark _ ih => exact step mark ih

/-! ### Where tokens lie -/

/-- A place of a source: its token lies in the source, and behind the token before it. -/
structure Sound (text : List Char) (x : Place) : Prop where
  scanner : x.scanner.Sound text
  before : x.prevEnd ≤ x.pos

theorem sound_start (text : List Char) : (start text).Sound text :=
  ⟨Scanner.sound_scan_ofText text, Nat.zero_le _⟩

end Place

/-- The tokens cover stretches of the text, one behind the other. -/
structure Spread (text : List Char) (ts : List Terminal) : Prop where
  /-- A token is not empty. -/
  forward : ∀ t ∈ ts, t.span.start < t.span.stop
  /-- A token starts and ends between two characters. -/
  within : ∀ t ∈ ts, ∃ c d : Cursor, (Cursor.ofText text).Reaches c ∧ c.Reaches d ∧
    t.span = ⟨c.offset, d.offset⟩
  /-- A token ends before the next one starts. -/
  apart : ts.Pairwise fun a b => a.span.stop ≤ b.span.start

namespace Place

variable {text : List Char} {x y : Place} {k : TokenKind} {ts : List Terminal}

theorem Sound.next (h : x.Sound text) : x.next.Sound text :=
  ⟨h.scanner.scan, x.scanner.reaches_start_scan.1.offset_le⟩

theorem Sound.asRegex (h : x.Sound text) (slash : x.scanner.atSlash = true) :
    x.asRegex.Sound text :=
  ⟨h.scanner.rescanSlash slash, by rw [pos_asRegex]; exact h.before⟩

theorem Sound.asTemplate (h : x.Sound text) (brace : x.token = .closeBrace) :
    x.asTemplate.Sound text :=
  ⟨h.scanner.rescanTemplate brace, by rw [pos_asTemplate]; exact h.before⟩

/-- On a way through a source tokens lie one behind the other, from the start of the way on. -/
theorem Consumes.spread (h : x.Consumes ts y) (sound : x.Sound text) :
    Spread text ts ∧ ∀ t ∈ ts, x.pos ≤ t.span.start := by
  have step {u v : Place} {k : TokenKind} {ts : List Terminal} (sound : u.Sound text)
      (mark : u.Takes k v) (rest : Spread text ts ∧ ∀ t ∈ ts, v.pos ≤ t.span.start) :
      Spread text (u.terminal :: ts) ∧ ∀ t ∈ u.terminal :: ts, u.pos ≤ t.span.start := by
    obtain ⟨spread, behind⟩ := rest
    have proper : u.token.isProper = true := by
      rw [mark.token]
      exact mark.proper
    have takes := sound.scanner.takes proper
    have forward : u.pos < u.scanner.tokenEnd := sound.scanner.here.offset_lt takes
    have gap : u.scanner.tokenEnd ≤ v.pos := by
      rw [mark.next]
      exact sound.next.before
    refine ⟨⟨?_, ?_, ?_⟩, ?_⟩
    · exact List.forall_mem_cons.mpr ⟨forward, spread.forward⟩
    · exact List.forall_mem_cons.mpr
        ⟨⟨_, _, sound.scanner.start, sound.scanner.here, rfl⟩, spread.within⟩
    · exact List.pairwise_cons.mpr ⟨fun t mem => Nat.le_trans gap (behind t mem), spread.apart⟩
    · refine List.forall_mem_cons.mpr ⟨Nat.le_refl _, fun t mem => ?_⟩
      have := behind t mem
      omega
  induction h with
  | none => exact ⟨⟨nofun, nofun, .nil⟩, nofun⟩
  | token mark _ ih => exact step sound mark (ih (mark.next ▸ sound.next))
  | regex slash mark _ ih =>
    have again := sound.asRegex slash
    have rest := step again mark (ih (mark.next ▸ again.next))
    rwa [pos_asRegex] at rest
  | piece brace mark _ ih =>
    have again := sound.asTemplate brace
    have rest := step again mark (ih (mark.next ▸ again.next))
    rwa [pos_asTemplate] at rest

end Place

end Shapewire
