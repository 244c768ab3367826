/-
Where a regular expression ends.

A slash closes a regular expression unless it is escaped, lies within a class, or stands on a later
line.  All of that is a matter of the text before it: the number of backslashes right before it
(`EscapesNext`), and the last bracket that is not escaped (`InClass`).  Reading goes on a character
at a time and keeps only whether a class is open.  That this is the same is the invariant `Reading`,
which says besides that no slash was passed that would have closed.  So reading stops at the first
slash that closes, if there is one (`regexBody_reads`).

That the body is not empty is no matter of what reading does.  Two slashes start a comment, so a
slash that is a token has no other behind it (`Scanner.Opens`), in whatever way the scanner came
upon the token (`Session.of_run?`).
-/
import Shapewire.Proofs.Token.Session
import Shapewire.Proofs.Token.Spacing

namespace Shapewire

namespace Token

/-! ### Escapes and classes -/

/-- The text ends with an odd number of backslashes, so what comes next is escaped. -/
def EscapesNext (before : List Char) : Prop :=
  (before.reverse.takeWhile (· == '\\')).length % 2 = 1

/-- A class is open behind the text: a bracket that is not escaped opens it, and none that is not
escaped closes it. -/
def InClass (before : List Char) : Prop :=
  ∃ outer inner, before = outer ++ '[' :: inner ∧ ¬EscapesNext outer ∧
    ∀ within behind, inner = within ++ ']' :: behind → EscapesNext (outer ++ '[' :: within)

/-- A slash in the text closes the regular expression whose body stands before it. -/
structure Closes (text body after : List Char) : Prop where
  split : text = body ++ '/' :: after
  unescaped : ¬EscapesNext body
  outside : ¬InClass body
  oneLine : ∀ ch ∈ body, Text.isLineBreak ch = false

/-- No other slash before it does. -/
def ClosesFirst (text body after : List Char) : Prop :=
  Closes text body after ∧ ∀ body' after', Closes text body' after' → body.length ≤ body'.length

section steps

variable {before : List Char} {ch : Char}

theorem not_escapesNext_nil : ¬EscapesNext [] := by simp [EscapesNext]

/-- A backslash escapes what comes next unless it is escaped itself. -/
theorem escapesNext_concat :
    EscapesNext (before ++ [ch]) ↔ ch = '\\' ∧ ¬EscapesNext before := by
  by_cases backslash : ch = '\\'
  · simp [EscapesNext, backslash]
    omega
  · simp [EscapesNext, backslash]

theorem not_inClass_nil : ¬InClass [] := by
  rintro ⟨outer, inner, split, -⟩
  simp at split

/-- A class is open if it is opened by the last character, or was open and is not closed by it. -/
theorem inClass_concat : InClass (before ++ [ch]) ↔
    (ch = '[' ∧ ¬EscapesNext before) ∨ (InClass before ∧ (ch = ']' → EscapesNext before)) := by
  constructor
  · rintro ⟨outer, inner, split, unescaped, closed⟩
    rcases inner.eq_nil_or_concat with rfl | ⟨inner, last, rfl⟩
    · obtain ⟨rfl, same⟩ := List.append_inj' split rfl
      cases same
      exact .inl ⟨rfl, unescaped⟩
    · rw [List.concat_eq_append] at split closed
      rw [← List.cons_append, ← List.append_assoc] at split
      obtain ⟨rfl, same⟩ := List.append_inj' split rfl
      cases same
      refine .inr ⟨⟨outer, inner, rfl, unescaped, ?_⟩, ?_⟩
      · rintro within behind rfl
        exact closed within (behind ++ [ch]) (by simp)
      · rintro rfl
        exact closed inner [] rfl
  · rintro (⟨rfl, unescaped⟩ | ⟨⟨outer, inner, rfl, unescaped, closed⟩, last⟩)
    · exact ⟨before, [], rfl, unescaped, by simp⟩
    · refine ⟨outer, inner ++ [ch], by simp, unescaped, ?_⟩
      intro within behind split
      rcases behind.eq_nil_or_concat with rfl | ⟨behind, ch', rfl⟩
      · obtain ⟨rfl, same⟩ := List.append_inj' split rfl
        exact last (List.cons.inj same).1
      · rw [List.concat_eq_append, ← List.cons_append, ← List.append_assoc] at split
        exact closed within behind (List.append_inj' split rfl).1

end steps

/-! ### Reading -/

section reading

variable {full done cs body after : List Char} {ch : Char} {inClass : Bool}

/-- None of the slashes that were passed closes. -/
def Ahead (full done : List Char) : Prop :=
  ∀ body after, Closes full body after → done.length ≤ body.length

theorem Ahead.exists_rest (ahead : Ahead full done) (split : full = done ++ cs)
    (closes : Closes full body after) : ∃ rest, body = done ++ rest ∧ cs = rest ++ '/' :: after := by
  have whole := split.symm.trans closes.split
  rcases List.append_eq_append_iff.mp whole with ⟨rest, eq, eq'⟩ | ⟨rest, eq, eq'⟩
  · exact ⟨rest, eq, eq'⟩
  · have length := ahead body after closes
    rw [eq, List.length_append] at length
    obtain rfl : rest = [] := List.length_eq_zero_iff.mp (by omega)
    exact ⟨[], by simpa using eq.symm, eq'.symm⟩

/-- What was read gets longer by a character that does not close. -/
theorem Ahead.concat (ahead : Ahead full done) (split : full = done ++ ch :: cs)
    (passes : ch = '/' → EscapesNext done ∨ InClass done) : Ahead full (done ++ [ch]) := by
  intro body after closes
  obtain ⟨rest, rfl, behind⟩ := ahead.exists_rest split closes
  cases rest with
  | nil =>
    obtain ⟨slash, -⟩ := List.cons.inj behind
    rw [List.append_nil] at closes
    rcases passes slash with escaped | inside
    · exact absurd escaped closes.unescaped
    · exact absurd inside closes.outside
  | cons => simp

theorem Ahead.backslash (ahead : Ahead full done) (split : full = done ++ '\\' :: cs) :
    Ahead full (done ++ ['\\']) :=
  ahead.concat split fun slash => absurd slash (by decide)

/-- Nothing closes behind the end of a line. -/
theorem Ahead.not_closes (ahead : Ahead full done) (split : full = done ++ ch :: cs)
    (ends : Text.isLineBreak ch = true) : ¬Closes full body after := by
  intro closes
  obtain ⟨rest, rfl, behind⟩ := ahead.exists_rest split closes
  cases rest with
  | nil =>
    obtain ⟨rfl, -⟩ := List.cons.inj behind
    cases ends
  | cons ch' rest =>
    obtain ⟨rfl, -⟩ := List.cons.inj behind
    cases ends.symm.trans (closes.oneLine ch (by simp))

/-- Nothing closes behind the end of the text. -/
theorem Ahead.not_closes_of_end (ahead : Ahead full done) (split : full = done) :
    ¬Closes full body after := by
  intro closes
  have whole : full = done ++ [] := by simpa using split
  obtain ⟨rest, -, behind⟩ := ahead.exists_rest whole closes
  simp at behind

/-- Reading has come behind `done`, with `cs` still to be read. -/
structure Reading (full done cs : List Char) (inClass : Bool) : Prop where
  split : full = done ++ cs
  unescaped : ¬EscapesNext done
  inClass_iff : inClass = true ↔ InClass done
  oneLine : ∀ ch ∈ done, Text.isLineBreak ch = false
  ahead : Ahead full done

theorem reading_start (full : List Char) : Reading full [] full false where
  split := rfl
  unescaped := not_escapesNext_nil
  inClass_iff := iff_of_false nofun not_inClass_nil
  oneLine := nofun
  ahead := fun _ _ _ => Nat.zero_le _

/-- A character that is no backslash and does not close is passed. -/
theorem Reading.next (h : Reading full done (ch :: cs) inClass)
    (noBreak : Text.isLineBreak ch = false) (noBackslash : ch ≠ '\\')
    (passes : ch = '/' → inClass = true) {inClass' : Bool}
    (changes : inClass' = true ↔ ch = '[' ∨ (inClass = true ∧ ch ≠ ']')) :
    Reading full (done ++ [ch]) cs inClass' where
  split := by simpa using h.split
  unescaped := fun escapes => noBackslash (escapesNext_concat.mp escapes).1
  inClass_iff := by
    rw [changes, inClass_concat, h.inClass_iff]
    simp [h.unescaped]
  oneLine := List.forall_mem_append.mpr ⟨h.oneLine, List.forall_mem_singleton.mpr noBreak⟩
  ahead := h.ahead.concat h.split fun slash => .inr (h.inClass_iff.mp (passes slash))

/-- A backslash is passed together with the character that it escapes. -/
theorem Reading.escaped (h : Reading full done ('\\' :: ch :: cs) inClass)
    (noBreak : Text.isLineBreak ch = false) : Reading full (done ++ ['\\', ch]) cs inClass := by
  have escapes : EscapesNext (done ++ ['\\']) := escapesNext_concat.mpr ⟨rfl, h.unescaped⟩
  have ahead : Ahead full (done ++ ['\\']) := h.ahead.backslash h.split
  have split : full = (done ++ ['\\']) ++ ch :: cs := by simpa using h.split
  have both : done ++ ['\\', ch] = done ++ ['\\'] ++ [ch] := by simp
  refine ⟨by simpa using h.split, ?_, ?_, ?_, ?_⟩
  · rw [both, escapesNext_concat]
    exact fun again => again.2 escapes
  · rw [both, inClass_concat, inClass_concat, h.inClass_iff]
    simp [escapes]
  · refine List.forall_mem_append.mpr ⟨h.oneLine, List.forall_mem_cons.mpr ⟨rfl, ?_⟩⟩
    exact List.forall_mem_singleton.mpr noBreak
  · rw [both]
    exact ahead.concat split fun _ => .inl escapes

/-- **Reading the body of a regular expression stops behind the first slash that closes it**, and
fails if there is none. -/
theorem regexBody_reads (offset : Nat) (h : Reading full done cs inClass) :
    match regexBody offset inClass cs with
    | (true, stop) => ∃ body, ClosesFirst full body stop.rest
    | (false, _) => ∀ body after, ¬Closes full body after := by
  fun_induction regexBody offset inClass cs generalizing done with
  | case1 => exact fun _ _ => h.ahead.not_closes_of_end (by simpa using h.split)
  | case2 _ _ ch cs ends => exact fun _ _ => h.ahead.not_closes h.split ends
  | case3 => exact fun _ _ => (h.ahead.backslash h.split).not_closes_of_end h.split
  | case4 _ _ escaped cs ends =>
    have ahead : Ahead full (done ++ ['\\']) := h.ahead.backslash h.split
    exact fun _ _ => ahead.not_closes (by simpa using h.split) ends
  | case5 _ _ escaped cs noBreak _ ih => exact ih (h.escaped (by simpa using noBreak))
  | case6 _ _ cs _ _ ih => exact ih (h.next rfl (by decide) (by simp) (by simp))
  | case7 _ _ cs _ _ _ ih => exact ih (h.next rfl (by decide) (by simp) (by simp))
  | case8 _ _ ch cs _ _ _ _ closes =>
    obtain ⟨rfl, rfl⟩ := closes
    refine ⟨done, ⟨h.split, h.unescaped, ?_, h.oneLine⟩, h.ahead⟩
    rw [← h.inClass_iff]
    exact Bool.false_ne_true
  | case9 _ inClass ch cs noBreak noBackslash noOpen noClose goesOn ih =>
    refine ih (h.next (by simpa using noBreak) noBackslash ?_ ?_)
    · rintro rfl
      by_contra outside
      exact goesOn ⟨rfl, by simpa using outside⟩
    · simp [noOpen, noClose]

/-- There is no more than one slash that closes first. -/
theorem ClosesFirst.unique {body' after' : List Char} (h : ClosesFirst full body after)
    (h' : ClosesFirst full body' after') : body' = body ∧ after' = after := by
  have same : body'.length = body.length :=
    Nat.le_antisymm (h'.2 _ _ h.1) (h.2 _ _ h'.1)
  obtain ⟨rfl, rest⟩ := List.append_inj (h'.1.split.symm.trans h.1.split) same
  exact ⟨rfl, (List.cons.inj rest).2⟩

end reading

/-- A punctuation mark stands where it is read. -/
theorem exists_spelling_of_lexeme {c : Cursor} {k : TokenKind} (is : (lexeme c).kind = .ok k)
    (mark : k.punctuation?.isSome = true) :
    ∃ passed after, k.punctuation? = some (String.ofList passed) ∧ c.rest = passed ++ after := by
  have never {k' : TokenKind} (same : k = k') (noMark : k'.punctuation? = none) {P : Prop} : P := by
    rw [same, noMark] at mark
    cases mark
  revert is
  unfold lexeme
  split
  · exact fun is => never (Except.ok.inj is).symm rfl
  · rename_i ch cs here
    split
    · exact fun is => never (kind_stringRest is) rfl
    · split
      · exact fun is => (kind_templateRest is).elim (never · rfl) (never · rfl)
      · split
        · exact fun is => never (Except.ok.inj is).symm rfl
        · split
          · intro is
            rcases kind_nameLexeme is with same | word
            · exact never same rfl
            · have noWord : k.keyword? = none := by cases k <;> first | rfl | cases mark
              cases noWord.symm.trans word
          · intro is
            unfold punctuationLexeme at is
            split at is
            · rename_i found
              obtain rfl := Except.ok.inj is
              obtain ⟨tail, after, spelled, rfl, -⟩ := spelling_of_punctuator? found
              exact ⟨ch :: tail, after, spelled, here⟩
            · cases is

end Token

namespace Scanner

open Token

/-! ### Slashes that are tokens -/

/-- A slash at which a regular expression may start stands there, and starts no comment. -/
def Opens (s : Scanner) : Prop :=
  s.atSlash = true → ∃ text, s.start.rest = '/' :: text ∧ text.head? ≠ some '/'

theorem atSlash_iff {s : Scanner} :
    s.atSlash = true ↔ s.token = .slash ∨ s.token = .slashAssign := by
  simp [atSlash]

theorem opens_scan (s : Scanner) : s.scan.Opens := by
  intro slash
  have token := atSlash_iff.mp slash
  have proper : s.scan.isDone = false := by
    rcases token with is | is <;> rw [isDone, is] <;> rfl
  have found : s.scan.token ≠ .unknown := by
    rcases token with is | is <;> simp [is]
  obtain ⟨is, -, -⟩ := lexeme_of_scan proper
  obtain ⟨passed, after, spelled, here⟩ := exists_spelling_of_lexeme is
    (by rcases token with is | is <;> rw [is] <;> rfl)
  obtain ⟨tail, rfl⟩ : ∃ tail, passed = '/' :: tail := by
    rw [← String.toList_ofList (l := passed)]
    rcases token with is | is <;> rw [is] at spelled <;> rw [← Option.some.inj spelled]
    · exact ⟨[], rfl⟩
    · exact ⟨['='], rfl⟩
  refine ⟨tail ++ after, here, ?_⟩
  intro second
  have apart := startsTrivia_scan found
  rw [here, List.cons_append] at apart
  simp [startsTrivia, second] at apart

/-- What is read again is no slash. -/
theorem opens_of_token {s : Scanner} (other : s.atSlash = false) : s.Opens := by
  intro slash
  cases other.symm.trans slash

theorem opens_rescanTemplate (s : Scanner) : s.rescanTemplate.Opens := by
  refine opens_of_token ?_
  unfold rescanTemplate accept
  dsimp only
  split
  · rename_i k is
    rcases kind_templateRest is with rfl | rfl <;> rfl
  · rfl

theorem Opens.rescanSlash {s : Scanner} (h : s.Opens) : s.rescanSlash.Opens := by
  cases slash : s.atSlash with
  | false => rwa [rescanSlash_of_not_atSlash slash]
  | true =>
    refine opens_of_token ?_
    unfold Scanner.rescanSlash
    rw [if_pos slash]
    dsimp only
    split <;> rfl

namespace Session

variable {P : Scanner → Prop} {t t' : Session}

/-- The scanner has a property, and every snapshot was taken of one that has it. -/
structure Keeps (P : Scanner → Prop) (t : Session) : Prop where
  scanner : t.scanner.Standing t.text ∧ P t.scanner
  taken : ∀ shot ∈ t.taken, ∃ s : Scanner, (s.Standing t.text ∧ P s) ∧ shot = s.snapshot

section keeps

variable (scan : ∀ s : Scanner, P s → P s.scan)
  (slash : ∀ s : Scanner, P s → P s.rescanSlash)
  (template : ∀ s : Scanner, s.token = .closeBrace → P s → P s.rescanTemplate)

include scan slash template

/-- What reading and reading again keep, every command keeps. -/
theorem Keeps.perform? (h : t.Keeps P) {command : Command} (allowed : t.Allows command)
    (performed : t.perform? command = some t') : t'.Keeps P := by
  obtain ⟨⟨standing, has⟩, taken⟩ := h
  cases command with
  | scan =>
    cases performed
    exact ⟨⟨standing.scan, scan _ has⟩, taken⟩
  | rescanSlash =>
    cases performed
    exact ⟨⟨standing.rescanSlash, slash _ has⟩, taken⟩
  | rescanTemplate =>
    cases performed
    exact ⟨⟨standing.rescanTemplate allowed, template _ allowed has⟩, taken⟩
  | save =>
    cases performed
    refine ⟨⟨standing, has⟩, List.forall_mem_append.mpr ⟨taken, ?_⟩⟩
    exact List.forall_mem_singleton.mpr ⟨_, ⟨standing, has⟩, rfl⟩
  | restore index =>
    have within : index < t.taken.length := allowed
    obtain ⟨s, ⟨standing', has'⟩, is⟩ := taken _ (List.getElem_mem within)
    have restored := perform?_restore standing' (by rw [List.getElem?_eq_getElem within, is])
    obtain rfl := Option.some.inj (restored.symm.trans performed)
    exact ⟨⟨standing', has'⟩, taken⟩

theorem Keeps.run? {commands : List Command} (h : t.Keeps P) (run : t.run? commands = some t') :
    t'.Keeps P := by
  induction commands generalizing t with
  | nil =>
    cases run
    exact h
  | cons command commands ih =>
    obtain ⟨allowed, u, performed, run⟩ := run?_cons_eq_some run
    exact ih (h.perform? scan slash template allowed performed) run

/-- **What holds before the first token and is kept by reading and by reading again holds wherever a
session comes to.** -/
theorem of_run? {text : List Char} {commands : List Command} (first : P (.ofText text))
    (run : (ofText text).run? commands = some t) : P t.scanner := by
  have start : (ofText text).Keeps P :=
    ⟨⟨standing_ofText text, first⟩, fun _ taken => absurd taken List.not_mem_nil⟩
  exact (start.run? scan slash template run).scanner.2

/-- What any first token has, and reading and reading again keep, holds wherever a session comes to
that has read a token. -/
theorem of_run?_scan {text : List Char} {commands : List Command}
    (first : P (Scanner.ofText text).scan)
    (run : (ofText text).run? (.scan :: commands) = some t) : P t.scanner := by
  obtain ⟨-, u, performed, run⟩ := run?_cons_eq_some run
  cases performed
  have start : Keeps P { ofText text with scanner := (Scanner.ofText text).scan } :=
    ⟨⟨(standing_ofText text).scan, first⟩, fun _ taken => absurd taken List.not_mem_nil⟩
  exact (start.run? scan slash template run).scanner.2

end keeps

end Session

/-! ### Reading a slash again -/

/-- Reading the token again as the start of a regular expression does what it should. -/
structure RereadsSlash (s : Scanner) : Prop where
  /-- There is a regular expression exactly where a slash closes it. -/
  token : s.atSlash = true →
    (s.rescanSlash.token = .regexLiteral ↔ ∃ body after, Closes s.start.next.rest body after)
  /-- It runs up to the first slash that closes it and the name characters behind that. -/
  closed : s.atSlash = true → ∀ body after, ClosesFirst s.start.next.rest body after →
    body ≠ [] ∧
    s.rescanSlash.text = String.ofList ('/' :: (body ++ '/' :: after.takeWhile Text.isNamePart)) ∧
    s.rescanSlash =
      { s with
        here := ⟨s.tokenPos + Text.byteLength s.rescanSlash.text.toList,
          after.dropWhile Text.isNamePart⟩
        token := .regexLiteral
        value := s.rescanSlash.text }
  /-- Otherwise it is a fault, which is reported where the token starts. -/
  unclosed : s.atSlash = true → (∀ body after, ¬Closes s.start.next.rest body after) →
    ∃ stop, s.rescanSlash =
      { s with here := stop, token := .unknown, error? := some (.unterminatedRegex s.tokenPos) }
  /-- Any other token stays as it is. -/
  other : s.atSlash = false → s.rescanSlash = s

section reread

variable {s : Scanner} (slash : s.atSlash = true) {stop : Cursor}

include slash

theorem rescanSlash_of_unclosed
    (read : regexBody s.start.next.offset false s.start.next.rest = (false, stop)) :
    s.rescanSlash =
      { s with here := stop, token := .unknown, error? := some (.unterminatedRegex s.tokenPos) } := by
  simp only [rescanSlash, if_pos slash, read]
  rfl

theorem rescanSlash_of_closed {text body : List Char} (here : s.start.rest = '/' :: text)
    (read : regexBody s.start.next.offset false s.start.next.rest = (true, stop))
    (split : text = body ++ '/' :: stop.rest) :
    s.rescanSlash.text
        = String.ofList ('/' :: (body ++ '/' :: stop.rest.takeWhile Text.isNamePart)) ∧
      s.rescanSlash =
        { s with
          here := ⟨s.tokenPos + Text.byteLength s.rescanSlash.text.toList,
            stop.rest.dropWhile Text.isNamePart⟩
          token := .regexLiteral
          value := s.rescanSlash.text } := by
  have result : s.rescanSlash =
      { s with
        here := stop.skipWhile Text.isNamePart
        token := .regexLiteral
        value := String.ofList (s.start.upTo (stop.skipWhile Text.isNamePart)) } := by
    simp only [rescanSlash, if_pos slash, read]
  have reaches : s.start.Reaches (stop.skipWhile Text.isNamePart) := by
    have body := reaches_regexBody s.start.next.offset false s.start.next.rest
    rw [read] at body
    exact ((Cursor.reaches_next _).trans body).trans (Cursor.reaches_skipWhile _ _)
  have passed : s.start.rest = ('/' :: (body ++ '/' :: stop.rest.takeWhile Text.isNamePart)) ++
      (stop.skipWhile Text.isNamePart).rest := by
    rw [Cursor.rest_skipWhile, here, split]
    simp [List.takeWhile_append_dropWhile]
  have literal := Cursor.upTo_eq passed
  have text : s.rescanSlash.text
      = String.ofList ('/' :: (body ++ '/' :: stop.rest.takeWhile Text.isNamePart)) := by
    rw [result, Scanner.text, literal]
  have place := reaches.eq_of_rest passed
  refine ⟨text, ?_⟩
  rw [text, result, literal, place, String.toList_ofList, Cursor.rest_skipWhile]
  rfl

end reread

/-- A token that starts no comment is read again as it should be. -/
theorem Opens.rereadsSlash {s : Scanner} (h : s.Opens) : s.RereadsSlash := by
  cases slash : s.atSlash with
  | false =>
    have never {P : Prop} (slash' : s.atSlash = true) : P := by cases slash.symm.trans slash'
    exact ⟨never, never, never, rescanSlash_of_not_atSlash⟩
  | true =>
    obtain ⟨text, here, second⟩ := h slash
    have behind : s.start.next.rest = text := Cursor.rest_next here
    have reads := regexBody_reads s.start.next.offset (reading_start s.start.next.rest)
    rcases read : regexBody s.start.next.offset false s.start.next.rest with ⟨closed, stop⟩
    rw [read] at reads
    cases closed with
    | false =>
      have none : ∀ body after, ¬Closes s.start.next.rest body after := reads
      have result := rescanSlash_of_unclosed slash read
      refine ⟨fun _ => ?_, fun _ body after first => ?_, fun _ _ => ⟨stop, result⟩, ?_⟩
      · rw [result]
        refine iff_of_false nofun ?_
        rintro ⟨body, after, closes⟩
        exact none body after closes
      · exact absurd first.1 (none body after)
      · exact rescanSlash_of_not_atSlash
    | true =>
      obtain ⟨body, first⟩ : ∃ body, ClosesFirst s.start.next.rest body stop.rest := reads
      have result := rescanSlash_of_closed slash here read (behind ▸ first.1.split)
      refine ⟨fun _ => ?_, fun _ body' after' first' => ?_, fun _ none => ?_, ?_⟩
      · rw [result.2]
        exact iff_of_true rfl ⟨body, stop.rest, first.1⟩
      · obtain ⟨rfl, rfl⟩ := first.unique first'
        refine ⟨?_, result⟩
        -- An empty body would stand between two slashes, which start a comment.
        rintro rfl
        have split := first.1.split
        rw [behind] at split
        exact second (by rw [split]; rfl)
      · exact absurd first.1 (none body stop.rest)
      · exact rescanSlash_of_not_atSlash

namespace Session

/-- **Wherever a scanner has come to in a source, a slash is read again as a regular expression up
to the first slash that closes it**, or not at all. -/
theorem rereadsSlash_of_run {text : List Char} {commands : List Command} {t : Session}
    (run : (ofText text).run? commands = some t) : t.scanner.RereadsSlash := by
  have opens : t.scanner.Opens :=
    of_run? (fun s _ => s.opens_scan) (fun _ => Opens.rescanSlash)
      (fun s _ _ => s.opens_rescanTemplate) nofun run
  exact opens.rereadsSlash

/-- A slash in a class, one that is escaped, and the flags behind the one that closes. -/
theorem rereadsSlash_of_run_flags : ∃ t, (ofText "=/[\\]/]\\//gé;".toList).run?
    [.scan, .scan, .save, .rescanSlash, .restore 0] = some t ∧ t.scanner.RereadsSlash :=
  (Option.isSome_iff_exists.mp (by decide +kernel)).imp fun _ run => ⟨run, rereadsSlash_of_run run⟩

example : ((ofText "=/[\\]/]\\//gé;".toList).run? [.scan, .scan, .rescanSlash]).map
    (fun t => (t.scanner.token, t.scanner.value)) = some (.regexLiteral, "/[\\]/]\\//gé") := by
  decide +kernel

end Session

end Scanner

end Shapewire
