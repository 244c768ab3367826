/-
What a session keeps whatever the scanner is told.

`Standing` is the invariant of one scanner: its three offsets belong to places of the source, one
not before the other.  Every command that makes sense keeps it, for the scanner and for what the
snapshots describe (`Intact.exists_perform?`), so it holds after any run of commands
(`Intact.run?`).  All else follows from it: what lies between two of the offsets can be cut out of
the source, a snapshot leads back to the very state it was taken of, and a fault is reported within
its token.

Coming back to a snapshot gives the whole state, so what is done from there on cannot differ from
what would have been done at the save.  `Alike.run?` says so for any further commands that stay
with the snapshots known at the save.
-/
import Shapewire.Token.Session
import Shapewire.Proofs.Token.Fault
import Shapewire.Proofs.Token.Run

namespace Shapewire

/-- A byte offset at which a character of the text starts or the text ends. -/
def Text.Boundary (text : List Char) (offset : Nat) : Prop :=
  ∃ before after, text = before ++ after ∧ offset = byteLength before

namespace Cursor

variable {text : List Char} {c : Cursor}

theorem Reaches.boundary (h : (ofText text).Reaches c) : Text.Boundary text c.offset := by
  obtain ⟨before, rest, offset⟩ := h
  exact ⟨before, c.rest, rest, by rw [offset]; exact Nat.zero_add _⟩

/-- A place of a text is found by its offset. -/
theorem Reaches.at?_offset (h : (ofText text).Reaches c) : at? text c.offset = some c := by
  obtain ⟨before, rest, offset⟩ := h
  have whole : text = before ++ c.rest := rest
  have start : c.offset = Text.byteLength before := by rw [offset]; exact Nat.zero_add _
  rw [at?, start, whole, Text.dropBytes?_byteLength, Option.map_some, ← start]

/-- From a place of a text to its end is what is left of it. -/
theorem Reaches.slice_finish (h : (ofText text).Reaches c) :
    Span.slice ⟨c.offset, Text.byteLength text⟩ text = some c.rest := by
  have last : c.finish.offset = Text.byteLength text := by
    obtain ⟨before, rest, offset⟩ := h
    have whole : text = before ++ c.rest := rest
    rw [finish, offset, whole, Text.byteLength_append]
    exact congrArg (· + _) (Nat.zero_add _)
  have slice := h.slice_eq (reaches_finish c)
  rw [last] at slice
  rw [slice, upTo, finish]
  simp

end Cursor

namespace Scanner

variable {text : List Char} {s : Scanner}

/-! ### The invariant of one scanner -/

/-- A scanner stands in the text with its token and with the trivia before it. -/
structure Standing (text : List Char) (s : Scanner) : Prop extends Sound text s where
  /-- The trivia before the token start at a place of the text, not behind the token's start. -/
  trivia : (Cursor.ofText text).Between s.start s.fullStart

theorem standing_ofText (text : List Char) : (ofText text).Standing text :=
  ⟨⟨.refl _, .refl _, nofun⟩, .first (.refl _)⟩

theorem Standing.scan (h : s.Standing text) : s.scan.Standing text where
  toSound := h.toSound.scan
  trivia := ⟨s.here, h.start.trans h.here, s.reaches_start_scan.1, fullStart_scan s⟩

/-- Reading a token again changes neither where it starts nor the trivia before it. -/
theorem Standing.reread {s' : Scanner} (h : s.Standing text) (sound : s'.Sound text)
    (start : s'.start = s.start) (fullStart : s'.fullStart = s.fullStart) : s'.Standing text where
  toSound := sound
  trivia := by rw [start, fullStart]; exact h.trivia

theorem fullStart_rescanSlash (s : Scanner) : s.rescanSlash.fullStart = s.fullStart := by
  unfold Scanner.rescanSlash
  dsimp only
  split
  · split <;> rfl
  · rfl

/-- Any other token than a slash is not read again. -/
theorem rescanSlash_of_not_atSlash {s : Scanner} (other : s.atSlash = false) :
    s.rescanSlash = s := by
  unfold Scanner.rescanSlash
  rw [other]
  rfl

theorem Standing.rescanSlash (h : s.Standing text) : s.rescanSlash.Standing text := by
  cases slash : s.atSlash with
  | true =>
    exact h.reread (h.toSound.rescanSlash slash) s.start_rescanSlash s.fullStart_rescanSlash
  | false => rwa [rescanSlash_of_not_atSlash slash]

theorem Standing.rescanTemplate (h : s.Standing text) (brace : s.token = .closeBrace) :
    s.rescanTemplate.Standing text :=
  h.reread (h.toSound.rescanTemplate brace) (start_accept _ _) (fullStart_accept _ _)

/-- A snapshot leads back to the state it was taken of. -/
theorem Standing.restore?_snapshot (h : s.Standing text) : s.snapshot.restore? text = some s := by
  have start : Cursor.at? text s.snapshot.start = some s.start := h.start.at?_offset
  have here : Cursor.at? text s.snapshot.stop = some s.here := (h.start.trans h.here).at?_offset
  rw [Snapshot.restore?, start, here]
  rfl

/-- What is certain about the offsets of a scanner. -/
structure Placed (text : List Char) (s : Scanner) : Prop where
  ordered : s.fullStart ≤ s.tokenPos ∧ s.tokenPos ≤ s.tokenEnd ∧
    s.tokenEnd ≤ Text.byteLength text
  boundaries : Text.Boundary text s.fullStart ∧ Text.Boundary text s.tokenPos ∧
    Text.Boundary text s.tokenEnd
  /-- The trivia before the token, the token and the rest of the source can be cut out. -/
  slices : (Span.slice ⟨s.fullStart, s.tokenPos⟩ text).isSome = true ∧
    Span.slice ⟨s.tokenPos, s.tokenEnd⟩ text = some s.text.toList ∧
    Span.slice ⟨s.tokenEnd, Text.byteLength text⟩ text = some s.here.rest

theorem Standing.placed (h : s.Standing text) : s.Placed text := by
  obtain ⟨trivia, reached, behind, fullStart⟩ := h.trivia
  have here := h.start.trans h.here
  refine ⟨⟨?_, h.here.offset_le, here.offset_le_byteLength⟩,
    ⟨?_, h.start.boundary, here.boundary⟩, ?_, ?_, here.slice_finish⟩
  · rw [fullStart]
    exact behind.offset_le
  · rw [fullStart]
    exact reached.boundary
  · rw [fullStart, tokenPos, reached.slice_eq behind]
    rfl
  · rw [tokenPos, tokenEnd, h.start.slice_eq h.here, Scanner.text, String.toList_ofList]

/-- An unknown token comes with a fault that is reported within it. -/
def Reported (s : Scanner) : Prop :=
  s.token = .unknown → ∃ e, s.error? = some e ∧ s.tokenPos ≤ e.pos ∧ e.pos ≤ s.tokenEnd

theorem Explained.reported (h : s.Explained) : s.Reported := by
  intro unknown
  obtain ⟨e, is, between⟩ := h unknown
  exact ⟨e, is, between.offset_le⟩

/-! ### The invariant of a session -/

/-- The command restores none but the first `known` snapshots. -/
def Command.StaysWithin (known : Nat) : Command → Prop
  | .restore index => index < known
  | .scan | .rescanSlash | .rescanTemplate | .save => True

namespace Session

variable {t t' : Session} {commands : List Command}

/-- The scanner stands in the source, and every snapshot was taken of one that does. -/
structure Intact (t : Session) : Prop where
  scanner : t.scanner.Standing t.text
  taken : ∀ shot ∈ t.taken, ∃ s : Scanner, s.Standing t.text ∧ shot = s.snapshot

/-- What no command changes: the source, and the snapshots that are there already. -/
structure Extends (t t' : Session) : Prop where
  text : t'.text = t.text
  taken : t.taken <+: t'.taken

theorem Extends.refl (t : Session) : t.Extends t := ⟨rfl, List.prefix_rfl⟩

theorem Extends.trans {t'' : Session} (h : t.Extends t') (h' : t'.Extends t'') : t.Extends t'' :=
  ⟨h'.text.trans h.text, h.taken.trans h'.taken⟩

theorem intact_ofText (text : List Char) : (ofText text).Intact :=
  ⟨standing_ofText text, fun _ taken => absurd taken List.not_mem_nil⟩

/-- Only the scanner changes, to one that stands in the source. -/
theorem Intact.move (h : t.Intact) {s : Scanner} (standing : s.Standing t.text) :
    Intact { t with scanner := s } ∧ t.Extends { t with scanner := s } :=
  ⟨⟨standing, h.taken⟩, rfl, List.prefix_rfl⟩

/-- A snapshot of a scanner that stands in the source is restored to that scanner. -/
theorem perform?_restore {index : Nat} {s : Scanner} (standing : s.Standing t.text)
    (is : t.taken[index]? = some s.snapshot) :
    t.perform? (.restore index) = some { t with scanner := s } := by
  rw [perform?, is]
  show (s.snapshot.restore? t.text).bind _ = _
  rw [standing.restore?_snapshot]
  rfl

/-- A command that makes sense is obeyed and keeps the session intact. -/
theorem Intact.exists_perform? (h : t.Intact) {command : Command} (allowed : t.Allows command) :
    ∃ t', t.perform? command = some t' ∧ t'.Intact ∧ t.Extends t' := by
  cases command with
  | scan => exact ⟨_, rfl, h.move h.scanner.scan⟩
  | rescanSlash => exact ⟨_, rfl, h.move h.scanner.rescanSlash⟩
  | rescanTemplate => exact ⟨_, rfl, h.move (h.scanner.rescanTemplate allowed)⟩
  | save =>
    refine ⟨_, rfl, ⟨h.scanner, ?_⟩, rfl, List.prefix_append _ _⟩
    intro shot mem
    rcases List.mem_append.mp mem with mem | mem
    · exact h.taken shot mem
    · exact ⟨t.scanner, h.scanner, List.mem_singleton.mp mem⟩
  | restore index =>
    have within : index < t.taken.length := allowed
    obtain ⟨s, standing, is⟩ := h.taken _ (List.getElem_mem within)
    refine ⟨_, perform?_restore standing ?_, h.move standing⟩
    rw [List.getElem?_eq_getElem within, is]

theorem run?_cons_eq_some {command : Command}
    (run : t.run? (command :: commands) = some t') :
    t.Allows command ∧ ∃ u, t.perform? command = some u ∧ u.run? commands = some t' := by
  rw [run?] at run
  split at run
  · rename_i allowed
    exact ⟨allowed, Option.bind_eq_some_iff.mp run⟩
  · cases run

/-- So does a run of commands. -/
theorem Intact.run? (h : t.Intact) (run : t.run? commands = some t') :
    t'.Intact ∧ t.Extends t' := by
  induction commands generalizing t with
  | nil =>
    cases run
    exact ⟨h, .refl _⟩
  | cons command commands ih =>
    obtain ⟨allowed, u, performed, run⟩ := run?_cons_eq_some run
    obtain ⟨u', performed', intact, extends_⟩ := h.exists_perform? allowed
    obtain rfl := Option.some.inj (performed.symm.trans performed')
    have rest := ih intact run
    exact ⟨rest.1, extends_.trans rest.2⟩

/-! ### Coming back -/

/-- The session right after a snapshot is taken. -/
def saved (t : Session) : Session := { t with taken := t.taken ++ [t.scanner.snapshot] }

theorem Intact.saved (h : t.Intact) : t.saved.Intact := by
  obtain ⟨_, performed, intact, -⟩ := h.exists_perform? (show t.Allows .save from trivial)
  obtain rfl := Option.some.inj performed
  exact intact

/-- Whatever happened since a snapshot was taken, restoring it gives the scanner of that time. -/
theorem Intact.restore_saved (h : t.Intact) (run : t.saved.run? commands = some t') :
    t'.perform? (.restore t.taken.length) = some { t' with scanner := t.scanner } := by
  obtain ⟨-, same, kept⟩ := h.saved.run? run
  have standing : t.scanner.Standing t'.text := by
    rw [same]
    exact h.scanner
  refine perform?_restore standing ?_
  obtain ⟨later, kept⟩ := kept
  rw [← kept, Session.saved, List.append_assoc, List.singleton_append,
    List.getElem?_append_right (Nat.le_refl _), Nat.sub_self]
  rfl

theorem rel_bind {r : Session → Session → Prop} {x y : Option Session}
    {f g : Session → Option Session} (h : Option.Rel r x y)
    (rest : ∀ {a b}, r a b → Option.Rel r (f a) (g b)) : Option.Rel r (x.bind f) (y.bind g) := by
  cases h with
  | some h => exact rest h
  | none => exact .none

/-- Two sessions in the same state but for the snapshots beyond the first `known`. -/
structure Alike (known : Nat) (a b : Session) : Prop where
  text : a.text = b.text
  scanner : a.scanner = b.scanner
  taken : ∀ index < known, ∃ shot, a.taken[index]? = some shot ∧ b.taken[index]? = some shot

variable {known : Nat} {a b : Session}

/-- The same scanner takes the place of both. -/
theorem Alike.move (h : Alike known a b) (s : Scanner) :
    Alike known { a with scanner := s } { b with scanner := s } :=
  ⟨h.text, rfl, h.taken⟩

theorem Alike.allows_iff (h : Alike known a b) {command : Command}
    (stays : command.StaysWithin known) : a.Allows command ↔ b.Allows command := by
  cases command with
  | scan | rescanSlash | save => exact Iff.rfl
  | rescanTemplate =>
    show a.scanner.token = _ ↔ b.scanner.token = _
    rw [h.scanner]
  | restore index =>
    obtain ⟨shot, left, right⟩ := h.taken index stays
    exact iff_of_true (List.getElem?_eq_some_iff.mp left).1 (List.getElem?_eq_some_iff.mp right).1

theorem Alike.perform? (h : Alike known a b) {command : Command}
    (stays : command.StaysWithin known) :
    Option.Rel (Alike known) (a.perform? command) (b.perform? command) := by
  obtain ⟨text, scanner, taken⟩ := b
  obtain ⟨rfl, rfl, same⟩ := h
  have h : Alike known a ⟨a.text, a.scanner, taken⟩ := ⟨rfl, rfl, same⟩
  cases command with
  | scan => exact .some (h.move a.scanner.scan)
  | rescanSlash => exact .some (h.move a.scanner.rescanSlash)
  | rescanTemplate => exact .some (h.move a.scanner.rescanTemplate)
  | save =>
    refine .some ⟨rfl, rfl, fun index within => ?_⟩
    obtain ⟨shot, left, right⟩ := same index within
    refine ⟨shot, ?_, ?_⟩
    · rw [List.getElem?_append_left (List.getElem?_eq_some_iff.mp left).1, left]
    · rw [List.getElem?_append_left (List.getElem?_eq_some_iff.mp right).1, right]
  | restore index =>
    obtain ⟨shot, left, right⟩ := same index stays
    rw [Session.perform?, Session.perform?, left, right]
    show Option.Rel _ ((shot.restore? a.text).bind _) ((shot.restore? a.text).bind _)
    cases shot.restore? a.text with
    | none => exact .none
    | some s => exact .some (h.move s)

/-- The same further commands have the same outcome in both. -/
theorem Alike.run? (h : Alike known a b) (stay : ∀ command ∈ commands, command.StaysWithin known) :
    Option.Rel (Alike known) (a.run? commands) (b.run? commands) := by
  induction commands generalizing a b with
  | nil => exact .some h
  | cons command commands ih =>
    have stays := stay command List.mem_cons_self
    have rest := fun {a b} (h : Alike known a b) =>
      ih h fun command mem => stay command (List.mem_cons_of_mem _ mem)
    rw [Session.run?, Session.run?]
    by_cases allowed : a.Allows command
    · rw [if_pos allowed, if_pos ((h.allows_iff stays).mp allowed)]
      exact rel_bind (h.perform? stays) rest
    · rw [if_neg allowed, if_neg (mt (h.allows_iff stays).mpr allowed)]
      exact .none

/-- The scanner in which a run ends, if every command makes sense where it comes. -/
def outcome? (t : Session) (commands : List Command) : Option Scanner :=
  (t.run? commands).map Session.scanner

theorem Alike.outcome?_eq (h : Alike known a b)
    (stay : ∀ command ∈ commands, command.StaysWithin known) :
    a.outcome? commands = b.outcome? commands := by
  have same := h.run? stay
  unfold outcome?
  generalize a.run? commands = x, b.run? commands = y at same
  cases same with
  | some h => exact congrArg some h.scanner
  | none => rfl

/-! ### What a session can rely on -/

/-- What holds of a session in a source after any commands. -/
structure Reliable (text : List Char) (t : Session) : Prop where
  placed : t.scanner.Placed text
  /-- Every command that makes sense is obeyed. -/
  obeys : ∀ command, t.Allows command → (t.perform? command).isSome = true
  scan : t.scanner.scan.Reported
  rescanTemplate : t.scanner.token = .closeBrace → t.scanner.rescanTemplate.Reported
  rescanSlash : t.scanner.atSlash = true → t.scanner.rescanSlash.Reported
  /-- A snapshot taken now leads back to this very scanner after any further commands, and all that
  follows is as it would have been from here on. -/
  restores : ∀ commands t', t.saved.run? commands = some t' →
    ∃ back, t'.perform? (.restore t.taken.length) = some back ∧ back.scanner = t.scanner ∧
      ∀ further, (∀ command ∈ further, command.StaysWithin (t.taken.length + 1)) →
        back.outcome? further = t.saved.outcome? further

theorem Intact.reliable (h : t.Intact) : t.Reliable t.text where
  placed := h.scanner.placed
  obeys _ allowed := by
    obtain ⟨t', performed, -⟩ := h.exists_perform? allowed
    rw [performed]
    rfl
  scan := (explained_scan _).reported
  rescanTemplate _ := (explained_rescanTemplate _).reported
  rescanSlash slash := (explained_rescanSlash slash).reported
  restores commands t' run := by
    refine ⟨_, h.restore_saved run, rfl, fun further stay => ?_⟩
    obtain ⟨-, same, kept⟩ := h.saved.run? run
    refine Alike.outcome?_eq ⟨same, rfl, fun index within => ?_⟩ stay
    have early : index < t.saved.taken.length := by
      rw [Session.saved, List.length_append]
      exact within
    refine ⟨t.saved.taken[index], ?_, List.getElem?_eq_getElem early⟩
    exact List.prefix_iff_getElem?.mp kept index early

/-- **Whatever commands a session has obeyed, it can be relied on:** the scanner's offsets are
ordered places of the source, every unknown token has its fault reported within it, and a snapshot
brings back the whole state. -/
theorem reliable_of_run {text : List Char} (run : (ofText text).run? commands = some t) :
    t.Reliable text := by
  obtain ⟨intact, same, -⟩ := (intact_ofText text).run? run
  have reliable := intact.reliable
  rwa [same] at reliable

/-- A template is read with its brace read again as text, then a regular expression that does not
end; the snapshots on the way are restored, the first of them twice. -/
theorem reliable_of_run_template :
    ∃ t, (ofText "\x60é$\x7bx\x7dü\x60 /* */ /r".toList).run?
        [.save, .scan, .scan, .scan, .rescanTemplate, .scan, .save, .rescanSlash, .restore 1, .scan,
          .restore 0, .scan, .save, .restore 0] = some t ∧
      t.Reliable "\x60é$\x7bx\x7dü\x60 /* */ /r".toList := by
  refine (Option.isSome_iff_exists.mp ?_).imp fun t run => ⟨run, reliable_of_run run⟩
  decide +kernel

end Session

end Scanner

end Shapewire
