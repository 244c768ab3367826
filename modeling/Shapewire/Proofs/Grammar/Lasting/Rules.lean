/-
Parsers that do not run out of their budget.

Most parsers have no use for a budget at all: they look at tokens, consume a few and build a node.
`Frugal p` says so of a parser wherever it starts.  The others go down through the grammar or around
a loop, and whether the budget lasts for them depends on the place: `Lasts n c x p` says that it
does from the place `x` on, at depth `n` and in the context `c`.

How much is enough is measured by the characters left (`Place.left`).  Every token takes one of them
at least, so a part of the grammar that has any tree leaves less than it found.  A place is `Roomy`
if the budget pays for five openings with every character left, and for some number of openings
more that may come before the next token.
-/
import Shapewire.Proofs.Grammar.Built.Rules
import Shapewire.Proofs.Grammar.Soundness
import Shapewire.Proofs.Grammar.Woven

namespace Shapewire

/-! ### What is left of a source -/

namespace Place

variable {text : List Char} {x y : Place} {k : TokenKind} {ts : List Terminal}

/-- The number of characters from the next token on. -/
def left (x : Place) : Nat := x.scanner.start.rest.length

theorem left_asRegex (x : Place) : x.asRegex.left = x.left := by
  rw [left, asRegex, Scanner.start_rescanSlash]
  rfl

theorem left_asTemplate (x : Place) : x.asTemplate.left = x.left := by
  rw [left, asTemplate, Scanner.rescanTemplate, Scanner.start_accept]
  rfl

theorem Takes.sound (mark : x.Takes k y) (sound : x.Sound text) : y.Sound text :=
  mark.next ▸ sound.next

theorem Takes.left_lt (mark : x.Takes k y) (sound : x.Sound text) : y.left < x.left := by
  have proper : x.token.isProper = true := by
    rw [mark.token]
    exact mark.proper
  rw [mark.next]
  exact Nat.lt_of_le_of_lt x.scanner.reaches_start_scan.1.length_le (sound.scanner.takes proper)

theorem Consumes.sound (h : x.Consumes ts y) (sound : x.Sound text) : y.Sound text := by
  induction h with
  | none => exact sound
  | token mark _ ih => exact ih (mark.sound sound)
  | regex slash mark _ ih => exact ih (mark.sound (sound.asRegex slash))
  | piece brace mark _ ih => exact ih (mark.sound (sound.asTemplate brace))

/-- Every token consumed takes a character. -/
theorem Consumes.left_add_length_le (h : x.Consumes ts y) (sound : x.Sound text) :
    y.left + ts.length ≤ x.left := by
  induction h with
  | none => exact Nat.le_refl _
  | token mark _ ih =>
    have shorter := mark.left_lt sound
    have rest := ih (mark.sound sound)
    rw [List.length_cons]
    omega
  | regex slash mark _ ih =>
    have shorter := mark.left_lt (sound.asRegex slash)
    have rest := ih (mark.sound (sound.asRegex slash))
    rw [left_asRegex] at shorter
    rw [List.length_cons]
    omega
  | piece brace mark _ ih =>
    have shorter := mark.left_lt (sound.asTemplate brace)
    have rest := ih (mark.sound (sound.asTemplate brace))
    rw [left_asTemplate] at shorter
    rw [List.length_cons]
    omega

/-- The place `y` lies behind `x` in the text, with a token between them at least. -/
structure Further (text : List Char) (x y : Place) : Prop where
  sound : y.Sound text
  shorter : y.left < x.left

theorem Takes.further (mark : x.Takes k y) (sound : x.Sound text) : x.Further text y :=
  ⟨mark.sound sound, mark.left_lt sound⟩

theorem Further.trans {z : Place} (h : x.Further text y) (h' : y.Further text z) :
    x.Further text z := ⟨h'.sound, Nat.lt_trans h'.shorter h.shorter⟩

/-- A budget pays for five openings with every character left and for `k` more. -/
structure Roomy (text : List Char) (budget k : Nat) (x : Place) : Prop where
  sound : x.Sound text
  room : 5 * x.left + k ≤ budget

namespace Roomy

variable {budget m : Nat}

theorem mono (h : x.Roomy text budget m) {l : Nat} (le : l ≤ m) : x.Roomy text budget l :=
  ⟨h.sound, by have := h.room; omega⟩

theorem less (h : x.Roomy text budget (m + 1)) : x.Roomy text budget m := h.mono (Nat.le_succ m)

/-- Behind a token there is room for the five openings that it has paid for. -/
theorem further (h : x.Roomy text budget m) (f : x.Further text y) : y.Roomy text budget 5 := by
  have shorter := f.shorter
  have room := h.room
  exact ⟨f.sound, by omega⟩

theorem taken (h : x.Roomy text budget m) (mark : x.Takes k y) : y.Roomy text budget 5 :=
  h.further (mark.further h.sound)

theorem consumed (h : x.Roomy text budget m) (consumes : x.Consumes ts y) :
    y.Roomy text budget m := by
  have shorter := consumes.left_add_length_le h.sound
  have room := h.room
  exact ⟨consumes.sound h.sound, by omega⟩

theorem asTemplate (h : x.Roomy text budget m) (brace : x.token = .closeBrace) :
    x.asTemplate.Roomy text budget m := ⟨h.sound.asTemplate brace, x.left_asTemplate ▸ h.room⟩

theorem accepted (h : x.Roomy text budget m) {b : Bool} (mark : x.Accepts k b y) :
    y.Roomy text budget m := by
  cases mark with
  | taken mark => exact h.consumed (.token mark .none)
  | absent => exact h

theorem acceptedWord (h : x.Roomy text budget m) {word : String} {b : Bool}
    (mark : x.AcceptsWord word b y) : y.Roomy text budget m := by
  cases mark with
  | taken mark => exact h.consumed (.token mark .none)
  | absent => exact h

/-- `function` is a token. -/
theorem functionHead (h : x.Roomy text budget m) {flags : NodeFlags}
    (head : x.FunctionHead flags y) : y.Roomy text budget 5 := by
  cases head with
  | intro async word star => exact ((h.acceptedWord async).taken word).accepted star

theorem memberHead (h : x.Roomy text budget m) {flags : NodeFlags} {isAccessor : Bool}
    (head : x.MemberHead flags isAccessor y) : y.Roomy text budget m := by
  cases head with
  | plain async star => exact (h.acceptedWord async).accepted star
  | accessor word => exact h.consumed (.token word .none)

theorem mayName (h : x.Roomy text budget m) {name? : Option Tree} (named : x.MayName name? y) :
    y.Roomy text budget m := by
  cases named with
  | named mark => exact h.consumed (.token mark .none)
  | unnamed => exact h

end Roomy

end Place

namespace Derives

variable {text : List Char} {budget m n : Nat} {c : Context} {p : Part} {x y : Place} {t : Tree}
  {us : List Tree}

theorem exists_consumes (h : Derives n c p x us y) :
    ∃ ts, x.Consumes ts y ∧ (us ≠ [] → ts ≠ []) := by
  have stands : ∀ part : Part, part.StandsIn .propertyAssignment := by
    intro part
    induction part with
    | propertyName => rfl
    | list item ih => exact ih
    | _ => trivial
  obtain ⟨own, -, ts, consumes, woven⟩ := weaves_of_derives h _ (stands p)
  refine ⟨ts, consumes, fun some => ?_⟩
  obtain ⟨t, run, rfl⟩ := woven.exists_first (.inr some)
  exact List.cons_ne_nil t run

/-- Behind a part of the grammar there is as much room as before it. -/
theorem roomy (h : Derives n c p x us y) (room : x.Roomy text budget m) :
    y.Roomy text budget m := by
  obtain ⟨ts, consumes, -⟩ := h.exists_consumes
  exact room.consumed consumes

/-- A part of the grammar that has a tree takes a token. -/
theorem further (h : Derives n c p x (t :: us) y) (sound : x.Sound text) : x.Further text y := by
  obtain ⟨ts, consumes, some⟩ := h.exists_consumes
  have shorter := consumes.left_add_length_le sound
  have := List.length_pos_iff.mpr (some (List.cons_ne_nil t us))
  exact ⟨consumes.sound sound, by omega⟩

/-- Behind a part of the grammar that has a tree there is room for five openings. -/
theorem more (h : Derives n c p x (t :: us) y) (room : x.Roomy text budget m) :
    y.Roomy text budget 5 := room.further (h.further room.sound)

end Derives

namespace Parser

variable {α β : Type}

/-- A sequence stops in its first step or behind it. -/
theorem bind_eq_error {p : Parser α} {f : α → Parser β} {s t : ParserState} {e : Stop} :
    (p >>= f) s = .error e t ↔
      p s = .error e t ∨ ∃ a s', p s = .ok a s' ∧ f a s' = .error e t := by
  show EStateM.bind p f s = .error e t ↔ _
  unfold EStateM.bind
  cases p s <;> simp [and_assoc]

/-! ### Parsers that need no budget -/

/-- The parser does not run out of its budget wherever it starts. -/
def Frugal (p : Parser α) : Prop := ∀ s t, p s ≠ .error .exhausted t

namespace Frugal

theorem pure {a : α} : Frugal (Pure.pure a) := by
  intro s t run
  cases run

theorem fault {f : Fault} : Frugal (throw (.fault f) : Parser α) := by
  intro s t run
  cases run

theorem bind {p : Parser α} {f : α → Parser β} (hp : Frugal p) (hf : ∀ a, Frugal (f a)) :
    Frugal (p >>= f) := by
  intro s t run
  rcases bind_eq_error.mp run with first | ⟨a, s', -, rest⟩
  · exact hp s t first
  · exact hf a s' t rest

theorem map {p : Parser α} {f : α → β} (hp : Frugal p) : Frugal (f <$> p) := by
  rw [map_eq_pure_bind]
  exact hp.bind fun _ => pure

theorem ite {b : Prop} [Decidable b] {p q : Parser α} (hp : Frugal p) (hq : Frugal q) :
    Frugal (if b then p else q) := by
  split
  · exact hp
  · exact hq

/-- A choice between two ways to go on alike. -/
theorem join {b : Prop} [Decidable b] {p q : Parser α} {f : α → Parser β} (hp : Frugal p)
    (hq : Frugal q) (hf : ∀ a, Frugal (f a)) : Frugal (if b then p >>= f else q >>= f) :=
  ite (hp.bind hf) (hq.bind hf)

/-! ### Questions -/

/-- A question is always answered. -/
theorem ask {p : Parser α} (asks : Asks p) : Frugal p := by
  intro s t run
  obtain ⟨a, answer⟩ := asks s
  cases answer.symm.trans run

theorem token : Frugal Parser.token := ask .token

theorem value : Frugal Parser.value := ask .value

theorem pos : Frugal Parser.pos := ask .pos

theorem prevEnd : Frugal Parser.prevEnd := ask .prevEnd

theorem lineBreak : Frugal Parser.lineBreak := ask .lineBreak

theorem isToken {k : TokenKind} : Frugal (Parser.isToken k) := ask .isToken

theorem isWord {word : String} : Frugal (Parser.isWord word) := ask .isWord

theorem mayEndStatement : Frugal Parser.mayEndStatement := ask .mayEndStatement

theorem startsAsyncFunction : Frugal Parser.startsAsyncFunction := ask (.question .asyncFunction)

theorem startsLabel : Frugal Parser.startsLabel := ask (.question .label)

theorem startsAsyncArrow : Frugal Parser.startsAsyncArrow := ask (.question .asyncArrow)

theorem startsArrow : Frugal Parser.startsArrow := ask (.question .arrow)

theorem startsAsyncMember : Frugal Parser.startsAsyncMember := ask (.question .asyncMember)

theorem startsAccessor : Frugal Parser.startsAccessor := ask (.question .accessor)

/-! ### Tokens -/

theorem unexpected {expected : String} : Frugal (Parser.unexpected expected : Parser α) :=
  (ask .state).bind fun _ => fault

theorem checkToken : Frugal Parser.checkToken := by
  refine (ask .state).bind fun s => ?_
  dsimp only
  split
  · exact fault
  · exact pure

theorem change {f : ParserState → ParserState} : Frugal (modify f) := by
  intro s t run
  cases run

theorem advance : Frugal Parser.advance := change.bind fun _ => checkToken

theorem reread {again : Scanner → Scanner} : Frugal (Parser.reread again) :=
  change.bind fun _ => checkToken

theorem expect {k : TokenKind} : Frugal (Parser.expect k) :=
  isToken.bind fun _ => ite advance unexpected

theorem accept {k : TokenKind} : Frugal (Parser.accept k) :=
  isToken.bind fun _ => ite (advance.bind fun _ => pure) pure

theorem endStatement : Frugal Parser.endStatement :=
  isToken.bind fun _ => ite advance (mayEndStatement.bind fun _ => ite pure unexpected)

/-! ### Nodes -/

theorem flagged {kind : NodeKind} {flags : NodeFlags} {start : Nat}
    {record : Record Tree (Option Tree) String} :
    Frugal (Parser.flagged kind flags start record) := prevEnd.bind fun _ => pure

theorem finish {kind : NodeKind} {start : Nat} {record : Record Tree (Option Tree) String} :
    Frugal (Parser.finish kind start record) := flagged

theorem finishLeaf {kind : NodeKind} {start : Nat} : Frugal (Parser.finishLeaf kind start) :=
  prevEnd.bind fun _ => pure

theorem nameFromToken : Frugal Parser.nameFromToken :=
  pos.bind fun _ => value.bind fun _ => advance.bind fun _ => finish

theorem identifier : Frugal Parser.identifier :=
  isToken.bind fun _ => ite nameFromToken unexpected

theorem memberName : Frugal Parser.memberName := token.bind fun _ => ite nameFromToken unexpected

theorem literal : Frugal Parser.literal :=
  pos.bind fun _ => token.bind fun _ => value.bind fun _ => advance.bind fun _ => finish

/-- A word that may be there, and what follows it. -/
theorem optionalWord {b : Bool} {f : Unit → Parser β} (hf : ∀ u, Frugal (f u)) :
    Frugal (if b = true then Parser.advance >>= f else f ()) :=
  ite (advance.bind hf) (hf ())

theorem functionHead : Frugal Descent.functionHead :=
  isWord.bind fun _ => optionalWord fun _ => expect.bind fun _ => accept.bind fun _ => pure

theorem memberModifiers : Frugal Descent.memberModifiers :=
  startsAsyncMember.bind fun _ => optionalWord fun _ => accept.bind fun _ =>
    ite (pure.bind fun _ => optionalWord fun _ => pure)
      (startsAccessor.bind fun _ => optionalWord fun _ => pure)

theorem memberOf {start : Nat} {object : Tree} {optional : Bool} :
    Frugal (Descent.memberOf start object optional) := memberName.bind fun _ => finish

theorem emptyStatement : Frugal Descent.emptyStatement :=
  pos.bind fun _ => advance.bind fun _ => finishLeaf

theorem jumpStatement {kind : NodeKind} : Frugal (Descent.jumpStatement kind) :=
  pos.bind fun _ => advance.bind fun _ => isToken.bind fun _ => lineBreak.bind fun _ =>
    join identifier.map pure fun _ => endStatement.bind fun _ => finish

end Frugal

/-! ### Parsers for which the budget lasts -/

variable {n : Nat} {c : Context} {x : Place} {P : α → Place → Prop}

/-- From `x` on, at depth `n` and in the context `c`, the parser does not run out of its budget. -/
def Lasts (n : Nat) (c : Context) (x : Place) (p : Parser α) : Prop :=
  ∀ t, p (x.state n c) ≠ .error .exhausted t

theorem Frugal.lasts {p : Parser α} (hp : Frugal p) : Lasts n c x p := hp _

namespace Lasts

theorem bind {p : Parser α} {f : α → Parser β} (hp : Lasts n c x p) (leads : Leads n c x p P)
    (hf : ∀ a y, P a y → Lasts n c y (f a)) : Lasts n c x (p >>= f) := by
  intro t run
  rcases bind_eq_error.mp run with first | ⟨a, s, first, rest⟩
  · exact hp t first
  · obtain ⟨y, rfl, h⟩ := leads a s first
    exact hf a y h t rest

/-- What follows the last part that needs a budget. -/
theorem before {p : Parser α} {f : α → Parser β} (hp : Lasts n c x p) (hf : ∀ a, Frugal (f a)) :
    Lasts n c x (p >>= f) := by
  intro t run
  rcases bind_eq_error.mp run with first | ⟨a, s, -, rest⟩
  · exact hp t first
  · exact hf a s t rest

theorem map {p : Parser α} {f : α → β} (hp : Lasts n c x p) : Lasts n c x (f <$> p) := by
  rw [map_eq_pure_bind]
  exact hp.before fun _ => .pure

/-- What would follow where the parser stops. -/
theorem unreached {expected : String} {f : α → Parser β} :
    Lasts n c x (Parser.unexpected expected >>= f) :=
  Frugal.unexpected.lasts.bind (.unexpected (P := fun _ _ => False)) fun _ _ => False.elim

theorem ite {b : Prop} [Decidable b] {p q : Parser α} (hp : b → Lasts n c x p)
    (hq : ¬b → Lasts n c x q) : Lasts n c x (if b then p else q) := by
  split
  · exact hp ‹_›
  · exact hq ‹_›

/-- A part that is there, and what follows it. -/
theorem present {p : Parser α} {f : Option α → Parser β} (hp : Lasts n c x p)
    (leads : Leads n c x p P) (hf : ∀ a y, P a y → Lasts n c y (f (some a))) :
    Lasts n c x (some <$> p >>= f) := by
  refine bind (P := fun a? y => ∃ a, a? = some a ∧ P a y) hp.map ?_ ?_
  · exact .map (leads.mono fun a y h => ⟨a, rfl, h⟩)
  · rintro _ y ⟨a, rfl, h⟩
    exact hf a y h

theorem nested {p : Parser α} (hp : Lasts (n + 1) c x p) : Lasts n c x (Parser.nested p) := by
  intro t run
  unfold Parser.nested at run
  split at run
  · cases run
  · split at run
    · cases run
    · rename_i inner
      cases run
      exact hp _ inner

theorem withContext {change : Context → Context} {p : Parser α} (hp : Lasts n (change c) x p) :
    Lasts n c x (Parser.withContext change p) := by
  intro t run
  unfold Parser.withContext at run
  split at run
  · cases run
  · rename_i inner
    cases run
    exact hp _ inner

theorem allowIn {p : Parser α} (hp : Lasts n { c with noIn := false } x p) :
    Lasts n c x (Parser.allowIn p) := withContext hp

/-! ### The current token -/

section current

/-- A look at the state, and what follows it. -/
theorem look {p : Parser α} {a : α} {f : α → Parser β}
    (looks : p (x.state n c) = .ok a (x.state n c)) (hf : Lasts n c x (f a)) :
    Lasts n c x (p >>= f) := by
  intro t run
  rcases bind_eq_error.mp run with first | ⟨b, s, first, rest⟩
  · cases looks.symm.trans first
  · cases looks.symm.trans first
    exact hf t rest

theorem pos {f : Nat → Parser β} (hf : Lasts n c x (f x.pos)) : Lasts n c x (Parser.pos >>= f) :=
  look rfl hf

theorem value {f : String → Parser β} (hf : Lasts n c x (f x.value)) :
    Lasts n c x (Parser.value >>= f) := look rfl hf

theorem token {f : TokenKind → Parser β} (hf : Lasts n c x (f x.token)) :
    Lasts n c x (Parser.token >>= f) := look rfl hf

theorem state {f : ParserState → Parser β} (hf : Lasts n c x (f (x.state n c))) :
    Lasts n c x (get >>= f) := look rfl hf

theorem lineBreak {f : Bool → Parser β} (hf : ∀ b, Lasts n c x (f b)) :
    Lasts n c x (Parser.lineBreak >>= f) := look rfl (hf _)

theorem isToken {k : TokenKind} {f : Bool → Parser β}
    (hf : ∀ b, (b = true ↔ x.token = k) → Lasts n c x (f b)) :
    Lasts n c x (Parser.isToken k >>= f) := look rfl (hf _ beq_iff_eq)

theorem isWord {word : String} {f : Bool → Parser β}
    (hf : ∀ b, (b = true ↔ x.token = .identifier ∧ x.value = word) → Lasts n c x (f b)) :
    Lasts n c x (Parser.isWord word >>= f) :=
  look rfl (hf _ (by simp [Place.token, Place.value, Place.state]))

theorem ifToken {k : TokenKind} {p q : Parser β} (yes : x.token = k → Lasts n c x p)
    (no : x.token ≠ k → Lasts n c x q) :
    Lasts n c x (Parser.isToken k >>= fun b => if b = true then p else q) :=
  isToken fun _ is => ite (fun h => yes (is.mp h)) fun h => no (mt is.mpr h)

end current

/-! ### Consuming tokens -/

section consume

variable {k : TokenKind} {p q : Parser β} {f : Unit → Parser β}

theorem advance (proper : x.token.isProper = true)
    (hf : ∀ y, x.Takes x.token y → Lasts n c y (f ())) : Lasts n c x (Parser.advance >>= f) := by
  refine bind (P := fun _ y => x.Takes x.token y) Frugal.advance.lasts ?_ fun _ => hf
  rw [← bind_pure Parser.advance]
  exact .advance proper fun y taken => .pure taken

/-- The same where the kind of the token is known. -/
theorem take (is : x.token = k) (proper : k.isProper = true)
    (hf : ∀ y, x.Takes k y → Lasts n c y (f ())) : Lasts n c x (Parser.advance >>= f) := by
  subst is
  exact advance proper hf

theorem expect (proper : k.isProper = true) (hf : ∀ y, x.Takes k y → Lasts n c y (f ())) :
    Lasts n c x (Parser.expect k >>= f) := by
  refine bind (P := fun _ y => x.Takes k y) Frugal.expect.lasts ?_ fun _ => hf
  rw [← bind_pure (Parser.expect k)]
  exact .expect proper fun y taken => .pure taken

theorem accept {f : Bool → Parser β} (proper : k.isProper = true)
    (hf : ∀ b y, x.Accepts k b y → Lasts n c y (f b)) : Lasts n c x (Parser.accept k >>= f) := by
  refine bind (P := fun b y => x.Accepts k b y) Frugal.accept.lasts ?_ hf
  rw [← bind_pure (Parser.accept k)]
  exact .accept proper fun b y accepted => .pure accepted

theorem ifAccept (proper : k.isProper = true) (yes : ∀ y, x.Takes k y → Lasts n c y p)
    (no : Lasts n c x q) :
    Lasts n c x (Parser.accept k >>= fun b => if b = true then p else q) := by
  refine accept proper fun b y accepted => ?_
  cases accepted with
  | taken mark => exact ite (fun _ => yes y mark) fun never => absurd rfl never
  | absent => exact ite nofun fun _ => no

/-- A word that is only consumed where `b` says that it is there. -/
theorem acceptWord {b : Bool} {word : String}
    (is : b = true → x.token = .identifier ∧ x.value = word)
    (hf : ∀ y, x.AcceptsWord word b y → Lasts n c y (f ())) :
    Lasts n c x (if b = true then Parser.advance >>= f else f ()) := by
  cases b with
  | false => exact ite nofun fun _ => hf x .absent
  | true =>
    refine ite (fun _ => ?_) fun never => absurd rfl never
    exact take (is rfl).1 rfl fun y taken => hf y (.taken taken (is rfl).2)

theorem reread {again : Scanner → Scanner}
    (hf : ((again x.scanner).token = .unknown → (again x.scanner).error? = none) →
      Lasts n c ⟨again x.scanner, x.prevEnd⟩ (f ())) :
    Lasts n c x (Parser.reread again >>= f) := by
  refine Frugal.reread.lasts.bind (P := fun _ y => y = ⟨again x.scanner, x.prevEnd⟩ ∧
    ((again x.scanner).token = .unknown → (again x.scanner).error? = none)) ?_ ?_
  · rw [← bind_pure (Parser.reread again)]
    exact .reread fun sound => .pure ⟨rfl, sound⟩
  · rintro _ _ ⟨rfl, sound⟩
    exact hf sound

/-- A name and what follows it. -/
theorem named {f : Tree → Parser β} (hf : ∀ y, x.Takes .identifier y → Lasts n c y (f (x.name y))) :
    Lasts n c x (Parser.identifier >>= f) := by
  refine bind (P := fun t y => x.Takes .identifier y ∧ t = x.name y) Frugal.identifier.lasts ?_ ?_
  · exact .identifier fun y taken => ⟨taken, rfl⟩
  · rintro _ y ⟨taken, rfl⟩
    exact hf y taken

/-- A question that leaves everything as it is. -/
theorem asking {p : Parser α} {f : α → Parser β} {R : α → Prop} (hp : Lasts n c x p)
    (leads : Leads n c x p fun a y => y = x ∧ R a) (hf : ∀ a, R a → Lasts n c x (f a)) :
    Lasts n c x (p >>= f) := by
  refine hp.bind leads ?_
  rintro a _ ⟨rfl, h⟩
  exact hf a h

end consume

/-! ### Loops

A loop may be left with more turns than there are characters, and every turn that is not the last
takes one. -/

section loops

variable {text : List Char} {budget : Nat} {part : Part}

theorem loop {turns : Nat} {turn : α → Parser (α ⊕ β)} {a : α} (enough : x.left < turns)
    (room : x.Roomy text budget 5)
    (each : ∀ a x, x.Roomy text budget 5 → Lasts n c x (turn a))
    (further : ∀ a x, x.Roomy text budget 5 →
      Leads n c x (turn a) fun r y => r.isLeft = true → x.Further text y) :
    Lasts n c x (Parser.loop turns turn a) := by
  induction turns generalizing a x with
  | zero => exact absurd enough (Nat.not_lt_zero _)
  | succ turns ih =>
    refine (each a x room).bind (further a x room) fun r y further => ?_
    cases r with
    | inl a =>
      have shorter := (further rfl).shorter
      exact ih (by omega) (room.further (further rfl))
    | inr b => exact Frugal.pure.lasts

theorem repeatWhile {turns : Nat} {more : Parser Bool} {item : Parser Tree}
    (enough : x.left < turns) (room : x.Roomy text budget 5) (asks : Frugal more)
    (stays : ∀ x, Leads n c x more fun _ y => y = x)
    (reads : ∀ x, Leads n c x item fun t y => Derives n c part x [t] y)
    (each : ∀ x, x.Roomy text budget 5 → Lasts n c x item) :
    Lasts n c x (Parser.repeatWhile turns more item) := by
  induction turns generalizing x with
  | zero => exact absurd enough (Nat.not_lt_zero _)
  | succ turns ih =>
    refine asks.lasts.asking ((stays x).mono fun _ _ same => ⟨same, trivial⟩) fun _ _ => ?_
    refine ite (fun _ => (each x room).bind (reads x) fun t y item => ?_)
      fun _ => Frugal.pure.lasts
    have shorter := (item.further room.sound).shorter
    exact (ih (by omega) (item.more room)).before fun _ => .pure

theorem commaList {turns : Nat} {close : TokenKind} {item : Parser Tree} (enough : x.left < turns)
    (room : x.Roomy text budget 5)
    (reads : ∀ x, Leads n c x item fun t y => Derives n c part x [t] y)
    (each : ∀ x, x.Roomy text budget 5 → Lasts n c x item) :
    Lasts n c x (Parser.commaList turns close item) := by
  induction turns generalizing x with
  | zero => exact absurd enough (Nat.not_lt_zero _)
  | succ turns ih =>
    refine ifToken (fun _ => Frugal.pure.lasts) fun _ => ?_
    refine (each x room).bind (reads x) fun t y item => ?_
    refine ifAccept rfl (fun z comma => ?_) Frugal.pure.lasts
    have shorter := (item.further room.sound).shorter
    have behind := comma.left_lt (item.roomy room).sound
    exact (ih (by omega) ((item.more room).taken comma)).before fun _ => .pure

theorem commaSequence {turns : Nat} {item : Parser Tree} (enough : x.left < turns)
    (room : x.Roomy text budget 5)
    (reads : ∀ x, Leads n c x item fun t y => Derives n c part x [t] y)
    (each : ∀ x, x.Roomy text budget 5 → Lasts n c x item) :
    Lasts n c x (Parser.commaSequence turns item) := by
  induction turns generalizing x with
  | zero => exact absurd enough (Nat.not_lt_zero _)
  | succ turns ih =>
    refine (each x room).bind (reads x) fun t y item => ?_
    refine ifAccept rfl (fun z comma => ?_) Frugal.pure.lasts
    have shorter := (item.further room.sound).shorter
    have behind := comma.left_lt (item.roomy room).sound
    exact (ih (by omega) ((item.more room).taken comma)).before fun _ => .pure

end loops

end Lasts

end Parser

end Shapewire
