/-
Where a parser arrives.

`Leads` says where a parser stops if it builds something; `Arrives n c x p Q` says that it does
build something from the place `x`, and that `Q` relates it to the place where it stops, as deep and
in the same context as it started.  The rules follow a run that is known token by token: a question
about the current token is replaced by its answer, and consuming it leads to the place behind it,
where no fault may be.
-/
import Shapewire.Proofs.Grammar.Place

namespace Shapewire

namespace Parser

variable {α β : Type} {n : Nat} {c : Context} {x : Place} {P : α → Place → Prop}
  {Q : β → Place → Prop}

/-- From `x` on the parser builds something, and `Q` relates it to the place where it stops. -/
def Arrives (n : Nat) (c : Context) (x : Place) (p : Parser α) (Q : α → Place → Prop) : Prop :=
  ∃ a y, p (x.state n c) = .ok a (y.state n c) ∧ Q a y

namespace Arrives

theorem mono {P' : α → Place → Prop} {p : Parser α} (hp : Arrives n c x p P)
    (weaker : ∀ a y, P a y → P' a y) : Arrives n c x p P' := by
  obtain ⟨a, y, run, h⟩ := hp
  exact ⟨a, y, run, weaker a y h⟩

theorem pure {a : α} (h : P a x) : Arrives n c x (Pure.pure a) P := ⟨a, x, rfl, h⟩

theorem bind {p : Parser α} {f : α → Parser β} (hp : Arrives n c x p P)
    (hf : ∀ a y, P a y → Arrives n c y (f a) Q) : Arrives n c x (p >>= f) Q := by
  obtain ⟨a, y, first, h⟩ := hp
  obtain ⟨b, z, rest, h'⟩ := hf a y h
  exact ⟨b, z, bind_eq_ok.mpr ⟨a, _, first, rest⟩, h'⟩

/-- One construct deeper, where that is not too deep. -/
theorem nested {p : Parser α} (room : n < maxNesting) (hp : Arrives (n + 1) c x p P) :
    Arrives n c x (Parser.nested p) P := by
  obtain ⟨a, y, run, h⟩ := hp
  refine ⟨a, y, ?_, h⟩
  have inner : p { x.state n c with depth := (x.state n c).depth + 1 }
    = .ok a (y.state (n + 1) c) := run
  have shallow : ¬maxNesting ≤ (x.state n c).depth := Nat.not_le.mpr room
  simp only [Parser.nested, if_neg shallow, inner]
  rfl

theorem withContext {change : Context → Context} {p : Parser α}
    (hp : Arrives n (change c) x p P) : Arrives n c x (Parser.withContext change p) P := by
  obtain ⟨a, y, run, h⟩ := hp
  refine ⟨a, y, ?_, h⟩
  have inner : p { x.state n c with context := change (x.state n c).context }
    = .ok a (y.state n (change c)) := run
  simp only [Parser.withContext, inner]
  rfl

theorem allowIn {p : Parser α} (hp : Arrives n { c with noIn := false } x p P) :
    Arrives n c x (Parser.allowIn p) P := withContext hp

/-! ### The current token -/

theorem pos {f : Nat → Parser β} (hf : Arrives n c x (f x.pos) Q) :
    Arrives n c x (Parser.pos >>= f) Q := hf

theorem value {f : String → Parser β} (hf : Arrives n c x (f x.value) Q) :
    Arrives n c x (Parser.value >>= f) Q := hf

theorem token {f : TokenKind → Parser β} (hf : Arrives n c x (f x.token) Q) :
    Arrives n c x (Parser.token >>= f) Q := hf

theorem state {f : ParserState → Parser β} (hf : Arrives n c x (f (x.state n c)) Q) :
    Arrives n c x (get >>= f) Q := hf

theorem lineBreak {f : Bool → Parser β} (hf : ∀ b, Arrives n c x (f b) Q) :
    Arrives n c x (Parser.lineBreak >>= f) Q := hf x.scanner.lineBreak

theorem isToken {k : TokenKind} {f : Bool → Parser β} (hf : Arrives n c x (f (x.token == k)) Q) :
    Arrives n c x (Parser.isToken k >>= f) Q := hf

/-- The current token is another. -/
theorem notToken {k : TokenKind} {f : Bool → Parser β} (other : x.token ≠ k)
    (hf : Arrives n c x (f false) Q) : Arrives n c x (Parser.isToken k >>= f) Q := by
  refine isToken ?_
  rwa [beq_false_of_ne other]

theorem isWord {word : String} {f : Bool → Parser β}
    (hf : Arrives n c x (f (x.token == .identifier && x.value == word)) Q) :
    Arrives n c x (Parser.isWord word >>= f) Q := hf

theorem notAccepted {k : TokenKind} {f : Bool → Parser β} (other : x.token ≠ k)
    (hf : Arrives n c x (f false) Q) : Arrives n c x (Parser.accept k >>= f) Q := by
  have no : Arrives n c x (Parser.accept k) fun b y => b = false ∧ y = x :=
    notToken other (pure ⟨rfl, rfl⟩)
  refine no.bind ?_
  rintro _ _ ⟨rfl, rfl⟩
  exact hf

/-- No fault is in the current token. -/
theorem checked (sound : x.token ≠ .unknown) : Arrives n c x checkToken fun _ y => y = x := by
  refine state ?_
  dsimp only
  split
  · exact absurd ‹_› sound
  · exact pure rfl

/-- The current token is consumed where no fault is in the token behind it. -/
theorem step {f : Unit → Parser β} (sound : x.next.token ≠ .unknown)
    (hf : Arrives n c x.next (f ()) Q) : Arrives n c x (Parser.advance >>= f) Q := by
  obtain ⟨_, _, run, rfl⟩ := checked (n := n) (c := c) sound
  obtain ⟨b, z, rest, h⟩ := hf
  exact ⟨b, z, bind_eq_ok.mpr ⟨(), _, bind_eq_ok.mpr ⟨(), _, rfl, run⟩, rest⟩, h⟩

/-- The current token is read again, as something without a fault. -/
theorem reread {again : Scanner → Scanner} {f : Unit → Parser β}
    (sound : (again x.scanner).token ≠ .unknown)
    (hf : Arrives n c ⟨again x.scanner, x.prevEnd⟩ (f ()) Q) :
    Arrives n c x (Parser.reread again >>= f) Q := by
  have whole := checked (n := n) (c := c) (x := ⟨again x.scanner, x.prevEnd⟩) sound
  obtain ⟨_, _, run, rfl⟩ := whole
  obtain ⟨b, z, rest, h⟩ := hf
  exact ⟨b, z, bind_eq_ok.mpr ⟨(), _, bind_eq_ok.mpr ⟨(), _, rfl, run⟩, rest⟩, h⟩

/-! ### Looking ahead -/

/-- What is asked about does not lie ahead, and nothing has moved. -/
theorem answeredNo {q : Question} (no : q.holds x.token x.scanner = false) :
    Arrives n c x q.parser fun b y => b = false ∧ y = x :=
  ⟨_, x, q.parser_eq (x.state n c), no, rfl⟩

theorem finish {kind : NodeKind} {start : Nat} {record : Record Tree (Option Tree) String}
    {f : Tree → Parser β}
    (hf : Arrives n c x (f (.node kind record.flags ⟨start, x.prevEnd⟩ (some record))) Q) :
    Arrives n c x (Parser.finish kind start record >>= f) Q := hf

/-! ### Loops -/

/-- A loop with a turn that goes on. -/
theorem loopMore {turns : Nat} {turn : α → Parser (α ⊕ β)} {a : α}
    (more : Arrives n c x (turn a) fun r y =>
      ∃ b, r = .inl b ∧ Arrives n c y (Parser.loop turns turn b) Q) :
    Arrives n c x (Parser.loop (turns + 1) turn a) Q := by
  refine more.bind ?_
  rintro _ y ⟨b, rfl, h⟩
  exact h

/-- A loop with a turn that gives its result. -/
theorem loopLast {turns : Nat} {turn : α → Parser (α ⊕ β)} {a : α}
    (last : Arrives n c x (turn a) fun r y => ∃ b, r = .inr b ∧ Q b y) :
    Arrives n c x (Parser.loop (turns + 1) turn a) Q := by
  refine last.bind ?_
  rintro _ y ⟨b, rfl, h⟩
  exact pure h

/-- A list of one item. -/
theorem repeatOnce {turns : Nat} {more : Parser Bool} {item : Parser α} {P : α → Prop}
    (goesOn : Arrives n c x more fun b y => b = true ∧ y = x)
    (once : Arrives n c x item fun a y => P a ∧ Arrives n c y more fun b z => b = false ∧ z = y) :
    Arrives n c x (Parser.repeatWhile (turns + 2) more item) fun as _ => ∃ a, as = [a] ∧ P a := by
  refine goesOn.bind ?_
  rintro _ _ ⟨rfl, rfl⟩
  refine once.bind fun a y ⟨holds, stops⟩ => ?_
  have rest : Arrives n c y (Parser.repeatWhile (turns + 1) more item) fun as _ => as = [] := by
    refine stops.bind ?_
    rintro _ _ ⟨rfl, rfl⟩
    exact pure rfl
  refine rest.bind ?_
  rintro _ _ rfl
  exact pure ⟨a, rfl, holds⟩

end Arrives

end Parser

end Shapewire
