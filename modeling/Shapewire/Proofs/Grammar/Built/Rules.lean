/-
How the parsers of the grammar are put together.

All of them are made of a few.  Some ask a question about the tokens ahead, some consume a token or
read it again, some stop; the others run these one after the other, one construct deeper or in
another context.  `Built n p q` says that the parser `p` is made in this way on level `n`, where so
many constructs are open, and that `q` is made in the very same way.  With `p` for both it says how
`p` is made; with two parsers it allows to replace one that counts in its state by one that is told
where it stands (`atDepth`).

What is true of every parser that the grammar is made of is shown by induction on `Built`, with one
case for each of the few, and no production has to be looked at again.
-/
import Shapewire.Grammar.Descent
import Shapewire.Proofs.Grammar.Question

namespace Shapewire

namespace Parser

variable {α β : Type}

/-! ### Questions -/

/-- The parser always answers and leaves everything as it is. -/
def Asks (p : Parser α) : Prop := ∀ s, ∃ a, p s = .ok a s

namespace Asks

theorem pure {a : α} : Asks (Pure.pure a) := fun _ => ⟨a, rfl⟩

theorem bind {p : Parser α} {f : α → Parser β} (hp : Asks p) (hf : ∀ a, Asks (f a)) :
    Asks (p >>= f) := by
  intro s
  obtain ⟨a, first⟩ := hp s
  obtain ⟨b, rest⟩ := hf a s
  exact ⟨b, bind_eq_ok.mpr ⟨a, s, first, rest⟩⟩

theorem state : Asks (get : Parser ParserState) := fun s => ⟨s, rfl⟩

theorem look {f : ParserState → α} : Asks (do return f (← get)) := state.bind fun _ => pure

theorem token : Asks Parser.token := look

theorem value : Asks Parser.value := look

theorem pos : Asks Parser.pos := look

theorem prevEnd : Asks Parser.prevEnd := look

theorem lineBreak : Asks Parser.lineBreak := look

theorem isToken {k : TokenKind} : Asks (Parser.isToken k) := token.bind fun _ => pure

theorem isWord {word : String} : Asks (Parser.isWord word) :=
  token.bind fun _ => value.bind fun _ => pure

theorem mayEndStatement : Asks Parser.mayEndStatement := by
  refine token.bind fun k => ?_
  split
  · exact pure
  · exact pure
  · exact pure
  · exact lineBreak

theorem question (q : Question) : Asks q.parser := fun s => ⟨_, q.parser_eq s⟩

end Asks

/-! ### What parsers are made of -/

/-- Runs a parser with the depth set to `n`, whatever it was. -/
def atDepth (n : Nat) (p : Parser α) : Parser α := fun s => p { s with depth := n }

/-- On level `n` the parsers are made in the same way. -/
inductive Built : Nat → {α : Type} → Parser α → Parser α → Prop where
  | ask {n : Nat} {α : Type} {p : Parser α} (asks : Asks p) : Built n p p
  | exhausted {n : Nat} {α : Type} : Built n (throw .exhausted : Parser α) (throw .exhausted)
  | unexpected {n : Nat} {α : Type} {expected : String} :
    Built n (Parser.unexpected expected : Parser α) (Parser.unexpected expected)
  | advance {n : Nat} : Built n Parser.advance Parser.advance
  | rescanSlash {n : Nat} :
    Built n (Parser.reread Scanner.rescanSlash) (Parser.reread Scanner.rescanSlash)
  /-- A brace is only read again as text where it is the current token. -/
  | rescanTemplate {n : Nat} {α : Type} {expected : String} {f f' g g' : Unit → Parser α}
    (rest : ∀ a, Built n (f a) (g a)) :
    Built n
      (Parser.isToken .closeBrace >>= fun b =>
        if (!b) = true then Parser.unexpected expected >>= f'
        else Parser.reread Scanner.rescanTemplate >>= f)
      (Parser.isToken .closeBrace >>= fun b =>
        if (!b) = true then Parser.unexpected expected >>= g'
        else Parser.reread Scanner.rescanTemplate >>= g)
  | bind {n : Nat} {α β : Type} {p q : Parser α} {f g : α → Parser β} (first : Built n p q)
    (rest : ∀ a, Built n (f a) (g a)) : Built n (p >>= f) (q >>= g)
  /-- What is nested is one construct deeper. -/
  | nested {n : Nat} {α : Type} {p q : Parser α} (inner : Built (n + 1) p q) :
    Built n (Parser.nested p) (Parser.nested q)
  | withContext {n : Nat} {α : Type} {change : Context → Context} {p q : Parser α}
    (inner : Built n p q) :
    Built n (Parser.withContext change p) (Parser.withContext change q)
  /-- The parser may be told the depth. -/
  | atDepth {n : Nat} {α : Type} {p q : Parser α} (inner : Built n p q) :
    Built n p (Parser.atDepth n q)

namespace Built

variable {n : Nat}

/-- What is made in this way is so by itself. -/
theorem self {p q : Parser α} (h : Built n p q) : Built n p p := by
  induction h with
  | ask asks => exact .ask asks
  | exhausted => exact .exhausted
  | unexpected => exact .unexpected
  | advance => exact .advance
  | rescanSlash => exact .rescanSlash
  | rescanTemplate _ rest => exact .rescanTemplate rest
  | bind _ _ first rest => exact .bind first rest
  | nested _ inner => exact .nested inner
  | withContext _ inner => exact .withContext inner
  | atDepth _ inner => exact inner

/-! ### Sequences and choices -/

theorem pure {a : α} : Built n (Pure.pure a) (Pure.pure a) := .ask .pure

theorem map {p q : Parser α} {f : α → β} (hp : Built n p q) : Built n (f <$> p) (f <$> q) := by
  rw [map_eq_pure_bind, map_eq_pure_bind]
  exact hp.bind fun _ => pure

theorem ite {b : Prop} [Decidable b] {p q p' q' : Parser α} (hp : Built n p q)
    (hp' : Built n p' q') : Built n (if b then p else p') (if b then q else q') := by
  split
  · exact hp
  · exact hp'

/-- A choice between two ways to go on alike. -/
theorem join {b : Prop} [Decidable b] {p q p' q' : Parser α} {f g : α → Parser β}
    (hp : Built n p q) (hp' : Built n p' q') (hf : ∀ a, Built n (f a) (g a)) :
    Built n (if b then p >>= f else p' >>= f) (if b then q >>= g else q' >>= g) :=
  ite (hp.bind hf) (hp'.bind hf)

/-- A part that may be missing, and what follows it. -/
theorem optional {b : Prop} [Decidable b] {p q : Parser α} {f g : Option α → Parser β}
    (hp : Built n p q) (hf : ∀ a?, Built n (f a?) (g a?)) :
    Built n (if b then some <$> p >>= f else Pure.pure none >>= f)
      (if b then some <$> q >>= g else Pure.pure none >>= g) := join hp.map pure hf

/-- The same with the cases the other way around. -/
theorem optional' {b : Prop} [Decidable b] {p q : Parser α} {f g : Option α → Parser β}
    (hp : Built n p q) (hf : ∀ a?, Built n (f a?) (g a?)) :
    Built n (if b then Pure.pure none >>= f else some <$> p >>= f)
      (if b then Pure.pure none >>= g else some <$> q >>= g) := join pure hp.map hf

/-! ### The state and the current token -/

theorem state : Built n (get : Parser ParserState) get := .ask .state

theorem token : Built n Parser.token Parser.token := .ask .token

theorem value : Built n Parser.value Parser.value := .ask .value

theorem pos : Built n Parser.pos Parser.pos := .ask .pos

theorem prevEnd : Built n Parser.prevEnd Parser.prevEnd := .ask .prevEnd

theorem lineBreak : Built n Parser.lineBreak Parser.lineBreak := .ask .lineBreak

theorem isToken {k : TokenKind} : Built n (Parser.isToken k) (Parser.isToken k) := .ask .isToken

theorem isWord {word : String} : Built n (Parser.isWord word) (Parser.isWord word) := .ask .isWord

theorem ifToken {k : TokenKind} {p q p' q' : Parser β} (yes : Built n p q) (no : Built n p' q') :
    Built n (Parser.isToken k >>= fun b => if b = true then p else p')
      (Parser.isToken k >>= fun b => if b = true then q else q') :=
  isToken.bind fun _ => ite yes no

/-- A word that may be there, and what follows it. -/
theorem optionalWord {b : Bool} {f g : Unit → Parser β} (hf : Built n (f ()) (g ())) :
    Built n (if b = true then Parser.advance >>= f else f ())
      (if b = true then Parser.advance >>= g else g ()) :=
  ite (advance.bind fun _ => hf) hf

theorem expect {k : TokenKind} : Built n (Parser.expect k) (Parser.expect k) :=
  ifToken advance unexpected

theorem accept {k : TokenKind} : Built n (Parser.accept k) (Parser.accept k) :=
  ifToken (advance.bind fun _ => pure) pure

theorem mayEndStatement : Built n Parser.mayEndStatement Parser.mayEndStatement :=
  .ask .mayEndStatement

theorem endStatement : Built n Parser.endStatement Parser.endStatement :=
  ifToken advance (mayEndStatement.bind fun _ => ite pure unexpected)

theorem allowIn {p q : Parser α} (hp : Built n p q) :
    Built n (Parser.allowIn p) (Parser.allowIn q) := withContext hp

/-! ### Looking ahead -/

theorem startsAsyncFunction : Built n Parser.startsAsyncFunction Parser.startsAsyncFunction :=
  .ask (.question .asyncFunction)

theorem startsLabel : Built n Parser.startsLabel Parser.startsLabel := .ask (.question .label)

theorem startsAsyncArrow : Built n Parser.startsAsyncArrow Parser.startsAsyncArrow :=
  .ask (.question .asyncArrow)

theorem startsArrow : Built n Parser.startsArrow Parser.startsArrow := .ask (.question .arrow)

theorem startsAsyncMember : Built n Parser.startsAsyncMember Parser.startsAsyncMember :=
  .ask (.question .asyncMember)

theorem startsAccessor : Built n Parser.startsAccessor Parser.startsAccessor :=
  .ask (.question .accessor)

/-! ### Loops -/

theorem loop {turns : Nat} {turn turn' : α → Parser (α ⊕ β)} {a : α}
    (each : ∀ a, Built n (turn a) (turn' a)) :
    Built n (Parser.loop turns turn a) (Parser.loop turns turn' a) := by
  induction turns generalizing a with
  | zero => exact .exhausted
  | succ turns ih =>
    refine (each a).bind fun r => ?_
    cases r with
    | inl a => exact ih
    | inr b => exact pure

theorem repeatWhile {turns : Nat} {more : Parser Bool} {item item' : Parser α}
    (asks : Built n more more) (each : Built n item item') :
    Built n (Parser.repeatWhile turns more item) (Parser.repeatWhile turns more item') := by
  induction turns with
  | zero => exact .exhausted
  | succ turns ih =>
    exact asks.bind fun _ => ite (each.bind fun _ => ih.bind fun _ => pure) pure

theorem commaList {turns : Nat} {close : TokenKind} {item item' : Parser α}
    (each : Built n item item') :
    Built n (Parser.commaList turns close item) (Parser.commaList turns close item') := by
  induction turns with
  | zero => exact .exhausted
  | succ turns ih =>
    exact ifToken pure (each.bind fun _ => accept.bind fun _ => ite (ih.bind fun _ => pure) pure)

theorem commaSequence {turns : Nat} {item item' : Parser α} (each : Built n item item') :
    Built n (Parser.commaSequence turns item) (Parser.commaSequence turns item') := by
  induction turns with
  | zero => exact .exhausted
  | succ turns ih =>
    exact each.bind fun _ => accept.bind fun _ => ite (ih.bind fun _ => pure) pure

/-! ### Nodes, names and literals -/

variable {kind : NodeKind} {start : Nat}

theorem flagged {flags : NodeFlags} {r : Record Tree (Option Tree) String} :
    Built n (Parser.flagged kind flags start r) (Parser.flagged kind flags start r) :=
  prevEnd.bind fun _ => pure

theorem finish {r : Record Tree (Option Tree) String} :
    Built n (Parser.finish kind start r) (Parser.finish kind start r) := flagged

theorem finishLeaf : Built n (Parser.finishLeaf kind start) (Parser.finishLeaf kind start) :=
  prevEnd.bind fun _ => pure

theorem nameFromToken : Built n Parser.nameFromToken Parser.nameFromToken :=
  pos.bind fun _ => value.bind fun _ => advance.bind fun _ => finish

theorem identifier : Built n Parser.identifier Parser.identifier :=
  ifToken nameFromToken unexpected

theorem memberName : Built n Parser.memberName Parser.memberName :=
  token.bind fun _ => ite nameFromToken unexpected

theorem literal : Built n Parser.literal Parser.literal :=
  pos.bind fun _ => token.bind fun _ => value.bind fun _ => advance.bind fun _ => finish

end Built

end Parser

end Shapewire
