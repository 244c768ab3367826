/-
Parsers that agree.

Two parsers agree if, from states that are the same but for where tokens lie, they end alike: both
build something, and what they build is related and the states they stop in are the same again, or
both stop at a fault, and the faults say the same.  If either runs out of its budget nothing is said
of the other, so parsers with different budgets may agree.

There is one rule for each way parsers are put together, for a part of the grammar against the same
part with another descent.  What a parser may see of a token is the same on both sides, so both take
the same way; the one thing they may not do is to read a token again, and the tokens at which
they would are kept out (`Scanner.Alike`).
-/
import Shapewire.Grammar.Descent
import Shapewire.Proofs.Grammar.Question
import Shapewire.Proofs.Token.Alike
import Shapewire.Proofs.Tree.Outline

namespace Shapewire

/-- States of parsers that are the same but for where tokens lie. -/
structure ParserState.Alike (s s' : ParserState) : Prop where
  scanner : s.scanner.Alike s'.scanner
  depth : s.depth = s'.depth
  context : s.context = s'.context

/-- Faults that are the same but for where they lie. -/
inductive Fault.Alike : Fault → Fault → Prop where
  | unexpected {pos pos' : Nat} {expected found : String} :
    Fault.Alike (.unexpected pos expected found) (.unexpected pos' expected found)
  | nestingTooDeep {pos pos' limit : Nat} :
    Fault.Alike (.nestingTooDeep pos limit) (.nestingTooDeep pos' limit)

namespace Parser

variable {α β α' β' : Type}

/-- Two parsers end alike: with related results, or at faults that say the same.  Nothing is asked
if one of them runs out of its budget. -/
inductive EndAlike (R : α → α' → Prop) :
    EStateM.Result Stop ParserState α → EStateM.Result Stop ParserState α' → Prop where
  | ok {a : α} {a' : α'} {t t' : ParserState} (results : R a a') (states : t.Alike t') :
    EndAlike R (.ok a t) (.ok a' t')
  | fault {f f' : Fault} {t t' : ParserState} (faults : f.Alike f') :
    EndAlike R (.error (.fault f) t) (.error (.fault f') t')
  | left {t : ParserState} {r : EStateM.Result Stop ParserState α'} :
    EndAlike R (.error .exhausted t) r
  | right {t : ParserState} {r : EStateM.Result Stop ParserState α} :
    EndAlike R r (.error .exhausted t)

/-- From states that are the same but for where tokens lie, the parsers end alike. -/
def Agree (R : α → α' → Prop) (p : Parser α) (p' : Parser α') : Prop :=
  ∀ s s', s.Alike s' → EndAlike R (p s) (p' s')

namespace Agree

variable {P : α → α' → Prop} {Q : β → β' → Prop}

/-! ### Sequences and choices -/

theorem pure {a : α} {a' : α'} (h : P a a') : Agree P (Pure.pure a) (Pure.pure a') :=
  fun _ _ states => .ok h states

theorem exhausted {p' : Parser α'} : Agree P (throw .exhausted) p' := fun _ _ _ => .left

theorem exhausted' {p : Parser α} : Agree P p (throw .exhausted) := fun _ _ _ => .right

theorem bind {p : Parser α} {p' : Parser α'} {f : α → Parser β} {f' : α' → Parser β'}
    (hp : Agree P p p') (hf : ∀ a a', P a a' → Agree Q (f a) (f' a')) :
    Agree Q (p >>= f) (p' >>= f') := by
  intro s s' states
  have first := hp s s' states
  show EndAlike Q (EStateM.bind p f s) (EStateM.bind p' f' s')
  unfold EStateM.bind
  generalize p s = r, p' s' = r' at first
  cases first with
  | ok results states => exact hf _ _ results _ _ states
  | fault faults => exact .fault faults
  | left => exact .left
  | right => exact .right

/-- A part that gives the same on both sides, and what follows it. -/
theorem same {p p' : Parser α} {f : α → Parser β} {f' : α → Parser β'} (hp : Agree Eq p p')
    (hf : ∀ a, Agree Q (f a) (f' a)) : Agree Q (p >>= f) (p' >>= f') := by
  refine hp.bind ?_
  rintro a _ rfl
  exact hf a

theorem mono {P' : α → α' → Prop} {p : Parser α} {p' : Parser α'} (hp : Agree P p p')
    (weaker : ∀ a a', P a a' → P' a a') : Agree P' p p' := by
  intro s s' states
  have ends := hp s s' states
  generalize p s = r, p' s' = r' at ends ⊢
  cases ends with
  | ok results states => exact .ok (weaker _ _ results) states
  | fault faults => exact .fault faults
  | left => exact .left
  | right => exact .right

theorem map {p : Parser α} {p' : Parser α'} {f : α → β} {f' : α' → β'}
    (hp : Agree (fun a a' => Q (f a) (f' a')) p p') : Agree Q (f <$> p) (f' <$> p') := by
  rw [map_eq_pure_bind, map_eq_pure_bind]
  exact hp.bind fun _ _ h => pure h

theorem ite {b : Prop} [Decidable b] {p q : Parser α} {p' q' : Parser α'} (hp : b → Agree P p p')
    (hq : ¬b → Agree P q q') : Agree P (if b then p else q) (if b then p' else q') := by
  split
  · exact hp ‹_›
  · exact hq ‹_›

/-- A choice between two ways to go on alike. -/
theorem join {b : Prop} [Decidable b] {p q : Parser α} {p' q' : Parser α'} {f : α → Parser β}
    {f' : α' → Parser β'} (hp : b → Agree P p p') (hq : ¬b → Agree P q q')
    (hf : ∀ a a', P a a' → Agree Q (f a) (f' a')) :
    Agree Q (if b then p >>= f else q >>= f) (if b then p' >>= f' else q' >>= f') :=
  ite (fun h => (hp h).bind hf) fun h => (hq h).bind hf

/-! ### The state -/

theorem state {f : ParserState → Parser β} {f' : ParserState → Parser β'}
    (hf : ∀ s s', s.Alike s' → Agree Q (f s) (f' s')) : Agree Q (get >>= f) (get >>= f') :=
  fun s s' states => hf s s' states s s' states

theorem change {f f' : ParserState → ParserState} (hf : ∀ s s', s.Alike s' → (f s).Alike (f' s')) :
    Agree (fun _ _ => True) (modify f : Parser Unit) (modify f') :=
  fun s s' states => .ok trivial (hf s s' states)

theorem pos {f : Nat → Parser β} {f' : Nat → Parser β'} (hf : ∀ i i', Agree Q (f i) (f' i')) :
    Agree Q (Parser.pos >>= f) (Parser.pos >>= f') :=
  fun s s' states => hf _ _ s s' states

theorem prevEnd {f : Nat → Parser β} {f' : Nat → Parser β'} (hf : ∀ i i', Agree Q (f i) (f' i')) :
    Agree Q (Parser.prevEnd >>= f) (Parser.prevEnd >>= f') :=
  fun s s' states => hf _ _ s s' states

/-- The current token is one that is never read again. -/
theorem token {f : TokenKind → Parser β} {f' : TokenKind → Parser β'}
    (hf : ∀ k, k.isPlain = true → Agree Q (f k) (f' k)) :
    Agree Q (Parser.token >>= f) (Parser.token >>= f') := by
  intro s s' states
  show EndAlike Q (f s.scanner.token s) (f' s'.scanner.token s')
  rw [← states.scanner.token]
  exact hf _ states.scanner.isPlain s s' states

/-- A look at the state that sees the same on both sides. -/
theorem look {f : ParserState → α} (same : ∀ s s', s.Alike s' → f s = f s') :
    Agree Eq (do return f (← get)) (do return f (← get)) :=
  state fun s s' states => pure (same s s' states)

theorem value : Agree Eq Parser.value Parser.value := look fun _ _ states => states.scanner.value

theorem lineBreak : Agree Eq Parser.lineBreak Parser.lineBreak :=
  look fun _ _ states => states.scanner.lineBreak

theorem isToken {k : TokenKind} : Agree Eq (Parser.isToken k) (Parser.isToken k) :=
  token fun _ _ => pure rfl

theorem isWord {word : String} : Agree Eq (Parser.isWord word) (Parser.isWord word) :=
  token fun _ _ => same value fun _ => pure rfl

theorem ifToken {k : TokenKind} {p q : Parser β} {p' q' : Parser β'} (yes : Agree Q p p')
    (no : Agree Q q q') : Agree Q (Parser.isToken k >>= fun b => if b = true then p else q)
      (Parser.isToken k >>= fun b => if b = true then p' else q') :=
  same isToken fun _ => ite (fun _ => yes) fun _ => no

/-! ### Faults and tokens -/

theorem unexpected {expected : String} :
    Agree P (Parser.unexpected expected) (Parser.unexpected expected) := by
  refine state fun s s' states => ?_
  have same : found s.scanner = found s'.scanner := by
    rw [found, found, states.scanner.token, states.scanner.value]
  dsimp only
  rw [same]
  exact fun _ _ _ => .fault .unexpected

/-- A token that is never read again has no fault. -/
theorem checkToken : Agree Eq Parser.checkToken Parser.checkToken := by
  refine state fun s s' states => ?_
  have plain := states.scanner.isPlain
  have same := states.scanner.token
  dsimp only
  split
  · rename_i unknown _
    rw [unknown] at plain
    cases plain
  · split
    · rename_i unknown _
      rw [same, unknown] at plain
      cases plain
    · exact pure rfl

theorem advance : Agree Eq Parser.advance Parser.advance := by
  refine (change fun s s' states => ?_).bind fun _ _ _ => checkToken
  exact ⟨states.scanner.scan, states.depth, states.context⟩

theorem expect {k : TokenKind} : Agree Eq (Parser.expect k) (Parser.expect k) :=
  ifToken advance unexpected

theorem accept {k : TokenKind} : Agree Eq (Parser.accept k) (Parser.accept k) :=
  ifToken (same advance fun _ => pure rfl) (pure rfl)

theorem mayEndStatement : Agree Eq Parser.mayEndStatement Parser.mayEndStatement := by
  refine token fun k _ => ?_
  split
  · exact pure rfl
  · exact pure rfl
  · exact pure rfl
  · exact lineBreak

theorem endStatement : Agree Eq Parser.endStatement Parser.endStatement :=
  ifToken advance (same mayEndStatement fun _ => ite (fun _ => pure rfl) fun _ => unexpected)

/-! ### Depth and context -/

theorem nested {p : Parser α} {p' : Parser α'} (hp : Agree P p p') :
    Agree P (Parser.nested p) (Parser.nested p') := by
  intro s s' states
  unfold Parser.nested
  rw [← states.depth]
  split
  · exact .fault .nestingTooDeep
  · have ends := hp { s with depth := s.depth + 1 } { s' with depth := s.depth + 1 }
      ⟨states.scanner, rfl, states.context⟩
    generalize p _ = r, p' _ = r' at ends
    cases ends with
    | ok results states =>
      exact .ok results ⟨states.scanner, congrArg (· - 1) states.depth, states.context⟩
    | fault faults => exact .fault faults
    | left => exact .left
    | right => exact .right

theorem withContext {change : Context → Context} {p : Parser α} {p' : Parser α'}
    (hp : Agree P p p') : Agree P (Parser.withContext change p) (Parser.withContext change p') := by
  intro s s' states
  unfold Parser.withContext
  rw [← states.context]
  have ends := hp { s with context := change s.context } { s' with context := change s.context }
    ⟨states.scanner, states.depth, rfl⟩
  generalize p _ = r, p' _ = r' at ends
  cases ends with
  | ok results states => exact .ok results ⟨states.scanner, states.depth, rfl⟩
  | fault faults => exact .fault faults
  | left => exact .left
  | right => exact .right

theorem allowIn {p : Parser α} {p' : Parser α'} (hp : Agree P p p') :
    Agree P (Parser.allowIn p) (Parser.allowIn p') := withContext hp

/-! ### Looking ahead -/

theorem question (q : Question) : Agree Eq q.parser q.parser := by
  intro s s' states
  have same : q.holds s.scanner.token s.scanner = q.holds s'.scanner.token s'.scanner :=
    Question.holds_congr (fun h => h.token) (fun h => h.scan.lineBreak) (fun h => h.scan) q
      states.scanner states.scanner.value
  rw [q.parser_eq, q.parser_eq]
  exact .ok same states

theorem startsAsyncFunction : Agree Eq Parser.startsAsyncFunction Parser.startsAsyncFunction :=
  question .asyncFunction

theorem startsLabel : Agree Eq Parser.startsLabel Parser.startsLabel := question .label

theorem startsAsyncArrow : Agree Eq Parser.startsAsyncArrow Parser.startsAsyncArrow :=
  question .asyncArrow

theorem startsArrow : Agree Eq Parser.startsArrow Parser.startsArrow := question .arrow

theorem startsAsyncMember : Agree Eq Parser.startsAsyncMember Parser.startsAsyncMember :=
  question .asyncMember

theorem startsAccessor : Agree Eq Parser.startsAccessor Parser.startsAccessor := question .accessor

/-! ### Loops -/

/-- Two budgets are spent together, until one of them is used up. -/
@[elab_as_elim]
theorem spend {motive : Nat → Nat → Prop} (left : ∀ turns', motive 0 turns')
    (right : ∀ turns, motive (turns + 1) 0)
    (both : ∀ turns turns', motive turns turns' → motive (turns + 1) (turns' + 1))
    (turns turns' : Nat) : motive turns turns' := by
  induction turns generalizing turns' with
  | zero => exact left turns'
  | succ turns ih =>
    cases turns' with
    | zero => exact right turns
    | succ turns' => exact both turns turns' (ih turns')

/-- Loops agree if their turns do, whatever turns each may make. -/
theorem loop {turns turns' : Nat} {turn : α → Parser (α ⊕ β)} {turn' : α' → Parser (α' ⊕ β')}
    {a : α} {a' : α'} (start : P a a')
    (each : ∀ a a', P a a' → Agree (Sum.LiftRel P Q) (turn a) (turn' a')) :
    Agree Q (Parser.loop turns turn a) (Parser.loop turns' turn' a') := by
  induction turns, turns' using spend generalizing a a' with
  | left => exact exhausted
  | right => exact exhausted'
  | both turns turns' ih =>
    refine (each a a' start).bind fun r r' kept => ?_
    cases kept with
    | inl kept => exact ih kept
    | inr done => exact pure done

/-- What is read of two lists, item by item. -/
theorem cons {p : Parser (List α)} {p' : Parser (List α')} {a : α} {a' : α'} (first : P a a')
    (rest : Agree (List.Forall₂ P) p p') :
    Agree (List.Forall₂ P) (p >>= fun as => Pure.pure (a :: as))
      (p' >>= fun as => Pure.pure (a' :: as)) :=
  rest.bind fun _ _ h => pure (.cons first h)

theorem repeatWhile {turns turns' : Nat} {more : Parser Bool} {item : Parser α}
    {item' : Parser α'} (asks : Agree Eq more more) (each : Agree P item item') :
    Agree (List.Forall₂ P) (Parser.repeatWhile turns more item)
      (Parser.repeatWhile turns' more item') := by
  induction turns, turns' using spend with
  | left => exact exhausted
  | right => exact exhausted'
  | both turns turns' ih =>
    refine same asks fun _ => ite (fun _ => ?_) fun _ => pure .nil
    exact each.bind fun a a' first => cons first ih

theorem commaList {turns turns' : Nat} {close : TokenKind} {item : Parser α} {item' : Parser α'}
    (each : Agree P item item') : Agree (List.Forall₂ P) (Parser.commaList turns close item)
      (Parser.commaList turns' close item') := by
  induction turns, turns' using spend with
  | left => exact exhausted
  | right => exact exhausted'
  | both turns turns' ih =>
    refine ifToken (pure .nil) (each.bind fun a a' first => same accept fun _ => ?_)
    exact ite (fun _ => cons first ih) fun _ => pure (.cons first .nil)

theorem commaSequence {turns turns' : Nat} {item : Parser α} {item' : Parser α'}
    (each : Agree P item item') : Agree (List.Forall₂ P) (Parser.commaSequence turns item)
      (Parser.commaSequence turns' item') := by
  induction turns, turns' using spend with
  | left => exact exhausted
  | right => exact exhausted'
  | both turns turns' ih =>
    refine each.bind fun a a' first => same accept fun _ => ?_
    exact ite (fun _ => cons first ih) fun _ => pure (.cons first .nil)

end Agree

end Parser

end Shapewire
