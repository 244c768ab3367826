/-
Reading trees and filling a table, side by side.

The grammar is used in two ways: to put trees together, and to fill a node table.  `Fills` runs the
same part of it both ways, from the same place in the source.  Both runs have to end at the same
place, and alike: either with the same fault, or with a tree on the one side and, on the other, the
nodes of that very tree at the end of the table (`Pending`).

There is one rule for each way parsers are put together.  Most steps leave the table alone and give
the same on both sides (`Same`), those that look ahead among them.  What has been read and is not
yet attached to a greater node is carried from step to step as pending trees, one behind the other;
`finish` is the rule at which they have to be accounted for, all of them and in their order.
-/
import Shapewire.Grammar.Filling
import Shapewire.Proofs.Grammar.Question
import Shapewire.Proofs.Tree.Pending

namespace Shapewire

namespace Parser

variable {α β γ δ : Type}

/-- Two runs end at the same place, with the same fault or with results that are related, given the
table in which the second one ends. -/
inductive EndsFilled (Q : α → β → Arena → Prop) : EStateM.Result Stop ParserState α →
    EStateM.Result Stop (ParserState Arena) β → Prop where
  | ok {x : α} {y : β} {t : ParserState} {b : Arena} (results : Q x y b) :
    EndsFilled Q (.ok x t) (.ok y (t.over b))
  | error {e : Stop} {t : ParserState} {b : Arena} : EndsFilled Q (.error e t) (.error e (t.over b))

/-- From the same place, with `a` as the table, the parsers end at the same place and alike. -/
def Fills (a : Arena) (p : Parser α) (w : ParserM Arena β) (Q : α → β → Arena → Prop) : Prop :=
  ∀ s : ParserState, EndsFilled Q (p s) (w (s.over a))

/-- The results are the same and the table is left as it was. -/
def Same (a : Arena) (x y : α) (b : Arena) : Prop := x = y ∧ b = a

namespace Fills

variable {a : Arena} {P : α → β → Arena → Prop} {Q : γ → δ → Arena → Prop}

/-! ### Sequences and choices -/

theorem pure {x : α} {y : β} (h : P x y a) : Fills a (Pure.pure x) (Pure.pure y) P :=
  fun _ => .ok h

theorem exhausted : Fills a (throw .exhausted : Parser α) (throw .exhausted) P := fun _ => .error

theorem bind {p : Parser α} {w : ParserM Arena β} {f : α → Parser γ} {g : β → ParserM Arena δ}
    (hp : Fills a p w P) (hf : ∀ x y b, P x y b → Fills b (f x) (g y) Q) :
    Fills a (p >>= f) (w >>= g) Q := by
  intro s
  have first := hp s
  show EndsFilled Q (EStateM.bind p f s) (EStateM.bind w g (s.over a))
  unfold EStateM.bind
  generalize p s = r, w (s.over a) = r' at first
  cases first with
  | ok results => exact hf _ _ _ results _
  | error => exact .error

/-- A step that leaves the table alone, and what follows it. -/
theorem same {p : Parser α} {w : ParserM Arena α} {f : α → Parser γ} {g : α → ParserM Arena δ}
    (hp : Fills a p w (Same a)) (hf : ∀ x, Fills a (f x) (g x) Q) :
    Fills a (p >>= f) (w >>= g) Q := by
  refine hp.bind ?_
  rintro x _ _ ⟨rfl, rfl⟩
  exact hf x

/-- A step whose result is wrapped, and what follows it. -/
theorem mapped {α' β' : Type} {h : α → α'} {k : β → β'} {p : Parser α} {w : ParserM Arena β}
    {f : α' → Parser γ} {g : β' → ParserM Arena δ} (hp : Fills a p w P)
    (hf : ∀ x y b, P x y b → Fills b (f (h x)) (g (k y)) Q) :
    Fills a (h <$> p >>= f) (k <$> w >>= g) Q := by
  rw [bind_map_left, bind_map_left]
  exact hp.bind hf

theorem ite {c : Prop} [Decidable c] {p q : Parser α} {w v : ParserM Arena β} (hp : Fills a p w P)
    (hq : Fills a q v P) : Fills a (if c then p else q) (if c then w else v) P := by
  split
  · exact hp
  · exact hq

/-- A choice between two ways to go on alike. -/
theorem join {c : Prop} [Decidable c] {p q : Parser α} {w v : ParserM Arena β}
    {f : α → Parser γ} {g : β → ParserM Arena δ} (hp : Fills a p w P) (hq : Fills a q v P)
    (hf : ∀ x y b, P x y b → Fills b (f x) (g y) Q) :
    Fills a (if c then p >>= f else q >>= f) (if c then w >>= g else v >>= g) Q :=
  ite (hp.bind hf) (hq.bind hf)

/-! ### The current token -/

theorem state {f : ParserState → Parser γ} {g : ParserState Arena → ParserM Arena δ}
    (hf : ∀ s : ParserState, Fills a (f s) (g (s.over a)) Q) :
    Fills a (get >>= f) (get >>= g) Q :=
  fun s => hf s s

theorem token : Fills a Parser.token Parser.token (Same a) := fun _ => .ok ⟨rfl, rfl⟩

theorem value : Fills a Parser.value Parser.value (Same a) := fun _ => .ok ⟨rfl, rfl⟩

theorem pos : Fills a Parser.pos Parser.pos (Same a) := fun _ => .ok ⟨rfl, rfl⟩

theorem prevEnd : Fills a Parser.prevEnd Parser.prevEnd (Same a) := fun _ => .ok ⟨rfl, rfl⟩

theorem lineBreak : Fills a Parser.lineBreak Parser.lineBreak (Same a) := fun _ => .ok ⟨rfl, rfl⟩

theorem isToken {k : TokenKind} : Fills a (Parser.isToken k) (Parser.isToken k) (Same a) :=
  fun _ => .ok ⟨rfl, rfl⟩

theorem isWord {word : String} : Fills a (Parser.isWord word) (Parser.isWord word) (Same a) :=
  same token fun _ => same value fun _ => pure ⟨rfl, rfl⟩

theorem ifToken {k : TokenKind} {p q : Parser γ} {w v : ParserM Arena δ} (yes : Fills a p w Q)
    (no : Fills a q v Q) : Fills a (Parser.isToken k >>= fun b => if b = true then p else q)
      (Parser.isToken k >>= fun b => if b = true then w else v) Q :=
  same isToken fun _ => ite yes no

theorem unexpected {expected : String} :
    Fills a (Parser.unexpected expected : Parser α) (Parser.unexpected expected) P :=
  fun _ => .error

/-- What would follow where both stop. -/
theorem stopped {expected : String} {f : α → Parser γ} {g : β → ParserM Arena δ} :
    Fills a (Parser.unexpected expected >>= f) (Parser.unexpected expected >>= g) Q :=
  bind (P := fun _ _ _ => False) unexpected nofun

theorem checkToken : Fills a Parser.checkToken Parser.checkToken (Same a) := by
  refine state fun s => ?_
  dsimp only [ParserState.over]
  split
  · exact fun _ => .error
  · exact pure ⟨rfl, rfl⟩

theorem advance : Fills a Parser.advance Parser.advance (Same a) := by
  refine same (fun s => ?_) fun _ => checkToken
  exact .ok (t := { s with prevEnd := s.scanner.tokenEnd, scanner := s.scanner.scan }) ⟨rfl, rfl⟩

theorem reread {again : Scanner → Scanner} :
    Fills a (Parser.reread again) (Parser.reread again) (Same a) := by
  refine same (fun s => ?_) fun _ => checkToken
  exact .ok (t := { s with scanner := again s.scanner }) ⟨rfl, rfl⟩

theorem expect {k : TokenKind} : Fills a (Parser.expect k) (Parser.expect k) (Same a) :=
  ifToken advance unexpected

theorem accept {k : TokenKind} : Fills a (Parser.accept k) (Parser.accept k) (Same a) :=
  ifToken (same advance fun _ => pure ⟨rfl, rfl⟩) (pure ⟨rfl, rfl⟩)

theorem mayEndStatement : Fills a Parser.mayEndStatement Parser.mayEndStatement (Same a) := by
  refine same token fun k => ?_
  split
  · exact pure ⟨rfl, rfl⟩
  · exact pure ⟨rfl, rfl⟩
  · exact pure ⟨rfl, rfl⟩
  · exact lineBreak

theorem endStatement : Fills a Parser.endStatement Parser.endStatement (Same a) :=
  ifToken advance (same mayEndStatement fun _ => ite (pure ⟨rfl, rfl⟩) unexpected)

/-! ### Depth, context and looking ahead -/

theorem nested {p : Parser α} {w : ParserM Arena β} (hp : Fills a p w P) :
    Fills a (Parser.nested p) (Parser.nested w) P := by
  intro s
  have depth : (s.over a).depth = s.depth := rfl
  unfold Parser.nested
  rw [depth]
  split
  · exact .error (t := { s with depth := s.depth + 1 })
  · have ends : EndsFilled P (p { s with depth := s.depth + 1 })
        (w { s.over a with depth := s.depth + 1 }) := hp { s with depth := s.depth + 1 }
    generalize p _ = r, w _ = r' at ends
    cases ends with
    | @ok _ _ t _ results => exact .ok (t := { t with depth := t.depth - 1 }) results
    | @error _ t _ => exact .error (t := { t with depth := t.depth - 1 })

theorem withContext {change : Context → Context} {p : Parser α} {w : ParserM Arena β}
    (hp : Fills a p w P) :
    Fills a (Parser.withContext change p) (Parser.withContext change w) P := by
  intro s
  have ends : EndsFilled P (p { s with context := change s.context })
      (w { s.over a with context := change (s.over a).context }) :=
    hp { s with context := change s.context }
  unfold Parser.withContext
  generalize p _ = r, w _ = r' at ends
  cases ends with
  | @ok _ _ t _ results => exact .ok (t := { t with context := s.context }) results
  | @error _ t _ => exact .error (t := { t with context := s.context })

theorem allowIn {p : Parser α} {w : ParserM Arena β} (hp : Fills a p w P) :
    Fills a (Parser.allowIn p) (Parser.allowIn w) P := withContext hp

/-- Looking ahead adds nothing to the table. -/
theorem question (q : Question) : Fills a q.parser q.parser (Same a) := by
  intro s
  rw [q.parser_eq, q.parser_eq]
  exact .ok ⟨rfl, rfl⟩

/-! ### Nodes -/

variable {kind : NodeKind} {flags : NodeFlags} {span : Span} {start : Nat}
  {r : Record Tree (Option Tree) String} {r' : Record NodeId (Option NodeId) Atom} {b : Arena}

/-- The name of the current token is entered into the table. -/
theorem name : Fills a Builder.name Builder.name fun x y b =>
    y = (a.names.intern x).1 ∧ b = { a with names := (a.names.intern x).2 } :=
  fun _ => .ok ⟨rfl, rfl⟩

/-- A node is added that refers to all that has become pending since the table was `a`. -/
theorem add (pending : PendingRecord kind a r r' b) :
    Fills b (Builder.add kind flags span (some r)) (Builder.add kind flags span (some r'))
      (Pending a) :=
  fun s => .ok (t := s) pending.pending_add

theorem leaf : Fills a (Builder.add kind flags span none) (Builder.add kind flags span none)
    (Pending a) :=
  fun s => .ok (t := s) (pending_leaf a kind flags span)

theorem flagged (pending : PendingRecord kind a r r' b) :
    Fills b (Parser.flagged kind flags start r) (Parser.flagged kind flags start r') (Pending a) :=
  same prevEnd fun _ => add pending

theorem finish (pending : PendingRecord kind a r r' b) :
    Fills b (Parser.finish kind start r) (Parser.finish kind start r') (Pending a) := by
  rw [Parser.finish, Parser.finish, pending.flags_eq]
  exact flagged pending

theorem finishLeaf :
    Fills a (Parser.finishLeaf kind start) (Parser.finishLeaf kind start) (Pending a) :=
  same prevEnd fun _ => leaf

/-- An identifier refers to the atom of its name. -/
theorem nameFromToken : Fills a Parser.nameFromToken Parser.nameFromToken (Pending a) := by
  refine same pos fun start => name.bind ?_
  rintro text _ _ ⟨rfl, rfl⟩
  refine same advance fun _ => same prevEnd fun stop s => ?_
  exact .ok (t := s) (pending_identifier a text _ _ _)

theorem identifier : Fills a Parser.identifier Parser.identifier (Pending a) :=
  ifToken nameFromToken unexpected

theorem memberName : Fills a Parser.memberName Parser.memberName (Pending a) :=
  same token fun _ => ite nameFromToken unexpected

theorem literal : Fills a Parser.literal Parser.literal (Pending a) :=
  same pos fun _ => same token fun _ => same value fun _ => same advance fun _ => finish .literal

/-! ### Parts that may be missing -/

/-- A part that is there. -/
theorem present {p : Parser Tree} {w : ParserM Arena NodeId} (hp : Fills b p w (Pending a)) :
    Fills b (some <$> p) (some <$> w) (PendingOption a) := by
  rw [map_eq_pure_bind, map_eq_pure_bind]
  exact hp.bind fun _ _ _ part => pure (.some part)

/-- A part that may be missing, and what follows it. -/
theorem optional {c : Prop} [Decidable c] {p : Parser Tree} {w : ParserM Arena NodeId}
    {f : Option Tree → Parser γ} {g : Option NodeId → ParserM Arena δ}
    (hp : Fills a p w (Pending a))
    (hf : ∀ t? root? b, PendingOption a t? root? b → Fills b (f t?) (g root?) Q) :
    Fills a (if c then some <$> p >>= f else Pure.pure none >>= f)
      (if c then some <$> w >>= g else Pure.pure none >>= g) Q :=
  join (present hp) (pure .none) hf

/-- The same with the cases the other way around. -/
theorem optional' {c : Prop} [Decidable c] {p : Parser Tree} {w : ParserM Arena NodeId}
    {f : Option Tree → Parser γ} {g : Option NodeId → ParserM Arena δ}
    (hp : Fills a p w (Pending a))
    (hf : ∀ t? root? b, PendingOption a t? root? b → Fills b (f t?) (g root?) Q) :
    Fills a (if c then Pure.pure none >>= f else some <$> p >>= f)
      (if c then Pure.pure none >>= g else some <$> w >>= g) Q :=
  join (pure .none) (present hp) hf

/-- A word that may be there, and what follows it. -/
theorem optionalWord {c : Bool} {f : Unit → Parser γ} {g : Unit → ParserM Arena δ}
    (hf : Fills a (f ()) (g ()) Q) :
    Fills a (if c = true then Parser.advance >>= f else f ())
      (if c = true then Parser.advance >>= g else g ()) Q :=
  ite (same advance fun _ => hf) hf

/-! ### Loops -/

/-- A loop keeps what each of its turns keeps of the table. -/
theorem loop {turns turns' : Nat} {turn : α → Parser (α ⊕ γ)} {turn' : β → ParserM Arena (β ⊕ δ)}
    {x : α} {y : β} (budget : turns = turns') (start : P x y a)
    (each : ∀ x y b, P x y b → Fills b (turn x) (turn' y)
      fun r r' c => Sum.LiftRel (P · · c) (Q · · c) r r') :
    Fills a (Parser.loop turns turn x) (Parser.loop turns' turn' y) Q := by
  subst budget
  induction turns generalizing a x y with
  | zero => exact exhausted
  | succ turns ih =>
    refine (each x y a start).bind fun r r' b kept => ?_
    cases kept with
    | inl kept => exact ih kept
    | inr done => exact pure done

/-- What is read of two lists, item by item. -/
theorem cons {p : Parser (List Tree)} {w : ParserM Arena (List NodeId)} {t : Tree} {root : NodeId}
    (first : Pending a t root b) (rest : Fills b p w (PendingList b)) :
    Fills b (p >>= fun ts => Pure.pure (t :: ts)) (w >>= fun roots => Pure.pure (root :: roots))
      (PendingList a) :=
  rest.bind fun _ _ _ others => pure (.cons first others)

section lists

variable {turns turns' : Nat} {item : Parser Tree} {item' : ParserM Arena NodeId}
  (budget : turns = turns') (each : ∀ a, Fills a item item' (Pending a))

include budget each

theorem repeatWhile {more : Parser Bool} {more' : ParserM Arena Bool}
    (asks : ∀ a, Fills a more more' (Same a)) :
    Fills a (Parser.repeatWhile turns more item) (Parser.repeatWhile turns' more' item')
      (PendingList a) := by
  subst budget
  induction turns generalizing a with
  | zero => exact exhausted
  | succ turns ih =>
    refine same (asks a) fun _ => ite ?_ (pure .nil)
    exact (each a).bind fun _ _ _ first => cons first ih

theorem commaList {close : TokenKind} : Fills a (Parser.commaList turns close item)
    (Parser.commaList turns' close item') (PendingList a) := by
  subst budget
  induction turns generalizing a with
  | zero => exact exhausted
  | succ turns ih =>
    refine ifToken (pure .nil) ((each a).bind fun _ _ _ first => same accept fun _ => ?_)
    exact ite (cons first ih) (pure (.cons first .nil))

theorem commaSequence : Fills a (Parser.commaSequence turns item)
    (Parser.commaSequence turns' item') (PendingList a) := by
  subst budget
  induction turns generalizing a with
  | zero => exact exhausted
  | succ turns ih =>
    refine (each a).bind fun _ _ _ first => same accept fun _ => ?_
    exact ite (cons first ih) (pure (.cons first .nil))

end lists

end Fills

end Parser

end Shapewire
