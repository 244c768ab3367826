/-
What parsers give.

`Gives p Q` says that whatever the parser `p` builds satisfies `Q`, from whichever place it
starts.  There is one rule for each way parsers are put together, so a property of the trees
that the grammar builds is shown production by production, and a parser that stops needs no
thought at all.

What a literal is depends on the token at which it is read.  `GivesAt k p Q` is the same for the
places at which the current token is `k`, and the rule for `token` is where one turns into the
other.
-/
import Shapewire.Grammar.Parser

namespace Shapewire

namespace Parser

/-- Whatever the parser builds satisfies `Q`. -/
def Gives {α : Type} (p : Parser α) (Q : α → Prop) : Prop :=
  ∀ s a t, p s = .ok a t → Q a

/-- Whatever the parser builds satisfies `Q` if it starts where the current token is `k`. -/
def GivesAt {α : Type} (k : TokenKind) (p : Parser α) (Q : α → Prop) : Prop :=
  ∀ s a t, s.scanner.token = k → p s = .ok a t → Q a

variable {α β : Type} {P : α → Prop} {Q : β → Prop} {k : TokenKind}

/-! ### Sequences and choices -/

/-- A sequence that builds something does so step by step. -/
theorem bind_eq_ok {σ : Type} {p : ParserM σ α} {f : α → ParserM σ β} {s t : ParserState σ}
    {b : β} :
    (p >>= f) s = .ok b t ↔ ∃ a s', p s = .ok a s' ∧ f a s' = .ok b t := by
  show EStateM.bind p f s = .ok b t ↔ _
  unfold EStateM.bind
  cases p s with
  | ok a s' => simp [and_assoc]
  | error e s' => simp

namespace Gives

theorem mono {P' : α → Prop} {p : Parser α} (hp : Gives p P) (weaker : ∀ a, P a → P' a) :
    Gives p P' :=
  fun s a t run => weaker a (hp s a t run)

theorem anything {p : Parser α} : Gives p fun _ => True := fun _ _ _ _ => trivial

theorem pure {a : α} (h : P a) : Gives (Pure.pure a) P := by
  intro s b t run
  cases run
  exact h

theorem throw {e : Stop} : Gives (MonadExcept.throw e : Parser α) P := by
  intro s a t run
  cases run

theorem bind {p : Parser α} {f : α → Parser β} (hp : Gives p P) (hf : ∀ a, P a → Gives (f a) Q) :
    Gives (p >>= f) Q := by
  intro s b t run
  obtain ⟨a, s', first, rest⟩ := bind_eq_ok.mp run
  exact hf a (hp s a s' first) s' b t rest

/-- A sequence whose first step may build anything. -/
theorem after {p : Parser α} {f : α → Parser β} (hf : ∀ a, Gives (f a) Q) : Gives (p >>= f) Q :=
  anything.bind fun a _ => hf a

/-- A part with something behind it of which nothing is kept. -/
theorem followed {p : Parser α} {q : Parser β} (hp : Gives p P) :
    Gives (p >>= fun a => q >>= fun _ => Pure.pure a) P :=
  hp.bind fun _ h => after fun _ => pure h

theorem map {p : Parser α} {f : α → β} (hp : Gives p fun a => Q (f a)) : Gives (f <$> p) Q := by
  rw [map_eq_pure_bind]
  exact hp.bind fun a h => pure h

/-- What a parser builds, as a part that is not missing. -/
theorem present {p : Parser α} (hp : Gives p P) : Gives (some <$> p) (fun a? => ∀ a ∈ a?, P a) :=
  map (hp.mono fun a h b mem => by cases mem; exact h)

theorem ite {c : Prop} [Decidable c] {p q : Parser α} (hp : Gives p P) (hq : Gives q P) :
    Gives (if c then p else q) P := by
  split
  · exact hp
  · exact hq

theorem unexpected {expected : String} : Gives (Parser.unexpected expected : Parser α) P :=
  after fun _ => throw

/-- A check that stops the parser, and what follows it. -/
theorem check {c : Prop} [Decidable c] {expected : String} {f : PUnit → Parser β}
    (hf : Gives (f ⟨⟩) Q) : Gives (if c then Parser.unexpected expected >>= f else f ⟨⟩) Q :=
  ite (unexpected (P := fun _ => False) |>.bind fun _ => nofun) hf

/-- A choice between two ways to go on alike. -/
theorem join {c : Prop} [Decidable c] {p q : Parser α} {f : α → Parser β} (hp : Gives p P)
    (hq : Gives q P) (hf : ∀ a, P a → Gives (f a) Q) :
    Gives (if c then p >>= f else q >>= f) Q :=
  ite (hp.bind hf) (hq.bind hf)

/-- A part that may be missing, and what follows it. -/
theorem optional {c : Prop} [Decidable c] {p : Parser α} {f : Option α → Parser β}
    (hp : Gives p P) (hf : ∀ a?, (∀ a ∈ a?, P a) → Gives (f a?) Q) :
    Gives (if c then some <$> p >>= f else Pure.pure none >>= f) Q :=
  join hp.present (pure nofun) hf

/-- The same with the cases the other way around. -/
theorem optional' {c : Prop} [Decidable c] {p : Parser α} {f : Option α → Parser β}
    (hp : Gives p P) (hf : ∀ a?, (∀ a ∈ a?, P a) → Gives (f a?) Q) :
    Gives (if c then Pure.pure none >>= f else some <$> p >>= f) Q :=
  join (pure nofun) hp.present hf

/-! ### Depth and context -/

theorem nested {p : Parser α} (hp : Gives p P) : Gives (Parser.nested p) P := by
  intro s a t run
  unfold Parser.nested at run
  split at run
  · cases run
  · split at run
    · rename_i inner
      cases run
      exact hp _ _ _ inner
    · cases run

theorem withContext {change : Context → Context} {p : Parser α} (hp : Gives p P) :
    Gives (Parser.withContext change p) P := by
  intro s a t run
  unfold Parser.withContext at run
  split at run
  · rename_i inner
    cases run
    exact hp _ _ _ inner
  · cases run

theorem allowIn {p : Parser α} (hp : Gives p P) : Gives (Parser.allowIn p) P := withContext hp

/-! ### Loops -/

/-- A loop keeps what each of its turns keeps. -/
theorem loop {turns : Nat} {turn : α → Parser (α ⊕ β)} {a : α} (ha : P a)
    (each : ∀ a, P a → Gives (turn a) (Sum.elim P Q)) : Gives (Parser.loop turns turn a) Q := by
  induction turns generalizing a with
  | zero => exact throw
  | succ turns ih =>
    refine (each a ha).bind ?_
    intro r kept
    cases r with
    | inl a => exact ih kept
    | inr b => exact pure kept

theorem repeatWhile {turns : Nat} {more : Parser Bool} {item : Parser α} (hp : Gives item P) :
    Gives (Parser.repeatWhile turns more item) (fun as => ∀ a ∈ as, P a) := by
  induction turns with
  | zero => exact throw
  | succ turns ih =>
    refine after fun _ => ite ?_ (pure (by simp))
    exact hp.bind fun a ha => ih.bind fun as has => pure (List.forall_mem_cons.mpr ⟨ha, has⟩)

theorem commaList {turns : Nat} {close : TokenKind} {item : Parser α} (hp : Gives item P) :
    Gives (Parser.commaList turns close item) (fun as => ∀ a ∈ as, P a) := by
  induction turns with
  | zero => exact throw
  | succ turns ih =>
    refine after fun _ => ite (pure (by simp)) ?_
    refine hp.bind fun a ha => after fun _ => ite ?_ (pure (by simpa using ha))
    exact ih.bind fun as has => pure (List.forall_mem_cons.mpr ⟨ha, has⟩)

theorem commaSequence {turns : Nat} {item : Parser α} (hp : Gives item P) :
    Gives (Parser.commaSequence turns item) (fun as => ∀ a ∈ as, P a) := by
  induction turns with
  | zero => exact throw
  | succ turns ih =>
    refine hp.bind fun a ha => after fun _ => ite ?_ (pure (by simpa using ha))
    exact ih.bind fun as has => pure (List.forall_mem_cons.mpr ⟨ha, has⟩)

/-! ### The current token -/

/-- What follows a look at the current token starts where that token is. -/
theorem token {f : TokenKind → Parser β} (hf : ∀ k, GivesAt k (f k) Q) :
    Gives (Parser.token >>= f) Q := by
  intro s b t run
  obtain ⟨k, s', first, rest⟩ := bind_eq_ok.mp run
  cases first
  exact hf _ s b t rfl rest

end Gives

theorem GivesAt.of_gives {p : Parser α} (hp : Gives p P) : GivesAt k p P :=
  fun s a t _ run => hp s a t run

theorem GivesAt.bind {p : Parser α} {f : α → Parser β} (hp : GivesAt k p P)
    (hf : ∀ a, P a → Gives (f a) Q) : GivesAt k (p >>= f) Q := by
  intro s b t token run
  obtain ⟨a, s', first, rest⟩ := bind_eq_ok.mp run
  exact hf a (hp s a s' token first) s' b t rest

/-- Asking where the token starts leaves it the current one. -/
theorem GivesAt.pos {f : Nat → Parser β} (hf : ∀ start, GivesAt k (f start) Q) :
    GivesAt k (Parser.pos >>= f) Q := by
  intro s b t token run
  obtain ⟨start, s', first, rest⟩ := bind_eq_ok.mp run
  cases first
  exact hf _ s b t token rest

theorem GivesAt.token {f : TokenKind → Parser β} (hf : GivesAt k (f k) Q) :
    GivesAt k (Parser.token >>= f) Q := by
  intro s b t token run
  obtain ⟨k', s', first, rest⟩ := bind_eq_ok.mp run
  cases first
  rw [token] at rest
  exact hf s b t token rest

end Parser

end Shapewire
