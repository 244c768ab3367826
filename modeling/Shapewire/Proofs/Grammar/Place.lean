/-
Where a parser leads.

A parser changes the token it stands at and the end of the token before it, and nothing else:
depth and context are the same afterwards.  A `Place` is the part of the state that changes.
`Leads n c x p Q` says that, from the place `x`, at depth `n` and in the context `c`, whatever the
parser `p` builds is related by `Q` to the place where it stops, and that depth and context have
been given back there.

As for `Gives`, there is one rule for each way parsers are put together.  The rules for the
current token replace a question by its answer, so a production is followed from place to place,
and the rules that consume a token name the place behind it.
-/
import Shapewire.Grammar.Descent
import Shapewire.Proofs.Grammar.Question

namespace Shapewire

/-- Whether the kind is that of a token in the source, and not of its end or of a fault. -/
def TokenKind.isProper : TokenKind → Bool
  | .unknown | .endOfFile => false
  | _ => true

/-- A place in a source: the token that comes next, and where the token before it ends. -/
structure Place where
  scanner : Scanner
  prevEnd : Nat
deriving DecidableEq, Repr

namespace Place

/-- The state of a parser at a place. -/
def state (n : Nat) (c : Context) (x : Place) : ParserState := ⟨x.scanner, x.prevEnd, n, c, ()⟩

/-- The kind of the next token. -/
def token (x : Place) : TokenKind := x.scanner.token

/-- The cooked value of the next token. -/
def value (x : Place) : String := x.scanner.value

/-- Where the next token starts. -/
def pos (x : Place) : Nat := x.scanner.tokenPos

/-- The place before the first token of a source. -/
def start (text : List Char) : Place := ⟨(Scanner.ofText text).scan, 0⟩

/-- The place behind the next token. -/
def next (x : Place) : Place := ⟨x.scanner.scan, x.scanner.tokenEnd⟩

/-- The place with its slash read as the start of a regular expression. -/
def asRegex (x : Place) : Place := ⟨x.scanner.rescanSlash, x.prevEnd⟩

/-- The place with its brace read as the start of a template's next piece. -/
def asTemplate (x : Place) : Place := ⟨x.scanner.rescanTemplate, x.prevEnd⟩

/-- A token of kind `k` lies between two places. -/
structure Takes (x : Place) (k : TokenKind) (y : Place) : Prop where
  token : x.token = k
  proper : k.isProper = true
  next : y = x.next

/-- A token of kind `k` lies between two places if `b` holds; otherwise they are the same, and
no such token follows. -/
inductive Accepts (x : Place) (k : TokenKind) : Bool → Place → Prop where
  | taken {y : Place} (mark : x.Takes k y) : Accepts x k true y
  | absent (none : x.token ≠ k) : Accepts x k false x

/-- The same for the word `word`, which need not be absent for `b` to fail. -/
inductive AcceptsWord (x : Place) (word : String) : Bool → Place → Prop where
  | taken {y : Place} (mark : x.Takes .identifier y) (spelled : x.value = word) :
    AcceptsWord x word true y
  | absent : AcceptsWord x word false x

end Place

namespace Parser

variable {α β : Type} {n : Nat} {c : Context} {x : Place} {P : α → Place → Prop}
  {Q : β → Place → Prop}

/-- Whatever the parser builds from `x` on is related by `Q` to the place where it stops, which it
reaches as deep and in the same context as it started. -/
def Leads (n : Nat) (c : Context) (x : Place) (p : Parser α) (Q : α → Place → Prop) : Prop :=
  ∀ a t, p (x.state n c) = .ok a t → ∃ y : Place, t = y.state n c ∧ Q a y

namespace Leads

/-! ### Sequences and choices -/

theorem mono {P' : α → Place → Prop} {p : Parser α} (hp : Leads n c x p P)
    (weaker : ∀ a y, P a y → P' a y) : Leads n c x p P' := by
  intro a t run
  obtain ⟨y, rfl, h⟩ := hp a t run
  exact ⟨y, rfl, weaker a y h⟩

theorem pure {a : α} (h : P a x) : Leads n c x (Pure.pure a) P := by
  intro b t run
  cases run
  exact ⟨x, rfl, h⟩

theorem throw {e : Stop} : Leads n c x (MonadExcept.throw e : Parser α) P := by
  intro a t run
  cases run

theorem bind {p : Parser α} {f : α → Parser β} (hp : Leads n c x p P)
    (hf : ∀ a y, P a y → Leads n c y (f a) Q) : Leads n c x (p >>= f) Q := by
  intro b t run
  obtain ⟨a, s, first, rest⟩ := bind_eq_ok.mp run
  obtain ⟨y, rfl, h⟩ := hp a s first
  exact hf a y h b t rest

theorem map {p : Parser α} {f : α → β} (hp : Leads n c x p fun a y => Q (f a) y) :
    Leads n c x (f <$> p) Q := by
  rw [map_eq_pure_bind]
  exact hp.bind fun a y h => pure h

theorem ite {b : Prop} [Decidable b] {p q : Parser α} (hp : b → Leads n c x p P)
    (hq : ¬b → Leads n c x q P) : Leads n c x (if b then p else q) P := by
  split
  · exact hp ‹_›
  · exact hq ‹_›

theorem unexpected {expected : String} : Leads n c x (Parser.unexpected expected : Parser α) P := by
  intro a t run
  obtain ⟨s, s', first, rest⟩ := bind_eq_ok.mp run
  cases rest

/-- A part that is there, and what follows it. -/
theorem present {p : Parser α} {f : Option α → Parser β} (hp : Leads n c x p P)
    (hf : ∀ a y, P a y → Leads n c y (f (some a)) Q) : Leads n c x (some <$> p >>= f) Q := by
  refine bind (P := fun a? y => ∃ a, a? = some a ∧ P a y) ?_ ?_
  · exact map (hp.mono fun a y h => ⟨a, rfl, h⟩)
  · rintro _ y ⟨a, rfl, h⟩
    exact hf a y h

/-- What would follow where the parser stops. -/
theorem unreached {expected : String} {f : α → Parser β} :
    Leads n c x (Parser.unexpected expected >>= f) Q :=
  (unexpected (P := fun _ _ => False)).bind fun _ _ => False.elim

/-! ### Depth and context -/

theorem nested {p : Parser α} (hp : n < maxNesting → Leads (n + 1) c x p P) :
    Leads n c x (Parser.nested p) P := by
  intro a t run
  unfold Parser.nested at run
  split at run
  · cases run
  · rename_i room
    split at run
    · rename_i inner
      cases run
      obtain ⟨y, rfl, h⟩ := hp (Nat.lt_of_not_le room) _ _ inner
      exact ⟨y, rfl, h⟩
    · cases run

theorem withContext {change : Context → Context} {p : Parser α}
    (hp : Leads n (change c) x p P) : Leads n c x (Parser.withContext change p) P := by
  intro a t run
  unfold Parser.withContext at run
  split at run
  · rename_i inner
    cases run
    obtain ⟨y, rfl, h⟩ := hp _ _ inner
    exact ⟨y, rfl, h⟩
  · cases run

theorem allowIn {p : Parser α} (hp : Leads n { c with noIn := false } x p P) :
    Leads n c x (Parser.allowIn p) P := withContext hp

/-! ### Loops -/

/-- A loop keeps what each of its turns keeps. -/
theorem loop {turns : Nat} {turn : α → Parser (α ⊕ β)} {a : α} {I : α → Place → Prop}
    (start : I a x)
    (each : ∀ a x, I a x → Leads n c x (turn a) fun r y => Sum.elim (I · y) (Q · y) r) :
    Leads n c x (Parser.loop turns turn a) Q := by
  induction turns generalizing a x with
  | zero => exact throw
  | succ turns ih =>
    refine (each a x start).bind fun r y kept => ?_
    cases r with
    | inl a => exact ih kept
    | inr b => exact pure kept

/-! ### The current token -/

section current

variable {f : Nat → Parser β}

theorem pos (hf : Leads n c x (f x.pos) Q) : Leads n c x (Parser.pos >>= f) Q := by
  intro b t run
  obtain ⟨_, _, first, rest⟩ := bind_eq_ok.mp run
  cases first
  exact hf b t rest

theorem prevEnd (hf : Leads n c x (f x.prevEnd) Q) : Leads n c x (Parser.prevEnd >>= f) Q := by
  intro b t run
  obtain ⟨_, _, first, rest⟩ := bind_eq_ok.mp run
  cases first
  exact hf b t rest

theorem value {f : String → Parser β} (hf : Leads n c x (f x.value) Q) :
    Leads n c x (Parser.value >>= f) Q := by
  intro b t run
  obtain ⟨_, _, first, rest⟩ := bind_eq_ok.mp run
  cases first
  exact hf b t rest

theorem token {f : TokenKind → Parser β} (hf : Leads n c x (f x.token) Q) :
    Leads n c x (Parser.token >>= f) Q := by
  intro b t run
  obtain ⟨_, _, first, rest⟩ := bind_eq_ok.mp run
  cases first
  exact hf b t rest

theorem state {f : ParserState → Parser β} (hf : Leads n c x (f (x.state n c)) Q) :
    Leads n c x (get >>= f) Q := by
  intro b t run
  obtain ⟨_, _, first, rest⟩ := bind_eq_ok.mp run
  cases first
  exact hf b t rest

theorem lineBreak {f : Bool → Parser β} (hf : ∀ b, Leads n c x (f b) Q) :
    Leads n c x (Parser.lineBreak >>= f) Q := by
  intro b t run
  obtain ⟨_, _, first, rest⟩ := bind_eq_ok.mp run
  cases first
  exact hf _ b t rest

theorem isToken {k : TokenKind} {f : Bool → Parser β}
    (hf : ∀ b, (b = true ↔ x.token = k) → Leads n c x (f b) Q) :
    Leads n c x (Parser.isToken k >>= f) Q := by
  intro b t run
  obtain ⟨_, _, first, rest⟩ := bind_eq_ok.mp run
  cases first
  exact hf _ beq_iff_eq b t rest

theorem isWord {word : String} {f : Bool → Parser β}
    (hf : ∀ b, (b = true ↔ x.token = .identifier ∧ x.value = word) → Leads n c x (f b) Q) :
    Leads n c x (Parser.isWord word >>= f) Q := by
  intro b t run
  obtain ⟨_, _, first, rest⟩ := bind_eq_ok.mp run
  cases first
  exact hf _ (by simp [Place.token, Place.value, Place.state]) b t rest

theorem ifToken {k : TokenKind} {p q : Parser β} (yes : x.token = k → Leads n c x p Q)
    (no : x.token ≠ k → Leads n c x q Q) :
    Leads n c x (Parser.isToken k >>= fun b => if b = true then p else q) Q :=
  isToken fun _ is => ite (fun h => yes (is.mp h)) fun h => no (mt is.mpr h)

end current

/-! ### Consuming tokens -/

section consume

variable {k : TokenKind} {p q : Parser β} {f : Unit → Parser β}

/-- A token without a fault. -/
theorem checked (hf : (x.token = .unknown → x.scanner.error? = none) → Leads n c x (f ()) Q) :
    Leads n c x (checkToken >>= f) Q := by
  refine bind (P := fun _ y => y = x ∧ (x.token = .unknown → x.scanner.error? = none)) (state ?_) ?_
  · dsimp only
    split
    · exact throw
    · rename_i sound
      refine pure ⟨rfl, fun unknown => Option.eq_none_iff_forall_ne_some.mpr fun e error => ?_⟩
      exact sound e unknown error
  · rintro _ _ ⟨rfl, sound⟩
    exact hf sound

/-- Whatever the token is, what follows it starts behind it. -/
theorem step (hf : Leads n c x.next (f ()) Q) : Leads n c x (Parser.advance >>= f) Q := by
  have moved : Leads n c x.next (checkToken >>= f) Q := checked fun _ => hf
  intro b t run
  obtain ⟨_, s, first, rest⟩ := bind_eq_ok.mp run
  obtain ⟨_, _, modified, first⟩ := bind_eq_ok.mp first
  cases modified
  exact moved b t (bind_eq_ok.mpr ⟨_, _, first, rest⟩)

theorem advance (proper : x.token.isProper = true)
    (hf : ∀ y, x.Takes x.token y → Leads n c y (f ()) Q) :
    Leads n c x (Parser.advance >>= f) Q := step (hf _ ⟨rfl, proper, rfl⟩)

/-- The same where the kind of the token is known. -/
theorem take (is : x.token = k) (proper : k.isProper = true)
    (hf : ∀ y, x.Takes k y → Leads n c y (f ()) Q) : Leads n c x (Parser.advance >>= f) Q := by
  subst is
  exact advance proper hf

theorem expect (proper : k.isProper = true) (hf : ∀ y, x.Takes k y → Leads n c y (f ()) Q) :
    Leads n c x (Parser.expect k >>= f) Q := by
  refine bind (P := fun _ y => x.Takes k y) ?_ fun _ y taken => hf y taken
  refine ifToken (fun is => ?_) fun _ => unexpected
  rw [← bind_pure Parser.advance]
  exact take is proper fun y taken => pure taken

theorem accept {f : Bool → Parser β} (proper : k.isProper = true)
    (hf : ∀ b y, x.Accepts k b y → Leads n c y (f b) Q) :
    Leads n c x (Parser.accept k >>= f) Q := by
  refine bind (P := fun b y => x.Accepts k b y) ?_ hf
  refine ifToken (fun is => ?_) fun isNot => pure (.absent isNot)
  exact take is proper fun y taken => pure (.taken taken)

theorem ifAccept (proper : k.isProper = true) (yes : ∀ y, x.Takes k y → Leads n c y p Q)
    (no : x.token ≠ k → Leads n c x q Q) :
    Leads n c x (Parser.accept k >>= fun b => if b = true then p else q) Q := by
  refine accept proper fun b y accepted => ?_
  cases accepted with
  | taken mark => exact ite (fun _ => yes y mark) fun never => absurd rfl never
  | absent none => exact ite nofun fun _ => no none

/-- A word that is only consumed where `b` says that it is there. -/
theorem acceptWord {b : Bool} {word : String}
    (is : b = true → x.token = .identifier ∧ x.value = word)
    (hf : ∀ y, x.AcceptsWord word b y → Leads n c y (f ()) Q) :
    Leads n c x (if b = true then Parser.advance >>= f else f ()) Q := by
  cases b with
  | false => exact ite nofun fun _ => hf x .absent
  | true =>
    refine ite (fun _ => ?_) fun never => absurd rfl never
    exact take (is rfl).1 rfl fun y taken => hf y (.taken taken (is rfl).2)

theorem reread {again : Scanner → Scanner}
    (hf : ((again x.scanner).token = .unknown → (again x.scanner).error? = none) →
      Leads n c ⟨again x.scanner, x.prevEnd⟩ (f ()) Q) :
    Leads n c x (Parser.reread again >>= f) Q := by
  have moved := checked (x := ⟨again x.scanner, x.prevEnd⟩) hf
  intro b t run
  obtain ⟨_, s, first, rest⟩ := bind_eq_ok.mp run
  obtain ⟨_, _, modified, first⟩ := bind_eq_ok.mp first
  cases modified
  exact moved b t (bind_eq_ok.mpr ⟨_, _, first, rest⟩)

end consume

/-! ### Looking ahead -/

/-- A question that leaves everything as it is. -/
theorem asking {p : Parser α} {f : α → Parser β} {R : α → Prop}
    (hp : Leads n c x p fun a y => y = x ∧ R a) (hf : ∀ a, R a → Leads n c x (f a) Q) :
    Leads n c x (p >>= f) Q := by
  refine hp.bind ?_
  rintro a _ ⟨rfl, h⟩
  exact hf a h

/-- If the answer is positive the current token gives rise to the question. -/
theorem question (q : Question) :
    Leads n c x q.parser fun b y => y = x ∧ (b = true → q.arises x.token x.value = true) := by
  intro b t run
  cases (q.parser_eq (x.state n c)).symm.trans run
  exact ⟨x, rfl, rfl, q.arises_of_holds⟩

/-- A question that the word `async` gives rise to. -/
theorem behindAsync {q : Question}
    (word : ∀ k value, q.arises k value = (k == .identifier && value == "async")) :
    Leads n c x q.parser fun b y =>
      y = x ∧ (b = true → x.token = .identifier ∧ x.value = "async") := by
  refine (question q).mono fun b y h => ⟨h.1, fun yes => ?_⟩
  have arises := h.2 yes
  rw [word] at arises
  simpa using arises

theorem startsAsyncFunction : Leads n c x Parser.startsAsyncFunction fun b y =>
    y = x ∧ (b = true → x.token = .identifier ∧ x.value = "async") :=
  behindAsync (q := .asyncFunction) fun _ _ => rfl

theorem startsLabel : Leads n c x Parser.startsLabel fun _ y => y = x ∧ True :=
  (question .label).mono fun _ _ h => ⟨h.1, trivial⟩

theorem startsAsyncArrow : Leads n c x Parser.startsAsyncArrow fun b y =>
    y = x ∧ (b = true → x.token = .identifier ∧ x.value = "async") :=
  behindAsync (q := .asyncArrow) fun _ _ => rfl

theorem startsArrow : Leads n c x Parser.startsArrow fun _ y => y = x ∧ True :=
  (question .arrow).mono fun _ _ h => ⟨h.1, trivial⟩

theorem startsAsyncMember : Leads n c x Parser.startsAsyncMember fun b y =>
    y = x ∧ (b = true → x.token = .identifier ∧ x.value = "async") :=
  behindAsync (q := .asyncMember) fun _ _ => rfl

theorem startsAccessor : Leads n c x Parser.startsAccessor fun b y =>
    y = x ∧ (b = true → x.token = .identifier ∧ (x.value = "get" ∨ x.value = "set")) := by
  refine (question .accessor).mono fun b y h => ⟨h.1, fun yes => ?_⟩
  simpa [Question.arises] using h.2 yes

/-- Whether a statement may end here is a question only. -/
theorem mayEndStatement : Leads n c x Parser.mayEndStatement fun _ y => y = x ∧ True := by
  refine token ?_
  split
  · exact pure ⟨rfl, trivial⟩
  · exact pure ⟨rfl, trivial⟩
  · exact pure ⟨rfl, trivial⟩
  · rw [← bind_pure Parser.lineBreak]
    exact lineBreak fun _ => pure ⟨rfl, trivial⟩

/-- A statement ends behind a semicolon, or where it is if none follows. -/
theorem endStatement {f : Unit → Parser β}
    (hf : ∀ b y, x.Accepts .semicolon b y → Leads n c y (f ()) Q) :
    Leads n c x (Parser.endStatement >>= f) Q := by
  refine bind (P := fun _ y => ∃ b, x.Accepts .semicolon b y) ?_ fun _ y ⟨b, ended⟩ => hf b y ended
  refine ifToken (fun is => ?_) fun isNot => ?_
  · rw [← bind_pure Parser.advance]
    exact take is rfl fun y taken => pure ⟨true, .taken taken⟩
  · refine asking mayEndStatement fun _ _ => ite (fun _ => ?_) fun _ => unexpected
    exact pure ⟨false, .absent isNot⟩

end Leads

end Parser

end Shapewire
