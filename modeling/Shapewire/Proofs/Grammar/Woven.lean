/-
Trees woven from tokens.

The trees that a part of the grammar is read as divide up the tokens that it consumes: each covers
a run of them from the start of its first to the end of its last, its children lie within that run
in the same way, and the tokens between two trees belong to whatever is around them.  `Woven` says
so and keeps account of the latter: every tree is spelled by the tokens of its run that no child of
it covers.  The exception is a hole, which is empty and lies at the start of the comma behind it.

`weaves_of_derives` is one induction over the grammar.  Every rule lays tokens and trees one behind
the other and closes what it has laid out into one node.  Most parts leave no token over for the
node around them (`Part.isClosed`), and the others leave marks, with two exceptions
(`Part.LeavesOver`).
-/
import Shapewire.Proofs.Grammar.Derivation
import Shapewire.Proofs.Grammar.Spelling

namespace Shapewire

/-- The bytes of a run of tokens, given the first and those behind it. -/
def Terminal.cover (first : Terminal) (rest : List Terminal) : Span :=
  ⟨first.span.start, (rest.getLast?.getD first).span.stop⟩

/-- Trees below a node of kind `parent` are woven from tokens, of which those in the second list are
in none of them. -/
inductive Woven : NodeKind → List Terminal → List Terminal → List Tree → Prop where
  | nil {parent : NodeKind} : Woven parent [] [] []
  /-- A token that belongs to no tree of the row. -/
  | token {parent : NodeKind} {t : Terminal} {ts own : List Terminal} {us : List Tree}
    (rest : Woven parent ts own us) : Woven parent (t :: ts) (t :: own) us
  /-- An empty tree before a comma. -/
  | hole {parent : NodeKind} {t : Terminal} {ts own : List Terminal} {us : List Tree}
    (rest : Woven parent ts own us) :
    Woven parent (t :: ts) (t :: own) (.node .hole .none (.point t.span.start) none :: us)
  /-- A tree that covers a run of tokens. -/
  | tree {parent : NodeKind} {t : Terminal} {run ts inner own : List Terminal} {u : Tree}
    {us : List Tree} (span : u.span = t.cover run)
    (inside : Woven u.kind (t :: run) inner u.children) (spells : u.Spells parent inner)
    (rest : Woven parent ts own us) : Woven parent (t :: run ++ ts) own (u :: us)

section woven

variable {parent : NodeKind} {ts ts' own own' : List Terminal} {us us' : List Tree}

theorem Woven.append (h : Woven parent ts own us) (h' : Woven parent ts' own' us') :
    Woven parent (ts ++ ts') (own ++ own') (us ++ us') := by
  induction h with
  | nil => exact h'
  | token _ ih => exact .token (ih h')
  | hole _ ih => exact .hole (ih h')
  | tree span inside spells _ _ ih =>
    rw [List.append_assoc]
    exact .tree span inside spells (ih h')

/-- Where something is woven there are tokens. -/
theorem Woven.exists_first (h : Woven parent ts own us) (some : own ≠ [] ∨ us ≠ []) :
    ∃ t run, ts = t :: run := by
  cases ts with
  | cons t run => exact ⟨t, run, rfl⟩
  | nil =>
    cases h
    simp at some

theorem words_append : words (ts ++ ts') = words ts ++ words ts' := List.filterMap_append

theorem words_cons {t : Terminal} :
    words (t :: ts) = (Word.of? t.kind t.value).toList ++ words ts := by
  unfold words
  rw [List.filterMap_cons]
  cases Word.of? t.kind t.value <;> rfl

theorem Word.of?_of_isOperatorWord {k : TokenKind} {value : String} (is : k.isOperatorWord = true) :
    Word.of? k value = some (.token k) := by
  cases k <;> first | rfl | cases is

/-- Operators are marks or words. -/
theorem TokenKind.isMark_or_isOperatorWord {k : TokenKind}
    (is : k.isAssignment = true ∨ Descent.isPrefixOperator k = true ∨
      ∃ c least, least < Descent.precedence c k) :
    k.isMark = true ∨ k.isOperatorWord = true := by
  rcases is with assigns | isPrefix | ⟨c, least, binds⟩
  · refine .inl ?_
    cases k <;> first | rfl | cases assigns
  · cases k <;> first | exact .inl rfl | exact .inr rfl | cases isPrefix
  · unfold Descent.precedence at binds
    split at binds
    all_goals first
      | exact .inl rfl
      | exact .inr rfl
      | exact absurd binds (Nat.not_lt_zero _)

theorem Word.of?_of_introducesVariables {k : TokenKind} {value : String}
    (introduces : Descent.introducesVariables k = true) : Word.of? k value = some (.token k) := by
  unfold Descent.introducesVariables at introduces
  split at introduces
  · rfl
  · rfl
  · rfl
  · cases introduces

/-- The word before a finalizer is there if the finalizer is. -/
theorem Spelling.attempt {flags : NodeFlags} {body : NodeKind} {onFault : Option NodeKind}
    {finalizer : Option Tree} (head : words own =
      .token .tryKeyword :: finalizer.toList.map fun _ => .token .finallyKeyword) :
    Spelling .tryStatement flags (some (.attempt body onFault (finalizer.map Tree.kind))) own := by
  cases finalizer with
  | none => exact .tryOnly head
  | some _ => exact .tryFinally head

end woven

namespace Place

/-- The trees `us` are woven from the tokens between two places, of which `own` are in none. -/
def Weaves (parent : NodeKind) (x : Place) (own : List Terminal) (us : List Tree) (y : Place) :
    Prop := ∃ ts, x.Consumes ts y ∧ Woven parent ts own us

variable {x y z : Place} {us vs : List Tree} {u : Tree} {k : TokenKind} {kind parent : NodeKind}
  {flags : NodeFlags} {r : Record Tree (Option Tree) String} {own own' : List Terminal}

/-! ### One behind the other -/

theorem Weaves.nil : x.Weaves parent [] [] x := ⟨[], .none, .nil⟩

theorem Weaves.append (h : x.Weaves parent own us y) (h' : y.Weaves parent own' vs z) :
    x.Weaves parent (own ++ own') (us ++ vs) z := by
  obtain ⟨ts, consumes, woven⟩ := h
  obtain ⟨ts', consumes', woven'⟩ := h'
  exact ⟨ts ++ ts', consumes.append consumes', woven.append woven'⟩

theorem Takes.weaves (mark : x.Takes k y) : x.Weaves parent [x.terminal] [] y :=
  ⟨_, .token mark .none, .token .nil⟩

/-- A token with a row behind it. -/
theorem Takes.then (mark : x.Takes k y) (h : y.Weaves parent own us z) :
    x.Weaves parent (x.terminal :: own) us z := mark.weaves.append h

/-- A token behind a row. -/
theorem Weaves.take (h : x.Weaves parent own us y) (mark : y.Takes k z) :
    x.Weaves parent (own ++ [y.terminal]) us z := by
  have more := h.append mark.weaves
  rwa [List.append_nil] at more

/-- Tokens behind a row. -/
theorem Weaves.more (h : x.Weaves parent own us y) (h' : y.Weaves parent own' [] z) :
    x.Weaves parent (own ++ own') us z := by
  have more := h.append h'
  rwa [List.append_nil] at more

theorem Takes.words (mark : x.Takes k y) :
    words (x.terminal :: own) = (Word.of? k x.value).toList ++ words own := by
  rw [words_cons, ← mark.token]
  rfl

/-- Marks are no words. -/
theorem Takes.words_mark (mark : x.Takes k y) (isMark : k.isMark = true := by rfl) :
    Shapewire.words (x.terminal :: own) = Shapewire.words own := by
  rw [mark.words, Word.of?, if_pos isMark]
  rfl

/-- A reserved word is one whatever its value is. -/
theorem Takes.words_token (mark : x.Takes k y)
    (isWord : Word.of? k x.value = some (.token k) := by rfl) :
    Shapewire.words (x.terminal :: own) = .token k :: Shapewire.words own := by
  rw [mark.words, isWord]
  rfl

/-- An operator is one whatever its value is. -/
theorem Takes.words_operator (mark : x.Takes k y)
    (operator : k.isMark = true ∨ k.isOperatorWord = true) :
    Shapewire.words [x.terminal] = operatorWords (.token k) := by
  rw [operatorWords]
  by_cases word : k.isOperatorWord = true
  · rw [if_pos word, mark.words, Word.of?_of_isOperatorWord word]
    rfl
  · rw [if_neg word]
    exact mark.words_mark (operator.resolve_right word)

theorem Takes.words_name (mark : x.Takes .identifier y) :
    Shapewire.words (x.terminal :: own) = .name x.value :: Shapewire.words own := by
  rw [mark.words]
  rfl

/-- A mark that may be missing. -/
theorem Accepts.weaves {b : Bool} (h : x.Accepts k b y) (isMark : k.isMark = true := by rfl) :
    ∃ own, words own = [] ∧ (∀ t ∈ own, t.kind = k) ∧ x.Weaves parent own [] y := by
  cases h with
  | taken mark =>
    refine ⟨[x.terminal], ?_, List.forall_mem_singleton.mpr mark.token, mark.weaves⟩
    rw [mark.words, Word.of?, if_pos isMark]
    rfl
  | absent => exact ⟨[], rfl, List.forall_mem_nil _, .nil⟩

/-- A word that may be missing. -/
theorem AcceptsWord.weaves {word : String} {b : Bool} (h : x.AcceptsWord word b y) :
    ∃ own, words own = (if b then [.name word] else []) ∧ (∀ t ∈ own, t.kind = .identifier) ∧
      x.Weaves parent own [] y := by
  cases h with
  | taken mark spelled =>
    refine ⟨[x.terminal], ?_, List.forall_mem_singleton.mpr mark.token, mark.weaves⟩
    rw [mark.words, spelled]
    rfl
  | absent => exact ⟨[], rfl, List.forall_mem_nil _, .nil⟩

/-- The flags of a function say whether the word stands before it. -/
theorem asyncWords_onlyIf (b : Bool) :
    asyncWords ((NodeFlags.async.onlyIf b).union .none) = if b then [.name "async"] else [] := by
  cases b <;> rfl

theorem FunctionHead.weaves (h : x.FunctionHead flags y) : ∃ own,
    words own = asyncWords (flags.union .none) ++ [.token .functionKeyword] ∧
      x.Weaves parent own [] y := by
  obtain @⟨u, v, y, isAsync, isGenerator, async, word, star⟩ := h
  obtain ⟨own, names, -, before⟩ := async.weaves
  obtain ⟨own', none, -, behind⟩ := star.weaves
  refine ⟨own ++ u.terminal :: own', ?_, before.append (word.then behind)⟩
  rw [words_append, names, word.words, none]
  cases isAsync <;> cases isGenerator <;> rfl

theorem MemberHead.weaves {isAccessor : Bool} (h : x.MemberHead flags isAccessor y) : ∃ own,
    (∀ t ∈ own, t.kind ≠ .colon) ∧
      (words own = [] ∨ ∃ word ∈ ["async", "get", "set"], words own = [.name word]) ∧
      x.Weaves parent own [] y := by
  cases h with
  | @plain u y isAsync isGenerator async star =>
    obtain ⟨own, names, are, before⟩ := async.weaves
    obtain ⟨own', none, are', behind⟩ := star.weaves
    refine ⟨own ++ own', ?_, ?_, before.append behind⟩
    · intro t mem
      rcases List.mem_append.mp mem with mem | mem
      · simp [are t mem]
      · simp [are' t mem]
    · rw [words_append, names, none]
      cases isAsync
      · exact .inl rfl
      · exact .inr ⟨"async", by simp, rfl⟩
  | accessor word spelled =>
    refine ⟨[x.terminal], ?_, .inr ⟨x.value, by simp [spelled], ?_⟩, word.weaves⟩
    · exact List.forall_mem_singleton.mpr (by simp [terminal, word.token])
    · rw [word.words]
      rfl

/-! ### Nodes -/

/-- A tree over a row is woven. -/
theorem Weaves.close (h : x.Weaves u.kind own u.children y) (some : own ≠ [] ∨ u.children ≠ [])
    (span : u.span = ⟨x.pos, y.prevEnd⟩) (spells : u.Spells parent own) :
    x.Weaves parent [] [u] y := by
  obtain ⟨ts, consumes, woven⟩ := h
  obtain ⟨t, run, rfl⟩ := woven.exists_first some
  refine ⟨t :: run, consumes, ?_⟩
  rw [← List.append_nil (t :: run)]
  refine .tree ?_ woven spells .nil
  have stop := consumes.prevEnd_eq
  rw [List.getLast?_cons, Option.map_some, Option.getD_some] at stop
  rw [span, Terminal.cover, consumes.pos_eq, ← stop]

/-- A node over a row is woven if it may have what the row leaves over. -/
theorem Weaves.node (h : x.Weaves kind own us y)
    (spelling : Spelling kind (flags.union r.flags) (some r.kinds) own)
    (some : own ≠ [] ∨ us ≠ [] := by simp) (inner : kind.isTokenLeaf = false := by rfl)
    (children : r.children kind (fun c => [c]) Option.toList = us := by
      simp [Record.children, Record.slots]) :
    x.Weaves parent [] [x.flagged y kind flags r] y := by
  subst children
  refine Weaves.close h some rfl ?_
  rw [Tree.Spells, if_neg]
  · exact spelling
  · rw [← Bool.not_eq_true] at inner
    exact inner

/-- The function of a method is its parameters and its body. -/
theorem Weaves.method {b : Tree} (parameters : x.Weaves .functionExpression own us y)
    (marks : words own = []) (body : y.Weaves .functionExpression [] [b] z) :
    x.Weaves parent [] [x.flagged z .functionExpression flags (.function none us b false)] z := by
  have row := parameters.append body
  rw [List.append_nil] at row
  exact row.node (.methodFunction marks)

/-- One token is a leaf that says what it says. -/
theorem Consumes.leaf {t : Terminal} (h : x.Consumes [t] y) (isLeaf : u.kind.isTokenLeaf = true)
    (span : u.span = t.span) (none : u.children = [])
    (saying : t.IsSpelled → Says parent u.kind u.leafText? t) : x.Weaves parent [] [u] y := by
  have inside : Woven u.kind [t] [t] u.children := none ▸ .token .nil
  have spells : u.Spells parent [t] := by
    rw [Tree.Spells, if_pos isLeaf]
    exact ⟨none, t, rfl, span, saying⟩
  have row : Woven parent ([t] ++ []) [] [u] := .tree span inside spells .nil
  exact ⟨[t], h, row⟩

theorem Takes.leaf (mark : x.Takes k y) (isLeaf : u.kind.isTokenLeaf = true)
    (span : u.span = ⟨x.pos, y.prevEnd⟩) (none : u.children = [])
    (saying : x.terminal.IsSpelled → Says parent u.kind u.leafText? x.terminal) :
    x.Weaves parent [] [u] y := by
  refine Consumes.leaf (.token mark .none) isLeaf ?_ none saying
  rw [span, mark.next]
  rfl

theorem Takes.name (mark : x.Takes .identifier y) : x.Weaves parent [] [x.name y] y := by
  refine mark.leaf rfl rfl rfl fun _ => ?_
  show Says parent (.token .identifier) (some x.terminal.value) x.terminal
  exact .name mark.token

/-- The name of a property may be a reserved word. -/
theorem Takes.propertyName (mark : x.Takes k y) (isName : k.isName = true)
    (named : parent = .propertyAccess ∨ parent = .propertyAssignment) :
    x.Weaves parent [] [x.name y] y := by
  refine mark.leaf rfl rfl rfl fun _ => ?_
  show Says parent (.token .identifier) (some x.terminal.value) x.terminal
  rcases Bool.or_eq_true_iff.mp isName with is | is
  · exact .name (mark.token.trans (beq_iff_eq.mp is))
  · rw [← mark.token] at is
    exact .property is named

theorem Takes.literal (mark : x.Takes k y) (isLiteral : k.isLiteral = true) :
    x.Weaves parent [] [x.literal y] y := by
  rw [← mark.token] at isLiteral
  refine mark.leaf ?_ rfl rfl fun _ => ?_
  · show x.token.isLeaf = true
    rw [TokenKind.isLeaf, isLiteral, Bool.true_or]
  · show Says parent (.token x.terminal.kind) (some x.terminal.value) x.terminal
    exact .literal isLiteral

/-- A word that stands for itself. -/
theorem Takes.itself (mark : x.Takes k y)
    (isWord : k = .thisKeyword ∨ k = .trueKeyword ∨ k = .falseKeyword ∨ k = .nullKeyword) :
    x.Weaves parent [] [x.leaf y (.token k)] y := by
  have facts : k.isLeaf = true ∧ k.isKeyword = true := by
    rcases isWord with rfl | rfl | rfl | rfl <;> decide
  refine mark.leaf facts.1 rfl rfl fun spelled => ?_
  have text := spelled (show x.token.isKeyword = true by rw [mark.token]; exact facts.2)
  show Says parent (.token k) k.keyword? x.terminal
  rw [← mark.token, show x.token.keyword? = some x.terminal.value from text]
  exact .word text

/-- A slash that is read again is consumed as a regular expression. -/
theorem Takes.regex (mark : x.asRegex.Takes .regexLiteral y) (slash : x.scanner.atSlash = true) :
    x.Weaves parent [] [x.asRegex.literal y] y := by
  have isLiteral : x.asRegex.token.isLiteral = true := by rw [mark.token]; rfl
  refine Consumes.leaf (.regex slash mark .none) ?_ ?_ rfl fun _ => ?_
  · show x.asRegex.token.isLeaf = true
    rw [TokenKind.isLeaf, isLiteral, Bool.true_or]
  · rw [mark.next]
    rfl
  · show Says parent (.token x.asRegex.terminal.kind) (some x.asRegex.terminal.value) _
    exact .literal isLiteral

/-- A brace that is read again is consumed as a piece of a template. -/
theorem Takes.piece (mark : x.asTemplate.Takes k y) (brace : x.token = .closeBrace) :
    x.Weaves parent [x.asTemplate.terminal] [] y := ⟨_, .piece brace mark .none, .token .nil⟩

theorem Takes.isPiece (mark : x.Takes k y) (is : k.isPiece = true) :
    x.terminal.kind.isPiece = true := by
  rw [← mark.token] at is
  exact is

/-- A comma without an element before it. -/
theorem Takes.hole (mark : x.Takes .comma y) : x.Weaves parent [x.terminal] [x.hole] y :=
  ⟨_, .token mark .none, .hole .nil⟩

theorem MayName.weaves {name? : Option Tree} (h : x.MayName name? y) :
    x.Weaves parent [] name?.toList y := by
  cases h with
  | named mark => exact mark.name
  | unnamed => exact .nil

end Place

/-! ### Parts -/

namespace Part

/-- Whether no token of the part is left over for the node around it. -/
def isClosed : Part → Bool
  | parameterList | arrowParameters | condition | arguments | elementKey | elements | pieces _
  | declarations | finalizer | list _ => false
  | _ => true

/-- What a part may leave over: marks, the word before a finalizer, or the pieces of a template. -/
def LeavesOver : Part → List Tree → List Terminal → Prop
  | pieces texts, _, own => (∀ t ∈ own, t.kind.isPiece) ∧ own.map Terminal.value = texts
  | finalizer, ts, own => words own = ts.map fun _ => .token .finallyKeyword
  | list item, _, own => item.isClosed → words own = []
  | part, _, own => if part.isClosed then own = [] else words own = []

/-- Below what a part may stand.  Only the name of a property stands nowhere else. -/
def StandsIn : Part → NodeKind → Prop
  | propertyName => (· = .propertyAssignment)
  | list item => item.StandsIn
  | _ => fun _ => True

/-- The trees of a part are woven from the tokens between two places. -/
def Weaves (part : Part) (x : Place) (ts : List Tree) (y : Place) : Prop :=
  ∀ parent, part.StandsIn parent → ∃ own, part.LeavesOver ts own ∧ x.Weaves parent own ts y

variable {part : Part} {x y : Place} {ts : List Tree} {parent : NodeKind}

theorem LeavesOver.eq_nil {own : List Terminal} (spare : part.LeavesOver ts own)
    (isClosed : part.isClosed = true) : own = [] := by
  cases part <;> simp_all [LeavesOver, Part.isClosed]

theorem Weaves.closed (h : part.Weaves x ts y) (isClosed : part.isClosed = true := by rfl)
    (within : part.StandsIn parent := by trivial) : x.Weaves parent [] ts y := by
  obtain ⟨own, spare, woven⟩ := h parent within
  obtain rfl := spare.eq_nil isClosed
  exact woven

theorem weaves_of_closed (woven : ∀ parent, part.StandsIn parent → x.Weaves parent [] ts y)
    (isClosed : part.isClosed = true := by rfl) : part.Weaves x ts y := by
  intro parent within
  refine ⟨[], ?_, woven parent within⟩
  cases part <;> simp_all [LeavesOver, Part.isClosed]

/-- What is left over is marks, for all but a few parts. -/
theorem Weaves.marks (h : part.Weaves x ts y)
    (marks : ∀ own, part.LeavesOver ts own → words own = [] := by
      first | exact fun _ spare => spare | exact fun _ spare => spare rfl)
    (within : part.StandsIn parent := by trivial) :
    ∃ own, words own = [] ∧ x.Weaves parent own ts y := by
  obtain ⟨own, spare, woven⟩ := h parent within
  exact ⟨own, marks own spare, woven⟩

end Part

open Shapewire.Part in
/-- **Whatever part of the grammar is read, its trees are woven** from the tokens consumed. -/
theorem weaves_of_derives {n : Nat} {c : Context} {p : Part} {x y : Place} {ts : List Tree}
    (h : Derives n c p x ts y) : p.Weaves x ts y := by
  induction h with
  | listEnd => exact fun _ _ => ⟨[], fun _ => rfl, .nil⟩
  | listLast _ item =>
    intro parent within
    obtain ⟨own, spare, woven⟩ := item parent within
    exact ⟨own, fun closed => congrArg words (spare.eq_nil closed), woven⟩
  | listMore _ comma _ item rest =>
    intro parent within
    obtain ⟨own, spare, first⟩ := item parent within
    obtain ⟨own', marks, others⟩ := rest parent within
    refine ⟨own ++ [_] ++ own', fun closed => ?_, (first.take comma).append others⟩
    rw [spare.eq_nil closed]
    exact comma.words_mark.trans (marks closed)
  | noStatement | noExpression | noInitializer | noCatch | noClause =>
    exact weaves_of_closed fun _ _ => .nil
  | noElement | noFinalizer => exact fun _ _ => ⟨[], rfl, .nil⟩
  | moreStatements _ _ first rest | moreClauses _ _ _ first rest =>
    exact weaves_of_closed fun _ _ => first.closed.append rest.closed
  | arrowBlock _ ih | arrowValue _ ih | oneExpression _ ih | assignment _ _ ih
  | plainAssignment _ ih | plainConditional _ ih | operand _ _ ih | firstOperand _ ih
  | plainUnary _ ih | base _ ih | constructionBase _ ih | calleeBase _ _ ih
  | calleeConstruction _ _ ih | templateOperand _ ih | plainElement _ ih | statement _ _ ih
  | blockStatement _ ih | someExpression _ ih | listInitializer _ ih | plainInitializer _ ih =>
    exact weaves_of_closed fun _ _ => ih.closed
  -- Functions
  | block opened _ closed inside =>
    exact weaves_of_closed fun _ _ => ((opened.then inside.closed).take closed).node
      (.marked rfl (opened.words_mark.trans closed.words_mark))
  | parameter named => exact weaves_of_closed fun _ _ => named.name.node (.marked rfl rfl)
  | restParameter dots named =>
    exact weaves_of_closed fun _ _ => (dots.then named.name).node (.marked rfl dots.words_mark)
  | defaultParameter named sign _ value =>
    exact weaves_of_closed fun _ _ => ((named.name.take sign).append value.closed).node
      (.marked rfl sign.words_mark)
  | parameterList opened _ closed inside | arguments opened _ closed inside =>
    intro parent _
    obtain ⟨own, marks, within⟩ := inside.marks
    refine ⟨_, ?_, (opened.then within).take closed⟩
    show words (_ :: own ++ [_]) = []
    rw [List.cons_append, opened.words_mark, words_append, marks]
    exact closed.words_mark
  | condition opened _ closed inside | elementKey opened _ closed inside =>
    intro parent _
    exact ⟨_, opened.words_mark.trans closed.words_mark, (opened.then inside.closed).take closed⟩
  | arrowParameter named => exact fun _ _ => ⟨[], rfl, named.name.node (.marked rfl rfl)⟩
  | arrowParameterList _ ih => exact fun parent _ => ih parent trivial
  | arrow async _ mark _ parameters body =>
    refine weaves_of_closed fun _ _ => ?_
    obtain ⟨own, head, -, before⟩ := async.weaves
    obtain ⟨own', marks, within⟩ := parameters.marks
    refine (((before.append within).take mark).append body.closed).node (.arrowFunction ?_)
    rw [List.append_nil, words_append, words_append, head, marks, mark.words_mark]
    exact (List.append_nil _).trans ((List.append_nil _).trans (Place.asyncWords_onlyIf _).symm)
  -- Commas, assignments and operators
  | comma _ mark _ left right =>
    exact weaves_of_closed fun _ _ => ((left.closed.take mark).append right.closed).node
      (.binary (mark.words_operator (.inl rfl)))
  | assign _ mark assigns _ left right =>
    exact weaves_of_closed fun _ _ => ((left.closed.take mark).append right.closed).node
      (.binary (mark.words_operator (TokenKind.isMark_or_isOperatorWord (.inl assigns))))
  | moreOperands _ mark binds _ left right =>
    exact weaves_of_closed fun _ _ => ((left.closed.take mark).append right.closed).node
      (.binary (mark.words_operator
        (TokenKind.isMark_or_isOperatorWord (.inr (.inr ⟨_, _, binds⟩)))))
  | yieldAlone _ word spelled =>
    exact weaves_of_closed fun _ _ => word.weaves.node (.yielding (spelled ▸ word.words_name))
  | yieldDelegate _ word spelled star _ operand =>
    refine weaves_of_closed fun _ _ => ((word.then star.weaves).append operand.closed).node
      (.yielding ?_)
    rw [List.append_nil, word.words_name, star.words_mark, spelled]
    rfl
  | yieldValue _ word spelled _ operand =>
    exact weaves_of_closed fun _ _ => (word.then operand.closed).node
      (.yielding (spelled ▸ word.words_name))
  | conditional _ question _ colon _ condition whenTrue whenFalse =>
    refine weaves_of_closed fun _ _ => ((((condition.closed.take question).append
      whenTrue.closed).take colon).append whenFalse.closed).node (.marked rfl ?_)
    exact question.words_mark.trans colon.words_mark
  | await _ word spelled _ _ operand =>
    exact weaves_of_closed fun _ _ => (word.then operand.closed).node
      (.awaiting (spelled ▸ word.words_name))
  | prefixed word operator _ _ operand =>
    exact weaves_of_closed fun _ _ => (word.then operand.closed).node
      (.prefixed (word.words_operator (TokenKind.isMark_or_isOperatorWord (.inr (.inl operator)))))
  | postfixed _ mark operator operand =>
    refine weaves_of_closed fun _ _ => (operand.closed.take mark).node
      (.postfixed (mark.words_operator ?_))
    rcases operator with rfl | rfl <;> exact .inl rfl
  -- Members and calls
  | access _ mark named isName object =>
    refine weaves_of_closed fun _ _ => ((object.closed.take mark).append
      (named.propertyName isName (.inl rfl))).node (.marked rfl (mark.words_mark ?_))
    split <;> rfl
  | keyAccess _ mark _ object key =>
    refine weaves_of_closed fun _ _ => ?_
    obtain ⟨own, marks, -, dot⟩ := mark.weaves
    obtain ⟨own', marks', inside⟩ := key.marks
    refine ((object.closed.more dot).append inside).node (.marked rfl ?_)
    exact words_append.trans (by rw [List.nil_append, marks, marks']; rfl)
  | call _ mark _ callee args =>
    refine weaves_of_closed fun _ _ => ?_
    obtain ⟨own, marks, -, dot⟩ := mark.weaves
    obtain ⟨own', marks', inside⟩ := args.marks
    refine ((callee.closed.more dot).append inside).node (.marked rfl ?_)
    exact words_append.trans (by rw [List.nil_append, marks, marks']; rfl)
  | taggedText _ text tag =>
    exact weaves_of_closed fun _ _ => (tag.closed.append (text.literal rfl)).node (.marked rfl rfl)
  | taggedTemplate _ _ tag body =>
    exact weaves_of_closed fun _ _ => (tag.closed.append body.closed).node (.marked rfl rfl)
  | construction word _ _ callee args =>
    refine weaves_of_closed fun _ _ => ?_
    obtain ⟨own, marks, inside⟩ := args.marks
    refine ((word.then callee.closed).append inside).node (.construction ?_)
    exact word.words_token.trans (congrArg _ marks)
  | bareConstruction word _ callee =>
    exact weaves_of_closed fun _ _ => (word.then callee.closed).node
      (.construction word.words_token)
  -- Operands
  | name named => exact weaves_of_closed fun _ _ => named.name
  | word mark isWord => exact weaves_of_closed fun _ _ => mark.itself isWord
  | literal mark isLiteral => exact weaves_of_closed fun _ _ => mark.literal isLiteral
  | regex slash mark => exact weaves_of_closed fun _ _ => mark.regex slash
  | array opened _ closed inside | object opened _ closed inside =>
    refine weaves_of_closed fun _ _ => ?_
    obtain ⟨own, marks, within⟩ := inside.marks
    refine ((opened.then within).take closed).node (.marked rfl ?_)
    rw [List.cons_append, opened.words_mark, words_append, marks]
    exact closed.words_mark
  | parenthesized opened _ closed inside | computedName opened _ closed inside =>
    exact weaves_of_closed fun _ _ => ((opened.then inside.closed).take closed).node
      (.marked rfl (opened.words_mark.trans closed.words_mark))
  | functionValue head named _ _ parameters body =>
    refine weaves_of_closed fun _ _ => ?_
    obtain ⟨own, words_own, before⟩ := head.weaves
    obtain ⟨own', marks, within⟩ := parameters.marks
    refine (((before.append named.weaves).append within).append body.closed).node
      (.functionExpression ?_)
    rw [List.append_nil, List.append_nil, words_append, marks, words_own]
    exact List.append_nil _
  -- Parts of expressions
  | spread word _ operand | spreadMember word _ operand =>
    exact weaves_of_closed fun _ _ => (word.then operand.closed).node (.marked rfl word.words_mark)
  | hole comma _ rest =>
    intro parent _
    obtain ⟨own, marks, others⟩ := rest.marks
    exact ⟨_, comma.words_mark.trans marks, comma.hole.append others⟩
  | lastElement _ item | lastDeclaration _ item => exact fun _ _ => ⟨[], rfl, item.closed⟩
  | moreElements _ comma _ item rest | moreDeclarations _ comma _ item rest =>
    intro parent _
    obtain ⟨own, marks, others⟩ := rest.marks
    exact ⟨_, comma.words_mark.trans marks, (item.closed.take comma).append others⟩
  | literalName mark isText =>
    refine weaves_of_closed fun _ _ => mark.literal ?_
    rcases isText with rfl | rfl <;> rfl
  | plainName named isName =>
    exact weaves_of_closed fun _ within => named.propertyName isName (.inr within)
  | method head _ _ _ named parameters body =>
    refine weaves_of_closed fun _ _ => ?_
    obtain ⟨own, noColon, words_own, before⟩ := head.weaves
    obtain ⟨own', marks, within⟩ := parameters.marks
    refine ((before.append (named.closed rfl rfl)).append
      (within.method marks body.closed)).node ?_ (by simp) rfl rfl
    rw [List.append_nil, List.append_nil]
    rcases words_own with none | word
    · exact .marked rfl none
    · exact .method noColon word
  | property _ colon _ named value =>
    exact weaves_of_closed fun _ _ => (((named.closed rfl rfl).take colon).append
      value.closed).node (.marked rfl colon.words_mark)
  | shorthand named => exact weaves_of_closed fun _ _ => named.name.node (.marked rfl rfl)
  | lastPiece _ brace text inside =>
    intro parent _
    refine ⟨_, ⟨?_, rfl⟩, inside.closed.more (text.piece brace)⟩
    exact List.forall_mem_singleton.mpr (text.isPiece rfl)
  | morePieces _ brace text _ inside rest =>
    intro parent _
    obtain ⟨own, ⟨pieces, texts⟩, others⟩ := rest parent trivial
    refine ⟨_, ⟨?_, ?_⟩, (inside.closed.more (text.piece brace)).append others⟩
    · exact List.forall_mem_cons.mpr ⟨text.isPiece rfl, pieces⟩
    · exact congrArg _ texts
  | template head _ inside =>
    refine weaves_of_closed fun parent _ => ?_
    obtain ⟨own, ⟨pieces, texts⟩, others⟩ := inside .template trivial
    refine (head.then others).node (.template ?_ (congrArg _ texts))
    exact List.forall_mem_cons.mpr ⟨head.isPiece rfl, pieces⟩
  -- Statements
  | emptyStatement mark =>
    refine weaves_of_closed fun _ _ => mark.weaves.close (.inl (List.cons_ne_nil _ _)) rfl ?_
    exact .marked rfl mark.words_mark
  | expressionStatement _ ended inside | variableStatement _ ended inside =>
    refine weaves_of_closed fun _ _ => ?_
    obtain ⟨own, marks, -, behind⟩ := ended.weaves
    exact (inside.closed.more behind).node (.marked rfl marks)
  | declaration named => exact weaves_of_closed fun _ _ => named.name.node (.marked rfl rfl)
  | initialized named sign _ value =>
    exact weaves_of_closed fun _ _ => ((named.name.take sign).append value.closed).node
      (.marked rfl sign.words_mark)
  | variableList word introduces _ inside =>
    refine weaves_of_closed fun _ _ => ?_
    obtain ⟨own, marks, within⟩ := inside.marks
    refine (word.then within).node (.variableList ?_ introduces)
    exact (word.words_token (Word.of?_of_introducesVariables introduces)).trans (congrArg _ marks)
  | functionDeclaration head named _ _ parameters body =>
    refine weaves_of_closed fun _ _ => ?_
    obtain ⟨own, words_own, before⟩ := head.weaves
    obtain ⟨own', marks, within⟩ := parameters.marks
    refine (((before.append named.name).append within).append body.closed).node
      (.functionDeclaration ?_)
    rw [List.append_nil, List.append_nil, words_append, marks, words_own]
    exact List.append_nil _
  | ifOnly word _ _ _ condition whenTrue =>
    refine weaves_of_closed fun _ _ => ?_
    obtain ⟨own, marks, test⟩ := condition.marks
    refine ((word.then test).append whenTrue.closed).node (.ifOnly ?_)
    rw [List.append_nil, word.words_token, marks]
  | ifElse word _ _ other _ condition whenTrue whenFalse =>
    refine weaves_of_closed fun _ _ => ?_
    obtain ⟨own, marks, test⟩ := condition.marks
    refine ((((word.then test).append whenTrue.closed).take other).append
      whenFalse.closed).node (.ifElse ?_)
    rw [List.append_nil, List.append_nil, List.cons_append, word.words_token, words_append, marks,
      other.words_token]
    rfl
  | doStatement word _ while_ _ ended body condition =>
    refine weaves_of_closed fun _ _ => ?_
    obtain ⟨own, marks, test⟩ := condition.marks
    obtain ⟨own', marks', -, behind⟩ := ended.weaves
    refine ((((word.then body.closed).take while_).append test).more behind).node
      (.doStatement ?_)
    rw [words_append, marks', List.append_nil]
    refine word.words_token.trans (congrArg _ ?_)
    exact while_.words_token.trans (congrArg _ marks)
  | whileStatement word _ _ condition body =>
    refine weaves_of_closed fun _ _ => ?_
    obtain ⟨own, marks, test⟩ := condition.marks
    refine ((word.then test).append body.closed).node (.whileStatement ?_)
    rw [List.append_nil, word.words_token, marks]
  | forStatement word opened _ mark _ mark' _ closed _ initializer condition incrementor body =>
    refine weaves_of_closed fun _ _ => ?_
    refine (((((((word.then opened.weaves).append initializer.closed).take mark).append
      condition.closed).take mark').append incrementor.closed).take closed).append
      body.closed |>.node (.forStatement ?_)
    refine word.words_token.trans (congrArg _ (opened.words_mark.trans ?_))
    exact mark.words_mark.trans (mark'.words_mark.trans closed.words_mark)
  | forIn word opened _ mark _ closed _ binding subject body =>
    refine weaves_of_closed fun _ _ => ?_
    refine (((((word.then opened.weaves).append binding.closed).take mark).append
      subject.closed).take closed).append body.closed |>.node (.forInStatement ?_)
    refine word.words_token.trans (congrArg _ (opened.words_mark.trans ?_))
    exact mark.words_token.trans (congrArg _ closed.words_mark)
  | forOf word opened _ mark spelled _ closed _ binding subject body =>
    refine weaves_of_closed fun _ _ => ?_
    refine (((((word.then opened.weaves).append binding.closed).take mark).append
      subject.closed).take closed).append body.closed |>.node (.forOfStatement ?_)
    refine word.words_token.trans (congrArg _ (opened.words_mark.trans ?_))
    rw [← spelled]
    exact mark.words_name.trans (congrArg _ closed.words_mark)
  | returnStatement word _ ended value =>
    refine weaves_of_closed fun _ _ => ?_
    obtain ⟨own, marks, -, behind⟩ := ended.weaves
    exact ((word.then value.closed).more behind).node
      (.returnStatement (word.words_token.trans (congrArg _ marks)))
  | throwStatement word _ ended value =>
    refine weaves_of_closed fun _ _ => ?_
    obtain ⟨own, marks, -, behind⟩ := ended.weaves
    exact ((word.then value.closed).more behind).node
      (.throwStatement (word.words_token.trans (congrArg _ marks)))
  | breakStatement word label ended =>
    refine weaves_of_closed fun _ _ => ?_
    obtain ⟨own, marks, -, behind⟩ := ended.weaves
    exact ((word.then label.weaves).more behind).node
      (.breakStatement (word.words_token.trans (congrArg _ marks)))
  | continueStatement word label ended =>
    refine weaves_of_closed fun _ _ => ?_
    obtain ⟨own, marks, -, behind⟩ := ended.weaves
    exact ((word.then label.weaves).more behind).node
      (.continueStatement (word.words_token.trans (congrArg _ marks)))
  | catchAll word _ body =>
    exact weaves_of_closed fun _ _ => (word.then body.closed).node (.catchClause word.words_token)
  | catchNamed word opened named closed _ body =>
    refine weaves_of_closed fun _ _ => ((((word.then opened.weaves).append named.name).take
      closed).append body.closed).node (.catchClause ?_)
    exact word.words_token.trans (congrArg _ (opened.words_mark.trans closed.words_mark))
  | finalizer word _ body =>
    intro parent _
    refine ⟨_, ?_, word.then body.closed⟩
    show words [_] = [.token .finallyKeyword]
    exact word.words_token
  | tryStatement word _ _ _ _ body onFault finally_ =>
    refine weaves_of_closed fun _ _ => ?_
    obtain ⟨own, last, behind⟩ := finally_ .tryStatement trivial
    refine (((word.then body.closed).append onFault.closed).append behind).node (.attempt ?_)
    exact word.words_token.trans (congrArg _ last)
  | caseClause word _ colon _ test inside =>
    exact weaves_of_closed fun _ _ => (((word.then test.closed).take colon).append
      inside.closed).node (.caseClause (word.words_token.trans (congrArg _ colon.words_mark)))
  | defaultClause word colon _ inside =>
    exact weaves_of_closed fun _ _ => ((word.then colon.weaves).append inside.closed).node
      (.defaultClause (word.words_token.trans (congrArg _ colon.words_mark)))
  | switchStatement word _ opened _ closed subject inside =>
    refine weaves_of_closed fun _ _ => ?_
    obtain ⟨own, marks, test⟩ := subject.marks
    refine ((((word.then test).take opened).append inside.closed).take closed).node
      (.switchStatement ?_)
    rw [List.append_nil, List.cons_append, List.cons_append, word.words_token, words_append,
      words_append, marks, opened.words_mark, closed.words_mark]
    rfl
  | labeledStatement label colon _ body =>
    exact weaves_of_closed fun _ _ => ((label.name.take colon).append body.closed).node
      (.marked rfl colon.words_mark)

end Shapewire
