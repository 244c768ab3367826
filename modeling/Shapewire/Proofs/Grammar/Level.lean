/-
Depth and context belong to what encloses a place, not to what came before it.

The level of a state is the number of constructs that its depth counts.  A parser stays on its level
if it gives the depth back with its result, and the context in any case, whether it builds
something or stops.  `Level n p q` says more: on level `n` the parser `p` stays there, and `q` does
the very same.  Every parser of the grammar stays on its level (`Routine.level_parser`), since no
parser that it is made of sees the depth but `nested` (`Built.level`).

So the depth and the context in which a parser started are those in which the next one starts, and a
counter in the state can do what the structure of the source would do by itself.  `parseWithin` is
the grammar with that structure spelled out.  It is handed the number of constructs that are open
around a part, sets the depth to it before it reads the part, and hands one more to what a construct
encloses; how many parts have been read before has no way to enter.
`Parser.parseAt_eq_parseWithin` says that this is the parser as it is.
-/
import Shapewire.Proofs.Grammar.Built.Productions
import Shapewire.Proofs.Grammar.Routine

namespace Shapewire

open Shapewire.Parser

namespace Parser

variable {α β : Type} {n : Nat}

/-! ### Staying on a level -/

/-- What the end of a run has in common with the state `s` from which it started: depth and context
if something was built, and the context also if not. -/
def Restored (s : ParserState) : EStateM.Result Stop ParserState α → Prop
  | .ok _ t => t.depth = s.depth ∧ t.context = s.context
  | .error _ t => t.context = s.context

/-- On level `n` the parser `p` stays on its level, and `q` does the same as `p`. -/
def Level (n : Nat) (p q : Parser α) : Prop :=
  ∀ s : ParserState, s.depth = n → q s = p s ∧ Restored s (p s)

namespace Level

/-! ### Sequences and choices -/

theorem pure {a : α} : Level n (Pure.pure a) (Pure.pure a) := fun _ _ => ⟨rfl, rfl, rfl⟩

theorem stop {e : Stop} : Level n (throw e : Parser α) (throw e) := fun _ _ => ⟨rfl, rfl⟩

theorem bind {p q : Parser α} {f g : α → Parser β} (hp : Level n p q)
    (hf : ∀ a, Level n (f a) (g a)) : Level n (p >>= f) (q >>= g) := by
  intro s level
  obtain ⟨same, restored⟩ := hp s level
  show EStateM.bind q g s = EStateM.bind p f s ∧ Restored s (EStateM.bind p f s)
  unfold EStateM.bind
  rw [same]
  generalize p s = r at restored
  cases r with
  | ok a t =>
    obtain ⟨depth, context⟩ := restored
    obtain ⟨same, restored⟩ := hf a t (depth.trans level)
    refine ⟨same, ?_⟩
    dsimp only
    generalize f a t = r at restored
    cases r with
    | ok b u => exact ⟨restored.1.trans depth, restored.2.trans context⟩
    | error e u => exact restored.trans context
  | error e t => exact ⟨rfl, restored⟩

/-- The place in the source may change. -/
theorem move {f : ParserState → Scanner} {g : ParserState → Nat} :
    Level n (modify fun s => { s with scanner := f s, prevEnd := g s } : Parser Unit)
      (modify fun s => { s with scanner := f s, prevEnd := g s }) :=
  fun _ _ => ⟨rfl, rfl, rfl⟩

theorem ask {p : Parser α} (asks : Asks p) : Level n p p := by
  intro s level
  obtain ⟨a, run⟩ := asks s
  rw [run]
  exact ⟨rfl, rfl, rfl⟩

theorem unexpected {expected : String} :
    Level n (Parser.unexpected expected : Parser α) (Parser.unexpected expected) :=
  fun _ _ => ⟨rfl, rfl⟩

/-- What would follow where the parser stops does not matter. -/
theorem refused {expected : String} {f g : α → Parser β} :
    Level n (Parser.unexpected expected >>= f) (Parser.unexpected expected >>= g) :=
  fun _ _ => ⟨rfl, rfl⟩

theorem checkToken : Level n Parser.checkToken Parser.checkToken := by
  refine (ask .state).bind fun s => ?_
  dsimp only
  split
  · exact stop
  · exact pure

theorem advance : Level n Parser.advance Parser.advance :=
  move.bind fun _ => checkToken

theorem reread {again : Scanner → Scanner} : Level n (Parser.reread again) (Parser.reread again) :=
  move.bind fun _ => checkToken

/-- The one parser that leaves the level: what it runs is one construct deeper. -/
theorem nested {p q : Parser α} (hp : Level (n + 1) p q) :
    Level n (Parser.nested p) (Parser.nested q) := by
  intro s level
  obtain ⟨same, restored⟩ := hp { s with depth := s.depth + 1 } (congrArg (· + 1) level)
  unfold Parser.nested
  split
  · exact ⟨rfl, rfl⟩
  · rw [same]
    generalize p _ = r at restored
    cases r with
    | ok a t => exact ⟨rfl, congrArg (· - 1) restored.1, restored.2⟩
    | error e t => exact ⟨rfl, restored⟩

theorem withContext {change : Context → Context} {p q : Parser α} (hp : Level n p q) :
    Level n (Parser.withContext change p) (Parser.withContext change q) := by
  intro s level
  obtain ⟨same, restored⟩ := hp { s with context := change s.context } level
  unfold Parser.withContext
  rw [same]
  generalize p _ = r at restored
  cases r with
  | ok a t => exact ⟨rfl, restored.1, rfl⟩
  | error e t => exact ⟨rfl, rfl⟩

/-- On its own level a parser may be told the depth. -/
theorem atDepth {p q : Parser α} (h : Level n p q) : Level n p (Parser.atDepth n q) := by
  rintro s rfl
  exact h s rfl

end Level

/-- What the parsers of the grammar are made of stays on its level, and so do they. -/
theorem Built.level {p q : Parser α} (h : Built n p q) : Level n p q := by
  induction h with
  | ask asks => exact .ask asks
  | exhausted => exact .stop
  | unexpected => exact .unexpected
  | advance => exact .advance
  | rescanSlash => exact .reread
  | rescanTemplate _ rest =>
    refine .bind (.ask .isToken) fun b => ?_
    cases b with
    | false => exact .refused
    | true => exact .bind .reread rest
  | bind _ _ first rest => exact .bind first rest
  | nested _ inner => exact .nested inner
  | withContext _ inner => exact .withContext inner
  | atDepth _ inner => exact inner.atDepth

/-! ### The grammar with its depth handed down -/

/-- What a part of the grammar reads.  Parts on the same level are reached through `here`, parts
within one more construct through `deeper`. -/
def productionWithin (here deeper : Descent) : Nonterminal → Parser Tree
  | .statement => nested deeper.statementBody
  | .assignment => nested deeper.assignmentBody
  | .operand min => here.operand min
  | .unary => deeper.unaryVia here
  | .construction => deeper.constructionVia here

/-- With one descent for both it is the production. -/
theorem productionWithin_self (d : Descent) (part : Nonterminal) :
    productionWithin d d part = production d part := by
  cases part with
  | statement | assignment | operand => rfl
  | unary => exact d.unary_eq.symm
  | construction => exact d.construction_eq.symm

/-- Reads a part of the grammar with a budget where `n` constructs are open around it. -/
def parseWithin : Nat → Nat → Nonterminal → Parser Tree
  | 0, _ => fun _ => throw .exhausted
  | budget + 1, n => fun part => atDepth n <|
    productionWithin ⟨budget + 1, parseWithin budget n⟩ ⟨budget + 1, parseWithin budget (n + 1)⟩
      part

/-- A whole source, around which nothing is open. -/
def sourceWithin (file : String) (text : List Char) : Parser Tree := do
  advance
  let n := budget text.length
  let statements ← repeatWhile (n + 1) sourceGoesOn (parseWithin n 0 .statement)
  return .node .sourceFile .none ⟨0, Text.byteLength text⟩ (some (.sourceFile file statements))

/-- A production is put together in the same way with the depth handed down. -/
theorem built_production {d : Descent} {q q' : Nonterminal → Parser Tree}
    (built : ∀ part, Built n (d.parse part) (q part))
    (deeper : ∀ part, Built (n + 1) (d.parse part) (q' part)) (part : Nonterminal) :
    Built n (production d part) (productionWithin (d.via q) (d.via q') part) := by
  cases part with
  | statement => exact .nested (Descent.built_statementBody deeper)
  | assignment => exact .nested (Descent.built_assignmentBody deeper)
  | operand min => exact Descent.built_operand built min
  | unary => exact Descent.built_unary built deeper
  | construction => exact Descent.built_construction built deeper

/-- The grammar may be told the depth on every level. -/
theorem built_parseAt (budget n : Nat) (part : Nonterminal) :
    Built n (parseAt budget part) (parseWithin budget n part) := by
  induction budget generalizing n part with
  | zero => exact .exhausted
  | succ budget ih =>
    exact (built_production (d := ⟨budget + 1, parseAt budget⟩) (ih n) (ih (n + 1)) part).atDepth

theorem parseAt_eq_parseWithin (budget : Nat) (part : Nonterminal) (s : ParserState) :
    parseAt budget part s = parseWithin budget s.depth part s :=
  ((built_parseAt budget s.depth part).level s rfl).1.symm

theorem built_source (file : String) (text : List Char) :
    Built 0 (source file text) (sourceWithin file text) := by
  refine .bind .advance fun _ => .bind (.repeatWhile ?_ (built_parseAt _ 0 .statement)) ?_
  · exact .bind .isToken fun _ => .pure
  · exact fun _ => .pure

end Parser

/-! ### Every parser of the grammar -/

section every

variable {n : Nat} {d : Descent} (built : ∀ n part, Built n (d.parse part) (d.parse part))

include built

/-- Every construct is put together from what parsers are made of. -/
theorem Construct.built_parser (construct : Construct) :
    Built n (construct.parser d) (construct.parser d) := by
  have here := built n
  cases construct with
  | part part => exact here part
  | nameFromToken => exact .nameFromToken
  | identifier => exact .identifier
  | memberName => exact .memberName
  | literal => exact .literal
  | block => exact Descent.built_block here
  | parameter => exact Descent.built_parameter here
  | functionDeclaration => exact Descent.built_functionDeclaration here
  | functionExpression => exact Descent.built_functionExpression here
  | arrowFunction => exact Descent.built_arrowFunction here
  | functionRest => exact Descent.built_functionRest here
  | expression => exact Descent.built_expression here
  | condition => exact Descent.built_condition here
  | elementKey => exact Descent.built_elementKey here
  | arrayLiteral => exact Descent.built_arrayLiteral here
  | propertyName => exact Descent.built_propertyName here
  | objectMember => exact Descent.built_objectMember here
  | objectLiteral => exact Descent.built_objectLiteral here
  | template => exact Descent.built_template here
  | primary => exact Descent.built_primary here
  | construction => exact Descent.built_construction here (built (n + 1))
  | leftHandSide => exact Descent.built_leftHandSide here
  | unary => exact Descent.built_unary here (built (n + 1))
  | conditional => exact Descent.built_conditional here
  | yielding => exact Descent.built_yielding here
  | assignmentBody => exact Descent.built_assignmentBody here
  | spreadOrAssignment => exact Descent.built_spreadOrAssignment here
  | callOf => exact Descent.built_callOf here
  | memberOf => exact Descent.built_memberOf
  | elementOf => exact Descent.built_elementOf here
  | operand min => exact Descent.built_operand here min
  | expressionStatement => exact Descent.built_expressionStatement here
  | emptyStatement => exact Descent.built_emptyStatement
  | declaration => exact Descent.built_declaration here
  | variableList => exact Descent.built_variableList here
  | variableStatement => exact Descent.built_variableStatement here
  | ifStatement => exact Descent.built_ifStatement here
  | doStatement => exact Descent.built_doStatement here
  | whileStatement => exact Descent.built_whileStatement here
  | forStatement => exact Descent.built_forStatement here
  | returnStatement => exact Descent.built_returnStatement here
  | throwStatement => exact Descent.built_throwStatement here
  | caseClause => exact Descent.built_caseClause here
  | tryStatement => exact Descent.built_tryStatement here
  | switchStatement => exact Descent.built_switchStatement here
  | labeledStatement => exact Descent.built_labeledStatement here
  | statementBody => exact Descent.built_statementBody here
  | forInRest => exact Descent.built_iterationRest here (Descent.built_expression here)
  | forOfRest => exact Descent.built_iterationRest here (here .assignment)
  | forRest => exact Descent.built_forRest here
  | jumpStatement => exact Descent.built_jumpStatement

/-- Every parser of the grammar stays on its level. -/
theorem Routine.level_parser {α : Type} (r : Routine α) : Level n (r.parser d) (r.parser d) := by
  have here := built n
  cases r with
  | construct construct => exact (construct.built_parser built).level
  | suffixes => exact (Descent.built_suffixes here).level
  | statements => exact (Built.repeatWhile Descent.built_blockGoesOn (here .statement)).level
  | clauseStatements => exact (Built.repeatWhile Descent.built_clauseGoesOn (here .statement)).level
  | parameterList => exact (Descent.built_parameterList here).level
  | arrowParameters => exact (Descent.built_arrowParameters here).level
  | arguments => exact (Descent.built_arguments here).level
  | arrayElements => exact (Descent.built_arrayElements here d.turns).level
  | members => exact (Built.commaList (Descent.built_objectMember here)).level
  | declarations => exact (Built.commaSequence (Descent.built_declaration here)).level
  | caseClauses seenDefault => exact (Descent.built_caseClauses here seenDefault d.turns).level
  | substitutions => exact (Descent.built_substitutions here d.turns).level
  | forInitializer => exact (Descent.built_forInitializer here).level
  | catchClause => exact (Descent.built_catchClause here).level
  | functionHead => exact Descent.built_functionHead.level
  | memberModifiers => exact Descent.built_memberModifiers.level
  | commaTurn => exact (Descent.built_commaTurn here).level
  | suffixTurn => exact (Descent.built_suffixTurn here).level
  | operandTurn => exact (Descent.built_operandTurn here).level
  | blockGoesOn => exact Descent.built_blockGoesOn.level
  | clauseGoesOn => exact Descent.built_clauseGoesOn.level
  | startsAsyncFunction => exact .ask (.question .asyncFunction)
  | startsLabel => exact .ask (.question .label)
  | startsAsyncArrow => exact .ask (.question .asyncArrow)
  | startsArrow => exact .ask (.question .arrow)
  | startsAsyncMember => exact .ask (.question .asyncMember)
  | startsAccessor => exact .ask (.question .accessor)
  | mayEndStatement => exact .ask .mayEndStatement
  | advance => exact .advance
  | expect => exact Built.expect.level
  | accept => exact Built.accept.level
  | endStatement => exact Built.endStatement.level
  | reread => exact .reread

end every

/-- What holds of depth and context throughout the grammar. -/
structure Parser.KeepsLevel : Prop where
  /-- Whatever a parser of the grammar is asked to read and from whichever state, it gives back
  depth and context with its result, and the context also if it stops. -/
  restored : ∀ {α : Type} (r : Routine α) (turns budget : Nat) (s : ParserState),
    Restored s (r.parser ⟨turns, parseAt budget⟩ s)
  /-- Productions that are told their depth differ from the others by the descents they are
  given. -/
  productions : ∀ (d : Descent) (part : Nonterminal),
    productionWithin d d part = production d part
  /-- A part of the grammar is read as if it were told how many constructs are open around it. -/
  within : ∀ (budget : Nat) (part : Nonterminal) (s : ParserState),
    parseAt budget part s = parseWithin budget s.depth part s
  /-- So is a whole source, around which none is open. -/
  sourceWithin : ∀ (file : String) (text : List Char),
    source file text (initial text) = Parser.sourceWithin file text (initial text)
  /-- At its end nothing is open any more and no word is read in another way. -/
  ended : ∀ (file : String) (text : List Char) (t : Tree) (s : ParserState),
    source file text (initial text) = .ok t s → s.depth = 0 ∧ s.context = {}
  /-- Nor is one where the source is given up. -/
  stopped : ∀ (file : String) (text : List Char) (e : Stop) (s : ParserState),
    source file text (initial text) = .error e s → s.context = {}

/-- **Depth and context count what is open around a place and nothing else.** -/
theorem Parser.keepsLevel : Parser.KeepsLevel where
  restored r turns budget s :=
    (r.level_parser (fun n part => (built_parseAt budget n part).self) s rfl).2
  productions := productionWithin_self
  within := parseAt_eq_parseWithin
  sourceWithin file text := ((built_source file text).level (initial text) rfl).1.symm
  ended file text t s built := by
    have restored := ((built_source file text).level (initial text) rfl).2
    rwa [built] at restored
  stopped file text e s failed := by
    have restored := ((built_source file text).level (initial text) rfl).2
    rwa [failed] at restored

end Shapewire
