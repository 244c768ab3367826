/-
Which tokens belong to a node itself.

The tokens that a node covers are its own or lie in one of its children.  A name, a literal and the
words `this`, `true`, `false` and `null` have one token each and say what it says.  Any other node
is told by marks and by the words of its construct, and `Spelling` lists those words, construct by
construct.  Names are among them only where they are no names: `async` before a function, an arrow
or a method, `get` and `set` before an accessor, `of` in a loop, `yield` and `await`.
-/
import Shapewire.Proofs.Grammar.Consumption
import Shapewire.Proofs.Token.Lexeme
import Shapewire.Proofs.Tree.Kinds

namespace Shapewire

namespace TokenKind

/-- A piece of a template that a substitution starts or ends. -/
def isPiece (k : TokenKind) : Bool := k == templateHead || k == templateMiddle || k == templateTail

/-- What is neither a name, nor a literal, nor a reserved word. -/
def isMark (k : TokenKind) : Bool := k.isPunctuation || k.isPiece

/-- What has a node of its own wherever it stands for something. -/
def isLeaf (k : TokenKind) : Bool :=
  k.isLiteral || [identifier, thisKeyword, trueKeyword, falseKeyword, nullKeyword].contains k

end TokenKind

/-- The kind of a node that is one token. -/
def NodeKind.isTokenLeaf : NodeKind → Bool
  | .token k => k.isLeaf
  | _ => false

/-! ### Words -/

/-- A token that is no mark. -/
inductive Word where
  | name (text : String)
  /-- A reserved word or a literal. -/
  | token (k : TokenKind)
deriving DecidableEq, Repr

/-- A token as a word, if it is one. -/
def Word.of? (k : TokenKind) (value : String) : Option Word :=
  if k.isMark then none else if k = .identifier then some (.name value) else some (.token k)

/-- The words among some tokens. -/
def words (ts : List Terminal) : List Word := ts.filterMap fun t => Word.of? t.kind t.value

/-- An operator that is a reserved word. -/
def TokenKind.isOperatorWord (k : TokenKind) : Bool :=
  [inKeyword, instanceOfKeyword, typeOfKeyword, voidKeyword, deleteKeyword].contains k

/-- An operator as a word, if it is one. -/
def operatorWords : NodeKind → List Word
  | .token k => if k.isOperatorWord then [.token k] else []
  | _ => []

/-- The word before an asynchronous function. -/
def asyncWords (flags : NodeFlags) : List Word :=
  if flags.has .async then [.name "async"] else []

/-- Constructs that are told by marks alone. -/
def NodeKind.isMarked : NodeKind → Bool
  | sourceFile | arrayLiteral | objectLiteral | propertyAccess | elementAccess | call | parenthesized
  | conditional | spread | hole | taggedTemplate | propertyAssignment | shorthandProperty
  | spreadProperty | computedName | parameter | variableDeclaration | block | emptyStatement
  | variableStatement | expressionStatement | labeledStatement => true
  | _ => false

/-- A node of a kind, with flags and a record, may have these tokens of its own. -/
inductive Spelling : NodeKind → NodeFlags → Option KindRecord → List Terminal → Prop where
  | marked (is : k.isMarked) (none : words own = []) : Spelling k f r? own
  /-- The pieces of a template say its texts. -/
  | template (pieces : ∀ t ∈ own, t.kind.isPiece) (texts : own.map Terminal.value = quasis) :
    Spelling .template f (some (.template quasis ks)) own
  -- Operators
  | binary (operator : words own = operatorWords o) :
    Spelling .binary f (some (.binary l o r)) own
  | prefixed (operator : words own = operatorWords o) :
    Spelling .prefixUnary f (some (.unary o e)) own
  | postfixed (operator : words own = operatorWords o) :
    Spelling .postfixUnary f (some (.unary o e)) own
  | construction (new : words own = [.token .newKeyword]) : Spelling .construction f r? own
  | awaiting (await : words own = [.name "await"]) : Spelling .awaiting f r? own
  | yielding (yield : words own = [.name "yield"]) : Spelling .yielding f r? own
  -- Functions
  | functionDeclaration (head : words own = asyncWords f ++ [.token .functionKeyword]) :
    Spelling .functionDeclaration f r? own
  | functionExpression (head : words own = asyncWords f ++ [.token .functionKeyword]) :
    Spelling .functionExpression f r? own
  | arrowFunction (head : words own = asyncWords f) : Spelling .arrowFunction f r? own
  /-- The function of a method is its parameters and its body. -/
  | methodFunction (none : words own = []) : Spelling .functionExpression f r? own
  /-- What stands before the name of a method. -/
  | method (noColon : ∀ t ∈ own, t.kind ≠ .colon)
    (head : ∃ word ∈ ["async", "get", "set"], words own = [.name word]) :
    Spelling .propertyAssignment f (some (.property k .functionExpression)) own
  -- Statements
  | variableList (word : words own = [.token k]) (introduces : Descent.introducesVariables k) :
    Spelling .variableList f r? own
  | ifOnly (word : words own = [.token .ifKeyword]) :
    Spelling .ifStatement f (some (.branch e b none)) own
  | ifElse (words : words own = [.token .ifKeyword, .token .elseKeyword]) :
    Spelling .ifStatement f (some (.branch e b (some d))) own
  | doStatement (words : words own = [.token .doKeyword, .token .whileKeyword]) :
    Spelling .doStatement f r? own
  | whileStatement (word : words own = [.token .whileKeyword]) : Spelling .whileStatement f r? own
  | forStatement (word : words own = [.token .forKeyword]) : Spelling .forStatement f r? own
  | forInStatement (words : words own = [.token .forKeyword, .token .inKeyword]) :
    Spelling .forInStatement f r? own
  | forOfStatement (words : words own = [.token .forKeyword, .name "of"]) :
    Spelling .forOfStatement f r? own
  | returnStatement (word : words own = [.token .returnKeyword]) :
    Spelling .returnStatement f r? own
  | throwStatement (word : words own = [.token .throwKeyword]) : Spelling .throwStatement f r? own
  | breakStatement (word : words own = [.token .breakKeyword]) : Spelling .breakStatement f r? own
  | continueStatement (word : words own = [.token .continueKeyword]) :
    Spelling .continueStatement f r? own
  | tryOnly (word : words own = [.token .tryKeyword]) :
    Spelling .tryStatement f (some (.attempt b h none)) own
  | tryFinally (words : words own = [.token .tryKeyword, .token .finallyKeyword]) :
    Spelling .tryStatement f (some (.attempt b h (some l))) own
  | catchClause (word : words own = [.token .catchKeyword]) : Spelling .catchClause f r? own
  | switchStatement (word : words own = [.token .switchKeyword]) : Spelling .switchStatement f r? own
  | caseClause (word : words own = [.token .caseKeyword]) : Spelling .caseClause f r? own
  | defaultClause (word : words own = [.token .defaultKeyword]) : Spelling .defaultClause f r? own

/-- A word tells what a construct is, and is no name or value in it.  Reserved words do so unless
they stand for a value, and never in a construct that names a property; other words do so in a few
constructs only. -/
inductive Word.Tells : NodeKind → NodeFlags → Word → Prop where
  | reserved (is : w.isKeyword = true) (noValue : w.isLeaf = false)
    (noName : k ≠ .propertyAccess ∧ k ≠ .propertyAssignment) : Tells k f (.token w)
  | async (function : k = .functionDeclaration ∨ k = .functionExpression ∨ k = .arrowFunction)
    (flagged : f.has .async = true) : Tells k f (.name "async")
  | method (head : word = "async" ∨ word = "get" ∨ word = "set") :
    Tells .propertyAssignment f (.name word)
  | of : Tells .forOfStatement f (.name "of")
  | yield : Tells .yielding f (.name "yield")
  | await : Tells .awaiting f (.name "await")

section tells

variable {k : NodeKind} {f : NodeFlags} {r? : Option KindRecord} {own : List Terminal}

theorem Word.tells_operatorWords {o : NodeKind} {w : Word} (mem : w ∈ operatorWords o)
    (noName : k ≠ .propertyAccess ∧ k ≠ .propertyAssignment) : w.Tells k f := by
  unfold operatorWords at mem
  split at mem
  · rename_i t
    split at mem
    · rename_i isOperator
      obtain rfl := List.mem_singleton.mp mem
      refine .reserved ?_ ?_ noName
      all_goals cases t <;> first | rfl | cases isOperator
    · cases mem
  · cases mem

theorem Word.tells_asyncWords {w : Word} (mem : w ∈ asyncWords f)
    (function : k = .functionDeclaration ∨ k = .functionExpression ∨ k = .arrowFunction) :
    w.Tells k f := by
  unfold asyncWords at mem
  split at mem
  · obtain rfl := List.mem_singleton.mp mem
    exact .async function ‹_›
  · cases mem

/-- A reserved word that stands for no value. -/
def Word.isReserved : Word → Bool
  | .token t => t.isKeyword && !t.isLeaf
  | .name _ => false

theorem Word.tells_of_isReserved {w : Word} (is : w.isReserved = true)
    (noName : k ≠ .propertyAccess ∧ k ≠ .propertyAssignment) : w.Tells k f := by
  cases w with
  | name text => cases is
  | token t =>
    obtain ⟨keyword, noValue⟩ := Bool.and_eq_true_iff.mp is
    exact .reserved keyword (by simpa using noValue) noName

theorem words_of_isPiece (pieces : ∀ t ∈ own, t.kind.isPiece = true) : words own = [] := by
  refine List.filterMap_eq_nil_iff.mpr fun t mem => ?_
  rw [Word.of?, if_pos]
  rw [TokenKind.isMark, pieces t mem, Bool.or_true]

/-- **The words of a construct tell what it is.** -/
theorem Spelling.tells (h : Spelling k f r? own) : ∀ w ∈ words own, w.Tells k f := by
  have reserved {k : NodeKind} {ws : List Word} (head : words own = ws)
      (noName : k ≠ .propertyAccess ∧ k ≠ .propertyAssignment)
      (are : ∀ w ∈ ws, w.isReserved = true := by simp [Word.isReserved]; decide) :
      ∀ w ∈ words own, w.Tells k f := by
    rw [head]
    exact fun w mem => Word.tells_of_isReserved (are w mem) noName
  cases h with
  | marked _ none | methodFunction none =>
    rw [none]
    nofun
  | template pieces =>
    rw [words_of_isPiece pieces]
    nofun
  | binary operator | prefixed operator | postfixed operator =>
    rw [operator]
    exact fun w mem => Word.tells_operatorWords mem ⟨nofun, nofun⟩
  | functionDeclaration head | functionExpression head =>
    rw [head]
    refine List.forall_mem_append.mpr ⟨fun w mem => Word.tells_asyncWords mem (by simp), ?_⟩
    exact List.forall_mem_singleton.mpr (.reserved rfl rfl ⟨nofun, nofun⟩)
  | arrowFunction head =>
    rw [head]
    exact fun w mem => Word.tells_asyncWords mem (by simp)
  | method _ head =>
    obtain ⟨word, listed, head⟩ := head
    rw [head]
    exact List.forall_mem_singleton.mpr (.method (by simpa using listed))
  | forOfStatement head =>
    rw [head]
    exact List.forall_mem_cons.mpr
      ⟨.reserved rfl rfl ⟨nofun, nofun⟩, List.forall_mem_singleton.mpr .of⟩
  | awaiting word =>
    rw [word]
    exact List.forall_mem_singleton.mpr .await
  | yielding word =>
    rw [word]
    exact List.forall_mem_singleton.mpr .yield
  | @variableList _ k' _ _ word introduces =>
    refine reserved word ⟨nofun, nofun⟩ (List.forall_mem_singleton.mpr ?_)
    cases k' <;> first | rfl | cases introduces
  | _ => exact reserved ‹_› ⟨nofun, nofun⟩

end tells

/-! ### Leaves -/

/-- A node of kind `kind`, whose parent is of kind `parent` and which says `text?`, says what a
token says.  A reserved word is a name only where it names a property. -/
inductive Says : NodeKind → NodeKind → Option String → Terminal → Prop where
  | name (is : t.kind = .identifier) : Says parent (.token .identifier) (some t.value) t
  | property (is : t.kind.isKeyword)
    (named : parent = .propertyAccess ∨ parent = .propertyAssignment) :
    Says parent (.token .identifier) (some t.value) t
  | literal (is : t.kind.isLiteral) : Says parent (.token t.kind) (some t.value) t
  | word (is : t.kind.keyword? = some t.value) : Says parent (.token t.kind) (some t.value) t

/-- A reserved word has the value that it is spelled with. -/
def Terminal.IsSpelled (t : Terminal) : Prop := t.kind.isKeyword → t.kind.keyword? = some t.value

/-- What a record of names says: the name of an identifier or the text of a literal. -/
def Record.said? {ρ ο : Type} : Record ρ ο String → Option String
  | identifier name => some name
  | literal text => some text
  | _ => none

/-- How the token is spelled that a node of this kind is, if it has a spelling. -/
def NodeKind.spelling? : NodeKind → Option String
  | .token k => k.keyword?
  | _ => none

namespace Tree

/-- What a leaf says: the name of an identifier, the text of a literal, the spelling of a word. -/
def leafText? (t : Tree) : Option String :=
  (t.record?.bind Record.said?).or t.kind.spelling?

/-- A tree under a node of kind `parent` has these tokens of its own. -/
def Spells (parent : NodeKind) (t : Tree) (own : List Terminal) : Prop :=
  if t.kind.isTokenLeaf then t.children = [] ∧ ∃ token, own = [token] ∧ t.span = token.span ∧
    (token.IsSpelled → Says parent t.kind t.leafText? token)
  else Spelling t.kind (t.flags.union ((t.record?.map Record.flags).getD .none))
    (t.record?.map Record.kinds) own

end Tree

/-! ### How reserved words are spelled -/

namespace Scanner

/-- The same of the token a scanner is at. -/
def IsSpelled (s : Scanner) : Prop := s.token.isKeyword → s.token.keyword? = some s.value

variable {s : Scanner}

theorem spelled_accept {l : Lexeme} (spelled : ∀ k, l.kind = .ok k → k.isKeyword →
    k.keyword? = some (String.ofList l.value)) : (s.accept l).IsSpelled := by
  unfold accept
  dsimp only
  split
  · exact spelled _ ‹_›
  · nofun

theorem spelled_scan (s : Scanner) : s.scan.IsSpelled := by
  unfold scan
  split
  · exact spelled_accept fun k => Token.keyword?_of_lexeme
  · nofun

/-- No piece of a template is a reserved word. -/
theorem spelled_rescanTemplate (s : Scanner) : s.rescanTemplate.IsSpelled := by
  refine spelled_accept fun k is word => ?_
  rcases Token.kind_templateRest is with rfl | rfl <;> cases word

/-- No regular expression is a reserved word. -/
theorem spelled_rescanSlash (slash : s.atSlash = true) : s.rescanSlash.IsSpelled := by
  unfold rescanSlash
  rw [if_pos slash]
  dsimp only
  split <;> nofun

end Scanner

/-- **The reserved words on a way have the values that they are spelled with.** -/
theorem Place.Consumes.spelled {x y : Place} {ts : List Terminal} (h : x.Consumes ts y)
    (spelled : x.scanner.IsSpelled) : ∀ t ∈ ts, t.IsSpelled := by
  have next {u v : Place} {k : TokenKind} (mark : u.Takes k v) : v.scanner.IsSpelled := by
    rw [mark.next]
    exact u.scanner.spelled_scan
  induction h with
  | none => nofun
  | token mark _ ih => exact List.forall_mem_cons.mpr ⟨spelled, ih (next mark)⟩
  | regex slash mark _ ih =>
    exact List.forall_mem_cons.mpr ⟨Scanner.spelled_rescanSlash slash, ih (next mark)⟩
  | piece _ mark _ ih =>
    exact List.forall_mem_cons.mpr ⟨Scanner.spelled_rescanTemplate _, ih (next mark)⟩

end Shapewire
