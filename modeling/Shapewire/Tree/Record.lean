/-
What a node holds beside its kind: one form of record for each form of construct.

The same forms serve twice.  In a syntax tree the slots of a record hold subtrees and names
are texts; in a node table the slots hold indices and names are atoms.  So a record is
generic in what a slot that must be filled holds (`ρ`), in what a slot that may be empty
holds (`ο`) and in what names a thing (`ν`), and `mapM` turns one use into the other.

Two lists say what a record refers to, each form by form.  `slots` has it in the order in
which the form declares it, and `children` in the order of the source.  They have to agree on
all but the order, and even that differs for one construct only: in a loop that tests last the
body comes before the condition.

Several kinds may share a form, and then their records are kept together in one `Pool`.  A
kind that is of no form has no pool and its nodes have no record.
-/
import Shapewire.Tree.Kind

namespace Shapewire

/-- The contents of a node. -/
inductive Record (ρ ο ν : Type) where
  | identifier (name : ν)
  /-- The cooked text of a literal. -/
  | literal (text : String)
  /-- Binary operations, assignments and comma sequences. -/
  | binary (left : ρ) (operator : NodeKind) (right : ρ)
  | unary (operator : NodeKind) (operand : ρ)
  /-- A call, or a construction; only the latter may lack its argument list. -/
  | call (callee : ρ) (arguments : Option (List ρ))
  /-- A member by name, or by a computed key. -/
  | access (object name : ρ) (optional : Bool)
  | conditional (condition whenTrue whenFalse : ρ)
  /-- A construct around at most one expression. -/
  | wrapped (expression : ο)
  /-- The texts of a template around its substitutions, one more than those. -/
  | template (quasis : List String) (expressions : List ρ)
  | taggedTemplate (tag body : ρ)
  /-- The elements of an array or the members of an object. -/
  | elements (items : List ρ)
  | property (name initializer : ρ)
  | shorthand (name : ρ)
  | function (name : ο) (parameters : List ρ) (body : ρ) (arrow : Bool)
  | parameter (rest : Bool) (name : ρ) (initializer : ο)
  | sourceFile (file : String) (statements : List ρ)
  | block (statements : List ρ)
  | declarationList (declarations : List ρ)
  | declaration (name : ρ) (initializer : ο)
  | branch (condition whenTrue : ρ) (whenFalse : ο)
  /-- The loops that test a condition. -/
  | loop (initializer condition incrementor : ο) (body : ρ)
  /-- The loops over the keys or values of something. -/
  | iteration (binding subject body : ρ)
  | attempt (body : ρ) (onFault finalizer : ο)
  | handler (name : ο) (body : ρ)
  | jump (label : ο)
  | switch (subject : ρ) (clauses : List ρ)
  /-- A clause of a switch; the default clause has no test. -/
  | clause (test : ο) (statements : List ρ)
  | labeled (label statement : ρ)
deriving DecidableEq, Repr

/-- The forms of records. -/
inductive Pool where
  | identifiers | literals | binaries | unaries | calls | accesses | conditionals | wrappeds
  | templates | taggedTemplates | elementLists | properties | shorthands | functions
  | parameters | sourceFiles | blocks | variableLists | declarations | branches | loops
  | iterations | attempts | handlers | jumps | switches | clauses | labeleds
deriving DecidableEq, Repr, Inhabited

namespace Pool

/-- The number of forms. -/
def count : Nat := 28

/-- The place of a form among all of them. -/
def index (p : Pool) : Fin count := ⟨p.ctorIdx, by cases p <;> decide⟩

end Pool

/-- The form of record that nodes of a kind hold. -/
def NodeKind.pool? : NodeKind → Option Pool
  | .token .identifier => some .identifiers
  | .token .stringLiteral | .token .numericLiteral | .token .plainTemplate
  | .token .regexLiteral => some .literals
  | .binary => some .binaries
  | .prefixUnary | .postfixUnary => some .unaries
  | .call | .construction => some .calls
  | .propertyAccess | .elementAccess => some .accesses
  | .conditional => some .conditionals
  | .parenthesized | .spread | .spreadProperty | .computedName | .yielding | .awaiting
  | .expressionStatement | .returnStatement | .throwStatement | .variableStatement =>
    some .wrappeds
  | .template => some .templates
  | .taggedTemplate => some .taggedTemplates
  | .arrayLiteral | .objectLiteral => some .elementLists
  | .propertyAssignment => some .properties
  | .shorthandProperty => some .shorthands
  | .functionDeclaration | .functionExpression | .arrowFunction => some .functions
  | .parameter => some .parameters
  | .sourceFile => some .sourceFiles
  | .block => some .blocks
  | .variableList => some .variableLists
  | .variableDeclaration => some .declarations
  | .ifStatement => some .branches
  | .whileStatement | .doStatement | .forStatement => some .loops
  | .forInStatement | .forOfStatement => some .iterations
  | .tryStatement => some .attempts
  | .catchClause => some .handlers
  | .breakStatement | .continueStatement => some .jumps
  | .switchStatement => some .switches
  | .caseClause | .defaultClause => some .clauses
  | .labeledStatement => some .labeleds
  | _ => none

namespace Record

variable {ρ ο ν ρ' ο' ν' α : Type}

/-- The form of a record. -/
def pool : Record ρ ο ν → Pool
  | identifier _ => .identifiers
  | literal _ => .literals
  | binary _ _ _ => .binaries
  | unary _ _ => .unaries
  | call _ _ => .calls
  | access _ _ _ => .accesses
  | conditional _ _ _ => .conditionals
  | wrapped _ => .wrappeds
  | template _ _ => .templates
  | taggedTemplate _ _ => .taggedTemplates
  | elements _ => .elementLists
  | property _ _ => .properties
  | shorthand _ => .shorthands
  | function _ _ _ _ => .functions
  | parameter _ _ _ => .parameters
  | sourceFile _ _ => .sourceFiles
  | block _ => .blocks
  | declarationList _ => .variableLists
  | declaration _ _ => .declarations
  | branch _ _ _ => .branches
  | loop _ _ _ _ => .loops
  | iteration _ _ _ => .iterations
  | attempt _ _ _ => .attempts
  | handler _ _ => .handlers
  | jump _ => .jumps
  | switch _ _ => .switches
  | clause _ _ => .clauses
  | labeled _ _ => .labeleds

/-- What the slots hold, in the order the form declares them. -/
def slots (f : ρ → List α) (g : ο → List α) : Record ρ ο ν → List α
  | identifier _ | literal _ => []
  | binary left _ right => f left ++ f right
  | unary _ operand => f operand
  | call callee arguments => f callee ++ (arguments.getD []).flatMap f
  | access object name _ => f object ++ f name
  | conditional condition whenTrue whenFalse => f condition ++ f whenTrue ++ f whenFalse
  | wrapped expression => g expression
  | template _ expressions => expressions.flatMap f
  | taggedTemplate tag body => f tag ++ f body
  | elements items => items.flatMap f
  | property name initializer => f name ++ f initializer
  | shorthand name => f name
  | function name parameters body _ => g name ++ parameters.flatMap f ++ f body
  | parameter _ name initializer => f name ++ g initializer
  | sourceFile _ statements => statements.flatMap f
  | block statements => statements.flatMap f
  | declarationList declarations => declarations.flatMap f
  | declaration name initializer => f name ++ g initializer
  | branch condition whenTrue whenFalse => f condition ++ f whenTrue ++ g whenFalse
  | loop initializer condition incrementor body =>
    g initializer ++ g condition ++ g incrementor ++ f body
  | iteration binding subject body => f binding ++ f subject ++ f body
  | attempt body onFault finalizer => f body ++ g onFault ++ g finalizer
  | handler name body => g name ++ f body
  | jump label => g label
  | switch subject clauses => f subject ++ clauses.flatMap f
  | clause test statements => g test ++ statements.flatMap f
  | labeled label statement => f label ++ f statement

/-- What the slots hold, in the order of the source, for a node of the given kind. -/
def children (kind : NodeKind) (f : ρ → List α) (g : ο → List α) : Record ρ ο ν → List α
  | sourceFile _ statements => statements.flatMap f
  | block statements => statements.flatMap f
  | binary left _ right => f left ++ f right
  | unary _ operand => f operand
  | call callee arguments => f callee ++ (arguments.getD []).flatMap f
  | access object name _ => f object ++ f name
  | conditional condition whenTrue whenFalse => f condition ++ f whenTrue ++ f whenFalse
  | wrapped expression => g expression
  | template _ expressions => expressions.flatMap f
  | taggedTemplate tag body => f tag ++ f body
  | elements items => items.flatMap f
  | property name initializer => f name ++ f initializer
  | shorthand name => f name
  | function name parameters body _ => g name ++ parameters.flatMap f ++ f body
  | parameter _ name initializer => f name ++ g initializer
  | declarationList declarations => declarations.flatMap f
  | declaration name initializer => f name ++ g initializer
  | branch condition whenTrue whenFalse => f condition ++ f whenTrue ++ g whenFalse
  | loop initializer condition incrementor body =>
    if kind = .doStatement then f body ++ g condition
    else g initializer ++ g condition ++ g incrementor ++ f body
  | iteration binding subject body => f binding ++ f subject ++ f body
  | attempt body onFault finalizer => f body ++ g onFault ++ g finalizer
  | handler name body => g name ++ f body
  | jump label => g label
  | switch subject clauses => f subject ++ clauses.flatMap f
  | clause test statements => g test ++ statements.flatMap f
  | labeled label statement => f label ++ f statement
  | identifier _ | literal _ => []

/-- The record with what its slots hold and what names it changed. -/
def map (f : ρ → ρ') (g : ο → ο') (h : ν → ν') : Record ρ ο ν → Record ρ' ο' ν'
  | identifier name => identifier (h name)
  | literal text => literal text
  | binary left operator right => binary (f left) operator (f right)
  | unary operator operand => unary operator (f operand)
  | call callee arguments => call (f callee) (arguments.map (List.map f))
  | access object name optional => access (f object) (f name) optional
  | conditional condition whenTrue whenFalse =>
    conditional (f condition) (f whenTrue) (f whenFalse)
  | wrapped expression => wrapped (g expression)
  | template quasis expressions => template quasis (expressions.map f)
  | taggedTemplate tag body => taggedTemplate (f tag) (f body)
  | elements items => elements (items.map f)
  | property name initializer => property (f name) (f initializer)
  | shorthand name => shorthand (f name)
  | function name parameters body arrow => function (g name) (parameters.map f) (f body) arrow
  | parameter rest name initializer => parameter rest (f name) (g initializer)
  | sourceFile file statements => sourceFile file (statements.map f)
  | block statements => block (statements.map f)
  | declarationList declarations => declarationList (declarations.map f)
  | declaration name initializer => declaration (f name) (g initializer)
  | branch condition whenTrue whenFalse => branch (f condition) (f whenTrue) (g whenFalse)
  | loop initializer condition incrementor body =>
    loop (g initializer) (g condition) (g incrementor) (f body)
  | iteration binding subject body => iteration (f binding) (f subject) (f body)
  | attempt body onFault finalizer => attempt (f body) (g onFault) (g finalizer)
  | handler name body => handler (g name) (f body)
  | jump label => jump (g label)
  | switch subject clauses => switch (f subject) (clauses.map f)
  | clause test statements => clause (g test) (statements.map f)
  | labeled label statement => labeled (f label) (f statement)

/-- Changes what the slots hold, going through them in the order of the source, and what
names things. -/
def mapM {m : Type → Type} [Monad m] (kind : NodeKind) (f : ρ → m ρ') (g : ο → m ο')
    (h : ν → ν') : Record ρ ο ν → m (Record ρ' ο' ν')
  | identifier name => pure (identifier (h name))
  | literal text => pure (literal text)
  | binary left operator right => do return binary (← f left) operator (← f right)
  | unary operator operand => do return unary operator (← f operand)
  | call callee none => do return call (← f callee) none
  | call callee (some arguments) => do
    return call (← f callee) (some (← arguments.mapM f))
  | access object name optional => do return access (← f object) (← f name) optional
  | conditional condition whenTrue whenFalse => do
    return conditional (← f condition) (← f whenTrue) (← f whenFalse)
  | wrapped expression => do return wrapped (← g expression)
  | template quasis expressions => do return template quasis (← expressions.mapM f)
  | taggedTemplate tag body => do return taggedTemplate (← f tag) (← f body)
  | elements items => do return elements (← items.mapM f)
  | property name initializer => do return property (← f name) (← f initializer)
  | shorthand name => do return shorthand (← f name)
  | function name parameters body arrow => do
    return function (← g name) (← parameters.mapM f) (← f body) arrow
  | parameter rest name initializer => do
    return parameter rest (← f name) (← g initializer)
  | sourceFile file statements => do return sourceFile file (← statements.mapM f)
  | block statements => do return block (← statements.mapM f)
  | declarationList declarations => do return declarationList (← declarations.mapM f)
  | declaration name initializer => do return declaration (← f name) (← g initializer)
  | branch condition whenTrue whenFalse => do
    return branch (← f condition) (← f whenTrue) (← g whenFalse)
  | loop initializer condition incrementor body =>
    if kind = .doStatement then do
      let body ← f body
      let condition ← g condition
      return loop (← g initializer) condition (← g incrementor) body
    else do
      return loop (← g initializer) (← g condition) (← g incrementor) (← f body)
  | iteration binding subject body => do
    return iteration (← f binding) (← f subject) (← f body)
  | attempt body onFault finalizer => do
    return attempt (← f body) (← g onFault) (← g finalizer)
  | handler name body => do return handler (← g name) (← f body)
  | jump label => do return jump (← g label)
  | switch subject clauses => do return switch (← f subject) (← clauses.mapM f)
  | clause test statements => do return clause (← g test) (← statements.mapM f)
  | labeled label statement => do return labeled (← f label) (← f statement)

/-- The flags that a node has on account of its record: an access may be optional. -/
def flags : Record ρ ο ν → NodeFlags
  | access _ _ optional => NodeFlags.optionalChain.onlyIf optional
  | _ => .none

/-- What a record refers to is smaller than the record, measured by what its slots hold. -/
theorem lt_sizeOf_of_mem_children [SizeOf ρ] [SizeOf ο] [SizeOf ν] {f : ρ → List α}
    {g : ο → List α} {c : α} {n : Nat} (hf : ∀ x, c ∈ f x → n ≤ sizeOf x)
    (hg : ∀ x, c ∈ g x → n ≤ sizeOf x) {kind : NodeKind} {r : Record ρ ο ν}
    (h : c ∈ r.children kind f g) : n < sizeOf r := by
  have inList (l : List ρ) (h : c ∈ l.flatMap f) : n ≤ sizeOf l := by
    obtain ⟨x, hx, h⟩ := List.mem_flatMap.mp h
    have := List.sizeOf_lt_of_mem hx
    have := hf x h
    omega
  have inArguments (a : Option (List ρ)) (h : c ∈ (a.getD []).flatMap f) : n ≤ sizeOf a := by
    cases a with
    | none => simp at h
    | some l =>
      have := inList l h
      simp only [Option.some.sizeOf_spec]
      omega
  cases r
  case loop =>
    simp only [children] at h
    split at h <;> simp only [List.mem_append] at h <;> simp <;> grind
  all_goals simp only [children, List.mem_append, List.not_mem_nil] at h <;> simp <;> grind

end Record

end Shapewire
