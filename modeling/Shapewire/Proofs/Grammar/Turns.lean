/-
The loops of the grammar, one turn at a time.

Every loop of the grammar is `Parser.loop` for some turn: the lists collect what their turns read,
and commas, binary operators and what stands behind an operand build up one tree
(`Repetition.parser_eq_loop`).  A turn that does not end its loop passes a token
(`Repetition.passes_turn`).
-/
import Shapewire.Proofs.Grammar.Passing

namespace Shapewire

open Shapewire.Parser

namespace Parser

variable {α : Type}

/-! ### Turns of lists -/

/-- Reads one more item while `more` holds. -/
def repeatTurn (more : Parser Bool) (item : Parser α) (as : List α) :
    Parser (List α ⊕ List α) := do
  if ← more then
    let a ← item
    return .inl (as ++ [a])
  else return .inr as

/-- Reads one more item and goes on behind a comma, up to the mark `close`. -/
def commaListTurn (close : TokenKind) (item : Parser α) (as : List α) :
    Parser (List α ⊕ List α) := do
  if ← isToken close then return .inr as
  let a ← item
  if ← accept .comma then return .inl (as ++ [a]) else return .inr (as ++ [a])

/-- Reads one more item and goes on behind a comma. -/
def commaSequenceTurn (item : Parser α) (as : List α) : Parser (List α ⊕ List α) := do
  let a ← item
  if ← accept .comma then return .inl (as ++ [a]) else return .inr (as ++ [a])

/-- Nothing follows where a parser stops. -/
theorem unexpected_bind {β : Type} {expected : String} {f : α → Parser β} :
    (unexpected expected >>= f) = unexpected expected := rfl

theorem map_unexpected {β : Type} {expected : String} {f : α → β} :
    f <$> (unexpected expected : Parser α) = unexpected expected := rfl

/-- What has been read may be put in front of what is read later. -/
theorem append_repeatWhile {more : Parser Bool} {item : Parser α} (turns : Nat) (as : List α) :
    (as ++ ·) <$> repeatWhile turns more item = loop turns (repeatTurn more item) as := by
  induction turns generalizing as with
  | zero => rfl
  | succ turns ih =>
    simp only [repeatWhile, loop, repeatTurn, map_bind, bind_assoc]
    congr; funext goesOn
    split
    · simp only [map_bind, bind_assoc, pure_bind]
      congr; funext a
      simp [← ih]
    · simp

theorem append_commaList {close : TokenKind} {item : Parser α} (turns : Nat) (as : List α) :
    (as ++ ·) <$> commaList turns close item = loop turns (commaListTurn close item) as := by
  induction turns generalizing as with
  | zero => rfl
  | succ turns ih =>
    simp only [commaList, loop, commaListTurn, map_bind, bind_assoc]
    congr; funext closed
    split
    · simp
    · simp only [map_bind, bind_assoc]
      congr; funext a
      congr; funext comma
      split <;> simp [← ih]

theorem append_commaSequence {item : Parser α} (turns : Nat) (as : List α) :
    (as ++ ·) <$> commaSequence turns item = loop turns (commaSequenceTurn item) as := by
  induction turns generalizing as with
  | zero => rfl
  | succ turns ih =>
    simp only [commaSequence, loop, commaSequenceTurn, map_bind, bind_assoc]
    congr; funext a
    congr; funext comma
    split <;> simp [← ih]

end Parser

namespace Descent

/-- Reads one more element of an array, or a hole. -/
def elementTurn (d : Descent) (ts : List Tree) : Parser (List Tree ⊕ List Tree) := do
  match ← token with
  | .closeBracket => return .inr ts
  | .comma =>
    let at_ ← pos
    advance
    return .inl (ts ++ [.node .hole .none (.point at_) none])
  | _ =>
    let e ← d.spreadOrAssignment .spread
    if ← accept .comma then return .inl (ts ++ [e]) else return .inr (ts ++ [e])

/-- Reads one more substitution of a template, with the text behind it. -/
def substitutionTurn (d : Descent) (ps : List (Tree × String)) :
    Parser (List (Tree × String) ⊕ List (Tree × String)) := do
  let e ← allowIn d.expression
  if !(← isToken .closeBrace) then unexpected "\x7d"
  reread Scanner.rescanTemplate
  let quasi ← value
  let isLast ← isToken .templateTail
  advance
  if isLast then return .inr (ps ++ [(e, quasi)]) else return .inl (ps ++ [(e, quasi)])

/-- Reads one more clause of a switch; the first component says whether one was the default. -/
def clauseTurn (d : Descent) (read : Bool × List Tree) :
    Parser ((Bool × List Tree) ⊕ List Tree) := do
  if ← isToken .closeBrace then return .inr read.2
  let isDefault ← isToken .defaultKeyword
  if isDefault && read.1 then unexpected "case"
  let clause ← d.caseClause
  return .inl (read.1 || isDefault, read.2 ++ [clause])

variable {d : Descent}

theorem append_arrayElements (turns : Nat) (ts : List Tree) :
    (ts ++ ·) <$> d.arrayElements turns = loop turns d.elementTurn ts := by
  induction turns generalizing ts with
  | zero => rfl
  | succ turns ih =>
    simp only [arrayElements, loop, elementTurn, map_bind, bind_assoc]
    congr; funext k
    split
    · simp
    · simp [← ih]
    · simp only [map_bind, bind_assoc]
      congr; funext e
      congr; funext comma
      split <;> simp [← ih]

theorem append_substitutions (turns : Nat) (ps : List (Tree × String)) :
    (ps ++ ·) <$> d.substitutions turns = loop turns d.substitutionTurn ps := by
  induction turns generalizing ps with
  | zero => rfl
  | succ turns ih =>
    simp only [substitutions, loop, substitutionTurn, map_bind, bind_assoc]
    congr; funext e
    congr; funext closed
    split
    · simp [unexpected_bind, map_unexpected]
    · simp only [map_bind, bind_assoc]
      congr; funext _
      congr; funext quasi
      congr; funext isLast
      congr; funext _
      split <;> simp [← ih]

theorem append_caseClauses (turns : Nat) (read : Bool × List Tree) :
    (read.2 ++ ·) <$> d.caseClauses read.1 turns = loop turns d.clauseTurn read := by
  induction turns generalizing read with
  | zero => rfl
  | succ turns ih =>
    simp only [caseClauses, loop, clauseTurn, map_bind, bind_assoc]
    congr; funext closed
    split
    · simp
    · simp only [map_bind, bind_assoc]
      congr; funext isDefault
      split
      · simp [unexpected_bind, map_unexpected]
      · simp [← ih]

end Descent

/-! ### Every loop of the grammar -/

/-- The loops of the grammar, by what they hand from turn to turn and what they give. -/
inductive Repetition : Type → Type → Type where
  -- Lists
  | sourceStatements : Repetition (List Tree) (List Tree)
  | blockStatements : Repetition (List Tree) (List Tree)
  | clauseStatements : Repetition (List Tree) (List Tree)
  | parameters : Repetition (List Tree) (List Tree)
  | arguments : Repetition (List Tree) (List Tree)
  | members : Repetition (List Tree) (List Tree)
  | declarations : Repetition (List Tree) (List Tree)
  | elements : Repetition (List Tree) (List Tree)
  | substitutions : Repetition (List (Tree × String)) (List (Tree × String))
  | clauses : Repetition (Bool × List Tree) (List Tree)
  -- What goes on behind an expression or an operand
  | commas (start : Nat) (left : Tree) : Repetition Tree Tree
  | operands (start min : Nat) (left : Tree) : Repetition Tree Tree
  | suffixes (start : Nat) (calls : Bool) (e : Tree) : Repetition Tree Tree

namespace Repetition

variable {σ ρ : Type} {d : Descent}

/-- The loop as it stands in the grammar. -/
def parser (d : Descent) : Repetition σ ρ → Parser ρ
  | sourceStatements => repeatWhile d.turns sourceGoesOn d.statement
  | blockStatements => repeatWhile d.turns Descent.blockGoesOn d.statement
  | clauseStatements => repeatWhile d.turns Descent.clauseGoesOn d.statement
  | parameters => commaList d.turns .closeParen d.parameter
  | arguments => commaList d.turns .closeParen (d.spreadOrAssignment .spread)
  | members => commaList d.turns .closeBrace d.objectMember
  | declarations => commaSequence d.turns d.declaration
  | elements => d.arrayElements d.turns
  | substitutions => d.substitutions d.turns
  | clauses => d.caseClauses false d.turns
  | commas start left => loop d.turns (d.commaTurn start) left
  | operands start min left => loop d.turns (d.operandTurn start min) left
  | suffixes start calls e => d.suffixes start calls e

/-- What the first turn is handed. -/
def first : Repetition σ ρ → σ
  | sourceStatements | blockStatements | clauseStatements | parameters | arguments | members
  | declarations | elements | substitutions => []
  | clauses => (false, [])
  | commas _ left => left
  | operands _ _ left => left
  | suffixes _ _ e => e

/-- One turn of the loop. -/
def turn (d : Descent) : Repetition σ ρ → σ → Parser (σ ⊕ ρ)
  | sourceStatements => repeatTurn sourceGoesOn d.statement
  | blockStatements => repeatTurn Descent.blockGoesOn d.statement
  | clauseStatements => repeatTurn Descent.clauseGoesOn d.statement
  | parameters => commaListTurn .closeParen d.parameter
  | arguments => commaListTurn .closeParen (d.spreadOrAssignment .spread)
  | members => commaListTurn .closeBrace d.objectMember
  | declarations => commaSequenceTurn d.declaration
  | elements => d.elementTurn
  | substitutions => d.substitutionTurn
  | clauses => d.clauseTurn
  | commas start _ => d.commaTurn start
  | operands start min _ => d.operandTurn start min
  | suffixes start calls _ => d.suffixTurn start calls

/-- Every loop of the grammar repeats its turn. -/
theorem parser_eq_loop (r : Repetition σ ρ) : r.parser d = loop d.turns (r.turn d) r.first := by
  have plain {α : Type} (p : Parser (List α)) : p = ([] ++ ·) <$> p := (id_map p).symm
  cases r with
  | sourceStatements | blockStatements | clauseStatements =>
    exact (plain _).trans (append_repeatWhile d.turns [])
  | parameters | arguments | members => exact (plain _).trans (append_commaList d.turns [])
  | declarations => exact (plain _).trans (append_commaSequence d.turns [])
  | elements => exact (plain _).trans (Descent.append_arrayElements d.turns [])
  | substitutions => exact (plain _).trans (Descent.append_substitutions d.turns [])
  | clauses => exact (plain _).trans (Descent.append_caseClauses d.turns (false, []))
  | commas | operands | suffixes => rfl

end Repetition

/-! ### Turns pass tokens -/

section turns

variable {α : Type} {n : Nat} {c : Context} {x : Place}

/-- Behind something that was read the loop goes on past a comma. -/
theorem passes_comma {a b : α} {y : Place} (passes : x.Passes y) :
    Leads n c y (do if ← accept .comma then return .inl a else return .inr b)
      fun (next : α ⊕ α) z => next.isLeft = true → x.Passes z :=
  .ifAccept rfl (fun _ comma => .pure fun _ => passes.trans comma.passes) fun _ => .pure nofun

theorem passes_repeatTurn {more : Parser Bool} {item : Parser α}
    (stays : Leads n c x more fun _ y => y = x) (reads : Leads n c x item fun _ y => x.Passes y)
    (as : List α) :
    Leads n c x (repeatTurn more item as) fun next y => next.isLeft = true → x.Passes y := by
  refine stays.bind ?_
  rintro goesOn _ rfl
  exact .ite (fun _ => reads.bind fun _ _ passes => .pure fun _ => passes) fun _ => .pure nofun

theorem passes_commaListTurn {close : TokenKind} {item : Parser α}
    (reads : Leads n c x item fun _ y => x.Passes y) (as : List α) :
    Leads n c x (commaListTurn close item as) fun next y => next.isLeft = true → x.Passes y :=
  .ifToken (fun _ => .pure nofun) fun _ => reads.bind fun _ _ passes => passes_comma passes

theorem passes_commaSequenceTurn {item : Parser α}
    (reads : Leads n c x item fun _ y => x.Passes y) (as : List α) :
    Leads n c x (commaSequenceTurn item as) fun next y => next.isLeft = true → x.Passes y :=
  reads.bind fun _ _ passes => passes_comma passes

end turns

namespace Descent

variable {d : Descent} (faithful : d.Faithful) {n : Nat} {c : Context} {x : Place}

include faithful

theorem passes_elementTurn (ts : List Tree) :
    Leads n c x (d.elementTurn ts) fun next y => next.isLeft = true → x.Passes y := by
  refine .token ?_
  split
  · exact .pure nofun
  · exact .pos (.take ‹_› rfl fun y comma => .pure fun _ => comma.passes)
  · exact (passes_spreadOrAssignment faithful).bind fun _ _ passes => passes_comma passes

theorem passes_substitutionTurn (ps : List (Tree × String)) :
    Leads n c x (d.substitutionTurn ps) fun next y => next.isLeft = true → x.Passes y := by
  refine (Leads.allowIn (derives_expression faithful)).bind fun e y inside => ?_
  refine .isToken fun closes is => .ite (fun _ => .unreached) fun closed => ?_
  have brace : y.token = .closeBrace := is.mp (by simpa using closed)
  refine .reread fun sound => .value (.isToken fun isLast tail => ?_)
  have piece := y.scanner.token_rescanTemplate sound
  cases isLast with
  | true => exact .step (.pure nofun)
  | false =>
    have middle := piece.resolve_left fun is => Bool.noConfusion (tail.mpr is)
    refine .take middle rfl fun z text => .pure fun _ => ?_
    exact inside.passes.consumes (.piece brace text .none)

theorem passes_clauseTurn (read : Bool × List Tree) :
    Leads n c x (d.clauseTurn read) fun next y => next.isLeft = true → x.Passes y := by
  refine .ifToken (fun _ => .pure nofun) fun _ => .isToken fun isDefault _ => ?_
  refine .ite (fun _ => .unreached) fun _ => ?_
  exact (passes_caseClause faithful).bind fun _ _ passes => .pure fun _ => passes

end Descent

/-- A turn that does not end its loop passes a token. -/
theorem Repetition.passes_turn {σ ρ : Type} {d : Descent} (faithful : d.Faithful) {n : Nat}
    {c : Context} {x : Place} (r : Repetition σ ρ) (a : σ) :
    Leads n c x (r.turn d a) fun next y => next.isLeft = true → x.Passes y := by
  have statement : Leads n c x d.statement fun _ y => x.Passes y :=
    (faithful .statement).mono fun _ _ h => h.passes
  cases r with
  | sourceStatements =>
    refine passes_repeatTurn ?_ statement a
    exact .isToken fun _ _ => .pure rfl
  | blockStatements =>
    exact passes_repeatTurn (Descent.leads_blockGoesOn.mono fun _ _ => And.left) statement a
  | clauseStatements =>
    exact passes_repeatTurn (Descent.leads_clauseGoesOn.mono fun _ _ => And.left) statement a
  | parameters =>
    refine passes_commaListTurn ?_ a
    exact (Descent.derives_parameter faithful).mono fun _ _ h => h.passes
  | arguments => exact passes_commaListTurn (Descent.passes_spreadOrAssignment faithful) a
  | members =>
    refine passes_commaListTurn ?_ a
    exact (Descent.derives_objectMember faithful).mono fun _ _ h => h.passes
  | declarations =>
    refine passes_commaSequenceTurn ?_ a
    exact (Descent.derives_declaration faithful).mono fun _ _ h => h.passes
  | elements => exact Descent.passes_elementTurn faithful a
  | substitutions => exact Descent.passes_substitutionTurn faithful a
  | clauses => exact Descent.passes_clauseTurn faithful a
  | commas start => exact Descent.passes_commaTurn faithful start a
  | operands start min => exact Descent.passes_operandTurn faithful start min a
  | suffixes start =>
    obtain ⟨start, rfl⟩ := Place.exists_pos start
    exact Descent.passes_suffixTurn faithful

end Shapewire
