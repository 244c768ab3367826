/-
Templates are parsed as they are written.

The tree of a template is put together by the scanner and the grammar taking turns: the scanner
reads a piece of text up to the mark where a substitution opens, the grammar reads the substitution
up to a brace, and there the scanner reads the brace again as the start of the next piece.  For a
template with names in its substitutions every token of that exchange is known beforehand
(`Place.AtNames`), so it can be followed to the end of the source: by induction on the substitutions
that are left, each adds its name and the text behind it to the tree (`arrives_substitutions`), and
nothing of one piece is left over in the next (`exists_template_of_names`).
-/
import Shapewire.Proofs.Grammar.Single
import Shapewire.Proofs.Token.Template

namespace Shapewire

open Shapewire.Parser Shapewire.Token Shapewire.Template

variable {n b : Nat} {x : Place} {p : Substitution} {ps : List Substitution} {head : List Char}

/-! ### The tokens of a template -/

/-- A name comes next and a brace behind it, which is read again as a piece of text, and so on up to
the end of the source. -/
def Place.AtNames : List Substitution → Place → Prop
  | [], x => x.token = .endOfFile
  | p :: ps, x => (x.token = .identifier ∧ x.value = String.ofList p.name) ∧
    x.next.token = .closeBrace ∧
    (x.next.asTemplate.token = TemplatePiece.later.kind ps ∧
      x.next.asTemplate.value = String.ofList p.text) ∧
    x.next.asTemplate.next.AtNames ps

theorem atNames_scan {s : Scanner} {prevEnd : Nat} (free : ∀ p ∈ ps, isFreeName p.name = true)
    (here : s.here.rest = behindMark ps) : Place.AtNames ps ⟨s.scan, prevEnd⟩ := by
  induction ps generalizing s prevEnd with
  | nil => exact (Scanner.scan_at_end (.inl rfl) here).1
  | cons p ps ih =>
    have name := Scanner.scan_name (free p List.mem_cons_self) here
    have brace := Scanner.scan_brace name.rest
    have piece := Scanner.rescanTemplate_brace brace.2
    refine ⟨⟨name.token, name.value⟩, brace.1, ⟨piece.token, piece.value⟩, ?_⟩
    exact ih (fun p mem => free p (List.mem_cons_of_mem _ mem)) piece.rest

theorem Place.AtNames.sound (names : x.AtNames ps) : x.token ≠ .unknown := by
  cases ps with
  | nil => exact fun fault => nomatch names.symm.trans fault
  | cons p ps => exact fun fault => nomatch names.1.1.symm.trans fault

/-! ### Names -/

/-- The tree is the name `name`. -/
structure Tree.IsName (t : Tree) (name : List Char) : Prop where
  kind : t.kind = .token .identifier
  record : t.record? = some (.identifier (String.ofList name))

namespace Descent

variable {d : Descent}

/-- A name in front of a brace starts no function, not even if it is `async`. -/
theorem startsAsyncFunction_of_brace (brace : x.next.token = .closeBrace) :
    Arrives n {} x startsAsyncFunction fun b y => b = false ∧ y = x := by
  have next : x.scanner.scan.token = .closeBrace := brace
  refine .answeredNo (q := .asyncFunction) ?_
  simp [Question.holds, Question.poses, Question.sees, next]

/-- Nor does it start an arrow. -/
theorem startsArrow_of_brace (name : x.token = .identifier) (brace : x.next.token = .closeBrace) :
    Arrives n {} x startsArrow fun b y => b = false ∧ y = x := by
  have next : x.scanner.scan.token = .closeBrace := brace
  refine .answeredNo (q := .arrow) ?_
  simp [Question.holds, Question.poses, Question.sees, Scanner.headsArrow, Scanner.arrowIsNext,
    name, next]

theorem arrives_name {name : List Char} (word : x.token = .identifier)
    (value : x.value = String.ofList name) (brace : x.next.token = .closeBrace) :
    Arrives n {} x d.primary fun e y => e.IsName name ∧ y = x.next := by
  have sound : x.next.token ≠ .unknown := by simp [brace]
  refine .pos (.token ?_)
  rw [word]
  refine (startsAsyncFunction_of_brace brace).bind ?_
  rintro _ _ ⟨rfl, rfl⟩
  refine .isToken ?_
  rw [word]
  refine .pos (.value (.step sound (.finish (.pure ⟨⟨rfl, ?_⟩, rfl⟩))))
  rw [value]
  rfl

/-! ### Substitutions -/

/-- What stands in a substitution is its name. -/
theorem arrives_substitution {name : List Char} (room : n < maxNesting)
    (word : x.token = .identifier) (value : x.value = String.ofList name)
    (brace : x.next.token = .closeBrace) :
    Arrives n {} x (allowIn (expression ⟨b + 4, parseAt (b + 3)⟩)) fun e y =>
      e.IsName name ∧ y = x.next := by
  have ends : ∀ (e : Tree) (y : Place), e.IsName name ∧ y = x.next → y.token.EndsExpression := by
    rintro e _ ⟨-, rfl⟩
    exact .inl brace
  refine .allowIn (arrives_expression ends (Nat.succ_pos _) ?_)
  exact arrives_assignment room (by simp [word]) (by rw [word]; rfl) (startsArrow_of_brace word brace)
    ends (arrives_name word value brace)

/-- A substitution and the piece of text behind it. -/
theorem arrives_piece {turns : Nat} {Q : List (Tree × String) → Place → Prop}
    (room : n < maxNesting) (names : x.AtNames (p :: ps))
    (behind : ∀ e : Tree, e.IsName p.name → Arrives n {} x.next.asTemplate.next
      (if (TemplatePiece.later.kind ps == .templateTail) = true then
        pure [(e, String.ofList p.text)]
      else do
        let pieces ← substitutions ⟨b + 4, parseAt (b + 3)⟩ turns
        return (e, String.ofList p.text) :: pieces) Q) :
    Arrives n {} x (substitutions ⟨b + 4, parseAt (b + 3)⟩ (turns + 1)) Q := by
  obtain ⟨⟨word, value⟩, brace, ⟨piece, text⟩, names⟩ := names
  have sound : x.next.asTemplate.token ≠ .unknown := by
    rw [piece]
    cases ps <;> exact nofun
  refine (arrives_substitution room word value brace).bind ?_
  rintro e _ ⟨name, rfl⟩
  refine .isToken ?_
  rw [brace]
  refine .reread sound (.value (.isToken (.step names.sound ?_)))
  show Arrives n {} x.next.asTemplate.next (if (x.next.asTemplate.token == .templateTail) = true then
    pure [(e, x.next.asTemplate.value)] else do
      let pieces ← substitutions ⟨b + 4, parseAt (b + 3)⟩ turns
      return (e, x.next.asTemplate.value) :: pieces) Q
  rw [piece, text]
  exact behind e name

/-- Each substitution that is left adds its name and the text behind it. -/
theorem arrives_substitutions {turns : Nat} (room : n < maxNesting) (names : x.AtNames (p :: ps))
    (enough : ps.length < turns) :
    Arrives n {} x (substitutions ⟨b + 4, parseAt (b + 3)⟩ turns) fun pieces y =>
      List.Forall₂ (fun e p => e.IsName p.name) (pieces.map Prod.fst) (p :: ps) ∧
      pieces.map Prod.snd = (p :: ps).map (String.ofList ·.text) ∧ y.token = .endOfFile := by
  obtain ⟨turns, rfl⟩ := Nat.exists_eq_add_of_le' (show 1 ≤ turns by omega)
  induction ps generalizing p x turns with
  | nil =>
    refine arrives_piece room names fun e name => .pure ?_
    exact ⟨.cons name .nil, rfl, names.2.2.2⟩
  | cons q ps ih =>
    refine arrives_piece room names fun e name => ?_
    simp only [List.length_cons] at enough
    obtain ⟨turns, rfl⟩ := Nat.exists_eq_add_of_le' (show 1 ≤ turns by omega)
    have rest := ih names.2.2.2 turns (by omega)
    refine rest.bind fun pieces y ⟨names, texts, ends⟩ => .pure ?_
    exact ⟨.cons name names, congrArg (String.ofList p.text :: ·) texts, ends⟩

end Descent

open Descent

/-! ### Whole templates -/

/-- The tree is the template with the text `head`, the names and the texts behind them; without
names it is a literal. -/
def Tree.IsTemplate (head : List Char) : List Substitution → Tree → Prop
  | [], t => t.kind = .token .plainTemplate ∧ t.record? = some (.literal (String.ofList head))
  | p :: ps, t => t.kind = .template ∧ ∃ names,
    t.record? = some (.template (String.ofList head :: (p :: ps).map (String.ofList ·.text)) names) ∧
    List.Forall₂ (fun e p => e.IsName p.name) names (p :: ps)

/-- A template up to the end of the source. -/
structure Place.AtTemplate (head : List Char) (ps : List Substitution) (x : Place) : Prop where
  token : x.token = TemplatePiece.first.kind ps
  value : x.value = String.ofList head
  names : x.next.AtNames ps

theorem Place.AtTemplate.token_eq (starts : x.AtTemplate head ps) :
    x.token = .plainTemplate ∨ x.token = .templateHead := by
  rw [starts.token]
  cases ps with
  | nil => exact .inl rfl
  | cons => exact .inr rfl

theorem arrives_template (room : n < maxNesting) (starts : x.AtTemplate head ps)
    (enough : ps.length ≤ b + 4) :
    Arrives n {} x (primary ⟨b + 4, parseAt (b + 3)⟩) fun t y =>
      t.IsTemplate head ps ∧ y.token = .endOfFile := by
  refine .pos (.token ?_)
  rw [starts.token]
  cases ps with
  | nil =>
    refine .pos (.token (.value (.step starts.names.sound (.finish (.pure ?_)))))
    rw [starts.token, starts.value]
    exact ⟨⟨rfl, rfl⟩, starts.names⟩
  | cons p ps =>
    refine .pos (.value (.step starts.names.sound ?_))
    rw [starts.value]
    refine (arrives_substitutions room starts.names enough).bind ?_
    rintro pieces y ⟨names, texts, ends⟩
    refine .finish (.pure ⟨⟨rfl, _, ?_, names⟩, ends⟩)
    rw [texts]
    rfl

/-- A template is the one thing in its statement. -/
theorem arrives_statement_of_template {budget : Nat} (starts : x.AtTemplate head ps)
    (enough : ps.length + 7 ≤ budget) :
    Arrives 0 {} x (parseAt budget .statement) fun s y =>
      (∃ t, s.States t ∧ t.IsTemplate head ps) ∧ y.token = .endOfFile := by
  obtain ⟨b, rfl⟩ := Nat.exists_eq_add_of_le' (Nat.le_trans (Nat.le_add_left 7 _) enough)
  have template : Arrives 2 {} x (primary ⟨b + 4, parseAt (b + 3)⟩) fun t y =>
      t.IsTemplate head ps ∧ y.token = .endOfFile :=
    arrives_template (by decide) starts (by omega)
  have assignment : Arrives 1 {} x (parseAt (b + 6) .assignment) fun t y =>
      t.IsTemplate head ps ∧ y.token = .endOfFile := by
    refine arrives_assignment (by decide) ?_ ?_ (startsArrow_of_ne ?_ ?_) (fun _ _ h => .inr h.2)
      template
    all_goals rcases starts.token_eq with is | is <;> rw [is] <;> decide
  refine .nested (by decide) (.token ?_)
  rcases starts.token_eq with is | is <;> rw [is]
  all_goals exact arrives_expressionStatement (Nat.succ_pos _) assignment

theorem atTemplate_start (free : ∀ p ∈ ps, isFreeName p.name = true) :
    (Place.start (written head ps)).AtTemplate head ps := by
  have piece := Scanner.scan_tick (s := .ofText (written head ps)) rfl
  exact ⟨piece.token, piece.value, atNames_scan free piece.rest⟩

namespace SourceTree

/-- **A template is parsed as it is written**: whatever its pieces of text hold and however many
names are substituted, the source with nothing but the template in it is one statement, and its tree
has just these texts and names. -/
theorem exists_template_of_names (file : String) (head : List Char) {ps : List Substitution}
    (free : ∀ p ∈ ps, isFreeName p.name = true) :
    ∃ s statement t, parse file (String.ofList (written head ps)) = .ok s ∧
      s.tree.Contains file statement ∧ statement.States t ∧ t.IsTemplate head ps := by
  have starts : (Place.start (written head ps)).AtTemplate head ps := atTemplate_start free
  have long := length_lt_behindPiece ps
  have enough : ps.length + 7 ≤ budget (written head ps).length := by
    simp only [budget, written, List.length_cons, List.length_append]
    omega
  have sound : (Place.start (written head ps)).token ≠ .unknown := by
    rcases starts.token_eq with is | is <;> simp [is]
  have some : (Place.start (written head ps)).token ≠ .endOfFile := by
    rcases starts.token_eq with is | is <;> simp [is]
  obtain ⟨s, parsed, statement, contains, t, states, template⟩ :=
    exists_parse_of_arrives (arrives_source file sound some
      (arrives_statement_of_template starts enough))
  exact ⟨s, statement, t, parsed, contains, states, template⟩

/-- Texts that would end a substitution, open a comment, a string or a substitution, break a line or
close the template; and a name that may be a word of the language elsewhere. -/
theorem exists_template_of_names_marked :
    let head := "/*\"".toList
    let ps : List Substitution :=
      [⟨"async".toList, "\x7d\n//".toList⟩, ⟨"é$1".toList, "$\x7b\\\x60".toList⟩]
    (∀ p ∈ ps, isFreeName p.name = true) ∧
      ∃ s statement t, parse "test.js" (String.ofList (written head ps)) = .ok s ∧
        s.tree.Contains "test.js" statement ∧ statement.States t ∧ t.IsTemplate head ps := by
  intro head ps
  have free : ∀ p ∈ ps, isFreeName p.name = true := by decide +kernel
  exact ⟨free, exists_template_of_names "test.js" head free⟩

example : written "/*\"".toList
    [⟨"async".toList, "\x7d\n//".toList⟩, ⟨"é$1".toList, "$\x7b\\\x60".toList⟩]
      = "\x60/*\"$\x7basync\x7d\x7d\n//$\x7bé$1\x7d\\$\x7b\\\\\\\x60\x60".toList := by decide

end SourceTree

end Shapewire
