/-
Chains of powers.

The right operand of a power is read by a call that is not counted, and it may be a power again.  So
a source may raise a number to a power as often as it likes: from `1 ** 1 ** 1` and so on up to the
end, every operand is read in turn (`arrives_powers`, by induction on the operators ahead), at
depth two however many there are.  The nodes of such a source are a chain of right operands as long
as the source has powers (`exists_rightChain_of_powers`).
-/
import Shapewire.Proofs.Grammar.RightChain
import Shapewire.Proofs.Grammar.Single
import Shapewire.Proofs.Token.Spacing

namespace Shapewire

/-- A number comes next, and behind it so many powers of numbers up to the end. -/
def Place.StartsPowers : Nat → Place → Prop
  | 0, x => x.token = .numericLiteral ∧ x.next.token = .endOfFile
  | m + 1, x => x.token = .numericLiteral ∧ x.next.token = .power ∧ x.next.next.StartsPowers m

variable {n m k least : Nat} {c : Context} {x : Place}

theorem Place.StartsPowers.number (h : x.StartsPowers m) : x.token = .numericLiteral := by
  cases m with
  | zero => exact h.1
  | succ m => exact h.1

theorem Place.StartsPowers.follows (h : x.StartsPowers m) :
    x.next.token = .power ∨ x.next.token = .endOfFile := by
  cases m with
  | zero => exact .inr h.2
  | succ m => exact .inl h.2.1

open Shapewire.Parser

namespace Descent

theorem arrives_number {parse : Nonterminal → Parser Tree} (number : x.token = .numericLiteral)
    (follows : x.next.token = .power ∨ x.next.token = .endOfFile) :
    Arrives n {} x (unary ⟨k + 1, parse⟩) fun _ y => y = x.next := by
  have sound : x.next.token ≠ .unknown := by rcases follows with h | h <;> simp [h]
  have literal : Arrives n {} x literal fun _ y => y = x.next := .step sound (.pure rfl)
  have primary : Arrives n {} x (primary ⟨k + 1, parse⟩) fun _ y => y = x.next := by
    refine .pos (.token ?_)
    rw [number]
    exact literal
  refine arrives_unary (Nat.succ_pos k) (by simp [number]) (by rw [number]; rfl) ?_ primary
  rintro _ _ rfl
  exact follows.imp_right .inr

/-- At the end of the source no operator follows. -/
theorem operandTurn_end {d : Descent} {start : Nat} {e : Tree} (ends : x.token = .endOfFile) :
    Arrives n c x (operandTurn d start least e) fun r y => r = .inr e ∧ y = x := by
  refine .token (.state ?_)
  rw [ends]
  exact .pure ⟨rfl, rfl⟩

/-- Whatever the right operand of a power is, a power is made of it. -/
theorem operandTurn_power {d : Descent} {start : Nat} {e : Tree} {P : Tree → Place → Prop}
    (power : x.token = .power) (loose : least ≤ 10) (sound : x.next.token ≠ .unknown)
    (right : Arrives n c x.next (d.parse (.operand 10)) P) :
    Arrives n c x (operandTurn d start least e) fun s y =>
      ∃ t r, s = .inl t ∧ t.binary? = some (e, .token .power, r) ∧ P r y := by
  refine .token (.state ?_)
  have tighter : ¬11 ≤ least := by omega
  rw [power]
  show Arrives n c x (if 11 ≤ least then _ else _) _
  rw [if_neg tighter]
  refine .step sound (right.bind fun r y holds => ?_)
  exact .finish (.pure ⟨_, r, rfl, rfl, holds⟩)

/-- An operand is a number and what the operators behind it make of it. -/
theorem arrives_operand_of_loop {budget : Nat} {Q : Tree → Place → Prop}
    (number : x.token = .numericLiteral)
    (follows : x.next.token = .power ∨ x.next.token = .endOfFile)
    (behind : ∀ e, Arrives n {} x.next
      (loop (budget + 2) (operandTurn ⟨budget + 2, parseAt (budget + 1)⟩ x.pos least) e) Q) :
    Arrives n {} x (parseAt (budget + 2) (.operand least)) Q := by
  have first : Arrives n {} x (parseAt (budget + 1) .unary) fun _ y => y = x.next :=
    arrives_number number follows
  refine Arrives.pos (first.bind ?_)
  rintro e _ rfl
  exact behind e

end Descent

open Descent

/-- However many powers there are, an operand goes on to the end of the source, with a budget for
each of them. -/
theorem arrives_powers {budget : Nat} (starts : x.StartsPowers m) (loose : least ≤ 10)
    (enough : m + 2 ≤ budget) :
    Arrives n {} x (parseAt budget (.operand least)) fun t y =>
      t.PowersDown m ∧ y.token = .endOfFile := by
  obtain ⟨budget, rfl⟩ := Nat.exists_eq_add_of_le' (Nat.le_trans (Nat.le_add_left 2 m) enough)
  induction m generalizing x least budget with
  | zero =>
    refine arrives_operand_of_loop starts.number starts.follows fun e => ?_
    refine .loopLast ((operandTurn_end starts.2).mono ?_)
    rintro _ _ ⟨rfl, rfl⟩
    exact ⟨e, rfl, .none, starts.2⟩
  | succ m ih =>
    obtain ⟨budget, rfl⟩ := Nat.exists_eq_add_of_le' (show 1 ≤ budget by omega)
    have right := ih starts.2.2 (Nat.le_refl 10) budget (by omega)
    have sound : x.next.next.token ≠ .unknown := by simp [starts.2.2.number]
    refine arrives_operand_of_loop starts.number starts.follows fun e => ?_
    refine .loopMore ((operandTurn_power starts.2.1 loose sound right).mono ?_)
    rintro _ y ⟨t, r, rfl, form, down, ends⟩
    refine ⟨t, rfl, .loopLast ((operandTurn_end ends).mono ?_)⟩
    rintro _ _ ⟨rfl, rfl⟩
    exact ⟨t, rfl, .more form down, ends⟩

/-- A statement opens two constructs around the operand, and no more. -/
theorem arrives_statement {budget : Nat} (starts : x.StartsPowers m) (enough : m + 4 ≤ budget) :
    Arrives 0 {} x (parseAt budget .statement) fun t y =>
      (∃ e, t.States e ∧ e.PowersDown m) ∧ y.token = .endOfFile := by
  obtain ⟨budget, rfl⟩ := Nat.exists_eq_add_of_le' (Nat.le_trans (Nat.le_add_left 2 _) enough)
  have operand : Arrives 2 {} x (parseAt budget (.operand 0)) fun t y =>
      t.PowersDown m ∧ y.token = .endOfFile :=
    arrives_powers starts (Nat.zero_le 10) (by omega)
  have noArrow := startsArrow_of_ne (n := 2) (c := {}) (x := x) (by simp [starts.number])
    (by simp [starts.number])
  have assignment : Arrives 1 {} x (parseAt (budget + 1) .assignment) fun t y =>
      t.PowersDown m ∧ y.token = .endOfFile :=
    .nested (by decide) (arrives_assignmentBody (fun _ _ h => .inr h.2) noArrow operand)
  refine .nested (by decide) (.token ?_)
  rw [starts.number]
  exact arrives_expressionStatement (Nat.succ_pos _) assignment

/-! ### Their sources -/

/-- Behind a number, so many powers of one. -/
def raised : Nat → List Char
  | 0 => []
  | m + 1 => ' ' :: '*' :: '*' :: ' ' :: '1' :: raised m

/-- One to the power of one, so many times over. -/
def powers (m : Nat) : List Char := '1' :: raised m

theorem standsApart_raised (m : Nat) : Token.StandsApart (raised m) := by
  cases m with
  | zero => exact .nil
  | succ m => exact fun ch first => (Option.some.inj first).symm

theorem le_length_raised (m : Nat) : m ≤ (raised m).length := by
  induction m with
  | zero => exact Nat.zero_le _
  | succ m ih =>
    simp only [raised, List.length_cons]
    omega

namespace Scanner

variable {s : Scanner} {lead after : List Char}

theorem scan_one (space : lead = [] ∨ lead = [' ']) (apart : Token.StandsApart after)
    (here : s.here.rest = lead ++ '1' :: after) :
    s.scan.token = .numericLiteral ∧ s.scan.here.rest = after := by
  have one : (ofText ['1']).scan.isDone = false ∧ (ofText ['1']).scan.text.toList = ['1'] ∧
      (ofText ['1']).scan.token = .numericLiteral := by decide +kernel
  rw [show lead ++ '1' :: after = lead ++ (['1'] ++ after) from rfl, ← one.2.1] at here
  have again := word_scan one.1 space apart here
  exact ⟨(congrArg Prod.fst again.1).trans one.2.2, again.2.1⟩

theorem scan_power (apart : Token.StandsApart after)
    (here : s.here.rest = [' '] ++ '*' :: '*' :: after) :
    s.scan.token = .power ∧ s.scan.here.rest = after := by
  have power : (ofText ['*', '*']).scan.isDone = false ∧
      (ofText ['*', '*']).scan.text.toList = ['*', '*'] ∧
      (ofText ['*', '*']).scan.token = .power := by decide +kernel
  rw [show '*' :: '*' :: after = ['*', '*'] ++ after from rfl, ← power.2.1] at here
  have again := word_scan power.1 (.inr rfl) apart here
  exact ⟨(congrArg Prod.fst again.1).trans power.2.2, again.2.1⟩

end Scanner

theorem startsPowers_scan {s : Scanner} {lead : List Char} {prevEnd : Nat}
    (space : lead = [] ∨ lead = [' ']) (here : s.here.rest = lead ++ powers m) :
    Place.StartsPowers m ⟨s.scan, prevEnd⟩ := by
  induction m generalizing s lead prevEnd with
  | zero =>
    obtain ⟨number, behind⟩ := Scanner.scan_one space .nil here
    exact ⟨number, (Scanner.scan_at_end (.inl rfl) behind).1⟩
  | succ m ih =>
    obtain ⟨number, behind⟩ := Scanner.scan_one space (standsApart_raised _) here
    have apart : Token.StandsApart (' ' :: powers m) :=
      fun ch first => (Option.some.inj first).symm
    obtain ⟨power, behind⟩ := Scanner.scan_power apart behind
    exact ⟨number, power, ih (.inr rfl) behind⟩

namespace SourceTree

/-- **Powers nest as deeply as a source has them**: every chain of them parses, and its nodes are
each the right operand of the one before. -/
theorem exists_rightChain_of_powers (file : String) (m : Nat) :
    ∃ s, parse file (String.ofList (powers m)) = .ok s ∧
      ∃ ids : List NodeId, s.arena.RightChain ids ∧ ids.length = m := by
  have starts : (Place.start (powers m)).StartsPowers m := startsPowers_scan (.inl rfl) rfl
  have long : m ≤ (powers m).length := Nat.le_succ_of_le (le_length_raised m)
  have enough : m + 4 ≤ budget (powers m).length := by
    unfold budget
    omega
  have sound : (Place.start (powers m)).token ≠ .unknown := by simp [starts.number]
  have some : (Place.start (powers m)).token ≠ .endOfFile := by simp [starts.number]
  obtain ⟨s, parsed, e, contains, u, states, down⟩ := exists_parse_of_arrives
    (arrives_source file sound some (arrives_statement starts enough))
  have formed : s.tree.Formed := formed_of_parse parsed
  have below : ⟨0, e⟩ ∈ s.tree.site.children := by
    rw [Site.children, show s.tree.site.tree.children = [e] from contains.children]
    exact List.mem_cons_self
  have below' : (⟨0, u⟩ : Site) ∈ Site.children ⟨0, e⟩ := by
    rw [Site.children, states.children]
    exact List.mem_cons_self
  have mem : ⟨0, u⟩ ∈ s.tree.sites := Site.mem_postorder_of_child
    (Site.mem_postorder_of_child (Tree.mem_sites_self s.tree) below) below'
  obtain ⟨ids, length, -, chain⟩ := Tree.PowersDown.exists_rightChain formed (x := ⟨0, u⟩) down mem
  exact ⟨s, parsed, ids, s.arena_eq ▸ chain, length⟩

/-- Twice as many nested operands as constructs may nest, and one more, are not too deep. -/
theorem rightChain_beyond_limit : ∃ s, parse "test.js" (String.ofList (powers 257)) = .ok s ∧
    ∃ ids : List NodeId, s.arena.RightChain ids ∧ 2 * maxNesting < ids.length := by
  obtain ⟨s, parsed, ids, chain, length⟩ := exists_rightChain_of_powers "test.js" 257
  have beyond : 2 * maxNesting < 257 := by decide
  exact ⟨s, parsed, ids, chain, length ▸ beyond⟩

end SourceTree

end Shapewire
