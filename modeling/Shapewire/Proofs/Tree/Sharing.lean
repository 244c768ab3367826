/-
How trees share out the tokens that they are woven from.

Every token of a row belongs to the innermost tree of the row around it, or to whatever is around
the row.  `Shared` says of a list of shares, one for each token in the order of the tokens, that it
is this division: the tokens of a tree are those that the tree is spelled by, and where the tree is
a leaf there is one of them.  So the leaves, in the order of a walk, are the owners of the tokens
that belong to leaves, in the order of the source.

`Woven.exists_shared` divides a row by induction on how it is woven.  Trees are told apart by their
places, and the sites of a tree lie before those of the next (`Site.lt_of_mem_postorder`).
-/
import Shapewire.Proofs.Tree.Spans

namespace Shapewire

/-- A token with what it belongs to. -/
structure Share (α : Type) where
  token : Terminal
  owner : α

/-- The tokens that belong to `owner`. -/
def tokensOf {α : Type} [DecidableEq α] (owner : α) (shares : List (Share α)) : List Terminal :=
  (shares.filter (·.owner = owner)).map Share.token

section tokensOf

variable {α β : Type} [DecidableEq α] [DecidableEq β] {owner : α} {shares shares' : List (Share α)}

theorem tokensOf_append :
    tokensOf owner (shares ++ shares') = tokensOf owner shares ++ tokensOf owner shares' := by
  rw [tokensOf, List.filter_append, List.map_append]
  rfl

theorem tokensOf_eq_nil (none : ∀ e ∈ shares, e.owner ≠ owner) : tokensOf owner shares = [] := by
  rw [tokensOf, List.filter_eq_nil_iff.mpr, List.map_nil]
  intro e mem
  simpa using none e mem

/-- Tokens stay together where owners are only named otherwise. -/
theorem tokensOf_map {f : α → β} {owner' : β}
    (same : ∀ e ∈ shares, f e.owner = owner' ↔ e.owner = owner) :
    tokensOf owner' (shares.map fun e => ⟨e.token, f e.owner⟩) = tokensOf owner shares := by
  rw [tokensOf, tokensOf, List.filter_map, List.map_map]
  congr 1
  refine List.filter_congr fun e mem => ?_
  simp [same e mem]

end tokensOf

/-- The token lies before or behind the bytes. -/
def Terminal.Apart (t : Terminal) (span : Span) : Prop :=
  t.span.stop ≤ span.start ∨ span.stop ≤ t.span.start

/-- The token lies in the tree, and in none of its children. -/
structure Tree.Around (u : Tree) (t : Terminal) : Prop where
  starts : u.span.start ≤ t.span.start
  stops : t.span.stop ≤ u.span.stop
  apart : ∀ c ∈ u.children, t.Apart c.span

namespace Site

/-- All sites of neighbouring trees. -/
def within (start : Nat) (us : List Tree) : List Site := (row start us).flatMap postorder

variable {start : Nat} {u : Tree} {us : List Tree} {x : Site}

theorem mem_within_cons :
    x ∈ within start (u :: us) ↔ x ∈ postorder ⟨start, u⟩ ∨ x ∈ within (start + u.size) us := by
  simp [within, row]

theorem lt_of_mem_within (h : x ∈ within start us) :
    start ≤ x.id ∧ x.id < start + Tree.totalSize us := by
  obtain ⟨c, child, mem⟩ := List.mem_flatMap.mp h
  have := start_le_of_mem_row child
  have := lt_of_mem_postorder mem
  omega

theorem mem_within_of_mem_row (h : x ∈ row start us) : x ∈ within start us :=
  List.mem_flatMap.mpr ⟨x, h, mem_postorder_self x⟩

theorem mem_within_of_child {c : Site} (h : x ∈ within start us) (child : c ∈ x.children) :
    c ∈ within start us := by
  obtain ⟨s, at_s, mem⟩ := List.mem_flatMap.mp h
  exact List.mem_flatMap.mpr ⟨s, at_s, mem_postorder_of_child mem child⟩

/-- The sites of a site are those of its children and the site itself. -/
theorem mem_postorder_iff {s : Site} :
    x ∈ s.postorder ↔ x ∈ within s.start s.tree.children ∨ x = s := by
  rw [postorder_eq, List.mem_append, List.mem_singleton]
  rfl

end Site

/-! ### Rows -/

/-- The tokens of a row of trees, which starts at a place and lies below a node of kind `parent`,
are shared out among the sites of the row; those without an owner belong to none of them. -/
structure Shared (isLeaf : NodeId → Bool) (parent : NodeKind) (start : Nat) (us : List Tree)
    (shares : List (Share (Option NodeId))) : Prop where
  /-- A token that belongs to none lies in no tree of the row. -/
  outside : ∀ e ∈ shares, e.owner = none → ∀ u ∈ us, e.token.Apart u.span
  /-- A token lies in what it belongs to, and in nothing smaller. -/
  inside : ∀ e ∈ shares, ∀ id, e.owner = some id →
    ∃ x ∈ Site.within start us, x.id = id ∧ x.tree.Around e.token
  /-- The trees of the row are spelled by their tokens. -/
  spells : ∀ x ∈ Site.row start us, x.tree.Spells parent (tokensOf (some x.id) shares)
  /-- The trees below are spelled by their tokens. -/
  below : ∀ x ∈ Site.within start us, ∀ c ∈ x.children,
    c.tree.Spells x.tree.kind (tokensOf (some c.id) shares)
  /-- The tokens of leaves come in the order of the leaves. -/
  leaves : (shares.filterMap Share.owner).filter isLeaf
    = (((Site.row start us).flatMap Site.preorder).map Site.id).filter isLeaf

namespace Shared

variable {isLeaf : NodeId → Bool} {parent : NodeKind} {start : Nat} {t : Terminal} {u : Tree}
  {us : List Tree} {shares inner : List (Share (Option NodeId))}

theorem nil : Shared isLeaf parent start [] [] := ⟨nofun, nofun, nofun, nofun, rfl⟩

/-- The owners of tokens have places in the row. -/
theorem owner_lt (h : Shared isLeaf parent start us shares) {e : Share (Option NodeId)}
    (mem : e ∈ shares) {id : Nat} (owned : e.owner = some id) :
    start ≤ id ∧ id < start + Tree.totalSize us := by
  obtain ⟨x, within, rfl, -⟩ := h.inside e mem id owned
  exact Site.lt_of_mem_within within

/-- A token that lies in no tree of a row belongs to none. -/
theorem token (rest : Shared isLeaf parent start us shares) (apart : ∀ u ∈ us, t.Apart u.span) :
    Shared isLeaf parent start us (⟨t, none⟩ :: shares) where
  outside := List.forall_mem_cons.mpr ⟨fun _ => apart, rest.outside⟩
  inside := List.forall_mem_cons.mpr ⟨nofun, rest.inside⟩
  spells := rest.spells
  below := rest.below
  leaves := rest.leaves

/-- A row without tokens of its own has no owner in it. -/
theorem tokensOf_eq_nil_of_lt {id : Nat} (h : Shared isLeaf parent start us shares)
    (out : id < start ∨ start + Tree.totalSize us ≤ id) : tokensOf (some id) shares = [] := by
  refine tokensOf_eq_nil fun e mem owned => ?_
  have := h.owner_lt mem owned
  omega

end Shared

/-! ### Entering a tree -/

/-- What belongs to nothing in the tree at a place belongs to the tree itself. -/
def Share.enter (place : NodeId) (e : Share (Option NodeId)) : Share (Option NodeId) :=
  ⟨e.token, some (e.owner.getD place)⟩

section enter

variable {place id : Nat} {isLeaf : NodeId → Bool} {inner : List (Share (Option NodeId))}

theorem tokensOf_enter_self (new : ∀ e ∈ inner, e.owner ≠ some place) :
    tokensOf (some place) (inner.map (Share.enter place)) = tokensOf none inner := by
  refine tokensOf_map (f := fun owner : Option NodeId => some (owner.getD place)) fun e mem => ?_
  have other := new e mem
  cases owner : e.owner with
  | none => simp
  | some id =>
    rw [owner] at other
    simpa using other

theorem tokensOf_enter_of_ne (other : id ≠ place) :
    tokensOf (some id) (inner.map (Share.enter place)) = tokensOf (some id) inner := by
  refine tokensOf_map (f := fun owner : Option NodeId => some (owner.getD place)) fun e _ => ?_
  cases e.owner with
  | none => simpa using other.symm
  | some id => simp

/-- What belongs to a tree that is no leaf does not count among the leaves. -/
theorem leaves_enter (inner : List (Share (Option NodeId))) (notLeaf : isLeaf place = false) :
    ((inner.map (Share.enter place)).filterMap Share.owner).filter isLeaf
      = (inner.filterMap Share.owner).filter isLeaf := by
  induction inner with
  | nil => rfl
  | cons e inner ih =>
    obtain ⟨t, _ | id⟩ := e
    · simpa [Share.enter, notLeaf] using ih
    · simp only [List.map_cons, Share.enter, Option.getD_some, List.filterMap_cons,
        List.filter_cons, ih]

end enter

namespace Shared

variable {isLeaf : NodeId → Bool} {parent : NodeKind} {start : Nat} {u : Tree} {us : List Tree}
  {inner shares : List (Share (Option NodeId))}

/-- The tokens of a leaf are one token, which belongs to the leaf. -/
theorem leaves_of_leaf {place : NodeId} (isLeaf_place : isLeaf place = true)
    (within : Shared isLeaf u.kind start u.children inner)
    (spells : u.Spells parent (tokensOf none inner)) (leaf : u.kind.isTokenLeaf = true) :
    ((inner.map (Share.enter place)).filterMap Share.owner).filter isLeaf = [place] := by
  rw [Tree.Spells, if_pos leaf] at spells
  obtain ⟨childless, token, one, -⟩ := spells
  have outer : ∀ e ∈ inner, e.owner = none := by
    intro e mem
    cases owner : e.owner with
    | none => rfl
    | some id =>
      obtain ⟨x, inside, -⟩ := within.inside e mem id owner
      rw [childless] at inside
      cases inside
  have all : inner.filter (·.owner = none) = inner := by
    refine List.filter_eq_self.mpr fun e mem => ?_
    simp [outer e mem]
  rw [tokensOf, all] at one
  obtain ⟨e, rfl, -⟩ := List.map_eq_singleton_iff.mp one
  simp [Share.enter, outer e, isLeaf_place]

/-- A token that belonged to nothing in a tree lies in the tree and in none of its children. -/
theorem inside_enter (within : Shared isLeaf u.kind start u.children inner)
    (covers : ∀ e ∈ inner, u.span.start ≤ e.token.span.start ∧ e.token.span.stop ≤ u.span.stop)
    {e : Share (Option NodeId)} (mem : e ∈ inner.map (Share.enter (Site.id ⟨start, u⟩)))
    {id : NodeId} (owned : e.owner = some id) :
    ∃ x ∈ Site.postorder ⟨start, u⟩, x.id = id ∧ x.tree.Around e.token := by
  obtain ⟨e, here, rfl⟩ := List.mem_map.mp mem
  cases owner : e.owner with
  | none =>
    obtain rfl : Site.id ⟨start, u⟩ = id := by simpa [Share.enter, owner] using owned
    refine ⟨_, Site.mem_postorder_self _, rfl, ?_⟩
    exact ⟨(covers e here).1, (covers e here).2, within.outside e here owner⟩
  | some id' =>
    obtain rfl : id' = id := by simpa [Share.enter, owner] using owned
    obtain ⟨x, inside, found⟩ := within.inside e here id' owner
    exact ⟨x, Site.mem_postorder_iff.mpr (.inl inside), found⟩

section cons

/-! The places in a tree are below its own, and those of a row behind the tree are above it. -/

variable (within : Shared isLeaf u.kind start u.children inner)
  (rest : Shared isLeaf parent (start + u.size) us shares)

include within rest

theorem tokensOf_cons_self : tokensOf (some (Site.id ⟨start, u⟩))
    (inner.map (Share.enter (Site.id ⟨start, u⟩)) ++ shares) = tokensOf none inner := by
  have size := u.size_eq
  have place : Site.id ⟨start, u⟩ = start + Tree.totalSize u.children := Site.id_eq_add _
  rw [tokensOf_append, rest.tokensOf_eq_nil_of_lt (by omega), List.append_nil]
  refine tokensOf_enter_self fun e mem owned => ?_
  have := within.owner_lt mem owned
  omega

omit within in
theorem tokensOf_cons_of_lt {id : Nat} (below : id < start + Tree.totalSize u.children) :
    tokensOf (some id) (inner.map (Share.enter (Site.id ⟨start, u⟩)) ++ shares)
      = tokensOf (some id) inner := by
  have size := u.size_eq
  have place : Site.id ⟨start, u⟩ = start + Tree.totalSize u.children := Site.id_eq_add _
  rw [tokensOf_append, rest.tokensOf_eq_nil_of_lt (by omega), List.append_nil,
    tokensOf_enter_of_ne (by omega)]

omit rest in
theorem tokensOf_cons_of_le {id : Nat} (above : start + u.size ≤ id) :
    tokensOf (some id) (inner.map (Share.enter (Site.id ⟨start, u⟩)) ++ shares)
      = tokensOf (some id) shares := by
  have size := u.size_eq
  have place : Site.id ⟨start, u⟩ = start + Tree.totalSize u.children := Site.id_eq_add _
  rw [tokensOf_append, tokensOf_enter_of_ne (by omega),
    within.tokensOf_eq_nil_of_lt (.inr (by omega)), List.nil_append]

omit rest in
/-- A walk meets the leaves of a tree in the order of their tokens. -/
theorem leaves_tree (spells : u.Spells parent (tokensOf none inner))
    (agrees : isLeaf (Site.id ⟨start, u⟩) = u.kind.isTokenLeaf) :
    ((inner.map (Share.enter (Site.id ⟨start, u⟩))).filterMap Share.owner).filter isLeaf
      = ((Site.preorder ⟨start, u⟩).map Site.id).filter isLeaf := by
  rw [Site.preorder_eq]
  cases leaf : u.kind.isTokenLeaf with
  | true =>
    have childless : u.children = [] := by
      rw [Tree.Spells, if_pos leaf] at spells
      exact spells.1
    rw [within.leaves_of_leaf (agrees.trans leaf) spells leaf]
    simp [Site.children, childless, Site.row, agrees, leaf]
  | false =>
    rw [leaves_enter inner (agrees.trans leaf), within.leaves]
    simp [Site.children, agrees, leaf]

/-- A tree before a row. -/
theorem cons (spells : u.Spells parent (tokensOf none inner))
    (covers : ∀ e ∈ inner, u.span.start ≤ e.token.span.start ∧ e.token.span.stop ≤ u.span.stop)
    (behind : ∀ e ∈ shares, u.span.stop ≤ e.token.span.start)
    (agrees : isLeaf (Site.id ⟨start, u⟩) = u.kind.isTokenLeaf) :
    Shared isLeaf parent start (u :: us)
      (inner.map (Share.enter (Site.id ⟨start, u⟩)) ++ shares) where
  outside := by
    intro e mem free
    rcases List.mem_append.mp mem with mem | mem
    · obtain ⟨e, -, rfl⟩ := List.mem_map.mp mem
      cases free
    · exact List.forall_mem_cons.mpr ⟨.inr (behind e mem), rest.outside e mem free⟩
  inside := by
    intro e mem id owned
    rcases List.mem_append.mp mem with mem | mem
    · obtain ⟨x, inside, found⟩ := within.inside_enter covers mem owned
      exact ⟨x, Site.mem_within_cons.mpr (.inl inside), found⟩
    · obtain ⟨x, inside, found⟩ := rest.inside e mem id owned
      exact ⟨x, Site.mem_within_cons.mpr (.inr inside), found⟩
  spells := by
    refine List.forall_mem_cons.mpr ⟨within.tokensOf_cons_self rest ▸ spells, fun x mem => ?_⟩
    rw [within.tokensOf_cons_of_le (Site.lt_of_mem_within (Site.mem_within_of_mem_row mem)).1]
    exact rest.spells x mem
  below := by
    intro x mem c child
    rcases Site.mem_within_cons.mp mem with mem | mem
    · rcases Site.mem_postorder_iff.mp mem with mem | rfl
      · rw [rest.tokensOf_cons_of_lt
          (Site.lt_of_mem_within (Site.mem_within_of_child mem child)).2]
        exact within.below x mem c child
      · rw [rest.tokensOf_cons_of_lt
          (Site.lt_of_mem_within (Site.mem_within_of_mem_row child)).2]
        exact within.spells c child
    · rw [within.tokensOf_cons_of_le
        (Site.lt_of_mem_within (Site.mem_within_of_child mem child)).1]
      exact rest.below x mem c child
  leaves := by
    rw [Site.row, List.flatMap_cons, List.filterMap_append, List.filter_append, List.map_append,
      List.filter_append, rest.leaves, within.leaves_tree spells agrees]

end cons

end Shared

/-! ### Woven trees -/

section woven

variable {text : List Char} {isLeaf : NodeId → Bool} {parent : NodeKind} {ts own : List Terminal}
  {us : List Tree}

/-- A hole has no token. -/
theorem Shared.hole {shares : List (Share (Option NodeId))} {start pos : Nat} {u : Tree}
    (is : u = .node .hole .none (.point pos) none)
    (rest : Shared isLeaf parent (start + u.size) us shares)
    (behind : ∀ e ∈ shares, pos ≤ e.token.span.start)
    (agrees : isLeaf (Site.id ⟨start, u⟩) = u.kind.isTokenLeaf) :
    Shared isLeaf parent start (u :: us) shares := by
  subst is
  have spells : Tree.Spells parent (.node .hole .none (.point pos) none)
      (tokensOf (none : Option NodeId) []) := Spelling.marked rfl rfl
  exact Shared.nil.cons rest spells nofun behind agrees

/-- The trees woven from tokens lie behind the tokens before those. -/
theorem Woven.stop_le (woven : Woven parent ts own us) (before : List Terminal)
    (spread : Spread text (before ++ ts)) : ∀ t ∈ before, ∀ u ∈ us, t.span.stop ≤ u.span.start := by
  intro t mem u among
  have later := spread.sublist (List.sublist_append_right before ts)
  obtain ⟨a, inside, -, -, start, -⟩ := ((woven.laid later (List.infix_refl ts)).1 u among).2
  rw [← start]
  exact (List.pairwise_append.mp spread.apart).2.2 t mem a inside

/-- **The tokens of woven trees can be shared out**, one by one. -/
theorem Woven.exists_shared (woven : Woven parent ts own us) (spread : Spread text ts)
    {start : Nat} (agrees : ∀ x ∈ Site.within start us, isLeaf x.id = x.tree.kind.isTokenLeaf) :
    ∃ shares, shares.map Share.token = ts ∧ tokensOf none shares = own ∧
      Shared isLeaf parent start us shares := by
  induction woven generalizing start with
  | nil => exact ⟨[], rfl, rfl, .nil⟩
  | @token parent t ts own us rest ih =>
    obtain ⟨shares, tokens, free, shared⟩ :=
      ih (spread.sublist (List.sublist_cons_self t ts)) agrees
    refine ⟨⟨t, none⟩ :: shares, by simp [tokens], by simpa [tokensOf] using free, shared.token ?_⟩
    exact fun u mem => .inl (rest.stop_le [t] spread t List.mem_cons_self u mem)
  | @hole parent t ts own us rest ih =>
    have hole := agrees _ (Site.mem_within_of_mem_row List.mem_cons_self)
    obtain ⟨shares, tokens, free, shared⟩ :=
      ih (spread.sublist (List.sublist_cons_self t ts))
        fun x mem => agrees x (Site.mem_within_cons.mpr (.inr mem))
    refine ⟨⟨t, none⟩ :: shares, by simp [tokens], by simpa [tokensOf] using free, ?_⟩
    refine (shared.hole rfl (fun e mem => ?_) hole).token ?_
    · have later : e.token ∈ ts := tokens ▸ List.mem_map_of_mem mem
      have apart := (List.pairwise_cons.mp spread.apart).1 e.token later
      have forward := spread.forward t List.mem_cons_self
      omega
    · refine List.forall_mem_cons.mpr ⟨.inr (Nat.le_refl _), fun u mem => .inl ?_⟩
      exact rest.stop_le [t] spread t List.mem_cons_self u mem
  | @tree parent t run ts inner own u us span within spells rest ih ih' =>
    have front := spread.sublist (List.sublist_append_left (t :: run) ts)
    have later := spread.sublist (List.sublist_append_right (t :: run) ts)
    have here := agrees _ (Site.mem_within_of_mem_row List.mem_cons_self)
    obtain ⟨shares, tokens, free, shared⟩ := ih front fun x mem =>
      agrees x (Site.mem_within_cons.mpr (.inl (Site.mem_postorder_iff.mpr (.inl mem))))
    obtain ⟨shares', tokens', free', shared'⟩ := ih' later fun x mem =>
      agrees x (Site.mem_within_cons.mpr (.inr mem))
    refine ⟨_, ?_, ?_, shared.cons shared' (free ▸ spells) (fun e mem => ?_) (fun e mem => ?_) here⟩
    · rw [List.map_append, tokens', List.map_map]
      exact congrArg (· ++ ts) tokens
    · rw [tokensOf_append, free', tokensOf_eq_nil, List.nil_append]
      intro e mem
      obtain ⟨e, -, rfl⟩ := List.mem_map.mp mem
      exact Option.some_ne_none _
    · rw [span]
      exact front.cover e.token (tokens ▸ List.mem_map_of_mem mem)
    · have inside : e.token ∈ ts := tokens' ▸ List.mem_map_of_mem mem
      rw [span]
      exact (List.pairwise_append.mp spread.apart).2.2 _ front.last.1 e.token inside

end woven

end Shapewire
