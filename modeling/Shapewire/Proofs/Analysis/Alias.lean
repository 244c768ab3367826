/-
Which assignments make aliases, and which of them decides.

An assignment makes an alias if it is a plain one, its left side is state, and its right side is a
parameter of the constructor in a place where that is what the name means (`Site.IsAlias`).  Such a
node holds nothing but names and `this`, so none of them lies within another, and the order in which
a walk meets them is the order in which they start in the source.  The table is filled in that order
and read from its end: a name stands for the parameter that the last of its assignments gives it
(`aliases_of_parse`).
-/
import Shapewire.Analysis.Alias
import Shapewire.Proofs.Analysis.Shape
import Shapewire.Proofs.Analysis.Usage

namespace Shapewire

/-- The place of the constructor, which is the first function of any form. -/
def Tree.constructor? (t : Tree) : Option Site :=
  t.site.preorder.find? fun x => x.tree.kind.isFunction

/-- The node assigns a parameter of the constructor, by itself and by `=`, to state of a name, and
no other function that the node is in has a parameter of the same name. -/
structure Site.IsAlias (x : Site) (t : Tree) (first : Site) (name parameter : String) : Prop where
  assigns : ∃ value, x.tree.IsAssignment .assign name value ∧
    value.record? = some (.identifier parameter)
  declared : parameter ∈ first.tree.parameterNames
  unshadowed : ∀ g ∈ t.sites, x ∈ g.postorder → g ≠ first → g.tree.kind.isFunction = true →
    parameter ∉ g.tree.parameterNames

/-! ### What lies within -/

namespace Tree

/-- A token holds no trees. -/
theorem children_of_token {t : Tree} (fits : t.Fits) {k : TokenKind} (token : t.kind = .token k) :
    t.children = [] := by
  have form := fits.form
  have pool : (NodeKind.token k).pool? = none ∨ (NodeKind.token k).pool? = some .identifiers ∨
      (NodeKind.token k).pool? = some .literals := by
    cases k <;> decide
  rw [children]
  cases found : t.record? with
  | none => rfl
  | some r =>
    rw [found, token] at form
    rw [form] at pool
    cases r <;> first | rfl | simp [Record.pool] at pool

/-- What has the record of an identifier is one. -/
theorem kind_of_identifier {t : Tree} (fits : t.Fits) {name : String}
    (named : t.record? = some (.identifier name)) : t.kind = .token .identifier := by
  have form := fits.form
  rw [named] at form
  cases is : t.kind <;> rw [is] at form
  case token k => cases k <;> first | rfl | cases form
  all_goals cases form

end Tree

namespace Site

variable {x y z : Site} {object : Tree} {name : String}

/-- No binary node lies within a token. -/
theorem kind_ne_binary_of_token (fits : z.tree.Fits) {k : TokenKind}
    (token : z.tree.kind = .token k) : ∀ y ∈ z.postorder, y.tree.kind ≠ .binary := by
  have alone : z.postorder = [z] := by
    rw [postorder_eq, children, Tree.children_of_token fits token]
    rfl
  intro y mem binary
  rw [alone] at mem
  rw [List.mem_singleton.mp mem, token] at binary
  cases binary

/-- Nor does one within a member access, if there is none in its object. -/
theorem kind_ne_binary_of_member (formed : z.tree.Formed) (member : z.tree.IsMember object name)
    (inside : ∀ y ∈ postorder ⟨z.start, object⟩, y.tree.kind ≠ .binary) :
    ∀ y ∈ z.postorder, y.tree.kind ≠ .binary := by
  obtain ⟨kind, key, optional, record, named⟩ := member
  have slots : z.tree.record?.bind Record.access? = some (object, key) := by rw [record]; rfl
  have children := children_of_access? slots
  have key_mem : ⟨z.start + object.size, key⟩ ∈ z.children := by rw [children]; simp
  have fits := (formed_of_mem_postorder formed (mem_postorder_of_child (mem_postorder_self z)
    key_mem)).fits
  intro y mem binary
  rw [postorder_eq, children] at mem
  simp only [List.flatMap_cons, List.flatMap_nil, List.append_nil, List.mem_append,
    List.mem_singleton] at mem
  rcases mem with (mem | mem) | rfl
  · exact inside y mem binary
  · exact kind_ne_binary_of_token fits (Tree.kind_of_identifier fits named) y mem binary
  · rw [kind] at binary
    cases binary

/-- No binary node lies within state. -/
theorem kind_ne_binary_of_state (formed : z.tree.Formed) (state : z.tree.IsState name) :
    ∀ y ∈ z.postorder, y.tree.kind ≠ .binary := by
  have below {z : Site} {object : Tree} {name : String} (formed : z.tree.Formed)
      (member : z.tree.IsMember object name) : object.Formed :=
    formed_of_mem_postorder (s := z) (x := ⟨z.start, object⟩) formed
      (mem_postorder_of_child (mem_postorder_self z)
        (Tree.mem_children_of_memberAccess? (Tree.memberAccess?_eq_some_iff.mpr member)))
  cases state with
  | own access this =>
    refine kind_ne_binary_of_member formed access ?_
    exact kind_ne_binary_of_token (below formed access).fits this
  | shared access prototype named =>
    have objectFormed := below formed access
    refine kind_ne_binary_of_member formed access ?_
    refine kind_ne_binary_of_member objectFormed prototype ?_
    exact kind_ne_binary_of_token (z := ⟨z.start, _⟩)
      (below (z := ⟨z.start, _⟩) objectFormed prototype).fits named

variable {t : Tree} {first : Site} {parameter other : String}

theorem IsAlias.kind (makes : x.IsAlias t first name parameter) (formed : x.tree.Formed) :
    x.tree.kind = .binary := by
  obtain ⟨value, ⟨left, form, -⟩, -⟩ := makes.assigns
  exact Tree.kind_of_binary? formed.fits form

/-- A node makes one alias only. -/
theorem IsAlias.parameter_eq (makes : x.IsAlias t first name parameter)
    (again : x.IsAlias t first name other) : parameter = other := by
  obtain ⟨value, ⟨left, form, -⟩, named⟩ := makes.assigns
  obtain ⟨value', ⟨left', form', -⟩, named'⟩ := again.assigns
  cases form.symm.trans form'
  cases named.symm.trans named'
  rfl

/-- No other binary node lies within one that makes an alias. -/
theorem IsAlias.eq_of_mem (makes : x.IsAlias t first name parameter) (formed : x.tree.Formed)
    (mem : y ∈ x.postorder) (binary : y.tree.kind = .binary) : y = x := by
  obtain ⟨value, ⟨left, form, state⟩, named⟩ := makes.assigns
  have children := children_of_binary? form
  have below {c : Site} (child : c ∈ x.children) : c.tree.Formed :=
    formed_of_mem_postorder formed (mem_postorder_of_child (mem_postorder_self x) child)
  have leftFormed := below (c := ⟨x.start, left⟩) (by simp [children])
  have fits := (below (c := ⟨x.start + left.size, value⟩) (by simp [children])).fits
  rw [postorder_eq, children] at mem
  simp only [List.flatMap_cons, List.flatMap_nil, List.append_nil, List.mem_append,
    List.mem_singleton] at mem
  rcases mem with (mem | mem) | same
  · exact absurd binary (kind_ne_binary_of_state leftFormed state y mem)
  · exact absurd binary (kind_ne_binary_of_token fits (Tree.kind_of_identifier fits named) y mem)
  · exact same

end Site

/-! ### The table -/

/-- The alias that the analysis makes of a node, with its parameter. -/
def Site.alias? (x : Site) (t : Tree) (first : Site) : Option (String × String) :=
  Callable.aliasAt? ⟨first.id, first.tree.parameterNames⟩ (.ofTree t) x.id

/-- The last entry under a key decides. -/
theorem exists_last_of_lookup {α : Type} {f : α → Option (String × String)} {l : List α}
    {key value : String} (found : (l.filterMap f).reverse.lookup key = some value) :
    ∃ before x after, l = before ++ x :: after ∧ f x = some (key, value) ∧
      ∀ y ∈ after, ∀ other, f y ≠ some (key, other) := by
  obtain ⟨later, earlier, split, apart⟩ := List.lookup_eq_some_iff.mp found
  have forward : l.filterMap f = earlier.reverse ++ (key, value) :: later.reverse := by
    rw [← List.reverse_reverse (l.filterMap f), split]
    simp
  obtain ⟨before, rest, rfl, -, here⟩ := List.filterMap_eq_append_iff.mp forward
  obtain ⟨skipped, x, after, rfl, -, is, rest⟩ := List.filterMap_eq_cons_iff.mp here
  refine ⟨before ++ skipped, x, after, by simp, is, fun y mem other isKey => ?_⟩
  have listed : (key, other) ∈ later := by
    rw [← List.mem_reverse, ← rest]
    exact List.mem_filterMap.mpr ⟨y, mem, isKey⟩
  simpa using apart _ listed

/-- What has an entry is found. -/
theorem exists_lookup_of_mem {α : Type} {f : α → Option (String × String)} {l : List α} {x : α}
    {key value : String} (mem : x ∈ l) (is : f x = some (key, value)) :
    ∃ other, (l.filterMap f).reverse.lookup key = some other := by
  cases found : (l.filterMap f).reverse.lookup key with
  | some other => exact ⟨other, rfl⟩
  | none =>
    have listed : (key, value) ∈ (l.filterMap f).reverse :=
      List.mem_reverse.mpr (List.mem_filterMap.mpr ⟨x, mem, is⟩)
    simpa using List.lookup_eq_none_iff.mp found _ listed

section table

variable {t : Tree} (formed : t.Formed) {first x : Site} (inside : first ∈ t.sites)
  (mem : x ∈ t.sites)

include formed inside mem

/-- What a child of a binary node refers to is decided by the functions that the node is in. -/
theorem Callable.resolve?_child {v : Site} (child : v ∈ x.children) (binary : x.tree.kind = .binary)
    (parameter : String) :
    Callable.resolve? ⟨first.id, first.tree.parameterNames⟩ (.ofTree t) v.id = some parameter ↔
      v.tree.record? = some (.identifier parameter) ∧ parameter ∈ first.tree.parameterNames ∧
      ∀ g ∈ t.sites, x ∈ g.postorder → g ≠ first → g.tree.kind.isFunction = true →
        parameter ∉ g.tree.parameterNames := by
  have noFunction : x.tree.kind.isFunction = false := by rw [binary]; rfl
  rw [resolve?_eq, Tree.identifierText?_ofTree formed (Site.mem_postorder_of_child mem child),
    Option.filter_eq_some_iff, Tree.identifierText?_eq_some_iff, Bool.and_eq_true,
    List.contains_iff_mem, Bool.not_eq_true', shadows_child formed mem child, noFunction,
    Bool.and_false, Bool.false_and, Bool.false_or, Bool.eq_false_iff, Ne, shadows_iff formed mem]
  refine and_congr_right fun _ => and_congr_right fun _ => ?_
  constructor
  · intro none g inside' within other function bound
    refine none ⟨g, inside', within, ?_, fun same => other ?_, function, bound⟩
    · rintro rfl
      rw [noFunction] at function
      cases function
    · exact Site.eq_of_id_eq inside' inside same
  · rintro each ⟨g, inside', within, -, other, function, bound⟩
    exact each g inside' within (fun same => other (congrArg Site.id same)) function bound

/-- The analysis makes the aliases of the constructor. -/
theorem Site.alias?_eq_some_iff {name parameter : String} :
    x.alias? t first = some (name, parameter) ↔ x.IsAlias t first name parameter := by
  have sides : x.IsAlias t first name parameter ↔ ∃ left value,
      x.tree.binary? = some (left, .token .assign, value) ∧ left.IsState name ∧
      value.record? = some (.identifier parameter) ∧ parameter ∈ first.tree.parameterNames ∧
      ∀ g ∈ t.sites, x ∈ g.postorder → g ≠ first → g.tree.kind.isFunction = true →
        parameter ∉ g.tree.parameterNames :=
    ⟨fun ⟨⟨value, ⟨left, form, state⟩, named⟩, declared, unshadowed⟩ =>
        ⟨left, value, form, state, named, declared, unshadowed⟩,
      fun ⟨left, value, form, state, named, declared, unshadowed⟩ =>
        ⟨⟨value, ⟨left, form, state⟩, named⟩, declared, unshadowed⟩⟩
  rw [sides, alias?, Callable.aliasAt?, Tree.assignment?_ofTree formed mem]
  cases form : x.tree.binary? with
  | none => simp
  | some slots =>
    obtain ⟨left, operator, right⟩ := slots
    have binary := Tree.kind_of_binary? (Site.formed_of_mem_postorder formed mem).fits form
    have left_mem := Site.mem_postorder_of_child mem (Site.left_mem_children_of_binary? form)
    have right_mem := Site.mem_children_of_binary? form
    have resolved := Callable.resolve?_child formed inside mem right_mem binary
    by_cases plain : operator = .token .assign
    · subst plain
      simp only [Option.bind_some, beq_self_eq_true, if_true, Option.bind_eq_bind,
        Option.bind_eq_some_iff, Option.some.injEq, resolved,
        Tree.selfStateName?_ofTree formed left_mem, Tree.selfStateName?_eq_some_iff]
      constructor
      · rintro ⟨_, state, _, means, made⟩
        obtain ⟨rfl, rfl⟩ := Prod.mk.inj (Option.some.inj made)
        exact ⟨left, right, rfl, state, means⟩
      · rintro ⟨_, _, same, state, means⟩
        cases same
        exact ⟨name, state, parameter, means, rfl⟩
    · simp [plain]

end table

namespace SourceTree

variable {file text : String} {s : SourceTree} {first x y : Site} {name parameter other : String}

/-- The constructor of a source is its first function, with the parameters of that. -/
theorem callable_eq (formed : s.tree.Formed) (found : s.tree.constructor? = some first)
    (distinct : first.tree.parameterNames.Nodup) :
    s.callable = .ok ⟨first.id, first.tree.parameterNames⟩ := by
  have isFirst : s.tree.firstFunction? = some first.tree := by
    rw [Tree.firstFunction?_eq]
    exact congrArg (Option.map Site.tree) found
  obtain ⟨x, -, found', callable⟩ := exists_callable formed isFirst distinct
  obtain rfl := Option.some.inj (found.symm.trans found')
  exact callable

/-- Of two nodes that make aliases, the one that a walk meets first starts first. -/
theorem start_lt_of_precedes (parsed : parse file text = .ok s) (mem : x ∈ s.tree.sites)
    (mem' : y ∈ s.tree.sites) (makes : x.IsAlias s.tree first name parameter)
    (makes' : y.IsAlias s.tree first name other) (differ : y ≠ x) (precedes : x.Precedes y) :
    x.tree.span.start < y.tree.span.start := by
  have formed {z : Site} (mem : z ∈ s.tree.sites) : z.tree.Formed :=
    Site.formed_of_mem_postorder (formed_of_parse parsed) mem
  have binary := makes.kind (formed mem)
  refine start_lt_start parsed mem (by rw [binary]; decide) (by rw [binary]; decide) precedes ?_
  intro within
  exact differ (makes.eq_of_mem (formed mem) within (makes'.kind (formed mem')))

/-- The aliases of a source are those of its nodes, in the order of a walk. -/
theorem aliases_eq (formed : s.tree.Formed) (found : s.tree.constructor? = some first)
    (distinct : first.tree.parameterNames.Nodup) :
    s.aliases = .ok ⟨s.tree.site.preorder.filterMap fun x => x.alias? s.tree first⟩ := by
  rw [aliases, callable_eq formed found distinct]
  show Except.ok (Callable.aliases _ s.arena s.root) = _
  rw [Callable.aliases, s.arena_eq, s.root_eq, ← Tree.id_site,
    Tree.preorder_ofTree formed (Tree.mem_sites_self s.tree), List.filterMap_map]
  rfl

/-- What a name stands for is what the last of its assignments gives it, and that one starts behind
all others. -/
theorem exists_last_alias (parsed : parse file text = .ok s) (inside : first ∈ s.tree.sites)
    (found : (s.tree.site.preorder.filterMap fun x => x.alias? s.tree first).reverse.lookup name
      = some parameter) :
    ∃ x ∈ s.tree.sites, x.IsAlias s.tree first name parameter ∧
      ∀ y ∈ s.tree.sites, ∀ other, y.IsAlias s.tree first name other →
        y = x ∨ y.tree.span.start < x.tree.span.start := by
  have formed := formed_of_parse parsed
  have walk {x : Site} : x ∈ s.tree.site.preorder ↔ x ∈ s.tree.sites :=
    s.tree.site.preorder_perm.mem_iff
  have ordered := Site.pairwise_preorder (isSpaced_of_parse parsed)
  obtain ⟨before, x, after, split, made, none⟩ := exists_last_of_lookup found
  have mem : x ∈ s.tree.sites := walk.mp (by rw [split]; simp)
  have makes := (Site.alias?_eq_some_iff formed inside mem).mp made
  refine ⟨x, mem, makes, fun y mem' other makes' => ?_⟩
  have met := walk.mpr mem'
  rw [split] at met ordered
  rcases List.mem_append.mp met with earlier | met
  · have precedes := (List.pairwise_append.mp ordered).2.2 y earlier x List.mem_cons_self
    refine or_iff_not_imp_left.mpr fun differ => ?_
    exact start_lt_of_precedes parsed mem' mem makes' makes (Ne.symm differ) precedes
  · rcases List.mem_cons.mp met with same | later
    · exact .inl same
    · have made' := (Site.alias?_eq_some_iff formed inside mem').mpr makes'
      exact absurd made' (none y later other)

/-- The name of an alias is a member. -/
theorem mem_members_of_isAlias (formed : s.tree.Formed) (mem : x ∈ s.tree.sites)
    (makes : x.IsAlias s.tree first name parameter) : name ∈ s.shape.members := by
  obtain ⟨value, assigns, named⟩ := makes.assigns
  have walked : x.tree ∈ s.tree.preorder := by
    rw [Tree.preorder_eq_map]
    exact List.mem_map_of_mem (s.tree.site.preorder_perm.mem_iff.mpr mem)
  have valueFormed : value.Formed := by
    obtain ⟨left, form, -⟩ := assigns
    exact Site.formed_of_mem_postorder formed
      (Site.mem_postorder_of_child mem (Site.mem_children_of_binary? form))
  have kind := Tree.kind_of_identifier valueFormed.fits named
  have plain : value.inParentheses? = none := by
    rw [Tree.inParentheses?, kind]
    rfl
  rw [shape_eq formed]
  refine Tree.mem_contributed_iff.mpr ⟨x.tree, walked, .assign, by decide, value, assigns, ?_⟩
  rw [Tree.unwrapped_of_none plain, kind]
  rfl

/-- **The aliases of every source with a valid constructor are its plain assignments of parameters
to state, and the last one decides.**

A name is an alias if and only if some node of the tree makes it one, and it stands for the
parameter that the node which starts last in the source gives it.  Every alias is a member of the
shape. -/
theorem aliases_of_parse (parsed : parse file text = .ok s)
    (found : s.tree.constructor? = some first) (distinct : first.tree.parameterNames.Nodup) :
    ∃ table, s.aliases = .ok table ∧
      (∀ name parameter, table.get? name = some parameter ↔
        ∃ x ∈ s.tree.sites, x.IsAlias s.tree first name parameter ∧
          ∀ y ∈ s.tree.sites, ∀ other, y.IsAlias s.tree first name other →
            y = x ∨ y.tree.span.start < x.tree.span.start) ∧
      (∀ name, (table.get? name).isSome = true ↔
        ∃ x ∈ s.tree.sites, ∃ parameter, x.IsAlias s.tree first name parameter) ∧
      ∀ name, (table.get? name).isSome = true → name ∈ s.shape.members := by
  have formed := formed_of_parse parsed
  have inside : first ∈ s.tree.sites :=
    s.tree.site.preorder_perm.mem_iff.mp (List.mem_of_find?_eq_some found)
  have last {name parameter : String}
      (listed : (s.tree.site.preorder.filterMap fun x => x.alias? s.tree first).reverse.lookup name
        = some parameter) := exists_last_alias parsed inside listed
  have entry {x : Site} {name parameter : String} (mem : x ∈ s.tree.sites)
      (makes : x.IsAlias s.tree first name parameter) := exists_lookup_of_mem
    (f := fun x => x.alias? s.tree first) (s.tree.site.preorder_perm.mem_iff.mpr mem)
    ((Site.alias?_eq_some_iff formed inside mem).mpr makes)
  refine ⟨_, aliases_eq formed found distinct, ?_, ?_, ?_⟩
  · intro name parameter
    refine ⟨last, ?_⟩
    rintro ⟨x, mem, makes, latest⟩
    obtain ⟨other, listed⟩ := entry mem makes
    obtain ⟨y, mem', makes', latest'⟩ := last listed
    -- Each of the two starts last, so they are the same.
    obtain rfl : y = x := by
      rcases latest y mem' other makes' with same | before
      · exact same
      · rcases latest' x mem parameter makes with same | behind
        · exact same.symm
        · exact absurd before (Nat.lt_asymm behind)
    rwa [makes'.parameter_eq makes] at listed
  · intro name
    rw [Option.isSome_iff_exists]
    constructor
    · rintro ⟨parameter, listed⟩
      obtain ⟨x, mem, makes, -⟩ := last listed
      exact ⟨x, mem, parameter, makes⟩
    · rintro ⟨x, mem, parameter, makes⟩
      exact entry mem makes
  · intro name isAlias
    obtain ⟨parameter, listed⟩ := Option.isSome_iff_exists.mp isAlias
    obtain ⟨x, mem, makes, -⟩ := last listed
    exact mem_members_of_isAlias formed mem makes

/-- An alias that is assigned twice, and a third time where the parameter is shadowed. -/
theorem aliases_of_parse_twice : ∃ s, parse "Widget.js"
    "function W(a, b) \x7b this.c = a; W?.prototype.c = b; (b => this.c = b); this.d = (a) \x7d"
      = .ok s ∧ ∃ first, s.tree.constructor? = some first ∧ first.tree.parameterNames.Nodup ∧
    ∃ table, s.aliases = .ok table ∧
      (∀ name parameter, table.get? name = some parameter ↔
        ∃ x ∈ s.tree.sites, x.IsAlias s.tree first name parameter ∧
          ∀ y ∈ s.tree.sites, ∀ other, y.IsAlias s.tree first name other →
            y = x ∨ y.tree.span.start < x.tree.span.start) ∧
      (∀ name, (table.get? name).isSome = true ↔
        ∃ x ∈ s.tree.sites, ∃ parameter, x.IsAlias s.tree first name parameter) ∧
      ∀ name, (table.get? name).isSome = true → name ∈ s.shape.members := by
  refine exists_of_any (q := fun s => s.tree.constructor?.any fun first =>
    first.tree.parameterNames.Nodup) (by decide +kernel) fun s parsed hasFunction => ?_
  obtain ⟨first, found, distinct⟩ := (Option.any_eq_true _ _).mp hasFunction
  have distinct := of_decide_eq_true distinct
  exact ⟨first, found, distinct, aliases_of_parse parsed found distinct⟩

/-- The second assignment decides, and parentheses make no alias. -/
example : ((parse "Widget.js"
    "function W(a, b) \x7b this.c = a; W?.prototype.c = b; (b => this.c = b); this.d = (a) \x7d"
      ).toOption.bind fun s => s.aliases.toOption.map fun table => (table.get? "c", table.get? "d"))
    = some (some "b", none) := by
  decide +kernel

end SourceTree

end Shapewire
