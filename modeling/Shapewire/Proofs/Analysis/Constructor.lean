/-
Whether a source has a constructor to analyse.

Parameters, aliases and usage are all read off the constructor of a source, so they fail where it
has no valid one, and for the same reason.  `SourceTree.Judged` says which reasons there are and
when each applies: no node of the table is a function, or the first function of a walk has two
parameters of one name.  Nothing else goes wrong, because the grammar names every parameter by an
identifier: a function declares exactly as many names as it has parameters (`exists_declares`), and
none is lost when they are collected.

What a walk meets within a node it meets behind the node and in one piece
(`Site.exists_preorder_eq`).  So the first function of a walk lies within no other
(`Site.not_within_of_first`).
-/
import Shapewire.Proofs.Analysis.Usage
import Shapewire.Proofs.Tree.Enclosing

namespace Shapewire

/-! ### What is declared -/

namespace Arena

/-- The node at a place is a parameter that an identifier gives the name. -/
def IsParameter (a : Arena) (name : String) (id : NodeId) : Prop :=
  a.kindIs (· == .parameter) id = true ∧ ∃ rest identifier initializer,
    a.record? id = some (.parameter rest (some identifier) initializer) ∧
      a.isIdentifier identifier = true ∧ a.identifierText? identifier = some name

/-- The function at a place has one parameter of each of these names, in this order, and no
others. -/
def Declares (a : Arena) (id : NodeId) (names : List String) : Prop :=
  ∃ name parameters body arrow, a.record? id = some (.function name parameters body arrow) ∧
    List.Forall₂ (fun name ref => ∃ p, ref = some p ∧ a.IsParameter name p) names parameters

/-- The first function that a walk from a node meets. -/
def IsFirstFunction (a : Arena) (root id : NodeId) : Prop :=
  (a.preorder root).find? a.isFunction = some id

variable {a : Arena} {id : NodeId} {name : String} {names : List String}

theorem IsParameter.parameterName? (h : a.IsParameter name id) :
    a.parameterName? (some id) = some name := by
  obtain ⟨-, rest, identifier, initializer, record, -, text⟩ := h
  simp only [Arena.parameterName?, Option.bind_some, record, text]

/-- The names that a function declares are those that are collected. -/
theorem Declares.eq (h : a.Declares id names) : a.parameterNames id = names := by
  obtain ⟨_, parameters, _, _, record, each⟩ := h
  simp only [parameterNames, record]
  clear record
  induction each with
  | nil => rfl
  | cons named _ ih =>
    obtain ⟨p, rfl, isParameter⟩ := named
    rw [List.filterMap_cons, isParameter.parameterName?, ih]

/-- Where every slot of a list refers to a node, each refers to a node of one of the kinds found. -/
theorem exists_of_mapM_kindAt? {refs : List NodeRef} {ks : List NodeKind}
    (kinds : refs.mapM (·.bind a.kindAt?) = some ks) : ∀ ref ∈ refs, ∃ p, ref = some p ∧
      ∃ k ∈ ks, a.kindAt? p = some k := by
  induction refs generalizing ks with
  | nil => nofun
  | cons ref refs ih =>
    simp only [List.mapM_cons, Option.bind_eq_bind, Option.bind_eq_some_iff] at kinds
    obtain ⟨k, ⟨p, rfl, kind⟩, ks, rest, same⟩ := kinds
    cases same
    intro ref mem
    rcases List.mem_cons.mp mem with rfl | mem
    · exact ⟨p, rfl, k, List.mem_cons_self, kind⟩
    · obtain ⟨q, same, k', inside, kind'⟩ := ih rest ref mem
      exact ⟨q, same, k', List.mem_cons_of_mem _ inside, kind'⟩

theorem kindIs_of_kindAt? {k : NodeKind} (kind : a.kindAt? id = some k) (p : NodeKind → Bool) :
    a.kindIs p id = p k := by
  obtain ⟨n, found, rfl⟩ := Option.map_eq_some_iff.mp kind
  simp [kindIs, found]

section declares

variable (typed : a.Typed) (each : ∀ id n, a.get? id = some n → a.WellKinded n)

include typed

/-- A node of a kind that has a record has one of that form. -/
theorem Typed.exists_record {n : Node} {p : Pool} (found : a.get? id = some n)
    (form : n.kind.pool? = some p) : ∃ r, a.recordOf n = some r ∧ r.pool = p := by
  have carries := (typed.carries id n found).mpr (by rw [form]; rfl)
  obtain ⟨p', r, form', read, pool⟩ := typed.answered id n found carries
  obtain rfl := Option.some.inj (form.symm.trans form')
  exact ⟨r, by rw [recordOf_eq_read, form, Option.bind_some, read], pool⟩

/-- An identifier has a name. -/
theorem Typed.exists_identifierText? (isIdentifier : a.kindAt? id = some (.token .identifier)) :
    ∃ name, a.identifierText? id = some name := by
  obtain ⟨n, found, kind⟩ := Option.map_eq_some_iff.mp isIdentifier
  obtain ⟨r, record, pool⟩ := typed.exists_record found (p := .identifiers) (by rw [kind]; rfl)
  cases r with
  | identifier atom =>
    refine ⟨a.names.resolve atom, ?_⟩
    simp only [identifierText?, record?, found, Option.bind_some, record]
  | _ => cases pool

include each

/-- Every parameter is named by an identifier. -/
theorem exists_isParameter (isParameter : a.kindAt? id = some .parameter) :
    ∃ name, a.IsParameter name id := by
  obtain ⟨n, found, kind⟩ := Option.map_eq_some_iff.mp isParameter
  obtain ⟨r, record, pool⟩ := typed.exists_record found (p := .parameters) (by rw [kind]; rfl)
  have allowed := each id n found
  rw [WellKinded, record] at allowed
  obtain ⟨ks, kinds, allowed⟩ := allowed
  cases r with
  | parameter rest nameRef initializer =>
    simp only [kinds?, Record.mapM, Option.bind_eq_bind, Option.bind_eq_some_iff] at kinds
    obtain ⟨k, ⟨identifier, rfl, kind'⟩, value, -, same⟩ := kinds
    cases same
    have isIdentifier : k = .token .identifier := by
      rw [kind] at allowed
      cases allowed <;> rfl
    rw [isIdentifier] at kind'
    obtain ⟨name, text⟩ := typed.exists_identifierText? kind'
    refine ⟨name, ?_, rest, identifier, initializer, ?_, ?_, text⟩
    · rw [kindIs_of_kindAt? isParameter]
      rfl
    · rw [record?, found, Option.bind_some, record]
    · rw [Arena.isIdentifier, kindIs_of_kindAt? kind']
      rfl
  | _ => cases pool

/-- Nodes that are parameters have names. -/
theorem exists_names {refs : List NodeRef}
    (parameters : ∀ ref ∈ refs, ∃ p, ref = some p ∧ a.kindAt? p = some .parameter) :
    ∃ names, List.Forall₂ (fun name ref => ∃ p, ref = some p ∧ a.IsParameter name p) names refs := by
  induction refs with
  | nil => exact ⟨[], .nil⟩
  | cons ref refs ih =>
    obtain ⟨names, rest⟩ := ih fun ref mem => parameters ref (List.mem_cons_of_mem _ mem)
    obtain ⟨p, same, kind⟩ := parameters ref List.mem_cons_self
    obtain ⟨name, isParameter⟩ := exists_isParameter typed each kind
    exact ⟨name :: names, .cons ⟨p, same, isParameter⟩ rest⟩

/-- **A function declares a name for each of its parameters.** -/
theorem exists_declares (isFunction : a.isFunction id = true) : ∃ names, a.Declares id names := by
  obtain ⟨n, found, isFunction⟩ := (Option.any_eq_true _ _).mp isFunction
  rw [NodeKind.isFunction_eq] at isFunction
  obtain ⟨r, record, pool⟩ := typed.exists_record found (of_decide_eq_true isFunction)
  have allowed := each id n found
  rw [WellKinded, record] at allowed
  obtain ⟨ks, kinds, allowed⟩ := allowed
  cases r with
  | function name parameters body arrow =>
    simp only [kinds?, Record.mapM, Option.bind_eq_bind, Option.bind_eq_some_iff] at kinds
    obtain ⟨nameKind, -, parameterKinds, kinds, bodyKind, -, same⟩ := kinds
    cases same
    have only : ∀ k ∈ parameterKinds, k = .parameter := by
      generalize n.kind = kind at allowed
      cases allowed <;> assumption
    have areParameters : ∀ ref ∈ parameters,
        ∃ p, ref = some p ∧ a.kindAt? p = some .parameter := by
      intro ref mem
      obtain ⟨p, same, k, inside, kind⟩ := exists_of_mapM_kindAt? kinds ref mem
      exact ⟨p, same, only k inside ▸ kind⟩
    obtain ⟨names, named⟩ := exists_names typed each areParameters
    refine ⟨names, name, parameters, body, arrow, ?_, named⟩
    rw [record?, found, Option.bind_some, record]
  | _ => cases pool

end declares

end Arena

/-! ### The first name that repeats -/

/-- The name at a position of a list occurs before that position. -/
def RepeatsAt (names : List String) (i : Nat) : Prop :=
  ∃ name, names[i]? = some name ∧ name ∈ names.take i

/-- What is found repeats a name before it or one that was seen, and nothing before it does. -/
theorem firstRepeat?_eq_some_iff {seen names : List String} {name : String} :
    firstRepeat? seen names = some name ↔ ∃ i, names[i]? = some name ∧
      (name ∈ seen ∨ name ∈ names.take i) ∧
      ∀ k < i, ∀ other, names[k]? = some other → other ∉ seen ∧ other ∉ names.take k := by
  induction names generalizing seen with
  | nil => simp [firstRepeat?]
  | cons head names ih =>
    rw [firstRepeat?]
    by_cases old : head ∈ seen
    · rw [if_pos old]
      constructor
      · rintro ⟨rfl⟩
        exact ⟨0, rfl, .inl old, fun k below => absurd below (Nat.not_lt_zero k)⟩
      · rintro ⟨i, here, -, before⟩
        cases i with
        | zero => exact here
        | succ i => exact absurd old (before 0 (Nat.succ_pos i) head rfl).1
    · rw [if_neg old, ih]
      constructor
      · rintro ⟨i, here, repeats, before⟩
        refine ⟨i + 1, here, ?_, ?_⟩
        · simpa [or_assoc, or_comm, or_left_comm] using repeats
        · rintro (_ | k) below other here'
          · obtain rfl := Option.some.inj here'
            exact ⟨old, List.not_mem_nil⟩
          · have := before k (Nat.lt_of_succ_lt_succ below) other here'
            simpa [and_assoc, and_comm, and_left_comm] using this
      · rintro ⟨i, here, repeats, before⟩
        cases i with
        | zero =>
          obtain rfl := Option.some.inj here
          simp [old] at repeats
        | succ i =>
          refine ⟨i, here, ?_, ?_⟩
          · simpa [or_assoc, or_comm, or_left_comm] using repeats
          · intro k below other here'
            have := before (k + 1) (Nat.succ_lt_succ below) other here'
            simpa [and_assoc, and_comm, and_left_comm] using this

/-- The first name that occurs a second time stands at the first position of such. -/
theorem firstRepeat?_nil_eq_some_iff {names : List String} {name : String} :
    firstRepeat? [] names = some name ↔
      ∃ i, names[i]? = some name ∧ RepeatsAt names i ∧ ∀ k < i, ¬RepeatsAt names k := by
  rw [firstRepeat?_eq_some_iff]
  refine exists_congr fun i => and_congr_right fun here => and_congr ?_ ?_
  · simp [RepeatsAt, here]
  · refine forall₂_congr fun k _ => ?_
    simp [RepeatsAt]

/-! ### The first function of a walk -/

namespace Site

/-- A walk meets what lies within a site in one piece. -/
theorem exists_preorder_eq {s y : Site} (mem : y ∈ s.postorder) :
    ∃ before after, s.preorder = before ++ y.preorder ++ after := by
  induction s using byChildren with
  | step s ih =>
    rw [postorder_eq] at mem
    rcases List.mem_append.mp mem with mem | mem
    · obtain ⟨c, child, mem⟩ := List.mem_flatMap.mp mem
      obtain ⟨before, after, within⟩ := ih c child mem
      obtain ⟨left, right, row⟩ := List.append_of_mem child
      refine ⟨s :: left.flatMap preorder ++ before, after ++ right.flatMap preorder, ?_⟩
      rw [preorder_eq, row]
      simp [within]
    · rw [List.mem_singleton.mp mem]
      exact ⟨[], [], by simp⟩

/-- **The first site of a walk that is so lies within no other that is.** -/
theorem not_within_of_first {s x g : Site} {p : Site → Bool} (first : s.preorder.find? p = some x)
    (mem : g ∈ s.postorder) (within : x ∈ g.postorder) (other : x ≠ g) : p g = false := by
  obtain ⟨before, after, walk⟩ := exists_preorder_eq mem
  have distinct : s.preorder.Nodup :=
    (preorder_perm _).nodup_iff.mpr (.of_map _ (nodup_map_id_postorder _))
  rw [walk, List.append_assoc] at first distinct
  have apart := List.disjoint_of_nodup_append distinct
  have inside := List.mem_append_left after ((preorder_perm g).mem_iff.mpr within)
  rw [List.find?_append] at first
  rcases Option.or_eq_some_iff.mp first with found | ⟨-, found⟩
  · exact absurd inside (apart (List.mem_of_find?_eq_some found))
  · rw [preorder_eq, List.cons_append, List.find?_cons] at found
    cases accepted : p g with
    | false => rfl
    | true =>
      rw [accepted] at found
      exact absurd (Option.some.inj found).symm other

end Site

namespace Tree

variable {t : Tree} (formed : t.Formed)

include formed

/-- The function that is found is the first that a walk of the table meets. -/
theorem firstFunction?_eq_find? : (Arena.ofTree t).firstFunction? t.site.id
    = ((Arena.ofTree t).preorder t.site.id).find? (Arena.ofTree t).isFunction := by
  rw [firstFunction_ofTree formed (mem_sites_self t), preorder_ofTree formed (mem_sites_self t),
    List.find?_map]
  refine congrArg (Option.map Site.id) (List.find?_congr fun y within => ?_)
  exact (kindIs_ofTree formed (mem_sites_of_mem_preorder (mem_sites_self t) within) _).symm

/-- A walk meets every node. -/
theorem mem_preorder_of_isFunction {id : NodeId}
    (isFunction : (Arena.ofTree t).isFunction id = true) :
    id ∈ (Arena.ofTree t).preorder t.site.id := by
  obtain ⟨n, found, -⟩ := (Option.any_eq_true _ _).mp isFunction
  obtain ⟨x, mem, rfl⟩ := exists_site_of_get? formed found
  rw [preorder_ofTree formed (mem_sites_self t)]
  exact List.mem_map_of_mem ((Site.preorder_perm _).mem_iff.mpr mem)

/-- No function is around the first that a walk meets. -/
theorem isFunction_ancestor_of_first {first id : NodeId}
    (isFirst : (Arena.ofTree t).IsFirstFunction t.site.id first)
    (ancestor : id ∈ (Arena.ofTree t).ancestors first) :
    (Arena.ofTree t).isFunction id = false := by
  rw [Arena.IsFirstFunction, ← firstFunction?_eq_find? formed,
    firstFunction_ofTree formed (mem_sites_self t), Option.map_eq_some_iff] at isFirst
  obtain ⟨x, found, rfl⟩ := isFirst
  have mem := mem_sites_of_mem_preorder (mem_sites_self t) (List.mem_of_find?_eq_some found)
  obtain ⟨g, inside, rfl⟩ := exists_site_of_mem_ancestors formed mem ancestor
  obtain ⟨within, other⟩ := (mem_ancestors_ofTree formed inside mem).mp ancestor
  rw [Arena.isFunction, kindIs_ofTree formed inside]
  exact Site.not_within_of_first found inside within other

end Tree

/-! ### Sources -/

namespace SourceTree

/-- A source has a constructor to analyse, or it is said why it has none. -/
structure Judged (s : SourceTree) : Prop where
  /-- Aliases are missing where parameters are, for the same reason. -/
  aliases : ∀ e, s.aliases = .error e ↔ s.parameters = .error e
  /-- Usage is missing where parameters are, for the same reason. -/
  usage : ∀ e, s.usage = .error e ↔ s.parameters = .error e
  /-- No node of the source is a function. -/
  noFunction : ∀ file, s.parameters = .error (.noFunction file) ↔
    file = s.file ∧ ∀ id, s.arena.isFunction id = false
  /-- The first function has two parameters of one name, and this one repeats first. -/
  duplicate : ∀ file name, s.parameters = .error (.duplicateParameter file name) ↔
    file = s.file ∧ ∃ first names i, s.arena.IsFirstFunction s.root first ∧
      s.arena.Declares first names ∧ names[i]? = some name ∧ RepeatsAt names i ∧
      ∀ k < i, ¬RepeatsAt names k
  /-- There is no other reason. -/
  reasons : ∀ e, s.parameters = .error e →
    (∃ file, e = .noFunction file) ∨ ∃ file name, e = .duplicateParameter file name
  /-- The parameters are those of the first function. -/
  parameters : ∀ names, s.parameters = .ok names ↔ ∃ first,
    s.arena.IsFirstFunction s.root first ∧ s.arena.Declares first names ∧ names.Nodup
  /-- The keys of the usage are the parameters. -/
  keys : ∀ record, s.usage = .ok record → s.parameters = .ok record.parameters
  /-- The first function lies in no other. -/
  outermost : ∀ first, s.arena.IsFirstFunction s.root first →
    ∀ id ∈ s.arena.ancestors first, s.arena.isFunction id = false

variable {file text : String} {s : SourceTree}

/-- What is read off the constructor is missing where that is. -/
theorem map_callable_eq_error_iff {α : Type} {f : Callable → α} {e : AnalyzeError} :
    f <$> s.callable = .error e ↔ s.callable = .error e := by
  cases s.callable <;> simp [Functor.map, Except.map]

theorem aliases_eq_error_iff {e : AnalyzeError} :
    s.aliases = .error e ↔ s.parameters = .error e :=
  map_callable_eq_error_iff.trans map_callable_eq_error_iff.symm

theorem usage_eq_error_iff {e : AnalyzeError} : s.usage = .error e ↔ s.parameters = .error e :=
  map_callable_eq_error_iff.trans map_callable_eq_error_iff.symm

/-- The keys of the usage are the parameters. -/
theorem parameters_of_usage {record : UsageRecord} (used : s.usage = .ok record) :
    s.parameters = .ok record.parameters := by
  unfold usage at used
  unfold parameters
  cases found : s.callable with
  | error e =>
    rw [found] at used
    cases used
  | ok c =>
    rw [found] at used
    cases used
    simp [Functor.map, Except.map, UsageRecord.parameters, Callable.usage, Function.comp_def]

/-- The function that the constructor is. -/
theorem firstFunction?_eq (formed : s.tree.Formed) : s.arena.firstFunction? s.root
    = (s.arena.preorder s.root).find? s.arena.isFunction := by
  rw [s.arena_eq, s.root_eq, ← Tree.id_site]
  exact Tree.firstFunction?_eq_find? formed

/-- A source without a function has no constructor. -/
theorem parameters_of_none (formed : s.tree.Formed)
    (none : (s.arena.preorder s.root).find? s.arena.isFunction = none) :
    s.parameters = .error (.noFunction s.file) := by
  simp only [parameters, callable, Callable.find, firstFunction?_eq formed, none]
  rfl

/-- Where no node is a function, the source is judged to have none. -/
theorem Judged.of_none (formed : s.tree.Formed)
    (none : (s.arena.preorder s.root).find? s.arena.isFunction = none) : s.Judged := by
  have missing := parameters_of_none formed none
  have noFirst {first : NodeId} : ¬s.arena.IsFirstFunction s.root first := by
    rw [Arena.IsFirstFunction, none]
    nofun
  have noFunction (id : NodeId) : s.arena.isFunction id = false := by
    rw [Bool.eq_false_iff]
    intro isFunction
    refine List.find?_eq_none.mp none id ?_ isFunction
    rw [s.arena_eq] at isFunction ⊢
    rw [s.root_eq, ← Tree.id_site]
    exact Tree.mem_preorder_of_isFunction formed isFunction
  refine ⟨fun _ => aliases_eq_error_iff, fun _ => usage_eq_error_iff, ?_, ?_, ?_, ?_, ?_, ?_⟩
  · intro file
    simp [missing, noFunction, eq_comm]
  · intro file name
    simp [missing, noFirst]
  · intro e failed
    exact .inl ⟨s.file, Except.error.inj (failed.symm.trans missing)⟩
  · intro names
    simp [missing, noFirst]
  · exact fun record => parameters_of_usage
  · exact fun first isFirst => absurd isFirst noFirst

section first

variable {first : NodeId} {names : List String} (formed : s.tree.Formed)
  (isFirst : s.arena.IsFirstFunction s.root first) (declares : s.arena.Declares first names)

include formed isFirst declares

/-- A source with a function has its parameters, unless a name repeats. -/
theorem parameters_of_first : s.parameters = match firstRepeat? [] names with
    | some name => .error (.duplicateParameter s.file name)
    | none => .ok names := by
  rw [Arena.IsFirstFunction] at isFirst
  simp only [parameters, callable, Callable.find, firstFunction?_eq formed, isFirst, declares.eq]
  cases firstRepeat? [] names <;> rfl

omit formed in
/-- There is one first function, and it declares one list of names. -/
theorem names_eq_of_first {first' : NodeId} {names' : List String}
    (isFirst' : s.arena.IsFirstFunction s.root first') (declares' : s.arena.Declares first' names') :
    names' = names := by
  obtain rfl := Option.some.inj (isFirst'.symm.trans isFirst)
  exact declares'.eq.symm.trans declares.eq

theorem parameters_eq_duplicate_iff {file name : String} :
    s.parameters = .error (.duplicateParameter file name) ↔
      file = s.file ∧ ∃ first names i, s.arena.IsFirstFunction s.root first ∧
        s.arena.Declares first names ∧ names[i]? = some name ∧ RepeatsAt names i ∧
        ∀ k < i, ¬RepeatsAt names k := by
  have judged := parameters_of_first formed isFirst declares
  constructor
  · intro failed
    rw [judged] at failed
    split at failed
    · rename_i repeated
      cases failed
      obtain ⟨i, here, repeats, before⟩ := firstRepeat?_nil_eq_some_iff.mp repeated
      exact ⟨rfl, first, names, i, isFirst, declares, here, repeats, before⟩
    · cases failed
  · rintro ⟨rfl, first', names', i, isFirst', declares', here, repeats, before⟩
    obtain rfl := names_eq_of_first isFirst declares isFirst' declares'
    rw [judged, firstRepeat?_nil_eq_some_iff.mpr ⟨i, here, repeats, before⟩]

theorem parameters_eq_ok_iff {names' : List String} :
    s.parameters = .ok names' ↔ ∃ first,
      s.arena.IsFirstFunction s.root first ∧ s.arena.Declares first names' ∧ names'.Nodup := by
  have judged := parameters_of_first formed isFirst declares
  have distinct : firstRepeat? [] names = none ↔ names.Nodup := by
    simp [firstRepeat?_eq_none_iff]
  constructor
  · intro found
    rw [judged] at found
    split at found
    · cases found
    · rename_i none
      obtain rfl := Except.ok.inj found
      exact ⟨first, isFirst, declares, distinct.mp none⟩
  · rintro ⟨first', isFirst', declares', nodup⟩
    obtain rfl := names_eq_of_first isFirst declares isFirst' declares'
    rw [judged, distinct.mpr nodup]

/-- Where there is a function, the names that the first declares decide. -/
theorem Judged.of_first : s.Judged := by
  have judged := parameters_of_first formed isFirst declares
  have isFunction : s.arena.isFunction first = true := List.find?_some isFirst
  refine ⟨fun _ => aliases_eq_error_iff, fun _ => usage_eq_error_iff, ?_,
    fun _ _ => parameters_eq_duplicate_iff formed isFirst declares, ?_,
    fun _ => parameters_eq_ok_iff formed isFirst declares, ?_, ?_⟩
  · intro file
    constructor
    · intro failed
      rw [judged] at failed
      split at failed <;> cases failed
    · rintro ⟨-, noFunction⟩
      cases (noFunction first).symm.trans isFunction
  · intro e failed
    rw [judged] at failed
    split at failed
    · exact .inr ⟨s.file, _, (Except.error.inj failed).symm⟩
    · cases failed
  · exact fun record => parameters_of_usage
  · intro first isFirst id ancestor
    rw [s.arena_eq] at isFirst ancestor ⊢
    rw [s.root_eq, ← Tree.id_site] at isFirst
    exact Tree.isFunction_ancestor_of_first formed isFirst ancestor

end first

/-- **Every source that parses has the parameters of its first function, or it is said why not.** -/
theorem judged_of_parse (parsed : parse file text = .ok s) : s.file = file ∧ s.Judged := by
  have formed := formed_of_parse parsed
  refine ⟨(file_text_of_parse parsed).1, ?_⟩
  cases found : (s.arena.preorder s.root).find? s.arena.isFunction with
  | none => exact .of_none formed found
  | some first =>
    have typed : s.arena.Typed := s.arena_eq ▸ Tree.typed_ofTree formed
    have each (id : NodeId) (n : Node) (found : s.arena.get? id = some n) :
        s.arena.WellKinded n := by
      rw [s.arena_eq] at found ⊢
      exact Tree.wellKinded_ofTree formed (everywhere_wellKinded_of_parse parsed) found
    obtain ⟨names, declares⟩ := Arena.exists_declares typed each (List.find?_some found)
    exact .of_first formed found declares

/-- A constructor with a function in the default of a parameter, and a name that repeats. -/
theorem judged_of_parse_twice : ∃ s, parse "Widget.js"
    "(function (a, b = c => c, ...a) { this.b = b; function b(a, a) { } })" = .ok s ∧
      s.file = "Widget.js" ∧ s.Judged :=
  exists_of_any (q := fun _ => true) (by decide +kernel) fun _ parsed _ => judged_of_parse parsed

/-- The name that repeats first is the one that is reported, of the outer function. -/
example : (parse "Widget.js"
    "(function (a, b = c => c, ...a) { this.b = b; function b(a, a) { } })").toOption.map
      SourceTree.parameters = some (.error (.duplicateParameter "Widget.js" "a")) := by
  decide +kernel

end SourceTree

end Shapewire
