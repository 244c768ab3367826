/-
The analyses know names only by whether they are equal, and the word `prototype`.

`Arena.Renames f a a'` says that the table `a'` is the table `a` under other names: whatever an
identifier is called in `a`, `f` says what it is called in `a'`.  Kinds, records and parents are the
same, and `f` confuses no names and leaves `prototype` alone; where nodes lie is left open.  Each
reader of a table then finds in `a'` what it finds in `a`, with its names changed by `f`, and so
does each analysis in turn (`Arena.Renames.findings`).

The tables of parsed sources can be renamed (`Arena.renames_renamed`): there is a name for every
identifier in them, and so nothing is called by the empty name for the lack of one.
-/
import Mathlib.Logic.Equiv.Basic
import Shapewire.Analysis.Shape
import Shapewire.Analysis.Usage
import Shapewire.Proofs.Analysis.Scope

namespace Shapewire

/-! ### Lists of names -/

section lists

variable {f : String → String} (injective : Function.Injective f)

include injective

theorem firstRepeat?_map (seen names : List String) :
    firstRepeat? (seen.map f) (names.map f) = (firstRepeat? seen names).map f := by
  induction names generalizing seen with
  | nil => rfl
  | cons name names ih =>
    rw [List.map_cons, firstRepeat?, firstRepeat?, ← List.map_cons, ih]
    by_cases repeated : name ∈ seen
    · rw [if_pos repeated, if_pos (List.mem_map_of_mem repeated)]
      rfl
    · have fresh : f name ∉ seen.map f := by rwa [List.mem_map_of_injective injective]
      rw [if_neg repeated, if_neg fresh]

theorem contains_map (names : List String) (name : String) :
    (names.map f).contains (f name) = names.contains name := by
  simp only [List.contains_eq_mem, List.mem_map_of_injective injective]

theorem eraseDups_map (names : List String) : (names.map f).eraseDups = names.eraseDups.map f := by
  induction h : names.length using Nat.strong_induction_on generalizing names with
  | _ n ih =>
    cases names with
    | nil => rfl
    | cons name names =>
      have others : (names.map f).filter (fun x => !x == f name)
          = (names.filter fun x => !x == name).map f := by
        rw [List.filter_map]
        congr 1
        refine List.filter_congr fun x _ => ?_
        simp [injective.eq_iff]
      have shorter := List.length_filter_le (fun x => !x == name) names
      rw [List.length_cons] at h
      rw [List.map_cons, List.eraseDups_cons, List.eraseDups_cons, List.map_cons, others,
        ih _ (by omega) _ rfl]

theorem lookup_map (table : List (String × String)) (name : String) :
    (table.map (Prod.map f f)).lookup (f name) = (table.lookup name).map f := by
  induction table with
  | nil => rfl
  | cons entry table ih =>
    obtain ⟨key, value⟩ := entry
    have same : (f name == f key) = (name == key) := by
      rw [Bool.eq_iff_iff, beq_iff_eq, beq_iff_eq, injective.eq_iff]
    rw [List.map_cons, Prod.map_apply, List.lookup_cons, List.lookup_cons, ih, same]
    cases name == key <;> rfl

end lists

/-! ### Results under other names -/

section renamed

variable (f : String → String)

/-- The constructor under other names. -/
def Callable.renamed (c : Callable) : Callable := { c with parameters := c.parameters.map f }

/-- The error under other names: the one that names a parameter names it differently. -/
def AnalyzeError.renamed : AnalyzeError → AnalyzeError
  | duplicateParameter file name => duplicateParameter file (f name)
  | e => e

/-- The aliases under other names. -/
def AliasTable.renamed (t : AliasTable) : AliasTable := ⟨t.assigned.map (Prod.map f f)⟩

/-- The access under other names. -/
def Access.renamed (x : Access) : Access := { x with parameter := f x.parameter, name := f x.name }

/-- The usage under other names. -/
def Usage.renamed (u : Usage) : Usage := ⟨u.members.map f, u.methods.map f⟩

/-- The usage of every parameter under other names. -/
def UsageRecord.renamed (r : UsageRecord) : UsageRecord :=
  ⟨r.entries.map (Prod.map f (Usage.renamed f))⟩

/-- The shape under other names. -/
def Shape.renamed (s : Shape) : Shape := ⟨s.members.map f, s.methods.map f⟩

variable {f : String → String} (injective : Function.Injective f)

include injective

/-- An alias stands for the same parameter, under their other names. -/
theorem AliasTable.get?_renamed (t : AliasTable) (name : String) :
    (t.renamed f).get? (f name) = (t.get? name).map f := by
  rw [AliasTable.get?, AliasTable.get?, AliasTable.renamed, ← List.map_reverse,
    lookup_map injective]

theorem Callable.usageOf_renamed (accesses : List Access) (parameter : String) :
    Callable.usageOf (accesses.map (Access.renamed f)) (f parameter)
      = (Callable.usageOf accesses parameter).renamed f := by
  have named (called : Bool) : ((accesses.map (Access.renamed f)).filter fun x =>
        x.parameter == f parameter && x.called == called).map Access.name
      = ((accesses.filter fun x => x.parameter == parameter && x.called == called).map
        Access.name).map f := by
    have same : (fun x : Access => x.parameter == f parameter && x.called == called)
        ∘ Access.renamed f = fun x => x.parameter == parameter && x.called == called := by
      funext x
      simp only [Function.comp_apply, Access.renamed]
      congr 1
      rw [Bool.eq_iff_iff, beq_iff_eq, beq_iff_eq, injective.eq_iff]
    rw [List.filter_map, same, List.map_map, List.map_map]
    rfl
  simp only [Callable.usageOf, named]
  rfl

end renamed

/-! ### Tables under other names -/

namespace Arena

/-- An identifier is not the instance itself, whatever it is called. -/
theorem selfStateName?_of_isIdentifier {a : Arena} {id object : NodeId} {name : String}
    (access : a.memberAccess? id = some (some object, name))
    (identifier : a.isIdentifier object = true) : a.selfStateName? id = none := by
  unfold isIdentifier kindIs at identifier
  cases found : a.get? object with
  | none => simp [found] at identifier
  | some n =>
    simp only [found, Option.any_some, beq_iff_eq] at identifier
    have notThis : a.isThis object = false := by simp [isThis, kindIs, found, identifier]
    have notPrototype : a.isPrototype object = false := by
      simp [isPrototype, memberAccess?_eq, kindIs, found, identifier]
    simp [selfStateName?, access, notThis, notPrototype]

/-- The table `a'` is the table `a` under the names that `f` gives, wherever its nodes lie. -/
structure Renames (f : String → String) (a a' : Arena) : Prop where
  /-- Different names stay different. -/
  injective : Function.Injective f
  /-- The one word that is looked for is left alone. -/
  prototype : f "prototype" = "prototype"
  size : a'.size = a.size
  parent : ∀ id, a'.parent? id = a.parent? id
  /-- There are nodes at the same places, of the same kinds and with the same records. -/
  node : ∀ id, (a.get? id = none ∧ a'.get? id = none) ∨ ∃ n n', a.get? id = some n ∧
    a'.get? id = some n' ∧ n'.kind = n.kind ∧ a'.recordOf n' = a.recordOf n
  /-- Every identifier is called what `f` says. -/
  name : ∀ id atom, a.record? id = some (.identifier atom) →
    a'.names.resolve atom = f (a.names.resolve atom)

namespace Renames

variable {f : String → String} {a a' : Arena} (h : Renames f a a')

include h

/-! #### Nodes -/

theorem kindIs (p : NodeKind → Bool) (id : NodeId) : a'.kindIs p id = a.kindIs p id := by
  rcases h.node id with ⟨none, none'⟩ | ⟨n, n', found, found', kind, -⟩
  · simp [Arena.kindIs, none, none']
  · simp [Arena.kindIs, found, found', kind]

theorem isFunction (id : NodeId) : a'.isFunction id = a.isFunction id := h.kindIs _ id

theorem record? (id : NodeId) : a'.record? id = a.record? id := by
  rcases h.node id with ⟨none, none'⟩ | ⟨n, n', found, found', -, record⟩
  · simp [Arena.record?, none, none']
  · simp [Arena.record?, found, found', record]

theorem children (id : NodeId) : a'.children id = a.children id := by
  rcases h.node id with ⟨none, none'⟩ | ⟨n, n', found, found', kind, record⟩
  · simp [Arena.children, none, none']
  · simp [Arena.children, found, found', kind, record]

theorem ancestors (id : NodeId) : a'.ancestors id = a.ancestors id := by
  have within (n : Nat) (id : NodeId) : a'.ancestorsWithin n id = a.ancestorsWithin n id := by
    induction n generalizing id with
    | zero => rfl
    | succ n ih => simp only [ancestorsWithin, h.parent, ih]
  rw [Arena.ancestors, within, h.size]
  rfl

/-! #### Names -/

theorem identifierText? (id : NodeId) : a'.identifierText? id = (a.identifierText? id).map f := by
  rw [identifierText?_eq, identifierText?_eq, h.record?]
  cases found : a.record? id with
  | none => rfl
  | some r =>
    cases r
    case identifier atom => exact congrArg some (h.name id atom found)
    all_goals rfl

theorem parameterName? (ref : NodeRef) :
    a'.parameterName? ref = (a.parameterName? ref).map f := by
  have names (name : NodeRef) :
      name.bind a'.identifierText? = (name.bind a.identifierText?).map f := by
    rw [Option.map_bind, funext h.identifierText?]
    rfl
  simp only [parameterName?_eq, funext h.record?, names, Option.map_bind, Function.comp_def]

theorem parameterNames (id : NodeId) : a'.parameterNames id = (a.parameterNames id).map f := by
  rw [parameterNames_eq, parameterNames_eq, h.record?]
  cases (a.record? id).bind Record.signature? with
  | none => rfl
  | some signature =>
    simp only [Option.map_some, Option.getD_some, List.map_filterMap, funext h.parameterName?]

/-! #### Walks -/

theorem walk (stop : NodeId → Bool) (stack : List (Nat × NodeId)) :
    a'.walk stop stack = a.walk stop stack := by
  fun_induction a.walk stop stack with
  | case1 => rw [Arena.walk]
  | case2 id stack ih => rw [Arena.walk, ih]
  | case3 levels id stack stops => rw [Arena.walk, if_pos stops]
  | case4 levels id stack goesOn ih => rw [Arena.walk, if_neg goesOn, h.children, ih]

theorem isSome_get? (id : NodeId) : (a'.get? id).isSome = (a.get? id).isSome := by
  rcases h.node id with ⟨none, none'⟩ | ⟨n, n', found, found', -⟩
  · rw [none, none']
  · rw [found, found']
    rfl

theorem preorder (root : NodeId) : a'.preorder root = a.preorder root := by
  simp only [Arena.preorder, rootStack, h.size, h.walk, h.isSome_get?]

theorem firstFunction? (root : NodeId) : a'.firstFunction? root = a.firstFunction? root := by
  simp only [Arena.firstFunction?, rootStack, h.size, h.walk, ← Option.not_isSome, h.isSome_get?,
    h.isFunction, funext h.isFunction]

/-! #### What a constructor does to its instances -/

theorem memberAccess? (id : NodeId) :
    a'.memberAccess? id = (a.memberAccess? id).map fun (object, name) => (object, f name) := by
  rw [memberAccess?_eq, memberAccess?_eq, h.kindIs, h.record?]
  split
  · cases (a.record? id).bind Record.access? with
    | none => rfl
    | some both =>
      obtain ⟨object, name⟩ := both
      cases name with
      | none => rfl
      | some name =>
        simp only [Option.bind_some, h.identifierText?, Option.map_map, Function.comp_def]
  · rfl

/-- Only the word itself is called `prototype`. -/
theorem beq_prototype (name : String) : (f name == "prototype") = (name == "prototype") := by
  rw [Bool.eq_iff_iff, beq_iff_eq, beq_iff_eq]
  conv => lhs; rw [← h.prototype]
  exact h.injective.eq_iff

theorem isPrototype (id : NodeId) : a'.isPrototype id = a.isPrototype id := by
  rw [Arena.isPrototype, Arena.isPrototype, h.memberAccess?]
  cases a.memberAccess? id with
  | none => rfl
  | some both =>
    obtain ⟨object, name⟩ := both
    cases object with
    | none => rfl
    | some owner =>
      simp only [Option.map_some, isIdentifier, h.kindIs, h.beq_prototype]

theorem selfStateName? (id : NodeId) : a'.selfStateName? id = (a.selfStateName? id).map f := by
  rw [Arena.selfStateName?, Arena.selfStateName?, h.memberAccess?]
  cases a.memberAccess? id with
  | none => rfl
  | some both =>
    obtain ⟨object, name⟩ := both
    cases object with
    | none => rfl
    | some object =>
      have own : (a'.isThis object || a'.isPrototype object)
          = (a.isThis object || a.isPrototype object) := by
        rw [isThis, isThis, h.kindIs, h.isPrototype]
      show (if (a'.isThis object || a'.isPrototype object) = true then some (f name) else none)
        = (if (a.isThis object || a.isPrototype object) = true then some name else none).map f
      rw [own]
      cases a.isThis object || a.isPrototype object <;> rfl

theorem isCallee (id : NodeId) : a'.isCallee id = a.isCallee id := by
  simp only [Arena.isCallee, h.parent, h.kindIs, h.record?]

theorem withoutParentheses (n : Nat) (ref : NodeRef) :
    a'.withoutParentheses n ref = a.withoutParentheses n ref := by
  induction n generalizing ref with
  | zero => rfl
  | succ n ih =>
    cases ref with
    | none => rfl
    | some id =>
      rcases h.node id with ⟨none, none'⟩ | ⟨n, n', found, found', kind, record⟩
      · simp [Arena.withoutParentheses, deref, none, none']
      · simp [Arena.withoutParentheses, deref, found, found', kind, record, ih]

theorem isFunctionValue (ref : NodeRef) : a'.isFunctionValue ref = a.isFunctionValue ref := by
  have derefAny (ref : NodeRef) : (a'.deref ref).any (fun n => n.kind.isFunctionValue)
      = (a.deref ref).any fun n => n.kind.isFunctionValue := by
    cases ref with
    | none => rfl
    | some id => exact h.kindIs NodeKind.isFunctionValue id
  rw [Arena.isFunctionValue, Arena.isFunctionValue, h.size, h.withoutParentheses, derefAny]

theorem assignment? (p : NodeKind → Bool) (id : NodeId) :
    a'.assignment? p id = a.assignment? p id := by
  rcases h.node id with ⟨none, none'⟩ | ⟨n, n', found, found', kind, record⟩
  · simp [Arena.assignment?, none, none']
  · simp [Arena.assignment?, found, found', kind, record]

theorem selfAssignment? (id : NodeId) : a'.selfAssignment? id
    = (a.selfAssignment? id).map fun (name, isFunction) => (f name, isFunction) := by
  rw [Arena.selfAssignment?, Arena.selfAssignment?, h.assignment?]
  cases a.assignment? NodeKind.isAssignment id with
  | none => rfl
  | some sides =>
    obtain ⟨left, right⟩ := sides
    cases left with
    | none => rfl
    | some left =>
      simp only [Option.bind_eq_bind, Option.bind_some, h.selfStateName?, h.isFunctionValue,
        Option.bind_map, Option.map_bind]
      rfl

theorem shape (root : NodeId) : a'.shape root = (a.shape root).renamed f := by
  have named (assigned : List (String × Bool)) (isMethod : Bool) :
      (((assigned.map fun (name, isFunction) => (f name, isFunction)).filter
        (·.2 == isMethod)).map Prod.fst).eraseDups
      = ((assigned.filter (·.2 == isMethod)).map Prod.fst).eraseDups.map f := by
    rw [← eraseDups_map h.injective, List.filter_map, List.map_map, List.map_map]
    rfl
  rw [Arena.shape, Arena.shape, h.preorder, funext h.selfAssignment?, ← List.map_filterMap]
  simp only [named]
  rfl

end Renames

end Arena

/-! ### The constructor and its dependencies -/

namespace Arena.Renames

variable {f : String → String} {a a' : Arena} (h : Renames f a a')

include h

/-- The constructor is the same function, and two of its parameters share a name if they did. -/
theorem find (file : String) (root : NodeId) : Callable.find file a' root
    = ((Callable.find file a root).map (Callable.renamed f)).mapError (AnalyzeError.renamed f) := by
  rw [Callable.find, Callable.find, h.firstFunction?]
  cases a.firstFunction? root with
  | none => rfl
  | some id =>
    have repeats : firstRepeat? [] (a'.parameterNames id)
        = (firstRepeat? [] (a.parameterNames id)).map f := by
      rw [h.parameterNames]
      exact firstRepeat?_map h.injective [] _
    simp only [repeats]
    cases firstRepeat? [] (a.parameterNames id) with
    | none => simp only [h.parameterNames]; rfl
    | some name => rfl

variable (c : Callable)

theorem shadows (id : NodeId) (name : String) :
    (c.renamed f).shadows a' id (f name) = c.shadows a id name := by
  simp only [Callable.shadows, h.ancestors, h.isFunction, h.parameterNames,
    contains_map h.injective, Callable.renamed]

theorem resolve? (id : NodeId) :
    (c.renamed f).resolve? a' id = (c.resolve? a id).map f := by
  rw [Callable.resolve?_eq, Callable.resolve?_eq, h.identifierText?]
  cases a.identifierText? id with
  | none => rfl
  | some name =>
    simp only [Option.map_some, Option.filter_some, h.shadows]
    simp only [Callable.renamed, contains_map h.injective]
    cases c.parameters.contains name && !c.shadows a id name <;> rfl

theorem aliasAt? (id : NodeId) :
    (c.renamed f).aliasAt? a' id = (c.aliasAt? a id).map (Prod.map f f) := by
  rw [Callable.aliasAt?, Callable.aliasAt?, h.assignment?]
  cases a.assignment? (· == .token .assign) id with
  | none => rfl
  | some sides =>
    obtain ⟨left, right⟩ := sides
    cases left with
    | none => rfl
    | some left =>
      cases right with
      | none => simp [Option.bind_eq_bind]
      | some right =>
        simp only [Option.bind_eq_bind, Option.bind_some, h.selfStateName?, h.resolve?]
        cases a.selfStateName? left <;> cases c.resolve? a right <;> rfl

theorem aliases (root : NodeId) :
    (c.renamed f).aliases a' root = (c.aliases a root).renamed f := by
  rw [Callable.aliases, Callable.aliases, h.preorder, funext (h.aliasAt? c), ← List.map_filterMap]
  rfl

theorem dependency? (t : AliasTable) (id : NodeId) :
    (c.renamed f).dependency? a' (t.renamed f) id = (c.dependency? a t id).map f := by
  rw [Callable.dependency?, Callable.dependency?, h.resolve?, h.selfStateName?]
  cases c.resolve? a id with
  | some parameter => rfl
  | none =>
    simp only [Option.map_none, Option.bind_map, Option.map_bind, Function.comp_def,
      AliasTable.get?_renamed h.injective]

theorem accessAt? (t : AliasTable) (id : NodeId) :
    (c.renamed f).accessAt? a' (t.renamed f) id = (c.accessAt? a t id).map (Access.renamed f) := by
  rw [Callable.accessAt?, Callable.accessAt?, h.memberAccess?]
  cases a.memberAccess? id with
  | none => rfl
  | some both =>
    obtain ⟨object, name⟩ := both
    cases object with
    | none => rfl
    | some object =>
      simp only [Option.map_some, Option.bind_eq_bind, Option.bind_some, h.dependency?,
        h.isCallee, Option.bind_map, Option.map_bind]
      rfl

theorem usage (root : NodeId) : (c.renamed f).usage a' root = (c.usage a root).renamed f := by
  rw [Callable.usage, Callable.usage, h.preorder, h.aliases, funext (h.accessAt? c _),
    ← List.map_filterMap]
  simp only [Callable.renamed, UsageRecord.renamed, List.map_map, Function.comp_def,
    Callable.usageOf_renamed h.injective, Prod.map_apply]

end Arena.Renames

/-! ### All analyses -/

/-- What the analyses say of a source. -/
structure Findings where
  parameters : Except AnalyzeError (List String)
  aliases : Except AnalyzeError AliasTable
  usage : Except AnalyzeError UsageRecord
  shape : Shape

/-- The findings under other names. -/
def Findings.renamed (f : String → String) (x : Findings) : Findings where
  parameters := (x.parameters.map (List.map f)).mapError (AnalyzeError.renamed f)
  aliases := (x.aliases.map (AliasTable.renamed f)).mapError (AnalyzeError.renamed f)
  usage := (x.usage.map (UsageRecord.renamed f)).mapError (AnalyzeError.renamed f)
  shape := x.shape.renamed f

/-- What the analyses say of the source with a name whose table has its root at a place. -/
def Arena.findings (a : Arena) (file : String) (root : NodeId) : Findings where
  parameters := Callable.parameters <$> Callable.find file a root
  aliases := (·.aliases a root) <$> Callable.find file a root
  usage := (·.usage a root) <$> Callable.find file a root
  shape := a.shape root

/-- What the analyses say of a parsed source is what they say of its table. -/
theorem SourceTree.findings (s : SourceTree) :
    s.arena.findings s.file s.root = ⟨s.parameters, s.aliases, s.usage, s.shape⟩ := rfl

/-- **What the analyses say of a table under other names is what they say of it, under these
names.** -/
theorem Arena.Renames.findings {f : String → String} {a a' : Arena} (h : Renames f a a')
    (file : String) (root : NodeId) :
    a'.findings file root = (a.findings file root).renamed f := by
  simp only [Arena.findings, h.find, h.shape, Findings.renamed]
  cases Callable.find file a root with
  | error e => rfl
  | ok c =>
    simp only [Except.map, Except.mapError, Functor.map, h.aliases, h.usage]
    rfl

/-! ### Parsed sources -/

/-- The table with its names changed. -/
def NameTable.map (f : String → String) (t : NameTable) : NameTable := ⟨t.names.map f⟩

theorem NameTable.resolve_map (f : String → String) {t : NameTable} {atom : Atom}
    (known : (t.resolve? atom).isSome) : (t.map f).resolve atom = f (t.resolve atom) := by
  obtain ⟨name, found⟩ := Option.isSome_iff_exists.mp known
  have found' : (t.map f).resolve? atom = some (f name) := by
    simp only [resolve?, map, Array.getElem?_map] at found ⊢
    rw [found]
    rfl
  rw [resolve_of_resolve? found, resolve_of_resolve? found']

namespace Arena

/-- The table with all its names changed. -/
def renamed (f : String → String) (a : Arena) : Arena := { a with names := a.names.map f }

/-- There is a name for every identifier. -/
def AtomsKnown (a : Arena) : Prop :=
  ∀ p, ∀ r ∈ a.pool p, ∀ atom, r.name? = some atom → (a.names.resolve? atom).isSome

variable {a : Arena}

theorem AtomsKnown.extends_names (h : a.AtomsKnown) {names : NameTable}
    (extended : a.names.Extends names) : { a with names }.AtomsKnown := by
  intro p r mem atom named
  obtain ⟨name, found⟩ := Option.isSome_iff_exists.mp (h p r mem atom named)
  exact Option.isSome_iff_exists.mpr ⟨name, extended atom name found⟩

theorem AtomsKnown.add (h : a.AtomsKnown) (kind : NodeKind) (flags : NodeFlags) (span : Span)
    {r? : Option NodeRecord}
    (new : ∀ r ∈ r?, ∀ atom, r.name? = some atom → (a.names.resolve? atom).isSome) :
    (a.add kind flags span r?).2.AtomsKnown := by
  intro p r mem atom named
  rw [names_add]
  rw [pool_add] at mem
  cases here : r?.filter fun r => p = r.pool with
  | none =>
    rw [here] at mem
    exact h p r mem atom named
  | some added =>
    rw [here] at mem
    rcases Array.mem_push.mp mem with mem | rfl
    · exact h p r mem atom named
    · exact new r (Option.filter_eq_some_iff.mp here).1 atom named

theorem AtomsKnown.addEntry (h : a.AtomsKnown) (e : Entry) : (a.addEntry e).AtomsKnown := by
  unfold Arena.addEntry
  split
  · exact h.add _ _ _ nofun
  · rename_i name _
    refine (h.extends_names (NameTable.extends_intern _ name)).add _ _ _ ?_
    rintro _ ⟨⟩ _ ⟨⟩
    exact Option.isSome_iff_exists.mpr ⟨name, NameTable.resolve?_intern _ name⟩
  · -- Any other record names nothing.
    rename_i record other _
    refine h.add _ _ _ ?_
    rintro _ ⟨⟩ atom named
    rw [Record.mapM_eq_rename, Record.name?_rename] at named
    obtain ⟨name, named, -⟩ := Option.map_eq_some_iff.mp named
    cases record <;> first | exact absurd rfl (other _) | cases named

/-- In the table of a tree there is a name for every identifier. -/
theorem atomsKnown_ofTree (t : Tree) : (ofTree t).AtomsKnown := by
  have all (es : List Entry) (a : Arena) (h : a.AtomsKnown) : (es.foldl addEntry a).AtomsKnown := by
    induction es generalizing a with
    | nil => exact h
    | cons e es ih => exact ih _ (h.addEntry e)
  refine all _ _ fun p r mem => ?_
  simp [forSource, withNames, pool] at mem

/-- **A table in which every identifier has a name can be renamed.** -/
theorem renames_renamed {f : String → String} (injective : Function.Injective f)
    (prototype : f "prototype" = "prototype") (known : a.AtomsKnown) :
    Renames f a (a.renamed f) where
  injective := injective
  prototype := prototype
  size := rfl
  parent _ := rfl
  node id := by
    cases found : a.get? id with
    | none => exact .inl ⟨rfl, found⟩
    | some n => exact .inr ⟨n, n, rfl, found, rfl, rfl⟩
  name id atom found := by
    obtain ⟨n, -, found⟩ := Option.bind_eq_some_iff.mp found
    obtain ⟨p, -, found⟩ := Option.bind_eq_some_iff.mp found
    obtain ⟨k, -, found⟩ := Option.bind_eq_some_iff.mp found
    exact NameTable.resolve_map f (known p _ (Array.mem_of_getElem? found) atom rfl)

end Arena

namespace SourceTree

/-- **The analyses of a source depend on how its identifiers are spelled only through which are
equal, and which are the word `prototype`.**  Under other names they say the same, in the same order
and as often, with the names changed, and fail where they failed.  And under no name is an
identifier taken for the instance itself. -/
theorem findings_renamed (s : SourceTree) {f : String → String} (injective : Function.Injective f)
    (prototype : f "prototype" = "prototype") :
    (s.arena.renamed f).findings s.file s.root
        = Findings.renamed f ⟨s.parameters, s.aliases, s.usage, s.shape⟩ ∧
      ∀ id object name, (s.arena.renamed f).memberAccess? id = some (some object, name) →
        (s.arena.renamed f).isIdentifier object = true →
          (s.arena.renamed f).selfStateName? id = none := by
  have known : s.arena.AtomsKnown := s.arena_eq ▸ Arena.atomsKnown_ofTree s.tree
  refine ⟨?_, fun id object name => Arena.selfStateName?_of_isIdentifier⟩
  rw [← s.findings]
  exact (Arena.renames_renamed injective prototype known).findings s.file s.root

/-- A parameter that is called `this` under another name: its members are no members of the type. -/
theorem findings_renamed_this : ∃ s,
    parse "Clock.js" "function Clock(time) { this.now = time.read(); time.last = 0 }" = .ok s ∧
      ∃ f : String → String, f "time" = "this" ∧ Function.Injective f ∧
        f "prototype" = "prototype" ∧
        (s.arena.renamed f).findings s.file s.root
          = Findings.renamed f ⟨s.parameters, s.aliases, s.usage, s.shape⟩ ∧
        ∀ id object name, (s.arena.renamed f).memberAccess? id = some (some object, name) →
          (s.arena.renamed f).isIdentifier object = true →
            (s.arena.renamed f).selfStateName? id = none :=
  have injective := (Equiv.swap "time" "this").injective
  exists_of_any (q := fun _ => true) (by decide +kernel) fun s _ _ =>
    ⟨Equiv.swap "time" "this", by decide, injective, by decide,
      findings_renamed s injective (by decide)⟩

end SourceTree

end Shapewire
