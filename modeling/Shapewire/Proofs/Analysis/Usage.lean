/-
Usage is what a single pass from the root downward counts.

`UsagePass.run` goes through a tree once, each node before its children and the children in the
order of the source.  On the way down it carries the names that functions other than the first
bind as parameters.  At a member access it decides which parameter the access is for by looking at
the object alone, and adds the accessed name to that parameter's methods or members.

The analysis works the other way around: it lists the nodes of the table first and asks for each
which functions lie around it and whether its parent calls it.  `run_site` is the invariant that
ties the two together: if the pass enters a site with the names that are shadowed there, it leaves
it with what the analysis collects from the nodes within it.  The one thing a pass cannot see from
a node is whether a function is the first; it keeps a flag for that, and `Ahead` is what the flag
says about the nodes still to come.
-/
import Shapewire.Analysis.Usage
import Shapewire.Proofs.Analysis.Scope

namespace Shapewire

/-! ### The pass -/

/-- The usage with one accessed name more. -/
def Usage.add (u : Usage) (name : String) (called : Bool) : Usage :=
  if called then { u with methods := u.methods ++ [name] }
  else { u with members := u.members ++ [name] }

namespace UsageRecord

/-- The record in which nothing is accessed. -/
def unused (parameters : List String) : UsageRecord :=
  ⟨parameters.map fun parameter => (parameter, ⟨[], []⟩)⟩

/-- The record with one access more. -/
def add (r : UsageRecord) (x : Access) : UsageRecord :=
  ⟨r.entries.map fun (parameter, usage) =>
    (parameter, if x.parameter = parameter then usage.add x.name x.called else usage)⟩

end UsageRecord

/-- What a pass has counted so far. -/
structure Tally where
  /-- Whether the first function has been entered. -/
  entered : Bool
  record : UsageRecord

/-- What a pass knows beforehand. -/
structure UsagePass where
  /-- The parameters of the first function. -/
  parameters : List String
  aliases : AliasTable

namespace UsagePass

variable (p : UsagePass) (bound : List String) (called : Bool) (s : Tally)

/-- The parameter that the object of an access stands for: itself, unless its name is bound
otherwise, or by an alias. -/
def attribute? (object : Tree) : Option String :=
  (object.identifierText?.filter fun name => name ∈ p.parameters ∧ name ∉ bound).or
    (object.selfStateName?.bind p.aliases.get?)

/-- The access at a node, if it counts for a parameter. -/
def access? (t : Tree) : Option Access :=
  t.memberAccess?.bind fun (object, name) =>
    (p.attribute? bound object).map fun parameter => { parameter, name, called }

/-- The tally once a node has been visited, its children not included. -/
def visit (t : Tree) : Tally where
  entered := s.entered || t.kind.isFunction
  record := (p.access? bound called t).toList.foldl UsageRecord.add s.record

/-- The names bound within a node: a function binds its parameters, unless it is the first. -/
def boundWithin (bound : List String) (s : Tally) (t : Tree) : List String :=
  if t.kind.isFunction ∧ s.entered then t.parameterNames ++ bound else bound

/-- The tally once a tree has been gone through, from the root downward. -/
def run (bound : List String) (called : Bool) (s : Tally) (t : Tree) : Tally :=
  t.operands.attach.foldl (fun s' o => run (boundWithin bound s t) o.1.2 s' o.1.1)
    (p.visit bound called s t)
termination_by sizeOf t
decreasing_by exact Tree.sizeOf_lt_of_mem_children (Tree.mem_children_of_mem_operands o.2)

theorem run_eq (t : Tree) : p.run bound called s t =
    t.operands.foldl (fun s' o => p.run (boundWithin bound s t) o.2 s' o.1)
      (p.visit bound called s t) := by
  rw [run]
  conv => rhs; rw [← t.operands.attach_map_subtype_val, List.foldl_map]

end UsagePass

/-- What a pass over the whole tree counts. -/
def Tree.usage (t : Tree) (parameters : List String) (aliases : AliasTable) : UsageRecord :=
  (UsagePass.run ⟨parameters, aliases⟩ [] false ⟨false, .unused parameters⟩ t).record

/-! ### The nodes still to come -/

/-- What the flag of a pass says about the nodes still to come: before the first function has been
entered it is the first one met, and afterwards it is not met again. -/
structure Ahead (first : Site) (entered : Bool) (ys : List Site) : Prop where
  distinct : ys.Nodup
  before : entered = false → ∀ y, ys.find? (fun y => y.tree.kind.isFunction) = some y → y = first
  after : entered = true → first ∉ ys

namespace Ahead

variable {first y : Site} {entered : Bool} {xs ys : List Site}

theorem cons (h : Ahead first entered (y :: ys)) :
    Ahead first (entered || y.tree.kind.isFunction) ys := by
  refine ⟨(List.nodup_cons.mp h.distinct).2, ?_, ?_⟩
  · intro later z found
    obtain ⟨not, other⟩ := Bool.or_eq_false_iff.mp later
    refine h.before not z ?_
    rw [List.find?_cons, other]
    exact found
  · intro passed mem
    cases was : entered with
    | true => exact h.after was (List.mem_cons_of_mem _ mem)
    | false =>
      rw [was, Bool.false_or] at passed
      have same := h.before was y (by rw [List.find?_cons, passed])
      rw [same] at h
      exact (List.nodup_cons.mp h.distinct).1 mem

theorem left (h : Ahead first entered (xs ++ ys)) : Ahead first entered xs := by
  refine ⟨h.distinct.of_append_left, ?_, ?_⟩
  · intro not y found
    refine h.before not y ?_
    rw [List.find?_append, found]
    rfl
  · intro passed mem
    exact h.after passed (List.mem_append_left _ mem)

theorem right (h : Ahead first entered (xs ++ ys)) :
    Ahead first (entered || xs.any fun x => x.tree.kind.isFunction) ys := by
  induction xs generalizing entered with
  | nil => simpa using h
  | cons x xs ih =>
    rw [List.any_cons, ← Bool.or_assoc]
    exact ih h.cons

/-- A function is the first if and only if none has been entered. -/
theorem eq_first_iff (h : Ahead first entered (y :: ys)) (function : y.tree.kind.isFunction) :
    y = first ↔ entered = false := by
  constructor
  · rintro rfl
    cases was : entered with
    | true => exact absurd List.mem_cons_self (h.after was)
    | false => rfl
  · intro not
    exact h.before not y (by rw [List.find?_cons, function])

end Ahead

/-! ### The pass and the table -/

/-- The tally once the analysis has counted some nodes. -/
def Tally.count (s : Tally) (c : Callable) (a : Arena) (aliases : AliasTable) (ys : List Site) :
    Tally where
  entered := s.entered || ys.any fun y => y.tree.kind.isFunction
  record := (ys.filterMap fun y => c.accessAt? a aliases y.id).foldl UsageRecord.add s.record

section pass

variable {t : Tree} (formed : t.Formed) {first x : Site} (mem : x ∈ t.sites) {c : Callable}
  (aliases : AliasTable) {bound : List String} {called : Bool} {s : Tally}

theorem Tally.count_append (a : Arena) (xs ys : List Site) :
    s.count c a aliases (xs ++ ys) = (s.count c a aliases xs).count c a aliases ys := by
  simp [count, List.any_append, Bool.or_assoc, List.filterMap_append, List.foldl_append]

/-- A pass over neighbouring sites counts them if it counts each. -/
theorem Tally.foldl_eq_count {a : Arena} {α : Type} {f : Tally → α → Tally} {within : α → List Site}
    {os : List α} (each : ∀ o ∈ os, ∀ s, Ahead first s.entered (within o) →
      f s o = s.count c a aliases (within o)) (ahead : Ahead first s.entered (os.flatMap within)) :
    os.foldl f s = s.count c a aliases (os.flatMap within) := by
  induction os generalizing s with
  | nil => simp [count]
  | cons o os ih =>
    rw [List.flatMap_cons] at ahead ⊢
    rw [List.foldl_cons, each o List.mem_cons_self s ahead.left, count_append]
    exact ih (fun o mem => each o (List.mem_cons_of_mem _ mem)) ahead.right

include formed mem

/-- The analysis and the pass decide alike about an object, which lies in the scope of its
access. -/
theorem dependency?_eq (shadowed : ∀ name, c.shadows (.ofTree t) x.id name = bound.contains name)
    {object : Tree} {name : String} (access : x.tree.memberAccess? = some (object, name)) :
    c.dependency? (.ofTree t) aliases (Site.id ⟨x.start, object⟩)
      = UsagePass.attribute? ⟨c.parameters, aliases⟩ bound object := by
  have child := Tree.mem_children_of_memberAccess? access
  have inside := Tree.object_mem_sites mem access
  have noFunction : x.tree.kind.isFunction = false := by
    unfold Tree.memberAccess? at access
    split at access
    · rename_i kind
      rw [eq_of_beq kind]
      rfl
    · cases access
  have resolved : c.resolve? (.ofTree t) (Site.id ⟨x.start, object⟩)
      = object.identifierText?.filter fun name => name ∈ c.parameters ∧ name ∉ bound := by
    rw [Callable.resolve?_eq, Tree.identifierText?_ofTree formed inside]
    congr 1
    funext text
    have scope := Callable.shadows_child formed mem child c text
    rw [noFunction, Bool.and_false, Bool.false_and, Bool.false_or, shadowed] at scope
    simp [scope]
  unfold Callable.dependency? UsagePass.attribute?
  rw [resolved, Tree.selfStateName?_ofTree formed inside]
  cases object.identifierText?.filter fun name => name ∈ c.parameters ∧ name ∉ bound <;> rfl

/-- The analysis and the pass count the same access at a node. -/
theorem accessAt?_eq (shadowed : ∀ name, c.shadows (.ofTree t) x.id name = bound.contains name)
    (callee : (Arena.ofTree t).isCallee x.id = called) :
    c.accessAt? (.ofTree t) aliases x.id
      = UsagePass.access? ⟨c.parameters, aliases⟩ bound called x.tree := by
  unfold Callable.accessAt? UsagePass.access?
  rw [Tree.memberAccess?_ofTree formed mem, callee]
  cases access : x.tree.memberAccess? with
  | none => rfl
  | some both =>
    obtain ⟨object, name⟩ := both
    simp only [Option.map_some, Option.bind_eq_bind, Option.bind_some]
    rw [dependency?_eq formed mem aliases shadowed access]
    cases UsagePass.attribute? ⟨c.parameters, aliases⟩ bound object <;> rfl

theorem visit_eq_count (shadowed : ∀ name, c.shadows (.ofTree t) x.id name = bound.contains name)
    (callee : (Arena.ofTree t).isCallee x.id = called) :
    UsagePass.visit ⟨c.parameters, aliases⟩ bound called s x.tree
      = s.count c (.ofTree t) aliases [x] := by
  unfold UsagePass.visit Tally.count
  rw [← accessAt?_eq formed mem aliases shadowed callee, List.any_cons, List.any_nil, Bool.or_false]
  congr 1

/-- The names bound within a node are those shadowed at its children. -/
theorem shadowed_within (isFirst : c.id = first.id) (inside : first ∈ t.sites)
    (ahead : Ahead first s.entered x.preorder)
    (shadowed : ∀ name, c.shadows (.ofTree t) x.id name = bound.contains name) {y : Site}
    (child : y ∈ x.children) (name : String) : c.shadows (.ofTree t) y.id name
      = (UsagePass.boundWithin bound s x.tree).contains name := by
  rw [Callable.shadows_child formed mem child, shadowed, UsagePass.boundWithin]
  by_cases function : x.tree.kind.isFunction
  · have same : x.id = c.id ↔ s.entered = false := by
      rw [Site.preorder_eq] at ahead
      rw [← ahead.eq_first_iff function, isFirst]
      exact ⟨Site.eq_of_id_eq mem inside, congrArg Site.id⟩
    cases entered : s.entered with
    | true =>
      have differ : (x.id != c.id) = true := bne_iff_ne.mpr (by simp [same, entered])
      simp [function, differ, Bool.or_comm]
    | false =>
      have equal : x.id = c.id := same.mpr entered
      simp [equal]
  · simp [function]

/-- **A pass leaves a site with what the analysis counts within it**, if it enters it with the
names shadowed there. -/
theorem run_site (isFirst : c.id = first.id) (inside : first ∈ t.sites)
    (ahead : Ahead first s.entered x.preorder)
    (shadowed : ∀ name, c.shadows (.ofTree t) x.id name = bound.contains name)
    (callee : (Arena.ofTree t).isCallee x.id = called) :
    UsagePass.run ⟨c.parameters, aliases⟩ bound called s x.tree
      = s.count c (.ofTree t) aliases x.preorder := by
  induction x using Site.byChildren generalizing bound called s with
  | step x ih =>
    rw [UsagePass.run_eq, visit_eq_count formed mem aliases shadowed callee, Site.operands_tree,
      List.foldl_map]
    have within {y : Site} (child : y ∈ x.children) (name : String) :=
      shadowed_within formed mem isFirst inside ahead shadowed child name
    have sites : x.operands.flatMap (fun o => o.1.preorder) = x.children.flatMap Site.preorder := by
      rw [← Site.map_fst_operands, List.flatMap_map]
    rw [Site.preorder_eq] at ahead ⊢
    rw [← sites] at ahead ⊢
    have rest : Ahead first (s.count c (.ofTree t) aliases [x]).entered
        (x.operands.flatMap fun o => o.1.preorder) := by
      simpa [Tally.count] using ahead.cons
    show _ = s.count c (.ofTree t) aliases ([x] ++ _)
    rw [Tally.count_append]
    refine Tally.foldl_eq_count aliases (fun o operand s' ahead => ?_) rest
    have child := Site.mem_children_of_mem_operands operand
    exact ih o.1 child (Site.mem_postorder_of_child mem child) ahead (within child)
      (Tree.isCallee_operand formed mem operand)

end pass

/-! ### The whole analysis -/

theorem Callable.usageOf_append_singleton (xs : List Access) (x : Access) (parameter : String) :
    usageOf (xs ++ [x]) parameter = if x.parameter = parameter then
      (usageOf xs parameter).add x.name x.called else usageOf xs parameter := by
  obtain ⟨owner, name, called⟩ := x
  by_cases own : owner = parameter
  · cases called <;> simp [usageOf, Usage.add, own]
  · simp [usageOf, own]

/-- Adding accesses one by one is collecting them for each parameter. -/
theorem UsageRecord.foldl_add (parameters : List String) (xs : List Access) :
    xs.foldl add (unused parameters)
      = ⟨parameters.map fun parameter => (parameter, Callable.usageOf xs parameter)⟩ := by
  induction xs using List.reverseRecOn with
  | nil => rfl
  | append_singleton xs x ih =>
    rw [List.foldl_append, ih]
    simp [add, Callable.usageOf_append_singleton]

theorem firstRepeat?_eq_none_iff {seen names : List String} : firstRepeat? seen names = none ↔
    names.Nodup ∧ ∀ name ∈ names, name ∉ seen := by
  induction names generalizing seen with
  | nil => simp [firstRepeat?]
  | cons name names ih =>
    rw [firstRepeat?]
    by_cases old : name ∈ seen
    · simp [old]
    · rw [if_neg old, ih, List.nodup_cons]
      constructor
      · rintro ⟨distinct, fresh⟩
        refine ⟨⟨fun mem => fresh name mem List.mem_cons_self, distinct⟩, ?_⟩
        intro other mem
        rcases List.mem_cons.mp mem with rfl | mem
        · exact old
        · exact fun inside => fresh other mem (List.mem_cons_of_mem _ inside)
      · rintro ⟨⟨new, distinct⟩, fresh⟩
        refine ⟨distinct, ?_⟩
        intro other mem
        rw [List.mem_cons, not_or]
        exact ⟨fun same => new (same ▸ mem), fresh other (List.mem_cons_of_mem _ mem)⟩

/-- What an identifier refers to is a parameter. -/
theorem Callable.mem_parameters_of_resolve? {c : Callable} {a : Arena} {id : NodeId}
    {parameter : String} (h : c.resolve? a id = some parameter) : parameter ∈ c.parameters := by
  rw [resolve?_eq] at h
  obtain ⟨-, refers⟩ := Option.filter_eq_some_iff.mp h
  exact List.contains_iff_mem.mp (Bool.and_eq_true_iff.mp refers).1

/-- An alias stands for a parameter. -/
theorem Callable.mem_parameters_of_alias {c : Callable} {a : Arena} {root : NodeId}
    {name parameter : String} (h : (c.aliases a root).get? name = some parameter) :
    parameter ∈ c.parameters := by
  obtain ⟨before, after, assigned, -⟩ := List.lookup_eq_some_iff.mp h
  have mem : (name, parameter) ∈ (c.aliases a root).assigned := by
    rw [← List.mem_reverse, assigned]
    simp
  obtain ⟨id, -, made⟩ := List.mem_filterMap.mp mem
  simp only [aliasAt?, Option.bind_eq_bind, Option.bind_eq_some_iff] at made
  obtain ⟨sides, -, left, -, known, -, right, -, referred, resolved, is⟩ := made
  cases is
  exact mem_parameters_of_resolve? resolved

/-- A pass counts accesses for parameters only. -/
theorem UsagePass.mem_parameters_of_attribute? {p : UsagePass} {bound : List String} {object : Tree}
    {parameter : String}
    (known : ∀ name, p.aliases.get? name = some parameter → parameter ∈ p.parameters)
    (h : p.attribute? bound object = some parameter) : parameter ∈ p.parameters := by
  rcases Option.or_eq_some_iff.mp h with itself | ⟨-, aliased⟩
  · obtain ⟨-, allowed⟩ := Option.filter_eq_some_iff.mp itself
    exact (of_decide_eq_true allowed).1
  · obtain ⟨name, -, found⟩ := Option.bind_eq_some_iff.mp aliased
    exact known name found

namespace SourceTree

variable {file text : String} {s : SourceTree} {f : Tree}

/-- The constructor of a source is its first function. -/
theorem exists_callable (formed : s.tree.Formed) (found : s.tree.firstFunction? = some f)
    (distinct : f.parameterNames.Nodup) :
    ∃ x ∈ s.tree.sites, s.tree.site.preorder.find? (fun y => y.tree.kind.isFunction) = some x ∧
      s.callable = .ok ⟨x.id, f.parameterNames⟩ := by
  rw [Tree.firstFunction?_eq, Option.map_eq_some_iff] at found
  obtain ⟨x, found, rfl⟩ := found
  have mem := Tree.mem_sites_of_mem_preorder (Tree.mem_sites_self s.tree)
    (List.mem_of_find?_eq_some found)
  refine ⟨x, mem, found, ?_⟩
  have first := Tree.firstFunction_ofTree formed (Tree.mem_sites_self s.tree)
  rw [Tree.id_site, found] at first
  have noRepeat : firstRepeat? [] x.tree.parameterNames = none :=
    firstRepeat?_eq_none_iff.mpr ⟨distinct, fun _ _ => List.not_mem_nil⟩
  simp only [callable, Callable.find, s.arena_eq, s.root_eq, first, Option.map_some,
    Tree.parameterNames_ofTree formed mem, noRepeat]

/-- A pass over the whole tree counts what the analysis does. -/
theorem usage_ofTree {t : Tree} (formed : t.Formed) {x : Site} (mem : x ∈ t.sites)
    (first : t.site.preorder.find? (fun y => y.tree.kind.isFunction) = some x)
    (parameters : List String) (aliases : AliasTable) : t.usage parameters aliases
      = ⟨parameters.map fun parameter => (parameter, Callable.usageOf
          (((Arena.ofTree t).preorder (t.size - 1)).filterMap
            (Callable.accessAt? ⟨x.id, parameters⟩ (.ofTree t) aliases)) parameter)⟩ := by
  have orphan := Tree.parent?_root formed
  have distinct : t.site.preorder.Nodup :=
    (Site.preorder_perm _).nodup_iff.mpr (.of_map _ (Site.nodup_map_id_postorder _))
  have ahead : Ahead x false t.site.preorder := by
    refine ⟨distinct, ?_, nofun⟩
    intro _ y found
    exact Option.some.inj (found.symm.trans first)
  have shadowed (name : String) : Callable.shadows ⟨x.id, parameters⟩ (.ofTree t) t.site.id name
      = ([] : List String).contains name := by
    simp [Callable.shadows, Arena.ancestors_of_orphan orphan]
  have callee : (Arena.ofTree t).isCallee t.site.id = false := by
    simp [Arena.isCallee, orphan]
  have run := run_site (s := ⟨false, .unused parameters⟩) formed (Tree.mem_sites_self t) aliases rfl
    mem ahead shadowed callee
  rw [Tree.usage, ← Tree.id_site, Tree.preorder_ofTree formed (Tree.mem_sites_self t),
    List.filterMap_map, ← UsageRecord.foldl_add]
  exact congrArg Tally.record run

/-- **The usage of every source that parses is what one pass over its tree counts**, if its first
function has distinct parameters.  The parameters are its keys in declaration order, and the pass
counts no access for anything else. -/
theorem usage_eq_pass (parsed : parse file text = .ok s) (found : s.tree.firstFunction? = some f)
    (distinct : f.parameterNames.Nodup) : ∃ aliases, s.aliases = .ok aliases ∧
      s.usage = .ok (s.tree.usage f.parameterNames aliases) ∧
      (s.tree.usage f.parameterNames aliases).parameters = f.parameterNames ∧
      ∀ bound object parameter,
        UsagePass.attribute? ⟨f.parameterNames, aliases⟩ bound object = some parameter →
          parameter ∈ f.parameterNames := by
  have formed := formed_of_parse parsed
  obtain ⟨x, mem, first, callable⟩ := exists_callable formed found distinct
  refine ⟨Callable.aliases ⟨x.id, f.parameterNames⟩ s.arena s.root, ?_, ?_, ?_, ?_⟩
  · rw [aliases, callable]
    rfl
  · rw [usage, callable, usage_ofTree formed mem first]
    simp only [Functor.map, Except.map, Callable.usage, s.arena_eq, s.root_eq]
  · rw [usage_ofTree formed mem first]
    simp [UsageRecord.parameters, Function.comp_def]
  · intro bound object parameter attributed
    exact UsagePass.mem_parameters_of_attribute?
      (fun name => Callable.mem_parameters_of_alias) attributed

/-- A constructor with a default, an alias and a function that shadows a parameter. -/
theorem usage_eq_pass_widget : ∃ s, parse "Widget.js"
    "function Widget(a, b = a.d) \x7b this.c = a; this.c.run(function (b) \x7b b.y; \x7d); \x7d" = .ok s ∧
      ∃ f, s.tree.firstFunction? = some f ∧ f.parameterNames.Nodup ∧ ∃ aliases,
        s.aliases = .ok aliases ∧ s.usage = .ok (s.tree.usage f.parameterNames aliases) ∧
          (s.tree.usage f.parameterNames aliases).parameters = f.parameterNames ∧
          ∀ bound object parameter,
            UsagePass.attribute? ⟨f.parameterNames, aliases⟩ bound object = some parameter →
              parameter ∈ f.parameterNames := by
  refine exists_of_any (q := fun s => s.tree.firstFunction?.any fun f => f.parameterNames.Nodup)
    (by decide +kernel) fun s parsed hasFunction => ?_
  obtain ⟨f, found, distinct⟩ := (Option.any_eq_true _ _).mp hasFunction
  have distinct := of_decide_eq_true distinct
  exact ⟨f, found, distinct, usage_eq_pass parsed found distinct⟩

end SourceTree

end Shapewire
