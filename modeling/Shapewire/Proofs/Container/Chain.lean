/-
Which chain of types an error of building is about.

Building a type makes calls for the types chosen for its parameters, and these make calls in
turn.  `Calls` is one such step, with everything a call knows: the room that is left, the types
under construction, the type to be built and the session so far.  `Tracked` is the invariant of
the calls that building a target comes to, `Calls.tracked` the step that keeps it, and
`tracked_of_reaches` what holds of them all: the types under construction are a chain from the
target along chosen dependencies, none of them twice.

An error that is not a factory's is that of a call which is refused (`exists_refused_call`), so
the chain of that call is what justifies it.
-/
import Mathlib.Data.List.Chain
import Mathlib.Data.List.Nodup
import Mathlib.Data.List.TakeWhile
import Mathlib.Logic.Relation
import Shapewire.Proofs.Container.Resolution

namespace Shapewire

/-- A call of `resolveIn` and the session in which it is made. -/
structure Call (κ σ : Type) where
  room : Nat
  /-- The types under construction, outermost first. -/
  path : List κ
  key : κ
  session : Session κ σ

namespace Container

variable {κ ι σ : Type} [DecidableEq κ] {c : Container κ ι σ}

/-- `next` is the candidate chosen for some parameter of `key`. -/
def Chooses (c : Container κ ι σ) (key next : κ) : Prop :=
  ∃ parameters m, (c.definition key).parameters = .ok parameters ∧ c.satisfiers key = .ok m ∧
    ∃ parameter ∈ parameters, m.chosen? parameter = some next

/-- The types from the target on, each chosen for some parameter of the one before it, and none
of them twice. -/
structure Chain (c : Container κ ι σ) (target : κ) (keys : List κ) : Prop where
  start : keys.head? = some target
  chosen : keys.IsChain c.Chooses
  distinct : keys.Nodup

/-- A call makes another one for a chosen dependency once those before it have been built. -/
inductive Calls (c : Container κ ι σ) : Call κ σ → Call κ σ → Prop
  | dependency {room : Nat} {path before after : List κ} {key next : κ} {s s₁ : Session κ σ}
      {values : List ι} (new : key ∉ path)
      (chosen : c.dependencies? key = some (before ++ next :: after))
      (built : before.mapM (c.resolveIn room (path ++ [key])) s = .ok values s₁) :
      Calls c ⟨room + 1, path, key, s⟩ ⟨room, path ++ [key], next, s₁⟩

/-- The calls that building a target comes to. -/
def Reaches (c : Container κ ι σ) (target : κ) (s : Session κ σ) : Call κ σ → Prop :=
  Relation.ReflTransGen c.Calls ⟨maxResolution, [], target, s⟩

/-- The types under construction at some time while a target is built: those a call finds, and
with them its own type once the dependencies of that are being built. -/
inductive Stack (c : Container κ ι σ) (target : κ) (s : Session κ σ) : List κ → Prop
  | found {call : Call κ σ} (reached : c.Reaches target s call) : Stack c target s call.path
  | opened {call : Call κ σ} (reached : c.Reaches target s call) (room : 0 < call.room)
      (new : call.key ∉ call.path) (satisfied : c.Satisfied call.key) :
      Stack c target s (call.path ++ [call.key])

/-- A chain from the target bears an error out. -/
inductive Justified (c : Container κ ι σ) (target : κ) : ContainerError → Prop
  /-- The last type of the chain comes back to one of its types. -/
  | cyclic {before cycle : List κ} {first last : κ} (chain : c.Chain target (before ++ cycle))
      (head : cycle.head? = some first) (end_ : cycle.getLast? = some last)
      (back : c.Chooses last first) :
      Justified c target (.cyclic ((cycle ++ [first]).map c.nameOf))
  /-- The chain is as long as it may be and would go on. -/
  | tooDeep {keys : List κ} {last next : κ} (chain : c.Chain target keys)
      (full : keys.length = maxResolution) (end_ : keys.getLast? = some last)
      (more : c.Chooses last next) (new : next ∉ keys) :
      Justified c target (.tooDeep maxResolution)
  /-- The last type has a parameter without candidates, and none before that one. -/
  | unsatisfied {keys : List κ} {last : κ} {before after : List (String × Usage)}
      {parameter : String} {usage : Usage} (chain : c.Chain target keys)
      (end_ : keys.getLast? = some last)
      (usages : c.usageOf last = .ok ⟨before ++ (parameter, usage) :: after⟩)
      (declared : (c.definition last).parameters
        = .ok (before.map Prod.fst ++ parameter :: after.map Prod.fst))
      (first : ∀ entry ∈ before, c.registry.candidates entry.2 ≠ [])
      (none : c.registry.candidates usage = []) :
      Justified c target (.unsatisfied (c.nameOf last) parameter usage.methods usage.members)
  /-- The last type cannot be analysed. -/
  | analyze {keys : List κ} {last : κ} {cause : AnalyzeError} (chain : c.Chain target keys)
      (end_ : keys.getLast? = some last) (failed : (c.definition last).usage = .error cause) :
      Justified c target (.analyze (c.nameOf last) cause)

/-! ### The calls of a building -/

/-- What is read through a partial function comes from some element. -/
theorem exists_of_mem_mapM {α β : Type} {f : α → Option β} {as : List α} {bs : List β} {b : β}
    (h : as.mapM f = some bs) (mem : b ∈ bs) : ∃ a ∈ as, f a = some b := by
  have mem : some b ∈ as.map f := by
    rw [map_eq_of_mapM h]
    exact List.mem_map_of_mem mem
  exact List.mem_map.mp mem

theorem chooses_of_mem {key next : κ} {keys : List κ} (chosen : c.dependencies? key = some keys)
    (mem : next ∈ keys) : c.Chooses key next := by
  unfold dependencies? at chosen
  split at chosen
  · rename_i parameters m declared matched
    exact ⟨parameters, m, declared, matched, exists_of_mem_mapM chosen mem⟩
  · cases chosen

/-- What holds of a call while a target is built. -/
structure Tracked (c : Container κ ι σ) (target : κ) (call : Call κ σ) : Prop where
  start : (call.path ++ [call.key]).head? = some target
  chosen : (call.path ++ [call.key]).IsChain c.Chooses
  distinct : call.path.Nodup
  size : call.path.length + call.room = maxResolution

theorem Tracked.first (target : κ) (s : Session κ σ) :
    c.Tracked target ⟨maxResolution, [], target, s⟩ where
  start := rfl
  chosen := List.isChain_singleton target
  distinct := List.nodup_nil
  size := Nat.zero_add _

/-- A call that is tracked makes only calls that are. -/
theorem Calls.tracked {target : κ} {call call' : Call κ σ} (h : c.Tracked target call)
    (step : c.Calls call call') : c.Tracked target call' := by
  cases step with
  | @dependency room path before after key next s s₁ values new chosen built =>
    refine ⟨?_, ?_, ?_, ?_⟩
    · rw [List.head?_append, h.start]
      rfl
    · have goesOn : c.Chooses key next := chooses_of_mem chosen (by simp)
      refine h.chosen.append (List.isChain_singleton next) ?_
      simpa using goesOn
    · exact List.nodup_append'.mpr ⟨h.distinct, List.nodup_singleton key, by simpa using new⟩
    · have size : path.length + (room + 1) = maxResolution := h.size
      show (path ++ [key]).length + room = maxResolution
      rw [List.length_append, List.length_singleton]
      omega

/-- Every call that building a target comes to is tracked. -/
theorem tracked_of_reaches {target : κ} {s : Session κ σ} {call : Call κ σ}
    (reached : c.Reaches target s call) : c.Tracked target call := by
  induction reached with
  | refl => exact .first target s
  | tail _ step ih => exact step.tracked ih

namespace Tracked

variable {target : κ} {call : Call κ σ}

/-- The types under construction are a chain, if there are any. -/
theorem chain_path (h : c.Tracked target call) (some : call.path ≠ []) :
    c.Chain target call.path where
  start := by
    have start := h.start
    rwa [List.head?_append_of_ne_nil _ some] at start
  chosen := h.chosen.left_of_append
  distinct := h.distinct

/-- With a new type at its end the chain goes on. -/
theorem chain_snoc (h : c.Tracked target call) (new : call.key ∉ call.path) :
    c.Chain target (call.path ++ [call.key]) where
  start := h.start
  chosen := h.chosen
  distinct := List.nodup_append'.mpr ⟨h.distinct, List.nodup_singleton _, by simpa using new⟩

/-- The type to be built is chosen for the innermost type under construction. -/
theorem chooses_key (h : c.Tracked target call) {last : κ} (end_ : call.path.getLast? = some last) :
    c.Chooses last call.key :=
  (List.isChain_append.mp h.chosen).2.2 last end_ call.key rfl

end Tracked

/-! ### Where an error comes from -/

/-- An error that is not a factory's comes from a call that is refused, with the session as it
was then. -/
theorem exists_refused_call (room : Nat) :
    ∀ (path : List κ) (key : κ) (s : Session κ σ) (e : ContainerError) (s' : Session κ σ),
      path.length + room = maxResolution → c.resolveIn room path key s = .error e s' →
        (∃ name cause, e = .constructionFailed name cause) ∨
        ∃ call, Relation.ReflTransGen c.Calls ⟨room, path, key, s⟩ call ∧ call.session = s' ∧
          c.Refused call.path call.key e := by
  induction room with
  | zero =>
    intro path key s e s' size h
    rcases cases_of_resolveIn_eq_error size h with ⟨rfl, why⟩ | ⟨_, _, contra, -⟩
    · exact Or.inr ⟨_, .refl, rfl, why⟩
    · cases contra
  | succ room ih =>
    intro path key s e s' size h
    rcases cases_of_resolveIn_eq_error size h with
      ⟨rfl, why⟩ | ⟨room', keys, same, new, chosen, stopped | ⟨values, s₁, built, made⟩⟩
    · exact Or.inr ⟨_, .refl, rfl, why⟩
    · cases same
      obtain ⟨before, next, after, values, s₁, rfl, built, stopped⟩ :=
        exists_of_mapM_eq_error stopped
      have size' : (path ++ [key]).length + room = maxResolution := by
        rw [List.length_append, List.length_singleton]
        omega
      rcases ih (path ++ [key]) next s₁ e s' size' stopped with failed | ⟨call, way, same, why⟩
      · exact Or.inl failed
      · exact Or.inr ⟨call, .head (.dependency new chosen built) way, same, why⟩
    · obtain ⟨cause, rfl, -⟩ := construct_eq_error_iff.mp made
      exact Or.inl ⟨_, cause, rfl⟩

/-- The part of a path from a type on starts with that type and ends as the path does. -/
theorem head_last_of_mem {path : List κ} {key : κ} (mem : key ∈ path) :
    ∃ last, (path.dropWhile (· ≠ key)).head? = some key ∧
      (path.dropWhile (· ≠ key)).getLast? = some last ∧ path.getLast? = some last := by
  have back : path.dropWhile (· ≠ key) ≠ [] := by
    intro none
    have all := List.dropWhile_eq_nil_iff.mp none key mem
    simp at all
  refine ⟨_, ?_, List.getLast?_eq_some_getLast back, ?_⟩
  · have first := List.head_dropWhile_not (fun k => decide (k ≠ key)) back
    rw [List.head?_eq_some_head back]
    simpa using first
  · conv => lhs; rw [← List.takeWhile_append_dropWhile (p := (· ≠ key)) (l := path)]
    rw [List.getLast?_append, List.getLast?_eq_some_getLast back]
    rfl

/-- The chain of a refused call bears its error out. -/
theorem justified_of_refused {target : κ} {call : Call κ σ} {e : ContainerError}
    (h : c.Tracked target call) (why : c.Refused call.path call.key e) : c.Justified target e := by
  cases why with
  | cyclic mem =>
    -- The cycle starts where the type was first met on the path.
    have chain := h.chain_path (List.ne_nil_of_mem mem)
    rw [← List.takeWhile_append_dropWhile (p := (· ≠ call.key)) (l := call.path)] at chain
    obtain ⟨last, head, end_, whole⟩ := head_last_of_mem mem
    exact .cyclic chain head end_ (h.chooses_key whole)
  | tooDeep new full =>
    have some : call.path ≠ [] := by
      intro none
      rw [none] at full
      cases full
    have end_ := List.getLast?_eq_some_getLast some
    exact .tooDeep (h.chain_path some) full end_ (h.chooses_key end_) new
  | unsatisfied new failed =>
    have chain := h.chain_snoc new
    have end_ : (call.path ++ [call.key]).getLast? = Option.some call.key := List.getLast?_concat
    rcases exists_of_satisfiers_eq_error failed with
      ⟨cause, analysed, rfl⟩ | ⟨⟨entries⟩, before, parameter, usage, after, usages, same, all,
        none, rfl⟩
    · exact .analyze chain end_ analysed
    · obtain rfl : entries = before ++ (parameter, usage) :: after := same
      refine .unsatisfied chain end_ usages ?_ all none
      rw [parameters_of_usageOf usages, UsageRecord.parameters]
      simp

/--
**Every error of building is justified by a chain of chosen dependencies from the target.**

At all times the types under construction are such a chain, none of them twice and no more than
`maxResolution` of them.  Building always comes to an end.  If it ends with an error other than
a factory's, the chain at that time is what the error says: it comes back to one of its types,
it is full and would go on, or its last type has a parameter without candidates or cannot be
analysed.
-/
theorem justified_resolve (c : Container κ ι σ) (target : κ) (s : Session κ σ) :
    (∀ stack, c.Stack target s stack →
      (stack = [] ∨ c.Chain target stack) ∧ stack.length ≤ maxResolution) ∧
    ((∃ value s', c.resolve target s = .ok value s') ∨
      ∃ e s', c.resolve target s = .error e s' ∧
        ((∃ name cause, e = .constructionFailed name cause) ∨ c.Justified target e)) := by
  refine ⟨?_, ?_⟩
  · intro stack there
    cases there with
    | @found call reached =>
      have h := tracked_of_reaches reached
      have := h.size
      refine ⟨?_, by omega⟩
      by_cases none : call.path = []
      · exact Or.inl none
      · exact Or.inr (h.chain_path none)
    | @opened call reached room new satisfied =>
      have h := tracked_of_reaches reached
      have := h.size
      refine ⟨Or.inr (h.chain_snoc new), ?_⟩
      rw [List.length_append, List.length_singleton]
      omega
  · cases built : c.resolve target s with
    | ok value s' => exact Or.inl ⟨value, s', rfl⟩
    | error e s' =>
      refine Or.inr ⟨e, s', rfl, ?_⟩
      rcases exists_refused_call maxResolution [] target s e s' (Nat.zero_add _) built with
        failed | ⟨call, reached, -, why⟩
      · exact Or.inl failed
      · exact Or.inr (justified_of_refused (tracked_of_reaches reached) why)

end Container

end Shapewire
