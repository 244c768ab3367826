/-
Which factories are called, and in which order.

Factories are called in the post-order of the unfolding, from its start on.  When building
stops early, it stops at one place: a factory fails, which is then the last one called, or a
type is refused.  `Open` describes the second case.  On the way from the root down to the refused
type, everything to the left of the way has been built and nothing on it or to the right of
it has.
-/
import Shapewire.Proofs.Container.Building

namespace Shapewire

namespace Listing

variable {κ : Type}

theorem prefix_append (l r : Listing κ) : l.listed <+: (l.append r).listed := by
  unfold append
  split
  · exact List.prefix_append _ _
  · exact List.prefix_rfl

/-- A complete start decides the whole listing, and any start goes on as the longer one does. -/
def Extends (l r : Listing κ) : Prop :=
  l.listed <+: r.listed ∧ (l.complete = true → r = l)

theorem Extends.refl (l : Listing κ) : l.Extends l :=
  ⟨List.prefix_rfl, fun _ => rfl⟩

theorem Extends.trans {l m r : Listing κ} (h : l.Extends m) (h' : m.Extends r) : l.Extends r := by
  refine ⟨h.1.trans h'.1, ?_⟩
  intro complete
  have same := h.2 complete
  rw [← same]
  exact h'.2 (same ▸ complete)

theorem Extends.append {l l' r r' : Listing κ} (h : l.Extends l') (h' : r.Extends r') :
    (l.append r).Extends (l'.append r') := by
  by_cases complete : l.complete = true
  · rw [h.2 complete]
    unfold Listing.append
    rw [if_pos complete, if_pos complete]
    refine ⟨(List.prefix_append_right_inj _).mpr h'.1, ?_⟩
    intro all
    rw [h'.2 all]
  · have start : l.append r = l := by
      unfold Listing.append
      rw [if_neg complete]
    rw [start]
    exact ⟨h.1.trans (prefix_append l' r'), fun all => absurd all complete⟩

theorem Extends.join {f g : κ → Listing κ} (h : ∀ key, (f key).Extends (g key)) (keys : List κ) :
    (Listing.join (keys.map f)).Extends (Listing.join (keys.map g)) := by
  induction keys with
  | nil => exact .refl _
  | cons key keys ih => exact (h key).append ih

/-- Behind complete listings a joint listing goes on with the next one. -/
theorem prefix_join {f : κ → Listing κ} {next : κ} {after calls : List κ}
    (h : calls <+: (f next).listed) :
    ∀ before listed : List κ, Listing.join (before.map f) = ⟨listed, true⟩ →
      listed ++ calls <+: (Listing.join ((before ++ next :: after).map f)).listed := by
  intro before
  induction before with
  | nil =>
    intro listed complete
    cases complete
    rw [List.nil_append, List.nil_append, List.map_cons, Listing.join]
    exact h.trans (prefix_append _ _)
  | cons first before ih =>
    intro listed complete
    rw [List.map_cons, Listing.join] at complete
    rw [List.cons_append, List.map_cons, Listing.join]
    by_cases done : (f first).complete = true
    · unfold append at complete ⊢
      rw [if_pos done, Listing.mk.injEq] at complete
      obtain ⟨rfl, tail⟩ := complete
      rw [if_pos done, List.append_assoc]
      refine (List.prefix_append_right_inj _).mpr (ih _ ?_)
      rw [← tail]
    · unfold append at complete
      rw [if_neg done] at complete
      rw [complete] at done
      exact absurd rfl done

end Listing

namespace Container

variable {κ ι σ : Type} [DecidableEq κ] {c : Container κ ι σ}

/-- More levels only make a listing longer, and no longer once it is complete. -/
theorem listing_extends_succ (c : Container κ ι σ) (levels : Nat) :
    ∀ key, (c.listing levels key).Extends (c.listing (levels + 1) key) := by
  induction levels with
  | zero =>
    intro key
    rw [listing]
    exact ⟨List.nil_prefix, fun h => by cases h⟩
  | succ levels ih =>
    intro key
    rw [listing, listing]
    cases c.dependencies? key with
    | none => exact .refl _
    | some keys =>
      exact (Listing.Extends.join ih keys).append (.refl _)

theorem listing_extends (c : Container κ ι σ) (key : κ) (levels extra : Nat) :
    (c.listing levels key).Extends (c.listing (levels + extra) key) := by
  induction extra with
  | zero => exact .refl _
  | succ extra ih => exact ih.trans (c.listing_extends_succ _ key)

/-! ### Where building stops -/

/-- While the types on a way down are open, the ones listed have been built: everything that
stands to the left of the way, in post-order, and nothing else. -/
inductive Open (c : Container κ ι σ) : κ → List κ → List κ → Prop
  | here (key : κ) : Open c key [key] []
  | down {key next : κ} {parts : List (Unfolding κ)} {after way listed : List κ}
      (chosen : c.dependencies? key = some (parts.map Unfolding.root ++ next :: after))
      (built : ∀ part ∈ parts, c.Unfolds part) (rest : Open c next way listed) :
      Open c key (key :: way) (Unfolding.postorderAll parts ++ listed)

/-- A factory of the named type has failed as the last one called. -/
structure FactoryFailed (c : Container κ ι σ) (e : ContainerError) (calls : List κ) (world : σ) :
    Prop where
  last : ∃ before key cause args world', calls = before ++ [key] ∧
    e = .constructionFailed (c.nameOf key) cause ∧
    (c.definition key).factory args world' = (.error cause, world)

/-- A type on the open way has been refused before its factory could be called. -/
structure StoppedOpen (c : Container κ ι σ) (path : List κ) (key : κ) (e : ContainerError)
    (calls : List κ) : Prop where
  way : ∃ above refused, c.Open key (above ++ [refused]) calls ∧ c.Refused (path ++ above) refused e
  notCalled : key ∉ calls

/-- What has been called when building fails. -/
structure Failed (c : Container κ ι σ) (room : Nat) (path : List κ) (key : κ)
    (s s' : Session κ σ) (e : ContainerError) (calls : List κ) : Prop where
  invoked : s'.invoked = s.invoked ++ calls
  listed : calls <+: (c.listing room key).listed
  avoids : ∀ k ∈ calls, k ∉ path
  stopped : c.FactoryFailed e calls s'.world ∨ c.StoppedOpen path key e calls

/-- A type that is refused stops everything at once. -/
theorem failed_of_refused {room : Nat} {path : List κ} {key : κ} {e : ContainerError}
    (s : Session κ σ) (h : c.Refused path key e) : c.Failed room path key s s e [] where
  invoked := (List.append_nil _).symm
  listed := List.nil_prefix
  avoids := by
    intro k mem
    cases mem
  stopped := Or.inr ⟨⟨[], key, .here key, by rwa [List.append_nil]⟩, List.not_mem_nil⟩

/-- A type fails where the first of its dependencies that cannot be built fails. -/
theorem failed_of_dependency {room : Nat} {path : List κ} {key next : κ} {before after : List κ}
    {s s₁ s' : Session κ σ} {values : List ι} {parts : List (Unfolding κ)} {e : ContainerError}
    {calls : List κ} (chosen : c.dependencies? key = some (before ++ next :: after))
    (finished : c.FinishedAll room (path ++ [key]) before s s₁ values parts)
    (failed : c.Failed room (path ++ [key]) next s₁ s' e calls) :
    c.Failed (room + 1) path key s s' e (Unfolding.postorderAll parts ++ calls) where
  invoked := by rw [failed.invoked, finished.invoked, List.append_assoc]
  listed := by
    rw [listing, chosen]
    exact (Listing.prefix_join failed.listed before _ finished.listed).trans
      (Listing.prefix_append _ _)
  avoids := by
    intro k mem above
    have below : k ∈ path ++ [key] := List.mem_append_left _ above
    rcases List.mem_append.mp mem with mem | mem
    · exact finished.avoids k mem below
    · exact failed.avoids k mem below
  stopped := by
    rcases failed.stopped with ⟨before', k, cause, args, world, rfl, same, made⟩ |
      ⟨⟨above, refused, way, why⟩, -⟩
    · refine Or.inl ⟨Unfolding.postorderAll parts ++ before', k, cause, args, world, ?_, same, made⟩
      rw [List.append_assoc]
    · refine Or.inr ⟨⟨key :: above, refused, ?_, ?_⟩, ?_⟩
      · exact .down (by rw [chosen, finished.roots]) finished.unfolds way
      · rwa [List.append_assoc] at why
      · intro mem
        have below : key ∈ path ++ [key] := by simp
        rcases List.mem_append.mp mem with mem | mem
        · exact finished.avoids key mem below
        · exact failed.avoids key mem below

/-- A type whose factory fails has had everything built for it, and nothing is called after
its factory. -/
theorem failed_of_construct {room : Nat} {path keys : List κ} {key : κ} {s s₁ s' : Session κ σ}
    {values : List ι} {parts : List (Unfolding κ)} {e : ContainerError} (new : key ∉ path)
    (chosen : c.dependencies? key = some keys)
    (finished : c.FinishedAll room (path ++ [key]) keys s s₁ values parts)
    (made : c.construct key ⟨values⟩ s₁ = .error e s') :
    c.Failed (room + 1) path key s s' e (Unfolding.postorderAll parts ++ [key]) := by
  obtain ⟨cause, same, called, invoked⟩ := construct_eq_error_iff.mp made
  refine ⟨?_, ?_, ?_, Or.inl ⟨_, key, cause, _, _, rfl, same, called⟩⟩
  · rw [invoked, finished.invoked, List.append_assoc]
  · rw [listing, chosen]
    simp [finished.listed, Listing.append]
  · intro k mem
    rcases List.mem_append.mp mem with mem | mem
    · intro above
      exact finished.avoids k mem (List.mem_append_left _ above)
    · rwa [List.mem_singleton.mp mem]

/-- Whatever cannot be built stops in one of these ways. -/
theorem exists_failed (room : Nat) :
    ∀ (path : List κ) (key : κ) (s : Session κ σ) (e : ContainerError) (s' : Session κ σ),
      path.length + room = maxResolution → c.resolveIn room path key s = .error e s' →
        ∃ calls, c.Failed room path key s s' e calls := by
  induction room with
  | zero =>
    intro path key s e s' size h
    rcases cases_of_resolveIn_eq_error size h with ⟨rfl, why⟩ | ⟨_, _, contra, -⟩
    · exact ⟨[], failed_of_refused s' why⟩
    · cases contra
  | succ room ih =>
    intro path key s e s' size h
    rcases cases_of_resolveIn_eq_error size h with
      ⟨rfl, why⟩ | ⟨room', keys, same, new, chosen, stopped | ⟨values, s₁, built, made⟩⟩
    · exact ⟨[], failed_of_refused s' why⟩
    · cases same
      obtain ⟨before, next, after, values, s₁, rfl, built, stopped⟩ :=
        exists_of_mapM_eq_error stopped
      obtain ⟨parts, finished⟩ :=
        exists_finishedAll (exists_finished room _) before s values s₁ built
      obtain ⟨calls, failed⟩ := ih (path ++ [key]) next s₁ e s' (by simp; omega) stopped
      exact ⟨_, failed_of_dependency chosen finished failed⟩
    · cases same
      obtain ⟨parts, finished⟩ := exists_finishedAll (exists_finished room _) keys s values s₁ built
      exact ⟨_, failed_of_construct new chosen finished made⟩

/-- A type is not refused because some factory fails. -/
theorem Refused.ne_constructionFailed {path : List κ} {key : κ} {e : ContainerError}
    (h : c.Refused path key e) (name : String) (cause : FactoryError) :
    e ≠ .constructionFailed name cause := by
  rintro rfl
  cases h with
  | unsatisfied _ failed =>
    rcases exists_of_satisfiers_eq_error failed with
      ⟨_, -, contra⟩ | ⟨_, _, _, _, _, -, -, -, -, contra⟩
    · cases contra
    · cases contra

/--
**Factories are called in the post-order of the unfolding.**

The types called are the start of the post-order listing, and the whole of it if an instance
comes out.  If a factory fails, it is the last one called.  If building fails for any other
reason, some type is refused, and of the types on the way down to it nothing has been called
but what stands to the left of that way; in particular the type to be built has not been.
-/
theorem invoked_resolve (c : Container κ ι σ) (target : κ) (s : Session κ σ) (extra : Nat) :
    match c.resolve target s with
    | .ok _ s' => ∃ calls, s'.invoked = s.invoked ++ calls ∧
        c.listing (maxResolution + extra) target = ⟨calls, true⟩
    | .error e s' => ∃ calls, s'.invoked = s.invoked ++ calls ∧
        calls <+: (c.listing (maxResolution + extra) target).listed ∧
        match e with
        | .constructionFailed name cause => ∃ before key args world,
            calls = before ++ [key] ∧ name = c.nameOf key ∧
            (c.definition key).factory args world = (.error cause, s'.world)
        | e => target ∉ calls ∧ ∃ path key,
            c.Open target (path ++ [key]) calls ∧ c.Refused path key e := by
  have longer := c.listing_extends target maxResolution extra
  split
  · rename_i value s' h
    obtain ⟨t, finished⟩ := exists_finished maxResolution [] target s value s' h
    refine ⟨t.postorder, finished.invoked, ?_⟩
    rw [← finished.listed]
    exact longer.2 (by rw [finished.listed])
  · rename_i e s' h
    obtain ⟨calls, failed⟩ := exists_failed maxResolution [] target s e s' (Nat.zero_add _) h
    refine ⟨calls, failed.invoked, failed.listed.trans longer.1, ?_⟩
    rcases failed.stopped with ⟨before, key, cause, args, world, same, rfl, made⟩ |
      ⟨⟨above, refused, way, why⟩, notCalled⟩
    · exact ⟨before, key, args, world, same, rfl, made⟩
    · split
      · rename_i name cause
        exact absurd rfl (why.ne_constructionFailed name cause)
      · exact ⟨notCalled, above, refused, way, why⟩

end Container

end Shapewire
