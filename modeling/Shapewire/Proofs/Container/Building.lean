/-
When a type can be built, and what is built then.

Building succeeds exactly when the unfolding can be finished, along paths without repeats that
are no longer than `maxResolution`, and `evaluate` succeeds on it.  Both directions are
inductions on the room.  The path above a type matters only in that no type below may be on
it, so the statements carry it as a list of types to be avoided.
-/
import Shapewire.Proofs.Container.Resolution

namespace Shapewire

namespace Container

variable {κ ι σ : Type} [DecidableEq κ] {c : Container κ ι σ}

/-! ### What has been built -/

/-- An unfolding tells how an instance came to be. -/
structure Finished (c : Container κ ι σ) (room : Nat) (path : List κ) (key : κ)
    (s s' : Session κ σ) (value : ι) (t : Unfolding κ) : Prop where
  root : t.root = key
  unfolds : c.Unfolds t
  evaluated : c.evaluate t s.world = (.ok value, s'.world)
  invoked : s'.invoked = s.invoked ++ t.postorder
  listed : c.listing room key = ⟨t.postorder, true⟩
  avoids : ∀ k ∈ t.postorder, k ∉ path

/-- Unfoldings tell how some instances came to be, one after the other. -/
structure FinishedAll (c : Container κ ι σ) (room : Nat) (path : List κ) (keys : List κ)
    (s s' : Session κ σ) (values : List ι) (ts : List (Unfolding κ)) : Prop where
  roots : ts.map Unfolding.root = keys
  unfolds : ∀ t ∈ ts, c.Unfolds t
  evaluated : c.evaluateAll ts s.world = (.ok values, s'.world)
  invoked : s'.invoked = s.invoked ++ Unfolding.postorderAll ts
  listed : Listing.join (keys.map (c.listing room)) = ⟨Unfolding.postorderAll ts, true⟩
  avoids : ∀ k ∈ Unfolding.postorderAll ts, k ∉ path

theorem FinishedAll.nil (room : Nat) (path : List κ) (s : Session κ σ) :
    c.FinishedAll room path [] s s [] [] where
  roots := rfl
  unfolds := by intro t mem; cases mem
  evaluated := by rw [evaluateAll]
  invoked := by simp [Unfolding.postorderAll]
  listed := by simp [Listing.join, Unfolding.postorderAll]
  avoids := by simp [Unfolding.postorderAll]

theorem FinishedAll.cons {room : Nat} {path keys : List κ} {key : κ} {s s₁ s' : Session κ σ}
    {value : ι} {values : List ι} {t : Unfolding κ} {ts : List (Unfolding κ)}
    (h : c.Finished room path key s s₁ value t)
    (hs : c.FinishedAll room path keys s₁ s' values ts) :
    c.FinishedAll room path (key :: keys) s s' (value :: values) (t :: ts) where
  roots := by rw [List.map_cons, h.root, hs.roots]
  unfolds := by
    intro u mem
    rcases List.mem_cons.mp mem with rfl | mem
    · exact h.unfolds
    · exact hs.unfolds u mem
  evaluated := by
    rw [evaluateAll, h.evaluated]
    simp only [hs.evaluated]
  invoked := by rw [hs.invoked, h.invoked, List.append_assoc, Unfolding.postorderAll]
  listed := by
    rw [List.map_cons, Listing.join, h.listed, hs.listed]
    simp [Listing.append, Unfolding.postorderAll]
  avoids := by
    intro k mem
    rw [Unfolding.postorderAll, List.mem_append] at mem
    rcases mem with mem | mem
    · exact h.avoids k mem
    · exact hs.avoids k mem

/-- What is built from finished dependencies is finished. -/
theorem Finished.node {room : Nat} {path keys : List κ} {key : κ} {s s₁ s' : Session κ σ}
    {value : ι} {values : List ι} {ts : List (Unfolding κ)} (new : key ∉ path)
    (chosen : c.dependencies? key = some keys)
    (hs : c.FinishedAll room (path ++ [key]) keys s s₁ values ts)
    (made : c.construct key ⟨values⟩ s₁ = .ok value s') :
    c.Finished (room + 1) path key s s' value (.node key ts) where
  root := rfl
  unfolds := .node (by rw [chosen, hs.roots]) hs.unfolds
  evaluated := by
    rw [evaluate, hs.evaluated]
    exact (construct_eq_ok_iff.mp made).1
  invoked := by
    rw [(construct_eq_ok_iff.mp made).2, hs.invoked, List.append_assoc, Unfolding.postorder]
  listed := by
    rw [listing, chosen]
    simp [hs.listed, Listing.append, Unfolding.postorder]
  avoids := by
    intro k mem
    rw [Unfolding.postorder, List.mem_append, List.mem_singleton] at mem
    rcases mem with mem | rfl
    · intro above
      exact hs.avoids k mem (List.mem_append_left _ above)
    · exact new

theorem exists_finishedAll {build : κ → Resolver κ σ ι} {room : Nat} {path : List κ}
    (each : ∀ key s value s', build key s = .ok value s' →
      ∃ t, c.Finished room path key s s' value t) (keys : List κ) :
    ∀ (s : Session κ σ) (values : List ι) (s' : Session κ σ),
      keys.mapM build s = .ok values s' → ∃ ts, c.FinishedAll room path keys s s' values ts := by
  induction keys with
  | nil =>
    intro s values s' h
    cases h
    exact ⟨[], .nil room path s⟩
  | cons key keys ih =>
    intro s values s' h
    obtain ⟨value, s₁, values', built, others, rfl⟩ := mapM_cons_eq_ok_iff.mp h
    obtain ⟨t, ht⟩ := each key s value s₁ built
    obtain ⟨ts, hts⟩ := ih s₁ values' s' others
    exact ⟨t :: ts, .cons ht hts⟩

/-- Everything that is built has a finished unfolding. -/
theorem exists_finished (room : Nat) :
    ∀ (path : List κ) (key : κ) (s : Session κ σ) (value : ι) (s' : Session κ σ),
      c.resolveIn room path key s = .ok value s' →
        ∃ t, c.Finished room path key s s' value t := by
  induction room with
  | zero =>
    intro path key s value s' h
    obtain ⟨_, _, _, _, contra, -⟩ := exists_of_resolveIn_eq_ok h
    cases contra
  | succ room ih =>
    intro path key s value s' h
    obtain ⟨room', keys, values, s₁, size, new, chosen, built, made⟩ :=
      exists_of_resolveIn_eq_ok h
    cases size
    obtain ⟨ts, finished⟩ := exists_finishedAll (ih (path ++ [key])) keys s values s₁ built
    exact ⟨.node key ts, .node new chosen finished made⟩

/-! ### The paths below what has been built -/

/-- The ways down from a type fit in the room and meet nothing twice and nothing on the path. -/
structure Sound (c : Container κ ι σ) (room : Nat) (path way : List κ) : Prop where
  satisfied : ∀ key ∈ way, c.Satisfied key
  nodup : way.Nodup
  length : way.length ≤ room
  avoids : ∀ key ∈ way, key ∉ path

/-- A way is sound if its first type is and the rest is sound below that type. -/
theorem sound_cons_iff {room : Nat} {path way : List κ} {key : κ} :
    c.Sound (room + 1) path (key :: way) ↔
      c.Satisfied key ∧ key ∉ path ∧ c.Sound room (path ++ [key]) way := by
  constructor
  · intro h
    refine ⟨h.satisfied key List.mem_cons_self, h.avoids key List.mem_cons_self, ?_, ?_, ?_, ?_⟩
    · exact fun k mem => h.satisfied k (List.mem_cons_of_mem _ mem)
    · exact (List.nodup_cons.mp h.nodup).2
    · have : way.length + 1 ≤ room + 1 := h.length
      omega
    · intro k mem
      have out := h.avoids k (List.mem_cons_of_mem _ mem)
      have ne : k ≠ key := fun same => (List.nodup_cons.mp h.nodup).1 (same ▸ mem)
      simp [out, ne]
  · rintro ⟨satisfied, new, h⟩
    refine ⟨?_, List.nodup_cons.mpr ⟨?_, h.nodup⟩, ?_, ?_⟩
    · intro k mem
      rcases List.mem_cons.mp mem with rfl | mem
      · exact satisfied
      · exact h.satisfied k mem
    · intro mem
      exact h.avoids key mem (by simp)
    · show way.length + 1 ≤ room + 1
      have := h.length
      omega
    · intro k mem
      rcases List.mem_cons.mp mem with rfl | mem
      · exact new
      · intro above
        exact h.avoids k mem (List.mem_append_left _ above)

/-- Everything below what has been built is sound. -/
theorem sound_of_resolveIn (room : Nat) :
    ∀ (path : List κ) (key : κ) (s : Session κ σ) (value : ι) (s' : Session κ σ),
      c.resolveIn room path key s = .ok value s' →
        ∀ way, c.Path key way → c.Sound room path way := by
  induction room with
  | zero =>
    intro path key s value s' h
    obtain ⟨_, _, _, _, contra, -⟩ := exists_of_resolveIn_eq_ok h
    cases contra
  | succ room ih =>
    intro path key s value s' h way down
    obtain ⟨room', keys, values, s₁, size, new, chosen, built, -⟩ := exists_of_resolveIn_eq_ok h
    cases size
    have satisfied := satisfied_iff.mpr ⟨keys, chosen⟩
    cases down with
    | here =>
      refine sound_cons_iff.mpr ⟨satisfied, new, ?_, .nil, Nat.zero_le _, ?_⟩
      · intro k mem
        cases mem
      · intro k mem
        cases mem
    | @down _ next keys' rest chosen' mem below =>
      obtain rfl : keys = keys' := by simpa [chosen] using chosen'
      obtain ⟨s₂, value₂, s₃, part⟩ := exists_of_mapM_eq_ok built mem
      exact sound_cons_iff.mpr ⟨satisfied, new, ih _ next s₂ value₂ s₃ part rest below⟩

/-! ### What can be built -/

omit [DecidableEq κ] in
theorem mapM_of_evaluateAll {build : κ → Resolver κ σ ι} (ts : List (Unfolding κ)) :
    ∀ (s : Session κ σ) (values : List ι) (world : σ),
      (∀ t ∈ ts, ∀ s value world, c.evaluate t s.world = (.ok value, world) →
        build t.root s = .ok value ⟨world, s.invoked ++ t.postorder⟩) →
      c.evaluateAll ts s.world = (.ok values, world) →
        (ts.map Unfolding.root).mapM build s
          = .ok values ⟨world, s.invoked ++ Unfolding.postorderAll ts⟩ := by
  induction ts with
  | nil =>
    intro s values world _ h
    rw [evaluateAll] at h
    cases h
    simp [Unfolding.postorderAll, pure, EStateM.pure]
  | cons t ts ih =>
    intro s values world each h
    rw [evaluateAll] at h
    split at h
    · cases h
    · rename_i value world₁ first
      split at h
      · rename_i values' world₂ others
        cases h
        rw [List.map_cons]
        have built := each t List.mem_cons_self s _ _ first
        refine mapM_cons_eq_ok_iff.mpr ⟨value, _, values', built, ?_, rfl⟩
        have := ih ⟨world₁, s.invoked ++ t.postorder⟩ values' world
          (fun u mem => each u (List.mem_cons_of_mem _ mem)) others
        rw [this, Unfolding.postorderAll, List.append_assoc]
      · cases h

/-- A sound unfolding on which `evaluate` succeeds is built. -/
theorem resolveIn_of_sound (room : Nat) :
    ∀ (path : List κ) (t : Unfolding κ) (s : Session κ σ) (value : ι) (world : σ),
      c.Unfolds t → (∀ way, c.Path t.root way → c.Sound room path way) →
      c.evaluate t s.world = (.ok value, world) →
        c.resolveIn room path t.root s = .ok value ⟨world, s.invoked ++ t.postorder⟩ := by
  induction room with
  | zero =>
    intro path t s value world _ sound _
    have : 1 ≤ 0 := (sound _ (.here _)).length
    omega
  | succ room ih =>
    rintro path t s value world ⟨chosen, finished⟩ sound evaluated
    rename_i key parts
    rw [evaluate] at evaluated
    split at evaluated
    · rename_i values world₁ all
      have new := (sound_cons_iff.mp (sound _ (.here key))).2.1
      -- A way down from a part is a way down from the type with the type itself taken off.
      have each : ∀ part ∈ parts, ∀ s value world, c.evaluate part s.world = (.ok value, world) →
          c.resolveIn room (path ++ [key]) part.root s
            = .ok value ⟨world, s.invoked ++ part.postorder⟩ := by
        intro part mem s value world h
        refine ih _ part s value world (finished part mem) ?_ h
        intro way below
        have := sound _ (.down chosen (List.mem_map_of_mem mem) below)
        exact (sound_cons_iff.mp this).2.2
      show c.resolveIn (room + 1) path key s = _
      rw [resolveIn_of_dependencies new chosen]
      simp only [bind, EStateM.bind, mapM_of_evaluateAll parts s values world₁ each all]
      refine construct_eq_ok_iff.mpr ⟨evaluated, ?_⟩
      rw [Unfolding.postorder, List.append_assoc]
    · cases evaluated

/--
**A type is built exactly when its unfolding can be built.**

On every way down from it all types can be analysed and have candidates, none occurs twice and
there are at most `maxResolution` of them; and on the finished unfolding every factory succeeds
when each is called on what was built for the parameters.  The instance and the world that are
left are those of that evaluation, and the factories called are those of the unfolding, once
for each place in it.
-/
theorem resolve_eq_ok_iff (c : Container κ ι σ) (target : κ) (s s' : Session κ σ) (value : ι) :
    c.resolve target s = .ok value s' ↔
      (∀ way, c.Path target way →
        (∀ key ∈ way, c.Satisfied key) ∧ way.Nodup ∧ way.length ≤ maxResolution) ∧
      ∃ t : Unfolding κ, t.root = target ∧ c.Unfolds t ∧
        c.evaluate t s.world = (.ok value, s'.world) ∧ s'.invoked = s.invoked ++ t.postorder := by
  constructor
  · intro h
    refine ⟨?_, ?_⟩
    · intro way down
      have sound := sound_of_resolveIn maxResolution [] target s value s' h way down
      exact ⟨sound.satisfied, sound.nodup, sound.length⟩
    · obtain ⟨t, finished⟩ := exists_finished maxResolution [] target s value s' h
      exact ⟨t, finished.root, finished.unfolds, finished.evaluated, finished.invoked⟩
  · rintro ⟨sound, t, rfl, unfolds, evaluated, invoked⟩
    have built : c.resolve t.root s = .ok value ⟨s'.world, s.invoked ++ t.postorder⟩ := by
      refine resolveIn_of_sound maxResolution [] t s value s'.world unfolds ?_ evaluated
      intro way down
      obtain ⟨satisfied, nodup, length⟩ := sound way down
      exact ⟨satisfied, nodup, length, by simp⟩
    rw [built, ← invoked]

end Container

end Shapewire
