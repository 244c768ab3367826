/-
What atoms stand for.

An atom that a table has handed out keeps its name for good: a table only ever grows at its
end.  And the atom handed out for a name stands for that name.
-/
import Shapewire.Text.NameTable

namespace Shapewire

namespace NameTable

/-- Every atom of the one table has the same name in the other. -/
def Extends (t t' : NameTable) : Prop :=
  ∀ atom name, t.resolve? atom = some name → t'.resolve? atom = some name

theorem Extends.refl (t : NameTable) : t.Extends t := fun _ _ h => h

theorem Extends.trans {t t' t'' : NameTable} (h : t.Extends t') (h' : t'.Extends t'') :
    t.Extends t'' :=
  fun atom name found => h' atom name (h atom name found)

theorem extends_intern (t : NameTable) (name : String) : t.Extends (t.intern name).2 := by
  intro atom known found
  unfold intern
  split
  · exact found
  · simp only [resolve?] at found ⊢
    obtain ⟨inside, -⟩ := Array.getElem?_eq_some_iff.mp found
    rw [Array.getElem?_push_lt inside]
    rw [← found, Array.getElem?_eq_getElem inside]

/-- The atom of a name stands for it. -/
theorem resolve?_intern (t : NameTable) (name : String) :
    (t.intern name).2.resolve? (t.intern name).1 = some name := by
  unfold intern
  split
  · rename_i atom found
    obtain ⟨⟨names⟩⟩ := t
    rw [lookup, List.idxOf?_toArray] at found
    obtain ⟨inside, same, -⟩ := List.idxOf?_eq_some_iff.mp found
    simp only [resolve?, List.getElem?_toArray]
    rw [List.getElem?_eq_getElem inside, same]
  · simp [resolve?]

theorem resolve_of_resolve? {t : NameTable} {atom : Atom} {name : String}
    (h : t.resolve? atom = some name) : t.resolve atom = name := by
  rw [resolve, h]
  rfl

end NameTable

end Shapewire
