/-
No analysis looks at where a node lies in the source.

A table without spans (`Arena.withoutSpans`) is the table under its own names, and what the analyses
say does not depend on anything else.  So what a source says of its constructor and of its type is
decided by its table without spans, the place of its root and its name (`SourceTree.Alike`).
-/
import Shapewire.Proofs.Analysis.Renaming
import Shapewire.Proofs.Tree.Outline

namespace Shapewire

/-! ### No other names -/

theorem AnalyzeError.renamed_id : AnalyzeError.renamed id = id := by
  funext e
  cases e <;> rfl

theorem AliasTable.renamed_id : AliasTable.renamed id = id := by
  funext t
  simp [renamed]

theorem UsageRecord.renamed_id : UsageRecord.renamed id = id := by
  have same : Usage.renamed id = id := by
    funext u
    simp [Usage.renamed]
  funext r
  simp [renamed, same]

theorem Findings.renamed_id (x : Findings) : x.renamed id = x := by
  have untouched {α : Type} (e : Except AnalyzeError α) : (e.map id).mapError id = e := by
    cases e <;> rfl
  simp only [renamed, AnalyzeError.renamed_id, AliasTable.renamed_id, UsageRecord.renamed_id,
    List.map_id_fun, untouched]
  simp [Shape.renamed]

/-- A table without spans is the table under its own names. -/
theorem Arena.renames_withoutSpans (a : Arena) : Renames id a a.withoutSpans where
  injective := Function.injective_id
  prototype := rfl
  size := Array.size_map
  parent _ := rfl
  node id := by
    have found : a.withoutSpans.get? id = (a.get? id).map Node.unplaced := Array.getElem?_map
    cases here : a.get? id with
    | none => exact .inl ⟨rfl, by rw [found, here]; rfl⟩
    | some n => exact .inr ⟨n, n.unplaced, rfl, by rw [found, here]; rfl, rfl, rfl⟩
  name _ _ _ := rfl

theorem Arena.findings_withoutSpans (a : Arena) (file : String) (root : NodeId) :
    a.withoutSpans.findings file root = a.findings file root := by
  rw [a.renames_withoutSpans.findings, Findings.renamed_id]

namespace SourceTree

/-- Two parsed sources are the same to every analysis: they have the same name, the same root and
the same table but for where its nodes lie. -/
structure Alike (s s' : SourceTree) : Prop where
  file : s.file = s'.file
  root : s.root = s'.root
  arena : s.arena.withoutSpans = s'.arena.withoutSpans

variable {s s' : SourceTree}

theorem Alike.findings (h : s.Alike s') :
    s.arena.findings s.file s.root = s'.arena.findings s'.file s'.root := by
  rw [← Arena.findings_withoutSpans, h.arena, h.file, h.root, Arena.findings_withoutSpans]

theorem Alike.parameters (h : s.Alike s') : s.parameters = s'.parameters :=
  congrArg Findings.parameters h.findings

theorem Alike.aliases (h : s.Alike s') : s.aliases = s'.aliases :=
  congrArg Findings.aliases h.findings

theorem Alike.usage (h : s.Alike s') : s.usage = s'.usage := congrArg Findings.usage h.findings

theorem Alike.shape (h : s.Alike s') : s.shape = s'.shape := congrArg Findings.shape h.findings

end SourceTree

end Shapewire
