/-
Trees apart from where their nodes lie in the source.

The outline of a tree lists its nodes as its table does, from wherever they start, but for the bytes
they cover.  Nodes have the same outline if they have the same kind and flags and their records hold
subtrees of the same outlines (`Tree.Alike.node`).  Trees of the same outline have the same table
but for the spans in it (`Arena.withoutSpans_ofTree`).
-/
import Shapewire.Proofs.Tree.Kinds
import Shapewire.Proofs.Tree.Site

namespace Shapewire

/-! ### Records -/

namespace Record

variable {ρ ο ρ' ο' ν ν' α : Type} (f : ρ → ρ') (g : ο → ο') (h : ν → ν') (r : Record ρ ο ν)

theorem children_map (kind : NodeKind) (f' : ρ' → List α) (g' : ο' → List α) :
    (r.map f g h).children kind f' g' = r.children kind (f' ∘ f) (g' ∘ g) := by
  cases r
  case call callee arguments =>
    cases arguments <;> simp [map, children, List.flatMap_map, Function.comp_def]
  all_goals simp [map, children, List.flatMap_map, Function.comp_def]

theorem mapM_map {ρ'' ο'' ν'' : Type} {m : Type → Type} [Monad m] [LawfulMonad m]
    (kind : NodeKind) (f' : ρ' → m ρ'') (g' : ο' → m ο'') (h' : ν' → ν'') :
    (r.map f g h).mapM kind f' g' h' = r.mapM kind (f' ∘ f) (g' ∘ g) (h' ∘ h) := by
  cases r
  case call callee arguments => cases arguments <;> simp [map, mapM, List.mapM_map]
  all_goals simp [map, mapM, List.mapM_map, Function.comp_def]

/-- What is listed for each slot may be changed in the list. -/
theorem map_children {β : Type} (kind : NodeKind) (φ : α → β) (f : ρ → List α) (g : ο → List α) :
    (r.children kind f g).map φ = r.children kind (List.map φ ∘ f) (List.map φ ∘ g) := by
  cases r
  case loop =>
    by_cases last : kind = .doStatement
    all_goals simp [children, last]
  all_goals simp [children, List.map_flatMap, Function.comp_def]

end Record

/-! ### Outlines -/

/-- The entry of a node that lies nowhere. -/
def Entry.unplaced (e : Entry) : Entry := { e with span := .point 0 }

/-- The nodes of a tree, from wherever they start. -/
abbrev Outline := Nat → List Entry

namespace Outline

/-- The number of nodes. -/
def size (o : Outline) : Nat := (o 0).length

/-- The place of a tree whose nodes start at the running position. -/
def place (o : Outline) : StateM Nat NodeRef := fun base =>
  (some (base + o.size - 1), base + o.size)

/-- The place of a tree that may be missing. -/
def place? : Option Outline → StateM Nat NodeRef
  | none => pure none
  | some o => o.place

/-- The nodes of neighbouring trees. -/
def row (base : Nat) : List Outline → List Entry
  | [] => []
  | o :: os => o base ++ row (base + o.size) os

end Outline

namespace Tree

/-- The nodes of a tree as its table lists them, but for where they lie in the source. -/
def outline (t : Tree) : Outline := fun base => (t.entries base).map Entry.unplaced

theorem size_outline (t : Tree) : t.outline.size = t.size := by
  rw [Outline.size, outline, List.length_map, length_entries]

theorem place_outline (t : Tree) : t.outline.place = t.place := by
  funext base
  rw [Outline.place, size_outline]
  rfl

theorem place?_outline (t? : Option Tree) : Outline.place? (t?.map outline) = place? t? := by
  cases t? with
  | none => rfl
  | some t => exact t.place_outline

theorem row_outline (base : Nat) (ts : List Tree) :
    Outline.row base (ts.map outline) = (entriesOf base ts).map Entry.unplaced := by
  induction ts generalizing base with
  | nil =>
    rw [entriesOf]
    rfl
  | cons t ts ih =>
    rw [entriesOf, List.map_append, ← ih, List.map_cons, Outline.row, size_outline]
    rfl

end Tree

/-- The record with its subtrees outlined. -/
def Record.outline (r : Record Tree (Option Tree) String) :
    Record Outline (Option Outline) String := r.map Tree.outline (Option.map Tree.outline) id

/-- The outlines of the subtrees, in the order of the source. -/
theorem Record.children_outline (kind : NodeKind) (r : Record Tree (Option Tree) String) :
    r.outline.children kind (fun o => [o]) Option.toList
      = (r.children kind (fun c => [c]) Option.toList).map Tree.outline := by
  rw [outline, children_map, map_children]
  congr 1
  funext t?
  cases t? <;> rfl

/-- The places of the subtrees. -/
theorem Record.mapM_outline (kind : NodeKind) (r : Record Tree (Option Tree) String) :
    r.outline.mapM kind Outline.place Outline.place? id
      = r.mapM kind Tree.place Tree.place? id := by
  have places : Outline.place ∘ Tree.outline = Tree.place := funext Tree.place_outline
  have places? : Outline.place? ∘ Option.map Tree.outline = Tree.place? :=
    funext Tree.place?_outline
  rw [outline, mapM_map, places, places?, Function.comp_id]

namespace Tree

variable {t t' : Tree}

/-- Trees that are the same but for where their nodes lie in the source. -/
def Alike (t t' : Tree) : Prop := t.outline = t'.outline

theorem Alike.size (h : t.Alike t') : t.size = t'.size := by
  rw [← size_outline, h, size_outline]

theorem outline_node (kind : NodeKind) (flags : NodeFlags) (span : Span)
    (r : Record Tree (Option Tree) String) (base : Nat) :
    (node kind flags span (some r)).outline base
      = Outline.row base (r.outline.children kind (fun o => [o]) Option.toList) ++
        [⟨kind, flags, .point 0,
          some (r.outline.mapM kind Outline.place Outline.place? id base).1⟩] := by
  rw [outline, entries, List.map_append, ← row_outline, Record.children_outline,
    Record.mapM_outline]
  rfl

/-- A leaf is alike wherever it lies. -/
theorem Alike.leaf {kind : NodeKind} {flags : NodeFlags} {span span' : Span} :
    (Tree.node kind flags span none).Alike (.node kind flags span' none) := by
  funext base
  rw [outline, outline, entries, entries, List.map_append, List.map_append]
  rfl

end Tree

/-- Records of one form that hold the same but for where subtrees lie in the source. -/
inductive Record.Alike : Record Tree (Option Tree) String → Record Tree (Option Tree) String → Prop
  | identifier : Alike (.identifier name) (.identifier name)
  | literal : Alike (.literal text) (.literal text)
  | binary (left : l.Alike l') (right : r.Alike r') : Alike (.binary l o r) (.binary l' o r')
  | unary (operand : t.Alike t') : Alike (.unary o t) (.unary o t')
  | call (callee : t.Alike t') (arguments : List.Forall₂ Tree.Alike us us') :
    Alike (.call t (some us)) (.call t' (some us'))
  | bareCall (callee : t.Alike t') : Alike (.call t none) (.call t' none)
  | access (object : t.Alike t') (name : u.Alike u') : Alike (.access t u b) (.access t' u' b)
  | conditional (condition : t.Alike t') (whenTrue : u.Alike u') (whenFalse : v.Alike v') :
    Alike (.conditional t u v) (.conditional t' u' v')
  | wrapped (expression : Option.Rel Tree.Alike t? t?') : Alike (.wrapped t?) (.wrapped t?')
  | template (expressions : List.Forall₂ Tree.Alike us us') :
    Alike (.template texts us) (.template texts us')
  | taggedTemplate (tag : t.Alike t') (body : u.Alike u') :
    Alike (.taggedTemplate t u) (.taggedTemplate t' u')
  | elements (items : List.Forall₂ Tree.Alike us us') : Alike (.elements us) (.elements us')
  | property (name : t.Alike t') (value : u.Alike u') : Alike (.property t u) (.property t' u')
  | shorthand (name : t.Alike t') : Alike (.shorthand t) (.shorthand t')
  | function (name : Option.Rel Tree.Alike t? t?') (parameters : List.Forall₂ Tree.Alike us us')
    (body : u.Alike u') : Alike (.function t? us u b) (.function t?' us' u' b)
  | parameter (name : t.Alike t') (initializer : Option.Rel Tree.Alike u? u?') :
    Alike (.parameter b t u?) (.parameter b t' u?')
  | sourceFile (statements : List.Forall₂ Tree.Alike us us') :
    Alike (.sourceFile file us) (.sourceFile file us')
  | block (statements : List.Forall₂ Tree.Alike us us') : Alike (.block us) (.block us')
  | declarationList (declarations : List.Forall₂ Tree.Alike us us') :
    Alike (.declarationList us) (.declarationList us')
  | declaration (name : t.Alike t') (initializer : Option.Rel Tree.Alike u? u?') :
    Alike (.declaration t u?) (.declaration t' u?')
  | branch (condition : t.Alike t') (whenTrue : u.Alike u')
    (whenFalse : Option.Rel Tree.Alike v? v?') : Alike (.branch t u v?) (.branch t' u' v?')
  | loop (initializer : Option.Rel Tree.Alike i? i?') (condition : Option.Rel Tree.Alike t? t?')
    (incrementor : Option.Rel Tree.Alike u? u?') (body : v.Alike v') :
    Alike (.loop i? t? u? v) (.loop i?' t?' u?' v')
  | iteration (binding : t.Alike t') (subject : u.Alike u') (body : v.Alike v') :
    Alike (.iteration t u v) (.iteration t' u' v')
  | attempt (body : t.Alike t') (onFault : Option.Rel Tree.Alike u? u?')
    (finalizer : Option.Rel Tree.Alike v? v?') : Alike (.attempt t u? v?) (.attempt t' u?' v?')
  | handler (name : Option.Rel Tree.Alike t? t?') (body : u.Alike u') :
    Alike (.handler t? u) (.handler t?' u')
  | jump (label : Option.Rel Tree.Alike t? t?') : Alike (.jump t?) (.jump t?')
  | switch (subject : t.Alike t') (clauses : List.Forall₂ Tree.Alike us us') :
    Alike (.switch t us) (.switch t' us')
  | clause (test : Option.Rel Tree.Alike t? t?') (statements : List.Forall₂ Tree.Alike us us') :
    Alike (.clause t? us) (.clause t?' us')
  | labeled (label : t.Alike t') (statement : u.Alike u') : Alike (.labeled t u) (.labeled t' u')

theorem Tree.map_outline {us us' : List Tree} (h : List.Forall₂ Tree.Alike us us') :
    us.map outline = us'.map outline := by
  induction h with
  | nil => rfl
  | cons first _ ih => rw [List.map_cons, List.map_cons, ih, first]

theorem Tree.map_outline? {t? t?' : Option Tree} (h : Option.Rel Tree.Alike t? t?') :
    t?.map outline = t?'.map outline := by
  cases h with
  | none => rfl
  | some same => exact congrArg some same

/-- Records that are alike have the same outline. -/
theorem Record.Alike.outline {r r' : Record Tree (Option Tree) String} (h : r.Alike r') :
    r.outline = r'.outline := by
  cases h
  case identifier => rfl
  case literal => rfl
  all_goals
    simp only [Record.outline, map, Option.map_some]
    congr 1
    all_goals first
      | assumption
      | (apply Tree.map_outline; assumption)
      | (apply Tree.map_outline?; assumption)
      | (congr 1; apply Tree.map_outline; assumption)

theorem Record.Alike.flags {r r' : Record Tree (Option Tree) String} (h : r.Alike r') :
    r.flags = r'.flags := by cases h <;> rfl

/-- Nodes are alike if their records are. -/
theorem Tree.Alike.node {kind : NodeKind} {flags : NodeFlags} {span span' : Span}
    {r r' : Record Tree (Option Tree) String} (records : r.Alike r') :
    (Tree.node kind flags span (some r)).Alike (.node kind flags span' (some r')) := by
  funext base
  rw [outline_node, outline_node, records.outline]

/-! ### Tables -/

/-- The node as if it lay nowhere. -/
def Node.unplaced (n : Node) : Node := { n with span := .point 0 }

namespace Arena

/-- The table but for where its nodes lie in the source. -/
def withoutSpans (a : Arena) : Arena := { a with nodes := a.nodes.map Node.unplaced }

theorem withoutSpans_adopt (parent : NodeId) (a : Arena) (child : NodeId) :
    (a.adopt parent child).withoutSpans = a.withoutSpans.adopt parent child := rfl

theorem withoutSpans_foldl_adopt (parent : NodeId) (ids : List NodeId) (a : Arena) :
    (ids.foldl (adopt parent) a).withoutSpans = ids.foldl (adopt parent) a.withoutSpans := by
  induction ids generalizing a with
  | nil => rfl
  | cons id ids ih => rw [List.foldl_cons, List.foldl_cons, ih, withoutSpans_adopt]

theorem withoutSpans_pushNode (a : Arena) (n : Node) :
    (a.pushNode n).withoutSpans = a.withoutSpans.pushNode n.unplaced := by
  simp [withoutSpans, pushNode]

theorem withoutSpans_add (a : Arena) (kind : NodeKind) (flags : NodeFlags) (span : Span)
    (r? : Option NodeRecord) : (a.add kind flags span r?).2.withoutSpans
      = (a.withoutSpans.add kind flags (.point 0) r?).2 := by
  have size : a.withoutSpans.size = a.size := Array.size_map
  cases r? with
  | none => exact withoutSpans_pushNode a _
  | some r =>
    simp only [add, withoutSpans_foldl_adopt, withoutSpans_pushNode, size]
    rfl

theorem withoutSpans_addEntry (a : Arena) (e : Entry) :
    (a.addEntry e).withoutSpans = a.withoutSpans.addEntry e.unplaced := by
  unfold addEntry
  dsimp only [Entry.unplaced]
  split
  · exact withoutSpans_add a _ _ _ _
  · exact withoutSpans_add _ _ _ _ _
  · exact withoutSpans_add a _ _ _ _

/-- The table of a tree, but for spans, is that of its outline. -/
theorem withoutSpans_ofTree (t : Tree) :
    (ofTree t).withoutSpans = (t.outline 0).foldl addEntry forSource := by
  have each (es : List Entry) (a : Arena) : (es.foldl addEntry a).withoutSpans
      = (es.map Entry.unplaced).foldl addEntry a.withoutSpans := by
    induction es generalizing a with
    | nil => rfl
    | cons e es ih =>
      rw [List.foldl_cons, ih, withoutSpans_addEntry, List.map_cons, List.foldl_cons]
  have start : forSource.withoutSpans = forSource := by simp [forSource, withNames, withoutSpans]
  rw [ofTree, each, start]
  rfl

end Arena

/-- Trees that are alike have the same table but for spans. -/
theorem Tree.Alike.withoutSpans_ofTree {t t' : Tree} (h : t.Alike t') :
    (Arena.ofTree t).withoutSpans = (Arena.ofTree t').withoutSpans := by
  rw [Arena.withoutSpans_ofTree, Arena.withoutSpans_ofTree, h]

end Shapewire
