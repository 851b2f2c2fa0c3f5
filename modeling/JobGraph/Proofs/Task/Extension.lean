import JobGraph.Proofs.Task.Report
import JobGraph.Proofs.Task.Wiring

/-!
# Further edges and arguments

A graph is extended by further edges and by further arguments of its nodes. What a node fills
and what is connected there stays so, and so a graph that is extended misses no input that it
did not miss before.
-/

namespace JobGraph

/-! ### Extended nodes -/

/-- The node runs the same entrypoint under the same id, and has all arguments of the other
one. -/
structure Node.Extends (n' n : Node) : Prop where
  id : n'.id = n.id
  templateName : n'.templateName = n.templateName
  entrypoint : n'.entrypoint = n.entrypoint
  arguments : ∀ name a, n.arguments.get? name = some a → n'.arguments.get? name = some a

/-- A node has all arguments of the one that has none. -/
theorem Node.extends_empty (n : Node) :
  n.Extends { n with arguments := .empty }
  := by
  constructor
  case id => rfl
  case templateName => rfl
  case entrypoint => rfl
  case arguments =>
    intro name a h
    cases h

namespace Node.Extends

variable {n n' : Node} {name : String}

theorem specKey_eq (h : n'.Extends n) :
  n'.specKey = n.specKey
  := by
  rw [specKey, specKey, h.templateName, h.entrypoint]

/-- What is filled stays filled. -/
theorem fills (h : n'.Extends n) (hfills : n.fills name = true) :
  n'.fills name = true
  := by
  unfold Node.fills at hfills ⊢
  cases hargument : n.arguments.get? name with
  | none => simp [hargument] at hfills
  | some a =>
    rw [h.arguments name a hargument]
    simpa [hargument] using hfills

/-- What is connected stays connected along further edges. -/
theorem connection? (h : n'.Extends n) {edges edges' : List Edge} {specs : String → Option Spec}
    (hedges : edges ⊆ edges') {r : OutputRef} (hr : n.connection? edges specs name = some r) :
  n'.connection? edges' specs name = some r
  := by
  obtain ⟨hargument, hedge, hspec⟩ := connection?_eq_some_iff.mp hr
  apply connection?_eq_some_iff.mpr
  rw [h.id]
  exact ⟨h.arguments name _ hargument, hedges hedge, hspec⟩

end Node.Extends

/-- Extended nodes have the same specs under their ids. -/
theorem map_find?_of_extends {spec : SpecKey → Spec} {id : String} {nodes nodes' : List Node}
    (h : List.Forall₂ Node.Extends nodes' nodes) :
  (nodes'.find? (·.id = id)).map (spec ∘ Node.specKey)
    = (nodes.find? (·.id = id)).map (spec ∘ Node.specKey)
  := by
  induction h with
  | nil => rfl
  | cons hn _ ih =>
    rw [List.find?_cons, List.find?_cons, hn.id]
    split
    · simp only [Option.map_some, Function.comp_apply, hn.specKey_eq]
    · apply ih

/-- What is listed node by node is a part of the other list when it is for each node. -/
theorem flatMap_sublist_of_extends {α : Type} {list list' : Node → List α}
    (hlist : ∀ n' n, Node.Extends n' n → (list' n').Sublist (list n)) {nodes nodes' : List Node}
    (h : List.Forall₂ Node.Extends nodes' nodes) :
  (nodes'.flatMap list').Sublist (nodes.flatMap list)
  := by
  induction h with
  | nil => apply List.Sublist.refl
  | cons hn _ ih =>
    rw [List.flatMap_cons, List.flatMap_cons]
    apply List.Sublist.append (hlist _ _ hn) ih

namespace Graph

/-! ### Extended graphs -/

/-- The graph has the nodes of the other one in order, each extended, and all of its edges. -/
structure Extends (g' g : Graph) : Prop where
  nodes : List.Forall₂ Node.Extends g'.nodes g.nodes
  edges : g.edges ⊆ g'.edges

namespace Extends

variable {g g' : Graph} {spec : SpecKey → Spec} {n n' : Node} {policy : ArtifactPolicy}

/-- A node that is extended misses no parameter that it did not miss before. -/
theorem missingParameters_sublist (hn : n'.Extends n) {s : Spec} :
  (n'.missingParameters s).Sublist (n.missingParameters s)
  := by
  unfold Node.missingParameters
  rw [hn.id, hn.templateName]
  apply List.Sublist.map
  apply List.monotone_filter_right
  intro p
  simp only [Bool.and_eq_true, Bool.not_eq_true', Bool.eq_false_iff]
  rintro ⟨hrequired, hunfilled⟩
  use hrequired
  intro hfilled
  apply hunfilled (hn.fills hfilled)

/-- A node that is extended misses no artifact that it did not miss before. -/
theorem missingArtifacts_sublist (h : g'.Extends g) (hn : n'.Extends n) :
  (g'.missingArtifacts (spec ∘ Node.specKey) n').Sublist
    (g.missingArtifacts (spec ∘ Node.specKey) n)
  := by
  have hspec : (spec ∘ Node.specKey) n' = (spec ∘ Node.specKey) n := congrArg spec hn.specKey_eq
  have hspecs : g'.spec? (spec ∘ Node.specKey) = g.spec? (spec ∘ Node.specKey) := by
    funext id
    apply map_find?_of_extends h.nodes
  unfold missingArtifacts
  rw [hn.id, hn.templateName, hspec, hspecs]
  apply List.Sublist.map
  apply List.monotone_filter_right
  intro a
  simp only [Bool.and_eq_true, Bool.not_eq_true', Bool.eq_false_iff, and_assoc]
  rintro ⟨hrequired, hunconnected, hunfilled⟩
  use hrequired
  constructor
  · intro hconnected
    obtain ⟨r, hr⟩ := Option.isSome_iff_exists.mp hconnected
    apply hunconnected
    rw [hn.connection? h.edges hr]
    rfl
  · intro hfilled
    obtain ⟨hparameter, hfills⟩ := Bool.and_eq_true_iff.mp hfilled
    apply hunfilled
    rw [hparameter, hn.fills hfills]
    rfl

/-- A node that is extended misses no input that it did not miss before. -/
theorem missingInputs_sublist (h : g'.Extends g) (hn : n'.Extends n) :
  (g'.missingInputs (spec ∘ Node.specKey) policy n').Sublist
    (g.missingInputs (spec ∘ Node.specKey) policy n)
  := by
  have hspec : (spec ∘ Node.specKey) n' = (spec ∘ Node.specKey) n := congrArg spec hn.specKey_eq
  unfold missingInputs
  rw [hspec]
  apply List.Sublist.append
  · apply missingParameters_sublist hn
  · cases policy with
    | ignore => apply List.Sublist.refl
    | enforce => apply h.missingArtifacts_sublist hn

/-- Each node extends one of the other graph. -/
theorem exists_node (h : g'.Extends g) (hn' : n' ∈ g'.nodes) :
  ∃ n ∈ g.nodes, n'.Extends n
  := by
  obtain ⟨i, hi, rfl⟩ := List.mem_iff_getElem.mp hn'
  have hi' : i < g.nodes.length := h.nodes.length_eq ▸ hi
  use g.nodes[i], List.getElem_mem hi'
  apply h.nodes.get hi hi'

/-- The nodes of an extended graph have the specs that the other nodes have. -/
theorem resolved (h : g'.Extends g) {answer : SpecKey → Except Error Spec}
    (hspec : g.Resolved answer (spec ∘ Node.specKey)) :
  g'.Resolved answer (spec ∘ Node.specKey)
  := by
  intro n' hn'
  obtain ⟨n, hn, hextends⟩ := h.exists_node hn'
  rw [Function.comp_apply, hextends.specKey_eq]
  apply hspec n hn

end Extends

variable {g g' : Graph} {cache : SpecCache} {resolver : SpecKey → Except Error Spec}

/-- Nodes that are resolved have specs that depend on their keys only. -/
theorem exists_keySpec (h : ∀ n ∈ g.nodes, ∃ s, cache.answer resolver n.specKey = .ok s) :
  ∃ spec : SpecKey → Spec, g.Resolved (cache.answer resolver) (spec ∘ Node.specKey)
  := by
  have hkeys : ∀ key ∈ g.nodes.map Node.specKey, ∃ s, cache.answer resolver key = .ok s := by
    intro key hkey
    obtain ⟨n, hn, rfl⟩ := List.mem_map.mp hkey
    apply h n hn
  have : Nonempty Spec := ⟨⟨"", "", [], [], []⟩⟩
  choose! spec hspec using hkeys
  use spec
  intro n hn
  apply hspec n.specKey (List.mem_map_of_mem hn)

/-- When a graph that is accepted and resolved is extended to one that is accepted, both are
compiled, and linked the extended one has no violations but those of the other one, in the same
order. -/
theorem validate_extended (h : g'.Extends g) (hcheck : g.check = .ok ())
    (hcheck' : g'.check = .ok ())
    (hresolved : ∀ n ∈ g.nodes, ∃ s, cache.answer resolver n.specKey = .ok s)
    (policy : ArtifactPolicy) :
  ∃ c c', (g.compile cache resolver).1 = .ok c ∧ (g'.compile cache resolver).1 = .ok c'
    ∧ (validate (c'.link g').tasks (c'.link g').specs policy).Sublist
        (validate (c.link g).tasks (c.link g).specs policy)
  := by
  have hg := check_iff_accepted.mp hcheck
  have hg' := check_iff_accepted.mp hcheck'
  obtain ⟨spec, hspec⟩ := exists_keySpec hresolved
  use ⟨g.nodes.map (g.compiledTask (spec ∘ Node.specKey)), g.specs (spec ∘ Node.specKey)⟩,
    ⟨g'.nodes.map (g'.compiledTask (spec ∘ Node.specKey)), g'.specs (spec ∘ Node.specKey)⟩,
    hg.compile_eq hspec, hg'.compile_eq (h.resolved hspec)
  rw [hg.link_eq, hg'.link_eq, hg.validate_eq, hg'.validate_eq]
  apply flatMap_sublist_of_extends _ h.nodes
  intro n' n hn
  apply h.missingInputs_sublist hn

/-- A file that is handed over, before the maker's output is wired. -/
def handoverApart : Graph where
  nodes := [⟨"make", "make", "main", .empty⟩, ⟨"take", "take", "main", .empty⟩]
  edges := []

theorem handover_sublist :
  (handover "make").Extends handoverApart ∧ handoverApart.check = .ok ()
    ∧ (handover "make").check = .ok ()
    ∧ ∃ c c', (handoverApart.compile .empty fun key => .ok (handoverSpec key)).1 = .ok c
      ∧ ((handover "make").compile .empty fun key => .ok (handoverSpec key)).1 = .ok c'
      ∧ (validate (c'.link (handover "make")).tasks (c'.link (handover "make")).specs
          .enforce).Sublist
        (validate (c.link handoverApart).tasks (c.link handoverApart).specs .enforce)
  := by
  have hextends : (handover "make").Extends handoverApart := by
    constructor
    case nodes =>
      apply List.Forall₂.cons (Node.extends_empty _)
      apply List.Forall₂.cons (Node.extends_empty _) .nil
    case edges => apply List.nil_subset
  have hcheck : handoverApart.check = .ok () := by cbv
  have hcheck' : (handover "make").check = .ok () := by cbv
  use hextends, hcheck, hcheck'
  apply validate_extended hextends hcheck hcheck'
  intro n _
  exact ⟨_, SpecCache.answer_empty⟩

end Graph

end JobGraph
