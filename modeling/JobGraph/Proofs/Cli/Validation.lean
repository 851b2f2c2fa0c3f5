import JobGraph.Cli.Session
import JobGraph.Proofs.Graph.Order
import JobGraph.Proofs.Pipeline.Analysis

/-!
# What validation prints

The search for a cycle and the order of execution decide by different means whether a graph has
a cycle, and come to the same end. So the order that is printed of a graph without defects
lists every node.
-/

namespace JobGraph

namespace Cli

/-- A request whose validation succeeds has an accepted graph, whose order is printed. -/
theorem Setup.output_of_validate {s : Setup} {request : Request}
    (h : (s.validate request).failure = none) :
  request.graph.Accepted ∧ (s.validate request).output = orderText request.graph
  := by
  rw [validate] at h ⊢
  split at h
  case h_1 => cases h
  case h_2 c hanalyze =>
    constructor
    · apply Graph.accepted_of_analyze hanalyze
    · rfl
  case h_3 => cases h

end Cli

/-- In a graph with different nodes that are joined to each other only, no cycle is found
exactly when the order of execution lists every node. When a graph is reported to be valid, the
order that is printed lists every node once. -/
theorem Graph.findCycle_agrees :
  (∀ g : Graph, g.ids.Nodup → (∀ e ∈ g.edges, e.source ∈ g.ids ∧ e.target ∈ g.ids) →
      (g.findCycle = none ↔ ∀ id ∈ g.ids, id ∈ g.executionOrder))
    ∧ ∀ (s : Cli.Setup) (request : Request), (s.validate request).failure = none →
      ∃ order : List String, order.Perm request.graph.ids
        ∧ (s.validate request).output = Cli.lines ("Graph is valid." :: "Execution order:" ::
          (order.zipIdx 1).map fun (id, place) => "  " ++ toString place ++ ". " ++ id)
  := by
  constructor
  · intro g _ hedges
    have hsource : ∀ s t, g.Joins s t → s ∈ g.ids := by
      intro s t hst
      apply (hedges ⟨s, t⟩ hst).1
    rw [findCycle_eq_none_iff hsource, forall_mem_executionOrder_iff hsource]
  · intro s request hvalid
    obtain ⟨haccepted, houtput⟩ := Cli.Setup.output_of_validate hvalid
    use request.graph.executionOrder, haccepted.executionOrder_perm, houtput

/-- A node that waits for itself, and one behind it. -/
def looping : Graph where
  nodes := [⟨"behind", "trim", "main", .empty⟩, ⟨"loop", "trim", "main", .empty⟩]
  edges := [⟨"loop", "behind"⟩, ⟨"loop", "loop"⟩]

/-- Two steps that trim, the later one drawn first. -/
def trimmingBackwards : Graph where
  nodes := [⟨"b", "trim", "main", .ofList [("input_path", .literal "/b")]⟩,
    ⟨"a", "trim", "main", .ofList [("input_path", .literal "/a")]⟩]
  edges := [⟨"a", "b"⟩]

/-- A session that has a template under every name. -/
def trimmingSetup : Cli.Setup :=
  ⟨{ trimmer with settings := .default }, ⟨fun _ => [], fun _ => []⟩, []⟩

theorem looping_found :
  looping.ids.Nodup ∧ looping.findCycle ≠ none ∧ "behind" ∉ looping.executionOrder
    ∧ (trimmingSetup.validate ⟨trimmingBackwards, none, .submit⟩).failure = none
    ∧ ∃ order : List String, order.Perm ["b", "a"]
      ∧ (trimmingSetup.validate ⟨trimmingBackwards, none, .submit⟩).output
        = Cli.lines ("Graph is valid." :: "Execution order:" ::
          (order.zipIdx 1).map fun (id, place) => "  " ++ toString place ++ ". " ++ id)
  := by
  obtain ⟨hagree, hprinted⟩ := Graph.findCycle_agrees
  have hdistinct : looping.ids.Nodup := by decide
  have hedges : ∀ e ∈ looping.edges, e.source ∈ looping.ids ∧ e.target ∈ looping.ids := by decide
  have hbehind : "behind" ∉ looping.executionOrder := by
    have horder : looping.executionOrder = [] := by cbv
    rw [horder]
    apply List.not_mem_nil
  have hfound : looping.findCycle ≠ none := by
    intro hnone
    apply hbehind ((hagree looping hdistinct hedges).mp hnone "behind" List.mem_cons_self)
  have hcheck : trimmingBackwards.check = .ok () := by cbv
  have hspec : ∀ n ∈ trimmingBackwards.nodes,
      (trimmingSetup.pipeline.spec n.templateName n.entrypoint).result = .ok (trimmingSpec n) := by
    intro n hn
    rcases List.mem_pair.mp hn with rfl | rfl <;> rfl
  have hreport : trimmingBackwards.nodes.flatMap (trimmingBackwards.missingInputs trimmingSpec
      trimmingSetup.pipeline.settings.artifactPolicy) = [] := by cbv
  have hanalyze := Pipeline.analyze_eq_ok (Graph.check_iff_accepted.mp hcheck)
    (List.cons_ne_nil _ _) hspec
  rw [hreport] at hanalyze
  have hvalid : (trimmingSetup.validate ⟨trimmingBackwards, none, .submit⟩).failure = none := by
    rw [Cli.Setup.validate, hanalyze]
    rfl
  use hdistinct, hfound, hbehind, hvalid
  apply hprinted _ _ hvalid

end JobGraph
