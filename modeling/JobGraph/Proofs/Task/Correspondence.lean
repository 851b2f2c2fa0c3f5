import JobGraph.Proofs.Graph.Argument
import JobGraph.Proofs.Task.Caching
import Mathlib

/-!
# The tasks of an accepted graph

An accepted graph is compiled exactly when its resolver has a spec for every node, and then its
tasks are those of its nodes, one by one: `Task.Compiles` says what the task of a node has. That an
edge leads to no task is not met with, so every failure is one of the resolver.
-/

namespace JobGraph

/-- The task is the node's, compiled with the spec and not yet linked. -/
structure Task.Compiles (task : Task) (g : Graph) (n : Node) (spec : Spec) : Prop where
  nodeId : task.nodeId = n.id
  templateRef : task.templateRef = ⟨n.templateName, n.entrypoint⟩
  /-- The parameters are the arguments that the spec declares, as text. -/
  parameters : ∀ name text, task.parameters.get? name = some text
    ↔ (∃ p ∈ spec.parameters, p.name = name)
      ∧ ∃ a, n.arguments.get? name = some a ∧ a.text = text
  /-- An argument that was read from a text has this text. -/
  written : ∀ name text, (∃ p ∈ spec.parameters, p.name = name) →
    n.arguments.get? name = some (.parse text) → task.parameters.get? name = some text
  dependsOn : ∀ s, s ∈ task.dependsOn ↔ g.Joins s n.id
  artifacts : task.artifacts = .empty

namespace Graph

variable {g : Graph} {cache : SpecCache} {resolver : SpecKey → Except Error Spec}
  {spec : Node → Spec}

theorem compiles_compiledTask (n : Node) :
  (g.compiledTask spec n).Compiles g n (spec n)
  := by
  have hparameters : ∀ name text, (g.compiledTask spec n).parameters.get? name = some text
      ↔ (∃ p ∈ (spec n).parameters, p.name = name)
        ∧ ∃ a, n.arguments.get? name = some a ∧ a.text = text := by
    intro name text
    rw [← Spec.hasParameter_iff, ← Option.map_eq_some_iff, ← Option.ite_none_right_eq_some,
      ← Node.get?_parameters]
    rfl
  constructor
  case nodeId => rfl
  case templateRef => rfl
  case parameters => apply hparameters
  case written =>
    intro name text hname hargument
    apply (hparameters name text).mpr
    exact ⟨hname, _, hargument, Argument.text_parse⟩
  case dependsOn => exact fun s => mem_sources
  case artifacts => rfl

/-- In an accepted graph the ids that have a spec are those of the nodes. -/
theorem Accepted.exists_get?_specs_iff (h : g.Accepted) {id : String} :
  (∃ s, (g.specs spec).get? id = some s) ↔ id ∈ g.ids
  := by
  rw [h.get?_specs]
  constructor
  · rintro ⟨s, hs⟩
    obtain ⟨n, hn, -⟩ := Option.map_eq_some_iff.mp hs
    obtain ⟨hmem, rfl⟩ := node?_eq_some hn
    apply List.mem_map_of_mem hmem
  · intro hid
    obtain ⟨n, hn⟩ := exists_node? hid
    use spec n
    rw [hn, Option.map_some]

/-- The target of every edge of an accepted graph has a task. -/
theorem Accepted.exists_addDependencies (h : g.Accepted) {c : CompiledGraph}
    (hnodes : (compileNodes resolver ⟨[], .empty⟩ cache g.nodes).1 = .ok c) :
  ∃ c', c.addDependencies g.edges = .ok c'
  := by
  obtain ⟨spec, hspec⟩ := exists_resolved_iff.mpr (answer_of_compileNodes hnodes)
  have hcompile := h.compile_eq hspec
  rw [compile_eq_connect, hnodes, connect] at hcompile
  split at hcompile
  case h_1 c' hc' => use c'
  case h_2 => cases hcompile

/-- An accepted graph is compiled exactly when the resolver has a spec for every node, it fails only
with an error of the resolver for a node, and no edge is without a task for its target. When it is
compiled, the tasks are those of the nodes, one by one, and the specs are kept by the ids of the
nodes. -/
theorem compile_corresponds (hcheck : g.check = .ok ()) (hagrees : cache.Agrees resolver) :
  ((∃ c, (g.compile cache resolver).1 = .ok c)
      ↔ ∀ n ∈ g.nodes, ∃ spec, resolver n.specKey = .ok spec)
    ∧ (∀ e, (g.compile cache resolver).1 = .error e →
      ∃ n ∈ g.nodes, resolver n.specKey = .error e)
    ∧ (∀ c, (compileNodes resolver ⟨[], .empty⟩ cache g.nodes).1 = .ok c →
      ∃ c', c.addDependencies g.edges = .ok c')
    ∧ ∀ c, (g.compile cache resolver).1 = .ok c →
      List.Forall₂ (fun n task => ∃ spec, resolver n.specKey = .ok spec ∧ task.Compiles g n spec)
          g.nodes c.tasks
        ∧ (∀ id, (∃ spec, c.specs.get? id = some spec) ↔ id ∈ g.ids)
        ∧ ∀ n ∈ g.nodes, ∃ spec, resolver n.specKey = .ok spec ∧ c.specs.get? n.id = some spec
  := by
  have h := check_iff_accepted.mp hcheck
  have hanswer := hagrees.answer_eq
  refine ⟨?_, ?_, ?_, ?_⟩
  · rw [← exists_resolved_iff]
    constructor
    · rintro ⟨c, hcompile⟩
      rw [← hanswer]
      apply exists_resolved_of_compile hcompile
    · rintro ⟨spec, hspec⟩
      rw [← hanswer] at hspec
      exact ⟨_, h.compile_eq hspec⟩
  · intro e herror
    rw [← hanswer]
    apply h.exists_of_compile_error herror
  · intro c hnodes
    apply h.exists_addDependencies hnodes
  · intro c hcompile
    obtain ⟨spec, hspec, rfl⟩ := h.eq_of_compile hcompile
    rw [hanswer] at hspec
    refine ⟨?_, ?_, ?_⟩
    · rw [List.forall₂_map_right_iff, List.forall₂_same]
      intro n hn
      exact ⟨spec n, hspec n hn, compiles_compiledTask n⟩
    · intro id
      apply h.exists_get?_specs_iff
    · intro n hn
      use spec n, hspec n hn
      rw [h.get?_specs, h.node?_id hn, Option.map_some]

/-- A node with an argument that refers to the other node and one of no use, behind an edge that is
drawn twice. -/
def keeping : Graph where
  nodes := [⟨"fit", "make", "main", .empty⟩,
    ⟨"use", "take", "main", .ofList [("model", .parse "fit::file"), ("stray", .parse "1")]⟩]
  edges := [⟨"fit", "use"⟩, ⟨"fit", "use"⟩]

/-- What every entrypoint takes where a reference is kept. -/
def keepingSpec (key : SpecKey) : Spec :=
  ⟨key.template, key.entrypoint, [⟨"model", none, true⟩], [], ["file"]⟩

/-- The reference is kept as the text of the parameter, the other argument is not kept, and the node
comes after the other one. -/
theorem keeping_corresponds :
  keeping.check = .ok ()
    ∧ ∃ c fit task, (keeping.compile .empty fun key => .ok (keepingSpec key)).1 = .ok c
      ∧ c.tasks = [fit, task] ∧ fit.nodeId = "fit" ∧ task.nodeId = "use"
      ∧ task.parameters.get? "model" = some "fit::file"
      ∧ task.parameters.get? "stray" = none
      ∧ ∀ s, s ∈ task.dependsOn ↔ s = "fit"
  := by
  have hcheck : keeping.check = .ok () := by cbv
  obtain ⟨hsuccess, -, -, htasks⟩ := compile_corresponds hcheck
    (SpecCache.empty_agrees fun key => .ok (keepingSpec key))
  obtain ⟨c, hcompile⟩ := hsuccess.mpr fun n _ => ⟨keepingSpec n.specKey, rfl⟩
  obtain ⟨hforall, -, -⟩ := htasks c hcompile
  obtain ⟨fit, tasks, ⟨_, -, hfit⟩, hrest, heq⟩ := List.forall₂_cons_left_iff.mp hforall
  obtain ⟨task, tasks, ⟨spec, hspec, htask⟩, hnil, rfl⟩ := List.forall₂_cons_left_iff.mp hrest
  obtain rfl := List.forall₂_nil_left_iff.mp hnil
  cases hspec
  refine ⟨hcheck, c, fit, task, hcompile, heq, hfit.nodeId, htask.nodeId, ?_, ?_, ?_⟩
  · apply htask.written
    · exact ⟨_, List.mem_singleton_self _, rfl⟩
    · decide
  · rw [Option.eq_none_iff_forall_ne_some]
    intro text htext
    obtain ⟨⟨p, hp, hname⟩, -⟩ := (htask.parameters "stray" text).mp htext
    obtain rfl := List.mem_singleton.mp hp
    revert hname
    decide
  · intro s
    rw [htask.dependsOn]
    simp [Joins, keeping]

end Graph

end JobGraph
