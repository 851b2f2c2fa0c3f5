import JobGraph.Proofs.Task.Linking
import Mathlib

/-!
# Linking binds once and for all

`Graph.Takes` says which output a node takes for an artifact, and linking binds just these. An
edge never changes what another one has bound, so edges may come in any order and any number of
times, and linking again changes nothing.
-/

namespace JobGraph

/-- The task without what is bound by linking. -/
def Task.unlinked (task : Task) : Task :=
  { task with artifacts := .empty }

namespace Graph

variable {g : Graph} {specs : Dictionary String Spec} {spec : Node → Spec} {n : Node}
  {edges edges' : List Edge} {name : String} {r : OutputRef}

/-- The node takes the output for an artifact of this name: the node's spec has such an artifact,
the argument refers to the output, an edge leads from its node, and the spec of that node declares
it. -/
structure Takes (g : Graph) (specs : Dictionary String Spec) (n : Node) (name : String)
    (r : OutputRef) : Prop where
  artifact : ∃ spec, specs.get? n.id = some spec ∧ name ∈ spec.artifacts.map ArtifactSpec.name
  argument : n.arguments.get? name = some (.reference r)
  joins : g.Joins r.source n.id
  output : ∃ spec, specs.get? r.source = some spec ∧ r.output ∈ spec.outputs

/-! ### What a task is linked to -/

theorem unlinked_linkedTask :
  (g.linkedTask spec edges n).unlinked = (g.compiledTask spec n).unlinked
  := rfl

theorem linkedTask_congr (h : ∀ e, e ∈ edges' ↔ e ∈ edges) :
  g.linkedTask spec edges' n = g.linkedTask spec edges n
  := by
  rw [linkedTask, linkedTask, Node.connections_congr h]

/-- An artifact is bound to an output when the spec has the artifact and an argument is connected
to the output. -/
theorem linkedTask_binds_iff :
  (g.linkedTask spec edges n).artifacts.get? name = some r
    ↔ name ∈ (spec n).artifacts.map ArtifactSpec.name
      ∧ n.connection? edges (g.spec? spec) name = some r
  := by
  rw [get?_linkedTask, Option.ite_none_right_eq_some]

/-- What is bound stays bound along further edges. -/
theorem linkedTask_binds_mono (h : edges ⊆ edges')
    (hr : (g.linkedTask spec edges n).artifacts.get? name = some r) :
  (g.linkedTask spec edges' n).artifacts.get? name = some r
  := by
  rw [linkedTask_binds_iff, Node.connection?_eq_some_iff] at hr ⊢
  obtain ⟨hname, hargument, hedge, houtput⟩ := hr
  exact ⟨hname, hargument, h hedge, houtput⟩

/-- In an accepted graph the task of a node is linked to what the node takes. -/
theorem Accepted.get?_artifacts_iff_takes (h : g.Accepted) (hn : n ∈ g.nodes) :
  (g.linkedTask spec g.edges n).artifacts.get? name = some r ↔ g.Takes (g.specs spec) n name r
  := by
  have hown : (g.specs spec).get? n.id = some (spec n) := by
    rw [h.get?_specs, h.node?_id hn]
    rfl
  have hspecs : ∀ id, (g.specs spec).get? id = g.spec? spec id := fun _ => h.get?_specs
  rw [linkedTask_binds_iff, Node.connection?_eq_some_iff]
  simp only [Spec.hasOutput, decide_eq_true_eq, ← hspecs]
  constructor
  · rintro ⟨hname, hargument, hjoins, houtput⟩
    exact ⟨⟨spec n, hown, hname⟩, hargument, hjoins, houtput⟩
  · rintro ⟨⟨s, hs, hname⟩, hargument, hjoins, houtput⟩
    rw [hown] at hs
    cases hs
    exact ⟨hname, hargument, hjoins, houtput⟩

/-! ### Linking -/

variable {cache : SpecCache} {resolver : SpecKey → Except Error Spec} {c : CompiledGraph}

/-- Linking binds the artifacts of each task to the outputs that its node takes, and changes
nothing else. What is bound when some of the edges are taken is still bound to the same output
after the next one. So linking again changes nothing, and neither do the order and the repetition
of edges. -/
theorem link_binds (hcheck : g.check = .ok ()) (hcompile : (g.compile cache resolver).1 = .ok c) :
  (∀ t ∈ g.nodes, ∃ task, (c.link g).task? t.id = some task
      ∧ ∀ name r, task.artifacts.get? name = some r ↔ g.Takes c.specs t name r)
    ∧ (c.link g).tasks.map Task.unlinked = c.tasks.map Task.unlinked
    ∧ (c.link g).specs = c.specs
    ∧ (∀ before edge after, g.edges = before ++ edge :: after → ∀ t ∈ g.nodes, ∃ task task',
      (c.link ⟨g.nodes, before⟩).task? t.id = some task
        ∧ (c.link ⟨g.nodes, before ++ [edge]⟩).task? t.id = some task'
        ∧ ∀ name r, task.artifacts.get? name = some r → task'.artifacts.get? name = some r)
    ∧ (c.link g).link g = c.link g
    ∧ ∀ edges, (∀ e, e ∈ edges ↔ e ∈ g.edges) → c.link ⟨g.nodes, edges⟩ = c.link g
  := by
  have h := check_iff_accepted.mp hcheck
  obtain ⟨spec, -, rfl⟩ := h.eq_of_compile hcompile
  rw [h.link_eq]
  refine ⟨?_, ?_, rfl, ?_, ?_, ?_⟩
  · intro t ht
    use g.linkedTask spec g.edges t, h.task?_linkedTask ht
    intro name r
    apply h.get?_artifacts_iff_takes ht
  · simp only [List.map_map]
    apply List.map_congr_left
    intro n _
    apply unlinked_linkedTask
  · intro before edge after hedges t ht
    have hbefore : before ⊆ g.edges := by
      rw [hedges]
      apply List.subset_append_left
    have hnext : before ++ [edge] ⊆ g.edges := by
      rw [hedges, List.append_cons before edge after]
      apply List.subset_append_left
    rw [h.link_along hbefore, h.link_along hnext]
    use g.linkedTask spec before t, g.linkedTask spec (before ++ [edge]) t,
      h.task?_linkedTask ht, h.task?_linkedTask ht
    intro name r
    apply linkedTask_binds_mono (List.subset_append_left _ _)
  · rw [CompiledGraph.link, h.foldl_linkEdge (List.Subset.refl _)]
    congr 1
    apply List.map_congr_left
    intro n _
    apply linkedTask_congr
    simp
  · intro edges hedges
    rw [h.link_along fun e he => (hedges e).mp he]
    congr 1
    apply List.map_congr_left
    intro n _
    apply linkedTask_congr hedges

/-- A node takes files from two others, one of which leads to it twice. -/
def crossing : Graph where
  nodes := [⟨"fit", "make", "main", .empty⟩, ⟨"scan", "make", "main", .empty⟩,
    ⟨"use", "take", "main", .ofList [("data", .parse "fit::file"), ("mask", .parse "scan::file")]⟩]
  edges := [⟨"fit", "use"⟩, ⟨"scan", "use"⟩, ⟨"fit", "use"⟩]

/-- What every entrypoint takes and puts out where files cross. -/
def crossingSpec (key : SpecKey) : Spec :=
  ⟨key.template, key.entrypoint, [], [⟨"data", true⟩, ⟨"mask", true⟩], ["file"]⟩

/-- The node gets each file from its own source, whatever the order of the edges. -/
theorem crossing_binds :
  crossing.check = .ok ()
    ∧ ∃ c, (crossing.compile .empty fun key => .ok (crossingSpec key)).1 = .ok c
      ∧ (∃ task, (c.link crossing).task? "use" = some task
        ∧ task.artifacts.get? "data" = some ⟨"fit", "file"⟩
        ∧ task.artifacts.get? "mask" = some ⟨"scan", "file"⟩)
      ∧ (c.link crossing).link crossing = c.link crossing
      ∧ c.link ⟨crossing.nodes, crossing.edges.reverse⟩ = c.link crossing
  := by
  have hcheck : crossing.check = .ok () := by cbv
  have hcompile : (crossing.compile .empty fun key => .ok (crossingSpec key)).1 = _ :=
    @Accepted.compile_eq crossing _ _ (fun n => crossingSpec n.specKey)
      (check_iff_accepted.mp hcheck) fun n _ => SpecCache.answer_empty
  obtain ⟨hbound, -, -, -, hagain, hrearranged⟩ := link_binds hcheck hcompile
  obtain ⟨task, htask, htakes⟩ := hbound ⟨"use", "take", "main", _⟩
    (List.mem_cons_of_mem _ (List.mem_cons_of_mem _ List.mem_cons_self))
  refine ⟨hcheck, _, hcompile, ⟨task, htask, ?_, ?_⟩, hagain, ?_⟩
  · apply (htakes "data" ⟨"fit", "file"⟩).mpr
    constructor
    case artifact => exact ⟨crossingSpec ⟨"take", "main"⟩, by cbv, by decide⟩
    case argument => decide
    case joins => apply List.mem_cons_self
    case output => exact ⟨crossingSpec ⟨"make", "main"⟩, by cbv, by decide⟩
  · apply (htakes "mask" ⟨"scan", "file"⟩).mpr
    constructor
    case artifact => exact ⟨crossingSpec ⟨"take", "main"⟩, by cbv, by decide⟩
    case argument => decide
    case joins => apply List.mem_cons_of_mem _ List.mem_cons_self
    case output => exact ⟨crossingSpec ⟨"make", "main"⟩, by cbv, by decide⟩
  · apply hrearranged
    intro e
    apply List.mem_reverse

end Graph

end JobGraph
