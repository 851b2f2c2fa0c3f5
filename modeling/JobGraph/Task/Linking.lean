import JobGraph.Task.Basic

/-!
# Linking of artifacts

`CompiledGraph.link` binds the input artifacts of tasks to outputs of the tasks they depend
on. Along an edge, an input artifact of the target is bound when the target's argument under
the name of the artifact refers to a declared output of the source. Edges are taken in order,
and a later binding of an artifact replaces an earlier one.
-/

namespace JobGraph

/-- The output that an edge's target takes for an artifact along the edge: what its argument
of this name refers to, if that is a declared output of the source. -/
def Edge.binding? (edge : Edge) (target : Node) (sourceSpec : Spec) (artifact : String) :
    Option OutputRef :=
  match target.arguments.get? artifact with
  | some (.reference r) =>
    if r.source = edge.source ∧ sourceSpec.hasOutput r.output then some r else none
  | _ => none

namespace Task

/-- The task with the artifacts bound that it takes along an edge. -/
def bind (task : Task) (edge : Edge) (target : Node) (sourceSpec : Spec)
    (artifacts : List ArtifactSpec) : Task :=
  { task with
    artifacts := artifacts.foldl
      (fun bound artifact =>
        match edge.binding? target sourceSpec artifact.name with
        | some r => bound.insert artifact.name r
        | none => bound)
      task.artifacts }

end Task

namespace CompiledGraph

/-- The compiled graph with the artifacts bound that are taken along an edge. An edge whose
ends are not both compiled binds nothing. -/
def linkEdge (g : Graph) (c : CompiledGraph) (edge : Edge) : CompiledGraph :=
  match g.node? edge.target, c.specs.get? edge.source, c.specs.get? edge.target with
  | some target, some sourceSpec, some targetSpec =>
    ⟨changeFirst (·.nodeId = edge.target)
      (fun task => task.bind edge target sourceSpec targetSpec.artifacts) c.tasks, c.specs⟩
  | _, _, _ => c

/-- The compiled graph with all artifacts bound. -/
def link (c : CompiledGraph) (g : Graph) : CompiledGraph :=
  g.edges.foldl (linkEdge g) c

end CompiledGraph

end JobGraph
