import JobGraph.Log.Event
import JobGraph.Task.Compilation
import JobGraph.Task.Linking

/-!
# Events of compilations

The events in the compilation and the linking of a graph, in the order in which they happen.
-/

namespace JobGraph

/-- The events of a node whose spec is known: an argument that the spec does not declare as a
parameter is dropped. -/
def Node.events (node : Node) (spec : Spec) : List Event :=
  (node.arguments.entries.filter fun (name, _) => !spec.hasParameter name).map
    fun (name, _) => .argumentDropped node.id name

namespace Graph

/-- The events in the compilation of nodes, up to the first one whose spec cannot be
resolved. -/
def compilationEvents (resolver : SpecKey → Except Error Spec) (cache : SpecCache) :
    List Node → List Event
  | [] => []
  | node :: nodes =>
    let hit := if (cache.get? node.specKey).isSome then [.specFromCache node.specKey.text] else []
    match cache.getOrResolve node.specKey resolver with
    | (.ok spec, cache) =>
      hit ++ node.events spec ++ compilationEvents resolver cache nodes
    | (.error _, _) => hit

end Graph

namespace Edge

/-- The events in the binding of artifacts along an edge, where `bound` is what the target's
task has bound so far. -/
def bindingEvents (edge : Edge) (target : Node) (sourceSpec : Spec)
    (bound : SortedMap OutputRef) : List ArtifactSpec → List Event
  | [] => []
  | artifact :: artifacts =>
    match edge.binding? target sourceSpec artifact.name with
    | some r =>
      (match bound.get? artifact.name with
        | some previous => [.bindingReplaced edge.target artifact.name previous.text r.text]
        | none => [])
        ++ bindingEvents edge target sourceSpec (bound.insert artifact.name r) artifacts
    | none =>
      (match target.arguments.get? artifact.name with
        | some (.literal value) =>
          if sourceSpec.hasOutput value then
            [.outputUnqualified edge.target artifact.name value]
          else []
        | _ => [])
        ++ bindingEvents edge target sourceSpec bound artifacts

end Edge

namespace CompiledGraph

/-- The events in the linking of an edge. -/
def edgeEvents (g : Graph) (c : CompiledGraph) (edge : Edge) : List Event :=
  match g.node? edge.target, c.specs.get? edge.source, c.specs.get? edge.target with
  | some target, some sourceSpec, some targetSpec =>
    match c.task? edge.target with
    | some task => edge.bindingEvents target sourceSpec task.artifacts targetSpec.artifacts
    | none => []
  | _, _, _ => [.edgeSkipped edge.source edge.target]

/-- The events in the linking of edges. -/
def linkingEvents (g : Graph) (c : CompiledGraph) : List Edge → List Event
  | [] => []
  | edge :: edges => c.edgeEvents g edge ++ linkingEvents g (linkEdge g c edge) edges

end CompiledGraph

end JobGraph
