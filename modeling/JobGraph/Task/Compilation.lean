import JobGraph.Graph.Check
import JobGraph.Task.Basic
import JobGraph.Template.Cache

/-!
# Compilation of nodes into tasks

`Graph.compile` makes a task of every node. It keeps the arguments that the node's spec
declares as parameters and lets the task depend on the sources of the edges into the node.
Artifacts are bound later, by `Task.Linking`. It is `Graph.compileM`, whose resolver may have
effects, for a resolver that has none.
-/

namespace JobGraph

/-- The arguments of a node that its spec declares as parameters, as text. -/
def Node.parameters (node : Node) (spec : Spec) : SortedMap String :=
  .ofList ((node.arguments.entries.filter fun (name, _) => spec.hasParameter name).map
    fun (name, a) => (name, a.text))

/-- The task of a node that takes part in no edge. -/
def Node.task (node : Node) (spec : Spec) : Task where
  nodeId := node.id
  templateRef := ⟨node.templateName, node.entrypoint⟩
  parameters := node.parameters spec
  artifacts := .empty
  dependsOn := .empty

namespace CompiledGraph

/-- The compiled graph with one more task behind the others. -/
def addTask (c : CompiledGraph) (node : Node) (spec : Spec) : CompiledGraph :=
  ⟨c.tasks ++ [node.task spec], c.specs.insert node.id spec⟩

/-- The compiled graph with the first task of the edge's target depending on its source. -/
def addDependency (c : CompiledGraph) (edge : Edge) : Except Defect CompiledGraph :=
  if (c.task? edge.target).isSome then
    .ok ⟨changeFirst (·.nodeId = edge.target)
      (fun t => { t with dependsOn := t.dependsOn.insert edge.source }) c.tasks, c.specs⟩
  else .error (.unknownTarget edge.target)

/-- The compiled graph with the dependencies of all edges. -/
def addDependencies (c : CompiledGraph) : List Edge → Except Defect CompiledGraph
  | [] => .ok c
  | edge :: edges =>
    match c.addDependency edge with
    | .ok c => c.addDependencies edges
    | .error defect => .error defect

end CompiledGraph

namespace Graph

/-- The compiled nodes with the dependencies of all edges. -/
def connect (g : Graph) : Except Error CompiledGraph → Except Error CompiledGraph
  | .error e => .error e
  | .ok c =>
    match c.addDependencies g.edges with
    | .ok c => .ok c
    | .error defect => .error (.invalidGraph defect.message)

section Effects

variable {m : Type → Type} [Monad m]

/-- The tasks of nodes behind those compiled already. Every node asks the cache for its spec;
the first spec that cannot be resolved ends the compilation. -/
def compileNodesM (resolver : SpecKey → m (Except Error Spec)) (c : CompiledGraph)
    (cache : SpecCache) : List Node → m (Except Error CompiledGraph × SpecCache)
  | [] => pure (.ok c, cache)
  | node :: nodes => do
    match ← cache.getOrResolveM node.specKey resolver with
    | (.ok spec, cache) => compileNodesM resolver (c.addTask node spec) cache nodes
    | (.error e, cache) => pure (.error e, cache)

/-- Compile a graph with a cache, and return the cache with what was resolved. -/
def compileM (g : Graph) (cache : SpecCache) (resolver : SpecKey → m (Except Error Spec)) :
    m (Except Error CompiledGraph × SpecCache) := do
  let (result, cache) ← compileNodesM resolver ⟨[], .empty⟩ cache g.nodes
  return (g.connect result, cache)

end Effects

/-- The tasks of nodes, with a resolver without effects. -/
def compileNodes (resolver : SpecKey → Except Error Spec) (c : CompiledGraph)
    (cache : SpecCache) (nodes : List Node) : Except Error CompiledGraph × SpecCache :=
  Id.run (compileNodesM (fun key => pure (resolver key)) c cache nodes)

/-- Compile a graph with a resolver without effects. -/
def compile (g : Graph) (cache : SpecCache) (resolver : SpecKey → Except Error Spec) :
    Except Error CompiledGraph × SpecCache :=
  Id.run (g.compileM cache fun key => pure (resolver key))

/-- The keys that compiling these nodes asks the resolver for, in order. -/
def resolverCalls (resolver : SpecKey → Except Error Spec) (cache : SpecCache) :
    List Node → List SpecKey
  | [] => []
  | node :: nodes =>
    let calls := if (cache.get? node.specKey).isSome then [] else [node.specKey]
    match cache.getOrResolve node.specKey resolver with
    | (.ok _, cache) => calls ++ resolverCalls resolver cache nodes
    | (.error _, _) => calls

end Graph

end JobGraph
