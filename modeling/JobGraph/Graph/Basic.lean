import JobGraph.Graph.Argument
import JobGraph.SortedMap

/-!
# Graphs of job templates

A graph has nodes, each of which runs one entrypoint of a template with some arguments, and
edges, each of which lets its target run after its source.
-/

namespace JobGraph

/-- The name of a template together with one of its entrypoints. -/
structure SpecKey where
  template : String
  entrypoint : String
deriving DecidableEq, Repr

/-- The written form of a key. Different keys may share it. -/
def SpecKey.text (key : SpecKey) : String :=
  key.template ++ "/" ++ key.entrypoint

/-- A node of a graph. -/
structure Node where
  id : String
  templateName : String
  entrypoint : String
  arguments : SortedMap Argument
deriving DecidableEq, Repr

/-- The template and the entrypoint that a node runs. -/
def Node.specKey (node : Node) : SpecKey :=
  ⟨node.templateName, node.entrypoint⟩

/-- An edge of a graph: `target` runs after `source`. -/
structure Edge where
  source : String
  target : String
deriving DecidableEq, Repr

/-- A graph as it was drawn. Its nodes need not have different ids, nor its edges join
nodes. -/
structure Graph where
  nodes : List Node
  edges : List Edge
deriving DecidableEq, Repr

namespace Graph

/-- The ids of the nodes, in order. -/
def ids (g : Graph) : List String :=
  g.nodes.map Node.id

/-- The first node with this id. -/
def node? (g : Graph) (id : String) : Option Node :=
  g.nodes.find? (·.id = id)

/-- The targets of the edges that leave a node, in the order of the edges. -/
def successors (g : Graph) (id : String) : List String :=
  (g.edges.filter (·.source = id)).map Edge.target

theorem mem_successors {g : Graph} {s t : String} :
  t ∈ g.successors s ↔ ⟨s, t⟩ ∈ g.edges
  := by
  simp only [successors, List.mem_map, List.mem_filter, decide_eq_true_eq]
  constructor
  · rintro ⟨⟨_, _⟩, ⟨he, rfl⟩, rfl⟩
    exact he
  · intro he
    exact ⟨_, ⟨he, rfl⟩, rfl⟩

end Graph

end JobGraph
