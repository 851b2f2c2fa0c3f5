import JobGraph.Graph.Cycle
import JobGraph.Graph.TaskName

/-!
# Checking a graph

A graph is accepted when its nodes have non-empty, different ids with different task names,
its edges join different nodes of the graph, and no path leads from a node back to itself.
`Graph.check` returns the first defect: of the nodes in order, then of the edges in order,
then a cycle.
-/

namespace JobGraph

/-- What is wrong with a graph. -/
inductive Defect where
  | noNodes
  | emptyId
  | duplicateId (id : String)
  | sharedTaskName (earlier later name : String)
  | unknownNode (edge : Edge) (id : String)
  | selfDependency (id : String)
  | circular (id : String)
  | unknownTarget (id : String)
deriving DecidableEq, Repr

/-- The description of a defect. -/
def Defect.message : Defect → String
  | noNodes => "No nodes provided"
  | emptyId => "Node ID cannot be empty"
  | duplicateId id => "Duplicate node ID: " ++ id
  | sharedTaskName earlier later name =>
    "Node IDs '" ++ earlier ++ "' and '" ++ later ++ "' both map to task name '" ++ name ++ "'"
  | unknownNode edge id =>
    "Edge " ++ edge.source ++ " -> " ++ edge.target ++ " references non-existent node '" ++ id ++ "'"
  | selfDependency id => "Node '" ++ id ++ "' cannot depend on itself"
  | circular id => "Graph has circular dependencies through node '" ++ id ++ "'"
  | unknownTarget id => "Edge target '" ++ id ++ "' is not a node of this graph"

namespace Graph

/-- The first defect of the ids that come after `earlier`, whose members stand with their
task names. -/
def checkIds (earlier : List (String × String)) : List String → Except Defect Unit
  | [] => .ok ()
  | id :: ids =>
    let name := taskName id
    if id = "" then .error .emptyId
    else if earlier.any (·.1 = id) then .error (.duplicateId id)
    else
      match earlier.find? (·.2 = name) with
      | some (other, _) => .error (.sharedTaskName other id name)
      | none => checkIds ((id, name) :: earlier) ids

/-- The defect of an edge between nodes with these ids. -/
def checkEdge (ids : List String) (edge : Edge) : Except Defect Unit :=
  if edge.source ∉ ids then .error (.unknownNode edge edge.source)
  else if edge.target ∉ ids then .error (.unknownNode edge edge.target)
  else if edge.source = edge.target then .error (.selfDependency edge.source)
  else .ok ()

/-- The first defect of the edges between nodes with these ids. -/
def checkEdges (ids : List String) : List Edge → Except Defect Unit
  | [] => .ok ()
  | edge :: edges =>
    match checkEdge ids edge with
    | .ok () => checkEdges ids edges
    | .error defect => .error defect

/-- Accept a graph or return its first defect. -/
def check (g : Graph) : Except Defect Unit :=
  match checkIds [] g.ids with
  | .error defect => .error defect
  | .ok () =>
    match checkEdges g.ids g.edges with
    | .error defect => .error defect
    | .ok () =>
      match g.findCycle with
      | some id => .error (.circular id)
      | none => .ok ()

end Graph

end JobGraph
