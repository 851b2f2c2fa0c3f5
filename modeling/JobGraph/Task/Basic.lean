import JobGraph.Dictionary
import JobGraph.Graph.Basic
import JobGraph.Template.Spec

/-!
# Compiled tasks

A task is what a node becomes: the template it runs, the values of its parameters, the
artifacts it takes from other tasks, and the tasks it comes after.
-/

namespace JobGraph

/-- The template and the sub-template that a task runs. -/
structure TemplateRef where
  name : String
  template : String
deriving DecidableEq, Repr

/-- A compiled node. -/
structure Task where
  nodeId : String
  templateRef : TemplateRef
  parameters : SortedMap String
  artifacts : SortedMap OutputRef
  /-- The ids of the nodes it comes after. -/
  dependsOn : NameSet
deriving DecidableEq, Repr

/-- A compiled graph: a task for each node, in order, and the specs they were compiled
with, by node id. -/
structure CompiledGraph where
  tasks : List Task
  specs : Dictionary String Spec
deriving DecidableEq

namespace CompiledGraph

/-- The first task of a node. -/
def task? (c : CompiledGraph) (id : String) : Option Task :=
  c.tasks.find? (·.nodeId = id)

end CompiledGraph

/-- A list with its first element that satisfies `p` changed. -/
def changeFirst {α : Type} (p : α → Bool) (change : α → α) : List α → List α
  | [] => []
  | a :: as => if p a then change a :: as else a :: changeFirst p change as

end JobGraph
