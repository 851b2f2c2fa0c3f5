import JobGraph.Text.Lowercase

/-!
# Names of tasks

The name under which a node's task stands in a workflow. Different ids may share a name.
-/

namespace JobGraph

/-- The task name of a node: `node-` and the id, in lowercase and with hyphens in place of
underscores. -/
def taskName (id : String) : String :=
  Text.lowercase (("node-" ++ id).map fun c => if c = '_' then '-' else c)

end JobGraph
