import JobGraph.Proofs.Graph.Argument
import JobGraph.Proofs.Task.Linking
import Mathlib

/-!
# Outputs that can be wired

Along an edge, the written form of a reference to an output of the source binds an artifact of
the target to this output when the id of the source is referable. Graphs are accepted whatever
characters are in the ids of their nodes, and the outputs of a node whose id is not referable
are out of reach: what is written is read as a reference to another node.
-/

namespace JobGraph

namespace Graph

variable {g : Graph} {spec : Node → Spec} {cache : SpecCache}
  {resolver : SpecKey → Except Error Spec}

/-- An accepted graph whose nodes have specs is compiled, and each node has its linked task. -/
theorem Accepted.exists_task (h : g.Accepted) (hspec : g.Resolved (cache.answer resolver) spec)
    {n : Node} (hn : n ∈ g.nodes) :
  ∃ c, (g.compile cache resolver).1 = .ok c
    ∧ (c.link g).task? n.id = some (g.linkedTask spec g.edges n)
  := by
  use ⟨g.nodes.map (g.compiledTask spec), g.specs spec⟩, h.compile_eq hspec
  rw [h.link_eq, h.task?_linkedTask hn]

/-- Along an edge, an artifact whose argument is written as a reference to an output of the
source is bound to this output exactly when the id of the source is referable. -/
theorem wired_iff_referable (hcheck : g.check = .ok ())
    (hspec : g.Resolved (cache.answer resolver) spec) {s t : Node} (hs : s ∈ g.nodes)
    (ht : t ∈ g.nodes) (hst : g.Joins s.id t.id) {output : String}
    (houtput : output ∈ (spec s).outputs) (hne : output ≠ "") {a : ArtifactSpec}
    (ha : a ∈ (spec t).artifacts)
    (hargument : t.arguments.get? a.name = some (.parse (s.id ++ "::" ++ output))) :
  ∃ c task, (g.compile cache resolver).1 = .ok c ∧ (c.link g).task? t.id = some task
    ∧ (task.artifacts.get? a.name = some ⟨s.id, output⟩ ↔ Referable s.id)
  := by
  have h := check_iff_accepted.mp hcheck
  have hid : s.id ≠ "" := h.nonempty s.id (List.mem_map_of_mem hs)
  obtain ⟨c, hcompile, htask⟩ := h.exists_task hspec ht
  use c, g.linkedTask spec g.edges t, hcompile, htask
  rw [h.get?_artifacts_linkedTask ha, hargument, Option.some.injEq,
    Argument.parse_eq_reference_iff]
  constructor
  · rintro ⟨⟨-, hreferable, -⟩, -⟩
    apply hreferable
  · intro hreferable
    constructor
    · exact ⟨rfl, hreferable, hid, hne⟩
    · exact ⟨hst, s, hs, rfl, houtput⟩

/-- What every entrypoint takes and puts out when a file is handed over. -/
def handoverSpec (key : SpecKey) : Spec :=
  ⟨key.template, key.entrypoint, [], [⟨"data", true⟩], ["file"]⟩

/-- A node makes a file, which another one takes by the written reference. -/
def handover (maker : String) : Graph where
  nodes := [⟨maker, "make", "main", .empty⟩,
    ⟨"take", "take", "main", .ofList [("data", .parse (maker ++ "::" ++ "file"))]⟩]
  edges := [⟨maker, "take"⟩]

theorem handover_resolved {maker : String} :
  (handover maker).Resolved (SpecCache.empty.answer fun key => .ok (handoverSpec key))
    fun n => handoverSpec n.specKey
  := by
  intro n _
  apply SpecCache.answer_empty

/-- The file of a node whose id starts with a colon is handed over. -/
theorem handover_wired :
  (handover ":a").check = .ok ()
    ∧ ∃ c task, ((handover ":a").compile .empty fun key => .ok (handoverSpec key)).1 = .ok c
      ∧ (c.link (handover ":a")).task? "take" = some task
      ∧ task.artifacts.get? "data" = some ⟨":a", "file"⟩
  := by
  have hcheck : (handover ":a").check = .ok () := by cbv
  have hreferable : Referable ":a" := by
    constructor <;> decide
  obtain ⟨c, task, hcompile, htask, hwired⟩ := @wired_iff_referable (handover ":a") _ _ _ hcheck
    handover_resolved _ _ List.mem_cons_self (List.mem_cons_of_mem _ List.mem_cons_self)
    List.mem_cons_self "file" List.mem_cons_self (by decide) ⟨"data", true⟩ List.mem_cons_self rfl
  use hcheck, c, task, hcompile, htask, hwired.mpr hreferable

/-- The file of a node whose id ends in a colon is not handed over: what is written is read as
the output `:file` of the node `a`. -/
theorem handover_unwired :
  (handover "a:").check = .ok () ∧ (handover "a:").ids = ["a:", "take"]
    ∧ (handover "a:").Joins "a:" "take"
    ∧ "file" ∈ (handoverSpec ⟨"make", "main"⟩).outputs
    ∧ ⟨"data", true⟩ ∈ (handoverSpec ⟨"take", "main"⟩).artifacts
    ∧ (∃ n, (handover "a:").node? "take" = some n
      ∧ n.arguments.get? "data" = some (.parse ("a:" ++ "::" ++ "file")))
    ∧ ∃ c task, ((handover "a:").compile .empty fun key => .ok (handoverSpec key)).1 = .ok c
      ∧ (c.link (handover "a:")).task? "take" = some task ∧ task.artifacts.get? "data" = none
  := by
  have hcheck : (handover "a:").check = .ok () := by cbv
  have htake : ⟨"take", "take", "main", .ofList [("data", .parse ("a:" ++ "::" ++ "file"))]⟩
      ∈ (handover "a:").nodes := List.mem_cons_of_mem _ List.mem_cons_self
  obtain ⟨c, hcompile, htask⟩ :=
    (check_iff_accepted.mp hcheck).exists_task handover_resolved htake
  refine ⟨hcheck, rfl, List.mem_cons_self, List.mem_cons_self, List.mem_cons_self, ?_, ?_⟩
  · exact ⟨_, by cbv, rfl⟩
  · exact ⟨c, _, hcompile, htask, by cbv⟩

end Graph

end JobGraph
