import JobGraph.Proofs.Task.Compilation
import JobGraph.Task.Linking

/-!
# What linking binds

The order of the edges does not show in what linking binds. `Node.connection?` is the output
that an argument takes along any of some edges, and `Graph.linkedTask` is the task that a
node of an accepted graph ends up with.
-/

namespace JobGraph

/-! ### Connections -/

namespace Node

variable {n : Node} {edges : List Edge} {specs : String → Option Spec} {name : String}

/-- The output that an argument refers to, when one of the edges leads from there to the node
and the source declares the output. -/
def connection? (edges : List Edge) (specs : String → Option Spec) (n : Node) (name : String) :
    Option OutputRef :=
  match n.arguments.get? name with
  | some (.reference r) =>
    if ⟨r.source, n.id⟩ ∈ edges ∧ (specs r.source).any (·.hasOutput r.output) then some r
    else none
  | _ => none

/-- The connections of the input artifacts of a spec. -/
def connections (edges : List Edge) (specs : String → Option Spec) (n : Node)
    (artifacts : List ArtifactSpec) : SortedMap OutputRef :=
  .ofList (artifacts.filterMap fun a => (n.connection? edges specs a.name).map (a.name, ·))

/-- Every artifact of the spec has its own connection. -/
theorem get?_connections {artifacts : List ArtifactSpec} :
  (n.connections edges specs artifacts).get? name =
    if name ∈ artifacts.map ArtifactSpec.name then n.connection? edges specs name else none
  := by
  apply @SortedMap.get?_ofList _ fun name =>
    if name ∈ artifacts.map ArtifactSpec.name then n.connection? edges specs name else none
  rintro ⟨name, r⟩
  simp only [List.mem_filterMap, Option.map_eq_some_iff, Prod.mk.injEq, List.mem_map,
    Option.ite_none_right_eq_some]
  constructor
  · rintro ⟨a, ha, _, hr, rfl, rfl⟩
    exact ⟨⟨a, ha, rfl⟩, hr⟩
  · rintro ⟨⟨a, ha, rfl⟩, hr⟩
    exact ⟨a, ha, r, hr, rfl, rfl⟩

/-- An argument is connected to an output when it refers to the output, an edge leads from
there, and the source declares it. -/
theorem connection?_eq_some_iff {r : OutputRef} :
  n.connection? edges specs name = some r
    ↔ n.arguments.get? name = some (.reference r) ∧ ⟨r.source, n.id⟩ ∈ edges
      ∧ ∃ spec, specs r.source = some spec ∧ spec.hasOutput r.output = true
  := by
  unfold connection?
  cases n.arguments.get? name with
  | none => simp
  | some a =>
    cases a with
    | literal text => simp
    | reference r' =>
      simp only [Option.ite_none_right_eq_some, Option.some.injEq, Argument.reference.injEq,
        Option.any_eq_true]
      constructor
      · rintro ⟨h, rfl⟩
        exact ⟨rfl, h⟩
      · rintro ⟨rfl, h⟩
        exact ⟨h, rfl⟩

/-- Along one edge more an argument takes what it takes along that edge, or else what it took
before. -/
theorem connection?_append {edge : Edge} {source : Spec} (htarget : edge.target = n.id)
    (hsource : specs edge.source = some source) :
  n.connection? (edges ++ [edge]) specs name
    = (edge.binding? n source name).or (n.connection? edges specs name)
  := by
  unfold connection? Edge.binding?
  cases n.arguments.get? name with
  | none => rfl
  | some a =>
    cases a with
    | literal text => rfl
    | reference r =>
      obtain ⟨s, t⟩ := edge
      simp only at htarget hsource
      subst htarget
      simp only [List.mem_append, List.mem_singleton, Edge.mk.injEq, and_true]
      by_cases heq : r.source = s
      · subst heq
        simp only [hsource, or_true, true_and, Option.any_some]
        split
        case isTrue => rfl
        case isFalse hout => simp [hout]
      · simp [heq]

/-- What is connected depends only on which edges there are. -/
theorem connections_congr {edges' : List Edge} {artifacts : List ArtifactSpec}
    (h : ∀ e, e ∈ edges' ↔ e ∈ edges) :
  n.connections edges' specs artifacts = n.connections edges specs artifacts
  := by
  have hconnection : ∀ name, n.connection? edges' specs name = n.connection? edges specs name := by
    intro name
    simp only [connection?, h]
  simp only [connections, hconnection]

theorem connection?_append_of_ne {edge : Edge} (htarget : edge.target ≠ n.id) :
  n.connection? (edges ++ [edge]) specs name = n.connection? edges specs name
  := by
  unfold connection?
  cases n.arguments.get? name with
  | none => rfl
  | some a =>
    cases a with
    | literal text => rfl
    | reference r =>
      have hne : (⟨r.source, n.id⟩ : Edge) ≠ edge := by
        rintro rfl
        apply htarget rfl
      simp [hne]

end Node

/-! ### The tasks of nodes -/

namespace Task

/-- To bind one artifact is to give its name what it takes along the edge, if it takes
anything. -/
theorem get?_bindOne {bound : SortedMap OutputRef} {binding : Option OutputRef}
    {own name : String} :
  (match binding with
    | some r => bound.insert own r
    | none => bound).get? name = if name = own then binding.or (bound.get? own) else bound.get? name
  := by
  cases binding with
  | none =>
    by_cases heq : name = own
    · rw [if_pos heq, Option.none_or, heq]
    · rw [if_neg heq]
  | some r => simp only [SortedMap.get?_insert, Option.some_or, eq_comm]

theorem get?_foldl_bind {edge : Edge} {n : Node} {source : Spec} {artifacts : List ArtifactSpec}
    {bound : SortedMap OutputRef} {name : String} :
  (artifacts.foldl
      (fun bound artifact =>
        match edge.binding? n source artifact.name with
        | some r => bound.insert artifact.name r
        | none => bound)
      bound).get? name =
    if name ∈ artifacts.map ArtifactSpec.name
    then (edge.binding? n source name).or (bound.get? name)
    else bound.get? name
  := by
  induction artifacts generalizing bound with
  | nil => rfl
  | cons a artifacts ih =>
    rw [List.foldl_cons, ih, get?_bindOne]
    simp only [List.map_cons, List.mem_cons]
    by_cases heq : name = a.name
    · subst heq
      cases edge.binding? n source a.name with
      | none => simp
      | some r => simp
    · simp [heq]

/-- The artifacts of a task take what the edge gives them, or else what they took before. -/
theorem get?_bind {task : Task} {edge : Edge} {n : Node} {source : Spec}
    {artifacts : List ArtifactSpec} {name : String} :
  (task.bind edge n source artifacts).artifacts.get? name =
    if name ∈ artifacts.map ArtifactSpec.name
    then (edge.binding? n source name).or (task.artifacts.get? name)
    else task.artifacts.get? name
  := get?_foldl_bind

end Task

namespace Graph

variable {g : Graph} {spec : Node → Spec} {n : Node} {edges : List Edge}

/-- The spec of the node with this id. -/
def spec? (g : Graph) (spec : Node → Spec) (id : String) : Option Spec :=
  (g.node? id).map spec

/-- The task of a node that is linked along some edges. -/
def linkedTask (g : Graph) (spec : Node → Spec) (edges : List Edge) (n : Node) : Task :=
  { g.compiledTask spec n with
    artifacts := n.connections edges (g.spec? spec) (spec n).artifacts }

/-- Without edges no artifact is bound. -/
theorem linkedTask_nil :
  g.linkedTask spec [] n = g.compiledTask spec n
  := by
  have hempty : n.connections [] (g.spec? spec) (spec n).artifacts = .empty := by
    apply SortedMap.ext_get?
    intro name
    rw [Node.get?_connections, SortedMap.get?_empty, ite_eq_right_iff]
    intro _
    rw [Option.eq_none_iff_forall_ne_some]
    intro r hr
    apply List.not_mem_nil (Node.connection?_eq_some_iff.mp hr).2.1
  rw [linkedTask, hempty]
  rfl

/-- An edge into a node links its task along one edge more. -/
theorem bind_linkedTask {edge : Edge} {source : Spec} (htarget : edge.target = n.id)
    (hsource : g.spec? spec edge.source = some source) :
  (g.linkedTask spec edges n).bind edge n source (spec n).artifacts
    = g.linkedTask spec (edges ++ [edge]) n
  := by
  have hartifacts : ((g.linkedTask spec edges n).bind edge n source (spec n).artifacts).artifacts
      = n.connections (edges ++ [edge]) (g.spec? spec) (spec n).artifacts := by
    apply SortedMap.ext_get?
    intro name
    rw [Task.get?_bind, Node.get?_connections, Node.connection?_append htarget hsource]
    simp only [linkedTask, Node.get?_connections]
    split <;> rfl
  have hlinked : g.linkedTask spec (edges ++ [edge]) n
      = { g.compiledTask spec n with
          artifacts := ((g.linkedTask spec edges n).bind edge n source (spec n).artifacts).artifacts
        } := by
    rw [hartifacts]
    rfl
  rw [hlinked]
  rfl

theorem linkedTask_append_of_ne {edge : Edge} (htarget : edge.target ≠ n.id) :
  g.linkedTask spec (edges ++ [edge]) n = g.linkedTask spec edges n
  := by
  simp only [linkedTask, Node.connections, Node.connection?_append_of_ne htarget]

/-- An edge of an accepted graph binds what the task of its target takes along it. -/
theorem Accepted.linkEdge_eq (h : g.Accepted) {edge : Edge} (hedge : edge ∈ g.edges) :
  CompiledGraph.linkEdge g ⟨g.nodes.map (g.linkedTask spec edges), g.specs spec⟩ edge
    = ⟨g.nodes.map (g.linkedTask spec (edges ++ [edge])), g.specs spec⟩
  := by
  obtain ⟨source, hsource⟩ := exists_node? (h.source_mem edge.source edge.target hedge)
  obtain ⟨target, htarget⟩ := exists_node? (h.target_mem edge.source edge.target hedge)
  obtain ⟨hmem, hid⟩ := node?_eq_some htarget
  have hids : (g.nodes.map (g.linkedTask spec edges)).map Task.nodeId = g.ids := by
    rw [List.map_map]
    rfl
  simp only [CompiledGraph.linkEdge, h.get?_specs, hsource, htarget, Option.map_some,
    CompiledGraph.mk.injEq, and_true]
  rw [changeFirst_task (hids ▸ h.nodup_ids), List.map_map]
  apply List.map_congr_left
  intro n hn
  rw [Function.comp_apply]
  split
  case isTrue heq =>
    have hn : n = target := h.eq_of_id_eq hn hmem (Eq.trans heq hid.symm)
    subst hn
    apply bind_linkedTask hid.symm
    rw [spec?, hsource]
    rfl
  case isFalse hne => exact (linkedTask_append_of_ne (Ne.symm hne)).symm

/-- Edges of an accepted graph link each task along them, too. -/
theorem Accepted.foldl_linkEdge (h : g.Accepted) {rest : List Edge} (hrest : rest ⊆ g.edges)
    (done : List Edge) :
  rest.foldl (CompiledGraph.linkEdge g) ⟨g.nodes.map (g.linkedTask spec done), g.specs spec⟩
    = ⟨g.nodes.map (g.linkedTask spec (done ++ rest)), g.specs spec⟩
  := by
  induction rest generalizing done with
  | nil =>
    rw [List.append_nil]
    rfl
  | cons edge rest ih =>
    obtain ⟨hedge, hrest⟩ := List.cons_subset.mp hrest
    rw [List.foldl_cons, h.linkEdge_eq hedge, ih hrest, List.append_assoc, List.singleton_append]

/-- A compiled graph is linked along some of its edges when each of its tasks is. -/
theorem Accepted.link_along (h : g.Accepted) (hedges : edges ⊆ g.edges) :
  CompiledGraph.link ⟨g.nodes.map (g.compiledTask spec), g.specs spec⟩ ⟨g.nodes, edges⟩
    = ⟨g.nodes.map (g.linkedTask spec edges), g.specs spec⟩
  := by
  have hstart : g.nodes.map (g.compiledTask spec) = g.nodes.map (g.linkedTask spec []) := by
    apply List.map_congr_left
    intro n _
    apply linkedTask_nil.symm
  rw [hstart]
  apply h.foldl_linkEdge hedges

/-- A compiled graph is linked when each of its tasks is linked along all edges. -/
theorem Accepted.link_eq (h : g.Accepted) :
  CompiledGraph.link ⟨g.nodes.map (g.compiledTask spec), g.specs spec⟩ g
    = ⟨g.nodes.map (g.linkedTask spec g.edges), g.specs spec⟩
  := h.link_along (List.Subset.refl _)

/-- The task of a linked graph for an id is that of the node with the id. -/
theorem task?_linked {specs : Dictionary String Spec} {id : String} :
  CompiledGraph.task? ⟨g.nodes.map (g.linkedTask spec edges), specs⟩ id
    = (g.node? id).map (g.linkedTask spec edges)
  := List.find?_map

theorem Accepted.task?_linkedTask (h : g.Accepted) {specs : Dictionary String Spec}
    (hn : n ∈ g.nodes) :
  CompiledGraph.task? ⟨g.nodes.map (g.linkedTask spec edges), specs⟩ n.id
    = some (g.linkedTask spec edges n)
  := by
  rw [task?_linked, h.node?_id hn]
  rfl

/-- Every artifact of the spec is bound to its connection. -/
theorem get?_linkedTask {name : String} :
  (g.linkedTask spec edges n).artifacts.get? name =
    if name ∈ (spec n).artifacts.map ArtifactSpec.name then n.connection? edges (g.spec? spec) name
    else none
  := Node.get?_connections

/-- In an accepted graph a declared artifact is bound to an output when the argument refers to
it, an edge leads from its node, and it is declared there. -/
theorem Accepted.get?_artifacts_linkedTask (h : g.Accepted) {a : ArtifactSpec}
    (ha : a ∈ (spec n).artifacts) {r : OutputRef} :
  (g.linkedTask spec g.edges n).artifacts.get? a.name = some r
    ↔ n.arguments.get? a.name = some (.reference r) ∧ g.Joins r.source n.id
      ∧ ∃ s ∈ g.nodes, s.id = r.source ∧ r.output ∈ (spec s).outputs
  := by
  rw [get?_linkedTask, if_pos (List.mem_map_of_mem ha), Node.connection?_eq_some_iff]
  simp only [spec?, Option.map_eq_some_iff, h.node?_eq_some_iff, Spec.hasOutput,
    decide_eq_true_eq]
  apply and_congr_right
  intro _
  apply and_congr_right
  intro _
  constructor
  · rintro ⟨_, ⟨s, ⟨hs, hid⟩, rfl⟩, houtput⟩
    use s
  · rintro ⟨s, hs, hid, houtput⟩
    use spec s, ⟨s, ⟨hs, hid⟩, rfl⟩

/-- Whatever an accepted graph is compiled to, it is linked to the tasks of its nodes. -/
theorem Accepted.link_of_compile (h : g.Accepted) {cache : SpecCache}
    {resolver : SpecKey → Except Error Spec} {c : CompiledGraph}
    (hcompile : (g.compile cache resolver).1 = .ok c) :
  ∃ spec, g.Resolved (cache.answer resolver) spec
    ∧ c.link g = ⟨g.nodes.map (g.linkedTask spec g.edges), g.specs spec⟩
  := by
  obtain ⟨spec, hspec, rfl⟩ := h.eq_of_compile hcompile
  use spec, hspec
  apply h.link_eq

end Graph

end JobGraph
