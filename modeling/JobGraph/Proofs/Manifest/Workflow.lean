import JobGraph.Manifest.Basic
import JobGraph.Proofs.Graph.Order
import JobGraph.Proofs.Task.Linking
import Mathlib

/-!
# Workflows of accepted graphs

What an executor asks of the tasks of a manifest: their names are different, their
dependencies are names of other tasks, and they can be ordered so that each comes after its
dependencies. The manifest of an accepted graph has these properties, and the order of
execution is such an order.
-/

namespace JobGraph

/-- Tasks that refer to each other only. -/
structure ClosedTasks (tasks : List ManifestTask) : Prop where
  distinct : (tasks.map ManifestTask.name).Nodup
  nodup_dependencies : ∀ t ∈ tasks, t.dependencies.Nodup
  irreflexive : ∀ t ∈ tasks, t.name ∉ t.dependencies
  closed : ∀ t ∈ tasks, ∀ d ∈ t.dependencies, ∃ t' ∈ tasks, t'.name = d

/-- An order of the names of tasks in which each task comes after its dependencies. -/
structure OrdersTasks (order : List String) (tasks : List ManifestTask) : Prop where
  perm : order.Perm (tasks.map ManifestTask.name)
  before : ∀ t ∈ tasks, ∀ front back, order = front ++ t.name :: back →
    ∀ d ∈ t.dependencies, d ∈ front

namespace Graph

variable {g : Graph} {spec : Node → Spec} {edges : List Edge} {n : Node} {env : List EnvVar}

/-! ### Tasks of linked nodes -/

/-- A task depends on the tasks of the sources of the edges into its node. -/
theorem mem_dependencies {d : String} :
  d ∈ ((g.linkedTask spec edges n).manifestTask env).dependencies
    ↔ ∃ s, g.Joins s n.id ∧ taskName s = d
  := by
  have hnames : ((g.linkedTask spec edges n).manifestTask env).dependencies
      = (g.sources n.id).names.map taskName := rfl
  rw [hnames, List.mem_map]
  apply exists_congr
  intro s
  apply and_congr_left fun _ => mem_sources

/-- Different nodes have different task names, so no dependency is listed twice. -/
theorem Accepted.nodup_dependencies (h : g.Accepted) :
  ((g.linkedTask spec edges n).manifestTask env).dependencies.Nodup
  := by
  apply List.Nodup.map_on _ (g.sources n.id).nodup_names
  intro s hs t ht heq
  apply h.taskName_injOn _ _ heq
  · apply h.source_mem s n.id (mem_sources.mp hs)
  · apply h.source_mem t n.id (mem_sources.mp ht)

/-- No task depends on itself. -/
theorem Accepted.not_mem_dependencies (h : g.Accepted) (hn : n ∈ g.nodes) :
  taskName n.id ∉ ((g.linkedTask spec edges n).manifestTask env).dependencies
  := by
  intro hmem
  obtain ⟨s, hs, heq⟩ := mem_dependencies.mp hmem
  apply h.ne_of_joins hs (h.taskName_injOn (h.source_mem s n.id hs) (List.mem_map_of_mem hn) heq)

/-- An artifact of a task comes from a task it depends on, which has an output of this
name. -/
theorem exists_of_mem_artifacts {a : ArtifactArgument}
    (ha : a ∈ ((g.linkedTask spec g.edges n).manifestTask env).artifacts) :
  ∃ m ∈ g.nodes, ∃ o ∈ (spec m).outputs,
    g.Joins m.id n.id ∧ a.source = OutputRef.expression ⟨m.id, o⟩
  := by
  obtain ⟨⟨name, r⟩, hmem, rfl⟩ := List.mem_map.mp ha
  have hget : (n.connections g.edges (g.spec? spec) (spec n).artifacts).get? name = some r :=
    SortedMap.mem_entries_iff.mp hmem
  rw [Node.get?_connections] at hget
  split at hget
  case isTrue =>
    obtain ⟨-, hedge, source, hsource, houtput⟩ := Node.connection?_eq_some_iff.mp hget
    obtain ⟨m, hm, rfl⟩ := Option.map_eq_some_iff.mp hsource
    obtain ⟨hmem, hid⟩ := node?_eq_some hm
    refine ⟨m, hmem, r.output, of_decide_eq_true houtput, ?_, ?_⟩
    · rw [hid]
      apply hedge
    · rw [hid]
  case isFalse => cases hget

/-! ### The manifest of an accepted graph -/

/-- The tasks of a manifest are the linked tasks of the nodes, one for each. -/
theorem map_name_linkedTask :
  (g.nodes.map fun n => (g.linkedTask spec edges n).manifestTask env).map ManifestTask.name
    = g.ids.map taskName
  := by
  rw [ids, List.map_map, List.map_map]
  rfl

/-- The tasks of an accepted graph refer to each other only. -/
theorem Accepted.closedTasks (h : g.Accepted) :
  ClosedTasks (g.nodes.map fun n => (g.linkedTask spec edges n).manifestTask env)
  := by
  constructor
  case distinct =>
    rw [map_name_linkedTask]
    apply h.distinct
  case nodup_dependencies =>
    intro t ht
    obtain ⟨n, -, rfl⟩ := List.mem_map.mp ht
    apply h.nodup_dependencies
  case irreflexive =>
    intro t ht
    obtain ⟨n, hn, rfl⟩ := List.mem_map.mp ht
    apply h.not_mem_dependencies hn
  case closed =>
    intro t ht d hd
    obtain ⟨n, -, rfl⟩ := List.mem_map.mp ht
    obtain ⟨s, hs, rfl⟩ := mem_dependencies.mp hd
    obtain ⟨m, hm, rfl⟩ := List.mem_map.mp (h.source_mem s n.id hs)
    exact ⟨_, List.mem_map_of_mem hm, rfl⟩

/-- The order of execution puts each task after its dependencies. -/
theorem Accepted.ordersTasks (h : g.Accepted) :
  OrdersTasks (g.executionOrder.map taskName)
    (g.nodes.map fun n => (g.linkedTask spec edges n).manifestTask env)
  := by
  constructor
  case perm =>
    rw [map_name_linkedTask]
    apply h.executionOrder_perm.map taskName
  case before =>
    intro t ht front back heq d hd
    obtain ⟨n, hn, rfl⟩ := List.mem_map.mp ht
    obtain ⟨s, hs, rfl⟩ := mem_dependencies.mp hd
    obtain ⟨ids, rest, hids, rfl, hrest⟩ := List.map_eq_append_iff.mp heq
    obtain ⟨id, later, rfl, hname, -⟩ := List.map_eq_cons_iff.mp hrest
    have hid : id ∈ g.ids := g.executionOrder_topological.mem_ids (by simp [hids])
    -- The position of a name is that of its node, since names tell nodes apart.
    have hsame := h.taskName_injOn hid (List.mem_map_of_mem hn) hname
    subst hsame
    have hmem := (hids ▸ g.executionOrder_topological).source_mem hs
    apply List.mem_map_of_mem hmem

variable {cache : SpecCache} {resolver : SpecKey → Except Error Spec} {c : CompiledGraph}

/-- The manifest of an accepted graph that is compiled and linked has one task for each node.
The tasks refer to each other only, each artifact comes from a declared output of a task that
its own task depends on, and the order of execution is an order of the tasks. -/
theorem manifest_isWorkflow (hcheck : g.check = .ok ())
    (hcompile : (g.compile cache resolver).1 = .ok c) (settings : ManifestSettings)
    (storage : Option StorageCredentials) :
  ∃ tasks, ((c.link g).manifest settings storage).templates = [⟨settings.entrypoint, tasks⟩]
    ∧ tasks.map ManifestTask.name = g.ids.map taskName
    ∧ ClosedTasks tasks
    ∧ (∀ n ∈ g.nodes, ∃ t ∈ tasks, t.name = taskName n.id
        ∧ ∀ d, d ∈ t.dependencies ↔ ∃ s, g.Joins s n.id ∧ taskName s = d)
    ∧ (∀ t ∈ tasks, ∀ a ∈ t.artifacts, ∃ n ∈ g.nodes, ∃ spec, ∃ o ∈ spec.outputs,
        a.source = "\x7b\x7btasks." ++ taskName n.id ++ ".outputs.artifacts." ++ o ++ "\x7d\x7d"
          ∧ taskName n.id ∈ t.dependencies ∧ cache.answer resolver n.specKey = .ok spec)
    ∧ OrdersTasks (g.executionOrder.map taskName) tasks
  := by
  have h := check_iff_accepted.mp hcheck
  obtain ⟨spec, hspec, hlink⟩ := h.link_of_compile hcompile
  use g.nodes.map fun n =>
    (g.linkedTask spec g.edges n).manifestTask (Manifest.env settings storage)
  refine ⟨?_, map_name_linkedTask, h.closedTasks, ?_, ?_, h.ordersTasks⟩
  · rw [hlink, CompiledGraph.manifest, Manifest.ofTasks, List.map_map]
    rfl
  · intro n hn
    refine ⟨_, List.mem_map_of_mem hn, rfl, ?_⟩
    intro d
    apply mem_dependencies
  · intro t ht a ha
    obtain ⟨n, -, rfl⟩ := List.mem_map.mp ht
    obtain ⟨m, hm, o, ho, hjoins, hsource⟩ := exists_of_mem_artifacts ha
    refine ⟨m, hm, spec m, o, ho, hsource, ?_, hspec m hm⟩
    apply mem_dependencies.mpr ⟨m.id, hjoins, rfl⟩

/-- A node that takes what another one makes. -/
def relay : Graph where
  nodes := [⟨"Make_It", "maker", "main", .empty⟩,
    ⟨"take", "taker", "main", .ofList [("data", .reference ⟨"Make_It", "file"⟩)]⟩]
  edges := [⟨"Make_It", "take"⟩]

/-- Every entrypoint takes an artifact and puts one out. -/
def relaySpec (key : SpecKey) : Spec :=
  ⟨key.template, key.entrypoint, [], [⟨"data", true⟩], ["file"]⟩

theorem relay_isWorkflow :
  ∃ c, relay.check = .ok () ∧ (relay.compile .empty fun key => .ok (relaySpec key)).1 = .ok c
    ∧ ∃ tasks, ((c.link relay).manifest .default none).templates = [⟨"main-dag", tasks⟩]
      ∧ tasks.map ManifestTask.artifacts
        = [[], [⟨"data", "{{tasks.node-make-it.outputs.artifacts.file}}"⟩]]
      ∧ ClosedTasks tasks ∧ OrdersTasks ["node-make-it", "node-take"] tasks
  := by
  have hcheck : relay.check = .ok () := by cbv
  have hcompile : (relay.compile .empty fun key => .ok (relaySpec key)).1 = _ :=
    @Accepted.compile_eq relay _ _ (fun n => relaySpec n.specKey) (check_iff_accepted.mp hcheck)
      fun n _ => SpecCache.answer_empty
  refine ⟨_, hcheck, hcompile, ?_⟩
  obtain ⟨tasks, htasks, -, hclosed, -, -, horder⟩ :=
    manifest_isWorkflow hcheck hcompile .default none
  have hlist : relay.executionOrder.map taskName = ["node-make-it", "node-take"] := by cbv
  rw [hlist] at horder
  have hartifacts : [tasks.map ManifestTask.artifacts] = [[[],
      [⟨"data", "{{tasks.node-make-it.outputs.artifacts.file}}"⟩]]] := by
    apply (congrArg (List.map fun t => t.tasks.map ManifestTask.artifacts) htasks).symm.trans
    cbv
  exact ⟨tasks, htasks, List.head_eq_of_cons_eq hartifacts, hclosed, horder⟩

end Graph

end JobGraph
