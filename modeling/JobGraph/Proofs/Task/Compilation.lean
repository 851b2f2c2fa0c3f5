import JobGraph.Proofs.Graph.Acceptance
import JobGraph.Proofs.Template.Cache
import JobGraph.Task.Compilation

/-!
# What compilation makes of an accepted graph

The cache that is shared by the nodes does not show in the tasks, since what it answers stays
the same while keys are resolved. An accepted graph is compiled exactly when every node has a
spec, and `Graph.compiledTask` is then the task of a node.
-/

namespace JobGraph

/-- All elements have values, or there is a first one that has an error. -/
theorem ok_or_first {ε α β : Type} (f : α → Except ε β) (as : List α) :
  (∀ a ∈ as, ∃ b, f a = .ok b)
    ∨ ∃ before a after e, as = before ++ a :: after
      ∧ (∀ x ∈ before, ∃ b, f x = .ok b) ∧ f a = .error e
  := by
  induction as with
  | nil =>
    left
    intro a ha
    cases ha
  | cons a as ih =>
    cases hvalue : f a with
    | error e =>
      right
      use [], a, as, e, rfl
      exact ⟨List.forall_mem_nil _, hvalue⟩
    | ok b =>
      have hfirst : ∃ b, f a = .ok b := ⟨b, hvalue⟩
      obtain hall | ⟨before, a', after, e, rfl, hbefore, herror⟩ := ih
      · left
        rw [List.forall_mem_cons]
        exact ⟨hfirst, hall⟩
      · right
        use a :: before, a', after, e, rfl
        rw [List.forall_mem_cons]
        exact ⟨⟨hfirst, hbefore⟩, herror⟩

/-! ### The tasks of nodes -/

namespace Node

variable {node : Node} {spec : Spec}

/-- A parameter has the text of the argument of its name. -/
theorem get?_parameters {name : String} :
  (node.parameters spec).get? name =
    if spec.hasParameter name then (node.arguments.get? name).map Argument.text else none
  := by
  apply @SortedMap.get?_ofList _ fun name =>
    if spec.hasParameter name then (node.arguments.get? name).map Argument.text else none
  rintro ⟨name, text⟩
  simp only [List.mem_map, List.mem_filter, Prod.exists, SortedMap.mem_entries_iff,
    Option.ite_none_right_eq_some, Option.map_eq_some_iff, Prod.mk.injEq]
  constructor
  · rintro ⟨_, a, ⟨hget, hparameter⟩, rfl, htext⟩
    exact ⟨hparameter, a, hget, htext⟩
  · rintro ⟨hparameter, a, hget, htext⟩
    exact ⟨name, a, ⟨hget, hparameter⟩, rfl, htext⟩

end Node

/-! ### Changes of tasks -/

/-- Where at most one element satisfies `p`, it is the one that is changed. -/
theorem changeFirst_eq_map {α : Type} {p : α → Bool} {change : α → α} {as : List α}
    (h : as.Pairwise fun a b => ¬ (p a = true ∧ p b = true)) :
  changeFirst p change as = as.map fun a => if p a then change a else a
  := by
  induction as with
  | nil => rfl
  | cons a as ih =>
    obtain ⟨hfirst, hrest⟩ := List.pairwise_cons.mp h
    rw [changeFirst, List.map_cons]
    split
    case isFalse => rw [ih hrest]
    case isTrue ha =>
      have hkept : as.map (fun a => if p a then change a else a) = as.map id := by
        apply List.map_congr_left
        intro b hb
        exact if_neg fun hpb => hfirst b hb ⟨ha, hpb⟩
      rw [hkept, List.map_id]

/-- Where the tasks have different ids, the task of a node is the one that is changed. -/
theorem changeFirst_task {id : String} {change : Task → Task} {tasks : List Task}
    (h : (tasks.map Task.nodeId).Nodup) :
  changeFirst (·.nodeId = id) change tasks
    = tasks.map fun t => if t.nodeId = id then change t else t
  := by
  rw [changeFirst_eq_map]
  · simp only [decide_eq_true_eq]
  · apply (List.pairwise_map.mp h).imp
    intro t t' hne
    simp only [decide_eq_true_eq, not_and]
    rintro rfl heq
    apply hne heq.symm

namespace Task

/-- The task with the source of an edge into it among its dependencies. -/
def after (task : Task) (edge : Edge) : Task :=
  if task.nodeId = edge.target then { task with dependsOn := task.dependsOn.insert edge.source }
  else task

@[simp] theorem after_nodeId {task : Task} {edge : Edge} :
  (task.after edge).nodeId = task.nodeId
  := by
  unfold after
  split <;> rfl

/-- Along edges a task comes to depend on the sources of those into it, and nothing else
changes. -/
theorem foldl_after {task : Task} {edges : List Edge} :
  edges.foldl after task = { task with
    dependsOn := ((edges.filter (·.target = task.nodeId)).map Edge.source).foldl
      NameSet.insert task.dependsOn }
  := by
  induction edges generalizing task with
  | nil => rfl
  | cons edge edges ih =>
    rw [List.foldl_cons, ih, after_nodeId, List.filter_cons]
    by_cases h : edge.target = task.nodeId
    · simp [after, h]
    · simp [after, h, Ne.symm h]

end Task

namespace CompiledGraph

variable {c : CompiledGraph}

/-- An edge into a task makes the task depend on its source. -/
theorem addDependency_eq {edge : Edge} (hnodup : (c.tasks.map Task.nodeId).Nodup)
    (hmem : edge.target ∈ c.tasks.map Task.nodeId) :
  c.addDependency edge = .ok ⟨c.tasks.map (·.after edge), c.specs⟩
  := by
  obtain ⟨t, ht, hid⟩ := List.mem_map.mp hmem
  have hsome : (c.task? edge.target).isSome := by
    rw [task?, List.find?_isSome]
    exact ⟨t, ht, decide_eq_true hid⟩
  rw [addDependency, if_pos hsome, changeFirst_task hnodup]
  rfl

/-- When the targets of all edges have tasks, every task gets its dependencies. -/
theorem addDependencies_eq {edges : List Edge} (hnodup : (c.tasks.map Task.nodeId).Nodup)
    (hmem : ∀ edge ∈ edges, edge.target ∈ c.tasks.map Task.nodeId) :
  c.addDependencies edges = .ok ⟨c.tasks.map fun t => edges.foldl Task.after t, c.specs⟩
  := by
  induction edges generalizing c with
  | nil => simp [addDependencies]
  | cons edge edges ih =>
    have hids : (c.tasks.map (·.after edge)).map Task.nodeId = c.tasks.map Task.nodeId := by
      simp [Function.comp_def]
    rw [addDependencies, addDependency_eq hnodup (hmem edge List.mem_cons_self)]
    simp only
    rw [ih]
    · simp [Function.comp_def]
    · rw [hids]
      apply hnodup
    · intro e he
      rw [hids]
      apply hmem e (List.mem_cons_of_mem _ he)

end CompiledGraph

/-! ### Compilation -/

namespace Graph

variable {g : Graph} {cache : SpecCache} {resolver : SpecKey → Except Error Spec}
  {spec : Node → Spec}

/-- Every node has its spec as the answer for its key. -/
def Resolved (g : Graph) (answer : SpecKey → Except Error Spec) (spec : Node → Spec) : Prop :=
  ∀ n ∈ g.nodes, answer n.specKey = .ok (spec n)

/-- The nodes have specs when each of them has one. -/
theorem exists_resolved_iff {answer : SpecKey → Except Error Spec} :
  (∃ spec, g.Resolved answer spec) ↔ ∀ n ∈ g.nodes, ∃ s, answer n.specKey = .ok s
  := by
  constructor
  · rintro ⟨spec, hspec⟩ n hn
    exact ⟨spec n, hspec n hn⟩
  · intro h
    have : Nonempty Spec := ⟨⟨"", "", [], [], []⟩⟩
    choose! spec hspec using h
    use spec, hspec

theorem compileNodes_cons {c : CompiledGraph} {node : Node} {nodes : List Node} :
  compileNodes resolver c cache (node :: nodes) =
    match cache.getOrResolve node.specKey resolver with
    | (.ok spec, cache) => compileNodes resolver (c.addTask node spec) cache nodes
    | (.error e, cache) => (.error e, cache)
  := rfl

/-- A graph is compiled by compiling its nodes and connecting them. -/
theorem compile_eq_connect :
  g.compile cache resolver
    = (g.connect (compileNodes resolver ⟨[], .empty⟩ cache g.nodes).1,
      (compileNodes resolver ⟨[], .empty⟩ cache g.nodes).2)
  := rfl

/-- A node whose spec is there is compiled, and then the others are. -/
theorem compileNodes_cons_of_ok {c : CompiledGraph} {node : Node} {nodes : List Node} {s : Spec}
    (h : cache.answer resolver node.specKey = .ok s) :
  compileNodes resolver c cache (node :: nodes)
    = compileNodes resolver (c.addTask node s) (cache.getOrResolve node.specKey resolver).2 nodes
  := by
  rw [compileNodes_cons]
  split
  case h_1 hget =>
    simp only [SpecCache.answer, hget, Except.ok.injEq] at h
    rw [h, hget]
  case h_2 hget =>
    simp only [SpecCache.answer, hget, reduceCtorEq] at h

/-- A node without a spec ends the compilation of nodes with its error. -/
theorem compileNodes_cons_of_error {c : CompiledGraph} {node : Node} {nodes : List Node}
    {e : Error} (h : cache.answer resolver node.specKey = .error e) :
  compileNodes resolver c cache (node :: nodes)
    = (.error e, (cache.getOrResolve node.specKey resolver).2)
  := by
  rw [compileNodes_cons]
  split
  case h_1 hget =>
    simp only [SpecCache.answer, hget, reduceCtorEq] at h
  case h_2 hget =>
    simp only [SpecCache.answer, hget, Except.error.injEq] at h
    rw [h, hget]

/-- Nodes that have specs are compiled one after the other. -/
theorem compileNodes_of_resolved {c : CompiledGraph} {nodes : List Node}
    (h : ∀ n ∈ nodes, cache.answer resolver n.specKey = .ok (spec n)) :
  (compileNodes resolver c cache nodes).1
    = .ok (nodes.foldl (fun c n => c.addTask n (spec n)) c)
  := by
  induction nodes generalizing c cache with
  | nil => rfl
  | cons node nodes ih =>
    rw [compileNodes_cons_of_ok (h node List.mem_cons_self)]
    -- The cache grows, but not its answers, so the other nodes have their specs from it, too.
    apply ih
    intro n hn
    rw [SpecCache.answer_getOrResolve]
    apply h n (List.mem_cons_of_mem _ hn)

/-- Nodes are compiled only when all of them have specs. -/
theorem answer_of_compileNodes {c c' : CompiledGraph} {nodes : List Node}
    (h : (compileNodes resolver c cache nodes).1 = .ok c') :
  ∀ n ∈ nodes, ∃ spec, cache.answer resolver n.specKey = .ok spec
  := by
  induction nodes generalizing c cache with
  | nil =>
    intro n hn
    cases hn
  | cons node nodes ih =>
    cases hanswer : cache.answer resolver node.specKey with
    | error e =>
      rw [compileNodes_cons_of_error hanswer] at h
      cases h
    | ok s =>
      rw [compileNodes_cons_of_ok hanswer] at h
      have hrest := ih h
      simp only [SpecCache.answer_getOrResolve] at hrest
      rw [List.forall_mem_cons]
      exact ⟨⟨s, hanswer⟩, hrest⟩

/-- The first node without a spec ends the compilation of nodes with its error. -/
theorem compileNodes_of_error {c : CompiledGraph} {before after : List Node} {n : Node}
    {e : Error} (hbefore : ∀ m ∈ before, ∃ spec, cache.answer resolver m.specKey = .ok spec)
    (herror : cache.answer resolver n.specKey = .error e) :
  (compileNodes resolver c cache (before ++ n :: after)).1 = .error e
  := by
  induction before generalizing c cache with
  | nil => rw [List.nil_append, compileNodes_cons_of_error herror]
  | cons node nodes ih =>
    obtain ⟨⟨s, hs⟩, hnodes⟩ := List.forall_mem_cons.mp hbefore
    rw [List.cons_append, compileNodes_cons_of_ok hs]
    apply ih
    · intro m hm
      rw [SpecCache.answer_getOrResolve]
      apply hnodes m hm
    · rw [SpecCache.answer_getOrResolve]
      apply herror

theorem foldl_addTask {c : CompiledGraph} {nodes : List Node} :
  nodes.foldl (fun c n => c.addTask n (spec n)) c =
    ⟨c.tasks ++ nodes.map fun n => n.task (spec n),
      (nodes.map fun n => (n.id, spec n)).foldl (fun d (id, spec) => d.insert id spec) c.specs⟩
  := by
  induction nodes generalizing c with
  | nil => simp
  | cons node nodes ih =>
    rw [List.foldl_cons, ih]
    simp [CompiledGraph.addTask]

/-- The sources of the edges into a node. -/
def sources (g : Graph) (id : String) : NameSet :=
  .ofList ((g.edges.filter (·.target = id)).map Edge.source)

/-- The sources of a node are the nodes that are joined to it. -/
theorem mem_sources {s t : String} :
  s ∈ g.sources t ↔ g.Joins s t
  := by
  simp only [sources, NameSet.mem_ofList, List.mem_map, List.mem_filter, decide_eq_true_eq]
  constructor
  · rintro ⟨e, ⟨he, rfl⟩, rfl⟩
    apply he
  · intro h
    exact ⟨⟨s, t⟩, ⟨h, rfl⟩, rfl⟩

/-- The task of a node as it is compiled. -/
def compiledTask (g : Graph) (spec : Node → Spec) (n : Node) : Task :=
  { n.task (spec n) with dependsOn := g.sources n.id }

/-- The specs by node id. -/
def specs (g : Graph) (spec : Node → Spec) : Dictionary String Spec :=
  .ofList (g.nodes.map fun n => (n.id, spec n))

theorem node?_eq_some {n : Node} {id : String} (h : g.node? id = some n) :
  n ∈ g.nodes ∧ n.id = id
  := by
  have hid := List.find?_some h
  exact ⟨List.mem_of_find?_eq_some h, of_decide_eq_true hid⟩

theorem exists_node? {id : String} (h : id ∈ g.ids) :
  ∃ n, g.node? id = some n
  := by
  obtain ⟨n, hn, rfl⟩ := List.mem_map.mp h
  rw [← Option.isSome_iff_exists, node?, List.find?_isSome]
  exact ⟨n, hn, decide_eq_true rfl⟩

theorem Accepted.node?_id (h : g.Accepted) {n : Node} (hn : n ∈ g.nodes) :
  g.node? n.id = some n
  := by
  obtain ⟨m, hm⟩ := exists_node? (List.mem_map_of_mem hn)
  obtain ⟨hmem, hid⟩ := node?_eq_some hm
  rw [hm, h.eq_of_id_eq hmem hn hid]

/-- In an accepted graph an id is that of at most one node. -/
theorem Accepted.node?_eq_some_iff (h : g.Accepted) {n : Node} {id : String} :
  g.node? id = some n ↔ n ∈ g.nodes ∧ n.id = id
  := by
  constructor
  · apply node?_eq_some
  · rintro ⟨hn, rfl⟩
    apply h.node?_id hn

/-- In an accepted graph an id has the spec of its node. -/
theorem Accepted.get?_specs (h : g.Accepted) {id : String} :
  (g.specs spec).get? id = (g.node? id).map spec
  := by
  apply @Dictionary.get?_ofList _ _ _ fun id => (g.node? id).map spec
  rintro ⟨id, s⟩
  simp only [List.mem_map, Prod.mk.injEq, Option.map_eq_some_iff, h.node?_eq_some_iff]
  apply exists_congr
  intro n
  rw [and_assoc]

/-- An accepted graph whose nodes have specs is compiled, each node into its task. -/
theorem Accepted.compile_eq (h : g.Accepted)
    (hspec : g.Resolved (cache.answer resolver) spec) :
  (g.compile cache resolver).1 = .ok ⟨g.nodes.map (g.compiledTask spec), g.specs spec⟩
  := by
  have hnodes : (compileNodes resolver ⟨[], .empty⟩ cache g.nodes).1
      = .ok ⟨g.nodes.map fun n => n.task (spec n), g.specs spec⟩ := by
    rw [compileNodes_of_resolved hspec, foldl_addTask, List.nil_append]
    rfl
  have hids : (g.nodes.map fun n => n.task (spec n)).map Task.nodeId = g.ids := by
    rw [List.map_map]
    rfl
  rw [compile_eq_connect, hnodes, connect, CompiledGraph.addDependencies_eq]
  · simp only [List.map_map, Except.ok.injEq, CompiledGraph.mk.injEq, and_true]
    apply List.map_congr_left
    intro n _
    apply Task.foldl_after
  · rw [hids]
    apply h.nodup_ids
  · intro e he
    rw [hids]
    apply h.target_mem e.source e.target he

/-- A graph is compiled only when its nodes have specs. -/
theorem exists_resolved_of_compile {c : CompiledGraph} (h : (g.compile cache resolver).1 = .ok c) :
  ∃ spec, g.Resolved (cache.answer resolver) spec
  := by
  apply exists_resolved_iff.mpr
  rw [compile_eq_connect] at h
  cases hnodes : (compileNodes resolver ⟨[], .empty⟩ cache g.nodes).1 with
  | error e =>
    rw [hnodes] at h
    cases h
  | ok c' => apply answer_of_compileNodes hnodes

/-- Whatever an accepted graph is compiled to, it is the tasks of its nodes. -/
theorem Accepted.eq_of_compile (h : g.Accepted) {c : CompiledGraph}
    (hcompile : (g.compile cache resolver).1 = .ok c) :
  ∃ spec, g.Resolved (cache.answer resolver) spec
    ∧ c = ⟨g.nodes.map (g.compiledTask spec), g.specs spec⟩
  := by
  obtain ⟨spec, hspec⟩ := exists_resolved_of_compile hcompile
  rw [h.compile_eq hspec, Except.ok.injEq] at hcompile
  exact ⟨spec, hspec, hcompile.symm⟩

/-- The first node without a spec ends the compilation of a graph with its error. -/
theorem compile_eq_error {before after : List Node} {n : Node} {e : Error}
    (hnodes : g.nodes = before ++ n :: after)
    (hbefore : ∀ m ∈ before, ∃ spec, cache.answer resolver m.specKey = .ok spec)
    (herror : cache.answer resolver n.specKey = .error e) :
  (g.compile cache resolver).1 = .error e
  := by
  rw [compile_eq_connect, hnodes, compileNodes_of_error hbefore herror, connect]

/-- All nodes have specs, or there is a first one that has none. -/
theorem resolved_or_first (g : Graph) (answer : SpecKey → Except Error Spec) :
  (∃ spec, g.Resolved answer spec)
    ∨ ∃ before n after e, g.nodes = before ++ n :: after
      ∧ (∀ m ∈ before, ∃ spec, answer m.specKey = .ok spec) ∧ answer n.specKey = .error e
  := by
  obtain hspec | hfirst := ok_or_first (fun n => answer n.specKey) g.nodes
  · left
    apply exists_resolved_iff.mpr hspec
  · right
    apply hfirst

/-- An accepted graph that is not compiled has a node without a spec, whose error it is. -/
theorem Accepted.exists_of_compile_error (h : g.Accepted) {e : Error}
    (herror : (g.compile cache resolver).1 = .error e) :
  ∃ n ∈ g.nodes, cache.answer resolver n.specKey = .error e
  := by
  obtain ⟨spec, hspec⟩ | ⟨before, n, after, e', hnodes, hbefore, hanswer⟩ :=
    g.resolved_or_first (cache.answer resolver)
  · rw [h.compile_eq hspec] at herror
    cases herror
  · rw [compile_eq_error hnodes hbefore hanswer] at herror
    cases herror
    use n
    constructor
    · rw [hnodes]
      apply List.mem_append_right _ List.mem_cons_self
    · apply hanswer

end Graph

end JobGraph
