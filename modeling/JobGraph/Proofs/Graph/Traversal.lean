import JobGraph.Proofs.Graph.Cycle
import Mathlib.Algebra.GroupWithZero.Nat

/-!
# The stages of the search for a cycle

`Graph.Stage` is the whole search for a cycle as it goes from step to step and from root to root.
The invariant of a search holds at each stage, what was not looked at bounds the number of
stages, and the last stage has the result. So the search comes to an end on every graph, also
where ids are repeated or edges leave or enter nodes that are not there.
-/

namespace JobGraph

namespace Search

variable {g : Graph} {s s' : Search}

/-! ### From root to root -/

/-- The search at a further root. It keeps what was visited and what is on the path. -/
def restart (s : Search) (root : String) : Search :=
  ⟨root :: s.visited, s.onPath.insert root, [⟨root, 0⟩]⟩

/-- At the end of a search the path is empty, so a further root starts with a path of its own. -/
theorem Invariant.restart_eq (h : Invariant g s) (hs : s.step g = .finished) (root : String) :
  s.restart root = start s.visited root
  := by
  simp [restart, start, h.onPath_of_finished hs]

/-- The invariant holds before the first root. -/
theorem idle_invariant :
  Invariant g ⟨[], [], []⟩
  := by
  constructor
  case follows => exact .nil
  all_goals simp

/-! ### Bounded work -/

/-- The number of edges not looked at: those that leave nodes not visited, and what is left of
the successors of the nodes on the stack. -/
def unlooked (g : Graph) (visited : List String) (stack : List Frame) : Nat :=
  g.edges.countP (·.source ∉ visited)
    + (stack.map fun f => (g.successors f.node).length - f.next).sum

/-- A bound on the steps to come. An edge is looked at once, and puts at most one node on the
stack, which is taken off once. -/
def work (g : Graph) (visited : List String) (stack : List Frame) : Nat :=
  2 * unlooked g visited stack + stack.length

/-- The edges that leave nodes not visited are those that leave one of them, and those that
leave the others. -/
theorem countP_unvisited {v : String} {visited : List String} (hv : v ∉ visited) :
  g.edges.countP (·.source ∉ visited)
    = g.edges.countP (·.source ∉ v :: visited) + (g.successors v).length
  := by
  rw [Graph.successors, List.length_map, ← List.countP_eq_length_filter]
  induction g.edges with
  | nil => rfl
  | cons e edges ih =>
    rw [List.countP_cons, List.countP_cons, List.countP_cons, ih]
    by_cases heq : e.source = v
    · simp [heq, hv]
      omega
    · simp [heq]
      omega

/-- A node visited comes with the edges that leave it, and is to be taken off the stack. -/
theorem work_visit {v : String} {visited : List String} {stack : List Frame}
    (hv : v ∉ visited) :
  work g (v :: visited) (⟨v, 0⟩ :: stack) = work g visited stack + 1
  := by
  have hedges := countP_unvisited (g := g) hv
  simp only [work, unlooked, List.map_cons, List.sum_cons, List.length_cons]
  omega

/-- Looking at a successor is work for two steps, as the successor may be put on the stack. -/
theorem work_look {v : String} {visited : List String} {top : Frame} {below : List Frame}
    (hv : (g.successors top.node)[top.next]? = some v) :
  work g visited (top :: below) = work g visited (⟨top.node, top.next + 1⟩ :: below) + 2
  := by
  obtain ⟨hlt, -⟩ := List.getElem?_eq_some_iff.mp hv
  simp only [work, unlooked, List.map_cons, List.sum_cons, List.length_cons]
  omega

/-- With each step less work is left. -/
theorem work_lt_of_step (h : s.step g = .continue s') :
  work g s'.visited s'.stack < work g s.visited s.stack
  := by
  obtain ⟨top, below, hstack, hcases⟩ := step_continue_cases h
  rw [hstack]
  rcases hcases with ⟨-, rfl⟩ | ⟨v, hv, -, ⟨-, rfl⟩ | ⟨hnew, rfl⟩⟩
  · simp only [work, unlooked, List.map_cons, List.sum_cons, List.length_cons]
    omega
  · rw [work_look hv]
    apply Nat.lt_add_of_pos_right Nat.two_pos
  · rw [work_look hv, work_visit hnew]
    omega

end Search

namespace Graph

variable {g : Graph} {n : Nat} {roots : List String} {s : Search} {v : String}

/-- After `n` steps the search for a cycle has come to this state, with these roots to come. -/
inductive Stage (g : Graph) : Nat → List String → Search → Prop
  | first : Stage g 0 g.ids ⟨[], [], []⟩
  /-- At the end of a search a root that was visited is passed over. -/
  | pass {n : Nat} {root : String} {roots : List String} {s : Search}
      (h : Stage g n (root :: roots) s) (hend : s.step g = .finished)
      (hroot : root ∈ s.visited) : Stage g (n + 1) roots s
  /-- At the end of a search one starts from a root that was not visited. -/
  | root {n : Nat} {root : String} {roots : List String} {s : Search}
      (h : Stage g n (root :: roots) s) (hend : s.step g = .finished)
      (hroot : root ∉ s.visited) : Stage g (n + 1) roots (s.restart root)
  | step {n : Nat} {roots : List String} {s s' : Search} (h : Stage g n roots s)
      (hs : s.step g = .continue s') : Stage g (n + 1) roots s'

/-- The invariant of a search holds at each stage. -/
theorem Stage.invariant (h : g.Stage n roots s) :
  Search.Invariant g s
  := by
  induction h with
  | first => apply Search.idle_invariant
  | pass _ _ _ ih => apply ih
  | root _ hend hroot ih =>
    rw [ih.restart_eq hend]
    apply Search.start_invariant (ih.explored_of_finished hend) hroot
  | step _ hs ih => apply ih.step hs

/-! ### The last stage -/

/-- The steps done and the work to come do not exceed what the nodes and edges allow. -/
theorem Stage.length_add_work_le (h : g.Stage n roots s) :
  n + Search.work g s.visited s.stack + 2 * roots.length ≤ 2 * (g.nodes.length + g.edges.length)
  := by
  -- A root takes two steps of its own: the search comes to it, and takes it off the stack.
  induction h with
  | first =>
    simp [Search.work, Search.unlooked, ids]
    omega
  | pass _ _ _ ih =>
    rw [List.length_cons] at ih
    omega
  | root _ hend hroot ih =>
    rw [List.length_cons] at ih
    rw [Search.restart, Search.work_visit hroot, ← Search.step_finished hend]
    omega
  | step _ hs ih =>
    have := Search.work_lt_of_step hs
    omega

/-- A node was found, or the last search is at its end. -/
def IsLast (g : Graph) (roots : List String) (s : Search) : Prop :=
  (∃ v, s.step g = .found v) ∨ roots = [] ∧ s.step g = .finished

/-- Where the search is not at its end it goes on. -/
theorem Stage.exists_next (h : g.Stage n roots s) (hlast : ¬ g.IsLast roots s) :
  ∃ roots s, g.Stage (n + 1) roots s
  := by
  cases hs : s.step g with
  | found v => exact absurd (.inl ⟨v, hs⟩) hlast
  | «continue» s' => exact ⟨roots, s', h.step hs⟩
  | finished =>
    cases roots with
    | nil => exact absurd (.inr ⟨rfl, hs⟩) hlast
    | cons root roots =>
      by_cases hroot : root ∈ s.visited
      · exact ⟨roots, s, h.pass hs hroot⟩
      · exact ⟨roots, s.restart root, h.root hs hroot⟩

/-- The search comes to its end. -/
theorem exists_last_stage (g : Graph) :
  ∃ n roots s, g.Stage n roots s ∧ g.IsLast roots s
  := by
  by_contra hnever
  -- Without a last stage there would be one after any number of steps.
  have hstages : ∀ n, ∃ roots s, g.Stage n roots s := by
    intro n
    induction n with
    | zero => exact ⟨_, _, .first⟩
    | succ n ih =>
      obtain ⟨roots, s, h⟩ := ih
      apply h.exists_next
      intro hlast
      apply hnever ⟨n, roots, s, h, hlast⟩
  obtain ⟨roots, s, h⟩ := hstages (2 * (g.nodes.length + g.edges.length) + 1)
  have := h.length_add_work_le
  omega

/-! ### The result -/

/-- What is found when a search has come to its end and these roots are still to come. -/
def resume (g : Graph) (roots : List String) : Except String (List String) → Option String
  | .error v => some v
  | .ok visited => g.findCycleFrom visited roots

theorem findCycleFrom_cons {visited : List String} {root : String} :
  g.findCycleFrom visited (root :: roots)
    = if root ∈ visited then g.findCycleFrom visited roots
      else g.resume roots ((Search.start visited root).run g)
  := by
  rw [findCycleFrom]
  split
  · rfl
  · split <;> rename_i hrun <;> rw [hrun] <;> rfl

/-- What is left to do at a stage decides what is found. -/
theorem Stage.findCycle_eq (h : g.Stage n roots s) :
  g.findCycle = g.resume roots (s.run g)
  := by
  induction h with
  | first =>
    rw [Search.run_eq]
    rfl
  | pass _ hend hroot ih =>
    rw [ih, Search.run_eq, hend]
    apply findCycleFrom_cons.trans
    rw [if_pos hroot]
    rfl
  | root h hend hroot ih =>
    rw [ih, h.invariant.restart_eq hend, Search.run_eq, hend]
    apply findCycleFrom_cons.trans
    rw [if_neg hroot]
  | step _ hs ih => rw [ih, Search.run_eq, hs]

theorem Stage.findCycle_of_found (h : g.Stage n roots s) (hs : s.step g = .found v) :
  g.findCycle = some v
  := by
  rw [h.findCycle_eq, Search.run_eq, hs]
  rfl

theorem Stage.findCycle_of_finished (h : g.Stage n [] s) (hs : s.step g = .finished) :
  g.findCycle = none
  := by
  rw [h.findCycle_eq, Search.run_eq, hs]
  rfl

/-- A node is found exactly when the search comes to a stage where it is the next one to look at
and on the path. -/
theorem findCycle_eq_some_iff_exists_stage :
  g.findCycle = some v ↔ ∃ n roots s, g.Stage n roots s ∧ s.step g = .found v
  := by
  constructor
  · intro hv
    obtain ⟨n, roots, s, h, ⟨w, hs⟩ | ⟨rfl, hs⟩⟩ := g.exists_last_stage
    · obtain rfl := Option.some.inj ((h.findCycle_of_found hs).symm.trans hv)
      exact ⟨n, roots, s, h, hs⟩
    · cases (h.findCycle_of_finished hs).symm.trans hv
  · rintro ⟨n, roots, s, h, hs⟩
    apply h.findCycle_of_found hs

/-- No node is found exactly when the search comes to its end for every root. -/
theorem findCycle_eq_none_iff_exists_stage :
  g.findCycle = none ↔ ∃ n s, g.Stage n [] s ∧ s.step g = .finished
  := by
  constructor
  · intro hnone
    obtain ⟨n, roots, s, h, ⟨w, hs⟩ | ⟨rfl, hs⟩⟩ := g.exists_last_stage
    · cases (h.findCycle_of_found hs).symm.trans hnone
    · exact ⟨n, s, h, hs⟩
  · rintro ⟨n, s, h, hs⟩
    apply h.findCycle_of_finished hs

/-! ### What the roots reach -/

/-- The nodes visited are reached from ids of the graph, of which the roots to come are some. -/
theorem Stage.reached (h : g.Stage n roots s) :
  roots ⊆ g.ids ∧ ∀ v ∈ s.visited, ∃ id ∈ g.ids, Relation.ReflTransGen g.Joins id v
  := by
  induction h with
  | first =>
    refine ⟨List.Subset.refl _, ?_⟩
    intro v hv
    cases hv
  | pass _ _ _ ih => exact ⟨(List.cons_subset.mp ih.1).2, ih.2⟩
  | root _ _ _ ih =>
    obtain ⟨hroot, hroots⟩ := List.cons_subset.mp ih.1
    refine ⟨hroots, ?_⟩
    intro v hv
    rcases List.mem_cons.mp hv with rfl | hv
    · exact ⟨v, hroot, .refl⟩
    · apply ih.2 v hv
  | @step _ _ s _ h hs ih =>
    refine ⟨ih.1, ?_⟩
    obtain ⟨top, below, hstack, hcases⟩ := Search.step_continue_cases hs
    rcases hcases with ⟨-, rfl⟩ | ⟨w, hw, -, ⟨-, rfl⟩ | ⟨-, rfl⟩⟩
    · apply ih.2
    · apply ih.2
    · intro v hv
      rcases List.mem_cons.mp hv with rfl | hv
      · have hpath : top.node ∈ s.onPath := by simp [h.invariant.path, hstack]
        obtain ⟨id, hid, hreach⟩ := ih.2 top.node (h.invariant.visited top.node hpath)
        exact ⟨id, hid, hreach.tail (Graph.mem_successors.mp (List.mem_of_getElem? hw))⟩
      · apply ih.2 v hv

/-- From explored nodes only such nodes are reached. -/
theorem Explored.mem_of_reflTransGen {visited : List String} {w : String}
    (h : g.Explored visited) (hv : v ∈ visited) (hreach : Relation.ReflTransGen g.Joins v w) :
  w ∈ visited
  := by
  induction hreach with
  | refl => apply hv
  | tail _ hjoins ih => apply h.closed _ ih _ hjoins

/-- On every graph, no cycle is found exactly when no id of a node leads to one. -/
theorem findCycle_eq_none_iff_forall_ids :
  g.findCycle = none
    ↔ ∀ id ∈ g.ids, ∀ v, Relation.ReflTransGen g.Joins id v → ¬ g.Reaches v v
  := by
  constructor
  · intro hnone id hid v hreach
    obtain ⟨visited, hexplored, -, hids⟩ := explored_of_findCycleFrom g.explored_nil hnone
    apply hexplored.acyclic v (hexplored.mem_of_reflTransGen (hids hid) hreach)
  · intro hacyclic
    rw [Option.eq_none_iff_forall_ne_some]
    intro v hv
    obtain ⟨n, roots, s, h, hs⟩ := findCycle_eq_some_iff_exists_stage.mp hv
    obtain ⟨_, _, -, -, hpath⟩ := Search.step_found_cases hs
    obtain ⟨id, hid, hreach⟩ := h.reached.2 v (h.invariant.visited v hpath)
    apply hacyclic id hid v hreach (h.invariant.reaches_of_found hs)

/-- The search for a cycle comes to its end within twice as many steps as the graph has nodes and
edges. At each of them its stack is a path of different nodes, and what was visited off that path
leads only to such nodes and to no cycle. Its last stage has the result: a node that is found lies
on a cycle, and none is found exactly when no id of a node leads to one. -/
theorem findCycle_stages (g : Graph) :
  (∀ n roots s, g.Stage n roots s →
      n ≤ 2 * (g.nodes.length + g.edges.length) ∧ Search.Invariant g s)
    ∧ (∀ v, g.findCycle = some v ↔ ∃ n roots s, g.Stage n roots s ∧ s.step g = .found v)
    ∧ (g.findCycle = none ↔ ∃ n s, g.Stage n [] s ∧ s.step g = .finished)
    ∧ (∀ v, g.findCycle = some v → g.Reaches v v)
    ∧ (g.findCycle = none
      ↔ ∀ id ∈ g.ids, ∀ v, Relation.ReflTransGen g.Joins id v → ¬ g.Reaches v v)
  := by
  refine ⟨?_, ?_, ?_, ?_, ?_⟩
  · intro n roots s h
    have := h.length_add_work_le
    exact ⟨by omega, h.invariant⟩
  · intro v
    apply findCycle_eq_some_iff_exists_stage
  · apply findCycle_eq_none_iff_exists_stage
  · intro v
    apply reaches_of_findCycle
  · apply findCycle_eq_none_iff_forall_ids

/-- A node drawn twice, with an edge to an id that no node has, and one that waits for itself. -/
def stumbling : Graph where
  nodes := [⟨"a", "step", "main", .empty⟩, ⟨"a", "step", "main", .empty⟩,
    ⟨"b", "step", "main", .empty⟩]
  edges := [⟨"a", "x"⟩, ⟨"b", "b"⟩]

/-- The search in `stumbling` when it has come to the last node. -/
def stumblingLast : Search :=
  ⟨["b", "x", "a"], ["b"], [⟨"b", 0⟩]⟩

theorem stumbling_stages :
  stumbling.Stage 6 [] stumblingLast ∧ 6 ≤ 2 * (3 + 2) ∧ Search.Invariant stumbling stumblingLast
    ∧ stumbling.findCycle = some "b" ∧ stumbling.Reaches "b" "b"
  := by
  obtain ⟨hstages, hsome, -, hcycle, -⟩ := findCycle_stages stumbling
  have hfirst : stumbling.Stage 0 ["a", "a", "b"] ⟨[], [], []⟩ := .first
  have hroot : stumbling.Stage 1 ["a", "b"] ⟨["a"], ["a"], [⟨"a", 0⟩]⟩ :=
    hfirst.root rfl (by decide)
  have hpush : stumbling.Stage 2 ["a", "b"]
      ⟨["x", "a"], ["x", "a"], [⟨"x", 0⟩, ⟨"a", 1⟩]⟩ := hroot.step rfl
  have hpop : stumbling.Stage 3 ["a", "b"] ⟨["x", "a"], ["a"], [⟨"a", 1⟩]⟩ := hpush.step rfl
  have hdone : stumbling.Stage 4 ["a", "b"] ⟨["x", "a"], [], []⟩ := hpop.step rfl
  have hrepeated : stumbling.Stage 5 ["b"] ⟨["x", "a"], [], []⟩ := hdone.pass rfl (by decide)
  have hlast : stumbling.Stage 6 [] stumblingLast := hrepeated.root rfl (by decide)
  obtain ⟨hbound, hinvariant⟩ := hstages _ _ _ hlast
  have hfound : stumbling.findCycle = some "b" := (hsome "b").mpr ⟨6, [], _, hlast, rfl⟩
  exact ⟨hlast, hbound, hinvariant, hfound, hcycle "b" hfound⟩

end Graph

end JobGraph
