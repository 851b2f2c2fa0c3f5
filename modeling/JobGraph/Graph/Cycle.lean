import JobGraph.Graph.Basic

/-!
# Search for a cycle

Depth-first search with the path kept as a stack of frames. `Search.step` is one step of the
search: it looks at the next successor of the node on top of the stack, and takes the node
off when there is none left. `Graph.findCycle` starts the search at every node not yet
visited and returns the first successor found on the path.
-/

namespace JobGraph

/-- A node on the path, with the number of its successors looked at. -/
structure Frame where
  node : String
  next : Nat
deriving DecidableEq, Repr

/-- The state of a search. The stack has its top first. -/
structure Search where
  visited : List String
  onPath : List String
  stack : List Frame
deriving DecidableEq, Repr

/-- What a step of a search comes to. -/
inductive Step where
  /-- A successor of the top of the stack stands on the path. -/
  | found (node : String)
  | continue (search : Search)
  /-- The stack is empty. -/
  | finished
deriving DecidableEq, Repr

namespace Search

/-- The search at a node, after others that visited `visited`. -/
def start (visited : List String) (root : String) : Search :=
  ⟨root :: visited, [root], [⟨root, 0⟩]⟩

/-- One step of the search. -/
def step (g : Graph) (s : Search) : Step :=
  match s.stack with
  | [] => .finished
  | top :: below =>
    match (g.successors top.node)[top.next]? with
    | none => .continue ⟨s.visited, s.onPath.erase top.node, below⟩
    | some v =>
      let stack := ⟨top.node, top.next + 1⟩ :: below
      if v ∈ s.onPath then .found v
      else if v ∈ s.visited then .continue ⟨s.visited, s.onPath, stack⟩
      else .continue ⟨v :: s.visited, v :: s.onPath, ⟨v, 0⟩ :: stack⟩

/-! ### The end of a search

Every step visits a new target of an edge, looks at one more successor of a node on the
stack, or takes a node off the stack.
-/

/-- The number of edges whose target is not visited. -/
def unvisited (g : Graph) (s : Search) : Nat :=
  (g.edges.filter (·.target ∉ s.visited)).length

/-- The number of successors that the nodes on a stack still have to look at, and one more for
each node. -/
def pendingOn (g : Graph) : List Frame → Nat
  | [] => 0
  | frame :: below => (g.successors frame.node).length - frame.next + 1 + pendingOn g below

/-- What the nodes on the stack still have to do. -/
def pending (g : Graph) (s : Search) : Nat :=
  pendingOn g s.stack

theorem unvisited_lt {g : Graph} {s : Search} {u v : String} {onPath : List String}
    {stack : List Frame} (he : ⟨u, v⟩ ∈ g.edges) (hv : v ∉ s.visited) :
  unvisited g ⟨v :: s.visited, onPath, stack⟩ < unvisited g s
  := by
  unfold unvisited
  have key : ∀ edges : List Edge,
      (edges.filter (·.target ∉ v :: s.visited)).length
        ≤ (edges.filter (·.target ∉ s.visited)).length := by
    intro edges
    induction edges with
    | nil => simp
    | cons e edges ih =>
      rw [List.filter_cons, List.filter_cons]
      split
      case isTrue h =>
        have h' : decide (e.target ∉ s.visited) = true :=
          decide_eq_true fun hm => of_decide_eq_true h (List.mem_cons_of_mem _ hm)
        rw [if_pos h']
        simpa using ih
      case isFalse => split <;> grind
  obtain ⟨front, back, hsplit⟩ := List.append_of_mem he
  rw [hsplit, List.filter_append, List.filter_append, List.length_append, List.length_append,
    List.filter_cons_of_neg (by simp), List.filter_cons_of_pos (by simpa using hv)]
  have := key front
  have := key back
  simp only [List.length_cons]
  omega

theorem step_decreases {g : Graph} {s s' : Search} (h : s.step g = .continue s') :
  Prod.Lex (· < ·) (· < ·) (unvisited g s', pending g s') (unvisited g s, pending g s)
  := by
  unfold step at h
  split at h
  · cases h
  case h_2 top below hstack =>
    split at h
    case h_1 =>
      cases h
      apply Prod.Lex.right
      simp [pending, pendingOn, hstack]
    case h_2 v hv =>
      obtain ⟨hlt, hget⟩ := List.getElem?_eq_some_iff.mp hv
      split at h
      · cases h
      · split at h
        · cases h
          apply Prod.Lex.right
          simp [pending, pendingOn, hstack]
          omega
        case isFalse hvisited =>
          cases h
          apply Prod.Lex.left
          exact unvisited_lt (Graph.mem_successors.mp (List.mem_of_getElem? hv)) hvisited

/-- The search to its end: the node found on the path, or all that was visited. -/
def run (g : Graph) (s : Search) : Except String (List String) :=
  match _h : s.step g with
  | .found v => .error v
  | .continue s' => run g s'
  | .finished => .ok s.visited
termination_by (unvisited g s, pending g s)
decreasing_by exact step_decreases ‹_›

end Search

namespace Graph

/-- The search at each root not yet visited, until one finds a node on its path. -/
def findCycleFrom (g : Graph) (visited : List String) : List String → Option String
  | [] => none
  | root :: roots =>
    if root ∈ visited then g.findCycleFrom visited roots
    else
      match (Search.start visited root).run g with
      | .error v => some v
      | .ok visited => g.findCycleFrom visited roots

/-- A node on a cycle, if there is one. -/
def findCycle (g : Graph) : Option String :=
  g.findCycleFrom [] g.ids

end Graph

end JobGraph
