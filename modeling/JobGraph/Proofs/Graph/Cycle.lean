import JobGraph.Graph.Cycle
import Mathlib.Data.List.Chain
import Mathlib.Logic.Relation
import Mathlib.Order.WellFounded

/-!
# What the search for a cycle finds

Along its steps a search keeps that its stack is a path, that a node off the path is done
with its successors, and that such a node lies on no cycle. So the node found lies on a
cycle, and a search that finds none has visited nodes that reach no cycle.
-/

namespace JobGraph

namespace Graph

/-- An edge leads from `s` to `t`. -/
def Joins (g : Graph) (s t : String) : Prop :=
  ⟨s, t⟩ ∈ g.edges

/-- A path of one or more edges leads from one node to another. -/
def Reaches (g : Graph) : String → String → Prop :=
  Relation.TransGen g.Joins

/-- The nodes visited are closed under successors, and none of them lies on a cycle. -/
structure Explored (g : Graph) (visited : List String) : Prop where
  closed : ∀ v ∈ visited, ∀ w, g.Joins v w → w ∈ visited
  acyclic : ∀ v ∈ visited, ¬ g.Reaches v v

theorem explored_nil (g : Graph) :
  g.Explored []
  := by
  constructor
  · intro v hv
    cases hv
  · intro v hv
    cases hv

end Graph

namespace Search

variable {g : Graph} {s s' : Search}

/-! ### The steps of a search -/

/-- A step that goes on takes the top off the stack, looks at a successor visited before, or
puts a successor on the stack. -/
theorem step_continue_cases (h : s.step g = .continue s') :
  ∃ top below, s.stack = top :: below ∧
    ((g.successors top.node)[top.next]? = none
        ∧ s' = ⟨s.visited, s.onPath.erase top.node, below⟩
      ∨ ∃ v, (g.successors top.node)[top.next]? = some v ∧ v ∉ s.onPath
        ∧ (v ∈ s.visited ∧ s' = ⟨s.visited, s.onPath, ⟨top.node, top.next + 1⟩ :: below⟩
          ∨ v ∉ s.visited
            ∧ s' = ⟨v :: s.visited, v :: s.onPath,
                ⟨v, 0⟩ :: ⟨top.node, top.next + 1⟩ :: below⟩))
  := by
  unfold step at h
  split at h
  · cases h
  case h_2 top below hstack =>
    refine ⟨top, below, hstack, ?_⟩
    split at h
    case h_1 hnone =>
      cases h
      exact .inl ⟨hnone, rfl⟩
    case h_2 v hv =>
      split at h
      · cases h
      case isFalse hpath =>
        refine .inr ⟨v, hv, hpath, ?_⟩
        split at h
        case isTrue hvisited =>
          cases h
          exact .inl ⟨hvisited, rfl⟩
        case isFalse hvisited =>
          cases h
          exact .inr ⟨hvisited, rfl⟩

/-- A step finds a successor of the top that stands on the path. -/
theorem step_found_cases {v : String} (h : s.step g = .found v) :
  ∃ top below, s.stack = top :: below ∧ g.Joins top.node v ∧ v ∈ s.onPath
  := by
  unfold step at h
  split at h
  · cases h
  case h_2 top below hstack =>
    split at h
    · cases h
    case h_2 w hw =>
      split at h
      case isTrue hpath =>
        cases h
        exact ⟨top, below, hstack, Graph.mem_successors.mp (List.mem_of_getElem? hw), hpath⟩
      case isFalse =>
        split at h
        · cases h
        · cases h

theorem step_finished (h : s.step g = .finished) :
  s.stack = []
  := by
  unfold step at h
  split at h
  · assumption
  · split at h
    · cases h
    · split at h
      · cases h
      · split at h
        · cases h
        · cases h

/-! ### The invariant -/

/-- The node of the upper frame is a successor of that of the lower one, and of the successors
looked at there it is the only one on the path. -/
def Follows (g : Graph) (onPath : List String) (upper lower : Frame) : Prop :=
  g.Joins lower.node upper.node
    ∧ ∀ w ∈ (g.successors lower.node).take lower.next, w ∈ onPath → w = upper.node

/-- What every step of a search keeps. -/
structure Invariant (g : Graph) (s : Search) : Prop where
  path : s.onPath = s.stack.map Frame.node
  distinct : s.onPath.Nodup
  follows : s.stack.IsChain (Follows g s.onPath)
  /-- None of the successors looked at from the top is on the path. -/
  top : ∀ f ∈ s.stack.head?, ∀ w ∈ (g.successors f.node).take f.next, w ∉ s.onPath
  index : ∀ f ∈ s.stack, f.next ≤ (g.successors f.node).length
  looked : ∀ f ∈ s.stack, ∀ w ∈ (g.successors f.node).take f.next, w ∈ s.visited
  visited : ∀ v ∈ s.onPath, v ∈ s.visited
  /-- A node off the path is done: so are its successors, and it is on no cycle. -/
  done : ∀ v ∈ s.visited, v ∉ s.onPath →
    (∀ w, g.Joins v w → w ∈ s.visited ∧ w ∉ s.onPath) ∧ ¬ g.Reaches v v

/-- The invariant holds when the search starts from a node that was not visited. -/
theorem start_invariant {visited : List String} {root : String} (h : g.Explored visited)
    (hroot : root ∉ visited) :
  Invariant g (start visited root)
  where
  path := rfl
  distinct := by simp [start]
  follows := List.isChain_singleton _
  top := by simp [start]
  index := by simp [start]
  looked := by simp [start]
  visited := by simp [start]
  done := by
    intro v hv hpath
    have hne : v ≠ root := fun heq => hpath (by simp [start, heq])
    have hold : v ∈ visited := (List.mem_cons.mp hv).resolve_left hne
    refine ⟨?_, h.acyclic v hold⟩
    intro w hw
    have hwold := h.closed v hold w hw
    refine ⟨List.mem_cons_of_mem _ hwold, ?_⟩
    simp only [start, List.mem_singleton]
    rintro rfl
    apply hroot hwold

/-- From a node that is done only such nodes are reached. -/
theorem Invariant.done_of_reaches (h : Invariant g s) {v w : String} (hv : v ∈ s.visited)
    (hpath : v ∉ s.onPath) (hreach : g.Reaches v w) :
  w ∈ s.visited ∧ w ∉ s.onPath
  := by
  induction hreach with
  | single hvw => exact (h.done v hv hpath).1 _ hvw
  | tail _ huw ih => exact (h.done _ ih.1 ih.2).1 _ huw

/-- Each node on the stack reaches those above it. -/
theorem Invariant.reaches_top (h : Invariant g s) {top : Frame} {below : List Frame}
    (hstack : s.stack = top :: below) :
  ∀ v ∈ s.onPath, v = top.node ∨ g.Reaches v top.node
  := by
  have key : ∀ (below : List Frame) (top : Frame),
      (top :: below).IsChain (Follows g s.onPath) →
        ∀ f ∈ top :: below, f.node = top.node ∨ g.Reaches f.node top.node := by
    intro below
    induction below with
    | nil =>
      intro top _ f hf
      exact .inl (by rw [List.mem_singleton.mp hf])
    | cons next below ih =>
      intro top hchain f hf
      obtain ⟨⟨hjoins, -⟩, hrest⟩ := List.isChain_cons_cons.mp hchain
      rcases List.mem_cons.mp hf with rfl | hf
      · exact .inl rfl
      · rcases ih next hrest f hf with heq | hreach
        · exact .inr (heq ▸ .single hjoins)
        · exact .inr (.tail hreach hjoins)
  intro v hv
  rw [h.path, hstack] at hv
  obtain ⟨f, hf, rfl⟩ := List.mem_map.mp hv
  have hchain := h.follows
  rw [hstack] at hchain
  apply key below top hchain f hf

/-- The node found lies on a cycle. -/
theorem Invariant.reaches_of_found (h : Invariant g s) {v : String} (hs : s.step g = .found v) :
  g.Reaches v v
  := by
  obtain ⟨top, below, hstack, hjoins, hpath⟩ := step_found_cases hs
  rcases h.reaches_top hstack v hpath with rfl | hreach
  · exact .single hjoins
  · exact .tail hreach hjoins

/-! ### The invariant is kept -/

section Steps

variable {top : Frame} {below : List Frame}

/-- The frames below the top keep to the path when their nodes stay on it. -/
theorem isChain_follows_mono {onPath onPath' : List String} {stack : List Frame}
    (h : stack.IsChain (Follows g onPath))
    (hpath : ∀ f ∈ stack, ∀ w ∈ (g.successors f.node).take f.next, w ∈ onPath' → w ∈ onPath) :
  stack.IsChain (Follows g onPath')
  := by
  induction stack with
  | nil => exact .nil
  | cons upper stack ih =>
    cases stack with
    | nil => apply List.isChain_singleton _
    | cons lower stack =>
      obtain ⟨⟨hjoins, hlooked⟩, hrest⟩ := List.isChain_cons_cons.mp h
      refine List.isChain_cons_cons.mpr ⟨⟨hjoins, ?_⟩, ih hrest ?_⟩
      · intro w hw hw'
        apply hlooked w hw (hpath lower (by simp) w hw hw')
      · intro f hf
        apply hpath f (List.mem_cons_of_mem _ hf)

/-- Above the frames below the top, only the node of the top counts. -/
theorem isChain_follows_of_node_eq {onPath : List String} {upper upper' : Frame}
    (h : (upper :: below).IsChain (Follows g onPath)) (heq : upper'.node = upper.node) :
  (upper' :: below).IsChain (Follows g onPath)
  := by
  cases below with
  | nil => apply List.isChain_singleton _
  | cons next below =>
    obtain ⟨hfollows, hrest⟩ := List.isChain_cons_cons.mp h
    refine List.isChain_cons_cons.mpr ⟨?_, hrest⟩
    rw [Follows, heq]
    apply hfollows

/-- Looking at one more successor adds it to those looked at. -/
theorem mem_take_next {f : Frame} {v w : String} (hv : (g.successors f.node)[f.next]? = some v) :
  w ∈ (g.successors f.node).take (f.next + 1)
    ↔ w ∈ (g.successors f.node).take f.next ∨ w = v
  := by
  rw [List.take_add_one, hv]
  simp

/-- The invariant is kept when the top leaves the stack. -/
theorem Invariant.pop (h : Invariant g s) (hstack : s.stack = top :: below)
    (hnone : (g.successors top.node)[top.next]? = none) :
  Invariant g ⟨s.visited, s.onPath.erase top.node, below⟩
  := by
  have hpath : s.onPath = top.node :: below.map Frame.node := by rw [h.path, hstack]; rfl
  have herase : s.onPath.erase top.node = below.map Frame.node := by rw [hpath]; simp
  have hnodup := h.distinct
  rw [hpath, List.nodup_cons] at hnodup
  have hless : ∀ w ∈ below.map Frame.node, w ∈ s.onPath := by
    intro w hw
    rw [hpath]
    apply List.mem_cons_of_mem _ hw
  have hfollows := h.follows
  rw [hstack] at hfollows
  have htop := h.top top (by rw [hstack]; rfl)
  -- All successors of the top were looked at.
  have hall : (g.successors top.node).take top.next = g.successors top.node :=
    List.take_of_length_le (List.getElem?_eq_none_iff.mp hnone)
  rw [hall] at htop
  rw [herase]
  constructor
  case path => rfl
  case distinct => apply hnodup.2
  case follows =>
    apply isChain_follows_mono hfollows.tail
    intro f _ w _ hw
    apply hless w hw
  case top =>
    intro f hf w hw hmem
    obtain ⟨below', rfl⟩ := List.head?_eq_some_iff.mp hf
    have heq := (List.isChain_cons_cons.mp hfollows).1.2 w hw (hless w hmem)
    apply hnodup.1 (heq ▸ hmem)
  case index =>
    intro f hf
    apply h.index f (by rw [hstack]; exact List.mem_cons_of_mem _ hf)
  case looked =>
    intro f hf
    apply h.looked f (by rw [hstack]; exact List.mem_cons_of_mem _ hf)
  case visited =>
    intro v hv
    apply h.visited v (hless v hv)
  case done =>
    intro v hv hoff
    by_cases heq : v = top.node
    case neg =>
      have hold : v ∉ s.onPath := by
        rw [hpath, List.mem_cons, not_or]
        exact ⟨heq, hoff⟩
      refine ⟨?_, (h.done v hv hold).2⟩
      intro w hw
      have hdone := (h.done v hv hold).1 w hw
      exact ⟨hdone.1, fun hmem => hdone.2 (hless w hmem)⟩
    case pos =>
      subst heq
      have hsucc : ∀ w, g.Joins top.node w → w ∈ s.visited ∧ w ∉ s.onPath := by
        intro w hw
        have hw := Graph.mem_successors.mpr hw
        refine ⟨?_, htop w hw⟩
        apply h.looked top (by rw [hstack]; exact List.mem_cons_self)
        rw [hall]
        apply hw
      refine ⟨fun w hw => ⟨(hsucc w hw).1, fun hmem => (hsucc w hw).2 (hless w hmem)⟩, ?_⟩
      -- A cycle through the top would lead from a node that is done back onto the path.
      intro hcycle
      have hon : top.node ∈ s.onPath := by rw [hpath]; exact List.mem_cons_self
      obtain ⟨w, hw, hreach⟩ := Relation.TransGen.head'_iff.mp hcycle
      rcases Relation.reflTransGen_iff_eq_or_transGen.mp hreach with heq | hreach
      · exact (hsucc w hw).2 (heq ▸ hon)
      · exact (h.done_of_reaches (hsucc w hw).1 (hsucc w hw).2 hreach).2 hon

/-- The invariant is kept when the top looks at a node visited before. -/
theorem Invariant.skip (h : Invariant g s) (hstack : s.stack = top :: below) {v : String}
    (hv : (g.successors top.node)[top.next]? = some v) (hoff : v ∉ s.onPath)
    (hvisited : v ∈ s.visited) :
  Invariant g ⟨s.visited, s.onPath, ⟨top.node, top.next + 1⟩ :: below⟩
  := by
  obtain ⟨hlt, -⟩ := List.getElem?_eq_some_iff.mp hv
  have hfollows := h.follows
  rw [hstack] at hfollows
  constructor
  case path => rw [h.path, hstack]; rfl
  case distinct => apply h.distinct
  case follows => exact isChain_follows_of_node_eq hfollows rfl
  case top =>
    intro f hf w hw
    cases hf
    rcases (mem_take_next hv).mp hw with hw | rfl
    · apply h.top top (by rw [hstack]; rfl) w hw
    · apply hoff
  case index =>
    intro f hf
    rcases List.mem_cons.mp hf with rfl | hf
    · apply hlt
    · apply h.index f (by rw [hstack]; exact List.mem_cons_of_mem _ hf)
  case looked =>
    intro f hf w hw
    rcases List.mem_cons.mp hf with rfl | hf
    · rcases (mem_take_next hv).mp hw with hw | rfl
      · apply h.looked top (by rw [hstack]; exact List.mem_cons_self) w hw
      · apply hvisited
    · apply h.looked f (by rw [hstack]; exact List.mem_cons_of_mem _ hf) w hw
  case visited => apply h.visited
  case done => apply h.done

/-- The invariant is kept when a successor of the top is put on the stack. -/
theorem Invariant.push (h : Invariant g s) (hstack : s.stack = top :: below) {v : String}
    (hv : (g.successors top.node)[top.next]? = some v) (hoff : v ∉ s.onPath)
    (hnew : v ∉ s.visited) :
  Invariant g ⟨v :: s.visited, v :: s.onPath, ⟨v, 0⟩ :: ⟨top.node, top.next + 1⟩ :: below⟩
  := by
  obtain ⟨hlt, -⟩ := List.getElem?_eq_some_iff.mp hv
  have hjoins : g.Joins top.node v := Graph.mem_successors.mp (List.mem_of_getElem? hv)
  have hfollows := h.follows
  rw [hstack] at hfollows
  -- What was looked at before was visited, so it is not the new node.
  have hne : ∀ f ∈ s.stack, ∀ w ∈ (g.successors f.node).take f.next, w ≠ v := by
    rintro f hf w hw rfl
    apply hnew (h.looked f hf w hw)
  have hchain : (top :: below).IsChain (Follows g (v :: s.onPath)) := by
    apply isChain_follows_mono hfollows
    intro f hf w hw hmem
    exact (List.mem_cons.mp hmem).resolve_left (hne f (hstack ▸ hf) w hw)
  constructor
  case path => simp [h.path, hstack]
  case distinct => apply List.nodup_cons.mpr ⟨hoff, h.distinct⟩
  case follows =>
    refine List.isChain_cons_cons.mpr ⟨⟨hjoins, ?_⟩, isChain_follows_of_node_eq hchain rfl⟩
    intro w hw hmem
    rcases (mem_take_next hv).mp hw with hw | rfl
    · rcases List.mem_cons.mp hmem with rfl | hmem
      · rfl
      · exact absurd hmem (h.top top (by rw [hstack]; rfl) w hw)
    · rfl
  case top =>
    intro f hf w hw
    cases hf
    simp at hw
  case index =>
    intro f hf
    rcases List.mem_cons.mp hf with rfl | hf
    · apply Nat.zero_le _
    · rcases List.mem_cons.mp hf with rfl | hf
      · apply hlt
      · apply h.index f (by rw [hstack]; exact List.mem_cons_of_mem _ hf)
  case looked =>
    intro f hf w hw
    rcases List.mem_cons.mp hf with rfl | hf
    · simp at hw
    · rcases List.mem_cons.mp hf with rfl | hf
      · rcases (mem_take_next hv).mp hw with hw | rfl
        · have htop : top ∈ s.stack := by rw [hstack]; exact List.mem_cons_self
          apply List.mem_cons_of_mem _ (h.looked top htop w hw)
        · apply List.mem_cons_self
      · have hf : f ∈ s.stack := by rw [hstack]; exact List.mem_cons_of_mem _ hf
        apply List.mem_cons_of_mem _ (h.looked f hf w hw)
  case visited =>
    intro w hw
    rcases List.mem_cons.mp hw with rfl | hw
    · apply List.mem_cons_self
    · apply List.mem_cons_of_mem _ (h.visited w hw)
  case done =>
    intro u hu hpath
    rw [List.mem_cons, not_or] at hpath
    have hu := (List.mem_cons.mp hu).resolve_left hpath.1
    obtain ⟨hsucc, hcycle⟩ := h.done u hu hpath.2
    refine ⟨?_, hcycle⟩
    intro w hw
    obtain ⟨hseen, hoffw⟩ := hsucc w hw
    refine ⟨List.mem_cons_of_mem _ hseen, ?_⟩
    rw [List.mem_cons, not_or]
    exact ⟨fun heq => hnew (heq ▸ hseen), hoffw⟩

/-- A step keeps the invariant. -/
theorem Invariant.step (h : Invariant g s) (hs : s.step g = .continue s') :
  Invariant g s'
  := by
  obtain ⟨top, below, hstack, hcases⟩ := step_continue_cases hs
  rcases hcases with ⟨hnone, rfl⟩ | ⟨v, hv, hoff, ⟨hvisited, rfl⟩ | ⟨hnew, rfl⟩⟩
  · apply h.pop hstack hnone
  · apply h.skip hstack hv hoff hvisited
  · apply h.push hstack hv hoff hnew

/-- A step forgets no node that was visited. -/
theorem visited_subset_of_step (hs : s.step g = .continue s') :
  s.visited ⊆ s'.visited
  := by
  obtain ⟨top, below, -, hcases⟩ := step_continue_cases hs
  rcases hcases with ⟨-, rfl⟩ | ⟨v, -, -, ⟨-, rfl⟩ | ⟨-, rfl⟩⟩
  · apply List.Subset.refl _
  · apply List.Subset.refl _
  · apply List.subset_cons_self _ _

end Steps

/-! ### The end of a search -/

/-- The steps of a search lead to its end. -/
theorem wellFounded_step (g : Graph) :
  WellFounded fun s' s : Search => s.step g = .continue s'
  := by
  apply Subrelation.wf step_decreases
  apply InvImage.wf fun s => (unvisited g s, pending g s)
  apply (Prod.lex Nat.lt_wfRel Nat.lt_wfRel).wf

/-- No search goes on forever. -/
theorem exists_step_ne_continue (g : Graph) (searches : Nat → Search) :
  ∃ i, (searches i).step g ≠ .continue (searches (i + 1))
  := @WellFounded.not_rel_apply_succ _ _ ⟨wellFounded_step g⟩ searches

/-- The search goes on as its first step says. -/
theorem run_eq (g : Graph) (s : Search) :
  s.run g = match s.step g with
    | .found v => .error v
    | .continue s' => s'.run g
    | .finished => .ok s.visited
  := by
  rw [run]
  split <;> rename_i h <;> rw [h]

/-- The node that a search finds lies on a cycle. -/
theorem Invariant.reaches_of_run (h : Invariant g s) {v : String} (hrun : s.run g = .error v) :
  g.Reaches v v
  := by
  induction s using run.induct g with
  | case1 s w hs =>
    rw [run_eq, hs] at hrun
    cases hrun
    apply h.reaches_of_found hs
  | case2 s s' hs ih =>
    rw [run_eq, hs] at hrun
    apply ih (h.step hs) hrun
  | case3 s hs =>
    rw [run_eq, hs] at hrun
    cases hrun

/-- At the end of a search no node is on the path. -/
theorem Invariant.onPath_of_finished (h : Invariant g s) (hs : s.step g = .finished) :
  s.onPath = []
  := by
  rw [h.path, step_finished hs]
  rfl

/-- At the end of a search the nodes visited are explored. -/
theorem Invariant.explored_of_finished (h : Invariant g s) (hs : s.step g = .finished) :
  g.Explored s.visited
  := by
  have hdone := h.done
  simp only [h.onPath_of_finished hs, List.not_mem_nil, not_false_eq_true, and_true,
    forall_const] at hdone
  exact ⟨fun v hv => (hdone v hv).1, fun v hv => (hdone v hv).2⟩

/-- What a search has visited at its end is explored, with all that was visited before. -/
theorem Invariant.explored_of_run (h : Invariant g s) {visited : List String}
    (hrun : s.run g = .ok visited) :
  g.Explored visited ∧ s.visited ⊆ visited
  := by
  induction s using run.induct g with
  | case1 s w hs =>
    rw [run_eq, hs] at hrun
    cases hrun
  | case2 s s' hs ih =>
    rw [run_eq, hs] at hrun
    obtain ⟨hexplored, hsubset⟩ := ih (h.step hs) hrun
    exact ⟨hexplored, List.Subset.trans (visited_subset_of_step hs) hsubset⟩
  | case3 s hs =>
    rw [run_eq, hs] at hrun
    cases hrun
    exact ⟨h.explored_of_finished hs, List.Subset.refl _⟩

end Search

namespace Graph

variable {g : Graph}

/-- A node found from further roots lies on a cycle. -/
theorem reaches_of_findCycleFrom {visited roots : List String} {v : String}
    (h : g.Explored visited) (hfound : g.findCycleFrom visited roots = some v) :
  g.Reaches v v
  := by
  induction roots generalizing visited with
  | nil => cases hfound
  | cons root roots ih =>
    rw [findCycleFrom] at hfound
    split at hfound
    case isTrue => apply ih h hfound
    case isFalse hroot =>
      have hstart := Search.start_invariant h hroot
      split at hfound
      case h_1 w hrun =>
        cases hfound
        apply hstart.reaches_of_run hrun
      case h_2 visited' hrun => apply ih (hstart.explored_of_run hrun).1 hfound

/-- When nothing is found from further roots, no root reaches a cycle. -/
theorem explored_of_findCycleFrom {visited roots : List String} (h : g.Explored visited)
    (hfound : g.findCycleFrom visited roots = none) :
  ∃ visited', g.Explored visited' ∧ visited ⊆ visited' ∧ roots ⊆ visited'
  := by
  induction roots generalizing visited with
  | nil => exact ⟨visited, h, List.Subset.refl _, List.nil_subset _⟩
  | cons root roots ih =>
    rw [findCycleFrom] at hfound
    split at hfound
    case isTrue hroot =>
      obtain ⟨visited', hexplored, hsubset, hroots⟩ := ih h hfound
      exact ⟨visited', hexplored, hsubset, List.cons_subset.mpr ⟨hsubset hroot, hroots⟩⟩
    case isFalse hroot =>
      have hstart := Search.start_invariant h hroot
      split at hfound
      · cases hfound
      case h_2 visited₁ hrun =>
        obtain ⟨hexplored₁, hsubset₁⟩ := hstart.explored_of_run hrun
        obtain ⟨visited', hexplored, hsubset, hroots⟩ := ih hexplored₁ hfound
        refine ⟨visited', hexplored, ?_, List.cons_subset.mpr ⟨?_, hroots⟩⟩
        · apply List.Subset.trans (List.subset_cons_self _ _) (List.Subset.trans hsubset₁ hsubset)
        · apply hsubset (hsubset₁ List.mem_cons_self)

/-- A node that is found lies on a cycle. -/
theorem reaches_of_findCycle {v : String} (h : g.findCycle = some v) :
  g.Reaches v v
  := reaches_of_findCycleFrom g.explored_nil h

/-- When no cycle is found, no node lies on one. -/
theorem acyclic_of_findCycle (h : g.findCycle = none) :
  ∀ id ∈ g.ids, ¬ g.Reaches id id
  := by
  obtain ⟨visited, hexplored, -, hids⟩ := explored_of_findCycleFrom g.explored_nil h
  intro id hid
  apply hexplored.acyclic id (hids hid)

/-- Where all edges leave nodes of the graph, no cycle is found exactly when no node lies on
one. -/
theorem findCycle_eq_none_iff (hsource : ∀ s t, g.Joins s t → s ∈ g.ids) :
  g.findCycle = none ↔ ∀ id ∈ g.ids, ¬ g.Reaches id id
  := by
  constructor
  · apply acyclic_of_findCycle
  · intro hacyclic
    rw [Option.eq_none_iff_forall_ne_some]
    intro v hfound
    have hreach := reaches_of_findCycle hfound
    obtain ⟨w, hw, -⟩ := Relation.TransGen.head'_iff.mp hreach
    apply hacyclic v (hsource v w hw) hreach

end Graph

end JobGraph
