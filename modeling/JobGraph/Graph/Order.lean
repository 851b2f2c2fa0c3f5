import JobGraph.Dictionary
import JobGraph.Graph.Basic

/-!
# Order of execution

`Graph.executionOrder` lists nodes so that every source comes before its targets. Of the
nodes whose sources are all listed, the one that stands first in the graph comes next. Nodes
on a cycle, and nodes behind one or behind an unknown source, are left out.

The order is made by a schedule, which holds for each node the number of its sources that are
not listed yet, and the nodes that are ready by position.
-/

namespace JobGraph

/-- The state of the listing. -/
structure Schedule where
  /-- For each node, the number of different edges into it from nodes not yet listed. -/
  waiting : Dictionary String Nat
  /-- The nodes that wait for nothing, by increasing position. -/
  ready : List (Nat × String)

namespace Schedule

/-- The ready nodes with one more put at its position. -/
def insertReady (position : Nat) (id : String) : List (Nat × String) → List (Nat × String)
  | [] => [(position, id)]
  | (own, other) :: ready =>
    if position < own then (position, id) :: (own, other) :: ready
    else if position = own then (position, id) :: ready
    else (own, other) :: insertReady position id ready

/-- The ready nodes with a node put among them if it waits for nothing. -/
def addReady (position : String → Option Nat) (id : String) (count : Nat)
    (ready : List (Nat × String)) : List (Nat × String) :=
  match count, position id with
  | 0, some place => insertReady place id ready
  | _, _ => ready

/-- The schedule after one of the sources of `target` was listed. -/
def release (position : String → Option Nat) (s : Schedule) (target : String) : Schedule :=
  match s.waiting.get? target with
  | some (left + 1) => ⟨s.waiting.insert target left, addReady position target left s.ready⟩
  | _ => s

/-- The numbers of all entries, added up. -/
def total : List (String × Nat) → Nat
  | [] => 0
  | (_, n) :: entries => n + total entries

/-- What a schedule has still to count down and to list. -/
def remaining (s : Schedule) : Nat :=
  total s.waiting.entries + s.ready.length

theorem length_insertReady_le {position : Nat} {id : String} :
  ∀ {ready : List (Nat × String)}, (insertReady position id ready).length ≤ ready.length + 1
  | [] => by simp [insertReady]
  | (own, other) :: ready => by
    rw [insertReady]
    split
    · simp
    · split
      · simp
      · simpa using @length_insertReady_le position id ready

theorem length_addReady_le {position : String → Option Nat} {id : String} {count : Nat}
    {ready : List (Nat × String)} :
  (addReady position id count ready).length ≤ ready.length + 1
  := by
  unfold addReady
  split
  · exact length_insertReady_le
  · exact Nat.le_succ _

theorem total_put {key : String} {left : Nat} :
  ∀ {entries : List (String × Nat)}, Dictionary.lookup key entries = some (left + 1) →
    total (Dictionary.put key left entries) + 1 = total entries
  | [], h => by simp [Dictionary.lookup] at h
  | (own, n) :: entries, h => by
    rw [Dictionary.lookup] at h
    rw [Dictionary.put]
    split at h
    case isTrue heq =>
      rw [if_pos heq]
      cases h
      simp only [total]
      omega
    case isFalse hne =>
      rw [if_neg hne]
      have := total_put h
      simp only [total]
      omega

theorem remaining_release_le {position : String → Option Nat} {s : Schedule} {target : String} :
  (s.release position target).remaining ≤ s.remaining
  := by
  unfold release
  split
  case h_1 left h =>
    have hsum := total_put h
    have hle := @length_addReady_le position target left s.ready
    simp only [remaining, Dictionary.insert] at hsum ⊢
    omega
  case h_2 => exact Nat.le_refl _

theorem remaining_foldl_release_le {position : String → Option Nat} :
  ∀ (targets : List String) (s : Schedule),
    (targets.foldl (release position) s).remaining ≤ s.remaining
  | [], _ => Nat.le_refl _
  | target :: targets, s =>
    Nat.le_trans (remaining_foldl_release_le targets (s.release position target))
      remaining_release_le

/-- The nodes in the order in which they become the first ready one, where `next` gives the
targets of each. -/
def list (position : String → Option Nat) (next : String → List String) (s : Schedule) :
    List String :=
  match _h : s.ready with
  | [] => []
  | (_, id) :: ready =>
    id :: list position next ((next id).foldl (release position) ⟨s.waiting, ready⟩)
termination_by s.remaining
decreasing_by
  apply Nat.lt_of_le_of_lt (remaining_foldl_release_le _ _)
  simp [remaining, ‹s.ready = _›]

end Schedule

namespace Graph

/-- The edges whose target is a node, each once. -/
def incoming (g : Graph) : List Edge :=
  g.edges.eraseDups.filter (·.target ∈ g.ids)

/-- The position of the last node with this id. -/
def position? (g : Graph) (id : String) : Option Nat :=
  (g.ids.reverse.idxOf? id).map fun i => g.nodes.length - 1 - i

/-- The schedule before anything is listed. -/
def schedule (g : Graph) : Schedule :=
  let edges := g.incoming
  let waiting := Dictionary.ofList
    (g.ids.map fun id => (id, (edges.filter (·.target = id)).length))
  ⟨waiting, waiting.entries.foldl
    (fun ready (id, count) => Schedule.addReady g.position? id count ready) []⟩

/-- The nodes in order of execution. -/
def executionOrder (g : Graph) : List String :=
  let edges := g.incoming
  g.schedule.list g.position? fun id => (edges.filter (·.source = id)).map Edge.target

end Graph

end JobGraph
