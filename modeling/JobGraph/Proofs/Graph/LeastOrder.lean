import JobGraph.Proofs.Graph.Order
import Mathlib

/-!
# The order of execution is the least one

`Graph.Orders` says that a list has all nodes, and the source of every edge before its target.
The order of execution of an accepted graph is such a list, and of all these lists it is the
lexicographically least one by the positions of the nodes: the node listed next is the first one
of those that any of these lists can go on with.
-/

namespace JobGraph

namespace Graph

variable {g : Graph}

/-- The list has the nodes of the graph in an order in which every source stands before its
targets. -/
structure Orders (g : Graph) (order : List String) : Prop where
  perm : order.Perm g.ids
  idxOf_lt : ∀ e ∈ g.edges, order.idxOf e.source < order.idxOf e.target

/-- One node stands before another one in the graph. -/
def Precedes (g : Graph) (s t : String) : Prop :=
  g.ids.idxOf s < g.ids.idxOf t

/-- Where the nodes have different ids, the position of a node is its index. -/
theorem idxOf_eq_of_position? (hnodup : g.ids.Nodup) {id : String} {place : Nat}
    (h : g.position? id = some place) :
  g.ids.idxOf id = place
  := by
  obtain ⟨hlt, rfl⟩ := List.getElem?_eq_some_iff.mp (position?_eq_some h)
  apply hnodup.idxOf_getElem

/-! ### Orders list sources first -/

/-- What has an index before the end of the first part stands in the first part. -/
theorem mem_of_idxOf_append_lt {front back : List String} {s : String}
    (h : (front ++ back).idxOf s < front.length) :
  s ∈ front
  := by
  by_contra hnot
  rw [List.idxOf_append_of_notMem hnot] at h
  omega

/-- The second part of an order lists nodes after the first one, each after its sources. -/
theorem Orders.topological_append (hnodup : g.ids.Nodup) {front back : List String}
    (h : g.Orders (front ++ back)) :
  g.Topological front back
  := by
  induction back generalizing front with
  | nil => trivial
  | cons id back ih =>
    have hid : id ∈ g.ids := h.perm.subset (List.mem_append_right _ List.mem_cons_self)
    have hnew : id ∉ front := by
      intro hmem
      have hdisjoint := List.disjoint_of_nodup_append (h.perm.nodup_iff.mpr hnodup)
      apply hdisjoint hmem List.mem_cons_self
    refine ⟨hid, hnew, ?_, ?_⟩
    · intro s hs
      have hlt := h.idxOf_lt ⟨s, id⟩ hs
      rw [List.idxOf_append_of_notMem hnew, List.idxOf_cons_self, Nat.add_zero] at hlt
      apply mem_of_idxOf_append_lt hlt
    · apply ih
      rw [List.append_assoc, List.singleton_append]
      apply h

theorem Orders.topological (hnodup : g.ids.Nodup) {order : List String} (h : g.Orders order) :
  g.Topological [] order
  := topological_append hnodup h

end Graph

/-! ### The least order -/

namespace Schedule

variable {g : Graph} {listed : List String} {s : Schedule}

/-- A node by which an order can go on is ready. -/
theorem Fits.exists_ready (h : Fits g listed [] s) {id : String} {order : List String}
    (horder : g.Topological listed (id :: order)) :
  ∃ place, (place, id) ∈ s.ready
  := by
  obtain ⟨hid, hnew, hsources, -⟩ := horder
  obtain ⟨place, hplace⟩ := Graph.exists_position?.mpr hid
  use place
  apply (h.ready place id).mpr
  use hplace, hnew
  rw [List.count_nil, Nat.add_zero]
  apply (Graph.awaited_eq_zero_iff hid).mpr hsources

/-- The first node that is ready is the one by which an order goes on, or it precedes that
one. -/
theorem Fits.first_le (hnodup : g.ids.Nodup) (h : Fits g listed [] s) {place : Nat}
    {id first : String} {ready : List (Nat × String)} (hready : s.ready = (place, id) :: ready)
    {order : List String} (horder : g.Topological listed (first :: order)) :
  first = id ∨ g.Precedes id first
  := by
  obtain ⟨place', hfirst⟩ := h.exists_ready horder
  have hid : (place, id) ∈ s.ready := by rw [hready]; exact List.mem_cons_self
  have hplace := Graph.idxOf_eq_of_position? hnodup ((h.ready place id).mp hid).1
  have hplace' := Graph.idxOf_eq_of_position? hnodup ((h.ready place' first).mp hfirst).1
  have hsorted := h.sorted
  rw [hready] at hfirst hsorted
  rcases List.mem_cons.mp hfirst with heq | hmem
  · left
    cases heq
    rfl
  · right
    rw [Graph.Precedes, hplace, hplace']
    apply (List.pairwise_cons.mp hsorted).1 _ hmem

/-- What a schedule lists is the least of all orders that list the other nodes after those
already listed. -/
theorem Fits.list_least (hnodup : g.ids.Nodup) (h : Fits g listed [] s)
    (hclosed : ∀ t ∈ listed, g.awaited listed t = 0) {order : List String}
    (horder : g.Topological listed order) (hall : ∀ t ∈ g.ids, t ∉ listed → t ∈ order) :
  order = s.list g.position? g.targets
    ∨ List.Lex g.Precedes (s.list g.position? g.targets) order
  := by
  induction s using list.induct g.position? g.targets generalizing listed order with
  | case1 s hready =>
    left
    rw [list_of_ready_nil hready]
    cases order with
    | nil => rfl
    | cons first order =>
      obtain ⟨place, hmem⟩ := h.exists_ready horder
      rw [hready] at hmem
      cases hmem
  | case2 s place id ready hready ih =>
    obtain ⟨hid, hnew, hzero, hfits⟩ := h.pop hclosed hready
    rw [list_of_ready_cons hready]
    cases order with
    | nil =>
      exfalso
      apply List.not_mem_nil (hall id hid hnew)
    | cons first order =>
      rcases h.first_le hnodup hready horder with rfl | hprecedes
      case inr =>
        right
        apply List.Lex.rel hprecedes
      case inl =>
        have hclosed' := Graph.awaited_concat_eq_zero hnew hzero hclosed
        have hall' : ∀ t ∈ g.ids, t ∉ listed ++ [first] → t ∈ order := by
          intro t ht hnot
          rw [List.mem_append, List.mem_singleton, not_or] at hnot
          exact (List.mem_cons.mp (hall t ht hnot.1)).resolve_left hnot.2
        rcases ih hfits.foldl_release hclosed' horder.2.2.2 hall' with rfl | hlex
        · left
          rfl
        · right
          apply List.Lex.cons hlex

end Schedule

namespace Graph

variable {g : Graph}

/-- The order of execution lists an accepted graph's nodes with the source of every edge before
its target. -/
theorem Accepted.orders_executionOrder (h : g.Accepted) :
  g.Orders g.executionOrder
  := by
  constructor
  case perm => apply h.executionOrder_perm
  case idxOf_lt =>
    intro e he
    have htarget := h.mem_executionOrder (h.target_mem e.source e.target he)
    apply (g.executionOrder_topological.idxOf_lt he htarget).2

/-- The order of execution of an accepted graph has all nodes, every source before its targets,
and it is the lexicographically least such order by the positions of the nodes. -/
theorem executionOrder_least (hcheck : g.check = .ok ()) :
  g.Orders g.executionOrder
    ∧ ∀ order, g.Orders order →
      order = g.executionOrder ∨ List.Lex g.Precedes g.executionOrder order
  := by
  have h := check_iff_accepted.mp hcheck
  use h.orders_executionOrder
  intro order horder
  apply g.schedule_fits.list_least h.nodup_ids
  · intro t ht
    cases ht
  · apply horder.topological h.nodup_ids
  · intro t ht _
    apply horder.perm.mem_iff.mpr ht

/-- A node that waits for the last one stands first, and one that waits for nothing second. -/
def detour : Graph where
  nodes := [⟨"late", "take", "main", .empty⟩, ⟨"free", "idle", "main", .empty⟩,
    ⟨"early", "make", "main", .empty⟩]
  edges := [⟨"early", "late"⟩, ⟨"early", "late"⟩]

/-- The free node comes first, although the other two could be run before it. -/
theorem detour_least :
  detour.check = .ok () ∧ detour.executionOrder = ["free", "early", "late"]
    ∧ detour.Orders ["early", "late", "free"]
    ∧ List.Lex detour.Precedes detour.executionOrder ["early", "late", "free"]
  := by
  have hcheck : detour.check = .ok () := by cbv
  have horder : detour.executionOrder = ["free", "early", "late"] := by cbv
  have hother : detour.Orders ["early", "late", "free"] := by
    constructor <;> decide
  have hne : ["early", "late", "free"] ≠ detour.executionOrder := by
    rw [horder]
    decide
  use hcheck, horder, hother
  exact ((executionOrder_least hcheck).2 _ hother).resolve_left hne

end Graph

end JobGraph
