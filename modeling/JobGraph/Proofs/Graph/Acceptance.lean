import JobGraph.Graph.Check
import JobGraph.Proofs.Graph.Cycle
import Mathlib.Data.List.Nodup

/-!
# Graphs that are accepted

`Graph.Accepted` says what the check of a graph decides without the order in which it looks
at nodes and edges: names of tasks tell the nodes apart, edges join different nodes, and there
is no cycle.
-/

namespace JobGraph

namespace Graph

/-- A graph without defects. -/
structure Accepted (g : Graph) : Prop where
  nonempty : ∀ id ∈ g.ids, id ≠ ""
  distinct : (g.ids.map taskName).Nodup
  source_mem : ∀ s t, g.Joins s t → s ∈ g.ids
  target_mem : ∀ s t, g.Joins s t → t ∈ g.ids
  acyclic : ∀ id ∈ g.ids, ¬ g.Reaches id id

variable {g : Graph}

/-! ### The checks -/

/-- The first of the ids passes when it is not empty and shares neither itself nor its name
with an earlier one. -/
theorem checkIds_cons_eq_ok_iff {earlier : List (String × String)} {id : String}
    {ids : List String} :
  checkIds earlier (id :: ids) = .ok ()
    ↔ id ≠ "" ∧ (∀ x ∈ earlier, x.1 ≠ id ∧ x.2 ≠ taskName id)
      ∧ checkIds ((id, taskName id) :: earlier) ids = .ok ()
  := by
  rw [checkIds]
  split
  case isTrue h => simp [h]
  case isFalse h =>
    split
    case isTrue hsame =>
      obtain ⟨x, hx, hxid⟩ := List.any_eq_true.mp hsame
      simp only [reduceCtorEq, false_iff]
      rintro ⟨-, hall, -⟩
      apply (hall x hx).1 (of_decide_eq_true hxid)
    case isFalse hsame =>
      split
      case h_1 other name hfind =>
        have hmem := List.mem_of_find?_eq_some hfind
        have hname := List.find?_some hfind
        simp only [reduceCtorEq, false_iff]
        rintro ⟨-, hall, -⟩
        apply (hall _ hmem).2 (of_decide_eq_true hname)
      case h_2 hfind =>
        have hname := List.find?_eq_none.mp hfind
        simp only [List.any_eq_true, decide_eq_true_eq, not_exists, not_and] at hsame hname
        simp only [ne_eq, h, not_false_eq_true, true_and, iff_and_self]
        intro _ x hx
        exact ⟨hsame x hx, hname x hx⟩

/-- The ids pass behind others when none of them is empty or shares its name with another. -/
theorem checkIds_eq_ok_iff {earlier : List (String × String)} {ids : List String} :
  checkIds earlier ids = .ok ()
    ↔ (∀ id ∈ ids, id ≠ "" ∧ ∀ x ∈ earlier, x.1 ≠ id ∧ x.2 ≠ taskName id)
      ∧ (ids.map taskName).Nodup
  := by
  induction ids generalizing earlier with
  | nil => simp [checkIds]
  | cons id ids ih =>
    rw [checkIds_cons_eq_ok_iff, ih, List.map_cons, List.nodup_cons]
    constructor
    · rintro ⟨hid, hearlier, hrest, hnodup⟩
      refine ⟨?_, ?_, hnodup⟩
      · intro id' hid'
        rcases List.mem_cons.mp hid' with rfl | hid'
        · exact ⟨hid, hearlier⟩
        · exact ⟨(hrest id' hid').1, fun x hx => (hrest id' hid').2 x (List.mem_cons_of_mem _ hx)⟩
      · intro hmem
        obtain ⟨id', hid', heq⟩ := List.mem_map.mp hmem
        exact ((hrest id' hid').2 _ List.mem_cons_self).2 heq.symm
    · rintro ⟨hall, hnot, hnodup⟩
      obtain ⟨hid, hearlier⟩ := hall id List.mem_cons_self
      refine ⟨hid, hearlier, ?_, hnodup⟩
      intro id' hid'
      obtain ⟨hne, hearlier'⟩ := hall id' (List.mem_cons_of_mem _ hid')
      refine ⟨hne, ?_⟩
      intro x hx
      rcases List.mem_cons.mp hx with rfl | hx
      · have hname : taskName id ≠ taskName id' := by
          intro heq
          apply hnot (List.mem_map.mpr ⟨id', hid', heq.symm⟩)
        exact ⟨fun heq => hname (congrArg taskName heq), hname⟩
      · apply hearlier' x hx

/-- An edge passes when it joins different nodes. -/
theorem checkEdge_eq_ok_iff {ids : List String} {edge : Edge} :
  checkEdge ids edge = .ok ()
    ↔ edge.source ∈ ids ∧ edge.target ∈ ids ∧ edge.source ≠ edge.target
  := by
  unfold checkEdge
  split
  case isTrue h => simp [h]
  case isFalse hs =>
    split
    case isTrue h => simp [h]
    case isFalse ht =>
      rw [Decidable.not_not] at hs ht
      split <;> simp [*]

theorem checkEdges_eq_ok_iff {ids : List String} {edges : List Edge} :
  checkEdges ids edges = .ok () ↔ ∀ edge ∈ edges, checkEdge ids edge = .ok ()
  := by
  induction edges with
  | nil => simp [checkEdges]
  | cons edge edges ih =>
    rw [checkEdges, List.forall_mem_cons]
    split
    case h_1 h => simp [h, ih]
    case h_2 h => simp [h]

/-- A graph is accepted when its ids, its edges and the search for a cycle pass. -/
theorem check_eq_ok_iff :
  g.check = .ok ()
    ↔ checkIds [] g.ids = .ok () ∧ checkEdges g.ids g.edges = .ok () ∧ g.findCycle = none
  := by
  unfold check
  split
  case h_1 h => simp [h]
  case h_2 hids =>
    split
    case h_1 h => simp [h]
    case h_2 hedges => split <;> simp [*]

/-! ### What they decide -/

/-- The check accepts a graph exactly when it has no defect. -/
theorem check_iff_accepted :
  g.check = .ok () ↔ g.Accepted
  := by
  rw [check_eq_ok_iff, checkIds_eq_ok_iff, checkEdges_eq_ok_iff]
  simp only [checkEdge_eq_ok_iff]
  constructor
  · rintro ⟨⟨hids, hdistinct⟩, hedges, hcycle⟩
    constructor
    case nonempty => exact fun id hid => (hids id hid).1
    case distinct => apply hdistinct
    case source_mem => exact fun s t hst => (hedges ⟨s, t⟩ hst).1
    case target_mem => exact fun s t hst => (hedges ⟨s, t⟩ hst).2.1
    case acyclic => apply acyclic_of_findCycle hcycle
  · intro h
    refine ⟨⟨fun id hid => ⟨h.nonempty id hid, by simp⟩, h.distinct⟩, ?_, ?_⟩
    · intro edge hedge
      have hs := h.source_mem edge.source edge.target hedge
      refine ⟨hs, h.target_mem edge.source edge.target hedge, ?_⟩
      intro heq
      apply h.acyclic edge.source hs
      apply Relation.TransGen.single
      rw [Joins]
      nth_rewrite 2 [heq]
      apply hedge
    · apply (findCycle_eq_none_iff h.source_mem).mpr h.acyclic

namespace Accepted

theorem nodup_ids (h : g.Accepted) :
  g.ids.Nodup
  := List.Nodup.of_map taskName h.distinct

/-- Task names tell the nodes of an accepted graph apart. -/
theorem taskName_injOn (h : g.Accepted) {s t : String} (hs : s ∈ g.ids) (ht : t ∈ g.ids)
    (heq : taskName s = taskName t) :
  s = t
  := List.inj_on_of_nodup_map h.distinct hs ht heq

theorem ne_of_joins (h : g.Accepted) {s t : String} (hst : g.Joins s t) :
  s ≠ t
  := by
  rintro rfl
  apply h.acyclic s (h.source_mem s s hst) (.single hst)

/-- Nodes with one id are one node. -/
theorem eq_of_id_eq (h : g.Accepted) {m n : Node} (hm : m ∈ g.nodes) (hn : n ∈ g.nodes)
    (heq : m.id = n.id) :
  m = n
  := List.inj_on_of_nodup_map h.nodup_ids hm hn heq

end Accepted

/-- The searches of the check end, and it accepts a graph exactly when no id is empty, no two
entries of the list of nodes have one id or ids with one task name, every edge joins different
nodes, and no path leads from a node back to itself. -/
theorem check_decides (g : Graph) :
  (∀ searches : Nat → Search, ∃ i, (searches i).step g ≠ .continue (searches (i + 1)))
    ∧ (g.check = .ok ()
      ↔ (∀ n ∈ g.nodes, n.id ≠ "")
        ∧ g.nodes.Pairwise (fun m n => m.id ≠ n.id)
        ∧ g.nodes.Pairwise (fun m n => taskName m.id ≠ taskName n.id)
        ∧ (∀ e ∈ g.edges, e.source ∈ g.ids ∧ e.target ∈ g.ids)
        ∧ (∀ e ∈ g.edges, e.source ≠ e.target)
        ∧ ∀ n ∈ g.nodes, ¬ g.Reaches n.id n.id)
  := by
  constructor
  · apply Search.exists_step_ne_continue
  · rw [check_iff_accepted]
    constructor
    · intro h
      refine ⟨?_, ?_, ?_, ?_, ?_, ?_⟩
      · intro n hn
        apply h.nonempty n.id (List.mem_map_of_mem hn)
      · apply List.pairwise_map.mp h.nodup_ids
      · apply List.pairwise_map.mp (List.pairwise_map.mp h.distinct)
      · intro e he
        exact ⟨h.source_mem e.source e.target he, h.target_mem e.source e.target he⟩
      · intro e he
        apply h.ne_of_joins he
      · intro n hn
        apply h.acyclic n.id (List.mem_map_of_mem hn)
    · rintro ⟨hnonempty, -, hnames, hends, -, hacyclic⟩
      constructor
      case nonempty =>
        intro id hid
        obtain ⟨n, hn, rfl⟩ := List.mem_map.mp hid
        apply hnonempty n hn
      case distinct => apply List.pairwise_map.mpr (List.pairwise_map.mpr hnames)
      case source_mem => exact fun s t hst => (hends ⟨s, t⟩ hst).1
      case target_mem => exact fun s t hst => (hends ⟨s, t⟩ hst).2
      case acyclic =>
        intro id hid
        obtain ⟨n, hn, rfl⟩ := List.mem_map.mp hid
        apply hacyclic n hn

end Graph

end JobGraph
