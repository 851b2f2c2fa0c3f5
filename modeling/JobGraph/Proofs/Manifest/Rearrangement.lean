import JobGraph.Proofs.Manifest.Workflow
import JobGraph.Proofs.Task.Report

/-!
# Rearranged graphs

The order of nodes and edges does not matter. A graph with the nodes of another one in any
order, and with its edges in any order and any number of times, is accepted and compiled
exactly when that one is, and every node gets the same task. The tasks, the report and the
manifest follow the order of the nodes, and the order of the edges leaves no trace.
-/

namespace JobGraph

namespace Graph

variable {g g' : Graph} {spec : Node → Spec} {n : Node} {id : String}

/-- The graph has the nodes of another one in some order, and its edges in some order and
any number of times. -/
structure Rearranges (g' g : Graph) : Prop where
  nodes : g'.nodes.Perm g.nodes
  edges : ∀ e, e ∈ g'.edges ↔ e ∈ g.edges

namespace Rearranges

theorem symm (h : g'.Rearranges g) :
  g.Rearranges g'
  := ⟨h.nodes.symm, fun e => (h.edges e).symm⟩

theorem ids_perm (h : g'.Rearranges g) :
  g'.ids.Perm g.ids
  := h.nodes.map Node.id

theorem joins_eq (h : g'.Rearranges g) :
  g'.Joins = g.Joins
  := by
  funext s t
  apply propext (h.edges ⟨s, t⟩)

/-- Neither the distinctness of names nor the absence of cycles depends on an order. -/
theorem accepted (h : g'.Rearranges g) (hg : g.Accepted) :
  g'.Accepted
  := by
  have hmem : ∀ id, id ∈ g'.ids ↔ id ∈ g.ids := fun _ => h.ids_perm.mem_iff
  constructor
  case nonempty =>
    intro id hid
    apply hg.nonempty id ((hmem id).mp hid)
  case distinct => apply (h.ids_perm.map taskName).nodup_iff.mpr hg.distinct
  case source_mem =>
    intro s t hst
    rw [h.joins_eq] at hst
    apply (hmem s).mpr (hg.source_mem s t hst)
  case target_mem =>
    intro s t hst
    rw [h.joins_eq] at hst
    apply (hmem t).mpr (hg.target_mem s t hst)
  case acyclic =>
    intro id hid
    rw [Reaches, h.joins_eq]
    apply hg.acyclic id ((hmem id).mp hid)

/-- An id is that of the same node in both graphs. -/
theorem node?_eq (h : g'.Rearranges g) (hg : g.Accepted) :
  g'.node? id = g.node? id
  := by
  apply Option.ext
  intro n
  rw [(h.accepted hg).node?_eq_some_iff, hg.node?_eq_some_iff, h.nodes.mem_iff]

/-- The sources of the edges into a node are the same in both graphs. -/
theorem sources_eq (h : g'.Rearranges g) :
  g'.sources id = g.sources id
  := by
  apply NameSet.ext_mem
  intro s
  rw [mem_sources, mem_sources, h.joins_eq]

theorem spec?_eq (h : g'.Rearranges g) (hg : g.Accepted) :
  g'.spec? spec = g.spec? spec
  := by
  funext id
  rw [spec?, spec?, h.node?_eq hg]

/-- A node has the same task in both graphs. -/
theorem linkedTask_eq (h : g'.Rearranges g) (hg : g.Accepted) :
  g'.linkedTask spec g'.edges n = g.linkedTask spec g.edges n
  := by
  rw [linkedTask, linkedTask, compiledTask, compiledTask, h.sources_eq, h.spec?_eq hg,
    Node.connections_congr h.edges]

/-- A node has the same missing inputs in both graphs. -/
theorem missingInputs_eq (h : g'.Rearranges g) (hg : g.Accepted) {policy : ArtifactPolicy} :
  g'.missingInputs spec policy n = g.missingInputs spec policy n
  := by
  rw [← violations_linkedTask, ← violations_linkedTask, h.linkedTask_eq hg]

/-- The nodes have their specs in whatever order they ask for them. -/
theorem resolved {answer : SpecKey → Except Error Spec} (h : g'.Rearranges g)
    (hspec : g.Resolved answer spec) :
  g'.Resolved answer spec
  := by
  intro n hn
  apply hspec n (h.nodes.mem_iff.mp hn)

/-- A rearrangement of a graph that is compiled is compiled, too. -/
theorem exists_compile (h : g'.Rearranges g) (hg : g.Accepted) {cache : SpecCache}
    {resolver : SpecKey → Except Error Spec} {c : CompiledGraph}
    (hcompile : (g.compile cache resolver).1 = .ok c) :
  ∃ c', (g'.compile cache resolver).1 = .ok c'
  := by
  obtain ⟨spec, hspec⟩ := exists_resolved_of_compile hcompile
  exact ⟨_, (h.accepted hg).compile_eq (h.resolved hspec)⟩

end Rearranges

/-- A graph and a rearrangement of it are accepted together and compiled together. Linked, they
have the same tasks in the order of their own nodes, and the reports are the same in some
order. When the nodes stand in one order, the reports and the manifests are the same. -/
theorem compile_rearranged (h : g'.Rearranges g) (cache : SpecCache)
    (resolver : SpecKey → Except Error Spec) (policy : ArtifactPolicy) :
  (g'.check = .ok () ↔ g.check = .ok ())
    ∧ (g.check = .ok () →
      ((∃ c', (g'.compile cache resolver).1 = .ok c') ↔ ∃ c, (g.compile cache resolver).1 = .ok c)
        ∧ ∀ c c', (g.compile cache resolver).1 = .ok c → (g'.compile cache resolver).1 = .ok c' →
          (∀ id, (c'.link g').task? id = (c.link g).task? id)
            ∧ (c.link g).tasks.map Task.nodeId = g.ids
            ∧ (c'.link g').tasks.map Task.nodeId = g'.ids
            ∧ (validate (c'.link g').tasks (c'.link g').specs policy).Perm
                (validate (c.link g).tasks (c.link g).specs policy)
            ∧ (g'.nodes = g.nodes →
                validate (c'.link g').tasks (c'.link g').specs policy
                    = validate (c.link g).tasks (c.link g).specs policy
                  ∧ ∀ settings storage,
                    (c'.link g').manifest settings storage = (c.link g).manifest settings storage))
  := by
  constructor
  · rw [check_iff_accepted, check_iff_accepted]
    use h.symm.accepted, h.accepted
  · intro hcheck
    have hg := check_iff_accepted.mp hcheck
    have hg' := h.accepted hg
    constructor
    · constructor
      · rintro ⟨c', hcompile'⟩
        apply h.symm.exists_compile hg' hcompile'
      · rintro ⟨c, hcompile⟩
        apply h.exists_compile hg hcompile
    · intro c c' hcompile hcompile'
      obtain ⟨spec, hspec, hlink⟩ := hg.link_of_compile hcompile
      rw [hg'.compile_eq (h.resolved hspec), Except.ok.injEq] at hcompile'
      have htask : g'.linkedTask spec g'.edges = g.linkedTask spec g.edges := by
        funext n
        apply h.linkedTask_eq hg
      have hmissing : g'.missingInputs spec policy = g.missingInputs spec policy := by
        funext n
        apply h.missingInputs_eq hg
      rw [hlink, ← hcompile', hg'.link_eq, hg.validate_eq, hg'.validate_eq, hmissing]
      refine ⟨?_, ?_, ?_, h.nodes.flatMap_right _, ?_⟩
      · intro id
        rw [task?_linked, task?_linked, htask, h.node?_eq hg]
      · rw [List.map_map]
        rfl
      · rw [List.map_map]
        rfl
      · intro hnodes
        rw [htask, hnodes]
        constructor
        · rfl
        · intro _ _
          rfl

/-- The nodes of `relay` the other way around, and its edge twice. -/
def relayReversed : Graph where
  nodes := relay.nodes.reverse
  edges := relay.edges ++ relay.edges

theorem relayReversed_tasks :
  relayReversed.Rearranges relay ∧ relay.check = .ok ()
    ∧ ∃ c c', (relay.compile .empty fun key => .ok (relaySpec key)).1 = .ok c
      ∧ (relayReversed.compile .empty fun key => .ok (relaySpec key)).1 = .ok c'
      ∧ (∀ id, (c'.link relayReversed).task? id = (c.link relay).task? id)
      ∧ (c'.link relayReversed).tasks.map Task.nodeId = ["take", "Make_It"]
      ∧ (c.link relay).tasks.map Task.nodeId = ["Make_It", "take"]
  := by
  have h : relayReversed.Rearranges relay := by
    constructor
    case nodes => apply List.reverse_perm
    case edges => simp [relayReversed]
  have hcheck : relay.check = .ok () := by cbv
  have hcompile : (relay.compile .empty fun key => .ok (relaySpec key)).1 = _ :=
    @Accepted.compile_eq relay _ _ (fun n => relaySpec n.specKey) (check_iff_accepted.mp hcheck)
      fun n _ => SpecCache.answer_empty
  obtain ⟨-, hrearranged⟩ := compile_rearranged h .empty (fun key => .ok (relaySpec key)) .enforce
  obtain ⟨hboth, hsame⟩ := hrearranged hcheck
  obtain ⟨c', hcompile'⟩ := hboth.mpr ⟨_, hcompile⟩
  obtain ⟨htasks, hids, hids', -⟩ := hsame _ c' hcompile hcompile'
  exact ⟨h, hcheck, _, c', hcompile, hcompile', htasks, hids', hids⟩

end Graph

end JobGraph
