import JobGraph.Proofs.Task.Report
import JobGraph.Proofs.Template.Resolution
import Mathlib

/-!
# Inputs that are declared twice

A spec has the names that its sub-template declares, one for one, so it repeats a name exactly when
the sub-template does. A report lists a missing input of a node as often as the spec of the node
requires one of its kind and name.
-/

namespace JobGraph

/-! ### Names of inputs -/

/-- The names of the inputs of a kind. -/
def SubTemplate.names (sub : SubTemplate) : FieldKind → List String
  | .parameter => sub.parameters.map Parameter.name
  | .artifact => sub.artifacts.map InputArtifact.name

namespace Spec

variable {spec : Spec} {kind : FieldKind}

/-- The names of the inputs of a kind. -/
def names (spec : Spec) : FieldKind → List String
  | .parameter => spec.parameters.map ParamSpec.name
  | .artifact => spec.artifacts.map ArtifactSpec.name

/-- The names of the inputs of a kind that are required. -/
def required (spec : Spec) : FieldKind → List String
  | .parameter => (spec.parameters.filter ParamSpec.required).map ParamSpec.name
  | .artifact => (spec.artifacts.filter ArtifactSpec.required).map ArtifactSpec.name

theorem required_sublist :
  (spec.required kind).Sublist (spec.names kind)
  := by
  cases kind with
  | parameter => apply List.filter_sublist.map
  | artifact => apply List.filter_sublist.map

end Spec

/-- The spec of an entrypoint has the names that the first sub-template of its name declares. -/
theorem Template.exists_names_of_resolve {t : Template} {name entrypoint : String} {spec : Spec}
    (h : t.resolve name entrypoint = .ok spec) :
  ∃ sub, FirstNamed t.subTemplates entrypoint sub ∧ ∀ kind, spec.names kind = sub.names kind
  := by
  obtain ⟨sub, hfirst, -, -, hdescribes⟩ := resolve_eq_ok_iff.mp h
  obtain ⟨hparameters, hartifacts, -⟩ := describes_sub_iff.mp hdescribes
  use sub, hfirst
  intro kind
  cases kind with
  | parameter =>
    rw [Spec.names, ← hparameters, List.map_map]
    rfl
  | artifact =>
    rw [Spec.names, ← hartifacts, List.map_map]
    rfl

/-! ### Violations of a task -/

/-- Both violations are of the same input of the same node. -/
def Violation.alike (v w : Violation) : Bool :=
  v.nodeId = w.nodeId && v.kind = w.kind && v.field = w.field

namespace Task

variable {task : Task} {spec : Spec} {policy : ArtifactPolicy} {v : Violation} {kind : FieldKind}
  {names : List String}

/-- The names that the task is not supplied with. -/
def absent (task : Task) (names : List String) : List String :=
  names.filter fun name => !task.isSupplied name

theorem violations_eq :
  task.violations spec policy
    = (task.absent (spec.required .parameter)).map (task.missing .parameter)
      ++ match policy with
        | .ignore => []
        | .enforce => (task.absent (spec.required .artifact)).map (task.missing .artifact)
  := by
  cases policy <;> rfl

theorem nodeId_of_mem_violations (hv : v ∈ task.violations spec policy) :
  v.nodeId = task.nodeId
  := by
  rw [violations_eq] at hv
  rcases List.mem_append.mp hv with hv | hv
  · obtain ⟨_, -, rfl⟩ := List.mem_map.mp hv
    rfl
  · cases policy with
    | ignore => cases hv
    | enforce =>
      obtain ⟨_, -, rfl⟩ := List.mem_map.mp hv
      rfl

/-- Among the missing inputs of its kind a name stands as often as among all of them. -/
theorem countP_alike_missing {name : String} (h : task.isSupplied name = false) :
  ((task.absent names).map (task.missing kind)).countP (task.missing kind name).alike
    = names.count name
  := by
  have halike : (task.missing kind name).alike ∘ task.missing kind = (· == name) := by
    funext other
    rw [Bool.eq_iff_iff]
    simp only [Function.comp_apply, Violation.alike, missing, decide_true, Bool.true_and, beq_iff_eq]
    apply decide_eq_true_iff.trans eq_comm
  rw [List.countP_map, halike, ← List.count_eq_countP, absent, List.count_filter]
  simp [h]

/-- Missing inputs of another kind are not alike. -/
theorem countP_alike_missing_of_ne {other : FieldKind} {name : String} (h : kind ≠ other) :
  ((task.absent names).map (task.missing other)).countP (task.missing kind name).alike = 0
  := by
  rw [List.countP_eq_zero]
  intro w hw
  obtain ⟨_, -, rfl⟩ := List.mem_map.mp hw
  simp [Violation.alike, missing, h]

/-- A violation of a task is reported as often as the spec requires an input of its kind and name. -/
theorem countP_violations (hv : v ∈ task.violations spec policy) :
  (task.violations spec policy).countP v.alike = (spec.required v.kind).count v.field
  := by
  rw [violations_eq] at hv ⊢
  rw [List.countP_append]
  rcases List.mem_append.mp hv with hv | hv
  · obtain ⟨name, hname, rfl⟩ := List.mem_map.mp hv
    have habsent : task.isSupplied name = false := by simpa using (List.mem_filter.mp hname).2
    rw [countP_alike_missing habsent]
    cases policy with
    | ignore => rfl
    | enforce =>
      rw [countP_alike_missing_of_ne (by decide)]
      rfl
  · cases policy with
    | ignore => cases hv
    | enforce =>
      obtain ⟨name, hname, rfl⟩ := List.mem_map.mp hv
      have habsent : task.isSupplied name = false := by simpa using (List.mem_filter.mp hname).2
      rw [countP_alike_missing habsent, countP_alike_missing_of_ne (by decide), Nat.zero_add]
      rfl

end Task

/-! ### Reports -/

namespace Graph

variable {g : Graph} {spec : Node → Spec} {policy : ArtifactPolicy} {n : Node} {v : Violation}

/-- The report on a linked graph lists the violations of its tasks, node by node. -/
theorem Accepted.validate_eq_violations (h : g.Accepted) :
  validate (g.nodes.map (g.linkedTask spec g.edges)) (g.specs spec) policy
    = g.nodes.flatMap fun n => (g.linkedTask spec g.edges n).violations (spec n) policy
  := by
  rw [h.validate_eq]
  apply List.flatMap_congr
  intro n _
  rw [violations_linkedTask]

/-- Violations that are alike are those of one node. -/
theorem Accepted.countP_flatMap_violations (h : g.Accepted) (hn : n ∈ g.nodes)
    (hid : v.nodeId = n.id) :
  (g.nodes.flatMap fun n => (g.linkedTask spec g.edges n).violations (spec n) policy).countP v.alike
    = ((g.linkedTask spec g.edges n).violations (spec n) policy).countP v.alike
  := by
  obtain ⟨before, after, hsplit⟩ := List.append_of_mem hn
  have hperm : g.nodes.Perm (n :: (before ++ after)) := by
    rw [hsplit]
    apply List.perm_middle
  have hnodup : n ∉ before ++ after := by
    have hnodes : g.nodes.Nodup := h.nodup_ids.of_map Node.id
    apply (List.nodup_cons.mp (hperm.nodup_iff.mp hnodes)).1
  rw [(hperm.flatMap_right _).countP_eq, List.flatMap_cons, List.countP_append, Nat.add_eq_left,
    List.countP_eq_zero]
  intro w hw halike
  obtain ⟨m, hm, hw⟩ := List.mem_flatMap.mp hw
  have hmid : w.nodeId = m.id := Task.nodeId_of_mem_violations hw
  have heq : v.nodeId = w.nodeId := by
    simp only [Violation.alike, Bool.and_eq_true, decide_eq_true_eq] at halike
    exact halike.1.1
  have hmem : m ∈ g.nodes := hperm.mem_iff.mpr (List.mem_cons_of_mem _ hm)
  obtain rfl := h.eq_of_id_eq hmem hn (by rw [← hmid, ← heq, hid])
  apply hnodup hm

/-- A violation is reported as often as the spec of its node requires an input of its kind and
name. -/
theorem Accepted.countP_report (h : g.Accepted)
    (hv : v ∈ validate (g.nodes.map (g.linkedTask spec g.edges)) (g.specs spec) policy) :
  ∃ n ∈ g.nodes, n.id = v.nodeId
    ∧ (validate (g.nodes.map (g.linkedTask spec g.edges)) (g.specs spec) policy).countP v.alike
      = ((spec n).required v.kind).count v.field
  := by
  rw [h.validate_eq_violations] at hv ⊢
  obtain ⟨n, hn, hviolation⟩ := List.mem_flatMap.mp hv
  have hid : v.nodeId = n.id := Task.nodeId_of_mem_violations hviolation
  use n, hn, hid.symm
  rw [h.countP_flatMap_violations hn hid, Task.countP_violations hviolation]

end Graph

/-- No two violations are alike when each is reported once. -/
theorem pairwise_not_alike {report : List Violation}
    (h : ∀ v ∈ report, report.countP v.alike ≤ 1) :
  report.Pairwise fun v w => v.alike w = false
  := by
  rw [List.pairwise_iff_forall_sublist]
  intro v w hsub
  rw [← Bool.not_eq_true]
  intro halike
  have hself : v.alike v = true := by simp [Violation.alike]
  have htwo : [v, w].countP v.alike = 2 := by simp [halike, hself]
  have hone := h v (hsub.subset List.mem_cons_self)
  have hle := hsub.countP_le (p := v.alike)
  omega

/-- The spec of an entrypoint has the names that the first sub-template of its name declares, in
the same order. So it has a name twice exactly when the sub-template declares it twice. The report
on an accepted graph whose nodes have specs lists a violation as often as the spec of the node
requires an input of its kind and name. So no two violations are of the same input of the same
node where no spec has a name twice. -/
theorem validate_counts :
  (∀ (t : Template) (name entrypoint : String) (s : Spec), t.resolve name entrypoint = .ok s →
      ∃ sub, FirstNamed t.subTemplates entrypoint sub
        ∧ ∀ kind, s.names kind = sub.names kind ∧ ((s.names kind).Nodup ↔ (sub.names kind).Nodup))
    ∧ ∀ (g : Graph) (cache : SpecCache) (resolver : SpecKey → Except Error Spec)
        (spec : Node → Spec) (policy : ArtifactPolicy), g.check = .ok () →
      g.Resolved (cache.answer resolver) spec →
        ∃ c report, (g.compile cache resolver).1 = .ok c
          ∧ validate (c.link g).tasks (c.link g).specs policy = report
          ∧ (∀ v ∈ report, ∃ n ∈ g.nodes, n.id = v.nodeId
            ∧ report.countP v.alike = ((spec n).required v.kind).count v.field)
          ∧ ((∀ n ∈ g.nodes, ∀ kind, ((spec n).names kind).Nodup) →
            report.Pairwise fun v w => v.alike w = false)
  := by
  constructor
  · intro t name entrypoint s hs
    obtain ⟨sub, hfirst, hnames⟩ := Template.exists_names_of_resolve hs
    use sub, hfirst
    intro kind
    rw [hnames kind]
    exact ⟨rfl, Iff.rfl⟩
  · intro g cache resolver spec policy hcheck hspec
    have h := Graph.check_iff_accepted.mp hcheck
    refine ⟨_, _, h.compile_eq hspec, rfl, ?_⟩
    rw [h.link_eq]
    have hcounts := fun v => @Graph.Accepted.countP_report g spec policy v h
    use hcounts
    intro hnodup
    apply pairwise_not_alike
    intro v hv
    obtain ⟨n, hn, -, hcount⟩ := hcounts v hv
    rw [hcount]
    apply List.nodup_iff_count_le_one.mp
    apply (hnodup n hn v.kind).sublist Spec.required_sublist

/-- A template that declares a parameter and an artifact twice. -/
def doubling : Template :=
  ⟨none, none, [], [⟨"main", [⟨"model", none⟩, ⟨"model", none⟩],
    [⟨"data", false⟩, ⟨"data", false⟩], []⟩]⟩

/-- A step that is supplied with nothing. -/
def doublingAlone : Graph where
  nodes := [⟨"use", "tune", "main", .empty⟩]
  edges := []

/-- The spec of the step. -/
def doublingSpec : Spec :=
  ⟨"tune", "main", [⟨"model", none, true⟩, ⟨"model", none, true⟩],
    [⟨"data", true⟩, ⟨"data", true⟩], []⟩

theorem doublingAlone_counts :
  doublingAlone.check = .ok () ∧ doubling.resolve "tune" "main" = .ok doublingSpec
    ∧ ∃ c report,
      (doublingAlone.compile .empty fun key => doubling.resolve key.template key.entrypoint).1
          = .ok c
        ∧ validate (c.link doublingAlone).tasks (c.link doublingAlone).specs .enforce = report
        ∧ ∀ v ∈ report, report.countP v.alike = (doublingSpec.required v.kind).count v.field
  := by
  have hcheck : doublingAlone.check = .ok () := by cbv
  have hspec : doubling.resolve "tune" "main" = .ok doublingSpec := rfl
  have hresolved : doublingAlone.Resolved
      (SpecCache.empty.answer fun key => doubling.resolve key.template key.entrypoint)
      fun _ => doublingSpec := by
    intro n hn
    rw [List.mem_singleton.mp hn]
    apply SpecCache.answer_empty
  obtain ⟨c, report, hcompile, hreport, hcounts, -⟩ :=
    validate_counts.2 _ _ _ _ .enforce hcheck hresolved
  use hcheck, hspec, c, report, hcompile, hreport
  intro v hv
  obtain ⟨_, -, -, hcount⟩ := hcounts v hv
  apply hcount

/-- An input that is declared twice is reported twice. -/
theorem doublingAlone_reported_twice :
  doubling.resolve "tune" "main" = .ok doublingSpec
    ∧ ¬ (doublingSpec.names .parameter).Nodup ∧ ¬ (doublingSpec.names .artifact).Nodup
    ∧ doublingAlone.check = .ok ()
    ∧ ∃ c,
      (doublingAlone.compile .empty fun key => doubling.resolve key.template key.entrypoint).1
          = .ok c
        ∧ validate (c.link doublingAlone).tasks (c.link doublingAlone).specs .enforce
          = [⟨"use", "tune", "model", .parameter⟩, ⟨"use", "tune", "model", .parameter⟩,
            ⟨"use", "tune", "data", .artifact⟩, ⟨"use", "tune", "data", .artifact⟩]
  := by
  refine ⟨rfl, by decide, by decide, by cbv, _, rfl, ?_⟩
  cbv

end JobGraph
