import JobGraph.Proofs.Pipeline.Analysis

/-!
# References that stay unbound

A reference is left unbound when no edge leads from its node or the output is not declared
there. Where artifacts must be supplied, a required artifact with such a reference is reported
unless its name is also that of a parameter: the text of the reference is then the value of
the parameter, and a value of its name is as good as a connection.
-/

namespace JobGraph

namespace Graph

variable {g : Graph} {spec : Node → Spec} {n : Node} {a : ArtifactSpec} {r : OutputRef}

/-- A declared artifact with a reference is left unbound exactly when the reference is
dangling. -/
theorem Accepted.get?_artifacts_eq_none_iff (h : g.Accepted) (ha : a ∈ (spec n).artifacts)
    (hargument : n.arguments.get? a.name = some (.reference r)) :
  (g.linkedTask spec g.edges n).artifacts.get? a.name = none
    ↔ ¬ (g.Joins r.source n.id ∧ ∃ s ∈ g.nodes, s.id = r.source ∧ r.output ∈ (spec s).outputs)
  := by
  rw [Option.eq_none_iff_forall_ne_some]
  constructor
  · intro hnone hbound
    apply hnone r
    apply (h.get?_artifacts_linkedTask ha).mpr ⟨hargument, hbound⟩
  · intro hdangling r' hr'
    obtain ⟨hargument', hbound⟩ := (h.get?_artifacts_linkedTask ha).mp hr'
    rw [hargument] at hargument'
    cases hargument'
    apply hdangling hbound

/-- An artifact that is left unbound is not connected. -/
theorem connection?_eq_none (ha : a ∈ (spec n).artifacts)
    (hnone : (g.linkedTask spec g.edges n).artifacts.get? a.name = none) :
  n.connection? g.edges (g.spec? spec) a.name = none
  := by
  have hconnected := @isConnected_linkedTask g spec n g.edges a ha
  rw [Task.isConnected, SortedMap.contains, hnone] at hconnected
  apply Option.isNone_iff_eq_none.mp
  rw [← Option.not_isSome, ← hconnected]
  rfl

/-- A required artifact with a reference that is left unbound is reported exactly when no
parameter has its name. -/
theorem Accepted.mem_report_iff (h : g.Accepted) (hn : n ∈ g.nodes) (ha : a ∈ (spec n).artifacts)
    (hrequired : a.required = true)
    (hargument : n.arguments.get? a.name = some (.reference r))
    (hnone : (g.linkedTask spec g.edges n).artifacts.get? a.name = none) :
  ⟨n.id, n.templateName, a.name, .artifact⟩ ∈ g.nodes.flatMap (g.missingInputs spec .enforce)
    ↔ (spec n).hasParameter a.name = false
  := by
  rw [h.mem_missingArtifacts_iff hn, Node.fills_of_reference hargument, Bool.and_true]
  constructor
  · rintro ⟨_, -, -, -, -, hparameter⟩
    apply hparameter
  · intro hparameter
    use a, ha, rfl, hrequired, connection?_eq_none ha hnone, hparameter

end Graph

/-- Where artifacts must be supplied, the analysis of an accepted graph whose entrypoints have
specs binds each required artifact with a reference unless the reference is dangling. It
reports one that is left unbound exactly when no parameter has its name. -/
theorem Pipeline.analyze_unbound {p : Pipeline} {g : Graph} {spec : Node → Spec}
    (hpolicy : p.settings.artifactPolicy = .enforce) (hcheck : g.check = .ok ())
    (hspec : ∀ n ∈ g.nodes, (p.spec n.templateName n.entrypoint).result = .ok (spec n))
    {n : Node} (hn : n ∈ g.nodes) {a : ArtifactSpec} (ha : a ∈ (spec n).artifacts)
    (hrequired : a.required = true) {r : OutputRef}
    (hargument : n.arguments.get? a.name = some (.reference r)) :
  ∃ c report task, (p.analyze g).result = .ok (c, report) ∧ c.task? n.id = some task
    ∧ (task.artifacts.get? a.name = none
      ↔ ¬ (g.Joins r.source n.id
        ∧ ∃ s ∈ g.nodes, s.id = r.source ∧ r.output ∈ (spec s).outputs))
    ∧ (task.artifacts.get? a.name = none →
      (⟨n.id, n.templateName, a.name, .artifact⟩ ∈ report
        ↔ (spec n).hasParameter a.name = false))
  := by
  have h := Graph.check_iff_accepted.mp hcheck
  have hanalyze := Pipeline.analyze_eq_ok h (List.ne_nil_of_mem hn) hspec
  rw [hpolicy] at hanalyze
  use ⟨g.nodes.map (g.linkedTask spec g.edges), g.specs spec⟩,
    g.nodes.flatMap (g.missingInputs spec .enforce), g.linkedTask spec g.edges n, hanalyze
  constructor
  · rw [Graph.task?_linked, h.node?_id hn]
    rfl
  · constructor
    · apply h.get?_artifacts_eq_none_iff ha hargument
    · intro hnone
      apply h.mem_report_iff hn ha hrequired hargument hnone

/-- Two steps that trim. The second refers to the first, but no edge joins them. -/
def trimmingApart : Graph where
  nodes := [⟨"a", "trim", "main", .ofList [("input_path", .literal "/tmp")]⟩,
    ⟨"b", "trim", "main",
      .ofList [("input_path", .literal "/tmp"), ("series", .reference ⟨"a", "series"⟩)]⟩]
  edges := []

theorem trimmingApart_reported :
  ∃ c report task, (trimmer.analyze trimmingApart).result = .ok (c, report)
    ∧ c.task? "b" = some task ∧ task.artifacts.get? "series" = none
    ∧ ⟨"b", "trim", "series", .artifact⟩ ∈ report
  := by
  have hcheck : trimmingApart.check = .ok () := by cbv
  have hspec : ∀ n ∈ trimmingApart.nodes,
      (trimmer.spec n.templateName n.entrypoint).result = .ok (trimmingSpec n) := by
    intro n hn
    rcases List.mem_pair.mp hn with rfl | rfl <;> rfl
  obtain ⟨c, report, task, hanalyze, htask, hunbound, hreported⟩ :=
    @Pipeline.analyze_unbound trimmer trimmingApart _ rfl hcheck hspec _
      (List.mem_cons_of_mem _ List.mem_cons_self) ⟨"series", true⟩ List.mem_cons_self rfl
      ⟨"a", "series"⟩ rfl
  have hnone : task.artifacts.get? "series" = none := by
    apply hunbound.mpr
    rintro ⟨hjoins, -⟩
    cases hjoins
  use c, report, task, hanalyze, htask, hnone, (hreported hnone).mpr rfl

/-- A template whose artifact has the name of a parameter. -/
def tuning : Template :=
  ⟨none, none, [], [⟨"main", [⟨"model", none⟩], [⟨"model", false⟩], []⟩]⟩

/-- The spec of a step that tunes a model. -/
def tuningSpec (n : Node) : Spec :=
  ⟨n.templateName, n.entrypoint, [⟨"model", none, true⟩], [⟨"model", true⟩], []⟩

/-- A step that is to tune the model of another one, which does not exist. -/
def tuningAlone : Graph where
  nodes := [⟨"use", "tune", "main", .ofList [("model", .reference ⟨"fit", "model"⟩)]⟩]
  edges := []

/-- A pipeline that has the template under every name and wants artifacts supplied. -/
def tuner : Pipeline where
  catalog := ⟨.never, fun _ => .now (.ok tuning)⟩
  executor := ⟨fun _ => .never⟩
  settings := { PipelineSettings.default with artifactPolicy := .enforce }

/-- A reference to a node that does not exist is not reported when it stands in the place of a
parameter, too. -/
theorem tuningAlone_unreported :
  tuner.settings.artifactPolicy = .enforce ∧ tuningAlone.check = .ok ()
    ∧ (∀ n ∈ tuningAlone.nodes,
      (tuner.spec n.templateName n.entrypoint).result = .ok (tuningSpec n)
        ∧ ⟨"model", true⟩ ∈ (tuningSpec n).artifacts
        ∧ n.arguments.get? "model" = some (.reference ⟨"fit", "model"⟩))
    ∧ tuningAlone.ids = ["use"]
    ∧ ∃ c task, (tuner.analyze tuningAlone).result = .ok (c, [])
      ∧ c.task? "use" = some task ∧ task.artifacts.get? "model" = none
  := by
  have hcheck : tuningAlone.check = .ok () := by cbv
  have hspec : ∀ n ∈ tuningAlone.nodes,
      (tuner.spec n.templateName n.entrypoint).result = .ok (tuningSpec n) := by
    intro n hn
    rw [List.mem_singleton.mp hn]
    rfl
  have hanalyze := Pipeline.analyze_eq_ok (Graph.check_iff_accepted.mp hcheck)
    (List.cons_ne_nil _ _) hspec
  have hreport : tuningAlone.nodes.flatMap (tuningAlone.missingInputs tuningSpec
      tuner.settings.artifactPolicy) = [] := by cbv
  rw [hreport] at hanalyze
  refine ⟨rfl, hcheck, ?_, rfl, _, _, hanalyze, rfl, ?_⟩
  · intro n hn
    use hspec n hn
    rw [List.mem_singleton.mp hn]
    constructor <;> decide
  · cbv

end JobGraph
