import JobGraph.Pipeline.Basic
import JobGraph.Proofs.Pipeline.Gathering
import JobGraph.Proofs.Task.Report
import JobGraph.Proofs.Template.Resolution
import Mathlib

/-!
# What analysis returns

The steps of a run in order, the templates that a catalog answers with, and the analysis of an
accepted graph whose entrypoints all have specs: its report lists the missing inputs of the
nodes.
-/

namespace JobGraph

/-! ### Steps of runs -/

namespace Run

variable {α β : Type} {r : Run α} {next : α → Run β}

/-- A run whose first step has a result goes on with it. -/
theorem bind_of_ok {a : α} (h : r.result = .ok a) :
  r >>= next = ⟨r.asked ++ (next a).asked, r.submitted ++ (next a).submitted, (next a).result⟩
  := by
  change andThen r next = _
  rw [andThen, h]

/-- A run whose first step fails ends there. -/
theorem bind_of_error {e : Error} (h : r.result = .error e) :
  r >>= next = ⟨r.asked, r.submitted, .error e⟩
  := by
  change andThen r next = _
  rw [andThen, h]

/-- A run with a result had one at its first step. -/
theorem exists_of_bind {b : β} (h : (r >>= next).result = .ok b) :
  ∃ a, r.result = .ok a ∧ (next a).result = .ok b
  := by
  cases hr : r.result with
  | error e =>
    rw [bind_of_error hr] at h
    cases h
  | ok a =>
    rw [bind_of_ok hr] at h
    use a, rfl, h

/-- A run that fails does so at its first step or after it. -/
theorem error_of_bind {e : Error} (h : (r >>= next).result = .error e) :
  r.result = .error e ∨ ∃ a, r.result = .ok a ∧ (next a).result = .error e
  := by
  cases hr : r.result with
  | error e' =>
    rw [bind_of_error hr] at h
    cases h
    left
    rfl
  | ok a =>
    rw [bind_of_ok hr] at h
    right
    use a, rfl, h

/-- A run asks for what its first step asks for when the others ask for nothing. -/
theorem asked_bind (hnext : ∀ a, (next a).asked = []) :
  (r >>= next).asked = r.asked
  := by
  cases hr : r.result with
  | error e => rw [bind_of_error hr]
  | ok a => rw [bind_of_ok hr, hnext a, List.append_nil]

/-- A run submits nothing when none of its steps does. -/
theorem submitted_bind (hfirst : r.submitted = []) (hnext : ∀ a, (next a).submitted = []) :
  (r >>= next).submitted = []
  := by
  cases hr : r.result with
  | error e => rw [bind_of_error hr, hfirst]
  | ok a => rw [bind_of_ok hr, hfirst, hnext a, List.append_nil]

end Run

/-! ### Templates -/

namespace Catalog

variable {catalog : Catalog} {settings : PipelineSettings} {found : String → Template}
  {names : List String}

/-- When every template is found, they come with their names. -/
theorem templates_eq
    (h : ∀ name ∈ names, (catalog.fetchCall settings name).result = .ok (found name)) :
  (catalog.templates settings names).result = .ok (names.map fun name => (name, found name))
  := by
  have hzip := @List.zip_map' _ _ _ id found names
  rw [List.map_id] at hzip
  rw [templates, Reply.gather_eq h]
  apply congrArg Except.ok hzip

end Catalog

/-- Templates that come with their names are at hand under them. -/
theorem lookup_templates {found : String → Template} {names : List String} {name : String}
    (h : name ∈ names) :
  (names.map fun name => (name, found name)).lookup name = some (found name)
  := by
  induction names with
  | nil => cases h
  | cons own names ih =>
    rw [List.map_cons, List.lookup_cons]
    split
    case h_1 heq => rw [eq_of_beq heq]
    case h_2 hne =>
      apply ih
      apply (List.mem_cons.mp h).resolve_left
      rintro rfl
      simp at hne

/-- Templates at hand resolve the keys of their names. -/
theorem resolveAmong_eq {found : String → Template} {names : List String} {key : SpecKey}
    (h : key.template ∈ names) :
  resolveAmong (names.map fun name => (name, found name)) key
    = (found key.template).resolve key.template key.entrypoint
  := by
  rw [resolveAmong, lookup_templates h]

/-- An entrypoint has a spec when its template is found and resolves it. -/
theorem Pipeline.exists_of_spec {p : Pipeline} {name entrypoint : String} {spec : Spec}
    (h : (p.spec name entrypoint).result = .ok spec) :
  ∃ t, (p.catalog.fetchCall p.settings name).result = .ok t ∧ t.resolve name entrypoint = .ok spec
  := Run.exists_of_bind h

/-! ### Analysis -/

namespace Graph

variable {g : Graph} {catalog : Catalog} {settings : PipelineSettings}

theorem accept_eq_ok (hnodes : g.nodes ≠ []) (hcheck : g.check = .ok ()) :
  g.accept = .ok ()
  := by
  rw [accept, if_neg (by simpa using hnodes), hcheck]

theorem check_of_accept (h : g.accept = .ok ()) :
  g.check = .ok ()
  := by
  rw [accept] at h
  split at h
  · cases h
  · split at h
    case h_1 hcheck => apply hcheck
    case h_2 => cases h

theorem nodes_ne_nil_of_accept (h : g.accept = .ok ()) :
  g.nodes ≠ []
  := by
  rintro hnil
  rw [accept, hnil] at h
  cases h

/-- A graph that is not accepted has a defect. -/
theorem exists_of_accept_error {e : Error} (h : g.accept = .error e) :
  ∃ defect : Defect, e = .invalidGraph defect.message
  := by
  rw [accept] at h
  split at h
  · cases h
    use .noNodes
  · split at h
    case h_1 => cases h
    case h_2 defect _ =>
      cases h
      use defect

/-- A graph that has no nodes or fails its check is not accepted. -/
theorem exists_of_refused (h : g.nodes = [] ∨ g.check ≠ .ok ()) :
  ∃ e, g.accept = .error e
  := by
  cases haccept : g.accept with
  | error e => use e
  | ok =>
    obtain hnil | hcheck := h
    · apply absurd hnil (nodes_ne_nil_of_accept haccept)
    · apply absurd (check_of_accept haccept) hcheck

/-- A graph that is compiled from the templates at hand is linked. -/
theorem assemble_eq_ok {templates : List (String × Template)} {c : CompiledGraph}
    (h : (g.compile .empty (resolveAmong templates)).1 = .ok c) :
  g.assemble templates = .ok (c.link g)
  := by
  rw [assemble, h]

theorem exists_of_assemble {templates : List (String × Template)} {c : CompiledGraph}
    (h : g.assemble templates = .ok c) :
  ∃ c₀, (g.compile .empty (resolveAmong templates)).1 = .ok c₀ ∧ c = c₀.link g
  := by
  rw [assemble] at h
  split at h
  case h_1 c₀ hcompile =>
    cases h
    use c₀
  case h_2 => cases h

/-- The analysis of a graph that is accepted and assembled. -/
theorem analyze_eq_ok {templates : List (String × Template)} {c : CompiledGraph}
    (haccept : g.accept = .ok ())
    (htemplates : (catalog.templates settings g.templateNames.names).result = .ok templates)
    (hassemble : g.assemble templates = .ok c) :
  (g.analyze catalog settings).result
    = .ok (c, validate c.tasks c.specs settings.artifactPolicy)
  := by
  have hfirst : (Run.ofResult g.accept).result = .ok () := haccept
  have hlast : (Run.ofResult (g.assemble templates)).result = .ok c := hassemble
  rw [analyze, Run.bind_of_ok hfirst, Run.bind_of_ok htemplates, Run.bind_of_ok hlast]
  rfl

/-- The analysis of a graph that is not accepted ends before anything is asked for. -/
theorem analyze_of_refused {e : Error} (h : g.accept = .error e) :
  g.analyze catalog settings = ⟨[], [], .error e⟩
  := Run.bind_of_error h

/-- The analysis of an accepted graph asks for the templates of its nodes. -/
theorem asked_analyze (haccept : g.accept = .ok ()) :
  (g.analyze catalog settings).asked
    = (catalog.templates settings g.templateNames.names).asked
  := by
  have hfirst : (Run.ofResult g.accept).result = .ok () := haccept
  rw [analyze, Run.bind_of_ok hfirst]
  apply Run.asked_bind
  intro templates
  apply Run.asked_bind
  intro c
  rfl

/-- The analysis fails with the error of a template. -/
theorem analyze_eq_error_of_templates {e : Error} (haccept : g.accept = .ok ())
    (htemplates : (catalog.templates settings g.templateNames.names).result = .error e) :
  (g.analyze catalog settings).result = .error e
  := by
  have hfirst : (Run.ofResult g.accept).result = .ok () := haccept
  rw [analyze, Run.bind_of_ok hfirst, Run.bind_of_error htemplates]

/-- The analysis fails with the error of the compilation. -/
theorem analyze_eq_error_of_compile {templates : List (String × Template)} {e : Error}
    (haccept : g.accept = .ok ())
    (htemplates : (catalog.templates settings g.templateNames.names).result = .ok templates)
    (hcompile : (g.compile .empty (resolveAmong templates)).1 = .error e) :
  (g.analyze catalog settings).result = .error e
  := by
  have hfirst : (Run.ofResult g.accept).result = .ok () := haccept
  have hlast : (Run.ofResult (g.assemble templates)).result = .error e := by
    rw [Run.ofResult, assemble, hcompile]
  rw [analyze, Run.bind_of_ok hfirst, Run.bind_of_ok htemplates, Run.bind_of_error hlast]

/-- An analysis fails because the graph is not accepted, or with the error of a template or of
the compilation. -/
theorem analyze_error_cases {e : Error} (h : (g.analyze catalog settings).result = .error e) :
  g.accept = .error e ∨ g.accept = .ok ()
    ∧ ((catalog.templates settings g.templateNames.names).result = .error e
      ∨ ∃ templates, (catalog.templates settings g.templateNames.names).result = .ok templates
        ∧ (g.compile .empty (resolveAmong templates)).1 = .error e)
  := by
  obtain haccept | ⟨_, haccept, h⟩ := Run.error_of_bind h
  · left
    apply haccept
  · right
    use haccept
    obtain htemplates | ⟨templates, htemplates, h⟩ := Run.error_of_bind h
    · left
      apply htemplates
    · right
      use templates, htemplates
      obtain hassemble | ⟨c, -, h⟩ := Run.error_of_bind h
      · change g.assemble templates = .error e at hassemble
        rw [assemble] at hassemble
        split at hassemble
        case h_1 => cases hassemble
        case h_2 hcompile =>
          cases hassemble
          apply hcompile
      · cases h

/-- What is analyzed was compiled from the templates found, and linked. -/
theorem exists_of_analyze {c : CompiledGraph} {report : List Violation}
    (h : (g.analyze catalog settings).result = .ok (c, report)) :
  ∃ templates c₀, (catalog.templates settings g.templateNames.names).result = .ok templates
    ∧ (g.compile .empty (resolveAmong templates)).1 = .ok c₀ ∧ c = c₀.link g
  := by
  obtain ⟨-, -, h⟩ := Run.exists_of_bind h
  obtain ⟨templates, htemplates, h⟩ := Run.exists_of_bind h
  obtain ⟨c', hassemble, h⟩ := Run.exists_of_bind h
  obtain ⟨c₀, hcompile, rfl⟩ := exists_of_assemble hassemble
  cases h
  use templates, c₀

/-- Only graphs that are accepted are analyzed. -/
theorem accepted_of_analyze {c : CompiledGraph} {report : List Violation}
    (h : (g.analyze catalog settings).result = .ok (c, report)) :
  g.Accepted
  := by
  obtain ⟨_, haccept, -⟩ := Run.exists_of_bind h
  apply check_iff_accepted.mp (check_of_accept haccept)

/-- The nodes of a graph whose entrypoints have specs have them among the templates found. -/
theorem exists_templates {p : Pipeline} {spec : Node → Spec}
    (h : ∀ n ∈ g.nodes, (p.spec n.templateName n.entrypoint).result = .ok (spec n)) :
  ∃ templates, (p.catalog.templates p.settings g.templateNames.names).result = .ok templates
    ∧ g.Resolved (SpecCache.empty.answer (resolveAmong templates)) spec
  := by
  -- Each template is asked for once, so its answer must not depend on the node it is for.
  have hfound : ∀ name ∈ g.templateNames.names,
      ∃ t, (p.catalog.fetchCall p.settings name).result = .ok t := by
    intro name hname
    obtain ⟨n, hn, rfl⟩ := List.mem_map.mp (NameSet.mem_ofList.mp hname)
    obtain ⟨t, ht, -⟩ := Pipeline.exists_of_spec (h n hn)
    use t
  have : Nonempty Template := ⟨⟨none, none, [], []⟩⟩
  choose! found hfound using hfound
  use g.templateNames.names.map fun name => (name, found name), Catalog.templates_eq hfound
  intro n hn
  have hname : n.templateName ∈ g.templateNames.names :=
    NameSet.mem_ofList.mpr (List.mem_map_of_mem hn)
  obtain ⟨t, ht, hresolve⟩ := Pipeline.exists_of_spec (h n hn)
  rw [hfound _ hname, Except.ok.injEq] at ht
  rw [SpecCache.answer_empty, resolveAmong_eq hname, Node.specKey, ht]
  apply hresolve

end Graph

/-- The analysis of an accepted graph whose entrypoints have specs ends with its linked tasks
and the missing inputs of its nodes. -/
theorem Pipeline.analyze_eq_ok {p : Pipeline} {g : Graph} {spec : Node → Spec}
    (h : g.Accepted) (hnodes : g.nodes ≠ [])
    (hspec : ∀ n ∈ g.nodes, (p.spec n.templateName n.entrypoint).result = .ok (spec n)) :
  (p.analyze g).result = .ok (⟨g.nodes.map (g.linkedTask spec g.edges), g.specs spec⟩,
    g.nodes.flatMap (g.missingInputs spec p.settings.artifactPolicy))
  := by
  have haccept := Graph.accept_eq_ok hnodes (Graph.check_iff_accepted.mpr h)
  obtain ⟨templates, htemplates, hresolved⟩ := Graph.exists_templates hspec
  have hassemble := Graph.assemble_eq_ok (h.compile_eq hresolved)
  rw [h.link_eq] at hassemble
  rw [analyze, Graph.analyze_eq_ok haccept htemplates hassemble, h.validate_eq]

/-- The analysis of an accepted graph whose entrypoints have specs reports the missing inputs
of its nodes, node by node. Every task is checked against the spec of its node, and none of
the parameters is supplied by an artifact of its name alone. -/
theorem Pipeline.analyze_report {p : Pipeline} {g : Graph} {spec : Node → Spec}
    (hnodes : g.nodes ≠ []) (hcheck : g.check = .ok ())
    (hspec : ∀ n ∈ g.nodes, (p.spec n.templateName n.entrypoint).result = .ok (spec n)) :
  ∃ c, (p.analyze g).result
      = .ok (c, g.nodes.flatMap (g.missingInputs spec p.settings.artifactPolicy))
    ∧ c.tasks.map Task.nodeId = g.ids
    ∧ (∀ n ∈ g.nodes, c.specs.get? n.id = some (spec n))
    ∧ ∀ t ∈ c.tasks, ∀ s, c.specs.get? t.nodeId = some s →
        ∀ q ∈ s.parameters, t.isSupplied q.name = t.hasLiteral q.name
  := by
  have h := Graph.check_iff_accepted.mp hcheck
  obtain ⟨templates, htemplates, hresolved⟩ := Graph.exists_templates hspec
  have hassemble := Graph.assemble_eq_ok (h.compile_eq hresolved)
  rw [h.link_eq] at hassemble
  have hspecs : ∀ n ∈ g.nodes, (g.specs spec).get? n.id = some (spec n) := by
    intro n hn
    rw [h.get?_specs, h.node?_id hn]
    rfl
  use ⟨g.nodes.map (g.linkedTask spec g.edges), g.specs spec⟩
  refine ⟨?_, ?_, hspecs, ?_⟩
  · rw [analyze, Graph.analyze_eq_ok (Graph.accept_eq_ok hnodes hcheck) htemplates hassemble,
      h.validate_eq]
  · rw [List.map_map]
    rfl
  · intro t ht s hs q hq
    obtain ⟨n, hn, rfl⟩ := List.mem_map.mp ht
    obtain rfl := Option.some.inj ((hspecs n hn).symm.trans hs)
    apply Graph.isSupplied_of_hasParameter
    apply Spec.hasParameter_iff.mpr
    use q, hq

/-- A template that takes a path and an artifact. -/
def trimming : Template :=
  ⟨none, none, [], [⟨"main", [⟨"input_path", some "/data"⟩], [⟨"series", false⟩], ["series"]⟩]⟩

/-- The spec of a step that trims. The path must be supplied in spite of its default. -/
def trimmingSpec (n : Node) : Spec :=
  ⟨n.templateName, n.entrypoint, [⟨"input_path", some "/data", true⟩], [⟨"series", true⟩],
    ["series"]⟩

/-- Of two steps, the first is given a path and no artifact, the second an artifact and a
blank path. -/
def trimmingTwice : Graph where
  nodes := [⟨"a", "trim", "main", .ofList [("input_path", .literal "/tmp")]⟩,
    ⟨"b", "trim", "main",
      .ofList [("input_path", .literal " "), ("series", .reference ⟨"a", "series"⟩)]⟩]
  edges := [⟨"a", "b"⟩]

/-- A pipeline that has the template under every name and wants artifacts supplied. -/
def trimmer : Pipeline where
  catalog := ⟨.never, fun _ => .now (.ok trimming)⟩
  executor := ⟨fun _ => .never⟩
  settings := { PipelineSettings.default with artifactPolicy := .enforce }

theorem trimmer_report :
  ∃ c, (trimmer.analyze trimmingTwice).result
    = .ok (c, [⟨"a", "trim", "series", .artifact⟩, ⟨"b", "trim", "input_path", .parameter⟩])
  := by
  have hcheck : trimmingTwice.check = .ok () := by cbv
  have hspec : ∀ n ∈ trimmingTwice.nodes,
      (trimmer.spec n.templateName n.entrypoint).result = .ok (trimmingSpec n) := by
    intro n hn
    rcases List.mem_pair.mp hn with rfl | rfl <;> rfl
  obtain ⟨c, hanalyze, -⟩ := Pipeline.analyze_report (by simp [trimmingTwice]) hcheck hspec
  use c
  rw [hanalyze]
  cbv

end JobGraph
