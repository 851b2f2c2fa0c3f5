import JobGraph.Proofs.Pipeline.Analysis
import JobGraph.Proofs.Text.ByteOrder

/-!
# What is asked of a catalog

An analysis asks for nothing before the graph is accepted, and then for each template that the
nodes use at most once, in the order of the names. The templates fetched are those that the
compilation looks for, so it fails only for an entrypoint that its template lacks. When every
answer is there at once, the first failure in the order of the names ends the asking.
-/

namespace JobGraph

variable {g : Graph} {catalog : Catalog} {settings : PipelineSettings}

theorem Graph.mem_templateNames {name : String} :
  name ∈ g.templateNames.names ↔ ∃ n ∈ g.nodes, n.templateName = name
  := by
  change name ∈ g.templateNames ↔ _
  rw [templateNames, NameSet.mem_ofList, List.mem_map]

/-- Of names in order, those up to one of them are those that are not behind it. -/
theorem mem_append_singleton_iff {names before after : List String} {name other : String}
    (hsorted : names.Pairwise (· < ·)) (hnames : names = before ++ name :: after) :
  other ∈ before ++ [name] ↔ other ∈ names ∧ ¬ name < other
  := by
  subst hnames
  obtain ⟨-, hrest, hcross⟩ := List.pairwise_append.mp hsorted
  simp only [List.mem_append, List.mem_cons, List.not_mem_nil, or_false]
  constructor
  · rintro (hbefore | rfl)
    · have hlt := hcross other hbefore name List.mem_cons_self
      exact ⟨.inl hbefore, String.lt_asymm hlt⟩
    · exact ⟨.inr (.inl rfl), String.lt_irrefl _⟩
  · rintro ⟨hbefore | rfl | hafter, hnot⟩
    · left
      apply hbefore
    · right
      rfl
    · apply absurd ((List.pairwise_cons.mp hrest).1 other hafter) hnot

namespace Catalog

/-- The templates that are asked for stand first. -/
theorem asked_templates_isPrefix (catalog : Catalog) (settings : PipelineSettings)
    (names : List String) :
  (catalog.templates settings names).asked <+: names
  := Reply.gather_isPrefix _ _

/-- The joint error of templates is that of one of them. -/
theorem exists_of_templates_error {names : List String} {e : Error}
    (h : (catalog.templates settings names).result = .error e) :
  ∃ name ∈ names, (catalog.fetchCall settings name).result = .error e
  := by
  apply Reply.exists_of_gather
  change (Reply.gather (catalog.fetchCall settings) names).2.map _ = .error e at h
  cases hgather : (Reply.gather (catalog.fetchCall settings) names).2 with
  | ok found =>
    rw [hgather] at h
    cases h
  | error e' =>
    rw [hgather] at h
    cases h
    rfl

/-- Templates that are there were all found. -/
theorem exists_found_of_templates {names : List String} {templates : List (String × Template)}
    (h : (catalog.templates settings names).result = .ok templates) :
  ∃ found : String → Template,
    (∀ name ∈ names, (catalog.fetchCall settings name).result = .ok (found name))
      ∧ templates = names.map fun name => (name, found name)
  := by
  have hok : ∀ name ∈ names, ∃ t, (catalog.fetchCall settings name).result = .ok t := by
    change (Reply.gather (catalog.fetchCall settings) names).2.map _ = .ok templates at h
    cases hgather : (Reply.gather (catalog.fetchCall settings) names).2 with
    | error e =>
      rw [hgather] at h
      cases h
    | ok results =>
      have hboth : List.Forall₂ (fun name t =>
          (∃ t, (catalog.fetchCall settings name).result = .ok t)
            ∧ (catalog.fetchCall settings name).result = .ok t) names results := by
        apply (Reply.forall₂_of_gather hgather).imp
        intro name t ht
        exact ⟨⟨t, ht⟩, ht⟩
      apply ((List.forall₂_and_left _ _).mp hboth).1
  have : Nonempty Template := ⟨⟨none, none, [], []⟩⟩
  choose! found hfound using hok
  use found, hfound
  rw [templates_eq hfound] at h
  apply (Except.ok.inj h).symm

/-- An answer without delay is there in time. -/
theorem fetchCall_of_now {name : String} {answer : Except Error Template}
    (h : catalog.fetch name = .now answer) :
  catalog.fetchCall settings name = ⟨.zero, answer⟩
  := by
  simp [fetchCall, h, Reply.now, Reply.within, Duration.zero]

end Catalog

namespace Pipeline

variable {p : Pipeline}

/-- The names that an analysis asks for stand first among those of the templates in use. -/
theorem asked_analyze_isPrefix (p : Pipeline) (g : Graph) :
  (p.analyze g).asked <+: g.templateNames.names
  := by
  rw [analyze]
  cases haccept : g.accept with
  | ok =>
    rw [Graph.asked_analyze haccept]
    apply Catalog.asked_templates_isPrefix
  | error e =>
    rw [Graph.analyze_of_refused haccept]
    apply List.nil_prefix

/-- The templates of all nodes are those of all names in use. -/
theorem found_of_names {found : String → Template}
    (hfound : ∀ n ∈ g.nodes,
      (p.catalog.fetchCall p.settings n.templateName).result = .ok (found n.templateName)) :
  ∀ name ∈ g.templateNames.names, (p.catalog.fetchCall p.settings name).result = .ok (found name)
  := by
  intro name hname
  obtain ⟨n, hn, rfl⟩ := Graph.mem_templateNames.mp hname
  apply hfound n hn

/-- When every template in use is found and offers the entrypoints of its nodes, the analysis
has a result. -/
theorem exists_of_found {found : String → Template} (hnodes : g.nodes ≠ [])
    (hcheck : g.check = .ok ())
    (hfound : ∀ n ∈ g.nodes,
      (p.catalog.fetchCall p.settings n.templateName).result = .ok (found n.templateName))
    (hoffered : ∀ n ∈ g.nodes, n.entrypoint ∈ (found n.templateName).entrypoints) :
  ∃ c report, (p.analyze g).result = .ok (c, report)
  := by
  have hspec : ∀ n ∈ g.nodes, ∃ spec,
      (p.spec n.templateName n.entrypoint).result = .ok spec := by
    intro n hn
    obtain ⟨spec, hspec⟩ := Template.exists_resolve_iff.mpr (hoffered n hn)
    use spec
    have htemplate : (p.catalog.template p.settings n.templateName).result
        = .ok (found n.templateName) := hfound n hn
    rw [Pipeline.spec, Run.bind_of_ok htemplate]
    apply hspec
  have : Nonempty Spec := ⟨⟨"", "", [], [], []⟩⟩
  choose! spec hspec using hspec
  exact ⟨_, _, Pipeline.analyze_eq_ok (Graph.check_iff_accepted.mp hcheck) hnodes hspec⟩

/-- When every template in use is found, the first node whose entrypoint its template lacks
makes the analysis fail. -/
theorem analyze_eq_error_of_lacking {found : String → Template} {before after : List Node}
    {n : Node} (hcheck : g.check = .ok ())
    (hfound : ∀ m ∈ g.nodes,
      (p.catalog.fetchCall p.settings m.templateName).result = .ok (found m.templateName))
    (hnodes : g.nodes = before ++ n :: after)
    (hbefore : ∀ m ∈ before, m.entrypoint ∈ (found m.templateName).entrypoints)
    (hlacking : n.entrypoint ∉ (found n.templateName).entrypoints) :
  (p.analyze g).result = .error (.entrypointNotFound n.templateName n.entrypoint)
  := by
  have haccept : g.accept = .ok () := by
    apply Graph.accept_eq_ok _ hcheck
    rw [hnodes]
    apply List.append_ne_nil_of_right_ne_nil _ (List.cons_ne_nil _ _)
  have htemplates := Catalog.templates_eq (found_of_names hfound)
  have hresolve : ∀ m ∈ g.nodes,
      SpecCache.empty.answer (resolveAmong (g.templateNames.names.map fun name =>
        (name, found name))) m.specKey
      = (found m.templateName).resolve m.templateName m.entrypoint := by
    intro m hm
    rw [SpecCache.answer_empty]
    apply resolveAmong_eq (Graph.mem_templateNames.mpr ⟨m, hm, rfl⟩)
  apply Graph.analyze_eq_error_of_compile haccept htemplates
  apply Graph.compile_eq_error hnodes
  · intro m hm
    rw [hresolve m (by simp [hnodes, hm])]
    apply Template.exists_resolve_iff.mpr (hbefore m hm)
  · rw [hresolve n (by simp [hnodes])]
    apply Template.resolve_eq_error hlacking

/-- When every answer is there at once and not all are templates, the first failure in the
order of the names is the error, and no later name is asked for. -/
theorem exists_first_failure {answer : String → Except Error Template} (hnodes : g.nodes ≠ [])
    (hcheck : g.check = .ok ())
    (hanswer : ∀ n ∈ g.nodes, p.catalog.fetch n.templateName = .now (answer n.templateName))
    (hfailure : ∃ n ∈ g.nodes, ∃ e, answer n.templateName = .error e) :
  ∃ before name after e, g.templateNames.names = before ++ name :: after
    ∧ (∀ other ∈ before, ∃ t, answer other = .ok t) ∧ answer name = .error e
    ∧ (p.analyze g).asked = before ++ [name] ∧ (p.analyze g).result = .error e
  := by
  have haccept := Graph.accept_eq_ok hnodes hcheck
  have hcall : ∀ name ∈ g.templateNames.names,
      p.catalog.fetchCall p.settings name = ⟨.zero, answer name⟩ := by
    intro name hname
    obtain ⟨n, hn, rfl⟩ := Graph.mem_templateNames.mp hname
    apply Catalog.fetchCall_of_now (hanswer n hn)
  obtain hall | ⟨before, name, after, e, hnames, hbefore, herror⟩ :=
    ok_or_first answer g.templateNames.names
  · obtain ⟨n, hn, e, he⟩ := hfailure
    obtain ⟨t, ht⟩ := hall n.templateName (Graph.mem_templateNames.mpr ⟨n, hn, rfl⟩)
    rw [he] at ht
    cases ht
  · have hgather : Reply.gather (p.catalog.fetchCall p.settings) g.templateNames.names
        = (before ++ [name], .error e) := by
      rw [hnames]
      apply Reply.gather_append
      · intro other hother
        obtain ⟨t, ht⟩ := hbefore other hother
        use t
        rw [hcall other (by simp [hnames, hother]), ht]
      · rw [hcall name (by simp [hnames]), herror]
    have htemplates : p.catalog.templates p.settings g.templateNames.names
        = ⟨before ++ [name], [], .error e⟩ := by
      rw [Catalog.templates, hgather]
      rfl
    use before, name, after, e, hnames, hbefore, herror
    rw [analyze, Graph.asked_analyze haccept, htemplates]
    refine ⟨rfl, ?_⟩
    apply Graph.analyze_eq_error_of_templates haccept
    rw [htemplates]

/-- What is asked for is in use. -/
theorem exists_node_of_asked {name : String} (h : name ∈ (p.analyze g).asked) :
  ∃ n ∈ g.nodes, n.templateName = name
  := Graph.mem_templateNames.mp ((p.asked_analyze_isPrefix g).subset h)

/-- Names are asked for in the order of their bytes. -/
theorem pairwise_asked (p : Pipeline) (g : Graph) :
  (p.analyze g).asked.Pairwise fun a b => Text.utf8 a.toList < Text.utf8 b.toList
  := by
  apply List.Pairwise.sublist (p.asked_analyze_isPrefix g).sublist
  apply g.templateNames.sorted.imp
  intro a b hlt
  apply Text.utf8_lt_iff.mpr hlt

/-- When every template in use is found, the analysis asks for each of their names once. -/
theorem asked_of_found {found : String → Template} (hnodes : g.nodes ≠ [])
    (hcheck : g.check = .ok ())
    (hfound : ∀ n ∈ g.nodes,
      (p.catalog.fetchCall p.settings n.templateName).result = .ok (found n.templateName)) :
  (p.analyze g).asked = g.templateNames.names
  := by
  rw [analyze, Graph.asked_analyze (Graph.accept_eq_ok hnodes hcheck), Catalog.templates,
    Reply.gather_eq (found_of_names hfound)]

/-- An analysis fails because the graph is not accepted, with the error of a template, or for
an entrypoint that its template lacks. -/
theorem analyze_error_cases {e : Error} (h : (p.analyze g).result = .error e) :
  g.accept = .error e ∨ g.accept = .ok ()
    ∧ ((∃ n ∈ g.nodes, (p.catalog.fetchCall p.settings n.templateName).result = .error e)
      ∨ ∃ n ∈ g.nodes, ∃ t, (p.catalog.fetchCall p.settings n.templateName).result = .ok t
        ∧ n.entrypoint ∉ t.entrypoints
        ∧ e = .entrypointNotFound n.templateName n.entrypoint)
  := by
  obtain haccept | ⟨haccept, htemplates | ⟨templates, htemplates, hcompile⟩⟩ :=
    Graph.analyze_error_cases h
  · left
    apply haccept
  · obtain ⟨name, hname, he⟩ := Catalog.exists_of_templates_error htemplates
    obtain ⟨n, hn, rfl⟩ := Graph.mem_templateNames.mp hname
    right
    use haccept
    left
    use n, hn, he
  · obtain ⟨found, hfound, rfl⟩ := Catalog.exists_found_of_templates htemplates
    have haccepted := Graph.check_iff_accepted.mp (Graph.check_of_accept haccept)
    obtain ⟨n, hn, hresolve⟩ := haccepted.exists_of_compile_error hcompile
    have hname : n.templateName ∈ g.templateNames.names := Graph.mem_templateNames.mpr ⟨n, hn, rfl⟩
    rw [SpecCache.answer_empty, resolveAmong_eq hname] at hresolve
    right
    use haccept
    right
    use n, hn, found n.templateName, hfound n.templateName hname
    have hlacking : n.entrypoint ∉ (found n.templateName).entrypoints := by
      intro hoffered
      obtain ⟨spec, hspec⟩ := (@Template.exists_resolve_iff _ n.templateName _).mpr hoffered
      cases hresolve.symm.trans hspec
    use hlacking
    apply Except.error.inj (hresolve.symm.trans (Template.resolve_eq_error hlacking))

/-- An analysis asks for nothing before the graph is accepted, and then for names of templates
in use, each at most once and in the order of their bytes. When all templates are found, each
was asked for once, they are the ones that the compilation looks for, and only the first node
whose entrypoint its template lacks makes the analysis fail. When all answers are there at
once and some are failures, the first one in the order of bytes is the error, and no later
name is asked for. -/
theorem analyze_fetches (p : Pipeline) (g : Graph) :
  ((g.nodes = [] ∨ g.check ≠ .ok ()) → (p.analyze g).asked = [])
    ∧ (∀ name ∈ (p.analyze g).asked, ∃ n ∈ g.nodes, n.templateName = name)
    ∧ ((p.analyze g).asked.Pairwise fun a b => Text.utf8 a.toList < Text.utf8 b.toList)
    ∧ (g.nodes ≠ [] → g.check = .ok () →
      (∀ found : String → Template,
        (∀ n ∈ g.nodes,
          (p.catalog.fetchCall p.settings n.templateName).result = .ok (found n.templateName)) →
        (∀ n ∈ g.nodes, (p.analyze g).asked.count n.templateName = 1)
          ∧ (∃ templates, (p.catalog.templates p.settings g.templateNames.names).result
              = .ok templates
            ∧ ∀ n ∈ g.nodes, templates.lookup n.templateName = some (found n.templateName))
          ∧ (∀ name, (p.analyze g).result ≠ .error (.templateNotFound name))
          ∧ ((∀ n ∈ g.nodes, n.entrypoint ∈ (found n.templateName).entrypoints) →
            ∃ c report, (p.analyze g).result = .ok (c, report))
          ∧ ∀ before n after, g.nodes = before ++ n :: after →
            (∀ m ∈ before, m.entrypoint ∈ (found m.templateName).entrypoints) →
            n.entrypoint ∉ (found n.templateName).entrypoints →
            (p.analyze g).result = .error (.entrypointNotFound n.templateName n.entrypoint))
      ∧ ∀ answer : String → Except Error Template,
        (∀ n ∈ g.nodes, p.catalog.fetch n.templateName = .now (answer n.templateName)) →
        (∃ n ∈ g.nodes, ∃ e, answer n.templateName = .error e) →
        ∃ n ∈ g.nodes, ∃ e, answer n.templateName = .error e
          ∧ (∀ m ∈ g.nodes,
            Text.utf8 m.templateName.toList < Text.utf8 n.templateName.toList →
            ∃ t, answer m.templateName = .ok t)
          ∧ (p.analyze g).result = .error e
          ∧ ∀ name, name ∈ (p.analyze g).asked ↔ (∃ m ∈ g.nodes, m.templateName = name)
            ∧ ¬ Text.utf8 n.templateName.toList < Text.utf8 name.toList)
  := by
  refine ⟨?_, fun _ => exists_node_of_asked, p.pairwise_asked g, ?_⟩
  · intro hrefused
    obtain ⟨e, haccept⟩ := Graph.exists_of_refused hrefused
    rw [analyze, Graph.analyze_of_refused haccept]
  · intro hnodes hcheck
    constructor
    · intro found hfound
      refine ⟨?_, ?_, ?_, exists_of_found hnodes hcheck hfound, ?_⟩
      · intro n hn
        rw [asked_of_found hnodes hcheck hfound]
        apply List.count_eq_one_of_mem g.templateNames.nodup_names
        apply Graph.mem_templateNames.mpr ⟨n, hn, rfl⟩
      · refine ⟨_, Catalog.templates_eq (found_of_names hfound), ?_⟩
        intro n hn
        apply lookup_templates (Graph.mem_templateNames.mpr ⟨n, hn, rfl⟩)
      · intro name herror
        obtain haccept | ⟨-, ⟨n, hn, he⟩ | ⟨n, -, -, -, -, he⟩⟩ := analyze_error_cases herror
        · rw [Graph.accept_eq_ok hnodes hcheck] at haccept
          cases haccept
        · rw [hfound n hn] at he
          cases he
        · cases he
      · intro before n after
        apply analyze_eq_error_of_lacking hcheck hfound
    · intro answer hanswer hfailure
      obtain ⟨before, name, after, e, hnames, hbefore, herror, hasked, hresult⟩ :=
        exists_first_failure hnodes hcheck hanswer hfailure
      have hasked_iff : ∀ other, other ∈ (p.analyze g).asked
          ↔ other ∈ g.templateNames.names ∧ ¬ name < other := by
        intro other
        rw [hasked, ← mem_append_singleton_iff g.templateNames.sorted hnames]
      have hname : name ∈ g.templateNames.names := by simp [hnames]
      obtain ⟨n, hn, rfl⟩ := Graph.mem_templateNames.mp hname
      refine ⟨n, hn, e, herror, ?_, hresult, ?_⟩
      · intro m hm hlt
        have hlt := Text.utf8_lt_iff.mp hlt
        have hmem := (hasked_iff m.templateName).mpr
          ⟨Graph.mem_templateNames.mpr ⟨m, hm, rfl⟩, String.lt_asymm hlt⟩
        rw [hasked] at hmem
        obtain hmem | hmem := List.mem_append.mp hmem
        · apply hbefore _ hmem
        · rw [List.mem_singleton.mp hmem] at hlt
          apply absurd hlt (String.lt_irrefl _)
      · intro other
        rw [hasked_iff, Graph.mem_templateNames, Text.utf8_lt_iff]

end Pipeline

/-- A pipeline that has the template under every name but two. -/
def sparseTrimmer : Pipeline where
  catalog := ⟨.never, fun name =>
    .now (if name ∈ ["stretch", "widen"] then .error (.templateNotFound name) else .ok trimming)⟩
  executor := ⟨fun _ => .never⟩
  settings := .default

/-- Steps of several templates, not in the order of their names. -/
def severalTemplates : Graph where
  nodes := ["widen", "trim", "stretch", "crop"].map fun name => ⟨name, name, "main", .empty⟩
  edges := [⟨"trim", "crop"⟩]

theorem sparseTrimmer_asks :
  (sparseTrimmer.analyze severalTemplates).result = .error (.templateNotFound "stretch")
    ∧ "stretch" ∈ (sparseTrimmer.analyze severalTemplates).asked
    ∧ "widen" ∉ (sparseTrimmer.analyze severalTemplates).asked
    ∧ (trimmer.analyze severalTemplates).asked.count "trim" = 1
    ∧ ∃ c report, (trimmer.analyze severalTemplates).result = .ok (c, report)
  := by
  have hnodes : severalTemplates.nodes ≠ [] := List.cons_ne_nil _ _
  have hcheck : severalTemplates.check = .ok () := by cbv
  have hmem : ∀ name ∈ ["widen", "trim", "stretch", "crop"],
      ⟨name, name, "main", .empty⟩ ∈ severalTemplates.nodes := by
    intro name hname
    apply List.mem_map.mpr ⟨name, hname, rfl⟩
  obtain ⟨-, -, -, hsparse⟩ := sparseTrimmer.analyze_fetches severalTemplates
  obtain ⟨-, -, -, hfull⟩ := trimmer.analyze_fetches severalTemplates
  obtain ⟨-, hfailing⟩ := hsparse hnodes hcheck
  obtain ⟨hfound, -⟩ := hfull hnodes hcheck
  obtain ⟨n, hn, e, he, hbefore, hresult, hasked⟩ := hfailing
    (fun name => if name ∈ ["stretch", "widen"] then .error (.templateNotFound name)
      else .ok trimming) (fun n _ => rfl) ⟨_, hmem "stretch" (by decide), _, rfl⟩
  obtain ⟨hcount, -, -, hresults, -⟩ := hfound (fun _ => trimming) (fun n _ => rfl)
  have hfirst : n.templateName = "stretch" := by
    obtain ⟨name, hname, rfl⟩ := List.mem_map.mp hn
    fin_cases hname
    · obtain ⟨t, ht⟩ := hbefore _ (hmem "stretch" (by decide)) (by decide)
      cases ht
    · cases he
    · rfl
    · cases he
  rw [hfirst] at he hasked
  cases he
  refine ⟨hresult, ?_, ?_, ?_, ?_⟩
  · apply (hasked "stretch").mpr
    exact ⟨⟨_, hmem "stretch" (by decide), rfl⟩, by decide⟩
  · rw [hasked]
    rintro ⟨-, hnot⟩
    apply hnot (by decide)
  · apply hcount _ (hmem "trim" (by decide))
  · apply hresults
    intro n hn
    obtain ⟨name, -, rfl⟩ := List.mem_map.mp hn
    apply List.mem_singleton_self

end JobGraph
