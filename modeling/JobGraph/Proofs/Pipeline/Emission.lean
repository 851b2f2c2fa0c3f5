import JobGraph.Pipeline.Basic
import JobGraph.Proofs.Pipeline.Analysis

/-!
# What runs submit

A run submits a manifest only after an analysis without violations, and then exactly one. A
run of the same request that downloads returns the text of the manifest that would have been
submitted, and where nothing is submitted both runs fail with one error.
-/

namespace JobGraph

/-- An analysis submits nothing. -/
theorem Graph.submitted_analyze {g : Graph} {catalog : Catalog} {settings : PipelineSettings} :
  (g.analyze catalog settings).submitted = []
  := by
  apply Run.submitted_bind rfl
  intro _
  apply Run.submitted_bind rfl
  intro templates
  apply Run.submitted_bind rfl
  intro c
  rfl

namespace Pipeline

variable {p : Pipeline} {g : Graph} {storage : Option StorageCredentials} {action : Action}

/-- The analysis of a graph fails with this error, or finds violations that make it up. -/
def Refuses (p : Pipeline) (g : Graph) (e : Error) : Prop :=
  (p.analyze g).result = .error e
    ∨ ∃ c report, (p.analyze g).result = .ok (c, report) ∧ report ≠ []
      ∧ e = .validationFailed (report.map Violation.message)

/-- An analysis has no violations, or the graph is refused. -/
theorem valid_or_refuses (p : Pipeline) (g : Graph) :
  (∃ c, (p.analyze g).result = .ok (c, [])) ∨ ∃ e, p.Refuses g e
  := by
  cases h : (p.analyze g).result with
  | error e =>
    right
    use e, .inl h
  | ok analysis =>
    obtain ⟨c, report⟩ := analysis
    cases report with
    | nil =>
      left
      use c
    | cons v report =>
      right
      use .validationFailed ((v :: report).map Violation.message)
      right
      use c, v :: report, h, List.cons_ne_nil v report

theorem Refuses.not_valid {e : Error} (h : p.Refuses g e) {c : CompiledGraph} :
  (p.analyze g).result ≠ .ok (c, [])
  := by
  intro hvalid
  obtain herror | ⟨c', report, hreport, hne, -⟩ := h
  · rw [hvalid] at herror
    cases herror
  · rw [hvalid] at hreport
    cases hreport
    apply hne rfl

/-! ### Compilation -/

/-- A graph without violations is compiled to what was analyzed. -/
theorem compile_of_valid {c : CompiledGraph} (h : (p.analyze g).result = .ok (c, [])) :
  (p.compile g).submitted = [] ∧ (p.compile g).result = .ok c
  := by
  have hanalyze : (g.analyze p.catalog p.settings).result = .ok (c, []) := h
  rw [compile, Graph.compileValid, Run.bind_of_ok hanalyze, Graph.submitted_analyze]
  constructor <;> rfl

/-- A graph that is refused is not compiled. -/
theorem compile_of_refuses {e : Error} (h : p.Refuses g e) :
  (p.compile g).submitted = [] ∧ (p.compile g).result = .error e
  := by
  rw [compile, Graph.compileValid]
  obtain herror | ⟨c, report, hreport, hne, rfl⟩ := h
  · have hanalyze : (g.analyze p.catalog p.settings).result = .error e := herror
    rw [Run.bind_of_error hanalyze, Graph.submitted_analyze]
    constructor <;> rfl
  · have hanalyze : (g.analyze p.catalog p.settings).result = .ok (c, report) := hreport
    have hreject : (Run.ofResult (reportResult report)).result
        = .error (.validationFailed (report.map Violation.message)) := by
      rw [Run.ofResult, reportResult, if_neg (by simpa using hne)]
    rw [Run.bind_of_ok hanalyze, Graph.submitted_analyze]
    simp only [Run.bind_of_error hreject, and_true]
    rfl

/-! ### Runs -/

/-- After an analysis without violations a run does what it is asked with the manifest. -/
theorem run_of_valid {c : CompiledGraph} (h : (p.analyze g).result = .ok (c, [])) :
  (p.run ⟨g, storage, action⟩).submitted
      = (p.emit action (c.manifest p.settings.manifest storage)).submitted
    ∧ (p.run ⟨g, storage, action⟩).result
      = (p.emit action (c.manifest p.settings.manifest storage)).result
  := by
  obtain ⟨hsubmitted, hresult⟩ := compile_of_valid h
  rw [run, Run.bind_of_ok hresult, hsubmitted]
  constructor <;> rfl

/-- A run of a graph that is refused submits nothing, whatever it is asked. -/
theorem run_of_refuses {e : Error} (h : p.Refuses g e) :
  (p.run ⟨g, storage, action⟩).submitted = [] ∧ (p.run ⟨g, storage, action⟩).result = .error e
  := by
  obtain ⟨hsubmitted, hresult⟩ := compile_of_refuses h
  rw [run, Run.bind_of_error hresult, hsubmitted]
  constructor <;> rfl

/-- A run submits a manifest exactly when it is asked to and the analysis has no violations,
and then it is the manifest of the graph that was analyzed. -/
theorem submitted_run_iff {m : Manifest} :
  (p.run ⟨g, storage, action⟩).submitted = [m]
    ↔ action = .submit ∧ ∃ c, (p.analyze g).result = .ok (c, [])
      ∧ m = c.manifest p.settings.manifest storage
  := by
  obtain ⟨c, hvalid⟩ | ⟨e, hrefuses⟩ := p.valid_or_refuses g
  · rw [(run_of_valid hvalid).1]
    cases action with
    | download => simp [emit, Run.ofResult]
    | submit => simp [emit, submit, hvalid, eq_comm]
  · rw [(run_of_refuses hrefuses).1]
    simp [hrefuses.not_valid]

/-- A run submits nothing, or one manifest. -/
theorem submitted_run_cases (p : Pipeline) (g : Graph) (storage : Option StorageCredentials)
    (action : Action) :
  (p.run ⟨g, storage, action⟩).submitted = [] ∨ ∃ m, (p.run ⟨g, storage, action⟩).submitted = [m]
  := by
  obtain ⟨c, hvalid⟩ | ⟨e, hrefuses⟩ := p.valid_or_refuses g
  · rw [(run_of_valid hvalid).1]
    cases action with
    | download =>
      left
      rfl
    | submit =>
      right
      use c.manifest p.settings.manifest storage
      rfl
  · left
    apply (run_of_refuses hrefuses).1

/-- A download returns the text of the manifest that a submission hands over. -/
theorem download_iff {yaml : String} :
  (p.run ⟨g, storage, .download⟩).result = .ok (.definition yaml)
    ↔ ∃ m, (p.run ⟨g, storage, .submit⟩).submitted = [m] ∧ yaml = m.toYaml
  := by
  obtain ⟨c, hvalid⟩ | ⟨e, hrefuses⟩ := p.valid_or_refuses g
  · rw [(run_of_valid hvalid).1, (run_of_valid hvalid).2]
    simp [emit, submit, Run.ofResult, eq_comm]
  · rw [(run_of_refuses hrefuses).1, (run_of_refuses hrefuses).2]
    simp

/-- The result of a submission is the executor's reply, or a failure when its time is over. -/
theorem result_of_submitted {m : Manifest}
    (h : (p.run ⟨g, storage, .submit⟩).submitted = [m]) :
  (p.run ⟨g, storage, .submit⟩).result
    = ((p.executor.submit m).within p.settings.executorTimeout
        (submissionTimeout p.settings)).result.map .submitted
  := by
  obtain ⟨-, c, hvalid, rfl⟩ := submitted_run_iff.mp h
  apply (run_of_valid hvalid).2

/-- A run submits at most one manifest, and it submits one exactly when it is asked to and the
analysis has no violations: the manifest of the graph compiled from the templates found and
linked. The executor's reply in time is the result, and the expiry of its time a failure. The
run that downloads returns the text of this manifest in the same cases. In all other cases
both runs fail with the error of the analysis or with the messages of all violations. -/
theorem run_submits_valid (p : Pipeline) (g : Graph) (storage : Option StorageCredentials) :
  (∀ action, (p.run ⟨g, storage, action⟩).submitted.length ≤ 1)
    ∧ (∀ action, (p.run ⟨g, storage, action⟩).submitted ≠ []
        ↔ action = .submit ∧ ∃ c, (p.analyze g).result = .ok (c, []))
    ∧ (∀ m, (p.run ⟨g, storage, .submit⟩).submitted = [m] →
        (∃ templates c,
          (p.catalog.templates p.settings g.templateNames.names).result = .ok templates
            ∧ (g.compile .empty (resolveAmong templates)).1 = .ok c
            ∧ (p.analyze g).result = .ok (c.link g, [])
            ∧ m = (c.link g).manifest p.settings.manifest storage)
        ∧ (∀ delay reply, p.executor.submit m = .after delay reply →
            delay.nanoseconds ≤ p.settings.executorTimeout.nanoseconds →
            (p.run ⟨g, storage, .submit⟩).result = reply.map .submitted)
        ∧ ((∀ delay reply, p.executor.submit m = .after delay reply →
              p.settings.executorTimeout.nanoseconds < delay.nanoseconds) →
            (p.run ⟨g, storage, .submit⟩).result = .error (.submissionFailed
              ("submission timed out after " ++ p.settings.executorTimeout.text ++ "s"))))
    ∧ (∀ yaml, (p.run ⟨g, storage, .download⟩).result = .ok (.definition yaml)
        ↔ ∃ m, (p.run ⟨g, storage, .submit⟩).submitted = [m] ∧ yaml = m.toYaml)
    ∧ ((p.run ⟨g, storage, .submit⟩).submitted = [] →
        ∃ e, (∀ action, (p.run ⟨g, storage, action⟩).result = .error e)
          ∧ ((p.analyze g).result = .error e
            ∨ ∃ c report, (p.analyze g).result = .ok (c, report) ∧ report ≠ []
              ∧ e = .validationFailed (report.map Violation.message)))
  := by
  refine ⟨?_, ?_, ?_, fun _ => download_iff, ?_⟩
  · intro action
    obtain h | ⟨m, h⟩ := p.submitted_run_cases g storage action <;> simp [h]
  · intro action
    constructor
    · intro hne
      obtain ⟨m, h⟩ := (p.submitted_run_cases g storage action).resolve_left hne
      obtain ⟨haction, c, hvalid, -⟩ := submitted_run_iff.mp h
      use haction, c
    · rintro ⟨haction, c, hvalid⟩
      rw [(@submitted_run_iff p g storage action _).mpr ⟨haction, c, hvalid, rfl⟩]
      apply List.cons_ne_nil
  · intro m hm
    refine ⟨?_, ?_, ?_⟩
    · obtain ⟨-, c, hvalid, rfl⟩ := submitted_run_iff.mp hm
      obtain ⟨templates, c₀, htemplates, hcompile, rfl⟩ := Graph.exists_of_analyze hvalid
      use templates, c₀
    · intro delay reply hreply hle
      rw [result_of_submitted hm, hreply, Reply.within, if_pos hle]
    · intro hlate
      rw [result_of_submitted hm]
      cases hreply : p.executor.submit m with
      | never => rfl
      | after delay reply =>
        rw [Reply.within, if_neg (Nat.not_le.mpr (hlate delay reply hreply))]
        rfl
  · intro hnone
    obtain ⟨c, hvalid⟩ | ⟨e, hrefuses⟩ := p.valid_or_refuses g
    · have hm := (@submitted_run_iff p g storage .submit _).mpr ⟨rfl, c, hvalid, rfl⟩
      rw [hnone] at hm
      cases hm
    · exact ⟨e, fun _ => (run_of_refuses hrefuses).2, hrefuses⟩

end Pipeline

/-- A step that is given a path. -/
def trimmingOnce : Graph where
  nodes := [⟨"a", "trim", "main", .ofList [("input_path", .literal "/tmp")]⟩]
  edges := []

/-- A pipeline whose executor takes everything. -/
def submitter : Pipeline where
  catalog := trimmer.catalog
  executor := ⟨fun _ => .now (.ok "job-1")⟩
  settings := .default

theorem submitter_submits :
  ∃ m, (submitter.run ⟨trimmingOnce, none, .submit⟩).submitted = [m]
    ∧ (submitter.run ⟨trimmingOnce, none, .submit⟩).result = .ok (.submitted "job-1")
    ∧ (submitter.run ⟨trimmingOnce, none, .download⟩).result = .ok (.definition m.toYaml)
  := by
  obtain ⟨-, hiff, hsubmitted, hdownload, -⟩ := submitter.run_submits_valid trimmingOnce none
  have haccept : trimmingOnce.accept = .ok () := by cbv
  have htemplates : (submitter.catalog.templates submitter.settings
      trimmingOnce.templateNames.names).result = .ok [("trim", trimming)] := rfl
  have hassemble : trimmingOnce.assemble [("trim", trimming)] = .ok
      ⟨[⟨"a", ⟨"trim", "main"⟩, .ofList [("input_path", "/tmp")], .empty, .empty⟩],
        .ofList [("a", ⟨"trim", "main", [⟨"input_path", some "/data", true⟩], [⟨"series", true⟩],
          ["series"]⟩)]⟩ := by
    cbv
  have hanalyze := Graph.analyze_eq_ok haccept htemplates hassemble
  have hne := (hiff .submit).mpr ⟨rfl, _, hanalyze⟩
  obtain ⟨m, hm⟩ := (submitter.submitted_run_cases trimmingOnce none .submit).resolve_left hne
  refine ⟨m, hm, ?_, (hdownload _).mpr ⟨m, hm, rfl⟩⟩
  apply (hsubmitted m hm).2.1 .zero (.ok "job-1") rfl
  decide
end JobGraph
