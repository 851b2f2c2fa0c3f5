import JobGraph.Proofs.Manifest.Workflow
import JobGraph.Proofs.Pipeline.Emission
import JobGraph.Template.Folder

/-!
# What runs do with credentials

The credentials of a request show in the environment of its tasks and nowhere else: neither in
what is asked for, nor in an error, nor in the rest of a manifest. Credentials without an access
key do not show at all.
-/

namespace JobGraph

/-- No credentials, or credentials without an access key. -/
def Keyless (storage : Option StorageCredentials) : Prop :=
  ∀ credentials ∈ storage, credentials.accessKey = ""

/-! ### Environments -/

/-- Only an access key makes an environment. -/
theorem StorageCredentials.env_eq_nil_iff {c : StorageCredentials} {endpoint : String} :
  c.env endpoint = [] ↔ c.accessKey = ""
  := by
  rw [env]
  split
  case isTrue hkey => simp [hkey]
  case isFalse hkey => simp [hkey]

namespace Manifest

/-- The tasks of all templates of a manifest. -/
def tasks (m : Manifest) : List ManifestTask :=
  m.templates.flatMap ManifestTemplate.tasks

/-- The manifest with no environment for any task. -/
def withoutEnv (m : Manifest) : Manifest :=
  { m with templates := m.templates.map fun t =>
      { t with tasks := t.tasks.map fun task => { task with env := [] } } }

variable {settings : ManifestSettings} {storage storage' : Option StorageCredentials}
  {compiled : List Task}

theorem env_eq_nil_iff :
  env settings storage = [] ↔ Keyless storage
  := by
  cases storage with
  | none => simp [env, Keyless]
  | some credentials =>
    rw [env, StorageCredentials.env_eq_nil_iff]
    simp [Keyless]

theorem tasks_ofTasks :
  (ofTasks compiled settings storage).tasks
    = compiled.map fun task => task.manifestTask (env settings storage)
  := by
  apply List.flatMap_singleton

/-- Without the environments nothing of the credentials is left. -/
theorem withoutEnv_ofTasks :
  (ofTasks compiled settings storage).withoutEnv = ofTasks compiled settings none
  := by
  simp only [withoutEnv, ofTasks, List.map_cons, List.map_nil, List.map_map]
  rfl

/-- The credentials count only for the environment they make. -/
theorem ofTasks_congr (h : env settings storage = env settings storage') :
  ofTasks compiled settings storage = ofTasks compiled settings storage'
  := by
  rw [ofTasks, ofTasks, h]

end Manifest

/-! ### Runs -/

/-- Every graph that is analyzed has tasks. -/
theorem Graph.tasks_ne_nil_of_analyze {g : Graph} {catalog : Catalog}
    {settings : PipelineSettings} {c : CompiledGraph} {report : List Violation}
    (h : (g.analyze catalog settings).result = .ok (c, report)) :
  c.tasks ≠ []
  := by
  obtain ⟨_, haccept, -⟩ := Run.exists_of_bind h
  obtain ⟨templates, c₀, -, hcompile, rfl⟩ := exists_of_analyze h
  obtain ⟨spec, -, hlink⟩ := (accepted_of_analyze h).link_of_compile hcompile
  rw [hlink]
  apply mt List.map_eq_nil_iff.mp (nodes_ne_nil_of_accept haccept)

namespace Pipeline

/-- What is done with a manifest asks for no template. -/
theorem asked_run (p : Pipeline) (request : Request) :
  (p.run request).asked = (p.compile request.graph).asked
  := by
  apply Run.asked_bind
  intro c
  cases request.action <;> rfl

/-- Runs of one graph ask for the same templates whatever the credentials are. Either all of
them fail with one error, or each has a manifest: it is handed over by the run that submits,
and its text is returned by the run that downloads. These manifests differ in the environments
of the tasks only. All tasks of one manifest have the same environment, which is empty exactly
when there is no access key; all manifests without an access key are the same. -/
theorem run_storage (p : Pipeline) (g : Graph) :
  (∀ storage storage' action action',
      (p.run ⟨g, storage, action⟩).asked = (p.run ⟨g, storage', action'⟩).asked)
    ∧ ((∃ e, ∀ storage action, (p.run ⟨g, storage, action⟩).submitted = []
          ∧ (p.run ⟨g, storage, action⟩).result = .error e)
      ∨ ∃ manifest : Option StorageCredentials → Manifest,
        (∀ storage, (p.run ⟨g, storage, .submit⟩).submitted = [manifest storage]
          ∧ (p.run ⟨g, storage, .download⟩).submitted = []
          ∧ (p.run ⟨g, storage, .download⟩).result
            = .ok (.definition (manifest storage).toYaml))
        ∧ (∀ storage storage', (manifest storage).withoutEnv = (manifest storage').withoutEnv)
        ∧ (∀ storage, (manifest storage).tasks ≠ []
          ∧ ∃ env, (∀ t ∈ (manifest storage).tasks, t.env = env) ∧ (env = [] ↔ Keyless storage))
        ∧ ∀ storage storage', Keyless storage → Keyless storage' →
          manifest storage = manifest storage')
  := by
  constructor
  · intro storage storage' action action'
    rw [asked_run, asked_run]
  · obtain ⟨c, hvalid⟩ | ⟨e, hrefuses⟩ := p.valid_or_refuses g
    · right
      use c.manifest p.settings.manifest
      refine ⟨?_, ?_, ?_, ?_⟩
      · intro storage
        have hsubmit := (@submitted_run_iff p g storage .submit _).mpr ⟨rfl, c, hvalid, rfl⟩
        exact ⟨hsubmit, (run_of_valid hvalid).1, download_iff.mpr ⟨_, hsubmit, rfl⟩⟩
      · intro storage storage'
        rw [CompiledGraph.manifest, CompiledGraph.manifest, Manifest.withoutEnv_ofTasks,
          Manifest.withoutEnv_ofTasks]
      · intro storage
        rw [CompiledGraph.manifest, Manifest.tasks_ofTasks]
        constructor
        · apply mt List.map_eq_nil_iff.mp (Graph.tasks_ne_nil_of_analyze hvalid)
        · use Manifest.env p.settings.manifest storage
          refine ⟨?_, Manifest.env_eq_nil_iff⟩
          intro t ht
          obtain ⟨task, -, rfl⟩ := List.mem_map.mp ht
          rfl
      · intro storage storage' hstorage hstorage'
        apply Manifest.ofTasks_congr
        rw [Manifest.env_eq_nil_iff.mpr hstorage, Manifest.env_eq_nil_iff.mpr hstorage']
    · left
      use e
      intro storage action
      apply run_of_refuses hrefuses

end Pipeline

/-- A step that needs nothing. -/
def idling : Graph where
  nodes := [⟨"a", "idle", "main", .empty⟩]
  edges := []

/-- A template whose entrypoint needs nothing. -/
def idle : Template :=
  ⟨none, none, [], [⟨"main", [], [], []⟩]⟩

/-- A pipeline whose catalog is a directory with this template, and whose executor takes
everything. -/
def idler : Pipeline where
  catalog := TemplateFolder.catalog ⟨.ofList [("idle", idle)]⟩
  executor := ⟨fun _ => .now (.ok "job-1")⟩
  settings := .default

/-- The step that needs nothing has no violations. -/
theorem idling_valid :
  ∃ c, (idler.analyze idling).result = .ok (c, [])
  := by
  have haccept : idling.accept = .ok () := by cbv
  have htemplates : (idler.catalog.templates idler.settings idling.templateNames.names).result
      = .ok [("idle", idle)] := rfl
  have hassemble : idling.assemble [("idle", idle)] = .ok
      ⟨[⟨"a", ⟨"idle", "main"⟩, .empty, .empty, .empty⟩],
        .ofList [("a", ⟨"idle", "main", [], [], []⟩)]⟩ := by
    cbv
  exact ⟨_, Graph.analyze_eq_ok haccept htemplates hassemble⟩

/-- Credentials that lack the access key. -/
def secretOnly : StorageCredentials :=
  ⟨"", "secret", some "https://storage.example"⟩

theorem idler_hides_secret :
  ∃ m, (idler.run ⟨idling, some secretOnly, .submit⟩).submitted = [m]
    ∧ (idler.run ⟨idling, none, .submit⟩).submitted = [m]
    ∧ ∀ t ∈ m.tasks, t.env = []
  := by
  obtain ⟨c, hvalid⟩ := idling_valid
  obtain ⟨-, ⟨e, herror⟩ | ⟨manifest, hruns, -, henv, hkeyless⟩⟩ := idler.run_storage idling
  · have hsubmitted := (herror none .submit).1
    rw [(Pipeline.run_of_valid hvalid).1] at hsubmitted
    cases hsubmitted
  · have hsecret : Keyless (some secretOnly) := by simp [Keyless, secretOnly]
    have hnone : Keyless none := by simp [Keyless]
    obtain ⟨-, env, hsame, hempty⟩ := henv none
    refine ⟨manifest none, ?_, (hruns none).1, ?_⟩
    · rw [(hruns _).1, hkeyless _ _ hsecret hnone]
    · rw [← hempty.mpr hnone]
      apply hsame

end JobGraph
