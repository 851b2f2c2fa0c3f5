import JobGraph.Manifest.Document
import JobGraph.Pipeline.Analysis
import JobGraph.Request.Basic

/-!
# The pipeline from requests to workflows

A request is run by compiling its graph and doing with the manifest what the request asks
for: its definition is returned, or it is given to the executor. A pipeline also answers what
templates there are and what their entrypoints need.
-/

namespace JobGraph

/-- The services and settings of runs. -/
structure Pipeline where
  catalog : Catalog
  executor : Executor
  settings : PipelineSettings

/-- What comes of a request. -/
inductive Emission where
  /-- The definition of the workflow in YAML. -/
  | definition (yaml : String)
  /-- The name of the workflow that the executor was given. -/
  | submitted (id : String)
deriving DecidableEq, Repr

/-- What the browser of templates shows of a template. -/
structure Summary where
  name : String
  entrypoints : List String
  defaultEntrypoint : Option String
deriving DecidableEq, Repr

/-- The summary of a template that is filed under `name`. -/
def Template.summary (name : String) (t : Template) : Summary :=
  ⟨name, t.entrypoints, t.defaultEntrypoint⟩

namespace Pipeline

/-- The failure of the executor to answer in time. -/
def submissionTimeout (settings : PipelineSettings) : Error :=
  .submissionFailed ("submission timed out after " ++ settings.executorTimeout.text ++ "s")

/-- Give a manifest to the executor. -/
def submit (p : Pipeline) (m : Manifest) : Run Emission :=
  ⟨[], [m], ((p.executor.submit m).within p.settings.executorTimeout
    (submissionTimeout p.settings)).result.map .submitted⟩

/-- Do with a manifest what is asked for. -/
def emit (p : Pipeline) (action : Action) (m : Manifest) : Run Emission :=
  match action with
  | .download => .ofResult (.ok (.definition m.toYaml))
  | .submit => p.submit m

/-- The compiled graph and the violations of its tasks. -/
def analyze (p : Pipeline) (g : Graph) : Run (CompiledGraph × List Violation) :=
  g.analyze p.catalog p.settings

/-- The compiled graph, if its tasks have no violations. -/
def compile (p : Pipeline) (g : Graph) : Run CompiledGraph :=
  g.compileValid p.catalog p.settings

/-- Run a request. -/
def run (p : Pipeline) (request : Request) : Run Emission := do
  let c ← p.compile request.graph
  p.emit request.action (c.manifest p.settings.manifest request.storage)

/-- The spec of an entrypoint of a template. -/
def spec (p : Pipeline) (name entrypoint : String) : Run Spec := do
  let t ← p.catalog.template p.settings name
  Run.ofResult (t.resolve name entrypoint)

/-- The summaries of all templates, in the order of the catalog. -/
def summaries (p : Pipeline) : Run (List Summary) := do
  let names ← p.catalog.names p.settings
  let templates ← p.catalog.templates p.settings names
  return templates.map fun (name, t) => t.summary name

end Pipeline

/-- The report of a summary. -/
def Summary.toValue (s : Summary) : Json.Value :=
  .object [("name", .string s.name), ("entrypoints", .array (s.entrypoints.map .string)),
    ("default_entrypoint", .ofText s.defaultEntrypoint)]

end JobGraph
