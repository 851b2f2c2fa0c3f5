import JobGraph.Manifest.Storage
import JobGraph.Task.Basic
import JobGraph.Graph.TaskName

/-!
# Manifests of workflows

A manifest describes a workflow to the executor: its tasks with their arguments, the tasks
they depend on, and the environment they get. `CompiledGraph.manifest` makes the manifest of
a compiled graph.
-/

namespace JobGraph

/-- What manifests have in common. -/
structure ManifestSettings where
  /-- What the names of workflows begin with. -/
  generateName : String
  «namespace» : String
  /-- The name of the template that holds the tasks. -/
  entrypoint : String
  imagePullSecrets : List String
  /-- The storage endpoint of credentials that have none. -/
  defaultStorageEndpoint : String
deriving DecidableEq, Repr

/-- The settings that hold when nothing else is said. -/
def ManifestSettings.default : ManifestSettings where
  generateName := "vm-gui-job-"
  «namespace» := "virtual-measurement"
  entrypoint := "main-dag"
  imagePullSecrets := ["vm-pipeline-image-pull-secret"]
  defaultStorageEndpoint := "https://s3.rwth-aachen.de"

/-- The value of a parameter of a task. -/
structure ParameterArgument where
  name : String
  value : String
deriving DecidableEq, Repr

/-- Where an artifact of a task comes from. -/
structure ArtifactArgument where
  name : String
  source : String
deriving DecidableEq, Repr

/-- A task of a manifest. -/
structure ManifestTask where
  name : String
  templateRef : TemplateRef
  parameters : List ParameterArgument
  artifacts : List ArtifactArgument
  /-- The names of the tasks it comes after. -/
  dependencies : List String
  env : List EnvVar
deriving DecidableEq, Repr

/-- A template of a manifest: a name for tasks that depend on each other. -/
structure ManifestTemplate where
  name : String
  tasks : List ManifestTask
deriving DecidableEq, Repr

/-- The manifest of a workflow. -/
structure Manifest where
  apiVersion : String
  kind : String
  generateName : String
  «namespace» : String
  entrypoint : String
  imagePullSecrets : List String
  templates : List ManifestTemplate
deriving DecidableEq, Repr

/-- The expression for an output of another task. -/
def OutputRef.expression (r : OutputRef) : String :=
  "\x7b\x7btasks." ++ taskName r.source ++ ".outputs.artifacts." ++ r.output ++ "\x7d\x7d"

/-- The task of a manifest for a compiled task. -/
def Task.manifestTask (task : Task) (env : List EnvVar) : ManifestTask where
  name := taskName task.nodeId
  templateRef := task.templateRef
  parameters := task.parameters.entries.map fun (name, value) => ⟨name, value⟩
  artifacts := task.artifacts.entries.map fun (name, r) => ⟨name, r.expression⟩
  dependencies := task.dependsOn.names.map taskName
  env

namespace Manifest

/-- The environment of all tasks. -/
def env (settings : ManifestSettings) (storage : Option StorageCredentials) : List EnvVar :=
  match storage with
  | some credentials => credentials.env settings.defaultStorageEndpoint
  | none => []

/-- The manifest of tasks. -/
def ofTasks (tasks : List Task) (settings : ManifestSettings)
    (storage : Option StorageCredentials) : Manifest where
  apiVersion := "argoproj.io/v1alpha1"
  kind := "Workflow"
  generateName := settings.generateName
  «namespace» := settings.namespace
  entrypoint := settings.entrypoint
  imagePullSecrets := settings.imagePullSecrets
  templates := [⟨settings.entrypoint, tasks.map (·.manifestTask (env settings storage))⟩]

/-- The number of tasks. -/
def taskCount (m : Manifest) : Nat :=
  m.templates.foldl (fun count t => count + t.tasks.length) 0

end Manifest

/-- The manifest of a compiled graph. -/
def CompiledGraph.manifest (c : CompiledGraph) (settings : ManifestSettings)
    (storage : Option StorageCredentials) : Manifest :=
  .ofTasks c.tasks settings storage

end JobGraph
