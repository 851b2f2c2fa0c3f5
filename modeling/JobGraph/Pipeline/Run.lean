import JobGraph.Manifest.Basic
import JobGraph.Pipeline.Reply
import JobGraph.Task.Validation
import JobGraph.Template.Basic

/-!
# Runs

The services that a run may ask, a catalog of templates and an executor of workflows, and the
record of a run: whom it asked for what, and its result.
-/

namespace JobGraph

/-- A catalog of templates. It answers a name the same way each time. -/
structure Catalog where
  /-- The names of all templates. -/
  list : Reply (List String)
  /-- The template of a name. -/
  fetch : String → Reply Template

/-- An executor of workflows. It answers with the name of the workflow. -/
structure Executor where
  submit : Manifest → Reply String

/-- The settings of runs. -/
structure PipelineSettings where
  manifest : ManifestSettings
  artifactPolicy : ArtifactPolicy
  /-- How long a catalog may take for an answer. -/
  catalogTimeout : Duration
  /-- How long an executor may take for an answer. -/
  executorTimeout : Duration
deriving DecidableEq, Repr

/-- The settings that hold when nothing else is said. -/
def PipelineSettings.default : PipelineSettings where
  manifest := .default
  artifactPolicy := .ignore
  catalogTimeout := .ofSeconds 30
  executorTimeout := .ofSeconds 60

/-- The record of a run. -/
structure Run (α : Type) where
  /-- The names of the templates that the catalog was asked for, in order. -/
  asked : List String
  /-- The manifests that the executor was given. -/
  submitted : List Manifest
  result : Except Error α

namespace Run

variable {α β : Type}

/-- A run that asks no one. -/
def ofResult (result : Except Error α) : Run α :=
  ⟨[], [], result⟩

/-- A run that goes on with its result, if it has one. -/
def andThen (r : Run α) (next : α → Run β) : Run β :=
  match r.result with
  | .ok a =>
    let s := next a
    ⟨r.asked ++ s.asked, r.submitted ++ s.submitted, s.result⟩
  | .error e => ⟨r.asked, r.submitted, .error e⟩

instance : Monad Run where
  pure a := ofResult (.ok a)
  bind := andThen

end Run

end JobGraph
