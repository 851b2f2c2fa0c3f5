import JobGraph.Manifest.Basic
import JobGraph.Yaml.Layout

/-!
# Documents of manifests

The tree under which a manifest is sent and written. Lists without members are left out of
it, except for the lists of templates and tasks.
-/

namespace JobGraph

open Json (Value)

/-- A field that is left out when it has no members. -/
def listField {α : Type} (name : String) (toValue : α → Value) : List α → List (String × Value)
  | [] => []
  | items => [(name, .array (items.map toValue))]

/-- An object of a name and one other text. -/
def namedText (name field text : String) : Value :=
  .object [("name", .string name), (field, .string text)]

/-- The arguments of a task, left out when there are none. -/
def ManifestTask.argumentFields (t : ManifestTask) : List (String × Value) :=
  match listField "parameters" (fun p => namedText p.name "value" p.value) t.parameters
      ++ listField "artifacts" (fun a => namedText a.name "from" a.source) t.artifacts with
  | [] => []
  | fields => [("arguments", .object fields)]

/-- The tree of a task. -/
def ManifestTask.toValue (t : ManifestTask) : Value :=
  .object <| [("name", .string t.name),
      ("templateRef", namedText t.templateRef.name "template" t.templateRef.template)]
    ++ t.argumentFields
    ++ listField "dependencies" .string t.dependencies
    ++ listField "env" (fun e => namedText e.name "value" e.value) t.env

/-- The tree of a template. -/
def ManifestTemplate.toValue (t : ManifestTemplate) : Value :=
  .object [("name", .string t.name),
    ("dag", .object [("tasks", .array (t.tasks.map ManifestTask.toValue))])]

namespace Manifest

/-- The fields of the tree of a manifest. -/
def toFields (m : Manifest) : List (String × Value) :=
  [("apiVersion", .string m.apiVersion), ("kind", .string m.kind),
    ("metadata", .object [("generateName", .string m.generateName),
      ("namespace", .string m.namespace)]),
    ("spec", .object ([("entrypoint", .string m.entrypoint)]
      ++ listField "imagePullSecrets" (fun name => .object [("name", .string name)])
          m.imagePullSecrets
      ++ [("templates", .array (m.templates.map ManifestTemplate.toValue))]))]

/-- The tree of a manifest. -/
def toValue (m : Manifest) : Value :=
  .object m.toFields

/-- The text of a manifest in YAML. -/
def toYaml (m : Manifest) : String :=
  Yaml.write m.toFields

end Manifest

end JobGraph
