import JobGraph.Json.Value
import JobGraph.Task.Validation
import JobGraph.Template.Spec

/-!
# Reports in JSON

How specs, violations and errors are reported to callers from outside.
-/

namespace JobGraph

open Json

/-- The report of a parameter. -/
def ParamSpec.toValue (p : ParamSpec) : Value :=
  .object [("name", .string p.name), ("default", .ofText p.default), ("required", .bool p.required),
    ("type", .string FieldKind.parameter.name)]

/-- The report of an input artifact. -/
def ArtifactSpec.toValue (a : ArtifactSpec) : Value :=
  .object [("name", .string a.name), ("required", .bool a.required),
    ("type", .string FieldKind.artifact.name)]

/-- The report of an entrypoint. -/
def Spec.toValue (spec : Spec) : Value :=
  .object [("parameters", .array (spec.parameters.map ParamSpec.toValue)),
    ("artifacts", .array (spec.artifacts.map ArtifactSpec.toValue)),
    ("outputs", .array (spec.outputs.map fun name =>
      .object [("name", .string name), ("type", .string FieldKind.artifact.name)]))]

/-- The report of a violation. -/
def Violation.toValue (v : Violation) : Value :=
  .object [("node_id", .string v.nodeId), ("template_name", .string v.template),
    ("field", .string v.field), ("kind", .string v.kind.name), ("message", .string v.message)]

/-- The report of an error. -/
def Error.toValue (e : Error) : Value :=
  .object [("error", .string e.externalMessage), ("code", .string e.code)]

end JobGraph
