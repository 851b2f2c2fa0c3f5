import JobGraph.Error
import JobGraph.Json.Reading
import JobGraph.Template.Basic
import JobGraph.Text.Blank
import JobGraph.Yaml.Reading

/-!
# Template documents

The shape of the documents that hold templates, written down once for all formats, and the
reading of a template from a text of YAML and from JSON. Fields that are not used here are
passed over. Of the fields that are, only the names of things must be there.
-/

namespace JobGraph

variable {ν : Type} {m : Type → Type} [Monad m]

/-- Read a parameter, whose default stands in the field `field`, within `depth` levels of
collections. -/
def Parameter.read (format : Schema.Format ν m) (field : String) (depth : Nat) (v : ν) :
    m Parameter := do
  let (name, default, ()) ← format.record
    (.cons "name" format.text <| .cons field (format.anyText depth) .nil) v
  return ⟨← format.required "name" name, default.join⟩

/-- Read an input artifact. -/
def InputArtifact.read (format : Schema.Format ν m) (v : ν) : m InputArtifact := do
  let (name, optional, ()) ← format.record
    (.cons "name" format.text <| .cons "optional" format.flag .nil) v
  return ⟨← format.required "name" name, optional.getD false⟩

namespace SubTemplate

/-- Read the name of an output artifact. -/
def readOutput (format : Schema.Format ν m) (v : ν) : m String := do
  let (name, ()) ← format.record (.cons "name" format.text .nil) v
  format.required "name" name

/-- Read the inputs of a sub-template. -/
def readInputs (format : Schema.Format ν m) (v : ν) :
    m (List Parameter × List InputArtifact) := do
  let (parameters, artifacts, ()) ← format.record
    (.cons "parameters" (format.items (Parameter.read format "default" 7)) <|
      .cons "artifacts" (format.items (InputArtifact.read format)) .nil) v
  return (parameters.getD [], artifacts.getD [])

/-- Read the outputs of a sub-template. -/
def readOutputs (format : Schema.Format ν m) (v : ν) : m (List String) := do
  let (artifacts, ()) ← format.record
    (.cons "artifacts" (format.items (readOutput format)) .nil) v
  return artifacts.getD []

/-- Read a sub-template. -/
def read (format : Schema.Format ν m) (v : ν) : m SubTemplate := do
  let (name, inputs, outputs, ()) ← format.record
    (.cons "name" format.text <| .cons "inputs" (readInputs format) <|
      .cons "outputs" (readOutputs format) .nil) v
  let name ← format.required "name" name
  let (parameters, artifacts) := inputs.getD ([], [])
  return ⟨name, parameters, artifacts, outputs.getD []⟩

end SubTemplate

namespace Template

/-- Read the name of a template. -/
def readName (format : Schema.Format ν m) (v : ν) : m (Option String) := do
  let (name, ()) ← format.record (.cons "name" (format.optional format.text) .nil) v
  return name.join

/-- Read the parameters of a whole template. -/
def readGlobals (format : Schema.Format ν m) (v : ν) : m (List Parameter) := do
  let (parameters, ()) ← format.record
    (.cons "parameters" (format.items (Parameter.read format "value" 5)) .nil) v
  return parameters.getD []

/-- Read what a template specifies. -/
def readSpec (format : Schema.Format ν m) (v : ν) : m Template := do
  let (entrypoint, globals, subTemplates, ()) ← format.record
    (.cons "entrypoint" (format.optional format.text) <|
      .cons "arguments" (readGlobals format) <|
      .cons "templates" (format.items (SubTemplate.read format)) .nil) v
  return ⟨none, entrypoint.join, globals.getD [], subTemplates.getD []⟩

/-- Read a template. -/
def read (format : Schema.Format ν m) (v : ν) : m Template := do
  let (name, spec, ()) ← format.record
    (.cons "metadata" (readName format) <| .cons "spec" (readSpec format) .nil) v
  return { spec.getD ⟨none, none, [], []⟩ with name := name.join }

/-- Read a template from a value of JSON. -/
def ofValue (v : Json.Value) : Except Json.Fault Template :=
  read (Json.format .tree) (.ofValue v)

/-- Read a template from the bytes of a text of JSON. -/
def ofJsonBytes (bytes : List UInt8) : Except Json.Fault Template :=
  Json.readBytes (read (Json.format .text)) bytes

/-- The error of a fault in a document. -/
def readError (fault : Yaml.Fault) : Error :=
  match fault.missingField? with
  | some field => .parse ("Missing required field: " ++ field)
  | none => .parse "Invalid template document"

/-- Read a template from a text of YAML. -/
def parse (text : String) : Except Error Template :=
  if Text.isBlank text then .error (.parse "Empty template document")
  else
    match Yaml.readText (fun anchors => read (Yaml.format anchors)) text with
    | .ok t => .ok t
    | .error fault => .error (readError fault)

/-! ### Writing -/

/-- The value of a template. -/
def toValue (t : Template) : Json.Value :=
  let list {α : Type} (f : α → Json.Value) (items : List α) := Json.Value.array (items.map f)
  let parameter (field : String) (p : Parameter) : Json.Value :=
    .object [("name", .string p.name), (field, .ofText p.default)]
  let artifact (a : InputArtifact) : Json.Value :=
    .object [("name", .string a.name), ("optional", .bool a.optional)]
  let output (name : String) : Json.Value := .object [("name", .string name)]
  let sub (s : SubTemplate) : Json.Value :=
    .object [("name", .string s.name),
      ("inputs", .object [("parameters", list (parameter "default") s.parameters),
        ("artifacts", list artifact s.artifacts)]),
      ("outputs", .object [("artifacts", list output s.outputs)])]
  .object [("metadata", .object [("name", .ofText t.name)]),
    ("spec", .object [("entrypoint", .ofText t.entrypoint),
      ("arguments", .object [("parameters", list (parameter "value") t.globals)]),
      ("templates", list sub t.subTemplates)])]

end Template

end JobGraph
