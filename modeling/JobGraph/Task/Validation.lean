import JobGraph.Task.Basic
import JobGraph.Text.Blank

/-!
# Validation of tasks

A task must be supplied with every required parameter and, when the policy says so, with
every required artifact of its spec. `validate` reports each input that is missing: task by
task, of each task the parameters first, in the order of its spec.
-/

namespace JobGraph

/-- Whether required artifacts are checked. -/
inductive ArtifactPolicy where
  | ignore
  | enforce
deriving DecidableEq, Repr

namespace ArtifactPolicy

/-- The name of a policy. -/
def name : ArtifactPolicy → String
  | ignore => "ignore"
  | enforce => "enforce"

/-- Read the name of a policy, in any case of ASCII letters and with white space around. -/
def parse (text : String) : Except Error ArtifactPolicy :=
  let name := Text.lowercaseAscii (Text.trim text)
  if name = "ignore" then .ok ignore
  else if name = "enforce" then .ok enforce
  else .error (.config
    ("Unknown artifact policy '" ++ name ++ "', expected 'ignore' or 'enforce'"))

end ArtifactPolicy

/-- The kinds of inputs. -/
inductive FieldKind where
  | parameter
  | artifact
deriving DecidableEq, Repr

/-- The name of a kind. -/
def FieldKind.name : FieldKind → String
  | parameter => "parameter"
  | artifact => "artifact"

/-- A required input that a task is not supplied with. -/
structure Violation where
  nodeId : String
  template : String
  field : String
  kind : FieldKind
deriving DecidableEq, Repr

/-- The description of a violation. -/
def Violation.message (v : Violation) : String :=
  "Node '" ++ v.template ++ "' (" ++ v.nodeId ++ "): " ++ v.kind.name ++ " '" ++ v.field
    ++ "' is missing (fill it in manually or connect it)"

namespace Task

/-- Whether a parameter of this name has a value that is not blank. -/
def hasLiteral (task : Task) (name : String) : Bool :=
  match task.parameters.get? name with
  | some value => !Text.isBlank value
  | none => false

/-- Whether an artifact of this name is bound. -/
def isConnected (task : Task) (name : String) : Bool :=
  task.artifacts.contains name

/-- Whether an input of this name is supplied. -/
def isSupplied (task : Task) (name : String) : Bool :=
  task.hasLiteral name || task.isConnected name

/-- The violation of an input that is missing. -/
def missing (task : Task) (kind : FieldKind) (field : String) : Violation :=
  ⟨task.nodeId, task.templateRef.name, field, kind⟩

/-- The violations of a task against its spec. -/
def violations (task : Task) (spec : Spec) (policy : ArtifactPolicy) : List Violation :=
  let absent (names : List String) := names.filter fun name => !task.isSupplied name
  let parameters := absent ((spec.parameters.filter ParamSpec.required).map ParamSpec.name)
  let artifacts := match policy with
    | .ignore => []
    | .enforce => absent ((spec.artifacts.filter ArtifactSpec.required).map ArtifactSpec.name)
  parameters.map (task.missing .parameter) ++ artifacts.map (task.missing .artifact)

end Task

/-- The violations of tasks against the specs of their nodes. A task without a spec is not
checked. -/
def validate (tasks : List Task) (specs : Dictionary String Spec) (policy : ArtifactPolicy) :
    List Violation :=
  tasks.flatMap fun task =>
    match specs.get? task.nodeId with
    | some spec => task.violations spec policy
    | none => []

/-- The error of a report, if it has violations. -/
def reportResult (report : List Violation) : Except Error Unit :=
  if report.isEmpty then .ok () else .error (.validationFailed (report.map Violation.message))

end JobGraph
