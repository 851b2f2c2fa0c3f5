import JobGraph.Json.Value
import JobGraph.Text.Lowercase

/-!
# Events

What is worth telling about a run, and the record that is written of it: how serious it is,
which part of the program tells it, a message, and what the message is about.
-/

namespace JobGraph

open Json (Value)

/-- How serious an event is. -/
inductive Severity where
  | debug
  | info
  | warning
deriving DecidableEq, Repr

/-- The name of a severity. -/
def Severity.name : Severity → String
  | debug => "DEBUG"
  | info => "INFO"
  | warning => "WARN"

/-- An event of a run. -/
inductive Event where
  /-- The policy that the environment gives is unknown. -/
  | policyPassedOver (reason : String)
  | tlsUnverified (baseUrl : String)
  | folderLoaded (root : String) (count : Nat)
  | templateSkipped (path reason : String)
  | templateReplaced (name path : String)
  | templateFetched (url : String)
  | templatesAtHand (nodes edges templates : Nat)
  | specFromCache (key : String)
  | argumentDropped (nodeId argument : String)
  | edgeSkipped (source target : String)
  /-- An argument names an output without the node it belongs to. -/
  | outputUnqualified (target artifact value : String)
  | bindingReplaced (target artifact previous current : String)
  | graphCompiled (tasks specs cacheHits violations : Nat)
  | graphInvalid (violations : Nat)
  | workflowSubmitted (workflow «namespace» : String)
  | workflowHandedOver (id : String) (tasks : Nat)
deriving DecidableEq, Repr

/-- What is written of an event. -/
structure Record where
  severity : Severity
  /-- The part of the program that tells the event. -/
  teller : String
  message : String
  subjects : List (String × Value)
deriving Repr

/-- The record as a value. -/
def Record.toValue (r : Record) : Value :=
  .object [("level", .string r.severity.name), ("target", .string r.teller),
    ("fields", .object (("message", .string r.message) :: r.subjects))]

namespace Event

/-- A number as the subject of a message. -/
def number (n : Nat) : Value := .number (.int n)

/-- The record of an event. -/
def record : Event → Record
  | policyPassedOver reason =>
    ⟨.warning, "vmflow::config", "Ignoring VMFLOW_REQUIRED_ARTIFACTS: " ++ reason, []⟩
  | tlsUnverified baseUrl =>
    ⟨.warning, "vmflow::argo::client", "TLS verification disabled for Argo server",
      [("base_url", .string baseUrl)]⟩
  | folderLoaded root count =>
    ⟨.info, "vmflow::argo::directory", "loaded template directory",
      [("root", .string root), ("count", number count)]⟩
  | templateSkipped path reason =>
    ⟨.warning, "vmflow::argo::directory", "skipping unreadable template",
      [("path", .string path), ("error", .string reason)]⟩
  | templateReplaced name path =>
    ⟨.warning, "vmflow::argo::directory", "duplicate template name, later file wins",
      [("template", .string name), ("path", .string path)]⟩
  | templateFetched url =>
    ⟨.debug, "vmflow::argo::client", "fetching workflow template", [("url", .string url)]⟩
  | templatesAtHand nodes edges templates =>
    ⟨.info, "vmflow::pipeline", "template specs fetched",
      [("nodes", number nodes), ("edges", number edges), ("templates", number templates)]⟩
  | specFromCache key =>
    ⟨.debug, "vmflow::template::cache", "spec cache hit", [("key", .string key)]⟩
  | argumentDropped nodeId argument =>
    ⟨.debug, "vmflow::graph::compiler", "dropping undeclared argument",
      [("node_id", .string nodeId), ("argument", .string argument)]⟩
  | edgeSkipped source target =>
    ⟨.warning, "vmflow::graph::linker", "skipping edge between unknown nodes",
      [("source", .string source), ("target", .string target)]⟩
  | outputUnqualified target artifact value =>
    ⟨.debug, "vmflow::graph::linker", "unqualified output name, leaving artifact unbound",
      [("target", .string target), ("artifact", .string artifact), ("value", .string value)]⟩
  | bindingReplaced target artifact previous current =>
    ⟨.debug, "vmflow::graph::linker", "artifact binding replaced by later edge",
      [("target", .string target), ("artifact", .string artifact),
        ("previous", .string previous), ("current", .string current)]⟩
  | graphCompiled tasks specs cacheHits violations =>
    ⟨.info, "vmflow::pipeline", "graph compiled",
      [("tasks", number tasks), ("specs", number specs), ("cache_hits", number cacheHits),
        ("violations", number violations)]⟩
  | graphInvalid violations =>
    ⟨.warning, "vmflow::pipeline", "graph validation failed",
      [("violations", number violations)]⟩
  | workflowSubmitted workflow «namespace» =>
    ⟨.info, "vmflow::argo::client", "workflow submitted",
      [("workflow", .string workflow), ("namespace", .string «namespace»)]⟩
  | workflowHandedOver id tasks =>
    ⟨.info, "vmflow::emit", "workflow handed to executor",
      [("execution_id", .string id), ("tasks", number tasks)]⟩

end Event

/-! ### Formats -/

/-- How records are written. -/
inductive LogFormat where
  | text
  /-- One value of JSON a line. -/
  | json
deriving DecidableEq, Repr

/-- The format that the environment asks for, in capitals or not. -/
def LogFormat.parse : Option String → LogFormat
  | some name => if Text.eqIgnoringAsciiCase name "json" then json else text
  | none => text

end JobGraph
