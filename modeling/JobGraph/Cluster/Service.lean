import JobGraph.Cluster.Connection
import JobGraph.Http.Call
import JobGraph.Manifest.Document
import JobGraph.Pipeline.Run
import JobGraph.Template.Reading

/-!
# The workflow server

The workflow server is a catalog of templates and an executor of workflows. Each question is
one call, and each of its answers is read in one way.
-/

namespace JobGraph

open Http (Answer Call CallFault Transport Url)
open Json (Value)

namespace Connection

/-- Make a call and read its answer. -/
def ask {α : Type} (c : Connection) (transport : Transport) (refuse : CallFault → Error)
    (call : Except CallFault Call) (read : Call → Answer → Except Error α) : Reply α :=
  match call with
  | .error fault => .now (.error (refuse fault))
  | .ok call =>
    match call.make transport c.timeout with
    | (delay, .error fault) => .after delay (.error (refuse fault))
    | (delay, .ok answer) => .after delay (read call answer)

/-- The error of a question to the catalog. -/
def catalogError (fault : CallFault) : Error :=
  .catalogUnavailable fault.message

/-- The error of a submission. -/
def submissionError (fault : CallFault) : Error :=
  .submissionFailed fault.message

/-! ### Templates -/

/-- Read the answer to the question for a template. -/
def readTemplate (name : String) (call : Call) (answer : Answer) : Except Error Template :=
  if answer.status = 404 then .error (.templateNotFound name)
  else
    match answer.checked call.url with
    | .error fault => .error (catalogError fault)
    | .ok answer =>
      match Template.ofJsonBytes answer.body with
      | .ok t => .ok t
      | .error _ => .error (.catalogUnavailable
          ("invalid template '" ++ name ++ "': " ++ CallFault.unreadable.message))

/-- Ask for the template of a name. A blank name is not asked for. -/
def fetch (c : Connection) (transport : Transport) (name : String) : Reply Template :=
  if Text.isBlank name then .now (.error (.templateNotFound name))
  else
    match c.templateUrl name with
    | .error e => .now (.error e)
    | .ok url =>
      c.ask transport catalogError (Call.build "GET" url c.authorization none) (readTemplate name)

/-- The name in the metadata of a value. -/
def nameOf? (v : Value) : Option String :=
  (v.path? ["metadata", "name"]).bind Value.text?

/-- The names in a list of templates. Whatever has no name is passed over. -/
def namesOf (v : Value) : List String :=
  (((v.field? "items").bind Value.items?).getD []).filterMap nameOf?

/-- Read the answer to the question for all templates. -/
def readNames (call : Call) (answer : Answer) : Except Error (List String) :=
  match answer.checked call.url with
  | .error fault => .error (catalogError fault)
  | .ok answer =>
    match Value.ofBytes? answer.body with
    | some v => .ok (namesOf v)
    | none => .error (catalogError .unreadable)

/-- Ask for the names of all templates. -/
def list (c : Connection) (transport : Transport) : Reply (List String) :=
  c.ask transport catalogError
    (Call.buildFor "GET" (c.address .templates) c.authorization none) readNames

/-- The workflow server as a catalog. -/
def catalog (c : Connection) (transport : Transport) : Catalog where
  list := c.list transport
  fetch := c.fetch transport

/-! ### Workflows -/

/-- Read the answer to a submission. -/
def readSubmitted (_ : Call) (answer : Answer) : Except Error String :=
  if !Http.isSuccess answer.status then
    .error (.submissionFailed ("Argo server returned " ++ toString answer.status ++ ": "
      ++ Text.trim (String.ofList (Text.decodeUtf8 answer.body))))
  else
    match Value.ofBytes? answer.body with
    | none => .error (submissionError .unreadable)
    | some v =>
      match nameOf? v with
      | some name => .ok name
      | none => .error (.submissionFailed "response has no metadata.name")

/-- Submit a workflow. -/
def submit (c : Connection) (transport : Transport) (m : Manifest) : Reply String :=
  c.ask transport submissionError
    (Call.buildFor "POST" (c.address .workflows) c.authorization
      (some (.object [("workflow", m.toValue)]))) readSubmitted

/-- The workflow server as an executor. -/
def executor (c : Connection) (transport : Transport) : Executor where
  submit := c.submit transport

end Connection

end JobGraph
