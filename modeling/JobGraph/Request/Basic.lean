import JobGraph.Graph.Reading
import JobGraph.Manifest.Storage

/-!
# Requests

A request is a graph together with what to do with it and the storage its tasks use. The
fields of the graph stand beside those of the request. The fields `s3Config` and `action` are
read where they stand in the text; the others are read as JSON there and as parts of a graph
at the end.
-/

namespace JobGraph

open Json

/-- What to do with a compiled graph. -/
inductive Action where
  /-- Hand it to the executor. -/
  | submit
  /-- Return its definition. -/
  | download
deriving DecidableEq, Repr

namespace Action

/-- The name of an action. -/
def name : Action → String
  | submit => "submit"
  | download => "download"

/-- The action of a name. -/
def ofName? (name : String) : Option Action :=
  if name = "submit" then some submit
  else if name = "download" then some download
  else none

/-- The fault of a value that is no action at all. -/
def noAction : Fault :=
  .mismatch (.unexpected "`submit` or `download`")

/-- Read an action: its name, or an object with its name as the only field and null as its
value. -/
def read (medium : Medium) : Draft → Except Fault Action
  | .string s =>
    match ofName? s with
    | some action => .ok action
    | none => .error noAction
  | .object ((.string name, d) :: fields) closed =>
    match ofName? name with
    | none => .error noAction
    | some action =>
      match d with
      | .null => if fields.isEmpty && closed then .ok action else .error (medium.refuse noAction)
      | d => .error (d.refuse "unit")
  | .object ((name, _) :: _) _ => .error (name.refuse "`submit` or `download`")
  | _ => .error (medium.refuse noAction)

end Action

/-- A request to compile a graph. -/
structure Request where
  graph : Graph
  storage : Option StorageCredentials
  action : Action
deriving DecidableEq, Repr

namespace Request

/-- What was read of a request: the fields of its graph in reverse order, its storage and its
action. -/
structure Partial where
  graph : List (String × Value)
  storage : Option (Option StorageCredentials)
  action : Option Action

/-- Read the fields of a request. -/
def readFields (medium : Medium) : List (Draft × Draft) → Partial → Except Fault Partial
  | [], got => .ok got
  | (.string name, d) :: fields, got =>
    if name = "s3Config" then
      if got.storage.isSome then .error (.mismatch (.repeated name))
      else
        match Draft.readOptional (StorageCredentials.read medium) d with
        | .ok storage => readFields medium fields { got with storage := some storage }
        | .error fault => .error fault
    else if name = "action" then
      if got.action.isSome then .error (.mismatch (.repeated name))
      else
        match Action.read medium d with
        | .ok action => readFields medium fields { got with action := some action }
        | .error fault => .error fault
    else
      match d.readValue 1 with
      | .ok v => readFields medium fields { got with graph := (name, v) :: got.graph }
      | .error fault => .error fault
  | _ :: _, _ => .error .malformed

/-- Read a request. -/
def read (medium : Medium) : Draft → Except Fault Request
  | .object fields closed => do
    let got ← readFields medium fields ⟨[], none, none⟩
    if !closed then .error .malformed
    let graph ← Graph.ofValue (.object (got.graph.reverse.filter fun (name, _) =>
      name = "nodes" ∨ name = "edges"))
    return ⟨graph, got.storage.join, got.action.getD .submit⟩
  | d => .error (d.refuse "a request")

/-- Read a request from a text. -/
def ofText (text : String) : Except Fault Request :=
  Json.readText (read .text) text

/-- Read a request from the bytes of a text. -/
def ofBytes (bytes : List UInt8) : Except Fault Request :=
  Json.readBytes (read .text) bytes

end Request

end JobGraph
