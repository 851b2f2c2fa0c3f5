import JobGraph.Graph.Basic
import JobGraph.Json.Reading

/-!
# Graphs as JSON

Reading of graphs from JSON and writing of graphs as JSON. An argument may be given as a
string, a number or a truth value, of which the text counts, or as null, which counts as the
empty text. It is written as a string.
-/

namespace JobGraph

open Json

/-- Read an argument. -/
def Argument.read (depth : Nat) (d : Draft) : Except Fault Argument :=
  match d.readValue depth with
  | .ok (.string s) => .ok (.parse s)
  | .ok .null => .ok (.parse "")
  | .ok (.array _) => .error (.mismatch .nestedArgument)
  | .ok (.object _) => .error (.mismatch .nestedArgument)
  | .ok v => .ok (.parse v.write)
  | .error fault => .error fault

/-- Read the fields of an object of arguments. -/
def Argument.readAll : List (Draft × Draft) → SortedMap Argument →
    Except Fault (SortedMap Argument)
  | [], arguments => .ok arguments
  | (.string name, d) :: fields, arguments =>
    match Argument.read 0 d with
    | .ok a => Argument.readAll fields (arguments.insert name a)
    | .error fault => .error fault
  | _ :: _, _ => .error .malformed

/-- Read an object of arguments, of arguments with one name the last. -/
def Argument.readMap : Draft → Except Fault (SortedMap Argument)
  | .object fields closed =>
    match Argument.readAll fields .empty with
    | .ok arguments => if closed then .ok arguments else .error .malformed
    | .error fault => .error fault
  | d => .error (d.refuse "a map")

/-- Read a node. -/
def Node.read (d : Draft) : Except Fault Node := do
  let json := Json.format .tree
  let (id, templateName, entrypoint, arguments, ()) ← json.record
    (.cons "id" json.text <| .cons "template_name" json.text <| .cons "entrypoint" json.text <|
      .cons "arguments" Argument.readMap .nil) d
  return {
    id := ← json.required "id" id
    templateName := ← json.required "template_name" templateName
    entrypoint := ← json.required "entrypoint" entrypoint
    arguments := arguments.getD .empty }

/-- Read an edge. -/
def Edge.read (d : Draft) : Except Fault Edge := do
  let json := Json.format .tree
  let (source, target, ()) ← json.record
    (.cons "source" json.text <| .cons "target" json.text .nil) d
  return ⟨← json.required "source" source, ← json.required "target" target⟩

/-- Read a graph from a tree of JSON. -/
def Graph.read (d : Draft) : Except Fault Graph := do
  let json := Json.format .tree
  let (nodes, edges, ()) ← json.record
    (.cons "nodes" (json.items Node.read) <| .cons "edges" (json.items Edge.read) .nil) d
  return ⟨nodes.getD [], edges.getD []⟩

/-- Read a graph from a value. -/
def Graph.ofValue (v : Value) : Except Fault Graph :=
  Graph.read (.ofValue v)

/-- The value of a node. -/
def Node.toValue (node : Node) : Value :=
  .object [("id", .string node.id), ("template_name", .string node.templateName),
    ("entrypoint", .string node.entrypoint),
    ("arguments", .object (node.arguments.entries.map fun (name, a) => (name, .string a.text)))]

/-- The value of an edge. -/
def Edge.toValue (edge : Edge) : Value :=
  .object [("source", .string edge.source), ("target", .string edge.target)]

/-- The value of a graph. -/
def Graph.toValue (g : Graph) : Value :=
  .object [("nodes", .array (g.nodes.map Node.toValue)),
    ("edges", .array (g.edges.map Edge.toValue))]

end JobGraph
