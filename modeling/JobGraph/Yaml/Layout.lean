import JobGraph.Json.Value
import JobGraph.Yaml.Quoting

/-!
# How documents are written

A document of objects, arrays and texts is written as blocks. Each level is indented by two
columns more, except that the items of an array stand right below the name of the field that
holds it.
-/

namespace JobGraph.Yaml

open Json (Value)

/-- The text of a value that is neither an array nor an object with contents, and the end of
its line. -/
def writeLeaf (indent : Nat) : Value → List Char
  | .string s => writeScalar indent s
  | v => v.write.toList ++ ['\n']

mutual

/-- A value behind the name of a field of an object that is indented by `indent`. -/
def writeValue (indent : Nat) : Value → List Char
  | .array (v :: items) => '\n' :: writeItems indent (v :: items)
  | .object (field :: fields) =>
    '\n' :: indentation (indent + 2) ++ writeFields (indent + 2) (field :: fields)
  | v => ' ' :: writeLeaf (indent + 2) v

/-- A value behind the mark of an item of an array that is indented by `indent`. -/
def writeItem (indent : Nat) : Value → List Char
  | .array (v :: items) =>
    '-' :: ' ' :: writeItem (indent + 2) v ++ writeItems (indent + 2) items
  | .object (field :: fields) => writeFields (indent + 2) (field :: fields)
  | v => writeLeaf (indent + 2) v

/-- The items of an array. -/
def writeItems (indent : Nat) : List Value → List Char
  | [] => []
  | v :: items =>
    indentation indent ++ '-' :: ' ' :: writeItem indent v ++ writeItems indent items

/-- The fields of an object, of which the first one continues a line. -/
def writeFields (indent : Nat) : List (String × Value) → List Char
  | [] => []
  | (name, v) :: fields =>
    name.toList ++ ':' :: writeValue indent v ++
      match fields with
      | [] => []
      | fields => indentation indent ++ writeFields indent fields

end

/-- The text of an object, whose field names have to be plain. -/
def write (fields : List (String × Value)) : String :=
  String.ofList (writeFields 0 fields)

end JobGraph.Yaml
