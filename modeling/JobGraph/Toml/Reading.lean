import JobGraph.Schema
import JobGraph.Toml.Document

/-!
# Reading typed data from TOML

The readers for values of TOML. A record may be given as a table, whose unknown entries are
passed over, or as an array of its fields in order, whose further items are passed over.
-/

namespace JobGraph.Toml.Value

/-- A text. -/
def text? : Value → Option String
  | .string s => some s
  | _ => none

/-- A truth value. -/
def flag? : Value → Option Bool
  | .boolean b => some b
  | _ => none

/-- A number below a limit. -/
def natBelow? (limit : Nat) : Value → Option Nat
  | .integer i => if 0 ≤ i ∧ i < limit then some i.toNat else none
  | _ => none

/-- The items of an array, each as the reader accepts it. -/
def items? {α : Type} (read : Value → Option α) : Value → Option (List α)
  | .array items => items.mapM read
  | _ => none

/-- A record. -/
def record? {types : List Type} (fields : Schema.Fields Value Option types) :
    Value → Option (Schema.Row types)
  | .table entries =>
    fields.readNamed some (fun _ => none) (fun _ => some ()) entries (Schema.Row.empty types)
  | .array items => (fields.readInOrder items).map (·.1)
  | _ => none

/-- A choice: a name, or a table with the name as its only entry and nothing in that. -/
def choice? {α : Type} (ofName? : String → Option α) : Value → Option α
  | .string name => ofName? name
  | .table [(name, .table [])] => ofName? name
  | .table [(name, .array [])] => ofName? name
  | _ => none

end JobGraph.Toml.Value
