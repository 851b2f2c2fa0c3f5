import JobGraph.Json.Draft
import JobGraph.Schema

/-!
# Reading typed data from JSON

The readers of `Schema.Format` for drafts of JSON texts. A record may be given as an object,
whose unknown fields are passed over, or as an array of its fields in order. What is passed
over only has to be JSON: it may hold broken strings, numbers out of range and any depth of
nesting.
-/

namespace JobGraph.Json

/-- Why a value of JSON has the wrong shape. -/
inductive Mismatch where
  | missing (field : String)
  | repeated (field : String)
  | unexpected (wanted : String)
  | excess
  | nestedArgument
deriving DecidableEq, Repr

/-- Why typed data cannot be read from a text. -/
inductive Fault where
  /-- The text is not JSON. -/
  | malformed
  /-- The text is JSON of another shape. -/
  | mismatch (reason : Mismatch)
deriving DecidableEq, Repr

/-- The message of a mismatch. -/
def Mismatch.message : Mismatch → String
  | missing field => "missing field `" ++ field ++ "`"
  | repeated field => "duplicate field `" ++ field ++ "`"
  | unexpected wanted => "invalid type, expected " ++ wanted
  | excess => "invalid length"
  | nestedArgument => "argument values must be strings, numbers or booleans"

/-- The message of a fault. -/
def Fault.message : Fault → String
  | malformed => "not JSON"
  | mismatch reason => reason.message

/-- How a value is at hand: as the text it is read from, or as a tree already read. An array
with more items than a record has fields is an ill-formed text, but only a wrong shape of a
tree. -/
inductive Medium where
  | text
  | tree
deriving DecidableEq

/-- The fault of a value whose brackets hold something else than is wanted: of a tree `fault`,
while a text is read no further. -/
def Medium.refuse (medium : Medium) (fault : Fault) : Fault :=
  match medium with
  | text => .malformed
  | tree => fault

namespace Draft

/-- The fault of a draft that is not what is wanted: what stands there is read to the end,
unless it is an array or an object. -/
def refuse (wanted : String) : Draft → Fault
  | .cut => .malformed
  | .brokenString => .malformed
  | .outOfRange => .malformed
  | _ => .mismatch (.unexpected wanted)

/-- A string. -/
def readText : Draft → Except Fault String
  | .string s => .ok s
  | d => .error (d.refuse "a string")

/-- A truth value. -/
def readFlag : Draft → Except Fault Bool
  | .bool b => .ok b
  | d => .error (d.refuse "a boolean")

/-- Null, or what the reader accepts. -/
def readOptional {α : Type} (read : Draft → Except Fault α) : Draft → Except Fault (Option α)
  | .null => .ok none
  | d => (read d).map some

/-- A value within `depth` levels of arrays and objects. -/
def readValue (depth : Nat) (d : Draft) : Except Fault Value :=
  match d.toValue? depth with
  | some v => .ok v
  | none => .error .malformed

/-- The text of a value within `depth` levels: of a string its content, of null nothing, else
its JSON text with the fields of objects in order. -/
def readAnyText (depth : Nat) (d : Draft) : Except Fault (Option String) :=
  match d.readValue depth with
  | .ok .null => .ok none
  | .ok (.string s) => .ok (some s)
  | .ok v => .ok (some v.sorted.write)
  | .error fault => .error fault

/-- The items of an array, each as the reader accepts it. -/
def readItems {α : Type} (read : Draft → Except Fault α) : Draft → Except Fault (List α)
  | .array items closed => do
    let results ← items.mapM read
    if closed then .ok results else .error .malformed
  | d => .error (d.refuse "a sequence")

/-- What is passed over only has to be whole. -/
def pass (d : Draft) : Except Fault Unit :=
  if d.isWhole then .ok () else .error .malformed

/-- The name of a field. -/
def readName : Draft → Except Fault String
  | .string name => .ok name
  | _ => .error .malformed

/-- A record. -/
def readRecord (medium : Medium) {types : List Type}
    (fields : Schema.Fields Draft (Except Fault) types) :
    Draft → Except Fault (Schema.Row types)
  | .object drafts closed => do
    let row ← fields.readNamed readName (fun name => .error (.mismatch (.repeated name))) pass
      drafts (Schema.Row.empty types)
    if closed then .ok row else .error .malformed
  | .array drafts closed => do
    let (row, left) ← fields.readInOrder drafts
    if !left.isEmpty then .error (medium.refuse (.mismatch .excess))
    else if closed then .ok row
    else .error .malformed
  | d => .error (d.refuse "a record")

end Draft

/-- The readers for drafts of JSON. How deep a value stands only counts in a text. -/
def format (medium : Medium) : Schema.Format Draft (Except Fault) where
  text := Draft.readText
  flag := Draft.readFlag
  anyText := fun depth => Draft.readAnyText (if medium = .text then depth else 0)
  optional := Draft.readOptional
  items := Draft.readItems
  record := Draft.readRecord medium
  missing := fun field => .error (.mismatch (.missing field))

/-- Read a whole text. -/
def readText {α : Type} (read : Draft → Except Fault α) (text : String) : Except Fault α := do
  let (draft, ended) := Draft.ofText text
  let a ← read draft
  if ended then .ok a else .error .malformed

/-- Read the bytes of a whole text. -/
def readBytes {α : Type} (read : Draft → Except Fault α) (bytes : List UInt8) : Except Fault α :=
  readText read (textOfBytes bytes)

end JobGraph.Json
