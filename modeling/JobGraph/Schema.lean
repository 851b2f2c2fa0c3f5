/-!
# Schemas

How typed data are read out of the values of a format. A record is described by its fields,
each with a name and a reader; reading it gives a row, which holds what was read of each
field that was present. A `Format` gathers the readers that a format of documents offers, so
that the shape of a document is written down once for all formats it may come in.
-/

namespace JobGraph.Schema

/-- What was read of a record: an entry for each field, absent when the field is. -/
@[reducible] def Row : List Type → Type
  | [] => Unit
  | α :: types => Option α × Row types

/-- The row of a record of which nothing was read. -/
def Row.empty : (types : List Type) → Row types
  | [] => ()
  | _ :: types => (none, Row.empty types)

/-- The fields of a record in the order of their declaration. Values have type `ν`, and `m` is
the monad of readers. -/
inductive Fields (ν : Type) (m : Type → Type) : List Type → Type 1 where
  | nil : Fields ν m []
  | cons {α : Type} {types : List Type} (name : String) (read : ν → m α)
      (rest : Fields ν m types) : Fields ν m (α :: types)

variable {ν κ : Type} {m : Type → Type} [Monad m]

namespace Fields

/-- Read `value` into the field of this name. The result is absent when there is no such
field, and `repeated` when the field was read before. -/
def fill (repeated : {α : Type} → String → m α) (name : String) (value : ν) :
    {types : List Type} → Fields ν m types → Row types → Option (m (Row types))
  | _, .nil, _ => none
  | _, .cons own read rest, (entry, row) =>
    if own = name then
      some (if entry.isSome then repeated name else do return (some (← read value), row))
    else
      (rest.fill repeated name value row).map fun result => do return (entry, ← result)

/-- Read a list of named values in order, passing each value of an unknown name to `skip`.
The names are at hand as keys, which are read like the values. -/
def readNamed {types : List Type} (fields : Fields ν m types) (name : κ → m String)
    (repeated : {α : Type} → String → m α) (skip : ν → m Unit) :
    List (κ × ν) → Row types → m (Row types)
  | [], row => pure row
  | (key, value) :: pairs, row => do
    match fields.fill repeated (← name key) value row with
    | some result => fields.readNamed name repeated skip pairs (← result)
    | none =>
      skip value
      fields.readNamed name repeated skip pairs row

/-- Read a list of values, one for each field in order. Values that are left over are
returned. -/
def readInOrder : {types : List Type} → Fields ν m types → List ν → m (Row types × List ν)
  | _, .nil, values => pure ((), values)
  | _ :: types, .cons _ _ _, [] => pure ((none, Row.empty types), [])
  | _, .cons _ read rest, value :: values => do
    let a ← read value
    let (row, left) ← rest.readInOrder values
    return ((some a, row), left)

end Fields

/-- The readers that a format of documents offers for its values. -/
structure Format (ν : Type) (m : Type → Type) where
  /-- A text. -/
  text : ν → m String
  /-- A truth value. -/
  flag : ν → m Bool
  /-- The text of any value, absent for null. The number is that of the collections which the
  value stands in. -/
  anyText : Nat → ν → m (Option String)
  /-- Either null or what the reader accepts. -/
  optional : {α : Type} → (ν → m α) → ν → m (Option α)
  /-- A list of what the reader accepts. -/
  items : {α : Type} → (ν → m α) → ν → m (List α)
  /-- A record with these fields. -/
  record : {types : List Type} → Fields ν m types → ν → m (Row types)
  /-- The failure for a field that must be there and is not. -/
  missing : {α : Type} → String → m α

namespace Format

/-- What a row holds of a field that must be there. -/
def required (format : Format ν m) {α : Type} (name : String) : Option α → m α
  | some a => pure a
  | none => format.missing name

end Format

end JobGraph.Schema
