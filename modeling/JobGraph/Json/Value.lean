import JobGraph.Decimal.Notation

/-!
# JSON values

The values of JSON and their compact text. The fields of an object stand in the order in
which they were written, and a name may occur more than once.
-/

namespace JobGraph.Json

/-- A number: an integer of at most 64 bits, or a float. -/
inductive Number where
  | int (value : Int)
  | float (value : Float)
deriving BEq, Repr

/-- A JSON value. -/
inductive Value where
  | null
  | bool (value : Bool)
  | number (value : Number)
  | string (value : String)
  | array (items : List Value)
  | object (fields : List (String × Value))
deriving BEq, Repr

instance : Inhabited Value := ⟨.null⟩

namespace Number

/-- The text of a number. -/
def write : Number → String
  | int i => toString i
  | float x => Notation.json.write x

end Number

/-- The digit of a value below sixteen. -/
def hexDigit (n : Nat) : Char :=
  Nat.digitChar n

/-- A character as it stands in a string. -/
def escapeChar (c : Char) : List Char :=
  if c = '"' then ['\\', '"']
  else if c = '\\' then ['\\', '\\']
  else if c = '\n' then ['\\', 'n']
  else if c = '\r' then ['\\', 'r']
  else if c = '\t' then ['\\', 't']
  else if c = Char.ofNat 8 then ['\\', 'b']
  else if c = Char.ofNat 12 then ['\\', 'f']
  else if c.toNat < 0x20 then ['\\', 'u', '0', '0', hexDigit (c.toNat / 16), hexDigit (c.toNat % 16)]
  else [c]

/-- A text in quotes. -/
def quote (s : String) : String :=
  String.ofList ('"' :: s.toList.flatMap escapeChar ++ ['"'])

/-- The fields of an object in the order of their names, of fields with one name the last. -/
def sortFields (fields : List (String × Value)) : List (String × Value) :=
  let rec insert (name : String) (value : Value) : List (String × Value) → List (String × Value)
    | [] => [(name, value)]
    | (name', value') :: rest =>
      if name < name' then (name, value) :: (name', value') :: rest
      else if name = name' then (name, value) :: rest
      else (name', value') :: insert name value rest
  fields.foldl (fun sorted (name, value) => insert name value sorted) []

namespace Value

/-- The value of a text that may be absent. -/
def ofText : Option String → Value
  | some s => .string s
  | none => .null

/-- The value of the last field of this name. -/
def field? (name : String) : Value → Option Value
  | .object fields => (fields.reverse.find? (·.1 == name)).map (·.2)
  | _ => none

/-- The value of a field of a field. -/
def path? (value : Value) (names : List String) : Option Value :=
  names.foldl (fun v name => v.bind (·.field? name)) (some value)

/-- The text of a string. -/
def text? : Value → Option String
  | .string s => some s
  | _ => none

/-- The items of an array. -/
def items? : Value → Option (List Value)
  | .array items => some items
  | _ => none

mutual

/-- The value with the fields of every object in the order of their names. -/
def sorted : Value → Value
  | .array items => .array (sortedItems items)
  | .object fields => .object (sortFields (sortedFields fields))
  | v => v

/-- Each item sorted. -/
def sortedItems : List Value → List Value
  | [] => []
  | v :: vs => sorted v :: sortedItems vs

/-- Each field sorted. -/
def sortedFields : List (String × Value) → List (String × Value)
  | [] => []
  | (name, v) :: fields => (name, sorted v) :: sortedFields fields

end

mutual

/-- The compact text of a value. -/
def write : Value → String
  | .null => "null"
  | .bool true => "true"
  | .bool false => "false"
  | .number n => n.write
  | .string s => quote s
  | .array [] => "[]"
  | .array (v :: vs) => "[" ++ write v ++ writeItems vs ++ "]"
  | .object [] => "\x7b\x7d"
  | .object ((name, v) :: fields) =>
    "\x7b" ++ quote name ++ ":" ++ write v ++ writeFields fields ++ "\x7d"

/-- The items behind the first one, each behind a comma. -/
def writeItems : List Value → String
  | [] => ""
  | v :: vs => "," ++ write v ++ writeItems vs

/-- The fields behind the first one, each behind a comma. -/
def writeFields : List (String × Value) → String
  | [] => ""
  | (name, v) :: fields => "," ++ quote name ++ ":" ++ write v ++ writeFields fields

end

end Value

end JobGraph.Json
