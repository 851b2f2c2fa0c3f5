import JobGraph.Toml.Scalar

/-!
# TOML documents

A document is a sequence of sections, each with a header and pairs of a key and a value. The
sections are put together into one table. A name is given a meaning only once: what a header
names may have been mentioned before, as a place for other tables, but not been defined, and a
key with points may only add to what such keys have made.
-/

namespace JobGraph.Toml

/-- A pair of a key and a value. -/
structure Pair where
  path : List String
  name : String
  value : Value

/-! ### Tables under construction -/

/-- What a name stands for while a document is put together. -/
inductive Item where
  | value (v : Value)
  /-- A table, and whether it was only mentioned, and whether a key with points did so. -/
  | table (implicit dotted : Bool) (entries : List (String × Item))
  /-- The tables of an array that headers make. -/
  | tables (entries : List (List (String × Item)))

/-- A table under construction. -/
structure Table where
  /-- Whether it was only mentioned so far. -/
  implicit : Bool
  /-- Whether keys with points made it. -/
  dotted : Bool
  entries : List (String × Item)

namespace Table

/-- A table that is defined and empty. -/
def defined : Table := ⟨false, false, []⟩

/-- The table with what a name stands for replaced. -/
def put (t : Table) (name : String) (item : Item) : Table :=
  { t with entries := t.entries.filter (·.1 ≠ name) ++ [(name, item)] }

/-- The item of a table. -/
def item (t : Table) : Item :=
  .table t.implicit t.dotted t.entries

/-- The table with the table at the end of a path changed. Tables on the way that are missing
are made. On the way of a key with points none may have been defined; a header passes through
the last table of an array. -/
def change (dotted : Bool) (f : Table → Option Table) : List String → Table → Option Table
  | [], t => f t
  | name :: path, t =>
    match t.entries.lookup name with
    | none => do
      let inner ← change dotted f path ⟨true, dotted, []⟩
      return t.put name inner.item
    | some (.value _) => none
    | some (.table implicit made entries) =>
      if dotted && !implicit then none
      else do
        let inner ← change dotted f path ⟨implicit, made, entries⟩
        return t.put name inner.item
    | some (.tables all) => do
      let last ← all.getLast?
      let inner ← change dotted f path ⟨false, false, last⟩
      return t.put name (.tables (all.dropLast ++ [inner.entries]))

/-- The table with a pair added. -/
def add (t : Table) (pair : Pair) : Option Table :=
  change true
    (fun t =>
      if t.dotted = pair.path.isEmpty then none
      else if (t.entries.lookup pair.name).isSome then none
      else some (t.put pair.name (.value pair.value)))
    pair.path t

/-- The table with pairs added. -/
def addAll (t : Table) (pairs : List Pair) : Option Table :=
  pairs.foldlM add t

end Table

mutual

/-- The value of an item. -/
def Item.toValue : Item → Value
  | .value v => v
  | .table _ _ entries => .table (toEntries entries)
  | .tables all => .array (toTables all)

/-- The values of the entries of a table. -/
def toEntries : List (String × Item) → List (String × Value)
  | [] => []
  | (name, item) :: entries => (name, item.toValue) :: toEntries entries

/-- The values of tables. -/
def toTables : List (List (String × Item)) → List Value
  | [] => []
  | entries :: all => .table (toEntries entries) :: toTables all

end

/-! ### Values -/

mutual

/-- The value in front of a text, within `depth` arrays and inline tables. -/
def value? : Nat → Nat → Parser Value
  | 0, _, _ => none
  | fuel + 1, depth, cs =>
    match cs with
    | '"' :: _ => (string? (cs.length + 1) cs).map fun (s, rest) => (.string s, rest)
    | '\'' :: _ => (string? (cs.length + 1) cs).map fun (s, rest) => (.string s, rest)
    | '[' :: rest =>
      if depthLimit ≤ depth + 1 then none
      else (items? fuel (depth + 1) rest).map fun (items, rest) => (.array items, rest)
    | '\x7b' :: rest =>
      if depthLimit ≤ depth + 1 then none
      else do
        let (pairs, rest) ← inlinePairs? fuel (depth + 1) true rest
        let table ← Table.defined.addAll pairs
        return (table.item.toValue, rest)
    | 't' :: 'r' :: 'u' :: 'e' :: rest => some (.boolean true, rest)
    | 'f' :: 'a' :: 'l' :: 's' :: 'e' :: rest => some (.boolean false, rest)
    | cs => numeric? cs

/-- The items of an array, behind its opening bracket or a comma. -/
def items? : Nat → Nat → Parser (List Value)
  | 0, _, _ => none
  | fuel + 1, depth, cs =>
    match skipLines (cs.length + 1) cs with
    | ']' :: rest => some ([], rest)
    | cs => do
      let (v, rest) ← value? fuel depth cs
      match skipLines (rest.length + 1) rest with
      | ',' :: rest => do
        let (vs, rest) ← items? fuel depth rest
        return (v :: vs, rest)
      | ']' :: rest => return ([v], rest)
      | _ => none

/-- The pairs of an inline table, behind its opening brace or a comma. -/
def inlinePairs? : Nat → Nat → Bool → Parser (List Pair)
  | 0, _, _, _ => none
  | fuel + 1, depth, first, cs =>
    match first, skipBlanks cs with
    | true, '\x7d' :: rest => some ([], rest)
    | _, cs => do
      let (path, name, rest) ← key? (cs.length + 1) cs
      let (v, rest) ← value? fuel depth (skipBlanks (← expect? '=' rest))
      match skipBlanks rest with
      | ',' :: rest => do
        let (pairs, rest) ← inlinePairs? fuel depth false rest
        return (⟨path, name, v⟩ :: pairs, rest)
      | '\x7d' :: rest => return ([⟨path, name, v⟩], rest)
      | _ => none

end

/-! ### Sections -/

/-- What a header names: a table, or one more table of an array. -/
structure Header where
  path : List String
  name : String
  ofArray : Bool

/-- A header with the pairs below it. -/
structure Section where
  header : Header
  pairs : List Pair

/-- The header in front of a text, and the text behind its line. -/
def header? (cs : List Char) : Option (Header × List Char) := do
  let ofArray := cs.take 2 = ['[', '[']
  let (path, name, rest) ← key? (cs.length + 1) (cs.drop (if ofArray then 2 else 1))
  let rest ← expect? ']' rest
  let rest ← if ofArray then expect? ']' rest else some rest
  return (⟨path, name, ofArray⟩, ← lineEnd? rest)

/-- The pair in front of a text, and the text behind its line. -/
def pair? (cs : List Char) : Option (Pair × List Char) := do
  let (path, name, rest) ← key? (cs.length + 1) cs
  let rest := skipBlanks (← expect? '=' rest)
  let (v, rest) ← value? (2 * rest.length + 2) 0 rest
  return (⟨path, name, v⟩, ← lineEnd? rest)

/-- The pairs in front of the first section of a text, and its sections. -/
def sections? : Nat → List Char → Option (List Pair × List Section)
  | 0, _ => none
  | fuel + 1, cs =>
    match skipBlanks cs with
    | [] => some ([], [])
    | '[' :: rest => do
      let (header, rest) ← header? ('[' :: rest)
      let (pairs, later) ← sections? fuel rest
      return ([], ⟨header, pairs⟩ :: later)
    | c :: rest =>
      if c = '#' ∨ c = '\n' ∨ c = '\r' then do
        sections? fuel (← lineEnd? (c :: rest))
      else do
        let (pair, rest) ← pair? (c :: rest)
        let (pairs, later) ← sections? fuel rest
        return (pair :: pairs, later)

/-- The table with a section added. -/
def Table.addSection (t : Table) (s : Section) : Option Table :=
  let name := s.header.name
  change false
    (fun t =>
      match s.header.ofArray, t.entries.lookup name with
      | true, none => do
        let new ← Table.defined.addAll s.pairs
        return t.put name (.tables [new.entries])
      | true, some (.tables all) => do
        let new ← Table.defined.addAll s.pairs
        return t.put name (.tables (all ++ [new.entries]))
      | false, none => do
        let new ← Table.defined.addAll s.pairs
        return t.put name new.item
      | false, some (.table true false entries) => do
        let new ← addAll ⟨false, false, entries⟩ s.pairs
        return t.put name new.item
      | _, _ => none)
    s.header.path t

/-- The table of a document. A byte order mark in front of it does not belong to it. -/
def parse? (text : String) : Option Value := do
  let cs := match text.toList with
    | '\ufeff' :: rest => rest
    | cs => cs
  let (pairs, later) ← sections? (cs.length + 1) cs
  let root ← Table.defined.addAll pairs
  let root ← later.foldlM Table.addSection root
  return root.item.toValue

end JobGraph.Toml
