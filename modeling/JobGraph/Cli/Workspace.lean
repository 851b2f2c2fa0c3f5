import JobGraph.Cli.Session

/-!
# Directories in memory

A directory with files and directories in it, held in memory, on which sessions of the command
line can run. Paths are relative to it, or begin with its own path.
-/

namespace JobGraph.Cli

/-- What is at a path of a directory in memory. -/
inductive Content where
  | file (bytes : List UInt8)
  | directory
deriving DecidableEq, Repr

/-- A directory in memory. -/
structure Workspace where
  /-- The parts of its own path. -/
  root : List String
  /-- What is in it, by the parts of the path. Directories around files need not be there. -/
  contents : List (List String × Content)
deriving DecidableEq, Repr

namespace Workspace

/-- The parts of a path with what counts as a step resolved. -/
def steps (before : List String) : List String → List String
  | [] => before
  | part :: parts =>
    steps (if part = "" ∨ part = "." then before
      else if part = ".." then before.dropLast else before ++ [part]) parts

/-- The parts of a path between slashes. -/
def parts (path : String) : List String :=
  (path.toList.splitOn '/').map String.ofList

/-- The directory of this path, with contents under relative paths. -/
def ofFiles (root : String) (contents : List (String × Content)) : Workspace :=
  ⟨steps [] (parts root), contents.map fun (path, content) => (steps [] (parts path), content)⟩

/-- The parts of a path in the directory. -/
def locate? (w : Workspace) (path : String) : Option (List String) :=
  if path.isEmpty then none
  else
    let place := steps (if path.startsWith "/" then [] else w.root) (parts path)
    if w.root.isPrefixOf place then some (place.drop w.root.length) else none

/-- What is at a place. -/
def content? (w : Workspace) (place : List String) : Option Content :=
  match w.contents.lookup place with
  | some content => some content
  | none =>
    if place = [] ∨ w.contents.any fun (own, _) => place.isPrefixOf own then some .directory
    else none

/-- The bytes of a file. -/
def read (w : Workspace) (path : String) : Except String (List UInt8) :=
  match (w.locate? path).bind w.content? with
  | some (.file bytes) => .ok bytes
  | some .directory => .error "Is a directory (os error 21)"
  | none => .error "No such file or directory (os error 2)"

/-- The names directly in a place. -/
def namesIn (w : Workspace) (place : List String) : List String :=
  (w.contents.filterMap fun (own, _) =>
    if place.isPrefixOf own then (own.drop place.length).head? else none).eraseDups

/-- What is in a directory. -/
def list (w : Workspace) (path : String) : Option (List DirectoryEntry) := do
  let place ← w.locate? path
  match ← w.content? place with
  | .file _ => none
  | .directory =>
    return (w.namesIn place).map fun name =>
      ⟨name, match w.content? (place ++ [name]) with
        | some (.file bytes) => .file bytes
        | _ => .other⟩

/-- The directory with a file written. Its directory has to be there. -/
def write (w : Workspace) (path text : String) : Bool × Workspace :=
  match w.locate? path with
  | some (part :: parts) =>
    let place := part :: parts
    if w.content? place ≠ some .directory ∧ w.content? place.dropLast = some .directory then
      (true, ⟨w.root, (place, .file (Text.utf8 text.toList)) :: w.contents⟩)
    else (false, w)
  | _ => (false, w)

/-- The way to files in memory. -/
def files : Files (StateM Workspace) where
  read path := do return (← get).read path
  list path := do return (← get).list path
  write path text := modifyGet fun w => w.write path text

end Workspace

end JobGraph.Cli
