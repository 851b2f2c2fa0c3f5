import JobGraph.Pipeline.Run
import JobGraph.SortedMap
import JobGraph.Template.Reading
import JobGraph.Text.Utf8

/-!
# Templates in a directory

The files of a directory that hold templates are a catalog. They are taken in the order of
their names, a file that cannot be read is passed over, and of two templates of one name the
later one counts.
-/

namespace JobGraph

/-- What a name in a directory stands for. -/
inductive EntryContent where
  | file (bytes : List UInt8)
  /-- A file that cannot be read. -/
  | unreadable (reason : String)
  /-- Something else than a file. -/
  | other
deriving DecidableEq, Repr

/-- A name in a directory. -/
structure DirectoryEntry where
  name : String
  content : EntryContent
deriving DecidableEq, Repr

namespace DirectoryEntry

/-- The name of a file at its last dot: the stem, and the extension if there is one. A dot at
the start begins no extension. -/
def splitName (name : String) : String × Option String :=
  if name = ".." then (name, none)
  else
    match name.toList.reverse.span (· ≠ '.') with
    | (extension, _ :: stem@(_ :: _)) =>
      (String.ofList stem.reverse, some (String.ofList extension.reverse))
    | _ => (name, none)

/-- The name of a file without its extension. -/
def stem (e : DirectoryEntry) : String :=
  (splitName e.name).1

/-- The extension of a file. -/
def extension? (e : DirectoryEntry) : Option String :=
  (splitName e.name).2

/-- Whether an entry is a file that should hold a template. -/
def isTemplateFile (e : DirectoryEntry) : Bool :=
  e.content ≠ .other && (e.extension? = some "yaml" || e.extension? = some "yml")

/-- The template in a file. -/
def template (e : DirectoryEntry) : Except Error Template :=
  match e.content with
  | .file bytes =>
    match Text.ofUtf8? bytes with
    | some text => Template.parse text
    | none => .error (.io "stream did not contain valid UTF-8")
  | .unreadable reason => .error (.io reason)
  | .other => .error (.io "not a file")

/-- The name under which the template of a file is kept: its own, or the name of the file. -/
def templateName (e : DirectoryEntry) (t : Template) : String :=
  t.name.getD e.stem

end DirectoryEntry

/-- The templates of a directory. -/
structure TemplateFolder where
  templates : SortedMap Template
deriving DecidableEq

namespace TemplateFolder

/-- The folder without templates. -/
def empty : TemplateFolder := ⟨.empty⟩

/-- The folder with the template of one more file, if it has one. -/
def add (folder : TemplateFolder) (e : DirectoryEntry) : TemplateFolder :=
  match e.template with
  | .ok t => ⟨folder.templates.insert (e.templateName t) t⟩
  | .error _ => folder

/-- The files that should hold templates, in the order of their names. -/
def templateFiles (entries : List DirectoryEntry) : List DirectoryEntry :=
  (entries.filter DirectoryEntry.isTemplateFile).mergeSort fun a b => a.name ≤ b.name

/-- The templates in the files of a directory. -/
def ofEntries (entries : List DirectoryEntry) : TemplateFolder :=
  (templateFiles entries).foldl add empty

/-- Load the directory `root`, which has to be there. -/
def load (root : String) (entries : Option (List DirectoryEntry)) :
    Except Error TemplateFolder :=
  match entries with
  | some entries => .ok (ofEntries entries)
  | none => .error (.config ("Templates directory not found: " ++ root))

/-- The names of the templates, in order. -/
def names (folder : TemplateFolder) : List String :=
  folder.templates.names

/-- The template of a name. -/
def fetch (folder : TemplateFolder) (name : String) : Except Error Template :=
  match folder.templates.get? name with
  | some t => .ok t
  | none => .error (.templateNotFound name)

/-- The folder as a catalog. -/
def catalog (folder : TemplateFolder) : Catalog where
  list := .now (.ok folder.names)
  fetch name := .now (folder.fetch name)

end TemplateFolder

end JobGraph
