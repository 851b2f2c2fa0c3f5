import JobGraph.Cluster.Service
import JobGraph.Log.Compilation
import JobGraph.Pipeline.Basic
import JobGraph.Template.Folder

/-!
# Events of runs

The events in the runs of a pipeline, in the order in which they happen, given what the
catalog and the executor tell about the calls they get.
-/

namespace JobGraph

/-- What services tell about the calls they get. -/
structure Tellers where
  /-- The events in the asking for a template. -/
  fetching : String → List Event
  /-- The events when a workflow was accepted under a name. -/
  accepted : String → List Event

namespace Tellers

variable {α : Type}

/-- The events in the asking of a run. -/
def asking (tellers : Tellers) (run : Run α) : List Event :=
  run.asked.flatMap tellers.fetching

/-- The events in the analysis of a graph whose templates are at hand. -/
def assembling (settings : PipelineSettings) (g : Graph)
    (templates : List (String × Template)) : List Event :=
  let resolver := resolveAmong templates
  let found := .templatesAtHand g.nodes.length g.edges.length templates.length
  let compiling := Graph.compilationEvents resolver .empty g.nodes
  match g.compile .empty resolver with
  | (.error _, _) => found :: compiling
  | (.ok c, cache) =>
    let linked := c.link g
    found :: compiling ++ c.linkingEvents g g.edges ++ [.graphCompiled linked.tasks.length
      cache.size cache.hits (validate linked.tasks linked.specs settings.artifactPolicy).length]

/-- The events in the analysis of a graph. -/
def analysis (tellers : Tellers) (p : Pipeline) (g : Graph) : List Event :=
  match g.accept with
  | .error _ => []
  | .ok () =>
    let fetched := p.catalog.templates p.settings g.templateNames.names
    tellers.asking fetched ++
      (match fetched.result with
        | .ok templates => assembling p.settings g templates
        | .error _ => [])

/-- The events in the compilation of a graph, which has to be without violations. -/
def compilation (tellers : Tellers) (p : Pipeline) (g : Graph) : List Event :=
  tellers.analysis p g ++
    (match (p.analyze g).result with
      | .ok (_, violation :: violations) => [.graphInvalid (violation :: violations).length]
      | _ => [])

/-- The events in the run of a request. -/
def run (tellers : Tellers) (p : Pipeline) (request : Request) : List Event :=
  let run := p.run request
  tellers.compilation p request.graph ++
    (match run.result, run.submitted with
      | .ok (.submitted id), [m] =>
        tellers.accepted id ++ [.workflowHandedOver id m.taskCount]
      | _, _ => [])

end Tellers

/-! ### The services -/

namespace Connection

/-- The events in setting up a connection. -/
def events (c : Connection) : List Event :=
  if c.verifyTls then [] else [.tlsUnverified c.baseUrl]

/-- The events in the asking for a template. -/
def fetchEvents (c : Connection) (name : String) : List Event :=
  if Text.isBlank name then []
  else
    match c.templateUrl name with
    | .ok url => [.templateFetched url.text]
    | .error _ => []

end Connection

namespace TemplateFolder

/-- The path of a file in a directory. -/
def filePath (root : String) (e : DirectoryEntry) : String :=
  if root.isEmpty ∨ root.toList.getLast? = some '/' then root ++ e.name
  else root ++ "/" ++ e.name

/-- The events in the loading of files into a folder. -/
def loadingEvents (root : String) (folder : TemplateFolder) : List DirectoryEntry → List Event
  | [] => []
  | e :: entries =>
    (match e.template with
      | .error fault => [.templateSkipped (filePath root e) fault.message]
      | .ok t =>
        if folder.templates.contains (e.templateName t) then
          [.templateReplaced (e.templateName t) (filePath root e)]
        else [])
      ++ loadingEvents root (folder.add e) entries

/-- The events in the loading of a directory. -/
def events (root : String) (entries : List DirectoryEntry) : List Event :=
  loadingEvents root empty (templateFiles entries)
    ++ [.folderLoaded root (ofEntries entries).names.length]

end TemplateFolder

end JobGraph
