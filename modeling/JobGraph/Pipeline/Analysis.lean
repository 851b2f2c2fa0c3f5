import JobGraph.Pipeline.Run
import JobGraph.Task.Compilation
import JobGraph.Task.Linking

/-!
# Analysis of graphs

A graph is analyzed by checking it, fetching the templates that its nodes use, compiling and
linking it, and validating its tasks. Nothing is fetched for a graph that is not accepted.
Each template is fetched once, in the order of the names.
-/

namespace JobGraph

namespace Catalog

/-- The failure of a catalog to answer in time. -/
def timeoutError (settings : PipelineSettings) (call : String) : Error :=
  .catalogUnavailable (call ++ " timed out after " ++ settings.catalogTimeout.text ++ "s")

/-- What becomes of the call for a template. -/
def fetchCall (catalog : Catalog) (settings : PipelineSettings) (name : String) :
    Reply.Done Template :=
  (catalog.fetch name).within settings.catalogTimeout
    (timeoutError settings ("fetching template '" ++ name ++ "'"))

/-- Ask for the template of a name. -/
def template (catalog : Catalog) (settings : PipelineSettings) (name : String) : Run Template :=
  ⟨[name], [], (catalog.fetchCall settings name).result⟩

/-- Ask for the templates of names, together. -/
def templates (catalog : Catalog) (settings : PipelineSettings) (names : List String) :
    Run (List (String × Template)) :=
  let (asked, result) := Reply.gather (catalog.fetchCall settings) names
  ⟨asked, [], result.map fun found => names.zip found⟩

/-- Ask for the names of all templates. -/
def names (catalog : Catalog) (settings : PipelineSettings) : Run (List String) :=
  .ofResult (catalog.list.within settings.catalogTimeout
    (timeoutError settings "listing templates")).result

end Catalog

/-- The resolver of specs from templates at hand. -/
def resolveAmong (templates : List (String × Template)) (key : SpecKey) : Except Error Spec :=
  match templates.lookup key.template with
  | some t => t.resolve key.template key.entrypoint
  | none => .error (.templateNotFound key.template)

namespace Graph

/-- The names of the templates that the nodes use, each once and in order. -/
def templateNames (g : Graph) : NameSet :=
  .ofList (g.nodes.map Node.templateName)

/-- Accept a graph that can be compiled. -/
def accept (g : Graph) : Except Error Unit :=
  if g.nodes.isEmpty then .error (.invalidGraph Defect.noNodes.message)
  else
    match g.check with
    | .ok () => .ok ()
    | .error defect => .error (.invalidGraph defect.message)

/-- Compile a graph with the templates at hand, and bind its artifacts. -/
def assemble (g : Graph) (templates : List (String × Template)) : Except Error CompiledGraph :=
  match (g.compile .empty (resolveAmong templates)).1 with
  | .ok c => .ok (c.link g)
  | .error e => .error e

/-- The compiled graph and the violations of its tasks. -/
def analyze (g : Graph) (catalog : Catalog) (settings : PipelineSettings) :
    Run (CompiledGraph × List Violation) := do
  Run.ofResult g.accept
  let templates ← catalog.templates settings g.templateNames.names
  let c ← Run.ofResult (g.assemble templates)
  return (c, validate c.tasks c.specs settings.artifactPolicy)

/-- The compiled graph, if its tasks have no violations. -/
def compileValid (g : Graph) (catalog : Catalog) (settings : PipelineSettings) :
    Run CompiledGraph := do
  let (c, violations) ← g.analyze catalog settings
  Run.ofResult (reportResult violations)
  return c

end Graph

end JobGraph
