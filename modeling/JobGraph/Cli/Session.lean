import JobGraph.Cli.Invocation
import JobGraph.Cli.Output
import JobGraph.Log.Pipeline

/-!
# Sessions of the command line

A session reads the command line, the configuration and the files that the command needs, runs
the command, and writes what it made. The files are reached through `Files`; all else is
computed from what they hold.
-/

namespace JobGraph.Cli

/-- The way to files. -/
structure Files (m : Type → Type) where
  /-- The bytes of a file, or why they cannot be read. -/
  read : String → m (Except String (List UInt8))
  /-- What is in a directory, if there is one. -/
  list : String → m (Option (List DirectoryEntry))
  /-- Write a file. The result says whether that succeeded. -/
  write : String → String → m Bool

/-- What a session leaves behind. -/
structure Outcome where
  exitCode : Nat
  output : String
  /-- What is printed of an error. -/
  errors : String
  events : List Event
deriving DecidableEq, Repr

/-- What a command comes to before anything is written. -/
structure Conclusion where
  events : List Event
  output : String
  /-- The message of an error. -/
  failure : Option String
  /-- The path and the text of a file to be written. -/
  written : Option (String × String)
deriving DecidableEq, Repr

namespace Conclusion

/-- A command that failed. -/
def failed (events : List Event) (message : String) : Conclusion :=
  ⟨events, "", some message, none⟩

/-- A command that prints. -/
def printed (events : List Event) (output : String) : Conclusion :=
  ⟨events, output, none, none⟩

end Conclusion

namespace Outcome

/-- The version of the program. -/
def versionText : String := "vmflow 0.1.0\n"

/-- The outcome of a command line that asks for nothing to be done. -/
def ofStop : Stop → Outcome
  | .misuse => ⟨2, "", "Usage: vmflow [OPTIONS] <COMMAND>", []⟩
  | .version => ⟨0, versionText, "", []⟩
  | .help => ⟨0, "Usage: vmflow [OPTIONS] <COMMAND>\n", "", []⟩

/-- The outcome of a session that fails. -/
def failed (events : List Event) (output message : String) : Outcome :=
  ⟨1, output, "Error: " ++ message, events⟩

end Outcome

/-- The text of a file. -/
def textOf (content : Except String (List UInt8)) : Except Error String :=
  match content with
  | .error reason => .error (.io reason)
  | .ok bytes =>
    match Text.ofUtf8? bytes with
    | some text => .ok text
    | none => .error (.io "stream did not contain valid UTF-8")

/-! ### Configuration -/

/-- The path of the configuration when none is named. -/
def defaultConfigPath (env : Config.Environment) : String :=
  match (env "XDG_CONFIG_HOME").filter (·.startsWith "/"), env "HOME" with
  | some dir, _ => dir ++ "/vmflow/config.toml"
  | none, some home => home ++ "/.config/vmflow/config.toml"
  | none, none => ".vmflow/config.toml"

namespace Invocation

/-- The path of the configuration. -/
def configPath (i : Invocation) (env : Config.Environment) : String :=
  i.config.getD (defaultConfigPath env)

/-- The configuration, from the file at its path. -/
def configuration (i : Invocation) (env : Config.Environment) (file : Except Error String) :
    Except String Config :=
  let loaded : Except String Config := match i.config with
    | some path =>
      match Config.loadFrom path file env with
      | .ok c => .ok c
      | .error _ => .error ("Failed to load config from " ++ path)
    | none => .ok (Config.load file env)
  loaded.map fun c => { c with templatesDir := i.templatesDir.or c.templatesDir }

/-- The events in the loading of a configuration. -/
def configurationEvents (env : Config.Environment) : List Event :=
  match (env "VMFLOW_REQUIRED_ARTIFACTS").map ArtifactPolicy.parse with
  | some (.error e) => [.policyPassedOver e.message]
  | _ => []

end Invocation

/-! ### Commands -/

/-- A pipeline and what its services tell. -/
structure Setup where
  pipeline : Pipeline
  tellers : Tellers
  events : List Event

/-- Set up the pipeline of a configuration, with what is in the directory of templates if it
has one. -/
def setUp (c : Config) (transport : Http.Transport) (folder : Option (List DirectoryEntry)) :
    List Event × Except Error Setup :=
  let connection := c.connection
  let executor := connection.executor transport
  let accepted (name : String) : List Event := [.workflowSubmitted name connection.namespace]
  match c.templatesDir with
  | none =>
    (connection.events, .ok ⟨⟨connection.catalog transport, executor, c.pipelineSettings⟩,
      ⟨connection.fetchEvents, accepted⟩, connection.events⟩)
  | some dir =>
    match TemplateFolder.load dir folder with
    | .error e => (connection.events, .error e)
    | .ok templates =>
      let events := connection.events ++ TemplateFolder.events dir (folder.getD [])
      (events, .ok ⟨⟨templates.catalog, executor, c.pipelineSettings⟩,
        ⟨fun _ => [], accepted⟩, events⟩)

/-- The request in a file. -/
def requestOf (file : String) (content : Except Error String) : Except String Request :=
  match content with
  | .error _ => .error ("Failed to read " ++ file)
  | .ok text =>
    match Request.ofText text with
    | .ok request => .ok request
    | .error _ => .error ("Invalid request in " ++ file)

namespace Setup

/-- List all templates. -/
def listTemplates (s : Setup) : Conclusion :=
  let run := s.pipeline.summaries
  let events := s.events ++ s.tellers.asking run
  match run.result with
  | .ok summaries => .printed events (templateTable summaries)
  | .error e => .failed events e.message

/-- Show an entrypoint of a template. -/
def showEntrypoint (s : Setup) (events : List Event) (name entrypoint : String) : Conclusion :=
  let run := s.pipeline.spec name entrypoint
  let events := events ++ s.tellers.asking run
  match run.result with
  | .ok spec => .printed events (specText spec)
  | .error e => .failed events e.message

/-- Show a template. Where no entrypoint is named it is the template's own. -/
def showTemplate (s : Setup) (name : String) (entrypoint : Option String) : Conclusion :=
  match entrypoint with
  | some entrypoint => s.showEntrypoint s.events name entrypoint
  | none =>
    let run := s.pipeline.summaries
    let events := s.events ++ s.tellers.asking run
    match run.result with
    | .error e => .failed events e.message
    | .ok summaries =>
      match (summaries.find? (·.name = name)).bind Summary.defaultEntrypoint with
      | some entrypoint => s.showEntrypoint events name entrypoint
      | none => .failed events ("Template not found: " ++ name)

/-- Compile a request, and print its definition, write it to a file or submit it. -/
def compile (s : Setup) (request : Request) (submit : Bool) (output : Option String) :
    Conclusion :=
  let request := { request with action := if submit then .submit else .download }
  let events := s.events ++ s.tellers.run s.pipeline request
  match (s.pipeline.run request).result with
  | .error e => .failed events e.message
  | .ok (.submitted id) => .printed events ("Workflow " ++ id ++ " submitted to cluster.\n")
  | .ok (.definition yaml) =>
    match output with
    | none => .printed events yaml
    | some path =>
      ⟨events, "Workflow written to " ++ path ++ "\n", none, some (path, yaml)⟩

/-- Validate a request. -/
def validate (s : Setup) (request : Request) : Conclusion :=
  let events := s.events ++ s.tellers.analysis s.pipeline request.graph
  match (s.pipeline.analyze request.graph).result with
  | .error e => .failed events e.message
  | .ok (_, []) => .printed events (orderText request.graph)
  | .ok (_, violations) => ⟨events, violationsText violations, some "Validation failed", none⟩

end Setup

namespace Command

/-- The file that a command reads. -/
def file? : Command → Option String
  | compile file _ _ => some file
  | validate file => some file
  | _ => none

/-- Run a command on a pipeline, with the request it reads. -/
def run (command : Command) (request : Option Request) (s : Setup) : Conclusion :=
  match command, request with
  | listTemplates, _ => s.listTemplates
  | showTemplate name entrypoint, _ => s.showTemplate name entrypoint
  | compile _ submit output, some request => s.compile request submit output
  | validate _, some request => s.validate request
  | _, none => .failed [] "No request"

/-- Run a command. The request is read before anything is set up. -/
def conclude (command : Command) (c : Config) (transport : Http.Transport)
    (content : Except Error String) (folder : Option (List DirectoryEntry)) : Conclusion :=
  match command.file?.map fun file => requestOf file content with
  | some (.error message) => .failed [] message
  | request =>
    match setUp c transport folder with
    | (events, .error e) => .failed events e.message
    | (_, .ok s) => command.run (request.bind Except.toOption) s

end Command

/-! ### Sessions -/

variable {m : Type → Type} [Monad m]

/-- The outcome of a command, after what it made was written. -/
def Conclusion.finish (c : Conclusion) (files : Files m) : m Outcome :=
  match c.failure, c.written with
  | some message, _ => return .failed c.events c.output message
  | none, none => return ⟨0, c.output, "", c.events⟩
  | none, some (path, text) => do
    if ← files.write path text then return ⟨0, c.output, "", c.events⟩
    else return .failed c.events "" ("Failed to write " ++ path)

/-- Run the command line with these arguments. -/
def runSession (files : Files m) (env : Config.Environment) (transport : Http.Transport)
    (args : List String) : m Outcome := do
  match Invocation.parse env args with
  | .error stop => return .ofStop stop
  | .ok i =>
    match i.configuration env (textOf (← files.read (i.configPath env))) with
    | .error message => return .failed [] "" message
    | .ok c =>
      let content ← match i.command.file? with
        | some file => files.read file
        | none => pure (.error "no file")
      let folder ← match c.templatesDir with
        | some dir => files.list dir
        | none => pure none
      let conclusion := i.command.conclude c transport (textOf content) folder
      { conclusion with
        events := Invocation.configurationEvents env ++ conclusion.events }.finish files

end JobGraph.Cli
