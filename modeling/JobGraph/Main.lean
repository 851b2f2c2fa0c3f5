import JobGraph.Cli.Session

/-!
# The program

The command line on the files, the environment and the terminal of the machine. It has no way
to servers: whatever is asked of one is refused.
-/

namespace JobGraph.Cli

/-- The variables of the environment that the program looks at. -/
def watchedVariables : List String :=
  ["HOME", "XDG_CONFIG_HOME", "VMFLOW_CONFIG", "VMFLOW_LOG_FORMAT", "VMFLOW_SERVER_PORT",
    "VMFLOW_SERVER_HOST", "VMFLOW_ARGO_URL", "VMFLOW_ARGO_NAMESPACE", "VMFLOW_ARGO_TOKEN",
    "VMFLOW_ARGO_VERIFY_TLS", "VMFLOW_TEMPLATES_DIR", "VMFLOW_REQUIRED_ARTIFACTS"]

/-- The environment of the machine. -/
def machineEnvironment : IO Config.Environment := do
  let values ← watchedVariables.mapM fun name => do return (name, ← IO.getEnv name)
  return fun name => (values.lookup name).join

/-- What a name in a directory of the machine stands for. -/
def machineEntry (e : IO.FS.DirEntry) : IO DirectoryEntry := do
  let content ← try
      if (← e.path.metadata).type == .file then
        pure (.file (← IO.FS.readBinFile e.path).toList)
      else pure .other
    catch failure => pure (.unreadable (toString failure))
  return ⟨e.fileName, content⟩

/-- The files of the machine. -/
def machineFiles : Files IO where
  read path := do
    try return .ok (← IO.FS.readBinFile path).toList
    catch failure => return .error (toString failure)
  list path := do
    let here : IO.FS.DirEntry := ⟨path, "."⟩
    try return some (← (← here.path.readDir).toList.mapM machineEntry)
    catch _ => return none
  write path text := do
    try IO.FS.writeFile path text; return true
    catch _ => return false

/-- The line of an event. -/
def eventLine (format : LogFormat) (event : Event) : String :=
  let record := event.record
  match format with
  | .json => record.toValue.write
  | .text => record.severity.name ++ " " ++ record.teller ++ ": " ++ record.message

end JobGraph.Cli

open JobGraph Cli in
/-- Run the command line. Events are told as far as they are more than details. -/
def main (args : List String) : IO UInt32 := do
  let env ← machineEnvironment
  let outcome ← runSession machineFiles env (fun _ => .refused) args
  let format := LogFormat.parse (env "VMFLOW_LOG_FORMAT")
  for event in outcome.events do
    unless event.record.severity = .debug do IO.println (eventLine format event)
  IO.print outcome.output
  unless outcome.errors.isEmpty do IO.eprintln outcome.errors
  return outcome.exitCode.toUInt32
