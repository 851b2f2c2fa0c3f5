import JobGraph.Config.Basic
import JobGraph.Text.Lowercase
import JobGraph.Toml.Reading

/-!
# Loading of configurations

A configuration is read from a file in TOML, and variables of the environment replace parts of
it. Only a file that was asked for has to be there and well-formed.
-/

namespace JobGraph

open Toml (Value)

/-- Read where the program serves. -/
def ServerConfig.read? (v : Value) : Option ServerConfig := do
  let (port, host, ()) ← v.record?
    (.cons "port" (Value.natBelow? 65536) <| .cons "host" Value.text? .nil)
  let d := ServerConfig.default
  return ⟨port.getD d.port, host.getD d.host⟩

/-- Read the connection to the workflow server. -/
def ClusterConfig.read? (v : Value) : Option ClusterConfig := do
  let (baseUrl, «namespace», token, verifyTls, catalogTimeout, executorTimeout, ()) ← v.record?
    (.cons "base_url" Value.text? <| .cons "namespace" Value.text? <|
      .cons "token" Value.text? <| .cons "verify_tls" Value.flag? <|
      .cons "catalog_timeout_seconds" (Value.natBelow? (Nat.pow 2 64)) <|
      .cons "executor_timeout_seconds" (Value.natBelow? (Nat.pow 2 64)) .nil)
  let d := ClusterConfig.default
  return {
    baseUrl := baseUrl.getD d.baseUrl
    «namespace» := «namespace».getD d.namespace
    token
    verifyTls := verifyTls.getD d.verifyTls
    catalogTimeout := catalogTimeout.getD d.catalogTimeout
    executorTimeout := executorTimeout.getD d.executorTimeout }

/-- Read what workflows have in common. -/
def WorkflowConfig.read? (v : Value) : Option WorkflowConfig := do
  let (generateName, entrypoint, imagePullSecrets, defaultStorageEndpoint, ()) ← v.record?
    (.cons "generate_name" Value.text? <| .cons "entrypoint" Value.text? <|
      .cons "image_pull_secrets" (Value.items? Value.text?) <|
      .cons "default_storage_endpoint" Value.text? .nil)
  let d := WorkflowConfig.default
  return {
    generateName := generateName.getD d.generateName
    entrypoint := entrypoint.getD d.entrypoint
    imagePullSecrets := imagePullSecrets.getD d.imagePullSecrets
    defaultStorageEndpoint := defaultStorageEndpoint.getD d.defaultStorageEndpoint }

/-- The policy of a name, written exactly. -/
def ArtifactPolicy.ofName? (name : String) : Option ArtifactPolicy :=
  if name = "ignore" then some ignore
  else if name = "enforce" then some enforce
  else none

namespace Config

/-- Read where templates come from. -/
def readTemplatesDir? (v : Value) : Option (Option String) := do
  let (dir, ()) ← v.record? (.cons "templates_dir" Value.text? .nil)
  return dir

/-- Read what is checked. -/
def readPolicy? (v : Value) : Option ArtifactPolicy := do
  let (policy, ()) ← v.record?
    (.cons "required_artifacts" (Value.choice? ArtifactPolicy.ofName?) .nil)
  return policy.getD .ignore

/-- Read a configuration. -/
def read? (v : Value) : Option Config := do
  let (server, cluster, workflow, templatesDir, requiredArtifacts, ()) ← v.record?
    (.cons "server" ServerConfig.read? <| .cons "argo" ClusterConfig.read? <|
      .cons "workflow" WorkflowConfig.read? <| .cons "catalog" readTemplatesDir? <|
      .cons "validation" readPolicy? .nil)
  return {
    server := server.getD .default
    cluster := cluster.getD .default
    workflow := workflow.getD .default
    templatesDir := templatesDir.join
    requiredArtifacts := requiredArtifacts.getD .ignore }

/-- Read a configuration from a text. -/
def parse? (text : String) : Option Config :=
  (Toml.parse? text).bind read?

/-! ### The environment -/

/-- The variables of the environment that are set to a text. -/
@[reducible] def Environment := String → Option String

/-- The port that a text gives. -/
def port? (text : String) : Option Nat :=
  let digits := match text.toList with
    | '+' :: cs => cs
    | cs => cs
  if digits.isEmpty || !digits.all Char.isDigit then none
  else
    let n := digitsValue digits
    if n < 65536 then some n else none

/-- The configuration with the parts replaced that the environment gives. A port or a policy
that cannot be read is passed over. -/
def override (c : Config) (env : Environment) : Config where
  server := {
    port := ((env "VMFLOW_SERVER_PORT").bind port?).getD c.server.port
    host := (env "VMFLOW_SERVER_HOST").getD c.server.host }
  cluster := { c.cluster with
    baseUrl := (env "VMFLOW_ARGO_URL").getD c.cluster.baseUrl
    «namespace» := (env "VMFLOW_ARGO_NAMESPACE").getD c.cluster.namespace
    token := (env "VMFLOW_ARGO_TOKEN").or c.cluster.token
    verifyTls := match env "VMFLOW_ARGO_VERIFY_TLS" with
      | some verify => Text.lowercase verify ≠ "false"
      | none => c.cluster.verifyTls }
  workflow := c.workflow
  templatesDir := (env "VMFLOW_TEMPLATES_DIR").or c.templatesDir
  requiredArtifacts :=
    match (env "VMFLOW_REQUIRED_ARTIFACTS").map ArtifactPolicy.parse with
    | some (.ok policy) => policy
    | _ => c.requiredArtifacts

/-- The configuration of the file at `path`, which has to be readable and well-formed. -/
def loadFrom (path : String) (file : Except Error String) (env : Environment) :
    Except Error Config :=
  match file with
  | .error e => .error e
  | .ok text =>
    match parse? text with
    | some c => .ok (c.override env)
    | none => .error (.config (path ++ ": not a configuration"))

/-- The configuration of the default file, which need not be there nor be well-formed. -/
def load (file : Except Error String) (env : Environment) : Config :=
  (match file with
    | .ok text => (parse? text).getD .default
    | .error _ => .default).override env

end Config

end JobGraph
