import JobGraph.Cluster.Connection
import JobGraph.Json.Value
import JobGraph.Pipeline.Run

/-!
# Configuration

The configuration of the program: where it serves, the workflow server it talks to, what
workflows have in common, where templates come from, and what is checked. Every part has a
default.
-/

namespace JobGraph

/-- Where the program serves. -/
structure ServerConfig where
  port : Nat
  host : String
deriving DecidableEq, Repr

/-- The connection to the workflow server. -/
structure ClusterConfig where
  baseUrl : String
  «namespace» : String
  token : Option String
  verifyTls : Bool
  catalogTimeout : Nat
  executorTimeout : Nat
deriving DecidableEq, Repr

/-- What workflows have in common. -/
structure WorkflowConfig where
  generateName : String
  entrypoint : String
  imagePullSecrets : List String
  defaultStorageEndpoint : String
deriving DecidableEq, Repr

/-- A configuration. -/
structure Config where
  server : ServerConfig
  cluster : ClusterConfig
  workflow : WorkflowConfig
  /-- The directory that templates come from, in place of the workflow server. -/
  templatesDir : Option String
  requiredArtifacts : ArtifactPolicy
deriving DecidableEq, Repr

/-- The default place. -/
def ServerConfig.default : ServerConfig where
  port := 8000
  host := "127.0.0.1"

/-- The default connection. -/
def ClusterConfig.default : ClusterConfig where
  baseUrl := "https://argowf.hpc.wzl-iqs.rwth-aachen.de"
  «namespace» := "virtual-measurement"
  token := none
  verifyTls := true
  catalogTimeout := 30
  executorTimeout := 60

/-- The default of what workflows have in common. -/
def WorkflowConfig.default : WorkflowConfig where
  generateName := "vm-gui-job-"
  entrypoint := "main-dag"
  imagePullSecrets := ["vm-pipeline-image-pull-secret"]
  defaultStorageEndpoint := "https://s3.rwth-aachen.de"

namespace Config

/-- The default configuration. -/
def default : Config where
  server := .default
  cluster := .default
  workflow := .default
  templatesDir := none
  requiredArtifacts := .ignore

/-- The settings of the pipeline. -/
def pipelineSettings (c : Config) : PipelineSettings where
  manifest := {
    generateName := c.workflow.generateName
    «namespace» := c.cluster.namespace
    entrypoint := c.workflow.entrypoint
    imagePullSecrets := c.workflow.imagePullSecrets
    defaultStorageEndpoint := c.workflow.defaultStorageEndpoint }
  artifactPolicy := c.requiredArtifacts
  catalogTimeout := .ofSeconds c.cluster.catalogTimeout
  executorTimeout := .ofSeconds c.cluster.executorTimeout

/-- The connection to the workflow server. One timeout has to do for both of its uses. -/
def connection (c : Config) : Connection where
  baseUrl := c.cluster.baseUrl
  «namespace» := c.cluster.namespace
  token := c.cluster.token
  verifyTls := c.cluster.verifyTls
  timeout := .ofSeconds (max c.cluster.catalogTimeout c.cluster.executorTimeout)

/-- The value of a configuration, without its token. -/
def toValue (c : Config) : Json.Value :=
  let nat (n : Nat) : Json.Value := .number (.int n)
  .object [
    ("server", .object [("port", nat c.server.port), ("host", .string c.server.host)]),
    ("argo", .object [("base_url", .string c.cluster.baseUrl),
      ("namespace", .string c.cluster.namespace), ("verify_tls", .bool c.cluster.verifyTls),
      ("catalog_timeout_seconds", nat c.cluster.catalogTimeout),
      ("executor_timeout_seconds", nat c.cluster.executorTimeout)]),
    ("workflow", .object [("generate_name", .string c.workflow.generateName),
      ("entrypoint", .string c.workflow.entrypoint),
      ("image_pull_secrets", .array (c.workflow.imagePullSecrets.map .string)),
      ("default_storage_endpoint", .string c.workflow.defaultStorageEndpoint)]),
    ("catalog", .object [("templates_dir", .ofText c.templatesDir)]),
    ("validation", .object [("required_artifacts", .string c.requiredArtifacts.name)])]

end Config

end JobGraph
