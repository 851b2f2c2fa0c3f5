import JobGraph.Json.Reading
import JobGraph.Text.Blank

/-!
# Storage credentials

The credentials of an object storage, and the environment that tasks get for it. Without an
access key there is none.
-/

namespace JobGraph

/-- Credentials of an object storage. -/
structure StorageCredentials where
  accessKey : String
  secretKey : String
  endpoint : Option String
deriving DecidableEq, Repr

/-- A variable of an environment. -/
structure EnvVar where
  name : String
  value : String
deriving DecidableEq, Repr

namespace StorageCredentials

/-- The endpoint of the storage: the one given, unless it is blank. -/
def endpointOr (c : StorageCredentials) (default : String) : String :=
  match c.endpoint with
  | some endpoint => if Text.isBlank endpoint then default else endpoint
  | none => default

/-- The environment of tasks that use the storage. -/
def env (c : StorageCredentials) (defaultEndpoint : String) : List EnvVar :=
  if c.accessKey = "" then []
  else [⟨"AWS_ACCESS_KEY_ID", c.accessKey⟩, ⟨"AWS_SECRET_ACCESS_KEY", c.secretKey⟩,
    ⟨"S3_ENDPOINT_URL", c.endpointOr defaultEndpoint⟩]

/-- Read credentials. Keys that are not given are empty. -/
def read (medium : Json.Medium) (d : Json.Draft) : Except Json.Fault StorageCredentials := do
  let json := Json.format medium
  let (accessKey, secretKey, endpoint, ()) ← json.record
    (.cons "accessKey" json.text <| .cons "secretKey" json.text <|
      .cons "endpoint" (json.optional json.text) .nil) d
  return ⟨accessKey.getD "", secretKey.getD "", endpoint.join⟩

end StorageCredentials

end JobGraph
