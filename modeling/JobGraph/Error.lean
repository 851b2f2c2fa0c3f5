/-!
# Errors

Every way in which the compilation of a graph can fail, with the code, the status and the
messages under which it is reported. What callers from outside see hides the details of the
machine and its configuration.
-/

namespace JobGraph

/-- Why an HTTP exchange failed. -/
inductive HttpFailure where
  /-- The server answered with an error status. -/
  | status (code : Nat)
  | timeout
  | connect
  | other
deriving DecidableEq, Repr

/-- An error. -/
inductive Error where
  | templateNotFound (name : String)
  | entrypointNotFound (template entrypoint : String)
  | validationFailed (messages : List String)
  | catalogUnavailable (reason : String)
  | submissionFailed (reason : String)
  | invalidGraph (reason : String)
  | parse (reason : String)
  | config (reason : String)
  | http (failure : HttpFailure)
  | yaml (reason : String)
  | json (reason : String)
  | io (reason : String)
deriving DecidableEq, Repr

/-- What callers from outside see of a failed HTTP exchange. -/
def HttpFailure.message : HttpFailure → String
  | status code => "HTTP request failed with status " ++ toString code
  | timeout => "HTTP request timed out"
  | connect => "Failed to connect to remote server"
  | other => "HTTP request failed"

namespace Error

/-- The code of an error, by which programs tell errors apart. -/
def code : Error → String
  | templateNotFound _ => "TEMPLATE_NOT_FOUND"
  | entrypointNotFound _ _ => "ENTRYPOINT_NOT_FOUND"
  | validationFailed _ => "VALIDATION_FAILED"
  | catalogUnavailable _ => "CATALOG_UNAVAILABLE"
  | submissionFailed _ => "EXECUTOR_SUBMISSION_FAILED"
  | invalidGraph _ => "INVALID_GRAPH"
  | parse _ => "PARSE_ERROR"
  | config _ => "CONFIG_ERROR"
  | http _ => "HTTP_ERROR"
  | yaml _ => "YAML_ERROR"
  | json _ => "JSON_ERROR"
  | io _ => "IO_ERROR"

/-- The status with which an HTTP server reports an error. Only graphs and templates that are
malformed are the caller's fault. -/
def httpStatus : Error → Nat
  | invalidGraph _ => 400
  | parse _ => 400
  | _ => 500

/-- The message of an error. -/
def message : Error → String
  | templateNotFound name => "Template '" ++ name ++ "' not found"
  | entrypointNotFound template entrypoint =>
    "Entrypoint '" ++ entrypoint ++ "' not found in '" ++ template ++ "'"
  | validationFailed messages => "Validation failed:\n- " ++ "\n- ".intercalate messages
  | catalogUnavailable reason => "Template catalog unavailable: " ++ reason
  | submissionFailed reason => "Workflow submission failed: " ++ reason
  | invalidGraph reason => "Invalid graph: " ++ reason
  | parse reason => "Parse error: " ++ reason
  | config reason => "Configuration error: " ++ reason
  | http failure => "HTTP error: " ++ failure.message
  | yaml reason => "YAML error: " ++ reason
  | json reason => "JSON error: " ++ reason
  | io reason => "IO error: " ++ reason

/-- The message that callers from outside see. -/
def externalMessage : Error → String
  | io _ => "An I/O error occurred"
  | config _ => "A configuration error occurred"
  | http failure => failure.message
  | e => e.message

end Error

end JobGraph
