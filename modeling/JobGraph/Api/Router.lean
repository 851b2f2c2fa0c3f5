import JobGraph.Api.Access
import JobGraph.Http.MediaType
import JobGraph.Pipeline.Basic
import JobGraph.Report

/-!
# The interface for the editor of graphs

The calls that the interface answers: whether it is there, what templates there are, what an
entrypoint needs, and the running of a graph. Errors are answered with their code and the
message for callers from outside.
-/

namespace JobGraph

open Http (Response)
open Json (Value)

namespace Api

/-- The calls of the interface. -/
inductive Route where
  | health
  | templates
  | details
  | submit
deriving DecidableEq, Repr

/-- The route of a path. -/
def Route.ofPath? (path : String) : Option Route :=
  if path = "/api/health" then some .health
  else if path = "/api/templates" then some .templates
  else if path = "/api/templates/details" then some .details
  else if path = "/api/workflows/submit" then some .submit
  else none

/-- The methods of a route. -/
def Route.methods : Route → List String
  | .submit => ["POST"]
  | _ => ["GET", "HEAD"]

/-- The reply to a call that was at fault. -/
def badRequest (message : String) : Response :=
  .json 400 (.object [("error", .string message)])

/-- The reply that reports an error. -/
def errorReply (status : Nat) (e : Error) : Response :=
  .json status e.toValue

/-- The reply to a call that succeeded or failed with an error. -/
def reply {α : Type} (toReply : α → Response) (status : Error → Nat) (r : Run α) : Run Response :=
  { r with result := .ok (match r.result with
    | .ok a => toReply a
    | .error e => errorReply (status e) e) }

/-! ### The calls -/

/-- The call for all templates. -/
def templates (p : Pipeline) : Run Response :=
  reply (fun summaries => .json 200 (.array (summaries.map Summary.toValue))) Error.httpStatus
    p.summaries

/-- The status of an error in the details of a template. -/
def detailsStatus : Error → Nat
  | .entrypointNotFound _ _ => 404
  | _ => 500

/-- The values that a query gives to a name. -/
def queryValues (fields : List (String × String)) (name : String) : List String :=
  (fields.filter (·.1 = name)).map (·.2)

/-- The call for what an entrypoint of a template needs. Both names have to be given, once and
not blank. -/
def details (p : Pipeline) (query : List Char) : Run Response :=
  let fields := Http.formFields query
  let names := queryValues fields "name"
  let entrypoints := queryValues fields "entrypoint"
  if 1 < names.length ∨ 1 < entrypoints.length then
    .ofResult (.ok (.text 400 "Failed to deserialize query string"))
  else
    match names.filter (!Text.isBlank ·), entrypoints.filter (!Text.isBlank ·) with
    | [name], [entrypoint] =>
      reply (fun spec => .json 200 spec.toValue) detailsStatus (p.spec name entrypoint)
    | _, _ =>
      .ofResult (.ok (badRequest "Both 'name' and 'entrypoint' query parameters are required"))

/-- Why the body of a call cannot be read. -/
inductive BodyFault where
  | mediaType
  | size
  | content (fault : Json.Fault)
deriving DecidableEq, Repr

/-- The message for a body that cannot be read. -/
def BodyFault.message : BodyFault → String
  | mediaType => "Expected request with `Content-Type: application/json`"
  | size => "Failed to buffer the request body: length limit exceeded"
  | content .malformed => "Failed to parse the request body as JSON"
  | content (.mismatch _) => "Failed to deserialize the JSON body into the target type"

/-- The size of the largest body that is read, in bytes. -/
def bodyLimit : Nat := 2 * 1024 * 1024

/-- Read the body of a call to run a graph. -/
def readBody (r : Http.Request) : Except BodyFault Request :=
  if !(r.header? "content-type").any Http.isJsonMediaType then .error .mediaType
  else if bodyLimit < r.body.length then .error .size
  else
    match Request.ofBytes r.body with
    | .ok request => .ok request
    | .error fault => .error (.content fault)

/-- The reply to a graph that was run. -/
def emissionReply : Emission → Response
  | .definition yaml =>
    .json 200 (.object [("status", .string "success"), ("yaml", .string yaml)])
  | .submitted id =>
    .json 200 (.object [("status", .string "submitted"), ("workflow_name", .string id),
      ("message", .string ("Workflow " ++ id ++ " submitted to cluster."))])

/-- The call to run a graph. -/
def submit (p : Pipeline) (r : Http.Request) : Run Response :=
  match readBody r with
  | .error fault => .ofResult (.ok (badRequest fault.message))
  | .ok request =>
    if request.graph.nodes.isEmpty then .ofResult (.ok (badRequest "No nodes provided"))
    else reply emissionReply Error.httpStatus (p.run request)

/-! ### The interface as a whole -/

/-- The reply of a route to a call by one of its methods. -/
def Route.call (route : Route) (p : Pipeline) (r : Http.Request) : Run Response :=
  match route with
  | .health => .ofResult (.ok (.json 200 (.object [("status", .string "ok")])))
  | .templates => Api.templates p
  | .details => Api.details p r.query
  | .submit => Api.submit p r

/-- The reply to a request by a method that its route knows. -/
def Route.serve (route : Route) (p : Pipeline) (r : Http.Request) : Run Response :=
  if r.method = "HEAD" then do
    let reply ← route.call p r
    return reply.headersOnly
  else route.call p r

/-- The reply to a request that is taken up. Any request by the method of preflights is answered as
one. -/
def serve (access : Access) (p : Pipeline) (r : Http.Request) : Run Response := do
  let origin := r.header? "origin"
  let route := Route.ofPath? r.path
  let allow : List (String × String) := match route with
    | some route => [("allow", ",".intercalate route.methods)]
    | none => []
  if r.method = "OPTIONS" then
    return (Response.bare 200).withHeaders (access.preflightHeaders origin ++ allow)
  else
    match route with
    | none => return (Response.bare 404).withHeaders (access.headers origin)
    | some route =>
      if r.method ∈ route.methods then
        let reply ← route.serve p r
        return reply.withHeaders (access.headers origin)
      else return (Response.bare 405).withHeaders (access.headers origin ++ allow)

/-- What comes of a request while so many calls are under way: its reply, or nothing for as long as
it has to wait. -/
def receive (access : Access) (p : Pipeline) (underWay : Nat) (r : Http.Request) :
    Option (Run Response) :=
  if access.admits r.method underWay then some (serve access p r) else none

end Api

end JobGraph
