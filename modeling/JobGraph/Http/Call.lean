import JobGraph.Duration
import JobGraph.Error
import JobGraph.Http.Status
import JobGraph.Http.UrlReading
import JobGraph.Json.Value

/-!
# Calls of servers

A call is a request on its way out. It can be built only for a URL that can be reached by
HTTP. What becomes of it is an exchange: it is refused, or the server is silent, or it answers
after some time. A caller waits for an answer only up to a limit.
-/

namespace JobGraph.Http

/-- A request on its way out. -/
structure Call where
  method : String
  url : Url
  /-- By what the caller shows who it is. -/
  authorization : Option String
  body : Option Json.Value

/-- An answer of a server. -/
structure Answer where
  status : Nat
  body : List UInt8
deriving DecidableEq, Repr

/-- What becomes of a call. -/
inductive Exchange where
  /-- Nobody listens. -/
  | refused
  /-- No answer comes. -/
  | silent
  | answered (delay : Duration) (answer : Answer)
deriving DecidableEq, Repr

/-- The way to servers: what becomes of each call. -/
@[reducible] def Transport := Call → Exchange

/-- Why a call has no answer that can be used. -/
inductive CallFault where
  /-- The call cannot be built, for a URL or for a text that is none. -/
  | unbuilt (url : Option Url)
  | refused (url : Url)
  | late (url : Url)
  /-- The answer reports an error. -/
  | status (status : Nat) (url : Url)
  /-- The body of the answer cannot be read. -/
  | unreadable
deriving DecidableEq, Repr

namespace CallFault

/-- The message for a call that has no answer. -/
def message : CallFault → String
  | unbuilt none => "builder error"
  | unbuilt (some url) => "builder error for url (" ++ url.text ++ ")"
  | refused url => "error sending request for url (" ++ url.text ++ ")"
  | late url => "error sending request for url (" ++ url.text ++ ")"
  | status code url =>
    (if isClientError code then "HTTP status client error (" else "HTTP status server error (")
      ++ statusText code ++ ") for url (" ++ url.text ++ ")"
  | unreadable => "error decoding response body"

/-- What callers from outside are told of the call. -/
def failure : CallFault → HttpFailure
  | unbuilt _ => .other
  | refused _ => .connect
  | late _ => .timeout
  | status code _ => .status code
  | unreadable => .other

end CallFault

/-- A character that may stand in a header. -/
def isHeaderChar (c : Char) : Bool :=
  c = '\t' || (' ' ≤ c && c ≠ '\x7f')

namespace Call

/-- Build a call. A user and a password are taken out of the URL. -/
def build (method : String) (url : Url) (authorization : Option String)
    (body : Option Json.Value) : Except CallFault Call :=
  if !url.hasHost then .error (.unbuilt (some url))
  else if authorization.any fun text => !text.toList.all isHeaderChar then
    .error (.unbuilt none)
  else
    let url := url.withoutCredentials
    if url.scheme = "http" ∨ url.scheme = "https" then
      .ok ⟨method, url, authorization, body⟩
    else .error (.unbuilt (some url))

/-- Build a call for the URL of a text. -/
def buildFor (method text : String) (authorization : Option String)
    (body : Option Json.Value) : Except CallFault Call :=
  match Url.parse text with
  | .ok url => build method url authorization body
  | .error _ => .error (.unbuilt none)

/-- Make a call, and wait for its answer up to a limit. The result is how long that took and
what came of it. -/
def make (transport : Transport) (limit : Duration) (call : Call) :
    Duration × Except CallFault Answer :=
  match transport call with
  | .refused => (.zero, .error (.refused call.url))
  | .silent => (limit, .error (.late call.url))
  | .answered delay answer =>
    if delay.nanoseconds ≤ limit.nanoseconds then (delay, .ok answer)
    else (limit, .error (.late call.url))

end Call

namespace Answer

/-- The answer, unless it reports an error. -/
def checked (answer : Answer) (url : Url) : Except CallFault Answer :=
  if isClientError answer.status || isServerError answer.status then
    .error (.status answer.status url)
  else .ok answer

end Answer

end JobGraph.Http
