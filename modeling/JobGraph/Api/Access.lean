import JobGraph.Config.Loading
import JobGraph.Http.Call

/-!
# Access to the interface

Whom the interface lets in, according to the environment: the origins that pages may come from
to call it, and how many calls it serves at a time. With some settings there is no interface, and
with a limit of zero there is one that serves no call.
-/

namespace JobGraph

/-- Who may call the interface. -/
structure Access where
  /-- The origins that pages may come from. -/
  origins : List String
  /-- How many calls are served at a time. -/
  concurrency : Nat
deriving DecidableEq, Repr

/-- Why an interface cannot be set up. -/
inductive AccessFault where
  /-- A list of origins may not have the one that stands for all. -/
  | anyOrigin
  /-- So many calls cannot be counted. -/
  | tooManyCalls
deriving DecidableEq, Repr

namespace Access

/-- The origin that holds when no other is given. -/
def defaultOrigin : String := "http://localhost:3000"

/-- The number of calls at a time that holds when no other is given. -/
def defaultConcurrency : Nat := 100

/-- The largest number of calls that can be counted. -/
def maxConcurrency : Nat := Nat.pow 2 61 - 1

/-- The origins in a list between commas, those that are neither blank nor ill-formed. -/
def parseOrigins (text : String) : List String :=
  ((Http.splitAll ',' text.toList).map fun part => Text.trim (String.ofList part)).filter
    fun origin => origin ≠ "" && origin.toList.all Http.isHeaderChar

/-- The origins that the environment gives. -/
def originsOf (env : Config.Environment) : List String :=
  match parseOrigins ((env "VMFLOW_CORS_ORIGINS").getD defaultOrigin) with
  | [] => [defaultOrigin]
  | origins => origins

/-- The number of calls that a text gives. -/
def parseConcurrency? (text : String) : Option Nat :=
  let digits := match text.toList with
    | '+' :: cs => cs
    | cs => cs
  if digits.isEmpty || !digits.all Char.isDigit then none
  else
    let n := digitsValue digits
    if n < Nat.pow 2 64 then some n else none

/-- The number of calls at a time that the environment gives. -/
def concurrencyOf (env : Config.Environment) : Nat :=
  ((env "VMFLOW_MAX_CONCURRENT_REQUESTS").bind parseConcurrency?).getD defaultConcurrency

/-- Who may call the interface according to the environment. -/
def ofEnvironment (env : Config.Environment) : Except AccessFault Access :=
  let origins := originsOf env
  let concurrency := concurrencyOf env
  if maxConcurrency < concurrency then .error .tooManyCalls
  else if "*" ∈ origins then .error .anyOrigin
  else .ok ⟨origins, concurrency⟩

/-- Whether a request by this method is taken up while so many calls are under way. Preflights are
answered in front of the limit. -/
def admits (access : Access) (method : String) (underWay : Nat) : Bool :=
  method = "OPTIONS" || underWay < access.concurrency

/-- The headers by which a page from another origin learns that it may read a reply. -/
def headers (access : Access) (origin : Option String) : List (String × String) :=
  let vary := [("vary", "origin, access-control-request-method, access-control-request-headers")]
  match origin with
  | some origin =>
    if origin ∈ access.origins then vary ++ [("access-control-allow-origin", origin)] else vary
  | none => vary

/-- The headers by which a page learns what it may send. -/
def preflightHeaders (access : Access) (origin : Option String) : List (String × String) :=
  access.headers origin ++ [("access-control-allow-methods", "GET,POST,OPTIONS"),
    ("access-control-allow-headers", "content-type,authorization")]

end Access

end JobGraph
