import JobGraph.Http.Percent
import JobGraph.Json.Value

/-!
# Requests and replies of HTTP

The parts of requests that a server looks at: the path and the query of their target, the
fields of the query, their headers and the bytes of their body; and the replies it gives.
-/

namespace JobGraph.Http

/-- A request as a server receives it. The names of headers are in lowercase. -/
structure Request where
  method : String
  target : String
  headers : List (String × String)
  body : List UInt8
deriving DecidableEq, Repr

/-- A text is sent as its bytes. -/
instance coeTextToBytes : Coe String (List UInt8) :=
  ⟨fun text => Text.utf8 text.toList⟩

/-- A text split at each occurrence of a character. -/
def splitAll (at_ : Char) (cs : List Char) : List (List Char) :=
  cs.splitOn at_

/-- A text split at the first occurrence of a character, which may be absent. -/
def splitFirst (c : Char) (cs : List Char) : List Char × Option (List Char) :=
  match cs.dropWhile (· ≠ c) with
  | [] => (cs, none)
  | _ :: rest => (cs.takeWhile (· ≠ c), some rest)

/-- A target without the server in front of its path. -/
def localTarget (cs : List Char) : List Char :=
  match cs with
  | '/' :: _ => cs
  | _ =>
    let rest := cs.dropWhile (· ≠ ':')
    if rest.take 3 = [':', '/', '/'] then
      match (rest.drop 3).dropWhile fun c => c ≠ '/' && c ≠ '?' && c ≠ '#' with
      | '/' :: path => '/' :: path
      | path => '/' :: path
    else cs

namespace Request

/-- The path of a request. -/
def path (r : Request) : String :=
  String.ofList ((localTarget r.target.toList).takeWhile fun c => c ≠ '?' && c ≠ '#')

/-- The query of a request, which is empty when there is none. -/
def query (r : Request) : List Char :=
  match splitFirst '?' ((splitFirst '#' (localTarget r.target.toList)).1) with
  | (_, some query) => query
  | (_, none) => []

/-- The value of the first header of this name. -/
def header? (r : Request) (name : String) : Option String :=
  r.headers.lookup name

end Request

/-! ### Fields of forms -/

/-- The text of a part of a field, in which a plus stands for a space. -/
def formText (cs : List Char) : String :=
  String.ofList (unescapeText (cs.map fun c => if c = '+' then ' ' else c))

/-- The fields of a form: names and values, between ampersands. -/
def formFields (cs : List Char) : List (String × String) :=
  ((splitAll '&' cs).filter (!·.isEmpty)).map fun part =>
    let (name, value) := splitFirst '=' part
    (formText name, formText (value.getD []))

/-! ### Replies -/

/-- The body of a reply. -/
inductive Body where
  | empty
  | json (value : Json.Value)
  | text (content : String)
deriving Repr

/-- A reply to a request. -/
structure Response where
  status : Nat
  headers : List (String × String)
  body : Body
deriving Repr

namespace Response

/-- A reply without a body. -/
def bare (status : Nat) : Response :=
  ⟨status, [], .empty⟩

/-- A reply with a value as its body. -/
def json (status : Nat) (value : Json.Value) : Response :=
  ⟨status, [("content-type", "application/json")], .json value⟩

/-- A reply with a text as its body. -/
def text (status : Nat) (content : String) : Response :=
  ⟨status, [("content-type", "text/plain; charset=utf-8")], .text content⟩

/-- A reply with more headers. -/
def withHeaders (r : Response) (headers : List (String × String)) : Response :=
  { r with headers := r.headers ++ headers }

/-- A reply without its body, as it is given to who only asks for the headers. -/
def headersOnly (r : Response) : Response :=
  { r with body := .empty }

end Response

end JobGraph.Http
