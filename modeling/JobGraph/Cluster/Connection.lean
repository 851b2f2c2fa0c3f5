import JobGraph.Duration
import JobGraph.Error
import JobGraph.Http.UrlReading

/-!
# Connections to the workflow server

How the workflow server is reached, and the URLs of what it keeps: templates and workflows,
each in a namespace.
-/

namespace JobGraph

open Http (Url)

/-- How the workflow server is reached. -/
structure Connection where
  baseUrl : String
  «namespace» : String
  token : Option String
  verifyTls : Bool
  /-- How long the server may take for an answer. -/
  timeout : Duration
deriving DecidableEq, Repr

/-- The kinds of what the workflow server keeps. -/
inductive Resource where
  | templates
  | workflows
deriving DecidableEq, Repr

/-- The name of a kind in URLs. -/
def Resource.name : Resource → String
  | templates => "workflow-templates"
  | workflows => "workflows"

namespace Connection

/-- The base of all URLs, without slashes at its end. -/
def base (c : Connection) : String :=
  String.ofList (c.baseUrl.toList.reverse.dropWhile (· = '/')).reverse

/-- The text of the URL under which the server lists a kind. -/
def address (c : Connection) (resource : Resource) : String :=
  c.base ++ "/api/v1/" ++ resource.name ++ "/" ++ c.namespace

/-- The URL under which the server lists a kind. -/
def listUrl (c : Connection) (resource : Resource) : Except Http.UrlFault Url :=
  Url.parse (c.address resource)

/-- The error of a base that no URL can be made of. -/
def baseError (reason : String) : Error :=
  .config ("Invalid Argo base URL: " ++ reason)

/-- The URL of a template: the name is one more segment behind the list of templates. -/
def templateUrl (c : Connection) (name : String) : Except Error Url :=
  match c.listUrl .templates with
  | .error fault => .error (baseError fault.message)
  | .ok url =>
    match url.push? name with
    | some url => .ok url
    | none => .error (baseError c.baseUrl)

/-- A text without the times that it starts with `start`. -/
def dropStarts (start : List Char) (h : start ≠ []) (cs : List Char) : List Char :=
  if start.isPrefixOf cs then dropStarts start h (cs.drop start.length) else cs
termination_by cs.length
decreasing_by
  have := List.length_pos_iff.mpr h
  rename_i starts
  obtain ⟨rest, rfl⟩ := List.isPrefixOf_iff_prefix.mp starts
  simp only [List.length_append, List.length_drop]
  omega

/-- What shows the server who is calling. -/
def authorization (c : Connection) : Option String :=
  c.token.map fun token =>
    "Bearer " ++ Text.trim (String.ofList
      (dropStarts "Bearer ".toList (by decide) token.toList))

end Connection

end JobGraph
