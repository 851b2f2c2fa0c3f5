import JobGraph.Http.Percent

/-!
# URLs

A URL has a scheme, an authority that may be absent, a path, and perhaps a query and a
fragment. Its parts hold the characters they are written with, escapes included. A path is a
list of segments, which can be extended, or opaque.
-/

namespace JobGraph.Http

/-- The authority of a URL. -/
structure Authority where
  /-- The user and the password, before an at sign; empty if there is neither. -/
  credentials : List Char
  host : List Char
  port : Option Nat
deriving DecidableEq, Repr

/-- The path of a URL. -/
inductive UrlPath where
  /-- A path that is one text. -/
  | whole (text : List Char)
  /-- A path of segments, each behind a slash. -/
  | list (segments : List (List Char))
deriving DecidableEq, Repr

/-- A URL. -/
structure Url where
  scheme : String
  authority : Option Authority
  path : UrlPath
  query : Option (List Char)
  fragment : Option (List Char)
deriving DecidableEq, Repr

/-! ### Characters that are escaped -/

/-- A character that is escaped everywhere: a control, or one beyond ASCII. -/
def escapedAlways (c : Char) : Bool :=
  c < ' ' || '~' < c

/-- A character that is escaped in a fragment. -/
def escapedInFragment (c : Char) : Bool :=
  escapedAlways c || " \"<>`".toList.contains c

/-- A character that is escaped in a path. -/
def escapedInPath (c : Char) : Bool :=
  escapedInFragment c || "#?\x7b\x7d".toList.contains c

/-- A character that is escaped in a single segment. In schemes that are known, backslashes
separate segments too. -/
def escapedInSegment (known : Bool) (c : Char) : Bool :=
  escapedInPath c || "/%".toList.contains c || (known && c = '\\')

/-- A character that is escaped in a query. -/
def escapedInQuery (known : Bool) (c : Char) : Bool :=
  escapedAlways c || " \"#<>".toList.contains c || (known && c = '\'')

/-- A character that is escaped in the name of a user and in a password. -/
def escapedInCredentials (c : Char) : Bool :=
  escapedInPath c || "/:;=@[\\]^|".toList.contains c

/-- A tab or the end of a line. They are passed over in URLs. -/
def isLayoutChar (c : Char) : Bool :=
  c = '\t' || c = '\n' || c = '\r'

/-! ### Paths -/

/-- The segment that stands for the place where it stands. -/
def isSingleDot (segment : List Char) : Bool :=
  [".", "%2e"].contains (String.ofList (segment.map Char.toLower))

/-- The segment that stands for the place before. -/
def isDoubleDot (segment : List Char) : Bool :=
  ["..", ".%2e", "%2e.", "%2e%2e"].contains (String.ofList (segment.map Char.toLower))

/-- A path with one more segment, which is the last one or not. -/
def addSegment (path : List (List Char)) (segment : List Char) (last : Bool) :
    List (List Char) :=
  if isDoubleDot segment then path.dropLast ++ (if last then [[]] else [])
  else if isSingleDot segment then path ++ (if last then [[]] else [])
  else path ++ [segment]

/-- A path with more segments. -/
def addSegments (path : List (List Char)) : List (List Char) → List (List Char)
  | [] => path
  | [segment] => addSegment path segment true
  | segment :: segments => addSegments (addSegment path segment false) segments

namespace UrlPath

/-- The text of a path. -/
def text : UrlPath → List Char
  | whole text => text
  | list segments => segments.flatMap ('/' :: ·)

end UrlPath

namespace Url

/-- The schemes that are known to have hosts, and their ports. -/
def knownSchemes : List (String × Option Nat) :=
  [("http", some 80), ("https", some 443), ("ws", some 80), ("wss", some 443),
    ("ftp", some 21), ("file", none)]

/-- Whether the scheme is known. -/
def isKnown (scheme : String) : Bool :=
  (knownSchemes.lookup scheme).isSome

/-- Whether the URL has a host. -/
def hasHost (url : Url) : Bool :=
  match url.authority with
  | some authority => !authority.host.isEmpty
  | none => false

/-- The text of an authority. -/
def authorityText (authority : Authority) : List Char :=
  (if authority.credentials.isEmpty then [] else authority.credentials ++ ['@'])
    ++ authority.host
    ++ (match authority.port with
      | some port => ':' :: (toString port).toList
      | none => [])

/-- The characters of a URL. -/
def characters (url : Url) : List Char :=
  url.scheme.toList ++ [':']
    ++ (match url.authority, url.path with
      | some authority, _ => '/' :: '/' :: authorityText authority
      | none, .list ([] :: _ :: _) => ['/', '.']
      | none, _ => [])
    ++ url.path.text
    ++ (match url.query with
      | some query => '?' :: query
      | none => [])
    ++ (match url.fragment with
      | some fragment => '#' :: fragment
      | none => [])

/-- The text of a URL. -/
def text (url : Url) : String :=
  String.ofList url.characters

/-- The URL without a user and a password. -/
def withoutCredentials (url : Url) : Url :=
  { url with authority := url.authority.map fun authority =>
      { authority with credentials := [] } }

/-- The characters of a name as one segment. -/
def segment (known : Bool) (name : String) : List Char :=
  escape (escapedInSegment known) (name.toList.filter (!isLayoutChar ·))

/-- The URL with a name behind its path, as one segment. A name of one or two dots is left
out. An opaque path cannot be extended. -/
def push? (url : Url) (name : String) : Option Url :=
  match url.path with
  | .whole _ => none
  | .list segments =>
    if name = "." ∨ name = ".." then some url
    else
      let segments := if segments = [[]] then [] else segments
      some { url with
        path := .list (addSegment segments (segment (isKnown url.scheme) name) true) }

end Url

end JobGraph.Http
