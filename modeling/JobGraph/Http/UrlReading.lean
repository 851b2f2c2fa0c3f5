import JobGraph.Http.Host
import JobGraph.Http.Message
import JobGraph.Http.Url
import JobGraph.Text.Blank

/-!
# Reading of URLs

A text is read as a URL part by part: blanks around it and line ends in it are passed over,
characters that may not stand in a part are escaped, and dots are resolved in the path.
-/

namespace JobGraph.Http.Url

/-- The characters of a text that count: those between blanks and controls, without tabs and
line ends. -/
def significant (text : String) : List Char :=
  (Text.dropBothEnds (· ≤ ' ') text.toList).filter (!isLayoutChar ·)

/-- The scheme of a text, in lowercase, and what is behind its colon. -/
def splitScheme? (cs : List Char) : Option (String × List Char) :=
  match splitFirst ':' cs with
  | (first :: more, some rest) =>
    if first.isAlpha ∧ more.all (fun c => c.isAlphanum || c = '+' || c = '-' || c = '.') then
      some (String.ofList ((first :: more).map Char.toLower), rest)
    else none
  | _ => none

/-- Whether a character separates segments. -/
def separates (known : Bool) (c : Char) : Bool :=
  c = '/' || (known && c = '\\')

/-- A text split at every separator. -/
def splitSegments (known : Bool) (cs : List Char) : List (List Char) :=
  cs.splitOnP (separates known)

/-- The path of characters behind an authority. With a known scheme it is never empty. -/
def readPath (known : Bool) (cs : List Char) : UrlPath :=
  match cs with
  | [] => .list (if known then [[]] else [])
  | c :: rest =>
    .list (addSegments []
      ((splitSegments known (if separates known c then rest else c :: rest)).map
        (escape escapedInPath)))

/-- The user and the password of an authority. -/
def readCredentials (cs : List Char) : List Char :=
  let (user, password) := splitFirst ':' cs
  escape escapedInCredentials user ++
    (match password with
      | none | some [] => []
      | some password => ':' :: escape escapedInCredentials password)

/-- The host and the port behind its colon. A colon in brackets belongs to the host. -/
def splitPort (inBrackets : Bool) : List Char → List Char × Option (List Char)
  | [] => ([], none)
  | c :: cs =>
    if c = ':' ∧ !inBrackets then ([], some cs)
    else
      let (host, port) := splitPort (c = '[' || (inBrackets && c ≠ ']')) cs
      (c :: host, port)

/-- The port of a URL, if it is not the one that its scheme has. -/
def readPort (scheme : String) (cs : List Char) : Except UrlFault (Option Nat) :=
  if !cs.all Char.isDigit ∨ 65535 < digitsValue cs then .error .invalidPort
  else if cs.isEmpty ∨ knownSchemes.lookup scheme = some (some (digitsValue cs)) then .ok none
  else .ok (some (digitsValue cs))

/-- The parts of an authority at its last at sign. -/
def splitCredentials (cs : List Char) : List Char × List Char :=
  match splitFirst '@' cs.reverse with
  | (host, some credentials) => (credentials.reverse, host.reverse)
  | (_, none) => ([], cs)

/-- Read an authority. -/
def readAuthority (scheme : String) (cs : List Char) : Except UrlFault Authority := do
  let (credentials, place) := splitCredentials cs
  if place.isEmpty ∧ place ≠ cs then throw .emptyHost
  let (hostText, portText) := splitPort false place
  let host ← if isKnown scheme then Host.ofSpecial hostText else Host.ofOther hostText
  if host.isEmpty ∧ portText.isSome then throw .emptyHost
  let port ← match portText with
    | some cs => readPort scheme cs
    | none => .ok none
  return ⟨readCredentials credentials, host, port⟩

/-- Read the authority of a file, which is its host. -/
def readFileAuthority (cs : List Char) : Except UrlFault Authority :=
  if cs.isEmpty then .ok ⟨[], [], none⟩
  else do
    let host ← Host.ofSpecial cs
    return ⟨[], if host = "localhost".toList then [] else host, none⟩

/-- Read an authority and the path behind it. -/
def readHierarchy (scheme : String) (cs : List Char) :
    Except UrlFault (Option Authority × UrlPath) :=
  let known := isKnown scheme
  let behind (cs : List Char) (read : List Char → Except UrlFault Authority) := do
    let authority ← read (cs.takeWhile (!separates known ·))
    return (some authority, readPath known (cs.dropWhile (!separates known ·)))
  if scheme = "file" then
    match cs with
    | a :: b :: rest =>
      if separates known a ∧ separates known b then behind rest readFileAuthority
      else .ok (some ⟨[], [], none⟩, readPath known cs)
    | _ => .ok (some ⟨[], [], none⟩, readPath known cs)
  else if known then behind (cs.dropWhile (separates known)) (readAuthority scheme)
  else
    match cs with
    | '/' :: '/' :: rest => behind rest (readAuthority scheme)
    | '/' :: _ => .ok (none, readPath known cs)
    | _ => .ok (none, .whole (escape escapedAlways cs))

/-- Read a text as a URL. -/
def parse (text : String) : Except UrlFault Url :=
  match splitScheme? (significant text) with
  | none => .error .relative
  | some (scheme, rest) => do
    let (rest, fragment) := splitFirst '#' rest
    let (rest, query) := splitFirst '?' rest
    let (authority, path) ← readHierarchy scheme rest
    return {
      scheme
      authority
      path
      query := query.map (escape (escapedInQuery (isKnown scheme)))
      fragment := fragment.map (escape escapedInFragment) }

end JobGraph.Http.Url
