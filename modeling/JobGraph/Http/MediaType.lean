/-!
# Media types

The media types of JSON: those of the name `json` or with the suffix `json`, among the
applications. A media type may have parameters, whose values may be in quotes. Letter case
makes no difference.
-/

namespace JobGraph.Http

/-- A character of a name or of a value without quotes. -/
def isTokenChar (c : Char) : Bool :=
  c.isAlphanum || "!#$%&'*+-.^_`|~".toList.contains c

/-- A character of a value in quotes. -/
def isQuotedChar (c : Char) : Bool :=
  31 < c.toNat && c.toNat ≠ 127

/-- Where the reading of parameters stands. -/
inductive ParameterState where
  /-- In front of a name. -/
  | start
  | name
  /-- In front of a value. -/
  | valueStart
  | value
  /-- In front of the first character between quotes, which may be anything but a quote. -/
  | quotedStart
  | quoted
  /-- Behind a closing quote. -/
  | done

/-- Whether parameters are well-formed from a state on. -/
def parametersFrom : ParameterState → List Char → Bool
  | .start, [] => true
  | .start, c :: cs =>
    if c = ' ' then parametersFrom .start cs
    else isTokenChar c && parametersFrom .name cs
  | .name, [] => false
  | .name, c :: cs =>
    if c = '=' then parametersFrom .valueStart cs else isTokenChar c && parametersFrom .name cs
  | .valueStart, [] => true
  | .valueStart, c :: cs =>
    if c = '"' then parametersFrom .quotedStart cs
    else isTokenChar c && parametersFrom .value cs
  | .value, [] => true
  | .value, c :: cs =>
    if c = ';' then parametersFrom .start cs else isTokenChar c && parametersFrom .value cs
  | .quotedStart, [] => false
  | .quotedStart, c :: cs => isQuotedChar c && parametersFrom .quoted cs
  | .quoted, [] => false
  | .quoted, c :: cs =>
    if c = '"' then parametersFrom .done cs else isQuotedChar c && parametersFrom .quoted cs
  | .done, [] => true
  | .done, c :: cs =>
    if c = ';' then parametersFrom .start cs else c = ' ' && parametersFrom .done cs

/-- Whether a media type, without its parameters, is JSON. -/
def isJsonEssence (cs : List Char) : Bool :=
  let kind := cs.takeWhile (· ≠ '/')
  let rest := cs.drop (kind.length + 1)
  let suffix := (rest.reverse.takeWhile (· ≠ '+')).reverse
  let name := if suffix.length = rest.length then rest
    else rest.take (rest.length - suffix.length - 1)
  kind = "application".toList && rest.all isTokenChar
    && (name = "json".toList
      || (suffix.length < rest.length && !name.isEmpty && suffix = "json".toList))

/-- Whether a header gives the media type of JSON. -/
def isJsonMediaType (header : String) : Bool :=
  let cs := header.toList.map Char.toLower
  let parameters := cs.dropWhile (· ≠ ';')
  cs.all (fun c => c.toNat < 128) && isJsonEssence (cs.takeWhile (· ≠ ';'))
    && parametersFrom .start (parameters.drop 1)

end JobGraph.Http
