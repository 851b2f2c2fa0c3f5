import JobGraph.Json.Draft
import JobGraph.Toml.Value

/-!
# TOML texts

The blanks, comments and line breaks between the parts of a document, its keys, and its four
kinds of strings.
-/

namespace JobGraph.Toml

/-- A space or a tab. -/
def isBlankChar (c : Char) : Bool :=
  c = ' ' || c = '\t'

/-- A character that may stand in a comment, and in strings unless it ends or escapes. -/
def isTextChar (c : Char) : Bool :=
  c = '\t' || (0x20 ≤ c.toNat && c.toNat ≠ 0x7f)

/-- A text without the blanks in front of it. -/
def skipBlanks (cs : List Char) : List Char :=
  cs.dropWhile isBlankChar

/-- The text behind a line break. -/
def newline? : List Char → Option (List Char)
  | '\n' :: rest => some rest
  | '\r' :: '\n' :: rest => some rest
  | _ => none

/-- A text without the comment in front of it, if there is one. -/
def skipComment (cs : List Char) : List Char :=
  if cs.head? == some '#' then cs.dropWhile isTextChar else cs

/-- The text behind the end of a line, in front of which blanks and a comment may stand. -/
def lineEnd? (cs : List Char) : Option (List Char) :=
  match skipComment (skipBlanks cs) with
  | [] => some []
  | rest => newline? rest

/-- A text without the blanks, line breaks and whole comments in front of it. -/
def skipLines : Nat → List Char → List Char
  | 0, cs => cs
  | fuel + 1, cs =>
    let cs := skipBlanks cs
    match newline? (skipComment cs) with
    | some rest => skipLines fuel rest
    | none => cs

/-! ### Strings -/

/-- The character of an escape, and the text behind it. -/
def escape? : Parser Char
  | 'b' :: rest => some (Char.ofNat 8, rest)
  | 't' :: rest => some ('\t', rest)
  | 'n' :: rest => some ('\n', rest)
  | 'f' :: rest => some (Char.ofNat 12, rest)
  | 'r' :: rest => some ('\r', rest)
  | '"' :: rest => some ('"', rest)
  | '\\' :: rest => some ('\\', rest)
  | c :: rest =>
    let width := if c = 'u' then 4 else if c = 'U' then 8 else 0
    if width = 0 ∨ rest.length < width then none
    else do
      let values ← (rest.take width).mapM Json.Draft.hexValue?
      let code := values.foldl (fun n d => n * 16 + d) 0
      if (0xd800 ≤ code ∧ code < 0xe000) ∨ 0x10ffff < code then none
      else some (Char.ofNat code, rest.drop width)
  | [] => none

/-- The string in front of a text, behind its opening quote, on one line. -/
def lineString? (quote : Char) : Nat → Parser (List Char)
  | 0, _ => none
  | _ + 1, [] => none
  | fuel + 1, c :: rest =>
    if c = quote then some ([], rest)
    else if c = '\\' ∧ quote = '"' then do
      let (e, rest) ← escape? rest
      let (cs, rest) ← lineString? quote fuel rest
      return (e :: cs, rest)
    else if isTextChar c then do
      let (cs, rest) ← lineString? quote fuel rest
      return (c :: cs, rest)
    else none

/-- The text behind a line break that a backslash takes out, with the blanks in front of it
and the blanks and breaks behind it. -/
def continuation? (cs : List Char) : Option (List Char) :=
  (newline? (skipBlanks cs)).map
    fun rest => rest.dropWhile fun c => isBlankChar c || c = '\n' || c = '\r'

/-- The string of several lines in front of a text, behind its opening quotes. It ends with
three quotes, in front of which up to two more belong to it. -/
def longString? (quote : Char) : Nat → Parser (List Char)
  | 0, _ => none
  | _ + 1, [] => none
  | fuel + 1, c :: rest =>
    if c = quote then
      let quotes := (c :: rest).takeWhile (· = quote)
      let after := (c :: rest).drop quotes.length
      if quotes.length < 3 then do
        let (cs, after) ← longString? quote fuel after
        return (quotes ++ cs, after)
      else if quotes.length ≤ 5 then some (quotes.drop 3, after)
      else none
    else if c = '\\' ∧ quote = '"' then
      match continuation? rest with
      | some rest => longString? quote fuel rest
      | none => do
        let (e, rest) ← escape? rest
        let (cs, rest) ← longString? quote fuel rest
        return (e :: cs, rest)
    else
      match newline? (c :: rest) with
      | some rest => do
        let (cs, rest) ← longString? quote fuel rest
        return ('\n' :: cs, rest)
      | none =>
        if isTextChar c then do
          let (cs, rest) ← longString? quote fuel rest
          return (c :: cs, rest)
        else none

/-- The string in front of a text, of any kind. A line break right behind three opening quotes
does not belong to it. -/
def string? (fuel : Nat) : Parser String
  | c :: rest =>
    if c ≠ '"' ∧ c ≠ '\'' then none
    else
      let read :=
        if rest.take 2 = [c, c] then
          let body := rest.drop 2
          longString? c fuel ((newline? body).getD body)
        else lineString? c fuel rest
      read.map fun (cs, rest) => (String.ofList cs, rest)
  | [] => none

/-! ### Keys -/

/-- A character of a key without quotes. -/
def isKeyChar (c : Char) : Bool :=
  c.isAlphanum || c = '-' || c = '_'

/-- One part of a key. -/
def keyPart? (fuel : Nat) : Parser String
  | c :: rest =>
    if c = '"' ∨ c = '\'' then
      (lineString? c fuel rest).map fun (cs, rest) => (String.ofList cs, rest)
    else
      let part := (c :: rest).takeWhile isKeyChar
      if part.isEmpty then none
      else some (String.ofList part, (c :: rest).dropWhile isKeyChar)
  | [] => none

/-- The parts of a key, between points and blanks. -/
def keyParts? : Nat → Parser (List String)
  | 0, _ => none
  | fuel + 1, cs => do
    let (part, rest) ← keyPart? fuel (skipBlanks cs)
    match skipBlanks rest with
    | '.' :: rest => do
      let (parts, rest) ← keyParts? fuel rest
      return (part :: parts, rest)
    | rest => return ([part], rest)

/-- A key: the path of names in front of its last one, that one, and the text behind the
key. -/
def key? (fuel : Nat) (cs : List Char) : Option (List String × String × List Char) := do
  let (parts, rest) ← keyParts? fuel cs
  let last ← parts.getLast?
  if depthLimit ≤ parts.length then none else some (parts.dropLast, last, rest)

end JobGraph.Toml
