import JobGraph.Json.Draft
import JobGraph.Yaml.Cursor

/-!
# The text of scalars

How the three kinds of scalars of YAML are read: quoted ones with their escapes, plain ones
up to the first indicator, and block scalars with their indentation and chomping. Each reader
returns the text and the place behind it, and nothing when the scalar is ill-formed.
-/

namespace JobGraph.Yaml

/-! ### Quoted scalars -/

/-- The character of an escape that stands for one character. -/
def escaped? (c : Char) : Option Char :=
  match c with
  | '0' => some (Char.ofNat 0x00)
  | 'a' => some (Char.ofNat 0x07)
  | 'b' => some (Char.ofNat 0x08)
  | 't' => some '\t'
  | '\t' => some '\t'
  | 'n' => some '\n'
  | 'v' => some (Char.ofNat 0x0b)
  | 'f' => some (Char.ofNat 0x0c)
  | 'r' => some '\r'
  | 'e' => some (Char.ofNat 0x1b)
  | ' ' => some ' '
  | '"' => some '"'
  | '/' => some '/'
  | '\\' => some '\\'
  | 'N' => some (Char.ofNat 0x85)
  | '_' => some (Char.ofNat 0xa0)
  | 'L' => some (Char.ofNat 0x2028)
  | 'P' => some (Char.ofNat 0x2029)
  | _ => none

/-- The number of hexadecimal digits of an escape that gives a code point. -/
def escapeWidth? (c : Char) : Option Nat :=
  match c with
  | 'x' => some 2
  | 'u' => some 4
  | 'U' => some 8
  | _ => none

/-- The character whose code point these hexadecimal digits give. -/
def codePoint? (digits : List Char) : Option Char := do
  let values ← digits.mapM Json.Draft.hexValue?
  let code := values.foldl (fun n d => n * 16 + d) 0
  if (0xd800 ≤ code ∧ code ≤ 0xdfff) ∨ 0x10ffff < code then none else some (Char.ofNat code)

/-- The escape behind a backslash: its character and its length without the backslash. -/
def escape? : List Char → Option (Char × Nat)
  | [] => none
  | c :: rest =>
    match escaped? c with
    | some e => some (e, 1)
    | none => do
      let width ← escapeWidth? c
      if rest.length < width then none
      else return (← codePoint? (rest.take width), width + 1)

/-- The text of a quoted scalar from a place behind its opening quote on, where `done` holds
the text so far in reverse. -/
def quoted? (single : Bool) : Nat → Cursor → List Char → Option (List Char × Cursor)
  | 0, _, _ => none
  | fuel + 1, c, done =>
    if c.atDocumentMark then none
    else
      match c.rest with
      | [] => none
      | ch :: rest =>
        if single && ch = '\'' then
          if rest.head? == some '\'' then quoted? single fuel (c.skip 2) ('\'' :: done)
          else some (done.reverse, c.skip 1)
        else if !single && ch = '"' then some (done.reverse, c.skip 1)
        else if !single && ch = '\\' then
          if !rest.isEmpty && breakFirst rest then
            match (c.skip 1).skipBreak.gap? 0 .escaped with
            | none => none
            | some (gap, c) => quoted? single fuel c (gap.text.reverse ++ done)
          else
            match escape? rest with
            | none => none
            | some (e, length) => quoted? single fuel (c.skip (length + 1)) (e :: done)
        else if isSeparator ch then
          match c.gap? 0 .none with
          | none => none
          | some (gap, c) => quoted? single fuel c (gap.text.reverse ++ done)
        else quoted? single fuel (c.skip 1) (ch :: done)

/-! ### Plain scalars -/

/-- The characters of a plain scalar up to the next separator or indicator. In a flow
collection a colon in front of another indicator is an error. -/
def plainWord? (flow : Bool) : List Char → Option (List Char)
  | [] => some []
  | c :: rest =>
    if isSeparator c then some []
    else if flow && c = ':' && (rest.head?.any (",?[]\x7b\x7d".toList.contains ·)) then none
    else if c = ':' && separatorFirst rest then some []
    else if flow && ",[]\x7b\x7d".toList.contains c then some []
    else (plainWord? flow rest).map (c :: ·)

/-- A plain scalar from a place behind the gap `gap` on, where `done` holds its text so far:
the text, the place behind the scalar and the gap that follows it, and whether that gap has a
line break. Outside of flow collections a line must be indented by `indent`. -/
def plain? (flow : Bool) (indent : Int) :
    Nat → Cursor → Gap → List Char → Option (List Char × Cursor × Bool)
  | 0, _, _, _ => none
  | fuel + 1, c, gap, done =>
    if c.atDocumentMark || c.startsWith '#' then some (done, c, gap.broken)
    else
      match plainWord? flow c.rest with
      | none => none
      | some word =>
        let done := if word.isEmpty then done else done ++ gap.text ++ word
        let gap := if word.isEmpty then gap else .none
        let c := c.skip word.length
        match c.rest with
        | [] => some (done, c, gap.broken)
        | ch :: _ =>
          if !isSeparator ch then some (done, c, gap.broken)
          else
            match c.gap? indent .none with
            | none => none
            | some (gap, c) =>
              if !flow && (c.column : Int) < indent then some (done, c, gap.broken)
              else plain? flow indent fuel c gap done

/-! ### Block scalars -/

/-- What happens to the line breaks at the end of a block scalar. -/
inductive Chomping where
  | strip
  | clip
  | keep
deriving DecidableEq

/-- The digit of an indentation and the chomping in the header of a block scalar, in either
order, and their length. The digit is absent when there is none; the result is absent when it
is zero. -/
def blockHeader? (cs : List Char) : Option (Option Nat × Chomping × Nat) :=
  let chomp? (c : Char) : Option Chomping :=
    if c = '+' then some .keep else if c = '-' then some .strip else none
  let digit? (c : Char) : Option (Option Nat) :=
    if c = '0' then none
    else some (some (c.toNat - '0'.toNat))
  match cs with
  | [] => some (none, .clip, 0)
  | c :: rest =>
    match chomp? c with
    | some chomping =>
      match rest with
      | d :: _ => if d.isDigit then (digit? d).map fun n => (n, chomping, 2)
        else some (none, chomping, 1)
      | [] => some (none, chomping, 1)
    | none =>
      if c.isDigit then
        (digit? c).map fun n =>
          match rest.head?.bind chomp? with
          | some chomping => (n, chomping, 2)
          | none => (n, .clip, 1)
      else some (none, .clip, 0)

/-- The line breaks and the indentation at a place in a block scalar: the breaks, the place
behind them, and the largest column reached. The indentation is at most `indent`, when that
is known. A tab may not stand in for indentation. -/
def blockBreaks? (indent : Option Nat) :
    Nat → Cursor → List Char → Nat → Option (List Char × Cursor × Nat)
  | 0, _, _, _ => none
  | fuel + 1, c, breaks, widest =>
    let limit := match indent with
      | some n => n - c.column
      | none => c.rest.length
    let spaces := min limit (c.rest.takeWhile (· = ' ')).length
    let c := c.skip spaces
    let widest := max widest c.column
    let inside := match indent with
      | some n => c.column < n
      | none => true
    match c.rest with
    | [] => some (breaks, c, widest)
    | ch :: _ =>
      if inside && ch = '\t' then none
      else if isBreakChar ch then
        blockBreaks? indent fuel c.skipBreak (breaks ++ c.breakText) widest
      else some (breaks, c, widest)

/-- The lines of a block scalar from a place on, with the text so far, the break behind its
last line, the breaks behind that one, and whether that line began with a blank. -/
def blockLines? (literal : Bool) (indent : Nat) :
    Nat → Cursor → List Char → List Char → List Char → Bool →
      Option (List Char × List Char × List Char × Cursor)
  | 0, _, _, _, _, _ => none
  | fuel + 1, c, done, leading, trailing, blankBefore =>
    if c.column ≠ indent ∨ c.rest.isEmpty then some (done, leading, trailing, c)
    else
      let blank := c.rest.head?.any isBlankChar
      let joined :=
        if !literal && leading = ['\n'] && !blankBefore && !blank then
          (if trailing.isEmpty then [' '] else []) ++ trailing
        else leading ++ trailing
      let (line, c) := c.span (!isBreakChar ·)
      let leading := c.breakText
      match blockBreaks? (some indent) fuel c.skipBreak [] 0 with
      | none => none
      | some (trailing, c, _) =>
        blockLines? literal indent fuel c (done ++ joined ++ line) leading trailing blank

/-- A block scalar from a place behind its indicator on, in a block indented by `parent`. -/
def block? (literal : Bool) (parent : Int) (fuel : Nat) (c : Cursor) :
    Option (List Char × Cursor) := do
  let (digit, chomping, length) ← blockHeader? c.rest
  let c := (c.skip length).skipWhile isBlankChar
  let c := if c.startsWith '#' then c.skipWhile (!isBreakChar ·) else c
  if !breakFirst c.rest then none
  else
    let c := c.skipBreak
    let known := digit.map fun n => if 0 ≤ parent then parent.toNat + n else n
    let (trailing, c, widest) ← blockBreaks? known fuel c [] 0
    let indent := known.getD (max widest (max (parent + 1).toNat 1))
    let (done, leading, trailing, c) ← blockLines? literal indent fuel c [] [] trailing false
    let tail := match chomping with
      | .strip => []
      | .clip => leading
      | .keep => leading ++ trailing
    return (done ++ tail, c)

end JobGraph.Yaml
