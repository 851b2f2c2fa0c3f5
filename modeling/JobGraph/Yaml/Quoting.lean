import JobGraph.Yaml.Cursor
import JobGraph.Yaml.Scalar

/-!
# How texts are written as scalars

A text is written plainly where that reads back as the same text. A text that would read as
something else than text is put in single quotes, one with line breaks stands in a block of
its own, and one that neither allows is put in double quotes with escapes.
-/

namespace JobGraph.Yaml

/-- The ways to write a scalar. -/
inductive Presentation where
  | plain
  | singleQuoted
  | doubleQuoted
  | block
deriving DecidableEq, Repr

/-! ### What a text allows -/

/-- A character that needs no escape in quotes. -/
def isPrintable (c : Char) : Bool :=
  let code := c.toNat
  code = 0x0a || (0x20 ≤ code && code ≤ 0x7e) || (0xa0 ≤ code && code ≤ 0xd7ff)
    || (0xe000 ≤ code && code ≤ 0xfffd && code ≠ 0xfeff) || 0x10000 ≤ code

/-- Whether somewhere in a text a character of the first kind is followed by one of the
second. -/
def hasPair (first second : Char → Bool) : List Char → Bool
  | c :: d :: rest => (first c && second d) || hasPair first second (d :: rest)
  | _ => false

/-- Whether a character behind the start of a text acts as an indicator in a block: a colon in
front of a separator, or a hash behind one. -/
def hasInnerIndicator : List Char → Bool
  | c :: d :: rest =>
    (d = ':' && separatorFirst rest) || (d = '#' && isSeparator c) || hasInnerIndicator (d :: rest)
  | _ => false

/-- Whether a text has an indicator in a block. -/
def hasIndicator (cs : List Char) : Bool :=
  match cs with
  | [] => false
  | c :: rest =>
    cs.take 3 = ['-', '-', '-'] || cs.take 3 = ['.', '.', '.']
      || "#,[]\x7b\x7d&*!|>'\"%@`".toList.contains c
      || ((c = '?' || c = ':' || c = '-') && separatorFirst rest)
      || hasInnerIndicator cs

/-- Whether a text begins or ends with a character that satisfies `p`. -/
def hasOuter (p : Char → Bool) (cs : List Char) : Bool :=
  cs.head?.any p || cs.getLast?.any p

/-- A space, which a tab is not. -/
def isSpaceChar (c : Char) : Bool :=
  c = ' '

/-- Whether a text may be written plainly. -/
def allowsPlain (cs : List Char) : Bool :=
  cs.all (fun c => isPrintable c && !isBreakChar c) && !hasOuter isSpaceChar cs
    && !hasIndicator cs

/-- Whether a text may be written in single quotes. -/
def allowsSingleQuoted (cs : List Char) : Bool :=
  cs.all isPrintable && !hasPair isSpaceChar isBreakChar cs && !hasPair isBreakChar isSpaceChar cs

/-- Whether a text may be written as a block. -/
def allowsBlock (cs : List Char) : Bool :=
  cs.all isPrintable && !hasPair isSpaceChar isBreakChar cs && !cs.getLast?.any isSpaceChar

/-- Whether a text would read as something else than text when written plainly. -/
def looksTyped (text : String) : Bool :=
  isZeroLed text.toList ||
    match plainValue? text with
    | some (.string _) => false
    | _ => true

/-- How a text is written. -/
def presentation (text : String) : Presentation :=
  let cs := text.toList
  if cs.contains '\n' then if allowsBlock cs then .block else .doubleQuoted
  else if !looksTyped text && allowsPlain cs then .plain
  else if allowsSingleQuoted cs then .singleQuoted
  else .doubleQuoted

/-! ### The ways of writing -/

/-- The start of a line that is indented. -/
def indentation (indent : Nat) : List Char :=
  List.replicate indent ' '

/-- The text between single quotes, where `fresh` says whether a line starts. A line feed is
written twice, since one alone would read as a space. -/
def singleQuotedFrom (indent : Nat) : Bool → List Char → List Char
  | fresh, [] => if fresh then indentation indent else []
  | fresh, c :: cs =>
    if isBreakChar c then
      (if !fresh && c = '\n' then ['\n'] else []) ++ c :: singleQuotedFrom indent true cs
    else
      (if fresh then indentation indent else []) ++ (if c = '\'' then ['\'', '\''] else [c])
        ++ singleQuotedFrom indent false cs

/-- A text in single quotes. -/
def singleQuoted (indent : Nat) (cs : List Char) : List Char :=
  '\'' :: singleQuotedFrom indent false cs ++ ['\'']

/-- A number in capital hexadecimal digits. -/
def hexDigits : Nat → Nat → List Char
  | 0, _ => []
  | width + 1, n => hexDigits width (n / 16) ++ [(Nat.digitChar (n % 16)).toUpper]

/-- The escape of a character between double quotes. -/
def escapeOf (c : Char) : List Char :=
  let short (n : Nat) (e : Char) (rest : List Char) := if c.toNat = n then ['\\', e] else rest
  short 0x00 '0' <| short 0x07 'a' <| short 0x08 'b' <| short 0x09 't' <| short 0x0a 'n' <|
  short 0x0b 'v' <| short 0x0c 'f' <| short 0x0d 'r' <| short 0x1b 'e' <| short 0x22 '"' <|
  short 0x5c '\\' <| short 0x85 'N' <| short 0xa0 '_' <| short 0x2028 'L' <| short 0x2029 'P' <|
  if c.toNat ≤ 0xff then '\\' :: 'x' :: hexDigits 2 c.toNat
  else if c.toNat ≤ 0xffff then '\\' :: 'u' :: hexDigits 4 c.toNat
  else '\\' :: 'U' :: hexDigits 8 c.toNat

/-- A text in double quotes. -/
def doubleQuoted (cs : List Char) : List Char :=
  let write (c : Char) : List Char :=
    if !isPrintable c || isBreakChar c || c = '"' || c = '\\' then escapeOf c else [c]
  '"' :: cs.flatMap write ++ ['"']

/-- The lines of a block, where `fresh` says whether a line starts. -/
def blockLines (indent : Nat) : Bool → List Char → List Char
  | _, [] => []
  | fresh, c :: cs =>
    if isBreakChar c then c :: blockLines indent true cs
    else (if fresh then indentation indent else []) ++ c :: blockLines indent false cs

/-- The indicator of what happens to the line breaks at the end of a block: without a mark
there is just one. -/
def chompingMark (cs : List Char) : List Char :=
  match cs.reverse with
  | [] => ['-']
  | c :: rest =>
    if !isBreakChar c then ['-']
    else match rest with
      | [] => ['+']
      | d :: _ => if isBreakChar d then ['+'] else []

/-- A text as a block. The end of its last line is left out when that is not part of it. -/
def block (indent : Nat) (cs : List Char) : List Char :=
  let mark := if cs.head?.any fun c => isSpaceChar c || isBreakChar c then ['2'] else []
  '|' :: mark ++ chompingMark cs ++ '\n' :: blockLines indent true cs

/-- A text as a scalar whose further lines are indented, with the end of its last line. -/
def writeScalar (indent : Nat) (text : String) : List Char :=
  let cs := text.toList
  match presentation text with
  | .plain => cs ++ ['\n']
  | .singleQuoted => singleQuoted indent cs ++ ['\n']
  | .doubleQuoted => doubleQuoted cs ++ ['\n']
  | .block => block indent cs ++ if cs.getLast?.any isBreakChar then [] else ['\n']

end JobGraph.Yaml
