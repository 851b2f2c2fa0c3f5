import JobGraph.Yaml.ScalarText

/-!
# Tokens of YAML

The tokens of a text: its scalars and indicators, and the starts and ends of the blocks that
its indentation makes. A key in front of a colon is recognised only when the colon is met, and
tokens that mark it are then put in front of it. So a token that may turn out to be such a key
is held back until that is decided; when the text stops being YAML first, it is never
released.
-/

namespace JobGraph.Yaml

/-- How a scalar is written. -/
inductive Style where
  | plain
  | literal
  | other
deriving DecidableEq, Repr

/-- A token. -/
inductive Token where
  | version (major minor : Nat)
  | tagHandle (handle expansion : String)
  | documentStart
  | documentEnd
  | blockSequenceStart
  | blockMappingStart
  | blockEnd
  | flowSequenceStart
  | flowSequenceEnd
  | flowMappingStart
  | flowMappingEnd
  | blockEntry
  | flowEntry
  | key
  | value
  | alias (name : String)
  | anchor (name : String)
  | tag (handle suffix : String)
  | scalar (text : String) (style : Style)
  | streamEnd
deriving DecidableEq, Repr

/-- A place where a key may have started. -/
structure KeyStart where
  /-- The number of the token that the key is. -/
  token : Nat
  /-- Whether nothing but a key may stand there. -/
  required : Bool
  index : Nat
  line : Nat
  column : Nat

/-- The state of the division of a text into tokens. -/
structure Scanner where
  cursor : Cursor
  /-- The column of the current block, and of the blocks around it. -/
  indent : Int
  indents : List Int
  /-- Whether a key may start here. -/
  keyAllowed : Bool
  /-- For each flow collection around, and for the block, where a key may have started. -/
  keys : List (Option KeyStart)
  tokens : Array Token

namespace Scanner

/-- The state at the start of a text. A byte order mark is passed over, but takes a place on
the first line. -/
def start (text : List Char) : Scanner :=
  let cursor : Cursor := ⟨text, 0, 0, 0⟩
  ⟨if text.head? = some '\ufeff' then cursor.skip 1 else cursor, -1, [], true, [none], #[]⟩

/-- Whether the place is inside of a flow collection. -/
def inFlow (s : Scanner) : Bool :=
  1 < s.keys.length

/-- The state with one more token. -/
def push (s : Scanner) (token : Token) : Scanner :=
  { s with tokens := s.tokens.push token }

/-- The number of tokens that are released: those before every place where a key may have
started. -/
def released (s : Scanner) : Nat :=
  s.keys.foldl (fun n key => match key with | some k => min n k.token | none => n) s.tokens.size

/-- The state without the places where a key cannot have started because the line has ended or
is too long since. There must be none among them where a key is required. -/
def dropStale? (s : Scanner) : Option Scanner := do
  let keys ← s.keys.mapM fun key =>
    match key with
    | none => some none
    | some k =>
      if k.line < s.cursor.line ∨ k.index + 1024 < s.cursor.index then
        if k.required then none else some none
      else some key
  return { s with keys }

/-- The state without a start of a key on the innermost level. There must be none that is
required. -/
def dropKey? (s : Scanner) : Option Scanner :=
  match s.keys with
  | some k :: keys => if k.required then none else some { s with keys := none :: keys }
  | _ => some s

/-- The state with a key possibly starting here, if a key is allowed. -/
def saveKey? (s : Scanner) : Option Scanner :=
  if s.keyAllowed then do
    let s ← s.dropKey?
    let c := s.cursor
    let required := !s.inFlow && s.indent = (c.column : Int)
    return { s with keys := some ⟨s.tokens.size, required, c.index, c.line, c.column⟩
                            :: s.keys.tail }
  else some s

/-- The state in a block at `column`, with `token` for its start, put in front of the token
with number `place`, if that is a deeper one. -/
def openBlock (s : Scanner) (column : Nat) (place : Nat) (token : Token) : Scanner :=
  if !s.inFlow && s.indent < (column : Int) then
    { s with
      indent := column
      indents := s.indent :: s.indents
      tokens := s.tokens.insertIdxIfInBounds place token }
  else s

/-- The state with the blocks deeper than `column` ended, of which there are at most `fuel`. -/
def closeBlocks (column : Int) : Nat → Scanner → Scanner
  | 0, s => s
  | fuel + 1, s =>
    if !s.inFlow && column < s.indent then
      closeBlocks column fuel
        { s with
          indent := s.indents.headD (-1)
          indents := s.indents.tail
          tokens := s.tokens.push .blockEnd }
    else s

/-- The state with all blocks deeper than `column` ended. -/
def unroll (s : Scanner) (column : Int) : Scanner :=
  closeBlocks column (s.indents.length + 1) s

/-- The state at the next token: behind blanks, comments and line breaks. A tab counts as a
blank only where no key may start. -/
def skipToToken : Nat → Scanner → Scanner
  | 0, s => s
  | fuel + 1, s =>
    let tabs := s.inFlow || !s.keyAllowed
    let c := s.cursor.skipWhile fun ch => ch = ' ' || (tabs && ch = '\t')
    let c := if c.startsWith '#' then c.skipWhile (!isBreakChar ·) else c
    if !c.rest.isEmpty && breakFirst c.rest then
      skipToToken fuel
        { s with cursor := c.skipBreak, keyAllowed := s.keyAllowed || !s.inFlow }
    else { s with cursor := c }

/-- The state behind an indicator of one character. -/
def indicator (s : Scanner) (keyAllowed : Bool) (token : Token) : Scanner :=
  { (s.push token) with cursor := s.cursor.skip 1, keyAllowed }

/-! ### Directives, anchors and tags -/

/-- A character of a tag. -/
def isTagChar (verbatim : Bool) (c : Char) : Bool :=
  isNameChar c || ";/?:@&=+$.%!~*'()".toList.contains c
    || (verbatim && ",[]".toList.contains c)

/-- The bytes that a tag's escapes in front of a text spell, as characters, and the text
behind them. -/
def tagEscapes? : Nat → List Char → Option (List UInt8 × List Char)
  | 0, cs => some ([], cs)
  | fuel + 1, '%' :: a :: b :: rest => do
    let high ← Json.Draft.hexValue? a
    let low ← Json.Draft.hexValue? b
    let (bytes, after) ← tagEscapes? fuel rest
    return ((high * 16 + low).toUInt8 :: bytes, after)
  | _ + 1, '%' :: _ => none
  | _ + 1, cs => some ([], cs)

/-- The text of a tag, with its escapes resolved. -/
def tagText? : Nat → List Char → Option (List Char)
  | 0, _ => none
  | _ + 1, [] => some []
  | fuel + 1, '%' :: cs => do
    let (bytes, after) ← tagEscapes? (cs.length + 1) ('%' :: cs)
    let text ← String.fromUTF8? ⟨bytes.toArray⟩
    return text.toList ++ (← tagText? fuel after)
  | fuel + 1, c :: cs => (tagText? fuel cs).map (c :: ·)

/-- The tag text at a place behind `head`, and the place behind it. It may not be empty. -/
def tagUri? (verbatim : Bool) (head : List Char) (c : Cursor) : Option (String × Cursor) := do
  let (raw, after) := c.span (isTagChar verbatim)
  if head.isEmpty && raw.isEmpty then none
  else
    let text ← tagText? (raw.length + 1) raw
    return (String.ofList (head.drop 1 ++ text), after)

/-- The handle at a place: `!`, or name characters between two of them, or with only one in
front; and the place behind it. -/
def handle? (c : Cursor) : Option (List Char × Cursor) :=
  if !c.startsWith '!' then none
  else
    let (name, after) := (c.skip 1).span isNameChar
    if after.startsWith '!' then some ('!' :: name ++ ['!'], after.skip 1)
    else some ('!' :: name, after)

/-- Whether a handle has exclamation marks on both ends. -/
def isNamedHandle (handle : List Char) : Bool :=
  1 < handle.length && handle.getLast? == some '!'

/-- The tag at a place, and the place behind it. -/
def tag? (inFlow : Bool) (c : Cursor) : Option (Token × Cursor) := do
  let (handle, suffix, after) ← do
    if (c.skip 1).startsWith '<' then
      let (uri, after) ← tagUri? true [] (c.skip 2)
      if after.startsWith '>' then some ("", uri, after.skip 1) else none
    else
      let (handle, after) ← handle? c
      if isNamedHandle handle then
        let (suffix, after) ← tagUri? false [] after
        some (String.ofList handle, suffix, after)
      else
        let (suffix, after) ← tagUri? false handle after
        if suffix = "" then some ("", "!", after) else some ("!", suffix, after)
  if separatorFirst after.rest || (inFlow && after.startsWith ',') then
    return (.tag handle suffix, after)
  else none

/-- The name of an anchor or an alias at a place behind its indicator, and the place behind
it. -/
def anchorName? (c : Cursor) : Option (String × Cursor) :=
  let (name, after) := c.span isNameChar
  let ends := match after.rest with
    | [] => true
    | ch :: _ => isSeparator ch || "?:,]\x7d%@`".toList.contains ch
  if name.isEmpty || !ends then none else some (String.ofList name, after)

/-- The number of at most nine digits at a place, and the place behind it. -/
def versionNumber? (c : Cursor) : Option (Nat × Cursor) :=
  let (digits, after) := c.span Char.isDigit
  if digits.isEmpty || 9 < digits.length then none else some (digitsValue digits, after)

/-- The directive at a place, and the place behind its line. -/
def directive? (c : Cursor) : Option (Token × Cursor) := do
  let (name, after) := (c.skip 1).span isNameChar
  if name.isEmpty || !separatorFirst after.rest then none
  let c := after.skipWhile isBlankChar
  let (token, c) ← do
    if name = "YAML".toList then
      let (major, c) ← versionNumber? c
      if !c.startsWith '.' then none
      let (minor, c) ← versionNumber? (c.skip 1)
      some (Token.version major minor, c)
    else if name = "TAG".toList then
      let (handle, c) ← handle? c
      if !(isNamedHandle handle || handle = ['!']) then none
      if !c.rest.head?.any isBlankChar then none
      let (uri, c) ← tagUri? true [] (c.skipWhile isBlankChar)
      if !separatorFirst c.rest then none
      some (Token.tagHandle (String.ofList handle) uri, c)
    else none
  let c := c.skipWhile isBlankChar
  let c := if c.startsWith '#' then c.skipWhile (!isBreakChar ·) else c
  if breakFirst c.rest then return (token, c.skipBreak) else none

/-! ### The next token -/

/-- The state behind a block entry, `-`. -/
def blockEntry? (s : Scanner) : Option Scanner := do
  if !s.inFlow && !s.keyAllowed then none
  let s := s.openBlock s.cursor.column s.tokens.size .blockSequenceStart
  return (← s.dropKey?).indicator true .blockEntry

/-- The state behind the mark of a key, `?`. -/
def keyMark? (s : Scanner) : Option Scanner := do
  if !s.inFlow && !s.keyAllowed then none
  let s := s.openBlock s.cursor.column s.tokens.size .blockMappingStart
  return (← s.dropKey?).indicator (!s.inFlow) .key

/-- The state behind the mark of a value, `:`. When a key may have started on this level, it
did. -/
def valueMark? (s : Scanner) : Option Scanner :=
  match s.keys with
  | some k :: keys =>
    let s := { s with tokens := s.tokens.insertIdxIfInBounds k.token .key }
    let s := s.openBlock k.column k.token .blockMappingStart
    some ({ s with keys := none :: keys }.indicator false .value)
  | _ =>
    if !s.inFlow && !s.keyAllowed then none
    else
      let s := s.openBlock s.cursor.column s.tokens.size .blockMappingStart
      some (s.indicator (!s.inFlow) .value)

/-- The state with the token that a reader of its text gives. -/
def withToken (s : Scanner) (keyAllowed : Bool) (read : Option (Token × Cursor)) :
    Option Scanner :=
  read.map fun (token, cursor) => { (s.push token) with cursor, keyAllowed }

/-- The state behind a plain scalar. -/
def plainScalar? (s : Scanner) : Option Scanner := do
  let s ← s.saveKey?
  let fuel := s.cursor.rest.length + 1
  let (text, cursor, broken) ← Yaml.plain? s.inFlow (s.indent + 1) fuel s.cursor .none []
  return { (s.push (.scalar (String.ofList text) .plain)) with cursor, keyAllowed := broken }

/-- Whether a plain scalar may start with these characters. -/
def startsPlain (inFlow : Bool) : List Char → Bool
  | [] => false
  | c :: rest =>
    if c = '-' then !rest.head?.any isBlankChar
    else if c = '?' ∨ c = ':' then !inFlow && !separatorFirst rest
    else !isSeparator c && !"-?:,[]\x7b\x7d#&*!|>'\"%@`".toList.contains c

/-- The state behind the next token, or none when the text stops being YAML. The flag says
whether that token ends the text. -/
def next? (s : Scanner) : Option (Scanner × Bool) := do
  let s := skipToToken (s.cursor.rest.length + 1) s
  let s ← s.dropStale?
  let s := s.unroll s.cursor.column
  let c := s.cursor
  let fuel := c.rest.length + 2
  let more (s : Option Scanner) : Option (Scanner × Bool) := s.map (·, false)
  match c.rest with
  | [] =>
    let s ← (s.unroll (-1)).dropKey?
    return (s.push .streamEnd, true)
  | ch :: rest =>
    if c.column = 0 && ch = '%' then
      more (do (← (s.unroll (-1)).dropKey?).withToken false (directive? c))
    else if c.atDocumentMark then
      let token := if ch = '-' then Token.documentStart else Token.documentEnd
      more (do (← (s.unroll (-1)).dropKey?).withToken false (some (token, c.skip 3)))
    else if ch = '[' ∨ ch = '\x7b' then
      let token := if ch = '[' then Token.flowSequenceStart else Token.flowMappingStart
      let s ← s.saveKey?
      return ({ s with keys := none :: s.keys }.indicator true token, false)
    else if ch = ']' ∨ ch = '\x7d' then
      let token := if ch = ']' then Token.flowSequenceEnd else Token.flowMappingEnd
      let s ← s.dropKey?
      let keys := if s.inFlow then s.keys.tail else s.keys
      return ({ s with keys }.indicator false token, false)
    else if ch = ',' then
      return ((← s.dropKey?).indicator true .flowEntry, false)
    else if ch = '-' && separatorFirst rest then more s.blockEntry?
    else if ch = '?' && (s.inFlow || separatorFirst rest) then more s.keyMark?
    else if ch = ':' && (s.inFlow || separatorFirst rest) then more s.valueMark?
    else if ch = '*' ∨ ch = '&' then
      let named := (anchorName? (c.skip 1)).map fun (name, after) =>
        (if ch = '*' then Token.alias name else Token.anchor name, after)
      more (do (← s.saveKey?).withToken false named)
    else if ch = '!' then more (do (← s.saveKey?).withToken false (tag? s.inFlow c))
    else if (ch = '|' ∨ ch = '>') ∧ !s.inFlow then
      let scalar := (block? (ch = '|') s.indent fuel (c.skip 1)).map fun (text, after) =>
        (Token.scalar (String.ofList text) (if ch = '|' then .literal else .other), after)
      more (do (← s.dropKey?).withToken true scalar)
    else if ch = '\'' ∨ ch = '"' then
      let scalar := (quoted? (ch = '\'') fuel (c.skip 1) []).map fun (text, after) =>
        (Token.scalar (String.ofList text) .other, after)
      more (do (← s.saveKey?).withToken false scalar)
    else if startsPlain s.inFlow c.rest then more s.plainScalar?
    else none

/-- The state behind the next token, or none when the text stops being YAML there or a key is
overdue behind the token. -/
def step? (s : Scanner) : Option (Scanner × Bool) := do
  let (s, ended) ← s.next?
  if ended then return (s, true) else return (← s.dropStale?, false)

/-- The tokens from a state on, and whether the text is YAML to its end. -/
def run : Nat → Scanner → List Token × Bool
  | 0, s => (s.tokens.toList, false)
  | fuel + 1, s =>
    match s.step? with
    | none => (s.tokens.toList.take s.released, false)
    | some (s, true) => (s.tokens.toList, true)
    | some (s, false) => run fuel s

end Scanner

/-- A character that may stand in a text of YAML. -/
def isAllowedChar (c : Char) : Bool :=
  let code := c.toNat
  code = 0x09 || code = 0x0a || code = 0x0d || (0x20 ≤ code && code ≤ 0x7e) || code = 0x85
    || (0xa0 ≤ code && code ≤ 0xd7ff) || (0xe000 ≤ code && code ≤ 0xfffd)
    || (0x10000 ≤ code && code ≤ 0x10ffff)

/-- The tokens of a text as far as it is YAML, and whether it is to its end. -/
def tokens (text : String) : List Token × Bool :=
  let cs := text.toList
  if cs.all isAllowedChar then Scanner.run (2 * cs.length + 2) (.start cs) else ([], false)

end JobGraph.Yaml
