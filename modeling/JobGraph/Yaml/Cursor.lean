/-!
# Places in a YAML text

A cursor is a place in a text with its line and column, and the moves over characters, line
breaks and the gaps between the words of a scalar.
-/

namespace JobGraph.Yaml

/-- A space or a tab. -/
def isBlankChar (c : Char) : Bool :=
  c = ' ' || c = '\t'

/-- A character that ends a line. -/
def isBreakChar (c : Char) : Bool :=
  c = '\n' || c = '\r' || c = '\u0085' || c = '\u2028' || c = '\u2029'

/-- A character that separates words. -/
def isSeparator (c : Char) : Bool :=
  isBlankChar c || isBreakChar c

/-- Whether a separator or the end of the text comes first. -/
def separatorFirst : List Char → Bool
  | [] => true
  | c :: _ => isSeparator c

/-- Whether the end of the line comes first. -/
def breakFirst : List Char → Bool
  | [] => true
  | c :: _ => isBreakChar c

/-- A character of a name of an anchor, a directive or a tag handle. -/
def isNameChar (c : Char) : Bool :=
  c.isAlphanum || c = '_' || c = '-'

/-- A place in a text. -/
structure Cursor where
  rest : List Char
  index : Nat
  line : Nat
  column : Nat

namespace Cursor

/-- The place `count` characters on, on the same line. -/
def skip (c : Cursor) (count : Nat) : Cursor :=
  ⟨c.rest.drop count, c.index + count, c.line, c.column + count⟩

/-- The place behind a line break. -/
def skipBreak (c : Cursor) : Cursor :=
  match c.rest with
  | '\r' :: '\n' :: rest => ⟨rest, c.index + 2, c.line + 1, 0⟩
  | _ :: rest => ⟨rest, c.index + 1, c.line + 1, 0⟩
  | [] => c

/-- What the line break at this place counts as in a scalar. -/
def breakText (c : Cursor) : List Char :=
  match c.rest with
  | [] => []
  | b :: _ =>
    if b = '\u2028' ∨ b = '\u2029' then [b] else if isBreakChar b then ['\n'] else []

/-- The characters that satisfy `p` and the place behind them. None of them may be a line
break. -/
def span (c : Cursor) (p : Char → Bool) : List Char × Cursor :=
  let taken := c.rest.takeWhile p
  (taken, c.skip taken.length)

/-- The place behind the characters that satisfy `p`. -/
def skipWhile (c : Cursor) (p : Char → Bool) : Cursor :=
  (c.span p).2

/-- Whether the character at this place is `ch`. -/
def startsWith (c : Cursor) (ch : Char) : Bool :=
  c.rest.head? == some ch

/-- Whether one of the marks `---` and `...` that separate documents stands here. -/
def atDocumentMark (c : Cursor) : Bool :=
  c.column = 0 &&
    match c.rest with
    | '-' :: '-' :: '-' :: rest => separatorFirst rest
    | '.' :: '.' :: '.' :: rest => separatorFirst rest
    | _ => false

theorem length_skipBreak_lt {c : Cursor} {b : Char} {rest : List Char} (h : c.rest = b :: rest) :
  c.skipBreak.rest.length < c.rest.length
  := by
  unfold skipBreak
  split
  · simp only [‹c.rest = _›, List.length_cons]; omega
  · simp only [‹c.rest = _›, List.length_cons]; omega
  · rw [h] at *; contradiction

theorem length_skip_lt {c : Cursor} {b : Char} {rest : List Char} (h : c.rest = b :: rest) :
  (c.skip 1).rest.length < c.rest.length
  := by
  simp [skip, h]

end Cursor

/-! ### Gaps -/

/-- What stands between two words of a scalar. -/
structure Gap where
  /-- The blanks up to the first line break. -/
  blanks : List Char
  /-- Whether there is a line break. -/
  broken : Bool
  /-- What the first line break counts as. -/
  firstBreak : List Char
  /-- What the other line breaks count as. -/
  otherBreaks : List Char

namespace Gap

/-- No gap. -/
def none : Gap := ⟨[], false, [], []⟩

/-- A gap that starts with a line break that counts as nothing. -/
def escaped : Gap := ⟨[], true, [], []⟩

/-- What a gap counts as: its blanks on one line; else a space for one line break, or the
line breaks behind the first one. -/
def text (g : Gap) : List Char :=
  if !g.broken then g.blanks
  else if g.firstBreak = ['\n'] then if g.otherBreaks.isEmpty then [' '] else g.otherBreaks
  else g.firstBreak ++ g.otherBreaks

end Gap

/-- The gap at a place, as a continuation of `g`, and the place behind it. A tab left of the
column `indent` on a line of its own is not allowed; the result is then absent. -/
def Cursor.gap? (indent : Int) (c : Cursor) (g : Gap) : Option (Gap × Cursor) :=
  match _h : c.rest with
  | [] => some (g, c)
  | ch :: _ =>
    if isBlankChar ch then
      if g.broken && ch = '\t' && (c.column : Int) < indent then Option.none
      else if g.broken then gap? indent (c.skip 1) g
      else gap? indent (c.skip 1) { g with blanks := g.blanks ++ [ch] }
    else if isBreakChar ch then
      if g.broken then
        gap? indent c.skipBreak { g with otherBreaks := g.otherBreaks ++ c.breakText }
      else gap? indent c.skipBreak { g with broken := true, firstBreak := c.breakText }
    else some (g, c)
termination_by c.rest.length
decreasing_by
  · exact Cursor.length_skip_lt ‹_›
  · exact Cursor.length_skip_lt ‹_›
  · exact Cursor.length_skipBreak_lt ‹_›
  · exact Cursor.length_skipBreak_lt ‹_›

end JobGraph.Yaml
