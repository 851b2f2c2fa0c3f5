/-!
# Texts as bytes

The UTF-8 bytes of a text, and the text that bytes stand for. Where bytes are not UTF-8, a mark
stands for each longest start of a character that breaks off, and for each byte that starts
none. It is the replacement character unless a reader wants another one.
-/

namespace JobGraph.Text

/-- The bytes of a text. -/
def utf8 (cs : List Char) : List UInt8 :=
  cs.flatMap String.utf8EncodeChar

/-- The bounds of the byte behind the first byte of a character, and how many bytes follow in
all. -/
def followers? (b : Nat) : Option (Nat × Nat × Nat) :=
  if 0xc2 ≤ b ∧ b ≤ 0xdf then some (0x80, 0xbf, 1)
  else if b = 0xe0 then some (0xa0, 0xbf, 2)
  else if b = 0xed then some (0x80, 0x9f, 2)
  else if 0xe1 ≤ b ∧ b ≤ 0xef then some (0x80, 0xbf, 2)
  else if b = 0xf0 then some (0x90, 0xbf, 3)
  else if 0xf1 ≤ b ∧ b ≤ 0xf3 then some (0x80, 0xbf, 3)
  else if b = 0xf4 then some (0x80, 0x8f, 3)
  else none

/-- What the first byte of a character of several bytes contributes to its code point. -/
def leadValue (b : Nat) : Nat :=
  if b < 0xe0 then b - 0xc0 else if b < 0xf0 then b - 0xe0 else b - 0xf0

/-- The text of bytes, where `code` is the code point so far of a character of which `left`
more bytes must follow, the next between two bounds. -/
def decodeFrom (mark : List Char) (code left low high : Nat) : List UInt8 → List Char
  | [] => if left = 0 then [] else mark
  | byte :: rest =>
    let b := byte.toNat
    let fresh : List Char :=
      if b < 0x80 then Char.ofNat b :: decodeFrom mark 0 0 0 0 rest
      else
        match followers? b with
        | some (low, high, count) => decodeFrom mark (leadValue b) count low high rest
        | none => mark ++ decodeFrom mark 0 0 0 0 rest
    if left = 0 then fresh
    else if low ≤ b ∧ b ≤ high then
      let code := code * 0x40 + (b - 0x80)
      if left = 1 then Char.ofNat code :: decodeFrom mark 0 0 0 0 rest
      else decodeFrom mark code (left - 1) 0x80 0xbf rest
    else mark ++ fresh

/-- The text that bytes stand for, with a mark for those that are not UTF-8. -/
def decodeMarking (mark : List Char) (bytes : List UInt8) : List Char :=
  decodeFrom mark 0 0 0 0 bytes

/-- The text that bytes stand for, with the replacement character for those that are not
UTF-8. -/
def decodeUtf8 (bytes : List UInt8) : List Char :=
  decodeMarking ['\ufffd'] bytes

/-- The text that bytes stand for, if they are UTF-8. -/
def ofUtf8? (bytes : List UInt8) : Option String :=
  let cs := decodeUtf8 bytes
  if utf8 cs = bytes then some (String.ofList cs) else none

end JobGraph.Text
