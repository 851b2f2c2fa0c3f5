import JobGraph.Decimal.Numeral
import JobGraph.Json.Value
import JobGraph.Text.Utf8

/-!
# Texts read as JSON as far as they go

A draft is what can be read of a text before it stops being JSON. It keeps the place where
that happens, so that a reader of typed data that walks through a draft in order meets a
value of the wrong shape first when it stands before that place, and the place first
otherwise. `Value.ofText?` accepts the texts that are JSON throughout, and `Value.ofBytes?` the
bytes that are.
-/

namespace JobGraph.Json

/-- What can be read of a text. -/
inductive Draft where
  | null
  | bool (value : Bool)
  | number (value : Number)
  /-- A number beyond the largest float. -/
  | outOfRange
  | string (value : String)
  /-- A string with half of a surrogate pair or with bytes that are not UTF-8. -/
  | brokenString
  /-- The items up to the closing bracket, or up to where the text stops being JSON. -/
  | array (items : List Draft) (closed : Bool)
  /-- The fields up to the closing brace, or up to where the text stops being JSON. What stands
  in place of a name is kept, whatever it is. -/
  | object (fields : List (Draft × Draft)) (closed : Bool)
  /-- The place where the text stops being JSON. -/
  | cut
deriving Repr

namespace Draft

/-- The characters that may stand between the parts of a text. -/
def isSpace (c : Char) : Bool :=
  c = ' ' || c = '\n' || c = '\t' || c = '\r'

/-- A text without the space in front of it. -/
def skipSpace (cs : List Char) : List Char :=
  cs.dropWhile isSpace

/-! ### Strings -/

/-- The value of a hexadecimal digit. -/
def hexValue? (c : Char) : Option Nat :=
  if c.isDigit then some (c.toNat - '0'.toNat)
  else if 'a' ≤ c ∧ c ≤ 'f' then some (c.toNat - 'a'.toNat + 10)
  else if 'A' ≤ c ∧ c ≤ 'F' then some (c.toNat - 'A'.toNat + 10)
  else none

/-- The value of four hexadecimal digits. -/
def hexUnit? (a b c d : Char) : Option Nat :=
  match hexValue? a, hexValue? b, hexValue? c, hexValue? d with
  | some a, some b, some c, some d => some (((a * 16 + b) * 16 + c) * 16 + d)
  | _, _, _, _ => none

/-- The character of a short escape. -/
def shortEscape? (c : Char) : Option Char :=
  if c = '"' then some '"'
  else if c = '\\' then some '\\'
  else if c = '/' then some '/'
  else if c = 'b' then some (Char.ofNat 8)
  else if c = 'f' then some (Char.ofNat 12)
  else if c = 'n' then some '\n'
  else if c = 'r' then some '\r'
  else if c = 't' then some '\t'
  else none

/-- A piece of a string: a character, or a unit of sixteen bits given in hexadecimal. -/
inductive Piece where
  | char (c : Char)
  | unit (value : Nat)

/-- The pieces of a string behind its opening quote, and the text behind its closing one. -/
def pieces? : List Char → Option (List Piece × List Char)
  | [] => none
  | '"' :: rest => some ([], rest)
  | '\\' :: 'u' :: a :: b :: c :: d :: rest =>
    match hexUnit? a b c d, pieces? rest with
    | some unit, some (pieces, after) => some (.unit unit :: pieces, after)
    | _, _ => none
  | '\\' :: e :: rest =>
    match shortEscape? e, pieces? rest with
    | some c, some (pieces, after) => some (.char c :: pieces, after)
    | _, _ => none
  | c :: rest =>
    if c.toNat < 0x20 ∨ c = '\\' then none
    else (pieces? rest).map fun (pieces, after) => (.char c :: pieces, after)

/-- The text that pieces spell, absent when half of a surrogate pair stands alone. -/
def spell? : List Piece → Option (List Char)
  | [] => some []
  | .char c :: rest => (spell? rest).map (c :: ·)
  | [.unit u] => if 0xd800 ≤ u ∧ u < 0xe000 then none else some [Char.ofNat u]
  | .unit u :: .char c :: rest =>
    if 0xd800 ≤ u ∧ u < 0xe000 then none
    else (spell? (.char c :: rest)).map (Char.ofNat u :: ·)
  | .unit u :: .unit v :: rest =>
    if 0xd800 ≤ u ∧ u < 0xdc00 then
      if 0xdc00 ≤ v ∧ v < 0xe000 then
        (spell? rest).map (Char.ofNat (0x10000 + (u - 0xd800) * 0x400 + (v - 0xdc00)) :: ·)
      else none
    else if 0xdc00 ≤ u ∧ u < 0xe000 then none
    else (spell? (.unit v :: rest)).map (Char.ofNat u :: ·)

/-- The string behind an opening quote, absent when it is broken, and the text behind it. -/
def stringAfterQuote? (cs : List Char) : Option (Option String × List Char) :=
  (pieces? cs).map fun (pieces, after) => ((spell? pieces).map String.ofList, after)

/-! ### Numbers -/

/-- Appending a digit, unless the result does not fit a word of 64 bits. -/
def pushDigit? (kept : Nat) (c : Char) : Option Nat :=
  let value := kept * 10 + (c.toNat - '0'.toNat)
  if value < Nat.pow 2 64 then some value else none

/-- The digits kept of a list of digits, and the digits from the first one that did not
fit on. -/
def keepDigits : Nat → List Char → Nat × List Char
  | kept, [] => (kept, [])
  | kept, c :: cs =>
    match pushDigit? kept c with
    | some value => keepDigits value cs
    | none => (kept, c :: cs)

/-- The draft of a float with these digits and exponent. -/
def floatDraft (negative : Bool) (digits : Nat) (exponent : Int) : Draft :=
  match scaledFloat digits exponent with
  | some x => .number (.float (if negative then -x else x))
  | none => .outOfRange

/-- The draft of a number with an exponent. Of a number too large for a word only the digits
that fit are kept, and the others count in the exponent. -/
def numberDraft (negative : Bool) (whole : List Char) (fraction : Option (List Char))
    (exponent : Option (Bool × List Char)) : Draft :=
  let (kept, dropped) := keepDigits 0 whole
  let (digits, place) :=
    match fraction with
    | none => (kept, (dropped.length : Int))
    | some cs =>
      let (digits, left) := keepDigits kept cs
      (digits, (dropped.length : Int) - ((cs.length - left.length : Nat) : Int))
  match exponent with
  | some (below, cs) =>
    let size := digitsValue cs
    if size ≤ 2147483647 then
      floatDraft negative digits (if below then place - size else place + size)
    else if digits ≠ 0 ∧ !below then .outOfRange
    else .number (.float (if negative then -0.0 else 0.0))
  | none =>
    if fraction.isSome || !dropped.isEmpty then floatDraft negative digits place
    else if !negative then .number (.int digits)
    else if digits = 0 ∨ Nat.pow 2 63 < digits then .number (.float (-(Float.ofNat digits)))
    else .number (.int (-digits))

/-- The exponent in front of a text, when there is one: whether it is negative, its digits,
and the text behind it. The outer result is absent when an `e` is not followed by digits. -/
def exponent? : List Char → Option (Option (Bool × List Char) × List Char)
  | [] => some (none, [])
  | c :: cs =>
    if c = 'e' ∨ c = 'E' then
      let (below, rest) := takeSign cs
      let digits := rest.takeWhile Char.isDigit
      if digits.isEmpty then none
      else some (some (below, digits), rest.dropWhile Char.isDigit)
    else some (none, c :: cs)

/-- The number behind an optional minus sign, and the text behind it. -/
def numberAfterSign? (negative : Bool) (cs : List Char) : Option (Draft × List Char) :=
  let whole := cs.takeWhile Char.isDigit
  let rest := cs.dropWhile Char.isDigit
  if whole.isEmpty || (whole.head? == some '0' && 1 < whole.length) then none
  else
    let fraction? : Option (Option (List Char) × List Char) :=
      match rest with
      | '.' :: tail =>
        let digits := tail.takeWhile Char.isDigit
        if digits.isEmpty then none else some (some digits, tail.dropWhile Char.isDigit)
      | _ => some (none, rest)
    match fraction? with
    | none => none
    | some (fraction, rest) =>
      (exponent? rest).map fun (exponent, rest) =>
        (numberDraft negative whole fraction exponent, rest)

/-! ### Values -/

/-- The draft of a string, which is broken when absent. -/
def ofString? : Option String → Draft
  | some s => .string s
  | none => .brokenString

mutual

/-- The value in front of a text, and the text behind it, which is absent when the value is
cut. -/
def value : Nat → List Char → Draft × Option (List Char)
  | 0, _ => (.cut, none)
  | fuel + 1, cs =>
    match skipSpace cs with
    | 'n' :: 'u' :: 'l' :: 'l' :: rest => (.null, some rest)
    | 't' :: 'r' :: 'u' :: 'e' :: rest => (.bool true, some rest)
    | 'f' :: 'a' :: 'l' :: 's' :: 'e' :: rest => (.bool false, some rest)
    | '"' :: rest =>
      match stringAfterQuote? rest with
      | some (s, rest) => (ofString? s, some rest)
      | none => (.cut, none)
    | '[' :: rest =>
      match skipSpace rest with
      | ']' :: rest => (.array [] true, some rest)
      | rest =>
        let (drafts, after) := items fuel rest
        (.array drafts after.isSome, after)
    | '\x7b' :: rest =>
      match skipSpace rest with
      | '\x7d' :: rest => (.object [] true, some rest)
      | rest =>
        let (drafts, after) := fields fuel rest
        (.object drafts after.isSome, after)
    | '-' :: rest =>
      match numberAfterSign? true rest with
      | some (draft, rest) => (draft, some rest)
      | none => (.cut, none)
    | rest =>
      match numberAfterSign? false rest with
      | some (draft, rest) => (draft, some rest)
      | none => (.cut, none)

/-- The items in front of a text, and the text behind the closing bracket. -/
def items : Nat → List Char → List Draft × Option (List Char)
  | 0, _ => ([], none)
  | fuel + 1, cs =>
    match value fuel cs with
    | (draft, none) => ([draft], none)
    | (draft, some rest) =>
      match skipSpace rest with
      | ']' :: rest => ([draft], some rest)
      | ',' :: rest =>
        let (drafts, after) := items fuel rest
        (draft :: drafts, after)
      | _ => ([draft], none)

/-- The fields in front of a text, and the text behind the closing brace. -/
def fields : Nat → List Char → List (Draft × Draft) × Option (List Char)
  | 0, _ => ([], none)
  | fuel + 1, cs =>
    match skipSpace cs with
    | '"' :: rest =>
      match stringAfterQuote? rest with
      | none => ([], none)
      | some (name, rest) =>
        let name := ofString? name
        match skipSpace rest with
        | ':' :: rest =>
          match value fuel rest with
          | (draft, none) => ([(name, draft)], none)
          | (draft, some rest) =>
            match skipSpace rest with
            | '\x7d' :: rest => ([(name, draft)], some rest)
            | ',' :: rest =>
              let (drafts, after) := fields fuel rest
              ((name, draft) :: drafts, after)
            | _ => ([(name, draft)], none)
        | _ => ([(name, .cut)], none)
    | rest => ([((value fuel rest).1, .cut)], none)

end

/-- The draft of a text, and whether nothing but space stands behind it. -/
def ofText (text : String) : Draft × Bool :=
  let cs := text.toList
  let (draft, after) := value (2 * cs.length + 2) cs
  match after with
  | some rest => (draft, (skipSpace rest).isEmpty)
  | none => (draft, false)

mutual

/-- Whether the text is JSON as far as the draft goes, when nothing is asked of its strings
and numbers. -/
def isWhole : Draft → Bool
  | .array items closed => allWhole items && closed
  | .object fields closed => allFieldsWhole fields && closed
  | .cut => false
  | _ => true

/-- Every item is whole. -/
def allWhole : List Draft → Bool
  | [] => true
  | d :: ds => isWhole d && allWhole ds

/-- Every field is whole. -/
def allFieldsWhole : List (Draft × Draft) → Bool
  | [] => true
  | (_, d) :: fields => isWhole d && allFieldsWhole fields

end

mutual

/-- The value of a draft of a JSON value that stands within `depth` levels of arrays and
objects of the 127 that are allowed. -/
def toValue? (depth : Nat) : Draft → Option Value
  | .null => some .null
  | .bool b => some (.bool b)
  | .number n => some (.number n)
  | .outOfRange => none
  | .string s => some (.string s)
  | .brokenString => none
  | .array items closed =>
    if 127 ≤ depth ∨ !closed then none else (toValues? (depth + 1) items).map .array
  | .object fields closed =>
    if 127 ≤ depth ∨ !closed then none else (toFields? (depth + 1) fields).map .object
  | .cut => none

/-- The values of items. -/
def toValues? (depth : Nat) : List Draft → Option (List Value)
  | [] => some []
  | d :: ds =>
    match toValue? depth d, toValues? depth ds with
    | some v, some vs => some (v :: vs)
    | _, _ => none

/-- The values of fields. -/
def toFields? (depth : Nat) : List (Draft × Draft) → Option (List (String × Value))
  | [] => some []
  | (.string name, d) :: fields =>
    match toValue? depth d, toFields? depth fields with
    | some v, some vs => some ((name, v) :: vs)
    | _, _ => none
  | _ :: _ => none

end

mutual

/-- The draft of a value. -/
def ofValue : Value → Draft
  | .null => .null
  | .bool b => .bool b
  | .number n => .number n
  | .string s => .string s
  | .array items => .array (ofValues items) true
  | .object fields => .object (ofFields fields) true

/-- The drafts of items. -/
def ofValues : List Value → List Draft
  | [] => []
  | v :: vs => ofValue v :: ofValues vs

/-- The drafts of fields. -/
def ofFields : List (String × Value) → List (Draft × Draft)
  | [] => []
  | (name, v) :: fields => (.string name, ofValue v) :: ofFields fields

end

end Draft

/-- The value of a text that is JSON throughout. -/
def Value.ofText? (text : String) : Option Value :=
  match Draft.ofText text with
  | (draft, true) => draft.toValue? 0
  | (_, false) => none

/-! ### Bytes -/

/-- What stands in a text for bytes that are not UTF-8. Outside of strings it is not JSON, and
neither is it behind a backslash. A string with it has half of a surrogate pair, whatever
stands around it, so that it is broken just as one with such bytes. -/
def illFormed : List Char :=
  '\ufffd' :: "\\udc00\\udc00".toList

/-- The text that is read where these bytes are given. -/
def textOfBytes (bytes : List UInt8) : String :=
  String.ofList (Text.decodeMarking illFormed bytes)

/-- The value of bytes that are JSON throughout. -/
def Value.ofBytes? (bytes : List UInt8) : Option Value :=
  Value.ofText? (textOfBytes bytes)

end JobGraph.Json
