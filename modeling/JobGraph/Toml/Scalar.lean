import JobGraph.Decimal.Numeral
import JobGraph.Toml.Text

/-!
# Numbers, dates and times of TOML

An integer is decimal, hexadecimal, octal or binary and has 64 bits. Underscores may stand
between digits. A date, a time, and both together are told from numbers by what follows their
first digits.
-/

namespace JobGraph.Toml

/-- The digits that continue a number. An underscore has to be followed by one. -/
def moreDigits? (isDigit : Char → Bool) : Parser (List Char)
  | [] => some ([], [])
  | ['_'] => none
  | '_' :: d :: rest =>
    if isDigit d then (moreDigits? isDigit rest).map fun (cs, rest) => (d :: cs, rest) else none
  | d :: rest =>
    if isDigit d then (moreDigits? isDigit rest).map fun (cs, rest) => (d :: cs, rest)
    else some ([], d :: rest)

/-- Digits, with single underscores between them. -/
def digits? (isDigit : Char → Bool) : Parser (List Char)
  | c :: rest =>
    if isDigit c then (moreDigits? isDigit rest).map fun (cs, rest) => (c :: cs, rest) else none
  | [] => none

/-- The value of digits of any base up to sixteen. -/
def valueOf (base : Nat) (cs : List Char) : Nat :=
  cs.foldl (fun n c => base * n + (Json.Draft.hexValue? c).getD 0) 0

/-- An integer of 64 bits. -/
def word? (i : Int) : Option Value :=
  if -(Nat.pow 2 63 : Int) ≤ i ∧ i < (Nat.pow 2 63 : Int) then some (.integer i) else none

/-- An integer to the base that the letter behind a zero stands for. -/
def based? (base : Nat) (cs : List Char) : Option (Value × List Char) := do
  let isDigit (c : Char) : Bool := (Json.Draft.hexValue? c).any (· < base)
  let (digits, rest) ← digits? isDigit cs
  return (← word? (valueOf base digits), rest)

/-- The whole part of a decimal number, which a zero only starts when it is all of it. -/
def whole? : Parser (List Char)
  | '0' :: rest => some (['0'], rest)
  | cs => digits? Char.isDigit cs

/-- The exponent of a float, if there is one. -/
def exponent? : Parser (List Char)
  | c :: rest =>
    if c = 'e' ∨ c = 'E' then
      let (sign, rest) := match rest with
        | '-' :: rest => (['-'], rest)
        | '+' :: rest => ([], rest)
        | rest => ([], rest)
      (digits? Char.isDigit rest).map fun (cs, rest) => ('e' :: sign ++ cs, rest)
    else some ([], c :: rest)
  | [] => some ([], [])

/-- A float with these digits, which must not be too large. A negative one may be. -/
def float? (negative : Bool) (cs : List Char) : Option Value :=
  (floatOfNumeral? (String.ofList cs)).bind fun x =>
    if x.isInf && !negative then none else some .float

/-- A decimal number behind its sign. -/
def decimal? (negative : Bool) (cs : List Char) : Option (Value × List Char) := do
  let (whole, rest) ← whole? cs
  match rest with
  | '.' :: rest =>
    let (fraction, rest) ← digits? Char.isDigit rest
    let (exponent, rest) ← exponent? rest
    return (← float? negative (whole ++ '.' :: fraction ++ exponent), rest)
  | rest =>
    let (exponent, rest) ← exponent? rest
    if exponent.isEmpty then
      let size := valueOf 10 whole
      return (← word? (if negative then -(size : Int) else size), rest)
    else return (← float? negative (whole ++ exponent), rest)

/-- A number, or one of the words for infinity and for what is no number. -/
def number? : Parser Value
  | '0' :: 'x' :: rest => based? 16 rest
  | '0' :: 'o' :: rest => based? 8 rest
  | '0' :: 'b' :: rest => based? 2 rest
  | cs =>
    let (negative, cs) := takeSign cs
    match cs with
    | 'i' :: 'n' :: 'f' :: rest => some (.float, rest)
    | 'n' :: 'a' :: 'n' :: rest => some (.float, rest)
    | cs => decimal? negative cs

/-! ### Dates and times -/

/-- A number of exactly `width` digits between two bounds. -/
def field? (width low high : Nat) (cs : List Char) : Option (Nat × List Char) :=
  let digits := cs.take width
  if digits.length = width ∧ digits.all Char.isDigit then
    let n := digitsValue digits
    if low ≤ n ∧ n ≤ high then some (n, cs.drop width) else none
  else none

/-- The text behind a character that must come first. -/
def expect? (c : Char) : List Char → Option (List Char)
  | d :: rest => if c = d then some rest else none
  | [] => none

/-- The number of days of a month. -/
def daysOf (year month : Nat) : Nat :=
  if month = 2 then
    if year % 4 = 0 ∧ (year % 100 ≠ 0 ∨ year % 400 = 0) then 29 else 28
  else if month = 4 ∨ month = 6 ∨ month = 9 ∨ month = 11 then 30
  else 31

/-- The text behind a date. -/
def date? (cs : List Char) : Option (List Char) := do
  let (year, rest) ← field? 4 0 9999 cs
  let (month, rest) ← field? 2 1 12 (← expect? '-' rest)
  let (_, rest) ← field? 2 1 (daysOf year month) (← expect? '-' rest)
  return rest

/-- The text behind a time of the day. -/
def time? (cs : List Char) : Option (List Char) := do
  let (_, rest) ← field? 2 0 23 cs
  let (_, rest) ← field? 2 0 59 (← expect? ':' rest)
  let (_, rest) ← field? 2 0 60 (← expect? ':' rest)
  match rest with
  | '.' :: fraction =>
    if fraction.head?.any Char.isDigit then return fraction.dropWhile Char.isDigit else none
  | rest => return rest

/-- The text behind a difference to universal time, if there is one. -/
def offset? : List Char → Option (List Char)
  | 'Z' :: rest => some rest
  | 'z' :: rest => some rest
  | '+' :: rest => hours rest
  | '-' :: rest => hours rest
  | rest => some rest
where
  /-- The text behind hours and minutes. -/
  hours (cs : List Char) : Option (List Char) := do
    let (_, rest) ← field? 2 0 23 cs
    let (_, rest) ← field? 2 0 59 (← expect? ':' rest)
    return rest

/-- The text behind a date and the time that may follow it. -/
def dateTime? (cs : List Char) : Option (List Char) := do
  match ← date? cs with
  | 'T' :: rest => offset? (← time? rest)
  | 't' :: rest => offset? (← time? rest)
  | ' ' :: c :: rest => if c.isDigit then offset? (← time? (c :: rest)) else return ' ' :: c :: rest
  | rest => return rest

/-- A number, a date or a time. -/
def numeric? (cs : List Char) : Option (Value × List Char) :=
  let digits := cs.takeWhile Char.isDigit
  let after := (cs.drop digits.length).head?
  if digits.length = 4 ∧ after = some '-' then (dateTime? cs).map (Value.datetime, ·)
  else if digits.length = 2 ∧ after = some ':' then (time? cs).map (Value.datetime, ·)
  else number? cs

end JobGraph.Toml
