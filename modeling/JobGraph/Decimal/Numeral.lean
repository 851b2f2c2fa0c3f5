/-!
# Decimal numerals

Reading of numerals as floats. `floatOfDecimal` rounds to the nearest float.
`scaledFloat` is the cheaper reading that rounds twice: once for the digits, once for the
power of ten. `floatOfNumeral?` reads a whole numeral with optional sign, point and exponent.
-/

namespace JobGraph

/-- The float nearest to `digits * 10 ^ exponent`. -/
def floatOfDecimal (digits : Nat) (exponent : Int) : Float :=
  let leading := exponent + ((Nat.toDigits 10 digits).length : Int)
  if digits = 0 ∨ leading < -400 then 0.0
  else if 400 < leading then 1.0 / 0.0
  else if exponent < 0 then Float.ofScientific digits true exponent.natAbs
  else Float.ofScientific digits false exponent.natAbs

/-- The float nearest to a power of ten. -/
def tenTo (exponent : Nat) : Float :=
  floatOfDecimal 1 exponent

/-- The float of `digits`, multiplied or divided by a power of ten; absent when the product
leaves the range of floats. Powers beyond the largest float are divided off in two goes. -/
def scaledFloat (digits : Nat) (exponent : Int) : Option Float :=
  let x := Float.ofNat digits
  if digits = 0 then some 0.0
  else if 0 ≤ exponent then
    if 308 < exponent then none
    else
      let y := x * tenTo exponent.toNat
      if y.isInf then none else some y
  else if -308 ≤ exponent then some (x / tenTo exponent.natAbs)
  else if exponent < -616 then some 0.0
  else some (x / tenTo 308 / tenTo (exponent.natAbs - 308))

/-- The value of a list of decimal digits. -/
def digitsValue (cs : List Char) : Nat :=
  cs.foldl (fun n c => 10 * n + (c.toNat - '0'.toNat)) 0

/-- The rest of a list behind a sign, with whether the sign is a minus. -/
def takeSign : List Char → Bool × List Char
  | '-' :: cs => (true, cs)
  | '+' :: cs => (false, cs)
  | cs => (false, cs)

/-- The exponent at the end of a numeral: nothing, or `e` with a sign and digits. -/
def exponentOfNumeral? : List Char → Option Int
  | [] => some 0
  | c :: cs =>
    if c = 'e' ∨ c = 'E' then
      let (negative, digits) := takeSign cs
      if digits.isEmpty || !digits.all Char.isDigit then none
      else
        -- an exponent of more than nine digits is out of range whatever its value
        let size := if 9 < (digits.dropWhile (· == '0')).length then 1000000000
          else digitsValue digits
        some (if negative then -(size : Int) else size)
    else none

/-- The float of a whole numeral: an optional sign, digits with at most one point and at
least one digit, and an optional exponent. -/
def floatOfNumeral? (s : String) : Option Float :=
  let (negative, body) := takeSign s.toList
  let whole := body.takeWhile Char.isDigit
  let (fraction, tail) :=
    match body.dropWhile Char.isDigit with
    | '.' :: cs => (cs.takeWhile Char.isDigit, cs.dropWhile Char.isDigit)
    | cs => ([], cs)
  if whole.isEmpty && fraction.isEmpty then none
  else
    match exponentOfNumeral? tail with
    | none => none
    | some exponent =>
      let x := floatOfDecimal (digitsValue (whole ++ fraction)) (exponent - fraction.length)
      some (if negative then -x else x)

end JobGraph
